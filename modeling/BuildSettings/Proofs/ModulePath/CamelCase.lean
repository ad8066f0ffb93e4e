/-
# Camel case

The words of a segment are run together: the first word as it is, and every later word with
the upper case of its first character in place of that character. A character may have more
than one character for its upper case. The only thing that matters about it here is that it
brings no word breaks in. Then the result holds none, so it is one word itself, or empty,
and nothing changes when its words are run together once more.
-/

import BuildSettings.Proofs.ModulePath.Words
import BuildSettings.Proofs.Text.UpperCase

namespace BuildSettings.ModulePath

/-- The upper case of a character that is no word break holds no word breaks. -/
def AddsNoBreak (upper : Char → List Char) : Prop :=
  ∀ c, isWordBreak c = false → ∀ d ∈ upper c, isWordBreak d = false

/-- Words stand one behind the other, each with its first character replaced by the upper
case of that character. -/
inductive Capitalizes (upper : Char → List Char) : List (List Char) → List Char → Prop
  | nil : Capitalizes upper [] []
  | cons (c rest) {later shown} : Capitalizes upper later shown →
      Capitalizes upper ((c :: rest) :: later) (upper c ++ rest ++ shown)

/-- Words are run together: the first one is kept, and the later ones are capitalized. -/
inductive RunsTogether (upper : Char → List Char) : List (List Char) → List Char → Prop
  | nil : RunsTogether upper [] []
  | cons (first) {later shown} : Capitalizes upper later shown →
      RunsTogether upper (first :: later) (first ++ shown)

/-- The text is what the words of a segment are when they are run together. -/
def IsCamelCase (upper : Char → List Char) (segment shown : List Char) : Prop :=
  ∃ found, AreWords segment found ∧ RunsTogether upper found shown

variable {upper : Char → List Char} {segment shown shown' again : List Char}
  {found : List (List Char)} {c : Char}

/-! ## Camel case under any upper case -/

theorem Capitalizes.unique (h : Capitalizes upper found shown)
    (h' : Capitalizes upper found shown') : shown = shown' := by
  induction h generalizing shown' with
  | nil =>
      cases h'
      rfl
  | cons c rest _ ih =>
      cases h' with
      | cons c rest hlater => rw [ih hlater]

/-- A segment has one camel case at most. -/
theorem IsCamelCase.unique (h : IsCamelCase upper segment shown)
    (h' : IsCamelCase upper segment shown') : shown = shown' := by
  obtain ⟨found, hfound, hshown⟩ := h
  obtain ⟨found', hfound', hshown'⟩ := h'
  obtain rfl : found = found' := hfound.eq_words.trans hfound'.eq_words.symm
  cases hshown with
  | nil =>
      cases hshown'
      rfl
  | cons first hlater =>
      cases hshown' with
      | cons first hlater' => rw [hlater.unique hlater']

theorem Capitalizes.not_break (hupper : AddsNoBreak upper) (h : Capitalizes upper found shown)
    (hfound : ∀ word ∈ found, ∀ c ∈ word, isWordBreak c = false) :
    ∀ c ∈ shown, isWordBreak c = false := by
  induction h with
  | nil => exact List.forall_mem_nil _
  | cons c rest _ ih =>
      obtain ⟨hword, hlater⟩ := List.forall_mem_cons.mp hfound
      obtain ⟨hc, hrest⟩ := List.forall_mem_cons.mp hword
      rw [List.forall_mem_append, List.forall_mem_append]
      exact ⟨⟨hupper c hc, hrest⟩, ih hlater⟩

/-- Words that are run together hold no breaks. -/
theorem IsCamelCase.not_break (hupper : AddsNoBreak upper) (h : IsCamelCase upper segment shown) :
    ∀ c ∈ shown, isWordBreak c = false := by
  obtain ⟨found, hfound, hshown⟩ := h
  have hwords : ∀ word ∈ found, ∀ c ∈ word, isWordBreak c = false :=
    fun word hword => (hfound.forall_mem word hword).2
  cases hshown with
  | nil => exact List.forall_mem_nil _
  | cons first hlater =>
      obtain ⟨hfirst, hrest⟩ := List.forall_mem_cons.mp hwords
      exact List.forall_mem_append.mpr ⟨hfirst, hlater.not_break hupper hrest⟩

/-- A text without breaks is its own camel case, since it has no words but itself. -/
theorem isCamelCase_self (h : ∀ c ∈ shown, isWordBreak c = false) :
    IsCamelCase upper shown shown := by
  by_cases hnil : shown = []
  · rw [hnil]
    exact ⟨[], .gap (List.forall_mem_nil _), .nil⟩
  · have hwords : AreWords shown [shown] := areWords_iff.mpr (words_eq_singleton hnil h).symm
    have hshown : RunsTogether upper [shown] (shown ++ []) := .cons shown .nil
    rw [List.append_nil] at hshown
    exact ⟨[shown], hwords, hshown⟩

/-- The camel case of a camel case is the same text. -/
theorem IsCamelCase.idem (hupper : AddsNoBreak upper) (h : IsCamelCase upper segment shown)
    (hagain : IsCamelCase upper shown again) : again = shown :=
  hagain.unique (isCamelCase_self (h.not_break hupper))

/-! ## Camel case of segments -/

theorem isWordBreak_eq_false_iff :
    isWordBreak c = false ↔ c ≠ '-' ∧ c ≠ '_' ∧ c ≠ ' ' := by
  simp [isWordBreak, and_assoc]

/-- Word breaks have no case. -/
theorem isCaseless_of_isWordBreak (h : isWordBreak c = true) : Text.isCaseless c = true := by
  simp only [isWordBreak, Bool.or_eq_true, beq_iff_eq] at h
  rcases h with (rfl | rfl) | rfl <;> decide

/-- Since word breaks have no case, no other character has one of them in its upper case. -/
theorem addsNoBreak_upperCase : AddsNoBreak Text.upperCase := by
  intro c hc d hd
  by_contra hbreak
  rw [Bool.not_eq_false] at hbreak
  have hcd : c = d := (Text.mem_upperCase_iff (isCaseless_of_isWordBreak hbreak)).mp hd
  rw [hcd, hbreak] at hc
  cases hc

theorem capitalizes_flatMap_capitalize (h : ∀ word ∈ found, word ≠ []) :
    Capitalizes Text.upperCase found (found.flatMap capitalize) := by
  induction found with
  | nil => exact .nil
  | cons word later ih =>
      obtain ⟨hword, hlater⟩ := List.forall_mem_cons.mp h
      cases word with
      | nil => exact absurd rfl hword
      | cons c rest => exact .cons c rest (ih hlater)

/-- The words of a segment are run together. -/
theorem isCamelCase_camelCase (segment : List Char) :
    IsCamelCase Text.upperCase segment (camelCase segment) := by
  have hwords : AreWords segment (words segment) := areWords_iff.mpr rfl
  refine ⟨words segment, hwords, ?_⟩
  have hne : ∀ word ∈ words segment, word ≠ [] := fun word hword => (hwords.forall_mem word hword).1
  rw [camelCase]
  cases hfound : words segment with
  | nil => exact .nil
  | cons first later =>
      rw [hfound] at hne
      exact .cons first (capitalizes_flatMap_capitalize (List.forall_mem_cons.mp hne).2)

/-- Running the words of a segment together, the first one as it is and each later one with its
first character in upper case, gives the camel case of the segment and nothing else. There are
no word breaks in it, and it is its own camel case. -/
theorem camelCase_runs_words_together (segment : List Char) :
    (∀ shown, IsCamelCase Text.upperCase segment shown ↔ shown = camelCase segment) ∧
      (∀ c ∈ camelCase segment, c ≠ '-' ∧ c ≠ '_' ∧ c ≠ ' ') ∧
        camelCase (camelCase segment) = camelCase segment := by
  have hcamel := isCamelCase_camelCase segment
  refine ⟨fun shown => ⟨fun h => h.unique hcamel, ?_⟩, ?_, ?_⟩
  · rintro rfl
    exact hcamel
  · intro c hc
    exact isWordBreak_eq_false_iff.mp (hcamel.not_break addsNoBreak_upperCase c hc)
  · exact hcamel.idem addsNoBreak_upperCase (isCamelCase_camelCase _)

/-- Breaks in front do not make the first word begin in upper case. -/
example :
    camelCase ['-', '_', 'a', 'b', ' ', '-', 'ß', 'c', '-'] = ['a', 'b', 'S', 'S', 'c'] := by
  decide

end BuildSettings.ModulePath
