/-
# Words of segments

The words of a segment are what is left of it when it is cut at its word breaks. How many
breaks there are between two words, which ones they are, and whether there are some in
front or at the end has no influence. An accessor is made of the words alone, so two paths
have one accessor when their segments have the same words.
-/

import Mathlib.Data.List.Forall2
import BuildSettings.ModulePath

namespace BuildSettings.ModulePath

/-- These are the words of a text in their order. A word is a run of characters that are no
breaks; it is not empty, and it is as long as can be, since a break or the end of the text
comes behind it. Between the words there are breaks only. -/
inductive AreWords : List Char → List (List Char) → Prop
  | gap {gap} : (∀ c ∈ gap, isWordBreak c = true) → AreWords gap []
  | word (gap word rest) {later} : (∀ c ∈ gap, isWordBreak c = true) → word ≠ [] →
      (∀ c ∈ word, isWordBreak c = false) →
        (∀ c, rest.head? = some c → isWordBreak c = true) → AreWords rest later →
          AreWords (gap ++ word ++ rest) (word :: later)

/-- Two paths have as many segments, and each segment of one has the words of the segment
of the other. -/
def SameWords (path other : ModulePath) : Prop :=
  List.Forall₂ (fun segment segment' =>
    ∃ words, AreWords segment.toList words ∧ AreWords segment'.toList words)
    path.segments other.segments

/-! ## Cutting at breaks -/

variable {cs rest gap word : List Char} {found : List (List Char)} {c : Char}
  {path other : ModulePath}

/-- At a break a text is cut into its words. -/
theorem words_append_cons_of_break (hc : isWordBreak c = true) (before after : List Char) :
    words (before ++ c :: after) = words before ++ words after := by
  rw [words, List.splitOnP_append_cons before after hc, List.filter_append, ← words, ← words]

theorem words_cons_of_break (hc : isWordBreak c = true) (cs : List Char) :
    words (c :: cs) = words cs :=
  words_append_cons_of_break hc [] cs

/-- Breaks in front belong to no word. -/
theorem words_gap_append (hgap : ∀ c ∈ gap, isWordBreak c = true) (cs : List Char) :
    words (gap ++ cs) = words cs := by
  induction gap with
  | nil => rfl
  | cons c rest ih =>
      obtain ⟨hc, hrest⟩ := List.forall_mem_cons.mp hgap
      rw [List.cons_append, words_cons_of_break hc, ih hrest]

theorem words_eq_nil (hgap : ∀ c ∈ gap, isWordBreak c = true) : words gap = [] := by
  have h := words_gap_append hgap []
  rwa [List.append_nil] at h

theorem words_eq_singleton (hne : word ≠ []) (hword : ∀ c ∈ word, isWordBreak c = false) :
    words word = [word] := by
  rw [words, List.splitOnP_eq_singleton hword]
  simp [hne]

/-- A run of other characters up to a break is the first word. -/
theorem words_word_append (hne : word ≠ []) (hword : ∀ c ∈ word, isWordBreak c = false)
    (hrest : ∀ c, rest.head? = some c → isWordBreak c = true) :
    words (word ++ rest) = word :: words rest := by
  cases rest with
  | nil =>
      rw [List.append_nil, words_eq_singleton hne hword]
      rfl
  | cons c rest =>
      have hc := hrest c rfl
      rw [words_append_cons_of_break hc, words_eq_singleton hne hword, words_cons_of_break hc]
      rfl

/-- The words that are found are those of the text. -/
theorem AreWords.eq_words (h : AreWords cs found) : found = words cs := by
  induction h with
  | gap hgap => exact (words_eq_nil hgap).symm
  | word gap word rest hgap hne hword hrest _ ih =>
      rw [List.append_assoc, words_gap_append hgap, words_word_append hne hword hrest, ih]

/-- A break in front changes no words. -/
theorem AreWords.cons_of_break (hc : isWordBreak c = true) (h : AreWords cs found) :
    AreWords (c :: cs) found := by
  cases h with
  | gap hgap => exact .gap (List.forall_mem_cons.mpr ⟨hc, hgap⟩)
  | word gap word rest hgap hne hword hrest hlater =>
      exact .word (c :: gap) word rest (List.forall_mem_cons.mpr ⟨hc, hgap⟩) hne hword hrest hlater

/-- Another character in front of a break, or at the end, is a word of its own. -/
theorem AreWords.cons_of_not_break (hc : isWordBreak c = false)
    (hhead : ∀ d, cs.head? = some d → isWordBreak d = true) (h : AreWords cs found) :
    AreWords (c :: cs) ([c] :: found) :=
  .word [] [c] cs (List.forall_mem_nil _) (List.cons_ne_nil _ _)
    (List.forall_mem_singleton.mpr hc) hhead h

/-- Every text has words. A character in front of a text is one more break, or a word of its
own, or it makes the first word longer. -/
theorem exists_areWords (cs : List Char) : ∃ found, AreWords cs found := by
  induction cs with
  | nil => exact ⟨[], .gap (List.forall_mem_nil _)⟩
  | cons c cs ih =>
      obtain ⟨found, h⟩ := ih
      cases hc : isWordBreak c with
      | true => exact ⟨found, h.cons_of_break hc⟩
      | false =>
          have hfound := h
          cases h with
          | gap hgap =>
              exact ⟨_, hfound.cons_of_not_break hc fun d hd => hgap d (List.mem_of_head? hd)⟩
          | word gap word rest hgap hne hword hrest hlater =>
              cases gap with
              | nil =>
                  exact ⟨_, .word [] (c :: word) rest (List.forall_mem_nil _)
                    (List.cons_ne_nil _ _) (List.forall_mem_cons.mpr ⟨hc, hword⟩) hrest hlater⟩
              | cons b gap =>
                  refine ⟨_, hfound.cons_of_not_break hc ?_⟩
                  intro d hd
                  obtain rfl := Option.some.inj hd
                  exact hgap _ List.mem_cons_self

/-- Every text has its words, and no others. -/
theorem areWords_iff : AreWords cs found ↔ found = words cs := by
  apply Iff.intro
  · exact AreWords.eq_words
  · rintro rfl
    obtain ⟨found, h⟩ := exists_areWords cs
    rwa [← h.eq_words]

/-- A word is not empty and holds no break. -/
theorem AreWords.forall_mem (h : AreWords cs found) :
    ∀ word ∈ found, word ≠ [] ∧ ∀ c ∈ word, isWordBreak c = false := by
  induction h with
  | gap => exact List.forall_mem_nil _
  | word gap word rest _ hne hword _ _ ih => exact List.forall_mem_cons.mpr ⟨⟨hne, hword⟩, ih⟩

/-! ## Accessors of paths with the same words -/

theorem sameWords_iff :
    path.SameWords other ↔
      path.segments.map (words ·.toList) = other.segments.map (words ·.toList) := by
  rw [SameWords, ← List.forall₂_eq_eq_eq, List.forall₂_map_left_iff, List.forall₂_map_right_iff]
  simp only [areWords_iff, exists_eq_left]

instance (path other : ModulePath) : Decidable (path.SameWords other) :=
  decidable_of_iff _ sameWords_iff.symm

/-- A segment is run together from its words. -/
theorem camelCase_congr {other : List Char} (h : words cs = words other) :
    camelCase cs = camelCase other := by
  rw [camelCase, camelCase, h]

/-- Paths whose segments have the same words have the same accessor. -/
theorem SameWords.accessor_eq (h : path.SameWords other) : path.accessor = other.accessor := by
  rw [SameWords] at h
  have hparts : path.segments.map (fun segment => String.ofList (camelCase segment.toList)) =
      other.segments.map fun segment => String.ofList (camelCase segment.toList) := by
    rw [← List.forall₂_eq_eq_eq, List.forall₂_map_left_iff, List.forall₂_map_right_iff]
    refine h.imp ?_
    rintro segment segment' ⟨found, hfound, hfound'⟩
    rw [camelCase_congr (hfound.eq_words.symm.trans hfound'.eq_words)]
  rw [accessor, accessor, hparts]

end BuildSettings.ModulePath
