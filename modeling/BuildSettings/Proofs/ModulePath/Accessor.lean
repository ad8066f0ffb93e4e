/-
# The parts of an accessor

An accessor has dots between its segments, so one expects it to have a part for each of
them. A segment may hold dots itself, however, and these are kept: the accessor has a part
for each piece of a segment between dots. What such a part is made of are the characters of
the piece that are no word breaks, as they are or in upper case. No such character is lost,
so a part is empty just when its piece consists of breaks.
-/

import BuildSettings.Proofs.ModulePath.Words
import BuildSettings.Proofs.Text.Pieces
import BuildSettings.Proofs.Text.UpperCase

namespace BuildSettings.ModulePath

/-- A text is shown without its word breaks. The other characters are shown in their order,
each as it is or in upper case. -/
inductive Shows : List Char → List Char → Prop
  | nil : Shows [] []
  | skip {c cs shown} : isWordBreak c = true → Shows cs shown → Shows (c :: cs) shown
  | keep {c} (begun) {cs shown} : isWordBreak c = false →
      begun = [c] ∨ begun = Text.upperCase c → Shows cs shown → Shows (c :: cs) (begun ++ shown)

/-- The pieces of the segments of a path between dots. -/
def dotPieces (path : ModulePath) : List (List Char) :=
  path.segments.flatMap fun segment => segment.toList.splitOn '.'

/-- The number of dots in the segments of a path. -/
def dotCount (path : ModulePath) : Nat :=
  (path.segments.flatMap String.toList).count '.'

/-- A part of an accessor stands for a piece: it shows the piece, and is empty just when the
piece is made of word breaks. -/
structure IsPartOf (part piece : List Char) : Prop where
  shown : Shows piece part
  eq_nil_iff : part = [] ↔ ∀ c ∈ piece, isWordBreak c = true

variable {cs shown others shown' gap word : List Char} {found : List (List Char)} {c : Char}
  {path : ModulePath}

/-! ## What is shown of a segment -/

theorem Shows.append (h : Shows cs shown) (h' : Shows others shown') :
    Shows (cs ++ others) (shown ++ shown') := by
  induction h with
  | nil => exact h'
  | skip hc _ ih => exact .skip hc ih
  | keep begun hc hbegun _ ih =>
      rw [List.append_assoc]
      exact .keep begun hc hbegun ih

theorem shows_gap (hgap : ∀ c ∈ gap, isWordBreak c = true) : Shows gap [] := by
  induction gap with
  | nil => exact .nil
  | cons c gap ih =>
      obtain ⟨hc, hgap⟩ := List.forall_mem_cons.mp hgap
      exact .skip hc (ih hgap)

theorem shows_word (hword : ∀ c ∈ word, isWordBreak c = false) : Shows word word := by
  induction word with
  | nil => exact .nil
  | cons c word ih =>
      obtain ⟨hc, hword⟩ := List.forall_mem_cons.mp hword
      exact .keep [c] hc (.inl rfl) (ih hword)

theorem shows_capitalize (hword : ∀ c ∈ word, isWordBreak c = false) :
    Shows word (capitalize word) := by
  cases word with
  | nil => exact .nil
  | cons c word =>
      obtain ⟨hc, hword⟩ := List.forall_mem_cons.mp hword
      exact .keep _ hc (.inr rfl) (shows_word hword)

/-- Capitalized words show the text that they are the words of. -/
theorem AreWords.shows_flatMap_capitalize (h : AreWords cs found) :
    Shows cs (found.flatMap capitalize) := by
  induction h with
  | gap hgap => exact shows_gap hgap
  | word gap word rest hgap _ hword _ _ ih =>
      exact ((shows_gap hgap).append (shows_capitalize hword)).append ih

/-- Words that are run together show the segment. -/
theorem shows_camelCase (cs : List Char) : Shows cs (camelCase cs) := by
  rw [camelCase]
  have h := areWords_iff.mpr (rfl : words cs = words cs)
  generalize words cs = found at h
  cases h with
  | gap hgap => exact shows_gap hgap
  | word gap word rest hgap _ hword _ hlater =>
      exact ((shows_gap hgap).append (shows_word hword)).append hlater.shows_flatMap_capitalize

/-! ## Pieces between dots -/

/-- What stands for a character holds a dot only if the character is one, and then it is that
dot. -/
theorem keep_cases {begun : List Char} (hbegun : begun = [c] ∨ begun = Text.upperCase c) :
    c = '.' ∧ begun = ['.'] ∨ c ≠ '.' ∧ '.' ∉ begun := by
  by_cases hdot : c = '.'
  · subst hdot
    exact .inl ⟨rfl, hbegun.elim id (·.trans (Text.upperCase_of_isCaseless Text.isCaseless_dot))⟩
  · refine .inr ⟨hdot, ?_⟩
    rcases hbegun with rfl | rfl
    · simpa using Ne.symm hdot
    · exact mt (Text.mem_upperCase_iff Text.isCaseless_dot).mp hdot

/-- Nothing is shown of a text just when it is made of word breaks. -/
theorem Shows.eq_nil_iff (h : Shows cs shown) :
    shown = [] ↔ ∀ c ∈ cs, isWordBreak c = true := by
  induction h with
  | nil => simp
  | skip hc _ ih => rw [ih, List.forall_mem_cons, and_iff_right hc]
  | @keep c begun cs shown hc hbegun _ _ =>
      have hne : begun ≠ [] := by
        rcases hbegun with rfl | rfl
        · exact List.cons_ne_nil _ _
        · exact Text.upperCase_ne_nil c
      simp [hne, hc]

theorem Shows.isPartOf (h : Shows cs shown) : IsPartOf shown cs :=
  ⟨h, h.eq_nil_iff⟩

/-- Between dots, what is shown of a text shows the pieces of the text one by one. -/
theorem Shows.forall₂_splitOn (h : Shows cs shown) :
    List.Forall₂ Shows (cs.splitOn '.') (shown.splitOn '.') := by
  induction h with
  | nil => exact .cons .nil .nil
  | @skip c cs shown hc _ ih =>
      have hdot : (c == '.') = false := by
        rw [beq_eq_false_iff_ne]
        rintro rfl
        cases hc
      rw [List.splitOn_cons_eq_if_modifyHead, hdot]
      generalize shown.splitOn '.' = parts, cs.splitOn '.' = pieces at ih
      cases ih with
      | nil => exact .nil
      | cons hpart hparts => exact .cons (.skip hc hpart) hparts
  | @keep c begun cs shown hc hbegun _ ih =>
      rcases keep_cases hbegun with ⟨rfl, rfl⟩ | ⟨hdot, hfree⟩
      · exact .cons .nil ih
      · rw [Text.splitOn_append_of_not_mem hfree, List.splitOn_cons_eq_if_modifyHead,
          beq_eq_false_iff_ne.mpr hdot]
        generalize shown.splitOn '.' = parts, cs.splitOn '.' = pieces at ih
        cases ih with
        | nil => exact .nil
        | cons hpart hparts => exact .cons (.keep begun hc hbegun hpart) hparts

/-! ## The parts of an accessor -/

theorem toList_accessor (path : ModulePath) :
    path.accessor.toList =
      ['.'].intercalate (path.segments.map fun segment => camelCase segment.toList) := by
  rw [accessor, String.toList_intercalate, List.map_map]
  simp [Function.comp_def]

/-- Between dots, an accessor has a part for each piece of the segments between dots. -/
theorem forall₂_isPartOf_accessor (path : ModulePath) :
    List.Forall₂ IsPartOf (path.accessor.toList.splitOn '.') path.dotPieces := by
  have hne : path.segments.map (fun segment => camelCase segment.toList) ≠ [] := by
    simpa using path.segments_ne_nil
  rw [toList_accessor, Text.splitOn_intercalate hne, dotPieces, List.flatMap_map]
  induction path.segments with
  | nil => exact .nil
  | cons segment rest ih =>
      rw [List.flatMap_cons, List.flatMap_cons]
      have hsegment := (shows_camelCase segment.toList).forall₂_splitOn
      exact List.rel_append (hsegment.flip.imp fun _ _ hshows => hshows.isPartOf) ih

/-- There is a piece for each segment, and one more for each dot. -/
theorem length_dotPieces (path : ModulePath) :
    path.dotPieces.length = path.segments.length + path.dotCount := by
  rw [dotPieces, dotCount]
  induction path.segments with
  | nil => rfl
  | cons segment rest ih =>
      rw [List.flatMap_cons, List.flatMap_cons, List.length_append, List.count_append, ih,
        Text.length_splitOn, List.length_cons]
      omega

theorem dotCount_eq_zero_iff :
    path.dotCount = 0 ↔ ∀ segment ∈ path.segments, '.' ∉ segment.toList := by
  rw [dotCount, List.count_eq_zero, List.mem_flatMap]
  simp only [not_exists, not_and]

/-- Without dots the pieces are the segments. -/
theorem dotPieces_eq_map (h : ∀ segment ∈ path.segments, '.' ∉ segment.toList) :
    path.dotPieces = path.segments.map String.toList := by
  rw [dotPieces, List.map_eq_flatMap]
  apply List.flatMap_congr
  intro segment hsegment
  exact List.splitOn_eq_singleton (h segment hsegment)

/-- No part is empty when every piece has something other than word breaks. -/
theorem forall_ne_nil_iff {parts pieces : List (List Char)}
    (h : List.Forall₂ IsPartOf parts pieces) :
    (∀ part ∈ parts, part ≠ []) ↔ ∀ piece ∈ pieces, ∃ c ∈ piece, isWordBreak c = false := by
  induction h with
  | nil => simp
  | @cons part piece parts pieces hpart _ ih =>
      have hne : part ≠ [] ↔ ∃ c ∈ piece, isWordBreak c = false := by
        simp [hpart.eq_nil_iff]
      rw [List.forall_mem_cons, List.forall_mem_cons, hne, ih]

/-- The parts of an accessor are as many as the segments, and none of them is empty, exactly
when no segment has a dot and every segment has something other than word breaks. -/
theorem accessor_parts_fit_iff (path : ModulePath) :
    ((path.accessor.toList.splitOn '.').length = path.segments.length ∧
        ∀ part ∈ path.accessor.toList.splitOn '.', part ≠ []) ↔
      ∀ segment ∈ path.segments,
        '.' ∉ segment.toList ∧ ∃ c ∈ segment.toList, isWordBreak c = false := by
  have hparts := path.forall₂_isPartOf_accessor
  have hlength : (path.accessor.toList.splitOn '.').length = path.segments.length ↔
      ∀ segment ∈ path.segments, '.' ∉ segment.toList := by
    rw [hparts.length_eq, length_dotPieces, Nat.add_eq_left, dotCount_eq_zero_iff]
  rw [hlength, forall_ne_nil_iff hparts, forall₂_and]
  apply and_congr_right
  intro hdots
  rw [dotPieces_eq_map hdots, List.forall_mem_map]

end BuildSettings.ModulePath
