/-
# Pieces between separators

Splitting is described by its result: pieces that give the text back when they
are joined, none of which holds the separator. Every text has exactly one such
list of pieces, so joining and splitting undo each other on lists of pieces that
are free of the separator.
-/

import Mathlib.Data.List.Forall2
import BuildSettings.ModulePath

namespace BuildSettings.Text

/-- The pieces of a text between its separators. -/
structure ArePieces (sep : Char) (cs : List Char) (pieces : List (List Char)) : Prop where
  ne_nil : pieces ≠ []
  joined : [sep].intercalate pieces = cs
  not_mem : ∀ piece ∈ pieces, sep ∉ piece

/-- Splitting a text gives its pieces, and there are no others. -/
theorem arePieces_iff {sep : Char} {cs : List Char} {pieces : List (List Char)} :
    ArePieces sep cs pieces ↔ pieces = cs.splitOn sep := by
  apply Iff.intro
  · intro h
    rcases h with ⟨hne, rfl, hfree⟩
    exact (List.splitOn_intercalate sep hfree hne).symm
  · intro heq
    subst heq
    refine ⟨List.splitOn_ne_nil sep cs, List.intercalate_splitOn sep, ?_⟩
    intro piece hpiece
    exact ModulePath.not_mem_of_mem_splitOn hpiece

/-- The first separator of a text is in one place only. -/
theorem append_separator_inj {sep : Char} {before before' after after' : List Char}
    (h : sep ∉ before) (h' : sep ∉ before') :
    before ++ sep :: after = before' ++ sep :: after' ↔ before = before' ∧ after = after' := by
  induction before generalizing before' with
  | nil =>
      cases before' with
      | nil => simp
      | cons c rest =>
          have hne : sep ≠ c := fun heq => h' (heq ▸ List.mem_cons_self)
          simp [hne]
  | cons c rest ih =>
      have hne : c ≠ sep := fun heq => h (heq ▸ List.mem_cons_self)
      cases before' with
      | nil => simp [hne]
      | cons d rest' =>
          simp only [List.cons_append, List.cons.injEq,
            ih (List.not_mem_of_not_mem_cons h) (List.not_mem_of_not_mem_cons h'), and_assoc]

/-- A text has one piece more than it has separators. -/
theorem length_splitOn (sep : Char) (cs : List Char) :
    (cs.splitOn sep).length = cs.count sep + 1 := by
  induction cs with
  | nil => rfl
  | cons c cs ih =>
      rw [List.splitOn_cons_eq_if_modifyHead, List.count_cons]
      split
      · rw [List.length_cons, ih]
      · rw [List.length_modifyHead, ih, Nat.add_zero]

/-- Text in front of another goes to its first piece, if it holds no separator. -/
theorem splitOn_append_of_not_mem {sep : Char} {before : List Char} (hsep : sep ∉ before)
    (cs : List Char) :
    (before ++ cs).splitOn sep = (cs.splitOn sep).modifyHead (before ++ ·) := by
  induction before with
  | nil => exact (congrFun List.modifyHead_id _).symm
  | cons c rest ih =>
      have hne : (c == sep) = false := by
        rw [beq_eq_false_iff_ne]
        rintro rfl
        exact hsep List.mem_cons_self
      rw [List.cons_append, List.splitOn_cons_eq_if_modifyHead, hne,
        ih (List.not_mem_of_not_mem_cons hsep)]
      exact List.modifyHead_modifyHead

/-- The pieces of texts that are joined are those of each text. -/
theorem splitOn_intercalate {sep : Char} {texts : List (List Char)} (hne : texts ≠ []) :
    ([sep].intercalate texts).splitOn sep = texts.flatMap (·.splitOn sep) := by
  induction texts with
  | nil => exact absurd rfl hne
  | cons text rest ih =>
      by_cases hnil : rest = []
      · simp [hnil]
      · rw [List.intercalate_cons_of_ne_nil hnil, List.append_assoc, List.singleton_append,
          List.splitOn_append_cons_self, ih hnil, List.flatMap_cons]

/-- To write another character in place of every separator is to join the pieces with it. -/
theorem map_intercalate {sep : Char} (other : Char) {pieces : List (List Char)}
    (hfree : ∀ piece ∈ pieces, sep ∉ piece) :
    ([sep].intercalate pieces).map (fun c => if c = sep then other else c) =
      [other].intercalate pieces := by
  induction pieces with
  | nil => rfl
  | cons piece rest ih =>
      obtain ⟨hpiece, hrest⟩ := List.forall_mem_cons.mp hfree
      have hkept : piece.map (fun c => if c = sep then other else c) = piece := by
        conv_rhs => rw [← List.map_id piece]
        apply List.map_congr_left
        intro c hc
        have hne : c ≠ sep := fun heq => hpiece (heq ▸ hc)
        exact if_neg hne
      by_cases hnil : rest = []
      · rw [hnil, List.intercalate_singleton, List.intercalate_singleton, hkept]
      · rw [List.intercalate_cons_of_ne_nil hnil, List.intercalate_cons_of_ne_nil hnil,
          List.map_append, List.map_append, hkept, ih hrest, List.map_singleton, if_pos rfl]

/-- Text behind another goes to its last piece, if it holds no separator. -/
theorem forall₂_splitOn_append {sep : Char} {after : List Char} (hsep : sep ∉ after)
    (cs : List Char) :
    List.Forall₂ (fun piece longer => longer = piece ∨ longer = piece ++ after)
      (cs.splitOn sep) ((cs ++ after).splitOn sep) := by
  induction cs with
  | nil =>
      rw [List.nil_append, List.splitOn_eq_singleton hsep, List.splitOn_nil]
      exact .cons (.inr rfl) .nil
  | cons c rest ih =>
      rw [List.cons_append, List.splitOn_cons_eq_if_modifyHead, List.splitOn_cons_eq_if_modifyHead]
      split
      · exact .cons (.inl rfl) ih
      · generalize rest.splitOn sep = pieces, (rest ++ after).splitOn sep = longer at ih
        cases ih with
        | nil => exact .nil
        | cons hhead htail =>
            refine .cons ?_ htail
            exact hhead.imp (congrArg (c :: ·)) (congrArg (c :: ·))

end BuildSettings.Text
