/-
# Joining and going up

A text without slashes that is joined to a path becomes its last piece. So the parent of
a file in a directory is that directory again. It may be spelled with fewer slashes and
dots at its end than before, but it has the same components.

What is made from an absolute path by joining and by going up is absolute.
-/

import BuildSettings.Path
import BuildSettings.Proofs.Text.Pieces
import BuildSettings.Proofs.Text.Trim

namespace BuildSettings.Path

variable {path base above : Path} {text : String}

/-! ## Joining -/

theorem isAbsolute_eq_false (hslash : '/' ∉ text.toList) :
    (⟨text⟩ : Path).isAbsolute = false := by
  rw [isAbsolute, beq_eq_false_iff_ne]
  intro hhead
  exact hslash (List.mem_of_mem_head? hhead)

/-- A text without slashes is written behind a path with one slash in between, if the
path does not end in one already. -/
theorem toList_join (hbase : base.spelling.toList ≠ [])
    (hlast : base.spelling.toList.getLast? ≠ some '/') (hslash : '/' ∉ text.toList) :
    (base.join ⟨text⟩).spelling.toList = base.spelling.toList ++ '/' :: text.toList := by
  have hnoSlash : base.spelling.toList.getLast?.all (· == '/') = false := by
    rw [List.getLast?_eq_some_getLast hbase] at hlast ⊢
    simpa using hlast
  rw [join, isAbsolute_eq_false hslash, hnoSlash]
  simp

/-- Behind a path that ends in a slash no other slash is needed. -/
theorem toList_join_of_slash (hlast : base.spelling.toList.getLast? = some '/')
    (hslash : '/' ∉ text.toList) :
    (base.join ⟨text⟩).spelling.toList = base.spelling.toList ++ text.toList := by
  rw [join, isAbsolute_eq_false hslash, hlast]
  simp

/-- The text becomes the last piece. What stands before it are the pieces of the path,
without the empty piece behind a slash at its end. -/
theorem pieces_join (hbase : base.spelling.toList ≠ []) (hslash : '/' ∉ text.toList) :
    ∃ front, (base.join ⟨text⟩).pieces = front ++ [text.toList] ∧
      (base.pieces = front ∨ base.pieces = front ++ [[]]) := by
  by_cases hlast : base.spelling.toList.getLast? = some '/'
  · obtain ⟨before, hbefore⟩ := List.getLast?_eq_some_iff.mp hlast
    refine ⟨before.splitOn '/', ?_, .inr ?_⟩
    · rw [pieces, toList_join_of_slash hlast hslash, hbefore, List.append_assoc,
        List.singleton_append, List.splitOn_append_cons_self, List.splitOn_eq_singleton hslash]
    · rw [pieces, hbefore, List.splitOn_append_cons_self, List.splitOn_nil]
  · refine ⟨base.pieces, ?_, .inl rfl⟩
    rw [pieces, toList_join hbase hlast hslash, List.splitOn_append_cons_self,
      List.splitOn_eq_singleton hslash, ← pieces]

/-! ## Absolute paths -/

/-- The first piece of an absolute path is empty and has others behind it. -/
theorem isAbsolute_iff : path.isAbsolute = true ↔ ∃ rest ≠ [], path.pieces = [] :: rest := by
  rw [isAbsolute, beq_iff_eq, pieces]
  cases path.spelling.toList with
  | nil => simp
  | cons c cs =>
      rw [List.head?_cons, List.splitOn_cons_eq_if_modifyHead]
      have hne := List.splitOn_ne_nil '/' cs
      by_cases hc : c = '/'
      · simp [hc, hne]
      · obtain ⟨piece, rest, hpieces⟩ := List.exists_cons_of_ne_nil hne
        simp [hc, hpieces]

theorem toList_ne_nil_of_isAbsolute (h : path.isAbsolute = true) :
    path.spelling.toList ≠ [] := by
  rintro hnil
  rw [isAbsolute, hnil] at h
  cases h

theorem components_of_pieces {rest : List (List Char)} (hpieces : path.pieces = [] :: rest)
    (hrest : rest ≠ []) : path.components = .root :: rest.filterMap innerComponent? := by
  obtain ⟨piece, rest, rfl⟩ := List.exists_cons_of_ne_nil hrest
  rw [components, hpieces]
  rfl

/-- Joining leads from an absolute path to absolute paths. -/
theorem isAbsolute_join (hbase : base.isAbsolute = true) (next : Path) :
    (base.join next).isAbsolute = true := by
  have happend (text : String) : (⟨base.spelling ++ text⟩ : Path).isAbsolute = true := by
    rw [isAbsolute, beq_iff_eq] at hbase ⊢
    rw [String.toList_append, List.head?_append, hbase, Option.some_or]
  rw [join]
  split
  · assumption
  · split
    · exact happend next.spelling
    · rw [String.append_assoc]
      exact happend ("/" ++ next.spelling)

/-- An absolute path is seen the same from everywhere. -/
theorem join_of_isAbsolute (h : path.isAbsolute = true) (base : Path) : base.join path = path :=
  if_pos h

theorem isAbsolute_spell (rest : List (List Char)) : (spell ([] :: rest)).isAbsolute = true := by
  cases rest with
  | nil => rfl
  | cons piece rest => simp [spell, isAbsolute, intercalate_cons_slash]

/-- Whether a slash follows the first piece makes a difference only if it is empty. -/
theorem leadingComponent?_of_ne_nil {piece : List Char} (hpiece : piece ≠ [])
    (slashFollows : Bool) :
    leadingComponent? piece slashFollows = leadingComponent? piece true := by
  rw [leadingComponent?, if_neg hpiece, leadingComponent?, if_neg hpiece]

/-- A path that is spelled from pieces has these pieces, but for the root. -/
theorem pieces_spell {pieces : List (List Char)} (hne : pieces ≠ []) (hlone : pieces ≠ [[]])
    (hfree : ∀ piece ∈ pieces, '/' ∉ piece) : (spell pieces).pieces = pieces := by
  rw [spell, if_neg hlone, Path.pieces, String.toList_ofList]
  exact List.splitOn_intercalate '/' hfree hne

/-- The components of a path that is spelled from its pieces. -/
theorem components_spell {first : List Char} {rest : List (List Char)} (hfirst : '/' ∉ first)
    (hrest : ∀ piece ∈ rest, '/' ∉ piece) :
    (spell (first :: rest)).components =
      (leadingComponent? first true).toList ++ rest.filterMap innerComponent? := by
  by_cases hlone : first :: rest = [[]]
  · obtain ⟨rfl, rfl⟩ := List.cons.inj hlone
    decide
  · have hfree : ∀ piece ∈ first :: rest, '/' ∉ piece :=
      List.forall_mem_cons.mpr ⟨hfirst, hrest⟩
    rw [components, pieces_spell (List.cons_ne_nil _ _) hlone hfree]
    by_cases hempty : first = []
    · subst hempty
      obtain ⟨piece, rest, rfl⟩ := List.exists_cons_of_ne_nil (l := rest) (by simpa using hlone)
      rfl
    · dsimp only
      rw [leadingComponent?_of_ne_nil hempty]

/-! ## Going up -/

/-- What drops out at the end of the pieces stands for no component. -/
theorem filterMap_dropTailWhile (rest : List (List Char)) :
    (Text.dropTailWhile isIdle rest).filterMap innerComponent? =
      rest.filterMap innerComponent? := by
  obtain ⟨tail, htail, hidle⟩ := Text.exists_eq_dropTailWhile_append isIdle rest
  have hnone : tail.filterMap innerComponent? = [] := by
    rw [List.filterMap_eq_nil_iff]
    intro piece hpiece
    have := hidle piece hpiece
    rw [innerComponent?, if_pos (by simpa [isIdle] using this)]
  conv => rhs; rw [htail, List.filterMap_append, hnone, List.append_nil]

/-- The parent of an absolute path is absolute. -/
theorem isAbsolute_of_parent?_eq_some (h : path.isAbsolute = true)
    (hparent : path.parent? = some above) : above.isAbsolute = true := by
  obtain ⟨rest, -, hpieces⟩ := isAbsolute_iff.mp h
  simp only [parent?, hpieces, if_true] at hparent
  split at hparent
  · cases hparent
  · obtain rfl := Option.some.inj hparent
    exact isAbsolute_spell _

/-- All the directories above an absolute path are absolute. The induction goes up. -/
theorem isAbsolute_of_mem_ancestors (h : path.isAbsolute = true)
    (habove : above ∈ path.ancestors) : above.isAbsolute = true := by
  induction path using ancestors.induct with
  | case1 path hnone =>
      rw [ancestors, hnone] at habove
      rw [List.mem_singleton.mp habove, h]
  | case2 path parent hparent ih =>
      rw [ancestors, hparent] at habove
      cases List.mem_cons.mp habove with
      | inl heq => rw [heq, h]
      | inr hmem => exact ih (isAbsolute_of_parent?_eq_some h hparent) hmem

/-- The parent of a file in an absolute directory is the directory, up to the spelling. -/
theorem parent?_join (hbase : base.isAbsolute = true) (hslash : '/' ∉ text.toList)
    (hidle : isIdle text.toList = false) :
    ∃ parent, (base.join ⟨text⟩).parent? = some parent ∧ parent.same base = true := by
  obtain ⟨rest, hrest, hpieces⟩ := isAbsolute_iff.mp hbase
  obtain ⟨front, hjoin, hfront⟩ := pieces_join (toList_ne_nil_of_isAbsolute hbase) hslash
  -- A slash at the end of the directory leaves an empty piece, which is no component.
  obtain ⟨inner, rfl, hinner⟩ : ∃ inner, front = [] :: inner ∧
      inner.filterMap innerComponent? = rest.filterMap innerComponent? := by
    rcases hfront with heq | heq
    · exact ⟨rest, heq.symm.trans hpieces, rfl⟩
    · rw [hpieces] at heq
      cases front with
      | nil => exact absurd (List.cons.inj heq).2 hrest
      | cons piece inner =>
          obtain ⟨rfl, rfl⟩ := List.cons.inj heq
          exact ⟨inner, rfl, by simp [innerComponent?]⟩
  have hkept : Text.dropTailWhile isIdle (inner ++ [text.toList]) = inner ++ [text.toList] := by
    have hlast : ∀ piece, (inner ++ [text.toList]).getLast? = some piece →
        isIdle piece = false := by
      simpa using hidle
    have happend := Text.dropTailWhile_append (fun _ h => absurd h List.not_mem_nil) hlast
    rwa [List.append_nil] at happend
  have hfree : ∀ piece ∈ Text.dropTailWhile isIdle inner, '/' ∉ piece := by
    intro piece hpiece
    have hmem : piece ∈ (base.join ⟨text⟩).pieces := by
      rw [hjoin]
      simp [Text.mem_of_mem_dropTailWhile hpiece]
    exact ModulePath.not_mem_of_mem_splitOn hmem
  refine ⟨spell ([] :: Text.dropTailWhile isIdle inner), ?_, ?_⟩
  · simp only [parent?, hjoin, List.cons_append, hkept, List.dropLast_concat]
    rw [if_neg (by simp)]
  · rw [same_iff, components_spell List.not_mem_nil hfree, filterMap_dropTailWhile, hinner,
      components_of_pieces hpieces hrest]
    rfl

example :
    (join ⟨"/demo//app/./"⟩ ⟨"settings.toml"⟩).parent?.map spelling = some "/demo//app" := by
  decide

end BuildSettings.Path
