/-
# What trimming leaves

Trimming is defined by dropping blanks from the front and then from the back.
Here it is described by its result: the part of a text that has only blanks
around it and neither begins nor ends in one. There is exactly one such part, so
the order in which the two ends are dropped does not matter.
-/

import BuildSettings.Text.Blank

namespace BuildSettings.Text

/-- The core of a text has only blanks around it and no blank at either end. -/
structure IsCore (cs core : List Char) : Prop where
  surrounded : ∃ before after, cs = before ++ core ++ after ∧
    (∀ c ∈ before, isBlank c = true) ∧ ∀ c ∈ after, isBlank c = true
  head_not_blank : ∀ c, core.head? = some c → isBlank c = false
  last_not_blank : ∀ c, core.getLast? = some c → isBlank c = false

/-- Dropping a tail takes away droppable members only. -/
theorem exists_eq_dropTailWhile_append {α : Type} (drop : α → Bool) (items : List α) :
    ∃ tail, items = dropTailWhile drop items ++ tail ∧ ∀ x ∈ tail, drop x = true := by
  refine ⟨(items.reverse.takeWhile drop).reverse, ?_, ?_⟩
  · rw [dropTailWhile, ← List.reverse_append, List.takeWhile_append_dropWhile,
      List.reverse_reverse]
  · intro x hx
    exact List.all_eq_true.mp List.all_takeWhile x (List.mem_reverse.mp hx)

/-- A tail of droppable members is dropped up to the last other member. -/
theorem dropTailWhile_append {α : Type} {drop : α → Bool} {items tail : List α}
    (htail : ∀ x ∈ tail, drop x = true)
    (hlast : ∀ x, items.getLast? = some x → drop x = false) :
    dropTailWhile drop (items ++ tail) = items := by
  rw [dropTailWhile, List.reverse_append,
    List.dropWhile_append_of_pos fun x hx => htail x (List.mem_reverse.mp hx)]
  cases hrev : items.reverse with
  | nil => simpa using hrev.symm
  | cons x rest =>
      have hx : drop x = false := by
        apply hlast
        rw [← List.head?_reverse, hrev, List.head?_cons]
      rw [List.dropWhile_cons_of_neg (by simp [hx]), ← hrev, List.reverse_reverse]

/-- Dropping the copies of a character at the end leaves what stands in front of
them, up to the last other character. -/
theorem dropTrailing_eq_iff {c : Char} {s rest : String} :
    dropTrailing c s = rest ↔
      rest.toList.getLast? ≠ some c ∧
        ∃ count, s.toList = rest.toList ++ List.replicate count c := by
  apply Iff.intro
  · intro h
    subst h
    rw [dropTrailing, String.toList_ofList]
    refine ⟨?_, ?_⟩
    · intro hlast
      simpa using dropTailWhile_getLast hlast
    · obtain ⟨tail, htail, hdrop⟩ := exists_eq_dropTailWhile_append (· == c) s.toList
      have hcopies : tail = List.replicate tail.length c :=
        List.eq_replicate_iff.mpr ⟨rfl, fun x hx => eq_of_beq (hdrop x hx)⟩
      refine ⟨tail.length, ?_⟩
      rw [← hcopies]
      exact htail
  · intro h
    rcases h with ⟨hlast, count, hs⟩
    apply String.ext
    rw [dropTrailing, String.toList_ofList, hs]
    apply dropTailWhile_append
    · intro x hx
      exact beq_iff_eq.mpr (List.eq_of_mem_replicate hx)
    · intro x hx
      rw [hx] at hlast
      simpa using hlast

/-- What trimming leaves is a core. -/
theorem isCore_trimChars (cs : List Char) : IsCore cs (trimChars cs) := by
  obtain ⟨after, hafter, hblank⟩ :=
    exists_eq_dropTailWhile_append isBlank (cs.dropWhile isBlank)
  refine ⟨⟨cs.takeWhile isBlank, after, ?_, ?_, hblank⟩, ?_, ?_⟩
  · rw [List.append_assoc, trimChars, ← hafter, List.takeWhile_append_dropWhile]
  · exact List.all_eq_true.mp List.all_takeWhile
  · intro c hc
    have hhead : (cs.dropWhile isBlank).head? = some c := by
      rw [hafter, List.head?_append]
      rw [trimChars] at hc
      rw [hc, Option.some_or]
    have := List.head?_dropWhile_not isBlank cs
    rw [hhead] at this
    simpa using this
  · intro c hc
    exact dropTailWhile_getLast hc

/-- A core is what trimming leaves, so a text has only one. -/
theorem IsCore.trimChars_eq {cs core : List Char} (h : IsCore cs core) : trimChars cs = core := by
  obtain ⟨before, after, rfl, hbefore, hafter⟩ := h.surrounded
  rw [trimChars, List.append_assoc, List.dropWhile_append_of_pos hbefore]
  cases core with
  | nil =>
      rw [List.nil_append, ← List.append_nil after, List.dropWhile_append_of_pos hafter]
      rfl
  | cons c rest =>
      have hc := h.head_not_blank c rfl
      rw [List.cons_append, List.dropWhile_cons_of_neg (by simp [hc]), ← List.cons_append]
      exact dropTailWhile_append hafter h.last_not_blank

/-- Trimming leaves the core of a text. -/
theorem isCore_iff {cs core : List Char} : IsCore cs core ↔ core = trimChars cs := by
  apply Iff.intro
  · intro h
    exact h.trimChars_eq.symm
  · intro heq
    subst heq
    exact isCore_trimChars cs

/-- Trimming drops a blank in front. -/
theorem trimChars_cons_of_blank {c : Char} (hc : isBlank c = true) (piece : List Char) :
    trimChars (c :: piece) = trimChars piece := by
  rw [trimChars, List.dropWhile_cons_of_pos hc, trimChars]

/-- Trimming drops blanks at the end. -/
theorem trimChars_append_of_blank {piece blanks : List Char}
    (hblanks : ∀ c ∈ blanks, isBlank c = true) :
    trimChars (piece ++ blanks) = trimChars piece := by
  have hcore := isCore_trimChars piece
  obtain ⟨before, after, hpiece, hbefore, hafter⟩ := hcore.surrounded
  apply IsCore.trimChars_eq
  refine ⟨⟨before, after ++ blanks, ?_, hbefore, ?_⟩, hcore.head_not_blank, hcore.last_not_blank⟩
  · rw [← List.append_assoc, ← hpiece]
  · intro c hc
    exact (List.mem_append.mp hc).elim (hafter c) (hblanks c)

/-- Trimming keeps every character that is not blank. -/
theorem mem_trimChars_iff {cs : List Char} {c : Char} (hc : isBlank c = false) :
    c ∈ trimChars cs ↔ c ∈ cs := by
  refine ⟨mem_of_mem_trimChars, ?_⟩
  obtain ⟨before, after, heq, hbefore, hafter⟩ := (isCore_trimChars cs).surrounded
  intro hmem
  rw [heq] at hmem
  rcases List.mem_append.mp hmem with hmem | hmem
  · rcases List.mem_append.mp hmem with hmem | hmem
    · simp [hbefore c hmem] at hc
    · exact hmem
  · simp [hafter c hmem] at hc

/-- Trimming leaves nothing of a text exactly when all of it is blank. -/
theorem trimChars_eq_nil_iff {cs : List Char} :
    trimChars cs = [] ↔ ∀ c ∈ cs, isBlank c = true := by
  apply Iff.intro
  · intro h c hc
    cases hb : isBlank c with
    | true => rfl
    | false =>
        have := (mem_trimChars_iff hb).mpr hc
        rw [h] at this
        cases this
  · intro h
    have hcore : IsCore cs [] :=
      ⟨⟨cs, [], by simp, h, by simp⟩, by simp, by simp⟩
    exact hcore.trimChars_eq

/-- A text is blank exactly when trimming leaves nothing of it. -/
theorem blank_iff_trim_eq_empty {s : String} : blank s = true ↔ trim s = "" := by
  rw [blank, List.all_eq_true, ← trimChars_eq_nil_iff, trim, String.ofList_eq_empty_iff]

end BuildSettings.Text
