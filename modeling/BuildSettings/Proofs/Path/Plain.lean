/-
# Paths without idle pieces

A path can be written with slashes and pieces `.` that lead nowhere. When all of them are
left out, its plain form remains. That is told by two things: whether the path is absolute,
and the pieces that lead somewhere, its steps. A `..` is a step like any other; nothing is
folded.

Comparison by components leaves idle pieces out as well, with one exception. A `.` in front
of a relative path is a component of its own. So paths of one plain form count as the same
unless one of them begins with `.` and the other does not.
-/

import BuildSettings.Proofs.Path.Parents

namespace BuildSettings.Path

variable {path a b : Path} {piece : List Char}

/-! ## Plain forms -/

/-- The pieces of a path that lead somewhere. -/
def steps (path : Path) : List (List Char) :=
  path.pieces.filter fun piece => !isIdle piece

/-- The path written without idle pieces, in front as well as behind. -/
def plain (path : Path) : Path :=
  spell (if path.isAbsolute then [] :: path.steps else path.steps)

theorem mem_steps : piece ∈ path.steps ↔ piece ∈ path.pieces ∧ isIdle piece = false := by
  rw [steps, List.mem_filter, Bool.not_eq_true']

theorem not_mem_of_mem_steps (hpiece : piece ∈ path.steps) : '/' ∉ piece :=
  ModulePath.not_mem_of_mem_splitOn (mem_steps.mp hpiece).1

theorem nil_not_mem_steps : [] ∉ path.steps := by
  intro hnil
  have hidle := (mem_steps.mp hnil).2
  cases hidle

/-- Spelling a path from pieces keeps those that lead somewhere. -/
theorem steps_spell {pieces : List (List Char)} (hfree : ∀ piece ∈ pieces, '/' ∉ piece) :
    (spell pieces).steps = pieces.filter fun piece => !isIdle piece := by
  by_cases hne : pieces = []
  · subst hne
    decide
  · by_cases hlone : pieces = [[]]
    · subst hlone
      decide
    · rw [steps, pieces_spell hne hlone hfree]

/-- Without an empty piece there is no slash in front. -/
theorem isAbsolute_spell_eq_false {pieces : List (List Char)} (hnil : [] ∉ pieces)
    (hfree : ∀ piece ∈ pieces, '/' ∉ piece) : (spell pieces).isAbsolute = false := by
  by_cases hne : pieces = []
  · subst hne
    decide
  · have hlone : pieces ≠ [[]] := fun h => hnil (by simp [h])
    rw [← Bool.not_eq_true, isAbsolute_iff, pieces_spell hne hlone hfree]
    intro habsolute
    obtain ⟨rest, -, heq⟩ := habsolute
    exact hnil (by simp [heq])

/-- Idle pieces have no part in the steps. -/
theorem steps_plain (path : Path) : path.plain.steps = path.steps := by
  have hkept : path.steps.filter (fun piece => !isIdle piece) = path.steps := by
    rw [steps, List.filter_filter]
    simp only [Bool.and_self]
  rw [plain]
  by_cases habsolute : path.isAbsolute = true
  · have hfree : ∀ piece ∈ [] :: path.steps, '/' ∉ piece :=
      List.forall_mem_cons.mpr ⟨List.not_mem_nil, fun _ => not_mem_of_mem_steps⟩
    rw [if_pos habsolute, steps_spell hfree, List.filter_cons_of_neg (by decide), hkept]
  · rw [if_neg habsolute, steps_spell fun _ => not_mem_of_mem_steps, hkept]

theorem isAbsolute_plain (path : Path) : path.plain.isAbsolute = path.isAbsolute := by
  rw [plain]
  by_cases habsolute : path.isAbsolute = true
  · rw [if_pos habsolute, isAbsolute_spell, habsolute]
  · rw [if_neg habsolute, Bool.eq_false_iff.mpr habsolute,
      isAbsolute_spell_eq_false nil_not_mem_steps fun _ => not_mem_of_mem_steps]

/-- Two paths have one plain form when they take the same steps from the same place. -/
theorem plain_eq_iff : a.plain = b.plain ↔ a.isAbsolute = b.isAbsolute ∧ a.steps = b.steps := by
  constructor
  · intro h
    constructor
    · rw [← isAbsolute_plain a, h, isAbsolute_plain]
    · rw [← steps_plain a, h, steps_plain]
  · intro h
    rw [plain, plain, h.1, h.2]

/-- Nothing is left to be taken out of a plain form. -/
theorem plain_plain (path : Path) : path.plain.plain = path.plain :=
  plain_eq_iff.mpr ⟨isAbsolute_plain path, steps_plain path⟩

example : (plain ⟨".//demo/./../app/."⟩).spelling = "demo/../app" := by
  decide

/-! ## Components -/

/-- The path begins with a piece `.`. -/
def beginsHere (path : Path) : Bool :=
  path.pieces.head? == some ['.']

/-- The component in front of the steps, if there is one. -/
def anchor? (path : Path) : Option PathComponent :=
  if path.isAbsolute then some .root
  else if path.beginsHere then some .here
  else none

/-- The component that a step makes. -/
def stepComponent (piece : List Char) : PathComponent :=
  if piece = ['.', '.'] then .up else .name (String.ofList piece)

theorem stepComponent_injective : Function.Injective stepComponent := by
  intro a b h
  grind [stepComponent, String.ofList_injective]

/-- Behind the first piece, components are made by the steps alone. -/
theorem innerComponent?_eq (piece : List Char) :
    innerComponent? piece = if isIdle piece then none else some (stepComponent piece) := by
  rw [innerComponent?, stepComponent]
  have hidle : isIdle piece = true ↔ piece = [] ∨ piece = ['.'] := by simp [isIdle]
  simp only [hidle]
  split
  · rfl
  · split <;> rfl

theorem filterMap_innerComponent?_eq (pieces : List (List Char)) :
    pieces.filterMap innerComponent? =
      (pieces.filter fun piece => !isIdle piece).map stepComponent := by
  induction pieces with
  | nil => rfl
  | cons piece rest ih =>
      rw [List.filterMap_cons, innerComponent?_eq, ih]
      by_cases hidle : isIdle piece = true
      · simp [hidle]
      · simp [hidle]

theorem beginsHere_eq_false_of_isAbsolute (h : path.isAbsolute = true) :
    path.beginsHere = false := by
  obtain ⟨rest, -, hpieces⟩ := isAbsolute_iff.mp h
  rw [beginsHere, hpieces]
  rfl

/-- The components of a path are its anchor and behind it its steps. The first piece is
either the anchor or, if it leads somewhere, the first step. -/
theorem components_eq (path : Path) :
    path.components = path.anchor?.toList ++ path.steps.map stepComponent := by
  by_cases habsolute : path.isAbsolute = true
  · obtain ⟨rest, hrest, hpieces⟩ := isAbsolute_iff.mp habsolute
    have hsteps : path.steps = rest.filter fun piece => !isIdle piece := by
      rw [steps, hpieces, List.filter_cons_of_neg (by decide)]
    rw [components_of_pieces hpieces hrest, filterMap_innerComponent?_eq, anchor?,
      if_pos habsolute, hsteps, Option.toList_some, List.singleton_append]
  · rw [components, anchor?, if_neg habsolute, beginsHere, steps]
    cases hpieces : path.pieces with
    | nil => rfl
    | cons first rest =>
        dsimp only
        rw [List.head?_cons, filterMap_innerComponent?_eq]
        by_cases hempty : first = []
        · -- No slash follows an empty first piece here, so the whole path is empty.
          have hrest : rest = [] := by
            by_contra hrest
            exact habsolute (isAbsolute_iff.mpr ⟨rest, hrest, by rw [hpieces, hempty]⟩)
          rw [hempty, hrest]
          rfl
        · by_cases hhere : first = ['.']
          · subst hhere
            rfl
          · have hidle : isIdle first = false := by simp [isIdle, hempty, hhere]
            simp [leadingComponent?, innerComponent?_eq, hempty, hhere, hidle]

/-- The component is made by a step. -/
def isStepComponent : PathComponent → Bool
  | .root | .here => false
  | .up | .name _ => true

theorem isStepComponent_stepComponent (piece : List Char) :
    isStepComponent (stepComponent piece) = true := by
  rw [stepComponent]
  split <;> rfl

/-- The steps can be told from the components. -/
theorem filter_components (path : Path) :
    path.components.filter isStepComponent = path.steps.map stepComponent := by
  have hanchor : path.anchor?.toList.filter isStepComponent = [] := by
    rw [anchor?]
    split
    · rfl
    · split <;> rfl
  have hsteps : ∀ component ∈ path.steps.map stepComponent,
      isStepComponent component = true :=
    List.forall_mem_map.mpr fun piece _ => isStepComponent_stepComponent piece
  rw [components_eq, List.filter_append, hanchor, List.nil_append, List.filter_eq_self.mpr hsteps]

theorem anchor?_eq_iff :
    a.anchor? = b.anchor? ↔ a.isAbsolute = b.isAbsolute ∧ a.beginsHere = b.beginsHere := by
  have ha : a.isAbsolute = true → a.beginsHere = false := beginsHere_eq_false_of_isAbsolute
  have hb : b.isAbsolute = true → b.beginsHere = false := beginsHere_eq_false_of_isAbsolute
  grind [anchor?]

/-- Two paths have the same components when they have one plain form, and begin with a
piece `.` both or neither. -/
theorem components_eq_iff :
    a.components = b.components ↔ a.plain = b.plain ∧ a.beginsHere = b.beginsHere := by
  have hsplit : a.components = b.components ↔ a.anchor? = b.anchor? ∧ a.steps = b.steps := by
    constructor
    · intro h
      have hsteps : a.steps = b.steps := by
        rw [← List.map_inj_right stepComponent_injective, ← filter_components, h,
          filter_components]
      rw [components_eq, components_eq, hsteps, List.append_left_inj] at h
      have hanchor := congrArg List.head? h
      rw [Option.head?_toList, Option.head?_toList] at hanchor
      exact ⟨hanchor, hsteps⟩
    · intro h
      rw [components_eq, components_eq, h.1, h.2]
  rw [hsplit, anchor?_eq_iff, plain_eq_iff]
  exact and_right_comm

end BuildSettings.Path
