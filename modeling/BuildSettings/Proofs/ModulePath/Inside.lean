/-
# Directories below the root

The directory of a module is given relative to the root of the workspace, and it is
never empty and never absolute. That does not keep it below the root: `..` and `.` are
segments like any others, and a path may lead with them to the root, or out of it.

A walk from the root settles where a directory is. A name leads down, `..` leads up
again and `.` stays, so all that counts is how often each occurs: the walk stays below
the root as long as it has gone down at least as often as up, and it ends inside the
root when it has gone down more often. Without a segment `..` a single name is enough.
-/

import BuildSettings.Proofs.ModulePath.Directory

namespace BuildSettings

namespace Path

/-- Where a component leads from a place below the root. A place is known by the names of
the directories on the way to it, innermost first. Nothing leads up from the root, and
a component that starts over elsewhere leads to no place below it. -/
def step? (place : List String) : PathComponent → Option (List String)
  | .root => none
  | .here => some place
  | .up =>
    match place with
    | [] => none
    | _ :: above => some above
  | .name text => some (text :: place)

/-- The place where a path ends when its components are walked from the root, if the walk
never climbs above the root. -/
def place? (path : Path) : Option (List String) :=
  path.components.foldlM step? []

/-- Walking a path never climbs above the root and does not end at the root itself. -/
def LiesInside (path : Path) : Prop :=
  ∃ name above, path.place? = some (name :: above)

end Path

namespace ModulePath

variable {segments : List String} {place : List String} {path : ModulePath}

/-- How often segments lead down into a directory. -/
def descents (segments : List String) : Nat :=
  segments.countP fun segment => segment ≠ "." ∧ segment ≠ ".."

/-- How often segments lead up out of a directory. -/
def ascents (segments : List String) : Nat :=
  segments.count ".."

/-- Segments go down at least as often as up, as far as any of them. -/
def NeverClimbs (segments : List String) : Prop :=
  ∀ start, start <+: segments → ascents start ≤ descents start

/-- The place where some segments lead from another one. -/
def walk? (place segments : List String) : Option (List String) :=
  segments.foldlM (fun place segment => Path.step? place (segmentComponent segment)) place

/-! ## Walking along segments -/

@[simp]
theorem walk?_nil : walk? place [] = some place := rfl

@[simp]
theorem walk?_dot_cons : walk? place ("." :: segments) = walk? place segments := rfl

@[simp]
theorem walk?_nil_up_cons : walk? [] (".." :: segments) = none := rfl

@[simp]
theorem walk?_cons_up_cons {name : String} :
    walk? (name :: place) (".." :: segments) = walk? place segments := rfl

theorem walk?_name_cons {segment : String} (hdot : segment ≠ ".") (hup : segment ≠ "..") :
    walk? place (segment :: segments) = walk? (segment :: place) segments := by
  rw [walk?, List.foldlM_cons, segmentComponent, if_neg hdot, if_neg hup]
  rfl

/-- Leaving out segments `.` changes nothing for a walk. -/
theorem walk?_filter_dot (place segments : List String) :
    walk? place (segments.filter (· ≠ ".")) = walk? place segments := by
  induction segments generalizing place with
  | nil => rfl
  | cons segment rest ih =>
      by_cases hdot : segment = "."
      · subst hdot
        exact ih place
      · have hkept : (segment :: rest).filter (· ≠ ".") = segment :: rest.filter (· ≠ ".") := by
          simp [hdot]
        rw [hkept, walk?, walk?, List.foldlM_cons, List.foldlM_cons]
        congr 1
        funext next
        exact ih next

/-- A directory is where the segments lead from the root. -/
theorem place?_projectDir (path : ModulePath) :
    path.projectDir.place? = walk? [] path.segments := by
  have hwalk : path.projectDir.place? = walk? [] path.directorySegments := by
    rw [Path.place?, components_projectDir, List.foldlM_map, walk?]
  rw [hwalk, directorySegments]
  cases hpath : path.segments with
  | nil => rfl
  | cons first rest =>
      show walk? [] (first :: rest.filter (· ≠ ".")) = walk? [] (first :: rest)
      rw [walk?, walk?, List.foldlM_cons, List.foldlM_cons]
      congr 1
      funext next
      exact walk?_filter_dot next rest

/-! ## Going down and going up -/

@[simp]
theorem ascents_nil : ascents [] = 0 := rfl

@[simp]
theorem descents_nil : descents [] = 0 := rfl

@[simp]
theorem ascents_dot_cons : ascents ("." :: segments) = ascents segments := by
  simp [ascents]

@[simp]
theorem descents_dot_cons : descents ("." :: segments) = descents segments := by
  simp [descents]

@[simp]
theorem ascents_up_cons : ascents (".." :: segments) = ascents segments + 1 := by
  simp [ascents]

@[simp]
theorem descents_up_cons : descents (".." :: segments) = descents segments := by
  simp [descents]

theorem ascents_name_cons {segment : String} (hup : segment ≠ "..") :
    ascents (segment :: segments) = ascents segments := by
  simp [ascents, hup]

theorem descents_name_cons {segment : String} (hdot : segment ≠ ".") (hup : segment ≠ "..") :
    descents (segment :: segments) = descents segments + 1 := by
  simp [descents, hdot, hup]

/-- A walk ends as deep as it went down, less what it went up. -/
theorem length_of_walk?_eq_some {stop : List String} (h : walk? place segments = some stop) :
    stop.length + ascents segments = place.length + descents segments := by
  induction segments generalizing place with
  | nil =>
      cases h
      simp
  | cons segment rest ih =>
      by_cases hdot : segment = "."
      · subst hdot
        simpa using ih h
      · by_cases hup : segment = ".."
        · subst hup
          cases place with
          | nil => cases h
          | cons name above =>
              have hrest := @ih above h
              simp only [ascents_up_cons, descents_up_cons, List.length_cons]
              omega
        · rw [walk?_name_cons hdot hup] at h
          have hrest := ih h
          rw [List.length_cons] at hrest
          rw [ascents_name_cons hup, descents_name_cons hdot hup]
          omega

theorem forall_prefix_cons_iff {segment : String} {P : List String → Prop} :
    (∀ start, start <+: segment :: segments → P start) ↔
      P [] ∧ ∀ start, start <+: segments → P (segment :: start) := by
  simp only [List.prefix_cons_iff]
  grind

/-- A walk never climbs above the root when, as far as any segment, it has gone up no more
often than down, counting the depth at which it starts. The induction is on the segments to
come; the place is where the walk stands. -/
theorem exists_walk?_eq_some_iff :
    (∃ stop, walk? place segments = some stop) ↔
      ∀ start, start <+: segments → ascents start ≤ place.length + descents start := by
  induction segments generalizing place with
  | nil => simp
  | cons segment rest ih =>
      rw [forall_prefix_cons_iff]
      by_cases hdot : segment = "."
      · subst hdot
        simp [ih]
      · by_cases hup : segment = ".."
        · subst hup
          cases place with
          | nil =>
              -- The one segment `..` is a prefix that goes up once and never down.
              simp only [walk?_nil_up_cons, ascents_up_cons, descents_up_cons]
              apply iff_of_false
              · simp
              · intro h
                have hone := h.2 [] List.nil_prefix
                simp at hone
          | cons name above =>
              simp only [walk?_cons_up_cons, ih, ascents_up_cons, descents_up_cons,
                List.length_cons]
              grind [ascents_nil]
        · simp only [walk?_name_cons hdot hup, ih, ascents_name_cons hup,
            descents_name_cons hdot hup, List.length_cons]
          grind [ascents_nil]

/-- Without a segment `..` no walk climbs. -/
theorem neverClimbs_of_not_mem (hup : ".." ∉ segments) : NeverClimbs segments := by
  intro start hstart
  have hzero : ascents start = 0 := by
    rw [ascents, List.count_eq_zero]
    exact fun hmem => hup (hstart.subset hmem)
  omega

/-! ## Directories of modules -/

/-- A directory begins with the text of a segment. -/
theorem exists_toList_projectDir_eq_append (path : ModulePath) :
    ∃ first rest, IsSegment first ∧ path.projectDir.spelling.toList = first.toList ++ rest := by
  have hsegments := path.isSegment_of_mem
  rw [toList_projectDir]
  cases hpath : path.segments with
  | nil => exact absurd hpath path.segments_ne_nil
  | cons first rest =>
      rw [hpath] at hsegments
      rw [List.map_cons, Path.intercalate_cons_slash]
      exact ⟨first, _, hsegments first List.mem_cons_self, rfl⟩

theorem spelling_projectDir_ne_empty (path : ModulePath) : path.projectDir.spelling ≠ "" := by
  obtain ⟨first, rest, hfirst, hspelling⟩ := path.exists_toList_projectDir_eq_append
  intro hempty
  rw [hempty] at hspelling
  exact hfirst.toList_ne_nil (List.append_eq_nil_iff.mp hspelling.symm).1

theorem isAbsolute_projectDir (path : ModulePath) : path.projectDir.isAbsolute = false := by
  obtain ⟨first, rest, hfirst, hspelling⟩ := path.exists_toList_projectDir_eq_append
  rw [Path.isAbsolute, hspelling, List.head?_append_of_ne_nil _ hfirst.toList_ne_nil,
    beq_eq_false_iff_ne]
  intro hhead
  exact hfirst.not_mem_of_isSegmentBreak rfl (List.mem_of_mem_head? hhead)

/-- The walk along a directory never climbs above the root when its segments never do. -/
theorem exists_place?_projectDir_iff :
    (∃ place, path.projectDir.place? = some place) ↔ NeverClimbs path.segments := by
  rw [place?_projectDir, exists_walk?_eq_some_iff, NeverClimbs]
  simp only [List.length_nil, Nat.zero_add]

/-- A directory lies inside the root when its segments never climb above the root and go
down more often than up. -/
theorem liesInside_projectDir_iff :
    path.projectDir.LiesInside ↔
      NeverClimbs path.segments ∧ ascents path.segments < descents path.segments := by
  rw [← exists_place?_projectDir_iff, Path.LiesInside, place?_projectDir]
  apply Iff.intro
  · intro h
    rcases h with ⟨name, above, hplace⟩
    have hlength := length_of_walk?_eq_some hplace
    simp only [List.length_cons, List.length_nil] at hlength
    exact ⟨⟨_, hplace⟩, by omega⟩
  · intro h
    rcases h with ⟨⟨place, hplace⟩, hlt⟩
    have hlength := length_of_walk?_eq_some hplace
    cases place with
    | nil =>
        simp only [List.length_nil] at hlength
        omega
    | cons name above => exact ⟨name, above, hplace⟩

/-- The directory of a module is not empty and not absolute. Walking it from the root never
climbs above the root exactly when no beginning of its path has more segments `..` than
names. It then ends inside the root exactly when the whole path has fewer segments `..`
than names, so it does when no segment is `..` and not all are `.`. -/
theorem directory_inside_iff_more_names (path : ModulePath) :
    path.projectDir.spelling ≠ "" ∧ path.projectDir.isAbsolute = false ∧
      ((∃ place, path.projectDir.place? = some place) ↔ NeverClimbs path.segments) ∧
      (path.projectDir.LiesInside ↔
        NeverClimbs path.segments ∧ ascents path.segments < descents path.segments) ∧
      (".." ∉ path.segments → (∃ segment ∈ path.segments, segment ≠ ".") →
        path.projectDir.LiesInside) := by
  refine ⟨path.spelling_projectDir_ne_empty, path.isAbsolute_projectDir,
    exists_place?_projectDir_iff, liesInside_projectDir_iff, ?_⟩
  intro hup hname
  rw [liesInside_projectDir_iff]
  refine ⟨neverClimbs_of_not_mem hup, ?_⟩
  have hzero : ascents path.segments = 0 := List.count_eq_zero.mpr hup
  have hpos : 0 < descents path.segments := by
    rcases hname with ⟨segment, hmem, hdot⟩
    rw [descents, List.countP_pos_iff]
    refine ⟨segment, hmem, ?_⟩
    simp only [decide_eq_true_eq]
    exact ⟨hdot, fun heq => hup (heq ▸ hmem)⟩
  omega

theorem dotted_directory_inside :
    ∃ path, parse "a:.:b" = .ok path ∧ ".." ∉ path.segments ∧
      (∃ segment ∈ path.segments, segment ≠ ".") ∧ path.projectDir.LiesInside := by
  have hup : ".." ∉ ["a", ".", "b"] := by decide
  have hname : ∃ segment ∈ ["a", ".", "b"], segment ≠ "." := ⟨"a", by decide, by decide⟩
  obtain ⟨-, -, -, -, hinside⟩ :=
    directory_inside_iff_more_names ⟨["a", ".", "b"], by decide, by decide⟩
  exact ⟨_, rfl, hup, hname, hinside hup hname⟩

/-- A text that names a module can name one whose directory lies outside the root. -/
theorem not_all_directories_inside :
    ¬ ∀ (raw : String) (path : ModulePath), parse raw = .ok path →
      path.projectDir.spelling ≠ "" ∧ path.projectDir.isAbsolute = false ∧
        path.projectDir.LiesInside := by
  intro hall
  have hclimbs : (projectDir ⟨[".."], by decide, by decide⟩).place? = none := by decide
  obtain ⟨-, -, name, above, hplace⟩ := hall ".." ⟨[".."], by decide, by decide⟩ rfl
  rw [hclimbs] at hplace
  cases hplace

end ModulePath

end BuildSettings
