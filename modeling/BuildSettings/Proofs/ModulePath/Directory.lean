/-
# Directories of modules

The directory of a module is made by joining its segments one after the other.
Segments are not empty and hold no slash, so no join starts over and each puts one
slash: the directory is spelled by the segments with slashes between them, and cut
at its slashes it gives the segments back.

Directories are compared by their components, and that is where a segment `.`
matters. In front it is a component of its own, but behind another segment it names
the directory it stands in and adds nothing. Apart from that no segment is lost.
-/

import BuildSettings.Proofs.ModulePath.Reading
import BuildSettings.Proofs.Path.Parents

namespace BuildSettings

namespace ModulePath

variable {path : ModulePath} {segment : String}

/-! ## Spelling -/

/-- Joining segments to a directory that ends in one writes each behind a slash. The
induction is on the segments to come; the directory always ends in the last of them. -/
theorem toList_foldl_join {segments : List String} {base : Path}
    (hsegments : ∀ segment ∈ segments, IsSegment segment)
    (hbase : base.spelling.toList ≠ []) (hlast : base.spelling.toList.getLast? ≠ some '/') :
    (segments.foldl (fun dir segment => dir.join ⟨segment⟩) base).spelling.toList =
      base.spelling.toList ++ (segments.map fun segment => '/' :: segment.toList).flatten := by
  induction segments generalizing base with
  | nil => simp
  | cons segment rest ih =>
      obtain ⟨hsegment, hrest⟩ := List.forall_mem_cons.mp hsegments
      have hne := hsegment.toList_ne_nil
      have hslash := hsegment.not_mem_of_isSegmentBreak (c := '/') rfl
      have hjoin := Path.toList_join hbase hlast hslash
      have hlast' : (base.join ⟨segment⟩).spelling.toList.getLast? ≠ some '/' := by
        have hend := List.getLast?_eq_some_getLast hne
        rw [hjoin, List.getLast?_append, List.getLast?_cons_of_ne_nil hne, hend, Option.some_or,
          ← hend]
        exact fun h => hslash (List.mem_of_getLast? h)
      rw [List.foldl_cons, ih hrest (by simp [hjoin]) hlast', hjoin]
      simp

/-- A directory is spelled by the segments with slashes between them. -/
theorem toList_projectDir (path : ModulePath) :
    path.projectDir.spelling.toList = ['/'].intercalate (path.segments.map String.toList) := by
  have hsegments := path.isSegment_of_mem
  rw [projectDir]
  cases hpath : path.segments with
  | nil => exact absurd hpath path.segments_ne_nil
  | cons first rest =>
      rw [hpath] at hsegments
      obtain ⟨hfirst, hrest⟩ := List.forall_mem_cons.mp hsegments
      have hslash := hfirst.not_mem_of_isSegmentBreak (c := '/') rfl
      have hstart : (Path.join ⟨""⟩ ⟨first⟩).spelling.toList = first.toList := by
        simp [Path.join, Path.isAbsolute_eq_false hslash]
      have hlast : first.toList.getLast? ≠ some '/' := fun h => hslash (List.mem_of_getLast? h)
      rw [List.foldl_cons, toList_foldl_join hrest (by rw [hstart]; exact hfirst.toList_ne_nil)
        (by rwa [hstart]), hstart, List.map_cons, Path.intercalate_cons_slash, List.map_map]
      rfl

/-- Cut at its slashes, a directory gives the segments back. -/
theorem pieces_projectDir (path : ModulePath) :
    path.projectDir.pieces = path.segments.map String.toList := by
  rw [Path.pieces, toList_projectDir]
  apply List.splitOn_intercalate
  · intro piece hpiece
    obtain ⟨segment, hsegment, rfl⟩ := List.mem_map.mp hpiece
    exact (path.isSegment_of_mem segment hsegment).not_mem_of_isSegmentBreak rfl
  · simpa using path.segments_ne_nil

/-! ## Components -/

/-- The segments that make a component of the directory: a segment `.` behind the first
one names the directory that it stands in. -/
def directorySegments (path : ModulePath) : List String :=
  match path.segments with
  | [] => []
  | first :: rest => first :: rest.filter (· ≠ ".")

/-- The component that a segment makes. -/
def segmentComponent (segment : String) : PathComponent :=
  if segment = "." then .here
  else if segment = ".." then .up
  else .name segment

theorem segmentComponent_injective : Function.Injective segmentComponent := by
  intro a b h
  grind [segmentComponent]

theorem innerComponent?_toList (hsegment : IsSegment segment) :
    Path.innerComponent? segment.toList =
      if segment = "." then none else some (segmentComponent segment) := by
  have hdot : segment = "." ↔ segment.toList = ['.'] := String.toList_inj.symm
  have hdots : segment = ".." ↔ segment.toList = ['.', '.'] := String.toList_inj.symm
  simp only [Path.innerComponent?, segmentComponent, hsegment.toList_ne_nil, false_or, hdot,
    hdots, String.ofList_toList]
  split
  · rfl
  · split <;> rfl

theorem leadingComponent?_toList (hsegment : IsSegment segment) (slashFollows : Bool) :
    Path.leadingComponent? segment.toList slashFollows = some (segmentComponent segment) := by
  have hdot : segment = "." ↔ segment.toList = ['.'] := String.toList_inj.symm
  rw [Path.leadingComponent?, if_neg hsegment.toList_ne_nil, innerComponent?_toList hsegment]
  simp only [← hdot]
  split
  · rename_i h
    rw [segmentComponent, if_pos h]
  · rfl

theorem filterMap_innerComponent? {segments : List String}
    (hsegments : ∀ segment ∈ segments, IsSegment segment) :
    (segments.map String.toList).filterMap Path.innerComponent? =
      (segments.filter (· ≠ ".")).map segmentComponent := by
  induction segments with
  | nil => rfl
  | cons segment rest ih =>
      obtain ⟨hsegment, hrest⟩ := List.forall_mem_cons.mp hsegments
      rw [List.map_cons, List.filterMap_cons, innerComponent?_toList hsegment, ih hrest]
      by_cases hdot : segment = "."
      · simp [hdot]
      · simp [hdot]

/-- A directory has one component for each segment that makes one. -/
theorem components_projectDir (path : ModulePath) :
    path.projectDir.components = path.directorySegments.map segmentComponent := by
  have hsegments := path.isSegment_of_mem
  rw [Path.components, pieces_projectDir, directorySegments]
  cases hpath : path.segments with
  | nil => rfl
  | cons first rest =>
      rw [hpath] at hsegments
      obtain ⟨hfirst, hrest⟩ := List.forall_mem_cons.mp hsegments
      simp only [List.map_cons, leadingComponent?_toList hfirst, Option.toList_some,
        filterMap_innerComponent? hrest, List.singleton_append]

/-- Two directories are the same when the segments that make their components are. -/
theorem same_projectDir_iff {p q : ModulePath} :
    p.projectDir.same q.projectDir = true ↔ p.directorySegments = q.directorySegments := by
  rw [Path.same_iff, components_projectDir, components_projectDir,
    List.map_inj_right segmentComponent_injective]

/-- Without a segment `.` behind the first one no segment is lost. -/
theorem directorySegments_eq_segments (hdot : "." ∉ path.segments.tail) :
    path.directorySegments = path.segments := by
  rw [directorySegments]
  cases hpath : path.segments with
  | nil => rfl
  | cons first rest =>
      rw [hpath, List.tail_cons] at hdot
      have hkept : rest.filter (· ≠ ".") = rest := by
        rw [List.filter_eq_self]
        intro segment hsegment
        rw [decide_eq_true_eq]
        rintro rfl
        exact hdot hsegment
      show first :: rest.filter (· ≠ ".") = first :: rest
      rw [hkept]

end ModulePath

end BuildSettings
