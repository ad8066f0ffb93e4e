/-
# Modules inside modules

A module path may be continued by another one. In texts this puts a colon between the two,
in accessors a dot and in directories a slash, and in each case nothing else happens: the
segments of both paths stay what they are, in the same order.

Directories are made by joining, which starts over at an absolute path and may or may not
write a slash. For segments neither matters, as none of them is empty or holds a slash. A
directory is therefore spelled like the text of its path, with slashes for the colons, and
no two paths have directories of one spelling.
-/

import BuildSettings.Proofs.ModulePath.Inside
import BuildSettings.Proofs.ModulePath.NormalForm

namespace BuildSettings.ModulePath

open Text (ArePieces)

/-- The path that leads to a module from the root of another one, continued from there. -/
def nest (outer inner : ModulePath) : ModulePath where
  segments := outer.segments ++ inner.segments
  segments_ne_nil := List.append_ne_nil_of_left_ne_nil outer.segments_ne_nil _
  isSegment_of_mem := by
    intro segment hsegment
    rcases List.mem_append.mp hsegment with h | h
    · exact outer.isSegment_of_mem segment h
    · exact inner.isSegment_of_mem segment h

variable (outer inner path : ModulePath)

/-! ## Views of a nested path -/

theorem text_nest : (outer.nest inner).text = outer.text ++ ":" ++ inner.text :=
  String.intercalate_append_of_ne_nil outer.segments_ne_nil inner.segments_ne_nil

theorem name_nest : (outer.nest inner).name = inner.name :=
  List.getLast_append_of_ne_nil _ inner.segments_ne_nil

theorem accessor_nest :
    (outer.nest inner).accessor = outer.accessor ++ "." ++ inner.accessor := by
  rw [accessor, nest, List.map_append]
  apply String.intercalate_append_of_ne_nil
  · simpa using outer.segments_ne_nil
  · simpa using inner.segments_ne_nil

theorem spelling_projectDir : path.projectDir.spelling = "/".intercalate path.segments := by
  rw [← String.toList_inj, toList_projectDir, String.toList_intercalate]
  rfl

theorem spelling_projectDir_nest :
    (outer.nest inner).projectDir.spelling =
      outer.projectDir.spelling ++ "/" ++ inner.projectDir.spelling := by
  simp only [spelling_projectDir]
  exact String.intercalate_append_of_ne_nil outer.segments_ne_nil inner.segments_ne_nil

/-! ## Directories and texts -/

/-- A directory is spelled like the text of its path, with slashes for the colons. -/
theorem spelling_projectDir_eq_map :
    path.projectDir.spelling = path.text.map fun c => if c = ':' then '/' else c := by
  rw [← String.toList_inj, String.toList_map, ← path.arePieces_text.joined,
    Text.map_intercalate '/' path.arePieces_text.not_mem, toList_projectDir]

/-- Between its slashes, a directory has the segments of its path. -/
theorem arePieces_projectDir_iff {pieces : List (List Char)} :
    ArePieces '/' path.projectDir.spelling.toList pieces ↔
      pieces = path.segments.map String.toList := by
  rw [Text.arePieces_iff, ← pieces_projectDir, Path.pieces]

/-- No two paths have directories of one spelling. -/
theorem spelling_projectDir_injective :
    Function.Injective fun path : ModulePath => path.projectDir.spelling := by
  intro path other h
  have hspelling : path.projectDir.spelling = other.projectDir.spelling := h
  have hpieces := path.arePieces_projectDir_iff.mpr rfl
  rw [hspelling] at hpieces
  apply eq_of_toList_segments
  exact other.arePieces_projectDir_iff.mp hpieces

/-- Nesting is a homomorphism. The texts of two paths with a colon between them are read as
one path, which has the segments of both, the name of the inner one, the accessors of both
with a dot between them, and their directories with a slash between them. So every directory
is relative, is spelled like the text of its path with slashes for the colons, and gives the
segments back when it is cut at its slashes; different paths have directories that are
spelled differently. -/
theorem nesting_is_a_homomorphism :
    (∀ outer inner : ModulePath, ∃ path, parse (outer.text ++ ":" ++ inner.text) = .ok path ∧
      path.segments = outer.segments ++ inner.segments ∧ path.name = inner.name ∧
      path.accessor = outer.accessor ++ "." ++ inner.accessor ∧
      path.projectDir.spelling =
        outer.projectDir.spelling ++ "/" ++ inner.projectDir.spelling) ∧
    (∀ path : ModulePath,
      path.projectDir.spelling = (path.text.map fun c => if c = ':' then '/' else c) ∧
      path.projectDir.isAbsolute = false ∧
      ∀ pieces, ArePieces '/' path.projectDir.spelling.toList pieces ↔
        pieces = path.segments.map String.toList) ∧
    Function.Injective fun path : ModulePath => path.projectDir.spelling := by
  refine ⟨?_, ?_, spelling_projectDir_injective⟩
  · intro outer inner
    refine ⟨outer.nest inner, ?_, rfl, outer.name_nest inner, outer.accessor_nest inner,
      outer.spelling_projectDir_nest inner⟩
    rw [← text_nest]
    exact parse_text _
  · intro path
    exact ⟨path.spelling_projectDir_eq_map, path.isAbsolute_projectDir,
      fun _ => path.arePieces_projectDir_iff⟩

end BuildSettings.ModulePath
