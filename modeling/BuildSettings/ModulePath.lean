/-
# Module paths

A module is named by the segments that lead to it from the root project. Read
from text, segments are separated by colons, one leading colon is optional and
blanks around a segment do not count; every module path therefore has one
normal text. A path gives the module its name, its directory and the accessor
under which build scripts see it.
-/

import BuildSettings.Failure
import BuildSettings.NameMap
import BuildSettings.Path
import BuildSettings.Text.UpperCase

namespace BuildSettings

/-- Why a text names no module. -/
inductive ModulePathFault
  | emptyPath
  | emptySegment
  | slash
  deriving Repr, DecidableEq

/-- A text that names no module, with the leftmost fault in it. -/
structure ModulePathError where
  raw : String
  fault : ModulePathFault
  deriving Repr, DecidableEq

/-- The wording of a fault. -/
def ModulePathFault.message : ModulePathFault → String
  | .emptyPath => "path is empty"
  | .emptySegment => "path contains an empty segment"
  | .slash => "use ':' to separate nested modules"

/-- The wording of the error quotes the text as it was given. -/
def ModulePathError.message (error : ModulePathError) : String :=
  "Invalid module path '" ++ error.raw ++ "': " ++ error.fault.message

/-- A rejected module path is a fault of the settings document. -/
def ModulePathError.toFailure (error : ModulePathError) : Failure :=
  ⟨.settings, error.message⟩

/-- The characters that no segment holds. -/
def isSegmentBreak (c : Char) : Bool :=
  c == ':' || c == '/' || c == '\\'

/-- A segment is a trimmed text that is not empty and holds no colon and no slash. -/
def IsSegment (text : String) : Prop :=
  text ≠ "" ∧ Text.trim text = text ∧ ∀ c ∈ text.toList, isSegmentBreak c = false

instance (text : String) : Decidable (IsSegment text) :=
  decidable_of_iff
    (text ≠ "" ∧ Text.trim text = text ∧ (text.toList.all fun c => !isSegmentBreak c) = true)
    (by simp [IsSegment])

theorem IsSegment.toList_ne_nil {text : String} (h : IsSegment text) : text.toList ≠ [] :=
  fun hnil => h.1 (String.toList_eq_nil_iff.mp hnil)

theorem IsSegment.not_mem_of_isSegmentBreak {text : String} {c : Char} (h : IsSegment text)
    (hc : isSegmentBreak c = true) : c ∉ text.toList := by
  intro hmem
  rw [h.2.2 c hmem] at hc
  cases hc

/-- The path of a module: at least one segment, outermost first. -/
@[ext]
structure ModulePath where
  segments : List String
  segments_ne_nil : segments ≠ []
  isSegment_of_mem : ∀ s ∈ segments, IsSegment s
  deriving DecidableEq

namespace ModulePath

/-- What is left of a text without the blanks around it and one leading colon. -/
def body (raw : String) : List Char :=
  match Text.trimChars raw.toList with
  | ':' :: rest => rest
  | whole => whole

/-- The fault of one trimmed piece between colons. -/
def pieceFault? (piece : List Char) : Option ModulePathFault :=
  if piece = [] then some .emptySegment
  else if piece.any fun c => c == '/' || c == '\\' then some .slash
  else none

theorem not_mem_of_mem_splitOn {sep : Char} {cs piece : List Char}
    (h : piece ∈ cs.splitOn sep) : sep ∉ piece := by
  induction cs generalizing piece with
  | nil =>
    rw [List.splitOn_nil, List.mem_singleton] at h
    simp [h]
  | cons c cs ih =>
    rw [List.splitOn_cons_eq_if_modifyHead] at h
    split at h
    · rcases List.mem_cons.mp h with rfl | h
      · simp
      · exact ih h
    · rename_i hc
      cases hs : cs.splitOn sep with
      | nil => exact absurd hs (List.splitOn_ne_nil sep cs)
      | cons first rest =>
        rw [hs, List.modifyHead_cons] at h
        rcases List.mem_cons.mp h with rfl | h
        · have := @ih first (by simp [hs])
          simp only [List.mem_cons, not_or]
          exact ⟨fun e => hc (by simp [e]), this⟩
        · exact ih (by simp [hs, h])

/-- A trimmed piece between colons that has no fault is a segment. -/
theorem isSegment_of_pieceFault?_eq_none {cs piece : List Char}
    (hmem : piece ∈ cs.splitOn ':') (h : pieceFault? (Text.trimChars piece) = none) :
    IsSegment (String.ofList (Text.trimChars piece)) := by
  unfold pieceFault? at h
  split at h
  · simp at h
  · rename_i hne
    split at h
    · simp at h
    · rename_i hslash
      refine ⟨?_, ?_, ?_⟩
      · intro e
        apply hne
        rw [← String.toList_ofList (l := Text.trimChars piece), e]
        rfl
      · simp [Text.trim, Text.trimChars_idem]
      · intro c hc
        rw [String.toList_ofList] at hc
        have hcolon : c ≠ ':' := by
          rintro rfl
          exact not_mem_of_mem_splitOn hmem (Text.mem_of_mem_trimChars hc)
        simp only [List.any_eq_true, not_exists, not_and, Bool.not_eq_true] at hslash
        simpa [isSegmentBreak, hcolon] using hslash c hc

/-- Read a module path, or report the leftmost fault of the text. -/
def parse (raw : String) : Except ModulePathError ModulePath :=
  if body raw = [] then .error ⟨raw, .emptyPath⟩
  else
    match h : ((body raw).splitOn ':').findSome? (pieceFault? ∘ Text.trimChars) with
    | some fault => .error ⟨raw, fault⟩
    | none =>
      .ok {
        segments := ((body raw).splitOn ':').map fun piece => String.ofList (Text.trimChars piece)
        segments_ne_nil := by simp [List.splitOn_ne_nil]
        isSegment_of_mem := by
          intro s hs
          obtain ⟨piece, hpiece, rfl⟩ := List.mem_map.mp hs
          exact isSegment_of_pieceFault?_eq_none hpiece (List.findSome?_eq_none_iff.mp h piece hpiece)
      }

/-- The normal text of a module path. -/
def text (path : ModulePath) : String :=
  ":".intercalate path.segments

/-- The name of a module is its last segment. -/
def name (path : ModulePath) : String :=
  path.segments.getLast path.segments_ne_nil

/-- The directory of a module below the root of the workspace: each segment is
a directory inside the one before it. -/
def projectDir (path : ModulePath) : Path :=
  path.segments.foldl (fun dir segment => dir.join ⟨segment⟩) ⟨""⟩

/-- The characters between the words of a segment. -/
def isWordBreak (c : Char) : Bool :=
  c == '-' || c == '_' || c == ' '

/-- The words of a segment: its longest runs without a word break. -/
def words (segment : List Char) : List (List Char) :=
  (segment.splitOnP isWordBreak).filter (· ≠ [])

/-- A word with its first character in upper case. -/
def capitalize : List Char → List Char
  | [] => []
  | c :: rest => Text.upperCase c ++ rest

/-- The words of a segment run together, every word but the first capitalized. -/
def camelCase (segment : List Char) : List Char :=
  match words segment with
  | [] => []
  | first :: later => first ++ later.flatMap capitalize

/-- The name under which build scripts see the module, one part a segment. -/
def accessor (path : ModulePath) : String :=
  ".".intercalate (path.segments.map fun segment => String.ofList (camelCase segment.toList))

/-- The texts of some paths, each once, in the order of module paths: by code point. -/
def sortedTexts (paths : List ModulePath) : List String :=
  (NameMap.ofList (paths.map fun path => (path.text, ()))).names

end ModulePath

end BuildSettings
