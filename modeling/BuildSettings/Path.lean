/-
# Paths

A path is a text whose pieces are separated by slashes. It is printed exactly
as it was written, but compared by its components: repeated slashes, `.` pieces
after the first and a trailing slash make no difference, a leading `.` and
every `..` do. Nothing here asks the file system.
-/

import BuildSettings.Text.Blank

namespace BuildSettings

/-- A file system path, kept as it was written. -/
structure Path where
  spelling : String
  deriving Repr

/-- One step of a path, the unit of comparison between paths. -/
inductive PathComponent
  | root
  | here
  | up
  | name (text : String)
  deriving Repr, DecidableEq

namespace Path

/-- The texts between the slashes; never an empty list. -/
def pieces (path : Path) : List (List Char) :=
  path.spelling.toList.splitOn '/'

/-- The component a piece stands for when something stands before it: empty
pieces and `.` stand for nothing. -/
def innerComponent? (piece : List Char) : Option PathComponent :=
  if piece = [] ∨ piece = ['.'] then none
  else if piece = ['.', '.'] then some .up
  else some (.name (String.ofList piece))

/-- The component the first piece stands for: an empty first piece is the root
when a slash follows it and nothing otherwise. -/
def leadingComponent? (piece : List Char) (slashFollows : Bool) : Option PathComponent :=
  if piece = [] then (if slashFollows then some .root else none)
  else if piece = ['.'] then some .here
  else innerComponent? piece

/-- The components of a path, first to last. -/
def components (path : Path) : List PathComponent :=
  match path.pieces with
  | [] => []
  | first :: rest =>
    (leadingComponent? first (!rest.isEmpty)).toList ++ rest.filterMap innerComponent?

/-- Two paths are the same when their components agree; spellings may differ. -/
def same (a b : Path) : Bool :=
  a.components == b.components

theorem same_iff {a b : Path} : a.same b = true ↔ a.components = b.components :=
  beq_iff_eq

/-- An absolute path starts at the root. -/
def isAbsolute (path : Path) : Bool :=
  path.spelling.toList.head? == some '/'

/-- `base.join next` is `next` seen from `base`: an absolute `next` stands for
itself, any other is written behind `base` with one slash between the two. -/
def join (base next : Path) : Path :=
  if next.isAbsolute then next
  else if base.spelling.toList.getLast?.all (· == '/') then
    ⟨base.spelling ++ next.spelling⟩
  else ⟨base.spelling ++ "/" ++ next.spelling⟩

/-- Pieces written with slashes between them; a lone empty piece is the root. -/
def spell (pieces : List (List Char)) : Path :=
  if pieces = [[]] then ⟨"/"⟩ else ⟨String.ofList (['/'].intercalate pieces)⟩

/-- A piece that stands for nothing unless it comes first. -/
def isIdle (piece : List Char) : Bool :=
  piece == [] || piece == ['.']

/-- The path without its last component, spelled as it is there. The empty path
and the root have none; a relative path of one component has the empty path. -/
def parent? (path : Path) : Option Path :=
  match path.pieces with
  | [] => none
  | first :: rest =>
    let steps := Text.dropTailWhile isIdle rest
    if steps = [] then (if first = [] then none else some ⟨""⟩)
    else some (spell (first :: Text.dropTailWhile isIdle steps.dropLast))

theorem intercalate_cons_slash (first : List Char) (rest : List (List Char)) :
    ['/'].intercalate (first :: rest) = first ++ (rest.map ('/' :: ·)).flatten := by
  induction rest generalizing first with
  | nil => simp [List.intercalate]
  | cons next rest ih => rw [List.intercalate_cons_cons, ih]; simp

theorem toList_eq_intercalate_pieces (path : Path) :
    path.spelling.toList = ['/'].intercalate path.pieces :=
  (List.intercalate_splitOn '/').symm

/-- Going up makes the spelling shorter, so every chain of parents ends. -/
theorem length_parent?_lt {path above : Path} (h : path.parent? = some above) :
    above.spelling.length < path.spelling.length := by
  have chars := toList_eq_intercalate_pieces path
  unfold parent? at h
  cases hp : path.pieces with
  | nil => simp [hp] at h
  | cons first rest =>
    rw [hp, intercalate_cons_slash] at chars
    have size : path.spelling.length = first.length + (rest.map ('/' :: ·)).flatten.length := by
      rw [← String.length_toList, chars, List.length_append]
    obtain ⟨idle, hrest⟩ := Text.dropTailWhile_prefix isIdle rest
    simp only [hp] at h
    by_cases hsteps : Text.dropTailWhile isIdle rest = []
    · simp only [hsteps, if_true] at h
      split at h
      · simp at h
      · rename_i hfirst
        obtain rfl := Option.some.inj h
        have := List.length_pos_iff.mpr hfirst
        simp only [String.length_empty]
        omega
    · simp only [hsteps, if_false, Option.some.injEq] at h
      have hlast : isIdle ((Text.dropTailWhile isIdle rest).getLast hsteps) = false :=
        Text.dropTailWhile_getLast (List.getLast?_eq_some_getLast hsteps)
      have hsplit := List.dropLast_concat_getLast hsteps
      generalize (Text.dropTailWhile isIdle rest).getLast hsteps = last at hlast hsplit
      generalize (Text.dropTailWhile isIdle rest).dropLast = steps at h hsplit
      obtain ⟨skipped, hsteps'⟩ := Text.dropTailWhile_prefix isIdle steps
      have hpos : 0 < last.length := by
        cases last with
        | nil => simp [isIdle] at hlast
        | cons c cs => simp
      rw [← hrest, ← hsplit, ← hsteps'] at size
      simp only [List.map_append, List.flatten_append, List.length_append, List.map_cons,
        List.map_nil, List.flatten_cons, List.flatten_nil, List.length_cons,
        List.append_nil] at size
      subst h
      unfold spell
      split
      · show "/".length < _
        have : "/".length = 1 := rfl
        omega
      · rw [String.length_ofList, intercalate_cons_slash, List.length_append]
        omega

/-- The path itself, its parent, the parent of that, and so on. -/
def ancestors (path : Path) : List Path :=
  match _h : path.parent? with
  | none => [path]
  | some above => path :: ancestors above
termination_by path.spelling.length
decreasing_by exact length_parent?_lt _h

end Path

end BuildSettings
