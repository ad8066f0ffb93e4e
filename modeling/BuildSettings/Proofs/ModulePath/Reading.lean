/-
# Reading module paths

A text names a module when each of its pieces between colons can be a segment.
The pieces are those of the text without the blanks around it and without one
leading colon; a piece can be a segment when something other than blanks is in
it and no slash is. Here this is said of the text alone, and reading is shown to
follow it: it succeeds on exactly these texts, it reads the trimmed pieces in
their order, and otherwise it reports the leftmost piece that cannot be a
segment.

The normal text of a path has its segments as pieces, so a path can be stored as
its text and taken apart again, and no two paths have the same text.
-/

import BuildSettings.Proofs.Text.Pieces
import BuildSettings.Proofs.Text.Trim

namespace BuildSettings

open Text (IsCore ArePieces)

namespace ModulePath

/-! ## Pieces of a raw text -/

/-- The rest of a raw text behind the blanks in front and at most one colon, up to
the blanks at the end. -/
def IsBody (raw : String) (rest : List Char) : Prop :=
  ∃ core, IsCore raw.toList core ∧
    (core = ':' :: rest ∨ core = rest ∧ rest.head? ≠ some ':')

/-- A piece that can be a segment. -/
structure IsSound (piece : List Char) : Prop where
  not_blank : ∃ c ∈ piece, Text.isBlank c = false
  no_slash : '/' ∉ piece
  no_backslash : '\\' ∉ piece

/-- Why a piece cannot be a segment. -/
inductive HasFault (piece : List Char) : ModulePathFault → Prop
  | blank : (∀ c ∈ piece, Text.isBlank c = true) → HasFault piece .emptySegment
  | slash : '/' ∈ piece ∨ '\\' ∈ piece → HasFault piece .slash

/-- The leftmost fault of a text, given as its rest and the pieces of that. An
empty rest is a fault of its own; otherwise some piece has the fault and every
piece to its left can be a segment. -/
def LeftmostFault (rest : List Char) (pieces : List (List Char))
    (fault : ModulePathFault) : Prop :=
  rest = [] ∧ fault = .emptyPath ∨
    rest ≠ [] ∧ ∃ passed piece later, pieces = passed ++ piece :: later ∧
      (∀ other ∈ passed, IsSound other) ∧ HasFault piece fault

/-- The rest that reading works on is the rest of the text, and it has no other. -/
theorem isBody_iff {raw : String} {rest : List Char} : IsBody raw rest ↔ rest = body raw := by
  unfold IsBody body
  simp only [Text.isCore_iff, exists_eq_left]
  split
  · rename_i whole heq
    rw [heq]
    apply Iff.intro
    · intro h
      rcases h with h | ⟨h, hcolon⟩
      · exact (List.cons.inj h).2.symm
      · rw [← h] at hcolon
        simp at hcolon
    · intro heq
      subst heq
      exact .inl rfl
  · rename_i hcolon
    apply Iff.intro
    · intro h
      rcases h with h | ⟨h, -⟩
      · exact absurd h (hcolon rest)
      · exact h.symm
    · intro heq
      subst heq
      refine .inr ⟨rfl, ?_⟩
      intro h
      obtain ⟨tail, htail⟩ := List.head?_eq_some_iff.mp h
      exact hcolon tail htail

/-! ## The fault of one piece -/

/-- A slash is a slash, before and after trimming. -/
theorem any_slash_trimChars (piece : List Char) :
    ((Text.trimChars piece).any fun c => c == '/' || c == '\\') = true ↔
      '/' ∈ piece ∨ '\\' ∈ piece := by
  have hslash : '/' ∈ Text.trimChars piece ↔ '/' ∈ piece :=
    Text.mem_trimChars_iff (by decide)
  have hback : '\\' ∈ Text.trimChars piece ↔ '\\' ∈ piece :=
    Text.mem_trimChars_iff (by decide)
  rw [← hslash, ← hback, List.any_eq_true]
  apply Iff.intro
  · intro h
    rcases h with ⟨c, hc, h⟩
    rcases Bool.or_eq_true_iff.mp h with h | h
    · exact .inl (eq_of_beq h ▸ hc)
    · exact .inr (eq_of_beq h ▸ hc)
  · intro h
    rcases h with h | h
    · exact ⟨'/', h, rfl⟩
    · exact ⟨'\\', h, rfl⟩

/-- The fault that reading finds in a piece is the reason why the piece cannot be
a segment. -/
theorem pieceFault?_eq_some_iff {piece : List Char} {fault : ModulePathFault} :
    pieceFault? (Text.trimChars piece) = some fault ↔ HasFault piece fault := by
  unfold pieceFault?
  apply Iff.intro
  · intro h
    split at h
    · rename_i hblank
      obtain rfl := Option.some.inj h
      exact .blank (Text.trimChars_eq_nil_iff.mp hblank)
    · split at h
      · rename_i hslash
        obtain rfl := Option.some.inj h
        exact .slash ((any_slash_trimChars piece).mp hslash)
      · cases h
  · intro h
    cases h with
    | blank hblank => rw [if_pos (Text.trimChars_eq_nil_iff.mpr hblank)]
    | slash hslash =>
        have hne : Text.trimChars piece ≠ [] := by
          intro hnil
          have hblank := Text.trimChars_eq_nil_iff.mp hnil
          rcases hslash with h | h
          · exact absurd (hblank _ h) (by decide)
          · exact absurd (hblank _ h) (by decide)
        rw [if_neg hne, if_pos ((any_slash_trimChars piece).mpr hslash)]

/-- Reading finds no fault in a piece exactly when it can be a segment. -/
theorem pieceFault?_eq_none_iff {piece : List Char} :
    pieceFault? (Text.trimChars piece) = none ↔ IsSound piece := by
  apply Iff.intro
  · intro h
    have hno : ∀ fault, ¬ HasFault piece fault := by
      intro fault hfault
      rw [pieceFault?_eq_some_iff.mpr hfault] at h
      cases h
    have hnot : ¬ ∀ c ∈ piece, Text.isBlank c = true := fun hblank => hno _ (.blank hblank)
    refine ⟨?_, fun h => hno _ (.slash (.inl h)), fun h => hno _ (.slash (.inr h))⟩
    simpa using hnot
  · intro h
    rcases h with ⟨⟨c, hc, hblank⟩, hslash, hback⟩
    cases h : pieceFault? (Text.trimChars piece) with
    | none => rfl
    | some fault =>
        cases pieceFault?_eq_some_iff.mp h with
        | blank hall => simp [hall c hc] at hblank
        | slash hany => exact absurd hany (not_or.mpr ⟨hslash, hback⟩)

/-! ## The whole text -/

/-- When there is something to read, the leftmost fault is the first one found in
the pieces. -/
theorem findSome?_pieceFault?_eq_some_iff {rest : List Char} (hne : rest ≠ [])
    {pieces : List (List Char)} {fault : ModulePathFault} :
    pieces.findSome? (pieceFault? ∘ Text.trimChars) = some fault ↔
      LeftmostFault rest pieces fault := by
  rw [List.findSome?_eq_some_iff]
  simp only [Function.comp_apply, pieceFault?_eq_some_iff, pieceFault?_eq_none_iff]
  apply Iff.intro
  · intro h
    rcases h with ⟨passed, piece, later, heq, hfault, hpassed⟩
    exact .inr ⟨hne, passed, piece, later, heq, hpassed, hfault⟩
  · intro h
    rcases h with ⟨hempty, -⟩ | ⟨-, passed, piece, later, heq, hpassed, hfault⟩
    · exact absurd hempty hne
    · exact ⟨passed, piece, later, heq, hfault, hpassed⟩

/-- No fault is found in the pieces exactly when all of them can be segments. -/
theorem findSome?_pieceFault?_eq_none_iff {pieces : List (List Char)} :
    pieces.findSome? (pieceFault? ∘ Text.trimChars) = none ↔
      ∀ piece ∈ pieces, IsSound piece := by
  simp only [List.findSome?_eq_none_iff, Function.comp_apply, pieceFault?_eq_none_iff]

/-- The three ways in which reading ends: there is nothing to read, a piece has a
fault, or the trimmed pieces are the segments. -/
theorem parse_cases (raw : String) :
    (body raw = [] ∧ parse raw = .error ⟨raw, .emptyPath⟩) ∨
    (∃ fault, body raw ≠ [] ∧
      ((body raw).splitOn ':').findSome? (pieceFault? ∘ Text.trimChars) = some fault ∧
        parse raw = .error ⟨raw, fault⟩) ∨
    ∃ path, body raw ≠ [] ∧
      ((body raw).splitOn ':').findSome? (pieceFault? ∘ Text.trimChars) = none ∧
        parse raw = .ok path ∧
          path.segments = ((body raw).splitOn ':').map fun piece =>
            Text.trim (String.ofList piece) := by
  by_cases hempty : body raw = []
  · left
    refine ⟨hempty, ?_⟩
    rw [parse, if_pos hempty]
  · right
    rw [parse, if_neg hempty]
    split
    · rename_i fault hfault
      exact .inl ⟨fault, hempty, hfault, rfl⟩
    · rename_i hnone
      refine .inr ⟨_, hempty, hnone, rfl, ?_⟩
      simp [Text.trim]

/-- Reading reports the leftmost fault and quotes the text. -/
theorem parse_eq_error_iff {raw : String} {error : ModulePathError} :
    parse raw = .error error ↔
      error.raw = raw ∧ LeftmostFault (body raw) ((body raw).splitOn ':') error.fault := by
  obtain ⟨given, fault⟩ := error
  rcases parse_cases raw with ⟨hempty, hparse⟩ | ⟨found, hne, hfound, hparse⟩ |
    ⟨path, hne, hnone, hparse, -⟩
  · rw [hparse]
    apply Iff.intro
    · intro h
      obtain ⟨rfl, rfl⟩ := ModulePathError.mk.inj (Except.error.inj h)
      exact ⟨rfl, .inl ⟨hempty, rfl⟩⟩
    · intro h
      rcases h with ⟨rfl, ⟨-, rfl⟩ | ⟨hne, -⟩⟩
      · rfl
      · exact absurd hempty hne
  · rw [hparse]
    simp only [← findSome?_pieceFault?_eq_some_iff hne]
    apply Iff.intro
    · intro h
      obtain ⟨rfl, rfl⟩ := ModulePathError.mk.inj (Except.error.inj h)
      exact ⟨rfl, hfound⟩
    · intro h
      rcases h with ⟨rfl, h⟩
      rw [Option.some.inj (hfound.symm.trans h)]
  · rw [hparse]
    simp only [← findSome?_pieceFault?_eq_some_iff hne, hnone]
    apply Iff.intro
    · intro h
      cases h
    · intro h
      rcases h with ⟨-, h⟩
      cases h

/-- Reading succeeds when there is something to read and every piece can be a
segment. -/
theorem exists_parse_eq_ok_iff {raw : String} :
    (∃ path, parse raw = .ok path) ↔
      body raw ≠ [] ∧ ∀ piece ∈ (body raw).splitOn ':', IsSound piece := by
  rw [← findSome?_pieceFault?_eq_none_iff]
  rcases parse_cases raw with ⟨hempty, hparse⟩ | ⟨found, -, hfound, hparse⟩ |
    ⟨path, hne, hnone, hparse, -⟩
  · simp [hparse, hempty]
  · simp [hparse, hfound]
  · exact ⟨fun _ => ⟨hne, hnone⟩, fun _ => ⟨path, hparse⟩⟩

/-- What is read are the trimmed pieces, in their order. -/
theorem segments_of_parse {raw : String} {path : ModulePath} (h : parse raw = .ok path) :
    path.segments = ((body raw).splitOn ':').map fun piece =>
      Text.trim (String.ofList piece) := by
  rcases parse_cases raw with ⟨-, hparse⟩ | ⟨found, -, -, hparse⟩ |
    ⟨read, -, -, hparse, hsegments⟩
  · rw [hparse] at h
    cases h
  · rw [hparse] at h
    cases h
  · rw [hparse] at h
    obtain rfl := Except.ok.inj h
    exact hsegments

/-! ## The normal text -/

/-- No segment holds a colon. -/
theorem colon_not_mem_segment {path : ModulePath} {segment : String}
    (h : segment ∈ path.segments) : ':' ∉ segment.toList :=
  (path.isSegment_of_mem segment h).not_mem_of_isSegmentBreak rfl

/-- The pieces of the normal text are the segments. -/
theorem arePieces_text (path : ModulePath) :
    ArePieces ':' path.text.toList (path.segments.map String.toList) := by
  refine ⟨?_, ?_, ?_⟩
  · simpa using path.segments_ne_nil
  · rw [text, String.toList_intercalate]
    rfl
  · intro piece hpiece
    obtain ⟨segment, hsegment, rfl⟩ := List.mem_map.mp hpiece
    exact colon_not_mem_segment hsegment

theorem eq_of_toList_segments {p q : ModulePath}
    (h : p.segments.map String.toList = q.segments.map String.toList) : p = q :=
  ModulePath.ext ((List.map_inj_right fun _ _ => String.ext).mp h)

/-- A path is known by its normal text. -/
theorem text_injective {p q : ModulePath} (h : p.text = q.text) : p = q := by
  have hp := Text.arePieces_iff.mp p.arePieces_text
  have hq := Text.arePieces_iff.mp q.arePieces_text
  rw [← h, ← hp] at hq
  exact eq_of_toList_segments hq.symm

/-- Reading a text succeeds exactly when there is a rest and all pieces of it can
be segments. The segments are the trimmed pieces, and taking the normal text
apart gives them back. Otherwise the leftmost fault is reported. -/
theorem parse_eq_trimmed_pieces (raw : String) :
    ∃ rest pieces,
      (∀ other, IsBody raw other ↔ other = rest) ∧
      (∀ others, ArePieces ':' rest others ↔ others = pieces) ∧
      ((∃ path, parse raw = .ok path) ↔ rest ≠ [] ∧ ∀ piece ∈ pieces, IsSound piece) ∧
      (∀ path, parse raw = .ok path →
        path.segments = pieces.map (fun piece => Text.trim (String.ofList piece)) ∧
          ∀ others, ArePieces ':' path.text.toList others ↔
            others = path.segments.map String.toList) ∧
      ∀ error, parse raw = .error error ↔
        error.raw = raw ∧ LeftmostFault rest pieces error.fault := by
  refine ⟨body raw, (body raw).splitOn ':', ?_, ?_, exists_parse_eq_ok_iff, ?_, ?_⟩
  · intro other
    exact isBody_iff
  · intro others
    exact Text.arePieces_iff
  · intro path hpath
    refine ⟨segments_of_parse hpath, ?_⟩
    intro others
    rw [Text.arePieces_iff, Text.arePieces_iff.mp path.arePieces_text]
  · intro error
    exact parse_eq_error_iff

end ModulePath

end BuildSettings
