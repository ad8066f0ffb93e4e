/-
# Spellings of module paths

Many texts name one module. They are spelled by writing its segments with blanks
around them and colons between, behind one more colon if one likes, which may have
blanks in front. Reading gives a path for exactly its spellings.

Reading trims a text before it looks for colons, while a spelling is cut at its
colons first. The two agree because no blank is a colon: blanks around a text end
up in its outermost pieces, where trimming takes them away again.
-/

import BuildSettings.Proofs.FirstFault
import BuildSettings.Proofs.ModulePath.Reading

namespace BuildSettings

open Text (IsCore ArePieces)

namespace ModulePath

/-- A text spells a path: of its pieces between colons, all but perhaps a blank one in
front are the segments with blanks around them. -/
def IsSpelledBy (path : ModulePath) (raw : String) : Prop :=
  ∃ lead pieces, raw.toList = [':'].intercalate (lead ++ pieces) ∧
    (lead = [] ∨ ∃ blank, lead = [blank] ∧ ∀ c ∈ blank, Text.isBlank c = true) ∧
    List.Forall₂ (fun piece segment => IsCore piece segment.toList) pieces path.segments

/-- The trimmed pieces of a text between its colons. -/
def trimmedPieces (cs : List Char) : List (List Char) :=
  (cs.splitOn ':').map Text.trimChars

variable {cs blanks : List Char} {path : ModulePath} {raw : String}

/-! ## Blanks around a text -/

/-- Blanks in front of a text go to its first piece. -/
theorem trimmedPieces_append_left (hblanks : ∀ c ∈ blanks, Text.isBlank c = true) :
    trimmedPieces (blanks ++ cs) = trimmedPieces cs := by
  induction blanks with
  | nil => rfl
  | cons c rest ih =>
      obtain ⟨hc, hrest⟩ := List.forall_mem_cons.mp hblanks
      have hcolon : (c == ':') = false := by
        rw [beq_eq_false_iff_ne]
        rintro rfl
        exact absurd hc (by decide)
      rw [← ih hrest, trimmedPieces, trimmedPieces, List.cons_append,
        List.splitOn_cons_eq_if_modifyHead, hcolon]
      cases (rest ++ cs).splitOn ':' with
      | nil => rfl
      | cons piece later =>
          simp [Text.trimChars_cons_of_blank hc]

/-- Blanks behind a text go to its last piece. -/
theorem trimmedPieces_append_right (hblanks : ∀ c ∈ blanks, Text.isBlank c = true) :
    trimmedPieces (cs ++ blanks) = trimmedPieces cs := by
  have hcolon : ':' ∉ blanks := fun hmem => absurd (hblanks ':' hmem) (by decide)
  have hsame : List.Forall₂ (fun piece longer => Text.trimChars piece = Text.trimChars longer)
      (cs.splitOn ':') ((cs ++ blanks).splitOn ':') := by
    refine (Text.forall₂_splitOn_append hcolon cs).imp ?_
    intro piece longer h
    rcases h with rfl | rfl
    · rfl
    · exact (Text.trimChars_append_of_blank hblanks).symm
  rw [trimmedPieces, trimmedPieces, eq_comm, ← List.forall₂_eq_eq_eq,
    List.forall₂_map_left_iff, List.forall₂_map_right_iff]
  exact hsame

/-- Trimming a text does not change its trimmed pieces. -/
theorem trimmedPieces_trimChars (cs : List Char) :
    trimmedPieces (Text.trimChars cs) = trimmedPieces cs := by
  obtain ⟨before, after, hcs, hbefore, hafter⟩ := (Text.isCore_trimChars cs).surrounded
  conv => rhs; rw [hcs]
  rw [trimmedPieces_append_right hafter, trimmedPieces_append_left hbefore]

/-! ## The pieces that reading looks at -/

/-- No segment is empty. -/
theorem nil_not_mem_segments (path : ModulePath) : [] ∉ path.segments.map String.toList := by
  intro hmem
  obtain ⟨segment, hsegment, hnil⟩ := List.mem_map.mp hmem
  exact (path.isSegment_of_mem segment hsegment).toList_ne_nil hnil

/-- A piece can be a segment when trimming makes it one. -/
theorem isSound_of_isSegment {piece : List Char} {segment : String} (h : IsSegment segment)
    (htrim : Text.trimChars piece = segment.toList) : IsSound piece := by
  have hnot : ∀ c, Text.isBlank c = false → isSegmentBreak c = true → c ∉ piece := by
    intro c hblank hc
    rw [← Text.mem_trimChars_iff hblank, htrim]
    exact h.not_mem_of_isSegmentBreak hc
  refine ⟨?_, hnot '/' (by decide) rfl, hnot '\\' (by decide) rfl⟩
  have hsome : ¬ ∀ c ∈ piece, Text.isBlank c = true := by
    rw [← Text.trimChars_eq_nil_iff, htrim]
    exact h.toList_ne_nil
  simpa using hsome

/-- Reading gives the path whose segments are the trimmed pieces. -/
theorem parse_eq_ok_iff :
    parse raw = .ok path ↔ trimmedPieces (body raw) = path.segments.map String.toList := by
  have hsegments : ∀ {read}, parse raw = .ok read →
      trimmedPieces (body raw) = read.segments.map String.toList := by
    intro read h
    rw [segments_of_parse h, trimmedPieces, List.map_map]
    simp [Text.trim]
  refine ⟨hsegments, ?_⟩
  intro h
  have hread : ∃ read, parse raw = .ok read := by
    rw [exists_parse_eq_ok_iff]
    refine ⟨?_, ?_⟩
    · intro hempty
      apply nil_not_mem_segments path
      rw [← h, hempty]
      exact List.mem_cons_self
    · intro piece hpiece
      have htrim : Text.trimChars piece ∈ path.segments.map String.toList :=
        h ▸ List.mem_map_of_mem hpiece
      obtain ⟨segment, hsegment, htrim⟩ := List.mem_map.mp htrim
      exact isSound_of_isSegment (path.isSegment_of_mem segment hsegment) htrim.symm
  obtain ⟨read, hread⟩ := hread
  rw [hread, eq_of_toList_segments ((hsegments hread).symm.trans h)]

/-- A trimmed text whose first piece is blank begins with a colon, unless it is empty. -/
theorem exists_eq_colon_cons {segments : List (List Char)} (hne : segments ≠ [])
    (hhead : ∀ c, cs.head? = some c → Text.isBlank c = false)
    (h : trimmedPieces cs = [] :: segments) : ∃ rest, cs = ':' :: rest := by
  cases cs with
  | nil => exact absurd (List.cons.inj h).2.symm hne
  | cons c rest =>
      rw [trimmedPieces, List.splitOn_cons_eq_if_modifyHead] at h
      split at h
      · rename_i hcolon
        exact ⟨rest, by rw [eq_of_beq hcolon]⟩
      · cases hpieces : rest.splitOn ':' with
        | nil => exact absurd hpieces (List.splitOn_ne_nil _ _)
        | cons piece later =>
            rw [hpieces, List.modifyHead_cons, List.map_cons] at h
            have hblank := Text.trimChars_eq_nil_iff.mp (List.cons.inj h).1 c List.mem_cons_self
            rw [hhead c rfl] at hblank
            cases hblank

/-- The pieces that reading looks at are those of the text, but for a blank one in front. -/
theorem trimmedPieces_body_iff {segments : List (List Char)} (hne : segments ≠ [])
    (hnil : [] ∉ segments) :
    trimmedPieces (body raw) = segments ↔
      trimmedPieces raw.toList = segments ∨ trimmedPieces raw.toList = [] :: segments := by
  rw [← trimmedPieces_trimChars raw.toList, body]
  have hcore := Text.isCore_trimChars raw.toList
  generalize Text.trimChars raw.toList = core at hcore ⊢
  split
  · rename_i rest
    have hcolon : trimmedPieces (':' :: rest) = [] :: trimmedPieces rest := rfl
    rw [hcolon]
    apply Iff.intro
    · intro h
      exact .inr (congrArg ([] :: ·) h)
    · intro h
      rcases h with h | h
      · exact absurd (h ▸ List.mem_cons_self) hnil
      · exact (List.cons.inj h).2
  · rename_i hcolon
    apply Iff.intro
    · exact .inl
    · intro h
      rcases h with h | h
      · exact h
      · obtain ⟨rest, hrest⟩ := exists_eq_colon_cons hne hcore.head_not_blank h
        exact absurd hrest (hcolon rest)

/-! ## Spellings -/

/-- A text is joined from pieces around some segments when these are its trimmed pieces. -/
theorem trimmedPieces_eq_iff {segments : List (List Char)} (hne : segments ≠ [])
    (hcolon : ∀ segment ∈ segments, ':' ∉ segment) :
    trimmedPieces cs = segments ↔ ∃ pieces, cs = [':'].intercalate pieces ∧
      List.Forall₂ IsCore pieces segments := by
  have hcores : ∀ pieces, List.Forall₂ IsCore pieces segments ↔
      pieces.map Text.trimChars = segments := by
    intro pieces
    apply forall₂_iff_map_eq
    intro piece segment
    rw [Text.isCore_iff, eq_comm]
  simp only [hcores]
  apply Iff.intro
  · intro h
    exact ⟨cs.splitOn ':', (List.intercalate_splitOn ':').symm, h⟩
  · intro h
    rcases h with ⟨pieces, rfl, h⟩
    have hpieces : ArePieces ':' ([':'].intercalate pieces) pieces := by
      refine ⟨?_, rfl, ?_⟩
      · rintro rfl
        exact hne h.symm
      · intro piece hpiece hmem
        rw [← Text.mem_trimChars_iff (by decide)] at hmem
        exact hcolon _ (h ▸ List.mem_map_of_mem hpiece) hmem
    rw [trimmedPieces, ← Text.arePieces_iff.mp hpieces, h]

/-- Reading gives a path for its spellings and for nothing else. -/
theorem parse_eq_ok_iff_isSpelledBy : parse raw = .ok path ↔ path.IsSpelledBy raw := by
  have hne : path.segments.map String.toList ≠ [] := by
    simpa using path.segments_ne_nil
  have hcolon : ∀ segment ∈ path.segments.map String.toList, ':' ∉ segment :=
    path.arePieces_text.not_mem
  rw [parse_eq_ok_iff, trimmedPieces_body_iff hne (nil_not_mem_segments path),
    trimmedPieces_eq_iff hne hcolon, trimmedPieces_eq_iff (List.cons_ne_nil _ _)
      (List.forall_mem_cons.mpr ⟨List.not_mem_nil, hcolon⟩)]
  simp only [List.forall₂_map_right_iff]
  apply Iff.intro
  · intro h
    rcases h with ⟨pieces, hraw, hpieces⟩ | ⟨pieces, hraw, hpieces⟩
    · exact ⟨[], pieces, hraw, .inl rfl, hpieces⟩
    · cases hpieces with
      | cons hblank hpieces =>
          refine ⟨[_], _, hraw, .inr ⟨_, rfl, ?_⟩, List.forall₂_map_right_iff.mp hpieces⟩
          exact Text.trimChars_eq_nil_iff.mp hblank.trimChars_eq
  · intro h
    rcases h with ⟨lead, pieces, hraw, rfl | ⟨blank, rfl, hblank⟩, hpieces⟩
    · exact .inl ⟨pieces, hraw, hpieces⟩
    · refine .inr ⟨blank :: pieces, hraw, .cons ?_ (List.forall₂_map_right_iff.mpr hpieces)⟩
      exact Text.isCore_iff.mpr (Text.trimChars_eq_nil_iff.mpr hblank).symm

end ModulePath

end BuildSettings
