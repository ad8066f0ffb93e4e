/-
# The normal form of module paths

A module path is kept as its normal text, in documents as well as in the JSON form of a
workspace. Reading this text gives the path back. Every other text of the path is the normal
one with blanks put around segments and perhaps one colon in front, which may have blanks
before it; so whether two texts name one module can be told from their trimmed segments.

Blanks inside a segment belong to it. What keeps the two kinds apart is that a segment
neither begins nor ends in a blank.
-/

import BuildSettings.Proofs.ModulePath.Spelling
import BuildSettings.Settings

namespace BuildSettings

open Text (IsCore)

/-- A segment is the core of itself: trimming leaves it as it is. -/
theorem IsSegment.isCore {segment : String} (h : IsSegment segment) :
    IsCore segment.toList segment.toList := by
  rw [Text.isCore_iff]
  have htrim := congrArg String.toList h.2.1
  rw [Text.trim, String.toList_ofList] at htrim
  exact htrim.symm

namespace ModulePath

/-- A piece is a segment with blanks on either side of it. -/
def Pads (segment piece : String) : Prop :=
  ∃ before after, Text.blank before = true ∧ Text.blank after = true ∧
    piece = before ++ segment ++ after

/-- A text is made from a path by putting blanks around its segments, and perhaps one colon
in front of them with blanks before it. -/
inductive IsPaddedTo (path : ModulePath) : String → Prop
  | plain {pieces} : List.Forall₂ Pads path.segments pieces →
      IsPaddedTo path (":".intercalate pieces)
  | led {lead pieces} : Text.blank lead = true → List.Forall₂ Pads path.segments pieces →
      IsPaddedTo path (lead ++ ":" ++ ":".intercalate pieces)

variable {path : ModulePath} {raw : String}

/-! ## Texts of a path -/

/-- Blanks around a segment are all that trimming takes away. -/
theorem pads_iff {segment piece : String} (h : IsSegment segment) :
    Pads segment piece ↔ IsCore piece.toList segment.toList := by
  apply Iff.intro
  · intro hpads
    obtain ⟨before, after, hbefore, hafter, rfl⟩ := hpads
    refine ⟨⟨before.toList, after.toList, ?_, ?_, ?_⟩, ?_, ?_⟩
    · simp
    · exact List.all_eq_true.mp hbefore
    · exact List.all_eq_true.mp hafter
    · exact h.isCore.head_not_blank
    · exact h.isCore.last_not_blank
  · intro hcore
    obtain ⟨before, after, hpiece, hbefore, hafter⟩ := hcore.surrounded
    refine ⟨String.ofList before, String.ofList after, ?_, ?_, ?_⟩
    · simpa [Text.blank] using hbefore
    · simpa [Text.blank] using hafter
    · rw [← String.toList_inj]
      simpa using hpiece

theorem forall₂_pads_iff {segments pieces : List String}
    (hsegments : ∀ segment ∈ segments, IsSegment segment) :
    List.Forall₂ Pads segments pieces ↔
      List.Forall₂ (fun piece segment => IsCore piece segment.toList)
        (pieces.map String.toList) segments := by
  rw [List.forall₂_map_left_iff]
  induction segments generalizing pieces with
  | nil => simp
  | cons segment rest ih =>
      obtain ⟨hsegment, hrest⟩ := List.forall_mem_cons.mp hsegments
      simp only [List.forall₂_cons_left_iff, List.forall₂_cons_right_iff, pads_iff hsegment,
        ih hrest]

/-- With a colon in front, what stands before the colon is one more piece. -/
theorem toList_led {lead : String} {pieces : List String}
    (hpieces : List.Forall₂ Pads path.segments pieces) :
    (lead ++ ":" ++ ":".intercalate pieces).toList =
      [':'].intercalate ([lead.toList] ++ pieces.map String.toList) := by
  have hne : pieces.map String.toList ≠ [] := by
    intro hnil
    rw [List.map_eq_nil_iff.mp hnil, List.forall₂_nil_right_iff] at hpieces
    exact path.segments_ne_nil hpieces
  rw [List.singleton_append, List.intercalate_cons_of_ne_nil hne, String.toList_append,
    String.toList_append, String.toList_intercalate]
  rfl

/-- The texts of a path are the texts that it is padded to. -/
theorem isPaddedTo_iff : path.IsPaddedTo raw ↔ path.IsSpelledBy raw := by
  apply Iff.intro
  · intro h
    cases h with
    | plain hpieces =>
        have hcores := (forall₂_pads_iff path.isSegment_of_mem).mp hpieces
        exact ⟨[], _, String.toList_intercalate, .inl rfl, hcores⟩
    | @led lead pieces hlead hpieces =>
        have hcores := (forall₂_pads_iff path.isSegment_of_mem).mp hpieces
        have hblank : ∀ c ∈ lead.toList, Text.isBlank c = true := List.all_eq_true.mp hlead
        exact ⟨[lead.toList], _, toList_led hpieces, .inr ⟨_, rfl, hblank⟩, hcores⟩
  · intro h
    obtain ⟨lead, cores, hraw, hlead, hcores⟩ := h
    -- Spellings are cut into lists of characters, and padding is said of texts.
    obtain ⟨pieces, rfl⟩ : ∃ pieces : List String, pieces.map String.toList = cores :=
      ⟨cores.map String.ofList, by simp⟩
    have hpieces : List.Forall₂ Pads path.segments pieces :=
      (forall₂_pads_iff path.isSegment_of_mem).mpr hcores
    rcases hlead with hnone | ⟨blanks, hone, hblank⟩
    · have htext : raw = ":".intercalate pieces := by
        rw [← String.toList_inj, hraw, hnone, String.toList_intercalate]
        rfl
      rw [htext]
      exact .plain hpieces
    · obtain ⟨front, rfl⟩ : ∃ front : String, front.toList = blanks :=
        ⟨String.ofList blanks, by simp⟩
      have htext : raw = front ++ ":" ++ ":".intercalate pieces := by
        rw [← String.toList_inj, hraw, hone, toList_led hpieces]
      rw [htext]
      exact .led (List.all_eq_true.mpr hblank) hpieces

theorem parse_eq_ok_iff_isPaddedTo : parse raw = .ok path ↔ path.IsPaddedTo raw := by
  rw [parse_eq_ok_iff_isSpelledBy, isPaddedTo_iff]

/-- Reading the normal text of a path gives the path back. -/
theorem parse_text (path : ModulePath) : parse path.text = .ok path := by
  have hpads : List.Forall₂ Pads path.segments path.segments :=
    List.forall₂_same.mpr fun segment _ => ⟨"", "", rfl, rfl, by simp⟩
  exact parse_eq_ok_iff_isPaddedTo.mpr (.plain hpads)

/-- Module paths have one normal form. It is read as the path that it is the text of, alone or
as a value in a document. The texts of a path are made from its segments by putting blanks
around them, and one colon in front if one likes, with blanks before it. Two texts are read
as the same path exactly when their trimmed segments are the same. -/
theorem paths_have_one_normal_form :
    (∀ path : ModulePath,
      parse path.text = .ok path ∧ ofValue (.string path.text) = .ok path) ∧
    (∀ (path : ModulePath) (raw : String), parse raw = .ok path ↔ path.IsPaddedTo raw) ∧
    ∀ (raw raw' : String) (path path' : ModulePath), parse raw = .ok path →
      parse raw' = .ok path' →
        (path = path' ↔ trimmedPieces (body raw) = trimmedPieces (body raw')) := by
  refine ⟨?_, fun _ _ => parse_eq_ok_iff_isPaddedTo, ?_⟩
  · intro path
    have hparse := path.parse_text
    refine ⟨hparse, ?_⟩
    rw [ofValue, Shape.text, ok_bind, hparse]
    rfl
  · intro raw raw' path path' h h'
    rw [parse_eq_ok_iff.mp h, parse_eq_ok_iff.mp h']
    apply Iff.intro
    · intro heq
      rw [heq]
    · exact eq_of_toList_segments

/-- A path with a blank inside a segment. -/
def jsonCore : ModulePath where
  segments := ["libs", "json core"]
  segments_ne_nil := by decide
  isSegment_of_mem := by decide

/-- Another text of the path. -/
def jsonCorePadded : String :=
  " :\tlibs :\u2003json core"

theorem jsonCorePadded_read :
    jsonCore.IsPaddedTo jsonCorePadded ∧ parse jsonCorePadded = .ok jsonCore ∧
      parse jsonCore.text = .ok jsonCore ∧
        trimmedPieces (body jsonCorePadded) = trimmedPieces (body jsonCore.text) := by
  obtain ⟨hnormal, hread, hsame⟩ := paths_have_one_normal_form
  have hpads : List.Forall₂ Pads jsonCore.segments ["\tlibs ", "\u2003json core"] :=
    .cons ⟨"\t", " ", rfl, rfl, rfl⟩ (.cons ⟨"\u2003", "", rfl, rfl, rfl⟩ .nil)
  have hpadded : jsonCore.IsPaddedTo jsonCorePadded := @IsPaddedTo.led _ " " _ rfl hpads
  have hparse : parse jsonCorePadded = .ok jsonCore := (hread _ _).mpr hpadded
  have htext : parse jsonCore.text = .ok jsonCore := (hnormal jsonCore).1
  exact ⟨hpadded, hparse, htext, (hsame _ _ _ _ hparse htext).mp rfl⟩

end ModulePath

end BuildSettings
