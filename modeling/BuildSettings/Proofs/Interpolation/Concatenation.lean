/-
# Interpolating one text behind another

A text may be interpolated in two parts when nothing that is opened in the first part
can be closed, or opened in the first place, by the second. So behind the last reference of
the first part no opening may occur, and none may be begun at the end. Then the
decomposition of the whole is that of the first part followed by that of the second,
with the plain text at the seam put together.

Nothing less will do. Where a cut is not safe there is a second part that completes the
reference, and with it the parts come out longer than the whole.
-/

import Mathlib.Data.List.Infix
import BuildSettings.Proofs.Interpolation.Decomposition

namespace BuildSettings

namespace Template

/-! ## What stands at a seam -/

/-- A mark occurs in two texts one behind the other when it occurs in one of them, or when
it is begun at the end of the first and completed in the second. -/
theorem infix_append_iff {mark first second : List Char} :
    mark <:+: first ++ second ↔ mark <:+: first ∨ mark <:+: second ∨
      ∃ begun rest, begun ≠ [] ∧ rest ≠ [] ∧ mark = begun ++ rest ∧
        begun <:+ first ∧ rest <+: second := by
  apply Iff.intro
  · rintro ⟨before, after, heq⟩
    rw [List.append_assoc] at heq
    rcases List.append_eq_append_iff.mp heq with ⟨inside, hfirst, hrest⟩ | ⟨skipped, -, hsecond⟩
    · rcases List.append_eq_append_iff.mp hrest with ⟨rest, hinside, -⟩ | ⟨rest, hmark, hsecond⟩
      · exact .inl ⟨before, rest, by rw [hfirst, hinside, List.append_assoc]⟩
      · by_cases hbegun : inside = []
        · subst hbegun
          exact .inr (.inl ⟨[], after, by rw [hsecond, hmark]; simp⟩)
        · by_cases hrest : rest = []
          · subst hrest
            exact .inl ⟨before, [], by rw [hfirst, hmark]; simp⟩
          · exact .inr (.inr ⟨inside, rest, hbegun, hrest, hmark, ⟨before, hfirst.symm⟩,
              ⟨after, hsecond.symm⟩⟩)
    · exact .inr (.inl ⟨skipped, after, by rw [hsecond, List.append_assoc]⟩)
  · rintro (hfirst | hsecond | ⟨begun, rest, -, -, rfl, ⟨before, rfl⟩, ⟨after, rfl⟩⟩)
    · exact hfirst.trans (List.prefix_append first second).isInfix
    · exact hsecond.trans (List.suffix_append first second).isInfix
    · exact ⟨before, after, by simp⟩

theorem opening_ne_nil : opening ≠ [] := by
  decide

/-- A text begins no reference: no opening occurs in it, and none is begun at its end. -/
structure BeginsNothing (cs : List Char) : Prop where
  no_opening : ¬ opening <:+: cs
  no_beginning : ∀ begun, begun ≠ [] → begun ≠ opening → begun <+: opening → ¬ begun <:+ cs

variable {first second : Template} {cs before : List Char}

/-- Behind a text that begins no reference, an opening occurs only where it did before. -/
theorem BeginsNothing.not_infix_append (h : BeginsNothing cs) (hbefore : ¬ opening <:+: before) :
    ¬ opening <:+: cs ++ before := by
  rw [infix_append_iff]
  rintro (hfirst | hsecond | ⟨begun, rest, hbegun, hrest, hopening, hend, -⟩)
  · exact h.no_opening hfirst
  · exact hbefore hsecond
  · refine h.no_beginning begun hbegun ?_ ⟨rest, hopening.symm⟩ hend
    rintro rfl
    exact hrest (List.append_cancel_left (hopening.symm.trans (List.append_nil _).symm))

theorem BeginsNothing.ends_append (h : BeginsNothing cs) {tail : List Char} (htail : Ends tail) :
    Ends (cs ++ tail) := by
  rcases htail with hopen | ⟨before, inside, rfl, hbefore, hinside⟩
  · exact .inl (h.not_infix_append hopen)
  · exact .inr ⟨cs ++ before, inside, by rw [List.append_assoc], h.not_infix_append hbefore,
      hinside⟩

/-! ## Templates one behind the other -/

/-- One template behind another. The plain text at the end of the first goes to the first
reference of the second. -/
def append (first second : Template) : Template :=
  match second.references with
  | [] => ⟨first.references, first.tail ++ second.tail⟩
  | (before, key) :: later => ⟨first.references ++ (first.tail ++ before, key) :: later, second.tail⟩

theorem source_append (first second : Template) :
    (first.append second).source = first.source ++ second.source := by
  obtain ⟨references, tail⟩ := second
  cases references with
  | nil => simp [append, source]
  | cons reference later => simp [append, source]

theorem keys_append (first second : Template) :
    (first.append second).keys = first.keys ++ second.keys := by
  obtain ⟨references, tail⟩ := second
  cases references with
  | nil => simp [append, keys]
  | cons reference later => simp [append, keys]

/-- Texts are put together one behind the other, in every kind of effects. -/
theorem expandM_append {m : Type → Type} [Monad m] [LawfulMonad m]
    (ask : String → m (Option String)) (first second : Template) :
    (first.append second).expandM ask = (do
      let text ← first.expandM ask
      let more ← second.expandM ask
      pure (text ++ more)) := by
  obtain ⟨references, tail⟩ := second
  cases references with
  | nil => simp [append, expandM, String.ofList_append, String.append_assoc]
  | cons reference later =>
      simp [append, expandM, String.ofList_append, String.append_assoc]

/-- Two decompositions make one, if the first text begins no reference behind its own. -/
theorem Describes.append {more : List Char} (hfirst : first.Describes cs)
    (hsecond : second.Describes more) (hseam : BeginsNothing first.tail) :
    (first.append second).Describes (cs ++ more) := by
  have hsource : (first.append second).source = cs ++ more := by
    rw [source_append, hfirst.source, hsecond.source]
  obtain ⟨references, tail⟩ := second
  cases references with
  | nil => exact ⟨hsource, hfirst.plain, hfirst.key, hseam.ends_append hsecond.tail⟩
  | cons reference later =>
      refine ⟨hsource, ?_, ?_, hsecond.tail⟩
      · intro other hother
        rcases List.mem_append.mp hother with hmem | hmem
        · exact hfirst.plain other hmem
        · rcases List.mem_cons.mp hmem with rfl | hmem
          · exact hseam.not_infix_append (hsecond.plain reference List.mem_cons_self)
          · exact hsecond.plain other (List.mem_cons_of_mem _ hmem)
      · intro other hother
        rcases List.mem_append.mp hother with hmem | hmem
        · exact hfirst.key other hmem
        · rcases List.mem_cons.mp hmem with rfl | hmem
          · exact hsecond.key reference List.mem_cons_self
          · exact hsecond.key other (List.mem_cons_of_mem _ hmem)

/-- The decomposition of a text that begins no reference, with another text behind it. -/
theorem ofText_append {text more : String} (h : BeginsNothing (ofText text).tail) :
    ofText (text ++ more) = (ofText text).append (ofText more) := by
  have hdescribes := (describes_ofChars text.toList).append (describes_ofChars more.toList) h
  rw [ofText, String.toList_append]
  exact hdescribes.eq_ofChars.symm

/-- A text whose tail is continued to a reference has this reference behind its others. -/
theorem Describes.concat {begun rest key : List Char} {template : Template}
    (h : template.Describes cs) (htail : template.tail = before ++ begun)
    (hcomplete : begun ++ rest = opening ++ (key ++ closing)) (hbefore : ¬ opening <:+: before)
    (hkey : '}' ∉ key) :
    (⟨template.references ++ [(before, key)], []⟩ : Template).Describes (cs ++ rest) where
  source := by
    rw [← h.source, Template.source, Template.source, htail]
    simp [hcomplete]
  plain reference hmem := by
    rcases List.mem_append.mp hmem with hmem | hmem
    · exact h.plain reference hmem
    · rw [List.mem_singleton.mp hmem]
      exact hbefore
  key reference hmem := by
    rcases List.mem_append.mp hmem with hmem | hmem
    · exact h.key reference hmem
    · rw [List.mem_singleton.mp hmem]
      exact hkey
  tail := .inl (fun hopening => opening_ne_nil (List.infix_nil.mp hopening))

/-- A text that begins a reference can be continued so that the reference is complete. -/
theorem exists_completion {tail : List Char} (htail : Ends tail) (h : ¬ BeginsNothing tail) :
    ∃ before begun rest key, tail = before ++ begun ∧ begun ≠ [] ∧
      begun ++ rest = opening ++ (key ++ closing) ∧ ¬ opening <:+: before ∧ '}' ∉ key := by
  rcases htail with hopen | ⟨before, inside, rfl, hbefore, hinside⟩
  · have hbegun : ∃ begun, begun ≠ [] ∧ begun <+: opening ∧ begun <:+ tail := by
      by_contra hnone
      exact h ⟨hopen, fun begun hne _ hprefix hsuffix => hnone ⟨begun, hne, hprefix, hsuffix⟩⟩
    obtain ⟨begun, hne, ⟨rest, hrest⟩, ⟨before, rfl⟩⟩ := hbegun
    refine ⟨before, begun, rest ++ closing, [], rfl, hne, ?_, ?_, List.not_mem_nil⟩
    · rw [← List.append_assoc, hrest, List.nil_append]
    · intro hbefore
      exact hopen (hbefore.trans (List.prefix_append before begun).isInfix)
  · exact ⟨before, opening ++ inside, closing, inside, rfl,
      List.append_ne_nil_of_left_ne_nil opening_ne_nil inside, List.append_assoc _ _ _, hbefore,
      hinside⟩

end Template

/-! ## Interpolation in parts -/

/-- A text that begins no reference behind its last one can be interpolated apart from
what comes behind it. Its keys are asked for first, then those of the text behind it. -/
theorem interpolate_append {text more : String} {template : Template}
    (htemplate : template.Describes text.toList)
    (hseam : Template.BeginsNothing template.tail) :
    (∀ lookup : String → Option String,
      interpolate lookup (text ++ more) = interpolate lookup text ++ interpolate lookup more) ∧
    (∀ (lookup : String → Option String) (first second : String) (keys later : List String),
      (interpolateM (Template.logged lookup) text).run [] = (first, keys) →
        (interpolateM (Template.logged lookup) more).run [] = (second, later) →
          (interpolateM (Template.logged lookup) (text ++ more)).run [] =
            (first ++ second, keys ++ later)) ∧
    ∀ (m : Type → Type) [Monad m] [LawfulMonad m] (ask : String → m (Option String)),
      interpolateM ask (text ++ more) = (do
        let first ← interpolateM ask text
        let second ← interpolateM ask more
        pure (first ++ second)) := by
  obtain rfl : template = Template.ofText text := htemplate.eq_ofChars
  have hinM : ∀ (m : Type → Type) [Monad m] [LawfulMonad m] (ask : String → m (Option String)),
      interpolateM ask (text ++ more) = (do
        let first ← interpolateM ask text
        let second ← interpolateM ask more
        pure (first ++ second)) := by
    intro m _ _ ask
    rw [interpolateM, Template.ofText_append hseam]
    exact Template.expandM_append ask _ _
  have happend : ∀ lookup : String → Option String,
      interpolate lookup (text ++ more) = interpolate lookup text ++ interpolate lookup more :=
    fun lookup => hinM Id fun key => pure (lookup key)
  refine ⟨happend, ?_, hinM⟩
  intro lookup first second keys later hfirst hsecond
  rw [interpolateM, Template.run_expandM_logged] at hfirst hsecond ⊢
  obtain ⟨rfl, rfl⟩ := Prod.mk.inj hfirst
  obtain ⟨rfl, rfl⟩ := Prod.mk.inj hsecond
  rw [Template.ofText_append hseam, Template.keys_append, ← Template.ofText_append hseam]
  exact Prod.ext (happend lookup) rfl

/-- A text with a reference whose value may look like the beginning of another one. -/
def lookalike : String := "$\x7benv:A\x7d\x7benv:"

/-- What stands for the references of `lookalike` and of the text behind it. -/
def lookalikeValue : String → Option String
  | "A" => some "$"
  | "B" => some "1"
  | _ => none

theorem lookalike_interpolates_in_parts :
    (⟨[([], ['A'])], "\x7benv:".toList⟩ : Template).Describes lookalike.toList ∧
      Template.BeginsNothing "\x7benv:".toList ∧
      interpolate lookalikeValue (lookalike ++ "B\x7d $\x7benv:B\x7d") = "$\x7benv:B\x7d 1" ∧
      (interpolateM (Template.logged lookalikeValue)
        (lookalike ++ "B\x7d $\x7benv:B\x7d")).run [] = ("$\x7benv:B\x7d 1", ["A", "B"]) := by
  have hdescribes : (⟨[([], ['A'])], "\x7benv:".toList⟩ : Template).Describes
      lookalike.toList :=
    ⟨by decide, by decide, by decide, .inl (by decide)⟩
  have hends : ∀ begun ∈ Template.opening.inits, begun ≠ [] → begun ≠ Template.opening →
      ¬ begun <:+ "\x7benv:".toList := by
    decide
  have hseam : Template.BeginsNothing "\x7benv:".toList :=
    ⟨by decide, fun begun hne hwhole hprefix =>
      hends begun ((List.mem_inits begun _).mpr hprefix) hne hwhole⟩
  obtain ⟨happend, hkeys, -⟩ :=
    @interpolate_append lookalike "B\x7d $\x7benv:B\x7d" _ hdescribes hseam
  refine ⟨hdescribes, hseam, ?_, ?_⟩
  · rw [happend]
    decide +kernel
  · have hrun := hkeys lookalikeValue _ _ _ _ (Template.run_expandM_logged _ _)
      (Template.run_expandM_logged _ _)
    exact hrun.trans (Prod.ext (by decide +kernel) (by decide +kernel))

/-- A text that can be interpolated apart from whatever comes behind it begins no reference
behind its last one. -/
theorem beginsNothing_of_interpolate_append {text : String}
    (h : ∀ (lookup : String → Option String) (more : String),
      interpolate lookup (text ++ more) = interpolate lookup text ++ interpolate lookup more) :
    Template.BeginsNothing (Template.ofText text).tail := by
  have hdescribes := Template.describes_ofChars text.toList
  by_contra hseam
  obtain ⟨before, begun, rest, key, htail, hbegun, hcomplete, hbefore, hkey⟩ :=
    Template.exists_completion hdescribes.tail hseam
  -- What comes behind the text makes one more reference of what was begun.
  have hwhole := hdescribes.concat htail hcomplete hbefore hkey
  have hparts := congrArg String.toList (h (fun _ => none) (String.ofList rest))
  rw [interpolate, interpolate, Template.ofText, String.toList_append, String.toList_ofList,
    ← hwhole.eq_ofChars, String.toList_append, Template.toList_expand, Template.toList_expand,
    Template.ofText, htail] at hparts
  exact absurd hparts (by simp [hbegun])

end BuildSettings
