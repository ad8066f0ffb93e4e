/-
# What interpolation does to a text

A text has exactly one decomposition into references and the plain text around
them: no plain text before a reference contains an opening, no key contains a
closing, and behind the last reference nothing is opened and then closed. The
template of a text is this decomposition.

A key may contain anything but a closing, another opening included, and an
opening may overlap nothing that comes before it since its first character does
not occur in it again. It is this that makes the first occurrence of a mark the
only place where a text can be cut.
-/

import BuildSettings.Interpolation

namespace BuildSettings

namespace Template

/-! ## Cutting at the first occurrence -/

variable {mark cs : List Char}

/-- A text is cut unless the mark does not occur in it. -/
theorem cutAt?_eq_none_iff (hmark : mark ≠ []) :
    cutAt? mark cs = none ↔ ¬ mark <:+: cs := by
  induction cs with
  | nil => simp [cutAt?, hmark]
  | cons c cs ih =>
      rw [cutAt?, List.infix_cons_iff, ← List.isPrefixOf_iff_prefix]
      by_cases hbegin : mark.isPrefixOf (c :: cs) = true
      · simp [hbegin]
      · simpa [hbegin] using ih

/-- The mark does not occur before the place where a text is cut. -/
theorem not_infix_of_cutAt? (hmark : mark ≠ []) {before after : List Char}
    (h : cutAt? mark cs = some (before, after)) : ¬ mark <:+: before := by
  induction cs generalizing before with
  | nil => cases h
  | cons c cs ih =>
      rw [cutAt?] at h
      split at h
      · obtain ⟨rfl, -⟩ := Prod.mk.inj (Option.some.inj h)
        simpa using hmark
      · rename_i hbegin
        obtain ⟨⟨first, rest⟩, hcut, heq⟩ := Option.map_eq_some_iff.mp h
        obtain ⟨rfl, rfl⟩ := Prod.mk.inj heq
        intro hoccurs
        rcases List.infix_cons_iff.mp hoccurs with hhere | hlater
        · -- The whole text begins as the text before the cut does.
          have hextends : c :: first <+: c :: cs := by
            rw [eq_append_of_cutAt? hcut, List.append_assoc]
            exact List.prefix_append (c :: first) _
          exact hbegin (List.isPrefixOf_iff_prefix.mpr (hhere.trans hextends))
        · exact ih hcut hlater

/-- Behind a text in which the mark does not occur, the mark cannot begin before
that text ends. Its first character would have to come again within it. -/
theorem not_prefix_append {m c : Char} {ms before after : List Char} (hfresh : m ∉ ms)
    (hbefore : ¬ m :: ms <:+: c :: before) :
    ¬ m :: ms <+: c :: before ++ (m :: ms ++ after) := by
  intro hbegin
  rcases List.prefix_or_prefix_of_prefix hbegin (List.prefix_append (c :: before) _) with
    hinside | ⟨rest, hrest⟩
  · exact hbefore hinside.isInfix
  · have hinto : rest <+: m :: ms ++ after := by
      apply (List.prefix_append_right_inj (c :: before)).mp
      rw [hrest]
      exact hbegin
    cases rest with
    | nil =>
        rw [List.append_nil] at hrest
        exact hbefore (hrest ▸ List.infix_refl _)
    | cons r rest =>
        obtain rfl : r = m := (List.cons_prefix_cons.mp hinto).1
        apply hfresh
        rw [← (List.cons.inj hrest).2]
        exact List.mem_append_right _ List.mem_cons_self

/-- A text in which the mark does not occur is cut off where the mark follows it. -/
theorem cutAt?_append {m : Char} {ms before : List Char} (hfresh : m ∉ ms)
    (hbefore : ¬ m :: ms <:+: before) (after : List Char) :
    cutAt? (m :: ms) (before ++ (m :: ms ++ after)) = some (before, after) := by
  induction before with
  | nil =>
      have hbegin : (m :: ms).isPrefixOf (m :: (ms ++ after)) = true :=
        List.isPrefixOf_iff_prefix.mpr (List.prefix_append (m :: ms) after)
      show cutAt? (m :: ms) (m :: (ms ++ after)) = some ([], after)
      rw [cutAt?, if_pos hbegin]
      simp
  | cons c before ih =>
      have hbegin : ¬ m :: ms <+: c :: (before ++ (m :: ms ++ after)) :=
        not_prefix_append hfresh hbefore
      have hrest : ¬ m :: ms <:+: before := by
        intro hoccurs
        exact hbefore (List.infix_cons_iff.mpr (.inr hoccurs))
      rw [List.cons_append, cutAt?, if_neg fun h => hbegin (List.isPrefixOf_iff_prefix.mp h), ih hrest]
      rfl

/-- A text is cut where the mark occurs and has not occurred before. -/
theorem cutAt?_eq_some_iff {m : Char} {ms before after : List Char} (hfresh : m ∉ ms) :
    cutAt? (m :: ms) cs = some (before, after) ↔
      cs = before ++ (m :: ms ++ after) ∧ ¬ m :: ms <:+: before := by
  apply Iff.intro
  · intro h
    refine ⟨?_, not_infix_of_cutAt? (List.cons_ne_nil m ms) h⟩
    rw [eq_append_of_cutAt? h, List.append_assoc]
  · intro h
    rcases h with ⟨rfl, hbefore⟩
    exact cutAt?_append hfresh hbefore after

/-- A text is cut at an opening where an opening occurs for the first time. -/
theorem cutAt?_opening_eq_some_iff {before inside : List Char} :
    cutAt? opening cs = some (before, inside) ↔
      cs = before ++ (opening ++ inside) ∧ ¬ opening <:+: before :=
  cutAt?_eq_some_iff (by decide)

theorem cutAt?_opening_eq_none_iff : cutAt? opening cs = none ↔ ¬ opening <:+: cs :=
  cutAt?_eq_none_iff (by decide)

/-- What a reference closes with occurs where its one character does. -/
theorem closing_infix_iff : closing <:+: cs ↔ '}' ∈ cs := by
  apply Iff.intro
  · intro h
    exact h.subset List.mem_cons_self
  · intro h
    obtain ⟨before, after, rfl⟩ := List.append_of_mem h
    exact ⟨before, after, by simp [closing]⟩

/-- A text is cut at the first character that closes a reference. -/
theorem cutAt?_closing_eq_some_iff {key rest : List Char} :
    cutAt? closing cs = some (key, rest) ↔
      cs = key ++ (closing ++ rest) ∧ '}' ∉ key := by
  rw [← closing_infix_iff]
  exact cutAt?_eq_some_iff (by simp)

theorem cutAt?_closing_eq_none_iff : cutAt? closing cs = none ↔ '}' ∉ cs := by
  rw [← closing_infix_iff]
  exact cutAt?_eq_none_iff (by decide)

/-! ## The decomposition of a text -/

/-- No reference comes in a text: nothing is opened in it, or what is opened first
is never closed. -/
def Ends (cs : List Char) : Prop :=
  ¬ opening <:+: cs ∨
    ∃ before inside, cs = before ++ (opening ++ inside) ∧
      ¬ opening <:+: before ∧ '}' ∉ inside

/-- A template is a decomposition of a text. -/
structure Describes (template : Template) (cs : List Char) : Prop where
  source : template.source = cs
  plain : ∀ reference ∈ template.references, ¬ opening <:+: reference.1
  key : ∀ reference ∈ template.references, '}' ∉ reference.2
  tail : Ends template.tail

/-- A text in which no reference comes is all tail. -/
theorem ofChars_of_ends (h : Ends cs) : ofChars cs = ⟨[], cs⟩ := by
  rw [ofChars]
  rcases h with hopen | ⟨before, inside, heq, hbefore, hinside⟩
  · rw [cutAt?_opening_eq_none_iff.mpr hopen]
  · rw [cutAt?_opening_eq_some_iff.mpr ⟨heq, hbefore⟩]
    simp only
    rw [cutAt?_closing_eq_none_iff.mpr hinside]

/-- A text that begins with a reference is taken apart there. -/
theorem ofChars_reference {before key : List Char} (hbefore : ¬ opening <:+: before)
    (hkey : '}' ∉ key) (rest : List Char) :
    ofChars (before ++ (opening ++ (key ++ (closing ++ rest)))) =
      ⟨(before, key) :: (ofChars rest).references, (ofChars rest).tail⟩ := by
  rw [ofChars, cutAt?_opening_eq_some_iff.mpr ⟨rfl, hbefore⟩]
  simp only
  rw [cutAt?_closing_eq_some_iff.mpr ⟨rfl, hkey⟩]

theorem source_cons (reference : List Char × List Char)
    (references : List (List Char × List Char)) (tail : List Char) :
    source ⟨reference :: references, tail⟩ =
      reference.1 ++ (opening ++ (reference.2 ++ (closing ++ source ⟨references, tail⟩))) := by
  simp [source]

/-- Taking a text apart gives a decomposition of it. -/
theorem describes_ofChars (cs : List Char) : (ofChars cs).Describes cs := by
  fun_induction ofChars cs with
  | case1 cs hopen =>
      exact ⟨rfl, by simp, by simp, .inl (cutAt?_opening_eq_none_iff.mp hopen)⟩
  | case2 cs before inside hopen hclose =>
      obtain ⟨heq, hbefore⟩ := cutAt?_opening_eq_some_iff.mp hopen
      have hinside := cutAt?_closing_eq_none_iff.mp hclose
      exact ⟨rfl, by simp, by simp, .inr ⟨before, inside, heq, hbefore, hinside⟩⟩
  | case3 cs before inside hopen key rest hclose later ih =>
      obtain ⟨rfl, hbefore⟩ := cutAt?_opening_eq_some_iff.mp hopen
      obtain ⟨rfl, hkey⟩ := cutAt?_closing_eq_some_iff.mp hclose
      refine ⟨?_, ?_, ?_, ih.tail⟩
      · rw [source_cons, ih.source]
      · intro reference hmem
        rcases List.mem_cons.mp hmem with rfl | hmem
        · exact hbefore
        · exact ih.plain reference hmem
      · intro reference hmem
        rcases List.mem_cons.mp hmem with rfl | hmem
        · exact hkey
        · exact ih.key reference hmem

/-- Every decomposition of a text is the one that taking it apart gives. -/
theorem Describes.eq_ofChars {template : Template} (h : template.Describes cs) :
    template = ofChars cs := by
  obtain ⟨references, tail⟩ := template
  induction references generalizing cs with
  | nil =>
      obtain rfl : tail = cs := h.source
      exact (ofChars_of_ends h.tail).symm
  | cons reference references ih =>
      obtain ⟨before, key⟩ := reference
      have hrest : (⟨references, tail⟩ : Template).Describes
          (Template.source ⟨references, tail⟩) := by
        refine ⟨rfl, ?_, ?_, h.tail⟩
        · intro reference hmem
          exact h.plain reference (List.mem_cons_of_mem _ hmem)
        · intro reference hmem
          exact h.key reference (List.mem_cons_of_mem _ hmem)
      have hplain := h.plain (before, key) List.mem_cons_self
      have hkey := h.key (before, key) List.mem_cons_self
      rw [← h.source, source_cons, ofChars_reference hplain hkey, ← ih hrest]

/-- A text has exactly one decomposition. -/
theorem describes_iff {template : Template} : template.Describes cs ↔ template = ofChars cs := by
  apply Iff.intro
  · exact Describes.eq_ofChars
  · intro heq
    subst heq
    exact describes_ofChars cs

/-! ## Asking for the keys -/

section

variable {m : Type → Type} [Monad m] [LawfulMonad m]

/-- What stands for a reference: the plain text before it and its value. -/
def part (reference : List Char × List Char) (value? : Option String) : List Char :=
  reference.1 ++ (value?.getD "").toList

/-- A text put together from a value for each of its references. -/
def fill (template : Template) (values : List (Option String)) : String :=
  String.ofList ((List.zipWith part template.references values).flatten ++ template.tail)

/-- Putting a text together asks for its keys in order, once for each reference,
and asks for nothing else. -/
theorem expandM_eq_map_mapM (ask : String → m (Option String)) (template : Template) :
    template.expandM ask = template.fill <$> template.keys.mapM ask := by
  obtain ⟨references, tail⟩ := template
  have hparts : (references.mapM fun reference => do
      let value? ← ask (String.ofList reference.2)
      pure (part reference value?)) =
        List.zipWith part references <$>
          (references.map fun reference => String.ofList reference.2).mapM ask := by
    induction references with
    | nil => simp
    | cons reference references ih =>
        rw [List.mapM_cons, ih, List.map_cons, List.mapM_cons]
        simp only [map_eq_pure_bind, bind_assoc, pure_bind, List.zipWith_cons_cons]
  show (do
    let parts ← references.mapM fun (reference : List Char × List Char) => do
      let value? ← ask (String.ofList reference.2)
      pure (part reference value?)
    pure (String.ofList (parts.flatten ++ tail))) = _
  rw [hparts]
  simp only [map_eq_pure_bind, bind_assoc, pure_bind, fill, keys]

end

/-- With a value for every key the text is put together from these values. -/
theorem expand_eq_fill (lookup : String → Option String) (template : Template) :
    template.expand lookup = template.fill (template.keys.map lookup) := by
  rw [expand, expandM_eq_map_mapM]
  show template.fill (template.keys.mapM fun key => (pure (lookup key) : Id _)).run = _
  rw [List.idRun_mapM]
  rfl

/-- The text that is put together, reference by reference. -/
theorem toList_expand (lookup : String → Option String) (template : Template) :
    (template.expand lookup).toList =
      (template.references.flatMap fun reference =>
        reference.1 ++ ((lookup (String.ofList reference.2)).getD "").toList) ++
          template.tail := by
  rw [expand_eq_fill, fill, String.toList_ofList, keys, List.map_map, List.zipWith_map_right,
    List.zipWith_self]
  rfl

/-- A lookup that writes down the keys it is asked for. -/
def logged (lookup : String → Option String) (key : String) :
    StateM (List String) (Option String) := do
  modify (· ++ [key])
  pure (lookup key)

/-- Asked for keys one after the other, a lookup has written down these keys. -/
theorem run_mapM_logged (lookup : String → Option String) (keys log : List String) :
    (keys.mapM (logged lookup)).run log = (keys.map lookup, log ++ keys) := by
  induction keys generalizing log with
  | nil =>
      rw [List.append_nil]
      rfl
  | cons key keys ih =>
      rw [List.mapM_cons]
      show (do
        let p ← (keys.mapM (logged lookup)).run (log ++ [key])
        pure (lookup key :: p.1, p.2) : Id _) = _
      rw [ih, List.append_assoc]
      rfl

/-- The keys of a text are asked for in the order in which they stand in it. -/
theorem run_expandM_logged (lookup : String → Option String) (template : Template) :
    (template.expandM (logged lookup)).run [] = (template.expand lookup, template.keys) := by
  rw [expandM_eq_map_mapM, StateT.run_map, run_mapM_logged, expand_eq_fill]
  rfl

/-- The reference to a key as it is written. -/
def reference (key : String) : String :=
  String.ofList (opening ++ key.toList ++ closing)

/-- A reference is spelled with a dollar sign and braces. -/
example : reference "HOME" = "$\x7benv:HOME\x7d" := by
  decide

/-- With every reference standing for itself the text is what it was. -/
theorem toList_expand_reference (template : Template) :
    (template.expand fun key => some (reference key)).toList = template.source := by
  rw [toList_expand, source]
  simp [reference]

end Template

/-! ## Interpolation -/

/-- Interpolation puts a text together from its one decomposition, with the value
of each key in place of the reference to it. It asks for the keys in the order in
which they stand in the text, whatever their values are; and where every value is
the reference itself the text stays as it is. -/
theorem interpolate_decomposes (text : String) :
    ∃ template : Template,
      (∀ other : Template, other.Describes text.toList ↔ other = template) ∧
      (∀ lookup : String → Option String,
        (interpolate lookup text).toList =
          (template.references.flatMap fun reference =>
            reference.1 ++ ((lookup (String.ofList reference.2)).getD "").toList) ++
              template.tail) ∧
      (∀ lookup : String → Option String,
        (interpolateM (Template.logged lookup) text).run [] =
          (interpolate lookup text,
            template.references.map fun reference => String.ofList reference.2)) ∧
      interpolate (fun key => some (Template.reference key)) text = text := by
  refine ⟨Template.ofText text, ?_, ?_, ?_, ?_⟩
  · intro other
    exact Template.describes_iff
  · intro lookup
    exact Template.toList_expand lookup _
  · intro lookup
    exact Template.run_expandM_logged lookup _
  · apply String.toList_injective
    rw [interpolate, Template.toList_expand_reference]
    exact Template.source_ofChars text.toList

end BuildSettings
