/-
# References to the environment

A settings document may refer to environment variables as `${env:NAME}`. A text
is first taken apart into its references and what stands around them, and then
put together with a value in place of each reference. Values are not looked at
again, and an opening that is never closed is plain text.
-/

namespace BuildSettings

/-- A text taken apart: each reference with the plain text before it, and the
plain text after the last one. -/
structure Template where
  references : List (List Char × List Char)
  tail : List Char
  deriving Repr, DecidableEq

namespace Template

/-- What a reference opens with. -/
def opening : List Char := "$\x7benv:".toList

/-- What a reference closes with. -/
def closing : List Char := ['}']

/-- The text before the first occurrence of `mark`, and the text after it. -/
def cutAt? (mark : List Char) : List Char → Option (List Char × List Char)
  | [] => none
  | c :: cs =>
    if mark.isPrefixOf (c :: cs) then some ([], (c :: cs).drop mark.length)
    else (cutAt? mark cs).map fun cut => (c :: cut.1, cut.2)

/-- A cut loses nothing but puts the mark aside. -/
theorem eq_append_of_cutAt? {mark cs before after : List Char}
    (h : cutAt? mark cs = some (before, after)) : cs = before ++ mark ++ after := by
  induction cs generalizing before with
  | nil => simp [cutAt?] at h
  | cons c cs ih =>
    rw [cutAt?] at h
    split at h
    · rename_i hprefix
      obtain ⟨rfl, rfl⟩ := Prod.mk.inj (Option.some.inj h)
      rw [List.nil_append]
      exact (List.prefix_iff_eq_append.mp (List.isPrefixOf_iff_prefix.mp hprefix)).symm
    · obtain ⟨⟨first, rest⟩, hcut, heq⟩ := Option.map_eq_some_iff.mp h
      obtain ⟨rfl, rfl⟩ := Prod.mk.inj heq
      rw [ih hcut, List.cons_append, List.cons_append]

/-- Take a text apart, reference by reference. -/
def ofChars (cs : List Char) : Template :=
  match _hopen : cutAt? opening cs with
  | none => ⟨[], cs⟩
  | some (before, inside) =>
    match _hclose : cutAt? closing inside with
    | none => ⟨[], cs⟩
    | some (key, rest) =>
      let later := ofChars rest
      ⟨(before, key) :: later.references, later.tail⟩
termination_by cs.length
decreasing_by
  rw [eq_append_of_cutAt? _hopen, eq_append_of_cutAt? _hclose]
  simp only [List.length_append, closing, List.length_cons]
  omega

/-- Take a text apart. -/
def ofText (text : String) : Template :=
  ofChars text.toList

/-- The keys that are looked up, in order. -/
def keys (template : Template) : List String :=
  template.references.map fun reference => String.ofList reference.2

/-- The text that was taken apart. -/
def source (template : Template) : List Char :=
  (template.references.flatMap fun reference =>
    reference.1 ++ opening ++ reference.2 ++ closing) ++ template.tail

/-- Taking a text apart loses nothing. -/
theorem source_ofChars (cs : List Char) : (ofChars cs).source = cs := by
  fun_induction ofChars cs with
  | case1 => rfl
  | case2 => rfl
  | case3 cs before inside hopen key rest hclose later ih =>
    rw [eq_append_of_cutAt? hopen, eq_append_of_cutAt? hclose]
    simpa [source, later] using ih

/-- Put a text together with what `ask` answers in place of each reference; a key
without a value stands for nothing. Keys are asked for one after the other, and
again each time they are referred to. -/
def expandM {m : Type → Type} [Monad m] (ask : String → m (Option String))
    (template : Template) : m String := do
  let parts ← template.references.mapM fun reference => do
    let value? ← ask (String.ofList reference.2)
    pure (reference.1 ++ (value?.getD "").toList)
  pure (String.ofList (parts.flatten ++ template.tail))

/-- Put a text together with the value of `lookup` in place of each reference. -/
def expand (lookup : String → Option String) (template : Template) : String :=
  Id.run (template.expandM fun key => pure (lookup key))

end Template

/-- The text with every reference replaced by what `ask` answers for it. -/
def interpolateM {m : Type → Type} [Monad m] (ask : String → m (Option String))
    (text : String) : m String :=
  (Template.ofText text).expandM ask

/-- The text with every reference replaced by the value that `lookup` has for it. -/
def interpolate (lookup : String → Option String) (text : String) : String :=
  (Template.ofText text).expand lookup

end BuildSettings
