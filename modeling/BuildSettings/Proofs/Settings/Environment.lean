/-
# What loading sees of the environment

A settings file is read with the references in it replaced by variables. Which variables
these are is settled by the text alone, before any of them is looked at: a value takes the
place of a reference and is not looked through for references again. So loading asks for
the keys of the text, in their order and whatever the answers are, and two environments
that answer these keys alike give the same declaration or the same error. A variable that
is not set counts as an empty one there.
-/

import BuildSettings.FileTree
import BuildSettings.Proofs.Command.Stages
import BuildSettings.Proofs.Interpolation.Decomposition

namespace BuildSettings

/-! ## Texts and their keys -/

namespace Template

/-- A reference is opened in a text and closed later on. -/
def HasReference (cs : List Char) : Prop :=
  ∃ before key after, cs = before ++ (opening ++ (key ++ (closing ++ after)))

/-- No reference comes in a text in which none is opened and closed. -/
theorem ends_of_not_hasReference {cs : List Char} (h : ¬ HasReference cs) : Ends cs := by
  cases hopen : cutAt? opening cs with
  | none => exact .inl (cutAt?_opening_eq_none_iff.mp hopen)
  | some cut =>
      obtain ⟨before, inside⟩ := cut
      obtain ⟨rfl, hbefore⟩ := cutAt?_opening_eq_some_iff.mp hopen
      refine .inr ⟨before, inside, rfl, hbefore, ?_⟩
      intro hclosed
      obtain ⟨key, after, rfl⟩ := List.append_of_mem hclosed
      exact h ⟨before, key, after, rfl⟩

/-- Only the values of the keys count, and no value counts as the empty one. -/
theorem expand_congr {lookup other : String → Option String} {template : Template}
    (h : ∀ key ∈ template.keys, (lookup key).getD "" = (other key).getD "") :
    template.expand lookup = template.expand other := by
  apply String.toList_injective
  rw [toList_expand, toList_expand]
  congr 1
  apply List.flatMap_congr
  intro reference hmem
  rw [h _ (List.mem_map_of_mem hmem)]

/-- A text without a complete reference is put together as it was. -/
theorem expand_ofText_of_not_hasReference {text : String} (h : ¬ HasReference text.toList)
    (lookup : String → Option String) : (ofText text).expand lookup = text := by
  apply String.toList_injective
  rw [toList_expand, ofText, ofChars_of_ends (ends_of_not_hasReference h)]
  rfl

theorem keys_ofText_of_not_hasReference {text : String} (h : ¬ HasReference text.toList) :
    (ofText text).keys = [] := by
  rw [ofText, ofChars_of_ends (ends_of_not_hasReference h)]
  rfl

end Template

/-! ## Loading from a host -/

/-- The keys that are referred to in what a file holds; a file that cannot be read has
none. -/
def keysOfContents : Except ReadError String → List String
  | .ok text => (Template.ofText text).keys
  | .error _ => []

namespace Host

variable {host other : Host Id} {path : Path} {text : String}
  {contents : Except ReadError String}

/-- The host while the variables that it is asked for are written down. -/
def logged (host : Host Id) : Host (StateM (List String)) where
  workingDir := pure host.workingDir.run
  isFile path := pure (host.isFile path).run
  read path := pure (host.read path).run
  getVariable := Template.logged fun key => (host.getVariable key).run

/-- A question to a host that writes something down comes before the steps behind it. -/
theorem run_ask_bind {σ ε α β : Type} (question : StateM σ α)
    (next : α → ExceptT ε (StateM σ) β) (state : σ) :
    (@liftM (StateM σ) _ (instMonadLiftTOfMonadLift (StateM σ) (StateM σ) (ExceptT ε (StateM σ)))
      _ question >>= next).run.run state =
      (next (question.run state).1).run.run (question.run state).2 := rfl

/-- Loading asks for the keys of the text and for nothing else. -/
theorem run_load_logged (hread : (host.read path).run = contents) :
    (Declaration.load host.logged path).run.run [] =
      ((Declaration.load host path).run.run, keysOfContents contents) := by
  have hlogged : (host.logged.read path).run [] = (contents, []) := congrArg (·, []) hread
  rw [run_loadDeclaration, hread, Declaration.load, run_ask_bind, hlogged]
  cases contents with
  | error error => rfl
  | ok text =>
      have hasked : (host.logged.interpolate text).run [] =
          (host.expanded text, (Template.ofText text).keys) :=
        Template.run_expandM_logged _ _
      simp only [run_ask_bind, hasked]
      show _ = ((Declaration.ofText (host.expanded text)).mapError _, _)
      cases Declaration.ofText (host.expanded text) <;> rfl

/-- Hosts that answer the keys of a file alike load the same declaration from it, or fail
alike. -/
theorem run_load_congr (hread : (host.read path).run = contents)
    (hread' : (other.read path).run = contents)
    (h : ∀ key ∈ keysOfContents contents,
      (host.getVariable key).run.getD "" = (other.getVariable key).run.getD "") :
    (Declaration.load host path).run.run = (Declaration.load other path).run.run := by
  rw [run_loadDeclaration, run_loadDeclaration, hread, hread']
  cases contents with
  | error error => rfl
  | ok text =>
      have hexpanded : host.expanded text = other.expanded text := Template.expand_congr h
      simp only [Except.mapError, ok_bind, hexpanded]

/-- A file without a complete reference is loaded as its text is read. -/
theorem run_load_of_not_hasReference (hread : (host.read path).run = .ok text)
    (h : ¬ Template.HasReference text.toList) :
    (Declaration.load host path).run.run = (Declaration.ofText text).mapError .settings := by
  have hexpanded : host.expanded text = text :=
    Template.expand_ofText_of_not_hasReference h fun key => (host.getVariable key).run
  rw [run_loadDeclaration, hread, Except.mapError, ok_bind, hexpanded]

end Host

/-- What a settings file holds settles which keys are looked up when it is loaded, whatever
their values are: the keys of its references, in their order. Two environments that agree
on these keys give the same result, where a variable that is not set agrees with an empty
one. Without a complete reference nothing is looked up and the text is read as it is. -/
theorem loading_depends_on_references (contents : Except ReadError String) (path : Path) :
    ∃ keys : List String,
      (∀ text, contents = .ok text → ∃ template : Template, template.Describes text.toList ∧
        keys = template.references.map fun reference => String.ofList reference.2) ∧
      (∀ host : Host Id, (host.read path).run = contents →
        (Declaration.load host.logged path).run.run [] =
          ((Declaration.load host path).run.run, keys)) ∧
      (∀ host other : Host Id, (host.read path).run = contents →
        (other.read path).run = contents →
          (∀ key ∈ keys,
            (host.getVariable key).run.getD "" = (other.getVariable key).run.getD "") →
              (Declaration.load host path).run.run = (Declaration.load other path).run.run) ∧
      (∀ error, contents = .error error → keys = [] ∧
        ∀ host : Host Id, (host.read path).run = contents →
          (Declaration.load host path).run.run = .error (.unreadableSettings path error)) ∧
      ∀ text, contents = .ok text → ¬ Template.HasReference text.toList → keys = [] ∧
        ∀ host : Host Id, (host.read path).run = contents →
          (Declaration.load host path).run.run = (Declaration.ofText text).mapError .settings := by
  refine ⟨keysOfContents contents, ?_, ?_, ?_, ?_, ?_⟩
  · rintro text rfl
    exact ⟨Template.ofText text, Template.describes_ofChars _, rfl⟩
  · intro host hread
    exact Host.run_load_logged hread
  · intro host other hread hread' hagree
    exact Host.run_load_congr hread hread' hagree
  · rintro error rfl
    refine ⟨rfl, ?_⟩
    intro host hread
    rw [Host.run_loadDeclaration, hread]
    rfl
  · rintro text rfl hplain
    refine ⟨Template.keys_ofText_of_not_hasReference hplain, ?_⟩
    intro host hread
    exact Host.run_load_of_not_hasReference hread hplain

/-- A settings file whose name is made of two variables. -/
def referringText : String := "[project]\nname = \"$\x7benv:NAME\x7d$\x7benv:SUFFIX\x7d\"\n"

/-- A world with this file. -/
def referringWorld (environment : Environment) : World where
  files := (FileTree.empty.addFile ⟨"/demo/settings.toml"⟩ referringText.toUTF8).fileSystem
  workingDir := ⟨"/demo"⟩
  environment := environment

/-- The first variable looks like a reference itself, and the second one is not set. -/
def unsetWorld : World :=
  referringWorld ⟨[("NAME", "$\x7benv:SECRET\x7d"), ("SECRET", "a")]⟩

/-- The second variable is empty, and the one that the value seems to refer to is another. -/
def emptyWorld : World :=
  referringWorld ⟨[("SECRET", "b"), ("SUFFIX", ""), ("NAME", "$\x7benv:SECRET\x7d")]⟩

theorem unsetWorld_loads_as_emptyWorld :
    (Declaration.load unsetWorld.host ⟨settingsName⟩).run.run =
        (Declaration.load emptyWorld.host ⟨settingsName⟩).run.run ∧
      ((Declaration.load unsetWorld.host.logged ⟨settingsName⟩).run.run []).run.2 =
        ["NAME", "SUFFIX"] ∧
      (Declaration.load unsetWorld.host ⟨settingsName⟩).run.run.toOption.map (·.rootName) =
        some "$\x7benv:SECRET\x7d" := by
  obtain ⟨keys, hkeys, hlogged, hagree, -⟩ :=
    loading_depends_on_references (.ok referringText) ⟨settingsName⟩
  obtain ⟨template, hdescribes, rfl⟩ := hkeys referringText rfl
  have hreferences : (template.references.map fun reference => String.ofList reference.2) =
      ["NAME", "SUFFIX"] := by
    rw [Template.describes_iff.mp hdescribes]
    decide +kernel
  have hunset : (unsetWorld.host.read ⟨settingsName⟩).run = .ok referringText := by
    rw [← toOption_eq_some_iff]
    decide +kernel
  have hempty : (emptyWorld.host.read ⟨settingsName⟩).run = .ok referringText := by
    rw [← toOption_eq_some_iff]
    decide +kernel
  rw [hreferences] at hlogged hagree
  refine ⟨hagree _ _ hunset hempty (by decide +kernel), ?_, by decide +kernel⟩
  rw [hlogged _ hunset]
  rfl

end BuildSettings
