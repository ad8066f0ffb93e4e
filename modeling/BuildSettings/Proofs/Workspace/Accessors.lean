/-
# Accessors of the modules of a workspace

With type-safe accessors enabled every module of a workspace has the accessor of its path,
and no two modules have the same one. Accessors are made of the words of the segments, so
two modules whose segments have the same words cannot be told apart by them, however the
words are spaced, and resolution rejects them.

What resolution does not look at is whether an accessor makes sense. It is expected to have
a part between dots for each segment, but that is so only of paths whose segments hold no
dot and something other than word breaks.
-/

import BuildSettings.Proofs.ModulePath.Accessor
import BuildSettings.Proofs.Workspace.Directories
import BuildSettings.Proofs.Workspace.Verdict

namespace BuildSettings.Declaration

variable {declaration : Declaration} {workspace : Workspace}

open Text (ArePieces)

/-! ## Parts of accessors -/

/-- Every module has its accessor when accessors are enabled. -/
theorem accessor?_of_resolve (h : declaration.resolve = .ok workspace)
    (hflag : Feature.typesafeProjectAccessors ∈ declaration.features) {item : WorkspaceModule}
    (hitem : item ∈ workspace.modules) : item.accessor? = some item.path.accessor := by
  obtain ⟨-, rfl⟩ := resolve_eq_ok_iff_keeps.mp h
  obtain ⟨path, -, rfl⟩ := List.mem_map.mp hitem
  exact accessor?_workspaceModule_eq_some_iff.mpr ⟨hflag, rfl⟩

/-- With accessors enabled every module has one. Between dots it has a part for each piece
of the segments between dots, and so one more than there are segments for each dot in them.
A part shows its piece without word breaks, and is empty just when the piece has nothing
else. So the parts are as many as the segments, and none of them is empty, exactly when no
segment has a dot and every segment has something other than word breaks. -/
theorem accessor_has_parts_for_pieces (h : declaration.resolve = .ok workspace)
    (hflag : Feature.typesafeProjectAccessors ∈ declaration.features) {item : WorkspaceModule}
    (hitem : item ∈ workspace.modules) :
    ∃ accessor parts, item.accessor? = some accessor ∧
      (∀ others, ArePieces '.' accessor.toList others ↔ others = parts) ∧
      List.Forall₂ ModulePath.IsPartOf parts item.path.dotPieces ∧
      parts.length = item.path.segments.length + item.path.dotCount ∧
      ((parts.length = item.path.segments.length ∧ ∀ part ∈ parts, part ≠ []) ↔
        ∀ segment ∈ item.path.segments,
          '.' ∉ segment.toList ∧ ∃ c ∈ segment.toList, ModulePath.isWordBreak c = false) := by
  have hparts := item.path.forall₂_isPartOf_accessor
  refine ⟨item.path.accessor, _, accessor?_of_resolve h hflag hitem, ?_, hparts, ?_,
    item.path.accessor_parts_fit_iff⟩
  · intro others
    exact Text.arePieces_iff
  · rw [hparts.length_eq, ModulePath.length_dotPieces]

/-- A declaration with a module whose only segment has no word, one whose only segment has a
dot, and one of the usual kind. -/
def oddlyNamed : Declaration where
  rootName := "Demo"
  features := [.typesafeProjectAccessors]
  modules := [⟨["-"], by decide, by decide⟩, ⟨["a.b"], by decide, by decide⟩,
    ⟨["tools", "cli-args"], by decide, by decide⟩]

example : ["-", "a.b", "tools:cli-args"].mapM ModulePath.parse = .ok oddlyNamed.modules := rfl

theorem oddlyNamed_accessor_parts :
    oddlyNamed.resolve = .ok oddlyNamed.assemble ∧
      ∃ a b c, oddlyNamed.assemble.modules = [a, b, c] ∧
        (∃ accessor parts, b.accessor? = some accessor ∧
          (∀ others, ArePieces '.' accessor.toList others ↔ others = parts) ∧
          parts.length = 2) ∧
        ∃ accessor parts, c.accessor? = some accessor ∧
          (∀ others, ArePieces '.' accessor.toList others ↔ others = parts) ∧
          parts.length = 2 ∧ ∀ part ∈ parts, part ≠ [] := by
  have hresolve : oddlyNamed.resolve = .ok oddlyNamed.assemble := rfl
  refine ⟨hresolve, _, _, _, rfl, ?_, ?_⟩
  · obtain ⟨accessor, parts, haccessor, hparts, -, hlength, -⟩ :=
      accessor_has_parts_for_pieces hresolve (by decide) (List.mem_of_getElem? (i := 1) rfl)
    exact ⟨accessor, parts, haccessor, hparts, hlength⟩
  · have hwords : ∀ segment ∈ ["tools", "cli-args"], '.' ∉ segment.toList ∧
        ∃ c ∈ segment.toList, ModulePath.isWordBreak c = false := by
      rw [List.forall_mem_cons, List.forall_mem_singleton]
      exact ⟨⟨by decide, 't', by decide, rfl⟩, ⟨by decide, 'c', by decide, rfl⟩⟩
    obtain ⟨accessor, parts, haccessor, hparts, -, -, hfit⟩ :=
      accessor_has_parts_for_pieces hresolve (by decide) (List.mem_of_getElem? (i := 2) rfl)
    exact ⟨accessor, parts, haccessor, hparts, hfit.mpr hwords⟩

/-- The accessor of a module may have an empty part, so it need not have the shape of its
path. -/
theorem not_all_accessors_fit :
    ¬ ∀ (declaration : Declaration) (workspace : Workspace),
      declaration.resolve = .ok workspace →
        Feature.typesafeProjectAccessors ∈ declaration.features →
          ∀ item ∈ workspace.modules, ∃ accessor, item.accessor? = some accessor ∧
            ∀ parts, ArePieces '.' accessor.toList parts →
              parts.length = item.path.segments.length ∧ ∀ part ∈ parts, part ≠ [] := by
  intro hall
  obtain ⟨accessor, haccessor, hparts⟩ :=
    hall oddlyNamed oddlyNamed.assemble rfl (by decide) _ List.mem_cons_self
  obtain rfl := Option.some.inj haccessor
  obtain ⟨-, hne⟩ := hparts [[]] (Text.arePieces_iff.mpr (by decide))
  exact hne [] List.mem_cons_self rfl

/-! ## Modules with the same words -/

/-- Where accessors tell modules apart, an accessor has one position only. -/
theorem eq_of_accessor_eq (hkeeps : declaration.Keeps .accessors)
    (hflag : Feature.typesafeProjectAccessors ∈ declaration.features) {i j : Nat}
    {p q : ModulePath} (hp : declaration.modules[i]? = some p)
    (hq : declaration.modules[j]? = some q) (hsame : p.accessor = q.accessor) : i = j := by
  have hi : (declaration.modules.map ModulePath.accessor)[i]? = some p.accessor := by
    rw [List.getElem?_map, hp, Option.map_some]
  have hj : (declaration.modules.map ModulePath.accessor)[j]? = some q.accessor := by
    rw [List.getElem?_map, hq, Option.map_some]
  obtain ⟨hlt, -⟩ := List.getElem?_eq_some_iff.mp hi
  apply (List.getElem?_inj hlt (hkeeps hflag)).mp
  rw [hi, hj, hsame]

/-- When the rules before the one about accessors are kept and that one is broken, the first
module is reported that repeats an accessor. -/
theorem exists_resolve_eq_duplicateAccessor (hbroken : ¬ declaration.Keeps .accessors)
    (hname : declaration.Keeps .rootName) (hmodules : declaration.Keeps .modules) :
    ∃ i j first second, FirstRepeat ModulePath.accessor declaration.modules i j first second ∧
      declaration.resolve = .error (.duplicateAccessor second.accessor first second) := by
  have hfails : declaration.FailsFirst .accessors := by
    refine ⟨hbroken, ?_⟩
    intro other hplace
    cases other with
    | rootName => exact hname
    | modules => exact hmodules
    | locations scope => cases scope <;> exact absurd hplace (by decide)
    | _ => exact absurd hplace (by decide)
  obtain ⟨error, hresolve, hrule⟩ := exists_resolve_eq_error_iff.mpr hfails
  obtain ⟨rule, hbreaks, -⟩ := resolve_eq_error_iff.mp hresolve
  obtain rfl := hbreaks.rule_eq
  rw [hrule] at hbreaks
  cases hbreaks with
  | accessors _ hrepeat => exact ⟨_, _, _, _, hrepeat, hresolve⟩

/-- Paths whose segments have the same words have one accessor, whatever breaks there are
between the words, in front of them and behind them. So with accessors enabled no workspace
has two modules with such paths. A declaration that has is rejected, and when it keeps the
rules that are checked before, it is for the first accessor that is repeated. -/
theorem same_words_clash (declaration : Declaration)
    (hflag : Feature.typesafeProjectAccessors ∈ declaration.features) :
    (∀ p q : ModulePath, p.SameWords q → p.accessor = q.accessor) ∧
    (∀ workspace, declaration.resolve = .ok workspace → ∀ (i j : Nat) (a b : WorkspaceModule),
      workspace.modules[i]? = some a → workspace.modules[j]? = some b → i ≠ j →
        ¬ a.path.SameWords b.path) ∧
    ∀ (i j : Nat) (p q : ModulePath), declaration.modules[i]? = some p →
      declaration.modules[j]? = some q → i ≠ j → p.SameWords q →
        (∃ error, declaration.resolve = .error error) ∧
        (declaration.Keeps .rootName → declaration.Keeps .modules →
          ∃ k l first second,
            FirstRepeat ModulePath.accessor declaration.modules k l first second ∧
            declaration.resolve =
              .error (.duplicateAccessor second.accessor first second)) := by
  refine ⟨fun p q hwords => hwords.accessor_eq, ?_, ?_⟩
  · intro workspace hresolve i j a b ha hb hij hwords
    obtain ⟨hp, -⟩ := module_of_resolve hresolve ha
    obtain ⟨hq, -⟩ := module_of_resolve hresolve hb
    have hkeeps := (resolve_eq_ok_iff_keeps.mp hresolve).1 .accessors
    exact hij (eq_of_accessor_eq hkeeps hflag hp hq hwords.accessor_eq)
  · intro i j p q hp hq hij hwords
    have hbroken : ¬ declaration.Keeps .accessors := fun hkeeps =>
      hij (eq_of_accessor_eq hkeeps hflag hp hq hwords.accessor_eq)
    refine ⟨?_, exists_resolve_eq_duplicateAccessor hbroken⟩
    cases hresolve : declaration.resolve with
    | error error => exact ⟨error, rfl⟩
    | ok workspace => exact absurd ((resolve_eq_ok_iff_keeps.mp hresolve).1 .accessors) hbroken

/-- A declaration of which the first and the last module are spaced in other ways. -/
def respaced : Declaration where
  rootName := "Demo"
  features := [.typesafeProjectAccessors]
  modules := [⟨["docs", "site-map"], by decide, by decide⟩, ⟨["site-map"], by decide, by decide⟩,
    ⟨["_docs", "site _map--"], by decide, by decide⟩]

theorem respaced_clash :
    (∃ p q, respaced.modules[0]? = some p ∧ respaced.modules[2]? = some q ∧ p.SameWords q ∧
      p.accessor = q.accessor) ∧
    (∃ k l first second,
      FirstRepeat ModulePath.accessor respaced.modules k l first second ∧
      respaced.resolve = .error (.duplicateAccessor second.accessor first second)) ∧
    oddlyNamed.resolve = .ok oddlyNamed.assemble ∧
      ∃ a b, oddlyNamed.assemble.modules[0]? = some a ∧
        oddlyNamed.assemble.modules[1]? = some b ∧ ¬ a.path.SameWords b.path := by
  obtain ⟨haccessors, -, hclash⟩ := same_words_clash respaced (by decide)
  obtain ⟨-, hreported⟩ := hclash 0 2 _ _ rfl rfl (by decide) (by decide)
  obtain ⟨-, hapart, -⟩ := same_words_clash oddlyNamed (by decide)
  exact ⟨⟨_, _, rfl, rfl, by decide, haccessors _ _ (by decide)⟩,
    hreported (by decide) (by decide), rfl, _, _, rfl, rfl,
    hapart oddlyNamed.assemble rfl 0 1 _ _ rfl rfl (by decide)⟩

end BuildSettings.Declaration
