/-
# First faults in ordered lists

A search that stops at the first fault is a `findSome?` over the things that are
checked. Its answer is usually wanted without the list: some thing is at fault,
and nothing that comes before it is. The two descriptions agree whenever the
list stands in the order that "before" speaks of, and that is all that is used
of the order here.

Steps that are run one after the other until one fails make such a search as
well. `error?` takes the error out of a step; the lemmas on it turn a sequence
of steps into the search that it makes. The last section says the same of a whole
list at once: all steps succeed one by one, or the first failing step is reported.
-/

import Mathlib.Data.List.Forall2

namespace BuildSettings

variable {α β : Type}

/-- In a list that stands in the order `before`, the first answer of a search
comes from an item that gives it while no item before it gives any. -/
theorem findSome?_eq_some_iff_of_pairwise {before : α → α → Prop} {items : List α}
    (ordered : items.Pairwise before) (asymm : ∀ a b, before a b → ¬ before b a)
    {search : α → Option β} {answer : β} :
    items.findSome? search = some answer ↔
      ∃ item ∈ items, search item = some answer ∧
        ∀ other ∈ items, before other item → search other = none := by
  rw [List.findSome?_eq_some_iff]
  apply Iff.intro
  · intro h
    rcases h with ⟨passed, item, later, rfl, hitem, hpassed⟩
    refine ⟨item, by simp, hitem, ?_⟩
    intro other hother hbefore
    rcases List.mem_append.mp hother with hother | hother
    · exact hpassed other hother
    · rcases List.mem_cons.mp hother with rfl | hother
      · exact absurd hbefore (asymm other other hbefore)
      · -- A later item would have to stand on both sides of `item`.
        have hafter : before item other :=
          (List.pairwise_cons.mp (List.pairwise_append.mp ordered).2.1).1 other hother
        exact absurd hbefore (asymm item other hafter)
  · intro h
    rcases h with ⟨item, hmem, hitem, hnone⟩
    obtain ⟨passed, later, rfl⟩ := List.append_of_mem hmem
    refine ⟨passed, item, later, rfl, hitem, ?_⟩
    intro other hother
    apply hnone other (List.mem_append_left _ hother)
    exact (List.pairwise_append.mp ordered).2.2 other hother item List.mem_cons_self

/-- A search through lists that stand one after the other searches each of them in turn. -/
theorem findSome?_flatMap {γ : Type} (items : List γ) (spread : γ → List α)
    (search : α → Option β) :
    (items.flatMap spread).findSome? search =
      items.findSome? fun item => (spread item).findSome? search := by
  induction items with
  | nil => rfl
  | cons item rest ih =>
      rw [List.flatMap_cons, List.findSome?_append, List.findSome?_cons, ih]
      cases (spread item).findSome? search <;> rfl

/-! ## Steps that can fail -/

variable {ε : Type}

/-- The error of a step, if it fails. -/
def error? : Except ε α → Option ε
  | .error error => some error
  | .ok _ => none

@[simp]
theorem error?_error (error : ε) : error? (.error error : Except ε α) = some error := rfl

@[simp]
theorem error?_ok (value : α) : error? (.ok value : Except ε α) = none := rfl

theorem error?_eq_some_iff {step : Except ε α} {error : ε} :
    error? step = some error ↔ step = .error error := by
  cases step <;> simp

theorem error?_mapError {ε' : Type} (step : Except ε α) (report : ε → ε') :
    error? (step.mapError report) = (error? step).map report := by
  cases step <;> rfl

theorem error?_eq_none_iff {step : Except ε α} :
    error? step = none ↔ ∃ value, step = .ok value := by
  cases step <;> simp

/-- Of two steps the first error counts, when the second step fails or succeeds
whatever the first one gives it. -/
theorem error?_bind {step : Except ε α} {next : α → Except ε β} (later : Option ε)
    (hnext : ∀ value, error? (next value) = later) :
    error? (step >>= next) = (error? step).or later := by
  cases step with
  | error error => rfl
  | ok value => exact hnext value

/-- A step fails as it does alone when nothing after it can fail. -/
theorem error?_bind_ok {step : Except ε α} {result : α → β} :
    error? (step >>= fun value => .ok (result value)) = error? step := by
  rw [error?_bind none fun _ => rfl, Option.or_none]

/-- A step for each item fails where the first of them fails. -/
theorem error?_mapM (step : α → Except ε β) (items : List α) :
    error? (items.mapM step) = items.findSome? fun item => error? (step item) := by
  induction items with
  | nil => rfl
  | cons item rest ih =>
      rw [List.mapM_cons, error?_bind (error? (rest.mapM step)), List.findSome?_cons, ih]
      · cases error? (step item) <;> rfl
      · intro value
        exact error?_bind_ok

/-- The same for steps that give no values. -/
theorem error?_forM (step : α → Except ε PUnit) (items : List α) :
    error? (items.forM step) = items.findSome? fun item => error? (step item) := by
  induction items with
  | nil => rfl
  | cons item rest ih =>
      show error? (step item >>= fun _ => rest.forM step) = _
      rw [error?_bind (error? (rest.forM step)) fun _ => rfl, List.findSome?_cons, ih]
      cases error? (step item) <;> rfl

theorem toOption_eq_some_iff {step : Except ε α} {value : α} :
    step.toOption = some value ↔ step = .ok value := by
  cases step <;> simp [Except.toOption]

theorem ok_bind (value : α) (next : α → Except ε β) : (.ok value >>= next) = next value := rfl

/-- Two steps succeed together when the second succeeds on what the first one gives. -/
theorem bind_eq_ok_iff {step : Except ε α} {next : α → Except ε β} {result : β} :
    step >>= next = .ok result ↔ ∃ value, step = .ok value ∧ next value = .ok result := by
  cases step <;> simp [bind, Except.bind]

/-- Two steps fail together when the first fails, or the second on what the first one gives. -/
theorem bind_eq_error_iff {step : Except ε α} {next : α → Except ε β} {error : ε} :
    step >>= next = .error error ↔
      step = .error error ∨ ∃ value, step = .ok value ∧ next value = .error error := by
  cases step <;> simp [bind, Except.bind]

/-- Steps that give no values succeed for all items when each of them does. -/
theorem forM_eq_ok_iff {step : α → Except ε Unit} {items : List α} :
    items.forM step = .ok () ↔ ∀ item ∈ items, step item = .ok () := by
  have hunit : ∀ other : Except ε Unit, other = .ok () ↔ error? other = none := by
    intro other
    cases other <;> simp
  rw [hunit, error?_forM, List.findSome?_eq_none_iff]
  simp only [hunit]

theorem map_eq_ok_iff {step : Except ε α} {f : α → β} {result : β} :
    step.map f = .ok result ↔ ∃ value, step = .ok value ∧ f value = result := by
  cases step <;> simp [Except.map]

theorem map_eq_error_iff {step : Except ε α} {f : α → β} {error : ε} :
    step.map f = .error error ↔ step = .error error := by
  cases step <;> simp [Except.map]

theorem mapError_eq_ok_iff {ε' : Type} {step : Except ε α} {report : ε → ε'} {value : α} :
    step.mapError report = .ok value ↔ step = .ok value := by
  cases step <;> simp [Except.mapError]

theorem mapError_eq_error_iff {ε' : Type} {step : Except ε α} {report : ε → ε'} {error : ε'} :
    step.mapError report = .error error ↔ ∃ fault, step = .error fault ∧ report fault = error := by
  cases step <;> simp [Except.mapError]

/-! ## Steps for all items of a list -/

/-- Items stand for their images, one by one, when the second list is the image of the
first. -/
theorem forall₂_iff_map_eq {standsFor : α → β → Prop} {f : α → β}
    (hf : ∀ a b, standsFor a b ↔ f a = b) {items : List α} {results : List β} :
    List.Forall₂ standsFor items results ↔ items.map f = results := by
  obtain rfl : standsFor = fun a b => f a = b := by
    funext a b
    exact propext (hf a b)
  rw [← List.forall₂_eq_eq_eq, List.forall₂_map_left_iff]

/-- Steps for all items succeed together exactly when each of them does. -/
theorem mapM_eq_ok_iff {step : α → Except ε β} {items : List α} {results : List β} :
    items.mapM step = .ok results ↔
      List.Forall₂ (fun item result => step item = .ok result) items results := by
  induction items generalizing results with
  | nil =>
      rw [List.mapM_nil, List.forall₂_nil_left_iff]
      exact ⟨fun h => (Except.ok.inj h).symm, fun h => congrArg Except.ok h.symm⟩
  | cons item rest ih =>
      rw [List.mapM_cons, List.forall₂_cons_left_iff]
      simp only [← ih]
      cases step item with
      | error error => simp [bind, Except.bind]
      | ok value =>
          cases rest.mapM step with
          | error error => simp [bind, Except.bind]
          | ok values => simp [bind, Except.bind, pure, Except.pure, eq_comm]

/-- What steps for all items give is what a step for one of them gives. -/
theorem mem_iff_of_mapM_eq_ok {step : α → Except ε β} {items : List α} {results : List β}
    (h : items.mapM step = .ok results) {result : β} :
    result ∈ results ↔ ∃ item ∈ items, step item = .ok result := by
  rw [mapM_eq_ok_iff] at h
  induction h with
  | nil => simp
  | cons hstep _ ih =>
      rw [List.mem_cons, List.exists_mem_cons_iff, ih, hstep, Except.ok.injEq, eq_comm]

/-- Steps for all items fail together at the first item whose step fails. -/
theorem mapM_eq_error_iff {step : α → Except ε β} {items : List α} {error : ε} :
    items.mapM step = .error error ↔
      ∃ passed item later, items = passed ++ item :: later ∧
        (∀ other ∈ passed, ∃ result, step other = .ok result) ∧ step item = .error error := by
  rw [← error?_eq_some_iff, error?_mapM, List.findSome?_eq_some_iff]
  simp only [error?_eq_some_iff, error?_eq_none_iff]
  apply Iff.intro
  · intro h
    rcases h with ⟨passed, item, later, hitems, hitem, hpassed⟩
    exact ⟨passed, item, later, hitems, hpassed, hitem⟩
  · intro h
    rcases h with ⟨passed, item, later, hitems, hpassed, hitem⟩
    exact ⟨passed, item, later, hitems, hitem, hpassed⟩

/-- Steps for things that stand for some items go as the steps for these items do. -/
theorem mapM_congr_forall₂ {γ : Type} {standsFor : α → γ → Prop} {step : α → Except ε β}
    {other : γ → Except ε β} (hstep : ∀ item thing, standsFor item thing → other thing = step item)
    {items : List α} {things : List γ} (h : List.Forall₂ standsFor items things) :
    things.mapM other = items.mapM step := by
  induction h with
  | nil => rfl
  | cons hhead _ ih => rw [List.mapM_cons, List.mapM_cons, hstep _ _ hhead, ih]

end BuildSettings
