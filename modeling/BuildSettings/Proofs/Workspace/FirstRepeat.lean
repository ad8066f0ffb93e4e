/-
# First repeats

Resolution rejects a declaration in which an item repeats the key of an earlier
one, and names both. `FirstRepeat` says by positions alone which two items those
are: the later one stands at the first place whose key has occurred before. That
choice also fixes the earlier one, since up to that place all keys are different.

The search keeps the items it has passed with the most recent one in front. The
invariant of the search is that these are exactly the items up to here, and that
their keys are pairwise different.
-/

import Mathlib.Data.List.Nodup
import BuildSettings.Workspace.Resolve

namespace BuildSettings

variable {α κ : Type} {key : α → κ}

/-- The later position is the first one whose key an earlier position has, and
the earlier position has that key. -/
structure FirstRepeat (key : α → κ) (items : List α) (earlier later : Nat)
    (first second : α) : Prop where
  first_at : items[earlier]? = some first
  second_at : items[later]? = some second
  lt : earlier < later
  same_key : key first = key second
  none_before : ∀ i j a b, i < j → j < later →
    items[i]? = some a → items[j]? = some b → key a ≠ key b

namespace FirstRepeat

variable {items : List α} {i j : Nat} {first second : α}

/-- Up to the later position only one item has the repeated key. -/
theorem eq_earlier (h : FirstRepeat key items i j first second) {k : Nat} {a : α}
    (hk : k < j) (ha : items[k]? = some a) (hkey : key a = key second) : k = i := by
  rcases Nat.lt_trichotomy k i with hlt | heq | hgt
  · exact absurd (hkey.trans h.same_key.symm) (h.none_before k i a first hlt h.lt ha h.first_at)
  · exact heq
  · exact absurd (h.same_key.trans hkey.symm) (h.none_before i k first a hgt hk h.first_at ha)

/-- A list has at most one first repeat. -/
theorem unique {i' j' : Nat} {first' second' : α}
    (h : FirstRepeat key items i j first second)
    (h' : FirstRepeat key items i' j' first' second') :
    i = i' ∧ j = j' ∧ first = first' ∧ second = second' := by
  have hj : j = j' := by
    rcases Nat.lt_trichotomy j j' with hlt | heq | hgt
    · exact absurd h.same_key
        (h'.none_before i j first second h.lt hlt h.first_at h.second_at)
    · exact heq
    · exact absurd h'.same_key
        (h.none_before i' j' first' second' h'.lt hgt h'.first_at h'.second_at)
  subst hj
  have hsecond : second = second' := Option.some.inj (h.second_at.symm.trans h'.second_at)
  subst hsecond
  have hi : i = i' := h'.eq_earlier h.lt h.first_at h.same_key
  subst hi
  exact ⟨rfl, rfl, Option.some.inj (h.first_at.symm.trans h'.first_at), rfl⟩

/-- A list that repeats a key does not have pairwise different keys. -/
theorem not_nodup (h : FirstRepeat key items i j first second) : ¬ (items.map key).Nodup := by
  intro hnodup
  obtain ⟨hi, rfl⟩ := List.getElem?_eq_some_iff.mp h.first_at
  obtain ⟨hj, rfl⟩ := List.getElem?_eq_some_iff.mp h.second_at
  have hne := List.pairwise_iff_getElem.mp hnodup i j (by simpa using hi) (by simpa using hj) h.lt
  simp only [List.getElem_map] at hne
  exact hne h.same_key

/-- The item behind pairwise different keys is a first repeat if its key is one
of them. -/
theorem of_mem {passed later : List α} {first item : α} (hnodup : (passed.map key).Nodup)
    (hmem : first ∈ passed) (hkey : key first = key item) :
    ∃ i, FirstRepeat key (passed ++ item :: later) i passed.length first item := by
  obtain ⟨i, hi, rfl⟩ := List.getElem_of_mem hmem
  refine ⟨i, ?_, ?_, hi, hkey, ?_⟩
  · rw [List.getElem?_append_left hi, List.getElem?_eq_getElem hi]
  · rw [List.getElem?_append_right (Nat.le_refl _), Nat.sub_self, List.getElem?_cons_zero]
  · intro k l a b hkl hl ha hb
    rw [List.getElem?_append_left (Nat.lt_trans hkl hl)] at ha
    rw [List.getElem?_append_left hl] at hb
    obtain ⟨hk, rfl⟩ := List.getElem?_eq_some_iff.mp ha
    obtain ⟨hl, rfl⟩ := List.getElem?_eq_some_iff.mp hb
    have hne := List.pairwise_iff_getElem.mp hnodup k l (by simpa using hk) (by simpa using hl) hkl
    simpa only [List.getElem_map] using hne

end FirstRepeat

/-! ## One more item -/

/-- Behind pairwise different keys an item repeats one of them or keeps them different. -/
theorem nodup_map_concat_iff {items : List α} {item : α} (hnodup : (items.map key).Nodup) :
    ((items ++ [item]).map key).Nodup ↔ key item ∉ items.map key := by
  rw [List.map_append, List.map_singleton, List.nodup_append]
  apply Iff.intro
  · rintro ⟨-, -, hdiffer⟩ hmem
    exact hdiffer _ hmem _ (List.mem_singleton_self _) rfl
  · intro hnew
    refine ⟨hnodup, List.nodup_singleton _, ?_⟩
    intro a ha b hb hab
    rw [List.mem_singleton] at hb
    exact hnew (hb ▸ hab ▸ ha)

/-- When the keys before it are pairwise different, the last item of a list is the only
one that can repeat a key, and it repeats that of the item that has it. -/
theorem firstRepeat_concat_iff {items : List α} {item first second : α}
    (hnodup : (items.map key).Nodup) :
    (∃ i j, FirstRepeat key (items ++ [item]) i j first second) ↔
      second = item ∧ first ∈ items ∧ key first = key item := by
  apply Iff.intro
  · rintro ⟨i, j, hrepeat⟩
    have hmem : key item ∈ items.map key := by
      by_contra hnew
      exact hrepeat.not_nodup ((nodup_map_concat_iff hnodup).mpr hnew)
    obtain ⟨owner, howner, hkey⟩ := List.mem_map.mp hmem
    obtain ⟨k, hlast⟩ : ∃ k, FirstRepeat key (items ++ [item]) k items.length owner item :=
      FirstRepeat.of_mem hnodup howner hkey
    obtain ⟨-, -, rfl, rfl⟩ := hrepeat.unique hlast
    exact ⟨rfl, howner, hkey⟩
  · rintro ⟨rfl, hfirst, hkey⟩
    obtain ⟨k, hlast⟩ : ∃ k, FirstRepeat key (items ++ [second]) k items.length first second :=
      FirstRepeat.of_mem hnodup hfirst hkey
    exact ⟨k, items.length, hlast⟩

/-! ## The search -/

/-- The items with their keys, as the search holds and reads them. -/
def withKeys (key : α → κ) (items : List α) : List (κ × α) :=
  items.map fun item => (key item, item)

@[simp]
theorem withKeys_nil : withKeys key [] = [] := rfl

@[simp]
theorem withKeys_cons (item : α) (rest : List α) :
    withKeys key (item :: rest) = (key item, item) :: withKeys key rest := rfl

/-- What an answer of the search says of the whole list. -/
def Answers (key : α → κ) (items : List α) : Option (α × α) → Prop
  | some (first, second) => ∃ i j, FirstRepeat key items i j first second
  | none => (items.map key).Nodup

variable [DecidableEq κ]

/-- What the search finds among the passed items has the key it looks for. -/
theorem mem_of_lookup_withKeys {items : List α} {k : κ} {item : α}
    (h : (withKeys key items).lookup k = some item) : item ∈ items ∧ key item = k := by
  induction items with
  | nil => cases h
  | cons head rest ih =>
      rw [withKeys_cons, List.lookup_cons] at h
      split at h
      · rename_i hk
        obtain rfl := Option.some.inj h
        exact ⟨List.mem_cons_self, (eq_of_beq hk).symm⟩
      · obtain ⟨hmem, hkey⟩ := ih h
        exact ⟨List.mem_cons_of_mem _ hmem, hkey⟩

/-- When the search finds nothing among the passed items, none has the key. -/
theorem not_mem_of_lookup_withKeys {items : List α} {k : κ}
    (h : (withKeys key items).lookup k = none) : k ∉ items.map key := by
  rw [List.lookup_eq_none_iff] at h
  intro hmem
  obtain ⟨item, hitem, rfl⟩ := List.mem_map.mp hmem
  simpa using h (key item, item) (List.mem_map_of_mem hitem)

/-- From a state in which the passed items have pairwise different keys, the
search gives the right answer for the whole list. The induction is on the items
to come; each of them either is the repeat or joins the passed ones. -/
theorem answers_firstRepeatAfter? (passed items : List α) (hnodup : (passed.map key).Nodup) :
    Answers key (passed ++ items)
      (firstRepeatAfter? (withKeys key passed.reverse) (withKeys key items)) := by
  induction items generalizing passed with
  | nil => simpa [firstRepeatAfter?, Answers] using hnodup
  | cons item rest ih =>
      rw [withKeys_cons, firstRepeatAfter?]
      cases hlookup : (withKeys key passed.reverse).lookup (key item) with
      | some other =>
          obtain ⟨hmem, hkey⟩ := mem_of_lookup_withKeys hlookup
          obtain ⟨i, hfound⟩ : ∃ i, FirstRepeat key (passed ++ item :: rest) i passed.length
              other item :=
            FirstRepeat.of_mem hnodup (List.mem_reverse.mp hmem) hkey
          exact ⟨i, passed.length, hfound⟩
      | none =>
          have hnew : key item ∉ passed.map key := by
            simpa using not_mem_of_lookup_withKeys hlookup
          simpa using ih (passed ++ [item]) ((nodup_map_concat_iff hnodup).mpr hnew)

/-- The search of resolution gives the right answer. -/
theorem answers_firstRepeat? (key : α → κ) (items : List α) :
    Answers key items (firstRepeat? key items) :=
  answers_firstRepeatAfter? [] items List.nodup_nil

/-- The search of resolution answers with the first repeat. -/
theorem firstRepeat?_eq_some_iff {items : List α} {first second : α} :
    firstRepeat? key items = some (first, second) ↔
      ∃ i j, FirstRepeat key items i j first second := by
  have hanswers := answers_firstRepeat? key items
  apply Iff.intro
  · intro h
    rwa [h] at hanswers
  · intro h
    rcases h with ⟨i, j, hrepeat⟩
    cases hfound : firstRepeat? key items with
    | none =>
        rw [hfound] at hanswers
        exact absurd hanswers hrepeat.not_nodup
    | some pair =>
        rw [hfound] at hanswers
        obtain ⟨k, l, hpair⟩ := hanswers
        obtain ⟨-, -, hfirst, hsecond⟩ := hrepeat.unique hpair
        rw [hfirst, hsecond]

/-- The search of resolution finds nothing exactly when all keys are pairwise
different. -/
theorem firstRepeat?_eq_none_iff {items : List α} :
    firstRepeat? key items = none ↔ (items.map key).Nodup := by
  have hanswers := answers_firstRepeat? key items
  apply Iff.intro
  · intro h
    rwa [h] at hanswers
  · intro hnodup
    cases hfound : firstRepeat? key items with
    | none => rfl
    | some pair =>
        rw [hfound] at hanswers
        obtain ⟨i, j, hrepeat⟩ := hanswers
        exact absurd hnodup hrepeat.not_nodup

end BuildSettings
