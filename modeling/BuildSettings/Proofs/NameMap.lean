/-
# Maps from names and their entries

A map from names holds every name once, so looking a name up finds the one entry
under it, and a name is present exactly when it has a value. Entries under
different names all find a place in a map that is made of them. They stand in the
order of their names there, so a map is known by its entries in whatever order. If a map
holds all entries of another one, these stand among its own as they do in the other.

The values of a map can be changed, and its names as well as long as they stay apart;
looking up then gives the changed value, or the value under the old name. A list may hold
one item for each entry of a map, which carries the name of the entry as its key. Then it
does not matter whether one looks in the map or in the list.
-/

import Mathlib.Data.List.Forall2
import Mathlib.Data.List.Nodup
import Mathlib.Data.List.Perm.Subperm
import BuildSettings.NameMap
import BuildSettings.Proofs.Text.ByteOrder

namespace BuildSettings.NameMap

variable {α : Type} {m n : NameMap α} {name : String} {value : α}

/-! ## Looking up names -/

/-- The entries stand in strictly ascending order of the bytes of their names. -/
theorem pairwise_utf8_lt (m : NameMap α) :
    m.toList.Pairwise fun a b => Text.utf8 a.1 < Text.utf8 b.1 := by
  refine (List.pairwise_map.mp m.sorted).imp ?_
  intro a b hlt
  exact Text.lt_iff_utf8_lt.mp hlt

/-- No name occurs twice. -/
theorem nodup_names (m : NameMap α) : m.names.Nodup := by
  refine m.sorted.imp ?_
  intro a b hlt heq
  subst heq
  exact String.lt_irrefl a hlt

/-- The value under a name is the one in the entry of that name. -/
theorem get?_eq_some_iff : m.get? name = some value ↔ (name, value) ∈ m.toList := by
  obtain ⟨entries, sorted⟩ := m
  simp only [get?, toList]
  induction entries with
  | nil => simp
  | cons head rest ih =>
      obtain ⟨other, held⟩ := head
      obtain ⟨hbelow, hrest⟩ := List.pairwise_cons.mp sorted
      rw [List.lookup_cons]
      by_cases heq : name = other
      · subst heq
        have hnot : (name, value) ∉ rest := by
          intro hmem
          exact String.lt_irrefl name (hbelow name (List.mem_map_of_mem hmem))
        simp [hnot, eq_comm]
      · have hbeq : (name == other) = false := by simpa using heq
        simp [hbeq, heq, ih hrest]

/-- A name is present exactly when it has a value. -/
theorem contains_iff : m.contains name = true ↔ (m.get? name).isSome = true := by
  rw [contains, List.any_eq_true, Option.isSome_iff_exists]
  apply Iff.intro
  · intro h
    rcases h with ⟨⟨other, held⟩, hmem, hname⟩
    obtain rfl := eq_of_beq hname
    exact ⟨held, get?_eq_some_iff.mpr hmem⟩
  · intro h
    rcases h with ⟨held, h⟩
    exact ⟨(name, held), get?_eq_some_iff.mp h, beq_self_eq_true name⟩

/-! ## Maps made of entries -/

/-- The order of the entries does not matter when their keys are different. -/
theorem lookup_eq_of_perm {entries others : List (String × α)} (h : entries.Perm others)
    (hnodup : (entries.map Prod.fst).Nodup) (key : String) :
    others.lookup key = entries.lookup key := by
  induction h with
  | nil => rfl
  | cons entry _ ih =>
      rw [List.lookup_cons, List.lookup_cons, ih (List.nodup_cons.mp hnodup).2]
  | swap a b rest =>
      have hne : b.1 ≠ a.1 := by
        intro heq
        simp [heq] at hnodup
      rw [List.lookup_cons, List.lookup_cons, List.lookup_cons, List.lookup_cons]
      cases ha : key == a.1 with
      | false => rfl
      | true =>
          rw [beq_iff_eq] at ha
          rw [ha, beq_eq_false_iff_ne.mpr hne.symm]
  | trans hperm _ ih ih' =>
      rw [ih' ((hperm.map Prod.fst).nodup_iff.mp hnodup), ih hnodup]

/-- An entry is found under its key when the keys are different. -/
theorem lookup_eq_some_of_mem {entries : List (String × α)}
    (hnodup : (entries.map Prod.fst).Nodup) (hmem : (name, value) ∈ entries) :
    entries.lookup name = some value := by
  obtain ⟨before, after, rfl⟩ := List.append_of_mem hmem
  rw [← lookup_eq_of_perm List.perm_middle hnodup, List.lookup_cons_self]

/-- Inserting under a new name adds an entry and keeps the others. -/
theorem perm_insertEntry {entries : List (String × α)} (hnew : name ∉ entries.map Prod.fst) :
    (insertEntry name value entries).Perm ((name, value) :: entries) := by
  induction entries with
  | nil => rfl
  | cons head rest ih =>
      obtain ⟨other, held⟩ := head
      obtain ⟨hne, hrest⟩ := not_or.mp (mt List.mem_cons.mpr hnew)
      rw [insertEntry]
      split
      · rfl
      · exact ((ih hrest).cons _).trans (.swap _ _ _)

/-- Inserting entries under new names, all of them different, adds these entries and
keeps the others. The induction is on the entries to come; the map grows by each. -/
theorem perm_foldl_insert (entries : List (String × α)) (m : NameMap α)
    (hnodup : ((entries ++ m.toList).map Prod.fst).Nodup) :
    (entries.foldl (fun m entry => m.insert entry.1 entry.2) m).toList.Perm
      (entries ++ m.toList) := by
  induction entries generalizing m with
  | nil => rfl
  | cons entry rest ih =>
      rw [List.cons_append, List.map_cons, List.nodup_cons] at hnodup
      obtain ⟨hnew, hrest⟩ := hnodup
      have hinsert : (m.insert entry.1 entry.2).toList.Perm (entry :: m.toList) := by
        apply perm_insertEntry
        intro hmem
        rw [List.map_append] at hnew
        exact hnew (List.mem_append_right _ hmem)
      have hgrown : (rest ++ (m.insert entry.1 entry.2).toList).Perm
          (entry :: (rest ++ m.toList)) :=
        (hinsert.append_left rest).trans List.perm_middle
      have hnodup : ((rest ++ (m.insert entry.1 entry.2).toList).map Prod.fst).Nodup := by
        rw [(hgrown.map Prod.fst).nodup_iff, List.map_cons]
        exact List.nodup_cons.mpr ⟨hnew, hrest⟩
      exact (ih _ hnodup).trans hgrown

/-- A map made of entries under different names holds exactly these entries. -/
theorem perm_toList_ofList {entries : List (String × α)}
    (hnodup : (entries.map Prod.fst).Nodup) : (ofList entries).toList.Perm entries := by
  have hempty : entries ++ (empty : NameMap α).toList = entries := List.append_nil entries
  have hperm := perm_foldl_insert entries empty (by rwa [hempty])
  rwa [hempty] at hperm

/-- Looking a name up in such a map is looking it up in the entries. -/
theorem get?_ofList {entries : List (String × α)} (hnodup : (entries.map Prod.fst).Nodup)
    (name : String) : (ofList entries).get? name = entries.lookup name :=
  lookup_eq_of_perm (perm_toList_ofList hnodup).symm hnodup name

/-- Entries stand in ascending order of their names in one way only. -/
theorem eq_of_perm_of_sorted {entries others : List (String × α)}
    (hsorted : (entries.map Prod.fst).Pairwise (· < ·))
    (hsorted' : (others.map Prod.fst).Pairwise (· < ·)) (hperm : entries.Perm others) :
    entries = others := by
  apply hperm.eq_of_pairwise _ (List.pairwise_map.mp hsorted) (List.pairwise_map.mp hsorted')
  intro a b _ _ hab hba
  exact absurd (String.lt_trans hab hba) (String.lt_irrefl _)

/-- A map is known by its entries, in whatever order. -/
theorem eq_of_perm (h : m.toList.Perm n.toList) : m = n := by
  obtain ⟨entries, hsorted⟩ := m
  obtain ⟨others, hsorted'⟩ := n
  obtain rfl := eq_of_perm_of_sorted hsorted hsorted' h
  rfl

/-- A map is known by what is found under each name. -/
theorem eq_of_get? (h : ∀ name, m.get? name = n.get? name) : m = n := by
  have hm : m.toList.Nodup := m.nodup_names.of_map
  have hn : n.toList.Nodup := n.nodup_names.of_map
  apply eq_of_perm
  rw [List.perm_ext_iff_of_nodup hm hn]
  rintro ⟨name, value⟩
  rw [← get?_eq_some_iff, h, get?_eq_some_iff]

/-! ## Maps with more entries -/

/-- A map holds every entry of another one, and perhaps others. -/
def Extends (larger m : NameMap α) : Prop :=
  ∀ name value, m.get? name = some value → larger.get? name = some value

theorem extends_iff {larger : NameMap α} :
    larger.Extends m ↔ ∀ entry ∈ m.toList, larger.get? entry.1 = some entry.2 := by
  rw [Extends, Prod.forall]
  simp only [get?_eq_some_iff]

instance [DecidableEq α] (larger m : NameMap α) : Decidable (larger.Extends m) :=
  decidable_of_iff _ extends_iff.symm

namespace Extends

variable {larger : NameMap α} (hext : larger.Extends m)

include hext

theorem get?_eq_none (hnone : larger.get? name = none) : m.get? name = none := by
  cases hget : m.get? name with
  | none => rfl
  | some held =>
      rw [hext name held hget] at hnone
      cases hnone

/-- What is found under a name of the smaller map was found there before. -/
theorem get?_eq_some (hget : larger.get? name = some value) (hne : m.get? name ≠ none) :
    m.get? name = some value := by
  obtain ⟨held, hheld⟩ := Option.ne_none_iff_exists'.mp hne
  have hsame : some held = some value := (hext name held hheld).symm.trans hget
  rw [hheld, hsame]

/-- The entries of the smaller map stand among those of the larger one in the same order. -/
theorem sublist_toList : m.toList.Sublist larger.toList := by
  have hsubset : m.toList ⊆ larger.toList := by
    intro entry hentry
    exact get?_eq_some_iff.mp (hext entry.1 entry.2 (get?_eq_some_iff.mpr hentry))
  obtain ⟨kept, hperm, hkept⟩ := m.nodup_names.of_map.subperm hsubset
  have hsorted : (kept.map Prod.fst).Pairwise (· < ·) := larger.sorted.sublist (hkept.map _)
  rwa [eq_of_perm_of_sorted hsorted m.sorted hperm] at hkept

end Extends

/-! ## Another value for a name -/

/-- An entry of a map is kept, or it is the one that is given another value. -/
def KeptOrReplaced (name : String) (value other : α) (entry entry' : String × α) : Prop :=
  entry' = entry ∨ entry = (name, value) ∧ entry' = (name, other)

/-- Inserting under a name of the map replaces one entry in its place and keeps the others.
The induction is on the entries, where those before the name are passed by. -/
theorem forall₂_insert (hget : m.get? name = some value) (other : α) :
    List.Forall₂ (KeptOrReplaced name value other) m.toList (m.insert name other).toList := by
  have hmem : (name, value) ∈ m.entries := get?_eq_some_iff.mp hget
  obtain ⟨entries, sorted⟩ := m
  simp only [toList, insert]
  induction entries with
  | nil => cases hmem
  | cons head rest ih =>
      obtain ⟨first, held⟩ := head
      obtain ⟨hbelow, hrest⟩ := List.pairwise_cons.mp sorted
      have hkept : ∀ entries : List (String × α),
          List.Forall₂ (KeptOrReplaced name value other) entries entries :=
        fun entries => List.forall₂_same.mpr fun _ _ => .inl rfl
      rw [insertEntry]
      rcases List.mem_cons.mp hmem with heq | hlater
      · obtain ⟨rfl, rfl⟩ := Prod.mk.inj heq
        rw [if_neg (String.lt_irrefl name), if_pos rfl]
        exact .cons (.inr ⟨rfl, rfl⟩) (hkept rest)
      · have hlt : first < name := hbelow name (List.mem_map_of_mem hlater)
        have hne : name ≠ first := by
          rintro rfl
          exact String.lt_irrefl name hlt
        rw [if_neg (String.lt_asymm hlt), if_neg hne]
        exact .cons (.inl rfl) (ih hrest (get?_eq_some_iff.mpr hlater) hlater)

/-- Inserting under a name of the map adds no name. -/
theorem contains_insert (hget : m.get? name = some value) (other : α) (key : String) :
    (m.insert name other).contains key = m.contains key := by
  have hsame := forall₂_insert hget other
  rw [contains, contains]
  rw [toList, toList] at hsame
  generalize m.entries = entries, (m.insert name other).entries = entries' at hsame ⊢
  induction hsame with
  | nil => rfl
  | cons hhead _ ih =>
      rw [List.any_cons, List.any_cons, ih]
      rcases hhead with rfl | ⟨rfl, rfl⟩
      · rfl
      · rfl

/-! ## Other values and other names -/

/-- The map with every value changed. -/
def mapValues {β : Type} (change : α → β) (m : NameMap α) : NameMap β where
  entries := m.entries.map fun entry => (entry.1, change entry.2)
  sorted := by
    rw [List.map_map]
    exact m.sorted

theorem get?_mapValues {β : Type} (change : α → β) (m : NameMap α) (name : String) :
    (m.mapValues change).get? name = (m.get? name).map change := by
  simp only [get?, mapValues]
  induction m.entries with
  | nil => rfl
  | cons entry rest ih =>
      rw [List.map_cons, List.lookup_cons, List.lookup_cons, ih]
      cases name == entry.1 <;> rfl

theorem get?_mapValues_eq_some_iff {β : Type} {change : α → β} {changed : β} :
    (m.mapValues change).get? name = some changed ↔
      ∃ value, m.get? name = some value ∧ change value = changed := by
  rw [get?_mapValues, Option.map_eq_some_iff]

theorem contains_mapValues {β : Type} (change : α → β) (m : NameMap α) (name : String) :
    (m.mapValues change).contains name = m.contains name := by
  rw [contains, contains, mapValues, List.any_map]
  rfl

theorem mem_names_iff : name ∈ m.names ↔ ∃ value, m.get? name = some value := by
  rw [names, List.mem_map]
  apply Iff.intro
  · rintro ⟨⟨_, value⟩, hmem, rfl⟩
    exact ⟨value, get?_eq_some_iff.mpr hmem⟩
  · rintro ⟨value, hget⟩
    exact ⟨(name, value), get?_eq_some_iff.mp hget, rfl⟩

/-- The map with every name changed. -/
def mapNames (change : String → String) (m : NameMap α) : NameMap α :=
  ofList (m.toList.map fun entry => (change entry.1, entry.2))

/-- What is found under the new name of a name is what was found under the old one, if the
new name is not also that of another. -/
theorem get?_mapNames {change : String → String}
    (hnames : ∀ a ∈ m.names, ∀ b ∈ m.names, change a = change b → a = b)
    (hname : ∀ a ∈ m.names, change a = change name → a = name) :
    (m.mapNames change).get? (change name) = m.get? name := by
  have hnodup : ((m.toList.map fun entry => (change entry.1, entry.2)).map Prod.fst).Nodup := by
    have hmap := m.nodup_names.map_on hnames
    rw [names, List.map_map] at hmap
    rwa [List.map_map]
  ext value
  rw [get?_eq_some_iff, mapNames, (perm_toList_ofList hnodup).mem_iff, List.mem_map,
    get?_eq_some_iff]
  apply Iff.intro
  · rintro ⟨⟨other, held⟩, hmem, heq⟩
    obtain ⟨hother, rfl⟩ := Prod.mk.inj heq
    obtain rfl := hname other (List.mem_map_of_mem hmem) hother
    exact hmem
  · intro hmem
    exact ⟨(name, value), hmem, rfl⟩

/-! ## Lists with an item for each entry -/

/-- A list holds, in their order, items that stand for the entries of a map. -/
def Lists {β : Type} (m : NameMap α) (standsFor : String → α → β → Prop) (items : List β) :
    Prop :=
  List.Forall₂ (fun entry item => standsFor entry.1 entry.2 item) m.toList items

namespace Lists

/-- Items that stand for the entries of a map stand for those with changed values, if each
of them does. -/
theorem mapValues {β γ : Type} {standsFor : String → α → β → Prop}
    {standsFor' : String → γ → β → Prop} {change : α → γ} {items : List β}
    (hstands : ∀ name value item, m.get? name = some value → standsFor name value item →
      standsFor' name (change value) item)
    (h : m.Lists standsFor items) : (m.mapValues change).Lists standsFor' items := by
  have hmem : List.Forall₂ (fun entry item => entry ∈ m.toList ∧ standsFor entry.1 entry.2 item)
      m.toList items :=
    (List.forall₂_and_left _ _).mpr ⟨fun _ hentry => hentry, h⟩
  rw [Lists, toList, NameMap.mapValues, List.forall₂_map_left_iff]
  refine hmem.imp ?_
  rintro entry item ⟨hentry, hitem⟩
  exact hstands _ _ _ (get?_eq_some_iff.mpr hentry) hitem

/-- Items for the entries of a map are found among those for a larger map, in the same order,
if only one item can stand for an entry. The induction is on how the entries of the one map
stand among those of the other. -/
theorem sublist {β : Type} {standsFor : String → α → β → Prop} {items others : List β}
    {larger : NameMap α} (hext : larger.Extends m) (h : m.Lists standsFor items)
    (h' : larger.Lists standsFor others)
    (hunique : ∀ name value item other,
      standsFor name value item → standsFor name value other → item = other) :
    items.Sublist others := by
  have hentries := hext.sublist_toList
  rw [Lists] at h h'
  generalize m.toList = entries, larger.toList = more at h h' hentries
  induction hentries generalizing items others with
  | slnil =>
      cases h
      exact List.nil_sublist others
  | cons entry _ ih =>
      cases h' with
      | cons _ hrest => exact (ih h hrest).cons _
  | cons_cons entry _ ih =>
      cases h with
      | cons hitem hitems =>
          cases h' with
          | cons hother hothers =>
              obtain rfl := hunique _ _ _ _ hitem hother
              exact (ih hitems hothers).cons_cons _

variable {β : Type} {key : β → String} {standsFor : String → α → β → Prop} {items : List β}
  (hkey : ∀ name value item, standsFor name value item → key item = name)
  (h : m.Lists standsFor items)

include hkey h

/-- The keys of the items are the names of the map. -/
theorem map_key : items.map key = m.names := by
  have hsame : List.Forall₂ (fun entry item => entry.1 = key item) m.toList items := by
    refine List.Forall₂.imp ?_ h
    intro entry item hentry
    exact (hkey _ _ _ hentry).symm
  rw [names, eq_comm, ← List.forall₂_eq_eq_eq, List.forall₂_map_left_iff,
    List.forall₂_map_right_iff]
  exact hsame

/-- The items stand in strictly ascending order of the bytes of their keys. -/
theorem pairwise_utf8_lt : items.Pairwise fun a b => Text.utf8 (key a) < Text.utf8 (key b) := by
  have hnames : m.names.Pairwise fun a b => Text.utf8 a < Text.utf8 b :=
    List.pairwise_map.mpr m.pairwise_utf8_lt
  rwa [← map_key hkey h, List.pairwise_map] at hnames

/-- An item is the only one of its key. -/
theorem find?_key_eq_some {item : β} (hmem : item ∈ items) :
    items.find? (key · == key item) = some item := by
  have hnodup : (items.map key).Nodup := by
    rw [map_key hkey h]
    exact m.nodup_names
  cases hfind : items.find? (key · == key item) with
  | none => exact absurd (List.find?_eq_none.mp hfind item hmem) (by simp)
  | some other =>
      have hother : key other = key item := by simpa using List.find?_some hfind
      rw [List.inj_on_of_nodup_map hnodup (List.mem_of_find?_eq_some hfind) hmem hother]

/-- What is found under a key stands for what the map has under that name. -/
theorem rel_find? (name : String) :
    Option.Rel (standsFor name) (m.get? name) (items.find? (key · == name)) := by
  rw [Lists, toList] at h
  rw [get?]
  generalize m.entries = entries at h
  induction h with
  | nil => exact .none
  | @cons entry item entries items hhead _ ih =>
      obtain ⟨other, value⟩ := entry
      have hitem : key item = other := hkey _ _ _ hhead
      rw [List.lookup_cons, List.find?_cons, hitem]
      by_cases heq : name = other
      · subst heq
        simpa using hhead
      · have hne : (name == other) = false := by simpa using heq
        have hne' : (other == name) = false := by simpa using Ne.symm heq
        rw [hne, hne']
        exact ih

theorem find?_eq_some_of_get? (hget : m.get? name = some value) :
    ∃ item, items.find? (key · == name) = some item ∧ standsFor name value item := by
  have hrel := rel_find? hkey h name
  rw [hget] at hrel
  generalize items.find? (key · == name) = found at hrel
  cases hrel with
  | some hstands => exact ⟨_, rfl, hstands⟩

theorem find?_eq_none_of_get? (hget : m.get? name = none) :
    items.find? (key · == name) = none := by
  have hrel := rel_find? hkey h name
  rw [hget] at hrel
  generalize items.find? (key · == name) = found at hrel
  cases hrel
  rfl

/-- An item stands for the entry under its key. -/
theorem get?_key_eq_some {item : β} (hmem : item ∈ items) :
    ∃ value, m.get? (key item) = some value ∧ standsFor (key item) value item := by
  have hrel := rel_find? hkey h (key item)
  rw [find?_key_eq_some hkey h hmem] at hrel
  generalize m.get? (key item) = value? at hrel
  cases hrel with
  | some hstands => exact ⟨_, rfl, hstands⟩

/-- There is an item for each name of the map and for no other. -/
theorem exists_key_eq_iff : (∃ item ∈ items, key item = name) ↔ (m.get? name).isSome := by
  rw [Option.isSome_iff_exists]
  apply Iff.intro
  · rintro ⟨item, hmem, rfl⟩
    obtain ⟨value, hget, -⟩ := get?_key_eq_some hkey h hmem
    exact ⟨value, hget⟩
  · rintro ⟨value, hget⟩
    obtain ⟨item, hfind, hstands⟩ := find?_eq_some_of_get? hkey h hget
    exact ⟨item, List.mem_of_find?_eq_some hfind, hkey _ _ _ hstands⟩

end Lists

end BuildSettings.NameMap
