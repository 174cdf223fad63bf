import Mathlib.Data.List.Nodup
import Mathlib.Data.List.Perm.Subperm

/-!
# Insertion-ordered dictionaries

A dictionary keeps its keys in the order of their first insertion. Overwriting a
key changes its value in place. Keys are distinct by construction, so looking a
key up and finding it in an iteration are the same thing.
-/

namespace PaybondKit

structure OrderedDict (κ α : Type) where
  items : List (κ × α)
  nodup : (items.map Prod.fst).Nodup

namespace OrderedDict

variable {κ α β : Type}

@[ext] theorem ext {first second : OrderedDict κ α} (hitems : first.items = second.items) :
    first = second := by
  cases first
  cases second
  cases hitems
  rfl

def empty : OrderedDict κ α := ⟨[], List.nodup_nil⟩

def keys (dict : OrderedDict κ α) : List κ := dict.items.map Prod.fst

def values (dict : OrderedDict κ α) : List α := dict.items.map Prod.snd

def mapValues (f : κ → α → β) (dict : OrderedDict κ α) : OrderedDict κ β where
  items := dict.items.map fun item => (item.1, f item.1 item.2)
  nodup := by simpa [Function.comp_def] using dict.nodup

/-- Keep the items that satisfy `keep`, in their order. -/
def filter (keep : κ → α → Bool) (dict : OrderedDict κ α) : OrderedDict κ α where
  items := dict.items.filter fun item => keep item.1 item.2
  nodup := dict.nodup.sublist (List.filter_sublist.map Prod.fst)

theorem filter_eq_self_iff {keep : κ → α → Bool} {dict : OrderedDict κ α} :
    dict.filter keep = dict ↔ ∀ item ∈ dict.items, keep item.1 item.2 = true := by
  rw [OrderedDict.ext_iff]
  exact List.filter_eq_self

theorem value_unique {dict : OrderedDict κ α} {key : κ} {value value' : α}
    (hvalue : (key, value) ∈ dict.items) (hvalue' : (key, value') ∈ dict.items) :
    value = value' :=
  congrArg Prod.snd (List.inj_on_of_nodup_map dict.nodup hvalue hvalue' rfl)

/-- The items with a value, of items whose value may be left out. -/
def presentItems (fields : List (κ × Option α)) : List (κ × α) :=
  fields.filterMap fun field => field.2.map (Prod.mk field.1)

@[simp] theorem presentItems_cons_none (key : κ) (fields : List (κ × Option α)) :
    presentItems ((key, none) :: fields) = presentItems fields := rfl

@[simp] theorem presentItems_cons_some (key : κ) (value : α) (fields : List (κ × Option α)) :
    presentItems ((key, some value) :: fields) = (key, value) :: presentItems fields := rfl

theorem presentItems_sublist (fields : List (κ × Option α)) :
    ((presentItems fields).map Prod.fst).Sublist (fields.map Prod.fst) := by
  induction fields with
  | nil => exact List.Sublist.slnil
  | cons field fields ih =>
      obtain ⟨key, value⟩ := field
      cases value with
      | none => exact ih.cons key
      | some value => exact ih.cons_cons key

theorem key_ne_of_mem_presentItems {key : κ} {fields : List (κ × Option α)} {item : κ × α}
    (hfresh : key ∉ fields.map Prod.fst) (hitem : item ∈ presentItems fields) : item.1 ≠ key := by
  rintro rfl
  exact hfresh ((presentItems_sublist fields).subset (List.mem_map_of_mem hitem))

/-- Which values are left out, and the others, can be told from the items. -/
theorem presentItems_injective {fields fields' : List (κ × Option α)}
    (hkeys : fields.map Prod.fst = fields'.map Prod.fst) (hnodup : (fields.map Prod.fst).Nodup)
    (hitems : presentItems fields = presentItems fields') : fields = fields' := by
  induction fields generalizing fields' with
  | nil => exact (List.map_eq_nil_iff.mp hkeys.symm).symm
  | cons field fields ih =>
      cases fields' with
      | nil => cases hkeys
      | cons field' fields' =>
          obtain ⟨key, value⟩ := field
          obtain ⟨key', value'⟩ := field'
          obtain ⟨rfl, hrest⟩ := List.cons.inj hkeys
          have hfresh : key ∉ fields.map Prod.fst := (List.nodup_cons.mp hnodup).1
          have hfresh' : key ∉ fields'.map Prod.fst := hrest ▸ hfresh
          have ih := @ih _ hrest (List.nodup_cons.mp hnodup).2
          cases value with
          | none =>
              cases value' with
              | none => rw [ih hitems]
              | some value' =>
                  have hmem : (key, value') ∈ presentItems fields := by
                    rw [presentItems_cons_none] at hitems
                    simp [hitems]
                  exact absurd rfl (key_ne_of_mem_presentItems hfresh hmem)
          | some value =>
              cases value' with
              | none =>
                  have hmem : (key, value) ∈ presentItems fields' := by
                    rw [presentItems_cons_none] at hitems
                    simp [← hitems]
                  exact absurd rfl (key_ne_of_mem_presentItems hfresh' hmem)
              | some value' =>
                  rw [presentItems_cons_some, presentItems_cons_some] at hitems
                  obtain ⟨hvalue, hitems⟩ := List.cons.inj hitems
                  rw [ih hitems, (Prod.mk.inj hvalue).2]

/-- A dictionary display with distinct keys, whose items may be left out. -/
structure Fields (κ α : Type) where
  entries : List (κ × Option α)
  nodup : (entries.map Prod.fst).Nodup

def Fields.items (fields : Fields κ α) : List (κ × α) := presentItems fields.entries

theorem Fields.entries_eq_of_items_eq {fields fields' : Fields κ α}
    (hitems : fields.items = fields'.items)
    (hkeys : fields.entries.map Prod.fst = fields'.entries.map Prod.fst) :
    fields.entries = fields'.entries :=
  presentItems_injective hkeys fields.nodup hitems

variable [DecidableEq κ]

def get? (dict : OrderedDict κ α) (key : κ) : Option α :=
  (dict.items.find? fun item => item.1 = key).map Prod.snd

def contains (dict : OrderedDict κ α) (key : κ) : Bool := (dict.get? key).isSome

theorem get?_eq_some_iff {dict : OrderedDict κ α} {key : κ} {value : α} :
    dict.get? key = some value ↔ (key, value) ∈ dict.items := by
  rw [get?, Option.map_eq_some_iff]
  constructor
  · rintro ⟨item, hfind, rfl⟩
    have hkey : item.1 = key := by simpa using List.find?_some hfind
    rw [← hkey]
    exact List.mem_of_find?_eq_some hfind
  · intro hmem
    cases hfind : dict.items.find? fun item => item.1 = key with
    | none => simpa using List.find?_eq_none.mp hfind _ hmem
    | some item =>
        have hkey : item.1 = key := by simpa using List.find?_some hfind
        have hitem : (key, item.2) ∈ dict.items := by
          rw [← hkey]
          exact List.mem_of_find?_eq_some hfind
        exact ⟨item, rfl, value_unique hitem hmem⟩

theorem get?_eq_none_iff {dict : OrderedDict κ α} {key : κ} :
    dict.get? key = none ↔ key ∉ dict.keys := by
  simp only [Option.eq_none_iff_forall_ne_some, ne_eq, get?_eq_some_iff, keys, List.mem_map,
    Prod.exists, exists_and_right, exists_eq_right, not_exists]

theorem contains_iff {dict : OrderedDict κ α} {key : κ} :
    dict.contains key ↔ key ∈ dict.keys := by
  rw [contains, Option.isSome_iff_ne_none, ne_eq, get?_eq_none_iff, not_not]

@[simp] theorem get?_empty (key : κ) : (empty : OrderedDict κ α).get? key = none := rfl

theorem get?_mapValues (f : κ → α → β) (dict : OrderedDict κ α) (key : κ) :
    (dict.mapValues f).get? key = (dict.get? key).map (f key) := by
  ext value
  simp only [get?_eq_some_iff, Option.map_eq_some_iff, mapValues, List.mem_map, Prod.mk.injEq,
    Prod.exists]
  constructor
  · rintro ⟨_, stored, hmem, rfl, rfl⟩
    exact ⟨stored, hmem, rfl⟩
  · rintro ⟨stored, hmem, rfl⟩
    exact ⟨key, stored, hmem, rfl, rfl⟩

theorem get?_filter (keep : κ → α → Bool) (dict : OrderedDict κ α) (key : κ) :
    (dict.filter keep).get? key = (dict.get? key).filter (keep key) := by
  ext value
  simp [get?_eq_some_iff, Option.filter_eq_some_iff, filter]

/-- `del dict[key]`, or `dict.pop(key, None)` without its value. -/
def erase (dict : OrderedDict κ α) (key : κ) : OrderedDict κ α :=
  dict.filter fun other _ => other ≠ key

theorem get?_erase (dict : OrderedDict κ α) (key other : κ) :
    (dict.erase key).get? other = if other = key then none else dict.get? other := by
  rw [erase, get?_filter]
  cases dict.get? other <;> simp [Option.filter]

/-- `dict[key] = value`: overwrite in place, or append. -/
def set (dict : OrderedDict κ α) (key : κ) (value : α) : OrderedDict κ α :=
  if hkey : key ∈ dict.keys then
    dict.mapValues fun other stored => if other = key then value else stored
  else
    { items := dict.items ++ [(key, value)]
      nodup := by
        rw [List.map_append, List.nodup_append_comm]
        exact List.nodup_cons.mpr ⟨hkey, dict.nodup⟩ }

theorem get?_set (dict : OrderedDict κ α) (key other : κ) (value : α) :
    (dict.set key value).get? other = if other = key then some value else dict.get? other := by
  unfold set
  split
  next hkey =>
    rw [get?_mapValues]
    split
    next hother =>
      subst hother
      obtain ⟨stored, hstored⟩ := Option.isSome_iff_exists.mp (contains_iff.mpr hkey)
      simp [hstored]
    next => simp
  next hkey =>
    rw [get?, List.find?_append]
    by_cases hother : other = key
    · subst hother
      have hnone : dict.items.find? (fun item => item.1 = other) = none := by
        simpa [get?] using get?_eq_none_iff.mpr hkey
      simp [hnone]
    · have hne : ¬key = other := fun h => hother h.symm
      simp [get?, hother, hne]

@[simp] theorem get?_set_self (dict : OrderedDict κ α) (key : κ) (value : α) :
    (dict.set key value).get? key = some value := by
  simp [get?_set]

/-- A dictionary built from pairs; a later pair overwrites an earlier one. -/
def ofList (pairs : List (κ × α)) : OrderedDict κ α :=
  pairs.foldl (fun dict pair => dict.set pair.1 pair.2) empty

/-- `dict.update(other)`. -/
def update (dict other : OrderedDict κ α) : OrderedDict κ α :=
  other.items.foldl (fun dict pair => dict.set pair.1 pair.2) dict

theorem get?_foldl_set (pairs : List (κ × α)) (dict : OrderedDict κ α) (key : κ)
    (hnodup : (pairs.map Prod.fst).Nodup) :
    (pairs.foldl (fun dict pair => dict.set pair.1 pair.2) dict).get? key =
      ((pairs.find? fun item => item.1 = key).map Prod.snd).or (dict.get? key) := by
  induction pairs generalizing dict with
  | nil => rfl
  | cons pair pairs ih =>
      rw [List.map_cons, List.nodup_cons] at hnodup
      rw [List.foldl_cons, ih _ hnodup.2, get?_set, List.find?_cons]
      by_cases hkey : pair.1 = key
      · have hnone : pairs.find? (fun item => item.1 = key) = none := by
          rw [List.find?_eq_none]
          intro item hitem hitemKey
          refine hnodup.1 (List.mem_map.mpr ⟨item, hitem, ?_⟩)
          rw [hkey]
          simpa using hitemKey
        simp [hkey, hnone]
      · have hne : ¬key = pair.1 := fun h => hkey h.symm
        simp [hkey, hne]

theorem mem_keys_foldl_set (pairs : List (κ × α)) (dict : OrderedDict κ α) (key : κ) :
    key ∈ (pairs.foldl (fun dict pair => dict.set pair.1 pair.2) dict).keys ↔
      key ∈ dict.keys ∨ key ∈ pairs.map Prod.fst := by
  induction pairs generalizing dict with
  | nil => simp
  | cons pair pairs ih =>
      have hset : key ∈ (dict.set pair.1 pair.2).keys ↔ key = pair.1 ∨ key ∈ dict.keys := by
        simp only [← contains_iff, contains, get?_set]
        split <;> simp_all
      rw [List.foldl_cons, ih, hset, List.map_cons, List.mem_cons]
      exact or_assoc.trans or_left_comm

/-- The dictionary has the keys of the pairs. -/
theorem mem_keys_ofList (pairs : List (κ × α)) (key : κ) :
    key ∈ (ofList pairs).keys ↔ key ∈ pairs.map Prod.fst := by
  rw [ofList, mem_keys_foldl_set]
  simp [empty, keys]

theorem mem_foldl_set {pairs : List (κ × α)} {dict : OrderedDict κ α} {item : κ × α}
    (hitem : item ∈ (pairs.foldl (fun dict pair => dict.set pair.1 pair.2) dict).items) :
    item ∈ dict.items ∨ item ∈ pairs := by
  induction pairs generalizing dict with
  | nil => exact .inl hitem
  | cons pair pairs ih =>
      rcases ih hitem with hset | hlater
      · rw [← get?_eq_some_iff, get?_set] at hset
        split at hset
        next hkey =>
          have hpair : item = pair := Prod.ext hkey (Option.some.inj hset).symm
          exact .inr (hpair ▸ List.mem_cons_self)
        next => exact .inl (get?_eq_some_iff.mp hset)
      · exact .inr (List.mem_cons_of_mem _ hlater)

/-- Nothing but the pairs is stored. -/
theorem mem_of_mem_ofList {pairs : List (κ × α)} {item : κ × α}
    (hitem : item ∈ (ofList pairs).items) : item ∈ pairs :=
  (mem_foldl_set hitem).resolve_left List.not_mem_nil

/-- Pairs with distinct keys are all found. -/
theorem get?_ofList_of_mem {pairs : List (κ × α)} (hnodup : (pairs.map Prod.fst).Nodup)
    {item : κ × α} (hitem : item ∈ pairs) : (ofList pairs).get? item.1 = some item.2 := by
  let dict : OrderedDict κ α := ⟨pairs, hnodup⟩
  have hget : dict.get? item.1 = some item.2 := get?_eq_some_iff.mpr hitem
  rw [ofList, get?_foldl_set pairs empty item.1 hnodup, get?_empty, Option.or_none]
  exact hget

/-- Pairs whose keys are new are appended. -/
theorem items_foldl_set (pairs : List (κ × α)) (dict : OrderedDict κ α)
    (hnodup : ((dict.items ++ pairs).map Prod.fst).Nodup) :
    (pairs.foldl (fun dict pair => dict.set pair.1 pair.2) dict).items = dict.items ++ pairs := by
  induction pairs generalizing dict with
  | nil => exact (List.append_nil _).symm
  | cons pair pairs ih =>
      have hfresh : pair.1 ∉ dict.keys := by
        rw [List.map_append, List.map_cons, List.nodup_middle] at hnodup
        intro hkey
        exact (List.nodup_cons.mp hnodup).1 (List.mem_append_left _ hkey)
      have hset : (dict.set pair.1 pair.2).items = dict.items ++ [pair] := by
        simp [set, hfresh]
      rw [List.foldl_cons, ih, hset, List.append_assoc, List.singleton_append]
      rwa [hset, List.append_assoc, List.singleton_append]

/-- Pairs with distinct keys are stored as they are. -/
theorem items_ofList {pairs : List (κ × α)} (hnodup : (pairs.map Prod.fst).Nodup) :
    (ofList pairs).items = pairs :=
  items_foldl_set pairs empty hnodup

@[simp] theorem ofList_items (dict : OrderedDict κ α) : ofList dict.items = dict :=
  ext (items_ofList dict.nodup)

theorem get?_update (dict other : OrderedDict κ α) (key : κ) :
    (dict.update other).get? key = (other.get? key).or (dict.get? key) :=
  get?_foldl_set other.items dict key other.nodup

/-- The value of a field that may be left out. -/
def fieldValue (key : κ) : List (κ × Option α) → Option α
  | [] => none
  | (other, value) :: fields => if other = key then value else fieldValue key fields

@[simp] theorem fieldValue_cons_self (key : κ) (value : Option α) (fields : List (κ × Option α)) :
    fieldValue key ((key, value) :: fields) = value := if_pos rfl

@[simp] theorem fieldValue_cons_ne {key other : κ} (hkey : other ≠ key) (value : Option α)
    (fields : List (κ × Option α)) :
    fieldValue key ((other, value) :: fields) = fieldValue key fields := if_neg hkey

/-- The value of one field does not count for the others. -/
theorem fieldValue_append_cons_ne {key other : κ} (hkey : other ≠ key) (value : Option α)
    (front back : List (κ × Option α)) :
    fieldValue key (front ++ (other, value) :: back) = fieldValue key (front ++ back) := by
  induction front with
  | nil => exact fieldValue_cons_ne hkey value back
  | cons field front ih =>
      obtain ⟨first, firstValue⟩ := field
      rw [List.cons_append, List.cons_append, fieldValue, fieldValue, ih]

/-- Looking up a field finds its value unless it is left out. -/
theorem get?_ofList_presentItems {fields : List (κ × Option α)} (key : κ)
    (hnodup : (fields.map Prod.fst).Nodup) :
    (ofList (presentItems fields)).get? key = fieldValue key fields := by
  rw [ofList, get?_foldl_set _ _ _ (hnodup.sublist (presentItems_sublist fields)), get?_empty,
    Option.or_none]
  induction fields with
  | nil => rfl
  | cons field fields ih =>
      obtain ⟨other, value⟩ := field
      obtain ⟨hfresh, hrest⟩ := List.nodup_cons.mp hnodup
      by_cases hkey : other = key
      · subst hkey
        rw [fieldValue_cons_self]
        cases value with
        | none =>
            have hnone : (presentItems fields).find? (fun item => item.1 = other) = none := by
              rw [List.find?_eq_none]
              intro item hitem hsame
              exact key_ne_of_mem_presentItems hfresh hitem (of_decide_eq_true hsame)
            simp [hnone]
        | some value => simp
      · have hfind := ih hrest
        rw [fieldValue_cons_ne hkey, ← hfind]
        cases value <;> simp [hkey]

namespace Fields

variable (fields : Fields κ α)

def mapping : OrderedDict κ α := ofList fields.items

theorem get?_mapping (key : κ) : fields.mapping.get? key = fieldValue key fields.entries :=
  get?_ofList_presentItems key fields.nodup

end Fields

end OrderedDict

end PaybondKit
