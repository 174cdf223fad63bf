import Mathlib.Data.List.Basic
import Mathlib.Data.List.Nodup
import Mathlib.Data.List.TakeWhile
import PaybondKit.Foundation.OrderedDict

/-!
# Keys by their last use

A list of keys of which the one used last stands first. A cache that holds on to so many of the
keys used last keeps a key as long as fewer of its other keys stand before it.
-/

namespace PaybondKit

variable {κ : Type} [DecidableEq κ]

/-- The key is used. -/
def touch (key : κ) (keys : List κ) : List κ := key :: keys.erase key

/-- The keys that were used since the key was. -/
def usedSince (key : κ) : List κ → List κ
  | [] => []
  | head :: keys => if head = key then [] else head :: usedSince key keys

section Touch

variable {key other : κ} {keys kept : List κ}

theorem nodup_touch (hnodup : keys.Nodup) : (touch key keys).Nodup :=
  List.nodup_cons.mpr ⟨hnodup.not_mem_erase, hnodup.erase key⟩

theorem mem_touch : other ∈ touch key keys ↔ other = key ∨ other ∈ keys := by
  by_cases hkey : other = key
  · simp [touch, hkey]
  · simp [touch, hkey, List.mem_erase_of_ne hkey]

theorem length_touch_of_mem (hmem : key ∈ keys) : (touch key keys).length = keys.length := by
  have hpos := List.length_pos_of_mem hmem
  rw [touch, List.length_cons, List.length_erase_of_mem hmem]
  omega

theorem touch_sublist (hkept : kept.Sublist keys) : (touch key kept).Sublist (touch key keys) :=
  (hkept.erase key).cons_cons key

@[simp] theorem usedSince_touch_self : usedSince key (touch key keys) = [] := by
  simp [usedSince, touch]

theorem usedSince_sublist : (usedSince key keys).Sublist keys := by
  induction keys with
  | nil => exact List.nil_sublist _
  | cons head keys ih =>
      by_cases hkey : head = key
      · simp [usedSince, hkey]
      · simp [usedSince, hkey, ih]

theorem ne_of_mem_usedSince (hmem : other ∈ usedSince key keys) : other ≠ key := by
  induction keys with
  | nil => cases hmem
  | cons head keys ih =>
      by_cases hkey : head = key
      · simp [usedSince, hkey] at hmem
      · rw [usedSince, if_neg hkey, List.mem_cons] at hmem
        rcases hmem with rfl | hmem
        · exact hkey
        · exact ih hmem

theorem usedSince_erase (hne : key ≠ other) :
    usedSince key (keys.erase other) = (usedSince key keys).erase other := by
  induction keys with
  | nil => rfl
  | cons head keys ih =>
      by_cases hhead : head = other
      · subst hhead
        simp [usedSince, hne.symm]
      · by_cases hkey : head = key
        · subst hkey
          simp [usedSince, hhead]
        · simp [usedSince, hhead, hkey, ih]

/-- Another key that is used comes first among those used since. -/
theorem usedSince_touch_of_ne (hne : key ≠ other) :
    usedSince key (touch other keys) = touch other (usedSince key keys) := by
  simp [touch, usedSince, hne.symm, usedSince_erase hne]

/-- What was used since a later use was used since an earlier one. -/
theorem usedSince_subset (hmem : other ∈ usedSince key keys) :
    (usedSince other keys).Sublist (usedSince key keys) := by
  induction keys with
  | nil => exact List.nil_sublist _
  | cons head keys ih =>
      by_cases hkey : head = key
      · simp [usedSince, hkey] at hmem
      · rw [usedSince, if_neg hkey] at hmem
        by_cases hother : head = other
        · simp [usedSince, hother]
        · have hlater := (List.mem_cons.mp hmem).resolve_left fun heq => hother heq.symm
          rw [usedSince, usedSince, if_neg hother, if_neg hkey]
          exact (ih hlater).cons_cons head

/-- The first keys of a list are those with few keys before them. -/
theorem mem_take_iff (hmem : key ∈ keys) (n : ℕ) :
    key ∈ keys.take n ↔ (usedSince key keys).length < n := by
  induction keys generalizing n with
  | nil => cases hmem
  | cons head keys ih =>
      cases n with
      | zero => simp
      | succ n =>
          by_cases hkey : head = key
          · simp [usedSince, hkey]
          · have hlater := (List.mem_cons.mp hmem).resolve_left fun heq => hkey heq.symm
            have hne : key ≠ head := fun heq => hkey heq.symm
            simp [usedSince, hkey, hne, ih hlater n]

theorem usedSince_filter {p : κ → Bool} (hkey : p key = true) :
    usedSince key (keys.filter p) = (usedSince key keys).filter p := by
  induction keys with
  | nil => rfl
  | cons head keys ih =>
      by_cases hhead : head = key
      · subst hhead
        simp [usedSince, hkey]
      · by_cases hp : p head = true
        · simp [usedSince, hp, hhead, ih]
        · simp [usedSince, hp, hhead, ih]

/-- A sublist of distinct keys holds the keys of the list that are in it. -/
theorem filter_mem_of_sublist (hkept : kept.Sublist keys) (hnodup : keys.Nodup) :
    keys.filter (· ∈ kept) = kept := by
  induction hkept with
  | slnil => rfl
  | @cons kept keys head hkept ih =>
      obtain ⟨hfresh, hnodup⟩ := List.nodup_cons.mp hnodup
      have hnot : head ∉ kept := fun hmem => hfresh (hkept.mem hmem)
      rw [List.filter_cons_of_neg (by simpa using hnot), ih hnodup]
  | @cons_cons kept keys head hkept ih =>
      obtain ⟨hfresh, hnodup⟩ := List.nodup_cons.mp hnodup
      rw [List.filter_cons_of_pos (by simp)]
      congr 1
      refine Eq.trans (List.filter_congr fun other hother => ?_) (ih hnodup)
      have hne : other ≠ head := by
        rintro rfl
        exact hfresh hother
      simp [hne]

end Touch

/-! ## Dictionaries in the order of use -/

namespace OrderedDict

variable {α : Type} {dict : OrderedDict κ α} {key other : κ} {value : α}

/-- The keys, the last one first. -/
def latest (dict : OrderedDict κ α) : List κ := dict.keys.reverse

/-- `dict.move_to_end(key)`, where the key is there. -/
def moveToEnd (dict : OrderedDict κ α) (key : κ) : OrderedDict κ α :=
  match dict.get? key with
  | some value => (dict.erase key).set key value
  | none => dict

/-- `while len(items) > most: items.popitem(last=False)`. -/
def popOldest (most : ℕ) : List (κ × α) → List (κ × α)
  | [] => []
  | item :: items => if most < (item :: items).length then popOldest most items else item :: items

omit [DecidableEq κ] in
theorem popOldest_eq (most : ℕ) (items : List (κ × α)) :
    popOldest most items = items.drop (items.length - most) := by
  induction items with
  | nil => simp [popOldest]
  | cons item items ih =>
      unfold popOldest
      split
      next hlong =>
        have hlength : (item :: items).length - most = items.length - most + 1 := by
          rw [List.length_cons] at hlong ⊢
          omega
        rw [hlength, List.drop_succ_cons, ih]
      next hshort => rw [Nat.sub_eq_zero_of_le (not_lt.mp hshort), List.drop_zero]

def keepLatest (dict : OrderedDict κ α) (most : ℕ) : OrderedDict κ α where
  items := popOldest most dict.items
  nodup := by
    rw [popOldest_eq]
    exact dict.nodup.sublist ((List.drop_sublist _ _).map Prod.fst)

omit [DecidableEq κ] in
theorem nodup_latest (dict : OrderedDict κ α) : dict.latest.Nodup :=
  List.nodup_reverse.mpr dict.nodup

omit [DecidableEq κ] in
theorem mem_latest : key ∈ dict.latest ↔ key ∈ dict.keys := List.mem_reverse

theorem isSome_get?_iff : (dict.get? key).isSome ↔ key ∈ dict.latest := by
  rw [mem_latest, ← contains_iff, contains]

theorem latest_filter (keep : κ → α → Bool) :
    (dict.filter keep).latest = dict.latest.filter fun key => (dict.get? key).any (keep key) := by
  rw [latest, latest, List.filter_reverse]
  congr 1
  rw [keys, keys, List.filter_map, filter]
  congr 1
  refine List.filter_congr fun item hitem => ?_
  simp [get?_eq_some_iff.mpr hitem]

theorem latest_erase : (dict.erase key).latest = dict.latest.erase key := by
  rw [erase, latest_filter, dict.nodup_latest.erase_eq_filter]
  refine List.filter_congr fun other hother => ?_
  obtain ⟨value, hvalue⟩ := Option.isSome_iff_exists.mp (isSome_get?_iff.mpr hother)
  by_cases hkey : other = key
  · simp [hkey]
  · simp [hvalue, hkey]

theorem latest_set_of_mem (hmem : key ∈ dict.latest) :
    (dict.set key value).latest = dict.latest := by
  rw [set, dif_pos (mem_latest.mp hmem)]
  simp [latest, keys, mapValues]

theorem latest_set_of_not_mem (hmem : key ∉ dict.latest) :
    (dict.set key value).latest = key :: dict.latest := by
  rw [set, dif_neg (mt mem_latest.mpr hmem)]
  simp [latest, keys]

theorem latest_moveToEnd (hmem : key ∈ dict.latest) :
    (dict.moveToEnd key).latest = touch key dict.latest := by
  obtain ⟨value, hvalue⟩ := Option.isSome_iff_exists.mp (isSome_get?_iff.mpr hmem)
  have hfresh : key ∉ (dict.erase key).latest := by
    rw [latest_erase]
    exact dict.nodup_latest.not_mem_erase
  rw [moveToEnd, hvalue]
  exact (latest_set_of_not_mem hfresh).trans (congrArg (key :: ·) latest_erase)

theorem get?_moveToEnd : (dict.moveToEnd key).get? other = dict.get? other := by
  unfold moveToEnd
  split
  next value hvalue =>
    rw [get?_set, get?_erase]
    by_cases hother : other = key
    · rw [if_pos hother, hother, hvalue]
    · rw [if_neg hother, if_neg hother]
  next => rfl

/-- The key that is set and moved to the end is the one used last. -/
theorem latest_set_moveToEnd :
    ((dict.set key value).moveToEnd key).latest = touch key dict.latest := by
  have hset : key ∈ (dict.set key value).latest := isSome_get?_iff.mp (by simp)
  rw [latest_moveToEnd hset]
  by_cases hmem : key ∈ dict.latest
  · rw [latest_set_of_mem hmem]
  · rw [latest_set_of_not_mem hmem, touch, touch, List.erase_cons_head, List.erase_of_not_mem hmem]

omit [DecidableEq κ] in
theorem items_keepLatest (most : ℕ) :
    (dict.keepLatest most).items = dict.items.drop (dict.items.length - most) :=
  popOldest_eq most dict.items

omit [DecidableEq κ] in
theorem latest_keepLatest (most : ℕ) :
    (dict.keepLatest most).latest = dict.latest.take most := by
  rw [latest, latest, keys, keys, items_keepLatest, List.map_drop, List.take_reverse,
    List.length_map]

theorem get?_keepLatest (most : ℕ) (hmem : key ∈ (dict.keepLatest most).latest) :
    (dict.keepLatest most).get? key = dict.get? key := by
  obtain ⟨value, hvalue⟩ := Option.isSome_iff_exists.mp (isSome_get?_iff.mpr hmem)
  have hitem : (key, value) ∈ dict.items := by
    have hkept := get?_eq_some_iff.mp hvalue
    rw [items_keepLatest] at hkept
    exact List.mem_of_mem_drop hkept
  rw [hvalue, get?_eq_some_iff.mpr hitem]

end OrderedDict

end PaybondKit
