import PaybondKit.Foundation.OrderedDict

/-!
# Pairs that meet under a key

A dictionary built from pairs keeps the last value under each key. Which one that is depends on the
order of the pairs, unless pairs with one key have one value.
-/

namespace PaybondKit.OrderedDict

variable {ι κ α : Type}

/-- Pairs with one key have one value. -/
def Agree (pairs : List (κ × α)) : Prop :=
  ∀ first ∈ pairs, ∀ second ∈ pairs, first.1 = second.1 → first.2 = second.2

theorem Agree.perm {pairs pairs' : List (κ × α)} (hagree : Agree pairs)
    (hperm : pairs'.Perm pairs) : Agree pairs' := by
  intro first hfirst second hsecond hkey
  exact hagree first (hperm.mem_iff.mp hfirst) second (hperm.mem_iff.mp hsecond) hkey

variable [DecidableEq κ]

theorem get?_ofList_of_agree {pairs : List (κ × α)} (hagree : Agree pairs) {pair : κ × α}
    (hpair : pair ∈ pairs) : (ofList pairs).get? pair.1 = some pair.2 := by
  have hkey : pair.1 ∈ (ofList pairs).keys :=
    (mem_keys_ofList pairs pair.1).mpr (List.mem_map_of_mem hpair)
  obtain ⟨value, hvalue⟩ := Option.isSome_iff_exists.mp (contains_iff.mpr hkey)
  have hstored : (pair.1, value) ∈ pairs := mem_of_mem_ofList (get?_eq_some_iff.mp hvalue)
  have hsame : value = pair.2 := hagree _ hstored _ hpair rfl
  rw [hvalue, hsame]

theorem get?_ofList_eq_none_iff {pairs : List (κ × α)} {key : κ} :
    (ofList pairs).get? key = none ↔ key ∉ pairs.map Prod.fst := by
  rw [get?_eq_none_iff, mem_keys_ofList]

/-- Pairs that agree are found alike in every order. -/
theorem get?_ofList_perm {pairs pairs' : List (κ × α)} (hagree : Agree pairs)
    (hperm : pairs'.Perm pairs) (key : κ) :
    (ofList pairs').get? key = (ofList pairs).get? key := by
  by_cases hkey : key ∈ pairs.map Prod.fst
  · obtain ⟨pair, hpair, rfl⟩ := List.mem_map.mp hkey
    rw [get?_ofList_of_agree hagree hpair,
      get?_ofList_of_agree (hagree.perm hperm) (hperm.mem_iff.mpr hpair)]
  · have hkey' : key ∉ pairs'.map Prod.fst := by
      intro hmem
      exact hkey ((hperm.map Prod.fst).mem_iff.mp hmem)
    rw [get?_ofList_eq_none_iff.mpr hkey, get?_ofList_eq_none_iff.mpr hkey']

theorem get?_ofList_concat (pairs : List (κ × α)) (pair : κ × α) :
    (ofList (pairs ++ [pair])).get? pair.1 = some pair.2 := by
  rw [ofList, List.foldl_append, List.foldl_cons, List.foldl_nil, get?_set_self]

/-- Any of the items may come last, and is found then. -/
theorem exists_perm_get?_ofList {f : ι → κ × α} {items : List ι} {item : ι} (hitem : item ∈ items) :
    ∃ items' : List ι, items'.Perm items ∧
      (ofList (items'.map f)).get? (f item).1 = some (f item).2 := by
  obtain ⟨front, back, rfl⟩ := List.append_of_mem hitem
  refine ⟨front ++ back ++ [item], ?_, ?_⟩
  · have hswap : (front ++ back ++ [item]).Perm (item :: (front ++ back)) :=
      List.perm_append_singleton item (front ++ back)
    exact hswap.trans List.perm_middle.symm
  · rw [List.map_append, List.map_singleton, get?_ofList_concat]

/-- Items are found alike in every order just if those that meet under a key agree. -/
theorem agree_iff_forall_perm (f : ι → κ × α) (items : List ι) :
    Agree (items.map f) ↔
      ∀ items' : List ι, items'.Perm items → ∀ key,
        (ofList (items'.map f)).get? key = (ofList (items.map f)).get? key := by
  constructor
  · intro hagree items' hperm key
    exact get?_ofList_perm hagree (hperm.map f) key
  · intro hsame first hfirst second hsecond hkey
    obtain ⟨item, hitem, rfl⟩ := List.mem_map.mp hfirst
    obtain ⟨other, hother, rfl⟩ := List.mem_map.mp hsecond
    -- whichever comes last is found, so both are found in the order that is given
    obtain ⟨itemLast, hitemLast, hget⟩ := @exists_perm_get?_ofList _ _ _ _ f _ _ hitem
    obtain ⟨otherLast, hotherLast, hgetOther⟩ := @exists_perm_get?_ofList _ _ _ _ f _ _ hother
    rw [hsame _ hitemLast] at hget
    rw [hsame _ hotherLast, ← hkey, hget] at hgetOther
    exact Option.some.inj hgetOther

end PaybondKit.OrderedDict
