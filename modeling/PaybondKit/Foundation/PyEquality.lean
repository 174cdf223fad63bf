import PaybondKit.Foundation.MappingOrder
import PaybondKit.Foundation.PyJson
import PaybondKit.Foundation.PyNumber

/-!
# Python's `==`

Numbers are compared by value, whatever their type, and dicts without regard to the order of
their keys.
-/

namespace PaybondKit.PyValue

/-- Two numbers; anything else is not a number. -/
def eqNumber (first second : PyValue) : Bool :=
  match first.number?, second.number? with
  | some first, some second => first ≤ second ∧ second ≤ first
  | _, _ => false

mutual

/-- `first == second`. -/
def pyEq : PyValue → PyValue → Bool
  | .none, second => match second with | .none => true | _ => false
  | .str text, second => match second with | .str other => text = other | _ => false
  | .list items, second =>
      match second with | .list others => pyEqItems items others | _ => false
  | .dict items, second =>
      match second with
      | .dict others => items.length = others.length ∧ pyEqMembers items others = true
      | _ => false
  | first, second => eqNumber first second

def pyEqItems : List PyValue → List PyValue → Bool
  | [], others => others.isEmpty
  | item :: items, others =>
      match others with | other :: others => pyEq item other && pyEqItems items others | [] => false

/-- Every member has an equal one under its key. -/
def pyEqMembers : List (String × PyValue) → List (String × PyValue) → Bool
  | [], _ => true
  | (key, value) :: items, others =>
      match (OrderedDict.ofList others).get? key with
      | some other => pyEq value other && pyEqMembers items others
      | Option.none => false

end

mutual

/-- A value without floats equals itself. -/
theorem pyEq_self : ∀ value : PyValue, value.Integral → value.Distinct → value.pyEq value = true
  | .none, _, _ => rfl
  | .bool value, _, _ => by cases value <;> decide
  | .int value, _, _ => by simp [pyEq, eqNumber, number?]
  | .float _, hintegral, _ => hintegral.elim
  | .str text, _, _ => by simp [pyEq]
  | .list items, hintegral, hdistinct => pyEqItems_self items hintegral hdistinct
  | .dict items, hintegral, hdistinct => by
      have hmembers := pyEqMembers_self items items hintegral hdistinct.2
        fun item hitem => OrderedDict.get?_ofList_of_mem hdistinct.1 hitem
      simp [pyEq, hmembers]

theorem pyEqItems_self : ∀ items : List PyValue, IntegralItems items → DistinctItems items →
    pyEqItems items items = true
  | [], _, _ => rfl
  | item :: items, hintegral, hdistinct => by
      have hitem := pyEq_self item hintegral.1 hdistinct.1
      have hitems := pyEqItems_self items hintegral.2 hdistinct.2
      simp [pyEqItems, hitem, hitems]

theorem pyEqMembers_self : ∀ items others : List (String × PyValue), IntegralMembers items →
    DistinctMembers items →
      (∀ item ∈ items, (OrderedDict.ofList others).get? item.1 = some item.2) →
        pyEqMembers items others = true
  | [], _, _, _, _ => rfl
  | (key, value) :: items, others, hintegral, hdistinct, hfound => by
      obtain ⟨hkey, hrest⟩ := List.forall_mem_cons.mp hfound
      have hvalue := pyEq_self value hintegral.1 hdistinct.1
      have hitems := pyEqMembers_self items others hintegral.2 hdistinct.2 hrest
      simp [pyEqMembers, hkey, hvalue, hitems]

end

theorem pyEqMembers_iff {items others : List (String × PyValue)} :
    pyEqMembers items others = true ↔ ∀ item ∈ items, ∃ other,
      (OrderedDict.ofList others).get? item.1 = some other ∧ pyEq item.2 other = true := by
  induction items with
  | nil => simp [pyEqMembers]
  | cons item items ih =>
      obtain ⟨key, value⟩ := item
      rw [List.forall_mem_cons, ← ih, pyEqMembers]
      cases (OrderedDict.ofList others).get? key <;> simp

theorem pyEqItems_iff {items others : List PyValue} :
    pyEqItems items others = true ↔ List.Forall₂ (fun item other => pyEq item other = true) items
      others := by
  induction items generalizing others with
  | nil => cases others <;> simp [pyEqItems]
  | cons item items ih =>
      cases others with
      | nil => simp [pyEqItems]
      | cons other others => simp [pyEqItems, ih]

theorem pyEq_list {items : List PyValue} {other : PyValue} :
    pyEq (.list items) other = true ↔ ∃ others, other = .list others ∧
      List.Forall₂ (fun item other => pyEq item other = true) items others := by
  cases other <;> simp [pyEq, pyEqItems_iff]

theorem pyEq_dict {items : List (String × PyValue)} {other : PyValue} :
    pyEq (.dict items) other = true ↔ ∃ others, other = .dict others ∧
      items.length = others.length ∧ ∀ item ∈ items, ∃ other,
        (OrderedDict.ofList others).get? item.1 = some other ∧ pyEq item.2 other = true := by
  cases other <;> simp [pyEq, pyEqMembers_iff]

/-- Whatever a value equals is also equal to a value that is the same. -/
theorem pyEq_of_sameValue {value same other : PyValue} (hsame : value.SameValue same)
    (heq : same.pyEq other = true) : value.pyEq other = true := by
  induction value using PyValue.treeInduction generalizing same other with
  | leaf leaf hleaf => rwa [(sameValue_leaf hleaf).mp hsame] at heq
  | list items ih =>
      obtain ⟨sames, rfl, hitems⟩ := sameValue_list.mp hsame
      obtain ⟨others, rfl, hothers⟩ := pyEq_list.mp heq
      refine pyEq_list.mpr ⟨others, rfl, ?_⟩
      clear hsame heq
      induction hitems generalizing others with
      | nil => exact hothers
      | cons hitem hitems ihitems =>
          obtain ⟨other, others, hother, hrest, rfl⟩ := List.forall₂_cons_left_iff.mp hothers
          obtain ⟨ihhead, ihtail⟩ := List.forall_mem_cons.mp ih
          exact .cons (ihhead hitem hother) (ihitems ihtail _ hrest)
  | dict items ih =>
      obtain ⟨sames, rfl, hkeys, hmembers⟩ : ∃ sames, same = .dict sames ∧
          (items.map Prod.fst).Perm (sames.map Prod.fst) ∧
            ∀ item ∈ items, ∃ other, (item.1, other) ∈ sames ∧ SameValue item.2 other := by
        cases same with
        | dict sames => exact ⟨sames, rfl, sameValue_dict.mp hsame⟩
        | _ => simp [SameValue] at hsame
      obtain ⟨others, rfl, hlength, hothers⟩ := pyEq_dict.mp heq
      refine pyEq_dict.mpr ⟨others, rfl, ?_, fun item hitem => ?_⟩
      · have hsize := hkeys.length_eq
        simp only [List.length_map] at hsize
        omega
      · obtain ⟨value, hmem, hvalue⟩ := hmembers item hitem
        obtain ⟨other, hget, hother⟩ := hothers _ hmem
        exact ⟨other, hget, ih item hitem hvalue hother⟩

theorem eqNumber_iff {first second : PyValue} : eqNumber first second = true ↔
    ∃ number number', first.number? = some number ∧ second.number? = some number' ∧
      number ≤ number' ∧ number' ≤ number := by
  unfold eqNumber
  cases first.number? <;> cases second.number? <;> simp

theorem eqNumber_of_eqNumber {value first second : PyValue} (heq : eqNumber value first = true)
    (heq' : eqNumber value second = true) : eqNumber first second = true := by
  obtain ⟨number, number', hvalue, hfirst, hle, hge⟩ := eqNumber_iff.mp heq
  obtain ⟨other, other', hvalue', hsecond, hle', hge'⟩ := eqNumber_iff.mp heq'
  obtain rfl := Option.some.inj (hvalue.symm.trans hvalue')
  exact eqNumber_iff.mpr ⟨number', other', hfirst, hsecond, PyFloat.le_trans hge hle',
    PyFloat.le_trans hge' hle⟩

/-- Two numbers are compared as numbers. -/
theorem pyEq_number {first second : PyValue} {number : PyFloat}
    (hfirst : first.number? = some number) : first.pyEq second = eqNumber first second := by
  cases first <;> first | rfl | cases hfirst

/-- Values that one value equals are equal. -/
theorem pyEq_of_pyEq {value first second : PyValue} (hvalue : value.Distinct)
    (hfirst : first.Distinct) (heq : value.pyEq first = true) (heq' : value.pyEq second = true) :
    first.pyEq second = true := by
  induction value using PyValue.treeInduction generalizing first second with
  | leaf leaf hleaf =>
      cases hnumber : leaf.number? with
      | some number =>
          rw [pyEq_number hnumber] at heq heq'
          obtain ⟨_, number', -, hnumber', -⟩ := eqNumber_iff.mp heq
          rw [pyEq_number hnumber']
          exact eqNumber_of_eqNumber heq heq'
      | none =>
          cases leaf with
          | none =>
              cases first with
              | none => exact heq'
              | _ => cases heq
          | str text =>
              cases first with
              | str other =>
                  obtain rfl : text = other := by simpa [pyEq] using heq
                  exact heq'
              | _ => cases heq
          | list => cases hleaf
          | dict => cases hleaf
          | _ => cases hnumber
  | list items ih =>
      obtain ⟨firsts, rfl, hfirsts⟩ := pyEq_list.mp heq
      obtain ⟨seconds, rfl, hseconds⟩ := pyEq_list.mp heq'
      refine pyEq_list.mpr ⟨seconds, rfl, ?_⟩
      rw [Distinct, distinctItems_iff] at hvalue hfirst
      clear heq heq'
      induction hfirsts generalizing seconds with
      | nil =>
          cases hseconds
          exact .nil
      | cons hitem hitems ihitems =>
          obtain ⟨other, others, hother, hrest, rfl⟩ := List.forall₂_cons_left_iff.mp hseconds
          obtain ⟨ihhead, ihtail⟩ := List.forall_mem_cons.mp ih
          obtain ⟨hhead, htail⟩ := List.forall_mem_cons.mp hvalue
          obtain ⟨hhead', htail'⟩ := List.forall_mem_cons.mp hfirst
          exact .cons (ihhead hhead hhead' hitem hother) (ihitems ihtail htail htail' _ hrest)
  | dict items ih =>
      obtain ⟨firsts, rfl, hlength, hfirsts⟩ := pyEq_dict.mp heq
      obtain ⟨seconds, rfl, hlength', hseconds⟩ := pyEq_dict.mp heq'
      obtain ⟨hnodup, hdistinct⟩ := distinct_dict.mp hvalue
      obtain ⟨hnodup', hdistinct'⟩ := distinct_dict.mp hfirst
      refine pyEq_dict.mpr ⟨seconds, rfl, hlength.symm.trans hlength', fun item hitem => ?_⟩
      -- there are as many keys on both sides, so that no key of `firsts` is new
      have hsubset : items.map Prod.fst ⊆ firsts.map Prod.fst := by
        intro key hkey
        obtain ⟨found, hfound, rfl⟩ := List.mem_map.mp hkey
        obtain ⟨other, hget, -⟩ := hfirsts found hfound
        exact (OrderedDict.mem_keys_ofList firsts found.1).mp
          (OrderedDict.contains_iff.mp (by simp [OrderedDict.contains, hget]))
      have hperm : (items.map Prod.fst).Perm (firsts.map Prod.fst) :=
        (List.subperm_of_subset hnodup hsubset).perm_of_length_le (by simp [hlength])
      obtain ⟨found, hfound, hkey⟩ :=
        List.mem_map.mp (hperm.mem_iff.mpr (List.mem_map_of_mem hitem))
      obtain ⟨other, hget, hother⟩ := hfirsts found hfound
      obtain ⟨other', hget', hother'⟩ := hseconds found hfound
      have hsame := OrderedDict.get?_ofList_of_mem hnodup' hitem
      rw [← hkey, hget] at hsame
      obtain rfl := Option.some.inj hsame
      rw [← hkey]
      exact ⟨other', hget', ih found hfound (hdistinct found hfound) (hdistinct' item hitem) hother
        hother'⟩

end PaybondKit.PyValue
