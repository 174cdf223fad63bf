import Mathlib.Data.List.Perm.Basic
import PaybondKit.Foundation.Leaves

/-!
# Values up to the order of keys

Two decoded values are the same when they differ in nothing but the order in which their
dicts list the keys. For a dict with fixed fields that comes down to its fields.
-/

namespace PaybondKit.PyValue

mutual

/-- The keys of every dict are distinct. -/
def Distinct : PyValue → Prop
  | .list items => DistinctItems items
  | .dict items => (items.map Prod.fst).Nodup ∧ DistinctMembers items
  | _ => True

def DistinctItems : List PyValue → Prop
  | [] => True
  | item :: items => Distinct item ∧ DistinctItems items

def DistinctMembers : List (String × PyValue) → Prop
  | [] => True
  | (_, value) :: items => Distinct value ∧ DistinctMembers items

end

mutual

/-- Equal but for the order of keys. -/
def SameValue : PyValue → PyValue → Prop
  | .list items, other => ∃ others, other = .list others ∧ SameItems items others
  | .dict items, other => ∃ others, other = .dict others ∧
      (items.map Prod.fst).Perm (others.map Prod.fst) ∧ SameMembers items others
  | leaf, other => other = leaf

def SameItems : List PyValue → List PyValue → Prop
  | [], others => others = []
  | item :: items, others => ∃ other rest, others = other :: rest ∧
      SameValue item other ∧ SameItems items rest

def SameMembers : List (String × PyValue) → List (String × PyValue) → Prop
  | [], _ => True
  | (key, value) :: items, others =>
      (∃ other, (key, other) ∈ others ∧ SameValue value other) ∧ SameMembers items others

end

theorem distinctItems_iff {items : List PyValue} :
    DistinctItems items ↔ ∀ item ∈ items, Distinct item := by
  induction items with
  | nil => simp [DistinctItems]
  | cons item items ih => rw [DistinctItems, ih, List.forall_mem_cons]

theorem distinctMembers_iff {items : List (String × PyValue)} :
    DistinctMembers items ↔ ∀ item ∈ items, Distinct item.2 := by
  induction items with
  | nil => simp [DistinctMembers]
  | cons item items ih => rw [DistinctMembers, ih, List.forall_mem_cons]

theorem distinct_dict {items : List (String × PyValue)} :
    Distinct (.dict items) ↔
      (items.map Prod.fst).Nodup ∧ ∀ item ∈ items, Distinct item.2 := by
  rw [Distinct, distinctMembers_iff]

theorem sameItems_iff {items others : List PyValue} :
    SameItems items others ↔ List.Forall₂ SameValue items others := by
  induction items generalizing others with
  | nil => rw [SameItems, List.forall₂_nil_left_iff]
  | cons item items ih =>
      rw [SameItems, List.forall₂_cons_left_iff]
      simp only [ih]
      constructor
      · rintro ⟨other, rest, rfl, hother, hrest⟩
        exact ⟨other, rest, hother, hrest, rfl⟩
      · rintro ⟨other, rest, hother, hrest, rfl⟩
        exact ⟨other, rest, rfl, hother, hrest⟩

theorem sameMembers_iff {items others : List (String × PyValue)} :
    SameMembers items others ↔
      ∀ item ∈ items, ∃ other, (item.1, other) ∈ others ∧ SameValue item.2 other := by
  induction items with
  | nil => simp [SameMembers]
  | cons item items ih => rw [SameMembers, ih, List.forall_mem_cons]

theorem sameValue_list {items : List PyValue} {other : PyValue} :
    SameValue (.list items) other ↔
      ∃ others, other = .list others ∧ List.Forall₂ SameValue items others := by
  simp only [SameValue, sameItems_iff]

theorem sameValue_dict {items others : List (String × PyValue)} :
    SameValue (.dict items) (.dict others) ↔
      (items.map Prod.fst).Perm (others.map Prod.fst) ∧
        ∀ item ∈ items, ∃ other, (item.1, other) ∈ others ∧ SameValue item.2 other := by
  simp [SameValue, sameMembers_iff]

theorem sameValue_leaf {leaf other : PyValue} (hleaf : leaf.isLeaf = true) :
    SameValue leaf other ↔ other = leaf := by
  cases leaf <;> first | rfl | cases hleaf

/-- A list of leaves is the same only as itself. -/
theorem sameValue_leaves {α : Type} {leafOf : α → PyValue} (hinjective : leafOf.Injective)
    (hleaf : ∀ a, (leafOf a).isLeaf = true) {items others : List α} :
    SameValue (.list (items.map leafOf)) (.list (others.map leafOf)) ↔ items = others := by
  rw [sameValue_list]
  constructor
  · rintro ⟨_, hothers, hitems⟩
    obtain rfl := PyValue.list.inj hothers
    induction items generalizing others with
    | nil => simpa using hitems
    | cons item items ih =>
        cases others with
        | nil => cases hitems
        | cons other others =>
            obtain ⟨hitem, hrest⟩ := List.forall₂_cons.mp hitems
            have hsame := hinjective ((sameValue_leaf (hleaf item)).mp hitem)
            rw [hsame, ih rfl hrest]
  · rintro rfl
    refine ⟨_, rfl, List.forall₂_same.mpr fun value hvalue => ?_⟩
    obtain ⟨item, -, rfl⟩ := List.mem_map.mp hvalue
    exact (sameValue_leaf (hleaf item)).mpr rfl

/-! ## Fields -/

section Fields

open OrderedDict (presentItems presentItems_sublist key_ne_of_mem_presentItems)

/-- Fields of one name whose values are both left out, or the same. -/
def SameField (field other : String × Option PyValue) : Prop :=
  other.1 = field.1 ∧ Option.Rel SameValue field.2 other.2

/-- A first member is set against the one under its key. -/
theorem sameMembers_cons_iff {key : String} {value value' : PyValue}
    {items others : List (String × PyValue)} (hfresh : ∀ item ∈ items, item.1 ≠ key)
    (hfresh' : ∀ item ∈ others, item.1 ≠ key) :
    (∀ item ∈ (key, value) :: items, ∃ other, (item.1, other) ∈ (key, value') :: others ∧
        SameValue item.2 other) ↔
      SameValue value value' ∧
        ∀ item ∈ items, ∃ other, (item.1, other) ∈ others ∧ SameValue item.2 other := by
  rw [List.forall_mem_cons]
  refine and_congr ?_ (forall₂_congr fun item hitem => exists_congr fun other => ?_)
  · constructor
    · rintro ⟨other, hmem, hsame⟩
      rcases List.mem_cons.mp hmem with heq | hmem
      · rwa [← (Prod.mk.inj heq).2]
      · exact absurd rfl (hfresh' _ hmem)
    · exact fun hsame => ⟨value', List.mem_cons_self, hsame⟩
  · refine and_congr_left fun _ => ?_
    rw [List.mem_cons]
    exact or_iff_right fun heq => hfresh item hitem (Prod.mk.inj heq).1

/-- Dicts with the same fixed fields are the same when their fields are. -/
theorem sameValue_presentItems {fields fields' : List (String × Option PyValue)}
    (hkeys : fields.map Prod.fst = fields'.map Prod.fst)
    (hnodup : (fields.map Prod.fst).Nodup) :
    SameValue (.dict (presentItems fields)) (.dict (presentItems fields')) ↔
      List.Forall₂ SameField fields fields' := by
  induction fields generalizing fields' with
  | nil =>
      obtain rfl := List.map_eq_nil_iff.mp hkeys.symm
      exact ⟨fun _ => .nil, fun _ => sameValue_dict.mpr ⟨.nil, nofun⟩⟩
  | cons field fields ih =>
      cases fields' with
      | nil => cases hkeys
      | cons field' fields' =>
          obtain ⟨key, value⟩ := field
          obtain ⟨key', value'⟩ := field'
          obtain ⟨rfl, hrest⟩ := List.cons.inj hkeys
          have hnew : key ∉ fields.map Prod.fst := (List.nodup_cons.mp hnodup).1
          have hnew' : key ∉ fields'.map Prod.fst := hrest ▸ hnew
          have ih := @ih _ hrest (List.nodup_cons.mp hnodup).2
          rw [List.forall₂_cons, ← ih]
          cases value with
          | none =>
              cases value' with
              | none => simp [SameField]
              | some value' =>
                  -- the key of the field is on one side only
                  have hnot : ¬SameValue (.dict (presentItems fields))
                      (.dict ((key, value') :: presentItems fields')) := by
                    intro hsame
                    have hmem := (sameValue_dict.mp hsame).1.mem_iff.mpr List.mem_cons_self
                    exact hnew ((presentItems_sublist fields).subset hmem)
                  simp [SameField, hnot]
          | some value =>
              cases value' with
              | none =>
                  have hnot : ¬SameValue (.dict ((key, value) :: presentItems fields))
                      (.dict (presentItems fields')) := by
                    intro hsame
                    have hmem := (sameValue_dict.mp hsame).1.mem_iff.mp List.mem_cons_self
                    exact hnew' ((presentItems_sublist fields').subset hmem)
                  simp [SameField, hnot]
              | some value' =>
                  have hmembers := @sameMembers_cons_iff key value value' _ _
                    (fun item hitem => key_ne_of_mem_presentItems hnew hitem)
                    (fun item hitem => key_ne_of_mem_presentItems hnew' hitem)
                  simp only [OrderedDict.presentItems_cons_some, sameValue_dict, hmembers,
                    List.map_cons, List.perm_cons, SameField, Option.rel_some_some, true_and]
                  exact and_left_comm

theorem sameValue_fields {fields fields' : OrderedDict.Fields String PyValue}
    (hkeys : fields.entries.map Prod.fst = fields'.entries.map Prod.fst) :
    SameValue (.dict fields.items) (.dict fields'.items) ↔
      List.Forall₂ SameField fields.entries fields'.entries :=
  sameValue_presentItems hkeys fields.nodup

end Fields

/-- What stands under a key is the same. -/
theorem sameValue_getValue {mapping other : OrderedDict String PyValue}
    (hsame : SameValue (.dict mapping.items) (.dict other.items)) (key : String) :
    SameValue (mapping.getValue key) (other.getValue key) := by
  obtain ⟨hkeys, hmembers⟩ := sameValue_dict.mp hsame
  cases hget : mapping.get? key with
  | none =>
      have hmissing : other.get? key = Option.none := by
        rw [OrderedDict.get?_eq_none_iff] at hget ⊢
        exact fun hmem => hget (hkeys.mem_iff.mpr hmem)
      simp [OrderedDict.getValue, hget, hmissing, SameValue]
  | some value =>
      obtain ⟨otherValue, hmem, hvalue⟩ :=
        hmembers (key, value) (OrderedDict.get?_eq_some_iff.mp hget)
      have hother : other.get? key = some otherValue := OrderedDict.get?_eq_some_iff.mpr hmem
      simpa [OrderedDict.getValue, hget, hother] using hvalue

end PaybondKit.PyValue
