import PaybondKit.Foundation.PyValue

/-!
# Values leaf by leaf

A decoded value is a tree of lists and dicts with leaves. A function on leaves is applied to
the whole tree, and a relation on leaves is lifted to trees of one shape. Both may look at the
place of a leaf: the member whose value it is, and whether it lies at or below a marked key.
-/

namespace PaybondKit

/-- Where a leaf stands: below a marked key, and as the value of a member. -/
structure Place where
  above : Bool := false
  key : Option String := none

/-- The place is at or below a marked key. -/
def Place.marked (mark : String → Bool) (place : Place) : Bool :=
  place.above || place.key.any mark

namespace PyValue

/-- Neither a list nor a dict. -/
def isLeaf : PyValue → Bool
  | .list _ | .dict _ => false
  | _ => true

section Trees

variable (mark : String → Bool)

mutual

def mapLeaves (f : Place → PyValue → PyValue) (place : Place) : PyValue → PyValue
  | .list items => .list (mapItems f place items)
  | .dict items => .dict (mapMembers f place items)
  | leaf => f place leaf

def mapItems (f : Place → PyValue → PyValue) (place : Place) : List PyValue → List PyValue
  | [] => []
  | item :: items => mapLeaves f ⟨place.marked mark, Option.none⟩ item :: mapItems f place items

def mapMembers (f : Place → PyValue → PyValue) (place : Place) :
    List (String × PyValue) → List (String × PyValue)
  | [] => []
  | (key, value) :: items =>
      (key, mapLeaves f ⟨place.marked mark, some key⟩ value) :: mapMembers f place items

end

mutual

/-- Trees of one shape whose leaves are related. -/
def LeafWise (R : Place → PyValue → PyValue → Prop) (place : Place) :
    PyValue → PyValue → Prop
  | .list items, other => ∃ others, other = .list others ∧ LeafWiseItems R place items others
  | .dict items, other => ∃ others, other = .dict others ∧ LeafWiseMembers R place items others
  | leaf, other => other.isLeaf = true ∧ R place leaf other

def LeafWiseItems (R : Place → PyValue → PyValue → Prop) (place : Place) :
    List PyValue → List PyValue → Prop
  | [], others => others = []
  | item :: items, others => ∃ other rest, others = other :: rest ∧
      LeafWise R ⟨place.marked mark, Option.none⟩ item other ∧ LeafWiseItems R place items rest

def LeafWiseMembers (R : Place → PyValue → PyValue → Prop) (place : Place) :
    List (String × PyValue) → List (String × PyValue) → Prop
  | [], others => others = []
  | (key, value) :: items, others => ∃ other rest, others = (key, other) :: rest ∧
      LeafWise R ⟨place.marked mark, some key⟩ value other ∧ LeafWiseMembers R place items rest

end

end Trees

section Rules

variable {mark mark' : String → Bool} {R S : Place → PyValue → PyValue → Prop}
variable {f : Place → PyValue → PyValue} {place : Place}

theorem mapLeaves_leaf {leaf : PyValue} (hleaf : leaf.isLeaf = true) :
    mapLeaves mark f place leaf = f place leaf := by
  cases leaf <;> first | rfl | cases hleaf

theorem leafWise_leaf {leaf other : PyValue} (hleaf : leaf.isLeaf = true) :
    LeafWise mark R place leaf other ↔ other.isLeaf = true ∧ R place leaf other := by
  cases leaf <;> first | rfl | cases hleaf

mutual

/-- Induction on a tree, with one case for all leaves. -/
theorem treeInduction {motive : PyValue → Prop}
    (list : ∀ items, (∀ item ∈ items, motive item) → motive (.list items))
    (dict : ∀ items, (∀ item ∈ items, motive item.2) → motive (.dict items))
    (leaf : ∀ leaf : PyValue, leaf.isLeaf = true → motive leaf) : ∀ value, motive value
  | .list items => list items (treeInductionItems list dict leaf items)
  | .dict items => dict items (treeInductionMembers list dict leaf items)
  | .none => leaf _ rfl
  | .bool _ => leaf _ rfl
  | .int _ => leaf _ rfl
  | .float _ => leaf _ rfl
  | .str _ => leaf _ rfl

theorem treeInductionItems {motive : PyValue → Prop}
    (list : ∀ items, (∀ item ∈ items, motive item) → motive (.list items))
    (dict : ∀ items, (∀ item ∈ items, motive item.2) → motive (.dict items))
    (leaf : ∀ leaf : PyValue, leaf.isLeaf = true → motive leaf) :
    ∀ items : List PyValue, ∀ item ∈ items, motive item
  | [] => nofun
  | first :: items => by
      have hfirst := treeInduction list dict leaf first
      have hitems := treeInductionItems list dict leaf items
      exact List.forall_mem_cons.mpr ⟨hfirst, hitems⟩

theorem treeInductionMembers {motive : PyValue → Prop}
    (list : ∀ items, (∀ item ∈ items, motive item) → motive (.list items))
    (dict : ∀ items, (∀ item ∈ items, motive item.2) → motive (.dict items))
    (leaf : ∀ leaf : PyValue, leaf.isLeaf = true → motive leaf) :
    ∀ items : List (String × PyValue), ∀ item ∈ items, motive item.2
  | [] => nofun
  | (key, value) :: items => by
      have hvalue := treeInduction list dict leaf value
      have hitems := treeInductionMembers list dict leaf items
      exact List.forall_mem_cons.mpr ⟨hvalue, hitems⟩

end

theorem mapItems_eq (items : List PyValue) :
    mapItems mark f place items =
      items.map (mapLeaves mark f ⟨place.marked mark, Option.none⟩) := by
  induction items with
  | nil => rfl
  | cons item items ih => rw [mapItems, ih, List.map_cons]

theorem mapMembers_eq (items : List (String × PyValue)) :
    mapMembers mark f place items = items.map fun item =>
      (item.1, mapLeaves mark f ⟨place.marked mark, some item.1⟩ item.2) := by
  induction items with
  | nil => rfl
  | cons item items ih => rw [mapMembers, ih, List.map_cons]

theorem leafWiseItems_iff {items others : List PyValue} :
    LeafWiseItems mark R place items others ↔
      List.Forall₂ (LeafWise mark R ⟨place.marked mark, Option.none⟩) items others := by
  induction items generalizing others with
  | nil => rw [LeafWiseItems, List.forall₂_nil_left_iff]
  | cons item items ih =>
      rw [LeafWiseItems, List.forall₂_cons_left_iff]
      simp only [ih]
      constructor
      · rintro ⟨other, rest, rfl, hother, hrest⟩
        exact ⟨other, rest, hother, hrest, rfl⟩
      · rintro ⟨other, rest, hother, hrest, rfl⟩
        exact ⟨other, rest, rfl, hother, hrest⟩

/-- Members under one key whose values are related. -/
def SameMember (mark : String → Bool) (R : Place → PyValue → PyValue → Prop) (place : Place)
    (member other : String × PyValue) : Prop :=
  other.1 = member.1 ∧
    LeafWise mark R ⟨place.marked mark, some member.1⟩ member.2 other.2

theorem leafWiseMembers_iff {items others : List (String × PyValue)} :
    LeafWiseMembers mark R place items others ↔
      List.Forall₂ (SameMember mark R place) items others := by
  induction items generalizing others with
  | nil => rw [LeafWiseMembers, List.forall₂_nil_left_iff]
  | cons item items ih =>
      rw [LeafWiseMembers, List.forall₂_cons_left_iff]
      simp only [ih]
      constructor
      · rintro ⟨other, rest, rfl, hother, hrest⟩
        exact ⟨(item.1, other), rest, ⟨rfl, hother⟩, hrest, rfl⟩
      · rintro ⟨⟨key, other⟩, rest, ⟨hkey, hother⟩, hrest, rfl⟩
        obtain rfl : key = item.1 := hkey
        exact ⟨other, rest, rfl, hother, hrest⟩

theorem leafWise_list {items : List PyValue} {other : PyValue} :
    LeafWise mark R place (.list items) other ↔ ∃ others, other = .list others ∧
      List.Forall₂ (LeafWise mark R ⟨place.marked mark, Option.none⟩) items others := by
  simp only [LeafWise, leafWiseItems_iff]

theorem leafWise_dict {items : List (String × PyValue)} {other : PyValue} :
    LeafWise mark R place (.dict items) other ↔ ∃ others, other = .dict others ∧
      List.Forall₂ (SameMember mark R place) items others := by
  simp only [LeafWise, leafWiseMembers_iff]

/-- What holds of every leaf of a tree. -/
def AllLeaves (mark : String → Bool) (P : Place → PyValue → Prop) (place : Place)
    (value : PyValue) : Prop :=
  LeafWise mark (fun place leaf _ => P place leaf) place value value

/-- The leaves of a tree are related to what they are mapped to. -/
theorem leafWise_mapLeaves_iff {P : Place → PyValue → Prop}
    (hf : ∀ (place : Place) (leaf : PyValue), leaf.isLeaf = true →
      (f place leaf).isLeaf = true ∧ (R place leaf (f place leaf) ↔ P place leaf))
    (value : PyValue) :
    LeafWise mark R place value (mapLeaves mark f place value) ↔ AllLeaves mark P place value := by
  unfold AllLeaves
  induction value using treeInduction generalizing place with
  | leaf leaf hleaf =>
      obtain ⟨hisLeaf, hholds⟩ := hf place leaf hleaf
      rw [mapLeaves_leaf hleaf, leafWise_leaf hleaf, leafWise_leaf hleaf, hholds]
      simp only [hisLeaf, hleaf]
  | list items ih =>
      rw [mapLeaves, mapItems_eq, leafWise_list, leafWise_list]
      simp only [PyValue.list.injEq, exists_eq_left', List.forall₂_map_right_iff,
        List.forall₂_same]
      exact forall₂_congr fun item hitem => ih item hitem
  | dict items ih =>
      rw [mapLeaves, mapMembers_eq, leafWise_dict, leafWise_dict]
      simp only [PyValue.dict.injEq, exists_eq_left', List.forall₂_map_right_iff,
        List.forall₂_same, SameMember, true_and]
      exact forall₂_congr fun item hitem => ih item hitem

theorem map_eq_map_iff_forall₂ {α β γ : Type} {related related' : α → β → Prop} {g : α → γ}
    {h : β → γ} {items : List α} {others : List β} (hitems : List.Forall₂ related items others)
    (heq : ∀ item ∈ items, ∀ other, related item other → (g item = h other ↔ related' item other)) :
    items.map g = others.map h ↔ List.Forall₂ related' items others := by
  induction hitems with
  | nil => exact ⟨fun _ => .nil, fun _ => rfl⟩
  | @cons item other items others hitem _ ih =>
      obtain ⟨hfirst, hrest⟩ := List.forall_mem_cons.mp heq
      rw [List.map_cons, List.map_cons, List.cons.injEq, List.forall₂_cons, ih hrest,
        hfirst other hitem]

/-- Two trees of one shape are mapped to one tree when their leaves are mapped alike. -/
theorem mapLeaves_eq_iff {value other : PyValue} (hrelated : LeafWise mark R place value other)
    (hleaf : ∀ (place : Place) (leaf other : PyValue), R place leaf other →
      (f place leaf = f place other ↔ S place leaf other)) :
    mapLeaves mark f place value = mapLeaves mark f place other ↔
      LeafWise mark S place value other := by
  induction value using treeInduction generalizing place other with
  | leaf leaf his =>
      obtain ⟨hother, hrelated⟩ := (leafWise_leaf his).mp hrelated
      rw [mapLeaves_leaf his, mapLeaves_leaf hother, leafWise_leaf his, hleaf _ _ _ hrelated]
      exact (and_iff_right hother).symm
  | list items ih =>
      obtain ⟨others, rfl, hothers⟩ := leafWise_list.mp hrelated
      have hitems : items.map (mapLeaves mark f ⟨place.marked mark, Option.none⟩) =
            others.map (mapLeaves mark f ⟨place.marked mark, Option.none⟩) ↔
          List.Forall₂ (LeafWise mark S ⟨place.marked mark, Option.none⟩) items others :=
        map_eq_map_iff_forall₂ hothers fun item hitem other => ih item hitem
      simp [mapLeaves, mapItems_eq, leafWise_list, hitems]
  | dict items ih =>
      obtain ⟨others, rfl, hothers⟩ := leafWise_dict.mp hrelated
      have hitems : mapMembers mark f place items = mapMembers mark f place others ↔
          List.Forall₂ (SameMember mark S place) items others := by
        rw [mapMembers_eq, mapMembers_eq]
        refine map_eq_map_iff_forall₂ hothers fun item hitem other hsame => ?_
        obtain ⟨hkey, hvalue⟩ := hsame
        rw [Prod.mk.injEq, SameMember, hkey]
        exact and_congr eq_comm (ih item hitem hvalue)
      simp [mapLeaves, leafWise_dict, hitems]

end Rules

end PyValue

end PaybondKit
