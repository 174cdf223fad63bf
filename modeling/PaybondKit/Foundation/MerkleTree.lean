import Mathlib.Algebra.Group.Nat.Defs
import Mathlib.Data.Nat.Log

/-!
# Merkle trees

The hash of a list of leaves, split at the largest power of two below its length, and the
path of the siblings from a leaf to the root. The path opens the tree at its index. Where the
hash of two nodes does not collide, nothing else opens it.
-/

namespace PaybondKit

/-- The hashes of no leaf, of one leaf and of two subtrees. -/
structure TreeHash (α δ : Type) where
  empty : δ
  leaf : α → δ
  node : δ → δ → δ

namespace TreeHash

variable {α δ : Type} {n : ℕ}

/-! ## Where a tree splits -/

/-- The largest power of two below the number of leaves. -/
def split (n : ℕ) : ℕ := 2 ^ Nat.log 2 (n - 1)

theorem split_pos : 0 < split n := Nat.two_pow_pos _

theorem split_lt (hn : 2 ≤ n) : split n < n := by
  have hle : split n ≤ n - 1 := Nat.pow_log_le_self 2 (by omega)
  omega

theorem le_two_mul_split : n ≤ 2 * split n := by
  have hlt : n - 1 < 2 ^ (Nat.log 2 (n - 1)).succ := Nat.lt_pow_succ_log_self Nat.one_lt_two _
  rw [Nat.pow_succ] at hlt
  unfold split
  omega

theorem eq_split {k : ℕ} (hlt : 2 ^ k < n) (hle : n ≤ 2 * 2 ^ k) : 2 ^ k = split n := by
  have hlog : Nat.log 2 (n - 1) = k := by
    refine Nat.log_eq_of_pow_le_of_lt_pow (by omega) ?_
    rw [Nat.pow_succ]
    omega
  rw [split, hlog]

/-! ## The hash and the paths of a tree -/

variable (hash : TreeHash α δ)

/-- The hash of a list of leaves. -/
def root : List α → δ
  | [] => hash.empty
  | [leaf] => hash.leaf leaf
  | first :: second :: rest =>
      let leaves := first :: second :: rest
      let k := split leaves.length
      hash.node (root (leaves.take k)) (root (leaves.drop k))
termination_by leaves => leaves.length
decreasing_by
  · have hlt := @split_lt (first :: second :: rest).length (by simp)
    rw [List.length_take]
    omega
  · have hpos := @split_pos (first :: second :: rest).length
    rw [List.length_drop]
    simp only [List.length_cons] at hpos ⊢
    omega

/-- The siblings on the way from a leaf to the root. -/
def auditPath : ℕ → List α → List δ
  | _, [] => []
  | _, [_] => []
  | index, first :: second :: rest =>
      let leaves := first :: second :: rest
      let k := split leaves.length
      if index < k then auditPath index (leaves.take k) ++ [hash.root (leaves.drop k)]
      else auditPath (index - k) (leaves.drop k) ++ [hash.root (leaves.take k)]
termination_by _ leaves => leaves.length
decreasing_by
  · have hlt := @split_lt (first :: second :: rest).length (by simp)
    rw [List.length_take]
    omega
  · have hpos := @split_pos (first :: second :: rest).length
    rw [List.length_drop]
    simp only [List.length_cons] at hpos ⊢
    omega

/-! ## Opening a tree -/

/-- The root above a leaf, from the siblings between the root and the leaf. -/
def opened (leaf : δ) : ℕ → ℕ → List δ → Option δ
  | _, n, [] => if n = 1 then some leaf else none
  | index, n, sibling :: siblings =>
      if n ≤ 1 then none
      else if index < split n then
        (opened leaf index (split n) siblings).map (hash.node · sibling)
      else (opened leaf (index - split n) (n - split n) siblings).map (hash.node sibling ·)

/-- The pairs of subtrees that are hashed on the way. -/
def openedPairs (leaf : δ) : ℕ → ℕ → List δ → List (δ × δ)
  | _, _, [] => []
  | index, n, sibling :: siblings =>
      if index < split n then
        ((hash.opened leaf index (split n) siblings).map (·, sibling)).toList ++
          openedPairs leaf index (split n) siblings
      else
        ((hash.opened leaf (index - split n) (n - split n) siblings).map (sibling, ·)).toList ++
          openedPairs leaf (index - split n) (n - split n) siblings

section Opened

variable {hash} {leaf leaf' top : δ} {index : ℕ} {siblings siblings' : List δ} {leaves : List α}

theorem root_of_two_le (hlength : 2 ≤ leaves.length) :
    hash.root leaves = hash.node (hash.root (leaves.take (split leaves.length)))
      (hash.root (leaves.drop (split leaves.length))) := by
  match leaves, hlength with
  | _ :: _ :: _, _ => rw [root]

theorem auditPath_of_lt (hlength : 2 ≤ leaves.length) (hindex : index < split leaves.length) :
    hash.auditPath index leaves = hash.auditPath index (leaves.take (split leaves.length)) ++
      [hash.root (leaves.drop (split leaves.length))] := by
  match leaves, hlength with
  | _ :: _ :: _, _ =>
      rw [auditPath]
      exact if_pos hindex

theorem auditPath_of_le (hlength : 2 ≤ leaves.length) (hindex : split leaves.length ≤ index) :
    hash.auditPath index leaves =
      hash.auditPath (index - split leaves.length) (leaves.drop (split leaves.length)) ++
        [hash.root (leaves.take (split leaves.length))] := by
  match leaves, hlength with
  | _ :: _ :: _, _ =>
      rw [auditPath]
      exact if_neg (not_lt.mpr hindex)

theorem opened_cons_of_lt {sibling : δ} (hn : 2 ≤ n) (hindex : index < split n) :
    hash.opened leaf index n (sibling :: siblings) =
      (hash.opened leaf index (split n) siblings).map (hash.node · sibling) := by
  rw [opened, if_neg (by omega), if_pos hindex]

theorem opened_cons_of_le {sibling : δ} (hn : 2 ≤ n) (hindex : split n ≤ index) :
    hash.opened leaf index n (sibling :: siblings) =
      (hash.opened leaf (index - split n) (n - split n) siblings).map
        (hash.node sibling ·) := by
  rw [opened, if_neg (by omega), if_neg (by omega)]

/-- The path of a leaf opens the tree. -/
theorem opened_auditPath (hindex : index < leaves.length) :
    hash.opened (hash.leaf leaves[index]) index leaves.length
      (hash.auditPath index leaves).reverse = some (hash.root leaves) := by
  induction hlength : leaves.length using Nat.strong_induction_on generalizing leaves index with
  | _ n ih =>
      subst hlength
      by_cases htwo : 2 ≤ leaves.length
      · have hlt := split_lt htwo
        have hpos := @split_pos leaves.length
        have htake : (leaves.take (split leaves.length)).length = split leaves.length :=
          List.length_take_of_le hlt.le
        rw [root_of_two_le htwo]
        by_cases hside : index < split leaves.length
        · have hindex : index < (leaves.take (split leaves.length)).length := by omega
          have hleft := ih (leaves.take (split leaves.length)).length (by omega) hindex rfl
          rw [htake, List.getElem_take] at hleft
          rw [auditPath_of_lt htwo hside, List.reverse_append, List.reverse_singleton,
            List.singleton_append, opened_cons_of_lt htwo hside, hleft]
          rfl
        · have hside := not_lt.mp hside
          have hdrop : (leaves.drop (split leaves.length)).length =
              leaves.length - split leaves.length := List.length_drop
          have hindex : index - split leaves.length <
              (leaves.drop (split leaves.length)).length := by omega
          have hright := ih (leaves.drop (split leaves.length)).length (by omega) hindex rfl
          simp only [hdrop, List.getElem_drop, Nat.add_sub_cancel' hside] at hright
          rw [auditPath_of_le htwo hside, List.reverse_append, List.reverse_singleton,
            List.singleton_append, opened_cons_of_le htwo hside, hright]
          rfl
      · match leaves, htwo, hindex with
        | [_], _, hindex =>
            obtain rfl := Nat.lt_one_iff.mp hindex
            rw [auditPath, root]
            rfl
        | [], _, hindex => exact absurd hindex (Nat.not_lt_zero index)
        | _ :: _ :: _, htwo, _ => exact absurd (by simp) htwo

theorem split_two : split 2 = 1 := by decide

theorem root_pair (first second : α) :
    hash.root [first, second] = hash.node (hash.leaf first) (hash.leaf second) := by
  rw [root_of_two_le (le_refl 2), List.length_cons, List.length_singleton, split_two,
    List.take_one, List.drop_one, List.head?_cons, List.tail_cons, Option.toList_some, root, root]

theorem auditPath_pair (first second : α) :
    hash.auditPath 0 [first, second] = [hash.leaf second] := by
  have hside : 0 < split [first, second].length := split_pos
  rw [auditPath_of_lt (le_refl 2) hside, List.length_cons, List.length_singleton, split_two,
    List.take_one, List.drop_one, List.head?_cons, List.tail_cons, Option.toList_some, auditPath,
    root]
  rfl

theorem openedPairs_pair (leaf sibling : δ) :
    hash.openedPairs leaf 0 2 [sibling] = [(leaf, sibling)] := by
  have hside : 0 < split 2 := split_pos
  rw [openedPairs, if_pos hside, split_two, opened, if_pos rfl, openedPairs]
  rfl

/-- What holds of the hashes of the tree holds of its root. -/
theorem root_forall {P : δ → Prop} (hempty : P hash.empty) (hleaf : ∀ leaf, P (hash.leaf leaf))
    (hnode : ∀ left right, P (hash.node left right)) (leaves : List α) : P (hash.root leaves) := by
  match leaves with
  | [] =>
      rw [root]
      exact hempty
  | [leaf] =>
      rw [root]
      exact hleaf leaf
  | _ :: _ :: _ =>
      rw [root]
      exact hnode _ _

theorem auditPath_forall {P : δ → Prop} (hroot : ∀ leaves, P (hash.root leaves)) :
    ∀ sibling ∈ hash.auditPath index leaves, P sibling := by
  fun_induction auditPath hash index leaves with
  | case1 => nofun
  | case2 => nofun
  | case3 index first second rest leaves k hside ih =>
      exact List.forall_mem_append.mpr ⟨ih, List.forall_mem_singleton.mpr (hroot _)⟩
  | case4 index first second rest leaves k hside ih =>
      exact List.forall_mem_append.mpr ⟨ih, List.forall_mem_singleton.mpr (hroot _)⟩

theorem opened_forall {P : δ → Prop} (hleaf : P leaf)
    (hnode : ∀ left right, P (hash.node left right))
    (hopened : hash.opened leaf index n siblings = some top) : P top := by
  cases siblings with
  | nil => exact Option.some.inj (Option.ite_none_right_eq_some.mp hopened).2 ▸ hleaf
  | cons sibling siblings =>
      rw [opened] at hopened
      split at hopened
      · cases hopened
      split at hopened
      all_goals
        obtain ⟨subtree, -, rfl⟩ := Option.map_eq_some_iff.mp hopened
        exact hnode _ _

theorem openedPairs_forall {P : δ → Prop} (hleaf : P leaf)
    (hnode : ∀ left right, P (hash.node left right)) (hsiblings : ∀ sibling ∈ siblings, P sibling) :
    ∀ pair ∈ hash.openedPairs leaf index n siblings, P pair.1 ∧ P pair.2 := by
  induction siblings generalizing index n with
  | nil => nofun
  | cons sibling siblings ih =>
      obtain ⟨hsibling, hrest⟩ := List.forall_mem_cons.mp hsiblings
      rw [openedPairs]
      split
      all_goals
        refine List.forall_mem_append.mpr ⟨fun pair hpair => ?_, ih hrest⟩
        obtain ⟨subtree, hopened, rfl⟩ := Option.map_eq_some_iff.mp (Option.mem_toList.mp hpair)
      · exact ⟨opened_forall hleaf hnode hopened, hsibling⟩
      · exact ⟨hsibling, opened_forall hleaf hnode hopened⟩

/-- Nothing else opens the tree at the index, where the pairs on the way do not collide. -/
theorem opened_inj
    (hcollision : ∀ pair ∈ hash.openedPairs leaf index n siblings,
      ∀ pair' ∈ hash.openedPairs leaf' index n siblings',
        hash.node pair.1 pair.2 = hash.node pair'.1 pair'.2 → pair = pair')
    (hopened : hash.opened leaf index n siblings = some top)
    (hopened' : hash.opened leaf' index n siblings' = some top) :
    leaf = leaf' ∧ siblings = siblings' := by
  induction siblings generalizing index n top siblings' with
  | nil =>
      obtain ⟨hone, htop⟩ := Option.ite_none_right_eq_some.mp hopened
      cases siblings' with
      | nil =>
          obtain ⟨-, htop'⟩ := Option.ite_none_right_eq_some.mp hopened'
          exact ⟨Option.some.inj (htop.trans htop'.symm), rfl⟩
      | cons sibling siblings' =>
          rw [opened, if_pos hone.le] at hopened'
          cases hopened'
  | cons sibling siblings ih =>
      have hn : 2 ≤ n := by
        by_contra hshort
        rw [opened, if_pos (by omega)] at hopened
        cases hopened
      cases siblings' with
      | nil =>
          obtain ⟨hone, -⟩ := Option.ite_none_right_eq_some.mp hopened'
          omega
      | cons sibling' siblings' =>
          rw [openedPairs, openedPairs] at hcollision
          by_cases hside : index < split n
          · rw [if_pos hside, if_pos hside] at hcollision
            rw [opened_cons_of_lt hn hside] at hopened hopened'
            obtain ⟨left, hleft, rfl⟩ := Option.map_eq_some_iff.mp hopened
            obtain ⟨left', hleft', hsame⟩ := Option.map_eq_some_iff.mp hopened'
            rw [hleft, hleft'] at hcollision
            have hpair : (left, sibling) = (left', sibling') :=
              hcollision _ List.mem_cons_self _ List.mem_cons_self hsame.symm
            obtain ⟨rfl, rfl⟩ := Prod.mk.inj hpair
            have hrest := fun pair hpair pair' hpair' => hcollision pair
              (List.mem_append_right _ hpair) pair' (List.mem_append_right _ hpair')
            obtain ⟨hleaf, rfl⟩ := ih hrest hleft hleft'
            exact ⟨hleaf, rfl⟩
          · rw [if_neg hside, if_neg hside] at hcollision
            rw [opened_cons_of_le hn (not_lt.mp hside)] at hopened hopened'
            obtain ⟨right, hright, rfl⟩ := Option.map_eq_some_iff.mp hopened
            obtain ⟨right', hright', hsame⟩ := Option.map_eq_some_iff.mp hopened'
            rw [hright, hright'] at hcollision
            have hpair : (sibling, right) = (sibling', right') :=
              hcollision _ List.mem_cons_self _ List.mem_cons_self hsame.symm
            obtain ⟨rfl, rfl⟩ := Prod.mk.inj hpair
            have hrest := fun pair hpair pair' hpair' => hcollision pair
              (List.mem_append_right _ hpair) pair' (List.mem_append_right _ hpair')
            obtain ⟨hleaf, rfl⟩ := ih hrest hright hright'
            exact ⟨hleaf, rfl⟩

end Opened

end TreeHash

end PaybondKit
