import Mathlib.Logic.Function.Basic

/-!
# A value that is made at its first use

The value is kept in a cell behind a lock. A party that holds the lock looks whether
the cell is empty, and may fill it then. At most one party holds the lock, and what
was filled in once is never replaced.
-/

namespace PaybondKit

open Function

variable {Party α : Type}

structure LazyCell (α : Type) where
  locked : Bool := false
  value : Option α := none

/-- Where a party is in the code behind the lock. `empty` holds the lock and has
found no value. -/
inductive Guard where
  | outside
  | holding
  | empty
  deriving DecidableEq, Repr

namespace LazyCell

/-- What a party may do to the cell, and where it is before and after. -/
inductive Act (cell : LazyCell α) : Guard → LazyCell α → Guard → Prop where
  | stay (guard : Guard) : Act cell guard cell guard
  | acquire (hfree : cell.locked = false) : Act cell .outside { cell with locked := true } .holding
  | look (hempty : cell.value = none) : Act cell .holding cell .empty
  | fill (value : α) : Act cell .empty { cell with value := some value } .holding
  | release {guard : Guard} (hholds : guard ≠ .outside) :
      Act cell guard { cell with locked := false } .outside

/-- The holder of the lock is alone, and what it has found still holds. -/
structure Guarded (cell : LazyCell α) (guard : Party → Guard) : Prop where
  locked : ∀ party, guard party ≠ .outside → cell.locked = true
  exclusive : ∀ party other, guard party ≠ .outside → guard other ≠ .outside → party = other
  empty : ∀ party, guard party = .empty → cell.value = none

variable {cell cell' : LazyCell α} {guard : Party → Guard} {after : Guard}

theorem Guarded.start (cell : LazyCell α) : cell.Guarded fun _ : Party => .outside :=
  ⟨fun _ h => absurd rfl h, fun _ _ h => absurd rfl h, fun _ h => nomatch h⟩

/-- The cell keeps the value it was filled with. -/
theorem Guarded.value_eq (hguarded : cell.Guarded guard) (party : Party)
    (hact : cell.Act (guard party) cell' after) {value : α} (hvalue : cell.value = some value) :
    cell'.value = some value := by
  generalize hbefore : guard party = before at hact
  cases hact with
  | fill filled =>
      have hempty := hguarded.empty party hbefore
      cases hempty.symm.trans hvalue
  | _ => exact hvalue

variable [DecidableEq Party] {party : Party}

/-- A holder of the lock stays the only one. -/
theorem Guarded.hold (hguarded : cell.Guarded guard) (hholds : guard party ≠ .outside)
    (hlocked : cell'.locked = cell.locked)
    (hempty : after = .empty → cell'.value = none) :
    cell'.Guarded (update guard party after) where
  locked other hother := by
    rw [hlocked]
    exact hguarded.locked party hholds
  exclusive first second hfirst hsecond := by
    have hself : ∀ other, update guard party after other ≠ .outside → other = party := by
      intro other hother
      by_cases heq : other = party
      · exact heq
      · rw [update_of_ne heq] at hother
        exact hguarded.exclusive other party hother hholds
    rw [hself first hfirst, hself second hsecond]
  empty other hother := by
    by_cases heq : other = party
    · rw [heq, update_self] at hother
      exact hempty hother
    · rw [update_of_ne heq] at hother
      refine absurd (hguarded.exclusive other party ?_ hholds) heq
      rw [hother]
      exact fun h => nomatch h

/-- Whatever a party does, the lock stays a lock. -/
theorem Guarded.act (hguarded : cell.Guarded guard)
    (hact : cell.Act (guard party) cell' after) : cell'.Guarded (update guard party after) := by
  generalize hbefore : guard party = before at hact
  cases hact with
  | stay =>
      rw [← hbefore, update_eq_self]
      exact hguarded
  | acquire hfree =>
      -- nobody holds a free lock
      have houtside : ∀ other, guard other = .outside := by
        intro other
        by_contra hholds
        exact absurd (hguarded.locked other hholds) (by simp [hfree])
      have hself : ∀ other, update guard party .holding other ≠ .outside → other = party := by
        intro other hother
        by_contra hne
        rw [update_of_ne hne] at hother
        exact hother (houtside other)
      refine ⟨fun _ _ => rfl, fun first second hfirst hsecond => ?_, fun other hother => ?_⟩
      · rw [hself first hfirst, hself second hsecond]
      · have heq := hself other (by rw [hother]; exact fun h => nomatch h)
        rw [heq, update_self] at hother
        cases hother
  | look hempty =>
      exact hguarded.hold (by rw [hbefore]; exact fun h => nomatch h) rfl fun _ => hempty
  | fill value =>
      exact hguarded.hold (by rw [hbefore]; exact fun h => nomatch h) rfl fun h => nomatch h
  | release hholds =>
      have hnobody : ∀ other, update guard party .outside other = .outside := by
        intro other
        by_cases heq : other = party
        · rw [heq, update_self]
        · rw [update_of_ne heq]
          by_contra hother
          exact heq (hguarded.exclusive other party hother (by rwa [hbefore]))
      exact ⟨fun other hother => absurd (hnobody other) hother,
        fun first _ hfirst => absurd (hnobody first) hfirst,
        fun other hother => nomatch (hnobody other).symm.trans hother⟩

end LazyCell

end PaybondKit
