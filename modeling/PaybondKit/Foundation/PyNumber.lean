import Mathlib.Algebra.Group.Nat.Defs
import PaybondKit.Foundation.PyValue

/-!
# Number conversions

`float(n)` rounds an integer to the nearest double, ties to even, and `int(x)` cuts the
fraction of a float off.
-/

namespace PaybondKit

def doubleExponent : ℕ := 1024

/-- Doubles are below this bound. -/
@[irreducible] def doubleBound : ℕ := 2 ^ doubleExponent

/-- The nearest natural number with 53 significant bits, unless it is too large. -/
def doubleOfNat (n : ℕ) : Option ℕ :=
  let ulp := 2 ^ (Nat.log2 n - 52)
  let even := n / ulp % 2 = 0
  let rounded := if ulp < 2 * (n % ulp) ∨ (ulp = 2 * (n % ulp) ∧ ¬even) then n / ulp + 1 else n / ulp
  if rounded * ulp < doubleBound then some (rounded * ulp) else none

/-- `float(n)`; `none` stands for an overflow. -/
def doubleOfInt : Int → Option PyFloat
  | .ofNat n => (doubleOfNat n).map fun (double : ℕ) => .finite double
  | .negSucc n => (doubleOfNat (n + 1)).map fun (double : ℕ) => .finite (-double)

/-- An integer that is not negative is not rounded below zero. -/
theorem doubleOfInt_nonneg {n : Int} {double : PyFloat} (hn : 0 ≤ n)
    (hdouble : doubleOfInt n = some double) : ¬double < .finite 0 := by
  cases n with
  | negSucc n => exact absurd hn (by simp)
  | ofNat n =>
      rw [doubleOfInt, Option.map_eq_some_iff] at hdouble
      obtain ⟨value, -, rfl⟩ := hdouble
      refine PyFloat.not_lt_of_le ?_
      have hvalue : (0 : ℚ) ≤ value := Rat.natCast_nonneg
      simpa [PyFloat.le_def, PyFloat.le] using hvalue

/-- Every integer of at most 53 bits is a double. -/
theorem doubleOfNat_eq_self {n : ℕ} (hn : n < 2 ^ 53) : doubleOfNat n = some n := by
  have hlog : Nat.log2 n - 52 = 0 := by
    by_cases hzero : n = 0
    · simp [hzero]
    · have hlt := (Nat.log2_lt hzero).mpr hn
      omega
  have hsmall : n < doubleBound := by
    unfold doubleBound
    exact hn.trans (Nat.pow_lt_pow_right (by decide) (by decide))
  simp [doubleOfNat, hlog, Nat.mod_one, hsmall]

namespace PyFloat

theorem le_trans {first second third : PyFloat} (hfirst : first ≤ second)
    (hsecond : second ≤ third) : first ≤ third := by
  rcases first with first | ⟨_ | _⟩ | _ <;> rcases second with second | ⟨_ | _⟩ | _ <;>
    rcases third with third | ⟨_ | _⟩ | _ <;> simp_all [le_def, le]
  exact hfirst.trans hsecond

theorem lt_of_le_of_lt {first second third : PyFloat} (hfirst : first ≤ second)
    (hsecond : second < third) : first < third :=
  ⟨le_trans hfirst hsecond.1, fun hthird => hsecond.2 (le_trans hthird hfirst)⟩

/-- `min(current, usd)` is above a bound exactly when both are, or only `current` can be
compared with it. -/
theorem lt_min_iff (bound current usd : PyFloat) :
    bound < (if usd < current then usd else current) ↔ bound < current ∧ ¬usd ≤ bound := by
  split
  next husd =>
    constructor
    · intro hbound
      exact ⟨lt_of_le_of_lt hbound.1 husd, hbound.2⟩
    · rintro ⟨hcurrent, hnot⟩
      have hbound := le_of_not_lt (ne_nan_of_le hcurrent.1).1 (ne_nan_of_le husd.1).1
        fun hlt => hnot hlt.1
      exact ⟨hbound, hnot⟩
  next husd =>
    refine ⟨fun hbound => ⟨hbound, fun hle => husd (lt_of_le_of_lt hle hbound)⟩, And.left⟩

end PyFloat

/-- `int(x)`, unless it is not finite. -/
def truncate : PyFloat → Option Int
  | .finite value => some (if 0 ≤ value then value.floor else value.ceil)
  | _ => none

end PaybondKit
