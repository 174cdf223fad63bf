import PaybondKit.Foundation.Json
import PaybondKit.Foundation.PyNumber

/-!
# Integers as ECMAScript prints them

An integer is read as the nearest double, and the double is printed with the fewest digits that
are read back as it. Up to 53 bits this is the decimal text of the integer.
-/

namespace PaybondKit

/-- The multiple of a power of ten that is nearest to a double, if it is read back as the double.
Of two that are equally near the one with even digits is taken. -/
def nearestMultiple (x j : ℕ) : Option ℕ :=
  let low := x / 10 ^ j * 10 ^ j
  let high := low + 10 ^ j
  let lower := x - low < high - x ∨ (x - low = high - x ∧ x / 10 ^ j % 2 = 0)
  if doubleOfNat low = some x ∧ (doubleOfNat high ≠ some x ∨ lower) then some low
  else if doubleOfNat high = some x then some high
  else none

/-- The digits are as few as possible: large powers of ten are tried first. -/
def shortestFrom (x : ℕ) : ℕ → ℕ
  | 0 => x
  | j + 1 =>
      match nearestMultiple x (j + 1) with
      | some y => y
      | none => shortestFrom x j

def shortestDecimal (x : ℕ) : ℕ := shortestFrom x (Nat.toDigits 10 x).length

/-- The first digit, a point and the others up to the trailing zeros, and the exponent. -/
def exponentText (y : ℕ) : List Char :=
  match Nat.toDigits 10 y with
  | [] => []
  | first :: rest =>
      let fraction := (rest.reverse.dropWhile (· = '0')).reverse
      first :: (if fraction = [] then [] else '.' :: fraction) ++
        'e' :: '+' :: Nat.toDigits 10 rest.length

/-- The exponent is written from the twenty-second digit on. -/
def ecmaText (y : ℕ) : List Char := if y < 10 ^ 21 then y.repr.toList else exponentText y

theorem mem_exponentText {y : ℕ} {c : Char} (hc : c ∈ exponentText y) :
    c.isDigit ∨ c ∈ ['.', 'e', '+'] := by
  have hdigit : ∀ {n : ℕ} {c : Char}, c ∈ Nat.toDigits 10 n → c.isDigit := fun hc =>
    Nat.isDigit_of_mem_toDigits (by decide) (by decide) hc
  unfold exponentText at hc
  cases hdigits : Nat.toDigits 10 y with
  | nil => exact absurd hdigits Nat.toDigits_ne_nil
  | cons first rest =>
      rw [hdigits] at hc
      have hfraction : ∀ c ∈ (rest.reverse.dropWhile (· = '0')).reverse, c.isDigit := by
        intro c hc
        have hmem := (List.dropWhile_sublist _).mem (List.mem_reverse.mp hc)
        refine @hdigit y c ?_
        rw [hdigits]
        exact List.mem_cons_of_mem _ (List.mem_reverse.mp hmem)
      simp only [List.cons_append, List.mem_cons, List.mem_append] at hc
      rcases hc with rfl | hc | rfl | rfl | hc
      · refine .inl (@hdigit y c ?_)
        rw [hdigits]
        exact List.mem_cons_self
      · split at hc
        next => exact absurd hc List.not_mem_nil
        next =>
          rcases List.mem_cons.mp hc with rfl | hc
          · exact .inr (by decide)
          · exact .inl (hfraction c hc)
      · exact .inr (by decide)
      · exact .inr (by decide)
      · exact .inl (hdigit hc)

theorem exponent_mem_exponentText (y : ℕ) : 'e' ∈ exponentText y := by
  unfold exponentText
  cases hdigits : Nat.toDigits 10 y with
  | nil => exact absurd hdigits Nat.toDigits_ne_nil
  | cons first rest =>
      exact List.mem_append_right _ List.mem_cons_self

theorem starts_ecmaText (y : ℕ) : ∃ first rest, ecmaText y = first :: rest ∧ first.isDigit := by
  unfold ecmaText
  split
  · exact JsonNumber.natText y
  · unfold exponentText
    cases hdigits : Nat.toDigits 10 y with
    | nil => exact absurd hdigits Nat.toDigits_ne_nil
    | cons first rest =>
        have hmem : first ∈ Nat.toDigits 10 y := by
          rw [hdigits]
          exact List.mem_cons_self
        exact ⟨first, _, rfl, Nat.isDigit_of_mem_toDigits (by decide) (by decide) hmem⟩

theorem inside_ecmaText (y : ℕ) : ∀ c ∈ ecmaText y, c ∉ [',', ']', '}'] := by
  intro c hc
  unfold ecmaText at hc
  split at hc
  · exact JsonNumber.natText_inside y c hc
  · rcases mem_exponentText hc with hdigit | hmark
    · exact JsonNumber.isDigit_inside hdigit
    · intro hdelimiter
      simp only [List.mem_cons, List.not_mem_nil, or_false] at hmark
      rcases hmark with rfl | rfl | rfl <;> exact absurd hdelimiter (by decide)

/-- `Number::toString` of the double that is read for an integer; `none` stands for infinity. -/
def ecmaNumber : ℤ → Option JsonNumber
  | .ofNat n => (doubleOfNat n).map fun (x : ℕ) =>
      { text := ecmaText (shortestDecimal x)
        starts := by
          obtain ⟨first, rest, htext, hdigit⟩ := starts_ecmaText (shortestDecimal x)
          exact ⟨first, rest, htext, .inl hdigit⟩
        inside := inside_ecmaText _ }
  | .negSucc n => (doubleOfNat (n + 1)).map fun (x : ℕ) =>
      { text := '-' :: ecmaText (shortestDecimal x)
        starts := ⟨'-', _, rfl, .inr (by simp)⟩
        inside := by
          intro c hc
          rcases List.mem_cons.mp hc with rfl | hc
          · decide
          · exact inside_ecmaText _ c hc }

/-! ## When the text is decimal -/

/-- Of the decimals that are read as one double the integer is the shortest, and it is written
without an exponent. -/
def ShortestInteger (n : ℕ) : Prop :=
  n < 10 ^ 21 ∧ (doubleOfNat n).map shortestDecimal = some n

theorem ecmaText_eq_iff {y n : ℕ} : ecmaText y = n.repr.toList ↔ n < 10 ^ 21 ∧ y = n := by
  unfold ecmaText
  split
  next hy =>
    constructor
    · intro htext
      obtain rfl := JsonNumber.nat_repr_injective htext
      exact ⟨hy, rfl⟩
    · rintro ⟨-, rfl⟩
      rfl
  next hy =>
    constructor
    · intro htext
      have hmem := exponent_mem_exponentText y
      rw [htext, Nat.toList_repr] at hmem
      have hdigit := Nat.isDigit_of_mem_toDigits (by decide) (by decide) hmem
      exact absurd hdigit (by decide)
    · rintro ⟨hn, rfl⟩
      exact absurd hn hy

/-- An integer has its decimal text exactly when it is the shortest. -/
theorem ecmaNumber_eq_ofInt_iff {n : ℤ} :
    ecmaNumber n = some (.ofInt n) ↔ ShortestInteger n.natAbs := by
  have hshortest : ∀ n : ℕ, ShortestInteger n ↔ ∃ x, doubleOfNat n = some x ∧
      ecmaText (shortestDecimal x) = n.repr.toList := by
    intro n
    simp only [ShortestInteger, ecmaText_eq_iff, Option.map_eq_some_iff]
    constructor
    · rintro ⟨hn, x, hx, hsame⟩
      exact ⟨x, hx, hn, hsame⟩
    · rintro ⟨x, hx, hn, hsame⟩
      exact ⟨hn, x, hx, hsame⟩
  cases n with
  | ofNat n =>
      change _ ↔ ShortestInteger n
      simp only [ecmaNumber, Option.map_eq_some_iff, hshortest]
      refine exists_congr fun x => and_congr_right fun _ => ?_
      constructor
      · intro hsame
        exact congrArg JsonNumber.text hsame
      · intro htext
        exact JsonNumber.ext htext
  | negSucc n =>
      change _ ↔ ShortestInteger (n + 1)
      simp only [ecmaNumber, Option.map_eq_some_iff, hshortest]
      refine exists_congr fun x => and_congr_right fun _ => ?_
      constructor
      · intro hsame
        exact (List.cons.inj (congrArg JsonNumber.text hsame)).2
      · intro htext
        exact JsonNumber.ext (congrArg ('-' :: ·) htext)

/-! ## Integers of 53 bits -/

/-- The significant bits are kept. -/
theorem le_of_doubleOfNat {y x : ℕ} (hread : doubleOfNat y = some x) :
    y / 2 ^ (Nat.log2 y - 52) * 2 ^ (Nat.log2 y - 52) ≤ x := by
  unfold doubleOfNat at hread
  extract_lets ulp even rounded at hread
  have hrounded : y / ulp ≤ rounded := by
    unfold rounded
    split
    · exact Nat.le_succ _
    · exact le_rfl
  by_cases hbound : rounded * ulp < doubleBound
  · rw [if_pos hbound] at hread
    rw [← Option.some.inj hread]
    exact Nat.mul_le_mul_right ulp hrounded
  · rw [if_neg hbound] at hread
    cases hread

/-- A larger integer is not rounded below the doubles that are integers of 53 bits. -/
theorem eq_of_doubleOfNat {y x : ℕ} (hx : x < 2 ^ 53) (hread : doubleOfNat y = some x) : y = x := by
  by_cases hy : y < 2 ^ 53
  · rw [doubleOfNat_eq_self hy] at hread
    exact Option.some.inj hread
  · exfalso
    have hne : y ≠ 0 := by
      rintro rfl
      exact hy (by decide)
    have hlog : 53 ≤ Nat.log2 y := (Nat.le_log2 hne).mpr (not_lt.mp hy)
    have hself : 2 ^ Nat.log2 y ≤ y := (Nat.le_log2 hne).mp le_rfl
    have hsplit : 2 ^ Nat.log2 y = 2 ^ 52 * 2 ^ (Nat.log2 y - 52) := by
      rw [← Nat.pow_add]
      congr 1
      omega
    have hquotient : 2 ^ 52 ≤ y / 2 ^ (Nat.log2 y - 52) := by
      rw [Nat.le_div_iff_mul_le (Nat.pow_pos (by decide)), ← hsplit]
      exact hself
    have hlarge : 2 ^ 53 ≤ x := by
      calc
        2 ^ 53 ≤ 2 ^ Nat.log2 y := Nat.pow_le_pow_right (by decide) hlog
        _ = 2 ^ 52 * 2 ^ (Nat.log2 y - 52) := hsplit
        _ ≤ y / 2 ^ (Nat.log2 y - 52) * 2 ^ (Nat.log2 y - 52) := Nat.mul_le_mul_right _ hquotient
        _ ≤ x := le_of_doubleOfNat hread
    exact absurd hlarge (not_le.mpr hx)

theorem doubleOfNat_nearestMultiple {x j y : ℕ} (hnearest : nearestMultiple x j = some y) :
    doubleOfNat y = some x := by
  simp only [nearestMultiple] at hnearest
  split at hnearest
  next hlow =>
    rw [← Option.some.inj hnearest]
    exact hlow.1
  next =>
    split at hnearest
    next hhigh =>
      rw [← Option.some.inj hnearest]
      exact hhigh
    next => cases hnearest

/-- What is printed is read back. -/
theorem doubleOfNat_shortestFrom {x : ℕ} (hx : doubleOfNat x = some x) (j : ℕ) :
    doubleOfNat (shortestFrom x j) = some x := by
  induction j with
  | zero => exact hx
  | succ j ih =>
      unfold shortestFrom
      split
      next y hnearest => exact doubleOfNat_nearestMultiple hnearest
      next => exact ih

/-- Every integer of at most 53 bits is printed as it is. -/
theorem shortestInteger_of_lt {n : ℕ} (hn : n < 2 ^ 53) : ShortestInteger n := by
  have hread := doubleOfNat_eq_self hn
  have hback := doubleOfNat_shortestFrom hread (Nat.toDigits 10 n).length
  have hsame : shortestDecimal n = n := eq_of_doubleOfNat hn hback
  refine ⟨hn.trans (by decide), ?_⟩
  rw [hread, Option.map_some, hsame]

end PaybondKit
