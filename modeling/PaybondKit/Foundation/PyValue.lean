import Mathlib.Data.List.DropRight
import Mathlib.Data.List.Sort
import Mathlib.Data.Rat.Defs
import Mathlib.Algebra.Order.Ring.Unbundled.Rat
import PaybondKit.Foundation.OrderedDict

/-!
# Python values

The decoded JSON or YAML values a program receives, numbers as Python compares
them, and the string functions the models use.
-/

namespace PaybondKit

/-- Byte strings are compared by their bytes. -/
instance decidableEqBytes : DecidableEq ByteArray := ByteArray.instDecidableEq

/-- A float without its sign of zero: comparison is exact, and `nan` compares
with nothing. -/
inductive PyFloat where
  | finite (value : ℚ)
  | infinity (negative : Bool)
  | nan
  deriving DecidableEq, Repr

namespace PyFloat

def le : PyFloat → PyFloat → Bool
  | .nan, _ | _, .nan => false
  | .infinity true, _ | _, .infinity false => true
  | .finite first, .finite second => decide (first ≤ second)
  | _, _ => false

instance : LE PyFloat := ⟨fun first second => first.le second = true⟩

instance : DecidableLE PyFloat := fun _ _ => inferInstanceAs (Decidable (_ = true))

instance : LT PyFloat := ⟨fun first second => first ≤ second ∧ ¬second ≤ first⟩

instance : DecidableLT PyFloat := fun first second =>
  inferInstanceAs (Decidable (first ≤ second ∧ ¬second ≤ first))

theorem le_def (first second : PyFloat) : first ≤ second ↔ first.le second = true := Iff.rfl

theorem lt_def (first second : PyFloat) : first < second ↔ first ≤ second ∧ ¬second ≤ first :=
  Iff.rfl

@[simp] theorem le_self_iff (value : PyFloat) : value ≤ value ↔ value ≠ .nan := by
  rcases value with value | ⟨_ | _⟩ | _ <;> simp [le_def, le]

theorem ne_nan_of_le {first second : PyFloat} (hle : first ≤ second) :
    first ≠ .nan ∧ second ≠ .nan := by
  constructor
  · rintro rfl
    simp [le_def, le] at hle
  · rintro rfl
    rcases first with value | ⟨_ | _⟩ | _ <;> simp [le_def, le] at hle

/-- Numbers other than `nan` are linearly ordered. -/
theorem le_of_not_lt {first second : PyFloat} (hfirst : first ≠ .nan) (hsecond : second ≠ .nan)
    (hlt : ¬second < first) : first ≤ second := by
  rw [lt_def, not_and_not_right] at hlt
  rcases first with first | ⟨_ | _⟩ | _ <;> rcases second with second | ⟨_ | _⟩ | _ <;>
    simp_all [le_def, le]
  next => exact (le_total first second).elim id hlt

theorem not_lt_of_le {first second : PyFloat} (hle : first ≤ second) : ¬second < first :=
  fun hlt => hlt.2 hle

@[simp] theorem not_nan_lt (value : PyFloat) : ¬.nan < value := by
  simp [lt_def, le_def, le]

end PyFloat

inductive PyValue where
  | none
  | bool (value : Bool)
  | int (value : Int)
  | float (value : PyFloat)
  | str (value : String)
  | list (items : List PyValue)
  | dict (items : List (String × PyValue))
  deriving Repr

namespace PyValue

/-- `isinstance(value, (int, float))`, with the number. A `bool` is an `int`. -/
def number? : PyValue → Option PyFloat
  | .bool value => some (.finite (if value then 1 else 0))
  | .int value => some (.finite value)
  | .float value => some value
  | _ => Option.none

/-- `value == n` for an integer literal `n`. -/
def eqInt (value : PyValue) (n : Int) : Bool :=
  value.number? = some (.finite n)

/-- `bool(value)`. -/
def truthy : PyValue → Bool
  | .none => false
  | .bool value => value
  | .int value => value ≠ 0
  | .float value => value ≠ .finite 0
  | .str value => value ≠ ""
  | .list items => !items.isEmpty
  | .dict items => !items.isEmpty

/-- `str(value)` for a number, given how the platform prints a float. -/
def strNumber (floatRepr : PyFloat → String) : PyValue → String
  | .bool true => "True"
  | .bool false => "False"
  | .int value => toString value
  | .float value => floatRepr value
  | _ => ""

/-- The value unless it is `None`. -/
def some? : PyValue → Option PyValue
  | .none => Option.none
  | value => some value

theorem truthy_none : truthy .none = false := rfl

/-- The value, if it counts as true. -/
def truthy? (value : PyValue) : Option PyValue :=
  if value.truthy then some value else Option.none

theorem truthy?_getD {value : Option PyValue} (htruthy : ∀ v ∈ value, v.truthy = true) :
    (value.getD .none).truthy? = value := by
  cases value with
  | none => rfl
  | some value => exact if_pos (htruthy value rfl)

theorem some?_getD {value : Option PyValue} (hsome : ∀ v ∈ value, v.some? = some v) :
    (value.getD .none).some? = value := by
  cases value with
  | none => rfl
  | some value => exact hsome value rfl

end PyValue

/-- `mapping.get(key)` for a mapping of decoded values. -/
def OrderedDict.getValue (mapping : OrderedDict String PyValue) (key : String) : PyValue :=
  (mapping.get? key).getD .none

namespace PyValue

/-- `value.get(key)` for a `dict`, and `None` for anything else. -/
def getItem (value : PyValue) (key : String) : PyValue :=
  match value with
  | .dict items => (OrderedDict.ofList items).getValue key
  | _ => .none

/-- The string, if it is one. -/
def asStr : PyValue → Option String
  | .str value => some value
  | _ => Option.none

end PyValue

section Results

variable {ε α β : Type}

theorem except_bind_eq_ok {first : Except ε α} {rest : α → Except ε β} {result : β} :
    (first >>= rest) = .ok result ↔ ∃ value, first = .ok value ∧ rest value = .ok result := by
  cases first with
  | error failure => simp [bind, Except.bind]
  | ok value => simp [bind, Except.bind]

theorem except_map_eq_ok {f : α → β} {first : Except ε α} {result : β} :
    (f <$> first) = .ok result ↔ ∃ value, first = .ok value ∧ f value = result := by
  cases first with
  | error failure => simp [Functor.map, Except.map]
  | ok value => simp [Functor.map, Except.map]

@[simp] theorem except_pure_eq_ok {value result : α} :
    (pure value : Except ε α) = .ok result ↔ value = result := by
  simp [pure, Except.pure]

theorem except_mem_toOption {first : Except ε α} {result : α} :
    result ∈ first.toOption ↔ first = .ok result := by
  cases first <;> simp [Except.toOption]

/-- `if condition: raise failure`, and then the rest. -/
@[simp] theorem except_guard_eq_ok {condition : Prop} [Decidable condition] {failure : ε}
    {first : Except ε α} {result : α} :
    (if condition then .error failure else first) = .ok result ↔
      ¬condition ∧ first = .ok result := by
  split <;> simp_all

/-- `if condition: raise failure`. -/
def raiseIf (condition : Prop) [Decidable condition] (failure : ε) : Except ε Unit :=
  if condition then .error failure else .ok ()

@[simp] theorem raiseIf_eq_ok {condition : Prop} [Decidable condition] {failure : ε} {done : Unit} :
    raiseIf condition failure = .ok done ↔ ¬condition := by
  unfold raiseIf
  split <;> simp_all

theorem except_ok_bind (value : α) (rest : α → Except ε β) :
    (Except.ok value >>= rest) = rest value := rfl

/-- The value with the fact that it passed the check. -/
def checked (p : α → Prop) [DecidablePred p] (failure : ε) (value : α) :
    Except ε { value // p value } :=
  if hvalue : p value then .ok ⟨value, hvalue⟩ else .error failure

theorem checked_eq_ok {p : α → Prop} [DecidablePred p] {failure : ε} {value : α}
    {result : { value // p value }} : checked p failure value = .ok result ↔ value = result.val := by
  unfold checked
  split
  next hvalue => rw [Except.ok.injEq, Subtype.ext_iff]
  next hvalue =>
    refine ⟨(fun h => nomatch h), ?_⟩
    rintro rfl
    exact absurd result.property hvalue

/-- A loop that never raises keeps what each of its rounds keeps. -/
theorem except_foldlM_invariant (Inv : β → Prop) {step : β → α → Except ε β} {items : List α}
    (hstep : ∀ state, ∀ item ∈ items, Inv state → ∀ next, step state item = .ok next → Inv next)
    {init result : β} (hinit : Inv init) (hloop : items.foldlM step init = .ok result) :
    Inv result := by
  induction items generalizing init with
  | nil =>
      cases hloop
      exact hinit
  | cons item items ih =>
      rw [List.foldlM_cons] at hloop
      obtain ⟨next, hnext, hrest⟩ := except_bind_eq_ok.mp hloop
      have hkept := hstep init item List.mem_cons_self hinit next hnext
      exact ih (fun state other hother => hstep state other (List.mem_cons_of_mem _ hother)) hkept hrest

end Results

section Strings

/-- What is decided along a list. -/
theorem forall_mem_of_all {α : Type} {p : α → Prop} [DecidablePred p] {items : List α}
    (hall : (items.all fun item => decide (p item)) = true) : ∀ item ∈ items, p item :=
  fun item hitem => of_decide_eq_true (List.all_eq_true.mp hall item hitem)

/-- `c.isspace()`. -/
def isPySpace (c : Char) : Bool :=
  let n := c.toNat
  (0x09 ≤ n && n ≤ 0x0d) || (0x1c ≤ n && n ≤ 0x20) || n = 0x85 || n = 0xa0 || n = 0x1680 ||
    (0x2000 ≤ n && n ≤ 0x200a) || n = 0x2028 || n = 0x2029 || n = 0x202f || n = 0x205f ||
    n = 0x3000

/-- `s.strip()`. -/
def pyStrip (s : String) : String :=
  String.ofList
    ((s.toList.dropWhile isPySpace).reverse.dropWhile isPySpace).reverse

theorem toList_pyStrip (s : String) :
    (pyStrip s).toList = (s.toList.dropWhile isPySpace).rdropWhile isPySpace :=
  String.toList_ofList

/-- Stripping once is enough. -/
theorem pyStrip_pyStrip (s : String) : pyStrip (pyStrip s) = pyStrip s := by
  rw [← String.toList_inj, toList_pyStrip, toList_pyStrip]
  have hleading := List.rdropWhile_prefix isPySpace (l := s.toList.dropWhile isPySpace)
  have hhead : ((s.toList.dropWhile isPySpace).rdropWhile isPySpace).dropWhile isPySpace =
      (s.toList.dropWhile isPySpace).rdropWhile isPySpace := by
    have hdropped := List.dropWhile_eq_self_iff.mp (List.dropWhile_idempotent isPySpace s.toList)
    rw [List.dropWhile_eq_self_iff]
    intro hlength
    rw [hleading.getElem hlength]
    exact hdropped _
  rw [hhead, List.rdropWhile_idempotent]

/-- Nothing is stripped off a string without spaces. -/
theorem pyStrip_eq_self {s : String} (hspace : ∀ c ∈ s.toList, isPySpace c = false) :
    pyStrip s = s := by
  have hdrop : ∀ cs : List Char, (∀ c ∈ cs, isPySpace c = false) → cs.dropWhile isPySpace = cs := by
    intro cs hcs
    rw [List.dropWhile_eq_self_iff]
    intro hlength
    simpa using hcs _ (List.getElem_mem hlength)
  rw [pyStrip, hdrop _ hspace, hdrop _ (by simpa using hspace), List.reverse_reverse,
    String.ofList_toList]

/-- `s.split(".")`. -/
def splitDots (s : String) : List String := (s.toList.splitOn '.').map String.ofList

/-- The string, unless it is missing or empty: Python's `or` skips both. -/
def truthyStr (value : Option String) : Option String := value.filter (· ≠ "")

theorem truthyStr_eq_some {value : String} (hvalue : value ≠ "") :
    truthyStr (some value) = some value := by
  simp [truthyStr, hvalue]

/-- `sorted(names)`: by code points. -/
def pySorted (names : List String) : List String :=
  names.insertionSort (· ≤ ·)

end Strings

end PaybondKit
