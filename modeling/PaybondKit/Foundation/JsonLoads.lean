import Mathlib.Data.List.TakeDrop
import PaybondKit.Foundation.MappingOrder
import PaybondKit.Foundation.PyJson

/-!
# `json.loads`

The scanner of Python's decoder, and that it reads back what was printed: the text of a value
without floats is scanned as that value, in every style whose separators and escapes the
scanner knows.
-/

namespace PaybondKit

/-! ## Strings -/

def isJsonSpace (c : Char) : Bool := c ∈ [' ', '\t', '\n', '\r']

def skipSpace (chars : List Char) : List Char := chars.dropWhile isJsonSpace

def hexValue (c : Char) : Option ℕ := "0123456789abcdef".toList.idxOf? c.toLower

/-- `_decode_uXXXX`. -/
def decodeUXXXX : List Char → Option (ℕ × List Char)
  | a :: b :: c :: d :: rest => do
      return (4096 * (← hexValue a) + 256 * (← hexValue b) + 16 * (← hexValue c) + (← hexValue d),
        rest)
  | _ => none

/-- What follows a high surrogate. -/
def scanLowSurrogate (high : ℕ) : List Char → Option (Char × List Char)
  | '\\' :: 'u' :: rest => do
      let (low, rest) ← decodeUXXXX rest
      if 0xdc00 ≤ low ∧ low ≤ 0xdfff then
        some (Char.ofNat (0x10000 + ((high - 0xd800) * 0x400 + (low - 0xdc00))), rest)
      else none
  | _ => none

/-- A number is that of a character, or the first of two surrogates. A surrogate alone is no
character. -/
def scanUnicode (chars : List Char) : Option (Char × List Char) := do
  let (n, rest) ← decodeUXXXX chars
  if 0xd800 ≤ n ∧ n ≤ 0xdbff then scanLowSurrogate n rest
  else if 0xdc00 ≤ n ∧ n ≤ 0xdfff then none
  else some (Char.ofNat n, rest)

/-- `BACKSLASH[letter]`. -/
def unescape (letter : Char) : Option Char :=
  if letter = '/' then some '/'
  else (shortEscapes.find? fun escape => escape.2 = letter).map Prod.fst

/-- One character of a string. -/
def scanChar : List Char → Option (Char × List Char)
  | [] => none
  | c :: rest =>
      if c = '\\' then
        match rest with
        | [] => none
        | letter :: rest =>
            if letter = 'u' then scanUnicode rest
            else (unescape letter).map fun c => (c, rest)
      else if c.toNat < 0x20 then none
      else some (c, rest)

/-- `scanstring`, after the opening quote. -/
def scanString : ℕ → List Char → Option (List Char × List Char)
  | 0, _ => none
  | _ + 1, '"' :: rest => some ([], rest)
  | fuel + 1, chars => do
      let (c, rest) ← scanChar chars
      let (text, rest) ← scanString fuel rest
      return (c :: text, rest)

/-! ## Numbers -/

/-- `0|[1-9]\d*`. -/
def scanDigits : List Char → Option (List Char × List Char)
  | [] => none
  | c :: rest =>
      if c = '0' then some (['0'], rest)
      else if c.isDigit then some ((c :: rest).span Char.isDigit)
      else none

/-- `(\.\d+)?`. -/
def scanFraction (chars : List Char) : List Char × List Char :=
  match chars with
  | '.' :: rest =>
      if (rest.takeWhile Char.isDigit).isEmpty then ([], chars)
      else ('.' :: rest.takeWhile Char.isDigit, rest.dropWhile Char.isDigit)
  | _ => ([], chars)

/-- The digits of an exponent, with their sign. -/
def scanPower (letter : Char) (sign rest chars : List Char) : List Char × List Char :=
  if (rest.takeWhile Char.isDigit).isEmpty then ([], chars)
  else (letter :: sign ++ rest.takeWhile Char.isDigit, rest.dropWhile Char.isDigit)

/-- `([eE][-+]?\d+)?`. -/
def scanExponent (chars : List Char) : List Char × List Char :=
  match chars with
  | letter :: rest =>
      if letter = 'e' ∨ letter = 'E' then
        match rest with
        | '-' :: digits => scanPower letter ['-'] digits chars
        | '+' :: digits => scanPower letter ['+'] digits chars
        | digits => scanPower letter [] digits chars
      else ([], chars)
  | [] => ([], [])

section Scanner

variable (parseFloat : List Char → PyFloat)

/-- A number after its sign. -/
def scanUnsigned (negative : Bool) (chars : List Char) : Option (PyValue × List Char) := do
  let (digits, rest) ← scanDigits chars
  let (fraction, rest) := scanFraction rest
  let (exponent, rest) := scanExponent rest
  let magnitude : Int := Nat.ofDigitChars 10 digits 0
  if fraction ++ exponent = [] then
    return (.int (if negative then -magnitude else magnitude), rest)
  else
    let sign := if negative then ['-'] else []
    return (.float (parseFloat (sign ++ digits ++ fraction ++ exponent)), rest)

/-- The words that a value can be. -/
def words : List (List Char × PyValue) :=
  [("null".toList, .none), ("true".toList, .bool true), ("false".toList, .bool false),
    ("NaN".toList, .float .nan), ("Infinity".toList, .float (.infinity false)),
    ("-Infinity".toList, .float (.infinity true))]

/-- A value without parts. -/
def scanAtom (chars : List Char) : Option (PyValue × List Char) :=
  match words.find? fun word => word.1.isPrefixOf chars with
  | some (word, value) => some (value, chars.drop word.length)
  | none =>
      match chars with
      | '-' :: rest => scanUnsigned parseFloat true rest
      | _ => scanUnsigned parseFloat false chars

mutual

/-- `scan_once`. The fuel is used up by brackets and separators. -/
def scanOnce : ℕ → List Char → Option (PyValue × List Char)
  | 0, _ => none
  | fuel + 1, chars =>
      match chars with
      | '"' :: rest => do
          let (text, rest) ← scanString fuel rest
          return (.str (String.ofList text), rest)
      | '[' :: rest =>
          match skipSpace rest with
          | ']' :: rest => some (.list [], rest)
          | rest => do
              let (items, rest) ← scanItems fuel rest
              return (.list items, rest)
      | '{' :: rest =>
          match skipSpace rest with
          | '}' :: rest => some (.dict [], rest)
          | rest => do
              let (pairs, rest) ← scanMembers fuel rest
              return (.dict (OrderedDict.ofList pairs).items, rest)
      | _ => scanAtom parseFloat chars

/-- The items of an array up to the closing bracket. -/
def scanItems : ℕ → List Char → Option (List PyValue × List Char)
  | 0, _ => none
  | fuel + 1, chars => do
      let (item, rest) ← scanOnce fuel chars
      match skipSpace rest with
      | ',' :: rest => do
          let (items, rest) ← scanItems fuel (skipSpace rest)
          return (item :: items, rest)
      | ']' :: rest => return ([item], rest)
      | _ => none

/-- The pairs of an object up to the closing brace. -/
def scanMembers : ℕ → List Char → Option (List (String × PyValue) × List Char)
  | 0, _ => none
  | fuel + 1, '"' :: chars => do
      let (key, rest) ← scanString fuel chars
      match skipSpace rest with
      | ':' :: rest => do
          let (value, rest) ← scanOnce fuel (skipSpace rest)
          match skipSpace rest with
          | ',' :: rest => do
              let (pairs, rest) ← scanMembers fuel (skipSpace rest)
              return ((String.ofList key, value) :: pairs, rest)
          | '}' :: rest => return ([(String.ofList key, value)], rest)
          | _ => none
      | _ => none
  | _ + 1, _ => none

end

/-- `json.loads(text)`; `none` stands for a decoding error. -/
def jsonLoads (text : String) : Option PyValue := do
  let chars := text.toList
  let (value, rest) ← scanOnce parseFloat (chars.length + 1) (skipSpace chars)
  if skipSpace rest = [] then some value else none

end Scanner

/-! ## Reading spaces and words -/

theorem skipSpace_append {spaces rest : List Char} (hspaces : ∀ c ∈ spaces, isJsonSpace c = true) :
    skipSpace (spaces ++ rest) = skipSpace rest :=
  List.dropWhile_append_of_pos hspaces

theorem skipSpace_cons {c : Char} {rest : List Char} (hc : isJsonSpace c = false) :
    skipSpace (c :: rest) = c :: rest := by
  simp [skipSpace, hc]

/-! ## Reading strings -/

/-- The scanner takes each escaped character for what it is, and finds the separators between
spaces. -/
structure Scanned (style : JsonStyle) : Prop where
  itemSeparator : ∃ spaces, style.itemSeparator = ',' :: spaces ∧ ∀ c ∈ spaces, isJsonSpace c = true
  keySeparator : ∃ spaces, style.keySeparator = ':' :: spaces ∧ ∀ c ∈ spaces, isJsonSpace c = true
  escape : ∀ c rest, scanChar (style.escape c ++ rest) = some (c, rest)
  escape_ne_quote : ∀ c rest rest', style.escape c ++ rest ≠ '"' :: rest'

section Print

variable {style : JsonStyle} (hscanned : Scanned style)
include hscanned

theorem escape_ne_nil (c : Char) : style.escape c ≠ [] := by
  intro hnil
  have hscan := hscanned.escape c []
  rw [hnil] at hscan
  cases hscan

theorem scanString_print (text rest : List Char) {fuel : ℕ}
    (hfuel : (text.flatMap style.escape).length < fuel) :
    scanString fuel (text.flatMap style.escape ++ '"' :: rest) = some (text, rest) := by
  induction text generalizing fuel with
  | nil =>
      obtain ⟨fuel, rfl⟩ := Nat.exists_eq_add_one_of_ne_zero (Nat.ne_of_gt hfuel)
      rfl
  | cons c text ih =>
      obtain ⟨fuel, rfl⟩ := Nat.exists_eq_add_one_of_ne_zero (Nat.ne_zero_of_lt hfuel)
      have hlength : 0 < (style.escape c).length :=
        List.length_pos_iff.mpr (escape_ne_nil hscanned c)
      rw [List.flatMap_cons, List.length_append] at hfuel
      rw [List.flatMap_cons, List.append_assoc]
      have hchar := hscanned.escape c (text.flatMap style.escape ++ '"' :: rest)
      have hquote := hscanned.escape_ne_quote c (text.flatMap style.escape ++ '"' :: rest)
      have htext := @ih fuel (by omega)
      unfold scanString
      split
      next heq => cases heq
      next heq => exact absurd heq (hquote _)
      next heq _ =>
        obtain rfl := Nat.succ.inj heq
        simp [hchar, htext]

end Print

/-! ## Reading numbers -/

theorem head_toDigits {n : ℕ} (hn : 0 < n) :
    ∃ c rest, Nat.toDigits 10 n = c :: rest ∧ c ≠ '0' := by
  induction n using Nat.strong_induction_on with
  | _ n ih =>
      by_cases hsmall : n < 10
      · refine ⟨n.digitChar, [], Nat.toDigits_of_lt_base hsmall, ?_⟩
        have hdigits : ∀ n < 10, 0 < n → n.digitChar ≠ '0' := by
          decide
        exact hdigits n hsmall hn
      · have hdiv : 0 < n / 10 := Nat.div_pos (not_lt.mp hsmall) (by decide)
        obtain ⟨c, rest, htext, hne⟩ := ih (n / 10) (Nat.div_lt_self hn (by decide)) hdiv
        refine ⟨c, rest ++ [(n % 10).digitChar], ?_, hne⟩
        rw [Nat.toDigits_of_base_le (by decide) (not_lt.mp hsmall), htext]
        rfl

/-- After a number there is no digit, and nothing that would make it a float. -/
theorem Json.Ends.not_number {rest : List Char} (hrest : Json.Ends rest) :
    rest.takeWhile Char.isDigit = [] ∧ rest.dropWhile Char.isDigit = rest ∧
      scanFraction rest = ([], rest) ∧ scanExponent rest = ([], rest) := by
  cases rest with
  | nil => exact ⟨rfl, rfl, rfl, rfl⟩
  | cons c rest =>
      have hc : c ∈ [',', ']', '}'] := hrest
      simp only [List.mem_cons, List.not_mem_nil, or_false] at hc
      rcases hc with rfl | rfl | rfl <;> exact ⟨rfl, rfl, rfl, rfl⟩

theorem scanDigits_toDigits (n : ℕ) {rest : List Char} (hrest : Json.Ends rest) :
    scanDigits (Nat.toDigits 10 n ++ rest) = some (Nat.toDigits 10 n, rest) := by
  rcases Nat.eq_zero_or_pos n with rfl | hn
  · rw [Nat.toDigits_zero]
    rfl
  · obtain ⟨c, tail, htext, hne⟩ := head_toDigits hn
    have hdigits : ∀ d ∈ Nat.toDigits 10 n, d.isDigit = true := by
      intro d hd
      exact Nat.isDigit_of_mem_toDigits (by decide) (by decide) hd
    have hhead : c.isDigit = true := hdigits c (by simp [htext])
    obtain ⟨htake, hdrop, -, -⟩ := hrest.not_number
    have hspan : (Nat.toDigits 10 n ++ rest).span Char.isDigit = (Nat.toDigits 10 n, rest) := by
      rw [List.span_eq_takeWhile_dropWhile, List.takeWhile_append_of_pos hdigits,
        List.dropWhile_append_of_pos hdigits, htake, hdrop, List.append_nil]
    rw [htext] at hspan ⊢
    rw [List.cons_append] at hspan ⊢
    rw [scanDigits, if_neg hne, if_pos hhead, hspan]

variable {parseFloat : List Char → PyFloat}

theorem scanUnsigned_toDigits (negative : Bool) (n : ℕ) {rest : List Char}
    (hrest : Json.Ends rest) :
    scanUnsigned parseFloat negative (Nat.toDigits 10 n ++ rest) =
      some (.int (if negative then -n else n), rest) := by
  obtain ⟨-, -, hfraction, hexponent⟩ := hrest.not_number
  have hdigits := scanDigits_toDigits n hrest
  simp [scanUnsigned, hdigits, hfraction, hexponent, Nat.ofDigitChars_ten_toDigits]

/-- A text that begins with a digit, or with a sign and a digit, is no word. -/
theorem find?_words {first : Char} {rest : List Char}
    (hdigit : first.isDigit = true ∨ first = '-' ∧ ∃ c tail, rest = c :: tail ∧ c.isDigit = true) :
    (words.find? fun word => word.1.isPrefixOf (first :: rest)) = none := by
  have hne : ∀ {c other : Char}, c.isDigit = true → other.isDigit = false → (other == c) = false := by
    intro c other hc hother
    rw [beq_eq_false_iff_ne]
    rintro rfl
    cases hc.symm.trans hother
  rcases hdigit with hdigit | ⟨rfl, c, tail, rfl, hdigit⟩
  · simp [words, List.isPrefixOf, hne hdigit]
  · simp [words, List.isPrefixOf, hne hdigit]

theorem scanAtom_ofInt (n : ℤ) {rest : List Char} (hrest : Json.Ends rest) :
    scanAtom parseFloat ((JsonNumber.ofInt n).text ++ rest) = some (.int n, rest) := by
  cases n with
  | ofNat n =>
      obtain ⟨c, tail, htext, hdigit⟩ := JsonNumber.natText n
      have hwords := @find?_words c (tail ++ rest) (.inl hdigit)
      have hsign : c ≠ '-' := by
        rintro rfl
        cases hdigit
      have hscan := @scanUnsigned_toDigits parseFloat false n rest hrest
      rw [← Nat.toList_repr, htext] at hscan
      simp only [JsonNumber.ofInt, htext, List.cons_append] at hscan ⊢
      unfold scanAtom
      rw [hwords]
      dsimp only
      split
      next heq => exact absurd (List.cons.inj heq).1 hsign
      next => exact hscan
  | negSucc n =>
      obtain ⟨c, tail, htext, hdigit⟩ := JsonNumber.natText (n + 1)
      have hwords := @find?_words '-' (c :: tail ++ rest) (.inr ⟨rfl, c, tail ++ rest, rfl, hdigit⟩)
      have hscan := @scanUnsigned_toDigits parseFloat true (n + 1) rest hrest
      rw [← Nat.toList_repr, htext] at hscan
      simp only [JsonNumber.ofInt, htext, List.cons_append] at hwords hscan ⊢
      rw [scanAtom, hwords]
      exact hscan

/-! ## Reading values -/

theorem scanOnce_atom {fuel : ℕ} {c : Char} {rest : List Char} (hc : c ∉ ['"', '[', '{']) :
    scanOnce parseFloat (fuel + 1) (c :: rest) = scanAtom parseFloat (c :: rest) := by
  simp only [List.mem_cons, List.not_mem_nil, or_false, not_or] at hc
  obtain ⟨hquote, hbracket, hbrace⟩ := hc
  rw [scanOnce]
  · intro rest' heq
    exact hquote (List.cons.inj heq).1
  · intro rest' heq
    exact hbracket (List.cons.inj heq).1
  · intro rest' heq
    exact hbrace (List.cons.inj heq).1

section Steps

variable {fuel : ℕ} {chars more rest : List Char} {value : PyValue}

theorem scanItems_last (hitem : scanOnce parseFloat fuel chars = some (value, ']' :: rest)) :
    scanItems parseFloat (fuel + 1) chars = some ([value], rest) := by
  have hclose : isJsonSpace ']' = false := by decide
  simp [scanItems, hitem, skipSpace_cons hclose]

theorem scanItems_next {items : List PyValue}
    (hitem : scanOnce parseFloat fuel chars = some (value, ',' :: more))
    (hitems : scanItems parseFloat fuel (skipSpace more) = some (items, rest)) :
    scanItems parseFloat (fuel + 1) chars = some (value :: items, rest) := by
  have hcomma : isJsonSpace ',' = false := by decide
  simp [scanItems, hitem, skipSpace_cons hcomma, hitems]

theorem scanOnce_list {items : List PyValue} (hclose : ∀ tail, chars ≠ ']' :: tail)
    (hspace : skipSpace chars = chars) (hitems : scanItems parseFloat fuel chars = some (items, rest)) :
    scanOnce parseFloat (fuel + 1) ('[' :: chars) = some (.list items, rest) := by
  rw [scanOnce, hspace]
  split
  next tail => exact absurd rfl (hclose tail)
  next => simp [hitems]

theorem scanMembers_last {key : String} (hkey : scanString fuel chars = some (key.toList, ':' :: more))
    (hvalue : scanOnce parseFloat fuel (skipSpace more) = some (value, '}' :: rest)) :
    scanMembers parseFloat (fuel + 1) ('"' :: chars) = some ([(key, value)], rest) := by
  have hcolon : isJsonSpace ':' = false := by decide
  have hclose : isJsonSpace '}' = false := by decide
  simp [scanMembers, hkey, skipSpace_cons hcolon, hvalue, skipSpace_cons hclose]

theorem scanMembers_next {key : String} {others : List Char} {pairs : List (String × PyValue)}
    (hkey : scanString fuel chars = some (key.toList, ':' :: more))
    (hvalue : scanOnce parseFloat fuel (skipSpace more) = some (value, ',' :: others))
    (hpairs : scanMembers parseFloat fuel (skipSpace others) = some (pairs, rest)) :
    scanMembers parseFloat (fuel + 1) ('"' :: chars) = some ((key, value) :: pairs, rest) := by
  have hcolon : isJsonSpace ':' = false := by decide
  have hcomma : isJsonSpace ',' = false := by decide
  simp [scanMembers, hkey, skipSpace_cons hcolon, hvalue, skipSpace_cons hcomma, hpairs]

theorem scanOnce_dict {pairs : List (String × PyValue)} (hkeys : (pairs.map Prod.fst).Nodup)
    (hpairs : scanMembers parseFloat fuel ('"' :: chars) = some (pairs, rest)) :
    scanOnce parseFloat (fuel + 1) ('{' :: '"' :: chars) = some (.dict pairs, rest) := by
  have hquote : isJsonSpace '"' = false := by decide
  have hitems := OrderedDict.items_ofList hkeys
  simp [scanOnce, skipSpace_cons hquote, hpairs, hitems]

end Steps

section Values

open PyValue Json

variable (floatText : PyFloat → JsonNumber) (style : JsonStyle)

/-- The text that is printed for a value. -/
def textOf (value : PyValue) : List Char := print style (value.toJson floatText)

/-- The text of the items after the first. -/
def itemsText (items : List PyValue) : List Char :=
  printItems style (toJsonItems floatText items)

/-- The text of the members after the first. -/
def membersText (items : List (String × PyValue)) : List Char :=
  printMembers style (toJsonMembers floatText items)

variable {floatText style}

/-- The first character of a value is no space, and it does not close an array. -/
theorem head_print {value : PyValue} (hvalue : value.Integral) :
    ∃ c rest, textOf floatText style value = c :: rest ∧ isJsonSpace c = false ∧
      c ≠ ']' := by
  cases value with
  | none => exact ⟨'n', _, rfl, by decide, by decide⟩
  | bool value => cases value <;> exact ⟨_, _, rfl, by decide, by decide⟩
  | int value =>
      have hdigit : ∀ c : Char, c.isDigit = true → isJsonSpace c = false ∧ c ≠ ']' := by
        intro c hc
        constructor
        · rw [isJsonSpace, decide_eq_false_iff_not]
          intro hmem
          simp only [List.mem_cons, List.not_mem_nil, or_false] at hmem
          rcases hmem with rfl | rfl | rfl | rfl <;> cases hc
        · rintro rfl
          cases hc
      cases value with
      | ofNat n =>
          obtain ⟨c, tail, htext, hc⟩ := JsonNumber.natText n
          exact ⟨c, tail, htext, hdigit c hc⟩
      | negSucc n => exact ⟨'-', _, rfl, by decide, by decide⟩
  | float value => exact hvalue.elim
  | str text => exact ⟨'"', _, rfl, by decide, by decide⟩
  | list items => cases items <;> exact ⟨'[', _, rfl, by decide, by decide⟩
  | dict items => cases items <;> exact ⟨'{', _, rfl, by decide, by decide⟩

theorem skipSpace_print {value : PyValue} (hvalue : value.Integral) (rest : List Char) :
    skipSpace (textOf floatText style value ++ rest) =
      textOf floatText style value ++ rest := by
  obtain ⟨c, tail, htext, hspace, -⟩ := @head_print floatText style value hvalue
  rw [htext]
  exact skipSpace_cons hspace

/-- With this fuel the values of shorter texts are scanned. -/
def ScansValues (parseFloat : List Char → PyFloat) (floatText : PyFloat → JsonNumber)
    (style : JsonStyle) (fuel : ℕ) : Prop :=
  ∀ value : PyValue, value.Integral → value.Distinct → ∀ rest, Ends rest →
    (textOf floatText style value).length ≤ fuel →
      scanOnce parseFloat fuel (textOf floatText style value ++ rest) = some (value, rest)

def ScansItems (parseFloat : List Char → PyFloat) (floatText : PyFloat → JsonNumber)
    (style : JsonStyle) (fuel : ℕ) : Prop :=
  ∀ item items, IntegralItems (item :: items) → DistinctItems (item :: items) → ∀ rest,
    (textOf floatText style item).length + (itemsText floatText style items).length < fuel →
      scanItems parseFloat fuel (textOf floatText style item ++
        (itemsText floatText style items ++ ']' :: rest)) = some (item :: items, rest)

def ScansMembers (parseFloat : List Char → PyFloat) (floatText : PyFloat → JsonNumber)
    (style : JsonStyle) (fuel : ℕ) : Prop :=
  ∀ key value items, IntegralMembers ((key, value) :: items) →
    DistinctMembers ((key, value) :: items) → ∀ rest,
      (printString style key).length + style.keySeparator.length +
          (textOf floatText style value).length + (membersText floatText style items).length < fuel →
        scanMembers parseFloat fuel (printString style key ++ (style.keySeparator ++
          (textOf floatText style value ++ (membersText floatText style items ++ '}' :: rest)))) =
            some ((key, value) :: items, rest)

variable (hscanned : Scanned style)
include hscanned

theorem scanOnce_str (text : String) (rest : List Char) {fuel : ℕ}
    (hfuel : (printString style text).length ≤ fuel) :
    scanOnce parseFloat fuel (printString style text ++ rest) = some (.str text, rest) := by
  simp only [printString, List.length_append, List.length_cons, List.length_nil] at hfuel
  obtain ⟨fuel, rfl⟩ := Nat.exists_eq_add_one_of_ne_zero (show fuel ≠ 0 by omega)
  have htext := @scanString_print style hscanned text.toList rest fuel (by omega)
  simp [printString, scanOnce, htext]

theorem scansValues_succ {fuel : ℕ} (hitems : ScansItems parseFloat floatText style fuel)
    (hmembers : ScansMembers parseFloat floatText style fuel) :
    ScansValues parseFloat floatText style (fuel + 1) := by
  intro value hintegral hdistinct rest hrest hfuel
  cases value with
  | none => rfl
  | bool value => cases value <;> rfl
  | int value =>
      obtain ⟨c, tail, htext, hstarts⟩ := (JsonNumber.ofInt value).starts
      have hatom := @scanAtom_ofInt parseFloat value rest hrest
      simp only [textOf, toJson, print, htext, List.cons_append] at hatom ⊢
      rw [scanOnce_atom, hatom]
      intro hmem
      simp only [List.mem_cons, List.not_mem_nil, or_false] at hmem
      rcases hmem with rfl | rfl | rfl <;> simp [Char.isDigit] at hstarts
  | float value => exact hintegral.elim
  | str text => exact scanOnce_str hscanned text rest hfuel
  | list items =>
      cases items with
      | nil => rfl
      | cons item items =>
          simp only [textOf, toJson, toJsonItems, print, List.cons_append, List.append_assoc,
            List.length_append, List.length_cons, List.length_nil] at hfuel ⊢
          obtain ⟨c, tail, htext, -, hclose⟩ := @head_print floatText style item hintegral.1
          have hscan := hitems item items hintegral hdistinct rest (by
            simp only [textOf, itemsText]
            omega)
          refine scanOnce_list ?_ (skipSpace_print hintegral.1 _) hscan
          intro others heq
          change textOf floatText style item ++ _ = _ at heq
          rw [htext] at heq
          exact hclose (List.cons.inj heq).1
  | dict items =>
      cases items with
      | nil => rfl
      | cons item items =>
          obtain ⟨key, value⟩ := item
          simp only [textOf, toJson, toJsonMembers, print, List.cons_append, List.append_assoc,
            List.length_append, List.length_cons, List.length_nil] at hfuel ⊢
          have hscan := hmembers key value items hintegral hdistinct.2 rest (by
            simp only [textOf, membersText]
            omega)
          exact scanOnce_dict hdistinct.1 hscan

theorem scansItems_succ {fuel : ℕ} (hvalues : ScansValues parseFloat floatText style fuel)
    (hitems : ScansItems parseFloat floatText style fuel) :
    ScansItems parseFloat floatText style (fuel + 1) := by
  intro item items hintegral hdistinct rest hfuel
  have hitem : ∀ rest, Ends rest → scanOnce parseFloat fuel (textOf floatText style item ++ rest) =
      some (item, rest) := by
    intro rest hrest
    exact hvalues item hintegral.1 hdistinct.1 rest hrest (by omega)
  cases items with
  | nil => exact scanItems_last (hitem (']' :: rest) (by simp [Ends]))
  | cons next items =>
      obtain ⟨spaces, hseparator, hspaces⟩ := hscanned.itemSeparator
      have htext : itemsText floatText style (next :: items) =
          ',' :: spaces ++ textOf floatText style next ++ itemsText floatText style items := by
        rw [← hseparator]
        rfl
      rw [htext] at hfuel ⊢
      simp only [List.cons_append, List.append_assoc, List.length_append, List.length_cons]
        at hfuel ⊢
      refine scanItems_next (hitem (',' :: _) (by simp [Ends])) ?_
      rw [skipSpace_append hspaces, skipSpace_print hintegral.2.1]
      exact hitems next items hintegral.2 hdistinct.2 rest (by omega)

theorem scansMembers_succ {fuel : ℕ} (hvalues : ScansValues parseFloat floatText style fuel)
    (hmembers : ScansMembers parseFloat floatText style fuel) :
    ScansMembers parseFloat floatText style (fuel + 1) := by
  intro key value items hintegral hdistinct rest hfuel
  obtain ⟨spaces, hcolon, hspaces⟩ := hscanned.keySeparator
  simp only [printString, List.cons_append, List.append_assoc, List.nil_append,
    List.length_append, List.length_cons, List.length_nil, hcolon] at hfuel ⊢
  have hkey : ∀ more : List Char, scanString fuel
      (key.toList.flatMap style.escape ++ '"' :: more) = some (key.toList, more) := by
    intro more
    exact scanString_print hscanned key.toList more (by omega)
  have hvalue : ∀ more : List Char, Ends more → scanOnce parseFloat fuel
      (skipSpace (spaces ++ (textOf floatText style value ++ more))) = some (value, more) := by
    intro more hmore
    rw [skipSpace_append hspaces, skipSpace_print hintegral.1]
    exact hvalues value hintegral.1 hdistinct.1 more hmore (by omega)
  cases items with
  | nil => exact scanMembers_last (hkey _) (hvalue ('}' :: rest) (by simp [Ends]))
  | cons next items =>
      obtain ⟨other, otherValue⟩ := next
      obtain ⟨spaces', hcomma, hspaces'⟩ := hscanned.itemSeparator
      have htext : membersText floatText style ((other, otherValue) :: items) =
          ',' :: spaces' ++ printString style other ++ style.keySeparator ++
            textOf floatText style otherValue ++ membersText floatText style items := by
        rw [← hcomma]
        rfl
      rw [htext] at hfuel ⊢
      simp only [List.cons_append, List.append_assoc, List.length_append, List.length_cons]
        at hfuel ⊢
      refine scanMembers_next (hkey _) (hvalue (',' :: _) (by simp [Ends])) ?_
      have hquote : isJsonSpace '"' = false := by decide
      rw [skipSpace_append hspaces']
      simp only [printString, List.cons_append, skipSpace_cons hquote]
      exact hmembers other otherValue items hintegral.2 hdistinct.2 rest (by omega)

theorem scans_print (fuel : ℕ) : ScansValues parseFloat floatText style fuel ∧
    ScansItems parseFloat floatText style fuel ∧ ScansMembers parseFloat floatText style fuel := by
  induction fuel with
  | zero =>
      refine ⟨?_, ?_, ?_⟩
      · intro value hintegral _ _ _ hfuel
        obtain ⟨c, tail, htext, -⟩ := @head_print floatText style value hintegral
        rw [htext] at hfuel
        simp at hfuel
      · intro _ _ _ _ _ hfuel
        simp at hfuel
      · intro _ _ _ _ _ _ hfuel
        simp at hfuel
  | succ fuel ih =>
      obtain ⟨hvalues, hitems, hmembers⟩ := ih
      exact ⟨scansValues_succ hscanned hitems hmembers, scansItems_succ hscanned hvalues hitems,
        scansMembers_succ hscanned hvalues hmembers⟩

/-- What was printed without floats is read back. -/
theorem jsonLoads_print {value : PyValue} (hintegral : value.Integral)
    (hdistinct : value.Distinct) :
    jsonLoads parseFloat (String.ofList (print style (value.toJson floatText))) = some value := by
  have hspace := @skipSpace_print floatText style value hintegral []
  have hscan := (@scans_print parseFloat floatText style hscanned _).1 value hintegral hdistinct []
    trivial (Nat.le_succ _)
  rw [List.append_nil] at hspace hscan
  change jsonLoads parseFloat (String.ofList (textOf floatText style value)) = some value
  rw [jsonLoads, String.toList_ofList, hspace, hscan]
  rfl

end Values

/-- `text.encode("utf-8").decode("utf-8")`. -/
theorem fromUTF8?_toUTF8 (text : String) : String.fromUTF8? text.toUTF8 = some text := by
  rw [String.toUTF8_eq_toByteArray]
  exact dif_pos text.isValidUTF8

/-! ## The styles that are read back -/

theorem unescape_of_shortEscape {c letter : Char} (hc : shortEscape c = some letter) :
    letter ≠ 'u' ∧ unescape letter = some c := by
  have hletters : ∀ escape ∈ shortEscapes, escape.2 ≠ 'u' ∧ unescape escape.2 = some escape.1 := by
    decide
  exact hletters _ (mem_shortEscapes hc)

theorem scanChar_short {c letter : Char} (hc : shortEscape c = some letter) (rest : List Char) :
    scanChar ('\\' :: letter :: rest) = some (c, rest) := by
  obtain ⟨hne, hletter⟩ := unescape_of_shortEscape hc
  simp [scanChar, hne, hletter]

theorem hexValue_digitChar {n : ℕ} (hn : n < 16) : hexValue (Nat.digitChar n) = some n := by
  have hdigits : ∀ n < 16, hexValue (Nat.digitChar n) = some n := by
    decide
  exact hdigits n hn

theorem decodeUXXXX_unicodeEscape {n : ℕ} (hn : n < 0x10000) (rest : List Char) :
    decodeUXXXX ((unicodeEscape n).drop 2 ++ rest) = some (n, rest) := by
  have hdigits : 4096 * (n / 4096 % 16) + 256 * (n / 256 % 16) + 16 * (n / 16 % 16) + n % 16 = n := by
    omega
  simp [unicodeEscape, decodeUXXXX, hexValue_digitChar, Nat.mod_lt, hdigits]

/-- The number of a character that is no surrogate. -/
theorem scanChar_unicodeEscape {c : Char} (hc : c.toNat < 0x10000) (rest : List Char) :
    scanChar (unicodeEscape c.toNat ++ rest) = some (c, rest) := by
  have hvalid := toNat_not_surrogate c
  have hscan : scanUnicode ((unicodeEscape c.toNat).drop 2 ++ rest) = some (c, rest) := by
    simp only [scanUnicode, decodeUXXXX_unicodeEscape hc, Option.bind_eq_bind, Option.bind_some]
    rw [if_neg (by omega), if_neg (by omega), Char.ofNat_toNat]
  exact hscan

/-- Two surrogates are read together. -/
theorem scanChar_pair {high low : ℕ} (hhigh : 0xd800 ≤ high ∧ high ≤ 0xdbff)
    (hlow : 0xdc00 ≤ low ∧ low ≤ 0xdfff) (rest : List Char) :
    scanChar (unicodeEscape high ++ (unicodeEscape low ++ rest)) =
      some (Char.ofNat (0x10000 + ((high - 0xd800) * 0x400 + (low - 0xdc00))), rest) := by
  have hfirst : ∀ more, scanChar (unicodeEscape high ++ more) =
      scanUnicode ((unicodeEscape high).drop 2 ++ more) := fun _ => rfl
  have hsecond : unicodeEscape low ++ rest =
      '\\' :: 'u' :: ((unicodeEscape low).drop 2 ++ rest) := rfl
  rw [hfirst, hsecond]
  simp only [scanUnicode, decodeUXXXX_unicodeEscape (by omega : high < 0x10000),
    Option.bind_eq_bind, Option.bind_some, if_pos hhigh, scanLowSurrogate,
    decodeUXXXX_unicodeEscape (by omega : low < 0x10000), if_pos hlow]

theorem scanChar_surrogates {c : Char} (hc : 0x10000 ≤ c.toNat) (rest : List Char) :
    scanChar (unicodeEscape (surrogates c).1 ++ unicodeEscape (surrogates c).2 ++ rest) =
      some (c, rest) := by
  have hvalid := toNat_not_surrogate c
  have hhigh : 0xd800 ≤ (surrogates c).1 ∧ (surrogates c).1 ≤ 0xdbff := by
    simp only [surrogates]
    omega
  have hlow : 0xdc00 ≤ (surrogates c).2 ∧ (surrogates c).2 ≤ 0xdfff := by
    simp only [surrogates]
    omega
  have hnumber : 0x10000 + (((surrogates c).1 - 0xd800) * 0x400 + ((surrogates c).2 - 0xdc00)) =
      c.toNat := by
    simp only [surrogates]
    omega
  rw [List.append_assoc, scanChar_pair hhigh hlow, hnumber, Char.ofNat_toNat]

theorem scanned_compactStyle : Scanned compactStyle where
  itemSeparator := ⟨[], rfl, by simp⟩
  keySeparator := ⟨[], rfl, by simp⟩
  escape := by
    intro c rest
    change scanChar (escapeControl c ++ rest) = some (c, rest)
    unfold escapeControl
    split
    next letter hletter => exact scanChar_short hletter rest
    next hshort =>
      by_cases hcontrol : c.toNat < 0x20
      · rw [if_pos hcontrol]
        exact scanChar_unicodeEscape (by omega) rest
      · have hne : c ≠ '\\' := by
          rintro rfl
          cases hshort
        rw [if_neg hcontrol]
        simp [scanChar, hne, hcontrol]
  escape_ne_quote := readable_compactStyle.escape_quote

/-- A style that escapes to ASCII is read back, with spaces after its separators or without. -/
theorem scanned_escapeAscii {style : JsonStyle} (hescape : style.escape = escapeAscii)
    (hitem : ∃ spaces, style.itemSeparator = ',' :: spaces ∧ ∀ c ∈ spaces, isJsonSpace c = true)
    (hkey : ∃ spaces, style.keySeparator = ':' :: spaces ∧ ∀ c ∈ spaces, isJsonSpace c = true) :
    Scanned style where
  itemSeparator := hitem
  keySeparator := hkey
  escape := by
    intro c rest
    rw [hescape]
    unfold escapeAscii
    split
    next letter hletter => exact scanChar_short hletter rest
    next hshort =>
      have hslash : c ≠ '\\' := by
        rintro rfl
        cases hshort
      split
      next hprintable =>
        have hcontrol : ¬c.toNat < 0x20 := by omega
        simp [scanChar, hslash, hcontrol]
      next =>
        split
        next hplane => exact scanChar_unicodeEscape hplane rest
        next hplane => exact scanChar_surrogates (not_lt.mp hplane) rest
  escape_ne_quote := by
    obtain ⟨spaces, hseparator, -⟩ := hitem
    exact (readable_escapeAscii hescape ⟨spaces, hseparator⟩).escape_quote

end PaybondKit
