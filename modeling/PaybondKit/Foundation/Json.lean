import Mathlib.Data.List.Basic
import Mathlib.Tactic.Common

/-!
# JSON texts

A printer of JSON values with a style: the separators, and how a character of a
string is escaped. A wider style prints longer texts. In the compact style a text
determines its value, whatever follows it.
-/

namespace PaybondKit

/-- The text of a number: it begins like one, and it ends before a delimiter. -/
structure JsonNumber where
  text : List Char
  starts : ∃ first rest, text = first :: rest ∧ (first.isDigit ∨ first ∈ ['-', 'I', 'N'])
  inside : ∀ c ∈ text, c ∉ [',', ']', '}']

namespace JsonNumber

theorem ext {first second : JsonNumber} (htext : first.text = second.text) : first = second := by
  cases first
  cases second
  congr

theorem isDigit_inside {c : Char} (hdigit : c.isDigit = true) : c ∉ [',', ']', '}'] := by
  intro hmem
  simp only [List.mem_cons, List.not_mem_nil, or_false] at hmem
  rcases hmem with rfl | rfl | rfl <;> cases hdigit

theorem natText (n : ℕ) : ∃ first rest, n.repr.toList = first :: rest ∧ first.isDigit = true := by
  rw [Nat.toList_repr]
  cases hdigits : Nat.toDigits 10 n with
  | nil => exact absurd hdigits Nat.toDigits_ne_nil
  | cons first rest =>
      have hmem : first ∈ Nat.toDigits 10 n := by
        rw [hdigits]
        exact List.mem_cons_self
      exact ⟨first, rest, rfl, Nat.isDigit_of_mem_toDigits (by decide) (by decide) hmem⟩

theorem natText_inside (n : ℕ) : ∀ c ∈ n.repr.toList, c ∉ [',', ']', '}'] := by
  intro c hc
  rw [Nat.toList_repr] at hc
  exact isDigit_inside (Nat.isDigit_of_mem_toDigits (by decide) (by decide) hc)

/-- The decimal text of an integer. -/
def ofInt : Int → JsonNumber
  | .ofNat n =>
      { text := n.repr.toList
        starts := by
          obtain ⟨first, rest, htext, hdigit⟩ := natText n
          exact ⟨first, rest, htext, .inl hdigit⟩
        inside := natText_inside n }
  | .negSucc n =>
      { text := '-' :: (n + 1).repr.toList
        starts := ⟨'-', _, rfl, .inr (by simp)⟩
        inside := by
          intro c hc
          rcases List.mem_cons.mp hc with rfl | hc
          · decide
          · exact natText_inside (n + 1) c hc }

theorem nat_repr_injective {n m : ℕ} (htext : n.repr.toList = m.repr.toList) : n = m := by
  rw [Nat.toList_repr, Nat.toList_repr] at htext
  rw [← @Nat.ofDigitChars_ten_toDigits n, htext, Nat.ofDigitChars_ten_toDigits]

theorem ofInt_injective {n m : Int} (htext : (ofInt n).text = (ofInt m).text) : n = m := by
  have hsign : ∀ n m : ℕ, n.repr.toList ≠ '-' :: m.repr.toList := by
    intro n m heq
    obtain ⟨first, rest, hfirst, hdigit⟩ := natText n
    rw [hfirst] at heq
    cases heq
    cases hdigit
  cases n with
  | ofNat n =>
      cases m with
      | ofNat m => exact congrArg _ (nat_repr_injective htext)
      | negSucc m => exact absurd htext (hsign n (m + 1))
  | negSucc n =>
      cases m with
      | ofNat m => exact absurd htext.symm (hsign m (n + 1))
      | negSucc m =>
          have hsame := nat_repr_injective (List.cons.inj htext).2
          rw [Nat.succ.inj hsame]

end JsonNumber

inductive Json where
  | null
  | bool (value : Bool)
  | number (token : JsonNumber)
  | string (text : String)
  | array (items : List Json)
  | object (members : List (String × Json))

/-- The separators, and the text of a character within a string. -/
structure JsonStyle where
  itemSeparator : List Char
  keySeparator : List Char
  escape : Char → List Char

namespace Json

variable (style : JsonStyle)

def printString (text : String) : List Char := '"' :: text.toList.flatMap style.escape ++ ['"']

mutual

def print : Json → List Char
  | .null => "null".toList
  | .bool true => "true".toList
  | .bool false => "false".toList
  | .number token => token.text
  | .string text => printString style text
  | .array [] => ['[', ']']
  | .array (item :: items) => '[' :: print item ++ printItems items ++ [']']
  | .object [] => ['{', '}']
  | .object ((key, value) :: members) =>
      '{' :: printString style key ++ style.keySeparator ++ print value ++ printMembers members ++
        ['}']

/-- The items after the first. -/
def printItems : List Json → List Char
  | [] => []
  | item :: items => style.itemSeparator ++ print item ++ printItems items

/-- The members after the first. -/
def printMembers : List (String × Json) → List Char
  | [] => []
  | (key, value) :: members =>
      style.itemSeparator ++ printString style key ++ style.keySeparator ++ print value ++
        printMembers members

end

/-! ## Wider styles -/

section Wider

variable {style : JsonStyle} {wide : JsonStyle}

/-- Nothing is printed shorter in the wider style. -/
structure Wider (style wide : JsonStyle) : Prop where
  itemSeparator : style.itemSeparator.length ≤ wide.itemSeparator.length
  keySeparator : style.keySeparator.length ≤ wide.keySeparator.length
  escape : ∀ c, (style.escape c).length ≤ (wide.escape c).length

theorem length_printString (hwider : Wider style wide) (text : String) :
    (printString style text).length ≤ (printString wide text).length := by
  have hescaped : ∀ chars : List Char,
      (chars.flatMap style.escape).length ≤ (chars.flatMap wide.escape).length := by
    intro chars
    induction chars with
    | nil => exact Nat.le_refl _
    | cons c chars ih =>
        have hc := hwider.escape c
        simp only [List.flatMap_cons, List.length_append]
        omega
  have htext := hescaped text.toList
  simp only [printString, List.length_append, List.length_cons]
  omega

mutual

theorem length_print (hwider : Wider style wide) : ∀ json : Json,
    (print style json).length ≤ (print wide json).length
  | .null => Nat.le_refl _
  | .bool true => Nat.le_refl _
  | .bool false => Nat.le_refl _
  | .number _ => Nat.le_refl _
  | .string text => length_printString hwider text
  | .array [] => Nat.le_refl _
  | .array (item :: items) => by
      have hitem := length_print hwider item
      have hitems := length_printItems hwider items
      simp only [print, List.length_append, List.length_cons]
      omega
  | .object [] => Nat.le_refl _
  | .object ((key, value) :: members) => by
      have hkey := length_printString hwider key
      have hvalue := length_print hwider value
      have hmembers := length_printMembers hwider members
      have hseparator := hwider.keySeparator
      simp only [print, List.length_append, List.length_cons]
      omega

theorem length_printItems (hwider : Wider style wide) : ∀ items : List Json,
    (printItems style items).length ≤ (printItems wide items).length
  | [] => Nat.le_refl _
  | item :: items => by
      have hitem := length_print hwider item
      have hitems := length_printItems hwider items
      have hseparator := hwider.itemSeparator
      simp only [printItems, List.length_append]
      omega

theorem length_printMembers (hwider : Wider style wide) : ∀ members : List (String × Json),
    (printMembers style members).length ≤ (printMembers wide members).length
  | [] => Nat.le_refl _
  | (key, value) :: members => by
      have hkey := length_printString hwider key
      have hvalue := length_print hwider value
      have hmembers := length_printMembers hwider members
      have hitem := hwider.itemSeparator
      have hseparator := hwider.keySeparator
      simp only [printMembers, List.length_append]
      omega

end

/-- A style with a longer separator after the keys prints objects longer. -/
theorem length_print_object_lt (hwider : Wider style wide)
    (hseparator : style.keySeparator.length < wide.keySeparator.length)
    {members : List (String × Json)} (hmembers : members ≠ []) :
    (print style (.object members)).length < (print wide (.object members)).length := by
  cases members with
  | nil => exact absurd rfl hmembers
  | cons member members =>
      obtain ⟨key, value⟩ := member
      have hkey := length_printString hwider key
      have hvalue := length_print hwider value
      have hrest := length_printMembers hwider members
      simp only [print, List.length_append, List.length_cons]
      omega

end Wider

/-! ## Reading a text -/

section Readable

variable {style : JsonStyle}

/-- Items are set apart by a comma, and the text of a character can be told from that of
any other and from the end of a string. -/
structure Readable (style : JsonStyle) : Prop where
  separates : ∃ rest, style.itemSeparator = ',' :: rest
  escape_inj : ∀ c d rest rest', style.escape c ++ rest = style.escape d ++ rest' →
    c = d ∧ rest = rest'
  escape_quote : ∀ c rest rest', style.escape c ++ rest ≠ '"' :: rest'

/-- A text after which a value has ended. -/
def Ends : List Char → Prop
  | [] => True
  | c :: _ => c ∈ [',', ']', '}']

theorem readString (hreadable : Readable style) {first second : String} {rest rest' : List Char}
    (htext : printString style first ++ rest = printString style second ++ rest') :
    first = second ∧ rest = rest' := by
  have hchars : ∀ chars chars' : List Char,
      chars.flatMap style.escape ++ ('"' :: rest) = chars'.flatMap style.escape ++ ('"' :: rest') →
        chars = chars' ∧ rest = rest' := by
    intro chars
    induction chars with
    | nil =>
        intro chars' h
        cases chars' with
        | nil => exact ⟨rfl, (List.cons.inj h).2⟩
        | cons d chars' =>
            rw [List.flatMap_cons, List.append_assoc] at h
            exact absurd h.symm (hreadable.escape_quote d _ _)
    | cons c chars ih =>
        intro chars' h
        rw [List.flatMap_cons, List.append_assoc] at h
        cases chars' with
        | nil => exact absurd h (hreadable.escape_quote c _ _)
        | cons d chars' =>
            rw [List.flatMap_cons, List.append_assoc] at h
            obtain ⟨rfl, hrest⟩ := hreadable.escape_inj c d _ _ h
            obtain ⟨rfl, hsame⟩ := ih chars' hrest
            exact ⟨rfl, hsame⟩
  simp only [printString, List.cons_append, List.append_assoc, List.nil_append] at htext
  obtain ⟨hsame, hrest⟩ := hchars _ _ (List.cons.inj htext).2
  exact ⟨String.toList_injective hsame, hrest⟩

theorem readNumber {first second : JsonNumber} {rest rest' : List Char} (hrest : Ends rest)
    (hrest' : Ends rest') (htext : first.text ++ rest = second.text ++ rest') :
    first = second ∧ rest = rest' := by
  have hprefix : ∀ {token : JsonNumber} {rest : List Char}, Ends rest →
      (token.text ++ rest).takeWhile (· ∉ [',', ']', '}']) = token.text := by
    intro token rest hrest
    rw [List.takeWhile_append_of_pos (fun c hc => decide_eq_true (token.inside c hc))]
    cases rest with
    | nil => simp
    | cons c rest =>
        have hc : c ∈ [',', ']', '}'] := hrest
        rw [List.takeWhile_cons, if_neg (by simpa only [decide_eq_true_eq, not_not] using hc),
          List.append_nil]
  have hsame : first.text = second.text := by
    rw [← hprefix hrest, htext, hprefix hrest']
  obtain rfl := JsonNumber.ext hsame
  exact ⟨rfl, List.append_cancel_left htext⟩

/-- What a value is, read off its first character. -/
inductive Kind where
  | null
  | bool
  | number
  | string
  | array
  | object
  deriving DecidableEq

def kind : Json → Kind
  | .null => .null
  | .bool _ => .bool
  | .number _ => .number
  | .string _ => .string
  | .array _ => .array
  | .object _ => .object

def headKind (c : Char) : Kind :=
  if c = 'n' then .null
  else if c = 't' ∨ c = 'f' then .bool
  else if c = '"' then .string
  else if c = '[' then .array
  else if c = '{' then .object
  else .number

theorem headKind_digit {c : Char} (hdigit : c.isDigit = true) : headKind c = .number := by
  have hne : ∀ other : Char, other.isDigit = false → c ≠ other := by
    rintro other hother rfl
    cases hdigit.symm.trans hother
  simp [headKind, hne 'n' rfl, hne 't' rfl, hne 'f' rfl, hne '"' rfl, hne '[' rfl, hne '{' rfl]

/-- The first character of a value, which is never one that ends an array. -/
theorem print_head (style : JsonStyle) (json : Json) :
    ∃ c rest, print style json = c :: rest ∧ headKind c = json.kind ∧ c ≠ ']' := by
  cases json with
  | null => exact ⟨'n', _, rfl, rfl, by decide⟩
  | bool value => cases value <;> exact ⟨_, _, rfl, rfl, by decide⟩
  | number token =>
      obtain ⟨c, rest, htext, hstarts⟩ := token.starts
      have hmem : c ∈ token.text := by
        rw [htext]
        exact List.mem_cons_self
      refine ⟨c, rest, htext, ?_, fun hclose => token.inside c hmem (by simp [hclose])⟩
      rcases hstarts with hdigit | hstart
      · exact headKind_digit hdigit
      · simp only [List.mem_cons, List.not_mem_nil, or_false] at hstart
        rcases hstart with rfl | rfl | rfl <;> rfl
  | string text => exact ⟨'"', _, rfl, rfl, by decide⟩
  | array items => cases items <;> exact ⟨'[', _, rfl, rfl, by decide⟩
  | object members =>
      cases members with
      | nil => exact ⟨'{', _, rfl, rfl, by decide⟩
      | cons member members => exact ⟨'{', _, rfl, rfl, by decide⟩

theorem kind_eq {first second : Json} {rest rest' : List Char}
    (htext : print style first ++ rest = print style second ++ rest') :
    first.kind = second.kind := by
  obtain ⟨c, tail, hfirst, hkind, -⟩ := print_head style first
  obtain ⟨d, tail', hsecond, hkind', -⟩ := print_head style second
  rw [hfirst, hsecond] at htext
  rw [← hkind, ← hkind', (List.cons.inj htext).1]

theorem ends_printItems (hreadable : Readable style) (items : List Json) (rest : List Char) :
    Ends (printItems style items ++ ']' :: rest) := by
  cases items with
  | nil => simp [printItems, Ends]
  | cons item items =>
      obtain ⟨tail, hseparator⟩ := hreadable.separates
      simp [printItems, hseparator, Ends]

theorem ends_printMembers (hreadable : Readable style) (members : List (String × Json))
    (rest : List Char) : Ends (printMembers style members ++ '}' :: rest) := by
  cases members with
  | nil => simp [printMembers, Ends]
  | cons member members =>
      obtain ⟨tail, hseparator⟩ := hreadable.separates
      simp [printMembers, hseparator, Ends]

mutual

/-- A text determines its value and where it ends. -/
theorem read (hreadable : Readable style) : ∀ (first second : Json) {rest rest' : List Char},
    Ends rest → Ends rest' → print style first ++ rest = print style second ++ rest' →
      first = second ∧ rest = rest'
  | .null, second, rest, rest', _, _, htext => by
      have hkind := kind_eq htext
      cases second with
      | null => exact ⟨rfl, List.append_cancel_left htext⟩
      | _ => cases hkind
  | .bool value, second, rest, rest', _, _, htext => by
      have hkind := kind_eq htext
      cases second with
      | bool value' =>
          cases value <;> cases value'
          · exact ⟨rfl, List.append_cancel_left htext⟩
          · cases (List.cons.inj htext).1
          · cases (List.cons.inj htext).1
          · exact ⟨rfl, List.append_cancel_left htext⟩
      | _ => cases hkind
  | .number token, second, rest, rest', hrest, hrest', htext => by
      have hkind := kind_eq htext
      cases second with
      | number token' =>
          obtain ⟨rfl, hsame⟩ := readNumber hrest hrest' htext
          exact ⟨rfl, hsame⟩
      | _ => cases hkind
  | .string text, second, rest, rest', _, _, htext => by
      have hkind := kind_eq htext
      cases second with
      | string text' =>
          obtain ⟨rfl, hsame⟩ := readString hreadable htext
          exact ⟨rfl, hsame⟩
      | _ => cases hkind
  | .array [], second, rest, rest', _, _, htext => by
      have hkind := kind_eq htext
      cases second with
      | array items' =>
          cases items' with
          | nil => exact ⟨rfl, List.append_cancel_left htext⟩
          | cons item' items' =>
              obtain ⟨c, tail, hhead, -, hclose⟩ := print_head style item'
              simp only [print, hhead, List.cons_append] at htext
              exact absurd (List.cons.inj (List.cons.inj htext).2).1.symm hclose
      | _ => cases hkind
  | .array (item :: items), second, rest, rest', _, _, htext => by
      have hkind := kind_eq htext
      cases second with
      | array items' =>
          cases items' with
          | nil =>
              obtain ⟨c, tail, hhead, -, hclose⟩ := print_head style item
              simp only [print, hhead, List.cons_append] at htext
              exact absurd (List.cons.inj (List.cons.inj htext).2).1 hclose
          | cons item' items' =>
              simp only [print, List.cons_append, List.append_assoc, List.nil_append] at htext
              obtain ⟨rfl, hitems⟩ := read hreadable item item'
                (ends_printItems hreadable items rest) (ends_printItems hreadable items' rest')
                (List.cons.inj htext).2
              obtain ⟨rfl, hsame⟩ := readItems hreadable items items' hitems
              exact ⟨rfl, hsame⟩
      | _ => cases hkind
  | .object [], second, rest, rest', _, _, htext => by
      have hkind := kind_eq htext
      cases second with
      | object members' =>
          cases members' with
          | nil => exact ⟨rfl, List.append_cancel_left htext⟩
          | cons member' members' => cases (List.cons.inj (List.cons.inj htext).2).1
      | _ => cases hkind
  | .object ((key, value) :: members), second, rest, rest', _, _, htext => by
      have hkind := kind_eq htext
      cases second with
      | object members' =>
          cases members' with
          | nil => cases (List.cons.inj (List.cons.inj htext).2).1
          | cons member' members' =>
              obtain ⟨key', value'⟩ := member'
              simp only [print, List.cons_append, List.append_assoc, List.nil_append] at htext
              obtain ⟨rfl, hvalue⟩ := readString hreadable (List.cons.inj htext).2
              obtain ⟨rfl, hmembers⟩ := read hreadable value value'
                (ends_printMembers hreadable members rest)
                (ends_printMembers hreadable members' rest') (List.append_cancel_left hvalue)
              obtain ⟨rfl, hsame⟩ := readMembers hreadable members members' hmembers
              exact ⟨rfl, hsame⟩
      | _ => cases hkind

theorem readItems (hreadable : Readable style) : ∀ (items items' : List Json)
    {rest rest' : List Char},
    printItems style items ++ ']' :: rest = printItems style items' ++ ']' :: rest' →
      items = items' ∧ rest = rest'
  | [], items', rest, rest', htext => by
      obtain ⟨tail, hseparator⟩ := hreadable.separates
      cases items' with
      | nil => exact ⟨rfl, (List.cons.inj htext).2⟩
      | cons item' items' =>
          simp only [printItems, hseparator, List.cons_append, List.nil_append] at htext
          cases (List.cons.inj htext).1
  | item :: items, items', rest, rest', htext => by
      obtain ⟨tail, hseparator⟩ := hreadable.separates
      cases items' with
      | nil =>
          simp only [printItems, hseparator, List.cons_append, List.nil_append] at htext
          cases (List.cons.inj htext).1
      | cons item' items' =>
          simp only [printItems, List.append_assoc] at htext
          obtain ⟨rfl, hitems⟩ := read hreadable item item'
            (ends_printItems hreadable items rest) (ends_printItems hreadable items' rest')
            (List.append_cancel_left htext)
          obtain ⟨rfl, hsame⟩ := readItems hreadable items items' hitems
          exact ⟨rfl, hsame⟩

theorem readMembers (hreadable : Readable style) : ∀ (members members' : List (String × Json))
    {rest rest' : List Char},
    printMembers style members ++ '}' :: rest = printMembers style members' ++ '}' :: rest' →
      members = members' ∧ rest = rest'
  | [], members', rest, rest', htext => by
      obtain ⟨tail, hseparator⟩ := hreadable.separates
      cases members' with
      | nil => exact ⟨rfl, (List.cons.inj htext).2⟩
      | cons member' members' =>
          simp only [printMembers, hseparator, List.cons_append, List.nil_append] at htext
          cases (List.cons.inj htext).1
  | (key, value) :: members, members', rest, rest', htext => by
      obtain ⟨tail, hseparator⟩ := hreadable.separates
      cases members' with
      | nil =>
          simp only [printMembers, hseparator, List.cons_append, List.nil_append] at htext
          cases (List.cons.inj htext).1
      | cons member' members' =>
          obtain ⟨key', value'⟩ := member'
          simp only [printMembers, List.append_assoc] at htext
          obtain ⟨rfl, hvalue⟩ := readString hreadable (List.append_cancel_left htext)
          obtain ⟨rfl, hmembers⟩ := read hreadable value value'
            (ends_printMembers hreadable members rest)
            (ends_printMembers hreadable members' rest') (List.append_cancel_left hvalue)
          obtain ⟨rfl, hsame⟩ := readMembers hreadable members members' hmembers
          exact ⟨rfl, hsame⟩

end

theorem print_injective (hreadable : Readable style) {first second : Json}
    (htext : print style first = print style second) : first = second := by
  refine (@read style hreadable first second [] [] trivial trivial ?_).1
  rw [htext]

end Readable

end Json

end PaybondKit
