import PaybondKit.Foundation.Json
import PaybondKit.Foundation.PyValue

/-!
# `json.dumps`

The texts that Python prints for decoded values: in the compact style that keeps
other scripts as they are, and in the default style that escapes them.
-/

namespace PaybondKit

/-! ## Values -/

namespace PyValue

variable (floatText : PyFloat → JsonNumber)

mutual

def toJson : PyValue → Json
  | .none => .null
  | .bool value => .bool value
  | .int value => .number (.ofInt value)
  | .float value => .number (floatText value)
  | .str value => .string value
  | .list items => .array (toJsonItems items)
  | .dict items => .object (toJsonMembers items)

def toJsonItems : List PyValue → List Json
  | [] => []
  | item :: items => toJson item :: toJsonItems items

def toJsonMembers : List (String × PyValue) → List (String × Json)
  | [] => []
  | (key, value) :: items => (key, toJson value) :: toJsonMembers items

end

end PyValue

/-! ## Characters -/

/-- The characters with an escape of their own, and the letter after the backslash. -/
def shortEscapes : List (Char × Char) :=
  [('"', '"'), ('\\', '\\'), ('\n', 'n'), ('\r', 'r'), ('\t', 't'), ('\x0c', 'f'), ('\x08', 'b')]

def shortEscape (c : Char) : Option Char :=
  (shortEscapes.find? fun escape => escape.1 = c).map Prod.snd

/-- `"\\u{0:04x}".format(n)`. -/
def unicodeEscape (n : ℕ) : List Char :=
  ['\\', 'u', Nat.digitChar (n / 4096 % 16), Nat.digitChar (n / 256 % 16),
    Nat.digitChar (n / 16 % 16), Nat.digitChar (n % 16)]

/-- With `ensure_ascii=False`. -/
def escapeControl (c : Char) : List Char :=
  match shortEscape c with
  | some letter => ['\\', letter]
  | none => if c.toNat < 0x20 then unicodeEscape c.toNat else [c]

/-- With `ensure_ascii=True`. -/
def escapeAscii (c : Char) : List Char :=
  match shortEscape c with
  | some letter => ['\\', letter]
  | none =>
      if 0x20 ≤ c.toNat ∧ c.toNat ≤ 0x7e then [c]
      else if c.toNat < 0x10000 then unicodeEscape c.toNat
      else
        unicodeEscape (0xd800 + (c.toNat - 0x10000) / 0x400 % 0x400) ++
          unicodeEscape (0xdc00 + (c.toNat - 0x10000) % 0x400)

/-- `separators=(",", ":"), ensure_ascii=False`. -/
def compactStyle : JsonStyle where
  itemSeparator := [',']
  keySeparator := [':']
  escape := escapeControl

/-- No arguments. -/
def defaultStyle : JsonStyle where
  itemSeparator := [',', ' ']
  keySeparator := [':', ' ']
  escape := escapeAscii

/-- `json.dumps(value).encode("utf-8")` in the given style. -/
def jsonDumpsBytes (style : JsonStyle) (json : Json) : ByteArray :=
  (String.ofList (json.print style)).toUTF8

theorem print_eq_of_jsonDumpsBytes {style style' : JsonStyle} {first second : Json}
    (hbytes : jsonDumpsBytes style first = jsonDumpsBytes style' second) :
    first.print style = second.print style' := by
  have htext : String.ofList (first.print style) = String.ofList (second.print style') :=
    String.toByteArray_inj.mp hbytes
  simpa using congrArg String.toList htext

/-! ## Lengths -/

theorem length_escape_le (c : Char) : (escapeControl c).length ≤ (escapeAscii c).length := by
  unfold escapeControl escapeAscii
  cases shortEscape c with
  | some letter => exact le_rfl
  | none =>
      dsimp only
      by_cases hcontrol : c.toNat < 0x20
      · rw [if_pos hcontrol, if_neg (by omega), if_pos (by omega)]
      · rw [if_neg hcontrol]
        split
        · exact le_rfl
        · split <;> simp [unicodeEscape]

theorem wider_defaultStyle : Json.Wider compactStyle defaultStyle where
  itemSeparator := by decide
  keySeparator := by decide
  escape := length_escape_le

/-- The two styles agree on an object only when it is empty. -/
theorem jsonDumpsBytes_styles_iff {members : List (String × Json)} :
    jsonDumpsBytes compactStyle (.object members) = jsonDumpsBytes defaultStyle (.object members) ↔
      members = [] := by
  constructor
  · intro hbytes
    by_contra hmembers
    have hlt := Json.length_print_object_lt wider_defaultStyle (by decide) hmembers
    rw [print_eq_of_jsonDumpsBytes hbytes] at hlt
    exact lt_irrefl _ hlt
  · rintro rfl
    rfl

/-! ## Reading -/

theorem mem_shortEscapes {c letter : Char} (hc : shortEscape c = some letter) :
    (c, letter) ∈ shortEscapes := by
  obtain ⟨⟨c', letter'⟩, hfind, rfl⟩ := Option.map_eq_some_iff.mp hc
  have hsame : c' = c := by simpa using List.find?_some hfind
  rw [← hsame]
  exact List.mem_of_find?_eq_some hfind

theorem shortEscape_injective {c d letter : Char} (hc : shortEscape c = some letter)
    (hd : shortEscape d = some letter) : c = d := by
  have hinjective : ∀ first ∈ shortEscapes, ∀ second ∈ shortEscapes,
      first.2 = second.2 → first.1 = second.1 := by
    decide
  exact hinjective _ (mem_shortEscapes hc) _ (mem_shortEscapes hd) rfl

theorem shortEscape_ne_u {c letter : Char} (hc : shortEscape c = some letter) : letter ≠ 'u' := by
  have hletters : ∀ escape ∈ shortEscapes, escape.2 ≠ 'u' := by
    decide
  exact hletters _ (mem_shortEscapes hc)

/-- Four hexadecimal digits determine a number below `0x10000`. -/
theorem unicodeEscape_inj {n m : ℕ} {rest rest' : List Char} (hn : n < 0x10000) (hm : m < 0x10000)
    (htext : unicodeEscape n ++ rest = unicodeEscape m ++ rest') : n = m ∧ rest = rest' := by
  have hdigit : ∀ i < 16, ∀ j < 16, Nat.digitChar i = Nat.digitChar j → i = j := by
    decide
  obtain ⟨hescape, hrest⟩ := List.append_inj htext rfl
  simp only [unicodeEscape, List.cons.injEq, true_and, and_true] at hescape
  obtain ⟨h3, h2, h1, h0⟩ := hescape
  have h3 := hdigit _ (Nat.mod_lt _ (by decide)) _ (Nat.mod_lt _ (by decide)) h3
  have h2 := hdigit _ (Nat.mod_lt _ (by decide)) _ (Nat.mod_lt _ (by decide)) h2
  have h1 := hdigit _ (Nat.mod_lt _ (by decide)) _ (Nat.mod_lt _ (by decide)) h1
  have h0 := hdigit _ (Nat.mod_lt _ (by decide)) _ (Nat.mod_lt _ (by decide)) h0
  exact ⟨by omega, hrest⟩

/-- What a control character is escaped to determines it. -/
theorem unicodeEscape_injective {c d : Char} {rest rest' : List Char} (hc : c.toNat < 0x20)
    (hd : d.toNat < 0x20)
    (htext : unicodeEscape c.toNat ++ rest = unicodeEscape d.toNat ++ rest') :
    c = d ∧ rest = rest' := by
  obtain ⟨hchar, hrest⟩ := unicodeEscape_inj (by omega) (by omega) htext
  exact ⟨Char.toNat_inj.mp hchar, hrest⟩

/-- The three ways a character is printed. -/
theorem escapeControl_cases (c : Char) :
    (∃ letter, shortEscape c = some letter ∧ escapeControl c = ['\\', letter]) ∨
      (c.toNat < 0x20 ∧ escapeControl c = unicodeEscape c.toNat) ∨
      (c ≠ '"' ∧ c ≠ '\\' ∧ escapeControl c = [c]) := by
  unfold escapeControl
  cases hshort : shortEscape c with
  | some letter => exact .inl ⟨letter, rfl, rfl⟩
  | none =>
      by_cases hcontrol : c.toNat < 0x20
      · exact .inr (.inl ⟨hcontrol, if_pos hcontrol⟩)
      · refine .inr (.inr ⟨?_, ?_, if_neg hcontrol⟩)
        · rintro rfl
          cases hshort
        · rintro rfl
          cases hshort

theorem readable_compactStyle : Json.Readable compactStyle where
  separates := ⟨[], rfl⟩
  escape_inj := by
    intro c d rest rest' htext
    change escapeControl c ++ rest = escapeControl d ++ rest' at htext
    rcases escapeControl_cases c with ⟨letter, hc, hescape⟩ | ⟨hc, hescape⟩ | ⟨-, hc, hescape⟩ <;>
      rcases escapeControl_cases d with ⟨letter', hd, hescape'⟩ | ⟨hd, hescape'⟩ |
        ⟨-, hd, hescape'⟩ <;>
      rw [hescape, hescape'] at htext
    · simp only [List.cons_append, List.nil_append, List.cons.injEq, true_and] at htext
      obtain ⟨rfl, hrest⟩ := htext
      exact ⟨shortEscape_injective hc hd, hrest⟩
    · exact absurd (List.cons.inj (List.cons.inj htext).2).1 (shortEscape_ne_u hc)
    · exact absurd (List.cons.inj htext).1.symm hd
    · exact absurd (List.cons.inj (List.cons.inj htext).2).1.symm (shortEscape_ne_u hd)
    · exact unicodeEscape_injective hc hd htext
    · exact absurd (List.cons.inj htext).1.symm hd
    · exact absurd (List.cons.inj htext).1 hc
    · exact absurd (List.cons.inj htext).1 hc
    · exact ⟨(List.cons.inj htext).1, (List.cons.inj htext).2⟩
  escape_quote := by
    intro c rest rest' htext
    change escapeControl c ++ rest = '"' :: rest' at htext
    rcases escapeControl_cases c with ⟨letter, hc, hescape⟩ | ⟨hc, hescape⟩ | ⟨hc, -, hescape⟩
    · rw [hescape] at htext
      cases (List.cons.inj htext).1
    · rw [hescape] at htext
      cases (List.cons.inj htext).1
    · rw [hescape] at htext
      exact hc (List.cons.inj htext).1

/-- In the compact style the bytes determine the value. -/
theorem jsonDumpsBytes_injective {first second : Json}
    (hbytes : jsonDumpsBytes compactStyle first = jsonDumpsBytes compactStyle second) :
    first = second :=
  Json.print_injective readable_compactStyle (print_eq_of_jsonDumpsBytes hbytes)

/-! ## Reading ASCII -/

/-- The surrogates of a character beyond the first plane. -/
def surrogates (c : Char) : ℕ × ℕ :=
  (0xd800 + (c.toNat - 0x10000) / 0x400 % 0x400, 0xdc00 + (c.toNat - 0x10000) % 0x400)

/-- A character below `0x10000` is printed by its number, any other by its surrogates. -/
def EscapedByNumber (c : Char) : Prop :=
  (c.toNat < 0x10000 ∧ escapeAscii c = unicodeEscape c.toNat) ∨
    (0x10000 ≤ c.toNat ∧
      escapeAscii c = unicodeEscape (surrogates c).1 ++ unicodeEscape (surrogates c).2)

/-- The three ways a character is printed in ASCII. -/
theorem escapeAscii_cases (c : Char) :
    (∃ letter, shortEscape c = some letter ∧ escapeAscii c = ['\\', letter]) ∨
      (c ≠ '"' ∧ c ≠ '\\' ∧ escapeAscii c = [c]) ∨ EscapedByNumber c := by
  unfold escapeAscii
  cases hshort : shortEscape c with
  | some letter => exact .inl ⟨letter, rfl, rfl⟩
  | none =>
      right
      by_cases hprintable : 0x20 ≤ c.toNat ∧ c.toNat ≤ 0x7e
      · refine .inl ⟨?_, ?_, if_pos hprintable⟩
        · rintro rfl
          cases hshort
        · rintro rfl
          cases hshort
      · right
        unfold EscapedByNumber escapeAscii
        rw [hshort]
        dsimp only
        rw [if_neg hprintable]
        by_cases hplane : c.toNat < 0x10000
        · exact .inl ⟨hplane, if_pos hplane⟩
        · exact .inr ⟨not_lt.mp hplane, if_neg hplane⟩

/-- A character is no surrogate. -/
theorem toNat_not_surrogate (c : Char) : c.toNat < 0xd800 ∨ 0xdfff < c.toNat ∧ c.toNat < 0x110000 :=
  c.valid

/-- What the text of a character escaped by number determines. -/
theorem escapeAscii_number_inj {c d : Char} {rest rest' : List Char}
    (hc : EscapedByNumber c) (hd : EscapedByNumber d)
    (htext : escapeAscii c ++ rest = escapeAscii d ++ rest') : c = d ∧ rest = rest' := by
  have hcvalid := toNat_not_surrogate c
  have hdvalid := toNat_not_surrogate d
  rcases hc with ⟨hc, hescape⟩ | ⟨hc, hescape⟩ <;>
    rcases hd with ⟨hd, hescape'⟩ | ⟨hd, hescape'⟩ <;>
    rw [hescape, hescape'] at htext
  · obtain ⟨hsame, hrest⟩ := unicodeEscape_inj hc hd htext
    exact ⟨Char.toNat_inj.mp hsame, hrest⟩
  · rw [List.append_assoc] at htext
    obtain ⟨hsame, -⟩ := unicodeEscape_inj hc (by simp only [surrogates]; omega) htext
    simp only [surrogates] at hsame
    omega
  · rw [List.append_assoc] at htext
    obtain ⟨hsame, -⟩ := unicodeEscape_inj (by simp only [surrogates]; omega) hd htext
    simp only [surrogates] at hsame
    omega
  · rw [List.append_assoc, List.append_assoc] at htext
    obtain ⟨hhigh, htext⟩ := unicodeEscape_inj (by simp only [surrogates]; omega)
      (by simp only [surrogates]; omega) htext
    obtain ⟨hlow, hrest⟩ := unicodeEscape_inj (by simp only [surrogates]; omega)
      (by simp only [surrogates]; omega) htext
    simp only [surrogates] at hhigh hlow
    exact ⟨Char.toNat_inj.mp (by omega), hrest⟩

/-- A character escaped by number begins as none of the others does. -/
theorem escapeAscii_number_head {c : Char} (hc : EscapedByNumber c) :
    ∃ tail, escapeAscii c = '\\' :: 'u' :: tail := by
  rcases hc with ⟨-, hescape⟩ | ⟨-, hescape⟩ <;> exact ⟨_, hescape⟩

/-- A style that escapes to ASCII is readable when a comma sets its items apart. -/
theorem readable_escapeAscii {style : JsonStyle} (hescape : style.escape = escapeAscii)
    (hseparates : ∃ rest, style.itemSeparator = ',' :: rest) : Json.Readable style where
  separates := hseparates
  escape_inj := by
    intro c d rest rest' htext
    rw [hescape] at htext
    rcases escapeAscii_cases c with ⟨letter, hc, hprint⟩ | ⟨-, hc, hprint⟩ | hnumber <;>
      rcases escapeAscii_cases d with ⟨letter', hd, hprint'⟩ | ⟨-, hd, hprint'⟩ | hnumber'
    · rw [hprint, hprint'] at htext
      simp only [List.cons_append, List.nil_append, List.cons.injEq, true_and] at htext
      obtain ⟨rfl, hrest⟩ := htext
      exact ⟨shortEscape_injective hc hd, hrest⟩
    · rw [hprint, hprint'] at htext
      exact absurd (List.cons.inj htext).1.symm hd
    · obtain ⟨tail, hhead⟩ := escapeAscii_number_head hnumber'
      rw [hprint, hhead] at htext
      exact absurd (List.cons.inj (List.cons.inj htext).2).1 (shortEscape_ne_u hc)
    · rw [hprint, hprint'] at htext
      exact absurd (List.cons.inj htext).1 hc
    · rw [hprint, hprint'] at htext
      exact ⟨(List.cons.inj htext).1, (List.cons.inj htext).2⟩
    · obtain ⟨tail, hhead⟩ := escapeAscii_number_head hnumber'
      rw [hprint, hhead] at htext
      exact absurd (List.cons.inj htext).1 hc
    · obtain ⟨tail, hhead⟩ := escapeAscii_number_head hnumber
      rw [hprint', hhead] at htext
      exact absurd (List.cons.inj (List.cons.inj htext).2).1.symm (shortEscape_ne_u hd)
    · obtain ⟨tail, hhead⟩ := escapeAscii_number_head hnumber
      rw [hprint', hhead] at htext
      exact absurd (List.cons.inj htext).1.symm hd
    · exact escapeAscii_number_inj hnumber hnumber' htext
  escape_quote := by
    intro c rest rest' htext
    rw [hescape] at htext
    rcases escapeAscii_cases c with ⟨letter, hc, hprint⟩ | ⟨hc, -, hprint⟩ | hnumber
    · rw [hprint] at htext
      cases (List.cons.inj htext).1
    · rw [hprint] at htext
      exact hc (List.cons.inj htext).1
    · obtain ⟨tail, hhead⟩ := escapeAscii_number_head hnumber
      rw [hhead] at htext
      cases (List.cons.inj htext).1

/-! ## Values without floats -/

namespace PyValue

mutual

/-- The value holds no float. -/
def Integral : PyValue → Prop
  | .float _ => False
  | .list items => IntegralItems items
  | .dict items => IntegralMembers items
  | _ => True

def IntegralItems : List PyValue → Prop
  | [] => True
  | item :: items => Integral item ∧ IntegralItems items

def IntegralMembers : List (String × PyValue) → Prop
  | [] => True
  | (_, value) :: items => Integral value ∧ IntegralMembers items

end

theorem integralItems_iff {items : List PyValue} :
    IntegralItems items ↔ ∀ item ∈ items, Integral item := by
  induction items with
  | nil => simp [IntegralItems]
  | cons item items ih => rw [IntegralItems, ih, List.forall_mem_cons]

theorem integralMembers_iff {items : List (String × PyValue)} :
    IntegralMembers items ↔ ∀ item ∈ items, Integral item.2 := by
  induction items with
  | nil => simp [IntegralMembers]
  | cons item items ih => rw [IntegralMembers, ih, List.forall_mem_cons]

variable {floatText : PyFloat → JsonNumber}

mutual

/-- The JSON form of a value without floats determines the value. -/
theorem toJson_injective : ∀ {first second : PyValue}, first.Integral → second.Integral →
    toJson floatText first = toJson floatText second → first = second
  | .none, second, _, _, hjson => by cases second <;> first | rfl | cases hjson
  | .bool value, second, _, _, hjson => by
      cases second <;> first | cases hjson; rfl | cases hjson
  | .int value, second, _, hsecond, hjson => by
      cases second with
      | int other =>
          have htext := congrArg JsonNumber.text (Json.number.inj hjson)
          rw [JsonNumber.ofInt_injective htext]
      | float other => exact hsecond.elim
      | _ => cases hjson
  | .float value, _, hfirst, _, _ => hfirst.elim
  | .str value, second, _, _, hjson => by
      cases second <;> first | cases hjson; rfl | cases hjson
  | .list items, second, hfirst, hsecond, hjson => by
      cases second with
      | list others =>
          rw [toJsonItems_injective hfirst hsecond (Json.array.inj hjson)]
      | _ => cases hjson
  | .dict items, second, hfirst, hsecond, hjson => by
      cases second with
      | dict others =>
          rw [toJsonMembers_injective hfirst hsecond (Json.object.inj hjson)]
      | _ => cases hjson

theorem toJsonItems_injective : ∀ {items others : List PyValue}, IntegralItems items →
    IntegralItems others → toJsonItems floatText items = toJsonItems floatText others →
      items = others
  | [], others, _, _, hjson => by
      cases others with
      | nil => rfl
      | cons other others => cases hjson
  | item :: items, others, hitems, hothers, hjson => by
      cases others with
      | nil => cases hjson
      | cons other others =>
          obtain ⟨hitem, hrest⟩ := List.cons.inj hjson
          rw [toJson_injective hitems.1 hothers.1 hitem,
            toJsonItems_injective hitems.2 hothers.2 hrest]

theorem toJsonMembers_injective : ∀ {items others : List (String × PyValue)},
    IntegralMembers items → IntegralMembers others →
      toJsonMembers floatText items = toJsonMembers floatText others → items = others
  | [], others, _, _, hjson => by
      cases others with
      | nil => rfl
      | cons other others => cases hjson
  | (key, value) :: items, others, hitems, hothers, hjson => by
      cases others with
      | nil => cases hjson
      | cons other others =>
          obtain ⟨hmember, hrest⟩ := List.cons.inj hjson
          obtain ⟨rfl, hvalue⟩ := Prod.mk.inj hmember
          rw [toJson_injective hitems.1 hothers.1 hvalue,
            toJsonMembers_injective hitems.2 hothers.2 hrest]

end

end PyValue

end PaybondKit
