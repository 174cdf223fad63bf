import PaybondKit.Foundation.PyJson

/-!
# Characters of JSON texts

A value is printed alike in two styles that escape its characters alike. What its characters
are escaped to occurs in its text, and nothing else does but separators and numbers.
-/

namespace PaybondKit

namespace Json

mutual

/-- The characters of all keys and strings. -/
def characters : Json → List Char
  | .string text => text.toList
  | .array items => charactersItems items
  | .object members => charactersMembers members
  | _ => []

def charactersItems : List Json → List Char
  | [] => []
  | item :: items => characters item ++ charactersItems items

def charactersMembers : List (String × Json) → List Char
  | [] => []
  | (key, value) :: members => key.toList ++ characters value ++ charactersMembers members

end

mutual

/-- The numbers that occur. -/
def tokens : Json → List JsonNumber
  | .number token => [token]
  | .array items => tokensItems items
  | .object members => tokensMembers members
  | _ => []

def tokensItems : List Json → List JsonNumber
  | [] => []
  | item :: items => tokens item ++ tokensItems items

def tokensMembers : List (String × Json) → List JsonNumber
  | [] => []
  | (_, value) :: members => tokens value ++ tokensMembers members

end

/-! ## One text in two styles -/

section Congr

variable {style other : JsonStyle}

/-- Two styles that differ in their escapes only. -/
structure SameSeparators (style other : JsonStyle) : Prop where
  itemSeparator : style.itemSeparator = other.itemSeparator
  keySeparator : style.keySeparator = other.keySeparator

theorem printString_congr {text : String}
    (hescape : ∀ c ∈ text.toList, style.escape c = other.escape c) :
    printString style text = printString other text := by
  rw [printString, printString, List.flatMap_congr hescape]

mutual

theorem print_congr (hsame : SameSeparators style other) : ∀ json : Json,
    (∀ c ∈ json.characters, style.escape c = other.escape c) →
      print style json = print other json
  | .null, _ => rfl
  | .bool true, _ => rfl
  | .bool false, _ => rfl
  | .number _, _ => rfl
  | .string _, hescape => printString_congr hescape
  | .array [], _ => rfl
  | .array (item :: items), hescape => by
      obtain ⟨hitem, hitems⟩ := List.forall_mem_append.mp hescape
      rw [print, print, print_congr hsame item hitem, printItems_congr hsame items hitems]
  | .object [], _ => rfl
  | .object ((key, value) :: members), hescape => by
      obtain ⟨hmember, hmembers⟩ := List.forall_mem_append.mp hescape
      obtain ⟨hkey, hvalue⟩ := List.forall_mem_append.mp hmember
      rw [print, print, printString_congr hkey, print_congr hsame value hvalue,
        printMembers_congr hsame members hmembers, hsame.keySeparator]

theorem printItems_congr (hsame : SameSeparators style other) : ∀ items : List Json,
    (∀ c ∈ charactersItems items, style.escape c = other.escape c) →
      printItems style items = printItems other items
  | [], _ => rfl
  | item :: items, hescape => by
      obtain ⟨hitem, hitems⟩ := List.forall_mem_append.mp hescape
      rw [printItems, printItems, print_congr hsame item hitem, printItems_congr hsame items hitems,
        hsame.itemSeparator]

theorem printMembers_congr (hsame : SameSeparators style other) :
    ∀ members : List (String × Json),
    (∀ c ∈ charactersMembers members, style.escape c = other.escape c) →
      printMembers style members = printMembers other members
  | [], _ => rfl
  | (key, value) :: members, hescape => by
      obtain ⟨hmember, hmembers⟩ := List.forall_mem_append.mp hescape
      obtain ⟨hkey, hvalue⟩ := List.forall_mem_append.mp hmember
      rw [printMembers, printMembers, printString_congr hkey, print_congr hsame value hvalue,
        printMembers_congr hsame members hmembers, hsame.itemSeparator, hsame.keySeparator]

end

end Congr

/-! ## What occurs in a text -/

section Occurs

variable {style : JsonStyle} {good : Char → Prop}

/-- The separators of a style, and those of every text. -/
structure GoodSeparators (style : JsonStyle) (good : Char → Prop) : Prop where
  itemSeparator : ∀ c ∈ style.itemSeparator, good c
  keySeparator : ∀ c ∈ style.keySeparator, good c
  fixed : ∀ c ∈ "nulltruefalse[]{}\"".toList, good c

theorem forall_mem_printString {text : String} (hgood : GoodSeparators style good) :
    (∀ d ∈ printString style text, good d) ↔
      ∀ c ∈ text.toList, ∀ d ∈ style.escape c, good d := by
  have hquote : good '"' := hgood.fixed _ (by decide)
  simp only [printString, List.forall_mem_append, List.forall_mem_cons, hquote, true_and,
    List.mem_flatMap, forall_exists_index, and_imp]
  constructor
  · rintro ⟨hall, -⟩ c hc d hd
    exact hall d c hc hd
  · intro hall
    exact ⟨fun d c hc hd => hall c hc d hd, fun _ hnil => absurd hnil List.not_mem_nil⟩

theorem GoodSeparators.of_subset (hgood : GoodSeparators style good) {text : List Char}
    (htext : ∀ c ∈ text, c ∈ "nulltruefalse[]{}\"".toList) : ∀ c ∈ text, good c :=
  fun c hc => hgood.fixed c (htext c hc)

mutual

/-- All characters of a text are good when those of the escapes and of the numbers are. -/
theorem forall_mem_print (hgood : GoodSeparators style good) : ∀ json : Json,
    (∀ d ∈ print style json, good d) ↔
      (∀ c ∈ json.characters, ∀ d ∈ style.escape c, good d) ∧
        ∀ token ∈ json.tokens, ∀ d ∈ token.text, good d
  | .null => by
      have htext : ∀ d ∈ "null".toList, good d := hgood.of_subset (forall_mem_of_all (by decide))
      exact iff_of_true htext ⟨by simp [characters], by simp [tokens]⟩
  | .bool true => by
      have htext : ∀ d ∈ "true".toList, good d := hgood.of_subset (forall_mem_of_all (by decide))
      exact iff_of_true htext ⟨by simp [characters], by simp [tokens]⟩
  | .bool false => by
      have htext : ∀ d ∈ "false".toList, good d := hgood.of_subset (forall_mem_of_all (by decide))
      exact iff_of_true htext ⟨by simp [characters], by simp [tokens]⟩
  | .number token => by simp [print, characters, tokens]
  | .string text => by simp [print, characters, tokens, forall_mem_printString hgood]
  | .array items => by
      have hopen : good '[' := hgood.fixed _ (by decide)
      have hclose : good ']' := hgood.fixed _ (by decide)
      cases items with
      | nil => simp [print, characters, charactersItems, tokens, tokensItems, hopen, hclose]
      | cons item items =>
          have hitem := forall_mem_print hgood item
          have hitems := forall_mem_printItems hgood items
          simp only [print, List.cons_append, List.forall_mem_cons, List.forall_mem_append, hopen,
            hclose, true_and, hitem, hitems, characters, charactersItems, tokens, tokensItems]
          tauto
  | .object members => by
      have hopen : good '{' := hgood.fixed _ (by decide)
      have hclose : good '}' := hgood.fixed _ (by decide)
      cases members with
      | nil => simp [print, characters, charactersMembers, tokens, tokensMembers, hopen, hclose]
      | cons member members =>
          obtain ⟨key, value⟩ := member
          have hvalue := forall_mem_print hgood value
          have hmembers := forall_mem_printMembers hgood members
          have hseparator := hgood.keySeparator
          simp only [print, List.cons_append, List.forall_mem_cons, List.forall_mem_append, hopen,
            hclose, true_and, forall_mem_printString hgood, hvalue, hmembers, characters,
            charactersMembers, tokens, tokensMembers]
          tauto

theorem forall_mem_printItems (hgood : GoodSeparators style good) : ∀ items : List Json,
    (∀ d ∈ printItems style items, good d) ↔
      (∀ c ∈ charactersItems items, ∀ d ∈ style.escape c, good d) ∧
        ∀ token ∈ tokensItems items, ∀ d ∈ token.text, good d
  | [] => by simp [printItems, charactersItems, tokensItems]
  | item :: items => by
      have hitem := forall_mem_print hgood item
      have hitems := forall_mem_printItems hgood items
      have hseparator := hgood.itemSeparator
      simp only [printItems, List.forall_mem_append, hitem, hitems, charactersItems, tokensItems]
      tauto

theorem forall_mem_printMembers (hgood : GoodSeparators style good) :
    ∀ members : List (String × Json),
    (∀ d ∈ printMembers style members, good d) ↔
      (∀ c ∈ charactersMembers members, ∀ d ∈ style.escape c, good d) ∧
        ∀ token ∈ tokensMembers members, ∀ d ∈ token.text, good d
  | [] => by simp [printMembers, charactersMembers, tokensMembers]
  | (key, value) :: members => by
      have hvalue := forall_mem_print hgood value
      have hmembers := forall_mem_printMembers hgood members
      have hitem := hgood.itemSeparator
      have hseparator := hgood.keySeparator
      simp only [printMembers, List.forall_mem_append, forall_mem_printString hgood, hvalue,
        hmembers, charactersMembers, tokensMembers]
      tauto

end

end Occurs

end Json

/-! ## Decoded values -/

namespace PyValue

variable {floatText : PyFloat → JsonNumber}

mutual

/-- The characters of all keys and strings. -/
def characters : PyValue → List Char
  | .str text => text.toList
  | .list items => charactersItems items
  | .dict items => charactersMembers items
  | _ => []

def charactersItems : List PyValue → List Char
  | [] => []
  | item :: items => characters item ++ charactersItems items

def charactersMembers : List (String × PyValue) → List Char
  | [] => []
  | (key, value) :: items => key.toList ++ characters value ++ charactersMembers items

end

theorem mem_charactersItems {items : List PyValue} {c : Char} :
    c ∈ charactersItems items ↔ ∃ item ∈ items, c ∈ item.characters := by
  induction items with
  | nil => simp [charactersItems]
  | cons item items ih => simp [charactersItems, ih]

theorem mem_charactersMembers {items : List (String × PyValue)} {c : Char} :
    c ∈ charactersMembers items ↔ ∃ item ∈ items, c ∈ item.1.toList ∨ c ∈ item.2.characters := by
  induction items with
  | nil => simp [charactersMembers]
  | cons item items ih =>
      obtain ⟨key, value⟩ := item
      simp [charactersMembers, ih, or_assoc]

theorem mem_characters_list {items : List PyValue} {c : Char} :
    c ∈ (PyValue.list items).characters ↔ ∃ item ∈ items, c ∈ item.characters := by
  rw [characters, mem_charactersItems]

theorem mem_characters_dict {items : List (String × PyValue)} {c : Char} :
    c ∈ (PyValue.dict items).characters ↔
      ∃ item ∈ items, c ∈ item.1.toList ∨ c ∈ item.2.characters := by
  rw [characters, mem_charactersMembers]

mutual

theorem characters_toJson : ∀ value : PyValue,
    (toJson floatText value).characters = value.characters
  | .none => rfl
  | .bool _ => rfl
  | .int _ => rfl
  | .float _ => rfl
  | .str _ => rfl
  | .list items => charactersItems_toJson items
  | .dict items => charactersMembers_toJson items

theorem charactersItems_toJson : ∀ items : List PyValue,
    Json.charactersItems (toJsonItems floatText items) = charactersItems items
  | [] => rfl
  | item :: items => by
      rw [toJsonItems, Json.charactersItems, characters_toJson item, charactersItems_toJson items,
        charactersItems]

theorem charactersMembers_toJson : ∀ items : List (String × PyValue),
    Json.charactersMembers (toJsonMembers floatText items) = charactersMembers items
  | [] => rfl
  | (key, value) :: items => by
      rw [toJsonMembers, Json.charactersMembers, characters_toJson value,
        charactersMembers_toJson items, charactersMembers]

end

/-! ## Integers -/

mutual

/-- The integers that occur. -/
def integers : PyValue → List ℤ
  | .int n => [n]
  | .list items => integersItems items
  | .dict items => integersMembers items
  | _ => []

def integersItems : List PyValue → List ℤ
  | [] => []
  | item :: items => integers item ++ integersItems items

def integersMembers : List (String × PyValue) → List ℤ
  | [] => []
  | (_, value) :: items => integers value ++ integersMembers items

end

mutual

/-- Values without floats are printed alike whatever the texts of floats. -/
theorem toJson_of_integral (other : PyFloat → JsonNumber) : ∀ {value : PyValue},
    value.Integral → toJson floatText value = toJson other value
  | .none, _ => rfl
  | .bool _, _ => rfl
  | .int _, _ => rfl
  | .str _, _ => rfl
  | .list _, hvalue => by rw [toJson, toJson, toJsonItems_of_integral other hvalue]
  | .dict _, hvalue => by rw [toJson, toJson, toJsonMembers_of_integral other hvalue]

theorem toJsonItems_of_integral (other : PyFloat → JsonNumber) : ∀ {items : List PyValue},
    IntegralItems items → toJsonItems floatText items = toJsonItems other items
  | [], _ => rfl
  | item :: items, ⟨hitem, hitems⟩ => by
      rw [toJsonItems, toJsonItems, toJson_of_integral other hitem,
        toJsonItems_of_integral other hitems]

theorem toJsonMembers_of_integral (other : PyFloat → JsonNumber) :
    ∀ {items : List (String × PyValue)},
      IntegralMembers items → toJsonMembers floatText items = toJsonMembers other items
  | [], _ => rfl
  | (key, value) :: items, ⟨hvalue, hitems⟩ => by
      rw [toJsonMembers, toJsonMembers, toJson_of_integral other hvalue,
        toJsonMembers_of_integral other hitems]

end

/-- A number that is printed for an integer or for a float. -/
def IsToken (floatText : PyFloat → JsonNumber) (token : JsonNumber) : Prop :=
  (∃ n, token = .ofInt n) ∨ ∃ value, token = floatText value

mutual

theorem tokens_toJson : ∀ value : PyValue,
    ∀ token ∈ (toJson floatText value).tokens, IsToken floatText token
  | .none => by simp [toJson, Json.tokens]
  | .bool _ => by simp [toJson, Json.tokens]
  | .int n => by simp [toJson, Json.tokens, IsToken]
  | .float value => by simp [toJson, Json.tokens, IsToken]
  | .str _ => by simp [toJson, Json.tokens]
  | .list items => tokensItems_toJson items
  | .dict items => tokensMembers_toJson items

theorem tokensItems_toJson : ∀ items : List PyValue,
    ∀ token ∈ Json.tokensItems (toJsonItems floatText items), IsToken floatText token
  | [] => by simp [toJsonItems, Json.tokensItems]
  | item :: items =>
      List.forall_mem_append.mpr ⟨tokens_toJson item, tokensItems_toJson items⟩

theorem tokensMembers_toJson : ∀ items : List (String × PyValue),
    ∀ token ∈ Json.tokensMembers (toJsonMembers floatText items), IsToken floatText token
  | [] => by simp [toJsonMembers, Json.tokensMembers]
  | (_, value) :: items =>
      List.forall_mem_append.mpr ⟨tokens_toJson value, tokensMembers_toJson items⟩

end

end PyValue

end PaybondKit
