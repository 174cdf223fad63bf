import PaybondKit.Foundation.EcmaNumber
import PaybondKit.Foundation.JsonCharacters
import PaybondKit.Foundation.MappingOrder
import PaybondKit.Foundation.Utf16

/-!
# RFC 8785

The canonical form of a JSON value without fractions: members are sorted by the code units of
their keys, strings and numbers are printed as ECMAScript prints them, and nothing is printed
between the tokens. A form that is sorted by characters and keeps the digits of an integer is
canonical exactly when no two keys of one object cross and the integers are the shortest.
-/

namespace PaybondKit

/-! ## The form -/

/-- The characters with an escape of one letter. -/
def ecmaEscapes : List (ℕ × Char) :=
  [(0x08, 'b'), (0x09, 't'), (0x0a, 'n'), (0x0c, 'f'), (0x0d, 'r'), (0x22, '"'), (0x5c, '\\')]

/-- `QuoteJSONString`, of a character. -/
def ecmaEscape (c : Char) : List Char :=
  match ecmaEscapes.lookup c.toNat with
  | some letter => ['\\', letter]
  | none => if c.toNat < 0x20 then unicodeEscape c.toNat else [c]

def jcsStyle : JsonStyle where
  itemSeparator := [',']
  keySeparator := [':']
  escape := ecmaEscape

mutual

/-- The canonical form of a value without floats, unless an integer of it is read as infinity. -/
def jcsForm : PyValue → Option Json
  | .none => some .null
  | .bool value => some (.bool value)
  | .int value => (ecmaNumber value).map .number
  | .float _ => none
  | .str text => some (.string text)
  | .list items => (jcsItems items).map .array
  | .dict items => (jcsMembers items).map fun members => .object (sortByCodeUnits members)

def jcsItems : List PyValue → Option (List Json)
  | [] => some []
  | item :: items => do return (← jcsForm item) :: (← jcsItems items)

def jcsMembers : List (String × PyValue) → Option (List (String × Json))
  | [] => some []
  | (key, value) :: items => do return (key, ← jcsForm value) :: (← jcsMembers items)

end

def rfc8785Bytes (value : PyValue) : Option ByteArray :=
  (jcsForm value).map (jsonDumpsBytes jcsStyle)

/-! ## Objects -/

namespace PyValue

mutual

/-- The objects that occur. -/
def objects : PyValue → List (List (String × PyValue))
  | .list items => objectsItems items
  | .dict items => items :: objectsMembers items
  | _ => []

def objectsItems : List PyValue → List (List (String × PyValue))
  | [] => []
  | item :: items => objects item ++ objectsItems items

def objectsMembers : List (String × PyValue) → List (List (String × PyValue))
  | [] => []
  | (_, value) :: items => objects value ++ objectsMembers items

end

end PyValue

/-- No two keys of an object cross. -/
def KeysAgree (members : List (String × PyValue)) : Prop :=
  ∀ first ∈ members, ∀ second ∈ members, ¬Crossing first.1 second.1

/-- The objects and integers have the same text in both forms. -/
structure Agreeing (objects : List (List (String × PyValue))) (integers : List ℤ) : Prop where
  keys : ∀ members ∈ objects, KeysAgree members
  integers : ∀ n ∈ integers, ShortestInteger n.natAbs

theorem agreeing_nil : Agreeing [] [] :=
  ⟨fun _ hnil => absurd hnil List.not_mem_nil, fun _ hnil => absurd hnil List.not_mem_nil⟩

theorem agreeing_append {objects objects' : List (List (String × PyValue))}
    {integers integers' : List ℤ} :
    Agreeing (objects ++ objects') (integers ++ integers') ↔
      Agreeing objects integers ∧ Agreeing objects' integers' := by
  constructor
  · rintro ⟨hkeys, hintegers⟩
    obtain ⟨hkeys, hkeys'⟩ := List.forall_mem_append.mp hkeys
    obtain ⟨hintegers, hintegers'⟩ := List.forall_mem_append.mp hintegers
    exact ⟨⟨hkeys, hintegers⟩, ⟨hkeys', hintegers'⟩⟩
  · rintro ⟨⟨hkeys, hintegers⟩, ⟨hkeys', hintegers'⟩⟩
    exact ⟨List.forall_mem_append.mpr ⟨hkeys, hkeys'⟩,
      List.forall_mem_append.mpr ⟨hintegers, hintegers'⟩⟩

theorem agreeing_cons {members : List (String × PyValue)}
    {objects : List (List (String × PyValue))} {integers : List ℤ} :
    Agreeing (members :: objects) integers ↔ KeysAgree members ∧ Agreeing objects integers := by
  constructor
  · rintro ⟨hkeys, hintegers⟩
    obtain ⟨hmembers, hkeys⟩ := List.forall_mem_cons.mp hkeys
    exact ⟨hmembers, hkeys, hintegers⟩
  · rintro ⟨hmembers, hkeys, hintegers⟩
    exact ⟨List.forall_mem_cons.mpr ⟨hmembers, hkeys⟩, hintegers⟩

/-! ## Sorting by characters -/

section Sorted

variable (floatText : PyFloat → JsonNumber)

mutual

/-- The form with sorted keys that keeps the digits of an integer. -/
def sortedForm : PyValue → Json
  | .none => .null
  | .bool value => .bool value
  | .int value => .number (.ofInt value)
  | .float value => .number (floatText value)
  | .str text => .string text
  | .list items => .array (sortedItems items)
  | .dict items => .object (sortByCharacters (sortedMembers items))

def sortedItems : List PyValue → List Json
  | [] => []
  | item :: items => sortedForm item :: sortedItems items

def sortedMembers : List (String × PyValue) → List (String × Json)
  | [] => []
  | (key, value) :: items => (key, sortedForm value) :: sortedMembers items

end

variable {floatText}

theorem sortedMembers_keys (items : List (String × PyValue)) :
    (sortedMembers floatText items).map Prod.fst = items.map Prod.fst := by
  induction items with
  | nil => rfl
  | cons item items ih => rw [sortedMembers, List.map_cons, List.map_cons, ih]

theorem jcsMembers_keys {items : List (String × PyValue)} {members : List (String × Json)}
    (hmembers : jcsMembers items = some members) :
    members.map Prod.fst = items.map Prod.fst := by
  induction items generalizing members with
  | nil =>
      obtain rfl := Option.some.inj hmembers
      rfl
  | cons item items ih =>
      simp only [jcsMembers, Option.bind_eq_bind, Option.bind_eq_some_iff, Option.pure_def,
        Option.some.injEq] at hmembers
      obtain ⟨json, -, rest, hrest, rfl⟩ := hmembers
      rw [List.map_cons, List.map_cons, ih hrest]

/-- Members under the same distinct keys, in the same order, are rearranged only to themselves. -/
theorem eq_of_perm_of_keys {α : Type} {members others : List (String × α)}
    (hperm : members.Perm others) (hkeys : members.map Prod.fst = others.map Prod.fst)
    (hnodup : (members.map Prod.fst).Nodup) : members = others := by
  induction members generalizing others with
  | nil => exact (List.nil_perm.mp hperm).symm
  | cons member members ih =>
      cases others with
      | nil => cases hkeys
      | cons other others =>
          obtain ⟨hkey, hrestKeys⟩ := List.cons.inj hkeys
          have hmem : member ∈ other :: others := hperm.mem_iff.mp List.mem_cons_self
          have hsame : member = other := by
            refine List.inj_on_of_nodup_map ?_ hmem List.mem_cons_self hkey
            exact (hperm.map Prod.fst).nodup_iff.mp hnodup
          rw [← hsame] at hperm ⊢
          have hrest := (List.perm_cons member).mp hperm
          have hnodup' : (members.map Prod.fst).Nodup := (List.nodup_cons.mp hnodup).2
          rw [ih hrest hrestKeys hnodup']

theorem sorted_members_iff {items : List (String × PyValue)}
    (hnodup : (items.map Prod.fst).Nodup) :
    jcsForm (.dict items) = some (sortedForm floatText (.dict items)) ↔
      jcsMembers items = some (sortedMembers floatText items) ∧ KeysAgree items := by
  have hkeys := @sortedMembers_keys floatText items
  have hnodup' : ((sortedMembers floatText items).map Prod.fst).Nodup := by rwa [hkeys]
  have hagree : KeysAgree items ↔ ∀ first ∈ sortedMembers floatText items,
      ∀ second ∈ sortedMembers floatText items, ¬Crossing first.1 second.1 := by
    have hmem : ∀ P : String → Prop, (∀ member ∈ sortedMembers floatText items, P member.1) ↔
        ∀ item ∈ items, P item.1 := by
      intro P
      have hall := congrArg (fun keys => ∀ key ∈ keys, P key) hkeys
      simpa only [List.forall_mem_map] using Iff.of_eq hall
    unfold KeysAgree
    rw [hmem fun key => ∀ second ∈ sortedMembers floatText items, ¬Crossing key second.1]
    exact forall₂_congr fun item _ => (hmem fun key => ¬Crossing item.1 key).symm
  rw [hagree, ← sortByCodeUnits_eq_iff hnodup']
  simp only [jcsForm, sortedForm, Option.map_eq_some_iff, Json.object.injEq]
  constructor
  · rintro ⟨members, hmembers, hsorted⟩
    have hperm : members.Perm (sortedMembers floatText items) := by
      have hunits := (sortByCodeUnits_perm members).symm
      rw [hsorted] at hunits
      exact hunits.trans (sortByCharacters_perm _)
    have hmembersKeys := jcsMembers_keys hmembers
    have hsame : members = sortedMembers floatText items := by
      refine eq_of_perm_of_keys hperm (hmembersKeys.trans hkeys.symm) ?_
      rwa [hmembersKeys]
    subst hsame
    exact ⟨hmembers, hsorted⟩
  · rintro ⟨hmembers, hsorted⟩
    exact ⟨_, hmembers, hsorted⟩

mutual

/-- A form that is sorted by characters is canonical when the orders agree and the integers are
the shortest. -/
theorem jcsForm_eq_iff : ∀ {value : PyValue}, value.Distinct → value.Integral →
    (jcsForm value = some (sortedForm floatText value) ↔ Agreeing value.objects value.integers)
  | .none, _, _ => iff_of_true rfl agreeing_nil
  | .bool _, _, _ => iff_of_true rfl agreeing_nil
  | .str _, _, _ => iff_of_true rfl agreeing_nil
  | .int n, _, _ => by
      have hnumber := @ecmaNumber_eq_ofInt_iff n
      simp only [jcsForm, sortedForm, Option.map_eq_some_iff, Json.number.injEq, exists_eq_right,
        hnumber]
      constructor
      · intro hshortest
        exact ⟨agreeing_nil.keys, by simpa [PyValue.integers] using hshortest⟩
      · intro hagree
        exact hagree.integers n (by simp [PyValue.integers])
  | .list items, hdistinct, hintegral => by
      have hitems := jcsItems_eq_iff (PyValue.distinctItems_iff.mp hdistinct) hintegral
      simp only [jcsForm, sortedForm, Option.map_eq_some_iff, Json.array.injEq, exists_eq_right]
      exact hitems
  | .dict items, hdistinct, hintegral => by
      obtain ⟨hnodup, hmembers⟩ := PyValue.distinct_dict.mp hdistinct
      rw [sorted_members_iff hnodup, jcsMembers_eq_iff hmembers hintegral, and_comm]
      exact agreeing_cons.symm

theorem jcsItems_eq_iff : ∀ {items : List PyValue}, (∀ item ∈ items, item.Distinct) →
    PyValue.IntegralItems items →
    (jcsItems items = some (sortedItems floatText items) ↔
      Agreeing (PyValue.objectsItems items) (PyValue.integersItems items))
  | [], _, _ => iff_of_true rfl agreeing_nil
  | item :: items, hdistinct, ⟨hintegral, hintegrals⟩ => by
      obtain ⟨hitem, hitems⟩ := List.forall_mem_cons.mp hdistinct
      rw [PyValue.objectsItems, PyValue.integersItems, agreeing_append,
        ← jcsForm_eq_iff hitem hintegral, ← jcsItems_eq_iff hitems hintegrals]
      simp [jcsItems, sortedItems, Option.bind_eq_some_iff]

theorem jcsMembers_eq_iff : ∀ {items : List (String × PyValue)},
    (∀ item ∈ items, item.2.Distinct) → PyValue.IntegralMembers items →
    (jcsMembers items = some (sortedMembers floatText items) ↔
      Agreeing (PyValue.objectsMembers items) (PyValue.integersMembers items))
  | [], _, _ => iff_of_true rfl agreeing_nil
  | (key, value) :: items, hdistinct, ⟨hintegral, hintegrals⟩ => by
      obtain ⟨hvalue, hitems⟩ := List.forall_mem_cons.mp hdistinct
      rw [PyValue.objectsMembers, PyValue.integersMembers, agreeing_append,
        ← jcsForm_eq_iff hvalue hintegral, ← jcsMembers_eq_iff hitems hintegrals]
      simp [jcsMembers, sortedMembers, Option.bind_eq_some_iff]

end

/-! ## Bytes -/

/-- ECMAScript escapes the characters that Python does. -/
theorem ecmaEscape_eq (c : Char) : ecmaEscape c = escapeControl c := by
  have hletter : ecmaEscapes.lookup c.toNat = shortEscape c := by
    by_cases hascii : c.toNat < 0x80
    · have hall : ∀ n < 0x80, ecmaEscapes.lookup n = shortEscape (Char.ofNat n) := by decide
      rw [hall _ hascii, Char.ofNat_toNat]
    · have hlookup : ecmaEscapes.lookup c.toNat = none := by
        rw [List.lookup_eq_none_iff]
        intro escape hescape
        have hlow : ∀ escape ∈ ecmaEscapes, escape.1 < 0x80 := by decide
        have hbound := hlow escape hescape
        exact bne_iff_ne.mpr (by omega)
      have hshort : shortEscape c = none := by
        rw [shortEscape, Option.map_eq_none_iff, List.find?_eq_none]
        intro escape hescape hsame
        have hlow : ∀ escape ∈ shortEscapes, escape.1.toNat < 0x80 := by decide
        rw [← of_decide_eq_true hsame] at hascii
        exact hascii (hlow escape hescape)
      rw [hlookup, hshort]
  unfold ecmaEscape escapeControl
  cases hshort : shortEscape c <;> simp only [hletter, hshort]

theorem print_jcsStyle (json : Json) : json.print jcsStyle = json.print compactStyle :=
  @Json.print_congr jcsStyle compactStyle ⟨rfl, rfl⟩ json fun c _ => ecmaEscape_eq c

/-- The bytes of the sorted form are those of the standard exactly when the orders agree and the
integers are the shortest. -/
theorem rfc8785Bytes_eq_iff {value : PyValue} (hdistinct : value.Distinct)
    (hintegral : value.Integral) :
    rfc8785Bytes value = some (jsonDumpsBytes compactStyle (sortedForm floatText value)) ↔
      Agreeing value.objects value.integers := by
  have hdumps : jsonDumpsBytes jcsStyle = jsonDumpsBytes compactStyle := by
    funext json
    rw [jsonDumpsBytes, print_jcsStyle, jsonDumpsBytes]
  rw [← @jcsForm_eq_iff floatText value hdistinct hintegral, rfc8785Bytes, hdumps,
    Option.map_eq_some_iff]
  constructor
  · rintro ⟨json, hjson, hbytes⟩
    rw [hjson, jsonDumpsBytes_injective hbytes]
  · intro hform
    exact ⟨_, hform, rfl⟩

end Sorted

end PaybondKit
