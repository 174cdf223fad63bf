import PaybondKit.Foundation.CodeOrder
import PaybondKit.Foundation.JsonCharacters
import PaybondKit.Foundation.JsonLoads
import PaybondKit.Receipt.JsonDigest

/-!
# The JSON digest of the native extension

`serde_json` keeps the entries of an object in the order of the UTF-8 bytes of their keys. The
text that the extension hashes is the one that the Python module hashes for the same value.
-/

namespace PaybondKit.Native

/-- `serde_json::Value`. An object has its entries in the order of its map. -/
abbrev Value := PyValue

/-- `Map::insert`, of a `BTreeMap`. -/
def mapInsert (key : String) (value : Value) : List (String × Value) → List (String × Value)
  | [] => [(key, value)]
  | (other, stored) :: entries =>
      if utf8Bytes key < utf8Bytes other then (key, value) :: (other, stored) :: entries
      else if key = other then (key, value) :: entries
      else (other, stored) :: mapInsert key value entries

/-- `keys.sort()`. -/
def sortKeys (keys : List String) : List String :=
  keys.mergeSort fun first second => decide (utf8Bytes first ≤ utf8Bytes second)

/-- The entries are inserted into a new map in the order of the sorted keys. -/
def normalizeObject (entries : List (String × Value)) : List (String × Value) :=
  (sortKeys (entries.map Prod.fst)).foldl
    (fun out key =>
      match entries.lookup key with
      | some value => mapInsert key value out
      | none => out)
    []

mutual

def normalizeJson : Value → Value
  | .dict entries => .dict (normalizeObject (normalizeEntries entries))
  | .list items => .list (normalizeItems items)
  | value => value

def normalizeItems : List Value → List Value
  | [] => []
  | item :: items => normalizeJson item :: normalizeItems items

def normalizeEntries : List (String × Value) → List (String × Value)
  | [] => []
  | (key, value) :: entries => (key, normalizeJson value) :: normalizeEntries entries

end

mutual

/-- The value that a JSON text is read to. A later entry replaces an earlier one. -/
def load : PyValue → Value
  | .list items => .list (loadItems items)
  | .dict items => .dict (loadEntries items [])
  | value => value

def loadItems : List PyValue → List Value
  | [] => []
  | item :: items => load item :: loadItems items

def loadEntries : List (String × PyValue) → List (String × Value) → List (String × Value)
  | [], out => out
  | (key, value) :: items, out => loadEntries items (mapInsert key (load value) out)

end

/-! ## Texts -/

/-- The escapes that `serde_json` writes. -/
def serdeEscape (c : Char) : List Char :=
  match c with
  | '"' => ['\\', '"']
  | '\\' => ['\\', '\\']
  | '\x08' => ['\\', 'b']
  | '\x0c' => ['\\', 'f']
  | '\n' => ['\\', 'n']
  | '\r' => ['\\', 'r']
  | '\t' => ['\\', 't']
  | c =>
      if c.toNat < 0x20 then
        ['\\', 'u', '0', '0', Nat.digitChar (c.toNat / 16), Nat.digitChar (c.toNat % 16)]
      else [c]

def serdeStyle : JsonStyle where
  itemSeparator := [',']
  keySeparator := [':']
  escape := serdeEscape

/-- A value that was read. The keys of a map are distinct. -/
abbrev JsonDoc := { value : Value // value.Distinct }

/-- What is used of `serde_json`. -/
structure SerdeJson where
  fromStr : String → Except String JsonDoc
  toString : Value → Except String String
  floatText : PyFloat → JsonNumber

/-- The styles in which Python prints a value for the extension. -/
def pythonStyles : List JsonStyle := [defaultStyle, compactStyle, Policy.asciiCompactStyle]

/-- `json.dumps(value)`. -/
def dumps (floatText : PyFloat → JsonNumber) (style : JsonStyle) (value : PyValue) : String :=
  String.ofList ((value.toJson floatText).print style)

/-- An integer of `serde_json`, in `i64` or in `u64`. -/
def MachineInt (n : ℤ) : Prop := -2 ^ 63 ≤ n ∧ n < 2 ^ 64

/-- A JSON value with integers of the machine only. -/
structure MachineValue (value : PyValue) : Prop where
  distinct : value.Distinct
  integral : value.Integral
  integers : ∀ n ∈ value.integers, MachineInt n

/-- Values are printed compactly, in the order of their maps. -/
structure SerdeJson.Prints (serde : SerdeJson) : Prop where
  toString_eq : ∀ value,
    serde.toString value = .ok (String.ofList ((value.toJson serde.floatText).print serdeStyle))

/-- What is accepted of a text is the value that was printed; a text that is nested too deeply is
not accepted. -/
structure SerdeJson.Laws (serde : SerdeJson) (floatText : PyFloat → JsonNumber) : Prop
    extends serde.Prints where
  fromStr_dumps : ∀ style ∈ pythonStyles, ∀ value parsed, MachineValue value →
    serde.fromStr (dumps floatText style value) = .ok parsed → parsed.val = load value

/-- `serde_json::to_string(&normalized).unwrap_or_default()`. -/
def digestText (serde : SerdeJson) (value : Value) : String :=
  match serde.toString (normalizeJson value) with
  | .ok text => text
  | .error _ => ""

/-- The text that the Python module hashes. -/
def pyDigestText (floatText : PyFloat → JsonNumber) (value : PyValue) : String :=
  dumps floatText compactStyle (Policy.canonicalizeJson value)

/-! ## Escapes -/

theorem serdeEscape_eq (c : Char) : serdeEscape c = escapeControl c := by
  unfold serdeEscape
  split
  · rfl
  · rfl
  · rfl
  · rfl
  · rfl
  · rfl
  · rfl
  next other hquote hslash hback hfeed hline hreturn htab =>
    have hshort : shortEscape c = none := by
      rw [shortEscape, Option.map_eq_none_iff, List.find?_eq_none]
      intro escape hescape hsame
      have hc : c = escape.1 := (of_decide_eq_true hsame).symm
      simp only [shortEscapes, List.mem_cons, List.not_mem_nil, or_false] at hescape
      rcases hescape with rfl | rfl | rfl | rfl | rfl | rfl | rfl
      exacts [hquote hc, hslash hc, hline hc, hreturn hc, htab hc, hfeed hc, hback hc]
    unfold escapeControl
    rw [hshort]
    dsimp only
    by_cases hcontrol : c.toNat < 0x20
    · have hdigits : ∀ n < 0x20,
          ['\\', 'u', '0', '0', Nat.digitChar (n / 16), Nat.digitChar (n % 16)] =
            unicodeEscape n := by
        decide
      rw [if_pos hcontrol, if_pos hcontrol, hdigits _ hcontrol]
    · rw [if_neg hcontrol, if_neg hcontrol]

/-! ## Sorted entries -/

theorem decide_utf8Bytes_le (first second : String) :
    decide (utf8Bytes first ≤ utf8Bytes second) = decide (first ≤ second) :=
  decide_eq_decide.mpr utf8Bytes_le_iff

theorem mapInsert_perm {key : String} {value : Value} {entries : List (String × Value)}
    (hfresh : key ∉ entries.map Prod.fst) :
    (mapInsert key value entries).Perm ((key, value) :: entries) := by
  induction entries with
  | nil => exact .rfl
  | cons entry entries ih =>
      obtain ⟨other, stored⟩ := entry
      simp only [List.map_cons, List.mem_cons, not_or] at hfresh
      unfold mapInsert
      split
      next => exact .rfl
      next =>
        rw [if_neg hfresh.1]
        exact ((ih hfresh.2).cons _).trans (.swap _ _ _)

/-- Entries are sorted by their keys. -/
abbrev SortedEntries (entries : List (String × Value)) : Prop :=
  entries.Pairwise fun first second => first.1 ≤ second.1

theorem mapInsert_sorted {key : String} {value : Value} {entries : List (String × Value)}
    (hfresh : key ∉ entries.map Prod.fst) (hsorted : SortedEntries entries) :
    SortedEntries (mapInsert key value entries) := by
  induction entries with
  | nil => exact List.pairwise_singleton _ _
  | cons entry entries ih =>
      obtain ⟨other, stored⟩ := entry
      obtain ⟨hfirst, hrest⟩ := List.pairwise_cons.mp hsorted
      simp only [List.map_cons, List.mem_cons, not_or] at hfresh
      unfold mapInsert
      split
      next hlt =>
        have hle : key ≤ other := List.lt_asymm (utf8Bytes_lt_iff.mp hlt)
        refine List.pairwise_cons.mpr ⟨?_, hsorted⟩
        intro entry hentry
        rcases List.mem_cons.mp hentry with rfl | hentry
        · exact hle
        · exact String.le_trans hle (hfirst entry hentry)
      next hlt =>
        rw [if_neg hfresh.1]
        have hle : other ≤ key := utf8Bytes_le_iff.mp hlt
        refine List.pairwise_cons.mpr ⟨?_, ih hfresh.2 hrest⟩
        intro entry hentry
        rcases List.mem_cons.mp ((mapInsert_perm hfresh.2).mem_iff.mp hentry) with rfl | hentry
        · exact hle
        · exact hfirst entry hentry

theorem sortMembers_of_sorted {entries others : List (String × Value)}
    (hnodup : (entries.map Prod.fst).Nodup) (hsorted : SortedEntries entries)
    (hperm : entries.Perm others) : entries = Policy.sortMembers others := by
  rw [← (Policy.sortMembers_eq_iff hnodup).mpr hperm, Policy.sortMembers]
  exact (List.mergeSort_of_pairwise (hsorted.imp fun hle => decide_eq_true hle)).symm

/-- Entries with distinct keys are sorted by inserting them. -/
theorem foldl_mapInsert {entries : List (String × Value)}
    (hnodup : (entries.map Prod.fst).Nodup) :
    entries.foldl (fun out entry => mapInsert entry.1 entry.2 out) [] =
      Policy.sortMembers entries := by
  have hrun : ∀ (entries out : List (String × Value)),
      ((entries ++ out).map Prod.fst).Nodup → SortedEntries out →
        (entries.foldl (fun out entry => mapInsert entry.1 entry.2 out) out).Perm (entries ++ out) ∧
          SortedEntries (entries.foldl (fun out entry => mapInsert entry.1 entry.2 out) out) := by
    intro entries
    induction entries with
    | nil => exact fun out _ hsorted => ⟨.rfl, hsorted⟩
    | cons entry entries ih =>
        intro out hnodup hsorted
        obtain ⟨hfresh, hrest⟩ := List.nodup_cons.mp hnodup
        have hout : entry.1 ∉ out.map Prod.fst := by
          intro hmem
          obtain ⟨stored, hstored, hkey⟩ := List.mem_map.mp hmem
          exact hfresh (List.mem_map.mpr ⟨stored, List.mem_append_right _ hstored, hkey⟩)
        have hinsert := @mapInsert_perm _ entry.2 _ hout
        have hmoved := (hinsert.append_left entries).trans List.perm_middle
        obtain ⟨hperm, hsorted'⟩ := ih (mapInsert entry.1 entry.2 out)
          (((hmoved.map Prod.fst).nodup_iff).mpr hnodup) (mapInsert_sorted hout hsorted)
        exact ⟨hperm.trans hmoved, hsorted'⟩
  obtain ⟨hperm, hsorted⟩ := hrun entries [] (by rwa [List.append_nil]) List.Pairwise.nil
  rw [List.append_nil] at hperm
  exact sortMembers_of_sorted ((hperm.map Prod.fst).nodup_iff.mpr hnodup) hsorted hperm

/-! ## Normal forms -/

theorem lookup_of_mem {entries : List (String × Value)} (hnodup : (entries.map Prod.fst).Nodup)
    {entry : String × Value} (hentry : entry ∈ entries) :
    entries.lookup entry.1 = some entry.2 := by
  induction entries with
  | nil => cases hentry
  | cons first entries ih =>
      obtain ⟨hfresh, hrest⟩ := List.nodup_cons.mp hnodup
      rcases List.mem_cons.mp hentry with rfl | hentry
      · exact List.lookup_cons_self
      · have hne : entry.1 ≠ first.1 := by
          rintro hsame
          exact hfresh (hsame ▸ List.mem_map_of_mem hentry)
        rw [List.lookup_cons, beq_eq_false_iff_ne.mpr hne]
        exact ih hrest hentry

/-- Entries with distinct keys are sorted by normalizing the object. -/
theorem normalizeObject_eq {entries : List (String × Value)}
    (hnodup : (entries.map Prod.fst).Nodup) :
    normalizeObject entries = Policy.sortMembers entries := by
  have hkeys : sortKeys (entries.map Prod.fst) = (Policy.sortMembers entries).map Prod.fst := by
    rw [sortKeys, Policy.sortMembers]
    exact (List.map_mergeSort fun first _ second _ =>
      (decide_utf8Bytes_le first.1 second.1).symm).symm
  have hperm := Policy.sortMembers_perm entries
  have hsorted := (hperm.map Prod.fst).nodup_iff.mpr hnodup
  have hinsert : normalizeObject entries = (Policy.sortMembers entries).foldl
      (fun out entry => mapInsert entry.1 entry.2 out) [] := by
    rw [normalizeObject, hkeys, List.foldl_map]
    refine List.foldl_ext _ _ _ fun out entry hentry => ?_
    rw [lookup_of_mem hnodup (hperm.mem_iff.mp hentry)]
  rw [hinsert, foldl_mapInsert hsorted, (Policy.sortMembers_eq_iff hsorted).mpr hperm]

theorem normalizeEntries_eq (entries : List (String × Value)) :
    normalizeEntries entries = entries.map fun entry => (entry.1, normalizeJson entry.2) := by
  induction entries with
  | nil => rfl
  | cons entry entries ih => rw [normalizeEntries, ih, List.map_cons]

theorem normalizeItems_eq (items : List Value) : normalizeItems items = items.map normalizeJson := by
  induction items with
  | nil => rfl
  | cons item items ih => rw [normalizeItems, ih, List.map_cons]

/-- The two languages have one normal form. -/
theorem normalizeJson_eq {value : Value} (hvalue : value.Distinct) :
    normalizeJson value = Policy.canonicalizeJson value := by
  induction value using PyValue.treeInduction with
  | leaf leaf hleaf =>
      rw [Policy.canonicalizeJson_leaf hleaf]
      cases leaf <;> first | rfl | cases hleaf
  | list items ih =>
      rw [PyValue.Distinct, PyValue.distinctItems_iff] at hvalue
      rw [normalizeJson, Policy.canonicalizeJson, normalizeItems_eq, Policy.canonicalizeItems_eq]
      exact congrArg _ (List.map_congr_left fun item hitem => ih item hitem (hvalue item hitem))
  | dict items ih =>
      obtain ⟨hnodup, hvalues⟩ := PyValue.distinct_dict.mp hvalue
      have hentries : (items.map fun item => (item.1, normalizeJson item.2)) =
          items.map fun item => (item.1, Policy.canonicalizeJson item.2) :=
        List.map_congr_left fun item hitem => by rw [ih item hitem (hvalues item hitem)]
      rw [normalizeJson, Policy.canonicalizeJson_dict, normalizeEntries_eq, hentries,
        normalizeObject_eq]
      rw [List.map_map]
      exact hnodup

theorem loadEntries_eq (items : List (String × PyValue)) (out : List (String × Value)) :
    loadEntries items out = (items.map fun item => (item.1, load item.2)).foldl
      (fun out entry => mapInsert entry.1 entry.2 out) out := by
  induction items generalizing out with
  | nil => rfl
  | cons item items ih => rw [loadEntries, ih, List.map_cons, List.foldl_cons]

theorem loadItems_eq (items : List PyValue) : loadItems items = items.map load := by
  induction items with
  | nil => rfl
  | cons item items ih => rw [loadItems, ih, List.map_cons]

/-- A value is read in its normal form. -/
theorem load_eq {value : PyValue} (hvalue : value.Distinct) :
    load value = Policy.canonicalizeJson value := by
  induction value using PyValue.treeInduction with
  | leaf leaf hleaf =>
      rw [Policy.canonicalizeJson_leaf hleaf]
      cases leaf <;> first | rfl | cases hleaf
  | list items ih =>
      rw [PyValue.Distinct, PyValue.distinctItems_iff] at hvalue
      rw [load, Policy.canonicalizeJson, loadItems_eq, Policy.canonicalizeItems_eq]
      exact congrArg _ (List.map_congr_left fun item hitem => ih item hitem (hvalue item hitem))
  | dict items ih =>
      obtain ⟨hnodup, hvalues⟩ := PyValue.distinct_dict.mp hvalue
      have hentries : (items.map fun item => (item.1, load item.2)) =
          items.map fun item => (item.1, Policy.canonicalizeJson item.2) :=
        List.map_congr_left fun item hitem => by rw [ih item hitem (hvalues item hitem)]
      rw [load, Policy.canonicalizeJson_dict, loadEntries_eq, hentries, foldl_mapInsert]
      rw [List.map_map]
      exact hnodup

theorem distinct_canonicalizeJson {value : PyValue} (hvalue : value.Distinct) :
    (Policy.canonicalizeJson value).Distinct := by
  induction value using PyValue.treeInduction with
  | leaf leaf hleaf => rwa [Policy.canonicalizeJson_leaf hleaf]
  | list items ih =>
      rw [PyValue.Distinct, PyValue.distinctItems_iff] at hvalue
      rw [Policy.canonicalizeJson, Policy.canonicalizeItems_eq, PyValue.Distinct,
        PyValue.distinctItems_iff]
      intro canonical hcanonical
      obtain ⟨item, hitem, rfl⟩ := List.mem_map.mp hcanonical
      exact ih item hitem (hvalue item hitem)
  | dict items ih =>
      obtain ⟨hnodup, hvalues⟩ := PyValue.distinct_dict.mp hvalue
      have hperm := Policy.sortMembers_perm
        (items.map fun item => (item.1, Policy.canonicalizeJson item.2))
      rw [Policy.canonicalizeJson_dict, PyValue.distinct_dict]
      refine ⟨(hperm.map Prod.fst).nodup_iff.mpr ?_, ?_⟩
      · rw [List.map_map]
        exact hnodup
      · intro canonical hcanonical
        obtain ⟨item, hitem, rfl⟩ := List.mem_map.mp (hperm.mem_iff.mp hcanonical)
        exact ih item hitem (hvalues item hitem)

/-- A normal form is its own. -/
theorem canonicalizeJson_idem {value : PyValue} (hvalue : value.Distinct) :
    Policy.canonicalizeJson (Policy.canonicalizeJson value) = Policy.canonicalizeJson value := by
  induction value using PyValue.treeInduction with
  | leaf leaf hleaf => rw [Policy.canonicalizeJson_leaf hleaf, Policy.canonicalizeJson_leaf hleaf]
  | list items ih =>
      rw [PyValue.Distinct, PyValue.distinctItems_iff] at hvalue
      simp only [Policy.canonicalizeJson, Policy.canonicalizeItems_eq, List.map_map]
      exact congrArg _ (List.map_congr_left fun item hitem => ih item hitem (hvalue item hitem))
  | dict items ih =>
      obtain ⟨hnodup, hvalues⟩ := PyValue.distinct_dict.mp hvalue
      have hperm := Policy.sortMembers_perm
        (items.map fun item => (item.1, Policy.canonicalizeJson item.2))
      have hmap := hperm.map fun item => (item.1, Policy.canonicalizeJson item.2)
      have hsame : (items.map fun item => (item.1, Policy.canonicalizeJson item.2)).map
          (fun item => (item.1, Policy.canonicalizeJson item.2)) =
            items.map fun item => (item.1, Policy.canonicalizeJson item.2) := by
        rw [List.map_map]
        exact List.map_congr_left fun item hitem =>
          congrArg (Prod.mk item.1) (ih item hitem (hvalues item hitem))
      rw [hsame] at hmap
      rw [Policy.canonicalizeJson_dict, Policy.canonicalizeJson_dict, PyValue.dict.injEq]
      refine (Policy.sortMembers_eq_iff ?_).mpr hmap
      rw [(hmap.map Prod.fst).nodup_iff, List.map_map]
      exact hnodup

/-! ## Maps -/

/-- The entries of a map are strictly sorted. -/
abbrev StrictEntries (entries : List (String × Value)) : Prop :=
  entries.Pairwise fun first second => first.1 < second.1

theorem mem_mapInsert {key : String} {value : Value} {entries : List (String × Value)}
    {entry : String × Value} (hentry : entry ∈ mapInsert key value entries) :
    entry = (key, value) ∨ entry ∈ entries := by
  induction entries with
  | nil => exact .inl (List.mem_singleton.mp hentry)
  | cons first entries ih =>
      obtain ⟨other, stored⟩ := first
      unfold mapInsert at hentry
      split at hentry
      next => exact List.mem_cons.mp hentry
      next =>
        split at hentry
        next => exact (List.mem_cons.mp hentry).imp_right (List.mem_cons_of_mem _)
        next =>
          rcases List.mem_cons.mp hentry with rfl | hrest
          · exact .inr List.mem_cons_self
          · exact (ih hrest).imp_right (List.mem_cons_of_mem _)

theorem mapInsert_strict {key : String} {value : Value} {entries : List (String × Value)}
    (hstrict : StrictEntries entries) : StrictEntries (mapInsert key value entries) := by
  induction entries with
  | nil => exact List.pairwise_singleton _ _
  | cons first entries ih =>
      obtain ⟨other, stored⟩ := first
      obtain ⟨hfirst, hrest⟩ := List.pairwise_cons.mp hstrict
      unfold mapInsert
      split
      next hlt =>
        have hkey : key < other := utf8Bytes_lt_iff.mp hlt
        refine List.pairwise_cons.mpr ⟨?_, hstrict⟩
        intro entry hentry
        rcases List.mem_cons.mp hentry with rfl | hentry
        · exact hkey
        · exact String.lt_trans hkey (hfirst entry hentry)
      next hnot =>
        split
        next hsame =>
          subst hsame
          exact List.pairwise_cons.mpr ⟨hfirst, hrest⟩
        next hne =>
          have hkey : other < key := by
            by_contra hle
            exact hne (String.le_antisymm hle (utf8Bytes_le_iff.mp hnot))
          refine List.pairwise_cons.mpr ⟨?_, ih hrest⟩
          intro entry hentry
          rcases mem_mapInsert hentry with rfl | hentry
          · exact hkey
          · exact hfirst entry hentry

/-- Reading keeps the entries of a map strictly sorted. -/
theorem loadEntries_strict {items : List (String × PyValue)} {out : List (String × Value)}
    (hitems : ∀ item ∈ items, (load item.2).Distinct)
    (hout : StrictEntries out ∧ ∀ entry ∈ out, entry.2.Distinct) :
    StrictEntries (loadEntries items out) ∧ ∀ entry ∈ loadEntries items out, entry.2.Distinct := by
  induction items generalizing out with
  | nil => exact hout
  | cons item items ih =>
      obtain ⟨hitem, hrest⟩ := List.forall_mem_cons.mp hitems
      refine ih hrest ⟨mapInsert_strict hout.1, ?_⟩
      intro entry hentry
      rcases mem_mapInsert hentry with rfl | hentry
      · exact hitem
      · exact hout.2 entry hentry

theorem nodup_of_strict {entries : List (String × Value)} (hstrict : StrictEntries entries) :
    (entries.map Prod.fst).Nodup := by
  refine List.pairwise_map.mpr (hstrict.imp ?_)
  intro first second hlt hsame
  rw [hsame] at hlt
  exact String.lt_irrefl _ hlt

/-- What was read has distinct keys. -/
theorem distinct_load (value : PyValue) : (load value).Distinct := by
  induction value using PyValue.treeInduction with
  | leaf leaf hleaf => cases leaf <;> trivial
  | list items ih =>
      rw [load, loadItems_eq, PyValue.Distinct, PyValue.distinctItems_iff]
      intro loaded hloaded
      obtain ⟨item, hitem, rfl⟩ := List.mem_map.mp hloaded
      exact ih item hitem
  | dict items ih =>
      obtain ⟨hstrict, hvalues⟩ := loadEntries_strict ih
        ⟨List.Pairwise.nil, fun _ hnil => absurd hnil List.not_mem_nil⟩
      rw [load, PyValue.distinct_dict]
      exact ⟨nodup_of_strict hstrict, hvalues⟩

/-! ## One text in two languages -/

section Agree

variable {serde : SerdeJson} {floatText : PyFloat → JsonNumber}

theorem print_serdeStyle (json : Json) : json.print serdeStyle = json.print compactStyle := by
  have hseparators : Json.SameSeparators serdeStyle compactStyle := ⟨rfl, rfl⟩
  exact Json.print_congr hseparators json fun c _ => serdeEscape_eq c

/-- The extension hashes the normal form, printed in the compact style. -/
theorem digestText_eq (hprints : serde.Prints) {value : Value} (hvalue : value.Distinct) :
    digestText serde value =
      String.ofList (((Policy.canonicalizeJson value).toJson serde.floatText).print compactStyle) := by
  rw [digestText, normalizeJson_eq hvalue, hprints.toString_eq]
  exact congrArg String.ofList (print_serdeStyle _)

/-- Equal texts of the extension are texts of the same value. -/
theorem digestText_eq_iff (hprints : serde.Prints) (htexts : FloatTexts serde.floatText)
    {value other : Value} (hvalue : value.Distinct) (hother : other.Distinct) :
    digestText serde value = digestText serde other ↔ value.SameValue other := by
  rw [digestText_eq hprints hvalue, digestText_eq hprints hother,
    ← Policy.canonicalizeJson_eq_iff hvalue hother]
  constructor
  · intro htext
    exact PyValue.eq_of_toJson_eq htexts
      (Json.print_injective readable_compactStyle (String.ofList_injective htext))
  · intro hcanonical
    rw [hcanonical]

/-- A value that was read has the text of the value that was printed. -/
theorem digestText_load (hlaws : serde.Laws floatText) {value : PyValue} (hvalue : value.Distinct)
    (hintegral : value.Integral) : digestText serde (load value) = pyDigestText floatText value := by
  have hcanonical := distinct_canonicalizeJson hvalue
  have hprinted := Policy.canonicalizeJson_integral hintegral
  rw [load_eq hvalue, digestText_eq hlaws.toPrints hcanonical, canonicalizeJson_idem hvalue, pyDigestText,
    dumps, PyValue.toJson_of_integral floatText hprinted]

/-- Equal texts are texts of the same value. -/
theorem pyDigestText_eq_iff {value other : PyValue} (hvalue : MachineValue value)
    (hother : MachineValue other) :
    pyDigestText floatText value = pyDigestText floatText other ↔ value.SameValue other := by
  rw [← Policy.canonicalizeJson_eq_iff hvalue.distinct hother.distinct]
  constructor
  · intro htext
    have hjson := Json.print_injective readable_compactStyle (String.ofList_injective htext)
    exact PyValue.toJson_injective (Policy.canonicalizeJson_integral hvalue.integral)
      (Policy.canonicalizeJson_integral hother.integral) hjson
  · intro hcanonical
    rw [pyDigestText, hcanonical, pyDigestText]

/-- The extension hashes the text that the Python module hashes, and equal texts are texts of
equal values. -/
theorem digestText_agree (hlaws : serde.Laws floatText) {value : PyValue}
    (hvalue : MachineValue value) :
    (∀ style ∈ pythonStyles, ∀ parsed, serde.fromStr (dumps floatText style value) = .ok parsed →
      digestText serde parsed.val = pyDigestText floatText value) ∧
    (∀ other, MachineValue other →
      (pyDigestText floatText value = pyDigestText floatText other ↔ value.SameValue other)) ∧
    ∀ other, MachineValue other → ∀ style ∈ pythonStyles, ∀ style' ∈ pythonStyles,
      ∀ parsed parsed', serde.fromStr (dumps floatText style value) = .ok parsed →
        serde.fromStr (dumps floatText style' other) = .ok parsed' →
          (digestText serde parsed.val = digestText serde parsed'.val ↔ parsed = parsed') := by
  refine ⟨?_, fun other hother => pyDigestText_eq_iff hvalue hother, ?_⟩
  · intro style hstyle parsed hparsed
    rw [hlaws.fromStr_dumps style hstyle value parsed hvalue hparsed]
    exact digestText_load hlaws hvalue.distinct hvalue.integral
  · intro other hother style hstyle style' hstyle' parsed parsed' hparsed hparsed'
    rw [Subtype.ext_iff, hlaws.fromStr_dumps style hstyle value parsed hvalue hparsed,
      hlaws.fromStr_dumps style' hstyle' other parsed' hother hparsed',
      digestText_load hlaws hvalue.distinct hvalue.integral,
      digestText_load hlaws hother.distinct hother.integral, pyDigestText_eq_iff hvalue hother,
      load_eq hvalue.distinct, load_eq hother.distinct,
      Policy.canonicalizeJson_eq_iff hvalue.distinct hother.distinct]

end Agree

/-! ## A value that is read -/

section Read

/-- An extension that reads what Python reads. -/
def serdeReading : SerdeJson where
  fromStr text :=
    match jsonLoads (fun _ => .nan) text with
    | some value => .ok ⟨load value, distinct_load value⟩
    | none => .error "expected value"
  toString value := .ok (String.ofList ((value.toJson exactFloatText).print serdeStyle))
  floatText := exactFloatText

theorem scanned_pythonStyles : ∀ style ∈ pythonStyles, Scanned style := by
  intro style hstyle
  simp only [pythonStyles, List.mem_cons, List.not_mem_nil, or_false] at hstyle
  rcases hstyle with rfl | rfl | rfl
  · exact scanned_escapeAscii rfl ⟨[' '], rfl, forall_mem_of_all (by decide)⟩
        ⟨[' '], rfl, forall_mem_of_all (by decide)⟩
  · exact scanned_compactStyle
  · exact scanned_escapeAscii rfl ⟨[], rfl, by simp⟩ ⟨[], rfl, by simp⟩

theorem fromStr_reading {style : JsonStyle} (hstyle : style ∈ pythonStyles) {value : PyValue}
    (hvalue : MachineValue value) :
    serdeReading.fromStr (dumps exactFloatText style value) =
      .ok ⟨load value, distinct_load value⟩ := by
  have hloads := @jsonLoads_print (fun _ => .nan) exactFloatText style
    (scanned_pythonStyles style hstyle) value hvalue.integral hvalue.distinct
  simp only [serdeReading, dumps, hloads]

theorem laws_reading : serdeReading.Laws exactFloatText where
  toString_eq _ := rfl
  fromStr_dumps style hstyle value parsed hvalue hparsed := by
    rw [fromStr_reading hstyle hvalue] at hparsed
    rw [← Except.ok.inj hparsed]

def valueRead : PyValue :=
  .dict [("😀", .list [.int (-1), .str "\x7fé\n"]), ("\ue000", .int (2 ^ 64 - 1))]

theorem machineValue_read : MachineValue valueRead where
  distinct := ⟨by decide +kernel, ⟨trivial, trivial, trivial⟩, trivial, trivial⟩
  integral := ⟨⟨trivial, trivial, trivial⟩, trivial, trivial⟩
  integers := by
    unfold MachineInt
    decide

/-- Keys that UTF-16 would order the other way, read from the text that Python signs. -/
theorem digestText_agree_read :
    serdeReading.fromStr (dumps exactFloatText defaultStyle valueRead) =
        .ok ⟨load valueRead, distinct_load valueRead⟩ ∧
      digestText serdeReading (load valueRead) = pyDigestText exactFloatText valueRead := by
  have hparsed := @fromStr_reading defaultStyle (by simp [pythonStyles]) _ machineValue_read
  exact ⟨hparsed, (digestText_agree laws_reading machineValue_read).1 _ (by simp [pythonStyles]) _
    hparsed⟩

end Read

end PaybondKit.Native
