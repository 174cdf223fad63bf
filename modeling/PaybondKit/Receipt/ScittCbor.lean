import PaybondKit.Foundation.ByteReader
import PaybondKit.Receipt.Hex

/-!
# The CBOR of SCITT exports

The encoders of the export and the one decoder that reads what they write. The encoders have
heads of up to five bytes, and the decoder reads heads of up to three. Everything else that can
be encoded is read back.
-/

namespace PaybondKit.Receipt.Scitt

open Agent (PyExc)

abbrev Bytes := List UInt8

def byte (n : ℕ) : UInt8 := UInt8.ofNat n

/-! ## Encoding -/

/-- `bytes([n])`. -/
def pyByte (n : ℤ) : Except PyExc UInt8 :=
  if 0 ≤ n ∧ n < 256 then .ok (byte n.toNat)
  else .error (.valueError "bytes must be in range(0, 256)")

def encodeCborUint (value : ℤ) : Except PyExc Bytes :=
  let n := value.toNat
  if value < 0 then
    .error (.valueError "scitt export: CBOR uint must be a non-negative integer")
  else if n < 24 then .ok [byte n]
  else if n < 0x100 then .ok [24, byte n]
  else if n < 0x10000 then .ok [25, byte ((n >>> 8) &&& 0xFF), byte (n &&& 0xFF)]
  else if n < 0x100000000 then
    .ok [26, byte ((n >>> 24) &&& 0xFF), byte ((n >>> 16) &&& 0xFF), byte ((n >>> 8) &&& 0xFF),
      byte (n &&& 0xFF)]
  else .error (.valueError "scitt export: CBOR uint too large")

/-- The first bytes of an item whose major type has its number in the upper bits. -/
def header (major n : ℕ) : Bytes :=
  if n < 24 then [byte (major ||| n)]
  else if n < 0x100 then [byte (major ||| 24), byte n]
  else [byte (major ||| 25), byte ((n >>> 8) &&& 0xFF), byte (n &&& 0xFF)]

/-- The head of a number below 2¹⁶. -/
def sizedHeader (major n : ℕ) (tooLarge : String) : Except PyExc Bytes :=
  if n < 0x10000 then .ok (header major n) else .error (.valueError tooLarge)

def encodeCborNint (value : ℤ) : Except PyExc Bytes :=
  if 0 ≤ value then .error (.valueError "bytes must be in range(0, 256)")
  else sizedHeader 0x20 (-1 - value).toNat "scitt export: CBOR nint too large"

def encodeCborInt (value : ℤ) : Except PyExc Bytes :=
  if 0 ≤ value then encodeCborUint value else encodeCborNint value

def encodeCborBstr (data : Bytes) : Except PyExc Bytes := do
  let header ← sizedHeader 0x40 data.length "scitt export: CBOR bstr too large"
  return header ++ data

/-- `text.encode("utf-8")`. -/
def utf8 (text : String) : Bytes := text.toUTF8.data.toList

def encodeCborTstr (value : String) : Except PyExc Bytes := do
  let data := utf8 value
  let header ← sizedHeader 0x60 data.length "scitt export: CBOR tstr too large"
  return header ++ data

/-- The head of a number that has to fit in one byte. -/
def byteHeader (major n : ℕ) (tooLarge : String) : Except PyExc Bytes :=
  if n < 0x100 then .ok (header major n) else .error (.valueError tooLarge)

def encodeCborArray (items : List Bytes) : Except PyExc Bytes := do
  -- the length is given to `bytes`
  let header ← byteHeader 0x80 items.length "bytes must be in range(0, 256)"
  return header ++ items.flatten

inductive MapKey where
  | int (value : ℤ)
  | text (value : String)
  deriving DecidableEq

def MapKey.encode : MapKey → Except PyExc Bytes
  | .int value => encodeCborInt value
  | .text value => encodeCborTstr value

/-- The entries in the order of the bytes of their keys. -/
def sortEntries (entries : List (Bytes × Bytes)) : List (Bytes × Bytes) :=
  entries.mergeSort fun first second => first.1 ≤ second.1

def encodeCborMap (entries : List (MapKey × Bytes)) : Except PyExc Bytes := do
  let encoded ← entries.mapM fun (key, value) => do return (← key.encode, value)
  let header ← byteHeader 0xA0 encoded.length "bytes must be in range(0, 256)"
  return header ++ (sortEntries encoded).flatMap fun (key, value) => key ++ value

def encodeCborTag (tag : ℕ) (item : Bytes) : Except PyExc Bytes := do
  let header ← byteHeader 0xC0 tag "scitt export: CBOR tag too large"
  return header ++ item

/-! ## Decoding -/

/-- A value that can be the key of a dictionary. -/
inductive CborKey where
  | int (value : ℤ)
  | bytes (data : Bytes)
  | text (value : String)
  deriving DecidableEq

/-- What the decoder returns. -/
inductive CborItem where
  | int (value : ℤ)
  | bytes (data : Bytes)
  | text (value : String)
  | list (items : List CborItem)
  | dict (entries : List (CborKey × CborItem))

def CborItem.key : CborItem → Except PyExc CborKey
  | .int value => .ok (.int value)
  | .bytes data => .ok (.bytes data)
  | .text value => .ok (.text value)
  | .list _ => .error (.other "TypeError" "unhashable type: 'list'")
  | .dict _ => .error (.other "TypeError" "unhashable type: 'dict'")

/-- `data[offset]`. -/
def byteAt (data : Bytes) (offset : ℕ) : Except PyExc ℕ :=
  match data[offset]? with
  | some byte => .ok byte.toNat
  | none => .error (.other "IndexError" "index out of range")

def readCborLength (additional : ℕ) : Reader UInt8 PyExc ℕ := fun data offset =>
  if additional < 24 then .ok (additional, offset)
  else if additional = 24 then do
    return (← byteAt data offset, offset + 1)
  else if additional = 25 then do
    return ((← byteAt data offset) <<< 8 ||| (← byteAt data (offset + 1)), offset + 2)
  else .error (.valueError "scitt export: unsupported CBOR length")

/-- The major type of an item and the number in its head. -/
def readHead : Reader UInt8 PyExc (ℕ × ℕ) := fun data offset => do
  let initial ← byteAt data offset
  let major := initial >>> 5
  let additional := initial &&& 0x1F
  raiseIf (6 < major) (.valueError s!"scitt export: unsupported CBOR major type {major}")
  let (length, cursor) ← readCborLength additional data (offset + 1)
  return ((major, length), cursor)

/-- `data[cursor:cursor + length]`. -/
def readSlice (length : ℕ) : Reader UInt8 PyExc Bytes := fun data cursor =>
  .ok ((data.drop cursor).take length, cursor + length)

/-- `data.decode("utf-8")`. -/
def decodeUtf8 (data : Bytes) : Except PyExc String :=
  match String.fromUTF8? ⟨data.toArray⟩ with
  | some text => .ok text
  | none => .error (.other "UnicodeDecodeError" "invalid utf-8")

def textItem (data : Bytes) : Reader UInt8 PyExc CborItem :=
  match decodeUtf8 data with
  | .ok text => .pure (.text text)
  | .error failure => .fail failure

/-- One entry of a dictionary. -/
def readEntry (read : Reader UInt8 PyExc CborItem) (mapping : OrderedDict CborKey CborItem) :
    Reader UInt8 PyExc (OrderedDict CborKey CborItem) :=
  read.andThen fun key => read.andThen fun value =>
    match key.key with
    | .ok key => .pure (mapping.set key value)
    | .error failure => .fail failure

/-- What comes after the head of an item. -/
def readBody (read : Reader UInt8 PyExc CborItem) (major length : ℕ) :
    Reader UInt8 PyExc CborItem :=
  match major with
  | 0 => .pure (.int length)
  | 1 => .pure (.int (-1 - length))
  | 2 => (readSlice length).andThen fun data => .pure (.bytes data)
  | 3 => (readSlice length).andThen textItem
  | 4 =>
      (Reader.iterate (fun items => read.andThen fun item => .pure (items ++ [item])) length
        []).andThen fun items => .pure (.list items)
  | 5 =>
      (Reader.iterate (readEntry read) length .empty).andThen fun mapping =>
        .pure (.dict mapping.items)
  | _ =>
      read.andThen fun value => .pure (.dict [(.text "tag", .int length), (.text "value", value)])

/-- The items inside an item are one level deeper. -/
def readItem : ℕ → Reader UInt8 PyExc CborItem
  | 0 => .fail (.other "RecursionError" "maximum recursion depth exceeded")
  | depth + 1 => readHead.andThen fun (major, length) => readBody (readItem depth) major length

/-- No item is nested deeper than there are bytes. -/
def decodeCborItem : Reader UInt8 PyExc CborItem := fun data offset =>
  readItem (data.length + 1) data offset

/-! ## Values -/

/-- What can be built with the encoders. -/
inductive CborValue where
  | int (value : ℤ)
  | bytes (data : Bytes)
  | text (value : String)
  | array (items : List CborValue)
  | map (entries : List (MapKey × CborValue))
  | tag (number : ℕ) (value : CborValue)

def MapKey.key : MapKey → CborKey
  | .int value => .int value
  | .text value => .text value

def MapKey.isLarge : MapKey → Bool
  | .int value => 0x10000 ≤ value
  | .text _ => false

/-- Stands for the bytes of a key that can be encoded. -/
def MapKey.bytes (key : MapKey) : Bytes := key.encode.toOption.getD []

/-- By the bytes of their keys. -/
def sortByKey {α : Type} (entries : List (MapKey × α)) : List (MapKey × α) :=
  entries.mergeSort fun first second => first.1.bytes ≤ second.1.bytes

namespace CborValue

mutual

def encode : CborValue → Except PyExc Bytes
  | .int value => encodeCborInt value
  | .bytes data => encodeCborBstr data
  | .text value => encodeCborTstr value
  | .array items => do encodeCborArray (← encodeItems items)
  | .map entries => do encodeCborMap (← encodeEntries entries)
  | .tag number value => do encodeCborTag number (← encode value)

def encodeItems : List CborValue → Except PyExc (List Bytes)
  | [] => .ok []
  | item :: items => do return (← encode item) :: (← encodeItems items)

def encodeEntries : List (MapKey × CborValue) → Except PyExc (List (MapKey × Bytes))
  | [] => .ok []
  | (key, value) :: entries => do return (key, ← encode value) :: (← encodeEntries entries)

end

mutual

/-- The value as the decoder returns it: a map is a dictionary in the order of its encoded keys,
and a tag is a dictionary as well. -/
def pyValue : CborValue → CborItem
  | .int value => .int value
  | .bytes data => .bytes data
  | .text value => .text value
  | .array items => .list (pyItems items)
  | .map entries => .dict ((sortByKey (pyEntries entries)).map fun (key, value) => (key.key, value))
  | .tag number value => .dict [(.text "tag", .int number), (.text "value", pyValue value)]

def pyItems : List CborValue → List CborItem
  | [] => []
  | item :: items => pyValue item :: pyItems items

def pyEntries : List (MapKey × CborValue) → List (MapKey × CborItem)
  | [] => []
  | (key, value) :: entries => (key, pyValue value) :: pyEntries entries

end

mutual

/-- A number from 2¹⁶ on occurs, be it as a key. -/
def hasLargeInt : CborValue → Bool
  | .int value => 0x10000 ≤ value
  | .bytes _ => false
  | .text _ => false
  | .array items => hasLargeItem items
  | .map entries => hasLargeEntry entries
  | .tag _ value => hasLargeInt value

def hasLargeItem : List CborValue → Bool
  | [] => false
  | item :: items => hasLargeInt item || hasLargeItem items

def hasLargeEntry : List (MapKey × CborValue) → Bool
  | [] => false
  | (key, value) :: entries => key.isLarge || hasLargeInt value || hasLargeEntry entries

end

mutual

/-- The keys of every map are distinct. -/
def DistinctKeys : CborValue → Prop
  | .int _ => True
  | .bytes _ => True
  | .text _ => True
  | .array items => DistinctItems items
  | .map entries => (entries.map Prod.fst).Nodup ∧ DistinctEntries entries
  | .tag _ value => DistinctKeys value

def DistinctItems : List CborValue → Prop
  | [] => True
  | item :: items => DistinctKeys item ∧ DistinctItems items

def DistinctEntries : List (MapKey × CborValue) → Prop
  | [] => True
  | (_, value) :: entries => DistinctKeys value ∧ DistinctEntries entries

end

end CborValue

/-! ## Heads -/

section Heads

theorem toNat_byte {n : ℕ} (hn : n < 256) : (byte n).toNat = n := by
  rw [byte, UInt8.toNat_ofNat', Nat.mod_eq_of_lt hn]

theorem byteAt_front {front rest : Bytes} {first : UInt8} :
    byteAt (front ++ (first :: rest)) front.length = .ok first.toNat := by
  simp [byteAt]

theorem byteAt_second {front rest : Bytes} {first second : UInt8} :
    byteAt (front ++ (first :: second :: rest)) (front.length + 1) = .ok second.toNat := by
  simp [byteAt]

theorem byteAt_third {front rest : Bytes} {first second third : UInt8} :
    byteAt (front ++ (first :: second :: third :: rest)) (front.length + 2) = .ok third.toNat := by
  simp [byteAt]

theorem initial_byte : ∀ major < 7, ∀ additional < 32,
    (byte (major * 32 ||| additional)).toNat >>> 5 = major ∧
      (byte (major * 32 ||| additional)).toNat &&& 0x1F = additional := by
  decide

/-- The two halves of a number below 2¹⁶, put together. -/
theorem halves {n : ℕ} (hn : n < 0x10000) :
    (byte ((n >>> 8) &&& 0xFF)).toNat <<< 8 ||| (byte (n &&& 0xFF)).toNat = n := by
  have hhigh : (n >>> 8) &&& 0xFF = n / 256 := by
    have hmask : (n >>> 8) &&& 0xFF = (n >>> 8) % 256 :=
      Nat.and_two_pow_sub_one_eq_mod (n >>> 8) 8
    rw [hmask, Nat.shiftRight_eq_div_pow]
    omega
  have hlow : n &&& 0xFF = n % 256 := Nat.and_two_pow_sub_one_eq_mod n 8
  rw [hhigh, hlow, toNat_byte (by omega), toNat_byte (by omega),
    ← Nat.shiftLeft_add_eq_or_of_lt (by omega : n % 256 < 2 ^ 8), Nat.shiftLeft_eq]
  omega

theorem reads_header {major n : ℕ} (hmajor : major < 7) (hn : n < 0x10000) :
    readHead.Reads (header (major * 32) n) (major, n) := by
  intro front rest
  have hmajor' : ¬6 < major := by omega
  unfold header
  split
  next hsmall =>
    obtain ⟨hfirst, hsecond⟩ := initial_byte major hmajor n (by omega)
    simp only [readHead, List.cons_append, List.nil_append, byteAt_front, except_ok_bind, hfirst,
      hsecond, raiseIf, if_neg hmajor', readCborLength, if_pos hsmall]
    rfl
  next hlarge =>
    split
    next hbyte =>
      obtain ⟨hfirst, hsecond⟩ := initial_byte major hmajor 24 (by omega)
      simp only [readHead, List.cons_append, List.nil_append, byteAt_front, except_ok_bind, hfirst,
        hsecond, raiseIf, if_neg hmajor', readCborLength, byteAt_second, toNat_byte hbyte]
      rfl
    next hword =>
      obtain ⟨hfirst, hsecond⟩ := initial_byte major hmajor 25 (by omega)
      simp only [readHead, List.cons_append, List.nil_append, byteAt_front, except_ok_bind, hfirst,
        hsecond, raiseIf, if_neg hmajor', readCborLength, byteAt_second, byteAt_third, halves hn,
        Nat.add_assoc, Nat.reduceAdd]
      rfl

theorem length_header (major n : ℕ) : 0 < (header major n).length := by
  unfold header
  split
  · exact Nat.one_pos
  · split <;> simp

/-- The decoder has no heads of five bytes. -/
theorem fails_largeHead {rest : Bytes} : readHead.Fails (26 :: rest) := by
  intro front after
  refine ⟨.valueError "scitt export: unsupported CBOR length", ?_⟩
  simp only [readHead, List.cons_append, byteAt_front, except_ok_bind, readCborLength]
  rfl

end Heads

/-! ## Reading back -/

/-- The bytes of a value that can be encoded. -/
def CborValue.encoded (value : CborValue) : Bytes := value.encode.toOption.getD []

/-- The value is read back unless a large number occurs, and then the decoder raises. -/
structure ReadBack (depth : ℕ) (value : CborValue) (bytes : Bytes) : Prop where
  reads : value.hasLargeInt = false → (readItem depth).Reads bytes value.pyValue
  fails : value.hasLargeInt = true → (readItem depth).Fails bytes

section ReadBack

variable {depth : ℕ} {bytes : Bytes}

theorem sizedHeader_eq_ok {major n : ℕ} {tooLarge : String} {head : Bytes} :
    sizedHeader major n tooLarge = .ok head ↔ n < 0x10000 ∧ header major n = head := by
  unfold sizedHeader
  split <;> simp_all

theorem byteHeader_eq_ok {major n : ℕ} {tooLarge : String} {head : Bytes} :
    byteHeader major n tooLarge = .ok head ↔ n < 0x100 ∧ header major n = head := by
  unfold byteHeader
  split <;> simp_all

theorem encodeCborInt_cases {value : ℤ} (hencode : encodeCborInt value = .ok bytes) :
    (0x10000 ≤ value ∧ ∃ rest, bytes = 26 :: rest) ∨
      (0 ≤ value ∧ value < 0x10000 ∧ bytes = header (0 * 32) value.toNat) ∨
      value < 0 ∧ (-1 - value).toNat < 0x10000 ∧ bytes = header (1 * 32) (-1 - value).toNat := by
  unfold encodeCborInt at hencode
  split at hencode
  next hnonneg =>
    simp only [encodeCborUint, if_neg (not_lt.mpr hnonneg)] at hencode
    by_cases hlarge : 0x10000 ≤ value
    · rw [if_neg (by omega), if_neg (by omega), if_neg (by omega)] at hencode
      split at hencode
      · exact .inl ⟨hlarge, _, (Except.ok.inj hencode).symm⟩
      · cases hencode
    · refine .inr (.inl ⟨hnonneg, not_le.mp hlarge, ?_⟩)
      unfold header
      split at hencode
      next hsmall => rw [if_pos hsmall, ← Except.ok.inj hencode, Nat.zero_mul, Nat.zero_or]
      next hsmall =>
        rw [if_neg hsmall]
        split at hencode
        next hbyte =>
          rw [if_pos hbyte, ← Except.ok.inj hencode]
          rfl
        next hbyte =>
          rw [if_neg hbyte]
          rw [if_pos (by omega)] at hencode
          rw [← Except.ok.inj hencode]
          rfl
  next hneg =>
    rw [encodeCborNint, if_neg hneg, sizedHeader_eq_ok] at hencode
    exact .inr (.inr ⟨not_le.mp hneg, hencode.1, hencode.2.symm⟩)

theorem reads_item {major n : ℕ} {chunk : Bytes} {item : CborItem} (hmajor : major < 7)
    (hn : n < 0x10000) (hbody : (readBody (readItem depth) major n).Reads chunk item) :
    (readItem (depth + 1)).Reads (header (major * 32) n ++ chunk) item :=
  (reads_header hmajor hn).andThen hbody

theorem fails_item {major n : ℕ} {chunk : Bytes} (hmajor : major < 7) (hn : n < 0x10000)
    (hbody : (readBody (readItem depth) major n).Fails chunk) :
    (readItem (depth + 1)).Fails (header (major * 32) n ++ chunk) :=
  (reads_header hmajor hn).andThen_fails hbody

theorem readBack_int {value : ℤ} (hencode : encodeCborInt value = .ok bytes) :
    ReadBack (depth + 1) (.int value) bytes := by
  rcases encodeCborInt_cases hencode with
    ⟨hlarge, rest, rfl⟩ | ⟨hnonneg, hlt, rfl⟩ | ⟨hneg, hlt, rfl⟩
  · refine ⟨fun hsmall => ?_, fun _ => ?_⟩
    · rw [CborValue.hasLargeInt, decide_eq_false_iff_not] at hsmall
      exact absurd hlarge hsmall
    · exact fails_largeHead.first
  · refine ⟨fun _ => ?_, fun hlarge => ?_⟩
    · have hread := @reads_item depth 0 value.toNat [] _ (by decide) (by omega)
        (Reader.reads_pure _)
      rwa [List.append_nil, Int.toNat_of_nonneg hnonneg] at hread
    · rw [CborValue.hasLargeInt, decide_eq_true_iff] at hlarge
      omega
  · refine ⟨fun _ => ?_, fun hlarge => ?_⟩
    · have hread := @reads_item depth 1 (-1 - value).toNat [] _ (by decide) hlt
        (Reader.reads_pure _)
      have hvalue : -1 - ((-1 - value).toNat : ℤ) = value := by omega
      rwa [List.append_nil, hvalue] at hread
    · rw [CborValue.hasLargeInt, decide_eq_true_iff] at hlarge
      omega

theorem reads_slice (data : Bytes) : (readSlice data.length).Reads data data := by
  intro front rest
  rw [readSlice, List.drop_left, List.take_left]

theorem decodeUtf8_utf8 (text : String) : decodeUtf8 (utf8 text) = .ok text := by
  have hread : String.fromUTF8? text.toUTF8 = some text := by
    rw [String.toUTF8_eq_toByteArray]
    exact dif_pos text.isValidUTF8
  have hbytes : (⟨(utf8 text).toArray⟩ : ByteArray) = text.toUTF8 := rfl
  rw [decodeUtf8, hbytes, hread]

theorem readBack_bytes {data : Bytes} (hencode : encodeCborBstr data = .ok bytes) :
    ReadBack (depth + 1) (.bytes data) bytes := by
  obtain ⟨head, hhead, hbytes⟩ := except_bind_eq_ok.mp hencode
  obtain ⟨hlength, rfl⟩ := sizedHeader_eq_ok.mp hhead
  rw [← except_pure_eq_ok.mp hbytes]
  refine ⟨fun _ => ?_, nofun⟩
  have hbody : (readBody (readItem depth) 2 data.length).Reads data (.bytes data) := by
    rw [readBody]
    exact (reads_slice data).map CborItem.bytes
  exact @reads_item depth 2 data.length data _ (by decide) hlength hbody

theorem readBack_text {text : String} (hencode : encodeCborTstr text = .ok bytes) :
    ReadBack (depth + 1) (.text text) bytes := by
  obtain ⟨head, hhead, hbytes⟩ := except_bind_eq_ok.mp hencode
  obtain ⟨hlength, rfl⟩ := sizedHeader_eq_ok.mp hhead
  rw [← except_pure_eq_ok.mp hbytes]
  refine ⟨fun _ => ?_, nofun⟩
  have htext : (textItem (utf8 text)).Reads [] (.text text) := by
    rw [textItem, decodeUtf8_utf8]
    exact Reader.reads_pure _
  have hbody : (readBody (readItem depth) 3 (utf8 text).length).Reads (utf8 text)
      (.text text) := by
    have hread := (reads_slice (utf8 text)).andThen htext
    rwa [List.append_nil] at hread
  exact @reads_item depth 3 (utf8 text).length (utf8 text) _ (by decide) hlength hbody

theorem CborValue.pyItems_eq (items : List CborValue) :
    pyItems items = items.map pyValue := by
  induction items with
  | nil => rfl
  | cons item items ih => rw [pyItems, ih, List.map_cons]

theorem CborValue.hasLargeItem_eq (items : List CborValue) :
    hasLargeItem items = items.any hasLargeInt := by
  induction items with
  | nil => rfl
  | cons item items ih => rw [hasLargeItem, ih, List.any_cons]

theorem foldl_append_singleton {α β : Type} (f : α → β) (items : List α) (done : List β) :
    items.foldl (fun done item => done ++ [f item]) done = done ++ items.map f := by
  induction items generalizing done with
  | nil => simp
  | cons item items ih => rw [List.foldl_cons, ih, List.map_cons, List.append_assoc]; rfl

theorem readBack_array {items : List CborValue} {chunk : CborValue → Bytes}
    (hlength : items.length < 0x100)
    (hitems : ∀ item ∈ items, ReadBack depth item (chunk item)) :
    ReadBack (depth + 1) (.array items)
      (header (4 * 32) items.length ++ (items.flatMap chunk)) := by
  have hsize : items.length < 0x10000 := by omega
  -- a round reads one item, or it raises
  have hreads : ∀ item ∈ items, item.hasLargeInt = false → ∀ done : List CborItem,
      ((readItem depth).andThen fun item => .pure (done ++ [item])).Reads (chunk item)
        (done ++ [item.pyValue]) := by
    intro item hitem hsmall done
    exact ((hitems item hitem).reads hsmall).map fun item => done ++ [item]
  have hfails : ∀ item ∈ items, item.hasLargeInt = true → ∀ done : List CborItem,
      ((readItem depth).andThen fun item => .pure (done ++ [item])).Fails (chunk item) := by
    intro item hitem hlarge done
    exact ((hitems item hitem).fails hlarge).first
  constructor
  · intro hsmall
    rw [CborValue.hasLargeInt, CborValue.hasLargeItem_eq, List.any_eq_false] at hsmall
    have hloop := Reader.Reads.iterate (fun item hitem =>
      hreads item hitem (Bool.eq_false_iff.mpr (hsmall item hitem))) []
    rw [foldl_append_singleton, List.nil_append, ← CborValue.pyItems_eq] at hloop
    have hbody : (readBody (readItem depth) 4 items.length).Reads (items.flatMap chunk)
        (.list (CborValue.pyItems items)) := by
      rw [readBody]
      exact hloop.map CborItem.list
    rw [CborValue.pyValue]
    exact reads_item (by decide) hsize hbody
  · intro hlarge
    rw [CborValue.hasLargeInt, CborValue.hasLargeItem_eq, List.any_eq_true] at hlarge
    obtain ⟨large, hmem, hlarge⟩ := hlarge
    have hloop := Reader.Fails.iterate (fun item hitem => by
      cases hvalue : item.hasLargeInt with
      | false => exact .inl (hreads item hitem hvalue)
      | true => exact .inr (hfails item hitem hvalue)) ⟨large, hmem, hfails large hmem hlarge⟩ []
    have hbody : (readBody (readItem depth) 4 items.length).Fails (items.flatMap chunk) := by
      rw [readBody]
      exact hloop.first
    exact fails_item (by decide) hsize hbody

theorem readBack_tag {number : ℕ} {value : CborValue} (hnumber : number < 0x100)
    (hvalue : ReadBack depth value bytes) :
    ReadBack (depth + 1) (.tag number value) (header (6 * 32) number ++ bytes) where
  reads hsmall :=
    reads_item (by decide) (by omega) ((hvalue.reads hsmall).map fun item =>
      CborItem.dict [(.text "tag", .int number), (.text "value", item)])
  fails hlarge := by
    refine fails_item (by decide) (by omega) ?_
    change ((readItem depth).andThen fun item : CborItem => Reader.pure
      (CborItem.dict [(.text "tag", .int number), (.text "value", item)])).Fails bytes
    exact (hvalue.fails hlarge).first

/-- A key as a value of its own. -/
def MapKey.toValue : MapKey → CborValue
  | .int value => .int value
  | .text value => .text value

theorem MapKey.key_pyValue (key : MapKey) : key.toValue.pyValue.key = .ok key.key := by
  cases key <;> rfl

theorem MapKey.encode_toValue (key : MapKey) : key.toValue.encode = key.encode := by
  cases key <;> rfl

theorem MapKey.hasLargeInt_toValue (key : MapKey) : key.toValue.hasLargeInt = key.isLarge := by
  cases key <;> rfl

theorem MapKey.key_injective {key other : MapKey} (hkey : key.key = other.key) : key = other := by
  cases key <;> cases other <;> simp_all [MapKey.key]

section Entry

variable {key : MapKey} {value : CborValue} {keyBytes valueBytes : Bytes}
variable (hkey : ReadBack depth key.toValue keyBytes) (hvalue : ReadBack depth value valueBytes)
include hkey hvalue

theorem reads_entry (hsmallKey : key.isLarge = false) (hsmall : value.hasLargeInt = false)
    (mapping : OrderedDict CborKey CborItem) :
    (readEntry (readItem depth) mapping).Reads (keyBytes ++ valueBytes)
      (mapping.set key.key value.pyValue) := by
  rw [← MapKey.hasLargeInt_toValue] at hsmallKey
  refine (hkey.reads hsmallKey).andThen ?_
  rw [MapKey.key_pyValue]
  exact (hvalue.reads hsmall).map fun value => mapping.set key.key value

theorem fails_entry (hlarge : key.isLarge = true ∨ value.hasLargeInt = true)
    (mapping : OrderedDict CborKey CborItem) :
    (readEntry (readItem depth) mapping).Fails (keyBytes ++ valueBytes) := by
  rw [← MapKey.hasLargeInt_toValue] at hlarge
  cases hkeyLarge : key.toValue.hasLargeInt with
  | true => exact (hkey.fails hkeyLarge).andThen
  | false =>
      rw [hkeyLarge] at hlarge
      have hvalueLarge : value.hasLargeInt = true := by simpa using hlarge
      exact (hkey.reads hkeyLarge).andThen_fails (hvalue.fails hvalueLarge).first

end Entry

theorem foldl_set {α : Type} (entries : List (MapKey × CborValue)) (f : CborValue → α) :
    (entries.foldl (fun (mapping : OrderedDict CborKey α) entry =>
      mapping.set entry.1.key (f entry.2)) .empty) =
      OrderedDict.ofList (entries.map fun entry => (entry.1.key, f entry.2)) := by
  rw [OrderedDict.ofList, List.foldl_map]

/-- A map whose entries stand in the order that they are read in. -/
theorem reads_entries {entries : List (MapKey × CborValue)} {chunk : MapKey × CborValue → Bytes}
    (hkeys : (entries.map Prod.fst).Nodup) (hlength : entries.length < 0x100)
    (hreads : ∀ entry ∈ entries, ∀ mapping,
      (readEntry (readItem depth) mapping).Reads (chunk entry)
        (mapping.set entry.1.key entry.2.pyValue)) :
    (readItem (depth + 1)).Reads (header (5 * 32) entries.length ++ entries.flatMap chunk)
      (.dict (entries.map fun entry => (entry.1.key, entry.2.pyValue))) := by
  have hnodup : ((entries.map fun entry => (entry.1.key, entry.2.pyValue)).map Prod.fst).Nodup := by
    rw [List.map_map]
    have hinjective : (entries.map fun entry => entry.1.key) =
        (entries.map Prod.fst).map MapKey.key := by rw [List.map_map]; rfl
    change (entries.map fun entry => entry.1.key).Nodup
    rw [hinjective]
    exact hkeys.map fun _ _ => MapKey.key_injective
  have hloop := Reader.Reads.iterate hreads OrderedDict.empty
  rw [foldl_set] at hloop
  refine reads_item (by decide) (by omega) ?_
  rw [readBody, ← OrderedDict.items_ofList hnodup]
  exact hloop.map fun mapping => CborItem.dict mapping.items

/-- The decoder raises at a map with an entry that it raises at. -/
theorem fails_entries {entries : List (MapKey × CborValue)} {chunk : MapKey × CborValue → Bytes}
    (hlength : entries.length < 0x100)
    (hentries : ∀ entry ∈ entries,
      (∀ mapping, (readEntry (readItem depth) mapping).Reads (chunk entry)
        (mapping.set entry.1.key entry.2.pyValue)) ∨
      ∀ mapping, (readEntry (readItem depth) mapping).Fails (chunk entry))
    (hfails : ∃ entry ∈ entries, ∀ mapping,
      (readEntry (readItem depth) mapping).Fails (chunk entry)) :
    (readItem (depth + 1)).Fails (header (5 * 32) entries.length ++ entries.flatMap chunk) := by
  have hloop := Reader.Fails.iterate hentries hfails OrderedDict.empty
  refine fails_item (by decide) (by omega) ?_
  rw [readBody]
  exact hloop.first

end ReadBack

/-! ## The whole value -/

section Whole

open CborValue

theorem encode_eq_encoded {value : CborValue} {bytes : Bytes} (hencode : value.encode = .ok bytes) :
    value.encoded = bytes := by
  rw [encoded, hencode]
  rfl

theorem encodeItems_eq_ok {items : List CborValue} {chunks : List Bytes}
    (hencode : encodeItems items = .ok chunks) :
    chunks = items.map encoded ∧ ∀ item ∈ items, item.encode = .ok item.encoded := by
  induction items generalizing chunks with
  | nil =>
      obtain rfl := Except.ok.inj hencode
      exact ⟨rfl, nofun⟩
  | cons item items ih =>
      simp only [encodeItems, except_bind_eq_ok, except_pure_eq_ok] at hencode
      obtain ⟨chunk, hchunk, rest, hrest, rfl⟩ := hencode
      obtain ⟨rfl, hitems⟩ := ih hrest
      obtain rfl := encode_eq_encoded hchunk
      exact ⟨rfl, List.forall_mem_cons.mpr ⟨hchunk, hitems⟩⟩

theorem encodeEntries_eq_ok {entries : List (MapKey × CborValue)} {chunks : List (MapKey × Bytes)}
    (hencode : encodeEntries entries = .ok chunks) :
    chunks = entries.map (fun entry => (entry.1, entry.2.encoded)) ∧
      ∀ entry ∈ entries, entry.2.encode = .ok entry.2.encoded := by
  induction entries generalizing chunks with
  | nil =>
      obtain rfl := Except.ok.inj hencode
      exact ⟨rfl, nofun⟩
  | cons entry entries ih =>
      obtain ⟨key, value⟩ := entry
      simp only [encodeEntries, except_bind_eq_ok, except_pure_eq_ok] at hencode
      obtain ⟨chunk, hchunk, rest, hrest, rfl⟩ := hencode
      obtain ⟨rfl, hentries⟩ := ih hrest
      obtain rfl := encode_eq_encoded hchunk
      exact ⟨rfl, List.forall_mem_cons.mpr ⟨hchunk, hentries⟩⟩

theorem encodeKeys_eq_ok {entries : List (MapKey × Bytes)} {encoded : List (Bytes × Bytes)}
    (hencode : (entries.mapM fun (key, value) => do return (← key.encode, value)) =
      (Except.ok encoded : Except PyExc _)) :
    encoded = entries.map (fun entry => (entry.1.bytes, entry.2)) ∧
      ∀ entry ∈ entries, entry.1.encode = .ok entry.1.bytes := by
  induction entries generalizing encoded with
  | nil =>
      obtain rfl := Except.ok.inj hencode
      exact ⟨rfl, nofun⟩
  | cons entry entries ih =>
      obtain ⟨key, value⟩ := entry
      simp only [List.mapM_cons, except_bind_eq_ok, except_pure_eq_ok] at hencode
      obtain ⟨pair, ⟨bytes, hbytes, rfl⟩, rest, hrest, rfl⟩ := hencode
      obtain ⟨rfl, hentries⟩ := ih hrest
      have hkey : key.bytes = bytes := by
        rw [MapKey.bytes, hbytes]
        rfl
      subst hkey
      exact ⟨rfl, List.forall_mem_cons.mpr ⟨hbytes, hentries⟩⟩

theorem distinctItems_iff {items : List CborValue} :
    DistinctItems items ↔ ∀ item ∈ items, item.DistinctKeys := by
  induction items with
  | nil => exact ⟨fun _ => nofun, fun _ => trivial⟩
  | cons item items ih => rw [DistinctItems, ih, List.forall_mem_cons]

theorem distinctEntries_iff {entries : List (MapKey × CborValue)} :
    DistinctEntries entries ↔ ∀ entry ∈ entries, entry.2.DistinctKeys := by
  induction entries with
  | nil => exact ⟨fun _ => nofun, fun _ => trivial⟩
  | cons entry entries ih => rw [DistinctEntries, ih, List.forall_mem_cons]

theorem pyEntries_eq (entries : List (MapKey × CborValue)) :
    pyEntries entries = entries.map fun entry => (entry.1, entry.2.pyValue) := by
  induction entries with
  | nil => rfl
  | cons entry entries ih => rw [pyEntries, ih, List.map_cons]

theorem hasLargeEntry_eq (entries : List (MapKey × CborValue)) :
    hasLargeEntry entries = entries.any fun entry => entry.1.isLarge || entry.2.hasLargeInt := by
  induction entries with
  | nil => rfl
  | cons entry entries ih => rw [hasLargeEntry, ih, List.any_cons]

/-- What encoding a map makes of its sorted entries. -/
theorem encode_map {entries : List (MapKey × CborValue)} {bytes : Bytes}
    (hencode : (CborValue.map entries).encode = .ok bytes) :
    (∀ entry ∈ entries, entry.1.encode = .ok entry.1.bytes ∧
        entry.2.encode = .ok entry.2.encoded) ∧ entries.length < 0x100 ∧
      bytes = header (5 * 32) (sortByKey entries).length ++
        (sortByKey entries).flatMap fun entry => entry.1.bytes ++ entry.2.encoded := by
  rw [encode] at hencode
  obtain ⟨chunks, hchunks, hmap⟩ := except_bind_eq_ok.mp hencode
  obtain ⟨rfl, hvalues⟩ := encodeEntries_eq_ok hchunks
  obtain ⟨encoded, hencoded, hmap⟩ := except_bind_eq_ok.mp hmap
  obtain ⟨rfl, hkeys⟩ := encodeKeys_eq_ok hencoded
  obtain ⟨head, hhead, hbytes⟩ := except_bind_eq_ok.mp hmap
  obtain ⟨hlength, rfl⟩ := byteHeader_eq_ok.mp hhead
  rw [List.length_map, List.length_map] at hlength hbytes
  have hsorted : sortEntries ((entries.map fun entry => (entry.1, entry.2.encoded)).map
      fun entry => (entry.1.bytes, entry.2)) =
      (sortByKey entries).map fun entry => (entry.1.bytes, entry.2.encoded) := by
    rw [List.map_map, sortEntries, sortByKey, List.map_mergeSort]
    · rfl
    · exact fun _ _ _ _ => rfl
  have hsize : (sortByKey entries).length = entries.length := List.length_mergeSort entries
  refine ⟨fun entry hentry => ⟨?_, hvalues entry hentry⟩, hlength, ?_⟩
  · exact hkeys (entry.1, entry.2.encoded) (List.mem_map.mpr ⟨entry, hentry, rfl⟩)
  · rw [hsorted, List.flatMap_map] at hbytes
    rw [hsize, ← except_pure_eq_ok.mp hbytes]

theorem pyValue_map (entries : List (MapKey × CborValue)) :
    (CborValue.map entries).pyValue =
      .dict ((sortByKey entries).map fun entry => (entry.1.key, entry.2.pyValue)) := by
  rw [pyValue, pyEntries_eq]
  have hsorted : sortByKey (entries.map fun entry => (entry.1, entry.2.pyValue)) =
      (sortByKey entries).map fun entry => (entry.1, entry.2.pyValue) := by
    rw [sortByKey, sortByKey, List.map_mergeSort]
    exact fun _ _ _ _ => rfl
  rw [hsorted, List.map_map]
  rfl

/-- The dictionary has the entries of the map. -/
theorem pyValue_map_perm (entries : List (MapKey × CborValue)) :
    ∃ items, (CborValue.map entries).pyValue = .dict items ∧
      items.Perm (entries.map fun entry => (entry.1.key, entry.2.pyValue)) :=
  ⟨_, pyValue_map entries, (List.mergeSort_perm entries _).map _⟩

theorem mem_sortByKey {entries : List (MapKey × CborValue)} {entry : MapKey × CborValue} :
    entry ∈ sortByKey entries ↔ entry ∈ entries := List.mem_mergeSort

/-- What can be encoded is read back at every depth beyond its length. -/
def ReadsBack (value : CborValue) : Prop :=
  value.DistinctKeys → ∀ bytes, value.encode = .ok bytes → ∀ depth, bytes.length < depth →
    ReadBack depth value bytes

theorem length_le_flatMap {α : Type} {items : List α} {chunk : α → Bytes} {item : α}
    (hitem : item ∈ items) : (chunk item).length ≤ (items.flatMap chunk).length := by
  rw [List.flatMap_def]
  exact (List.sublist_flatten_of_mem (List.mem_map_of_mem hitem)).length_le

/-- A value without values inside is read back at every depth. -/
theorem readsBack_leaf {value : CborValue}
    (hleaf : ∀ depth bytes, value.encode = .ok bytes → ReadBack (depth + 1) value bytes) :
    ReadsBack value := by
  intro _ bytes hencode depth hdepth
  obtain ⟨depth, rfl⟩ := Nat.exists_eq_add_one_of_ne_zero (Nat.ne_zero_of_lt hdepth)
  exact hleaf depth bytes hencode

theorem readsBack_int (value : ℤ) : ReadsBack (.int value) :=
  readsBack_leaf fun _ _ hencode => readBack_int (by rwa [encode] at hencode)

theorem readsBack_bytes (data : Bytes) : ReadsBack (.bytes data) :=
  readsBack_leaf fun _ _ hencode => readBack_bytes (by rwa [encode] at hencode)

theorem readsBack_text (text : String) : ReadsBack (.text text) :=
  readsBack_leaf fun _ _ hencode => readBack_text (by rwa [encode] at hencode)

theorem readsBack_key : ∀ key : MapKey, ReadsBack key.toValue
  | .int value => readsBack_int value
  | .text value => readsBack_text value

theorem distinctKeys_key (key : MapKey) : key.toValue.DistinctKeys := by
  cases key <;> trivial

theorem readsBack_array {items : List CborValue} (hitems : ∀ item ∈ items, ReadsBack item) :
    ReadsBack (.array items) := by
  intro hdistinct bytes hencode depth hdepth
  rw [encode] at hencode
  obtain ⟨chunks, hchunks, harray⟩ := except_bind_eq_ok.mp hencode
  obtain ⟨rfl, hvalues⟩ := encodeItems_eq_ok hchunks
  obtain ⟨head, hhead, hbytes⟩ := except_bind_eq_ok.mp harray
  obtain ⟨hlength, rfl⟩ := byteHeader_eq_ok.mp hhead
  obtain rfl := except_pure_eq_ok.mp hbytes
  rw [List.length_map] at hlength hdepth ⊢
  rw [← List.flatMap_def] at hdepth ⊢
  obtain ⟨depth, rfl⟩ := Nat.exists_eq_add_one_of_ne_zero (Nat.ne_zero_of_lt hdepth)
  have hhead := length_header 0x80 items.length
  refine readBack_array hlength fun item hitem => ?_
  refine hitems item hitem (distinctItems_iff.mp hdistinct item hitem) _ (hvalues item hitem) _ ?_
  have hle : item.encoded.length ≤ (items.flatMap encoded).length := length_le_flatMap hitem
  rw [List.length_append] at hdepth
  omega

theorem readsBack_map {entries : List (MapKey × CborValue)}
    (hentries : ∀ entry ∈ entries, ReadsBack entry.2) : ReadsBack (.map entries) := by
  intro hdistinct bytes hencode depth hdepth
  obtain ⟨hnodup, hdistinct⟩ := hdistinct
  obtain ⟨hvalues, hlength, rfl⟩ := encode_map hencode
  have hsize : (sortByKey entries).length = entries.length := List.length_mergeSort entries
  obtain ⟨depth, rfl⟩ := Nat.exists_eq_add_one_of_ne_zero (Nat.ne_zero_of_lt hdepth)
  have hhead := length_header (5 * 32) (sortByKey entries).length
  rw [List.length_append] at hdepth
  have hread : ∀ entry ∈ sortByKey entries,
      ReadBack depth entry.1.toValue entry.1.bytes ∧ ReadBack depth entry.2 entry.2.encoded := by
    intro entry hentry
    have hmem := mem_sortByKey.mp hentry
    obtain ⟨hkey, hvalue⟩ := hvalues entry hmem
    have hle := @length_le_flatMap _ _ (fun entry : MapKey × CborValue =>
      entry.1.bytes ++ entry.2.encoded) _ hentry
    rw [List.length_append] at hle
    rw [← MapKey.encode_toValue] at hkey
    exact ⟨readsBack_key entry.1 (distinctKeys_key entry.1) _ hkey _ (by omega),
      hentries entry hmem (distinctEntries_iff.mp hdistinct entry hmem) _ hvalue _ (by omega)⟩
  have hsorted : ((sortByKey entries).map Prod.fst).Nodup :=
    ((List.mergeSort_perm entries _).map Prod.fst).nodup_iff.mpr hnodup
  constructor
  · intro hsmall
    rw [hasLargeInt, hasLargeEntry_eq, List.any_eq_false] at hsmall
    rw [pyValue_map]
    refine reads_entries hsorted (by omega) fun entry hentry mapping => ?_
    obtain ⟨hkey, hvalue⟩ := hread entry hentry
    have hboth := hsmall entry (mem_sortByKey.mp hentry)
    simp only [Bool.or_eq_true, not_or, Bool.not_eq_true] at hboth
    exact reads_entry hkey hvalue hboth.1 hboth.2 mapping
  · intro hlarge
    rw [hasLargeInt, hasLargeEntry_eq, List.any_eq_true] at hlarge
    obtain ⟨large, hmem, hlarge⟩ := hlarge
    rw [Bool.or_eq_true] at hlarge
    have hmem := mem_sortByKey.mpr hmem
    refine fails_entries (by omega) (fun entry hentry => ?_)
      ⟨large, hmem, fails_entry (hread large hmem).1 (hread large hmem).2 hlarge⟩
    obtain ⟨hkey, hvalue⟩ := hread entry hentry
    by_cases hfails : entry.1.isLarge = true ∨ entry.2.hasLargeInt = true
    · exact .inr (fails_entry hkey hvalue hfails)
    · simp only [not_or, Bool.not_eq_true] at hfails
      exact .inl (reads_entry hkey hvalue hfails.1 hfails.2)

theorem readsBack_tag {number : ℕ} {value : CborValue} (hvalue : ReadsBack value) :
    ReadsBack (.tag number value) := by
  intro hdistinct bytes hencode depth hdepth
  rw [encode] at hencode
  obtain ⟨item, hitem, htag⟩ := except_bind_eq_ok.mp hencode
  obtain ⟨head, hhead, hbytes⟩ := except_bind_eq_ok.mp htag
  obtain ⟨hnumber, rfl⟩ := byteHeader_eq_ok.mp hhead
  obtain rfl := except_pure_eq_ok.mp hbytes
  obtain ⟨depth, rfl⟩ := Nat.exists_eq_add_one_of_ne_zero (Nat.ne_zero_of_lt hdepth)
  have hhead := length_header 0xC0 number
  rw [List.length_append] at hdepth
  exact readBack_tag hnumber (hvalue hdistinct item hitem depth (by omega))

mutual

theorem readsBack : ∀ value : CborValue, ReadsBack value
  | .int value => readsBack_int value
  | .bytes data => readsBack_bytes data
  | .text value => readsBack_text value
  | .array items => readsBack_array (readsBackItems items)
  | .map entries => readsBack_map (readsBackEntries entries)
  | .tag _ value => readsBack_tag (readsBack value)

theorem readsBackItems : ∀ items : List CborValue, ∀ item ∈ items, ReadsBack item
  | [] => nofun
  | item :: items => List.forall_mem_cons.mpr ⟨readsBack item, readsBackItems items⟩

theorem readsBackEntries : ∀ entries : List (MapKey × CborValue), ∀ entry ∈ entries,
    ReadsBack entry.2
  | [] => nofun
  | (_, value) :: entries =>
      List.forall_mem_cons.mpr ⟨readsBack value, readsBackEntries entries⟩

end

theorem readBack_decode {value : CborValue} {bytes : Bytes} (hdistinct : value.DistinctKeys)
    (hencode : value.encode = .ok bytes) (rest : Bytes) :
    ReadBack ((bytes ++ rest).length + 1) value bytes := by
  refine readsBack value hdistinct bytes hencode _ ?_
  rw [List.length_append]
  omega

/-- Without large numbers what was encoded is decoded. -/
theorem decodeCborItem_encode {value : CborValue} {bytes : Bytes} (hdistinct : value.DistinctKeys)
    (hsmall : value.hasLargeInt = false) (hencode : value.encode = .ok bytes) (rest : Bytes) :
    decodeCborItem (bytes ++ rest) 0 = .ok (value.pyValue, bytes.length) := by
  have hdecoded := (readBack_decode hdistinct hencode rest).reads hsmall [] rest
  rwa [List.nil_append, List.length_nil, Nat.zero_add] at hdecoded

/-- What can be encoded is decoded again, whatever comes after it, unless a number from 2¹⁶ on
occurs in it. -/
theorem decodeCborItem_encode_iff {value : CborValue} {bytes : Bytes}
    (hdistinct : value.DistinctKeys) (hencode : value.encode = .ok bytes) :
    (∀ rest, decodeCborItem (bytes ++ rest) 0 = .ok (value.pyValue, bytes.length)) ↔
      value.hasLargeInt = false := by
  constructor
  · intro hdecodes
    by_contra hlarge
    rw [Bool.not_eq_false] at hlarge
    obtain ⟨failure, hfailure⟩ := (readBack_decode hdistinct hencode []).fails hlarge [] []
    exact absurd ((hdecodes []).symm.trans hfailure) nofun
  · intro hsmall rest
    exact decodeCborItem_encode hdistinct hsmall hencode rest

/-- A tagged array with a map inside. -/
def taggedValue : CborValue :=
  .tag 18 (.array [.bytes [1, 2], .map [(.int 1, .int (-8))], .text "kid", .int 300])

def taggedBytes : Bytes :=
  [0xd2, 0x84, 0x42, 1, 2, 0xa1, 1, 0x27, 0x63, 0x6b, 0x69, 0x64, 0x19, 1, 0x2c]

theorem encode_tagged : taggedValue.encode = .ok taggedBytes := by
  have hentry : encodeCborMap [(.int 1, [0x27])] = .ok [0xa1, 1, 0x27] := by
    have hsorted : sortEntries [([1], [0x27])] = [([1], [0x27])] := List.mergeSort_singleton _
    change Except.ok ([0xa1] ++ (sortEntries [([1], [0x27])]).flatMap
      fun entry : Bytes × Bytes => entry.1 ++ entry.2) = _
    rw [hsorted]
    rfl
  change (do
    let map ← encodeCborMap [(.int 1, [0x27])]
    encodeCborTag 18 (← encodeCborArray
      [[0x42, 1, 2], map, [0x63, 0x6b, 0x69, 0x64], [0x19, 1, 0x2c]])) = _
  rw [hentry]
  rfl

theorem decodeCborItem_encode_iff_tagged :
    decodeCborItem (taggedBytes ++ [7]) 0 = .ok (taggedValue.pyValue, 15) :=
  (decodeCborItem_encode_iff (by simp [taggedValue, DistinctKeys, DistinctItems, DistinctEntries])
    encode_tagged).mpr rfl [7]

/-- The smallest number that is encoded in a head of five bytes. -/
theorem decodeCborItem_large :
    (CborValue.int 0x10000).encode = .ok [26, 0, 1, 0, 0] ∧
      decodeCborItem [26, 0, 1, 0, 0] 0 =
        .error (.valueError "scitt export: unsupported CBOR length") :=
  ⟨rfl, rfl⟩

end Whole

end PaybondKit.Receipt.Scitt
