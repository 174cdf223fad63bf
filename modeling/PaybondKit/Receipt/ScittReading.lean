import PaybondKit.Receipt.Scitt

/-!
# What the verifier of SCITT exports reads

The verifier does not ask for one encoding: it accepts an export with any bytes that decode to the
array of one that it accepts. It raises value errors, and on bytes that are no CBOR of the kind
that it knows also the errors of an index and of a key.
-/

namespace PaybondKit.Receipt.Scitt

open Agent (PyExc)

/-! ## Errors -/

/-- `ValueError` and its subclass. -/
def IsValueError : PyExc → Prop
  | .valueError _ => True
  | .other name _ => name = "UnicodeDecodeError"
  | _ => False

/-- What the decoder raises. -/
def DecodeError : PyExc → Prop
  | .other name _ => name ∈ ["UnicodeDecodeError", "IndexError", "TypeError"]
  | failure => IsValueError failure

theorem decodeError_of_isValueError {failure : PyExc} (hfailure : IsValueError failure) :
    DecodeError failure := by
  cases failure with
  | other name message =>
      obtain rfl := hfailure
      exact List.mem_cons_self
  | _ => exact hfailure

theorem byteAt_raises (data : Bytes) (offset : ℕ) : Raises DecodeError (byteAt data offset) := by
  unfold byteAt
  split
  next => exact raises_ok _
  next => exact raises_error (by simp [DecodeError])

theorem byteAt_lt {data : Bytes} {offset byte : ℕ} (hbyte : byteAt data offset = .ok byte) :
    offset < data.length := by
  unfold byteAt at hbyte
  split at hbyte
  next found hfound => exact (List.getElem?_eq_some_iff.mp hfound).1
  next => cases hbyte

theorem readCborLength_within (additional depth : ℕ) :
    (readCborLength additional).Within DecodeError depth := by
  intro data offset _
  unfold readCborLength
  split
  next =>
    refine ⟨fun value cursor hread => ?_, raises_ok _⟩
    cases hread
    exact Nat.le_refl _
  next =>
    split
    next =>
      refine ⟨fun value cursor hread => ?_, ?_⟩
      · simp only [except_bind_eq_ok, except_pure_eq_ok] at hread
        obtain ⟨byte, -, hread⟩ := hread
        cases hread
        omega
      · exact (byteAt_raises data offset).bind fun _ _ => raises_ok _
    next =>
      split
      next =>
        refine ⟨fun value cursor hread => ?_, ?_⟩
        · simp only [except_bind_eq_ok, except_pure_eq_ok] at hread
          obtain ⟨high, -, low, -, hread⟩ := hread
          cases hread
          omega
        · refine (byteAt_raises data offset).bind fun _ _ => ?_
          exact (byteAt_raises data _).bind fun _ _ => raises_ok _
      next =>
        refine ⟨fun value cursor hread => ?_, raises_error trivial⟩
        cases hread

/-- A head takes at least a byte. -/
theorem readHead_lt {data : Bytes} {offset cursor : ℕ} {head : ℕ × ℕ}
    (hread : readHead data offset = .ok (head, cursor)) :
    offset < data.length ∧ offset < cursor := by
  simp only [readHead, except_bind_eq_ok, except_pure_eq_ok] at hread
  obtain ⟨initial, hinitial, _, -, ⟨length, next⟩, hlength, hread⟩ := hread
  cases hread
  have hnext := (readCborLength_within _ (data.length + 1) data (offset + 1) (by omega)).1
    length next hlength
  exact ⟨byteAt_lt hinitial, by omega⟩

theorem readHead_raises (data : Bytes) (offset : ℕ) :
    Raises DecodeError (readHead data offset) := by
  unfold readHead
  refine (byteAt_raises data offset).bind fun initial _ => ?_
  refine Raises.bind ?_ fun _ _ => ?_
  · unfold raiseIf
    split
    next => exact raises_error trivial
    next => exact raises_ok _
  · have hlength := (readCborLength_within (initial &&& 0x1F) (data.length + 1) data (offset + 1)
      (by omega)).2
    exact hlength.bind fun _ _ => raises_ok _

theorem textItem_within (data : Bytes) (depth : ℕ) :
    (textItem data).Within DecodeError depth := by
  unfold textItem
  split
  next text _ => exact Reader.within_pure _
  next failure hfailure =>
    refine Reader.within_fail ?_
    unfold decodeUtf8 at hfailure
    split at hfailure
    next => cases hfailure
    next =>
      cases hfailure
      exact List.mem_cons_self

theorem key_raises (item : CborItem) : Raises DecodeError item.key := by
  cases item with
  | list _ => exact raises_error (by simp [DecodeError])
  | dict _ => exact raises_error (by simp [DecodeError])
  | _ => exact raises_ok _

theorem readSlice_within (length depth : ℕ) : (readSlice length).Within DecodeError depth := by
  intro data offset _
  refine ⟨fun value cursor hread => ?_, raises_ok _⟩
  cases hread
  omega

theorem readEntry_within {read : Reader UInt8 PyExc CborItem} {depth : ℕ}
    (hread : read.Within DecodeError depth) (mapping : OrderedDict CborKey CborItem) :
    (readEntry read mapping).Within DecodeError depth := by
  refine hread.andThen fun key => hread.andThen fun value => ?_
  have hkey := key_raises key
  split
  next => exact Reader.within_pure _
  next failure hfailure => exact Reader.within_fail (hkey failure hfailure)

theorem readBody_within {read : Reader UInt8 PyExc CborItem} {depth : ℕ}
    (hread : read.Within DecodeError depth) (major length : ℕ) :
    (readBody read major length).Within DecodeError depth := by
  unfold readBody
  split
  · exact Reader.within_pure _
  · exact Reader.within_pure _
  · exact (readSlice_within length depth).andThen fun _ => Reader.within_pure _
  · exact (readSlice_within length depth).andThen fun data => textItem_within data depth
  · refine (Reader.Within.iterate (fun items => ?_) length []).andThen fun _ => Reader.within_pure _
    exact hread.andThen fun _ => Reader.within_pure _
  · refine (Reader.Within.iterate (fun mapping => ?_) length _).andThen fun _ =>
      Reader.within_pure _
    exact readEntry_within hread mapping
  · exact hread.andThen fun _ => Reader.within_pure _

/-- No item is nested as deep as there are bytes. -/
theorem readItem_within (depth : ℕ) : (readItem (depth + 1)).Within DecodeError (depth + 1) := by
  induction depth with
  | zero =>
      intro data offset hdepth
      -- there is no byte for a head
      have hnone : ∀ head cursor, readHead data offset ≠ .ok (head, cursor) := by
        intro head cursor hread
        have hlt := (readHead_lt hread).1
        omega
      refine ⟨fun value cursor hread => ?_, (readHead_raises data offset).bind fun result hread => ?_⟩
      · simp only [readItem, Reader.andThen, except_bind_eq_ok] at hread
        obtain ⟨⟨head, next⟩, hhead, -⟩ := hread
        exact absurd hhead (hnone head next)
      · exact absurd hread (hnone result.1 result.2)
  | succ depth ih =>
      intro data offset hdepth
      have hbody : ∀ major length cursor, readHead data offset = .ok ((major, length), cursor) →
          data.length < cursor + (depth + 1) := by
        intro major length cursor hread
        have hlt := (readHead_lt hread).2
        omega
      refine ⟨fun value cursor hread => ?_, (readHead_raises data offset).bind fun result hread => ?_⟩
      · simp only [readItem, Reader.andThen, except_bind_eq_ok] at hread
        obtain ⟨⟨⟨major, length⟩, next⟩, hhead, hread⟩ := hread
        have hnext := (readBody_within ih major length data next
          (hbody major length next hhead)).1 value cursor hread
        have hlt := (readHead_lt hhead).2
        omega
      · obtain ⟨⟨major, length⟩, cursor⟩ := result
        exact (readBody_within ih major length data cursor (hbody major length cursor hread)).2

theorem decodeCborItem_raises (data : Bytes) : Raises DecodeError (decodeCborItem data 0) :=
  (readItem_within data.length data 0 (by omega)).2

/-! ## The array of an export -/

/-- The items of the array under the tag. -/
def DecodedArray (data : Bytes) (items : List CborItem) : Prop :=
  ∃ tagged cursor, decodeCborItem data 0 = .ok (tagged, cursor) ∧ readTagged tagged = .ok items

theorem readCose_congr {data data' : Bytes} {items : List CborItem}
    (hdecoded : DecodedArray data items) (hdecoded' : DecodedArray data' items) :
    readCose data = readCose data' := by
  obtain ⟨tagged, cursor, hread, htagged⟩ := hdecoded
  obtain ⟨tagged', cursor', hread', htagged'⟩ := hdecoded'
  simp only [readCose, hread, htagged, hread', htagged', except_ok_bind]

theorem decodedArray_of_readCose {data : Bytes} {cose : Cose} (hread : readCose data = .ok cose) :
    ∃ unprotected, DecodedArray data
      [.bytes cose.protectedHeader, unprotected, .bytes cose.payload, .bytes cose.signature] := by
  have hbytes : ∀ {item : CborItem} {message : String} {bytes : Bytes},
      requireBstr item message = .ok bytes → item = .bytes bytes := by
    intro item message bytes hitem
    cases item with
    | bytes data =>
        cases hitem
        rfl
    | _ => cases hitem
  simp only [readCose, except_bind_eq_ok] at hread
  obtain ⟨⟨tagged, cursor⟩, hdecoded, items, htagged, hread⟩ := hread
  split at hread
  next protectedRaw unprotected payload signature =>
    simp only [except_bind_eq_ok, except_pure_eq_ok] at hread
    obtain ⟨header, hheader, body, hbody, signed, hsigned, rfl⟩ := hread
    obtain rfl := hbytes hheader
    obtain rfl := hbytes hbody
    obtain rfl := hbytes hsigned
    exact ⟨unprotected, tagged, cursor, hdecoded, htagged⟩
  next => cases hread

/-- What the encoders write is read with anything after it. -/
theorem decodedArray_encode {values : List CborValue} {data : Bytes}
    (hdistinct : CborValue.DistinctItems values) (hsmall : CborValue.hasLargeItem values = false)
    (hencode : (CborValue.tag coseSign1Tag (.array values)).encode = .ok data) (rest : Bytes) :
    DecodedArray (data ++ rest) (CborValue.pyItems values) := by
  have hkeys : (CborValue.tag coseSign1Tag (.array values)).DistinctKeys := by
    simpa [CborValue.DistinctKeys] using hdistinct
  have hlarge : (CborValue.tag coseSign1Tag (.array values)).hasLargeInt = false := by
    simpa [CborValue.hasLargeInt] using hsmall
  refine ⟨_, _, decodeCborItem_encode hkeys hlarge hencode rest, ?_⟩
  rw [CborValue.pyValue, CborValue.pyValue]
  rfl

section Verified

variable {platform : ScittPlatform}

/-- The bytes matter by the array that they decode to. -/
theorem verify_congr_array {exportDoc other : Mapping} {data data' : Bytes} {items : List CborItem}
    (hsame : ∀ key, key ≠ "cose_sign1_tag18_hex" → other.getValue key = exportDoc.getValue key)
    (hdata : coseBytes platform exportDoc = .ok data)
    (hdata' : coseBytes platform other = .ok data') (hdecoded : DecodedArray data items)
    (hdecoded' : DecodedArray data' items) :
    verifyAgentReceiptScittExport platform other =
      verifyAgentReceiptScittExport platform exportDoc := by
  simp only [verifyAgentReceiptScittExport, hsame "kind" (by decide),
    hsame "message_digest_sha256_hex" (by decide), hsame "statement" (by decide),
    hsame "receipt_id" (by decide), hsame "signing_public_key_ed25519_hex" (by decide), hdata,
    hdata', except_ok_bind, readCose_congr hdecoded hdecoded']

theorem decodedArray_of_verify {exportDoc : Mapping}
    (hverify : verifyAgentReceiptScittExport platform exportDoc = .ok ()) :
    ∃ data protectedHeader unprotected payload signature, coseBytes platform exportDoc = .ok data ∧
      DecodedArray data [.bytes protectedHeader, unprotected, .bytes payload, .bytes signature] := by
  simp only [verifyAgentReceiptScittExport, except_bind_eq_ok, raiseIf_eq_ok] at hverify
  obtain ⟨_, -, digest, -, statement, -, _, -, _, -, data, hdata, cose, hcose, -⟩ := hverify
  obtain ⟨unprotected, hdecoded⟩ := decodedArray_of_readCose hcose
  exact ⟨data, _, unprotected, _, _, hdata, hdecoded⟩

theorem raiseIf_raises {condition : Prop} [Decidable condition] (message : String) :
    Raises DecodeError (raiseIf condition (.valueError message)) := by
  unfold raiseIf
  split
  next => exact raises_error trivial
  next => exact raises_ok _

theorem requireExportHex64_raises (value : PyValue) (field : String) :
    Raises DecodeError (requireExportHex64 platform value field) := by
  unfold requireExportHex64 checked
  split
  next => exact raises_ok _
  next => exact raises_error trivial

theorem sizedHeader_raises (major n : ℕ) (tooLarge : String) :
    Raises DecodeError (sizedHeader major n tooLarge) := by
  unfold sizedHeader
  split
  next => exact raises_ok _
  next => exact raises_error trivial

theorem sigStructure_raises (protectedHeader payload : Bytes) :
    Raises DecodeError (sigStructure protectedHeader payload) := by
  have hbstr : ∀ data, Raises DecodeError (encodeCborBstr data) := fun data =>
    (sizedHeader_raises _ _ _).bind fun _ _ => raises_ok _
  have hcontext : Raises DecodeError (encodeCborTstr "Signature1") :=
    (sizedHeader_raises _ _ _).bind fun _ _ => raises_ok _
  refine hcontext.bind fun context _ => (hbstr protectedHeader).bind fun header _ => ?_
  exact (hbstr []).bind fun blank _ => (hbstr payload).bind fun body _ => raises_ok _

theorem coseBytes_raises (exportDoc : Mapping) :
    Raises DecodeError (coseBytes platform exportDoc) := by
  refine Raises.bind ?_ fun _ _ => raises_ok _
  unfold bytesFromHex
  split
  next => exact raises_ok _
  next => exact raises_error trivial

theorem readTagged_raises (item : CborItem) : Raises DecodeError (readTagged item) := by
  unfold readTagged
  split
  next =>
    split
    next =>
      split
      next => exact raises_error trivial
      next =>
        split
        next => exact raises_ok _
        next => exact raises_error trivial
    next => exact raises_error trivial
  next => exact raises_error trivial

theorem requireBstr_raises (item : CborItem) (message : String) :
    Raises DecodeError (requireBstr item message) := by
  cases item with
  | bytes data => exact raises_ok _
  | _ => exact raises_error trivial

theorem readCose_raises (data : Bytes) : Raises DecodeError (readCose data) := by
  refine (decodeCborItem_raises data).bind fun result _ => ?_
  refine (readTagged_raises result.1).bind fun items _ => ?_
  split
  next =>
    refine (requireBstr_raises _ _).bind fun _ _ => ?_
    refine (requireBstr_raises _ _).bind fun _ _ => ?_
    exact (requireBstr_raises _ _).bind fun _ _ => raises_ok _
  next => exact raises_error trivial

theorem verify_raises (exportDoc : Mapping) :
    Raises DecodeError (verifyAgentReceiptScittExport platform exportDoc) := by
  unfold verifyAgentReceiptScittExport
  refine (raiseIf_raises _).bind fun _ _ => ?_
  refine (requireExportHex64_raises _ _).bind fun digest _ => ?_
  refine Raises.bind ?_ fun statement _ => ?_
  · cases exportDoc.getValue "statement" with
    | dict items => exact raises_ok _
    | _ => exact raises_error trivial
  refine (raiseIf_raises _).bind fun _ _ => (raiseIf_raises _).bind fun _ _ => ?_
  refine (coseBytes_raises exportDoc).bind fun data _ => (readCose_raises data).bind fun cose _ => ?_
  refine (raiseIf_raises _).bind fun _ _ => ?_
  refine (sigStructure_raises _ _).bind fun message _ => ?_
  exact (requireExportHex64_raises _ _).bind fun publicKey _ => raiseIf_raises _

end Verified

section Trailing

theorem getValue_exported_cose (cose cose' : Bytes) {key : String}
    (hkey : key ≠ "cose_sign1_tag18_hex") :
    (exported cose' issuerExported).fields.mapping.getValue key =
      (exported cose issuerExported).fields.mapping.getValue key := by
  have hsplit : ∃ front back : List (String × Option PyValue), ∀ data : Bytes,
      (exported data issuerExported).fields.entries =
        front ++ ("cose_sign1_tag18_hex", some (.str (hexOf data))) :: back :=
    ⟨(exported cose issuerExported).fields.entries.take 5,
      (exported cose issuerExported).fields.entries.drop 6, fun _ => rfl⟩
  obtain ⟨front, back, hfields⟩ := hsplit
  have hsame : (exported cose' issuerExported).fields.mapping.get? key =
      (exported cose issuerExported).fields.mapping.get? key := by
    rw [OrderedDict.Fields.get?_mapping, OrderedDict.Fields.get?_mapping, hfields, hfields,
      OrderedDict.fieldValue_append_cons_ne hkey.symm,
      OrderedDict.fieldValue_append_cons_ne hkey.symm]
  rw [OrderedDict.getValue, hsame, OrderedDict.getValue]

/-- The array of an export that was built. -/
def valuesExported (header payload : Bytes) : List CborValue :=
  [.bytes header, .map [], .bytes payload, .bytes []]

theorem distinctItems_exported (header payload : Bytes) :
    CborValue.DistinctItems (valuesExported header payload) := by
  simp [valuesExported, CborValue.DistinctItems, CborValue.DistinctKeys, CborValue.DistinctEntries]

/-- The array is read with a byte after it, and the export is accepted. -/
theorem verify_trailing_byte : ∃ header payload cose,
    (CborValue.tag coseSign1Tag (.array (valuesExported header payload))).encode = .ok cose ∧
      verifyAgentReceiptScittExport platformExported
        (exported (cose ++ [7]) issuerExported).fields.mapping = .ok () ∧
      DecodedArray (cose ++ [7]) (CborValue.pyItems (valuesExported header payload)) := by
  obtain ⟨header, payload, cose, hcose, hbuild⟩ := build_exported_cose
  rw [coseSign1_eq] at hcose
  have hdecoded := decodedArray_encode (distinctItems_exported header payload) rfl hcose
  have hplain := hdecoded []
  rw [List.append_nil] at hplain
  refine ⟨header, payload, cose, hcose, ?_, hdecoded [7]⟩
  rw [verify_congr_array (fun _ hkey => getValue_exported_cose cose (cose ++ [7]) hkey)
    (coseBytes_fields lowerLaws_exported (exported cose issuerExported))
    (coseBytes_fields lowerLaws_exported (exported (cose ++ [7]) issuerExported)) hplain
    (hdecoded [7])]
  exact (verify_build lowerLaws_exported laws_exported hbuild).1

theorem eq_bytes_of_pyValue {value : CborValue} {data : Bytes}
    (hvalue : value.pyValue = .bytes data) : value = .bytes data := by
  cases value with
  | bytes data' => exact congrArg CborValue.bytes (CborItem.bytes.inj hvalue)
  | _ => simp [CborValue.pyValue] at hvalue

theorem eq_map_nil_of_pyValue {value : CborValue} (hvalue : value.pyValue = .dict []) :
    value = .map [] := by
  cases value with
  | map entries =>
      obtain ⟨items, hitems, hperm⟩ := pyValue_map_perm entries
      rw [hvalue] at hitems
      cases hitems
      rw [List.map_eq_nil_iff.mp hperm.nil_eq.symm]
  | tag number value => simp [CborValue.pyValue] at hvalue
  | _ => simp [CborValue.pyValue] at hvalue

/-- The array determines the values that were encoded. -/
theorem eq_valuesExported {header payload : Bytes} {values : List CborValue}
    (hvalues : CborValue.pyItems values = CborValue.pyItems (valuesExported header payload)) :
    values = valuesExported header payload := by
  rw [CborValue.pyItems_eq] at hvalues
  obtain ⟨first, rest, rfl, hfirst, hrest⟩ := List.map_eq_cons_iff.mp hvalues
  obtain ⟨second, rest, rfl, hsecond, hrest⟩ := List.map_eq_cons_iff.mp hrest
  obtain ⟨third, rest, rfl, hthird, hrest⟩ := List.map_eq_cons_iff.mp hrest
  obtain ⟨fourth, rest, rfl, hfourth, hrest⟩ := List.map_eq_cons_iff.mp hrest
  have hnil : (CborValue.map []).pyValue = .dict [] := by
    obtain ⟨items, hitems, hperm⟩ := pyValue_map_perm []
    rw [hitems, hperm.eq_nil]
  rw [List.map_eq_nil_iff.mp hrest, eq_bytes_of_pyValue hfirst,
    eq_map_nil_of_pyValue (hsecond.trans hnil), eq_bytes_of_pyValue hthird,
    eq_bytes_of_pyValue hfourth, valuesExported]

end Trailing

end PaybondKit.Receipt.Scitt
