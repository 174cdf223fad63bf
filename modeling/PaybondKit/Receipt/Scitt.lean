import PaybondKit.Foundation.PyEquality
import PaybondKit.Receipt.JsonDigest
import PaybondKit.Receipt.ScittCbor
import PaybondKit.Receipt.SignedPart

/-!
# SCITT exports

The export of a receipt digest as a signed COSE structure. The protected header that is built
names the issuer, the receipt and the key. The verifier ties the statement of an export to what
was signed, and leaves the header as it is.
-/

namespace PaybondKit.Receipt.Scitt

open Agent (PyExc)

/-- Ed25519 over messages. -/
structure MessageKeys where
  publicKey : ByteArray → ByteArray
  sign : ByteArray → Bytes → Bytes
  verify : ByteArray → Bytes → Bytes → Bool

structure ScittPlatform extends Platform where
  keys : MessageKeys

def exportKindV1 : String := "paybond.agent_receipt_scitt_export_v1"
def statementKindV1 : String := "paybond.agent_receipt_scitt_statement_v1"
def coseAlgEddsa : ℤ := -8
def coseHeaderAlg : ℤ := 1
def coseHeaderKid : ℤ := 4
def coseHeaderCwtClaims : ℤ := 15
def cwtClaimIss : ℤ := 1
def cwtClaimSub : ℤ := 2
def coseSign1Tag : ℕ := 18

def hexOf (data : Bytes) : String := hexOfBytes ⟨data.toArray⟩

section Export

variable (platform : ScittPlatform)

def requireExportHex64 (value : PyValue) (field : String) : Except PyExc Hex64 :=
  checked _ (.valueError s!"scitt export: {field} must be a lowercase 64-char hex digest")
    (platform.stripLower (platform.str value))

def jcsBytes (value : PyValue) : Bytes :=
  (canonicalJsonBytes platform.floatText value).data.toList

/-! ## Building -/

def buildProtectedHeader (issuer subject : String) (kid : Option String) : Except PyExc Bytes := do
  let cwtClaims ← encodeCborMap
    [(.int cwtClaimIss, ← encodeCborTstr issuer), (.int cwtClaimSub, ← encodeCborTstr subject)]
  let alg ← encodeCborInt coseAlgEddsa
  let entries := [(MapKey.int coseHeaderAlg, alg), (.int coseHeaderCwtClaims, cwtClaims)]
  match kid.bind optionalText with
  | none => encodeCborMap entries
  | some kid => encodeCborMap (entries ++ [(.int coseHeaderKid, ← encodeCborTstr kid.val)])

/-- `Sig_structure` of a message. -/
def sigStructure (protectedHeader payload : Bytes) : Except PyExc Bytes := do
  encodeCborArray [← encodeCborTstr "Signature1", ← encodeCborBstr protectedHeader,
    ← encodeCborBstr [], ← encodeCborBstr payload]

def coseSign1 (protectedHeader payload signature : Bytes) : Except PyExc Bytes := do
  let array ← encodeCborArray [← encodeCborBstr protectedHeader, ← encodeCborMap [],
    ← encodeCborBstr payload, ← encodeCborBstr signature]
  encodeCborTag coseSign1Tag array

def statement (receiptId : Text) (digest : Hex64) : PyFields where
  entries :=
    [("kind", some (.str statementKindV1)), ("receipt_id", some (.str receiptId.val)),
      ("message_digest_sha256_hex", some (.str digest.val))]
  nodup := by simp

/-- The fields of an export. -/
structure ExportDoc where
  receiptId : Text
  digest : Hex64
  publicKey : ByteArray
  issuer : Text
  cose : Bytes
  kid : Option Text

def ExportDoc.fields (doc : ExportDoc) : PyFields where
  entries :=
    [("kind", some (.str exportKindV1)), ("receipt_id", some (.str doc.receiptId.val)),
      ("message_digest_sha256_hex", some (.str doc.digest.val)),
      ("signing_public_key_ed25519_hex", some (.str (hexOfBytes doc.publicKey))),
      ("issuer", some (.str doc.issuer.val)),
      ("cose_sign1_tag18_hex", some (.str (hexOf doc.cose))),
      ("statement", some (.dict (statement doc.receiptId doc.digest).mapping.items)),
      ("kid", doc.kid.map fun kid => .str kid.val)]
  nodup := by simp

def buildAgentReceiptScittExport (receiptId messageDigestSha256Hex signingPrivateKeySeedHex
    issuer : String) (kid : Option String) : Except PyExc Mapping := do
  let receiptId ← requireText (.valueError "scitt export: receipt_id is required") receiptId
  let issuer ← requireText (.valueError "scitt export: issuer is required") issuer
  let digest ← requireExportHex64 platform (.str messageDigestSha256Hex) "message_digest_sha256_hex"
  let seedHex ←
    requireExportHex64 platform (.str signingPrivateKeySeedHex) "signing_private_key_seed_hex"
  let seed := bytesOfHex seedHex.val
  let payload := jcsBytes platform (.dict (statement receiptId digest).mapping.items)
  let protectedHeader ← buildProtectedHeader issuer.val receiptId.val kid
  let signature := platform.keys.sign seed (← sigStructure protectedHeader payload)
  let cose ← coseSign1 protectedHeader payload signature
  let doc : ExportDoc :=
    { receiptId, digest, publicKey := platform.keys.publicKey seed, issuer, cose
      kid := kid.bind optionalText }
  return doc.fields.mapping

/-! ## Verifying -/

/-- `item.get(key)` of a dictionary. -/
def lookup (entries : List (CborKey × CborItem)) (key : CborKey) : Option CborItem :=
  (OrderedDict.ofList entries).get? key

/-- The array under the tag. -/
def readTagged : CborItem → Except PyExc (List CborItem)
  | .dict entries =>
      match lookup entries (.text "tag"), lookup entries (.text "value") with
      | some (.int tag), value =>
          if tag ≠ coseSign1Tag then
            .error (.valueError "scitt export: expected CBOR tag 18 COSE_Sign1 array")
          else
            match value with
            | some (.list items) => .ok items
            | _ => .error (.valueError "scitt export: COSE_Sign1 must be a 4-element array")
      | _, _ => .error (.valueError "scitt export: expected CBOR tag 18 COSE_Sign1 array")
  | _ => .error (.valueError "scitt export: expected CBOR tag 18 COSE_Sign1 array")

def requireBstr (item : CborItem) (message : String) : Except PyExc Bytes :=
  match item with
  | .bytes data => .ok data
  | _ => .error (.valueError message)

/-- What a COSE structure signs, and the signature. -/
structure Cose where
  protectedHeader : Bytes
  payload : Bytes
  signature : Bytes

def readCose (data : Bytes) : Except PyExc Cose := do
  let (tagged, _) ← decodeCborItem data 0
  match ← readTagged tagged with
  | [protectedRaw, _, payload, signature] => do
      return {
        protectedHeader := ← requireBstr protectedRaw "scitt export: protected header must be bstr"
        payload := ← requireBstr payload "scitt export: payload must be bstr"
        signature := ← requireBstr signature "scitt export: signature must be bstr" }
  | _ => .error (.valueError "scitt export: COSE_Sign1 must be a 4-element array")

def requireStatement : PyValue → Except PyExc Mapping
  | .dict items => .ok (.ofList items)
  | _ => .error (.valueError "scitt export: statement must be an object")

/-- `bytes.fromhex` of the COSE field. -/
def coseBytes (exportDoc : Mapping) : Except PyExc Bytes := do
  let data ← bytesFromHex
    (platform.stripLower (platform.strOrBlank (exportDoc.getValue "cose_sign1_tag18_hex")))
  return data.data.toList

def verifyAgentReceiptScittExport (exportDoc : Mapping) : Except PyExc Unit := do
  raiseIf ((exportDoc.getValue "kind").asStr ≠ some exportKindV1)
    (.valueError "scitt export: unexpected kind")
  let digest ← requireExportHex64 platform (exportDoc.getValue "message_digest_sha256_hex")
    "message_digest_sha256_hex"
  let statement ← requireStatement (exportDoc.getValue "statement")
  raiseIf ((statement.getValue "message_digest_sha256_hex").asStr ≠ some digest.val)
    (.valueError "scitt export: statement digest mismatch")
  raiseIf (PyValue.pyEq (statement.getValue "receipt_id") (exportDoc.getValue "receipt_id") = false)
    (.valueError "scitt export: statement receipt_id mismatch")
  let cose ← readCose (← coseBytes platform exportDoc)
  raiseIf (cose.payload ≠ jcsBytes platform (.dict statement.items))
    (.valueError "scitt export: COSE payload mismatch")
  let message ← sigStructure cose.protectedHeader cose.payload
  let publicKeyHex ← requireExportHex64 platform
    (exportDoc.getValue "signing_public_key_ed25519_hex") "signing_public_key_ed25519_hex"
  raiseIf (platform.keys.verify (bytesOfHex publicKeyHex.val) cose.signature message = false)
    (.valueError "scitt export: COSE_Sign1 signature invalid")

end Export

/-! ## What an accepted export attests -/

section Accepted

variable {platform : ScittPlatform}

/-- What the verifier read from an export that it accepts. -/
structure Attested (platform : ScittPlatform) (exportDoc : Mapping) (digest : Hex64)
    (statement : Mapping) (cose : Cose) : Prop where
  exportDigest :
    platform.stripLower (platform.str (exportDoc.getValue "message_digest_sha256_hex")) = digest.val
  exportStatement : exportDoc.getValue "statement" = .dict statement.items
  statementDigest : statement.getValue "message_digest_sha256_hex" = .str digest.val
  receiptId :
    PyValue.pyEq (statement.getValue "receipt_id") (exportDoc.getValue "receipt_id") = true
  payload : cose.payload = jcsBytes platform (.dict statement.items)
  exportCose : ∃ data, coseBytes platform exportDoc = .ok data ∧ readCose data = .ok cose

theorem eq_str_of_asStr {value : PyValue} {text : String} (hvalue : value.asStr = some text) :
    value = .str text := by
  cases value <;> simp_all [PyValue.asStr]

theorem distinct_getValue {mapping : Mapping} (hmapping : (PyValue.dict mapping.items).Distinct)
    (key : String) : (mapping.getValue key).Distinct := by
  cases hget : mapping.get? key with
  | none =>
      rw [OrderedDict.getValue, hget]
      trivial
  | some value =>
      rw [OrderedDict.getValue, hget]
      exact (PyValue.distinct_dict.mp hmapping).2 _ (OrderedDict.get?_eq_some_iff.mp hget)

theorem attested_of_verify {exportDoc : Mapping}
    (hdistinct : (PyValue.dict exportDoc.items).Distinct)
    (hverify : verifyAgentReceiptScittExport platform exportDoc = .ok ()) :
    ∃ digest statement cose, Attested platform exportDoc digest statement cose := by
  simp only [verifyAgentReceiptScittExport, except_bind_eq_ok, raiseIf_eq_ok] at hverify
  obtain ⟨_, -, digest, hdigest, statement, hstatement, _, hstated, _, hreceipt, data, hdata, cose,
    hcose, _, hpayload, -⟩ := hverify
  have hitems : exportDoc.getValue "statement" = .dict statement.items := by
    have hvalue := distinct_getValue hdistinct "statement"
    cases hfield : exportDoc.getValue "statement" with
    | dict items =>
        rw [hfield] at hstatement hvalue
        obtain rfl := Except.ok.inj hstatement
        rw [OrderedDict.items_ofList hvalue.1]
    | _ =>
        rw [hfield] at hstatement
        cases hstatement
  exact ⟨digest, statement, cose,
    { exportDigest := checked_eq_ok.mp hdigest
      exportStatement := hitems
      statementDigest := eq_str_of_asStr (not_not.mp hstated)
      receiptId := by simpa using hreceipt
      payload := not_not.mp hpayload
      exportCose := ⟨data, hdata, hcose⟩ }⟩

theorem jcsBytes_eq_iff (htexts : FloatTexts platform.floatText) {value other : PyValue}
    (hvalue : value.Distinct) (hother : other.Distinct) :
    jcsBytes platform value = jcsBytes platform other ↔ value.SameValue other := by
  rw [← canonicalJsonBytes_eq_iff htexts hvalue hother]
  constructor
  · intro hbytes
    exact ByteArray.ext (Array.toList_inj.mp hbytes)
  · intro hbytes
    rw [jcsBytes, hbytes, jcsBytes]

/-- Exports of one COSE structure agree on what it states. -/
structure Agree (platform : ScittPlatform) (exportDoc other : Mapping) : Prop where
  statement : (exportDoc.getValue "statement").SameValue (other.getValue "statement")
  receiptId :
    PyValue.pyEq (exportDoc.getValue "receipt_id") (other.getValue "receipt_id") = true
  digest : platform.stripLower (platform.str (exportDoc.getValue "message_digest_sha256_hex")) =
    platform.stripLower (platform.str (other.getValue "message_digest_sha256_hex"))

theorem agree_of_attested (htexts : FloatTexts platform.floatText) {exportDoc other : Mapping}
    {digest digest' : Hex64} {statement statement' : Mapping} {cose : Cose}
    (hdistinct : (PyValue.dict exportDoc.items).Distinct)
    (hdistinct' : (PyValue.dict other.items).Distinct)
    (hattested : Attested platform exportDoc digest statement cose)
    (hattested' : Attested platform other digest' statement' cose) :
    Agree platform exportDoc other := by
  have hstatement := distinct_getValue hdistinct "statement"
  have hstatement' := distinct_getValue hdistinct' "statement"
  rw [hattested.exportStatement] at hstatement
  rw [hattested'.exportStatement] at hstatement'
  have hsame := (jcsBytes_eq_iff htexts hstatement hstatement').mp
    (hattested.payload.symm.trans hattested'.payload)
  have hreceipt := PyValue.pyEq_of_sameValue (PyValue.sameValue_getValue hsame "receipt_id")
    hattested'.receiptId
  have hdigest := PyValue.sameValue_getValue hsame "message_digest_sha256_hex"
  rw [hattested.statementDigest, hattested'.statementDigest] at hdigest
  constructor
  · rw [hattested.exportStatement, hattested'.exportStatement]
    exact hsame
  · exact PyValue.pyEq_of_pyEq (distinct_getValue hstatement _) (distinct_getValue hdistinct _)
      hattested.receiptId hreceipt
  · rw [hattested.exportDigest, hattested'.exportDigest]
    exact (PyValue.str.inj hdigest).symm

end Accepted

/-! ## What a built export signs -/

/-- The header is decoded to a map that names the algorithm, the issuer, the receipt and the key of
the export. -/
def HeaderNames (header : Bytes) (exportDoc : Mapping) : Prop :=
  ∃ entries claims cursor, decodeCborItem header 0 = .ok (.dict entries, cursor) ∧
    lookup entries (.int coseHeaderAlg) = some (.int coseAlgEddsa) ∧
    lookup entries (.int coseHeaderCwtClaims) = some (.dict claims) ∧
    (∃ issuer, exportDoc.getValue "issuer" = .str issuer ∧
      lookup claims (.int cwtClaimIss) = some (.text issuer)) ∧
    (∃ receiptId, exportDoc.getValue "receipt_id" = .str receiptId ∧
      lookup claims (.int cwtClaimSub) = some (.text receiptId)) ∧
    ∃ kid : Option String, exportDoc.get? "kid" = kid.map .str ∧
      lookup entries (.int coseHeaderKid) = kid.map .text

/-- The header in the COSE structure of an export. -/
def SignedMetadata (platform : ScittPlatform) (exportDoc : Mapping) : Prop :=
  ∃ data cose, coseBytes platform exportDoc = .ok data ∧ readCose data = .ok cose ∧
    HeaderNames cose.protectedHeader exportDoc

section Built

open CborValue

/-- The claims of the header. -/
def claimsEntries (issuer subject : String) : List (MapKey × CborValue) :=
  [(.int cwtClaimIss, .text issuer), (.int cwtClaimSub, .text subject)]

def headerEntries (issuer subject : String) (kid : Option Text) : List (MapKey × CborValue) :=
  [(.int coseHeaderAlg, .int coseAlgEddsa),
    (.int coseHeaderCwtClaims, .map (claimsEntries issuer subject))] ++
      (kid.map fun kid => (.int coseHeaderKid, .text kid.val)).toList

theorem buildProtectedHeader_eq (issuer subject : String) (kid : Option String) :
    buildProtectedHeader issuer subject kid =
      (CborValue.map (headerEntries issuer subject (kid.bind optionalText))).encode := by
  have halg : encodeCborInt coseAlgEddsa = .ok [0x27] := rfl
  unfold buildProtectedHeader headerEntries claimsEntries
  cases kid.bind optionalText with
  | none =>
      simp [encode, encodeEntries, halg, except_ok_bind, bind_assoc]
  | some kid =>
      simp [encode, encodeEntries, halg, except_ok_bind, bind_assoc]

theorem coseSign1_eq (protectedHeader payload signature : Bytes) :
    coseSign1 protectedHeader payload signature =
      (CborValue.tag coseSign1Tag (.array [.bytes protectedHeader, .map [], .bytes payload,
        .bytes signature])).encode := by
  simp [coseSign1, encode, encodeItems, encodeEntries, except_ok_bind, bind_assoc]

theorem lookup_of_perm {entries items : List (CborKey × CborItem)} (hperm : entries.Perm items)
    (hnodup : (items.map Prod.fst).Nodup) (key : CborKey) :
    lookup entries key = lookup items key := by
  have hnodup' : (entries.map Prod.fst).Nodup := (hperm.map Prod.fst).nodup_iff.mpr hnodup
  refine Option.ext fun value => ?_
  rw [lookup, lookup, OrderedDict.get?_eq_some_iff, OrderedDict.get?_eq_some_iff,
    OrderedDict.items_ofList hnodup', OrderedDict.items_ofList hnodup]
  exact hperm.mem_iff

/-- The entries of a decoded map are those that were encoded. -/
theorem lookup_pyValue_map {entries : List (MapKey × CborValue)}
    (hnodup : (entries.map fun entry => entry.1.key).Nodup) :
    ∃ items, (CborValue.map entries).pyValue = .dict items ∧ ∀ key,
      lookup items key = lookup (entries.map fun entry => (entry.1.key, entry.2.pyValue)) key := by
  obtain ⟨items, hitems, hperm⟩ := pyValue_map_perm entries
  refine ⟨items, hitems, lookup_of_perm hperm ?_⟩
  rwa [List.map_map]

theorem headerNames_built {issuer subject : String} {kid : Option Text} {header : Bytes}
    {exportDoc : Mapping}
    (hheader : (CborValue.map (headerEntries issuer subject kid)).encode = .ok header)
    (hissuer : exportDoc.getValue "issuer" = .str issuer)
    (hsubject : exportDoc.getValue "receipt_id" = .str subject)
    (hkid : exportDoc.get? "kid" = kid.map fun kid => .str kid.val) :
    HeaderNames header exportDoc := by
  have hdistinct : (CborValue.map (headerEntries issuer subject kid)).DistinctKeys := by
    cases kid <;> simp [headerEntries, claimsEntries, DistinctKeys, DistinctEntries, coseHeaderAlg,
      coseHeaderCwtClaims, coseHeaderKid, cwtClaimIss, cwtClaimSub]
  have hsmall : (CborValue.map (headerEntries issuer subject kid)).hasLargeInt = false := by
    cases kid <;> rfl
  have hdecoded := decodeCborItem_encode hdistinct hsmall hheader []
  rw [List.append_nil] at hdecoded
  obtain ⟨entries, hentries, hlookup⟩ := @lookup_pyValue_map (headerEntries issuer subject kid) (by
    cases kid <;> simp [headerEntries, MapKey.key, coseHeaderAlg, coseHeaderCwtClaims,
      coseHeaderKid])
  obtain ⟨claims, hclaims, hlookupClaims⟩ := @lookup_pyValue_map (claimsEntries issuer subject)
    (by simp [claimsEntries, MapKey.key, cwtClaimIss, cwtClaimSub])
  rw [hentries] at hdecoded
  refine ⟨entries, claims, header.length, hdecoded, ?_, ?_, ⟨issuer, hissuer, ?_⟩,
    ⟨subject, hsubject, ?_⟩, kid.map (·.val), ?_, ?_⟩
  · rw [hlookup]
    cases kid <;> rfl
  · rw [hlookup, ← hclaims]
    cases kid <;> rfl
  · rw [hlookupClaims]
    rfl
  · rw [hlookupClaims]
    rfl
  · rw [hkid, Option.map_map]
    rfl
  · rw [hlookup]
    cases kid <;> rfl

/-- Public keys have 32 bytes, and what a key signed is accepted. -/
structure MessageKeys.Laws (keys : MessageKeys) : Prop where
  size_publicKey : ∀ seed, seed.size = 32 → (keys.publicKey seed).size = 32
  verify_sign : ∀ seed message, seed.size = 32 →
    keys.verify (keys.publicKey seed) (keys.sign seed message) message = true

section Accepts

variable {platform : ScittPlatform} (laws : platform.LowerLaws)
include laws

theorem coseBytes_fields (doc : ExportDoc) :
    coseBytes platform doc.fields.mapping = .ok doc.cose := by
  have hfield : doc.fields.mapping.getValue "cose_sign1_tag18_hex" = .str (hexOf doc.cose) :=
    getValue_mapping (by simp [ExportDoc.fields])
  have htext : platform.strOrBlank (.str (hexOf doc.cose)) = hexOf doc.cose := by
    unfold Platform.strOrBlank
    split
    next => rfl
    next hblank =>
      have hempty : hexOf doc.cose = "" := by simpa [PyValue.truthy] using hblank
      exact hempty.symm
  rw [coseBytes, hfield, htext, hexOf, stripLower_hexOfBytes laws, bytesFromHex_hexOfBytes]
  rfl

end Accepts

theorem readCose_coseSign1 {protectedHeader payload signature cose : Bytes}
    (hcose : coseSign1 protectedHeader payload signature = .ok cose) :
    readCose cose = .ok { protectedHeader, payload, signature } := by
  rw [coseSign1_eq] at hcose
  have hdecoded := decodeCborItem_encode
    (by simp [DistinctKeys, DistinctItems, DistinctEntries]) rfl hcose []
  rw [List.append_nil] at hdecoded
  rw [readCose, hdecoded]
  rfl

/-- A built export is accepted, and its header names what the export says. -/
theorem verify_build {platform : ScittPlatform} (laws : platform.LowerLaws)
    (keys : platform.keys.Laws) {receiptId digestHex seedHex issuer : String} {kid : Option String}
    {exportDoc : Mapping}
    (hbuild : buildAgentReceiptScittExport platform receiptId digestHex seedHex issuer kid =
      .ok exportDoc) :
    verifyAgentReceiptScittExport platform exportDoc = .ok () ∧
      SignedMetadata platform exportDoc := by
  simp only [buildAgentReceiptScittExport, except_bind_eq_ok, except_pure_eq_ok] at hbuild
  obtain ⟨receiptId, -, issuer, -, digest, -, seedHex, -, header, hheader, message, hmessage, cose,
    hcose, rfl⟩ := hbuild
  have hsize : (bytesOfHex seedHex.val).size = 32 := size_hex64 seedHex
  generalize bytesOfHex seedHex.val = seed at hsize hcose ⊢
  let doc : ExportDoc :=
    { receiptId, digest, publicKey := platform.keys.publicKey seed, issuer, cose
      kid := kid.bind optionalText }
  change verifyAgentReceiptScittExport platform doc.fields.mapping = .ok () ∧
    SignedMetadata platform doc.fields.mapping
  have hdata := coseBytes_fields laws doc
  have hread := readCose_coseSign1 hcose
  have hkind := @getValue_mapping doc.fields "kind" (.str exportKindV1) (by simp [ExportDoc.fields])
  have hid := @getValue_mapping doc.fields "receipt_id" (.str receiptId.val)
    (by simp [ExportDoc.fields, doc])
  have hdigest := @getValue_mapping doc.fields "message_digest_sha256_hex" (.str digest.val)
    (by simp [ExportDoc.fields, doc])
  have hkey := @getValue_mapping doc.fields "signing_public_key_ed25519_hex"
    (.str (hexOfBytes (platform.keys.publicKey seed))) (by simp [ExportDoc.fields, doc])
  have hstatement := @getValue_mapping doc.fields "statement"
    (.dict (statement receiptId digest).mapping.items) (by simp [ExportDoc.fields, doc])
  have hissuer := @getValue_mapping doc.fields "issuer" (.str issuer.val) (by simp [ExportDoc.fields, doc])
  have hkid : doc.fields.mapping.get? "kid" =
      (kid.bind optionalText).map fun kid => .str kid.val := by
    rw [OrderedDict.Fields.get?_mapping]
    simp [ExportDoc.fields, doc]
  constructor
  · have hdigestRead : requireExportHex64 platform (doc.fields.mapping.getValue
        "message_digest_sha256_hex") "message_digest_sha256_hex" = .ok digest := by
      rw [hdigest]
      exact checked_eq_ok.mpr (platform.stripLower_hex64 laws digest)
    have hkeyHex : hex64Re (hexOfBytes (platform.keys.publicKey seed)) = true :=
      hex64Re_hexOfBytes (keys.size_publicKey seed hsize)
    have hkeyRead : requireExportHex64 platform (doc.fields.mapping.getValue
        "signing_public_key_ed25519_hex") "signing_public_key_ed25519_hex" =
          .ok ⟨hexOfBytes (platform.keys.publicKey seed), hkeyHex⟩ := by
      rw [hkey]
      exact checked_eq_ok.mpr (stripLower_hexOfBytes laws _)
    have hstatementRead : requireStatement (doc.fields.mapping.getValue "statement") =
        .ok (statement receiptId digest).mapping := by
      rw [hstatement, requireStatement, OrderedDict.ofList_items]
    simp only [verifyAgentReceiptScittExport, except_bind_eq_ok, raiseIf_eq_ok, hkind, hdigestRead,
      hstatementRead, hdata, hkeyRead, hid]
    refine ⟨(), not_not.mpr rfl, digest, rfl, _, rfl, (), ?_, (), ?_, cose, rfl, _, hread, (),
      not_not.mpr rfl, message, hmessage, _, rfl, ?_⟩
    · have hstated : (statement receiptId digest).mapping.getValue "message_digest_sha256_hex" =
          .str digest.val := getValue_mapping (by simp [statement])
      rw [hstated]
      exact not_not.mpr rfl
    · have hnamed : (statement receiptId digest).mapping.getValue "receipt_id" =
          .str receiptId.val := getValue_mapping (by simp [statement])
      rw [hnamed, PyValue.pyEq_self (.str receiptId.val) trivial trivial]
      exact Bool.noConfusion
    · rw [bytesOfHex_hexOfBytes, keys.verify_sign seed message hsize]
      exact Bool.noConfusion
  · rw [buildProtectedHeader_eq] at hheader
    exact ⟨cose, _, hdata, hread, headerNames_built hheader hissuer hid hkid⟩

/-- The verifier reads the header and the payload that were signed, and they encode to the bytes
that were signed. -/
def ReadsSigned (platform : ScittPlatform) (receiptId digestHex seedHex issuer : String)
    (kid : Option String) (exportDoc : Mapping) : Prop :=
  ∃ receiptId' issuer' digest seed header message data cose,
    requireText (.valueError "scitt export: receipt_id is required") receiptId = .ok receiptId' ∧
    requireText (.valueError "scitt export: issuer is required") issuer = .ok issuer' ∧
    requireExportHex64 platform (.str digestHex) "message_digest_sha256_hex" = .ok digest ∧
    requireExportHex64 platform (.str seedHex) "signing_private_key_seed_hex" = .ok seed ∧
    buildProtectedHeader issuer'.val receiptId'.val kid = .ok header ∧
    sigStructure header (jcsBytes platform (.dict (statement receiptId' digest).mapping.items)) =
      .ok message ∧
    coseBytes platform exportDoc = .ok data ∧ readCose data = .ok cose ∧
    sigStructure cose.protectedHeader cose.payload = .ok message ∧
    cose.signature = platform.keys.sign (bytesOfHex seed.val) message

theorem readsSigned_build {platform : ScittPlatform} (laws : platform.LowerLaws)
    {receiptId digestHex seedHex issuer : String} {kid : Option String} {exportDoc : Mapping}
    (hbuild : buildAgentReceiptScittExport platform receiptId digestHex seedHex issuer kid =
      .ok exportDoc) :
    ReadsSigned platform receiptId digestHex seedHex issuer kid exportDoc := by
  simp only [buildAgentReceiptScittExport, except_bind_eq_ok, except_pure_eq_ok] at hbuild
  obtain ⟨receiptId', hreceipt, issuer', hissuer, digest, hdigest, seed, hseed, header, hheader,
    message, hmessage, cose, hcose, rfl⟩ := hbuild
  exact ⟨receiptId', issuer', digest, seed, header, message, cose, _, hreceipt, hissuer, hdigest,
    hseed, hheader, hmessage, coseBytes_fields laws _, readCose_coseSign1 hcose, hmessage, rfl⟩

/-- A built export is accepted for the bytes that were signed. -/
theorem verify_built_export {platform : ScittPlatform} (laws : platform.LowerLaws)
    (keys : platform.keys.Laws) {receiptId digestHex seedHex issuer : String} {kid : Option String}
    {exportDoc : Mapping}
    (hbuild : buildAgentReceiptScittExport platform receiptId digestHex seedHex issuer kid =
      .ok exportDoc) :
    verifyAgentReceiptScittExport platform exportDoc = .ok () ∧
      ReadsSigned platform receiptId digestHex seedHex issuer kid exportDoc :=
  ⟨(verify_build laws keys hbuild).1, readsSigned_build laws hbuild⟩

end Built

/-! ## What the verifier leaves out -/

section Unread

variable {platform : ScittPlatform}

def readKeys : List String :=
  ["kind", "message_digest_sha256_hex", "statement", "receipt_id", "cose_sign1_tag18_hex",
    "signing_public_key_ed25519_hex"]

theorem verify_congr {exportDoc other : Mapping}
    (hsame : ∀ key ∈ readKeys, exportDoc.getValue key = other.getValue key) :
    verifyAgentReceiptScittExport platform exportDoc =
      verifyAgentReceiptScittExport platform other := by
  simp only [readKeys, List.forall_mem_cons] at hsame
  obtain ⟨hkind, hdigest, hstatement, hid, hcose, hkey, -⟩ := hsame
  have hdata : coseBytes platform exportDoc = coseBytes platform other := by
    rw [coseBytes, hcose, coseBytes]
  simp only [verifyAgentReceiptScittExport, hkind, hdigest, hstatement, hid, hkey, hdata]

theorem verify_set {key : String} (hkey : key ∉ readKeys) (exportDoc : Mapping) (value : PyValue) :
    verifyAgentReceiptScittExport platform (exportDoc.set key value) =
      verifyAgentReceiptScittExport platform exportDoc := by
  refine verify_congr fun other hother => ?_
  have hne : other ≠ key := by
    rintro rfl
    exact hkey hother
  rw [OrderedDict.getValue, OrderedDict.get?_set, if_neg hne, OrderedDict.getValue]

/-- A header names one issuer. -/
theorem issuer_eq_of_signedMetadata {exportDoc other : Mapping}
    (hbytes : coseBytes platform exportDoc = coseBytes platform other)
    (hsigned : SignedMetadata platform exportDoc) (hsigned' : SignedMetadata platform other) :
    exportDoc.getValue "issuer" = other.getValue "issuer" := by
  obtain ⟨data, cose, hdata, hcose, hnames⟩ := hsigned
  obtain ⟨data', cose', hdata', hcose', hnames'⟩ := hsigned'
  rw [hbytes, hdata'] at hdata
  obtain rfl := Except.ok.inj hdata
  rw [hcose'] at hcose
  obtain rfl := Except.ok.inj hcose
  obtain ⟨entries, claims, cursor, hdecoded, -, hclaims, ⟨issuer, hissuer, hclaim⟩, -⟩ := hnames
  obtain ⟨entries', claims', cursor', hdecoded', -, hclaims', ⟨issuer', hissuer', hclaim'⟩, -⟩ :=
    hnames'
  obtain rfl : entries' = entries := by
    rw [hdecoded'] at hdecoded
    cases hdecoded
    rfl
  rw [hclaims'] at hclaims
  cases hclaims
  rw [hclaim'] at hclaim
  cases hclaim
  rw [hissuer, hissuer']

/-- Exports with the same COSE structure agree on the receipt, the digest and the statement,
whoever they say issued it. An export that was built is accepted, and its header names what it
says. -/
theorem accepted_agree_built_signed (laws : platform.LowerLaws) (keys : platform.keys.Laws)
    (htexts : FloatTexts platform.floatText) :
    (∀ exportDoc other : Mapping, (PyValue.dict exportDoc.items).Distinct →
      (PyValue.dict other.items).Distinct →
        verifyAgentReceiptScittExport platform exportDoc = .ok () →
          verifyAgentReceiptScittExport platform other = .ok () →
            coseBytes platform exportDoc = coseBytes platform other →
              Agree platform exportDoc other) ∧
    (∀ (exportDoc : Mapping) (value : PyValue), ∀ key ∈ ["issuer", "kid"],
      verifyAgentReceiptScittExport platform (exportDoc.set key value) =
        verifyAgentReceiptScittExport platform exportDoc) ∧
    ∀ (receiptId digestHex seedHex issuer : String) (kid : Option String) (exportDoc : Mapping),
      buildAgentReceiptScittExport platform receiptId digestHex seedHex issuer kid =
        .ok exportDoc →
          verifyAgentReceiptScittExport platform exportDoc = .ok () ∧
            SignedMetadata platform exportDoc := by
  refine ⟨?_, ?_, ?_⟩
  · intro exportDoc other hdistinct hdistinct' hverify hverify' hbytes
    obtain ⟨digest, stated, cose, hattested⟩ := attested_of_verify hdistinct hverify
    obtain ⟨digest', stated', cose', hattested'⟩ := attested_of_verify hdistinct' hverify'
    obtain ⟨data, hdata, hcose⟩ := hattested.exportCose
    obtain ⟨data', hdata', hcose'⟩ := hattested'.exportCose
    -- both exports were read from one structure
    obtain rfl : data = data' := by
      rw [hbytes, hdata'] at hdata
      exact (Except.ok.inj hdata).symm
    obtain rfl : cose = cose' := by
      rw [hcose] at hcose'
      exact Except.ok.inj hcose'
    exact agree_of_attested htexts hdistinct hdistinct' hattested hattested'
  · intro exportDoc value key hkey
    have hunread : key ∉ readKeys := by
      revert hkey key
      decide
    exact verify_set hunread exportDoc value
  · intro receiptId digestHex seedHex issuer kid exportDoc hbuild
    exact verify_build laws keys hbuild

end Unread

/-! ## A statement under another issuer -/

section Relabelled

open Policy

/-- Keys that accept everything. -/
def keysPlain : MessageKeys where
  publicKey seed := seed
  sign _ _ := []
  verify _ _ _ := true

def platformExported : ScittPlatform where
  toPlatform :=
    { terminalPlatform fun _ => String.ofList (List.replicate 64 '0') with
      floatText := exactFloatText }
  keys := keysPlain

theorem lowerLaws_exported : platformExported.LowerLaws where
  token _ _ := rfl
  lower_lower _ := rfl
  strip_lower := pyStrip_pyStrip

theorem laws_exported : platformExported.keys.Laws where
  size_publicKey _ hsize := hsize
  verify_sign _ _ _ := rfl

def digestExported : Hex64 := ⟨String.ofList (List.replicate 64 'a'), by decide +kernel⟩

def receiptExported : Text := ⟨"receipt_1", by decide +kernel, by decide⟩

theorem items_statement (receiptId : Text) (digest : Hex64) :
    (statement receiptId digest).mapping.items =
      [("kind", .str statementKindV1), ("receipt_id", .str receiptId.val),
        ("message_digest_sha256_hex", .str digest.val)] := by
  have hnodup : ((statement receiptId digest).items.map Prod.fst).Nodup := by
    simp [statement, OrderedDict.Fields.items, OrderedDict.presentItems]
  exact OrderedDict.items_ofList hnodup

theorem canonicalizeJson_statement (receiptId : Text) (digest : Hex64) :
    canonicalizeJson (.dict (statement receiptId digest).mapping.items) =
      .dict [("kind", .str statementKindV1), ("message_digest_sha256_hex", .str digest.val),
        ("receipt_id", .str receiptId.val)] := by
  have hperm : [("kind", PyValue.str statementKindV1), ("receipt_id", .str receiptId.val),
      ("message_digest_sha256_hex", .str digest.val)].Perm
        [("kind", .str statementKindV1), ("message_digest_sha256_hex", .str digest.val),
          ("receipt_id", .str receiptId.val)] := (List.Perm.swap _ _ _).cons _
  rw [items_statement, canonicalizeJson_dict]
  refine congrArg PyValue.dict (((sortMembers_eq_iff (by simp)).mpr hperm).trans ?_)
  exact List.mergeSort_of_pairwise (by simp [statementKindV1])

theorem length_statement :
    (jcsBytes platformExported
      (.dict (statement receiptExported digestExported).mapping.items)).length < 0x10000 := by
  rw [jcsBytes, canonicalJsonBytes, canonicalizeJson_statement]
  decide +kernel

theorem encodeCborBstr_ok {data : Bytes} (hdata : data.length < 0x10000) :
    encodeCborBstr data = .ok (header 0x40 data.length ++ data) := by
  rw [encodeCborBstr, sizedHeader, if_pos hdata]
  rfl

theorem encodeCborMap_nil : encodeCborMap [] = .ok [0xa0] := by
  change Except.ok ([0xa0] ++ (sortEntries []).flatMap fun entry => entry.1 ++ entry.2) = _
  rw [sortEntries, List.mergeSort_nil]
  rfl

theorem sigStructure_ok {protectedHeader payload : Bytes}
    (hheader : protectedHeader.length < 0x10000) (hpayload : payload.length < 0x10000) :
    ∃ message, sigStructure protectedHeader payload = .ok message := by
  have hcontext : ∃ context, encodeCborTstr "Signature1" = .ok context := ⟨_, rfl⟩
  obtain ⟨context, hcontext⟩ := hcontext
  rw [sigStructure, hcontext, encodeCborBstr_ok hheader, encodeCborBstr_ok hpayload]
  exact ⟨_, rfl⟩

theorem coseSign1_ok {protectedHeader payload signature : Bytes}
    (hheader : protectedHeader.length < 0x10000) (hpayload : payload.length < 0x10000)
    (hsignature : signature.length < 0x10000) :
    ∃ cose, coseSign1 protectedHeader payload signature = .ok cose := by
  rw [coseSign1, encodeCborBstr_ok hheader, encodeCborBstr_ok hpayload,
    encodeCborBstr_ok hsignature, encodeCborMap_nil]
  exact ⟨_, rfl⟩

/-- Two entries that are in order. -/
theorem encodeCborMap_pair {first second : ℤ} {low high : UInt8} {value value' : Bytes}
    (hfirst : encodeCborInt first = .ok [low]) (hsecond : encodeCborInt second = .ok [high])
    (hle : [low] ≤ [high]) :
    encodeCborMap [(.int first, value), (.int second, value')] =
      .ok (0xa2 :: low :: (value ++ high :: value')) := by
  have hsorted : sortEntries [([low], value), ([high], value')] =
      [([low], value), ([high], value')] := by
    refine List.mergeSort_of_pairwise ?_
    simpa using hle
  simp only [encodeCborMap, List.mapM_cons, List.mapM_nil, MapKey.encode, hfirst, hsecond,
    pure, Except.pure, except_ok_bind, hsorted]
  simp [byteHeader, header, byte]
  rfl

theorem buildProtectedHeader_exported : ∃ header, buildProtectedHeader "issuer" "receipt_1" none =
    .ok header ∧ header.length < 0x10000 := by
  have hissuer : encodeCborTstr "issuer" = .ok (0x66 :: utf8 "issuer") := rfl
  have hsubject : encodeCborTstr "receipt_1" = .ok (0x69 :: utf8 "receipt_1") := rfl
  have hclaims := @encodeCborMap_pair cwtClaimIss cwtClaimSub 1 2 (0x66 :: utf8 "issuer")
    (0x69 :: utf8 "receipt_1") rfl rfl (by decide)
  have hentries := @encodeCborMap_pair coseHeaderAlg coseHeaderCwtClaims 1 15 [0x27]
    (0xa2 :: 1 :: (0x66 :: utf8 "issuer" ++ 2 :: 0x69 :: utf8 "receipt_1")) rfl rfl (by decide)
  have hbuilt : buildProtectedHeader "issuer" "receipt_1" none = encodeCborMap
      [(.int coseHeaderAlg, [0x27]), (.int coseHeaderCwtClaims,
        0xa2 :: 1 :: (0x66 :: utf8 "issuer" ++ 2 :: 0x69 :: utf8 "receipt_1"))] := by
    rw [buildProtectedHeader, hissuer, hsubject]
    simp only [except_ok_bind, hclaims]
    rfl
  exact ⟨_, hbuilt.trans hentries, by decide +kernel⟩

/-- What was built, with the issuer that the export says. -/
def exported (cose : Bytes) (issuer : Text) : ExportDoc where
  receiptId := receiptExported
  digest := digestExported
  publicKey := bytesOfHex digestExported.val
  issuer := issuer
  cose := cose
  kid := none

def issuerExported : Text := ⟨"issuer", by decide +kernel, by decide⟩

def issuerClaimed : Text := ⟨"other", by decide +kernel, by decide⟩

theorem build_exported_cose : ∃ header payload cose,
    coseSign1 header payload [] = .ok cose ∧
      buildAgentReceiptScittExport platformExported "receipt_1" digestExported.val
        digestExported.val "issuer" none = .ok (exported cose issuerExported).fields.mapping := by
  obtain ⟨header, hheader, hlength⟩ := buildProtectedHeader_exported
  obtain ⟨message, hmessage⟩ := sigStructure_ok hlength length_statement
  obtain ⟨cose, hcose⟩ := coseSign1_ok hlength length_statement (by decide : [].length < 0x10000)
  have hdigest : ∀ field, requireExportHex64 platformExported (.str digestExported.val) field =
      .ok digestExported := fun field =>
    checked_eq_ok.mpr (platformExported.stripLower_hex64 lowerLaws_exported digestExported)
  have hreceipt : ∀ failure, requireText failure "receipt_1" = .ok receiptExported :=
    fun failure => requireText_text failure receiptExported
  have hissuer : ∀ failure, requireText failure "issuer" = .ok issuerExported :=
    fun failure => requireText_text failure issuerExported
  refine ⟨header, _, cose, hcose, ?_⟩
  simp only [buildAgentReceiptScittExport, hdigest, hreceipt, hissuer, except_ok_bind]
  have hbuilt : buildProtectedHeader issuerExported.val receiptExported.val none = .ok header :=
    hheader
  rw [hbuilt]
  simp only [except_ok_bind, hmessage]
  have hsigned : ∀ seed, platformExported.keys.sign seed message = [] := fun _ => rfl
  rw [hsigned, hcose]
  rfl

theorem build_exported : ∃ cose, buildAgentReceiptScittExport platformExported "receipt_1"
    digestExported.val digestExported.val "issuer" none =
      .ok (exported cose issuerExported).fields.mapping := by
  obtain ⟨_, _, cose, -, hbuild⟩ := build_exported_cose
  exact ⟨cose, hbuild⟩

theorem distinct_exported (cose : Bytes) (issuer : Text) :
    (PyValue.dict (exported cose issuer).fields.mapping.items).Distinct := by
  refine PyValue.distinct_mapping ?_
  simp only [ExportDoc.fields, exported, List.forall_mem_cons]
  refine ⟨?_, ?_, ?_, ?_, ?_, ?_, ?_, ?_, fun _ hnil => absurd hnil List.not_mem_nil⟩
  on_goal 7 =>
    rintro _ ⟨⟩
    rw [items_statement]
    exact ⟨by simp, trivial, trivial, trivial, trivial⟩
  all_goals
    rintro _ ⟨⟩
    try trivial

theorem getValue_issuer (cose : Bytes) (issuer : Text) :
    (exported cose issuer).fields.mapping.getValue "issuer" = .str issuer.val :=
  getValue_mapping (by simp [ExportDoc.fields, exported])

theorem getValue_exported {key : String} (hkey : key ∈ readKeys) (cose : Bytes) :
    (exported cose issuerClaimed).fields.mapping.getValue key =
      (exported cose issuerExported).fields.mapping.getValue key := by
  have hsame : (exported cose issuerClaimed).fields.mapping.get? key =
      (exported cose issuerExported).fields.mapping.get? key := by
    rw [OrderedDict.Fields.get?_mapping, OrderedDict.Fields.get?_mapping]
    simp only [readKeys, List.mem_cons, List.not_mem_nil, or_false] at hkey
    rcases hkey with rfl | rfl | rfl | rfl | rfl | rfl <;> simp [ExportDoc.fields, exported]
  rw [OrderedDict.getValue, hsame, OrderedDict.getValue]

/-- The issuer of a built export can be replaced. -/
theorem verify_relabelled : ¬∀ exportDoc : Mapping, (PyValue.dict exportDoc.items).Distinct →
    verifyAgentReceiptScittExport platformExported exportDoc = .ok () →
      SignedMetadata platformExported exportDoc := by
  intro hsigned
  obtain ⟨cose, hbuild⟩ := build_exported
  obtain ⟨hverify, hbuilt⟩ := verify_build lowerLaws_exported laws_exported hbuild
  have hrelabelled : verifyAgentReceiptScittExport platformExported
      (exported cose issuerClaimed).fields.mapping = .ok () :=
    (verify_congr fun _ hkey => getValue_exported hkey cose).trans hverify
  have hclaimed := hsigned _ (distinct_exported cose issuerClaimed) hrelabelled
  have hbytes : coseBytes platformExported (exported cose issuerExported).fields.mapping =
      coseBytes platformExported (exported cose issuerClaimed).fields.mapping := by
    rw [coseBytes_fields lowerLaws_exported, coseBytes_fields lowerLaws_exported]
    rfl
  have hissuer := issuer_eq_of_signedMetadata hbytes hbuilt hclaimed
  rw [getValue_issuer, getValue_issuer] at hissuer
  exact absurd (PyValue.str.inj hissuer) (by decide)

/-- The relabelled export agrees with the built one, and the built one is accepted. -/
theorem accepted_agree_built_signed_exported : ∃ cose,
    Agree platformExported (exported cose issuerExported).fields.mapping
      (exported cose issuerClaimed).fields.mapping ∧
    verifyAgentReceiptScittExport platformExported
      ((exported cose issuerExported).fields.mapping.set "issuer" .none) = .ok () ∧
    SignedMetadata platformExported (exported cose issuerExported).fields.mapping := by
  obtain ⟨cose, hbuild⟩ := build_exported
  obtain ⟨hagree, hunread, hbuilt⟩ :=
    accepted_agree_built_signed lowerLaws_exported laws_exported floatTexts_exact
  obtain ⟨hverify, hsigned⟩ := hbuilt _ _ _ _ _ _ hbuild
  have hrelabelled : verifyAgentReceiptScittExport platformExported
      (exported cose issuerClaimed).fields.mapping = .ok () :=
    (verify_congr fun _ hkey => getValue_exported hkey cose).trans hverify
  refine ⟨cose, ?_, ?_, hsigned⟩
  · refine hagree _ _ (distinct_exported cose _) (distinct_exported cose _) hverify hrelabelled ?_
    rw [coseBytes_fields lowerLaws_exported, coseBytes_fields lowerLaws_exported]
    rfl
  · rw [hunread _ _ "issuer" (by decide)]
    exact hverify

theorem verify_built_export_exported : ∃ cose,
    verifyAgentReceiptScittExport platformExported
      (exported cose issuerExported).fields.mapping = .ok () ∧
    ReadsSigned platformExported "receipt_1" digestExported.val digestExported.val "issuer" none
      (exported cose issuerExported).fields.mapping := by
  obtain ⟨cose, hbuild⟩ := build_exported
  exact ⟨cose, verify_built_export lowerLaws_exported laws_exported hbuild⟩

end Relabelled

end PaybondKit.Receipt.Scitt
