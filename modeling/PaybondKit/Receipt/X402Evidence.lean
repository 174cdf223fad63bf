import PaybondKit.Receipt.X402

/-!
# Evidence from x402 receipts

The digest payload of a verified receipt, and the evidence and the attestation made of it. Two
receipts under one EIP-712 signature have one digest payload when every field that the digest
reads under an alias is the same in both.
-/

namespace PaybondKit.Receipt.X402

open Agent (PyExc)
open TypedData (Member)

/-! ## Envelopes -/

/-- A record with a format and a signature, both of them texts. -/
def asSigned (record : Mapping) : Option Mapping := do
  let format ← (record.getValue "format").asStr
  let signature ← (record.getValue "signature").asStr
  let payload := ((readObject (record.getValue "payload")).map OrderedDict.items).getD []
  return .ofList [("format", .str (if format = "jws" then "jws" else "eip712")),
    ("payload", .dict payload), ("signature", .str signature)]

/-- An object that counts as true. -/
def filledObject (value : PyValue) : Option Mapping :=
  (readObject value).filter fun record => !record.items.isEmpty

/-- The envelope in the `offer-receipt` extension. -/
def extensionSigned (inputRecord : Mapping) : Option Mapping := do
  let extensions ← readObject (inputRecord.getValue "extensions")
  -- an empty object does not count, and then the other spelling is read
  let offerReceipt ← (filledObject (extensions.getValue "offer-receipt")).or
    (readObject (extensions.getValue "offerReceipt"))
  let receipt := (readObject (offerReceipt.getValue "info")).bind fun info =>
    readObject (info.getValue "receipt")
  let nested := (filledObject (offerReceipt.getValue "receipt")).getD offerReceipt
  (receipt.bind asSigned).or (asSigned nested)

def extractSignedX402Receipt (inputRecord : Mapping) : Except PyExc Mapping :=
  let receipt := readObject (inputRecord.getValue "receipt")
  match (extensionSigned inputRecord).or ((receipt.bind asSigned).or (asSigned inputRecord)) with
  | some signed => .ok signed
  | none => .error (.valueError <|
      "x402 receipt input missing signed offer-receipt artifact (format and signature required)")

/-! ## The digest payload -/

/-- A number that is not a boolean. -/
def number : PyValue → Option PyValue
  | .int value => some (.int value)
  | .float value => some (.float value)
  | _ => none

/-- The first of the keys that holds a number. -/
def readNumber (record : Mapping) (keys : List String) : Option PyValue :=
  keys.findSome? fun key => number (record.getValue key)

def resourceUrlKeys : List String := ["resourceUrl", "resource_url"]
def issuedAtKeys : List String := ["issuedAt", "issued_at"]
def transactionKeys : List String := ["transaction", "txHash", "tx_hash"]

structure ReceiptPayload where
  resourceUrl : Filled
  payer : Filled
  network : Filled
  issuedAt : ℤ
  transaction : Option Filled
  deriving DecidableEq

def ReceiptPayload.fields (payload : ReceiptPayload) : OrderedDict.Fields String PyValue where
  entries :=
    [("resourceUrl", some (.str payload.resourceUrl.val)),
      ("payer", some (.str payload.payer.val)), ("network", some (.str payload.network.val)),
      ("issuedAt", some (.int payload.issuedAt)),
      ("transaction", payload.transaction.map fun transaction => .str transaction.val)]
  nodup := by simp

/-- The payload as the dictionary that is digested. -/
def ReceiptPayload.toPy (payload : ReceiptPayload) : PyValue :=
  .dict payload.fields.mapping.items

def missingFields : PyExc :=
  .valueError "x402 receipt payload missing required fields (resourceUrl, payer, network, issuedAt)"

section Evidence

variable (platform : X402Platform)

def buildX402ReceiptDigestPayload (raw : Mapping) : Except PyExc ReceiptPayload :=
  match readString raw resourceUrlKeys, readString raw ["payer"], readString raw ["network"],
      readNumber raw issuedAtKeys with
  | some resourceUrl, some payer, some network, some issuedAt => do
      let issuedAt ← platform.int issuedAt
      let transaction := readString raw transactionKeys
      return { resourceUrl, payer, network, issuedAt, transaction }
  | _, _, _, _ => .error missingFields

/-! ## Attestations -/

def partnerRecordDigestSha256Hex (record : PyValue) : String :=
  platform.sha256Hex (jsonDumpsBytes Policy.asciiCompactStyle
    ((Policy.canonicalizeJson record).toJson platform.floatText))

structure Attestation where
  source : String
  kind : String
  digestSha256Hex : String
  referenceId : String
  deriving DecidableEq

def x402Attestation (payload : ReceiptPayload) : Attestation where
  source := "x402"
  kind := "delivery_receipt_v1"
  digestSha256Hex := partnerRecordDigestSha256Hex platform payload.toPy
  referenceId := payload.resourceUrl.val

def x402ReceiptToExternalAttestations (receiptInput : Mapping) (expectedSigner : PyValue) :
    Except PyExc (List Attestation) := do
  let signed ← extractSignedX402Receipt receiptInput
  let verified ← verifySignedX402Receipt platform signed expectedSigner
  let payload ← buildX402ReceiptDigestPayload platform (← asMapping "AttributeError" verified)
  return [x402Attestation platform payload]

/-! ## Evidence -/

def fundingEvidenceFields : List String :=
  ["payment_session_id", "authorization_id", "capture_id", "void_id", "x402_payment_session_id",
    "onchain_transaction_hashes"]

def assertNotX402FundingArtifact (inputRecord : Mapping) : Except PyExc Unit := do
  let eventType := (readString inputRecord ["event_type", "eventType", "type"]).map Subtype.val
  raiseIf (eventType = some "authorization_succeeded") (.valueError <|
    "authorization_succeeded webhooks are funding signals, not x402 delivery receipt evidence")
  match fundingEvidenceFields.find? fun field => (inputRecord.get? field).isSome with
  | some field =>
      .error (.valueError
        s!"funding field {field} must not be submitted as tool-completion evidence")
  | none => .ok ()

def hasReceiptShape (record : Mapping) : Bool :=
  (readString record resourceUrlKeys).isSome && (readString record ["payer"]).isSome &&
    (readString record ["network"]).isSome && (readNumber record issuedAtKeys).isSome

def unwrapReceiptRecord (inputRecord : Mapping) (expectedSigner : PyValue) :
    Except PyExc Mapping := do
  assertNotX402FundingArtifact inputRecord
  let signed ← extractSignedX402Receipt inputRecord
  let verified ← verifySignedX402Receipt platform signed expectedSigner
  let payload ← asMapping "AttributeError" verified
  raiseIf (hasReceiptShape payload = false) missingFields
  return payload

def x402ReceiptPayloadDigestHex (payload : ReceiptPayload) : String :=
  platform.blake3Hex (canonicalJsonBytes platform.floatText payload.toPy)

structure ArtifactAttestedEvidence where
  artifactBlake3Hex : List String
  operation : String
  vendorRefId : String
  deriving DecidableEq

def x402Evidence (payload : ReceiptPayload) : ArtifactAttestedEvidence where
  artifactBlake3Hex := [x402ReceiptPayloadDigestHex platform payload]
  operation := "attested"
  vendorRefId := payload.resourceUrl.val

def mapX402ReceiptToArtifactAttestedEvidence (receiptInput : Mapping) (expectedSigner : PyValue) :
    Except PyExc ArtifactAttestedEvidence := do
  let raw ← unwrapReceiptRecord platform receiptInput expectedSigner
  let payload ← buildX402ReceiptDigestPayload platform raw
  return x402Evidence platform payload

end Evidence

/-! ## What the signature leaves open -/

section Aliases

variable {platform : X402Platform}

/-- The payloads give the digest the same field wherever one of them does not have it under the
name that is signed. -/
structure AliasesAgree (platform : X402Platform) (payload payload' : Mapping) : Prop where
  resourceUrl :
    readString payload ["resourceUrl"] = none ∨ readString payload' ["resourceUrl"] = none →
      readString payload resourceUrlKeys = readString payload' resourceUrlKeys
  issuedAt : readNumber payload ["issuedAt"] = none ∨ readNumber payload' ["issuedAt"] = none →
    (readNumber payload issuedAtKeys).map platform.int =
      (readNumber payload' issuedAtKeys).map platform.int
  transaction :
    readString payload ["transaction"] = none ∨ readString payload' ["transaction"] = none →
      readString payload transactionKeys = readString payload' transactionKeys

theorem readString_cons (record : Mapping) (key : String) (keys : List String) :
    readString record (key :: keys) = (readString record [key]).or (readString record keys) := by
  simp only [readString, List.findSome?_cons, List.findSome?_nil]
  cases filled (record.getValue key) <;> rfl

theorem readNumber_cons (record : Mapping) (key : String) (keys : List String) :
    readNumber record (key :: keys) = (readNumber record [key]).or (readNumber record keys) := by
  simp only [readNumber, List.findSome?_cons, List.findSome?_nil]
  cases number (record.getValue key) <;> rfl

theorem readString_singleton {record : Mapping} {key : String} {found : Option Filled} :
    readString record [key] = found ↔ filled (record.getValue key) = found := by
  rw [readString, List.findSome?_cons, List.findSome?_nil]
  cases filled (record.getValue key) <;> rfl

theorem readNumber_singleton {record : Mapping} {key : String} {found : Option PyValue} :
    readNumber record [key] = found ↔ number (record.getValue key) = found := by
  rw [readNumber, List.findSome?_cons, List.findSome?_nil]
  cases number (record.getValue key) <;> rfl

theorem readString_of_getValue {record : Mapping} {key : String} {keys : List String}
    {text : Filled} (hfield : record.getValue key = .str text.val) :
    readString record (key :: keys) = some text := by
  rw [readString, List.findSome?_cons, filled_eq_some.mpr hfield]

theorem readString_of_missing {record : Mapping} {key : String} {keys : List String}
    (hfield : record.getValue key = .none) :
    readString record (key :: keys) = readString record keys := by
  rw [readString, List.findSome?_cons, hfield]
  rfl

theorem eq_of_number {value found : PyValue} (hnumber : number value = some found) :
    value = found := by
  cases value <;> cases hnumber <;> rfl

/-- A number that is signed is the number that the digest reads. -/
theorem int_of_uintValue {value : PyValue} {seconds : Fin (2 ^ 256)}
    (hvalue : uintValue platform value = .ok seconds) : platform.int value = .ok (seconds : ℕ) := by
  simp only [uintValue, except_bind_eq_ok] at hvalue
  obtain ⟨number, hnumber, hbounded⟩ := hvalue
  split at hbounded
  next hbound =>
    obtain rfl := Except.ok.inj hbounded
    rw [hnumber]
    exact congrArg Except.ok (Int.toNat_of_nonneg hbound.1).symm
  next => cases hbounded

/-- Texts that are signed under one key are read as the same. -/
theorem readString_eq_of_signed {payload payload' : Mapping} {key : String} {keys : List String}
    (hsame : ∀ text text', payload.getValue key = .str text → payload'.getValue key = .str text' →
      text = text')
    (halias : readString payload [key] = none ∨ readString payload' [key] = none →
      readString payload (key :: keys) = readString payload' (key :: keys)) :
    readString payload (key :: keys) = readString payload' (key :: keys) := by
  cases hread : readString payload [key] with
  | none => exact halias (.inl hread)
  | some text =>
      cases hread' : readString payload' [key] with
      | none => exact halias (.inr hread')
      | some text' =>
          have htext : text = text' := Subtype.ext <| hsame _ _
            (filled_eq_some.mp (readString_singleton.mp hread))
            (filled_eq_some.mp (readString_singleton.mp hread'))
          rw [readString_cons, hread, readString_cons, hread', htext]
          rfl

theorem readNumber_eq_of_uintValue {payload payload' : Mapping} {key : String} {keys : List String}
    {seconds : Fin (2 ^ 256)}
    (hseconds : uintValue platform (payload.getValue key) = .ok seconds)
    (hseconds' : uintValue platform (payload'.getValue key) = .ok seconds)
    (halias : readNumber payload [key] = none ∨ readNumber payload' [key] = none →
      (readNumber payload (key :: keys)).map platform.int =
        (readNumber payload' (key :: keys)).map platform.int) :
    (readNumber payload (key :: keys)).map platform.int =
      (readNumber payload' (key :: keys)).map platform.int := by
  cases hread : readNumber payload [key] with
  | none => exact halias (.inl hread)
  | some value =>
      cases hread' : readNumber payload' [key] with
      | none => exact halias (.inr hread')
      | some value' =>
          rw [eq_of_number (readNumber_singleton.mp hread)] at hseconds
          rw [eq_of_number (readNumber_singleton.mp hread')] at hseconds'
          rw [readNumber_cons, hread, readNumber_cons, hread', Option.some_or, Option.some_or,
            Option.map_some, Option.map_some, int_of_uintValue hseconds, int_of_uintValue hseconds']

theorem buildX402ReceiptDigestPayload_eq_ok {raw : Mapping} {payload : ReceiptPayload} :
    buildX402ReceiptDigestPayload platform raw = .ok payload ↔
      readString raw resourceUrlKeys = some payload.resourceUrl ∧
      readString raw ["payer"] = some payload.payer ∧
      readString raw ["network"] = some payload.network ∧
      (readNumber raw issuedAtKeys).map platform.int = some (.ok payload.issuedAt) ∧
      readString raw transactionKeys = payload.transaction := by
  unfold buildX402ReceiptDigestPayload
  constructor
  · intro hbuild
    split at hbuild
    next resourceUrl payer network issuedAt hresource hpayer hnetwork hissued =>
      simp only [except_bind_eq_ok, except_pure_eq_ok] at hbuild
      obtain ⟨seconds, hseconds, rfl⟩ := hbuild
      refine ⟨hresource, hpayer, hnetwork, ?_, rfl⟩
      rw [hissued, Option.map_some, hseconds]
    next => cases hbuild
  · rintro ⟨hresource, hpayer, hnetwork, hissued, htransaction⟩
    obtain ⟨issuedAt, hread, hseconds⟩ := Option.map_eq_some_iff.mp hissued
    rw [hresource, hpayer, hnetwork, hread]
    simp only [hseconds, except_ok_bind, htransaction]
    rfl

/-- What is attested of receipts under one signature is the same exactly when the fields agree
that are read under an alias. -/
theorem attested_eq_iff (laws : platform.Laws) (lower : platform.LowerLaws)
    {signed other payload payload' : Mapping} {expectedSigner : PyValue} {signature : String}
    {attested attested' : ReceiptPayload}
    (hformat : (signed.getValue "format").asStr ≠ some "jws")
    (hformat' : (other.getValue "format").asStr ≠ some "jws")
    (hsignature : signed.getValue "signature" = .str signature)
    (hsignature' : other.getValue "signature" = .str signature)
    (hfree : KeccakFree platform payload payload' signature)
    (hverify : verifySignedX402Receipt platform signed expectedSigner = .ok (.dict payload.items))
    (hverify' : verifySignedX402Receipt platform other expectedSigner = .ok (.dict payload'.items))
    (hbuild : buildX402ReceiptDigestPayload platform payload = .ok attested)
    (hbuild' : buildX402ReceiptDigestPayload platform payload' = .ok attested') :
    (attested = attested' ∧ x402Attestation platform attested = x402Attestation platform attested' ∧
      x402Evidence platform attested = x402Evidence platform attested') ↔
        AliasesAgree platform payload payload' := by
  have hsigned := sameSigned_of_verify laws lower hformat hformat' hsignature hsignature' hfree
    hverify hverify'
  obtain ⟨hresource, hpayer, hnetwork, hissued, htransaction⟩ :=
    buildX402ReceiptDigestPayload_eq_ok.mp hbuild
  obtain ⟨hresource', hpayer', hnetwork', hissued', htransaction'⟩ :=
    buildX402ReceiptDigestPayload_eq_ok.mp hbuild'
  constructor
  · rintro ⟨rfl, -, -⟩
    exact
      { resourceUrl := fun _ => hresource.trans hresource'.symm
        issuedAt := fun _ => hissued.trans hissued'.symm
        transaction := fun _ => htransaction.trans htransaction'.symm }
  · intro hagree
    obtain ⟨seconds, hseconds, hseconds'⟩ := hsigned.issuedAt
    have htext : ∀ {key : String},
        textValue platform (payload.getValue key) = textValue platform (payload'.getValue key) →
          ∀ text text', payload.getValue key = .str text → payload'.getValue key = .str text' →
            text = text' := by
      intro key hsame text text' hfield hfield'
      rw [hfield, hfield'] at hsame
      exact hsame
    -- a field without an alias is always read where it is signed
    have hown : ∀ {key : String} {text text' : Filled},
        textValue platform (payload.getValue key) = textValue platform (payload'.getValue key) →
          readString payload [key] = some text → readString payload' [key] = some text' →
            text = text' := by
      intro key text text' hsame hread hread'
      exact Subtype.ext <| htext hsame _ _ (filled_eq_some.mp (readString_singleton.mp hread))
        (filled_eq_some.mp (readString_singleton.mp hread'))
    have hurl := readString_eq_of_signed (htext hsigned.resourceUrl) hagree.resourceUrl
    have htime := readNumber_eq_of_uintValue hseconds hseconds' hagree.issuedAt
    have hpaid : readString payload transactionKeys = readString payload' transactionKeys := by
      refine readString_eq_of_signed (fun text text' hfield hfield' => ?_) hagree.transaction
      have hsame := hsigned.transaction
      rw [hfield, hfield'] at hsame
      exact hsame
    have hattested : attested = attested' := by
      have hurls := hresource.symm.trans (hurl.trans hresource')
      have htimes := hissued.symm.trans (htime.trans hissued')
      have hpayments := htransaction.symm.trans (hpaid.trans htransaction')
      obtain ⟨url, payer, network, issuedAt, transaction⟩ := attested
      obtain ⟨url', payer', network', issuedAt', transaction'⟩ := attested'
      obtain rfl := hown hsigned.payer hpayer hpayer'
      obtain rfl := hown hsigned.network hnetwork hnetwork'
      cases hurls
      cases htimes
      cases hpayments
      rfl
    exact ⟨hattested, by rw [hattested], by rw [hattested]⟩

end Aliases

/-! ## A transaction that was not signed -/

section Unsigned

/-- The length of the data, in 32 bytes. -/
def lengthHash (data : Bytes) : Bytes := TypedData.bigEndian 32 data.length

/-- A platform whose keys are digests. -/
def platformPaid : X402Platform where
  toPlatform := terminalPlatform fun _ => String.ofList (List.replicate 64 '0')
  keccak256 := lengthHash
  recoverKeys _ digest := some [4 :: digest, 5 :: digest]
  blake3Hex _ := ""
  urlsafeB64encode _ := ""
  urlsafeB64decode _ := .ok .empty
  verifyEd25519 _ _ _ := .ok true
  verifyEs256 _ _ _ _ := .ok true
  parseFloat _ := .nan

theorem laws_paid : platformPaid.Laws where
  length_keccak256 data := TypedData.length_bigEndian 32 data.length
  length_recoverKeys signature digest keys hkeys := by
    obtain rfl := Option.some.inj hkeys
    rfl
  digest_of_key signature digest digest' keys keys' place key hkeys hkeys' hplace hplace' := by
    obtain rfl := Option.some.inj hkeys
    obtain rfl := Option.some.inj hkeys'
    have hdigest : digest = digest' := by
      match place with
      | 0 => exact (List.cons.inj (Option.some.inj (hplace.trans hplace'.symm))).2
      | 1 => exact (List.cons.inj (Option.some.inj (hplace.trans hplace'.symm))).2
      | _ + 2 => cases hplace
    rw [hdigest]

/-- A receipt without a transaction that is signed. -/
def paidFields (txHash tx_hash : Option String) : OrderedDict.Fields String PyValue where
  entries :=
    [("version", some (.int 1)), ("network", some (.str "base")),
      ("resourceUrl", some (.str "https://api.example")), ("payer", some (.str "0x1")),
      ("issuedAt", some (.int 1700000000)), ("txHash", txHash.map .str),
      ("tx_hash", tx_hash.map .str)]
  nodup := by simp

def paid (txHash tx_hash : Option String) : Mapping := (paidFields txHash tx_hash).mapping

def signaturePaid : String := "0x" ++ hexOfBytes ⟨(List.replicate 65 0).toArray⟩

/-- The address of every key, which follows from its length. -/
def addressPaid : Bytes := (lengthHash (List.replicate 32 0)).drop 12

def signerPaid : String := "0x" ++ hexOfBytes ⟨addressPaid.toArray⟩

def envelopeFields (payload : Mapping) : OrderedDict.Fields String PyValue where
  entries :=
    [("format", some (.str "eip712")), ("payload", some (.dict payload.items)),
      ("signature", some (.str signaturePaid))]
  nodup := by simp

def envelope (payload : Mapping) : Mapping := (envelopeFields payload).mapping

/-- The members that are signed. -/
def membersPaid : List Member :=
  [.uint 1, .text (utf8 "base"), .text (utf8 "https://api.example"), .text (utf8 "0x1"),
    .uint 1700000000, .text (utf8 "")]

theorem receiptMembers_paid (txHash tx_hash : Option String) :
    receiptMembers platformPaid (paid txHash tx_hash) = .ok membersPaid := by
  have hversion : (paid txHash tx_hash).getValue "version" = .int 1 :=
    getValue_mapping (by simp [paidFields])
  have hnetwork : (paid txHash tx_hash).getValue "network" = .str "base" :=
    getValue_mapping (by simp [paidFields])
  have hresource : (paid txHash tx_hash).getValue "resourceUrl" = .str "https://api.example" :=
    getValue_mapping (by simp [paidFields])
  have hpayer : (paid txHash tx_hash).getValue "payer" = .str "0x1" :=
    getValue_mapping (by simp [paidFields])
  have hissued : (paid txHash tx_hash).getValue "issuedAt" = .int 1700000000 :=
    getValue_mapping (by simp [paidFields])
  have htransaction : (paid txHash tx_hash).get? "transaction" = none := by
    rw [paid, OrderedDict.Fields.get?_mapping]
    simp [paidFields, OrderedDict.fieldValue]
  refine receiptMembers_eq_ok.mpr ⟨1, 1700000000, ?_, ?_, ?_⟩
  · rw [hversion]
    rfl
  · rw [hissued]
    rfl
  · rw [hnetwork, hresource, hpayer, OrderedDict.getValue, htransaction]
    rfl

theorem readSignature_paid : readSignature signaturePaid = .ok (List.replicate 64 0, 0) := by
  rw [signaturePaid, readSignature_hex (by decide) (by decide)]
  exact congrArg (fun bytes => Except.ok (bytes, 0)) (List.take_replicate ..)

theorem signaturePaid_ne_empty : signaturePaid ≠ "" := by
  intro hempty
  have hchars := congrArg String.toList hempty
  rw [signaturePaid, String.toList_append] at hchars
  cases hchars

theorem format_envelope (payload : Mapping) :
    ((envelope payload).getValue "format").asStr ≠ some "jws" := by
  have hformat : (envelope payload).getValue "format" = .str "eip712" :=
    getValue_mapping (by simp [envelopeFields])
  rw [hformat]
  decide

theorem signature_envelope (payload : Mapping) :
    (envelope payload).getValue "signature" = .str signaturePaid :=
  getValue_mapping (by simp [envelopeFields])

/-- The receipts are accepted, whatever their transaction is. -/
theorem verify_paid (txHash tx_hash : Option String) :
    verifySignedX402Receipt platformPaid (envelope (paid txHash tx_hash)) (.str signerPaid) =
      .ok (.dict (paid txHash tx_hash).items) := by
  have hpayload : (envelope (paid txHash tx_hash)).getValue "payload" =
      .dict (paid txHash tx_hash).items := getValue_mapping (by simp [envelopeFields])
  have hdigest : eip712ReceiptDigest platformPaid (paid txHash tx_hash) =
      .ok (lengthHash (receiptMessage platformPaid membersPaid)) :=
    eip712ReceiptDigest_eq_ok.mpr ⟨membersPaid, receiptMembers_paid txHash tx_hash, rfl⟩
  have hsigner : ∀ digest : Bytes, digest.length = 32 →
      recoverEip712Signer platformPaid digest signaturePaid = .ok signerPaid := by
    intro digest hlength
    have hkey : recoverKey platformPaid digest signaturePaid = .ok (4 :: digest) := by
      rw [recoverKey, readSignature_paid]
      rfl
    have haddress : addressOf platformPaid (4 :: digest) = addressPaid := by
      change (lengthHash digest).drop ((lengthHash digest).length - 20) = addressPaid
      rw [lengthHash, hlength, TypedData.length_bigEndian]
      rfl
    rw [recoverEip712Signer, hkey, except_ok_bind, haddress]
    rfl
  have hstrip : pyStrip signerPaid = signerPaid :=
    pyStrip_eq_self fun c hc => not_isPySpace_of_isTokenChar (isTokenChar_prefixed _ hc)
  have hfilled : signerPaid ≠ "" := by
    intro hempty
    have hchars := congrArg String.toList hempty
    rw [signerPaid, String.toList_append] at hchars
    cases hchars
  exact verifySignedX402Receipt_signed (format_envelope _) (signature_envelope _)
    signaturePaid_ne_empty hpayload hstrip hfilled hdigest
    (hsigner _ (TypedData.length_bigEndian 32 _))

theorem keccakFree_paid (txHash tx_hash txHash' tx_hash' : Option String) :
    KeccakFree platformPaid (paid txHash tx_hash) (paid txHash' tx_hash') signaturePaid where
  structs members members' hmembers hmembers' := by
    rw [receiptMembers_paid] at hmembers hmembers'
    obtain rfl := Except.ok.inj hmembers
    obtain rfl := Except.ok.inj hmembers'
    have hlengths : ((TypedData.structBytes lengthHash receiptType membersPaid ::
        TypedData.texts membersPaid).map List.length).Nodup := by
      decide +kernel
    have hshort : ∀ input ∈ TypedData.structBytes lengthHash receiptType membersPaid ::
        TypedData.texts membersPaid, input.length < 256 ^ 32 := by
      decide +kernel
    intro input hinput other hother hhash
    exact List.inj_on_of_nodup_map hlengths hinput hother
      (TypedData.bigEndian_injective (hshort input hinput) (hshort other hother) hhash)
  messages members members' hmembers hmembers' _ := by
    rw [receiptMembers_paid] at hmembers hmembers'
    rw [← Except.ok.inj hmembers, ← Except.ok.inj hmembers']
  addresses digest digest' key key' hdigest hdigest' hkey hkey' _ := by
    obtain ⟨members, hmembers, rfl⟩ := eip712ReceiptDigest_eq_ok.mp hdigest
    obtain ⟨members', hmembers', rfl⟩ := eip712ReceiptDigest_eq_ok.mp hdigest'
    rw [receiptMembers_paid] at hmembers hmembers'
    rw [← Except.ok.inj hmembers] at hkey
    rw [← Except.ok.inj hmembers', hkey] at hkey'
    exact Except.ok.inj hkey'

/-- What is attested of a receipt with a transaction. -/
def attestedPaid (transaction : String) (hfilled : transaction ≠ "") : ReceiptPayload where
  resourceUrl := ⟨"https://api.example", by decide⟩
  payer := ⟨"0x1", by decide⟩
  network := ⟨"base", by decide⟩
  issuedAt := 1700000000
  transaction := some ⟨transaction, hfilled⟩

theorem getValue_paid_missing {key : String} {txHash tx_hash : Option String}
    (hmissing : OrderedDict.fieldValue key (paidFields txHash tx_hash).entries = none) :
    (paid txHash tx_hash).getValue key = .none := by
  rw [OrderedDict.getValue, paid, OrderedDict.Fields.get?_mapping, hmissing]
  rfl

theorem build_paid {txHash tx_hash : Option String} {transaction : String}
    (hfilled : transaction ≠ "")
    (hread : readString (paid txHash tx_hash) ["txHash", "tx_hash"] = some ⟨transaction, hfilled⟩) :
    buildX402ReceiptDigestPayload platformPaid (paid txHash tx_hash) =
      .ok (attestedPaid transaction hfilled) := by
  refine buildX402ReceiptDigestPayload_eq_ok.mpr ⟨?_, ?_, ?_, ?_, ?_⟩
  · exact readString_of_getValue (getValue_mapping (by simp [paidFields, attestedPaid]))
  · exact readString_of_getValue (getValue_mapping (by simp [paidFields, attestedPaid]))
  · exact readString_of_getValue (getValue_mapping (by simp [paidFields, attestedPaid]))
  · have hissued : (paid txHash tx_hash).getValue "issuedAt" = .int 1700000000 :=
      getValue_mapping (by simp [paidFields])
    rw [readNumber, issuedAtKeys, List.findSome?_cons, hissued]
    rfl
  · have hmissing : (paid txHash tx_hash).getValue "transaction" = .none :=
      getValue_paid_missing (by simp [paidFields, OrderedDict.fieldValue])
    rw [transactionKeys, readString_of_missing hmissing]
    exact hread

theorem build_txHash (transaction : String) (hfilled : transaction ≠ "") :
    buildX402ReceiptDigestPayload platformPaid (paid (some transaction) none) =
      .ok (attestedPaid transaction hfilled) :=
  build_paid hfilled (readString_of_getValue (getValue_mapping (by simp [paidFields])))

theorem build_tx_hash (transaction : String) (hfilled : transaction ≠ "") :
    buildX402ReceiptDigestPayload platformPaid (paid none (some transaction)) =
      .ok (attestedPaid transaction hfilled) := by
  have hmissing : (paid none (some transaction)).getValue "txHash" = .none :=
    getValue_paid_missing (by simp [paidFields, OrderedDict.fieldValue])
  refine build_paid hfilled ?_
  rw [readString_of_missing hmissing]
  exact readString_of_getValue (getValue_mapping (by simp [paidFields]))

/-- The receipts with one transaction and with another. -/
theorem verify_unsigned_transaction : ¬∀ (signed other payload payload' : Mapping)
    (expectedSigner : PyValue) (signature : String) (attested attested' : ReceiptPayload),
    (signed.getValue "format").asStr ≠ some "jws" → (other.getValue "format").asStr ≠ some "jws" →
      signed.getValue "signature" = .str signature → other.getValue "signature" = .str signature →
        KeccakFree platformPaid payload payload' signature →
          verifySignedX402Receipt platformPaid signed expectedSigner = .ok (.dict payload.items) →
            verifySignedX402Receipt platformPaid other expectedSigner = .ok (.dict payload'.items) →
              buildX402ReceiptDigestPayload platformPaid payload = .ok attested →
                buildX402ReceiptDigestPayload platformPaid payload' = .ok attested' →
                  attested = attested' := by
  intro hsame
  have hequal := hsame (envelope (paid (some "0xaa") none)) (envelope (paid (some "0xbb") none)) _ _
    (.str signerPaid) signaturePaid (attestedPaid "0xaa" (by decide))
    (attestedPaid "0xbb" (by decide)) (format_envelope _) (format_envelope _)
    (signature_envelope _) (signature_envelope _) (keccakFree_paid _ _ _ _) (verify_paid _ _)
    (verify_paid _ _) (build_txHash "0xaa" (by decide)) (build_txHash "0xbb" (by decide))
  have htransaction := congrArg (fun attested => attested.transaction.map Subtype.val) hequal
  exact absurd (Option.some.inj htransaction) (by decide)

/-- Two spellings of one transaction are attested alike. -/
theorem attested_eq_iff_paid : AliasesAgree platformPaid (paid (some "0xaa") none)
    (paid none (some "0xaa")) :=
  (attested_eq_iff laws_paid lowerLaws_terminal (format_envelope _) (format_envelope _)
    (signature_envelope _) (signature_envelope _) (keccakFree_paid _ _ _ _)
    (verify_paid (some "0xaa") none) (verify_paid none (some "0xaa"))
    (build_txHash "0xaa" (by decide)) (build_tx_hash "0xaa" (by decide))).mp ⟨rfl, rfl, rfl⟩

end Unsigned

end PaybondKit.Receipt.X402
