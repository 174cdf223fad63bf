import PaybondKit.Receipt.Hex
import PaybondKit.Receipt.JsonDigest
import PaybondKit.Receipt.SignedPart

/-!
# SEP-2828 decision and outcome records

The outcome names the digest of its decision, and the digest is taken after the signature
fields are stripped. Stripping also drops an asserted block that is no object or that held
signature fields only, so that an outcome binds its decision up to such blocks.
-/

namespace PaybondKit.Receipt.Sep2828

open Agent (PyExc)

def signatureKeys : List String :=
  ["signature", "ed25519_signature_hex", "message_digest_sha256_hex",
    "signing_public_key_ed25519_hex"]

def assertedBlocks : List String := ["issuerAsserted", "receiptAsserted"]

def readObject : PyValue → Option Mapping
  | .dict items => some (.ofList items)
  | _ => none

/-! ## Digests -/

/-- A character of the prefix, in either case. Two letters have a third form. -/
def matchesIgnoringCase (expected c : Char) : Bool :=
  c.toLower = expected ∨ (expected = 's' ∧ c = '\u017f') ∨ (expected = 'k' ∧ c = '\u212a')

def hasPrefix : List Char → List Char → Bool
  | [], _ => true
  | expected :: rest, c :: text => matchesIgnoringCase expected c && hasPrefix rest text
  | _, [] => false

/-- `^(sha256|blake3):` is replaced by nothing. -/
def stripDigestPrefix (digest : String) : String :=
  if ["sha256:", "blake3:"].any fun algorithm => hasPrefix algorithm.toList digest.toList then
    String.ofList (digest.toList.drop 7)
  else digest

/-- The fields that are not signature fields. -/
def unsignedFields (fields : Mapping) : Mapping :=
  fields.filter fun key _ => decide (key ∉ signatureKeys)

/-- What a field leaves in the stripped record. -/
def strippedField (key : String) (value : PyValue) : Option PyValue :=
  if key ∈ signatureKeys then none
  else if key ∈ assertedBlocks then
    match readObject value with
    | none => none
    | some asserted =>
        let stripped := unsignedFields asserted
        if stripped.items.isEmpty then none else some (.dict stripped.items)
  else some value

def stripSignatureFields (record : Mapping) : Mapping :=
  .ofList (OrderedDict.presentItems (record.mapValues strippedField).items)

section Verify

variable (platform : Platform)

def recordBytes (record : Mapping) : ByteArray :=
  canonicalJsonBytes platform.floatText (.dict (stripSignatureFields record).items)

def recordContentDigestHex (record : Mapping) : String :=
  platform.sha256Hex (recordBytes platform record)

/-! ## Signatures -/

/-- The value, if it is a text that is not empty. -/
def filledText : PyValue → Option String
  | .str text => if text = "" then none else some text
  | _ => none

/-- The signature and the key of a block or of the record. -/
def readMaterial (fields : Mapping) : Option (String × String) := do
  let signature := fields.getValue "ed25519_signature_hex"
  let signature := if signature.truthy then signature else fields.getValue "signature"
  let signature ← filledText signature
  let publicKey ← filledText (fields.getValue "signing_public_key_ed25519_hex")
  return (pyStrip signature, pyStrip publicKey)

def extractSignatureMaterial (record : Mapping) : Except PyExc (String × String) :=
  let blocks := assertedBlocks.filterMap fun block => readObject (record.getValue block)
  match (blocks ++ [record]).findSome? readMaterial with
  | some material => .ok material
  | none =>
      .error <| .valueError
        "SEP-2828 record missing ed25519 signature and signing_public_key_ed25519_hex"

/-- The extension's decoder knows no spaces between the digits. -/
def nativeHexDecode (field text : String) : Except PyExc ByteArray := do
  raiseIf ((pyStrip text).toList.any isAsciiSpace = true) (.valueError s!"{field}: invalid hex")
  bytesFromHex (pyStrip text)

/-- `verify_ed25519_sha256_hex` of the extension. -/
def nativeVerify (digestHex signatureHex publicKeyHex : String) : Except PyExc Bool := do
  let digest ← nativeHexDecode "digest_hex" digestHex
  raiseIf (digest.size ≠ 32) (.valueError "digest_hex must decode to 32 bytes")
  let signature ← nativeHexDecode "signature_hex" signatureHex
  raiseIf (signature.size ≠ 64) (.valueError "signature_hex: signature error")
  let publicKey ← nativeHexDecode "public_key_hex" publicKeyHex
  raiseIf (publicKey.size ≠ 32) (.valueError "public_key_hex must decode to 32 bytes")
  return platform.ed25519Verify publicKey signature digestHex

/-- The check without the extension. -/
def pythonVerify (digestHex signatureHex publicKeyHex : String) : Except PyExc Bool := do
  let publicKey ← bytesFromHex publicKeyHex
  raiseIf (publicKey.size ≠ 32) (.valueError "An Ed25519 public key is 32 bytes long")
  let signature ← bytesFromHex signatureHex
  return platform.ed25519Verify publicKey signature digestHex

/-- With the extension, if it was built. -/
def verifyEd25519Sha256Hex (native : Bool) (digestHex signatureHex publicKeyHex : String) :
    Except PyExc Unit := do
  let valid ←
    if native then nativeVerify platform digestHex signatureHex publicKeyHex
    else pythonVerify platform digestHex signatureHex publicKeyHex
  raiseIf (valid = false) (.valueError "SEP-2828 record signature verification failed")

def verifySep2828RecordSignature (native : Bool) (record : Mapping) : Except PyExc Unit := do
  let (signatureHex, publicKeyHex) ← extractSignatureMaterial record
  verifyEd25519Sha256Hex platform native (recordContentDigestHex platform record) signatureHex
    publicKeyHex

/-! ## Pairs -/

/-- The object under a key. -/
def requireObject (record : Mapping) (key message : String) : Except PyExc Mapping :=
  match readObject (record.getValue key) with
  | some fields => .ok fields
  | none => .error (.valueError message)

def requireFilledText (value : PyValue) (message : String) : Except PyExc String :=
  match filledText value with
  | some text => .ok text
  | none => .error (.valueError message)

def verifySep2828ReceiptPair (native : Bool) (decision outcome : Mapping) : Except PyExc Unit := do
  verifySep2828RecordSignature platform native decision
  verifySep2828RecordSignature platform native outcome
  let missing := "SEP-2828 decision and outcome records must both include backLink"
  let decisionBackLink ← requireObject decision "backLink" missing
  let outcomeBackLink ← requireObject outcome "backLink" missing
  let decisionDigest ← requireFilledText (decisionBackLink.getValue "attestationDigest")
    "SEP-2828 decision backLink.attestationDigest is required"
  raiseIf ((outcomeBackLink.getValue "attestationDigest").asStr ≠ some decisionDigest)
    (.valueError "SEP-2828 decision and outcome backLink.attestationDigest must match")
  let outcomeDerived ← requireObject outcome "outcomeDerived"
    "SEP-2828 outcome record must include outcomeDerived"
  let expected := stripDigestPrefix (recordContentDigestHex platform decision)
  let field ← requireFilledText (outcomeDerived.getValue "decisionDigest")
    "SEP-2828 outcomeDerived.decisionDigest is required for pairing"
  raiseIf (stripDigestPrefix field ≠ expected)
    (.valueError "SEP-2828 outcomeDerived.decisionDigest does not match signed decision record")

end Verify

/-! ## Records without their signatures -/

/-- A value without the signature fields of an asserted block. -/
def unsignedValue (key : String) (value : PyValue) : PyValue :=
  match value with
  | .dict items =>
      if key ∈ assertedBlocks then .dict (unsignedFields (.ofList items)).items else value
  | _ => value

/-- The record without its signature fields, and its asserted blocks without theirs. -/
def removeSignatures (record : Mapping) : Mapping :=
  (unsignedFields record).mapValues unsignedValue

/-- An object that is not empty. -/
def filledObject : PyValue → Bool
  | .dict items => !items.isEmpty
  | _ => false

def keepsField (key : String) (value : PyValue) : Bool :=
  decide (key ∉ assertedBlocks) || filledObject value

/-- The record without the asserted blocks that are no objects, or empty ones. -/
def dropBareBlocks (record : Mapping) : Mapping := record.filter keepsField

theorem strippedField_eq {key : String} {value : PyValue} (hkey : key ∉ signatureKeys) :
    strippedField key value =
      if keepsField key (unsignedValue key value) then some (unsignedValue key value) else none := by
  rw [strippedField, if_neg hkey]
  by_cases hblock : key ∈ assertedBlocks
  · rw [if_pos hblock]
    cases value with
    | dict items =>
        simp only [readObject, unsignedValue, keepsField, filledObject, hblock,
          not_true_eq_false, decide_false, Bool.false_or]
        cases (unsignedFields (.ofList items)).items <;> rfl
    | _ => simp [readObject, unsignedValue, keepsField, hblock, filledObject]
  · have hvalue : unsignedValue key value = value := by
      unfold unsignedValue
      split
      next => exact if_neg hblock
      next => rfl
    rw [if_neg hblock, hvalue, keepsField, decide_eq_true hblock]
    rfl

/-- Stripping removes the signature fields, and then the blocks that are bare. -/
theorem stripSignatureFields_eq (record : Mapping) :
    stripSignatureFields record = dropBareBlocks (removeSignatures record) := by
  have hnodup := (record.mapValues strippedField).nodup.sublist
    (OrderedDict.presentItems_sublist _)
  apply OrderedDict.ext
  rw [stripSignatureFields, OrderedDict.items_ofList hnodup]
  simp only [dropBareBlocks, removeSignatures, unsignedFields, OrderedDict.mapValues,
    OrderedDict.filter]
  induction record.items with
  | nil => rfl
  | cons field fields ih =>
      obtain ⟨key, value⟩ := field
      by_cases hsignature : key ∈ signatureKeys
      · have hstripped : strippedField key value = none := if_pos hsignature
        simpa [hstripped, hsignature] using ih
      · have hstripped := @strippedField_eq key value hsignature
        by_cases hkeeps : keepsField key (unsignedValue key value) = true
        · simpa [hstripped, hsignature, hkeeps] using ih
        · simpa [hstripped, hsignature, hkeeps] using ih

theorem distinct_unsignedFields {fields : Mapping} (hfields : (PyValue.dict fields.items).Distinct) :
    (PyValue.dict (unsignedFields fields).items).Distinct := by
  refine PyValue.distinct_dict.mpr ⟨(unsignedFields fields).nodup, ?_⟩
  intro item hitem
  exact (PyValue.distinct_dict.mp hfields).2 item (List.mem_filter.mp hitem).1

theorem distinct_ofList {items : List (String × PyValue)}
    (hitems : (PyValue.dict items).Distinct) :
    (PyValue.dict (OrderedDict.ofList items).items).Distinct := by
  rwa [OrderedDict.items_ofList hitems.1]

/-- Stripping leaves keys distinct. -/
theorem distinct_stripSignatureFields {record : Mapping}
    (hrecord : (PyValue.dict record.items).Distinct) :
    (PyValue.dict (stripSignatureFields record).items).Distinct := by
  refine PyValue.distinct_dict.mpr ⟨(stripSignatureFields record).nodup, ?_⟩
  intro item hitem
  obtain ⟨field, hfield, hstripped⟩ := List.mem_filterMap.mp (OrderedDict.mem_of_mem_ofList hitem)
  obtain ⟨stored, hstored, rfl⟩ := List.mem_map.mp hfield
  obtain ⟨value, hvalue, rfl⟩ := Option.map_eq_some_iff.mp hstripped
  have hdistinct := (PyValue.distinct_dict.mp hrecord).2 stored hstored
  simp only [strippedField] at hvalue
  split at hvalue
  next => cases hvalue
  next =>
    split at hvalue
    next =>
      cases hobject : stored.2 with
      | dict items =>
          rw [hobject] at hvalue hdistinct
          simp only [readObject] at hvalue
          split at hvalue
          next => cases hvalue
          next =>
            cases hvalue
            exact distinct_unsignedFields (distinct_ofList hdistinct)
      | _ =>
          rw [hobject] at hvalue
          cases hvalue
    next =>
      cases hvalue
      exact hdistinct

/-! ## What an outcome binds -/

/-- A digest in hexadecimal digits has no prefix. -/
theorem stripDigestPrefix_hex64 (digest : Hex64) : stripDigestPrefix digest.val = digest.val := by
  have hdigits : ∀ n < 16, matchesIgnoringCase 's' (lowerHexDigit n) = false ∧
      matchesIgnoringCase 'l' (lowerHexDigit n) = false := by
    decide
  have hmatches : ∀ c, isLowerHex c = true →
      matchesIgnoringCase 's' c = false ∧ matchesIgnoringCase 'l' c = false := by
    intro c hc
    obtain ⟨n, hn, -, rfl⟩ := lowerHexDigit_hexDigit hc
    exact hdigits n hn
  have hdigest := digest.property
  simp only [hex64Re, Bool.and_eq_true, List.all_eq_true, decide_eq_true_eq] at hdigest
  obtain ⟨hhex, hlength⟩ := hdigest
  unfold stripDigestPrefix
  cases htext : digest.val.toList with
  | nil =>
      rw [htext] at hlength
      cases hlength
  | cons first tail =>
      cases tail with
      | nil =>
          rw [htext] at hlength
          cases hlength
      | cons second rest =>
          rw [htext] at hhex
          have hfirst := (hmatches first (hhex first (by simp))).1
          have hsecond := (hmatches second (hhex second (by simp))).2
          simp [hasPrefix, hfirst, hsecond]

section Pairs

variable {platform : Platform} {native : Bool} {decision other outcome : Mapping}

/-- An accepted outcome carries the digest of the decision. -/
theorem decisionDigest_of_verifySep2828ReceiptPair (hhex : platform.HexDigests)
    (hverify : verifySep2828ReceiptPair platform native decision outcome = .ok ()) :
    ∃ derived field, readObject (outcome.getValue "outcomeDerived") = some derived ∧
      filledText (derived.getValue "decisionDigest") = some field ∧
        stripDigestPrefix field = recordContentDigestHex platform decision := by
  simp only [verifySep2828ReceiptPair, except_bind_eq_ok, raiseIf_eq_ok] at hverify
  obtain ⟨_, -, _, -, _, -, _, -, _, -, _, -, derived, hderived, field, hfield, hsame⟩ := hverify
  have hobject : readObject (outcome.getValue "outcomeDerived") = some derived := by
    unfold requireObject at hderived
    split at hderived
    next fields hfields => rw [hfields, Except.ok.inj hderived]
    next => cases hderived
  have htext : filledText (derived.getValue "decisionDigest") = some field := by
    unfold requireFilledText at hfield
    split at hfield
    next text htext => rw [htext, Except.ok.inj hfield]
    next => cases hfield
  refine ⟨derived, field, hobject, htext, ?_⟩
  rw [not_not.mp hsame]
  exact stripDigestPrefix_hex64 ⟨_, hhex _⟩

end Pairs

/-! ## A block that is no object -/

section Bare

def platformPaired : Platform :=
  { terminalPlatform fun _ => String.ofList (List.replicate 64 '0') with
    floatText := exactFloatText }

theorem hexDigests_paired : platformPaired.HexDigests := by
  intro bytes
  change hex64Re (String.ofList (List.replicate 64 '0')) = true
  decide +kernel

def signatureBytes : ByteArray := ⟨Array.replicate 64 1⟩

def publicKeyBytes : ByteArray := ⟨Array.replicate 32 2⟩

/-- A signed record with an asserted block and what an outcome was derived from. -/
def signedRecord (block derived : Option PyValue) : PyFields where
  entries :=
    [("ed25519_signature_hex", some (.str (hexOfBytes signatureBytes))),
      ("signing_public_key_ed25519_hex", some (.str (hexOfBytes publicKeyBytes))),
      ("issuerAsserted", block),
      ("backLink", some (.dict [("attestationDigest", .str "sha256:aa")])),
      ("outcomeDerived", derived)]
  nodup := by simp

theorem getValue_signedRecord {block derived value : Option PyValue} {key : String}
    (hvalue : OrderedDict.fieldValue key (signedRecord block derived).entries = value) :
    (signedRecord block derived).mapping.getValue key = value.getD .none := by
  rw [OrderedDict.getValue, OrderedDict.Fields.get?_mapping, hvalue]

theorem filledText_hexOfBytes {bytes : ByteArray} (hbytes : hexOfBytes bytes ≠ "") :
    filledText (.str (hexOfBytes bytes)) = some (hexOfBytes bytes) ∧
      pyStrip (hexOfBytes bytes) = hexOfBytes bytes := by
  refine ⟨if_neg hbytes, pyStrip_eq_self fun c hc => ?_⟩
  exact not_isPySpace_of_isTokenChar (isTokenChar_of_isLowerHex (isLowerHex_hexOfBytes hc))

/-- Every signature is valid. -/
def AcceptsAll (platform : Platform) : Prop :=
  ∀ publicKey signature digest, platform.ed25519Verify publicKey signature digest = true

theorem verifySep2828RecordSignature_signed {platform : Platform} (haccepts : AcceptsAll platform)
    {block derived : Option PyValue} (hblock : readObject (block.getD .none) = none) :
    verifySep2828RecordSignature platform false (signedRecord block derived).mapping = .ok () := by
  obtain ⟨hsignature, hsignatureStrip⟩ := @filledText_hexOfBytes signatureBytes (by decide +kernel)
  obtain ⟨hpublicKey, hpublicKeyStrip⟩ := @filledText_hexOfBytes publicKeyBytes (by decide +kernel)
  have htruthy : (PyValue.str (hexOfBytes signatureBytes)).truthy = true := by decide +kernel
  have hsignatureField := @getValue_signedRecord block derived _ "ed25519_signature_hex"
    (by simp [signedRecord]; rfl)
  have hpublicKeyField := @getValue_signedRecord block derived _ "signing_public_key_ed25519_hex"
    (by simp [signedRecord]; rfl)
  have hissuer := @getValue_signedRecord block derived block "issuerAsserted"
    (by simp [signedRecord])
  have hreceipt := @getValue_signedRecord block derived none "receiptAsserted"
    (by simp [signedRecord, OrderedDict.fieldValue])
  have hmaterial : readMaterial (signedRecord block derived).mapping =
      some (hexOfBytes signatureBytes, hexOfBytes publicKeyBytes) := by
    rw [readMaterial, hsignatureField, hpublicKeyField]
    simp only [Option.getD_some, htruthy, if_true, hsignature, hpublicKey, Option.bind_eq_bind,
      Option.bind_some, hsignatureStrip, hpublicKeyStrip]
    rfl
  have hextract : extractSignatureMaterial (signedRecord block derived).mapping =
      .ok (hexOfBytes signatureBytes, hexOfBytes publicKeyBytes) := by
    have hnone : readObject .none = none := rfl
    simp only [extractSignatureMaterial, assertedBlocks, List.filterMap_cons, hissuer, hreceipt,
      hblock, Option.getD_none, hnone, List.filterMap_nil, List.nil_append, List.findSome?_cons,
      hmaterial]
  simp only [verifySep2828RecordSignature, hextract, except_ok_bind, verifyEd25519Sha256Hex,
    pythonVerify, bytesFromHex_hexOfBytes, haccepts _ _ _]
  rfl

/-- The digest that every record has here. -/
def pairedDigest : String := String.ofList (List.replicate 64 '0')

/-- A decision with an asserted block. -/
def decisionWith (block : Option PyValue) : Mapping := (signedRecord block none).mapping

def pairedOutcome : Mapping :=
  (signedRecord none (some (.dict [("decisionDigest", .str pairedDigest)]))).mapping

theorem verifySep2828ReceiptPair_signed {platform : Platform} (haccepts : AcceptsAll platform)
    {block derived : Option PyValue} (hblock : readObject (block.getD .none) = none)
    (hdigest : recordContentDigestHex platform (signedRecord block derived).mapping =
      pairedDigest) :
    verifySep2828ReceiptPair platform false (signedRecord block derived).mapping pairedOutcome =
      .ok () := by
  have hbackLink : ∀ block derived, requireObject (signedRecord block derived).mapping "backLink"
      "SEP-2828 decision and outcome records must both include backLink" =
        .ok (.ofList [("attestationDigest", .str "sha256:aa")]) := by
    intro block derived
    rw [requireObject, @getValue_signedRecord block derived _ "backLink" (by simp [signedRecord]; rfl)]
    rfl
  have hderived : requireObject pairedOutcome "outcomeDerived"
      "SEP-2828 outcome record must include outcomeDerived" =
        .ok (.ofList [("decisionDigest", .str pairedDigest)]) := by
    rw [requireObject, pairedOutcome, @getValue_signedRecord none _ _ "outcomeDerived"
      (by simp [signedRecord]; rfl)]
    rfl
  have hfield : requireFilledText
      (OrderedDict.getValue (.ofList [("decisionDigest", .str pairedDigest)]) "decisionDigest")
      "SEP-2828 outcomeDerived.decisionDigest is required for pairing" = .ok pairedDigest := by
    have hne : pairedDigest ≠ "" := by decide +kernel
    have htext : filledText (.str pairedDigest) = some pairedDigest := by
      rw [filledText, if_neg hne]
    have hget : OrderedDict.getValue (.ofList [("decisionDigest", .str pairedDigest)])
        "decisionDigest" = .str pairedDigest := rfl
    rw [requireFilledText, hget, htext]
  simp only [verifySep2828ReceiptPair, except_bind_eq_ok, raiseIf_eq_ok]
  refine ⟨(), verifySep2828RecordSignature_signed haccepts hblock, (),
    verifySep2828RecordSignature_signed haccepts rfl, _, hbackLink block derived, _,
    hbackLink none _, "sha256:aa", rfl, (), not_not.mpr rfl, _, hderived, pairedDigest, hfield, ?_⟩
  rw [hdigest]
  exact not_not.mpr rfl

theorem verifySep2828ReceiptPair_decisionWith {block : Option PyValue}
    (hblock : readObject (block.getD .none) = none) :
    verifySep2828ReceiptPair platformPaired false (decisionWith block) pairedOutcome = .ok () :=
  verifySep2828ReceiptPair_signed (fun _ _ _ => rfl) hblock rfl

theorem removeSignatures_decisionWith (block : Option PyValue)
    (hblock : ∀ value ∈ block, unsignedValue "issuerAsserted" value = value) :
    (removeSignatures (decisionWith block)).items =
      OrderedDict.presentItems [("issuerAsserted", block),
        ("backLink", some (.dict [("attestationDigest", .str "sha256:aa")]))] := by
  have hitems : (decisionWith block).items = (signedRecord block none).items :=
    OrderedDict.items_ofList
      ((signedRecord block none).nodup.sublist (OrderedDict.presentItems_sublist _))
  cases block with
  | none =>
      simp only [removeSignatures, unsignedFields, OrderedDict.mapValues, OrderedDict.filter, hitems]
      rfl
  | some value =>
      have hvalue := hblock value rfl
      simp only [removeSignatures, unsignedFields, OrderedDict.mapValues, OrderedDict.filter, hitems]
      simp [OrderedDict.Fields.items, signedRecord, OrderedDict.presentItems, signatureKeys, hvalue]
      rfl

theorem items_decisionWith_none : (removeSignatures (decisionWith none)).items =
    [("backLink", .dict [("attestationDigest", .str "sha256:aa")])] :=
  removeSignatures_decisionWith none (by simp)

theorem items_decisionWith_str (text : String) :
    (removeSignatures (decisionWith (some (.str text)))).items =
      [("issuerAsserted", .str text),
        ("backLink", .dict [("attestationDigest", .str "sha256:aa")])] := by
  refine removeSignatures_decisionWith _ ?_
  rintro _ ⟨⟩
  rfl

theorem recordBytes_decisionWith (text : String) :
    recordBytes platformPaired (decisionWith none) =
      recordBytes platformPaired (decisionWith (some (.str text))) := by
  have hstripped : stripSignatureFields (decisionWith none) =
      stripSignatureFields (decisionWith (some (.str text))) := by
    rw [stripSignatureFields_eq, stripSignatureFields_eq]
    apply OrderedDict.ext
    simp only [dropBareBlocks, OrderedDict.filter, items_decisionWith_none, items_decisionWith_str]
    rfl
  rw [recordBytes, hstripped, recordBytes]

theorem distinct_decisionWith {block : Option PyValue} (hblock : ∀ value ∈ block, value.Distinct) :
    (PyValue.dict (decisionWith block).items).Distinct := by
  refine PyValue.distinct_mapping ?_
  simp only [signedRecord, List.forall_mem_cons]
  refine ⟨?_, ?_, hblock, ?_, ?_, fun _ hnil => absurd hnil List.not_mem_nil⟩
  · rintro _ ⟨⟩
    trivial
  · rintro _ ⟨⟩
    trivial
  · rintro _ ⟨⟩
    exact ⟨List.nodup_singleton _, trivial, trivial⟩
  · rintro _ ⟨⟩

theorem distinct_decisionWith_str (text : String) :
    (PyValue.dict (decisionWith (some (.str text))).items).Distinct := by
  refine distinct_decisionWith ?_
  rintro _ ⟨⟩
  trivial

end Bare

end PaybondKit.Receipt.Sep2828
