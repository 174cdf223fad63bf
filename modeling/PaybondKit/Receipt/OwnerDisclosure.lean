import PaybondKit.Foundation.JsonLoads
import PaybondKit.Foundation.PyEquality
import PaybondKit.Receipt.Hex
import PaybondKit.Receipt.Hpke
import PaybondKit.Receipt.SignedPart

/-!
# Owner disclosures

The package that seals a disclosure to the owner of a receipt. Decryption compares the receipt
id of the disclosure with that of the package. Of its digest it asks nothing, and anybody who
knows the key of the owner can seal a disclosure under the digest of another receipt.
-/

namespace PaybondKit.Receipt.Disclosure

open Agent (PyExc)

/-- The platform with the cryptography package, and the floats that texts denote. -/
structure DisclosurePlatform extends Platform, HpkePrimitives where
  parseFloat : List Char → PyFloat

def kindV1 : String := "paybond.agent_receipt_owner_disclosure_v1"
def plaintextKindV1 : String := "paybond.agent_receipt_owner_disclosure_plaintext_v1"
def schemaVersion : Int := 1
def hpkeSuite : String := "DHKEM_X25519_HKDF_SHA256/HKDF_SHA256/AES_128_GCM"
def info : String := "paybond.agent_receipt_owner_disclosure_v1"

section Package

variable (platform : DisclosurePlatform)

def aad (receiptId messageDigest : String) : ByteArray :=
  -- the two are set apart by a zero character
  let material := pyStrip receiptId ++ "\x00" ++ platform.stripLower messageDigest
  platform.sha256 material.toUTF8

/-- `json.dumps(plaintext, separators=(",", ":"), ensure_ascii=False)`. -/
def bodyText (plaintext : Mapping) : String :=
  String.ofList ((PyValue.toJson platform.floatText (.dict plaintext.items)).print compactStyle)

/-- What a sender puts into a package. -/
structure Parts where
  recipientPublicKeyHex : String
  enc : ByteArray
  ciphertext : ByteArray
  aad : ByteArray
  receiptId : PyValue
  messageDigest : String

/-- The package of what was sealed. -/
def Parts.package (parts : Parts) : PyFields where
  entries :=
    [("kind", some (.str kindV1)), ("schema_version", some (.int schemaVersion)),
      ("hpke_suite", some (.str hpkeSuite)), ("info", some (.str info)),
      ("recipient_public_key_x25519_hex", some (.str parts.recipientPublicKeyHex)),
      ("encapsulated_key_hex", some (.str (hexOfBytes parts.enc))),
      ("ciphertext_hex", some (.str (hexOfBytes parts.ciphertext))),
      ("aad_sha256_hex", some (.str (hexOfBytes parts.aad))),
      ("receipt_id", some parts.receiptId),
      ("message_digest_sha256_hex", some (.str parts.messageDigest)),
      ("plaintext_content_type",
        some (.str ("application/json; charset=utf-8; profile=" ++ plaintextKindV1)))]
  nodup := by simp

/-- With the private key that is generated for the message. -/
def encryptOwnerDisclosurePackage (ephemeral : PrivateKey) (plaintext : Mapping)
    (recipientPublicKeyX25519Hex : String) : Except PyExc Mapping := do
  raiseIf ((plaintext.getValue "kind").asStr ≠ some plaintextKindV1)
    (.valueError s!"owner disclosure: plaintext kind must be {plaintextKindV1}")
  let pubHex := platform.stripLower recipientPublicKeyX25519Hex
  raiseIf (pubHex.length ≠ 64)
    (.valueError "owner disclosure: recipient_public_key_x25519_hex must be 32-byte hex")
  let pub ← bytesFromHex pubHex
  let body := (bodyText platform plaintext).toUTF8
  let receiptId ← item plaintext "receipt_id"
  let messageDigest ← platform.strItem plaintext "message_digest_sha256_hex"
  let aad := aad platform (platform.str receiptId) messageDigest
  let (enc, ciphertext) ←
    platform.sealHpkeBaseX25519Aes128Gcm ephemeral pub info.toUTF8 aad body
  let parts : Parts :=
    { recipientPublicKeyHex := pubHex, enc, ciphertext, aad, receiptId
      messageDigest := platform.lower messageDigest }
  return parts.package.mapping

/-- `bytes.fromhex(str(package[key]).strip().lower())`. -/
def hexItem (package : Mapping) (key : String) : Except PyExc ByteArray := do
  bytesFromHex (platform.stripLower (← platform.strItem package key))

/-- The associated data of the receipt that the package names. -/
def packageAad (package : Mapping) : Except PyExc ByteArray := do
  return aad platform (← platform.strItem package "receipt_id")
    (← platform.strItem package "message_digest_sha256_hex")

def readPrivateKey (privHex : String) : Except PyExc ByteArray := do
  let priv ← bytesFromHex (platform.stripLower privHex)
  raiseIf (priv.size ≠ 32)
    (.valueError "owner disclosure: recipient private key must be 32-byte hex")
  return priv

/-- `json.loads(plaintext_bytes.decode("utf-8"))`, which is then used as a mapping. -/
def loadPlaintext (body : ByteArray) : Except PyExc Mapping :=
  match String.fromUTF8? body with
  | none => .error (.other "UnicodeDecodeError" "invalid utf-8")
  | some text =>
      match jsonLoads platform.parseFloat text with
      | none => .error (.other "JSONDecodeError" "invalid document")
      | some value => asMapping "AttributeError" value

def decryptOwnerDisclosurePackage (package : Mapping) (recipientPrivateKeyX25519Hex : String) :
    Except PyExc Mapping := do
  raiseIf ((package.getValue "kind").asStr ≠ some kindV1)
    (.valueError s!"owner disclosure: kind must be {kindV1}")
  raiseIf ((package.getValue "hpke_suite").asStr ≠ some hpkeSuite)
    (.valueError <|
      "owner disclosure: unsupported hpke_suite " ++ platform.repr (package.getValue "hpke_suite"))
  raiseIf ((package.getValue "info").asStr ≠ some info) (.valueError "owner disclosure: info mismatch")
  let priv ← readPrivateKey platform recipientPrivateKeyX25519Hex
  let enc ← hexItem platform package "encapsulated_key_hex"
  let ciphertext ← hexItem platform package "ciphertext_hex"
  let aad ← packageAad platform package
  let stated ← platform.strItem package "aad_sha256_hex"
  raiseIf (hexOfBytes aad ≠ platform.stripLower stated)
    (.valueError "owner disclosure: aad_sha256_hex mismatch")
  let body ← platform.openHpkeBaseX25519Aes128Gcm priv enc info.toUTF8 aad ciphertext
  let plaintext ← loadPlaintext platform body
  raiseIf ((plaintext.getValue "kind").asStr ≠ some plaintextKindV1)
    (.valueError "owner disclosure: decrypted kind mismatch")
  raiseIf (PyValue.pyEq (plaintext.getValue "receipt_id") (package.getValue "receipt_id") = false)
    (.valueError "owner disclosure: decrypted receipt binding mismatch")
  return plaintext

/-! ## What a package binds -/

/-- The same digest, whatever the case of its letters. -/
def SameDigest (value other : PyValue) : Prop :=
  platform.lower (platform.str value) = platform.lower (platform.str other)

/-- Two mappings name one digest. -/
def SameDigestField (plaintext package : Mapping) : Prop :=
  ∃ value other, plaintext.get? "message_digest_sha256_hex" = some value ∧
    package.get? "message_digest_sha256_hex" = some other ∧ SameDigest platform value other

/-- The disclosure belongs to the receipt that the package names. -/
def Bound (package plaintext : Mapping) : Prop :=
  PyValue.pyEq (plaintext.getValue "receipt_id") (package.getValue "receipt_id") = true ∧
    SameDigestField platform plaintext package

/-- The sender sealed this content to the owner, for the receipt that the package names. -/
def Seals (package : Mapping) (privateKey : ByteArray) (content : Mapping) : Prop :=
  ∃ enc aad sharedSecret body, hexItem platform package "encapsulated_key_hex" = .ok enc ∧
    packageAad platform package = .ok aad ∧ platform.decap privateKey enc = .ok sharedSecret ∧
    hexItem platform package "ciphertext_hex" =
      .ok (platform.sealWith sharedSecret info.toUTF8 aad body) ∧
    loadPlaintext platform body = .ok content

end Package

section Laws

variable {platform : DisclosurePlatform}

/-- Spaces stay spaces in lower case, and nothing else becomes one. -/
def LowerStrips (platform : Platform) : Prop :=
  ∀ text, pyStrip (platform.lower text) = platform.lower (pyStrip text)

theorem stripLower_lower (laws : platform.LowerLaws) (hstrips : LowerStrips platform.toPlatform)
    (text : String) :
    platform.stripLower (platform.lower text) = platform.stripLower text := by
  rw [Platform.stripLower, hstrips, laws.lower_lower, Platform.stripLower]

/-- What is decrypted is what was sealed, and nothing else was. -/
theorem decrypt_seals (hpke : platform.toHpkePrimitives.Laws) {package plaintext : Mapping}
    {privHex : String} {privateKey : ByteArray}
    (hkey : readPrivateKey platform privHex = .ok privateKey)
    (hdecrypt : decryptOwnerDisclosurePackage platform package privHex = .ok plaintext)
    (content : Mapping) : Seals platform package privateKey content ↔ content = plaintext := by
  simp only [decryptOwnerDisclosurePackage, except_bind_eq_ok, raiseIf_eq_ok, except_pure_eq_ok]
    at hdecrypt
  obtain ⟨_, -, _, -, _, -, priv, hpriv, enc, henc, ciphertext, hciphertext, aad, haad, _, -, _, -,
    body, hopen, _, hplaintext, _, -, _, -, rfl⟩ := hdecrypt
  obtain rfl := Except.ok.inj (hpriv.symm.trans hkey)
  simp only [HpkePrimitives.openHpkeBaseX25519Aes128Gcm, except_bind_eq_ok] at hopen
  obtain ⟨_, -, sharedSecret, hdecap, hopen⟩ := hopen
  have hsealed := (HpkePrimitives.openWith_eq_ok hpke).mp hopen
  constructor
  · rintro ⟨enc', aad', sharedSecret', body', henc', haad', hdecap', hciphertext', hcontent⟩
    obtain rfl := Except.ok.inj (henc.symm.trans henc')
    obtain rfl := Except.ok.inj (haad.symm.trans haad')
    obtain rfl := Except.ok.inj (hdecap.symm.trans hdecap')
    have hopen' := (HpkePrimitives.openWith_eq_ok hpke).mpr
      (Except.ok.inj (hciphertext.symm.trans hciphertext'))
    obtain rfl := Except.ok.inj (hopen.symm.trans hopen')
    exact Except.ok.inj (hcontent.symm.trans hplaintext)
  · rintro rfl
    rw [hsealed] at hciphertext
    exact ⟨enc, aad, sharedSecret, body, henc, haad, hdecap, hciphertext, hplaintext⟩

/-- The receipt id is compared. -/
theorem decrypt_receiptId {package plaintext : Mapping} {privHex : String}
    (hdecrypt : decryptOwnerDisclosurePackage platform package privHex = .ok plaintext) :
    (∃ privateKey, readPrivateKey platform privHex = .ok privateKey) ∧
      PyValue.pyEq (plaintext.getValue "receipt_id") (package.getValue "receipt_id") = true := by
  simp only [decryptOwnerDisclosurePackage, except_bind_eq_ok, raiseIf_eq_ok, except_pure_eq_ok]
    at hdecrypt
  obtain ⟨_, -, _, -, _, -, priv, hpriv, _, -, _, -, _, -, _, -, _, -, _, -, _, -, _, -, _,
    hreceipt, rfl⟩ := hdecrypt
  exact ⟨⟨priv, hpriv⟩, by simpa using hreceipt⟩

/-! ## Reading what was sealed -/

/-- The texts of a disclosure without floats are read back. -/
theorem loadPlaintext_bodyText {plaintext : Mapping}
    (hintegral : (PyValue.dict plaintext.items).Integral)
    (hdistinct : (PyValue.dict plaintext.items).Distinct) :
    loadPlaintext platform (bodyText platform plaintext).toUTF8 = .ok plaintext := by
  have hloads : jsonLoads platform.parseFloat (bodyText platform plaintext) =
      some (.dict plaintext.items) :=
    jsonLoads_print scanned_compactStyle hintegral hdistinct
  rw [loadPlaintext, fromUTF8?_toUTF8]
  simp only [hloads, asMapping, OrderedDict.ofList_items]

section Fields

variable {fields : PyFields} {key : String}

theorem getValue_mapping {value : PyValue}
    (hvalue : OrderedDict.fieldValue key fields.entries = some value) :
    fields.mapping.getValue key = value := by
  rw [OrderedDict.getValue, fields.get?_mapping, hvalue]
  rfl

theorem strItem_mapping {value : PyValue}
    (hvalue : OrderedDict.fieldValue key fields.entries = some value) :
    platform.strItem fields.mapping key = .ok (platform.str value) := by
  rw [Platform.strItem, item, fields.get?_mapping, hvalue]
  rfl

theorem hexItem_mapping (laws : platform.LowerLaws) {bytes : ByteArray}
    (hvalue : OrderedDict.fieldValue key fields.entries = some (.str (hexOfBytes bytes))) :
    hexItem platform fields.mapping key = .ok bytes := by
  rw [hexItem, strItem_mapping hvalue]
  simp only [except_ok_bind, Platform.str_str, stripLower_hexOfBytes laws, bytesFromHex_hexOfBytes]

end Fields

/-- A package is decrypted to the content that was sealed under the receipt that it names, when
the content names that receipt id. -/
theorem decrypt_package (laws : platform.LowerLaws) (hpke : platform.toHpkePrimitives.Laws)
    {ephemeral : PrivateKey} {privateKey : ByteArray} {privHex : String} {content : Mapping}
    {parts : Parts} (hkey : readPrivateKey platform privHex = .ok privateKey)
    (hkind : (content.getValue "kind").asStr = some plaintextKindV1)
    (hreceipt : PyValue.pyEq (content.getValue "receipt_id") parts.receiptId = true)
    (hintegral : (PyValue.dict content.items).Integral)
    (hdistinct : (PyValue.dict content.items).Distinct)
    (haad : parts.aad = aad platform (platform.str parts.receiptId) parts.messageDigest)
    (hseal : platform.sealHpkeBaseX25519Aes128Gcm ephemeral (platform.publicKey privateKey)
      info.toUTF8 parts.aad (bodyText platform content).toUTF8 = .ok (parts.enc, parts.ciphertext)) :
    decryptOwnerDisclosurePackage platform parts.package.mapping privHex = .ok content := by
  have hsize : privateKey.size = 32 := by
    simp only [readPrivateKey, except_bind_eq_ok, raiseIf_eq_ok, except_pure_eq_ok] at hkey
    obtain ⟨priv, -, _, hsize, rfl⟩ := hkey
    exact not_not.mp hsize
  have hopen := HpkePrimitives.openHpke_sealHpke hpke hsize hseal
  have hload := @loadPlaintext_bodyText platform content hintegral hdistinct
  have hnamed : packageAad platform parts.package.mapping = .ok parts.aad := by
    have hid := @strItem_mapping platform parts.package "receipt_id" parts.receiptId
      (by simp [Parts.package])
    have hdigest := @strItem_mapping platform parts.package "message_digest_sha256_hex"
      (.str parts.messageDigest) (by simp [Parts.package])
    rw [packageAad, hid, hdigest, haad]
    rfl
  have hkindV1 := @getValue_mapping parts.package "kind" (.str kindV1) (by simp [Parts.package])
  have hsuite := @getValue_mapping parts.package "hpke_suite" (.str hpkeSuite)
    (by simp [Parts.package])
  have hinfo := @getValue_mapping parts.package "info" (.str info) (by simp [Parts.package])
  have hid := @getValue_mapping parts.package "receipt_id" parts.receiptId (by simp [Parts.package])
  have henc := @hexItem_mapping platform parts.package "encapsulated_key_hex" laws parts.enc
    (by simp [Parts.package])
  have hciphertext := @hexItem_mapping platform parts.package "ciphertext_hex" laws
    parts.ciphertext (by simp [Parts.package])
  have hstated := @strItem_mapping platform parts.package "aad_sha256_hex"
    (.str (hexOfBytes parts.aad)) (by simp [Parts.package])
  have haadHex := stripLower_hexOfBytes laws parts.aad
  simp only [decryptOwnerDisclosurePackage, except_bind_eq_ok, raiseIf_eq_ok, except_pure_eq_ok,
    hkindV1, hsuite, hinfo, hid]
  refine ⟨(), not_not.mpr rfl, (), not_not.mpr rfl, (), not_not.mpr rfl, privateKey, hkey, _, henc,
    _, hciphertext, _, hnamed, _, hstated, (), not_not.mpr haadHex.symm, _, hopen, content, hload,
    (), not_not.mpr hkind, (), ?_, rfl⟩
  rw [hreceipt]
  exact Bool.noConfusion

theorem item_eq_ok_iff {mapping : Mapping} {key : String} {value : PyValue} :
    item mapping key = .ok value ↔ mapping.get? key = some value := by
  unfold item
  split
  next stored hstored => rw [hstored, Except.ok.injEq, Option.some.injEq]
  next hmissing =>
    rw [hmissing]
    constructor
    · intro hitem
      cases hitem
    · intro hitem
      cases hitem

/-- A field of a value without floats equals itself. -/
theorem pyEq_item {mapping : Mapping} {key : String} {value : PyValue}
    (hintegral : (PyValue.dict mapping.items).Integral)
    (hdistinct : (PyValue.dict mapping.items).Distinct) (hitem : item mapping key = .ok value) :
    PyValue.pyEq (mapping.getValue key) value = true := by
  have hget := item_eq_ok_iff.mp hitem
  have hmem := OrderedDict.get?_eq_some_iff.mp hget
  have hvalue : mapping.getValue key = value := by
    rw [OrderedDict.getValue, hget]
    rfl
  rw [hvalue]
  exact PyValue.pyEq_self value (PyValue.integralMembers_iff.mp hintegral _ hmem)
    (PyValue.distinctMembers_iff.mp hdistinct.2 _ hmem)

/-- What was encrypted is decrypted with the matching key. -/
theorem decrypt_encrypt (laws : platform.LowerLaws) (hstrips : LowerStrips platform.toPlatform)
    (hpke : platform.toHpkePrimitives.Laws) {ephemeral : PrivateKey} {privateKey : ByteArray}
    {pubHex privHex : String} {plaintext package : Mapping}
    (hintegral : (PyValue.dict plaintext.items).Integral)
    (hdistinct : (PyValue.dict plaintext.items).Distinct)
    (hpriv : readPrivateKey platform privHex = .ok privateKey)
    (hpub : bytesFromHex (platform.stripLower pubHex) = .ok (platform.publicKey privateKey))
    (hencrypt : encryptOwnerDisclosurePackage platform ephemeral plaintext pubHex = .ok package) :
    decryptOwnerDisclosurePackage platform package privHex = .ok plaintext := by
  simp only [encryptOwnerDisclosurePackage, except_bind_eq_ok, raiseIf_eq_ok, except_pure_eq_ok,
    Prod.exists] at hencrypt
  obtain ⟨_, hkind, _, -, pub, hpub', receiptId, hid, messageDigest, -, enc, ciphertext, hseal,
    rfl⟩ := hencrypt
  obtain rfl := Except.ok.inj (hpub.symm.trans hpub')
  refine decrypt_package laws hpke hpriv (not_not.mp hkind)
    (pyEq_item hintegral hdistinct hid) hintegral hdistinct ?_ hseal
  dsimp only
  rw [aad, aad, stripLower_lower laws hstrips]

/-! ## Who a disclosure belongs to -/

/-- What the owner encrypted to itself is bound to the receipt of the plaintext. -/
theorem bound_encrypt (laws : platform.LowerLaws) {ephemeral : PrivateKey} {pubHex : String}
    {plaintext package : Mapping} (hintegral : (PyValue.dict plaintext.items).Integral)
    (hdistinct : (PyValue.dict plaintext.items).Distinct)
    (hencrypt : encryptOwnerDisclosurePackage platform ephemeral plaintext pubHex = .ok package) :
    Bound platform package plaintext := by
  simp only [encryptOwnerDisclosurePackage, except_bind_eq_ok, raiseIf_eq_ok, except_pure_eq_ok,
    Prod.exists, Platform.strItem, except_map_eq_ok] at hencrypt
  obtain ⟨_, -, _, -, pub, -, receiptId, hid, _, ⟨value, hvalue, rfl⟩, enc, ciphertext, -, rfl⟩ :=
    hencrypt
  constructor
  · have hvalue : ∀ parts : Parts, parts.package.mapping.getValue "receipt_id" = parts.receiptId :=
      fun parts => getValue_mapping (by simp [Parts.package])
    rw [hvalue]
    exact pyEq_item hintegral hdistinct hid
  · refine ⟨value, .str (platform.lower (platform.str value)), item_eq_ok_iff.mp hvalue, ?_, ?_⟩
    · rw [OrderedDict.Fields.get?_mapping]
      simp [Parts.package]
    · exact (laws.lower_lower _).symm

/-- Anybody who knows the public key of the owner can seal a disclosure under a digest that is
not its own. -/
theorem decrypt_forged (laws : platform.LowerLaws) (hpke : platform.toHpkePrimitives.Laws)
    {ephemeral : PrivateKey} {privateKey : ByteArray} {privHex : String} {content : Mapping}
    {parts : Parts} {messageDigest : PyValue} (hkey : readPrivateKey platform privHex = .ok privateKey)
    (hkind : (content.getValue "kind").asStr = some plaintextKindV1)
    (hreceipt : PyValue.pyEq (content.getValue "receipt_id") parts.receiptId = true)
    (hdigest : content.get? "message_digest_sha256_hex" = some messageDigest)
    (hother : platform.lower (platform.str messageDigest) ≠ platform.lower parts.messageDigest)
    (hintegral : (PyValue.dict content.items).Integral)
    (hdistinct : (PyValue.dict content.items).Distinct)
    (haad : parts.aad = aad platform (platform.str parts.receiptId) parts.messageDigest)
    (hseal : platform.sealHpkeBaseX25519Aes128Gcm ephemeral (platform.publicKey privateKey)
      info.toUTF8 parts.aad (bodyText platform content).toUTF8 = .ok (parts.enc, parts.ciphertext)) :
    decryptOwnerDisclosurePackage platform parts.package.mapping privHex = .ok content ∧
      ¬Bound platform parts.package.mapping content := by
  refine ⟨decrypt_package laws hpke hkey hkind hreceipt hintegral hdistinct haad hseal, ?_⟩
  rintro ⟨-, value, other, hvalue, hnamed, hsame⟩
  obtain rfl := Option.some.inj (hdigest.symm.trans hvalue)
  rw [parts.package.get?_mapping] at hnamed
  simp [Parts.package] at hnamed
  subst hnamed
  exact hother hsame

/-- A disclosure that is decrypted belongs to the receipt that the package names exactly when
its sender sealed it with the digest of that receipt. What was encrypted is decrypted with the
matching key. -/
theorem decryptOwnerDisclosurePackage_bound_iff (laws : platform.LowerLaws)
    (hstrips : LowerStrips platform.toPlatform) (hpke : platform.toHpkePrimitives.Laws) :
    (∀ package privHex plaintext,
      decryptOwnerDisclosurePackage platform package privHex = .ok plaintext →
        (Bound platform package plaintext ↔ ∃ privateKey content,
          readPrivateKey platform privHex = .ok privateKey ∧
            Seals platform package privateKey content ∧
              SameDigestField platform content package)) ∧
      ∀ ephemeral plaintext pubHex privHex privateKey package,
        (PyValue.dict plaintext.items).Integral → (PyValue.dict plaintext.items).Distinct →
          readPrivateKey platform privHex = .ok privateKey →
            bytesFromHex (platform.stripLower pubHex) = .ok (platform.publicKey privateKey) →
              encryptOwnerDisclosurePackage platform ephemeral plaintext pubHex = .ok package →
                decryptOwnerDisclosurePackage platform package privHex = .ok plaintext := by
  constructor
  · intro package privHex plaintext hdecrypt
    obtain ⟨⟨privateKey, hkey⟩, hreceipt⟩ := decrypt_receiptId hdecrypt
    have hseals := decrypt_seals hpke hkey hdecrypt
    constructor
    · rintro ⟨-, hdigest⟩
      exact ⟨privateKey, plaintext, hkey, (hseals plaintext).mpr rfl, hdigest⟩
    · rintro ⟨privateKey', content, hkey', hsealed, hdigest⟩
      obtain rfl := Except.ok.inj (hkey.symm.trans hkey')
      obtain rfl := (hseals content).mp hsealed
      exact ⟨hreceipt, hdigest⟩
  · intro ephemeral plaintext pubHex privHex privateKey package hintegral hdistinct hpriv hpub
    exact decrypt_encrypt laws hstrips hpke hintegral hdistinct hpriv hpub

end Laws

/-! ## A disclosure under a digest that is not its own -/

section Forged

def sumBytes (first second : ByteArray) : ByteArray :=
  bytesOf (List.zipWith (· + ·) first.data.toList second.data.toList)

/-- Keys are added to each other, and a ciphertext is the plaintext after the associated data. -/
def platformDisclosing : DisclosurePlatform where
  toPlatform := terminalPlatform fun _ => String.ofList (List.replicate 64 '0')
  hmac key message := key ++ message
  hkdfExpand key message _ := key ++ message
  publicKey key := key
  exchange key other := .ok (sumBytes key other)
  aesGcmEncrypt _ _ plaintext aad := bytesOf (aad.data.toList ++ plaintext.data.toList)
  aesGcmDecrypt _ _ ciphertext aad :=
    if aad.data.toList.isPrefixOf ciphertext.data.toList then
      .ok (bytesOf (ciphertext.data.toList.drop aad.size))
    else .error (.other "InvalidTag" "")
  parseFloat _ := .nan

theorem laws_disclosing : platformDisclosing.toHpkePrimitives.Laws where
  size_publicKey privateKey := privateKey.property
  exchange_comm privateKey other := by
    have hcomm : sumBytes privateKey other = sumBytes other privateKey := by
      rw [sumBytes, sumBytes, List.zipWith_comm_of_comm UInt8.add_comm]
    exact congrArg Except.ok hcomm
  aesGcmDecrypt_eq_ok key nonce ciphertext aad plaintext := by
    change (if aad.data.toList.isPrefixOf ciphertext.data.toList then
        Except.ok (bytesOf (ciphertext.data.toList.drop aad.size)) else _) = Except.ok plaintext ↔
      ciphertext = bytesOf (aad.data.toList ++ plaintext.data.toList)
    have hbytes : ∀ bytes : ByteArray, bytesOf bytes.data.toList = bytes := fun _ => rfl
    constructor
    · intro hopen
      split at hopen
      next hprefix =>
        obtain ⟨rest, hrest⟩ := List.isPrefixOf_iff_prefix.mp hprefix
        rw [← hrest, ByteArray.size, ← Array.length_toList, List.drop_left] at hopen
        rw [← Except.ok.inj hopen, ← hbytes ciphertext, ← hrest]
        rfl
      next => cases hopen
    · rintro rfl
      have hprefix : aad.data.toList.isPrefixOf
          (bytesOf (aad.data.toList ++ plaintext.data.toList)).data.toList = true :=
        List.isPrefixOf_iff_prefix.mpr (List.prefix_append _ _)
      rw [if_pos hprefix]
      change Except.ok (bytesOf ((aad.data.toList ++ plaintext.data.toList).drop aad.size)) = _
      rw [ByteArray.size, ← Array.length_toList, List.drop_left, hbytes]

def ownerKey : PrivateKey := ⟨bytesOf (List.replicate 32 1), rfl⟩

def senderKey : PrivateKey := ⟨bytesOf (List.replicate 32 2), rfl⟩

/-- A disclosure with a digest of its own. -/
def disclosed : PyFields where
  entries :=
    [("kind", some (.str plaintextKindV1)), ("receipt_id", some (.str "action_1")),
      ("message_digest_sha256_hex", some (.str (String.ofList (List.replicate 64 'a'))))]
  nodup := by simp

def otherDigest : String := String.ofList (List.replicate 64 'b')

def forgedAad : ByteArray := aad platformDisclosing "action_1" otherDigest

def forgedSecret : ByteArray :=
  platformDisclosing.extractAndExpand (sumBytes senderKey.val ownerKey.val)
    (senderKey.val ++ ownerKey.val)

/-- What was sealed under another digest. -/
def forged : Parts where
  recipientPublicKeyHex := hexOfBytes ownerKey.val
  enc := senderKey.val
  ciphertext := platformDisclosing.sealWith forgedSecret info.toUTF8 forgedAad
    (bodyText platformDisclosing disclosed.mapping).toUTF8
  aad := forgedAad
  receiptId := .str "action_1"
  messageDigest := otherDigest

theorem readPrivateKey_ownerKey :
    readPrivateKey platformDisclosing (hexOfBytes ownerKey.val) = .ok ownerKey.val := by
  have hlower : platformDisclosing.stripLower (hexOfBytes ownerKey.val) = hexOfBytes ownerKey.val :=
    stripLower_hexOfBytes lowerLaws_terminal ownerKey.val
  rw [readPrivateKey, hlower, bytesFromHex_hexOfBytes]
  rfl

theorem sealHpke_forged :
    platformDisclosing.sealHpkeBaseX25519Aes128Gcm senderKey
      (platformDisclosing.publicKey ownerKey.val) info.toUTF8 forged.aad
      (bodyText platformDisclosing disclosed.mapping).toUTF8 =
        .ok (forged.enc, forged.ciphertext) :=
  rfl

theorem items_disclosed : disclosed.mapping.items = disclosed.items :=
  OrderedDict.items_ofList (disclosed.nodup.sublist (OrderedDict.presentItems_sublist _))

theorem integral_disclosed : (PyValue.dict disclosed.mapping.items).Integral := by
  rw [items_disclosed]
  exact ⟨trivial, trivial, trivial, trivial⟩

theorem distinct_disclosed : (PyValue.dict disclosed.mapping.items).Distinct :=
  ⟨disclosed.mapping.nodup, by
    rw [items_disclosed]
    exact ⟨trivial, trivial, trivial, trivial⟩⟩

theorem decrypt_forged_disclosed :
    decryptOwnerDisclosurePackage platformDisclosing forged.package.mapping
        (hexOfBytes ownerKey.val) = .ok disclosed.mapping ∧
      ¬Bound platformDisclosing forged.package.mapping disclosed.mapping := by
  have hkind := @getValue_mapping disclosed "kind" (.str plaintextKindV1) (by simp [disclosed])
  have hid := @getValue_mapping disclosed "receipt_id" (.str "action_1") (by simp [disclosed])
  have hdigest : disclosed.mapping.get? "message_digest_sha256_hex" =
      some (.str (String.ofList (List.replicate 64 'a'))) := by
    rw [disclosed.get?_mapping]
    simp [disclosed]
  have hother : String.ofList (List.replicate 64 'a') ≠ otherDigest := by
    intro heq
    cases String.ofList_injective heq
  refine decrypt_forged lowerLaws_terminal laws_disclosing readPrivateKey_ownerKey ?_ ?_ hdigest
    hother integral_disclosed distinct_disclosed rfl sealHpke_forged
  · rw [hkind]
    rfl
  · rw [hid]
    rfl

theorem encrypt_disclosed : ∃ package,
    encryptOwnerDisclosurePackage platformDisclosing senderKey disclosed.mapping
      (hexOfBytes ownerKey.val) = .ok package := by
  have hkind := @getValue_mapping disclosed "kind" (.str plaintextKindV1) (by simp [disclosed])
  have hid : item disclosed.mapping "receipt_id" = .ok (.str "action_1") := by
    rw [item_eq_ok_iff, disclosed.get?_mapping]
    simp [disclosed]
  have hdigest := @strItem_mapping platformDisclosing disclosed "message_digest_sha256_hex"
    (.str (String.ofList (List.replicate 64 'a'))) (by simp [disclosed])
  have hlower : platformDisclosing.stripLower (hexOfBytes ownerKey.val) = hexOfBytes ownerKey.val :=
    stripLower_hexOfBytes lowerLaws_terminal ownerKey.val
  have hlength : (hexOfBytes ownerKey.val).length = 64 := by decide +kernel
  simp only [encryptOwnerDisclosurePackage, except_bind_eq_ok, raiseIf_eq_ok, except_pure_eq_ok,
    hkind, hlower]
  exact ⟨_, (), not_not.mpr rfl, (), not_not.mpr hlength, _, bytesFromHex_hexOfBytes _, _, hid, _,
    hdigest, _, rfl, rfl⟩

/-- A disclosure is decrypted under the digest of another receipt. -/
theorem decryptOwnerDisclosurePackage_forged : ¬∀ package privHex plaintext,
    decryptOwnerDisclosurePackage platformDisclosing package privHex = .ok plaintext →
      Bound platformDisclosing package plaintext := by
  intro hbound
  exact decrypt_forged_disclosed.2 (hbound _ _ _ decrypt_forged_disclosed.1)

/-- The forged disclosure was not sealed with the digest that the package names, and what is
encrypted to the owner is decrypted. -/
theorem decryptOwnerDisclosurePackage_bound_iff_disclosed :
    (¬∃ privateKey content,
      readPrivateKey platformDisclosing (hexOfBytes ownerKey.val) = .ok privateKey ∧
        Seals platformDisclosing forged.package.mapping privateKey content ∧
          SameDigestField platformDisclosing content forged.package.mapping) ∧
      ∃ package, decryptOwnerDisclosurePackage platformDisclosing package
        (hexOfBytes ownerKey.val) = .ok disclosed.mapping := by
  obtain ⟨hbound, hround⟩ := decryptOwnerDisclosurePackage_bound_iff lowerLaws_terminal
    (fun _ => rfl) laws_disclosing
  constructor
  · intro hsealed
    exact decrypt_forged_disclosed.2 ((hbound _ _ _ decrypt_forged_disclosed.1).mpr hsealed)
  · obtain ⟨package, hpackage⟩ := encrypt_disclosed
    refine ⟨package, hround senderKey _ _ _ ownerKey.val _ integral_disclosed distinct_disclosed
      readPrivateKey_ownerKey ?_ hpackage⟩
    have hlower : platformDisclosing.stripLower (hexOfBytes ownerKey.val) =
        hexOfBytes ownerKey.val :=
      stripLower_hexOfBytes lowerLaws_terminal ownerKey.val
    rw [hlower]
    exact bytesFromHex_hexOfBytes _

end Forged

end PaybondKit.Receipt.Disclosure
