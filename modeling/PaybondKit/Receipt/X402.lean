import PaybondKit.Foundation.JsonLoads
import PaybondKit.Foundation.TypedData
import PaybondKit.Receipt.Hex
import PaybondKit.Receipt.JsonDigest
import PaybondKit.Receipt.SignedPart

/-!
# x402 receipts

A signed receipt is either a compact JWS or an EIP-712 structure, and it is accepted only under
the key that the caller expects. What is attested of a receipt is a digest of a few fields of its
payload. The EIP-712 structure covers one spelling of each field, and the digest reads others
where that one is missing.
-/

namespace PaybondKit.Receipt.X402

open Agent (PyExc)
open TypedData (Member)

abbrev Bytes := List UInt8

/-- The packages that are used: Keccak, the recovery of keys, BLAKE3, base64 and signatures.
A key is recovered in the uncompressed form, and `none` is an exception. -/
structure X402Platform extends Platform where
  keccak256 : Bytes → Bytes
  recoverKeys : Bytes → Bytes → Option (List Bytes)
  blake3Hex : ByteArray → String
  urlsafeB64encode : ByteArray → String
  urlsafeB64decode : String → Except PyExc ByteArray
  verifyEd25519 : ByteArray → ByteArray → ByteArray → Except PyExc Bool
  verifyEs256 : ℕ → ℕ → ByteArray → ByteArray → Except PyExc Bool
  parseFloat : List Char → PyFloat

def readObject : PyValue → Option Mapping
  | .dict items => some (.ofList items)
  | _ => none

abbrev Filled := { text : String // text ≠ "" }

def filled : PyValue → Option Filled
  | .str text => if hempty : text = "" then none else some ⟨text, hempty⟩
  | _ => none

theorem filled_eq_some {value : PyValue} {text : Filled} :
    filled value = some text ↔ value = .str text.val := by
  constructor
  · intro hfilled
    cases value with
    | str stored =>
        rw [filled] at hfilled
        split at hfilled
        next => cases hfilled
        next hstored => rw [← Option.some.inj hfilled]
    | _ => cases hfilled
  · rintro rfl
    rw [filled, dif_neg text.property]

/-- The first of the keys that holds a text that is not empty. -/
def readString (record : Mapping) (keys : List String) : Option Filled :=
  keys.findSome? fun key => filled (record.getValue key)

/-! ## EIP-712 structures -/

inductive FieldType where
  | string
  | uint256
  deriving DecidableEq

def FieldType.text : FieldType → String
  | .string => "string"
  | .uint256 => "uint256"

abbrev TypeFields := List (String × FieldType)

def encodeType (typeName : String) (fields : TypeFields) : String :=
  let listed := ",".intercalate (fields.map fun field => s!"{field.2.text} {field.1}")
  s!"{typeName}({listed})"

def utf8 (text : String) : Bytes := text.toUTF8.data.toList

section Eip712

variable (platform : X402Platform)

/-- `str(value if value is not None else "")`. -/
def textValue : PyValue → String
  | .none => ""
  | value => platform.str value

/-- `int(value).to_bytes(32, byteorder="big")` is defined. -/
def uintValue (value : PyValue) : Except PyExc (Fin (2 ^ 256)) := do
  let number ← platform.int value
  if hnumber : 0 ≤ number ∧ number.toNat < 2 ^ 256 then return ⟨number.toNat, hnumber.2⟩
  else .error (.other "OverflowError" "int does not fit in 32 bytes")

def memberValue (data : Mapping) : String × FieldType → Except PyExc Member
  | (name, .string) => .ok (.text (utf8 (textValue platform (data.getValue name))))
  | (name, .uint256) => do return .uint (← uintValue platform (data.getValue name))

def hashStruct (typeName : String) (fields : TypeFields) (data : Mapping) :
    Except PyExc Bytes := do
  let members ← fields.mapM (memberValue platform data)
  return TypedData.hashStruct platform.keccak256 (utf8 (encodeType typeName fields)) members

def receiptFields : TypeFields :=
  [("version", .uint256), ("network", .string), ("resourceUrl", .string), ("payer", .string),
    ("issuedAt", .uint256), ("transaction", .string)]

def domainFields : TypeFields :=
  [("name", .string), ("version", .string), ("chainId", .uint256)]

def domain : Mapping :=
  .ofList [("name", .str "x402 receipt"), ("version", .str "1"), ("chainId", .int 1)]

def normalizeReceiptPayload (payload : Mapping) : Mapping :=
  payload.set "transaction" (.str ((payload.getValue "transaction").asStr.getD ""))

def eip712ReceiptDigest (payload : Mapping) : Except PyExc Bytes := do
  let domainSeparator ← hashStruct platform "EIP712Domain" domainFields domain
  let structHash ← hashStruct platform "Receipt" receiptFields (normalizeReceiptPayload payload)
  return platform.keccak256 ([0x19, 0x01] ++ domainSeparator ++ structHash)

/-! ## The signer -/

/-- `0x[0-9a-fA-F]{130}`. -/
def signatureRe (text : String) : Bool :=
  match text.toList with
  | '0' :: 'x' :: digits => decide (digits.length = 130) && digits.all fun c =>
      ('0' ≤ c ∧ c ≤ '9') ∨ ('a' ≤ c ∧ c ≤ 'f') ∨ ('A' ≤ c ∧ c ≤ 'F')
  | _ => false

/-- Recovery ids count from 0 or from 27. -/
def recoveryId (last : ℕ) : ℕ := if 27 ≤ last then last - 27 else last

/-- The signature without its last byte, and the recovery id in that byte. -/
def readSignature (signature : String) : Except PyExc (Bytes × ℕ) := do
  let trimmed := pyStrip signature
  raiseIf (signatureRe trimmed = false)
    (.valueError "x402 EIP-712 signature must be 0x-prefixed 65-byte hex")
  let raw := (← bytesFromHex (String.ofList (trimmed.toList.drop 2))).data.toList
  raiseIf (raw.length ≠ 65) (.valueError "x402 EIP-712 signature must decode to 65 bytes")
  let recovery := recoveryId (raw[64]?.getD 0).toNat
  raiseIf (recovery ∉ [0, 1]) (.valueError "x402 EIP-712 signature recovery id must be 0 or 1")
  return (raw.take 64, recovery)

/-- The key at the recovery id, or else the other one. -/
def chooseKey (recovery : ℕ) (keys : List Bytes) : Option Bytes :=
  keys[recovery]?.or keys[recovery ^^^ 1]?

def recoverKey (digest : Bytes) (signature : String) : Except PyExc Bytes := do
  let (signatureBytes, recovery) ← readSignature signature
  match (platform.recoverKeys signatureBytes digest).bind (chooseKey recovery) with
  | some key => .ok key
  | none => .error (.valueError "x402 EIP-712 signature verification failed")

/-- The last 20 bytes of the hash of a key. -/
def addressOf (key : Bytes) : Bytes :=
  let hash := platform.keccak256 (key.drop 1)
  hash.drop (hash.length - 20)

def recoverEip712Signer (digest : Bytes) (signature : String) : Except PyExc String := do
  let key ← recoverKey platform digest signature
  return "0x" ++ hexOfBytes ⟨(addressOf platform key).toArray⟩

end Eip712

/-! ## Compact JWS -/

section Jws

variable (platform : X402Platform)

def base64urlDecode (value : String) : Except PyExc ByteArray := do
  raiseIf (value.toList.any fun c => 0x80 ≤ c.toNat) (.other "UnicodeEncodeError" "not ASCII")
  -- `-len(value) % 4`
  let padding := (4 - value.length % 4) % 4
  platform.urlsafeB64decode (value ++ String.ofList (List.replicate padding '='))

/-- `json.loads` of bytes. -/
def loadsBytes (data : ByteArray) : Except PyExc PyValue :=
  match String.fromUTF8? data with
  | none => .error (.other "UnicodeDecodeError" "invalid utf-8")
  | some text =>
      match jsonLoads platform.parseFloat text with
      | none => .error (.other "JSONDecodeError" "invalid document")
      | some value => .ok value

/-- `str(jwk.get(key, ""))`. -/
def jwkText (jwk : Mapping) (key : String) : String := ((jwk.get? key).map platform.str).getD ""

def jwkThumbprint (jwk : Mapping) : Except PyExc String := do
  let canonical ← match (jwk.getValue "kty").asStr with
    | some "OKP" => .ok [("crv", PyValue.str (jwkText platform jwk "crv")), ("kty", .str "OKP"),
        ("x", .str (jwkText platform jwk "x"))]
    | some "EC" => .ok [("crv", PyValue.str (jwkText platform jwk "crv")), ("kty", .str "EC"),
        ("x", .str (jwkText platform jwk "x")), ("y", .str (jwkText platform jwk "y"))]
    | _ =>
        .error (.valueError "x402 JWS expected_signer check requires an OKP or EC jwk")
  let encoded := jsonDumpsBytes Policy.asciiCompactStyle
    ((Policy.canonicalizeJson (.dict canonical)).toJson platform.floatText)
  let digest := bytesOfHex (platform.sha256Hex encoded)
  return String.ofList ((platform.urlsafeB64encode digest).toList.rdropWhile (· = '='))

/-- The text of a JWK coordinate, if it is one. -/
def rawCoordinate (jwk : Mapping) : String :=
  ((jwk.getValue "x").asStr.map pyStrip).getD ""

def assertJwsExpectedSigner (jwk : Mapping) (expectedSigner : String) : Except PyExc Unit :=
  let expected := pyStrip expectedSigner
  if expected = "" then .ok ()
  else do
    let thumbprint ← jwkThumbprint platform jwk
    raiseIf (expected ≠ thumbprint ∧ (rawCoordinate jwk = "" ∨ expected ≠ rawCoordinate jwk))
      (.valueError "x402 JWS embedded key does not match expected signer")

/-- `int.from_bytes(data, "big")`. -/
def intFromBytes (data : ByteArray) : ℕ :=
  data.data.toList.foldl (fun n byte => n * 256 + byte.toNat) 0

/-- What is signed, under the algorithm of the header. -/
def verifyJwsInput (alg : PyValue) (jwk : Mapping) (signature signingInput : ByteArray) :
    Except PyExc Unit :=
  match alg.asStr with
  | some "EdDSA" | some "Ed25519" =>
      match (jwk.getValue "x").asStr with
      | none =>
          .error (.valueError "x402 JWS Ed25519 verification requires embedded jwk.x")
      | some x => do
          let key ← base64urlDecode platform x
          let accepted ← platform.verifyEd25519 key signature signingInput
          raiseIf (accepted = false) (.valueError "x402 JWS Ed25519 signature verification failed")
  | some "ES256" =>
      match (jwk.getValue "x").asStr, (jwk.getValue "y").asStr with
      | some x, some y => do
          let accepted ← platform.verifyEs256 (intFromBytes (← base64urlDecode platform x))
            (intFromBytes (← base64urlDecode platform y)) signature signingInput
          raiseIf (accepted = false) (.valueError "x402 JWS ES256 signature verification failed")
      | _, _ => .error (.valueError "x402 JWS ES256 verification requires embedded jwk x/y")
  | _ => .error (.valueError s!"unsupported x402 JWS alg {platform.str alg}")

def verifyJwsCompactSignature (signature : String) (expectedSigner : String) :
    Except PyExc PyValue :=
  match (signature.toList.splitOn '.').map String.ofList with
  | [header64, payload64, signature64] => do
      let header ← loadsBytes platform (← base64urlDecode platform header64)
      let payload ← loadsBytes platform (← base64urlDecode platform payload64)
      let signatureBytes ← base64urlDecode platform signature64
      let header ← asMapping "AttributeError" header
      match readObject (header.getValue "jwk") with
      | none => .error (.valueError "x402 JWS verification requires embedded jwk")
      | some jwk => do
          verifyJwsInput platform (header.getValue "alg") jwk signatureBytes
            (header64 ++ "." ++ payload64).toUTF8
          assertJwsExpectedSigner platform jwk expectedSigner
          return payload
  | _ => .error (.valueError "x402 JWS signature must use compact serialization")

end Jws

/-! ## Verifying -/

section Verify

variable (platform : X402Platform)

/-- An envelope that is not a JWS. -/
def verifyEip712Receipt (signed : Mapping) (signature pinned : String) :
    Except PyExc PyValue :=
  match readObject (signed.getValue "payload") with
  | none => .error (.valueError "x402 EIP-712 receipt requires payload alongside signature")
  | some payload => do
      let digest ← eip712ReceiptDigest platform payload
      let recovered ← recoverEip712Signer platform digest signature
      raiseIf (platform.lower recovered ≠ platform.lower pinned)
        (.valueError "x402 EIP-712 recovered signer does not match expected signer")
      return .dict payload.items

def verifySignedX402Receipt (signed : Mapping) (expectedSigner : PyValue) :
    Except PyExc PyValue := do
  let pinned := (expectedSigner.asStr.map pyStrip).getD ""
  raiseIf (pinned = "") (.valueError
    "x402 receipt verification requires a non-empty expected_signer to authenticate the issuer")
  match filled (signed.getValue "signature") with
  | none => .error (.valueError "x402 signed receipt missing signature")
  | some signature =>
      if (signed.getValue "format").asStr = some "jws" then
        verifyJwsCompactSignature platform signature.val pinned
      else verifyEip712Receipt platform signed signature.val pinned

end Verify

/-! ## What a signature covers -/

/-- The order of the group of secp256k1. -/
def groupOrder : ℕ := 0xfffffffffffffffffffffffffffffffebaaedce6af48a03bbfd25e8cd0364141

def numberOf (data : Bytes) : ℕ := data.foldl (fun n byte => n * 256 + byte.toNat) 0

/-- Keccak has 32 bytes. A signature has two keys, and a key at its place has one digest, up to
the order of the group. -/
structure X402Platform.Laws (platform : X402Platform) : Prop where
  length_keccak256 : ∀ data, (platform.keccak256 data).length = 32
  length_recoverKeys : ∀ signature digest keys,
    platform.recoverKeys signature digest = some keys → keys.length = 2
  digest_of_key : ∀ signature digest digest' keys keys' (place : ℕ) key,
    platform.recoverKeys signature digest = some keys →
      platform.recoverKeys signature digest' = some keys' → keys[place]? = some key →
        keys'[place]? = some key → numberOf digest % groupOrder = numberOf digest' % groupOrder

section Covered

variable (platform : X402Platform)

def receiptType : Bytes := utf8 (encodeType "Receipt" receiptFields)

/-- The signed fields of a payload. -/
def receiptMembers (payload : Mapping) : Except PyExc (List Member) :=
  receiptFields.mapM (memberValue platform (normalizeReceiptPayload payload))

def domainSeparator : Bytes :=
  TypedData.hashStruct platform.keccak256 (utf8 (encodeType "EIP712Domain" domainFields))
    [.text (utf8 "x402 receipt"), .text (utf8 "1"), .uint 1]

/-- What is hashed last. -/
def receiptMessage (members : List Member) : Bytes :=
  [0x19, 0x01] ++ domainSeparator platform ++
    TypedData.hashStruct platform.keccak256 receiptType members

/-- Keccak does not collide on what is hashed for two receipts and for their signers. -/
structure KeccakFree (payload payload' : Mapping) (signature : String) : Prop where
  structs : ∀ members members', receiptMembers platform payload = .ok members →
    receiptMembers platform payload' = .ok members' →
      TypedData.CollisionFree platform.keccak256
        (TypedData.structBytes platform.keccak256 receiptType members :: TypedData.texts members)
        (TypedData.structBytes platform.keccak256 receiptType members' :: TypedData.texts members')
  messages : ∀ members members', receiptMembers platform payload = .ok members →
    receiptMembers platform payload' = .ok members' →
      numberOf (platform.keccak256 (receiptMessage platform members)) % groupOrder =
        numberOf (platform.keccak256 (receiptMessage platform members')) % groupOrder →
          receiptMessage platform members = receiptMessage platform members'
  addresses : ∀ digest digest' key key', eip712ReceiptDigest platform payload = .ok digest →
    eip712ReceiptDigest platform payload' = .ok digest' →
      recoverKey platform digest signature = .ok key →
        recoverKey platform digest' signature = .ok key' →
          addressOf platform key = addressOf platform key' → key = key'

variable {platform}

theorem hashStruct_domain :
    hashStruct platform "EIP712Domain" domainFields domain = .ok (domainSeparator platform) := by
  have hname : domain.getValue "name" = .str "x402 receipt" := rfl
  have hversion : domain.getValue "version" = .str "1" := rfl
  have hchain : domain.getValue "chainId" = .int 1 := rfl
  have hmembers : domainFields.mapM (memberValue platform domain) =
      .ok [.text (utf8 "x402 receipt"), .text (utf8 "1"), .uint 1] := by
    simp only [domainFields, List.mapM_cons, memberValue, hname, hversion, hchain]
    rfl
  rw [hashStruct, hmembers]
  rfl

theorem eip712ReceiptDigest_eq_ok {payload : Mapping} {digest : Bytes} :
    eip712ReceiptDigest platform payload = .ok digest ↔
      ∃ members, receiptMembers platform payload = .ok members ∧
        platform.keccak256 (receiptMessage platform members) = digest := by
  rw [eip712ReceiptDigest, hashStruct_domain]
  simp only [hashStruct, except_ok_bind, except_bind_eq_ok, except_pure_eq_ok]
  constructor
  · rintro ⟨structHash, ⟨members, hmembers, rfl⟩, rfl⟩
    exact ⟨members, hmembers, rfl⟩
  · rintro ⟨members, hmembers, rfl⟩
    exact ⟨_, ⟨members, hmembers, rfl⟩, rfl⟩

/-- A text field and a number field are members of their own kinds. -/
theorem isText_memberValue {data : Mapping} {field : String × FieldType} {member : Member}
    (hmember : memberValue platform data field = .ok member) :
    member.isText = decide (field.2 = .string) := by
  obtain ⟨name, _ | _⟩ := field
  · cases hmember
    rfl
  · simp only [memberValue, except_bind_eq_ok, except_pure_eq_ok] at hmember
    obtain ⟨value, -, rfl⟩ := hmember
    rfl

theorem isText_mapM {data : Mapping} {fields : TypeFields} {members : List Member}
    (hmembers : fields.mapM (memberValue platform data) = .ok members) :
    members.map Member.isText = fields.map fun field => decide (field.2 = .string) := by
  induction fields generalizing members with
  | nil =>
      cases hmembers
      rfl
  | cons field fields ih =>
      simp only [List.mapM_cons, except_bind_eq_ok, except_pure_eq_ok] at hmembers
      obtain ⟨member, hmember, rest, hrest, rfl⟩ := hmembers
      rw [List.map_cons, isText_memberValue hmember, ih hrest, List.map_cons]

theorem recovery_lt {signature : String} {signatureBytes : Bytes} {recovery : ℕ}
    (hread : readSignature signature = .ok (signatureBytes, recovery)) : recovery < 2 := by
  simp only [readSignature, except_bind_eq_ok, raiseIf_eq_ok, except_pure_eq_ok, Prod.mk.injEq]
    at hread
  obtain ⟨_, -, raw, -, _, -, _, hrecovery, -, rfl⟩ := hread
  simp only [not_not, List.mem_cons, List.not_mem_nil, or_false] at hrecovery
  omega

theorem isTokenChar_prefixed (bytes : ByteArray) {c : Char}
    (hc : c ∈ ("0x" ++ hexOfBytes bytes).toList) : isTokenChar c = true := by
  rw [String.toList_append, List.mem_append] at hc
  rcases hc with hc | hc
  · exact @forall_mem_of_all Char (isTokenChar · = true) _ _ (by decide) c hc
  · exact isTokenChar_of_isLowerHex (isLowerHex_hexOfBytes hc)

/-- Sixty-five bytes in hex are a signature, when the last byte is a recovery id. -/
theorem readSignature_hex {raw : ByteArray} (hsize : raw.size = 65)
    (hlast : raw.data.toList[64]?.getD 0 = 0) :
    readSignature ("0x" ++ hexOfBytes raw) = .ok (raw.data.toList.take 64, 0) := by
  have hstrip : pyStrip ("0x" ++ hexOfBytes raw) = "0x" ++ hexOfBytes raw :=
    pyStrip_eq_self fun c hc => not_isPySpace_of_isTokenChar (isTokenChar_prefixed raw hc)
  have htext : ("0x" ++ hexOfBytes raw).toList = '0' :: 'x' :: (hexOfBytes raw).toList := by
    rw [String.toList_append]
    rfl
  have hre : signatureRe ("0x" ++ hexOfBytes raw) = true := by
    have hdigits := length_hexOfBytes raw
    rw [hsize] at hdigits
    rw [signatureRe, htext]
    simp only [hdigits, decide_true, Bool.true_and, List.all_eq_true, decide_eq_true_eq]
    intro c hc
    have hhex := isLowerHex_hexOfBytes hc
    simp only [isLowerHex, Policy.isDigit, Bool.or_eq_true, Bool.and_eq_true,
      decide_eq_true_eq] at hhex
    rcases hhex with hdigit | hletter
    · exact .inl hdigit
    · exact .inr (.inl hletter)
  have hdigits : String.ofList (("0x" ++ hexOfBytes raw).toList.drop 2) = hexOfBytes raw := by
    rw [htext]
    exact String.ofList_toList
  have hlength : raw.data.toList.length = 65 := by
    rw [Array.length_toList]
    exact hsize
  simp only [readSignature, hstrip, hre, hdigits, bytesFromHex_hexOfBytes, except_bind_eq_ok,
    raiseIf_eq_ok, except_pure_eq_ok]
  refine ⟨(), Bool.noConfusion, raw, rfl, (), not_not.mpr hlength, (), ?_, ?_⟩
  · rw [hlast]
    decide
  · rw [hlast]
    rfl

/-- The key that is recovered is the one at the place that the signature names. -/
theorem recoverKey_eq_ok (laws : platform.Laws) {digest key : Bytes} {signature : String}
    (hkey : recoverKey platform digest signature = .ok key) :
    ∃ signatureBytes recovery keys, readSignature signature = .ok (signatureBytes, recovery) ∧
      platform.recoverKeys signatureBytes digest = some keys ∧ keys[recovery]? = some key := by
  simp only [recoverKey, except_bind_eq_ok] at hkey
  obtain ⟨⟨signatureBytes, recovery⟩, hread, hchosen⟩ := hkey
  have hlt := recovery_lt hread
  dsimp only at hchosen
  split at hchosen
  next found hfound =>
    obtain rfl := Except.ok.inj hchosen
    obtain ⟨keys, hkeys, hchoose⟩ := Option.bind_eq_some_iff.mp hfound
    have hlength := laws.length_recoverKeys _ _ _ hkeys
    obtain ⟨key, hpresent⟩ : ∃ key, keys[recovery]? = some key :=
      ⟨_, List.getElem?_eq_getElem (by omega)⟩
    rw [chooseKey, hpresent, Option.some_or] at hchoose
    exact ⟨signatureBytes, recovery, keys, hread, hkeys, hpresent.trans hchoose⟩
  next => cases hchosen

/-- An address is written in lower case. -/
theorem lower_address (lower : platform.LowerLaws) (address : Bytes) :
    platform.lower ("0x" ++ hexOfBytes ⟨address.toArray⟩) =
      "0x" ++ hexOfBytes ⟨address.toArray⟩ :=
  lower.token _ fun _ hc => isTokenChar_prefixed _ hc

/-- One signature of one signer covers one list of members. -/
theorem members_eq_of_recover (laws : platform.Laws) (lower : platform.LowerLaws)
    {payload payload' : Mapping} {signature pinned signer signer' : String} {digest digest' : Bytes}
    (hfree : KeccakFree platform payload payload' signature)
    (hdigest : eip712ReceiptDigest platform payload = .ok digest)
    (hdigest' : eip712ReceiptDigest platform payload' = .ok digest')
    (hsigner : recoverEip712Signer platform digest signature = .ok signer)
    (hsigner' : recoverEip712Signer platform digest' signature = .ok signer')
    (hpinned : platform.lower signer = platform.lower pinned)
    (hpinned' : platform.lower signer' = platform.lower pinned) :
    ∃ members, receiptMembers platform payload = .ok members ∧
      receiptMembers platform payload' = .ok members := by
  simp only [recoverEip712Signer, except_bind_eq_ok, except_pure_eq_ok] at hsigner hsigner'
  obtain ⟨key, hkey, rfl⟩ := hsigner
  obtain ⟨key', hkey', rfl⟩ := hsigner'
  have haddress : addressOf platform key = addressOf platform key' := by
    have hsame := hpinned.trans hpinned'.symm
    rw [lower_address lower, lower_address lower] at hsame
    have hhex : hexOfBytes ⟨(addressOf platform key).toArray⟩ =
        hexOfBytes ⟨(addressOf platform key').toArray⟩ := by
      have hchars := congrArg String.toList hsame
      rw [String.toList_append, String.toList_append] at hchars
      exact String.toList_inj.mp (List.append_cancel_left hchars)
    have hbytes := congrArg ByteArray.data (hexOfBytes_injective hhex)
    exact Array.toList_inj.mpr hbytes
  obtain rfl := hfree.addresses digest digest' key key' hdigest hdigest' hkey hkey' haddress
  obtain ⟨members, hmembers, hhash⟩ := eip712ReceiptDigest_eq_ok.mp hdigest
  obtain ⟨members', hmembers', hhash'⟩ := eip712ReceiptDigest_eq_ok.mp hdigest'
  obtain ⟨signatureBytes, recovery, keys, hread, hkeys, hplace⟩ := recoverKey_eq_ok laws hkey
  obtain ⟨signatureBytes', recovery', keys', hread', hkeys', hplace'⟩ :=
    recoverKey_eq_ok laws hkey'
  rw [hread] at hread'
  cases hread'
  have hcongruent := laws.digest_of_key _ _ _ _ _ _ _ hkeys hkeys' hplace hplace'
  rw [← hhash, ← hhash'] at hcongruent
  have hmessage := hfree.messages members members' hmembers hmembers' hcongruent
  have hkinds : members.map Member.isText = members'.map Member.isText := by
    rw [isText_mapM hmembers, isText_mapM hmembers']
  have hsame : members = members' :=
    TypedData.members_eq_of_hashStruct_eq laws.length_keccak256
      (hfree.structs members members' hmembers hmembers') hkinds
      (List.append_cancel_left hmessage)
  exact ⟨members, hmembers, hsame ▸ hmembers'⟩

/-- Two payloads that are the same where the signature looks. -/
structure SameSigned (platform : X402Platform) (payload payload' : Mapping) : Prop where
  network : textValue platform (payload.getValue "network") =
    textValue platform (payload'.getValue "network")
  resourceUrl : textValue platform (payload.getValue "resourceUrl") =
    textValue platform (payload'.getValue "resourceUrl")
  payer : textValue platform (payload.getValue "payer") =
    textValue platform (payload'.getValue "payer")
  issuedAt : ∃ seconds, uintValue platform (payload.getValue "issuedAt") = .ok seconds ∧
    uintValue platform (payload'.getValue "issuedAt") = .ok seconds
  transaction : (payload.getValue "transaction").asStr.getD "" =
    (payload'.getValue "transaction").asStr.getD ""

theorem utf8_injective {text text' : String} (hsame : utf8 text = utf8 text') : text = text' := by
  have hbytes : text.toUTF8 = text'.toUTF8 := ByteArray.ext (Array.toList_inj.mp hsame)
  exact String.toByteArray_inj.mp hbytes

theorem receiptMembers_eq_ok {payload : Mapping} {members : List Member} :
    receiptMembers platform payload = .ok members ↔
      ∃ version seconds, uintValue platform (payload.getValue "version") = .ok version ∧
        uintValue platform (payload.getValue "issuedAt") = .ok seconds ∧
        members = [.uint version, .text (utf8 (textValue platform (payload.getValue "network"))),
          .text (utf8 (textValue platform (payload.getValue "resourceUrl"))),
          .text (utf8 (textValue platform (payload.getValue "payer"))), .uint seconds,
          .text (utf8 ((payload.getValue "transaction").asStr.getD ""))] := by
  have hkept : ∀ key, key ≠ "transaction" →
      (normalizeReceiptPayload payload).getValue key = payload.getValue key := by
    intro key hkey
    rw [normalizeReceiptPayload, OrderedDict.getValue, OrderedDict.get?_set, if_neg hkey,
      OrderedDict.getValue]
  have htransaction : (normalizeReceiptPayload payload).getValue "transaction" =
      .str ((payload.getValue "transaction").asStr.getD "") := by
    rw [normalizeReceiptPayload, OrderedDict.getValue, OrderedDict.get?_set_self]
    rfl
  have hread : receiptMembers platform payload = do
      let version ← uintValue platform (payload.getValue "version")
      let seconds ← uintValue platform (payload.getValue "issuedAt")
      return [.uint version, .text (utf8 (textValue platform (payload.getValue "network"))),
        .text (utf8 (textValue platform (payload.getValue "resourceUrl"))),
        .text (utf8 (textValue platform (payload.getValue "payer"))), .uint seconds,
        .text (utf8 ((payload.getValue "transaction").asStr.getD ""))] := by
    simp only [receiptMembers, receiptFields, List.mapM_cons, List.mapM_nil, memberValue,
      hkept "version" (by decide), hkept "network" (by decide), hkept "resourceUrl" (by decide),
      hkept "payer" (by decide), hkept "issuedAt" (by decide), htransaction]
    cases uintValue platform (payload.getValue "version") with
    | error failure => rfl
    | ok version => cases uintValue platform (payload.getValue "issuedAt") <;> rfl
  rw [hread]
  simp only [except_bind_eq_ok, except_pure_eq_ok]
  constructor
  · rintro ⟨version, hversion, seconds, hseconds, rfl⟩
    exact ⟨version, seconds, hversion, hseconds, rfl⟩
  · rintro ⟨version, seconds, hversion, hseconds, rfl⟩
    exact ⟨version, hversion, seconds, hseconds, rfl⟩

theorem sameSigned_of_members {payload payload' : Mapping} {members : List Member}
    (hmembers : receiptMembers platform payload = .ok members)
    (hmembers' : receiptMembers platform payload' = .ok members) :
    SameSigned platform payload payload' := by
  obtain ⟨version, seconds, -, hseconds, rfl⟩ := receiptMembers_eq_ok.mp hmembers
  obtain ⟨version', seconds', -, hseconds', hsame⟩ := receiptMembers_eq_ok.mp hmembers'
  simp only [List.cons.injEq, Member.text.injEq, Member.uint.injEq] at hsame
  obtain ⟨-, hnetwork, hresource, hpayer, rfl, htransaction, -⟩ := hsame
  exact
    { network := utf8_injective hnetwork
      resourceUrl := utf8_injective hresource
      payer := utf8_injective hpayer
      issuedAt := ⟨seconds, hseconds, hseconds'⟩
      transaction := utf8_injective htransaction }

/-- What was accepted under an EIP-712 signature. -/
theorem verifySignedX402Receipt_eip712 {signed : Mapping} {expectedSigner value : PyValue}
    (hformat : (signed.getValue "format").asStr ≠ some "jws")
    (hverify : verifySignedX402Receipt platform signed expectedSigner = .ok value) :
    ∃ signature payload digest signer, filled (signed.getValue "signature") = some signature ∧
      value = .dict payload.items ∧ eip712ReceiptDigest platform payload = .ok digest ∧
      recoverEip712Signer platform digest signature.val = .ok signer ∧
      platform.lower signer = platform.lower ((expectedSigner.asStr.map pyStrip).getD "") := by
  simp only [verifySignedX402Receipt, except_bind_eq_ok] at hverify
  obtain ⟨_, -, hverify⟩ := hverify
  split at hverify
  next => cases hverify
  next signature hsignature =>
    rw [if_neg hformat, verifyEip712Receipt] at hverify
    split at hverify
    next => cases hverify
    next payload hpayload =>
      simp only [except_bind_eq_ok, raiseIf_eq_ok, except_pure_eq_ok] at hverify
      obtain ⟨digest, hdigest, signer, hsigner, _, hpinned, rfl⟩ := hverify
      exact ⟨signature, payload, digest, signer, hsignature, rfl, hdigest, hsigner,
        not_not.mp hpinned⟩

/-- A receipt that the expected signer signed is accepted. -/
theorem verifySignedX402Receipt_signed {signed payload : Mapping} {signature pinned : String}
    {digest : Bytes} (hformat : (signed.getValue "format").asStr ≠ some "jws")
    (hsignature : signed.getValue "signature" = .str signature) (hfilled : signature ≠ "")
    (hpayload : signed.getValue "payload" = .dict payload.items)
    (hpinned : pyStrip pinned = pinned) (hblank : pinned ≠ "")
    (hdigest : eip712ReceiptDigest platform payload = .ok digest)
    (hsigner : recoverEip712Signer platform digest signature = .ok pinned) :
    verifySignedX402Receipt platform signed (.str pinned) = .ok (.dict payload.items) := by
  have hread : filled (signed.getValue "signature") = some ⟨signature, hfilled⟩ :=
    filled_eq_some.mpr hsignature
  have hpin : ((PyValue.str pinned).asStr.map pyStrip).getD "" = pinned := hpinned
  simp only [verifySignedX402Receipt, hpin, hread, except_bind_eq_ok, raiseIf_eq_ok]
  refine ⟨(), hblank, ?_⟩
  rw [if_neg hformat, verifyEip712Receipt, hpayload]
  simp only [readObject, OrderedDict.ofList_items, hdigest, hsigner, except_bind_eq_ok,
    except_ok_bind, raiseIf_eq_ok, except_pure_eq_ok]
  exact ⟨(), not_not.mpr rfl, trivial⟩

/-- Receipts under one signature of the expected signer are the same where the signature
looks. -/
theorem sameSigned_of_verify (laws : platform.Laws) (lower : platform.LowerLaws)
    {signed other payload payload' : Mapping} {expectedSigner : PyValue} {signature : String}
    (hformat : (signed.getValue "format").asStr ≠ some "jws")
    (hformat' : (other.getValue "format").asStr ≠ some "jws")
    (hsignature : signed.getValue "signature" = .str signature)
    (hsignature' : other.getValue "signature" = .str signature)
    (hfree : KeccakFree platform payload payload' signature)
    (hverify : verifySignedX402Receipt platform signed expectedSigner = .ok (.dict payload.items))
    (hverify' :
      verifySignedX402Receipt platform other expectedSigner = .ok (.dict payload'.items)) :
    SameSigned platform payload payload' := by
  obtain ⟨found, _, digest, signer, hfound, hvalue, hdigest, hsigner, hpinned⟩ :=
    verifySignedX402Receipt_eip712 hformat hverify
  obtain ⟨found', _, digest', signer', hfound', hvalue', hdigest', hsigner', hpinned'⟩ :=
    verifySignedX402Receipt_eip712 hformat' hverify'
  obtain rfl := OrderedDict.ext (PyValue.dict.inj hvalue)
  obtain rfl := OrderedDict.ext (PyValue.dict.inj hvalue')
  rw [hsignature, filled_eq_some] at hfound
  rw [hsignature', filled_eq_some] at hfound'
  rw [← PyValue.str.inj hfound] at hsigner
  rw [← PyValue.str.inj hfound'] at hsigner'
  obtain ⟨members, hmembers, hmembers'⟩ := members_eq_of_recover laws lower hfree hdigest hdigest'
    hsigner hsigner' hpinned hpinned'
  exact sameSigned_of_members hmembers hmembers'

end Covered

end PaybondKit.Receipt.X402
