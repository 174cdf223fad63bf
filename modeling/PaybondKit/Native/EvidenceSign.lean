import PaybondKit.Native.SignedIntent

/-!
# What a payee signs for evidence

The digests of artifacts are read by two functions: the one that signs a request, and a helper that
predicts the signed bytes. They strip a digest differently, so they differ on a digest with space
around it and no prefix; on all others they agree.
-/

namespace PaybondKit.Native

open Bincode

/-! ## Payloads -/

structure EvidenceSignV1 (DateTime : Type) where
  version : UInt8
  tenantId : SizedText
  intentId : Uuid
  payeeDid : SizedText
  payloadDigest : Digest
  artifactsDigest : Digest
  submittedAt : DateTime

def evidenceSignVersion : UInt8 := 2

structure PayeeEvidenceRequest where
  payload : Value
  artifacts : List String
  payeeDid : SizedText
  payeePubkey : String
  payeeSignature : String
  submittedAt : SizedText

inductive PayeeEvidenceError where
  | badArtifact (index : ℕ) (message : String)
  | encode (message : String)
  | submittedAt (message : String)
  deriving DecidableEq, Repr

/-- The arguments of the helper. -/
structure EvidenceInput where
  tenantId : SizedText
  intentId : String
  payeeDid : SizedText
  payload : JsonDoc
  artifactsHex : List String
  submittedAtRfc3339 : String

section Encode

variable {DateTime : Type} (crates : IntentCrates DateTime)

def encodeEvidenceSignV1 (payload : EvidenceSignV1 DateTime) : Except String (List UInt8) :=
  match crates.rfc3339 payload.submittedAt with
  | .ok submittedAt =>
      .ok (encodeU8 payload.version ++ (encodeStr payload.tenantId ++
        (encodeUuid payload.intentId ++ (encodeStr payload.payeeDid ++
          (encodeArray payload.payloadDigest ++ (encodeArray payload.artifactsDigest ++
            encodeStr submittedAt))))))
  | .error message => .error s!"bincode evidence sign payload: {message}"

def artifactsDigest (artifacts : List Digest) : Digest :=
  crates.blake3 (artifacts.flatMap fun artifact => artifact.val)

/-- The payload that both functions encode. -/
def evidencePayload (tenantId : SizedText) (intentId : Uuid) (payeeDid : SizedText)
    (payload : JsonDoc) (artifacts : List Digest) (submittedAt : DateTime) :
    EvidenceSignV1 DateTime where
  version := evidenceSignVersion
  tenantId := tenantId
  intentId := intentId
  payeeDid := payeeDid
  payloadDigest := jsonValueDigest crates.toCrates payload.val
  artifactsDigest := artifactsDigest crates artifacts
  submittedAt := submittedAt

/-- `text.strip_prefix("0x")`. -/
def strip0x (text : String) : Option String :=
  match text.toList with
  | '0' :: 'x' :: digits => some (String.ofList digits)
  | _ => none

/-- Read the digests in order, with their positions. -/
def readDigests {ε : Type} (read : ℕ → String → Except ε Digest) :
    ℕ → List String → Except ε (List Digest)
  | _, [] => .ok []
  | index, text :: texts => do
      let digest ← read index text
      return digest :: (← readDigests read (index + 1) texts)

/-! ## Signing -/

def payeeDigits (hex : String) : String :=
  let text := trim hex
  (strip0x text).getD text

def parseHex32 (name : String) (index : ℕ) (hex : String) : Except PayeeEvidenceError Digest :=
  match crates.hexDecode (payeeDigits hex) with
  | .error message => .error (.badArtifact index s!"{name}: bad hex ({message})")
  | .ok bytes =>
      if hlength : bytes.length = 32 then .ok ⟨bytes, hlength⟩
      else .error (.badArtifact index s!"{name}: expected 32 bytes, got {bytes.length}")

def signPayeeEvidenceRequest (tenantId : SizedText) (intentId : Uuid) (payeeDid : SizedText)
    (payload : JsonDoc) (artifactsBlake3Hex : List String) (submittedAt : DateTime)
    (signingKey : Seed) : Except PayeeEvidenceError PayeeEvidenceRequest := do
  let parsed ← readDigests (parseHex32 crates "artifact") 0 artifactsBlake3Hex
  let submittedAtStr ← (crates.rfc3339 submittedAt).mapError .submittedAt
  let message ← (encodeEvidenceSignV1 crates
    (evidencePayload crates tenantId intentId payeeDid payload parsed submittedAt)).mapError .encode
  return { payload := payload.val
           artifacts := parsed.map fun digest => encodeHex digest.val
           payeeDid
           payeePubkey := crates.encodeBase64 (crates.verifyingKey signingKey).val
           payeeSignature := crates.encodeBase64 (crates.sign signingKey message)
           submittedAt := submittedAtStr }

/-! ## Predicting -/

/-- What is not trimmed when there is no prefix. -/
def wireDigits (hex : String) : String := (strip0x (trim hex)).getD hex

def readWireDigest (index : ℕ) (hex : String) : Except String Digest :=
  match crates.hexDecode (wireDigits hex) with
  | .error message => .error s!"artifacts_hex[{index}]: bad hex ({message})"
  | .ok bytes =>
      if hlength : bytes.length = 32 then .ok ⟨bytes, hlength⟩
      else .error s!"artifacts_hex[{index}]: expected 32 bytes, got {bytes.length}"

def encodeEvidenceSignV1Hex (input : EvidenceInput) : Except String String := do
  let intentId ← (crates.parseUuid input.intentId).mapError fun message => s!"intent_id: {message}"
  let parsed ← readDigests (readWireDigest crates) 0 input.artifactsHex
  let submittedAt ← (crates.parseRfc3339 input.submittedAtRfc3339).mapError
    fun message => s!"submitted_at_rfc3339: {message}"
  let message ← encodeEvidenceSignV1 crates
    (evidencePayload crates input.tenantId intentId input.payeeDid input.payload parsed submittedAt)
  return encodeHex message

end Encode

/-! ## Digests -/

section Digests

variable {DateTime : Type} {crates : IntentCrates DateTime}

def isHexDigit (c : Char) : Bool := (Receipt.hexDigit c).isSome

/-- Only digits are decoded. -/
def DecodesDigits (crates : IntentCrates DateTime) : Prop :=
  ∀ text bytes, crates.hexDecode text = .ok bytes → ∀ c ∈ text.toList, isHexDigit c = true

/-- There is no space around the digest, or it has its prefix. -/
def Spelled (hex : String) : Prop := trim hex = hex ∨ (strip0x (trim hex)).isSome = true

/-- The digits are those of the digest. -/
def Decodes (crates : IntentCrates DateTime) (text : String) (digest : Digest) : Prop :=
  crates.hexDecode text = .ok digest.val

theorem isWhitespace_of_isHexDigit {c : Char} (hc : isHexDigit c = true) :
    isWhitespace c = false := by
  have hrange : (48 ≤ c.toNat ∧ c.toNat ≤ 57) ∨ (97 ≤ c.toNat ∧ c.toNat ≤ 102) ∨
      (65 ≤ c.toNat ∧ c.toNat ≤ 70) := by
    unfold isHexDigit Receipt.hexDigit at hc
    by_cases hdigit : '0' ≤ c ∧ c ≤ '9'
    · exact .inl hdigit
    · by_cases hlower : 'a' ≤ c ∧ c ≤ 'f'
      · exact .inr (.inl hlower)
      · by_cases hupper : 'A' ≤ c ∧ c ≤ 'F'
        · exact .inr (.inr hupper)
        · simp [hdigit, hlower, hupper] at hc
  simp only [isWhitespace, Bool.or_eq_false_iff, Bool.decide_or, decide_eq_false_iff_not]
  omega

/-- What has no space stays as it is. -/
theorem trim_eq_self {text : String} (hspace : ∀ c ∈ text.toList, isWhitespace c = false) :
    trim text = text := by
  have hkept : ∀ chars : List Char, (∀ c ∈ chars, isWhitespace c = false) →
      chars.dropWhile isWhitespace = chars := by
    intro chars hchars
    cases chars with
    | nil => rfl
    | cons c chars => simp [hchars c List.mem_cons_self]
  rw [trim, hkept _ hspace, hkept _ (fun c hc => hspace c (List.mem_reverse.mp hc)),
    List.reverse_reverse, String.ofList_toList]

/-- Both functions read the same digits of a digest, or the helper reads none. -/
theorem decodes_wireDigits_iff (hdigits : DecodesDigits crates) {hex : String} {digest : Digest} :
    Decodes crates (wireDigits hex) digest ↔
      Spelled hex ∧ Decodes crates (payeeDigits hex) digest := by
  cases hprefix : strip0x (trim hex) with
  | some digits => simp [wireDigits, payeeDigits, Spelled, hprefix]
  | none =>
      have hwire : wireDigits hex = hex := by simp [wireDigits, hprefix]
      have hpayee : payeeDigits hex = trim hex := by simp [payeeDigits, hprefix]
      rw [hwire, hpayee]
      constructor
      · intro hdecodes
        have htrim : trim hex = hex := trim_eq_self fun c hc =>
          isWhitespace_of_isHexDigit (hdigits _ _ hdecodes c hc)
        exact ⟨.inl htrim, by rwa [htrim]⟩
      · rintro ⟨hspelled, hdecodes⟩
        have htrim : trim hex = hex := by simpa [Spelled, hprefix] using hspelled
        rwa [htrim] at hdecodes

theorem readWireDigest_eq_ok_iff {index : ℕ} {hex : String} {digest : Digest} :
    readWireDigest crates index hex = .ok digest ↔ Decodes crates (wireDigits hex) digest := by
  unfold readWireDigest Decodes
  cases hdecoded : crates.hexDecode (wireDigits hex) with
  | error message => simp
  | ok bytes =>
      by_cases hlength : bytes.length = 32
      · simp [hlength, Subtype.ext_iff]
      · simp only [hlength, dif_neg, not_false_eq_true, reduceCtorEq, Except.ok.injEq, false_iff]
        intro hsame
        exact hlength (hsame ▸ digest.property)

theorem parseHex32_eq_ok_iff {name : String} {index : ℕ} {hex : String} {digest : Digest} :
    parseHex32 crates name index hex = .ok digest ↔ Decodes crates (payeeDigits hex) digest := by
  unfold parseHex32 Decodes
  cases hdecoded : crates.hexDecode (payeeDigits hex) with
  | error message => simp
  | ok bytes =>
      by_cases hlength : bytes.length = 32
      · simp [hlength, Subtype.ext_iff]
      · simp only [hlength, dif_neg, not_false_eq_true, reduceCtorEq, Except.ok.injEq, false_iff]
        intro hsame
        exact hlength (hsame ▸ digest.property)

/-- The loop reads every digest, whatever its position. -/
theorem readDigests_eq_ok_iff {ε : Type} {read : ℕ → String → Except ε Digest}
    {reads : String → Digest → Prop}
    (hread : ∀ index text digest, read index text = .ok digest ↔ reads text digest)
    {index : ℕ} {texts : List String} {digests : List Digest} :
    readDigests read index texts = .ok digests ↔ List.Forall₂ reads texts digests := by
  induction texts generalizing index digests with
  | nil => simp [readDigests, eq_comm]
  | cons text texts ih =>
      simp only [readDigests, except_bind_eq_ok, except_pure_eq_ok, hread, ih,
        List.forall₂_cons_left_iff]
      constructor
      · rintro ⟨digest, hdigest, rest, hrest, rfl⟩
        exact ⟨digest, rest, hdigest, hrest, rfl⟩
      · rintro ⟨digest, rest, hdigest, hrest, rfl⟩
        exact ⟨digest, hdigest, rest, hrest, rfl⟩

theorem readWireDigests_eq_ok_iff {texts : List String} {digests : List Digest} :
    readDigests (readWireDigest crates) 0 texts = .ok digests ↔
      List.Forall₂ (fun hex => Decodes crates (wireDigits hex)) texts digests :=
  @readDigests_eq_ok_iff _ (readWireDigest crates)
    (fun hex => Decodes crates (wireDigits hex)) (fun _ _ _ => readWireDigest_eq_ok_iff) 0 _ _

theorem parseDigests_eq_ok_iff {texts : List String} {digests : List Digest} :
    readDigests (parseHex32 crates "artifact") 0 texts = .ok digests ↔
      List.Forall₂ (fun hex => Decodes crates (payeeDigits hex)) texts digests :=
  @readDigests_eq_ok_iff _ (parseHex32 crates "artifact")
    (fun hex => Decodes crates (payeeDigits hex)) (fun _ _ _ => parseHex32_eq_ok_iff) 0 _ _

end Digests

section Predicted

variable {DateTime : Type} (crates : IntentCrates DateTime) (input : EvidenceInput)

/-- The request that is signed for the parsed arguments. -/
def SignsParsed (key : Seed) (request : PayeeEvidenceRequest) : Prop :=
  ∃ intentId submittedAt, crates.parseUuid input.intentId = .ok intentId ∧
    crates.parseRfc3339 input.submittedAtRfc3339 = .ok submittedAt ∧
    signPayeeEvidenceRequest crates input.tenantId intentId input.payeeDid input.payload
      input.artifactsHex submittedAt key = .ok request

/-- The helper succeeds just when a request is signed, and gives the bytes that the signature
covers. -/
structure PredictsSigned : Prop where
  succeeds : ∀ key, (∃ hex, encodeEvidenceSignV1Hex crates input = .ok hex) ↔
    ∃ request, SignsParsed crates input key request
  signedBytes : ∀ key hex request, encodeEvidenceSignV1Hex crates input = .ok hex →
    SignsParsed crates input key request →
      ∃ message, hex = encodeHex message ∧
        request.payeeSignature = crates.encodeBase64 (crates.sign key message)

/-- The identifier and the time are parsed, the time can be printed, and the digests are 32 bytes
in hexadecimal digits. -/
structure Acceptable : Prop where
  intentId : ∃ intentId, crates.parseUuid input.intentId = .ok intentId
  submittedAt : ∃ submittedAt text, crates.parseRfc3339 input.submittedAtRfc3339 = .ok submittedAt ∧
    crates.rfc3339 submittedAt = .ok text
  artifacts : ∀ hex ∈ input.artifactsHex, ∃ digest, Decodes crates (payeeDigits hex) digest

variable {crates input}

theorem encodeEvidenceSignV1_eq_ok_iff {payload : EvidenceSignV1 DateTime} :
    (∃ message, encodeEvidenceSignV1 crates payload = .ok message) ↔
      ∃ text, crates.rfc3339 payload.submittedAt = .ok text := by
  unfold encodeEvidenceSignV1
  cases crates.rfc3339 payload.submittedAt with
  | ok text => simp
  | error message => simp

theorem encodeEvidenceSignV1Hex_eq_ok_iff {hex : String} :
    encodeEvidenceSignV1Hex crates input = .ok hex ↔
      ∃ intentId parsed submittedAt message, crates.parseUuid input.intentId = .ok intentId ∧
        List.Forall₂ (fun hex => Decodes crates (wireDigits hex)) input.artifactsHex parsed ∧
        crates.parseRfc3339 input.submittedAtRfc3339 = .ok submittedAt ∧
        encodeEvidenceSignV1 crates (evidencePayload crates input.tenantId intentId input.payeeDid
          input.payload parsed submittedAt) = .ok message ∧ hex = encodeHex message := by
  unfold encodeEvidenceSignV1Hex
  simp only [except_bind_eq_ok, mapError_eq_ok, except_pure_eq_ok, readWireDigests_eq_ok_iff]
  constructor
  · rintro ⟨intentId, hid, parsed, hparsed, submittedAt, htime, message, hmessage, rfl⟩
    exact ⟨intentId, parsed, submittedAt, message, hid, hparsed, htime, hmessage, rfl⟩
  · rintro ⟨intentId, parsed, submittedAt, message, hid, hparsed, htime, hmessage, rfl⟩
    exact ⟨intentId, hid, parsed, hparsed, submittedAt, htime, message, hmessage, rfl⟩

/-- What a request that is signed was read from, and what its signature covers. -/
theorem exists_of_signsParsed {key : Seed} {request : PayeeEvidenceRequest}
    (hsigns : SignsParsed crates input key request) :
    ∃ intentId parsed submittedAt message, crates.parseUuid input.intentId = .ok intentId ∧
      List.Forall₂ (fun hex => Decodes crates (payeeDigits hex)) input.artifactsHex parsed ∧
      crates.parseRfc3339 input.submittedAtRfc3339 = .ok submittedAt ∧
      encodeEvidenceSignV1 crates (evidencePayload crates input.tenantId intentId input.payeeDid
        input.payload parsed submittedAt) = .ok message ∧
      request.payeeSignature = crates.encodeBase64 (crates.sign key message) := by
  obtain ⟨intentId, submittedAt, hid, htime, hsigns⟩ := hsigns
  simp only [signPayeeEvidenceRequest, except_bind_eq_ok, mapError_eq_ok, except_pure_eq_ok,
    parseDigests_eq_ok_iff] at hsigns
  obtain ⟨parsed, hparsed, text, -, message, hmessage, rfl⟩ := hsigns
  exact ⟨intentId, parsed, submittedAt, message, hid, hparsed, htime, hmessage, rfl⟩

theorem exists_parsed_iff {reads : String → Digest → Prop} {texts : List String} :
    (∃ parsed, List.Forall₂ reads texts parsed) ↔ ∀ text ∈ texts, ∃ digest, reads text digest := by
  induction texts with
  | nil => simp
  | cons text texts ih =>
      simp only [List.forall₂_cons_left_iff, List.forall_mem_cons, ← ih]
      constructor
      · rintro ⟨_, digest, rest, hdigest, hrest, rfl⟩
        exact ⟨⟨digest, hdigest⟩, rest, hrest⟩
      · rintro ⟨⟨digest, hdigest⟩, rest, hrest⟩
        exact ⟨_, digest, rest, hdigest, hrest, rfl⟩

theorem exists_signsParsed_iff (key : Seed) :
    (∃ request, SignsParsed crates input key request) ↔ Acceptable crates input := by
  constructor
  · rintro ⟨request, hsigns⟩
    obtain ⟨intentId, parsed, submittedAt, message, hid, hparsed, htime, hmessage, -⟩ :=
      exists_of_signsParsed hsigns
    obtain ⟨text, htext⟩ := encodeEvidenceSignV1_eq_ok_iff.mp ⟨message, hmessage⟩
    exact ⟨⟨intentId, hid⟩, ⟨submittedAt, text, htime, htext⟩,
      exists_parsed_iff.mp ⟨parsed, hparsed⟩⟩
  · intro hacceptable
    obtain ⟨intentId, hid⟩ := hacceptable.intentId
    obtain ⟨submittedAt, text, htime, htext⟩ := hacceptable.submittedAt
    obtain ⟨parsed, hparsed⟩ := exists_parsed_iff.mpr hacceptable.artifacts
    obtain ⟨message, hmessage⟩ := (@encodeEvidenceSignV1_eq_ok_iff _ crates
      (evidencePayload crates input.tenantId intentId input.payeeDid input.payload parsed
        submittedAt)).mpr ⟨text, htext⟩
    have hsigned : ∃ request, signPayeeEvidenceRequest crates input.tenantId intentId
        input.payeeDid input.payload input.artifactsHex submittedAt key = .ok request := by
      simp only [signPayeeEvidenceRequest, except_bind_eq_ok, mapError_eq_ok, except_pure_eq_ok,
        parseDigests_eq_ok_iff]
      exact ⟨_, parsed, hparsed, text, htext, message, hmessage, rfl⟩
    obtain ⟨request, hrequest⟩ := hsigned
    exact ⟨request, intentId, submittedAt, hid, htime, hrequest⟩

/-- The helper succeeds just for acceptable arguments whose digests are spelled as it reads them. -/
theorem exists_hex_iff (hdigits : DecodesDigits crates) :
    (∃ hex, encodeEvidenceSignV1Hex crates input = .ok hex) ↔
      Acceptable crates input ∧ ∀ hex ∈ input.artifactsHex, Spelled hex := by
  simp only [encodeEvidenceSignV1Hex_eq_ok_iff]
  constructor
  · rintro ⟨_, intentId, parsed, submittedAt, message, hid, hparsed, htime, hmessage, -⟩
    obtain ⟨text, htext⟩ := encodeEvidenceSignV1_eq_ok_iff.mp ⟨message, hmessage⟩
    have hread := exists_parsed_iff.mp ⟨parsed, hparsed⟩
    simp only [decodes_wireDigits_iff hdigits] at hread
    refine ⟨⟨⟨intentId, hid⟩, ⟨submittedAt, text, htime, htext⟩, fun hex hhex => ?_⟩,
      fun hex hhex => ?_⟩
    · obtain ⟨digest, -, hdecodes⟩ := hread hex hhex
      exact ⟨digest, hdecodes⟩
    · obtain ⟨digest, hspelled, -⟩ := hread hex hhex
      exact hspelled
  · rintro ⟨hacceptable, hspelled⟩
    obtain ⟨intentId, hid⟩ := hacceptable.intentId
    obtain ⟨submittedAt, text, htime, htext⟩ := hacceptable.submittedAt
    have hread : ∀ hex ∈ input.artifactsHex, ∃ digest, Decodes crates (wireDigits hex) digest := by
      intro hex hhex
      obtain ⟨digest, hdecodes⟩ := hacceptable.artifacts hex hhex
      exact ⟨digest, (decodes_wireDigits_iff hdigits).mpr ⟨hspelled hex hhex, hdecodes⟩⟩
    obtain ⟨parsed, hparsed⟩ := exists_parsed_iff.mpr hread
    obtain ⟨message, hmessage⟩ := (@encodeEvidenceSignV1_eq_ok_iff _ crates
      (evidencePayload crates input.tenantId intentId input.payeeDid input.payload parsed
        submittedAt)).mpr ⟨text, htext⟩
    exact ⟨_, intentId, parsed, submittedAt, message, hid, hparsed, htime, hmessage, rfl⟩

/-- Whenever both succeed, the bytes are the same. -/
theorem signedBytes_of_ok (hdigits : DecodesDigits crates) {key : Seed} {hex : String}
    {request : PayeeEvidenceRequest} (hhex : encodeEvidenceSignV1Hex crates input = .ok hex)
    (hsigns : SignsParsed crates input key request) :
    ∃ message, hex = encodeHex message ∧
      request.payeeSignature = crates.encodeBase64 (crates.sign key message) := by
  obtain ⟨intentId, parsed, submittedAt, message, hid, hparsed, htime, hmessage, rfl⟩ :=
    encodeEvidenceSignV1Hex_eq_ok_iff.mp hhex
  obtain ⟨intentId', parsed', submittedAt', message', hid', hparsed', htime', hmessage',
    hsignature⟩ := exists_of_signsParsed hsigns
  have hsameId : intentId = intentId' := Except.ok.inj (hid.symm.trans hid')
  have hsameTime : submittedAt = submittedAt' := Except.ok.inj (htime.symm.trans htime')
  have hunique : Relator.RightUnique fun hex => Decodes crates (payeeDigits hex) := by
    intro text first second hfirst hsecond
    exact Subtype.ext (Except.ok.inj (hfirst.symm.trans hsecond))
  have hread := hparsed.imp fun hex digest hdecodes =>
    ((decodes_wireDigits_iff hdigits).mp hdecodes).2
  have hsameParsed : parsed = parsed' := hunique.forall₂ hread hparsed'
  rw [hsameId, hsameTime, hsameParsed, hmessage'] at hmessage
  exact ⟨message, rfl, by rw [hsignature, Except.ok.inj hmessage]⟩

/-- The helper predicts what is signed just if no digest of acceptable arguments has space around
it and no prefix. -/
theorem predictsSigned_iff (hdigits : DecodesDigits crates) :
    PredictsSigned crates input ↔
      (Acceptable crates input → ∀ hex ∈ input.artifactsHex, Spelled hex) := by
  constructor
  · intro hpredicts hacceptable
    have hkey : Seed := ⟨List.replicate 32 0, rfl⟩
    have hsigned := (exists_signsParsed_iff hkey).mpr hacceptable
    exact ((exists_hex_iff hdigits).mp ((hpredicts.succeeds hkey).mpr hsigned)).2
  · intro hspelled
    refine ⟨fun key => ?_, fun key hex request hhex hsigns => signedBytes_of_ok hdigits hhex hsigns⟩
    rw [exists_hex_iff hdigits, exists_signsParsed_iff]
    exact ⟨fun haccepted => haccepted.1, fun hacceptable => ⟨hacceptable, hspelled hacceptable⟩⟩

end Predicted

section Spellings

/-- Pairs of hexadecimal digits, and nothing else. -/
def decodeDigits (text : String) : Except String (List UInt8) :=
  if text.toList.all isHexDigit then
    match decodeHex text with
    | some bytes => .ok bytes
    | none => .error "Odd number of digits"
  else .error "Invalid character"

def cratesSpelled : IntentCrates SizedText := { cratesCreated with hexDecode := decodeDigits }

theorem decodesDigits_spelled : DecodesDigits cratesSpelled := by
  intro text bytes hdecoded
  by_cases hall : text.toList.all isHexDigit = true
  · exact List.all_eq_true.mp hall
  · have hfails : decodeDigits text = .error "Invalid character" := if_neg hall
    cases hfails.symm.trans hdecoded

def digestSpelled : Digest := ⟨List.replicate 32 0xab, rfl⟩

def digitsSpelled : String := encodeHex digestSpelled.val

def inputSpelled (digest : String) : EvidenceInput where
  tenantId := ⟨"tenant", sized_tenant⟩
  intentId := encodeHex uuidCreated.val
  payeeDid := ⟨"did:payee:1", sized_payee⟩
  payload := emptyObject
  artifactsHex := [digest]
  submittedAtRfc3339 := "2030-01-02T15:04:05Z"

theorem acceptable_spelled {digest : String} (hdigits : payeeDigits digest = digitsSpelled) :
    Acceptable cratesSpelled (inputSpelled digest) := by
  have hparse : cratesSpelled.parseUuid = cratesCreated.parseUuid := rfl
  have htext : (inputSpelled digest).intentId = cratesCreated.uuidText uuidCreated := rfl
  have hid : cratesSpelled.parseUuid (inputSpelled digest).intentId = .ok uuidCreated := by
    rw [hparse, htext, laws_created.parseUuid_text]
  refine ⟨⟨uuidCreated, hid⟩, ?_, ?_⟩
  · have hlength : (utf8Bytes "2030-01-02T15:04:05Z").length < 2 ^ 64 := by decide +kernel
    exact ⟨⟨_, hlength⟩, ⟨_, hlength⟩, dif_pos hlength, rfl⟩
  · intro hex hhex
    have hsame : hex = digest := List.mem_singleton.mp hhex
    have hall : digitsSpelled.toList.all isHexDigit = true := by decide +kernel
    have hdecode : decodeHex digitsSpelled = some digestSpelled.val := decodeHex_encodeHex _
    have hread : decodeDigits digitsSpelled = .ok digestSpelled.val := by
      rw [decodeDigits, if_pos hall, hdecode]
    refine ⟨digestSpelled, ?_⟩
    rw [hsame, hdigits]
    exact hread

theorem predictsSigned_iff_prefixed :
    Acceptable cratesSpelled (inputSpelled (" 0x" ++ digitsSpelled)) ∧
      PredictsSigned cratesSpelled (inputSpelled (" 0x" ++ digitsSpelled)) := by
  refine ⟨acceptable_spelled (by decide +kernel), ?_⟩
  refine (predictsSigned_iff decodesDigits_spelled).mpr fun _ hex hhex => ?_
  rw [List.mem_singleton.mp hhex]
  exact .inr (by decide +kernel)

theorem not_predictsSigned_spaced :
    ¬∀ (crates : IntentCrates SizedText) (input : EvidenceInput), DecodesDigits crates →
      PredictsSigned crates input := by
  intro hall
  have hpredicts := hall cratesSpelled (inputSpelled (" " ++ digitsSpelled)) decodesDigits_spelled
  have hspelled := (predictsSigned_iff decodesDigits_spelled).mp hpredicts
    (acceptable_spelled (by decide +kernel)) (" " ++ digitsSpelled) (List.mem_singleton.mpr rfl)
  have hspaced : ¬(trim (" " ++ digitsSpelled) = " " ++ digitsSpelled ∨
      (strip0x (trim (" " ++ digitsSpelled))).isSome = true) := by
    decide +kernel
  exact hspaced hspelled

end Spellings

end PaybondKit.Native
