import PaybondKit.Foundation.PyJson
import PaybondKit.Receipt.Tokens

/-!
# Recognition proofs

A mutation of Harbor carries a signed proof with the digest of its body. The body is
printed twice: when the proof is signed, and by the HTTP library when the request is
sent. Which bytes the library prints depends on its version.
-/

namespace PaybondKit.Harbor

open Agent (PyExc)
open Receipt (normalizeScopeToken hex64Re)

/-- What signing takes from the platform: letter case, `!r`, the texts of floats and of
times, SHA-256 as hex, and Ed25519 over a digest. -/
structure Platform where
  lower : String → String
  upper : String → String
  repr : String → String
  floatText : PyFloat → JsonNumber
  formatRfc3339Seconds : Int → String
  sha256Hex : ByteArray → String
  publicKeyHex : ByteArray → String
  signHex : ByteArray → String → String

/-- `dict[str, Any]`. -/
abbrev JsonBody := OrderedDict String PyValue

/-- `bytes | Mapping[str, Any]`. -/
inductive RequestBody where
  | bytes (content : ByteArray)
  | mapping (body : JsonBody)

structure AgentRecognitionRequestEnvelope where
  method : String
  path : String
  bodyDigestSha256Hex : String
  deriving DecidableEq, Repr

structure AgentRecognitionProofV1 where
  keyId : String
  issuedAt : String
  expiresAt : String
  nonce : String
  purpose : String
  tenantId : String
  verifierId : String
  requestEnvelope : AgentRecognitionRequestEnvelope
  messageDigestSha256Hex : String
  signingPublicKeyEd25519Hex : String
  ed25519SignatureHex : String
  deriving DecidableEq, Repr

def agentRecognitionGatewayVerifierId : String := "paybond-gateway"
def agentRecognitionPurposeCreate : String := "harbor.intent.create"
def agentRecognitionPurposeFund : String := "harbor.intent.fund"
def agentRecognitionPurposeEvidenceSubmit : String := "harbor.intent.evidence.submit"
def agentRecognitionPurposeSettlementConfirm : String := "harbor.intent.settlement.confirm"

/-- Times are microseconds since the epoch. -/
def second : Int := 1000000

def agentRecognitionMaxFreshness : Int := 10 * 60 * second

/-- The keyword arguments of `sign_agent_recognition_proof_v1`. -/
structure ProofRequest where
  signingSeed : ByteArray
  keyId : String
  purpose : String
  tenantId : String
  method : String
  path : String
  body : RequestBody
  verifierId : String := agentRecognitionGatewayVerifierId
  issuedAt : Option Int := none
  expiresAt : Option Int := none
  nonce : Option String := none

section Signing

variable (platform : Platform)

def bodyJson (body : JsonBody) : Json := (PyValue.dict body.items).toJson platform.floatText

def requestBodyBytes : RequestBody → ByteArray
  | .bytes content => content
  | .mapping body => jsonDumpsBytes compactStyle (bodyJson platform body)

def newAgentRecognitionRequestEnvelope (method path : String) (body : RequestBody) :
    Except PyExc AgentRecognitionRequestEnvelope := do
  let normalizedMethod := platform.upper (pyStrip method)
  let normalizedPath := if pyStrip path = "" then "/" else pyStrip path
  raiseIf (normalizedMethod = "")
    (.valueError "agent recognition proof: request_envelope.method is required")
  raiseIf (normalizedPath.toList.head? ≠ some '/')
    (.valueError "agent recognition proof: request_envelope.path must begin with \"/\"")
  return { method := normalizedMethod
           path := normalizedPath
           bodyDigestSha256Hex := platform.sha256Hex (requestBodyBytes platform body) }

def scopeToken (value field : String) : Except PyExc String :=
  normalizeScopeToken platform.lower platform.repr "agent recognition proof" value field

/-- The payload that is signed. -/
def canonicalPayload (proof : AgentRecognitionProofV1) : Json :=
  .object
    [("schema_version", .number (.ofInt 1)),
      ("kind", .string "paybond.agent_recognition_proof_v1"),
      ("key_id", .string proof.keyId),
      ("signature_algorithm", .string "ed25519-sha256-json-v1"),
      ("issued_at", .string proof.issuedAt),
      ("expires_at", .string proof.expiresAt),
      ("nonce", .string proof.nonce),
      ("purpose", .string proof.purpose),
      ("verifier_context", .object
        [("tenant_id", .string proof.tenantId), ("verifier_id", .string proof.verifierId)]),
      ("request_envelope", .object
        [("method", .string proof.requestEnvelope.method),
          ("path", .string proof.requestEnvelope.path),
          ("body_digest_sha256_hex", .string proof.requestEnvelope.bodyDigestSha256Hex)])]

/-- The digest, the key and the signature, over the canonical payload. -/
def signPayload (signingSeed : ByteArray) (proof : AgentRecognitionProofV1) :
    AgentRecognitionProofV1 :=
  let digest := platform.sha256Hex (jsonDumpsBytes compactStyle (canonicalPayload proof))
  { proof with
    messageDigestSha256Hex := digest
    signingPublicKeyEd25519Hex := platform.publicKeyHex signingSeed
    ed25519SignatureHex := platform.signHex signingSeed digest }

def signAgentRecognitionProofV1 (now : Int) (uuid4 : String) (request : ProofRequest) :
    Except PyExc AgentRecognitionProofV1 := do
  raiseIf (request.signingSeed.size ≠ 32)
    (.valueError "agent recognition proof: signing key must be an ed25519 private key")
  let tenant := pyStrip request.tenantId
  raiseIf (tenant = "")
    (.valueError "agent recognition proof: verifier_context.tenant_id is required")
  let issued := request.issuedAt.getD (now - 60 * second)
  let expires := request.expiresAt.getD (issued + 4 * 60 * second)
  -- without the microseconds
  let issuedSeconds := issued - issued % second
  let expiresSeconds := expires - expires % second
  raiseIf (expiresSeconds ≤ issuedSeconds)
    (.valueError "agent recognition proof: expires_at must be after issued_at")
  raiseIf (agentRecognitionMaxFreshness < expiresSeconds - issuedSeconds)
    (.valueError "agent recognition proof: freshness window must not exceed 10m0s")
  let nonce := pyStrip ((truthyStr request.nonce).getD uuid4)
  raiseIf (nonce = "") (.valueError "agent recognition proof: nonce is required")
  raiseIf (256 < nonce.length)
    (.valueError "agent recognition proof: nonce must be 256 bytes or fewer")
  let requestEnvelope ←
    newAgentRecognitionRequestEnvelope platform request.method request.path request.body
  raiseIf (hex64Re requestEnvelope.bodyDigestSha256Hex = false) <| .valueError <|
    "agent recognition proof: request_envelope.body_digest_sha256_hex must be a " ++
      "lowercase 64-byte hex SHA-256 digest"
  let keyId ← scopeToken platform request.keyId "key_id"
  let purpose ← scopeToken platform request.purpose "purpose"
  let verifierId ← scopeToken platform request.verifierId "verifier_context.verifier_id"
  return signPayload platform request.signingSeed
    { keyId
      issuedAt := platform.formatRfc3339Seconds issuedSeconds
      expiresAt := platform.formatRfc3339Seconds expiresSeconds
      nonce, purpose, tenantId := tenant, verifierId, requestEnvelope
      messageDigestSha256Hex := ""
      signingPublicKeyEd25519Hex := ""
      ed25519SignatureHex := "" }

end Signing

/-! ## The mutations -/

/-- The mutations of Harbor, with the body that the caller has for them. -/
inductive HarborMutation where
  | createIntent (body : JsonBody)
  | fundIntent (intentId : String)
  | submitEvidence (intentId : String) (evidenceBody : JsonBody)
  | confirmSettlement (intentId : String) (body : Option JsonBody)

/-- The arguments that the four signers share. -/
structure Signer where
  tenantId : String
  keyId : String
  signingSeed : ByteArray

namespace HarborMutation

/-- What is signed for: `sign_harbor_create_recognition_proof` and its siblings. -/
def proofRequest (signer : Signer) : HarborMutation → ProofRequest
  | .createIntent body =>
      { signer with
        purpose := agentRecognitionPurposeCreate
        method := "POST", path := "/harbor/intents"
        body := .mapping body }
  | .fundIntent intentId =>
      { signer with
        purpose := agentRecognitionPurposeFund
        method := "POST", path := s!"/harbor/intents/{intentId}/fund"
        body := .mapping .empty }
  | .submitEvidence intentId evidenceBody =>
      { signer with
        purpose := agentRecognitionPurposeEvidenceSubmit
        method := "POST", path := s!"/harbor/intents/{intentId}/evidence"
        body := .mapping evidenceBody }
  | .confirmSettlement intentId body =>
      { signer with
        purpose := agentRecognitionPurposeSettlementConfirm
        method := "POST", path := s!"/harbor/intents/{intentId}/settlement/confirm"
        body := .mapping (body.getD .empty) }

/-- The path and the payload that the client posts. -/
def payload : HarborMutation → String × JsonBody
  | .createIntent body => ("harbor/intents", body)
  | .fundIntent intentId => (s!"harbor/intents/{intentId}/fund", .empty)
  | .submitEvidence intentId evidenceBody => (s!"harbor/intents/{intentId}/evidence", evidenceBody)
  | .confirmSettlement intentId body =>
      (s!"harbor/intents/{intentId}/settlement/confirm", body.getD .empty)

end HarborMutation

/-- The versions `0.minor` that the package admits. -/
structure HttpxVersion where
  minor : ℕ
  admitted : 27 ≤ minor

/-- How `post(json=...)` prints. -/
def HttpxVersion.style (version : HttpxVersion) : JsonStyle :=
  if version.minor < 28 then defaultStyle else compactStyle

/-- What `_post_json_with_retries` puts on the wire, at every attempt. -/
structure HarborRequest where
  path : String
  content : ByteArray
  recognitionProof : AgentRecognitionProofV1

section Requests

variable (platform : Platform) (version : HttpxVersion)

def postJson (mutation : HarborMutation) (recognitionProof : AgentRecognitionProofV1) :
    HarborRequest where
  path := mutation.payload.1
  content := jsonDumpsBytes version.style (bodyJson platform mutation.payload.2)
  recognitionProof := recognitionProof

/-- A mutation from the signature to the request. -/
def mutate (now : Int) (uuid4 : String) (signer : Signer) (mutation : HarborMutation) :
    Except PyExc HarborRequest := do
  let proof ← signAgentRecognitionProofV1 platform now uuid4 (mutation.proofRequest signer)
  return postJson platform version mutation proof

end Requests

/-! ## The signed digest -/

section Digest

variable {platform : Platform} {version : HttpxVersion} {mutation : HarborMutation}
variable {signer : Signer} {now : Int} {uuid4 : String}

theorem newAgentRecognitionRequestEnvelope_digest {method path : String} {body : RequestBody}
    {envelope : AgentRecognitionRequestEnvelope}
    (henvelope : newAgentRecognitionRequestEnvelope platform method path body = .ok envelope) :
    envelope.bodyDigestSha256Hex = platform.sha256Hex (requestBodyBytes platform body) := by
  simp only [newAgentRecognitionRequestEnvelope, except_bind_eq_ok, raiseIf_eq_ok, exists_const,
    except_pure_eq_ok] at henvelope
  obtain ⟨-, -, rfl⟩ := henvelope
  rfl

/-- A proof is for the digest of the body that was signed for. -/
theorem signAgentRecognitionProofV1_digest {request : ProofRequest}
    {proof : AgentRecognitionProofV1}
    (hproof : signAgentRecognitionProofV1 platform now uuid4 request = .ok proof) :
    proof.requestEnvelope.bodyDigestSha256Hex =
      platform.sha256Hex (requestBodyBytes platform request.body) := by
  simp only [signAgentRecognitionProofV1, except_bind_eq_ok, raiseIf_eq_ok, exists_const,
    except_pure_eq_ok] at hproof
  obtain ⟨-, -, -, -, -, -, envelope, henvelope, -, keyId, -, purpose, -, verifierId, -, rfl⟩ :=
    hproof
  exact newAgentRecognitionRequestEnvelope_digest henvelope

theorem proofRequest_body (signer : Signer) (mutation : HarborMutation) :
    (mutation.proofRequest signer).body = .mapping mutation.payload.2 := by
  cases mutation <;> rfl

/-- What is posted, and what its proof is for. -/
theorem mutate_eq_ok {request : HarborRequest}
    (hmutate : mutate platform version now uuid4 signer mutation = .ok request) :
    request.content = jsonDumpsBytes version.style (bodyJson platform mutation.payload.2) ∧
      request.recognitionProof.requestEnvelope.bodyDigestSha256Hex =
        platform.sha256Hex
          (jsonDumpsBytes compactStyle (bodyJson platform mutation.payload.2)) := by
  simp only [mutate, except_bind_eq_ok, except_pure_eq_ok] at hmutate
  obtain ⟨proof, hproof, rfl⟩ := hmutate
  have hdigest := signAgentRecognitionProofV1_digest hproof
  rw [proofRequest_body] at hdigest
  exact ⟨rfl, hdigest⟩

theorem bodyJson_eq (body : JsonBody) :
    bodyJson platform body =
      .object (PyValue.toJsonMembers platform.floatText body.items) := rfl

theorem toJsonMembers_eq_nil {floatText : PyFloat → JsonNumber} {items : List (String × PyValue)} :
    PyValue.toJsonMembers floatText items = [] ↔ items = [] := by
  cases items with
  | nil => simp [PyValue.toJsonMembers]
  | cons item items => simp [PyValue.toJsonMembers]

/-- The two printings of a body, one for the proof and one for the wire, are the same
bytes exactly when the library prints compactly or the body is empty. -/
theorem content_eq_iff (body : JsonBody) :
    jsonDumpsBytes compactStyle (bodyJson platform body) =
        jsonDumpsBytes version.style (bodyJson platform body) ↔
      28 ≤ version.minor ∨ body.items = [] := by
  unfold HttpxVersion.style
  split
  next hold =>
    rw [bodyJson_eq, jsonDumpsBytes_styles_iff, toJsonMembers_eq_nil]
    exact (or_iff_right (not_le.mpr hold)).symm
  next hnew => exact ⟨fun _ => .inl (not_lt.mp hnew), fun _ => rfl⟩

/-- The two printings of a body have one digest though they differ. -/
def Collides (platform : Platform) (body : JsonBody) : Prop :=
  jsonDumpsBytes compactStyle (bodyJson platform body) ≠
      jsonDumpsBytes defaultStyle (bodyJson platform body) ∧
    platform.sha256Hex (jsonDumpsBytes compactStyle (bodyJson platform body)) =
      platform.sha256Hex (jsonDumpsBytes defaultStyle (bodyJson platform body))

/-- The digest that a mutation's proof signs is the digest of the bytes that are sent
exactly when the library prints compactly or the body is empty. -/
theorem bodyDigest_iff (platform : Platform) (version : HttpxVersion) (now : Int)
    (uuid4 : String) (signer : Signer) (mutation : HarborMutation) {request : HarborRequest}
    (hmutate : mutate platform version now uuid4 signer mutation = .ok request)
    (hcollision : ¬Collides platform mutation.payload.2) :
    request.recognitionProof.requestEnvelope.bodyDigestSha256Hex =
        platform.sha256Hex request.content ↔
      28 ≤ version.minor ∨ mutation.payload.2.items = [] := by
  obtain ⟨hcontent, hdigest⟩ := mutate_eq_ok hmutate
  rw [hcontent, hdigest, ← @content_eq_iff platform version]
  constructor
  · intro hsame
    unfold HttpxVersion.style at hsame ⊢
    split at hsame
    next hold =>
      rw [if_pos hold]
      by_contra hdiffer
      exact hcollision ⟨hdiffer, hsame⟩
    next hnew => rw [if_neg hnew]
  · intro hsame
    rw [← hsame]

end Digest

/-! ## Evidence that the work is done -/

def evidenceDone : JsonBody := .ofList [("status", .str "done")]

def submitDone : HarborMutation := .submitEvidence "intent-1" evidenceDone

def signerZero : Signer where
  tenantId := "tenant-a"
  keyId := "kid-1"
  signingSeed := ⟨Array.replicate 32 0⟩

/-- One minute after the epoch, with the digests of the three texts that are hashed then. -/
def platformEpoch : Platform where
  lower text := text
  upper text := text
  repr text := s!"'{text}'"
  floatText _ := .ofInt 0
  formatRfc3339Seconds time :=
    if time = 0 then "1970-01-01T00:00:00Z" else "1970-01-01T00:04:00Z"
  sha256Hex bytes :=
    if bytes = "\x7b\"status\":\"done\"\x7d".toUTF8 then
      "e378058155516106ec27571a247c0a3985759e505d4ab2351d638a9ac6ce7c25"
    else if bytes = "\x7b\"status\": \"done\"\x7d".toUTF8 then
      "79177645c99c48c3852c42c6319bb522a84c2733a3a8ab173288a0f64ae145ec"
    else "08b27a255c82d430a0f55708abafa256af68a3915d352a192c37c2eb856c2aab"
  publicKeyHex _ := "3b6a27bcceb6a42d62a3a8d02a6f0d73653215771de243a63ac048a18b59da29"
  signHex _ _ :=
    "b02753bf9b21ffee96c43c437458d07a5c6bd4a2f323718ba13dda61ab4d0794" ++
      "e4f342785a96de88db5b94b21e5257e2b8423a40262cb2f9bfc3691e48a76e04"

theorem digests_evidenceDone :
    platformEpoch.sha256Hex (jsonDumpsBytes compactStyle (bodyJson platformEpoch evidenceDone)) ≠
      platformEpoch.sha256Hex
        (jsonDumpsBytes defaultStyle (bodyJson platformEpoch evidenceDone)) := by
  decide +kernel

/-- The proof for the evidence, with the request that the library makes of it. -/
theorem exists_mutate_done : ∃ proof, ∀ version,
    mutate platformEpoch version (60 * second) "nonce" signerZero submitDone =
      .ok (postJson platformEpoch version submitDone proof) := by
  have hsigned : (signAgentRecognitionProofV1 platformEpoch (60 * second) "nonce"
      (submitDone.proofRequest signerZero)).isOk = true := by
    decide +kernel
  cases hproof : signAgentRecognitionProofV1 platformEpoch (60 * second) "nonce"
      (submitDone.proofRequest signerZero) with
  | error failure => simp [hproof, Except.isOk, Except.toBool] at hsigned
  | ok proof =>
      refine ⟨proof, fun version => ?_⟩
      rw [mutate, hproof]
      rfl

theorem bodyDigest_iff_done : ∃ request,
    mutate platformEpoch ⟨28, by decide⟩ (60 * second) "nonce" signerZero submitDone =
        .ok request ∧
      (request.recognitionProof.requestEnvelope.bodyDigestSha256Hex =
          platformEpoch.sha256Hex request.content ↔
        28 ≤ 28 ∨ submitDone.payload.2.items = []) := by
  obtain ⟨proof, hmutate⟩ := exists_mutate_done
  exact ⟨_, hmutate ⟨28, by decide⟩,
    bodyDigest_iff platformEpoch ⟨28, by decide⟩ (60 * second) "nonce" signerZero submitDone
      (hmutate ⟨28, by decide⟩) fun hcollides => digests_evidenceDone hcollides.2⟩

/-- Under the oldest version that is admitted, the proof of the evidence is for other bytes
than those that are sent. -/
theorem bodyDigest_ne_done : ∃ request,
    mutate platformEpoch ⟨27, by decide⟩ (60 * second) "nonce" signerZero submitDone =
        .ok request ∧
      request.recognitionProof.requestEnvelope.bodyDigestSha256Hex ≠
        platformEpoch.sha256Hex request.content := by
  obtain ⟨proof, hmutate⟩ := exists_mutate_done
  refine ⟨_, hmutate ⟨27, by decide⟩, ?_⟩
  obtain ⟨hcontent, hdigest⟩ := mutate_eq_ok (hmutate ⟨27, by decide⟩)
  rw [hcontent, hdigest]
  exact digests_evidenceDone

end PaybondKit.Harbor
