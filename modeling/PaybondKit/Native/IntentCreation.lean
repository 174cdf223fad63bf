import PaybondKit.Foundation.Bincode
import PaybondKit.Foundation.TypedData
import PaybondKit.Native.SerdeJson

/-!
# What a principal signs for an intent

Four versions of the signed payload share one byte space, and a completion contract is appended
to them without a tag. The bytes still say one thing: they determine the version, whether there
is a contract, and every field, the JSON values up to the order of keys and the tools as a set.
-/

namespace PaybondKit.Native

open Bincode

abbrev Digest := ByteArrayOf 32

abbrev Uuid := ByteArrayOf 16

/-! ## Texts -/

/-- `char::is_whitespace`. -/
def isWhitespace (c : Char) : Bool :=
  let n := c.toNat
  (0x9 ≤ n ∧ n ≤ 0xd) ∨ n = 0x20 ∨ n = 0x85 ∨ n = 0xa0 ∨ n = 0x1680 ∨ (0x2000 ≤ n ∧ n ≤ 0x200a) ∨
    n = 0x2028 ∨ n = 0x2029 ∨ n = 0x202f ∨ n = 0x205f ∨ n = 0x3000

/-- `text.trim()`. -/
def trim (text : String) : String :=
  String.ofList
    ((text.toList.dropWhile isWhitespace).reverse.dropWhile isWhitespace).reverse

def toAsciiLowercase (text : String) : String := String.ofList (text.toList.map Char.toLower)

/-- The texts that differ from the one before. -/
def dedupAfter (text : String) : List String → List String
  | [] => []
  | next :: rest => if text = next then dedupAfter text rest else next :: dedupAfter next rest

/-- `sorted.dedup()`: of equal neighbours the first is kept. -/
def dedup : List String → List String
  | [] => []
  | text :: rest => text :: dedupAfter text rest

def normalizeTool (tool : String) : String := toAsciiLowercase (trim tool)

/-! ## Payloads -/

/-- The parts of the payload that all versions have. -/
structure IntentCreationSignV4 (DateTime : Type) where
  version : UInt8
  tenantId : SizedText
  intentId : Uuid
  principalDid : SizedText
  payeeDid : SizedText
  amountCents : Int64
  currency : SizedText
  deadline : DateTime
  budgetDigest : Digest
  evidenceSchemaDigest : Digest
  predicateDslDigest : Digest
  predicateRef : SizedText
  allowedToolsDigest : Digest
  settlementRail : SizedText

structure IntentCreationSignV5 (DateTime : Type) extends IntentCreationSignV4 DateTime where
  policyTemplateId : SizedText
  policyVersionSeq : UInt32
  policyContentDigest : Digest

structure IntentCreationSignV6 (DateTime : Type) extends IntentCreationSignV4 DateTime where
  payeePubkey : Digest

structure IntentCreationSignV7 (DateTime : Type) extends IntentCreationSignV5 DateTime where
  payeePubkey : Digest

/-- What a version adds to the rail. -/
inductive IntentSigningCommitment where
  | v4 (settlementRail : SizedText)
  | v5 (settlementRail : SizedText) (policyTemplateId : SizedText) (policyVersionSeq : UInt32)
      (policyContentDigest : Digest)
  | v6 (settlementRail : SizedText) (payeePubkey : Digest)
  | v7 (settlementRail : SizedText) (policyTemplateId : SizedText) (policyVersionSeq : UInt32)
      (policyContentDigest payeePubkey : Digest)

structure CompletionContractSigningFields where
  completionPresetId : SizedText
  vendorContractProvider : SizedText
  vendorApiVersion : SizedText
  vendorSchemaDigest : Digest
  canonicalSchemaDigest : Digest

/-- The packages that are used. A deadline beyond the years of RFC 3339 has no text. -/
structure Crates (DateTime : Type) where
  serde : SerdeJson
  blake3 : List UInt8 → Digest
  rfc3339 : DateTime → Except String SizedText
  hexDecode : String → Except String (List UInt8)

section Encode

variable {DateTime : Type} (crates : Crates DateTime)

/-- An identifier is written as a byte string. -/
def encodeUuid (id : Uuid) : List UInt8 :=
  encodeBytes ⟨id.val, by rw [id.property]; decide⟩

/-- The fields of every version, with the text of the deadline. -/
def commonBytes (payload : IntentCreationSignV4 DateTime) (deadline : SizedText) : List UInt8 :=
  encodeU8 payload.version ++ (encodeStr payload.tenantId ++ (encodeUuid payload.intentId ++
    (encodeStr payload.principalDid ++ (encodeStr payload.payeeDid ++
      (encodeI64 payload.amountCents ++ (encodeStr payload.currency ++ (encodeStr deadline ++
        (encodeArray payload.budgetDigest ++ (encodeArray payload.evidenceSchemaDigest ++
          (encodeArray payload.predicateDslDigest ++ (encodeStr payload.predicateRef ++
            (encodeArray payload.allowedToolsDigest ++
              encodeStr payload.settlementRail))))))))))))

/-- `encode_wire` of a payload, with the fields that its version adds. -/
def encodeSign (payload : IntentCreationSignV4 DateTime) (added : List UInt8) :
    Except String (List UInt8) :=
  match crates.rfc3339 payload.deadline with
  | .ok deadline => .ok (commonBytes payload deadline ++ added)
  | .error message => .error s!"bincode intent sign v{payload.version} payload: {message}"

def policyBytes (policyTemplateId : SizedText) (policyVersionSeq : UInt32)
    (policyContentDigest : Digest) : List UInt8 :=
  encodeStr policyTemplateId ++ (encodeU32 policyVersionSeq ++ encodeArray policyContentDigest)

def encodeIntentCreationSignV4 (payload : IntentCreationSignV4 DateTime) :=
  encodeSign crates payload []

def encodeIntentCreationSignV5 (payload : IntentCreationSignV5 DateTime) :=
  encodeSign crates payload.toIntentCreationSignV4
    (policyBytes payload.policyTemplateId payload.policyVersionSeq payload.policyContentDigest)

def encodeIntentCreationSignV6 (payload : IntentCreationSignV6 DateTime) :=
  encodeSign crates payload.toIntentCreationSignV4 (encodeArray payload.payeePubkey)

def encodeIntentCreationSignV7 (payload : IntentCreationSignV7 DateTime) :=
  encodeSign crates payload.toIntentCreationSignV4
    (policyBytes payload.policyTemplateId payload.policyVersionSeq payload.policyContentDigest ++
      encodeArray payload.payeePubkey)

def jsonValueDigest (value : Value) : Digest :=
  crates.blake3 (utf8Bytes (digestText crates.serde value))

def dslDigest : Option Value → Digest
  | none => ⟨List.replicate 32 0, rfl⟩
  | some value => jsonValueDigest crates value

def allowedToolsValue (tools : List String) : Value :=
  .list ((dedup (sortKeys (tools.map normalizeTool))).map .str)

def allowedToolsDigest (tools : List String) : Digest :=
  jsonValueDigest crates (allowedToolsValue tools)

def encodeCompletionContractSignV1 (fields : CompletionContractSigningFields) : List UInt8 :=
  encodeU8 2 ++ (encodeStr fields.completionPresetId ++ (encodeStr fields.vendorContractProvider ++
    (encodeStr fields.vendorApiVersion ++ (encodeArray fields.vendorSchemaDigest ++
      encodeArray fields.canonicalSchemaDigest))))

/-- The arguments that both signing functions take. -/
@[ext] structure IntentArgs (DateTime : Type) where
  tenantId : SizedText
  intentId : Uuid
  principalDid : SizedText
  payeeDid : SizedText
  payeePubkey : Option Digest
  amountCents : Int64
  currency : SizedText
  deadline : DateTime
  budget : JsonDoc
  evidenceSchema : JsonDoc
  predicate : JsonDoc
  predicateRef : SizedText
  allowedTools : List String
  settlementRail : SizedText
  completionContract : Option CompletionContractSigningFields

/-- The payload of a version. -/
def payloadOf (args : IntentArgs DateTime) (version : UInt8) (settlementRail : SizedText) :
    IntentCreationSignV4 DateTime where
  version := version
  tenantId := args.tenantId
  intentId := args.intentId
  principalDid := args.principalDid
  payeeDid := args.payeeDid
  amountCents := args.amountCents
  currency := args.currency
  deadline := args.deadline
  budgetDigest := jsonValueDigest crates args.budget.val
  evidenceSchemaDigest := jsonValueDigest crates args.evidenceSchema.val
  predicateDslDigest := dslDigest crates (some args.predicate.val)
  predicateRef := args.predicateRef
  allowedToolsDigest := allowedToolsDigest crates args.allowedTools
  settlementRail := settlementRail

def intentCreationCanonicalBytes (args : IntentArgs DateTime) :
    IntentSigningCommitment → Except String (List UInt8)
  | .v4 settlementRail => encodeIntentCreationSignV4 crates (payloadOf crates args 4 settlementRail)
  | .v5 settlementRail policyTemplateId policyVersionSeq policyContentDigest =>
      encodeIntentCreationSignV5 crates
        { payloadOf crates args 5 settlementRail with
          policyTemplateId, policyVersionSeq, policyContentDigest }
  | .v6 settlementRail payeePubkey =>
      encodeIntentCreationSignV6 crates
        { payloadOf crates args 6 settlementRail with payeePubkey }
  | .v7 settlementRail policyTemplateId policyVersionSeq policyContentDigest payeePubkey =>
      encodeIntentCreationSignV7 crates
        { payloadOf crates args 7 settlementRail with
          policyTemplateId, policyVersionSeq, policyContentDigest, payeePubkey }

def appendCompletionContractSignExtension (base : List UInt8) :
    Option CompletionContractSigningFields → List UInt8
  | some fields => base ++ encodeCompletionContractSignV1 fields
  | none => base

def intentCreationSignBytesRaw (args : IntentArgs DateTime) : Except String (List UInt8) := do
  let commitment : IntentSigningCommitment :=
    match args.payeePubkey with
    | some payeePubkey => .v6 args.settlementRail payeePubkey
    | none => .v4 args.settlementRail
  let base ← intentCreationCanonicalBytes crates args commitment
  return appendCompletionContractSignExtension base args.completionContract

@[ext] structure PolicyBinding where
  policyTemplateId : SizedText
  policyVersionSeq : UInt32
  policyContentDigestHex : String

def decodePolicyContentDigest (policyContentDigestHex : String) : Except String Digest :=
  match crates.hexDecode (trim policyContentDigestHex) with
  | .error message => .error s!"policy_content_digest_hex: {message}"
  | .ok digest =>
      if hlength : digest.length = 32 then .ok ⟨digest, hlength⟩
      else .error "policy_content_digest_hex must decode to 32 bytes"

def intentCreationSignBytesWithPolicyBinding (args : IntentArgs DateTime)
    (binding : PolicyBinding) : Except String (List UInt8) := do
  let digest ← decodePolicyContentDigest crates binding.policyContentDigestHex
  let commitment : IntentSigningCommitment :=
    match args.payeePubkey with
    | some payeePubkey =>
        .v7 args.settlementRail binding.policyTemplateId binding.policyVersionSeq digest payeePubkey
    | none => .v5 args.settlementRail binding.policyTemplateId binding.policyVersionSeq digest
  let base ← intentCreationCanonicalBytes crates args commitment
  return appendCompletionContractSignExtension base args.completionContract

end Encode

/-! ## Calls -/

/-- A call of one of the two signing functions. -/
inductive SignCall (DateTime : Type) where
  | raw (args : IntentArgs DateTime)
  | withPolicyBinding (args : IntentArgs DateTime) (binding : PolicyBinding)

namespace SignCall

variable {DateTime : Type}

def args : SignCall DateTime → IntentArgs DateTime
  | .raw args => args
  | .withPolicyBinding args _ => args

def signBytes (crates : Crates DateTime) : SignCall DateTime → Except String (List UInt8)
  | .raw args => intentCreationSignBytesRaw crates args
  | .withPolicyBinding args binding => intentCreationSignBytesWithPolicyBinding crates args binding

/-- The template, its version and its digest, when there is a policy. -/
def policy (crates : Crates DateTime) :
    SignCall DateTime → Except String (Option (SizedText × UInt32 × Digest))
  | .raw _ => .ok none
  | .withPolicyBinding _ binding =>
      match decodePolicyContentDigest crates binding.policyContentDigestHex with
      | .ok digest => .ok (some (binding.policyTemplateId, binding.policyVersionSeq, digest))
      | .error message => .error message

/-- The version that is signed. -/
def version : SignCall DateTime → UInt8
  | .raw args => if args.payeePubkey.isSome then 6 else 4
  | .withPolicyBinding args _ => if args.payeePubkey.isSome then 7 else 5

end SignCall

section Calls

variable {DateTime : Type} {crates : Crates DateTime}

/-- The fields that a policy and a payee key add. -/
def addedBytes : Option (SizedText × UInt32 × Digest) → Option Digest → List UInt8
  | none, none => []
  | none, some payeePubkey => encodeArray payeePubkey
  | some (templateId, versionSeq, digest), none => policyBytes templateId versionSeq digest
  | some (templateId, versionSeq, digest), some payeePubkey =>
      policyBytes templateId versionSeq digest ++ encodeArray payeePubkey

def contractBytes : Option CompletionContractSigningFields → List UInt8
  | none => []
  | some fields => encodeCompletionContractSignV1 fields

theorem encodeSign_eq_ok {payload : IntentCreationSignV4 DateTime} {added bytes : List UInt8} :
    encodeSign crates payload added = .ok bytes ↔ ∃ deadline,
      crates.rfc3339 payload.deadline = .ok deadline ∧
        bytes = commonBytes payload deadline ++ added := by
  unfold encodeSign
  cases hdeadline : crates.rfc3339 payload.deadline with
  | ok deadline => simp [eq_comm]
  | error message => simp

/-- The contract is appended to what was encoded. -/
theorem appended_eq_ok {args : IntentArgs DateTime} {commitment : IntentSigningCommitment}
    {payload : IntentCreationSignV4 DateTime} {added bytes : List UInt8}
    (hencode : intentCreationCanonicalBytes crates args commitment =
      encodeSign crates payload added) :
    (do
      let base ← intentCreationCanonicalBytes crates args commitment
      return appendCompletionContractSignExtension base args.completionContract) = .ok bytes ↔
      ∃ deadline, crates.rfc3339 payload.deadline = .ok deadline ∧
        bytes = commonBytes payload deadline ++
          (added ++ contractBytes args.completionContract) := by
  have hcontract : ∀ base : List UInt8,
      appendCompletionContractSignExtension base args.completionContract =
        base ++ contractBytes args.completionContract := by
    intro base
    cases args.completionContract with
    | none => exact (List.append_nil base).symm
    | some fields => rfl
  rw [hencode, except_bind_eq_ok]
  constructor
  · rintro ⟨base, hbase, hbytes⟩
    obtain ⟨deadline, hdeadline, rfl⟩ := encodeSign_eq_ok.mp hbase
    refine ⟨deadline, hdeadline, ?_⟩
    rw [← Except.ok.inj hbytes, hcontract, List.append_assoc]
  · rintro ⟨deadline, hdeadline, rfl⟩
    refine ⟨_, encodeSign_eq_ok.mpr ⟨deadline, hdeadline, rfl⟩, ?_⟩
    rw [hcontract, List.append_assoc]
    rfl

/-- What a call returns. -/
theorem SignCall.signBytes_eq_ok {call : SignCall DateTime} {bytes : List UInt8} :
    call.signBytes crates = .ok bytes ↔ ∃ policy, call.policy crates = .ok policy ∧ ∃ deadline,
      crates.rfc3339 call.args.deadline = .ok deadline ∧
        bytes = commonBytes
          (payloadOf crates call.args call.version call.args.settlementRail) deadline ++
            (addedBytes policy call.args.payeePubkey ++
              contractBytes call.args.completionContract) := by
  cases call with
  | raw args =>
      have hpolicy : (SignCall.raw args).policy crates = .ok none := rfl
      simp only [signBytes, hpolicy, Except.ok.injEq, exists_eq_left', SignCall.args, version]
      unfold intentCreationSignBytesRaw
      cases hkey : args.payeePubkey with
      | none =>
          have hencode : intentCreationCanonicalBytes crates args (.v4 args.settlementRail) =
            encodeSign crates (payloadOf crates args 4 args.settlementRail) [] := rfl
          exact appended_eq_ok hencode
      | some payeePubkey =>
          have hencode : intentCreationCanonicalBytes crates args
              (.v6 args.settlementRail payeePubkey) =
            encodeSign crates (payloadOf crates args 6 args.settlementRail)
              (encodeArray payeePubkey) := rfl
          exact appended_eq_ok hencode
  | withPolicyBinding args binding =>
      simp only [signBytes, policy, intentCreationSignBytesWithPolicyBinding, SignCall.args, version]
      cases hdigest : decodePolicyContentDigest crates binding.policyContentDigestHex with
      | error message => simp [bind, Except.bind]
      | ok digest =>
          simp only [except_ok_bind, Except.ok.injEq, exists_eq_left']
          cases hkey : args.payeePubkey with
          | none =>
              have hencode : intentCreationCanonicalBytes crates args
                  (.v5 args.settlementRail binding.policyTemplateId binding.policyVersionSeq
                    digest) =
                encodeSign crates (payloadOf crates args 5 args.settlementRail)
                  (policyBytes binding.policyTemplateId binding.policyVersionSeq digest) := rfl
              exact appended_eq_ok hencode
          | some payeePubkey =>
              have hencode : intentCreationCanonicalBytes crates args
                  (.v7 args.settlementRail binding.policyTemplateId binding.policyVersionSeq digest
                    payeePubkey) =
                encodeSign crates (payloadOf crates args 7 args.settlementRail)
                  (policyBytes binding.policyTemplateId binding.policyVersionSeq digest ++
                    encodeArray payeePubkey) := rfl
              exact appended_eq_ok hencode

end Calls

/-! ## What the bytes determine -/

section Reading

variable {DateTime : Type} {crates : Crates DateTime}

theorem selfDelimiting_encodeUuid : SelfDelimiting encodeUuid := by
  intro x y rest rest' hbytes
  obtain ⟨hsame, hrest⟩ := selfDelimiting_encodeBytes _ _ _ _ hbytes
  exact ⟨Subtype.ext (Subtype.mk.inj hsame), hrest⟩

/-- The common fields are read one after the other. Of the deadline its text is read. -/
theorem reads_commonBytes :
    Reads (fun signed : IntentCreationSignV4 DateTime × SizedText =>
        commonBytes signed.1 signed.2)
      fun x y => { x.1 with deadline := y.1.deadline } = y.1 ∧ x.2 = y.2 := by
  have hfields :=
    (selfDelimiting_encodeU8.field
      fun signed : IntentCreationSignV4 DateTime × SizedText => signed.1.version).append
    ((selfDelimiting_encodeStr.field fun signed => signed.1.tenantId).append
    ((selfDelimiting_encodeUuid.field fun signed => signed.1.intentId).append
    ((selfDelimiting_encodeStr.field fun signed => signed.1.principalDid).append
    ((selfDelimiting_encodeStr.field fun signed => signed.1.payeeDid).append
    ((selfDelimiting_encodeI64.field fun signed => signed.1.amountCents).append
    ((selfDelimiting_encodeStr.field fun signed => signed.1.currency).append
    ((selfDelimiting_encodeStr.field fun signed => signed.2).append
    (((selfDelimiting_encodeArray 32).field fun signed => signed.1.budgetDigest).append
    (((selfDelimiting_encodeArray 32).field fun signed => signed.1.evidenceSchemaDigest).append
    (((selfDelimiting_encodeArray 32).field fun signed => signed.1.predicateDslDigest).append
    ((selfDelimiting_encodeStr.field fun signed => signed.1.predicateRef).append
    (((selfDelimiting_encodeArray 32).field fun signed => signed.1.allowedToolsDigest).append
      (selfDelimiting_encodeStr.field fun signed => signed.1.settlementRail)))))))))))))
  refine hfields.mono ?_
  rintro ⟨x, text⟩ ⟨y, text'⟩ ⟨hversion, htenant, hid, hprincipal, hpayee, hamount, hcurrency,
    htext, hbudget, hschema, hpredicate, href, htools, hrail⟩
  refine ⟨?_, htext⟩
  cases x
  cases y
  simp_all

theorem reads_policyBytes : SelfDelimiting
    fun policy : SizedText × UInt32 × Digest => policyBytes policy.1 policy.2.1 policy.2.2 := by
  have hfields :=
    (selfDelimiting_encodeStr.field fun policy : SizedText × UInt32 × Digest => policy.1).append
    ((selfDelimiting_encodeU32.field fun policy => policy.2.1).append
      ((selfDelimiting_encodeArray 32).field fun policy => policy.2.2))
  refine hfields.mono ?_
  rintro ⟨template, seq, digest⟩ ⟨template', seq', digest'⟩ ⟨htemplate, hseq, hdigest⟩
  simp_all

theorem selfDelimiting_encodeCompletionContractSignV1 :
    SelfDelimiting encodeCompletionContractSignV1 := by
  have hfields :=
    (selfDelimiting_encodeU8.field fun _ : CompletionContractSigningFields => 2).append
    ((selfDelimiting_encodeStr.field fun fields => fields.completionPresetId).append
    ((selfDelimiting_encodeStr.field fun fields => fields.vendorContractProvider).append
    ((selfDelimiting_encodeStr.field fun fields => fields.vendorApiVersion).append
    (((selfDelimiting_encodeArray 32).field fun fields => fields.vendorSchemaDigest).append
      ((selfDelimiting_encodeArray 32).field fun fields => fields.canonicalSchemaDigest)))))
  refine hfields.mono ?_
  rintro ⟨⟩ ⟨⟩ ⟨-, hpreset, hprovider, hversion, hvendor, hcanonical⟩
  simp_all

/-- A contract is never empty, so that nothing is appended only without one. -/
theorem contractBytes_injective : Function.Injective contractBytes := by
  rintro (_ | fields) (_ | fields') hsame
  · rfl
  · cases hsame
  · cases hsame
  · rw [selfDelimiting_encodeCompletionContractSignV1.injective hsame]

theorem addedBytes_inj {policy policy' : Option (SizedText × UInt32 × Digest)}
    {key key' : Option Digest} {rest rest' : List UInt8} (hpolicy : policy.isSome = policy'.isSome)
    (hkey : key.isSome = key'.isSome)
    (hbytes : addedBytes policy key ++ rest = addedBytes policy' key' ++ rest') :
    policy = policy' ∧ key = key' ∧ rest = rest' := by
  have hread : ∀ {key key' : Option Digest} {rest rest' : List UInt8},
      key.isSome = key'.isSome → addedBytes none key ++ rest = addedBytes none key' ++ rest' →
        key = key' ∧ rest = rest' := by
    intro key key' rest rest' hkey hbytes
    cases key with
    | none =>
        cases key' with
        | none => exact ⟨rfl, hbytes⟩
        | some _ => cases hkey
    | some digest =>
        cases key' with
        | none => cases hkey
        | some digest' =>
            obtain ⟨rfl, hrest⟩ := selfDelimiting_encodeArray 32 digest digest' _ _ hbytes
            exact ⟨rfl, hrest⟩
  have hsplit : ∀ (policy : SizedText × UInt32 × Digest) (key : Option Digest),
      addedBytes (some policy) key =
        policyBytes policy.1 policy.2.1 policy.2.2 ++ addedBytes none key := by
    rintro ⟨template, seq, digest⟩ (_ | key)
    · exact (List.append_nil _).symm
    · rfl
  cases policy with
  | none =>
      cases policy' with
      | none => exact ⟨rfl, hread hkey hbytes⟩
      | some _ => cases hpolicy
  | some policy =>
      cases policy' with
      | none => cases hpolicy
      | some policy' =>
          rw [hsplit, hsplit, List.append_assoc, List.append_assoc] at hbytes
          obtain ⟨rfl, hrest⟩ := reads_policyBytes policy policy' _ _ hbytes
          exact ⟨rfl, hread hkey hrest⟩

/-- Whether there is a policy. -/
def SignCall.isBound : SignCall DateTime → Bool
  | .raw _ => false
  | .withPolicyBinding _ _ => true

theorem SignCall.isSome_policy {call : SignCall DateTime}
    {policy : Option (SizedText × UInt32 × Digest)} (hpolicy : call.policy crates = .ok policy) :
    policy.isSome = call.isBound := by
  cases call with
  | raw args =>
      obtain rfl := Except.ok.inj hpolicy
      rfl
  | withPolicyBinding args binding =>
      simp only [SignCall.policy] at hpolicy
      split at hpolicy
      next digest _ =>
        obtain rfl := Except.ok.inj hpolicy
        rfl
      next => cases hpolicy

/-- The version tells whether there are a policy and a payee key. -/
theorem SignCall.version_eq_iff {call other : SignCall DateTime} :
    call.version = other.version ↔ call.isBound = other.isBound ∧
      call.args.payeePubkey.isSome = other.args.payeePubkey.isSome := by
  cases call <;> cases other <;> simp only [version, isBound, SignCall.args] <;>
    split <;> split <;> simp_all

/-! ## Tools -/

theorem mem_dedupAfter {text tool : String} {rest : List String} :
    tool ∈ text :: dedupAfter text rest ↔ tool ∈ text :: rest := by
  induction rest generalizing text with
  | nil => rfl
  | cons next rest ih =>
      unfold dedupAfter
      split
      next hsame =>
        subst hsame
        rw [ih]
        simp
      next =>
        rw [List.mem_cons, ih, ← List.mem_cons]

theorem mem_dedup {tool : String} {tools : List String} : tool ∈ dedup tools ↔ tool ∈ tools := by
  cases tools with
  | nil => rfl
  | cons text rest => exact mem_dedupAfter

/-- Sorted texts are strictly sorted once equal neighbours are left out. -/
theorem dedupAfter_sorted {text : String} {rest : List String}
    (hsorted : (text :: rest).Pairwise (· ≤ ·)) :
    (text :: dedupAfter text rest).Pairwise fun first second => first ≤ second ∧ first ≠ second := by
  induction rest generalizing text with
  | nil => exact List.pairwise_singleton _ _
  | cons next rest ih =>
      obtain ⟨hfirst, hrest⟩ := List.pairwise_cons.mp hsorted
      unfold dedupAfter
      split
      next hsame =>
        subst hsame
        exact ih hrest
      next hne =>
        refine List.pairwise_cons.mpr ⟨?_, ih hrest⟩
        intro tool htool
        have hmem : tool ∈ next :: rest := mem_dedupAfter.mp htool
        refine ⟨hfirst tool hmem, ?_⟩
        rintro rfl
        -- the next text lies between two equal ones
        have hnext : next ≤ text := by
          rcases List.mem_cons.mp hmem with rfl | hlater
          · exact absurd rfl hne
          · exact (List.pairwise_cons.mp hrest).1 text hlater
        exact hne (String.le_antisymm (hfirst next List.mem_cons_self) hnext)

theorem dedup_sorted {tools : List String} (hsorted : tools.Pairwise (· ≤ ·)) :
    (dedup tools).Pairwise fun first second => first ≤ second ∧ first ≠ second := by
  cases tools with
  | nil => exact List.Pairwise.nil
  | cons text rest => exact dedupAfter_sorted hsorted

theorem sortKeys_sorted (keys : List String) : (sortKeys keys).Pairwise (· ≤ ·) := by
  have hle : (fun first second => decide (utf8Bytes first ≤ utf8Bytes second)) =
      fun first second : String => decide (first ≤ second) :=
    funext fun first => funext fun second => decide_utf8Bytes_le first second
  have htrans : ∀ a b c : String, decide (a ≤ b) = true → decide (b ≤ c) = true →
      decide (a ≤ c) = true := by
    intro a b c hab hbc
    exact decide_eq_true (String.le_trans (of_decide_eq_true hab) (of_decide_eq_true hbc))
  have htotal : ∀ a b : String, (decide (a ≤ b) || decide (b ≤ a)) = true := by
    intro a b
    rcases String.le_total a b with h | h <;> simp [h]
  rw [sortKeys, hle]
  exact (List.pairwise_mergeSort htrans htotal keys).imp of_decide_eq_true

/-- Tools are sorted and deduplicated alike exactly when they are the same set. -/
theorem dedup_sortKeys_eq_iff {tools others : List String} :
    dedup (sortKeys tools) = dedup (sortKeys others) ↔ ∀ tool, tool ∈ tools ↔ tool ∈ others := by
  have hmem : ∀ (tools : List String) tool, tool ∈ dedup (sortKeys tools) ↔ tool ∈ tools := by
    intro tools tool
    rw [mem_dedup, sortKeys, (List.mergeSort_perm tools _).mem_iff]
  constructor
  · intro hsame tool
    rw [← hmem tools, hsame, hmem]
  · intro hset
    have hsorted := dedup_sorted (sortKeys_sorted tools)
    have hsorted' := dedup_sorted (sortKeys_sorted others)
    have hperm : (dedup (sortKeys tools)).Perm (dedup (sortKeys others)) := by
      refine (List.perm_ext_iff_of_nodup (hsorted.imp And.right) (hsorted'.imp And.right)).mpr ?_
      intro tool
      rw [hmem, hmem, hset]
    exact hperm.eq_of_pairwise (fun _ _ _ _ hle hge => String.le_antisymm hle.1 hge.1) hsorted
      hsorted'

theorem distinct_allowedToolsValue (tools : List String) : (allowedToolsValue tools).Distinct := by
  rw [allowedToolsValue, PyValue.Distinct, PyValue.distinctItems_iff]
  intro item hitem
  obtain ⟨tool, -, rfl⟩ := List.mem_map.mp hitem
  trivial

theorem allowedToolsValue_sameValue_iff {tools others : List String} :
    (allowedToolsValue tools).SameValue (allowedToolsValue others) ↔
      ∀ tool, tool ∈ tools.map normalizeTool ↔ tool ∈ others.map normalizeTool := by
  have hcanonical : ∀ texts : List String,
      Policy.canonicalizeJson (.list (texts.map .str)) = .list (texts.map .str) := by
    intro texts
    rw [Policy.canonicalizeJson, Policy.canonicalizeItems_eq, List.map_map]
    rfl
  rw [← Policy.canonicalizeJson_eq_iff (distinct_allowedToolsValue tools)
    (distinct_allowedToolsValue others), allowedToolsValue, allowedToolsValue, hcanonical, hcanonical,
    PyValue.list.injEq, ← dedup_sortKeys_eq_iff]
  exact (List.map_injective_iff.mpr fun _ _ hsame => PyValue.str.inj hsame).eq_iff

/-! ## The same intent -/

/-- Two calls say the same. -/
structure SameIntent (crates : Crates DateTime) (call other : SignCall DateTime) : Prop where
  version : call.version = other.version
  policy : call.policy crates = other.policy crates
  payeePubkey : call.args.payeePubkey = other.args.payeePubkey
  completionContract : call.args.completionContract = other.args.completionContract
  tenantId : call.args.tenantId = other.args.tenantId
  intentId : call.args.intentId = other.args.intentId
  principalDid : call.args.principalDid = other.args.principalDid
  payeeDid : call.args.payeeDid = other.args.payeeDid
  amountCents : call.args.amountCents = other.args.amountCents
  currency : call.args.currency = other.args.currency
  deadline : call.args.deadline = other.args.deadline
  budget : call.args.budget.val.SameValue other.args.budget.val
  evidenceSchema : call.args.evidenceSchema.val.SameValue other.args.evidenceSchema.val
  predicate : call.args.predicate.val.SameValue other.args.predicate.val
  predicateRef : call.args.predicateRef = other.args.predicateRef
  allowedTools : ∀ tool, tool ∈ call.args.allowedTools.map normalizeTool ↔
    tool ∈ other.args.allowedTools.map normalizeTool
  settlementRail : call.args.settlementRail = other.args.settlementRail

/-- JSON texts and deadlines are written without loss. -/
structure Crates.Laws (crates : Crates DateTime) : Prop where
  prints : crates.serde.Prints
  floatTexts : FloatTexts crates.serde.floatText
  rfc3339_inj : ∀ deadline deadline' text, crates.rfc3339 deadline = .ok text →
    crates.rfc3339 deadline' = .ok text → deadline = deadline'

/-- The digests of two values are equal only for equal texts. -/
def DigestFree (crates : Crates DateTime) (value other : Value) : Prop :=
  jsonValueDigest crates value = jsonValueDigest crates other →
    utf8Bytes (digestText crates.serde value) = utf8Bytes (digestText crates.serde other)

/-- BLAKE3 does not collide on what is hashed for two calls. -/
structure CollisionFree (crates : Crates DateTime) (call other : SignCall DateTime) : Prop where
  budget : DigestFree crates call.args.budget.val other.args.budget.val
  evidenceSchema : DigestFree crates call.args.evidenceSchema.val other.args.evidenceSchema.val
  predicate : DigestFree crates call.args.predicate.val other.args.predicate.val
  allowedTools : DigestFree crates (allowedToolsValue call.args.allowedTools)
    (allowedToolsValue other.args.allowedTools)

theorem jsonValueDigest_eq_iff (hlaws : crates.Laws) {value other : Value}
    (hfree : DigestFree crates value other) (hvalue : value.Distinct) (hother : other.Distinct) :
    jsonValueDigest crates value = jsonValueDigest crates other ↔ value.SameValue other := by
  rw [← digestText_eq_iff hlaws.prints hlaws.floatTexts hvalue hother]
  constructor
  · intro hdigest
    exact utf8Bytes_injective (hfree hdigest)
  · intro htext
    rw [jsonValueDigest, htext, jsonValueDigest]

/-- Signed bytes say one thing: two calls give the same bytes exactly when they say the same. -/
theorem signBytes_eq_iff (hlaws : crates.Laws) {call other : SignCall DateTime}
    (hfree : CollisionFree crates call other) {bytes bytes' : List UInt8}
    (hbytes : call.signBytes crates = .ok bytes) (hbytes' : other.signBytes crates = .ok bytes') :
    bytes = bytes' ↔ SameIntent crates call other := by
  obtain ⟨policy, hpolicy, deadline, hdeadline, rfl⟩ := SignCall.signBytes_eq_ok.mp hbytes
  obtain ⟨policy', hpolicy', deadline', hdeadline', rfl⟩ := SignCall.signBytes_eq_ok.mp hbytes'
  constructor
  · intro hsame
    obtain ⟨⟨hpayload, htext⟩, hrest⟩ :=
      reads_commonBytes (_, deadline) (_, deadline') _ _ hsame
    simp only [IntentCreationSignV4.mk.injEq, dslDigest, allowedToolsDigest] at hpayload htext
    obtain ⟨hversion, htenant, hid, hprincipal, hpayee, hamount, hcurrency, -, hbudget, hschema,
      hpredicate, href, htools, hrail⟩ := hpayload
    subst htext
    -- the version was read first, and tells which fields are added
    obtain ⟨hbound, hkey⟩ := SignCall.version_eq_iff.mp hversion
    have hsome : policy.isSome = policy'.isSome := by
      rw [SignCall.isSome_policy hpolicy, hbound, ← SignCall.isSome_policy hpolicy']
    obtain ⟨rfl, hpubkey, hcontract⟩ := addedBytes_inj hsome hkey hrest
    exact {
      version := hversion
      policy := hpolicy.trans hpolicy'.symm
      payeePubkey := hpubkey
      completionContract := contractBytes_injective hcontract
      tenantId := htenant
      intentId := hid
      principalDid := hprincipal
      payeeDid := hpayee
      amountCents := hamount
      currency := hcurrency
      deadline := hlaws.rfc3339_inj _ _ _ hdeadline hdeadline'
      budget := (jsonValueDigest_eq_iff hlaws hfree.budget call.args.budget.property
        other.args.budget.property).mp hbudget
      evidenceSchema := (jsonValueDigest_eq_iff hlaws hfree.evidenceSchema
        call.args.evidenceSchema.property other.args.evidenceSchema.property).mp hschema
      predicate := (jsonValueDigest_eq_iff hlaws hfree.predicate call.args.predicate.property
        other.args.predicate.property).mp hpredicate
      predicateRef := href
      allowedTools := allowedToolsValue_sameValue_iff.mp
        ((jsonValueDigest_eq_iff hlaws hfree.allowedTools (distinct_allowedToolsValue _)
          (distinct_allowedToolsValue _)).mp htools)
      settlementRail := hrail }
  · intro hsame
    have hbudget := (jsonValueDigest_eq_iff hlaws hfree.budget call.args.budget.property
      other.args.budget.property).mpr hsame.budget
    have hschema := (jsonValueDigest_eq_iff hlaws hfree.evidenceSchema
      call.args.evidenceSchema.property other.args.evidenceSchema.property).mpr hsame.evidenceSchema
    have hpredicate := (jsonValueDigest_eq_iff hlaws hfree.predicate call.args.predicate.property
      other.args.predicate.property).mpr hsame.predicate
    have htools := (jsonValueDigest_eq_iff hlaws hfree.allowedTools (distinct_allowedToolsValue _)
      (distinct_allowedToolsValue _)).mpr (allowedToolsValue_sameValue_iff.mpr hsame.allowedTools)
    have hpayload : payloadOf crates call.args call.version call.args.settlementRail =
        payloadOf crates other.args other.version other.args.settlementRail := by
      simp only [payloadOf, dslDigest, allowedToolsDigest, hsame.version, hsame.tenantId,
        hsame.intentId, hsame.principalDid, hsame.payeeDid, hsame.amountCents, hsame.currency,
        hsame.deadline, hbudget, hschema, hpredicate, hsame.predicateRef, htools,
        hsame.settlementRail]
    rw [hsame.deadline, hdeadline'] at hdeadline
    rw [hsame.policy, hpolicy'] at hpolicy
    rw [hpayload, Except.ok.inj hdeadline, Except.ok.inj hpolicy, hsame.payeePubkey,
      hsame.completionContract]

end Reading

/-! ## Two calls that say the same -/

section Signed

/-- Packages for which a deadline is its text. -/
def cratesSigned : Crates SizedText where
  serde := serdeReading
  blake3 _ := ⟨List.replicate 32 0, rfl⟩
  rfc3339 deadline := .ok deadline
  hexDecode _ := .error "Odd number of digits"

theorem laws_signed : cratesSigned.Laws where
  prints := laws_reading.toPrints
  floatTexts := floatTexts_exact
  rfc3339_inj _ _ _ hdeadline hdeadline' :=
    (Except.ok.inj hdeadline).trans (Except.ok.inj hdeadline').symm

theorem sized_tenant : (utf8Bytes "tenant").length < 2 ^ 64 :=
  sized_ofList (by decide)

theorem sized_principal : (utf8Bytes "did:principal:1").length < 2 ^ 64 :=
  sized_ofList (by decide)

theorem sized_payee : (utf8Bytes "did:payee:1").length < 2 ^ 64 :=
  sized_ofList (by decide)

theorem sized_usd : (utf8Bytes "usd").length < 2 ^ 64 :=
  sized_ofList (by decide)

theorem sized_deadline : (utf8Bytes "2030-01-02T15:04:05Z").length < 2 ^ 64 :=
  sized_ofList (by decide)

theorem sized_empty : (utf8Bytes "").length < 2 ^ 64 :=
  sized_ofList (by decide)

theorem sized_stripeConnect : (utf8Bytes "stripe_connect").length < 2 ^ 64 :=
  sized_ofList (by decide)

def argsSigned (budget : JsonDoc) (allowedTools : List String) : IntentArgs SizedText where
  tenantId := ⟨"tenant", sized_tenant⟩
  intentId := ⟨List.replicate 16 7, rfl⟩
  principalDid := ⟨"did:principal:1", sized_principal⟩
  payeeDid := ⟨"did:payee:1", sized_payee⟩
  payeePubkey := none
  amountCents := 100
  currency := ⟨"usd", sized_usd⟩
  deadline := ⟨"2030-01-02T15:04:05Z", sized_deadline⟩
  budget := budget
  evidenceSchema := ⟨.dict [], List.nodup_nil, trivial⟩
  predicate := ⟨.dict [], List.nodup_nil, trivial⟩
  predicateRef := ⟨"", sized_empty⟩
  allowedTools := allowedTools
  settlementRail := ⟨"stripe_connect", sized_stripeConnect⟩
  completionContract := none

def callSigned : SignCall SizedText :=
  .raw (argsSigned ⟨.dict [("max", .int 100), ("a", .int 1)], by decide, trivial, trivial, trivial⟩
    ["Harbor.Describe"])

/-- Keys in another order, and a tool in another case and twice. -/
def callReordered : SignCall SizedText :=
  .raw (argsSigned ⟨.dict [("a", .int 1), ("max", .int 100)], by decide, trivial, trivial, trivial⟩
    [" harbor.describe", "HARBOR.DESCRIBE"])

theorem sameIntent_signed : SameIntent cratesSigned callSigned callReordered where
  version := rfl
  policy := rfl
  payeePubkey := rfl
  completionContract := rfl
  tenantId := rfl
  intentId := rfl
  principalDid := rfl
  payeeDid := rfl
  amountCents := rfl
  currency := rfl
  deadline := rfl
  budget := by
    refine PyValue.sameValue_dict.mpr ⟨.swap _ _ _, ?_⟩
    intro item hitem
    simp only [List.mem_cons, List.not_mem_nil, or_false] at hitem
    rcases hitem with rfl | rfl
    · exact ⟨.int 100, by simp, rfl⟩
    · exact ⟨.int 1, by simp, rfl⟩
  evidenceSchema := by
    refine PyValue.sameValue_dict.mpr ⟨.nil, ?_⟩
    rintro item ⟨⟩
  predicate := by
    refine PyValue.sameValue_dict.mpr ⟨.nil, ?_⟩
    rintro item ⟨⟩
  predicateRef := rfl
  allowedTools := by
    have htools : callSigned.args.allowedTools.map normalizeTool = ["harbor.describe"] := by
      decide +kernel
    have htools' : callReordered.args.allowedTools.map normalizeTool =
        ["harbor.describe", "harbor.describe"] := by
      decide +kernel
    rw [htools, htools']
    simp
  settlementRail := rfl

/-- They are signed as one. -/
theorem signBytes_eq_iff_signed : ∃ bytes, callSigned.signBytes cratesSigned = .ok bytes ∧
    callReordered.signBytes cratesSigned = .ok bytes := by
  have hbytes : ∀ args : IntentArgs SizedText,
      ∃ bytes, (SignCall.raw args).signBytes cratesSigned = .ok bytes :=
    fun args => ⟨_, SignCall.signBytes_eq_ok.mpr ⟨none, rfl, args.deadline, rfl, rfl⟩⟩
  obtain ⟨bytes, hok⟩ := hbytes callSigned.args
  obtain ⟨bytes', hok'⟩ := hbytes callReordered.args
  have hsame := sameIntent_signed
  have hfree : ∀ {value other : Value}, value.Distinct → other.Distinct → value.SameValue other →
      DigestFree cratesSigned value other := by
    intro value other hvalue hother hsame _
    rw [(digestText_eq_iff laws_signed.prints laws_signed.floatTexts hvalue hother).mpr hsame]
  have hcollision : CollisionFree cratesSigned callSigned callReordered :=
    { budget := hfree callSigned.args.budget.property callReordered.args.budget.property hsame.budget
      evidenceSchema := hfree callSigned.args.evidenceSchema.property
        callReordered.args.evidenceSchema.property hsame.evidenceSchema
      predicate := hfree callSigned.args.predicate.property callReordered.args.predicate.property
        hsame.predicate
      allowedTools := hfree (distinct_allowedToolsValue _) (distinct_allowedToolsValue _)
        (allowedToolsValue_sameValue_iff.mpr hsame.allowedTools) }
  obtain rfl := (signBytes_eq_iff laws_signed hcollision hok hok').mpr hsame
  exact ⟨bytes, hok, hok'⟩

end Signed

end PaybondKit.Native
