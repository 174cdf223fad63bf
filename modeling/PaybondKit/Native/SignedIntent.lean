import PaybondKit.Agent.Types
import PaybondKit.Native.IntentCreation
import PaybondKit.Receipt.Hex

/-!
# The body of a created intent

The request carries a signature of the principal and the fields that it was made over. They are
read back from the body, up to what the body of a managed intent leaves to the published policy.
-/

namespace PaybondKit.Native

open Agent (PyExc)
open Bincode

abbrev Seed := ByteArrayOf 32

/-- The packages that are used for a request. -/
structure IntentCrates (DateTime : Type) extends Crates DateTime where
  parseUuid : String → Except String Uuid
  uuidText : Uuid → String
  parseRfc3339 : String → Except String DateTime
  fromStrTexts : String → Except String (List String)
  encodeBase64 : List UInt8 → String
  decodeBase64 : String → Option (List UInt8)
  verifyingKey : Seed → Digest
  sign : Seed → List UInt8 → List UInt8

/-- What is written is read back. -/
structure IntentCrates.Laws {DateTime : Type} (crates : IntentCrates DateTime) : Prop where
  prints : crates.serde.Prints
  parseUuid_text : ∀ id, crates.parseUuid (crates.uuidText id) = .ok id
  decodeBase64_encode : ∀ bytes, crates.decodeBase64 (crates.encodeBase64 bytes) = some bytes

/-! ## Requests -/

structure CreateIntentInput where
  tenantId : SizedText
  principalSeed : List UInt8
  payeeSeed : List UInt8
  intentId : String
  principalDid : SizedText
  payeeDid : SizedText
  budgetJson : String
  currency : SizedText
  amountCents : Int64
  evidenceSchemaJson : String
  deadlineRfc3339 : String
  predicateJson : String
  predicateRef : SizedText
  allowedToolsJson : String
  settlementRail : String

def settlementRails : List SizedText :=
  [⟨"stripe_connect", sized_stripeConnect⟩, ⟨"stripe_ach_debit", by decide +kernel⟩,
    ⟨"stripe_mpp", by decide +kernel⟩, ⟨"adyen_manual_capture", by decide +kernel⟩,
    ⟨"x402_usdc_base", by decide +kernel⟩]

/-- What was read of the input. -/
structure ReadInput (DateTime : Type) where
  principalSeed : Seed
  payeePubkey : Digest
  args : IntentArgs DateTime

section Build

variable {DateTime : Type} (crates : IntentCrates DateTime)

/-- `map_err` with the name of the argument. -/
def named {α : Type} (argument : String) (result : Except String α) : Except PyExc α :=
  result.mapError fun message => .valueError s!"{argument}: {message}"

def readSeed (argument : String) (bytes : List UInt8) : Except PyExc Seed :=
  if hlength : bytes.length = 32 then .ok ⟨bytes, hlength⟩
  else .error (.valueError s!"{argument} must be exactly 32 bytes (Ed25519 signing key seed)")

def readSettlementRail (text : String) : Except PyExc SizedText :=
  match settlementRails.find? fun rail => rail.val = trim text with
  | some rail => .ok rail
  | none =>
      .error <| .valueError <|
        "settlement_rail must be one of stripe_connect, stripe_ach_debit, stripe_mpp, " ++
          "adyen_manual_capture, x402_usdc_base"

/-- What both functions read, the predicate under the name of its argument. -/
def readInput (predicateArgument : String) (input : CreateIntentInput) :
    Except PyExc (ReadInput DateTime) := do
  let principalSeed ← readSeed "principal_seed" input.principalSeed
  let payeeSeed ← readSeed "payee_seed" input.payeeSeed
  let intentId ← named "intent_id" (crates.parseUuid (trim input.intentId))
  let budget ← named "budget_json" (crates.serde.fromStr input.budgetJson)
  let evidenceSchema ← named "evidence_schema_json" (crates.serde.fromStr input.evidenceSchemaJson)
  let predicate ← named predicateArgument (crates.serde.fromStr input.predicateJson)
  let allowedTools ← named "allowed_tools_json must be a JSON array of strings"
    (crates.fromStrTexts input.allowedToolsJson)
  raiseIf (allowedTools = []) (.valueError "allowed_tools must be non-empty")
  let settlementRail ← readSettlementRail input.settlementRail
  let deadline ← named "deadline_rfc3339" (crates.parseRfc3339 input.deadlineRfc3339)
  let payeePubkey := crates.verifyingKey payeeSeed
  let args : IntentArgs DateTime :=
    { tenantId := input.tenantId, intentId, principalDid := input.principalDid
      payeeDid := input.payeeDid, payeePubkey := some payeePubkey, amountCents := input.amountCents
      currency := input.currency, deadline, budget, evidenceSchema, predicate
      predicateRef := input.predicateRef, allowedTools, settlementRail, completionContract := none }
  return { principalSeed, payeePubkey, args }

/-- The entries of a request, with those of its kind. A blank reference is left out. -/
def bodyEntries (input : CreateIntentInput) (read : ReadInput DateTime) (message : List UInt8)
    (added : List (String × Value)) : List (String × Value) :=
  [("intent_id", .str (crates.uuidText read.args.intentId)),
    ("principal_did", .str input.principalDid.val),
    ("principal_pubkey", .str (crates.encodeBase64 (crates.verifyingKey read.principalSeed).val)),
    ("principal_signature", .str (crates.encodeBase64 (crates.sign read.principalSeed message))),
    ("payee_did", .str input.payeeDid.val),
    ("payee_pubkey", .str (crates.encodeBase64 read.payeePubkey.val)),
    ("budget", read.args.budget.val), ("currency", .str input.currency.val),
    ("amount_cents", .int input.amountCents.toInt),
    ("evidence_schema", read.args.evidenceSchema.val), ("deadline", .str input.deadlineRfc3339),
    ("settlement_rail", .str read.args.settlementRail.val),
    ("allowed_tools", .list (read.args.allowedTools.map .str))] ++ added ++
  if trim input.predicateRef.val = "" then [] else [("predicate_ref", .str input.predicateRef.val)]

/-- `json!`: a map of the entries. -/
def mapOf (entries : List (String × Value)) : Value :=
  .dict (entries.foldl (fun out entry => mapInsert entry.1 entry.2 out) [])

def printBody (body : Value) : Except PyExc String :=
  (crates.serde.toString body).mapError .runtimeError

/-- The entries of a request with its own predicate. -/
def rawEntries (read : ReadInput DateTime) : List (String × Value) :=
  [("predicate_dsl", read.args.predicate.val), ("signing_version", .int 6),
    ("policy_binding", .none)]

/-- The entries of a request under a published policy. -/
def boundEntries (policyTemplateId : SizedText) (policyVersionSeq : UInt32) :
    List (String × Value) :=
  [("signing_version", .int 7),
    ("policy_binding", mapOf [("template_id", .str policyTemplateId.val),
      ("version_seq", .int policyVersionSeq.toNat)])]

def buildSignedCreateIntentJson (input : CreateIntentInput) : Except PyExc String := do
  let read ← readInput crates "predicate_json" input
  let message ← (intentCreationSignBytesRaw crates.toCrates read.args).mapError .valueError
  printBody crates (mapOf (bodyEntries crates input read message (rawEntries read)))

def buildSignedCreateIntentWithPolicyBindingJson (input : CreateIntentInput)
    (binding : PolicyBinding) : Except PyExc String := do
  let read ← readInput crates "materialized_predicate_json" input
  let message ←
    (intentCreationSignBytesWithPolicyBinding crates.toCrates read.args binding).mapError
      .valueError
  printBody crates (mapOf (bodyEntries crates input read message
    (boundEntries binding.policyTemplateId binding.policyVersionSeq)))

end Build

/-! ## Reading a body -/

/-- The value under a key. -/
def bodyField (body : Value) (key : String) : Option Value :=
  match body with
  | .dict entries => entries.lookup key
  | _ => none

section Reading

variable {DateTime : Type} (crates : IntentCrates DateTime)

/-- The arguments that a body says, but for the predicate. A reference that is missing is empty. -/
structure ReadsBody (tenantId : SizedText) (body : Value) (args : IntentArgs DateTime) : Prop where
  tenantId : args.tenantId = tenantId
  intentId : ∃ text, bodyField body "intent_id" = some (.str text) ∧
    crates.parseUuid text = .ok args.intentId
  principalDid : bodyField body "principal_did" = some (.str args.principalDid.val)
  payeeDid : bodyField body "payee_did" = some (.str args.payeeDid.val)
  payeePubkey : ∃ text key, bodyField body "payee_pubkey" = some (.str text) ∧
    crates.decodeBase64 text = some key.val ∧ args.payeePubkey = some key
  amountCents : bodyField body "amount_cents" = some (.int args.amountCents.toInt)
  currency : bodyField body "currency" = some (.str args.currency.val)
  deadline : ∃ text, bodyField body "deadline" = some (.str text) ∧
    crates.parseRfc3339 text = .ok args.deadline
  budget : bodyField body "budget" = some args.budget.val
  evidenceSchema : bodyField body "evidence_schema" = some args.evidenceSchema.val
  predicateRef : (bodyField body "predicate_ref").getD (.str "") = .str args.predicateRef.val
  allowedTools : bodyField body "allowed_tools" = some (.list (args.allowedTools.map .str))
  settlementRail : bodyField body "settlement_rail" = some (.str args.settlementRail.val)
  completionContract : args.completionContract = none

/-- The predicate that a body carries itself. -/
def ReadsPredicate (body : Value) (args : IntentArgs DateTime) : Prop :=
  bodyField body "predicate_dsl" = some args.predicate.val

/-- The policy that a body names. -/
structure ReadsBinding (body : Value) (binding : PolicyBinding) : Prop where
  policyTemplateId : ∃ policy, bodyField body "policy_binding" = some policy ∧
    bodyField policy "template_id" = some (.str binding.policyTemplateId.val)
  policyVersionSeq : ∃ policy, bodyField body "policy_binding" = some policy ∧
    bodyField policy "version_seq" = some (.int binding.policyVersionSeq.toNat)

end Reading

theorem lookup_mapOf {entries : List (String × Value)} (hnodup : (entries.map Prod.fst).Nodup)
    (key : String) : bodyField (mapOf entries) key = entries.lookup key := by
  have hperm := Policy.sortMembers_perm entries
  have hsorted := (hperm.map Prod.fst).nodup_iff.mpr hnodup
  rw [mapOf, foldl_mapInsert hnodup, bodyField]
  cases hlookup : entries.lookup key with
  | none =>
      rw [List.lookup_eq_none_iff] at hlookup ⊢
      exact fun entry hentry => hlookup entry (hperm.mem_iff.mp hentry)
  | some value =>
      have hmem : (key, value) ∈ entries := by
        obtain ⟨front, back, rfl, -⟩ := List.lookup_eq_some_iff.mp hlookup
        exact List.mem_append_right _ List.mem_cons_self
      exact lookup_of_mem hsorted (hperm.mem_iff.mpr hmem)

section Built

variable {DateTime : Type} {crates : IntentCrates DateTime}

theorem named_eq_ok {α : Type} {argument : String} {result : Except String α} {value : α} :
    named argument result = .ok value ↔ result = .ok value := by
  cases result <;> simp [named, Except.mapError]

theorem mapError_eq_ok {α ε ε' : Type} {result : Except ε α} {f : ε → ε'} {value : α} :
    result.mapError f = .ok value ↔ result = .ok value := by
  cases result <;> simp [Except.mapError]

/-- What was read is what the input says. -/
structure ReadFrom (crates : IntentCrates DateTime) (input : CreateIntentInput)
    (read : ReadInput DateTime) : Prop where
  principalSeed : read.principalSeed.val = input.principalSeed
  tenantId : read.args.tenantId = input.tenantId
  principalDid : read.args.principalDid = input.principalDid
  payeeDid : read.args.payeeDid = input.payeeDid
  payeePubkey : read.args.payeePubkey = some read.payeePubkey
  amountCents : read.args.amountCents = input.amountCents
  currency : read.args.currency = input.currency
  deadline : crates.parseRfc3339 input.deadlineRfc3339 = .ok read.args.deadline
  predicate : crates.serde.fromStr input.predicateJson = .ok read.args.predicate
  predicateRef : read.args.predicateRef = input.predicateRef
  completionContract : read.args.completionContract = none

theorem readFrom_of_readInput {argument : String} {input : CreateIntentInput}
    {read : ReadInput DateTime} (hread : readInput crates argument input = .ok read) :
    ReadFrom crates input read := by
  simp only [readInput, except_bind_eq_ok, named_eq_ok] at hread
  obtain ⟨principalSeed, hprincipal, payeeSeed, -, intentId, -, budget, -, evidenceSchema, -,
    predicate, hpredicate, allowedTools, -, -, -, settlementRail, -, deadline, hdeadline, hread⟩ :=
      hread
  obtain rfl := Except.ok.inj hread
  have hseed : principalSeed.val = input.principalSeed := by
    unfold readSeed at hprincipal
    split at hprincipal
    next => rw [← Except.ok.inj hprincipal]
    next => cases hprincipal
  exact ⟨hseed, rfl, rfl, rfl, rfl, rfl, rfl, hdeadline, hpredicate, rfl, rfl⟩

/-- The keys that a kind of request adds are new. -/
def AddedKeys (added : List (String × Value)) : Prop :=
  added.map Prod.fst = ["predicate_dsl", "signing_version", "policy_binding"] ∨
    added.map Prod.fst = ["signing_version", "policy_binding"]

theorem nodup_bodyEntries {input : CreateIntentInput} {read : ReadInput DateTime}
    {message : List UInt8} {added : List (String × Value)} (hadded : AddedKeys added) :
    ((bodyEntries crates input read message added).map Prod.fst).Nodup := by
  unfold bodyEntries
  rcases hadded with hadded | hadded
  · split <;> simp [hadded]
  · split <;> simp [hadded]

section Fields

variable {input : CreateIntentInput} {read : ReadInput DateTime} {message : List UInt8}
  {added : List (String × Value)}

theorem bodyField_of_mem (hadded : AddedKeys added) {key : String} {value : Value}
    (hentry : (key, value) ∈ bodyEntries crates input read message added) :
    bodyField (mapOf (bodyEntries crates input read message added)) key = some value := by
  rw [lookup_mapOf (nodup_bodyEntries hadded)]
  exact lookup_of_mem (nodup_bodyEntries hadded) hentry

/-- A reference that is not blank is in the body, and an empty one is read where it is missing. -/
theorem predicateRef_field (hadded : AddedKeys added)
    (href : input.predicateRef.val = "" ∨ trim input.predicateRef.val ≠ "") :
    (bodyField (mapOf (bodyEntries crates input read message added)) "predicate_ref").getD
      (.str "") = .str input.predicateRef.val := by
  by_cases hblank : trim input.predicateRef.val = ""
  · have hempty : input.predicateRef.val = "" := href.resolve_right (not_not.mpr hblank)
    have hnone : bodyField (mapOf (bodyEntries crates input read message added)) "predicate_ref" =
        none := by
      rw [lookup_mapOf (nodup_bodyEntries hadded), List.lookup_eq_none_iff]
      intro entry hentry
      have hkey : "predicate_ref" ∉ (bodyEntries crates input read message added).map Prod.fst := by
        rcases hadded with hadded | hadded <;> simp [bodyEntries, hblank, hadded]
      have hne : "predicate_ref" ≠ entry.1 := by
        intro hsame
        exact hkey (hsame ▸ List.mem_map_of_mem hentry)
      exact bne_iff_ne.mpr hne
    rw [hnone, hempty]
    rfl
  · have hsome := @bodyField_of_mem _ crates input read message added hadded "predicate_ref"
      (.str input.predicateRef.val) (by simp [bodyEntries, hblank])
    rw [hsome]
    rfl

/-- The body says the arguments that were signed. -/
theorem readsBody_args (hlaws : crates.Laws) (hread : ReadFrom crates input read)
    (hadded : AddedKeys added)
    (href : input.predicateRef.val = "" ∨ trim input.predicateRef.val ≠ "") :
    ReadsBody crates input.tenantId (mapOf (bodyEntries crates input read message added))
      read.args where
  tenantId := hread.tenantId
  intentId := ⟨_, bodyField_of_mem hadded (by simp [bodyEntries]), hlaws.parseUuid_text _⟩
  principalDid := by
    rw [hread.principalDid]
    exact bodyField_of_mem hadded (by simp [bodyEntries])
  payeeDid := by
    rw [hread.payeeDid]
    exact bodyField_of_mem hadded (by simp [bodyEntries])
  payeePubkey := ⟨_, read.payeePubkey, bodyField_of_mem hadded (by simp [bodyEntries]),
    hlaws.decodeBase64_encode _, hread.payeePubkey⟩
  amountCents := by
    rw [hread.amountCents]
    exact bodyField_of_mem hadded (by simp [bodyEntries])
  currency := by
    rw [hread.currency]
    exact bodyField_of_mem hadded (by simp [bodyEntries])
  deadline := ⟨_, bodyField_of_mem hadded (by simp [bodyEntries]), hread.deadline⟩
  budget := bodyField_of_mem hadded (by simp [bodyEntries])
  evidenceSchema := bodyField_of_mem hadded (by simp [bodyEntries])
  predicateRef := by
    rw [hread.predicateRef]
    exact predicateRef_field hadded href
  allowedTools := bodyField_of_mem hadded (by simp [bodyEntries])
  settlementRail := bodyField_of_mem hadded (by simp [bodyEntries])
  completionContract := hread.completionContract

end Fields

theorem text_unique {field : Option Value} {text text' : SizedText}
    (htext : field = some (.str text.val)) (htext' : field = some (.str text'.val)) :
    text = text' :=
  Subtype.ext (PyValue.str.inj (Option.some.inj (htext.symm.trans htext')))

/-- What is parsed of a field that is a text. -/
theorem parsed_unique {α : Type} {field : Option Value} {parse : String → Except String α}
    {value value' : α}
    (hvalue : ∃ text, field = some (.str text) ∧ parse text = .ok value)
    (hvalue' : ∃ text, field = some (.str text) ∧ parse text = .ok value') : value = value' := by
  obtain ⟨text, htext, hparse⟩ := hvalue
  obtain ⟨text', htext', hparse'⟩ := hvalue'
  obtain rfl := PyValue.str.inj (Option.some.inj (htext.symm.trans htext'))
  exact Except.ok.inj (hparse.symm.trans hparse')

/-- A body says one list of arguments, up to the predicate. -/
theorem ReadsBody.unique {tenantId : SizedText} {body : Value} {args other : IntentArgs DateTime}
    (hargs : ReadsBody crates tenantId body args) (hother : ReadsBody crates tenantId body other)
    (hpredicate : other.predicate = args.predicate) : other = args := by
  have hpubkey : other.payeePubkey = args.payeePubkey := by
    obtain ⟨text, key, htext, hkey, hsome⟩ := hargs.payeePubkey
    obtain ⟨text', key', htext', hkey', hsome'⟩ := hother.payeePubkey
    obtain rfl := PyValue.str.inj (Option.some.inj (htext.symm.trans htext'))
    rw [hsome, hsome', Subtype.ext (Option.some.inj (hkey.symm.trans hkey'))]
  have hamount := PyValue.int.inj
    (Option.some.inj (hother.amountCents.symm.trans hargs.amountCents))
  have htools := PyValue.list.inj
    (Option.some.inj (hother.allowedTools.symm.trans hargs.allowedTools))
  have href := PyValue.str.inj (hother.predicateRef.symm.trans hargs.predicateRef)
  ext1
  · exact hother.tenantId.trans hargs.tenantId.symm
  · exact parsed_unique hother.intentId hargs.intentId
  · exact text_unique hother.principalDid hargs.principalDid
  · exact text_unique hother.payeeDid hargs.payeeDid
  · exact hpubkey
  · exact Int64.toInt.inj hamount
  · exact text_unique hother.currency hargs.currency
  · exact parsed_unique hother.deadline hargs.deadline
  · exact Subtype.ext (Option.some.inj (hother.budget.symm.trans hargs.budget))
  · exact Subtype.ext (Option.some.inj (hother.evidenceSchema.symm.trans hargs.evidenceSchema))
  · exact hpredicate
  · exact Subtype.ext href
  · exact List.map_injective_iff.mpr (fun _ _ hsame => PyValue.str.inj hsame) htools
  · exact text_unique hother.settlementRail hargs.settlementRail
  · exact hother.completionContract.trans hargs.completionContract.symm

/-! ## What a body says -/

/-- The body that a text prints carries this signature. -/
structure SignedBody (crates : IntentCrates DateTime) (seed : List UInt8) (text : String)
    (body : Value) (message : List UInt8) : Prop where
  text : crates.serde.toString body = .ok text
  signature : ∃ key : Seed, key.val = seed ∧ bodyField body "principal_signature" =
    some (.str (crates.encodeBase64 (crates.sign key message)))

theorem signedBody_of_print {input : CreateIntentInput} {read : ReadInput DateTime}
    {message : List UInt8} {added : List (String × Value)} {text : String}
    (hread : ReadFrom crates input read) (hadded : AddedKeys added)
    (hprint : printBody crates (mapOf (bodyEntries crates input read message added)) = .ok text) :
    SignedBody crates input.principalSeed text
      (mapOf (bodyEntries crates input read message added)) message where
  text := mapError_eq_ok.mp hprint
  signature := ⟨read.principalSeed, hread.principalSeed,
    bodyField_of_mem hadded (by simp [bodyEntries])⟩

/-- The policy that is named is read back. -/
theorem readsBinding_built {input : CreateIntentInput} {read : ReadInput DateTime}
    {message : List UInt8} {binding : PolicyBinding} :
    ReadsBinding (mapOf (bodyEntries crates input read message
      (boundEntries binding.policyTemplateId binding.policyVersionSeq))) binding := by
  have hadded : AddedKeys (boundEntries binding.policyTemplateId binding.policyVersionSeq) :=
    .inr rfl
  have hpolicy := @bodyField_of_mem _ crates input read message _ hadded "policy_binding"
    (mapOf [("template_id", .str binding.policyTemplateId.val),
      ("version_seq", .int binding.policyVersionSeq.toNat)]) (by simp [bodyEntries, boundEntries])
  refine ⟨⟨_, hpolicy, ?_⟩, ⟨_, hpolicy, ?_⟩⟩
  · rw [lookup_mapOf (by simp)]
    rfl
  · rw [lookup_mapOf (by simp)]
    rfl

theorem ReadsBinding.unique {body : Value} {binding other : PolicyBinding}
    (hbinding : ReadsBinding body binding) (hother : ReadsBinding body other)
    (hdigest : other.policyContentDigestHex = binding.policyContentDigestHex) :
    other = binding := by
  obtain ⟨policy, hpolicy, htemplate⟩ := hbinding.policyTemplateId
  obtain ⟨policy', hpolicy', htemplate'⟩ := hother.policyTemplateId
  obtain ⟨policy₂, hpolicy₂, hversion⟩ := hbinding.policyVersionSeq
  obtain ⟨policy₂', hpolicy₂', hversion'⟩ := hother.policyVersionSeq
  obtain rfl := Option.some.inj (hpolicy.symm.trans hpolicy')
  obtain rfl := Option.some.inj (hpolicy.symm.trans hpolicy₂)
  obtain rfl := Option.some.inj (hpolicy.symm.trans hpolicy₂')
  have hseq := PyValue.int.inj (Option.some.inj (hversion'.symm.trans hversion))
  ext1
  · exact text_unique htemplate' htemplate
  · exact UInt32.toNat.inj (Int.ofNat.inj hseq)
  · exact hdigest

/-- What is read from the body of an intent is what its signature was made over. For an intent
under a policy the predicate is that of the published policy, and the digest is given. -/
theorem signBytes_of_body (hlaws : crates.Laws) (input : CreateIntentInput)
    (href : input.predicateRef.val = "" ∨ trim input.predicateRef.val ≠ "") :
    (∀ text, buildSignedCreateIntentJson crates input = .ok text →
      ∃ body message args, SignedBody crates input.principalSeed text body message ∧
        (∀ other, ReadsBody crates input.tenantId body other ∧ ReadsPredicate body other ↔
          other = args) ∧
        intentCreationSignBytesRaw crates.toCrates args = .ok message) ∧
    ∀ (binding : PolicyBinding) (text : String),
      buildSignedCreateIntentWithPolicyBindingJson crates input binding = .ok text →
        ∃ body message predicate args, SignedBody crates input.principalSeed text body message ∧
          crates.serde.fromStr input.predicateJson = .ok predicate ∧
          (∀ other, ReadsBody crates input.tenantId body other ∧ other.predicate = predicate ↔
            other = args) ∧
          (∀ other : PolicyBinding, ReadsBinding body other ∧
            other.policyContentDigestHex = binding.policyContentDigestHex ↔ other = binding) ∧
          intentCreationSignBytesWithPolicyBinding crates.toCrates args binding = .ok message := by
  constructor
  · intro text hbuild
    simp only [buildSignedCreateIntentJson, except_bind_eq_ok, mapError_eq_ok] at hbuild
    obtain ⟨read, hread, message, hmessage, hprint⟩ := hbuild
    have hfrom := readFrom_of_readInput hread
    have hadded : AddedKeys (rawEntries read) := .inl rfl
    have hargs := @readsBody_args _ crates input read message _ hlaws hfrom hadded href
    refine ⟨_, message, read.args, signedBody_of_print hfrom hadded hprint, fun other => ⟨?_, ?_⟩,
      hmessage⟩
    · rintro ⟨hother, hpredicate⟩
      have hown := @bodyField_of_mem _ crates input read message _ hadded "predicate_dsl"
        read.args.predicate.val (by simp [bodyEntries, rawEntries])
      exact hargs.unique hother (Subtype.ext (Option.some.inj (hpredicate.symm.trans hown)))
    · rintro rfl
      exact ⟨hargs, bodyField_of_mem hadded (by simp [bodyEntries, rawEntries])⟩
  · intro binding text hbuild
    simp only [buildSignedCreateIntentWithPolicyBindingJson, except_bind_eq_ok, mapError_eq_ok]
      at hbuild
    obtain ⟨read, hread, message, hmessage, hprint⟩ := hbuild
    have hfrom := readFrom_of_readInput hread
    have hadded : AddedKeys (boundEntries binding.policyTemplateId binding.policyVersionSeq) :=
      .inr rfl
    have hargs := @readsBody_args _ crates input read message _ hlaws hfrom hadded href
    have hbinding := @readsBinding_built _ crates input read message binding
    refine ⟨_, message, read.args.predicate, read.args, signedBody_of_print hfrom hadded hprint,
      hfrom.predicate, fun other => ⟨?_, ?_⟩, fun other => ⟨?_, ?_⟩, hmessage⟩
    · rintro ⟨hother, hpredicate⟩
      exact hargs.unique hother hpredicate
    · rintro rfl
      exact ⟨hargs, rfl⟩
    · rintro ⟨hother, hdigest⟩
      exact hbinding.unique hother hdigest
    · rintro rfl
      exact ⟨hbinding, rfl⟩

/-- What was signed twice has the same payload, but for the deadline, of which the text is
signed. -/
theorem payload_eq {crates : Crates DateTime} (call other : SignCall DateTime)
    {message : List UInt8} (hmessage : call.signBytes crates = .ok message)
    (hother : other.signBytes crates = .ok message) :
    { payloadOf crates call.args call.version call.args.settlementRail with
        deadline := other.args.deadline } =
      payloadOf crates other.args other.version other.args.settlementRail := by
  obtain ⟨_, -, deadline, -, hbytes⟩ := SignCall.signBytes_eq_ok.mp hmessage
  obtain ⟨_, -, deadline', -, hbytes'⟩ := SignCall.signBytes_eq_ok.mp hother
  exact (reads_commonBytes (_, deadline) (_, deadline') _ _ (hbytes.symm.trans hbytes')).1.1

end Built

/-! ## A request that is built -/

section Created

def encodeHex (bytes : List UInt8) : String := Receipt.hexOfBytes ⟨bytes.toArray⟩

def decodeHex (text : String) : Option (List UInt8) :=
  match Receipt.bytesFromHex text with
  | .ok bytes => some bytes.data.toList
  | .error _ => none

theorem decodeHex_encodeHex (bytes : List UInt8) : decodeHex (encodeHex bytes) = some bytes := by
  simp only [decodeHex, encodeHex, Receipt.bytesFromHex_hexOfBytes]

theorem encodeHex_injective : Function.Injective encodeHex := by
  intro bytes other hsame
  have hdecoded := decodeHex_encodeHex bytes
  rw [hsame, decodeHex_encodeHex] at hdecoded
  exact (Option.some.inj hdecoded).symm

/-- Packages that write bytes in hexadecimal digits and sign with the message itself. -/
def cratesCreated : IntentCrates SizedText where
  serde := serdeReading
  blake3 bytes := ⟨(bytes ++ List.replicate 32 0).take 32, by simp⟩
  rfc3339 deadline := .ok deadline
  hexDecode _ := .ok (List.replicate 32 0xab)
  parseUuid text :=
    match decodeHex text with
    | some bytes => if hlength : bytes.length = 16 then .ok ⟨bytes, hlength⟩ else .error "length"
    | none => .error "digit"
  uuidText id := encodeHex id.val
  parseRfc3339 text :=
    if hlength : (utf8Bytes text).length < 2 ^ 64 then .ok ⟨text, hlength⟩ else .error "length"
  fromStrTexts _ := .ok ["search"]
  encodeBase64 := encodeHex
  decodeBase64 := decodeHex
  verifyingKey seed := seed
  sign _ message := message

theorem laws_created : cratesCreated.Laws where
  prints := laws_reading.toPrints
  parseUuid_text id := by
    simp only [cratesCreated, decodeHex_encodeHex, dif_pos id.property]
  decodeBase64_encode := decodeHex_encodeHex

theorem length_sevens : (List.replicate 16 (7 : UInt8)).length = 16 := rfl

def uuidCreated : Uuid := ⟨List.replicate 16 7, length_sevens⟩

def seedCreated : Seed := ⟨List.replicate 32 1, rfl⟩

def inputCreated (predicateJson : String) (predicateRef : SizedText) : CreateIntentInput where
  tenantId := ⟨"tenant", sized_tenant⟩
  principalSeed := seedCreated.val
  payeeSeed := seedCreated.val
  intentId := encodeHex uuidCreated.val
  principalDid := ⟨"did:principal:1", sized_principal⟩
  payeeDid := ⟨"did:payee:1", sized_payee⟩
  budgetJson := dumps exactFloatText compactStyle (.dict [])
  currency := ⟨"usd", sized_usd⟩
  amountCents := 100
  evidenceSchemaJson := dumps exactFloatText compactStyle (.dict [])
  deadlineRfc3339 := "2030-01-02T15:04:05Z"
  predicateJson := predicateJson
  predicateRef := predicateRef
  allowedToolsJson := "[\"search\"]"
  settlementRail := "stripe_connect"

theorem distinct_emptyObject : (PyValue.dict []).Distinct := ⟨List.nodup_nil, trivial⟩

def emptyObject : JsonDoc := ⟨.dict [], distinct_emptyObject⟩

theorem fromStr_emptyObject :
    serdeReading.fromStr (dumps exactFloatText compactStyle (.dict [])) = .ok emptyObject := by
  have hempty : MachineValue (.dict []) :=
    ⟨⟨List.nodup_nil, trivial⟩, trivial, fun _ hnil => absurd hnil List.not_mem_nil⟩
  exact fromStr_reading (by simp [pythonStyles]) hempty

def readCreated (predicate : JsonDoc) (predicateRef : SizedText) : ReadInput SizedText where
  principalSeed := seedCreated
  payeePubkey := seedCreated
  args :=
    { tenantId := ⟨"tenant", sized_tenant⟩
      intentId := uuidCreated
      principalDid := ⟨"did:principal:1", sized_principal⟩
      payeeDid := ⟨"did:payee:1", sized_payee⟩
      payeePubkey := some seedCreated
      amountCents := 100
      currency := ⟨"usd", sized_usd⟩
      deadline := ⟨"2030-01-02T15:04:05Z", sized_deadline⟩
      budget := emptyObject
      evidenceSchema := emptyObject
      predicate := predicate
      predicateRef := predicateRef
      allowedTools := ["search"]
      settlementRail := ⟨"stripe_connect", sized_stripeConnect⟩
      completionContract := none }

theorem readInput_created {argument predicateJson : String} {predicateRef : SizedText}
    {predicate : JsonDoc} (hpredicate : serdeReading.fromStr predicateJson = .ok predicate) :
    readInput cratesCreated argument (inputCreated predicateJson predicateRef) =
      .ok (readCreated predicate predicateRef) := by
  have hseed : ∀ argument, readSeed argument seedCreated.val = .ok seedCreated :=
    fun _ => dif_pos seedCreated.property
  have hid : cratesCreated.parseUuid (trim (encodeHex uuidCreated.val)) = .ok uuidCreated := by
    have htrim : trim (encodeHex uuidCreated.val) = encodeHex uuidCreated.val := by decide +kernel
    rw [htrim]
    exact laws_created.parseUuid_text uuidCreated
  have hrail : readSettlementRail "stripe_connect" =
      .ok ⟨"stripe_connect", sized_stripeConnect⟩ := by
    have hfind : (settlementRails.find? fun rail => rail.val = trim "stripe_connect") =
        some ⟨"stripe_connect", sized_stripeConnect⟩ := by
      decide +kernel
    rw [readSettlementRail, hfind]
  have hdeadline : cratesCreated.parseRfc3339 "2030-01-02T15:04:05Z" =
      .ok ⟨"2030-01-02T15:04:05Z", sized_deadline⟩ := by
    have hlength : (utf8Bytes "2030-01-02T15:04:05Z").length < 2 ^ 64 := by decide +kernel
    simp only [cratesCreated, dif_pos hlength]
  have hserde : cratesCreated.serde = serdeReading := rfl
  have htools : cratesCreated.fromStrTexts "[\"search\"]" = .ok ["search"] := rfl
  have hsome : raiseIf (["search"] = []) (PyExc.valueError "allowed_tools must be non-empty") =
      .ok () :=
    raiseIf_eq_ok.mpr (by simp)
  simp only [readInput, inputCreated, hseed, hid, hserde, fromStr_emptyObject, hpredicate, htools,
    hsome, hrail, hdeadline, named, Except.mapError, except_ok_bind]
  rfl

section Raw

variable {predicateJson : String} {predicateRef : SizedText} {predicate : JsonDoc}

def rawBody (predicate : JsonDoc) (predicateJson : String) (predicateRef : SizedText)
    (message : List UInt8) : Value :=
  mapOf (bodyEntries cratesCreated (inputCreated predicateJson predicateRef)
    (readCreated predicate predicateRef) message (rawEntries (readCreated predicate predicateRef)))

theorem build_created (hpredicate : serdeReading.fromStr predicateJson = .ok predicate) :
    ∃ text message, intentCreationSignBytesRaw cratesCreated.toCrates
        (readCreated predicate predicateRef).args = .ok message ∧
      buildSignedCreateIntentJson cratesCreated (inputCreated predicateJson predicateRef) =
        .ok text ∧
      serdeReading.toString (rawBody predicate predicateJson predicateRef message) = .ok text := by
  have hmessage := (@SignCall.signBytes_eq_ok _ cratesCreated.toCrates
    (.raw (readCreated predicate predicateRef).args) _).mpr ⟨none, rfl, _, rfl, rfl⟩
  refine ⟨_, _, hmessage, ?_, laws_reading.toString_eq _⟩
  have hmessage' := (@mapError_eq_ok _ _ _ _ PyExc.valueError _).mpr hmessage
  rw [buildSignedCreateIntentJson, readInput_created hpredicate, except_ok_bind]
  exact except_bind_eq_ok.mpr ⟨_, hmessage', rfl⟩

def blankRef : SizedText := ⟨" ", by decide +kernel⟩

def emptyRef : SizedText := ⟨"", sized_empty⟩

/-- A blank reference is left out of the body as an empty one is. -/
theorem rawBody_blankRef {message : List UInt8} :
    rawBody predicate predicateJson blankRef message =
      rawBody predicate predicateJson emptyRef message := by
  have hblank : trim blankRef.val = "" := by decide +kernel
  have hempty : trim emptyRef.val = "" := by decide +kernel
  simp only [rawBody, bodyEntries, inputCreated, hblank, hempty, if_true]
  rfl

/-- It is signed all the same. -/
theorem message_blankRef_ne {message message' : List UInt8}
    (hmessage : intentCreationSignBytesRaw cratesCreated.toCrates
      (readCreated predicate blankRef).args = .ok message)
    (hmessage' : intentCreationSignBytesRaw cratesCreated.toCrates
      (readCreated predicate emptyRef).args = .ok message') : message ≠ message' := by
  intro hsame
  subst hsame
  have hpayload := payload_eq (.raw (readCreated predicate blankRef).args)
    (.raw (readCreated predicate emptyRef).args) hmessage hmessage'
  have href := congrArg (fun payload => payload.predicateRef.val) hpayload
  have hne : " " ≠ "" := by decide
  exact hne href

end Raw

/-- A request is built, and what is read from it is what was signed. -/
theorem signBytes_of_body_created : ∃ text body message args,
    buildSignedCreateIntentJson cratesCreated
      (inputCreated (dumps exactFloatText compactStyle (.dict [])) ⟨"", sized_empty⟩) =
        .ok text ∧
    SignedBody cratesCreated seedCreated.val text body message ∧
    (∀ other, ReadsBody cratesCreated ⟨"tenant", sized_tenant⟩ body other ∧
      ReadsPredicate body other ↔ other = args) ∧
    intentCreationSignBytesRaw cratesCreated.toCrates args = .ok message := by
  obtain ⟨text, -, -, hbuild, -⟩ :=
    @build_created _ ⟨"", sized_empty⟩ _ fromStr_emptyObject
  obtain ⟨body, message, args, hbody, hreads, hmessage⟩ :=
    (signBytes_of_body laws_created _ (.inl rfl)).1 text hbuild
  exact ⟨text, body, message, args, hbuild, hbody, hreads, hmessage⟩

section Bound

variable {predicateJson : String} {predicate : JsonDoc}

def bindingCreated : PolicyBinding :=
  ⟨⟨"travel", by decide +kernel⟩, 3, encodeHex (List.replicate 32 0xab)⟩

def boundBody (predicate : JsonDoc) (predicateJson : String) (message : List UInt8) : Value :=
  mapOf (bodyEntries cratesCreated (inputCreated predicateJson emptyRef)
    (readCreated predicate emptyRef) message
    (boundEntries bindingCreated.policyTemplateId bindingCreated.policyVersionSeq))

theorem build_bound (hpredicate : serdeReading.fromStr predicateJson = .ok predicate) :
    ∃ text message, intentCreationSignBytesWithPolicyBinding cratesCreated.toCrates
        (readCreated predicate emptyRef).args bindingCreated = .ok message ∧
      buildSignedCreateIntentWithPolicyBindingJson cratesCreated
        (inputCreated predicateJson emptyRef) bindingCreated = .ok text ∧
      serdeReading.toString (boundBody predicate predicateJson message) = .ok text := by
  have hdigest : decodePolicyContentDigest cratesCreated.toCrates
      bindingCreated.policyContentDigestHex = .ok ⟨List.replicate 32 0xab, rfl⟩ := rfl
  have hpolicy : (SignCall.withPolicyBinding (readCreated predicate emptyRef).args
      bindingCreated).policy cratesCreated.toCrates =
        .ok (some (bindingCreated.policyTemplateId, bindingCreated.policyVersionSeq,
          ⟨List.replicate 32 0xab, rfl⟩)) := by
    simp only [SignCall.policy, hdigest]
  have hmessage := SignCall.signBytes_eq_ok.mpr ⟨_, hpolicy, _, rfl, rfl⟩
  refine ⟨_, _, hmessage, ?_, laws_reading.toString_eq _⟩
  have hmessage' := (@mapError_eq_ok _ _ _ _ PyExc.valueError _).mpr hmessage
  rw [buildSignedCreateIntentWithPolicyBindingJson, readInput_created hpredicate, except_ok_bind]
  exact except_bind_eq_ok.mpr ⟨_, hmessage', rfl⟩

/-- Of the predicate and of what was signed the body says only the signature. -/
theorem boundBody_agree {other : JsonDoc} {otherJson key : String} {message message' : List UInt8}
    (hkey : key ≠ "principal_signature") :
    bodyField (boundBody predicate predicateJson message) key =
      bodyField (boundBody other otherJson message') key := by
  have hadded : AddedKeys
      (boundEntries bindingCreated.policyTemplateId bindingCreated.policyVersionSeq) := .inr rfl
  have hbeq : (key == "principal_signature") = false := beq_false_of_ne hkey
  rw [boundBody, boundBody, lookup_mapOf (nodup_bodyEntries hadded),
    lookup_mapOf (nodup_bodyEntries hadded)]
  simp only [bodyEntries, List.cons_append, List.lookup_cons, hbeq]
  rfl

theorem signature_field {message : List UInt8} :
    bodyField (boundBody predicate predicateJson message) "principal_signature" =
      some (.str (encodeHex message)) :=
  bodyField_of_mem (.inr rfl) (by simp [bodyEntries, cratesCreated])

end Bound

def emptyArray : JsonDoc := ⟨.list [], trivial⟩

theorem fromStr_emptyArray :
    serdeReading.fromStr (dumps exactFloatText compactStyle (.list [])) = .ok emptyArray := by
  have hempty : MachineValue (.list []) :=
    ⟨trivial, trivial, fun _ hnil => absurd hnil List.not_mem_nil⟩
  exact fromStr_reading (by simp [pythonStyles]) hempty

/-- Two predicates have two digests, and two messages. -/
theorem message_predicate_ne {message message' : List UInt8}
    (hmessage : intentCreationSignBytesWithPolicyBinding cratesCreated.toCrates
      (readCreated emptyObject emptyRef).args bindingCreated = .ok message)
    (hmessage' : intentCreationSignBytesWithPolicyBinding cratesCreated.toCrates
      (readCreated emptyArray emptyRef).args bindingCreated = .ok message') :
    message ≠ message' := by
  intro hsame
  subst hsame
  have hpayload := payload_eq
    (.withPolicyBinding (readCreated emptyObject emptyRef).args bindingCreated)
    (.withPolicyBinding (readCreated emptyArray emptyRef).args bindingCreated) hmessage hmessage'
  have hdigest := congrArg (fun payload => payload.predicateDslDigest) hpayload
  have hne : jsonValueDigest cratesCreated.toCrates (.dict []) ≠
      jsonValueDigest cratesCreated.toCrates (.list []) := by
    decide +kernel
  exact hne hdigest

/-- A blank reference is signed and is not in the body. Of a predicate under a policy the body
says nothing: two requests agree on every field, and are signed differently. -/
theorem body_not_signed :
    (∃ text body args message,
      buildSignedCreateIntentJson cratesCreated
        (inputCreated (dumps exactFloatText compactStyle (.dict [])) blankRef) = .ok text ∧
      cratesCreated.serde.toString body = .ok text ∧
      ReadsBody cratesCreated ⟨"tenant", sized_tenant⟩ body args ∧
      ReadsPredicate body args ∧
      intentCreationSignBytesRaw cratesCreated.toCrates args = .ok message ∧
      bodyField body "principal_signature" ≠
        some (.str (cratesCreated.encodeBase64 (cratesCreated.sign seedCreated message)))) ∧
    ∃ text text' body body',
      buildSignedCreateIntentWithPolicyBindingJson cratesCreated
        (inputCreated (dumps exactFloatText compactStyle (.dict [])) emptyRef) bindingCreated =
          .ok text ∧
      buildSignedCreateIntentWithPolicyBindingJson cratesCreated
        (inputCreated (dumps exactFloatText compactStyle (.list [])) emptyRef) bindingCreated =
          .ok text' ∧
      cratesCreated.serde.toString body = .ok text ∧
      cratesCreated.serde.toString body' = .ok text' ∧
      (∀ key, key ≠ "principal_signature" → bodyField body key = bodyField body' key) ∧
      bodyField body "principal_signature" ≠ bodyField body' "principal_signature" := by
  constructor
  · obtain ⟨text, message, hmessage, hbuild, hprint⟩ :=
      @build_created _ blankRef _ fromStr_emptyObject
    obtain ⟨_, message', hmessage', -, -⟩ := @build_created _ emptyRef _ fromStr_emptyObject
    have hread : ReadFrom cratesCreated _ (readCreated emptyObject emptyRef) :=
      readFrom_of_readInput (@readInput_created "predicate_json" _ _ _ fromStr_emptyObject)
    have hadded : AddedKeys (rawEntries (readCreated emptyObject emptyRef)) := .inl rfl
    rw [rawBody_blankRef] at hprint
    refine ⟨text, _, (readCreated emptyObject emptyRef).args, message', hbuild, hprint,
      readsBody_args laws_created hread hadded (.inl rfl),
      bodyField_of_mem hadded (by simp [bodyEntries, rawEntries]), hmessage', ?_⟩
    have hsignature := @bodyField_of_mem _ cratesCreated
      (inputCreated (dumps exactFloatText compactStyle (.dict [])) emptyRef)
      (readCreated emptyObject emptyRef) message _ hadded "principal_signature"
      (.str (encodeHex message)) (by simp [bodyEntries, cratesCreated])
    rw [rawBody, hsignature]
    intro hsame
    exact message_blankRef_ne hmessage hmessage'
      (encodeHex_injective (PyValue.str.inj (Option.some.inj hsame)))
  · obtain ⟨text, message, hmessage, hbuild, hprint⟩ := build_bound fromStr_emptyObject
    obtain ⟨text', message', hmessage', hbuild', hprint'⟩ := build_bound fromStr_emptyArray
    refine ⟨text, text', _, _, hbuild, hbuild', hprint, hprint', fun key => boundBody_agree, ?_⟩
    rw [signature_field, signature_field]
    intro hsame
    exact message_predicate_ne hmessage hmessage'
      (encodeHex_injective (PyValue.str.inj (Option.some.inj hsame)))

end Created

end PaybondKit.Native
