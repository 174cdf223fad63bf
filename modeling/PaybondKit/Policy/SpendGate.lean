import PaybondKit.Agent.Runtime
import PaybondKit.Policy.Registry

/-!
# The spend gate of the MCP server

The gate looks up the tool name that the caller supplies, checks the operation that
the caller supplies, and answers with an operation and an amount for Harbor.
-/

namespace PaybondKit.Policy

open Agent

structure McpPolicySpendGateInput where
  operation : String
  allowedTools : List String
  toolName : Option String := none
  arguments : PyValue := .none
  requestedSpendCents : Option Int := none

structure McpPolicySpendGateResult where
  operation : String
  requestedSpendCents : Int
  policyDigest : Option String := none
  deriving DecidableEq, Repr

/-- What the gate keeps for its checks. -/
structure McpPolicyReloadGate where
  snapshot : Option PaybondPolicySnapshot
  lastAllowedTools : List String := []

namespace McpPolicySpendGateInput

variable (input : McpPolicySpendGateInput)

/-- The operation that is asked for. -/
def strippedOperation : String := pyStrip input.operation

/-- The tool that is looked up. -/
def lookupName : String := pyStrip ((truthyStr input.toolName).getD input.strippedOperation)

end McpPolicySpendGateInput

def mcpPolicyReloadError (message : String) : PyExc := .other "McpPolicyReloadError" message

section Gate

variable (resolve : Callback → PyValue → Except PyExc (Option Int))

/-- `resolve_spend_cents`; `resolve` calls a resolver that is a function of the host. -/
def registrySpendCents (registry : PaybondToolRegistry) (toolName : String)
    (arguments : PyValue) : Except PyExc (Option Int) :=
  match (registry.sideEffecting.get? toolName).bind (·.spendCents) with
  | none => .ok none
  | some (.cents value) => .ok (some value)
  | some (.jsonPath path tool) => resolveSpendCentsFromJsonPath arguments path tool
  | some (.resolver callback) => resolve callback arguments

/-- The requested amount, or what the policy's rule yields. -/
def gateAmount (registry : PaybondToolRegistry) (input : McpPolicySpendGateInput) :
    Except PyExc Int :=
  match input.requestedSpendCents with
  | some cents => .ok cents
  | none => (·.getD 0) <$> registrySpendCents resolve registry input.lookupName input.arguments

/-- The gate's answer under a loaded snapshot. -/
def gateSpend (snapshot : PaybondPolicySnapshot) (input : McpPolicySpendGateInput) :
    Except PyExc McpPolicySpendGateResult :=
  let operation := input.strippedOperation
  match snapshot.registry.resolveTool input.lookupName (some input.allowedTools) with
  | .passthrough _ =>
      .ok { operation, requestedSpendCents := 0, policyDigest := some snapshot.digest }
  | .denied toolName denied => .error (.unregisteredSideEffectingTool toolName denied)
  | .sideEffecting _ resolved _ =>
      if operation ∉ input.allowedTools then
        .error (mcpPolicyReloadError (s!"operation \"{operation}\" is not in intent " ++
          "allowed_tools (" ++ ", ".intercalate input.allowedTools ++ ")"))
      else do
        let requestedSpendCents ← gateAmount resolve snapshot.registry input
        return { operation := resolved, requestedSpendCents, policyDigest := some snapshot.digest }

/-- `assert_spend_gate`, with the gate it leaves. -/
def assertSpendGate (gate : McpPolicyReloadGate) (input : McpPolicySpendGateInput) :
    Except PyExc McpPolicySpendGateResult × McpPolicyReloadGate :=
  if input.strippedOperation = "" then
    (.error (mcpPolicyReloadError "operation must be non-empty"), gate)
  else
    let gate := { gate with lastAllowedTools := input.allowedTools }
    match gate.snapshot with
    | none => (.error (mcpPolicyReloadError "policy snapshot is not loaded"), gate)
    | some snapshot => (gateSpend resolve snapshot input, gate)

end Gate

/-! ## What the gate lets pass -/

section Passes

variable {resolve : Callback → PyValue → Except PyExc (Option Int)}
variable {gate : McpPolicyReloadGate} {snapshot : PaybondPolicySnapshot}
variable {input : McpPolicySpendGateInput} {result : McpPolicySpendGateResult}

theorem gateSpend_of_assertSpendGate (hloaded : gate.snapshot = some snapshot)
    (hreturns : (assertSpendGate resolve gate input).1 = .ok result) :
    gateSpend resolve snapshot input = .ok result := by
  unfold assertSpendGate at hreturns
  split at hreturns
  · cases hreturns
  · simpa only [hloaded] using hreturns

/-- What the gate returns: an amount for a tool that is registered, and otherwise nothing
to spend. -/
theorem gateSpend_cases (hreturns : gateSpend resolve snapshot input = .ok result) :
    (∃ entry, snapshot.registry.sideEffecting.get? input.lookupName = some entry ∧
      input.strippedOperation ∈ input.allowedTools ∧ result.operation = entry.operation ∧
        gateAmount resolve snapshot.registry input = .ok result.requestedSpendCents) ∨
    (snapshot.registry.sideEffecting.get? input.lookupName = none ∧
      result.operation = input.strippedOperation ∧ result.requestedSpendCents = 0) := by
  unfold gateSpend at hreturns
  dsimp only at hreturns
  split at hreturns
  next name hresolution =>
    cases hreturns
    refine .inr ⟨?_, rfl, rfl⟩
    cases hentry : snapshot.registry.sideEffecting.get? input.lookupName with
    | none => rfl
    | some entry =>
        rw [PaybondToolRegistry.resolveTool_sideEffecting hentry] at hresolution
        cases hresolution
  · cases hreturns
  next name resolved entry hresolution =>
    obtain ⟨-, hentry⟩ := PaybondToolRegistry.resolveTool_eq_sideEffecting hresolution
    rw [PaybondToolRegistry.resolveTool_sideEffecting hentry] at hresolution
    cases hresolution
    split at hreturns
    · cases hreturns
    next hallowed =>
      obtain ⟨cents, hcents, hresult⟩ := except_bind_eq_ok.mp hreturns
      obtain rfl := except_pure_eq_ok.mp hresult
      exact .inl ⟨entry, hentry, not_not.mp hallowed, rfl, hcents⟩

end Passes

section Claim

variable (resolve : Callback → PyValue → Except PyExc (Option Int))

/-- The gate holds: it answers with the operation that was asked for, which the intent
allows, and an operation of the policy is charged what was requested or what the
policy yields. -/
structure GateHolds (registry : PaybondToolRegistry) (input : McpPolicySpendGateInput)
    (result : McpPolicySpendGateResult) : Prop where
  operation : result.operation = input.strippedOperation
  allowed : result.operation ∈ input.allowedTools
  charged : input.strippedOperation ∈ registry.operations →
    registry.isSideEffecting input.lookupName = true ∧
      gateAmount resolve registry input = .ok result.requestedSpendCents

/-- The tool name that is supplied is the tool of the operation that is supplied, or is no
tool of the policy, and the operation, which is allowed, is none of the policy's either. -/
def NamesOneTool (registry : PaybondToolRegistry) (input : McpPolicySpendGateInput) : Prop :=
  match registry.sideEffecting.get? input.lookupName with
  | some entry => entry.operation = input.strippedOperation
  | none => input.strippedOperation ∈ input.allowedTools ∧
      input.strippedOperation ∉ registry.operations

instance (registry : PaybondToolRegistry) (input : McpPolicySpendGateInput) :
    Decidable (NamesOneTool registry input) := by
  unfold NamesOneTool
  split <;> infer_instance

/-- The gate holds exactly when the tool name and the operation belong together. -/
theorem gateHolds_iff {gate : McpPolicyReloadGate} {snapshot : PaybondPolicySnapshot}
    {input : McpPolicySpendGateInput} {result : McpPolicySpendGateResult}
    (hloaded : gate.snapshot = some snapshot)
    (hreturns : (assertSpendGate resolve gate input).1 = .ok result) :
    GateHolds resolve snapshot.registry input result ↔ NamesOneTool snapshot.registry input := by
  unfold NamesOneTool
  rcases gateSpend_cases (gateSpend_of_assertSpendGate hloaded hreturns) with
    ⟨entry, hentry, hallowed, hoperation, hamount⟩ | ⟨hentry, hoperation, -⟩
  · rw [hentry]
    constructor
    · intro hholds
      exact hoperation.symm.trans hholds.operation
    · intro hsame
      have hasked : result.operation = input.strippedOperation := hoperation.trans hsame
      refine ⟨hasked, hasked ▸ hallowed, fun _ => ⟨?_, hamount⟩⟩
      rw [PaybondToolRegistry.isSideEffecting, OrderedDict.contains, hentry]
      rfl
  · rw [hentry]
    have hunregistered : snapshot.registry.isSideEffecting input.lookupName = false := by
      rw [PaybondToolRegistry.isSideEffecting, OrderedDict.contains, hentry]
      rfl
    constructor
    · intro hholds
      refine ⟨hoperation ▸ hholds.allowed, fun hknown => ?_⟩
      rw [(hholds.charged hknown).1] at hunregistered
      cases hunregistered
    · rintro ⟨hallowed, hunknown⟩
      exact ⟨hoperation, hoperation ▸ hallowed, fun hknown => absurd hknown hunknown⟩

end Claim

/-! ## A gate of a travel policy -/

/-- A hotel has a cap, a flight costs what its arguments say. -/
def faresPolicy : PaybondPolicyDocumentV1 where
  name := "travel"
  defaultDeny := true
  tools := .ofList [("travel.book_hotel",
      { sideEffecting := true, maxSpendCents := some 15000
        evidencePreset := some "cost_and_completion" }),
    ("travel.book_flight",
      { sideEffecting := true, spendFromArgs := some "fare.cents"
        evidencePreset := some "cost_and_completion" })]

def catalogFares : CompletionCatalog := ⟨[⟨"cost_and_completion", "builtin"⟩]⟩

def gateFares : McpPolicyReloadGate where
  snapshot := (policyToToolRegistry catalogFares faresPolicy).toOption.map fun registry =>
    { digest := "sha256:travel", registry, document := faresPolicy }

/-- Book a hotel, under some tool name. -/
def gateHotel (toolName : String) : McpPolicySpendGateInput where
  operation := "travel.book_hotel"
  allowedTools := ["travel.book_hotel"]
  toolName := some toolName

theorem gateHolds_iff_hotel : ∃ snapshot result, gateFares.snapshot = some snapshot ∧
    (assertSpendGate (fun _ _ => .ok none) gateFares (gateHotel "travel.book_hotel")).1 =
        .ok result ∧
      GateHolds (fun _ _ => .ok none) snapshot.registry (gateHotel "travel.book_hotel") result :=
  ⟨_, _, rfl, rfl, (@gateHolds_iff (fun _ _ => .ok none) gateFares _
    (gateHotel "travel.book_hotel") _ rfl rfl).mpr (by decide)⟩

/-- Under the name of a tool that the policy does not know, the hotel costs nothing. -/
theorem assertSpendGate_stepped_around : ∃ snapshot result, gateFares.snapshot = some snapshot ∧
    (assertSpendGate (fun _ _ => .ok none) gateFares (gateHotel "travel.search")).1 =
        .ok result ∧
      "travel.book_hotel" ∈ snapshot.registry.operations ∧ result.requestedSpendCents = 0 ∧
        ¬GateHolds (fun _ _ => .ok none) snapshot.registry (gateHotel "travel.search") result := by
  refine ⟨_, _, rfl, rfl, by decide, rfl, fun hholds => ?_⟩
  have hregistered := (hholds.charged (by decide)).1
  revert hregistered
  decide

end PaybondKit.Policy
