import PaybondKit.Agent.Adapter
import PaybondKit.Policy.SpendGate

/-!
# What is asked of Harbor

The amount of a call is the caller's, the policy's fixed cap, or read from the
arguments; a sandbox bounds it. The interceptor and the spend gate of the MCP server
compute it each on its own. Both stay within the policy under the same condition.
-/

namespace PaybondKit.Agent

open Policy

/-- A call of a policy's tool, with what decides its amount. -/
structure SpendCall where
  entry : PaybondPolicyToolEntry
  requestedSpendCents : Option Int
  arguments : PyValue
  sandbox : Option Int

namespace SpendCall

variable (call : SpendCall)

/-- The path that the policy reads the amount from. -/
def argsPath : Option String :=
  if call.entry.maxSpendCents.isSome then none else truthyStr call.entry.spendFromArgs

/-- The amount before the sandbox's bound. -/
def Yields (amount : Option Int) : Prop :=
  match call.requestedSpendCents, call.entry.maxSpendCents, call.argsPath with
  | some cents, _, _ => amount = some cents
  | none, some cap, _ => amount = some cap
  | none, none, some path =>
      ∃ toolName, resolveSpendCentsFromJsonPath call.arguments path toolName = .ok amount
  | none, none, none => amount = none

/-- The amount that Harbor is asked for. -/
def asked (amount : Option Int) : Int :=
  (call.sandbox.elim amount fun bound => some (amount.elim bound (min · bound))).getD 0

/-- The policy's rule and the sandbox bound what is asked. -/
structure WithinPolicy (cents : Int) : Prop where
  nonneg : 0 ≤ cents
  max_spend_cents : ∀ cap, call.entry.maxSpendCents = some cap → cents ≤ cap
  sandbox : ∀ bound, call.sandbox = some bound → cents ≤ bound
  spend_from_args : call.requestedSpendCents = none → ∀ path, call.argsPath = some path →
    ∃ yielded, 0 ≤ yielded ∧ resolveJsonPath call.arguments path = .int yielded

/-- No amount is negative, the caller's is within the cap or the sandbox is, and the
arguments have a value where the policy looks for one. -/
structure Covered : Prop where
  sandbox : ∀ bound, call.sandbox = some bound → 0 ≤ bound
  requested : ∀ cents, call.requestedSpendCents = some cents → 0 ≤ cents ∧
    ∀ cap, call.entry.maxSpendCents = some cap → cents ≤ cap ∨ ∃ bound ≤ cap, call.sandbox = some bound
  max_spend_cents : call.requestedSpendCents = none → ∀ cap,
    call.entry.maxSpendCents = some cap → 0 ≤ cap
  spend_from_args : call.requestedSpendCents = none → ∀ path, call.argsPath = some path →
    resolveJsonPath call.arguments path ≠ .none

end SpendCall

theorem resolveSpendCentsFromJsonPath_eq_ok {arguments : PyValue} {path toolName : String}
    {amount : Option Int} :
    resolveSpendCentsFromJsonPath arguments path toolName = .ok amount ↔
      (resolveJsonPath arguments path = .none ∧ amount = none) ∨
        ∃ cents, 0 ≤ cents ∧ resolveJsonPath arguments path = .int cents ∧ amount = some cents := by
  unfold resolveSpendCentsFromJsonPath
  dsimp only
  split
  next hnone => simp [hnone, eq_comm]
  next cents hcents =>
    rw [hcents]
    by_cases hnegative : cents < 0
    · simp only [if_pos hnegative]
      constructor
      · intro h
        cases h
      · rintro (⟨h, -⟩ | ⟨cents', hnonneg, hsame, -⟩)
        · cases h
        · cases hsame
          exact absurd hnonneg (not_le.mpr hnegative)
    · simp only [if_neg hnegative]
      constructor
      · intro h
        cases h
        exact .inr ⟨cents, not_lt.mp hnegative, rfl, rfl⟩
      · rintro (⟨h, -⟩ | ⟨cents', -, hsame, rfl⟩)
        · cases h
        · cases hsame
          rfl
  next hother hothers =>
    constructor
    · intro h
      cases h
    · rintro (⟨h, -⟩ | ⟨cents', -, hsame, -⟩)
      · exact absurd h hother
      · exact absurd hsame (hothers cents')

namespace SpendCall

variable {call : SpendCall} {amount : Option Int}

theorem asked_nonneg_iff :
    0 ≤ call.asked amount ↔
      (∀ cents, amount = some cents → 0 ≤ cents) ∧ ∀ bound, call.sandbox = some bound → 0 ≤ bound := by
  unfold asked
  cases call.sandbox <;> cases amount <;> simp

theorem asked_le_sandbox {bound : Int} (hbound : call.sandbox = some bound) :
    call.asked amount ≤ bound := by
  unfold asked
  cases amount <;> simp [hbound]

theorem asked_le_iff {cents cap : Int} :
    call.asked (some cents) ≤ cap ↔ cents ≤ cap ∨ ∃ bound ≤ cap, call.sandbox = some bound := by
  unfold asked
  cases call.sandbox <;> simp

/-- Without a value at the path there is no amount. -/
theorem Yields.spend_from_args (hyields : call.Yields amount)
    (hrequested : call.requestedSpendCents = none) {path : String} (hpath : call.argsPath = some path) :
    (resolveJsonPath call.arguments path = .none ∧ amount = none) ∨
      ∃ cents, 0 ≤ cents ∧ resolveJsonPath call.arguments path = .int cents ∧
        amount = some cents := by
  have hcap : call.entry.maxSpendCents = none := by
    unfold argsPath at hpath
    split at hpath
    · cases hpath
    next hnone => simpa using hnone
  unfold Yields at hyields
  simp only [hrequested, hcap, hpath] at hyields
  obtain ⟨toolName, hresolve⟩ := hyields
  exact resolveSpendCentsFromJsonPath_eq_ok.mp hresolve

theorem Yields.requested {cents : Int} (hyields : call.Yields amount)
    (hrequested : call.requestedSpendCents = some cents) : amount = some cents := by
  unfold Yields at hyields
  simpa only [hrequested] using hyields

theorem Yields.max_spend_cents {cap : Int} (hyields : call.Yields amount)
    (hrequested : call.requestedSpendCents = none) (hcap : call.entry.maxSpendCents = some cap) :
    amount = some cap := by
  unfold Yields at hyields
  simpa only [hrequested, hcap] using hyields

/-- A call that is not covered at its arguments asks for an amount that nothing yields. -/
theorem Yields.nonneg (hyields : call.Yields amount) (hcovered : call.Covered) (cents : Int)
    (hamount : amount = some cents) : 0 ≤ cents := by
  cases hrequested : call.requestedSpendCents with
  | some requested =>
      cases (hyields.requested hrequested).symm.trans hamount
      exact (hcovered.requested cents hrequested).1
  | none =>
      cases hcap : call.entry.maxSpendCents with
      | some cap =>
          cases (hyields.max_spend_cents hrequested hcap).symm.trans hamount
          exact hcovered.max_spend_cents hrequested cents hcap
      | none =>
          cases hpath : call.argsPath with
          | some path =>
              rcases hyields.spend_from_args hrequested hpath with ⟨-, hnone⟩ | ⟨c, hc, -, hsome⟩
              · cases hnone.symm.trans hamount
              · cases hsome.symm.trans hamount
                exact hc
          | none =>
              unfold Yields at hyields
              simp only [hrequested, hcap, hpath] at hyields
              cases hyields.symm.trans hamount

/-- What is asked is within the policy exactly when the call is covered. -/
theorem withinPolicy_iff (hyields : call.Yields amount) :
    call.WithinPolicy (call.asked amount) ↔ call.Covered := by
  constructor
  · intro hwithin
    obtain ⟨hamount, hsandbox⟩ := asked_nonneg_iff.mp hwithin.nonneg
    refine ⟨hsandbox, fun cents hrequested => ?_, fun hrequested cap hcap => ?_,
      fun hrequested path hpath hnone => ?_⟩
    · have hsome := hyields.requested hrequested
      refine ⟨hamount cents hsome, fun cap hcap => ?_⟩
      have hle := hwithin.max_spend_cents cap hcap
      rw [hsome] at hle
      exact asked_le_iff.mp hle
    · exact hamount cap (hyields.max_spend_cents hrequested hcap)
    · obtain ⟨cents, -, hcents⟩ := hwithin.spend_from_args hrequested path hpath
      cases hnone.symm.trans hcents
  · intro hcovered
    refine ⟨asked_nonneg_iff.mpr ⟨hyields.nonneg hcovered, hcovered.sandbox⟩, fun cap hcap => ?_,
      fun bound hbound => asked_le_sandbox hbound, fun hrequested path hpath => ?_⟩
    · cases hrequested : call.requestedSpendCents with
      | some cents =>
          rw [hyields.requested hrequested]
          exact asked_le_iff.mpr ((hcovered.requested cents hrequested).2 cap hcap)
      | none =>
          rw [hyields.max_spend_cents hrequested hcap]
          exact asked_le_iff.mpr (.inl le_rfl)
    · rcases hyields.spend_from_args hrequested hpath with ⟨hnone, -⟩ | ⟨cents, hcents, hvalue, -⟩
      · exact absurd hnone (hcovered.spend_from_args hrequested path hpath)
      · exact ⟨cents, hcents, hvalue⟩

/-- What a registered rule yields. A resolver of the host may yield anything. -/
def RuleYields (arguments : PyValue) (amount : Option Int) : Option SpendRule → Prop
  | none => amount = none
  | some (.cents cents) => amount = some cents
  | some (.jsonPath path toolName) =>
      resolveSpendCentsFromJsonPath arguments path toolName = .ok amount
  | some (.resolver _) => True

/-- The registered rule of a policy's tool yields the amounts that the policy says. -/
theorem yields_of_rule {toolName : String} (hnone : call.requestedSpendCents = none)
    (hamount : RuleYields call.arguments amount
      (toolRegistryPolicy toolName call.entry).spendCents) : call.Yields amount := by
  unfold Yields argsPath
  dsimp only [toolRegistryPolicy] at hamount
  cases hcap : call.entry.maxSpendCents with
  | some cap =>
      rw [hcap] at hamount
      simpa only [hnone, RuleYields] using hamount
  | none =>
      cases hpath : truthyStr call.entry.spendFromArgs with
      | some path =>
          rw [hcap, hpath] at hamount
          simp only [hnone]
          exact ⟨toolName, hamount⟩
      | none =>
          rw [hcap, hpath] at hamount
          simpa [hnone, RuleYields] using hamount

end SpendCall

/-! ## The interceptor and the gate -/

section Claim

/-- A call of the interceptor for a tool of a policy. -/
def interceptorSpend (binding : PaybondRunBinding) (input : ToolCallInput)
    (entry : PaybondPolicyToolEntry) : SpendCall where
  entry := entry
  requestedSpendCents := input.requestedSpendCents
  arguments := input.arguments
  sandbox := binding.sandbox.map (·.requestedSpendCents)

/-- A call of the gate, which knows of no sandbox. -/
def gateSpendCall (input : McpPolicySpendGateInput) (entry : PaybondPolicyToolEntry) :
    SpendCall where
  entry := entry
  requestedSpendCents := input.requestedSpendCents
  arguments := input.arguments
  sandbox := none

theorem asked_interceptorSpend (binding : PaybondRunBinding) (input : ToolCallInput)
    (entry : PaybondPolicyToolEntry) (amount : Option Int) :
    (interceptorSpend binding input entry).asked amount =
      (boundBySandbox binding amount).getD 0 := by
  unfold SpendCall.asked interceptorSpend boundBySandbox
  cases binding.sandbox <;> cases amount <;> rfl

/-- What the interceptor asks for is what the call yields, within the sandbox. -/
theorem withinPolicy_of_asksFor {binding : PaybondRunBinding} {request : SpendRequest}
    {input : ToolCallInput} {toolName : String} {entry : PaybondPolicyToolEntry}
    {registered : PaybondSideEffectingToolEntry}
    (hrule : registered.spendCents = (toolRegistryPolicy toolName entry).spendCents)
    (hasks : request.AsksFor binding input registered) :
    (interceptorSpend binding input entry).WithinPolicy request.requestedSpendCents ↔
      (interceptorSpend binding input entry).Covered := by
  obtain ⟨-, amount, hspends, hrequested⟩ := hasks
  rw [hrequested, ← asked_interceptorSpend binding input entry]
  refine SpendCall.withinPolicy_iff ?_
  unfold ToolCallInput.Spends at hspends
  cases hinput : input.requestedSpendCents with
  | some cents =>
      rw [hinput] at hspends
      unfold SpendCall.Yields interceptorSpend
      simpa only [hinput] using hspends
  | none =>
      refine @SpendCall.yields_of_rule (interceptorSpend binding input entry) amount toolName
        hinput ?_
      change SpendCall.RuleYields input.arguments amount (toolRegistryPolicy toolName entry).spendCents
      rw [← hrule]
      rw [hinput] at hspends
      generalize registered.spendCents = rule at hspends ⊢
      rcases rule with _ | (cents | ⟨path, tool⟩ | callback)
      · exact hspends
      · exact hspends
      · exact hspends
      · trivial

theorem withinPolicy_of_gateAmount {resolve : Callback → PyValue → Except PyExc (Option Int)}
    {registry : PaybondToolRegistry} {input : McpPolicySpendGateInput} {toolName : String}
    {entry : PaybondPolicyToolEntry} {registered : PaybondSideEffectingToolEntry} {cents : Int}
    (hregistered : registry.sideEffecting.get? input.lookupName = some registered)
    (hrule : registered.spendCents = (toolRegistryPolicy toolName entry).spendCents)
    (hamount : gateAmount resolve registry input = .ok cents) :
    (gateSpendCall input entry).WithinPolicy cents ↔ (gateSpendCall input entry).Covered := by
  have hasked : ∃ amount, (gateSpendCall input entry).Yields amount ∧
      cents = (gateSpendCall input entry).asked amount := by
    unfold gateAmount at hamount
    cases hinput : input.requestedSpendCents with
    | some requested =>
        rw [hinput] at hamount
        cases hamount
        refine ⟨some cents, ?_, rfl⟩
        simp only [SpendCall.Yields, gateSpendCall, hinput]
    | none =>
        rw [hinput] at hamount
        obtain ⟨amount, hresolved, rfl⟩ := except_map_eq_ok.mp hamount
        refine ⟨amount, @SpendCall.yields_of_rule (gateSpendCall input entry) amount toolName
          hinput ?_, rfl⟩
        change SpendCall.RuleYields input.arguments amount
          (toolRegistryPolicy toolName entry).spendCents
        rw [← hrule]
        rw [registrySpendCents, hregistered, Option.bind_some] at hresolved
        generalize registered.spendCents = rule at hresolved ⊢
        rcases rule with _ | (cents | ⟨path, tool⟩ | callback)
        · exact (Except.ok.inj hresolved).symm
        · exact (Except.ok.inj hresolved).symm
        · exact hresolved
        · trivial
  obtain ⟨amount, hyields, rfl⟩ := hasked
  exact SpendCall.withinPolicy_iff hyields

/-- What the interceptor asks Harbor for in a run is within the policy of the registry
that the tool was looked up in exactly when the call is covered. -/
def InterceptorAsksWithin (platform : Platform) (binding : PaybondRunBinding)
    (trace : List AgentEntry) : Prop :=
  ∀ first step second request, trace = first ++ step :: second →
    step.event = .issued (.host (.verifyCapability request)) → step.call.UsesInterceptor →
      ∃ input looked, (step.call = .authorizeToolCall input ∨ step.call = .wrapExecute input) ∧
        (callRecorder.view first step.task).resolvedIn = some looked ∧
          ∀ document, policyToToolRegistry platform.catalog document = .ok looked.registry →
            ∃ entry, document.tools.get? (pyStrip input.toolName) = some entry ∧
              entry.sideEffecting = true ∧
                ((interceptorSpend binding input entry).WithinPolicy request.requestedSpendCents ↔
                  (interceptorSpend binding input entry).Covered)

/-- What the gate answers for a side-effecting tool of its policy is within the policy
exactly when the call is covered. -/
def GateAsksWithin (catalog : CompletionCatalog) : Prop :=
  ∀ resolve gate snapshot input result document entry, gate.snapshot = some snapshot →
    policyToToolRegistry catalog document = .ok snapshot.registry →
      document.tools.get? input.lookupName = some entry → entry.sideEffecting = true →
        (assertSpendGate resolve gate input).1 = .ok result →
          ((gateSpendCall input entry).WithinPolicy result.requestedSpendCents ↔
            (gateSpendCall input entry).Covered)

theorem gateAsksWithin (catalog : CompletionCatalog) : GateAsksWithin catalog := by
  intro resolve gate snapshot input result document entry hloaded hregistry hentry hside hreturns
  rcases gateSpend_cases (gateSpend_of_assertSpendGate hloaded hreturns) with
    ⟨registered, hregistered, -, -, hamount⟩ | ⟨hnone, -⟩
  · obtain ⟨found, hfound, -, -, hrule⟩ := policyToToolRegistry_get? hregistry hregistered
    obtain rfl : found = entry := Option.some.inj (hfound.symm.trans hentry)
    exact withinPolicy_of_gateAmount hregistered hrule hamount
  · have hregistered := (policyToToolRegistry_contains hregistry input.lookupName).mpr
      ⟨entry, hentry, hside⟩
    rw [OrderedDict.contains, hnone] at hregistered
    cases hregistered

theorem interceptorAsksWithin {platform : Platform} {binding : PaybondRunBinding}
    {init state : RunState} {trace : List AgentEntry}
    (hbehaves : runMachine.Behaves (agentProtocol platform binding) init trace state) :
    InterceptorAsksWithin platform binding trace := by
  intro first step second request htrace hevent huses
  obtain ⟨-, -, -, hallowed⟩ := hbehaves.split htrace
  obtain ⟨⟨before, event⟩, task, call⟩ := step
  obtain rfl : event = _ := hevent
  have hask : AskAllowed binding call (callRecorder.view first task) request := hallowed.2.2.2
  obtain ⟨input, operation, registered, hcall, ⟨looked, hlooked, hresolution⟩, hasks⟩ := hask huses
  refine ⟨input, looked, hcall, hlooked, fun document hregistry => ?_⟩
  obtain ⟨-, hregistered⟩ := PaybondToolRegistry.resolveTool_eq_sideEffecting hresolution
  obtain ⟨entry, hentry, hside, -, hrule⟩ := policyToToolRegistry_get? hregistry hregistered
  exact ⟨entry, hentry, hside, withinPolicy_of_asksFor hrule hasks⟩

/-- Whatever the interceptor or the gate asks for is within the policy exactly when the
call is covered. -/
theorem asks_withinPolicy_iff (platform : Platform) (binding : PaybondRunBinding)
    (init : RunState) (actions : List (Action AgentCall runMachine)) :
    InterceptorAsksWithin platform binding (runAgent platform binding init actions).trace ∧
      GateAsksWithin platform.catalog :=
  ⟨interceptorAsksWithin (runAgent_sound platform binding init actions).behaves,
    gateAsksWithin platform.catalog⟩

end Claim

/-! ## A caller's amount, and a fare that is missing -/

/-- The hotel, at the price that the caller names. -/
def hotelAt (cents : Int) : ToolCallInput :=
  { bookHotel "call" with requestedSpendCents := some cents }

def stateFares : RunState :=
  .bind registryTravel gateFares.snapshot

/-- The capability is asked for in the trace, at the given amount. -/
def AsksCents (cents : Int) : AgentEvent → Prop
  | .issued (.host (.verifyCapability request)) => request.requestedSpendCents = cents
  | _ => False

instance (cents : Int) : DecidablePred (AsksCents cents) := fun event => by
  unfold AsksCents
  split <;> infer_instance

/-- Book a flight, whose arguments have no fare. -/
def gateFlight : McpPolicySpendGateInput where
  operation := "travel.book_flight"
  allowedTools := ["travel.book_flight"]

/-- The caller's amount goes beyond the cap of the hotel, and a flight without a fare is
let pass for nothing. -/
theorem asks_beyond_policy :
    (∃ entry, faresPolicy.tools.get? "travel.book_hotel" = some entry ∧
      (∃ step ∈ (runAgent platformTravel { bindingTravel with sandbox := none } stateFares
          [.start (.authorizeToolCall (hotelAt 50000)) (hostChoices (decidingHost "decision"))]).trace,
        AsksCents 50000 step.event) ∧
      ¬(interceptorSpend { bindingTravel with sandbox := none } (hotelAt 50000) entry).WithinPolicy
        50000) ∧
    ∃ entry result, faresPolicy.tools.get? "travel.book_flight" = some entry ∧
      (assertSpendGate (fun _ _ => .ok none) gateFares gateFlight).1 = .ok result ∧
        ¬(gateSpendCall gateFlight entry).WithinPolicy result.requestedSpendCents := by
  refine ⟨⟨_, rfl, by decide +kernel, fun hwithin => ?_⟩, _, _, rfl, rfl, fun hwithin => ?_⟩
  · exact absurd (hwithin.max_spend_cents 15000 rfl) (by decide)
  · obtain ⟨yielded, -, hyielded⟩ := hwithin.spend_from_args rfl "fare.cents" (by decide)
    cases hyielded

end PaybondKit.Agent
