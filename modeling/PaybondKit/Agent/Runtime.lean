import PaybondKit.Agent.AuthorizationCache
import PaybondKit.Agent.Registry
import PaybondKit.Foundation.EventLoop

/-!
# The state of an agent run

One agent run has a bound registry and policy snapshot that reloads swap, an
authorization cache, and a count of the tool calls in flight. Everything else a
coroutine of the run asks for is answered by its host: the handlers, the trace
sink, Harbor, the gateway, the file system and the clocks.
-/

namespace PaybondKit.Agent

open Policy

/-- The fields of a policy snapshot that the run reads. -/
structure PaybondPolicySnapshot where
  digest : String
  registry : PaybondToolRegistry
  document : PaybondPolicyDocumentV1

structure RunState where
  registry : PaybondToolRegistry
  policySnapshot : Option PaybondPolicySnapshot
  currentSnapshot : Option PaybondPolicySnapshot
  authorizedCalls : AuthorizationCache
  inFlightCount : ℕ
  /-- The reload controller is at work. -/
  reloadInFlight : Bool
  /-- The last reading of the monotonic clock, in nanoseconds. -/
  monotonic : ℕ

/-- `PaybondAgentRun.bind`: a snapshot brings its own registry. -/
def RunState.bind (registry : PaybondToolRegistry) (snapshot : Option PaybondPolicySnapshot) :
    RunState where
  registry := (snapshot.map (·.registry)).getD registry
  policySnapshot := snapshot
  currentSnapshot := snapshot
  authorizedCalls := .empty
  inFlightCount := 0
  reloadInFlight := false
  monotonic := 0

/-! ## Accesses to the state -/

inductive Access where
  | beginInFlight
  | endInFlight
  | readInFlightCount
  | readRegistry
  | readCurrentSnapshot
  | applyPolicySnapshot (snapshot : PaybondPolicySnapshot)
  | beginTriggeredReload
  | endTriggeredReload
  | evictExpiredAuthorizationCache
  | monotonicTime
  | timeMs
  | perfCounter
  | loopTime
  | storeAuthorization (cacheKey : String) (entry : CachedAuthorizationEntry)
  | takeValidCachedAuthorization (cacheKey : String) (expected : AuthorizationCacheExpectation)

@[reducible] def Access.Answer : Access → Type
  | .beginInFlight => Option String
  | .readInFlightCount => ℕ
  | .readRegistry => PaybondToolRegistry
  | .readCurrentSnapshot => Option PaybondPolicySnapshot
  | .evictExpiredAuthorizationCache | .monotonicTime | .timeMs | .perfCounter | .loopTime => ℕ
  | .takeValidCachedAuthorization _ _ => Option CachedAuthorizationEntry
  | .beginTriggeredReload => Bool
  | .endInFlight | .applyPolicySnapshot _ | .endTriggeredReload | .storeAuthorization _ _ => Unit

/-- `elapsed` is the time since the last reading of the monotonic clock, which never
goes back. The other clocks may show anything; all but `timeMs` count nanoseconds. -/
def Access.run (elapsed : ℕ) (state : RunState) : (access : Access) → access.Answer × RunState
  | .beginInFlight =>
      (state.policySnapshot.map (·.digest),
        { state with inFlightCount := state.inFlightCount + 1 })
  | .endInFlight => ((), { state with inFlightCount := state.inFlightCount - 1 })
  | .readInFlightCount => (state.inFlightCount, state)
  | .readRegistry => (state.registry, state)
  | .readCurrentSnapshot => (state.currentSnapshot, state)
  | .applyPolicySnapshot snapshot =>
      ((), { state with registry := snapshot.registry
                        policySnapshot := some snapshot
                        currentSnapshot := some snapshot })
  | .beginTriggeredReload => (state.reloadInFlight, { state with reloadInFlight := true })
  | .endTriggeredReload => ((), { state with reloadInFlight := false })
  | .evictExpiredAuthorizationCache =>
      let now := state.monotonic + elapsed
      (now, { state with monotonic := now
                         authorizedCalls :=
                           Agent.evictExpiredAuthorizationCache state.authorizedCalls now })
  | .monotonicTime =>
      let now := state.monotonic + elapsed
      (now, { state with monotonic := now })
  | .timeMs | .perfCounter | .loopTime => (elapsed, state)
  | .storeAuthorization cacheKey entry =>
      ((), { state with authorizedCalls := state.authorizedCalls.set cacheKey entry })
  | .takeValidCachedAuthorization cacheKey expected =>
      let now := state.monotonic + elapsed
      let taken := Agent.takeValidCachedAuthorization state.authorizedCalls cacheKey expected now
      (taken.1, { state with monotonic := now, authorizedCalls := taken.2 })

/-! ## Calls to the host -/

/-- Whose handler is invoked, and for what. -/
inductive Invocation where
  | passthrough (toolName toolCallId : String)
  | intercepted (toolCallId toolName operation : String) (requestedSpendCents : Option Int)
  | guarded (operation : String) (requestedSpendCents : Int)
  deriving DecidableEq, Repr

/-- What a handler that does not raise gives back: a result, or something to await. -/
inductive HandlerReturn where
  | value (result : PyValue)
  | awaitable

/-- What the sandbox answers to an evidence submission. -/
structure SandboxEvidenceResult where
  intentId : String
  predicatePassed : Option Bool := none
  sandboxLifecycleStatus : Option String := none
  payloadDigest : Option String := none
  artifactsDigest : Option String := none
  agentReceipt : PyValue := .none
  agentReceiptIntentTerminal : PyValue := .none

/-- What the gateway answers to an effective-policy resolution. -/
structure PolicyEffectiveResolveResult where
  effectivePolicy : PyValue
  effectivePolicyDigest : String
  unchanged : Bool := false

structure PolicyRemoteValidateIssue where
  path : String
  code : String
  message : String
  deriving DecidableEq, Repr

structure PolicyRemoteValidateResult where
  valid : Bool
  errors : List PolicyRemoteValidateIssue := []
  deriving DecidableEq, Repr

/-- The listeners of a run that hear about reloads. -/
inductive ReloadEvent where
  | policyReloaded (previousDigest newDigest : String)
  | policyReloadFailed (error : PyExc)

inductive HostCall where
  | emitTrace (event : TraceEvent)
  | resolveSpendCents (resolver : Callback) (arguments : PyValue)
  | execute (invocation : Invocation)
  | awaitHandler (invocation : Invocation)
  | verifyCapability (request : SpendRequest)
  | completeSpend (decisionId : String) (outcome : SpendOutcome)
  | mapExternalAttestations (mapper : Callback) (toolResult : PyValue)
      (ctx : PaybondToolCallContext)
  | buildEvidencePayload (entry : PaybondSideEffectingToolEntry) (toolResult : PyValue)
      (ctx : PaybondToolCallContext)
  | submitSandboxEvidence (intentId : String) (payload : PyValue) (operation : String)
      (requestedSpendCents : Option Int) (metadata : List (String × PyValue))
      (idempotencyKey : String)
  | signEvidence (intentId : String) (payload : PyValue)
  | submitEvidence (intentId : String) (wire : PyValue) (idempotencyKey : String)
  | sleep
  | isStrictFromEnv
  | readPolicyFile (path : String)
  | readBasePolicyFile (sourcePath basePath : String)
  | resolvePolicyEffective (orgPolicyId : String) (overlay : PyValue)
      (currentDigest : Option String)
  | validatePolicyRemote (document : PaybondPolicyDocumentV1) (resolveInheritance strict : Bool)
  | emitReload (event : ReloadEvent)

@[reducible] def HostCall.Answer : HostCall → Type
  | .emitTrace _ | .completeSpend _ _ | .sleep | .emitReload _ => Unit
  | .resolveSpendCents _ _ => Option Int
  | .execute _ => HandlerReturn
  | .awaitHandler _ => PyValue
  | .verifyCapability _ => VerifyCapabilityResult
  | .mapExternalAttestations _ _ _ => List PyValue
  | .buildEvidencePayload _ _ _ | .signEvidence _ _ | .submitEvidence _ _ _ => PyValue
  | .submitSandboxEvidence _ _ _ _ _ _ => SandboxEvidenceResult
  | .isStrictFromEnv => Bool
  | .readPolicyFile _ | .readBasePolicyFile _ _ => PyValue
  | .resolvePolicyEffective _ _ _ => PolicyEffectiveResolveResult
  | .validatePolicyRemote _ _ _ => PolicyRemoteValidateResult

/-- The calls that are awaited. -/
def HostCall.awaits : HostCall → Bool
  | .awaitHandler _ | .verifyCapability _ | .completeSpend _ _
  | .submitSandboxEvidence _ _ _ _ _ _ | .submitEvidence _ _ _ | .sleep
  | .resolvePolicyEffective _ _ _ | .validatePolicyRemote _ _ _ => true
  | _ => false

/-! ## The machine -/

inductive Op where
  | access (access : Access)
  | host (call : HostCall)

@[reducible] def Val : Op → Type
  | .access access => access.Answer
  | .host call => call.Answer

/-- The host answers a call with a value or an exception; an access happens some
time after the last one. -/
@[reducible] def Choice : Op → Type
  | .access _ => ℕ
  | .host call => Except PyExc call.Answer

def runMachine : Machine Val PyExc RunState where
  suspends
    | .access _ => false
    | .host call => call.awaits
  Choice := Choice
  apply
    | .access access, elapsed, state =>
        (.ok (access.run elapsed state).1, (access.run elapsed state).2)
    | .host _, answer, state => (answer, state)

section Moves

variable {ρ : Type} {before after : RunState}

/-- An access is made at some clock reading. -/
theorem moves_access {op : Access} {answer : Except PyExc op.Answer} :
    runMachine.Moves (⟨before, .completed (.access op) answer⟩ : Step Val PyExc ρ RunState) after ↔
      ∃ elapsed, answer = .ok (op.run elapsed before).1 ∧ after = (op.run elapsed before).2 := by
  constructor
  · rintro ⟨elapsed, happly⟩
    obtain ⟨hanswer, hafter⟩ := Prod.mk.inj happly
    exact ⟨elapsed, hanswer.symm, hafter.symm⟩
  · rintro ⟨elapsed, rfl, rfl⟩
    exact ⟨elapsed, rfl⟩

/-- The host does not change the state of the run. -/
theorem moves_host {call : HostCall} {answer : Except PyExc call.Answer}
    (hmoves : runMachine.Moves
      (⟨before, .completed (.host call) answer⟩ : Step Val PyExc ρ RunState) after) :
    after = before := by
  obtain ⟨choice, happly⟩ := hmoves
  exact (Prod.mk.inj happly).2.symm

end Moves

/-- The coroutines of an agent run. -/
abbrev Routine := Coroutine Val PyExc

def access (access : Access) : Routine access.Answer := Coroutine.call (Op.access access)

def host (call : HostCall) : Routine call.Answer := Coroutine.call (Op.host call)

/-- `raise exception`. -/
def raise {α : Type} (exception : PyExc) : Routine α := Coroutine.raise exception

/-! ## Proof rules -/

section Rules

variable {γ ρ : Type} {record : γ → Step Val PyExc ρ RunState → γ}
variable {allowed : γ → Step Val PyExc ρ RunState → Prop} {view : γ} {state : RunState}

/-- An access acts on the state it is made in and does not raise. -/
theorem follows_access {op : Access} {post : Except PyExc op.Answer → γ → RunState → Prop} :
    (access op).Follows runMachine record allowed post view state ↔
      ∀ elapsed : ℕ,
        allowed view ⟨state, .completed (.access op) (.ok (op.run elapsed state).1)⟩ ∧
          post (.ok (op.run elapsed state).1)
            (record view ⟨state, .completed (.access op) (.ok (op.run elapsed state).1)⟩)
            (op.run elapsed state).2 :=
  Coroutine.follows_call_sync rfl

/-- A synchronous call to the host leaves the state of the run alone. -/
theorem follows_host {call : HostCall} (hsync : call.awaits = false)
    {post : Except PyExc call.Answer → γ → RunState → Prop} :
    (host call).Follows runMachine record allowed post view state ↔
      ∀ answer : Except PyExc call.Answer,
        allowed view ⟨state, .completed (.host call) answer⟩ ∧
          post answer (record view ⟨state, .completed (.host call) answer⟩) state :=
  Coroutine.follows_call_sync hsync

/-- The state may have changed in any way when an awaited answer arrives. -/
theorem follows_await {call : HostCall} (hawait : call.awaits = true)
    {post : Except PyExc call.Answer → γ → RunState → Prop} :
    (host call).Follows runMachine record allowed post view state ↔
      allowed view ⟨state, .issued (.host call)⟩ ∧
        ∀ (resumed : RunState) (answer : Except PyExc call.Answer),
          allowed (record view ⟨state, .issued (.host call)⟩)
              ⟨resumed, .completed (.host call) answer⟩ ∧
            post answer
              (record (record view ⟨state, .issued (.host call)⟩)
                ⟨resumed, .completed (.host call) answer⟩)
              resumed :=
  Coroutine.follows_call_await hawait

end Rules

end PaybondKit.Agent
