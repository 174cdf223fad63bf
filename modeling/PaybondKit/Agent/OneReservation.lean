import PaybondKit.Agent.Adapter
import PaybondKit.Agent.GatewayRetry
import PaybondKit.Agent.Idle

/-!
# One reservation for a call

A call of the interceptor asks Harbor at most once, under the caller's idempotency key.
How often the gateway reserves for it is then decided by the attempts of this one
request.
-/

namespace PaybondKit.Agent

open Coroutine

/-- The request of an operation that asks Harbor. -/
def asked? : Op → Option SpendRequest
  | .host (.verifyCapability request) => some request
  | _ => none

/-- The routine asks Harbor for nothing. -/
abbrev NeverAsks {α : Type} (program : Routine α) : Prop :=
  program.Avoids fun op => (asked? op).isSome = true

/-- The routine asks Harbor at most once. -/
abbrev AsksOnce {α : Type} (program : Routine α) : Prop :=
  program.PerformsOnce fun op => (asked? op).isSome = true

/-! ## The interceptor's routines -/

section Routines

variable {platform : Platform} {binding : PaybondRunBinding}

theorem Idle.neverAsks {α : Type} {program : Routine α} (hidle : Idle program) :
    NeverAsks program := by
  refine hidle.mono fun op hasked => ?_
  unfold asked? at hasked
  split at hasked
  · trivial
  · cases hasked

theorem neverAsks_access (op : Access) : NeverAsks (access op) :=
  avoids_call (by simp [asked?])

theorem neverAsks_host {call : HostCall} (hcall : asked? (.host call) = none) :
    NeverAsks (host call) :=
  avoids_call (by simp [hcall])

theorem neverAsks_submitAutoEvidence (entry : PaybondSideEffectingToolEntry)
    (ctx : PaybondToolCallContext) (cents : Option Int) (toolResult : PyValue)
    (auth : VerifyCapabilityResult) :
    NeverAsks (submitAutoEvidence platform binding entry ctx cents toolResult auth) := by
  refine avoids_bind (avoids_tryExcept (neverAsks_host rfl) fun exception => ?_) fun payload => ?_
  · split <;> trivial
  · refine avoids_tryExcept ?_ fun exception => ?_
    · unfold submitEvidence
      dsimp only
      split
      · exact avoids_bind (neverAsks_host rfl) fun _ => trivial
      · split
        · trivial
        · exact avoids_bind (neverAsks_host rfl) fun _ =>
            avoids_bind (neverAsks_host rfl) fun _ => trivial
    · split
      · trivial
      · split <;> trivial

theorem neverAsks_reportExecution (toolName toolCallId : String) (input : ToolCallInput)
    (resolved : ResolvedCall) (authorized : AuthorizedCall) (startedAt : ℕ) (toolResult : PyValue) :
    NeverAsks (reportExecution platform binding toolName toolCallId input resolved authorized
      startedAt toolResult) :=
  avoids_bind (idle_resolveToolExternalAttestations _ _ _).neverAsks fun _ =>
    avoids_bind (neverAsks_submitAutoEvidence _ _ _ _ _) fun _ =>
      avoids_bind (neverAsks_host rfl) fun _ =>
        avoids_bind (idle_buildReceiptDraft _).neverAsks fun _ => trivial

theorem asksOnce_assertSpendAuthorized (request : SpendRequest) :
    AsksOnce (assertSpendAuthorized request) := by
  refine performsOnce_bind (performsOnce_call _) fun result => ?_
  split
  · trivial
  · split <;> trivial

theorem asksOnce_authorizeToolCall (input : ToolCallInput) :
    AsksOnce (authorizeToolCall binding input) := by
  refine performsOnce_bind_right (idle_requireToolCall input).neverAsks fun _ => ?_
  refine performsOnce_bind_right (neverAsks_access _) fun pinnedDigest => ?_
  refine performsOnce_tryFinally ?_ (neverAsks_access _)
  refine performsOnce_bind_right (neverAsks_access _) fun registry => ?_
  split
  · trivial
  · trivial
  · refine performsOnce_bind_right (avoids_tryExcept (avoids_bind
      (idle_resolveSideEffectingCall _ _ _ _ _).neverAsks fun _ => avoids_ret _) fun exception => ?_)
      fun resolution => ?_
    · split <;> trivial
    cases resolution with
    | inl decision => trivial
    | inr resolved =>
        refine performsOnce_bind_right (neverAsks_host rfl) fun _ => performsOnce_bind
          (performsOnce_tryExcept (performsOnce_bind (asksOnce_assertSpendAuthorized _)
            fun _ => avoids_ret _) fun exception => avoids_bind (idle_decideRefusal _ _ _).neverAsks
              fun _ => avoids_ret _) fun answer => ?_
        cases answer with
        | inl decision => trivial
        | inr auth =>
            exact avoids_bind (idle_cacheAuthorization _ _ _ _ _).neverAsks fun _ =>
              avoids_bind (neverAsks_host rfl) fun _ => trivial

theorem asksOnce_wrapExecute (input : ToolCallInput) :
    AsksOnce (wrapExecute platform binding input) := by
  refine performsOnce_bind_right (idle_requireToolCall input).neverAsks fun _ => ?_
  refine performsOnce_bind_right (neverAsks_access _) fun pinnedDigest => ?_
  refine performsOnce_tryFinally ?_ (neverAsks_access _)
  refine performsOnce_bind_right (neverAsks_access _) fun registry => ?_
  split
  · exact (avoids_bind (idle_maybeAwait _).neverAsks fun _ => avoids_ret _).performsOnce
  · trivial
  · refine performsOnce_bind_right (idle_resolveSideEffectingCall _ _ _ _ _).neverAsks
      fun resolved => ?_
    refine performsOnce_bind_right (neverAsks_host rfl) fun _ => performsOnce_bind ?_ fun _ => ?_
    · refine performsOnce_bind_right (neverAsks_access _) fun cached => ?_
      split
      · trivial
      · exact performsOnce_bind (asksOnce_assertSpendAuthorized _) fun _ =>
          avoids_bind (neverAsks_access _) fun _ =>
            avoids_bind (neverAsks_host rfl) fun _ => trivial
    · exact avoids_bind (neverAsks_access _) fun _ => avoids_bind (neverAsks_access _) fun _ =>
        avoids_bind (idle_executeAndFinalize _ _ _ _ _).neverAsks fun _ =>
          neverAsks_reportExecution _ _ _ _ _ _ _

end Routines

/-! ## Runs -/

section Runs

variable {platform : Platform} {binding : PaybondRunBinding}

/-- The calls of the interceptor ask at most once; nothing is said of the others. -/
abbrev asksOnceProtocol : LocalSpec AgentCall Bool Val PyExc AgentOutcome RunState :=
  onceSpec asked? AgentCall.UsesInterceptor

theorem program_asksOnce (call : AgentCall) :
    (program platform binding call).Obeys runMachine asksOnceProtocol call := by
  intro state
  by_cases huses : call.UsesInterceptor
  · refine follows_of_performsOnce ?_ rfl fun _ _ _ _ h => nomatch h
    cases call with
    | authorizeToolCall input =>
        exact performsOnce_bind (asksOnce_authorizeToolCall input) fun _ => avoids_ret _
    | wrapExecute input =>
        exact performsOnce_bind (asksOnce_wrapExecute input) fun _ => avoids_ret _
    | _ => exact huses.elim
  · exact follows_of_not_calls huses fun _ _ _ h => absurd h huses

/-- What a task has asked Harbor for. -/
def verifyRequests (trace : List AgentEntry) (task : ℕ) : List SpendRequest :=
  issued asked? (history trace task)

/-- A request that was handed over, at its step. -/
theorem exists_issued_of_mem {trace : List AgentEntry} {task : ℕ} {request : SpendRequest}
    (hrequest : request ∈ verifyRequests trace task) :
    ∃ entry ∈ trace, entry.task = task ∧
      entry.event = .issued (.host (.verifyCapability request)) := by
  obtain ⟨step, hstep, hissued⟩ := List.mem_filterMap.mp hrequest
  obtain ⟨entry, hentry, htask, rfl⟩ := mem_history.mp hstep
  refine ⟨entry, hentry, htask, ?_⟩
  unfold issued? asked? at hissued
  split at hissued
  next op hevent =>
    split at hissued
    · cases hissued
      exact hevent
    · cases hissued
  · cases hissued

end Runs

section Claim

variable (platform : Platform) (binding : PaybondRunBinding) (init : RunState)
variable (actions : List (Action AgentCall runMachine))

/-- A call of the interceptor asks Harbor at most once, under the caller's idempotency
key. -/
theorem verifyRequests_cases {task : ℕ} {input : ToolCallInput}
    (hcall : IsCall (runAgent platform binding init actions).trace task fun call =>
      call = .authorizeToolCall input ∨ call = .wrapExecute input) :
    verifyRequests (runAgent platform binding init actions).trace task = [] ∨
      ∃ request, verifyRequests (runAgent platform binding init actions).trace task = [request] ∧
        request.idempotencyKey = input.idempotencyKey := by
  obtain ⟨first, hfirst, rfl, hinput⟩ := hcall
  have hbehaves := (runAgent_sound platform binding init actions).behaves
  have hcalls : ∀ entry ∈ (runAgent platform binding init actions).trace,
      entry.task = first.task → entry.call = .authorizeToolCall input ∨
        entry.call = .wrapExecute input := by
    intro entry hentry htask
    rwa [hbehaves.call_eq hentry hfirst htask]
  have huses : ∀ entry ∈ (runAgent platform binding init actions).trace,
      entry.task = first.task → entry.call.UsesInterceptor := by
    intro entry hentry htask
    rcases hcalls entry hentry htask with hcall | hcall <;> rw [hcall] <;> trivial
  have hlength := issued_length_le_one
    (Loop.run_sound (@program_asksOnce platform binding) init actions).behaves huses
  cases hrequests : verifyRequests (runAgent platform binding init actions).trace first.task with
  | nil => exact .inl rfl
  | cons request rest =>
      have hrest : rest = [] := by
        have hcons : (request :: rest).length ≤ 1 := hrequests ▸ hlength
        simpa using hcons
      refine .inr ⟨request, by rw [hrest], ?_⟩
      obtain ⟨entry, hentry, htask, hevent⟩ := @exists_issued_of_mem _ first.task request
        (by rw [hrequests]; exact List.mem_cons_self)
      obtain ⟨before, after, htrace⟩ := List.append_of_mem hentry
      obtain ⟨-, -, -, hallowed⟩ := hbehaves.split htrace
      have huse := huses entry hentry htask
      have hinput' := hcalls entry hentry htask
      obtain ⟨⟨_, event⟩, _, call⟩ := entry
      obtain rfl : event = _ := hevent
      obtain ⟨asking, _, _, hasking, -, hasks⟩ := hallowed.2.2.2 huse
      obtain rfl : asking = input := by
        rcases hasking with rfl | rfl <;> rcases hinput' with h | h <;> cases h <;> rfl
      exact hasks.1

/-- What becomes of the verify requests of a call at the gateway: the decisions that are
learned, and the gateway after them. `fates` says what becomes of the attempts of each. -/
def exchangeAll (client : GatewayClient) (fates : ℕ → ℕ → AttemptFate) :
    ℕ → List SpendRequest → Gateway → List ℕ × Gateway
  | _, [], gateway => ([], gateway)
  | index, request :: requests, gateway =>
      let (answer, gateway) := client.verifyCapability request.idempotencyKey (fates index) gateway
      let (learned, gateway) := exchangeAll client fates (index + 1) requests gateway
      (learnedDecisions answer ++ learned, gateway)

end Claim

/-! ## A response that is lost -/

def clientTravel : GatewayClient where
  maxRetries := 3
  jsonLoads _ := none
  parseVerifyCapabilityResult _ := .ok { allow := true, auditId := "audit" }

/-- The gateway has processed the first attempt, but its answer is lost. -/
def firstAnswerLost (_ index : ℕ) : AttemptFate :=
  if index = 0 then .responseLost (.other "ReadTimeout" "")
  else .responded { statusCode := 200, text := "{}" } true

/-- Authorize a hotel under some idempotency key. -/
def authorizingActions (idempotencyKey : Option String) : List (Action AgentCall runMachine) :=
  [.start (.authorizeToolCall { bookHotel "call" with idempotencyKey })
    (hostChoices (decidingHost "decision"))]

end PaybondKit.Agent
