import PaybondKit.Policy.ReloadSteps

/-!
# Finalizing reservations

What a call requests of Harbor after its handler, over all runs. The handler, the
trace events and the consumption stand in one `try` block whose `except` branch
releases, so an exception that comes after the handler has returned releases the
reservation of a side effect that has happened.
-/

namespace PaybondKit.Agent

/-! ## Reading events -/

/-- What an event says about the handler and the finalization after it. -/
inductive Milestone where
  | handlerRaised (exception : PyExc)
  | handlerReturned
  /-- The handler gave back something to await. -/
  | handlerSuspended
  /-- The trace sink or Harbor raised before the reservation was consumed. -/
  | finalizationRaised (exception : PyExc)

def milestone? : AgentEvent → Option Milestone
  | .completed (.host (.execute _)) (.error exception)
  | .completed (.host (.awaitHandler _)) (.error exception) => some (.handlerRaised exception)
  | .completed (.host (.execute _)) (.ok (.value _))
  | .completed (.host (.awaitHandler _)) (.ok _) => some .handlerReturned
  | .completed (.host (.execute _)) (.ok .awaitable) => some .handlerSuspended
  | .completed (.host (.emitTrace (.toolExecuted _ _ _ _))) (.error exception)
  | .completed (.host (.emitTrace (.spendFinalized _ _ _ .consumed))) (.error exception)
  | .completed (.host (.completeSpend _ .consumed)) (.error exception) =>
      some (.finalizationRaised exception)
  | _ => none

namespace Milestone

def isHandlerRaised : Milestone → Bool
  | .handlerRaised _ => true
  | _ => false

def isHandlerReturned : Milestone → Bool
  | .handlerReturned => true
  | _ => false

/-- Finalizing failed with something that `except Exception` catches. -/
def isFinalizationFailure : Milestone → Bool
  | .finalizationRaised exception => exception.isException
  | _ => false

end Milestone

/-- An outcome is requested from Harbor. -/
def requestedOutcome? : AgentEvent → Option (String × SpendOutcome)
  | .issued (.host (.completeSpend decisionId outcome)) => some (decisionId, outcome)
  | _ => none

/-- Harbor's allow, or a cached one, gives the call a decision id. -/
def receivedDecision? : AgentEvent → Option String
  | .completed (.host (.verifyCapability _)) (.ok result) =>
      if result.allow then result.decisionId else none
  | .completed (.access (.takeValidCachedAuthorization _ _)) (.ok (some entry)) =>
      entry.auth.decisionId
  | _ => none

section Trace

variable (trace : List AgentEntry) (task : ℕ)

def HandlerRaised : Prop :=
  Occurs trace task fun event => (milestone? event).any (·.isHandlerRaised) = true

def HandlerReturned : Prop :=
  Occurs trace task fun event => (milestone? event).any (·.isHandlerReturned) = true

def Requests (decisionId : String) (outcome : SpendOutcome) : Prop :=
  Occurs trace task fun event => requestedOutcome? event = some (decisionId, outcome)

/-- The call came to hold the decision id. -/
def Holds (decisionId : String) : Prop :=
  Occurs trace task fun event => receivedDecision? event = some decisionId

/-- An `Exception` struck after the handler had returned and before the reservation
was finalized. -/
def FinalizationFailed : Prop :=
  Occurs trace task fun event => (milestone? event).any (·.isFinalizationFailure) = true

instance : Decidable (HandlerRaised trace task) := inferInstanceAs (Decidable (Occurs _ _ _))

instance : Decidable (HandlerReturned trace task) := inferInstanceAs (Decidable (Occurs _ _ _))

instance (decisionId : String) (outcome : SpendOutcome) :
    Decidable (Requests trace task decisionId outcome) :=
  inferInstanceAs (Decidable (Occurs _ _ _))

instance (decisionId : String) : Decidable (Holds trace task decisionId) :=
  inferInstanceAs (Decidable (Occurs _ _ _))

instance : Decidable (FinalizationFailed trace task) := inferInstanceAs (Decidable (Occurs _ _ _))

/-- What the call requests of Harbor matches what the tool did. -/
structure FinalisationMatches : Prop where
  released : ∀ decisionId, Requests trace task decisionId .released → HandlerRaised trace task
  consumed : ∀ decisionId, Requests trace task decisionId .consumed → HandlerReturned trace task
  not_both : ∀ decisionId, Requests trace task decisionId .consumed →
    ¬Requests trace task decisionId .released

end Trace

/-! ## How a step changes the stage -/

/-- The stage after an event. -/
def Stage.next (stage : Stage) : Option Milestone → Stage
  | some (.handlerRaised exception) => .raised exception
  | some .handlerReturned => .returned
  | some .handlerSuspended => .invoked
  | some (.finalizationRaised exception) => .faulted exception
  | none => stage

section Record

variable (view : CallView)

theorem CallView.recordAccess_stage (before : RunState) (access : Access) :
    (view.recordAccess before access).stage = view.stage := by
  cases access with
  | readCurrentSnapshot => simp only [CallView.recordAccess]; split <;> rfl
  | _ => rfl

theorem CallView.recordHost_stage (call : HostCall) (answer : Except PyExc call.Answer) :
    (view.recordHost call answer).stage = view.stage.next (milestone? (.completed (.host call) answer)) := by
  cases call with
  | verifyCapability request =>
      rcases answer with exception | result
      · rfl
      · simp only [CallView.recordHost]
        split <;> rfl
  | execute invocation => rcases answer with exception | (result | _) <;> rfl
  | awaitHandler invocation => cases answer <;> rfl
  | completeSpend decisionId outcome => cases outcome <;> cases answer <;> rfl
  | emitTrace event =>
      cases event with
      | spendFinalized runId toolCallId operation status =>
          cases status <;> cases answer <;> rfl
      | _ => cases answer <;> rfl
  | _ => cases answer <;> rfl

theorem CallView.record_stage (step : AgentStep) :
    (view.record step).stage = view.stage.next (milestone? step.event) := by
  obtain ⟨before, event⟩ := step
  cases event with
  | issued op =>
      cases op with
      | access access => rfl
      | host call => cases call <;> rfl
  | finished outcome => rfl
  | cut => rfl
  | completed op answer =>
      cases op with
      | host call => exact view.recordHost_stage call answer
      | access access =>
          cases access with
          | takeValidCachedAuthorization cacheKey expected => cases answer <;> rfl
          | _ => exact view.recordAccess_stage before _

theorem CallView.recordHost_requested (call : HostCall) (answer : Except PyExc call.Answer) :
    (view.recordHost call answer).requested = view.requested := by
  unfold CallView.recordHost CallView.recordHandler CallView.recordSink
  repeat' split
  all_goals rfl

theorem CallView.record_requested (step : AgentStep) :
    (view.record step).requested = view.requested ++ (requestedOutcome? step.event).toList := by
  obtain ⟨before, event⟩ := step
  cases event with
  | issued op =>
      cases op with
      | access access => exact (List.append_nil _).symm
      | host call =>
          cases call with
          | completeSpend decisionId outcome => rfl
          | _ => exact (List.append_nil _).symm
  | finished outcome => exact (List.append_nil _).symm
  | cut => exact (List.append_nil _).symm
  | completed op answer =>
      refine Eq.trans ?_ (List.append_nil _).symm
      cases op with
      | host call => exact view.recordHost_requested call answer
      | access access =>
          cases access with
          | takeValidCachedAuthorization cacheKey expected => cases answer <;> rfl
          | readCurrentSnapshot =>
              change (ite _ _ _ : CallView).requested = view.requested
              split <;> rfl
          | _ => rfl

end Record

variable {platform : Platform} {binding : PaybondRunBinding} {call : AgentCall}
variable {view : CallView} {step : AgentStep}

/-- Once a call holds an answer of Harbor, it keeps it. -/
theorem CallView.record_auth (hallowed : Allowed platform binding call view step)
    (hauth : view.auth ≠ none) : (view.record step).auth = view.auth := by
  obtain ⟨before, event⟩ := step
  cases event with
  | issued op =>
      cases op with
      | access access => rfl
      | host call => cases call <;> rfl
  | finished outcome => rfl
  | cut => rfl
  | completed op answer =>
      cases op with
      | access access =>
          cases access with
          | takeValidCachedAuthorization cacheKey expected => exact absurd hallowed.2.2 hauth
          | readCurrentSnapshot =>
              change (ite _ _ _ : CallView).auth = view.auth
              split <;> rfl
          | _ => rfl
      | host call =>
          cases call with
          | verifyCapability request => exact absurd hallowed.2 hauth
          | emitTrace event =>
              cases event with
              | spendFinalized runId toolCallId operation status =>
                  cases status <;> cases answer <;> rfl
              | _ => cases answer <;> rfl
          | completeSpend decisionId outcome => cases outcome <;> cases answer <;> rfl
          | execute invocation => rcases answer with exception | (result | _) <;> rfl
          | _ => cases answer <;> rfl

theorem CallView.record_received {decisionId : String}
    (hallowed : Allowed platform binding call view step)
    (hreceived : receivedDecision? step.event = some decisionId) :
    view.auth = none ∧ (view.record step).decisionId = some decisionId := by
  obtain ⟨before, event⟩ := step
  unfold receivedDecision? at hreceived
  split at hreceived
  next request result heq =>
    obtain rfl : event = _ := heq
    have hauth : view.auth = none := hallowed.2
    split at hreceived
    next hallow =>
      refine ⟨hauth, ?_⟩
      simp only [CallView.auth, Option.or_eq_none_iff, Option.map_eq_none_iff] at hauth
      simp [CallView.record, CallView.recordHost, hallow, CallView.decisionId, CallView.auth,
        hauth.1, hreceived]
    next => cases hreceived
  next cacheKey expected entry heq =>
    obtain rfl : event = _ := heq
    refine ⟨hallowed.2.2, ?_⟩
    simp [CallView.record, CallView.decisionId, CallView.auth, hreceived]
  next => cases hreceived

/-! ## Which stages allow which events -/

/-- The stage at which a milestone can be met. -/
def Milestone.MetAt (stage : Stage) : Milestone → Prop
  | .finalizationRaised _ => stage = .returned
  | _ => stage = .before ∨ stage = .invoked

theorem Allowed.metAt {milestone : Milestone} (hallowed : Allowed platform binding call view step)
    (hmilestone : milestone? step.event = some milestone) : milestone.MetAt view.stage := by
  obtain ⟨before, event⟩ := step
  unfold milestone? at hmilestone
  split at hmilestone <;> cases hmilestone <;> rename_i heq <;> obtain rfl : event = _ := heq
  · exact .inl hallowed.1
  · exact hallowed
  · exact .inl hallowed.1
  · exact hallowed
  · exact .inl hallowed.1
  · exact hallowed.1
  · exact hallowed.1
  · exact hallowed.1

theorem Allowed.complete {decisionId : String} {outcome : SpendOutcome}
    (hallowed : Allowed platform binding call view step)
    (hrequested : requestedOutcome? step.event = some (decisionId, outcome)) :
    milestone? step.event = none ∧ CompleteAllowed call view decisionId outcome := by
  obtain ⟨before, event⟩ := step
  unfold requestedOutcome? at hrequested
  split at hrequested <;> cases hrequested
  rename_i heq
  obtain rfl : event = _ := heq
  exact ⟨rfl, hallowed.2⟩

/-! ## What a view knows of the trace -/

/-- The stage and the requests of a call, read off the trace. -/
structure ViewFacts (trace : List AgentEntry) (task : ℕ) (view : CallView) : Prop where
  requests : ∀ decisionId outcome,
    Requests trace task decisionId outcome ↔ (decisionId, outcome) ∈ view.requested
  raised : HandlerRaised trace task ↔ ∃ exception, view.stage = .raised exception
  returned : HandlerReturned trace task ↔
    view.stage = .returned ∨ ∃ exception, view.stage = .faulted exception
  failed : FinalizationFailed trace task ↔
    ∃ exception, view.stage = .faulted exception ∧ exception.isException = true
  consumed : ∀ decisionId, (decisionId, .consumed) ∈ view.requested →
    view.stage = .returned ∨ ∃ exception, view.stage = .faulted exception
  released : ∀ decisionId, (decisionId, .released) ∈ view.requested →
    ∃ exception, exception.isException = true ∧
      (view.stage = .raised exception ∨ view.stage = .faulted exception)
  holds : ∀ decisionId, Holds trace task decisionId → view.decisionId = some decisionId

/-- Steps of other tasks tell nothing about a call. -/
theorem ViewFacts.other {trace : List AgentEntry} {task : ℕ} {entry : AgentEntry}
    (hfacts : ViewFacts trace task view) (htask : entry.task ≠ task) :
    ViewFacts (trace ++ [entry]) task view := by
  obtain ⟨h1, h2, h3, h4, h5, h6, h7⟩ := hfacts
  refine ⟨?_, ?_, ?_, ?_, h5, h6, ?_⟩
  all_goals
    simp only [Requests, HandlerRaised, HandlerReturned, FinalizationFailed, Holds, occurs_snoc,
      htask, false_and, or_false]
    assumption

theorem ViewFacts.requests_snoc {trace : List AgentEntry} {entry : AgentEntry}
    (hfacts : ViewFacts trace entry.task view) (decisionId : String) (outcome : SpendOutcome) :
    Requests (trace ++ [entry]) entry.task decisionId outcome ↔
      (decisionId, outcome) ∈ (view.record entry.toStep).requested := by
  rw [view.record_requested, List.mem_append, Option.mem_toList, ← hfacts.requests, Requests,
    occurs_snoc]
  simp [Requests]

theorem ViewFacts.holds_snoc {trace : List AgentEntry} {entry : AgentEntry}
    (hfacts : ViewFacts trace entry.task view)
    (hallowed : Allowed platform binding call view entry.toStep) (decisionId : String)
    (hholds : Holds (trace ++ [entry]) entry.task decisionId) :
    (view.record entry.toStep).decisionId = some decisionId := by
  rcases occurs_snoc.mp hholds with hbefore | ⟨-, hreceived⟩
  · have hdecision := hfacts.holds decisionId hbefore
    have hauth : view.auth ≠ none := by
      intro hnone
      simp [CallView.decisionId, hnone] at hdecision
    rwa [CallView.decisionId, CallView.record_auth hallowed hauth]
  · exact (CallView.record_received hallowed hreceived).2

/-- A step that is no milestone keeps the stage; it may request an outcome. -/
theorem ViewFacts.snoc_none {trace : List AgentEntry} {entry : AgentEntry}
    (hfacts : ViewFacts trace entry.task view)
    (hallowed : Allowed platform binding call view entry.toStep)
    (hnone : milestone? entry.event = none) :
    ViewFacts (trace ++ [entry]) entry.task (view.record entry.toStep) := by
  have hstage : (view.record entry.toStep).stage = view.stage := by
    rw [view.record_stage, hnone, Stage.next]
  have hcases : ∀ decisionId outcome,
      (decisionId, outcome) ∈ (view.record entry.toStep).requested →
      (decisionId, outcome) ∈ view.requested ∨ CompleteAllowed call view decisionId outcome := by
    intro decisionId outcome hmem
    rw [view.record_requested, List.mem_append, Option.mem_toList] at hmem
    exact hmem.imp id fun hrequested => (hallowed.complete hrequested).2
  constructor
  case requests => exact hfacts.requests_snoc
  case holds => exact hfacts.holds_snoc hallowed
  case raised =>
    simpa [HandlerRaised, occurs_snoc, hnone, hstage] using hfacts.raised
  case returned =>
    simpa [HandlerReturned, occurs_snoc, hnone, hstage] using hfacts.returned
  case failed =>
    simpa [FinalizationFailed, occurs_snoc, hnone, hstage] using hfacts.failed
  case consumed =>
    intro decisionId hmem
    rw [hstage]
    rcases hcases decisionId .consumed hmem with hmem | hcomplete
    · exact hfacts.consumed decisionId hmem
    · exact .inl hcomplete.2.2.1
  case released =>
    intro decisionId hmem
    rw [hstage]
    rcases hcases decisionId .released hmem with hmem | hcomplete
    · exact hfacts.released decisionId hmem
    · exact hcomplete.2.2

/-- A milestone is met at the stage before it, and requests nothing. -/
theorem ViewFacts.snoc_some {trace : List AgentEntry} {entry : AgentEntry} {milestone : Milestone}
    (hfacts : ViewFacts trace entry.task view)
    (hallowed : Allowed platform binding call view entry.toStep)
    (hsome : milestone? entry.event = some milestone) :
    ViewFacts (trace ++ [entry]) entry.task (view.record entry.toStep) := by
  have hstage : (view.record entry.toStep).stage = view.stage.next (some milestone) := by
    rw [view.record_stage, hsome]
  have hrequested : (view.record entry.toStep).requested = view.requested := by
    rw [view.record_requested]
    cases hrequest : requestedOutcome? entry.event with
    | none => exact List.append_nil _
    | some request =>
        have hnone := (hallowed.complete hrequest).1
        cases hnone.symm.trans hsome
  have hmet := hallowed.metAt hsome
  have hraised := hfacts.raised
  have hreturned := hfacts.returned
  have hfailed := hfacts.failed
  have hconsumed := hfacts.consumed
  have hreleased := hfacts.released
  constructor
  case requests => exact hfacts.requests_snoc
  case holds => exact hfacts.holds_snoc hallowed
  all_goals
    simp only [HandlerRaised, HandlerReturned, FinalizationFailed, occurs_snoc, hsome, hstage,
      hrequested, Option.any_some, true_and] at *
    cases milestone with
    | finalizationRaised exception =>
        simp_all [Milestone.MetAt, Stage.next, Milestone.isHandlerRaised,
          Milestone.isHandlerReturned, Milestone.isFinalizationFailure]
    | _ =>
        rcases hmet with hmet | hmet <;>
          simp_all [Stage.next, Milestone.isHandlerRaised, Milestone.isHandlerReturned,
            Milestone.isFinalizationFailure]

section Runs

variable {init state : RunState} {trace : List AgentEntry}

/-- What a view knows holds of every trace. -/
theorem viewFacts (hbehaves : runMachine.Behaves (agentProtocol platform binding) init trace state)
    (task : ℕ) : ViewFacts trace task (callRecorder.view trace task) := by
  induction hbehaves with
  | start => constructor <;> simp [Requests, HandlerRaised, HandlerReturned, FinalizationFailed,
      Holds]
  | @step trace entry after _ _ _ hallowed _ ih =>
      by_cases htask : entry.task = task
      · subst htask
        rw [Recorder.view_snoc_self _ rfl]
        cases hmilestone : milestone? entry.event with
        | none => exact ih.snoc_none hallowed hmilestone
        | some milestone => exact ih.snoc_some hallowed hmilestone
      · rw [Recorder.view_snoc_other _ htask]
        exact ih.other htask

end Runs

theorem AgentCall.RunsHandler.not_reloads (hruns : call.RunsHandler) : ¬call.Reloads binding := by
  cases call with
  | wrapExecute | guardTool | awrapToolCallCapability => exact fun h => nomatch h
  | authorizeToolCall | reloadPolicy | reloadPolicyOnHandle | triggerReload => exact hruns.elim

/-- When a call gives up control it has left nothing half done. -/
theorem Allowed.yieldAllowed (hallowed : Allowed platform binding call view step)
    (hyields : step.event.Yields) (hreloads : ¬call.Reloads binding) :
    YieldAllowed call view step.event := by
  obtain ⟨before, event⟩ := step
  cases event with
  | issued op =>
      cases op with
      | access access => exact hallowed.elim
      | host host => exact hallowed.1
  | completed op answer => exact hyields.elim
  | finished outcome =>
      rcases outcome with exception | (_ | _ | _ | _ | _ | _) <;> exact hallowed.1
  | cut => exact absurd hallowed hreloads

/-- Giving up control may only hand over a request. -/
theorem CallView.record_yield (view : CallView) (hyields : step.event.Yields) :
    ∃ requested remote,
      view.record step = { view with requested := requested, remote := remote } := by
  obtain ⟨before, event⟩ := step
  cases event with
  | issued op =>
      cases op with
      | access access => exact ⟨_, _, rfl⟩
      | host host => exact view.recordIssue_frame host
  | completed op answer => exact hyields.elim
  | finished outcome => exact ⟨_, _, rfl⟩
  | cut => exact ⟨_, _, rfl⟩

/-- Between two decisions of the scheduler, a call whose finalization failed has
requested the release. -/
theorem Settled.released {past : List AgentStep} {decisionId : String} {exception : PyExc}
    (hsettled : Settled (agentProtocol platform binding) call past) (hruns : call.RunsHandler)
    (hstage : (past.foldl CallView.record {}).stage = .faulted exception)
    (hexception : exception.isException = true)
    (hdecision : (past.foldl CallView.record {}).decisionId = some decisionId) :
    (decisionId, .released) ∈ (past.foldl CallView.record {}).requested := by
  obtain ⟨before, last, rfl, hyields, hallowed⟩ := hsettled
  rw [List.foldl_append, List.foldl_cons, List.foldl_nil] at hstage hdecision ⊢
  obtain ⟨requested, remote, hrecord⟩ :=
    CallView.record_yield (before.foldl CallView.record {}) hyields
  rw [hrecord] at hstage hdecision
  rw [CallView.record_requested, List.mem_append, Option.mem_toList]
  refine ((Allowed.yieldAllowed hallowed hyields hruns.not_reloads).released exception decisionId hstage
    hexception hdecision).imp id fun hissued => ?_
  rw [hissued, requestedOutcome?]

section Claim

variable (platform : Platform) (binding : PaybondRunBinding) (init : RunState)
variable (actions : List (Action AgentCall runMachine))

/-- Between two decisions of the scheduler, the outcomes that a call with a decision
id has requested match what its tool did exactly when nothing raised between the
return of the handler and the end of the consumption. -/
theorem finalisationMatches_iff {task : ℕ} {decisionId : String}
    (hcall : IsCall (runAgent platform binding init actions).trace task AgentCall.RunsHandler)
    (hholds : Holds (runAgent platform binding init actions).trace task decisionId) :
    FinalisationMatches (runAgent platform binding init actions).trace task ↔
      ¬FinalizationFailed (runAgent platform binding init actions).trace task := by
  obtain ⟨entry, hentry, rfl, hruns⟩ := hcall
  have hsound := runAgent_sound platform binding init actions
  have hfacts := viewFacts hsound.behaves entry.task
  constructor
  · intro hmatches hfailed
    obtain ⟨exception, hstage, hexception⟩ := hfacts.failed.mp hfailed
    have hmem := Settled.released (hsound.exists_last hentry) hruns hstage hexception
      (hfacts.holds decisionId hholds)
    have hreleased := (hfacts.requests decisionId .released).mpr hmem
    -- the release says that the handler raised, but it returned
    obtain ⟨raised, hraised⟩ := hfacts.raised.mp (hmatches.released decisionId hreleased)
    cases hraised.symm.trans hstage
  · intro hfailed
    have hstage : ∀ exception, exception.isException = true →
        (callRecorder.view (runAgent platform binding init actions).trace
          entry.task).stage ≠ .faulted exception :=
      fun exception hexception hfaulted =>
        hfailed (hfacts.failed.mpr ⟨exception, hfaulted, hexception⟩)
    have hraised : ∀ decision, Requests (runAgent platform binding init actions).trace entry.task
        decision .released → HandlerRaised (runAgent platform binding init actions).trace
          entry.task := by
      intro decision hreleased
      obtain ⟨exception, hexception, hraised | hfaulted⟩ :=
        hfacts.released decision ((hfacts.requests decision .released).mp hreleased)
      · exact hfacts.raised.mpr ⟨exception, hraised⟩
      · exact absurd hfaulted (hstage exception hexception)
    have hreturned : ∀ decision, Requests (runAgent platform binding init actions).trace entry.task
        decision .consumed → HandlerReturned (runAgent platform binding init actions).trace
          entry.task :=
      fun decision hconsumed => hfacts.returned.mpr
        (hfacts.consumed decision ((hfacts.requests decision .consumed).mp hconsumed))
    refine ⟨hraised, hreturned, fun decision hconsumed hreleased => ?_⟩
    obtain ⟨exception, hraised⟩ := hfacts.raised.mp (hraised decision hreleased)
    rcases hfacts.returned.mp (hreturned decision hconsumed) with hreturned | ⟨_, hfaulted⟩
    · cases hraised.symm.trans hreturned
    · cases hraised.symm.trans hfaulted

end Claim

/-! ## A booking -/

/-- Harbor allows the booking; the trace sink refuses `tool_executed` events, if it is
full. -/
def bookingHost (sinkIsFull : Bool) : (call : HostCall) → Except PyExc call.Answer
  | .verifyCapability _ =>
      .ok { allow := true, auditId := "audit", decisionId := some "decision" }
  | .execute _ => .ok .awaitable
  | .awaitHandler _ => .ok (.str "booked")
  | .emitTrace (.toolExecuted _ _ _ _) =>
      if sinkIsFull then .error (.runtimeError "trace sink is full") else .ok ()
  | .emitTrace _ | .completeSpend _ _ => .ok ()
  | .buildEvidencePayload _ toolResult _ => .ok toolResult
  | .submitSandboxEvidence intentId _ _ _ _ _ => .ok { intentId }
  | _ => .error (.runtimeError "unreachable")

/-- One `wrap_execute`, resumed until it ends. -/
def bookingTrace (sinkIsFull : Bool) : List AgentEntry :=
  (runAgent platformTravel bindingTravel (.bind registryTravel none)
    (.start (.wrapExecute (bookHotel "call")) (hostChoices (bookingHost sinkIsFull)) ::
      List.replicate 4 (.resume 0 (hostChoices (bookingHost sinkIsFull))))).trace

theorem finalisationMatches_iff_booking : FinalisationMatches (bookingTrace false) 0 :=
  (finalisationMatches_iff platformTravel bindingTravel (.bind registryTravel none)
    (.start (.wrapExecute (bookHotel "call")) (hostChoices (bookingHost false)) ::
      List.replicate 4 (.resume 0 (hostChoices (bookingHost false))))
    (show IsCall (bookingTrace false) 0 _ by decide +kernel)
    (show Holds (bookingTrace false) 0 "decision" by decide +kernel)).mpr
    (show ¬FinalizationFailed (bookingTrace false) 0 by decide +kernel)

/-- The hotel is booked, the sink raises, and the reservation of the booking is
released. -/
theorem wrapExecute_releases_executed :
    Holds (bookingTrace true) 0 "decision" ∧ HandlerReturned (bookingTrace true) 0 ∧
      ¬FinalisationMatches (bookingTrace true) 0 := by
  have hreleased : Requests (bookingTrace true) 0 "decision" .released := by decide +kernel
  have hraised : ¬HandlerRaised (bookingTrace true) 0 := by decide +kernel
  exact ⟨by decide +kernel, by decide +kernel, fun hmatches =>
    hraised (hmatches.released "decision" hreleased)⟩

end PaybondKit.Agent
