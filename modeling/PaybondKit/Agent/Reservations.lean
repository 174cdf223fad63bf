import PaybondKit.Agent.SingleUse

/-!
# Orphaned reservations

Harbor reserves spend under the decision id of every allow. A decision id is
accounted for while it is cached or held by an execution that runs, and once an
outcome has been requested for it. The steps that lose one are few: the eviction of
an expired entry, the overwriting of an entry, the popping of an entry that is not
used, a trace sink that raises before the handler runs, and an exception that
`except Exception` does not catch. In every run without such a step, no reservation
is orphaned.
-/

namespace PaybondKit.Agent

/-! ## Accounting for a decision id -/

/-- The authorization that is cached under the key. -/
def decisionUnder (state : RunState) (cacheKey : String) : Option String :=
  (state.authorizedCalls.get? cacheKey).bind (·.auth.decisionId)

/-- The decision id is held in the authorization cache. -/
def Cached (state : RunState) (decisionId : String) : Prop :=
  ∃ item ∈ state.authorizedCalls.items, item.2.auth.decisionId = some decisionId

/-- An execution that has not ended holds the decision id. -/
def HeldOpen (trace : List AgentEntry) (decisionId : String) : Prop :=
  ∃ entry ∈ trace, entry.call.WrapsExecute ∧ Holds trace entry.task decisionId ∧
    ∀ later ∈ trace, later.task = entry.task → ¬later.event.Ends

/-- An outcome has been requested for the decision id. -/
def Finalised (trace : List AgentEntry) (decisionId : String) : Prop :=
  ∃ entry ∈ trace, (requestedOutcome? entry.event).map Prod.fst = some decisionId

/-- The reservation is not orphaned. -/
def Accounted (trace : List AgentEntry) (state : RunState) (decisionId : String) : Prop :=
  Cached state decisionId ∨ HeldOpen trace decisionId ∨ Finalised trace decisionId

instance (state : RunState) (decisionId : String) : Decidable (Cached state decisionId) :=
  inferInstanceAs (Decidable (∃ item ∈ _, _))

instance (trace : List AgentEntry) (decisionId : String) : Decidable (HeldOpen trace decisionId) :=
  inferInstanceAs (Decidable (∃ entry ∈ trace, _))

instance (trace : List AgentEntry) (decisionId : String) :
    Decidable (Finalised trace decisionId) :=
  inferInstanceAs (Decidable (∃ entry ∈ trace, _))

instance (trace : List AgentEntry) (state : RunState) (decisionId : String) :
    Decidable (Accounted trace state decisionId) :=
  inferInstanceAs (Decidable (_ ∨ _ ∨ _))

/-- The steps that lose a reservation. -/
def Loses (trace : List AgentEntry) (decisionId : String) (entry : AgentEntry) : Prop :=
  match entry.event with
  -- an expired entry is deleted
  | .completed (.access .evictExpiredAuthorizationCache) (.ok now) =>
      ∃ item ∈ entry.before.authorizedCalls.items,
        item.2.auth.decisionId = some decisionId ∧ item.2.Expired now
  -- an entry is overwritten
  | .completed (.access (.storeAuthorization cacheKey _)) _
  -- an entry is popped, but expired or for another call
  | .completed (.access (.takeValidCachedAuthorization cacheKey _)) (.ok none) =>
      decisionUnder entry.before cacheKey = some decisionId
  -- the trace sink raises between the allow and the `try` block
  | .completed (.host (.emitTrace (.spendAuthorized _ _ _ _ _ _))) (.error _) =>
      entry.call.RunsHandler ∧ Holds trace entry.task decisionId
  -- cancellation and its like
  | .completed (.host (.execute _)) (.error exception)
  | .completed (.host (.awaitHandler _)) (.error exception)
  | .completed (.host (.emitTrace (.toolExecuted _ _ _ _))) (.error exception) =>
      exception.isException = false ∧ Holds trace entry.task decisionId
  | _ => False

instance (trace : List AgentEntry) (decisionId : String) (entry : AgentEntry) :
    Decidable (Loses trace decisionId entry) := by
  unfold Loses
  split <;> infer_instance

variable {trace : List AgentEntry} {decisionId : String} {entry : AgentEntry}

theorem Loses.append (hloses : Loses trace decisionId entry) (later : List AgentEntry) :
    Loses (trace ++ later) decisionId entry := by
  unfold Loses at hloses ⊢
  split at hloses
  all_goals first | exact hloses | exact ⟨hloses.1, hloses.2.append later⟩

theorem cached_iff {state : RunState} :
    Cached state decisionId ↔ ∃ cacheKey, decisionUnder state cacheKey = some decisionId := by
  simp only [Cached, decisionUnder, Option.bind_eq_some_iff, OrderedDict.get?_eq_some_iff,
    Prod.exists]

/-! ## What a view knows of a reservation -/

section View

variable {platform : Platform} {binding : PaybondRunBinding} {call : AgentCall}
variable {view : CallView} {step : AgentStep}

theorem CallView.record_cached {item : String × CachedAuthorizationEntry}
    (hcached : (view.record step).cached = some item) :
    view.cached = some item ∨ ∃ expected, step.event =
      .completed (.access (.takeValidCachedAuthorization item.1 expected)) (.ok (some item.2)) := by
  unfold CallView.record CallView.recordHost CallView.recordHandler CallView.recordSink
    CallView.recordIssue CallView.recordAccess at hcached
  repeat' split at hcached
  all_goals first | exact .inl hcached | skip
  obtain ⟨stored, hstored, rfl⟩ := Option.map_eq_some_iff.mp hcached
  subst hstored
  exact .inr ⟨_, by assumption⟩

/-- A grant is final. -/
theorem CallView.record_granted {grant : SpendRequest × VerifyCapabilityResult}
    (hallowed : Allowed platform binding call view step) (hgrant : view.grant = some grant) :
    (view.record step).grant = some grant := by
  cases hnext : (view.record step).grant with
  | none =>
      unfold CallView.record CallView.recordHost CallView.recordHandler CallView.recordSink
        CallView.recordIssue CallView.recordAccess at hnext
      repeat' split at hnext
      all_goals first | cases hgrant.symm.trans hnext | cases hnext
  | some next =>
      rcases view.record_grant hnext with hsame | ⟨hevent, -⟩
      · exact hsame.symm.trans hgrant
      · obtain ⟨before, event⟩ := step
        obtain rfl : event = _ := hevent
        have hauth : view.auth = none := hallowed.2
        simp [CallView.auth, hgrant] at hauth

/-- What a call knows of the authorizations it holds, stored and requested outcomes
for. -/
structure ReservationView (call : AgentCall) (view : CallView) : Prop where
  executes : view.cached ≠ none → call.WrapsExecute
  stored : ∀ cacheKey entry, view.stored = some (cacheKey, entry) →
    ∃ request, view.grant = some (request, entry.auth)
  requested : ∀ decisionId outcome, (decisionId, outcome) ∈ view.requested →
    view.decisionId = some decisionId

theorem ReservationView.record (hview : ReservationView call view)
    (hallowed : Allowed platform binding call view step) :
    ReservationView call (view.record step) where
  executes hcached := by
    obtain ⟨item, hitem⟩ := Option.ne_none_iff_exists'.mp hcached
    rcases CallView.record_cached hitem with hbefore | ⟨expected, hevent⟩
    · exact hview.executes (by simp [hbefore])
    · obtain ⟨before, event⟩ := step
      obtain rfl : event = _ := hevent
      obtain ⟨⟨input, rfl⟩, -⟩ := hallowed
      trivial
  stored cacheKey entry hstored := by
    rcases CallView.record_stored _ hstored with hbefore | ⟨answer, hevent⟩
    · obtain ⟨request, hgrant⟩ := hview.stored cacheKey entry hbefore
      exact ⟨request, CallView.record_granted hallowed hgrant⟩
    · obtain ⟨before, event⟩ := step
      obtain rfl : event = _ := hevent
      obtain ⟨request, toolCallId, hgrant, -⟩ := StoreAllowed.granted hallowed
      exact ⟨request, hgrant⟩
  requested decisionId outcome hmem := by
    have hdecision : view.decisionId = some decisionId := by
      rw [view.record_requested, List.mem_append, Option.mem_toList] at hmem
      rcases hmem with hmem | hrequested
      · exact hview.requested decisionId outcome hmem
      · exact (hallowed.complete hrequested).2.2.1
    have hauth : view.auth ≠ none := by
      intro hnone
      simp [CallView.decisionId, hnone] at hdecision
    rwa [CallView.decisionId, CallView.record_auth hallowed hauth]

end View

theorem Stage.eq_of_next_raised {stage : Stage} {milestone : Option Milestone}
    {exception : PyExc} (hbefore : stage ≠ .raised exception)
    (hafter : stage.next milestone = .raised exception) :
    milestone = some (.handlerRaised exception) := by
  rcases milestone with _ | milestone
  · exact absurd hafter hbefore
  · cases milestone <;> cases hafter
    rfl

theorem Stage.eq_of_next_faulted {stage : Stage} {milestone : Option Milestone}
    {exception : PyExc} (hbefore : stage ≠ .faulted exception)
    (hafter : stage.next milestone = .faulted exception) :
    milestone = some (.finalizationRaised exception) := by
  rcases milestone with _ | milestone
  · exact absurd hafter hbefore
  · cases milestone <;> cases hafter
    rfl

section Runs

variable {platform : Platform} {binding : PaybondRunBinding}
variable {init state : RunState} {task : ℕ}

theorem reservationView
    (hbehaves : runMachine.Behaves (agentProtocol platform binding) init trace state)
    (hentry : entry ∈ trace) : ReservationView entry.call (callRecorder.view trace entry.task) := by
  refine hbehaves.view_invariant _ (fun call => ?_) (fun call view step hview => hview.record) hentry
  exact ⟨fun h => absurd rfl h, (fun _ _ h => nomatch h), (fun _ _ h => nomatch h)⟩

/-- The handler of a call raised what the view says. -/
theorem occurs_of_raised {exception : PyExc}
    (hstage : (callRecorder.view trace task).stage = .raised exception) :
    Occurs trace task fun event => milestone? event = some (.handlerRaised exception) := by
  obtain ⟨first, step, second, rfl, htask, hbefore, hafter⟩ :=
    callRecorder.exists_step_of_view (p := fun view => view.stage = .raised exception)
      (fun h => nomatch h) hstage
  exact ⟨step, by simp, htask, Stage.eq_of_next_raised hbefore
    ((CallView.record_stage _ _).symm.trans hafter)⟩

/-- Finalizing a call failed in the sink of `tool_executed`, or after an outcome had
been requested. -/
theorem faulted_cases
    (hbehaves : runMachine.Behaves (agentProtocol platform binding) init trace state)
    {exception : PyExc} (hstage : (callRecorder.view trace task).stage = .faulted exception) :
    (Occurs trace task fun event => ∃ runId toolCallId operation durationMs, event =
      .completed (.host (.emitTrace (.toolExecuted runId toolCallId operation durationMs)))
        (.error exception)) ∨ (callRecorder.view trace task).requested ≠ [] := by
  obtain ⟨first, step, second, htrace, rfl, hbefore, hafter⟩ :=
    callRecorder.exists_step_of_view (p := fun view => view.stage = .faulted exception)
      (fun h => nomatch h) hstage
  obtain ⟨hfirst, -, -, hallowed⟩ := hbehaves.split htrace
  have hmilestone := Stage.eq_of_next_faulted hbefore
    ((CallView.record_stage _ _).symm.trans hafter)
  -- requests made before the exception are still there
  have hlater : (callRecorder.view first step.task).requested ≠ [] →
      (callRecorder.view trace step.task).requested ≠ [] := by
    intro hrequested
    obtain ⟨⟨decision, outcome⟩, hmem⟩ := List.exists_mem_of_ne_nil _ hrequested
    have hoccurs := ((viewFacts hfirst step.task).requests decision outcome).mpr hmem
    have hmem' := ((viewFacts hbehaves step.task).requests decision outcome).mp
      (by rw [htrace]; exact hoccurs.append _)
    exact List.ne_nil_of_mem hmem'
  have hstep : step ∈ trace := by rw [htrace]; simp
  obtain ⟨⟨before, event⟩, stepTask, call⟩ := step
  unfold milestone? at hmilestone
  split at hmilestone <;> cases hmilestone <;> rename_i heq <;> obtain rfl : event = _ := heq
  · exact .inl ⟨_, hstep, rfl, _, _, _, _, rfl⟩
  · exact .inr (hlater hallowed.2)
  · exact .inr (hlater hallowed.2)

/-- The sink raised on `spend_authorized`. -/
theorem occurs_of_sinkRaised (hsink : (callRecorder.view trace task).sinkRaised = true) :
    Occurs trace task fun event =>
      ∃ runId toolCallId operation auditId decisionId amountCents exception, event =
        .completed (.host (.emitTrace (.spendAuthorized runId toolCallId operation auditId
          decisionId amountCents))) (.error exception) := by
  obtain ⟨first, step, second, rfl, htask, hbefore, hafter⟩ :=
    callRecorder.exists_step_of_view (p := fun view => view.sinkRaised = true)
      (fun h => nomatch h) hsink
  refine ⟨step, by simp, htask, ?_⟩
  change (CallView.record _ _).sinkRaised = true at hafter
  unfold CallView.record CallView.recordHost CallView.recordHandler CallView.recordSink
    CallView.recordIssue CallView.recordAccess at hafter
  repeat' split at hafter
  all_goals first | exact absurd hafter hbefore | exact ⟨_, _, _, _, _, _, _, by assumption⟩

end Runs

/-! ## Cached authorizations -/

section Cache

variable {platform : Platform} {binding : PaybondRunBinding}
variable {init state after : RunState} {task : ℕ}

/-- The decision id is cached, or an execution has taken it from the cache. -/
def Retained (views : ℕ → CallView) (state : RunState) (decisionId : String) : Prop :=
  Cached state decisionId ∨
    ∃ task item, (views task).cached = some item ∧ item.2.auth.decisionId = some decisionId

theorem decisionUnder_set {state after : RunState} {cacheKey other : String}
    {stored : CachedAuthorizationEntry}
    (hcache : after.authorizedCalls = state.authorizedCalls.set cacheKey stored) :
    decisionUnder after other =
      if other = cacheKey then stored.auth.decisionId else decisionUnder state other := by
  rw [decisionUnder, hcache, OrderedDict.get?_set]
  split
  · rfl
  · rfl

/-- A step that does not lose the decision id retains it. -/
theorem Retained.step {views : ℕ → CallView} {last : AgentEntry}
    (hretained : Retained views last.before decisionId)
    (hallowed : Allowed platform binding last.call (views last.task) last.toStep)
    (hmoves : runMachine.Moves last.toStep after) (hkept : ¬Loses trace decisionId last) :
    Retained (Function.update views last.task ((views last.task).record last.toStep)) after
      decisionId := by
  have hsame : ∀ {item task},
      (((views last.task).record last.toStep).cached = (views last.task).cached ∨
        (views last.task).cached = none) → (views task).cached = some item →
      (Function.update views last.task ((views last.task).record last.toStep) task).cached =
        some item := by
    intro item task hrecord hitem
    by_cases htask : task = last.task
    · rw [htask] at hitem ⊢
      rw [Function.update_self]
      rcases hrecord with hrecord | hnone
      · exact hrecord.trans hitem
      · cases hnone.symm.trans hitem
    · rwa [Function.update_of_ne htask]
  obtain ⟨⟨before, event⟩, lastTask, call⟩ := last
  dsimp only at hretained hsame
  rcases cache_cases hallowed hmoves with
    ⟨cacheKey, stored, ⟨answer, hevent⟩, -, hcache, hview⟩ |
    ⟨cacheKey, taken, htaken, hcached, -, hcache, hview⟩ | hleaves
  · obtain rfl : event = _ := hevent
    rcases hretained with hretained | ⟨task, item, hitem, hdecision⟩
    · obtain ⟨key, hunder⟩ := cached_iff.mp hretained
      refine .inl (cached_iff.mpr ⟨key, ?_⟩)
      have hne : key ≠ cacheKey := by
        rintro rfl
        exact hkept hunder
      rw [decisionUnder_set hcache, if_neg hne]
      exact hunder
    · exact .inr ⟨task, item, hsame (.inl (by rw [hview])) hitem, hdecision⟩
  · rcases hretained with hretained | ⟨task, item, hitem, hdecision⟩
    · obtain ⟨key, hunder⟩ := cached_iff.mp hretained
      by_cases hkey : key = cacheKey
      · -- the entry moves to the execution
        subst hkey
        refine .inr ⟨lastTask, (key, taken), ?_, ?_⟩
        · rw [Function.update_self, hview]
        · dsimp only at htaken
          rw [decisionUnder, htaken] at hunder
          exact hunder
      · refine .inl (cached_iff.mpr ⟨key, ?_⟩)
        rw [decisionUnder, hcache, OrderedDict.get?_erase, if_neg hkey]
        exact hunder
    · exact .inr ⟨task, item, hsame (.inr hcached) hitem, hdecision⟩
  · rcases hretained with hretained | ⟨task, item, hitem, hdecision⟩
    · obtain ⟨key, hunder⟩ := cached_iff.mp hretained
      obtain ⟨stored, hstored, hdecision⟩ := Option.bind_eq_some_iff.mp hunder
      refine .inl (cached_iff.mpr ⟨key, ?_⟩)
      rcases hleaves.kept key stored hstored with hsame | ⟨now, hevent, hexpired⟩ | ⟨expected, hevent⟩
      · rw [decisionUnder, hsame]
        exact hdecision
      · obtain rfl : event = _ := hevent
        exact absurd ⟨(key, stored), OrderedDict.get?_eq_some_iff.mp hstored, hdecision, hexpired⟩
          hkept
      · obtain rfl : event = _ := hevent
        exact absurd hunder hkept
    · exact .inr ⟨task, item, hsame (.inl hleaves.cached) hitem, hdecision⟩

/-- In a run that does not lose it, a stored decision id is retained. -/
theorem retained_of_stored
    (hbehaves : runMachine.Behaves (agentProtocol platform binding) init trace state)
    (hkept : ∀ entry ∈ trace, ¬Loses trace decisionId entry) {cacheKey : String}
    {stored : CachedAuthorizationEntry}
    (hstored : (callRecorder.view trace task).stored = some (cacheKey, stored))
    (hdecision : stored.auth.decisionId = some decisionId) :
    Retained (callRecorder.view trace) state decisionId := by
  induction hbehaves with
  | start => cases hstored
  | @step trace last after _ _ _ hallowed hmoves ih =>
      have hearlier : ∀ entry ∈ trace, ¬Loses trace decisionId entry := fun entry hentry hloses =>
        hkept entry (List.mem_append_left _ hentry) (hloses.append [last])
      have hlast : ¬Loses (trace ++ [last]) decisionId last :=
        hkept last (List.mem_append_right _ (List.mem_singleton_self _))
      by_cases hbefore : (callRecorder.view trace task).stored = some (cacheKey, stored)
      · rw [Recorder.view_snoc_update]
        exact (ih hearlier hbefore).step hallowed hmoves hlast
      · by_cases htask : last.task = task
        · rw [Recorder.view_snoc_self _ htask] at hstored
          rcases CallView.record_stored _ hstored with hsame | ⟨answer, hevent⟩
          · exact absurd hsame hbefore
          · -- the entry has just been stored
            obtain ⟨⟨before, event⟩, lastTask, call⟩ := last
            obtain rfl : event = _ := hevent
            obtain ⟨elapsed, -, rfl⟩ := moves_access.mp hmoves
            refine .inl (cached_iff.mpr ⟨cacheKey, ?_⟩)
            rw [decisionUnder_set rfl, if_pos rfl]
            exact hdecision
        · rw [Recorder.view_snoc_other _ htask] at hstored
          exact absurd hstored hbefore

end Cache

/-! ## Executions -/

section Executions

variable {platform : Platform} {binding : PaybondRunBinding}
variable {init state : RunState} {task : ℕ}

/-- An execution that took a decision id from the cache holds it. -/
theorem holds_of_cached
    (hbehaves : runMachine.Behaves (agentProtocol platform binding) init trace state)
    {item : String × CachedAuthorizationEntry}
    (hcached : (callRecorder.view trace task).cached = some item)
    (hdecision : item.2.auth.decisionId = some decisionId) :
    IsCall trace task AgentCall.WrapsExecute ∧ Holds trace task decisionId := by
  obtain ⟨first, step, second, rfl, rfl, hbefore, hafter⟩ :=
    callRecorder.exists_step_of_view (p := fun view => view.cached = some item)
      (fun h => nomatch h) hcached
  have hstep : step ∈ first ++ step :: second := by simp
  rcases CallView.record_cached hafter with hsame | ⟨expected, hevent⟩
  · exact absurd hsame hbefore
  · refine ⟨⟨step, hstep, rfl, (reservationView hbehaves hstep).executes (by simp [hcached])⟩,
      step, hstep, rfl, ?_⟩
    rw [hevent]
    exact hdecision

/-- The outcomes that a call has requested are for the decision id it holds. -/
theorem finalised_of_requested
    (hbehaves : runMachine.Behaves (agentProtocol platform binding) init trace state)
    (hentry : entry ∈ trace)
    (hdecision : (callRecorder.view trace entry.task).decisionId = some decisionId)
    (hrequested : (callRecorder.view trace entry.task).requested ≠ []) :
    Finalised trace decisionId := by
  obtain ⟨⟨requested, outcome⟩, hmem⟩ := List.exists_mem_of_ne_nil _ hrequested
  have hsame := (reservationView hbehaves hentry).requested requested outcome hmem
  obtain rfl : requested = decisionId := Option.some.inj (hsame.symm.trans hdecision)
  obtain ⟨step, hstep, -, hrequest⟩ :=
    ((viewFacts hbehaves entry.task).requests requested outcome).mpr hmem
  exact ⟨step, hstep, by rw [hrequest, Option.map_some]⟩

/-- The last event of a task tells nothing new about it. -/
theorem CallView.record_ends (view : CallView) {step : AgentStep} (hends : step.event.Ends) :
    view.record step = view := by
  obtain ⟨before, event⟩ := step
  cases event with
  | issued op => exact hends.elim
  | completed op answer => exact hends.elim
  | finished outcome => rfl
  | cut => rfl

/-- The end of an execution is settled. -/
theorem Allowed.settled {call : AgentCall} {view : CallView} {step : AgentStep}
    (hallowed : Allowed platform binding call view step) (hends : step.event.Ends)
    (hruns : call.RunsHandler) : SettledAllowed call view := by
  obtain ⟨before, event⟩ := step
  cases event with
  | issued op => exact hends.elim
  | completed op answer => exact hends.elim
  | finished outcome =>
      rcases outcome with exception | (_ | result | _ | _ | _ | _)
      case ok.executed => exact hallowed.2.1
      all_goals exact hallowed.2
  | cut =>
      cases call with
      | authorizeToolCall | wrapExecute | guardTool | awrapToolCallCapability => cases hallowed
      | reloadPolicy | reloadPolicyOnHandle | triggerReload => exact hruns.elim

/-- Between two decisions of the scheduler, an authorization that Harbor granted is
stored. -/
theorem Settled.stored {past : List AgentStep} {call : AgentCall} {input : ToolCallInput}
    (hsettled : Settled (agentProtocol platform binding) call past)
    (hcall : call = .authorizeToolCall input)
    (hgrant : (past.foldl CallView.record {}).grant.isSome = true) :
    (past.foldl CallView.record {}).stored.isSome = true := by
  obtain ⟨before, last, rfl, hyields, hallowed⟩ := hsettled
  rw [List.foldl_append, List.foldl_cons, List.foldl_nil] at hgrant ⊢
  obtain ⟨requested, remote, hrecord⟩ :=
    CallView.record_yield (before.foldl CallView.record {}) hyields
  have hreloads : ¬call.Reloads binding := by
    rw [hcall]
    exact fun h => nomatch h
  rw [hrecord] at hgrant ⊢
  exact (Allowed.yieldAllowed hallowed hyields hreloads).stored input hcall hgrant

theorem AgentCall.WrapsExecute.runsHandler {call : AgentCall} (hwraps : call.WrapsExecute) :
    call.RunsHandler := by
  cases call with
  | wrapExecute input => trivial
  | _ => exact hwraps.elim

/-- In a run that does not lose it, an execution that holds a decision id runs or has
requested an outcome. -/
theorem heldOpen_or_finalised
    (hbehaves : runMachine.Behaves (agentProtocol platform binding) init trace state)
    (hkept : ∀ entry ∈ trace, ¬Loses trace decisionId entry) (hentry : entry ∈ trace)
    (hwraps : entry.call.WrapsExecute) (hholds : Holds trace entry.task decisionId) :
    HeldOpen trace decisionId ∨ Finalised trace decisionId := by
  by_cases hopen : ∀ later ∈ trace, later.task = entry.task → ¬later.event.Ends
  · exact .inl ⟨entry, hentry, hwraps, hholds, hopen⟩
  push Not at hopen
  obtain ⟨last, hlast, htask, hends⟩ := hopen
  have hruns : last.call.RunsHandler := by
    rw [← hbehaves.call_eq hentry hlast htask.symm]
    exact hwraps.runsHandler
  rw [← htask] at hholds
  have hdecision := (viewFacts hbehaves last.task).holds decisionId hholds
  -- nothing happens to the view after the last event
  obtain ⟨first, second, htrace⟩ := List.append_of_mem hlast
  have hview : callRecorder.view trace last.task = callRecorder.view first last.task := by
    rw [htrace, List.append_cons,
      Recorder.view_append_other _ (hbehaves.not_task_of_ends htrace hends),
      Recorder.view_snoc_self _ rfl]
    exact CallView.record_ends _ hends
  obtain ⟨-, -, -, hallowed⟩ := hbehaves.split htrace
  have hsettled := Allowed.settled hallowed hends hruns hruns
  rw [← hview] at hsettled
  rcases hsettled (by simp [hdecision]) with hrequested | hsink | ⟨exception, hexception, hstage⟩
  · exact .inr (finalised_of_requested hbehaves hlast hdecision hrequested)
  · -- the sink raised before the handler ran
    obtain ⟨step, hstep, hstepTask, _, _, _, _, _, _, _, hevent⟩ := occurs_of_sinkRaised hsink
    refine absurd ?_ (hkept step hstep)
    rw [Loses, hevent, hbehaves.call_eq hstep hlast hstepTask, hstepTask]
    exact ⟨hruns, hholds⟩
  rcases hstage with hraised | hfaulted
  · obtain ⟨step, hstep, hstepTask, hmilestone⟩ := occurs_of_raised hraised
    refine absurd ?_ (hkept step hstep)
    rw [← hstepTask] at hholds
    obtain ⟨⟨before, event⟩, stepTask, call⟩ := step
    unfold milestone? at hmilestone
    split at hmilestone <;> cases hmilestone <;> rename_i heq <;> obtain rfl : event = _ := heq
    · exact ⟨hexception, hholds⟩
    · exact ⟨hexception, hholds⟩
  · rcases faulted_cases hbehaves hfaulted with hsink | hrequested
    · obtain ⟨step, hstep, hstepTask, _, _, _, _, hevent⟩ := hsink
      refine absurd ?_ (hkept step hstep)
      rw [Loses, hevent, hstepTask]
      exact ⟨hexception, hholds⟩
    · exact .inr (finalised_of_requested hbehaves hlast hdecision hrequested)

end Executions

section Claim

variable (platform : Platform) (binding : PaybondRunBinding) (init : RunState)
variable (actions : List (Action AgentCall runMachine))

/-- In a run that does not lose it, a decision id that the interceptor came to hold is
accounted for whenever control is with the loop. -/
theorem accounted_of_not_loses {task : ℕ} {decisionId : String}
    (hcall : IsCall (runAgent platform binding init actions).trace task AgentCall.UsesInterceptor)
    (hholds : Holds (runAgent platform binding init actions).trace task decisionId)
    (hkept : ∀ entry ∈ (runAgent platform binding init actions).trace,
      ¬Loses (runAgent platform binding init actions).trace decisionId entry) :
    Accounted (runAgent platform binding init actions).trace
      (runAgent platform binding init actions).shared decisionId := by
  obtain ⟨entry, hentry, rfl, huses⟩ := hcall
  have hsound := runAgent_sound platform binding init actions
  have hbehaves := hsound.behaves
  cases hinterceptor : entry.call with
  | wrapExecute input =>
      exact .inr (heldOpen_or_finalised hbehaves hkept hentry (by rw [hinterceptor]; trivial) hholds)
  | authorizeToolCall input =>
      have hview := reservationView hbehaves hentry
      have hdecision := (viewFacts hbehaves entry.task).holds decisionId hholds
      -- a call that authorizes takes nothing from the cache, so the answer is its own
      have hcached : (callRecorder.view (runAgent platform binding init actions).trace
          entry.task).cached = none := by
        by_contra hcached
        have hwraps := hview.executes hcached
        rw [hinterceptor] at hwraps
        exact hwraps
      obtain ⟨auth, hauth, hauthDecision⟩ := Option.bind_eq_some_iff.mp hdecision
      rw [CallView.auth, hcached, Option.map_none, Option.none_or, Option.map_eq_some_iff] at hauth
      obtain ⟨⟨request, result⟩, hgrant, rfl⟩ := hauth
      obtain ⟨⟨cacheKey, stored⟩, hstored⟩ := Option.isSome_iff_exists.mp
        (Settled.stored (hsound.exists_last hentry) hinterceptor
          (Option.isSome_iff_exists.mpr ⟨_, hgrant⟩))
      obtain ⟨request', hgrant'⟩ := hview.stored cacheKey stored hstored
      have hresult : stored.auth = result :=
        congrArg Prod.snd (Option.some.inj (hgrant'.symm.trans hgrant))
      rcases retained_of_stored hbehaves hkept hstored (by rw [hresult]; exact hauthDecision) with
        hretained | ⟨task, item, hitem, hitemDecision⟩
      · exact .inl hretained
      · obtain ⟨⟨other, hother, rfl, hwraps⟩, hotherHolds⟩ :=
          holds_of_cached hbehaves hitem hitemDecision
        exact .inr (heldOpen_or_finalised hbehaves hkept hother hwraps hotherHolds)
  | _ => rw [hinterceptor] at huses; exact huses.elim

end Claim

/-! ## A booking that is authorized ahead -/

/-- Harbor's next decision, and whatever else a booking needs. -/
def decidingHost (decisionId : String) : (call : HostCall) → Except PyExc call.Answer
  | .verifyCapability _ =>
      .ok { allow := true, auditId := "audit", decisionId := some decisionId }
  | call => bookingHost false call

/-- An authorization, and the execution that uses it. -/
def prepaidActions : List (Action AgentCall runMachine) :=
  [.start (.authorizeToolCall (bookHotel "call")) (hostChoices (decidingHost "first")),
    .resume 0 (hostChoices (decidingHost "first")),
    .start (.wrapExecute (bookHotel "call")) (hostChoices (decidingHost "second")),
    .resume 1 (hostChoices (decidingHost "second"))]

/-- Two authorizations of one tool call. -/
def repeatedActions : List (Action AgentCall runMachine) :=
  [.start (.authorizeToolCall (bookHotel "call")) (hostChoices (decidingHost "first")),
    .resume 0 (hostChoices (decidingHost "first")),
    .start (.authorizeToolCall (bookHotel "call")) (hostChoices (decidingHost "second")),
    .resume 1 (hostChoices (decidingHost "second"))]

def travelRun (actions : List (Action AgentCall runMachine)) :
    Loop AgentCall Val PyExc AgentOutcome RunState :=
  runAgent platformTravel bindingTravel (.bind registryTravel none) actions

theorem accounted_of_not_loses_prepaid :
    Accounted (travelRun prepaidActions).trace (travelRun prepaidActions).shared "first" :=
  accounted_of_not_loses platformTravel bindingTravel (.bind registryTravel none) prepaidActions
    (show IsCall (travelRun prepaidActions).trace 0 _ by decide +kernel)
    (show Holds (travelRun prepaidActions).trace 0 "first" by decide +kernel)
    (show ∀ entry ∈ (travelRun prepaidActions).trace,
      ¬Loses (travelRun prepaidActions).trace "first" entry by decide +kernel)

/-- The second authorization overwrites the first, whose reservation nobody releases. -/
theorem authorizeToolCall_orphans_overwritten :
    IsCall (travelRun repeatedActions).trace 0 AgentCall.UsesInterceptor ∧
      Holds (travelRun repeatedActions).trace 0 "first" ∧
      ¬Accounted (travelRun repeatedActions).trace (travelRun repeatedActions).shared "first" := by
  decide +kernel

end PaybondKit.Agent
