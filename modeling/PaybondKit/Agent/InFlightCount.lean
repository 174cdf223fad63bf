import PaybondKit.Agent.Idle
import PaybondKit.Foundation.Answers
import PaybondKit.Foundation.Brackets
import PaybondKit.Policy.Quiescence

/-!
# The in-flight count at every moment

Both methods of the interceptor count themselves as in flight, and leave the count again in a
`finally` clause. However the calls are interleaved and however they end, the count is the number
of calls that have begun and not ended.
-/

namespace PaybondKit.Agent

open Coroutine

/-- `_begin_in_flight`. -/
def opensFlight : Op → Bool
  | .access .beginInFlight => true
  | _ => false

/-- `_end_in_flight`. -/
def closesFlight : Op → Bool
  | .access .endInFlight => true
  | _ => false

/-- The calls of the interceptor are bracketed by the in-flight count. -/
abbrev flightSpec : LocalSpec AgentCall BracketView Val PyExc AgentOutcome RunState :=
  bracketSpec opensFlight closesFlight Val PyExc AgentOutcome RunState AgentCall.UsesInterceptor

/-! ## The methods -/

section Methods

variable {platform : Platform} {binding : PaybondRunBinding}

/-- The operation changes the in-flight count. -/
abbrev CountsFlight : Op → Prop := IsBracket opensFlight closesFlight

theorem countsFlight_cases {op : Op} (hop : CountsFlight op) :
    op = .access .beginInFlight ∨ op = .access .endInFlight := by
  rcases hop with hop | hop
  · unfold opensFlight at hop
    split at hop
    · exact .inl rfl
    · cases hop
  · unfold closesFlight at hop
    split at hop
    · exact .inr rfl
    · cases hop

/-- No operation of a kind that leaves out both counts a call. -/
theorem not_countsFlight {kind : Op → Prop} (hbegin : ¬kind (.access .beginInFlight))
    (hend : ¬kind (.access .endInFlight)) {op : Op} (hop : kind op) : ¬CountsFlight op := by
  intro hcounts
  rcases countsFlight_cases hcounts with rfl | rfl
  · exact hbegin hop
  · exact hend hop

theorem avoids_host {call : HostCall} : (host call).Avoids CountsFlight :=
  avoids_call fun hop => by rcases countsFlight_cases hop with h | h <;> cases h

theorem avoids_readRegistry : (access .readRegistry).Avoids CountsFlight :=
  avoids_call fun hop => by rcases countsFlight_cases hop with h | h <;> cases h

theorem avoids_resolve {toolName toolCallId operation : String} {input : ToolCallInput}
    {entry : PaybondSideEffectingToolEntry} :
    (resolveSideEffectingCall binding toolName toolCallId input entry operation).Avoids
      CountsFlight :=
  avoids_resolveSideEffectingCall fun _ => @not_countsFlight Resolves id id _

theorem avoids_authorizeResolved {toolName toolCallId : String} {resolved : ResolvedCall}
    {pinnedDigest : Option String} :
    (authorizeResolved binding toolName toolCallId resolved pinnedDigest).Avoids CountsFlight := by
  refine avoids_bind avoids_host fun _ => avoids_bind (avoids_tryExcept ?_ fun _ => ?_)
    fun answer => ?_
  · exact avoids_bind (avoids_assertSpendAuthorized
      (@not_countsFlight Obtains id id _ trivial)) fun _ => trivial
  · exact avoids_bind (avoids_decideRefusal fun _ =>
      @not_countsFlight Obtains id id _ trivial) fun _ => trivial
  · cases answer with
    | inl decision => trivial
    | inr auth =>
        exact avoids_bind (avoids_cacheAuthorization fun _ => @not_countsFlight Caches id id _)
          fun _ => avoids_bind avoids_host fun _ => trivial

theorem avoids_authorizeInFlight {input : ToolCallInput} {pinnedDigest : Option String} :
    (authorizeInFlight binding input pinnedDigest).Avoids CountsFlight := by
  refine avoids_bind avoids_readRegistry fun registry => ?_
  split
  · trivial
  · trivial
  · refine avoids_bind (avoids_tryExcept (avoids_bind avoids_resolve fun _ => trivial)
      fun exception => ?_) fun resolution => ?_
    · split <;> trivial
    · cases resolution with
      | inl decision => trivial
      | inr resolved => exact avoids_authorizeResolved

theorem avoids_wrapSideEffecting {toolName toolCallId operation : String} {input : ToolCallInput}
    {entry : PaybondSideEffectingToolEntry} {pinnedDigest : Option String} :
    (wrapSideEffecting platform binding toolName toolCallId input entry operation
      pinnedDigest).Avoids CountsFlight := by
  refine avoids_bind avoids_resolve fun resolved => avoids_bind avoids_host fun _ => ?_
  refine avoids_bind (avoids_obtainAuthorization fun _ => @not_countsFlight Obtains id id _)
    fun authorized => ?_
  refine avoids_bind (avoids_call (@not_countsFlight Handles id id _ trivial)) fun _ => ?_
  refine avoids_bind (avoids_call (@not_countsFlight Obtains id id _ trivial)) fun _ => ?_
  refine avoids_bind (avoids_executeAndFinalize fun _ => @not_countsFlight Handles id id _)
    fun toolResult => ?_
  refine avoids_reportExecution (fun _ => @not_countsFlight Submits id id _) (fun _ _ hop => ?_)
    (fun _ => @not_countsFlight Obtains id id _ trivial)
    (@not_countsFlight Obtains id id _ trivial)
  rcases countsFlight_cases hop with h | h <;> cases h

theorem avoids_wrapInFlight {input : ToolCallInput} {pinnedDigest : Option String} :
    (wrapInFlight platform binding input pinnedDigest).Avoids CountsFlight := by
  refine avoids_bind avoids_readRegistry fun registry => ?_
  split
  · exact avoids_bind (avoids_maybeAwait (@not_countsFlight Handles id id _ trivial)
      (@not_countsFlight Handles id id _ trivial)) fun _ => trivial
  · trivial
  · exact avoids_wrapSideEffecting

/-- Both methods are one bracket around what they do. -/
theorem follows_flight {α : Type} {input : ToolCallInput} {body : Option String → Routine α}
    (hbody : ∀ pinnedDigest, (body pinnedDigest).Avoids CountsFlight) (state : RunState) :
    ((requireToolCall input).bind fun _ => (access .beginInFlight).bind fun pinnedDigest =>
        (body pinnedDigest).tryFinally (access .endInFlight)).Follows runMachine
      (BracketView.record opensFlight closesFlight)
      (fun view (step : AgentStep) => view.Allowed step)
      (fun _ view _ => view.opened = true → view.closed = true) {} state := by
  refine follows_bracket (avoids_requireToolCall input) rfl rfl rfl
    (fun choice state => ⟨_, rfl⟩) hbody (fun state => ?_) state
  exact follows_access.mpr fun elapsed => ⟨rfl, rfl⟩

theorem program_flies (call : AgentCall) :
    (program platform binding call).Obeys runMachine flightSpec call := by
  intro state
  by_cases huses : call.UsesInterceptor
  · have hends : ∀ {α : Type} {method : Routine α} (result : α → AgentOutcome),
        method.Follows runMachine (BracketView.record opensFlight closesFlight)
          (fun view (step : AgentStep) => view.Allowed step)
          (fun _ view _ => view.opened = true → view.closed = true) {} state →
        (method.bind fun value => .ret (result value)).Follows runMachine flightSpec.record
          (flightSpec.allowed call)
          (fun outcome view state => flightSpec.allowed call view ⟨state, .finished outcome⟩)
          flightSpec.start state := by
      intro α method result hmethod
      refine (follows_bind _ _).mpr (hmethod.mono (fun _ _ h _ => h) fun outcome view state h => ?_)
      cases outcome with
      | ok value => exact fun _ => h
      | error exception => exact fun _ => h
    cases call with
    | authorizeToolCall input =>
        exact hends .decided (follows_flight (fun _ => avoids_authorizeInFlight) state)
    | wrapExecute input =>
        exact hends .executed (follows_flight (fun _ => avoids_wrapInFlight) state)
    | _ => exact huses.elim
  · exact .of_forall (fun _ _ h => absurd h huses) fun _ _ _ h => absurd h huses

end Methods

/-! ## Runs -/

/-- The call has left the count, or has ended without being in it. -/
def Leaves (event : AgentEvent) : Prop := IsEnd event ∨ event.Ends

section Traces

variable {platform : Platform} {binding : PaybondRunBinding} {init state : RunState}
variable {trace first second : List AgentEntry} {entry : AgentEntry} {task : ℕ}

theorem performs_opensFlight_iff {event : AgentEvent} :
    event.Performs opensFlight ↔ IsBegin event := by
  constructor
  · intro hperforms
    cases event with
    | completed op answer =>
        change opensFlight op = true at hperforms
        unfold opensFlight at hperforms
        split at hperforms
        · exact ⟨answer, rfl⟩
        · cases hperforms
    | _ => exact hperforms.elim
  · rintro ⟨answer, rfl⟩
    rfl

theorem performs_closesFlight_iff {event : AgentEvent} :
    event.Performs closesFlight ↔ IsEnd event := by
  constructor
  · intro hperforms
    cases event with
    | completed op answer =>
        change closesFlight op = true at hperforms
        unfold closesFlight at hperforms
        split at hperforms
        · exact ⟨answer, rfl⟩
        · cases hperforms
    | _ => exact hperforms.elim
  · rintro ⟨answer, rfl⟩
    rfl

theorem pinned_iff (hbehaves : runMachine.Behaves (agentProtocol platform binding) init trace state) :
    (callRecorder.view trace task).pinned.isSome = true ↔ Occurs trace task IsBegin := by
  constructor
  · intro hpinned
    obtain ⟨before, entry, after, rfl, htask, hnot, hset⟩ :=
      callRecorder.exists_step_of_view (p := fun view => view.pinned.isSome = true)
        (fun h => nomatch h) hpinned
    exact ⟨entry, by simp, htask, (CallView.record_begun _ hset).resolve_left hnot⟩
  · rintro ⟨entry, hentry, rfl, hbegin⟩
    refine hbehaves.view_of_mem (p := fun view => view.pinned.isSome = true)
      (fun step => IsBegin step.event) (fun _ _ step _ hbegin => ?_)
      (fun _ _ _ _ => CallView.record_keeps_begun _) hentry hbegin
    obtain ⟨before, event⟩ := step
    obtain ⟨answer, rfl⟩ := hbegin
    rfl

theorem ended_iff (hbehaves : runMachine.Behaves (agentProtocol platform binding) init trace state) :
    (callRecorder.view trace task).ended = true ↔ Occurs trace task IsEnd := by
  constructor
  · intro hended
    obtain ⟨before, entry, after, rfl, htask, hnot, hset⟩ :=
      callRecorder.exists_step_of_view (p := fun view => view.ended = true)
        (fun h => nomatch h) hended
    exact ⟨entry, by simp, htask, (CallView.record_ended _ hset).resolve_left hnot⟩
  · rintro ⟨entry, hentry, rfl, hend⟩
    refine hbehaves.view_of_mem (p := fun view => view.ended = true)
      (fun step => IsEnd step.event) (fun _ _ step _ hend => ?_)
      (fun _ _ _ _ => CallView.record_keeps_ended _) hentry hend
    obtain ⟨before, event⟩ := step
    obtain ⟨answer, rfl⟩ := hend
    rfl

/-- Only the calls of the interceptor begin. -/
theorem usesInterceptor_of_begin
    (hbehaves : runMachine.Behaves (agentProtocol platform binding) init trace state)
    (hentry : entry ∈ trace) (hbegin : IsBegin entry.event) : entry.call.UsesInterceptor := by
  obtain ⟨first, second, -, hallowed⟩ := hbehaves.allowed_of_mem hentry
  obtain ⟨answer, hevent⟩ := hbegin
  change Allowed platform binding entry.call _ entry.toStep at hallowed
  unfold Allowed at hallowed
  rw [hevent] at hallowed
  exact hallowed.1

/-- Only a call that has begun counts itself out. -/
theorem usesInterceptor_of_end
    (hbehaves : runMachine.Behaves (agentProtocol platform binding) init trace state)
    (hentry : entry ∈ trace) (hend : IsEnd entry.event) : entry.call.UsesInterceptor := by
  obtain ⟨first, second, rfl⟩ := List.append_of_mem hentry
  obtain ⟨hearlier, -, -, hallowed⟩ := hbehaves.split rfl
  change Allowed platform binding entry.call _ entry.toStep at hallowed
  unfold Allowed at hallowed
  obtain ⟨answer, hevent⟩ := hend
  rw [hevent] at hallowed
  obtain ⟨other, hother, htask, hbegin⟩ := (pinned_iff hearlier).mp hallowed.1
  rw [← hbehaves.call_eq (List.mem_append_left _ hother) hentry htask]
  exact usesInterceptor_of_begin hbehaves (List.mem_append_left _ hother) hbegin

/-- A call that has begun has left the count when it has ended. -/
theorem occurs_isEnd_of_ends
    (hbehaves : runMachine.Behaves (agentProtocol platform binding) init trace state)
    (hflies : runMachine.Behaves flightSpec init trace state)
    (hbegun : Occurs trace task IsBegin) (hends : Occurs trace task Event.Ends) :
    Occurs trace task IsEnd := by
  obtain ⟨begin_, hbeginMem, hbeginTask, hbegin⟩ := hbegun
  obtain ⟨last, hlastMem, hlastTask, hlast⟩ := hends
  obtain ⟨first, second, rfl⟩ := List.append_of_mem hlastMem
  have hcall : last.call.UsesInterceptor := by
    rw [← hbehaves.call_eq hbeginMem hlastMem (hbeginTask.trans hlastTask.symm)]
    exact usesInterceptor_of_begin hbehaves hbeginMem hbegin
  -- the beginning lies before the end
  have hearlier : Occurs first last.task (Event.Performs opensFlight) := by
    rcases List.mem_append.mp hbeginMem with hmem | hmem
    · exact ⟨begin_, hmem, hbeginTask.trans hlastTask.symm, performs_opensFlight_iff.mpr hbegin⟩
    rcases List.mem_cons.mp hmem with rfl | hmem
    · obtain ⟨answer, hbegin⟩ := hbegin
      rw [hbegin] at hlast
      exact hlast.elim
    · exact absurd (hbeginTask.trans hlastTask.symm)
        (hbehaves.not_task_of_ends rfl hlast begin_ hmem)
  have hclosed : Occurs first last.task (Event.Performs closesFlight) := by
    cases hevent : last.event with
    | finished outcome => exact closed_of_finished hflies rfl hcall hevent hearlier
    | cut =>
        -- only a reload is cut
        have hallowed := (hbehaves.split rfl).2.2.2
        change Allowed platform binding last.call _ last.toStep at hallowed
        unfold Allowed at hallowed
        rw [hevent] at hallowed
        cases hkind : last.call <;> rw [hkind] at hallowed hcall <;>
          first | exact hcall.elim | cases hallowed
    | _ =>
        rw [hevent] at hlast
        exact hlast.elim
  obtain ⟨entry, hentry, htask, hcloses⟩ := hclosed
  exact ⟨entry, List.mem_append_left _ hentry, htask.trans hlastTask,
    performs_closesFlight_iff.mp hcloses⟩

theorem inFlight_iff
    (hbehaves : runMachine.Behaves (agentProtocol platform binding) init trace state)
    (hflies : runMachine.Behaves flightSpec init trace state) :
    (callRecorder.view trace task).InFlight ↔
      Occurs trace task IsBegin ∧ ¬Occurs trace task Leaves := by
  rw [CallView.InFlight, pinned_iff hbehaves, ← Bool.not_eq_true, ended_iff hbehaves]
  refine and_congr_right fun hbegun => not_congr ⟨?_, ?_⟩
  · rintro ⟨entry, hentry, htask, hend⟩
    exact ⟨entry, hentry, htask, .inl hend⟩
  · rintro ⟨entry, hentry, htask, hend | hends⟩
    · exact ⟨entry, hentry, htask, hend⟩
    · exact occurs_isEnd_of_ends hbehaves hflies hbegun ⟨entry, hentry, htask, hends⟩

end Traces

/-- A moment of a run: what has happened so far, and the state that it has led to. -/
inductive Moment (run : Loop AgentCall Val PyExc AgentOutcome RunState) :
    List AgentEntry → RunState → Prop where
  | before {past later : List AgentEntry} {entry : AgentEntry}
      (htrace : run.trace = past ++ entry :: later) : Moment run past entry.before
  | last : Moment run run.trace run.shared

section Claim

variable {platform : Platform} {binding : PaybondRunBinding}
variable {registry : PaybondToolRegistry} {snapshot : Option PaybondPolicySnapshot}
variable {actions : List (Action AgentCall runMachine)}

end Claim

/-! ## Two calls at once -/

/-- An execution and an authorization ask Harbor at the same time. -/
def waitingActions : List (Action AgentCall runMachine) :=
  [.start (.wrapExecute (bookHotel "first")) (hostChoices (decidingHost "decision")),
    .start (.authorizeToolCall (bookHotel "second")) (hostChoices (decidingHost "decision"))]

end PaybondKit.Agent
