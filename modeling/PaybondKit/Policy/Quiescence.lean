import Mathlib.Data.Finset.Card
import PaybondKit.Agent.PinnedDigest

/-!
# Tool calls in flight when a snapshot is applied

The in-flight count is the number of calls that have begun and not ended. A reload
reads it before it loads the next policy, and does not read it again: the snapshot
is applied in a quiet moment exactly when every call that has begun since the last
reading has ended.
-/

namespace PaybondKit.Agent

/-! ## Reading events -/

def IsCheck (event : AgentEvent) : Prop :=
  ∃ answer, event = .completed (.access .readInFlightCount) answer

/-- The snapshot that the event makes the current one. -/
def appliedSnapshot? : AgentEvent → Option PaybondPolicySnapshot
  | .completed (.access (.applyPolicySnapshot snapshot)) _ => some snapshot
  | _ => none

theorem eq_of_appliedSnapshot? {event : AgentEvent} {snapshot : PaybondPolicySnapshot}
    (happly : appliedSnapshot? event = some snapshot) :
    ∃ answer, event = .completed (.access (.applyPolicySnapshot snapshot)) answer := by
  unfold appliedSnapshot? at happly
  split at happly <;> cases happly
  exact ⟨_, rfl⟩

def IsBegin (event : AgentEvent) : Prop :=
  ∃ answer, event = .completed (.access .beginInFlight) answer

def IsEnd (event : AgentEvent) : Prop :=
  ∃ answer, event = .completed (.access .endInFlight) answer

/-- Every call that has begun since the task last read the in-flight count has ended. -/
def QuietSinceCheck (past : List AgentEntry) (task : ℕ) : Prop :=
  ∃ before check during, past = before ++ check :: during ∧
    check.task = task ∧ IsCheck check.event ∧
    (∀ later ∈ during, later.task = task → ¬IsCheck later.event) ∧
    ∀ started ∈ during, IsBegin started.event → Occurs during started.task IsEnd

variable {platform : Platform} {binding : PaybondRunBinding} {call : AgentCall}
variable {view : CallView} {step : AgentStep} {init state : RunState}
variable {trace : List AgentEntry} {task : ℕ}

/-! ## What a view knows of its call -/

theorem CallView.record_begun (view : CallView)
    (hbegun : (view.record step).pinned.isSome = true) :
    view.pinned.isSome = true ∨ IsBegin step.event := by
  unfold CallView.record CallView.recordHost CallView.recordHandler CallView.recordSink
    CallView.recordIssue CallView.recordAccess at hbegun
  repeat' split at hbegun
  all_goals first | exact .inl hbegun | exact .inr ⟨_, by assumption⟩

theorem CallView.record_ended (view : CallView) (hended : (view.record step).ended = true) :
    view.ended = true ∨ IsEnd step.event := by
  unfold CallView.record CallView.recordHost CallView.recordHandler CallView.recordSink
    CallView.recordIssue CallView.recordAccess at hended
  repeat' split at hended
  all_goals first | exact .inl hended | exact .inr ⟨_, by assumption⟩

theorem CallView.record_keeps_begun (view : CallView) (hbegun : view.pinned.isSome = true) :
    (view.record step).pinned.isSome = true := by
  unfold CallView.record CallView.recordHost CallView.recordHandler CallView.recordSink
    CallView.recordIssue CallView.recordAccess
  repeat' split
  all_goals first | exact hbegun | rfl

theorem CallView.record_keeps_ended (view : CallView) (hended : view.ended = true) :
    (view.record step).ended = true := by
  unfold CallView.record CallView.recordHost CallView.recordHandler CallView.recordSink
    CallView.recordIssue CallView.recordAccess
  repeat' split
  all_goals first | exact hended | rfl

theorem CallView.record_lastCount (view : CallView) (hcheck : ¬IsCheck step.event) :
    (view.record step).lastCount = view.lastCount := by
  unfold CallView.record CallView.recordHost CallView.recordHandler CallView.recordSink
    CallView.recordIssue CallView.recordAccess
  repeat' split
  all_goals first | rfl | exact absurd ⟨_, by assumption⟩ hcheck

/-- A call is in flight between its beginning and its end. -/
def CallView.InFlight (view : CallView) : Prop := view.pinned.isSome = true ∧ view.ended = false

/-- The tasks whose calls are in flight. -/
structure InFlightTasks (views : ℕ → CallView) (count : ℕ) (tasks : Finset ℕ) : Prop where
  mem_iff : ∀ task, task ∈ tasks ↔ (views task).InFlight
  card : count = tasks.card
  begun : ∀ task, (views task).ended = true → (views task).pinned.isSome = true

/-- Only a beginning and an end change the count. -/
theorem inFlightCount_of_moves {after : RunState} (hmoves : runMachine.Moves step after)
    (hbegin : ¬IsBegin step.event) (hend : ¬IsEnd step.event) :
    after.inFlightCount = step.before.inFlightCount := by
  obtain ⟨before, event⟩ := step
  cases event with
  | completed op answer =>
      cases op with
      | host host => rw [moves_host hmoves]
      | access access =>
          obtain ⟨elapsed, -, rfl⟩ := moves_access.mp hmoves
          cases access with
          | beginInFlight => exact absurd ⟨answer, rfl⟩ hbegin
          | endInFlight => exact absurd ⟨answer, rfl⟩ hend
          | _ => rfl
  | _ =>
      obtain rfl : after = before := hmoves
      rfl

/-- One task has taken a step. -/
theorem InFlightTasks.update {views : ℕ → CallView} {count count' : ℕ} {tasks tasks' : Finset ℕ}
    {next : CallView} (htasks : InFlightTasks views count tasks)
    (hself : task ∈ tasks' ↔ next.InFlight)
    (hother : ∀ other, other ≠ task → (other ∈ tasks' ↔ other ∈ tasks))
    (hcard : count' = tasks'.card) (hbegun : next.ended = true → next.pinned.isSome = true) :
    InFlightTasks (Function.update views task next) count' tasks' where
  mem_iff other := by
    by_cases hne : other = task
    · rw [hne, Function.update_self]
      exact hself
    · rw [Function.update_of_ne hne, hother other hne]
      exact htasks.mem_iff other
  card := hcard
  begun other := by
    by_cases hne : other = task
    · rw [hne, Function.update_self]
      exact hbegun
    · rw [Function.update_of_ne hne]
      exact htasks.begun other

/-- Every step keeps the count right. -/
theorem InFlightTasks.record {views : ℕ → CallView} {tasks : Finset ℕ} {after : RunState}
    (htasks : InFlightTasks views step.before.inFlightCount tasks)
    (hallowed : Allowed platform binding call (views task) step)
    (hmoves : runMachine.Moves step after) :
    ∃ tasks', InFlightTasks (Function.update views task ((views task).record step))
      after.inFlightCount tasks' := by
  by_cases hbegin : IsBegin step.event
  · obtain ⟨before, event⟩ := step
    obtain ⟨answer, rfl⟩ := hbegin
    obtain ⟨elapsed, -, rfl⟩ := moves_access.mp hmoves
    have hnone : (views task).pinned = none := hallowed.2
    have hended : (views task).ended = false := by
      by_contra hended
      have hbegun := htasks.begun task (by simpa using hended)
      simp [hnone] at hbegun
    have hnew : task ∉ tasks := by
      rw [htasks.mem_iff]
      rintro ⟨hbegun, -⟩
      simp [hnone] at hbegun
    refine ⟨insert task tasks, htasks.update ?_ (fun other hne => ?_) ?_ fun _ => rfl⟩
    · exact iff_of_true (Finset.mem_insert_self _ _) ⟨rfl, hended⟩
    · rw [Finset.mem_insert, or_iff_right hne]
    · rw [Finset.card_insert_of_notMem hnew]
      exact congrArg (· + 1) htasks.card
  by_cases hend : IsEnd step.event
  · obtain ⟨before, event⟩ := step
    obtain ⟨answer, rfl⟩ := hend
    obtain ⟨elapsed, -, rfl⟩ := moves_access.mp hmoves
    have hmem : task ∈ tasks := (htasks.mem_iff task).mpr hallowed
    refine ⟨tasks.erase task, htasks.update ?_ (fun other hne => ?_) ?_ fun _ => hallowed.1⟩
    · exact iff_of_false (Finset.notMem_erase _ _) fun hflight => nomatch hflight.2
    · rw [Finset.mem_erase, and_iff_right hne]
    · rw [Finset.card_erase_of_mem hmem]
      exact congrArg (· - 1) htasks.card
  · have hbegun : ((views task).record step).pinned.isSome = (views task).pinned.isSome := by
      refine Bool.eq_iff_iff.mpr ⟨fun h => ?_, CallView.record_keeps_begun _⟩
      exact (CallView.record_begun _ h).resolve_right hbegin
    have hended : ((views task).record step).ended = (views task).ended := by
      refine Bool.eq_iff_iff.mpr ⟨fun h => ?_, CallView.record_keeps_ended _⟩
      exact (CallView.record_ended _ h).resolve_right hend
    refine ⟨tasks, htasks.update ?_ (fun _ _ => Iff.rfl) ?_ ?_⟩
    · rw [htasks.mem_iff, CallView.InFlight, CallView.InFlight, hbegun, hended]
    · rw [inFlightCount_of_moves hmoves hbegin hend]
      exact htasks.card
    · rw [hbegun, hended]
      exact htasks.begun task

/-- The in-flight count of every run is the number of calls in flight. -/
theorem exists_inFlightTasks
    (hbehaves : runMachine.Behaves (agentProtocol platform binding) init trace state)
    (hinit : init.inFlightCount = 0) :
    ∃ tasks, InFlightTasks (callRecorder.view trace) state.inFlightCount tasks := by
  refine hbehaves.invariant
    (fun trace state => ∃ tasks, InFlightTasks (callRecorder.view trace) state.inFlightCount tasks) ?_ fun trace entry after _ htasks hallowed hmoves => ?_
  · exact ⟨∅, fun task => iff_of_false (Finset.notMem_empty _) fun h => (nomatch h.1), hinit,
      fun _ h => nomatch h⟩
  · obtain ⟨tasks, htasks⟩ := htasks
    rw [Recorder.view_snoc_update]
    exact htasks.record hallowed hmoves

theorem inFlightCount_eq_zero_iff
    (hbehaves : runMachine.Behaves (agentProtocol platform binding) init trace state)
    (hinit : init.inFlightCount = 0) :
    state.inFlightCount = 0 ↔ ∀ task, ¬(callRecorder.view trace task).InFlight := by
  obtain ⟨tasks, htasks⟩ := exists_inFlightTasks hbehaves hinit
  rw [htasks.card, Finset.card_eq_zero, Finset.eq_empty_iff_forall_notMem]
  simp only [htasks.mem_iff]

/-! ## The last check -/

theorem CallView.record_check (view : CallView) (hcheck : IsCheck step.event) :
    (view.record step).lastCount = some step.before.inFlightCount := by
  obtain ⟨before, event⟩ := step
  obtain ⟨answer, rfl⟩ := hcheck
  rfl

/-- The calls in flight when a snapshot is applied have begun since the last check. -/
theorem inFlightCount_eq_zero_iff_quietSinceCheck
    (hbehaves : runMachine.Behaves (agentProtocol platform binding) init trace state)
    (hinit : init.inFlightCount = 0)
    (hchecked : (callRecorder.view trace task).lastCount = some 0) :
    state.inFlightCount = 0 ↔ QuietSinceCheck trace task := by
  rw [inFlightCount_eq_zero_iff hbehaves hinit]
  have hview_of : ∀ entry ∈ trace,
      (IsBegin entry.event → (callRecorder.view trace entry.task).pinned.isSome = true) ∧
      (IsEnd entry.event → (callRecorder.view trace entry.task).ended = true) := by
    intro entry hentry
    constructor
    · refine hbehaves.view_of_mem (p := fun view => view.pinned.isSome = true)
        (fun step => IsBegin step.event) (fun _ _ step _ hbegin => ?_)
        (fun _ _ _ _ => CallView.record_keeps_begun _) hentry
      obtain ⟨before, event⟩ := step
      obtain ⟨answer, rfl⟩ := hbegin
      rfl
    · refine hbehaves.view_of_mem (p := fun view => view.ended = true)
        (fun step => IsEnd step.event) (fun _ _ step _ hend => ?_)
        (fun _ _ _ _ => CallView.record_keeps_ended _) hentry
      obtain ⟨before, event⟩ := step
      obtain ⟨answer, rfl⟩ := hend
      rfl
  constructor
  · intro hquiet
    obtain ⟨before, check, during, rfl, htask, hcheck, hlast, -⟩ :=
      callRecorder.exists_last_step (·.lastCount) (fun step => IsCheck step.event)
        (fun view _ hcheck => CallView.record_lastCount view hcheck) rfl hchecked
    refine ⟨before, check, during, rfl, htask, hcheck, hlast, fun started hstarted hbegin => ?_⟩
    have hmem : started ∈ before ++ check :: during :=
      List.mem_append_right _ (List.mem_cons_of_mem _ hstarted)
    have hended : (callRecorder.view (before ++ check :: during) started.task).ended = true := by
      by_contra hended
      exact hquiet started.task ⟨(hview_of started hmem).1 hbegin, by simpa using hended⟩
    -- the call had not begun before, so it has ended since
    obtain ⟨first, second, rfl⟩ := List.append_of_mem hstarted
    obtain ⟨hfirst, -, -, hallowed⟩ := hbehaves.split
      (show before ++ check :: (first ++ started :: second) =
        (before ++ check :: first) ++ started :: second by simp)
    have hopen : ¬(callRecorder.view (before ++ check :: first) started.task).ended = true := by
      intro hended
      obtain ⟨tasks, htasks⟩ := exists_inFlightTasks hfirst hinit
      have hbegun := htasks.begun started.task hended
      obtain ⟨⟨state, event⟩, _, call⟩ := started
      obtain ⟨answer, rfl⟩ := hbegin
      rw [show (callRecorder.view (before ++ check :: first) _).pinned = none from hallowed.2]
        at hbegun
      cases hbegun
    rw [show before ++ check :: (first ++ started :: second) =
      (before ++ check :: first) ++ started :: second by simp] at hended
    obtain ⟨since, ended, rest, hsplit, hendedTask, hnot, hrecord⟩ :=
      callRecorder.exists_step_since (p := fun view => view.ended = true) hopen hended
    refine ⟨ended, ?_, hendedTask, (CallView.record_ended _ hrecord).resolve_left hnot⟩
    rw [hsplit]
    exact List.mem_append_right _ (List.mem_append_right _ List.mem_cons_self)
  · rintro ⟨before, check, during, rfl, rfl, hcheck, hlast, hended⟩ task ⟨hbegun, hopen⟩
    obtain ⟨hbefore, -, -, -⟩ := hbehaves.split rfl
    have hcount : check.before.inFlightCount = 0 := by
      rw [List.append_cons, callRecorder.view_append_of (·.lastCount)
        fun later hlater htask view => CallView.record_lastCount view (hlast later hlater htask),
        callRecorder.view_snoc_self rfl] at hchecked
      exact Option.some.inj ((CallView.record_check _ hcheck).symm.trans hchecked)
    have hquiet := (inFlightCount_eq_zero_iff hbefore hinit).mp hcount task
    by_cases hearlier : (callRecorder.view before task).pinned.isSome = true
    · -- the call had ended by the time of the check
      have hendedBefore : (callRecorder.view before task).ended = true := by
        by_contra hended
        exact hquiet ⟨hearlier, by simpa using hended⟩
      obtain ⟨first, ended, second, rfl, rfl, hnot, hrecord⟩ :=
        callRecorder.exists_step_of_view (p := fun view => view.ended = true)
          (fun h => nomatch h) hendedBefore
      have hstill := (hview_of ended (by simp)).2
        ((CallView.record_ended _ hrecord).resolve_left hnot)
      cases hstill.symm.trans hopen
    · obtain ⟨first, started, second, hsplit, rfl, hnot, hrecord⟩ :=
        callRecorder.exists_step_since (p := fun view => view.pinned.isSome = true) hearlier hbegun
      have hbegin := (CallView.record_begun _ hrecord).resolve_left hnot
      have hstarted : started ∈ check :: during := by
        rw [hsplit]
        exact List.mem_append_right _ List.mem_cons_self
      rcases List.mem_cons.mp hstarted with rfl | hstarted
      · obtain ⟨answer, hbegin⟩ := hbegin
        obtain ⟨answer', hcheck⟩ := hcheck
        cases hbegin.symm.trans hcheck
      · obtain ⟨ended, hendedMem, hendedTask, hend⟩ := hended started hstarted hbegin
        have hstill := (hview_of ended
          (List.mem_append_right _ (List.mem_cons_of_mem _ hendedMem))).2 hend
        rw [hendedTask] at hstill
        cases hstill.symm.trans hopen

section Claim

variable (platform : Platform) (binding : PaybondRunBinding)
variable (registry : PaybondToolRegistry) (snapshot : Option PaybondPolicySnapshot)
variable (actions : List (Action AgentCall runMachine))

/-- A snapshot is applied while no tool call is in flight exactly when every call that
has begun since the reload last checked has ended. -/
theorem applied_quiescent_iff {first second : List AgentEntry} {apply : AgentEntry}
    (htrace : (runAgent platform binding (.bind registry snapshot) actions).trace =
      first ++ apply :: second)
    (happly : (appliedSnapshot? apply.event).isSome = true) :
    apply.before.inFlightCount = 0 ↔ QuietSinceCheck first apply.task := by
  have hbehaves := (runAgent_sound platform binding (.bind registry snapshot) actions).behaves
  obtain ⟨hfirst, -, -, hallowed⟩ := hbehaves.split htrace
  refine inFlightCount_eq_zero_iff_quietSinceCheck hfirst rfl ?_
  obtain ⟨⟨before, event⟩, task, call⟩ := apply
  obtain ⟨applied, happlied⟩ := Option.isSome_iff_exists.mp happly
  obtain ⟨answer, rfl⟩ := eq_of_appliedSnapshot? happlied
  exact ApplyAllowed.quiescent hallowed

end Claim

/-! ## A call that begins while the gateway validates -/

/-- A gateway that finds every policy valid. -/
def gatewayHost (policy : PyValue) : (call : HostCall) → Except PyExc call.Answer
  | .validatePolicyRemote _ _ _ => .ok { valid := true }
  | call => policyHost policy call

/-- A reload that is validated remotely. -/
def remoteReloadTravel (policy : PyValue) : Action AgentCall runMachine :=
  .start (.reloadPolicy { file := some "paybond.policy.yaml", remote := true, gateway := true } 1)
    (hostChoices (gatewayHost policy))

/-- An execution may begin while the gateway validates; it is still asking Harbor when
the gateway answers. -/
def busyActions (executes : Bool) : List (Action AgentCall runMachine) :=
  [remoteReloadTravel (travelPolicy "travel-v1" "travel.book_hotel" 15000)] ++
  (if executes then
    [.start (.wrapExecute (bookHotel "call")) (hostChoices (decidingHost "decision"))] else []) ++
  [.resume 0 (hostChoices (gatewayHost .none))]

theorem applied_quiescent_iff_idle :
    ∃ first apply second, (travelRun (busyActions false)).trace = first ++ apply :: second ∧
      (apply.before.inFlightCount = 0 ↔ QuietSinceCheck first apply.task) := by
  have happlied : ∃ entry ∈ (travelRun (busyActions false)).trace,
      (appliedSnapshot? entry.event).isSome = true := by
    decide +kernel
  obtain ⟨apply, hmem, happly⟩ := happlied
  obtain ⟨first, second, htrace⟩ := List.append_of_mem hmem
  exact ⟨first, apply, second, htrace,
    applied_quiescent_iff platformTravel bindingTravel registryTravel none (busyActions false) htrace
      happly⟩

/-- The snapshot is swapped under an execution that has looked up its tool. -/
theorem reloadPolicy_applies_in_flight :
    ∃ apply ∈ (travelRun (busyActions true)).trace,
      (appliedSnapshot? apply.event).isSome = true ∧ apply.before.inFlightCount = 1 := by
  decide +kernel

end PaybondKit.Agent
