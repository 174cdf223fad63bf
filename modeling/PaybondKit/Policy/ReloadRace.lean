import Mathlib.Data.List.Chain
import PaybondKit.Policy.Quiescence

/-!
# What a reload replaces

A reload compares the next policy with the one it read before it awaited remote
validation. Nothing else being applied in that time, the policy it replaces is the
one it compared with, and the policies of such a run form a chain along which the
caps only shrink. Tools may still leave the guarded set.
-/

namespace PaybondKit.Policy

open Agent

/-- The snapshots that were applied, in order. -/
def appliedSnapshots (trace : List AgentEntry) : List PaybondPolicySnapshot :=
  trace.filterMap fun entry => appliedSnapshot? entry.event

/-- The request for remote validation is handed over. -/
def IsRemoteRequest : AgentEvent → Prop
  | .issued (.host (.validatePolicyRemote _ _ _)) => True
  | _ => False

instance : DecidablePred IsRemoteRequest := fun event => by
  unfold IsRemoteRequest
  split <;> infer_instance

/-- Nothing is applied after the task has asked for remote validation. -/
def Undisturbed (past : List AgentEntry) (task : ℕ) : Prop :=
  ∀ before request during, past = before ++ request :: during → request.task = task →
    IsRemoteRequest request.event → appliedSnapshots during = []

variable {platform : Platform} {binding : PaybondRunBinding} {call : AgentCall}
variable {view : CallView} {step : AgentStep} {init state : RunState}
variable {trace first second : List AgentEntry} {apply : AgentEntry} {task : ℕ}
variable {next : PaybondPolicySnapshot}

@[simp] theorem appliedSnapshots_append (first second : List AgentEntry) :
    appliedSnapshots (first ++ second) = appliedSnapshots first ++ appliedSnapshots second :=
  List.filterMap_append

@[simp] theorem appliedSnapshots_cons (entry : AgentEntry) (trace : List AgentEntry) :
    appliedSnapshots (entry :: trace) =
      (appliedSnapshot? entry.event).toList ++ appliedSnapshots trace := by
  rw [appliedSnapshots, List.filterMap_cons]
  cases appliedSnapshot? entry.event <;> rfl

@[simp] theorem appliedSnapshots_nil : appliedSnapshots [] = [] := rfl

/-! ## The current snapshot -/

theorem currentSnapshot_of_moves {after : RunState} (hmoves : runMachine.Moves step after) :
    after.currentSnapshot = (appliedSnapshot? step.event).or step.before.currentSnapshot := by
  obtain ⟨before, event⟩ := step
  cases event with
  | completed op answer =>
      cases op with
      | host host =>
          rw [moves_host hmoves]
          rfl
      | access access =>
          obtain ⟨elapsed, -, rfl⟩ := moves_access.mp hmoves
          cases access <;> rfl
  | _ =>
      obtain rfl : after = before := hmoves
      rfl

/-- The current snapshot is the one applied last. -/
theorem currentSnapshot_eq
    (hbehaves : runMachine.Behaves (agentProtocol platform binding) init trace state) :
    state.currentSnapshot = (appliedSnapshots trace).getLast?.or init.currentSnapshot := by
  refine hbehaves.invariant (fun trace state =>
    state.currentSnapshot = (appliedSnapshots trace).getLast?.or init.currentSnapshot) rfl
    fun trace entry after _ hcurrent _ hmoves => ?_
  rw [currentSnapshot_of_moves hmoves, hcurrent, appliedSnapshots_append, appliedSnapshots_cons,
    appliedSnapshots_nil, List.append_nil, List.getLast?_append]
  cases appliedSnapshot? entry.event with
  | none => simp
  | some applied => simp

/-! ## What a reload compares with -/

theorem CallView.record_remote (hremote : (view.record step).remote = true) :
    view.remote = true ∨ IsRemoteRequest step.event := by
  unfold CallView.record CallView.recordHost CallView.recordHandler CallView.recordSink
    CallView.recordIssue CallView.recordAccess at hremote
  repeat' split at hremote
  all_goals first | exact .inl hremote | skip
  rename_i hrequest
  rw [hrequest]
  exact .inr trivial

/-- What was compared is settled once the remote validation was asked for. -/
theorem CallView.record_compared {compared : Option PaybondPolicySnapshot}
    (hview : view.remote = true ∧ view.compared = some compared) :
    (view.record step).remote = true ∧ (view.record step).compared = some compared := by
  obtain ⟨hremote, hcompared⟩ := hview
  unfold CallView.record CallView.recordHost CallView.recordHandler CallView.recordSink
    CallView.recordIssue CallView.recordAccess
  repeat' split
  all_goals first | exact ⟨hremote, hcompared⟩ | exact ⟨rfl, hcompared⟩

/-- An undisturbed reload replaces the snapshot that it compared with. -/
theorem compared_eq_current
    (hbehaves : runMachine.Behaves (agentProtocol platform binding) init first apply.before)
    (hallowed : Allowed platform binding apply.call (callRecorder.view first apply.task)
      apply.toStep)
    (happly : appliedSnapshot? apply.event = some next) (hquiet : Undisturbed first apply.task) :
    (callRecorder.view first apply.task).compared = some apply.before.currentSnapshot := by
  obtain ⟨⟨before, event⟩, task, call⟩ := apply
  obtain ⟨answer, rfl⟩ := eq_of_appliedSnapshot? happly
  obtain ⟨options, allowedTools, previous, -, hcompared, -, hlocal⟩ :=
    ApplyAllowed.checked hallowed
  cases hremote : (callRecorder.view first task).remote with
  | false => rw [hcompared, hlocal hremote]
  | true =>
      obtain ⟨earlier, request, during, hfirst, rfl, hnot, hrecord⟩ :=
        callRecorder.exists_step_of_view (p := fun view => view.remote = true)
          (fun h => nomatch h) hremote
      have hrequest := (CallView.record_remote hrecord).resolve_left hnot
      obtain ⟨hearlier, -, -, hrequestAllowed⟩ := hbehaves.split hfirst
      have hread : (callRecorder.record (callRecorder.view earlier request.task)
          request.toStep).compared = some request.before.currentSnapshot := by
        obtain ⟨⟨_, event⟩, _, _⟩ := request
        unfold IsRemoteRequest at hrequest
        split at hrequest
        next heq =>
          obtain rfl : event = _ := heq
          exact hrequestAllowed.2
        next => exact hrequest.elim
      have hkept := @Recorder.view_keeps _ _ _ _ _ _ _ callRecorder (earlier ++ [request])
        request.task
        (fun view => view.remote = true ∧ view.compared = some request.before.currentSnapshot) during
        (fun _ _ => CallView.record_compared)
        (by rw [callRecorder.view_snoc_self rfl]; exact ⟨hrecord, hread⟩)
      rw [← List.append_cons, ← hfirst] at hkept
      -- nothing was applied in the meantime
      have hnone : appliedSnapshot? request.event = none := by
        unfold IsRemoteRequest at hrequest
        split at hrequest
        next heq => rw [heq]; rfl
        next => exact hrequest.elim
      have hduring := hquiet earlier request during hfirst rfl hrequest
      have hsame : appliedSnapshots first = appliedSnapshots earlier := by
        rw [hfirst, appliedSnapshots_append, appliedSnapshots_cons, hnone, hduring]
        exact List.append_nil _
      rw [currentSnapshot_eq hbehaves, hsame, ← currentSnapshot_eq hearlier]
      exact hkept.2

/-- What a reload that denies loosening has compared the next policy with. -/
theorem notLooser_of_compared {previous : PaybondPolicySnapshot}
    (hallowed : Allowed platform binding apply.call (callRecorder.view first apply.task)
      apply.toStep)
    (happly : appliedSnapshot? apply.event = some next)
    (hdenies : apply.call.DeniesLoosening binding)
    (hcompared : (callRecorder.view first apply.task).compared = some (some previous)) :
    NotLooser previous.document next.document := by
  obtain ⟨⟨before, event⟩, task, call⟩ := apply
  obtain ⟨answer, rfl⟩ := eq_of_appliedSnapshot? happly
  obtain ⟨options, allowedTools, compared, hoptions, hview, hcheck, -⟩ :=
    ApplyAllowed.checked hallowed
  obtain ⟨options', hoptions', hdeny⟩ := hdenies
  obtain rfl : options = options' := Option.some.inj (hoptions.symm.trans hoptions')
  obtain rfl : compared = some previous := Option.some.inj (hview.symm.trans hcompared)
  exact detectPolicyLoosening_eq_nil_iff.mp (checkReplacement_detects hcheck hdeny)

section Claims

variable (platform : Platform) (binding : PaybondRunBinding)
variable (registry : PaybondToolRegistry) (snapshot : Option PaybondPolicySnapshot)
variable (actions : List (Action AgentCall runMachine))

/-- An undisturbed reload that denies loosening does not loosen the policy that is
current when it applies. -/
theorem detectPolicyLoosening_current
    (htrace : (runAgent platform binding (.bind registry snapshot) actions).trace =
      first ++ apply :: second)
    (happly : appliedSnapshot? apply.event = some next)
    (hdenies : apply.call.DeniesLoosening binding) (hquiet : Undisturbed first apply.task) :
    ∀ previous, apply.before.currentSnapshot = some previous →
      detectPolicyLoosening previous.document next.document = [] := by
  intro previous hprevious
  have hbehaves := (runAgent_sound platform binding (.bind registry snapshot) actions).behaves
  obtain ⟨hfirst, -, -, hallowed⟩ := hbehaves.split htrace
  have hcompared := compared_eq_current hfirst hallowed happly hquiet
  rw [hprevious] at hcompared
  exact detectPolicyLoosening_eq_nil_iff.mpr
    (notLooser_of_compared hallowed happly hdenies hcompared)

/-- A reload that denies loosening leaves every tool guarded that the policy it compared
with guards, exactly when each side-effecting tool it drops is still denied by its
name. -/
theorem applied_guards_iff
    (htrace : (runAgent platform binding (.bind registry snapshot) actions).trace =
      first ++ apply :: second)
    (happly : appliedSnapshot? apply.event = some next)
    (hdenies : apply.call.DeniesLoosening binding) {previous : PaybondPolicySnapshot}
    (hcompared : (callRecorder.view first apply.task).compared = some (some previous))
    {previousRegistry : PaybondToolRegistry}
    (hprevious : policyToToolRegistry platform.catalog previous.document = .ok previousRegistry)
    (allowedTools : List String) :
    (∀ toolName, ¬PassesThrough previousRegistry allowedTools toolName →
        ¬PassesThrough next.registry allowedTools toolName) ↔
      ∀ toolName, previous.document.SideEffecting toolName →
        next.document.SideEffecting toolName ∨
          (next.document.defaultDeny = true ∧ toolName ∈ allowedTools) := by
  have hbehaves := (runAgent_sound platform binding (.bind registry snapshot) actions).behaves
  obtain ⟨-, -, -, hallowed⟩ := hbehaves.split htrace
  have hnot := notLooser_of_compared hallowed happly hdenies hcompared
  obtain ⟨⟨before, event⟩, task, call⟩ := apply
  obtain ⟨answer, rfl⟩ := eq_of_appliedSnapshot? happly
  exact hnot.guards_iff hprevious (ApplyAllowed.registry hallowed)

/-- The policy of a run's start, and those that were applied. -/
def policyChain (snapshot : Option PaybondPolicySnapshot) (trace : List AgentEntry) :
    List PaybondPolicyDocumentV1 :=
  (snapshot.toList ++ appliedSnapshots trace).map (·.document)

/-- No snapshot is applied but by an undisturbed reload that denies loosening. -/
def Sequential (binding : PaybondRunBinding) (trace : List AgentEntry) : Prop :=
  ∀ first apply second, trace = first ++ apply :: second →
    (appliedSnapshot? apply.event).isSome = true →
      apply.call.DeniesLoosening binding ∧ Undisturbed first apply.task

theorem Sequential.of_append {binding : PaybondRunBinding} {trace later : List AgentEntry}
    (hsequential : Sequential binding (trace ++ later)) : Sequential binding trace := by
  rintro first apply second rfl
  exact hsequential first apply (second ++ later) (by simp)

/-- Each policy of the chain keeps the caps of the one before it. -/
theorem isChain_policyChain {trace : List AgentEntry} {state : RunState}
    (hbehaves : runMachine.Behaves (agentProtocol platform binding) (.bind registry snapshot)
      trace state)
    (hsequential : Sequential binding trace) :
    (policyChain snapshot trace).IsChain KeepsCaps := by
  induction hbehaves with
  | start => cases snapshot <;> simp [policyChain]
  | @step trace last after hbehaves _ _ hallowed _ ih =>
      have hchain := ih hsequential.of_append
      cases happly : appliedSnapshot? last.event with
      | none =>
          have hsame : policyChain snapshot (trace ++ [last]) = policyChain snapshot trace := by
            simp [policyChain, happly]
          rwa [hsame]
      | some next =>
          have hsnoc : policyChain snapshot (trace ++ [last]) =
              policyChain snapshot trace ++ [next.document] := by
            simp [policyChain, happly]
          rw [hsnoc, List.isChain_append]
          refine ⟨hchain, List.isChain_singleton _, fun document hdocument document' hnext => ?_⟩
          obtain rfl : next.document = document' := by simpa using hnext
          obtain ⟨hdenies, hquiet⟩ := hsequential trace last [] rfl (by rw [happly]; rfl)
          -- the last of the chain is the policy that is replaced
          have hcurrent : last.before.currentSnapshot =
              (snapshot.toList ++ appliedSnapshots trace).getLast? := by
            rw [currentSnapshot_eq hbehaves, List.getLast?_append]
            cases snapshot <;> rfl
          rw [Option.mem_def, policyChain, List.getLast?_map, Option.map_eq_some_iff] at hdocument
          obtain ⟨previous, hprevious, rfl⟩ := hdocument
          have hcompared := compared_eq_current hbehaves hallowed happly hquiet
          rw [hcurrent, hprevious] at hcompared
          exact (notLooser_of_compared hallowed happly hdenies hcompared).keepsCaps

/-- In a run of sequential reloads that deny loosening, every policy keeps the caps of
every earlier one. -/
theorem policyChain_keepsCaps
    (hsequential : Sequential binding
      (runAgent platform binding (.bind registry snapshot) actions).trace) :
    (policyChain snapshot (runAgent platform binding (.bind registry snapshot) actions).trace).Pairwise
      KeepsCaps :=
  List.isChain_iff_pairwise.mp (isChain_policyChain platform binding registry snapshot
    (runAgent_sound platform binding (.bind registry snapshot) actions).behaves hsequential)

end Claims

/-! ## Reloads of a travel policy -/

/-- The caps of two policies, applied one after the other. -/
def cappedActions (cap cap' : Int) : List (Action AgentCall runMachine) :=
  [reloadTravel (travelPolicy "travel-v1" "travel.book_hotel" cap),
    reloadTravel (travelPolicy "travel-v2" "travel.book_hotel" cap')]

/-- While the gateway validates one policy, a stricter one is applied. -/
def racingActions : List (Action AgentCall runMachine) :=
  [reloadTravel (travelPolicy "travel-v1" "travel.book_hotel" 15000),
    remoteReloadTravel (travelPolicy "travel-v2" "travel.book_hotel" 10000),
    reloadTravel (travelPolicy "travel-v3" "travel.book_hotel" 5000),
    .resume 1 (hostChoices (gatewayHost .none))]

/-- A policy that only knows a search. -/
def searchPolicy : PyValue := .dict
  [("version", .int 1), ("name", .str "travel-v2"), ("default_deny", .bool false),
    ("tools", .dict [("travel.search", .dict [("side_effecting", .bool false)])])]

/-- The second policy has lost the tool of the first. -/
def droppingActions : List (Action AgentCall runMachine) :=
  [reloadTravel (travelPolicy "travel-v1" "travel.book_hotel" 15000), reloadTravel searchPolicy]

theorem exists_cappedApply : ∃ entry ∈ (travelRun (cappedActions 15000 10000)).trace,
    (appliedSnapshot? entry.event).isSome = true ∧ entry.before.currentSnapshot.isSome = true := by
  decide +kernel

theorem undisturbed_capped {first second : List AgentEntry} {entry : AgentEntry}
    (htrace : (travelRun (cappedActions 15000 10000)).trace = first ++ entry :: second) :
    Undisturbed first entry.task := by
  intro before request during hfirst _ hrequest
  have hnone : ∀ request ∈ (travelRun (cappedActions 15000 10000)).trace,
      ¬IsRemoteRequest request.event := by
    decide +kernel
  refine absurd hrequest (hnone request ?_)
  rw [htrace, hfirst]
  simp

theorem deniesLoosening_capped : ∀ entry ∈ (travelRun (cappedActions 15000 10000)).trace,
    (appliedSnapshot? entry.event).isSome = true → entry.call.DeniesLoosening bindingTravel := by
  decide +kernel

theorem detectPolicyLoosening_current_capped :
    ∃ apply ∈ (travelRun (cappedActions 15000 10000)).trace,
      ∃ previous next, apply.before.currentSnapshot = some previous ∧
        appliedSnapshot? apply.event = some next ∧
          detectPolicyLoosening previous.document next.document = [] := by
  obtain ⟨apply, hmem, happly, hprevious⟩ := exists_cappedApply
  obtain ⟨next, hnext⟩ := Option.isSome_iff_exists.mp happly
  obtain ⟨previous, hprevious⟩ := Option.isSome_iff_exists.mp hprevious
  obtain ⟨first, second, htrace⟩ := List.append_of_mem hmem
  exact ⟨apply, hmem, previous, next, hprevious, hnext,
    detectPolicyLoosening_current platformTravel bindingTravel registryTravel none
      (cappedActions 15000 10000) htrace hnext (deniesLoosening_capped apply hmem happly)
      (undisturbed_capped htrace) previous hprevious⟩

/-- The stricter policy that was applied in between is undone. -/
theorem reloadPolicy_undoes_stricter :
    ∃ apply ∈ (travelRun racingActions).trace, apply.call.DeniesLoosening bindingTravel ∧
      ∃ next ∈ appliedSnapshot? apply.event, ∃ previous ∈ apply.before.currentSnapshot,
        detectPolicyLoosening previous.document next.document ≠ [] := by
  decide +kernel

theorem applied_guards_iff_capped :
    ∃ apply ∈ (travelRun (cappedActions 15000 10000)).trace,
      ∃ previous next previousRegistry, apply.before.currentSnapshot = some previous ∧
        appliedSnapshot? apply.event = some next ∧
          policyToToolRegistry platformTravel.catalog previous.document = .ok previousRegistry ∧
            ((∀ toolName, ¬PassesThrough previousRegistry ["travel.book_hotel"] toolName →
                ¬PassesThrough next.registry ["travel.book_hotel"] toolName) ↔
              ∀ toolName, previous.document.SideEffecting toolName →
                next.document.SideEffecting toolName ∨
                  (next.document.defaultDeny = true ∧ toolName ∈ ["travel.book_hotel"])) := by
  have hregistries : ∀ entry ∈ (travelRun (cappedActions 15000 10000)).trace,
      ∀ previous ∈ entry.before.currentSnapshot,
        (policyToToolRegistry platformTravel.catalog previous.document).toOption.isSome = true := by
    decide +kernel
  obtain ⟨apply, hmem, happly, hprevious⟩ := exists_cappedApply
  obtain ⟨next, hnext⟩ := Option.isSome_iff_exists.mp happly
  obtain ⟨previous, hprevious⟩ := Option.isSome_iff_exists.mp hprevious
  obtain ⟨first, second, htrace⟩ := List.append_of_mem hmem
  have hregistry := hregistries apply hmem previous hprevious
  cases hresult : policyToToolRegistry platformTravel.catalog previous.document with
  | error failure =>
      rw [hresult] at hregistry
      cases hregistry
  | ok previousRegistry =>
      have hbehaves := (runAgent_sound platformTravel bindingTravel (.bind registryTravel none)
        (cappedActions 15000 10000)).behaves
      obtain ⟨hfirst, -, -, hallowed⟩ := hbehaves.split htrace
      have hcompared := compared_eq_current hfirst hallowed hnext (undisturbed_capped htrace)
      rw [hprevious] at hcompared
      exact ⟨apply, hmem, previous, next, previousRegistry, hprevious, hnext, hresult,
        applied_guards_iff platformTravel bindingTravel registryTravel none
          (cappedActions 15000 10000) htrace hnext (deniesLoosening_capped apply hmem happly)
          hcompared hresult ["travel.book_hotel"]⟩

/-- The tool that was guarded before the reload runs without authorization after it. -/
theorem reloadPolicy_drops_guard :
    ∃ apply ∈ (travelRun droppingActions).trace, apply.call.DeniesLoosening bindingTravel ∧
      ∃ next ∈ appliedSnapshot? apply.event, ∃ previous ∈ apply.before.currentSnapshot,
        ¬PassesThrough previous.registry ["travel.book_hotel"] "travel.book_hotel" ∧
          PassesThrough next.registry ["travel.book_hotel"] "travel.book_hotel" := by
  unfold PassesThrough
  decide +kernel

theorem policyChain_keepsCaps_capped :
    (policyChain none (travelRun (cappedActions 15000 10000)).trace).Pairwise KeepsCaps := by
  refine policyChain_keepsCaps platformTravel bindingTravel registryTravel none
    (cappedActions 15000 10000) fun first apply second htrace happly => ?_
  have hmem : apply ∈ (travelRun (cappedActions 15000 10000)).trace := by
    rw [travelRun, htrace]
    simp
  exact ⟨deniesLoosening_capped apply hmem happly, undisturbed_capped htrace⟩

end PaybondKit.Policy
