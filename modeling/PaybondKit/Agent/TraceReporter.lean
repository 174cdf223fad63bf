import PaybondKit.Agent.Types
import PaybondKit.Foundation.PyValue
import PaybondKit.Foundation.Transitions

/-!
# The Gateway trace reporter

A run is registered at the Gateway and its events are appended to the run's timeline,
each by a task of its own that nobody awaits. A flush awaits the tasks it finds pending.
A task's write takes effect at some time before the task completes.
-/

namespace PaybondKit.Agent

/-! ## The wire shape -/

/-- Metadata registered before trace events are appended. -/
structure AgentRunUpsertInput where
  intentId : String
  operation : String := ""
  sandbox : Bool := false
  allowedTools : List String := []
  completionPreset : String := ""

/-- `_TRACE_EVENT_CAMEL_KEYS`. -/
def traceEventCamelKeys : List (String × String) :=
  [("run_id", "runId"), ("tool_name", "toolName"), ("tool_call_id", "toolCallId"),
    ("recorded_at", "recordedAt"), ("audit_id", "auditId"), ("decision_id", "decisionId"),
    ("amount_cents", "amountCents"), ("duration_ms", "durationMs"),
    ("evidence_id", "evidenceId"), ("preset_id", "presetId"),
    ("evidence_preset", "evidencePreset"),
    ("sandbox_lifecycle_status", "sandboxLifecycleStatus"),
    ("predicate_passed", "predicatePassed")]

/-- `_TRACE_EVENT_ALLOWED_KEYS`. -/
def traceEventAllowedKeys : List String :=
  ["type", "run_id", "tool_name", "tool_call_id", "operation", "recorded_at", "audit_id",
    "decision_id", "amount_cents", "duration_ms", "evidence_id", "preset_id",
    "evidence_preset", "sandbox_lifecycle_status", "predicate_passed", "message", "code",
    "status"]

/-- Only the allowed fields are forwarded, under their names on the wire. -/
def traceEventToGatewayWire (event : OrderedDict String PyValue) : OrderedDict String PyValue :=
  .ofList ((event.items.filter fun field => field.1 ∈ traceEventAllowedKeys).map fun field =>
    ((traceEventCamelKeys.lookup field.1).getD field.1, field.2))

def hexDigit (n : ℕ) : Char :=
  if n < 10 then Char.ofNat ('0'.toNat + n) else Char.ofNat ('A'.toNat + (n - 10))

/-- `quote(s, safe='')`: percent-encodes the bytes of every character but the unreserved. -/
def quote (s : String) : String :=
  String.ofList (s.toList.flatMap fun c =>
    if c.isAlphanum || "_.-~".toList.contains c then [c]
    else (String.utf8EncodeChar c).flatMap fun byte =>
      ['%', hexDigit (byte.toNat / 16), hexDigit (byte.toNat % 16)])

/-! ## The reporter -/

/-- A request handed to the Gateway writer. -/
structure GatewayWrite where
  method : String
  path : String
  body : PyValue

/-- Tasks are named by the order in which they were created. -/
structure GatewayAgentRunTraceReporter where
  runId : String
  pending : List ℕ := []
  registered : Bool := false
  runId_ne : runId ≠ ""

/-- `GatewayAgentRunTraceReporter.__init__`. -/
def createTraceReporter (runId : String) : Except PyExc GatewayAgentRunTraceReporter :=
  if hempty : pyStrip runId = "" then
    .error (.valueError "GatewayAgentRunTraceReporter requires a non-empty run_id")
  else .ok { runId := pyStrip runId, runId_ne := hempty }

namespace GatewayAgentRunTraceReporter

variable (reporter : GatewayAgentRunTraceReporter)

def registration (input : AgentRunUpsertInput) : GatewayWrite where
  method := "PUT"
  path := "/v1/agent-runs/" ++ quote reporter.runId
  body := .dict
    [("intent_id", .str input.intentId), ("operation", .str input.operation),
      ("sandbox", .bool input.sandbox), ("allowed_tools", .list (input.allowedTools.map .str)),
      ("completion_preset", .str input.completionPreset)]

def append (event : OrderedDict String PyValue) : GatewayWrite where
  method := "POST"
  path := "/v1/agent-runs/" ++ quote reporter.runId ++ "/trace-events"
  body := .dict [("events", .list [.dict (traceEventToGatewayWire event).items])]

end GatewayAgentRunTraceReporter

/-- A flush that awaits the writes it gathered, called when `calledAt` writes had been
scheduled. -/
structure FlushCall where
  gathered : List ℕ
  calledAt : ℕ

/-- What had been reported since the call of a flush, and which events were in flight, when
it returned. -/
structure FlushReturn where
  reportedSince : List ℕ
  inFlight : List ℕ

/-- A reporter, its writes in the order of their tasks, and the Gateway. -/
structure RunTimeline where
  reporter : GatewayAgentRunTraceReporter
  writes : List GatewayWrite := []
  /-- The tasks whose writes took effect at the Gateway, in that order. -/
  applied : List ℕ := []
  done : List ℕ := []
  /-- The tasks whose callback has run. -/
  discarded : List ℕ := []
  flushes : List FlushCall := []
  returned : List FlushReturn := []

/-- `running` says whether the call is made on a running event loop. -/
inductive ReporterAction where
  | registerRun (input : AgentRunUpsertInput) (running : Bool)
  | reportEvent (event : OrderedDict String PyValue) (running : Bool)
  | takeEffect (task : ℕ)
  | complete (task : ℕ)
  /-- The callback of a completed task. -/
  | discardTask (task : ℕ)
  | flush
  | flushReturns (call : ℕ)

namespace RunTimeline

variable (world : RunTimeline)

def methodOf (task : ℕ) : Option String := world.writes[task]?.map (·.method)

def IsRegistration (task : ℕ) : Prop := world.methodOf task = some "PUT"

def IsEvent (task : ℕ) : Prop := world.methodOf task = some "POST"

instance : DecidablePred world.IsRegistration := fun _ => inferInstanceAs (Decidable (_ = _))

instance : DecidablePred world.IsEvent := fun _ => inferInstanceAs (Decidable (_ = _))

/-- The events reported when `count` writes or more had been scheduled. -/
def reportedSince (count : ℕ) : List ℕ :=
  (List.range world.writes.length).filter fun task => count ≤ task ∧ world.IsEvent task

/-- The reported events whose tasks have not completed. -/
def inFlight : List ℕ := (world.reportedSince 0).filter fun task => task ∉ world.done

/-- `_schedule`: without a running loop nothing is sent. -/
def schedule (running : Bool) (write : GatewayWrite) : RunTimeline :=
  if running then
    { world with
      writes := world.writes ++ [write]
      reporter := { world.reporter with
        pending := world.reporter.pending ++ [world.writes.length] } }
  else world

def registerRun (input : AgentRunUpsertInput) (running : Bool) : RunTimeline :=
  if world.reporter.registered then world
  else
    schedule { world with reporter := { world.reporter with registered := true } } running
      (world.reporter.registration input)

def reportEvent (event : OrderedDict String PyValue) (running : Bool) : RunTimeline :=
  world.schedule running (world.reporter.append event)

/-- `flush` up to the gathering; with nothing pending it returns at once. -/
def flush : RunTimeline :=
  if world.reporter.pending = [] then
    { world with returned := world.returned ++ [⟨[], world.inFlight⟩] }
  else
    { world with flushes := world.flushes ++ [⟨world.reporter.pending, world.writes.length⟩] }

/-- The rest of `flush`, once the callbacks of the gathered tasks have run. -/
def flushReturns (call : ℕ) : Option RunTimeline :=
  match world.flushes[call]? with
  | none => none
  | some flush =>
      if ∀ task ∈ flush.gathered, task ∈ world.discarded then
        some { world with
          flushes := world.flushes.eraseIdx call
          reporter := { world.reporter with pending := [] }
          returned := world.returned ++ [⟨world.reportedSince flush.calledAt, world.inFlight⟩] }
      else none

def act (world : RunTimeline) : ReporterAction → Option RunTimeline
  | .registerRun input running => some (world.registerRun input running)
  | .reportEvent event running => some (world.reportEvent event running)
  | .takeEffect task =>
      if task < world.writes.length ∧ task ∉ world.applied then
        some { world with applied := world.applied ++ [task] }
      else none
  | .complete task =>
      if task ∈ world.applied ∧ task ∉ world.done then
        some { world with done := world.done ++ [task] }
      else none
  | .discardTask task =>
      if task ∈ world.done ∧ task ∉ world.discarded then
        some { world with
          discarded := world.discarded ++ [task]
          reporter := { world.reporter with pending := world.reporter.pending.erase task } }
      else none
  | .flush => some world.flush
  | .flushReturns call => world.flushReturns call

/-! ## The run timeline -/

/-- The Gateway registers the run before it appends the first event. -/
def RegisteredFirst : Prop :=
  ∀ first task rest, world.applied = first ++ task :: rest → world.IsEvent task →
    ∃ earlier ∈ first, world.IsRegistration earlier

/-- The Gateway appends the events in the order in which they were reported. -/
def InOrder : Prop := (world.applied.filter fun task => world.IsEvent task).Pairwise (· < ·)

/-- No event is in flight when a flush returns, unless it was reported since the call. -/
def Flushed : Prop := ∀ back ∈ world.returned, back.reportedSince = [] → back.inFlight = []

structure TimelineHolds : Prop where
  registeredFirst : world.RegisteredFirst
  inOrder : world.InOrder
  flushed : world.Flushed

/-- An event is reported to the loop only when the run is registered at the Gateway and
every earlier write has taken effect, and a flush returns only when the events reported
since its call have completed. -/
def Unhurried (world : RunTimeline) : ReporterAction → Prop
  | .reportEvent _ running => running = true →
      (∃ task ∈ world.applied, world.IsRegistration task) ∧
        ∀ task < world.writes.length, task ∈ world.applied
  | .flushReturns call => ∀ flush ∈ world.flushes[call]?,
      ∀ task ∈ world.reportedSince flush.calledAt, task ∈ world.done
  | _ => True

instance : Decidable world.InOrder := inferInstanceAs (Decidable (List.Pairwise _ _))

instance : Decidable world.Flushed := inferInstanceAs (Decidable (∀ back ∈ world.returned, _ → _))

instance : DecidablePred world.Unhurried := fun action => by
  cases action <;> unfold Unhurried <;> infer_instance

variable {world} {next : RunTimeline} {action : ReporterAction} {task count : ℕ}
variable {running : Bool} {write : GatewayWrite}

theorem lt_of_methodOf {method : String} (hmethod : world.methodOf task = some method) :
    task < world.writes.length := by
  obtain ⟨write, hwrite, -⟩ := Option.map_eq_some_iff.mp hmethod
  exact (List.getElem?_eq_some_iff.mp hwrite).1

theorem mem_reportedSince :
    task ∈ world.reportedSince count ↔ world.IsEvent task ∧ count ≤ task := by
  rw [reportedSince, List.mem_filter, List.mem_range, decide_eq_true_eq]
  constructor
  · rintro ⟨-, hcount, hevent⟩
    exact ⟨hevent, hcount⟩
  · rintro ⟨hevent, hcount⟩
    exact ⟨lt_of_methodOf hevent, hcount, hevent⟩

theorem mem_inFlight : task ∈ world.inFlight ↔ world.IsEvent task ∧ task ∉ world.done := by
  rw [inFlight, List.mem_filter, mem_reportedSince, decide_eq_true_eq]
  exact ⟨fun ⟨⟨hevent, _⟩, hdone⟩ => ⟨hevent, hdone⟩,
    fun ⟨hevent, hdone⟩ => ⟨⟨hevent, Nat.zero_le _⟩, hdone⟩⟩

/-! ### Scheduling -/

theorem schedule_running : world.schedule true write = { world with
    writes := world.writes ++ [write]
    reporter := { world.reporter with
      pending := world.reporter.pending ++ [world.writes.length] } } := rfl

theorem schedule_stopped : world.schedule false write = world := rfl

theorem methodOf_schedule (htask : task < world.writes.length) :
    (world.schedule true write).methodOf task = world.methodOf task := by
  rw [methodOf, schedule_running, List.getElem?_append_left htask, methodOf]

theorem methodOf_scheduled :
    (world.schedule true write).methodOf world.writes.length = some write.method := by
  rw [methodOf, schedule_running, List.getElem?_append_right le_rfl, Nat.sub_self]
  rfl

/-- A task of the longer list is an earlier one or the new one. -/
theorem methodOf_schedule_cases {method : String}
    (hmethod : (world.schedule true write).methodOf task = some method) :
    world.methodOf task = some method ∨ task = world.writes.length ∧ write.method = method := by
  have hlt := lt_of_methodOf hmethod
  rw [schedule_running, List.length_append, List.length_singleton] at hlt
  rcases Nat.lt_or_eq_of_le (Nat.le_of_lt_succ hlt) with hlt | rfl
  · left
    rwa [methodOf_schedule hlt] at hmethod
  · right
    rw [methodOf_scheduled] at hmethod
    exact ⟨rfl, Option.some.inj hmethod⟩

/-! ### The order of the writes -/

/-- The registration is the first write, all writes but the last have taken effect, and
they took effect in their order. -/
structure Orderly (world : RunTimeline) : Prop where
  registered : world.writes ≠ [] → world.reporter.registered = true
  first : world.writes ≠ [] → world.IsRegistration 0
  settled : ∀ task, task + 1 < world.writes.length → task ∈ world.applied
  bounded : ∀ task ∈ world.applied, task < world.writes.length
  sorted : world.applied.Pairwise (· < ·)

theorem Orderly.congr (horderly : world.Orderly) (hreporter : next.reporter.registered =
      world.reporter.registered) (hwrites : next.writes = world.writes)
    (happlied : next.applied = world.applied) : next.Orderly where
  registered := by rw [hwrites, hreporter]; exact horderly.registered
  first := by
    rw [hwrites, IsRegistration, methodOf, hwrites]
    exact horderly.first
  settled := by rw [hwrites, happlied]; exact horderly.settled
  bounded := by rw [hwrites, happlied]; exact horderly.bounded
  sorted := by rw [happlied]; exact horderly.sorted

theorem Orderly.registerRun {input : AgentRunUpsertInput} (horderly : world.Orderly) :
    (world.registerRun input running).Orderly := by
  unfold RunTimeline.registerRun
  split
  next => exact horderly
  next hnew =>
    have hnil : world.writes = [] := by
      by_contra hwrites
      exact hnew (horderly.registered hwrites)
    have hnone : world.applied = [] := by
      refine List.eq_nil_iff_forall_not_mem.mpr fun task htask => ?_
      have hlt := horderly.bounded task htask
      rw [hnil] at hlt
      exact Nat.not_lt_zero _ hlt
    cases running with
    | false =>
        rw [schedule_stopped]
        exact { horderly with
          registered := fun _ => rfl
          first := fun hwrites => absurd hnil hwrites }
    | true =>
        rw [schedule_running]
        simp only [hnil, hnone, List.nil_append]
        exact {
          registered := fun _ => rfl
          first := fun _ => rfl
          settled := fun task htask => by
            simp only [List.length_singleton] at htask
            omega
          bounded := fun task htask => by simp at htask
          sorted := .nil }

theorem Orderly.reportEvent {event : OrderedDict String PyValue} (horderly : world.Orderly)
    (hunhurried : world.Unhurried (.reportEvent event running)) :
    (world.reportEvent event running).Orderly := by
  cases running with
  | false => exact horderly
  | true =>
      obtain ⟨⟨registration, -, hregistration⟩, happlied⟩ := hunhurried rfl
      have hlt := lt_of_methodOf hregistration
      have hne : world.writes ≠ [] := List.ne_nil_of_length_pos (by omega)
      exact {
        registered := fun _ => horderly.registered hne
        first := fun _ => by
          have hfirst := horderly.first hne
          rwa [IsRegistration, RunTimeline.reportEvent, methodOf_schedule (by omega)]
        settled := fun task htask => by
          rw [RunTimeline.reportEvent, schedule_running, List.length_append,
            List.length_singleton] at htask
          exact happlied task (by omega)
        bounded := fun task htask => by
          have hbound := horderly.bounded task htask
          rw [RunTimeline.reportEvent, schedule_running, List.length_append,
            List.length_singleton]
          omega
        sorted := horderly.sorted }

/-- The one write that can take effect is the last. -/
theorem Orderly.takeEffect (horderly : world.Orderly) (hlt : task < world.writes.length)
    (hnot : task ∉ world.applied) :
    Orderly { world with applied := world.applied ++ [task] } where
  registered := horderly.registered
  first := horderly.first
  settled := fun other hother => List.mem_append_left _ (horderly.settled other hother)
  bounded := by
    intro other hother
    rcases List.mem_append.mp hother with hother | hother
    · exact horderly.bounded other hother
    · rwa [List.mem_singleton.mp hother]
  sorted := by
    have hlast : ¬task + 1 < world.writes.length := fun hmore =>
      hnot (horderly.settled task hmore)
    refine List.pairwise_append.mpr ⟨horderly.sorted, List.pairwise_singleton _ _, ?_⟩
    intro other hother last hlast'
    obtain rfl := List.mem_singleton.mp hlast'
    have hbound := horderly.bounded other hother
    have hne : other ≠ last := fun heq => hnot (heq ▸ hother)
    omega

theorem Orderly.act (horderly : world.Orderly) (hunhurried : world.Unhurried action)
    (hstep : world.act action = some next) : next.Orderly := by
  cases action with
  | registerRun input running =>
      obtain rfl := Option.some.inj hstep
      exact horderly.registerRun
  | reportEvent event running =>
      obtain rfl := Option.some.inj hstep
      exact horderly.reportEvent hunhurried
  | takeEffect task =>
      obtain ⟨⟨hlt, hnot⟩, ⟨⟩⟩ := Option.ite_none_right_eq_some.mp hstep
      exact horderly.takeEffect hlt hnot
  | complete task =>
      obtain ⟨-, ⟨⟩⟩ := Option.ite_none_right_eq_some.mp hstep
      exact horderly.congr rfl rfl rfl
  | discardTask task =>
      obtain ⟨-, ⟨⟩⟩ := Option.ite_none_right_eq_some.mp hstep
      exact horderly.congr rfl rfl rfl
  | flush =>
      obtain rfl := Option.some.inj hstep
      unfold RunTimeline.flush
      split <;> exact horderly.congr rfl rfl rfl
  | flushReturns call =>
      simp only [RunTimeline.act, RunTimeline.flushReturns] at hstep
      split at hstep
      next => cases hstep
      next flush hcall =>
        obtain ⟨-, ⟨⟩⟩ := Option.ite_none_right_eq_some.mp hstep
        exact horderly.congr rfl rfl rfl

theorem Orderly.inOrder (horderly : world.Orderly) : world.InOrder :=
  horderly.sorted.filter _

theorem Orderly.registeredFirst (horderly : world.Orderly) : world.RegisteredFirst := by
  intro first task rest happlied hevent
  have hlt := lt_of_methodOf hevent
  have hne : world.writes ≠ [] := List.ne_nil_of_length_pos (by omega)
  have hregistration := horderly.first hne
  have hpos : task ≠ 0 := by
    rintro rfl
    rw [IsEvent, hregistration] at hevent
    exact absurd hevent (by decide)
  have hmem := horderly.settled 0 (by omega)
  have hsorted := horderly.sorted
  rw [happlied] at hmem hsorted
  refine ⟨0, ?_, hregistration⟩
  rcases List.mem_append.mp hmem with hmem | hmem
  · exact hmem
  · -- nothing from the event on is as early as the registration
    have hrest := (List.pairwise_append.mp hsorted).2.1
    rcases List.mem_cons.mp hmem with hzero | hmem
    · exact absurd hzero.symm hpos
    · have := (List.pairwise_cons.mp hrest).1 0 hmem
      omega

/-! ### What a flush awaits -/

/-- An event in flight is pending, and a flush has gathered those that were in flight when
it was called. -/
structure Kept (world : RunTimeline) : Prop where
  pending : ∀ task, world.IsEvent task → task ∉ world.done → task ∈ world.reporter.pending
  gathered : ∀ flush ∈ world.flushes, ∀ task < flush.calledAt, world.IsEvent task →
    task ∉ world.done → task ∈ flush.gathered
  called : ∀ flush ∈ world.flushes, flush.calledAt ≤ world.writes.length
  discarded : ∀ task ∈ world.discarded, task ∈ world.done
  flushed : world.Flushed

/-- Scheduling a write keeps the older tasks and adds the new one. -/
theorem Kept.schedule (hkept : world.Kept) : (world.schedule running write).Kept := by
  cases running with
  | false => exact hkept
  | true =>
      exact {
        pending := by
          intro task hevent hdone
          rcases methodOf_schedule_cases hevent with hevent | ⟨rfl, -⟩
          · exact List.mem_append_left _ (hkept.pending task hevent hdone)
          · exact List.mem_append_right _ (List.mem_singleton_self _)
        gathered := by
          intro flush hflush task htask hevent hdone
          have hlt : task < world.writes.length := by
            have hcalled := hkept.called flush hflush
            omega
          rw [IsEvent, methodOf_schedule hlt] at hevent
          exact hkept.gathered flush hflush task htask hevent hdone
        called := by
          intro flush hflush
          have hcalled := hkept.called flush hflush
          rw [schedule_running, List.length_append]
          omega
        discarded := hkept.discarded
        flushed := hkept.flushed }

theorem Kept.registerRun {input : AgentRunUpsertInput} (hkept : world.Kept) :
    (world.registerRun input running).Kept := by
  unfold RunTimeline.registerRun
  split
  next => exact hkept
  next =>
    have hmarked : Kept { world with reporter := { world.reporter with registered := true } } :=
      ⟨hkept.pending, hkept.gathered, hkept.called, hkept.discarded, hkept.flushed⟩
    exact hmarked.schedule

theorem Kept.complete (hkept : world.Kept) (task : ℕ) :
    Kept { world with done := world.done ++ [task] } where
  pending := fun other hevent hdone =>
    hkept.pending other hevent fun h => hdone (List.mem_append_left _ h)
  gathered := fun flush hflush other hlt hevent hdone =>
    hkept.gathered flush hflush other hlt hevent fun h => hdone (List.mem_append_left _ h)
  called := hkept.called
  discarded := fun other hother => List.mem_append_left _ (hkept.discarded other hother)
  flushed := hkept.flushed

theorem Kept.discardTask (hkept : world.Kept) (hdone : task ∈ world.done) :
    Kept { world with
      discarded := world.discarded ++ [task]
      reporter := { world.reporter with pending := world.reporter.pending.erase task } } where
  pending := by
    intro other hevent hnot
    have hne : other ≠ task := fun heq => hnot (heq ▸ hdone)
    exact (List.mem_erase_of_ne hne).mpr (hkept.pending other hevent hnot)
  gathered := hkept.gathered
  called := hkept.called
  discarded := by
    intro other hother
    rcases List.mem_append.mp hother with hother | hother
    · exact hkept.discarded other hother
    · rwa [List.mem_singleton.mp hother]
  flushed := hkept.flushed

theorem Kept.flush (hkept : world.Kept) : world.flush.Kept := by
  unfold RunTimeline.flush
  split
  next hnil =>
    have hnone : world.inFlight = [] := by
      refine List.eq_nil_iff_forall_not_mem.mpr fun task htask => ?_
      obtain ⟨hevent, hdone⟩ := mem_inFlight.mp htask
      have hmem := hkept.pending task hevent hdone
      rw [hnil] at hmem
      exact List.not_mem_nil hmem
    refine ⟨hkept.pending, hkept.gathered, hkept.called, hkept.discarded, ?_⟩
    intro back hback hsince
    rcases List.mem_append.mp hback with hback | hback
    · exact hkept.flushed back hback hsince
    · rw [List.mem_singleton.mp hback]
      exact hnone
  next =>
    refine ⟨hkept.pending, ?_, ?_, hkept.discarded, hkept.flushed⟩
    · intro flush hflush task htask hevent hdone
      rcases List.mem_append.mp hflush with hflush | hflush
      · exact hkept.gathered flush hflush task htask hevent hdone
      · rw [List.mem_singleton.mp hflush]
        exact hkept.pending task hevent hdone
    · intro flush hflush
      rcases List.mem_append.mp hflush with hflush | hflush
      · exact hkept.called flush hflush
      · rw [List.mem_singleton.mp hflush]

/-- Nothing is in flight when a flush returns whose gathered tasks, and the events
reported since its call, have completed. -/
theorem Kept.inFlight_eq_nil (hkept : world.Kept) {flush : FlushCall}
    (hflush : flush ∈ world.flushes)
    (hgathered : ∀ task ∈ flush.gathered, task ∈ world.discarded)
    (hsince : ∀ task ∈ world.reportedSince flush.calledAt, task ∈ world.done) :
    world.inFlight = [] := by
  refine List.eq_nil_iff_forall_not_mem.mpr fun task htask => ?_
  obtain ⟨hevent, hdone⟩ := mem_inFlight.mp htask
  by_cases hearly : task < flush.calledAt
  · have hmem := hkept.gathered flush hflush task hearly hevent hdone
    exact hdone (hkept.discarded task (hgathered task hmem))
  · exact hdone (hsince task (mem_reportedSince.mpr ⟨hevent, not_lt.mp hearly⟩))

theorem Kept.flushReturns {call : ℕ} (hkept : world.Kept)
    (hunhurried : world.Unhurried (.flushReturns call))
    (hstep : world.flushReturns call = some next) : next.Kept := by
  unfold RunTimeline.flushReturns at hstep
  split at hstep
  next => cases hstep
  next flush hcall =>
    obtain ⟨hgathered, ⟨⟩⟩ := Option.ite_none_right_eq_some.mp hstep
    have hnone := hkept.inFlight_eq_nil (List.mem_of_getElem? hcall) hgathered
      (hunhurried flush hcall)
    have hclear : ∀ task, world.IsEvent task → task ∈ world.done := by
      intro task hevent
      by_contra hdone
      have hmem := mem_inFlight.mpr ⟨hevent, hdone⟩
      rw [hnone] at hmem
      exact List.not_mem_nil hmem
    refine ⟨fun task hevent hdone => absurd (hclear task hevent) hdone, ?_, ?_,
      hkept.discarded, ?_⟩
    · intro other hother task _ hevent hdone
      exact absurd (hclear task hevent) hdone
    · exact fun other hother => hkept.called other (List.mem_of_mem_eraseIdx hother)
    · intro back hback hsince
      rcases List.mem_append.mp hback with hback | hback
      · exact hkept.flushed back hback hsince
      · rw [List.mem_singleton.mp hback]
        exact hnone

theorem Kept.act (hkept : world.Kept) (hunhurried : world.Unhurried action)
    (hstep : world.act action = some next) : next.Kept := by
  cases action with
  | registerRun input running =>
      obtain rfl := Option.some.inj hstep
      exact hkept.registerRun
  | reportEvent event running =>
      obtain rfl := Option.some.inj hstep
      exact hkept.schedule
  | takeEffect task =>
      obtain ⟨-, ⟨⟩⟩ := Option.ite_none_right_eq_some.mp hstep
      exact ⟨hkept.pending, hkept.gathered, hkept.called, hkept.discarded, hkept.flushed⟩
  | complete task =>
      obtain ⟨-, ⟨⟩⟩ := Option.ite_none_right_eq_some.mp hstep
      exact hkept.complete task
  | discardTask task =>
      obtain ⟨⟨hdone, -⟩, ⟨⟩⟩ := Option.ite_none_right_eq_some.mp hstep
      exact hkept.discardTask hdone
  | flush =>
      obtain rfl := Option.some.inj hstep
      exact hkept.flush
  | flushReturns call => exact hkept.flushReturns hunhurried hstep

end RunTimeline

/-! ## Runs of a reporter -/

section Runs

variable {reporter : GatewayAgentRunTraceReporter} {actions : List ReporterAction}
variable {world : RunTimeline}

/-- In a run of unhurried actions the timeline is in order and complete. -/
theorem timelineHolds_of_unhurried
    (hrun : RunWith RunTimeline.act RunTimeline.Unhurried { reporter } actions world) :
    world.TimelineHolds := by
  have horderly : world.Orderly := hrun.invariant
    ⟨fun hne => absurd rfl hne, fun hne => absurd rfl hne, fun _ hlt => absurd hlt (by simp),
      fun _ hmem => absurd hmem (by simp), .nil⟩ RunTimeline.Orderly.act
  have hkept : world.Kept := hrun.invariant
    ⟨fun _ hevent => absurd (RunTimeline.lt_of_methodOf hevent) (by simp),
      fun _ hmem => absurd hmem (by simp), fun _ hmem => absurd hmem (by simp),
      fun _ hmem => absurd hmem (by simp), fun _ hmem => absurd hmem (by simp)⟩
    RunTimeline.Kept.act
  exact ⟨horderly.registeredFirst, horderly.inOrder, hkept.flushed⟩

end Runs

/-! ## A run with two events -/

def runReporter : GatewayAgentRunTraceReporter where
  runId := "run-1"
  runId_ne := by decide

def bookingInput : AgentRunUpsertInput := { intentId := "intent-1", operation := "paid-tool" }

def toolSelected : OrderedDict String PyValue :=
  .ofList [("type", .str "tool_selected"), ("tool_name", .str "paid-tool")]

/-- The write of a task takes effect, and the task ends. -/
def settle (task : ℕ) : List ReporterAction := [.takeEffect task, .complete task, .discardTask task]

/-- Each write settles before the next report. -/
def settledActions : List ReporterAction :=
  [.registerRun bookingInput true] ++ settle 0 ++ [.reportEvent toolSelected true] ++ settle 1 ++
    [.reportEvent toolSelected true, .flush] ++ settle 2 ++ [.flushReturns 0]

/-- The event's write overtakes the registration. -/
def overtakingActions : List ReporterAction :=
  [.registerRun bookingInput true, .reportEvent toolSelected true, .takeEffect 1]

/-- The second event's write overtakes the first. -/
def reorderedActions : List ReporterAction :=
  [.registerRun bookingInput true] ++ settle 0 ++
    [.reportEvent toolSelected true, .reportEvent toolSelected true, .takeEffect 2,
      .takeEffect 1]

/-- An event is reported while a flush waits, and the next flush does not await it. -/
def droppedActions : List ReporterAction :=
  [.registerRun bookingInput true, .flush, .reportEvent toolSelected true] ++ settle 0 ++
    [.flushReturns 0, .flush]

theorem timelineHolds_settled : ∃ world,
    RunWith RunTimeline.act RunTimeline.Unhurried { reporter := runReporter } settledActions
        world ∧ world.applied = [0, 1, 2] ∧ world.TimelineHolds := by
  obtain ⟨world, hrun, happlied⟩ : ∃ world,
      RunWith RunTimeline.act RunTimeline.Unhurried { reporter := runReporter } settledActions
        world ∧ world.applied = [0, 1, 2] := exists_runWith_of_play (by decide +kernel)
  exact ⟨world, hrun, happlied, timelineHolds_of_unhurried hrun⟩

/-- An event may be appended before the run is registered, two events in the other order,
and a flush may return with an event in flight that an earlier flush dropped. -/
theorem fire_and_forget_breaks_timeline :
    (∃ world, Run RunTimeline.act { reporter := runReporter } overtakingActions world ∧
        ¬world.RegisteredFirst) ∧
      (∃ world, Run RunTimeline.act { reporter := runReporter } reorderedActions world ∧
        ¬world.InOrder) ∧
      ∃ world, Run RunTimeline.act { reporter := runReporter } droppedActions world ∧
        ¬world.Flushed := by
  refine ⟨?_, ?_, ?_⟩
  · obtain ⟨world, hrun, happlied, hevent⟩ : ∃ world,
        Run RunTimeline.act { reporter := runReporter } overtakingActions world ∧
          world.applied = [1] ∧ world.IsEvent 1 := exists_runWith_of_play (by decide +kernel)
    refine ⟨world, hrun, fun hfirst => ?_⟩
    obtain ⟨earlier, hearlier, -⟩ := hfirst [] 1 [] happlied hevent
    exact List.not_mem_nil hearlier
  · exact exists_runWith_of_play (by decide +kernel)
  · exact exists_runWith_of_play (by decide +kernel)

end PaybondKit.Agent
