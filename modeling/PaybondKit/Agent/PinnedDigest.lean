import PaybondKit.Agent.Reservations

/-!
# The digest an execution reports

A call pins the digest of the bound snapshot when it starts, and resolves its tool
in the registry of that snapshot. An execution that uses a cached authorization
reports the digest that the authorization was pinned to, which a reload may have
replaced in the meantime; any other execution reports its own.
-/

namespace PaybondKit.Agent

open Policy

/-- `_begin_in_flight` pins this. -/
def RunState.policyDigest (state : RunState) : Option String := state.policySnapshot.map (·.digest)

/-- The bound registry is that of the bound snapshot, which is the handle's. -/
structure RunState.Bound (state : RunState) : Prop where
  current : state.policySnapshot = state.currentSnapshot
  registry : ∀ snapshot, state.policySnapshot = some snapshot → state.registry = snapshot.registry

theorem RunState.bound_bind (registry : PaybondToolRegistry)
    (snapshot : Option PaybondPolicySnapshot) : (RunState.bind registry snapshot).Bound where
  current := rfl
  registry bound hbound := by
    obtain rfl : snapshot = some bound := hbound
    rfl

theorem RunState.Bound.run {state : RunState} (hbound : state.Bound) (elapsed : ℕ)
    (access : Access) : (access.run elapsed state).2.Bound := by
  cases access with
  | applyPolicySnapshot snapshot =>
      refine ⟨rfl, fun applied happlied => ?_⟩
      obtain rfl : snapshot = applied := Option.some.inj happlied
      rfl
  | _ => exact ⟨hbound.current, hbound.registry⟩

/-! ## Looking the tool up -/

def IsRegistryRead (event : AgentEvent) : Prop :=
  ∃ answer, event = .completed (.access .readRegistry) answer

instance : DecidablePred IsRegistryRead
  | .completed (.access .readRegistry) answer => isTrue ⟨answer, rfl⟩
  | .completed (.access (.beginInFlight)) _ | .completed (.access (.endInFlight)) _
  | .completed (.access (.readInFlightCount)) _ | .completed (.access (.readCurrentSnapshot)) _
  | .completed (.access (.applyPolicySnapshot _)) _ | .completed (.access (.timeMs)) _
  | .completed (.access (.beginTriggeredReload)) _ | .completed (.access (.endTriggeredReload)) _
  | .completed (.access (.evictExpiredAuthorizationCache)) _ | .completed (.access (.loopTime)) _
  | .completed (.access (.monotonicTime)) _ | .completed (.access (.perfCounter)) _
  | .completed (.access (.storeAuthorization _ _)) _ | .completed (.host _) _
  | .completed (.access (.takeValidCachedAuthorization _ _)) _
  | .issued _ | .finished _ | .cut => isFalse fun ⟨_, h⟩ => nomatch h

/-- The step looks up the tool of the call, as a side-effecting one of the bound
snapshot. -/
structure ResolvesTool (binding : PaybondRunBinding) (lookup : AgentEntry) : Prop where
  read : IsRegistryRead lookup.event
  sideEffecting : ∃ input operation entry,
    (lookup.call = .authorizeToolCall input ∨ lookup.call = .wrapExecute input) ∧
    lookup.before.registry.resolveTool (pyStrip input.toolName) (some binding.allowedTools) =
      .sideEffecting (pyStrip input.toolName) operation entry
  bound : lookup.before.Bound

/-- The task took the authorization from the cache. -/
def TakesCached (trace : List AgentEntry) (task : ℕ) (cacheKey : String)
    (entry : CachedAuthorizationEntry) : Prop :=
  Occurs trace task fun event => ∃ expected, event =
    .completed (.access (.takeValidCachedAuthorization cacheKey expected)) (.ok (some entry))

variable {platform : Platform} {binding : PaybondRunBinding} {call : AgentCall}
variable {view : CallView} {step : AgentStep} {init state : RunState}
variable {trace : List AgentEntry} {task : ℕ}

theorem bound_of_behaves
    (hbehaves : runMachine.Behaves (agentProtocol platform binding) init trace state)
    (hinit : init.Bound) : state.Bound := by
  refine hbehaves.invariant (fun _ state => state.Bound) hinit
    fun trace entry after _ hbound _ hmoves => ?_
  obtain ⟨⟨before, event⟩, task, call⟩ := entry
  cases event with
  | completed op answer =>
      cases op with
      | access access =>
          obtain ⟨elapsed, -, rfl⟩ := moves_access.mp hmoves
          exact hbound.run elapsed access
      | host host =>
          obtain rfl := moves_host hmoves
          exact hbound
  | _ =>
      obtain rfl : after = before := hmoves
      exact hbound

/-! ## What a view knows of the digest -/

theorem CallView.record_resolvedIn (view : CallView) {resolved : RunState}
    (hresolved : (view.record step).resolvedIn = some resolved) :
    view.resolvedIn = some resolved ∨ IsRegistryRead step.event ∧ step.before = resolved := by
  unfold CallView.record CallView.recordHost CallView.recordHandler CallView.recordSink
    CallView.recordIssue CallView.recordAccess at hresolved
  repeat' split at hresolved
  all_goals first | exact .inl hresolved | skip
  exact .inr ⟨⟨_, by assumption⟩, Option.some.inj hresolved⟩

/-- The digest is pinned once. -/
theorem CallView.record_pinned {pinned : Option String}
    (hallowed : Allowed platform binding call view step) (hpinned : view.pinned = some pinned) :
    (view.record step).pinned = some pinned := by
  have hbegin : ∀ answer, step.event ≠ .completed (.access .beginInFlight) answer := by
    intro answer hevent
    obtain ⟨before, event⟩ := step
    obtain rfl : event = _ := hevent
    have hnone : view.pinned = none := hallowed.2
    cases hnone.symm.trans hpinned
  unfold CallView.record CallView.recordHost CallView.recordHandler CallView.recordSink
    CallView.recordIssue CallView.recordAccess
  repeat' split
  all_goals first | exact hpinned | exact absurd (by assumption) (hbegin _)

/-- Lookups see the snapshot whose digest is pinned. -/
theorem pinned_of_resolvedIn
    (hbehaves : runMachine.Behaves (agentProtocol platform binding) init trace state)
    {entry : AgentEntry} (hentry : entry ∈ trace) {resolved : RunState}
    (hresolved : (callRecorder.view trace entry.task).resolvedIn = some resolved) :
    (callRecorder.view trace entry.task).pinned = some resolved.policyDigest := by
  refine hbehaves.view_invariant (fun _ view => ∀ resolved,
    view.resolvedIn = some resolved → view.pinned = some resolved.policyDigest)
    (fun _ _ h => nomatch h) (fun call view step hview hallowed resolved hresolved => ?_)
    hentry resolved hresolved
  refine CallView.record_pinned hallowed ?_
  rcases view.record_resolvedIn hresolved with hbefore | ⟨⟨answer, hevent⟩, hstate⟩
  · exact hview resolved hbefore
  · obtain ⟨before, event⟩ := step
    obtain rfl : event = _ := hevent
    rw [← hstate]
    exact hallowed

/-- The tool was looked up in the snapshot whose digest is pinned. -/
theorem exists_resolvesTool {last : AgentEntry} {input : ToolCallInput} {operation : String}
    {entry : PaybondSideEffectingToolEntry}
    (hbehaves : runMachine.Behaves (agentProtocol platform binding) init trace state)
    (hinit : init.Bound)
    (hcalls : ∀ earlier ∈ trace, earlier.task = last.task → earlier.call = last.call)
    (hcall : last.call = .authorizeToolCall input ∨ last.call = .wrapExecute input)
    (hresolved : (callRecorder.view trace last.task).Resolved binding input operation entry) :
    ∃ lookup ∈ trace, lookup.task = last.task ∧ ResolvesTool binding lookup ∧
      (callRecorder.view trace last.task).pinned = some lookup.before.policyDigest := by
  obtain ⟨resolved, hresolvedIn, hsideEffecting⟩ := hresolved
  obtain ⟨first, lookup, second, htrace, htask, hbefore, hafter⟩ :=
    callRecorder.exists_step_of_view (p := fun view => view.resolvedIn = some resolved)
      (fun h => nomatch h) hresolvedIn
  rcases CallView.record_resolvedIn _ hafter with hsame | ⟨hread, hstate⟩
  · exact absurd hsame hbefore
  have hmem : lookup ∈ trace := by
    rw [htrace]
    exact List.mem_append_right _ List.mem_cons_self
  refine ⟨lookup, hmem, htask, ⟨hread, ⟨input, operation, entry, ?_, ?_⟩, ?_⟩, ?_⟩
  · rwa [hcalls lookup hmem htask]
  · rwa [hstate]
  · exact bound_of_behaves (hbehaves.split htrace).1 hinit
  · rw [hstate, ← htask]
    exact pinned_of_resolvedIn hbehaves hmem (by rwa [htask])

/-- A stored authorization is pinned to the snapshot in which its tool was looked up. -/
theorem resolvesTool_of_stored
    (hbehaves : runMachine.Behaves (agentProtocol platform binding) init trace state)
    (hinit : init.Bound) {cacheKey : String} {entry : CachedAuthorizationEntry}
    (hstored : (callRecorder.view trace task).stored = some (cacheKey, entry)) :
    ∃ lookup ∈ trace, lookup.task = task ∧ ResolvesTool binding lookup ∧
      entry.policyDigest = lookup.before.policyDigest := by
  obtain ⟨first, store, second, htrace, rfl, hnone, hsome⟩ :=
    callRecorder.exists_step_of_view (p := fun view => view.stored = some (cacheKey, entry))
      (fun h => nomatch h) hstored
  rcases CallView.record_stored _ hsome with hstored | ⟨answer, hevent⟩
  · exact absurd hstored hnone
  obtain ⟨hfirst, hcalls, -, hallowed⟩ := hbehaves.split htrace
  obtain ⟨⟨before, event⟩, storeTask, call⟩ := store
  obtain rfl : event = _ := hevent
  obtain ⟨input, hinput, -, -, operation, toolEntry, hresolved⟩ := StoreAllowed.key hallowed
  obtain ⟨lookup, hlookup, htask, hresolves, hpinned⟩ :=
    exists_resolvesTool hfirst hinit hcalls (.inl hinput) hresolved
  refine ⟨lookup, ?_, htask, hresolves, ?_⟩
  · rw [htrace]
    exact List.mem_append_left _ hlookup
  · exact Option.some.inj ((StoreAllowed.policyDigest hallowed).symm.trans hpinned)

/-- The view remembers the authorization taken from the cache. -/
theorem cached_iff_takesCached
    (hbehaves : runMachine.Behaves (agentProtocol platform binding) init trace state)
    {cacheKey : String} {entry : CachedAuthorizationEntry} :
    (callRecorder.view trace task).cached = some (cacheKey, entry) ↔
      TakesCached trace task cacheKey entry := by
  constructor
  · intro hcached
    obtain ⟨first, step, second, rfl, htask, hbefore, hafter⟩ :=
      callRecorder.exists_step_of_view (p := fun view => view.cached = some (cacheKey, entry))
        (fun h => nomatch h) hcached
    rcases CallView.record_cached hafter with hsame | hevent
    · exact absurd hsame hbefore
    · exact ⟨step, List.mem_append_right _ List.mem_cons_self, htask, hevent⟩
  · rintro ⟨take, htake, rfl, hevent⟩
    refine hbehaves.view_of_mem (p := fun view => view.cached = some (cacheKey, entry))
      (fun step => ∃ expected, step.event = .completed
        (.access (.takeValidCachedAuthorization cacheKey expected)) (.ok (some entry)))
      (fun call view step _ htakes => ?_) (fun call view step hallowed hcached => ?_) htake hevent
    · obtain ⟨expected, hevent⟩ := htakes
      obtain ⟨before, event⟩ := step
      obtain rfl : event = _ := hevent
      rfl
    · have hauth : view.auth ≠ none := by simp [CallView.auth, hcached]
      change (view.record step).cached = some (cacheKey, entry)
      unfold CallView.record CallView.recordHost CallView.recordHandler CallView.recordSink
        CallView.recordIssue CallView.recordAccess
      split
      next heq =>
        -- nothing is taken under an authorization
        obtain ⟨before, event⟩ := step
        obtain rfl : event = _ := heq
        exact absurd hallowed.2.2 hauth
      all_goals
        repeat' split
        all_goals exact hcached

/-! ## What an execution reports -/

/-- The digest in the authorization that a finished execution reports. -/
def reportedDigest? : AgentEvent → Option (Option String)
  | .finished (.ok (.executed result)) => result.authorization.map (·.policyDigest)
  | _ => none

/-- The digest in the receipt draft of a finished execution. -/
def draftDigest? : AgentEvent → Option String
  | .finished (.ok (.executed result)) =>
      result.receiptDraft.map (·.authorization.policy.contentDigestSha256Hex)
  | _ => none

/-- The execution reports the digest of the snapshot in which its authorization was
resolved: its own, or that of the call whose cached authorization it took. -/
structure ReportsPinned (binding : PaybondRunBinding) (past : List AgentEntry)
    (finish : AgentEntry) (digest : Option String) : Prop where
  report : ∃ executed ∈ past, executed.task = finish.task ∧ ResolvesTool binding executed ∧
    ((∀ cacheKey entry, ¬TakesCached past finish.task cacheKey entry) ∧
        digest = executed.before.policyDigest ∨
      ∃ cacheKey entry, TakesCached past finish.task cacheKey entry ∧
        ∃ authorized ∈ past, Stores past authorized.task cacheKey entry ∧
          ResolvesTool binding authorized ∧
          digest = (truthyStr authorized.before.policyDigest).or executed.before.policyDigest)
  draft : ∀ reported, draftDigest? finish.event = some reported →
    ∃ pinned, truthyStr digest = some pinned ∧ reported = bareDigest pinned

section Claim

variable (platform : Platform) (binding : PaybondRunBinding)
variable (registry : PaybondToolRegistry) (snapshot : Option PaybondPolicySnapshot)
variable (actions : List (Action AgentCall runMachine))

/-- Every execution reports the digest its authorization was pinned to. -/
theorem reportsPinned_of_reportedDigest {first second : List AgentEntry} {finish : AgentEntry}
    {digest : Option String}
    (htrace : (runAgent platform binding (.bind registry snapshot) actions).trace =
      first ++ finish :: second)
    (hdigest : reportedDigest? finish.event = some digest) :
    ReportsPinned binding first finish digest := by
  have hbound := RunState.bound_bind registry snapshot
  have hbehaves := (runAgent_sound platform binding (.bind registry snapshot) actions).behaves
  obtain ⟨hfirst, hcalls, -, hallowed⟩ := hbehaves.split htrace
  obtain ⟨⟨before, event⟩, task, call⟩ := finish
  unfold reportedDigest? at hdigest
  split at hdigest
  case h_2 => cases hdigest
  rename_i result heq
  obtain rfl : event = _ := heq
  obtain ⟨report, hreport, rfl⟩ := Option.map_eq_some_iff.mp hdigest
  obtain ⟨-, -, hreportAllowed⟩ := hallowed
  obtain ⟨⟨input, operation, entry, hcall, hresolved⟩, hreported, hdraft⟩ :=
    hreportAllowed report hreport
  obtain ⟨executed, hexecuted, htask, hresolves, hpinned⟩ :=
    exists_resolvesTool hfirst hbound hcalls (.inr hcall) hresolved
  constructor
  · refine ⟨executed, hexecuted, htask, hresolves, ?_⟩
    rw [CallView.reportedDigest, hpinned, Option.join_some] at hreported
    cases hcached : (callRecorder.view first task).cached with
    | none =>
        refine .inl ⟨fun cacheKey entry htakes => ?_, ?_⟩
        · cases hcached.symm.trans ((cached_iff_takesCached hfirst).mpr htakes)
        · rw [hreported, hcached]
          rfl
    | some item =>
        obtain ⟨cacheKey, cached⟩ := item
        obtain ⟨owner, source, hledger, -⟩ := exists_ledger hfirst rfl
        have hstored := hledger.left_source task _ hcached
        obtain ⟨authorized, hauthorized, hsource, hauthorizedResolves, hauthorizedDigest⟩ :=
          resolvesTool_of_stored hfirst hbound hstored
        have hstores := stores_of_stored hfirst hstored
        rw [← hsource] at hstores
        refine .inr ⟨cacheKey, cached, (cached_iff_takesCached hfirst).mp hcached, authorized,
          hauthorized, hstores, hauthorizedResolves, ?_⟩
        rw [hreported, hcached, Option.bind_some, hauthorizedDigest]
  · intro reported hdraftReported
    obtain ⟨draft, hsome, rfl⟩ := Option.map_eq_some_iff.mp hdraftReported
    obtain ⟨pinned, hreportedPinned, hdraftPinned⟩ := hdraft draft hsome
    exact ⟨pinned, by rw [hreported]; exact hreportedPinned, hdraftPinned⟩

end Claim

/-! ## A reload between authorization and execution -/

/-- A policy file with one tool. -/
def travelPolicy (name toolName : String) (cap : Int) : PyValue := .dict
  [("version", .int 1), ("name", .str name), ("default_deny", .bool false),
    ("tools", .dict
      [(toolName, .dict
        [("side_effecting", .bool true), ("operation", .str "travel.book_hotel"),
          ("max_spend_cents", .int cap), ("evidence_preset", .str "cost_and_completion")])])]

/-- A host that has the policy file, and whatever a booking needs. -/
def policyHost (policy : PyValue) : (call : HostCall) → Except PyExc call.Answer
  | .readPolicyFile _ => .ok policy
  | .isStrictFromEnv => .ok false
  | .emitReload _ => .ok ()
  | call => decidingHost "decision" call

def reloadTravel (policy : PyValue) : Action AgentCall runMachine :=
  .start (.reloadPolicy { file := some "paybond.policy.yaml" } 1) (hostChoices (policyHost policy))

/-- A booking is authorized under the first policy and executed under the second. -/
def reloadedActions : List (Action AgentCall runMachine) :=
  reloadTravel (travelPolicy "travel-v1" "travel.book_hotel" 15000) ::
  .start (.authorizeToolCall (bookHotel "call")) (hostChoices (decidingHost "decision")) ::
  .resume 1 (hostChoices (decidingHost "decision")) ::
  reloadTravel (travelPolicy "travel-v2" "travel.book_hotel" 15000) ::
  .start (.wrapExecute (bookHotel "call")) (hostChoices (decidingHost "decision")) ::
  List.replicate 3 (.resume 3 (hostChoices (decidingHost "decision")))

/-- Whether an execution reports the digest of each snapshot it looked its tool up in. -/
def ReportsExecuted (trace : List AgentEntry) (finish : AgentEntry) : Prop :=
  ∀ digest ∈ reportedDigest? finish.event, ∀ lookup ∈ trace, lookup.task = finish.task →
    IsRegistryRead lookup.event → digest = lookup.before.policyDigest

instance (trace : List AgentEntry) (finish : AgentEntry) :
    Decidable (ReportsExecuted trace finish) :=
  inferInstanceAs (Decidable (∀ digest ∈ _, _))

theorem reloadedActions_ne_nil : (travelRun reloadedActions).trace ≠ [] := by
  decide +kernel

theorem reportsPinned_reloaded :
    ReportsPinned bindingTravel (travelRun reloadedActions).trace.dropLast
      ((travelRun reloadedActions).trace.getLast reloadedActions_ne_nil)
      (some "sha256:travel-v1") :=
  reportsPinned_of_reportedDigest platformTravel bindingTravel registryTravel none reloadedActions
    (List.dropLast_append_getLast reloadedActions_ne_nil).symm
    (show reportedDigest? ((travelRun reloadedActions).trace.getLast _).event = _ by
      decide +kernel)

/-- The hotel is booked under the second policy, and the report names the first. -/
theorem wrapExecute_reports_replaced :
    ∃ finish ∈ (travelRun reloadedActions).trace,
      ¬ReportsExecuted (travelRun reloadedActions).trace finish := by
  decide +kernel

end PaybondKit.Agent
