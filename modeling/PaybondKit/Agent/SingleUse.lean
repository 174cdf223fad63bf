import PaybondKit.Agent.Finalisation
import PaybondKit.Foundation.Ledger

/-!
# Single-use authorizations

Every handler of a side-effecting tool runs under an answer of Harbor to a request
for that very call. The answer was given within the execution, or within an
authorization whose cache entry is not older than two minutes, and no two
executions share it. A ledger that names the authorization behind each cache entry
and behind each execution is kept by every step.
-/

namespace PaybondKit.Agent

/-! ## Reading the trace -/

/-- Harbor allowed a request for exactly this call. -/
def IsAllow (toolCallId toolName operation : String) (requestedSpendCents : Option Int)
    (event : AgentEvent) : Prop :=
  ∃ request result, event = .completed (.host (.verifyCapability request)) (.ok result) ∧
    result.allow = true ∧ request.IsFor toolCallId toolName operation requestedSpendCents

def IsStore (cacheKey : String) (entry : CachedAuthorizationEntry) (event : AgentEvent) : Prop :=
  ∃ answer, event = .completed (.access (.storeAuthorization cacheKey entry)) answer

/-- The handler of a side-effecting tool is invoked. -/
def IsInvocation (toolCallId toolName operation : String) (requestedSpendCents : Option Int)
    (event : AgentEvent) : Prop :=
  ∃ answer, event = .completed
    (.host (.execute (.intercepted toolCallId toolName operation requestedSpendCents))) answer

/-- The task has stored the entry, at the clock reading the entry names, after Harbor
had allowed the call that the entry is for. -/
structure Stores (trace : List AgentEntry) (task : ℕ) (cacheKey : String)
    (entry : CachedAuthorizationEntry) : Prop where
  call : IsCall trace task fun call => ∃ input, call = .authorizeToolCall input
  stored : ∃ store ∈ trace, store.task = task ∧ IsStore cacheKey entry store.event ∧
    store.before.monotonic = entry.cachedAt
  allowed : ∃ toolCallId, cacheKey = authorizationCacheKey toolCallId entry.operation ∧
    Occurs trace task (IsAllow toolCallId entry.toolName entry.operation entry.requestedSpendCents)

/-- When the task invokes a handler for the call, `source` is the task that Harbor
allowed it to: the same task, or one that stored its authorization at most two
minutes ago. -/
def AuthorizedBy (trace : List AgentEntry) (source : ℕ) (invocation : AgentEntry)
    (toolCallId toolName operation : String) (requestedSpendCents : Option Int) : Prop :=
  Occurs trace source (IsAllow toolCallId toolName operation requestedSpendCents) ∧
    (source = invocation.task ∨
      IsCall trace source (fun call => ∃ input, call = .authorizeToolCall input) ∧
        ∃ store ∈ trace, store.task = source ∧
          (∃ entry, IsStore (authorizationCacheKey toolCallId operation) entry store.event) ∧
          invocation.before.monotonic ≤ store.before.monotonic + authorizationCacheTtl)

theorem Stores.snoc {trace : List AgentEntry} {task : ℕ} {cacheKey : String}
    {entry : CachedAuthorizationEntry} (hstores : Stores trace task cacheKey entry)
    (last : AgentEntry) : Stores (trace ++ [last]) task cacheKey entry where
  call := hstores.call.snoc
  stored := by
    obtain ⟨store, hstore, hrest⟩ := hstores.stored
    exact ⟨store, List.mem_append_left _ hstore, hrest⟩
  allowed := by
    obtain ⟨toolCallId, hkey, hallow⟩ := hstores.allowed
    exact ⟨toolCallId, hkey, hallow.snoc⟩

/-! ## What a step does to the authorizations -/

variable {platform : Platform} {binding : PaybondRunBinding} {call : AgentCall}
variable {view : CallView} {step : AgentStep} {after : RunState}

/-- The event drops a cache entry: it is evicted, or popped and found expired or not
to match. -/
def IsDrop (cacheKey : String) (entry : CachedAuthorizationEntry) (event : AgentEvent) : Prop :=
  (∃ now, event = .completed (.access .evictExpiredAuthorizationCache) (.ok now) ∧
    entry.Expired now) ∨
  ∃ expected, event = .completed (.access (.takeValidCachedAuthorization cacheKey expected))
    (.ok none)

/-- The step neither stores nor takes an authorization. It may drop some. -/
structure LeavesCache (view : CallView) (step : AgentStep) (after : RunState) : Prop where
  cache : ∀ cacheKey entry, after.authorizedCalls.get? cacheKey = some entry →
    step.before.authorizedCalls.get? cacheKey = some entry
  kept : ∀ cacheKey entry, step.before.authorizedCalls.get? cacheKey = some entry →
    after.authorizedCalls.get? cacheKey = some entry ∨ IsDrop cacheKey entry step.event
  stored : (view.record step).stored = view.stored
  cached : (view.record step).cached = view.cached

theorem LeavesCache.of_same (hcache : after.authorizedCalls = step.before.authorizedCalls)
    (hstored : (view.record step).stored = view.stored)
    (hcached : (view.record step).cached = view.cached) : LeavesCache view step after :=
  ⟨fun cacheKey entry hentry => by rwa [← hcache],
    fun cacheKey entry hentry => .inl (by rwa [hcache]), hstored, hcached⟩

/-- A step stores an authorization, takes one, or leaves the cache as it is. -/
theorem cache_cases (hallowed : Allowed platform binding call view step)
    (hmoves : runMachine.Moves step after) :
    (∃ cacheKey entry, IsStore cacheKey entry step.event ∧
      StoreAllowed binding call view step.before cacheKey entry ∧
      after.authorizedCalls = step.before.authorizedCalls.set cacheKey entry ∧
      view.record step = { view with stored := some (cacheKey, entry) }) ∨
    (∃ cacheKey entry, step.before.authorizedCalls.get? cacheKey = some entry ∧
      view.cached = none ∧ view.stage = .before ∧
      after.authorizedCalls = step.before.authorizedCalls.erase cacheKey ∧
      view.record step = { view with cached := some (cacheKey, entry) }) ∨
    LeavesCache view step after := by
  obtain ⟨before, event⟩ := step
  cases event with
  | finished outcome =>
      obtain rfl : after = before := hmoves
      exact .inr (.inr (.of_same rfl rfl rfl))
  | cut =>
      obtain rfl : after = before := hmoves
      exact .inr (.inr (.of_same rfl rfl rfl))
  | issued op =>
      obtain rfl : after = before := hmoves
      cases op with
      | access access => exact hallowed.elim
      | host host =>
          obtain ⟨requested, remote, hrecord⟩ := view.recordIssue_frame host
          have hview : view.record ⟨after, .issued (.host host)⟩ = _ := hrecord
          exact .inr (.inr (.of_same rfl (by rw [hview]) (by rw [hview])))
  | completed op answer =>
      cases op with
      | host host =>
          obtain rfl : after = before := moves_host hmoves
          obtain ⟨grant, stage, sinkRaised, hrecord⟩ := view.recordHost_frame host answer
          have hview : view.record ⟨after, .completed (.host host) answer⟩ = _ := hrecord
          exact .inr (.inr (.of_same rfl (by rw [hview]) (by rw [hview])))
      | access access =>
          obtain ⟨elapsed, rfl, rfl⟩ := moves_access.mp hmoves
          cases access with
          | storeAuthorization cacheKey entry =>
              exact .inl ⟨cacheKey, entry, ⟨_, rfl⟩, hallowed, rfl, rfl⟩
          | takeValidCachedAuthorization cacheKey expected =>
              have hcached : view.cached = none := by
                have hauth := hallowed.2.2
                rw [CallView.auth, Option.or_eq_none_iff, Option.map_eq_none_iff] at hauth
                exact hauth.1
              cases htaken : (takeValidCachedAuthorization before.authorizedCalls cacheKey expected
                  (before.monotonic + elapsed)).1 with
              | some entry =>
                  have hentry := (takeValidCachedAuthorization_eq_some.mp htaken).1
                  refine .inr (.inl ⟨cacheKey, entry, hentry, hcached, hallowed.2.1, rfl, ?_⟩)
                  simp only [CallView.record, Access.run, htaken, Option.map_some]
              | none =>
                  have hget : ∀ other, (before.authorizedCalls.erase cacheKey).get? other =
                      if other = cacheKey then none else before.authorizedCalls.get? other :=
                    before.authorizedCalls.get?_erase cacheKey
                  refine .inr (.inr ⟨fun other entry hentry => ?_, fun other entry hentry => ?_,
                    rfl, ?_⟩)
                  · change (before.authorizedCalls.erase cacheKey).get? other = some entry at hentry
                    rw [hget] at hentry
                    split at hentry
                    · cases hentry
                    · exact hentry
                  · by_cases hother : other = cacheKey
                    · rw [hother]
                      exact .inr (.inr ⟨expected, by simp only [Access.run, htaken]⟩)
                    · refine .inl (Eq.trans (hget other) ?_)
                      rw [if_neg hother, hentry]
                  · simp only [CallView.record, Access.run, htaken, Option.map_none, hcached]
          | evictExpiredAuthorizationCache =>
              have hget : ∀ cacheKey, (evictExpiredAuthorizationCache before.authorizedCalls
                  (before.monotonic + elapsed)).get? cacheKey =
                    (before.authorizedCalls.get? cacheKey).filter _ :=
                get?_evictExpiredAuthorizationCache _ _
              refine .inr (.inr ⟨fun cacheKey entry hentry => ?_, fun cacheKey entry hentry => ?_,
                rfl, rfl⟩)
              · have hkept := (hget cacheKey).symm.trans hentry
                rw [Option.filter_eq_some_iff] at hkept
                exact hkept.1
              · by_cases hexpired : entry.Expired (before.monotonic + elapsed)
                · exact .inr (.inl ⟨_, rfl, hexpired⟩)
                · refine .inl ((hget cacheKey).trans ?_)
                  rw [hentry]
                  simp [hexpired]
          | readCurrentSnapshot =>
              refine .inr (.inr (.of_same rfl ?_ ?_))
              · change (ite _ _ _ : CallView).stored = view.stored
                split <;> rfl
              · change (ite _ _ _ : CallView).cached = view.cached
                split <;> rfl
          | _ => exact .inr (.inr (.of_same rfl rfl rfl))

/-- A grant is Harbor's allow. -/
theorem CallView.record_grant (view : CallView) {step : AgentStep} {request : SpendRequest}
    {result : VerifyCapabilityResult} (hgrant : (view.record step).grant = some (request, result)) :
    view.grant = some (request, result) ∨
      step.event = .completed (.host (.verifyCapability request)) (.ok result) ∧
        result.allow = true := by
  unfold CallView.record CallView.recordHost CallView.recordHandler CallView.recordSink
    CallView.recordIssue CallView.recordAccess at hgrant
  repeat' split at hgrant
  all_goals first | exact .inl hgrant | cases hgrant
  rename_i hallow _
  exact .inr ⟨hallow, by assumption⟩

theorem CallView.record_stored (view : CallView) {step : AgentStep} {cacheKey : String}
    {entry : CachedAuthorizationEntry} (hstored : (view.record step).stored = some (cacheKey, entry)) :
    view.stored = some (cacheKey, entry) ∨
      ∃ answer, step.event = .completed (.access (.storeAuthorization cacheKey entry)) answer := by
  unfold CallView.record CallView.recordHost CallView.recordHandler CallView.recordSink
    CallView.recordIssue CallView.recordAccess at hstored
  repeat' split at hstored
  all_goals first | exact .inl hstored | cases hstored
  exact .inr ⟨_, by assumption⟩

/-! ## What a view knows of the authorizations -/

section Runs

variable {init state : RunState} {trace : List AgentEntry}

/-- Harbor has allowed what a call holds a grant for. -/
theorem occurs_of_grant {task : ℕ} {request : SpendRequest} {result : VerifyCapabilityResult}
    (hgrant : (callRecorder.view trace task).grant = some (request, result)) :
    result.allow = true ∧ Occurs trace task fun event =>
      event = .completed (.host (.verifyCapability request)) (.ok result) := by
  obtain ⟨first, entry, second, rfl, htask, hnone, hsome⟩ :=
    callRecorder.exists_step_of_view
      (p := fun view => view.grant = some (request, result)) (fun h => nomatch h) hgrant
  rcases CallView.record_grant _ hsome with hgrant | ⟨hevent, hallow⟩
  · exact absurd hgrant hnone
  · exact ⟨hallow, entry, by simp, htask, hevent⟩

/-- What a call has stored, Harbor had allowed it. -/
theorem stores_of_stored
    (hbehaves : runMachine.Behaves (agentProtocol platform binding) init trace state)
    {task : ℕ} {cacheKey : String} {entry : CachedAuthorizationEntry}
    (hstored : (callRecorder.view trace task).stored = some (cacheKey, entry)) :
    Stores trace task cacheKey entry := by
  obtain ⟨first, store, second, htrace, htask, hnone, hsome⟩ :=
    callRecorder.exists_step_of_view
      (p := fun view => view.stored = some (cacheKey, entry)) (fun h => nomatch h) hstored
  rcases CallView.record_stored _ hsome with hstored | ⟨answer, hevent⟩
  · exact absurd hstored hnone
  obtain ⟨-, -, -, hallowed⟩ := hbehaves.split htrace
  have hstore : store ∈ trace := by
    rw [htrace]
    exact List.mem_append_right _ List.mem_cons_self
  obtain ⟨⟨before, event⟩, _, call⟩ := store
  obtain rfl : event = _ := hevent
  obtain rfl : _ = task := htask
  obtain ⟨input, hinput, -⟩ := StoreAllowed.key hallowed
  obtain ⟨request, toolCallId, hgrant, -, hkey, hrequest⟩ := StoreAllowed.granted hallowed
  obtain ⟨hallow, earlier, hearlier, hearlierTask, hanswer⟩ := occurs_of_grant hgrant
  exact ⟨⟨_, hstore, rfl, input, hinput⟩,
    ⟨_, hstore, rfl, ⟨answer, rfl⟩, (StoreAllowed.cachedAt hallowed).symm⟩, toolCallId, hkey,
    earlier, by rw [htrace]; exact List.mem_append_left _ hearlier, hearlierTask, request, _,
    hanswer, hallow, hrequest⟩

/-- A call that has invoked its handler is past the stage before it. -/
theorem stage_of_milestone
    (hbehaves : runMachine.Behaves (agentProtocol platform binding) init trace state)
    {entry : AgentEntry} (hentry : entry ∈ trace)
    (hmilestone : (milestone? entry.event).isSome = true) :
    (callRecorder.view trace entry.task).stage ≠ .before := by
  refine hbehaves.view_of_mem
    (p := fun view => view.stage ≠ .before) (fun step => (milestone? step.event).isSome = true)
    (fun _ view step _ hsome => ?_) (fun _ view step _ hstage => ?_) hentry hmilestone
  · change (view.record step).stage ≠ .before
    obtain ⟨milestone, hmilestone⟩ := Option.isSome_iff_exists.mp hsome
    rw [view.record_stage, hmilestone]
    cases milestone <;> exact Stage.noConfusion
  · change (view.record step).stage ≠ .before
    rw [view.record_stage]
    cases hnext : milestone? step.event with
    | none => exact hstage
    | some milestone => cases milestone <;> exact Stage.noConfusion

/-- A call that has stored an authorization remembers it. -/
theorem stored_of_store
    (hbehaves : runMachine.Behaves (agentProtocol platform binding) init trace state)
    {entry : AgentEntry} (hentry : entry ∈ trace)
    (hstore : ∃ cacheKey stored, IsStore cacheKey stored entry.event) :
    (callRecorder.view trace entry.task).stored.isSome = true := by
  refine hbehaves.view_of_mem
    (p := fun view => view.stored.isSome = true)
    (fun step => ∃ cacheKey stored, IsStore cacheKey stored step.event)
    (fun _ view step _ hisStore => ?_) (fun _ view step _ hstored => ?_) hentry hstore
  · obtain ⟨cacheKey, stored, answer, hevent⟩ := hisStore
    obtain ⟨before, event⟩ := step
    obtain rfl : event = _ := hevent
    rfl
  · change (view.record step).stored.isSome = true
    unfold CallView.record CallView.recordHost CallView.recordHandler CallView.recordSink
      CallView.recordIssue CallView.recordAccess
    repeat' split
    all_goals first | exact hstored | rfl

end Runs

/-! ## The ledger of a run -/

/-- The event invokes the handler of a side-effecting tool. -/
def Invokes (event : AgentEvent) : Prop :=
  ∃ toolCallId toolName operation requestedSpendCents,
    IsInvocation toolCallId toolName operation requestedSpendCents event

theorem Invokes.milestone {event : AgentEvent} (hinvokes : Invokes event) :
    (milestone? event).isSome = true := by
  obtain ⟨toolCallId, toolName, operation, requestedSpendCents, answer, rfl⟩ := hinvokes
  rcases answer with exception | (result | _) <;> rfl

/-- The ledger of the authorizations of a run. -/
abbrev AuthorizationLedger (view : ℕ → CallView) (state : RunState) (owner : String → ℕ)
    (source : ℕ → ℕ) : Prop :=
  Ledger state.authorizedCalls.get? (fun task => (view task).stored)
    (fun task => (view task).cached) owner source

theorem update_stored (view : ℕ → CallView) (task : ℕ) (next : CallView) :
    (fun other => (Function.update view task next other).stored) =
      Function.update (fun other => (view other).stored) task next.stored := by
  funext other
  exact Function.apply_update (fun _ => CallView.stored) view task next other

theorem update_cached (view : ℕ → CallView) (task : ℕ) (next : CallView) :
    (fun other => (Function.update view task next other).cached) =
      Function.update (fun other => (view other).cached) task next.cached := by
  funext other
  exact Function.apply_update (fun _ => CallView.cached) view task next other

/-- Every step keeps the ledger, and the source of every task that is past the stage
before its handler. -/
theorem AuthorizationLedger.record {views : ℕ → CallView} {task : ℕ} {owner : String → ℕ}
    {source : ℕ → ℕ} (hledger : AuthorizationLedger views step.before owner source)
    (hallowed : Allowed platform binding call (views task) step)
    (hmoves : runMachine.Moves step after) :
    ∃ owner' source', AuthorizationLedger (Function.update views task ((views task).record step))
        after owner' source' ∧
      ∀ other, (Function.update views task ((views task).record step) other).stage ≠ .before →
        source' other = source other := by
  unfold AuthorizationLedger
  rw [update_stored, update_cached]
  rcases cache_cases hallowed hmoves with
    ⟨cacheKey, entry, -, hstore, hcache, hview⟩ |
    ⟨cacheKey, entry, hentry, hcached, hstage, hcache, hview⟩ | hleaves
  · have hget : after.authorizedCalls.get? =
        Function.update step.before.authorizedCalls.get? cacheKey (some entry) := by
      funext key
      rw [hcache, OrderedDict.get?_set, Function.update_apply]
    rw [hview, hget, Function.update_eq_self]
    exact ⟨_, _, hledger.put hstore.unstored, fun _ _ => rfl⟩
  · have hget : after.authorizedCalls.get? =
        Function.update step.before.authorizedCalls.get? cacheKey none := by
      funext key
      rw [hcache, OrderedDict.get?_erase, Function.update_apply]
    rw [hview, hget, Function.update_eq_self]
    refine ⟨_, _, hledger.take hentry hcached, fun other hother => ?_⟩
    have hne : other ≠ task := by
      rintro rfl
      rw [Function.update_self] at hother
      exact hother hstage
    rw [Function.update_of_ne hne]
  · rw [hleaves.stored, hleaves.cached, Function.update_eq_self, Function.update_eq_self]
    exact ⟨owner, source, hledger.drop hleaves.cache, fun _ _ => rfl⟩

section Ledger

variable {init state : RunState} {trace : List AgentEntry}

/-- A handler is invoked under an authorization of the source of its task. -/
theorem AuthorizationLedger.authorizedBy {owner : String → ℕ} {source : ℕ → ℕ}
    {invocation : AgentEntry} {toolCallId toolName operation : String}
    {requestedSpendCents : Option Int}
    (hledger : AuthorizationLedger (callRecorder.view trace)
      invocation.before owner source)
    (hbehaves : runMachine.Behaves (agentProtocol platform binding) init trace invocation.before)
    (hallowed : Allowed platform binding invocation.call
      (callRecorder.view trace invocation.task) invocation.toStep)
    (hinvocation : IsInvocation toolCallId toolName operation requestedSpendCents
      invocation.event) :
    AuthorizedBy trace (source invocation.task) invocation toolCallId toolName operation
      requestedSpendCents := by
  obtain ⟨⟨before, event⟩, task, call⟩ := invocation
  obtain ⟨answer, rfl⟩ := hinvocation
  obtain ⟨-, -, ⟨hcached, request, result, hgrant, hrequest⟩ | ⟨entry, hcached, hfresh, hmatches⟩⟩ :=
    hallowed
  · obtain ⟨hallow, hoccurs⟩ := occurs_of_grant hgrant
    have hown : source task = task := hledger.own task hcached
    refine ⟨?_, .inl hown⟩
    dsimp only
    rw [hown]
    obtain ⟨earlier, hearlier, htask, hevent⟩ := hoccurs
    exact ⟨earlier, hearlier, htask, request, result, hevent, hallow, hrequest⟩
  · obtain ⟨hcall, ⟨store, hstore, htask, hisStore, hcachedAt⟩, storedId, hkey, hallow⟩ :=
      stores_of_stored hbehaves (hledger.left_source task _ hcached)
    obtain ⟨hoperation, hspend, hname⟩ := hmatches
    dsimp only at hoperation hspend hname
    -- the keys agree and so do the operations, hence the tool call ids
    rw [hoperation] at hkey
    obtain rfl := authorizationCacheKey_inj hkey
    rw [hoperation, hspend, hname] at hallow
    refine ⟨hallow, .inr ⟨hcall, store, hstore, htask, ⟨entry, hisStore⟩, ?_⟩⟩
    rw [hcachedAt]
    exact Nat.le_of_not_lt hfresh

/-- After any trace there is a ledger, and every handler that was invoked was
authorized by its source. -/
theorem exists_ledger
    (hbehaves : runMachine.Behaves (agentProtocol platform binding) init trace state)
    (hempty : init.authorizedCalls = .empty) :
    ∃ owner source,
      AuthorizationLedger (callRecorder.view trace) state owner source ∧
      ∀ first invocation second, trace = first ++ invocation :: second →
        ∀ toolCallId toolName operation requestedSpendCents,
          IsInvocation toolCallId toolName operation requestedSpendCents invocation.event →
          AuthorizedBy first (source invocation.task) invocation toolCallId toolName operation
            requestedSpendCents := by
  induction hbehaves with
  | start =>
      refine ⟨fun _ => 0, id, ?_, fun first invocation second htrace => ?_⟩
      · unfold AuthorizationLedger
        rw [hempty]
        exact Ledger.start
      · simp at htrace
  | @step trace last after hbehaves hcall hopen hallowed hmoves ih =>
      obtain ⟨owner, source, hledger, hauthorized⟩ := ih
      obtain ⟨owner', source', hledger', hsource⟩ := hledger.record hallowed hmoves
      have hnext := Machine.Behaves.step hbehaves hcall hopen hallowed hmoves
      have hviews : callRecorder.view (trace ++ [last]) =
          Function.update _ last.task (CallView.record _ last.toStep) :=
        Recorder.view_snoc_update _ trace last
      rw [← hviews] at hledger' hsource
      refine ⟨owner', source', hledger', ?_⟩
      intro first invocation second htrace toolCallId toolName operation spend hinvocation
      have hmem : invocation ∈ trace ++ [last] := by
        rw [htrace]
        exact List.mem_append_right _ List.mem_cons_self
      have hmilestone := Invokes.milestone ⟨_, _, _, _, hinvocation⟩
      rw [hsource _ (stage_of_milestone hnext hmem hmilestone)]
      rcases List.eq_nil_or_concat second with rfl | ⟨middle, end_, rfl⟩
      · obtain ⟨rfl, hlast⟩ := List.append_inj' htrace rfl
        cases hlast
        exact hledger.authorizedBy hbehaves hallowed hinvocation
      · rw [List.concat_eq_append, ← List.cons_append, ← List.append_assoc] at htrace
        exact hauthorized first invocation middle (List.append_inj' htrace rfl).1 _ _ _ _ hinvocation

/-- A task invokes a handler once at most. -/
theorem pairwise_invokes
    (hbehaves : runMachine.Behaves (agentProtocol platform binding) init trace state) :
    trace.Pairwise fun earlier later =>
      Invokes earlier.event → Invokes later.event → earlier.task ≠ later.task := by
  induction hbehaves with
  | start => exact .nil
  | @step trace last after hbehaves _ _ hallowed _ ih =>
      refine List.pairwise_append.mpr ⟨ih, List.pairwise_singleton _ _, ?_⟩
      intro earlier hearlier later hlater hinvokes hinvokesLater htask
      rw [List.mem_singleton.mp hlater] at hinvokesLater htask
      obtain ⟨⟨before, event⟩, task, call⟩ := last
      obtain ⟨_, _, _, _, answer, rfl⟩ := hinvokesLater
      refine stage_of_milestone hbehaves hearlier hinvokes.milestone ?_
      rw [htask]
      exact hallowed.1

/-- A task stores one authorization at most. -/
theorem pairwise_stores
    (hbehaves : runMachine.Behaves (agentProtocol platform binding) init trace state) :
    trace.Pairwise fun earlier later =>
      (∃ cacheKey entry, IsStore cacheKey entry earlier.event) →
      (∃ cacheKey entry, IsStore cacheKey entry later.event) → earlier.task ≠ later.task := by
  induction hbehaves with
  | start => exact .nil
  | @step trace last after hbehaves _ _ hallowed _ ih =>
      refine List.pairwise_append.mpr ⟨ih, List.pairwise_singleton _ _, ?_⟩
      intro earlier hearlier later hlater hstore hstoreLater htask
      rw [List.mem_singleton.mp hlater] at hstoreLater htask
      obtain ⟨⟨before, event⟩, task, call⟩ := last
      obtain ⟨cacheKey, entry, answer, rfl⟩ := hstoreLater
      have hstored := stored_of_store hbehaves hearlier hstore
      rw [htask, StoreAllowed.unstored hallowed] at hstored
      cases hstored

/-- Two handlers were invoked under authorizations of different sources. -/
theorem AuthorizationLedger.source_ne {owner : String → ℕ} {source : ℕ → ℕ}
    {earlier later : AgentEntry}
    (hledger : AuthorizationLedger (callRecorder.view trace) state owner source)
    (hbehaves : runMachine.Behaves (agentProtocol platform binding) init trace state)
    (hearlier : earlier ∈ trace) (hlater : later ∈ trace) (hinvokes : Invokes earlier.event)
    (hinvokesLater : Invokes later.event) (htask : earlier.task ≠ later.task) :
    source earlier.task ≠ source later.task := by
  have hwraps : ∀ entry ∈ trace, Invokes entry.event → ∃ input, entry.call = .wrapExecute input := by
    rintro ⟨⟨before, event⟩, task, call⟩ hentry ⟨_, _, _, _, answer, rfl⟩
    obtain ⟨first, second, -, hallowed⟩ := hbehaves.allowed_of_mem hentry
    obtain ⟨-, ⟨input, -, -, hcall, -⟩, -⟩ := hallowed
    exact ⟨input, hcall⟩
  -- a task that took nothing executes, and the source of one that did has stored
  have hmixed : ∀ {entry other : AgentEntry} {item}, entry ∈ trace → Invokes entry.event →
      (callRecorder.view trace other.task).cached = some item →
      source other.task ≠ entry.task := by
    rintro entry other ⟨cacheKey, stored⟩ hentry hinvoke hcached hsource
    obtain ⟨input, hcall⟩ := hwraps entry hentry hinvoke
    obtain ⟨earlier, hearlier, htask, input', hcall'⟩ :=
      (stores_of_stored hbehaves (hledger.left_source _ _ hcached)).call
    cases (hcall'.symm.trans
      (hbehaves.call_eq hearlier hentry (htask.trans hsource))).trans hcall
  cases hcached : (callRecorder.view trace earlier.task).cached with
  | none =>
      rw [hledger.own _ hcached]
      cases hcached' : (callRecorder.view trace later.task).cached with
      | none =>
          rw [hledger.own _ hcached']
          exact htask
      | some item => exact (hmixed hearlier hinvokes hcached').symm
  | some item =>
      cases hcached' : (callRecorder.view trace later.task).cached with
      | none =>
          rw [hledger.own _ hcached']
          exact hmixed hlater hinvokesLater hcached
      | some item' => exact fun hsource => htask (hledger.once _ _ _ _ hcached hcached' hsource)

end Ledger

section Claim

variable (platform : Platform) (binding : PaybondRunBinding)
variable (registry : PaybondToolRegistry) (snapshot : Option PaybondPolicySnapshot)

end Claim

end PaybondKit.Agent
