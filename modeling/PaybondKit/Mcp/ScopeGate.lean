import PaybondKit.Mcp.Runtime

/-!
# What the scope gate answers

The permission model is settled once. Settled from the principal it says what the
principal grants; settled by a call whose principal request failed it stays at the
fallback, however readable the principal becomes later.
-/

namespace PaybondKit.Mcp

open Agent (PyExc)
open Function

/-! ## What a call may do -/

/-- What one call knows of its past: where it is behind each lock, the exception that
kept it from the principal while it was settling the permission model, and what it has
read or stored. -/
structure McpView where
  guard : RuntimeLock → Guard := fun _ => .outside
  failure : Option PyExc := none
  principal : Option Principal := none
  context : Option McpScopeContext := none

namespace McpView

def setGuard (view : McpView) (lock : RuntimeLock) (guard : Guard) : McpView :=
  { view with guard := update view.guard lock guard }

def recordAccess (view : McpView) : (access : Access) → access.Answer → McpView
  | .tryAcquire lock, acquired => if acquired then view.setGuard lock .holding else view
  | .release lock, _ => view.setGuard lock .outside
  | .readPrincipal, answer =>
      match answer with
      | none => view.setGuard .principal .empty
      | some principal => { view with principal := some principal }
  | .storePrincipal principal, _ =>
      { view.setGuard .principal .holding with principal := some principal }
  | .readScopeContext, answer =>
      match answer with
      | none => view.setGuard .scopeContext .empty
      | some context => { view with context := some context }
  | .storeScopeContext context, _ =>
      { view.setGuard .scopeContext .holding with context := some context }

/-- The call is settling the permission model and the exception is one that
`except Exception` catches. -/
def recordFailure (view : McpView) (exception : PyExc) : McpView :=
  if view.guard .scopeContext = .empty ∧ exception.isException = true then
    { view with failure := view.failure.or (some exception) }
  else view

def record (view : McpView) (step : McpStep) : McpView :=
  match step.event with
  | .completed (.access access) (.ok answer) => view.recordAccess access answer
  | .completed (.getJson _) (.error exception) => view.recordFailure exception
  | _ => view

end McpView

section Allowed

variable (platform : Platform) (settings : PaybondMCPSettings)

/-- What may be stored as the permission model. -/
def Settles (view : McpView) (context : McpScopeContext) : Prop :=
  match view.failure with
  | some exception => context = unresolvedContext settings exception
  | none => ∃ principal, view.principal = some principal ∧
      context = resolvedContext platform settings principal

def AccessAllowed (view : McpView) : Access → Prop
  | .tryAcquire lock => view.guard lock = .outside
  | .release .principal => view.guard .principal ≠ .outside
  | .release .scopeContext => view.guard .scopeContext ≠ .outside ∧
      (view.guard .scopeContext = .empty → view.failure = none)
  | .readPrincipal => view.guard .principal = .holding
  | .storePrincipal _ => view.guard .principal = .empty
  | .readScopeContext => view.guard .scopeContext = .holding ∧ view.failure = none
  | .storeScopeContext context =>
      view.guard .scopeContext = .empty ∧ Settles platform settings view context

def Allowed (call : McpCall) (view : McpView) (step : McpStep) : Prop :=
  match step.event with
  | .completed (.access access) _ => AccessAllowed platform settings view access
  | .completed (.getJson _) _ =>
      view.failure = none ∧ (call.ResolvesScope ↔ view.guard .scopeContext = .empty)
  | .finished (.ok (.denial message)) => ∃ name context,
      call = .scopeDenialFor name ∧ view.context = some context ∧ message = scopeDenial name context
  | _ => True

def mcpProtocol : LocalSpec McpCall McpView Val PyExc McpOutcome RuntimeState where
  start := {}
  record := McpView.record
  allowed := Allowed platform settings

abbrev mcpRecorder : Recorder McpView Val PyExc McpOutcome RuntimeState where
  start := {}
  record := McpView.record

end Allowed

/-! ## Every call obeys -/

section Obeys

variable {platform : Platform} {settings : PaybondMCPSettings} {call : McpCall} {α β : Type}
variable {view : McpView} {lock : RuntimeLock} {spins : ℕ}

namespace McpView

@[simp] theorem guard_setGuard_self (view : McpView) (lock : RuntimeLock) (guard : Guard) :
    (view.setGuard lock guard).guard lock = guard := by
  simp [setGuard]

theorem guard_setGuard_of_ne {other : RuntimeLock} (hne : other ≠ lock) (guard : Guard) :
    (view.setGuard lock guard).guard other = view.guard other := by
  simp [setGuard, update_of_ne hne]

@[simp] theorem setGuard_setGuard (view : McpView) (lock : RuntimeLock) (guard guard' : Guard) :
    (view.setGuard lock guard).setGuard lock guard' = view.setGuard lock guard' := by
  simp [setGuard]

theorem setGuard_eq_self {guard : Guard} (hguard : view.guard lock = guard) :
    view.setGuard lock guard = view := by
  rw [setGuard, ← hguard, update_eq_self]

end McpView

variable (platform settings call) in
/-- Started with `view`, in whatever state, the program takes allowed steps, and `post`
holds of its outcome and of the view it ends with. -/
def Ensures (program : Routine α) (view : McpView) (post : Except PyExc α → McpView → Prop) :
    Prop :=
  ∀ state, program.Follows mcpMachine McpView.record (Allowed platform settings call)
    (fun outcome view _ => post outcome view) view state

section Rules

variable {program : Routine α} {post : Except PyExc α → McpView → Prop}

theorem ensures_ret (value : α) (hpost : post (.ok value) view) :
    Ensures platform settings call (.ret value) view post :=
  fun _ => hpost

theorem ensures_raise (exception : PyExc) (hpost : post (.error exception) view) :
    Ensures platform settings call (.raise exception) view post :=
  fun _ => hpost

theorem Ensures.bind {post : Except PyExc β → McpView → Prop} {rest : α → Routine β}
    (hprogram : Ensures platform settings call program view fun outcome view =>
      match outcome with
      | .ok value => Ensures platform settings call (rest value) view post
      | .error exception => post (.error exception) view) :
    Ensures platform settings call (program.bind rest) view post := by
  intro state
  rw [Coroutine.follows_bind]
  refine (hprogram state).weaken_post fun outcome view state houtcome => ?_
  cases outcome with
  | ok value => exact houtcome state
  | error exception => exact houtcome

theorem Ensures.tryExcept {handler : PyExc → Routine α}
    (hprogram : Ensures platform settings call program view fun outcome view =>
      match outcome with
      | .ok value => post (.ok value) view
      | .error exception => Ensures platform settings call (handler exception) view post) :
    Ensures platform settings call (program.tryExcept handler) view post := by
  intro state
  rw [Coroutine.follows_tryExcept]
  refine (hprogram state).weaken_post fun outcome view state houtcome => ?_
  cases outcome with
  | ok value => exact houtcome
  | error exception => exact houtcome state

theorem Ensures.tryFinally {final : Routine Unit}
    (hprogram : Ensures platform settings call program view fun outcome view =>
      Ensures platform settings call final view fun ending view =>
        match ending with
        | .ok _ => post outcome view
        | .error exception => post (.error exception) view) :
    Ensures platform settings call (program.tryFinally final) view post := by
  intro state
  rw [Coroutine.follows_tryFinally]
  refine (hprogram state).weaken_post fun outcome view state houtcome => ?_
  exact (houtcome state).weaken_post fun ending _ _ hending => by cases ending <;> exact hending

theorem Ensures.mono {post' : Except PyExc α → McpView → Prop}
    (hprogram : Ensures platform settings call program view post)
    (hpost : ∀ outcome view, post outcome view → post' outcome view) :
    Ensures platform settings call program view post' :=
  fun state => (hprogram state).weaken_post fun outcome view _ => hpost outcome view

theorem ensures_access {access : Access} {post : Except PyExc access.Answer → McpView → Prop}
    (hallowed : AccessAllowed platform settings view access)
    (hpost : ∀ answer, post (.ok answer) (view.recordAccess access answer)) :
    Ensures platform settings call (Mcp.access access) view post := by
  intro state
  refine (Coroutine.follows_call_sync rfl).mpr fun choice => ⟨hallowed, ?_⟩
  exact hpost (access.run state).1

theorem ensures_waitLock {post : Except PyExc Unit → McpView → Prop}
    (hwoken : post (.ok ()) view) (hcancelled : post (.error .cancelled) view) :
    Ensures platform settings call (waitLock lock) view post := by
  intro state
  refine (Coroutine.follows_call_await rfl).mpr ⟨trivial, fun resumed woken => ?_⟩
  cases woken with
  | true => exact ⟨trivial, hwoken⟩
  | false => exact ⟨trivial, hcancelled⟩

theorem ensures_getJson {path : String} {post : Except PyExc Principal → McpView → Prop}
    (hfailure : view.failure = none)
    (hscope : call.ResolvesScope ↔ view.guard .scopeContext = .empty)
    (hok : ∀ principal, post (.ok principal) view)
    (herror : ∀ exception, post (.error exception) (view.recordFailure exception)) :
    Ensures platform settings call (getJson path) view post := by
  intro state
  refine (Coroutine.follows_call_await rfl).mpr ⟨trivial, fun resumed answer => ?_⟩
  refine ⟨⟨hfailure, hscope⟩, ?_⟩
  cases answer with
  | ok principal => exact hok principal
  | error exception => exact herror exception

end Rules

/-- A lock is taken, or the wait for it is cancelled. -/
theorem ensures_acquire {post : Except PyExc Unit → McpView → Prop}
    (houtside : view.guard lock = .outside) (hheld : post (.ok ()) (view.setGuard lock .holding))
    (hcancelled : post (.error .cancelled) view) :
    Ensures platform settings call (acquire lock spins) view post := by
  induction spins with
  | zero => exact fun _ => trivial
  | succ spins ih =>
      refine Ensures.bind (ensures_access houtside fun acquired => ?_)
      cases acquired with
      | true => exact ensures_ret () hheld
      | false => exact Ensures.bind (ensures_waitLock ih hcancelled)

/-- The body runs behind the lock, which is given back however the body ends. -/
theorem ensures_withLock {body : Routine α} {post : Except PyExc α → McpView → Prop}
    (houtside : view.guard lock = .outside)
    (hbody : Ensures platform settings call body (view.setGuard lock .holding)
      fun outcome view => AccessAllowed platform settings view (.release lock) ∧
        post outcome (view.setGuard lock .outside))
    (hcancelled : post (.error .cancelled) view) :
    Ensures platform settings call (withLock lock spins body) view post := by
  refine Ensures.bind (ensures_acquire houtside ?_ hcancelled)
  refine Ensures.tryFinally (hbody.mono fun outcome view hend => ?_)
  exact ensures_access hend.1 fun _ => hend.2

theorem McpView.recordFailure_setGuard (exception : PyExc) (guard : Guard) :
    (view.recordFailure exception).setGuard .principal guard =
      (view.setGuard .principal guard).recordFailure exception := by
  have hscope : (view.setGuard .principal guard).guard .scopeContext = view.guard .scopeContext :=
    guard_setGuard_of_ne (by decide) guard
  unfold recordFailure
  rw [hscope]
  split <;> rfl

@[simp] theorem McpView.guard_recordFailure (exception : PyExc) :
    (view.recordFailure exception).guard = view.guard := by
  unfold recordFailure
  split <;> rfl

/-- The principal is read or stored. The exception of a failed request is recorded. -/
theorem ensures_principal {post : Except PyExc Principal → McpView → Prop}
    (houtside : view.guard .principal = .outside) (hfailure : view.failure = none)
    (hscope : call.ResolvesScope ↔ view.guard .scopeContext = .empty)
    (hok : ∀ principal, post (.ok principal) { view with principal := some principal })
    (herror : ∀ exception, post (.error exception) (view.recordFailure exception))
    (hcancelled : post (.error .cancelled) view) :
    Ensures platform settings call (principal settings spins) view post := by
  have hholding := view.guard_setGuard_self .principal .holding
  have hleft : ∀ guard, (view.setGuard .principal guard).setGuard .principal .outside = view := by
    intro guard
    rw [McpView.setGuard_setGuard, McpView.setGuard_eq_self houtside]
  -- what is returned is in the view when the lock is given back
  have hreturn : ∀ principal guard, post (.ok principal)
      (McpView.setGuard { view.setGuard .principal guard with principal := some principal }
        .principal .outside) := by
    intro principal guard
    have hview := congrArg (fun view : McpView => { view with principal := some principal })
      (hleft guard)
    exact cast (congrArg (post _) hview.symm) (hok principal)
  refine ensures_withLock houtside (Ensures.bind (ensures_access hholding fun answer => ?_))
    hcancelled
  cases answer with
  | some principal =>
      refine ensures_ret _ ⟨?_, hreturn principal .holding⟩
      simp [AccessAllowed, McpView.recordAccess]
  | none =>
      have hempty : (view.setGuard .principal .holding).recordAccess .readPrincipal none =
          view.setGuard .principal .empty :=
        view.setGuard_setGuard .principal .holding .empty
      rw [hempty]
      refine Ensures.bind (ensures_getJson hfailure ?_ (fun principal => ?_) fun exception => ?_)
      · rwa [McpView.guard_setGuard_of_ne (by decide)]
      · refine Ensures.bind (ensures_access (view.guard_setGuard_self .principal .empty) fun _ =>
          ensures_ret _ ⟨?_, ?_⟩)
        · simp [AccessAllowed, McpView.recordAccess]
        · simp only [McpView.recordAccess, McpView.setGuard_setGuard]
          exact hreturn principal .holding
      · refine ⟨?_, ?_⟩
        · simp [AccessAllowed]
        · rw [McpView.recordFailure_setGuard, hleft]
          exact herror exception

/-- A call that has found no permission model. -/
def McpView.settling : McpView := McpView.setGuard {} .scopeContext .empty

/-- The principal, or the exception that settles the permission model instead. Any other
exception ends the call. -/
theorem ensures_tryPrincipal {post : Except PyExc (Except PyExc Principal) → McpView → Prop}
    (hcall : call.ResolvesScope)
    (hok : ∀ principal,
      post (.ok (.ok principal)) { McpView.settling with principal := some principal })
    (hcaught : ∀ exception,
      post (.ok (.error exception)) { McpView.settling with failure := some exception })
    (herror : ∀ exception, post (.error exception) McpView.settling) :
    Ensures platform settings call (tryPrincipal settings spins) .settling post := by
  refine Ensures.tryExcept (Ensures.bind (ensures_principal rfl rfl ⟨fun _ => rfl, fun _ => hcall⟩
    (fun principal => ?_) (fun exception => ?_) ?_))
  · exact ensures_ret _ (hok principal)
  · dsimp only
    have hrecord : McpView.settling.recordFailure exception =
        if exception.isException then { McpView.settling with failure := some exception }
        else McpView.settling := by
      unfold McpView.recordFailure
      have hempty : McpView.settling.guard .scopeContext = .empty := rfl
      simp only [hempty, true_and]
      rfl
    rw [hrecord]
    cases exception.isException with
    | true => exact ensures_ret _ (hcaught exception)
    | false => exact ensures_raise _ (herror exception)
  · exact ensures_raise _ (herror _)

/-- The permission model is read, or settled and stored. -/
theorem ensures_scopeContext {post : Except PyExc McpScopeContext → McpView → Prop}
    (hcall : call.ResolvesScope)
    (hok : ∀ context view, view.context = some context → post (.ok context) view)
    (herror : ∀ exception view, post (.error exception) view) :
    Ensures platform settings call (scopeContext platform settings spins) {} post := by
  refine ensures_withLock rfl (Ensures.bind (ensures_access ⟨rfl, rfl⟩ fun answer => ?_))
    (herror _ _)
  cases answer with
  | some context =>
      refine ensures_ret _ ⟨⟨?_, ?_⟩, hok context _ rfl⟩
      · simp [McpView.recordAccess]
      · simp [McpView.recordAccess]
  | none =>
      have hsettling : (McpView.setGuard {} .scopeContext .holding).recordAccess
          .readScopeContext none = .settling :=
        McpView.setGuard_setGuard {} .scopeContext .holding .empty
      rw [hsettling]
      refine Ensures.bind (ensures_tryPrincipal hcall (fun principal => ?_) (fun exception => ?_)
        fun exception => ⟨⟨?_, fun _ => rfl⟩, herror _ _⟩)
      · refine Ensures.bind (ensures_access ⟨rfl, principal, rfl, rfl⟩ fun _ =>
          ensures_ret _ ⟨⟨?_, ?_⟩, hok _ _ rfl⟩)
        · simp [McpView.recordAccess]
        · simp [McpView.recordAccess]
      · refine Ensures.bind (ensures_access ⟨rfl, rfl⟩ fun _ =>
          ensures_ret _ ⟨⟨?_, ?_⟩, hok _ _ rfl⟩)
        · simp [McpView.recordAccess]
        · simp [McpView.recordAccess]
      · simp [McpView.settling]

/-- The end of a call may be told to the caller. -/
theorem obeys_map {routine : Routine α} (outcome : α → McpOutcome)
    (hensures : Ensures platform settings call routine {} fun result view =>
      ∀ value message, result = .ok value → outcome value = .denial message →
        ∃ name context, call = .scopeDenialFor name ∧ view.context = some context ∧
          message = scopeDenial name context) :
    (outcome <$> routine).Obeys mcpMachine (mcpProtocol platform settings) call := by
  intro state
  refine (Coroutine.follows_bind _ _).mpr
    ((hensures state).weaken_post fun result view _ hpost => ?_)
  cases result with
  | error exception => trivial
  | ok value =>
      change Allowed platform settings call view ⟨_, .finished (.ok (outcome value))⟩
      unfold Allowed
      split
      next heq => cases heq
      next heq => cases heq
      next message heq => exact hpost value message rfl (Except.ok.inj (Event.finished.inj heq))
      next => trivial

/-- A call that does not settle the permission model may do what it likes with the
principal. -/
theorem ensures_principal_bind {rest : Principal → Routine α} (hcall : ¬call.ResolvesScope)
    (hrest : ∀ principal view, Ensures platform settings call (rest principal) view
      fun _ _ => True) :
    Ensures platform settings call ((principal settings spins).bind rest) {} fun _ _ => True :=
  Ensures.bind (ensures_principal rfl rfl ⟨fun h => absurd h hcall, fun h => nomatch h⟩
    (fun _ => hrest _ _) (fun _ => trivial) trivial)

/-- Every call takes steps that are allowed. -/
theorem program_obeys (platform : Platform) (settings : PaybondMCPSettings) (spins : ℕ)
    (call : McpCall) :
    (program platform settings spins call).Obeys mcpMachine (mcpProtocol platform settings)
      call := by
  cases call with
  | scopeDenialFor name =>
      refine obeys_map _ (Ensures.bind (@ensures_scopeContext _ _ (.scopeDenialFor name) _ _ trivial
        (fun context view hcontext => ?_) fun _ _ _ _ h => nomatch h))
      refine ensures_ret _ fun value message hvalue hmessage => ?_
      cases hvalue
      cases hmessage
      exact ⟨name, context, rfl, hcontext, rfl⟩
  | scopeContext =>
      refine obeys_map _ (@ensures_scopeContext _ _ .scopeContext _ _ trivial
        (fun _ _ _ => ?_) fun _ _ => ?_)
      · exact fun _ _ _ h => nomatch h
      · exact fun _ _ _ h => nomatch h
  | preloadPrincipal =>
      refine obeys_map _ ((ensures_principal_bind id fun _ _ => ensures_ret _ trivial).mono
        fun _ _ _ => ?_)
      exact fun _ _ _ h => nomatch h
  | tenantId =>
      refine obeys_map _ ((ensures_principal_bind id fun _ _ => ?_).mono fun _ _ _ => ?_)
      · dsimp only
        split
        · exact ensures_raise _ trivial
        · exact ensures_ret _ trivial
      · exact fun _ _ _ h => nomatch h

end Obeys

/-! ## One step -/

section Steps

variable {platform : Platform} {settings : PaybondMCPSettings} {call : McpCall}
variable {view view' : McpView} {before after : RuntimeState} {step : McpStep}

theorem McpView.failure_recordAccess (access : Access) (answer : access.Answer) :
    (view.recordAccess access answer).failure = view.failure := by
  unfold recordAccess
  repeat' split
  all_goals rfl

theorem McpView.failure_kept {exception : PyExc} (hfailure : view.failure = some exception) :
    (view.record step).failure = some exception := by
  unfold record
  split
  next => rw [failure_recordAccess, hfailure]
  next =>
    unfold recordFailure
    split
    next => simp [hfailure]
    next => exact hfailure
  next => exact hfailure

variable (platform settings) in
/-- What a step does to the cells, and what the call knows then. -/
structure Steps (view : McpView) (before : RuntimeState) (view' : McpView) (after : RuntimeState) :
    Prop where
  principal_act :
    before.principal.Act (view.guard .principal) after.principal (view'.guard .principal)
  scope_act :
    before.scopeContext.Act (view.guard .scopeContext) after.scopeContext
      (view'.guard .scopeContext)
  principal : ∀ principal, view'.principal = some principal →
    view.principal = some principal ∨ after.principal.value = some principal
  context : ∀ context, view'.context = some context →
    view.context = some context ∨ after.scopeContext.value = some context
  failure : ∀ exception, view'.failure = some exception →
    view.failure = some exception ∨ view'.guard .scopeContext = .empty
  empty : ∀ exception, view.failure = some exception → view.guard .scopeContext = .empty →
    view'.guard .scopeContext = .empty ∨
      after.scopeContext.value = some (unresolvedContext settings exception)
  filled : ∀ context, after.scopeContext.value = some context →
    before.scopeContext.value = some context ∨
      (∃ principal, view.principal = some principal ∧
        context = resolvedContext platform settings principal) ∨
      ∃ exception, view.failure = some exception ∧ context = unresolvedContext settings exception

theorem Steps.refl (view : McpView) (state : RuntimeState) :
    Steps platform settings view state view state where
  principal_act := .stay _
  scope_act := .stay _
  principal _ h := .inl h
  context _ h := .inl h
  failure _ h := .inl h
  empty _ _ h := .inl h
  filled _ h := .inl h

/-- A step behind the principal's lock, which the permission model does not notice. -/
theorem Steps.of_principal
    (hact : before.principal.Act (view.guard .principal) after.principal (view'.guard .principal))
    (hprincipal : ∀ principal, view'.principal = some principal →
      view.principal = some principal ∨ after.principal.value = some principal)
    (hscope : after.scopeContext = before.scopeContext)
    (hguard : view'.guard .scopeContext = view.guard .scopeContext)
    (hcontext : view'.context = view.context) (hfailure : view'.failure = view.failure) :
    Steps platform settings view before view' after where
  principal_act := hact
  scope_act := by
    rw [hscope, hguard]
    exact .stay _
  principal := hprincipal
  context _ h := .inl (hcontext ▸ h)
  failure _ h := .inl (hfailure ▸ h)
  empty _ _ h := .inl (hguard ▸ h)
  filled _ h := .inl (hscope ▸ h)

/-- A step behind the lock of the permission model that leaves it as it is. -/
theorem Steps.of_scope
    (hact : before.scopeContext.Act (view.guard .scopeContext) after.scopeContext
      (view'.guard .scopeContext))
    (hcontext : ∀ context, view'.context = some context →
      view.context = some context ∨ after.scopeContext.value = some context)
    (hempty : view.guard .scopeContext = .empty → view.failure = none)
    (hvalue : after.scopeContext.value = before.scopeContext.value)
    (hprincipal : after.principal = before.principal)
    (hguard : view'.guard .principal = view.guard .principal)
    (hread : view'.principal = view.principal) (hfailure : view'.failure = view.failure) :
    Steps platform settings view before view' after where
  principal_act := by
    rw [hprincipal, hguard]
    exact .stay _
  scope_act := hact
  principal _ h := .inl (hread ▸ h)
  context := hcontext
  failure _ h := .inl (hfailure ▸ h)
  empty _ hsome h := nomatch (hempty h).symm.trans hsome
  filled _ h := .inl (hvalue ▸ h)

theorem steps_recordFailure (view : McpView) (exception : PyExc) (state : RuntimeState) :
    Steps platform settings view state (view.recordFailure exception) state := by
  unfold McpView.recordFailure
  split
  next hempty =>
    exact { Steps.refl view state with failure := fun _ _ => .inr hempty.1 }
  next => exact .refl view state

/-- Taking a lock that is taken changes nothing. -/
theorem lock_eq_self {α : Type} {cell : LazyCell α} (hlocked : cell.locked = true) :
    ({ cell with locked := true } : LazyCell α) = cell := by
  rw [← hlocked]

theorem steps_access {access : Access} (hallowed : AccessAllowed platform settings view access) :
    Steps platform settings view before (view.recordAccess access (access.run before).1)
      (access.run before).2 := by
  have hother : ∀ guard, (view.setGuard .principal guard).guard .scopeContext =
      view.guard .scopeContext := fun guard => McpView.guard_setGuard_of_ne (by decide) guard
  have hother' : ∀ guard, (view.setGuard .scopeContext guard).guard .principal =
      view.guard .principal := fun guard => McpView.guard_setGuard_of_ne (by decide) guard
  have houtside : ∀ {guard : Guard}, guard = .outside → guard = .empty → view.failure = none := by
    rintro _ rfl h
    cases h
  cases access with
  | tryAcquire lock =>
      cases lock with
      | principal =>
          cases hlocked : before.principal.locked with
          | true =>
              simp only [Access.run, McpView.recordAccess, hlocked, lock_eq_self hlocked]
              exact .refl view before
          | false =>
              simp only [Access.run, McpView.recordAccess, hlocked]
              refine Steps.of_principal ?_ (fun _ h => .inl h) rfl (hother _) rfl rfl
              rw [hallowed, Bool.not_false, if_pos rfl, McpView.guard_setGuard_self]
              exact .acquire hlocked
      | scopeContext =>
          cases hlocked : before.scopeContext.locked with
          | true =>
              simp only [Access.run, McpView.recordAccess, hlocked, lock_eq_self hlocked]
              exact .refl view before
          | false =>
              simp only [Access.run, McpView.recordAccess, hlocked]
              refine Steps.of_scope ?_ (fun _ h => .inl h) (houtside hallowed) rfl rfl (hother' _)
                rfl rfl
              rw [hallowed, Bool.not_false, if_pos rfl, McpView.guard_setGuard_self]
              exact .acquire hlocked
  | release lock =>
      cases lock with
      | principal =>
          refine Steps.of_principal ?_ (fun _ h => .inl h) rfl (hother _) rfl rfl
          rw [McpView.recordAccess, McpView.guard_setGuard_self]
          exact .release hallowed
      | scopeContext =>
          refine Steps.of_scope ?_ (fun _ h => .inl h) hallowed.2 rfl rfl (hother' _) rfl rfl
          rw [McpView.recordAccess, McpView.guard_setGuard_self]
          exact .release hallowed.1
  | readPrincipal =>
      cases hvalue : before.principal.value with
      | none =>
          simp only [Access.run, McpView.recordAccess, hvalue]
          refine Steps.of_principal ?_ (fun _ h => .inl h) rfl (hother _) rfl rfl
          rw [hallowed, McpView.guard_setGuard_self]
          exact .look hvalue
      | some principal =>
          simp only [Access.run, McpView.recordAccess, hvalue]
          refine Steps.of_principal (.stay _) (fun read h => .inr ?_) rfl rfl rfl rfl
          exact hvalue.trans h
  | storePrincipal principal =>
      refine Steps.of_principal ?_ (fun read h => .inr h) rfl (hother .holding) rfl rfl
      have hholding : ((view.recordAccess (.storePrincipal principal) ()).guard .principal) =
          .holding := view.guard_setGuard_self .principal .holding
      rw [hallowed, hholding]
      exact .fill principal
  | readScopeContext =>
      cases hvalue : before.scopeContext.value with
      | none =>
          simp only [Access.run, McpView.recordAccess, hvalue]
          refine Steps.of_scope ?_ (fun _ h => .inl h) (fun _ => hallowed.2) rfl rfl (hother' _)
            rfl rfl
          rw [hallowed.1, McpView.guard_setGuard_self]
          exact .look hvalue
      | some context =>
          simp only [Access.run, McpView.recordAccess, hvalue]
          refine Steps.of_scope (.stay _) (fun read h => .inr ?_) (fun _ => hallowed.2) rfl rfl rfl
            rfl rfl
          exact hvalue.trans h
  | storeScopeContext context =>
      obtain ⟨hempty, hsettles⟩ := hallowed
      unfold Settles at hsettles
      have hholding : ((view.recordAccess (.storeScopeContext context) ()).guard .scopeContext) =
          .holding := view.guard_setGuard_self .scopeContext .holding
      exact {
        principal_act := by
          have hkept : (view.recordAccess (.storeScopeContext context) ()).guard .principal =
            view.guard .principal := hother' .holding
          rw [hkept]
          exact .stay _
        scope_act := by
          rw [hempty, hholding]
          exact .fill context
        principal := fun _ h => .inl h
        context := fun _ h => .inr h
        failure := fun _ h => .inl h
        empty := fun exception hfailure _ => by
          rw [hfailure] at hsettles
          exact .inr (congrArg some hsettles)
        filled := fun stored hstored => by
          obtain rfl : context = stored := Option.some.inj hstored
          cases hfailure : view.failure with
          | none =>
              rw [hfailure] at hsettles
              exact .inr (.inl hsettles)
          | some exception =>
              rw [hfailure] at hsettles
              exact .inr (.inr ⟨exception, rfl, hsettles⟩) }

/-- What every allowed step does. -/
theorem steps_of_allowed (hallowed : Allowed platform settings call view step)
    (hmoves : mcpMachine.Moves step after) :
    Steps platform settings view step.before (view.record step) after := by
  obtain ⟨before, event⟩ := step
  cases event with
  | completed op answer =>
      obtain ⟨choice, happly⟩ := hmoves
      obtain ⟨rfl, rfl⟩ : (mcpMachine.apply op choice before).1 = answer ∧
          (mcpMachine.apply op choice before).2 = after := Prod.mk.inj happly
      cases op with
      | access access => exact steps_access hallowed
      | waitLock lock => exact .refl view before
      | getJson path =>
          cases choice with
          | ok principal => exact .refl view before
          | error exception => exact steps_recordFailure view exception before
  | _ =>
      obtain rfl : after = before := hmoves
      exact .refl view after

end Steps

/-! ## Every run -/

section Claim

variable {platform : Platform} {settings : PaybondMCPSettings}
variable {trace first second : List McpEntry} {state init : RuntimeState} {entry : McpEntry}

/-- The principal request fails with an exception that `except Exception` catches. -/
def IsReadFailure : McpEvent → Prop
  | .completed (.getJson _) (.error exception) => exception.isException = true
  | _ => False

instance : DecidablePred IsReadFailure := fun event => by
  unfold IsReadFailure
  split <;> infer_instance

/-- A call that was settling the permission model could not read the principal. -/
def ScopeReadFailed (trace : List McpEntry) : Prop :=
  ∃ entry ∈ trace, entry.call.ResolvesScope ∧ IsReadFailure entry.event

instance (trace : List McpEntry) : Decidable (ScopeReadFailed trace) :=
  inferInstanceAs (Decidable (∃ entry ∈ trace, entry.call.ResolvesScope ∧ _))

variable (platform settings) in
/-- The permission model is settled once, by a call that is alone in settling it. -/
structure ScopeInvariant (trace : List McpEntry) (state : RuntimeState) : Prop where
  principalGuarded :
    state.principal.Guarded fun task => (mcpRecorder.view trace task).guard .principal
  scopeGuarded :
    state.scopeContext.Guarded fun task => (mcpRecorder.view trace task).guard .scopeContext
  principal : ∀ task principal, (mcpRecorder.view trace task).principal = some principal →
    state.principal.value = some principal
  context : ∀ task context, (mcpRecorder.view trace task).context = some context →
    state.scopeContext.value = some context
  failed : ∀ task exception, (mcpRecorder.view trace task).failure = some exception →
    (mcpRecorder.view trace task).guard .scopeContext = .empty ∨
      ∃ exception, state.scopeContext.value = some (unresolvedContext settings exception)
  settled : ∀ context, state.scopeContext.value = some context →
    (∃ principal, state.principal.value = some principal ∧
      context = resolvedContext platform settings principal) ∨
    ∃ task exception, (mcpRecorder.view trace task).failure = some exception ∧
      context = unresolvedContext settings exception

theorem ScopeInvariant.start : ScopeInvariant platform settings [] {} where
  principalGuarded := .start _
  scopeGuarded := .start _
  principal _ _ h := nomatch h
  context _ _ h := nomatch h
  failed _ _ h := nomatch h
  settled _ h := nomatch h

section Step

variable {after : RuntimeState} (hinv : ScopeInvariant platform settings trace entry.before)
variable (hsteps : Steps platform settings (mcpRecorder.view trace entry.task) entry.before
  (mcpRecorder.record (mcpRecorder.view trace entry.task) entry.toStep) after)

include hinv hsteps

theorem ScopeInvariant.principal_kept {principal : Principal}
    (hvalue : entry.before.principal.value = some principal) :
    after.principal.value = some principal :=
  hinv.principalGuarded.value_eq entry.task hsteps.principal_act hvalue

theorem ScopeInvariant.context_kept {context : McpScopeContext}
    (hvalue : entry.before.scopeContext.value = some context) :
    after.scopeContext.value = some context :=
  hinv.scopeGuarded.value_eq entry.task hsteps.scope_act hvalue

theorem ScopeInvariant.failed_step {task : ℕ} {exception : PyExc}
    (hfailure : (mcpRecorder.view (trace ++ [entry]) task).failure = some exception) :
    (mcpRecorder.view (trace ++ [entry]) task).guard .scopeContext = .empty ∨
      ∃ exception, after.scopeContext.value = some (unresolvedContext settings exception) := by
  by_cases htask : entry.task = task
  · subst htask
    rw [mcpRecorder.view_snoc_self rfl] at hfailure ⊢
    rcases hsteps.failure exception hfailure with hearlier | hnow
    · rcases hinv.failed _ _ hearlier with hempty | ⟨exception', hvalue⟩
      · exact (hsteps.empty exception hearlier hempty).imp_right fun hstored => ⟨exception, hstored⟩
      · exact .inr ⟨exception', hinv.context_kept hsteps hvalue⟩
    · exact .inl hnow
  · rw [mcpRecorder.view_snoc_other htask] at hfailure ⊢
    refine (hinv.failed _ _ hfailure).imp_right ?_
    rintro ⟨exception', hvalue⟩
    exact ⟨exception', hinv.context_kept hsteps hvalue⟩

theorem ScopeInvariant.settled_step {context : McpScopeContext}
    (hvalue : after.scopeContext.value = some context) :
    (∃ principal, after.principal.value = some principal ∧
      context = resolvedContext platform settings principal) ∨
    ∃ task exception, (mcpRecorder.view (trace ++ [entry]) task).failure = some exception ∧
      context = unresolvedContext settings exception := by
  -- a failure that was recorded stays recorded
  have hrecorded : ∀ task exception, (mcpRecorder.view trace task).failure = some exception →
      (mcpRecorder.view (trace ++ [entry]) task).failure = some exception :=
    fun _ exception hfailure =>
      mcpRecorder.view_keeps (p := fun view => view.failure = some exception)
        (fun _ _ => McpView.failure_kept) hfailure
  rcases hsteps.filled context hvalue with hbefore | ⟨principal, hread, hcontext⟩ |
    ⟨exception, hfailure, hcontext⟩
  · rcases hinv.settled context hbefore with ⟨principal, hprincipal, hcontext⟩ |
      ⟨task, exception, hfailure, hcontext⟩
    · exact .inl ⟨principal, hinv.principal_kept hsteps hprincipal, hcontext⟩
    · exact .inr ⟨task, exception, hrecorded task exception hfailure, hcontext⟩
  · have hprincipal := hinv.principal _ _ hread
    exact .inl ⟨principal, hinv.principal_kept hsteps hprincipal, hcontext⟩
  · exact .inr ⟨entry.task, exception, hrecorded _ exception hfailure, hcontext⟩

theorem ScopeInvariant.step : ScopeInvariant platform settings (trace ++ [entry]) after := by
  have hguard : ∀ lock, (fun task => (mcpRecorder.view (trace ++ [entry]) task).guard lock) =
      update (fun task => (mcpRecorder.view trace task).guard lock) entry.task
        ((mcpRecorder.record (mcpRecorder.view trace entry.task) entry.toStep).guard lock) := by
    intro lock
    rw [mcpRecorder.view_snoc_update]
    exact comp_update (fun view : McpView => view.guard lock) _ _ _
  refine ⟨?_, ?_, fun task principal hread => ?_, fun task context hread => ?_,
    fun _ _ => hinv.failed_step hsteps, fun _ => hinv.settled_step hsteps⟩
  · rw [hguard]
    exact hinv.principalGuarded.act hsteps.principal_act
  · rw [hguard]
    exact hinv.scopeGuarded.act hsteps.scope_act
  · by_cases htask : entry.task = task
    · subst htask
      rw [mcpRecorder.view_snoc_self rfl] at hread
      rcases hsteps.principal principal hread with hearlier | hnow
      · exact hinv.principal_kept hsteps (hinv.principal _ _ hearlier)
      · exact hnow
    · rw [mcpRecorder.view_snoc_other htask] at hread
      exact hinv.principal_kept hsteps (hinv.principal _ _ hread)
  · by_cases htask : entry.task = task
    · subst htask
      rw [mcpRecorder.view_snoc_self rfl] at hread
      rcases hsteps.context context hread with hearlier | hnow
      · exact hinv.context_kept hsteps (hinv.context _ _ hearlier)
      · exact hnow
    · rw [mcpRecorder.view_snoc_other htask] at hread
      exact hinv.context_kept hsteps (hinv.context _ _ hread)

end Step

theorem scopeInvariant
    (hbehaves : mcpMachine.Behaves (mcpProtocol platform settings) {} trace state) :
    ScopeInvariant platform settings trace state := by
  have hstart : ScopeInvariant platform settings [] {} := .start
  refine hbehaves.invariant _ hstart fun trace entry after _ hinv hallowed hmoves => ?_
  have hsteps : Steps platform settings (mcpRecorder.view trace entry.task) entry.before
      (mcpRecorder.record (mcpRecorder.view trace entry.task) entry.toStep) after :=
    steps_of_allowed hallowed hmoves
  exact hinv.step hsteps

/-! ### Failed reads -/

/-- Only a failed read leaves a failure, and it does so when the call is settling the
permission model. -/
theorem McpView.record_failure {view : McpView} {step : McpStep} {exception : PyExc}
    (hfailure : (view.record step).failure = some exception) :
    view.failure = some exception ∨
      IsReadFailure step.event ∧ view.guard .scopeContext = .empty := by
  unfold McpView.record at hfailure
  split at hfailure
  next =>
    rw [failure_recordAccess] at hfailure
    exact .inl hfailure
  next heq =>
    unfold McpView.recordFailure at hfailure
    rw [heq]
    split at hfailure
    next hempty => exact .inr ⟨hempty.2, hempty.1⟩
    next => exact .inl hfailure
  next => exact .inl hfailure

theorem McpView.failure_of_readFailure {view : McpView} {step : McpStep}
    (hread : IsReadFailure step.event) (hempty : view.guard .scopeContext = .empty)
    (hfailure : view.failure = none) :
    ∃ exception, (view.record step).failure = some exception := by
  obtain ⟨before, event⟩ := step
  unfold IsReadFailure at hread
  split at hread
  next path exception heq =>
    obtain rfl : event = _ := heq
    refine ⟨exception, ?_⟩
    simp [McpView.record, McpView.recordFailure, hempty, hread, hfailure]
  next => exact hread.elim

/-- The failed reads are those that the calls know of. -/
theorem scopeReadFailed_iff
    (hbehaves : mcpMachine.Behaves (mcpProtocol platform settings) {} trace state) :
    ScopeReadFailed trace ↔
      ∃ task exception, (mcpRecorder.view trace task).failure = some exception := by
  have hallowedRead : ∀ {first second : List McpEntry} {entry : McpEntry},
      trace = first ++ entry :: second → IsReadFailure entry.event →
        (mcpRecorder.view first entry.task).failure = none ∧
          (entry.call.ResolvesScope ↔
            (mcpRecorder.view first entry.task).guard .scopeContext = .empty) := by
    intro first second entry htrace hread
    obtain ⟨-, -, -, hallowed⟩ := hbehaves.split htrace
    obtain ⟨⟨before, event⟩, task, call⟩ := entry
    unfold IsReadFailure at hread
    split at hread
    next heq =>
      obtain rfl : event = _ := heq
      exact hallowed
    next => exact hread.elim
  constructor
  · rintro ⟨entry, hentry, hcall, hread⟩
    obtain ⟨first, second, htrace⟩ := List.append_of_mem hentry
    obtain ⟨hnone, hscope⟩ := hallowedRead htrace hread
    obtain ⟨exception, hfailure⟩ := McpView.failure_of_readFailure hread (hscope.mp hcall) hnone
    refine ⟨entry.task, exception, ?_⟩
    rw [htrace, List.append_cons]
    refine mcpRecorder.view_keeps (p := fun view => view.failure = some exception)
      (fun _ _ => McpView.failure_kept) ?_
    rw [mcpRecorder.view_snoc_self rfl]
    exact hfailure
  · rintro ⟨task, exception, hfailure⟩
    obtain ⟨first, entry, second, htrace, rfl, hnot, hset⟩ := mcpRecorder.exists_step_of_view
      (p := fun view => view.failure = some exception) (fun h => nomatch h) hfailure
    obtain ⟨hread, hempty⟩ := (McpView.record_failure hset).resolve_left hnot
    refine ⟨entry, ?_, (hallowedRead htrace hread).2.mpr hempty, hread⟩
    rw [htrace]
    simp

/-! ### What the principal grants -/

section Grant

variable (platform settings)

/-- The credential is not restricted, or a scope of the principal satisfies the one that the
catalog requires. -/
def Granted (principal : Principal) (name : String) : Prop :=
  restricted platform settings principal = false ∨
    ∃ required ∈ requiredScopeForTool name,
      scopeSatisfies (parseMcpScopes platform.lower (principal.getValue "mcp_scopes")) required =
        true

instance (principal : Principal) (name : String) :
    Decidable (Granted platform settings principal name) :=
  inferInstanceAs (Decidable (_ ∨ _))

variable {platform settings}

theorem scopeDenial_resolvedContext (principal : Principal) (name : String) :
    scopeDenial name (resolvedContext platform settings principal) = none ↔
      Granted platform settings principal name := by
  unfold scopeDenial Granted resolvedContext
  dsimp only
  cases restricted platform settings principal with
  | false => simp
  | true =>
      unfold toolAllowedByScope
      cases requiredScopeForTool name with
      | none => simp
      | some required => simp

theorem scopeDenial_unresolvedContext (exception : PyExc) (name : String) :
    scopeDenial name (unresolvedContext settings exception) = none ↔
      apiKeyKind settings ≠ .restricted := by
  unfold scopeDenial unresolvedContext
  split
  next hkind => simp [hkind]
  next hkind => simp [hkind]

end Grant

theorem scopeDenialFor_iff_of_behaves {step : McpEntry} {name : String} {message : Option String}
    {principal : Principal}
    (hbehaves : mcpMachine.Behaves (mcpProtocol platform settings) {} first step.before)
    (hallowed : Allowed platform settings step.call (mcpRecorder.view first step.task) step.toStep)
    (hcall : step.call = .scopeDenialFor name)
    (hevent : step.event = .finished (.ok (.denial message)))
    (hprincipal : step.before.principal.value = some principal) :
    (message = none ↔ Granted platform settings principal name) ↔
      (ScopeReadFailed first →
        (apiKeyKind settings ≠ .restricted ↔ Granted platform settings principal name)) := by
  have hinv := scopeInvariant hbehaves
  obtain ⟨⟨before, event⟩, task, call⟩ := step
  obtain rfl : event = _ := hevent
  obtain ⟨name', context, hsame, hcontext, rfl⟩ := hallowed
  cases hcall.symm.trans hsame
  have hvalue := hinv.context task context hcontext
  by_cases hfailed : ScopeReadFailed first
  · obtain ⟨reader, exception, hfailure⟩ := (scopeReadFailed_iff hbehaves).mp hfailed
    rcases hinv.failed reader exception hfailure with hempty | ⟨exception', hfallback⟩
    · -- nothing is settled while a failed reader holds the lock
      cases (hinv.scopeGuarded.empty reader hempty).symm.trans hvalue
    · have hsame : context = unresolvedContext settings exception' :=
        Option.some.inj (hvalue.symm.trans hfallback)
      rw [hsame, scopeDenial_unresolvedContext]
      exact ⟨fun h _ => h, fun h => h hfailed⟩
  · rcases hinv.settled context hvalue with ⟨principal', hread, hsame⟩ |
      ⟨reader, exception, hfailure, -⟩
    · obtain rfl : principal' = principal := Option.some.inj (hread.symm.trans hprincipal)
      rw [hsame, scopeDenial_resolvedContext]
      exact ⟨fun h hnot => absurd hnot hfailed, fun _ => Iff.rfl⟩
    · exact absurd ((scopeReadFailed_iff hbehaves).mpr ⟨reader, exception, hfailure⟩) hfailed

theorem runMcp_sound (platform : Platform) (settings : PaybondMCPSettings) (spins : ℕ)
    (actions : List (Action McpCall mcpMachine)) :
    (runMcp platform settings spins actions).Sound mcpMachine (mcpProtocol platform settings) {} :=
  Loop.run_sound (program_obeys platform settings spins) {} actions

/-- Once the principal has been read, the gate answers what the principal grants, exactly
unless a call that was settling the permission model could not read it and the fallback
differs. -/
theorem scopeDenialFor_iff (platform : Platform) (settings : PaybondMCPSettings) (spins : ℕ)
    (actions : List (Action McpCall mcpMachine)) {first second : List McpEntry} {step : McpEntry}
    {name : String} {message : Option String} {principal : Principal}
    (htrace : (runMcp platform settings spins actions).trace = first ++ step :: second)
    (hcall : step.call = .scopeDenialFor name)
    (hevent : step.event = .finished (.ok (.denial message)))
    (hprincipal : step.before.principal.value = some principal) :
    (message = none ↔ Granted platform settings principal name) ↔
      (ScopeReadFailed first →
        (apiKeyKind settings ≠ .restricted ↔ Granted platform settings principal name)) := by
  obtain ⟨hfirst, -, -, hallowed⟩ :=
    (runMcp_sound platform settings spins actions).behaves.split htrace
  exact scopeDenialFor_iff_of_behaves hfirst hallowed hcall hevent hprincipal

end Claim

/-! ## A principal that is readable at the second try -/

def platformMcp : Platform where
  lower text := text
  pyStr _ := "None"

def settingsRestricted : PaybondMCPSettings where
  apiKey := "paybond_rk_sandbox"

def settingsStandard : PaybondMCPSettings where
  apiKey := "paybond_sk_sandbox"

/-- A restricted key that may read. -/
def principalReadonly : Principal := .ofList
  [("key_kind", .str "restricted"),
    ("mcp_scopes", .list [.str "mcp.discovery:read", .dict [("scope", .str "mcp.spend")]])]

def gatewayAnswers (answer : Except PyExc Principal) : ℕ → (op : Op) → mcpMachine.Choice op
  | _, .access _ => ()
  | _, .waitLock _ => true
  | _, .getJson _ => answer

/-- The request is made and answered. -/
def requestActions (task : ℕ) (call : McpCall) (answer : Except PyExc Principal) :
    List (Action McpCall mcpMachine) :=
  [.start call (gatewayAnswers answer), .resume task (gatewayAnswers answer)]

/-- The principal is read, and then the tool is asked for. -/
def readActions (name : String) : List (Action McpCall mcpMachine) :=
  requestActions 0 .preloadPrincipal (.ok principalReadonly) ++
    requestActions 1 (.scopeDenialFor name) (.ok principalReadonly)

/-- The first call for the tool finds the gateway down, the second finds it up again. -/
def unreadableActions (name : String) : List (Action McpCall mcpMachine) :=
  requestActions 0 (.scopeDenialFor name) (.error (.other "ConnectError" "down")) ++
    requestActions 1 .preloadPrincipal (.ok principalReadonly) ++
      requestActions 2 (.scopeDenialFor name) (.ok principalReadonly)

/-- The answer of the gate. -/
def Answers (denied : Bool) : McpEvent → Prop
  | .finished (.ok (.denial message)) => message.isSome = denied
  | _ => False

instance (denied : Bool) : DecidablePred (Answers denied) := fun event => by
  unfold Answers
  split <;> infer_instance

theorem Answers.eq {denied : Bool} {event : McpEvent} (hanswers : Answers denied event) :
    ∃ message : Option String, event = .finished (.ok (.denial message)) ∧
      message.isSome = denied := by
  unfold Answers at hanswers
  split at hanswers
  next message => exact ⟨message, rfl, hanswers⟩
  next => exact hanswers.elim

theorem exists_answer_readable :
    ∃ step ∈ (runMcp platformMcp settingsRestricted 1 (readActions "paybond_list_intents")).trace,
      step.call = .scopeDenialFor "paybond_list_intents" ∧ Answers false step.event ∧
        ∃ principal ∈ step.before.principal.value,
          Granted platformMcp settingsRestricted principal "paybond_list_intents" := by
  decide +kernel

theorem scopeDenialFor_iff_readable :
    ∃ first step second message principal,
      (runMcp platformMcp settingsRestricted 1 (readActions "paybond_list_intents")).trace =
          first ++ step :: second ∧
        step.event = .finished (.ok (.denial message)) ∧
        ((message = none ↔
            Granted platformMcp settingsRestricted principal "paybond_list_intents") ↔
          (ScopeReadFailed first → (apiKeyKind settingsRestricted ≠ .restricted ↔
            Granted platformMcp settingsRestricted principal "paybond_list_intents"))) := by
  obtain ⟨step, hmem, hcall, hanswers, principal, hprincipal, -⟩ := exists_answer_readable
  obtain ⟨message, hevent, -⟩ := hanswers.eq
  obtain ⟨first, second, htrace⟩ := List.append_of_mem hmem
  exact ⟨first, step, second, message, principal, htrace, hevent,
    scopeDenialFor_iff platformMcp settingsRestricted 1 (readActions "paybond_list_intents")
      htrace hcall hevent hprincipal⟩

/-- After a failed read a restricted key is denied what its principal grants, and a key
without the prefix is let do what its principal, a restricted one, does not grant. -/
theorem scopeDenialFor_after_failure :
    (∃ step ∈ (runMcp platformMcp settingsRestricted 1
        (unreadableActions "paybond_list_intents")).trace,
      step.call = .scopeDenialFor "paybond_list_intents" ∧ Answers true step.event ∧
        ∃ principal ∈ step.before.principal.value,
          Granted platformMcp settingsRestricted principal "paybond_list_intents") ∧
    ∃ step ∈ (runMcp platformMcp settingsStandard 1
        (unreadableActions "paybond_fund_intent")).trace,
      step.call = .scopeDenialFor "paybond_fund_intent" ∧ Answers false step.event ∧
        ∃ principal ∈ step.before.principal.value,
          ¬Granted platformMcp settingsStandard principal "paybond_fund_intent" := by
  refine ⟨?_, ?_⟩
  · decide +kernel
  · decide +kernel

end PaybondKit.Mcp
