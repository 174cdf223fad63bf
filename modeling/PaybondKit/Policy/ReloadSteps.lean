import PaybondKit.Agent.InterceptorSteps

/-!
# The steps of reloads

A reload reads the in-flight count until it is zero and the current snapshot at
several points. What it compared with is still current when it applies, unless it
awaited the remote validation in between.
-/

namespace PaybondKit.Policy

open Agent
open Coroutine (follows_bind follows_tryExcept follows_tryFinally follows_ofExcept)

/-- A reload knows the count and the snapshot it has read. -/
def reloadView (lastCount : Option ℕ) (compared : Option (Option PaybondPolicySnapshot))
    (remote : Bool) : CallView :=
  { lastCount, compared, remote }

/-- Whatever has happened, the view is that of a reload. -/
def ReloadEnds {α : Type} : Except PyExc α → CallView → RunState → Prop :=
  fun _ view _ => ∃ lastCount compared remote, view = reloadView lastCount compared remote

/-- The registry of a snapshot is the one its document describes. -/
def Built (platform : Platform) (snapshot : PaybondPolicySnapshot) : Prop :=
  policyToToolRegistry platform.catalog snapshot.document = .ok snapshot.registry

variable {platform : Platform} {binding : PaybondRunBinding} {call : AgentCall}
variable {state : RunState} {lastCount : Option ℕ}
variable {compared : Option (Option PaybondPolicySnapshot)} {remote : Bool}

theorem reloadView_ends (event : Event Val PyExc AgentOutcome) :
    YieldAllowed call (reloadView lastCount compared remote) event ∧
      SettledAllowed call (reloadView lastCount compared remote) :=
  ends_of_auth_none rfl rfl

theorem reloadView_yields (event : Event Val PyExc AgentOutcome) :
    YieldAllowed call (reloadView lastCount compared remote) event :=
  (reloadView_ends event).1

/-! ## Waiting -/

theorem conforms_waitForInFlightCount (hreloads : call.Reloads binding) (deadline bound : ℕ)
    {post : Except PyExc Unit → CallView → RunState → Prop}
    (hok : ∀ resumed, post (.ok ()) (reloadView (some 0) compared false) resumed)
    (herror : ∀ exception lastCount resumed,
      post (.error exception) (reloadView lastCount compared false) resumed) :
    Conforms platform binding call (waitForInFlightCount deadline bound)
      (reloadView lastCount compared false) state post := by
  induction bound generalizing lastCount state with
  | zero => exact hreloads
  | succ bound ih =>
      refine (follows_bind _ _).mpr (follows_access.mpr fun _ => ⟨hreloads, ?_⟩)
      change Conforms platform binding call (if 0 < state.inFlightCount then _ else _)
        (reloadView (some state.inFlightCount) compared false) state post
      by_cases hbusy : 0 < state.inFlightCount
      · rw [if_pos hbusy]
        refine (follows_bind _ _).mpr (follows_access.mpr fun now => ⟨trivial, ?_⟩)
        change Conforms platform binding call (if deadline < now then _ else _) _ state post
        by_cases hlate : deadline < now
        · rw [if_pos hlate]
          exact herror _ _ _
        · rw [if_neg hlate]
          refine (follows_bind _ _).mpr (conforms_quietAwait rfl reloadView_yields
            (fun _ => trivial) (fun _ => trivial) rfl (fun _ => rfl) ?_)
          rintro (exception | _) resumed
          · exact herror _ _ _
          · exact ih
      · have hzero : state.inFlightCount = 0 := by omega
        rw [if_neg hbusy, hzero]
        exact hok state

/-! ## Loading -/

section Load

variable {post : Except PyExc PaybondPolicySnapshot → CallView → RunState → Prop}

/-- Reading the digest reads the current snapshot. -/
theorem conforms_policyDigest (hreloads : call.Reloads binding)
    {post : Except PyExc (Option String) → CallView → RunState → Prop}
    (hpost : post (.ok (state.currentSnapshot.map (·.digest)))
      (reloadView lastCount (if remote then compared else some state.currentSnapshot) remote)
      state) :
    Conforms platform binding call policyDigest (reloadView lastCount compared remote)
      state post := by
  refine (follows_bind _ _).mpr (follows_access.mpr fun _ => ⟨hreloads, ?_⟩)
  cases remote with
  | true => exact hpost
  | false => exact hpost

theorem conforms_snapshotOf {document : PaybondPolicyDocumentV1} {digest : Option String}
    {view : CallView}
    (hok : ∀ snapshot, Built platform snapshot → post (.ok snapshot) view state)
    (herror : ∀ exception, post (.error exception) view state) :
    Conforms platform binding call (snapshotOf platform document digest) view state post := by
  refine (follows_bind _ _).mpr ((follows_ofExcept _).mpr ?_)
  cases hregistry : policyToToolRegistry platform.catalog document with
  | error exception => exact herror _
  | ok registry => exact hok _ hregistry

theorem conforms_parsed {α : Type} {result : Parsed α} {view : CallView}
    {post : Except PyExc α → CallView → RunState → Prop}
    (hpost : ∀ outcome, post outcome view state) :
    Conforms platform binding call (parsed result) view state post :=
  (follows_ofExcept _).mpr (hpost _)

theorem conforms_resolveEffectiveDocument {sourcePath : String} {document : PaybondPolicyDocument}
    {view : CallView} {post : Except PyExc PaybondPolicyDocumentV1 → CallView → RunState → Prop}
    (hpost : ∀ outcome, post outcome view state) :
    Conforms platform binding call (resolveEffectiveDocument platform sourcePath document)
      view state post := by
  unfold resolveEffectiveDocument
  split
  · exact conforms_parsed hpost
  split
  · exact conforms_parsed hpost
  refine (follows_bind _ _).mpr (conforms_quiet rfl trivial (fun _ => rfl) ?_)
  rintro (exception | raw)
  · exact hpost _
  refine (follows_bind _ _).mpr (conforms_parsed ?_)
  rintro (exception | base)
  · exact hpost _
  refine (follows_bind _ _).mpr (conforms_parsed ?_)
  rintro (exception | merged)
  · exact hpost _
  · exact hpost _

theorem conforms_loadPolicySnapshotFromFile {filePath : String} {view : CallView}
    (hok : ∀ snapshot, Built platform snapshot → post (.ok snapshot) view state)
    (herror : ∀ exception, post (.error exception) view state) :
    Conforms platform binding call (loadPolicySnapshotFromFile platform filePath)
      view state post := by
  refine (follows_bind _ _).mpr (conforms_quiet rfl trivial (fun _ => rfl) ?_)
  rintro (exception | raw)
  · exact herror _
  refine (follows_bind _ _).mpr (conforms_parsed ?_)
  rintro (exception | document)
  · exact herror _
  refine (follows_bind _ _).mpr (conforms_resolveEffectiveDocument ?_)
  rintro (exception | effective)
  · exact herror _
  · exact conforms_snapshotOf hok herror

theorem conforms_loadPolicySnapshotFromEffectivePoll {overlayPath : String}
    {currentDigest : Option String}
    {post : Except PyExc (Option PaybondPolicySnapshot) → CallView → RunState → Prop}
    (hok : ∀ loaded resumed, (∀ snapshot, loaded = some snapshot → Built platform snapshot) →
      post (.ok loaded) (reloadView lastCount compared remote) resumed)
    (herror : ∀ exception resumed,
      post (.error exception) (reloadView lastCount compared remote) resumed) :
    Conforms platform binding call
      (loadPolicySnapshotFromEffectivePoll platform overlayPath currentDigest)
      (reloadView lastCount compared remote) state post := by
  refine (follows_bind _ _).mpr (conforms_quiet rfl trivial (fun _ => rfl) ?_)
  rintro (exception | payload)
  · exact herror _ _
  refine (follows_bind _ _).mpr ((follows_ofExcept _).mpr ?_)
  split
  case h_2 => exact herror _ _
  refine (follows_bind _ _).mpr (conforms_quietAwait rfl reloadView_yields (fun _ => trivial)
    (fun _ => trivial) rfl (fun _ => rfl) ?_)
  rintro (exception | resolved) resumed
  · exact herror _ _
  dsimp only
  split
  · exact hok none resumed fun _ h => nomatch h
  refine (follows_bind _ _).mpr (conforms_parsed ?_)
  rintro (exception | effective)
  · exact herror _ _
  refine (follows_bind _ _).mpr (conforms_snapshotOf ?_ fun _ => herror _ _)
  intro snapshot hbuilt
  refine hok (some snapshot) resumed fun other hother => ?_
  cases hother
  exact hbuilt

theorem conforms_resolveReloadSnapshotForHandle (hreloads : call.Reloads binding)
    {policyFilePath : Option String} {options : PaybondPolicyReloadOptions}
    (hok : ∀ snapshot compared resumed, Built platform snapshot →
      post (.ok snapshot) (reloadView lastCount compared false) resumed)
    (herror : ∀ exception compared resumed,
      post (.error exception) (reloadView lastCount compared false) resumed) :
    Conforms platform binding call (resolveReloadSnapshotForHandle platform policyFilePath options)
      (reloadView lastCount compared false) state post := by
  unfold resolveReloadSnapshotForHandle
  dsimp only
  split
  · exact herror _ _ _
  split
  · refine (follows_bind _ _).mpr (conforms_policyDigest hreloads ?_)
    refine (follows_bind _ _).mpr (conforms_loadPolicySnapshotFromEffectivePoll ?_
      fun _ _ => herror _ _ _)
    rintro (_ | snapshot) resumed hbuilt
    · exact herror _ _ _
    · exact hok _ _ _ (hbuilt snapshot rfl)
  · refine (follows_bind _ _).mpr (conforms_loadPolicySnapshotFromFile ?_
      fun _ => herror _ _ _)
    intro snapshot hbuilt
    refine (follows_bind _ _).mpr (conforms_policyDigest hreloads ?_)
    dsimp only
    split
    · exact herror _ _ _
    · exact hok _ _ _ hbuilt

end Load

/-! ## Validating and applying -/

section Apply

variable {options : PaybondPolicyReloadOptions} {snapshot : PaybondPolicySnapshot}

theorem conforms_validateLocally {document : PaybondPolicyDocumentV1} {view : CallView}
    {post : Except PyExc Unit → CallView → RunState → Prop}
    (hpost : ∀ outcome, post outcome view state) :
    Conforms platform binding call (validateLocally platform document) view state post := by
  refine (follows_bind _ _).mpr (conforms_quiet rfl trivial (fun _ => rfl) ?_)
  rintro (exception | strict)
  · exact hpost _
  dsimp only
  split
  · exact hpost _
  · exact hpost _

/-- Only a remote validation lets the state change. -/
theorem conforms_validateRemotely {document : PaybondPolicyDocumentV1}
    {post : Except PyExc Unit → CallView → RunState → Prop}
    (hpost : ∀ outcome remote resumed, (remote = false → resumed = state) →
      post outcome (reloadView lastCount (some state.currentSnapshot) remote) resumed) :
    Conforms platform binding call (validateRemotely document options)
      (reloadView lastCount (some state.currentSnapshot) false) state post := by
  have hlocal : ∀ outcome, post outcome
      (reloadView lastCount (some state.currentSnapshot) false) state :=
    fun outcome => hpost outcome false state fun _ => rfl
  have hremote : ∀ outcome resumed, post outcome
      (reloadView lastCount (some state.currentSnapshot) true) resumed :=
    fun outcome resumed => hpost outcome true resumed fun h => nomatch h
  unfold validateRemotely
  split
  · refine (follows_bind _ _).mpr (conforms_quiet rfl trivial (fun _ => rfl) ?_)
    rintro (exception | strict)
    · exact hlocal _
    refine (follows_bind _ _).mpr ((follows_await rfl).mpr
      ⟨⟨reloadView_yields _, rfl⟩, fun resumed answer => ⟨trivial, ?_⟩⟩)
    rcases answer with exception | report
    · exact hremote _ resumed
    dsimp only
    split
    · exact hremote _ resumed
    · exact hremote _ resumed
  · exact hlocal _

/-- The swap comes after the checks, with no pause since the digest was read. -/
theorem conforms_applyIfChanged {previous : Option PaybondPolicySnapshot}
    {allowedTools : List String} (hoptions : call.reloadOptions? binding = some options)
    (hbuilt : Built platform snapshot)
    (hchecked : checkReplacement (previous.map (·.document)) snapshot options allowedTools = .ok ())
    (hcurrent : remote = false → previous = state.currentSnapshot) :
    Conforms platform binding call (applyIfChanged snapshot)
      (reloadView (some 0) (some previous) remote) state ReloadEnds := by
  have hreloads : call.Reloads binding := by simp [AgentCall.Reloads, hoptions]
  refine (follows_bind _ _).mpr (conforms_policyDigest hreloads ?_)
  have hcompared : (if remote then some previous else some state.currentSnapshot) =
      some previous := by
    cases remote with
    | true => rfl
    | false => rw [hcurrent rfl]; rfl
  rw [hcompared]
  dsimp only
  split
  · exact ⟨_, _, _, rfl⟩
  · refine (follows_bind _ _).mpr (follows_access.mpr fun _ => ⟨?_, ⟨_, _, _, rfl⟩⟩)
    exact
      { quiescent := rfl
        registry := hbuilt
        checked := ⟨options, allowedTools, previous, hoptions, rfl, hchecked, hcurrent⟩ }

theorem conforms_validateAndApplyPolicySnapshot {allowedTools : List String}
    (hoptions : call.reloadOptions? binding = some options) (hbuilt : Built platform snapshot) :
    Conforms platform binding call
      (validateAndApplyPolicySnapshot platform snapshot options allowedTools)
      (reloadView (some 0) compared false) state ReloadEnds := by
  have hreloads : call.Reloads binding := by simp [AgentCall.Reloads, hoptions]
  refine (follows_bind _ _).mpr (follows_access.mpr fun _ => ⟨hreloads, ?_⟩)
  change Conforms platform binding call _ (reloadView (some 0) (some state.currentSnapshot) false)
    state ReloadEnds
  refine (follows_bind _ _).mpr (conforms_validateLocally ?_)
  rintro (exception | _)
  · exact ⟨_, _, _, rfl⟩
  refine (follows_bind _ _).mpr (conforms_validateRemotely ?_)
  rintro (exception | _) remote resumed hresumed
  · exact ⟨_, _, _, rfl⟩
  refine (follows_bind _ _).mpr ((follows_ofExcept _).mpr ?_)
  split
  next hchecked =>
    exact conforms_applyIfChanged hoptions hbuilt hchecked fun hlocal => by rw [hresumed hlocal]
  next => exact ⟨_, _, _, rfl⟩

end Apply

/-! ## Reloads -/

section Reload

variable {options : PaybondPolicyReloadOptions}

theorem conforms_reloadPolicyOnHandle (hoptions : call.reloadOptions? binding = some options)
    {policyFilePath : Option String} {allowedTools : Option (List String)} {bound : ℕ} :
    Conforms platform binding call
      (reloadPolicyOnHandle platform policyFilePath options allowedTools bound) {} state
      ReloadEnds := by
  have hreloads : call.Reloads binding := by simp [AgentCall.Reloads, hoptions]
  change Conforms platform binding call _ (reloadView none none false) state ReloadEnds
  refine (follows_bind _ _).mpr (follows_access.mpr fun _ => ⟨trivial, ?_⟩)
  refine (follows_bind _ _).mpr (conforms_waitForInFlightCount hreloads _ _ ?_
    fun _ _ _ => ⟨_, _, _, rfl⟩)
  intro resumed
  refine (follows_bind _ _).mpr ((follows_tryExcept _ _).mpr ((follows_bind _ _).mpr
    (conforms_resolveReloadSnapshotForHandle hreloads ?_ ?_)))
  · intro snapshot compared resumed hbuilt
    cases allowedTools with
    | some allowedTools =>
        exact conforms_validateAndApplyPolicySnapshot hoptions hbuilt
    | none =>
        refine (follows_bind _ _).mpr ((follows_bind _ _).mpr
          (follows_access.mpr fun _ => ⟨hreloads, ?_⟩))
        exact conforms_validateAndApplyPolicySnapshot hoptions hbuilt
  · intro exception compared resumed
    dsimp only
    split
    · refine (follows_bind _ _).mpr (conforms_policyDigest hreloads ?_)
      exact ⟨_, _, _, rfl⟩
    · exact ⟨_, _, _, rfl⟩

theorem conforms_reloadPolicy (hoptions : call.reloadOptions? binding = some options)
    {bound : ℕ} :
    Conforms platform binding call (reloadPolicy platform binding options bound) {} state
      ReloadEnds := by
  refine (follows_tryExcept _ _).mpr ((follows_bind _ _).mpr
    ((conforms_reloadPolicyOnHandle hoptions).weaken_post ?_))
  have hfailed : ∀ (exception : PyExc) (lastCount : Option ℕ)
      (compared : Option (Option PaybondPolicySnapshot)) (remote : Bool) (resumed : RunState),
      Conforms platform binding call
        (if exception.isException then do
          host (.emitReload (.policyReloadFailed exception))
          raise exception
        else raise exception)
        (reloadView lastCount compared remote) resumed
        (@ReloadEnds PaybondPolicyReloadResult) := by
    intro exception lastCount compared remote resumed
    split
    · refine (follows_bind _ _).mpr (conforms_quiet rfl trivial (fun _ => rfl) ?_)
      rintro (failure | _)
      · exact ⟨_, _, _, rfl⟩
      · exact ⟨_, _, _, rfl⟩
    · exact ⟨_, _, _, rfl⟩
  rintro (exception | result) _ resumed ⟨lastCount, compared, remote, rfl⟩
  · exact hfailed exception _ _ _ _
  dsimp only
  split
  · refine (follows_bind _ _).mpr (conforms_quiet rfl trivial (fun _ => rfl) ?_)
    rintro (exception | _)
    · exact hfailed exception _ _ _ _
    · exact ⟨_, _, _, rfl⟩
  · exact ⟨_, _, _, rfl⟩

theorem conforms_triggerReload (hoptions : call.reloadOptions? binding = some options)
    {bound : ℕ} :
    Conforms platform binding call (triggerReload platform binding options bound) {} state
      ReloadEnds := by
  refine (follows_bind _ _).mpr (follows_access.mpr fun _ => ⟨trivial, ?_⟩)
  dsimp only
  split
  · exact ⟨none, none, false, rfl⟩
  refine (follows_tryFinally _ _).mpr ((follows_tryExcept _ _).mpr ((follows_bind _ _).mpr
    ((conforms_reloadPolicy hoptions).weaken_post ?_)))
  rintro (exception | result) _ resumed ⟨lastCount, compared, remote, rfl⟩
  · dsimp only
    split
    · exact follows_access.mpr fun _ => ⟨trivial, ⟨_, _, _, rfl⟩⟩
    · exact follows_access.mpr fun _ => ⟨trivial, ⟨_, _, _, rfl⟩⟩
  · exact follows_access.mpr fun _ => ⟨trivial, ⟨_, _, _, rfl⟩⟩

end Reload

/-- A reload may end whenever it does. -/
theorem ReloadEnds.finished {α : Type} {outcome : Except PyExc α} {view : CallView}
    (hends : ReloadEnds outcome view state) (event : Event Val PyExc AgentOutcome) :
    YieldAllowed call view event ∧ SettledAllowed call view := by
  obtain ⟨_, _, _, rfl⟩ := hends
  exact reloadView_ends event

theorem reloadPolicy_obeys (options : PaybondPolicyReloadOptions) (bound : ℕ) :
    (program platform binding (.reloadPolicy options bound)).Obeys runMachine
      (agentProtocol platform binding) (.reloadPolicy options bound) := by
  intro state
  refine (follows_bind _ _).mpr ((conforms_reloadPolicy rfl).weaken_post ?_)
  rintro (exception | result) view resumed hends
  · exact hends.finished _
  · exact hends.finished _

theorem reloadPolicyOnHandle_obeys (options : PaybondPolicyReloadOptions)
    (allowedTools : Option (List String)) (bound : ℕ) :
    (program platform binding (.reloadPolicyOnHandle options allowedTools bound)).Obeys runMachine
      (agentProtocol platform binding) (.reloadPolicyOnHandle options allowedTools bound) := by
  intro state
  refine (follows_bind _ _).mpr ((conforms_reloadPolicyOnHandle rfl).weaken_post ?_)
  rintro (exception | result) view resumed hends
  · exact hends.finished _
  · exact hends.finished _

theorem triggerReload_obeys (poll : PaybondPolicyReloadPollConfig) (trigger : ReloadTrigger)
    (bound : ℕ) :
    (program platform binding (.triggerReload poll trigger bound)).Obeys runMachine
      (agentProtocol platform binding) (.triggerReload poll trigger bound) := by
  intro state
  refine (follows_bind _ _).mpr ((conforms_triggerReload rfl).weaken_post ?_)
  rintro (exception | _) view resumed hends
  · exact hends.finished _
  · exact hends.finished _

end PaybondKit.Policy

namespace PaybondKit.Agent

/-- Every call of an agent run takes only the steps that are allowed to it. -/
theorem program_obeys (platform : Platform) (binding : PaybondRunBinding) (call : AgentCall) :
    (program platform binding call).Obeys runMachine (agentProtocol platform binding) call := by
  cases call with
  | authorizeToolCall input => exact authorizeToolCall_obeys input
  | wrapExecute input => exact wrapExecute_obeys input
  | guardTool request => exact guardTool_obeys request
  | awrapToolCallCapability request => exact awrapToolCallCapability_obeys request
  | reloadPolicy options bound => exact Policy.reloadPolicy_obeys options bound
  | reloadPolicyOnHandle options allowedTools bound =>
      exact Policy.reloadPolicyOnHandle_obeys options allowedTools bound
  | triggerReload poll trigger bound => exact Policy.triggerReload_obeys poll trigger bound

/-- Whatever the scheduler and the host decide, a run of the event loop is one of
allowed steps. -/
theorem runAgent_sound (platform : Platform) (binding : PaybondRunBinding) (init : RunState)
    (actions : List (Action AgentCall runMachine)) :
    (runAgent platform binding init actions).Sound runMachine (agentProtocol platform binding)
      init :=
  Loop.run_sound (program_obeys platform binding) init actions

end PaybondKit.Agent
