import PaybondKit.Mcp.PolicyReload
import PaybondKit.Policy.Digest
import PaybondKit.Policy.ReloadRace

/-!
# The digest of a snapshot

A snapshot that a reload applies was built from what that reload was answered: from a
file, with the digest of its own document, or from the gateway, with the digest that the
gateway gave. The same answers explain every reload that reports the policy unchanged.
-/

namespace PaybondKit.Policy

open Agent
open Coroutine (follows_bind follows_tryExcept follows_tryFinally follows_ofExcept)

/-! ## What a reload was answered -/

structure ReloadAnswers where
  files : List PyValue := []
  bases : List PyValue := []
  resolved : List PolicyEffectiveResolveResult := []
  failures : List PyExc := []

def ReloadAnswers.record {ρ : Type} (answers : ReloadAnswers) (step : Step Val PyExc ρ RunState) :
    ReloadAnswers :=
  match step.event with
  | .completed (.host (.readPolicyFile _)) (.ok raw) =>
      { answers with files := answers.files ++ [raw] }
  | .completed (.host (.readBasePolicyFile _ _)) (.ok raw) =>
      { answers with bases := answers.bases ++ [raw] }
  | .completed (.host (.resolvePolicyEffective _ _ _)) (.ok resolved) =>
      { answers with resolved := answers.resolved ++ [resolved] }
  | .completed (.host (.readPolicyFile _)) (.error failure)
  | .completed (.host (.readBasePolicyFile _ _)) (.error failure)
  | .completed (.host (.resolvePolicyEffective _ _ _)) (.error failure) =>
      { answers with failures := answers.failures ++ [failure] }
  | _ => answers

/-- A document is its own effective document, or it is merged over a base policy. -/
inductive EffectiveDocument (platform : Platform) (bases : List PyValue)
    (document : PaybondPolicyDocument) : PaybondPolicyDocumentV1 → Prop where
  | own {effective : PaybondPolicyDocumentV1}
      (heffective : toEffectivePolicyDocument document = .ok effective) :
      EffectiveDocument platform bases document effective
  | merged {overlay : PaybondPolicyDocumentV2} {raw : PyValue} {base : PaybondPolicyDocument}
      {merged : PolicyMergeResult} (hoverlay : document = .v2 overlay) (hraw : raw ∈ bases)
      (hbase : parsePaybondPolicyDocument raw = .ok base)
      (hmerged : mergePaybondPolicies (fun value => platform.pyStr (.float value)) base overlay {} =
        .ok merged) :
      EffectiveDocument platform bases document merged.effective

/-- The snapshots that can be built from the answers. -/
inductive Resolves (platform : Platform) (answers : ReloadAnswers) :
    PaybondPolicySnapshot → Prop where
  | file {raw : PyValue} {document : PaybondPolicyDocument}
      {effective : PaybondPolicyDocumentV1} {registry : PaybondToolRegistry}
      (hraw : raw ∈ answers.files) (hdocument : parsePaybondPolicyDocument raw = .ok document)
      (heffective : EffectiveDocument platform answers.bases document effective)
      (hregistry : policyToToolRegistry platform.catalog effective = .ok registry) :
      Resolves platform answers (createPolicySnapshot platform effective registry none)
  | poll {resolved : PolicyEffectiveResolveResult} {effective : PaybondPolicyDocumentV1}
      {registry : PaybondToolRegistry} (hresolved : resolved ∈ answers.resolved)
      (hchanged : resolved.unchanged = false)
      (heffective : parsePaybondPolicyDocumentV1 resolved.effectivePolicy = .ok effective)
      (hregistry : policyToToolRegistry platform.catalog effective = .ok registry) :
      Resolves platform answers
        (createPolicySnapshot platform effective registry (some resolved.effectivePolicyDigest))

/-- The digest of a snapshot is that of its document, or a digest that the gateway gave for
the document. -/
def Identified (platform : Platform) (resolved : List PolicyEffectiveResolveResult)
    (snapshot : PaybondPolicySnapshot) : Prop :=
  snapshot.digest = platform.documentDigest snapshot.document ∨
    ∃ answer ∈ resolved, answer.unchanged = false ∧
      parsePaybondPolicyDocumentV1 answer.effectivePolicy = .ok snapshot.document ∧
        pyStrip answer.effectivePolicyDigest ≠ "" ∧
          snapshot.digest = pyStrip answer.effectivePolicyDigest

/-- The gateway found the policy unchanged, or raised what the kit itself raises then. -/
def FoundUnchanged (answers : ReloadAnswers) : Prop :=
  (∃ answer ∈ answers.resolved, answer.unchanged = true) ∨
    PyExc.policyReloadUnchanged ∈ answers.failures

/-- Unless it was found unchanged elsewhere, the digest of what the reload resolved is the one
it reports. -/
def ReportsUnchanged (platform : Platform) (answers : ReloadAnswers)
    (result : PaybondPolicyReloadResult) : Prop :=
  FoundUnchanged answers ∨
    ∃ snapshot, Resolves platform answers snapshot ∧
      result.previousDigest = some snapshot.digest ∧ result.newDigest = some snapshot.digest

theorem createPolicySnapshot_digest (platform : Platform) (document : PaybondPolicyDocumentV1)
    (registry : PaybondToolRegistry) :
    (createPolicySnapshot platform document registry none).digest =
      platform.documentDigest document := rfl

theorem Resolves.identified {platform : Platform} {answers : ReloadAnswers}
    {snapshot : PaybondPolicySnapshot} (hresolves : Resolves platform answers snapshot) :
    Identified platform answers.resolved snapshot := by
  cases hresolves with
  | file hraw hdocument heffective hregistry => exact .inl rfl
  | @poll resolved effective registry hresolved hchanged heffective hregistry =>
      by_cases hblank : pyStrip resolved.effectivePolicyDigest = ""
      · refine .inl ?_
        simp [createPolicySnapshot, truthyStr, hblank, Option.filter]
      · refine .inr ⟨resolved, hresolved, hchanged, heffective, hblank, ?_⟩
        simp [createPolicySnapshot, truthyStr_eq_some hblank]

theorem Identified.mono {platform : Platform} {resolved more : List PolicyEffectiveResolveResult}
    {snapshot : PaybondPolicySnapshot} (hidentified : Identified platform resolved snapshot)
    (hsubset : resolved ⊆ more) : Identified platform more snapshot := by
  rcases hidentified with hown | ⟨answer, hanswer, hgiven⟩
  · exact .inl hown
  · exact .inr ⟨answer, hsubset hanswer, hgiven⟩

/-! ## The steps of reloads -/

section Steps

variable {Call ρ : Type}

/-- What is applied was built from the answers, and they explain what is reported. -/
def DigestAllowed (platform : Platform) (reloads : Call → Prop)
    (report? : ρ → Option PaybondPolicyReloadResult) (call : Call) (answers : ReloadAnswers)
    (step : Step Val PyExc ρ RunState) : Prop :=
  (∀ snapshot done, step.event = .completed (.access (.applyPolicySnapshot snapshot)) done →
      Resolves platform answers snapshot) ∧
    ∀ value result, step.event = .finished (.ok value) → reloads call →
      report? value = some result → result.unchanged = true →
        ReportsUnchanged platform answers result

/-- The steps of calls of which some are reloads. -/
abbrev digestProtocol (platform : Platform) (reloads : Call → Prop)
    (report? : ρ → Option PaybondPolicyReloadResult) :
    LocalSpec Call ReloadAnswers Val PyExc ρ RunState where
  start := {}
  record := ReloadAnswers.record
  allowed := DigestAllowed platform reloads report?

variable {platform : Platform} {reloads : Call → Prop}
variable {report? : ρ → Option PaybondPolicyReloadResult} {call : Call}
variable {answers : ReloadAnswers} {state : RunState}

/-- The routine obeys the protocol from here on. -/
abbrev Explains (platform : Platform) (reloads : Call → Prop)
    (report? : ρ → Option PaybondPolicyReloadResult) (call : Call) {α : Type}
    (program : Routine α) (answers : ReloadAnswers) (state : RunState)
    (post : Except PyExc α → ReloadAnswers → RunState → Prop) : Prop :=
  program.Follows runMachine ReloadAnswers.record
    (DigestAllowed platform reloads report? call) post answers state

theorem digestAllowed_of_ne {step : Step Val PyExc ρ RunState}
    (hstep : ∀ snapshot done,
      step.event ≠ .completed (.access (.applyPolicySnapshot snapshot)) done)
    (hopen : ∀ outcome, step.event ≠ .finished outcome) :
    DigestAllowed platform reloads report? call answers step :=
  ⟨fun snapshot done h => absurd h (hstep snapshot done),
    fun _ _ h => absurd h (hopen _)⟩

/-- An operation of the host is allowed. -/
theorem digestAllowed_host {hostCall : HostCall} {answer : Except PyExc hostCall.Answer} :
    DigestAllowed platform reloads report? call answers
      ⟨state, .completed (.host hostCall) answer⟩ :=
  digestAllowed_of_ne (fun _ _ => nofun) fun _ => nofun

theorem digestAllowed_issued {op : Op} :
    DigestAllowed platform reloads report? call answers ⟨state, .issued op⟩ :=
  digestAllowed_of_ne (fun _ _ => nofun) fun _ => nofun

/-- A question whose answer is not written down. -/
theorem explains_quiet {hostCall : HostCall} {post : Except PyExc hostCall.Answer →
      ReloadAnswers → RunState → Prop}
    (hrecord : ∀ (resumed : RunState) (answer : Except PyExc hostCall.Answer),
      answers.record (⟨resumed, .completed (.host hostCall) answer⟩ :
        Step Val PyExc ρ RunState) = answers)
    (hpost : ∀ outcome resumed, (hostCall.awaits = false → resumed = state) →
      post outcome answers resumed) :
    Explains platform reloads report? call (host hostCall) answers state post := by
  cases hawaits : hostCall.awaits with
  | true =>
      refine (follows_await hawaits).mpr ⟨digestAllowed_issued, fun resumed answer => ?_⟩
      have hissued : answers.record (⟨state, .issued (.host hostCall)⟩ :
          Step Val PyExc ρ RunState) = answers := rfl
      rw [hissued, hrecord]
      exact ⟨digestAllowed_host, hpost answer resumed fun h => by rw [hawaits] at h; cases h⟩
  | false =>
      refine (follows_host hawaits).mpr fun answer => ⟨digestAllowed_host, ?_⟩
      rw [hrecord]
      exact hpost answer state fun _ => rfl

theorem explains_waitForInFlightCount (deadline bound : ℕ)
    {post : Except PyExc Unit → ReloadAnswers → RunState → Prop}
    (hpost : ∀ outcome resumed, post outcome answers resumed) :
    Explains platform reloads report? call (waitForInFlightCount deadline bound) answers state
      post := by
  induction bound generalizing state with
  | zero => exact digestAllowed_of_ne (fun _ _ => nofun) fun _ => nofun
  | succ bound ih =>
      refine (follows_bind _ _).mpr (follows_access.mpr fun _ =>
        ⟨digestAllowed_of_ne (fun _ _ => nofun) fun _ => nofun, ?_⟩)
      dsimp only
      split
      · refine (follows_bind _ _).mpr (follows_access.mpr fun _ =>
          ⟨digestAllowed_of_ne (fun _ _ => nofun) fun _ => nofun, ?_⟩)
        dsimp only
        split
        · exact hpost _ _
        · refine (follows_bind _ _).mpr (explains_quiet (fun _ _ => rfl) ?_)
          rintro (exception | _) resumed -
          · exact hpost _ _
          · exact ih
      · exact hpost _ _

theorem explains_policyDigest
    {post : Except PyExc (Option String) → ReloadAnswers → RunState → Prop}
    (hpost : post (.ok (state.currentSnapshot.map (·.digest))) answers state) :
    Explains platform reloads report? call policyDigest answers state post :=
  (follows_bind _ _).mpr (follows_access.mpr fun _ =>
    ⟨digestAllowed_of_ne (fun _ _ => nofun) (fun _ => nofun), hpost⟩)

/-! ### Loading -/

/-- The signal that the policy is unchanged comes from the host. -/
def Signalled (answers : ReloadAnswers) (exception : PyExc) : Prop :=
  exception = .policyReloadUnchanged → PyExc.policyReloadUnchanged ∈ answers.failures

theorem signalled_of_mem {exception : PyExc} (hmem : exception ∈ answers.failures) :
    Signalled answers exception := by
  rintro rfl
  exact hmem

section Load

variable {post : Except PyExc PaybondPolicySnapshot → ReloadAnswers → RunState → Prop}

theorem explains_parsed {α : Type} {result : Parsed α}
    {post : Except PyExc α → ReloadAnswers → RunState → Prop}
    (hok : ∀ value, result = .ok value → post (.ok value) answers state)
    (herror : ∀ exception, Signalled answers exception → post (.error exception) answers state) :
    Explains platform reloads report? call (parsed result) answers state post := by
  refine (follows_ofExcept _).mpr ?_
  cases result with
  | error failure => exact herror _ nofun
  | ok value => exact hok value rfl

theorem explains_snapshotOf {document : PaybondPolicyDocumentV1} {digest : Option String}
    (hok : ∀ registry, policyToToolRegistry platform.catalog document = .ok registry →
      post (.ok (createPolicySnapshot platform document registry digest)) answers state)
    (herror : ∀ exception, Signalled answers exception → post (.error exception) answers state) :
    Explains platform reloads report? call (snapshotOf platform document digest) answers state
      post := by
  refine (follows_bind _ _).mpr ((follows_ofExcept _).mpr ?_)
  cases hregistry : policyToToolRegistry platform.catalog document with
  | error exception =>
      obtain ⟨message, rfl⟩ := createPaybondToolRegistry_error hregistry
      exact herror _ nofun
  | ok registry => exact hok registry hregistry

theorem explains_resolveEffectiveDocument {sourcePath : String} {document : PaybondPolicyDocument}
    {post : Except PyExc PaybondPolicyDocumentV1 → ReloadAnswers → RunState → Prop}
    (hok : ∀ effective bases, EffectiveDocument platform bases document effective →
      post (.ok effective) { answers with bases } state)
    (herror : ∀ exception answers, Signalled answers exception →
      post (.error exception) answers state) :
    Explains platform reloads report? call (resolveEffectiveDocument platform sourcePath document)
      answers state post := by
  have hown : Explains platform reloads report? call (parsed (toEffectivePolicyDocument document))
      answers state post :=
    explains_parsed (fun effective heffective => hok effective answers.bases (.own heffective))
      fun exception => herror exception answers
  unfold resolveEffectiveDocument
  split
  · exact hown
  next overlay =>
    split
    · exact hown
    · refine (follows_bind _ _).mpr ((follows_host rfl).mpr fun answer =>
        ⟨digestAllowed_host, ?_⟩)
      cases answer with
      | error exception =>
          exact herror exception _ (signalled_of_mem (by simp [ReloadAnswers.record]))
      | ok raw =>
          have hraw : raw ∈ answers.bases ++ [raw] := by simp
          refine (follows_bind _ _).mpr (explains_parsed ?_ fun exception => herror exception _)
          intro base hbase
          refine (follows_bind _ _).mpr (explains_parsed ?_ fun exception => herror exception _)
          intro merged hmerged
          exact hok merged.effective _ (.merged rfl hraw hbase hmerged)

theorem explains_loadPolicySnapshotFromFile {filePath : String}
    (hok : ∀ snapshot answers, Resolves platform answers snapshot →
      post (.ok snapshot) answers state)
    (herror : ∀ exception answers, Signalled answers exception →
      post (.error exception) answers state) :
    Explains platform reloads report? call (loadPolicySnapshotFromFile platform filePath) answers
      state post := by
  refine (follows_bind _ _).mpr ((follows_host rfl).mpr fun answer => ⟨digestAllowed_host, ?_⟩)
  cases answer with
  | error exception =>
      exact herror exception _ (signalled_of_mem (by simp [ReloadAnswers.record]))
  | ok raw =>
      have hraw : raw ∈ answers.files ++ [raw] := by simp
      refine (follows_bind _ _).mpr (explains_parsed ?_ fun exception => herror exception _)
      intro document hdocument
      refine (follows_bind _ _).mpr (explains_resolveEffectiveDocument ?_ herror)
      intro effective bases heffective
      refine explains_snapshotOf ?_ fun exception => herror exception _
      intro registry hregistry
      exact hok _ _ (.file hraw hdocument heffective hregistry)

/-- The id is not looked for elsewhere. -/
theorem overlayOrgPolicyId_error {payload : PyValue} {exception : PyExc}
    (hid : overlayOrgPolicyId payload = .error exception) : exception ≠ .policyReloadUnchanged := by
  rintro rfl
  cases payload with
  | dict items =>
      cases hparsed : parsePaybondPolicyDocument (.dict items) with
      | error failure =>
          simp only [overlayOrgPolicyId, hparsed] at hid
          cases hid
      | ok document =>
          simp only [overlayOrgPolicyId, hparsed, Except.mapError, except_ok_bind] at hid
          split at hid
          · split at hid
            · cases hid
            · cases hid
          · cases hid
  | _ => cases hid

/-- No snapshot is loaded when the gateway says that the policy is unchanged. -/
theorem explains_loadPolicySnapshotFromEffectivePoll {overlayPath : String}
    {currentDigest : Option String}
    {post : Except PyExc (Option PaybondPolicySnapshot) → ReloadAnswers → RunState → Prop}
    (hok : ∀ snapshot answers resumed, Resolves platform answers snapshot →
      post (.ok (some snapshot)) answers resumed)
    (hunchanged : ∀ (answers : ReloadAnswers) resumed,
      FoundUnchanged answers → post (.ok none) answers resumed)
    (herror : ∀ exception answers resumed, Signalled answers exception →
      post (.error exception) answers resumed) :
    Explains platform reloads report? call
      (loadPolicySnapshotFromEffectivePoll platform overlayPath currentDigest) answers state
      post := by
  refine (follows_bind _ _).mpr ((follows_host rfl).mpr fun answer => ⟨digestAllowed_host, ?_⟩)
  cases answer with
  | error exception =>
      exact herror exception _ _ (signalled_of_mem (by simp [ReloadAnswers.record]))
  | ok payload =>
      refine (follows_bind _ _).mpr ((follows_ofExcept _).mpr ?_)
      cases hid : overlayOrgPolicyId payload with
      | error exception =>
          exact herror exception _ _ fun hsignal => absurd hsignal (overlayOrgPolicyId_error hid)
      | ok orgPolicyId =>
          refine (follows_bind _ _).mpr ((follows_await rfl).mpr
            ⟨digestAllowed_issued, fun resumed answer => ⟨digestAllowed_host, ?_⟩⟩)
          cases answer with
          | error exception =>
              exact herror exception _ _ (signalled_of_mem (by simp [ReloadAnswers.record]))
          | ok resolved =>
              have hresolved : resolved ∈ answers.resolved ++ [resolved] := by simp
              dsimp only
              split
              next hsame => exact hunchanged _ _ (.inl ⟨resolved, hresolved, hsame⟩)
              next hchanged =>
                refine (follows_bind _ _).mpr (explains_parsed ?_
                  fun exception => herror exception _ _)
                intro effective heffective
                refine (follows_bind _ _).mpr (explains_snapshotOf ?_
                  fun exception => herror exception _ _)
                intro registry hregistry
                exact hok _ _ _
                  (.poll hresolved (Bool.eq_false_iff.mpr hchanged) heffective hregistry)

/-- The digest of what was resolved is the current one. -/
def SameDigest (platform : Platform) (answers : ReloadAnswers) (state : RunState) : Prop :=
  ∃ snapshot, Resolves platform answers snapshot ∧
    state.currentSnapshot.map (·.digest) = some snapshot.digest

theorem explains_resolveReloadSnapshotForHandle {policyFilePath : Option String}
    {options : PaybondPolicyReloadOptions}
    (hok : ∀ snapshot answers resumed, Resolves platform answers snapshot →
      post (.ok snapshot) answers resumed)
    (herror : ∀ exception answers resumed,
      (exception = .policyReloadUnchanged →
        FoundUnchanged answers ∨ SameDigest platform answers resumed) →
      post (.error exception) answers resumed) :
    Explains platform reloads report? call
      (resolveReloadSnapshotForHandle platform policyFilePath options) answers state post := by
  have hsignalled : ∀ exception answers resumed, Signalled answers exception →
      post (.error exception) answers resumed :=
    fun exception answers resumed hsignal =>
      herror exception answers resumed fun h => .inl (.inr (hsignal h))
  unfold resolveReloadSnapshotForHandle
  dsimp only
  split
  · exact hsignalled _ _ _ nofun
  split
  · refine (follows_bind _ _).mpr (explains_policyDigest ?_)
    refine (follows_bind _ _).mpr (explains_loadPolicySnapshotFromEffectivePoll hok ?_ hsignalled)
    intro answers resumed hunchanged
    exact herror _ _ _ fun _ => .inl hunchanged
  · refine (follows_bind _ _).mpr (explains_loadPolicySnapshotFromFile ?_
      fun exception answers => hsignalled exception answers state)
    intro snapshot answers hresolves
    refine (follows_bind _ _).mpr (explains_policyDigest ?_)
    dsimp only
    split
    next hsame =>
      refine herror _ _ _ fun _ => .inr ⟨snapshot, hresolves, ?_⟩
      exact (Option.filter_eq_some_iff.mp hsame).1
    next => exact hok snapshot answers state hresolves

end Load

/-! ### Applying -/

/-- The answers explain the result when it says that the policy is unchanged. -/
def Explained (platform : Platform) (outcome : Except PyExc PaybondPolicyReloadResult)
    (answers : ReloadAnswers) : Prop :=
  ∀ result, outcome = .ok result → result.unchanged = true →
    ReportsUnchanged platform answers result

theorem explained_error {exception : PyExc} : Explained platform (.error exception) answers :=
  fun _ h => nomatch h

theorem explains_applyIfChanged {snapshot : PaybondPolicySnapshot}
    (hresolves : Resolves platform answers snapshot) :
    Explains platform reloads report? call (applyIfChanged snapshot) answers state
      (fun outcome answers _ => Explained platform outcome answers) := by
  refine (follows_bind _ _).mpr (explains_policyDigest ?_)
  dsimp only
  split
  next hsame =>
    rintro result hresult -
    cases hresult
    exact .inr ⟨snapshot, hresolves, (Option.filter_eq_some_iff.mp hsame).1, rfl⟩
  next =>
    have happlied : DigestAllowed platform reloads report? call answers
        (⟨state, .completed (.access (.applyPolicySnapshot snapshot)) (.ok ())⟩ :
          Step Val PyExc ρ RunState) := by
      refine ⟨fun applied done happly => ?_, fun _ _ hfinished => nomatch hfinished⟩
      cases happly
      exact hresolves
    refine (follows_bind _ _).mpr (follows_access.mpr fun _ => ⟨happlied, ?_⟩)
    rintro result hresult hunchanged
    cases hresult
    cases hunchanged

theorem explains_validateAndApplyPolicySnapshot {snapshot : PaybondPolicySnapshot}
    {options : PaybondPolicyReloadOptions} {allowedTools : List String}
    (hresolves : Resolves platform answers snapshot) :
    Explains platform reloads report? call
      (validateAndApplyPolicySnapshot platform snapshot options allowedTools) answers state
      (fun outcome answers _ => Explained platform outcome answers) := by
  have hchecked : ∀ current resumed, Explains platform reloads report? call
      (do
        Coroutine.ofExcept (checkReplacement current snapshot options allowedTools)
        applyIfChanged snapshot)
      answers resumed (fun outcome answers _ => Explained platform outcome answers) := by
    intro current resumed
    refine (follows_bind _ _).mpr ((follows_ofExcept _).mpr ?_)
    split
    next => exact explains_applyIfChanged hresolves
    next => exact explained_error
  refine (follows_bind _ _).mpr (follows_access.mpr fun _ =>
    ⟨digestAllowed_of_ne (fun _ _ => nofun) (fun _ => nofun), ?_⟩)
  refine (follows_bind _ _).mpr ((follows_bind _ _).mpr (explains_quiet (fun _ _ => rfl) ?_))
  rintro (exception | strict) resumed -
  · exact explained_error
  dsimp only
  split
  case isFalse => exact explained_error
  refine (follows_bind _ _).mpr ?_
  unfold validateRemotely
  split
  · refine (follows_bind _ _).mpr (explains_quiet (fun _ _ => rfl) ?_)
    rintro (exception | strict) resumed -
    · exact explained_error
    refine (follows_bind _ _).mpr (explains_quiet (fun _ _ => rfl) ?_)
    rintro (exception | report) resumed -
    · exact explained_error
    dsimp only
    split
    · exact hchecked _ _
    · exact explained_error
  · exact hchecked _ _

/-! ### Reloads -/

theorem explains_reloadPolicyOnHandle {policyFilePath : Option String}
    {options : PaybondPolicyReloadOptions} {allowedTools : Option (List String)} {bound : ℕ} :
    Explains platform reloads report? call
      (reloadPolicyOnHandle platform policyFilePath options allowedTools bound) answers state
      (fun outcome answers _ => Explained platform outcome answers) := by
  refine (follows_bind _ _).mpr (follows_access.mpr fun _ =>
    ⟨digestAllowed_of_ne (fun _ _ => nofun) (fun _ => nofun), ?_⟩)
  refine (follows_bind _ _).mpr (explains_waitForInFlightCount _ _ ?_)
  rintro (exception | _) resumed
  · exact explained_error
  refine (follows_bind _ _).mpr ((follows_tryExcept _ _).mpr ((follows_bind _ _).mpr
    (explains_resolveReloadSnapshotForHandle ?_ ?_)))
  · intro snapshot answers resumed hresolves
    cases allowedTools with
    | some allowedTools => exact explains_validateAndApplyPolicySnapshot hresolves
    | none =>
        refine (follows_bind _ _).mpr ((follows_bind _ _).mpr (follows_access.mpr fun _ =>
          ⟨digestAllowed_of_ne (fun _ _ => nofun) (fun _ => nofun), ?_⟩))
        exact explains_validateAndApplyPolicySnapshot hresolves
  · intro exception answers resumed hunchanged
    dsimp only
    split
    · refine (follows_bind _ _).mpr (explains_policyDigest ?_)
      rintro result hresult -
      cases hresult
      rcases hunchanged rfl with hfound | ⟨snapshot, hresolves, hdigest⟩
      · exact .inl hfound
      · exact .inr ⟨snapshot, hresolves, hdigest, hdigest⟩
    · exact explained_error

theorem explains_reloadPolicy {binding : PaybondRunBinding} {options : PaybondPolicyReloadOptions}
    {bound : ℕ} :
    Explains platform reloads report? call (reloadPolicy platform binding options bound) answers
      state (fun outcome answers _ => Explained platform outcome answers) := by
  have hfailed : ∀ (exception : PyExc) (answers : ReloadAnswers) (resumed : RunState),
      Explains platform reloads report? call
        (if exception.isException then do
          host (.emitReload (.policyReloadFailed exception))
          raise exception
        else raise exception)
        answers resumed (fun outcome answers _ => Explained platform outcome answers) := by
    intro exception answers resumed
    split
    · refine (follows_bind _ _).mpr (explains_quiet (fun _ _ => rfl) ?_)
      rintro (failure | _) resumed -
      · exact explained_error
      · exact explained_error
    · exact explained_error
  refine (follows_tryExcept _ _).mpr ((follows_bind _ _).mpr
    (explains_reloadPolicyOnHandle.weaken_post ?_))
  rintro (exception | result) answers resumed hexplained
  · exact hfailed exception answers resumed
  dsimp only
  split
  · refine (follows_bind _ _).mpr (explains_quiet (fun _ _ => rfl) ?_)
    rintro (exception | _) resumed -
    · exact hfailed exception answers resumed
    · exact hexplained
  · exact hexplained

end Steps

/-! ## The calls of a run and of a gate -/

section Calls

variable {platform : Platform} {binding : PaybondRunBinding}

/-- What a call reports of a reload. -/
def agentReport : AgentOutcome → Option PaybondPolicyReloadResult
  | .reloaded result => some result
  | _ => none

/-- The digests of an agent run. -/
abbrev agentDigests (platform : Platform) (binding : PaybondRunBinding) :
    LocalSpec AgentCall ReloadAnswers Val PyExc AgentOutcome RunState :=
  digestProtocol platform (AgentCall.Reloads binding) agentReport

/-- A call that is no reload applies nothing. -/
theorem obeys_of_not_reloads {call : AgentCall} (hcall : ¬call.Reloads binding) :
    (program platform binding call).Obeys runMachine (agentDigests platform binding) call := by
  intro state
  have hallowed : ∀ (view : CallView) (answers : ReloadAnswers) (step : AgentStep),
      Allowed platform binding call view step →
        DigestAllowed platform (AgentCall.Reloads binding) agentReport call answers step := by
    rintro view answers ⟨before, event⟩ hstep
    refine ⟨fun snapshot done happly => ?_, fun _ _ _ hreloads => absurd hreloads hcall⟩
    obtain rfl : event = _ := happly
    obtain ⟨options, -, -, hoptions, -⟩ := ApplyAllowed.checked hstep
    exact absurd (by simp [AgentCall.Reloads, hoptions]) hcall
  exact (program_obeys platform binding call state).change_view hallowed
    fun outcome view answers state => hallowed view answers ⟨state, .finished outcome⟩

/-- A reload ends with a result that its answers explain. -/
theorem explains_reloaded {Call ρ : Type} {reloads : Call → Prop}
    {report? : ρ → Option PaybondPolicyReloadResult} {call : Call}
    {body : Routine PaybondPolicyReloadResult} (outcome : PaybondPolicyReloadResult → ρ)
    {answers : ReloadAnswers} {state : RunState}
    (hreport : ∀ result, report? (outcome result) = some result)
    (hbody : Explains platform reloads report? call body answers state
      (fun result answers _ => Explained platform result answers)) :
    Explains platform reloads report? call (outcome <$> body) answers state
      (fun finished answers state =>
        DigestAllowed platform reloads report? call answers ⟨state, .finished finished⟩) := by
  refine (follows_bind _ _).mpr (hbody.weaken_post ?_)
  rintro (exception | result) answers resumed hexplained
  · exact ⟨fun _ _ happly => (nomatch happly), fun _ _ hfinished => nomatch hfinished⟩
  · refine ⟨fun _ _ happly => (nomatch happly), fun value reported hfinished _ hvalue => ?_⟩
    cases hfinished
    rw [hreport, Option.some.injEq] at hvalue
    rw [← hvalue]
    exact hexplained result rfl

/-- What reports nothing may end at any time. -/
theorem digestAllowed_silent {Call ρ : Type} {reloads : Call → Prop}
    {report? : ρ → Option PaybondPolicyReloadResult} {call : Call} {answers : ReloadAnswers}
    {state : RunState} {finished : Except PyExc ρ}
    (hsilent : ∀ value, finished = .ok value → report? value = none) :
    DigestAllowed platform reloads report? call answers ⟨state, .finished finished⟩ := by
  refine ⟨fun _ _ happly => (nomatch happly), fun value result hfinished _ hvalue => ?_⟩
  cases hfinished
  rw [hsilent value rfl] at hvalue
  cases hvalue

/-- Between the two marks of a reload controller. -/
theorem explains_triggered {Call ρ : Type} {reloads : Call → Prop}
    {report? : ρ → Option PaybondPolicyReloadResult} {call : Call}
    {body : Routine PaybondPolicyReloadResult} {answers : ReloadAnswers} {state : RunState}
    (hbody : ∀ answers state, Explains platform reloads report? call body answers state
      (fun result answers _ => Explained platform result answers)) :
    Explains platform reloads report? call
      (do
        let atWork ← access .beginTriggeredReload
        if atWork then return ()
        else
          let triggered : Routine Unit := Coroutine.tryExcept
            (do let _ ← body)
            fun exception => if exception.isException then return () else raise exception
          Coroutine.tryFinally triggered (access .endTriggeredReload))
      answers state (fun _ _ _ => True) := by
  have hend : ∀ (outcome : Except PyExc Unit) (answers : ReloadAnswers) (state : RunState),
      Explains platform reloads report? call (access .endTriggeredReload) answers state
        (fun ending _ _ => match ending with
          | .ok _ => True
          | .error _ => True) :=
    fun _ _ _ => follows_access.mpr fun _ =>
      ⟨digestAllowed_of_ne (fun _ _ => nofun) (fun _ => nofun), trivial⟩
  refine (follows_bind _ _).mpr (follows_access.mpr fun _ =>
    ⟨digestAllowed_of_ne (fun _ _ => nofun) (fun _ => nofun), ?_⟩)
  dsimp only
  split
  · trivial
  refine (follows_tryFinally _ _).mpr ((follows_tryExcept _ _).mpr ((follows_bind _ _).mpr
    ((hbody _ _).weaken_post ?_)))
  rintro (exception | result) answers resumed -
  · dsimp only
    split
    · exact hend (.ok ()) _ _
    · exact hend (.error exception) _ _
  · exact hend (.ok ()) _ _

/-- Every call of an agent run. -/
theorem program_explains (call : AgentCall) :
    (program platform binding call).Obeys runMachine (agentDigests platform binding) call := by
  cases call with
  | reloadPolicy options bound =>
      intro state
      change Explains platform (AgentCall.Reloads binding) agentReport _
        (AgentOutcome.reloaded <$> reloadPolicy platform binding options bound) {} state _
      exact explains_reloaded _ (fun _ => rfl) explains_reloadPolicy
  | reloadPolicyOnHandle options allowedTools bound =>
      intro state
      change Explains platform (AgentCall.Reloads binding) agentReport _
        (AgentOutcome.reloaded <$> reloadPolicyOnHandle platform binding.policyFilePath options
          allowedTools bound) {} state _
      exact explains_reloaded _ (fun _ => rfl) explains_reloadPolicyOnHandle
  | triggerReload poll trigger bound =>
      intro state
      have htriggered := @explains_triggered platform AgentCall AgentOutcome
        (AgentCall.Reloads binding) agentReport (.triggerReload poll trigger bound)
        (reloadPolicy platform binding (triggerOptions (binding.policyFilePath.getD "") poll
          trigger) bound) {} state fun _ _ => explains_reloadPolicy
      refine (follows_bind _ _).mpr (htriggered.weaken_post ?_)
      rintro (exception | _) answers resumed -
      · change DigestAllowed platform (AgentCall.Reloads binding) agentReport _ answers _
        exact digestAllowed_silent fun _ hvalue => nomatch hvalue
      · change DigestAllowed platform (AgentCall.Reloads binding) agentReport _ answers
          ⟨resumed, .finished (.ok AgentOutcome.triggered)⟩
        refine digestAllowed_silent fun value hvalue => ?_
        cases hvalue
        rfl
  | authorizeToolCall input => exact obeys_of_not_reloads nofun
  | wrapExecute input => exact obeys_of_not_reloads nofun
  | guardTool request => exact obeys_of_not_reloads nofun
  | awrapToolCallCapability request => exact obeys_of_not_reloads nofun

/-- What a call of the gate reports of a reload. -/
def gateReport : Mcp.GateOutcome → Option PaybondPolicyReloadResult
  | .reloaded result => some result
  | .done => none

/-- The digests of the server's gate. Nothing but its reloads reports one. -/
abbrev gateDigests (platform : Platform) :
    LocalSpec Mcp.GateCall ReloadAnswers Val PyExc Mcp.GateOutcome RunState :=
  digestProtocol platform (fun _ => True) gateReport

theorem gateProgram_explains (config : Mcp.McpPolicyReloadConfig) (gateway : Bool)
    (call : Mcp.GateCall) :
    (Mcp.gateProgram platform config gateway call).Obeys runMachine (gateDigests platform)
      call := by
  have hdone : ∀ (answers : ReloadAnswers) (state : RunState),
      DigestAllowed platform (fun _ => True) gateReport call answers
        ⟨state, .finished (.ok .done)⟩ := by
    intro answers state
    refine digestAllowed_silent fun value hvalue => ?_
    cases hvalue
    rfl
  have hraised : ∀ (answers : ReloadAnswers) (state : RunState) (exception : PyExc),
      DigestAllowed platform (fun _ => True) gateReport call answers
        ⟨state, .finished (.error exception)⟩ :=
    fun _ _ _ => digestAllowed_silent fun _ hvalue => nomatch hvalue
  have hbody : ∀ (overrides : Mcp.PaybondPolicyReloadOverrides) (lastAllowedTools : List String)
      (bound : ℕ) (answers : ReloadAnswers) (state : RunState),
      Explains platform (fun _ => True) gateReport call
        (Mcp.reloadPolicy platform config gateway overrides lastAllowedTools bound) answers state
        (fun outcome answers _ => Explained platform outcome answers) :=
    fun _ _ _ _ _ => explains_reloadPolicyOnHandle
  have hquiet : ∀ (op : Access) (answers : ReloadAnswers) (state : RunState) answer,
      (∀ snapshot, op ≠ .applyPolicySnapshot snapshot) →
        DigestAllowed platform (fun _ => True) gateReport call answers
          ⟨state, .completed (.access op) answer⟩ := by
    intro op answers state answer hop
    refine digestAllowed_of_ne (fun snapshot done happly => ?_) fun _ hfinished => nomatch hfinished
    cases happly
    exact hop snapshot rfl
  intro state
  cases call with
  | reloadPolicy overrides lastAllowedTools bound =>
      exact explains_reloaded Mcp.GateOutcome.reloaded (fun _ => rfl)
        (hbody overrides lastAllowedTools bound {} state)
  | triggerReload lastAllowedTools bound =>
      refine (follows_bind _ _).mpr ?_
      unfold Mcp.triggerReload
      split
      · exact hdone _ _
      next overrides _ =>
        refine (explains_triggered (hbody overrides lastAllowedTools bound)).weaken_post ?_
        rintro (exception | _) answers resumed -
        · exact hraised _ _ exception
        · exact hdone _ _
  | beginToolCall =>
      exact (follows_bind _ _).mpr (follows_access.mpr fun _ =>
        ⟨hquiet _ _ _ _ fun _ => nofun, hdone _ _⟩)
  | endToolCall =>
      exact (follows_bind _ _).mpr (follows_access.mpr fun _ =>
        ⟨hquiet _ _ _ _ fun _ => nofun, hdone _ _⟩)

end Calls

/-! ## Whole runs -/

section Runs

variable {Call ρ : Type} {platform : Platform} {reloads : Call → Prop}
variable {report? : ρ → Option PaybondPolicyReloadResult} {init state : RunState}
variable {trace : List (Entry Call Val PyExc ρ RunState)}

/-- What the tasks of a trace were answered about effective policies. -/
def resolvedAnswers (trace : List (Entry Call Val PyExc ρ RunState)) :
    List PolicyEffectiveResolveResult :=
  trace.flatMap fun entry => (ReloadAnswers.record {} entry.toStep).resolved

/-- What one task was answered. -/
def taskAnswers (trace : List (Entry Call Val PyExc ρ RunState)) (task : ℕ) : ReloadAnswers :=
  (history trace task).foldl ReloadAnswers.record {}

theorem record_resolved (answers : ReloadAnswers) (step : Step Val PyExc ρ RunState) :
    (answers.record step).resolved =
      answers.resolved ++ (ReloadAnswers.record {} step).resolved := by
  unfold ReloadAnswers.record
  split <;> simp

theorem taskAnswers_subset (trace : List (Entry Call Val PyExc ρ RunState)) (task : ℕ) :
    (taskAnswers trace task).resolved ⊆ resolvedAnswers trace := by
  induction trace using List.reverseRecOn with
  | nil => simp [taskAnswers]
  | append_singleton trace entry ih =>
      have hsnoc : resolvedAnswers (trace ++ [entry]) =
          resolvedAnswers trace ++ (ReloadAnswers.record {} entry.toStep).resolved := by
        simp [resolvedAnswers]
      rw [hsnoc]
      by_cases htask : entry.task = task
      · have hview : (taskAnswers (trace ++ [entry]) task).resolved =
            (taskAnswers trace task).resolved ++
              (ReloadAnswers.record {} entry.toStep).resolved := by
          rw [taskAnswers, history_snoc_self htask, List.foldl_append]
          exact record_resolved _ _
        rw [hview]
        exact List.append_subset.mpr
          ⟨List.subset_append_of_subset_left _ ih, List.subset_append_right _ _⟩
      · have hview : taskAnswers (trace ++ [entry]) task = taskAnswers trace task := by
          rw [taskAnswers, history_snoc_other htask, taskAnswers]
        rw [hview]
        exact List.subset_append_of_subset_left _ ih

/-- Only applying a snapshot makes another one the current one. -/
theorem snapshots_of_moves {step : Step Val PyExc ρ RunState} {after : RunState}
    (hmoves : runMachine.Moves step after) :
    (after.currentSnapshot = step.before.currentSnapshot ∧
        after.policySnapshot = step.before.policySnapshot) ∨
      ∃ snapshot done, step.event = .completed (.access (.applyPolicySnapshot snapshot)) done ∧
        after.currentSnapshot = some snapshot ∧ after.policySnapshot = some snapshot := by
  obtain ⟨before, event⟩ := step
  cases event with
  | completed op answer =>
      cases op with
      | host host =>
          rw [moves_host hmoves]
          exact .inl ⟨rfl, rfl⟩
      | access access =>
          obtain ⟨elapsed, -, rfl⟩ := moves_access.mp hmoves
          cases access with
          | applyPolicySnapshot snapshot => exact .inr ⟨snapshot, _, rfl, rfl, rfl⟩
          | _ => exact .inl ⟨rfl, rfl⟩
  | _ =>
      obtain rfl : after = before := hmoves
      exact .inl ⟨rfl, rfl⟩

/-- What the digests of a trace say. -/
structure DigestsExplained (platform : Platform) (reloads : Call → Prop)
    (report? : ρ → Option PaybondPolicyReloadResult)
    (trace : List (Entry Call Val PyExc ρ RunState)) (state : RunState) : Prop where
  /-- In every state of the run. -/
  identified : ∀ first second, trace = first ++ second →
    ∀ current, (match second with
      | [] => state
      | entry :: _ => entry.before).currentSnapshot = some current →
      Identified platform (resolvedAnswers first) current
  /-- Calls record the digest of the current snapshot. -/
  recorded : state.policySnapshot = state.currentSnapshot
  /-- By every reload. -/
  reported : ∀ first entry second value result, trace = first ++ entry :: second →
    entry.event = .finished (.ok value) → reloads entry.call → report? value = some result →
      result.unchanged = true → ReportsUnchanged platform (taskAnswers first entry.task) result

/-- The current snapshot is identified in every state that is reached. -/
theorem identified_of_behaves
    (hbehaves : runMachine.Behaves (digestProtocol platform reloads report?) init trace state)
    (hinit : ∀ current, init.currentSnapshot = some current →
      current.digest = platform.documentDigest current.document)
    (hpinned : init.policySnapshot = init.currentSnapshot) :
    (∀ current, state.currentSnapshot = some current →
      Identified platform (resolvedAnswers trace) current) ∧
        state.policySnapshot = state.currentSnapshot := by
  induction hbehaves with
  | start => exact ⟨fun current hcurrent => .inl (hinit current hcurrent), hpinned⟩
  | @step trace entry after hbehaves _ _ hallowed hmoves ih =>
      obtain ⟨hbefore, hpinned⟩ := ih
      have hsubset : resolvedAnswers trace ⊆ resolvedAnswers (trace ++ [entry]) := by
        rw [resolvedAnswers, resolvedAnswers, List.flatMap_append]
        exact List.subset_append_left _ _
      rcases snapshots_of_moves hmoves with
        ⟨hcurrent, hpolicy⟩ | ⟨snapshot, done, happly, hcurrent, hpolicy⟩
      · rw [hcurrent, hpolicy]
        exact ⟨fun current h => (hbefore current h).mono hsubset, hpinned⟩
      · rw [hcurrent, hpolicy]
        refine ⟨fun current h => ?_, rfl⟩
        cases h
        have hresolves := hallowed.1 snapshot done happly
        exact (hresolves.identified.mono (taskAnswers_subset trace entry.task)).mono hsubset

theorem digestsExplained_of_behaves
    (hbehaves : runMachine.Behaves (digestProtocol platform reloads report?) init trace state)
    (hinit : ∀ current, init.currentSnapshot = some current →
      current.digest = platform.documentDigest current.document)
    (hpinned : init.policySnapshot = init.currentSnapshot) :
    DigestsExplained platform reloads report? trace state where
  identified := by
    rintro first second rfl current hcurrent
    cases second with
    | nil =>
        rw [List.append_nil] at hbehaves
        exact (identified_of_behaves hbehaves hinit hpinned).1 current hcurrent
    | cons entry second =>
        obtain ⟨hfirst, -⟩ := hbehaves.split rfl
        exact (identified_of_behaves hfirst hinit hpinned).1 current hcurrent
  recorded := (identified_of_behaves hbehaves hinit hpinned).2
  reported := by
    intro first entry second value result htrace hfinished hreloads hvalue hunchanged
    obtain ⟨-, -, -, hallowed⟩ := hbehaves.split htrace
    exact hallowed.2 value result hfinished hreloads hvalue hunchanged

end Runs

section Claims

variable (platform : Platform) (sha256Hex : ByteArray → String) (floatText : PyFloat → JsonNumber)

end Claims

/-! ## A gateway with a digest of its own -/

def travelDocument : PaybondPolicyDocumentV1 where
  name := "travel-v1"
  defaultDeny := false
  tools := .ofList [("travel.book_hotel",
    { sideEffecting := true, operation := some "travel.book_hotel", maxSpendCents := some 15000
      evidencePreset := some "cost_and_completion" })]

/-- The hash of the policy's text. -/
def platformHashed : Platform :=
  hashing platformTravel
    (fun _ => "4ec8ba49ed770823109e6ac088d6a182a850efcc1dc6a3e579fad58c5636b36f")
    fun _ => .ofInt 0

def travelOverlay : PyValue := .dict
  [("version", .int 2), ("name", .str "travel-v1"), ("default_deny", .bool false),
    ("extends", .dict [("org_policy_id", .str "travel-base"), ("org_id", .str "org_travel")]),
    ("tools", .dict [])]

/-- The gateway answers with the policy that is current, under another digest. -/
def pollHost : (call : HostCall) → Except PyExc call.Answer
  | .readPolicyFile _ => .ok travelOverlay
  | .resolvePolicyEffective _ _ _ =>
      .ok { effectivePolicy := travelPolicy "travel-v1" "travel.book_hotel" 15000
            effectivePolicyDigest :=
              "sha256:bbbbbbbbbbbbbbbbbbbbbbbbbbbbbbbbbbbbbbbbbbbbbbbbbbbbbbbbbbbbbbbb" }
  | call => policyHost .none call

def pollActions : List (Action AgentCall runMachine) :=
  [.start (.reloadPolicy { file := some "paybond.policy.yaml", resolveInheritance := true
                           gateway := true } 1) (hostChoices pollHost),
    .resume 0 (hostChoices pollHost)]

end PaybondKit.Policy
