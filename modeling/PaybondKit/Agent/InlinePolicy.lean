import PaybondKit.Agent.Instrument
import PaybondKit.Policy.ReloadRace
import PaybondKit.Policy.SchemaValid

/-!
# What an inline policy denies

The registry of an inline policy guards the tools that the document lists. A tool that
is denied, or not approved, is not listed: it passes through, and its handler runs
without authorization.
-/

namespace PaybondKit.Agent

open Policy

/-! ## The document -/

section Document

variable {text : PlatformText} {inline : PaybondInlinePolicy} {tools : PyValue}
variable {document : PaybondPolicyDocumentV1} {names : List String}

theorem expectPattern_str {pattern : String → Bool} {expected path value parsed : String}
    (hparsed : expectPattern pattern expected (.str value) path = .ok parsed) : parsed = value := by
  obtain ⟨found, hfound, hresult⟩ := except_bind_eq_ok.mp hparsed
  unfold expectStr at hfound
  split at hfound
  · cases hfound
  next hvalue =>
    cases hvalue
    cases hfound
    split at hresult
    · cases hresult
      rfl
    · cases hresult
  next hother => exact absurd rfl (hother value)

theorem parseAllowedToolsFrom_str {path : String} {index : ℕ} {seen names allowed : List String}
    (hallowed : parseAllowedToolsFrom path index seen (names.map .str) = .ok allowed) :
    allowed = seen ++ names := by
  induction names generalizing index seen with
  | nil =>
      cases hallowed
      simp
  | cons name names ih =>
      obtain ⟨toolName, hname, hrest⟩ := except_bind_eq_ok.mp hallowed
      obtain rfl := expectPattern_str hname
      split at hrest
      · cases hrest
      · simpa using ih hrest

theorem parseToolEntry_inline (path : String) :
    parseToolEntry inlineToolEntry path =
      .ok { sideEffecting := true, evidencePreset := some "cost_and_completion" } := rfl

theorem inlineIntent_get? (allowed : PyValue) (budget : Option (OrderedDict String PyValue)) :
    (OrderedDict.ofList (("allowed_tools", allowed) ::
      (budget.map fun budget => ("budget", PyValue.dict budget.items)).toList)).get?
        "allowed_tools" = some allowed := by
  cases budget <;> rfl

/-- The document denies by default, allows the tools that it lists and registers each of
them. -/
theorem parse_inlineDocument {name : String} {allowed : List String}
    {budget : Option (OrderedDict String PyValue)}
    (hparse : parsePaybondPolicyDocumentV1 (inlineDocument name allowed budget) = .ok document) :
    document.defaultDeny = true ∧
      (∃ intent, document.intent = some intent ∧ intent.allowedTools = allowed) ∧
        ∀ toolName, document.SideEffecting toolName ↔ toolName ∈ allowed := by
  simp only [parsePaybondPolicyDocumentV1, except_bind_eq_ok, except_pure_eq_ok] at hparse
  obtain ⟨doc, hdoc, _, -, _, -, name, -, defaultDeny, hdeny, entries, hentries, intent, hintent,
    adapter, -, rfl⟩ := hparse
  obtain rfl := Except.ok.inj hdoc
  refine ⟨?_, ?_, fun toolName => ?_⟩
  · cases hdeny
    rfl
  · obtain ⟨parsed, hparsed, rfl⟩ := except_map_eq_ok.mp hintent
    simp only [parseIntent, except_bind_eq_ok, except_pure_eq_ok] at hparsed
    obtain ⟨mapping, hmapping, _, -, binding, -, budget, -, allowedTools, hallowed, rfl⟩ := hparsed
    obtain rfl := Except.ok.inj hmapping
    refine ⟨_, rfl, ?_⟩
    rw [parseAllowedTools, inlineIntent_get?] at hallowed
    simpa using parseAllowedToolsFrom_str hallowed
  · have hitems : parseToolItems parseToolEntry "tools"
        (OrderedDict.ofList (allowed.map fun toolName => (toolName, inlineToolEntry))).items =
          .ok entries := (except_guard_eq_ok.mp hentries).2
    constructor
    · rintro ⟨entry, hentry, -⟩
      obtain ⟨raw, hraw, -⟩ := parseToolItems_get? hitems hentry
      obtain ⟨listed, hlisted, hpair⟩ := List.mem_map.mp (OrderedDict.mem_of_mem_ofList hraw)
      cases hpair
      exact hlisted
    · intro hlisted
      have hkey : toolName ∈ (OrderedDict.ofList
          (allowed.map fun toolName => (toolName, inlineToolEntry))).keys := by
        rw [OrderedDict.mem_keys_ofList]
        simpa using hlisted
      obtain ⟨entry, hentry⟩ :=
        Option.isSome_iff_exists.mp (parseToolItems_contains hitems hkey)
      obtain ⟨raw, hraw, hparsed⟩ := parseToolItems_get? hitems hentry
      obtain ⟨listed, -, hpair⟩ := List.mem_map.mp (OrderedDict.mem_of_mem_ofList hraw)
      cases hpair
      rw [parseToolEntry_inline] at hparsed
      cases hparsed
      exact ⟨_, hentry, rfl⟩

/-- The bound registry guards the tools that are approved, and no others. -/
theorem passesThrough_inline {catalog : CompletionCatalog} {registry : PaybondToolRegistry}
    {intent : PaybondPolicyIntentSection}
    (hdocument : inlinePolicyToDocument text inline tools = .ok document)
    (hnames : discoverToolNames text tools = .ok names)
    (hregistry : policyToToolRegistry catalog document = .ok registry)
    (hintent : document.intent = some intent) (toolName : String) :
    PassesThrough registry intent.allowedTools toolName ↔
      ¬∃ approved ∈ names, inline.accepts approved = true ∧ toolName = approved := by
  obtain ⟨discovered, hdiscovered, hrest⟩ := except_bind_eq_ok.mp hdocument
  obtain rfl : discovered = names := Except.ok.inj (hdiscovered.symm.trans hnames)
  dsimp only at hrest
  split at hrest
  · cases hrest
  obtain ⟨budget, -, hparse⟩ := except_bind_eq_ok.mp hrest
  split at hparse
  next parsed hdoc =>
    cases hparse
    obtain ⟨-, ⟨allowed, hallowed, hlist⟩, hside⟩ := parse_inlineDocument hdoc
    obtain rfl : allowed = intent := Option.some.inj (hallowed.symm.trans hintent)
    rw [passesThrough_iff hregistry, hside, hlist]
    simp only [List.mem_filter]
    constructor
    · rintro ⟨hnot, -⟩ ⟨approved, hmem, haccepts, rfl⟩
      exact hnot ⟨hmem, haccepts⟩
    · intro hnot
      exact ⟨fun h => hnot ⟨toolName, h.1, h.2, rfl⟩, fun h => hnot ⟨toolName, h.2.1, h.2.2, rfl⟩⟩
  next => cases hparse

end Document

/-! ## Runs without a reload -/

section Runs

variable {platform : Platform} {binding : PaybondRunBinding} {init state : RunState}
variable {trace first second : List AgentEntry} {step : AgentEntry} {toolName : String}

/-- Only an applied snapshot changes the registry. -/
theorem registry_of_moves {step : AgentStep} {after : RunState}
    (hmoves : runMachine.Moves step after) (hnone : appliedSnapshot? step.event = none) :
    after.registry = step.before.registry := by
  obtain ⟨before, event⟩ := step
  cases event with
  | completed op answer =>
      cases op with
      | host host => rw [moves_host hmoves]
      | access access =>
          obtain ⟨elapsed, -, rfl⟩ := moves_access.mp hmoves
          cases access <;> first | rfl | cases hnone
  | _ =>
      obtain rfl : after = before := hmoves
      rfl

theorem registry_of_no_reload
    (hbehaves : runMachine.Behaves (agentProtocol platform binding) init trace state)
    (hnone : appliedSnapshots trace = []) : state.registry = init.registry := by
  refine hbehaves.invariant (fun trace state =>
    appliedSnapshots trace = [] → state.registry = init.registry) (fun _ => rfl)
    (fun trace entry after _ hregistry _ hmoves hnone => ?_) hnone
  rw [appliedSnapshots_append, List.append_eq_nil_iff, appliedSnapshots_cons,
    List.append_eq_nil_iff, Option.toList_eq_nil_iff] at hnone
  rw [registry_of_moves hmoves hnone.2.1]
  exact hregistry hnone.1

/-- Without a reload, tools are looked up in the registry that was bound. -/
theorem resolvedIn_of_no_reload {task : ℕ} {resolved : RunState}
    (hbehaves : runMachine.Behaves (agentProtocol platform binding) init trace state)
    (hnone : appliedSnapshots trace = [])
    (hresolved : (callRecorder.view trace task).resolvedIn = some resolved) :
    resolved.registry = init.registry := by
  obtain ⟨first, lookup, second, htrace, htask, hbefore, hafter⟩ :=
    callRecorder.exists_step_of_view (p := fun view => view.resolvedIn = some resolved)
      (fun h => nomatch h) hresolved
  rcases CallView.record_resolvedIn _ hafter with hsame | ⟨-, hstate⟩
  · exact absurd hsame hbefore
  rw [htrace, appliedSnapshots_append, List.append_eq_nil_iff] at hnone
  rw [← hstate]
  exact registry_of_no_reload (hbehaves.split htrace).1 hnone.1

/-- The step invokes the handler that `wrap_execute` was given for the tool. -/
def CallsHandler (step : AgentEntry) (toolName : String) : Prop :=
  match step.call, step.event with
  | .wrapExecute input, .completed (.host (.execute _)) _ =>
      pyStrip input.toolName = pyStrip toolName
  | _, _ => False

instance (step : AgentEntry) (toolName : String) : Decidable (CallsHandler step toolName) := by
  obtain ⟨⟨before, event⟩, task, call⟩ := step
  cases call with
  | wrapExecute input =>
      rcases event with op | ⟨op, answer⟩ | outcome | _
      all_goals try exact .isFalse not_false
      rcases op with access | call
      all_goals try exact .isFalse not_false
      cases call with
      | execute invocation => exact inferInstanceAs (Decidable (_ = _))
      | _ => exact .isFalse not_false
  | _ => exact .isFalse not_false

/-- A handler that does not pass through runs under an authorization. -/
theorem auth_of_callsHandler
    (hbehaves : runMachine.Behaves (agentProtocol platform binding) init trace state)
    (htrace : trace = first ++ step :: second) (hnone : appliedSnapshots first = [])
    (hguarded : ¬PassesThrough init.registry binding.allowedTools (pyStrip toolName))
    (hcalls : CallsHandler step toolName) :
    (callRecorder.view first step.task).auth.isSome = true := by
  obtain ⟨hfirst, -, -, hallowed⟩ := hbehaves.split htrace
  obtain ⟨⟨before, event⟩, task, call⟩ := step
  unfold CallsHandler at hcalls
  split at hcalls
  case h_2 => exact hcalls.elim
  rename_i input invocation answer hcall hevent
  obtain rfl : event = _ := hevent
  obtain rfl : call = _ := hcall
  have hinvocation : InvocationAllowed binding (.wrapExecute input)
    (callRecorder.view first task) before invocation := hallowed.2
  cases invocation with
  | guarded operation cents => exact absurd trivial hinvocation
  | intercepted toolCallId name operation cents =>
      rcases hinvocation.2 with ⟨-, request, result, hgrant, -⟩ | ⟨entry, hcached, -⟩
      · simp [CallView.auth, hgrant]
      · simp [CallView.auth, hcached]
  | passthrough name toolCallId =>
      obtain ⟨wrapped, hwrapped, -, ⟨resolved, hresolvedIn, hpasses⟩, -⟩ := hinvocation
      obtain rfl : input = wrapped := AgentCall.wrapExecute.inj hwrapped
      have hregistry := resolvedIn_of_no_reload hfirst hnone hresolvedIn
      rw [hregistry, hcalls] at hpasses
      exact absurd hpasses hguarded

end Runs

section Claim

variable (platform : Platform) (text : PlatformText) (binding : PaybondRunBinding)
variable (inline : PaybondInlinePolicy)

/-- The tools of the set that the inline policy denies, by a glob of its deny list or for
want of one of its approve list, are kept from running without authorization. -/
def DenyListHolds (registry : PaybondToolRegistry) (snapshot : Option PaybondPolicySnapshot)
    (names : List String) : Prop :=
  ∀ toolName ∈ names, inline.accepts toolName = false →
    ¬PassesThrough (RunState.bind registry snapshot).registry binding.allowedTools
        (pyStrip toolName) ∧
      ∀ actions first step second,
        (runAgent platform binding (.bind registry snapshot) actions).trace =
            first ++ step :: second →
          appliedSnapshots first = [] → CallsHandler step toolName →
            (callRecorder.view first step.task).auth.isSome = true

/-- The inline deny list holds exactly when each tool that is discovered and not approved
bears, but for surrounding whitespace, the name of one that is. -/
theorem denyListHolds_iff {tools : PyValue} {document : PaybondPolicyDocumentV1}
    {registry bound : PaybondToolRegistry} {snapshot : Option PaybondPolicySnapshot}
    {intent : PaybondPolicyIntentSection} {names : List String}
    (hdocument : inlinePolicyToDocument text inline tools = .ok document)
    (hnames : discoverToolNames text tools = .ok names)
    (hregistry : policyToToolRegistry platform.catalog document = .ok registry)
    (hintent : document.intent = some intent) (hallowed : binding.allowedTools = intent.allowedTools)
    (hbound : (RunState.bind bound snapshot).registry = registry) :
    DenyListHolds platform binding inline bound snapshot names ↔
      ∀ toolName ∈ names, inline.accepts toolName = false →
        ∃ approved ∈ names, inline.accepts approved = true ∧ pyStrip toolName = approved := by
  have hpasses := passesThrough_inline hdocument hnames hregistry hintent
  rw [← hallowed, ← hbound] at hpasses
  constructor
  · intro hholds toolName hmem hdenied
    have hguarded := (hholds toolName hmem hdenied).1
    rwa [hpasses, not_not] at hguarded
  · intro hnamed toolName hmem hdenied
    have hguarded : ¬PassesThrough (RunState.bind bound snapshot).registry binding.allowedTools
        (pyStrip toolName) := by
      rw [hpasses, not_not]
      exact hnamed toolName hmem hdenied
    refine ⟨hguarded, fun actions first step second htrace hnone hcalls => ?_⟩
    exact auth_of_callsHandler
      (runAgent_sound platform binding (.bind bound snapshot) actions).behaves htrace hnone
      hguarded hcalls

end Claim

/-! ## A travel agent that must not delete -/

def textTravel : PlatformText where
  isDecimal := Char.isDigit
  lower text := text
  parseFloat _ := .ok (.finite 0)
  pyStr value := value.asStr.getD ""
  reprStr text := text

def denyDeletes : PaybondInlinePolicy := { deny := some ["*.delete"] }

def deletingTools : PyValue :=
  .dict [("travel.book_hotel", .none), ("travel.delete", .none)]

/-- The agent calls the tool that is denied. -/
def deletingActions : List (Action AgentCall runMachine) :=
  [.start (.wrapExecute { toolName := "travel.delete", toolCallId := "call" })
    (hostChoices (decidingHost "decision"))]

theorem denyListHolds_iff_travel :
    ∃ registry, DenyListHolds platformTravel bindingTravel {} registry none ["travel.book_hotel"] ∧
      ∃ document, inlinePolicyToDocument textTravel {} (.dict [("travel.book_hotel", .none)]) =
          .ok document ∧
        policyToToolRegistry platformTravel.catalog document = .ok registry := by
  have hparts : ∃ document ∈
      (inlinePolicyToDocument textTravel {} (.dict [("travel.book_hotel", .none)])).toOption,
    ∃ registry ∈ (policyToToolRegistry platformTravel.catalog document).toOption,
      ∃ intent ∈ document.intent, bindingTravel.allowedTools = intent.allowedTools := by
    decide +kernel
  obtain ⟨document, hdocument, registry, hregistry, intent, hintent, hallowed⟩ := hparts
  rw [except_mem_toOption] at hdocument hregistry
  refine ⟨registry, ?_, document, hdocument, hregistry⟩
  refine (denyListHolds_iff platformTravel textTravel bindingTravel {} hdocument rfl hregistry
    hintent hallowed rfl).mpr ?_
  decide

/-- The handler of a denied tool runs, and Harbor is not asked. -/
theorem wrapExecute_runs_denied :
    ∃ document ∈ (inlinePolicyToDocument textTravel denyDeletes deletingTools).toOption,
      ∃ registry ∈ (policyToToolRegistry platformTravel.catalog document).toOption,
        ∃ intent ∈ document.intent, bindingTravel.allowedTools = intent.allowedTools ∧
          denyDeletes.accepts "travel.delete" = false ∧
            ∃ step ∈ (runAgent platformTravel bindingTravel (.bind registry none)
                deletingActions).trace,
              CallsHandler step "travel.delete" ∧
                (callRecorder.view (runAgent platformTravel bindingTravel (.bind registry none)
                  deletingActions).trace step.task).auth.isNone = true := by
  decide +kernel

end PaybondKit.Agent
