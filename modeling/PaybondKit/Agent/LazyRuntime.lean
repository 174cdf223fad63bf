import PaybondKit.Agent.Registry
import PaybondKit.Foundation.EventLoop

/-!
# Lazily bound runtimes

With a context provider, every execution of a tool asks for its context and looks up the
runtime of that context in a cache. A missing runtime is bound and stored, while other
executions may go on. The key under which it is stored has three of the context's fields.
-/

namespace PaybondKit.Agent

open Coroutine (follows_bind follows_ofExcept follows_call_sync follows_call_await)

/-! ## Contexts -/

/-- The credentials for production evidence, with their seeds. -/
structure PaybondProductionEvidence where
  payeeDid : String
  payeeSigningSeed : ByteArray
  agentRecognitionKeyId : String
  agentRecognitionSigningSeed : ByteArray
  deriving DecidableEq

structure PaybondInstrumentContext where
  intentId : String
  capabilityToken : String
  userId : Option String := none
  allowedTools : Option (List String) := none
  productionEvidence : Option PaybondProductionEvidence := none
  sandbox : Option PaybondRunSandboxBinding := none
  deriving DecidableEq

/-- `_runtime_cache_key`. -/
def runtimeCacheKey (context : PaybondInstrumentContext) : String :=
  context.intentId ++ "\x00" ++ context.capabilityToken ++ "\x00" ++ context.userId.getD ""

def paybondLazyContextError : PyExc :=
  .other "PaybondLazyContextError" <|
    "context provider must return \x7bintent_id, capability_token\x7d for the active request " ++
      "before executing side-effecting tools."

/-- `_assert_instrument_context`. -/
def assertInstrumentContext (context : PaybondInstrumentContext) : Except PyExc Unit :=
  raiseIf (pyStrip context.intentId = "" ∨ pyStrip context.capabilityToken = "")
    paybondLazyContextError

/-! ## Binding -/

def paybondAgentRunBindError (message : String) : PyExc :=
  .other "PaybondAgentRunBindError" message

/-- What the binding of a run takes from its context. -/
structure AttachedRun where
  intentId : String
  capabilityToken : String
  allowedTools : List String
  sandbox : Option PaybondRunSandboxBinding
  productionEvidence : Option PaybondProductionEvidence
  deriving DecidableEq

/-- A bound runtime: what its run was bound to, and, for the statements below, the context that
it was bound with. -/
structure PaybondInstrumentRuntime where
  context : PaybondInstrumentContext
  runId : String
  run : AttachedRun
  userId : Option String
  deriving DecidableEq

/-- The texts that an intent allows, without the blank ones. -/
def strippedTools (tools : List String) : List String :=
  (tools.map pyStrip).filter (· ≠ "")

/-- `_normalize_production_evidence`. -/
def normalizeProductionEvidence (raw : Option PaybondProductionEvidence)
    (sandbox : Option PaybondRunSandboxBinding) :
    Except PyExc (Option PaybondProductionEvidence) :=
  match sandbox, raw with
  | some _, _ => .ok none
  | none, none =>
      .error <| paybondAgentRunBindError
        "attach.production_evidence is required for production auto-evidence submission"
  | none, some raw => do
      let payeeDid := pyStrip raw.payeeDid
      let keyId := pyStrip raw.agentRecognitionKeyId
      raiseIf (payeeDid = "")
        (paybondAgentRunBindError "attach.production_evidence requires a payee identity")
      raiseIf (keyId = "")
        (paybondAgentRunBindError
          "attach.production_evidence.agent_recognition_key_id must be non-empty")
      raiseIf (raw.payeeSigningSeed.size ≠ 32)
        (paybondAgentRunBindError
          "attach.production_evidence.payee_signing_seed must be exactly 32 bytes")
      raiseIf (raw.agentRecognitionSigningSeed.size ≠ 32)
        (paybondAgentRunBindError <| "attach.production_evidence." ++
          "agent_recognition_signing_seed must be exactly 32 bytes")
      return some { raw with payeeDid, agentRecognitionKeyId := keyId }

/-! ## The surroundings -/

/-- What an execution asks the provider, the gateway and the tools for. -/
inductive LazyHostCall where
  | callContextProvider
  | getIntent (intentId : String)
  | newRunId
  | wrapToolsForFramework
  | executeGuardedTool (runtime : PaybondInstrumentRuntime) (toolName : String) (call : PyValue)

/-- An intent is answered by its allowed tools. -/
@[reducible] def LazyHostCall.Answer : LazyHostCall → Type
  | .callContextProvider => PaybondInstrumentContext
  | .getIntent _ => List String
  | .newRunId => String
  | .wrapToolsForFramework => Unit
  | .executeGuardedTool _ _ _ => PyValue

def LazyHostCall.awaits : LazyHostCall → Bool
  | .callContextProvider | .getIntent _ | .executeGuardedTool _ _ _ => true
  | _ => false

inductive LazyOp where
  | getCached (key : String)
  | setCached (key : String) (runtime : PaybondInstrumentRuntime)
  | host (call : LazyHostCall)

@[reducible] def LazyOp.Answer : LazyOp → Type
  | .getCached _ => Option PaybondInstrumentRuntime
  | .setCached _ _ => Unit
  | .host call => call.Answer

abbrev RuntimeCache := OrderedDict String PaybondInstrumentRuntime

@[reducible] def LazyOp.Choice : LazyOp → Type
  | .getCached _ | .setCached _ _ => Unit
  | .host call => Except PyExc call.Answer

def lazyMachine : Machine LazyOp.Answer PyExc RuntimeCache where
  suspends
    | .host call => call.awaits
    | _ => false
  Choice := LazyOp.Choice
  apply
    | .getCached key, _, cache => (.ok (cache.get? key), cache)
    | .setCached key runtime, _, cache => (.ok (), cache.set key runtime)
    | .host _, answer, cache => (answer, cache)

abbrev LazyRoutine := Coroutine LazyOp.Answer PyExc

section Programs

variable (uuid : String → Option String) (registry : PaybondToolRegistry)

def ask (call : LazyHostCall) : LazyRoutine call.Answer := Coroutine.call (LazyOp.host call)

def getCached (key : String) : LazyRoutine (Option PaybondInstrumentRuntime) :=
  Coroutine.call (LazyOp.getCached key)

def setCached (key : String) (runtime : PaybondInstrumentRuntime) : LazyRoutine Unit :=
  Coroutine.call (LazyOp.setCached key runtime)

/-- The tools of the context, or those that the intent allows. -/
def resolveAllowedTools (context : PaybondInstrumentContext) (intentId : String) :
    LazyRoutine (List String) :=
  match context.allowedTools with
  | some allowedTools => pure (strippedTools allowedTools)
  | none => strippedTools <$> ask (.getIntent intentId)

/-- `_resolve_attach_binding`: the intent, the token and the tools. -/
@[irreducible] def resolveAttachBinding (context : PaybondInstrumentContext) :
    LazyRoutine (String × String × List String) := do
  let capabilityToken := pyStrip context.capabilityToken
  Coroutine.ofExcept (raiseIf (pyStrip context.intentId = "")
    (paybondAgentRunBindError "attach.intent_id must be non-empty"))
  Coroutine.ofExcept (raiseIf (capabilityToken = "")
    (paybondAgentRunBindError "attach.capability_token must be non-empty"))
  match uuid (pyStrip context.intentId) with
  | none => Coroutine.raise (paybondAgentRunBindError "attach.intent_id must be a UUID")
  | some intentId => do
      let allowedTools ← resolveAllowedTools context intentId
      Coroutine.ofExcept (raiseIf (allowedTools = [])
        (paybondAgentRunBindError (s!"attach: intent {intentId} has no allowed_tools; " ++
          "pass attach.allowed_tools explicitly")))
      return (intentId, capabilityToken, allowedTools)

/-- `_create_bound_runtime` for an attached intent. -/
@[irreducible] def createBoundRuntime (context : PaybondInstrumentContext) :
    LazyRoutine PaybondInstrumentRuntime := do
  let runId ← ask .newRunId
  let (intentId, capabilityToken, allowedTools) ← resolveAttachBinding uuid context
  let productionEvidence ← Coroutine.ofExcept
    (normalizeProductionEvidence context.productionEvidence context.sandbox)
  Coroutine.ofExcept (registry.validateForBind allowedTools)
  ask .wrapToolsForFramework
  return { context, runId
           run := { intentId, capabilityToken, allowedTools, sandbox := context.sandbox
                    productionEvidence }
           userId := context.userId }

/-- `PaybondInstrumented._resolve_runtime`. -/
@[irreducible] def resolveRuntime (context : PaybondInstrumentContext) :
    LazyRoutine PaybondInstrumentRuntime := do
  Coroutine.ofExcept (assertInstrumentContext context)
  let cached ← getCached (runtimeCacheKey context)
  match cached with
  | some runtime => return runtime
  | none => do
      let runtime ← createBoundRuntime uuid registry context
      setCached (runtimeCacheKey context) runtime
      return runtime

/-- The execution of a tool. -/
structure LazyCall where
  toolName : String
  call : PyValue

/-- `run_guarded`, with the provider's context. -/
def runGuarded (execution : LazyCall) : LazyRoutine PyValue := do
  let context ← ask .callContextProvider
  let runtime ← resolveRuntime uuid registry context
  ask (.executeGuardedTool runtime execution.toolName execution.call)

/-- Executions of tools, however they interleave. -/
abbrev runLazy (actions : List (Action LazyCall lazyMachine)) :
    Loop LazyCall LazyOp.Answer PyExc PyValue RuntimeCache :=
  Loop.run lazyMachine (runGuarded uuid registry) .empty actions

end Programs

/-! ## What an execution does -/

/-- The run and the user of a runtime are those of its context. -/
structure BoundWith (uuid : String → Option String) (runtime : PaybondInstrumentRuntime) :
    Prop where
  intentId : uuid (pyStrip runtime.context.intentId) = some runtime.run.intentId
  capabilityToken : runtime.run.capabilityToken = pyStrip runtime.context.capabilityToken
  allowedTools : ∀ tools, runtime.context.allowedTools = some tools →
    runtime.run.allowedTools = strippedTools tools
  sandbox : runtime.run.sandbox = runtime.context.sandbox
  productionEvidence :
    normalizeProductionEvidence runtime.context.productionEvidence runtime.context.sandbox =
      .ok runtime.run.productionEvidence
  userId : runtime.userId = runtime.context.userId

abbrev LazyStep := Step LazyOp.Answer PyExc PyValue RuntimeCache

abbrev LazyEntry := Entry LazyCall LazyOp.Answer PyExc PyValue RuntimeCache

/-- What an execution knows: its context, and what it found in the cache. -/
structure LazyView where
  context : Option PaybondInstrumentContext := none
  found : Option PaybondInstrumentRuntime := none

def LazyView.record (view : LazyView) (step : LazyStep) : LazyView :=
  match step.event with
  | .completed (.host .callContextProvider) (.ok context) => { view with context := some context }
  | .completed (.getCached _) (.ok found) => { view with found }
  | _ => view

/-- The provider is asked once. A cache is looked up and filled under the key of the execution's
context; the runtime that is used was found there or bound with the context. -/
def LazyAllowed (uuid : String → Option String) (view : LazyView) (step : LazyStep) : Prop :=
  match step.event with
  | .completed (.host .callContextProvider) _ => view.context = none
  | .completed (.getCached key) answer =>
      answer = .ok (step.before.get? key) ∧
        ∃ context, view.context = some context ∧ key = runtimeCacheKey context
  | .completed (.setCached key runtime) _ =>
      view.context = some runtime.context ∧ key = runtimeCacheKey runtime.context ∧
        BoundWith uuid runtime
  | .issued (.host (.executeGuardedTool runtime _ _)) =>
      view.found = some runtime ∨ view.context = some runtime.context ∧ BoundWith uuid runtime
  | _ => True

abbrev lazyProtocol (uuid : String → Option String) :
    LocalSpec LazyCall LazyView LazyOp.Answer PyExc PyValue RuntimeCache where
  start := {}
  record := LazyView.record
  allowed _ := LazyAllowed uuid

section Steps

variable {uuid : String → Option String} {registry : PaybondToolRegistry} {view : LazyView}
variable {cache : RuntimeCache} {context : PaybondInstrumentContext}

attribute [local irreducible] raiseIf

/-- The routine takes allowed steps from here on. -/
abbrev Complies (uuid : String → Option String) {α : Type} (program : LazyRoutine α)
    (view : LazyView) (cache : RuntimeCache)
    (post : Except PyExc α → LazyView → RuntimeCache → Prop) : Prop :=
  program.Follows lazyMachine LazyView.record (LazyAllowed uuid) post view cache

theorem complies_ask {call : LazyHostCall} (hsync : call.awaits = false)
    {post : Except PyExc call.Answer → LazyView → RuntimeCache → Prop}
    (hpost : ∀ answer : Except PyExc call.Answer,
      LazyAllowed uuid view ⟨cache, .completed (.host call) answer⟩ ∧
        post answer (view.record ⟨cache, .completed (.host call) answer⟩) cache) :
    Complies uuid (ask call) view cache post :=
  (follows_call_sync hsync).mpr hpost

theorem complies_askAwait {call : LazyHostCall} (hawait : call.awaits = true)
    {post : Except PyExc call.Answer → LazyView → RuntimeCache → Prop}
    (hallowed : LazyAllowed uuid view ⟨cache, .issued (.host call)⟩)
    (hpost : ∀ (answer : Except PyExc call.Answer) (resumed : RuntimeCache),
      LazyAllowed uuid view ⟨resumed, .completed (.host call) answer⟩ ∧
        post answer (view.record ⟨resumed, .completed (.host call) answer⟩) resumed) :
    Complies uuid (ask call) view cache post :=
  (follows_call_await hawait).mpr ⟨hallowed, fun resumed answer => hpost answer resumed⟩

/-- Nothing is written down of the answer. -/
theorem complies_quiet {call : LazyHostCall} {post : Except PyExc call.Answer → LazyView →
      RuntimeCache → Prop}
    (hallowed : LazyAllowed uuid view ⟨cache, .issued (.host call)⟩)
    (hrecord : ∀ (resumed : RuntimeCache) (answer : Except PyExc call.Answer),
      LazyAllowed uuid view ⟨resumed, .completed (.host call) answer⟩ ∧
        view.record ⟨resumed, .completed (.host call) answer⟩ = view)
    (hpost : ∀ answer resumed, post answer view resumed) :
    Complies uuid (ask call) view cache post := by
  cases hawaits : call.awaits with
  | true =>
      refine complies_askAwait hawaits hallowed fun answer resumed => ?_
      obtain ⟨hanswer, hsame⟩ := hrecord resumed answer
      rw [hsame]
      exact ⟨hanswer, hpost answer resumed⟩
  | false =>
      refine complies_ask hawaits fun answer => ?_
      obtain ⟨hanswer, hsame⟩ := hrecord cache answer
      rw [hsame]
      exact ⟨hanswer, hpost answer cache⟩

theorem complies_setCached {runtime : PaybondInstrumentRuntime} {post : Except PyExc Unit →
      LazyView → RuntimeCache → Prop}
    (hview : view.context = some runtime.context) (hbound : BoundWith uuid runtime)
    (hpost : post (.ok ()) view (cache.set (runtimeCacheKey runtime.context) runtime)) :
    Complies uuid (setCached (runtimeCacheKey runtime.context) runtime) view cache post :=
  (follows_call_sync rfl).mpr fun _ => ⟨⟨hview, rfl, hbound⟩, hpost⟩

theorem complies_resolveAttachBinding
    {post : Except PyExc (String × String × List String) → LazyView → RuntimeCache → Prop}
    (hok : ∀ intentId allowedTools cache, uuid (pyStrip context.intentId) = some intentId →
      (∀ tools, context.allowedTools = some tools → allowedTools = strippedTools tools) →
      post (.ok (intentId, pyStrip context.capabilityToken, allowedTools)) view cache)
    (herror : ∀ exception cache, post (.error exception) view cache) :
    Complies uuid (resolveAttachBinding uuid context) view cache post := by
  unfold resolveAttachBinding
  refine (follows_bind _ _).mpr ((follows_ofExcept _).mpr ?_)
  split
  case h_2 => exact herror _ _
  refine (follows_bind _ _).mpr ((follows_ofExcept _).mpr ?_)
  split
  case h_2 => exact herror _ _
  split
  next => exact herror _ _
  next intentId hid =>
    have hchecked : ∀ (allowedTools : List String) (cache : RuntimeCache),
        (∀ tools, context.allowedTools = some tools → allowedTools = strippedTools tools) →
        Complies uuid (do
          Coroutine.ofExcept (raiseIf (allowedTools = [])
            (paybondAgentRunBindError (s!"attach: intent {intentId} has no allowed_tools; " ++
              "pass attach.allowed_tools explicitly")))
          return (intentId, pyStrip context.capabilityToken, allowedTools)) view cache post := by
      intro allowedTools cache htools
      refine (follows_bind _ _).mpr ((follows_ofExcept _).mpr ?_)
      split
      · exact hok _ _ _ hid htools
      · exact herror _ _
    refine (follows_bind _ _).mpr ?_
    unfold resolveAllowedTools
    split
    next allowedTools htools =>
      refine hchecked _ _ fun tools h => ?_
      rw [htools, Option.some.injEq] at h
      rw [h]
    next htools =>
      refine (follows_bind _ _).mpr (complies_quiet trivial (fun _ _ => ⟨trivial, rfl⟩) ?_)
      rintro (exception | tools) resumed
      · exact herror _ _
      · refine hchecked _ _ fun tools h => ?_
        rw [htools] at h
        cases h

/-- What is bound is bound with its context. -/
theorem complies_createBoundRuntime
    {post : Except PyExc PaybondInstrumentRuntime → LazyView → RuntimeCache → Prop}
    (hok : ∀ runtime cache, runtime.context = context → BoundWith uuid runtime →
      post (.ok runtime) view cache)
    (herror : ∀ exception cache, post (.error exception) view cache) :
    Complies uuid (createBoundRuntime uuid registry context) view cache post := by
  unfold createBoundRuntime
  refine (follows_bind _ _).mpr (complies_quiet trivial (fun _ _ => ⟨trivial, rfl⟩) ?_)
  rintro (exception | runId) resumed
  · exact herror _ _
  refine (follows_bind _ _).mpr (complies_resolveAttachBinding ?_ herror)
  intro intentId allowedTools resumed hid htools
  refine (follows_bind _ _).mpr ((follows_ofExcept _).mpr ?_)
  cases hevidence : normalizeProductionEvidence context.productionEvidence context.sandbox with
  | error exception => exact herror _ _
  | ok productionEvidence =>
      refine (follows_bind _ _).mpr ((follows_ofExcept _).mpr ?_)
      split
      case h_2 => exact herror _ _
      refine (follows_bind _ _).mpr (complies_quiet trivial (fun _ _ => ⟨trivial, rfl⟩) ?_)
      rintro (exception | _) resumed
      · exact herror _ _
      · exact hok _ _ rfl
          { intentId := hid
            capabilityToken := rfl
            allowedTools := htools
            sandbox := rfl
            productionEvidence := hevidence
            userId := rfl }

theorem complies_getCached (hview : view.context = some context)
    {post : Except PyExc (Option PaybondInstrumentRuntime) → LazyView → RuntimeCache → Prop}
    (hpost : post (.ok (cache.get? (runtimeCacheKey context)))
      { view with found := cache.get? (runtimeCacheKey context) } cache) :
    Complies uuid (getCached (runtimeCacheKey context)) view cache post :=
  (follows_call_sync rfl).mpr fun _ => ⟨⟨rfl, context, hview, rfl⟩, hpost⟩

theorem complies_resolveRuntime (hview : view.context = some context)
    {post : Except PyExc PaybondInstrumentRuntime → LazyView → RuntimeCache → Prop}
    (hok : ∀ runtime found cache,
      found = some runtime ∨ runtime.context = context ∧ BoundWith uuid runtime →
      post (.ok runtime) { view with found } cache)
    (herror : ∀ exception view cache, post (.error exception) view cache) :
    Complies uuid (resolveRuntime uuid registry context) view cache post := by
  unfold resolveRuntime
  refine (follows_bind _ _).mpr ((follows_ofExcept _).mpr ?_)
  split
  case h_2 => exact herror _ _ _
  refine (follows_bind _ _).mpr (complies_getCached hview ?_)
  cases hfound : cache.get? (runtimeCacheKey context) with
  | some runtime => exact hok runtime _ _ (.inl rfl)
  | none =>
      refine (follows_bind _ _).mpr (complies_createBoundRuntime ?_
        fun exception _ => herror exception _ _)
      intro runtime resumed hcontext hbound
      have hstored := hok runtime (cache.get? (runtimeCacheKey context))
        (resumed.set (runtimeCacheKey context) runtime) (.inr ⟨hcontext, hbound⟩)
      rw [hfound] at hstored
      rw [← hcontext] at hview hstored ⊢
      exact (follows_bind _ _).mpr (complies_setCached hview hbound hstored)

theorem runGuarded_obeys (execution : LazyCall) :
    (runGuarded uuid registry execution).Obeys lazyMachine (lazyProtocol uuid) execution := by
  intro cache
  have hask : ∀ post : Except PyExc PaybondInstrumentContext → LazyView → RuntimeCache → Prop,
      (∀ exception view cache, post (.error exception) view cache) →
      (∀ context cache, post (.ok context) { context := some context } cache) →
        Complies uuid (ask .callContextProvider) {} cache post := by
    intro post herror hok
    refine complies_askAwait rfl trivial fun answer resumed => ⟨rfl, ?_⟩
    cases answer with
    | error exception => exact herror exception _ _
    | ok context => exact hok context _
  refine (follows_bind _ _).mpr (hask _ (fun _ _ _ => trivial) ?_)
  intro context resumed
  refine (follows_bind _ _).mpr (complies_resolveRuntime rfl ?_ fun _ _ _ => trivial)
  intro runtime found resumed huse
  refine complies_quiet ?_ (fun _ _ => ⟨trivial, rfl⟩) fun _ _ => trivial
  rcases huse with hfound | ⟨hcontext, hbound⟩
  · exact .inl hfound
  · exact .inr ⟨congrArg some hcontext.symm, hbound⟩

end Steps

/-! ## The key -/

/-- The parts before and after the first separator. -/
theorem separator_inj {first second rest rest' : List Char} {separator : Char}
    (hfirst : separator ∉ first) (hsecond : separator ∉ second)
    (heq : first ++ separator :: rest = second ++ separator :: rest') :
    first = second ∧ rest = rest' := by
  induction first generalizing second with
  | nil =>
      cases second with
      | nil => exact ⟨rfl, (List.cons.inj heq).2⟩
      | cons char second => exact absurd ((List.cons.inj heq).1 ▸ List.mem_cons_self) hsecond
  | cons char first ih =>
      cases second with
      | nil => exact absurd ((List.cons.inj heq).1 ▸ List.mem_cons_self) hfirst
      | cons other second =>
          obtain ⟨rfl, htail⟩ := List.cons.inj heq
          obtain ⟨rfl, hrest⟩ := ih (List.not_mem_of_not_mem_cons hfirst)
            (List.not_mem_of_not_mem_cons hsecond) htail
          exact ⟨rfl, hrest⟩

/-- Texts without the separator are told apart by the key, up to the user being absent. -/
theorem runtimeCacheKey_inj {context other : PaybondInstrumentContext}
    (hintent : '\x00' ∉ context.intentId.toList ∧ '\x00' ∉ other.intentId.toList)
    (htoken : '\x00' ∉ context.capabilityToken.toList ∧ '\x00' ∉ other.capabilityToken.toList)
    (hkey : runtimeCacheKey context = runtimeCacheKey other) :
    context.intentId = other.intentId ∧ context.capabilityToken = other.capabilityToken ∧
      context.userId.getD "" = other.userId.getD "" := by
  have hlist := congrArg String.toList hkey
  have hseparator : ("\x00" : String).toList = ['\x00'] := rfl
  simp only [runtimeCacheKey, String.toList_append, hseparator, List.append_assoc,
    List.singleton_append] at hlist
  obtain ⟨hid, hrest⟩ := separator_inj hintent.1 hintent.2 hlist
  obtain ⟨htokens, huser⟩ := separator_inj htoken.1 htoken.2 hrest
  exact ⟨String.toList_inj.mp hid, String.toList_inj.mp htokens, String.toList_inj.mp huser⟩

/-! ## The cache over a run -/

/-- The provider gave the task this context. -/
def Provided (past : List LazyEntry) (task : ℕ) (context : PaybondInstrumentContext) : Prop :=
  Occurs past task fun event => event = .completed (.host .callContextProvider) (.ok context)

/-- Every runtime of the cache was bound with a context that some execution was given, and is
kept under the key of that context. -/
def CacheExplained (uuid : String → Option String) (past : List LazyEntry)
    (cache : RuntimeCache) : Prop :=
  ∀ key runtime, cache.get? key = some runtime →
    key = runtimeCacheKey runtime.context ∧ BoundWith uuid runtime ∧
      ∃ task, Provided past task runtime.context

section Runs

variable {uuid : String → Option String} {init cache : RuntimeCache}
variable {past : List LazyEntry} {task : ℕ} {context : PaybondInstrumentContext}
variable {runtime : PaybondInstrumentRuntime}

abbrev lazyRecorder : Recorder LazyView LazyOp.Answer PyExc PyValue RuntimeCache where
  start := {}
  record := LazyView.record

theorem LazyView.record_context {view : LazyView} {step : LazyStep}
    (hcontext : (view.record step).context = some context) :
    view.context = some context ∨
      step.event = .completed (.host .callContextProvider) (.ok context) := by
  obtain ⟨before, event⟩ := step
  unfold LazyView.record at hcontext
  split at hcontext
  next heq =>
    obtain rfl := Option.some.inj hcontext
    exact .inr heq
  all_goals exact .inl hcontext

theorem LazyView.record_found {view : LazyView} {step : LazyStep}
    (hfound : (view.record step).found = some runtime) :
    view.found = some runtime ∨ ∃ key, step.event = .completed (.getCached key) (.ok (some runtime)) := by
  obtain ⟨before, event⟩ := step
  unfold LazyView.record at hfound
  split at hfound
  next => exact .inl hfound
  next key found heq =>
    obtain rfl : found = some runtime := hfound
    exact .inr ⟨key, heq⟩
  next => exact .inl hfound

/-- An execution knows the context that it was given. -/
theorem context_iff_provided
    (hbehaves : lazyMachine.Behaves (lazyProtocol uuid) init past cache) :
    (lazyRecorder.view past task).context = some context ↔ Provided past task context := by
  constructor
  · intro hcontext
    obtain ⟨first, step, second, rfl, htask, hbefore, hafter⟩ :=
      lazyRecorder.exists_step_of_view (p := fun view => view.context = some context)
        (fun h => nomatch h) hcontext
    rcases LazyView.record_context hafter with hsame | hevent
    · exact absurd hsame hbefore
    · exact ⟨step, List.mem_append_right _ List.mem_cons_self, htask, hevent⟩
  · rintro ⟨entry, hentry, rfl, hevent⟩
    refine hbehaves.view_of_mem (p := fun view => view.context = some context)
      (fun step => step.event = .completed (.host .callContextProvider) (.ok context))
      (fun call view step _ hevent => ?_) (fun call view step hallowed hcontext => ?_)
      hentry hevent
    · obtain ⟨before, event⟩ := step
      obtain rfl : event = _ := hevent
      rfl
    · change (view.record step).context = some context
      obtain ⟨before, event⟩ := step
      unfold LazyView.record
      split
      next heq =>
        -- the provider was asked before
        obtain rfl : event = _ := heq
        have hnone : view.context = none := hallowed
        cases hnone.symm.trans hcontext
      all_goals exact hcontext

theorem Provided.snoc (hprovided : Provided past task context) (entry : LazyEntry) :
    Provided (past ++ [entry]) task context :=
  Occurs.snoc hprovided

theorem cacheExplained_of_behaves
    (hbehaves : lazyMachine.Behaves (lazyProtocol uuid) .empty past cache) :
    CacheExplained uuid past cache := by
  refine hbehaves.invariant (CacheExplained uuid) (fun _ _ h => nomatch h)
    fun past entry after hbefore hexplained hallowed hmoves => ?_
  have hkept : after = entry.before → CacheExplained uuid (past ++ [entry]) after := by
    rintro rfl key runtime hget
    obtain ⟨hkey, hbound, task, hprovided⟩ := hexplained key runtime hget
    exact ⟨hkey, hbound, task, hprovided.snoc entry⟩
  obtain ⟨⟨before, event⟩, task, call⟩ := entry
  cases event with
  | completed op answer =>
      obtain ⟨choice, hanswer⟩ := hmoves
      have hafter := (congrArg Prod.snd hanswer).symm
      cases op with
      | getCached key => exact hkept hafter
      | host call => exact hkept hafter
      | setCached key runtime =>
          obtain ⟨hcontext, rfl, hbound⟩ := hallowed
          obtain rfl : after = before.set (runtimeCacheKey runtime.context) runtime := hafter
          intro key stored hget
          rw [OrderedDict.get?_set] at hget
          split at hget
          next hkey =>
            obtain rfl := Option.some.inj hget
            exact ⟨hkey, hbound, task,
              ((context_iff_provided hbefore).mp hcontext).snoc _⟩
          next =>
            obtain ⟨hkey, hbound, task, hprovided⟩ := hexplained key stored hget
            exact ⟨hkey, hbound, task, hprovided.snoc _⟩
  | _ => exact hkept hmoves

/-- A runtime that was found is kept under the key of the execution's context. -/
theorem provided_of_found
    (hbehaves : lazyMachine.Behaves (lazyProtocol uuid) .empty past cache)
    (hfound : (lazyRecorder.view past task).found = some runtime) :
    BoundWith uuid runtime ∧ (∃ other, Provided past other runtime.context) ∧
      ∃ context, Provided past task context ∧
        runtimeCacheKey context = runtimeCacheKey runtime.context := by
  obtain ⟨first, lookup, second, rfl, rfl, hbefore, hafter⟩ :=
    lazyRecorder.exists_step_of_view (p := fun view => view.found = some runtime)
      (fun h => nomatch h) hfound
  rcases LazyView.record_found hafter with hsame | ⟨key, hevent⟩
  · exact absurd hsame hbefore
  obtain ⟨hfirst, -, -, hallowed⟩ := hbehaves.split rfl
  obtain ⟨⟨before, event⟩, task, call⟩ := lookup
  obtain rfl : event = _ := hevent
  obtain ⟨hanswer, context, hcontext, rfl⟩ := hallowed
  obtain ⟨hkey, hbound, other, hother⟩ :=
    cacheExplained_of_behaves hfirst _ runtime (Except.ok.inj hanswer).symm
  exact ⟨hbound, ⟨other, hother.append _⟩, context,
    ((context_iff_provided hfirst).mp hcontext).append _, hkey⟩

end Runs

/-- The runtime through which a tool is executed. -/
def usedRuntime? : Event LazyOp.Answer PyExc PyValue → Option PaybondInstrumentRuntime
  | .issued (.host (.executeGuardedTool runtime _ _)) => some runtime
  | _ => none

/-- The execution uses a runtime that was bound with the context that it was given. -/
structure UsesOwnContext (uuid : String → Option String) (past : List LazyEntry) (task : ℕ)
    (runtime : PaybondInstrumentRuntime) : Prop where
  provided : Provided past task runtime.context
  only : ∀ context, Provided past task context → context = runtime.context
  bound : BoundWith uuid runtime

/-- Contexts that were given in the run and have one key are one context. -/
def KeysTellApart (past : List LazyEntry) : Prop :=
  ∀ task task' context context', Provided past task context → Provided past task' context' →
    runtimeCacheKey context = runtimeCacheKey context' → context = context'

section Claim

variable (uuid : String → Option String) (registry : PaybondToolRegistry)
variable (actions : List (Action LazyCall lazyMachine))

theorem runLazy_sound :
    (runLazy uuid registry actions).Sound lazyMachine (lazyProtocol uuid) .empty :=
  Loop.run_sound runGuarded_obeys .empty actions

theorem usesOwnContext_of_keysTellApart {first second : List LazyEntry} {entry : LazyEntry}
    {runtime : PaybondInstrumentRuntime}
    (hkeys : KeysTellApart (runLazy uuid registry actions).trace)
    (htrace : (runLazy uuid registry actions).trace = first ++ entry :: second)
    (hused : usedRuntime? entry.event = some runtime) :
    UsesOwnContext uuid first entry.task runtime := by
  obtain ⟨hfirst, -, -, hallowed⟩ := (runLazy_sound uuid registry actions).behaves.split htrace
  obtain ⟨⟨before, event⟩, task, execution⟩ := entry
  obtain ⟨toolName, call, rfl⟩ : ∃ toolName call,
      event = .issued (.host (.executeGuardedTool runtime toolName call)) := by
    unfold usedRuntime? at hused
    split at hused
    next heq =>
      obtain rfl := Option.some.inj hused
      exact ⟨_, _, heq⟩
    next => cases hused
  have hown : Provided first task runtime.context ∧ BoundWith uuid runtime := by
    rcases hallowed with hfound | ⟨hcontext, hbound⟩
    · obtain ⟨hbound, ⟨other, hother⟩, context, hcontext, hkey⟩ := provided_of_found hfirst hfound
      rw [htrace] at hkeys
      have hsame := hkeys task other context _ (hcontext.append _) (hother.append _) hkey
      rw [hsame] at hcontext
      exact ⟨hcontext, hbound⟩
    · exact ⟨(context_iff_provided hfirst).mp hcontext, hbound⟩
  refine ⟨hown.1, fun context hcontext => ?_, hown.2⟩
  have hgiven := (context_iff_provided hfirst).mpr hcontext
  rw [(context_iff_provided hfirst).mpr hown.1] at hgiven
  exact (Option.some.inj hgiven).symm

end Claim

/-! ## Two contexts with one key -/

/-- A request that may pay. -/
def contextPay : PaybondInstrumentContext where
  intentId := "1b4e28ba-2fa1-11d2-883f-0016d3cca427"
  capabilityToken := "cap"
  userId := some "u1"
  allowedTools := some ["billing.pay"]
  sandbox := some { operation := "billing.pay", requestedSpendCents := 500
                    sandboxLifecycleStatus := "active" }

/-- The same user under the same intent, where only a refund is allowed. -/
def contextRefund : PaybondInstrumentContext :=
  { contextPay with allowedTools := some ["billing.refund"] }

/-- The refund, for another user. -/
def contextOtherUser : PaybondInstrumentContext := { contextRefund with userId := some "u2" }

def registryOpen : PaybondToolRegistry where
  defaultDeny := false
  sideEffecting := .empty

/-- The provider gives this context, and everything else goes well. -/
def lazyChoices (context : PaybondInstrumentContext) : ℕ → (op : LazyOp) → lazyMachine.Choice op
  | _, .getCached _ | _, .setCached _ _ => ()
  | _, .host .callContextProvider => .ok context
  | _, .host (.getIntent _) => .ok []
  | _, .host .newRunId => .ok "run"
  | _, .host .wrapToolsForFramework => .ok ()
  | _, .host (.executeGuardedTool _ _ _) => .ok .none

/-- One execution for each context, one after the other. -/
def lazyActions (contexts : List PaybondInstrumentContext) : List (Action LazyCall lazyMachine) :=
  contexts.zipIdx.flatMap fun (context, task) =>
    [.start ⟨"pay", .none⟩ (lazyChoices context), .resume task (lazyChoices context),
      .resume task (lazyChoices context)]

instance (context : PaybondInstrumentContext) :
    DecidablePred fun event : Event LazyOp.Answer PyExc PyValue =>
      event = .completed (.host .callContextProvider) (.ok context)
  | .completed (.host .callContextProvider) (.ok given) =>
      decidable_of_iff (given = context) (by simp)
  | .completed (.host .callContextProvider) (.error _)
  | .completed (.host (.getIntent _)) _ | .completed (.host .newRunId) _
  | .completed (.host .wrapToolsForFramework) _
  | .completed (.host (.executeGuardedTool _ _ _)) _
  | .completed (.getCached _) _ | .completed (.setCached _ _) _
  | .issued _ | .finished _ | .cut => isFalse (by simp)

instance (past : List LazyEntry) (task : ℕ) (context : PaybondInstrumentContext) :
    Decidable (Provided past task context) :=
  inferInstanceAs (Decidable (Occurs past task _))

/-- The answer of the provider. -/
def given? : Event LazyOp.Answer PyExc PyValue → Option PaybondInstrumentContext
  | .completed (.host .callContextProvider) (.ok context) => some context
  | _ => none

theorem Provided.mem_given {past : List LazyEntry} {task : ℕ} {context : PaybondInstrumentContext}
    (hprovided : Provided past task context) :
    context ∈ past.filterMap (given? ·.event) := by
  obtain ⟨entry, hentry, -, hevent⟩ := hprovided
  refine List.mem_filterMap.mpr ⟨entry, hentry, ?_⟩
  rw [hevent]
  rfl

theorem usesOwnContext_of_keysTellApart_users :
    ∃ first second entry runtime,
      (runLazy some registryOpen (lazyActions [contextPay, contextOtherUser])).trace =
          first ++ entry :: second ∧
        usedRuntime? entry.event = some runtime ∧
        UsesOwnContext some first entry.task runtime := by
  have hkeys : KeysTellApart
      (runLazy some registryOpen (lazyActions [contextPay, contextOtherUser])).trace := by
    intro task task' context context' hcontext hcontext' hkey
    have hall :
        ∀ context ∈ (runLazy some registryOpen
            (lazyActions [contextPay, contextOtherUser])).trace.filterMap (given? ·.event),
        ∀ context' ∈ (runLazy some registryOpen
            (lazyActions [contextPay, contextOtherUser])).trace.filterMap (given? ·.event),
        runtimeCacheKey context = runtimeCacheKey context' → context = context' := by
      decide +kernel
    exact hall context hcontext.mem_given context' hcontext'.mem_given hkey
  have hused :
      ∃ entry ∈ (runLazy some registryOpen (lazyActions [contextPay, contextOtherUser])).trace,
        (usedRuntime? entry.event).isSome := by
    decide +kernel
  obtain ⟨entry, hentry, hsome⟩ := hused
  obtain ⟨first, second, htrace⟩ := List.append_of_mem hentry
  obtain ⟨runtime, hruntime⟩ := Option.isSome_iff_exists.mp hsome
  exact ⟨first, second, entry, runtime, htrace, hruntime,
    usesOwnContext_of_keysTellApart some registryOpen _ hkeys htrace hruntime⟩

/-- Over one intent and one user, the refund is executed through the runtime of the payment. -/
theorem runLazy_sharedRuntime :
    ¬∀ first second entry runtime,
      (runLazy some registryOpen (lazyActions [contextPay, contextRefund])).trace =
        first ++ entry :: second →
      usedRuntime? entry.event = some runtime → UsesOwnContext some first entry.task runtime := by
  intro howns
  have hused : ∃ entry ∈ (runLazy some registryOpen (lazyActions [contextPay, contextRefund])).trace,
      entry.task = 1 ∧ (usedRuntime? entry.event).map (·.context) = some contextPay := by
    decide +kernel
  have hnever :
      ¬Provided (runLazy some registryOpen (lazyActions [contextPay, contextRefund])).trace 1
        contextPay := by
    decide +kernel
  obtain ⟨entry, hentry, htask, hcontext⟩ := hused
  obtain ⟨first, second, htrace⟩ := List.append_of_mem hentry
  obtain ⟨runtime, hruntime, hpay⟩ := Option.map_eq_some_iff.mp hcontext
  have hprovided := (howns first second entry runtime htrace hruntime).provided
  rw [htask, hpay] at hprovided
  refine hnever ?_
  rw [htrace]
  exact hprovided.append _

end PaybondKit.Agent
