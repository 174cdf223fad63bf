import PaybondKit.Agent.CallView

/-!
# The steps of tool calls

Symbolic execution of the interceptor and of the two guards. Each part of a call
has one lemma: from a view of a certain kind all its steps are allowed, and it ends
in a view of a certain kind.
-/

namespace PaybondKit.Agent

open Coroutine

section Conforms

variable (platform : Platform) (binding : PaybondRunBinding) (call : AgentCall)

/-- From `view` and `state`, the program takes only steps that are allowed to
`call`, and ends in a view with `post`. -/
abbrev Conforms {α : Type} (program : Routine α) (view : CallView) (state : RunState)
    (post : Except PyExc α → CallView → RunState → Prop) : Prop :=
  program.Follows runMachine CallView.record (Allowed platform binding call) post view state

end Conforms

section Views

variable {call : AgentCall} {view : CallView}

theorem YieldAllowed.of_stage {event : Event Val PyExc AgentOutcome}
    (hstage : ∀ exception, view.stage ≠ .faulted exception)
    (hgrant : ∀ input, call = .authorizeToolCall input → view.grant.isSome = true →
      view.stored.isSome = true) : YieldAllowed call view event :=
  ⟨hgrant, fun exception _ hfaulted => absurd hfaulted (hstage exception)⟩

/-- A call that runs handlers stores nothing. -/
theorem AgentCall.RunsHandler.ne_authorize (hruns : call.RunsHandler) (input : ToolCallInput) :
    call ≠ .authorizeToolCall input := by
  rintro rfl
  exact hruns

theorem AgentCall.RunsHandler.yieldAllowed {event : Event Val PyExc AgentOutcome}
    (hruns : call.RunsHandler) (hstage : ∀ exception, view.stage ≠ .faulted exception) :
    YieldAllowed call view event :=
  .of_stage hstage fun input hinput => absurd hinput (hruns.ne_authorize input)

end Views

variable {platform : Platform} {binding : PaybondRunBinding} {call : AgentCall}
variable {view : CallView} {state : RunState}

/-- The view of a call whose handler has been run. -/
def CallView.after (view : CallView) (stage : Stage) (requested : List (String × SpendOutcome)) :
    CallView :=
  { view with stage, requested }

/-! ## Harbor and the handler -/

/-- Asking Harbor leaves a grant behind if it allows, and nothing otherwise. -/
theorem conforms_verifyCapability {request : SpendRequest}
    {post : Except PyExc VerifyCapabilityResult → CallView → RunState → Prop}
    (hstage : view.stage = .before) (hauth : view.auth = none)
    (hasks : AskAllowed binding call view request)
    (hallow : ∀ result resumed, result.allow = true →
      post (.ok result) { view with grant := some (request, result) } resumed)
    (hrefuse : ∀ result resumed, result.allow = false → post (.ok result) view resumed)
    (herror : ∀ exception resumed, post (.error exception) view resumed) :
    Conforms platform binding call (host (.verifyCapability request)) view state post := by
  have hyield : YieldAllowed call view (.issued (.host (.verifyCapability request))) := by
    refine .of_stage (by simp [hstage]) fun input _ hgrant => ?_
    simp only [CallView.auth, Option.or_eq_none_iff, Option.map_eq_none_iff] at hauth
    simp [hauth.2] at hgrant
  refine (follows_await rfl).mpr ⟨⟨hyield, hstage, hauth, hasks⟩, fun resumed answer => ?_⟩
  refine ⟨⟨hstage, hauth⟩, ?_⟩
  cases answer with
  | error exception => exact herror exception resumed
  | ok result =>
      cases hresult : result.allow with
      | true =>
          change post _ (if result.allow = true then _ else view) _
          rw [if_pos hresult]
          exact hallow result resumed hresult
      | false =>
          change post _ (if result.allow = true then _ else view) _
          rw [if_neg (by simp [hresult])]
          exact hrefuse result resumed hresult

theorem conforms_assertSpendAuthorized {request : SpendRequest}
    {post : Except PyExc VerifyCapabilityResult → CallView → RunState → Prop}
    (hstage : view.stage = .before) (hauth : view.auth = none)
    (hasks : AskAllowed binding call view request)
    (hok : ∀ result resumed, result.allow = true →
      post (.ok result) { view with grant := some (request, result) } resumed)
    (herror : ∀ exception resumed, post (.error exception) view resumed) :
    Conforms platform binding call (assertSpendAuthorized request) view state post := by
  refine (follows_bind _ _).mpr (conforms_verifyCapability hstage hauth hasks ?_ ?_ herror)
  · intro result resumed hallow
    simpa [hallow] using hok result resumed hallow
  · intro result resumed hrefuse
    cases happroval : result.approvalRequired with
    | true => simpa [hrefuse, happroval, raise] using herror _ resumed
    | false => simpa [hrefuse, happroval, raise] using herror _ resumed

/-- Awaiting a handler ends with its result or its exception. -/
theorem conforms_awaitHandler {invocation : Invocation}
    {post : Except PyExc PyValue → CallView → RunState → Prop}
    (hruns : call.RunsHandler) (hstage : view.stage = .before ∨ view.stage = .invoked)
    (hok : ∀ result resumed, post (.ok result) (view.after .returned view.requested) resumed)
    (herror : ∀ exception resumed,
      post (.error exception) (view.after (.raised exception) view.requested) resumed) :
    Conforms platform binding call (host (.awaitHandler invocation)) view state post := by
  have hyield : YieldAllowed call view (.issued (.host (.awaitHandler invocation))) :=
    hruns.yieldAllowed (by rcases hstage with hstage | hstage <;> simp [hstage])
  refine (follows_await rfl).mpr ⟨⟨hyield, hstage⟩, fun resumed answer => ⟨hstage, ?_⟩⟩
  cases answer with
  | ok result => exact hok result resumed
  | error exception => exact herror exception resumed

theorem conforms_maybeAwait {invocation : Invocation}
    {post : Except PyExc PyValue → CallView → RunState → Prop}
    (hruns : call.RunsHandler) (hstage : view.stage = .before)
    (hinvocation : InvocationAllowed binding call view state invocation)
    (hok : ∀ result resumed, post (.ok result) (view.after .returned view.requested) resumed)
    (herror : ∀ exception resumed,
      post (.error exception) (view.after (.raised exception) view.requested) resumed) :
    Conforms platform binding call (maybeAwait invocation) view state post := by
  refine (follows_bind _ _).mpr ((follows_host rfl).mpr fun answer => ⟨⟨hstage, hinvocation⟩, ?_⟩)
  cases answer with
  | error exception => exact herror exception state
  | ok returned =>
      cases returned with
      | value result => exact hok result state
      | awaitable => exact conforms_awaitHandler hruns (.inr rfl) hok herror

/-! ## Finalizing -/

/-- How the part of a call that may raise after the handler ended. -/
def BodyDone {α : Type} (decisionId : Option String) (outcome : Except PyExc α) (stage : Stage)
    (requested : List (String × SpendOutcome)) : Prop :=
  match outcome with
  | .ok _ => stage = .returned ∧ (decisionId.isSome = true → requested ≠ [])
  | .error exception => stage = .raised exception ∨ stage = .faulted exception

/-- How a call stands after the handler and the release that an exception causes. -/
def HandlerDone {α : Type} (decisionId : Option String) (outcome : Except PyExc α)
    (stage : Stage) (requested : List (String × SpendOutcome)) : Prop :=
  match outcome with
  | .ok _ => stage = .returned ∧ (decisionId.isSome = true → requested ≠ [])
  | .error _ => ∃ exception, (stage = .raised exception ∨ stage = .faulted exception) ∧
      (exception.isException = true →
        ∀ decision, decisionId = some decision → (decision, .released) ∈ requested)

/-- A postcondition about the stage and the requests only. -/
def Handled {α : Type} (view : CallView)
    (done : Except PyExc α → Stage → List (String × SpendOutcome) → Prop) :
    Except PyExc α → CallView → RunState → Prop :=
  fun outcome view' _ =>
    ∃ stage requested, view' = view.after stage requested ∧ done outcome stage requested

@[simp] theorem CallView.after_decisionId (stage : Stage)
    (requested : List (String × SpendOutcome)) :
    (view.after stage requested).decisionId = view.decisionId := rfl

/-- An outcome was requested. An exception of a consumption comes after the handler
returned. -/
def Finalized (view : CallView) (decisionId : String) (outcome : SpendOutcome) :
    Except PyExc Unit → CallView → RunState → Prop
  | .ok _, view', _ => view' = view.after view.stage (view.requested ++ [(decisionId, outcome)])
  | .error exception, view', _ =>
      view' = view.after (if outcome = .consumed then .faulted exception else view.stage)
        (view.requested ++ [(decisionId, outcome)])

theorem conforms_completeSpend {decisionId : String} {outcome : SpendOutcome}
    (hcomplete : CompleteAllowed call view decisionId outcome) :
    Conforms platform binding call (host (.completeSpend decisionId outcome)) view state
      (Finalized view decisionId outcome) := by
  have hyield : YieldAllowed call view (.issued (.host (.completeSpend decisionId outcome))) := by
    obtain ⟨hruns, hdecision, hstage⟩ := hcomplete
    refine ⟨fun input hinput => absurd hinput (hruns.ne_authorize input), ?_⟩
    intro exception decision hfaulted _ hsome
    cases outcome with
    | consumed => simp [hstage.1] at hfaulted
    | released => exact .inr (by rw [Option.some.inj (hdecision.symm.trans hsome)])
  refine (follows_await rfl).mpr ⟨⟨hyield, hcomplete⟩, fun resumed answer => ⟨?_, ?_⟩⟩
  · cases outcome with
    | consumed => exact ⟨hcomplete.2.2.1, by simp [CallView.record, CallView.recordIssue]⟩
    | released => trivial
  · cases answer with
    | ok value => cases outcome <;> rfl
    | error exception => cases outcome <;> rfl

/-- The interceptor also traces the outcome. -/
theorem conforms_finalizeSpend {toolCallId operation decisionId : String}
    {outcome : SpendOutcome} (hcomplete : CompleteAllowed call view decisionId outcome) :
    Conforms platform binding call (finalizeSpend binding toolCallId operation outcome decisionId)
      view state (Finalized view decisionId outcome) := by
  refine (follows_bind _ _).mpr ((conforms_completeSpend hcomplete).weaken_post ?_)
  rintro (exception | _) view' state' hview
  · exact hview
  · obtain rfl : view' = view.after view.stage (view.requested ++ [(decisionId, outcome)]) := hview
    refine (follows_host rfl).mpr fun answer => ⟨?_, ?_⟩
    · cases outcome with
      | consumed => exact ⟨hcomplete.2.2.1, by simp [CallView.after]⟩
      | released => trivial
    · cases answer with
      | ok value => cases outcome <;> rfl
      | error exception => cases outcome <;> rfl

/-- The consumption at the end of the body. -/
theorem conforms_consume {α : Type} {consume : String → Routine Unit} {value : α}
    (hruns : call.RunsHandler) (hrequested : view.requested = [])
    (hconsume : ∀ decisionId view', CompleteAllowed call view' decisionId .consumed →
      Conforms platform binding call (consume decisionId) view' state
        (Finalized view' decisionId .consumed)) :
    Conforms platform binding call
      ((withDecision view.decisionId consume).bind fun _ => .ret value)
      (view.after .returned view.requested) state (Handled view (BodyDone view.decisionId)) := by
  refine (follows_bind _ _).mpr ?_
  cases hdecision : view.decisionId with
  | none => exact ⟨.returned, view.requested, rfl, rfl, nofun⟩
  | some decisionId =>
      have hcomplete : CompleteAllowed call (view.after .returned view.requested) decisionId
          .consumed := ⟨hruns, hdecision, rfl, hrequested⟩
      refine (hconsume decisionId _ hcomplete).weaken_post ?_
      rintro (exception | _) _ state' rfl
      · exact ⟨.faulted exception, view.requested ++ [(decisionId, .consumed)], rfl, .inr rfl⟩
      · exact ⟨.returned, view.requested ++ [(decisionId, .consumed)], rfl, rfl, by simp⟩

/-- After an exception the reservation is released, whatever becomes of the release. -/
theorem conforms_releaseOnException {α : Type} {body : Routine α}
    {release : String → Routine Unit} (hruns : call.RunsHandler)
    (hbody : Conforms platform binding call body view state
      (Handled view (BodyDone view.decisionId)))
    (hrelease : ∀ decisionId view' state', CompleteAllowed call view' decisionId .released →
      Conforms platform binding call (release decisionId) view' state'
        (Finalized view' decisionId .released)) :
    Conforms platform binding call (releaseOnException view.decisionId body release) view state
      (Handled view (HandlerDone view.decisionId)) := by
  refine (follows_tryExcept _ _).mpr (hbody.weaken_post ?_)
  rintro outcome _ state' ⟨stage, requested, rfl, hdone⟩
  cases outcome with
  | ok value => exact ⟨stage, requested, rfl, hdone⟩
  | error exception =>
      dsimp only
      cases hexception : exception.isException with
      | false =>
          -- cancellation passes through
          exact ⟨stage, requested, rfl, exception, hdone, by simp [hexception]⟩
      | true =>
          rw [if_pos rfl]
          refine (follows_bind _ _).mpr ?_
          cases hdecision : view.decisionId with
          | none =>
              exact ⟨stage, requested, rfl, exception, hdone, fun _ decision hsome => by
                cases hsome⟩
          | some decisionId =>
              have hcomplete : CompleteAllowed call (view.after stage requested) decisionId
                  .released :=
                ⟨hruns, hdecision, exception, hexception, hdone⟩
              have hended : ∀ (raised : PyExc) (state'' : RunState),
                  Handled view (@HandlerDone α (some decisionId)) (.error raised)
                    (view.after stage (requested ++ [(decisionId, .released)])) state'' :=
                fun raised _ => ⟨stage, requested ++ [(decisionId, .released)], rfl, exception,
                  hdone, fun _ decision hsome => by simp [Option.some.inj hsome]⟩
              refine (follows_tryExcept _ _).mpr
                ((hrelease decisionId _ state' hcomplete).weaken_post ?_)
              rintro (failure | _) _ state'' rfl
              · dsimp only
                split
                · exact hended exception state''
                · exact hended failure state''
              · exact hended exception state''

section HandlerDone

variable {α : Type} {outcome : Except PyExc α} {stage : Stage}
variable {requested : List (String × SpendOutcome)}

theorem HandlerDone.yields (hdone : HandlerDone view.decisionId outcome stage requested)
    (hruns : call.RunsHandler) (event : Event Val PyExc AgentOutcome) :
    YieldAllowed call (view.after stage requested) event := by
  cases outcome with
  | ok value => exact hruns.yieldAllowed (by simp [CallView.after, hdone.1])
  | error _ =>
      obtain ⟨exception, hstage, hreleased⟩ := hdone
      refine ⟨fun input hinput => absurd hinput (hruns.ne_authorize input), ?_⟩
      intro exception' decisionId hfaulted hexception hdecision
      have heq : exception = exception' := by
        rcases hstage with hraised | hraised
        · cases hraised.symm.trans hfaulted
        · cases hraised.symm.trans hfaulted
          rfl
      rw [← heq] at hexception
      exact .inl (hreleased hexception decisionId hdecision)

theorem HandlerDone.settled (hdone : HandlerDone view.decisionId outcome stage requested) :
    SettledAllowed call (view.after stage requested) := by
  intro _ hdecision
  cases outcome with
  | ok value => exact .inl (hdone.2 hdecision)
  | error _ =>
      obtain ⟨exception, hstage, hreleased⟩ := hdone
      obtain ⟨decisionId, hsome⟩ := Option.isSome_iff_exists.mp hdecision
      cases hexception : exception.isException with
      | true => exact .inl (List.ne_nil_of_mem (hreleased hexception decisionId hsome))
      | false => exact .inr (.inr ⟨exception, hexception, hstage⟩)

end HandlerDone

/-- A call that holds no authorization may end. -/
theorem ends_of_auth_none {event : Event Val PyExc AgentOutcome} (hstage : view.stage = .before)
    (hauth : view.auth = none) : YieldAllowed call view event ∧ SettledAllowed call view := by
  refine ⟨.of_stage (by simp [hstage]) fun input _ hgrant => ?_, fun _ hdecision => ?_⟩
  · simp only [CallView.auth, Option.or_eq_none_iff, Option.map_eq_none_iff] at hauth
    simp [hauth.2] at hgrant
  · simp [CallView.decisionId, hauth] at hdecision

/-! ## The two guards -/

theorem guardTool_obeys (request : SpendRequest) :
    (program platform binding (.guardTool request)).Obeys runMachine
      (agentProtocol platform binding) (.guardTool request) := by
  intro state
  have hruns : (AgentCall.guardTool request).RunsHandler := trivial
  refine (follows_bind _ _).mpr ((follows_bind _ _).mpr
    (conforms_assertSpendAuthorized rfl rfl (fun h => h.elim) ?_ ?_))
  · intro auth resumed _
    let view : CallView := { grant := some (request, auth) }
    have hbody : Conforms platform binding (.guardTool request)
        ((maybeAwait (.guarded request.operation request.requestedSpendCents)).bind fun out =>
          (withDecision view.decisionId fun decisionId =>
            host (.completeSpend decisionId .consumed)).bind fun _ => .ret out)
        view resumed (Handled view (BodyDone view.decisionId)) := by
      refine (follows_bind _ _).mpr (conforms_maybeAwait hruns rfl id ?_ ?_)
      · intro out state'
        exact conforms_consume hruns rfl fun decisionId view' hcomplete =>
          conforms_completeSpend hcomplete
      · intro exception state'
        exact ⟨.raised exception, view.requested, rfl, .inl rfl⟩
    refine (conforms_releaseOnException hruns hbody fun decisionId view' state' hcomplete =>
      conforms_completeSpend hcomplete).weaken_post ?_
    rintro (exception | out) _ state' ⟨stage, requested, rfl, hdone⟩
    · exact ⟨hdone.yields hruns _, hdone.settled⟩
    · exact ⟨hdone.yields hruns _, hdone.settled⟩
  · intro exception resumed
    exact ends_of_auth_none rfl rfl

/-- Resolving the spend only asks the host. -/
theorem conforms_resolveLangGraphSpend {request : LangGraphToolCall}
    {post : Except PyExc Int → CallView → RunState → Prop}
    (hpost : ∀ outcome, post outcome view state) :
    Conforms platform binding call (resolveLangGraphSpend request) view state post := by
  unfold resolveLangGraphSpend
  split
  · exact hpost _
  · refine (follows_bind _ _).mpr ((follows_host rfl).mpr fun answer => ⟨trivial, ?_⟩)
    rcases answer with exception | (_ | value)
    · exact hpost _
    · exact hpost _
    · exact hpost _

theorem awrapToolCallCapability_obeys (request : LangGraphToolCall) :
    (program platform binding (.awrapToolCallCapability request)).Obeys runMachine
      (agentProtocol platform binding) (.awrapToolCallCapability request) := by
  intro state
  have hruns : (AgentCall.awrapToolCallCapability request).RunsHandler := trivial
  refine (follows_bind _ _).mpr ?_
  dsimp only [awrapToolCallCapability]
  split
  · exact ends_of_auth_none rfl rfl
  refine (follows_bind _ _).mpr (conforms_resolveLangGraphSpend ?_)
  rintro (exception | resolvedSpend)
  · exact ends_of_auth_none rfl rfl
  refine (follows_bind _ _).mpr (conforms_verifyCapability rfl rfl (fun h => h.elim) ?_ ?_ ?_)
  · intro result resumed hallow
    dsimp only
    rw [if_pos hallow]
    let view : CallView :=
      { grant := some
          ({ operation := pyStrip request.name, requestedSpendCents := resolvedSpend
             toolCallId := truthyStr (some (pyStrip request.id))
             toolName := some (pyStrip request.name) }, result) }
    have hbody : Conforms platform binding (.awrapToolCallCapability request)
        ((host (.awaitHandler (.guarded (pyStrip request.name) resolvedSpend))).bind fun out =>
          (withDecision view.decisionId fun decisionId =>
            host (.completeSpend decisionId .consumed)).bind fun _ => .ret (LangGraphResult.result out))
        view resumed (Handled view (BodyDone view.decisionId)) := by
      refine (follows_bind _ _).mpr (conforms_awaitHandler hruns (.inl rfl) ?_ ?_)
      · intro out state'
        exact conforms_consume hruns rfl fun decisionId view' hcomplete =>
          conforms_completeSpend hcomplete
      · intro exception state'
        exact ⟨.raised exception, view.requested, rfl, .inl rfl⟩
    refine (conforms_releaseOnException hruns hbody fun decisionId view' state' hcomplete =>
      conforms_completeSpend hcomplete).weaken_post ?_
    rintro (exception | out) _ state' ⟨stage, requested, rfl, hdone⟩
    · exact ⟨hdone.yields hruns _, hdone.settled⟩
    · exact ⟨hdone.yields hruns _, hdone.settled⟩
  · intro result resumed hrefuse
    dsimp only
    rw [if_neg (by simp [hrefuse])]
    exact ends_of_auth_none rfl rfl
  · intro exception resumed
    exact ends_of_auth_none rfl rfl

end PaybondKit.Agent
