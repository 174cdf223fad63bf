import PaybondKit.Agent.Interceptor
import PaybondKit.Foundation.Once

/-!
# The idle parts of the interceptor

Most of what the interceptor does neither asks Harbor nor uses an earlier answer of it nor
submits evidence. What remains is in a few places, and is counted there.
-/

namespace PaybondKit.Agent

open Coroutine

/-! ## Running a handler -/

/-- The operation belongs to the handler of a tool: its invocation, its clock and its traces,
and what becomes of the reservation. -/
def Handles : Op → Prop
  | .host (.execute _) | .host (.awaitHandler _) | .host (.completeSpend _ _)
  | .host (.emitTrace _) | .access .perfCounter => True
  | _ => False

section Handlers

variable {kind : Op → Prop} {binding : PaybondRunBinding}

theorem avoids_maybeAwait {invocation : Invocation}
    (hexecute : ¬kind (.host (.execute invocation)))
    (hawait : ¬kind (.host (.awaitHandler invocation))) : (maybeAwait invocation).Avoids kind := by
  refine avoids_bind (avoids_call hexecute) fun answer => ?_
  cases answer with
  | value result => trivial
  | awaitable => exact avoids_call hawait

theorem avoids_withDecision {decisionId : Option String} {action : String → Routine Unit}
    (haction : ∀ decisionId, (action decisionId).Avoids kind) :
    (withDecision decisionId action).Avoids kind := by
  cases decisionId with
  | none => trivial
  | some decisionId => exact haction decisionId

theorem avoids_releaseOnException {α : Type} {decisionId : Option String} {body : Routine α}
    {release : String → Routine Unit} (hbody : body.Avoids kind)
    (hrelease : ∀ decisionId, (release decisionId).Avoids kind) :
    (releaseOnException decisionId body release).Avoids kind := by
  refine avoids_tryExcept hbody fun exception => ?_
  split
  · refine avoids_bind (avoids_withDecision fun decisionId => ?_) fun _ => trivial
    refine avoids_tryExcept (hrelease decisionId) fun failure => ?_
    split <;> trivial
  · trivial

/-- A handler does nothing but what belongs to it. -/
theorem avoids_executeAndFinalize {toolName toolCallId : String} {resolved : ResolvedCall}
    {decisionId : Option String} {startedAt : ℕ} (hkind : ∀ op, Handles op → ¬kind op) :
    (executeAndFinalize binding toolName toolCallId resolved decisionId startedAt).Avoids kind := by
  have hfinalize : ∀ outcome decisionId,
      (finalizeSpend binding toolCallId resolved.operation outcome decisionId).Avoids kind :=
    fun _ _ => avoids_bind (avoids_call (hkind _ trivial)) fun _ => avoids_call (hkind _ trivial)
  refine avoids_releaseOnException ?_ (hfinalize _)
  refine avoids_bind (avoids_maybeAwait (hkind _ trivial) (hkind _ trivial)) fun _ => ?_
  refine avoids_bind (avoids_call (hkind _ trivial)) fun _ =>
    avoids_bind (avoids_call (hkind _ trivial)) fun _ => ?_
  exact avoids_bind (avoids_withDecision (hfinalize _)) fun _ => trivial

/-- A draft is composed at one reading of the clock. -/
theorem avoids_buildReceiptDraft {platform : Platform} {receipt : ReceiptInput}
    (htime : ¬kind (.access .timeMs)) :
    (buildReceiptDraft platform binding receipt).Avoids kind := by
  unfold buildReceiptDraft
  split
  · trivial
  · split
    · trivial
    · exact avoids_bind (avoids_call htime) fun _ => trivial

end Handlers

/-! ## Asking and submitting -/

/-- The operation looks a tool up, and what it spends. -/
def Resolves : Op → Prop
  | .access .readRegistry | .host (.resolveSpendCents _ _) => True
  | _ => False

/-- The operation obtains an authorization. -/
def Obtains : Op → Prop
  | .access (.takeValidCachedAuthorization _ _) | .host (.verifyCapability _)
  | .access .timeMs | .host (.emitTrace _) => True
  | _ => False

/-- The operation keeps an authorization for later. -/
def Caches : Op → Prop
  | .access .evictExpiredAuthorizationCache | .access .monotonicTime | .access .timeMs
  | .access (.storeAuthorization _ _) => True
  | _ => False

/-- The operation submits evidence, or prepares it. -/
def Submits : Op → Prop
  | .host (.buildEvidencePayload _ _ _) | .host (.submitSandboxEvidence _ _ _ _ _ _)
  | .host (.signEvidence _ _) | .host (.submitEvidence _ _ _) => True
  | _ => False

section Parts

variable {kind : Op → Prop} {platform : Platform} {binding : PaybondRunBinding}

theorem avoids_requireToolCall (input : ToolCallInput) : (requireToolCall input).Avoids kind := by
  unfold requireToolCall
  split
  · trivial
  · split <;> trivial

theorem avoids_resolveSideEffectingCall {toolName toolCallId operation : String}
    {input : ToolCallInput} {entry : PaybondSideEffectingToolEntry}
    (hkind : ∀ op, Resolves op → ¬kind op) :
    (resolveSideEffectingCall binding toolName toolCallId input entry operation).Avoids kind := by
  refine avoids_bind ?_ fun _ => ?_
  · unfold assertOperationAllowed
    split <;> trivial
  · dsimp only
    split
    · trivial
    · refine avoids_bind (avoids_call (hkind _ trivial)) fun registry =>
        avoids_bind ?_ fun _ => avoids_ret _
      unfold resolveSpendCents
      split
      · trivial
      · trivial
      · exact avoids_ofExcept _
      · exact avoids_call (hkind _ trivial)

theorem avoids_assertSpendAuthorized {request : SpendRequest}
    (hverify : ¬kind (.host (.verifyCapability request))) :
    (assertSpendAuthorized request).Avoids kind := by
  refine avoids_bind (avoids_call hverify) fun result => ?_
  split
  · trivial
  · split <;> trivial

theorem avoids_obtainAuthorization {toolName toolCallId : String} {resolved : ResolvedCall}
    {pinnedDigest : Option String} (hkind : ∀ op, Obtains op → ¬kind op) :
    (obtainAuthorization binding toolName toolCallId resolved pinnedDigest).Avoids kind := by
  refine avoids_bind (avoids_call (hkind _ trivial)) fun cached => ?_
  cases cached with
  | some entry => trivial
  | none =>
      exact avoids_bind (avoids_assertSpendAuthorized (hkind _ trivial)) fun _ =>
        avoids_bind (avoids_call (hkind _ trivial)) fun _ =>
          avoids_bind (avoids_call (hkind _ trivial)) fun _ => trivial

theorem avoids_decideRefusal {toolCallId operation : String} {exception : PyExc}
    (htrace : ∀ event, ¬kind (.host (.emitTrace event))) :
    (decideRefusal binding toolCallId operation exception).Avoids kind := by
  unfold decideRefusal
  split
  · exact avoids_bind (avoids_call (htrace _)) fun _ => trivial
  · exact avoids_bind (avoids_call (htrace _)) fun _ => trivial
  · trivial

theorem avoids_cacheAuthorization {toolName toolCallId : String} {resolved : ResolvedCall}
    {auth : VerifyCapabilityResult} {pinnedDigest : Option String}
    (hkind : ∀ op, Caches op → ¬kind op) :
    (cacheAuthorization toolName toolCallId resolved auth pinnedDigest).Avoids kind :=
  avoids_bind (avoids_call (hkind _ trivial)) fun _ =>
    avoids_bind (avoids_call (hkind _ trivial)) fun _ =>
      avoids_bind (avoids_call (hkind _ trivial)) fun _ => avoids_call (hkind _ trivial)

theorem avoids_resolveToolExternalAttestations {entry : PaybondSideEffectingToolEntry}
    {toolResult : PyValue} {ctx : PaybondToolCallContext}
    (hmap : ∀ mapper, ¬kind (.host (.mapExternalAttestations mapper toolResult ctx))) :
    (resolveToolExternalAttestations entry toolResult ctx).Avoids kind := by
  unfold resolveToolExternalAttestations
  split
  · trivial
  · refine avoids_tryExcept (avoids_call (hmap _)) fun exception => ?_
    split <;> trivial

theorem avoids_submitEvidence {entry : PaybondSideEffectingToolEntry}
    {ctx : PaybondToolCallContext} {cents : Option Int} {auth : VerifyCapabilityResult}
    {payload : PyValue} (hkind : ∀ op, Submits op → ¬kind op) :
    (submitEvidence platform binding entry ctx cents auth payload).Avoids kind := by
  unfold submitEvidence
  dsimp only
  split
  · exact avoids_bind (avoids_call (hkind _ trivial)) fun _ => trivial
  · split
    · trivial
    · exact avoids_bind (avoids_call (hkind _ trivial)) fun _ =>
        avoids_bind (avoids_call (hkind _ trivial)) fun _ => trivial

theorem avoids_submitAutoEvidence {entry : PaybondSideEffectingToolEntry}
    {ctx : PaybondToolCallContext} {cents : Option Int} {toolResult : PyValue}
    {auth : VerifyCapabilityResult}
    (hbuild : ¬kind (.host (.buildEvidencePayload entry toolResult ctx)))
    (hsubmit : ∀ payload,
      (submitEvidence platform binding entry ctx cents auth payload).Avoids kind) :
    (submitAutoEvidence platform binding entry ctx cents toolResult auth).Avoids kind := by
  refine avoids_bind (avoids_tryExcept (avoids_call hbuild) fun exception => ?_) fun payload =>
    avoids_tryExcept (hsubmit payload) fun exception => ?_
  · split <;> trivial
  · split
    · trivial
    · split <;> trivial

theorem avoids_reportExecution {toolName toolCallId : String} {input : ToolCallInput}
    {resolved : ResolvedCall} {authorized : AuthorizedCall} {startedAtMs : ℕ}
    {toolResult : PyValue} (hsubmits : ∀ op, Submits op → ¬kind op)
    (hmap : ∀ mapper ctx, ¬kind (.host (.mapExternalAttestations mapper toolResult ctx)))
    (htrace : ∀ event, ¬kind (.host (.emitTrace event))) (htime : ¬kind (.access .timeMs)) :
    (reportExecution platform binding toolName toolCallId input resolved authorized startedAtMs
      toolResult).Avoids kind := by
  refine avoids_bind (avoids_resolveToolExternalAttestations fun _ => hmap _ _) fun _ => ?_
  refine avoids_bind (avoids_submitAutoEvidence (hsubmits _ trivial) fun _ =>
    avoids_submitEvidence hsubmits) fun _ => ?_
  refine avoids_bind (avoids_call (htrace _)) fun _ => ?_
  exact avoids_bind (avoids_buildReceiptDraft htime) fun _ => trivial

end Parts

/-! ## What is idle -/

/-- The operation asks Harbor, takes an earlier answer, or submits evidence. -/
def Vital : Op → Prop
  | .host (.verifyCapability _) | .access (.takeValidCachedAuthorization _ _)
  | .host (.submitEvidence _ _ _) | .host (.submitSandboxEvidence _ _ _ _ _ _) => True
  | _ => False

/-- The routine performs nothing vital. -/
abbrev Idle {α : Type} (program : Routine α) : Prop := program.Avoids Vital

/-- A handler does nothing vital. -/
theorem Handles.not_vital {op : Op} (hop : Handles op) : ¬Vital op := by
  unfold Vital
  split
  all_goals first | exact hop.elim | exact id

section Routines

variable {binding : PaybondRunBinding}

theorem idle_access {op : Access} (hop : ¬Vital (.access op)) : Idle (access op) :=
  avoids_call hop

theorem idle_host {call : HostCall} (hcall : ¬Vital (.host call)) : Idle (host call) :=
  avoids_call hcall

theorem idle_requireToolCall (input : ToolCallInput) : Idle (requireToolCall input) :=
  avoids_requireToolCall input

theorem idle_resolveSideEffectingCall (toolName toolCallId : String) (input : ToolCallInput)
    (entry : PaybondSideEffectingToolEntry) (operation : String) :
    Idle (resolveSideEffectingCall binding toolName toolCallId input entry operation) := by
  refine avoids_resolveSideEffectingCall fun op hop => ?_
  unfold Vital
  split
  all_goals first | exact hop.elim | exact id

theorem idle_decideRefusal (toolCallId operation : String) (exception : PyExc) :
    Idle (decideRefusal binding toolCallId operation exception) :=
  avoids_decideRefusal fun _ => id

theorem idle_cacheAuthorization (toolName toolCallId : String) (resolved : ResolvedCall)
    (auth : VerifyCapabilityResult) (pinnedDigest : Option String) :
    Idle (cacheAuthorization toolName toolCallId resolved auth pinnedDigest) := by
  refine avoids_cacheAuthorization fun op hop => ?_
  unfold Vital
  split
  all_goals first | exact hop.elim | exact id

theorem idle_maybeAwait (invocation : Invocation) : Idle (maybeAwait invocation) :=
  avoids_maybeAwait id id

theorem idle_executeAndFinalize (toolName toolCallId : String) (resolved : ResolvedCall)
    (decisionId : Option String) (startedAt : ℕ) :
    Idle (executeAndFinalize binding toolName toolCallId resolved decisionId startedAt) :=
  avoids_executeAndFinalize fun _ hop => hop.not_vital

theorem idle_resolveToolExternalAttestations (entry : PaybondSideEffectingToolEntry)
    (toolResult : PyValue) (ctx : PaybondToolCallContext) :
    Idle (resolveToolExternalAttestations entry toolResult ctx) :=
  avoids_resolveToolExternalAttestations fun _ => id

theorem idle_buildReceiptDraft {platform : Platform} (receipt : ReceiptInput) :
    Idle (buildReceiptDraft platform binding receipt) :=
  avoids_buildReceiptDraft id

end Routines

end PaybondKit.Agent
