import PaybondKit.Receipt.DraftMissing

/-!
# What an execution is told apart by

The evidence of an execution is submitted under a key, and its receipt has an identifier. Both are
made of the intent and of the tool call, and neither of the operation.
-/

namespace PaybondKit.Receipt

open Coroutine Agent

/-! ## Keys and identifiers -/

/-- The idempotency key under which evidence is submitted. -/
def submissionKey? : Op → Option String
  | .host (.submitSandboxEvidence _ _ _ _ _ idempotencyKey)
  | .host (.submitEvidence _ _ idempotencyKey) => some idempotencyKey
  | _ => none

def submissionKeys (past : List (Exchange Val PyExc)) : List String :=
  past.filterMap fun exchange => submissionKey? exchange.op

/-- The operation that an execution was resolved to, as it is traced. -/
def selectedOperation? : Op → Option String
  | .host (.emitTrace (.toolSelected _ _ _ operation)) => some operation
  | _ => none

/-- The operation submits evidence under another key. -/
def SubmitsBut (idempotencyKey : String) (op : Op) : Prop :=
  ∃ other, submissionKey? op = some other ∧ other ≠ idempotencyKey

section Keys

variable {platform : Agent.Platform} {binding : PaybondRunBinding} {key : String}

theorem vital_of_submitsBut {op : Op} (hop : SubmitsBut key op) : Vital op := by
  obtain ⟨other, hkey, -⟩ := hop
  unfold submissionKey? at hkey
  split at hkey
  · trivial
  · trivial
  · cases hkey

theorem not_submitsBut_of_obtains {op : Op} (hop : Obtains op) : ¬SubmitsBut key op := by
  rintro ⟨other, hkey, -⟩
  unfold submissionKey? at hkey
  split at hkey
  · exact hop
  · exact hop
  · cases hkey

theorem avoids_of_idle {α : Type} {program : Routine α} (hidle : Idle program) :
    program.Avoids (SubmitsBut key) :=
  hidle.mono fun _ => vital_of_submitsBut

theorem avoids_host {call : HostCall} (hcall : ∀ other, submissionKey? (.host call) = some other →
    other = key) : (host call).Avoids (SubmitsBut key) :=
  avoids_call fun ⟨other, hkey, hne⟩ => hne (hcall other hkey)

theorem avoids_access (op : Access) : (access op).Avoids (SubmitsBut key) :=
  avoids_call fun ⟨_, hkey, _⟩ => nomatch hkey

theorem avoids_submitEvidence_others {entry : PaybondSideEffectingToolEntry}
    {ctx : PaybondToolCallContext} {cents : Option Int} {auth : VerifyCapabilityResult}
    {payload : PyValue} :
    (submitEvidence platform binding entry ctx cents auth payload).Avoids
      (SubmitsBut (evidenceIdempotencyKey binding ctx.toolCallId)) := by
  unfold submitEvidence
  dsimp only
  split
  · refine avoids_bind (avoids_host fun other hkey => ?_) fun _ => trivial
    exact (Option.some.inj hkey).symm
  · split
    · trivial
    · refine avoids_bind (avoids_host fun _ hkey => nomatch hkey) fun _ => ?_
      refine avoids_bind (avoids_host fun other hkey => ?_) fun _ => trivial
      exact (Option.some.inj hkey).symm

theorem avoids_wrapSideEffecting {toolName toolCallId : String} {input : ToolCallInput}
    {entry : PaybondSideEffectingToolEntry} {operation : String} {pinnedDigest : Option String} :
    (wrapSideEffecting platform binding toolName toolCallId input entry operation
      pinnedDigest).Avoids (SubmitsBut (evidenceIdempotencyKey binding toolCallId)) := by
  refine avoids_bind (avoids_of_idle (idle_resolveSideEffectingCall _ _ _ _ _)) fun resolved => ?_
  refine avoids_bind (avoids_host fun _ hkey => nomatch hkey) fun _ => ?_
  refine avoids_bind (avoids_obtainAuthorization fun _ => not_submitsBut_of_obtains)
    fun authorized => ?_
  refine avoids_bind (avoids_access _) fun _ => avoids_bind (avoids_access _) fun _ => ?_
  refine avoids_bind (avoids_of_idle (idle_executeAndFinalize _ _ _ _ _)) fun toolResult => ?_
  refine avoids_bind (avoids_of_idle (idle_resolveToolExternalAttestations _ _ _)) fun _ => ?_
  refine avoids_bind (avoids_submitAutoEvidence (fun ⟨_, hkey, _⟩ => nomatch hkey) fun _ =>
    @avoids_submitEvidence_others _ _ _
      ⟨toolName, toolCallId, resolved.operation, input.arguments⟩ _ _ _) fun _ => ?_
  refine avoids_bind (avoids_host fun _ hkey => nomatch hkey) fun _ => ?_
  exact avoids_bind (avoids_of_idle (idle_buildReceiptDraft _)) fun _ => trivial

/-- An execution submits evidence under the key of its tool call alone. -/
theorem avoids_wrapExecute {input : ToolCallInput} :
    (wrapExecute platform binding input).Avoids
      (SubmitsBut (evidenceIdempotencyKey binding (pyStrip input.toolCallId))) := by
  refine avoids_bind (avoids_of_idle (idle_requireToolCall input)) fun _ => ?_
  refine avoids_bind (avoids_access _) fun pinnedDigest => ?_
  refine avoids_tryFinally ?_ (avoids_access _)
  refine avoids_bind (avoids_access _) fun registry => ?_
  split
  · exact avoids_bind (avoids_of_idle (idle_maybeAwait _)) fun _ => trivial
  · trivial
  · exact avoids_wrapSideEffecting

end Keys

/-! ## Executions on one intent -/

section Executions

variable {platform : Agent.Platform} {binding : PaybondRunBinding} {input : ToolCallInput}
  {past : List (Exchange Val PyExc)} {result : PaybondInterceptWrapExecuteResult}

theorem submissionKeys_eq {outcome : Except PyExc PaybondInterceptWrapExecuteResult}
    (hends : (wrapExecute platform binding input).Ends past outcome) :
    ∀ key ∈ submissionKeys past,
      key = evidenceIdempotencyKey binding (pyStrip input.toolCallId) := by
  let other (exchange : Exchange Val PyExc) : Option String :=
    (submissionKey? exchange.op).filter fun key =>
      key ≠ evidenceIdempotencyKey binding (pyStrip input.toolCallId)
  have hother : past.filterMap other = [] := by
    refine hends.filterMap_eq_nil avoids_wrapExecute fun exchange hsame => ?_
    refine Option.filter_eq_none_iff.mpr fun key hkey => ?_
    simp only [decide_eq_true_eq, not_not]
    exact not_not.mp fun hne => hsame ⟨key, hkey, hne⟩
  intro key hkey
  obtain ⟨exchange, hexchange, hsubmits⟩ := List.mem_filterMap.mp hkey
  have hnone : other exchange = none := List.filterMap_eq_nil_iff.mp hother exchange hexchange
  rw [show other exchange = (submissionKey? exchange.op).filter _ from rfl, hsubmits] at hnone
  simpa [Option.filter] using hnone

/-- Only an authorized execution has a draft. -/
theorem authorized_of_receiptDraft
    (hends : (wrapExecute platform binding input).Ends past (.ok result)) {draft : AgentReceiptDraft} (hdraft : result.receiptDraft = some draft) :
    ∃ authorization, result.authorization = some authorization := by
  obtain ⟨_, _, _, -, _, hrest⟩ := returns_bind.mp hends
  obtain ⟨pinnedDigest, _, _, -, _, hrest⟩ := returns_bind.mp hrest
  obtain ⟨_, _, -, hbody, _⟩ := returns_tryFinally.mp hrest
  obtain ⟨registry, _, _, -, _, hrunning⟩ := returns_bind.mp hbody
  split at hrunning
  · obtain ⟨toolResult, _, _, -, -, hreturned⟩ := returns_bind.mp hrunning
    obtain ⟨-, hok⟩ := ends_ret.mp hreturned
    obtain rfl := Except.ok.inj hok
    cases hdraft
  · cases (ends_raise.mp hrunning).2
  · obtain ⟨resolved, _, _, -, _, hrest⟩ := returns_bind.mp hrunning
    obtain ⟨_, _, _, -, _, hrest⟩ := returns_bind.mp hrest
    obtain ⟨authorized, _, _, -, _, hrest⟩ := returns_bind.mp hrest
    obtain ⟨_, _, _, -, _, hrest⟩ := returns_bind.mp hrest
    obtain ⟨_, _, _, -, _, hrest⟩ := returns_bind.mp hrest
    obtain ⟨toolResult, _, _, -, _, hreporting⟩ := returns_bind.mp hrest
    obtain ⟨_, _, _, -, hauthorization, -⟩ := reported_of_returns hreporting
    exact ⟨_, hauthorization⟩

/-- A draft is identified by the intent and the tool call. -/
theorem receiptId_eq (hends : (wrapExecute platform binding input).Ends past (.ok result))
    {draft : AgentReceiptDraft} (hdraft : result.receiptDraft = some draft) :
    draft.receiptId = platform.actionReceiptId binding.intentId (pyStrip input.toolCallId) := by
  obtain ⟨authorization, hauthorization⟩ := authorized_of_receiptDraft hends hdraft
  obtain ⟨call, evidence, receipt, drafting, -, -, -, hdescribes, hdrafting⟩ :=
    describes_of_returns hends hauthorization
  rw [← hdescribes.toolCallId]
  rw [hdraft] at hdrafting
  unfold buildReceiptDraft at hdrafting
  split at hdrafting
  · cases (ends_ret.mp hdrafting).2
  · split at hdrafting
    · cases (ends_ret.mp hdrafting).2
    · obtain ⟨completedAtMs, _, _, -, -, hreturned⟩ := returns_bind.mp hdrafting
      obtain ⟨-, hok⟩ := ends_ret.mp hreturned
      have hcomposed := except_mem_toOption.mp (Except.ok.inj hok).symm
      obtain ⟨digest, -, hcomposed⟩ := except_bind_eq_ok.mp hcomposed
      obtain ⟨messageDigest, -, hcomposed⟩ := except_bind_eq_ok.mp hcomposed
      rw [← except_pure_eq_ok.mp hcomposed]

end Executions

section Apart

variable {platform : Platform} {surroundings : Agent.Platform}
  {binding binding' : PaybondRunBinding} {input input' : ToolCallInput}
  {past past' : List (Exchange Val PyExc)}
  {outcome outcome' : Except PyExc PaybondInterceptWrapExecuteResult}

theorem evidenceIdempotencyKey_inj {toolCallId toolCallId' : String}
    (hintent : binding.intentId = binding'.intentId) :
    evidenceIdempotencyKey binding toolCallId = evidenceIdempotencyKey binding' toolCallId' ↔
      toolCallId = toolCallId' := by
  constructor
  · intro hsame
    unfold evidenceIdempotencyKey at hsame
    rw [hintent, ← String.toList_inj] at hsame
    exact String.toList_inj.mp (by simpa [toString, String.toList_append] using hsame)
  · rintro rfl
    rw [evidenceIdempotencyKey, evidenceIdempotencyKey, hintent]

/-- What the identifier of a receipt is the digest of. -/
def receiptIdBytes (intentId toolCallId : String) : ByteArray :=
  s!"{intentId}\x00{toolCallId}".toUTF8

theorem actionReceiptId_inj {intentId toolCallId toolCallId' : String}
    (hfree : Set.InjOn platform.sha256Hex
      {receiptIdBytes intentId toolCallId, receiptIdBytes intentId toolCallId'}) :
    actionReceiptId platform intentId toolCallId = actionReceiptId platform intentId toolCallId' ↔
      toolCallId = toolCallId' := by
  constructor
  · intro hsame
    have hbytes : receiptIdBytes intentId toolCallId = receiptIdBytes intentId toolCallId' :=
      hfree (Set.mem_insert _ _) (Set.mem_insert_of_mem _ rfl) hsame
    have htext := String.toByteArray_inj.mp hbytes
    rw [← String.toList_inj] at htext
    exact String.toList_inj.mp (by simpa [toString, String.toList_append] using htext)
  · rintro rfl
    rfl

/-- On one intent, two executions submit evidence under different keys and have drafts of
different identifiers just if they are of different tool calls. -/
theorem identities_ne_iff (hintent : binding.intentId = binding'.intentId)
    (hends : (wrapExecute (drafting platform surroundings) binding input).Ends past outcome)
    (hends' : (wrapExecute (drafting platform surroundings) binding' input').Ends past' outcome')
    (hfree : Set.InjOn platform.sha256Hex
      {receiptIdBytes binding.intentId (pyStrip input.toolCallId),
        receiptIdBytes binding.intentId (pyStrip input'.toolCallId)}) :
    (∀ key ∈ submissionKeys past, ∀ key' ∈ submissionKeys past',
      key ≠ key' ↔ pyStrip input.toolCallId ≠ pyStrip input'.toolCallId) ∧
    ∀ result result' draft draft', outcome = .ok result → outcome' = .ok result' →
      result.receiptDraft = some draft → result'.receiptDraft = some draft' →
      (draft.receiptId ≠ draft'.receiptId ↔
        pyStrip input.toolCallId ≠ pyStrip input'.toolCallId) := by
  constructor
  · intro key hkey key' hkey'
    rw [submissionKeys_eq hends key hkey, submissionKeys_eq hends' key' hkey',
      ne_eq, evidenceIdempotencyKey_inj hintent]
  · rintro result result' draft draft' rfl rfl hdraft hdraft'
    have hid : draft.receiptId =
        actionReceiptId platform binding.intentId (pyStrip input.toolCallId) :=
      receiptId_eq hends hdraft
    have hid' : draft'.receiptId =
        actionReceiptId platform binding'.intentId (pyStrip input'.toolCallId) :=
      receiptId_eq hends' hdraft'
    rw [hid, hid', ← hintent, ne_eq, actionReceiptId_inj hfree]

end Apart

/-! ## Two operations under one tool call -/

def bindingTwo : PaybondRunBinding :=
  { bindingDrafted with allowedTools := ["travel.book_hotel", "travel.book_flight"] }

/-- The tool call books under the given operation. -/
def bookUnder (toolCallId operation : String) : ToolCallInput :=
  { bookFrom "hotel-1" with toolCallId, operation := some operation }

def dialogueTwo (toolCallId operation : String) :
    Option (List (Exchange Val PyExc) × Except PyExc PaybondInterceptWrapExecuteResult) :=
  (wrapExecute (drafting platformDrafted surroundingsBooked) bindingTwo
    (bookUnder toolCallId operation)).dialogue answersBooked

/-- The execution is of the operation, and submits evidence under the key. -/
def Executes (toolCallId operation key : String) : Prop :=
  ((dialogueTwo toolCallId operation).any fun (past, outcome) =>
    past.filterMap (fun exchange => selectedOperation? exchange.op) = [operation] ∧
      submissionKeys past = [key] ∧ outcome.toOption.isSome = true) = true

theorem exists_of_executes {toolCallId operation key : String}
    (hexecutes : Executes toolCallId operation key) :
    ∃ past result, (wrapExecute (drafting platformDrafted surroundingsBooked) bindingTwo
        (bookUnder toolCallId operation)).Ends past (.ok result) ∧
      past.filterMap (fun exchange => selectedOperation? exchange.op) = [operation] ∧
      submissionKeys past = [key] := by
  obtain ⟨⟨past, outcome⟩, hdialogue, hpast⟩ := (Option.any_eq_true _ _).mp hexecutes
  obtain ⟨hoperation, hkeys, hreturned⟩ := of_decide_eq_true hpast
  obtain ⟨result, hresult⟩ := Option.isSome_iff_exists.mp hreturned
  obtain rfl := except_mem_toOption.mp hresult
  exact ⟨past, result, ends_of_dialogue hdialogue, hoperation, hkeys⟩

/-- One call books the hotel and another the flight. -/
theorem identities_ne_iff_two :
    ∃ past past' outcome outcome',
      (wrapExecute (drafting platformDrafted surroundingsBooked) bindingTwo
        (bookUnder "call-1" "travel.book_hotel")).Ends past outcome ∧
      (wrapExecute (drafting platformDrafted surroundingsBooked) bindingTwo
        (bookUnder "call-2" "travel.book_flight")).Ends past' outcome' ∧
      ∃ key ∈ submissionKeys past, ∃ key' ∈ submissionKeys past', key ≠ key' := by
  have hexecutes : Executes "call-1" "travel.book_hotel"
      "evidence:550e8400-e29b-41d4-a716-446655440000:call-1" := by
    unfold Executes
    decide +kernel
  have hexecutes' : Executes "call-2" "travel.book_flight"
      "evidence:550e8400-e29b-41d4-a716-446655440000:call-2" := by
    unfold Executes
    decide +kernel
  obtain ⟨past, result, hends, -, hkeys⟩ := exists_of_executes hexecutes
  obtain ⟨past', result', hends', -, hkeys'⟩ := exists_of_executes hexecutes'
  have hfree : Set.InjOn platformDrafted.sha256Hex
      {receiptIdBytes bindingTwo.intentId (pyStrip (bookUnder "call-1" "").toolCallId),
        receiptIdBytes bindingTwo.intentId (pyStrip (bookUnder "call-2" "").toolCallId)} := by
    rw [Set.injOn_pair]
    intro hsame
    exact absurd hsame (by decide +kernel)
  have hcalls := (identities_ne_iff rfl hends hends' hfree).1
  refine ⟨past, past', _, _, hends, hends', _, by rw [hkeys]; exact List.mem_cons_self, _,
    by rw [hkeys']; exact List.mem_cons_self, ?_⟩
  refine (hcalls _ (by rw [hkeys]; exact List.mem_cons_self) _
    (by rw [hkeys']; exact List.mem_cons_self)).mpr ?_
  decide +kernel

/-- The bookings of a hotel and of a flight under one tool call share the key of their evidence
and the identifier of their receipts. -/
theorem identities_shared :
    ∃ past past' result result',
      (wrapExecute (drafting platformDrafted surroundingsBooked) bindingTwo
        (bookUnder "call-1" "travel.book_hotel")).Ends past (.ok result) ∧
      (wrapExecute (drafting platformDrafted surroundingsBooked) bindingTwo
        (bookUnder "call-1" "travel.book_flight")).Ends past' (.ok result') ∧
      past.filterMap (fun exchange => selectedOperation? exchange.op) = ["travel.book_hotel"] ∧
      past'.filterMap (fun exchange => selectedOperation? exchange.op) = ["travel.book_flight"] ∧
      submissionKeys past = submissionKeys past' ∧ submissionKeys past ≠ [] ∧
      ∀ draft draft', result.receiptDraft = some draft → result'.receiptDraft = some draft' →
        draft.receiptId = draft'.receiptId := by
  have hexecutes : Executes "call-1" "travel.book_hotel"
      "evidence:550e8400-e29b-41d4-a716-446655440000:call-1" := by
    unfold Executes
    decide +kernel
  have hexecutes' : Executes "call-1" "travel.book_flight"
      "evidence:550e8400-e29b-41d4-a716-446655440000:call-1" := by
    unfold Executes
    decide +kernel
  obtain ⟨past, result, hends, hoperation, hkeys⟩ := exists_of_executes hexecutes
  obtain ⟨past', result', hends', hoperation', hkeys'⟩ := exists_of_executes hexecutes'
  refine ⟨past, past', result, result', hends, hends', hoperation, hoperation', ?_, ?_, ?_⟩
  · rw [hkeys, hkeys']
  · rw [hkeys]
    exact List.cons_ne_nil _ _
  · intro draft draft' hdraft hdraft'
    rw [receiptId_eq hends hdraft, receiptId_eq hends' hdraft']
    rfl

end PaybondKit.Receipt
