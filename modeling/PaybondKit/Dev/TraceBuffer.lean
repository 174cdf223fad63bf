import Mathlib.Algebra.Group.Nat.Defs
import PaybondKit.Agent.Types

/-!
# The steps of a trace

One loop turns the events of a run into the steps that the dashboard shows. It keeps a single
authorized ceiling for all tool calls of the run, so a settlement shows the ceiling of its own call
only where no other call has been authorized since, or for the same amount.
-/

namespace PaybondKit.Dev

open Agent (PyExc TraceEvent SpendOutcome)

/-- A trace event with the stamp of `_emit_trace`. -/
structure DevTraceEvent where
  event : TraceEvent
  recordedAt : Option String

def DevTraceEvent.toolCallId (event : DevTraceEvent) : String :=
  match event.event with
  | .toolSelected _ _ toolCallId _ | .approvalRequired _ toolCallId _ _ _ _
  | .spendDenied _ toolCallId _ _ _ _ | .spendAuthorized _ toolCallId _ _ _ _
  | .toolExecuted _ toolCallId _ _ | .spendFinalized _ toolCallId _ _
  | .evidenceSubmitted _ toolCallId _ _ _ _ _ _ _ => toolCallId

/-! ## Amounts as text -/

section Amounts

/-- The nearest integer to a quotient, and the even one of two. -/
def roundHalfEven (numerator denominator : ℕ) : ℕ :=
  let low := numerator / denominator
  let rest := numerator % denominator
  if denominator < 2 * rest ∨ (denominator = 2 * rest ∧ low % 2 = 1) then low + 1 else low

/-- `f"{cents / 100:.2f}"`. The quotient is the nearest double, here in units of `2 ^ -60`. -/
def dollars (cents : ℤ) : Except PyExc String :=
  let n := cents.natAbs
  let drop := Nat.log2 (n * 2 ^ 60 / 100) - 52
  let double := roundHalfEven (n * 2 ^ 60) (100 * 2 ^ drop) * 2 ^ drop
  if 2 ^ (1024 + 60) ≤ double then
    .error (.other "OverflowError" "integer division result too large for a float")
  else
    let hundredths := roundHalfEven (double * 100) (2 ^ 60)
    let sign := if cents < 0 then "-" else ""
    .ok (s!"{sign}{hundredths / 100}." ++
      String.ofList [Nat.digitChar (hundredths / 10 % 10), Nat.digitChar (hundredths % 10)])

/-- A comma after every three digits, the last digit first. -/
def groupDigits : List Char → List Char
  | a :: b :: c :: d :: rest => a :: b :: c :: ',' :: groupDigits (d :: rest)
  | digits => digits

/-- `f"{cents:,}"`. -/
def grouped (cents : ℤ) : String :=
  (if cents < 0 then "-" else "") ++
    String.ofList (groupDigits cents.natAbs.repr.toList.reverse).reverse

example : (dollars (-1234567)).toOption = some "-12345.67" ∧ grouped (-123456) = "-123,456" := by
  decide +kernel

end Amounts

/-! ## Steps -/

inductive DevTraceStepPhase where
  | agent
  | tool
  | authorize
  | evidence
  | result
  deriving DecidableEq, Repr

structure SettlementDetail where
  sandboxLifecycleStatus : String
  authorizedAmountCents : Option ℤ
  capturedReleasedAmountCents : Option ℤ
  unusedAuthorizationCents : Option ℤ
  deriving DecidableEq, Repr

inductive DevTraceDetail where
  | toolCall (operation toolCallId : String)
  | authorized (auditId : String) (decisionId : Option String) (amountCents : ℤ)
  | refused (auditId code : Option String)
  | executed (durationMs : ℕ)
  | evidence (evidencePreset : String) (reportedCostCents : Option ℤ)
      (sandboxLifecycleStatus : Option String) (predicatePassed : Option Bool)
  | settlement (detail : SettlementDetail)
  | finalized (status : SpendOutcome)
  deriving DecidableEq, Repr

structure DevTraceStep where
  phase : DevTraceStepPhase
  label : String
  recordedAt : String
  detail : DevTraceDetail
  deriving DecidableEq, Repr

section Steps

/-- The label of the evidence step. -/
def evidenceLabel (reportedCostCents : Option ℤ) (predicatePassed : Option Bool) :
    Except PyExc String :=
  match reportedCostCents with
  | some cost => do
      let outcome := if predicatePassed = some false then "predicate failed"
        else "predicate evaluated"
      let amount ← dollars cost
      return s!"Evidence submitted (reported cost ${amount} ({grouped cost} cents); {outcome})"
  | none => .ok (if predicatePassed = some false then "Evidence submitted (predicate failed)"
      else "Evidence submitted")

/-- What a settlement captures of a ceiling. -/
def capturedCents (authorizedCeilingCents reportedCostCents : Option ℤ)
    (predicatePassed : Option Bool) : Option ℤ :=
  match authorizedCeilingCents with
  | none => none
  | some ceiling =>
      if predicatePassed = some false then some 0 else reportedCostCents.map (min · ceiling)

def settlementDetail (authorizedCeilingCents reportedCostCents : Option ℤ)
    (predicatePassed : Option Bool) (lifecycleStatus : String) : SettlementDetail :=
  let captured := capturedCents authorizedCeilingCents reportedCostCents predicatePassed
  { sandboxLifecycleStatus := lifecycleStatus
    authorizedAmountCents := authorizedCeilingCents
    capturedReleasedAmountCents := captured
    unusedAuthorizationCents :=
      match authorizedCeilingCents, captured with
      | some ceiling, some captured => some (ceiling - captured)
      | _, _ => none }

def settlementLabel (detail : SettlementDetail) : Except PyExc String :=
  match detail.capturedReleasedAmountCents, detail.unusedAuthorizationCents with
  | some captured, some unused => do
      let capturedText ← dollars captured
      let unusedText ← dollars unused
      return s!"Settlement: {detail.sandboxLifecycleStatus} — captured " ++
        s!"${capturedText} ({grouped captured} cents); unused " ++
        s!"${unusedText} ({grouped unused} cents) released"
  | _, _ => .ok s!"Settlement: {detail.sandboxLifecycleStatus}"

/-- The loop body: the steps of one event, and the ceiling that the next event finds. -/
def devTraceStep (firstAt : String) (authorizedCeilingCents : Option ℤ) (event : DevTraceEvent) :
    Except PyExc (List DevTraceStep × Option ℤ) :=
  let recordedAt := (truthyStr event.recordedAt).getD firstAt
  match event.event with
  | .toolSelected _ toolName toolCallId operation =>
      .ok ([⟨.tool, s!"Tool call: {toolName}", recordedAt, .toolCall operation toolCallId⟩],
        authorizedCeilingCents)
  | .spendAuthorized _ _ _ auditId decisionId amountCents => do
      let amountCents := amountCents.getD 0
      let amount ← dollars amountCents
      return ([⟨.authorize,
        s!"Paybond authorized up to ${amount} ({grouped amountCents} cents)", recordedAt,
        .authorized auditId decisionId amountCents⟩], some amountCents)
  | .spendDenied _ _ _ message auditId code =>
      .ok ([⟨.authorize, s!"Spend denied: {message}", recordedAt, .refused auditId code⟩],
        authorizedCeilingCents)
  | .approvalRequired _ _ _ message auditId code =>
      .ok ([⟨.authorize, s!"Approval required: {message}", recordedAt, .refused auditId code⟩],
        authorizedCeilingCents)
  | .toolExecuted _ _ _ durationMs =>
      .ok ([⟨.result, s!"Tool executed ({durationMs}ms)", recordedAt, .executed durationMs⟩],
        authorizedCeilingCents)
  | .evidenceSubmitted _ _ _ _ evidencePreset reportedCostCents status predicatePassed _ => do
      let label ← evidenceLabel reportedCostCents predicatePassed
      let evidence : DevTraceStep := ⟨.evidence, label, recordedAt,
        .evidence evidencePreset reportedCostCents status predicatePassed⟩
      match truthyStr status with
      | none => return ([evidence], authorizedCeilingCents)
      | some lifecycleStatus =>
          let detail := settlementDetail authorizedCeilingCents reportedCostCents predicatePassed
            lifecycleStatus
          let label ← settlementLabel detail
          return ([evidence, ⟨.result, label, recordedAt, .settlement detail⟩],
            authorizedCeilingCents)
  | .spendFinalized _ _ _ .consumed =>
      .ok ([⟨.result, "Spend authorization consumed", recordedAt, .finalized .consumed⟩],
        authorizedCeilingCents)
  | .spendFinalized _ _ _ .released => .ok ([], authorizedCeilingCents)

/-- The loop, with the steps so far. -/
def devTraceLoop (firstAt : String) (steps : List DevTraceStep)
    (authorizedCeilingCents : Option ℤ) : List DevTraceEvent → Except PyExc (List DevTraceStep)
  | [] => .ok steps
  | event :: events => do
      let (more, ceiling) ← devTraceStep firstAt authorizedCeilingCents event
      devTraceLoop firstAt (steps ++ more) ceiling events

/-- `dev_trace_steps_from_events`, with what the clock says. -/
def devTraceStepsFromEvents (now : String) (events : List DevTraceEvent) :
    Except PyExc (List DevTraceStep) :=
  match events with
  | [] => .error (.other "IndexError" "list index out of range")
  | first :: _ => devTraceLoop ((truthyStr first.recordedAt).getD now) [] none events

end Steps

/-! ## Settlements -/

section Settlements

/-- Evidence that comes with a lifecycle status and so is followed by a settlement step. -/
structure SettlingEvidence where
  toolCallId : String
  reportedCostCents : Option ℤ
  predicatePassed : Option Bool
  lifecycleStatus : String

def settling? (event : DevTraceEvent) : Option SettlingEvidence :=
  match event.event with
  | .evidenceSubmitted _ toolCallId _ _ _ reportedCostCents status predicatePassed _ =>
      (truthyStr status).map fun lifecycleStatus =>
        ⟨toolCallId, reportedCostCents, predicatePassed, lifecycleStatus⟩
  | _ => none

/-- The settling evidence of a trace, each with the events before it. -/
def settledFrom (past : List DevTraceEvent) :
    List DevTraceEvent → List (List DevTraceEvent × SettlingEvidence)
  | [] => []
  | event :: events =>
      ((settling? event).map (past, ·)).toList ++ settledFrom (past ++ [event]) events

def settled (events : List DevTraceEvent) : List (List DevTraceEvent × SettlingEvidence) :=
  settledFrom [] events

/-- The amount that an event authorizes. -/
def authorizedAmount? (event : DevTraceEvent) : Option ℤ :=
  match event.event with
  | .spendAuthorized _ _ _ _ _ amountCents => some (amountCents.getD 0)
  | _ => none

/-- The amount that was authorized last. -/
def lastAuthorized (past : List DevTraceEvent) : Option ℤ :=
  (past.filterMap authorizedAmount?).getLast?

/-- The events of one tool call. -/
def ofCall (toolCallId : String) (past : List DevTraceEvent) : List DevTraceEvent :=
  past.filter fun event => event.toolCallId = toolCallId

/-- The settlement that a step shows. -/
def DevTraceStep.settlement? (step : DevTraceStep) : Option SettlementDetail :=
  match step.detail with
  | .settlement detail => some detail
  | _ => none

def settlementOf (past : List DevTraceEvent) (evidence : SettlingEvidence) : SettlementDetail :=
  settlementDetail (lastAuthorized past) evidence.reportedCostCents evidence.predicatePassed
    evidence.lifecycleStatus

variable {firstAt now : String} {ceiling next : Option ℤ} {event : DevTraceEvent}
variable {steps more result : List DevTraceStep} {past events later : List DevTraceEvent}
variable {evidence : SettlingEvidence}

theorem lastAuthorized_snoc :
    lastAuthorized (past ++ [event]) = (authorizedAmount? event).or (lastAuthorized past) := by
  cases hamount : authorizedAmount? event with
  | none => simp [lastAuthorized, List.filterMap_append, hamount]
  | some amount => simp [lastAuthorized, List.filterMap_append, hamount]

theorem mem_settledFrom_iff : (past, evidence) ∈ settledFrom later events ↔
    ∃ first event second, events = first ++ event :: second ∧ past = later ++ first ∧
      settling? event = some evidence := by
  induction events generalizing later with
  | nil => simp [settledFrom]
  | cons head rest ih =>
      rw [settledFrom, List.mem_append, ih]
      constructor
      · rintro (hhead | ⟨first, event, second, rfl, rfl, hsettling⟩)
        · rw [Option.mem_toList, Option.map_eq_some_iff] at hhead
          obtain ⟨evidence, hsettling, heq⟩ := hhead
          cases heq
          exact ⟨[], head, rest, rfl, by simp, hsettling⟩
        · exact ⟨head :: first, event, second, rfl, by simp, hsettling⟩
      · rintro ⟨first, event, second, hsplit, rfl, hsettling⟩
        cases first with
        | nil =>
            obtain ⟨rfl, rfl⟩ := List.cons.inj hsplit
            simp [hsettling]
        | cons _ first =>
            obtain ⟨rfl, rfl⟩ := List.cons.inj hsplit
            exact .inr ⟨first, event, second, rfl, by simp, hsettling⟩

theorem mem_settled_iff : (past, evidence) ∈ settled events ↔
    ∃ event later, events = past ++ event :: later ∧ settling? event = some evidence := by
  rw [settled, mem_settledFrom_iff]
  constructor
  · rintro ⟨first, event, second, rfl, rfl, hsettling⟩
    exact ⟨event, second, rfl, hsettling⟩
  · rintro ⟨event, later, rfl, hsettling⟩
    exact ⟨past, event, later, rfl, rfl, hsettling⟩

/-! ### The loop -/

/-- What one event does: only an authorization moves the ceiling, and only settling evidence shows
a settlement, under the ceiling that it finds. -/
theorem devTraceStep_eq_ok (hstep : devTraceStep firstAt ceiling event = .ok (more, next)) :
    next = (authorizedAmount? event).or ceiling ∧
      more.filterMap DevTraceStep.settlement? = ((settling? event).map fun evidence =>
        settlementDetail ceiling evidence.reportedCostCents evidence.predicatePassed
          evidence.lifecycleStatus).toList := by
  obtain ⟨event, recordedAt⟩ := event
  unfold devTraceStep at hstep
  cases event with
  | spendAuthorized runId toolCallId operation auditId decisionId amountCents =>
      obtain ⟨amount, -, hreturn⟩ := except_bind_eq_ok.mp hstep
      cases hreturn
      exact ⟨rfl, rfl⟩
  | evidenceSubmitted runId toolCallId operation evidenceId preset cost status predicatePassed
      attestations =>
      obtain ⟨label, -, hreturn⟩ := except_bind_eq_ok.mp hstep
      cases hstatus : truthyStr status with
      | none =>
          rw [hstatus] at hreturn
          cases hreturn
          have hnone : settling? ⟨.evidenceSubmitted runId toolCallId operation evidenceId preset
              cost status predicatePassed attestations, recordedAt⟩ = none := by
            simp [settling?, hstatus]
          rw [hnone]
          exact ⟨rfl, rfl⟩
      | some lifecycleStatus =>
          rw [hstatus] at hreturn
          obtain ⟨text, -, hreturn⟩ := except_bind_eq_ok.mp hreturn
          cases hreturn
          have hsome : settling? ⟨.evidenceSubmitted runId toolCallId operation evidenceId preset
              cost status predicatePassed attestations, recordedAt⟩ =
                some ⟨toolCallId, cost, predicatePassed, lifecycleStatus⟩ := by
            simp [settling?, hstatus]
          rw [hsome]
          exact ⟨rfl, rfl⟩
  | spendFinalized runId toolCallId operation status =>
      cases status <;> cases hstep <;> exact ⟨rfl, rfl⟩
  | _ =>
      cases hstep
      exact ⟨rfl, rfl⟩

/-- In the loop the ceiling is what was authorized last. -/
theorem settlements_devTraceLoop
    (hloop : devTraceLoop firstAt steps (lastAuthorized past) events = .ok result) :
    result.filterMap DevTraceStep.settlement? =
      steps.filterMap DevTraceStep.settlement? ++
        (settledFrom past events).map fun found => settlementOf found.1 found.2 := by
  induction events generalizing past steps with
  | nil =>
      cases hloop
      simp [settledFrom]
  | cons event rest ih =>
      obtain ⟨⟨more, next⟩, hstep, hloop⟩ := except_bind_eq_ok.mp hloop
      obtain ⟨rfl, hmore⟩ := devTraceStep_eq_ok hstep
      rw [← lastAuthorized_snoc] at hloop
      rw [ih hloop, List.filterMap_append, hmore, settledFrom, List.map_append, List.append_assoc]
      cases settling? event <;> rfl

/-- The settlement steps are those of the settling evidence, in its order. -/
theorem settlements_devTraceStepsFromEvents
    (hsteps : devTraceStepsFromEvents now events = .ok steps) :
    steps.filterMap DevTraceStep.settlement? =
      (settled events).map fun found => settlementOf found.1 found.2 := by
  cases events with
  | nil => cases hsteps
  | cons first rest =>
      have hloop : devTraceLoop ((truthyStr first.recordedAt).getD now) [] (lastAuthorized [])
          (first :: rest) = .ok steps := hsteps
      exact settlements_devTraceLoop hloop

end Settlements

/-! ## The ceiling of the call itself -/

/-- The settlement shows the ceiling of its own call, and parts it in what is captured and what is
unused. -/
structure OwnSettlement (past : List DevTraceEvent) (evidence : SettlingEvidence)
    (detail : SettlementDetail) : Prop where
  ceiling : detail.authorizedAmountCents = lastAuthorized (ofCall evidence.toolCallId past)
  parts : ∀ captured, detail.capturedReleasedAmountCents = some captured →
    ∃ ceiling unused, detail.authorizedAmountCents = some ceiling ∧
      detail.unusedAuthorizationCents = some unused ∧
        0 ≤ captured ∧ captured ≤ ceiling ∧ captured + unused = ceiling

/-- Every settlement step is about the evidence that it was made for. -/
def ShowsOwnSettlements (events : List DevTraceEvent) (steps : List DevTraceStep) : Prop :=
  List.Forall₂ (fun found detail => OwnSettlement found.1 found.2 detail) (settled events)
    (steps.filterMap DevTraceStep.settlement?)

/-- What the evidence has captured of a ceiling is not negative. -/
def SettlingEvidence.Captures (evidence : SettlingEvidence) (ceiling : ℤ) : Prop :=
  if evidence.predicatePassed = some false then 0 ≤ ceiling
  else ∀ cost, evidence.reportedCostCents = some cost → 0 ≤ cost ∧ 0 ≤ ceiling

section Claim

variable {now : String} {events past : List DevTraceEvent} {steps : List DevTraceStep}
variable {evidence : SettlingEvidence}

theorem ownSettlement_iff : OwnSettlement past evidence (settlementOf past evidence) ↔
    lastAuthorized past = lastAuthorized (ofCall evidence.toolCallId past) ∧
      ∀ ceiling, lastAuthorized past = some ceiling → evidence.Captures ceiling := by
  have hcaptured : ∀ ceiling, lastAuthorized past = some ceiling →
      (evidence.Captures ceiling ↔
        ∀ captured, (settlementOf past evidence).capturedReleasedAmountCents = some captured →
          0 ≤ captured ∧ captured ≤ ceiling) := by
    intro ceiling hceiling
    simp only [settlementOf, settlementDetail, capturedCents, SettlingEvidence.Captures, hceiling]
    split
    · simp
    · simp [Option.map_eq_some_iff]
  constructor
  · intro hown
    refine ⟨hown.ceiling, fun ceiling hceiling => (hcaptured ceiling hceiling).mpr ?_⟩
    intro captured hcapture
    obtain ⟨shown, unused, hshown, -, hnonneg, hle, -⟩ := hown.parts captured hcapture
    obtain rfl : ceiling = shown := Option.some.inj (hceiling.symm.trans hshown)
    exact ⟨hnonneg, hle⟩
  · rintro ⟨hceiling, hcaptures⟩
    refine ⟨hceiling, fun captured hcapture => ?_⟩
    cases hlast : lastAuthorized past with
    | none => simp [settlementOf, settlementDetail, capturedCents, hlast] at hcapture
    | some ceiling =>
        obtain ⟨hnonneg, hle⟩ :=
          (hcaptured ceiling hlast).mp (hcaptures ceiling hlast) captured hcapture
        refine ⟨ceiling, ceiling - captured, hlast, ?_, hnonneg, hle, by omega⟩
        change (match lastAuthorized past, (settlementOf past evidence).capturedReleasedAmountCents
          with
          | some ceiling, some captured => some (ceiling - captured)
          | _, _ => none) = _
        rw [hlast, hcapture]

/-- The trace shows every call's own settlement exactly when, at each settling evidence, the last
authorization of the run has the amount of the last one of the call, and what is captured of it is
not negative. -/
theorem showsOwnSettlements_iff (hsteps : devTraceStepsFromEvents now events = .ok steps) :
    ShowsOwnSettlements events steps ↔
      ∀ past event later evidence, events = past ++ event :: later →
        settling? event = some evidence →
          lastAuthorized past = lastAuthorized (ofCall evidence.toolCallId past) ∧
            ∀ ceiling, lastAuthorized past = some ceiling → evidence.Captures ceiling := by
  rw [ShowsOwnSettlements, settlements_devTraceStepsFromEvents hsteps,
    List.forall₂_map_right_iff, List.forall₂_same]
  constructor
  · intro hown past event later evidence hsplit hsettling
    have hmem : (past, evidence) ∈ settled events :=
      mem_settled_iff.mpr ⟨event, later, hsplit, hsettling⟩
    exact ownSettlement_iff.mp (hown _ hmem)
  · intro hown found hmem
    obtain ⟨event, later, hsplit, hsettling⟩ := mem_settled_iff.mp hmem
    exact ownSettlement_iff.mpr (hown _ event later _ hsplit hsettling)

end Claim

/-! ## Two executions at once -/

/-- What two executions report: the second is authorized while the first still runs its tool. -/
def overlappingEvents : List DevTraceEvent :=
  [ ⟨.toolSelected "run" "travel.book_hotel" "hotel" "travel.book_hotel", some "t0"⟩,
    ⟨.spendAuthorized "run" "hotel" "travel.book_hotel" "a1" none (some 15000), some "t1"⟩,
    ⟨.toolSelected "run" "travel.book_taxi" "taxi" "travel.book_taxi", some "t2"⟩,
    ⟨.spendAuthorized "run" "taxi" "travel.book_taxi" "a2" none (some 500), some "t3"⟩,
    ⟨.toolExecuted "run" "hotel" "travel.book_hotel" 3, some "t4"⟩,
    ⟨.evidenceSubmitted "run" "hotel" "travel.book_hotel" "e1" "cost_and_completion"
      (some 12000) (some "released") (some true) [], some "t5"⟩,
    ⟨.toolExecuted "run" "taxi" "travel.book_taxi" 2, some "t6"⟩,
    ⟨.evidenceSubmitted "run" "taxi" "travel.book_taxi" "e2" "cost_and_completion"
      (some 450) (some "released") (some true) [], some "t7"⟩ ]

theorem returns_of_isOk {now : String} {events : List DevTraceEvent}
    (hok : (devTraceStepsFromEvents now events).isOk = true) :
    ∃ steps, devTraceStepsFromEvents now events = .ok steps := by
  cases hsteps : devTraceStepsFromEvents now events with
  | ok steps => exact ⟨steps, rfl⟩
  | error exception =>
      rw [hsteps] at hok
      cases hok

/-- The settlement of the hotel shows the ceiling of the taxi. -/
theorem not_showsOwnSettlements_overlapping :
    ¬∀ now events steps, devTraceStepsFromEvents now events = .ok steps →
      ShowsOwnSettlements events steps := by
  intro hclaim
  obtain ⟨steps, hsteps⟩ := @returns_of_isOk "now" overlappingEvents (by decide +kernel)
  have hshown := hclaim "now" overlappingEvents steps hsteps
  rw [ShowsOwnSettlements, settlements_devTraceStepsFromEvents hsteps,
    List.forall₂_map_right_iff, List.forall₂_same] at hshown
  have hhotel := (hshown _ List.mem_cons_self).ceiling
  exact absurd hhotel (by decide +kernel)

/-- One execution after the other. -/
def sequentialEvents : List DevTraceEvent :=
  ofCall "hotel" overlappingEvents ++ ofCall "taxi" overlappingEvents

theorem showsOwnSettlements_iff_sequential : ∃ steps,
    devTraceStepsFromEvents "now" sequentialEvents = .ok steps ∧
      (ShowsOwnSettlements sequentialEvents steps ↔
        ∀ past event later evidence, sequentialEvents = past ++ event :: later →
          settling? event = some evidence →
            lastAuthorized past = lastAuthorized (ofCall evidence.toolCallId past) ∧
              ∀ ceiling, lastAuthorized past = some ceiling → evidence.Captures ceiling) := by
  obtain ⟨steps, hsteps⟩ := @returns_of_isOk "now" sequentialEvents (by decide +kernel)
  exact ⟨steps, hsteps, showsOwnSettlements_iff hsteps⟩

end PaybondKit.Dev
