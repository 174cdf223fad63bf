import PaybondKit.Agent.Types
import PaybondKit.Foundation.Dialogue

/-!
# Funding an intent

A fund call may be answered by a payment challenge, which is answered by one credential, and
then by a pending state, which is polled. Two rails do this in the same way; they differ in
how a challenge is read and in their texts.
-/

namespace PaybondKit.Harbor

open Agent (PyExc)

/-! ## Results -/

/-- Of the funding payload only the status is read. -/
structure IntentFundingResult where
  settlementRail : String
  status : Option String
  deriving DecidableEq

structure FundIntentResult where
  statusCode : ℕ
  paymentRequired : Option String := none
  wwwAuthenticate : Option (List String) := none
  intentId : String
  tenant : String
  state : String
  settlementRail : String
  currency : String
  amountCents : Int
  funded : Bool := false
  capabilityToken : Option String := none
  funding : Option IntentFundingResult := none
  deriving DecidableEq

/-- `text and text.strip()`. -/
def NonBlank (text : Option String) : Prop := ∃ written ∈ text, pyStrip written ≠ ""

instance (text : Option String) : Decidable (NonBlank text) :=
  inferInstanceAs (Decidable (∃ _ ∈ _, _))

/-- `_is_funding_complete`. -/
def IsFundingComplete (result : FundIntentResult) : Prop :=
  NonBlank result.capabilityToken ∨ result.statusCode = 200 ∧ result.funded = true

instance (result : FundIntentResult) : Decidable (IsFundingComplete result) :=
  inferInstanceAs (Decidable (_ ∨ _))

/-- The status of the funding, where it is a text with something in it. -/
def fundingStatus (result : FundIntentResult) : Option String :=
  truthyStr (result.funding.bind (·.status))

/-- Metadata of a request that a recognition proof binds. -/
structure FundRequestEnvelope where
  intentId : String
  method : String
  path : String
  body : PyValue

def buildX402FundRequestEnvelope (intentId : String) : FundRequestEnvelope where
  intentId := intentId
  method := "POST"
  path := s!"/harbor/intents/{intentId}/fund"
  body := .dict []

structure X402FundPollOptions where
  maxAttempts : Int := 30
  intervalMs : Int := 2000

/-! ## What a funding asks for -/

/-- The failures of the funding itself, and what a callback raises. -/
inductive FundingError where
  | failed (message intentId : String) (lastResult : FundIntentResult)
  | pending (message intentId : String) (lastResult : FundIntentResult) (attempts : Int)
  | raised (exception : PyExc)

inductive FundingOp where
  | fund (recognitionProof : PyValue) (credential : Option String)
  | selectChallenge (wwwAuthenticate : Option (List String))
  | createCredential (challenge : String)
  | issueRecognitionProof (envelope : FundRequestEnvelope)
  | sleep (intervalMs : Int)

@[reducible] def FundingOp.Answer : FundingOp → Type
  | .fund _ _ => FundIntentResult
  | .selectChallenge _ | .createCredential _ => String
  | .issueRecognitionProof _ => PyValue
  | .sleep _ => Unit

abbrev FundingRoutine := Coroutine FundingOp.Answer FundingError

def perform (op : FundingOp) : FundingRoutine op.Answer := Coroutine.call op

/-! ## The rails -/

/-- What the copies of the orchestration do not share. -/
structure FundingRail where
  name : String
  terminalStatuses : List String
  emptyCredential : String
  /-- The challenge of a 402 that is handed to the payment callback. -/
  readChallenge : String → FundIntentResult → FundingRoutine String

namespace FundingRail

variable (rail : FundingRail) (intentId : String) (result : FundIntentResult)

/-- `_is_terminal_funding_failure`. -/
def IsTerminal : Prop := pyStrip ((fundingStatus result).getD "") ∈ rail.terminalStatuses

instance : Decidable (rail.IsTerminal result) := inferInstanceAs (Decidable (_ ∈ _))

/-- `_failure_message`. -/
def failureMessage : String :=
  s!"{rail.name} funding failed for intent {result.intentId} " ++
    s!"(status={(fundingStatus result).getD result.state})"

/-- The result is judged after each fund call that is not challenged. -/
def judge (unfinished : FundingRoutine FundIntentResult) : FundingRoutine FundIntentResult :=
  if rail.IsTerminal result then .raise (.failed (rail.failureMessage result) intentId result)
  else if IsFundingComplete result then return result
  else unfinished

/-- A 402 is answered by one credential; the fund call is made again with it. -/
def answerChallenge : FundingRoutine (Option String × FundIntentResult) :=
  if result.statusCode = 402 then do
    let challenge ← rail.readChallenge intentId result
    let credential ← perform (.createCredential challenge)
    if pyStrip credential = "" then
      .raise (.failed rail.emptyCredential intentId result)
    else do
      let retryProof ← perform (.issueRecognitionProof (buildX402FundRequestEnvelope intentId))
      let result ← perform (.fund retryProof (some (pyStrip credential)))
      return (some (pyStrip credential), result)
  else return (none, result)

/-- `asyncio.sleep`, when there is an interval. -/
def pause (intervalMs : Int) : FundingRoutine Unit :=
  if 0 < intervalMs then perform (.sleep intervalMs) else pure ()

/-- The loop, with some attempts left. -/
def poll (maxAttempts intervalMs : Int) (credential : Option String) :
    ℕ → FundIntentResult → FundingRoutine FundIntentResult
  | left, result =>
      if result.statusCode = 202 ∨ ¬IsFundingComplete result ∧ result.statusCode = 200 then
        match left with
        | 0 => .raise <| .pending
            (s!"{rail.name} funding still pending after {maxAttempts} poll attempt(s) " ++
              s!"for intent {intentId}") intentId result maxAttempts
        | left + 1 => do
            pause intervalMs
            let pollProof ← perform (.issueRecognitionProof (buildX402FundRequestEnvelope intentId))
            let result ← perform (.fund pollProof (truthyStr credential))
            rail.judge intentId result (poll maxAttempts intervalMs credential left result)
      else if IsFundingComplete result then return result
      else .raise <| .failed
        s!"unexpected {rail.name} fund response HTTP {result.statusCode} for intent {intentId}"
        intentId result

def executeFund (recognitionProof : PyValue) (pollOptions : Option X402FundPollOptions) :
    FundingRoutine FundIntentResult := do
  let options := pollOptions.getD {}
  let maxAttempts := max 1 options.maxAttempts
  let intervalMs := max 0 options.intervalMs
  let first ← perform (.fund recognitionProof none)
  let (credential, result) ← rail.answerChallenge intentId first
  rail.judge intentId result
    (rail.poll intentId maxAttempts intervalMs credential maxAttempts.toNat result)

end FundingRail

/-- The challenge of x402 is a header. -/
def readX402Challenge (intentId : String) (result : FundIntentResult) : FundingRoutine String :=
  match result.paymentRequired with
  | some challenge =>
      if pyStrip challenge = "" then
        .raise (.failed "x402 fund challenge missing payment-required header" intentId result)
      else return challenge
  | none => .raise (.failed "x402 fund challenge missing payment-required header" intentId result)

def x402Rail : FundingRail where
  name := "x402"
  terminalStatuses := ["authorization_failed", "capture_failed", "void_failed"]
  emptyCredential := "x402 sign_payment returned an empty payment signature"
  readChallenge := readX402Challenge

def mppRail : FundingRail where
  name := "MPP"
  terminalStatuses := ["authorization_failed", "capture_failed", "void_failed",
    "credential_rejected", "payment_failed", "charge_failed", "session_open_failed"]
  emptyCredential := "MPP create_payment_credential returned an empty credential"
  readChallenge _ result := perform (.selectChallenge result.wwwAuthenticate)

def executeFundWithX402 := x402Rail.executeFund

def executeFundWithMpp := mppRail.executeFund

/-! ## What is known of a dialogue -/

abbrev FundingExchange := Exchange FundingOp.Answer FundingError

def FundingOp.IsFund : FundingOp → Bool
  | .fund _ _ => true
  | _ => false

/-- The operation asks for a payment signature or credential. -/
def FundingOp.AsksCredential : FundingOp → Bool
  | .createCredential _ => true
  | _ => false

/-- The result of a fund call. -/
def fundResult? : FundingExchange → Option FundIntentResult
  | ⟨.fund _ _, .ok result⟩ => some result
  | _ => none

/-- The credential that a callback gave. -/
def credential? : FundingExchange → Option String
  | ⟨.createCredential _, .ok credential⟩ => some (pyStrip credential)
  | _ => none

section Dialogue

variable (rail : FundingRail) (intentId : String) (maxAttempts : Int)
variable (past : List FundingExchange)

def lastResult : Option FundIntentResult := (past.filterMap fundResult?).getLast?

def credentialOf : Option String := (past.filterMap credential?).getLast?

/-- The fund calls after the first one and after the one that answered a challenge. -/
def polls : ℕ := past.countP (·.op.IsFund) - past.countP (·.op.AsksCredential) - 1

/-- The proof was issued for the `/fund` envelope, directly before. -/
def FreshProof (proof : PyValue) : Prop :=
  ∃ before, past =
    before ++ [⟨.issueRecognitionProof (buildX402FundRequestEnvelope intentId), .ok proof⟩]

/-- The funding is neither complete nor failed, and may become complete. -/
def FundingRail.IsPollable (result : FundIntentResult) : Prop :=
  ¬rail.IsTerminal result ∧ ¬IsFundingComplete result ∧
    (result.statusCode = 202 ∨ result.statusCode = 200)

/-- After all attempts the last result is still pollable. -/
def StillPending : Prop :=
  ∃ result, lastResult past = some result ∧ rail.IsPollable result ∧
    polls past = (max 1 maxAttempts).toNat

def FundingError.IsPending : FundingError → Prop
  | .pending _ _ _ _ => True
  | _ => False

/-- What the operation may be after the exchanges before it. -/
def FundingAllowed (op : FundingOp) : Prop :=
  match op with
  | .createCredential _ =>
      past.countP (·.op.AsksCredential) = 0 ∧
        ∃ result, lastResult past = some result ∧ result.statusCode = 402
  | .fund proof credential =>
      (past.countP (·.op.IsFund) = 0 ∨ FreshProof intentId past proof) ∧
        credential = credentialOf past ∧ credential ≠ some "" ∧
        past.countP (·.op.IsFund) < (max 1 maxAttempts).toNat + 2
  | _ => True

/-- How a funding ends. -/
def FundingEnds (outcome : Except FundingError FundIntentResult) : Prop :=
  match outcome with
  | .ok result =>
      lastResult past = some result ∧ IsFundingComplete result ∧ ¬rail.IsTerminal result
  | .error exception =>
      (∃ before op, past = before ++ [⟨op, .error exception⟩]) ∨
        (∀ exchange ∈ past, exchange.answer.isOk) ∧
          (exception.IsPending ↔ StillPending rail maxAttempts past)

end Dialogue

/-- The exchanges so far, all of them answered: the credential, the number of fund calls and
the last result. -/
structure FundingPast (past : List FundingExchange) (credential : Option String) (funds : ℕ)
    (result : FundIntentResult) : Prop where
  answered : ∀ exchange ∈ past, exchange.answer.isOk
  given : credentialOf past = credential
  nonEmpty : credential ≠ some ""
  asked : past.countP (·.op.AsksCredential) = if credential.isSome then 1 else 0
  funds : past.countP (·.op.IsFund) = funds
  last : lastResult past = some result

section Steps

variable {rail : FundingRail} {intentId : String} {maxAttempts : Int}
variable {past : List FundingExchange} {credential : Option String} {funds : ℕ}
variable {result : FundIntentResult}

abbrev Funds (rail : FundingRail) (intentId : String) (maxAttempts : Int)
    (program : FundingRoutine FundIntentResult) (past : List FundingExchange) : Prop :=
  program.Converses (FundingAllowed intentId maxAttempts)
    (fun outcome past => FundingEnds rail maxAttempts past outcome) past

/-- What a callback raises is passed on. -/
theorem funds_perform {op : FundingOp} {rest : op.Answer → FundingRoutine FundIntentResult}
    (hallowed : FundingAllowed intentId maxAttempts past op)
    (hrest : ∀ answer, Funds rail intentId maxAttempts (rest answer) (past ++ [⟨op, .ok answer⟩])) :
    Funds rail intentId maxAttempts ((perform op).bind rest) past := by
  refine (Coroutine.converses_bind _ _).mpr (Coroutine.converses_call.mpr ⟨hallowed, ?_⟩)
  rintro (exception | answer)
  · exact .inl ⟨past, op, rfl⟩
  · exact hrest answer

namespace FundingPast

theorem truthyStr_credential (hpast : FundingPast past credential funds result) :
    truthyStr credential = credential := by
  cases credential with
  | none => rfl
  | some text => exact truthyStr_eq_some fun h => hpast.nonEmpty (congrArg some h)

/-- Exchanges that are neither fund calls nor credentials leave the rest as it was. -/
theorem snoc_other (hpast : FundingPast past credential funds result) {op : FundingOp}
    {answer : op.Answer} (hfund : op.IsFund = false) (hasks : op.AsksCredential = false) :
    FundingPast (past ++ [⟨op, .ok answer⟩]) credential funds result := by
  have hresult : fundResult? ⟨op, .ok answer⟩ = none := by
    cases op <;> first | rfl | cases hfund
  have hcredential : credential? ⟨op, .ok answer⟩ = none := by
    cases op <;> first | rfl | cases hasks
  refine ⟨?_, ?_, hpast.nonEmpty, ?_, ?_, ?_⟩
  · simpa [or_imp, forall_and] using ⟨hpast.answered, rfl⟩
  · simpa [credentialOf, hcredential] using hpast.given
  · simpa [hasks] using hpast.asked
  · simpa [hfund] using hpast.funds
  · simpa [lastResult, hresult] using hpast.last

theorem snoc_fund (hpast : FundingPast past credential funds result) {proof : PyValue}
    {sent : Option String} {next : FundIntentResult} :
    FundingPast (past ++ [⟨.fund proof sent, .ok next⟩]) credential (funds + 1) next := by
  refine ⟨?_, ?_, hpast.nonEmpty, ?_, ?_, ?_⟩
  · simpa [or_imp, forall_and] using ⟨hpast.answered, rfl⟩
  · simpa [credentialOf, credential?] using hpast.given
  · simpa [FundingOp.AsksCredential] using hpast.asked
  · simpa [FundingOp.IsFund] using hpast.funds
  · simp [lastResult, fundResult?]

theorem snoc_credential (hpast : FundingPast past none funds result) (challenge : String)
    {answer : String} (hanswer : pyStrip answer ≠ "") :
    FundingPast (past ++ [⟨.createCredential challenge, .ok answer⟩]) (some (pyStrip answer)) funds
      result := by
  refine ⟨?_, ?_, by simpa using hanswer, ?_, ?_, ?_⟩
  · simpa [or_imp, forall_and] using ⟨hpast.answered, rfl⟩
  · simp [credentialOf, credential?]
  · simpa [FundingOp.AsksCredential] using hpast.asked
  · simpa [FundingOp.IsFund] using hpast.funds
  · simpa [lastResult, fundResult?] using hpast.last

end FundingPast

/-- A failure after a result that is not pollable. -/
theorem funds_failed (hanswered : ∀ exchange ∈ past, exchange.answer.isOk)
    (hlast : lastResult past = some result) (hnot : ¬rail.IsPollable result)
    {message failedIntent : String} {last : FundIntentResult} :
    Funds rail intentId maxAttempts (.raise (.failed message failedIntent last)) past := by
  refine .inr ⟨hanswered, False.elim, ?_⟩
  rintro ⟨pollable, hpollable, his, -⟩
  obtain rfl : result = pollable := Option.some.inj (hlast.symm.trans hpollable)
  exact hnot his

theorem funds_judge (hpast : FundingPast past credential funds result)
    {unfinished : FundingRoutine FundIntentResult}
    (hunfinished : ¬rail.IsTerminal result → ¬IsFundingComplete result →
      Funds rail intentId maxAttempts unfinished past) :
    Funds rail intentId maxAttempts (rail.judge intentId result unfinished) past := by
  unfold FundingRail.judge
  split
  next hterminal => exact funds_failed hpast.answered hpast.last fun hpollable => hpollable.1 hterminal
  next hterminal =>
    split
    next hcomplete => exact ⟨hpast.last, hcomplete, hterminal⟩
    next hcomplete => exact hunfinished hterminal hcomplete

theorem funds_pause {intervalMs : Int} {rest : Unit → FundingRoutine FundIntentResult}
    (hpast : FundingPast past credential funds result)
    (hrest : ∀ past, FundingPast past credential funds result →
      Funds rail intentId maxAttempts (rest ()) past) :
    Funds rail intentId maxAttempts ((FundingRail.pause intervalMs).bind rest) past := by
  unfold FundingRail.pause
  split
  · exact funds_perform trivial fun _ => hrest _ (hpast.snoc_other rfl rfl)
  · exact hrest past hpast

/-- A proof is issued and a fund call is made with it. -/
theorem funds_fund (hpast : FundingPast past credential funds result)
    (hbound : funds < (max 1 maxAttempts).toNat + 2)
    (rest : FundIntentResult → FundingRoutine FundIntentResult)
    (hrest : ∀ past next, FundingPast past credential (funds + 1) next →
      Funds rail intentId maxAttempts (rest next) past) :
    Funds rail intentId maxAttempts (do
      let proof ← perform (.issueRecognitionProof (buildX402FundRequestEnvelope intentId))
      let next ← perform (.fund proof credential)
      rest next) past := by
  refine funds_perform trivial fun proof => ?_
  have hissued : FundingPast (past ++ [⟨.issueRecognitionProof
      (buildX402FundRequestEnvelope intentId), .ok proof⟩]) credential funds result :=
    hpast.snoc_other rfl rfl
  refine funds_perform ⟨.inr ⟨past, rfl⟩, hissued.given.symm, hpast.nonEmpty, ?_⟩ fun next =>
    hrest _ next hissued.snoc_fund
  rw [hissued.funds]
  exact hbound

/-- One round of the loop. -/
theorem funds_attempt {intervalMs : Int} {unfinished : FundIntentResult → FundingRoutine FundIntentResult}
    (hpast : FundingPast past credential funds result)
    (hbound : funds < (max 1 maxAttempts).toNat + 2)
    (hunfinished : ∀ past next, FundingPast past credential (funds + 1) next →
      ¬rail.IsTerminal next → ¬IsFundingComplete next →
      Funds rail intentId maxAttempts (unfinished next) past) :
    Funds rail intentId maxAttempts (do
      FundingRail.pause intervalMs
      let pollProof ← perform (.issueRecognitionProof (buildX402FundRequestEnvelope intentId))
      let next ← perform (.fund pollProof (truthyStr credential))
      rail.judge intentId next (unfinished next)) past := by
  rw [hpast.truthyStr_credential]
  refine funds_pause hpast fun paused hpaused => ?_
  refine funds_fund hpaused hbound (fun next => rail.judge intentId next (unfinished next)) ?_
  intro polled next hnext
  exact funds_judge hnext (hunfinished polled next hnext)

/-- By induction on the attempts that are left. -/
theorem funds_poll {intervalMs : Int} (left : ℕ)
    (hpast : FundingPast past credential funds result) (hterminal : ¬rail.IsTerminal result)
    (hcomplete : ¬IsFundingComplete result)
    (hleft : funds + left =
      (max 1 maxAttempts).toNat + 1 + if credential.isSome then 1 else 0) :
    Funds rail intentId maxAttempts
      (rail.poll intentId (max 1 maxAttempts) intervalMs credential left result) past := by
  have hasked : (if credential.isSome then 1 else 0) ≤ 1 := by
    split <;> omega
  induction left generalizing past funds result with
  | zero =>
      unfold FundingRail.poll
      split
      next hpoll =>
        refine .inr ⟨hpast.answered, ⟨fun _ => ?_, fun _ => trivial⟩⟩
        refine ⟨result, hpast.last, ⟨hterminal, hcomplete, ?_⟩, ?_⟩
        · exact hpoll.imp_right And.right
        · rw [polls, hpast.funds, hpast.asked]
          omega
      next hpoll =>
        exact funds_failed hpast.answered hpast.last fun hpollable =>
          hpoll (hpollable.2.2.imp_right fun hstatus => ⟨hcomplete, hstatus⟩)
  | succ left ih =>
      unfold FundingRail.poll
      split
      next hpoll =>
        have hbound : funds < (max 1 maxAttempts).toNat + 2 := by
          omega
        refine funds_attempt hpast hbound fun polled next hnext hterminal hcomplete => ?_
        exact ih hnext hterminal hcomplete (by omega)
      next hpoll =>
        exact funds_failed hpast.answered hpast.last fun hpollable =>
          hpoll (hpollable.2.2.imp_right fun hstatus => ⟨hcomplete, hstatus⟩)

/-- Reading the challenge of a 402 makes no fund call and asks for no credential. -/
def FundingRail.ReadsOnly (rail : FundingRail) : Prop :=
  ∀ {intentId maxAttempts past result} {rest : String → FundingRoutine FundIntentResult},
    result.statusCode = 402 → FundingPast past none 1 result →
    (∀ past challenge, FundingPast past none 1 result →
      Funds rail intentId maxAttempts (rest challenge) past) →
    Funds rail intentId maxAttempts ((rail.readChallenge intentId result).bind rest) past

theorem not_isPollable_of_challenge (hstatus : result.statusCode = 402) :
    ¬rail.IsPollable result := by
  rintro ⟨-, -, hpending | hpending⟩ <;> omega

theorem x402Rail_readsOnly : x402Rail.ReadsOnly := by
  intro intentId maxAttempts past result rest hstatus hpast hrest
  change Funds _ _ _ ((readX402Challenge intentId result).bind rest) past
  unfold readX402Challenge
  split
  next challenge hchallenge =>
    split
    · exact funds_failed hpast.answered hpast.last (not_isPollable_of_challenge hstatus)
    · exact hrest past challenge hpast
  next => exact funds_failed hpast.answered hpast.last (not_isPollable_of_challenge hstatus)

theorem mppRail_readsOnly : mppRail.ReadsOnly := by
  intro intentId maxAttempts past result rest hstatus hpast hrest
  exact funds_perform trivial fun challenge => hrest _ challenge (hpast.snoc_other rfl rfl)

theorem funds_answerChallenge (hreads : rail.ReadsOnly) (hpast : FundingPast past none 1 result)
    {rest : Option String × FundIntentResult → FundingRoutine FundIntentResult}
    (hrest : ∀ past credential result,
      FundingPast past credential (1 + if credential.isSome then 1 else 0) result →
      Funds rail intentId maxAttempts (rest (credential, result)) past) :
    Funds rail intentId maxAttempts ((rail.answerChallenge intentId result).bind rest) past := by
  unfold FundingRail.answerChallenge
  split
  case isFalse => exact hrest past none result hpast
  case isTrue hstatus =>
    change Funds _ _ _ (Coroutine.bind ((rail.readChallenge intentId result).bind _) rest) past
    rw [Coroutine.bind_bind]
    refine hreads hstatus hpast fun past challenge hpast => ?_
    change Funds _ _ _ (Coroutine.bind ((perform (.createCredential challenge)).bind _) rest) past
    rw [Coroutine.bind_bind]
    have hallowed : FundingAllowed intentId maxAttempts past (.createCredential challenge) :=
      ⟨hpast.asked, result, hpast.last, hstatus⟩
    refine funds_perform hallowed fun answer => ?_
    split
    next hempty => 
      refine funds_failed ?_ ?_ (not_isPollable_of_challenge hstatus)
      · simpa [or_imp, forall_and] using ⟨hpast.answered, rfl⟩
      · simpa [lastResult, fundResult?] using hpast.last
    next hanswer =>
      have hgiven := hpast.snoc_credential challenge hanswer
      change Funds _ _ _ (Coroutine.bind ((perform (.issueRecognitionProof _)).bind fun proof =>
        (perform (.fund proof (some (pyStrip answer)))).bind fun next =>
          .ret (some (pyStrip answer), next)) rest) _
      simp only [Coroutine.bind_bind]
      refine funds_fund hgiven (by omega) (fun next => rest (some (pyStrip answer), next)) ?_
      exact fun past next hnext => hrest past _ next hnext

theorem funds_executeFund (hreads : rail.ReadsOnly) (recognitionProof : PyValue)
    (pollOptions : Option X402FundPollOptions) :
    Funds rail intentId (pollOptions.getD {}).maxAttempts
      (rail.executeFund intentId recognitionProof pollOptions) [] := by
  have hallowed : FundingAllowed intentId (pollOptions.getD {}).maxAttempts []
      (.fund recognitionProof none) :=
    ⟨.inl rfl, rfl, nofun, by simp⟩
  refine funds_perform hallowed fun first => ?_
  have hfirst : FundingPast [⟨.fund recognitionProof none, .ok first⟩] none 1 first :=
    ⟨by simp [Except.isOk, Except.toBool], rfl, nofun, rfl, rfl, rfl⟩
  refine funds_answerChallenge hreads hfirst ?_
  intro past credential result hpast
  refine funds_judge hpast fun hterminal hcomplete => funds_poll _ hpast hterminal hcomplete ?_
  omega

end Steps

/-! ## Funding pays once -/

/-- What a funding does whatever it is answered: it asks for a credential at most once, and after
a 402; it sends every further fund call with a proof of its own, and with the credential once
there is one; it ends, with a complete result or an error, which tells whether the last result
was still pollable after all attempts. -/
structure PaysOnce (rail : FundingRail) (intentId : String) (maxAttempts : Int)
    (program : FundingRoutine FundIntentResult) : Prop where
  asksOnce : ∀ past rest, program.Reaches past rest → past.countP (·.op.AsksCredential) ≤ 1
  asksAfterChallenge : ∀ past challenge next,
    program.Reaches past (.perform (.createCredential challenge) next) →
      ∃ result, lastResult past = some result ∧ result.statusCode = 402
  freshProof : ∀ past proof credential next,
    program.Reaches past (.perform (.fund proof credential) next) →
      (∀ exchange ∈ past, ¬exchange.op.IsFund) ∨ FreshProof intentId past proof
  sameCredential : ∀ past proof credential next,
    program.Reaches past (.perform (.fund proof credential) next) →
      credential = credentialOf past ∧ credential ≠ some ""
  calls : ∀ past rest, program.Reaches past rest →
    past.countP (·.op.IsFund) ≤ (max 1 maxAttempts).toNat + 2
  returns : ∀ past result, program.Reaches past (.ret result) →
    lastResult past = some result ∧ IsFundingComplete result ∧ ¬rail.IsTerminal result
  raises : ∀ past exception, program.Reaches past (.raise exception) →
    (∃ before op, past = before ++ [⟨op, .error exception⟩]) ∨
      (∀ exchange ∈ past, exchange.answer.isOk) ∧
        (exception.IsPending ↔ StillPending rail maxAttempts past)
  ends : ∀ past, ¬program.Reaches past .cut

theorem Funds.paysOnce {rail : FundingRail} {intentId : String} {maxAttempts : Int}
    {program : FundingRoutine FundIntentResult} (hfunds : Funds rail intentId maxAttempts program []) :
    PaysOnce rail intentId maxAttempts program where
  asksOnce past rest hreaches := by
    refine hfunds.countP_le (fun past op hallowed hasks => ?_) hreaches
    cases op with
    | createCredential challenge => exact Nat.lt_one_iff.mpr hallowed.1
    | _ => cases hasks
  asksAfterChallenge past challenge next hreaches := (hfunds.allowed_of_reaches hreaches).2
  freshProof past proof credential next hreaches := by
    refine (hfunds.allowed_of_reaches hreaches).1.imp_left fun hnone => ?_
    simpa using hnone
  sameCredential past proof credential next hreaches :=
    have hallowed := hfunds.allowed_of_reaches hreaches
    ⟨hallowed.2.1, hallowed.2.2.1⟩
  calls past rest hreaches := by
    refine hfunds.countP_le (fun past op hallowed hfund => ?_) hreaches
    cases op with
    | fund proof credential => exact hallowed.2.2.2
    | _ => cases hfund
  returns past result hreaches := hfunds.post_of_ret hreaches
  raises past exception hreaches := hfunds.post_of_raise hreaches
  ends past := hfunds.not_cut

end PaybondKit.Harbor
