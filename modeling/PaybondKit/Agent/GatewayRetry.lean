import Mathlib.Data.Nat.Count
import PaybondKit.Agent.Types

/-!
# Requests to the gateway and their retries

A verify request is sent again after a transport error and after a retryable status.
The gateway makes a reservation for each request that reaches it; requests with the
same idempotency key share one.
-/

namespace PaybondKit.Agent

structure GatewayResponse where
  statusCode : ℕ
  text : String

/-- What becomes of one attempt. The gateway may have processed a request whose answer is
lost or is an error status. -/
inductive AttemptFate where
  | requestLost (exception : PyExc)
  | responseLost (exception : PyExc)
  | responded (response : GatewayResponse) (processed : Bool)

namespace AttemptFate

/-- The gateway has processed the request. -/
def processed : AttemptFate → Bool
  | .requestLost _ => false
  | .responseLost _ => true
  | .responded _ processed => processed

end AttemptFate

/-! ## The gateway -/

/-- The reservations that were made, each with the idempotency key of its request. A
decision is known by its place. -/
structure Gateway where
  reservations : List (Option String) := []

namespace Gateway

variable (gateway : Gateway) (key : Option String)

/-- The key has not been used. -/
def Fresh : Prop := key = none ∨ key ∉ gateway.reservations

instance : Decidable (gateway.Fresh key) := inferInstanceAs (Decidable (_ ∨ _))

/-- Process a verify request: the decision, and the gateway after it. -/
def reserve : ℕ × Gateway :=
  if gateway.Fresh key then
    (gateway.reservations.length, ⟨gateway.reservations ++ [key]⟩)
  else (gateway.reservations.idxOf key, gateway)

/-- One attempt: what the client sees, with the decision that a response carries. -/
def attempt (fate : AttemptFate) : Except PyExc (GatewayResponse × Option ℕ) × Gateway :=
  match fate with
  | .requestLost exception => (.error exception, gateway)
  | .responseLost exception => (.error exception, (gateway.reserve key).2)
  | .responded response true =>
      (.ok (response, some (gateway.reserve key).1), (gateway.reserve key).2)
  | .responded response false => (.ok (response, none), gateway)

end Gateway

/-! ## The client -/

/-- What the client takes from the platform: `json.loads`, and the parser of the verify
response. -/
structure GatewayClient where
  maxRetries : ℕ
  jsonLoads : String → Option PyValue
  parseVerifyCapabilityResult : String → Except PyExc VerifyCapabilityResult

def retryableHttpStatusCodes : List ℕ := [429, 500, 502, 503, 504]

namespace GatewayClient

variable (client : GatewayClient)

/-- `self._max_retries`. -/
def attempts : ℕ := max 1 client.maxRetries

def isCloudflareEdgeErrorBody (bodyText : String) : Bool :=
  let trimmed := pyStrip bodyText
  if trimmed = "" then false
  else
    match client.jsonLoads trimmed with
    | some (.dict items) =>
        match (PyValue.dict items).getItem "cloudflare_error" with
        | .bool value => value
        | _ => false
    | _ => false

def shouldRetryGatewayHttpStatus (status : ℕ) (bodyText : String) : Bool :=
  status ∈ retryableHttpStatusCodes && !client.isCloudflareEdgeErrorBody bodyText

/-- `httpx_with_gateway_retries` with some attempts left. -/
def retryFrom (key : Option String) (fates : ℕ → AttemptFate) :
    ℕ → ℕ → ℕ → Option PyExc → Gateway →
      Except PyExc (GatewayResponse × Option ℕ) × Gateway
  | 0, _, _, lastExc, gateway =>
      (.error (lastExc.getD
        (.runtimeError "gateway request exhausted retries without a response")), gateway)
  | left + 1, index, cloudflareRetries, lastExc, gateway =>
      let (answer, gateway) := gateway.attempt key (fates index)
      match answer with
      | .error exception =>
          if left = 0 then (.error exception, gateway)
          else retryFrom key fates left (index + 1) cloudflareRetries (some exception) gateway
      | .ok (response, decision) =>
          if response.statusCode ∈ retryableHttpStatusCodes ∧ left ≠ 0 then
            if client.isCloudflareEdgeErrorBody response.text then
              if 1 ≤ cloudflareRetries then (.ok (response, decision), gateway)
              else retryFrom key fates left (index + 1) (cloudflareRetries + 1) lastExc gateway
            else if !client.shouldRetryGatewayHttpStatus response.statusCode response.text then
              (.ok (response, decision), gateway)
            else retryFrom key fates left (index + 1) cloudflareRetries lastExc gateway
          else (.ok (response, decision), gateway)

def httpxWithGatewayRetries (key : Option String) (fates : ℕ → AttemptFate) (gateway : Gateway) :
    Except PyExc (GatewayResponse × Option ℕ) × Gateway :=
  client.retryFrom key fates client.attempts 0 0 none gateway

/-- The header that a verify request carries. -/
def idempotencyHeader (idempotencyKey : Option String) : Option String :=
  truthyStr ((truthyStr idempotencyKey).map pyStrip)

/-- What `verify_capability` makes of the answer, with the decision that it carries. -/
def readAnswer (answer : Except PyExc (GatewayResponse × Option ℕ)) :
    Except PyExc (VerifyCapabilityResult × Option ℕ) := do
  let (response, decision) ← answer
  if 400 ≤ response.statusCode then
    throw (.other "HarborHttpError"
      s!"Gateway verify HTTP {response.statusCode}: {response.text}")
  let result ← client.parseVerifyCapabilityResult response.text
  return (result, decision)

/-- `verify_capability`, with the decision that the caller learns. -/
def verifyCapability (idempotencyKey : Option String) (fates : ℕ → AttemptFate)
    (gateway : Gateway) : Except PyExc (VerifyCapabilityResult × Option ℕ) × Gateway :=
  let (answer, gateway) :=
    client.httpxWithGatewayRetries (idempotencyHeader idempotencyKey) fates gateway
  (client.readAnswer answer, gateway)

end GatewayClient

/-! ## Which attempts are made -/

section Attempts

variable (client : GatewayClient) (fates : ℕ → AttemptFate)

/-- The attempt is answered by an error of Cloudflare's edge. -/
def CloudflareAt (index : ℕ) : Prop :=
  ∃ response processed, fates index = .responded response processed ∧
    response.statusCode ∈ retryableHttpStatusCodes ∧
      client.isCloudflareEdgeErrorBody response.text = true

/-- The attempt is followed by another one. -/
def RetriedAt (index : ℕ) : Prop :=
  index + 1 < client.attempts ∧
    ∀ response processed, fates index = .responded response processed →
      response.statusCode ∈ retryableHttpStatusCodes ∧
        (CloudflareAt client fates index → ∀ earlier < index, ¬CloudflareAt client fates earlier)

/-- The attempt is the last one that is made. -/
def LastAttempt (last : ℕ) : Prop :=
  (∀ index < last, RetriedAt client fates index) ∧ ¬RetriedAt client fates last

/-- The gateway after some attempts. -/
def gatewayAfter (key : Option String) (gateway : Gateway) : ℕ → Gateway
  | 0 => gateway
  | count + 1 => ((gatewayAfter key gateway count).attempt key (fates count)).2

variable {client fates}
variable {key : Option String} {gateway : Gateway} {index : ℕ}

theorem lastAttempt_unique {last last' : ℕ} (hlast : LastAttempt client fates last)
    (hlast' : LastAttempt client fates last') : last = last' := by
  rcases lt_trichotomy last last' with hlt | heq | hgt
  · exact absurd (hlast'.1 last hlt) hlast.2
  · exact heq
  · exact absurd (hlast.1 last' hgt) hlast'.2

theorem Gateway.attempt_responded (gateway : Gateway) (key : Option String)
    (response : GatewayResponse) (processed : Bool) :
    ∃ decision after, gateway.attempt key (.responded response processed) =
      (.ok (response, decision), after) := by
  cases processed <;> exact ⟨_, _, rfl⟩

theorem Gateway.attempt_lost {fate : AttemptFate} (gateway : Gateway) (key : Option String)
    (hlost : ∀ response processed, fate ≠ .responded response processed) :
    ∃ exception after, gateway.attempt key fate = (.error exception, after) := by
  cases fate with
  | responded response processed => exact absurd rfl (hlost response processed)
  | _ => exact ⟨_, _, rfl⟩

theorem cloudflareAt_iff {response : GatewayResponse} {processed : Bool}
    (hfate : fates index = .responded response processed)
    (hstatus : response.statusCode ∈ retryableHttpStatusCodes) :
    CloudflareAt client fates index ↔ client.isCloudflareEdgeErrorBody response.text = true := by
  constructor
  · rintro ⟨response', processed', hfate', -, hbody⟩
    cases hfate.symm.trans hfate'
    exact hbody
  · exact fun hbody => ⟨response, processed, hfate, hstatus, hbody⟩

/-- A response is asked for again when its status is retryable, but only once when it
comes from Cloudflare's edge. -/
theorem retriedAt_responded {response : GatewayResponse} {processed : Bool}
    (hfate : fates index = .responded response processed) :
    RetriedAt client fates index ↔
      index + 1 < client.attempts ∧ response.statusCode ∈ retryableHttpStatusCodes ∧
        (client.isCloudflareEdgeErrorBody response.text = true →
          ∀ earlier < index, ¬CloudflareAt client fates earlier) := by
  refine and_congr_right fun _ => ?_
  constructor
  · intro hretried
    obtain ⟨hstatus, honce⟩ := hretried response processed hfate
    exact ⟨hstatus, fun hbody => honce ((cloudflareAt_iff hfate hstatus).mpr hbody)⟩
  · rintro ⟨hstatus, honce⟩ response' processed' hfate'
    cases hfate.symm.trans hfate'
    exact ⟨hstatus, fun hcloudflare => honce ((cloudflareAt_iff hfate hstatus).mp hcloudflare)⟩

theorem retriedAt_lost (hlost : ∀ response processed, fates index ≠ .responded response processed) :
    RetriedAt client fates index ↔ index + 1 < client.attempts :=
  and_iff_left fun response processed hfate => absurd hfate (hlost response processed)

theorem not_cloudflareAt_lost
    (hlost : ∀ response processed, fates index ≠ .responded response processed) :
    ¬CloudflareAt client fates index := by
  rintro ⟨response, processed, hfate, -⟩
  exact hlost response processed hfate

/-- After an attempt that is not retried, its answer stands. -/
theorem retryFrom_stops {left cloudflareRetries : ℕ} {lastExc : Option PyExc}
    (hleft : index + (left + 1) = client.attempts)
    (hcloudflare : cloudflareRetries = 0 ↔ ∀ earlier < index, ¬CloudflareAt client fates earlier)
    (hstops : ¬RetriedAt client fates index) :
    client.retryFrom key fates (left + 1) index cloudflareRetries lastExc gateway =
      gateway.attempt key (fates index) := by
  unfold GatewayClient.retryFrom
  by_cases hresponded : ∃ response processed, fates index = .responded response processed
  · obtain ⟨response, processed, hfate⟩ := hresponded
    obtain ⟨decision, after, hattempt⟩ := gateway.attempt_responded key response processed
    rw [retriedAt_responded hfate] at hstops
    simp only [hfate, hattempt]
    split
    next hmore =>
      have hindex : index + 1 < client.attempts := by
        have := hmore.2
        omega
      split
      next hbody =>
        have hseen : cloudflareRetries ≠ 0 := fun hzero =>
          hstops ⟨hindex, hmore.1, fun _ => hcloudflare.mp hzero⟩
        rw [if_pos (Nat.one_le_iff_ne_zero.mpr hseen)]
      next hbody => exact absurd ⟨hindex, hmore.1, fun h => absurd h hbody⟩ hstops
    next => rfl
  · have hlost : ∀ response processed, fates index ≠ .responded response processed :=
      fun response processed hfate => hresponded ⟨response, processed, hfate⟩
    obtain ⟨exception, after, hattempt⟩ := gateway.attempt_lost key hlost
    rw [retriedAt_lost hlost] at hstops
    simp only [hattempt]
    rw [if_pos (by omega)]

theorem retryFrom_continues {left cloudflareRetries : ℕ} {lastExc : Option PyExc}
    (hcloudflare : cloudflareRetries = 0 ↔ ∀ earlier < index, ¬CloudflareAt client fates earlier)
    (hleft : index + (left + 1) = client.attempts) (hretried : RetriedAt client fates index) :
    ∃ cloudflareRetries' lastExc',
      (cloudflareRetries' = 0 ↔ ∀ earlier < index + 1, ¬CloudflareAt client fates earlier) ∧
        client.retryFrom key fates (left + 1) index cloudflareRetries lastExc gateway =
          client.retryFrom key fates left (index + 1) cloudflareRetries' lastExc'
            (gateway.attempt key (fates index)).2 := by
  have hmore : left ≠ 0 := by
    have := hretried.1
    omega
  -- an attempt that Cloudflare's edge did not answer leaves the count alone
  have hkept : ¬CloudflareAt client fates index →
      (cloudflareRetries = 0 ↔ ∀ earlier < index + 1, ¬CloudflareAt client fates earlier) := by
    intro hnot
    rw [hcloudflare]
    constructor
    · intro hnone earlier hearlier
      rcases Nat.lt_succ_iff_lt_or_eq.mp hearlier with hlt | rfl
      · exact hnone earlier hlt
      · exact hnot
    · exact fun hnone earlier hearlier => hnone earlier (Nat.lt_succ_of_lt hearlier)
  rw [GatewayClient.retryFrom]
  by_cases hresponded : ∃ response processed, fates index = .responded response processed
  · obtain ⟨response, processed, hfate⟩ := hresponded
    obtain ⟨decision, after, hattempt⟩ := gateway.attempt_responded key response processed
    obtain ⟨-, hstatus, honce⟩ := (retriedAt_responded hfate).mp hretried
    simp only [hfate, hattempt]
    rw [if_pos ⟨hstatus, hmore⟩]
    cases hbody : client.isCloudflareEdgeErrorBody response.text with
    | true =>
        have hzero : cloudflareRetries = 0 := hcloudflare.mpr (honce hbody)
        refine ⟨cloudflareRetries + 1, lastExc, ?_, ?_⟩
        · simp only [Nat.succ_ne_zero, false_iff]
          exact fun hnone => hnone index (Nat.lt_succ_self index)
            ((cloudflareAt_iff hfate hstatus).mpr hbody)
        · rw [if_pos rfl, if_neg (by omega)]
    | false =>
        refine ⟨cloudflareRetries, lastExc, hkept fun hcloudflareAt => ?_, ?_⟩
        · rw [cloudflareAt_iff hfate hstatus, hbody] at hcloudflareAt
          cases hcloudflareAt
        · have hretry : client.shouldRetryGatewayHttpStatus response.statusCode response.text =
              true := by
            simp [GatewayClient.shouldRetryGatewayHttpStatus, hstatus, hbody]
          rw [if_neg (by simp), if_neg (by simp [hretry])]
  · have hlost : ∀ response processed, fates index ≠ .responded response processed :=
      fun response processed hfate => hresponded ⟨response, processed, hfate⟩
    obtain ⟨exception, after, hattempt⟩ := gateway.attempt_lost key hlost
    refine ⟨cloudflareRetries, some exception, hkept (not_cloudflareAt_lost hlost), ?_⟩
    simp only [hattempt]
    rw [if_neg hmore]

/-- The loop ends with the answer of the last attempt. -/
theorem retryFrom_eq {left cloudflareRetries : ℕ} {lastExc : Option PyExc}
    (hleft : index + left = client.attempts) (hpos : 0 < left)
    (hretried : ∀ earlier < index, RetriedAt client fates earlier)
    (hcloudflare : cloudflareRetries = 0 ↔ ∀ earlier < index, ¬CloudflareAt client fates earlier) :
    ∃ last, LastAttempt client fates last ∧
      client.retryFrom key fates left index cloudflareRetries lastExc
          (gatewayAfter fates key gateway index) =
        (gatewayAfter fates key gateway last).attempt key (fates last) := by
  induction left generalizing index cloudflareRetries lastExc with
  | zero => exact absurd hpos (lt_irrefl 0)
  | succ left ih =>
      by_cases hnext : RetriedAt client fates index
      · obtain ⟨cloudflareRetries', lastExc', hcloudflare', hrest⟩ :=
          retryFrom_continues hcloudflare hleft hnext
        have hmore : 0 < left := by
          have := hnext.1
          omega
        rw [hrest]
        refine ih (by omega) hmore (fun earlier hearlier => ?_) hcloudflare'
        rcases Nat.lt_succ_iff_lt_or_eq.mp hearlier with hlt | rfl
        · exact hretried earlier hlt
        · exact hnext
      · exact ⟨index, ⟨hretried, hnext⟩, retryFrom_stops hleft hcloudflare hnext⟩

theorem httpxWithGatewayRetries_eq (key : Option String) (gateway : Gateway) :
    ∃ last, LastAttempt client fates last ∧
      client.httpxWithGatewayRetries key fates gateway =
        (gatewayAfter fates key gateway last).attempt key (fates last) := by
  refine @retryFrom_eq client fates key gateway 0 client.attempts 0 none (by simp) ?_
    (fun _ h => absurd h (Nat.not_lt_zero _)) ?_
  · exact lt_of_lt_of_le Nat.zero_lt_one (le_max_left 1 client.maxRetries)
  · simp

end Attempts

/-! ## Reservations -/

section Reservations

variable {client : GatewayClient} {fates : ℕ → AttemptFate}
variable {key : Option String} {gateway : Gateway}

theorem Gateway.attempt_snd (gateway : Gateway) (key : Option String) (fate : AttemptFate) :
    (gateway.attempt key fate).2 = if fate.processed then (gateway.reserve key).2 else gateway := by
  rcases fate with _ | _ | ⟨response, _ | _⟩ <;> rfl

/-- A request without a key makes a reservation whenever it is processed. -/
theorem gatewayAfter_unkeyed (count : ℕ) :
    (gatewayAfter fates none gateway count).reservations.length =
      gateway.reservations.length + Nat.count (fun index => (fates index).processed = true) count := by
  induction count with
  | zero => rfl
  | succ count ih =>
      rw [gatewayAfter, Gateway.attempt_snd, Nat.count_succ, ← Nat.add_assoc, ← ih]
      split
      next => simp [Gateway.reserve, Gateway.Fresh]
      next => rfl

theorem gatewayAfter_of_not_fresh (hfresh : ¬gateway.Fresh key) (count : ℕ) :
    gatewayAfter fates key gateway count = gateway := by
  induction count with
  | zero => rfl
  | succ count ih =>
      rw [gatewayAfter, Gateway.attempt_snd, ih, Gateway.reserve, if_neg hfresh]
      exact ite_self gateway

/-- A new key makes one reservation, with the first request that is processed. -/
theorem gatewayAfter_keyed {name : String} (hnew : some name ∉ gateway.reservations) (count : ℕ) :
    gatewayAfter fates (some name) gateway count =
      if Nat.count (fun index => (fates index).processed = true) count = 0 then gateway
      else ⟨gateway.reservations ++ [some name]⟩ := by
  induction count with
  | zero => rfl
  | succ count ih =>
      rw [gatewayAfter, Gateway.attempt_snd, Nat.count_succ, ih]
      by_cases hprocessed : (fates count).processed = true
      · rw [if_pos hprocessed, if_pos hprocessed, if_neg (Nat.succ_ne_zero _)]
        split
        next => simp [Gateway.reserve, Gateway.Fresh, hnew]
        next => simp [Gateway.reserve, Gateway.Fresh]
      · rw [if_neg hprocessed, if_neg hprocessed, Nat.add_zero]

end Reservations

section Learned

variable (client : GatewayClient)

/-- The answer reaches the caller, with the decision of its reservation. -/
def Delivers (fate : AttemptFate) : Prop :=
  ∃ response result, fate = .responded response true ∧ response.statusCode < 400 ∧
    client.parseVerifyCapabilityResult response.text = .ok result

/-- The decisions that the caller of `verify_capability` learns. -/
def learnedDecisions (answer : Except PyExc (VerifyCapabilityResult × Option ℕ)) : List ℕ :=
  match answer with
  | .ok (_, decision) => decision.toList
  | .error _ => []

/-- At most one reservation is made, and every one that is made is learned. -/
structure ReservesOnce (before after : Gateway) (learned : List ℕ) : Prop where
  at_most_one : after.reservations.length ≤ before.reservations.length + 1
  learned : ∀ decision, before.reservations.length ≤ decision →
    decision < after.reservations.length → decision ∈ learned

/-- When an attempt makes a reservation, the last attempt delivers it: this attempt is the
last, or the requests have a key. -/
def AnswersReservation (key : Option String) (fates : ℕ → AttemptFate) (gateway : Gateway) : Prop :=
  ∀ last, LastAttempt client fates last → ∀ index ≤ last, (fates index).processed = true →
    gateway.Fresh key → Delivers client (fates last) ∧ (key.isSome = true ∨ index = last)

variable {client}
variable {key : Option String} {fates : ℕ → AttemptFate} {gateway : Gateway}

theorem Delivers.processed {fate : AttemptFate} (hdelivers : Delivers client fate) :
    fate.processed = true := by
  obtain ⟨response, result, rfl, -, -⟩ := hdelivers
  rfl

theorem mem_learnedDecisions_readAnswer {fate : AttemptFate} {decision : ℕ} :
    decision ∈ learnedDecisions (client.readAnswer (gateway.attempt key fate).1) ↔
      Delivers client fate ∧ decision = (gateway.reserve key).1 := by
  cases fate with
  | requestLost exception =>
      refine iff_of_false (fun h => nomatch h) ?_
      rintro ⟨⟨response, result, hfate, -⟩, -⟩
      cases hfate
  | responseLost exception =>
      refine iff_of_false (fun h => nomatch h) ?_
      rintro ⟨⟨response, result, hfate, -⟩, -⟩
      cases hfate
  | responded response processed =>
      obtain ⟨answer, after, hattempt⟩ := gateway.attempt_responded key response processed
      have hdelivers : Delivers client (.responded response processed) ↔
          processed = true ∧ response.statusCode < 400 ∧
            ∃ result, client.parseVerifyCapabilityResult response.text = .ok result := by
        constructor
        · rintro ⟨response', result, hfate, hstatus, hparse⟩
          cases hfate
          exact ⟨rfl, hstatus, result, hparse⟩
        · rintro ⟨rfl, hstatus, result, hparse⟩
          exact ⟨response, result, rfl, hstatus, hparse⟩
      rw [hdelivers, hattempt]
      by_cases hstatus : 400 ≤ response.statusCode
      · have hanswer : client.readAnswer (.ok (response, answer)) = .error (.other "HarborHttpError"
            s!"Gateway verify HTTP {response.statusCode}: {response.text}") := if_pos hstatus
        simp [hanswer, learnedDecisions, not_lt.mpr hstatus]
      · have hanswer : client.readAnswer (.ok (response, answer)) = (do
            let result ← client.parseVerifyCapabilityResult response.text
            return (result, answer)) := if_neg hstatus
        rw [hanswer]
        cases hparse : client.parseVerifyCapabilityResult response.text with
        | error exception => simp [learnedDecisions, bind, Except.bind]
        | ok result =>
            have hlearned : learnedDecisions (.ok (result, answer)) = answer.toList := rfl
            change decision ∈ learnedDecisions (.ok (result, answer)) ↔ _
            rw [hlearned, Option.mem_toList]
            cases processed with
            | true =>
                cases hattempt
                simp [not_le.mp hstatus, eq_comm]
            | false =>
                cases hattempt
                simp

/-- What is learned is the decision of the last attempt. -/
theorem verifyCapability_eq (idempotencyKey : Option String) (gateway : Gateway) :
    ∃ last, LastAttempt client fates last ∧
      (client.verifyCapability idempotencyKey fates gateway).2 =
        gatewayAfter fates (GatewayClient.idempotencyHeader idempotencyKey) gateway (last + 1) ∧
      ∀ decision, decision ∈
          learnedDecisions (client.verifyCapability idempotencyKey fates gateway).1 ↔
        Delivers client (fates last) ∧ decision = ((gatewayAfter fates
          (GatewayClient.idempotencyHeader idempotencyKey) gateway last).reserve
            (GatewayClient.idempotencyHeader idempotencyKey)).1 := by
  obtain ⟨last, hlast, hanswer⟩ :=
    @httpxWithGatewayRetries_eq client fates (GatewayClient.idempotencyHeader idempotencyKey) gateway
  refine ⟨last, hlast, ?_, fun decision => ?_⟩
  · simp only [GatewayClient.verifyCapability, hanswer, gatewayAfter]
  · rw [GatewayClient.verifyCapability, hanswer]
    exact mem_learnedDecisions_readAnswer

/-- The condition, at the last attempt. -/
theorem answersReservation_iff {last : ℕ} (hlast : LastAttempt client fates last) :
    AnswersReservation client key fates gateway ↔
      ∀ index ≤ last, (fates index).processed = true → gateway.Fresh key →
        Delivers client (fates last) ∧ (key.isSome = true ∨ index = last) := by
  constructor
  · exact fun hanswers => hanswers last hlast
  · intro hanswers last' hlast'
    rw [lastAttempt_unique hlast' hlast]
    exact hanswers

theorem count_pos_of_processed {index last : ℕ} (hindex : index < last)
    (hprocessed : (fates index).processed = true) :
    0 < Nat.count (fun index => (fates index).processed = true) last := by
  have hlt := Nat.count_strict_mono (p := fun index => (fates index).processed = true) hprocessed hindex
  omega

/-- Requests without a key reserve once exactly when the one that is processed is the last,
and is answered. -/
theorem reservesOnce_unkeyed {last : ℕ} {learned : List ℕ}
    (hlearned : ∀ decision, decision ∈ learned ↔
      Delivers client (fates last) ∧
        decision = ((gatewayAfter fates none gateway last).reserve none).1) :
    ReservesOnce gateway (gatewayAfter fates none gateway (last + 1)) learned ↔
      ∀ index ≤ last, (fates index).processed = true →
        Delivers client (fates last) ∧ index = last := by
  have hdecision : ((gatewayAfter fates none gateway last).reserve none).1 =
      gateway.reservations.length +
        Nat.count (fun index => (fates index).processed = true) last := by
    rw [← gatewayAfter_unkeyed]
    simp [Gateway.reserve, Gateway.Fresh]
  have hlength := @gatewayAfter_unkeyed fates gateway (last + 1)
  rw [Nat.count_succ] at hlength
  constructor
  · rintro ⟨hone, hall⟩ index hindex hprocessed
    have hcount := count_pos_of_processed (Nat.lt_add_one_of_le hindex) hprocessed
    rw [Nat.count_succ] at hcount
    have hmem := hall gateway.reservations.length le_rfl (by omega)
    rw [hlearned, hdecision] at hmem
    refine ⟨hmem.1, ?_⟩
    rcases Nat.lt_or_eq_of_le hindex with hlt | heq
    · have hbefore := count_pos_of_processed hlt hprocessed
      have := hmem.2
      omega
    · exact heq
  · intro hlast
    have hbefore : Nat.count (fun index => (fates index).processed = true) last = 0 := by
      refine Nat.count_iff_forall_not.mpr fun index hindex hprocessed => ?_
      exact absurd (hlast index hindex.le hprocessed).2 hindex.ne
    rw [hbefore] at hlength hdecision
    refine ⟨?_, fun decision hge hlt => ?_⟩
    · rw [hlength]
      split <;> omega
    · split at hlength
      next hprocessed =>
        rw [hlearned, hdecision]
        exact ⟨(hlast last le_rfl hprocessed).1, by omega⟩
      next => omega

/-- Requests with a new key reserve once exactly when the last attempt is answered, or none
is processed. -/
theorem reservesOnce_keyed {name : String} {last : ℕ} {learned : List ℕ}
    (hnew : some name ∉ gateway.reservations)
    (hlearned : ∀ decision, decision ∈ learned ↔
      Delivers client (fates last) ∧
        decision = ((gatewayAfter fates (some name) gateway last).reserve (some name)).1) :
    ReservesOnce gateway (gatewayAfter fates (some name) gateway (last + 1)) learned ↔
      ∀ index ≤ last, (fates index).processed = true → Delivers client (fates last) := by
  have hdecision : ((gatewayAfter fates (some name) gateway last).reserve (some name)).1 =
      gateway.reservations.length := by
    rw [gatewayAfter_keyed hnew]
    split
    next => simp [Gateway.reserve, Gateway.Fresh, hnew]
    next => simp [Gateway.reserve, Gateway.Fresh, List.idxOf_append_of_notMem hnew]
  rw [gatewayAfter_keyed hnew]
  constructor
  · rintro ⟨-, hall⟩ index hindex hprocessed
    have hcount := count_pos_of_processed (Nat.lt_add_one_of_le hindex) hprocessed
    rw [if_neg (by omega)] at hall
    have hmem := hall gateway.reservations.length le_rfl (by simp)
    exact ((hlearned _).mp hmem).1
  · intro hanswered
    split
    next => exact ⟨by omega, fun decision hge hlt => absurd hlt (not_lt.mpr hge)⟩
    next hcount =>
      obtain ⟨index, hindex, hprocessed⟩ := Nat.count_ne_iff_exists.mp hcount
      refine ⟨by simp, fun decision hge hlt => ?_⟩
      rw [hlearned, hdecision]
      simp only [List.length_append, List.length_singleton] at hlt
      exact ⟨hanswered index (Nat.le_of_lt_succ hindex) hprocessed, by omega⟩

/-- A verify request of the client reserves once exactly when the last attempt answers what
an attempt has reserved. -/
theorem verifyCapability_reservesOnce_iff (client : GatewayClient) (idempotencyKey : Option String)
    (fates : ℕ → AttemptFate) (gateway : Gateway) :
    ReservesOnce gateway (client.verifyCapability idempotencyKey fates gateway).2
        (learnedDecisions (client.verifyCapability idempotencyKey fates gateway).1) ↔
      AnswersReservation client (GatewayClient.idempotencyHeader idempotencyKey) fates gateway := by
  obtain ⟨last, hlast, hafter, hlearned⟩ :=
    @verifyCapability_eq client fates idempotencyKey gateway
  rw [hafter, answersReservation_iff hlast]
  generalize GatewayClient.idempotencyHeader idempotencyKey = key at hlearned ⊢
  by_cases hfresh : gateway.Fresh key
  · cases key with
    | none =>
        rw [reservesOnce_unkeyed hlearned]
        simp [hfresh]
    | some name =>
        rw [reservesOnce_keyed (hfresh.resolve_left (by simp)) hlearned]
        simp [hfresh]
  · rw [gatewayAfter_of_not_fresh hfresh]
    constructor
    · exact fun _ _ _ _ h => absurd h hfresh
    · exact fun _ => ⟨by omega, fun decision hge hlt => absurd hlt (not_lt.mpr hge)⟩

end Learned

end PaybondKit.Agent
