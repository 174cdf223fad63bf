import Mathlib.Algebra.Order.Group.Defs
import Mathlib.Algebra.Order.Group.Int
import PaybondKit.Foundation.OrderedDict
import PaybondKit.Foundation.TimedCalls

/-!
# The rate limiter of the MCP HTTP server

The server counts the requests of each client in a window that starts at the first of them, and
sweeps the windows that are over from time to time. Each key has a counter of its own; the sweep
only forgets windows that the next call of their key would start anew.
-/

namespace PaybondKit.Mcp

variable {Time : Type} [AddCommGroup Time] [LinearOrder Time]

structure RateLimit (Time : Type) where
  limit : ℕ
  windowSec : Time

/-- How many calls were allowed since the window started, and when it did. -/
abbrev Bucket (Time : Type) := ℕ × Time

structure FixedWindowRateLimiter (Time : Type) where
  buckets : OrderedDict String (Bucket Time)
  lastSweep : Time

namespace FixedWindowRateLimiter

variable (rate : RateLimit Time)

def start : FixedWindowRateLimiter Time where
  buckets := OrderedDict.empty
  lastSweep := 0

def maybeSweep (now : Time) (limiter : FixedWindowRateLimiter Time) :
    FixedWindowRateLimiter Time :=
  if now - limiter.lastSweep < 5 • rate.windowSec then limiter
  else
    { buckets := limiter.buckets.filter fun _ bucket => !decide (now - bucket.2 ≥ rate.windowSec)
      lastSweep := now }

/-- What `allow` does after the sweep. -/
def count (key : String) (now : Time) (limiter : FixedWindowRateLimiter Time) :
    FixedWindowRateLimiter Time × Bool :=
  let (count, windowStart) := (limiter.buckets.get? key).getD (0, now)
  if now - windowStart ≥ rate.windowSec then
    ({ limiter with buckets := limiter.buckets.set key (1, now) }, true)
  else if count ≥ rate.limit then (limiter, false)
  else ({ limiter with buckets := limiter.buckets.set key (count + 1, windowStart) }, true)

def allow (limiter : FixedWindowRateLimiter Time) (timed : Timed Time String) :
    FixedWindowRateLimiter Time × Bool :=
  (limiter.maybeSweep rate timed.now).count rate timed.call timed.now

/-- The limiter that never deletes a bucket. -/
def allowUnswept (limiter : FixedWindowRateLimiter Time) (timed : Timed Time String) :
    FixedWindowRateLimiter Time × Bool :=
  limiter.count rate timed.call timed.now

end FixedWindowRateLimiter

/-! ## The counter of one key -/

section Counter

variable (rate : RateLimit Time)

def hit (bucket : Option (Bucket Time)) (now : Time) : Option (Bucket Time) × Bool :=
  let (count, windowStart) := bucket.getD (0, now)
  if now - windowStart ≥ rate.windowSec then (some (1, now), true)
  else if count ≥ rate.limit then (bucket, false)
  else (some (count + 1, windowStart), true)

/-- The calls of one key, and whether each is allowed. -/
def hits (bucket : Option (Bucket Time)) : List Time → List (Time × Bool)
  | [] => []
  | now :: later => (now, (hit rate bucket now).2) :: hits (hit rate bucket now).1 later

/-- The windows that the calls of one key fall into: each lasts from its first call for the
length of a window. -/
def windows : List (Time × Bool) → List (List (Time × Bool))
  | [] => []
  | first :: later =>
      (first :: later.takeWhile fun call => call.1 - first.1 < rate.windowSec) ::
        windows (later.dropWhile fun call => call.1 - first.1 < rate.windowSec)
termination_by calls => calls.length
decreasing_by
  exact Nat.lt_succ_of_le (List.dropWhile_sublist _).length_le

def allowed (calls : List (Time × Bool)) : ℕ := calls.countP Prod.snd

end Counter

variable {rate : RateLimit Time} {now last : Time} {bucket : Option (Bucket Time)} {key : String}

/-- The key has no window, or one that is over. -/
def Fresh (rate : RateLimit Time) (bucket : Option (Bucket Time)) (now : Time) : Prop :=
  ∀ count start, bucket = some (count, start) → rate.windowSec ≤ now - start

/-- Neither what was never counted nor what is over holds a call back. -/
theorem hit_fresh (hlimit : 1 ≤ rate.limit) (hbucket : Fresh rate bucket now) :
    hit rate bucket now = (some (1, now), true) := by
  cases bucket with
  | none =>
      unfold hit
      dsimp only [Option.getD_none]
      split
      · rfl
      · rw [if_neg (by omega)]
  | some bucket =>
      obtain ⟨count, start⟩ := bucket
      unfold hit
      dsimp only [Option.getD_some]
      rw [if_pos (hbucket count start rfl)]

/-! ## Sweeping -/

namespace FixedWindowRateLimiter

variable {limiter unswept : FixedWindowRateLimiter Time}

theorem count_answer :
    (limiter.count rate key now).2 = (hit rate (limiter.buckets.get? key) now).2 := by
  unfold count hit
  dsimp only
  split
  · rfl
  · split <;> rfl

/-- A call moves the counter of its key and no other. -/
theorem get?_count (other : String) : (limiter.count rate key now).1.buckets.get? other =
    if other = key then (hit rate (limiter.buckets.get? key) now).1
    else limiter.buckets.get? other := by
  unfold count hit
  dsimp only
  split
  · exact OrderedDict.get?_set _ _ _ _
  · split
    · by_cases hother : other = key
      · rw [if_pos hother, hother]
      · rw [if_neg hother]
    · exact OrderedDict.get?_set _ _ _ _

/-- The swept limiter lacks only buckets whose window is over. -/
def LacksOnlyStale (rate : RateLimit Time) (last : Time)
    (limiter unswept : FixedWindowRateLimiter Time) : Prop :=
  ∀ key, limiter.buckets.get? key = unswept.buckets.get? key ∨
    limiter.buckets.get? key = none ∧ ∃ count start,
      unswept.buckets.get? key = some (count, start) ∧ rate.windowSec ≤ last - start

theorem LacksOnlyStale.later [IsOrderedAddMonoid Time]
    (hlacks : LacksOnlyStale rate last limiter unswept) (hnow : last ≤ now) : LacksOnlyStale rate now limiter unswept := by
  intro key
  rcases hlacks key with hsame | ⟨hnone, count, start, hstale, hover⟩
  · exact .inl hsame
  · exact .inr ⟨hnone, count, start, hstale, hover.trans (sub_le_sub_right hnow start)⟩

theorem LacksOnlyStale.maybeSweep (hlacks : LacksOnlyStale rate now limiter unswept) :
    LacksOnlyStale rate now (limiter.maybeSweep rate now) unswept := by
  unfold FixedWindowRateLimiter.maybeSweep
  split
  · exact hlacks
  · intro key
    dsimp only
    rw [OrderedDict.get?_filter]
    rcases hlacks key with hsame | ⟨hnone, hstale⟩
    · rw [hsame]
      cases hbucket : unswept.buckets.get? key with
      | none => exact .inl rfl
      | some bucket =>
          by_cases hover : now - bucket.2 ≥ rate.windowSec
          · exact .inr ⟨by simp [Option.filter, hover], bucket.1, bucket.2, rfl, hover⟩
          · exact .inl (by simp [Option.filter, hover])
    · exact .inr ⟨by rw [hnone]; rfl, hstale⟩

theorem LacksOnlyStale.hit_eq (hlimit : 1 ≤ rate.limit)
    (hlacks : LacksOnlyStale rate now limiter unswept) :
    hit rate (limiter.buckets.get? key) now = hit rate (unswept.buckets.get? key) now := by
  rcases hlacks key with hsame | ⟨hnone, count, start, hstale, hover⟩
  · rw [hsame]
  · rw [hnone, hstale, hit_fresh hlimit (by simp [Fresh]), hit_fresh hlimit]
    intro count' start' hbucket
    cases hbucket
    exact hover

theorem LacksOnlyStale.count (hlimit : 1 ≤ rate.limit)
    (hlacks : LacksOnlyStale rate now limiter unswept) :
    LacksOnlyStale rate now (limiter.count rate key now).1 (unswept.count rate key now).1 := by
  intro other
  rw [get?_count, get?_count]
  by_cases hother : other = key
  · exact .inl (by rw [if_pos hother, if_pos hother, hlacks.hit_eq hlimit])
  · rw [if_neg hother, if_neg hother]
    exact hlacks other

variable [IsOrderedAddMonoid Time]

theorem simulates_unswept (hlimit : 1 ≤ rate.limit) :
    Simulates (LacksOnlyStale rate) (allow rate) (allowUnswept rate) where
  answer timed hlacks hnow := by
    have hswept := (hlacks.later hnow).maybeSweep
    rw [allow, allowUnswept, count_answer, count_answer, hswept.hit_eq hlimit]
  step timed hlacks hnow := ((hlacks.later hnow).maybeSweep).count hlimit

/-- Sweeping changes no answer. -/
theorem answers_allow (hlimit : 1 ≤ rate.limit) {calls : List (Timed Time String)}
    (hcalls : Chronological calls) :
    answers (allow rate) start calls = answers (allowUnswept rate) start calls :=
  (simulates_unswept hlimit).answers_eq hcalls fun _ _ => .inl rfl

end FixedWindowRateLimiter

/-! ## What one key is allowed -/

section Allowed

variable {times : List Time} {windowStart : Time} {count : ℕ}

theorem hit_running (hrunning : now - windowStart < rate.windowSec) :
    hit rate (some (count, windowStart)) now =
      if count ≥ rate.limit then (some (count, windowStart), false)
      else (some (count + 1, windowStart), true) := by
  unfold hit
  dsimp only [Option.getD_some]
  rw [if_neg (not_le.mpr hrunning)]

theorem hits_fresh (hlimit : 1 ≤ rate.limit) (hfresh : Fresh rate bucket now) :
    hits rate bucket (now :: times) = (now, true) :: hits rate (some (1, now)) times := by
  rw [hits, hit_fresh hlimit hfresh]

/-- What a running window still allows. -/
theorem allowed_takeWhile_hits (hcount : count ≤ rate.limit) :
    allowed ((hits rate (some (count, windowStart)) times).takeWhile
      fun call => call.1 - windowStart < rate.windowSec) ≤ rate.limit - count := by
  induction times generalizing count with
  | nil => exact Nat.zero_le _
  | cons now times ih =>
      by_cases hrunning : now - windowStart < rate.windowSec
      · rw [hits, List.takeWhile_cons_of_pos (by simpa using hrunning), hit_running hrunning]
        by_cases hfull : count ≥ rate.limit
        · rw [if_pos hfull]
          simpa [allowed] using ih hcount
        · rw [if_neg hfull]
          have hrest := @ih (count + 1) (by omega)
          simp only [allowed, List.countP_cons_of_pos] at hrest ⊢
          omega
      · rw [hits, List.takeWhile_cons_of_neg (by simpa using hrunning)]
        exact Nat.zero_le _

/-- The calls after a window find it over. -/
theorem dropWhile_hits : ∃ (bucket : Option (Bucket Time)) (later : List Time),
    ((hits rate (some (count, windowStart)) times).dropWhile
      fun call => call.1 - windowStart < rate.windowSec) = hits rate bucket later ∧
      (∀ now ∈ later.head?, Fresh rate bucket now) ∧ later.length ≤ times.length := by
  induction times generalizing count with
  | nil => exact ⟨none, [], rfl, nofun, le_refl _⟩
  | cons now times ih =>
      by_cases hrunning : now - windowStart < rate.windowSec
      · rw [hits, List.dropWhile_cons_of_pos (by simpa using hrunning), hit_running hrunning]
        by_cases hfull : count ≥ rate.limit
        · rw [if_pos hfull]
          obtain ⟨bucket, later, hdrop, hfresh, hlength⟩ := @ih count
          exact ⟨bucket, later, hdrop, hfresh, Nat.le_succ_of_le hlength⟩
        · rw [if_neg hfull]
          obtain ⟨bucket, later, hdrop, hfresh, hlength⟩ := @ih (count + 1)
          exact ⟨bucket, later, hdrop, hfresh, Nat.le_succ_of_le hlength⟩
      · refine ⟨some (count, windowStart), now :: times, ?_, ?_, le_refl _⟩
        · rw [hits, List.dropWhile_cons_of_neg (by simpa using hrunning)]
        · rintro _ ⟨rfl⟩ count' start' hbucket
          cases hbucket
          exact not_lt.mp hrunning

theorem allowed_window_le (hlimit : 1 ≤ rate.limit) (hfresh : ∀ now ∈ times.head?,
    Fresh rate bucket now) {window : List (Time × Bool)}
    (hwindow : window ∈ windows rate (hits rate bucket times)) : allowed window ≤ rate.limit := by
  induction hlength : times.length using Nat.strong_induction_on generalizing times bucket with
  | _ length ih =>
      cases times with
      | nil => simp [hits, windows] at hwindow
      | cons now times =>
          rw [hits_fresh hlimit (hfresh now rfl), windows] at hwindow
          rcases List.mem_cons.mp hwindow with rfl | hlater
          · have hrest : allowed ((hits rate (some (1, now)) times).takeWhile
                fun call => call.1 - now < rate.windowSec) ≤ rate.limit - 1 :=
              allowed_takeWhile_hits hlimit
            simp only [allowed, List.countP_cons_of_pos] at hrest ⊢
            omega
          · obtain ⟨bucket, later, hdrop, hnext, hshort⟩ := @dropWhile_hits _ _ _ rate times now 1
            rw [hdrop] at hlater
            exact ih later.length (by simp at hlength; omega) hnext hlater rfl

/-! ### In an interval -/

/-- The allowed calls at the times in question. -/
def allowedAt (inside : Time → Prop) [DecidablePred inside] (calls : List (Time × Bool)) : ℕ :=
  calls.countP fun call => call.2 && decide (inside call.1)

variable {inside : Time → Prop} [DecidablePred inside]

omit [AddCommGroup Time] [LinearOrder Time] in
theorem allowedAt_cons (call : Time × Bool) (calls : List (Time × Bool)) :
    allowedAt inside (call :: calls) =
      allowedAt inside calls + if call.2 = true ∧ inside call.1 then 1 else 0 := by
  simp [allowedAt, List.countP_cons]

theorem allowedAt_hits_eq_zero (houtside : ∀ now ∈ times, ¬inside now) :
    allowedAt inside (hits rate bucket times) = 0 := by
  induction times generalizing bucket with
  | nil => rfl
  | cons now times ih =>
      obtain ⟨hnow, hlater⟩ := List.forall_mem_cons.mp houtside
      rw [hits, allowedAt_cons, ih hlater, if_neg fun hin => hnow hin.2]

/-- No counter passes the limit. -/
theorem le_of_hit (hlimit : 1 ≤ rate.limit)
    (hbucket : ∀ count start, bucket = some (count, start) → count ≤ rate.limit) (start : Time)
    (hhit : (hit rate bucket now).1 = some (count, start)) : count ≤ rate.limit := by
  unfold hit at hhit
  dsimp only at hhit
  split at hhit
  · cases hhit
    exact hlimit
  · split at hhit
    · exact hbucket count start hhit
    next hroom =>
      cases hhit
      omega

variable [IsOrderedAddMonoid Time]

/-- Before a window is over no more is allowed than it has left. -/
theorem allowedAt_running (hcount : count ≤ rate.limit)
    (htimes : times.Pairwise (· ≤ ·))
    (hinside : ∀ now, inside now → now - windowStart < rate.windowSec) :
    allowedAt inside (hits rate (some (count, windowStart)) times) ≤ rate.limit - count := by
  induction times generalizing count with
  | nil => exact Nat.zero_le _
  | cons now times ih =>
      obtain ⟨hlater, htimes⟩ := List.pairwise_cons.mp htimes
      by_cases hrunning : now - windowStart < rate.windowSec
      · rw [hits, hit_running hrunning, allowedAt_cons]
        by_cases hfull : count ≥ rate.limit
        · rw [if_pos hfull, if_neg (by simp)]
          exact ih hcount htimes
        · rw [if_neg hfull]
          have hrest := @ih (count + 1) (by omega) htimes
          split
          all_goals
            dsimp only at hrest ⊢
            omega
      · have hover : ∀ later ∈ now :: times, ¬inside later := by
          intro later hmem hin
          have hle : now ≤ later := by
            rcases List.mem_cons.mp hmem with rfl | hmem
            · exact le_refl _
            · exact hlater later hmem
          exact hrunning ((sub_le_sub_right hle _).trans_lt (hinside later hin))
        rw [allowedAt_hits_eq_zero hover]
        exact Nat.zero_le _

/-- Before two windows are over no more is allowed than what the first has left and a second
full one. -/
theorem allowedAt_next (hlimit : 1 ≤ rate.limit) (hcount : count ≤ rate.limit)
    (htimes : times.Pairwise (· ≤ ·))
    (hinside : ∀ now, inside now → now - windowStart < rate.windowSec + rate.windowSec) :
    allowedAt inside (hits rate (some (count, windowStart)) times) ≤
      rate.limit - count + rate.limit := by
  induction times generalizing count with
  | nil => exact Nat.zero_le _
  | cons now times ih =>
      obtain ⟨hlater, htimes⟩ := List.pairwise_cons.mp htimes
      by_cases hrunning : now - windowStart < rate.windowSec
      · rw [hits, hit_running hrunning, allowedAt_cons]
        by_cases hfull : count ≥ rate.limit
        · rw [if_pos hfull, if_neg (by simp)]
          exact ih hcount htimes
        · rw [if_neg hfull]
          have hrest := @ih (count + 1) (by omega) htimes
          split
          all_goals
            dsimp only at hrest ⊢
            omega
      · have hfresh : Fresh rate (some (count, windowStart)) now := by
          intro count' start' hbucket
          cases hbucket
          exact not_lt.mp hrunning
        have hnext : ∀ later, inside later → later - now < rate.windowSec := by
          intro later hin
          have hlate := hinside later hin
          have hstart := not_lt.mp hrunning
          have hsplit : later - windowStart = (later - now) + (now - windowStart) :=
            (sub_add_sub_cancel later now windowStart).symm
          rw [hsplit] at hlate
          exact lt_of_add_lt_add_right (hlate.trans_le (add_le_add_right hstart _))
        rw [hits_fresh hlimit hfresh, allowedAt_cons]
        have hrest := allowedAt_running hlimit htimes hnext
        split
        all_goals omega

/-- In an interval of one window length no more is allowed than two windows hold. -/
theorem allowedAt_interval (hlimit : 1 ≤ rate.limit) (htimes : times.Pairwise (· ≤ ·))
    (hbucket : ∀ count start, bucket = some (count, start) → count ≤ rate.limit) {first : Time}
    (hwindow : 0 < rate.windowSec)
    (hinside : ∀ now, inside now → first ≤ now ∧ now ≤ first + rate.windowSec) :
    allowedAt inside (hits rate bucket times) ≤ 2 * rate.limit := by
  induction times generalizing bucket with
  | nil => exact Nat.zero_le _
  | cons now times ih =>
      obtain ⟨hlater, hrest⟩ := List.pairwise_cons.mp htimes
      by_cases hin : inside now
      · have hreach : ∀ later, inside later → later ≤ now + rate.windowSec := fun later hmem =>
          (hinside later hmem).2.trans (add_le_add_left (hinside now hin).1 _)
        by_cases hfresh : Fresh rate bucket now
        · have hnext : ∀ later, inside later → later - now < rate.windowSec + rate.windowSec := by
            intro later hmem
            have hle := sub_le_iff_le_add'.mpr (hreach later hmem)
            exact hle.trans_lt (lt_add_of_pos_right _ hwindow)
          have hsecond := allowedAt_next hlimit hlimit hrest hnext
          rw [hits_fresh hlimit hfresh, allowedAt_cons]
          split
          all_goals omega
        · obtain ⟨count, windowStart, rfl, hrunning⟩ :
              ∃ count windowStart, bucket = some (count, windowStart) ∧
                now - windowStart < rate.windowSec := by
            simpa [Fresh] using hfresh
          have hnext : ∀ later, inside later →
              later - windowStart < rate.windowSec + rate.windowSec := by
            intro later hmem
            have hle := sub_le_sub_right (hreach later hmem) windowStart
            rw [add_sub_right_comm] at hle
            exact hle.trans_lt (add_lt_add_left hrunning _)
          have hboth := allowedAt_next hlimit (hbucket count windowStart rfl) htimes hnext
          omega
      · rw [hits, allowedAt_cons, if_neg fun hcall => hin hcall.2]
        exact ih hrest fun count start hhit => le_of_hit hlimit hbucket start hhit

end Allowed

/-! ## Every run -/

namespace FixedWindowRateLimiter

/-- The calls of one key in a run, and whether each was allowed. -/
def servedTo (key : String) (calls : List (Timed Time String)) (results : List Bool) :
    List (Time × Bool) :=
  ((calls.zip results).filter fun served => served.1.call = key).map fun served =>
    (served.1.now, served.2)

def callTimes (key : String) (calls : List (Timed Time String)) : List Time :=
  (calls.filter fun timed => timed.call = key).map Timed.now

variable {limiter : FixedWindowRateLimiter Time} {calls : List (Timed Time String)}

omit [AddCommGroup Time] in
theorem pairwise_callTimes (hcalls : Chronological calls) :
    (callTimes key calls).Pairwise (· ≤ ·) :=
  List.pairwise_map.mpr (hcalls.sublist List.filter_sublist)

/-- Without sweeping, the calls of one key meet the counter of that key alone. -/
theorem servedTo_allowUnswept :
    servedTo key calls (answers (allowUnswept rate) limiter calls) =
      hits rate (limiter.buckets.get? key) (callTimes key calls) := by
  induction calls generalizing limiter with
  | nil => rfl
  | cons timed calls ih =>
      have hafter : (limiter.count rate timed.call timed.now).1.buckets.get? key = _ :=
        get?_count key
      have hanswer : (limiter.count rate timed.call timed.now).2 = _ := count_answer
      have hrest : servedTo key calls
          (answers (allowUnswept rate) (limiter.allowUnswept rate timed).1 calls) = _ := ih
      unfold servedTo callTimes at hrest ⊢
      by_cases hkey : timed.call = key
      · rw [answers, List.zip_cons_cons, List.filter_cons_of_pos (by simpa using hkey),
          List.filter_cons_of_pos (by simpa using hkey), List.map_cons, List.map_cons, hits, hrest,
          allowUnswept, hafter, hanswer, if_pos hkey.symm, hkey]
      · rw [answers, List.zip_cons_cons, List.filter_cons_of_neg (by simpa using hkey),
          List.filter_cons_of_neg (by simpa using hkey), hrest, allowUnswept, hafter,
          if_neg (Ne.symm hkey)]

variable [IsOrderedAddMonoid Time]

theorem servedTo_allow (hlimit : 1 ≤ rate.limit) (hcalls : Chronological calls) :
    servedTo key calls (answers (allow rate) start calls) =
      hits rate none (callTimes key calls) := by
  rw [answers_allow hlimit hcalls, servedTo_allowUnswept]
  rfl

/-- The calls of one key are answered as if there were no others. -/
theorem servedTo_allow_filter (hlimit : 1 ≤ rate.limit) (hcalls : Chronological calls)
    (key : String) :
    servedTo key calls (answers (allow rate) start calls) =
      servedTo key (calls.filter fun timed => timed.call = key)
        (answers (allow rate) start (calls.filter fun timed => timed.call = key)) := by
  have halone : Chronological (calls.filter fun timed => timed.call = key) :=
    hcalls.sublist List.filter_sublist
  rw [servedTo_allow hlimit hcalls, servedTo_allow hlimit halone, callTimes, callTimes,
    List.filter_filter]
  simp

/-- Two calls in each window of a minute. -/
def twoPerMinute : RateLimit ℤ where
  limit := 2
  windowSec := 60

/-- Calls at the end of one window and at the start of the next, the last after a sweep. -/
def twoClients : List (Timed ℤ String) :=
  [⟨0, "10.0.0.1"⟩, ⟨58, "10.0.0.2"⟩, ⟨59, "10.0.0.1"⟩, ⟨59, "10.0.0.1"⟩, ⟨60, "10.0.0.1"⟩,
    ⟨61, "10.0.0.1"⟩, ⟨400, "10.0.0.1"⟩]

end FixedWindowRateLimiter

end PaybondKit.Mcp
