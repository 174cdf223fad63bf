import Mathlib.Algebra.Order.Group.Defs
import Mathlib.Algebra.Order.Group.Int
import PaybondKit.Foundation.PyValue
import PaybondKit.Foundation.Recency
import PaybondKit.Foundation.TimedCalls

/-!
# The capability tokens of the MCP runtime

The runtime keeps the capability tokens of funded intents in a dictionary that it sweeps before
each call and cuts down after each store. Its reference forgets no store: it says which id was
displaced, by the unexpired ids that were used after it.
-/

namespace PaybondKit.Mcp.TokenCache

variable {Time : Type} [AddCommGroup Time] [LinearOrder Time]

structure McpCapabilityTokenCacheConfig (Time : Type) where
  ttlSec : Time
  maxEntries : ℕ

structure CacheEntry (Time : Type) where
  token : String
  storedAtMonotonic : Time

/-- `now - entry.stored_at_monotonic > self._ttl_sec`. -/
def CacheEntry.expired (config : McpCapabilityTokenCacheConfig Time) (now : Time)
    (entry : CacheEntry Time) : Bool :=
  decide (now - entry.storedAtMonotonic > config.ttlSec)

inductive CacheCall where
  | store (intentId token : String)
  | resolve (intentId : String)

abbrev McpCapabilityTokenCache (Time : Type) := OrderedDict String (CacheEntry Time)

namespace McpCapabilityTokenCache

variable (config : McpCapabilityTokenCacheConfig Time)

def evictExpired (now : Time) (cache : McpCapabilityTokenCache Time) :
    McpCapabilityTokenCache Time :=
  cache.filter fun _ entry => !entry.expired config now

def evictOverflow (cache : McpCapabilityTokenCache Time) : McpCapabilityTokenCache Time :=
  cache.keepLatest config.maxEntries

def store (intentId token : String) (now : Time) (cache : McpCapabilityTokenCache Time) :
    McpCapabilityTokenCache Time :=
  let key := pyStrip intentId
  let value := pyStrip token
  if key = "" ∨ value = "" then cache
  else
    let entries :=
      (cache.evictExpired config now).set key { token := value, storedAtMonotonic := now }
    evictOverflow config (entries.moveToEnd key)

def resolve (intentId : String) (now : Time) (cache : McpCapabilityTokenCache Time) :
    McpCapabilityTokenCache Time × Option String :=
  let cache := cache.evictExpired config now
  let key := pyStrip intentId
  match cache.get? key with
  | none => (cache, none)
  | some entry =>
      if entry.expired config now then (cache.erase key, none)
      else (cache.moveToEnd key, some entry.token)

/-- A call with its one reading of the clock; a store answers nothing. -/
def perform (cache : McpCapabilityTokenCache Time) (timed : Timed Time CacheCall) :
    McpCapabilityTokenCache Time × Option String :=
  match timed.call with
  | .store intentId token => (cache.store config intentId token timed.now, none)
  | .resolve intentId => cache.resolve config intentId timed.now

end McpCapabilityTokenCache

/-! ## The reference -/

/-- What happened to the ids: the last store of each, the ids that were stored or successfully
resolved with the last one first, and those that enough unexpired others displaced since. -/
structure CacheReference (Time : Type) where
  stores : String → Option (CacheEntry Time)
  uses : List String
  displaced : String → Bool

namespace CacheReference

variable (config : McpCapabilityTokenCacheConfig Time)

def start : CacheReference Time where
  stores _ := none
  uses := []
  displaced _ := false

/-- The last store of the id, where it is at most the lifetime old and no other ids displaced it. -/
def entry? (reference : CacheReference Time) (now : Time) (key : String) :
    Option (CacheEntry Time) :=
  if reference.displaced key then none
  else (reference.stores key).filter fun entry => !entry.expired config now

def unexpired (reference : CacheReference Time) (now : Time) (key : String) : Bool :=
  (reference.stores key).any fun entry => !entry.expired config now

/-- The unexpired ids that were stored or resolved since the id was. -/
def rivals (reference : CacheReference Time) (now : Time) (key : String) : List String :=
  (usedSince key reference.uses).filter fun other => reference.unexpired config now other

/-- An id is stored; the others that now have too many rivals are displaced. -/
def recordStore (reference : CacheReference Time) (key token : String) (now : Time) :
    CacheReference Time :=
  let stored : CacheReference Time :=
    { stores := Function.update reference.stores key
        (some { token := token, storedAtMonotonic := now })
      uses := touch key reference.uses
      displaced := Function.update reference.displaced key false }
  { stored with
    displaced := fun other => stored.displaced other ||
      (other ≠ key && config.maxEntries ≤ (stored.rivals config now other).length) }

def perform (reference : CacheReference Time) (timed : Timed Time CacheCall) :
    CacheReference Time × Option String :=
  match timed.call with
  | .store intentId token =>
      if pyStrip intentId = "" ∨ pyStrip token = "" then (reference, none)
      else (reference.recordStore config (pyStrip intentId) (pyStrip token) timed.now, none)
  | .resolve intentId =>
      match reference.entry? config timed.now (pyStrip intentId) with
      | none => (reference, none)
      | some entry =>
          ({ reference with uses := touch (pyStrip intentId) reference.uses }, some entry.token)

end CacheReference

/-! ## The cache holds what the reference answers -/

variable {config : McpCapabilityTokenCacheConfig Time} {last now : Time}
  {cache : McpCapabilityTokenCache Time} {reference : CacheReference Time}
  {key other : String} {entry : CacheEntry Time}

theorem expired_iff :
    entry.expired config now = false ↔ now - entry.storedAtMonotonic ≤ config.ttlSec := by
  simp [CacheEntry.expired]

/-- What has not expired had not before. -/
theorem unexpired_before [IsOrderedAddMonoid Time] (hnow : last ≤ now)
    (hentry : entry.expired config now = false) :
    entry.expired config last = false := by
  rw [expired_iff] at hentry ⊢
  exact (sub_le_sub_right hnow _).trans hentry

namespace CacheReference

theorem entry?_eq_some :
    reference.entry? config now key = some entry ↔
      reference.stores key = some entry ∧ reference.displaced key = false ∧
        entry.expired config now = false := by
  unfold entry?
  by_cases hdisplaced : reference.displaced key = true
  · simp [hdisplaced]
  · rw [if_neg hdisplaced, Option.filter_eq_some_iff]
    simp [hdisplaced]

theorem unexpired_iff :
    reference.unexpired config now key = true ↔
      ∃ entry, reference.stores key = some entry ∧ entry.expired config now = false := by
  cases hstore : reference.stores key with
  | none => simp [unexpired, hstore]
  | some entry => simp [unexpired, hstore]

/-- The id just stored apart, a store displaces those with too many rivals. -/
theorem displaced_recordStore_of_ne {token : String} (hne : other ≠ key) :
    (reference.recordStore config key token now).displaced other = false ↔
      reference.displaced other = false ∧
        ((reference.recordStore config key token now).rivals config now other).length <
          config.maxEntries := by
  have hrecorded : (reference.recordStore config key token now).displaced other =
      (Function.update reference.displaced key false other || (other ≠ key && config.maxEntries ≤
        ((reference.recordStore config key token now).rivals config now other).length)) := rfl
  rw [hrecorded]
  simp [hne]

end CacheReference

/-- At the last reading of the clock the cache holds all that the reference can still answer, in
the order of use, and nothing that was displaced. -/
structure Holds (config : McpCapabilityTokenCacheConfig Time) (last : Time)
    (cache : McpCapabilityTokenCache Time) (reference : CacheReference Time) : Prop where
  latest : cache.latest.Sublist reference.uses
  nodup : reference.uses.Nodup
  stored : ∀ key entry, cache.get? key = some entry →
    reference.stores key = some entry ∧ reference.displaced key = false
  present : ∀ key entry, reference.entry? config last key = some entry →
    cache.get? key = some entry
  past : ∀ key entry, reference.stores key = some entry → entry.storedAtMonotonic ≤ last
  displaced : ∀ key other, other ∈ usedSince key reference.uses →
    reference.displaced key = false → reference.displaced other = false
  size : cache.latest.length ≤ config.maxEntries

namespace Holds

theorem start (last : Time) : Holds config last OrderedDict.empty CacheReference.start where
  latest := List.nil_sublist _
  nodup := List.nodup_nil
  stored _ _ hget := nomatch hget
  present _ _ hentry := by simp [CacheReference.entry?, CacheReference.start] at hentry
  past _ _ hstore := nomatch hstore
  displaced _ _ hmem := nomatch hmem
  size := Nat.zero_le _

variable [IsOrderedAddMonoid Time]

/-- The reference can answer only less as time goes by. -/
theorem later (hholds : Holds config last cache reference) (hnow : last ≤ now) :
    Holds config now cache reference where
  latest := hholds.latest
  nodup := hholds.nodup
  stored := hholds.stored
  present key entry hentry := by
    obtain ⟨hstore, hdisplaced, hexpired⟩ := CacheReference.entry?_eq_some.mp hentry
    have hbefore := unexpired_before hnow hexpired
    exact hholds.present key entry (CacheReference.entry?_eq_some.mpr ⟨hstore, hdisplaced, hbefore⟩)
  past key entry hstore := (hholds.past key entry hstore).trans hnow
  displaced := hholds.displaced
  size := hholds.size

/-- The sweep takes out what has expired, and leaves what the reference answers now. -/
theorem evictExpired (hholds : Holds config last cache reference) (hnow : last ≤ now) :
    Holds config now (cache.evictExpired config now) reference where
  latest := by
    have hfilter : (cache.evictExpired config now).latest.Sublist cache.latest := by
      rw [McpCapabilityTokenCache.evictExpired, OrderedDict.latest_filter]
      exact List.filter_sublist
    exact hfilter.trans hholds.latest
  nodup := hholds.nodup
  stored key entry hget := by
    rw [McpCapabilityTokenCache.evictExpired, OrderedDict.get?_filter,
      Option.filter_eq_some_iff] at hget
    exact hholds.stored key entry hget.1
  present key entry hentry := by
    obtain ⟨-, -, hexpired⟩ := CacheReference.entry?_eq_some.mp hentry
    rw [McpCapabilityTokenCache.evictExpired, OrderedDict.get?_filter, Option.filter_eq_some_iff]
    exact ⟨(hholds.later hnow).present key entry hentry, by simp [hexpired]⟩
  past := (hholds.later hnow).past
  displaced := hholds.displaced
  size := by
    rw [McpCapabilityTokenCache.evictExpired, OrderedDict.latest_filter]
    exact (List.length_filter_le _ _).trans hholds.size

theorem get?_evictExpired (hholds : Holds config last cache reference) (hnow : last ≤ now) :
    (cache.evictExpired config now).get? key = reference.entry? config now key := by
  ext entry
  constructor
  · intro hget
    obtain ⟨hstore, hdisplaced⟩ := (hholds.evictExpired hnow).stored key entry hget
    rw [McpCapabilityTokenCache.evictExpired, OrderedDict.get?_filter,
      Option.filter_eq_some_iff] at hget
    exact CacheReference.entry?_eq_some.mpr ⟨hstore, hdisplaced, by simpa using hget.2⟩
  · exact (hholds.evictExpired hnow).present key entry

omit [IsOrderedAddMonoid Time] in
/-- An id that the cache answers is the one used last, in both. -/
theorem touch (hholds : Holds config now cache reference) (hmem : key ∈ cache.latest) :
    Holds config now (cache.moveToEnd key)
      { reference with uses := PaybondKit.touch key reference.uses } where
  latest := by
    rw [OrderedDict.latest_moveToEnd hmem]
    exact touch_sublist hholds.latest
  nodup := nodup_touch hholds.nodup
  stored other entry hget := by
    rw [OrderedDict.get?_moveToEnd] at hget
    exact hholds.stored other entry hget
  present other entry hentry := by
    rw [OrderedDict.get?_moveToEnd]
    exact hholds.present other entry hentry
  past := hholds.past
  displaced other later hlater hdisplaced := by
    by_cases hother : other = key
    · rw [hother, usedSince_touch_self] at hlater
      cases hlater
    · rw [usedSince_touch_of_ne hother, mem_touch] at hlater
      rcases hlater with rfl | hlater
      · obtain ⟨entry, hget⟩ := Option.isSome_iff_exists.mp (OrderedDict.isSome_get?_iff.mpr hmem)
        exact (hholds.stored _ _ hget).2
      · exact hholds.displaced other later hlater hdisplaced
  size := by
    rw [OrderedDict.latest_moveToEnd hmem, length_touch_of_mem hmem]
    exact hholds.size

end Holds

/-! ### A store -/

section Store

variable {token : String}

/-- The dictionary between the insertion and the overflow. -/
def filled (cache : McpCapabilityTokenCache Time) (key token : String) (now : Time) :
    McpCapabilityTokenCache Time :=
  (cache.set key { token := token, storedAtMonotonic := now }).moveToEnd key

omit [AddCommGroup Time] [LinearOrder Time] in
theorem latest_filled : (filled cache key token now).latest = touch key cache.latest :=
  OrderedDict.latest_set_moveToEnd

omit [AddCommGroup Time] [LinearOrder Time] in
theorem get?_filled_of_ne (hne : other ≠ key) :
    (filled cache key token now).get? other = cache.get? other := by
  rw [filled, OrderedDict.get?_moveToEnd, OrderedDict.get?_set, if_neg hne]

omit [AddCommGroup Time] [LinearOrder Time] in
theorem get?_filled_self : (filled cache key token now).get? key =
    some { token := token, storedAtMonotonic := now } := by
  rw [filled, OrderedDict.get?_moveToEnd, OrderedDict.get?_set_self]

/-- Where something is still live, what is stored now is. -/
theorem unexpired_stored [IsOrderedAddMonoid Time] (hpast : entry.storedAtMonotonic ≤ now)
    (hentry : entry.expired config now = false) :
    CacheEntry.expired config now { token := token, storedAtMonotonic := now } = false := by
  rw [expired_iff] at hentry ⊢
  exact (sub_le_sub_left hpast now).trans hentry

variable [IsOrderedAddMonoid Time]

/-- After the sweep, what stands before a live id in the dictionary are its rivals. -/
theorem usedSince_filled (hholds : Holds config now cache reference)
    (hget : ∀ key, cache.get? key = reference.entry? config now key) (hne : other ≠ key)
    (hentry : cache.get? other = some entry) :
    usedSince other (filled cache key token now).latest =
      (reference.recordStore config key token now).rivals config now other := by
  have hsublist : (filled cache key token now).latest.Sublist (touch key reference.uses) := by
    rw [latest_filled]
    exact touch_sublist hholds.latest
  have hother : other ∈ (filled cache key token now).latest := by
    rw [← OrderedDict.isSome_get?_iff, get?_filled_of_ne hne, hentry]
    rfl
  obtain ⟨-, hdisplaced⟩ := hholds.stored _ _ hentry
  obtain ⟨hstore, -, hexpired⟩ := CacheReference.entry?_eq_some.mp ((hget other).symm.trans hentry)
  rw [← filter_mem_of_sublist hsublist (nodup_touch hholds.nodup),
    usedSince_filter (by simpa using hother)]
  refine List.filter_congr fun rival hrival => ?_
  rw [usedSince_touch_of_ne hne, mem_touch] at hrival
  rw [latest_filled, Bool.eq_iff_iff, decide_eq_true_iff, mem_touch,
    CacheReference.unexpired_iff]
  by_cases hkey : rival = key
  · have hlive := @unexpired_stored _ _ _ config now entry token _ (hholds.past _ _ hstore) hexpired
    simp [hkey, CacheReference.recordStore, hlive]
  · have hkept := hholds.displaced _ _ (hrival.resolve_left hkey) hdisplaced
    rw [← OrderedDict.isSome_get?_iff, hget, Option.isSome_iff_exists]
    simp [hkey, CacheReference.recordStore, CacheReference.entry?_eq_some, hkept]

/-- A live id outlasts the overflow just if it is not displaced. -/
theorem mem_latest_evictOverflow (hholds : Holds config now cache reference)
    (hget : ∀ key, cache.get? key = reference.entry? config now key) (hne : other ≠ key)
    (hentry : cache.get? other = some entry) :
    other ∈ ((filled cache key token now).evictOverflow config).latest ↔
      (reference.recordStore config key token now).displaced other = false := by
  obtain ⟨-, hdisplaced⟩ := hholds.stored _ _ hentry
  have hother : other ∈ (filled cache key token now).latest := by
    rw [← OrderedDict.isSome_get?_iff, get?_filled_of_ne hne, hentry]
    rfl
  have hrivals : usedSince other (filled cache key token now).latest = _ :=
    usedSince_filled hholds hget hne hentry
  rw [McpCapabilityTokenCache.evictOverflow, OrderedDict.latest_keepLatest, mem_take_iff hother,
    hrivals]
  rw [CacheReference.displaced_recordStore_of_ne hne]
  exact (and_iff_right hdisplaced).symm

omit [AddCommGroup Time] [LinearOrder Time] [IsOrderedAddMonoid Time] in
/-- The store of an id leaves it in the dictionary, and first. -/
theorem get?_evictOverflow_self (hmost : 1 ≤ config.maxEntries) :
    ((filled cache key token now).evictOverflow config).get? key =
      some { token := token, storedAtMonotonic := now } := by
  have hmem : key ∈ ((filled cache key token now).evictOverflow config).latest := by
    rw [McpCapabilityTokenCache.evictOverflow, OrderedDict.latest_keepLatest, latest_filled, touch]
    exact List.mem_take_iff_getElem.mpr ⟨0, by simp; omega, rfl⟩
  rw [McpCapabilityTokenCache.evictOverflow, OrderedDict.get?_keepLatest _ hmem, get?_filled_self]

omit [AddCommGroup Time] [LinearOrder Time] [IsOrderedAddMonoid Time] in
theorem get?_evictOverflow_of_ne (hne : other ≠ key)
    (hmem : other ∈ ((filled cache key token now).evictOverflow config).latest) :
    ((filled cache key token now).evictOverflow config).get? other = cache.get? other := by
  rw [McpCapabilityTokenCache.evictOverflow, OrderedDict.get?_keepLatest _ hmem,
    get?_filled_of_ne hne]

/-- A store keeps the cache on what the reference can still answer. -/
theorem Holds.store (hmost : 1 ≤ config.maxEntries) (hholds : Holds config now cache reference)
    (hget : ∀ key, cache.get? key = reference.entry? config now key) :
    Holds config now ((filled cache key token now).evictOverflow config)
      (reference.recordStore config key token now) where
  latest := by
    rw [McpCapabilityTokenCache.evictOverflow, OrderedDict.latest_keepLatest, latest_filled]
    exact (List.take_sublist _ _).trans (touch_sublist hholds.latest)
  nodup := nodup_touch hholds.nodup
  stored other entry hentry := by
    by_cases hne : other = key
    · subst hne
      rw [get?_evictOverflow_self hmost] at hentry
      exact ⟨by simpa [CacheReference.recordStore] using hentry,
        by simp [CacheReference.recordStore]⟩
    · have hmem := OrderedDict.isSome_get?_iff.mp (Option.isSome_of_eq_some hentry)
      rw [get?_evictOverflow_of_ne hne hmem] at hentry
      refine ⟨?_, (mem_latest_evictOverflow hholds hget hne hentry).mp hmem⟩
      simpa [CacheReference.recordStore, hne] using (hholds.stored _ _ hentry).1
  present other entry hentry := by
    obtain ⟨hstore, hdisplaced, hexpired⟩ := CacheReference.entry?_eq_some.mp hentry
    by_cases hne : other = key
    · subst hne
      rw [get?_evictOverflow_self hmost]
      simpa [CacheReference.recordStore] using hstore
    · have hbefore := ((CacheReference.displaced_recordStore_of_ne hne).mp hdisplaced).1
      have hcache : cache.get? other = some entry := by
        rw [hget, CacheReference.entry?_eq_some]
        exact ⟨by simpa [CacheReference.recordStore, hne] using hstore, hbefore, hexpired⟩
      have hmem := (mem_latest_evictOverflow hholds hget hne hcache).mpr hdisplaced
      rw [get?_evictOverflow_of_ne hne hmem, hcache]
  past other entry hstore := by
    by_cases hne : other = key
    · have hentry : { token := token, storedAtMonotonic := now } = entry := by
        simpa [CacheReference.recordStore, hne] using hstore
      rw [← hentry]
    · exact hholds.past other entry (by simpa [CacheReference.recordStore, hne] using hstore)
  displaced other later hlater hdisplaced := by
    by_cases hother : other = key
    · have hnone : usedSince key (reference.recordStore config key token now).uses = [] :=
        usedSince_touch_self
      rw [hother, hnone] at hlater
      cases hlater
    · have hsince : usedSince other (reference.recordStore config key token now).uses =
          PaybondKit.touch key (usedSince other reference.uses) := usedSince_touch_of_ne hother
      rw [hsince, mem_touch] at hlater
      obtain ⟨hbefore, hrivals⟩ := (CacheReference.displaced_recordStore_of_ne hother).mp hdisplaced
      by_cases hkey : later = key
      · simp [CacheReference.recordStore, hkey]
      · have hmem := hlater.resolve_left hkey
        have hfewer : ((reference.recordStore config key token now).rivals config now later).Sublist
            ((reference.recordStore config key token now).rivals config now other) :=
          (usedSince_subset (by rw [hsince, mem_touch]; exact hlater)).filter _
        exact (CacheReference.displaced_recordStore_of_ne hkey).mpr
          ⟨hholds.displaced _ _ hmem hbefore, hfewer.length_le.trans_lt hrivals⟩
  size := by
    rw [McpCapabilityTokenCache.evictOverflow, OrderedDict.latest_keepLatest]
    exact List.length_take_le _ _

end Store

/-! ### Every run -/

namespace McpCapabilityTokenCache

theorem store_eq {intentId token : String}
    (heffective : ¬(pyStrip intentId = "" ∨ pyStrip token = "")) :
    cache.store config intentId token now =
      evictOverflow config
        (filled (cache.evictExpired config now) (pyStrip intentId) (pyStrip token) now) := by
  rw [store, if_neg heffective]
  rfl

variable [IsOrderedAddMonoid Time] {timed : Timed Time CacheCall}

/-- The second check of the age finds nothing that the sweep left. -/
theorem resolve_eq {intentId : String} (hholds : Holds config last cache reference)
    (hnow : last ≤ now) :
    cache.resolve config intentId now =
      match reference.entry? config now (pyStrip intentId) with
      | none => (cache.evictExpired config now, none)
      | some entry =>
          ((cache.evictExpired config now).moveToEnd (pyStrip intentId), some entry.token) := by
  unfold resolve
  dsimp only
  rw [hholds.get?_evictExpired hnow]
  cases hentry : reference.entry? config now (pyStrip intentId) with
  | none => rfl
  | some entry =>
      obtain ⟨-, -, hexpired⟩ := CacheReference.entry?_eq_some.mp hentry
      dsimp only
      rw [if_neg (by simp [hexpired])]

theorem simulates (hmost : 1 ≤ config.maxEntries) :
    Simulates (Holds config) (perform config) (CacheReference.perform config) where
  answer {last state state'} timed hholds hnow := by
    unfold perform CacheReference.perform
    split
    · split <;> rfl
    · rw [resolve_eq hholds hnow]
      split <;> rfl
  step {last cache reference} timed hholds hnow := by
    have hswept := hholds.evictExpired hnow
    unfold perform CacheReference.perform
    split
    next call intentId token hcall =>
      by_cases hblank : pyStrip intentId = "" ∨ pyStrip token = ""
      · rw [if_pos hblank, store, if_pos hblank]
        exact hholds.later hnow
      · rw [if_neg hblank, store_eq hblank]
        exact hswept.store hmost fun key => hholds.get?_evictExpired hnow
    next call intentId hcall =>
      rw [resolve_eq hholds hnow]
      cases hentry : reference.entry? config timed.now (pyStrip intentId) with
      | none => exact hswept
      | some entry =>
          refine hswept.touch (OrderedDict.isSome_get?_iff.mp ?_)
          rw [hholds.get?_evictExpired hnow, hentry]
          rfl

/-- What can still be answered leaves only a cache that is full of such entries. -/
def DropsOnlyWhenFull (config : McpCapabilityTokenCacheConfig Time) (now : Time)
    (before after : McpCapabilityTokenCache Time) : Prop :=
  ∀ key entry, before.get? key = some entry → entry.expired config now = false →
    after.get? key = none → after.keys.length = config.maxEntries ∧
      ∀ other kept, after.get? other = some kept → kept.expired config now = false

theorem dropsOnlyWhenFull_evictOverflow {key token : String} (hmost : 1 ≤ config.maxEntries)
    (hholds : Holds config now cache reference)
    (hget : ∀ key, cache.get? key = reference.entry? config now key) :
    DropsOnlyWhenFull config now cache (evictOverflow config (filled cache key token now)) := by
  intro dropped entry hentry hexpired hnone
  have hne : dropped ≠ key := by
    rintro rfl
    rw [get?_evictOverflow_self hmost] at hnone
    cases hnone
  have hfilled : dropped ∈ (filled cache key token now).latest := by
    rw [← OrderedDict.isSome_get?_iff, get?_filled_of_ne hne, hentry]
    rfl
  have hdropped : dropped ∉ (evictOverflow config (filled cache key token now)).latest := by
    rw [← OrderedDict.isSome_get?_iff, hnone]
    simp
  refine ⟨?_, fun other kept hkept => ?_⟩
  · rw [evictOverflow, OrderedDict.latest_keepLatest, mem_take_iff hfilled, not_lt] at hdropped
    have hlong := hdropped.trans usedSince_sublist.length_le
    rw [← List.length_reverse, ← OrderedDict.latest, evictOverflow, OrderedDict.latest_keepLatest,
      List.length_take_of_le hlong]
  · by_cases hother : other = key
    · subst hother
      rw [get?_evictOverflow_self hmost] at hkept
      rw [← Option.some.inj hkept]
      exact unexpired_stored (hholds.past _ _ (hholds.stored _ _ hentry).1) hexpired
    · have hmem := OrderedDict.isSome_get?_iff.mp (Option.isSome_of_eq_some hkept)
      rw [get?_evictOverflow_of_ne hother hmem, hget] at hkept
      exact (CacheReference.entry?_eq_some.mp hkept).2.2

theorem dropsOnlyWhenFull_perform (hmost : 1 ≤ config.maxEntries)
    (hholds : Holds config last cache reference) (hnow : last ≤ timed.now) :
    DropsOnlyWhenFull config timed.now cache (cache.perform config timed).1 := by
  intro key entry hentry hexpired
  have hswept : (cache.evictExpired config timed.now).get? key = some entry := by
    rw [evictExpired, OrderedDict.get?_filter, hentry]
    simp [hexpired]
  unfold perform
  split
  next call intentId token hcall =>
    by_cases hblank : pyStrip intentId = "" ∨ pyStrip token = ""
    · rw [store, if_pos hblank, hentry]
      exact nofun
    · rw [store_eq hblank]
      exact dropsOnlyWhenFull_evictOverflow hmost (hholds.evictExpired hnow)
        (fun key => hholds.get?_evictExpired hnow) key entry hswept hexpired
  next call intentId hcall =>
    rw [resolve_eq hholds hnow]
    cases reference.entry? config timed.now (pyStrip intentId) with
    | none =>
        dsimp only
        rw [hswept]
        exact nofun
    | some found =>
        dsimp only
        rw [OrderedDict.get?_moveToEnd, hswept]
        exact nofun

/-- A cache of one entry, with the lifetime that the runtime sets. -/
def singleEntry : McpCapabilityTokenCacheConfig ℤ where
  ttlSec := 900
  maxEntries := 1

/-- The second intent takes the place of the first and outlives it. -/
def twoIntents : List (Timed ℤ CacheCall) :=
  [⟨0, .store "intent-1" "token-1"⟩, ⟨5, .store " intent-2 " "token-2"⟩,
    ⟨6, .resolve "intent-1"⟩, ⟨905, .resolve "intent-2"⟩, ⟨906, .resolve "intent-2"⟩]

end McpCapabilityTokenCache

end PaybondKit.Mcp.TokenCache
