import PaybondKit.Agent.Types

/-!
# The authorization cache

Authorizations are kept under a key that joins the tool call id and the operation
with a colon. Two pairs can share a key, so an entry is also compared with the
call that wants to use it.
-/

namespace PaybondKit.Agent

/-- 120 seconds, in nanoseconds. -/
def authorizationCacheTtl : ℕ := 120 * 1000000000

structure CachedAuthorizationEntry where
  auth : VerifyCapabilityResult
  policyDigest : Option String
  operation : String
  requestedSpendCents : Option Int
  toolName : String
  cachedAt : ℕ
  authorizedAtMs : ℕ
  deriving DecidableEq, Repr

structure AuthorizationCacheExpectation where
  operation : String
  requestedSpendCents : Option Int
  toolName : String
  deriving DecidableEq, Repr

abbrev AuthorizationCache := OrderedDict String CachedAuthorizationEntry

def authorizationCacheKey (toolCallId operation : String) : String :=
  toolCallId ++ ":" ++ operation

/-- `now - cached_at > ttl_sec`. -/
def CachedAuthorizationEntry.Expired (entry : CachedAuthorizationEntry) (now : ℕ) : Prop :=
  entry.cachedAt + authorizationCacheTtl < now

instance (entry : CachedAuthorizationEntry) (now : ℕ) : Decidable (entry.Expired now) :=
  inferInstanceAs (Decidable (_ < _))

/-- The entry was stored for a call of the expected shape. -/
def CachedAuthorizationEntry.Matches (entry : CachedAuthorizationEntry)
    (expected : AuthorizationCacheExpectation) : Prop :=
  entry.operation = expected.operation ∧
    entry.requestedSpendCents = expected.requestedSpendCents ∧
    entry.toolName = expected.toolName

instance (entry : CachedAuthorizationEntry) (expected : AuthorizationCacheExpectation) :
    Decidable (entry.Matches expected) :=
  inferInstanceAs (Decidable (_ ∧ _ ∧ _))

def evictExpiredAuthorizationCache (cache : AuthorizationCache) (now : ℕ) : AuthorizationCache :=
  cache.filter fun _ entry => ¬entry.Expired now

/-- The entry is popped whether or not it is used. -/
def takeValidCachedAuthorization (cache : AuthorizationCache) (cacheKey : String)
    (expected : AuthorizationCacheExpectation) (now : ℕ) :
    Option CachedAuthorizationEntry × AuthorizationCache :=
  ((cache.get? cacheKey).filter fun entry => ¬entry.Expired now ∧ entry.Matches expected,
    cache.erase cacheKey)

theorem takeValidCachedAuthorization_eq_some {cache : AuthorizationCache} {cacheKey : String}
    {expected : AuthorizationCacheExpectation} {now : ℕ} {entry : CachedAuthorizationEntry} :
    (takeValidCachedAuthorization cache cacheKey expected now).1 = some entry ↔
      cache.get? cacheKey = some entry ∧ ¬entry.Expired now ∧ entry.Matches expected := by
  simp [takeValidCachedAuthorization, Option.filter_eq_some_iff]

theorem get?_evictExpiredAuthorizationCache (cache : AuthorizationCache) (now : ℕ)
    (key : String) :
    (evictExpiredAuthorizationCache cache now).get? key =
      (cache.get? key).filter fun entry => ¬entry.Expired now :=
  OrderedDict.get?_filter _ cache key

/-- With the operation known, the key determines the tool call. -/
theorem authorizationCacheKey_inj {toolCallId toolCallId' operation : String}
    (hkey : authorizationCacheKey toolCallId operation =
      authorizationCacheKey toolCallId' operation) : toolCallId = toolCallId' := by
  have hlist := congrArg String.toList hkey
  simp only [authorizationCacheKey, String.toList_append] at hlist
  exact String.toList_inj.mp (List.append_cancel_right (List.append_cancel_right hlist))

end PaybondKit.Agent
