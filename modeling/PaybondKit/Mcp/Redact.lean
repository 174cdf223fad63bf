import PaybondKit.Foundation.Leaves

/-!
# Redacting the responses of tools

A response may hold credentials. Before it is returned, its capability token is put into the
runtime's cache and the values of sensitive members are replaced. Whether a value is sensitive
is decided by its own key, for the values that are neither lists nor dicts.
-/

namespace PaybondKit.Mcp

/-! ## The token cache -/

/-- Durations and clock readings are in nanoseconds. -/
structure CacheEntry where
  token : String
  storedAtMonotonic : ℕ
  deriving DecidableEq

structure McpCapabilityTokenCache where
  ttl : ℕ := 900 * 1000000000
  maxEntries : ℕ := 64
  entries : OrderedDict String CacheEntry := .empty

namespace McpCapabilityTokenCache

variable (cache : McpCapabilityTokenCache)

def evictExpired (now : ℕ) : McpCapabilityTokenCache :=
  { cache with entries := cache.entries.filter fun _ entry =>
      ¬entry.storedAtMonotonic + cache.ttl < now }

/-- The oldest entries go first. -/
def evictOverflow : McpCapabilityTokenCache :=
  { cache with entries :=
      ⟨cache.entries.items.drop (cache.entries.items.length - cache.maxEntries),
        cache.entries.nodup.sublist ((List.drop_sublist _ _).map _)⟩ }

/-- The clock is read when expired entries are evicted and when the entry is made. -/
def store (intentId token : String) (now now' : ℕ) : McpCapabilityTokenCache :=
  let key := pyStrip intentId
  let value := pyStrip token
  if key = "" ∨ value = "" then cache
  else
    let evicted := cache.evictExpired now
    let entries := (evicted.entries.erase key).set key ⟨value, now'⟩
    evictOverflow { evicted with entries }

end McpCapabilityTokenCache

def mcpCapabilityTokenStoreTools : List String :=
  ["paybond_bootstrap_sandbox_guardrail", "paybond_create_intent", "paybond_create_spend_intent",
    "paybond_fund_intent"]

def mcpToolStoresCapabilityToken (toolName : String) : Bool :=
  pyStrip toolName ∈ mcpCapabilityTokenStoreTools

/-! ## What is sensitive -/

/-- `text.endswith(ending)`. -/
def pyEndsWith (text ending : String) : Bool := ending.toList.isSuffixOf text.toList

section Keys

variable (lower : String → String) (key : String)

def sensitiveExactFields : List String := ["capability_token", "access_token", "refresh_token"]

def attachBundleFields : List String := ["attach_bundle", "paybond_attach_bundle"]

def sensitiveSeedExactFields : List String :=
  ["payee_signing_seed", "agent_recognition_signing_seed"]

def isSensitiveSeedKey : Bool :=
  lower key ∈ sensitiveSeedExactFields || pyEndsWith (lower key) "_seed" ||
    pyEndsWith (lower key) "_seed_hex"

def isAttachBundleKey : Bool := lower key ∈ attachBundleFields

/-- The first test of `_redact_sensitive_scalar`. -/
def isTokenKey : Bool :=
  lower key ∈ sensitiveExactFields || pyEndsWith (lower key) "_token" && lower key ≠ "token_type"

/-- The second test of `_redact_sensitive_scalar`. -/
def isApiKeyKey : Bool := lower key = "api_key" || pyEndsWith (lower key) "_api_key"

end Keys

def hasRedactableScalarContent : PyValue → Bool
  | .str text => pyStrip text ≠ ""
  | _ => false

/-! ## Replacing -/

/-- `value.strip().startswith("ab1.")`. -/
def isAttachBundle (text : String) : Bool := "ab1.".toList.isPrefixOf (pyStrip text).toList

def redactAttachBundle (bundle : String) : String :=
  if isAttachBundle bundle then "ab1.<redacted>" else "<redacted>"

def maskApiKey (rawKey : String) : String :=
  match ((pyStrip rawKey).toList.splitOn '_').map String.ofList with
  | first :: second :: environment :: keyId :: _ :: _ =>
      if first = "paybond" ∧ second = "sk" then
        let chars := keyId.toList
        let redacted :=
          if 12 < chars.length then
            String.ofList (chars.take 8) ++ "..." ++ String.ofList (chars.drop (chars.length - 4))
          else "redacted"
        s!"paybond_sk_{environment}_{redacted}"
      else "paybond_sk_..."
  | _ => "paybond_sk_..."

section Redaction

variable (lower : String → String)

def redactSensitiveScalar (key : String) (value : PyValue) : PyValue :=
  if isTokenKey lower key then
    if hasRedactableScalarContent value then .str "[redacted]" else value
  else if isApiKeyKey lower key then
    match value with
    | .str text => .str (maskApiKey text)
    | value => value
  else if isAttachBundleKey lower key then
    match value with
    | .str text => if pyStrip text ≠ "" then .str (redactAttachBundle text) else value
    | value => if hasRedactableScalarContent value then .str "[redacted]" else value
  else
    match value with
    | .str text =>
        if isAttachBundle text then .str (redactAttachBundle text)
        else if isSensitiveSeedKey lower key then
          if hasRedactableScalarContent value then .str "[redacted]" else value
        else value
    | value =>
        if isSensitiveSeedKey lower key then
          if hasRedactableScalarContent value then .str "[redacted]" else value
        else value

mutual

def redactSensitiveFields : PyValue → PyValue
  | .list items => .list (redactItems items)
  | .dict items => .dict (redactMembers items)
  | value => value

def redactItems : List PyValue → List PyValue
  | [] => []
  | item :: items => redactSensitiveFields item :: redactItems items

/-- A child that is a list or a dict is searched; any other is judged by its key. -/
def redactMembers : List (String × PyValue) → List (String × PyValue)
  | [] => []
  | (key, .list items) :: members => (key, .list (redactItems items)) :: redactMembers members
  | (key, .dict items) :: members => (key, .dict (redactMembers items)) :: redactMembers members
  | (key, child) :: members => (key, redactSensitiveScalar lower key child) :: redactMembers members

end

/-- `prepare_tool_response`: what is returned, and the cache afterwards. -/
def prepareToolResponse (pyStr : PyValue → String) (body : List (String × PyValue))
    (toolName : String) (now now' : ℕ) (cache : McpCapabilityTokenCache) :
    PyValue × McpCapabilityTokenCache :=
  let mapping := OrderedDict.ofList body
  let intentId := pyStrip (pyStr ((mapping.get? "intent_id").getD (.str "")))
  let stored :=
    match mapping.getValue "capability_token" with
    | .str token =>
        if mcpToolStoresCapabilityToken toolName ∧ intentId ≠ "" ∧ pyStrip token ≠ "" then
          cache.store intentId token now now'
        else cache
    | _ => cache
  (redactSensitiveFields lower (.dict body), stored)

/-! ## Leaf by leaf -/

/-- A leaf is judged by its own key; an item of a list has none. -/
def redactLeaf (place : Place) (leaf : PyValue) : PyValue :=
  match place.key with
  | some key => redactSensitiveScalar lower key leaf
  | none => leaf

variable {lower}

theorem redactSensitiveFields_leaf {leaf : PyValue} (hleaf : leaf.isLeaf = true) :
    redactSensitiveFields lower leaf = leaf := by
  cases leaf <;> first | rfl | cases hleaf

theorem redactMembers_cons (key : String) (child : PyValue) (members : List (String × PyValue)) :
    redactMembers lower ((key, child) :: members) =
      (key, if child.isLeaf then redactSensitiveScalar lower key child
        else redactSensitiveFields lower child) :: redactMembers lower members := by
  cases child <;> rfl

/-- The redaction replaces leaves; which keys are marked makes no difference to it. -/
theorem redactSensitiveFields_eq_mapLeaves (mark : String → Bool) (place : Place)
    (value : PyValue) (hkey : value.isLeaf = true → place.key = none) :
    redactSensitiveFields lower value = value.mapLeaves mark (redactLeaf lower) place := by
  induction value using PyValue.treeInduction generalizing place with
  | leaf leaf hleaf =>
      rw [redactSensitiveFields_leaf hleaf, PyValue.mapLeaves_leaf hleaf, redactLeaf, hkey hleaf]
  | list items ih =>
      rw [redactSensitiveFields, PyValue.mapLeaves, PyValue.mapItems_eq]
      congr 1
      induction items with
      | nil => rfl
      | cons item items ihItems =>
          obtain ⟨hitem, hitems⟩ := List.forall_mem_cons.mp ih
          rw [redactItems, List.map_cons,
            ihItems hitems fun hleaf => absurd hleaf Bool.false_ne_true,
            hitem ⟨place.marked mark, none⟩ fun _ => rfl]
  | dict items ih =>
      rw [redactSensitiveFields, PyValue.mapLeaves, PyValue.mapMembers_eq]
      congr 1
      induction items with
      | nil => rfl
      | cons member members ihMembers =>
          obtain ⟨key, child⟩ := member
          obtain ⟨hchild, hmembers⟩ := List.forall_mem_cons.mp ih
          rw [redactMembers_cons, List.map_cons,
            ihMembers hmembers fun hleaf => absurd hleaf Bool.false_ne_true]
          congr 2
          cases hleaf : child.isLeaf with
          | true => rw [if_pos rfl, PyValue.mapLeaves_leaf hleaf, redactLeaf]
          | false =>
              rw [if_neg Bool.false_ne_true]
              exact hchild _ fun hleaf' => absurd (hleaf.symm.trans hleaf') Bool.false_ne_true

/-! ## Which texts are replaced alike -/

/-- The value of the member is replaced without a trace of which of the two texts it was. -/
def MaskedAlike (lower : String → String) (key first second : String) : Prop :=
  if isTokenKey lower key then True
  else if isApiKeyKey lower key then maskApiKey first = maskApiKey second
  else if isAttachBundleKey lower key then isAttachBundle first = isAttachBundle second
  else
    isAttachBundle first = true ∧ isAttachBundle second = true ∨
      isSensitiveSeedKey lower key = true ∧ isAttachBundle first = false ∧
        isAttachBundle second = false

theorem ne_redacted_of_not_isAttachBundle {text : String} (htext : isAttachBundle text = false) :
    text ≠ "ab1.<redacted>" := by
  rintro rfl
  have hbundle : isAttachBundle "ab1.<redacted>" = true := by
    decide +kernel
  cases hbundle.symm.trans htext

theorem redactAttachBundle_inj {first second : String} :
    redactAttachBundle first = redactAttachBundle second ↔
      isAttachBundle first = isAttachBundle second := by
  unfold redactAttachBundle
  cases isAttachBundle first <;> cases isAttachBundle second <;> simp

/-- On texts that are not blank. -/
theorem redactSensitiveScalar_eq_iff {key first second : String} (hfirst : pyStrip first ≠ "")
    (hsecond : pyStrip second ≠ "") :
    redactSensitiveScalar lower key (.str first) = redactSensitiveScalar lower key (.str second) ↔
      first = second ∨ MaskedAlike lower key first second := by
  unfold redactSensitiveScalar MaskedAlike
  by_cases htoken : isTokenKey lower key = true
  · simp [htoken, hasRedactableScalarContent, hfirst, hsecond]
  by_cases hapi : isApiKeyKey lower key = true
  · simp only [htoken, hapi, Bool.false_eq_true, if_false, if_true, PyValue.str.injEq]
    exact ⟨.inr, fun h => h.elim (congrArg maskApiKey) id⟩
  by_cases hattach : isAttachBundleKey lower key = true
  · simp only [htoken, hapi, hattach, Bool.false_eq_true, if_false, if_true, hfirst, hsecond,
      ne_eq, not_false_eq_true, PyValue.str.injEq, redactAttachBundle_inj]
    exact ⟨.inr, fun h => h.elim (congrArg isAttachBundle) id⟩
  have hdistinct : isAttachBundle first ≠ isAttachBundle second → first ≠ second :=
    fun hbundle hsame => hbundle (congrArg isAttachBundle hsame)
  simp only [htoken, hapi, hattach, Bool.false_eq_true, if_false]
  cases hone : isAttachBundle first <;> cases htwo : isAttachBundle second <;>
    rw [hone, htwo] at hdistinct
  case true.true => simp [redactAttachBundle, hone, htwo]
  case false.false =>
    cases isSensitiveSeedKey lower key <;> simp [hasRedactableScalarContent, hfirst, hsecond]
  case true.false =>
    have hplain := ne_redacted_of_not_isAttachBundle htwo
    cases isSensitiveSeedKey lower key <;>
      simp [redactAttachBundle, hasRedactableScalarContent, hone, hsecond, hdistinct, hplain.symm]
  case false.true =>
    have hplain := ne_redacted_of_not_isAttachBundle hone
    cases isSensitiveSeedKey lower key <;>
      simp [redactAttachBundle, hasRedactableScalarContent, htwo, hfirst, hdistinct, hplain]

/-! ## What a response tells -/

/-- The values at or below the key are secret. -/
def isSecretKey (lower : String → String) (key : String) : Bool :=
  isTokenKey lower key || isSensitiveSeedKey lower key

/-- The values at or below the key may be replaced. -/
def isProtectedKey (lower : String → String) (key : String) : Bool :=
  isSecretKey lower key || isApiKeyKey lower key || isAttachBundleKey lower key

/-- Leaves that differ at most as two secrets do. -/
def SecretsApart (lower : String → String) (place : Place) (leaf other : PyValue) : Prop :=
  leaf = other ∨ place.marked (isSecretKey lower) = true ∧ ∃ first second,
    leaf = .str first ∧ other = .str second ∧ pyStrip first ≠ "" ∧ pyStrip second ≠ ""

/-- Leaves that are one, or the values of a member that masks them alike. -/
def LeafMasked (lower : String → String) (place : Place) (leaf other : PyValue) : Prop :=
  leaf = other ∨ ∃ key first second, place.key = some key ∧ leaf = .str first ∧
    other = .str second ∧ MaskedAlike lower key first second

/-- `text.startswith("ab1.")`. -/
def startsBundle (text : String) : Bool := "ab1.".toList.isPrefixOf text.toList

/-- The leaf is returned unless it is at or below a protected key or is a bundle. -/
def KeepsLeaf (lower : String → String) (place : Place) (leaf returned : PyValue) : Prop :=
  place.marked (isProtectedKey lower) = true ∨
    (∃ text, leaf = .str text ∧ startsBundle text = true) ∨ returned = leaf

/-- The value of an unprotected member that is a bundle after some blanks. -/
def PaddedBundle (lower : String → String) (place : Place) (leaf : PyValue) : Prop :=
  place.marked (isProtectedKey lower) = false ∧ place.key ≠ none ∧
    ∃ text, leaf = .str text ∧ isAttachBundle text = true ∧ startsBundle text = false

theorem redactLeaf_eq_iff {place : Place} {leaf other : PyValue}
    (hapart : SecretsApart lower place leaf other) :
    redactLeaf lower place leaf = redactLeaf lower place other ↔
      LeafMasked lower place leaf other := by
  rcases hapart with rfl | ⟨-, first, second, rfl, rfl, hfirst, hsecond⟩
  · exact ⟨fun _ => .inl rfl, fun _ => rfl⟩
  cases hkey : place.key with
  | none => simp [redactLeaf, LeafMasked, hkey]
  | some key =>
      have hscalar := @redactSensitiveScalar_eq_iff lower key _ _ hfirst hsecond
      simpa [redactLeaf, LeafMasked, hkey] using hscalar

/-- The text of a leaf is a bundle. -/
def IsBundleLeaf (leaf : PyValue) : Prop := ∃ text, leaf = .str text ∧ isAttachBundle text = true

/-- Under other keys only bundles are replaced. -/
theorem redactSensitiveScalar_unprotected {key : String} {leaf : PyValue}
    (hkey : isProtectedKey lower key = false) (hleaf : leaf.isLeaf = true) :
    IsBundleLeaf leaf ∧ redactSensitiveScalar lower key leaf = .str "ab1.<redacted>" ∨
      ¬IsBundleLeaf leaf ∧ redactSensitiveScalar lower key leaf = leaf := by
  simp only [isProtectedKey, isSecretKey, Bool.or_eq_false_iff] at hkey
  obtain ⟨⟨⟨htoken, hseed⟩, hapi⟩, hattach⟩ := hkey
  cases leaf with
  | str text =>
      cases hbundle : isAttachBundle text <;>
        simp [IsBundleLeaf, redactSensitiveScalar, redactAttachBundle, *]
  | list items => cases hleaf
  | dict items => cases hleaf
  | _ => simp [IsBundleLeaf, redactSensitiveScalar, *]

theorem keepsLeaf_iff {place : Place} {leaf : PyValue} (hleaf : leaf.isLeaf = true) :
    KeepsLeaf lower place leaf (redactLeaf lower place leaf) ↔ ¬PaddedBundle lower place leaf := by
  cases hmarked : place.marked (isProtectedKey lower) with
  | true => simp [KeepsLeaf, PaddedBundle, hmarked]
  | false =>
      cases hkey : place.key with
      | none => simp [KeepsLeaf, PaddedBundle, redactLeaf, hkey]
      | some key =>
          have hunprotected : isProtectedKey lower key = false := by
            rw [Place.marked, hkey, Bool.or_eq_false_iff] at hmarked
            exact hmarked.2
          simp only [KeepsLeaf, PaddedBundle, redactLeaf, hmarked, hkey]
          rcases redactSensitiveScalar_unprotected hunprotected hleaf with
            ⟨⟨text, rfl, hbundle⟩, hreplaced⟩ | ⟨hplain, hsame⟩
          · rw [hreplaced]
            cases hstarts : startsBundle text with
            | true => simp [hstarts]
            | false =>
                have hne : "ab1.<redacted>" ≠ text := by
                  rintro rfl
                  revert hstarts
                  decide
                simp [hbundle, hstarts, hne]
          · refine iff_of_true (.inr (.inr hsame)) ?_
            rintro ⟨-, -, text, htext, hbundle, -⟩
            exact hplain ⟨text, htext, hbundle⟩

theorem isLeaf_redactLeaf {place : Place} {leaf : PyValue} (hleaf : leaf.isLeaf = true) :
    (redactLeaf lower place leaf).isLeaf = true := by
  unfold redactLeaf redactSensitiveScalar
  split
  · repeat' split
    all_goals first | rfl | exact hleaf
  · exact hleaf

/-- Two responses that differ only in secrets. -/
def DifferInSecrets (lower : String → String) (body body' : PyValue) : Prop :=
  body.LeafWise (isSecretKey lower) (SecretsApart lower) {} body'

/-- No leaf outside protected members is changed, unless it is a bundle. -/
def KeepsOthers (lower : String → String) (body returned : PyValue) : Prop :=
  body.LeafWise (isProtectedKey lower) (KeepsLeaf lower) {} returned

/-- The secrets in which two responses differ are themselves values of members, which mask them
alike. -/
def SecretsMasked (lower : String → String) (body body' : PyValue) : Prop :=
  body.LeafWise (isSecretKey lower) (LeafMasked lower) {} body'

def NoPaddedBundle (lower : String → String) (body : PyValue) : Prop :=
  body.AllLeaves (isProtectedKey lower) (fun place leaf => ¬PaddedBundle lower place leaf) {}

/-- Responses that differ only in secrets are returned as one, and the rest of each as it is,
exactly if these secrets are masked alike and no bundle is padded. -/
theorem prepareToolResponse_hides_iff (lower : String → String) (pyStr : PyValue → String)
    {body body' : List (String × PyValue)} (toolName : String) (now now' : ℕ)
    (cache : McpCapabilityTokenCache)
    (hdiffer : DifferInSecrets lower (.dict body) (.dict body')) :
    (prepareToolResponse lower pyStr body toolName now now' cache).1 =
          (prepareToolResponse lower pyStr body' toolName now now' cache).1 ∧
        KeepsOthers lower (.dict body)
          (prepareToolResponse lower pyStr body toolName now now' cache).1 ∧
        KeepsOthers lower (.dict body')
          (prepareToolResponse lower pyStr body' toolName now now' cache).1 ↔
      SecretsMasked lower (.dict body) (.dict body') ∧
        NoPaddedBundle lower (.dict body) ∧ NoPaddedBundle lower (.dict body') := by
  have hkept : ∀ items, KeepsOthers lower (.dict items) (redactSensitiveFields lower (.dict items)) ↔
      NoPaddedBundle lower (.dict items) := by
    intro items
    rw [redactSensitiveFields_eq_mapLeaves (isProtectedKey lower) {} _ fun _ => rfl]
    exact PyValue.leafWise_mapLeaves_iff
      (fun _ _ hleaf => ⟨isLeaf_redactLeaf hleaf, keepsLeaf_iff hleaf⟩) _
  have hequal : redactSensitiveFields lower (.dict body) = redactSensitiveFields lower (.dict body') ↔
      SecretsMasked lower (.dict body) (.dict body') := by
    rw [redactSensitiveFields_eq_mapLeaves (isSecretKey lower) {} _ fun _ => rfl,
      redactSensitiveFields_eq_mapLeaves (isSecretKey lower) {} _ fun _ => rfl]
    exact PyValue.mapLeaves_eq_iff hdiffer fun _ _ _ => redactLeaf_eq_iff
  exact and_congr hequal (and_congr (hkept body) (hkept body'))

end Redaction

/-- A response with a token. -/
def responseFunded (token : PyValue) : List (String × PyValue) :=
  [("intent_id", .str "i"), ("capability_token", token)]

theorem prepareToolResponse_hides_funded :
    (prepareToolResponse id (fun _ => "i") (responseFunded (.str "cap-1")) "paybond_fund_intent" 0 0
        {}).1 =
      (prepareToolResponse id (fun _ => "i") (responseFunded (.str "cap-2")) "paybond_fund_intent" 0
        0 {}).1 := by
  have hdiffer : DifferInSecrets id (.dict (responseFunded (.str "cap-1")))
      (.dict (responseFunded (.str "cap-2"))) :=
    ⟨_, rfl, _, _, rfl, ⟨rfl, .inl rfl⟩, _, _, rfl,
      ⟨rfl, .inr ⟨by decide +kernel, _, _, rfl, rfl, by decide +kernel, by decide +kernel⟩⟩, rfl⟩
  have hmasked : SecretsMasked id (.dict (responseFunded (.str "cap-1")))
      (.dict (responseFunded (.str "cap-2"))) :=
    ⟨_, rfl, _, _, rfl, ⟨rfl, .inl rfl⟩, _, _, rfl,
      ⟨rfl, .inr ⟨_, _, _, rfl, rfl, rfl, by unfold MaskedAlike; decide +kernel⟩⟩, rfl⟩
  have hpadded : ∀ token, isAttachBundle token = false →
      NoPaddedBundle id (.dict (responseFunded (.str token))) := by
    intro token htoken
    have hnot : ∀ place text, isAttachBundle text = false → ¬PaddedBundle id place (.str text) := by
      rintro place text htext ⟨-, -, other, hother, hbundle, -⟩
      obtain rfl : text = other := PyValue.str.inj hother
      cases hbundle.symm.trans htext
    exact ⟨_, rfl, _, _, rfl, ⟨rfl, hnot _ _ (by decide +kernel)⟩, _, _, rfl,
      ⟨rfl, hnot _ _ htoken⟩, rfl⟩
  exact ((prepareToolResponse_hides_iff id (fun _ => "i") "paybond_fund_intent" 0 0 {} hdiffer).mpr
    ⟨hmasked, hpadded _ (by decide +kernel), hpadded _ (by decide +kernel)⟩).1

/-- A token in a list is returned. -/
theorem prepareToolResponse_leaks :
    DifferInSecrets id (.dict (responseFunded (.list [.str "cap-1"])))
        (.dict (responseFunded (.list [.str "cap-2"]))) ∧
      (prepareToolResponse id (fun _ => "i") (responseFunded (.list [.str "cap-1"]))
          "paybond_fund_intent" 0 0 {}).1 ≠
        (prepareToolResponse id (fun _ => "i") (responseFunded (.list [.str "cap-2"]))
          "paybond_fund_intent" 0 0 {}).1 := by
  refine ⟨⟨_, rfl, _, _, rfl, ⟨rfl, .inl rfl⟩, _, _, rfl,
    ⟨_, rfl, _, _, rfl, ⟨rfl, .inr ⟨by decide +kernel, _, _, rfl, rfl, by decide +kernel,
      by decide +kernel⟩⟩, rfl⟩, rfl⟩, ?_⟩
  simp [prepareToolResponse, responseFunded, redactSensitiveFields, redactMembers, redactItems]

end PaybondKit.Mcp
