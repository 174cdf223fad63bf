import PaybondKit.Foundation.PyValue

/-!
# The catalog of MCP scopes

What each tool of the MCP server asks of a restricted key, and the parser of the
grant that the gateway answers. A grant comes in two wire forms, may name a scope
more than once and may hold entries that the catalog does not know.
-/

namespace PaybondKit.Mcp

inductive McpScopeLevel where
  | read
  | write
  deriving DecidableEq, Repr

namespace McpScopeLevel

def levelRank : McpScopeLevel → ℕ
  | .write => 1
  | .read => 0

def text : McpScopeLevel → String
  | .read => "read"
  | .write => "write"

end McpScopeLevel

/-- One granted or required scope; `write` implies `read`. -/
structure McpScope where
  scope : String
  level : McpScopeLevel
  deriving DecidableEq, Repr

inductive PaybondApiKeyKind where
  | standard
  | restricted
  | unknown
  deriving DecidableEq, Repr

def standardApiKeyPrefix : String := "paybond_sk_"
def restrictedApiKeyPrefix : String := "paybond_rk_"
def mcpOauthAccessTokenPrefix : String := "paybond_oat_"

/-- The ids of `MCP_SCOPE_DEFINITIONS`. -/
def mcpScopeDefinitionIds : List String :=
  ["mcp.discovery", "mcp.signal", "mcp.compliance", "mcp.a2a", "mcp.receipts", "mcp.evidence",
    "mcp.spend", "mcp.settlement", "mcp.sandbox"]

def mcpToolScopes : OrderedDict String McpScope := .ofList
  [("paybond_get_principal", ⟨"mcp.discovery", .read⟩),
    ("paybond_list_intents", ⟨"mcp.discovery", .read⟩),
    ("paybond_get_intent", ⟨"mcp.discovery", .read⟩),
    ("paybond_explain_policy", ⟨"mcp.discovery", .read⟩),
    ("paybond_get_budget_remaining", ⟨"mcp.discovery", .read⟩),
    ("paybond_get_reputation_receipt", ⟨"mcp.signal", .read⟩),
    ("paybond_get_portfolio_summary", ⟨"mcp.signal", .read⟩),
    ("paybond_get_signed_portfolio_artifact", ⟨"mcp.signal", .read⟩),
    ("paybond_get_fraud_assessment", ⟨"mcp.signal", .read⟩),
    ("paybond_get_fraud_metrics", ⟨"mcp.signal", .read⟩),
    ("paybond_list_audit_exports", ⟨"mcp.compliance", .read⟩),
    ("paybond_get_audit_export", ⟨"mcp.compliance", .read⟩),
    ("paybond_get_a2a_agent_card", ⟨"mcp.a2a", .read⟩),
    ("paybond_list_a2a_task_contracts", ⟨"mcp.a2a", .read⟩),
    ("paybond_get_a2a_task_contract", ⟨"mcp.a2a", .read⟩),
    ("paybond_verify_agent_mandate_v1", ⟨"mcp.a2a", .read⟩),
    ("paybond_verify_agent_recognition_proof_v1", ⟨"mcp.a2a", .read⟩),
    ("paybond_import_agent_mandate_v1", ⟨"mcp.a2a", .write⟩),
    ("paybond_get_settlement_receipt_v1", ⟨"mcp.receipts", .read⟩),
    ("paybond_get_agent_receipt_v1", ⟨"mcp.receipts", .read⟩),
    ("paybond_verify_agent_receipt_v1", ⟨"mcp.receipts", .read⟩),
    ("paybond_verify_protocol_receipt_v1", ⟨"mcp.receipts", .read⟩),
    ("paybond_validate_completion_evidence", ⟨"mcp.evidence", .read⟩),
    ("paybond_submit_evidence", ⟨"mcp.evidence", .write⟩),
    ("paybond_submit_spend_evidence", ⟨"mcp.evidence", .write⟩),
    ("paybond_create_intent", ⟨"mcp.spend", .write⟩),
    ("paybond_create_spend_intent", ⟨"mcp.spend", .write⟩),
    ("paybond_authorize_agent_spend", ⟨"mcp.spend", .write⟩),
    ("paybond_verify_capability", ⟨"mcp.spend", .write⟩),
    ("paybond_fund_intent", ⟨"mcp.settlement", .write⟩),
    ("paybond_confirm_settlement", ⟨"mcp.settlement", .write⟩),
    ("paybond_bootstrap_sandbox_guardrail", ⟨"mcp.sandbox", .write⟩),
    ("paybond_submit_sandbox_guardrail_evidence", ⟨"mcp.sandbox", .write⟩)]

/-- `MCP_TOOL_SCOPES` names scopes of the catalog only. -/
theorem mcpToolScopes_known :
    ∀ item ∈ mcpToolScopes.items, item.2.scope ∈ mcpScopeDefinitionIds := by
  decide +kernel

def formatMcpScope (scope : McpScope) : String := s!"{scope.scope}:{scope.level.text}"

def requiredScopeForTool (name : String) : Option McpScope := mcpToolScopes.get? (pyStrip name)

def scopeSatisfies (granted : List McpScope) (required : McpScope) : Bool :=
  granted.any fun entry =>
    entry.scope = required.scope && required.level.levelRank ≤ entry.level.levelRank

def toolAllowedByScope (name : String) (granted : List McpScope) : Bool :=
  match requiredScopeForTool name with
  | none => false
  | some required => scopeSatisfies granted required

def classifyPaybondApiKey (apiKey : String) : PaybondApiKeyKind :=
  let value := (pyStrip apiKey).toList
  if restrictedApiKeyPrefix.toList.isPrefixOf value then .restricted
  else if mcpOauthAccessTokenPrefix.toList.isPrefixOf value then .restricted
  else if standardApiKeyPrefix.toList.isPrefixOf value then .standard
  else .unknown

/-! ## Reading a grant -/

section Parse

/-- `text.partition(":")`, without the separator. -/
def partitionColon (text : String) : String × String :=
  let (head, tail) := text.toList.span (· ≠ ':')
  (String.ofList head, String.ofList (tail.drop 1))

variable (lower : String → String)

def normalizeLevel : PyValue → Option McpScopeLevel
  | .str raw =>
      let value := lower (pyStrip raw)
      if value = "read" then some .read
      else if value = "write" then some .write
      else none
  | _ => none

/-- The scope id and the level of one entry of the grant. -/
def entryScope : PyValue → Option String × Option McpScopeLevel
  | .str entry =>
      let (head, tail) := partitionColon entry
      (some (pyStrip head), normalizeLevel lower (.str tail))
  | .dict entry =>
      (((PyValue.dict entry).getItem "scope").asStr.map pyStrip,
        normalizeLevel lower ((PyValue.dict entry).getItem "level"))
  | _ => (none, none)

/-- What an entry of the grant counts for. -/
def entryGrant (entry : PyValue) : Option McpScope :=
  match entryScope lower entry with
  | (some scopeId, some level) =>
      if scopeId ≠ "" ∧ scopeId ∈ mcpScopeDefinitionIds then some ⟨scopeId, level⟩ else none
  | _ => none

/-- One round of the loop over the grant. -/
def collectScope (byScope : OrderedDict String McpScopeLevel) (entry : PyValue) :
    OrderedDict String McpScopeLevel :=
  match entryGrant lower entry with
  | none => byScope
  | some ⟨scopeId, level⟩ =>
      match byScope.get? scopeId with
      | none => byScope.set scopeId level
      | some existing =>
          if existing.levelRank < level.levelRank then byScope.set scopeId level else byScope

def parseMcpScopes : PyValue → List McpScope
  | .list entries =>
      let byScope := entries.foldl (collectScope lower) .empty
      mcpScopeDefinitionIds.filterMap fun id => (byScope.get? id).map fun level => ⟨id, level⟩
  | _ => []

variable {lower}
variable {byScope : OrderedDict String McpScopeLevel} {required : McpScope} {entry : PyValue}

/-- The scopes collected so far cover what is required. -/
def Collected (byScope : OrderedDict String McpScopeLevel) (required : McpScope) : Prop :=
  ∃ level, byScope.get? required.scope = some level ∧ required.level.levelRank ≤ level.levelRank

/-- An entry of the grant covers what is required. -/
def EntrySatisfies (lower : String → String) (required : McpScope) (entry : PyValue) : Prop :=
  ∃ level, entryGrant lower entry = some ⟨required.scope, level⟩ ∧
    required.level.levelRank ≤ level.levelRank

theorem entryGrant_known {granted : McpScope} (hgrant : entryGrant lower entry = some granted) :
    granted.scope ∈ mcpScopeDefinitionIds := by
  unfold entryGrant at hgrant
  split at hgrant
  next =>
    split at hgrant
    next hknown =>
      cases hgrant
      exact hknown.2
    next => cases hgrant
  next => cases hgrant

/-- A level stored under a scope covers what the old level and the new one cover. -/
theorem collected_set {scopeId : String} {level : McpScopeLevel}
    (hold : ∀ existing, byScope.get? scopeId = some existing →
      existing.levelRank ≤ level.levelRank) :
    Collected (byScope.set scopeId level) required ↔
      Collected byScope required ∨
        scopeId = required.scope ∧ required.level.levelRank ≤ level.levelRank := by
  unfold Collected
  rw [OrderedDict.get?_set]
  by_cases hscope : required.scope = scopeId
  · have hsame : scopeId = required.scope := hscope.symm
    rw [if_pos hscope, hscope]
    constructor
    · rintro ⟨_, hlevel, hrank⟩
      cases hlevel
      exact .inr ⟨rfl, hrank⟩
    · rintro (⟨existing, hexisting, hrank⟩ | ⟨-, hrank⟩)
      · exact ⟨level, rfl, hrank.trans (hold existing hexisting)⟩
      · exact ⟨level, rfl, hrank⟩
  · rw [if_neg hscope]
    constructor
    · exact .inl
    · rintro (hcollected | ⟨hsame, -⟩)
      · exact hcollected
      · exact absurd hsame.symm hscope

theorem collected_collectScope :
    Collected (collectScope lower byScope entry) required ↔
      Collected byScope required ∨ EntrySatisfies lower required entry := by
  obtain ⟨scope, requiredLevel⟩ := required
  unfold collectScope EntrySatisfies
  split
  next hgrant =>
    rw [hgrant]
    simp
  next scopeId level hgrant =>
    -- the entry covers what its own scope and level do
    have hentry : (∃ level', entryGrant lower entry = some ⟨scope, level'⟩ ∧
        requiredLevel.levelRank ≤ level'.levelRank) ↔
        scopeId = scope ∧ requiredLevel.levelRank ≤ level.levelRank := by
      rw [hgrant]
      constructor
      · rintro ⟨level', hsame, hrank⟩
        cases hsame
        exact ⟨rfl, hrank⟩
      · rintro ⟨rfl, hrank⟩
        exact ⟨level, rfl, hrank⟩
    rw [hentry]
    split
    next hnone =>
      refine collected_set fun existing hexisting => ?_
      cases hnone.symm.trans hexisting
    next existing hexisting =>
      split
      next hlt =>
        refine collected_set fun existing' hexisting' => ?_
        cases hexisting.symm.trans hexisting'
        exact hlt.le
      next hge =>
        refine (or_iff_left_of_imp ?_).symm
        rintro ⟨rfl, hrank⟩
        exact ⟨existing, hexisting, hrank.trans (not_lt.mp hge)⟩

theorem collected_foldl (entries : List PyValue) :
    Collected (entries.foldl (collectScope lower) byScope) required ↔
      Collected byScope required ∨ ∃ entry ∈ entries, EntrySatisfies lower required entry := by
  induction entries generalizing byScope with
  | nil => simp
  | cons entry entries ih =>
      rw [List.foldl_cons, ih, collected_collectScope, or_assoc]
      simp

/-- Only scopes of the catalog are collected. -/
theorem known_of_collected {entries : List PyValue}
    (hcollected : Collected (entries.foldl (collectScope lower) .empty) required) :
    required.scope ∈ mcpScopeDefinitionIds := by
  rcases (collected_foldl entries).mp hcollected with ⟨level, hlevel, -⟩ |
    ⟨entry, -, level, hgrant, -⟩
  · cases hlevel
  · have hknown := entryGrant_known hgrant
    exact hknown

/-- What the parser makes of a grant satisfies a scope exactly when one of its entries
does: the highest of the levels named for a scope is the one that counts. -/
theorem scopeSatisfies_parseMcpScopes (entries : List PyValue) :
    scopeSatisfies (parseMcpScopes lower (.list entries)) required = true ↔
      ∃ entry ∈ entries, EntrySatisfies lower required entry := by
  have hcollected : scopeSatisfies (parseMcpScopes lower (.list entries)) required = true ↔
      Collected (entries.foldl (collectScope lower) .empty) required := by
    simp only [scopeSatisfies, parseMcpScopes, List.any_eq_true, List.mem_filterMap,
      Option.map_eq_some_iff, Bool.and_eq_true, decide_eq_true_eq]
    constructor
    · rintro ⟨_, ⟨id, -, level, hlevel, rfl⟩, hscope, hrank⟩
      exact ⟨level, by rw [← hlevel, ← hscope], hrank⟩
    · intro hcollected
      have hknown := known_of_collected hcollected
      obtain ⟨level, hlevel, hrank⟩ := hcollected
      exact ⟨_, ⟨required.scope, hknown, level, hlevel, rfl⟩, rfl, hrank⟩
  rw [hcollected, collected_foldl]
  refine or_iff_right fun hempty => ?_
  obtain ⟨level, hlevel, -⟩ := hempty
  exact absurd hlevel.symm (Option.some_ne_none level)

end Parse

end PaybondKit.Mcp
