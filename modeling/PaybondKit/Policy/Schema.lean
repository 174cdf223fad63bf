import PaybondKit.Foundation.PyValue

/-!
# Policy documents

The dataclasses of `paybond.policy.yaml` and the parsers that validate a decoded
JSON or YAML value, with the message and the field path of every rejection. A
document is *schema-valid* when its parser returns it.
-/

namespace PaybondKit.Policy

structure PaybondPolicyValidationError where
  message : String
  path : String := "(root)"
  deriving DecidableEq, Repr

structure PaybondPolicyToolEntry where
  sideEffecting : Bool
  maxSpendCents : Option Int := none
  spendFromArgs : Option String := none
  evidencePreset : Option String := none
  vendorPack : Option String := none
  operation : Option String := none
  deriving DecidableEq, Repr

structure PaybondPolicyBinding where
  templateId : String
  versionSeq : Option Int := none
  headDigest : Option String := none
  deriving DecidableEq, Repr

structure PaybondPolicyIntentSection where
  policyBinding : Option PaybondPolicyBinding := none
  budget : Option (OrderedDict String PyValue) := none
  allowedTools : List String := []

structure PaybondPolicyAdapterSection where
  denyProviderExecutedTools : Option Bool := none
  deriving DecidableEq, Repr

structure PaybondPolicyDocumentV1 where
  name : String
  defaultDeny : Bool
  tools : OrderedDict String PaybondPolicyToolEntry
  intent : Option PaybondPolicyIntentSection := none
  adapter : Option PaybondPolicyAdapterSection := none

structure PaybondPolicyToolOverrideEntry where
  sideEffecting : Option Bool := none
  maxSpendCents : Option Int := none
  spendFromArgs : Option String := none
  evidencePreset : Option String := none
  vendorPack : Option String := none
  operation : Option String := none
  deriving DecidableEq, Repr

structure PaybondPolicyBindingOverride where
  templateId : Option String := none
  versionSeq : Option Int := none
  headDigest : Option String := none
  deriving DecidableEq, Repr

structure PaybondPolicyIntentOverrideSection where
  policyBinding : Option PaybondPolicyBindingOverride := none
  budget : Option (OrderedDict String PyValue) := none
  allowedTools : List String := []

structure PaybondPolicyExtends where
  orgPolicyId : String
  orgId : String
  baseDigest : Option String := none
  basePolicy : Option String := none
  deriving DecidableEq, Repr

structure PaybondPolicyOverrides where
  defaultDeny : Option Bool := none
  tools : Option (OrderedDict String PaybondPolicyToolOverrideEntry) := none
  intent : Option PaybondPolicyIntentOverrideSection := none
  adapter : Option PaybondPolicyAdapterSection := none

structure PaybondPolicyDocumentV2 where
  name : String
  defaultDeny : Bool
  tools : OrderedDict String PaybondPolicyToolEntry
  «extends» : Option PaybondPolicyExtends := none
  overrides : Option PaybondPolicyOverrides := none
  intent : Option PaybondPolicyIntentSection := none
  adapter : Option PaybondPolicyAdapterSection := none

/-- `PaybondPolicyDocumentV1 | PaybondPolicyDocumentV2`. -/
inductive PaybondPolicyDocument where
  | v1 (document : PaybondPolicyDocumentV1)
  | v2 (document : PaybondPolicyDocumentV2)

abbrev Parsed := Except PaybondPolicyValidationError

/-! ## Patterns

Each pattern is anchored by `fullmatch`. -/

def isLower (c : Char) : Bool := 'a' ≤ c && c ≤ 'z'

def isDigit (c : Char) : Bool := '0' ≤ c && c ≤ '9'

def isHex (c : Char) : Bool := isDigit c || ('a' ≤ c && c ≤ 'f') || ('A' ≤ c && c ≤ 'F')

/-- `first` once, then `rest` between zero and `most` times. -/
def matchesHeadTail (first rest : Char → Bool) (most : ℕ) : List Char → Bool
  | [] => false
  | c :: cs => first c && cs.all rest && cs.length ≤ most

/-- `^[a-z0-9_]{1,64}$`. -/
def identifierRe (s : String) : Bool :=
  matchesHeadTail (fun c => isLower c || isDigit c || c = '_')
    (fun c => isLower c || isDigit c || c = '_') 63 s.toList

/-- `^[a-z][a-z0-9_-]{0,63}$`. -/
def policyNameRe (s : String) : Bool :=
  matchesHeadTail isLower (fun c => isLower c || isDigit c || c = '_' || c = '-') 63 s.toList

/-- `^[a-z][a-z0-9_.-]{0,127}$`. -/
def toolNameRe (s : String) : Bool :=
  matchesHeadTail isLower (fun c => isLower c || isDigit c || c = '_' || c = '.' || c = '-') 127
    s.toList

/-- `^[a-zA-Z_][a-zA-Z0-9_.]*$`. -/
def jsonPathRe (s : String) : Bool :=
  let letter := fun c : Char => isLower c || ('A' ≤ c && c ≤ 'Z') || c = '_'
  matchesHeadTail letter (fun c => letter c || isDigit c || c = '.') s.length s.toList

/-- `^sha256:[0-9a-fA-F]{64}$`. -/
def headDigestRe (s : String) : Bool :=
  s.toList.take 7 = "sha256:".toList && (s.toList.drop 7).all isHex &&
    (s.toList.drop 7).length = 64

/-- `^[a-z]{3}$`. -/
def currencyRe (s : String) : Bool := s.toList.all isLower && s.toList.length = 3

/-- `^org_[a-z][a-z0-9_]{0,57}$`. -/
def orgIdRe (s : String) : Bool :=
  s.toList.take 4 = "org_".toList &&
    matchesHeadTail isLower (fun c => isLower c || isDigit c || c = '_') 57 (s.toList.drop 4)

/-! ## Field checks -/

def expectMapping (raw : PyValue) (path : String) : Parsed (OrderedDict String PyValue) :=
  match raw with
  | .dict items => .ok (.ofList items)
  | _ => .error { message := s!"{path} must be an object", path }

def expectBool (raw : PyValue) (path : String) : Parsed Bool :=
  match raw with
  | .bool value => .ok value
  | _ => .error { message := s!"{path} must be a boolean", path }

def expectInt (raw : PyValue) (path : String) (minimum : Int) : Parsed Int :=
  match raw with
  | .int value =>
      if value < minimum then .error { message := s!"{path} must be >= {minimum}", path }
      else .ok value
  | _ => .error { message := s!"{path} must be an integer", path }

def expectStr (raw : PyValue) (path : String) : Parsed String :=
  match raw with
  | .str "" => .error { message := s!"{path} must be a non-empty string", path }
  | .str value => .ok value
  | _ => .error { message := s!"{path} must be a non-empty string", path }

/-- A non-empty string that must match a pattern. -/
def expectPattern (pattern : String → Bool) (expected : String) (raw : PyValue) (path : String) :
    Parsed String := do
  let value ← expectStr raw path
  if pattern value then .ok value else .error { message := s!"{path} {expected}", path }

def expectIdentifier : PyValue → String → Parsed String :=
  expectPattern identifierRe "must be a snake_case identifier"

/-- A non-empty string of at most `most` characters. -/
def expectShortStr (most : ℕ) (raw : PyValue) (path : String) : Parsed String := do
  let value ← expectStr raw path
  if value.length ≤ most then .ok value
  else .error { message := s!"{path} must be at most {most} characters", path }

/-- `if field in mapping: parse(mapping[field], path=path)`. -/
def optionalAt {α : Type} (mapping : OrderedDict String PyValue) (field path : String)
    (parse : PyValue → String → Parsed α) : Parsed (Option α) :=
  match mapping.get? field with
  | none => .ok none
  | some raw => some <$> parse raw path

/-- A field of a nested mapping. -/
def optionalField {α : Type} (mapping : OrderedDict String PyValue) (path field : String)
    (parse : PyValue → String → Parsed α) : Parsed (Option α) :=
  optionalAt mapping field s!"{path}.{field}" parse

def rejectUnknown (mapping : OrderedDict String PyValue) (known : List String) (path : String) :
    Parsed Unit :=
  let unknown := mapping.keys.filter (· ∉ known)
  if unknown.isEmpty then .ok ()
  else
    let joined := ", ".intercalate (pySorted unknown)
    .error { message := s!"{path} has unknown fields: {joined}", path }

/-- `max_spend_cents and spend_from_args are mutually exclusive`. -/
def rejectSpendConflict (maxSpendCents : Option Int) (spendFromArgs : Option String)
    (path : String) : Parsed Unit :=
  if maxSpendCents.isSome && spendFromArgs.isSome then
    .error { message := s!"{path}: max_spend_cents and spend_from_args are mutually exclusive",
             path }
  else .ok ()

def requireEvidencePreset (sideEffecting : Bool) (evidencePreset : Option String)
    (path : String) : Parsed Unit :=
  if sideEffecting && evidencePreset.isNone then
    .error { message := s!"{path}: side-effecting tools must declare evidence_preset",
             path := s!"{path}.evidence_preset" }
  else .ok ()

def toolEntryFields : List String :=
  ["side_effecting", "max_spend_cents", "spend_from_args", "evidence_preset", "vendor_pack",
    "operation"]

def expectCents (raw : PyValue) (path : String) : Parsed Int := expectInt raw path 0

def expectJsonPath : PyValue → String → Parsed String :=
  expectPattern jsonPathRe "must be a dot-separated JSON path"

def expectHeadDigest : PyValue → String → Parsed String :=
  expectPattern headDigestRe "must be sha256:<64-hex>"

/-! ## Sections -/

def parseToolEntry (raw : PyValue) (path : String) : Parsed PaybondPolicyToolEntry := do
  let entry ← expectMapping raw path
  rejectUnknown entry toolEntryFields path
  let sideEffecting ← expectBool (entry.getValue "side_effecting") s!"{path}.side_effecting"
  let maxSpendCents ← optionalField entry path "max_spend_cents" expectCents
  let spendFromArgs ← optionalField entry path "spend_from_args" expectJsonPath
  rejectSpendConflict maxSpendCents spendFromArgs path
  let evidencePreset ← optionalField entry path "evidence_preset" expectIdentifier
  requireEvidencePreset sideEffecting evidencePreset path
  let vendorPack ← optionalField entry path "vendor_pack" expectIdentifier
  let operation ← optionalField entry path "operation" (expectShortStr 128)
  return { sideEffecting, maxSpendCents, spendFromArgs, evidencePreset, vendorPack, operation }

def parsePolicyBinding (raw : PyValue) (path : String) : Parsed PaybondPolicyBinding := do
  let binding ← expectMapping raw path
  rejectUnknown binding ["template_id", "version_seq", "head_digest"] path
  let templateId ← expectIdentifier (binding.getValue "template_id") s!"{path}.template_id"
  let versionSeq ← optionalField binding path "version_seq" fun raw path => expectInt raw path 1
  let headDigest ← optionalField binding path "head_digest" expectHeadDigest
  return { templateId, versionSeq, headDigest }

/-- The amount must be a number, and not below zero; `nan` is not below zero. -/
def parseBudget (raw : PyValue) (path : String) : Parsed (OrderedDict String PyValue) := do
  let budget ← expectMapping raw path
  let _currency ← expectPattern currencyRe "must be a lowercase ISO-4217 code"
    (budget.getValue "currency") s!"{path}.currency"
  match budget.get? "max_spend_usd" with
  | none => .ok budget
  | some amount =>
      match amount.number? with
      | none => .error { message := s!"{path}.max_spend_usd must be a number",
                         path := s!"{path}.max_spend_usd" }
      | some number =>
          if number < .finite 0 then
            .error { message := s!"{path}.max_spend_usd must be >= 0",
                     path := s!"{path}.max_spend_usd" }
          else .ok budget

/-- The loop over `allowed_tools`; `seen` holds the names already accepted. -/
def parseAllowedToolsFrom (path : String) (index : ℕ) (seen : List String) :
    List PyValue → Parsed (List String)
  | [] => .ok seen
  | item :: items => do
      let toolName ← expectPattern toolNameRe "must be a lowercase tool name" item
        s!"{path}.allowed_tools[{index}]"
      if toolName ∈ seen then
        .error { message := s!"{path}.allowed_tools must be unique",
                 path := s!"{path}.allowed_tools" }
      else parseAllowedToolsFrom path (index + 1) (seen ++ [toolName]) items

def parseAllowedTools (intent : OrderedDict String PyValue) (path : String) :
    Parsed (List String) :=
  match intent.get? "allowed_tools" with
  | none => .ok []
  | some (.list items) => parseAllowedToolsFrom path 0 [] items
  | some _ => .error { message := s!"{path}.allowed_tools must be an array",
                       path := s!"{path}.allowed_tools" }

def intentFields : List String := ["policy_binding", "budget", "allowed_tools"]

def parseIntent (raw : PyValue) (path : String) : Parsed PaybondPolicyIntentSection := do
  let intent ← expectMapping raw path
  rejectUnknown intent intentFields path
  let policyBinding ← optionalField intent path "policy_binding" parsePolicyBinding
  let budget ← optionalField intent path "budget" parseBudget
  let allowedTools ← parseAllowedTools intent path
  return { policyBinding, budget, allowedTools }

def rejectEmpty (mapping : OrderedDict String PyValue) (path : String) : Parsed Unit :=
  if mapping.items.isEmpty then .error { message := s!"{path} must set at least one field", path }
  else .ok ()

def parseToolOverrideEntry (raw : PyValue) (path : String) :
    Parsed PaybondPolicyToolOverrideEntry := do
  let entry ← expectMapping raw path
  rejectUnknown entry toolEntryFields path
  rejectEmpty entry path
  let sideEffecting ← optionalField entry path "side_effecting" expectBool
  let maxSpendCents ← optionalField entry path "max_spend_cents" expectCents
  let spendFromArgs ← optionalField entry path "spend_from_args" expectJsonPath
  rejectSpendConflict maxSpendCents spendFromArgs path
  let evidencePreset ← optionalField entry path "evidence_preset" expectIdentifier
  let vendorPack ← optionalField entry path "vendor_pack" expectIdentifier
  let operation ← optionalField entry path "operation" (expectShortStr 128)
  requireEvidencePreset (sideEffecting.getD false) evidencePreset path
  return { sideEffecting, maxSpendCents, spendFromArgs, evidencePreset, vendorPack, operation }

def parsePolicyBindingOverride (raw : PyValue) (path : String) :
    Parsed PaybondPolicyBindingOverride := do
  let binding ← expectMapping raw path
  rejectUnknown binding ["template_id", "version_seq", "head_digest"] path
  rejectEmpty binding path
  let templateId ← optionalField binding path "template_id" expectIdentifier
  let versionSeq ← optionalField binding path "version_seq" fun raw path => expectInt raw path 1
  let headDigest ← optionalField binding path "head_digest" expectHeadDigest
  return { templateId, versionSeq, headDigest }

def parseIntentOverride (raw : PyValue) (path : String) :
    Parsed PaybondPolicyIntentOverrideSection := do
  let intent ← expectMapping raw path
  rejectUnknown intent intentFields path
  rejectEmpty intent path
  let policyBinding ← optionalField intent path "policy_binding" parsePolicyBindingOverride
  let budget ← optionalField intent path "budget" parseBudget
  let allowedTools ← parseAllowedTools intent path
  return { policyBinding, budget, allowedTools }

def parseExtends (raw : PyValue) (path : String) : Parsed PaybondPolicyExtends := do
  let mapping ← expectMapping raw path
  rejectUnknown mapping ["org_policy_id", "org_id", "base_digest", "base_policy"] path
  let orgPolicyId ← expectPattern policyNameRe "must be a lowercase policy name"
    (mapping.getValue "org_policy_id") s!"{path}.org_policy_id"
  let orgId ← expectPattern orgIdRe "must be an org identifier (org_<snake_case>)"
    (mapping.getValue "org_id") s!"{path}.org_id"
  let baseDigest ← optionalField mapping path "base_digest" expectHeadDigest
  let basePolicy ← optionalField mapping path "base_policy" (expectShortStr 512)
  return { orgPolicyId, orgId, baseDigest, basePolicy }

def parseAdapter (raw : PyValue) (path : String) : Parsed PaybondPolicyAdapterSection := do
  let adapter ← expectMapping raw path
  rejectUnknown adapter ["deny_provider_executed_tools"] path
  let denyProviderExecutedTools ←
    optionalField adapter path "deny_provider_executed_tools" expectBool
  if denyProviderExecutedTools.isNone then
    .error { message := s!"{path} must set at least one field", path }
  else return { denyProviderExecutedTools }

/-- The loop over the items of a tools mapping. -/
def parseToolItems {α : Type} (parse : PyValue → String → Parsed α) (path : String)
    (items : List (String × PyValue)) : Parsed (OrderedDict String α) :=
  items.foldlM (fun tools (item : String × PyValue) =>
    if toolNameRe item.1 then
      tools.set item.1 <$> parse item.2 s!"{path}.{item.1}"
    else
      .error { message := s!"{path} key \"{item.1}\" must be a lowercase tool name", path })
    .empty

def parseOverrideTools (raw : PyValue) (path : String) :
    Parsed (OrderedDict String PaybondPolicyToolOverrideEntry) :=
  match raw with
  | .dict (item :: items) =>
      parseToolItems parseToolOverrideEntry path (OrderedDict.ofList (item :: items)).items
  | _ => .error { message := s!"{path} must declare at least one entry", path }

def parseOverrides (raw : PyValue) (path : String) : Parsed PaybondPolicyOverrides := do
  let overrides ← expectMapping raw path
  rejectUnknown overrides ["default_deny", "tools", "intent", "adapter"] path
  let defaultDeny ← optionalField overrides path "default_deny" expectBool
  let tools ← optionalField overrides path "tools" parseOverrideTools
  let intent ← optionalField overrides path "intent" parseIntentOverride
  let adapter ← optionalField overrides path "adapter" parseAdapter
  if defaultDeny.isNone && tools.isNone && intent.isNone && adapter.isNone then
    .error { message := s!"{path} must set default_deny, tools, intent, and/or adapter", path }
  else return { defaultDeny, tools, intent, adapter }

def parseToolsMap (raw : PyValue) (path : String) (minEntries : ℕ) :
    Parsed (OrderedDict String PaybondPolicyToolEntry) :=
  match raw with
  | .dict items =>
      let items := (OrderedDict.ofList items).items
      if items.length < minEntries then
        let noun := if minEntries = 1 then "entry" else "entries"
        .error { message := s!"{path} must declare at least {minEntries} {noun}", path }
      else parseToolItems parseToolEntry path items
  | _ => .error { message := s!"{path} must be an object", path }

/-! ## Documents -/

def paybondPolicySchemaVersion : Int := 1

def paybondPolicySchemaVersionV2 : Int := 2

def expectVersion (doc : OrderedDict String PyValue) (version : Int) : Parsed Unit :=
  if (doc.getValue "version").eqInt version then .ok ()
  else .error { message := s!"version must be {version}", path := "version" }

def expectPolicyName (raw : PyValue) : Parsed String :=
  expectPattern policyNameRe "must be a lowercase policy name" raw "name"

/-- A field of the document itself. -/
def optionalSection {α : Type} (doc : OrderedDict String PyValue) (field : String)
    (parse : PyValue → String → Parsed α) : Parsed (Option α) :=
  optionalAt doc field field parse

def parsePaybondPolicyDocumentV1 (raw : PyValue) : Parsed PaybondPolicyDocumentV1 := do
  let doc ← expectMapping raw "(root)"
  rejectUnknown doc ["version", "name", "default_deny", "tools", "intent", "adapter", "$schema"]
    "(root)"
  expectVersion doc paybondPolicySchemaVersion
  let name ← expectPolicyName (doc.getValue "name")
  let defaultDeny ← expectBool (doc.getValue "default_deny") "default_deny"
  let tools ← parseToolsMap (doc.getValue "tools") "tools" 1
  let intent ← optionalSection doc "intent" parseIntent
  let adapter ← optionalSection doc "adapter" parseAdapter
  return { name, defaultDeny, tools, intent, adapter }

def parsePaybondPolicyDocumentV2 (raw : PyValue) : Parsed PaybondPolicyDocumentV2 := do
  let doc ← expectMapping raw "(root)"
  rejectUnknown doc ["version", "name", "default_deny", "tools", "intent", "adapter", "extends",
    "overrides", "$schema"] "(root)"
  expectVersion doc paybondPolicySchemaVersionV2
  let name ← expectPolicyName (doc.getValue "name")
  let defaultDeny ← expectBool (doc.getValue "default_deny") "default_deny"
  let base ← optionalSection doc "extends" parseExtends
  let overrides ← optionalSection doc "overrides" parseOverrides
  -- An overlay may leave every tool to its org base.
  let minTools := if base.isSome then 0 else 1
  let tools ← parseToolsMap (doc.getValue "tools") "tools" minTools
  let intent ← optionalSection doc "intent" parseIntent
  let adapter ← optionalSection doc "adapter" parseAdapter
  return { name, defaultDeny, tools, «extends» := base, overrides, intent, adapter }

def isPaybondPolicyOverlay (document : PaybondPolicyDocumentV2) : Bool :=
  document.extends.isSome

def parsePaybondPolicyDocument (raw : PyValue) : Parsed PaybondPolicyDocument := do
  let doc ← expectMapping raw "(root)"
  if (doc.getValue "version").eqInt paybondPolicySchemaVersion then
    .v1 <$> parsePaybondPolicyDocumentV1 raw
  else if (doc.getValue "version").eqInt paybondPolicySchemaVersionV2 then
    .v2 <$> parsePaybondPolicyDocumentV2 raw
  else
    .error { message := s!"version must be {paybondPolicySchemaVersion} or " ++
               s!"{paybondPolicySchemaVersionV2}",
             path := "version" }

end PaybondKit.Policy
