import Mathlib.Data.List.Sort
import PaybondKit.Agent.Receipt
import PaybondKit.Foundation.PyJson

/-!
# Canonical policy document digests

The dictionary form of a policy document, and the digest of its text with sorted keys.
-/

namespace PaybondKit.Policy

open Agent (Platform)

/-! ## The dictionary form -/

abbrev PayloadFields := OrderedDict.Fields String PyValue

def PaybondPolicyToolEntry.payload (entry : PaybondPolicyToolEntry) : PayloadFields where
  entries :=
    [("side_effecting", some (.bool entry.sideEffecting)),
      ("max_spend_cents", entry.maxSpendCents.map .int),
      ("spend_from_args", entry.spendFromArgs.map .str),
      ("evidence_preset", entry.evidencePreset.map .str),
      ("vendor_pack", entry.vendorPack.map .str),
      ("operation", entry.operation.map .str)]
  nodup := by simp

def PaybondPolicyBinding.payload (binding : PaybondPolicyBinding) : PayloadFields where
  entries :=
    [("template_id", some (.str binding.templateId)),
      ("version_seq", binding.versionSeq.map .int),
      ("head_digest", binding.headDigest.map .str)]
  nodup := by simp

def PaybondPolicyIntentSection.payload (intent : PaybondPolicyIntentSection) : PayloadFields where
  entries :=
    [("policy_binding", intent.policyBinding.map (.dict ·.payload.items)),
      ("budget", intent.budget.map (.dict ·.items)),
      ("allowed_tools",
        if intent.allowedTools = [] then none else some (.list (intent.allowedTools.map .str)))]
  nodup := by simp

def PaybondPolicyDocumentV1.payload (document : PaybondPolicyDocumentV1) : PayloadFields where
  entries :=
    [("version", some (.int 1)),
      ("name", some (.str document.name)),
      ("default_deny", some (.bool document.defaultDeny)),
      ("tools", some (.dict (document.tools.items.map fun tool =>
        (tool.1, .dict tool.2.payload.items)))),
      ("intent", document.intent.map (.dict ·.payload.items)),
      ("adapter", (document.adapter.bind (·.denyProviderExecutedTools)).map fun deny =>
        .dict [("deny_provider_executed_tools", .bool deny)])]
  nodup := by simp

def policyDocumentToDict (document : PaybondPolicyDocumentV1) : PyValue :=
  .dict document.payload.items

/-! ## The digest -/

mutual

/-- `_canonicalize_json`: the keys of every dictionary are sorted. -/
def canonicalizeJson : PyValue → PyValue
  | .list items => .list (canonicalizeItems items)
  | .dict items => .dict ((canonicalizeMembers items).mergeSort fun first second =>
      decide (first.1 ≤ second.1))
  | value => value

def canonicalizeItems : List PyValue → List PyValue
  | [] => []
  | item :: items => canonicalizeJson item :: canonicalizeItems items

def canonicalizeMembers : List (String × PyValue) → List (String × PyValue)
  | [] => []
  | (key, value) :: items => (key, canonicalizeJson value) :: canonicalizeMembers items

end

/-- `separators=(",", ":")`. -/
def asciiCompactStyle : JsonStyle where
  itemSeparator := [',']
  keySeparator := [':']
  escape := escapeAscii

def canonicalPolicyDocumentDigest (sha256Hex : ByteArray → String)
    (floatText : PyFloat → JsonNumber) (document : PaybondPolicyDocumentV1) : String :=
  "sha256:" ++ sha256Hex (jsonDumpsBytes asciiCompactStyle
    ((canonicalizeJson (policyDocumentToDict document)).toJson floatText))

/-- The platform with the given hash. -/
def hashing (platform : Platform) (sha256Hex : ByteArray → String)
    (floatText : PyFloat → JsonNumber) : Platform :=
  { platform with documentDigest := canonicalPolicyDocumentDigest sha256Hex floatText }

end PaybondKit.Policy
