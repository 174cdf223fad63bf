import Mathlib.Data.List.Infix
import PaybondKit.Agent.Instrument
import PaybondKit.Foundation.PyNumber
import PaybondKit.Policy.Merge
import PaybondKit.Policy.SchemaForm

/-!
# Composing guardrail layers

A layer holds whatever a guardrail document says, or what a guardrail constructor asks for.
Layers are applied to a domain document one after another, part by part.
-/

namespace PaybondKit.Policy

open Agent (PyExc PlatformText)

structure PolicyGuardrailLayer where
  defaultDeny : Option Bool := none
  tools : Option (OrderedDict String PyValue) := none
  intent : Option (OrderedDict String PyValue) := none
  readOnly : Bool := false
  readOnlySearch : Bool := false
  sideEffectingMaxSpendCents : Option Int := none
  budgetMaxSpendUsd : Option PyFloat := none
  requireEvidence : Bool := false

/-! ## Layers -/

namespace Guardrails

def defaultDeny : PolicyGuardrailLayer := { defaultDeny := some true }

def maxSpend (cents : Int) : Except PyExc PolicyGuardrailLayer :=
  if cents < 0 then
    .error (.valueError "max_spend requires a non-negative integer cents value")
  else .ok { sideEffectingMaxSpendCents := some cents }

def maxSpendUsd (usd : PyFloat) : Except PyExc PolicyGuardrailLayer :=
  if usd < .finite 0 then
    .error (.valueError "max_spend_usd requires a non-negative USD value")
  else .ok { budgetMaxSpendUsd := some usd }

def readOnly : PolicyGuardrailLayer := { readOnly := true }

def readOnlySearch : PolicyGuardrailLayer := { readOnlySearch := true }

def strict : PolicyGuardrailLayer where
  defaultDeny := some true
  sideEffectingMaxSpendCents := some 1000
  budgetMaxSpendUsd := some (.finite 10)
  requireEvidence := true

def requireEvidence : PolicyGuardrailLayer := { requireEvidence := true }

def auditOnly : PolicyGuardrailLayer := {}

def allowDryRun : PolicyGuardrailLayer := {}

end Guardrails

/-- `dict(value) if isinstance(value, dict) else None`. -/
def mappingOf : PyValue → Option (OrderedDict String PyValue)
  | .dict items => some (.ofList items)
  | _ => none

def guardrailLayerFromDocument (document : OrderedDict String PyValue) :
    PolicyGuardrailLayer where
  defaultDeny := match document.getValue "default_deny" with
    | .bool true => some true
    | _ => none
  tools := mappingOf (document.getValue "tools")
  intent := mappingOf (document.getValue "intent")

/-! ## Conversions -/

def typeError (message : String) : PyExc := .other "TypeError" message

section Conversions

variable (platform : PlatformText)

/-- `int(value)`. -/
def pyInt (parseInt : String → Except PyExc Int) : PyValue → Except PyExc Int
  | .bool value => .ok (if value then 1 else 0)
  | .int value => .ok value
  | .float .nan => .error (.valueError "cannot convert float NaN to integer")
  | .float value =>
      match truncate value with
      | some whole => .ok whole
      | none => .error (.other "OverflowError" "cannot convert float infinity to integer")
  | .str value => parseInt value
  | _ => .error (typeError "int() argument must be a string or a real number")

/-- `float(value)`. -/
def pyFloat : PyValue → Except PyExc PyFloat
  | .bool value => .ok (.finite (if value then 1 else 0))
  | .int value =>
      match doubleOfInt value with
      | some double => .ok double
      | none => .error (.other "OverflowError" "int too large to convert to float")
  | .float value => .ok value
  | .str value => platform.parseFloat value
  | _ => .error (typeError "float() argument must be a string or a real number")

end Conversions

/-- `tuple(value)` of names. An item that is no string names no operation. -/
def namesTuple : PyValue → Except PyExc (List String)
  | .list items =>
      items.mapM fun item => item.asStr.elim
        (.error (typeError "allowed_tools entries must be strings")) .ok
  | .str value => .ok (value.toList.map String.singleton)
  | .dict items => .ok (OrderedDict.ofList items).keys
  | _ => .error (typeError "object is not iterable")

/-- One element of a sequence that `dict.update` is given. -/
def updatePair : PyValue → Except PyExc (String × PyValue)
  | .list [.str key, value] => .ok (key, value)
  | .str text =>
      match text.toList with
      | [first, second] => .ok (String.singleton first, .str (String.singleton second))
      | _ => .error (.valueError "dictionary update sequence element has the wrong length")
  | .dict items =>
      match (OrderedDict.ofList items).keys with
      | [first, second] => .ok (first, .str second)
      | _ => .error (.valueError "dictionary update sequence element has the wrong length")
  | .list _ => .error (.valueError "dictionary update sequence element has the wrong length")
  | _ => .error (typeError "cannot convert dictionary update sequence element to a sequence")

/-- What `dict.update(value)` sets, in order. -/
def updatePairs : PyValue → Except PyExc (List (String × PyValue))
  | .dict items => .ok (OrderedDict.ofList items).items
  | .list items => items.mapM updatePair
  | .str "" => .ok []
  | .str _ => .error (.valueError "dictionary update sequence element has the wrong length")
  | _ => .error (typeError "object is not iterable")

/-! ## Tool patches -/

/-- `patch[key]` if `key in patch`. -/
def patchField (patch : PyValue) (key : String) : Except PyExc (Option PyValue) :=
  match patch with
  | .dict items => .ok ((OrderedDict.ofList items).get? key)
  | .str text =>
      if key.toList <:+: text.toList then .error (typeError "string indices must be integers")
      else .ok none
  | .list items =>
      if items.any fun item => item.asStr = some key then
        .error (typeError "list indices must be integers or slices")
      else .ok none
  | _ => .error (typeError "argument is not iterable")

/-- `if key in patch: merged = apply(merged, patch[key])`. -/
def patchWith (patch : PyValue) (key : String)
    (apply : PaybondPolicyToolEntry → PyValue → Except PyExc PaybondPolicyToolEntry)
    (merged : PaybondPolicyToolEntry) : Except PyExc PaybondPolicyToolEntry := do
  match ← patchField patch key with
  | none => return merged
  | some value => apply merged value

/-- The smaller of the cap an entry has and another one. -/
def tighterCap (cap : Option Int) (cents : Int) : Int := cap.elim cents (min · cents)

section Layers

variable (platform : PlatformText) (parseInt : String → Except PyExc Int)

/-- `_merge_tool_entry`. -/
def mergeToolEntry (base : PaybondPolicyToolEntry) (patch : PyValue) :
    Except PyExc PaybondPolicyToolEntry := do
  let merged ← patchWith patch "side_effecting"
    (fun merged value => .ok { merged with sideEffecting := value.truthy }) base
  let merged ← patchWith patch "max_spend_cents"
    (fun merged value => do
      let cents ← pyInt parseInt value
      return { merged with maxSpendCents := some (tighterCap merged.maxSpendCents cents) }) merged
  -- reading the amount from the arguments erases a fixed cap
  let merged ← patchWith patch "spend_from_args"
    (fun merged value => .ok { merged with spendFromArgs := some (platform.pyStr value)
                                           maxSpendCents := none }) merged
  let merged ← patchWith patch "evidence_preset"
    (fun merged value => .ok { merged with evidencePreset := some (platform.pyStr value) }) merged
  let merged ← patchWith patch "vendor_pack"
    (fun merged value => .ok { merged with vendorPack := some (platform.pyStr value) }) merged
  patchWith patch "operation"
    (fun merged value => .ok { merged with operation := some (platform.pyStr value) }) merged

/-! ## The parts of a layer -/

def applyDefaultDeny (layer : PolicyGuardrailLayer) (document : PaybondPolicyDocumentV1) :
    PaybondPolicyDocumentV1 :=
  match layer.defaultDeny with
  | none => document
  | some deny =>
      { document with defaultDeny := mergeStricterDefaultDeny [document.defaultDeny, deny] }

/-- The loop over `layer.tools`; a tool that the document lacks is passed over. -/
def patchTools (layer : PolicyGuardrailLayer)
    (tools : OrderedDict String PaybondPolicyToolEntry) :
    Except PyExc (OrderedDict String PaybondPolicyToolEntry) :=
  (layer.tools.elim [] (·.items)).foldlM (fun tools (patch : String × PyValue) =>
    match tools.get? patch.1 with
    | none => .ok tools
    | some existing => tools.set patch.1 <$> mergeToolEntry platform parseInt existing patch.2)
    tools

def applyToolPatches (layer : PolicyGuardrailLayer) (document : PaybondPolicyDocumentV1) :
    Except PyExc PaybondPolicyDocumentV1 := do
  let tools ← patchTools platform parseInt layer document.tools
  return { document with tools }

/-- The budget, unless it is missing or empty. -/
def nonemptyBudget (intent : Option PaybondPolicyIntentSection) :
    Option (OrderedDict String PyValue) :=
  (intent.bind (·.budget)).filter (!·.items.isEmpty)

/-- An allowlist replaces the document's. -/
def patchAllowedTools (patch : OrderedDict String PyValue)
    (intent : Option PaybondPolicyIntentSection) : Except PyExc (List String) :=
  match patch.get? "allowed_tools" with
  | none => .ok ((intent.map (·.allowedTools)).getD [])
  | some value => namesTuple value

/-- A budget is written over the document's. -/
def patchBudget (patch : OrderedDict String PyValue)
    (intent : Option PaybondPolicyIntentSection) :
    Except PyExc (Option (OrderedDict String PyValue)) :=
  match patch.get? "budget" with
  | none => .ok (nonemptyBudget intent)
  | some value => do
      let pairs ← updatePairs value
      return some (pairs.foldl (fun budget pair => budget.set pair.1 pair.2)
        ((nonemptyBudget intent).getD .empty))

def patchIntent (layer : PolicyGuardrailLayer) (intent : Option PaybondPolicyIntentSection) :
    Except PyExc (Option PaybondPolicyIntentSection) :=
  match layer.intent.filter (!·.items.isEmpty) with
  | none => .ok intent
  | some patch => do
      let allowedTools ← patchAllowedTools patch intent
      let budget ← patchBudget patch intent
      return some { policyBinding := intent.bind (·.policyBinding), budget, allowedTools }

def applyIntentPatch (layer : PolicyGuardrailLayer) (document : PaybondPolicyDocumentV1) :
    Except PyExc PaybondPolicyDocumentV1 := do
  let intent ← patchIntent layer document.intent
  return { document with intent }

/-- The entry under one more cap, as `_merge_tool_entry` makes it. -/
def capEntry (cents : Int) (entry : PaybondPolicyToolEntry) : PaybondPolicyToolEntry :=
  if entry.sideEffecting then
    { entry with maxSpendCents := some (tighterCap entry.maxSpendCents cents) }
  else entry

def applySpendCap (layer : PolicyGuardrailLayer) (document : PaybondPolicyDocumentV1) :
    PaybondPolicyDocumentV1 :=
  match layer.sideEffectingMaxSpendCents with
  | none => document
  | some cents => { document with tools := document.tools.mapValues fun _ => capEntry cents }

/-- `min(float(current), usd)`, where there is a current amount. -/
def cappedAmount (usd : PyFloat) (budget : OrderedDict String PyValue) : Except PyExc PyFloat :=
  match (budget.getValue "max_spend_usd").some? with
  | none => .ok usd
  | some current =>
      (fun double => if usd < double then usd else double) <$> pyFloat platform current

/-- The budget under one more cap. -/
def capBudget (usd : PyFloat) (budget : OrderedDict String PyValue) :
    Except PyExc (OrderedDict String PyValue) := do
  let amount ← cappedAmount platform usd budget
  let currency := (budget.getValue "currency").truthy?.getD (.str "usd")
  return (budget.set "currency" currency).set "max_spend_usd" (.float amount)

def capIntent (layer : PolicyGuardrailLayer) (intent : Option PaybondPolicyIntentSection) :
    Except PyExc (Option PaybondPolicyIntentSection) :=
  match layer.budgetMaxSpendUsd with
  | none => .ok intent
  | some usd => do
      let budget ← capBudget platform usd ((nonemptyBudget intent).getD .empty)
      return some { intent.getD {} with budget := some budget }

def applyBudgetCap (layer : PolicyGuardrailLayer) (document : PaybondPolicyDocumentV1) :
    Except PyExc PaybondPolicyDocumentV1 := do
  let intent ← capIntent platform layer document.intent
  return { document with intent }

/-- `_apply_read_only_filter` keeps the read-only tools, and of these the search tools. -/
def keptReadOnly (searchOnly : Bool) (toolName : String) (entry : PaybondPolicyToolEntry) : Bool :=
  !entry.sideEffecting && (!searchOnly || "search.".toList.isPrefixOf toolName.toList)

def applyReadOnlyFilter (searchOnly : Bool) (document : PaybondPolicyDocumentV1) :
    PaybondPolicyDocumentV1 :=
  let tools := document.tools.filter (keptReadOnly searchOnly)
  { document with
    tools
    intent := document.intent.map fun intent =>
      { intent with allowedTools := intent.allowedTools.filter (tools.contains ·) } }

def applyReadOnly (layer : PolicyGuardrailLayer) (document : PaybondPolicyDocumentV1) :
    PaybondPolicyDocumentV1 :=
  if layer.readOnly || layer.readOnlySearch then
    applyReadOnlyFilter layer.readOnlySearch document
  else document

/-- `_assert_evidence_required`. -/
def assertEvidenceRequired (document : PaybondPolicyDocumentV1) : Except PyExc Unit :=
  match document.tools.items.find? fun item =>
      item.2.sideEffecting && (truthyStr item.2.evidencePreset).isNone with
  | some item =>
      .error (.valueError s!"side-effecting tool \"{item.1}\" must declare evidence_preset")
  | none => .ok ()

def checkEvidence (layer : PolicyGuardrailLayer) (document : PaybondPolicyDocumentV1) :
    Except PyExc Unit :=
  if layer.requireEvidence then assertEvidenceRequired document else .ok ()

/-- `_apply_guardrail_layer`. -/
def applyGuardrailLayer (document : PaybondPolicyDocumentV1) (layer : PolicyGuardrailLayer) :
    Except PyExc PaybondPolicyDocumentV1 := do
  let document := applyDefaultDeny layer document
  let document ← applyToolPatches platform parseInt layer document
  let document ← applyIntentPatch layer document
  let document := applySpendCap layer document
  let document ← applyBudgetCap platform layer document
  let document := applyReadOnly layer document
  checkEvidence layer document
  return document

/-- The layers one after another. -/
def applyGuardrailLayers (document : PaybondPolicyDocumentV1)
    (layers : List PolicyGuardrailLayer) : Except PyExc PaybondPolicyDocumentV1 :=
  layers.foldlM (applyGuardrailLayer platform parseInt) document

def composePolicyLayers (document : PaybondPolicyDocumentV1)
    (layers : List PolicyGuardrailLayer) : Except PyExc PaybondPolicyDocumentV1 := do
  let composed ← applyGuardrailLayers platform parseInt document layers
  assertEvidenceRequired composed
  return composed

/-- The cap of a layer is merged like a patch. -/
theorem mergeToolEntry_cap {entry : PaybondPolicyToolEntry} (hside : entry.sideEffecting = true)
    (cents : Int) :
    mergeToolEntry platform parseInt entry (.dict [("max_spend_cents", .int cents)]) =
      .ok (capEntry cents entry) := by
  rw [capEntry, if_pos hside]
  rfl

end Layers

end PaybondKit.Policy
