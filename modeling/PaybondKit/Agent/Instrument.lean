import PaybondKit.Agent.Receipt
import PaybondKit.Policy.Registry

/-!
# Inline policies

An inline policy lists globs of tools to approve and to deny. The document that is
built from it registers the tools that are approved and not denied; it does not
mention the others.
-/

namespace PaybondKit.Agent

open Policy

/-- What the regular expressions and the float conversion take from the platform. -/
structure PlatformText where
  isDecimal : Char → Bool
  lower : String → String
  parseFloat : String → Except PyExc PyFloat
  pyStr : PyValue → String
  reprStr : String → String

inductive InlineBudget where
  | text (budget : String)
  | mapping (budget : OrderedDict String PyValue)

structure PaybondInlinePolicy where
  budget : Option InlineBudget := none
  approve : Option (List String) := none
  deny : Option (List String) := none
  name : Option String := none

/-! ## Globs -/

/-- What is left of a text after a `*`, which does not match a newline. -/
def starTails : List Char → List (List Char)
  | [] => [[]]
  | c :: text => (c :: text) :: if c = '\n' then [] else starTails text

/-- `_glob_to_pattern(glob).fullmatch(text)`: all but `*` and `?` is escaped. -/
def globMatches : List Char → List Char → Bool
  | [], text => text.isEmpty
  | '*' :: glob, text => (starTails text).any (globMatches glob)
  | '?' :: glob, c :: text => c ≠ '\n' && globMatches glob text
  | c :: glob, d :: text => c = d && globMatches glob text
  | _ :: _, [] => false

def matchesAny (value : String) (patterns : List String) : Bool :=
  patterns.any fun pattern => globMatches (pyStrip pattern).toList value.toList

section Budget

variable (text : PlatformText)

/-- The suffix of a budget: a slash and a period. -/
def parseBudgetPeriod (rest : List Char) : Option (Option String) :=
  match rest with
  | [] => some none
  | rest =>
      match rest.dropWhile isPySpace with
      | '/' :: word =>
          let period := text.lower (String.ofList (word.dropWhile isPySpace))
          if period ∈ ["day", "week", "month", "year"] then some (some period) else none
      | _ => none

/-- The digits after a decimal point, if there is one. -/
def parseBudgetFraction (rest : List Char) : Option (List Char × List Char) :=
  match rest with
  | '.' :: rest =>
      let digits := rest.takeWhile text.isDecimal
      if digits.isEmpty then none else some ('.' :: digits, rest.dropWhile text.isDecimal)
  | rest => some ([], rest)

/-- The groups of the budget's regular expression. -/
def matchBudget (budget : String) : Option (String × Option String) := do
  let chars := budget.toList
  let chars := if chars.head? = some '$' then chars.tail else chars
  let isAmount := fun c => text.isDecimal c || c = ','
  let whole := chars.takeWhile isAmount
  guard (whole ≠ [])
  let (fraction, rest) ← parseBudgetFraction text (chars.dropWhile isAmount)
  let period ← parseBudgetPeriod text rest
  return (String.ofList (whole ++ fraction), period)

/-- `_parse_budget_string`. -/
def parseBudgetString (budget : String) : Except PyExc (OrderedDict String PyValue) :=
  match matchBudget text (pyStrip budget) with
  | none =>
      .error (.valueError ("inline policy budget must look like \"$500/day\" (got " ++
        text.reprStr budget ++ ")"))
  | some (amount, period) => do
      let value ← text.parseFloat (String.ofList (amount.toList.filter (· ≠ ',')))
      return .ofList ([("currency", .str "usd"), ("max_spend_usd", .float value)] ++
        period.toList.map fun period => ("period", .str period))

def inlineBudget : Option InlineBudget → Except PyExc (Option (OrderedDict String PyValue))
  | none => .ok none
  | some (.text budget) => some <$> parseBudgetString text budget
  | some (.mapping budget) => .ok (some budget)

end Budget

/-! ## Documents -/

section Document

variable (text : PlatformText)

/-- One entry of a tool list. -/
def discoverToolName (tool : PyValue) : Except PyExc String :=
  let failure := .other "TypeError" "discovered tool array entries must include a non-empty name"
  match tool with
  | .dict items =>
      match (OrderedDict.ofList items).get? "name" with
      | none => .error failure
      | some name =>
          let name := pyStrip (text.pyStr name)
          if name = "" then .error failure else .ok name
  | _ => .error failure

def discoverToolNames : PyValue → Except PyExc (List String)
  | .dict items => .ok ((OrderedDict.ofList items).keys.filter fun key => pyStrip key ≠ "")
  | .list tools => tools.mapM (discoverToolName text)
  | _ => .error (.other "TypeError"
      "could not discover tool names; pass an object map or {name, execute}[]")

namespace PaybondInlinePolicy

variable (inline : PaybondInlinePolicy)

/-- `inline.approve or ("*",)`. -/
def approvePatterns : List String := (inline.approve.filter (· ≠ [])).getD ["*"]

/-- `inline.deny or ()`. -/
def denyPatterns : List String := inline.deny.getD []

/-- The tool is listed in the document. -/
def accepts (toolName : String) : Bool :=
  !matchesAny toolName inline.denyPatterns && matchesAny toolName inline.approvePatterns

end PaybondInlinePolicy

/-- What the document says of each tool that it lists. -/
def inlineToolEntry : PyValue :=
  .dict [("side_effecting", .bool true), ("evidence_preset", .str "cost_and_completion")]

/-- The dictionary that is handed to the parser. -/
def inlineDocument (name : String) (allowed : List String)
    (budget : Option (OrderedDict String PyValue)) : PyValue :=
  .dict [("version", .int 1), ("name", .str name), ("default_deny", .bool true),
    ("tools", .dict (allowed.map fun toolName => (toolName, inlineToolEntry))),
    ("intent", .dict (("allowed_tools", .list (allowed.map .str)) ::
      ((budget.filter (!·.items.isEmpty)).map fun budget => ("budget", .dict budget.items)).toList))]

/-- `inline_policy_to_document`. -/
def inlinePolicyToDocument (inline : PaybondInlinePolicy) (tools : PyValue) :
    Except PyExc PaybondPolicyDocumentV1 := do
  let names ← discoverToolNames text tools
  let allowed := names.filter inline.accepts
  if allowed.isEmpty then
    throw (.valueError
      "inline policy matched no tools; widen approve patterns or pass explicit tools")
  let budget ← inlineBudget text inline.budget
  match parsePaybondPolicyDocumentV1
      (inlineDocument ((truthyStr inline.name).getD "inline-policy") allowed budget) with
  | .ok document => return document
  | .error failure => throw (.policyValidation failure)

end Document

end PaybondKit.Agent
