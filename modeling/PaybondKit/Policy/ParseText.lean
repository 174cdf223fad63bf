import PaybondKit.Agent.Types
import PaybondKit.Foundation.JsonLoads
import PaybondKit.Foundation.PyLines

/-!
# The text of a policy file

A policy file is JSON, or else a subset of YAML: blocks of `key: value` lines or of `- item`
lines, told apart by their indentation.
-/

namespace PaybondKit.Policy

open Agent (PyExc)

/-- What a call outside the package raises: a `ValueError` for a number of more digits than `int`
converts, for bytes that are no UTF-8 or for a path that is none, a `RecursionError`, or an
`OSError`. -/
inductive LibraryFailure where
  | valueError (message : String)
  | other (name message : String)

def LibraryFailure.exc : LibraryFailure → PyExc
  | .valueError message => .valueError message
  | .other name message => .other name message

/-- What the interpreter does with texts. `jsonRaises` is what `json.loads` raises apart from a
`JSONDecodeError`. -/
structure PolicyTextPlatform extends TextPlatform where
  jsonRaises : String → Option LibraryFailure

/-! ## Lines -/

structure YamlLine where
  indent : ℕ
  trimmed : String
  raw : String
  stripped : pyStrip trimmed = trimmed
  deriving DecidableEq, Repr

/-- A line that is not blank and no comment. -/
def yamlLine? (raw : List Char) : Option YamlLine :=
  let trimmed := pyStrip (String.ofList raw)
  if trimmed = "" ∨ trimmed.toList.head? = some '#' then none
  else
    some
      { indent := (raw.takeWhile (· = ' ')).length, trimmed, raw := String.ofList raw,
        stripped := pyStrip_pyStrip _ }

def tokenizeYamlLines (text : String) : List YamlLine :=
  (splitlines text.toList).filterMap yamlLine?

/-- `^([^:]+?):\s*(.*)$`, of a text without line breaks. -/
def yamlLineRe (text : String) : Option (String × String) :=
  match text.toList.span (· ≠ ':') with
  | (key, ':' :: rest) =>
      if key = [] then none
      else some (String.ofList key, String.ofList (rest.dropWhile isPySpace))
  | _ => none

/-! ## Scalars -/

section Parse

variable (platform : TextPlatform)

/-- `-?\d+\.\d+`. -/
def isDecimalFraction (chars : List Char) : Bool :=
  let unsigned := if chars.head? = some '-' then chars.tail else chars
  match unsigned.span platform.isDecimal with
  | (whole, '.' :: fraction) =>
      !whole.isEmpty && !fraction.isEmpty && fraction.all platform.isDecimal
  | _ => false

/-- What `int` raises for a text that it does not read. -/
def invalidLiteral : PyExc := .valueError "invalid literal for int() with base 10"

def parseYamlScalar (value : String) : Except PyExc PyValue :=
  let chars := value.toList
  let digits := chars.dropWhile (· = '-')
  if value = "" then .ok (.str "")
  else if value = "true" then .ok (.bool true)
  else if value = "false" then .ok (.bool false)
  else if !digits.isEmpty && digits.all platform.isDigit then
    match platform.parseInt value with
    | some number => .ok (.int number)
    | none => .error invalidLiteral
  else if isDecimalFraction platform chars then .ok (.float (platform.parseFloat chars))
  else if quotedBy '"' chars || quotedBy '\'' chars then
    .ok (.str (String.ofList chars.tail.dropLast))
  else .ok (.str value)

/-! ## Blocks -/

/-- The line starts with a dash and a space. -/
def YamlLine.isItem (line : YamlLine) : Bool := ['-', ' '].isPrefixOf line.trimmed.toList

/-- `line[2:].strip()`. -/
def YamlLine.afterDash (line : YamlLine) : String :=
  pyStrip (String.ofList (line.trimmed.toList.drop 2))

def invalidYamlLine (line : YamlLine) (sourceLabel : String) : PyExc :=
  .policyValidation
    { message := s!"{sourceLabel} has invalid YAML line: {line.raw}", path := sourceLabel }

/-- There is fuel enough for every text. -/
def outOfFuel : PyExc := .other "OutOfFuel" ""

mutual

/-- `_parse_yaml_block`, of the lines from `start` on; the lines from the returned index on are
what is left. Every call and every turn of a loop uses up fuel. -/
def parseYamlBlock (sourceLabel : String) : ℕ → List YamlLine → ℕ →
    Except PyExc (PyValue × List YamlLine)
  | 0, _, _ => .error outOfFuel
  | _ + 1, [], _ => .ok (.dict [], [])
  | fuel + 1, line :: lines, indent =>
      if line.indent < indent then .ok (.dict [], line :: lines)
      else if line.isItem then do
        let (items, rest) ← parseYamlItems sourceLabel fuel (line :: lines) indent
        return (.list items, rest)
      else do
        let (members, rest) ← parseYamlMembers sourceLabel fuel (line :: lines) indent
        return (.dict (OrderedDict.ofList members).items, rest)

/-- The loop over the items of a list. -/
def parseYamlItems (sourceLabel : String) : ℕ → List YamlLine → ℕ →
    Except PyExc (List PyValue × List YamlLine)
  | 0, _, _ => .error outOfFuel
  | _ + 1, [], _ => .ok ([], [])
  | fuel + 1, line :: lines, indent =>
      if line.indent = indent ∧ line.isItem then
        if line.afterDash = "" then do
          let (child, rest) ← parseYamlBlock sourceLabel fuel lines (indent + 2)
          let (items, rest) ← parseYamlItems sourceLabel fuel rest indent
          return (child :: items, rest)
        else
          match yamlLineRe line.afterDash with
          | some (key, "") => do
              let (child, rest) ← parseYamlBlock sourceLabel fuel lines (indent + 2)
              let (items, rest) ← parseYamlItems sourceLabel fuel rest indent
              return (.dict [(pyStrip key, child)] :: items, rest)
          | some (key, text) => do
              let value ← parseYamlScalar platform (pyStrip text)
              let (items, rest) ← parseYamlItems sourceLabel fuel lines indent
              return (.dict [(pyStrip key, value)] :: items, rest)
          | none => do
              let value ← parseYamlScalar platform line.afterDash
              let (items, rest) ← parseYamlItems sourceLabel fuel lines indent
              return (value :: items, rest)
      else .ok ([], line :: lines)

/-- The loop over the assignments to an object. -/
def parseYamlMembers (sourceLabel : String) : ℕ → List YamlLine → ℕ →
    Except PyExc (List (String × PyValue) × List YamlLine)
  | 0, _, _ => .error outOfFuel
  | _ + 1, [], _ => .ok ([], [])
  | fuel + 1, line :: lines, indent =>
      if line.indent = indent then
        match yamlLineRe line.trimmed with
        | none => .error (invalidYamlLine line sourceLabel)
        | some (key, text) =>
            if pyStrip text = "" then do
              let (child, rest) ← parseYamlBlock sourceLabel fuel lines (indent + 2)
              let (members, rest) ← parseYamlMembers sourceLabel fuel rest indent
              return ((pyStrip key, child) :: members, rest)
            else do
              let value ← parseYamlScalar platform (pyStrip text)
              let (members, rest) ← parseYamlMembers sourceLabel fuel lines indent
              return ((pyStrip key, value) :: members, rest)
      else .ok ([], line :: lines)

end

/-- Fuel for all lines. -/
def yamlFuel (lines : List YamlLine) : ℕ := 2 * lines.length + 2

def emptySource (sourceLabel : String) : PyExc :=
  .policyValidation { message := s!"{sourceLabel} is empty", path := sourceLabel }

/-- What is left of the lines is not looked at. -/
def parseIndentedYaml (text sourceLabel : String) : Except PyExc (OrderedDict String PyValue) :=
  match tokenizeYamlLines text with
  | [] => .error (emptySource sourceLabel)
  | line :: lines => do
      let (value, _) ←
        parseYamlBlock platform sourceLabel (yamlFuel (line :: lines)) (line :: lines) line.indent
      match value with
      | .dict items => return .ofList items
      | _ =>
          .error <| .policyValidation
            { message := s!"{sourceLabel} must be a YAML object", path := sourceLabel }

end Parse

def parsePolicyDocumentText (platform : PolicyTextPlatform) (text sourceLabel : String) :
    Except PyExc (OrderedDict String PyValue) :=
  let trimmed := pyStrip text
  if trimmed = "" then .error (emptySource sourceLabel)
  else
    match platform.jsonRaises trimmed with
    | some failure => .error failure.exc
    | none =>
        match jsonLoads platform.parseFloat trimmed with
        | none => parseIndentedYaml platform.toTextPlatform trimmed sourceLabel
        | some (.dict items) => .ok (.ofList items)
        | some _ =>
            .error <| .policyValidation
              { message := s!"{sourceLabel} must be a JSON object", path := sourceLabel }

/-! ## A platform with ASCII digits -/

def asciiNat (digits : List Char) : Option Int :=
  if digits ≠ [] ∧ digits.all Char.isDigit then
    some (digits.foldl (fun number digit => 10 * number + (digit.toNat - '0'.toNat)) 0)
  else none

/-- Of what `int` reads a sign and ASCII digits. -/
def asciiInt (text : String) : Option Int :=
  match text.toList with
  | '-' :: digits => (asciiNat digits).map Neg.neg
  | digits => asciiNat digits

def platformDigits : PolicyTextPlatform where
  isDigit := Char.isDigit
  isDecimal := Char.isDigit
  parseInt := asciiInt
  parseFloat := fun _ => .nan
  jsonRaises := fun _ => none

end PaybondKit.Policy
