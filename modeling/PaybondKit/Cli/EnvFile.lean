import PaybondKit.Foundation.PyJson
import PaybondKit.Foundation.PyLines

/-!
# Keys in an env file

A login writes the API key over the first assignment that a regular expression finds in the env
file, or behind its text; a bound run replaces its variables line by line. The reader takes the
first line that assigns a variable, and of a quoted value what stands between the quotes.
-/

namespace PaybondKit.Cli

/-! ## The reader -/

/-- What `line` assigns to a variable, after an optional `export `. -/
def assignedText (name line : List Char) : Option (List Char) :=
  (line.dropPrefix? ("export ".toList ++ name ++ ['='])).or (line.dropPrefix? (name ++ ['=']))

def unquoted (value : List Char) : List Char :=
  if quotedBy '\'' value || quotedBy '"' value then
    if 2 ≤ value.length then value.tail.dropLast else value
  else value

/-- The value of an assigned text, `none` when it is empty. -/
def envValue (text : List Char) : Option (List Char) :=
  let value := stripLine (unquoted (stripLine text))
  if value = [] then none else some value

def readEnvFileValue (body name : List Char) : Option (List Char) :=
  ((splitlines body).findSome? fun line => assignedText name (stripLine line)).bind envValue

/-! ## Quoting -/

/-- `[A-Za-z0-9_./:@+-]`. -/
def isPlainChar (c : Char) : Bool :=
  ('A' ≤ c && c ≤ 'Z') || ('a' ≤ c && c ≤ 'z') || ('0' ≤ c && c ≤ '9') || "_./:@+-".toList.contains c

/-- A plain value as it is, and any other as `json.dumps` writes it. -/
def quoteEnvValue (value : List Char) : List Char :=
  if value ≠ [] ∧ value.all isPlainChar then value
  else '"' :: value.flatMap escapeAscii ++ ['"']

/-! ## Login -/

def apiKeyName : List Char := "PAYBOND_API_KEY".toList

/-- `\s*(?:export\s+)?`. -/
def skipExport (text : List Char) : List Char :=
  let text := text.dropWhile isPySpace
  match text.dropPrefix? "export".toList with
  | some (c :: rest) => if isPySpace c then rest.dropWhile isPySpace else text
  | _ => text

/-- The text behind `\s*(?:export\s+)?PAYBOND_API_KEY\s*=`. -/
def matchApiKey (text : List Char) : Option (List Char) :=
  ((skipExport text).dropPrefix? apiKeyName).bind fun rest =>
    (rest.dropWhile isPySpace).dropPrefix? ['=']

/-- A match of the pattern, with the text before it and behind it. -/
structure EnvMatch where
  before : List Char
  taken : List Char
  after : List Char
  deriving DecidableEq, Repr

/-- `pattern.search(existing)`. The pattern matches at the start of the text or behind a newline, and
up to the next newline. -/
def searchApiKey : Bool → List Char → Option EnvMatch
  | _, [] => none
  | lineStart, c :: rest =>
      match if lineStart then matchApiKey (c :: rest) else none with
      | some value =>
          let after := value.dropWhile (· ≠ '\n')
          some
            { before := []
              taken := (c :: rest).take ((c :: rest).length - after.length)
              after }
      | none =>
          (searchApiKey (c = '\n') rest).map fun found =>
            { found with before := c :: found.before }

/-- What a backslash and a character are in a replacement; a letter without a meaning is an error, and
`json.dumps` writes no reference to a group. -/
def templateEscape (c : Char) : Option (List Char) :=
  if c = '\\' then some ['\\']
  else
    match [('a', '\x07'), ('b', '\x08'), ('f', '\x0c'), ('n', '\n'), ('r', '\r'), ('t', '\t'),
        ('v', '\x0b')].lookup c with
    | some escaped => some [escaped]
    | none => if c.isAlphanum then none else some ['\\', c]

/-- The text of a replacement, `none` for a bad escape. -/
def expandTemplate : List Char → Option (List Char)
  | [] => some []
  | ['\\'] => none
  | '\\' :: c :: rest => (templateEscape c).bind fun head => (expandTemplate rest).map (head ++ ·)
  | c :: rest => (expandTemplate rest).map (c :: ·)

inductive EnvWriteFailure where
  /-- `PaybondLoginError`. -/
  | keyExists
  /-- `re.error`. -/
  | badEscape
  deriving DecidableEq, Repr

def apiKeyLine (rawKey : List Char) : List Char := apiKeyName ++ '=' :: quoteEnvValue rawKey

/-- `_replace_or_append_env_value`. -/
def replaceOrAppendEnvValue (existing rawKey : List Char) (force : Bool) :
    Except EnvWriteFailure (List Char) :=
  match searchApiKey true existing with
  | some found =>
      if !force then .error .keyExists
      else
        match expandTemplate (apiKeyLine rawKey) with
        | some line => .ok (found.before ++ line ++ found.after)
        | none => .error .badEscape
  | none =>
      let suffix := if existing ≠ [] ∧ existing.getLast? ≠ some '\n' then ['\n'] else []
      .ok (existing ++ suffix ++ apiKeyLine rawKey ++ ['\n'])

/-! ## A bound run -/

/-- `[A-Z0-9_]`. -/
def isNameChar (c : Char) : Bool := ('A' ≤ c && c ≤ 'Z') || ('0' ≤ c && c ≤ '9') || c = '_'

/-- The variable of `^\s*(?:export\s+)?([A-Z0-9_]+)\s*=`. -/
def assignedName (line : List Char) : Option (List Char) :=
  let name := (skipExport line).takeWhile isNameChar
  let rest := ((skipExport line).dropWhile isNameChar).dropWhile isPySpace
  if name ≠ [] ∧ rest.head? = some '=' then some name else none

/-- The variables of a run and their values. -/
def runUpdates (intentId capabilityToken runId : List Char) : List (List Char × List Char) :=
  [("PAYBOND_INTENT_ID".toList, intentId), ("PAYBOND_CAPABILITY_TOKEN".toList, capabilityToken),
    ("PAYBOND_RUN_ID".toList, runId)]

def updateLine (update : List Char × List Char) : List Char :=
  update.1 ++ '=' :: quoteEnvValue update.2

/-- The update of the variable that a line assigns. -/
def updateOf (updates : List (List Char × List Char)) (line : List Char) :
    Option (List Char × List Char) :=
  (assignedName line).bind fun name => updates.find? fun update => update.1 = name

/-- The loops of `append_agent_run_env_vars`, from the text of the file to its new text. -/
def writeUpdates (updates : List (List Char × List Char)) (existing : List Char) : List Char :=
  let lines := splitlines existing
  let seen := (lines.filterMap (updateOf updates)).map Prod.fst
  let output := (lines.map fun line => ((updateOf updates line).map updateLine).getD line) ++
    (updates.filter (·.1 ∉ seen)).map updateLine
  let body := ['\n'].intercalate output
  if body ≠ [] ∧ body.getLast? ≠ some '\n' then body ++ ['\n'] else body

/-- A line of the new text for a line of the old one. -/
def rewriteLine (updates : List (List Char × List Char)) (line : List Char) : List Char :=
  ((updateOf updates line).map updateLine).getD line

/-- The lines of the new text. -/
def outputLines (updates : List (List Char × List Char)) (existing : List Char) :
    List (List Char) :=
  (splitlines existing).map (rewriteLine updates) ++
    (updates.filter
      (·.1 ∉ ((splitlines existing).filterMap (updateOf updates)).map Prod.fst)).map updateLine

def appendAgentRunEnvVars (existing intentId capabilityToken runId : List Char) : List Char :=
  writeUpdates (runUpdates intentId capabilityToken runId) existing

end PaybondKit.Cli
