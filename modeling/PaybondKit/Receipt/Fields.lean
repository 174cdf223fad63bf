import PaybondKit.Foundation.PyJson
import PaybondKit.Receipt.Tokens

/-!
# Fields of an agent receipt

How the normalizers read the fields of a mapping: as stripped text, as a canonical
token, as an integer or as a time. What was read carries the form it was checked for,
and reading it again changes nothing.
-/

namespace PaybondKit.Receipt

open Agent (PyExc)
open Policy (isLower isDigit currencyRe)

/-- `Mapping[str, Any]`. -/
abbrev Mapping := OrderedDict String PyValue

/-- What the verifier takes from the platform: letter case, `repr`, `int` of a text, the
time that a text denotes (in UTC, without the microseconds) and its text, the texts of
floats, SHA-256 as hex, and Ed25519 over a digest. -/
structure Platform where
  lower : String → String
  repr : PyValue → String
  parseInt : String → Option Int
  utcSeconds : String → Except PyExc Int
  strftime : Int → String
  floatText : PyFloat → JsonNumber
  sha256Hex : ByteArray → String
  ed25519Verify : ByteArray → ByteArray → String → Bool

abbrev Matching (re : String → Bool) := { text : String // re text = true }

abbrev Hex64 := Matching hex64Re
abbrev Uuid := Matching uuidRe
abbrev ScopeToken := Matching scopeTokenRe
abbrev Currency := Matching currencyRe

abbrev Stripped := { text : String // pyStrip text = text }

/-- Stripped, and not blank. -/
abbrev Text := { text : String // pyStrip text = text ∧ text ≠ "" }

def strip (text : String) : Stripped := ⟨pyStrip text, pyStrip_pyStrip text⟩

/-- Distinct tokens, in the order they were first seen. -/
abbrev TokenSet := { tokens : List ScopeToken // tokens.Nodup }

namespace TokenSet

def empty : TokenSet := ⟨[], List.nodup_nil⟩

def insert (tokens : TokenSet) (token : ScopeToken) : TokenSet :=
  if hseen : token ∈ tokens.val then tokens
  else
    ⟨tokens.val ++ [token], by
      rw [List.nodup_append_comm]
      exact List.nodup_cons.mpr ⟨hseen, tokens.property⟩⟩

end TokenSet

/-! ## Reading -/

/-- `mapping[key]`. -/
def item (value : Mapping) (key : String) : Except PyExc PyValue :=
  match value.get? key with
  | some stored => .ok stored
  | none => .error (.other "KeyError" key)

/-- A value that is read as a mapping, where the first operation on anything else raises
the named error. -/
def asMapping (errorName : String) : PyValue → Except PyExc Mapping
  | .dict items => .ok (.ofList items)
  | _ => .error (.other errorName "not a mapping")

/-- The first of the options with the text. -/
def oneOf {α : Type} (text : α → String) (options : List α) (failure : PyExc) (value : String) :
    Except PyExc α :=
  match options.find? fun option => text option = value with
  | some option => .ok option
  | none => .error failure

/-- `for item in value`. -/
def pyIter : PyValue → Except PyExc (List PyValue)
  | .list items => .ok items
  | .str text => .ok (text.toList.map fun c => .str (String.singleton c))
  | .dict items => .ok ((OrderedDict.ofList items).keys.map .str)
  | _ => .error (.other "TypeError" "not iterable")

/-- The string whose method is called. -/
def asText : PyValue → Except PyExc String
  | .str text => .ok text
  | _ => .error (.other "AttributeError" "not a string")

def requireText (failure : PyExc) (text : String) : Except PyExc Text :=
  if hblank : pyStrip text = "" then .error failure
  else .ok ⟨pyStrip text, pyStrip_pyStrip text, hblank⟩

def optionalText (text : String) : Option Text :=
  if hblank : pyStrip text = "" then none else some ⟨pyStrip text, pyStrip_pyStrip text, hblank⟩

def requireHex64 (value field : String) : Except PyExc Hex64 :=
  checked _ (.valueError
    s!"agent receipt: {field} must be a lowercase 64-byte hex SHA-256 digest") value

namespace Platform

variable (platform : Platform)

/-- `str(value)`. -/
def str : PyValue → String
  | .str text => text
  | value => platform.repr value

/-- `text.strip().lower()`. -/
def stripLower (text : String) : String := platform.lower (pyStrip text)

/-- `int(value)`. -/
def int : PyValue → Except PyExc Int
  | .bool value => .ok (if value then 1 else 0)
  | .int value => .ok value
  | .float (.finite value) => .ok (value.num.tdiv value.den)
  | .float (.infinity _) => .error (.other "OverflowError" "cannot convert infinity to integer")
  | .float .nan => .error (.valueError "cannot convert NaN to integer")
  | .str text =>
      match platform.parseInt text with
      | some value => .ok value
      | none => .error (.valueError s!"invalid literal for int(): {platform.repr (.str text)}")
  | _ => .error (.other "TypeError" "int() argument must be a string or a number")

/-- `str(value[key])`. -/
def strItem (value : Mapping) (key : String) : Except PyExc String :=
  platform.str <$> item value key

/-- `str(value or "")`. -/
def strOrBlank (value : PyValue) : String :=
  if value.truthy then platform.str value else ""

def formatRfc3339Seconds (value : String) : Except PyExc String :=
  -- `value.replace("Z", "+00:00")`
  platform.strftime <$> platform.utcSeconds
    (String.ofList (value.toList.flatMap fun c => if c = 'Z' then "+00:00".toList else [c]))

def parseUuid (value field : String) : Except PyExc Uuid :=
  checked _ (.valueError s!"agent receipt: {field} must be a canonical UUID")
    (platform.stripLower value)

/-- `_normalize_scope_token`, with the pattern that its result matches. -/
def scopeToken (value field : String) : Except PyExc ScopeToken :=
  match htoken : normalizeScopeToken platform.lower (platform.repr ∘ .str) "agent receipt" value
      field with
  | .ok token => .ok ⟨token, (normalizeScopeToken_eq_ok.mp htoken).2⟩
  | .error failure => .error failure

def normalizeScopeSet (values : PyValue) (field : String) : Except PyExc TokenSet :=
  if values.truthy then do
    (← pyIter values).foldlM
      (fun out value => do return out.insert (← platform.scopeToken (← asText value) field)) .empty
  else .ok .empty

/-- A digest that is only looked at when the value counts as true. -/
def truthyHex64 (value : PyValue) (field : String) : Except PyExc (Option Hex64) :=
  value.truthy?.mapM fun digest => requireHex64 (platform.stripLower (platform.str digest)) field

/-- A scope token that is only looked at when the value counts as true. -/
def truthyToken (value : PyValue) (field : String) : Except PyExc (Option ScopeToken) :=
  value.truthy?.mapM fun token => platform.scopeToken (platform.str token) field

/-- A digest that may be left out or blank. -/
def optionalHex64 (value : PyValue) (field : String) : Except PyExc (Option Hex64) :=
  let digest := platform.stripLower (platform.strOrBlank value)
  if digest = "" then .ok none else some <$> requireHex64 digest field

end Platform

/-! ## What was read -/

theorem requireText_eq_ok {failure : PyExc} {text : String} {result : Text} :
    requireText failure text = .ok result ↔ pyStrip text = result.val := by
  unfold requireText
  split
  next hblank =>
    refine ⟨(fun h => nomatch h), ?_⟩
    intro hresult
    exact absurd (hresult.symm.trans hblank) result.property.2
  next hblank => rw [Except.ok.injEq, Subtype.ext_iff]

theorem requireHex64_eq_ok {value field : String} {digest : Hex64} :
    requireHex64 value field = .ok digest ↔ value = digest.val :=
  checked_eq_ok

namespace Platform

variable {platform : Platform}

@[simp] theorem str_str (text : String) : platform.str (.str text) = text := rfl

@[simp] theorem int_int (value : Int) : platform.int (.int value) = .ok value := rfl

theorem parseUuid_eq_ok {value field : String} {id : Uuid} :
    platform.parseUuid value field = .ok id ↔ platform.stripLower value = id.val :=
  checked_eq_ok

theorem scopeToken_eq_ok {value field : String} {token : ScopeToken} :
    platform.scopeToken value field = .ok token ↔ platform.stripLower value = token.val := by
  unfold scopeToken
  split
  next text htext =>
    obtain ⟨hlower, hmatch⟩ := normalizeScopeToken_eq_ok.mp htext
    rw [Except.ok.injEq, Subtype.ext_iff]
    change text = token.val ↔ platform.lower (pyStrip value) = token.val
    rw [hlower]
  next failure hfailure =>
    refine ⟨(fun h => nomatch h), ?_⟩
    intro htoken
    rw [normalizeScopeToken_eq_ok.mpr ⟨htoken, token.property⟩] at hfailure
    cases hfailure

end Platform

/-! ## Reading again -/

def isTokenChar (c : Char) : Bool := isLower c || isDigit c || c ∈ ['.', '_', ':', '/', '-']

/-- The pattern admits token characters only. -/
def AdmitsTokens (re : String → Bool) : Prop :=
  ∀ text, re text = true → ∀ c ∈ text.toList, isTokenChar c = true

theorem isTokenChar_of_isLowerHex {c : Char} (hc : isLowerHex c = true) : isTokenChar c = true := by
  simp only [isLowerHex, isTokenChar, isLower, Bool.or_eq_true, Bool.and_eq_true,
    decide_eq_true_eq] at hc ⊢
  rcases hc with hdigit | ⟨hfirst, hlast⟩
  · exact .inl (.inr hdigit)
  · have hz : 'f' ≤ 'z' := by decide
    exact .inl (.inl ⟨hfirst, Char.le_trans hlast hz⟩)

theorem not_isPySpace_of_isTokenChar {c : Char} (hc : isTokenChar c = true) :
    isPySpace c = false := by
  have hrange : 0x2d ≤ c.toNat ∧ c.toNat ≤ 0x7a := by
    simp only [isTokenChar, isLower, isDigit, Bool.or_eq_true, Bool.and_eq_true,
      decide_eq_true_eq] at hc
    rcases hc with (⟨hfirst, hlast⟩ | ⟨hfirst, hlast⟩) | hmem
    · have hlow : 'a'.toNat ≤ c.toNat := hfirst
      have hhigh : c.toNat ≤ 'z'.toNat := hlast
      exact ⟨le_trans (by decide) hlow, hhigh⟩
    · have hlow : '0'.toNat ≤ c.toNat := hfirst
      have hhigh : c.toNat ≤ '9'.toNat := hlast
      have hz : '9'.toNat ≤ 'z'.toNat := by decide
      exact ⟨le_trans (by decide) hlow, hhigh.trans hz⟩
    · exact @forall_mem_of_all Char (fun c => 0x2d ≤ c.toNat ∧ c.toNat ≤ 0x7a) _ _ (by decide) c
        hmem
  unfold isPySpace
  simp
  omega

theorem admitsTokens_hex64Re : AdmitsTokens hex64Re := by
  intro text hmatch c hc
  simp only [hex64Re, Bool.and_eq_true, List.all_eq_true] at hmatch
  exact isTokenChar_of_isLowerHex (hmatch.1 c hc)

theorem mem_intercalate_singleton {separator c : Char} {groups : List (List Char)}
    (hc : c ∈ [separator].intercalate groups) : c = separator ∨ ∃ group ∈ groups, c ∈ group := by
  induction groups with
  | nil => cases hc
  | cons group groups ih =>
      cases groups with
      | nil => exact .inr ⟨group, List.mem_cons_self, by simpa using hc⟩
      | cons next groups =>
          rw [List.intercalate_cons_cons, List.mem_append, List.mem_append] at hc
          rcases hc with (hc | hc) | hc
          · exact .inr ⟨group, List.mem_cons_self, hc⟩
          · exact .inl (List.mem_singleton.mp hc)
          · rcases ih hc with hsep | ⟨found, hfound, hmem⟩
            · exact .inl hsep
            · exact .inr ⟨found, List.mem_cons_of_mem _ hfound, hmem⟩

theorem admitsTokens_uuidRe : AdmitsTokens uuidRe := by
  intro text hmatch c hc
  simp only [uuidRe, Bool.and_eq_true, List.all_eq_true] at hmatch
  rw [← @List.intercalate_splitOn _ text.toList _ _ '-'] at hc
  rcases mem_intercalate_singleton hc with rfl | ⟨group, hgroup, hmem⟩
  · decide
  · exact isTokenChar_of_isLowerHex (hmatch.2 group hgroup c hmem)

theorem admitsTokens_scopeTokenRe : AdmitsTokens scopeTokenRe := by
  intro text hmatch c hc
  unfold scopeTokenRe at hmatch
  cases htext : text.toList with
  | nil => simp [htext] at hc
  | cons first rest =>
      rw [htext] at hmatch hc
      simp only [Policy.matchesHeadTail, Bool.and_eq_true, List.all_eq_true] at hmatch
      rcases List.mem_cons.mp hc with rfl | hrest
      · exact Bool.or_eq_true_iff.mpr (.inl hmatch.1.1)
      · exact hmatch.1.2 c hrest

theorem admitsTokens_currencyRe : AdmitsTokens currencyRe := by
  intro text hmatch c hc
  simp only [currencyRe, Bool.and_eq_true, List.all_eq_true] at hmatch
  simp [isTokenChar, hmatch.1 c hc]

theorem Matching.ne_empty {re : String → Bool} (hempty : re "" = false) (token : Matching re) :
    token.val ≠ "" := by
  intro hval
  have hmatch := token.property
  rw [hval, hempty] at hmatch
  cases hmatch

@[simp] theorem requireText_text (failure : PyExc) (text : Text) :
    requireText failure text.val = .ok text :=
  requireText_eq_ok.mpr text.property.1

@[simp] theorem strip_stripped (text : Stripped) : strip text.val = text :=
  Subtype.ext text.property

theorem TokenSet.insert_of_append {out result : TokenSet} {token : ScopeToken}
    {rest : List ScopeToken} (hresult : result.val = out.val ++ token :: rest) :
    (out.insert token).val = out.val ++ [token] := by
  have hnodup := result.property
  rw [hresult, List.nodup_append] at hnodup
  have hnew : token ∉ out.val := by
    intro hseen
    exact hnodup.2.2 token hseen token List.mem_cons_self rfl
  rw [TokenSet.insert, dif_neg hnew]

namespace Platform

/-- What reading again needs of `str.lower`: a canonical token is its own lower case, twice
is once, and a stripped text has no spaces at its ends afterwards. -/
structure LowerLaws (platform : Platform) : Prop where
  token : ∀ text, (∀ c ∈ text.toList, isTokenChar c = true) → platform.lower text = text
  lower_lower : ∀ text, platform.lower (platform.lower text) = platform.lower text
  strip_lower : ∀ text, pyStrip (platform.lower (pyStrip text)) = platform.lower (pyStrip text)

section Laws

variable {platform : Platform} (laws : platform.LowerLaws)
include laws

theorem stripLower_stripLower (text : String) :
    platform.stripLower (platform.stripLower text) = platform.stripLower text := by
  unfold stripLower
  rw [laws.strip_lower, laws.lower_lower]

theorem stripLower_eq_self {text : String} (htoken : ∀ c ∈ text.toList, isTokenChar c = true) :
    platform.stripLower text = text := by
  have hstrip : pyStrip text = text :=
    pyStrip_eq_self fun c hc => not_isPySpace_of_isTokenChar (htoken c hc)
  rw [stripLower, hstrip, laws.token text htoken]

theorem stripLower_hex64 (digest : Hex64) : platform.stripLower digest.val = digest.val :=
  stripLower_eq_self laws (admitsTokens_hex64Re _ digest.property)

theorem stripLower_uuid (id : Uuid) : platform.stripLower id.val = id.val :=
  stripLower_eq_self laws (admitsTokens_uuidRe _ id.property)

theorem stripLower_scopeToken (token : ScopeToken) : platform.stripLower token.val = token.val :=
  stripLower_eq_self laws (admitsTokens_scopeTokenRe _ token.property)

theorem stripLower_currency (currency : Currency) :
    platform.stripLower currency.val = currency.val :=
  stripLower_eq_self laws (admitsTokens_currencyRe _ currency.property)

theorem requireHex64_hex64 (digest : Hex64) (field : String) :
    requireHex64 (platform.stripLower digest.val) field = .ok digest :=
  requireHex64_eq_ok.mpr (stripLower_hex64 laws digest)

theorem parseUuid_uuid (id : Uuid) (field : String) :
    platform.parseUuid id.val field = .ok id :=
  parseUuid_eq_ok.mpr (stripLower_uuid laws id)

theorem scopeToken_scopeToken (token : ScopeToken) (field : String) :
    platform.scopeToken token.val field = .ok token :=
  scopeToken_eq_ok.mpr (stripLower_scopeToken laws token)

/-- A digest that was left out is left out again. -/
theorem optionalHex64_hex64 (digest : Option Hex64) (field : String) :
    platform.optionalHex64 ((digest.map fun d => PyValue.str d.val).getD .none) field =
      .ok digest := by
  cases digest with
  | none =>
      have hblank : platform.stripLower "" = "" := stripLower_eq_self laws (by simp)
      simp [optionalHex64, strOrBlank, PyValue.truthy, hblank]
  | some digest =>
      have hne : digest.val ≠ "" := digest.ne_empty (by decide)
      have hlower := stripLower_hex64 laws digest
      simp only [optionalHex64, strOrBlank, PyValue.truthy, Option.map_some, Option.getD_some,
        decide_eq_true_eq, ne_eq, hne, not_false_eq_true, if_true, str_str, hlower, if_false]
      rw [requireHex64_eq_ok.mpr rfl]
      rfl

theorem foldlM_insert_scopeToken (field : String) {rest : List ScopeToken} {out result : TokenSet}
    (hresult : result.val = out.val ++ rest) :
    (rest.map fun token => PyValue.str token.val).foldlM
        (fun (out : TokenSet) value => do
          return out.insert (← platform.scopeToken (← asText value) field)) out =
      .ok result := by
  induction rest generalizing out with
  | nil =>
      have hsame : out = result := Subtype.ext (by simpa using hresult.symm)
      rw [hsame]
      rfl
  | cons token rest ih =>
      have hinsert := TokenSet.insert_of_append hresult
      rw [List.map_cons, List.foldlM_cons]
      simp only [asText, except_ok_bind, scopeToken_scopeToken laws]
      refine ih ?_
      rw [hinsert, hresult, List.append_assoc, List.singleton_append]

theorem normalizeScopeSet_tokens (tokens : TokenSet) (field : String) :
    platform.normalizeScopeSet (.list (tokens.val.map fun token => .str token.val)) field =
      .ok tokens := by
  unfold normalizeScopeSet
  split
  next htruthy => exact foldlM_insert_scopeToken laws field rfl
  next hempty =>
    cases htokens : tokens.val with
    | nil =>
        rw [Except.ok.injEq]
        exact Subtype.ext htokens.symm
    | cons token rest =>
        rw [htokens] at hempty
        exact absurd rfl hempty

end Laws

end Platform

end PaybondKit.Receipt
