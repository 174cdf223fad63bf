import PaybondKit.Agent.Types

/-!
# Canonical tokens

The patterns that signed documents hold their identifiers to, each anchored by
`fullmatch`, and the normalizer of scope tokens.
-/

namespace PaybondKit.Receipt

open Agent (PyExc)
open Policy (isLower isDigit matchesHeadTail)

def isLowerHex (c : Char) : Bool := isDigit c || ('a' ≤ c && c ≤ 'f')

/-- `^[a-z0-9][-a-z0-9._:/]{0,127}$`, the hyphen put first. -/
def scopeTokenRe (s : String) : Bool :=
  matchesHeadTail (fun c => isLower c || isDigit c)
    (fun c => isLower c || isDigit c || c ∈ ['.', '_', ':', '/', '-']) 127 s.toList

/-- `^[0-9a-f]{64}$`. -/
def hex64Re (s : String) : Bool := s.toList.all isLowerHex && s.toList.length = 64

/-- A literal is the text of its characters, so that no text has to be decoded. -/
theorem hex64Re_ofList {chars : List Char} (hchars : chars.all isLowerHex = true)
    (hlength : chars.length = 64) : hex64Re (String.ofList chars) = true := by
  rw [hex64Re, String.toList_ofList, hchars, hlength]
  rfl

/-- `^[0-9a-f]{8}-[0-9a-f]{4}-[0-9a-f]{4}-[0-9a-f]{4}-[0-9a-f]{12}$`. -/
def uuidRe (s : String) : Bool :=
  let groups := s.toList.splitOn '-'
  groups.map List.length = [8, 4, 4, 4, 12] && groups.all (·.all isLowerHex)

section Tokens

variable (lower repr : String → String)

/-- `_normalize_scope_token` of the document whose errors begin with `owner`. -/
def normalizeScopeToken (owner value field : String) : Except PyExc String :=
  let normalized := lower (pyStrip value)
  if normalized = "" then .error (.valueError s!"{owner}: {field} is required")
  else if !scopeTokenRe normalized then
    .error (.valueError s!"{owner}: {field} {repr normalized} is not canonical")
  else .ok normalized

variable {lower repr}

theorem normalizeScopeToken_eq_ok {owner value field token : String} :
    normalizeScopeToken lower repr owner value field = .ok token ↔
      lower (pyStrip value) = token ∧ scopeTokenRe token = true := by
  have hblank : scopeTokenRe "" = false := by decide
  unfold normalizeScopeToken
  dsimp only
  split
  next hempty =>
    refine ⟨(fun h => nomatch h), ?_⟩
    rintro ⟨rfl, hmatch⟩
    rw [hempty, hblank] at hmatch
    cases hmatch
  next hnonempty =>
    rw [except_guard_eq_ok, Except.ok.injEq, Bool.not_eq_true', Bool.not_eq_false]
    constructor
    · rintro ⟨hmatch, rfl⟩
      exact ⟨rfl, hmatch⟩
    · rintro ⟨rfl, hmatch⟩
      exact ⟨hmatch, rfl⟩

end Tokens

end PaybondKit.Receipt
