import PaybondKit.Policy.Registry

/-!
# Loosening between two policies

`detect_policy_loosening` compares a policy with the one that is to replace it.
What it accepts is a relation between documents; seen through the caps and flags
of side-effecting tools that relation is a preorder, so it composes over a chain
of reloads. Seen through the registries it does not keep every tool guarded.
-/

namespace PaybondKit.Policy

open Agent

/-- The reasons that concern one tool of the next document. -/
def toolLoosening (previous : PaybondPolicyDocumentV1) (toolName : String)
    (nextEntry : PaybondPolicyToolEntry) : List String :=
  match previous.tools.get? toolName with
  | none =>
      if nextEntry.sideEffecting then [s!"new side-effecting tool \"{toolName}\""] else []
  | some prevEntry =>
      (match prevEntry.maxSpendCents, nextEntry.maxSpendCents with
        | some _, none => [s!"tool \"{toolName}\" max_spend_cents cap removed"]
        | some prevCap, some nextCap =>
            if prevCap < nextCap then
              [s!"tool \"{toolName}\" max_spend_cents increased from {prevCap} to {nextCap}"]
            else []
        | none, _ => []) ++
      if !prevEntry.sideEffecting && nextEntry.sideEffecting then
        [s!"tool \"{toolName}\" became side-effecting"]
      else []

def detectPolicyLoosening (previous next : PaybondPolicyDocumentV1) : List String :=
  (if previous.defaultDeny && !next.defaultDeny then
    ["default_deny relaxed from true to false"] else []) ++
  next.tools.items.flatMap fun item => toolLoosening previous item.1 item.2

/-- The operations of a document's side-effecting tools. -/
def documentOperations (document : PaybondPolicyDocumentV1) : List String :=
  (document.tools.items.filter (·.2.sideEffecting)).map fun item =>
    (truthyStr (item.2.operation.map pyStrip)).getD item.1

def requiresIntentRebind (document : PaybondPolicyDocumentV1) (allowedTools : List String) :
    Bool :=
  ((document.intent.map (·.allowedTools)).getD []).any (· ∉ allowedTools) ||
    (documentOperations document).any (· ∉ allowedTools)

/-- What an entry of the next document owes to the previous document. -/
structure ToolNotLooser (previous : Option PaybondPolicyToolEntry)
    (next : PaybondPolicyToolEntry) : Prop where
  side_effecting : next.sideEffecting = true →
    ∃ entry, previous = some entry ∧ entry.sideEffecting = true
  max_spend_cents : ∀ entry cap, previous = some entry → entry.maxSpendCents = some cap →
    ∃ cap' ≤ cap, next.maxSpendCents = some cap'

/-- The next document is not looser than the previous one. -/
structure NotLooser (previous next : PaybondPolicyDocumentV1) : Prop where
  default_deny : previous.defaultDeny = true → next.defaultDeny = true
  tools : ∀ toolName entry, next.tools.get? toolName = some entry →
    ToolNotLooser (previous.tools.get? toolName) entry

theorem toolLoosening_eq_nil_iff {previous : PaybondPolicyDocumentV1} {toolName : String}
    {next : PaybondPolicyToolEntry} :
    toolLoosening previous toolName next = [] ↔
      ToolNotLooser (previous.tools.get? toolName) next := by
  unfold toolLoosening
  constructor
  · intro hnil
    split at hnil
    next hnone =>
      have hread : next.sideEffecting = false := by simpa using hnil
      rw [hnone]
      exact ⟨fun hside => by simp [hread] at hside, fun entry cap hentry => by cases hentry⟩
    next prev hprev =>
      rw [hprev]
      obtain ⟨hcap, hside⟩ := List.append_eq_nil_iff.mp hnil
      constructor
      · intro hnext
        refine ⟨prev, rfl, ?_⟩
        simpa [hnext] using hside
      · intro entry cap hentry hentryCap
        cases hentry
        rw [hentryCap] at hcap
        cases hnextCap : next.maxSpendCents with
        | none => simp [hnextCap] at hcap
        | some nextCap => exact ⟨nextCap, by simpa [hnextCap] using hcap, rfl⟩
  · intro hnot
    split
    next hnone =>
      rw [hnone] at hnot
      rw [if_neg]
      intro hside
      obtain ⟨entry, hentry, -⟩ := hnot.side_effecting hside
      cases hentry
    next prev hprev =>
      rw [hprev] at hnot
      rw [List.append_eq_nil_iff]
      constructor
      · cases hprevCap : prev.maxSpendCents with
        | none => rfl
        | some cap =>
            obtain ⟨cap', hle, hnextCap⟩ := hnot.max_spend_cents prev cap rfl hprevCap
            simp [hnextCap, not_lt.mpr hle]
      · rw [if_neg]
        intro hflags
        simp only [Bool.and_eq_true, Bool.not_eq_true'] at hflags
        obtain ⟨entry, hentry, hside⟩ := hnot.side_effecting hflags.2
        cases hentry
        simp [hflags.1] at hside

/-- The detector finds nothing exactly when the next document is not looser. -/
theorem detectPolicyLoosening_eq_nil_iff {previous next : PaybondPolicyDocumentV1} :
    detectPolicyLoosening previous next = [] ↔ NotLooser previous next := by
  rw [detectPolicyLoosening, List.append_eq_nil_iff, List.flatMap_eq_nil_iff]
  constructor
  · rintro ⟨hdeny, htools⟩
    refine ⟨fun hprevious => ?_, fun toolName entry hentry => ?_⟩
    · simpa [hprevious] using hdeny
    · exact toolLoosening_eq_nil_iff.mp
        (htools (toolName, entry) (OrderedDict.get?_eq_some_iff.mp hentry))
  · rintro ⟨hdeny, htools⟩
    refine ⟨?_, fun item hitem => ?_⟩
    · rw [if_neg]
      intro hflags
      simp only [Bool.and_eq_true, Bool.not_eq_true'] at hflags
      simp [hdeny hflags.1] at hflags
    · exact toolLoosening_eq_nil_iff.mpr
        (htools item.1 item.2 (OrderedDict.get?_eq_some_iff.mpr hitem))

/-! ## A preorder on policies -/

/-- Seen through default deny, the set of side-effecting tools and their caps, the
second policy allows no more than the first. -/
structure KeepsCaps (first second : PaybondPolicyDocumentV1) : Prop where
  default_deny : first.defaultDeny = true → second.defaultDeny = true
  side_effecting : ∀ toolName, second.SideEffecting toolName → first.SideEffecting toolName
  max_spend_cents : ∀ toolName entry entry' cap,
    first.tools.get? toolName = some entry → entry.sideEffecting = true →
    second.tools.get? toolName = some entry' → entry'.sideEffecting = true →
    entry.maxSpendCents = some cap → ∃ cap' ≤ cap, entry'.maxSpendCents = some cap'

theorem KeepsCaps.refl (document : PaybondPolicyDocumentV1) : KeepsCaps document document where
  default_deny := id
  side_effecting _ := id
  max_spend_cents toolName entry entry' cap hentry _ hentry' _ hcap := by
    cases hentry.symm.trans hentry'
    exact ⟨cap, le_rfl, hcap⟩

/-- A tool that is side-effecting at both ends was side-effecting in between. -/
theorem KeepsCaps.trans {first second third : PaybondPolicyDocumentV1}
    (hfirst : KeepsCaps first second) (hsecond : KeepsCaps second third) :
    KeepsCaps first third where
  default_deny h := hsecond.default_deny (hfirst.default_deny h)
  side_effecting toolName h :=
    hfirst.side_effecting toolName (hsecond.side_effecting toolName h)
  max_spend_cents toolName entry entry' cap hentry hside hentry' hside' hcap := by
    obtain ⟨middle, hmiddle, hmiddleSide⟩ := hsecond.side_effecting toolName ⟨entry', hentry', hside'⟩
    obtain ⟨cap', hle, hcap'⟩ :=
      hfirst.max_spend_cents toolName entry middle cap hentry hside hmiddle hmiddleSide hcap
    obtain ⟨cap'', hle', hcap''⟩ :=
      hsecond.max_spend_cents toolName middle entry' cap' hmiddle hmiddleSide hentry' hside' hcap'
    exact ⟨cap'', hle'.trans hle, hcap''⟩

instance : IsTrans PaybondPolicyDocumentV1 KeepsCaps := ⟨fun _ _ _ => KeepsCaps.trans⟩

/-- An accepted reload keeps the caps. -/
theorem NotLooser.keepsCaps {previous next : PaybondPolicyDocumentV1}
    (hnot : NotLooser previous next) : KeepsCaps previous next where
  default_deny := hnot.default_deny
  side_effecting := by
    rintro toolName ⟨entry, hentry, hside⟩
    exact (hnot.tools toolName entry hentry).side_effecting hside
  max_spend_cents toolName entry entry' cap hentry _ hentry' _ hcap :=
    (hnot.tools toolName entry' hentry').max_spend_cents entry cap hentry hcap

/-! ## What stays guarded -/

section Guarded

variable {catalog : CompletionCatalog} {previous next : PaybondPolicyDocumentV1}
variable {previousRegistry nextRegistry : PaybondToolRegistry} {allowedTools : List String}

/-- The registry lets the tool run without authorization. -/
def PassesThrough (registry : PaybondToolRegistry) (allowedTools : List String)
    (toolName : String) : Prop :=
  registry.resolveTool toolName (some allowedTools) = .passthrough toolName

theorem passesThrough_iff {document : PaybondPolicyDocumentV1} {registry : PaybondToolRegistry}
    (hregistry : policyToToolRegistry catalog document = .ok registry) (toolName : String) :
    PassesThrough registry allowedTools toolName ↔
      ¬document.SideEffecting toolName ∧
        ¬(document.defaultDeny = true ∧ toolName ∈ allowedTools) := by
  rw [← policyToToolRegistry_contains hregistry, ← policyToToolRegistry_defaultDeny hregistry,
    PassesThrough]
  cases hentry : registry.sideEffecting.get? toolName with
  | some entry =>
      simp [PaybondToolRegistry.resolveTool_sideEffecting hentry, OrderedDict.contains, hentry]
  | none =>
      rw [PaybondToolRegistry.resolveTool_unregistered hentry]
      by_cases hdenied : registry.defaultDeny = true ∧ toolName ∈ allowedTools
      · simp [hdenied]
      · simp [hdenied, OrderedDict.contains, hentry]

theorem guarded_iff {document : PaybondPolicyDocumentV1} {registry : PaybondToolRegistry}
    (hregistry : policyToToolRegistry catalog document = .ok registry) (toolName : String) :
    ¬PassesThrough registry allowedTools toolName ↔
      document.SideEffecting toolName ∨
        (document.defaultDeny = true ∧ toolName ∈ allowedTools) := by
  rw [passesThrough_iff hregistry, not_and_or, not_not, not_not]

/-- Every tool that the previous registry guarded is guarded by the next one exactly
when each side-effecting tool that was dropped is still denied by its name. -/
theorem NotLooser.guards_iff (hnot : NotLooser previous next)
    (hprevious : policyToToolRegistry catalog previous = .ok previousRegistry)
    (hnext : policyToToolRegistry catalog next = .ok nextRegistry) :
    (∀ toolName, ¬PassesThrough previousRegistry allowedTools toolName →
        ¬PassesThrough nextRegistry allowedTools toolName) ↔
      ∀ toolName, previous.SideEffecting toolName →
        next.SideEffecting toolName ∨ (next.defaultDeny = true ∧ toolName ∈ allowedTools) := by
  simp only [guarded_iff hprevious, guarded_iff hnext]
  constructor
  · intro hguarded toolName hside
    exact hguarded toolName (.inl hside)
  · intro hdropped toolName hguarded
    rcases hguarded with hside | ⟨hdeny, hallowed⟩
    · exact hdropped toolName hside
    · exact .inr ⟨hnot.default_deny hdeny, hallowed⟩

end Guarded

end PaybondKit.Policy
