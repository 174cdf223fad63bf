import Mathlib.Data.Finset.Card
import Mathlib.Data.Finset.Image
import PaybondKit.Policy.MergeOperations
import PaybondKit.Policy.Reload
import PaybondKit.Policy.SchemaForm

/-!
# Intents created from policies

Creating an intent translates the tool names of `intent.allowed_tools` into Harbor
operations. A reload compares the entries themselves with those operations, so a
policy that names a tool which goes by another operation cannot be reloaded onto
its own intent.
-/

namespace PaybondKit.Policy

open Agent

def policyIntentSpecError (message : String) : PyExc :=
  .other "PaybondPolicyIntentSpecError" message

section Resolve

variable (registry : PaybondToolRegistry)

/-- The operation of one entry: a tool's, or the entry itself. -/
def resolveAllowedEntry (name : String) : Except PyExc String :=
  if registry.isSideEffecting name then .ok (registry.resolveOperation name)
  else if name ∈ registry.operations then .ok name
  else
    .error (policyIntentSpecError (s!"allowed_tools entry \"{name}\" is not a registered " ++
      "side-effecting tool or Harbor operation"))

/-- The loop over the entries; `resolved` holds the operations met so far. -/
def resolveAllowedFrom (resolved : List String) : List String → Except PyExc (List String)
  | [] => .ok resolved
  | name :: names => do
      let operation ← resolveAllowedEntry registry name
      resolveAllowedFrom (if operation ∈ resolved then resolved else resolved ++ [operation]) names

def resolveAllowedHarborOperations (document : PaybondPolicyDocumentV1)
    (override : Option (List String)) : Except PyExc (List String) := do
  let raw := override.getD document.allowedTools
  raiseIf (raw = []) (policyIntentSpecError
    "policy intent.allowed_tools is required for to_intent_create_input")
  let resolved ← resolveAllowedFrom registry [] raw
  raiseIf (resolved = []) (policyIntentSpecError
    "allowed_tools must resolve to at least one Harbor operation")
  (registry.validateForBind resolved).mapError fun exception =>
    policyIntentSpecError exception.str
  return resolved

variable {registry}

theorem resolveAllowedEntry_eq_ok {name operation : String}
    (hentry : resolveAllowedEntry registry name = .ok operation) :
    operation = registry.resolveOperation name ∧ operation ∈ registry.operations := by
  unfold resolveAllowedEntry at hentry
  split at hentry
  next hside =>
    cases hentry
    obtain ⟨entry, hget⟩ := Option.isSome_iff_exists.mp hside
    refine ⟨rfl, ?_⟩
    rw [PaybondToolRegistry.resolveOperation, hget]
    exact List.mem_map_of_mem
      (List.mem_map_of_mem (OrderedDict.get?_eq_some_iff.mp hget))
  next hside =>
    obtain ⟨hmem, hentry⟩ : name ∈ registry.operations ∧ name = operation := by
      by_cases hmem : name ∈ registry.operations
      · simpa [hmem] using hentry
      · simp [hmem] at hentry
    subst hentry
    have hnone : registry.sideEffecting.get? name = none := by
      simpa [PaybondToolRegistry.isSideEffecting, OrderedDict.contains] using hside
    exact ⟨by simp [PaybondToolRegistry.resolveOperation, hnone], hmem⟩

/-- The loop collects the operations of the entries, all of them registered. -/
theorem resolveAllowedFrom_eq_ok {names resolved operations : List String}
    (hloop : resolveAllowedFrom registry resolved names = .ok operations) :
    (∀ operation, operation ∈ operations ↔
        operation ∈ resolved ∨ operation ∈ names.map registry.resolveOperation) ∧
      ∀ name ∈ names, registry.resolveOperation name ∈ registry.operations := by
  induction names generalizing resolved with
  | nil =>
      cases hloop
      simp
  | cons name names ih =>
      obtain ⟨operation, hentry, hrest⟩ := except_bind_eq_ok.mp hloop
      obtain ⟨rfl, hregistered⟩ := resolveAllowedEntry_eq_ok hentry
      obtain ⟨hmem, hnames⟩ := ih hrest
      constructor
      · intro operation
        rw [hmem, List.map_cons, List.mem_cons]
        split
        next hseen =>
          constructor
          · rintro (hold | hlater)
            · exact .inl hold
            · exact .inr (.inr hlater)
          · rintro (hold | rfl | hlater)
            · exact .inl hold
            · exact .inl hseen
            · exact .inr hlater
        next => simp only [List.mem_append, List.mem_singleton, or_assoc]
      · exact List.forall_mem_cons.mpr ⟨hregistered, hnames⟩

theorem resolveAllowedHarborOperations_eq_ok {document : PaybondPolicyDocumentV1}
    {operations : List String}
    (hresolved : resolveAllowedHarborOperations registry document none = .ok operations) :
    (∀ operation, operation ∈ operations ↔
        operation ∈ document.allowedTools.map registry.resolveOperation) ∧
      ∀ name ∈ document.allowedTools, registry.resolveOperation name ∈ registry.operations := by
  simp only [resolveAllowedHarborOperations, except_bind_eq_ok, except_pure_eq_ok] at hresolved
  obtain ⟨_, -, resolved, hloop, _, -, _, -, rfl⟩ := hresolved
  simpa using resolveAllowedFrom_eq_ok hloop

end Resolve

/-! ## The operations of a document -/

theorem pyStrip_toolName {toolName : String} (hname : toolNameRe toolName = true) :
    pyStrip toolName = toolName := by
  have hlower : ∀ c : Char, isLower c = true → isPySpace c = false := by
    intro c hc
    simp only [isLower, Bool.and_eq_true, decide_eq_true_eq, Char.le_def,
      UInt32.le_iff_toNat_le] at hc
    have hlow : 97 ≤ c.toNat := hc.1
    have hhigh : c.toNat ≤ 122 := hc.2
    simp only [isPySpace, Bool.or_eq_false_iff, Bool.and_eq_false_iff, decide_eq_false_iff_not]
    omega
  have hdigit : ∀ c : Char, isDigit c = true → isPySpace c = false := by
    intro c hc
    simp only [isDigit, Bool.and_eq_true, decide_eq_true_eq, Char.le_def,
      UInt32.le_iff_toNat_le] at hc
    have hlow : 48 ≤ c.toNat := hc.1
    have hhigh : c.toNat ≤ 57 := hc.2
    simp only [isPySpace, Bool.or_eq_false_iff, Bool.and_eq_false_iff, decide_eq_false_iff_not]
    omega
  refine pyStrip_eq_self fun c hc => ?_
  unfold toolNameRe matchesHeadTail at hname
  cases hchars : toolName.toList with
  | nil =>
      rw [hchars] at hc
      cases hc
  | cons first rest =>
      rw [hchars] at hname hc
      simp only [Bool.and_eq_true, List.all_eq_true, Bool.or_eq_true, decide_eq_true_eq] at hname
      obtain ⟨⟨hfirst, hrest⟩, -⟩ := hname
      rcases List.mem_cons.mp hc with rfl | hc
      · exact hlower c hfirst
      · rcases hrest c hc with (((hc | hc) | rfl) | rfl) | rfl
        · exact hlower c hc
        · exact hdigit c hc
        all_goals decide

/-- The operation belongs to a side-effecting tool of the document. -/
def PaybondPolicyDocumentV1.HasOperation (document : PaybondPolicyDocumentV1)
    (operation : String) : Prop :=
  ∃ toolName entry, document.tools.get? toolName = some entry ∧ entry.sideEffecting = true ∧
    registeredOperation toolName entry = operation

section Document

variable {catalog : CompletionCatalog} {document : PaybondPolicyDocumentV1}
variable {registry : PaybondToolRegistry} {operations : List String}

/-- The reload takes the same operation from an entry as the registry. -/
theorem mem_documentOperations (hvalid : document.SchemaValid) (operation : String) :
    operation ∈ documentOperations document ↔ document.HasOperation operation := by
  have hsame : ∀ item ∈ document.tools.items,
      (truthyStr (item.2.operation.map pyStrip)).getD item.1 =
        registeredOperation item.1 item.2 := by
    intro item hitem
    have hname := pyStrip_toolName (hvalid.tools.names item hitem)
    rw [registeredOperation, toolRegistryPolicy]
    cases hoperation : truthyStr (item.2.operation.map pyStrip) with
    | none => simp [hname]
    | some stripped =>
        obtain ⟨declared, -, rfl⟩ := Option.map_eq_some_iff.mp
          (Option.filter_eq_some_iff.mp hoperation).1
        exact (pyStrip_pyStrip declared).symm
  unfold documentOperations PaybondPolicyDocumentV1.HasOperation
  simp only [List.mem_map, List.mem_filter, OrderedDict.get?_eq_some_iff]
  constructor
  · rintro ⟨item, ⟨hitem, hside⟩, rfl⟩
    exact ⟨item.1, item.2, hitem, hside, (hsame item hitem).symm⟩
  · rintro ⟨toolName, entry, hitem, hside, rfl⟩
    exact ⟨(toolName, entry), ⟨hitem, hside⟩, hsame _ hitem⟩

theorem mem_operations (hregistry : policyToToolRegistry catalog document = .ok registry)
    (operation : String) : operation ∈ registry.operations ↔ document.HasOperation operation := by
  rw [PaybondToolRegistry.operations, OrderedDict.values, List.map_map, List.mem_map]
  constructor
  · rintro ⟨item, hitem, rfl⟩
    obtain ⟨entry, hentry, hside, hoperation, -⟩ :=
      policyToToolRegistry_get? hregistry (OrderedDict.get?_eq_some_iff.mpr hitem)
    exact ⟨item.1, entry, hentry, hside, hoperation.symm⟩
  · rintro ⟨toolName, entry, hentry, hside, rfl⟩
    have hcontains := (policyToToolRegistry_contains hregistry toolName).mpr
      ⟨entry, hentry, hside⟩
    obtain ⟨registered, hregistered⟩ := Option.isSome_iff_exists.mp hcontains
    obtain ⟨entry', hentry', -, hoperation, -⟩ := policyToToolRegistry_get? hregistry hregistered
    cases hentry.symm.trans hentry'
    exact ⟨(toolName, registered), OrderedDict.get?_eq_some_iff.mp hregistered, hoperation⟩

theorem resolveOperation_tool (hregistry : policyToToolRegistry catalog document = .ok registry)
    {toolName : String} {entry : PaybondPolicyToolEntry}
    (hentry : document.tools.get? toolName = some entry) (hside : entry.sideEffecting = true) :
    registry.resolveOperation toolName = registeredOperation toolName entry := by
  have hcontains := (policyToToolRegistry_contains hregistry toolName).mpr ⟨entry, hentry, hside⟩
  obtain ⟨registered, hregistered⟩ := Option.isSome_iff_exists.mp hcontains
  obtain ⟨entry', hentry', -, hoperation, -⟩ := policyToToolRegistry_get? hregistry hregistered
  cases hentry.symm.trans hentry'
  rw [PaybondToolRegistry.resolveOperation, hregistered]
  exact hoperation

theorem resolveOperation_other (hregistry : policyToToolRegistry catalog document = .ok registry)
    {name : String} (hother : ¬document.SideEffecting name) :
    registry.resolveOperation name = name := by
  rw [← policyToToolRegistry_contains hregistry] at hother
  have hnone : registry.sideEffecting.get? name = none := by
    simpa [OrderedDict.contains] using hother
  simp [PaybondToolRegistry.resolveOperation, hnone]

/-- A registry is only built when no two tools have the same operation. -/
theorem registeredOperation_injective
    (hregistry : policyToToolRegistry catalog document = .ok registry) {first second : String}
    {entry entry' : PaybondPolicyToolEntry} (hfirst : document.tools.get? first = some entry)
    (hside : entry.sideEffecting = true) (hsecond : document.tools.get? second = some entry')
    (hside' : entry'.sideEffecting = true)
    (hsame : registeredOperation first entry = registeredOperation second entry') :
    first = second := by
  have hregistered : ∀ toolName entry, document.tools.get? toolName = some entry →
      entry.sideEffecting = true → ∃ registered,
        registry.sideEffecting.get? toolName = some registered ∧
          registered.operation = registeredOperation toolName entry := by
    intro toolName entry hentry hside
    have hcontains := (policyToToolRegistry_contains hregistry toolName).mpr
      ⟨entry, hentry, hside⟩
    obtain ⟨registered, hget⟩ := Option.isSome_iff_exists.mp hcontains
    obtain ⟨found, hfound, -, hoperation, -⟩ := policyToToolRegistry_get? hregistry hget
    cases hentry.symm.trans hfound
    exact ⟨registered, hget, hoperation⟩
  obtain ⟨registered, hget, hoperation⟩ := hregistered first entry hfirst hside
  obtain ⟨registered', hget', hoperation'⟩ := hregistered second entry' hsecond hside'
  refine policyToToolRegistry_operation_unique hregistry hget hget' ?_
  rw [hoperation, hoperation', hsame]

theorem requiresIntentRebind_eq_false (hvalid : document.SchemaValid) :
    requiresIntentRebind document operations = false ↔
      (∀ name ∈ document.allowedTools, name ∈ operations) ∧
        ∀ operation, document.HasOperation operation → operation ∈ operations := by
  simp only [requiresIntentRebind, Bool.or_eq_false_iff, List.any_eq_false, decide_eq_true_eq,
    not_not, mem_documentOperations hvalid]
  rfl

end Document

/-! ## Reloading onto the intent -/

/-- A set that is contained in its image, when the image lies within a set it contains, is
that set. -/
theorem subset_image_iff {α : Type} [DecidableEq α] {f : α → α} {names operations : Finset α}
    (hmaps : names.image f ⊆ operations) :
    names ⊆ names.image f ∧ operations ⊆ names.image f ↔
      names = operations ∧ operations ⊆ operations.image f := by
  constructor
  · rintro ⟨hnames, hoperations⟩
    have hcard : operations.card ≤ names.card :=
      (Finset.card_le_card hoperations).trans Finset.card_image_le
    have hsame : names = operations :=
      Finset.eq_of_subset_of_card_le (hnames.trans hmaps) hcard
    exact ⟨hsame, hsame ▸ hoperations⟩
  · rintro ⟨rfl, hsubset⟩
    exact ⟨hsubset, hsubset⟩

/-- The allowlist names the side-effecting tools by their operations, and where an operation
is itself the name of a side-effecting tool, the tool it belongs to is named like an
operation. -/
structure PaybondPolicyDocumentV1.AllowsItsOperations (document : PaybondPolicyDocumentV1) :
    Prop where
  allowed_tools : ∀ name, name ∈ document.allowedTools ↔ document.HasOperation name
  aliases : ∀ toolName entry, document.tools.get? toolName = some entry →
    entry.sideEffecting = true → document.SideEffecting (registeredOperation toolName entry) →
    document.HasOperation toolName

/-- The reload is refused because the policy needs another intent. -/
def RefusedForRebind (result : Except PyExc Unit) : Prop :=
  ∃ message, result = .error (.policyReload "intent_rebind_required" message)

section Rebind

variable {catalog : CompletionCatalog} {document : PaybondPolicyDocumentV1}
variable {registry : PaybondToolRegistry} {operations : List String}

theorem refusedForRebind_iff {previous : Option PaybondPolicyDocumentV1}
    {snapshot : PaybondPolicySnapshot} {options : PaybondPolicyReloadOptions} :
    RefusedForRebind (checkReplacement previous snapshot options operations) ↔
      operations ≠ [] ∧ requiresIntentRebind snapshot.document operations = true := by
  by_cases hrebind : (!operations.isEmpty && requiresIntentRebind snapshot.document operations) =
      true
  · have hboth : operations ≠ [] ∧ requiresIntentRebind snapshot.document operations = true := by
      simpa using hrebind
    refine iff_of_true ?_ hboth
    unfold checkReplacement
    rw [if_pos hrebind]
    exact ⟨_, rfl⟩
  · have hneither : ¬(operations ≠ [] ∧
        requiresIntentRebind snapshot.document operations = true) := by
      simpa using hrebind
    refine iff_of_false ?_ hneither
    rintro ⟨message, hrefused⟩
    unfold checkReplacement at hrefused
    rw [if_neg hrebind] at hrefused
    have hbind : (if (!operations.isEmpty) = true then
        snapshot.registry.validateForBind operations else .ok ()) ≠
          .error (.policyReload "intent_rebind_required" message) := by
      intro hbind
      unfold PaybondToolRegistry.validateForBind at hbind
      repeat' split at hbind
      all_goals cases hbind
    -- a loosening is refused with another code
    cases previous with
    | none => exact hbind hrefused
    | some previous =>
        dsimp only at hrefused
        split at hrefused
        · split at hrefused
          · obtain ⟨hcode, -⟩ := PyExc.policyReload.inj (Except.error.inj hrefused)
            exact absurd hcode (by decide)
          · exact hbind hrefused
        · exact hbind hrefused

/-- A reload of the policy's tools and intent needs what the policy needs. -/
theorem requiresIntentRebind_congr {next : PaybondPolicyDocumentV1}
    (htools : next.tools = document.tools) (hintent : next.intent = document.intent) :
    requiresIntentRebind next operations = requiresIntentRebind document operations := by
  rw [requiresIntentRebind, requiresIntentRebind, documentOperations, documentOperations, htools,
    hintent]

/-- What an operation of the document resolves to, taken as an entry of the allowlist. -/
theorem exists_resolveOperation_iff
    (hregistry : policyToToolRegistry catalog document = .ok registry) {toolName : String}
    {entry : PaybondPolicyToolEntry} (hentry : document.tools.get? toolName = some entry)
    (hside : entry.sideEffecting = true) :
    (∃ name, document.HasOperation name ∧
        registry.resolveOperation name = registeredOperation toolName entry) ↔
      (document.SideEffecting (registeredOperation toolName entry) →
        document.HasOperation toolName) := by
  constructor
  · rintro ⟨name, hname, hresolves⟩ halias
    by_cases htool : document.SideEffecting name
    · obtain ⟨entry', hentry', hside'⟩ := htool
      rw [resolveOperation_tool hregistry hentry' hside'] at hresolves
      rw [← registeredOperation_injective hregistry hentry' hside' hentry hside hresolves]
      exact hname
    · rw [resolveOperation_other hregistry htool] at hresolves
      rw [← hresolves] at halias
      exact absurd halias htool
  · intro halias
    by_cases htool : document.SideEffecting (registeredOperation toolName entry)
    · exact ⟨toolName, halias htool, resolveOperation_tool hregistry hentry hside⟩
    · exact ⟨registeredOperation toolName entry, ⟨toolName, entry, hentry, hside, rfl⟩,
        resolveOperation_other hregistry htool⟩

/-- A policy can be reloaded onto the intent created from it exactly when its allowlist names
its side-effecting tools by their operations. -/
theorem reloadsOntoItsIntent_iff {raw : PyValue}
    (hdocument : parsePaybondPolicyDocumentV1 raw = .ok document)
    (hregistry : policyToToolRegistry catalog document = .ok registry)
    (hresolved : resolveAllowedHarborOperations registry document none = .ok operations) :
    (requiresIntentRebind document operations = false ∧
        ∀ previous snapshot options, snapshot.document.tools = document.tools →
          snapshot.document.intent = document.intent →
          ¬RefusedForRebind (checkReplacement previous snapshot options operations)) ↔
      document.AllowsItsOperations := by
  have hvalid := parsePaybondPolicyDocumentV1_schemaValid hdocument
  obtain ⟨hmem, hregistered⟩ := resolveAllowedHarborOperations_eq_ok hresolved
  have hreload : (requiresIntentRebind document operations = false ∧
        ∀ previous snapshot options, snapshot.document.tools = document.tools →
          snapshot.document.intent = document.intent →
          ¬RefusedForRebind (checkReplacement previous snapshot options operations)) ↔
      requiresIntentRebind document operations = false := by
    refine ⟨And.left, fun hrebind => ⟨hrebind, ?_⟩⟩
    intro previous snapshot options htools hintent hrefused
    have hsnapshot := (refusedForRebind_iff.mp hrefused).2
    rw [requiresIntentRebind_congr htools hintent, hrebind] at hsnapshot
    cases hsnapshot
  let names := document.allowedTools.toFinset
  let declared := (documentOperations document).toFinset
  have hdeclared : ∀ operation, operation ∈ declared ↔ document.HasOperation operation := by
    intro operation
    rw [List.mem_toFinset, mem_documentOperations hvalid]
  have himage : ∀ operation, operation ∈ operations ↔
      operation ∈ names.image registry.resolveOperation := by
    intro operation
    rw [hmem, List.mem_map, Finset.mem_image]
    simp only [names, List.mem_toFinset]
  have hmaps : names.image registry.resolveOperation ⊆ declared := by
    intro operation hoperation
    obtain ⟨name, hname, rfl⟩ := Finset.mem_image.mp hoperation
    rw [hdeclared, ← mem_operations hregistry]
    exact hregistered name (List.mem_toFinset.mp hname)
  have hsubsets : requiresIntentRebind document operations = false ↔
      names ⊆ names.image registry.resolveOperation ∧
        declared ⊆ names.image registry.resolveOperation := by
    rw [requiresIntentRebind_eq_false hvalid]
    simp only [Finset.subset_iff, hdeclared, himage]
    simp only [names, List.mem_toFinset]
  rw [hreload, hsubsets, subset_image_iff hmaps]
  have hsame : names = declared ↔
      ∀ name, name ∈ document.allowedTools ↔ document.HasOperation name := by
    rw [Finset.ext_iff]
    simp only [hdeclared, names, List.mem_toFinset]
  have hcovers : declared ⊆ declared.image registry.resolveOperation ↔
      ∀ toolName entry, document.tools.get? toolName = some entry →
        entry.sideEffecting = true →
        document.SideEffecting (registeredOperation toolName entry) →
        document.HasOperation toolName := by
    simp only [Finset.subset_iff, Finset.mem_image, hdeclared]
    constructor
    · intro hcovers toolName entry hentry hside
      exact (exists_resolveOperation_iff hregistry hentry hside).mp
        (hcovers ⟨toolName, entry, hentry, hside, rfl⟩)
    · rintro haliases operation ⟨toolName, entry, hentry, hside, rfl⟩
      exact (exists_resolveOperation_iff hregistry hentry hside).mpr
        (haliases toolName entry hentry hside)
  rw [hsame, hcovers]
  exact ⟨fun h => ⟨h.1, h.2⟩, fun h => ⟨h.allowed_tools, h.aliases⟩⟩

end Rebind

/-! ## A tool under another operation -/

/-- A tool that goes by another operation, allowed by its own name. -/
def aliasPolicy : PyValue := .dict
  [("version", .int 1), ("name", .str "ops-v1"), ("default_deny", .bool true),
    ("tools", .dict [("book_hotel", .dict [("side_effecting", .bool true),
      ("operation", .str "travel.book_hotel"),
      ("evidence_preset", .str "cost_and_completion")])]),
    ("intent", .dict [("policy_binding", .dict [("template_id", .str "travel_agent_template"),
        ("version_seq", .int 3)]),
      ("allowed_tools", .list [.str "book_hotel"])])]

theorem reloadsOntoItsIntent_alias : ∃ document registry,
    parsePaybondPolicyDocumentV1 aliasPolicy = .ok document ∧
      policyToToolRegistry catalogTravel document = .ok registry ∧
      resolveAllowedHarborOperations registry document none = .ok ["travel.book_hotel"] ∧
      ((requiresIntentRebind document ["travel.book_hotel"] = false ∧
          ∀ previous snapshot options, snapshot.document.tools = document.tools →
            snapshot.document.intent = document.intent →
            ¬RefusedForRebind
              (checkReplacement previous snapshot options ["travel.book_hotel"])) ↔
        document.AllowsItsOperations) :=
  ⟨_, _, rfl, rfl, rfl, @reloadsOntoItsIntent_iff catalogTravel _ _ _ aliasPolicy rfl rfl rfl⟩

/-- The intent is created for the operation, and a reload of the same policy misses the name. -/
theorem alias_requires_rebind : ∃ document registry,
    parsePaybondPolicyDocumentV1 aliasPolicy = .ok document ∧
      policyToToolRegistry catalogTravel document = .ok registry ∧
      resolveAllowedHarborOperations registry document none = .ok ["travel.book_hotel"] ∧
      requiresIntentRebind document ["travel.book_hotel"] = true :=
  ⟨_, _, rfl, rfl, rfl, rfl⟩

end PaybondKit.Policy
