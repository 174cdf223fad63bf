import PaybondKit.Policy.ComposeSchema
import PaybondKit.Policy.MergeSound

/-!
# What composing tightens

A composed document is compared with the domain document that the composition began with.
The constructors of guardrails only tighten it. A guardrail document writes over what it
names, and tightens as long as it does not say the opposite of the domain document.
-/

namespace PaybondKit.Policy

open Agent (PyExc PlatformText textTravel)

/-- The layer was made by a constructor or from a guardrail document. -/
inductive GuardrailLayer : PolicyGuardrailLayer → Prop where
  | constructed {layer : PolicyGuardrailLayer} (hlayer : ConstructedLayer layer) :
      GuardrailLayer layer
  | document (document : OrderedDict String PyValue) :
      GuardrailLayer (guardrailLayerFromDocument document)

/-- `intent.budget.max_spend_usd`. -/
def PaybondPolicyDocumentV1.budgetAmount (document : PaybondPolicyDocumentV1) : Option PyValue :=
  (document.intent.bind (·.budget)).bind (·.get? "max_spend_usd")

def PaybondPolicyDocumentV1.budgetCap (document : PaybondPolicyDocumentV1) : Option PyFloat :=
  document.budgetAmount.bind (·.number?)

/-- The fixed cap of an entry is not dropped and not raised. -/
def KeepsCap (entry next : PaybondPolicyToolEntry) : Prop :=
  ∀ cap, entry.maxSpendCents = some cap → ∃ cap' ≤ cap, next.maxSpendCents = some cap'

/-- The second document is no looser than the first. -/
structure Tightens (document composed : PaybondPolicyDocumentV1) : Prop where
  default_deny : document.defaultDeny = true → composed.defaultDeny = true
  max_spend_cents : ∀ toolName entry next, document.tools.get? toolName = some entry →
    composed.tools.get? toolName = some next → KeepsCap entry next
  side_effecting : ∀ toolName entry next, document.tools.get? toolName = some entry →
    composed.tools.get? toolName = some next → entry.sideEffecting = true →
    next.sideEffecting = true
  max_spend_usd : ∀ cap, document.budgetCap = some cap →
    ∃ cap', composed.budgetCap = some cap' ∧ ¬cap < cap'
  allowed_tools : document.allowedTools ≠ [] → composed.allowedTools ⊆ document.allowedTools

theorem Tightens.refl (document : PaybondPolicyDocumentV1) : Tightens document document where
  default_deny := id
  max_spend_cents toolName entry next hentry hnext cap hcap := by
    cases hentry.symm.trans hnext
    exact ⟨cap, le_rfl, hcap⟩
  side_effecting toolName entry next hentry hnext hside := by
    cases hentry.symm.trans hnext
    exact hside
  max_spend_usd cap hcap := ⟨cap, hcap, fun hlt => hlt.2 hlt.1⟩
  allowed_tools _ := List.Subset.refl _

/-! ## Patches -/

section Patches

variable {platform : PlatformText} {parseInt : String → Except PyExc Int}

theorem patchWith_eq_ok {patch : PyValue} {key : String}
    {apply : PaybondPolicyToolEntry → PyValue → Except PyExc PaybondPolicyToolEntry}
    {merged result : PaybondPolicyToolEntry}
    (hresult : patchWith patch key apply merged = .ok result) :
    ∃ value, patchField patch key = .ok value ∧
      value.elim (.ok merged) (apply merged) = .ok result := by
  obtain ⟨value, hvalue, hresult⟩ := except_bind_eq_ok.mp hresult
  refine ⟨value, hvalue, ?_⟩
  cases value <;> exact hresult

/-- What a patch does to the flag and the cap of an entry. -/
structure MergedEntry (patch : PyValue) (base merged : PaybondPolicyToolEntry) : Prop where
  side_effecting : ∃ value, patchField patch "side_effecting" = .ok value ∧
    merged.sideEffecting = value.elim base.sideEffecting (·.truthy)
  spend_from_args : ∃ value, patchField patch "spend_from_args" = .ok value ∧
    (value = none → KeepsCap base merged) ∧ (value ≠ none → merged.maxSpendCents = none)

theorem mergeToolEntry_eq_ok {base merged : PaybondPolicyToolEntry} {patch : PyValue}
    (hmerged : mergeToolEntry platform parseInt base patch = .ok merged) :
    MergedEntry patch base merged := by
  unfold mergeToolEntry at hmerged
  obtain ⟨flagged, hflag, hmerged⟩ := except_bind_eq_ok.mp hmerged
  obtain ⟨capped, hcap, hmerged⟩ := except_bind_eq_ok.mp hmerged
  obtain ⟨read, hread, hmerged⟩ := except_bind_eq_ok.mp hmerged
  obtain ⟨preset, hpreset, hmerged⟩ := except_bind_eq_ok.mp hmerged
  obtain ⟨pack, hpack, hoperation⟩ := except_bind_eq_ok.mp hmerged
  obtain ⟨flagValue, hflagField, hflag⟩ := patchWith_eq_ok hflag
  obtain ⟨capValue, -, hcap⟩ := patchWith_eq_ok hcap
  obtain ⟨readValue, hreadField, hread⟩ := patchWith_eq_ok hread
  -- the last three fields are neither the flag nor the cap
  have hlater : ∀ {patch key entry result}
      {apply : PaybondPolicyToolEntry → PyValue → PaybondPolicyToolEntry},
      patchWith patch key (fun merged value => .ok (apply merged value)) entry = .ok result →
      (∀ value, (apply entry value).sideEffecting = entry.sideEffecting ∧
        (apply entry value).maxSpendCents = entry.maxSpendCents) →
      result.sideEffecting = entry.sideEffecting ∧
        result.maxSpendCents = entry.maxSpendCents := by
    intro patch key entry result apply hresult hfields
    obtain ⟨value, -, hresult⟩ := patchWith_eq_ok hresult
    cases value with
    | none =>
        cases hresult
        exact ⟨rfl, rfl⟩
    | some value =>
        cases hresult
        exact hfields value
  obtain ⟨hside, hmax⟩ := hlater hoperation fun _ => ⟨rfl, rfl⟩
  obtain ⟨hside', hmax'⟩ := hlater hpack fun _ => ⟨rfl, rfl⟩
  obtain ⟨hside'', hmax''⟩ := hlater hpreset fun _ => ⟨rfl, rfl⟩
  rw [hside', hside''] at hside
  rw [hmax', hmax''] at hmax
  have hkeepsCap : KeepsCap base capped := by
    intro cap hbase
    have hflagged : flagged.maxSpendCents = some cap := by
      cases flagValue with
      | none =>
          cases hflag
          exact hbase
      | some value =>
          cases hflag
          exact hbase
    cases capValue with
    | none =>
        cases hcap
        exact ⟨cap, le_rfl, hflagged⟩
    | some value =>
        obtain ⟨cents, -, hcap⟩ := except_bind_eq_ok.mp hcap
        cases hcap
        refine ⟨min cap cents, min_le_left _ _, ?_⟩
        rw [hflagged]
        rfl
  constructor
  · refine ⟨flagValue, hflagField, ?_⟩
    have hread' : read.sideEffecting = capped.sideEffecting := by
      cases readValue <;> cases hread <;> rfl
    have hcap' : capped.sideEffecting = flagged.sideEffecting := by
      cases capValue with
      | none =>
          cases hcap
          rfl
      | some value =>
          obtain ⟨cents, -, hcap⟩ := except_bind_eq_ok.mp hcap
          cases hcap
          rfl
    rw [hside, hread', hcap']
    cases flagValue <;> cases hflag <;> rfl
  · refine ⟨readValue, hreadField, ?_, ?_⟩
    · rintro rfl cap hbase
      cases hread
      rw [hmax]
      exact hkeepsCap cap hbase
    · intro hvalue
      rw [hmax]
      cases readValue with
      | none => exact absurd rfl hvalue
      | some value =>
          cases hread
          rfl

/-- What the patches of a layer make of one tool. -/
def PatchedTool (platform : PlatformText) (parseInt : String → Except PyExc Int)
    (patch : Option PyValue) (entry next : Option PaybondPolicyToolEntry) : Prop :=
  match entry, patch with
  | none, _ => next = none
  | some entry, none => next = some entry
  | some entry, some patch =>
      ∃ merged, mergeToolEntry platform parseInt entry patch = .ok merged ∧ next = some merged

variable (platform parseInt) in
/-- One turn of the loop. -/
def patchTool (tools : OrderedDict String PaybondPolicyToolEntry) (patch : String × PyValue) :
    Except PyExc (OrderedDict String PaybondPolicyToolEntry) :=
  match tools.get? patch.1 with
  | none => .ok tools
  | some existing => tools.set patch.1 <$> mergeToolEntry platform parseInt existing patch.2

theorem patchTools_get? {layer : PolicyGuardrailLayer}
    {tools patched : OrderedDict String PaybondPolicyToolEntry}
    (hpatched : patchTools platform parseInt layer tools = .ok patched) (toolName : String) :
    PatchedTool platform parseInt (layer.tools.bind (·.get? toolName)) (tools.get? toolName)
      (patched.get? toolName) := by
  have hloop : ∀ (patches : List (String × PyValue))
      (tools : OrderedDict String PaybondPolicyToolEntry),
      (patches.map Prod.fst).Nodup →
      patches.foldlM (patchTool platform parseInt) tools = .ok patched →
      PatchedTool platform parseInt
        ((patches.find? fun item => item.1 = toolName).map Prod.snd) (tools.get? toolName)
        (patched.get? toolName) := by
    intro patches
    induction patches with
    | nil =>
        intro tools _ hresult
        cases hresult
        cases patched.get? toolName <;> rfl
    | cons patch patches ih =>
        intro tools hnodup hresult
        rw [List.map_cons, List.nodup_cons] at hnodup
        rw [List.foldlM_cons] at hresult
        obtain ⟨next, hnext, hrest⟩ := except_bind_eq_ok.mp hresult
        have hlater := ih next hnodup.2 hrest
        unfold patchTool at hnext
        rw [List.find?_cons]
        by_cases hsame : patch.1 = toolName
        · have hnone : patches.find? (fun item => item.1 = toolName) = none := by
            rw [List.find?_eq_none]
            intro item hitem hitemName
            refine hnodup.1 (List.mem_map.mpr ⟨item, hitem, ?_⟩)
            rw [hsame]
            exact of_decide_eq_true hitemName
          rw [hnone] at hlater
          rw [hsame] at hnext
          simp only [hsame, decide_true, Option.map_some]
          cases hexisting : tools.get? toolName with
          | none =>
              rw [hexisting] at hnext
              cases hnext
              rw [hexisting] at hlater
              exact hlater
          | some existing =>
              rw [hexisting] at hnext
              obtain ⟨merged, hmerged, rfl⟩ := except_map_eq_ok.mp hnext
              rw [OrderedDict.get?_set_self] at hlater
              exact ⟨merged, hmerged, hlater⟩
        · have hother : next.get? toolName = tools.get? toolName := by
            cases hexisting : tools.get? patch.1 with
            | none =>
                rw [hexisting] at hnext
                cases hnext
                rfl
            | some existing =>
                rw [hexisting] at hnext
                obtain ⟨merged, -, rfl⟩ := except_map_eq_ok.mp hnext
                rw [OrderedDict.get?_set, if_neg fun h => hsame h.symm]
          rw [hother] at hlater
          simpa only [hsame, decide_false] using hlater
  cases hpatches : layer.tools with
  | none =>
      rw [patchTools, hpatches] at hpatched
      exact hloop [] tools List.nodup_nil hpatched
  | some patches =>
      rw [patchTools, hpatches] at hpatched
      exact hloop patches.items tools patches.nodup hpatched

theorem get?_foldl_set_pairs (pairs : List (String × PyValue))
    (budget : OrderedDict String PyValue) (key : String) :
    (pairs.foldl (fun budget pair => budget.set pair.1 pair.2) budget).get? key =
      ((OrderedDict.ofList pairs).get? key).or (budget.get? key) := by
  induction pairs using List.reverseRecOn with
  | nil => rfl
  | append_singleton pairs pair ih =>
      rw [OrderedDict.ofList, List.foldl_append, List.foldl_append, List.foldl_cons,
        List.foldl_cons, List.foldl_nil, List.foldl_nil, OrderedDict.get?_set,
        OrderedDict.get?_set, ih]
      split <;> rfl

/-- A document's layer applies its flag, its patches and its intent. -/
structure AppliedDocument (platform : PlatformText) (parseInt : String → Except PyExc Int)
    (layer : PolicyGuardrailLayer) (document result : PaybondPolicyDocumentV1) : Prop where
  default_deny : document.defaultDeny = true → result.defaultDeny = true
  tools : patchTools platform parseInt layer document.tools = .ok result.tools
  intent : patchIntent layer document.intent = .ok result.intent

theorem applyGuardrailLayer_document {source : OrderedDict String PyValue}
    {document result : PaybondPolicyDocumentV1}
    (hresult : applyGuardrailLayer platform parseInt document
      (guardrailLayerFromDocument source) = .ok result) :
    AppliedDocument platform parseInt (guardrailLayerFromDocument source) document result := by
  rw [applyGuardrailLayer] at hresult
  dsimp only at hresult
  rw [applyDefaultDeny_eq] at hresult
  obtain ⟨patched, hpatched, hresult⟩ := except_bind_eq_ok.mp hresult
  obtain ⟨tools, htools, rfl⟩ := except_map_eq_ok.mp hpatched
  obtain ⟨replaced, hreplaced, hresult⟩ := except_bind_eq_ok.mp hresult
  obtain ⟨intent, hintent, rfl⟩ := except_map_eq_ok.mp hreplaced
  cases hresult
  refine ⟨fun hdeny => ?_, htools, hintent⟩
  change (document.defaultDeny || _) = true
  rw [hdeny, Bool.true_or]

end Patches

/-! ## One layer -/

/-- The layer says nothing, about what the composed document has left, that is against the
domain document. -/
structure LayerTightens (platform : PlatformText) (document composed : PaybondPolicyDocumentV1)
    (layer : PolicyGuardrailLayer) : Prop where
  side_effecting : ∀ toolName patch value entry, layer.tools.bind (·.get? toolName) = some patch →
    composed.tools.contains toolName = true →
    patchField patch "side_effecting" = .ok (some value) → value.truthy = false →
    document.tools.get? toolName = some entry → entry.sideEffecting = false
  spend_from_args : ∀ toolName patch value entry,
    layer.tools.bind (·.get? toolName) = some patch → composed.tools.contains toolName = true →
    patchField patch "spend_from_args" = .ok (some value) →
    document.tools.get? toolName = some entry → entry.maxSpendCents = none
  allowed_tools : ∀ value names, layer.intent.bind (·.get? "allowed_tools") = some value →
    namesTuple value = .ok names → document.allowedTools ≠ [] → names ⊆ document.allowedTools
  budget : ∀ value pairs amount cap, layer.intent.bind (·.get? "budget") = some value →
    updatePairs value = .ok pairs →
    (OrderedDict.ofList pairs).get? "max_spend_usd" = some amount →
    document.budgetCap = some cap → ∃ cap', amount.number? = some cap' ∧ ¬cap < cap'
  rounding : ∀ usd amount double cap, layer.budgetMaxSpendUsd = some usd →
    composed.budgetAmount = some amount → pyFloat platform amount = .ok double →
    document.budgetCap = some cap → cap < double → usd ≤ cap

section Step

variable {platform : PlatformText} {parseInt : String → Except PyExc Int}
variable {document composed next : PaybondPolicyDocumentV1} {layer : PolicyGuardrailLayer}

theorem tools_document_iff (htightens : Tightens document composed)
    (happlied : AppliedDocument platform parseInt layer composed next) :
    ((∀ toolName entry found, document.tools.get? toolName = some entry →
          next.tools.get? toolName = some found → KeepsCap entry found) ∧
        ∀ toolName entry found, document.tools.get? toolName = some entry →
          next.tools.get? toolName = some found → entry.sideEffecting = true →
          found.sideEffecting = true) ↔
      (∀ toolName patch value entry, layer.tools.bind (·.get? toolName) = some patch →
          composed.tools.contains toolName = true →
          patchField patch "spend_from_args" = .ok (some value) →
          document.tools.get? toolName = some entry → entry.maxSpendCents = none) ∧
        ∀ toolName patch value entry, layer.tools.bind (·.get? toolName) = some patch →
          composed.tools.contains toolName = true →
          patchField patch "side_effecting" = .ok (some value) → value.truthy = false →
          document.tools.get? toolName = some entry → entry.sideEffecting = false := by
  have hpatched := patchTools_get? happlied.tools
  constructor
  · rintro ⟨hcaps, hsides⟩
    constructor
    · intro toolName patch value entry hpatch hcontains hfield hentry
      obtain ⟨current, hcurrent⟩ := Option.isSome_iff_exists.mp hcontains
      have htool := hpatched toolName
      rw [hpatch, hcurrent] at htool
      obtain ⟨merged, hmerged, hfound⟩ := htool
      obtain ⟨args, hargs, -, hdropped⟩ := (mergeToolEntry_eq_ok hmerged).spend_from_args
      rw [hfield] at hargs
      cases hargs
      have hnone := hdropped (by simp)
      cases hcap : entry.maxSpendCents with
      | none => rfl
      | some cap =>
          obtain ⟨cap', -, hcap'⟩ := hcaps toolName entry merged hentry hfound cap hcap
          cases hnone.symm.trans hcap'
    · intro toolName patch value entry hpatch hcontains hfield hfalse hentry
      obtain ⟨current, hcurrent⟩ := Option.isSome_iff_exists.mp hcontains
      have htool := hpatched toolName
      rw [hpatch, hcurrent] at htool
      obtain ⟨merged, hmerged, hfound⟩ := htool
      obtain ⟨flag, hflag, hside⟩ := (mergeToolEntry_eq_ok hmerged).side_effecting
      rw [hfield] at hflag
      cases hflag
      by_contra hentrySide
      have hkept := hsides toolName entry merged hentry hfound (by simpa using hentrySide)
      rw [hside, Option.elim_some, hfalse] at hkept
      cases hkept
  · rintro ⟨hargs, hflags⟩
    constructor
    · intro toolName entry found hentry hfound cap hcap
      have htool := hpatched toolName
      rw [hfound] at htool
      cases hcurrent : composed.tools.get? toolName with
      | none =>
          rw [hcurrent] at htool
          cases htool
      | some current =>
          have hkept := htightens.max_spend_cents toolName entry current hentry hcurrent
          rw [hcurrent] at htool
          cases hpatch : layer.tools.bind (·.get? toolName) with
          | none =>
              rw [hpatch] at htool
              cases htool
              exact hkept cap hcap
          | some patch =>
              rw [hpatch] at htool
              obtain ⟨merged, hmerged, hsame⟩ := htool
              cases hsame
              obtain ⟨value, hvalue, hkeeps, -⟩ := (mergeToolEntry_eq_ok hmerged).spend_from_args
              cases value with
              | some value =>
                  have hnone := hargs toolName patch value entry hpatch
                    (by simp [OrderedDict.contains, hcurrent]) hvalue hentry
                  cases hnone.symm.trans hcap
              | none =>
                  obtain ⟨cap', hle, hcap'⟩ := hkept cap hcap
                  obtain ⟨cap'', hle', hcap''⟩ := hkeeps rfl cap' hcap'
                  exact ⟨cap'', hle'.trans hle, hcap''⟩
    · intro toolName entry found hentry hfound hside
      have htool := hpatched toolName
      rw [hfound] at htool
      cases hcurrent : composed.tools.get? toolName with
      | none =>
          rw [hcurrent] at htool
          cases htool
      | some current =>
          have hkept := htightens.side_effecting toolName entry current hentry hcurrent hside
          rw [hcurrent] at htool
          cases hpatch : layer.tools.bind (·.get? toolName) with
          | none =>
              rw [hpatch] at htool
              cases htool
              exact hkept
          | some patch =>
              rw [hpatch] at htool
              obtain ⟨merged, hmerged, hsame⟩ := htool
              cases hsame
              obtain ⟨value, hvalue, hflag⟩ := (mergeToolEntry_eq_ok hmerged).side_effecting
              rw [hflag]
              cases value with
              | none => exact hkept
              | some value =>
                  rw [Option.elim_some]
                  by_contra hfalse
                  have hread := hflags toolName patch value entry hpatch
                    (by simp [OrderedDict.contains, hcurrent]) hvalue (by simpa using hfalse)
                    hentry
                  rw [hread] at hside
                  cases hside

/-- An empty mapping has no keys. -/
theorem filter_nonempty_bind (mapping : Option (OrderedDict String PyValue)) (key : String) :
    (mapping.filter (!·.items.isEmpty)).bind (·.get? key) = mapping.bind (·.get? key) := by
  cases mapping with
  | none => rfl
  | some mapping =>
      rw [Option.filter_some]
      cases hitems : mapping.items with
      | nil => simp [OrderedDict.get?, hitems]
      | cons item items => simp

theorem nonemptyBudget_amount (intent : Option PaybondPolicyIntentSection) :
    ((nonemptyBudget intent).getD .empty).get? "max_spend_usd" =
      (intent.bind (·.budget)).bind (·.get? "max_spend_usd") := by
  rw [← filter_nonempty_bind, nonemptyBudget]
  cases (intent.bind (·.budget)).filter (!·.items.isEmpty) <;> rfl

/-- What a document's layer makes of the allowlist. -/
theorem allowedTools_document (happlied : AppliedDocument platform parseInt layer composed next) :
    (layer.intent.bind (·.get? "allowed_tools") = none ∧
        next.allowedTools = composed.allowedTools) ∨
      ∃ value, layer.intent.bind (·.get? "allowed_tools") = some value ∧
        namesTuple value = .ok next.allowedTools := by
  have hintent := happlied.intent
  unfold patchIntent at hintent
  rw [← filter_nonempty_bind]
  cases hpatch : layer.intent.filter (!·.items.isEmpty) with
  | none =>
      rw [hpatch] at hintent
      have hsame : composed.intent = next.intent := Except.ok.inj hintent
      refine .inl ⟨rfl, ?_⟩
      rw [PaybondPolicyDocumentV1.allowedTools, ← hsame, PaybondPolicyDocumentV1.allowedTools]
  | some patch =>
      rw [hpatch] at hintent
      obtain ⟨names, hnames, hintent⟩ := except_bind_eq_ok.mp hintent
      obtain ⟨budget, -, hintent⟩ := except_bind_eq_ok.mp hintent
      have hset := Except.ok.inj hintent
      have hallowed : next.allowedTools = names := by
        rw [PaybondPolicyDocumentV1.allowedTools, ← hset]
        rfl
      unfold patchAllowedTools at hnames
      rw [Option.bind_some]
      cases hvalue : patch.get? "allowed_tools" with
      | none =>
          rw [hvalue] at hnames
          refine .inl ⟨rfl, ?_⟩
          rw [hallowed, ← Except.ok.inj hnames]
          rfl
      | some value =>
          rw [hvalue] at hnames
          refine .inr ⟨value, rfl, ?_⟩
          rw [hallowed]
          exact hnames

/-- What a document's layer makes of the amount of the budget. -/
theorem budgetAmount_document (happlied : AppliedDocument platform parseInt layer composed next) :
    (layer.intent.bind (·.get? "budget") = none ∧ next.budgetAmount = composed.budgetAmount) ∨
      ∃ value pairs, layer.intent.bind (·.get? "budget") = some value ∧
        updatePairs value = .ok pairs ∧
        next.budgetAmount =
          ((OrderedDict.ofList pairs).get? "max_spend_usd").or composed.budgetAmount := by
  have hintent := happlied.intent
  unfold patchIntent at hintent
  rw [← filter_nonempty_bind]
  cases hpatch : layer.intent.filter (!·.items.isEmpty) with
  | none =>
      rw [hpatch] at hintent
      have hsame : composed.intent = next.intent := Except.ok.inj hintent
      refine .inl ⟨rfl, ?_⟩
      rw [PaybondPolicyDocumentV1.budgetAmount, ← hsame, PaybondPolicyDocumentV1.budgetAmount]
  | some patch =>
      rw [hpatch] at hintent
      obtain ⟨names, -, hintent⟩ := except_bind_eq_ok.mp hintent
      obtain ⟨budget, hbudget, hintent⟩ := except_bind_eq_ok.mp hintent
      have hset := Except.ok.inj hintent
      have hamount : next.budgetAmount = budget.bind (·.get? "max_spend_usd") := by
        rw [PaybondPolicyDocumentV1.budgetAmount, ← hset]
        rfl
      unfold patchBudget at hbudget
      rw [Option.bind_some]
      cases hvalue : patch.get? "budget" with
      | none =>
          rw [hvalue] at hbudget
          refine .inl ⟨rfl, ?_⟩
          rw [hamount, ← Except.ok.inj hbudget, nonemptyBudget, filter_nonempty_bind]
          rfl
      | some value =>
          rw [hvalue] at hbudget
          obtain ⟨pairs, hpairs, hbudget⟩ := except_bind_eq_ok.mp hbudget
          refine .inr ⟨value, pairs, rfl, hpairs, ?_⟩
          rw [hamount, ← Except.ok.inj hbudget, Option.bind_some, get?_foldl_set_pairs,
            nonemptyBudget_amount]
          rfl

theorem tightens_document_iff {source : OrderedDict String PyValue}
    (htightens : Tightens document composed)
    (hnext : applyGuardrailLayer platform parseInt composed
      (guardrailLayerFromDocument source) = .ok next) :
    Tightens document next ↔
      LayerTightens platform document composed (guardrailLayerFromDocument source) := by
  have happlied := applyGuardrailLayer_document hnext
  have htools := tools_document_iff htightens happlied
  constructor
  · intro hkept
    obtain ⟨hargs, hflags⟩ := htools.mp ⟨hkept.max_spend_cents, hkept.side_effecting⟩
    refine ⟨hflags, hargs, ?_, ?_, fun _ _ _ _ husd => nomatch husd⟩
    · intro value names hvalue hnames hnonempty
      rcases allowedTools_document happlied with ⟨hnone, -⟩ | ⟨found, hfound, hset⟩
      · cases hnone.symm.trans hvalue
      · cases hfound.symm.trans hvalue
        rw [← Except.ok.inj (hset.symm.trans hnames)]
        exact hkept.allowed_tools hnonempty
    · intro value pairs amount cap hvalue hpairs hamount hcap
      rcases budgetAmount_document happlied with ⟨hnone, -⟩ | ⟨found, given, hfound, hgiven, hset⟩
      · cases hnone.symm.trans hvalue
      · cases hfound.symm.trans hvalue
        cases Except.ok.inj (hgiven.symm.trans hpairs)
        obtain ⟨cap', hcap', hnot⟩ := hkept.max_spend_usd cap hcap
        rw [PaybondPolicyDocumentV1.budgetCap, hset, hamount, Option.some_or,
          Option.bind_some] at hcap'
        exact ⟨cap', hcap', hnot⟩
  · intro hlayer
    obtain ⟨hcaps, hsides⟩ := htools.mpr ⟨hlayer.spend_from_args, hlayer.side_effecting⟩
    refine ⟨fun h => happlied.default_deny (htightens.default_deny h), hcaps, hsides, ?_, ?_⟩
    · intro cap hcap
      have hold := htightens.max_spend_usd cap hcap
      rcases budgetAmount_document happlied with ⟨-, hsame⟩ | ⟨value, pairs, hvalue, hpairs, hset⟩
      · rwa [PaybondPolicyDocumentV1.budgetCap, hsame]
      · rw [PaybondPolicyDocumentV1.budgetCap, hset]
        cases hamount : (OrderedDict.ofList pairs).get? "max_spend_usd" with
        | none => exact hold
        | some amount => exact hlayer.budget value pairs amount cap hvalue hpairs hamount hcap
    · intro hnonempty
      rcases allowedTools_document happlied with ⟨-, hsame⟩ | ⟨value, hvalue, hset⟩
      · rw [hsame]
        exact htightens.allowed_tools hnonempty
      · exact hlayer.allowed_tools value next.allowedTools hvalue hset hnonempty

theorem capEntry_keepsCap (layer : PolicyGuardrailLayer) (entry : PaybondPolicyToolEntry) :
    KeepsCap entry (layer.capEntry entry) := by
  intro cap hcap
  unfold PolicyGuardrailLayer.capEntry capEntry
  cases layer.sideEffectingMaxSpendCents with
  | none => exact ⟨cap, le_rfl, hcap⟩
  | some cents =>
      rw [Option.elim_some]
      split
      · refine ⟨min cap cents, min_le_left _ _, ?_⟩
        rw [hcap]
        rfl
      · exact ⟨cap, le_rfl, hcap⟩

/-- What a constructed layer makes of the amount of the budget. -/
theorem budgetAmount_constructed (happlied : AppliedLayer platform layer composed next) :
    (layer.budgetMaxSpendUsd = none ∧ next.budgetAmount = composed.budgetAmount) ∨
      ∃ usd amount, layer.budgetMaxSpendUsd = some usd ∧
        next.budgetAmount = some (.float amount) ∧
        match composed.budgetAmount.bind (·.some?) with
        | none => amount = usd
        | some current => ∃ double, pyFloat platform current = .ok double ∧
            amount = if usd < double then usd else double := by
  obtain ⟨capped, hcapped, hintent⟩ := happlied.intent
  have hnext : next.budgetAmount = (capped.bind (·.budget)).bind (·.get? "max_spend_usd") := by
    rw [PaybondPolicyDocumentV1.budgetAmount, hintent]
    cases capped with
    | none => rfl
    | some intent =>
        rw [Option.map_some, Option.bind_some, Option.bind_some]
        split <;> rfl
  unfold capIntent at hcapped
  cases hcap : layer.budgetMaxSpendUsd with
  | none =>
      rw [hcap] at hcapped
      refine .inl ⟨rfl, ?_⟩
      rw [hnext, ← Except.ok.inj hcapped]
      rfl
  | some usd =>
      rw [hcap] at hcapped
      obtain ⟨budget, hbudget, hcapped⟩ := except_bind_eq_ok.mp hcapped
      obtain ⟨amount, hamount, hbudget⟩ := except_bind_eq_ok.mp hbudget
      refine .inr ⟨usd, amount, rfl, ?_, ?_⟩
      · rw [hnext, ← Except.ok.inj hcapped, Option.bind_some, Option.bind_some,
          ← Except.ok.inj hbudget, OrderedDict.get?_set_self]
      · have hvalue : (((nonemptyBudget composed.intent).getD .empty).getValue
            "max_spend_usd").some? = composed.budgetAmount.bind (·.some?) := by
          rw [OrderedDict.getValue, nonemptyBudget_amount, PaybondPolicyDocumentV1.budgetAmount]
          cases (composed.intent.bind (·.budget)).bind (·.get? "max_spend_usd") <;> rfl
        unfold cappedAmount at hamount
        rw [hvalue] at hamount
        cases hcurrent : composed.budgetAmount.bind (·.some?) with
        | none =>
            rw [hcurrent] at hamount
            exact (Except.ok.inj hamount).symm
        | some current =>
            rw [hcurrent] at hamount
            obtain ⟨double, hdouble, hmin⟩ := except_map_eq_ok.mp hamount
            exact ⟨double, hdouble, hmin.symm⟩

theorem capIntent_allowedTools {intent capped : Option PaybondPolicyIntentSection}
    (hcapped : capIntent platform layer intent = .ok capped) :
    (capped.map (·.allowedTools)).getD [] = (intent.map (·.allowedTools)).getD [] := by
  unfold capIntent at hcapped
  cases hcap : layer.budgetMaxSpendUsd with
  | none =>
      rw [hcap] at hcapped
      rw [Except.ok.inj hcapped]
  | some usd =>
      rw [hcap] at hcapped
      obtain ⟨budget, -, hcapped⟩ := except_bind_eq_ok.mp hcapped
      rw [← Except.ok.inj hcapped]
      cases intent <;> rfl

theorem tightens_constructed_iff (hlayer : ConstructedLayer layer)
    (htightens : Tightens document composed)
    (hnext : applyGuardrailLayer platform parseInt composed layer = .ok next) :
    Tightens document next ↔ LayerTightens platform document composed layer := by
  have happlied := applyGuardrailLayer_constructed hlayer hnext
  have hfacts := hlayer.facts
  have htools : ∀ toolName found, next.tools.get? toolName = some found →
      ∃ current, composed.tools.get? toolName = some current ∧
        found = layer.capEntry current := by
    intro toolName found hfound
    rw [happlied.tools, OrderedDict.get?_filter, OrderedDict.get?_mapValues] at hfound
    obtain ⟨hfound, -⟩ := Option.filter_eq_some_iff.mp hfound
    obtain ⟨current, hcurrent, hsame⟩ := Option.map_eq_some_iff.mp hfound
    exact ⟨current, hcurrent, hsame.symm⟩
  have hallowed : next.allowedTools ⊆ composed.allowedTools := by
    obtain ⟨capped, hcapped, hintent⟩ := happlied.intent
    rw [PaybondPolicyDocumentV1.allowedTools, PaybondPolicyDocumentV1.allowedTools, hintent,
      ← capIntent_allowedTools hcapped]
    cases capped with
    | none => exact List.Subset.refl _
    | some intent =>
        rw [Option.map_some, Option.map_some, Option.map_some, Option.getD_some, Option.getD_some]
        split
        · exact List.filter_subset_self _
        · exact List.Subset.refl _
  -- where the domain document has a cap, the current amount is a number
  have hcurrent : ∀ cap, document.budgetCap = some cap → ∀ amount,
      composed.budgetAmount = some amount →
      composed.budgetAmount.bind (·.some?) = some amount := by
    intro cap hcap amount hamount
    obtain ⟨cap', hcap', -⟩ := htightens.max_spend_usd cap hcap
    rw [PaybondPolicyDocumentV1.budgetCap, hamount, Option.bind_some] at hcap'
    rw [hamount, Option.bind_some]
    cases amount with
    | none => cases hcap'
    | _ => rfl
  constructor
  · intro hkept
    refine ⟨?_, ?_, ?_, ?_, ?_⟩
    · intro toolName patch value entry hpatch
      rw [hfacts.tools] at hpatch
      cases hpatch
    · intro toolName patch value entry hpatch
      rw [hfacts.tools] at hpatch
      cases hpatch
    · intro value names hvalue
      rw [hfacts.intent] at hvalue
      cases hvalue
    · intro value pairs amount cap hvalue
      rw [hfacts.intent] at hvalue
      cases hvalue
    · intro usd amount double cap husd hamount hdouble hcap hlt
      rcases budgetAmount_constructed happlied with ⟨hnone, -⟩ | ⟨usd', least, husd', hset, hmin⟩
      · cases hnone.symm.trans husd
      · cases husd.symm.trans husd'
        rw [hcurrent cap hcap amount hamount] at hmin
        obtain ⟨double', hdouble', rfl⟩ := hmin
        cases hdouble.symm.trans hdouble'
        obtain ⟨cap', hcap', hnot⟩ := hkept.max_spend_usd cap hcap
        rw [PaybondPolicyDocumentV1.budgetCap, hset] at hcap'
        cases Option.some.inj hcap'
        rw [PyFloat.lt_min_iff] at hnot
        by_contra husd
        exact hnot ⟨hlt, husd⟩
  · intro htight
    refine ⟨?_, ?_, ?_, ?_, ?_⟩
    · intro hdeny
      rw [happlied.default_deny, htightens.default_deny hdeny, Bool.true_or]
    · intro toolName entry found hentry hfound cap hcap
      obtain ⟨current, hcurrent, rfl⟩ := htools toolName found hfound
      obtain ⟨cap', hle, hcap'⟩ :=
        htightens.max_spend_cents toolName entry current hentry hcurrent cap hcap
      obtain ⟨cap'', hle', hcap''⟩ := capEntry_keepsCap layer current cap' hcap'
      exact ⟨cap'', hle'.trans hle, hcap''⟩
    · intro toolName entry found hentry hfound hside
      obtain ⟨current, hcurrent, rfl⟩ := htools toolName found hfound
      rw [PolicyGuardrailLayer.capEntry_sideEffecting]
      exact htightens.side_effecting toolName entry current hentry hcurrent hside
    · intro cap hcap
      obtain ⟨cap', hcap', hnot⟩ := htightens.max_spend_usd cap hcap
      rcases budgetAmount_constructed happlied with ⟨-, hsame⟩ | ⟨usd, least, husd, hset, hmin⟩
      · refine ⟨cap', ?_, hnot⟩
        rwa [PaybondPolicyDocumentV1.budgetCap, hsame]
      · obtain ⟨amount, hamount, -⟩ := Option.bind_eq_some_iff.mp hcap'
        rw [hcurrent cap hcap amount hamount] at hmin
        obtain ⟨double, hdouble, rfl⟩ := hmin
        refine ⟨if usd < double then usd else double, ?_, fun hlt => ?_⟩
        · rw [PaybondPolicyDocumentV1.budgetCap, hset]
          rfl
        · obtain ⟨hraised, husdNot⟩ := (PyFloat.lt_min_iff _ _ _).mp hlt
          exact husdNot (htight.rounding usd amount double cap husd hamount hdouble hcap hraised)
    · intro hnonempty
      exact List.Subset.trans hallowed (htightens.allowed_tools hnonempty)

/-- One layer keeps the composition as tight as the domain document exactly when it says
nothing against it. -/
theorem tightens_layer_iff (hlayer : GuardrailLayer layer)
    (htightens : Tightens document composed)
    (hnext : applyGuardrailLayer platform parseInt composed layer = .ok next) :
    Tightens document next ↔ LayerTightens platform document composed layer := by
  cases hlayer with
  | constructed hlayer => exact tightens_constructed_iff hlayer htightens hnext
  | document source => exact tightens_document_iff htightens hnext

end Step

/-! ## All layers -/

section Composition

variable {platform : PlatformText} {parseInt : String → Except PyExc Int}
variable {document result : PaybondPolicyDocumentV1} {layers : List PolicyGuardrailLayer}

/-- Every document on the way is as tight as the first, exactly when every layer is, where it
is applied. -/
theorem applyGuardrailLayers_tightens_iff (hlayers : ∀ layer ∈ layers, GuardrailLayer layer)
    (hresult : applyGuardrailLayers platform parseInt document layers = .ok result) :
    (∀ front, front <+: layers → ∀ composed,
        applyGuardrailLayers platform parseInt document front = .ok composed →
        Tightens document composed) ↔
      ∀ front layer, front ++ [layer] <+: layers → ∀ composed,
        applyGuardrailLayers platform parseInt document front = .ok composed →
        LayerTightens platform document composed layer := by
  have hstep : ∀ {front layer}, front ++ [layer] <+: layers → ∀ {composed},
      applyGuardrailLayers platform parseInt document front = .ok composed →
      ∃ next, applyGuardrailLayer platform parseInt composed layer = .ok next ∧
        applyGuardrailLayers platform parseInt document (front ++ [layer]) = .ok next := by
    rintro front layer ⟨back, rfl⟩ composed hcomposed
    rw [applyGuardrailLayers, List.append_assoc, List.foldlM_append] at hresult
    obtain ⟨reached, hreached, hrest⟩ := except_bind_eq_ok.mp hresult
    cases hreached.symm.trans hcomposed
    obtain ⟨next, hnext, -⟩ := except_bind_eq_ok.mp hrest
    refine ⟨next, hnext, ?_⟩
    rw [applyGuardrailLayers, List.foldlM_append, hreached, except_ok_bind, List.foldlM_cons,
      hnext]
    rfl
  constructor
  · intro htightens front layer hfront composed hcomposed
    obtain ⟨next, hnext, hreached⟩ := hstep hfront hcomposed
    have hmem : layer ∈ layers := hfront.subset (by simp)
    have hbefore := htightens front ((List.prefix_append _ _).trans hfront) composed hcomposed
    exact (tightens_layer_iff (hlayers layer hmem) hbefore hnext).mp
      (htightens _ hfront next hreached)
  · intro hlayerTightens front
    -- the documents on the way, one layer after another
    induction front using List.reverseRecOn with
    | nil =>
        intro _ composed hcomposed
        cases hcomposed
        exact Tightens.refl document
    | append_singleton front layer ih =>
        intro hfront composed hcomposed
        rw [applyGuardrailLayers, List.foldlM_append] at hcomposed
        obtain ⟨before, hbefore, hlast⟩ := except_bind_eq_ok.mp hcomposed
        obtain ⟨next, hnext, hsame⟩ := except_bind_eq_ok.mp hlast
        cases hsame
        have hmem : layer ∈ layers := hfront.subset (by simp)
        have htight := ih ((List.prefix_append _ _).trans hfront) before hbefore
        exact (tightens_layer_iff (hlayers layer hmem) htight hnext).mpr
          (hlayerTightens front layer hfront before hbefore)

/-- A successful composition only tightens the domain document, at its end and after every
layer, exactly when each layer says nothing against it. -/
theorem composePolicyLayers_tightens_iff
    (hlayers : ∀ layer ∈ layers, GuardrailLayer layer)
    (hresult : composePolicyLayers platform parseInt document layers = .ok result) :
    (Tightens document result ∧ ∀ front, front <+: layers → ∀ composed,
        applyGuardrailLayers platform parseInt document front = .ok composed →
        Tightens document composed) ↔
      ∀ front layer, front ++ [layer] <+: layers → ∀ composed,
        applyGuardrailLayers platform parseInt document front = .ok composed →
        LayerTightens platform document composed layer := by
  obtain ⟨composed, hcomposed, hresult⟩ := except_bind_eq_ok.mp hresult
  obtain ⟨_, -, hresult⟩ := except_bind_eq_ok.mp hresult
  cases hresult
  rw [← applyGuardrailLayers_tightens_iff hlayers hcomposed]
  exact ⟨And.right, fun hall => ⟨hall layers (List.prefix_refl _) _ hcomposed, hall⟩⟩

end Composition

/-! ## A document that loosens -/

/-- A guardrail document with a cap and an allowlist for the hotel tool. -/
def hotelGuardrails : OrderedDict String PyValue := .ofList
  [("tools", .dict [("travel.book_hotel", .dict [("max_spend_cents", .int 15000)])]),
    ("intent", .dict [("allowed_tools", .list [.str "travel.book_hotel"])])]

theorem composePolicyLayers_tightens_hotel : ∃ document result,
    parsePaybondPolicyDocument orgBaseTravel = .ok (.v1 document) ∧
      composePolicyLayers textTravel noIntText document
        [guardrailLayerFromDocument hotelGuardrails] = .ok result ∧
      ((Tightens document result ∧ ∀ front,
          front <+: [guardrailLayerFromDocument hotelGuardrails] → ∀ composed,
          applyGuardrailLayers textTravel noIntText document front = .ok composed →
          Tightens document composed) ↔
        ∀ front layer, front ++ [layer] <+: [guardrailLayerFromDocument hotelGuardrails] →
          ∀ composed, applyGuardrailLayers textTravel noIntText document front = .ok composed →
          LayerTightens textTravel document composed layer) := by
  refine ⟨_, _, rfl, rfl, @composePolicyLayers_tightens_iff textTravel noIntText _ _ _ ?_ rfl⟩
  intro layer hlayer
  rw [List.mem_singleton.mp hlayer]
  exact .document hotelGuardrails

/-- A guardrail document that reads the hotel's amount from the arguments. -/
def looseGuardrails : OrderedDict String PyValue := .ofList
  [("tools", .dict [("travel.book_hotel", .dict [("spend_from_args", .str "amount_cents")])])]

/-- The fixed cap of the hotel tool is gone. -/
theorem composePolicyLayers_drops_cap : ∃ document result,
    parsePaybondPolicyDocument orgBaseTravel = .ok (.v1 document) ∧
      composePolicyLayers textTravel noIntText document
        [guardrailLayerFromDocument looseGuardrails] = .ok result ∧
      (∃ entry, document.tools.get? "travel.book_hotel" = some entry ∧
        entry.maxSpendCents = some 20000) ∧
      (∃ entry, result.tools.get? "travel.book_hotel" = some entry ∧
        entry.maxSpendCents = none) ∧
      ¬Tightens document result := by
  refine ⟨_, _, rfl, rfl, ⟨_, rfl, rfl⟩, ⟨_, rfl, rfl⟩, fun htightens => ?_⟩
  obtain ⟨cap, -, hcap⟩ := htightens.max_spend_cents "travel.book_hotel" _ _ rfl rfl 20000 rfl
  cases hcap

end PaybondKit.Policy
