import PaybondKit.Policy.Merge
import PaybondKit.Policy.SchemaValid

/-!
# What a successful merge guarantees

A tool entry that replaces another is compared with it by what it still guards:
side effects stay guarded, and a fixed cap stays fixed and does not grow. Each
merge helper keeps the effective document within the org base; the loops over
the tenant's tools follow by induction.
-/

namespace PaybondKit.Policy

open Merging

/-- `merged` guards at least what `base` guards. -/
structure PaybondPolicyToolEntry.NoWiderThan (merged base : PaybondPolicyToolEntry) : Prop where
  side_effecting : base.sideEffecting = true → merged.sideEffecting = true
  max_spend_cents : ∀ cap, base.maxSpendCents = some cap →
    ∃ cap' ≤ cap, merged.maxSpendCents = some cap'
  spend_from_args : base.maxSpendCents.isSome → merged.spendFromArgs = none

/-- The entry has at most one of its two spend fields. -/
def PaybondPolicyToolEntry.SpendExclusive (entry : PaybondPolicyToolEntry) : Prop :=
  entry.maxSpendCents = none ∨ entry.spendFromArgs = none

namespace PaybondPolicyToolEntry

theorem SpendExclusive.noWiderThan_self {entry : PaybondPolicyToolEntry}
    (hentry : entry.SpendExclusive) : entry.NoWiderThan entry where
  side_effecting := id
  max_spend_cents cap hcap := ⟨cap, le_rfl, hcap⟩
  spend_from_args hcap := hentry.resolve_left (Option.isSome_iff_ne_none.mp hcap)

theorem NoWiderThan.trans {first second third : PaybondPolicyToolEntry}
    (hfirst : first.NoWiderThan second) (hsecond : second.NoWiderThan third) :
    first.NoWiderThan third where
  side_effecting := fun h => hfirst.side_effecting (hsecond.side_effecting h)
  max_spend_cents cap hcap := by
    obtain ⟨cap', hle, hcap'⟩ := hsecond.max_spend_cents cap hcap
    obtain ⟨cap'', hle', hcap''⟩ := hfirst.max_spend_cents cap' hcap'
    exact ⟨cap'', hle'.trans hle, hcap''⟩
  spend_from_args hcap := by
    obtain ⟨cap, hcap⟩ := Option.isSome_iff_exists.mp hcap
    obtain ⟨cap', -, hcap'⟩ := hsecond.max_spend_cents cap hcap
    exact hfirst.spend_from_args (by simp [hcap'])

/-- Fields other than the flag and the spend fields do not matter. -/
theorem NoWiderThan.congr {merged merged' base : PaybondPolicyToolEntry}
    (hmerged : merged.NoWiderThan base) (hside : merged'.sideEffecting = merged.sideEffecting)
    (hcap : merged'.maxSpendCents = merged.maxSpendCents)
    (hargs : merged'.spendFromArgs = merged.spendFromArgs) : merged'.NoWiderThan base where
  side_effecting := hside ▸ hmerged.side_effecting
  max_spend_cents := hcap ▸ hmerged.max_spend_cents
  spend_from_args := hargs ▸ hmerged.spend_from_args

end PaybondPolicyToolEntry

section ToolFields

variable {base merged : PaybondPolicyToolEntry} {patch : PaybondPolicyToolOverrideEntry}
variable {toolName : String}

theorem mergeSideEffecting_noWiderThan (hmerged : merged.NoWiderThan base)
    (hdenied : (mergeSideEffecting base patch toolName merged).denied = []) :
    (mergeSideEffecting base patch toolName merged).value.NoWiderThan base := by
  unfold mergeSideEffecting at hdenied ⊢
  split at hdenied
  · exact hmerged
  next sideEffecting _ =>
    split at hdenied
    · simp at hdenied
    next hkeep =>
      rw [if_neg hkeep]
      refine ⟨fun hbase => ?_, hmerged.max_spend_cents, hmerged.spend_from_args⟩
      simpa [hbase] using hkeep

theorem mergeMaxSpendCents_noWiderThan (hmerged : merged.NoWiderThan base)
    (hdenied : (mergeMaxSpendCents base patch toolName merged).denied = []) :
    (mergeMaxSpendCents base patch toolName merged).value.NoWiderThan base := by
  unfold mergeMaxSpendCents at hdenied ⊢
  split at hdenied
  · exact hmerged
  next cap _ =>
    split at hdenied
    next orgCap horgCap =>
      split at hdenied
      · simp at hdenied
      next hle =>
        rw [if_neg hle]
        refine ⟨hmerged.side_effecting, fun bound hbound => ⟨cap, ?_, rfl⟩, fun _ => rfl⟩
        rw [horgCap] at hbound
        cases hbound
        exact not_lt.mp hle
    next hnone =>
      exact ⟨hmerged.side_effecting, by simp [hnone], fun _ => rfl⟩

theorem mergeSpendFromArgs_noWiderThan (hmerged : merged.NoWiderThan base)
    (hdenied : (mergeSpendFromArgs base patch toolName merged).denied = []) :
    (mergeSpendFromArgs base patch toolName merged).value.NoWiderThan base := by
  unfold mergeSpendFromArgs at hdenied ⊢
  split at hdenied
  · exact hmerged
  next argsPath _ =>
    split at hdenied
    · simp at hdenied
    next hnone =>
      rw [if_neg hnone]
      have hbase : base.maxSpendCents = none := by simpa using hnone
      exact ⟨hmerged.side_effecting, by simp [hbase], by simp [hbase]⟩

theorem mergeEvidencePreset_noWiderThan {orgPolicyId : Option String}
    (hmerged : merged.NoWiderThan base) :
    (mergeEvidencePreset base patch toolName orgPolicyId merged).value.NoWiderThan base := by
  unfold mergeEvidencePreset
  split
  · exact hmerged
  · exact hmerged.congr rfl rfl rfl

theorem mergeVendorPack_noWiderThan (hmerged : merged.NoWiderThan base) :
    (mergeVendorPack patch toolName merged).value.NoWiderThan base := by
  unfold mergeVendorPack
  split
  · exact hmerged
  · exact hmerged.congr rfl rfl rfl

theorem mergeOperation_noWiderThan (hmerged : merged.NoWiderThan base) :
    (mergeOperation patch toolName merged).value.NoWiderThan base := by
  unfold mergeOperation
  split
  · exact hmerged
  · exact hmerged.congr rfl rfl rfl

theorem checkMergedEntry_exclusive (hdenied : (checkMergedEntry toolName merged).denied = []) :
    merged.SpendExclusive := by
  simp only [checkMergedEntry, bind_denied, denyIf_denied, not_and] at hdenied
  rcases Option.eq_none_or_eq_some merged.maxSpendCents with hnone | ⟨cap, hsome⟩
  · exact .inl hnone
  · refine .inr ?_
    simpa using hdenied.2 (by rw [hsome]; rfl)

/-- A patch that is not denied leaves an entry no wider than it was, with at most
one spend field. -/
theorem mergeToolFields_noWiderThan {report : PolicyMergeReport} (hbase : base.SpendExclusive)
    (hdenied : (mergeToolFields base patch toolName report).denied = []) :
    (mergeToolFields base patch toolName report).value.NoWiderThan base ∧
      (mergeToolFields base patch toolName report).value.SpendExclusive := by
  simp only [mergeToolFields, bind_denied, bind_value, pure_value] at hdenied ⊢
  obtain ⟨hside, hcap, hargs, -, -, -, hcheck, -⟩ := hdenied
  constructor
  · exact mergeOperation_noWiderThan (mergeVendorPack_noWiderThan
      (mergeEvidencePreset_noWiderThan (mergeSpendFromArgs_noWiderThan
        (mergeMaxSpendCents_noWiderThan
          (mergeSideEffecting_noWiderThan hbase.noWiderThan_self hside) hcap) hargs)))
  · exact checkMergedEntry_exclusive hcheck

end ToolFields

/-- Every tool of `base` is present in `tools` and guarded there. -/
def ToolsRestrict (tools base : OrderedDict String PaybondPolicyToolEntry) : Prop :=
  ∀ toolName entry, base.get? toolName = some entry →
    ∃ merged, tools.get? toolName = some merged ∧ merged.NoWiderThan entry

def ToolsExclusive (tools : OrderedDict String PaybondPolicyToolEntry) : Prop :=
  ∀ toolName entry, tools.get? toolName = some entry → entry.SpendExclusive

section ToolLoops

variable {base tools : OrderedDict String PaybondPolicyToolEntry}

theorem mergeOverrideTools_restrict {report : PolicyMergeReport}
    {patches : List (String × PaybondPolicyToolOverrideEntry)}
    (hbase : ToolsExclusive base)
    (hdenied : (mergeOverrideTools report base patches).denied = []) :
    ToolsRestrict (mergeOverrideTools report base patches).value base := by
  have hinit : ToolsRestrict base base ∧ ToolsExclusive base :=
    ⟨fun toolName entry hentry =>
      ⟨entry, hentry, (hbase toolName entry hentry).noWiderThan_self⟩, hbase⟩
  refine (foldlM_invariant (fun tools => ToolsRestrict tools base ∧ ToolsExclusive tools)
    ?_ hinit hdenied).1
  rintro tools ⟨toolName, patch⟩ ⟨hrestrict, hexclusive⟩ hitem
  split at hitem
  · simp at hitem
  next existing hexisting =>
    simp only [map_denied] at hitem
    simp only [map_value]
    obtain ⟨hnoWider, hmerged⟩ :=
      mergeToolFields_noWiderThan (hexclusive toolName existing hexisting) hitem
    constructor
    · intro other entry hentry
      obtain ⟨current, hcurrent, hwider⟩ := hrestrict other entry hentry
      rw [OrderedDict.get?_set]
      split
      next hsame =>
        subst hsame
        cases hexisting.symm.trans hcurrent
        exact ⟨_, rfl, hnoWider.trans hwider⟩
      next => exact ⟨current, hcurrent, hwider⟩
    · intro other entry hentry
      rw [OrderedDict.get?_set] at hentry
      split at hentry
      · cases hentry
        exact hmerged
      · exact hexclusive other entry hentry

/-- Appended tools leave the org's entries alone. -/
theorem appendOverlayTools_restrict {entries : List (String × PaybondPolicyToolEntry)}
    (htools : ToolsRestrict tools base)
    (hdenied : (appendOverlayTools tools entries).denied = []) :
    ToolsRestrict (appendOverlayTools tools entries).value base := by
  refine foldlM_invariant (fun tools => ToolsRestrict tools base) ?_ htools hdenied
  rintro tools ⟨toolName, entry⟩ hrestrict hitem
  split at hitem
  · simp at hitem
  next hnew =>
    simp only [hnew]
    intro other org horg
    obtain ⟨current, hcurrent, hwider⟩ := hrestrict other org horg
    refine ⟨current, ?_, hwider⟩
    rw [if_neg (by simp), pure_value, OrderedDict.get?_set, if_neg, hcurrent]
    rintro rfl
    simp [OrderedDict.contains, hcurrent] at hnew

end ToolLoops

/-! ## Intent and adapter -/

theorem intersectAllowedTools_subset {org : List String} {tenant : Option (List String)}
    (horg : org ≠ []) (hdenied : (intersectAllowedTools (some org) tenant).denied = []) :
    ∃ allowed, (intersectAllowedTools (some org) tenant).value = some allowed ∧
      allowed ≠ [] ∧ allowed ⊆ org := by
  rcases tenant with _ | _ | ⟨tool, tenant⟩
  · exact ⟨org, rfl, horg, List.Subset.refl org⟩
  · exact ⟨org, rfl, horg, List.Subset.refl org⟩
  · obtain ⟨head, rest, rfl⟩ := List.exists_cons_of_ne_nil horg
    simp only [intersectAllowedTools, bind_denied, denyIf_denied, not_not] at hdenied
    refine ⟨_, rfl, ?_, fun tool htool => by simpa using (List.mem_filter.mp htool).2⟩
    -- Nothing was widened, so the intersection is the tenant's own list.
    have hall := List.filter_eq_nil_iff.mp hdenied.1
    rw [List.filter_eq_self.mpr fun tool htool =>
      by_contra fun hnot => hall tool htool (by simpa using hnot)]
    exact List.cons_ne_nil _ _

section Binding

variable {base : PaybondPolicyBinding} {overlay : Option PaybondPolicyBinding}
variable {override : Option PaybondPolicyBindingOverride}

theorem mergedVersionSeq_isSome {version : Int} (overlay : Option PaybondPolicyBinding)
    (override : Option PaybondPolicyBindingOverride) (hversion : base.versionSeq = some version) :
    ∃ merged, mergedVersionSeq (some base) overlay override = some merged := by
  rw [mergedVersionSeq, Option.bind_some, hversion]
  rcases Option.eq_none_or_eq_some
    ((override.bind (·.versionSeq)).or (overlay.bind (·.versionSeq))) with h | ⟨merged, h⟩
  · exact ⟨version, by rw [h]; rfl⟩
  · exact ⟨merged, by rw [h]; rfl⟩

theorem mergedHeadDigest_isSome {digest : String} (overlay : Option PaybondPolicyBinding)
    (override : Option PaybondPolicyBindingOverride) (hdigest : base.headDigest = some digest) :
    ∃ merged, mergedHeadDigest (some base) overlay override = some merged := by
  rw [mergedHeadDigest, Option.bind_some, hdigest]
  rcases Option.eq_none_or_eq_some
    ((override.bind (·.headDigest)).or (overlay.bind (·.headDigest))) with h | ⟨merged, h⟩
  · exact ⟨digest, by rw [h]; rfl⟩
  · exact ⟨merged, by rw [h]; rfl⟩

/-- The effective binding pins what the org's binding pins. -/
structure PaybondPolicyBinding.KeepsPinsOf (merged base : PaybondPolicyBinding) : Prop where
  template_id : merged.templateId = base.templateId
  head_digest : ∀ digest, base.headDigest = some digest → merged.headDigest = some digest
  version_seq : ∀ version, base.versionSeq = some version →
    ∃ version' ≥ version, merged.versionSeq = some version'

theorem PaybondPolicyBinding.keepsPinsOf_self (binding : PaybondPolicyBinding) :
    binding.KeepsPinsOf binding :=
  ⟨rfl, fun _ h => h, fun version h => ⟨version, le_rfl, h⟩⟩

theorem checkVersionSeq_le {version : Int} (hversion : base.versionSeq = some version)
    (hdenied : (checkVersionSeq (some base) overlay override).denied = []) :
    ∃ merged ≥ version, mergedVersionSeq (some base) overlay override = some merged := by
  obtain ⟨merged, hmerged⟩ := mergedVersionSeq_isSome overlay override hversion
  refine ⟨merged, ?_, hmerged⟩
  simp only [checkVersionSeq, hmerged, Option.bind_some, hversion] at hdenied
  split at hdenied
  · simp at hdenied
  next hle => exact not_lt.mp hle

theorem checkHeadDigest_eq {digest : String} (hdigest : base.headDigest = some digest)
    (hne : digest ≠ "") (hdenied : (checkHeadDigest (some base) overlay override).denied = []) :
    mergedHeadDigest (some base) overlay override = some digest := by
  obtain ⟨merged, hmerged⟩ := mergedHeadDigest_isSome overlay override hdigest
  simp only [checkHeadDigest, hmerged, Option.bind_some, hdigest, truthyStr_eq_some hne]
    at hdenied
  split at hdenied
  · simp at hdenied
  next heq => rw [hmerged, not_not.mp heq]

theorem mergePolicyBinding_keepsPins (hbase : base.WellFormed)
    (hdenied : (mergePolicyBinding (some base) overlay override).denied = []) :
    ∃ merged, (mergePolicyBinding (some base) overlay override).value = some merged ∧
      merged.KeepsPinsOf base := by
  simp only [mergePolicyBinding, Option.map_some, truthyStr_eq_some hbase.template_id]
    at hdenied ⊢
  cases htemplate : overlayTemplate overlay override with
  | none =>
      simp only [htemplate, Option.none_or, bind_denied, bind_value, pure_value] at hdenied ⊢
      obtain ⟨-, hversion, hhead, -⟩ := hdenied
      exact ⟨_, rfl, rfl,
        fun digest hdigest => checkHeadDigest_eq hdigest
          (fun hempty => hbase.head_digest (hempty ▸ hdigest)) hhead,
        fun version hbound => checkVersionSeq_le hbound hversion⟩
  | some template =>
      simp only [htemplate, Option.some_or, bind_denied, bind_value, pure_value, checkTemplate,
        denyIf_denied, not_not] at hdenied ⊢
      obtain ⟨htemplate, hversion, hhead, -⟩ := hdenied
      exact ⟨_, rfl, htemplate,
        fun digest hdigest => checkHeadDigest_eq hdigest
          (fun hempty => hbase.head_digest (hempty ▸ hdigest)) hhead,
        fun version hbound => checkVersionSeq_le hbound hversion⟩

end Binding

theorem mergeAdapterSection_keeps {base overlay override : Option PaybondPolicyAdapterSection}
    (hbase : base.bind (·.denyProviderExecutedTools) = some true) :
    (mergeAdapterSection base overlay override).value.bind (·.denyProviderExecutedTools) =
      some true := by
  simp [mergeAdapterSection, hbase, mergeStricterDefaultDeny]

section Intent

variable {floatRepr : PyFloat → String} {base : PaybondPolicyDocument}
variable {overlay : PaybondPolicyDocumentV2} {intent : PaybondPolicyIntentSection}

/-- A non-empty merged allowlist is the effective one. -/
theorem mergeIntent_allowedTools {allowed : List String} (hallowed : allowed ≠ [])
    (hbase : base.intent = some intent) :
    ∃ merged, (mergeIntent floatRepr base overlay (some allowed)).value = some merged ∧
      merged.allowedTools = allowed := by
  unfold mergeIntent
  split
  · exact ⟨{ intent with allowedTools := allowed }, by simp [hbase], rfl⟩
  · simp [hallowed]

theorem mergeIntent_policyBinding {binding : PaybondPolicyBinding}
    {mergedAllowed : Option (List String)}
    (hbinding : base.intent.bind (·.policyBinding) = some binding) (hvalid : binding.WellFormed)
    (hdenied : (mergeIntent floatRepr base overlay mergedAllowed).denied = []) :
    ∃ merged, (mergeIntent floatRepr base overlay mergedAllowed).value.bind (·.policyBinding) =
        some merged ∧ merged.KeepsPinsOf binding := by
  unfold mergeIntent at hdenied ⊢
  split at hdenied
  next hnone =>
    rw [if_pos hnone]
    refine ⟨binding, ?_, binding.keepsPinsOf_self⟩
    obtain ⟨intent, hintent, hbinding⟩ := Option.bind_eq_some_iff.mp hbinding
    simp [hintent, hbinding]
  next hsome =>
    rw [if_neg hsome]
    rw [hbinding] at hdenied ⊢
    simp only [bind_denied] at hdenied
    obtain ⟨merged, hmerged, hpins⟩ := mergePolicyBinding_keepsPins hvalid hdenied.1
    refine ⟨merged, ?_, hpins⟩
    simp [hmerged]

end Intent

/-! ## The merge -/

/-- The effective policy never widens the org policy's tools, flags, allowlist or
template. -/
structure NeverWidens (base : PaybondPolicyDocument) (effective : PaybondPolicyDocumentV1) :
    Prop where
  default_deny : base.defaultDeny = true → effective.defaultDeny = true
  deny_provider_executed_tools :
    base.adapter.bind (·.denyProviderExecutedTools) = some true →
      effective.adapter.bind (·.denyProviderExecutedTools) = some true
  tools : ToolsRestrict effective.tools base.tools
  allowed_tools : ∀ intent, base.intent = some intent → intent.allowedTools ≠ [] →
    ∃ merged, effective.intent = some merged ∧ merged.allowedTools ≠ [] ∧
      merged.allowedTools ⊆ intent.allowedTools
  policy_binding : ∀ binding, base.intent.bind (·.policyBinding) = some binding →
    ∃ merged, effective.intent.bind (·.policyBinding) = some merged ∧
      merged.KeepsPinsOf binding

theorem mergePaybondPolicies_eq_ok {floatRepr : PyFloat → String} {base : PaybondPolicyDocument}
    {overlay : PaybondPolicyDocumentV2} {options : PolicyMergeOptions}
    {result : PolicyMergeResult}
    (hmerge : mergePaybondPolicies floatRepr base overlay options = .ok result) :
    ∃ report, (mergeLayers floatRepr base overlay options report).denied = [] ∧
      (mergeLayers floatRepr base overlay options report).value = result.effective := by
  unfold mergePaybondPolicies at hmerge
  split at hmerge
  · cases hmerge
  next parent _ =>
    dsimp only at hmerge
    split at hmerge
    next hdenied =>
      cases hmerge
      exact ⟨_, List.isEmpty_iff.mp hdenied, rfl⟩
    next => cases hmerge

theorem PaybondPolicyDocument.WellFormed.toolsExclusive {document : PaybondPolicyDocument}
    (hdocument : document.WellFormed) : ToolsExclusive document.tools := by
  cases document with
  | v1 document => exact fun toolName entry h => (hdocument.tools toolName entry h).spend_exclusive
  | v2 document => exact fun toolName entry h => (hdocument.tools toolName entry h).spend_exclusive

theorem PaybondPolicyDocument.WellFormed.intent_wellFormed {document : PaybondPolicyDocument}
    (hdocument : document.WellFormed) : ∀ intent ∈ document.intent, intent.WellFormed := by
  cases document with
  | v1 document => exact hdocument.intent
  | v2 document => exact hdocument.intent

/-- A merge with a schema-valid org base never widens it, whatever the overlay. -/
theorem mergePaybondPolicies_neverWidens {floatRepr : PyFloat → String} {rawBase : PyValue}
    {base : PaybondPolicyDocument} {overlay : PaybondPolicyDocumentV2}
    {options : PolicyMergeOptions} {result : PolicyMergeResult}
    (hbase : parsePaybondPolicyDocument rawBase = .ok base)
    (hmerge : mergePaybondPolicies floatRepr base overlay options = .ok result) :
    NeverWidens base result.effective := by
  have hvalid := parsePaybondPolicyDocument_wellFormed hbase
  obtain ⟨report, hdenied, heffective⟩ := mergePaybondPolicies_eq_ok hmerge
  rw [← heffective]
  simp only [mergeLayers, bind_denied, bind_value, pure_value, baseDocumentToEffectiveV1]
    at hdenied ⊢
  obtain ⟨-, hpatched, happended, hallowed, hintent, hadapter, -⟩ := hdenied
  constructor
  · intro hdeny
    simp [mergeStricterDefaultDeny, hdeny]
  · exact mergeAdapterSection_keeps
  · exact appendOverlayTools_restrict
      (mergeOverrideTools_restrict hvalid.toolsExclusive hpatched) happended
  · intro intent hsome hne
    rw [hsome, Option.map_some] at hallowed ⊢
    obtain ⟨allowed, hvalue, hallowedNe, hsubset⟩ := intersectAllowedTools_subset hne hallowed
    rw [hvalue]
    obtain ⟨merged, hmerged, heq⟩ := mergeIntent_allowedTools hallowedNe hsome
    exact ⟨merged, hmerged, heq ▸ hallowedNe, heq ▸ hsubset⟩
  · intro binding hbinding
    obtain ⟨intent, hsome, hpolicy⟩ := Option.bind_eq_some_iff.mp hbinding
    exact mergeIntent_policyBinding hbinding
      ((hvalid.intent_wellFormed intent hsome).policy_binding binding hpolicy) hintent

/-- An org base with one capped tool, an allowlist and a budget of 200 dollars. -/
def orgBaseTravel : PyValue := .dict [
  ("version", .int 1), ("name", .str "acme-agent-spend-v1"), ("default_deny", .bool true),
  ("tools", .dict [("travel.book_hotel", .dict [("side_effecting", .bool true),
    ("max_spend_cents", .int 20000), ("evidence_preset", .str "cost_and_completion")])]),
  ("intent", .dict [
    ("policy_binding", .dict [("template_id", .str "travel_booking"), ("version_seq", .int 3)]),
    ("budget", .dict [("currency", .str "usd"), ("max_spend_usd", .int 200)]),
    ("allowed_tools", .list [.str "travel.book_hotel"])])]

/-- A tenant overlay that lowers the tool's cap and sets its own budgets. -/
def tenantOverlayTravel (budget overrideBudget : List (String × PyValue)) : PyValue := .dict [
  ("version", .int 2), ("name", .str "acme-travel-tenant-east"), ("default_deny", .bool false),
  ("extends", .dict [("org_policy_id", .str "acme-agent-spend-v1"), ("org_id", .str "org_acme")]),
  ("tools", .dict [("travel.search", .dict [("side_effecting", .bool false)])]),
  ("intent", .dict [("budget", .dict (("currency", .str "usd") :: budget))]),
  ("overrides", .dict [
    ("tools", .dict [("travel.book_hotel", .dict [("max_spend_cents", .int 15000)])]),
    ("intent", .dict [("budget", .dict (("currency", .str "usd") :: overrideBudget))])])]

/-- What the parser makes of the overlay. -/
def tenantDocumentTravel (budget overrideBudget : List (String × PyValue)) :
    PaybondPolicyDocumentV2 where
  name := "acme-travel-tenant-east"
  defaultDeny := false
  tools := .ofList [("travel.search", { sideEffecting := false })]
  «extends» := some { orgPolicyId := "acme-agent-spend-v1", orgId := "org_acme" }
  overrides := some {
    tools := some (.ofList [("travel.book_hotel", { maxSpendCents := some 15000 })])
    intent := some { budget := some (.ofList (("currency", .str "usd") :: overrideBudget)) } }
  intent := some { budget := some (.ofList (("currency", .str "usd") :: budget)) }

theorem mergePaybondPolicies_neverWidens_travel : ∃ base result,
    parsePaybondPolicyDocument orgBaseTravel = .ok base ∧
      mergePaybondPolicies (fun _ => "") base
        (tenantDocumentTravel [("max_spend_usd", .int 150)] []) {} = .ok result ∧
      base.defaultDeny = true ∧ NeverWidens base result.effective :=
  ⟨_, _, rfl, rfl, rfl,
    @mergePaybondPolicies_neverWidens (fun _ => "") orgBaseTravel _
      (tenantDocumentTravel [("max_spend_usd", .int 150)] []) {} _ rfl rfl⟩

end PaybondKit.Policy
