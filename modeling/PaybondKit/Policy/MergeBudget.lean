import PaybondKit.Policy.MergeSound

/-!
# The budget cap of a merged policy

Three budgets are layered, the override's innermost, but only one tenant layer
is compared with the org's cap. The effective cap stays at or below the org's
exactly when the other layer does not supply it, or supplies a smaller one.
-/

namespace PaybondKit.Policy

open Merging

/-- The number stored under `max_spend_usd`. -/
def maxSpendUsd (budget : Option (OrderedDict String PyValue)) : Option PyFloat :=
  (budget.bind (·.get? "max_spend_usd")).bind PyValue.number?

def overlayBudget (overlay : PaybondPolicyDocumentV2) : Option (OrderedDict String PyValue) :=
  overlay.intent.bind (·.budget)

def overrideBudget (overlay : PaybondPolicyDocumentV2) : Option (OrderedDict String PyValue) :=
  (overrideIntent overlay).bind (·.budget)

/-- The effective policy has a budget cap, and it is at most `cap`. -/
def CapKept (cap : PyFloat) (effective : PaybondPolicyDocumentV1) : Prop :=
  ∃ amount, maxSpendUsd (effective.intent.bind (·.budget)) = some amount ∧ amount ≤ cap

/-- The tenant's budgets leave the cap to a layer that is compared with it. -/
def CapCompared (cap : PyFloat) (overlay : PaybondPolicyDocumentV2) : Prop :=
  cap ≠ .nan ∧
    match overrideBudget overlay, maxSpendUsd (overrideBudget overlay) with
    | none, _ => maxSpendUsd (overlayBudget overlay) ≠ some .nan
    | some _, some amount => amount ≠ .nan
    -- The override hides the overlay's amount from the comparison.
    | some _, none => ∀ amount, maxSpendUsd (overlayBudget overlay) = some amount → amount ≤ cap

theorem number?_ne_none {value : PyValue} {number : PyFloat} (hnumber : value.number? = some number) :
    value ≠ .none := by
  rintro rfl
  cases hnumber

section Budget

variable {base overlay override : Option (OrderedDict String PyValue)}

theorem BudgetWellFormed.items_isEmpty {budget : OrderedDict String PyValue}
    (hbudget : BudgetWellFormed budget) : budget.items.isEmpty = false := by
  have hcurrency := OrderedDict.contains_iff.mp hbudget.currency
  rw [OrderedDict.keys] at hcurrency
  cases hitems : budget.items with
  | nil => simp [hitems] at hcurrency
  | cons item items => rfl

/-- In a parsed budget a stored amount is a number. -/
theorem maxSpendUsd_of_get? {budget : OrderedDict String PyValue}
    (hbudget : BudgetWellFormed budget) {amount : PyValue}
    (hamount : budget.get? "max_spend_usd" = some amount) :
    ∃ number, amount.number? = some number ∧ maxSpendUsd (some budget) = some number := by
  obtain ⟨number, hnumber, -⟩ := hbudget.max_spend_usd amount hamount
  exact ⟨number, hnumber, by simp [maxSpendUsd, hamount, hnumber]⟩

theorem maxSpendUsd_update {merged layer : OrderedDict String PyValue}
    (hlayer : BudgetWellFormed layer) :
    maxSpendUsd (some (merged.update layer)) =
      (maxSpendUsd (some layer)).or (maxSpendUsd (some merged)) := by
  cases hamount : layer.get? "max_spend_usd" with
  | none => simp [maxSpendUsd, OrderedDict.get?_update, hamount]
  | some amount =>
      obtain ⟨number, hnumber, hmax⟩ := maxSpendUsd_of_get? hlayer hamount
      rw [hmax]
      simp [maxSpendUsd, OrderedDict.get?_update, hamount, hnumber]

theorem maxSpendUsd_updateWith {merged : OrderedDict String PyValue}
    {layer : Option (OrderedDict String PyValue)}
    (hlayer : ∀ budget ∈ layer, BudgetWellFormed budget) :
    maxSpendUsd (some (updateWith merged layer)) =
      (maxSpendUsd layer).or (maxSpendUsd (some merged)) := by
  cases layer with
  | none => rfl
  | some layer => exact maxSpendUsd_update (hlayer layer rfl)

/-- The innermost layer with an amount supplies the effective one. -/
theorem maxSpendUsd_layeredBudget (hbase : ∀ budget ∈ base, BudgetWellFormed budget)
    (hoverlay : ∀ budget ∈ overlay, BudgetWellFormed budget)
    (hoverride : ∀ budget ∈ override, BudgetWellFormed budget) :
    maxSpendUsd (some (layeredBudget base overlay override)) =
      (maxSpendUsd override).or ((maxSpendUsd overlay).or (maxSpendUsd base)) := by
  rw [layeredBudget, maxSpendUsd_updateWith hoverride, maxSpendUsd_updateWith hoverlay,
    maxSpendUsd_updateWith hbase]
  simp [maxSpendUsd]

theorem lookupSet_number? {budget : Option (OrderedDict String PyValue)}
    {number : PyFloat} (hnumber : maxSpendUsd budget = some number) :
    ∃ amount, lookupSet budget "max_spend_usd" = some amount ∧ amount.number? = some number := by
  obtain ⟨amount, hamount, hnumber⟩ := Option.bind_eq_some_iff.mp hnumber
  refine ⟨amount, ?_, hnumber⟩
  unfold lookupSet
  split
  next hnone => exact absurd (Option.some.inj (hamount.symm.trans hnone)) (number?_ne_none hnumber)
  next => exact hamount

theorem orMapping_eq (hoverride : ∀ budget ∈ override, BudgetWellFormed budget) :
    orMapping override overlay = override.or overlay := by
  cases override with
  | none => rfl
  | some override => simp [orMapping, (hoverride override rfl).items_isEmpty]

/-- The merge succeeds only if the compared amount does not exceed the cap. -/
theorem checkBudgetCap_le {floatRepr : PyFloat → String} {cap amount : PyFloat}
    (hoverride : ∀ budget ∈ override, BudgetWellFormed budget)
    (hcap : maxSpendUsd base = some cap) (hamount : maxSpendUsd (override.or overlay) = some amount)
    (hdenied : (checkBudgetCap floatRepr base overlay override).denied = []) : ¬cap < amount := by
  obtain ⟨orgMax, horgMax, horgNumber⟩ := lookupSet_number? hcap
  obtain ⟨tenantMax, htenantMax, htenantNumber⟩ := lookupSet_number? hamount
  simp only [checkBudgetCap, horgMax, orMapping_eq hoverride, htenantMax, exceedsBudgetCap,
    horgNumber, htenantNumber, decide_eq_true_eq] at hdenied
  split at hdenied
  · simp at hdenied
  next hle => exact hle

theorem mergeBudget_value {floatRepr : PyFloat → String} {cap : PyFloat}
    (hbase : ∀ budget ∈ base, BudgetWellFormed budget)
    (hoverlay : ∀ budget ∈ overlay, BudgetWellFormed budget)
    (hoverride : ∀ budget ∈ override, BudgetWellFormed budget)
    (hcap : maxSpendUsd base = some cap)
    (hdenied : (mergeBudget floatRepr base overlay override).denied = []) :
    maxSpendUsd (mergeBudget floatRepr base overlay override).value =
        (maxSpendUsd override).or ((maxSpendUsd overlay).or (some cap)) ∧
      ∀ amount, maxSpendUsd (override.or overlay) = some amount → ¬cap < amount := by
  have hlayered := maxSpendUsd_layeredBudget hbase hoverlay hoverride
  unfold mergeBudget at hdenied ⊢
  split at hdenied
  next hempty =>
    -- A layered budget with a cap is not empty.
    have hnone : maxSpendUsd (some (layeredBudget base overlay override)) = none := by
      simp [maxSpendUsd, OrderedDict.get?, List.isEmpty_iff.mp hempty]
    rw [hnone, hcap] at hlayered
    cases hor : (maxSpendUsd override).or ((maxSpendUsd overlay).or (some cap)) with
    | none => simp at hor
    | some amount => rw [hor] at hlayered; cases hlayered
  next hnonempty =>
    rw [if_neg hnonempty]
    simp only [bind_denied] at hdenied
    refine ⟨?_, fun amount hamount => checkBudgetCap_le hoverride hcap hamount hdenied.1⟩
    rw [← hcap]
    exact hlayered

end Budget

theorem PaybondPolicyDocument.WellFormed.budget_wellFormed {document : PaybondPolicyDocument}
    (hdocument : document.WellFormed) :
    ∀ budget ∈ document.intent.bind (·.budget), BudgetWellFormed budget := by
  intro budget hbudget
  obtain ⟨intent, hintent, hbudget⟩ := Option.bind_eq_some_iff.mp hbudget
  exact (hdocument.intent_wellFormed intent hintent).budget budget hbudget

section Overlay

variable {overlay : PaybondPolicyDocumentV2}

theorem overlayBudget_wellFormed (hoverlay : overlay.WellFormed) :
    ∀ budget ∈ overlayBudget overlay, BudgetWellFormed budget := by
  intro budget hbudget
  obtain ⟨intent, hintent, hbudget⟩ := Option.bind_eq_some_iff.mp hbudget
  exact (hoverlay.intent intent hintent).budget budget hbudget

theorem overrideBudget_wellFormed (hoverlay : overlay.WellFormed) :
    ∀ budget ∈ overrideBudget overlay, BudgetWellFormed budget := by
  intro budget hbudget
  obtain ⟨intent, hintent, hbudget⟩ := Option.bind_eq_some_iff.mp hbudget
  obtain ⟨overrides, hoverrides, hintent⟩ := Option.bind_eq_some_iff.mp hintent
  exact hoverlay.override_budget overrides hoverrides intent hintent budget hbudget

/-- The effective amount and the comparison that was made for it. -/
theorem mergeIntent_maxSpendUsd {floatRepr : PyFloat → String} {base : PaybondPolicyDocument}
    {mergedAllowed : Option (List String)} {cap : PyFloat} (hbase : base.WellFormed)
    (hoverlay : overlay.WellFormed) (hcap : maxSpendUsd (base.intent.bind (·.budget)) = some cap)
    (hdenied : (mergeIntent floatRepr base overlay mergedAllowed).denied = []) :
    maxSpendUsd ((mergeIntent floatRepr base overlay mergedAllowed).value.bind (·.budget)) =
        (maxSpendUsd (overrideBudget overlay)).or
          ((maxSpendUsd (overlayBudget overlay)).or (some cap)) ∧
      ∀ amount, maxSpendUsd ((overrideBudget overlay).or (overlayBudget overlay)) = some amount →
        ¬cap < amount := by
  unfold mergeIntent at hdenied ⊢
  split at hdenied
  next hnone =>
    rw [if_pos hnone]
    simp only [Bool.and_eq_true, Option.isNone_iff_eq_none] at hnone
    simp only [overlayBudget, overrideBudget, hnone, Option.bind_none, Option.none_or]
    refine ⟨?_, fun amount hamount => by cases hamount⟩
    simpa [Option.bind_map, Function.comp_def, maxSpendUsd] using hcap
  next hsome =>
    rw [if_neg hsome]
    simp only [bind_denied] at hdenied
    obtain ⟨hvalue, hcompared⟩ := mergeBudget_value hbase.budget_wellFormed
      (overlayBudget_wellFormed hoverlay) (overrideBudget_wellFormed hoverlay) hcap hdenied.2.1
    refine ⟨?_, hcompared⟩
    rw [← hvalue]
    simp only [bind_value]
    split
    · rfl
    next hnothing =>
      -- A cap makes the merged budget non-empty, so there is something to store.
      simp only [Bool.or_eq_true, not_or, Bool.not_eq_true, Option.isSome_eq_false_iff,
        Option.isNone_iff_eq_none] at hnothing
      have hbudget : (mergeBudget floatRepr (base.intent.bind (·.budget)) (overlayBudget overlay)
        (overrideBudget overlay)).value = none := hnothing.1.2
      rw [hbudget] at hvalue
      cases hor : (maxSpendUsd (overrideBudget overlay)).or
        ((maxSpendUsd (overlayBudget overlay)).or (some cap)) with
      | none => simp at hor
      | some amount => rw [hor] at hvalue; cases hvalue

end Overlay

/-- A compared amount stays within the cap exactly when both are numbers. -/
theorem le_cap_iff_of_not_lt {cap amount : PyFloat} (hcompared : ¬cap < amount) :
    amount ≤ cap ↔ cap ≠ .nan ∧ amount ≠ .nan :=
  ⟨fun hle => (PyFloat.ne_nan_of_le hle).symm,
    fun hne => PyFloat.le_of_not_lt hne.2 hne.1 hcompared⟩

/-- The effective cap is at most the org's exactly when the tenant's budgets leave
it to a compared layer. -/
theorem mergePaybondPolicies_capKept_iff {floatRepr : PyFloat → String}
    {rawBase rawOverlay : PyValue} {base : PaybondPolicyDocument}
    {overlay : PaybondPolicyDocumentV2} {options : PolicyMergeOptions}
    {result : PolicyMergeResult} {cap : PyFloat}
    (hbase : parsePaybondPolicyDocument rawBase = .ok base)
    (hoverlay : parsePaybondPolicyDocument rawOverlay = .ok (.v2 overlay))
    (hcap : maxSpendUsd (base.intent.bind (·.budget)) = some cap)
    (hmerge : mergePaybondPolicies floatRepr base overlay options = .ok result) :
    CapKept cap result.effective ↔ CapCompared cap overlay := by
  have hbaseValid := parsePaybondPolicyDocument_wellFormed hbase
  have hoverlayValid : overlay.WellFormed := parsePaybondPolicyDocument_wellFormed hoverlay
  obtain ⟨report, hdenied, heffective⟩ := mergePaybondPolicies_eq_ok hmerge
  rw [CapKept, ← heffective]
  simp only [mergeLayers, bind_denied, bind_value, pure_value] at hdenied ⊢
  obtain ⟨-, -, -, -, hintent, -, -⟩ := hdenied
  obtain ⟨heq, hcompared⟩ := mergeIntent_maxSpendUsd hbaseValid hoverlayValid hcap hintent
  rw [heq, CapCompared]
  cases hoverride : overrideBudget overlay with
  | none =>
      rw [hoverride, Option.none_or] at hcompared
      have hnone : maxSpendUsd none = none := rfl
      cases hamount : maxSpendUsd (overlayBudget overlay) with
      | none => simp [hnone]
      | some amount => simpa [hnone] using le_cap_iff_of_not_lt (hcompared amount hamount)
  | some override =>
      rw [hoverride, Option.some_or] at hcompared
      cases hamount : maxSpendUsd (some override) with
      | some amount => simpa using le_cap_iff_of_not_lt (hcompared amount hamount)
      | none =>
          cases hhidden : maxSpendUsd (overlayBudget overlay) with
          | none => simp
          | some amount => simpa using fun hle : amount ≤ cap => (PyFloat.ne_nan_of_le hle).2

theorem mergePaybondPolicies_capKept_travel : ∃ base result,
    parsePaybondPolicyDocument orgBaseTravel = .ok base ∧
      parsePaybondPolicyDocument (tenantOverlayTravel [("max_spend_usd", .int 150)] []) =
        .ok (.v2 (tenantDocumentTravel [("max_spend_usd", .int 150)] [])) ∧
      maxSpendUsd (base.intent.bind (·.budget)) = some (.finite 200) ∧
      mergePaybondPolicies (fun _ => "") base
        (tenantDocumentTravel [("max_spend_usd", .int 150)] []) {} = .ok result ∧
      (CapKept (.finite 200) result.effective ↔
        CapCompared (.finite 200) (tenantDocumentTravel [("max_spend_usd", .int 150)] [])) :=
  ⟨_, _, rfl, rfl, rfl, rfl,
    @mergePaybondPolicies_capKept_iff (fun _ => "") orgBaseTravel
      (tenantOverlayTravel [("max_spend_usd", .int 150)] []) _
      (tenantDocumentTravel [("max_spend_usd", .int 150)] []) {} _ (.finite 200)
      rfl rfl rfl rfl⟩

/-- An override budget without an amount hides the overlay's 900 dollars from the
comparison with the org's 200. -/
theorem mergePaybondPolicies_raises_hidden_cap : ∃ base overlay result,
    parsePaybondPolicyDocument orgBaseTravel = .ok base ∧
      parsePaybondPolicyDocument (tenantOverlayTravel [("max_spend_usd", .int 900)] []) =
        .ok (.v2 overlay) ∧
      mergePaybondPolicies (fun _ => "") base overlay {} = .ok result ∧
      maxSpendUsd (base.intent.bind (·.budget)) = some (.finite 200) ∧
      maxSpendUsd (result.effective.intent.bind (·.budget)) = some (.finite 900) ∧
      ¬CapKept (.finite 200) result.effective := by
  refine ⟨_, _, _, rfl, rfl, rfl, rfl, rfl, ?_⟩
  rintro ⟨amount, hamount, hle⟩
  cases hamount
  exact absurd hle (by decide)

end PaybondKit.Policy
