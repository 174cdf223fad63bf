import Mathlib.Data.List.Perm.Basic
import PaybondKit.Policy.ComposeTightens

/-!
# The order of guardrail layers

Layers made by the constructors commute, so that a document composed with them does not
depend on their order. The caps in US dollars are the exception: `min` keeps its first
argument when the two cannot be compared, and a cap may be a NaN.
-/

namespace PaybondKit

/-! ## Folds that do not depend on the order -/

/-- Steps that commute wherever the invariant holds may be taken in any order. -/
theorem except_foldlM_perm {ε α σ : Type} {f : σ → α → Except ε σ} {Inv : σ → Prop}
    {P : α → Prop} {first second : List α} (hperm : first.Perm second)
    (hkeeps : ∀ state item next, Inv state → P item → f state item = .ok next → Inv next)
    (hcomm : ∀ state item other, Inv state → P item → P other →
      (f state item >>= fun next => f next other) = f state other >>= fun next => f next item)
    (hitems : ∀ item ∈ first, P item) {state : σ} (hstate : Inv state) :
    first.foldlM f state = second.foldlM f state := by
  induction hperm generalizing state with
  | nil => rfl
  | cons item hperm ih =>
      obtain ⟨hitem, hrest⟩ := List.forall_mem_cons.mp hitems
      rw [List.foldlM_cons, List.foldlM_cons]
      cases hnext : f state item with
      | error exception => rfl
      | ok next => exact ih hrest (hkeeps state item next hstate hitem hnext)
  | swap item other rest =>
      obtain ⟨hother, hrest⟩ := List.forall_mem_cons.mp hitems
      have hitem := hrest item List.mem_cons_self
      have hassoc : ∀ first second : α, (second :: first :: rest).foldlM f state =
          (f state second >>= fun next => f next first) >>= fun next => rest.foldlM f next := by
        intro first second
        rw [List.foldlM_cons]
        cases f state second <;> rfl
      rw [hassoc, hassoc, hcomm state other item hstate hother hitem]
  | trans hfirst hsecond ihfirst ihsecond =>
      have hmiddle := fun item hitem => hitems item (hfirst.mem_iff.mpr hitem)
      rw [ihfirst hitems hstate, ihsecond hmiddle hstate]

namespace OrderedDict

variable {κ α β : Type}

/-- A filter that does not see what is mapped may come first. -/
theorem filter_mapValues {f : κ → α → β} {keep : κ → β → Bool} {kept : κ → α → Bool}
    (hkept : ∀ key value, keep key (f key value) = kept key value) (dict : OrderedDict κ α) :
    (dict.mapValues f).filter keep = (dict.filter kept).mapValues f := by
  refine ext ?_
  simp only [filter, mapValues, List.filter_map]
  congr 1
  exact List.filter_congr fun item _ => hkept _ _

variable [DecidableEq κ]

/-- To store again what is stored changes nothing. -/
theorem set_eq_self {dict : OrderedDict κ α} {key : κ} {value : α}
    (hvalue : dict.get? key = some value) : dict.set key value = dict := by
  have hkey : key ∈ dict.keys := contains_iff.mp (by rw [contains, hvalue]; rfl)
  rw [set, dif_pos hkey]
  refine ext ((List.map_congr_left fun item hitem => ?_).trans (List.map_id _))
  obtain ⟨other, stored⟩ := item
  dsimp only [id]
  by_cases hsame : other = key
  · subst hsame
    rw [if_pos rfl, value_unique (get?_eq_some_iff.mp hvalue) hitem]
  · rw [if_neg hsame]

/-- The later of two values under one key stays. -/
theorem set_set (dict : OrderedDict κ α) (key : κ) (first second : α) :
    (dict.set key first).set key second = dict.set key second := by
  have hkey : key ∈ (dict.set key first).keys := contains_iff.mp (by simp [contains])
  rw [set, dif_pos hkey, set, set]
  split
  · refine ext ?_
    simp only [mapValues, List.map_map]
    refine List.map_congr_left fun item _ => ?_
    dsimp only [Function.comp]
    split <;> rfl
  next habsent =>
    refine ext ?_
    simp only [mapValues, List.map_append, List.map_cons, List.map_nil, if_true]
    congr 1
    refine (List.map_congr_left fun item hitem => ?_).trans (List.map_id _)
    have hne : item.1 ≠ key := fun hsame => habsent (hsame ▸ List.mem_map_of_mem hitem)
    dsimp only [id]
    rw [if_neg hne]
end OrderedDict

/-! ## The smaller of two floats -/

namespace PyFloat

variable {first second third : PyFloat}

/-- `min(first, second)`: the first, unless the second is smaller. -/
def pyMin (first second : PyFloat) : PyFloat := if second < first then second else first

theorem antisymm (hle : first ≤ second) (hge : second ≤ first) : first = second := by
  rcases first with first | ⟨_ | _⟩ | _ <;> rcases second with second | ⟨_ | _⟩ | _ <;>
    simp_all [le_def, le]
  next => exact le_antisymm hle hge

theorem pyMin_choice (first second : PyFloat) :
    pyMin first second = first ∨ pyMin first second = second := by
  unfold pyMin
  split
  · exact .inr rfl
  · exact .inl rfl

theorem pyMin_ne_nan (hfirst : first ≠ .nan) : pyMin first second ≠ .nan := by
  unfold pyMin
  split
  next hlt => exact (ne_nan_of_le hlt.1).1
  next => exact hfirst

@[simp] theorem nan_pyMin (second : PyFloat) : pyMin .nan second = .nan := by
  refine if_neg fun hlt => ?_
  exact (ne_nan_of_le hlt.1).2 rfl

@[simp] theorem pyMin_nan (first : PyFloat) : pyMin first .nan = first :=
  if_neg (not_nan_lt first)

theorem pyMin_le_left (hfirst : first ≠ .nan) : pyMin first second ≤ first := by
  unfold pyMin
  split
  next hlt => exact hlt.1
  next => exact (le_self_iff _).mpr hfirst

theorem pyMin_le_right (hfirst : first ≠ .nan) (hsecond : second ≠ .nan) :
    pyMin first second ≤ second := by
  unfold pyMin
  split
  · exact (le_self_iff _).mpr hsecond
  next hlt => exact le_of_not_lt hfirst hsecond hlt

theorem le_pyMin (hfirst : third ≤ first) (hsecond : third ≤ second) :
    third ≤ pyMin first second := by
  rcases pyMin_choice first second with hsame | hsame <;> rwa [hsame]

/-- After a first float the order of the others does not matter. -/
theorem pyMin_right_comm (first second third : PyFloat) :
    pyMin (pyMin first second) third = pyMin (pyMin first third) second := by
  by_cases hfirst : first = .nan
  · simp only [hfirst, nan_pyMin]
  by_cases hsecond : second = .nan
  · rw [hsecond, pyMin_nan, pyMin_nan]
  by_cases hthird : third = .nan
  · rw [hthird, pyMin_nan, pyMin_nan]
  have hle : ∀ second third : PyFloat, second ≠ .nan → third ≠ .nan →
      pyMin (pyMin first second) third ≤ pyMin (pyMin first third) second := by
    intro second third hsecond hthird
    have hinner : pyMin first second ≠ .nan := pyMin_ne_nan hfirst
    have hbelow := @pyMin_le_left _ third hinner
    exact le_pyMin (le_pyMin (le_trans hbelow (pyMin_le_left hfirst))
      (pyMin_le_right hinner hthird)) (le_trans hbelow (pyMin_le_right hfirst hsecond))
  exact antisymm (hle second third hsecond hthird) (hle third second hthird hsecond)

/-- The order of two floats matters when one of them is a NaN. -/
theorem pyMin_comm (hnan : first = .nan ↔ second = .nan) :
    pyMin first second = pyMin second first := by
  by_cases hfirst : first = .nan
  · rw [hfirst, hnan.mp hfirst]
  have hsecond : second ≠ .nan := fun h => hfirst (hnan.mpr h)
  exact antisymm (le_pyMin (pyMin_le_right hfirst hsecond) (pyMin_le_left hfirst))
    (le_pyMin (pyMin_le_right hsecond hfirst) (pyMin_le_left hsecond))

end PyFloat

namespace Policy

open Agent (PyExc PlatformText textTravel)

/-! ## Two layers -/

section Commute

variable {platform : PlatformText} {parseInt : String → Except PyExc Int}
variable {layer other : PolicyGuardrailLayer} {document : PaybondPolicyDocumentV1}

/-- The amount that a budget has, if any. -/
def amountOf (budget : OrderedDict String PyValue) : Option PyValue :=
  (budget.getValue "max_spend_usd").some?

/-- The currency of a capped budget. -/
def currencyOf (budget : OrderedDict String PyValue) : PyValue :=
  (budget.getValue "currency").truthy?.getD (.str "usd")

/-- The budget with an amount. -/
def withAmount (budget : OrderedDict String PyValue) (amount : PyFloat) :
    OrderedDict String PyValue :=
  (budget.set "currency" (currencyOf budget)).set "max_spend_usd" (.float amount)

theorem capBudget_eq (usd : PyFloat) (budget : OrderedDict String PyValue) :
    capBudget platform usd budget = withAmount budget <$> cappedAmount platform usd budget := by
  unfold capBudget
  cases cappedAmount platform usd budget <;> rfl

theorem truthy?_currencyOf (budget : OrderedDict String PyValue) :
    (currencyOf budget).truthy?.getD (.str "usd") = currencyOf budget := by
  unfold currencyOf
  cases hcurrency : (budget.getValue "currency").truthy? with
  | none => rfl
  | some currency =>
      have htruthy : currency.truthy = true := by
        unfold PyValue.truthy? at hcurrency
        split at hcurrency
        · cases hcurrency
          assumption
        · cases hcurrency
      rw [Option.getD_some, PyValue.truthy?, if_pos htruthy, Option.getD_some]

theorem currencyOf_withAmount (budget : OrderedDict String PyValue) (amount : PyFloat) :
    currencyOf (withAmount budget amount) = currencyOf budget := by
  have hget : (withAmount budget amount).getValue "currency" = currencyOf budget := by
    simp [withAmount, OrderedDict.getValue, OrderedDict.get?_set]
  rw [currencyOf, hget, truthy?_currencyOf]

theorem amountOf_withAmount (budget : OrderedDict String PyValue) (amount : PyFloat) :
    amountOf (withAmount budget amount) = some (.float amount) := by
  simp [amountOf, withAmount, OrderedDict.getValue, PyValue.some?]

/-- The later amount stays. -/
theorem withAmount_withAmount (budget : OrderedDict String PyValue) (amount later : PyFloat) :
    withAmount (withAmount budget amount) later = withAmount budget later := by
  have hcurrency : (withAmount budget amount).get? "currency" = some (currencyOf budget) := by
    simp [withAmount, OrderedDict.get?_set]
  have hkept : (withAmount budget amount).set "currency" (currencyOf budget) =
      withAmount budget amount := OrderedDict.set_eq_self hcurrency
  rw [withAmount, currencyOf_withAmount, hkept, withAmount, OrderedDict.set_set, withAmount]

/-- A budget that has been capped, under one more cap. -/
theorem capBudget_withAmount (usd amount : PyFloat) (budget : OrderedDict String PyValue) :
    capBudget platform usd (withAmount budget amount) =
      .ok (withAmount budget (PyFloat.pyMin amount usd)) := by
  have hamount : cappedAmount platform usd (withAmount budget amount) =
      .ok (PyFloat.pyMin amount usd) := by
    rw [cappedAmount, show ((withAmount budget amount).getValue "max_spend_usd").some? =
      some (.float amount) from amountOf_withAmount budget amount]
    rfl
  rw [capBudget_eq, hamount]
  exact congrArg Except.ok (withAmount_withAmount budget amount _)

/-- Two caps on a budget commute, if it has an amount or they are comparable. -/
theorem capBudget_comm {usd other : PyFloat} {budget : OrderedDict String PyValue}
    (hcomparable : (amountOf budget).isSome = true ∨ (usd = .nan ↔ other = .nan)) :
    (capBudget platform usd budget >>= capBudget platform other) =
      capBudget platform other budget >>= capBudget platform usd := by
  simp only [capBudget_eq usd budget, capBudget_eq other budget]
  unfold cappedAmount
  cases hamount : amountOf budget with
  | none =>
      rw [show (budget.getValue "max_spend_usd").some? = none from hamount]
      have hnan := hcomparable.resolve_left (by simp [hamount])
      change capBudget platform other (withAmount budget usd) =
        capBudget platform usd (withAmount budget other)
      rw [capBudget_withAmount, capBudget_withAmount, PyFloat.pyMin_comm hnan]
  | some current =>
      rw [show (budget.getValue "max_spend_usd").some? = some current from hamount]
      dsimp only
      cases hdouble : pyFloat platform current with
      | error exception => rfl
      | ok double =>
          change capBudget platform other (withAmount budget (PyFloat.pyMin double usd)) =
            capBudget platform usd (withAmount budget (PyFloat.pyMin double other))
          rw [capBudget_withAmount, capBudget_withAmount, PyFloat.pyMin_right_comm]

/-! ### Intents -/

/-- The budget that a cap starts from. -/
def startingBudget (intent : Option PaybondPolicyIntentSection) : OrderedDict String PyValue :=
  (nonemptyBudget intent).getD .empty

theorem capIntent_some {usd : PyFloat} (husd : layer.budgetMaxSpendUsd = some usd)
    (intent : Option PaybondPolicyIntentSection) :
    capIntent platform layer intent =
      (fun budget => some { intent.getD {} with budget := some budget }) <$>
        capBudget platform usd (startingBudget intent) := by
  rw [capIntent, husd]
  dsimp only
  unfold startingBudget
  cases capBudget platform usd ((nonemptyBudget intent).getD .empty) <;> rfl

theorem capIntent_none (husd : layer.budgetMaxSpendUsd = none)
    (intent : Option PaybondPolicyIntentSection) :
    capIntent platform layer intent = .ok intent := by
  rw [capIntent, husd]

/-- A capped budget is not empty. -/
theorem startingBudget_capped {usd : PyFloat} {budget capped : OrderedDict String PyValue}
    (hcapped : capBudget platform usd budget = .ok capped)
    (intent : PaybondPolicyIntentSection) :
    startingBudget (some { intent with budget := some capped }) = capped := by
  have hnonempty : capped.items.isEmpty = false := by
    rw [capBudget_eq] at hcapped
    obtain ⟨amount, -, rfl⟩ := except_map_eq_ok.mp hcapped
    have hget : (withAmount budget amount).get? "max_spend_usd" = some (.float amount) :=
      OrderedDict.get?_set_self _ _ _
    have hmem := OrderedDict.get?_eq_some_iff.mp hget
    exact List.isEmpty_eq_false_iff.mpr (List.ne_nil_of_mem hmem)
  rw [startingBudget, nonemptyBudget, Option.bind_some, Option.filter_some, hnonempty]
  rfl

theorem capIntent_comm {intent : Option PaybondPolicyIntentSection}
    (hcomparable : (amountOf (startingBudget intent)).isSome = true ∨
      ∀ usd ∈ layer.budgetMaxSpendUsd, ∀ cap ∈ other.budgetMaxSpendUsd, usd = .nan ↔ cap = .nan) :
    (capIntent platform layer intent >>= capIntent platform other) =
      capIntent platform other intent >>= capIntent platform layer := by
  cases husd : layer.budgetMaxSpendUsd with
  | none =>
      have hlayer : capIntent platform layer = .ok := funext (capIntent_none husd)
      rw [hlayer, except_ok_bind]
      cases capIntent platform other intent <;> rfl
  | some usd =>
      cases hcap : other.budgetMaxSpendUsd with
      | none =>
          have hother : capIntent platform other = .ok := funext (capIntent_none hcap)
          rw [hother, except_ok_bind]
          cases capIntent platform layer intent <;> rfl
      | some cap =>
          have hboth : ∀ {first second : PolicyGuardrailLayer} {usd cap : PyFloat},
              first.budgetMaxSpendUsd = some usd → second.budgetMaxSpendUsd = some cap →
              (capIntent platform first intent >>= capIntent platform second) =
                (fun budget => some { intent.getD {} with budget := some budget }) <$>
                  (capBudget platform usd (startingBudget intent) >>=
                    capBudget platform cap) := by
            intro first second usd cap hfirst hsecond
            rw [capIntent_some hfirst]
            cases hcapped : capBudget platform usd (startingBudget intent) with
            | error exception => rfl
            | ok capped =>
                change capIntent platform second
                  (some { intent.getD {} with budget := some capped }) = _
                rw [capIntent_some hsecond, startingBudget_capped hcapped]
                rfl
          have hnan := hcomparable.imp_right fun hall => hall usd husd cap hcap
          rw [hboth husd hcap, hboth hcap husd, capBudget_comm hnan]

/-- A cap on the budget does not see the allowed tools. -/
theorem capIntent_map {keep : List String → List String} (hempty : keep [] = [])
    (intent : Option PaybondPolicyIntentSection) :
    capIntent platform layer
        (intent.map fun section_ => { section_ with allowedTools := keep section_.allowedTools }) =
      (Option.map fun section_ => { section_ with allowedTools := keep section_.allowedTools }) <$>
        capIntent platform layer intent := by
  cases husd : layer.budgetMaxSpendUsd with
  | none =>
      rw [capIntent_none husd, capIntent_none husd]
      rfl
  | some usd =>
      have hstart : startingBudget (intent.map fun section_ =>
          { section_ with allowedTools := keep section_.allowedTools }) = startingBudget intent := by
        cases intent <;> rfl
      rw [capIntent_some husd, capIntent_some husd, hstart]
      cases capBudget platform usd (startingBudget intent) with
      | error exception => rfl
      | ok capped =>
          cases intent with
          | some section_ => rfl
          | none =>
              have hsame : ({ budget := some capped } : PaybondPolicyIntentSection) =
                  { budget := some capped, allowedTools := keep [] } := by
                rw [hempty]
              exact congrArg (fun section_ => Except.ok (some section_)) hsame

/-! ### Tools -/

/-- The tools of a document after a layer. -/
def layeredTools (layer : PolicyGuardrailLayer)
    (tools : OrderedDict String PaybondPolicyToolEntry) :
    OrderedDict String PaybondPolicyToolEntry :=
  (tools.mapValues fun _ => layer.capEntry).filter layer.keeps

theorem capEntry_comm (layer other : PolicyGuardrailLayer) (entry : PaybondPolicyToolEntry) :
    layer.capEntry (other.capEntry entry) = other.capEntry (layer.capEntry entry) := by
  unfold PolicyGuardrailLayer.capEntry
  cases layer.sideEffectingMaxSpendCents with
  | none => rfl
  | some cents =>
      cases other.sideEffectingMaxSpendCents with
      | none => rfl
      | some cap =>
          simp only [Option.elim_some, Policy.capEntry]
          by_cases hside : entry.sideEffecting = true
          · simp only [hside, if_true]
            cases entry.maxSpendCents with
            | none => simp only [tighterCap, Option.elim_none, Option.elim_some, min_comm]
            | some current => simp only [tighterCap, Option.elim_some, min_right_comm]
          · simp only [hside, Bool.false_eq_true, if_false]

theorem layeredTools_eq (layer : PolicyGuardrailLayer)
    (tools : OrderedDict String PaybondPolicyToolEntry) :
    layeredTools layer tools = (tools.filter layer.keeps).mapValues fun _ => layer.capEntry :=
  OrderedDict.filter_mapValues (fun key entry => layer.keeps_capEntry layer key entry) tools

/-- Caps and filters of two layers commute. -/
theorem layeredTools_comm (layer other : PolicyGuardrailLayer)
    (tools : OrderedDict String PaybondPolicyToolEntry) :
    layeredTools other (layeredTools layer tools) =
      layeredTools layer (layeredTools other tools) := by
  have hboth : ∀ first second : PolicyGuardrailLayer, layeredTools second (layeredTools first tools) =
      (((tools.filter first.keeps).filter second.keeps).mapValues fun _ => first.capEntry).mapValues
        fun _ => second.capEntry := by
    intro first second
    rw [layeredTools_eq second, layeredTools_eq first,
      OrderedDict.filter_mapValues fun key entry => first.keeps_capEntry second key entry]
  rw [hboth, hboth]
  refine OrderedDict.ext ?_
  simp only [OrderedDict.mapValues, OrderedDict.filter, List.map_map]
  rw [List.filter_comm]
  refine List.map_congr_left fun item _ => ?_
  exact congrArg (Prod.mk item.1) (capEntry_comm other layer item.2)

theorem contains_layeredTools (layer : PolicyGuardrailLayer)
    (tools : OrderedDict String PaybondPolicyToolEntry) (toolName : String) :
    (layeredTools layer tools).contains toolName =
      (tools.get? toolName).any (layer.keeps toolName) := by
  rw [layeredTools_eq, OrderedDict.contains, OrderedDict.get?_mapValues, OrderedDict.get?_filter]
  cases tools.get? toolName with
  | none => rfl
  | some entry => cases hkeeps : layer.keeps toolName entry <;> simp [Option.filter, hkeeps]

/-! ### Allowed tools -/

/-- The allowed tools that a layer leaves. -/
def keptNames (layer : PolicyGuardrailLayer) (tools : OrderedDict String PaybondPolicyToolEntry)
    (names : List String) : List String :=
  if layer.filtersTools then names.filter ((layeredTools layer tools).contains ·) else names

theorem keptNames_eq (layer : PolicyGuardrailLayer)
    (tools : OrderedDict String PaybondPolicyToolEntry) (names : List String) :
    keptNames layer tools names = names.filter fun toolName =>
      !layer.filtersTools || (tools.get? toolName).any (layer.keeps toolName) := by
  unfold keptNames
  cases layer.filtersTools with
  | false => simp
  | true => simp [contains_layeredTools]

theorem any_layeredTools (layer other : PolicyGuardrailLayer)
    (tools : OrderedDict String PaybondPolicyToolEntry) (toolName : String) :
    ((layeredTools layer tools).get? toolName).any (other.keeps toolName) =
      (tools.get? toolName).any fun entry =>
        layer.keeps toolName entry && other.keeps toolName entry := by
  rw [layeredTools_eq, OrderedDict.get?_mapValues, OrderedDict.get?_filter]
  cases tools.get? toolName with
  | none => rfl
  | some entry =>
      cases hkeeps : layer.keeps toolName entry <;>
        simp [Option.filter, hkeeps, layer.keeps_capEntry other]

/-- Of the allowed tools two filters leave those that remain under both. -/
theorem keptNames_comm (layer other : PolicyGuardrailLayer)
    (tools : OrderedDict String PaybondPolicyToolEntry) (names : List String) :
    keptNames other (layeredTools layer tools) (keptNames layer tools names) =
      keptNames layer (layeredTools other tools) (keptNames other tools names) := by
  simp only [keptNames_eq, List.filter_filter, any_layeredTools]
  refine List.filter_congr fun toolName _ => ?_
  have hkeeps : ∀ (layer : PolicyGuardrailLayer) (entry : PaybondPolicyToolEntry),
      layer.filtersTools = false → layer.keeps toolName entry = true := by
    intro layer entry hfilters
    rw [PolicyGuardrailLayer.keeps, hfilters]
    rfl
  cases tools.get? toolName with
  | none => simp only [Option.any_none, Bool.or_false, Bool.and_comm]
  | some entry =>
      simp only [Option.any_some]
      cases hlayer : layer.filtersTools with
      | false =>
          rw [hkeeps layer entry hlayer]
          simp
      | true =>
          cases hother : other.filtersTools with
          | false =>
              rw [hkeeps other entry hother]
              simp
          | true => cases layer.keeps toolName entry <;> simp

/-! ### Documents -/

/-- The document after a layer, with the capped intent. -/
def layered (layer : PolicyGuardrailLayer) (document : PaybondPolicyDocumentV1)
    (capped : Option PaybondPolicyIntentSection) : PaybondPolicyDocumentV1 :=
  { document with
    defaultDeny := document.defaultDeny || layer.defaultDeny.getD false
    tools := layeredTools layer document.tools
    intent := capped.map fun intent =>
      { intent with allowedTools := keptNames layer document.tools intent.allowedTools } }

/-- Every side-effecting tool declares its evidence. -/
def Evidenced (document : PaybondPolicyDocumentV1) : Prop :=
  ∀ item ∈ document.tools.items, item.2.sideEffecting = true →
    (truthyStr item.2.evidencePreset).isSome = true

theorem assertEvidenceRequired_eq_ok :
    assertEvidenceRequired document = .ok () ↔ Evidenced document := by
  unfold assertEvidenceRequired Evidenced
  split
  next item hitem =>
    refine iff_of_false nofun fun hall => ?_
    have hfound := List.find?_some hitem
    obtain ⟨hside, hmissing⟩ := Bool.and_eq_true_iff.mp hfound
    have hdeclared := hall item (List.mem_of_find?_eq_some hitem) hside
    rw [Option.isNone_iff_eq_none.mp hmissing] at hdeclared
    cases hdeclared
  next hnone =>
    refine iff_of_true rfl fun item hitem hside => ?_
    have hdeclared := List.find?_eq_none.mp hnone item hitem
    rw [hside, Bool.true_and, Bool.not_eq_true, Option.isNone_eq_false_iff] at hdeclared
    exact hdeclared

/-- A layer takes no evidence away. -/
theorem Evidenced.layered (hevidenced : Evidenced document)
    (capped : Option PaybondPolicyIntentSection) : Evidenced (layered layer document capped) := by
  intro item hitem hside
  obtain ⟨stored, hstored, rfl⟩ := List.mem_map.mp (List.mem_of_mem_filter hitem)
  dsimp only at hside ⊢
  rw [PolicyGuardrailLayer.capEntry_sideEffecting] at hside
  rw [capEntry_fields]
  exact hevidenced stored hstored hside

/-- What a layer makes of a document whose tools declare their evidence. -/
theorem applyGuardrailLayer_eq (hlayer : ConstructedLayer layer) (hevidenced : Evidenced document) :
    applyGuardrailLayer platform parseInt document layer =
      layered layer document <$> capIntent platform layer document.intent := by
  have hfacts := hlayer.facts
  have hpatches : applyToolPatches platform parseInt layer (applyDefaultDeny layer document) =
      .ok (applyDefaultDeny layer document) := by
    rw [applyToolPatches, patchTools, hfacts.tools]
    rfl
  have hintent : applyIntentPatch layer (applyDefaultDeny layer document) =
      .ok (applyDefaultDeny layer document) := by
    rw [applyIntentPatch, patchIntent, hfacts.intent]
    rfl
  rw [applyGuardrailLayer]
  dsimp only
  rw [hpatches, except_ok_bind, hintent, except_ok_bind, applyDefaultDeny_eq, applySpendCap_eq,
    applyBudgetCap]
  dsimp only
  cases capIntent platform layer document.intent with
  | error exception => rfl
  | ok capped =>
      have hread : applyReadOnly layer
          { document with
            defaultDeny := document.defaultDeny || layer.defaultDeny.getD false
            tools := document.tools.mapValues fun _ => layer.capEntry
            intent := capped } = layered layer document capped := by
        rw [applyReadOnly_eq, layered]
        unfold keptNames
        cases layer.filtersTools <;> rfl
      have hchecked : checkEvidence layer (layered layer document capped) = .ok () := by
        unfold checkEvidence
        split
        · exact assertEvidenceRequired_eq_ok.mpr (hevidenced.layered capped)
        · rfl
      change (checkEvidence layer (applyReadOnly layer _) >>= fun _ =>
        Except.ok (applyReadOnly layer _)) = .ok (layered layer document capped)
      rw [hread, hchecked]
      rfl

/-- The intent of a layered document under the cap of another layer. -/
theorem capIntent_layered (capped : Option PaybondPolicyIntentSection) :
    capIntent platform other (layered layer document capped).intent =
      (Option.map fun intent : PaybondPolicyIntentSection =>
          { intent with allowedTools := keptNames layer document.tools intent.allowedTools }) <$>
        capIntent platform other capped := by
  refine capIntent_map ?_ capped
  rw [keptNames_eq]
  rfl

/-- The document after two layers, with the intent that both capped. -/
def layeredTwice (layer other : PolicyGuardrailLayer) (document : PaybondPolicyDocumentV1)
    (capped : Option PaybondPolicyIntentSection) : PaybondPolicyDocumentV1 :=
  layered other (layered layer document none) (capped.map fun intent =>
    { intent with allowedTools := keptNames layer document.tools intent.allowedTools })

theorem layeredTwice_comm (layer other : PolicyGuardrailLayer) (document : PaybondPolicyDocumentV1)
    (capped : Option PaybondPolicyIntentSection) :
    layeredTwice layer other document capped = layeredTwice other layer document capped := by
  have hdeny : (document.defaultDeny || layer.defaultDeny.getD false ||
      other.defaultDeny.getD false) = (document.defaultDeny || other.defaultDeny.getD false ||
        layer.defaultDeny.getD false) := Bool.or_right_comm _ _ _
  simp only [layeredTwice, layered, hdeny, layeredTools_comm layer other, Option.map_map]
  congr 2
  funext intent
  exact congrArg (fun names => { intent with allowedTools := names })
    (keptNames_comm layer other document.tools intent.allowedTools)

/-- Two layers commute where the caps of their budgets can be compared. -/
theorem applyGuardrailLayer_comm (hlayer : ConstructedLayer layer) (hother : ConstructedLayer other)
    (hevidenced : Evidenced document)
    (hcomparable : (amountOf (startingBudget document.intent)).isSome = true ∨
      ∀ usd ∈ layer.budgetMaxSpendUsd, ∀ cap ∈ other.budgetMaxSpendUsd, usd = .nan ↔ cap = .nan) :
    (applyGuardrailLayer platform parseInt document layer >>= fun next =>
        applyGuardrailLayer platform parseInt next other) =
      applyGuardrailLayer platform parseInt document other >>= fun next =>
        applyGuardrailLayer platform parseInt next layer := by
  have htwice : ∀ {first second : PolicyGuardrailLayer}, ConstructedLayer first →
      ConstructedLayer second →
      (applyGuardrailLayer platform parseInt document first >>= fun next =>
          applyGuardrailLayer platform parseInt next second) =
        layeredTwice first second document <$>
          (capIntent platform first document.intent >>= capIntent platform second) := by
    intro first second hfirst hsecond
    rw [applyGuardrailLayer_eq hfirst hevidenced]
    cases capIntent platform first document.intent with
    | error exception => rfl
    | ok capped =>
        change applyGuardrailLayer platform parseInt (layered first document capped) second =
          layeredTwice first second document <$> capIntent platform second capped
        rw [applyGuardrailLayer_eq hsecond (hevidenced.layered capped), capIntent_layered]
        cases capIntent platform second capped <;> rfl
  have hsame : layeredTwice layer other document = layeredTwice other layer document :=
    funext (layeredTwice_comm layer other document)
  rw [htwice hlayer hother, htwice hother hlayer, hsame, capIntent_comm hcomparable]

end Commute

/-! ## Any order -/

section Order

variable {platform : PlatformText} {parseInt : String → Except PyExc Int}
variable {layers : List PolicyGuardrailLayer} {document : PaybondPolicyDocumentV1}

/-- The document has an amount, or the caps of the layers are all NaN, or none of them is. -/
def CapsComparable (document : PaybondPolicyDocumentV1) (layers : List PolicyGuardrailLayer) :
    Prop :=
  (document.budgetAmount.bind (·.some?)).isSome = true ∨
    ∀ layer ∈ layers, ∀ usd ∈ layer.budgetMaxSpendUsd, ∀ other ∈ layers,
      ∀ cap ∈ other.budgetMaxSpendUsd, usd = .nan ↔ cap = .nan

theorem amountOf_startingBudget (intent : Option PaybondPolicyIntentSection) :
    amountOf (startingBudget intent) =
      ((intent.bind (·.budget)).bind (·.get? "max_spend_usd")).bind (·.some?) := by
  rw [amountOf, OrderedDict.getValue, startingBudget, nonemptyBudget_amount]
  cases (intent.bind (·.budget)).bind (·.get? "max_spend_usd") <;> rfl

/-- What layers may be applied to in any order. -/
structure Orderless (layers : List PolicyGuardrailLayer) (document : PaybondPolicyDocumentV1) :
    Prop where
  evidenced : Evidenced document
  comparable : CapsComparable document layers

theorem Orderless.applied {layer : PolicyGuardrailLayer} {next : PaybondPolicyDocumentV1}
    (horderless : Orderless layers document) (hlayer : ConstructedLayer layer)
    (hnext : applyGuardrailLayer platform parseInt document layer = .ok next) :
    Orderless layers next where
  evidenced := by
    rw [applyGuardrailLayer_eq hlayer horderless.evidenced] at hnext
    obtain ⟨capped, -, rfl⟩ := except_map_eq_ok.mp hnext
    exact horderless.evidenced.layered capped
  comparable := by
    refine horderless.comparable.imp_left fun hamount => ?_
    rcases budgetAmount_constructed (applyGuardrailLayer_constructed hlayer hnext) with
      ⟨-, hsame⟩ | ⟨_, amount, -, hset, -⟩
    · rwa [hsame]
    · rw [hset]
      rfl

/-- The order of the layers does not matter where their caps can be compared. -/
theorem composePolicyLayers_perm {first second : List PolicyGuardrailLayer}
    (horderless : Orderless layers document) (hlayers : ∀ layer ∈ layers, ConstructedLayer layer)
    (hfirst : first.Perm layers) (hsecond : second.Perm layers) :
    composePolicyLayers platform parseInt document first =
      composePolicyLayers platform parseInt document second := by
  have happlied : applyGuardrailLayers platform parseInt document first =
      applyGuardrailLayers platform parseInt document second := by
    refine except_foldlM_perm (hfirst.trans hsecond.symm) ?_ ?_
      (fun layer hlayer => hfirst.mem_iff.mp hlayer) horderless
    · intro state layer next hstate hlayer hnext
      exact hstate.applied (hlayers layer hlayer) hnext
    · intro state layer other hstate hlayer hother
      refine applyGuardrailLayer_comm (hlayers layer hlayer) (hlayers other hother)
        hstate.evidenced ?_
      rw [amountOf_startingBudget]
      exact hstate.comparable.imp_right fun hall usd husd cap hcap =>
        hall layer hlayer usd husd other hother cap hcap
  rw [composePolicyLayers, composePolicyLayers, happlied]

/-! ### A NaN among the caps -/

/-- Without an amount, or with one that is a float, a layer applies. -/
theorem exists_applied {layer : PolicyGuardrailLayer} (hlayer : ConstructedLayer layer)
    (hevidenced : Evidenced document)
    (hamount : ∀ current, document.budgetAmount.bind (·.some?) = some current →
      ∃ amount, current = .float amount) :
    ∃ next, applyGuardrailLayer platform parseInt document layer = .ok next ∧ Evidenced next := by
  obtain ⟨capped, hcapped⟩ : ∃ capped, capIntent platform layer document.intent = .ok capped := by
    cases husd : layer.budgetMaxSpendUsd with
    | none => exact ⟨_, capIntent_none husd _⟩
    | some usd =>
        have hstart : ((startingBudget document.intent).getValue "max_spend_usd").some? =
            document.budgetAmount.bind (·.some?) := amountOf_startingBudget _
        rw [capIntent_some husd, capBudget_eq, cappedAmount, hstart]
        cases hcurrent : document.budgetAmount.bind (·.some?) with
        | none => exact ⟨_, rfl⟩
        | some current =>
            obtain ⟨amount, rfl⟩ := hamount current hcurrent
            exact ⟨_, rfl⟩
  refine ⟨layered layer document capped, ?_, hevidenced.layered capped⟩
  rw [applyGuardrailLayer_eq hlayer hevidenced, hcapped]
  rfl

/-- An amount is a NaN after the layers exactly when it was one before. -/
theorem applyGuardrailLayers_nan_iff (hlayers : ∀ layer ∈ layers, ConstructedLayer layer)
    (hevidenced : Evidenced document) {amount : PyFloat}
    (hamount : document.budgetAmount = some (.float amount)) :
    ∃ result final, applyGuardrailLayers platform parseInt document layers = .ok result ∧
      Evidenced result ∧ result.budgetAmount = some (.float final) ∧
      (final = .nan ↔ amount = .nan) := by
  induction layers generalizing document amount with
  | nil => exact ⟨document, amount, rfl, hevidenced, hamount, Iff.rfl⟩
  | cons layer layers ih =>
      obtain ⟨hlayer, hrest⟩ := List.forall_mem_cons.mp hlayers
      obtain ⟨next, hnext, hnextEvidenced⟩ := @exists_applied platform parseInt _ _ hlayer
        hevidenced fun current hcurrent => by
          rw [hamount] at hcurrent
          exact ⟨amount, (Option.some.inj hcurrent).symm⟩
      obtain ⟨kept, hkept, hnan⟩ : ∃ kept, next.budgetAmount = some (.float kept) ∧
          (kept = .nan ↔ amount = .nan) := by
        rcases budgetAmount_constructed (applyGuardrailLayer_constructed hlayer hnext) with
          ⟨-, hsame⟩ | ⟨usd, kept, -, hset, hcapped⟩
        · exact ⟨amount, hsame.trans hamount, Iff.rfl⟩
        · refine ⟨kept, hset, ?_⟩
          rw [hamount] at hcapped
          obtain ⟨_, hdouble, hmin⟩ := hcapped
          obtain rfl := Except.ok.inj hdouble
          have hmin : kept = PyFloat.pyMin amount usd := hmin
          rw [hmin]
          constructor
          · intro hfinal
            by_contra hamount
            exact PyFloat.pyMin_ne_nan hamount hfinal
          · rintro rfl
            exact PyFloat.nan_pyMin usd
      obtain ⟨result, final, hresult, hfinal, hresultAmount, hiff⟩ := ih hrest hnextEvidenced hkept
      refine ⟨result, final, ?_, hfinal, hresultAmount, hiff.trans hnan⟩
      rw [applyGuardrailLayers, List.foldlM_cons, hnext]
      exact hresult

/-- Without an amount the first cap decides whether the composed amount is a NaN. -/
theorem composePolicyLayers_nan_iff {layer : PolicyGuardrailLayer}
    (hlayers : ∀ other ∈ layer :: layers, ConstructedLayer other) (hevidenced : Evidenced document)
    (hamount : document.budgetAmount.bind (·.some?) = none) {usd : PyFloat}
    (husd : layer.budgetMaxSpendUsd = some usd) :
    ∃ result final, composePolicyLayers platform parseInt document (layer :: layers) = .ok result ∧
      result.budgetAmount = some (.float final) ∧ (final = .nan ↔ usd = .nan) := by
  obtain ⟨hlayer, hrest⟩ := List.forall_mem_cons.mp hlayers
  obtain ⟨next, hnext, hnextEvidenced⟩ := @exists_applied platform parseInt _ _ hlayer hevidenced
    fun current hcurrent => by
      rw [hamount] at hcurrent
      cases hcurrent
  have hset : next.budgetAmount = some (.float usd) := by
    rcases budgetAmount_constructed (applyGuardrailLayer_constructed hlayer hnext) with
      ⟨hnone, -⟩ | ⟨_, kept, hsome, hset, hcapped⟩
    · cases husd.symm.trans hnone
    · obtain rfl := Option.some.inj (husd.symm.trans hsome)
      rw [hamount] at hcapped
      rw [hset, hcapped]
  obtain ⟨result, final, hresult, hresultEvidenced, hfinal, hiff⟩ :=
    @applyGuardrailLayers_nan_iff platform parseInt _ _ hrest hnextEvidenced _ hset
  refine ⟨result, final, ?_, hfinal, hiff⟩
  have happlied : applyGuardrailLayers platform parseInt document (layer :: layers) =
      .ok result := by
    rw [applyGuardrailLayers, List.foldlM_cons, hnext]
    exact hresult
  rw [composePolicyLayers, happlied, except_ok_bind,
    assertEvidenceRequired_eq_ok.mpr hresultEvidenced]
  rfl

theorem evidenced_of_schemaValid (hvalid : document.SchemaValid) : Evidenced document := by
  intro item hitem hside
  have hentry := hvalid.tools.entries item hitem
  obtain ⟨preset, hpreset⟩ := Option.isSome_iff_exists.mp (hentry.evidence_required hside)
  have hne : preset ≠ "" := by
    rintro rfl
    exact absurd (hentry.evidence_preset "" hpreset) (by decide)
  rw [hpreset, truthyStr_eq_some hne]
  rfl

/-- Two members of a list may come first. -/
theorem exists_perm_pair {α : Type} {items : List α} {first second : α} (hfirst : first ∈ items)
    (hsecond : second ∈ items) (hne : first ≠ second) :
    ∃ rest, (first :: second :: rest).Perm items := by
  obtain ⟨before, after, rfl⟩ := List.append_of_mem hfirst
  have hother : second ∈ before ++ after := by
    rcases List.mem_append.mp hsecond with hbefore | hafter
    · exact List.mem_append_left _ hbefore
    · rcases List.mem_cons.mp hafter with hsame | hafter
      · exact absurd hsame.symm hne
      · exact List.mem_append_right _ hafter
  obtain ⟨before', after', hsplit⟩ := List.append_of_mem hother
  refine ⟨before' ++ after', ?_⟩
  have hrest : (second :: (before' ++ after')).Perm (before ++ after) := by
    rw [hsplit]
    exact List.perm_middle.symm
  exact (hrest.cons first).trans List.perm_middle.symm

/-- Of a schema-valid document and layers made by the constructors every order composes the
same, or raises the same, exactly when the caps can be compared. -/
theorem composePolicyLayers_orderless_iff {raw : PyValue}
    (hdocument : parsePaybondPolicyDocumentV1 raw = .ok document)
    (hlayers : ∀ layer ∈ layers, ConstructedLayer layer) :
    (∀ first second : List PolicyGuardrailLayer, first.Perm layers → second.Perm layers →
      composePolicyLayers platform parseInt document first =
        composePolicyLayers platform parseInt document second) ↔
      CapsComparable document layers := by
  have hevidenced := evidenced_of_schemaValid (parsePaybondPolicyDocumentV1_schemaValid hdocument)
  constructor
  · intro horders
    by_cases hamount : (document.budgetAmount.bind (·.some?)).isSome = true
    · exact .inl hamount
    refine .inr fun layer hlayer usd husd other hother cap hcap => ?_
    by_cases hsame : layer = other
    · subst hsame
      rw [Option.some.inj (husd.symm.trans hcap)]
    -- with either of the two first, its cap decides
    obtain ⟨rest, hfirst⟩ := exists_perm_pair hlayer hother hsame
    have hsecond : (other :: layer :: rest).Perm layers :=
      (List.Perm.swap layer other rest).trans hfirst
    have hnone := Option.not_isSome_iff_eq_none.mp hamount
    obtain ⟨result, final, hresult, hfinal, hiff⟩ := @composePolicyLayers_nan_iff platform parseInt
      _ _ _ (fun member hmember => hlayers member (hfirst.mem_iff.mp hmember)) hevidenced hnone _
      husd
    obtain ⟨result', final', hresult', hfinal', hiff'⟩ := @composePolicyLayers_nan_iff platform
      parseInt _ _ _ (fun member hmember => hlayers member (hsecond.mem_iff.mp hmember)) hevidenced
      hnone _ hcap
    have hequal := horders _ _ hfirst hsecond
    rw [hresult, hresult'] at hequal
    obtain rfl := Except.ok.inj hequal
    cases hfinal.symm.trans hfinal'
    exact hiff.symm.trans hiff'
  · intro hcomparable first second hfirst hsecond
    exact composePolicyLayers_perm ⟨hevidenced, hcomparable⟩ hlayers hfirst hsecond

end Order

/-! ## A cap that is no number -/

/-- `max_spend_usd(float("nan"))` is not rejected. -/
def nanCap : PolicyGuardrailLayer := { budgetMaxSpendUsd := some .nan }

def fiveCap : PolicyGuardrailLayer := { budgetMaxSpendUsd := some (.finite 5) }

theorem constructed_nanCap : ConstructedLayer nanCap := @ConstructedLayer.maxSpendUsd .nan _ rfl

theorem constructed_fiveCap : ConstructedLayer fiveCap := @ConstructedLayer.maxSpendUsd (.finite 5) _ rfl

theorem composePolicyLayers_orderless_fares : ∃ document,
    parsePaybondPolicyDocumentV1 fareBudgetPolicy = .ok document ∧
      ((∀ first second : List PolicyGuardrailLayer,
        first.Perm [Guardrails.strict, fiveCap] → second.Perm [Guardrails.strict, fiveCap] →
        composePolicyLayers textTravel noIntText document first =
          composePolicyLayers textTravel noIntText document second) ↔
        CapsComparable document [Guardrails.strict, fiveCap]) := by
  refine ⟨_, rfl, @composePolicyLayers_orderless_iff textTravel noIntText _ _ fareBudgetPolicy rfl ?_⟩
  intro layer hlayer
  rcases List.mem_cons.mp hlayer with rfl | hlayer
  · exact .strict
  · rw [List.mem_singleton.mp hlayer]
    exact constructed_fiveCap

/-- With the NaN first there is no cap, and with it last there is one. -/
theorem composePolicyLayers_order_matters : ∃ document result result',
    parsePaybondPolicyDocumentV1 fareBudgetPolicy = .ok document ∧
      Guardrails.maxSpendUsd .nan = .ok nanCap ∧ Guardrails.maxSpendUsd (.finite 5) = .ok fiveCap ∧
      composePolicyLayers textTravel noIntText document [nanCap, fiveCap] = .ok result ∧
      composePolicyLayers textTravel noIntText document [fiveCap, nanCap] = .ok result' ∧
      result.budgetAmount = some (.float .nan) ∧
      result'.budgetAmount = some (.float (.finite 5)) ∧ result ≠ result' := by
  refine ⟨_, _, _, rfl, rfl, rfl, rfl, rfl, rfl, rfl, fun hsame => ?_⟩
  cases congrArg PaybondPolicyDocumentV1.budgetAmount hsame

end Policy

end PaybondKit
