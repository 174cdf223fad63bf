import PaybondKit.Foundation.MappingOrder
import PaybondKit.Policy.SchemaForm

/-!
# What a policy digest determines

Two policies without floats have one digest exactly when their dictionary forms are the
same up to the order of keys, and that is when the policies are: the order of tools and of
budget keys is all that a digest leaves out.
-/

namespace PaybondKit.Policy

/-! ## Sorted keys -/

theorem canonicalizeItems_eq (items : List PyValue) :
    canonicalizeItems items = items.map canonicalizeJson := by
  induction items with
  | nil => rfl
  | cons item items ih => rw [canonicalizeItems, ih, List.map_cons]

theorem canonicalizeMembers_eq (items : List (String × PyValue)) :
    canonicalizeMembers items = items.map fun item => (item.1, canonicalizeJson item.2) := by
  induction items with
  | nil => rfl
  | cons item items ih => rw [canonicalizeMembers, ih, List.map_cons]

theorem canonicalizeJson_leaf {leaf : PyValue} (hleaf : leaf.isLeaf = true) :
    canonicalizeJson leaf = leaf := by
  cases leaf <;> first | rfl | cases hleaf

/-- `sorted(mapping)`, with the values. -/
def sortMembers (items : List (String × PyValue)) : List (String × PyValue) :=
  items.mergeSort fun first second => decide (first.1 ≤ second.1)

theorem sortMembers_perm (items : List (String × PyValue)) : (sortMembers items).Perm items :=
  List.mergeSort_perm _ _

theorem sortMembers_sorted (items : List (String × PyValue)) :
    (sortMembers items).Pairwise fun first second => first.1 ≤ second.1 := by
  have htrans : ∀ a b c : String × PyValue, decide (a.1 ≤ b.1) = true →
      decide (b.1 ≤ c.1) = true → decide (a.1 ≤ c.1) = true := by
    intro a b c hab hbc
    exact decide_eq_true (String.le_trans (of_decide_eq_true hab) (of_decide_eq_true hbc))
  have htotal : ∀ a b : String × PyValue,
      (decide (a.1 ≤ b.1) || decide (b.1 ≤ a.1)) = true := by
    intro a b
    rcases String.le_total a.1 b.1 with h | h <;> simp [h]
  exact (List.pairwise_mergeSort htrans htotal items).imp of_decide_eq_true

/-- Members with distinct keys are sorted alike exactly when they are the same members. -/
theorem sortMembers_eq_iff {items others : List (String × PyValue)}
    (hnodup : (items.map Prod.fst).Nodup) :
    sortMembers items = sortMembers others ↔ items.Perm others := by
  constructor
  · intro hsorted
    have hperm := (sortMembers_perm items).symm
    rw [hsorted] at hperm
    exact hperm.trans (sortMembers_perm others)
  · intro hperm
    have hall : (sortMembers items).Perm (sortMembers others) :=
      (sortMembers_perm items).trans (hperm.trans (sortMembers_perm others).symm)
    refine hall.eq_of_pairwise ?_ (sortMembers_sorted items) (sortMembers_sorted others)
    intro first second hfirst hsecond hle hge
    have hmem := (sortMembers_perm items).mem_iff.mp hfirst
    have hmem' := hperm.mem_iff.mpr ((sortMembers_perm others).mem_iff.mp hsecond)
    exact List.inj_on_of_nodup_map hnodup hmem hmem' (String.le_antisymm hle hge)

theorem canonicalizeJson_dict (items : List (String × PyValue)) :
    canonicalizeJson (.dict items) =
      .dict (sortMembers (items.map fun item => (item.1, canonicalizeJson item.2))) := by
  rw [canonicalizeJson, canonicalizeMembers_eq, sortMembers]

/-! ## Canonical forms -/

theorem canonicalizeJson_isLeaf (value : PyValue) :
    (canonicalizeJson value).isLeaf = value.isLeaf := by
  cases value <;> rfl

/-- Dicts with distinct keys have one canonical form when they have the same keys and each
member its counterpart. -/
theorem perm_members_iff {α β : Type} {items others : List (String × α)} {f : α → β}
    (hnodup : (items.map Prod.fst).Nodup) :
    (items.map fun item => (item.1, f item.2)).Perm (others.map fun item => (item.1, f item.2)) ↔
      (items.map Prod.fst).Perm (others.map Prod.fst) ∧
        ∀ item ∈ items, ∃ other, (item.1, other) ∈ others ∧ f item.2 = f other := by
  have hfst : ∀ members : List (String × α),
      (members.map fun item => (item.1, f item.2)).map Prod.fst = members.map Prod.fst := by
    intro members
    rw [List.map_map]
    rfl
  constructor
  · intro hperm
    have hkeys := hperm.map Prod.fst
    rw [hfst, hfst] at hkeys
    refine ⟨hkeys, fun item hitem => ?_⟩
    have hmem := hperm.mem_iff.mp (List.mem_map_of_mem hitem)
    obtain ⟨⟨key, other⟩, hother, heq⟩ := List.mem_map.mp hmem
    obtain ⟨rfl, hvalue⟩ := Prod.mk.inj heq
    exact ⟨other, hother, hvalue.symm⟩
  · rintro ⟨hkeys, hmembers⟩
    have hsubset : (items.map fun item => (item.1, f item.2)) ⊆
        others.map fun item => (item.1, f item.2) := by
      intro member hmember
      obtain ⟨item, hitem, rfl⟩ := List.mem_map.mp hmember
      obtain ⟨other, hother, hvalue⟩ := hmembers item hitem
      exact List.mem_map.mpr ⟨(item.1, other), hother, by rw [hvalue]⟩
    have hdistinct : (items.map fun item => (item.1, f item.2)).Nodup := by
      refine List.Nodup.of_map Prod.fst ?_
      rwa [hfst]
    have hlength : others.length ≤ items.length := by
      simpa using hkeys.length_eq.ge
    exact (List.subperm_of_subset hdistinct hsubset).perm_of_length_le (by simpa using hlength)

/-- Lists are mapped alike when their members are, one by one. -/
theorem map_eq_map_iff_forall₂_of {α β : Type} {f : α → β} {related : α → α → Prop}
    {items others : List α}
    (heq : ∀ item ∈ items, ∀ other ∈ others, f item = f other ↔ related item other) :
    items.map f = others.map f ↔ List.Forall₂ related items others := by
  rw [← List.forall₂_eq_eq_eq, List.forall₂_map_left_iff, List.forall₂_map_right_iff,
    List.forall₂_iff_zip, List.forall₂_iff_zip]
  refine and_congr_right fun _ => ?_
  constructor
  · intro hsame item other hmem
    obtain ⟨hitem, hother⟩ := List.of_mem_zip hmem
    exact (heq item hitem other hother).mp (hsame hmem)
  · intro hsame item other hmem
    obtain ⟨hitem, hother⟩ := List.of_mem_zip hmem
    exact (heq item hitem other hother).mpr (hsame hmem)

/-- Two values have one canonical form exactly when they are the same up to key order. -/
theorem canonicalizeJson_eq_iff {value other : PyValue} (hvalue : value.Distinct)
    (hother : other.Distinct) :
    canonicalizeJson value = canonicalizeJson other ↔ value.SameValue other := by
  induction value using PyValue.treeInduction generalizing other with
  | leaf leaf hleaf =>
      rw [canonicalizeJson_leaf hleaf, PyValue.sameValue_leaf hleaf]
      constructor
      · intro heq
        have hisLeaf : other.isLeaf = true := by
          rw [← canonicalizeJson_isLeaf, ← heq, hleaf]
        rw [heq, canonicalizeJson_leaf hisLeaf]
      · rintro rfl
        exact (canonicalizeJson_leaf hleaf).symm
  | list items ih =>
      rw [PyValue.Distinct, PyValue.distinctItems_iff] at hvalue
      rw [PyValue.sameValue_list]
      have hitems : ∀ others : List PyValue, PyValue.Distinct (.list others) →
          (canonicalizeJson (.list items) = canonicalizeJson (.list others) ↔
            List.Forall₂ PyValue.SameValue items others) := by
        intro others hothers
        rw [PyValue.Distinct, PyValue.distinctItems_iff] at hothers
        rw [canonicalizeJson, canonicalizeJson, canonicalizeItems_eq, canonicalizeItems_eq,
          PyValue.list.injEq]
        exact map_eq_map_iff_forall₂_of fun item hitem other hmem =>
          ih item hitem (hvalue item hitem) (hothers other hmem)
      constructor
      · intro heq
        cases other with
        | list others => exact ⟨others, rfl, (hitems others hother).mp heq⟩
        | _ => cases heq
      · rintro ⟨others, rfl, hsame⟩
        exact (hitems others hother).mpr hsame
  | dict items ih =>
      rw [PyValue.distinct_dict] at hvalue
      obtain ⟨hnodup, hvalues⟩ := hvalue
      have hitems : ∀ others : List (String × PyValue), PyValue.Distinct (.dict others) →
          (canonicalizeJson (.dict items) = canonicalizeJson (.dict others) ↔
            PyValue.SameValue (.dict items) (.dict others)) := by
        intro others hothers
        rw [PyValue.distinct_dict] at hothers
        have hkeys : ((items.map fun item => (item.1, canonicalizeJson item.2)).map
            Prod.fst).Nodup := by
          rw [List.map_map]
          exact hnodup
        rw [canonicalizeJson_dict, canonicalizeJson_dict, PyValue.dict.injEq,
          sortMembers_eq_iff hkeys, perm_members_iff hnodup, PyValue.sameValue_dict]
        refine and_congr_right fun _ => forall₂_congr fun item hitem =>
          exists_congr fun other => and_congr_right fun hmem => ?_
        exact ih item hitem (hvalues item hitem) (hothers.2 _ hmem)
      constructor
      · intro heq
        cases other with
        | dict others => exact (hitems others hother).mp heq
        | _ => cases heq
      · intro hsame
        cases other with
        | dict others => exact (hitems others hother).mpr hsame
        | _ => simp [PyValue.SameValue] at hsame

theorem canonicalizeJson_integral {value : PyValue} (hvalue : value.Integral) :
    (canonicalizeJson value).Integral := by
  induction value using PyValue.treeInduction with
  | leaf leaf hleaf => rwa [canonicalizeJson_leaf hleaf]
  | list items ih =>
      rw [PyValue.Integral, PyValue.integralItems_iff] at hvalue
      rw [canonicalizeJson, canonicalizeItems_eq, PyValue.Integral, PyValue.integralItems_iff]
      intro canonical hcanonical
      obtain ⟨item, hitem, rfl⟩ := List.mem_map.mp hcanonical
      exact ih item hitem (hvalue item hitem)
  | dict items ih =>
      rw [PyValue.Integral, PyValue.integralMembers_iff] at hvalue
      rw [canonicalizeJson_dict, PyValue.Integral, PyValue.integralMembers_iff]
      intro canonical hcanonical
      obtain ⟨item, hitem, rfl⟩ := List.mem_map.mp ((sortMembers_perm _).mem_iff.mp hcanonical)
      exact ih item hitem (hvalue item hitem)

/-! ## Digests -/

theorem readable_asciiCompactStyle : Json.Readable asciiCompactStyle :=
  readable_escapeAscii rfl ⟨[], rfl⟩

/-- The bytes that are hashed. -/
def canonicalText (floatText : PyFloat → JsonNumber) (document : PaybondPolicyDocumentV1) :
    ByteArray :=
  jsonDumpsBytes asciiCompactStyle
    ((canonicalizeJson (policyDocumentToDict document)).toJson floatText)

/-- Where the hashed bytes do not collide, the digests of two documents are equal exactly when
their dictionary forms are the same up to the order of keys. -/
theorem canonicalPolicyDocumentDigest_eq_iff {sha256Hex : ByteArray → String}
    {floatText : PyFloat → JsonNumber} {document other : PaybondPolicyDocumentV1}
    (hcollision : sha256Hex (canonicalText floatText document) =
      sha256Hex (canonicalText floatText other) →
        canonicalText floatText document = canonicalText floatText other)
    (hdistinct : (policyDocumentToDict document).Distinct)
    (hdistinct' : (policyDocumentToDict other).Distinct)
    (hintegral : (policyDocumentToDict document).Integral)
    (hintegral' : (policyDocumentToDict other).Integral) :
    canonicalPolicyDocumentDigest sha256Hex floatText document =
        canonicalPolicyDocumentDigest sha256Hex floatText other ↔
      (policyDocumentToDict document).SameValue (policyDocumentToDict other) := by
  rw [← canonicalizeJson_eq_iff hdistinct hdistinct', canonicalPolicyDocumentDigest,
    canonicalPolicyDocumentDigest]
  constructor
  · intro hdigest
    have hbytes := hcollision ((String.append_right_inj _).mp hdigest)
    have hjson := Json.print_injective readable_asciiCompactStyle
      (print_eq_of_jsonDumpsBytes hbytes)
    exact PyValue.toJson_injective (canonicalizeJson_integral hintegral)
      (canonicalizeJson_integral hintegral') hjson
  · intro hcanonical
    rw [hcanonical]

/-! ## Documents up to order -/

/-- Budgets equal but for the order of keys. -/
def SameBudget (budget other : OrderedDict String PyValue) : Prop :=
  PyValue.SameValue (.dict budget.items) (.dict other.items)

structure SameIntent (intent other : PaybondPolicyIntentSection) : Prop where
  policy_binding : intent.policyBinding = other.policyBinding
  budget : Option.Rel SameBudget intent.budget other.budget
  allowed_tools : intent.allowedTools = other.allowedTools

/-- Documents equal but for the order of tools and of budget keys. -/
structure PaybondPolicyDocumentV1.SameUpToOrder (document other : PaybondPolicyDocumentV1) :
    Prop where
  name : document.name = other.name
  default_deny : document.defaultDeny = other.defaultDeny
  tools : document.tools.items.Perm other.tools.items
  intent : Option.Rel SameIntent document.intent other.intent
  adapter : document.adapter = other.adapter

section Sections

open PyValue (SameValue SameField sameValue_fields sameValue_leaf)

variable {α : Type}

/-- A field whose value is printed so that it can be told apart. -/
theorem rel_map_iff {print : α → PyValue} {related : α → α → Prop}
    (hprint : ∀ value other, SameValue (print value) (print other) ↔ related value other)
    {value other : Option α} :
    Option.Rel SameValue (value.map print) (other.map print) ↔ Option.Rel related value other := by
  cases value <;> cases other <;> simp [hprint]

theorem rel_eq_iff {value other : Option α} : Option.Rel Eq value other ↔ value = other := by
  cases value <;> cases other <;> simp

theorem sameValue_bool (value other : Bool) : SameValue (.bool value) (.bool other) ↔
    value = other := by
  rw [sameValue_leaf rfl, PyValue.bool.injEq, eq_comm]

theorem sameValue_int (value other : Int) : SameValue (.int value) (.int other) ↔
    value = other := by
  rw [sameValue_leaf rfl, PyValue.int.injEq, eq_comm]

theorem sameValue_str (value other : String) : SameValue (.str value) (.str other) ↔
    value = other := by
  rw [sameValue_leaf rfl, PyValue.str.injEq, eq_comm]

theorem sameValue_strings (items others : List String) :
    SameValue (.list (items.map .str)) (.list (others.map .str)) ↔ items = others :=
  PyValue.sameValue_leaves (fun _ _ => PyValue.str.inj) fun _ => rfl

theorem sameValue_toolEntry (entry other : PaybondPolicyToolEntry) :
    SameValue (.dict entry.payload.items) (.dict other.payload.items) ↔ entry = other := by
  have hkeys : entry.payload.entries.map Prod.fst = other.payload.entries.map Prod.fst := rfl
  rw [sameValue_fields hkeys]
  simp only [PaybondPolicyToolEntry.payload, List.forall₂_cons, List.forall₂_nil_left_iff,
    SameField, true_and, and_true, Option.rel_some_some, rel_map_iff sameValue_int,
    rel_map_iff sameValue_str, rel_eq_iff, sameValue_bool]
  cases entry
  cases other
  simp only [PaybondPolicyToolEntry.mk.injEq]

theorem sameValue_policyBinding (binding other : PaybondPolicyBinding) :
    SameValue (.dict binding.payload.items) (.dict other.payload.items) ↔ binding = other := by
  have hkeys : binding.payload.entries.map Prod.fst = other.payload.entries.map Prod.fst := rfl
  rw [sameValue_fields hkeys]
  simp only [PaybondPolicyBinding.payload, List.forall₂_cons, List.forall₂_nil_left_iff,
    SameField, true_and, and_true, Option.rel_some_some, rel_map_iff sameValue_int,
    rel_map_iff sameValue_str, rel_eq_iff, sameValue_str]
  cases binding
  cases other
  simp only [PaybondPolicyBinding.mk.injEq]

/-- An empty allowlist is left out, and no other list is printed so. -/
theorem sameValue_allowedTools (allowedTools other : List String) :
    Option.Rel SameValue
        (if allowedTools = [] then none else some (.list (allowedTools.map .str)))
        (if other = [] then none else some (.list (other.map .str))) ↔
      allowedTools = other := by
  by_cases hempty : allowedTools = [] <;> by_cases hempty' : other = []
  · simp [hempty, hempty']
  · simp [hempty, hempty', Ne.symm hempty']
  · simp [hempty, hempty']
  · simp [hempty, hempty', sameValue_strings]

theorem sameValue_intent (intent other : PaybondPolicyIntentSection) :
    SameValue (.dict intent.payload.items) (.dict other.payload.items) ↔
      SameIntent intent other := by
  have hbudget : ∀ budget other : OrderedDict String PyValue,
      SameValue (.dict budget.items) (.dict other.items) ↔ SameBudget budget other :=
    fun _ _ => Iff.rfl
  have hkeys : intent.payload.entries.map Prod.fst = other.payload.entries.map Prod.fst := rfl
  rw [sameValue_fields hkeys]
  simp only [PaybondPolicyIntentSection.payload, List.forall₂_cons, List.forall₂_nil_left_iff,
    SameField, true_and, and_true, rel_map_iff sameValue_policyBinding, rel_map_iff hbudget,
    rel_eq_iff, sameValue_allowedTools]
  constructor
  · rintro ⟨hbinding, hbudget, hallowed⟩
    exact ⟨hbinding, hbudget, hallowed⟩
  · rintro ⟨hbinding, hbudget, hallowed⟩
    exact ⟨hbinding, hbudget, hallowed⟩

theorem sameValue_tools (tools other : OrderedDict String PaybondPolicyToolEntry) :
    SameValue (.dict (tools.items.map fun tool => (tool.1, .dict tool.2.payload.items)))
        (.dict (other.items.map fun tool => (tool.1, .dict tool.2.payload.items))) ↔
      tools.items.Perm other.items := by
  have hperm := @perm_members_iff _ _ tools.items other.items id tools.nodup
  simp only [id_eq, Prod.mk.eta, List.map_id'] at hperm
  rw [hperm, PyValue.sameValue_dict, List.map_map, List.map_map]
  refine and_congr Iff.rfl ?_
  rw [List.forall_mem_map]
  refine forall₂_congr fun item hitem => ?_
  constructor
  · rintro ⟨value, hmem, hsame⟩
    obtain ⟨tool, htool, heq⟩ := List.mem_map.mp hmem
    obtain ⟨hname, rfl⟩ := Prod.mk.inj heq
    exact ⟨tool.2, hname ▸ htool, (sameValue_toolEntry _ _).mp hsame⟩
  · rintro ⟨entry, hmem, rfl⟩
    exact ⟨_, List.mem_map_of_mem hmem, (sameValue_toolEntry _ _).mpr rfl⟩

/-- A section that sets its one field is determined by it. -/
theorem adapter_eq_of_deny {adapter other : Option PaybondPolicyAdapterSection}
    (hadapter : ∀ flags ∈ adapter, flags.denyProviderExecutedTools.isSome)
    (hother : ∀ flags ∈ other, flags.denyProviderExecutedTools.isSome)
    (hdeny : adapter.bind (·.denyProviderExecutedTools) =
      other.bind (·.denyProviderExecutedTools)) : adapter = other := by
  have hnone : ∀ {first second : Option PaybondPolicyAdapterSection},
      (∀ flags ∈ second, flags.denyProviderExecutedTools.isSome) → first = none →
        first.bind (·.denyProviderExecutedTools) = second.bind (·.denyProviderExecutedTools) →
          second = none := by
    rintro first (_ | second) hsecond rfl hbind
    · rfl
    · have hsome := hsecond second rfl
      rw [show second.denyProviderExecutedTools = none from hbind.symm] at hsome
      cases hsome
  cases adapter with
  | none => exact (hnone hother rfl hdeny).symm
  | some adapter =>
      cases other with
      | none => exact hnone hadapter rfl hdeny.symm
      | some other =>
          obtain ⟨deny⟩ := adapter
          obtain ⟨deny'⟩ := other
          obtain rfl : deny = deny' := hdeny
          rfl

/-- The dictionary forms of valid documents are the same up to key order exactly when the
documents are the same up to order. -/
theorem sameValue_policyDocumentToDict {document other : PaybondPolicyDocumentV1}
    (hadapter : ∀ adapter ∈ document.adapter, adapter.denyProviderExecutedTools.isSome)
    (hadapter' : ∀ adapter ∈ other.adapter, adapter.denyProviderExecutedTools.isSome) :
    SameValue (policyDocumentToDict document) (policyDocumentToDict other) ↔
      document.SameUpToOrder other := by
  have hkeys : document.payload.entries.map Prod.fst = other.payload.entries.map Prod.fst := rfl
  have hadapters : Option.Rel SameValue
      ((document.adapter.bind (·.denyProviderExecutedTools)).map fun deny =>
        .dict [("deny_provider_executed_tools", .bool deny)])
      ((other.adapter.bind (·.denyProviderExecutedTools)).map fun deny =>
        .dict [("deny_provider_executed_tools", .bool deny)]) ↔
      document.adapter = other.adapter := by
    have hprint : ∀ value other : Bool,
        SameValue (.dict [("deny_provider_executed_tools", .bool value)])
          (.dict [("deny_provider_executed_tools", .bool other)]) ↔ value = other := by
      intro value other
      simp [PyValue.sameValue_dict, sameValue_bool]
    rw [rel_map_iff hprint, rel_eq_iff]
    exact ⟨adapter_eq_of_deny hadapter hadapter', fun hsame => by rw [hsame]⟩
  rw [policyDocumentToDict, policyDocumentToDict, sameValue_fields hkeys]
  simp only [PaybondPolicyDocumentV1.payload, List.forall₂_cons, List.forall₂_nil_left_iff,
    SameField, true_and, and_true, Option.rel_some_some, rel_map_iff sameValue_intent,
    sameValue_str, sameValue_bool, sameValue_int, sameValue_tools, hadapters]
  constructor
  · rintro ⟨hname, hdeny, htools, hintent, hadapter⟩
    exact ⟨hname, hdeny, htools, hintent, hadapter⟩
  · rintro ⟨hname, hdeny, htools, hintent, hadapter⟩
    exact ⟨hname, hdeny, htools, hintent, hadapter⟩

end Sections

end PaybondKit.Policy
