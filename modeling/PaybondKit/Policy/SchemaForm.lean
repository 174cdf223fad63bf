import PaybondKit.Policy.Digest
import PaybondKit.Policy.SchemaValid

/-!
# The documents of the schema

What the parser demands of a flat document, said of the document itself, and that the
parser reads the dictionary form of such a document back.
-/

namespace PaybondKit.Policy

/-- `intent.allowed_tools`, or nothing. -/
def PaybondPolicyDocumentV1.allowedTools (document : PaybondPolicyDocumentV1) : List String :=
  (document.intent.map (·.allowedTools)).getD []

/-! ## What the schema admits -/

structure PaybondPolicyToolEntry.SchemaValid (entry : PaybondPolicyToolEntry) : Prop where
  max_spend_cents : ∀ cap ∈ entry.maxSpendCents, 0 ≤ cap
  spend_from_args : ∀ path ∈ entry.spendFromArgs, jsonPathRe path = true
  spend_exclusive : entry.maxSpendCents = none ∨ entry.spendFromArgs = none
  evidence_preset : ∀ preset ∈ entry.evidencePreset, identifierRe preset = true
  evidence_required : entry.sideEffecting = true → entry.evidencePreset.isSome
  vendor_pack : ∀ vendorPack ∈ entry.vendorPack, identifierRe vendorPack = true
  operation : ∀ operation ∈ entry.operation, operation ≠ "" ∧ operation.length ≤ 128

structure PaybondPolicyBinding.SchemaValid (binding : PaybondPolicyBinding) : Prop where
  template_id : identifierRe binding.templateId = true
  version_seq : ∀ versionSeq ∈ binding.versionSeq, 1 ≤ versionSeq
  head_digest : ∀ headDigest ∈ binding.headDigest, headDigestRe headDigest = true

structure BudgetSchemaValid (budget : OrderedDict String PyValue) : Prop where
  currency : ∃ currency, budget.get? "currency" = some (.str currency) ∧
    currencyRe currency = true
  max_spend_usd : ∀ amount, budget.get? "max_spend_usd" = some amount →
    ∃ number, amount.number? = some number ∧ ¬number < .finite 0

structure AllowedToolsSchemaValid (allowedTools : List String) : Prop where
  nodup : allowedTools.Nodup
  names : ∀ toolName ∈ allowedTools, toolNameRe toolName = true

structure PaybondPolicyIntentSection.SchemaValid (intent : PaybondPolicyIntentSection) :
    Prop where
  policy_binding : ∀ binding ∈ intent.policyBinding, binding.SchemaValid
  budget : ∀ budget ∈ intent.budget, BudgetSchemaValid budget
  allowed_tools : AllowedToolsSchemaValid intent.allowedTools

structure ToolsSchemaValid (tools : OrderedDict String PaybondPolicyToolEntry) : Prop where
  names : ∀ item ∈ tools.items, toolNameRe item.1 = true
  entries : ∀ item ∈ tools.items, item.2.SchemaValid

structure PaybondPolicyDocumentV1.SchemaValid (document : PaybondPolicyDocumentV1) : Prop where
  name : policyNameRe document.name = true
  tools_nonempty : document.tools.items ≠ []
  tools : ToolsSchemaValid document.tools
  intent : ∀ intent ∈ document.intent, intent.SchemaValid
  adapter : ∀ adapter ∈ document.adapter, adapter.denyProviderExecutedTools.isSome

/-! ## Fields -/

section Fields

variable {α : Type}

/-- `parse` reads back what `print` makes of a valid value, and accepts nothing else. -/
structure Reads (parse : PyValue → String → Parsed α) (print : α → PyValue)
    (valid : α → Prop) : Prop where
  reads : ∀ value path, valid value → parse (print value) path = .ok value
  guarantees : Guarantees parse valid

theorem reads_bool : Reads expectBool .bool fun _ => True where
  reads _ _ _ := rfl
  guarantees _ _ _ _ := trivial

theorem reads_int (minimum : Int) :
    Reads (fun raw path => expectInt raw path minimum) .int (minimum ≤ ·) where
  reads value path hvalid := by
    have hnot : ¬value < minimum := not_lt.mpr hvalid
    simp [expectInt, hnot]
  guarantees raw path value hvalue := by
    change expectInt raw path minimum = .ok value at hvalue
    unfold expectInt at hvalue
    split at hvalue
    · obtain ⟨hnot, hvalue⟩ := except_guard_eq_ok.mp hvalue
      cases hvalue
      exact not_lt.mp hnot
    · cases hvalue

theorem expectStr_str {value : String} (hvalue : value ≠ "") (path : String) :
    expectStr (.str value) path = .ok value := by
  unfold expectStr
  split
  next hempty => exact absurd (PyValue.str.inj hempty) hvalue
  next hsame => rw [PyValue.str.inj hsame]
  next hstr => exact absurd rfl (hstr value)

theorem expectStr_eq_ok {raw : PyValue} {path value : String}
    (hvalue : expectStr raw path = .ok value) : raw = .str value ∧ value ≠ "" := by
  unfold expectStr at hvalue
  split at hvalue
  · cases hvalue
  next hempty =>
    cases hvalue
    exact ⟨rfl, fun h => hempty (by rw [h])⟩
  · cases hvalue

theorem expectPattern_eq_ok {pattern : String → Bool} {expected path value : String}
    {raw : PyValue} (hvalue : expectPattern pattern expected raw path = .ok value) :
    raw = .str value ∧ value ≠ "" ∧ pattern value = true := by
  obtain ⟨parsed, hparsed, hresult⟩ := except_bind_eq_ok.mp hvalue
  obtain ⟨rfl, hne⟩ := expectStr_eq_ok hparsed
  split at hresult
  next hmatch =>
    cases hresult
    exact ⟨rfl, hne, hmatch⟩
  next => cases hresult

theorem expectPattern_str {pattern : String → Bool} {expected value : String}
    (hempty : pattern "" = false) (hmatch : pattern value = true) (path : String) :
    expectPattern pattern expected (.str value) path = .ok value := by
  have hvalue : value ≠ "" := by
    rintro rfl
    rw [hempty] at hmatch
    cases hmatch
  rw [expectPattern, expectStr_str hvalue, except_ok_bind, if_pos hmatch]

/-- The empty string matches none of the patterns. -/
theorem reads_pattern {pattern : String → Bool} (expected : String)
    (hempty : pattern "" = false) :
    Reads (expectPattern pattern expected) .str (pattern · = true) where
  reads _ path hvalid := expectPattern_str hempty hvalid path
  guarantees _ _ _ hvalue := (expectPattern_eq_ok hvalue).2.2

theorem reads_shortStr (most : ℕ) :
    Reads (expectShortStr most) .str fun value => value ≠ "" ∧ value.length ≤ most where
  reads value path hvalid := by
    rw [expectShortStr, expectStr_str hvalid.1, except_ok_bind, if_pos hvalid.2]
  guarantees raw path value hvalue := by
    obtain ⟨parsed, hparsed, hresult⟩ := except_bind_eq_ok.mp hvalue
    obtain ⟨-, hne⟩ := expectStr_eq_ok hparsed
    split at hresult
    next hlength =>
      cases hresult
      exact ⟨hne, hlength⟩
    next => cases hresult

variable {parse : PyValue → String → Parsed α} {print : α → PyValue} {valid : α → Prop}

/-- A field that may be left out. -/
theorem Reads.optionalAt (hreads : Reads parse print valid)
    {mapping : OrderedDict String PyValue} {field path : String} {value : Option α}
    (hget : mapping.get? field = value.map print) (hvalid : ∀ v ∈ value, valid v) :
    optionalAt mapping field path parse = .ok value := by
  rw [Policy.optionalAt, hget]
  cases value with
  | none => rfl
  | some value =>
      rw [Option.map_some]
      dsimp only
      rw [hreads.reads value path (hvalid value rfl)]
      rfl

theorem expectMapping_payload (fields : PayloadFields) (path : String) :
    expectMapping (.dict fields.items) path = .ok fields.mapping := rfl

theorem rejectUnknown_mapping {fields : PayloadFields} {known : List String} {path : String}
    (hknown : fields.entries.map Prod.fst ⊆ known) :
    rejectUnknown fields.mapping known path = .ok () := by
  have hkeys : fields.mapping.keys.filter (· ∉ known) = [] := by
    rw [List.filter_eq_nil_iff]
    intro key hkey hunknown
    have hitems := (OrderedDict.mem_keys_ofList _ key).mp hkey
    have hentries := (OrderedDict.presentItems_sublist fields.entries).subset hitems
    exact of_decide_eq_true hunknown (hknown hentries)
  rw [rejectUnknown, hkeys]
  rfl

end Fields

/-! ## Sections -/

theorem reads_toolEntry :
    Reads parseToolEntry (.dict ·.payload.items) PaybondPolicyToolEntry.SchemaValid where
  reads entry path hvalid := by
    have hknown : rejectUnknown entry.payload.mapping toolEntryFields path = .ok () :=
      rejectUnknown_mapping (by simp [PaybondPolicyToolEntry.payload, toolEntryFields])
    have hside : entry.payload.mapping.getValue "side_effecting" = .bool entry.sideEffecting := by
      simp [OrderedDict.getValue, OrderedDict.Fields.get?_mapping, PaybondPolicyToolEntry.payload]
    have hcap : optionalField entry.payload.mapping path "max_spend_cents" expectCents =
        .ok entry.maxSpendCents :=
      (reads_int 0).optionalAt
        (by simp [OrderedDict.Fields.get?_mapping, PaybondPolicyToolEntry.payload])
        hvalid.max_spend_cents
    have hargs : optionalField entry.payload.mapping path "spend_from_args" expectJsonPath =
        .ok entry.spendFromArgs :=
      (reads_pattern _ (by decide)).optionalAt
        (by simp [OrderedDict.Fields.get?_mapping, PaybondPolicyToolEntry.payload])
        hvalid.spend_from_args
    have hpreset : optionalField entry.payload.mapping path "evidence_preset" expectIdentifier =
        .ok entry.evidencePreset :=
      (reads_pattern _ (by decide)).optionalAt
        (by simp [OrderedDict.Fields.get?_mapping, PaybondPolicyToolEntry.payload])
        hvalid.evidence_preset
    have hpack : optionalField entry.payload.mapping path "vendor_pack" expectIdentifier =
        .ok entry.vendorPack :=
      (reads_pattern _ (by decide)).optionalAt
        (by simp [OrderedDict.Fields.get?_mapping, PaybondPolicyToolEntry.payload])
        hvalid.vendor_pack
    have hoperation : optionalField entry.payload.mapping path "operation" (expectShortStr 128) =
        .ok entry.operation :=
      (reads_shortStr 128).optionalAt
        (by simp [OrderedDict.Fields.get?_mapping, PaybondPolicyToolEntry.payload])
        hvalid.operation
    have hconflict : rejectSpendConflict entry.maxSpendCents entry.spendFromArgs path =
        .ok () := by
      rcases hvalid.spend_exclusive with hnone | hnone <;> simp [rejectSpendConflict, hnone]
    have hevidence : requireEvidencePreset entry.sideEffecting entry.evidencePreset path =
        .ok () := by
      rw [requireEvidencePreset, if_neg]
      intro hmissing
      simp only [Bool.and_eq_true, Option.isNone_iff_eq_none] at hmissing
      simpa [hmissing.2] using hvalid.evidence_required hmissing.1
    rw [parseToolEntry, expectMapping_payload, except_ok_bind, hknown, except_ok_bind, hside,
      expectBool, except_ok_bind, hcap, except_ok_bind, hargs, except_ok_bind, hconflict,
      except_ok_bind, hpreset, except_ok_bind, hevidence, except_ok_bind, hpack, except_ok_bind,
      hoperation, except_ok_bind]
    rfl
  guarantees raw path entry hentry := by
    have hwellFormed := parseToolEntry_guarantees raw path entry hentry
    simp only [parseToolEntry, except_bind_eq_ok, except_pure_eq_ok] at hentry
    obtain ⟨mapping, -, _, -, sideEffecting, -, cap, hcap, argsPath, hargs, _, -, preset, hpreset,
      _, -, vendorPack, hpack, operation, hoperation, rfl⟩ := hentry
    exact
      { max_spend_cents := optionalAt_guarantees (reads_int 0).guarantees hcap
        spend_from_args := optionalAt_guarantees (reads_pattern _ (by decide)).guarantees hargs
        spend_exclusive := hwellFormed.spend_exclusive
        evidence_preset := optionalAt_guarantees (reads_pattern _ (by decide)).guarantees hpreset
        evidence_required := hwellFormed.evidence_preset
        vendor_pack := optionalAt_guarantees (reads_pattern _ (by decide)).guarantees hpack
        operation := optionalAt_guarantees (reads_shortStr 128).guarantees hoperation }

theorem reads_policyBinding :
    Reads parsePolicyBinding (.dict ·.payload.items) PaybondPolicyBinding.SchemaValid where
  reads binding path hvalid := by
    have hknown : rejectUnknown binding.payload.mapping
        ["template_id", "version_seq", "head_digest"] path = .ok () :=
      rejectUnknown_mapping (by simp [PaybondPolicyBinding.payload])
    have htemplate : expectIdentifier (binding.payload.mapping.getValue "template_id")
        s!"{path}.template_id" = .ok binding.templateId := by
      rw [OrderedDict.getValue, OrderedDict.Fields.get?_mapping]
      exact expectPattern_str (by decide) hvalid.template_id _
    have hversion : optionalField binding.payload.mapping path "version_seq"
        (fun raw path => expectInt raw path 1) = .ok binding.versionSeq :=
      (reads_int 1).optionalAt
        (by simp [OrderedDict.Fields.get?_mapping, PaybondPolicyBinding.payload])
        hvalid.version_seq
    have hhead : optionalField binding.payload.mapping path "head_digest" expectHeadDigest =
        .ok binding.headDigest :=
      (reads_pattern _ (by decide)).optionalAt
        (by simp [OrderedDict.Fields.get?_mapping, PaybondPolicyBinding.payload])
        hvalid.head_digest
    rw [parsePolicyBinding, expectMapping_payload, except_ok_bind, hknown, except_ok_bind,
      htemplate, except_ok_bind, hversion, except_ok_bind, hhead, except_ok_bind]
    rfl
  guarantees raw path binding hbinding := by
    simp only [parsePolicyBinding, except_bind_eq_ok, except_pure_eq_ok] at hbinding
    obtain ⟨mapping, -, _, -, templateId, htemplate, versionSeq, hversion, headDigest, hhead,
      rfl⟩ := hbinding
    exact
      { template_id := (expectPattern_eq_ok htemplate).2.2
        version_seq := optionalAt_guarantees (reads_int 1).guarantees hversion
        head_digest := optionalAt_guarantees (reads_pattern _ (by decide)).guarantees hhead }

/-- A budget is kept as it was given, extra keys and all. -/
theorem reads_budget : Reads parseBudget (.dict ·.items) BudgetSchemaValid where
  reads budget path hvalid := by
    obtain ⟨currency, hcurrency, hmatch⟩ := hvalid.currency
    have hread : expectPattern currencyRe "must be a lowercase ISO-4217 code"
        (budget.getValue "currency") s!"{path}.currency" = .ok currency := by
      rw [OrderedDict.getValue, hcurrency]
      exact expectPattern_str (by decide) hmatch _
    have hmapping : expectMapping (.dict budget.items) path = .ok budget := by
      rw [expectMapping, OrderedDict.ofList_items]
    rw [parseBudget, hmapping, except_ok_bind, hread, except_ok_bind]
    cases hamount : budget.get? "max_spend_usd" with
    | none => rfl
    | some amount =>
        obtain ⟨number, hnumber, hnonneg⟩ := hvalid.max_spend_usd amount hamount
        simp [hnumber, hnonneg]
  guarantees raw path budget hbudget := by
    have hwellFormed := parseBudget_guarantees raw path budget hbudget
    refine ⟨?_, hwellFormed.max_spend_usd⟩
    simp only [parseBudget, except_bind_eq_ok] at hbudget
    obtain ⟨mapping, -, currency, hcurrency, hrest⟩ := hbudget
    obtain rfl : mapping = budget := by
      split at hrest
      · exact Except.ok.inj hrest
      · split at hrest
        · cases hrest
        · exact Except.ok.inj (except_guard_eq_ok.mp hrest).2
    obtain ⟨hraw, -, hmatch⟩ := expectPattern_eq_ok hcurrency
    refine ⟨currency, ?_, hmatch⟩
    cases hget : mapping.get? "currency" with
    | none =>
        rw [OrderedDict.getValue, hget] at hraw
        cases hraw
    | some value =>
        rw [OrderedDict.getValue, hget] at hraw
        exact congrArg some hraw

theorem parseAllowedToolsFrom_str {path : String} {index : ℕ} {seen names : List String}
    (hnodup : (seen ++ names).Nodup) (hnames : ∀ name ∈ names, toolNameRe name = true) :
    parseAllowedToolsFrom path index seen (names.map .str) = .ok (seen ++ names) := by
  induction names generalizing index seen with
  | nil => simp [parseAllowedToolsFrom]
  | cons name names ih =>
      have hread : expectPattern toolNameRe "must be a lowercase tool name" (.str name)
          s!"{path}.allowed_tools[{index}]" = .ok name :=
        expectPattern_str (by decide) (hnames name List.mem_cons_self) _
      have hfresh : name ∉ seen := by
        rw [List.nodup_middle] at hnodup
        intro hmem
        exact (List.nodup_cons.mp hnodup).1 (List.mem_append_left _ hmem)
      rw [List.map_cons, parseAllowedToolsFrom, hread, except_ok_bind, if_neg hfresh, ih,
        List.append_assoc, List.singleton_append]
      · rwa [List.append_assoc, List.singleton_append]
      · exact fun other hother => hnames other (List.mem_cons_of_mem _ hother)

theorem parseAllowedToolsFrom_guarantees {path : String} {index : ℕ} {seen names : List String}
    {items : List PyValue} (hseen : AllowedToolsSchemaValid seen)
    (hloop : parseAllowedToolsFrom path index seen items = .ok names) :
    AllowedToolsSchemaValid names := by
  induction items generalizing index seen with
  | nil =>
      cases hloop
      exact hseen
  | cons item items ih =>
      obtain ⟨name, hname, hrest⟩ := except_bind_eq_ok.mp hloop
      obtain ⟨hfresh, hrest⟩ := except_guard_eq_ok.mp hrest
      refine ih ⟨?_, ?_⟩ hrest
      · rw [List.nodup_append_comm]
        exact List.nodup_cons.mpr ⟨hfresh, hseen.nodup⟩
      · intro other hother
        rcases List.mem_append.mp hother with hold | hnew
        · exact hseen.names other hold
        · rw [List.mem_singleton.mp hnew]
          exact (expectPattern_eq_ok hname).2.2

theorem parseAllowedTools_guarantees {intent : OrderedDict String PyValue} {path : String}
    {names : List String} (hnames : parseAllowedTools intent path = .ok names) :
    AllowedToolsSchemaValid names := by
  have hempty : AllowedToolsSchemaValid [] := ⟨List.nodup_nil, fun _ h => nomatch h⟩
  unfold parseAllowedTools at hnames
  split at hnames
  · cases hnames
    exact hempty
  · exact parseAllowedToolsFrom_guarantees hempty hnames
  · cases hnames

theorem reads_intent :
    Reads parseIntent (.dict ·.payload.items) PaybondPolicyIntentSection.SchemaValid where
  reads intent path hvalid := by
    have hknown : rejectUnknown intent.payload.mapping intentFields path = .ok () :=
      rejectUnknown_mapping (by simp [PaybondPolicyIntentSection.payload, intentFields])
    have hbinding : optionalField intent.payload.mapping path "policy_binding"
        parsePolicyBinding = .ok intent.policyBinding :=
      reads_policyBinding.optionalAt
        (by simp [OrderedDict.Fields.get?_mapping, PaybondPolicyIntentSection.payload])
        hvalid.policy_binding
    have hbudget : optionalField intent.payload.mapping path "budget" parseBudget =
        .ok intent.budget :=
      reads_budget.optionalAt
        (by simp [OrderedDict.Fields.get?_mapping, PaybondPolicyIntentSection.payload])
        hvalid.budget
    have hallowed : parseAllowedTools intent.payload.mapping path = .ok intent.allowedTools := by
      have hget : intent.payload.mapping.get? "allowed_tools" =
          if intent.allowedTools = [] then none
          else some (.list (intent.allowedTools.map .str)) := by
        simp [OrderedDict.Fields.get?_mapping, PaybondPolicyIntentSection.payload]
      rw [parseAllowedTools, hget]
      by_cases hempty : intent.allowedTools = []
      · rw [if_pos hempty, hempty]
      · rw [if_neg hempty]
        exact parseAllowedToolsFrom_str hvalid.allowed_tools.nodup hvalid.allowed_tools.names
    rw [parseIntent, expectMapping_payload, except_ok_bind, hknown, except_ok_bind, hbinding,
      except_ok_bind, hbudget, except_ok_bind, hallowed, except_ok_bind]
    rfl
  guarantees raw path intent hintent := by
    simp only [parseIntent, except_bind_eq_ok, except_pure_eq_ok] at hintent
    obtain ⟨mapping, -, _, -, binding, hbinding, budget, hbudget, allowedTools, hallowed, rfl⟩ :=
      hintent
    exact
      { policy_binding := optionalAt_guarantees reads_policyBinding.guarantees hbinding
        budget := optionalAt_guarantees reads_budget.guarantees hbudget
        allowed_tools := parseAllowedTools_guarantees hallowed }

/-! ## Documents -/

theorem parseToolItems_payload {path : String}
    {items : List (String × PaybondPolicyToolEntry)}
    {tools : OrderedDict String PaybondPolicyToolEntry}
    (hnames : ∀ item ∈ items, toolNameRe item.1 = true)
    (hentries : ∀ item ∈ items, item.2.SchemaValid) :
    (items.map fun item => (item.1, PyValue.dict item.2.payload.items)).foldlM
        (fun tools (item : String × PyValue) =>
          if toolNameRe item.1 then
            tools.set item.1 <$> parseToolEntry item.2 s!"{path}.{item.1}"
          else
            .error { message := s!"{path} key \"{item.1}\" must be a lowercase tool name", path })
        tools =
      .ok (items.foldl (fun tools item => tools.set item.1 item.2) tools) := by
  induction items generalizing tools with
  | nil => rfl
  | cons item items ih =>
      have hread := reads_toolEntry.reads item.2 s!"{path}.{item.1}"
        (hentries item List.mem_cons_self)
      rw [List.map_cons, List.foldlM_cons, if_pos (hnames item List.mem_cons_self), hread]
      exact ih (fun other hother => hnames other (List.mem_cons_of_mem _ hother))
        fun other hother => hentries other (List.mem_cons_of_mem _ hother)

theorem parseToolsMap_payload {tools : OrderedDict String PaybondPolicyToolEntry}
    {path : String} {minEntries : ℕ} (hvalid : ToolsSchemaValid tools)
    (hmost : minEntries ≤ tools.items.length) :
    parseToolsMap (.dict (tools.items.map fun tool => (tool.1, .dict tool.2.payload.items))) path
      minEntries = .ok tools := by
  have hitems : (OrderedDict.ofList (tools.items.map fun tool =>
      (tool.1, PyValue.dict tool.2.payload.items))).items =
        tools.items.map fun tool => (tool.1, .dict tool.2.payload.items) := by
    refine OrderedDict.items_ofList ?_
    rw [List.map_map]
    exact tools.nodup
  rw [parseToolsMap, hitems]
  dsimp only
  rw [List.length_map, if_neg (not_lt.mpr hmost), parseToolItems,
    parseToolItems_payload hvalid.names hvalid.entries]
  exact congrArg Except.ok (OrderedDict.ofList_items tools)

theorem parseToolItems_names {α : Type} {parse : PyValue → String → Parsed α} {path : String}
    {items : List (String × PyValue)} {tools : OrderedDict String α}
    (htools : parseToolItems parse path items = .ok tools) :
    ∀ item ∈ tools.items, toolNameRe item.1 = true := by
  refine except_foldlM_invariant (fun tools : OrderedDict String α =>
    ∀ item ∈ tools.items, toolNameRe item.1 = true) ?_ (by simp [OrderedDict.empty]) htools
  intro stored item hitem hstored next hnext other hother
  split at hnext
  next hname =>
    obtain ⟨parsed, -, rfl⟩ := except_map_eq_ok.mp hnext
    rw [← OrderedDict.get?_eq_some_iff, OrderedDict.get?_set] at hother
    split at hother
    next hsame => rwa [hsame]
    next => exact hstored other (OrderedDict.get?_eq_some_iff.mp hother)
  next => cases hnext

theorem parseToolsMap_schemaValid {raw : PyValue} {path : String} {minEntries : ℕ}
    {tools : OrderedDict String PaybondPolicyToolEntry}
    (htools : parseToolsMap raw path minEntries = .ok tools) : ToolsSchemaValid tools := by
  unfold parseToolsMap at htools
  split at htools
  · obtain ⟨-, hitems⟩ := except_guard_eq_ok.mp htools
    refine ⟨parseToolItems_names hitems, fun item hitem => ?_⟩
    exact parseToolItems_guarantees reads_toolEntry.guarantees hitems item.1 item.2
      (OrderedDict.get?_eq_some_iff.mpr hitem)
  · cases htools

/-- A mapping with an entry gives a document with a tool. -/
theorem parseToolsMap_nonempty {raw : PyValue} {path : String}
    {tools : OrderedDict String PaybondPolicyToolEntry}
    (htools : parseToolsMap raw path 1 = .ok tools) : tools.items ≠ [] := by
  unfold parseToolsMap at htools
  split at htools
  next entries =>
    obtain ⟨hmost, hitems⟩ := except_guard_eq_ok.mp htools
    obtain ⟨item, hitem⟩ := List.exists_mem_of_length_pos (not_lt.mp hmost)
    have hcontains := parseToolItems_contains hitems (List.mem_map_of_mem hitem)
    intro hempty
    rw [OrderedDict.contains_iff, OrderedDict.keys, hempty] at hcontains
    cases hcontains
  · cases htools

theorem reads_adapter :
    Reads parseAdapter
      (fun adapter => .dict (adapter.denyProviderExecutedTools.elim [] fun deny =>
        [("deny_provider_executed_tools", .bool deny)]))
      fun adapter => adapter.denyProviderExecutedTools.isSome where
  reads adapter path hvalid := by
    obtain ⟨deny⟩ := adapter
    obtain ⟨deny, rfl⟩ := Option.isSome_iff_exists.mp hvalid
    rfl
  guarantees raw path adapter hadapter := by
    simp only [parseAdapter, except_bind_eq_ok] at hadapter
    obtain ⟨mapping, -, _, -, deny, -, hadapter⟩ := hadapter
    obtain ⟨hset, hadapter⟩ := except_guard_eq_ok.mp hadapter
    cases hadapter
    simpa [Option.isSome_iff_ne_none] using hset

/-- The parser returns only documents of the schema. -/
theorem parsePaybondPolicyDocumentV1_schemaValid {raw : PyValue}
    {document : PaybondPolicyDocumentV1}
    (hdocument : parsePaybondPolicyDocumentV1 raw = .ok document) : document.SchemaValid := by
  simp only [parsePaybondPolicyDocumentV1, except_bind_eq_ok, except_pure_eq_ok] at hdocument
  obtain ⟨doc, -, _, -, _, -, name, hname, defaultDeny, -, tools, htools, intent, hintent, adapter,
    hadapter, rfl⟩ := hdocument
  exact
    { name := (expectPattern_eq_ok hname).2.2
      tools_nonempty := parseToolsMap_nonempty htools
      tools := parseToolsMap_schemaValid htools
      intent := optionalAt_guarantees reads_intent.guarantees hintent
      adapter := optionalAt_guarantees reads_adapter.guarantees hadapter }

theorem parsePaybondPolicyDocumentV1_toDict {document : PaybondPolicyDocumentV1}
    (hvalid : document.SchemaValid) :
    parsePaybondPolicyDocumentV1 (policyDocumentToDict document) = .ok document := by
  have hknown : rejectUnknown document.payload.mapping
      ["version", "name", "default_deny", "tools", "intent", "adapter", "$schema"] "(root)" =
        .ok () :=
    rejectUnknown_mapping (by simp [PaybondPolicyDocumentV1.payload])
  have hversion : expectVersion document.payload.mapping paybondPolicySchemaVersion = .ok () := by
    rw [expectVersion, OrderedDict.getValue, OrderedDict.Fields.get?_mapping]
    exact if_pos rfl
  have hname : expectPolicyName (document.payload.mapping.getValue "name") =
      .ok document.name := by
    rw [OrderedDict.getValue, OrderedDict.Fields.get?_mapping]
    exact expectPattern_str (by decide) hvalid.name _
  have hdeny : expectBool (document.payload.mapping.getValue "default_deny") "default_deny" =
      .ok document.defaultDeny := by
    rw [OrderedDict.getValue, OrderedDict.Fields.get?_mapping]
    rfl
  have htools : parseToolsMap (document.payload.mapping.getValue "tools") "tools" 1 =
      .ok document.tools := by
    rw [OrderedDict.getValue, OrderedDict.Fields.get?_mapping]
    exact parseToolsMap_payload hvalid.tools (List.length_pos_of_ne_nil hvalid.tools_nonempty)
  have hintent : optionalSection document.payload.mapping "intent" parseIntent =
      .ok document.intent :=
    reads_intent.optionalAt
      (by simp [OrderedDict.Fields.get?_mapping, PaybondPolicyDocumentV1.payload])
      hvalid.intent
  have hadapter : optionalSection document.payload.mapping "adapter" parseAdapter =
      .ok document.adapter := by
    refine reads_adapter.optionalAt ?_ hvalid.adapter
    rw [OrderedDict.Fields.get?_mapping]
    cases hsection : document.adapter with
    | none => simp [PaybondPolicyDocumentV1.payload, hsection]
    | some adapter =>
        obtain ⟨deny, hdeny⟩ := Option.isSome_iff_exists.mp (hvalid.adapter adapter hsection)
        simp [PaybondPolicyDocumentV1.payload, hsection, hdeny]
  rw [parsePaybondPolicyDocumentV1, policyDocumentToDict, expectMapping_payload, except_ok_bind,
    hknown, except_ok_bind, hversion, except_ok_bind, hname, except_ok_bind, hdeny,
    except_ok_bind, htools, except_ok_bind, hintent, except_ok_bind, hadapter, except_ok_bind]
  rfl

/-- A document is read back exactly when it is one of the schema. -/
theorem parsePaybondPolicyDocumentV1_toDict_iff {document : PaybondPolicyDocumentV1} :
    parsePaybondPolicyDocumentV1 (policyDocumentToDict document) = .ok document ↔
      document.SchemaValid :=
  ⟨parsePaybondPolicyDocumentV1_schemaValid, parsePaybondPolicyDocumentV1_toDict⟩

end PaybondKit.Policy
