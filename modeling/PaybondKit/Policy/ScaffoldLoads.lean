import PaybondKit.Policy.Merge
import PaybondKit.Policy.ScaffoldText
import PaybondKit.Policy.YamlStrings

/-!
# Loading a scaffolded policy

Which operations, policy ids and caps give a starter policy that the schema accepts with what was
asked for, and why an overlay never gives one.
-/

namespace PaybondKit.Policy

open Agent (PyExc)

/-! ## A document of either version -/

namespace PaybondPolicyDocument

/-- `intent.allowed_tools`, or nothing. -/
def allowedTools : PaybondPolicyDocument → List String
  | .v1 document => (document.intent.map (·.allowedTools)).getD []
  | .v2 document => (document.intent.map (·.allowedTools)).getD []

def parent : PaybondPolicyDocument → Option PaybondPolicyExtends
  | .v1 _ => none
  | .v2 document => document.extends

end PaybondPolicyDocument

/-- `parse_policy_document_text` and then `parse_paybond_policy_document`. -/
def readPolicyText (platform : PolicyTextPlatform) (text sourceLabel : String) :
    Except PyExc PaybondPolicyDocument := do
  let raw ← parsePolicyDocumentText platform text sourceLabel
  (parsePaybondPolicyDocument (.dict raw.items)).mapError .policyValidation

/-- The document has one tool, of this operation, preset and cap. -/
def HasOneTool (document : PaybondPolicyDocument) (operation evidencePreset : String)
    (cap : Option Int) : Prop :=
  ∃ entry, document.tools.items = [(operation, entry)] ∧ entry.operation = some operation ∧
    entry.evidencePreset = some evidencePreset ∧ entry.maxSpendCents = cap

/-- The text loads with what it was scaffolded from. -/
def LoadsAs (platform : PolicyTextPlatform) (text sourceLabel name operation evidencePreset : String)
    (cap : Option Int) : Prop :=
  ∃ document, readPolicyText platform text sourceLabel = .ok document ∧ document.name = name ∧
    HasOneTool document operation evidencePreset cap ∧ document.allowedTools = [operation]

/-- An overlay loads with its parent, and with its tool or with none. -/
def OverlayLoadsAs (platform : PolicyTextPlatform) (text sourceLabel name : String)
    (parent : PaybondPolicyExtends) (tool : Option (String × String)) : Prop :=
  ∃ document, readPolicyText platform text sourceLabel = .ok document ∧ document.name = name ∧
    document.parent = some parent ∧
      match tool with
      | some (operation, evidencePreset) =>
          HasOneTool document operation evidencePreset none ∧ document.allowedTools = [operation]
      | none => document.tools.items = []

/-! ## Tools and intents that are printed -/

section Sections

variable {operation evidencePreset templateId word value : String} {cap : Option Int}

theorem wordValue_eq_str : wordValue word = .str value ↔
    value = word ∧ word ≠ "true" ∧ word ≠ "false" := by
  unfold wordValue
  split
  next htrue => simp [htrue]
  next htrue =>
    split
    next hfalse => simp [hfalse]
    next hfalse =>
      constructor
      · intro h
        exact ⟨(PyValue.str.inj h).symm, htrue, hfalse⟩
      · rintro ⟨rfl, -, -⟩
        rfl

def scaffoldEntry (operation evidencePreset : String) (cap : Option Int) :
    PaybondPolicyToolEntry where
  sideEffecting := true
  maxSpendCents := cap
  evidencePreset := some evidencePreset
  operation := some operation

def scaffoldIntent (operation templateId : String) : PaybondPolicyIntentSection where
  policyBinding := some { templateId }
  allowedTools := [operation]

/-- What an entry is read as depends on what its fields are, not on their order. -/
theorem parseToolEntry_congr {mapping other : OrderedDict String PyValue} (path : String)
    (hknown : rejectUnknown mapping toolEntryFields path = .ok ())
    (hknown' : rejectUnknown other toolEntryFields path = .ok ())
    (hget : ∀ key, mapping.get? key = other.get? key) :
    parseToolEntry (.dict mapping.items) path = parseToolEntry (.dict other.items) path := by
  have hvalue : ∀ key, mapping.getValue key = other.getValue key := by
    intro key
    rw [OrderedDict.getValue, OrderedDict.getValue, hget]
  have hfield : ∀ {α : Type} (field : String) (parse : PyValue → String → Parsed α),
      optionalField mapping path field parse = optionalField other path field parse := by
    intro α field parse
    rw [optionalField, optionalField, optionalAt, optionalAt, hget]
  unfold parseToolEntry expectMapping
  dsimp only
  rw [OrderedDict.ofList_items, OrderedDict.ofList_items, except_ok_bind, except_ok_bind, hknown,
    hknown', hvalue]
  simp only [hfield]

/-- The fields of the tool, as they are printed. -/
def toolPayload (operation evidencePreset : String) (cap : Option Int) : PayloadFields where
  entries :=
    [("side_effecting", some (.bool true)), ("evidence_preset", some (.str evidencePreset)),
      ("max_spend_cents", cap.map .int), ("operation", some (.str operation))]
  nodup := by simp

theorem items_toolPayload (hvalue : wordValue operation = .str operation) :
    (toolPayload operation evidencePreset cap).items =
      toolFields operation evidencePreset cap := by
  unfold toolFields
  rw [hvalue]
  cases cap <;> rfl

theorem parseToolEntry_toolFields (hvalue : wordValue operation = .str operation)
    (hvalid : (scaffoldEntry operation evidencePreset cap).SchemaValid) (path : String) :
    parseToolEntry (.dict (toolFields operation evidencePreset cap)) path =
      .ok (scaffoldEntry operation evidencePreset cap) := by
  have hknown : rejectUnknown (toolPayload operation evidencePreset cap).mapping toolEntryFields
      path = .ok () :=
    rejectUnknown_mapping (by simp [toolPayload, toolEntryFields])
  have hknown' : rejectUnknown (scaffoldEntry operation evidencePreset cap).payload.mapping
      toolEntryFields path = .ok () :=
    rejectUnknown_mapping (by simp [PaybondPolicyToolEntry.payload, toolEntryFields])
  have hperm : (toolPayload operation evidencePreset cap).items.Perm
      (scaffoldEntry operation evidencePreset cap).payload.items := by
    cases cap with
    | none => exact .refl _
    | some cap => exact .cons _ (.swap _ _ _)
  have hitems : ∀ fields : PayloadFields, fields.mapping.items = fields.items := fun fields =>
    OrderedDict.items_ofList
      (fields.nodup.sublist (OrderedDict.presentItems_sublist fields.entries))
  have hget : ∀ key, (toolPayload operation evidencePreset cap).mapping.get? key =
      (scaffoldEntry operation evidencePreset cap).payload.mapping.get? key := by
    intro key
    ext value
    rw [OrderedDict.get?_eq_some_iff, OrderedDict.get?_eq_some_iff, hitems, hitems]
    exact hperm.mem_iff
  have hsame := parseToolEntry_congr path hknown hknown' hget
  rw [hitems, hitems] at hsame
  rw [← items_toolPayload hvalue]
  exact hsame.trans (reads_toolEntry.reads _ path hvalid)

theorem parseToolsMap_toolsValue (hvalue : wordValue operation = .str operation)
    (hname : toolNameRe operation = true)
    (hvalid : (scaffoldEntry operation evidencePreset cap).SchemaValid) {minEntries : ℕ}
    (hmost : minEntries ≤ 1) :
    parseToolsMap (toolsValue operation evidencePreset cap) "tools" minEntries =
      .ok (.ofList [(operation, scaffoldEntry operation evidencePreset cap)]) := by
  have hitems : (OrderedDict.ofList
      [(operation, PyValue.dict (toolFields operation evidencePreset cap))]).items =
        [(operation, .dict (toolFields operation evidencePreset cap))] :=
    OrderedDict.items_ofList (by simp)
  unfold parseToolsMap toolsValue
  dsimp only
  rw [hitems, List.length_singleton, if_neg (not_lt.mpr hmost), parseToolItems, List.foldlM_cons,
    if_pos hname, parseToolEntry_toolFields hvalue hvalid]
  rfl

/-- A tool that is read has an operation that is no boolean. -/
theorem wordValue_of_parseToolsMap {path : String} {minEntries : ℕ} {entry : PaybondPolicyToolEntry}
    {tools : OrderedDict String PaybondPolicyToolEntry}
    (htools : parseToolsMap (toolsValue operation evidencePreset cap) path minEntries = .ok tools)
    (hentry : (operation, entry) ∈ tools.items) : wordValue operation = .str operation := by
  have hitems : (OrderedDict.ofList
      [(operation, PyValue.dict (toolFields operation evidencePreset cap))]).items =
        [(operation, .dict (toolFields operation evidencePreset cap))] :=
    OrderedDict.items_ofList (by simp)
  unfold parseToolsMap toolsValue at htools
  dsimp only at htools
  rw [hitems] at htools
  obtain ⟨-, hloop⟩ := except_guard_eq_ok.mp htools
  obtain ⟨raw, hraw, hparse⟩ :=
    parseToolItems_get? hloop (OrderedDict.get?_eq_some_iff.mpr hentry)
  obtain ⟨-, rfl⟩ := Prod.mk.inj (List.mem_singleton.mp hraw)
  simp only [parseToolEntry, except_bind_eq_ok, except_pure_eq_ok] at hparse
  obtain ⟨mapping, hmapping, _, -, _, -, _, -, _, -, _, -, _, -, _, -, _, -, parsed, hparsed,
    -⟩ := hparse
  obtain rfl := Except.ok.inj hmapping
  have hget : (OrderedDict.ofList (toolFields operation evidencePreset cap)).get? "operation" =
      some (wordValue operation) := by
    have hnodup : ((toolFields operation evidencePreset cap).map Prod.fst).Nodup := by
      cases cap <;> simp [toolFields]
    have hmem : ("operation", wordValue operation) ∈ toolFields operation evidencePreset cap := by
      simp [toolFields]
    exact OrderedDict.get?_ofList_of_mem hnodup hmem
  rw [optionalField, optionalAt, hget] at hparsed
  obtain ⟨text, htext, -⟩ := except_map_eq_ok.mp hparsed
  obtain ⟨found, hfound, -⟩ := except_bind_eq_ok.mp htext
  obtain ⟨hstr, -⟩ := expectStr_eq_ok hfound
  rw [(wordValue_eq_str.mp hstr).1] at hstr
  exact hstr

theorem parseIntent_intentValue (hvalue : wordValue operation = .str operation)
    (hname : toolNameRe operation = true) (htemplate : identifierRe templateId = true) :
    parseIntent (intentValue operation templateId) "intent" =
      .ok (scaffoldIntent operation templateId) := by
  have hvalid : (scaffoldIntent operation templateId).SchemaValid := by
    refine ⟨?_, nofun, List.nodup_singleton _, ?_⟩
    · rintro binding ⟨⟩
      exact ⟨htemplate, nofun, nofun⟩
    · intro name hmem
      rwa [List.mem_singleton.mp hmem]
  have hprinted : intentValue operation templateId =
      .dict (scaffoldIntent operation templateId).payload.items := by
    rw [intentValue, hvalue]
    rfl
  rw [hprinted]
  exact reads_intent.reads _ _ hvalid

end Sections

/-! ## Accepted documents -/

section Accepted

variable {items : List (String × PyValue)} {document : PaybondPolicyDocument}

/-- What an accepted document of either version says of its fields. -/
structure DocumentParts (mapping : OrderedDict String PyValue) (document : PaybondPolicyDocument) :
    Prop where
  name : expectPolicyName (mapping.getValue "name") = .ok document.name
  tools : ∃ minEntries,
    parseToolsMap (mapping.getValue "tools") "tools" minEntries = .ok document.tools
  allowedTools : ∃ intent, optionalSection mapping "intent" parseIntent = .ok intent ∧
    document.allowedTools = (intent.map (·.allowedTools)).getD []
  parent : ∀ parent, document.parent = some parent →
    optionalSection mapping "extends" parseExtends = .ok (some parent)

theorem documentParts_of_accepted (haccepted : parsePaybondPolicyDocument (.dict items) =
    .ok document) : DocumentParts (.ofList items) document := by
  obtain ⟨mapping, hmapping, hrest⟩ := except_bind_eq_ok.mp haccepted
  obtain rfl := Except.ok.inj hmapping
  split at hrest
  · obtain ⟨flat, hflat, rfl⟩ := except_map_eq_ok.mp hrest
    simp only [parsePaybondPolicyDocumentV1, except_bind_eq_ok, except_pure_eq_ok] at hflat
    obtain ⟨mapping, hmapping, _, -, _, -, name, hname, _, -, tools, htools, intent, hintent, _, -,
      rfl⟩ := hflat
    obtain rfl := Except.ok.inj hmapping
    exact ⟨hname, ⟨1, htools⟩, ⟨intent, hintent, rfl⟩, nofun⟩
  · split at hrest
    · obtain ⟨layered, hlayered, rfl⟩ := except_map_eq_ok.mp hrest
      simp only [parsePaybondPolicyDocumentV2, except_bind_eq_ok, except_pure_eq_ok] at hlayered
      obtain ⟨mapping, hmapping, _, -, _, -, name, hname, _, -, base, hbase, _, -, tools, htools,
        intent, hintent, _, -, rfl⟩ := hlayered
      obtain rfl := Except.ok.inj hmapping
      refine ⟨hname, ⟨_, htools⟩, ⟨intent, hintent, rfl⟩, ?_⟩
      rintro parent hparent
      rw [hbase]
      exact congrArg Except.ok hparent
    · cases hrest

theorem readPolicyText_eq_ok {platform : PolicyTextPlatform} {text sourceLabel : String} :
    readPolicyText platform text sourceLabel = .ok document ↔
      ∃ raw, parsePolicyDocumentText platform text sourceLabel = .ok raw ∧
        parsePaybondPolicyDocument (.dict raw.items) = .ok document := by
  unfold readPolicyText
  rw [except_bind_eq_ok]
  refine exists_congr fun raw => and_congr_right fun _ => ?_
  cases parsePaybondPolicyDocument (.dict raw.items) with
  | ok value => simp [Except.mapError]
  | error failure => simp [Except.mapError]

end Accepted

/-! ## Policies and org bases -/

section Scaffolds

variable {name operation evidencePreset templateId : String} {cap : Option Int}

def scaffoldPayload (version : Int) (name operation evidencePreset templateId : String)
    (cap : Option Int) : PayloadFields where
  entries :=
    [("version", some (.int version)), ("name", some (wordValue name)),
      ("default_deny", some (.bool true)),
      ("tools", some (toolsValue operation evidencePreset cap)),
      ("intent", some (intentValue operation templateId))]
  nodup := by simp

/-- What was set into a template fits the schema. -/
structure ScaffoldFits (name operation evidencePreset templateId : String) (cap : Option Int) :
    Prop where
  policy_name : policyNameRe name = true
  name_value : wordValue name = .str name
  tool_name : toolNameRe operation = true
  tool_value : wordValue operation = .str operation
  tool_entry : (scaffoldEntry operation evidencePreset cap).SchemaValid
  template_id : identifierRe templateId = true

/-- The fields that both versions read. -/
theorem scaffoldPayload_reads (version : Int)
    (hfits : ScaffoldFits name operation evidencePreset templateId cap) {minEntries : ℕ}
    (hmost : minEntries ≤ 1) :
    let doc := (scaffoldPayload version name operation evidencePreset templateId cap).mapping
    doc.getValue "version" = .int version ∧
      expectPolicyName (doc.getValue "name") = .ok name ∧
      expectBool (doc.getValue "default_deny") "default_deny" = .ok true ∧
      parseToolsMap (doc.getValue "tools") "tools" minEntries =
        .ok (.ofList [(operation, scaffoldEntry operation evidencePreset cap)]) ∧
      optionalSection doc "intent" parseIntent =
        .ok (some (scaffoldIntent operation templateId)) ∧
      optionalSection doc "adapter" parseAdapter = .ok none ∧
      optionalSection doc "extends" parseExtends = .ok none ∧
      optionalSection doc "overrides" parseOverrides = .ok none := by
  refine ⟨?_, ?_, ?_, ?_, ?_, ?_, ?_, ?_⟩
  · simp [OrderedDict.getValue, OrderedDict.Fields.get?_mapping, scaffoldPayload]
  · have hname : (scaffoldPayload version name operation evidencePreset templateId
        cap).mapping.getValue "name" = .str name := by
      simp [OrderedDict.getValue, OrderedDict.Fields.get?_mapping, scaffoldPayload, hfits.name_value]
    rw [hname]
    exact expectPattern_str (by decide) hfits.policy_name _
  · simp [OrderedDict.getValue, OrderedDict.Fields.get?_mapping, scaffoldPayload, expectBool]
  · have htools : (scaffoldPayload version name operation evidencePreset templateId
        cap).mapping.getValue "tools" = toolsValue operation evidencePreset cap := by
      simp [OrderedDict.getValue, OrderedDict.Fields.get?_mapping, scaffoldPayload]
    rw [htools]
    exact parseToolsMap_toolsValue hfits.tool_value hfits.tool_name hfits.tool_entry hmost
  · have hintent : (scaffoldPayload version name operation evidencePreset templateId
        cap).mapping.get? "intent" = some (intentValue operation templateId) := by
      simp [OrderedDict.Fields.get?_mapping, scaffoldPayload]
    rw [optionalSection, optionalAt, hintent]
    dsimp only
    rw [parseIntent_intentValue hfits.tool_value hfits.tool_name hfits.template_id]
    rfl
  · simp [optionalSection, optionalAt, OrderedDict.Fields.get?_mapping, scaffoldPayload,
      OrderedDict.fieldValue]
  · simp [optionalSection, optionalAt, OrderedDict.Fields.get?_mapping, scaffoldPayload,
      OrderedDict.fieldValue]
  · simp [optionalSection, optionalAt, OrderedDict.Fields.get?_mapping, scaffoldPayload,
      OrderedDict.fieldValue]

theorem accepted_policy (hfits : ScaffoldFits name operation evidencePreset templateId cap) :
    parsePaybondPolicyDocument
        (.dict (scaffoldFields 1 name operation evidencePreset templateId cap)) =
      .ok (.v1
        { name
          defaultDeny := true
          tools := .ofList [(operation, scaffoldEntry operation evidencePreset cap)]
          intent := some (scaffoldIntent operation templateId) }) := by
  obtain ⟨hversion, hname, hdeny, htools, hintent, hadapter, -, -⟩ :=
    scaffoldPayload_reads 1 hfits (le_refl 1)
  have hknown : rejectUnknown
      (scaffoldPayload 1 name operation evidencePreset templateId cap).mapping
      ["version", "name", "default_deny", "tools", "intent", "adapter", "$schema"] "(root)" =
        .ok () :=
    rejectUnknown_mapping (by simp [scaffoldPayload])
  have hexpected : expectVersion
      (scaffoldPayload 1 name operation evidencePreset templateId cap).mapping
      paybondPolicySchemaVersion = .ok () := by
    rw [expectVersion, hversion]
    exact if_pos rfl
  change parsePaybondPolicyDocument
    (.dict (scaffoldPayload 1 name operation evidencePreset templateId cap).items) = _
  rw [parsePaybondPolicyDocument, expectMapping_payload, except_ok_bind, hversion]
  refine (if_pos rfl).trans ?_
  rw [parsePaybondPolicyDocumentV1, expectMapping_payload, except_ok_bind, hknown, except_ok_bind,
    hexpected, except_ok_bind, hname, except_ok_bind, hdeny, except_ok_bind, htools,
    except_ok_bind, hintent, except_ok_bind, hadapter, except_ok_bind]
  rfl

theorem accepted_orgBase (hfits : ScaffoldFits name operation evidencePreset templateId cap) :
    parsePaybondPolicyDocument
        (.dict (scaffoldFields 2 name operation evidencePreset templateId cap)) =
      .ok (.v2
        { name
          defaultDeny := true
          tools := .ofList [(operation, scaffoldEntry operation evidencePreset cap)]
          intent := some (scaffoldIntent operation templateId) }) := by
  obtain ⟨hversion, hname, hdeny, htools, hintent, hadapter, hextends, hoverrides⟩ :=
    scaffoldPayload_reads 2 hfits (le_refl 1)
  have hknown : rejectUnknown
      (scaffoldPayload 2 name operation evidencePreset templateId cap).mapping
      ["version", "name", "default_deny", "tools", "intent", "adapter", "extends", "overrides",
        "$schema"] "(root)" = .ok () :=
    rejectUnknown_mapping (by simp [scaffoldPayload])
  have hexpected : expectVersion
      (scaffoldPayload 2 name operation evidencePreset templateId cap).mapping
      paybondPolicySchemaVersionV2 = .ok () := by
    rw [expectVersion, hversion]
    exact if_pos rfl
  change parsePaybondPolicyDocument
    (.dict (scaffoldPayload 2 name operation evidencePreset templateId cap).items) = _
  rw [parsePaybondPolicyDocument, expectMapping_payload, except_ok_bind, hversion]
  refine (if_neg (by decide)).trans ((if_pos rfl).trans ?_)
  rw [parsePaybondPolicyDocumentV2, expectMapping_payload, except_ok_bind, hknown, except_ok_bind,
    hexpected, except_ok_bind, hname, except_ok_bind, hdeny, except_ok_bind, hextends,
    except_ok_bind, hoverrides, except_ok_bind]
  dsimp only [Option.isSome_none]
  rw [if_neg Bool.false_ne_true, htools, except_ok_bind, hintent, except_ok_bind, hadapter, except_ok_bind]
  rfl

end Scaffolds

/-! ## The name of a policy -/

section Slugs

variable {platform : ScaffoldPlatform} {operation : String} {chars : List Char}

/-- A lowercase letter, followed by lowercase letters, digits and dashes. -/
structure Slug (chars : List Char) : Prop where
  head : ∃ c rest, chars = c :: rest ∧ isLower c = true
  chars : ∀ c ∈ chars, isLower c = true ∨ isDigit c = true ∨ c = '-'

theorem ne_dash_of_isLower {c : Char} (hc : isLower c = true) : c ≠ '-' := by
  rintro rfl
  exact absurd hc (by decide)

theorem mem_replaceDashes {c : Char} (hc : c ∈ replaceDashes chars) : c ∈ chars := by
  induction chars using replaceDashes.induct with
  | case1 => cases hc
  | case2 rest ih =>
      rw [replaceDashes] at hc
      rcases List.mem_cons.mp hc with rfl | hc
      · exact List.mem_cons_self
      · exact List.mem_cons_of_mem _ (List.mem_cons_of_mem _ (ih hc))
  | case3 d rest hnot ih =>
      rw [replaceDashes.eq_3 _ _ hnot] at hc
      rcases List.mem_cons.mp hc with rfl | hc
      · exact List.mem_cons_self
      · exact List.mem_cons_of_mem _ (ih hc)

theorem Slug.replaceDashes (hslug : Slug chars) : Slug (replaceDashes chars) := by
  obtain ⟨c, rest, rfl, hc⟩ := hslug.head
  refine ⟨⟨c, Policy.replaceDashes rest, ?_, hc⟩, fun d hd => hslug.chars d (mem_replaceDashes hd)⟩
  exact replaceDashes.eq_3 _ _ fun tail h _ => ne_dash_of_isLower hc h

theorem Slug.collapseDashes (hslug : Slug chars) : Slug (collapseDashes chars) := by
  induction chars using collapseDashes.induct with
  | case1 chars hdashes ih =>
      rw [Policy.collapseDashes, if_pos hdashes]
      exact ih hslug.replaceDashes
  | case2 chars hdashes =>
      rw [Policy.collapseDashes, if_neg hdashes]
      exact hslug

/-- Dashes are stripped from the end alone. -/
theorem Slug.strip (hslug : Slug chars) :
    Slug ((chars.dropWhile (· = '-')).rdropWhile (· = '-')) := by
  obtain ⟨c, rest, rfl, hc⟩ := hslug.head
  have hdash : ¬decide (c = '-') = true := by simp [ne_dash_of_isLower hc]
  have hfront : (c :: rest).dropWhile (· = '-') = c :: rest := List.dropWhile_cons_of_neg hdash
  rw [hfront]
  obtain ⟨trail, htrail⟩ := List.rdropWhile_prefix (· = '-') (c :: rest)
  have hne : (c :: rest).rdropWhile (· = '-') ≠ [] := by
    intro hnil
    exact hdash (List.rdropWhile_eq_nil_iff.mp hnil c List.mem_cons_self)
  obtain ⟨d, kept, hkept⟩ := List.exists_cons_of_ne_nil hne
  refine ⟨⟨d, kept, hkept, ?_⟩, fun e he => ?_⟩
  · rw [hkept, List.cons_append] at htrail
    rwa [(List.cons.inj htrail).1]
  · exact hslug.chars e ((List.rdropWhile_prefix _ _).subset he)

theorem toLower_of_isWordChar {c : Char} (hc : isWordChar c = true) : c.toLower = c := by
  obtain ⟨-, -, -, hupper⟩ := toNat_of_isWordChar hc
  refine dif_neg ?_
  rintro ⟨hleast, hmost⟩
  have hleast : 65 ≤ c.toNat := hleast
  have hmost : c.toNat ≤ 90 := hmost
  omega

/-- The name that is made of a tool name. -/
theorem slug_policyName (hname : toolNameRe operation = true) :
    ∃ chars, Slug chars ∧ policyNameFromOperation platform operation =
      if "-v1".toList.isSuffixOf chars then String.ofList chars
      else String.ofList chars ++ "-v1" := by
  have hword := word_of_toolNameRe hname
  obtain ⟨first, rest, hchars, hfirst⟩ := hword.head
  have hlower : platform.lower (pyStrip operation) = operation := by
    rw [hword.stripped, platform.lower_ascii]
    · have hsame : operation.toList.map Char.toLower = operation.toList :=
        (List.map_congr_left fun c hc => toLower_of_isWordChar (hword.chars c hc)).trans
          (List.map_id _)
      rw [hsame, String.ofList_toList]
    · intro c hc
      have hrange := toNat_of_isWordChar (hword.chars c hc)
      omega
  -- what a character of the operation becomes
  have hkept : Slug ((operation.toList.map fun c => if c = '.' ∨ c = '_' then '-' else c).map
      fun c => if platform.isAlnum c || c = '-' then c else '-') := by
    have halnum : ∀ c, isLower c = true ∨ isDigit c = true → platform.isAlnum c = true := by
      intro c hc
      have hascii : c.toNat < 128 := by
        have hrange := @toNat_of_isWordChar c (by rcases hc with hc | hc <;> simp [isWordChar, hc])
        omega
      rw [platform.isAlnum_ascii c hascii]
      change ((c.isUpper || c.isLower) || c.isDigit) = true
      rw [Bool.or_eq_true, Bool.or_eq_true]
      rcases hc with hc | hc
      · exact .inl (.inr hc)
      · exact .inr (by simpa [isDigit, Char.isDigit, Char.le_def] using hc)
    have hmap : ((operation.toList.map fun c => if c = '.' ∨ c = '_' then '-' else c).map
        fun c => if platform.isAlnum c || c = '-' then c else '-') =
          operation.toList.map fun c => if isLower c = true ∨ isDigit c = true then c else '-' := by
      rw [List.map_map]
      refine List.map_congr_left fun c hmem => ?_
      have hc := hword.chars c hmem
      by_cases hplain : isLower c = true ∨ isDigit c = true
      · have hnot : ¬(c = '.' ∨ c = '_') := by
          rintro (rfl | rfl) <;> exact absurd hplain (by decide)
        simp [hnot, halnum c hplain, hplain]
      · have hdash : c = '.' ∨ c = '_' ∨ c = '-' := by
          simp only [isWordChar, Bool.or_eq_true, decide_eq_true_eq] at hc
          rcases hc with ((hc | hc) | hc) | hc
          · exact absurd hc hplain
          · exact .inr (.inl hc)
          · exact .inl hc
          · exact .inr (.inr hc)
        rcases hdash with rfl | rfl | rfl <;> simp [hplain]
    rw [hmap]
    refine ⟨?_, ?_⟩
    · rw [hchars, List.map_cons, if_pos (.inl hfirst)]
      exact ⟨first, _, rfl, hfirst⟩
    · intro c hc
      obtain ⟨d, -, rfl⟩ := List.mem_map.mp hc
      split
      next hplain => exact hplain.imp_right .inl
      next => exact .inr (.inr rfl)
  have hslug := hkept.collapseDashes.strip
  refine ⟨_, hslug, ?_⟩
  obtain ⟨c, tail, hstripped, -⟩ := hslug.head
  unfold policyNameFromOperation
  simp only [hlower]
  rw [hstripped]
  simp [toString]

theorem Slug.word {word : String} (hslug : Slug word.toList) : Word word := by
  refine ⟨hslug.head, fun c hc => ?_⟩
  rcases hslug.chars c hc with hc | hc | rfl
  · exact isWordChar_of_isLower hc
  · simp [isWordChar, hc]
  · decide

theorem slug_policyName_toList (hname : toolNameRe operation = true) :
    Slug (policyNameFromOperation platform operation).toList ∧
      "-v1".toList <:+ (policyNameFromOperation platform operation).toList := by
  obtain ⟨chars, hslug, hpolicyName⟩ := @slug_policyName platform operation hname
  rw [hpolicyName]
  split
  next hsuffix =>
    rw [String.toList_ofList]
    exact ⟨hslug, List.isSuffixOf_iff_suffix.mp hsuffix⟩
  next =>
    rw [String.toList_append, String.toList_ofList]
    refine ⟨⟨?_, ?_⟩, List.suffix_append _ _⟩
    · obtain ⟨c, rest, rfl, hc⟩ := hslug.head
      exact ⟨c, rest ++ "-v1".toList, rfl, hc⟩
    · intro c hc
      rcases List.mem_append.mp hc with hc | hc
      · exact hslug.chars c hc
      · exact forall_mem_of_all (p := fun c => isLower c = true ∨ isDigit c = true ∨ c = '-')
          (by decide) c hc

/-- The name is no boolean, and too long at most. -/
theorem policyName_fits (hname : toolNameRe operation = true) :
    wordValue (policyNameFromOperation platform operation) =
        .str (policyNameFromOperation platform operation) ∧
      (policyNameRe (policyNameFromOperation platform operation) = true ↔
        (policyNameFromOperation platform operation).length ≤ 64) := by
  obtain ⟨hslug, hsuffix⟩ := @slug_policyName_toList platform operation hname
  generalize policyNameFromOperation platform operation = name at hslug hsuffix ⊢
  refine ⟨wordValue_eq_str.mpr ⟨rfl, ?_, ?_⟩, ?_⟩
  · rintro rfl
    exact absurd hsuffix (by decide)
  · rintro rfl
    exact absurd hsuffix (by decide)
  · obtain ⟨c, rest, hchars, hc⟩ := hslug.head
    have hrest : rest.all (fun c => isLower c || isDigit c || c = '_' || c = '-') = true := by
      rw [List.all_eq_true]
      intro d hd
      have hchar := hslug.chars d (hchars ▸ List.mem_cons_of_mem _ hd)
      simp only [Bool.or_eq_true, decide_eq_true_eq]
      exact (or_assoc.mpr hchar).imp_left .inl
    rw [policyNameRe, hchars, matchesHeadTail, hc, hrest, ← String.length_toList, hchars,
      List.length_cons]
    simp only [Bool.and_self, Bool.true_and, decide_eq_true_eq]
    omega

end Slugs

/-! ## Presets -/

section Presets

variable {evidencePreset templateId : String}

/-- A text that the schema takes for an identifier, and the parser for a string. -/
def isPlainId (text : String) : Bool :=
  toolNameRe text && identifierRe text && text ≠ "true" && text ≠ "false"

/-- A literal is the text of its characters, so that no text has to be decoded. -/
theorem isPlainId_ofList {chars : List Char}
    (hname : matchesHeadTail isLower
      (fun c => isLower c || isDigit c || c = '_' || c = '.' || c = '-') 127 chars = true)
    (hid : matchesHeadTail (fun c => isLower c || isDigit c || c = '_')
      (fun c => isLower c || isDigit c || c = '_') 63 chars = true)
    (hword : chars ≠ "true".toList ∧ chars ≠ "false".toList) :
    isPlainId (String.ofList chars) = true := by
  have hne : ∀ {word : String}, chars ≠ word.toList → String.ofList chars ≠ word := by
    rintro _ hchars rfl
    exact hchars (String.toList_ofList).symm
  rw [isPlainId, toolNameRe, identifierRe, String.toList_ofList, hname, hid]
  simp [hne hword.1, hne hword.2]

theorem plainId_of_template (htemplate : harborTemplateId evidencePreset = .ok templateId) :
    (isPlainId evidencePreset = true ∧ isPlainId templateId = true) ∧
      templateIdStubForPreset evidencePreset = templateId := by
  refine ⟨?_, by rw [templateIdStubForPreset, htemplate]⟩
  unfold harborTemplateId at htemplate
  split at htemplate
  next found hfound =>
    obtain rfl := Except.ok.inj htemplate
    have hmem : (evidencePreset, found) ∈ completionTemplates := by
      obtain ⟨before, after, hsplit, -⟩ := List.lookup_eq_some_iff.mp hfound
      rw [hsplit]
      simp
    have hall : ∀ row ∈ completionTemplates, isPlainId row.1 = true ∧ isPlainId row.2 = true :=
      by
      simp only [completionTemplates, List.forall_mem_cons]
      refine ⟨?_, ?_, ?_, ?_, ?_, ?_, ?_, ?_, ?_, ?_, ?_, ?_, ?_, ?_, ?_, ?_, ?_,
        fun _ hrow => absurd hrow List.not_mem_nil⟩ <;>
        exact ⟨isPlainId_ofList (by decide) (by decide) (by decide),
          isPlainId_ofList (by decide) (by decide) (by decide)⟩
    exact hall (evidencePreset, found) hmem
  next => cases htemplate

theorem isPlainId_eq_true {text : String} (htext : isPlainId text = true) :
    Word text ∧ identifierRe text = true ∧ wordValue text = .str text := by
  simp only [isPlainId, Bool.and_eq_true, decide_eq_true_eq] at htext
  obtain ⟨⟨⟨hname, hid⟩, htrue⟩, hfalse⟩ := htext
  exact ⟨word_of_toolNameRe hname, hid, wordValue_eq_str.mpr ⟨rfl, htrue, hfalse⟩⟩

end Presets

/-! ## Which scaffolds load -/

/-- A name that the schema takes for that of a tool, and the parser for a string. -/
def ToolNameFits (operation : String) : Prop :=
  toolNameRe operation = true ∧ operation ≠ "true" ∧ operation ≠ "false"

section Loads

variable {platform : ScaffoldPlatform} {name operation evidencePreset templateId : String}
variable {sourceLabel : String} {cap : Option Int} {document : PaybondPolicyDocument}

theorem ToolNameFits.value (hfits : ToolNameFits operation) :
    wordValue operation = .str operation :=
  wordValue_eq_str.mpr ⟨rfl, hfits.2⟩

theorem entry_schemaValid (hname : toolNameRe operation = true)
    (hpreset : identifierRe evidencePreset = true) (hcap : ∀ c ∈ cap, 0 ≤ c) :
    (scaffoldEntry operation evidencePreset cap).SchemaValid where
  max_spend_cents := hcap
  spend_from_args := nofun
  spend_exclusive := .inr rfl
  evidence_preset := by
    rintro preset ⟨⟩
    exact hpreset
  evidence_required _ := rfl
  vendor_pack := nofun
  operation := by
    rintro text ⟨⟩
    refine ⟨(word_of_toolNameRe hname).value.nonempty, ?_⟩
    rw [toolNameRe] at hname
    rw [← String.length_toList]
    cases hchars : operation.toList with
    | nil => exact Nat.zero_le _
    | cons c rest =>
        rw [hchars, matchesHeadTail, Bool.and_eq_true, decide_eq_true_eq] at hname
        rw [List.length_cons]
        exact Nat.succ_le_succ hname.2

/-- The tool of an accepted document has the name of a tool. -/
theorem toolNameRe_of_accepted {items : List (String × PyValue)}
    {entry : PaybondPolicyToolEntry} (hparts : DocumentParts (.ofList items) document)
    (htools : document.tools.items = [(operation, entry)]) :
    toolNameRe operation = true ∧ ∀ c ∈ entry.maxSpendCents, 0 ≤ c := by
  obtain ⟨minEntries, hparsed⟩ := hparts.tools
  have hvalid := parseToolsMap_schemaValid hparsed
  have hmem : (operation, entry) ∈ document.tools.items := by simp [htools]
  exact ⟨hvalid.names _ hmem, (hvalid.entries _ hmem).max_spend_cents⟩

theorem items_scaffoldFields (version : Int) :
    (OrderedDict.ofList (scaffoldFields version name operation evidencePreset templateId
      cap)).items = scaffoldFields version name operation evidencePreset templateId cap :=
  OrderedDict.items_ofList (by simp [scaffoldFields])

/-- A policy or an org base loads when its tool and its name fit the schema and are no booleans,
and its cap is not negative. -/
theorem loadsAs_scaffold_iff {version : Int} (hversion : version = 1 ∨ version = 2)
    (hpreset : isPlainId evidencePreset = true) (htemplate : isPlainId templateId = true)
    (hword : toolNameRe operation = true → Word name) :
    LoadsAs platform.toPolicyTextPlatform
        (unlines (scaffoldLines version name operation evidencePreset templateId cap)) sourceLabel
        name operation evidencePreset cap ↔
      ToolNameFits operation ∧ (policyNameRe name = true ∧ wordValue name = .str name) ∧
        ∀ c ∈ cap, 0 ≤ c := by
  obtain ⟨hpresetWord, hpresetId, hpresetValue⟩ := isPlainId_eq_true hpreset
  obtain ⟨htemplateWord, htemplateId, htemplateValue⟩ := isPlainId_eq_true htemplate
  have hread : toolNameRe operation = true →
      parsePolicyDocumentText platform.toPolicyTextPlatform
        (unlines (scaffoldLines version name operation evidencePreset templateId cap))
        sourceLabel =
      .ok (.ofList (scaffoldFields version name operation evidencePreset templateId cap)) :=
    fun hname => read_scaffoldLines platform version (hword hname) (word_of_toolNameRe hname)
      hpresetWord hpresetValue htemplateWord htemplateValue
  constructor
  · rintro ⟨document, hloaded, rfl, ⟨entry, htools, -, -, rfl⟩, -⟩
    obtain ⟨raw, hraw, haccepted⟩ := readPolicyText_eq_ok.mp hloaded
    obtain ⟨hname, hcap⟩ := toolNameRe_of_accepted (documentParts_of_accepted haccepted) htools
    rw [hread hname] at hraw
    obtain rfl := Except.ok.inj hraw
    rw [items_scaffoldFields] at haccepted
    have hparts := documentParts_of_accepted haccepted
    have hget : ∀ key, (OrderedDict.ofList (scaffoldFields version document.name operation
        evidencePreset templateId entry.maxSpendCents)).get? key = _ :=
      (scaffoldPayload version document.name operation evidencePreset templateId
        entry.maxSpendCents).get?_mapping
    obtain ⟨hnameRaw, -, hnameRe⟩ := expectPattern_eq_ok hparts.name
    have hnameValue : (OrderedDict.ofList (scaffoldFields version document.name operation
        evidencePreset templateId entry.maxSpendCents)).getValue "name" =
          wordValue document.name := by
      rw [OrderedDict.getValue, hget]
      rfl
    obtain ⟨minEntries, hparsed⟩ := hparts.tools
    have htoolsValue : (OrderedDict.ofList (scaffoldFields version document.name operation
        evidencePreset templateId entry.maxSpendCents)).getValue "tools" =
          toolsValue operation evidencePreset entry.maxSpendCents := by
      rw [OrderedDict.getValue, hget]
      rfl
    rw [htoolsValue] at hparsed
    have hmem : (operation, entry) ∈ document.tools.items := by simp [htools]
    have hvalue := wordValue_of_parseToolsMap hparsed hmem
    rw [hnameValue] at hnameRaw
    exact ⟨⟨hname, (wordValue_eq_str.mp hvalue).2⟩, ⟨hnameRe, hnameRaw⟩, hcap⟩
  · rintro ⟨hfits, ⟨hnameRe, hnameValue⟩, hcap⟩
    have hscaffold : ScaffoldFits name operation evidencePreset templateId cap :=
      ⟨hnameRe, hnameValue, hfits.1, hfits.value, entry_schemaValid hfits.1 hpresetId hcap,
        htemplateId⟩
    have hitems : (OrderedDict.ofList [(operation,
        scaffoldEntry operation evidencePreset cap)]).items =
          [(operation, scaffoldEntry operation evidencePreset cap)] :=
      OrderedDict.items_ofList (by simp)
    obtain rfl | rfl := hversion
    · have haccepted := accepted_policy hscaffold
      rw [← items_scaffoldFields] at haccepted
      have hloaded := readPolicyText_eq_ok.mpr ⟨_, hread hfits.1, haccepted⟩
      exact ⟨_, hloaded, rfl, ⟨_, hitems, rfl, rfl, rfl⟩, rfl⟩
    · have haccepted := accepted_orgBase hscaffold
      rw [← items_scaffoldFields] at haccepted
      have hloaded := readPolicyText_eq_ok.mpr ⟨_, hread hfits.1, haccepted⟩
      exact ⟨_, hloaded, rfl, ⟨_, hitems, rfl, rfl, rfl⟩, rfl⟩

end Loads

/-! ## Overlays -/

/-- The tool that an overlay is given. -/
def ScaffoldTenantOverlayPolicyOptions.tool (options : ScaffoldTenantOverlayPolicyOptions) :
    Option (String × String) :=
  match strippedOption options.operation, strippedOption options.evidencePreset with
  | some operation, some evidencePreset => some (operation, evidencePreset)
  | _, _ => none

section Overlays

variable {platform : ScaffoldPlatform} {sourceLabel : String} {document : PaybondPolicyDocument}

theorem word_of_scaffoldPolicyNameRe {name : String} (hname : scaffoldPolicyNameRe name = true) :
    Word name := by
  refine word_of_matchesHeadTail (fun _ h => h) (fun c h => ?_) hname
  simp only [isWordChar, Bool.or_eq_true, decide_eq_true_eq] at h ⊢
  exact h.imp_left fun h => .inl (.inl h)

theorem word_of_scaffoldOrgIdRe {orgId : String} (horg : scaffoldOrgIdRe orgId = true) :
    Word orgId := by
  rw [scaffoldOrgIdRe, Bool.and_eq_true, decide_eq_true_eq] at horg
  obtain ⟨hstart, hmatch⟩ := horg
  have hchars : orgId.toList = "org_".toList ++ orgId.toList.drop 4 := by
    rw [← hstart, List.take_append_drop]
  have hrest : Word (String.ofList (orgId.toList.drop 4)) := by
    rw [← @String.toList_ofList (orgId.toList.drop 4)] at hmatch
    refine word_of_matchesHeadTail (fun _ h => h) (fun c h => ?_) hmatch
    simp only [isWordChar, Bool.or_eq_true, decide_eq_true_eq] at h ⊢
    exact .inl (.inl h)
  refine ⟨⟨'o', 'r' :: 'g' :: '_' :: orgId.toList.drop 4, hchars, by decide⟩, fun c hc => ?_⟩
  rw [hchars] at hc
  rcases List.mem_append.mp hc with hc | hc
  · exact forall_mem_of_all (p := fun c => isWordChar c = true) (by decide) c hc
  · exact hrest.chars c (by rwa [String.toList_ofList])

theorem strippedOption_eq_some {text : Option String} {stripped : String}
    (hstripped : strippedOption text = some stripped) : ValueText stripped := by
  rw [strippedOption, truthyStr, Option.filter_eq_some_iff] at hstripped
  obtain ⟨hmap, hne⟩ := hstripped
  obtain ⟨given, -, rfl⟩ := Option.map_eq_some_iff.mp hmap
  exact ⟨pyStrip_pyStrip given, of_decide_eq_true hne⟩

/-- The parent of an accepted document that was read from blocks names a base policy on one
line. -/
theorem unbroken_basePolicy {items : List (String × PyValue)} {parent : PaybondPolicyExtends}
    (hstrings : OnStrings (Spelled (isLineBreak · = false)) (.dict items))
    (hparts : DocumentParts (.ofList items) document) (hparent : document.parent = some parent) :
    ∀ basePolicy ∈ parent.basePolicy, Unbroken basePolicy := by
  intro basePolicy hbase
  have hsection := hparts.parent parent hparent
  unfold optionalSection optionalAt at hsection
  split at hsection
  · cases hsection
  next raw hraw =>
    obtain ⟨parsed, hparsed, hsome⟩ := except_map_eq_ok.mp hsection
    obtain rfl := Option.some.inj hsome
    have hrawStrings := hstrings.get? hraw
    simp only [parseExtends, except_bind_eq_ok, except_pure_eq_ok] at hparsed
    obtain ⟨mapping, hmapping, _, -, _, -, _, -, _, -, found, hfound, rfl⟩ := hparsed
    unfold expectMapping at hmapping
    split at hmapping
    next fields =>
      obtain rfl := Except.ok.inj hmapping
      obtain rfl : found = some basePolicy := hbase
      unfold optionalField optionalAt at hfound
      split at hfound
      · cases hfound
      next value hvalue =>
        obtain ⟨text, htext, hsame⟩ := except_map_eq_ok.mp hfound
        obtain rfl := Option.some.inj hsame
        obtain ⟨checked, hchecked, hresult⟩ := except_bind_eq_ok.mp htext
        obtain ⟨rfl, -⟩ := expectStr_eq_ok hchecked
        obtain rfl : checked = text := by
          split at hresult
          · exact Except.ok.inj hresult
          · cases hresult
        exact (hrawStrings.get? hvalue).of_str
    next => cases hmapping

theorem parsePolicyExtendsRef_eq_ok {ref orgId orgPolicyId : String}
    (href : parsePolicyExtendsRef ref = .ok (orgId, orgPolicyId)) :
    Word orgId ∧ Word orgPolicyId := by
  unfold parsePolicyExtendsRef at href
  split at href
  next before after hspan =>
    simp only [except_bind_eq_ok, raiseIf_eq_ok, except_pure_eq_ok, Prod.mk.injEq] at href
    obtain ⟨_, -, _, horg, _, hpolicy, rfl, rfl⟩ := href
    exact ⟨word_of_scaffoldOrgIdRe (Bool.not_eq_false _ ▸ horg),
      word_of_scaffoldPolicyNameRe (Bool.not_eq_false _ ▸ hpolicy)⟩
  next => cases href

theorem onStrings_of_version {text : String} {raw : OrderedDict String PyValue}
    (htext : text.toList.head? = some 'v')
    (hread : parsePolicyDocumentText platform.toPolicyTextPlatform text sourceLabel = .ok raw) :
    OnStrings (Spelled (isLineBreak · = false)) (.dict raw.items) := by
  rw [parsePolicyDocumentText_version htext] at hread
  exact unbroken_parseIndentedYaml hread

theorem head_extendsLines {name orgPolicyId orgId : String} {basePolicy : Option String}
    (rest : List String) :
    (unlines (extendsLines name orgPolicyId orgId basePolicy ++ rest)).toList.head? = some 'v' := by
  rw [← String.append_empty (s := unlines _)]
  exact head_unlines (by decide) ""

/-- What an overlay says of its tools and its intent. -/
theorem get?_overlayFields {name orgPolicyId orgId : String} {base : Option PyValue}
    {tools : List (String × PyValue)} (htools : tools.map Prod.fst = [] ∨
      tools.map Prod.fst = ["tools"]) :
    (OrderedDict.ofList (overlayFields name orgPolicyId orgId base tools)).items =
        overlayFields name orgPolicyId orgId base tools ∧
      (OrderedDict.ofList (overlayFields name orgPolicyId orgId base tools)).get? "intent" =
        none ∧
      (tools = [] → (OrderedDict.ofList (overlayFields name orgPolicyId orgId base tools)).get?
        "tools" = none) := by
  have hnodup : ((overlayFields name orgPolicyId orgId base tools).map Prod.fst).Nodup := by
    rcases htools with htools | htools <;> simp [overlayFields, htools]
  have hitems := OrderedDict.items_ofList hnodup
  have hnone : ∀ key, key ∉ (overlayFields name orgPolicyId orgId base tools).map Prod.fst →
      (OrderedDict.ofList (overlayFields name orgPolicyId orgId base tools)).get? key = none := by
    intro key hkey
    rw [OrderedDict.get?_eq_none_iff, OrderedDict.keys, hitems]
    exact hkey
  refine ⟨hitems, hnone _ ?_, ?_⟩
  · rcases htools with htools | htools <;> simp [overlayFields, htools]
  · rintro rfl
    exact hnone _ (by simp [overlayFields])

/-- An overlay with a tool has no allowed tools, and one without a tool is not accepted. -/
theorem not_overlayLoadsAs {options : ScaffoldTenantOverlayPolicyOptions}
    {orgId orgPolicyId text : String}
    (href : parsePolicyExtendsRef options.extendsRef = .ok (orgId, orgPolicyId))
    (hrender : renderTenantOverlayPolicyYaml options = .ok text) :
    ¬OverlayLoadsAs platform.toPolicyTextPlatform text sourceLabel
      (overlayNameFromPolicyId orgPolicyId options.name)
      { orgPolicyId, orgId, basePolicy := strippedOption options.basePolicy } options.tool := by
  rintro ⟨document, hloaded, -, hparent, htool⟩
  obtain ⟨raw, hraw, haccepted⟩ := readPolicyText_eq_ok.mp hloaded
  obtain ⟨horgWord, hpolicyWord⟩ := parsePolicyExtendsRef_eq_ok href
  simp only [renderTenantOverlayPolicyYaml, href, except_ok_bind, except_bind_eq_ok, raiseIf_eq_ok,
    except_pure_eq_ok] at hrender
  obtain ⟨_, hname, _, hpaired, _, hpaired', _, htemplate, rfl⟩ := hrender
  have hnameWord := word_of_scaffoldPolicyNameRe (Bool.not_eq_false _ ▸ hname)
  generalize overlayNameFromPolicyId orgPolicyId options.name = name at hraw hnameWord
  have hbaseText : ∀ base ∈ strippedOption options.basePolicy, ValueText base :=
    fun base hbase => strippedOption_eq_some hbase
  generalize strippedOption options.basePolicy = basePolicy at hraw hparent hbaseText
  have hjoined : ∀ toolsBlock : List String,
      ["version: 2", s!"name: {name}", "extends:", s!"  org_policy_id: {orgPolicyId}",
        s!"  org_id: {orgId}"] ++ (basePolicy.toList.map fun basePolicy =>
          s!"  base_policy: {basePolicy}") ++ ["default_deny: true", ""] ++ toolsBlock =
        extendsLines name orgPolicyId orgId basePolicy ++ [""] ++ toolsBlock := by
    intro toolsBlock
    simp [extendsLines]
  rw [hjoined, List.append_assoc] at hraw
  have hparts := documentParts_of_accepted haccepted
  -- a base policy of several lines is not read back
  have hstrings := onStrings_of_version (head_extendsLines _) hraw
  have hbase : ∀ base ∈ basePolicy, ValueText base ∧ Unbroken base := fun base hmem =>
    ⟨hbaseText base hmem, unbroken_basePolicy hstrings hparts hparent base hmem⟩
  unfold ScaffoldTenantOverlayPolicyOptions.tool at htool
  cases hoperation : strippedOption options.operation with
  | none =>
      rw [hoperation] at htool hraw
      obtain ⟨base, rfl⟩ := read_overlay_bare hnameWord hpolicyWord horgWord hbase hraw
      obtain ⟨hitems, -, hget⟩ := @get?_overlayFields name orgPolicyId orgId base [] (.inl rfl)
      rw [hitems] at hparts
      obtain ⟨minEntries, hparsed⟩ := hparts.tools
      rw [OrderedDict.getValue, hget rfl] at hparsed
      cases hparsed
  | some operation =>
      cases hpreset : strippedOption options.evidencePreset with
      | none => exact hpaired ⟨by rw [hoperation]; rfl, by rw [hpreset]; rfl⟩
      | some evidencePreset =>
          rw [hoperation, hpreset] at htool hraw
          obtain ⟨⟨entry, htools, -⟩, hallowed⟩ := htool
          have hoperationWord := word_of_toolNameRe (toolNameRe_of_accepted hparts htools).1
          rw [hpreset] at htemplate
          obtain ⟨templateId, htemplate, -⟩ := except_bind_eq_ok.mp htemplate
          obtain ⟨hpresetWord, -, hpresetValue⟩ :=
            isPlainId_eq_true (plainId_of_template htemplate).1.1
          rw [← List.append_assoc] at hraw
          obtain ⟨base, rfl⟩ := read_overlay_tool hnameWord hpolicyWord horgWord hbase
            hoperationWord hpresetWord hpresetValue hraw
          obtain ⟨hitems, hget, -⟩ := @get?_overlayFields name orgPolicyId orgId base
            [("tools", toolsValue operation evidencePreset none)] (.inr rfl)
          rw [hitems] at hparts
          obtain ⟨intent, hintent, hsame⟩ := hparts.allowedTools
          rw [optionalSection, optionalAt, hget] at hintent
          obtain rfl := Except.ok.inj hintent
          rw [hsame] at hallowed
          cases hallowed

end Overlays

/-! ## The renderers -/

section Renderers

theorem policyNameRe_iff {name : String} (hname : scaffoldPolicyNameRe name = true) :
    policyNameRe name = true ↔ name.length ≤ 64 := by
  rw [scaffoldPolicyNameRe] at hname
  rw [policyNameRe, ← String.length_toList]
  cases hchars : name.toList with
  | nil =>
      rw [hchars] at hname
      cases hname
  | cons c rest =>
      rw [hchars, matchesHeadTail, Bool.and_eq_true, Bool.and_eq_true, List.all_eq_true] at hname
      obtain ⟨⟨hc, hrest⟩, -⟩ := hname
      have hall : rest.all (fun c => isLower c || isDigit c || c = '_' || c = '-') = true := by
        rw [List.all_eq_true]
        intro d hd
        have hchar := hrest d hd
        simp only [Bool.or_eq_true, decide_eq_true_eq] at hchar ⊢
        exact hchar.imp_left .inl
      rw [matchesHeadTail, hc, hall, List.length_cons]
      simp only [Bool.and_self, Bool.true_and, decide_eq_true_eq]
      omega

theorem scaffoldLines_policy (name operation evidencePreset templateId : String) :
    ["version: 1", s!"name: {name}", "default_deny: true", ""] ++
        toolLines operation evidencePreset [] ++ [""] ++ intentLines operation templateId =
      scaffoldLines 1 name operation evidencePreset templateId none := by
  have hversion : "version: 1" = s!"version: {(1 : Int)}" := rfl
  exact congrArg (fun version => [version, s!"name: {name}", "default_deny: true", ""] ++
    toolLines operation evidencePreset [] ++ [""] ++ intentLines operation templateId) hversion

theorem scaffoldLines_orgBase (name operation evidencePreset templateId : String)
    (cap : Option Int) :
    ["version: 2", s!"name: {name}", "default_deny: true", ""] ++
        toolLines operation evidencePreset
          (cap.toList.map fun cap => s!"    max_spend_cents: {cap}") ++
        [""] ++ intentLines operation templateId =
      scaffoldLines 2 name operation evidencePreset templateId cap := by
  have hversion : "version: 2" = s!"version: {(2 : Int)}" := rfl
  exact congrArg (fun version => [version, s!"name: {name}", "default_deny: true", ""] ++
    toolLines operation evidencePreset
      (cap.toList.map fun cap => s!"    max_spend_cents: {cap}") ++
    [""] ++ intentLines operation templateId) hversion

theorem policyNameFromOperation_strip (platform : ScaffoldPlatform) (operation : String) :
    policyNameFromOperation platform (pyStrip operation) =
      policyNameFromOperation platform operation := by
  unfold policyNameFromOperation
  rw [pyStrip_pyStrip]

/-- A starter policy loads exactly when its operation is a tool name that is no boolean and the
name made of it is not too long; an org base needs moreover a policy id that is neither too long
nor a boolean and a cap that is not negative; an overlay never loads. -/
theorem scaffolds_load_iff (platform : ScaffoldPlatform) (sourceLabel : String) :
    (∀ options text, renderPaybondPolicyYaml platform options = .ok text →
      (LoadsAs platform.toPolicyTextPlatform text sourceLabel
          (policyNameFromOperation platform options.operation) (pyStrip options.operation)
          (pyStrip options.evidencePreset) none ↔
        ToolNameFits (pyStrip options.operation) ∧
          (policyNameFromOperation platform options.operation).length ≤ 64)) ∧
    (∀ options text, renderOrgBasePolicyYaml options = .ok text →
      (LoadsAs platform.toPolicyTextPlatform text sourceLabel (pyStrip options.policyId)
          (pyStrip options.operation) (pyStrip options.evidencePreset) options.maxSpendCents ↔
        ToolNameFits (pyStrip options.operation) ∧
          ((pyStrip options.policyId).length ≤ 64 ∧ pyStrip options.policyId ≠ "true" ∧
            pyStrip options.policyId ≠ "false") ∧
          ∀ cap ∈ options.maxSpendCents, 0 ≤ cap)) ∧
    ∀ options orgId orgPolicyId text,
      parsePolicyExtendsRef options.extendsRef = .ok (orgId, orgPolicyId) →
      renderTenantOverlayPolicyYaml options = .ok text →
        ¬OverlayLoadsAs platform.toPolicyTextPlatform text sourceLabel
          (overlayNameFromPolicyId orgPolicyId options.name)
          { orgPolicyId, orgId, basePolicy := strippedOption options.basePolicy }
          options.tool := by
  refine ⟨?_, ?_, fun options orgId orgPolicyId text => not_overlayLoadsAs⟩
  · intro options text hrender
    simp only [renderPaybondPolicyYaml, except_bind_eq_ok, raiseIf_eq_ok, except_pure_eq_ok]
      at hrender
    obtain ⟨_, -, _, -, templateId, htemplate, rfl⟩ := hrender
    obtain ⟨⟨hpreset, htemplateId⟩, hstub⟩ := plainId_of_template htemplate
    rw [hstub, policyNameFromOperation_strip, scaffoldLines_policy]
    have hfits := @policyName_fits platform (pyStrip options.operation)
    rw [policyNameFromOperation_strip] at hfits
    have hword : toolNameRe (pyStrip options.operation) = true →
        Word (policyNameFromOperation platform options.operation) := by
      intro hname
      have hslug := (@slug_policyName_toList platform _ hname).1
      rw [policyNameFromOperation_strip] at hslug
      exact hslug.word
    generalize policyNameFromOperation platform options.operation = name at hfits hword ⊢
    have hloads := @loadsAs_scaffold_iff platform name (pyStrip options.operation)
      (pyStrip options.evidencePreset) templateId sourceLabel none 1 (.inl rfl) hpreset htemplateId
      hword
    rw [hloads]
    constructor
    · rintro ⟨htool, ⟨hpolicyName, -⟩, -⟩
      exact ⟨htool, (hfits htool.1).2.mp hpolicyName⟩
    · rintro ⟨htool, hlength⟩
      exact ⟨htool, ⟨(hfits htool.1).2.mpr hlength, (hfits htool.1).1⟩,
        fun cap hcap => absurd hcap (Option.not_mem_none cap)⟩
  · intro options text hrender
    simp only [renderOrgBasePolicyYaml, except_bind_eq_ok, raiseIf_eq_ok, except_pure_eq_ok]
      at hrender
    obtain ⟨_, -, _, hpolicyId, _, -, _, -, templateId, htemplate, rfl⟩ := hrender
    obtain ⟨⟨hpreset, htemplateId⟩, hstub⟩ := plainId_of_template htemplate
    have hpolicyId : scaffoldPolicyNameRe (pyStrip options.policyId) = true :=
      Bool.not_eq_false _ ▸ hpolicyId
    rw [hstub, scaffoldLines_orgBase]
    refine (@loadsAs_scaffold_iff platform _ _ _ templateId sourceLabel options.maxSpendCents 2
      (.inr rfl) hpreset htemplateId fun _ => word_of_scaffoldPolicyNameRe hpolicyId).trans ?_
    rw [policyNameRe_iff hpolicyId, wordValue_eq_str]
    constructor
    · rintro ⟨htool, ⟨hlength, -, hplain⟩, hcap⟩
      exact ⟨htool, ⟨hlength, hplain⟩, hcap⟩
    · rintro ⟨htool, ⟨hlength, hplain⟩, hcap⟩
      exact ⟨htool, ⟨hlength, rfl, hplain⟩, hcap⟩

end Renderers

/-! ## An overlay without a tool -/

theorem asciiNat_toDigits (n : ℕ) : asciiNat (Nat.toDigits 10 n) = some (n : Int) := by
  have hdigits : (Nat.toDigits 10 n).all Char.isDigit = true := by
    rw [List.all_eq_true]
    intro c hc
    exact Nat.isDigit_of_mem_toDigits (by decide) (by decide) hc
  have hfold : ∀ (chars : List Char) (start : ℕ), (∀ c ∈ chars, c.isDigit = true) →
      chars.foldl (fun (number : Int) digit => 10 * number + (digit.toNat - '0'.toNat)) (start : Int) =
        ((Nat.ofDigitChars 10 chars start : ℕ) : Int) := by
    intro chars
    induction chars with
    | nil => exact fun start _ => by rw [Nat.ofDigitChars_nil]; rfl
    | cons c chars ih =>
        intro start hchars
        have hc : 48 ≤ c.toNat := by
          have hdigit := hchars c List.mem_cons_self
          simp only [Char.isDigit, Bool.and_eq_true, decide_eq_true_eq] at hdigit
          exact hdigit.1
        have hzero : '0'.toNat = 48 := rfl
        rw [List.foldl_cons, Nat.ofDigitChars_cons,
          ← ih _ fun d hd => hchars d (List.mem_cons_of_mem _ hd)]
        congr 1
        rw [hzero]
        omega
  rw [asciiNat, if_pos ⟨Nat.toDigits_ne_nil, hdigits⟩]
  have hvalue := hfold (Nat.toDigits 10 n) 0 (List.all_eq_true.mp hdigits)
  rw [Nat.ofDigitChars_ten_toDigits] at hvalue
  exact congrArg some hvalue

theorem asciiInt_toString (number : Int) : asciiInt (toString number) = some number := by
  cases number with
  | ofNat n =>
      have hchars : (toString (Int.ofNat n)).toList = Nat.toDigits 10 n := Nat.toList_repr
      unfold asciiInt
      rw [hchars]
      split
      next digits hdash =>
        have hdigit := @Nat.isDigit_of_mem_toDigits 10 n '-' (by decide) (by decide)
          (hdash ▸ List.mem_cons_self)
        cases hdigit
      next => exact asciiNat_toDigits n
  | negSucc n =>
      have hchars : (toString (Int.negSucc n)).toList = '-' :: Nat.toDigits 10 (n + 1) := by
        have htext : toString (Int.negSucc n) = "-" ++ (n + 1).repr := rfl
        rw [htext, String.toList_append, Nat.toList_repr]
        rfl
      unfold asciiInt
      rw [hchars]
      exact congrArg (Option.map Neg.neg) (asciiNat_toDigits (n + 1))

/-- A platform that knows ASCII alone. -/
def platformScaffold : ScaffoldPlatform where
  toPolicyTextPlatform := platformDigits
  lower text := String.ofList (text.toList.map Char.toLower)
  isAlnum := Char.isAlphanum
  lower_ascii _ _ := rfl
  isAlnum_ascii _ _ := rfl
  digits := ⟨fun _ _ => rfl, fun _ _ => rfl, asciiInt_toString⟩
  jsonRaises_version _ _ := rfl

/-- An overlay that is given its parent alone. -/
def bareOverlay : ScaffoldTenantOverlayPolicyOptions where
  extendsRef := "org_acme/acme"

theorem parsePolicyExtendsRef_bareOverlay :
    parsePolicyExtendsRef bareOverlay.extendsRef = .ok ("org_acme", "acme") := by
  rfl

theorem not_scaffolds_load : ¬∀ (platform : ScaffoldPlatform) (sourceLabel : String),
    (∀ options text, renderPaybondPolicyYaml platform options = .ok text →
      LoadsAs platform.toPolicyTextPlatform text sourceLabel
        (policyNameFromOperation platform options.operation) (pyStrip options.operation)
        (pyStrip options.evidencePreset) none) ∧
    (∀ options text, renderOrgBasePolicyYaml options = .ok text →
      LoadsAs platform.toPolicyTextPlatform text sourceLabel (pyStrip options.policyId)
        (pyStrip options.operation) (pyStrip options.evidencePreset) options.maxSpendCents) ∧
    ∀ options orgId orgPolicyId text,
      parsePolicyExtendsRef options.extendsRef = .ok (orgId, orgPolicyId) →
      renderTenantOverlayPolicyYaml options = .ok text →
        OverlayLoadsAs platform.toPolicyTextPlatform text sourceLabel
          (overlayNameFromPolicyId orgPolicyId options.name)
          { orgPolicyId, orgId, basePolicy := strippedOption options.basePolicy }
          options.tool := by
  intro hloads
  have hname : scaffoldPolicyNameRe (overlayNameFromPolicyId "acme" none) = true := by
    decide +kernel
  have hrender : ∃ text, renderTenantOverlayPolicyYaml bareOverlay = .ok text := by
    refine ⟨unlines (extendsLines (overlayNameFromPolicyId "acme" none) "acme" "org_acme" none ++
      [""]), ?_⟩
    rw [renderTenantOverlayPolicyYaml, parsePolicyExtendsRef_bareOverlay, except_ok_bind]
    simp only [hname, bareOverlay, strippedOption, Option.map_none, truthyStr, Option.filter_none,
      Option.isSome_none, Option.isNone_none, raiseIf, Option.mapM_none, Bool.true_eq_false,
      Bool.false_eq_true, if_false, false_and, except_ok_bind]
    rfl
  obtain ⟨text, hrender⟩ := hrender
  exact not_overlayLoadsAs parsePolicyExtendsRef_bareOverlay hrender
    ((hloads platformScaffold "policy file").2.2 _ _ _ _ parsePolicyExtendsRef_bareOverlay hrender)

end PaybondKit.Policy
