import PaybondKit.Policy.Scaffold
import PaybondKit.Policy.SchemaForm

/-!
# What a scaffolded text says

The lines of a template, and the document that they print when what was set into the template is
made of words.
-/

namespace PaybondKit.Policy

open Agent (PyExc)

/-! ## Lines of a template -/

theorem yamlLine?_line {indent : ℕ} {raw text : String}
    (hraw : raw.toList = List.replicate indent ' ' ++ text.toList) (htext : LineText text) :
    yamlLine? raw.toList = some (printedLine indent text) := by
  rw [hraw]
  exact yamlLine?_printed htext indent

theorem yamlLine?_blank : yamlLine? "".toList = none := rfl

theorem yamlLine?_comment {indent : ℕ} {start rest : List Char} {text : String}
    (hstart : start = List.replicate indent ' ' ++ '#' :: rest) :
    yamlLine? (String.ofList start ++ text).toList = none := by
  have hspaces : ∀ c ∈ List.replicate indent ' ', isPySpace c = true := fun c hc =>
    (List.eq_of_mem_replicate hc) ▸ rfl
  have htrimmed : (pyStrip (String.ofList (String.ofList start ++ text).toList)).toList =
      '#' :: (rest ++ text.toList).rdropWhile isPySpace := by
    rw [toList_pyStrip, String.toList_ofList, String.toList_append, String.toList_ofList, hstart,
      List.append_assoc, List.cons_append, List.dropWhile_append_of_pos hspaces,
      List.dropWhile_cons_of_neg (by decide)]
    exact rdropWhile_append_cons (by decide) [] _
  rw [yamlLine?]
  exact if_pos (.inr (by rw [htrimmed]; rfl))

/-- The keys and the constant that the templates have. -/
def templateWords : List String :=
  ["version", "name", "default_deny", "tools", "side_effecting", "evidence_preset",
    "max_spend_cents", "operation", "intent", "policy_binding", "template_id", "allowed_tools",
    "extends", "org_policy_id", "org_id", "base_policy", "true"]

theorem word_template (key : String) (hkey : key ∈ templateWords := by simp [templateWords]) :
    Word key := by
  apply word_of_toolNameRe
  exact forall_mem_of_all (p := fun key => toolNameRe key = true) (by decide +kernel) key hkey

section Tokens

variable {indent : ℕ} {operation evidencePreset templateId : String} {cap : Option Int}

/-- The lines of a tool that the parser sees. -/
def toolYaml (operation evidencePreset : String) (cap : Option Int) : List YamlLine :=
  [printedLine 0 ("tools" ++ ":"), printedLine 2 (operation ++ ":"),
    printedLine 4 ("side_effecting" ++ ": " ++ "true"),
    printedLine 4 ("evidence_preset" ++ ": " ++ evidencePreset)] ++
    cap.toList.map (fun cap => printedLine 4 ("max_spend_cents" ++ ": " ++ toString cap)) ++
    [printedLine 4 ("operation" ++ ": " ++ operation)]

def intentYaml (operation templateId : String) : List YamlLine :=
  [printedLine 0 ("intent" ++ ":"), printedLine 2 ("policy_binding" ++ ":"),
    printedLine 4 ("template_id" ++ ": " ++ templateId), printedLine 2 ("allowed_tools" ++ ":"),
    printedLine 4 ("- " ++ operation)]

theorem tokens_toolLines (hoperation : Word operation) (hpreset : Word evidencePreset) :
    yamlTokens (toolLines operation evidencePreset
      (cap.toList.map fun cap => s!"    max_spend_cents: {cap}")) =
        toolYaml operation evidencePreset cap := by
  have htools : yamlLine? "tools:".toList = some (printedLine 0 ("tools" ++ ":")) :=
    yamlLine?_line (by simp) (lineText_heading (word_template "tools").key)
  have hname : yamlLine? (s!"  {operation}:").toList = some (printedLine 2 (operation ++ ":")) := by
    refine yamlLine?_line ?_ (lineText_heading hoperation.key)
    simp [toString]
  have hside : yamlLine? "    side_effecting: true".toList =
      some (printedLine 4 ("side_effecting" ++ ": " ++ "true")) :=
    yamlLine?_line (by simp) (lineText_member (word_template "side_effecting").key (word_template "true").value)
  have hevidence : yamlLine? (s!"    evidence_preset: {evidencePreset}").toList =
      some (printedLine 4 ("evidence_preset" ++ ": " ++ evidencePreset)) := by
    refine yamlLine?_line ?_ (lineText_member (word_template "evidence_preset").key hpreset.value)
    simp [toString]
  have hlast : yamlLine? (s!"    operation: {operation}").toList =
      some (printedLine 4 ("operation" ++ ": " ++ operation)) := by
    refine yamlLine?_line ?_ (lineText_member (word_template "operation").key hoperation.value)
    simp [toString]
  have hcap : ∀ cap : Int, yamlLine? (s!"    max_spend_cents: {cap}").toList =
      some (printedLine 4 ("max_spend_cents" ++ ": " ++ toString cap)) := by
    intro cap
    refine yamlLine?_line ?_
      (lineText_member (word_template "max_spend_cents").key (valueText_int cap))
    simp [toString]
  have hcaps : yamlTokens (cap.toList.map fun cap => s!"    max_spend_cents: {cap}") =
      cap.toList.map fun cap => printedLine 4 ("max_spend_cents" ++ ": " ++ toString cap) := by
    cases cap with
    | none => rfl
    | some cap => exact yamlTokens_cons_some (hcap cap)
  rw [toolLines, toolYaml, yamlTokens_append, yamlTokens_append, hcaps,
    yamlTokens_cons_some htools, yamlTokens_cons_some hname, yamlTokens_cons_some hside,
    yamlTokens_cons_some hevidence, yamlTokens_cons_some hlast, yamlTokens_nil]

theorem tokens_intentLines (hoperation : Word operation) (htemplate : Word templateId) :
    yamlTokens (intentLines operation templateId) = intentYaml operation templateId := by
  have hintent : yamlLine? "intent:".toList = some (printedLine 0 ("intent" ++ ":")) :=
    yamlLine?_line (by simp) (lineText_heading (word_template "intent").key)
  have hcomment : yamlLine? ("  # Production: publish template head, then " ++
      "paybond.intents.create_with_policy_binding(policy.to_intent_create_input(...))").toList =
        none :=
    @yamlLine?_comment 2 _ _ _ rfl
  have hbinding : yamlLine? "  policy_binding:".toList =
      some (printedLine 2 ("policy_binding" ++ ":")) :=
    yamlLine?_line (by simp) (lineText_heading (word_template "policy_binding").key)
  have htemplateId : yamlLine? (s!"    template_id: {templateId}").toList =
      some (printedLine 4 ("template_id" ++ ": " ++ templateId)) := by
    refine yamlLine?_line ?_ (lineText_member (word_template "template_id").key htemplate.value)
    simp [toString]
  have hallowed : yamlLine? "  allowed_tools:".toList =
      some (printedLine 2 ("allowed_tools" ++ ":")) :=
    yamlLine?_line (by simp) (lineText_heading (word_template "allowed_tools").key)
  have hitem : yamlLine? (s!"    - {operation}").toList =
      some (printedLine 4 ("- " ++ operation)) := by
    refine yamlLine?_line ?_ (lineText_item hoperation.value)
    simp [toString]
  rw [intentLines, intentYaml, yamlTokens_cons_some hintent, yamlTokens_cons_none hcomment,
    yamlTokens_cons_some hbinding, yamlTokens_cons_some htemplateId,
    yamlTokens_cons_some hallowed, yamlTokens_cons_some hitem, yamlTokens_nil]

end Tokens

/-! ## What the lines print -/

section Printed

variable {platform : TextPlatform} {operation evidencePreset templateId : String}
variable {cap : Option Int} {lines : List YamlLine} {contents : List (Option String × PyValue)}

theorem blockValue_object {contents : List (Option String × PyValue)}
    (hnodup : (contents.map fun content => content.1.getD "").Nodup) :
    blockValue false contents =
      .dict (contents.map fun content => (content.1.getD "", content.2)) := by
  have hkeys : ((contents.map fun content => (content.1.getD "", content.2)).map
      Prod.fst).Nodup := by
    rwa [List.map_map]
  rw [blockValue, if_neg Bool.false_ne_true, OrderedDict.items_ofList hkeys]

/-- The fields of the tool, in the order of their lines. -/
def toolFields (operation evidencePreset : String) (cap : Option Int) : List (String × PyValue) :=
  [("side_effecting", .bool true), ("evidence_preset", .str evidencePreset)] ++
    cap.toList.map (fun cap => ("max_spend_cents", .int cap)) ++
    [("operation", wordValue operation)]

def toolsValue (operation evidencePreset : String) (cap : Option Int) : PyValue :=
  .dict [(operation, .dict (toolFields operation evidencePreset cap))]

def intentValue (operation templateId : String) : PyValue :=
  .dict [("policy_binding", .dict [("template_id", .str templateId)]),
    ("allowed_tools", .list [wordValue operation])]

theorem isItem_heading {indent : ℕ} {key : String} (hkey : KeyText key) :
    (printedLine indent (key ++ ":")).isItem = false :=
  isItem_printed hkey (lineText_heading hkey) (toList_heading key)

theorem isItem_member {indent : ℕ} {key text : String} (hkey : KeyText key)
    (htext : ValueText text) : (printedLine indent (key ++ ": " ++ text)).isItem = false := by
  have hchars := toList_member key text
  rw [List.append_assoc] at hchars
  exact isItem_printed hkey (lineText_member hkey htext) hchars

theorem parseYamlScalar_true : parseYamlScalar platform "true" = .ok (.bool true) := by
  rw [parseYamlScalar, if_neg (by decide), if_pos rfl]

/-- A block of members. -/
theorem prints_object {indent : ℕ} {key : String} {first : YamlLine} {inner : List YamlLine}
    {innerContents : List (Option String × PyValue)} (hkey : KeyText key)
    (hfirst : first.isItem = false)
    (hinner : Prints platform false (indent + 2) (first :: inner) innerContents)
    (hnodup : (innerContents.map fun content => content.1.getD "").Nodup)
    (hlines : Prints platform false indent lines contents) :
    Prints platform false indent (printedLine indent (key ++ ":") :: (first :: inner ++ lines))
      ((some key, .dict (innerContents.map fun content => (content.1.getD "", content.2))) ::
        contents) := by
  have hblock := @prints_block platform indent key first inner lines innerContents contents hkey
    (by rwa [hfirst]) hlines
  rwa [hfirst, blockValue_object hnodup] at hblock

theorem prints_toolYaml (hdigits : AsciiDigits platform) (hoperation : Word operation)
    (hpreset : Word evidencePreset) (hvalue : wordValue evidencePreset = .str evidencePreset)
    (hlines : Prints platform false 0 lines contents) :
    Prints platform false 0 (toolYaml operation evidencePreset cap ++ lines)
      ((some "tools", toolsValue operation evidencePreset cap) :: contents) := by
  have hlast : Prints platform false 4 [printedLine 4 ("operation" ++ ": " ++ operation)]
      [(some "operation", wordValue operation)] :=
    prints_member (word_template "operation").key hoperation.value
      (parseYamlScalar_word hdigits hoperation) .nil
  have hcaps : Prints platform false 4
      (cap.toList.map (fun cap => printedLine 4 ("max_spend_cents" ++ ": " ++ toString cap)) ++
        [printedLine 4 ("operation" ++ ": " ++ operation)])
      (cap.toList.map (fun cap => (some "max_spend_cents", PyValue.int cap)) ++
        [(some "operation", wordValue operation)]) := by
    cases cap with
    | none => exact hlast
    | some cap =>
        exact prints_member (word_template "max_spend_cents").key (valueText_int cap)
          (parseYamlScalar_int hdigits cap) hlast
  have hpresetScalar := parseYamlScalar_word hdigits hpreset
  rw [hvalue] at hpresetScalar
  have hpresetLine := prints_member (word_template "evidence_preset").key hpreset.value
    hpresetScalar hcaps
  have hfields := prints_member (word_template "side_effecting").key (word_template "true").value
    parseYamlScalar_true hpresetLine
  have hnodup : ((some "side_effecting", PyValue.bool true) ::
      (some "evidence_preset", .str evidencePreset) ::
        (cap.toList.map (fun cap => (some "max_spend_cents", PyValue.int cap)) ++
          [(some "operation", wordValue operation)])).map
            (fun content => content.1.getD "") |>.Nodup := by
    cases cap <;> simp
  have hside : (printedLine 4 ("side_effecting" ++ ": " ++ "true")).isItem = false :=
    isItem_member (word_template "side_effecting").key (word_template "true").value
  have htool := prints_object hoperation.key hside hfields hnodup
    (Prints.nil : Prints platform false 2 [] [])
  have hname : (printedLine 2 (operation ++ ":")).isItem = false := isItem_heading hoperation.key
  have htools := prints_object (word_template "tools").key hname htool (by simp) hlines
  cases cap <;> simpa [toolYaml, toolsValue, toolFields] using htools

theorem prints_intentYaml (hdigits : AsciiDigits platform) (hoperation : Word operation)
    (htemplate : Word templateId) (hvalue : wordValue templateId = .str templateId) :
    Prints platform false 0 (intentYaml operation templateId)
      [(some "intent", intentValue operation templateId)] := by
  have hitem : Prints platform true 4 [printedLine 4 ("- " ++ operation)]
      [(none, wordValue operation)] :=
    prints_item hoperation.value hoperation.no_colon (parseYamlScalar_word hdigits hoperation) .nil
  have hdash : (printedLine 4 ("- " ++ operation)).isItem = true := by
    have hread := @itemReading_item operation 4 hoperation.value hoperation.no_colon
    by_contra hnot
    rw [YamlLine.itemReading_eq_none_iff.mpr (Bool.eq_false_iff.mpr hnot)] at hread
    cases hread
  have hallowed := @prints_block platform 2 "allowed_tools" (printedLine 4 ("- " ++ operation)) []
    [] [(none, wordValue operation)] [] (word_template "allowed_tools").key (by rwa [hdash]) .nil
  have htemplateScalar := parseYamlScalar_word hdigits htemplate
  rw [hvalue] at htemplateScalar
  have htemplateLine := prints_member (word_template "template_id").key htemplate.value
    htemplateScalar (Prints.nil : Prints platform false 4 [] [])
  have hbinding := prints_object (word_template "policy_binding").key
    (isItem_member (word_template "template_id").key htemplate.value) htemplateLine (by simp)
    hallowed
  have hintent := prints_object (word_template "intent").key
    (isItem_heading (word_template "policy_binding").key) hbinding (by simp)
    (Prints.nil : Prints platform false 0 [] [])
  rw [hdash] at hintent
  simpa [intentYaml, intentValue, blockValue, itemValue] using hintent

end Printed

/-! ## The whole text -/

/-- The text has no line break. -/
def Unbroken (text : String) : Prop := ∀ c ∈ text.toList, isLineBreak c = false

theorem Unbroken.append {text other : String} (htext : Unbroken text) (hother : Unbroken other) :
    Unbroken (text ++ other) := by
  intro c hc
  rw [String.toList_append] at hc
  rcases List.mem_append.mp hc with hc | hc
  · exact htext c hc
  · exact hother c hc

theorem Word.unbroken {word : String} (hword : Word word) : Unbroken word := hword.no_break

theorem unbroken_int (number : Int) : Unbroken (toString number) := fun c hc =>
  not_isLineBreak_of_isWordChar (isWordChar_int number c hc)

/-- A literal is the text of its characters, so that no text has to be decoded. -/
theorem unbroken_ofList {chars : List Char}
    (hall : (chars.all fun c => isLineBreak c = false) = true) : Unbroken (String.ofList chars) := by
  intro c hc
  rw [String.toList_ofList] at hc
  exact of_decide_eq_true (List.all_eq_true.mp hall c hc)

section Texts

variable {platform : ScaffoldPlatform} {sourceLabel first last word : String}
variable {middle : List String}

theorem framed_lines (hfirst : first.toList.head? = some 'v') {front : List Char}
    (hlast : last.toList = front ++ word.toList) (hword : ValueText word)
    (hunbroken : ∀ line ∈ first :: (middle ++ [last]), Unbroken line) :
    Framed ((first :: (middle ++ [last])).map String.toList) := by
  refine ⟨?_, ?_, ?_⟩
  · intro line hline
    obtain ⟨text, htext, rfl⟩ := List.mem_map.mp hline
    exact hunbroken text htext
  · obtain ⟨rest, hrest⟩ := List.head?_eq_some_iff.mp hfirst
    exact ⟨'v', rest, _, by rw [List.map_cons, hrest], by decide⟩
  · obtain ⟨before, c, hword'⟩ := List.eq_nil_or_concat' word.toList |>.resolve_left hword.ne_nil
    refine ⟨(first :: middle).map String.toList, front ++ before, c, ?_, ?_⟩
    · rw [← List.cons_append, List.map_append, List.map_singleton, hlast, hword',
        List.append_assoc]
    · have hstripped := (stripLine_eq_self_iff.mp (pyStrip_eq_self_iff.mp hword.stripped)).2
      rw [hword', List.getLast?_concat] at hstripped
      exact hstripped c rfl

theorem head_unlines (hfirst : first.toList.head? = some 'v') (trailing : String) :
    (unlines (first :: middle) ++ trailing).toList.head? = some 'v' := by
  obtain ⟨rest, hrest⟩ := List.head?_eq_some_iff.mp hfirst
  rw [unlines, String.toList_append, String.toList_append, String.toList_intercalate,
    List.map_cons, hrest]
  cases middle <;> simp [List.intercalate]

/-- No template is JSON. -/
theorem parsePolicyDocumentText_version {text : String} (htext : text.toList.head? = some 'v') :
    parsePolicyDocumentText platform.toPolicyTextPlatform text sourceLabel =
      parseIndentedYaml platform.toTextPlatform (pyStrip text) sourceLabel := by
  obtain ⟨rest, hchars⟩ := List.head?_eq_some_iff.mp htext
  have hhead : (pyStrip text).toList = 'v' :: rest.rdropWhile isPySpace := by
    rw [toList_pyStrip, hchars, List.dropWhile_cons_of_neg (by decide)]
    exact rdropWhile_append_cons (by decide) [] rest
  have hne : pyStrip text ≠ "" := by
    intro hempty
    rw [hempty] at hhead
    cases hhead
  have hraises := platform.jsonRaises_version _ (by rw [hhead]; rfl)
  have hjson : jsonLoads platform.parseFloat (pyStrip text) = none :=
    Agent.jsonLoads_none hhead (.inl (by decide))
  rw [parsePolicyDocumentText]
  simp only [if_neg hne, hraises, hjson]

/-- A template whose lines print an object is read as the object. -/
theorem parsePolicyDocumentText_unlines {trailing : String} {token : YamlLine}
    {tokens : List YamlLine} {contents : List (Option String × PyValue)}
    (hfirst : first.toList.head? = some 'v')
    (hframed : Framed ((first :: middle).map String.toList))
    (htrailing : ∀ c ∈ trailing.toList, isPySpace c = true)
    (htokens : yamlTokens (first :: middle) = token :: tokens) (hobject : token.isItem = false)
    (hprints : Prints platform.toTextPlatform false token.indent (token :: tokens) contents) :
    parsePolicyDocumentText platform.toPolicyTextPlatform
        (unlines (first :: middle) ++ trailing) sourceLabel =
      .ok (.ofList (contents.map fun content => (content.1.getD "", content.2))) := by
  rw [parsePolicyDocumentText_version (head_unlines hfirst trailing)]
  exact parseIndentedYaml_of_prints
    ((tokenizeYamlLines_unlines hframed htrailing).trans htokens) hobject hprints

/-- A template is not read when its lines come to a text that only looks like a number. -/
theorem not_parsePolicyDocumentText_unlines {trailing : String} {token : YamlLine}
    {tokens : List YamlLine} {text : String} {document : OrderedDict String PyValue}
    (hfirst : first.toList.head? = some 'v')
    (hframed : Framed ((first :: middle).map String.toList))
    (htrailing : ∀ c ∈ trailing.toList, isPySpace c = true)
    (htokens : yamlTokens (first :: middle) = token :: tokens)
    (hcomes : ComesTo token.isItem token.indent (token :: tokens) text)
    (hrejected : Rejected platform.toTextPlatform text) :
    parsePolicyDocumentText platform.toPolicyTextPlatform
        (unlines (first :: middle) ++ trailing) sourceLabel ≠ .ok document := by
  rw [parsePolicyDocumentText_version (head_unlines hfirst trailing)]
  intro hread
  have hcontained := (contained_parseIndentedYaml_iff _).mp (.inl ⟨document, hread⟩)
  rw [tokenizeYamlLines_unlines hframed htrailing, htokens] at hcontained
  exact hcontained ⟨token, rfl, text, hcomes, hrejected⟩

end Texts

/-! ## Policies and org bases -/

section Scaffolds

variable {name operation evidencePreset templateId sourceLabel : String} {cap : Option Int}

theorem unbroken_toolLines (hoperation : Unbroken operation) (hpreset : Unbroken evidencePreset) :
    ∀ line ∈ toolLines operation evidencePreset
      (cap.toList.map fun cap => s!"    max_spend_cents: {cap}"), Unbroken line := by
  intro line hline
  unfold toolLines at hline
  simp only [List.append_assoc, List.mem_append, List.mem_cons, List.not_mem_nil, or_false,
    List.mem_map] at hline
  rcases hline with (rfl | rfl | rfl | rfl) | ⟨cap, -, rfl⟩ | rfl
  · exact unbroken_ofList (by decide)
  · exact ((unbroken_ofList (by decide)).append hoperation).append
      (unbroken_ofList (by decide))
  · exact unbroken_ofList (by decide)
  · exact (unbroken_ofList (by decide)).append hpreset
  · exact (unbroken_ofList (by decide)).append (unbroken_int cap)
  · exact (unbroken_ofList (by decide)).append hoperation

theorem unbroken_intentLines (hoperation : Unbroken operation) (htemplate : Unbroken templateId) :
    ∀ line ∈ intentLines operation templateId, Unbroken line := by
  intro line hline
  unfold intentLines at hline
  simp only [List.mem_cons, List.not_mem_nil, or_false] at hline
  rcases hline with rfl | rfl | rfl | rfl | rfl | rfl
  · exact unbroken_ofList (by decide)
  · exact (unbroken_ofList (by decide)).append (unbroken_ofList (by decide))
  · exact unbroken_ofList (by decide)
  · exact (unbroken_ofList (by decide)).append htemplate
  · exact unbroken_ofList (by decide)
  · exact (unbroken_ofList (by decide)).append hoperation

/-- The lines of a policy and of an org base. -/
def scaffoldLines (version : Int) (name operation evidencePreset templateId : String)
    (cap : Option Int) : List String :=
  [s!"version: {version}", s!"name: {name}", "default_deny: true", ""] ++
    toolLines operation evidencePreset
      (cap.toList.map fun cap => s!"    max_spend_cents: {cap}") ++
    [""] ++ intentLines operation templateId

/-- The document that the lines print. -/
def scaffoldFields (version : Int) (name operation evidencePreset templateId : String)
    (cap : Option Int) : List (String × PyValue) :=
  [("version", .int version), ("name", wordValue name), ("default_deny", .bool true),
    ("tools", toolsValue operation evidencePreset cap),
    ("intent", intentValue operation templateId)]

/-- What is set into a template is read as it was printed, apart from the two words that are
booleans. -/
theorem read_scaffoldLines (platform : ScaffoldPlatform) (version : Int) (hname : Word name)
    (hoperation : Word operation) (hpreset : Word evidencePreset)
    (hpresetValue : wordValue evidencePreset = .str evidencePreset) (htemplate : Word templateId)
    (htemplateValue : wordValue templateId = .str templateId) :
    parsePolicyDocumentText platform.toPolicyTextPlatform
        (unlines (scaffoldLines version name operation evidencePreset templateId cap))
        sourceLabel =
      .ok (.ofList (scaffoldFields version name operation evidencePreset templateId cap)) := by
  have hfirst : (s!"version: {version}").toList.head? = some 'v' := by simp [toString]
  have hunbroken : ∀ line ∈ scaffoldLines version name operation evidencePreset templateId cap,
      Unbroken line := by
    intro line hline
    unfold scaffoldLines at hline
    simp only [List.mem_append, List.mem_cons, List.not_mem_nil, or_false] at hline
    rcases hline with (((rfl | rfl | rfl | rfl) | hline) | rfl) | hline
    · exact (unbroken_ofList (by decide)).append (unbroken_int version)
    · exact (unbroken_ofList (by decide)).append hname.unbroken
    · exact unbroken_ofList (by decide)
    · exact unbroken_ofList (by decide)
    · exact unbroken_toolLines hoperation.unbroken hpreset.unbroken line hline
    · exact unbroken_ofList (by decide)
    · exact unbroken_intentLines hoperation.unbroken htemplate.unbroken line hline
  have hframed : Framed ((scaffoldLines version name operation evidencePreset templateId cap).map
      String.toList) := by
    have hlines : scaffoldLines version name operation evidencePreset templateId cap =
        s!"version: {version}" :: (([s!"name: {name}", "default_deny: true", ""] ++
          toolLines operation evidencePreset
            (cap.toList.map fun cap => s!"    max_spend_cents: {cap}") ++ [""] ++
          (intentLines operation templateId).dropLast) ++ [s!"    - {operation}"]) := by
      simp [scaffoldLines, intentLines]
    rw [hlines] at hunbroken ⊢
    refine @framed_lines _ _ operation _ hfirst "    - ".toList ?_ hoperation.value hunbroken
    exact String.toList_append
  have htokens : yamlTokens (scaffoldLines version name operation evidencePreset templateId cap) =
      printedLine 0 ("version" ++ ": " ++ toString version) ::
        (printedLine 0 ("name" ++ ": " ++ name) ::
          printedLine 0 ("default_deny" ++ ": " ++ "true") ::
            (toolYaml operation evidencePreset cap ++ intentYaml operation templateId)) := by
    have hversionLine : yamlLine? (s!"version: {version}").toList =
        some (printedLine 0 ("version" ++ ": " ++ toString version)) := by
      refine yamlLine?_line ?_
        (lineText_member (word_template "version").key (valueText_int version))
      simp [toString]
    have hnameLine : yamlLine? (s!"name: {name}").toList =
        some (printedLine 0 ("name" ++ ": " ++ name)) := by
      refine yamlLine?_line ?_ (lineText_member (word_template "name").key hname.value)
      simp [toString]
    have hdenyLine : yamlLine? "default_deny: true".toList =
        some (printedLine 0 ("default_deny" ++ ": " ++ "true")) :=
      yamlLine?_line (by simp)
        (lineText_member (word_template "default_deny").key (word_template "true").value)
    rw [scaffoldLines, yamlTokens_append, yamlTokens_append, yamlTokens_append,
      yamlTokens_cons_some hversionLine, yamlTokens_cons_some hnameLine,
      yamlTokens_cons_some hdenyLine, yamlTokens_cons_none yamlLine?_blank, yamlTokens_nil,
      tokens_toolLines hoperation hpreset, tokens_intentLines hoperation htemplate,
      List.append_nil]
    rfl
  have hobject : (printedLine 0 ("version" ++ ": " ++ toString version)).isItem = false :=
    isItem_member (word_template "version").key (valueText_int version)
  have hprints := prints_member (word_template "version").key (valueText_int version)
    (parseYamlScalar_int platform.digits version)
    (prints_member (word_template "name").key hname.value
      (parseYamlScalar_word platform.digits hname)
      (prints_member (word_template "default_deny").key (word_template "true").value
        parseYamlScalar_true
        (@prints_toolYaml _ operation evidencePreset cap _ _ platform.digits hoperation hpreset
          hpresetValue
          (prints_intentYaml platform.digits hoperation htemplate htemplateValue))))
  have hread := @parsePolicyDocumentText_unlines platform sourceLabel _ _ "" _ _ _ hfirst hframed
    (by simp) htokens hobject hprints
  rwa [String.append_empty] at hread

end Scaffolds

/-! ## Tenant overlays -/

section Overlays

variable {name orgPolicyId orgId sourceLabel : String} {basePolicy : Option String}
variable {tool : Option (String × String)}

/-- The lines of an overlay in front of its tool. -/
def extendsLines (name orgPolicyId orgId : String) (basePolicy : Option String) : List String :=
  ["version: 2", s!"name: {name}", "extends:", s!"  org_policy_id: {orgPolicyId}",
    s!"  org_id: {orgId}"] ++
    (basePolicy.toList.map fun basePolicy => s!"  base_policy: {basePolicy}") ++
    ["default_deny: true"]

def extendsYaml (name orgPolicyId orgId : String) (basePolicy : Option String) : List YamlLine :=
  [printedLine 0 ("version" ++ ": " ++ toString (2 : Int)), printedLine 0 ("name" ++ ": " ++ name),
    printedLine 0 ("extends" ++ ":"), printedLine 2 ("org_policy_id" ++ ": " ++ orgPolicyId),
    printedLine 2 ("org_id" ++ ": " ++ orgId)] ++
    (basePolicy.toList.map fun basePolicy => printedLine 2 ("base_policy" ++ ": " ++ basePolicy)) ++
    [printedLine 0 ("default_deny" ++ ": " ++ "true")]

/-- The document of an overlay; `base` is what its base policy is read as. -/
def overlayFields (name orgPolicyId orgId : String) (base : Option PyValue)
    (tools : List (String × PyValue)) : List (String × PyValue) :=
  [("version", .int 2), ("name", wordValue name),
    ("extends", .dict ([("org_policy_id", wordValue orgPolicyId), ("org_id", wordValue orgId)] ++
      base.toList.map fun base => ("base_policy", base))),
    ("default_deny", .bool true)] ++ tools

theorem tokens_extendsLines (hname : Word name) (hpolicy : Word orgPolicyId) (horg : Word orgId)
    (hbase : ∀ base ∈ basePolicy, ValueText base) :
    yamlTokens (extendsLines name orgPolicyId orgId basePolicy) =
      extendsYaml name orgPolicyId orgId basePolicy := by
  have hversionLine : yamlLine? "version: 2".toList =
      some (printedLine 0 ("version" ++ ": " ++ toString (2 : Int))) :=
    yamlLine?_line rfl (lineText_member (word_template "version").key (valueText_int 2))
  have hnameLine : yamlLine? (s!"name: {name}").toList =
      some (printedLine 0 ("name" ++ ": " ++ name)) := by
    refine yamlLine?_line ?_ (lineText_member (word_template "name").key hname.value)
    simp [toString]
  have hextendsLine : yamlLine? "extends:".toList = some (printedLine 0 ("extends" ++ ":")) :=
    yamlLine?_line (by simp) (lineText_heading (word_template "extends").key)
  have hpolicyLine : yamlLine? (s!"  org_policy_id: {orgPolicyId}").toList =
      some (printedLine 2 ("org_policy_id" ++ ": " ++ orgPolicyId)) := by
    refine yamlLine?_line ?_ (lineText_member (word_template "org_policy_id").key hpolicy.value)
    simp [toString]
  have horgLine : yamlLine? (s!"  org_id: {orgId}").toList =
      some (printedLine 2 ("org_id" ++ ": " ++ orgId)) := by
    refine yamlLine?_line ?_ (lineText_member (word_template "org_id").key horg.value)
    simp [toString]
  have hbaseLines : yamlTokens (basePolicy.toList.map fun basePolicy =>
      s!"  base_policy: {basePolicy}") =
      basePolicy.toList.map fun basePolicy => printedLine 2 ("base_policy" ++ ": " ++ basePolicy) := by
    cases basePolicy with
    | none => rfl
    | some basePolicy =>
        refine yamlTokens_cons_some (yamlLine?_line ?_
          (lineText_member (word_template "base_policy").key (hbase basePolicy rfl)))
        simp [toString]
  have hdenyLine : yamlLine? "default_deny: true".toList =
      some (printedLine 0 ("default_deny" ++ ": " ++ "true")) :=
    yamlLine?_line (by simp)
      (lineText_member (word_template "default_deny").key (word_template "true").value)
  rw [extendsLines, extendsYaml, yamlTokens_append, yamlTokens_append, hbaseLines,
    yamlTokens_cons_some hversionLine, yamlTokens_cons_some hnameLine,
    yamlTokens_cons_some hextendsLine, yamlTokens_cons_some hpolicyLine,
    yamlTokens_cons_some horgLine, yamlTokens_cons_some hdenyLine, yamlTokens_nil]

theorem unbroken_extendsLines (hname : Unbroken name) (hpolicy : Unbroken orgPolicyId)
    (horg : Unbroken orgId) (hbase : ∀ base ∈ basePolicy, Unbroken base) :
    ∀ line ∈ extendsLines name orgPolicyId orgId basePolicy, Unbroken line := by
  intro line hline
  unfold extendsLines at hline
  simp only [List.append_assoc, List.mem_append, List.mem_cons, List.not_mem_nil, or_false,
    List.mem_map, Option.mem_toList] at hline
  rcases hline with (rfl | rfl | rfl | rfl | rfl) | ⟨base, hmem, rfl⟩ | rfl
  · exact unbroken_ofList (by decide)
  · exact (unbroken_ofList (by decide)).append hname
  · exact unbroken_ofList (by decide)
  · exact (unbroken_ofList (by decide)).append hpolicy
  · exact (unbroken_ofList (by decide)).append horg
  · exact (unbroken_ofList (by decide)).append (hbase base hmem)
  · exact unbroken_ofList (by decide)

theorem comesTo_member {indent : ℕ} {key value text : String} {lines : List YamlLine}
    (hkey : KeyText key) (hvalue : ValueText value) (hcomes : ComesTo false indent lines text) :
    ComesTo false indent (printedLine indent (key ++ ": " ++ value) :: lines) text := by
  have hread := @memberReading_member key value indent hkey hvalue
  rw [← YamlLine.reading_false] at hread
  exact .later hread hcomes

theorem comesTo_object {indent : ℕ} {key text : String} {first : YamlLine} {lines : List YamlLine}
    (hkey : KeyText key) (hfirst : first.isItem = false)
    (hcomes : ComesTo false (indent + 2) (first :: lines) text) :
    ComesTo false indent (printedLine indent (key ++ ":") :: first :: lines) text := by
  have hread := @memberReading_heading key indent hkey
  rw [← YamlLine.reading_false] at hread
  refine .inside hread ?_ hcomes
  rintro line ⟨⟩
  exact hfirst

/-- The lines of an overlay are read, with whatever its base policy is read as. -/
theorem read_extendsYaml {platform : ScaffoldPlatform} {first trailing : String}
    {middle : List String} {tokens : List YamlLine} {contents : List (Option String × PyValue)}
    {document : OrderedDict String PyValue} (hname : Word name) (hpolicy : Word orgPolicyId)
    (horg : Word orgId) (hbase : ∀ base ∈ basePolicy, ValueText base)
    (hfirst : first.toList.head? = some 'v')
    (hframed : Framed ((first :: middle).map String.toList))
    (htrailing : ∀ c ∈ trailing.toList, isPySpace c = true)
    (htokens : yamlTokens (first :: middle) =
      extendsYaml name orgPolicyId orgId basePolicy ++ tokens)
    (hprints : Prints platform.toTextPlatform false 0 tokens contents)
    (hread : parsePolicyDocumentText platform.toPolicyTextPlatform
      (unlines (first :: middle) ++ trailing) sourceLabel = .ok document) :
    ∃ base : Option PyValue, (basePolicy = none → base = none) ∧
      document = .ofList (overlayFields name orgPolicyId orgId base
        (contents.map fun content => (content.1.getD "", content.2))) := by
  have hdigits := platform.digits
  have hobject : (printedLine 0 ("version" ++ ": " ++ toString (2 : Int))).isItem = false :=
    isItem_member (word_template "version").key (valueText_int 2)
  have hpolicyObject : (printedLine 2 ("org_policy_id" ++ ": " ++ orgPolicyId)).isItem = false :=
    isItem_member (word_template "org_policy_id").key hpolicy.value
  have hdeny := prints_member (word_template "default_deny").key (word_template "true").value
    parseYamlScalar_true hprints
  cases basePolicy with
  | none =>
      refine ⟨none, fun _ => rfl, ?_⟩
      have hextends := prints_object (word_template "extends").key hpolicyObject
        (prints_member (word_template "org_policy_id").key hpolicy.value
          (parseYamlScalar_word hdigits hpolicy)
          (prints_member (word_template "org_id").key horg.value
            (parseYamlScalar_word hdigits horg) .nil)) (by simp) hdeny
      have hall := prints_member (word_template "version").key (valueText_int 2)
        (parseYamlScalar_int hdigits 2) (prints_member (word_template "name").key hname.value
          (parseYamlScalar_word hdigits hname) hextends)
      rw [parsePolicyDocumentText_unlines hfirst hframed htrailing htokens hobject hall] at hread
      obtain rfl := Except.ok.inj hread
      rfl
  | some basePolicy =>
      have hbaseText := hbase basePolicy rfl
      obtain hrejected | ⟨base, hscalar⟩ :=
        parseYamlScalar_cases platform.toTextPlatform basePolicy
      · -- the parser stops at the base policy
        have hbaseLine : (printedLine 2 ("base_policy" ++ ": " ++ basePolicy)).reading false =
            some (some "base_policy", some basePolicy) := by
          rw [YamlLine.reading_false]
          exact memberReading_member (word_template "base_policy").key hbaseText
        have hinside : ComesTo false 2 (printedLine 2 ("org_policy_id" ++ ": " ++ orgPolicyId) ::
            printedLine 2 ("org_id" ++ ": " ++ orgId) ::
              printedLine 2 ("base_policy" ++ ": " ++ basePolicy) ::
                printedLine 0 ("default_deny" ++ ": " ++ "true") :: tokens) basePolicy :=
          comesTo_member (word_template "org_policy_id").key hpolicy.value
            (comesTo_member (word_template "org_id").key horg.value (.here hbaseLine))
        have hcomes := comesTo_member (word_template "version").key (valueText_int 2)
          (comesTo_member (word_template "name").key hname.value
            (comesTo_object (word_template "extends").key hpolicyObject hinside))
        rw [← hobject] at hcomes
        exact absurd hread (not_parsePolicyDocumentText_unlines hfirst hframed htrailing htokens
          hcomes hrejected)
      · refine ⟨some base, nofun, ?_⟩
        have hextends := prints_object (word_template "extends").key hpolicyObject
          (prints_member (word_template "org_policy_id").key hpolicy.value
            (parseYamlScalar_word hdigits hpolicy)
            (prints_member (word_template "org_id").key horg.value
              (parseYamlScalar_word hdigits horg)
              (prints_member (word_template "base_policy").key hbaseText hscalar .nil)))
          (by simp) hdeny
        have hall := prints_member (word_template "version").key (valueText_int 2)
          (parseYamlScalar_int hdigits 2) (prints_member (word_template "name").key hname.value
            (parseYamlScalar_word hdigits hname) hextends)
        rw [parsePolicyDocumentText_unlines hfirst hframed htrailing htokens hobject hall] at hread
        obtain rfl := Except.ok.inj hread
        rfl

/-- A blank line at the end adds a newline. -/
theorem unlines_blank {lines : List String} (hne : lines ≠ []) :
    unlines (lines ++ [""]) = unlines lines ++ "\n" := by
  have hjoin : ∀ lines : List (List Char), lines ≠ [] →
      ['\n'].intercalate (lines ++ [[]]) = ['\n'].intercalate lines ++ ['\n'] := by
    intro lines hne
    induction lines with
    | nil => exact absurd rfl hne
    | cons line lines ih =>
        cases lines with
        | nil => simp [List.intercalate]
        | cons next lines =>
            have hrest := ih (List.cons_ne_nil _ _)
            simp only [List.intercalate, List.cons_append, List.intersperse_cons₂,
              List.flatten_cons, List.append_assoc] at hrest ⊢
            rw [hrest]
  have hnewline : "\n".toList = ['\n'] := rfl
  have hempty : "".toList = [] := rfl
  rw [unlines, unlines, ← String.toList_inj]
  simp only [String.toList_append, String.toList_intercalate, List.map_append, List.map_cons,
    List.map_nil, hnewline, hempty]
  rw [hjoin _ (by simpa using hne)]

section Given

variable {platform : ScaffoldPlatform} {operation evidencePreset : String}
variable {document : OrderedDict String PyValue}
variable (hname : Word name) (hpolicy : Word orgPolicyId) (horg : Word orgId)
variable (hbase : ∀ base ∈ basePolicy, ValueText base ∧ Unbroken base)

include hname hpolicy horg hbase

theorem read_overlay_bare (hread : parsePolicyDocumentText platform.toPolicyTextPlatform
    (unlines (extendsLines name orgPolicyId orgId basePolicy ++ [""])) sourceLabel =
      .ok document) :
    ∃ base, document = .ofList (overlayFields name orgPolicyId orgId base []) := by
  have hunbroken := unbroken_extendsLines hname.unbroken hpolicy.unbroken horg.unbroken
    fun base hmem => (hbase base hmem).2
  have hlines : extendsLines name orgPolicyId orgId basePolicy =
      "version: 2" :: ((s!"name: {name}" :: "extends:" :: s!"  org_policy_id: {orgPolicyId}" ::
        s!"  org_id: {orgId}" :: (basePolicy.toList.map fun basePolicy =>
          s!"  base_policy: {basePolicy}")) ++ ["default_deny: true"]) := rfl
  have hframed : Framed ((extendsLines name orgPolicyId orgId basePolicy).map String.toList) := by
    rw [hlines] at hunbroken ⊢
    exact @framed_lines _ _ "true" _ (by decide) "default_deny: ".toList (by decide +kernel)
      (word_template "true").value hunbroken
  have htokens := tokens_extendsLines hname hpolicy horg fun base hmem => (hbase base hmem).1
  rw [← List.append_nil (extendsYaml name orgPolicyId orgId basePolicy)] at htokens
  have hjoin : unlines (extendsLines name orgPolicyId orgId basePolicy ++ [""]) =
      unlines (extendsLines name orgPolicyId orgId basePolicy) ++ "\n" := by
    refine unlines_blank ?_
    rw [hlines]
    exact List.cons_ne_nil _ _
  rw [hjoin] at hread
  obtain ⟨base, -, hdocument⟩ := @read_extendsYaml _ _ _ sourceLabel _ platform _ "\n" _ [] []
    document hname hpolicy horg (fun base hmem => (hbase base hmem).1) (by decide) hframed
    (forall_mem_of_all (p := fun c => isPySpace c = true) (by decide)) htokens .nil hread
  exact ⟨base, hdocument⟩

theorem read_overlay_tool (hoperation : Word operation) (hpreset : Word evidencePreset)
    (hvalue : wordValue evidencePreset = .str evidencePreset)
    (hread : parsePolicyDocumentText platform.toPolicyTextPlatform
      (unlines (extendsLines name orgPolicyId orgId basePolicy ++ [""] ++
        toolLines operation evidencePreset [])) sourceLabel = .ok document) :
    ∃ base, document = .ofList (overlayFields name orgPolicyId orgId base
      [("tools", toolsValue operation evidencePreset none)]) := by
  have hunbroken : ∀ line ∈ extendsLines name orgPolicyId orgId basePolicy ++ [""] ++
      toolLines operation evidencePreset [], Unbroken line := by
    intro line hline
    rcases List.mem_append.mp hline with hline | hline
    · rcases List.mem_append.mp hline with hline | hline
      · exact unbroken_extendsLines hname.unbroken hpolicy.unbroken horg.unbroken
          (fun base hmem => (hbase base hmem).2) line hline
      · obtain rfl := List.mem_singleton.mp hline
        exact unbroken_ofList (by decide)
    · exact @unbroken_toolLines _ _ none hoperation.unbroken hpreset.unbroken line hline
  have hlines : extendsLines name orgPolicyId orgId basePolicy ++ [""] ++
      toolLines operation evidencePreset [] =
        "version: 2" :: ((s!"name: {name}" :: "extends:" :: s!"  org_policy_id: {orgPolicyId}" ::
          s!"  org_id: {orgId}" :: (basePolicy.toList.map fun basePolicy =>
            s!"  base_policy: {basePolicy}")) ++ ["default_deny: true", "", "tools:",
              s!"  {operation}:", "    side_effecting: true",
              s!"    evidence_preset: {evidencePreset}"] ++ [s!"    operation: {operation}"]) := by
    simp [extendsLines, toolLines]
  have hframed : Framed ((extendsLines name orgPolicyId orgId basePolicy ++ [""] ++
      toolLines operation evidencePreset []).map String.toList) := by
    rw [hlines] at hunbroken ⊢
    exact @framed_lines _ _ operation _ (by decide) "    operation: ".toList String.toList_append
      hoperation.value hunbroken
  have htokens : yamlTokens (extendsLines name orgPolicyId orgId basePolicy ++ [""] ++
      toolLines operation evidencePreset []) = extendsYaml name orgPolicyId orgId basePolicy ++
        toolYaml operation evidencePreset none := by
    have htool := @tokens_toolLines operation evidencePreset none hoperation hpreset
    rw [Option.toList_none, List.map_nil] at htool
    rw [yamlTokens_append, yamlTokens_append, yamlTokens_cons_none yamlLine?_blank, yamlTokens_nil,
      List.append_nil, tokens_extendsLines hname hpolicy horg fun base hmem => (hbase base hmem).1,
      htool]
  have hprints : Prints platform.toTextPlatform false 0 (toolYaml operation evidencePreset none)
      [(some "tools", toolsValue operation evidencePreset none)] := by
    have htool := @prints_toolYaml _ operation evidencePreset none [] [] platform.digits hoperation
      hpreset hvalue .nil
    rwa [List.append_nil] at htool
  rw [← String.append_empty (s := unlines _)] at hread
  obtain ⟨base, -, hdocument⟩ := @read_extendsYaml _ _ _ sourceLabel _ platform _ "" _ _ _
    document hname hpolicy horg (fun base hmem => (hbase base hmem).1) (by decide) hframed nofun
    htokens hprints hread
  exact ⟨base, hdocument⟩

end Given

end Overlays

end PaybondKit.Policy
