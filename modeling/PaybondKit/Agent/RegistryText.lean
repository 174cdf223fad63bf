import PaybondKit.Agent.RegistryFile
import PaybondKit.Foundation.JsonLoads
import PaybondKit.Foundation.PyLines

/-!
# The text of a registry file

A registry file is JSON, or else lines of `key: value`. The parser of the lines pays no attention to
their indentation and does not leave the tools section again, so a root key is read as one exactly
when no tool stands before it.
-/

namespace PaybondKit.Agent

/-! ## The parser -/

section Parser

variable (platform : TextPlatform)

/-- `_parse_yaml_scalar` of the registry file. -/
def parseRegistryScalar (value : String) : Except PyExc PyValue :=
  let chars := value.toList
  let digits := chars.dropWhile (· = '-')
  if value = "" then .ok (.str "")
  else if value = "true" then .ok (.bool true)
  else if value = "false" then .ok (.bool false)
  else if !digits.isEmpty && digits.all platform.isDigit then
    match platform.parseInt value with
    | some number => .ok (.int number)
    | none => .error (.valueError "invalid literal for int() with base 10")
  else if quotedBy '"' chars || quotedBy '\'' chars then
    .ok (.str (String.ofList chars.tail.dropLast))
  else .ok (.str value)

/-- The variables of the loop over the lines. -/
structure RegistryParse where
  root : RegistryMapping := .empty
  inTools : Bool := false
  currentTool : Option String := none
  tools : OrderedDict String RegistryMapping := .empty

/-- The tool that a field belongs to, if it belongs to one. -/
def RegistryParse.target (state : RegistryParse) : Option String :=
  if state.inTools then truthyStr state.currentTool else none

/-- Store the value of a key. -/
def RegistryParse.assign (state : RegistryParse) (key : String) (value : PyValue) : RegistryParse :=
  match state.target with
  | some tool =>
      let entry := (state.tools.get? tool).getD .empty
      { state with tools := state.tools.set tool (entry.set key value) }
  | none => { state with root := state.root.set key value }

/-- What a line `key: value` does. -/
def RegistryParse.read (state : RegistryParse) (key value : String) : Except PyExc RegistryParse :=
  if !state.inTools ∧ key = "tools" ∧ value = "" then .ok { state with inTools := true }
  else if state.inTools ∧ value = "" then
    .ok { state with currentTool := some key, tools := state.tools.set key .empty }
  else do
    let parsedValue ← parseRegistryScalar platform value
    return state.assign key parsedValue

def invalidRegistryLine (sourceLabel : String) (rawLine : List Char) : PyExc :=
  .toolRegistryValidation s!"{sourceLabel} has invalid YAML line: {String.ofList rawLine}"

/-- The loop body. -/
def registryLine (sourceLabel : String) (state : RegistryParse) (rawLine : List Char) :
    Except PyExc RegistryParse :=
  let line := stripLine rawLine
  if line = [] ∨ line.head? = some '#' then .ok state
  else
    match line.span (· ≠ ':') with
    | (_, []) => .error (invalidRegistryLine sourceLabel rawLine)
    | (key, _ :: rawValue) =>
        state.read platform (String.ofList (stripLine key)) (String.ofList (stripLine rawValue))

/-- `root`, with the tools if there are any. -/
def withTools (root : RegistryMapping) (tools : OrderedDict String RegistryMapping) :
    RegistryMapping :=
  if tools.items = [] then root
  else root.set "tools" (.dict (tools.items.map fun tool => (tool.1, .dict tool.2.items)))

def parseSimpleYamlRegistry (sourceLabel text : String) : Except PyExc RegistryMapping := do
  let state ← (splitlines text.toList).foldlM (registryLine platform sourceLabel) {}
  return withTools state.root state.tools

def parseAgentRegistryText (sourceLabel text : String) : Except PyExc RegistryMapping :=
  let trimmed := pyStrip text
  if trimmed = "" then .error (.toolRegistryValidation s!"{sourceLabel} is empty")
  else
    match jsonLoads platform.parseFloat trimmed with
    | none => parseSimpleYamlRegistry platform sourceLabel trimmed
    | some (.dict items) => .ok (.ofList items)
    | some _ =>
        .error (.toolRegistryValidation "registry file must be a JSON or YAML object")

end Parser

/-! ## Documents and their layouts -/

section Layout

variable (platform : TextPlatform)

/-- A registry document: the keys of its root, and its tools with their fields. -/
structure RegistryDocument where
  root : RegistryMapping
  tools : OrderedDict String RegistryMapping
  rootKeys : ∀ key ∈ root.keys, key ∈ ["version", "default_deny", "defaultDeny"]

def RegistryDocument.value (doc : RegistryDocument) : RegistryMapping :=
  withTools doc.root doc.tools

/-- A key that can stand before a colon as it is. -/
structure PlainKey (key : String) : Prop where
  nonempty : key ≠ ""
  stripped : pyStrip key = key
  noColon : ':' ∉ key.toList
  noComment : key.toList.head? ≠ some '#'

/-- The line has the key and the text, with space around them. -/
def Assigns (indent : ℕ) (key text : String) (rawLine : List Char) : Prop :=
  ∃ gap lead trail : List Char, (∀ c ∈ gap ++ lead ++ trail, isPySpace c = true) ∧
    rawLine = List.replicate indent ' ' ++ key.toList ++ gap ++ ':' :: lead ++ text.toList ++ trail

/-- The text is read as the scalar. -/
structure Spells (text : String) (value : PyValue) : Prop where
  nonempty : text ≠ ""
  stripped : pyStrip text = text
  reads : parseRegistryScalar platform text = .ok value

/-- The line of a root key or of a field. -/
def FieldLine (indent : ℕ) (field : String × PyValue) (rawLine : List Char) : Prop :=
  PlainKey field.1 ∧ ∃ text, Spells platform text field.2 ∧ Assigns indent field.1 text rawLine

/-- The lines of the tools: each name stands above its fields, which are indented further. -/
inductive ToolLines (indent : ℕ) : List (String × RegistryMapping) → List (List Char) → Prop where
  | nil : ToolLines indent [] []
  | cons {name : String} {fields : RegistryMapping} {tools : List (String × RegistryMapping)}
      {header : List Char} {lines rest : List (List Char)} {inner : ℕ} (hname : PlainKey name)
      (hheader : Assigns indent name "" header) (hinner : indent < inner)
      (hlines : List.Forall₂ (FieldLine platform inner) fields.items lines)
      (hrest : ToolLines indent tools rest) :
      ToolLines indent ((name, fields) :: tools) (header :: lines ++ rest)

/-- The tools section, which may be left out when there is no tool. -/
inductive SectionLines (indent : ℕ) :
    List (String × RegistryMapping) → List (List Char) → Prop where
  | absent : SectionLines indent [] []
  | present {tools : List (String × RegistryMapping)} {header : List Char}
      {lines : List (List Char)} {inner : ℕ} (hheader : Assigns indent "tools" "" header)
      (hinner : indent < inner) (hlines : ToolLines platform inner tools lines) :
      SectionLines indent tools (header :: lines)

/-- Blank lines and comments. -/
def Filler (rawLine : List Char) : Prop :=
  stripLine rawLine = [] ∨ (stripLine rawLine).head? = some '#'

instance : DecidablePred Filler := fun _ => inferInstanceAs (Decidable (_ ∨ _))

/-- The text writes the document in block style: some root keys before the tools section, and the
others after it. -/
def Layout (doc : RegistryDocument) (before after : List (String × PyValue)) (text : String) :
    Prop :=
  doc.root.items = before ++ after ∧ contentLines text.toList ≠ [] ∧
    ∃ (indent : ℕ) (first tools last : List (List Char)),
      (splitlines text.toList).filter (¬Filler ·) = first ++ tools ++ last ∧
        List.Forall₂ (FieldLine platform indent) before first ∧
          SectionLines platform indent doc.tools.items tools ∧
            List.Forall₂ (FieldLine platform indent) after last

end Layout

/-! ## Reading lines -/

section Lines

variable {platform : TextPlatform} {sourceLabel key text : String} {state result : RegistryParse}
variable {rawLine : List Char} {indent : ℕ}

theorem PlainKey.stripLine (hkey : PlainKey key) : stripLine key.toList = key.toList := by
  have hstripped := congrArg String.toList hkey.stripped
  rwa [toList_pyStrip] at hstripped

theorem PlainKey.head (hkey : PlainKey key) :
    ∃ c rest, key.toList = c :: rest ∧ isPySpace c = false ∧ c ≠ '#' := by
  cases hchars : key.toList with
  | nil => exact absurd (String.toList_eq_nil_iff.mp hchars) hkey.nonempty
  | cons c rest =>
      have hstripped := hkey.stripLine
      rw [hchars] at hstripped
      refine ⟨c, rest, rfl, not_isPySpace_of_stripLine hstripped, ?_⟩
      rintro rfl
      exact hkey.noComment (by rw [hchars, List.head?_cons])

/-- What is left of a line is the key, the colon and the text. -/
theorem stripLine_assigns (hkey : PlainKey key) (hline : Assigns indent key text rawLine) :
    ∃ gap rest, (∀ c ∈ gap, isPySpace c = true) ∧
      stripLine rawLine = key.toList ++ gap ++ ':' :: rest ∧
        stripLine rest = stripLine text.toList := by
  obtain ⟨gap, lead, trail, hspaces, rfl⟩ := hline
  obtain ⟨c, rest, hchars, hc, -⟩ := hkey.head
  have hlead : ∀ c ∈ lead, isPySpace c = true := fun c hc => hspaces c (by simp [hc])
  have htrail : ∀ c ∈ trail, isPySpace c = true := fun c hc => hspaces c (by simp [hc])
  have hindent : ∀ c ∈ List.replicate indent ' ', isPySpace c = true := by
    intro c hc
    rw [List.eq_of_mem_replicate hc]
    rfl
  refine ⟨gap, (lead ++ text.toList ++ trail).rdropWhile isPySpace,
    fun c hc => hspaces c (by simp [hc]), ?_, ?_⟩
  · have hshape : List.replicate indent ' ' ++ key.toList ++ gap ++ ':' :: lead ++ text.toList ++
        trail = List.replicate indent ' ' ++
          (key.toList ++ gap ++ ':' :: (lead ++ text.toList ++ trail)) := by simp
    rw [hshape, stripLine_append_left hindent, stripLine, hchars, List.cons_append,
      List.cons_append, List.dropWhile_cons_of_neg (by simp [hc]), ← List.cons_append,
      ← List.cons_append, rdropWhile_append_cons (by decide)]
  · rw [stripLine_rdropWhile, List.append_assoc, stripLine_append_left hlead,
      stripLine_append_right htrail]

/-- A line is read as its key and its text. -/
theorem registryLine_assigns (hkey : PlainKey key) (htext : pyStrip text = text)
    (hline : Assigns indent key text rawLine) :
    registryLine platform sourceLabel state rawLine = state.read platform key text := by
  obtain ⟨gap, rest, hgap, hstrip, hrest⟩ := stripLine_assigns hkey hline
  obtain ⟨c, chars, hchars, -, hcomment⟩ := hkey.head
  have hvalue : stripLine rest = text.toList := by
    have hstripped := congrArg String.toList htext
    rw [toList_pyStrip] at hstripped
    exact hrest.trans hstripped
  have hcolon : ∀ c ∈ key.toList ++ gap, (c ≠ ':' : Bool) = true := by
    intro c hc
    rcases List.mem_append.mp hc with hc | hc
    · exact decide_eq_true fun h => hkey.noColon (h ▸ hc)
    · refine decide_eq_true fun h => ?_
      have hspace := hgap c hc
      rw [h] at hspace
      exact absurd hspace (by decide)
  have hspan : (key.toList ++ gap ++ ':' :: rest).span (· ≠ ':') =
      (key.toList ++ gap, ':' :: rest) := by
    rw [List.span_eq_takeWhile_dropWhile, List.takeWhile_append_of_pos hcolon,
      List.dropWhile_append_of_pos hcolon]
    simp
  have hnot : ¬(key.toList ++ gap ++ ':' :: rest = [] ∨
      (key.toList ++ gap ++ ':' :: rest).head? = some '#') := by
    rw [hchars]
    simp [hcomment]
  unfold registryLine
  rw [hstrip]
  dsimp only
  rw [if_neg hnot, hspan]
  dsimp only
  rw [stripLine_append_right hgap, hkey.stripLine, hvalue, String.ofList_toList,
    String.ofList_toList]

theorem registryLine_filler (hfiller : Filler rawLine) :
    registryLine platform sourceLabel state rawLine = .ok state := if_pos hfiller

/-- Blank lines and comments do nothing. -/
theorem foldlM_filter (lines : List (List Char)) :
    lines.foldlM (registryLine platform sourceLabel) state =
      (lines.filter (¬Filler ·)).foldlM (registryLine platform sourceLabel) state := by
  induction lines generalizing state with
  | nil => rfl
  | cons line rest ih =>
      rw [List.foldlM_cons, List.filter_cons]
      by_cases hfiller : Filler line
      · rw [registryLine_filler hfiller, if_neg (by simpa using hfiller)]
        exact ih
      · rw [if_pos (by simpa using hfiller), List.foldlM_cons]
        exact bind_congr fun next => ih

/-- Only the text of an error depends on the space around a line. -/
theorem registryLine_stripped :
    registryLine platform sourceLabel state (stripLine rawLine) = .ok result ↔
      registryLine platform sourceLabel state rawLine = .ok result := by
  unfold registryLine
  rw [stripLine_stripLine]
  dsimp only
  split
  · rfl
  · split
    · exact iff_of_false (fun h => nomatch h) fun h => nomatch h
    · rfl

theorem foldlM_stripped (lines : List (List Char)) :
    ((lines.map stripLine).filter (· ≠ [])).foldlM (registryLine platform sourceLabel) state =
        .ok result ↔
      lines.foldlM (registryLine platform sourceLabel) state = .ok result := by
  induction lines generalizing state with
  | nil => rfl
  | cons line rest ih =>
      rw [content_cons, List.foldlM_cons]
      split
      next hblank =>
        rw [List.nil_append, ih, registryLine_filler (.inl hblank)]
        rfl
      next =>
        rw [List.singleton_append, List.foldlM_cons, except_bind_eq_ok, except_bind_eq_ok]
        exact exists_congr fun next => and_congr registryLine_stripped ih

end Lines

/-! ## Reading a layout -/

section Sections

variable {platform : TextPlatform} {sourceLabel key text : String} {state : RegistryParse}
variable {indent : ℕ} {value : PyValue}

theorem read_value (htext : Spells platform text value) :
    state.read platform key text = .ok (state.assign key value) := by
  unfold RegistryParse.read
  rw [if_neg fun h => htext.nonempty h.2.2, if_neg fun h => htext.nonempty h.2, htext.reads]
  rfl

/-- The fields are stored one after the other. -/
def RegistryParse.assignAll (state : RegistryParse) (fields : List (String × PyValue)) :
    RegistryParse :=
  fields.foldl (fun state field => state.assign field.1 field.2) state

theorem foldlM_fields {fields : List (String × PyValue)} {lines : List (List Char)}
    (hlines : List.Forall₂ (FieldLine platform indent) fields lines) :
    lines.foldlM (registryLine platform sourceLabel) state = .ok (state.assignAll fields) := by
  induction hlines generalizing state with
  | nil => rfl
  | cons hline hrest ih =>
      obtain ⟨hkey, text, htext, hassigns⟩ := hline
      rw [List.foldlM_cons, registryLine_assigns hkey htext.stripped hassigns, read_value htext]
      exact ih

/-- The dictionary with the fields. -/
def setAll (dict : RegistryMapping) (fields : List (String × PyValue)) : RegistryMapping :=
  fields.foldl (fun dict field => dict.set field.1 field.2) dict

theorem assignAll_root {fields : List (String × PyValue)} (htarget : state.target = none) :
    state.assignAll fields = { state with root := setAll state.root fields } := by
  induction fields generalizing state with
  | nil => rfl
  | cons field rest ih =>
      have hassign : state.assign field.1 field.2 =
          { state with root := state.root.set field.1 field.2 } := by
        rw [RegistryParse.assign, htarget]
      rw [RegistryParse.assignAll, List.foldl_cons, hassign]
      exact ih htarget

theorem set_set {κ α : Type} [DecidableEq κ] (dict : OrderedDict κ α) (key : κ)
    (value other : α) : (dict.set key value).set key other = dict.set key other := by
  have hkeys : key ∈ (dict.set key value).keys := by
    rw [← OrderedDict.contains_iff, OrderedDict.contains, OrderedDict.get?_set_self]
    rfl
  refine OrderedDict.ext ?_
  by_cases hkey : key ∈ dict.keys
  · simp only [OrderedDict.set, dif_pos hkey] at hkeys ⊢
    rw [dif_pos hkeys]
    simp only [OrderedDict.mapValues, List.map_map]
    refine List.map_congr_left fun item _ => ?_
    by_cases hsame : item.1 = key <;> simp [hsame]
  · simp only [OrderedDict.set, dif_neg hkey] at hkeys ⊢
    rw [dif_pos hkeys]
    simp only [OrderedDict.mapValues, List.map_append, List.map_cons, List.map_nil, if_pos]
    refine congrArg (· ++ [(key, other)]) ?_
    refine (List.map_congr_left fun item hitem => ?_).trans (List.map_id _)
    have hne : item.1 ≠ key := by
      rintro rfl
      exact hkey (List.mem_map_of_mem hitem)
    simp [hne]

theorem assignAll_tool {tool : String} {tools : OrderedDict String RegistryMapping}
    {entry : RegistryMapping} {fields : List (String × PyValue)} (htarget : state.target = some tool)
    (htools : state.tools = tools.set tool entry) :
    state.assignAll fields = { state with tools := tools.set tool (setAll entry fields) } := by
  induction fields generalizing state entry with
  | nil =>
      rw [setAll, List.foldl_nil, ← htools]
      rfl
  | cons field rest ih =>
      have hassign : state.assign field.1 field.2 =
          { state with tools := tools.set tool (entry.set field.1 field.2) } := by
        rw [RegistryParse.assign, htarget]
        dsimp only
        rw [htools, OrderedDict.get?_set_self, Option.getD_some, set_set]
      rw [RegistryParse.assignAll, List.foldl_cons, hassign]
      exact ih htarget rfl

/-- After a tool its fields are read into its own entry. -/
theorem foldlM_tools {tools : List (String × RegistryMapping)} {lines : List (List Char)}
    (hlines : ToolLines platform indent tools lines) (hinside : state.inTools = true) :
    ∃ final, lines.foldlM (registryLine platform sourceLabel) state = .ok final ∧
      final.root = state.root ∧
      final.tools = tools.foldl (fun dict tool => dict.set tool.1 tool.2) state.tools ∧
      (tools = [] → final = state) ∧ (tools ≠ [] → final.target.isSome = true) := by
  induction hlines generalizing state with
  | nil => exact ⟨state, rfl, rfl, rfl, fun _ => rfl, fun h => absurd rfl h⟩
  | @cons name fields tools header lines rest inner hname hheader hinner hlines hrest ih =>
      have hread : registryLine platform sourceLabel state header = .ok
          { state with currentTool := some name, tools := state.tools.set name .empty } := by
        rw [registryLine_assigns hname (by decide) hheader, RegistryParse.read, hinside]
        rfl
      have htarget : RegistryParse.target
          { state with currentTool := some name, tools := state.tools.set name .empty } =
            some name := by
        rw [RegistryParse.target, hinside]
        exact truthyStr_eq_some hname.nonempty
      have hfields : setAll .empty fields.items = fields := OrderedDict.ofList_items fields
      have hassigned := @assignAll_tool _ name state.tools .empty fields.items htarget rfl
      rw [hfields] at hassigned
      obtain ⟨final, hfinal, hroot, htools, hnil, hcons⟩ := @ih
        { state with currentTool := some name, tools := state.tools.set name fields } hinside
      refine ⟨final, ?_, hroot, htools, fun h => (nomatch h), fun _ => ?_⟩
      · rw [List.foldlM_append, List.foldlM_cons, hread, except_ok_bind, foldlM_fields hlines,
          hassigned]
        exact hfinal
      · by_cases htools : tools = []
        · rw [hnil htools]
          exact Option.isSome_iff_exists.mpr ⟨name, htarget⟩
        · exact hcons htools

theorem assignAll_keeps_root {fields : List (String × PyValue)}
    (htarget : state.target.isSome = true) : (state.assignAll fields).root = state.root := by
  induction fields generalizing state with
  | nil => rfl
  | cons field rest ih =>
      obtain ⟨tool, htool⟩ := Option.isSome_iff_exists.mp htarget
      have hassign : state.assign field.1 field.2 = { state with
          tools := state.tools.set tool
            (((state.tools.get? tool).getD .empty).set field.1 field.2) } := by
        rw [RegistryParse.assign, htool]
      rw [RegistryParse.assignAll, List.foldl_cons, hassign]
      exact ih htarget

theorem plainKey_tools : PlainKey "tools" := ⟨by decide, by decide, by decide, by decide⟩

theorem foldlM_section {tools : OrderedDict String RegistryMapping} {lines : List (List Char)}
    {root : RegistryMapping} (hlines : SectionLines platform indent tools.items lines) :
    ∃ final, lines.foldlM (registryLine platform sourceLabel) { root } = .ok final ∧
      final.root = root ∧ final.tools = tools ∧ (tools.items = [] → final.target = none) ∧
        (tools.items ≠ [] → final.target.isSome = true) := by
  have hall : tools.items.foldl (fun dict tool => dict.set tool.1 tool.2) .empty = tools :=
    OrderedDict.ofList_items tools
  generalize hitems : tools.items = items at hlines
  cases hlines with
  | absent =>
      rw [hitems] at hall
      exact ⟨{ root }, rfl, rfl, hall, fun _ => rfl, fun h => absurd rfl h⟩
  | @present _ header lines inner hheader hinner hlines =>
      have hread : registryLine platform sourceLabel { root } header =
          .ok { root, inTools := true } := by
        rw [registryLine_assigns plainKey_tools (by decide) hheader]
        rfl
      obtain ⟨final, hfinal, hroot, htools, hnil, hcons⟩ :=
        @foldlM_tools _ sourceLabel { root, inTools := true } _ _ _ hlines rfl
      rw [← hitems] at htools
      refine ⟨final, ?_, hroot, htools.trans hall, fun h => ?_, hcons⟩
      · rw [List.foldlM_cons, hread]
        exact hfinal
      · rw [hnil h]
        rfl

/-- The first line with content is a comment or the first line that is read. -/
theorem first_content {raws lines : List (List Char)} {line : List Char}
    (hlines : (raws.map stripLine).filter (· ≠ []) = line :: lines) :
    line.head? = some '#' ∨
      ∃ raw others, raws.filter (¬Filler ·) = raw :: others ∧ stripLine raw = line := by
  induction raws with
  | nil => cases hlines
  | cons raw rest ih =>
      rw [content_cons] at hlines
      by_cases hblank : stripLine raw = []
      · rw [if_pos hblank, List.nil_append] at hlines
        have hfiller : Filler raw := .inl hblank
        simpa [List.filter_cons, hfiller] using ih hlines
      · rw [if_neg hblank, List.singleton_append] at hlines
        obtain ⟨rfl, -⟩ := List.cons.inj hlines
        by_cases hcomment : (stripLine raw).head? = some '#'
        · exact .inl hcomment
        · have hread : ¬Filler raw := fun h => h.elim hblank hcomment
          exact .inr ⟨raw, rest.filter (¬Filler ·), by simp [hread], rfl⟩

end Sections

/-! ## A layout is no JSON -/

section Json

variable {platform : TextPlatform} {doc : RegistryDocument}
variable {before after : List (String × PyValue)} {text : String}

theorem jsonLoads_none {parseFloat : List Char → PyFloat} {c : Char} {rest : List Char}
    (htext : text.toList = c :: rest)
    (hc : c ∈ ['#', 'v', 'd'] ∨ (c = 't' ∧ rest.head? = some 'o')) :
    jsonLoads parseFloat text = none := by
  have hatom : scanAtom parseFloat (c :: rest) = none := by
    rcases hc with hc | ⟨rfl, hrest⟩
    · simp only [List.mem_cons, List.not_mem_nil, or_false] at hc
      rcases hc with rfl | rfl | rfl <;> rfl
    · cases rest with
      | nil => cases hrest
      | cons d rest =>
          obtain rfl : d = 'o' := Option.some.inj hrest
          rfl
  have hplain : isJsonSpace c = false ∧ c ∉ ['"', '[', '{'] := by
    rcases hc with hc | ⟨rfl, -⟩
    · simp only [List.mem_cons, List.not_mem_nil, or_false] at hc
      rcases hc with rfl | rfl | rfl <;> decide
    · decide
  rw [jsonLoads, htext, skipSpace_cons hplain.1, List.length_cons, scanOnce_atom hplain.2, hatom]
  rfl

/-- The first line that is read has a root key or begins the tools section. -/
theorem Layout.first_key (hlayout : Layout platform doc before after text) {raw : List Char}
    {others : List (List Char)}
    (hraw : (splitlines text.toList).filter (¬Filler ·) = raw :: others) :
    ∃ key ∈ ["version", "default_deny", "defaultDeny", "tools"], ∃ indent text, PlainKey key ∧
      Assigns indent key text raw := by
  obtain ⟨hroot, -, indent, first, tools, last, hlines, hfirst, htools, hlast⟩ := hlayout
  have hrootKey : ∀ field ∈ before ++ after,
      field.1 ∈ ["version", "default_deny", "defaultDeny", "tools"] := by
    intro field hfield
    have hkey := doc.rootKeys field.1 (List.mem_map_of_mem (hroot ▸ hfield))
    simp only [List.mem_cons, List.not_mem_nil, or_false] at hkey ⊢
    tauto
  rw [hraw] at hlines
  cases hfirst with
  | @cons field _ fields _ hline hrest =>
      obtain ⟨rfl, -⟩ := List.cons.inj hlines
      obtain ⟨hkey, text, -, hassigns⟩ := hline
      exact ⟨field.1, hrootKey field (by simp), indent, text, hkey, hassigns⟩
  | nil =>
      generalize doc.tools.items = items at htools
      cases htools with
      | present hheader =>
          obtain ⟨rfl, -⟩ := List.cons.inj hlines
          exact ⟨"tools", by simp, indent, "", plainKey_tools, hheader⟩
      | absent =>
          cases hlast with
          | nil => cases hlines
          | @cons field _ fields _ hline hrest =>
              obtain ⟨rfl, -⟩ := List.cons.inj hlines
              obtain ⟨hkey, text, -, hassigns⟩ := hline
              exact ⟨field.1, hrootKey field (by simp), indent, text, hkey, hassigns⟩

theorem Layout.no_json (hlayout : Layout platform doc before after text) :
    jsonLoads platform.parseFloat (pyStrip text) = none := by
  have htrimmed : (pyStrip text).toList = stripLine text.toList := toList_pyStrip text
  obtain ⟨line, lines, hcontent⟩ := List.exists_cons_of_ne_nil hlayout.2.1
  have hprefix : line <+: (pyStrip text).toList := by
    rw [htrimmed]
    exact prefix_of_contentLines (stripLine_stripLine _)
      ((contentLines_stripLine _).trans hcontent)
  obtain ⟨more, hmore⟩ := hprefix
  rcases first_content hcontent with hcomment | ⟨raw, others, hraw, rfl⟩
  · obtain ⟨rest, rfl⟩ := List.head?_eq_some_iff.mp hcomment
    exact jsonLoads_none hmore.symm (.inl (by simp))
  · obtain ⟨key, hkey, indent, text, hplain, hassigns⟩ := hlayout.first_key hraw
    obtain ⟨gap, rest, -, hstrip, -⟩ := stripLine_assigns hplain hassigns
    rw [hstrip] at hmore
    simp only [List.mem_cons, List.not_mem_nil, or_false] at hkey
    rcases hkey with rfl | rfl | rfl | rfl
    · exact @jsonLoads_none _ _ 'v' _ hmore.symm (.inl (by decide))
    · exact @jsonLoads_none _ _ 'd' _ hmore.symm (.inl (by decide))
    · exact @jsonLoads_none _ _ 'd' _ hmore.symm (.inl (by decide))
    · exact @jsonLoads_none _ _ 't' _ hmore.symm (.inr ⟨rfl, rfl⟩)

end Json

/-! ## What is read -/

section Claim

variable {platform : TextPlatform} {doc : RegistryDocument} {sourceLabel : String}
variable {before after : List (String × PyValue)} {text : String}

/-- The root keys before the tools are read as such, and those after them only when there is no
tool. -/
theorem Layout.reads (hlayout : Layout platform doc before after text) :
    ∃ root tools, parseAgentRegistryText platform sourceLabel text = .ok (withTools root tools) ∧
      (after = [] ∨ doc.tools.items = [] → root = doc.root ∧ tools = doc.tools) ∧
        (¬(after = [] ∨ doc.tools.items = []) → root = setAll .empty before) := by
  have hjson := hlayout.no_json
  obtain ⟨hroot, hcontent, indent, first, tools, last, hlines, hfirst, htools, hlast⟩ := hlayout
  have htrimmed : (pyStrip text).toList = stripLine text.toList := toList_pyStrip text
  have hnonempty : pyStrip text ≠ "" := by
    intro hempty
    rw [hempty] at htrimmed
    refine hcontent ?_
    rw [← contentLines_stripLine, ← htrimmed]
    rfl
  have hbefore := @assignAll_root {} before rfl
  obtain ⟨final, hfinal, hfinalRoot, hfinalTools, hnone, hsome⟩ :=
    @foldlM_section _ sourceLabel _ _ _ (setAll .empty before) htools
  have hfold : (splitlines (pyStrip text).toList).foldlM (registryLine platform sourceLabel) {} =
      .ok (final.assignAll after) := by
    refine (foldlM_stripped _).mp ?_
    have hsame : ((splitlines (pyStrip text).toList).map stripLine).filter (· ≠ []) =
        ((splitlines text.toList).map stripLine).filter (· ≠ []) := by
      rw [htrimmed]
      exact contentLines_stripLine text.toList
    rw [hsame]
    refine (foldlM_stripped _).mpr ?_
    rw [foldlM_filter, hlines, List.foldlM_append, List.foldlM_append, foldlM_fields hfirst, hbefore,
      except_ok_bind, hfinal, except_ok_bind, foldlM_fields hlast]
  refine ⟨(final.assignAll after).root, (final.assignAll after).tools, ?_, ?_, ?_⟩
  · rw [parseAgentRegistryText, if_neg hnonempty, hjson]
    rw [parseSimpleYamlRegistry, hfold]
    rfl
  · have hall : setAll (setAll .empty before) after = doc.root := by
      rw [setAll, setAll, ← List.foldl_append, ← hroot]
      exact OrderedDict.ofList_items doc.root
    rintro (rfl | hempty)
    · exact ⟨hfinalRoot.trans hall, hfinalTools⟩
    · rw [assignAll_root (hnone hempty), hfinalRoot]
      exact ⟨hall, hfinalTools⟩
  · intro hnot
    rw [not_or] at hnot
    rw [assignAll_keeps_root (hsome hnot.2), hfinalRoot]

theorem get?_withTools {root : RegistryMapping} {tools : OrderedDict String RegistryMapping}
    {key : String} (hkey : key ≠ "tools") : (withTools root tools).get? key = root.get? key := by
  unfold withTools
  split
  · rfl
  · rw [OrderedDict.get?_set, if_neg hkey]

/-- A text in block style is read as the document that it writes exactly when no root key stands
after a tool. -/
theorem parseAgentRegistryText_eq_iff (hlayout : Layout platform doc before after text) :
    parseAgentRegistryText platform sourceLabel text = .ok doc.value ↔
      after = [] ∨ doc.tools.items = [] := by
  obtain ⟨root, tools, hparse, hsame, hlost⟩ := @Layout.reads _ _ sourceLabel _ _ _ hlayout
  rw [hparse]
  constructor
  · intro hvalue
    by_contra hnot
    obtain ⟨hafter, -⟩ := not_or.mp hnot
    obtain ⟨field, rest, rfl⟩ := List.exists_cons_of_ne_nil hafter
    -- the first root key after the tools is missing
    have hroot := hlayout.1
    have hmem : field ∈ doc.root.items := by
      rw [hroot]
      exact List.mem_append_right _ List.mem_cons_self
    have hkey : field.1 ≠ "tools" := by
      have hknown := doc.rootKeys field.1 (List.mem_map_of_mem hmem)
      intro htools
      rw [htools] at hknown
      exact absurd hknown (by decide)
    have hstored : doc.root.get? field.1 = some field.2 := OrderedDict.get?_eq_some_iff.mpr hmem
    have hnodup := doc.root.nodup
    rw [hroot, List.map_append, List.map_cons, List.nodup_middle] at hnodup
    have hfresh : field.1 ∉ before.map Prod.fst := fun h =>
      (List.nodup_cons.mp hnodup).1 (List.mem_append_left _ h)
    have hget := congrArg (OrderedDict.get? · field.1) (Except.ok.inj hvalue)
    rw [RegistryDocument.value, get?_withTools hkey, get?_withTools hkey, hlost hnot, hstored]
      at hget
    have hmissing : field.1 ∈ (OrderedDict.ofList before).keys := by
      rw [← OrderedDict.contains_iff, OrderedDict.contains]
      exact Option.isSome_iff_exists.mpr ⟨_, hget⟩
    exact hfresh ((OrderedDict.mem_keys_ofList before field.1).mp hmissing)
  · intro hplaced
    obtain ⟨rfl, rfl⟩ := hsame hplaced
    rfl

end Claim

/-! ## A root key below the tools -/

/-- Of the digits only the ASCII ones, and numbers as Lean reads them. -/
def platformAscii : TextPlatform where
  isDigit := Char.isDigit
  isDecimal := Char.isDigit
  parseInt := String.toInt?
  parseFloat := fun _ => .nan

def guardedFields : RegistryMapping := .ofList [("evidence_preset", .str "cost_and_completion")]

/-- A guarded payment tool in a registry that denies by default. -/
def guardedDocument : RegistryDocument where
  root := .ofList [("default_deny", .bool true)]
  tools := .ofList [("pay", guardedFields)]
  rootKeys := forall_mem_of_all (by decide)

def toolLinesText : String := "tools:\n  pay:\n    evidence_preset: cost_and_completion\n"

def denyLineText : String := "default_deny: true\n"

theorem fieldLine_deny : FieldLine platformAscii 0 ("default_deny", .bool true)
    "default_deny: true".toList := by
  refine ⟨⟨by decide, by decide, by decide, by decide⟩, "true", ⟨by decide, by decide, rfl⟩, ?_⟩
  exact ⟨[], [' '], [], by simp [isPySpace], by decide⟩

theorem sectionLines_guarded : SectionLines platformAscii 0 guardedDocument.tools.items
    ["tools:".toList, "  pay:".toList, "    evidence_preset: cost_and_completion".toList] := by
  have hfield : FieldLine platformAscii 4 ("evidence_preset", .str "cost_and_completion")
      "    evidence_preset: cost_and_completion".toList :=
    ⟨⟨by decide, by decide, by decide, by decide⟩, "cost_and_completion",
      ⟨by decide, by decide, rfl⟩, [], [' '], [], by simp [isPySpace], by decide⟩
  have hname : PlainKey "pay" := ⟨by decide, by decide, by decide, by decide⟩
  have hpay : Assigns 2 "pay" "" "  pay:".toList := ⟨[], [], [], by simp, by decide⟩
  have htools : ToolLines platformAscii 2 [("pay", guardedFields)]
      ("  pay:".toList :: ["    evidence_preset: cost_and_completion".toList] ++ []) :=
    .cons hname hpay (by decide : 2 < 4) (.cons hfield .nil) .nil
  have hheader : Assigns 0 "tools" "" "tools:".toList := ⟨[], [], [], by simp, by decide⟩
  exact .present hheader (by decide : 0 < 2) htools

/-- The root key is read as a field of the tool, and the registry does not deny. -/
theorem not_parseAgentRegistryText_eq : ¬∀ (platform : TextPlatform) (doc : RegistryDocument)
    (before after : List (String × PyValue)) (sourceLabel text : String),
      Layout platform doc before after text →
        parseAgentRegistryText platform sourceLabel text = .ok doc.value := by
  intro hclaim
  have hlayout : Layout platformAscii guardedDocument [] [("default_deny", .bool true)]
      (toolLinesText ++ denyLineText) := by
    refine ⟨rfl, by decide +kernel, 0, [], _, ["default_deny: true".toList], ?_, .nil,
      sectionLines_guarded, .cons fieldLine_deny .nil⟩
    decide +kernel
  have hparse := hclaim platformAscii guardedDocument _ _ "paybond.registry.yaml" _ hlayout
  have hlost : (parseAgentRegistryText platformAscii "paybond.registry.yaml"
      (toolLinesText ++ denyLineText)).toOption.map
        (fun root => (root.get? "default_deny").isSome) = some false := by
    decide +kernel
  rw [hparse] at hlost
  exact absurd hlost (by decide +kernel)

theorem parseAgentRegistryText_eq_iff_guarded :
    parseAgentRegistryText platformAscii "paybond.registry.yaml" (denyLineText ++ toolLinesText) =
      .ok guardedDocument.value ↔
        ([] : List (String × PyValue)) = [] ∨ guardedDocument.tools.items = [] := by
  have hlayout : Layout platformAscii guardedDocument [("default_deny", .bool true)] []
      (denyLineText ++ toolLinesText) := by
    refine ⟨rfl, by decide +kernel, 0, ["default_deny: true".toList], _, [], ?_,
      .cons fieldLine_deny .nil, sectionLines_guarded, .nil⟩
    decide +kernel
  exact parseAgentRegistryText_eq_iff hlayout

end PaybondKit.Agent
