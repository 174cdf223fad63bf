import PaybondKit.Policy.YamlContributions

/-!
# Strings of a policy file

A string that is read from blocks stands on one line, so it has no line break.
-/

namespace PaybondKit.Policy

open Agent (PyExc)

/-- All strings of a value, apart from its keys. -/
inductive OnStrings (p : String → Prop) : PyValue → Prop
  | none : OnStrings p .none
  | bool {flag} : OnStrings p (.bool flag)
  | int {number} : OnStrings p (.int number)
  | float {number} : OnStrings p (.float number)
  | str {text} : p text → OnStrings p (.str text)
  | list {items} : (∀ item ∈ items, OnStrings p item) → OnStrings p (.list items)
  | dict {items} : (∀ item ∈ items, OnStrings p item.2) → OnStrings p (.dict items)

section Members

variable {p : String → Prop} {key : String} {value : PyValue}

theorem OnStrings.of_str {text : String} (hvalue : OnStrings p (.str text)) : p text := by
  cases hvalue with
  | str htext => exact htext

theorem OnStrings.of_dict {items : List (String × PyValue)} (hvalue : OnStrings p (.dict items)) :
    ∀ item ∈ items, OnStrings p item.2 := by
  cases hvalue with
  | dict hitems => exact hitems

theorem OnStrings.get? {items : List (String × PyValue)} (hvalue : OnStrings p (.dict items))
    (hget : (OrderedDict.ofList items).get? key = some value) : OnStrings p value :=
  hvalue.of_dict _ (OrderedDict.mem_of_mem_ofList (OrderedDict.get?_eq_some_iff.mp hget))

theorem onStrings_ofList {items : List (String × PyValue)}
    (hitems : ∀ item ∈ items, OnStrings p item.2) :
    OnStrings p (.dict (OrderedDict.ofList items).items) :=
  .dict fun item hitem => hitems item (OrderedDict.mem_of_mem_ofList hitem)

theorem onStrings_itemValue {key : Option String} (hvalue : OnStrings p value) :
    OnStrings p (itemValue key value) := by
  cases key with
  | none => exact hvalue
  | some key =>
      refine .dict fun item hitem => ?_
      obtain rfl := List.mem_singleton.mp hitem
      exact hvalue

end Members

/-! ## Characters of what is read -/

section Characters

variable {good : Char → Prop} {platform : TextPlatform} {text : String}

/-- Every character of the text is good. -/
def Spelled (good : Char → Prop) (text : String) : Prop := ∀ c ∈ text.toList, good c

theorem Spelled.of_subset {other : String} (htext : Spelled good text)
    (hsubset : other.toList ⊆ text.toList) : Spelled good other :=
  fun c hc => htext c (hsubset hc)

theorem toList_pyStrip_subset (text : String) : (pyStrip text).toList ⊆ text.toList := by
  rw [toList_pyStrip]
  intro c hc
  exact (List.dropWhile_suffix _).subset ((List.rdropWhile_prefix _ _).subset hc)

theorem yamlLineRe_subset {key value : String} (hline : yamlLineRe text = some (key, value)) :
    value.toList ⊆ text.toList := by
  unfold yamlLineRe at hline
  split at hline
  next before rest hspan =>
    split at hline
    · cases hline
    · obtain ⟨-, rfl⟩ := Prod.mk.inj (Option.some.inj hline)
      rw [List.span_eq_takeWhile_dropWhile, Prod.mk.injEq] at hspan
      intro c hc
      rw [String.toList_ofList] at hc
      have hrest := (List.dropWhile_suffix _).subset hc
      have hmem : c ∈ ':' :: rest := List.mem_cons_of_mem _ hrest
      rw [← hspan.2] at hmem
      exact (List.dropWhile_suffix _).subset hmem
  next => cases hline

theorem spelled_scalar {value : PyValue} (htext : Spelled good text)
    (hparse : parseYamlScalar platform text = .ok value) : OnStrings (Spelled good) value := by
  unfold parseYamlScalar at hparse
  dsimp only at hparse
  split at hparse
  · cases hparse
    exact .str nofun
  split at hparse
  · cases hparse
    exact .bool
  split at hparse
  · cases hparse
    exact .bool
  split at hparse
  · split at hparse
    · cases hparse
      exact .int
    · cases hparse
  split at hparse
  · cases hparse
    exact .float
  split at hparse
  · cases hparse
    refine .str (htext.of_subset fun c hc => ?_)
    rw [String.toList_ofList] at hc
    exact List.mem_of_mem_tail (List.dropLast_subset _ hc)
  · cases hparse
    exact .str htext

theorem YamlLine.itemText_subset {line : YamlLine} {key : Option String}
    (hread : line.itemReading = some (key, some text)) : text.toList ⊆ line.trimmed.toList := by
  have hafter : line.afterDash.toList ⊆ line.trimmed.toList := by
    intro c hc
    have hmem := toList_pyStrip_subset _ hc
    rw [String.toList_ofList] at hmem
    exact List.drop_subset _ _ hmem
  unfold YamlLine.itemReading at hread
  split at hread
  · split at hread
    next => cases (Prod.mk.inj (Option.some.inj hread)).2
    next key value hnot hline =>
      obtain ⟨-, htext⟩ := Prod.mk.inj (Option.some.inj hread)
      obtain rfl := Option.some.inj htext
      exact fun c hc => hafter (yamlLineRe_subset hline (toList_pyStrip_subset _ hc))
    next =>
      obtain ⟨-, htext⟩ := Prod.mk.inj (Option.some.inj hread)
      obtain rfl := Option.some.inj htext
      exact hafter
  · cases hread

theorem YamlLine.memberText_subset {line : YamlLine} {key : Option String}
    (hread : line.memberReading = some (key, some text)) : text.toList ⊆ line.trimmed.toList := by
  unfold YamlLine.memberReading at hread
  split at hread
  · cases hread
  next key value hline =>
    split at hread
    · cases (Prod.mk.inj (Option.some.inj hread)).2
    · obtain ⟨-, htext⟩ := Prod.mk.inj (Option.some.inj hread)
      obtain rfl := Option.some.inj htext
      exact fun c hc => yamlLineRe_subset hline (toList_pyStrip_subset _ hc)

/-- The lines are spelled with good characters. -/
def SpelledLines (good : Char → Prop) (lines : List YamlLine) : Prop :=
  ∀ line ∈ lines, Spelled good line.trimmed

theorem spelled_parse {sourceLabel : String} (fuel : ℕ) :
    (∀ {lines indent value rest},
      parseYamlBlock platform sourceLabel fuel lines indent = .ok (value, rest) →
        SpelledLines good lines → OnStrings (Spelled good) value ∧ SpelledLines good rest) ∧
    (∀ {lines indent items rest},
      parseYamlItems platform sourceLabel fuel lines indent = .ok (items, rest) →
        SpelledLines good lines →
          (∀ item ∈ items, OnStrings (Spelled good) item) ∧ SpelledLines good rest) ∧
    ∀ {lines indent members rest},
      parseYamlMembers platform sourceLabel fuel lines indent = .ok (members, rest) →
        SpelledLines good lines →
          (∀ item ∈ members, OnStrings (Spelled good) item.2) ∧ SpelledLines good rest := by
  have hnone : ∀ value : PyValue, value ∈ ([] : List PyValue) → OnStrings (Spelled good) value :=
    fun _ hmem => absurd hmem List.not_mem_nil
  have hempty : ∀ item : String × PyValue, item ∈ ([] : List (String × PyValue)) →
      OnStrings (Spelled good) item.2 :=
    fun _ hmem => absurd hmem List.not_mem_nil
  induction fuel with
  | zero =>
      refine ⟨?_, ?_, ?_⟩
      · intro lines indent value rest hparse
        cases hparse
      · intro lines indent items rest hparse
        cases hparse
      · intro lines indent members rest hparse
        cases hparse
  | succ fuel ih =>
      obtain ⟨ihBlock, ihItems, ihMembers⟩ := ih
      refine ⟨?_, ?_, ?_⟩
      · intro lines indent value rest hparse hlines
        cases lines with
        | nil =>
            obtain ⟨rfl, rfl⟩ := Prod.mk.inj (Except.ok.inj hparse)
            exact ⟨.dict hempty, hlines⟩
        | cons line lines =>
            obtain ⟨-, rfl, rfl⟩ | ⟨-, items, hitems, rfl⟩ | ⟨-, members, hmembers, rfl⟩ :=
              parseYamlBlock_eq_ok hparse
            · exact ⟨.dict hempty, hlines⟩
            · obtain ⟨hvalues, hrest⟩ := ihItems hitems hlines
              exact ⟨.list hvalues, hrest⟩
            · obtain ⟨hvalues, hrest⟩ := ihMembers hmembers hlines
              exact ⟨onStrings_ofList hvalues, hrest⟩
      · intro lines indent items rest hparse hlines
        cases lines with
        | nil =>
            obtain ⟨rfl, rfl⟩ := Prod.mk.inj (Except.ok.inj hparse)
            exact ⟨hnone, hlines⟩
        | cons line lines =>
            obtain ⟨hline, htail⟩ := List.forall_mem_cons.mp hlines
            obtain ⟨-, rfl, rfl⟩ | ⟨rfl, key, items', ⟨text, value, hread, hvalue, hitems, rfl⟩ |
              ⟨child, middle, hread, hchild, hitems, rfl⟩⟩ := parseYamlItems_eq_ok hparse
            · exact ⟨hnone, hlines⟩
            · obtain ⟨hvalues, hrest⟩ := ihItems hitems htail
              have htext := hline.of_subset (YamlLine.itemText_subset hread)
              exact ⟨List.forall_mem_cons.mpr
                ⟨onStrings_itemValue (spelled_scalar htext hvalue), hvalues⟩, hrest⟩
            · obtain ⟨hinner, hmiddle⟩ := ihBlock hchild htail
              obtain ⟨hvalues, hrest⟩ := ihItems hitems hmiddle
              exact ⟨List.forall_mem_cons.mpr ⟨onStrings_itemValue hinner, hvalues⟩, hrest⟩
      · intro lines indent members rest hparse hlines
        cases lines with
        | nil =>
            obtain ⟨rfl, rfl⟩ := Prod.mk.inj (Except.ok.inj hparse)
            exact ⟨hempty, hlines⟩
        | cons line lines =>
            obtain ⟨hline, htail⟩ := List.forall_mem_cons.mp hlines
            obtain ⟨-, rfl, rfl⟩ | ⟨rfl, key, members', ⟨text, value, hread, hvalue, hmembers, rfl⟩ |
              ⟨child, middle, hread, hchild, hmembers, rfl⟩⟩ := parseYamlMembers_eq_ok hparse
            · exact ⟨hempty, hlines⟩
            · obtain ⟨hvalues, hrest⟩ := ihMembers hmembers htail
              have htext := hline.of_subset (YamlLine.memberText_subset hread)
              exact ⟨List.forall_mem_cons.mpr ⟨spelled_scalar htext hvalue, hvalues⟩, hrest⟩
            · obtain ⟨hinner, hmiddle⟩ := ihBlock hchild htail
              obtain ⟨hvalues, hrest⟩ := ihMembers hmembers hmiddle
              exact ⟨List.forall_mem_cons.mpr ⟨hinner, hvalues⟩, hrest⟩

theorem spelledLines_tokenize (text : String) :
    SpelledLines (isLineBreak · = false) (tokenizeYamlLines text) := by
  intro line hline
  obtain ⟨raw, hraw, htoken⟩ := List.mem_filterMap.mp hline
  have hbreaks := not_isLineBreak_of_mem_splitlines hraw
  unfold yamlLine? at htoken
  dsimp only at htoken
  split at htoken
  · cases htoken
  · obtain rfl := Option.some.inj htoken
    intro c hc
    have hmem := toList_pyStrip_subset _ hc
    rw [String.toList_ofList] at hmem
    exact hbreaks c hmem

/-- No string that is read from a file in blocks has a line break. -/
theorem unbroken_parseIndentedYaml {sourceLabel : String} {document : OrderedDict String PyValue}
    (hparse : parseIndentedYaml platform text sourceLabel = .ok document) :
    OnStrings (Spelled (isLineBreak · = false)) (.dict document.items) := by
  unfold parseIndentedYaml at hparse
  split at hparse
  · cases hparse
  next line lines htokens =>
    obtain ⟨⟨value, rest⟩, hblock, hvalue⟩ := except_bind_eq_ok.mp hparse
    have hlines := spelledLines_tokenize text
    rw [htokens] at hlines
    have hstrings := ((spelled_parse _).1 hblock hlines).1
    cases value with
    | dict items =>
        obtain rfl := Except.ok.inj hvalue
        exact onStrings_ofList hstrings.of_dict
    | _ => cases hvalue

end Characters

end PaybondKit.Policy
