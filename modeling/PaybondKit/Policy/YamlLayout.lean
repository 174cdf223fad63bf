import PaybondKit.Policy.ParseText

/-!
# The layout of a policy file

The lines that the block parser follows form one layout: the lines of a block stand at its
indentation, those of a block inside it two columns deeper. What the parser has left when a block
ends is what the layout does not hold, and the only text it stumbles over, apart from a line that
it calls invalid, is a scalar of digits that `int` does not read.
-/

namespace PaybondKit.Policy

open Agent (PyExc)

/-! ## What a line says -/

/-- What a line says in a list: its key, and a text unless a block follows. -/
def YamlLine.itemReading (line : YamlLine) : Option (Option String × Option String) :=
  if line.isItem then
    match yamlLineRe line.afterDash with
    | some (key, "") => some (some (pyStrip key), none)
    | some (key, text) => some (some (pyStrip key), some (pyStrip text))
    | none => some (none, some line.afterDash)
  else none

/-- What a line says in an object. -/
def YamlLine.memberReading (line : YamlLine) : Option (Option String × Option String) :=
  match yamlLineRe line.trimmed with
  | none => none
  | some (key, text) =>
      if pyStrip text = "" then some (some (pyStrip key), none)
      else some (some (pyStrip key), some (pyStrip text))

def YamlLine.reading (line : YamlLine) (inList : Bool) : Option (Option String × Option String) :=
  if inList then line.itemReading else line.memberReading

/-- The value of an item with a key. -/
def itemValue : Option String → PyValue → PyValue
  | none, value => value
  | some key, value => .dict [(key, value)]

/-- A line that starts an item has something after the dash. -/
theorem YamlLine.afterDash_ne {line : YamlLine} (hitem : line.isItem = true) :
    line.afterDash ≠ "" := by
  intro hempty
  obtain ⟨after, hafter⟩ := List.isPrefixOf_iff_prefix.mp hitem
  have hspaces : ∀ c ∈ after, isPySpace c = true := by
    have htext := congrArg String.toList hempty
    rw [YamlLine.afterDash, toList_pyStrip, ← hafter, String.toList_ofList] at htext
    have hend : ∀ c ∈ after.dropWhile isPySpace, isPySpace c = true :=
      List.rdropWhile_eq_nil_iff.mp htext
    rw [← List.dropWhile_eq_nil_iff]
    by_contra hne
    have hhead := List.head_dropWhile_not isPySpace hne
    rw [hend _ (List.head_mem hne)] at hhead
    cases hhead
  have hdash : ('-' :: ' ' :: after).dropWhile isPySpace = '-' :: ' ' :: after := rfl
  have hstripped := congrArg String.toList line.stripped
  rw [toList_pyStrip, ← hafter, List.cons_append, List.singleton_append, hdash] at hstripped
  refine List.rdropWhile_eq_self_iff.mp hstripped (List.cons_ne_nil _ _) ?_
  rw [List.getLast_cons (List.cons_ne_nil _ _)]
  rcases List.mem_cons.mp (List.getLast_mem (List.cons_ne_nil ' ' after)) with heq | hmem
  · rw [heq]
    rfl
  · exact hspaces _ hmem

theorem YamlLine.itemReading_of_none {line : YamlLine} (hitem : line.isItem = true)
    (hread : yamlLineRe line.afterDash = none) :
    line.itemReading = some (none, some line.afterDash) := by
  rw [YamlLine.itemReading, if_pos hitem, hread]

theorem YamlLine.itemReading_of_key {line : YamlLine} {key : String} (hitem : line.isItem = true)
    (hread : yamlLineRe line.afterDash = some (key, "")) :
    line.itemReading = some (some (pyStrip key), none) := by
  rw [YamlLine.itemReading, if_pos hitem, hread]
  rfl

theorem YamlLine.itemReading_of_text {line : YamlLine} {key text : String}
    (hitem : line.isItem = true) (hread : yamlLineRe line.afterDash = some (key, text))
    (hempty : text ≠ "") :
    line.itemReading = some (some (pyStrip key), some (pyStrip text)) := by
  rw [YamlLine.itemReading, if_pos hitem, hread]
  split
  next heq => exact (hempty (Prod.mk.inj (Option.some.inj heq)).2).elim
  next heq =>
    obtain ⟨rfl, rfl⟩ := Prod.mk.inj (Option.some.inj heq)
    rfl
  next heq => cases heq

theorem YamlLine.itemReading_eq_none_iff {line : YamlLine} :
    line.itemReading = none ↔ line.isItem = false := by
  unfold YamlLine.itemReading
  split
  next hitem =>
    rw [hitem]
    constructor
    · intro hnone
      split at hnone <;> cases hnone
    · nofun
  next hitem => exact ⟨fun _ => Bool.eq_false_iff.mpr hitem, fun _ => rfl⟩

/-- In an object every line has a key. -/
theorem YamlLine.isSome_key {line : YamlLine} {key text : Option String}
    (hread : line.memberReading = some (key, text)) : ∃ name, key = some name := by
  unfold YamlLine.memberReading at hread
  split at hread
  next => cases hread
  next name _ _ =>
    split at hread <;>
      exact ⟨pyStrip name, (Prod.mk.inj (Option.some.inj hread)).1.symm⟩

/-- A block without a key does not start on the line of an item. -/
theorem YamlLine.isSome_itemKey {line : YamlLine} {key : Option String}
    (hread : line.itemReading = some (key, none)) : ∃ name, key = some name := by
  unfold YamlLine.itemReading at hread
  split at hread
  next =>
    split at hread
    next name _ => exact ⟨pyStrip name, (Prod.mk.inj (Option.some.inj hread)).1.symm⟩
    next => cases (Prod.mk.inj (Option.some.inj hread)).2
    next => cases (Prod.mk.inj (Option.some.inj hread)).2
  next => cases hread

/-! ## Steps of the parser -/

section Steps

variable {platform : TextPlatform} {sourceLabel : String} {fuel indent : ℕ}
variable {line : YamlLine} {lines : List YamlLine}

theorem parseYamlBlock_cons :
    parseYamlBlock platform sourceLabel (fuel + 1) (line :: lines) indent =
      if line.indent < indent then .ok (.dict [], line :: lines)
      else if line.isItem then do
        let (items, rest) ← parseYamlItems platform sourceLabel fuel (line :: lines) indent
        return (.list items, rest)
      else do
        let (members, rest) ← parseYamlMembers platform sourceLabel fuel (line :: lines) indent
        return (.dict (OrderedDict.ofList members).items, rest) := by
  rw [parseYamlBlock]

theorem parseYamlItems_cons :
    parseYamlItems platform sourceLabel (fuel + 1) (line :: lines) indent =
      if line.indent = indent then
        match line.itemReading with
        | none => .ok ([], line :: lines)
        | some (key, some text) => do
            let value ← parseYamlScalar platform text
            let (items, rest) ← parseYamlItems platform sourceLabel fuel lines indent
            return (itemValue key value :: items, rest)
        | some (key, none) => do
            let (child, rest) ← parseYamlBlock platform sourceLabel fuel lines (indent + 2)
            let (items, rest) ← parseYamlItems platform sourceLabel fuel rest indent
            return (itemValue key child :: items, rest)
      else .ok ([], line :: lines) := by
  rw [parseYamlItems]
  by_cases hindent : line.indent = indent
  · by_cases hitem : line.isItem = true
    · rw [if_pos ⟨hindent, hitem⟩, if_neg (YamlLine.afterDash_ne hitem), if_pos hindent]
      cases hread : yamlLineRe line.afterDash with
      | none =>
        rw [YamlLine.itemReading_of_none hitem hread]
        rfl
      | some parts =>
        obtain ⟨key, text⟩ := parts
        by_cases hempty : text = ""
        · subst hempty
          rw [YamlLine.itemReading_of_key hitem hread]
          rfl
        · rw [YamlLine.itemReading_of_text hitem hread hempty]
          split
          next heq => exact (hempty (Prod.mk.inj (Option.some.inj heq)).2).elim
          next heq =>
            obtain ⟨rfl, rfl⟩ := Prod.mk.inj (Option.some.inj heq)
            rfl
          next heq => cases heq
    · have hnone := YamlLine.itemReading_eq_none_iff.mpr (Bool.not_eq_true _ ▸ hitem)
      rw [if_neg fun h => hitem h.2, if_pos hindent, hnone]
  · rw [if_neg fun h => hindent h.1, if_neg hindent]

theorem parseYamlMembers_cons :
    parseYamlMembers platform sourceLabel (fuel + 1) (line :: lines) indent =
      if line.indent = indent then
        match line.memberReading with
        | none => .error (invalidYamlLine line sourceLabel)
        | some (key, some text) => do
            let value ← parseYamlScalar platform text
            let (members, rest) ← parseYamlMembers platform sourceLabel fuel lines indent
            return ((key.getD "", value) :: members, rest)
        | some (key, none) => do
            let (child, rest) ← parseYamlBlock platform sourceLabel fuel lines (indent + 2)
            let (members, rest) ← parseYamlMembers platform sourceLabel fuel rest indent
            return ((key.getD "", child) :: members, rest)
      else .ok ([], line :: lines) := by
  rw [parseYamlMembers, YamlLine.memberReading]
  by_cases hindent : line.indent = indent
  · rw [if_pos hindent, if_pos hindent]
    cases yamlLineRe line.trimmed with
    | none => rfl
    | some parts =>
        obtain ⟨key, text⟩ := parts
        by_cases hempty : pyStrip text = "" <;> simp only [hempty, if_true, if_false] <;> rfl
  · rw [if_neg hindent, if_neg hindent]

end Steps

/-! ## What is left of the lines -/

section Rest

variable (platform : TextPlatform) (sourceLabel : String)

def blockRest (fuel : ℕ) (lines : List YamlLine) (indent : ℕ) : Except PyExc (List YamlLine) :=
  (parseYamlBlock platform sourceLabel fuel lines indent).map Prod.snd

/-- What the loop over the items or over the members leaves. -/
def loopRest (inList : Bool) (fuel : ℕ) (lines : List YamlLine) (indent : ℕ) :
    Except PyExc (List YamlLine) :=
  if inList then (parseYamlItems platform sourceLabel fuel lines indent).map Prod.snd
  else (parseYamlMembers platform sourceLabel fuel lines indent).map Prod.snd

variable {platform sourceLabel} {inList : Bool} {fuel indent : ℕ}
variable {line : YamlLine} {lines : List YamlLine}

theorem blockRest_nil : blockRest platform sourceLabel (fuel + 1) [] indent = .ok [] := by
  rw [blockRest, parseYamlBlock]
  rfl

theorem blockRest_cons :
    blockRest platform sourceLabel (fuel + 1) (line :: lines) indent =
      if line.indent < indent then .ok (line :: lines)
      else loopRest platform sourceLabel line.isItem fuel (line :: lines) indent := by
  rw [blockRest, parseYamlBlock_cons, loopRest]
  split
  next => rfl
  next =>
    split
    next => cases parseYamlItems platform sourceLabel fuel (line :: lines) indent <;> rfl
    next => cases parseYamlMembers platform sourceLabel fuel (line :: lines) indent <;> rfl

theorem loopRest_nil : loopRest platform sourceLabel inList (fuel + 1) [] indent = .ok [] := by
  cases inList with
  | true =>
      rw [loopRest, if_pos rfl, parseYamlItems]
      rfl
  | false =>
      rw [loopRest, if_neg Bool.false_ne_true, parseYamlMembers]
      rfl

/-- One turn of a loop. Only a loop over members takes every line for its own. -/
theorem loopRest_cons :
    loopRest platform sourceLabel inList (fuel + 1) (line :: lines) indent =
      if line.indent = indent then
        match line.reading inList with
        | none => if inList then .ok (line :: lines) else .error (invalidYamlLine line sourceLabel)
        | some (_, some text) => do
            let _ ← parseYamlScalar platform text
            loopRest platform sourceLabel inList fuel lines indent
        | some (_, none) => do
            let rest ← blockRest platform sourceLabel fuel lines (indent + 2)
            loopRest platform sourceLabel inList fuel rest indent
      else .ok (line :: lines) := by
  cases inList with
  | true =>
      rw [loopRest, if_pos rfl, parseYamlItems_cons, YamlLine.reading, if_pos rfl]
      split
      next =>
        match line.itemReading with
        | none => rfl
        | some (key, some text) =>
            simp only [loopRest, if_true]
            cases parseYamlScalar platform text with
            | error failure => rfl
            | ok value => cases parseYamlItems platform sourceLabel fuel lines indent <;> rfl
        | some (key, none) =>
            simp only [loopRest, blockRest, if_true]
            cases parseYamlBlock platform sourceLabel fuel lines (indent + 2) with
            | error failure => rfl
            | ok parsed =>
                obtain ⟨child, rest⟩ := parsed
                change Except.map Prod.snd (do
                    let (items, rest) ← parseYamlItems platform sourceLabel fuel rest indent
                    return (itemValue key child :: items, rest)) =
                  Except.map Prod.snd (parseYamlItems platform sourceLabel fuel rest indent)
                cases parseYamlItems platform sourceLabel fuel rest indent <;> rfl
      next => rfl
  | false =>
      rw [loopRest, if_neg Bool.false_ne_true, parseYamlMembers_cons, YamlLine.reading,
        if_neg Bool.false_ne_true]
      split
      next =>
        match line.memberReading with
        | none => rfl
        | some (key, some text) =>
            simp only [loopRest, Bool.false_eq_true, if_false]
            cases parseYamlScalar platform text with
            | error failure => rfl
            | ok value => cases parseYamlMembers platform sourceLabel fuel lines indent <;> rfl
        | some (key, none) =>
            simp only [loopRest, blockRest, Bool.false_eq_true, if_false]
            cases parseYamlBlock platform sourceLabel fuel lines (indent + 2) with
            | error failure => rfl
            | ok parsed =>
                obtain ⟨child, rest⟩ := parsed
                change Except.map Prod.snd (do
                    let (members, rest) ← parseYamlMembers platform sourceLabel fuel rest indent
                    return ((key.getD "", child) :: members, rest)) =
                  Except.map Prod.snd (parseYamlMembers platform sourceLabel fuel rest indent)
                cases parseYamlMembers platform sourceLabel fuel rest indent <;> rfl
      next => rfl

end Rest

/-! ## Layouts -/

/-- The first line tells a list from an object. -/
def Starts (inList : Bool) (lines : List YamlLine) : Prop :=
  ∀ line ∈ lines.head?, line.isItem = inList

theorem starts_nil {inList : Bool} : Starts inList [] := by
  intro line hline
  cases hline

/-- The lines of a list or of an object at an indentation, with the keys of the object. With
`distinct` no object has a key twice. -/
inductive Layout (distinct : Prop) : Bool → ℕ → List YamlLine → List String → Prop
  | nil {inList indent} : Layout distinct inList indent [] []
  | scalar {inList line key text lines keys} :
      line.reading inList = some (key, some text) →
      (distinct → inList = false → ∀ name ∈ key, name ∉ keys) →
      Layout distinct inList line.indent lines keys →
      Layout distinct inList line.indent (line :: lines) (key.toList ++ keys)
  | block {inList innerList line key inner innerKeys lines keys} :
      line.reading inList = some (key, none) →
      Starts innerList inner →
      Layout distinct innerList (line.indent + 2) inner innerKeys →
      (distinct → inList = false → ∀ name ∈ key, name ∉ keys) →
      Layout distinct inList line.indent lines keys →
      Layout distinct inList line.indent (line :: (inner ++ lines)) (key.toList ++ keys)

/-- The lines up to one with a scalar form a layout that its line goes on with. -/
inductive ComesTo : Bool → ℕ → List YamlLine → String → Prop
  | here {inList line key text lines} :
      line.reading inList = some (key, some text) →
      ComesTo inList line.indent (line :: lines) text
  | later {inList line key other lines text} :
      line.reading inList = some (key, some other) →
      ComesTo inList line.indent lines text →
      ComesTo inList line.indent (line :: lines) text
  | inside {inList innerList line key lines text} :
      line.reading inList = some (key, none) →
      Starts innerList lines →
      ComesTo innerList (line.indent + 2) lines text →
      ComesTo inList line.indent (line :: lines) text
  | after {inList innerList line key inner innerKeys lines text} :
      line.reading inList = some (key, none) →
      Starts innerList inner →
      Layout False innerList (line.indent + 2) inner innerKeys →
      ComesTo inList line.indent lines text →
      ComesTo inList line.indent (line :: (inner ++ lines)) text

/-! ## Where the parser stops -/

/-- The text is taken for a number and is none that `int` reads. -/
def Rejected (platform : TextPlatform) (text : String) : Prop :=
  let digits := text.toList.dropWhile (· = '-')
  text ∉ ["true", "false"] ∧ (digits ≠ [] ∧ digits.all platform.isDigit = true) ∧
    platform.parseInt text = none

theorem parseYamlScalar_of_rejected {platform : TextPlatform} {text : String}
    (hrejected : Rejected platform text) :
    parseYamlScalar platform text = .error invalidLiteral := by
  obtain ⟨hplain, ⟨hdigits, hall⟩, hint⟩ := hrejected
  simp only [List.mem_cons, List.not_mem_nil, or_false, not_or] at hplain
  have hempty : text ≠ "" := by
    rintro rfl
    exact hdigits rfl
  have hnumber : (!(text.toList.dropWhile (· = '-')).isEmpty &&
      (text.toList.dropWhile (· = '-')).all platform.isDigit) = true := by
    rw [hall, Bool.and_true, Bool.not_eq_true', List.isEmpty_eq_false_iff]
    exact hdigits
  rw [parseYamlScalar, if_neg hempty, if_neg hplain.1, if_neg hplain.2, if_pos hnumber, hint]

theorem parseYamlScalar_cases (platform : TextPlatform) (text : String) :
    Rejected platform text ∨ ∃ value, parseYamlScalar platform text = .ok value := by
  rw [or_iff_not_imp_left]
  intro hread
  unfold parseYamlScalar
  dsimp only
  by_cases hempty : text = ""
  · exact ⟨_, if_pos hempty⟩
  rw [if_neg hempty]
  by_cases htrue : text = "true"
  · exact ⟨_, if_pos htrue⟩
  rw [if_neg htrue]
  by_cases hfalse : text = "false"
  · exact ⟨_, if_pos hfalse⟩
  rw [if_neg hfalse]
  split
  next hnumber =>
    cases hint : platform.parseInt text with
    | some number => exact ⟨_, rfl⟩
    | none =>
        refine absurd ⟨?_, ?_, hint⟩ hread
        · simp [htrue, hfalse]
        · rw [Bool.and_eq_true, Bool.not_eq_true', List.isEmpty_eq_false_iff] at hnumber
          exact hnumber
  next =>
    split
    next => exact ⟨_, rfl⟩
    next => split <;> exact ⟨_, rfl⟩

/-- A result of the parser: the lines that it has read, or why it has stopped. -/
def Outcome (platform : TextPlatform) (lines : List YamlLine) (complete : List YamlLine → Prop)
    (reached : String → Prop) : Except PyExc (List YamlLine) → Prop
  | .ok rest => ∃ read, lines = read ++ rest ∧ complete read
  | .error failure =>
      (∃ invalid, failure = .policyValidation invalid) ∨
        failure = invalidLiteral ∧ ∃ text, reached text ∧ Rejected platform text

namespace Outcome

variable {platform : TextPlatform} {lines lines' : List YamlLine}
variable {complete complete' : List YamlLine → Prop} {reached reached' : String → Prop}
variable {result : Except PyExc (List YamlLine)}

theorem nothing (hcomplete : complete []) : Outcome platform lines complete reached (.ok lines) :=
  ⟨[], rfl, hcomplete⟩

theorem bind {next : List YamlLine → Except PyExc (List YamlLine)}
    (hresult : Outcome platform lines complete reached result)
    (hreached : ∀ text, reached text → reached' text)
    (hnext : ∀ read rest, lines = read ++ rest → complete read →
      Outcome platform lines' complete' reached' (next rest)) :
    Outcome platform lines' complete' reached' (result >>= next) := by
  cases result with
  | ok rest =>
      obtain ⟨read, hlines, hread⟩ := hresult
      exact hnext read rest hlines hread
  | error failure =>
      obtain hinvalid | ⟨hfailure, text, htext, hrejected⟩ := hresult
      · exact .inl hinvalid
      · exact .inr ⟨hfailure, text, hreached text htext, hrejected⟩

/-- More lines are read in front of those of the result. -/
theorem behind {before : List YamlLine} (hresult : Outcome platform lines complete reached result)
    (hcomplete : ∀ read, complete read → complete' (before ++ read))
    (hreached : ∀ text, reached text → reached' text) :
    Outcome platform (before ++ lines) complete' reached' result := by
  cases result with
  | ok rest =>
      obtain ⟨read, rfl, hread⟩ := hresult
      exact ⟨before ++ read, (List.append_assoc _ _ _).symm, hcomplete read hread⟩
  | error failure =>
      obtain hinvalid | ⟨hfailure, text, htext, hrejected⟩ := hresult
      · exact .inl hinvalid
      · exact .inr ⟨hfailure, text, hreached text htext, hrejected⟩

end Outcome

section Outcomes

variable {platform : TextPlatform} {sourceLabel : String}

theorem starts_of_append {inList : Bool} {read rest : List YamlLine}
    (hstarts : Starts inList (read ++ rest)) : Starts inList read := by
  cases read with
  | nil => exact starts_nil
  | cons line read => exact hstarts

theorem rest_outcome (fuel : ℕ) :
    (∀ {lines indent}, 2 * lines.length + 2 ≤ fuel →
      Outcome platform lines
        (fun read => ∃ inList keys, Starts inList read ∧ Layout False inList indent read keys)
        (fun text => ∃ inList, Starts inList lines ∧ ComesTo inList indent lines text)
        (blockRest platform sourceLabel fuel lines indent)) ∧
    ∀ {inList lines indent}, 2 * lines.length + 1 ≤ fuel →
      Outcome platform lines (fun read => ∃ keys, Layout False inList indent read keys)
        (ComesTo inList indent lines)
        (loopRest platform sourceLabel inList fuel lines indent) := by
  induction fuel with
  | zero => exact ⟨by omega, by omega⟩
  | succ fuel ih =>
      obtain ⟨ihBlock, ihLoop⟩ := ih
      refine ⟨?_, ?_⟩
      · intro lines indent hfuel
        cases lines with
        | nil =>
            rw [blockRest_nil]
            exact .nothing ⟨true, [], starts_nil, .nil⟩
        | cons line lines =>
            have hstarts : Starts line.isItem (line :: lines) := by
              rintro first ⟨⟩
              rfl
            rw [blockRest_cons]
            by_cases hless : line.indent < indent
            · rw [if_pos hless]
              exact .nothing ⟨true, [], starts_nil, .nil⟩
            · rw [if_neg hless]
              have hloop := @ihLoop line.isItem (line :: lines) indent (by omega)
              cases hrest : loopRest platform sourceLabel line.isItem fuel (line :: lines) indent with
              | ok rest =>
                  rw [hrest] at hloop
                  obtain ⟨read, hread, keys, hlayout⟩ := hloop
                  exact ⟨read, hread, line.isItem, keys, starts_of_append (hread ▸ hstarts), hlayout⟩
              | error failure =>
                  rw [hrest] at hloop
                  exact hloop.imp id fun ⟨hfailure, text, hcomes, hrejected⟩ =>
                    ⟨hfailure, text, ⟨_, hstarts, hcomes⟩, hrejected⟩
      · intro inList lines indent hfuel
        cases lines with
        | nil =>
            rw [loopRest_nil]
            exact .nothing ⟨[], .nil⟩
        | cons line lines =>
            rw [List.length_cons] at hfuel
            rw [loopRest_cons]
            by_cases hindent : line.indent = indent
            · subst hindent
              rw [if_pos rfl]
              match hread : line.reading inList with
              | none =>
                  cases inList with
                  | true => exact .nothing ⟨[], .nil⟩
                  | false => exact .inl ⟨_, rfl⟩
              | some (key, some text) =>
                  dsimp only
                  obtain hrejected | ⟨value, hvalue⟩ := parseYamlScalar_cases platform text
                  · rw [parseYamlScalar_of_rejected hrejected]
                    exact .inr ⟨rfl, text, .here hread, hrejected⟩
                  · rw [hvalue]
                    refine @Outcome.behind _ _ _ _ _ _ _ [line] (ihLoop (by omega)) ?_ fun text => ?_
                    · rintro read ⟨keys, hlayout⟩
                      exact ⟨_, .scalar hread nofun hlayout⟩
                    · exact .later hread
              | some (key, none) =>
                  dsimp only
                  refine (ihBlock (by omega)).bind ?_ ?_
                  · rintro text ⟨innerList, hstarts, hcomes⟩
                    exact .inside hread hstarts hcomes
                  · rintro inner middle rfl ⟨innerList, innerKeys, hstarts, hinner⟩
                    rw [List.length_append] at hfuel
                    refine @Outcome.behind _ _ _ _ _ _ _ (line :: inner) (ihLoop (by omega)) ?_
                      fun text => ?_
                    · rintro read ⟨keys, hlayout⟩
                      exact ⟨_, .block hread hstarts hinner nofun hlayout⟩
                    · exact .after hread hstarts hinner
            · rw [if_neg hindent]
              exact .nothing ⟨[], .nil⟩

/-! ## A layout is read -/

/-- All of the lines are read up to `rest`, or `int` does not read one of them. -/
def ReadsTo (result : Except PyExc (List YamlLine)) (rest : List YamlLine) : Prop :=
  result = .ok rest ∨ result = .error invalidLiteral

theorem ReadsTo.bind {result : Except PyExc (List YamlLine)} {middle rest : List YamlLine}
    {next : List YamlLine → Except PyExc (List YamlLine)} (hresult : ReadsTo result middle)
    (hnext : ReadsTo (next middle) rest) : ReadsTo (result >>= next) rest := by
  obtain rfl | rfl := hresult
  · exact hnext
  · exact .inr rfl

theorem readsTo_scalar {text : String} {rest : List YamlLine}
    {next : Except PyExc (List YamlLine)} (hnext : ReadsTo next rest) :
    ReadsTo (do let _ ← parseYamlScalar platform text; next) rest := by
  obtain hrejected | ⟨value, hvalue⟩ := parseYamlScalar_cases platform text
  · rw [parseYamlScalar_of_rejected hrejected]
    exact .inr rfl
  · rw [hvalue]
    exact hnext

theorem readsTo_block {inList : Bool} {indent fuel : ℕ} {inner rest : List YamlLine}
    {keys : List String} (hlayout : Layout False inList indent inner keys)
    (hstarts : Starts inList inner) (hrest : ∀ line ∈ rest.head?, line.indent < indent)
    (hloop : ReadsTo (loopRest platform sourceLabel inList fuel (inner ++ rest) indent) rest) :
    ReadsTo (blockRest platform sourceLabel (fuel + 1) (inner ++ rest) indent) rest := by
  cases hlayout with
  | nil =>
      cases rest with
      | nil => exact .inl blockRest_nil
      | cons line rest =>
          rw [List.nil_append, blockRest_cons, if_pos (hrest line rfl)]
          exact .inl rfl
  | @scalar _ line =>
      obtain rfl := hstarts line rfl
      rw [List.cons_append, blockRest_cons, if_neg (lt_irrefl _)]
      exact hloop
  | @block _ _ line =>
      obtain rfl := hstarts line rfl
      rw [List.cons_append, blockRest_cons, if_neg (lt_irrefl _)]
      exact hloop

theorem indent_of_layout {distinct : Prop} {inList : Bool} {indent : ℕ} {lines : List YamlLine}
    {keys : List String} (hlayout : Layout distinct inList indent lines keys) :
    ∀ line ∈ lines.head?, line.indent = indent := by
  cases hlayout with
  | nil => exact nofun
  | scalar =>
      rintro line ⟨⟩
      rfl
  | block =>
      rintro line ⟨⟩
      rfl

theorem readsTo_layout {inList : Bool} {indent : ℕ} {inner : List YamlLine} {keys : List String}
    (hlayout : Layout False inList indent inner keys) :
    ∀ {rest : List YamlLine} {fuel : ℕ}, (∀ line ∈ rest.head?, line.indent < indent) →
      2 * (inner ++ rest).length + 1 ≤ fuel →
        ReadsTo (loopRest platform sourceLabel inList fuel (inner ++ rest) indent) rest := by
  induction hlayout with
  | nil =>
      intro rest fuel hrest hfuel
      obtain ⟨fuel, rfl⟩ := Nat.exists_eq_succ_of_ne_zero (by omega : fuel ≠ 0)
      cases rest with
      | nil => exact .inl loopRest_nil
      | cons line rest =>
          rw [List.nil_append, loopRest_cons, if_neg (hrest line rfl).ne]
          exact .inl rfl
  | @scalar inList line key text lines keys hread hkeys hlines ih =>
      intro rest fuel hrest hfuel
      obtain ⟨fuel, rfl⟩ := Nat.exists_eq_succ_of_ne_zero (by omega : fuel ≠ 0)
      rw [List.cons_append, loopRest_cons, if_pos rfl, hread]
      rw [List.cons_append, List.length_cons] at hfuel
      exact readsTo_scalar (ih hrest (by omega))
  | @block inList innerList line key inner innerKeys lines keys hread hstarts hinner hkeys hlines
      ihInner ih =>
      intro rest fuel hrest hfuel
      obtain ⟨fuel, rfl⟩ := Nat.exists_eq_succ_of_ne_zero (by omega : fuel ≠ 0)
      rw [List.cons_append, loopRest_cons, if_pos rfl, hread, List.append_assoc]
      rw [List.cons_append, List.length_cons, List.append_assoc] at hfuel
      obtain ⟨fuel, rfl⟩ := Nat.exists_eq_succ_of_ne_zero (by omega : fuel ≠ 0)
      -- what follows the block stands further to the left
      have hleft : ∀ next ∈ (lines ++ rest).head?, next.indent < line.indent + 2 := by
        intro next hnext
        cases lines with
        | nil => exact (hrest next hnext).trans (by omega)
        | cons first lines =>
            rw [indent_of_layout hlines next hnext]
            omega
      refine (readsTo_block hinner hstarts hleft (ihInner hleft (by omega))).bind ?_
      rw [List.length_append] at hfuel
      exact ih hrest (by omega)

theorem indent_of_comesTo {inList : Bool} {indent : ℕ} {lines : List YamlLine} {text : String}
    (hcomes : ComesTo inList indent lines text) :
    ∃ line rest, lines = line :: rest ∧ line.indent = indent := by
  cases hcomes <;> exact ⟨_, _, rfl, rfl⟩

/-- The parser does not get past a scalar that it comes to when `int` does not read it. -/
theorem loopRest_of_comesTo {inList : Bool} {indent : ℕ} {lines : List YamlLine} {text : String}
    (hcomes : ComesTo inList indent lines text) (hrejected : Rejected platform text) :
    ∀ {fuel : ℕ}, 2 * lines.length + 1 ≤ fuel →
      loopRest platform sourceLabel inList fuel lines indent = .error invalidLiteral := by
  induction hcomes with
  | here hread =>
      intro fuel hfuel
      obtain ⟨fuel, rfl⟩ := Nat.exists_eq_succ_of_ne_zero (by omega : fuel ≠ 0)
      rw [loopRest_cons, if_pos rfl, hread]
      dsimp only
      rw [parseYamlScalar_of_rejected hrejected]
      rfl
  | @later inList line key other lines text hread hcomes ih =>
      intro fuel hfuel
      obtain ⟨fuel, rfl⟩ := Nat.exists_eq_succ_of_ne_zero (by omega : fuel ≠ 0)
      rw [List.length_cons] at hfuel
      rw [loopRest_cons, if_pos rfl, hread]
      dsimp only
      obtain hother | ⟨value, hvalue⟩ := parseYamlScalar_cases platform other
      · rw [parseYamlScalar_of_rejected hother]
        rfl
      · rw [hvalue]
        exact ih hrejected (by omega)
  | @inside inList innerList line key lines text hread hstarts hcomes ih =>
      intro fuel hfuel
      obtain ⟨fuel, rfl⟩ := Nat.exists_eq_succ_of_ne_zero (by omega : fuel ≠ 0)
      rw [List.length_cons] at hfuel
      obtain ⟨fuel, rfl⟩ := Nat.exists_eq_succ_of_ne_zero (by omega : fuel ≠ 0)
      rw [loopRest_cons, if_pos rfl, hread]
      dsimp only
      have hblock : blockRest platform sourceLabel (fuel + 1) lines (line.indent + 2) =
          .error invalidLiteral := by
        have hinner := ih hrejected (by omega : 2 * lines.length + 1 ≤ fuel)
        obtain ⟨first, rest, rfl, hindent⟩ := indent_of_comesTo hcomes
        rw [blockRest_cons, if_neg (by omega), hstarts first rfl]
        exact hinner
      rw [hblock]
      rfl
  | @after inList innerList line key inner innerKeys lines text hread hstarts hlayout hcomes ih =>
      intro fuel hfuel
      obtain ⟨fuel, rfl⟩ := Nat.exists_eq_succ_of_ne_zero (by omega : fuel ≠ 0)
      rw [List.length_cons] at hfuel
      obtain ⟨fuel, rfl⟩ := Nat.exists_eq_succ_of_ne_zero (by omega : fuel ≠ 0)
      have hleft : ∀ next ∈ lines.head?, next.indent < line.indent + 2 := by
        intro next hnext
        obtain ⟨first, rest, rfl, hindent⟩ := indent_of_comesTo hcomes
        obtain rfl := Option.some.inj hnext
        omega
      rw [loopRest_cons, if_pos rfl, hread]
      dsimp only
      have hblock : ReadsTo (blockRest platform sourceLabel (fuel + 1) (inner ++ lines)
          (line.indent + 2)) lines :=
        readsTo_block hlayout hstarts hleft (readsTo_layout hlayout hleft (by omega))
      rw [List.length_append] at hfuel
      obtain hread | herror := hblock
      · rw [hread]
        exact ih hrejected (by omega)
      · rw [herror]
        rfl

/-- The lines of a file come to a scalar that is taken for a number and is none. -/
def StopsAtNumber (platform : TextPlatform) (lines : List YamlLine) : Prop :=
  ∃ line ∈ lines.head?, ∃ text, ComesTo line.isItem line.indent lines text ∧ Rejected platform text

end Outcomes

/-! ## A file in blocks -/

/-- The result is a value or a validation error. -/
def Contained {α : Type} (result : Except PyExc α) : Prop :=
  (∃ value, result = .ok value) ∨ ∃ invalid, result = .error (.policyValidation invalid)

theorem not_contained_invalidLiteral {α : Type} :
    ¬Contained (.error invalidLiteral : Except PyExc α) := by
  rintro (⟨value, hvalue⟩ | ⟨invalid, hinvalid⟩)
  · cases hvalue
  · cases hinvalid

section Files

variable {platform : TextPlatform} {sourceLabel : String}

theorem blockRest_of_stopsAtNumber {line : YamlLine} {lines : List YamlLine}
    (hstops : StopsAtNumber platform (line :: lines)) :
    blockRest platform sourceLabel (yamlFuel (line :: lines)) (line :: lines) line.indent =
      .error invalidLiteral := by
  obtain ⟨first, hfirst, text, hcomes, hrejected⟩ := hstops
  obtain rfl := Option.some.inj hfirst
  have hfuel : yamlFuel (line :: lines) = 2 * (line :: lines).length + 1 + 1 := rfl
  rw [hfuel, blockRest_cons, if_neg (lt_irrefl _)]
  exact loopRest_of_comesTo hcomes hrejected (le_refl _)

/-- A file in blocks is read or is invalid, unless it comes to such a scalar. -/
theorem contained_parseIndentedYaml_iff (text : String) :
    Contained (parseIndentedYaml platform text sourceLabel) ↔
      ¬StopsAtNumber platform (tokenizeYamlLines text) := by
  unfold parseIndentedYaml
  cases tokenizeYamlLines text with
  | nil =>
      refine iff_of_true (.inr ⟨_, rfl⟩) ?_
      rintro ⟨line, hline, -⟩
      cases hline
  | cons line lines =>
      dsimp only
      have houtcome : Outcome platform (line :: lines) _ _ (blockRest platform sourceLabel
          (yamlFuel (line :: lines)) (line :: lines) line.indent) :=
        (rest_outcome _).1 (le_refl _)
      cases hblock : parseYamlBlock platform sourceLabel (yamlFuel (line :: lines)) (line :: lines)
          line.indent with
      | ok parsed =>
          obtain ⟨value, rest⟩ := parsed
          refine iff_of_true ?_ ?_
          · cases value with
            | dict items => exact .inl ⟨_, rfl⟩
            | _ => exact .inr ⟨_, rfl⟩
          · intro hstops
            have herror := @blockRest_of_stopsAtNumber _ sourceLabel _ _ hstops
            rw [blockRest, hblock] at herror
            cases herror
      | error failure =>
          rw [blockRest, hblock] at houtcome
          obtain ⟨invalid, rfl⟩ | ⟨rfl, text, ⟨inList, hstarts, hcomes⟩, hrejected⟩ := houtcome
          · refine iff_of_true (.inr ⟨invalid, rfl⟩) ?_
            intro hstops
            have herror := @blockRest_of_stopsAtNumber _ sourceLabel _ _ hstops
            rw [blockRest, hblock] at herror
            cases herror
          · refine iff_of_false not_contained_invalidLiteral ?_
            rw [not_not]
            obtain rfl := hstarts line rfl
            exact ⟨line, rfl, text, hcomes, hrejected⟩

/-- The texts that the parser of policies raises another error for. -/
def Leaks (platform : PolicyTextPlatform) (text : String) : Prop :=
  pyStrip text ≠ "" ∧
    ((platform.jsonRaises (pyStrip text)).isSome = true ∨
      jsonLoads platform.parseFloat (pyStrip text) = none ∧
        StopsAtNumber platform.toTextPlatform (tokenizeYamlLines (pyStrip text)))

theorem not_contained_libraryFailure {α : Type} (failure : LibraryFailure) :
    ¬Contained (.error failure.exc : Except PyExc α) := by
  rintro (⟨value, hvalue⟩ | ⟨invalid, hinvalid⟩)
  · cases hvalue
  · cases failure <;> cases hinvalid

theorem contained_parsePolicyDocumentText_iff (platform : PolicyTextPlatform)
    (text sourceLabel : String) :
    Contained (parsePolicyDocumentText platform text sourceLabel) ↔ ¬Leaks platform text := by
  unfold parsePolicyDocumentText Leaks
  dsimp only
  by_cases hempty : pyStrip text = ""
  · rw [if_pos hempty]
    exact iff_of_true (.inr ⟨_, rfl⟩) fun h => h.1 hempty
  rw [if_neg hempty]
  cases hraises : platform.jsonRaises (pyStrip text) with
  | some failure =>
      refine iff_of_false (not_contained_libraryFailure failure) ?_
      rw [not_not]
      exact ⟨hempty, .inl rfl⟩
  | none =>
      cases hjson : jsonLoads platform.parseFloat (pyStrip text) with
      | none =>
          dsimp only
          rw [contained_parseIndentedYaml_iff]
          simp [hempty]
      | some value =>
          refine iff_of_true ?_ (by simp)
          cases value with
          | dict items => exact .inl ⟨_, rfl⟩
          | _ => exact .inr ⟨_, rfl⟩

end Files

end PaybondKit.Policy
