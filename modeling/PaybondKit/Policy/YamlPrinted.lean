import PaybondKit.Policy.YamlLayout

/-!
# Printed policy files

Lines that print a value, block by block at the indentation that the parser follows, are read as
that value.
-/

namespace PaybondKit.Policy

open Agent (PyExc)

/-! ## Printed values -/

/-- The value of a block, from its keys and values in the order of the lines. -/
def blockValue (inList : Bool) (contents : List (Option String × PyValue)) : PyValue :=
  if inList then .list (contents.map fun content => itemValue content.1 content.2)
  else
    .dict (OrderedDict.ofList (contents.map fun content => (content.1.getD "", content.2))).items

/-- The lines at an indentation print what a list or an object holds. -/
inductive Prints (platform : TextPlatform) :
    Bool → ℕ → List YamlLine → List (Option String × PyValue) → Prop
  | nil {inList indent} : Prints platform inList indent [] []
  | scalar {inList line key text value lines contents} :
      line.reading inList = some (key, some text) →
      parseYamlScalar platform text = .ok value →
      Prints platform inList line.indent lines contents →
      Prints platform inList line.indent (line :: lines) ((key, value) :: contents)
  | block {inList innerList line key inner innerContents lines contents} :
      line.reading inList = some (key, none) →
      Starts innerList inner →
      inner ≠ [] →
      Prints platform innerList (line.indent + 2) inner innerContents →
      Prints platform inList line.indent lines contents →
      Prints platform inList line.indent (line :: (inner ++ lines))
        ((key, blockValue innerList innerContents) :: contents)

section Parse

variable {platform : TextPlatform} {sourceLabel : String} {inList : Bool} {indent fuel : ℕ}
variable {inner rest : List YamlLine} {contents : List (Option String × PyValue)}

theorem indent_of_prints (hprints : Prints platform inList indent inner contents) :
    ∀ line ∈ inner.head?, line.indent = indent := by
  cases hprints with
  | nil => exact nofun
  | scalar =>
      rintro line ⟨⟩
      rfl
  | block =>
      rintro line ⟨⟩
      rfl

/-- What a loop returns for the contents. -/
def ReadsContents (platform : TextPlatform) (sourceLabel : String) (inList : Bool) (fuel indent : ℕ)
    (lines rest : List YamlLine) (contents : List (Option String × PyValue)) : Prop :=
  (inList = true → parseYamlItems platform sourceLabel fuel lines indent =
    .ok (contents.map fun content => itemValue content.1 content.2, rest)) ∧
  (inList = false → parseYamlMembers platform sourceLabel fuel lines indent =
    .ok (contents.map fun content => (content.1.getD "", content.2), rest))

theorem parseYamlBlock_of_prints (hprints : Prints platform inList indent inner contents)
    (hstarts : Starts inList inner) (hne : inner ≠ [])
    (hreads : ReadsContents platform sourceLabel inList fuel indent (inner ++ rest) rest contents) :
    parseYamlBlock platform sourceLabel (fuel + 1) (inner ++ rest) indent =
      .ok (blockValue inList contents, rest) := by
  cases inner with
  | nil => exact absurd rfl hne
  | cons line inner =>
      have hindent := indent_of_prints hprints line rfl
      obtain rfl := hstarts line rfl
      rw [List.cons_append] at hreads
      rw [List.cons_append, parseYamlBlock_cons, if_neg (by omega)]
      cases hitem : line.isItem with
      | true =>
          rw [hitem] at hreads
          rw [if_pos rfl, hreads.1 rfl]
          rfl
      | false =>
          rw [hitem] at hreads
          rw [if_neg Bool.false_ne_true, hreads.2 rfl]
          rfl

theorem readsContents_of_prints (hprints : Prints platform inList indent inner contents) :
    ∀ {rest : List YamlLine} {fuel : ℕ}, (∀ line ∈ rest.head?, line.indent < indent) →
      2 * (inner ++ rest).length + 1 ≤ fuel →
        ReadsContents platform sourceLabel inList fuel indent (inner ++ rest) rest contents := by
  induction hprints with
  | nil =>
      intro rest fuel hrest hfuel
      obtain ⟨fuel, rfl⟩ := Nat.exists_eq_succ_of_ne_zero (by omega : fuel ≠ 0)
      cases rest with
      | nil => exact ⟨fun _ => by rw [List.append_nil, parseYamlItems]; rfl,
          fun _ => by rw [List.append_nil, parseYamlMembers]; rfl⟩
      | cons line rest =>
          have hindent := (hrest line rfl).ne
          refine ⟨fun _ => ?_, fun _ => ?_⟩
          · rw [List.nil_append, parseYamlItems_cons, if_neg hindent]
            rfl
          · rw [List.nil_append, parseYamlMembers_cons, if_neg hindent]
            rfl
  | @scalar inList line key text value lines contents hread hvalue hlines ih =>
      intro rest fuel hrest hfuel
      obtain ⟨fuel, rfl⟩ := Nat.exists_eq_succ_of_ne_zero (by omega : fuel ≠ 0)
      rw [List.cons_append, List.length_cons] at hfuel
      obtain ⟨hitems, hmembers⟩ := @ih rest fuel hrest (by omega)
      refine ⟨?_, ?_⟩
      · rintro rfl
        have hitem : line.itemReading = some (key, some text) := hread
        rw [List.cons_append, parseYamlItems_cons, if_pos rfl, hitem]
        dsimp only
        rw [hvalue, hitems rfl]
        rfl
      · rintro rfl
        have hmember : line.memberReading = some (key, some text) := hread
        rw [List.cons_append, parseYamlMembers_cons, if_pos rfl, hmember]
        dsimp only
        rw [hvalue, hmembers rfl]
        rfl
  | @block inList innerList line key inner innerContents lines contents hread hstarts hne hinner
      hlines ihInner ih =>
      intro rest fuel hrest hfuel
      obtain ⟨fuel, rfl⟩ := Nat.exists_eq_succ_of_ne_zero (by omega : fuel ≠ 0)
      rw [List.cons_append, List.length_cons, List.append_assoc] at hfuel
      obtain ⟨fuel, rfl⟩ := Nat.exists_eq_succ_of_ne_zero (by omega : fuel ≠ 0)
      -- what follows the block stands further to the left
      have hleft : ∀ next ∈ (lines ++ rest).head?, next.indent < line.indent + 2 := by
        intro next hnext
        cases lines with
        | nil => exact (hrest next hnext).trans (by omega)
        | cons first lines =>
            rw [indent_of_prints hlines next hnext]
            omega
      have hchild : parseYamlBlock platform sourceLabel (fuel + 1) (inner ++ (lines ++ rest))
          (line.indent + 2) = .ok (blockValue innerList innerContents, lines ++ rest) :=
        parseYamlBlock_of_prints hinner hstarts hne (ihInner hleft (by omega))
      rw [List.length_append] at hfuel
      obtain ⟨hitems, hmembers⟩ := @ih rest (fuel + 1) hrest (by omega)
      refine ⟨?_, ?_⟩
      · rintro rfl
        have hitem : line.itemReading = some (key, none) := hread
        rw [List.cons_append, List.append_assoc, parseYamlItems_cons, if_pos rfl, hitem]
        dsimp only
        rw [hchild, except_ok_bind, hitems rfl]
        rfl
      · rintro rfl
        have hmember : line.memberReading = some (key, none) := hread
        rw [List.cons_append, List.append_assoc, parseYamlMembers_cons, if_pos rfl, hmember]
        dsimp only
        rw [hchild, except_ok_bind, hmembers rfl]
        rfl

/-- A printed object is read back. -/
theorem parseIndentedYaml_of_prints {text : String} {line : YamlLine} {lines : List YamlLine}
    (hlines : tokenizeYamlLines text = line :: lines) (hobject : line.isItem = false)
    (hprints : Prints platform false line.indent (line :: lines) contents) :
    parseIndentedYaml platform text sourceLabel =
      .ok (.ofList (contents.map fun content => (content.1.getD "", content.2))) := by
  have hstarts : Starts false (line :: lines) := by
    rintro first ⟨⟩
    exact hobject
  have hreads : ReadsContents platform sourceLabel false (2 * (line :: lines).length + 1)
      line.indent ((line :: lines) ++ []) [] contents :=
    readsContents_of_prints hprints (fun next hnext => by cases hnext) (by simp)
  have hblock := parseYamlBlock_of_prints hprints hstarts (List.cons_ne_nil _ _) hreads
  have hfuel : yamlFuel (line :: lines) = 2 * (line :: lines).length + 1 + 1 := rfl
  rw [List.append_nil] at hblock
  rw [parseIndentedYaml, hlines]
  dsimp only
  rw [hfuel, hblock]
  exact congrArg Except.ok (OrderedDict.ofList_items _)

end Parse

end PaybondKit.Policy
