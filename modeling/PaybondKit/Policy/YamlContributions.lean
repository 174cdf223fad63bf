import PaybondKit.Policy.YamlLayout

/-!
# What the lines of a policy file contribute

Of a layout without a key given twice every line shows in the object that is returned. Of every
other text that is accepted a line is lost: the parser stops at a line that is indented otherwise
without saying so, and an object keeps the last of two values.
-/

namespace PaybondKit.Policy

open Agent (PyExc)

/-! ## Contributions -/

/-- A key or an item of a value, with what stands there unless it is a block. -/
structure Contribution where
  inList : Bool
  key : Option String
  scalar : Option PyValue

/-- What stands on the line of a value itself. -/
def scalar? : PyValue → Option PyValue
  | .dict _ => none
  | .list _ => none
  | value => some value

mutual

/-- The keys and items of a value, in the order of the text. -/
def outline : PyValue → List Contribution
  | .dict members => outlineMembers members
  | .list items => outlineItems items
  | _ => []

def outlineMembers : List (String × PyValue) → List Contribution
  | [] => []
  | (key, value) :: members =>
      ⟨false, some key, scalar? value⟩ :: (outline value ++ outlineMembers members)

/-- An item of one key stands on one line with its key. -/
def outlineItems : List PyValue → List Contribution
  | [] => []
  | .dict [(key, value)] :: items =>
      ⟨true, some key, scalar? value⟩ :: (outline value ++ outlineItems items)
  | value :: items => ⟨true, none, scalar? value⟩ :: (outline value ++ outlineItems items)

end

section Layout

variable (platform : TextPlatform)

/-- The line says what the contribution is. -/
def Contributes (line : YamlLine) (contribution : Contribution) : Prop :=
  ∃ text, line.reading contribution.inList = some (contribution.key, text) ∧
    contribution.scalar.map Except.ok = text.map (parseYamlScalar platform)

end Layout

/-! ## Outlines -/

section Outlines

theorem outlineMembers_append (members others : List (String × PyValue)) :
    outlineMembers (members ++ others) = outlineMembers members ++ outlineMembers others := by
  induction members with
  | nil => rfl
  | cons member members ih =>
      obtain ⟨key, value⟩ := member
      simp only [List.cons_append, outlineMembers, ih, List.append_assoc]

/-- A key that is given again takes the place of what it had. -/
theorem length_outlineMembers_replace {key : String} (value : PyValue)
    {members : List (String × PyValue)} (hmem : key ∈ members.map Prod.fst)
    (hnodup : (members.map Prod.fst).Nodup) :
    (outlineMembers (members.map fun member =>
        (member.1, if member.1 = key then value else member.2))).length <
      (outlineMembers members).length + (outline value).length + 1 := by
  induction members with
  | nil => cases hmem
  | cons member members ih =>
      obtain ⟨name, stored⟩ := member
      obtain ⟨hfresh, hnodup⟩ := List.nodup_cons.mp hnodup
      simp only [List.map_cons, outlineMembers, List.length_cons, List.length_append]
      by_cases hkey : name = key
      · have hrest : (members.map fun member : String × PyValue =>
            (member.1, if member.1 = key then value else member.2)) = members := by
          conv_rhs => rw [← List.map_id members]
          refine List.map_congr_left fun member hmember => ?_
          have hne : member.1 ≠ key := by
            intro heq
            rw [hkey, ← heq] at hfresh
            exact hfresh (List.mem_map.mpr ⟨member, hmember, rfl⟩)
          rw [if_neg hne]
          rfl
        rw [hrest, if_pos hkey]
        omega
      · have hlater := (List.mem_cons.mp hmem).resolve_left fun heq => hkey heq.symm
        have hrest := ih hlater hnodup
        rw [if_neg hkey]
        omega

theorem length_outlineMembers_set (object : OrderedDict String PyValue) (key : String)
    (value : PyValue) :
    (outlineMembers (object.set key value).items).length ≤
        (outlineMembers object.items).length + (outline value).length + 1 ∧
      ((outlineMembers (object.set key value).items).length =
          (outlineMembers object.items).length + (outline value).length + 1 →
        (object.set key value).keys = object.keys ++ [key]) := by
  unfold OrderedDict.set
  split
  next hmem =>
    have hless := length_outlineMembers_replace value hmem object.nodup
    exact ⟨hless.le, fun heq => absurd heq hless.ne⟩
  next hfresh =>
    dsimp only
    rw [outlineMembers_append]
    refine ⟨?_, fun _ => by simp [OrderedDict.keys]⟩
    simp [outlineMembers]
    omega

/-- The object of successive assignments shows them all only when no key is given twice. -/
theorem length_outlineMembers_foldl (members : List (String × PyValue))
    (object : OrderedDict String PyValue) :
    let result := members.foldl (fun object member => object.set member.1 member.2) object
    (outlineMembers result.items).length ≤
        (outlineMembers object.items).length + (outlineMembers members).length ∧
      ((outlineMembers result.items).length =
          (outlineMembers object.items).length + (outlineMembers members).length →
        (object.keys ++ members.map Prod.fst).Nodup) := by
  induction members generalizing object with
  | nil =>
      refine ⟨le_refl _, fun _ => ?_⟩
      rw [List.map_nil, List.append_nil]
      exact object.nodup
  | cons member members ih =>
      obtain ⟨key, value⟩ := member
      obtain ⟨hle, hnodup⟩ := ih (object.set key value)
      obtain ⟨hset, hkeys⟩ := length_outlineMembers_set object key value
      simp only [List.foldl_cons, outlineMembers, List.length_cons, List.length_append] at hle hnodup ⊢
      refine ⟨by omega, fun heq => ?_⟩
      have hboth := hnodup (by omega)
      rw [hkeys (by omega), List.append_assoc] at hboth
      exact hboth

theorem length_outlineMembers_ofList (members : List (String × PyValue)) :
    (outlineMembers (OrderedDict.ofList members).items).length ≤ (outlineMembers members).length ∧
      ((outlineMembers (OrderedDict.ofList members).items).length =
          (outlineMembers members).length →
        (members.map Prod.fst).Nodup) := by
  obtain ⟨hle, hnodup⟩ := length_outlineMembers_foldl members .empty
  have hempty : (outlineMembers (OrderedDict.empty : OrderedDict String PyValue).items).length = 0 :=
    rfl
  rw [hempty, Nat.zero_add] at hle hnodup
  exact ⟨hle, hnodup⟩

theorem parseYamlScalar_leaf {platform : TextPlatform} {text : String} {value : PyValue}
    (hparse : parseYamlScalar platform text = .ok value) :
    scalar? value = some value ∧ outline value = [] ∧ ∀ items, value ≠ .dict items := by
  have hleaf : ∀ {leaf : PyValue}, (Except.ok leaf : Except PyExc PyValue) = .ok value →
      scalar? leaf = some leaf ∧ outline leaf = [] ∧ (∀ items, leaf ≠ .dict items) →
        scalar? value = some value ∧ outline value = [] ∧ ∀ items, value ≠ .dict items := by
    rintro leaf ⟨⟩ hleaf
    exact hleaf
  unfold parseYamlScalar at hparse
  dsimp only at hparse
  split at hparse
  · exact hleaf hparse ⟨rfl, rfl, nofun⟩
  split at hparse
  · exact hleaf hparse ⟨rfl, rfl, nofun⟩
  split at hparse
  · exact hleaf hparse ⟨rfl, rfl, nofun⟩
  split at hparse
  · cases hnumber : platform.parseInt text with
    | some number =>
        rw [hnumber] at hparse
        exact hleaf hparse ⟨rfl, rfl, nofun⟩
    | none =>
        rw [hnumber] at hparse
        cases hparse
  split at hparse
  · exact hleaf hparse ⟨rfl, rfl, nofun⟩
  split at hparse
  · exact hleaf hparse ⟨rfl, rfl, nofun⟩
  · exact hleaf hparse ⟨rfl, rfl, nofun⟩

theorem outlineItems_itemValue {key : Option String} {value : PyValue} (items : List PyValue)
    (hvalue : key = none → ∀ members, value ≠ .dict members) :
    outlineItems (itemValue key value :: items) =
      ⟨true, key, scalar? value⟩ :: (outline value ++ outlineItems items) := by
  cases key with
  | some key => rfl
  | none =>
      cases value with
      | dict members => exact absurd rfl (hvalue rfl members)
      | _ => rfl

end Outlines

/-! ## Steps of the loops -/

section Steps

variable {platform : TextPlatform} {sourceLabel : String} {fuel indent : ℕ}
variable {line : YamlLine} {lines rest : List YamlLine}

theorem parseYamlItems_eq_ok {items : List PyValue}
    (hparse : parseYamlItems platform sourceLabel (fuel + 1) (line :: lines) indent =
      .ok (items, rest)) :
    (¬(line.indent = indent ∧ line.isItem) ∧ items = [] ∧ rest = line :: lines) ∨
      line.indent = indent ∧ ∃ key items',
        ((∃ text value, line.itemReading = some (key, some text) ∧
          parseYamlScalar platform text = .ok value ∧
          parseYamlItems platform sourceLabel fuel lines indent = .ok (items', rest) ∧
          items = itemValue key value :: items') ∨
        ∃ child middle, line.itemReading = some (key, none) ∧
          parseYamlBlock platform sourceLabel fuel lines (indent + 2) = .ok (child, middle) ∧
          parseYamlItems platform sourceLabel fuel middle indent = .ok (items', rest) ∧
          items = itemValue key child :: items') := by
  rw [parseYamlItems_cons] at hparse
  by_cases hindent : line.indent = indent
  · rw [if_pos hindent] at hparse
    match hread : line.itemReading with
    | none =>
        rw [hread] at hparse
        obtain ⟨rfl, rfl⟩ := Prod.mk.inj (Except.ok.inj hparse)
        have hitem := YamlLine.itemReading_eq_none_iff.mp hread
        exact .inl ⟨by simp [hitem], rfl, rfl⟩
    | some (key, some text) =>
        rw [hread] at hparse
        simp only [except_bind_eq_ok, except_pure_eq_ok, Prod.exists, Prod.mk.injEq] at hparse
        obtain ⟨value, hvalue, items', rest', hitems, rfl, rfl⟩ := hparse
        exact .inr ⟨hindent, key, _, .inl ⟨text, value, rfl, hvalue, hitems, rfl⟩⟩
    | some (key, none) =>
        rw [hread] at hparse
        simp only [except_bind_eq_ok, except_pure_eq_ok, Prod.exists, Prod.mk.injEq] at hparse
        obtain ⟨child, middle, hchild, items', rest', hitems, rfl, rfl⟩ := hparse
        exact .inr ⟨hindent, key, _, .inr ⟨child, middle, rfl, hchild, hitems, rfl⟩⟩
  · rw [if_neg hindent] at hparse
    obtain ⟨rfl, rfl⟩ := Prod.mk.inj (Except.ok.inj hparse)
    exact .inl ⟨fun h => hindent h.1, rfl, rfl⟩

theorem parseYamlMembers_eq_ok {members : List (String × PyValue)}
    (hparse : parseYamlMembers platform sourceLabel (fuel + 1) (line :: lines) indent =
      .ok (members, rest)) :
    (line.indent ≠ indent ∧ members = [] ∧ rest = line :: lines) ∨
      line.indent = indent ∧ ∃ key members',
        ((∃ text value, line.memberReading = some (some key, some text) ∧
          parseYamlScalar platform text = .ok value ∧
          parseYamlMembers platform sourceLabel fuel lines indent = .ok (members', rest) ∧
          members = (key, value) :: members') ∨
        ∃ child middle, line.memberReading = some (some key, none) ∧
          parseYamlBlock platform sourceLabel fuel lines (indent + 2) = .ok (child, middle) ∧
          parseYamlMembers platform sourceLabel fuel middle indent = .ok (members', rest) ∧
          members = (key, child) :: members') := by
  rw [parseYamlMembers_cons] at hparse
  by_cases hindent : line.indent = indent
  · rw [if_pos hindent] at hparse
    match hread : line.memberReading with
    | none =>
        rw [hread] at hparse
        cases hparse
    | some (key, some text) =>
        obtain ⟨name, rfl⟩ := YamlLine.isSome_key hread
        rw [hread] at hparse
        simp only [except_bind_eq_ok, except_pure_eq_ok, Prod.exists, Prod.mk.injEq] at hparse
        obtain ⟨value, hvalue, members', rest', hmembers, rfl, rfl⟩ := hparse
        exact .inr ⟨hindent, name, _, .inl ⟨text, value, rfl, hvalue, hmembers, rfl⟩⟩
    | some (key, none) =>
        obtain ⟨name, rfl⟩ := YamlLine.isSome_key hread
        rw [hread] at hparse
        simp only [except_bind_eq_ok, except_pure_eq_ok, Prod.exists, Prod.mk.injEq] at hparse
        obtain ⟨child, middle, hchild, members', rest', hmembers, rfl, rfl⟩ := hparse
        exact .inr ⟨hindent, name, _, .inr ⟨child, middle, rfl, hchild, hmembers, rfl⟩⟩
  · rw [if_neg hindent] at hparse
    obtain ⟨rfl, rfl⟩ := Prod.mk.inj (Except.ok.inj hparse)
    exact .inl ⟨hindent, rfl, rfl⟩

theorem parseYamlBlock_eq_ok {value : PyValue}
    (hparse : parseYamlBlock platform sourceLabel (fuel + 1) (line :: lines) indent =
      .ok (value, rest)) :
    (line.indent < indent ∧ value = .dict [] ∧ rest = line :: lines) ∨
      (line.isItem = true ∧ ∃ items,
        parseYamlItems platform sourceLabel fuel (line :: lines) indent = .ok (items, rest) ∧
        value = .list items) ∨
      (line.isItem = false ∧ ∃ members,
        parseYamlMembers platform sourceLabel fuel (line :: lines) indent = .ok (members, rest) ∧
        value = .dict (OrderedDict.ofList members).items) := by
  rw [parseYamlBlock_cons] at hparse
  split at hparse
  next hless =>
    obtain ⟨rfl, rfl⟩ := Prod.mk.inj (Except.ok.inj hparse)
    exact .inl ⟨hless, rfl, rfl⟩
  next =>
    split at hparse
    next hitem =>
      simp only [except_bind_eq_ok, except_pure_eq_ok, Prod.exists, Prod.mk.injEq] at hparse
      obtain ⟨items, rest', hitems, rfl, rfl⟩ := hparse
      exact .inr (.inl ⟨hitem, items, hitems, rfl⟩)
    next hitem =>
      simp only [except_bind_eq_ok, except_pure_eq_ok, Prod.exists, Prod.mk.injEq] at hparse
      obtain ⟨members, rest', hmembers, rfl, rfl⟩ := hparse
      exact .inr (.inr ⟨Bool.not_eq_true _ ▸ hitem, members, hmembers, rfl⟩)

end Steps

/-! ## What the parser has read -/

/-- The lines up to `rest` are read, and of them at most `size` are shown. -/
def ReadUpTo (lines rest : List YamlLine) (size : ℕ) (complete : List YamlLine → Prop) : Prop :=
  ∃ read, lines = read ++ rest ∧ size ≤ read.length ∧ (size = read.length → complete read)

namespace ReadUpTo

variable {line : YamlLine} {lines middle rest : List YamlLine} {size inner : ℕ}
variable {complete complete' innerComplete : List YamlLine → Prop}

theorem nothing (hcomplete : complete []) : ReadUpTo lines lines 0 complete :=
  ⟨[], rfl, le_refl _, fun _ => hcomplete⟩

theorem length_le (hread : ReadUpTo lines rest size complete) : rest.length ≤ lines.length := by
  obtain ⟨read, rfl, -, -⟩ := hread
  rw [List.length_append]
  omega

theorem mono (hread : ReadUpTo lines rest size complete)
    (hcomplete : ∀ read, complete read → complete' read) : ReadUpTo lines rest size complete' := by
  obtain ⟨read, hlines, hsize, hfull⟩ := hread
  exact ⟨read, hlines, hsize, fun heq => hcomplete read (hfull heq)⟩

theorem scalar (hread : ReadUpTo lines rest size complete)
    (hcomplete : ∀ read, complete read → complete' (line :: read)) :
    ReadUpTo (line :: lines) rest (size + 1) complete' := by
  obtain ⟨read, rfl, hsize, hfull⟩ := hread
  refine ⟨line :: read, rfl, Nat.succ_le_succ hsize, fun heq => hcomplete read (hfull ?_)⟩
  exact Nat.succ.inj heq

theorem block (hinner : ReadUpTo lines middle inner innerComplete)
    (hread : ReadUpTo middle rest size complete)
    (hcomplete : ∀ within read, innerComplete within → complete read →
      complete' (line :: (within ++ read))) :
    ReadUpTo (line :: lines) rest (inner + size + 1) complete' := by
  obtain ⟨within, rfl, hsize, hfull⟩ := hinner
  obtain ⟨read, rfl, hsize', hfull'⟩ := hread
  refine ⟨line :: (within ++ read), ?_, ?_, fun heq => hcomplete within read (hfull ?_) (hfull' ?_)⟩
  · simp only [List.cons_append, List.append_assoc]
  · simp only [List.length_cons, List.length_append]
    omega
  · simp only [List.length_cons, List.length_append] at heq
    omega
  · simp only [List.length_cons, List.length_append] at heq
    omega

end ReadUpTo

section Read

variable {platform : TextPlatform} {sourceLabel : String}

/-- What a block has read is a layout when it shows in full. -/
theorem readUpTo_parse (fuel : ℕ) :
    (∀ {lines indent value rest},
      parseYamlBlock platform sourceLabel fuel lines indent = .ok (value, rest) →
        ReadUpTo lines rest (outline value).length fun read =>
          ∃ inList keys, Starts inList read ∧ Layout True inList indent read keys) ∧
    (∀ {lines indent items rest},
      parseYamlItems platform sourceLabel fuel lines indent = .ok (items, rest) →
        ReadUpTo lines rest (outlineItems items).length fun read =>
          ∃ keys, Layout True true indent read keys) ∧
    ∀ {lines indent members rest},
      parseYamlMembers platform sourceLabel fuel lines indent = .ok (members, rest) →
        ReadUpTo lines rest (outlineMembers members).length fun read =>
          (members.map Prod.fst).Nodup → Layout True false indent read (members.map Prod.fst) := by
  induction fuel with
  | zero => exact ⟨nofun, nofun, nofun⟩
  | succ fuel ih =>
      obtain ⟨ihBlock, ihItems, ihMembers⟩ := ih
      refine ⟨?_, ?_, ?_⟩
      · intro lines indent value rest hparse
        cases lines with
        | nil =>
            obtain ⟨rfl, rfl⟩ := Prod.mk.inj (Except.ok.inj hparse)
            exact .nothing ⟨true, [], starts_nil, .nil⟩
        | cons line lines =>
            have hstarts : Starts line.isItem (line :: lines) := by
              rintro first ⟨⟩
              rfl
            obtain ⟨-, rfl, rfl⟩ | ⟨hitem, items, hitems, rfl⟩ | ⟨hitem, members, hmembers, rfl⟩ :=
              parseYamlBlock_eq_ok hparse
            · exact .nothing ⟨true, [], starts_nil, .nil⟩
            · obtain ⟨read, hread, hsize, hfull⟩ := ihItems hitems
              refine ⟨read, hread, hsize, fun heq => ?_⟩
              obtain ⟨keys, hlayout⟩ := hfull heq
              exact ⟨true, keys, starts_of_append (hread ▸ hitem ▸ hstarts), hlayout⟩
            · obtain ⟨read, hread, hsize, hfull⟩ := ihMembers hmembers
              obtain ⟨hle, hnodup⟩ := length_outlineMembers_ofList members
              refine ⟨read, hread, hle.trans hsize, fun heq => ?_⟩
              change (outlineMembers (OrderedDict.ofList members).items).length = read.length at heq
              have hlayout := hfull (le_antisymm hsize (heq ▸ hle)) (hnodup (by omega))
              exact ⟨false, _, starts_of_append (hread ▸ hitem ▸ hstarts), hlayout⟩
      · intro lines indent items rest hparse
        cases lines with
        | nil =>
            obtain ⟨rfl, rfl⟩ := Prod.mk.inj (Except.ok.inj hparse)
            exact .nothing ⟨[], .nil⟩
        | cons line lines =>
            obtain ⟨-, rfl, rfl⟩ | ⟨rfl, key, items', ⟨text, value, hread, hvalue, hitems, rfl⟩ |
              ⟨child, middle, hread, hchild, hitems, rfl⟩⟩ := parseYamlItems_eq_ok hparse
            · exact .nothing ⟨[], .nil⟩
            · obtain ⟨-, hleaf, hdict⟩ := parseYamlScalar_leaf hvalue
              rw [outlineItems_itemValue _ fun _ => hdict, hleaf, List.nil_append, List.length_cons]
              refine (ihItems hitems).scalar ?_
              rintro read ⟨keys, hlayout⟩
              exact ⟨_, .scalar hread nofun hlayout⟩
            · obtain ⟨key, rfl⟩ := YamlLine.isSome_itemKey hread
              rw [outlineItems_itemValue _ fun h => absurd h (Option.some_ne_none key), List.length_cons,
                List.length_append]
              refine (ihBlock hchild).block (ihItems hitems) ?_
              rintro within read ⟨inList, innerKeys, hstarts, hinner⟩ ⟨keys, hlayout⟩
              exact ⟨_, .block hread hstarts hinner nofun hlayout⟩
      · intro lines indent members rest hparse
        cases lines with
        | nil =>
            obtain ⟨rfl, rfl⟩ := Prod.mk.inj (Except.ok.inj hparse)
            exact .nothing fun _ => .nil
        | cons line lines =>
            obtain ⟨-, rfl, rfl⟩ | ⟨rfl, key, members', ⟨text, value, hread, hvalue, hmembers, rfl⟩ |
              ⟨child, middle, hread, hchild, hmembers, rfl⟩⟩ := parseYamlMembers_eq_ok hparse
            · exact .nothing fun _ => .nil
            · obtain ⟨-, hleaf, -⟩ := parseYamlScalar_leaf hvalue
              rw [outlineMembers, hleaf, List.nil_append, List.length_cons]
              refine (ihMembers hmembers).scalar fun read hlayout hnodup => ?_
              obtain ⟨hfresh, hnodup⟩ := List.nodup_cons.mp hnodup
              have hmember : line.reading false = some (some key, some text) := hread
              refine .scalar hmember (fun _ _ name hname => ?_) (hlayout hnodup)
              obtain rfl := Option.some.inj hname
              exact hfresh
            · rw [outlineMembers, List.length_cons, List.length_append]
              refine (ihBlock hchild).block (ihMembers hmembers) ?_
              rintro within read ⟨inList, innerKeys, hstarts, hinner⟩ hlayout hnodup
              obtain ⟨hfresh, hnodup⟩ := List.nodup_cons.mp hnodup
              have hmember : line.reading false = some (some key, none) := hread
              refine .block hmember hstarts hinner (fun _ _ name hname => ?_) (hlayout hnodup)
              obtain rfl := Option.some.inj hname
              exact hfresh

end Read

/-! ## What a layout shows -/

section Shown

variable (platform : TextPlatform) (sourceLabel : String)

/-- A loop that reads the lines leaves the rest, and every line shows in what it returns. -/
def Shown (inList : Bool) (indent : ℕ) (inner : List YamlLine) (keys : List String) : Prop :=
  ∀ (rest : List YamlLine) (fuel : ℕ), (∀ line ∈ rest.head?, line.indent < indent) →
    (inList = true → ∀ items rest',
      parseYamlItems platform sourceLabel fuel (inner ++ rest) indent = .ok (items, rest') →
        rest' = rest ∧ List.Forall₂ (Contributes platform) inner (outlineItems items)) ∧
    (inList = false → ∀ members rest',
      parseYamlMembers platform sourceLabel fuel (inner ++ rest) indent = .ok (members, rest') →
        rest' = rest ∧ List.Forall₂ (Contributes platform) inner (outlineMembers members) ∧
          members.map Prod.fst = keys)

variable {platform sourceLabel} {inList : Bool} {indent : ℕ} {inner : List YamlLine}
variable {keys : List String}

theorem Layout.nodup (hlayout : Layout True false indent inner keys) : keys.Nodup := by
  generalize hlist : false = inList at hlayout
  induction hlayout with
  | nil => exact List.nodup_nil
  | @scalar _ _ key _ _ _ _ hfresh _ ih =>
      cases key with
      | none => exact ih hlist
      | some name => exact List.nodup_cons.mpr ⟨hfresh trivial hlist.symm name rfl, ih hlist⟩
  | @block _ _ _ key _ _ _ _ _ _ _ hfresh _ _ ih =>
      cases key with
      | none => exact ih hlist
      | some name => exact List.nodup_cons.mpr ⟨hfresh trivial hlist.symm name rfl, ih hlist⟩

theorem items_ofList_of_nodup {members : List (String × PyValue)}
    (hnodup : (members.map Prod.fst).Nodup) : (OrderedDict.ofList members).items = members :=
  congrArg OrderedDict.items (OrderedDict.ofList_items ⟨members, hnodup⟩)

theorem Shown.block (hshown : Shown platform sourceLabel inList indent inner keys)
    (hlayout : Layout True inList indent inner keys) (hstarts : Starts inList inner)
    {rest rest' : List YamlLine} {fuel : ℕ} {value : PyValue}
    (hrest : ∀ line ∈ rest.head?, line.indent < indent)
    (hparse : parseYamlBlock platform sourceLabel fuel (inner ++ rest) indent = .ok (value, rest')) :
    rest' = rest ∧ List.Forall₂ (Contributes platform) inner (outline value) ∧
      scalar? value = none := by
  cases fuel with
  | zero => cases hparse
  | succ fuel =>
      cases inner with
      | nil =>
          cases rest with
          | nil =>
              obtain ⟨rfl, rfl⟩ := Prod.mk.inj (Except.ok.inj hparse)
              exact ⟨rfl, .nil, rfl⟩
          | cons line rest =>
              rw [List.nil_append, parseYamlBlock_cons, if_pos (hrest line rfl)] at hparse
              obtain ⟨rfl, rfl⟩ := Prod.mk.inj (Except.ok.inj hparse)
              exact ⟨rfl, .nil, rfl⟩
      | cons line inner =>
          have hindent : line.indent = indent := by
            cases hlayout <;> rfl
          obtain rfl := hstarts line rfl
          obtain ⟨hitems, hmembers⟩ := hshown rest fuel hrest
          obtain ⟨hless, -⟩ | ⟨hitem, items, hloop, rfl⟩ | ⟨hitem, members, hloop, rfl⟩ :=
            parseYamlBlock_eq_ok hparse
          · exact absurd hless (by omega)
          · obtain ⟨rfl, hlines⟩ := hitems hitem items rest' hloop
            exact ⟨rfl, hlines, rfl⟩
          · obtain ⟨rfl, hlines, rfl⟩ := hmembers hitem members rest' hloop
            rw [hitem] at hlayout
            rw [items_ofList_of_nodup hlayout.nodup]
            exact ⟨rfl, hlines, rfl⟩

theorem shown_of_layout (hlayout : Layout True inList indent inner keys) :
    Shown platform sourceLabel inList indent inner keys := by
  induction hlayout with
  | nil =>
      intro rest fuel hrest
      cases fuel with
      | zero =>
          refine ⟨fun _ items rest' hparse => ?_, fun _ members rest' hparse => ?_⟩
          · cases hparse
          · cases hparse
      | succ fuel =>
          cases rest with
          | nil =>
              refine ⟨fun _ items rest' hparse => ?_, fun _ members rest' hparse => ?_⟩
              · obtain ⟨rfl, rfl⟩ := Prod.mk.inj (Except.ok.inj hparse)
                exact ⟨rfl, .nil⟩
              · obtain ⟨rfl, rfl⟩ := Prod.mk.inj (Except.ok.inj hparse)
                exact ⟨rfl, .nil, rfl⟩
          | cons line rest =>
              have hindent := (hrest line rfl).ne
              refine ⟨fun _ items rest' hparse => ?_, fun _ members rest' hparse => ?_⟩
              · rw [List.nil_append, parseYamlItems_cons, if_neg hindent] at hparse
                obtain ⟨rfl, rfl⟩ := Prod.mk.inj (Except.ok.inj hparse)
                exact ⟨rfl, .nil⟩
              · rw [List.nil_append, parseYamlMembers_cons, if_neg hindent] at hparse
                obtain ⟨rfl, rfl⟩ := Prod.mk.inj (Except.ok.inj hparse)
                exact ⟨rfl, .nil, rfl⟩
  | @scalar inList line key text lines keys hread hfresh hlines ih =>
      intro rest fuel hrest
      cases fuel with
      | zero =>
          refine ⟨fun _ items rest' hparse => ?_, fun _ members rest' hparse => ?_⟩
          · cases hparse
          · cases hparse
      | succ fuel =>
          obtain ⟨ihItems, ihMembers⟩ := ih rest fuel hrest
          refine ⟨?_, ?_⟩
          · rintro rfl items rest' hparse
            have hitem : line.itemReading = some (key, some text) := hread
            rw [List.cons_append, parseYamlItems_cons, if_pos rfl, hitem] at hparse
            simp only [except_bind_eq_ok, except_pure_eq_ok, Prod.exists, Prod.mk.injEq] at hparse
            obtain ⟨value, hvalue, items', rest', hitems, rfl, rfl⟩ := hparse
            obtain ⟨rfl, hshown⟩ := ihItems rfl items' rest' hitems
            obtain ⟨hscalar, hleaf, hdict⟩ := parseYamlScalar_leaf hvalue
            rw [outlineItems_itemValue _ fun _ => hdict, hleaf, List.nil_append]
            refine ⟨rfl, .cons ⟨some text, hread, ?_⟩ hshown⟩
            rw [hscalar, Option.map_some, Option.map_some, hvalue]
          · rintro rfl members rest' hparse
            have hmember : line.memberReading = some (key, some text) := hread
            obtain ⟨name, rfl⟩ := YamlLine.isSome_key hmember
            rw [List.cons_append, parseYamlMembers_cons, if_pos rfl, hmember] at hparse
            simp only [except_bind_eq_ok, except_pure_eq_ok, Prod.exists, Prod.mk.injEq] at hparse
            obtain ⟨value, hvalue, members', rest', hmembers, rfl, rfl⟩ := hparse
            obtain ⟨rfl, hshown, rfl⟩ := ihMembers rfl members' rest' hmembers
            obtain ⟨hscalar, hleaf, -⟩ := parseYamlScalar_leaf hvalue
            rw [outlineMembers, hleaf, List.nil_append]
            refine ⟨rfl, .cons ⟨some text, hread, ?_⟩ hshown, rfl⟩
            rw [hscalar, Option.map_some, Option.map_some, hvalue]
  | @block inList innerList line key inner innerKeys lines keys hread hstarts hinner hfresh hlines
      ihInner ih =>
      intro rest fuel hrest
      -- what follows the block stands further to the left
      have hleft : ∀ next ∈ (lines ++ rest).head?, next.indent < line.indent + 2 := by
        intro next hnext
        cases lines with
        | nil => exact (hrest next hnext).trans (by omega)
        | cons first lines =>
            rw [indent_of_layout hlines next hnext]
            omega
      cases fuel with
      | zero =>
          refine ⟨fun _ items rest' hparse => ?_, fun _ members rest' hparse => ?_⟩
          · cases hparse
          · cases hparse
      | succ fuel =>
          obtain ⟨ihItems, ihMembers⟩ := ih rest fuel hrest
          refine ⟨?_, ?_⟩
          · rintro rfl items rest' hparse
            have hitem : line.itemReading = some (key, none) := hread
            obtain ⟨name, rfl⟩ := YamlLine.isSome_itemKey hitem
            rw [List.cons_append, parseYamlItems_cons, if_pos rfl, hitem, List.append_assoc] at hparse
            simp only [except_bind_eq_ok, except_pure_eq_ok, Prod.exists, Prod.mk.injEq] at hparse
            obtain ⟨child, middle, hchild, items', rest', hitems, rfl, rfl⟩ := hparse
            obtain ⟨rfl, hwithin, hscalar⟩ := ihInner.block hinner hstarts hleft hchild
            obtain ⟨rfl, hshown⟩ := ihItems rfl items' rest' hitems
            rw [outlineItems_itemValue _ fun h => absurd h (Option.some_ne_none name)]
            refine ⟨rfl, .cons ⟨none, hread, ?_⟩ (List.rel_append hwithin hshown)⟩
            rw [hscalar]
            rfl
          · rintro rfl members rest' hparse
            have hmember : line.memberReading = some (key, none) := hread
            obtain ⟨name, rfl⟩ := YamlLine.isSome_key hmember
            rw [List.cons_append, parseYamlMembers_cons, if_pos rfl, hmember,
              List.append_assoc] at hparse
            simp only [except_bind_eq_ok, except_pure_eq_ok, Prod.exists, Prod.mk.injEq] at hparse
            obtain ⟨child, middle, hchild, members', rest', hmembers, rfl, rfl⟩ := hparse
            obtain ⟨rfl, hwithin, hscalar⟩ := ihInner.block hinner hstarts hleft hchild
            obtain ⟨rfl, hshown, rfl⟩ := ihMembers rfl members' rest' hmembers
            rw [outlineMembers]
            refine ⟨rfl, .cons ⟨none, hread, ?_⟩ (List.rel_append hwithin hshown), rfl⟩
            rw [hscalar]
            rfl

end Shown

/-! ## Lines of a stripped text -/

section Stripped

theorem YamlLine.reading_congr {line line' : YamlLine} (htrimmed : line.trimmed = line'.trimmed)
    (inList : Bool) : line.reading inList = line'.reading inList := by
  obtain ⟨indent, trimmed, raw, hstripped⟩ := line
  obtain ⟨indent', trimmed', raw', hstripped'⟩ := line'
  obtain rfl : trimmed = trimmed' := htrimmed
  unfold YamlLine.reading YamlLine.itemReading YamlLine.memberReading YamlLine.isItem
    YamlLine.afterDash
  dsimp only

theorem forall₂_contributes_congr {platform : TextPlatform} {lines lines' : List YamlLine}
    (htrimmed : lines.map YamlLine.trimmed = lines'.map YamlLine.trimmed)
    {contributions : List Contribution}
    (hshown : List.Forall₂ (Contributes platform) lines contributions) :
    List.Forall₂ (Contributes platform) lines' contributions := by
  induction hshown generalizing lines' with
  | nil =>
      rw [List.map_nil, eq_comm, List.map_eq_nil_iff] at htrimmed
      rw [htrimmed]
      exact .nil
  | @cons line contribution lines contributions hline _ ih =>
      cases lines' with
      | nil => cases htrimmed
      | cons line' lines' =>
          obtain ⟨hsame, hrest⟩ := List.cons.inj htrimmed
          obtain ⟨text, hread, hscalar⟩ := hline
          exact .cons ⟨text, (YamlLine.reading_congr hsame _).symm.trans hread, hscalar⟩ (ih hrest)

/-- The lines that are read are those with content that are no comments. -/
theorem map_trimmed_filterMap (raws : List (List Char)) :
    (raws.filterMap yamlLine?).map YamlLine.trimmed =
      (((raws.map stripLine).filter (· ≠ [])).filter (·.head? ≠ some '#')).map String.ofList := by
  induction raws with
  | nil => rfl
  | cons raw raws ih =>
      have hstrip : (pyStrip (String.ofList raw)).toList = stripLine raw := by
        rw [toList_pyStrip, String.toList_ofList, stripLine]
      have hback : String.ofList (stripLine raw) = pyStrip (String.ofList raw) := by
        rw [← hstrip, String.ofList_toList]
      rw [content_cons, List.filter_append, List.map_append, ← ih, List.filterMap_cons, yamlLine?, hstrip]
      by_cases hblank : stripLine raw = []
      · have hempty : pyStrip (String.ofList raw) = "" := by
          rw [← hback, hblank]
        rw [if_pos (.inl hempty), if_pos hblank]
        rfl
      · have hfull : pyStrip (String.ofList raw) ≠ "" := by
          intro hempty
          rw [hempty] at hstrip
          exact hblank hstrip.symm
        rw [if_neg hblank]
        by_cases hcomment : (stripLine raw).head? = some '#'
        · rw [if_pos (.inr hcomment)]
          simp [hcomment]
        · rw [if_neg (not_or.mpr ⟨hfull, hcomment⟩)]
          simp [hcomment, hback]

theorem map_trimmed_tokenizeYamlLines (text : String) :
    (tokenizeYamlLines (pyStrip text)).map YamlLine.trimmed =
      (tokenizeYamlLines text).map YamlLine.trimmed := by
  have hstrip : (pyStrip text).toList = stripLine text.toList := toList_pyStrip text
  have hcontent : contentLines (pyStrip text).toList = contentLines text.toList := by
    rw [hstrip, contentLines_stripLine]
  unfold contentLines at hcontent
  rw [tokenizeYamlLines, tokenizeYamlLines, map_trimmed_filterMap, map_trimmed_filterMap, hcontent]

end Stripped

/-! ## Lines that are lost -/

/-- The lines are one layout, and no key is given twice. -/
def Followed (lines : List YamlLine) : Prop :=
  ∃ line ∈ lines.head?, ∃ keys, Layout True line.isItem line.indent lines keys

section Claim

variable {platform : TextPlatform} {sourceLabel : String}

theorem forall₂_contributes_iff {line : YamlLine} {lines rest : List YamlLine} {value : PyValue}
    {fuel : ℕ} (hparse : parseYamlBlock platform sourceLabel fuel (line :: lines) line.indent =
      .ok (value, rest)) :
    List.Forall₂ (Contributes platform) (line :: lines) (outline value) ↔
      Followed (line :: lines) := by
  constructor
  · intro hshown
    have hlength := hshown.length_eq
    obtain ⟨read, hread, hsize, hfull⟩ := (readUpTo_parse fuel).1 hparse
    rw [hread, List.length_append] at hlength
    obtain ⟨inList, keys, hstarts, hlayout⟩ := hfull (by omega)
    obtain rfl : rest = [] := List.length_eq_zero_iff.mp (by omega)
    rw [List.append_nil] at hread
    rw [← hread] at hlayout hstarts
    obtain rfl := hstarts line rfl
    exact ⟨line, rfl, keys, hlayout⟩
  · rintro ⟨first, hfirst, keys, hlayout⟩
    obtain rfl := Option.some.inj hfirst
    have hstarts : Starts line.isItem (line :: lines) := by
      rintro first ⟨⟩
      rfl
    have hnothing : ∀ next ∈ ([] : List YamlLine).head?, next.indent < line.indent := by
      intro next hnext
      cases hnext
    rw [← List.append_nil (line :: lines)] at hparse
    exact ((shown_of_layout hlayout).block hlayout hstarts hnothing hparse).2.1

/-- The object of a block is given back as it is. -/
theorem items_ofList_of_parse {fuel indent : ℕ} {lines rest : List YamlLine}
    {items : List (String × PyValue)}
    (hparse : parseYamlBlock platform sourceLabel fuel lines indent = .ok (.dict items, rest)) :
    (OrderedDict.ofList items).items = items := by
  cases fuel with
  | zero => cases hparse
  | succ fuel =>
      cases lines with
      | nil =>
          obtain ⟨hvalue, -⟩ := Prod.mk.inj (Except.ok.inj hparse)
          cases hvalue
          rfl
      | cons line lines =>
          obtain ⟨-, hvalue, -⟩ | ⟨-, items, -, hvalue⟩ | ⟨-, members, -, hvalue⟩ :=
            parseYamlBlock_eq_ok hparse
          · cases hvalue
            rfl
          · cases hvalue
          · cases hvalue
            exact items_ofList_of_nodup (OrderedDict.ofList members).nodup

end Claim

/-- Of a text that is accepted and is no JSON every line contributes its key or item exactly when
the lines are one layout without a key given twice. -/
theorem contributes_iff_followed {platform : PolicyTextPlatform} {text sourceLabel : String}
    {document : OrderedDict String PyValue}
    (hyaml : jsonLoads platform.parseFloat (pyStrip text) = none)
    (haccepted : parsePolicyDocumentText platform text sourceLabel = .ok document) :
    List.Forall₂ (Contributes platform.toTextPlatform) (tokenizeYamlLines text)
        (outline (.dict document.items)) ↔
      Followed (tokenizeYamlLines (pyStrip text)) := by
  have htrimmed := map_trimmed_tokenizeYamlLines text
  have hstripped : List.Forall₂ (Contributes platform.toTextPlatform) (tokenizeYamlLines text)
        (outline (.dict document.items)) ↔
      List.Forall₂ (Contributes platform.toTextPlatform) (tokenizeYamlLines (pyStrip text))
        (outline (.dict document.items)) :=
    ⟨forall₂_contributes_congr htrimmed.symm, forall₂_contributes_congr htrimmed⟩
  rw [hstripped]
  unfold parsePolicyDocumentText at haccepted
  dsimp only at haccepted
  split at haccepted
  next => cases haccepted
  next =>
    split at haccepted
    next => cases haccepted
    next =>
      rw [hyaml] at haccepted
      dsimp only at haccepted
      unfold parseIndentedYaml at haccepted
      split at haccepted
      next => cases haccepted
      next line lines hlines =>
        rw [hlines]
        obtain ⟨⟨value, rest⟩, hparse, hvalue⟩ := except_bind_eq_ok.mp haccepted
        cases value with
        | dict items =>
            obtain rfl := Except.ok.inj hvalue
            rw [items_ofList_of_parse hparse]
            exact forall₂_contributes_iff hparse
        | _ => cases hvalue

def alignedText : String := "version: 1\ndefault_deny: true"

theorem contributes_iff_followed_aligned : ∃ document,
    parsePolicyDocumentText platformDigits alignedText "" = .ok document ∧
      (List.Forall₂ (Contributes platformDigits.toTextPlatform) (tokenizeYamlLines alignedText)
          (outline (.dict document.items)) ↔
        Followed (tokenizeYamlLines (pyStrip alignedText))) := by
  have hjson : (jsonLoads platformDigits.parseFloat (pyStrip alignedText)).isNone = true := by
    decide +kernel
  have haccepted : (parsePolicyDocumentText platformDigits alignedText "").toOption.isSome = true := by
    decide +kernel
  cases hparse : parsePolicyDocumentText platformDigits alignedText "" with
  | error failure =>
      rw [hparse] at haccepted
      cases haccepted
  | ok document =>
      exact ⟨document, rfl, contributes_iff_followed (Option.isNone_iff_eq_none.mp hjson) hparse⟩

/-! ## A line that is indented too far -/

def indentedText : String := "version: 1\n    default_deny: true"

/-- The second line is accepted and not read. -/
theorem not_contributes : ¬∀ (platform : PolicyTextPlatform) (text sourceLabel : String)
    (document : OrderedDict String PyValue),
    jsonLoads platform.parseFloat (pyStrip text) = none →
      parsePolicyDocumentText platform text sourceLabel = .ok document →
        List.Forall₂ (Contributes platform.toTextPlatform) (tokenizeYamlLines text)
          (outline (.dict document.items)) := by
  intro hclaim
  have hjson : (jsonLoads platformDigits.parseFloat (pyStrip indentedText)).isNone = true := by
    decide +kernel
  have hlines : (tokenizeYamlLines indentedText).length = 2 := by decide +kernel
  have hshown : (parsePolicyDocumentText platformDigits indentedText "").toOption.map
      (fun document => (outline (.dict document.items)).length) = some 1 := by
    decide +kernel
  cases hparse : parsePolicyDocumentText platformDigits indentedText "" with
  | error failure =>
      rw [hparse] at hshown
      cases hshown
  | ok document =>
      rw [hparse] at hshown
      have hall := hclaim _ _ _ document (Option.isNone_iff_eq_none.mp hjson) hparse
      have hone : (outline (.dict document.items)).length = 1 := Option.some.inj hshown
      have hlength := hall.length_eq
      omega

end PaybondKit.Policy
