import PaybondKit.Foundation.JsonLoads

/-!
# What stands within a value

A string stands within a value as a leaf, and a value stands within a value as a part. A string
within a scanned value is shorter than the text it was scanned from, and no value is the same as a
part of itself.
-/

namespace PaybondKit

namespace PyValue

/-- The text is a leaf of the value. -/
inductive Mentions (text : String) : PyValue → Prop where
  | str : Mentions text (.str text)
  | item {items : List PyValue} {item : PyValue} (hitem : item ∈ items)
      (hmentions : Mentions text item) : Mentions text (.list items)
  | member {items : List (String × PyValue)} {item : String × PyValue} (hitem : item ∈ items)
      (hmentions : Mentions text item.2) : Mentions text (.dict items)

theorem Mentions.of_list {text : String} {items : List PyValue}
    (hmentions : Mentions text (.list items)) : ∃ item ∈ items, Mentions text item := by
  cases hmentions with
  | item hitem hmentions => exact ⟨_, hitem, hmentions⟩

theorem Mentions.of_dict {text : String} {items : List (String × PyValue)}
    (hmentions : Mentions text (.dict items)) : ∃ item ∈ items, Mentions text item.2 := by
  cases hmentions with
  | member hitem hmentions => exact ⟨_, hitem, hmentions⟩

theorem exists_of_forall₂ {α β : Type} {R : α → β → Prop} {items : List α} {others : List β}
    (hitems : List.Forall₂ R items others) {item : α} (hitem : item ∈ items) :
    ∃ other ∈ others, R item other := by
  induction hitems with
  | nil => cases hitem
  | cons hfirst _ ih =>
      rcases List.mem_cons.mp hitem with rfl | hitem
      · exact ⟨_, List.mem_cons_self, hfirst⟩
      · obtain ⟨other, hother, hsame⟩ := ih hitem
        exact ⟨other, List.mem_cons_of_mem _ hother, hsame⟩

/-- The same values mention the same texts. -/
theorem Mentions.sameValue {text : String} {value other : PyValue}
    (hmentions : Mentions text value) (hsame : value.SameValue other) : Mentions text other := by
  induction hmentions generalizing other with
  | str =>
      rw [(sameValue_leaf rfl).mp hsame]
      exact .str
  | item hitem _ ih =>
      obtain ⟨others, rfl, hitems⟩ := sameValue_list.mp hsame
      obtain ⟨found, hfound, hsame⟩ := exists_of_forall₂ hitems hitem
      exact .item hfound (ih hsame)
  | member hitem _ ih =>
      obtain ⟨others, rfl, -, hmembers⟩ := hsame
      obtain ⟨found, hfound, hsame⟩ := sameMembers_iff.mp hmembers _ hitem
      exact .member hfound (ih hsame)

/-! ## Depth -/

mutual

/-- How many brackets stand around the innermost leaf. -/
def depth : PyValue → ℕ
  | .list items => depthItems items + 1
  | .dict items => depthMembers items + 1
  | _ => 0

def depthItems : List PyValue → ℕ
  | [] => 0
  | item :: items => max item.depth (depthItems items)

def depthMembers : List (String × PyValue) → ℕ
  | [] => 0
  | (_, value) :: items => max value.depth (depthMembers items)

end

theorem depthItems_le_iff {items : List PyValue} {bound : ℕ} :
    depthItems items ≤ bound ↔ ∀ item ∈ items, item.depth ≤ bound := by
  induction items with
  | nil => simp [depthItems]
  | cons item items ih => rw [depthItems, max_le_iff, ih, List.forall_mem_cons]

theorem depthMembers_le_iff {items : List (String × PyValue)} {bound : ℕ} :
    depthMembers items ≤ bound ↔ ∀ item ∈ items, item.2.depth ≤ bound := by
  induction items with
  | nil => simp [depthMembers]
  | cons item items ih => rw [depthMembers, max_le_iff, ih, List.forall_mem_cons]

theorem depth_leaf {leaf : PyValue} (hleaf : leaf.isLeaf = true) : leaf.depth = 0 := by
  cases leaf <;> first | rfl | cases hleaf

theorem depth_le_of_sameValue {value other : PyValue} (hsame : value.SameValue other) :
    value.depth ≤ other.depth := by
  induction value using treeInduction generalizing other with
  | list items ih =>
      obtain ⟨others, rfl, hitems⟩ := sameValue_list.mp hsame
      have hbound : depthItems items ≤ depthItems others := by
        refine depthItems_le_iff.mpr fun item hitem => ?_
        obtain ⟨found, hfound, hitem'⟩ := exists_of_forall₂ hitems hitem
        exact (ih item hitem hitem').trans (depthItems_le_iff.mp le_rfl found hfound)
      simpa only [depth, Nat.add_le_add_iff_right] using hbound
  | dict items ih =>
      obtain ⟨others, rfl, -, hmembers⟩ := hsame
      have hbound : depthMembers items ≤ depthMembers others := by
        refine depthMembers_le_iff.mpr fun item hitem => ?_
        obtain ⟨found, hfound, hitem'⟩ := sameMembers_iff.mp hmembers item hitem
        exact (ih item hitem hitem').trans (depthMembers_le_iff.mp le_rfl _ hfound)
      simpa only [depth, Nat.add_le_add_iff_right] using hbound
  | leaf leaf hleaf =>
      rw [depth_leaf hleaf]
      exact Nat.zero_le _

/-- A dict is not the same as a value of its own. -/
theorem not_sameValue_member {items : List (String × PyValue)} {item : String × PyValue}
    (hitem : item ∈ items) : ¬(PyValue.dict items).SameValue item.2 := by
  intro hsame
  have hle : depthMembers items + 1 ≤ item.2.depth := depth_le_of_sameValue hsame
  have hmember : item.2.depth ≤ depthMembers items := depthMembers_le_iff.mp le_rfl item hitem
  omega

/-! ## Looking up -/

mutual

theorem sameValue_refl : ∀ value : PyValue, value.SameValue value
  | .list items => sameValue_list.mpr ⟨items, rfl, List.forall₂_same.mpr (sameItems_refl items)⟩
  | .dict items => sameValue_dict.mpr ⟨.refl _, fun item hitem =>
      ⟨item.2, hitem, sameMembers_refl items item hitem⟩⟩
  | .none => rfl
  | .bool _ => rfl
  | .int _ => rfl
  | .float _ => rfl
  | .str _ => rfl

theorem sameItems_refl : ∀ items : List PyValue, ∀ item ∈ items, item.SameValue item
  | [] => nofun
  | item :: items => List.forall_mem_cons.mpr ⟨sameValue_refl item, sameItems_refl items⟩

theorem sameMembers_refl : ∀ items : List (String × PyValue), ∀ item ∈ items,
    item.2.SameValue item.2
  | [] => nofun
  | (_, value) :: items =>
      List.forall_mem_cons.mpr ⟨sameValue_refl value, sameMembers_refl items⟩

end

theorem mem_of_getItem {items : List (String × PyValue)} {key : String} {value : PyValue}
    (hget : (PyValue.dict items).getItem key = value) (hvalue : value ≠ .none) :
    (key, value) ∈ items := by
  unfold getItem OrderedDict.getValue at hget
  dsimp only at hget
  cases hfound : (OrderedDict.ofList items).get? key with
  | none =>
      rw [hfound] at hget
      exact absurd hget.symm hvalue
  | some found =>
      rw [hfound] at hget
      obtain rfl : found = value := hget
      exact OrderedDict.mem_of_mem_ofList (OrderedDict.get?_eq_some_iff.mp hfound)

theorem getItem_of_mem {items : List (String × PyValue)} {key : String} {value : PyValue}
    (hnodup : (items.map Prod.fst).Nodup) (hmem : (key, value) ∈ items) :
    (PyValue.dict items).getItem key = value := by
  have hget := OrderedDict.get?_ofList_of_mem hnodup hmem
  rw [getItem, OrderedDict.getValue, hget]
  rfl

theorem getItem_of_not_mem {items : List (String × PyValue)} {key : String}
    (hkey : key ∉ items.map Prod.fst) : (PyValue.dict items).getItem key = .none := by
  have hmissing : (OrderedDict.ofList items).get? key = Option.none := by
    rwa [OrderedDict.get?_eq_none_iff, OrderedDict.mem_keys_ofList]
  rw [getItem, OrderedDict.getValue, hmissing]
  rfl

theorem eq_of_sameValue_leaf {value leaf : PyValue} (hleaf : leaf.isLeaf = true)
    (hsame : value.SameValue leaf) : value = leaf := by
  cases value with
  | list items =>
      obtain ⟨_, rfl, -⟩ := hsame
      cases hleaf
  | dict items =>
      obtain ⟨_, rfl, -⟩ := hsame
      cases hleaf
  | _ => exact ((sameValue_leaf rfl).mp hsame).symm

theorem exists_dict_of_sameValue {value : PyValue} {others : List (String × PyValue)}
    (hsame : value.SameValue (.dict others)) :
    ∃ items, value = .dict items ∧ (items.map Prod.fst).Perm (others.map Prod.fst) := by
  cases value with
  | dict items => exact ⟨items, rfl, (sameValue_dict.mp hsame).1⟩
  | list items =>
      obtain ⟨_, hlist, -⟩ := hsame
      cases hlist
  | _ => cases (sameValue_leaf rfl).mp hsame

theorem exists_list_of_sameValue {value : PyValue} {others : List PyValue}
    (hsame : value.SameValue (.list others)) :
    ∃ items, value = .list items ∧ List.Forall₂ SameValue items others := by
  cases value with
  | list items =>
      obtain ⟨_, hlist, hitems⟩ := sameValue_list.mp hsame
      cases hlist
      exact ⟨items, rfl, hitems⟩
  | dict items =>
      obtain ⟨_, hdict, -⟩ := hsame
      cases hdict
  | _ => cases (sameValue_leaf rfl).mp hsame

/-- The same dicts have the same under a key. -/
theorem SameValue.getItem {value : PyValue} {others : List (String × PyValue)}
    (hsame : value.SameValue (.dict others)) (hnodup : (others.map Prod.fst).Nodup)
    (key : String) : (value.getItem key).SameValue ((PyValue.dict others).getItem key) := by
  obtain ⟨items, rfl, hkeys⟩ := exists_dict_of_sameValue hsame
  have hitems := OrderedDict.items_ofList (hkeys.nodup_iff.mpr hnodup)
  have hothers := OrderedDict.items_ofList hnodup
  refine sameValue_getValue ?_ key
  rwa [hitems, hothers]

end PyValue

/-! ## Scanned texts -/

theorem decodeUXXXX_length {chars rest : List Char} {n : ℕ}
    (hscan : decodeUXXXX chars = some (n, rest)) : rest.length < chars.length := by
  unfold decodeUXXXX at hscan
  split at hscan
  · simp only [Option.bind_eq_bind, Option.bind_eq_some_iff, Option.pure_def,
      Option.some.injEq, Prod.mk.injEq] at hscan
    obtain ⟨_, _, _, _, _, _, _, _, -, rfl⟩ := hscan
    simp only [List.length_cons]
    omega
  · cases hscan

theorem scanUnicode_length {chars rest : List Char} {c : Char}
    (hscan : scanUnicode chars = some (c, rest)) : rest.length < chars.length := by
  unfold scanUnicode at hscan
  obtain ⟨⟨n, left⟩, hdecode, hscan⟩ := Option.bind_eq_some_iff.mp hscan
  have hleft := decodeUXXXX_length hdecode
  dsimp only at hscan
  split at hscan
  · unfold scanLowSurrogate at hscan
    split at hscan
    next low =>
      obtain ⟨⟨m, last⟩, hlow, hscan⟩ := Option.bind_eq_some_iff.mp hscan
      have hlast := decodeUXXXX_length hlow
      dsimp only at hscan
      split at hscan
      · obtain ⟨-, rfl⟩ := Prod.mk.inj (Option.some.inj hscan)
        simp only [List.length_cons] at hleft
        omega
      · cases hscan
    · cases hscan
  · split at hscan
    · cases hscan
    · obtain ⟨-, rfl⟩ := Prod.mk.inj (Option.some.inj hscan)
      exact hleft

theorem scanChar_length {chars rest : List Char} {c : Char}
    (hscan : scanChar chars = some (c, rest)) : rest.length < chars.length := by
  cases chars with
  | nil => cases hscan
  | cons first others =>
      unfold scanChar at hscan
      dsimp only at hscan
      split at hscan
      · split at hscan
        · cases hscan
        · split at hscan
          · have hlength := scanUnicode_length hscan
            simp only [List.length_cons]
            omega
          · obtain ⟨_, -, hpair⟩ := Option.map_eq_some_iff.mp hscan
            obtain ⟨-, rfl⟩ := Prod.mk.inj hpair
            simp only [List.length_cons]
            omega
      · split at hscan
        · cases hscan
        · obtain ⟨-, rfl⟩ := Prod.mk.inj (Option.some.inj hscan)
          exact Nat.lt_succ_self _

/-- A string has a quote more in its text than it has characters. -/
theorem scanString_length {fuel : ℕ} {chars text rest : List Char}
    (hscan : scanString fuel chars = some (text, rest)) :
    text.length + rest.length < chars.length := by
  induction fuel generalizing chars text with
  | zero => cases hscan
  | succ fuel ih =>
      unfold scanString at hscan
      split at hscan
      next heq => cases heq
      next fuel' rest' heq =>
        obtain ⟨rfl, rfl⟩ := Prod.mk.inj (Option.some.inj hscan)
        simp only [List.length_cons, List.length_nil]
        omega
      next hfuel hquote =>
        obtain rfl := Nat.succ.inj hfuel
        obtain ⟨⟨c, left⟩, hchar, hscan⟩ := Option.bind_eq_some_iff.mp hscan
        obtain ⟨⟨others, last⟩, hstring, hscan⟩ := Option.bind_eq_some_iff.mp hscan
        obtain ⟨rfl, rfl⟩ := Prod.mk.inj (Option.some.inj hscan)
        have hfirst := scanChar_length hchar
        have hothers := ih hstring
        simp only [List.length_cons]
        omega

theorem scanDigits_length {chars digits rest : List Char}
    (hscan : scanDigits chars = some (digits, rest)) : rest.length < chars.length := by
  cases chars with
  | nil => cases hscan
  | cons first others =>
      unfold scanDigits at hscan
      dsimp only at hscan
      split at hscan
      · obtain ⟨-, rfl⟩ := Prod.mk.inj (Option.some.inj hscan)
        exact Nat.lt_succ_self _
      · split at hscan
        next hdigit =>
          rw [List.span_eq_takeWhile_dropWhile, List.dropWhile_cons_of_pos hdigit] at hscan
          obtain ⟨-, rfl⟩ := Prod.mk.inj (Option.some.inj hscan)
          have hle := List.length_dropWhile_le Char.isDigit others
          simp only [List.length_cons]
          omega
        next => cases hscan

theorem scanFraction_length (chars : List Char) :
    (scanFraction chars).2.length ≤ chars.length := by
  unfold scanFraction
  split
  next rest =>
    split
    · exact le_rfl
    · exact (List.length_dropWhile_le _ rest).trans (Nat.le_succ _)
  · exact le_rfl

theorem scanPower_length {letter : Char} {sign rest chars : List Char}
    (hrest : rest.length ≤ chars.length) :
    (scanPower letter sign rest chars).2.length ≤ chars.length := by
  unfold scanPower
  split
  · exact le_rfl
  · exact (List.length_dropWhile_le _ rest).trans hrest

theorem scanExponent_length (chars : List Char) :
    (scanExponent chars).2.length ≤ chars.length := by
  unfold scanExponent
  split
  next letter rest =>
    split
    · split
      · exact scanPower_length (by simp only [List.length_cons]; omega)
      · exact scanPower_length (by simp only [List.length_cons]; omega)
      · exact scanPower_length (Nat.le_succ _)
    · exact le_rfl
  · exact le_rfl

section Scanner

variable {parseFloat : List Char → PyFloat} {chars rest : List Char}

/-- A number mentions no text. -/
theorem scanUnsigned_spec {negative : Bool} {value : PyValue}
    (hscan : scanUnsigned parseFloat negative chars = some (value, rest)) :
    (∀ text, ¬value.Mentions text) ∧ rest.length < chars.length := by
  obtain ⟨⟨digits, left⟩, hdigits, hscan⟩ := Option.bind_eq_some_iff.mp hscan
  have hlength := scanDigits_length hdigits
  have hfraction := scanFraction_length left
  have hexponent := scanExponent_length (scanFraction left).2
  dsimp only at hscan
  split at hscan
  · obtain ⟨rfl, rfl⟩ := Prod.mk.inj (Option.some.inj hscan)
    exact ⟨nofun, by omega⟩
  · obtain ⟨rfl, rfl⟩ := Prod.mk.inj (Option.some.inj hscan)
    exact ⟨nofun, by omega⟩

theorem scanAtom_spec {value : PyValue} (hscan : scanAtom parseFloat chars = some (value, rest)) :
    (∀ text, ¬value.Mentions text) ∧ rest.length ≤ chars.length := by
  unfold scanAtom at hscan
  split at hscan
  next word found hword =>
    obtain ⟨rfl, rfl⟩ := Prod.mk.inj (Option.some.inj hscan)
    refine ⟨?_, by rw [List.length_drop]; omega⟩
    have hmem := List.mem_of_find?_eq_some hword
    intro text hmentions
    simp only [words, List.mem_cons, Prod.mk.injEq, List.not_mem_nil, or_false] at hmem
    rcases hmem with ⟨-, rfl⟩ | ⟨-, rfl⟩ | ⟨-, rfl⟩ | ⟨-, rfl⟩ | ⟨-, rfl⟩ | ⟨-, rfl⟩ <;>
      cases hmentions
  next =>
    split at hscan
    · obtain ⟨hmentions, hlength⟩ := scanUnsigned_spec hscan
      exact ⟨hmentions, by simp only [List.length_cons]; omega⟩
    · obtain ⟨hmentions, hlength⟩ := scanUnsigned_spec hscan
      exact ⟨hmentions, hlength.le⟩

/-- The texts that are mentioned are shorter than the bound. -/
def MentionsBelow (bound : ℕ) (value : PyValue) : Prop :=
  ∀ text, value.Mentions text → text.length < bound

theorem MentionsBelow.mono {bound bound' : ℕ} {value : PyValue}
    (hbelow : MentionsBelow bound value) (hle : bound ≤ bound') : MentionsBelow bound' value :=
  fun text hmentions => (hbelow text hmentions).trans_le hle

theorem skipSpace_length (chars : List Char) : (skipSpace chars).length ≤ chars.length :=
  List.length_dropWhile_le _ chars

variable (parseFloat) in
/-- What is scanned with some fuel mentions texts shorter than the characters it is scanned from,
and leaves no more of them. -/
structure Shortens (fuel : ℕ) : Prop where
  once : ∀ {chars rest value}, scanOnce parseFloat fuel chars = some (value, rest) →
    MentionsBelow chars.length value ∧ rest.length ≤ chars.length
  items : ∀ {chars rest items}, scanItems parseFloat fuel chars = some (items, rest) →
    (∀ item ∈ items, MentionsBelow chars.length item) ∧ rest.length ≤ chars.length
  members : ∀ {chars rest pairs}, scanMembers parseFloat fuel chars = some (pairs, rest) →
    (∀ item ∈ pairs, MentionsBelow chars.length item.2) ∧ rest.length ≤ chars.length

theorem Shortens.once_succ {fuel : ℕ} (hshortens : Shortens parseFloat fuel) {value : PyValue}
    (hscan : scanOnce parseFloat (fuel + 1) chars = some (value, rest)) :
    MentionsBelow chars.length value ∧ rest.length ≤ chars.length := by
  unfold scanOnce at hscan
  split at hscan
  next others =>
    obtain ⟨⟨text, left⟩, hstring, hscan⟩ := Option.bind_eq_some_iff.mp hscan
    obtain ⟨rfl, rfl⟩ := Prod.mk.inj (Option.some.inj hscan)
    have hlength := scanString_length hstring
    refine ⟨fun mentioned hmentions => ?_, by simp only [List.length_cons]; omega⟩
    cases hmentions
    simp only [String.length_ofList, List.length_cons]
    omega
  next others =>
    have hspace := skipSpace_length others
    split at hscan
    next left heq =>
      obtain ⟨rfl, rfl⟩ := Prod.mk.inj (Option.some.inj hscan)
      rw [heq] at hspace
      refine ⟨fun mentioned hmentions => ?_, by simp only [List.length_cons] at hspace ⊢; omega⟩
      obtain ⟨_, hitem, -⟩ := hmentions.of_list
      cases hitem
    next =>
      obtain ⟨⟨items, left⟩, hitems, hscan⟩ := Option.bind_eq_some_iff.mp hscan
      obtain ⟨rfl, rfl⟩ := Prod.mk.inj (Option.some.inj hscan)
      obtain ⟨hbelow, hlength⟩ := hshortens.items hitems
      refine ⟨fun mentioned hmentions => ?_, by simp only [List.length_cons]; omega⟩
      obtain ⟨item, hitem, hmentions⟩ := hmentions.of_list
      have hshort := hbelow item hitem mentioned hmentions
      simp only [List.length_cons]
      omega
  next others =>
    have hspace := skipSpace_length others
    split at hscan
    next left heq =>
      obtain ⟨rfl, rfl⟩ := Prod.mk.inj (Option.some.inj hscan)
      rw [heq] at hspace
      refine ⟨fun mentioned hmentions => ?_, by simp only [List.length_cons] at hspace ⊢; omega⟩
      obtain ⟨_, hitem, -⟩ := hmentions.of_dict
      cases hitem
    next =>
      obtain ⟨⟨pairs, left⟩, hpairs, hscan⟩ := Option.bind_eq_some_iff.mp hscan
      obtain ⟨rfl, rfl⟩ := Prod.mk.inj (Option.some.inj hscan)
      obtain ⟨hbelow, hlength⟩ := hshortens.members hpairs
      refine ⟨fun mentioned hmentions => ?_, by simp only [List.length_cons]; omega⟩
      obtain ⟨item, hitem, hmentions⟩ := hmentions.of_dict
      have hshort := hbelow item (OrderedDict.mem_of_mem_ofList hitem) mentioned hmentions
      simp only [List.length_cons]
      omega
  next =>
    obtain ⟨hnone, hlength⟩ := scanAtom_spec hscan
    exact ⟨fun text hmentions => absurd hmentions (hnone text), hlength⟩

theorem Shortens.items_succ {fuel : ℕ} (hshortens : Shortens parseFloat fuel)
    {items : List PyValue}
    (hscan : scanItems parseFloat (fuel + 1) chars = some (items, rest)) :
    (∀ item ∈ items, MentionsBelow chars.length item) ∧ rest.length ≤ chars.length := by
  unfold scanItems at hscan
  obtain ⟨⟨first, left⟩, hfirst, hscan⟩ := Option.bind_eq_some_iff.mp hscan
  obtain ⟨hbelow, hleft⟩ := hshortens.once hfirst
  have hspace := skipSpace_length left
  dsimp only at hscan
  split at hscan
  next others heq =>
    obtain ⟨⟨more, last⟩, hmore, hscan⟩ := Option.bind_eq_some_iff.mp hscan
    obtain ⟨rfl, rfl⟩ := Prod.mk.inj (Option.some.inj hscan)
    obtain ⟨hothers, hlast⟩ := hshortens.items hmore
    have hspace' := skipSpace_length others
    rw [heq, List.length_cons] at hspace
    have hrest : last.length ≤ chars.length := by omega
    refine ⟨List.forall_mem_cons.mpr ⟨hbelow, fun item hitem => ?_⟩, hrest⟩
    exact (hothers item hitem).mono (by omega)
  next others heq =>
    obtain ⟨rfl, rfl⟩ := Prod.mk.inj (Option.some.inj hscan)
    rw [heq, List.length_cons] at hspace
    exact ⟨List.forall_mem_singleton.mpr hbelow, by omega⟩
  next => cases hscan

theorem Shortens.members_succ {fuel : ℕ} (hshortens : Shortens parseFloat fuel)
    {pairs : List (String × PyValue)}
    (hscan : scanMembers parseFloat (fuel + 1) chars = some (pairs, rest)) :
    (∀ item ∈ pairs, MentionsBelow chars.length item.2) ∧ rest.length ≤ chars.length := by
  unfold scanMembers at hscan
  split at hscan
  next => cases hscan
  next fuel' quoted hfuel =>
    obtain rfl := Nat.succ.inj hfuel
    obtain ⟨⟨key, left⟩, hkey, hscan⟩ := Option.bind_eq_some_iff.mp hscan
    have hlength := scanString_length hkey
    have hspace := skipSpace_length left
    dsimp only at hscan
    split at hscan
    next afterColon heq =>
      rw [heq, List.length_cons] at hspace
      obtain ⟨⟨value, left'⟩, hvalue, hscan⟩ := Option.bind_eq_some_iff.mp hscan
      obtain ⟨hbelow, hleft'⟩ := hshortens.once hvalue
      have hspaces := skipSpace_length afterColon
      have hspace' := skipSpace_length left'
      have hfirst : MentionsBelow (('"' :: quoted).length) value :=
        hbelow.mono (by simp only [List.length_cons]; omega)
      dsimp only at hscan
      split at hscan
      next others heq' =>
        rw [heq', List.length_cons] at hspace'
        obtain ⟨⟨more, last⟩, hmore, hscan⟩ := Option.bind_eq_some_iff.mp hscan
        obtain ⟨rfl, rfl⟩ := Prod.mk.inj (Option.some.inj hscan)
        obtain ⟨hothers, hlast⟩ := hshortens.members hmore
        have hspaces' := skipSpace_length others
        refine ⟨List.forall_mem_cons.mpr ⟨hfirst, fun item hitem => ?_⟩, ?_⟩
        · exact (hothers item hitem).mono (by simp only [List.length_cons]; omega)
        · simp only [List.length_cons]
          omega
      next others heq' =>
        rw [heq', List.length_cons] at hspace'
        obtain ⟨rfl, rfl⟩ := Prod.mk.inj (Option.some.inj hscan)
        refine ⟨List.forall_mem_singleton.mpr hfirst, ?_⟩
        simp only [List.length_cons]
        omega
      next => cases hscan
    next => cases hscan
  next => cases hscan

/-- The induction is on the fuel; an item or a member is scanned with less of it. -/
theorem shortens (fuel : ℕ) : Shortens parseFloat fuel := by
  induction fuel with
  | zero => exact ⟨nofun, nofun, nofun⟩
  | succ fuel ih => exact ⟨ih.once_succ, ih.items_succ, ih.members_succ⟩

/-- A text within a decoded value is shorter than the text it was decoded from. -/
theorem length_lt_of_jsonLoads {text mentioned : String} {value : PyValue}
    (hloads : jsonLoads parseFloat text = some value) (hmentions : value.Mentions mentioned) :
    mentioned.length < text.length := by
  obtain ⟨⟨scanned, left⟩, hscan, hend⟩ := Option.bind_eq_some_iff.mp hloads
  dsimp only at hend
  split at hend
  next =>
    obtain rfl := Option.some.inj hend
    have hbelow := ((shortens _).once hscan).1 mentioned hmentions
    exact hbelow.trans_le (skipSpace_length text.toList)
  next => cases hend

end Scanner

end PaybondKit
