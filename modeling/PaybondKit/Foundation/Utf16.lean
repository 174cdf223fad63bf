import PaybondKit.Foundation.CodeOrder
import Mathlib.Data.List.Lex
import Mathlib.Data.List.Nodup
import Mathlib.Data.Nat.Notation

/-!
# The order of UTF-16 code units

Texts are ordered by their code units as by their characters, unless they first differ at a
character beyond the first plane and one after the surrogates. Members are sorted alike in both
orders when no two keys do.
-/

namespace PaybondKit

/-! ## Code units -/

/-- One code unit, or two surrogates. -/
def utf16EncodeChar (c : Char) : List ℕ :=
  if c.toNat < 0x10000 then [c.toNat]
  else [0xd800 + (c.toNat - 0x10000) / 0x400, 0xdc00 + (c.toNat - 0x10000) % 0x400]

def utf16Units (text : String) : List ℕ := text.toList.flatMap utf16EncodeChar

/-- The first character is the lesser one, and its code unit is the greater one. -/
def Crosses (c d : Char) : Prop := 0xe000 ≤ c.toNat ∧ c.toNat < 0x10000 ∧ 0x10000 ≤ d.toNat

/-- The texts first differ at characters that cross. -/
def Crossing (key key' : String) : Prop :=
  ∃ front c d rest rest', key.toList = front ++ c :: rest ∧ key'.toList = front ++ d :: rest' ∧
    Crosses c d

theorem utf16EncodeChar_ne_nil (c : Char) : utf16EncodeChar c ≠ [] := by
  unfold utf16EncodeChar
  split <;> simp

theorem precedes_utf16EncodeChar {c d : Char} (hlt : c < d) (hcross : ¬Crosses c d) :
    Precedes (utf16EncodeChar c) (utf16EncodeChar d) := by
  have hnat : c.toNat < d.toNat := hlt
  have hvalid : c.toNat < 0xd800 ∨ 0xdfff < c.toNat ∧ c.toNat < 0x110000 := c.valid
  unfold Crosses at hcross
  unfold utf16EncodeChar
  by_cases hd : d.toNat < 0x10000
  · rw [if_pos (Nat.lt_trans hnat hd), if_pos hd]
    exact .of_lt hnat _ _
  · rw [if_neg hd]
    by_cases hc : c.toNat < 0x10000
    · rw [if_pos hc]
      exact .of_lt (by omega) _ _
    · rw [if_neg hc]
      by_cases hhigh : (c.toNat - 0x10000) / 0x400 = (d.toNat - 0x10000) / 0x400
      · rw [hhigh]
        exact (Precedes.of_lt (by omega) _ _).cons _
      · exact .of_lt (by omega) _ _

/-- Where characters cross, the code units are the other way round. -/
theorem precedes_of_crosses {c d : Char} (hcross : Crosses c d) :
    Precedes (utf16EncodeChar d) (utf16EncodeChar c) := by
  obtain ⟨hlow, hc, hd⟩ := hcross
  have hvalid : d.toNat < 0x110000 := by
    have hd := d.valid
    rcases hd with hd | ⟨-, hd⟩
    · exact Nat.lt_trans hd (by decide)
    · exact hd
  unfold utf16EncodeChar
  rw [if_pos hc, if_neg (Nat.not_lt.mpr hd)]
  exact .of_lt (by omega) _ _

/-! ## Texts -/

theorem flatMap_utf16_lt : ∀ {text text' : List Char}, text < text' →
    (∀ front c d rest rest', text = front ++ c :: rest → text' = front ++ d :: rest' →
      ¬Crosses c d) →
    text.flatMap utf16EncodeChar < text'.flatMap utf16EncodeChar
  | [], [], hlt, _ => absurd hlt (by simp)
  | [], d :: text', _, _ => by
      obtain ⟨x, rest, hcode⟩ := List.exists_cons_of_ne_nil (utf16EncodeChar_ne_nil d)
      rw [List.flatMap_nil, List.flatMap_cons, hcode]
      exact List.nil_lt_cons _ _
  | c :: text, [], hlt, _ => absurd hlt (by simp)
  | c :: text, d :: text', hlt, hcross => by
      rw [List.flatMap_cons, List.flatMap_cons]
      rcases List.cons_lt_cons_iff.mp hlt with hletter | ⟨rfl, hrest⟩
      · have hhead := precedes_utf16EncodeChar hletter (hcross [] c d text text' rfl rfl)
        exact hhead.append_lt _ _
      · refine append_lt_append_left _ (flatMap_utf16_lt hrest ?_)
        rintro front c' d' rest rest' rfl rfl
        exact hcross (c :: front) c' d' rest rest' rfl rfl

theorem utf16Units_lt {key key' : String} (hlt : key < key') (hcross : ¬Crossing key key') :
    utf16Units key < utf16Units key' := by
  refine flatMap_utf16_lt hlt ?_
  intro front c d rest rest' hkey hkey' hcd
  exact hcross ⟨front, c, d, rest, rest', hkey, hkey', hcd⟩

/-- Keys that cross are ordered one way by characters and the other way by code units. -/
theorem Crossing.lt {key key' : String} (hcross : Crossing key key') :
    key < key' ∧ utf16Units key' < utf16Units key := by
  obtain ⟨front, c, d, rest, rest', hkey, hkey', hcd⟩ := hcross
  have hlt : c < d := Nat.lt_of_lt_of_le hcd.2.1 hcd.2.2
  constructor
  · change key.toList < key'.toList
    rw [hkey, hkey']
    exact append_lt_append_left front (List.cons_lt_cons_iff.mpr (.inl hlt))
  · unfold utf16Units
    rw [hkey, hkey', List.flatMap_append, List.flatMap_append, List.flatMap_cons, List.flatMap_cons]
    exact append_lt_append_left _ ((precedes_of_crosses hcd).append_lt _ _)

theorem not_crossing_of_forall {key key' : String}
    (hkey : ∀ c ∈ key.toList, c.toNat < 0xe000 ∨ 0x10000 ≤ c.toNat) : ¬Crossing key key' := by
  rintro ⟨front, c, d, rest, rest', hsplit, -, hlow, hhigh, -⟩
  have hmem : c ∈ key.toList := by
    rw [hsplit]
    exact List.mem_append_right _ List.mem_cons_self
  have hbound := hkey c hmem
  omega

/-- Keys that do not cross are ordered alike. -/
theorem utf16Units_le_iff {key key' : String} (hcross : ¬Crossing key key')
    (hcross' : ¬Crossing key' key) : utf16Units key ≤ utf16Units key' ↔ key ≤ key' := by
  constructor
  · intro hunits
    by_contra hnot
    have hlt : key' < key := String.not_le.mp hnot
    exact not_lt_of_ge hunits (utf16Units_lt hlt hcross')
  · intro hle
    by_cases hsame : key = key'
    · rw [hsame]
    · have hlt : key < key' := by
        by_contra hnot
        exact hsame (String.le_antisymm hle (String.not_lt.mp hnot))
      exact le_of_lt (utf16Units_lt hlt hcross)

/-! ## Sorted members -/

section Sorted

variable {α : Type}

def sortByCharacters (members : List (String × α)) : List (String × α) :=
  members.mergeSort fun first second => decide (first.1 ≤ second.1)

def sortByCodeUnits (members : List (String × α)) : List (String × α) :=
  members.mergeSort fun first second => decide (utf16Units first.1 ≤ utf16Units second.1)

theorem sortByCharacters_sorted (members : List (String × α)) :
    (sortByCharacters members).Pairwise fun first second => first.1 ≤ second.1 := by
  have htrans : ∀ a b c : String × α, decide (a.1 ≤ b.1) = true →
      decide (b.1 ≤ c.1) = true → decide (a.1 ≤ c.1) = true := by
    intro a b c hab hbc
    exact decide_eq_true (String.le_trans (of_decide_eq_true hab) (of_decide_eq_true hbc))
  have htotal : ∀ a b : String × α, (decide (a.1 ≤ b.1) || decide (b.1 ≤ a.1)) = true := by
    intro a b
    rcases String.le_total a.1 b.1 with h | h <;> simp [h]
  exact (List.pairwise_mergeSort htrans htotal members).imp of_decide_eq_true

theorem sortByCodeUnits_sorted (members : List (String × α)) :
    (sortByCodeUnits members).Pairwise fun first second =>
      utf16Units first.1 ≤ utf16Units second.1 := by
  have htrans : ∀ a b c : String × α, decide (utf16Units a.1 ≤ utf16Units b.1) = true →
      decide (utf16Units b.1 ≤ utf16Units c.1) = true →
        decide (utf16Units a.1 ≤ utf16Units c.1) = true := by
    intro a b c hab hbc
    exact decide_eq_true (le_trans (of_decide_eq_true hab) (of_decide_eq_true hbc))
  have htotal : ∀ a b : String × α, (decide (utf16Units a.1 ≤ utf16Units b.1) ||
      decide (utf16Units b.1 ≤ utf16Units a.1)) = true := by
    intro a b
    rcases le_total (utf16Units a.1) (utf16Units b.1) with h | h <;> simp [h]
  exact (List.pairwise_mergeSort htrans htotal members).imp of_decide_eq_true

theorem sortByCharacters_perm (members : List (String × α)) :
    (sortByCharacters members).Perm members :=
  List.mergeSort_perm _ _

theorem sortByCodeUnits_perm (members : List (String × α)) :
    (sortByCodeUnits members).Perm members :=
  List.mergeSort_perm _ _

/-- Members are sorted alike in both orders exactly when no two keys cross. -/
theorem sortByCodeUnits_eq_iff {members : List (String × α)}
    (hnodup : (members.map Prod.fst).Nodup) :
    sortByCodeUnits members = sortByCharacters members ↔
      ∀ first ∈ members, ∀ second ∈ members, ¬Crossing first.1 second.1 := by
  have hchars := sortByCharacters_sorted members
  have hunits := sortByCodeUnits_sorted members
  constructor
  · intro hsame first hfirst second hsecond hcross
    obtain ⟨hlt, hlt'⟩ := hcross.lt
    rw [hsame] at hunits
    have hboth := hchars.and hunits
    have hfirst' := (sortByCharacters_perm members).mem_iff.mpr hfirst
    have hsecond' := (sortByCharacters_perm members).mem_iff.mpr hsecond
    obtain ⟨i, hi, rfl⟩ := List.mem_iff_getElem.mp hfirst'
    obtain ⟨j, hj, rfl⟩ := List.mem_iff_getElem.mp hsecond'
    have hpair := List.pairwise_iff_getElem.mp hboth
    rcases Nat.lt_trichotomy i j with hij | rfl | hij
    · exact not_lt_of_ge (hpair i j hi hj hij).2 hlt'
    · exact String.lt_irrefl _ hlt
    · exact String.not_lt.mpr (hpair j i hj hi hij).1 hlt
  · intro hcross
    have hperm := (sortByCodeUnits_perm members).trans (sortByCharacters_perm members).symm
    have hsorted : (sortByCharacters members).Pairwise fun first second =>
        utf16Units first.1 ≤ utf16Units second.1 := by
      refine hchars.imp_of_mem ?_
      intro first second hfirst hsecond hle
      have hfirst := (sortByCharacters_perm members).mem_iff.mp hfirst
      have hsecond := (sortByCharacters_perm members).mem_iff.mp hsecond
      exact (utf16Units_le_iff (hcross _ hfirst _ hsecond) (hcross _ hsecond _ hfirst)).mpr hle
    refine hperm.eq_of_pairwise ?_ hunits hsorted
    intro first second hfirst hsecond hle hge
    have hfirst := (sortByCodeUnits_perm members).mem_iff.mp hfirst
    have hsecond := (sortByCharacters_perm members).mem_iff.mp hsecond
    have hkeys := utf16Units_le_iff (hcross _ hfirst _ hsecond) (hcross _ hsecond _ hfirst)
    have hkeys' := utf16Units_le_iff (hcross _ hsecond _ hfirst) (hcross _ hfirst _ hsecond)
    have hsame : first.1 = second.1 := String.le_antisymm (hkeys.mp hle) (hkeys'.mp hge)
    exact List.inj_on_of_nodup_map hnodup hfirst hsecond hsame

end Sorted

end PaybondKit
