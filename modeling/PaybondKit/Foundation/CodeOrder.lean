import Mathlib.Data.List.Basic
import Mathlib.Tactic.Common

/-!
# The order of encoded texts

A code is increasing when a lesser letter has the lesser code where the two codes first
differ. Texts in such a code are ordered as their letters are. UTF-8 is one.
-/

namespace PaybondKit

section Code

variable {α β : Type} [LT α] [LT β]

/-- The codes differ, and the first one is less where they first do. -/
def Precedes (code code' : List β) : Prop :=
  ∃ front x y rest rest', code = front ++ x :: rest ∧ code' = front ++ y :: rest' ∧ x < y

theorem Precedes.append_lt {code code' : List β} (hcode : Precedes code code')
    (rest rest' : List β) : code ++ rest < code' ++ rest' := by
  obtain ⟨front, x, y, tail, tail', rfl, rfl, hlt⟩ := hcode
  induction front with
  | nil => exact List.cons_lt_cons_iff.mpr (.inl hlt)
  | cons z front ih => exact List.cons_lt_cons_iff.mpr (.inr ⟨rfl, ih⟩)

theorem Precedes.of_lt {x y : β} (hlt : x < y) (rest rest' : List β) :
    Precedes (x :: rest) (y :: rest') :=
  ⟨[], x, y, rest, rest', rfl, rfl, hlt⟩

theorem Precedes.cons {code code' : List β} (hcode : Precedes code code') (z : β) :
    Precedes (z :: code) (z :: code') := by
  obtain ⟨front, x, y, rest, rest', rfl, rfl, hlt⟩ := hcode
  exact ⟨z :: front, x, y, rest, rest', rfl, rfl, hlt⟩

theorem append_lt_append_left (front : List β) {rest rest' : List β} (hlt : rest < rest') :
    front ++ rest < front ++ rest' := by
  induction front with
  | nil => exact hlt
  | cons z front ih => exact List.cons_lt_cons_iff.mpr (.inr ⟨rfl, ih⟩)

structure Increasing (encode : α → List β) : Prop where
  precedes : ∀ c d, c < d → Precedes (encode c) (encode d)
  ne_nil : ∀ c, encode c ≠ []

/-- Encoding keeps the order of texts. -/
theorem Increasing.flatMap_lt {encode : α → List β} (hencode : Increasing encode) :
    ∀ {text text' : List α}, text < text' → text.flatMap encode < text'.flatMap encode
  | [], [], hlt => absurd hlt (by simp)
  | [], d :: text', _ => by
      obtain ⟨x, rest, hcode⟩ := List.exists_cons_of_ne_nil (hencode.ne_nil d)
      rw [List.flatMap_nil, List.flatMap_cons, hcode]
      exact List.nil_lt_cons _ _
  | c :: text, [], hlt => absurd hlt (by simp)
  | c :: text, d :: text', hlt => by
      rw [List.flatMap_cons, List.flatMap_cons]
      rcases List.cons_lt_cons_iff.mp hlt with hletter | ⟨rfl, hrest⟩
      · exact (hencode.precedes c d hletter).append_lt _ _
      · exact append_lt_append_left _ (hencode.flatMap_lt hrest)

end Code

/-! ## UTF-8 -/

def utf8Bytes (text : String) : List UInt8 := text.toList.flatMap String.utf8EncodeChar

/-- The UTF-8 code of a number, and where its bytes lie. -/
inductive Utf8Code (n : ℕ) : List UInt8 → Prop where
  | one (hn : n ≤ 0x7f) : Utf8Code n [.ofNat n]
  | two (hlow : 0x7f < n) (hn : n ≤ 0x7ff) :
      Utf8Code n [.ofNat (n / 64 + 0xc0), .ofNat (n % 64 + 0x80)]
  | three (hlow : 0x7ff < n) (hn : n ≤ 0xffff) :
      Utf8Code n [.ofNat (n / 4096 + 0xe0), .ofNat (n / 64 % 64 + 0x80), .ofNat (n % 64 + 0x80)]
  | four (hlow : 0xffff < n) (hn : n < 0x110000) :
      Utf8Code n [.ofNat (n / 262144 + 0xf0), .ofNat (n / 4096 % 64 + 0x80),
        .ofNat (n / 64 % 64 + 0x80), .ofNat (n % 64 + 0x80)]

theorem utf8Code_utf8EncodeChar (c : Char) : Utf8Code c.toNat (String.utf8EncodeChar c) := by
  have hvalid : c.toNat < 0x110000 := by
    rcases c.valid with hvalid | ⟨-, hvalid⟩
    · exact Nat.lt_trans hvalid (by decide)
    · exact hvalid
  have hvalue : c.val.toNat = c.toNat := rfl
  unfold String.utf8EncodeChar
  simp only [hvalue]
  split
  next hn => exact .one hn
  next hlow =>
    split
    next hn =>
      have hfirst : c.toNat / 64 % 32 = c.toNat / 64 := by omega
      rw [hfirst]
      exact .two (by omega) hn
    next hlow =>
      split
      next hn =>
        have hfirst : c.toNat / 4096 % 16 = c.toNat / 4096 := by omega
        rw [hfirst]
        exact .three (by omega) hn
      next hlow =>
        have hfirst : c.toNat / 262144 % 8 = c.toNat / 262144 := by omega
        rw [hfirst]
        exact .four (by omega) hvalid

theorem ofNat_lt_ofNat {n m : ℕ} (hlt : n < m) (hm : m < 256) : UInt8.ofNat n < UInt8.ofNat m := by
  rw [UInt8.lt_iff_toNat_lt, UInt8.toNat_ofNat', UInt8.toNat_ofNat']
  omega

/-- Bytes are compared by their numbers, one after the other. -/
theorem precedes_bytes {n m : ℕ} {code code' : List UInt8} (hm : m < 256)
    (hbytes : n < m ∨ n = m ∧ Precedes code code') :
    Precedes (UInt8.ofNat n :: code) (UInt8.ofNat m :: code') := by
  rcases hbytes with hlt | ⟨rfl, hcode⟩
  · exact .of_lt (ofNat_lt_ofNat hlt hm) _ _
  · exact hcode.cons _

theorem precedes_of_utf8Code {n m : ℕ} {code code' : List UInt8} (hlt : n < m)
    (hcode : Utf8Code n code) (hcode' : Utf8Code m code') : Precedes code code' := by
  have hsame : ∀ k : ℕ, n / k < m / k ∨ n / k = m / k := fun k =>
    Nat.lt_or_eq_of_le (Nat.div_le_div_right (Nat.le_of_lt hlt))
  cases hcode with
  | one hn =>
      cases hcode' with
      | one hm => exact precedes_bytes (by omega) (.inl hlt)
      | two hlow hm => exact precedes_bytes (by omega) (.inl (by omega))
      | three hlow hm => exact precedes_bytes (by omega) (.inl (by omega))
      | four hlow hm => exact precedes_bytes (by omega) (.inl (by omega))
  | two hlow hn =>
      cases hcode' with
      | one hm => omega
      | two hlow' hm =>
          refine precedes_bytes (by omega) ?_
          rcases hsame 64 with hfirst | hfirst
          · exact .inl (by omega)
          · exact .inr ⟨by omega, precedes_bytes (by omega) (.inl (by omega))⟩
      | three hlow' hm => exact precedes_bytes (by omega) (.inl (by omega))
      | four hlow' hm => exact precedes_bytes (by omega) (.inl (by omega))
  | three hlow hn =>
      cases hcode' with
      | one hm => omega
      | two hlow' hm => omega
      | three hlow' hm =>
          refine precedes_bytes (by omega) ?_
          rcases hsame 4096 with hfirst | hfirst
          · exact .inl (by omega)
          · refine .inr ⟨by omega, precedes_bytes (by omega) ?_⟩
            rcases hsame 64 with hsecond | hsecond
            · exact .inl (by omega)
            · exact .inr ⟨by omega, precedes_bytes (by omega) (.inl (by omega))⟩
      | four hlow' hm => exact precedes_bytes (by omega) (.inl (by omega))
  | four hlow hn =>
      cases hcode' with
      | one hm => omega
      | two hlow' hm => omega
      | three hlow' hm => omega
      | four hlow' hm =>
          refine precedes_bytes (by omega) ?_
          rcases hsame 262144 with hfirst | hfirst
          · exact .inl (by omega)
          · refine .inr ⟨by omega, precedes_bytes (by omega) ?_⟩
            rcases hsame 4096 with hsecond | hsecond
            · exact .inl (by omega)
            · refine .inr ⟨by omega, precedes_bytes (by omega) ?_⟩
              rcases hsame 64 with hthird | hthird
              · exact .inl (by omega)
              · exact .inr ⟨by omega, precedes_bytes (by omega) (.inl (by omega))⟩

theorem increasing_utf8EncodeChar : Increasing String.utf8EncodeChar where
  precedes c d hlt :=
    precedes_of_utf8Code hlt (utf8Code_utf8EncodeChar c) (utf8Code_utf8EncodeChar d)
  ne_nil c hnil := by
    have hlength := String.length_utf8EncodeChar c
    rw [hnil] at hlength
    exact absurd c.utf8Size_pos (by simp [← hlength])

/-- Texts are ordered as their UTF-8 bytes are. -/
theorem utf8Bytes_lt_iff {text text' : String} : utf8Bytes text < utf8Bytes text' ↔ text < text' := by
  have hmono : ∀ {text text' : String}, text < text' → utf8Bytes text < utf8Bytes text' :=
    fun hlt => increasing_utf8EncodeChar.flatMap_lt hlt
  refine ⟨fun hbytes => ?_, hmono⟩
  by_contra hnot
  have hle : text' ≤ text := hnot
  by_cases hsame : text' = text
  · rw [hsame] at hbytes
    exact List.lt_irrefl _ hbytes
  · have hlt : text' < text := by
      by_contra hnot'
      exact hsame (String.le_antisymm hle hnot')
    exact List.lt_asymm hbytes (hmono hlt)

theorem utf8Bytes_le_iff {text text' : String} : utf8Bytes text ≤ utf8Bytes text' ↔ text ≤ text' :=
  not_congr utf8Bytes_lt_iff

end PaybondKit
