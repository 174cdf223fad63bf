import Mathlib.Algebra.Group.Nat.Defs
import Mathlib.Data.List.Basic
import Mathlib.Tactic.Common
import PaybondKit.Foundation.CodeOrder

/-!
# The bincode encoding

The standard configuration: integers of variable length, little endian, with the sign in the
last bit; a length before texts and byte strings. Fields are written one after the other, and
each of them can be told from whatever follows.
-/

namespace PaybondKit.Bincode

/-! ## What is read -/

section Reads

variable {α σ : Type}

/-- What begins two equal byte strings agrees, and so does what follows it. -/
def Reads (encode : σ → List UInt8) (agree : σ → σ → Prop) : Prop :=
  ∀ x y rest rest', encode x ++ rest = encode y ++ rest' → agree x y ∧ rest = rest'

/-- The encoding of a value can be told from whatever follows. -/
def SelfDelimiting (encode : σ → List UInt8) : Prop := Reads encode Eq

theorem SelfDelimiting.injective {encode : σ → List UInt8} (hencode : SelfDelimiting encode) :
    Function.Injective encode := by
  intro x y hsame
  exact (hencode x y [] [] (by rw [hsame])).1

/-- A field of a record. -/
theorem SelfDelimiting.field {encode : α → List UInt8} (hencode : SelfDelimiting encode)
    (get : σ → α) : Reads (fun x => encode (get x)) fun x y => get x = get y :=
  fun x y => hencode (get x) (get y)

/-- One field after the other. -/
theorem Reads.append {encode encode' : σ → List UInt8} {agree agree' : σ → σ → Prop}
    (hfirst : Reads encode agree) (hrest : Reads encode' agree') :
    Reads (fun x => encode x ++ encode' x) fun x y => agree x y ∧ agree' x y := by
  intro x y rest rest' hbytes
  rw [List.append_assoc, List.append_assoc] at hbytes
  obtain ⟨hagree, hbytes⟩ := hfirst x y _ _ hbytes
  obtain ⟨hagree', hsame⟩ := hrest x y _ _ hbytes
  exact ⟨⟨hagree, hagree'⟩, hsame⟩

theorem Reads.mono {encode : σ → List UInt8} {agree agree' : σ → σ → Prop}
    (hreads : Reads encode agree) (hagree : ∀ x y, agree x y → agree' x y) :
    Reads encode agree' := by
  intro x y rest rest' hbytes
  obtain ⟨hsame, hrest⟩ := hreads x y rest rest' hbytes
  exact ⟨hagree x y hsame, hrest⟩

/-- Values of one length are told apart by their bytes. -/
theorem selfDelimiting_of_length {encode : α → List UInt8} (width : ℕ)
    (hlength : ∀ x, (encode x).length = width) (hinjective : Function.Injective encode) :
    SelfDelimiting encode := by
  intro x y rest rest' hbytes
  obtain ⟨hsame, hrest⟩ := List.append_inj hbytes (by rw [hlength, hlength])
  exact ⟨hinjective hsame, hrest⟩

end Reads

/-! ## Integers -/

def littleEndian : ℕ → ℕ → List UInt8
  | 0, _ => []
  | width + 1, n => UInt8.ofNat (n % 256) :: littleEndian width (n / 256)

@[simp] theorem length_littleEndian (width n : ℕ) : (littleEndian width n).length = width := by
  induction width generalizing n with
  | zero => rfl
  | succ width ih => rw [littleEndian, List.length_cons, ih]

theorem littleEndian_inj {width n m : ℕ} (hn : n < 256 ^ width) (hm : m < 256 ^ width)
    (hbytes : littleEndian width n = littleEndian width m) : n = m := by
  induction width generalizing n m with
  | zero => omega
  | succ width ih =>
      obtain ⟨hbyte, hrest⟩ := List.cons.inj hbytes
      have hlow : n % 256 = m % 256 := by
        have hsame := congrArg UInt8.toNat hbyte
        rw [UInt8.toNat_ofNat', UInt8.toNat_ofNat'] at hsame
        omega
      have hhigh : n / 256 = m / 256 := by
        rw [Nat.pow_succ] at hn hm
        exact ih (Nat.div_lt_of_lt_mul (by rwa [Nat.mul_comm] at hn))
          (Nat.div_lt_of_lt_mul (by rwa [Nat.mul_comm] at hm)) hrest
      omega

/-- An integer of variable length. The first byte of a long one tells its width. -/
def encodeVarint (n : ℕ) : List UInt8 :=
  if n < 251 then [.ofNat n]
  else if n < 2 ^ 16 then 251 :: littleEndian 2 n
  else if n < 2 ^ 32 then 252 :: littleEndian 4 n
  else 253 :: littleEndian 8 n

/-- The first byte, and the bytes after it. -/
inductive VarintCode (n : ℕ) : List UInt8 → Prop where
  | short (hn : n < 251) : VarintCode n [.ofNat n]
  | long (marker width : ℕ) (hmarker : 251 ≤ marker ∧ marker < 256)
      (hwidth : width = if marker = 251 then 2 else if marker = 252 then 4 else 8)
      (hn : n < 256 ^ width) : VarintCode n (.ofNat marker :: littleEndian width n)

theorem varintCode_encodeVarint {n : ℕ} (hn : n < 2 ^ 64) : VarintCode n (encodeVarint n) := by
  unfold encodeVarint
  split
  next hshort => exact .short hshort
  next =>
    split
    next htwo => exact .long 251 2 (by decide) rfl htwo
    next =>
      split
      next hfour => exact .long 252 4 (by decide) rfl hfour
      next => exact .long 253 8 (by decide) rfl hn

theorem varintCode_inj {n m : ℕ} {code code' rest rest' : List UInt8} (hcode : VarintCode n code)
    (hcode' : VarintCode m code') (hbytes : code ++ rest = code' ++ rest') :
    n = m ∧ rest = rest' := by
  have hbyte : ∀ {a b : ℕ}, a < 256 → b < 256 → UInt8.ofNat a = UInt8.ofNat b → a = b := by
    intro a b ha hb hsame
    have hsame := congrArg UInt8.toNat hsame
    rw [UInt8.toNat_ofNat', UInt8.toNat_ofNat'] at hsame
    omega
  cases hcode with
  | short hn =>
      cases hcode' with
      | short hm =>
          obtain ⟨hfirst, hrest⟩ := List.cons.inj hbytes
          exact ⟨hbyte (by omega) (by omega) hfirst, hrest⟩
      | long marker width hmarker hwidth hm =>
          have hfirst := hbyte (by omega) (by omega) (List.cons.inj hbytes).1
          omega
  | long marker width hmarker hwidth hn =>
      cases hcode' with
      | short hm =>
          have hfirst := hbyte (by omega) (by omega) (List.cons.inj hbytes).1
          omega
      | long marker' width' hmarker' hwidth' hm =>
          obtain ⟨hfirst, hrest⟩ := List.cons.inj hbytes
          obtain rfl := hbyte (by omega) (by omega) hfirst
          obtain rfl : width = width' := hwidth.trans hwidth'.symm
          obtain ⟨hsame, hrest⟩ := List.append_inj hrest (by simp)
          exact ⟨littleEndian_inj hn hm hsame, hrest⟩

theorem selfDelimiting_varint {α : Type} {number : α → ℕ} (hnumber : ∀ x, number x < 2 ^ 64)
    (hinjective : Function.Injective number) :
    SelfDelimiting fun x => encodeVarint (number x) := by
  intro x y rest rest' hbytes
  obtain ⟨hsame, hrest⟩ := varintCode_inj (varintCode_encodeVarint (hnumber x))
    (varintCode_encodeVarint (hnumber y)) hbytes
  exact ⟨hinjective hsame, hrest⟩

def encodeU8 (n : UInt8) : List UInt8 := [n]

def encodeU32 (n : UInt32) : List UInt8 := encodeVarint n.toNat

/-- The sign in the last bit. -/
def zigzag (n : Int64) : ℕ :=
  if 0 ≤ n.toInt then (2 * n.toInt).toNat else (-2 * n.toInt - 1).toNat

def encodeI64 (n : Int64) : List UInt8 := encodeVarint (zigzag n)

theorem selfDelimiting_encodeU8 : SelfDelimiting encodeU8 :=
  selfDelimiting_of_length 1 (fun _ => rfl) fun _ _ hsame => (List.cons.inj hsame).1

theorem selfDelimiting_encodeU32 : SelfDelimiting encodeU32 := by
  refine selfDelimiting_varint (fun n => ?_) fun n m hsame => UInt32.toNat.inj hsame
  have hn := n.toNat_lt
  omega

theorem zigzag_injective : Function.Injective zigzag := by
  intro n m hsame
  have hvalue : n.toInt = m.toInt := by
    unfold zigzag at hsame
    split at hsame <;> split at hsame <;> omega
  exact Int64.toInt.inj hvalue

theorem selfDelimiting_encodeI64 : SelfDelimiting encodeI64 := by
  refine selfDelimiting_varint (fun n => ?_) zigzag_injective
  have hle := Int64.le_toInt n
  have hlt := Int64.toInt_lt n
  unfold zigzag
  split <;> omega

/-! ## Byte strings -/

/-- Bytes whose length is a `usize`. -/
abbrev SizedBytes := { bytes : List UInt8 // bytes.length < 2 ^ 64 }

def encodeBytes (bytes : SizedBytes) : List UInt8 := encodeVarint bytes.val.length ++ bytes.val

theorem selfDelimiting_encodeBytes : SelfDelimiting encodeBytes := by
  intro x y rest rest' hbytes
  simp only [encodeBytes, List.append_assoc] at hbytes
  obtain ⟨hlength, hbytes⟩ := varintCode_inj (varintCode_encodeVarint x.property)
    (varintCode_encodeVarint y.property) hbytes
  obtain ⟨hsame, hrest⟩ := List.append_inj hbytes hlength
  exact ⟨Subtype.ext hsame, hrest⟩

/-- A text whose length is a `usize`. -/
abbrev SizedText := { text : String // (utf8Bytes text).length < 2 ^ 64 }

theorem length_utf8_le (chars : List Char) :
    (chars.flatMap String.utf8EncodeChar).length ≤ 4 * chars.length := by
  induction chars with
  | nil => exact Nat.le_refl 0
  | cons c chars ih =>
      have hsize := c.utf8Size_le_four
      rw [List.flatMap_cons, List.length_append, String.length_utf8EncodeChar, List.length_cons]
      omega

theorem sized_ofList {chars : List Char} (hchars : 4 * chars.length < 2 ^ 64) :
    (utf8Bytes (String.ofList chars)).length < 2 ^ 64 := by
  rw [utf8Bytes, String.toList_ofList]
  exact Nat.lt_of_le_of_lt (length_utf8_le chars) hchars

def encodeStr (text : SizedText) : List UInt8 := encodeBytes ⟨utf8Bytes text.val, text.property⟩

theorem utf8Bytes_injective : Function.Injective utf8Bytes := by
  intro text text' hsame
  refine String.le_antisymm ?_ ?_
  · rw [← utf8Bytes_le_iff, hsame]
    exact List.lt_irrefl _
  · rw [← utf8Bytes_le_iff, hsame]
    exact List.lt_irrefl _

theorem selfDelimiting_encodeStr : SelfDelimiting encodeStr := by
  intro x y rest rest' hbytes
  obtain ⟨hsame, hrest⟩ := selfDelimiting_encodeBytes _ _ _ _ hbytes
  exact ⟨Subtype.ext (utf8Bytes_injective (congrArg Subtype.val hsame)), hrest⟩

/-- `[u8; width]`, which has no length before it. -/
abbrev ByteArrayOf (width : ℕ) := { bytes : List UInt8 // bytes.length = width }

def encodeArray {width : ℕ} (bytes : ByteArrayOf width) : List UInt8 := bytes.val

theorem selfDelimiting_encodeArray (width : ℕ) :
    SelfDelimiting (encodeArray : ByteArrayOf width → List UInt8) :=
  selfDelimiting_of_length width (fun bytes => bytes.property) Subtype.val_injective

end PaybondKit.Bincode
