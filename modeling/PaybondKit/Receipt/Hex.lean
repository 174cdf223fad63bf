import PaybondKit.Receipt.Fields

/-!
# Bytes as hexadecimal digits

`bytes.fromhex` and `bytes.hex`. Bytes are read back from their digits, and lower case digits
are the digits of the bytes that are read from them.
-/

namespace PaybondKit.Receipt

open Agent (PyExc)

/-! ## Reading -/

def isAsciiSpace (c : Char) : Bool :=
  c ∈ [' ', '\t', '\n', '\r', '\x0b', '\x0c']

def hexDigit (c : Char) : Option ℕ :=
  if '0' ≤ c ∧ c ≤ '9' then some (c.toNat - '0'.toNat)
  else if 'a' ≤ c ∧ c ≤ 'f' then some (c.toNat - 'a'.toNat + 10)
  else if 'A' ≤ c ∧ c ≤ 'F' then some (c.toNat - 'A'.toNat + 10)
  else none

/-- Pairs of digits, with spaces between the pairs. -/
def bytesOfHexDigits : List Char → Option (List UInt8)
  | [] => some []
  | [c] => if isAsciiSpace c then some [] else none
  | high :: low :: rest =>
      if isAsciiSpace high then bytesOfHexDigits (low :: rest)
      else do
        let byte := 16 * (← hexDigit high) + (← hexDigit low)
        return UInt8.ofNat byte :: (← bytesOfHexDigits rest)

/-- `bytes.fromhex(text)`. -/
def bytesFromHex (text : String) : Except PyExc ByteArray :=
  match bytesOfHexDigits text.toList with
  | some bytes => .ok ⟨bytes.toArray⟩
  | none => .error (.valueError "non-hexadecimal number found in fromhex() arg")

theorem hexDigit_isSome {c : Char} (hc : isLowerHex c = true) : (hexDigit c).isSome = true := by
  unfold hexDigit
  simp only [isLowerHex, Policy.isDigit, Bool.or_eq_true, Bool.and_eq_true,
    decide_eq_true_eq] at hc
  rcases hc with hdigit | hletter
  · rw [if_pos hdigit]
    rfl
  · by_cases hdigit : '0' ≤ c ∧ c ≤ '9'
    · rw [if_pos hdigit]
      rfl
    · rw [if_neg hdigit, if_pos hletter]
      rfl

theorem isAsciiSpace_of_isLowerHex {c : Char} (hc : isLowerHex c = true) :
    isAsciiSpace c = false := by
  have hspace := not_isPySpace_of_isTokenChar (isTokenChar_of_isLowerHex hc)
  by_contra hascii
  rw [Bool.not_eq_false, isAsciiSpace, decide_eq_true_eq] at hascii
  revert hspace
  simp only [List.mem_cons, List.not_mem_nil, or_false] at hascii
  rcases hascii with rfl | rfl | rfl | rfl | rfl | rfl <;> decide

/-- An even number of digits is read as half as many bytes. -/
theorem bytesOfHexDigits_length {digits : List Char} {n : ℕ}
    (hdigits : ∀ c ∈ digits, isLowerHex c = true) (hlength : digits.length = 2 * n) :
    ∃ bytes, bytesOfHexDigits digits = some bytes ∧ bytes.length = n := by
  induction n generalizing digits with
  | zero =>
      rw [List.length_eq_zero_iff.mp hlength]
      exact ⟨[], rfl, rfl⟩
  | succ n ih =>
      match digits with
      | [] => simp at hlength
      | [c] => simp at hlength; omega
      | high :: low :: rest =>
          simp only [List.forall_mem_cons] at hdigits
          obtain ⟨hhigh, hlow, hrest⟩ := hdigits
          obtain ⟨h, hh⟩ := Option.isSome_iff_exists.mp (hexDigit_isSome hhigh)
          obtain ⟨l, hl⟩ := Option.isSome_iff_exists.mp (hexDigit_isSome hlow)
          have hlength : rest.length = 2 * n := by
            simp only [List.length_cons] at hlength
            omega
          obtain ⟨bytes, hbytes, hsize⟩ := ih hrest hlength
          refine ⟨UInt8.ofNat (16 * h + l) :: bytes, ?_, by simp [hsize]⟩
          simp [bytesOfHexDigits, isAsciiSpace_of_isLowerHex hhigh, hh, hl, hbytes]

theorem bytesFromHex_size {text : String} {n : ℕ} (htext : ∀ c ∈ text.toList, isLowerHex c = true)
    (hlength : text.toList.length = 2 * n) :
    ∃ bytes, bytesFromHex text = .ok bytes ∧ bytes.size = n := by
  obtain ⟨bytes, hbytes, hsize⟩ := bytesOfHexDigits_length htext hlength
  refine ⟨⟨bytes.toArray⟩, ?_, ?_⟩
  · rw [bytesFromHex, hbytes]
  · simpa [ByteArray.size] using hsize

/-! ## Writing -/

/-- `hexdigest()` is 64 digits. -/
def Platform.HexDigests (platform : Platform) : Prop :=
  ∀ bytes, hex64Re (platform.sha256Hex bytes) = true

/-- The digits of `bytes.hex()`. -/
def lowerHexDigit (n : ℕ) : Char := "0123456789abcdef".toList.getD n '0'

def hexOfBytes (bytes : ByteArray) : String :=
  String.ofList (bytes.data.toList.flatMap fun byte =>
    [lowerHexDigit (byte.toNat / 16), lowerHexDigit (byte.toNat % 16)])

theorem hexDigit_lowerHexDigit {n : ℕ} (hn : n < 16) :
    hexDigit (lowerHexDigit n) = some n ∧ isLowerHex (lowerHexDigit n) = true := by
  revert n
  decide

theorem isLowerHex_hexOfBytes {bytes : ByteArray} {c : Char}
    (hc : c ∈ (hexOfBytes bytes).toList) : isLowerHex c = true := by
  rw [hexOfBytes, String.toList_ofList, List.mem_flatMap] at hc
  obtain ⟨byte, -, hdigit⟩ := hc
  have hhigh : byte.toNat / 16 < 16 := by
    have hbyte := byte.toNat_lt
    omega
  have hlow : byte.toNat % 16 < 16 := Nat.mod_lt _ (by decide)
  simp only [List.mem_cons, List.not_mem_nil, or_false] at hdigit
  rcases hdigit with rfl | rfl
  · exact (hexDigit_lowerHexDigit hhigh).2
  · exact (hexDigit_lowerHexDigit hlow).2

theorem length_hexOfBytes (bytes : ByteArray) :
    (hexOfBytes bytes).toList.length = 2 * bytes.size := by
  have hdigits : ∀ list : List UInt8, (list.flatMap fun byte =>
      [lowerHexDigit (byte.toNat / 16), lowerHexDigit (byte.toNat % 16)]).length =
        2 * list.length := by
    intro list
    induction list with
    | nil => rfl
    | cons byte list ih =>
        rw [List.flatMap_cons, List.length_append, ih]
        simp only [List.length_cons, List.length_nil]
        omega
  rw [hexOfBytes, String.toList_ofList, hdigits, Array.length_toList]
  rfl

theorem hex64Re_hexOfBytes {bytes : ByteArray} (hsize : bytes.size = 32) :
    hex64Re (hexOfBytes bytes) = true := by
  have hlength := length_hexOfBytes bytes
  simp only [hex64Re, Bool.and_eq_true, List.all_eq_true, decide_eq_true_eq]
  exact ⟨fun c hc => isLowerHex_hexOfBytes hc, by rw [hlength, hsize]⟩

theorem bytesFromHex_hexOfBytes (bytes : ByteArray) :
    bytesFromHex (hexOfBytes bytes) = .ok bytes := by
  have hdigits : ∀ list : List UInt8, bytesOfHexDigits (list.flatMap fun byte =>
      [lowerHexDigit (byte.toNat / 16), lowerHexDigit (byte.toNat % 16)]) = some list := by
    intro list
    induction list with
    | nil => rfl
    | cons byte list ih =>
        have hhigh : byte.toNat / 16 < 16 := by
          have hbyte := byte.toNat_lt
          omega
        have hlow : byte.toNat % 16 < 16 := Nat.mod_lt _ (by decide)
        obtain ⟨hhighDigit, hhighHex⟩ := hexDigit_lowerHexDigit hhigh
        obtain ⟨hlowDigit, -⟩ := hexDigit_lowerHexDigit hlow
        have hbyte : UInt8.ofNat (16 * (byte.toNat / 16) + byte.toNat % 16) = byte := by
          rw [Nat.div_add_mod, UInt8.ofNat_toNat]
        simp only [List.flatMap_cons, List.cons_append, List.nil_append, bytesOfHexDigits,
          isAsciiSpace_of_isLowerHex hhighHex, hhighDigit, hlowDigit, ih]
        exact congrArg (fun byte => some (byte :: list)) hbyte
  rw [bytesFromHex, hexOfBytes, String.toList_ofList, hdigits]

theorem stripLower_hexOfBytes {platform : Platform} (laws : platform.LowerLaws)
    (bytes : ByteArray) : platform.stripLower (hexOfBytes bytes) = hexOfBytes bytes :=
  Platform.stripLower_eq_self laws fun _ hc => isTokenChar_of_isLowerHex (isLowerHex_hexOfBytes hc)

/-! ## Reading what was written -/

/-- The bytes that lower case digits stand for. -/
def bytesOfHex (text : String) : ByteArray := ((bytesFromHex text).toOption).getD .empty

@[simp] theorem bytesOfHex_hexOfBytes (bytes : ByteArray) :
    bytesOfHex (hexOfBytes bytes) = bytes := by
  rw [bytesOfHex, bytesFromHex_hexOfBytes]
  rfl

theorem hexOfBytes_injective {bytes other : ByteArray}
    (hhex : hexOfBytes bytes = hexOfBytes other) : bytes = other := by
  rw [← bytesOfHex_hexOfBytes bytes, hhex, bytesOfHex_hexOfBytes]

theorem lowerHexDigit_hexDigit {c : Char} (hc : isLowerHex c = true) :
    ∃ n < 16, hexDigit c = some n ∧ lowerHexDigit n = c := by
  have hascii : ∀ code < 128, isLowerHex (Char.ofNat code) = true →
      ∃ n < 16, hexDigit (Char.ofNat code) = some n ∧ lowerHexDigit n = Char.ofNat code := by
    decide
  have hcode : c.toNat < 128 := by
    simp only [isLowerHex, Policy.isDigit, Bool.or_eq_true, Bool.and_eq_true,
      decide_eq_true_eq] at hc
    rcases hc with ⟨-, hdigit⟩ | ⟨-, hletter⟩
    · exact lt_of_le_of_lt (show c.toNat ≤ '9'.toNat from hdigit) (by decide)
    · exact lt_of_le_of_lt (show c.toNat ≤ 'f'.toNat from hletter) (by decide)
  rw [← Char.ofNat_toNat c] at hc ⊢
  exact hascii c.toNat hcode hc

/-- Digits in lower case are those of the bytes that they stand for. -/
theorem hexOfBytes_bytesOfHex {text : String} {n : ℕ}
    (htext : ∀ c ∈ text.toList, isLowerHex c = true) (hlength : text.toList.length = 2 * n) :
    hexOfBytes (bytesOfHex text) = text := by
  have hdigits : ∀ (n : ℕ) (digits : List Char), (∀ c ∈ digits, isLowerHex c = true) →
      digits.length = 2 * n → ∃ bytes, bytesOfHexDigits digits = some bytes ∧
        (bytes.flatMap fun byte : UInt8 =>
          [lowerHexDigit (byte.toNat / 16), lowerHexDigit (byte.toNat % 16)]) = digits := by
    intro n
    induction n with
    | zero =>
        intro digits _ hlength
        rw [List.length_eq_zero_iff.mp hlength]
        exact ⟨[], rfl, rfl⟩
    | succ n ih =>
        intro digits hdigits hlength
        match digits, hlength with
        | high :: low :: rest, hlength =>
            simp only [List.forall_mem_cons] at hdigits
            obtain ⟨hhigh, hlow, hrest⟩ := hdigits
            obtain ⟨h, hlt, hhighDigit, hhighChar⟩ := lowerHexDigit_hexDigit hhigh
            obtain ⟨l, hlt', hlowDigit, hlowChar⟩ := lowerHexDigit_hexDigit hlow
            have hshort : rest.length = 2 * n := by
              simp only [List.length_cons] at hlength
              omega
            obtain ⟨bytes, hbytes, hflat⟩ := ih rest hrest hshort
            have hbyte : (UInt8.ofNat (16 * h + l)).toNat = 16 * h + l := by
              rw [UInt8.toNat_ofNat']
              omega
            refine ⟨UInt8.ofNat (16 * h + l) :: bytes, ?_, ?_⟩
            · simp [bytesOfHexDigits, isAsciiSpace_of_isLowerHex hhigh, hhighDigit, hlowDigit,
                hbytes]
            · have hdiv : (16 * h + l) / 16 = h := by omega
              have hmod : (16 * h + l) % 16 = l := by omega
              rw [List.flatMap_cons, hbyte, hflat, hdiv, hmod, hhighChar, hlowChar]
              rfl
        | [_], hlength =>
            rw [List.length_singleton] at hlength
            omega
  obtain ⟨bytes, hbytes, hflat⟩ := hdigits n text.toList htext hlength
  rw [hexOfBytes, bytesOfHex, bytesFromHex, hbytes]
  exact (congrArg String.ofList hflat).trans String.ofList_toList

theorem hexOfBytes_hex64 (digest : Hex64) : hexOfBytes (bytesOfHex digest.val) = digest.val := by
  have hdigest := digest.property
  simp only [hex64Re, Bool.and_eq_true, List.all_eq_true, decide_eq_true_eq] at hdigest
  exact @hexOfBytes_bytesOfHex digest.val 32 hdigest.1 hdigest.2

theorem size_bytesOfHex {first second : List Char} {n : ℕ}
    (hdigits : (first ++ second).all isLowerHex = true)
    (hlength : (first ++ second).length = 2 * n) :
    (bytesOfHex (String.ofList first ++ String.ofList second)).size = n := by
  have hchars : (String.ofList first ++ String.ofList second).toList = first ++ second := by
    rw [String.toList_append, String.toList_ofList, String.toList_ofList]
  obtain ⟨bytes, hbytes, hsize⟩ := bytesFromHex_size
    (fun c hc => List.all_eq_true.mp hdigits c (hchars ▸ hc)) (hchars ▸ hlength)
  rw [bytesOfHex, hbytes]
  exact hsize

theorem size_hex64 (digest : Hex64) : (bytesOfHex digest.val).size = 32 := by
  have hdigest := digest.property
  simp only [hex64Re, Bool.and_eq_true, List.all_eq_true, decide_eq_true_eq] at hdigest
  obtain ⟨bytes, hbytes, hsize⟩ := @bytesFromHex_size digest.val 32 hdigest.1 hdigest.2
  rw [bytesOfHex, hbytes]
  exact hsize

/-- `hashlib.sha256(bytes).digest()`. -/
def Platform.sha256 (platform : Platform) (bytes : ByteArray) : ByteArray :=
  bytesOfHex (platform.sha256Hex bytes)

namespace Platform.HexDigests

variable {platform : Platform} (hhex : platform.HexDigests)
include hhex

theorem hexOfBytes_sha256 (bytes : ByteArray) :
    hexOfBytes (platform.sha256 bytes) = platform.sha256Hex bytes :=
  hexOfBytes_hex64 ⟨_, hhex bytes⟩

theorem size_sha256 (bytes : ByteArray) : (platform.sha256 bytes).size = 32 :=
  size_hex64 ⟨_, hhex bytes⟩

end Platform.HexDigests

end PaybondKit.Receipt
