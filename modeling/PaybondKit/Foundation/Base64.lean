import Mathlib.Data.List.DropRight
import Mathlib.Tactic.Common

/-!
# Base64 in the alphabet for URLs

Three bytes are written as four characters of six bits each, and padding fills the last group. The
reader takes both alphabets, skips characters of neither, and stops at the padding of a group. What
is written is read back, also when its padding is stripped and restored from the length.
-/

namespace PaybondKit.Base64

/-! ## Writing -/

def alphabet : List Char :=
  "ABCDEFGHIJKLMNOPQRSTUVWXYZabcdefghijklmnopqrstuvwxyz0123456789-_".toList

/-- The character of six bits. -/
def sextetChar (n : ℕ) : Char := alphabet.getD n 'A'

/-- The characters without padding. -/
def body : List UInt8 → List Char
  | [] => []
  | [first] => [sextetChar (first.toNat / 4), sextetChar (first.toNat % 4 * 16)]
  | [first, second] =>
      [sextetChar (first.toNat / 4), sextetChar (first.toNat % 4 * 16 + second.toNat / 16),
        sextetChar (second.toNat % 16 * 4)]
  | first :: second :: third :: rest =>
      sextetChar (first.toNat / 4) :: sextetChar (first.toNat % 4 * 16 + second.toNat / 16) ::
        sextetChar (second.toNat % 16 * 4 + third.toNat / 64) ::
          sextetChar (third.toNat % 64) :: body rest

/-- The padding that fills the last group of four. -/
def padding (length : ℕ) : List Char := List.replicate ((4 - length % 4) % 4) '='

/-- `urlsafe_b64encode`. -/
def urlsafeEncode (bytes : List UInt8) : List Char := body bytes ++ padding (body bytes).length

/-! ## Reading -/

/-- The six bits of a character of either alphabet. -/
def sextet? (c : Char) : Option ℕ :=
  if c = '+' then some 62 else if c = '/' then some 63 else alphabet.idxOf? c

/-- The bytes of a group that padding ends. -/
def partialBytes : List ℕ → List UInt8
  | [first, second] => [.ofNat (first * 4 + second / 16)]
  | [first, second, third] =>
      [.ofNat (first * 4 + second / 16), .ofNat (second % 16 * 16 + third / 4)]
  | _ => []

/-- Read on, after the six bits of the group so far and its padding. -/
def decodeFrom (group : List ℕ) (pads : ℕ) : List Char → Option (List UInt8)
  | [] => if group = [] then some [] else none
  | c :: rest =>
      if c = '=' then
        if 2 ≤ group.length then
          if 4 ≤ group.length + (pads + 1) then some (partialBytes group)
          else decodeFrom group (pads + 1) rest
        else decodeFrom group pads rest
      else
        match sextet? c with
        | none => decodeFrom group pads rest
        | some fourth =>
            match group with
            | [_, _, third] =>
                (decodeFrom [] 0 rest).map fun bytes =>
                  partialBytes group ++ .ofNat (third % 4 * 64 + fourth) :: bytes
            | _ => decodeFrom (group ++ [fourth]) 0 rest

/-- `urlsafe_b64decode` of characters; `none` stands for `binascii.Error`. -/
def urlsafeDecode (chars : List Char) : Option (List UInt8) := decodeFrom [] 0 chars

/-! ## Reading back -/

theorem sextet?_sextetChar {n : ℕ} (hn : n < 64) :
    sextet? (sextetChar n) = some n ∧ sextetChar n ≠ '=' := by
  revert n
  decide +kernel

section Group

variable {group : List ℕ} {pads n : ℕ} {rest : List Char}

theorem decodeFrom_sextet (hn : n < 64) (hgroup : group.length < 3) :
    decodeFrom group pads (sextetChar n :: rest) = decodeFrom (group ++ [n]) 0 rest := by
  obtain ⟨hsextet, hpad⟩ := sextet?_sextetChar hn
  rw [decodeFrom, if_neg hpad, hsextet]
  match group with
  | [] | [_] | [_, _] => rfl
  | _ :: _ :: _ :: _ => simp at hgroup; omega

theorem decodeFrom_fourth {first second third : ℕ} (hn : n < 64) :
    decodeFrom [first, second, third] pads (sextetChar n :: rest) =
      (decodeFrom [] 0 rest).map fun bytes =>
        partialBytes [first, second, third] ++ .ofNat (third % 4 * 64 + n) :: bytes := by
  obtain ⟨hsextet, hpad⟩ := sextet?_sextetChar hn
  rw [decodeFrom, if_neg hpad, hsextet]

end Group

theorem ofNat_eq {byte : UInt8} {n : ℕ} (hn : n = byte.toNat) : UInt8.ofNat n = byte := by
  rw [hn, UInt8.ofNat_toNat]

/-- Three bytes are read from their four characters. -/
theorem decodeFrom_triple (first second third : UInt8) (rest : List Char) :
    decodeFrom [] 0 (sextetChar (first.toNat / 4) ::
      sextetChar (first.toNat % 4 * 16 + second.toNat / 16) ::
        sextetChar (second.toNat % 16 * 4 + third.toNat / 64) ::
          sextetChar (third.toNat % 64) :: rest) =
      (decodeFrom [] 0 rest).map (first :: second :: third :: ·) := by
  have hfirst := first.toNat_lt
  have hsecond := second.toNat_lt
  have hthird := third.toNat_lt
  rw [decodeFrom_sextet (by omega) (by simp), List.nil_append,
    decodeFrom_sextet (by omega) (by simp), List.singleton_append,
    decodeFrom_sextet (by omega) (by simp), List.cons_append, List.singleton_append,
    decodeFrom_fourth (by omega), partialBytes]
  rw [@ofNat_eq first _ (by omega), @ofNat_eq second _ (by omega), @ofNat_eq third _ (by omega)]
  rfl

theorem decodeFrom_two (first second : ℕ) :
    decodeFrom [first, second] 0 (padding 2) = some (partialBytes [first, second]) := rfl

theorem decodeFrom_three (first second third : ℕ) :
    decodeFrom [first, second, third] 0 (padding 3) = some (partialBytes [first, second, third]) :=
  rfl

theorem padding_add_four (length : ℕ) : padding (length + 4) = padding length := by
  rw [padding, padding, Nat.add_mod_right]

/-- What is written is read back. -/
theorem urlsafeDecode_urlsafeEncode (bytes : List UInt8) :
    urlsafeDecode (urlsafeEncode bytes) = some bytes := by
  unfold urlsafeDecode urlsafeEncode
  induction bytes using body.induct with
  | case1 => rfl
  | case2 first =>
      have hfirst := first.toNat_lt
      rw [body, List.cons_append, List.singleton_append, decodeFrom_sextet (by omega) (by simp),
        List.nil_append, decodeFrom_sextet (by omega) (by simp), List.singleton_append]
      have hread := decodeFrom_two (first.toNat / 4) (first.toNat % 4 * 16)
      rw [partialBytes, @ofNat_eq first _ (by omega)] at hread
      exact hread
  | case3 first second =>
      have hfirst := first.toNat_lt
      have hsecond := second.toNat_lt
      rw [body, List.cons_append, List.cons_append, List.singleton_append,
        decodeFrom_sextet (by omega) (by simp), List.nil_append,
        decodeFrom_sextet (by omega) (by simp), List.singleton_append,
        decodeFrom_sextet (by omega) (by simp), List.cons_append, List.singleton_append]
      have hread := decodeFrom_three (first.toNat / 4) (first.toNat % 4 * 16 + second.toNat / 16)
        (second.toNat % 16 * 4)
      rw [partialBytes, @ofNat_eq first _ (by omega), @ofNat_eq second _ (by omega)] at hread
      exact hread
  | case4 first second third rest ih =>
      rw [body]
      simp only [List.cons_append, List.length_cons]
      rw [decodeFrom_triple, padding_add_four, ih]
      rfl

/-! ## Padding -/

theorem mem_body {c : Char} : ∀ {bytes : List UInt8}, c ∈ body bytes → c ∈ alphabet := by
  have hsextet : ∀ n < 64, sextetChar n ∈ alphabet := by
    intro n hn
    have hlength : n < alphabet.length := hn
    rw [sextetChar, List.getD_eq_getElem?_getD, List.getElem?_eq_getElem hlength]
    exact List.getElem_mem hlength
  intro bytes
  induction bytes using body.induct with
  | case1 => exact fun hc => by cases hc
  | case2 first =>
      have hfirst := first.toNat_lt
      intro hc
      simp only [body, List.mem_cons, List.not_mem_nil, or_false] at hc
      rcases hc with rfl | rfl <;> exact hsextet _ (by omega)
  | case3 first second =>
      have hfirst := first.toNat_lt
      have hsecond := second.toNat_lt
      intro hc
      simp only [body, List.mem_cons, List.not_mem_nil, or_false] at hc
      rcases hc with rfl | rfl | rfl <;> exact hsextet _ (by omega)
  | case4 first second third rest ih =>
      have hfirst := first.toNat_lt
      have hsecond := second.toNat_lt
      intro hc
      simp only [body, List.mem_cons] at hc
      rcases hc with rfl | rfl | rfl | rfl | hrest
      · exact hsextet _ (by omega)
      · exact hsextet _ (by omega)
      · have hthird := third.toNat_lt
        exact hsextet _ (by omega)
      · exact hsextet _ (by omega)
      · exact ih hrest

/-- Stripping the padding leaves the characters. -/
theorem rdropWhile_urlsafeEncode (bytes : List UInt8) :
    (urlsafeEncode bytes).rdropWhile (· = '=') = body bytes := by
  have hpad : ∀ n, (body bytes ++ List.replicate n '=').rdropWhile (· = '=') = body bytes := by
    intro n
    induction n with
    | zero =>
        rw [List.replicate_zero, List.append_nil, List.rdropWhile_eq_self_iff]
        intro hnonempty
        have hlast := mem_body (List.getLast_mem hnonempty)
        have hall : (alphabet.all fun c => c ≠ '=') = true := by decide +kernel
        simpa using List.all_eq_true.mp hall _ hlast
    | succ n ih =>
        rw [List.replicate_succ', ← List.append_assoc, List.rdropWhile_concat_pos _ _ _ (by simp)]
        exact ih
  exact hpad _

end PaybondKit.Base64
