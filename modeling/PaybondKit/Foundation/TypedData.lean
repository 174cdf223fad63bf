import Mathlib.Algebra.Group.Nat.Defs
import Mathlib.Data.Nat.Basic

/-!
# Hashes of typed data

A structure is hashed as the hash of its type and one word for every member: the hash of a text,
or a number in 32 bytes. All words are of one width, so that the members can be told apart, and
where the hash does not collide it determines them.
-/

namespace PaybondKit.TypedData

/-! ## Numbers -/

/-- The lowest bytes of a number, the highest first. -/
def bigEndian : ℕ → ℕ → List UInt8
  | 0, _ => []
  | width + 1, n => bigEndian width (n / 256) ++ [UInt8.ofNat n]

@[simp] theorem length_bigEndian (width n : ℕ) : (bigEndian width n).length = width := by
  induction width generalizing n with
  | zero => rfl
  | succ width ih => rw [bigEndian, List.length_append, ih, List.length_singleton]

theorem bigEndian_injective {width n m : ℕ} (hn : n < 256 ^ width) (hm : m < 256 ^ width)
    (hsame : bigEndian width n = bigEndian width m) : n = m := by
  induction width generalizing n m with
  | zero => omega
  | succ width ih =>
      obtain ⟨hhigh, hlow⟩ := List.append_inj' hsame rfl
      have hquotient : n / 256 = m / 256 := by
        refine ih ?_ ?_ hhigh
        · exact Nat.div_lt_of_lt_mul (by rwa [Nat.pow_succ, Nat.mul_comm] at hn)
        · exact Nat.div_lt_of_lt_mul (by rwa [Nat.pow_succ, Nat.mul_comm] at hm)
      have hremainder : n % 256 = m % 256 := by
        have hbyte := congrArg UInt8.toNat (List.singleton_inj.mp hlow)
        rwa [UInt8.toNat_ofNat', UInt8.toNat_ofNat'] at hbyte
      rw [← Nat.div_add_mod n 256, hquotient, hremainder, Nat.div_add_mod]

/-! ## Structures -/

/-- The literals of a number. -/
instance neZero_uint : @NeZero ℕ Zero.ofOfNat0 (2 ^ 256) := ⟨Nat.ne_of_gt (Nat.two_pow_pos 256)⟩

inductive Member where
  | text (data : List UInt8)
  | uint (value : Fin (2 ^ 256))

def Member.isText : Member → Bool
  | .text _ => true
  | .uint _ => false

section Hash

variable (hash : List UInt8 → List UInt8)

def Member.encode : Member → List UInt8
  | .text data => hash data
  | .uint value => bigEndian 32 value

def structBytes (typeText : List UInt8) (members : List Member) : List UInt8 :=
  hash typeText ++ members.flatMap (Member.encode hash)

def hashStruct (typeText : List UInt8) (members : List Member) : List UInt8 :=
  hash (structBytes hash typeText members)

/-- The texts that are hashed for the members. -/
def texts (members : List Member) : List (List UInt8) :=
  members.filterMap fun member =>
    match member with
    | .text data => some data
    | .uint _ => none

/-- The hash does not collide on what is hashed on two sides. -/
def CollisionFree (inputs others : List (List UInt8)) : Prop :=
  ∀ input ∈ inputs, ∀ other ∈ others, hash input = hash other → input = other

variable {hash}

theorem CollisionFree.mono {inputs others inputs' others' : List (List UInt8)}
    (hfree : CollisionFree hash inputs others) (hinputs : inputs' ⊆ inputs)
    (hothers : others' ⊆ others) : CollisionFree hash inputs' others' :=
  fun input hinput other hother => hfree input (hinputs hinput) other (hothers hother)

variable (hwidth : ∀ data, (hash data).length = 32)
include hwidth

theorem Member.length_encode (member : Member) : (member.encode hash).length = 32 := by
  cases member with
  | text data => exact hwidth data
  | uint value => exact length_bigEndian 32 value

omit hwidth in
theorem Member.eq_of_encode_eq {member other : Member}
    (hfree : CollisionFree hash (texts [member]) (texts [other]))
    (hkind : member.isText = other.isText) (hsame : member.encode hash = other.encode hash) :
    member = other := by
  cases member with
  | text data =>
      cases other with
      | text data' =>
          have hdata : data = data' :=
            hfree data (List.mem_singleton_self data) data' (List.mem_singleton_self data') hsame
          rw [hdata]
      | uint _ => cases hkind
  | uint value =>
      cases other with
      | text _ => cases hkind
      | uint value' =>
          have hbound : ∀ n : Fin (2 ^ 256), (n : ℕ) < 256 ^ 32 := fun n => n.isLt
          rw [Fin.ext (bigEndian_injective (hbound value) (hbound value') hsame)]

/-- Members of the same kinds with the same words are the same. -/
theorem members_eq_of_flatMap_eq {members others : List Member}
    (hfree : CollisionFree hash (texts members) (texts others))
    (hkinds : members.map Member.isText = others.map Member.isText)
    (hsame : members.flatMap (Member.encode hash) = others.flatMap (Member.encode hash)) :
    members = others := by
  induction members generalizing others with
  | nil => exact (List.map_eq_nil_iff.mp hkinds.symm).symm
  | cons member members ih =>
      cases others with
      | nil => cases hkinds
      | cons other others =>
          obtain ⟨hkind, hkinds⟩ := List.cons.inj hkinds
          have hlength : (member.encode hash).length = (other.encode hash).length := by
            rw [member.length_encode hwidth, other.length_encode hwidth]
          rw [List.flatMap_cons, List.flatMap_cons] at hsame
          obtain ⟨hword, hwords⟩ := List.append_inj hsame hlength
          have htexts : ∀ (first : Member) (rest : List Member),
              texts (first :: rest) = texts [first] ++ texts rest := by
            intro first rest
            cases first <;> rfl
          have hmember : member = other := by
            refine Member.eq_of_encode_eq (hfree.mono ?_ ?_) hkind hword
            · rw [htexts member members]
              exact List.subset_append_left _ _
            · rw [htexts other others]
              exact List.subset_append_left _ _
          have hmembers : members = others := by
            refine ih (hfree.mono ?_ ?_) hkinds hwords
            · rw [htexts member members]
              exact List.subset_append_right _ _
            · rw [htexts other others]
              exact List.subset_append_right _ _
          rw [hmember, hmembers]

/-- The hash of a structure determines its members. -/
theorem members_eq_of_hashStruct_eq {typeText : List UInt8} {members others : List Member}
    (hfree : CollisionFree hash (structBytes hash typeText members :: texts members)
      (structBytes hash typeText others :: texts others))
    (hkinds : members.map Member.isText = others.map Member.isText)
    (hsame : hashStruct hash typeText members = hashStruct hash typeText others) :
    members = others := by
  have hbytes : structBytes hash typeText members = structBytes hash typeText others :=
    hfree _ List.mem_cons_self _ List.mem_cons_self hsame
  refine members_eq_of_flatMap_eq hwidth (hfree.mono ?_ ?_) hkinds (List.append_cancel_left hbytes)
  · exact List.subset_cons_self _ _
  · exact List.subset_cons_self _ _

end Hash

end PaybondKit.TypedData
