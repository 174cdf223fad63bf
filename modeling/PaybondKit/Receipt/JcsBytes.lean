import PaybondKit.Foundation.Jcs
import PaybondKit.Receipt.Scitt

/-!
# The canonical bytes and RFC 8785

Three modules have a copy of the function that hashes and signatures are made over. It sorts the
keys by characters and prints the digits of an integer as they are.
-/

namespace PaybondKit.Receipt

open Policy (canonicalizeJson canonicalizeItems canonicalizeMembers canonicalizeJson_dict)

namespace Pef

/-- The copy of `agent_receipt_pef`. -/
def jcsCanonicalBytes (floatText : PyFloat → JsonNumber) (value : PyValue) : ByteArray :=
  canonicalJsonBytes floatText value

end Pef

/-- The copy of `agent_receipt`. -/
def jcsBytes (floatText : PyFloat → JsonNumber) (value : PyValue) : ByteArray :=
  canonicalJsonBytes floatText value

section Sorted

variable {floatText : PyFloat → JsonNumber}

theorem toJsonMembers_eq (items : List (String × PyValue)) :
    PyValue.toJsonMembers floatText items =
      items.map fun item => (item.1, item.2.toJson floatText) := by
  induction items with
  | nil => rfl
  | cons item items ih => rw [PyValue.toJsonMembers, ih, List.map_cons]

mutual

/-- What is printed is the form with keys sorted by characters. -/
theorem canonicalizeJson_toJson : ∀ value : PyValue,
    (canonicalizeJson value).toJson floatText = sortedForm floatText value
  | .none => rfl
  | .bool _ => rfl
  | .int _ => rfl
  | .float _ => rfl
  | .str _ => rfl
  | .list items => by
      rw [canonicalizeJson, PyValue.toJson, sortedForm, canonicalizeItems_toJson items]
  | .dict items => by
      have hmembers := canonicalizeMembers_toJson items
      have hsort := @List.map_mergeSort _ _
        (fun first second : String × PyValue => decide (first.1 ≤ second.1))
        (fun first second : String × Json => decide (first.1 ≤ second.1))
        (fun item => (item.1, item.2.toJson floatText))
        (canonicalizeMembers items) (fun _ _ _ _ => rfl)
      rw [canonicalizeJson, PyValue.toJson, sortedForm, toJsonMembers_eq, hsort,
        ← toJsonMembers_eq, hmembers, sortByCharacters]

theorem canonicalizeItems_toJson : ∀ items : List PyValue,
    PyValue.toJsonItems floatText (canonicalizeItems items) = sortedItems floatText items
  | [] => rfl
  | item :: items => by
      rw [canonicalizeItems, PyValue.toJsonItems, sortedItems, canonicalizeJson_toJson item,
        canonicalizeItems_toJson items]

theorem canonicalizeMembers_toJson : ∀ items : List (String × PyValue),
    PyValue.toJsonMembers floatText (canonicalizeMembers items) = sortedMembers floatText items
  | [] => rfl
  | (key, value) :: items => by
      rw [canonicalizeMembers, PyValue.toJsonMembers, sortedMembers,
        canonicalizeJson_toJson value, canonicalizeMembers_toJson items]

end

/-- The bytes are those of the standard exactly when no two keys of one object cross and every
integer is the shortest. -/
theorem canonicalJsonBytes_standard_iff {value : PyValue} (hdistinct : value.Distinct)
    (hintegral : value.Integral) :
    rfc8785Bytes value = some (canonicalJsonBytes floatText value) ↔
      Agreeing value.objects value.integers := by
  rw [canonicalJsonBytes, canonicalizeJson_toJson]
  exact rfc8785Bytes_eq_iff hdistinct hintegral

end Sorted

/-- Each of the three copies gives the bytes of the standard exactly when no two keys of one
object cross and every integer is the shortest. -/
theorem jcsBytes_standard_iff (floatText : PyFloat → JsonNumber) (platform : Scitt.ScittPlatform)
    {value : PyValue} (hdistinct : value.Distinct) (hintegral : value.Integral) :
    (rfc8785Bytes value = some (Pef.jcsCanonicalBytes floatText value) ↔
      Agreeing value.objects value.integers) ∧
    (rfc8785Bytes value = some (jcsBytes floatText value) ↔
      Agreeing value.objects value.integers) ∧
    ((rfc8785Bytes value).map (·.data.toList) = some (Scitt.jcsBytes platform value) ↔
      Agreeing value.objects value.integers) := by
  have hstandard := @canonicalJsonBytes_standard_iff floatText value hdistinct hintegral
  have hscitt := @canonicalJsonBytes_standard_iff platform.floatText value hdistinct hintegral
  refine ⟨hstandard, hstandard, ?_⟩
  rw [← hscitt, Scitt.jcsBytes, Option.map_eq_some_iff]
  constructor
  · rintro ⟨bytes, hbytes, hlist⟩
    rw [hbytes, ByteArray.ext (Array.toList_inj.mp hlist)]
  · intro hbytes
    exact ⟨_, hbytes, rfl⟩

def valueAgreeing : PyValue := .dict [("é", .list [.int (-1), .str "\x7f\n"]), ("😀", .int 2)]

theorem jcsBytes_standard_iff_agreeing :
    rfc8785Bytes valueAgreeing = some (Pef.jcsCanonicalBytes exactFloatText valueAgreeing) := by
  have hdistinct : valueAgreeing.Distinct :=
    ⟨by decide +kernel, ⟨trivial, trivial, trivial⟩, trivial, trivial⟩
  have hintegral : valueAgreeing.Integral := ⟨⟨trivial, trivial, trivial⟩, trivial, trivial⟩
  have hsmall : ∀ n ∈ valueAgreeing.integers, n.natAbs < 2 ^ 53 := by decide
  have hplain : ∀ members ∈ valueAgreeing.objects, ∀ first ∈ members.map Prod.fst,
      ∀ c ∈ first.toList, c.toNat < 0xe000 ∨ 0x10000 ≤ c.toNat := by
    intro members hmembers first hfirst
    have hkeys := @forall_mem_of_all _ (fun members : List (String × PyValue) =>
      members.all (fun member =>
        member.1.toList.all fun c => c.toNat < 0xe000 ∨ 0x10000 ≤ c.toNat) = true)
      _ valueAgreeing.objects (by decide +kernel)
    obtain ⟨member, hmember, rfl⟩ := List.mem_map.mp hfirst
    have hkey := List.all_eq_true.mp (hkeys members hmembers) member hmember
    exact fun c hc => of_decide_eq_true (List.all_eq_true.mp hkey c hc)
  refine (jcsBytes_standard_iff exactFloatText Scitt.platformExported hdistinct hintegral).1.mpr ?_
  refine ⟨fun members hmembers first hfirst _ _ => ?_, fun n hn => ?_⟩
  · exact not_crossing_of_forall (hplain members hmembers _ (List.mem_map_of_mem hfirst))
  · exact shortestInteger_of_lt (hsmall n hn)

/-- A key after the surrogates, and one beyond the first plane. -/
def valueCrossing : PyValue := .dict [("\ue000", .int 1), ("😀", .int 2)]

/-- The keys are sorted in the other order than those of the standard, and an integer beyond 53
bits keeps its digits. -/
theorem jcsBytes_not_standard :
    rfc8785Bytes valueCrossing ≠ some (Pef.jcsCanonicalBytes exactFloatText valueCrossing) ∧
    rfc8785Bytes (.int (2 ^ 53 + 1)) ≠
      some (Pef.jcsCanonicalBytes exactFloatText (.int (2 ^ 53 + 1))) := by
  constructor
  · have hdistinct : valueCrossing.Distinct := ⟨by decide +kernel, trivial, trivial, trivial⟩
    intro hbytes
    have hagree := (canonicalJsonBytes_standard_iff hdistinct ⟨trivial, trivial, trivial⟩).mp hbytes
    refine hagree.keys _ List.mem_cons_self ("\ue000", .int 1) (by simp) ("😀", .int 2) (by simp) ?_
    exact ⟨[], '\ue000', '😀', [], [], by decide +kernel, by decide +kernel, by decide, by decide,
      by decide⟩
  · intro hbytes
    have hlarge : (PyValue.int (2 ^ 53 + 1)).Distinct ∧ (PyValue.int (2 ^ 53 + 1)).Integral :=
      ⟨trivial, trivial⟩
    have hagree := (canonicalJsonBytes_standard_iff hlarge.1 hlarge.2).mp hbytes
    have hshortest := (hagree.integers _ List.mem_cons_self).2
    have hrounded : (doubleOfNat (2 ^ 53 + 1)).map shortestDecimal = some (2 ^ 53) := by
      decide +kernel
    exact absurd (hrounded.symm.trans hshortest) (by decide)

end PaybondKit.Receipt
