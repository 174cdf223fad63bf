import PaybondKit.Policy.DigestForm

/-!
# Canonical JSON bytes

The bytes that records and statements are hashed as: keys sorted, the compact style, other
scripts kept as they are. With float texts that can be told apart, they determine the value up
to the order of keys.
-/

namespace PaybondKit

open Policy (canonicalizeJson canonicalizeJson_eq_iff)

/-- Floats have texts of their own, and none is the text of an integer. -/
structure FloatTexts (floatText : PyFloat → JsonNumber) : Prop where
  injective : Function.Injective floatText
  ne_ofInt : ∀ value n, floatText value ≠ .ofInt n

namespace PyValue

variable {floatText : PyFloat → JsonNumber}

mutual

/-- The JSON form of a value determines the value. -/
theorem eq_of_toJson_eq (htexts : FloatTexts floatText) : ∀ {first second : PyValue},
    toJson floatText first = toJson floatText second → first = second
  | .none, second, hjson => by cases second <;> first | rfl | cases hjson
  | .bool value, second, hjson => by cases second <;> first | cases hjson; rfl | cases hjson
  | .int value, second, hjson => by
      cases second with
      | int other =>
          have htext := congrArg JsonNumber.text (Json.number.inj hjson)
          rw [JsonNumber.ofInt_injective htext]
      | float other => exact absurd (Json.number.inj hjson).symm (htexts.ne_ofInt other value)
      | _ => cases hjson
  | .float value, second, hjson => by
      cases second with
      | int other => exact absurd (Json.number.inj hjson) (htexts.ne_ofInt value other)
      | float other => rw [htexts.injective (Json.number.inj hjson)]
      | _ => cases hjson
  | .str value, second, hjson => by cases second <;> first | cases hjson; rfl | cases hjson
  | .list items, second, hjson => by
      cases second with
      | list others => rw [eq_of_toJsonItems_eq htexts (Json.array.inj hjson)]
      | _ => cases hjson
  | .dict items, second, hjson => by
      cases second with
      | dict others => rw [eq_of_toJsonMembers_eq htexts (Json.object.inj hjson)]
      | _ => cases hjson

theorem eq_of_toJsonItems_eq (htexts : FloatTexts floatText) : ∀ {items others : List PyValue},
    toJsonItems floatText items = toJsonItems floatText others → items = others
  | [], others, hjson => by
      cases others with
      | nil => rfl
      | cons other others => cases hjson
  | item :: items, others, hjson => by
      cases others with
      | nil => cases hjson
      | cons other others =>
          obtain ⟨hitem, hrest⟩ := List.cons.inj hjson
          rw [eq_of_toJson_eq htexts hitem, eq_of_toJsonItems_eq htexts hrest]

theorem eq_of_toJsonMembers_eq (htexts : FloatTexts floatText) :
    ∀ {items others : List (String × PyValue)},
      toJsonMembers floatText items = toJsonMembers floatText others → items = others
  | [], others, hjson => by
      cases others with
      | nil => rfl
      | cons other others => cases hjson
  | (key, value) :: items, others, hjson => by
      cases others with
      | nil => cases hjson
      | cons other others =>
          obtain ⟨hmember, hrest⟩ := List.cons.inj hjson
          obtain ⟨rfl, hvalue⟩ := Prod.mk.inj hmember
          rw [eq_of_toJson_eq htexts hvalue, eq_of_toJsonMembers_eq htexts hrest]

end

end PyValue

/-! ## Texts that tell floats apart -/

theorem isDigit_of_mem_ofInt {n : ℤ} {c : Char} (hc : c ∈ (JsonNumber.ofInt n).text) :
    c.isDigit = true ∨ c = '-' := by
  have hdigits : ∀ n : ℕ, ∀ c ∈ n.repr.toList, c.isDigit = true := by
    intro n c hc
    rw [Nat.toList_repr] at hc
    exact Nat.isDigit_of_mem_toDigits (by decide) (by decide) hc
  cases n with
  | ofNat n => exact .inl (hdigits n c hc)
  | negSucc n =>
      rcases List.mem_cons.mp hc with rfl | hc
      · exact .inr rfl
      · exact .inl (hdigits (n + 1) c hc)

/-- A number as a fraction. -/
def fractionText (value : ℚ) : List Char :=
  (JsonNumber.ofInt value.num).text ++ '/' :: value.den.repr.toList

theorem fractionText_injective {value other : ℚ} (htext : fractionText value = fractionText other) :
    value = other := by
  have hsplit : ∀ value : ℚ, (fractionText value).takeWhile (· ≠ '/') =
      (JsonNumber.ofInt value.num).text := by
    intro value
    have hnum : ∀ c ∈ (JsonNumber.ofInt value.num).text, decide (c ≠ '/') = true := by
      intro c hc
      rcases isDigit_of_mem_ofInt hc with hdigit | rfl
      · refine decide_eq_true ?_
        rintro rfl
        cases hdigit
      · rfl
    rw [fractionText, List.takeWhile_append_of_pos hnum]
    simp
  have hnum : (JsonNumber.ofInt value.num).text = (JsonNumber.ofInt other.num).text := by
    rw [← hsplit, htext, hsplit]
  have hden := htext
  rw [fractionText, fractionText, hnum] at hden
  have hden := (List.cons.inj (List.append_cancel_left hden)).2
  exact Rat.ext (JsonNumber.ofInt_injective hnum) (JsonNumber.nat_repr_injective hden)

theorem slash_mem_fractionText (value : ℚ) : '/' ∈ fractionText value :=
  List.mem_append_right _ List.mem_cons_self

/-- A text for every float. -/
def exactFloatText : PyFloat → JsonNumber
  | .finite value =>
      { text := fractionText value
        starts := by
          obtain ⟨first, rest, htext, hstarts⟩ := (JsonNumber.ofInt value.num).starts
          exact ⟨first, rest ++ '/' :: value.den.repr.toList, by rw [fractionText, htext]; rfl,
            hstarts⟩
        inside := by
          intro c hc
          rcases List.mem_append.mp hc with hc | hc
          · exact (JsonNumber.ofInt value.num).inside c hc
          · rcases List.mem_cons.mp hc with rfl | hc
            · decide
            · exact JsonNumber.natText_inside value.den c hc }
  | .infinity false =>
      { text := "Infinity".toList, starts := ⟨'I', _, rfl, by decide⟩,
        inside := forall_mem_of_all (by decide) }
  | .infinity true =>
      { text := "-Infinity".toList, starts := ⟨'-', _, rfl, by decide⟩,
        inside := forall_mem_of_all (by decide) }
  | .nan =>
      { text := "NaN".toList, starts := ⟨'N', _, rfl, by decide⟩,
        inside := forall_mem_of_all (by decide) }

theorem slash_mem_exactFloatText {value : PyFloat} :
    '/' ∈ (exactFloatText value).text ↔ ∃ number, value = .finite number := by
  rcases value with value | ⟨_ | _⟩ | _
  · exact ⟨fun _ => ⟨value, rfl⟩, fun _ => slash_mem_fractionText value⟩
  all_goals
    refine ⟨fun hslash => absurd hslash (by decide), ?_⟩
    rintro ⟨number, hnumber⟩
    cases hnumber

theorem floatTexts_exact : FloatTexts exactFloatText where
  injective := by
    intro value other hsame
    have hfinite := @slash_mem_exactFloatText value
    rw [hsame, slash_mem_exactFloatText] at hfinite
    by_cases hvalue : ∃ number, value = .finite number
    · obtain ⟨number', rfl⟩ := hfinite.mpr hvalue
      obtain ⟨number, rfl⟩ := hvalue
      rw [fractionText_injective (congrArg JsonNumber.text hsame)]
    · have hother := mt hfinite.mp hvalue
      have htext := congrArg JsonNumber.text hsame
      rcases value with value | ⟨_ | _⟩ | _ <;> rcases other with other | ⟨_ | _⟩ | _ <;>
        first | rfl | exact absurd ⟨_, rfl⟩ hvalue | exact absurd ⟨_, rfl⟩ hother |
          exact absurd htext (by decide)
  ne_ofInt value n hsame := by
    have hmark : ∃ c ∈ (exactFloatText value).text, c.isDigit = false ∧ c ≠ '-' := by
      rcases value with value | ⟨_ | _⟩ | _
      · exact ⟨'/', slash_mem_fractionText value, rfl, by decide⟩
      · exact ⟨'I', by decide, rfl, by decide⟩
      · exact ⟨'I', by decide, rfl, by decide⟩
      · exact ⟨'N', by decide, rfl, by decide⟩
    obtain ⟨c, hc, hdigit, hsign⟩ := hmark
    rw [hsame] at hc
    rcases isDigit_of_mem_ofInt hc with hc | rfl
    · cases hdigit.symm.trans hc
    · exact hsign rfl

/-! ## Canonical bytes -/

theorem getValue_mapping {fields : OrderedDict.Fields String PyValue} {key : String}
    {value : PyValue} (hvalue : OrderedDict.fieldValue key fields.entries = some value) :
    fields.mapping.getValue key = value := by
  rw [OrderedDict.getValue, OrderedDict.Fields.get?_mapping, hvalue]
  rfl

/-- A mapping that is written with its fields has distinct keys. -/
theorem PyValue.distinct_mapping {fields : OrderedDict.Fields String PyValue}
    (hfields : ∀ field ∈ fields.entries, ∀ value ∈ field.2, value.Distinct) :
    (PyValue.dict fields.mapping.items).Distinct := by
  refine distinct_dict.mpr ⟨fields.mapping.nodup, fun item hitem => ?_⟩
  obtain ⟨field, hfield, hpresent⟩ := List.mem_filterMap.mp (OrderedDict.mem_of_mem_ofList hitem)
  obtain ⟨value, hvalue, rfl⟩ := Option.map_eq_some_iff.mp hpresent
  exact hfields field hfield value hvalue

/-- `json.dumps` of the value with sorted keys, in the compact style, as UTF-8. -/
def canonicalJsonBytes (floatText : PyFloat → JsonNumber) (value : PyValue) : ByteArray :=
  jsonDumpsBytes compactStyle ((canonicalizeJson value).toJson floatText)

/-- Canonical bytes determine a value up to the order of keys. -/
theorem canonicalJsonBytes_eq_iff {floatText : PyFloat → JsonNumber} (htexts : FloatTexts floatText)
    {value other : PyValue} (hvalue : value.Distinct) (hother : other.Distinct) :
    canonicalJsonBytes floatText value = canonicalJsonBytes floatText other ↔
      value.SameValue other := by
  rw [← canonicalizeJson_eq_iff hvalue hother]
  constructor
  · intro hbytes
    exact PyValue.eq_of_toJson_eq htexts (jsonDumpsBytes_injective hbytes)
  · intro hcanonical
    rw [canonicalJsonBytes, hcanonical, canonicalJsonBytes]

end PaybondKit
