import PaybondKit.Foundation.JsonCharacters
import PaybondKit.Receipt.Sep2828
import PaybondKit.Receipt.X402Evidence

/-!
# Attestations from SEP-2828 records

An attestation is made with a copy of the stripping that keeps asserted blocks that are no
objects, and of `json.dumps` that escapes everything beyond ASCII. Its digest is the one that
was verified exactly where neither makes a difference.
-/

namespace PaybondKit.Receipt.Sep2828

open Agent (PyExc)
open X402 (Filled X402Platform partnerRecordDigestSha256Hex)

/-- What a field leaves in the record that is attested. -/
def attestedField (key : String) (value : PyValue) : Option PyValue :=
  if key ∈ signatureKeys then none
  else if key ∈ assertedBlocks then
    match readObject value with
    | none => some value
    | some asserted =>
        let stripped := unsignedFields asserted
        if stripped.items.isEmpty then none else some (.dict stripped.items)
  else some value

/-- `_strip_sep2828_signature_fields`. -/
def stripSep2828SignatureFields (record : Mapping) : Mapping :=
  .ofList (OrderedDict.presentItems (record.mapValues attestedField).items)

structure ExternalAttestation where
  source : String
  kind : String
  digestSha256Hex : String
  referenceId : Option Filled

/-- The digest that both records link back to. -/
def attestedReference (decision : Mapping) : Option Filled := do
  let backLink ← readObject (decision.getValue "backLink")
  let digest ← X402.filled (backLink.getValue "attestationDigest")
  X402.filled (.str (stripDigestPrefix digest.val))

section Attestations

variable (platform : X402Platform)

def externalAttestation (kind : String) (record : Mapping) (referenceId : Option Filled) :
    ExternalAttestation where
  source := "sep2828_mcp"
  kind := kind
  digestSha256Hex :=
    partnerRecordDigestSha256Hex platform (.dict (stripSep2828SignatureFields record).items)
  referenceId := referenceId

def sep2828RecordsToExternalAttestations (native : Bool) (decision outcome : Mapping) :
    Except PyExc (List ExternalAttestation) := do
  verifySep2828ReceiptPair platform.toPlatform native decision outcome
  let referenceId := attestedReference decision
  return [externalAttestation platform "decision_record" decision referenceId,
    externalAttestation platform "outcome_record" outcome referenceId]

end Attestations

/-! ## Escapes -/

/-- What ASCII texts are made of. The last character is escaped in them. -/
def Printable (c : Char) : Prop := c.toNat < 0x7f

instance : DecidablePred Printable := fun c => inferInstanceAs (Decidable (c.toNat < 0x7f))

theorem printable_unicodeEscape (n : ℕ) : ∀ d ∈ unicodeEscape n, Printable d := by
  have hdigits : ∀ i < 16, Printable (Nat.digitChar i) := by decide
  have hdigit : ∀ i : ℕ, Printable (Nat.digitChar (i % 16)) :=
    fun i => hdigits _ (Nat.mod_lt _ (by decide))
  simp only [unicodeEscape, List.forall_mem_cons, hdigit, true_and]
  exact ⟨by decide, by decide, fun _ hnil => absurd hnil List.not_mem_nil⟩

theorem printable_shortEscape {c letter : Char} (hc : shortEscape c = some letter) :
    Printable c ∧ ∀ d ∈ ['\\', letter], Printable d := by
  have hescapes : ∀ escape ∈ shortEscapes,
      Printable escape.1 ∧ Printable escape.2 := by
    decide
  obtain ⟨hchar, hletter⟩ := hescapes _ (mem_shortEscapes hc)
  refine ⟨hchar, List.forall_mem_cons.mpr ⟨by decide, ?_⟩⟩
  exact List.forall_mem_singleton.mpr hletter

theorem printable_escapeAscii (c : Char) : ∀ d ∈ escapeAscii c, Printable d := by
  unfold escapeAscii
  cases hshort : shortEscape c with
  | some letter => exact (printable_shortEscape hshort).2
  | none =>
      dsimp only
      split
      next hprintable =>
        refine List.forall_mem_singleton.mpr ?_
        unfold Printable
        omega
      next =>
        split
        next => exact printable_unicodeEscape _
        next =>
          exact List.forall_mem_append.mpr ⟨printable_unicodeEscape _, printable_unicodeEscape _⟩

/-- Other scripts are printed as they are. -/
theorem printable_escapeControl (c : Char) :
    (∀ d ∈ escapeControl c, Printable d) ↔ Printable c := by
  rcases escapeControl_cases c with ⟨letter, hshort, hescape⟩ | ⟨hcontrol, hescape⟩ | ⟨-, -, hescape⟩
  · rw [hescape]
    exact iff_of_true (printable_shortEscape hshort).2 (printable_shortEscape hshort).1
  · rw [hescape]
    exact iff_of_true (printable_unicodeEscape _) (by unfold Printable; omega)
  · rw [hescape, List.forall_mem_singleton]

theorem escapeControl_eq_escapeAscii {c : Char} (hc : Printable c) :
    escapeControl c = escapeAscii c := by
  unfold Printable at hc
  unfold escapeControl escapeAscii
  cases shortEscape c with
  | some letter => rfl
  | none =>
      dsimp only
      by_cases hcontrol : c.toNat < 0x20
      · rw [if_pos hcontrol, if_neg (by omega), if_pos (by omega)]
      · rw [if_neg hcontrol, if_pos (by omega)]

/-! ## Two texts of one value -/

theorem good_printable {style : JsonStyle} (hitem : style.itemSeparator = [','])
    (hkey : style.keySeparator = [':']) : Json.GoodSeparators style Printable where
  itemSeparator := by
    rw [hitem]
    exact forall_mem_of_all (by decide)
  keySeparator := by
    rw [hkey]
    exact forall_mem_of_all (by decide)
  fixed := forall_mem_of_all (by decide)

/-- Floats are printed in ASCII. -/
def PrintableTexts (floatText : PyFloat → JsonNumber) : Prop :=
  ∀ value, ∀ c ∈ (floatText value).text, Printable c

theorem printable_ofInt {n : ℤ} {c : Char} (hc : c ∈ (JsonNumber.ofInt n).text) : Printable c := by
  rcases isDigit_of_mem_ofInt hc with hdigit | rfl
  · have hle : c.toNat ≤ '9'.toNat := by
      simp only [Char.isDigit, Bool.and_eq_true, decide_eq_true_eq] at hdigit
      exact hdigit.2
    exact lt_of_le_of_lt hle (by decide)
  · decide

theorem printable_token {floatText : PyFloat → JsonNumber} (hfloats : PrintableTexts floatText)
    {token : JsonNumber} (htoken : PyValue.IsToken floatText token) :
    ∀ c ∈ token.text, Printable c := by
  rcases htoken with ⟨n, rfl⟩ | ⟨value, rfl⟩
  · intro c hc
    exact printable_ofInt hc
  · exact hfloats value

/-- The text that escapes other scripts is the text of a value that keeps them exactly when it
is the text of that value and there are none. -/
theorem jsonDumpsBytes_ascii_eq_iff {floatText : PyFloat → JsonNumber}
    (htexts : FloatTexts floatText) (hfloats : PrintableTexts floatText)
    {attested signed : PyValue} :
    jsonDumpsBytes Policy.asciiCompactStyle (attested.toJson floatText) =
        jsonDumpsBytes compactStyle (signed.toJson floatText) ↔
      attested = signed ∧ ∀ c ∈ signed.characters, Printable c := by
  have hsigned : (∀ d ∈ (signed.toJson floatText).print compactStyle, Printable d) ↔
      ∀ c ∈ signed.characters, Printable c := by
    have htokens : ∀ token ∈ (signed.toJson floatText).tokens, ∀ d ∈ token.text, Printable d :=
      fun token htoken => printable_token hfloats (PyValue.tokens_toJson signed token htoken)
    rw [Json.forall_mem_print (good_printable rfl rfl), PyValue.characters_toJson,
      and_iff_left htokens]
    exact forall₂_congr fun c _ => printable_escapeControl c
  have hattested : ∀ d ∈ (attested.toJson floatText).print Policy.asciiCompactStyle,
      Printable d := by
    refine (Json.forall_mem_print (good_printable rfl rfl) _).mpr ⟨?_, ?_⟩
    · exact fun c _ => printable_escapeAscii c
    · exact fun token htoken => printable_token hfloats (PyValue.tokens_toJson attested token htoken)
  have hcongr : (∀ c ∈ signed.characters, Printable c) →
      (signed.toJson floatText).print compactStyle =
        (signed.toJson floatText).print Policy.asciiCompactStyle := by
    intro hprintable
    have hseparators : Json.SameSeparators compactStyle Policy.asciiCompactStyle := ⟨rfl, rfl⟩
    refine Json.print_congr hseparators _ ?_
    rw [PyValue.characters_toJson]
    exact fun c hc => escapeControl_eq_escapeAscii (hprintable c hc)
  constructor
  · intro hbytes
    have htext := print_eq_of_jsonDumpsBytes hbytes
    have hprintable := hsigned.mp (htext ▸ hattested)
    rw [hcongr hprintable] at htext
    have hjson := Json.print_injective Policy.readable_asciiCompactStyle htext
    exact ⟨PyValue.eq_of_toJson_eq htexts hjson, hprintable⟩
  · rintro ⟨rfl, hprintable⟩
    rw [jsonDumpsBytes, jsonDumpsBytes, hcongr hprintable]

/-! ## Two copies of the stripping -/

/-- Asserted blocks are objects. -/
def BlocksAreObjects (record : Mapping) : Prop :=
  ∀ item ∈ record.items, item.1 ∈ assertedBlocks → ∃ fields, item.2 = .dict fields

theorem attestedField_eq {key : String} {value : PyValue}
    (hblock : key ∈ assertedBlocks → ∃ fields, value = .dict fields) :
    attestedField key value = strippedField key value := by
  unfold attestedField strippedField
  by_cases hsignature : key ∈ signatureKeys
  · rw [if_pos hsignature, if_pos hsignature]
  · rw [if_neg hsignature, if_neg hsignature]
    by_cases hasserted : key ∈ assertedBlocks
    · obtain ⟨fields, rfl⟩ := hblock hasserted
      rfl
    · rw [if_neg hasserted, if_neg hasserted]

theorem stripSep2828_eq {record : Mapping} (hrecord : BlocksAreObjects record) :
    stripSep2828SignatureFields record = stripSignatureFields record := by
  have hfields : (record.mapValues attestedField).items = (record.mapValues strippedField).items :=
    List.map_congr_left fun item hitem => by rw [attestedField_eq (hrecord item hitem)]
  rw [stripSep2828SignatureFields, hfields, stripSignatureFields]

/-- What a record is stripped to has the fields that leave something. -/
theorem mem_keys_stripped {record : Mapping} {strip : String → PyValue → Option PyValue}
    {key : String} :
    key ∈ (OrderedDict.ofList
        (OrderedDict.presentItems (record.mapValues strip).items)).items.map Prod.fst ↔
      ∃ value, (key, value) ∈ record.items ∧ (strip key value).isSome := by
  have hnodup := (record.mapValues strip).nodup.sublist (OrderedDict.presentItems_sublist _)
  rw [OrderedDict.items_ofList hnodup]
  simp only [OrderedDict.mapValues]
  constructor
  · intro hkey
    obtain ⟨item, hitem, rfl⟩ := List.mem_map.mp hkey
    obtain ⟨field, hfield, hpresent⟩ := List.mem_filterMap.mp hitem
    obtain ⟨stored, hstored, rfl⟩ := List.mem_map.mp hfield
    obtain ⟨value, hvalue, rfl⟩ := Option.map_eq_some_iff.mp hpresent
    exact ⟨stored.2, hstored, Option.isSome_iff_exists.mpr ⟨value, hvalue⟩⟩
  · rintro ⟨value, hitem, hsome⟩
    obtain ⟨stripped, hstripped⟩ := Option.isSome_iff_exists.mp hsome
    refine List.mem_map.mpr ⟨(key, stripped), List.mem_filterMap.mpr ⟨(key, strip key value), ?_, ?_⟩,
      rfl⟩
    · exact List.mem_map.mpr ⟨(key, value), hitem, rfl⟩
    · simp [hstripped]

/-- A block that is no object is left in the attested record only. -/
theorem blocksAreObjects_of_keys {record : Mapping}
    (hkeys : (stripSep2828SignatureFields record).items.map Prod.fst ⊆
      (stripSignatureFields record).items.map Prod.fst) : BlocksAreObjects record := by
  rintro ⟨key, value⟩ hitem hasserted
  have hsignature : key ∉ signatureKeys := by
    have hdisjoint : ∀ block ∈ assertedBlocks, block ∉ signatureKeys := by decide
    exact hdisjoint key hasserted
  by_contra hobject
  have hbare : readObject value = none := by
    cases value with
    | dict fields => exact absurd ⟨fields, rfl⟩ hobject
    | _ => rfl
  have hattested : attestedField key value = some value := by
    rw [attestedField, if_neg hsignature, if_pos hasserted, hbare]
  obtain ⟨value', hitem', hsome⟩ := mem_keys_stripped.mp
    (hkeys (mem_keys_stripped.mpr ⟨value, hitem, by rw [hattested]; rfl⟩))
  obtain rfl := record.value_unique hitem hitem'
  rw [strippedField, if_neg hsignature, if_pos hasserted, hbare] at hsome
  cases hsome

theorem keys_of_canonicalizeJson {items others : List (String × PyValue)}
    (hsame : Policy.canonicalizeJson (.dict items) = Policy.canonicalizeJson (.dict others)) :
    items.map Prod.fst ⊆ others.map Prod.fst := by
  have hkeys : ∀ (members : List (String × PyValue)) (key : String),
      key ∈ (Policy.sortMembers (members.map fun item =>
          (item.1, Policy.canonicalizeJson item.2))).map Prod.fst ↔
        key ∈ members.map Prod.fst := by
    intro members key
    rw [((Policy.sortMembers_perm _).map Prod.fst).mem_iff, List.map_map]
    rfl
  rw [Policy.canonicalizeJson_dict, Policy.canonicalizeJson_dict] at hsame
  intro key hkey
  rw [← hkeys, ← PyValue.dict.inj hsame]
  exact (hkeys items key).mpr hkey

theorem canonicalizeJson_strip_iff {record : Mapping} :
    Policy.canonicalizeJson (.dict (stripSep2828SignatureFields record).items) =
        Policy.canonicalizeJson (.dict (stripSignatureFields record).items) ↔
      BlocksAreObjects record := by
  constructor
  · intro hsame
    exact blocksAreObjects_of_keys (keys_of_canonicalizeJson hsame)
  · intro hrecord
    rw [stripSep2828_eq hrecord]

/-! ## Characters of a record -/

theorem mem_characters_canonicalizeJson {value : PyValue} {c : Char} :
    c ∈ (Policy.canonicalizeJson value).characters ↔ c ∈ value.characters := by
  induction value using PyValue.treeInduction with
  | leaf leaf hleaf => rw [Policy.canonicalizeJson_leaf hleaf]
  | list items ih =>
      rw [Policy.canonicalizeJson, Policy.canonicalizeItems_eq, PyValue.mem_characters_list,
        PyValue.mem_characters_list]
      constructor
      · rintro ⟨canonical, hcanonical, hc⟩
        obtain ⟨item, hitem, rfl⟩ := List.mem_map.mp hcanonical
        exact ⟨item, hitem, (ih item hitem).mp hc⟩
      · rintro ⟨item, hitem, hc⟩
        exact ⟨_, List.mem_map_of_mem hitem, (ih item hitem).mpr hc⟩
  | dict items ih =>
      rw [Policy.canonicalizeJson_dict, PyValue.mem_characters_dict, PyValue.mem_characters_dict]
      constructor
      · rintro ⟨canonical, hcanonical, hc⟩
        obtain ⟨item, hitem, rfl⟩ :=
          List.mem_map.mp ((Policy.sortMembers_perm _).mem_iff.mp hcanonical)
        exact ⟨item, hitem, hc.imp_right (ih item hitem).mp⟩
      · rintro ⟨item, hitem, hc⟩
        exact ⟨(item.1, Policy.canonicalizeJson item.2),
          (Policy.sortMembers_perm _).mem_iff.mpr (List.mem_map.mpr ⟨item, hitem, rfl⟩),
          hc.imp_right (ih item hitem).mpr⟩

/-- Without its signatures, a record is written in printable ASCII. -/
def AsciiRecord (record : Mapping) : Prop :=
  ∀ c ∈ (PyValue.dict (removeSignatures record).items).characters, Printable c

instance (record : Mapping) : Decidable (AsciiRecord record) :=
  List.decidableBAll Printable (PyValue.dict (removeSignatures record).items).characters

theorem dropped_block {record : Mapping} (hrecord : BlocksAreObjects record) {key : String}
    {value : PyValue} (hitem : (key, value) ∈ (removeSignatures record).items)
    (hdropped : ¬keepsField key value = true) : key ∈ assertedBlocks ∧ value = .dict [] := by
  simp only [keepsField, Bool.or_eq_true, decide_eq_true_eq, not_or, not_not] at hdropped
  obtain ⟨hasserted, hfilled⟩ := hdropped
  obtain ⟨⟨key', stored⟩, hstored, hunsigned⟩ := List.mem_map.mp hitem
  obtain ⟨rfl, rfl⟩ := Prod.mk.inj hunsigned
  obtain ⟨fields, rfl⟩ := hrecord _ (List.mem_filter.mp hstored).1 hasserted
  refine ⟨hasserted, ?_⟩
  simp only [unsignedValue, if_pos hasserted, filledObject, Bool.not_eq_true',
    Bool.not_eq_false] at hfilled ⊢
  rw [List.isEmpty_iff.mp hfilled]

/-- Empty blocks are left out of the record that is signed, and have nothing but their names. -/
theorem asciiRecord_iff {record : Mapping} (hrecord : BlocksAreObjects record) :
    (∀ c ∈ (PyValue.dict (stripSignatureFields record).items).characters, Printable c) ↔
      AsciiRecord record := by
  rw [stripSignatureFields_eq, AsciiRecord]
  simp only [PyValue.mem_characters_dict]
  constructor
  · rintro hstripped c ⟨⟨key, value⟩, hitem, hc⟩
    by_cases hkeeps : keepsField key value = true
    · exact hstripped c ⟨(key, value), List.mem_filter.mpr ⟨hitem, hkeeps⟩, hc⟩
    · obtain ⟨hasserted, hempty⟩ := dropped_block hrecord hitem hkeeps
      have hnames : ∀ block ∈ assertedBlocks, block.toList.all (fun c => decide (Printable c)) := by
        decide +kernel
      rcases hc with hc | hc
      · exact forall_mem_of_all (hnames key hasserted) c hc
      · rw [hempty] at hc
        cases hc
  · rintro hall c ⟨item, hitem, hc⟩
    exact hall c ⟨item, (List.mem_filter.mp hitem).1, hc⟩

/-! ## Digests -/

section Agree

variable {platform : X402Platform}

/-- What the digest of an attestation is taken of. -/
def attestedBytes (platform : X402Platform) (record : Mapping) : ByteArray :=
  jsonDumpsBytes Policy.asciiCompactStyle
    ((Policy.canonicalizeJson (.dict (stripSep2828SignatureFields record).items)).toJson
      platform.floatText)

theorem attestedBytes_eq_iff (htexts : FloatTexts platform.floatText)
    (hfloats : PrintableTexts platform.floatText) {record : Mapping} :
    attestedBytes platform record = recordBytes platform.toPlatform record ↔
      BlocksAreObjects record ∧ AsciiRecord record := by
  have hbytes := @jsonDumpsBytes_ascii_eq_iff _ htexts hfloats
    (Policy.canonicalizeJson (.dict (stripSep2828SignatureFields record).items))
    (Policy.canonicalizeJson (.dict (stripSignatureFields record).items))
  simp only [mem_characters_canonicalizeJson, canonicalizeJson_strip_iff] at hbytes
  rw [attestedBytes, recordBytes, canonicalJsonBytes, hbytes]
  exact and_congr_right asciiRecord_iff

/-- The two texts of a record do not collide. -/
def RecordCollisionFree (platform : X402Platform) (record : Mapping) : Prop :=
  platform.sha256Hex (attestedBytes platform record) =
      platform.sha256Hex (recordBytes platform.toPlatform record) →
    attestedBytes platform record = recordBytes platform.toPlatform record

theorem attestedDigest_eq_iff (htexts : FloatTexts platform.floatText)
    (hfloats : PrintableTexts platform.floatText) {record : Mapping}
    (hcollision : RecordCollisionFree platform record) (kind : String)
    (referenceId : Option Filled) :
    (externalAttestation platform kind record referenceId).digestSha256Hex =
        recordContentDigestHex platform.toPlatform record ↔
      BlocksAreObjects record ∧ AsciiRecord record := by
  rw [← attestedBytes_eq_iff htexts hfloats]
  constructor
  · intro hdigest
    exact hcollision hdigest
  · intro hbytes
    exact congrArg platform.sha256Hex hbytes

/-- The attestations of an accepted pair carry the digests that were verified exactly when the
asserted blocks of a record are objects and the record is written in printable ASCII. -/
theorem attestations_agree_iff (hhex : platform.HexDigests)
    (htexts : FloatTexts platform.floatText) (hfloats : PrintableTexts platform.floatText)
    {native : Bool} {decision outcome : Mapping}
    (hdecision : RecordCollisionFree platform decision)
    (houtcome : RecordCollisionFree platform outcome)
    (hverify : verifySep2828ReceiptPair platform.toPlatform native decision outcome = .ok ()) :
    ∃ decisionAttestation outcomeAttestation,
      sep2828RecordsToExternalAttestations platform native decision outcome =
        .ok [decisionAttestation, outcomeAttestation] ∧
      (∃ derived field, readObject (outcome.getValue "outcomeDerived") = some derived ∧
        filledText (derived.getValue "decisionDigest") = some field ∧
          stripDigestPrefix field = recordContentDigestHex platform.toPlatform decision) ∧
      (decisionAttestation.digestSha256Hex = recordContentDigestHex platform.toPlatform decision ↔
        BlocksAreObjects decision ∧ AsciiRecord decision) ∧
      (outcomeAttestation.digestSha256Hex = recordContentDigestHex platform.toPlatform outcome ↔
        BlocksAreObjects outcome ∧ AsciiRecord outcome) := by
  refine ⟨externalAttestation platform "decision_record" decision (attestedReference decision),
    externalAttestation platform "outcome_record" outcome (attestedReference decision), ?_,
    decisionDigest_of_verifySep2828ReceiptPair hhex hverify,
    attestedDigest_eq_iff htexts hfloats hdecision _ _,
    attestedDigest_eq_iff htexts hfloats houtcome _ _⟩
  rw [sep2828RecordsToExternalAttestations, hverify, except_ok_bind]
  rfl

end Agree

/-! ## A record beyond ASCII -/

section Noted

/-- A platform on which one text has the digest that the outcome names. -/
def platformSigning (signed : ByteArray) : X402Platform :=
  { X402.platformPaid with
    toPlatform :=
      { platformPaired with
        sha256Hex := fun bytes =>
          if bytes = signed then pairedDigest else String.ofList (List.replicate 64 '1') } }

theorem printableTexts_exact : PrintableTexts exactFloatText := by
  intro value c hc
  rcases value with value | ⟨_ | _⟩ | _
  · rcases List.mem_append.mp hc with hnum | hden
    · exact printable_ofInt hnum
    · rcases List.mem_cons.mp hden with rfl | hden
      · decide
      · exact printable_ofInt (n := Int.ofNat value.den) hden
  all_goals exact @forall_mem_of_all Char Printable _ _ (by decide) c hc

theorem hexDigests_signing (signed : ByteArray) : (platformSigning signed).HexDigests := by
  intro bytes
  change hex64Re (if bytes = signed then pairedDigest else _) = true
  split <;> decide +kernel

theorem acceptsAll_signing (signed : ByteArray) : AcceptsAll (platformSigning signed).toPlatform :=
  fun _ _ _ => rfl

/-- A decision with a note. -/
def decisionNoting (note : String) : Mapping :=
  (signedRecord none (some (.dict [("note", .str note)]))).mapping

/-- The platform on which the outcome is paired with that decision. -/
def platformNoting (note : String) : X402Platform :=
  platformSigning (recordBytes platformPaired (decisionNoting note))

theorem verifySep2828ReceiptPair_noting (note : String) :
    verifySep2828ReceiptPair (platformNoting note).toPlatform false (decisionNoting note)
      pairedOutcome = .ok () :=
  verifySep2828ReceiptPair_signed (acceptsAll_signing _) rfl (if_pos rfl)

/-- The attestation of a decision with an accent does not carry the digest that was verified. -/
theorem attestations_disagree : ¬∀ (decision outcome : Mapping) attestations,
    verifySep2828ReceiptPair (platformNoting "é").toPlatform false decision outcome = .ok () →
      sep2828RecordsToExternalAttestations (platformNoting "é") false decision outcome =
          .ok attestations →
        attestations.map ExternalAttestation.digestSha256Hex =
          [recordContentDigestHex (platformNoting "é").toPlatform decision,
            recordContentDigestHex (platformNoting "é").toPlatform outcome] := by
  intro hagree
  have hverify := verifySep2828ReceiptPair_noting "é"
  have hdigests := hagree (decisionNoting "é") pairedOutcome _ hverify
    (by rw [sep2828RecordsToExternalAttestations, hverify, except_ok_bind]; rfl)
  have haccent : ¬AsciiRecord (decisionNoting "é") := by decide +kernel
  have hbytes : attestedBytes (platformNoting "é") (decisionNoting "é") ≠
      recordBytes platformPaired (decisionNoting "é") := by
    intro hsame
    exact haccent ((attestedBytes_eq_iff floatTexts_exact printableTexts_exact).mp hsame).2
  have hattested : (platformNoting "é").sha256Hex
      (attestedBytes (platformNoting "é") (decisionNoting "é")) =
        String.ofList (List.replicate 64 '1') := if_neg hbytes
  have hsigned : recordContentDigestHex (platformNoting "é").toPlatform (decisionNoting "é") =
      pairedDigest := if_pos rfl
  have hfirst := (List.cons.inj hdigests).1
  rw [hsigned] at hfirst
  exact absurd (hattested.symm.trans hfirst) (by decide +kernel)

theorem recordCollisionFree_of_ascii {platform : X402Platform}
    (htexts : FloatTexts platform.floatText) (hfloats : PrintableTexts platform.floatText)
    {record : Mapping} (hblocks : ∀ item ∈ record.items, item.1 ∉ assertedBlocks)
    (hascii : AsciiRecord record) : RecordCollisionFree platform record :=
  fun _ => (attestedBytes_eq_iff htexts hfloats).mpr
    ⟨fun item hitem hasserted => absurd hasserted (hblocks item hitem), hascii⟩

/-- A note in ASCII is attested as it was verified. -/
theorem attestations_agree_iff_noting : ∃ decisionAttestation outcomeAttestation,
    sep2828RecordsToExternalAttestations (platformNoting "e") false (decisionNoting "e")
      pairedOutcome = .ok [decisionAttestation, outcomeAttestation] ∧
    decisionAttestation.digestSha256Hex =
      recordContentDigestHex (platformNoting "e").toPlatform (decisionNoting "e") ∧
    outcomeAttestation.digestSha256Hex =
      recordContentDigestHex (platformNoting "e").toPlatform pairedOutcome := by
  have hblocks : ∀ item ∈ (decisionNoting "e").items, item.1 ∉ assertedBlocks := by decide +kernel
  have hblocks' : ∀ item ∈ pairedOutcome.items, item.1 ∉ assertedBlocks := by decide +kernel
  have hascii : AsciiRecord (decisionNoting "e") := by decide +kernel
  have hascii' : AsciiRecord pairedOutcome := by decide +kernel
  obtain ⟨decisionAttestation, outcomeAttestation, hok, -, hdecision, houtcome⟩ :=
    attestations_agree_iff (hexDigests_signing _) floatTexts_exact printableTexts_exact
      (recordCollisionFree_of_ascii floatTexts_exact printableTexts_exact hblocks hascii)
      (recordCollisionFree_of_ascii floatTexts_exact printableTexts_exact hblocks' hascii')
      (verifySep2828ReceiptPair_noting "e")
  refine ⟨decisionAttestation, outcomeAttestation, hok, hdecision.mpr ⟨?_, hascii⟩,
    houtcome.mpr ⟨?_, hascii'⟩⟩
  · exact fun item hitem hasserted => absurd hasserted (hblocks item hitem)
  · exact fun item hitem hasserted => absurd hasserted (hblocks' item hitem)

end Noted

end PaybondKit.Receipt.Sep2828
