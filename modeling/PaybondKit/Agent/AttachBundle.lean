import PaybondKit.Foundation.Base64
import PaybondKit.Foundation.Bincode
import PaybondKit.Foundation.JsonLoads
import PaybondKit.Policy.Digest
import PaybondKit.Receipt.Hex

/-!
# Attach bundles

A bundle carries its key next to the ciphertext: an envelope of JSON in base64, with the key, the
nonce and the ciphertext in base64 again. What was sealed is opened, whatever space is around the
bundle. A bundle that was not sealed is refused with `ValueError`, except where the code uses a
value before it knows its form.
-/

namespace PaybondKit.Agent.AttachBundle

open Receipt (Mapping item asMapping)
open Policy (asciiCompactStyle isHex)

abbrev Bytes := List UInt8
abbrev Key := Bincode.ByteArrayOf 32
abbrev Nonce := Bincode.ByteArrayOf 12

/-- AES-GCM without associated data, where `none` is `InvalidTag`, and texts of values. -/
structure Platform where
  encrypt : Key → Nonce → Bytes → Bytes
  decrypt : Key → Nonce → Bytes → Option Bytes
  pyStr : PyValue → String
  floatText : PyFloat → JsonNumber
  parseFloat : List Char → PyFloat

/-- What is encrypted is decrypted, and the tag has 16 bytes. -/
structure Platform.Laws (platform : Platform) : Prop where
  decrypt_encrypt : ∀ key nonce plaintext,
    platform.decrypt key nonce (platform.encrypt key nonce plaintext) = some plaintext
  length_encrypt : ∀ key nonce plaintext,
    (platform.encrypt key nonce plaintext).length = plaintext.length + 16

def bundlePrefix : String := "ab1."

structure AttachBundlePayloadV1 where
  payeeDid : String
  payeeSigningSeedHex : String
  agentRecognitionKeyId : String
  agentRecognitionSigningSeedHex : String
  deriving DecidableEq, Repr

/-- The credentials with their seeds. -/
structure ProductionEvidence where
  payeeDid : String
  payeeSigningSeed : ByteArray
  agentRecognitionKeyId : String
  agentRecognitionSigningSeed : ByteArray

section Seeds

/-- `^[0-9a-fA-F]{64}$`. -/
def seedHexRe (text : String) : Bool := text.toList.all isHex && text.toList.length = 64

/-- `text.removeprefix("0x")`. -/
def removePrefix0x (text : String) : String :=
  match text.toList with
  | '0' :: 'x' :: digits => String.ofList digits
  | _ => text

def parseSeed32Hex (raw field : String) : Except PyExc ByteArray := do
  let hexValue := removePrefix0x (pyStrip raw)
  raiseIf (seedHexRe hexValue = false)
    (.valueError s!"{field} must be a 32-byte Ed25519 seed (64 hex characters)")
  Receipt.bytesFromHex hexValue

def productionEvidenceFromAttachBundle (payload : AttachBundlePayloadV1) :
    Except PyExc ProductionEvidence := do
  let payeeSigningSeed ← parseSeed32Hex payload.payeeSigningSeedHex "payee_signing_seed_hex"
  let agentRecognitionSigningSeed ←
    parseSeed32Hex payload.agentRecognitionSigningSeedHex "agent_recognition_signing_seed_hex"
  return { payeeDid := payload.payeeDid
           payeeSigningSeed
           agentRecognitionKeyId := payload.agentRecognitionKeyId
           agentRecognitionSigningSeed }

end Seeds

section Bundles

variable (platform : Platform)

/-- `str(value)`. -/
def Platform.str : PyValue → String
  | .str text => text
  | value => platform.pyStr value

/-- `json.dumps(fields, separators=(",", ":"))`. -/
def dumps (fields : List (String × PyValue)) : String :=
  String.ofList ((PyValue.dict fields).toJson platform.floatText |>.print asciiCompactStyle)

def utf8 (text : String) : Bytes := text.toUTF8.data.toList

/-- `urlsafe_b64encode(data).decode("ascii").rstrip("=")`. -/
def b64urlText (data : Bytes) : String :=
  String.ofList ((Base64.urlsafeEncode data).rdropWhile (· = '='))

def payloadFields (payload : AttachBundlePayloadV1) : List (String × PyValue) :=
  [("v", .int 1), ("payee_did", .str payload.payeeDid),
    ("payee_signing_seed_hex", .str payload.payeeSigningSeedHex),
    ("agent_recognition_key_id", .str payload.agentRecognitionKeyId),
    ("agent_recognition_signing_seed_hex", .str payload.agentRecognitionSigningSeedHex)]

def envelopeFields (key : Key) (nonce : Nonce) (ciphertext : Bytes) : List (String × PyValue) :=
  [("v", .int 1), ("alg", .str "aes-256-gcm"), ("k", .str (b64urlText key.val)),
    ("n", .str (b64urlText nonce.val)), ("c", .str (b64urlText ciphertext))]

/-- With the key and the nonce that are drawn for the bundle. -/
def sealAttachBundle (bundleKey : Key) (nonce : Nonce) (payload : AttachBundlePayloadV1) : String :=
  let plaintext := utf8 (dumps platform (payloadFields payload))
  let ciphertext := platform.encrypt bundleKey nonce plaintext
  bundlePrefix ++ b64urlText (utf8 (dumps platform (envelopeFields bundleKey nonce ciphertext)))

/-- A subclass of `ValueError` is raised as `ValueError`. -/
def b64urlDecode (value : String) : Except PyExc Bytes :=
  if value.toList.any fun c => 0x80 ≤ c.toNat then
    .error (.valueError "string argument should contain only ASCII characters")
  else
    match Base64.urlsafeDecode (value.toList ++ Base64.padding value.toList.length) with
    | some bytes => .ok bytes
    | none => .error (.valueError "Incorrect padding")

/-- `json.loads(data.decode("utf-8"))`. -/
def loadsUtf8 (data : Bytes) : Except PyExc PyValue :=
  match (String.fromUTF8? ⟨data.toArray⟩).bind (jsonLoads platform.parseFloat) with
  | some value => .ok value
  | none => .error (.valueError "invalid document")

/-- The envelope of a bundle, before anything is asked of it. -/
def readEnvelope (bundle : String) : Except PyExc PyValue := do
  let trimmed := (pyStrip bundle).toList
  raiseIf (bundlePrefix.toList.isPrefixOf trimmed = false)
    (.valueError s!"attach bundle must start with {bundlePrefix}")
  let encoded := String.ofList (trimmed.drop bundlePrefix.toList.length)
  match b64urlDecode encoded >>= loadsUtf8 platform with
  | .ok envelope => .ok envelope
  | .error _ => .error (.valueError "attach bundle envelope is not valid base64url JSON")

/-- `value == text`. -/
def isText (value : Option PyValue) (text : String) : Bool :=
  match value with
  | some (.str other) => other = text
  | _ => false

/-- `value == 1`. -/
def isOne (value : Option PyValue) : Bool := (value.getD .none).eqInt 1

def supported (envelope : Mapping) : Bool :=
  isOne (envelope.get? "v") && isText (envelope.get? "alg") "aes-256-gcm"

/-- `_b64url_decode(str(envelope[name]))`. -/
def memberBytes (envelope : Mapping) (name : String) : Except PyExc Bytes := do
  b64urlDecode (platform.str (← item envelope name))

def decryptWith (bundleKey nonce ciphertext : Bytes) : Except PyExc Bytes :=
  if hlengths : bundleKey.length = 32 ∧ nonce.length = 12 ∧ 16 ≤ ciphertext.length then
    match platform.decrypt ⟨bundleKey, hlengths.1⟩ ⟨nonce, hlengths.2.1⟩ ciphertext with
    | some plaintext => .ok plaintext
    | none => .error (.other "InvalidTag" "")
  else .error (.valueError "attach bundle envelope fields are malformed")

def readPayload (payload : Mapping) : Except PyExc AttachBundlePayloadV1 := do
  raiseIf (isOne (payload.get? "v") = false)
    (.valueError "attach bundle payload version must be 1")
  return { payeeDid := pyStrip (platform.str (← item payload "payee_did"))
           payeeSigningSeedHex := platform.str (← item payload "payee_signing_seed_hex")
           agentRecognitionKeyId :=
             pyStrip (platform.str (← item payload "agent_recognition_key_id"))
           agentRecognitionSigningSeedHex :=
             platform.str (← item payload "agent_recognition_signing_seed_hex") }

def openAttachBundle (bundle : String) : Except PyExc AttachBundlePayloadV1 := do
  let envelope ← asMapping "AttributeError" (← readEnvelope platform bundle)
  raiseIf (supported envelope = false) (.valueError "unsupported attach bundle envelope")
  let bundleKey ← memberBytes platform envelope "k"
  let nonce ← memberBytes platform envelope "n"
  let ciphertext ← memberBytes platform envelope "c"
  let plaintext ← decryptWith platform bundleKey nonce ciphertext
  let payload ← asMapping "AttributeError" (← loadsUtf8 platform plaintext)
  readPayload platform payload

end Bundles

/-! ## Opening what was sealed -/

/-- Space around a text without space is stripped. -/
theorem pyStrip_surrounded {front text back : String}
    (hfront : ∀ c ∈ front.toList, isPySpace c = true)
    (htext : ∀ c ∈ text.toList, isPySpace c = false)
    (hback : ∀ c ∈ back.toList, isPySpace c = true) : pyStrip (front ++ text ++ back) = text := by
  have hkept : ∀ rest : List Char, text.toList ≠ [] →
      (text.toList ++ rest).dropWhile isPySpace = text.toList ++ rest := by
    intro rest hne
    obtain ⟨c, more, hcons⟩ := List.exists_cons_of_ne_nil hne
    have hc := htext c (hcons ▸ List.mem_cons_self)
    simp [hcons, hc]
  have hkeptBack : (text.toList.reverse).dropWhile isPySpace = text.toList.reverse := by
    rw [List.dropWhile_eq_self_iff]
    intro hlength
    have hmem := List.getElem_mem hlength
    simpa using htext _ (List.mem_reverse.mp hmem)
  rw [pyStrip, String.toList_append, String.toList_append, List.append_assoc,
    List.dropWhile_append_of_pos hfront]
  by_cases hempty : text.toList = []
  · have hnone : back.toList.dropWhile isPySpace = [] := List.dropWhile_eq_nil_iff.mpr hback
    have htextEmpty : text = "" := String.toList_inj.mp (by rw [hempty]; rfl)
    rw [hempty, List.nil_append, hnone, htextEmpty]
    rfl
  · rw [hkept _ hempty, List.reverse_append, List.dropWhile_append_of_pos, hkeptBack,
      List.reverse_reverse, String.ofList_toList]
    intro c hc
    exact hback c (List.mem_reverse.mp hc)

theorem toList_b64urlText (data : Bytes) : (b64urlText data).toList = Base64.body data := by
  rw [b64urlText, String.toList_ofList, Base64.rdropWhile_urlsafeEncode]

theorem b64urlDecode_b64urlText (data : Bytes) : b64urlDecode (b64urlText data) = .ok data := by
  have hascii : ∀ c ∈ Base64.alphabet, ¬0x80 ≤ c.toNat :=
    forall_mem_of_all (by decide +kernel)
  have hnone : ((b64urlText data).toList.any fun c => 0x80 ≤ c.toNat) = false := by
    rw [toList_b64urlText, List.any_eq_false]
    intro c hc
    simpa using hascii c (Base64.mem_body hc)
  have hread := Base64.urlsafeDecode_urlsafeEncode data
  rw [Base64.urlsafeEncode] at hread
  rw [b64urlDecode, hnone, toList_b64urlText, hread]
  rfl

section Sealed

variable {platform : Platform}

theorem loadsUtf8_dumps {fields : List (String × PyValue)}
    (hintegral : (PyValue.dict fields).Integral) (hdistinct : (PyValue.dict fields).Distinct) :
    loadsUtf8 platform (utf8 (dumps platform fields)) = .ok (.dict fields) := by
  have hscanned : Scanned asciiCompactStyle :=
    scanned_escapeAscii rfl ⟨[], rfl, by simp⟩ ⟨[], rfl, by simp⟩
  have hloads := @jsonLoads_print platform.parseFloat platform.floatText _ hscanned _ hintegral
    hdistinct
  have hbytes : (⟨(utf8 (dumps platform fields)).toArray⟩ : ByteArray) =
      (dumps platform fields).toUTF8 := rfl
  rw [loadsUtf8, hbytes, fromUTF8?_toUTF8, Option.bind_some, dumps, hloads]

variable {key : Key} {nonce : Nonce} {payload : AttachBundlePayloadV1} {front back : String}

theorem raiseIf_of_not {condition : Prop} [Decidable condition] {failure : PyExc}
    (hnot : ¬condition) : raiseIf condition failure = .ok () := if_neg hnot

theorem isPySpace_sealed {c : Char}
    (hc : c ∈ (sealAttachBundle platform key nonce payload).toList) : isPySpace c = false := by
  have hprefix : ∀ c ∈ bundlePrefix.toList, isPySpace c = false :=
    forall_mem_of_all (by decide +kernel)
  have halphabet : ∀ c ∈ Base64.alphabet, isPySpace c = false :=
    forall_mem_of_all (by decide +kernel)
  rw [sealAttachBundle, String.toList_append, toList_b64urlText] at hc
  rcases List.mem_append.mp hc with hc | hc
  · exact hprefix c hc
  · exact halphabet c (Base64.mem_body hc)

theorem readEnvelope_sealed (hfront : ∀ c ∈ front.toList, isPySpace c = true)
    (hback : ∀ c ∈ back.toList, isPySpace c = true) :
    readEnvelope platform (front ++ sealAttachBundle platform key nonce payload ++ back) =
      .ok (.dict (envelopeFields key nonce
        (platform.encrypt key nonce (utf8 (dumps platform (payloadFields payload)))))) := by
  have hstrip := pyStrip_surrounded hfront
    (fun c hc => @isPySpace_sealed platform key nonce payload c hc) hback
  have hstarts : bundlePrefix.toList.isPrefixOf
      (sealAttachBundle platform key nonce payload).toList = true := by
    rw [sealAttachBundle, String.toList_append, List.isPrefixOf_iff_prefix]
    exact List.prefix_append _ _
  have hencoded : (sealAttachBundle platform key nonce payload).toList.drop
      bundlePrefix.toList.length = (b64urlText (utf8 (dumps platform (envelopeFields key nonce
        (platform.encrypt key nonce
          (utf8 (dumps platform (payloadFields payload)))))))).toList := by
    rw [sealAttachBundle, String.toList_append, List.drop_left]
  unfold readEnvelope
  rw [hstrip]
  dsimp only
  rw [hstarts, raiseIf_of_not (by simp), except_ok_bind, hencoded, String.ofList_toList,
    b64urlDecode_b64urlText, except_ok_bind, loadsUtf8_dumps]
  · exact ⟨trivial, trivial, trivial, trivial, trivial, trivial⟩
  · exact ⟨by simp [envelopeFields], trivial, trivial, trivial, trivial, trivial, trivial⟩

theorem item_ofList {fields : List (String × PyValue)} (hnodup : (fields.map Prod.fst).Nodup)
    {name : String} {value : PyValue} (hfield : (name, value) ∈ fields) :
    item (.ofList fields) name = .ok value := by
  have hfound : (OrderedDict.ofList fields).get? name = some value :=
    OrderedDict.get?_ofList_of_mem hnodup hfield
  rw [item, hfound]

theorem memberBytes_sealed {fields : List (String × PyValue)}
    (hnodup : (fields.map Prod.fst).Nodup) {name : String} {data : Bytes}
    (hfield : (name, .str (b64urlText data)) ∈ fields) :
    memberBytes platform (.ofList fields) name = .ok data := by
  rw [memberBytes, item_ofList hnodup hfield, except_ok_bind, Platform.str,
    b64urlDecode_b64urlText]

theorem supported_envelopeFields (ciphertext : Bytes) :
    supported (.ofList (envelopeFields key nonce ciphertext)) = true := by
  have hkeys : ((envelopeFields key nonce ciphertext).map Prod.fst).Nodup := by
    simp [envelopeFields]
  have hversion := @OrderedDict.get?_ofList_of_mem _ _ _ _ hkeys ("v", .int 1)
    (by simp [envelopeFields])
  have halg := @OrderedDict.get?_ofList_of_mem _ _ _ _ hkeys ("alg", .str "aes-256-gcm")
    (by simp [envelopeFields])
  dsimp only at hversion halg
  rw [supported, hversion, halg]
  decide

theorem decryptWith_encrypt {plaintext : Bytes} (hlaws : platform.Laws) :
    decryptWith platform key.val nonce.val (platform.encrypt key nonce plaintext) =
      .ok plaintext := by
  have hlengths : key.val.length = 32 ∧ nonce.val.length = 12 ∧
      16 ≤ (platform.encrypt key nonce plaintext).length := by
    refine ⟨key.property, nonce.property, ?_⟩
    rw [hlaws.length_encrypt]
    omega
  rw [decryptWith, dif_pos hlengths, hlaws.decrypt_encrypt]

theorem readPayload_payloadFields :
    readPayload platform (.ofList (payloadFields payload)) =
      .ok { payload with
        payeeDid := pyStrip payload.payeeDid
        agentRecognitionKeyId := pyStrip payload.agentRecognitionKeyId } := by
  have hkeys : ((payloadFields payload).map Prod.fst).Nodup := by simp [payloadFields]
  have hversion := @OrderedDict.get?_ofList_of_mem _ _ _ _ hkeys ("v", .int 1)
    (by simp [payloadFields])
  dsimp only at hversion
  have hone : isOne (some (.int 1)) = true := by decide
  have hdid : item (.ofList (payloadFields payload)) "payee_did" = .ok (.str payload.payeeDid) :=
    item_ofList hkeys (by simp [payloadFields])
  have hseed : item (.ofList (payloadFields payload)) "payee_signing_seed_hex" =
      .ok (.str payload.payeeSigningSeedHex) := item_ofList hkeys (by simp [payloadFields])
  have hkeyId : item (.ofList (payloadFields payload)) "agent_recognition_key_id" =
      .ok (.str payload.agentRecognitionKeyId) := item_ofList hkeys (by simp [payloadFields])
  have hkeySeed : item (.ofList (payloadFields payload)) "agent_recognition_signing_seed_hex" =
      .ok (.str payload.agentRecognitionSigningSeedHex) :=
    item_ofList hkeys (by simp [payloadFields])
  rw [readPayload, hversion, hone, raiseIf_of_not (by simp), except_ok_bind, hdid, except_ok_bind,
    hseed, except_ok_bind, hkeyId, except_ok_bind, hkeySeed, except_ok_bind]
  rfl

/-- What was sealed is opened, with its texts stripped. -/
theorem open_seal (hlaws : platform.Laws) (hfront : ∀ c ∈ front.toList, isPySpace c = true)
    (hback : ∀ c ∈ back.toList, isPySpace c = true) :
    openAttachBundle platform (front ++ sealAttachBundle platform key nonce payload ++ back) =
      .ok { payload with
        payeeDid := pyStrip payload.payeeDid
        agentRecognitionKeyId := pyStrip payload.agentRecognitionKeyId } := by
  have henvelope := @readEnvelope_sealed platform key nonce payload front back hfront hback
  obtain ⟨ciphertext, hciphertext⟩ : ∃ ciphertext, ciphertext =
      platform.encrypt key nonce (utf8 (dumps platform (payloadFields payload))) := ⟨_, rfl⟩
  have hkeys : ((envelopeFields key nonce ciphertext).map Prod.fst).Nodup := by
    simp [envelopeFields]
  have hkey : memberBytes platform (.ofList (envelopeFields key nonce ciphertext)) "k" =
      .ok key.val := memberBytes_sealed hkeys (by simp [envelopeFields])
  have hnonce : memberBytes platform (.ofList (envelopeFields key nonce ciphertext)) "n" =
      .ok nonce.val := memberBytes_sealed hkeys (by simp [envelopeFields])
  have hdata : memberBytes platform (.ofList (envelopeFields key nonce ciphertext)) "c" =
      .ok ciphertext := memberBytes_sealed hkeys (by simp [envelopeFields])
  have hdecrypted := @decryptWith_encrypt platform key nonce
    (utf8 (dumps platform (payloadFields payload))) hlaws
  rw [← hciphertext] at henvelope hdecrypted
  unfold openAttachBundle
  rw [henvelope, except_ok_bind, asMapping, except_ok_bind, supported_envelopeFields,
    raiseIf_of_not (by simp), except_ok_bind, hkey, except_ok_bind, hnonce, except_ok_bind, hdata,
    except_ok_bind, hdecrypted, except_ok_bind, loadsUtf8_dumps, except_ok_bind, asMapping,
    except_ok_bind, readPayload_payloadFields]
  · exact ⟨trivial, trivial, trivial, trivial, trivial, trivial⟩
  · exact ⟨by simp [payloadFields], trivial, trivial, trivial, trivial, trivial, trivial⟩

end Sealed

/-! ## Refusals -/

/-- `ValueError` is the only exception. -/
def OnlyValueErrors {α : Type} (result : Except PyExc α) : Prop :=
  ∀ failure, result = .error failure → ∃ message, failure = .valueError message

section Results

variable {α β : Type} {platform : Platform}

theorem onlyValueErrors_ok {value : α} : OnlyValueErrors (.ok value) := nofun

theorem onlyValueErrors_valueError {message : String} :
    OnlyValueErrors (.error (.valueError message) : Except PyExc α) := by
  intro failure hfailure
  exact ⟨message, (Except.error.inj hfailure).symm⟩

theorem not_onlyValueErrors_other {name message : String} :
    ¬OnlyValueErrors (.error (.other name message) : Except PyExc α) := by
  intro honly
  obtain ⟨_, hother⟩ := honly _ rfl
  cases hother

/-- A computation raises only what its first part raises, and what follows on its value. -/
theorem onlyValueErrors_bind_iff {first : Except PyExc α} {rest : α → Except PyExc β} :
    OnlyValueErrors (first >>= rest) ↔
      OnlyValueErrors first ∧ ∀ value, first = .ok value → OnlyValueErrors (rest value) := by
  cases first with
  | ok value => simp [onlyValueErrors_ok, except_ok_bind]
  | error failure =>
      have hraised : (Except.error failure >>= rest) = .error failure := rfl
      rw [hraised]
      simp [OnlyValueErrors]

theorem onlyValueErrors_raiseIf {condition : Prop} [Decidable condition] {message : String} :
    OnlyValueErrors (raiseIf condition (.valueError message)) := by
  by_cases hcondition : condition
  · rw [raiseIf, if_pos hcondition]
    exact onlyValueErrors_valueError
  · rw [raiseIf, if_neg hcondition]
    exact onlyValueErrors_ok

theorem onlyValueErrors_asMapping_iff {name : String} {value : PyValue} :
    OnlyValueErrors (asMapping name value) ↔ ∃ items, value = .dict items := by
  cases value with
  | dict items => simp [asMapping, onlyValueErrors_ok]
  | _ => simp [asMapping, not_onlyValueErrors_other]

theorem onlyValueErrors_item_iff {mapping : Mapping} {name : String} :
    OnlyValueErrors (item mapping name) ↔ mapping.contains name = true := by
  unfold item OrderedDict.contains
  cases mapping.get? name with
  | some value => simp [onlyValueErrors_ok]
  | none => simp [not_onlyValueErrors_other]

theorem onlyValueErrors_b64urlDecode {value : String} : OnlyValueErrors (b64urlDecode value) := by
  unfold b64urlDecode
  split
  next => exact onlyValueErrors_valueError
  next =>
    split
    next => exact onlyValueErrors_ok
    next => exact onlyValueErrors_valueError

theorem onlyValueErrors_loadsUtf8 {data : Bytes} : OnlyValueErrors (loadsUtf8 platform data) := by
  unfold loadsUtf8
  split
  next => exact onlyValueErrors_ok
  next => exact onlyValueErrors_valueError

theorem onlyValueErrors_readEnvelope {bundle : String} :
    OnlyValueErrors (readEnvelope platform bundle) := by
  unfold readEnvelope
  refine onlyValueErrors_bind_iff.mpr ⟨onlyValueErrors_raiseIf, fun _ _ => ?_⟩
  dsimp only
  split
  next => exact onlyValueErrors_ok
  next => exact onlyValueErrors_valueError

theorem onlyValueErrors_memberBytes_iff {envelope : Mapping} {name : String} :
    OnlyValueErrors (memberBytes platform envelope name) ↔ envelope.contains name = true := by
  rw [memberBytes, onlyValueErrors_bind_iff, onlyValueErrors_item_iff]
  exact and_iff_left fun _ _ => onlyValueErrors_b64urlDecode

theorem onlyValueErrors_item_bind_iff {mapping : Mapping} {name : String}
    {rest : PyValue → Except PyExc α} :
    OnlyValueErrors (item mapping name >>= rest) ↔ mapping.contains name = true ∧
      ∀ value, mapping.get? name = some value → OnlyValueErrors (rest value) := by
  rw [onlyValueErrors_bind_iff, onlyValueErrors_item_iff]
  refine and_congr_right fun _ => forall_congr' fun value => ?_
  have hitem : item mapping name = .ok value ↔ mapping.get? name = some value := by
    unfold item
    cases mapping.get? name <;> simp
  rw [hitem]

/-- Key, nonce and ciphertext of the right lengths belong together. -/
def Authentic (platform : Platform) (bundleKey nonce ciphertext : Bytes) : Prop :=
  ∀ (key : Key) (iv : Nonce), bundleKey = key.val → nonce = iv.val → 16 ≤ ciphertext.length →
    ∃ plaintext, platform.decrypt key iv ciphertext = some plaintext

theorem onlyValueErrors_decryptWith_iff {bundleKey nonce ciphertext : Bytes} :
    OnlyValueErrors (decryptWith platform bundleKey nonce ciphertext) ↔
      Authentic platform bundleKey nonce ciphertext := by
  unfold decryptWith
  by_cases hlengths : bundleKey.length = 32 ∧ nonce.length = 12 ∧ 16 ≤ ciphertext.length
  · rw [dif_pos hlengths]
    cases hdecrypt : platform.decrypt ⟨bundleKey, hlengths.1⟩ ⟨nonce, hlengths.2.1⟩ ciphertext with
    | some plaintext =>
        refine iff_of_true onlyValueErrors_ok ?_
        rintro key iv rfl rfl -
        exact ⟨plaintext, hdecrypt⟩
    | none =>
        refine iff_of_false not_onlyValueErrors_other ?_
        intro hauthentic
        obtain ⟨plaintext, hsome⟩ :=
          hauthentic ⟨_, hlengths.1⟩ ⟨_, hlengths.2.1⟩ rfl rfl hlengths.2.2
        rw [hdecrypt] at hsome
        cases hsome
  · rw [dif_neg hlengths]
    refine iff_of_true onlyValueErrors_valueError ?_
    rintro key iv rfl rfl hlength
    exact absurd ⟨key.property, iv.property, hlength⟩ hlengths

def payloadMembers : List String :=
  ["payee_did", "payee_signing_seed_hex", "agent_recognition_key_id",
    "agent_recognition_signing_seed_hex"]

theorem onlyValueErrors_readPayload_iff {payload : Mapping} :
    OnlyValueErrors (readPayload platform payload) ↔
      (isOne (payload.get? "v") = true →
        ∀ name ∈ payloadMembers, payload.contains name = true) := by
  rw [readPayload, onlyValueErrors_bind_iff, and_iff_right onlyValueErrors_raiseIf]
  simp only [raiseIf_eq_ok, Bool.not_eq_false, onlyValueErrors_item_bind_iff, payloadMembers,
    List.forall_mem_cons]
  have hfound : ∀ name, payload.contains name = true → ∃ value, payload.get? name = some value :=
    fun name hname => Option.isSome_iff_exists.mp hname
  constructor
  · intro hitems hone
    obtain ⟨hdid, hrest⟩ := hitems () hone
    obtain ⟨did, hdidValue⟩ := hfound _ hdid
    obtain ⟨hseed, hrest⟩ := hrest did hdidValue
    obtain ⟨seed, hseedValue⟩ := hfound _ hseed
    obtain ⟨hkeyId, hrest⟩ := hrest seed hseedValue
    obtain ⟨keyId, hkeyIdValue⟩ := hfound _ hkeyId
    exact ⟨hdid, hseed, hkeyId, (hrest keyId hkeyIdValue).1, by simp⟩
  · rintro hmembers _ hone
    obtain ⟨hdid, hseed, hkeyId, hkeySeed, -⟩ := hmembers hone
    exact ⟨hdid, fun _ _ => ⟨hseed, fun _ _ => ⟨hkeyId, fun _ _ => ⟨hkeySeed, fun _ _ =>
      onlyValueErrors_ok⟩⟩⟩⟩

end Results

section Opening

variable (platform : Platform) (bundle : String)

/-- The bundle has an envelope of the version and the algorithm. -/
def HasEnvelope (envelope : Mapping) : Prop :=
  ∃ items, readEnvelope platform bundle = .ok (.dict items) ∧ envelope = .ofList items ∧
    supported envelope = true

/-- The envelope has the members, as far as those before them are read. -/
def MembersPresent (envelope : Mapping) : Prop :=
  envelope.contains "k" = true ∧ ∀ bundleKey, memberBytes platform envelope "k" = .ok bundleKey →
    envelope.contains "n" = true ∧ ∀ nonce, memberBytes platform envelope "n" = .ok nonce →
      envelope.contains "c" = true

/-- What the members of an envelope are. -/
structure Carries (envelope : Mapping) (bundleKey nonce ciphertext : Bytes) : Prop where
  bundleKey : memberBytes platform envelope "k" = .ok bundleKey
  nonce : memberBytes platform envelope "n" = .ok nonce
  ciphertext : memberBytes platform envelope "c" = .ok ciphertext

/-- The payload is an object, and has its members if it has the version. -/
def PayloadRead (value : PyValue) : Prop :=
  ∃ items, value = .dict items ∧ (isOne ((OrderedDict.ofList items).get? "v") = true →
    ∀ name ∈ payloadMembers, (OrderedDict.ofList items).contains name = true)

/-- Every value of the bundle has the form that it is used in. -/
structure FormedAsUsed : Prop where
  envelope : ∀ value, readEnvelope platform bundle = .ok value → ∃ items, value = .dict items
  members : ∀ envelope, HasEnvelope platform bundle envelope → MembersPresent platform envelope
  authentic : ∀ envelope bundleKey nonce ciphertext, HasEnvelope platform bundle envelope →
    Carries platform envelope bundleKey nonce ciphertext →
      Authentic platform bundleKey nonce ciphertext
  payload : ∀ envelope bundleKey nonce ciphertext plaintext value,
    HasEnvelope platform bundle envelope →
      Carries platform envelope bundleKey nonce ciphertext →
        decryptWith platform bundleKey nonce ciphertext = .ok plaintext →
          loadsUtf8 platform plaintext = .ok value → PayloadRead value

variable {platform bundle}

theorem onlyValueErrors_openAttachBundle_iff :
    OnlyValueErrors (openAttachBundle platform bundle) ↔ FormedAsUsed platform bundle := by
  simp only [openAttachBundle, onlyValueErrors_bind_iff, onlyValueErrors_readEnvelope,
    onlyValueErrors_asMapping_iff, onlyValueErrors_raiseIf, onlyValueErrors_memberBytes_iff,
    onlyValueErrors_decryptWith_iff, onlyValueErrors_loadsUtf8, onlyValueErrors_readPayload_iff,
    true_and, raiseIf_eq_ok, Bool.not_eq_false]
  constructor
  · intro hopen
    refine ⟨fun value hvalue => (hopen value hvalue).1, ?_, ?_, ?_⟩
    · rintro envelope ⟨items, hread, rfl, hsupported⟩
      obtain ⟨hkey, hrest⟩ := (hopen _ hread).2 _ rfl () hsupported
      refine ⟨hkey, fun bundleKey hbundleKey => ?_⟩
      obtain ⟨hnonce, hrest⟩ := hrest bundleKey hbundleKey
      exact ⟨hnonce, fun nonce hnonceBytes => (hrest nonce hnonceBytes).1⟩
    · rintro envelope bundleKey nonce ciphertext ⟨items, hread, rfl, hsupported⟩ hcarries
      have hrest := ((hopen _ hread).2 _ rfl () hsupported).2 _ hcarries.bundleKey
      exact ((hrest.2 _ hcarries.nonce).2 _ hcarries.ciphertext).1
    · rintro envelope bundleKey nonce ciphertext plaintext value ⟨items, hread, rfl, hsupported⟩
        hcarries hplaintext hvalue
      have hrest := ((hopen _ hread).2 _ rfl () hsupported).2 _ hcarries.bundleKey
      have hrest := ((hrest.2 _ hcarries.nonce).2 _ hcarries.ciphertext).2 _ hplaintext value hvalue
      obtain ⟨⟨fields, rfl⟩, hmembers⟩ := hrest
      exact ⟨fields, rfl, hmembers _ rfl⟩
  · intro hformed value hvalue
    refine ⟨hformed.envelope value hvalue, ?_⟩
    intro envelope henvelope _ hsupported
    obtain ⟨items, rfl⟩ := hformed.envelope value hvalue
    have hhas : HasEnvelope platform bundle envelope :=
      ⟨items, hvalue, (Except.ok.inj henvelope).symm, hsupported⟩
    obtain ⟨hkey, hrest⟩ := hformed.members envelope hhas
    refine ⟨hkey, fun bundleKey hbundleKey => ?_⟩
    obtain ⟨hnonce, hrest⟩ := hrest bundleKey hbundleKey
    refine ⟨hnonce, fun nonce hnonceBytes => ⟨hrest nonce hnonceBytes, ?_⟩⟩
    intro ciphertext hciphertext
    have hcarries : Carries platform envelope bundleKey nonce ciphertext :=
      ⟨hbundleKey, hnonceBytes, hciphertext⟩
    refine ⟨hformed.authentic _ _ _ _ hhas hcarries, fun plaintext hplaintext value hvalue => ?_⟩
    obtain ⟨fields, rfl, hmembers⟩ :=
      hformed.payload _ _ _ _ plaintext value hhas hcarries hplaintext hvalue
    refine ⟨⟨fields, rfl⟩, fun payload hpayload => ?_⟩
    rw [← Except.ok.inj hpayload]
    exact hmembers

end Opening

/-! ## Credentials -/

section Credentials

theorem isAsciiSpace_of_isHex {c : Char} (hc : isHex c = true) :
    Receipt.isAsciiSpace c = false := by
  by_contra hspace
  rw [Bool.not_eq_false, Receipt.isAsciiSpace, decide_eq_true_eq] at hspace
  revert hc
  simp only [List.mem_cons, List.not_mem_nil, or_false] at hspace
  rcases hspace with rfl | rfl | rfl | rfl | rfl | rfl <;> decide

/-- Two digits a byte. -/
theorem length_of_bytesOfHexDigits {digits : List Char} {bytes : Bytes}
    (hdigits : ∀ c ∈ digits, isHex c = true)
    (hbytes : Receipt.bytesOfHexDigits digits = some bytes) :
    digits.length = 2 * bytes.length := by
  induction digits using Receipt.bytesOfHexDigits.induct generalizing bytes with
  | case1 =>
      rw [← Option.some.inj hbytes]
      rfl
  | case2 c hspace | case3 c hspace =>
      have hc := isAsciiSpace_of_isHex (hdigits c List.mem_cons_self)
      simp [Receipt.bytesOfHexDigits, hc] at hbytes
  | case4 high low rest hspace =>
      have hhigh := isAsciiSpace_of_isHex (hdigits high List.mem_cons_self)
      rw [hhigh] at hspace
      cases hspace
  | case5 high low rest hspace ih =>
      have hrest : ∀ c ∈ rest, isHex c = true := fun c hc =>
        hdigits c (List.mem_cons_of_mem _ (List.mem_cons_of_mem _ hc))
      simp only [Receipt.bytesOfHexDigits, hspace, Option.bind_eq_bind, Option.pure_def,
        Option.bind_eq_some_iff, Bool.false_eq_true, if_false] at hbytes
      obtain ⟨_, _, _, _, others, hothers, hsame⟩ := hbytes
      have hlength := ih hrest hothers
      rw [← Option.some.inj hsame, List.length_cons, List.length_cons, List.length_cons, hlength]
      omega

theorem parseSeed32Hex_size {raw field : String} {seed : ByteArray}
    (hseed : parseSeed32Hex raw field = .ok seed) : seed.size = 32 := by
  rw [parseSeed32Hex, except_bind_eq_ok] at hseed
  obtain ⟨_, hre, hseed⟩ := hseed
  rw [raiseIf_eq_ok, Bool.not_eq_false, seedHexRe, Bool.and_eq_true, List.all_eq_true,
    decide_eq_true_eq] at hre
  unfold Receipt.bytesFromHex at hseed
  split at hseed
  next bytes hbytes =>
    have hlength := length_of_bytesOfHexDigits hre.1 hbytes
    rw [← Except.ok.inj hseed]
    simp only [ByteArray.size, List.size_toArray]
    omega
  next => cases hseed

theorem onlyValueErrors_parseSeed32Hex {raw field : String} :
    OnlyValueErrors (parseSeed32Hex raw field) := by
  rw [parseSeed32Hex]
  refine onlyValueErrors_bind_iff.mpr ⟨onlyValueErrors_raiseIf, fun _ _ => ?_⟩
  unfold Receipt.bytesFromHex
  split
  next => exact onlyValueErrors_ok
  next => exact onlyValueErrors_valueError

theorem onlyValueErrors_productionEvidence {payload : AttachBundlePayloadV1} :
    OnlyValueErrors (productionEvidenceFromAttachBundle payload) := by
  rw [productionEvidenceFromAttachBundle]
  refine onlyValueErrors_bind_iff.mpr ⟨onlyValueErrors_parseSeed32Hex, fun _ _ => ?_⟩
  refine onlyValueErrors_bind_iff.mpr ⟨onlyValueErrors_parseSeed32Hex, fun _ _ => ?_⟩
  exact onlyValueErrors_ok

variable {platform : Platform} {bundle : String}

/-- Credentials with two seeds of 32 bytes, or `ValueError`. -/
def OpensOrRefuses (platform : Platform) (bundle : String) : Prop :=
  (∃ credentials, openAttachBundle platform bundle >>= productionEvidenceFromAttachBundle =
      .ok credentials ∧ credentials.payeeSigningSeed.size = 32 ∧
        credentials.agentRecognitionSigningSeed.size = 32) ∨
    ∃ message, openAttachBundle platform bundle >>= productionEvidenceFromAttachBundle =
      .error (.valueError message)

theorem opensOrRefuses_iff_onlyValueErrors :
    OpensOrRefuses platform bundle ↔ OnlyValueErrors (openAttachBundle platform bundle) := by
  have hwhole : OnlyValueErrors
      (openAttachBundle platform bundle >>= productionEvidenceFromAttachBundle) ↔
        OnlyValueErrors (openAttachBundle platform bundle) := by
    rw [onlyValueErrors_bind_iff]
    exact and_iff_left fun _ _ => onlyValueErrors_productionEvidence
  rw [← hwhole, OpensOrRefuses]
  cases hresult : openAttachBundle platform bundle >>= productionEvidenceFromAttachBundle with
  | error failure =>
      simp [OnlyValueErrors]
  | ok credentials =>
      refine iff_of_true (.inl ⟨credentials, rfl, ?_⟩) onlyValueErrors_ok
      obtain ⟨payload, -, hcredentials⟩ := except_bind_eq_ok.mp hresult
      rw [productionEvidenceFromAttachBundle, except_bind_eq_ok] at hcredentials
      obtain ⟨payeeSeed, hpayee, hcredentials⟩ := hcredentials
      rw [except_bind_eq_ok] at hcredentials
      obtain ⟨keySeed, hkey, hcredentials⟩ := hcredentials
      rw [← Except.ok.inj hcredentials]
      exact ⟨parseSeed32Hex_size hpayee, parseSeed32Hex_size hkey⟩

end Credentials

section Pasted

/-- A cipher that leaves the text as it is, with a tag of the key. -/
def platformPasted : Platform where
  encrypt key _ plaintext := plaintext ++ key.val.take 16
  decrypt key _ ciphertext :=
    if ciphertext.drop (ciphertext.length - 16) = key.val.take 16 then
      some (ciphertext.take (ciphertext.length - 16))
    else none
  pyStr _ := ""
  floatText _ := .ofInt 0
  parseFloat _ := .nan

theorem laws_pasted : platformPasted.Laws where
  decrypt_encrypt key nonce plaintext := by
    have htag : (key.val.take 16).length = 16 := by simp [key.property]
    have hlength : (plaintext ++ key.val.take 16).length - 16 = plaintext.length := by
      rw [List.length_append, htag, Nat.add_sub_cancel]
    simp only [platformPasted, hlength, List.drop_left, List.take_left, if_true]
  length_encrypt key nonce plaintext := by
    have htag : (key.val.take 16).length = 16 := by simp [key.property]
    rw [platformPasted, List.length_append, htag]

def payloadPasted : AttachBundlePayloadV1 where
  payeeDid := " did:web:paÿee.example"
  payeeSigningSeedHex := "11"
  agentRecognitionKeyId := "key_😀\n"
  agentRecognitionSigningSeedHex := "22"

/-- `ab1.W10`: a list in the place of the envelope. -/
def bundlePasted : String := bundlePrefix ++ b64urlText (utf8 "[]")

end Pasted

end PaybondKit.Agent.AttachBundle
