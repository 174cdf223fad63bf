import PaybondKit.Receipt.JcsBytes

/-!
# Content-addressed frames around a receipt

A frame is named by the hash of its preimage. The check recomputes the preimage from the receipt,
the provider and the timestamp of the frame; the header fields of the preimage are constants, and
not the frame's own.
-/

namespace PaybondKit.Receipt.Pef

open OrderedDict
open Agent (PyExc)

/-- `str` of what is no string, the text of a float, and SHA-256. -/
structure Platform where
  pyStr : PyValue → String
  floatText : PyFloat → JsonNumber
  sha256Hex : ByteArray → String

def claimTypeAgentReceiptV1 : String := "paybond_agent_receipt_v1"
def canonVersionJcsRfc8785V1 : String := "urn:x402:canonicalisation:jcs-rfc8785-v1"
def versionV1 : String := "1"
def receiptFormatAgentReceiptV1 : String := "paybond.agent_receipt_v1"

section Frames

variable (platform : Platform)

/-- `str(value)`. -/
def Platform.str : PyValue → String
  | .str text => text
  | value => platform.pyStr value

def sha256Prefixed (hexDigest : String) : String := "sha256:" ++ hexDigest

def agentReceiptPefReceiptHash (receipt : List (String × PyValue)) : String :=
  sha256Prefixed (platform.sha256Hex (jcsCanonicalBytes platform.floatText (.dict receipt)))

/-- `isinstance(value, int) and value >= 0`. A `bool` is an `int`. -/
def isNonNegativeInt : PyValue → Bool
  | .int value => 0 ≤ value
  | .bool _ => true
  | _ => false

/-- The fields of a preimage, after its checks. -/
def preimageFields (receipt : List (String × PyValue)) (provider : String) (timestamp : PyValue)
    (receiptHash : String) : Fields String PyValue where
  entries :=
    [("canon_version", some (.str canonVersionJcsRfc8785V1)),
      ("claim_type", some (.str claimTypeAgentReceiptV1)),
      ("frame_provider_did", some (.str provider)),
      ("frame_timestamp_ms", some timestamp),
      ("pef_version", some (.str versionV1)),
      ("receipt", some (.dict receipt)),
      ("receipt_format", some (.str receiptFormatAgentReceiptV1)),
      ("receipt_hash", some (.str receiptHash))]
  nodup := by simp

def agentReceiptPefPreimage (receipt : List (String × PyValue)) (frameProviderDid : String)
    (frameTimestampMs : PyValue) (receiptHash : String) : Except PyExc Mapping := do
  let provider := pyStrip frameProviderDid
  if provider = "" then
    throw (.valueError "pef: frame_provider_did is required")
  if !isNonNegativeInt frameTimestampMs then
    throw (.valueError "pef: frame_timestamp_ms must be a non-negative integer")
  return (preimageFields receipt provider frameTimestampMs receiptHash).mapping

def agentReceiptPefFrameId (preimage : Mapping) : String :=
  sha256Prefixed (platform.sha256Hex (jcsCanonicalBytes platform.floatText (.dict preimage.items)))

def frameFields (receipt : List (String × PyValue)) (frameId provider : String)
    (timestamp : PyValue) (receiptHash : String) : Fields String PyValue where
  entries :=
    [("canon_version", some (.str canonVersionJcsRfc8785V1)),
      ("claim_type", some (.str claimTypeAgentReceiptV1)),
      ("frame_id", some (.str frameId)),
      ("frame_provider_did", some (.str provider)),
      ("frame_timestamp_ms", some timestamp),
      ("pef_version", some (.str versionV1)),
      ("receipt", some (.dict receipt)),
      ("receipt_format", some (.str receiptFormatAgentReceiptV1)),
      ("receipt_hash", some (.str receiptHash))]
  nodup := by simp

/-- `receipt` are the items of the mapping. -/
def buildAgentReceiptPefFrame (receipt : List (String × PyValue)) (frameProviderDid : String)
    (frameTimestampMs : PyValue) : Except PyExc Mapping := do
  let receiptHash := agentReceiptPefReceiptHash platform receipt
  let preimage ← agentReceiptPefPreimage receipt frameProviderDid frameTimestampMs receiptHash
  let provider := platform.str ((preimage.get? "frame_provider_did").getD .none)
  return (frameFields receipt (agentReceiptPefFrameId platform preimage) provider frameTimestampMs
    receiptHash).mapping

/-- `str(value or "")`. -/
def textOrEmpty (value : Option PyValue) : String :=
  let value := value.getD .none
  if value.truthy then platform.str value else ""

/-- `value == text`. -/
def isText (value : Option PyValue) (text : String) : Bool :=
  match value with
  | some (.str other) => other = text
  | _ => false

@[simp] theorem isText_iff {value : Option PyValue} {text : String} :
    isText value text = true ↔ value = some (.str text) := by
  cases value with
  | none => simp [isText]
  | some value => cases value <;> simp [isText]

def verifyAgentReceiptPefFrameId (frame : Mapping) : Except PyExc Unit := do
  match frame.get? "receipt" with
  | some (.dict receipt) => do
      let expectedReceiptHash := agentReceiptPefReceiptHash platform receipt
      if !isText (frame.get? "receipt_hash") expectedReceiptHash then
        throw (.valueError "pef: receipt_hash mismatch")
      let frameTimestampMs := (frame.get? "frame_timestamp_ms").getD .none
      if !isNonNegativeInt frameTimestampMs then
        throw (.valueError "pef: frame_timestamp_ms must be a non-negative integer")
      let preimage ← agentReceiptPefPreimage receipt
        (textOrEmpty platform (frame.get? "frame_provider_did")) frameTimestampMs
        expectedReceiptHash
      if !isText (frame.get? "frame_id") (agentReceiptPefFrameId platform preimage) then
        throw (.valueError "pef: frame_id mismatch")
      if !isText (frame.get? "claim_type") claimTypeAgentReceiptV1 then
        throw (.valueError "pef: unexpected claim_type")
  | _ => throw (.valueError "pef: receipt must be an object")

end Frames

/-- A check that raises before the rest. -/
theorem raiseUnless_eq_ok {α β ε : Type} {holds : Bool} {failure : ε} {first : β → Except ε α}
    {rest : Except ε α} {result : α} :
    (if (!holds) = true then throw failure >>= first else rest) = .ok result ↔
      holds = true ∧ rest = .ok result := by
  cases holds with
  | false => simp [throw, throwThe, MonadExceptOf.throw, bind, Except.bind]
  | true => simp

section Specifications

variable {platform : Platform} {receipt : List (String × PyValue)} {provider : String}
  {timestamp : PyValue} {receiptHash : String} {frame preimage : Mapping}

theorem agentReceiptPefPreimage_eq_ok_iff :
    agentReceiptPefPreimage receipt provider timestamp receiptHash = .ok preimage ↔
      pyStrip provider ≠ "" ∧ isNonNegativeInt timestamp = true ∧
        preimage = (preimageFields receipt (pyStrip provider) timestamp receiptHash).mapping := by
  unfold agentReceiptPefPreimage
  by_cases hprovider : pyStrip provider = ""
  · simp [hprovider, bind, Except.bind, throw, throwThe, MonadExceptOf.throw]
  · cases htimestamp : isNonNegativeInt timestamp with
    | false =>
        simp [hprovider, bind, Except.bind, throw, throwThe, MonadExceptOf.throw]
    | true => simp [hprovider, pure, Except.pure, eq_comm]

theorem preimageFields_provider :
    (preimageFields receipt provider timestamp receiptHash).mapping.get? "frame_provider_did" =
      some (.str provider) := by
  simp [Fields.get?_mapping, preimageFields, fieldValue]

variable (platform receipt provider timestamp) in
/-- The name of the frame around a receipt, for a provider without space around it. -/
def frameName : String :=
  agentReceiptPefFrameId platform (preimageFields receipt provider timestamp
    (agentReceiptPefReceiptHash platform receipt)).mapping

variable (platform receipt provider timestamp) in
def builtFrame : Mapping :=
  (frameFields receipt (frameName platform receipt provider timestamp) provider timestamp
    (agentReceiptPefReceiptHash platform receipt)).mapping

theorem buildAgentReceiptPefFrame_eq_ok_iff :
    buildAgentReceiptPefFrame platform receipt provider timestamp = .ok frame ↔
      pyStrip provider ≠ "" ∧ isNonNegativeInt timestamp = true ∧
        frame = builtFrame platform receipt (pyStrip provider) timestamp := by
  unfold buildAgentReceiptPefFrame
  rw [except_bind_eq_ok]
  constructor
  · rintro ⟨preimage, hpreimage, hframe⟩
    obtain ⟨hprovider, htimestamp, hfields⟩ := agentReceiptPefPreimage_eq_ok_iff.mp hpreimage
    rw [hfields, preimageFields_provider, except_pure_eq_ok, Option.getD_some,
      Platform.str] at hframe
    rw [builtFrame, frameName]
    exact ⟨hprovider, htimestamp, hframe.symm⟩
  · rintro ⟨hprovider, htimestamp, hframe⟩
    have hpreimage : agentReceiptPefPreimage receipt provider timestamp
        (agentReceiptPefReceiptHash platform receipt) =
          .ok (preimageFields receipt (pyStrip provider) timestamp
            (agentReceiptPefReceiptHash platform receipt)).mapping :=
      agentReceiptPefPreimage_eq_ok_iff.mpr ⟨hprovider, htimestamp, rfl⟩
    refine ⟨_, hpreimage, ?_⟩
    rw [preimageFields_provider, except_pure_eq_ok, Option.getD_some, Platform.str, hframe,
      builtFrame, frameName]

/-- What a frame has that is accepted. -/
theorem verifyAgentReceiptPefFrameId_eq_ok_iff :
    verifyAgentReceiptPefFrameId platform frame = .ok () ↔
      ∃ receipt, frame.get? "receipt" = some (.dict receipt) ∧
        let provider := pyStrip (textOrEmpty platform (frame.get? "frame_provider_did"))
        let timestamp := (frame.get? "frame_timestamp_ms").getD .none
        frame.get? "receipt_hash" = some (.str (agentReceiptPefReceiptHash platform receipt)) ∧
          isNonNegativeInt timestamp = true ∧ provider ≠ "" ∧
          frame.get? "frame_id" = some (.str (frameName platform receipt provider timestamp)) ∧
          frame.get? "claim_type" = some (.str claimTypeAgentReceiptV1) := by
  unfold verifyAgentReceiptPefFrameId
  cases hreceipt : frame.get? "receipt" with
  | none => simp [throw, throwThe, MonadExceptOf.throw]
  | some value =>
      cases value with
      | dict receipt =>
          simp only [Option.some.injEq, PyValue.dict.injEq, exists_eq_left']
          rw [raiseUnless_eq_ok, raiseUnless_eq_ok, except_bind_eq_ok, isText_iff]
          constructor
          · rintro ⟨hhash, htimestamp, preimage, hpreimage, hchecks⟩
            obtain ⟨hprovider, _, hfields⟩ := agentReceiptPefPreimage_eq_ok_iff.mp hpreimage
            rw [hfields, raiseUnless_eq_ok, isText_iff] at hchecks
            have hclaim : isText (frame.get? "claim_type") claimTypeAgentReceiptV1 = true := by
              by_contra hclaim
              simp [hclaim, throw, throwThe, MonadExceptOf.throw] at hchecks
            exact ⟨hhash, htimestamp, hprovider, hchecks.1, isText_iff.mp hclaim⟩
          · rintro ⟨hhash, htimestamp, hprovider, hname, hclaim⟩
            refine ⟨hhash, htimestamp, _,
              agentReceiptPefPreimage_eq_ok_iff.mpr ⟨hprovider, htimestamp, rfl⟩, ?_⟩
            rw [raiseUnless_eq_ok, isText_iff]
            refine ⟨hname, ?_⟩
            simp [isText_iff.mpr hclaim, pure, Except.pure]
      | _ => simp [throw, throwThe, MonadExceptOf.throw]

theorem get?_builtFrame (key : String) :
    (builtFrame platform receipt provider timestamp).get? key =
      fieldValue key (frameFields receipt (frameName platform receipt provider timestamp) provider
        timestamp (agentReceiptPefReceiptHash platform receipt)).entries :=
  Fields.get?_mapping _ key

@[simp] theorem textOrEmpty_str : textOrEmpty platform (some (.str provider)) = provider := by
  by_cases hempty : provider = ""
  · simp [textOrEmpty, PyValue.truthy, hempty]
  · simp [textOrEmpty, PyValue.truthy, hempty, Platform.str]

/-- A frame that is built is accepted. -/
theorem verify_of_build
    (hbuilt : buildAgentReceiptPefFrame platform receipt provider timestamp = .ok frame) :
    verifyAgentReceiptPefFrameId platform frame = .ok () := by
  obtain ⟨hprovider, htimestamp, hframe⟩ := buildAgentReceiptPefFrame_eq_ok_iff.mp hbuilt
  rw [verifyAgentReceiptPefFrameId_eq_ok_iff, hframe]
  refine ⟨receipt, ?_⟩
  simp [get?_builtFrame, frameFields, fieldValue, pyStrip_pyStrip, htimestamp, hprovider]

def pefFields : List String :=
  ["canon_version", "claim_type", "pef_version", "receipt_format", "frame_provider_did",
    "frame_timestamp_ms", "receipt", "receipt_hash", "frame_id"]

/-- The frame has the fields of the one that is built around its receipt, for its provider and its
timestamp. -/
def IsBuilt (platform : Platform) (frame : Mapping) : Prop :=
  ∃ receipt provider timestamp built, frame.get? "receipt" = some (.dict receipt) ∧
    frame.get? "frame_provider_did" = some (.str provider) ∧
    frame.get? "frame_timestamp_ms" = some timestamp ∧
    buildAgentReceiptPefFrame platform receipt provider timestamp = .ok built ∧
    ∀ key ∈ pefFields, frame.get? key = built.get? key

/-- The header fields that the check leaves out are the constants, and the provider is a text
without space around it. -/
structure HeaderKept (frame : Mapping) : Prop where
  canonVersion : frame.get? "canon_version" = some (.str canonVersionJcsRfc8785V1)
  pefVersion : frame.get? "pef_version" = some (.str versionV1)
  receiptFormat : frame.get? "receipt_format" = some (.str receiptFormatAgentReceiptV1)
  provider : ∃ provider, frame.get? "frame_provider_did" = some (.str provider) ∧
    pyStrip provider = provider

theorem headerKept_of_isBuilt (hbuilt : IsBuilt platform frame) : HeaderKept frame := by
  obtain ⟨receipt, provider, timestamp, built, _, hprovider, _, hbuild, hfields⟩ := hbuilt
  have hframe := (buildAgentReceiptPefFrame_eq_ok_iff.mp hbuild).2.2
  have hfield : ∀ key ∈ pefFields, frame.get? key =
      (builtFrame platform receipt (pyStrip provider) timestamp).get? key := by
    intro key hkey
    rw [hfields key hkey, hframe]
  have hstripped := hfield "frame_provider_did" (by simp [pefFields])
  rw [hprovider, get?_builtFrame] at hstripped
  refine ⟨?_, ?_, ?_, provider, hprovider, ?_⟩
  · rw [hfield "canon_version" (by simp [pefFields]), get?_builtFrame]
    simp [frameFields]
  · rw [hfield "pef_version" (by simp [pefFields]), get?_builtFrame]
    simp [frameFields, fieldValue]
  · rw [hfield "receipt_format" (by simp [pefFields]), get?_builtFrame]
    simp [frameFields, fieldValue]
  · simpa [frameFields, fieldValue, eq_comm] using hstripped

theorem isBuilt_of_headerKept (haccepted : verifyAgentReceiptPefFrameId platform frame = .ok ())
    (hheader : HeaderKept frame) : IsBuilt platform frame := by
  obtain ⟨receipt, hreceipt, hhash, htimestamp, hnonblank, hname, hclaim⟩ :=
    verifyAgentReceiptPefFrameId_eq_ok_iff.mp haccepted
  obtain ⟨provider, hprovider, hstripped⟩ := hheader.provider
  cases hstamp : frame.get? "frame_timestamp_ms" with
  | none => simp [hstamp, isNonNegativeInt] at htimestamp
  | some timestamp =>
      rw [hstamp, Option.getD_some] at htimestamp
      rw [hstamp, Option.getD_some] at hname
      rw [hprovider, textOrEmpty_str, hstripped] at hnonblank hname
      have hbuild : buildAgentReceiptPefFrame platform receipt provider timestamp =
          .ok (builtFrame platform receipt provider timestamp) := by
        rw [buildAgentReceiptPefFrame_eq_ok_iff, hstripped]
        exact ⟨hnonblank, htimestamp, rfl⟩
      refine ⟨receipt, provider, timestamp, _, hreceipt, hprovider, hstamp, hbuild, ?_⟩
      intro key hkey
      rw [get?_builtFrame]
      simp only [pefFields, List.mem_cons, List.not_mem_nil, or_false] at hkey
      rcases hkey with rfl | rfl | rfl | rfl | rfl | rfl | rfl | rfl | rfl
      · simpa [frameFields, fieldValue] using hheader.canonVersion
      · simpa [frameFields, fieldValue] using hclaim
      · simpa [frameFields, fieldValue] using hheader.pefVersion
      · simpa [frameFields, fieldValue] using hheader.receiptFormat
      · simpa [frameFields, fieldValue] using hprovider
      · simpa [frameFields, fieldValue] using hstamp
      · simpa [frameFields, fieldValue] using hreceipt
      · simpa [frameFields, fieldValue] using hhash
      · simpa [frameFields, fieldValue] using hname

/-- What is built is accepted, and what is accepted is what is built just if the header is kept. -/
theorem verify_build_iff (platform : Platform) :
    (∀ receipt provider timestamp frame,
      buildAgentReceiptPefFrame platform receipt provider timestamp = .ok frame →
        verifyAgentReceiptPefFrameId platform frame = .ok ()) ∧
      ∀ frame, verifyAgentReceiptPefFrameId platform frame = .ok () →
        (IsBuilt platform frame ↔ HeaderKept frame) := by
  refine ⟨fun _ _ _ _ hbuilt => verify_of_build hbuilt, fun frame haccepted => ?_⟩
  exact ⟨headerKept_of_isBuilt, isBuilt_of_headerKept haccepted⟩

end Specifications

section Framed

/-- A hash that keeps what it hashes. -/
def platformFramed : Platform where
  pyStr _ := ""
  floatText := exactFloatText
  sha256Hex := hexOfBytes

def receiptFramed : List (String × PyValue) := [("kind", .str "paybond.agent_receipt_v1")]

def frameFramed : Mapping :=
  builtFrame platformFramed receiptFramed "did:web:provider.example" (.int 1700000000000)

theorem build_frameFramed :
    buildAgentReceiptPefFrame platformFramed receiptFramed " did:web:provider.example\n"
      (.int 1700000000000) = .ok frameFramed := by
  have hstripped : pyStrip " did:web:provider.example\n" = "did:web:provider.example" := by
    decide +kernel
  rw [buildAgentReceiptPefFrame_eq_ok_iff, hstripped]
  exact ⟨by decide, rfl, rfl⟩

theorem verify_build_iff_framed :
    verifyAgentReceiptPefFrameId platformFramed frameFramed = .ok () ∧
      IsBuilt platformFramed frameFramed := by
  have haccepted := (verify_build_iff platformFramed).1 _ _ _ _ build_frameFramed
  refine ⟨haccepted, ((verify_build_iff platformFramed).2 _ haccepted).mpr ?_⟩
  refine ⟨?_, ?_, ?_, "did:web:provider.example", ?_, by decide +kernel⟩ <;>
    simp [frameFramed, get?_builtFrame, frameFields, fieldValue]

/-- The frame under another canonicalisation has the same name. -/
def frameRelabelled : Mapping :=
  frameFramed.set "canon_version" (.str "urn:x402:canonicalisation:other")

theorem not_isBuilt_frameRelabelled :
    ¬∀ platform : Platform, Function.Injective platform.sha256Hex → ∀ frame,
      verifyAgentReceiptPefFrameId platform frame = .ok () → IsBuilt platform frame := by
  intro hall
  have haccepted : verifyAgentReceiptPefFrameId platformFramed frameRelabelled = .ok () := by
    have hstripped : pyStrip "did:web:provider.example" = "did:web:provider.example" := by
      decide +kernel
    rw [verifyAgentReceiptPefFrameId_eq_ok_iff]
    refine ⟨receiptFramed, ?_⟩
    simp [frameRelabelled, frameFramed, get?_set, get?_builtFrame, frameFields, fieldValue,
      isNonNegativeInt, hstripped]
  have hinjective : Function.Injective platformFramed.sha256Hex :=
    fun _ _ hhex => hexOfBytes_injective hhex
  have hheader := headerKept_of_isBuilt (hall _ hinjective _ haccepted)
  have hcanon := hheader.canonVersion
  simp [frameRelabelled, canonVersionJcsRfc8785V1] at hcanon

end Framed

end PaybondKit.Receipt.Pef
