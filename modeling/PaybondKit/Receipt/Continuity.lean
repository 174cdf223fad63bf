import Mathlib.Data.String.Basic
import PaybondKit.Foundation.HashChain
import PaybondKit.Receipt.Idempotent

/-!
# The chain of a run's receipts

A receipt may name its place in its run and the digest of the receipt before it. One function
builds this continuity from the prior receipt, another one verifies the chains of a list of
receipts. The verifier accepts exactly the complete chains; the builder makes such a chain
unless the first receipt of the run was issued without a continuity.
-/

namespace PaybondKit.Receipt

open Agent (PyExc)
open ChainRecord (Chained Complete Follows)

abbrev Linked := ChainRecord String String

/-! ## Building -/

section Build

variable (platform : Platform)

def continuityFields (prev : Option Hex64) (sequenceNumber : Int) (runId : Uuid) : PyFields where
  entries :=
    [("prev_message_digest_sha256_hex", prev.map (.str ·.val)),
      ("sequence_number", some (.int sequenceNumber)),
      ("run_id", some (.str runId.val))]
  nodup := by simp

/-- The run that a mapping names, if it is a mapping and the name is not blank. -/
def namedRun : PyValue → Option String
  | .dict items =>
      let runId := (OrderedDict.ofList items).getValue "run_id"
      if pyStrip (platform.strOrBlank runId) = "" then none
      else some (platform.stripLower (platform.str runId))
  | _ => none

/-- The number after that of the prior continuity; a receipt without one counts as the first. -/
def nextSequenceNumber : PyValue → Except PyExc Int
  | .dict items => do
      let value := (OrderedDict.ofList items).getValue "sequence_number"
      let number ← platform.int (if value.truthy then value else .int 0)
      return if 0 < number then number + 1 else 2
  | _ => .ok 2

def continuityFromPrior (runId : String) (prior : Option Mapping) : Except PyExc PyValue := do
  let normalizedRunId ← platform.parseUuid runId "continuity.run_id"
  match prior with
  | none => return .dict (continuityFields none 1 normalizedRunId).items
  | some prior => do
      let continuity := prior.getValue "continuity"
      let priorRunId := ((namedRun platform continuity).or
        (namedRun platform (prior.getValue "execution"))).getD normalizedRunId.val
      raiseIf (priorRunId ≠ normalizedRunId.val)
        (.valueError "agent receipt: continuity prior run_id mismatch")
      let prevDigest ← requireHex64
        (platform.stripLower (platform.strOrBlank (prior.getValue "message_digest_sha256_hex")))
        "prior message_digest_sha256_hex"
      let sequenceNumber ← nextSequenceNumber platform continuity
      return .dict (continuityFields (some prevDigest) sequenceNumber normalizedRunId).items

end Build

/-! ## Verifying -/

/-- The place of a normalized receipt in its run. -/
def linked? (receipt : AgentReceipt) : Option Linked :=
  receipt.continuity.map fun continuity =>
    { run := continuity.runId.val
      seq := continuity.link.sequenceNumber
      prev := continuity.link.prevMessageDigestSha256Hex.map (·.val)
      digest := receipt.messageDigestSha256Hex }

/-- `(run_id, sequence_number)` as a sort key. -/
def chainKeyLe (first second : Linked) : Bool :=
  first.run < second.run || (first.run = second.run && first.seq ≤ second.seq)

/-- One round of the loop over the sorted receipts. -/
def checkLink (prevByRun : OrderedDict String Linked) (item : Linked) :
    Except PyExc (OrderedDict String Linked) :=
  match prevByRun.get? item.run with
  | none => do
      raiseIf (item.seq ≠ 1 ∨ item.prev.isSome = true)
        (.valueError <| s!"agent receipt: continuity chain for run {item.run} must start at " ++
          "sequence_number 1 without prev digest")
      return prevByRun.set item.run item
  | some prior => do
      raiseIf (item.seq ≠ prior.seq + 1)
        (.valueError <| s!"agent receipt: continuity chain sequence gap for run {item.run}: " ++
          s!"got {item.seq} want {prior.seq + 1}")
      raiseIf (item.prev ≠ some prior.digest)
        (.valueError <| s!"agent receipt: continuity chain digest mismatch for run {item.run} " ++
          s!"sequence {item.seq}")
      return prevByRun.set item.run item

/-- `receipt.get("continuity") is not None`. -/
def HasContinuity (receipt : Mapping) : Prop := (receipt.getValue "continuity").some?.isSome = true

instance : DecidablePred HasContinuity := fun _ => inferInstanceAs (Decidable (_ = true))

section Verify

variable (platform : Platform)

def verifyContinuityChain (receipts : List Mapping) : Except PyExc Unit := do
  let linked ← (receipts.filter (HasContinuity ·)).mapM (normalizeReceipt platform)
  -- a receipt with a continuity is normalized to one
  let _ ← ((linked.filterMap linked?).mergeSort chainKeyLe).foldlM checkLink .empty

/-- The place of a receipt in its run, for a receipt that normalizes. -/
def link? (receipt : Mapping) : Option Linked :=
  if HasContinuity receipt then (normalizeReceipt platform receipt).toOption.bind linked? else none

/-- The places of the receipts of a run. -/
def runLinks (receipts : List Mapping) (runId : String) : List Linked :=
  (receipts.filterMap (link? platform)).filter (·.run = runId)

/-- A receipt with a continuity normalizes. -/
def WellFormed (receipt : Mapping) : Prop :=
  HasContinuity receipt → ∃ normalized, normalizeReceipt platform receipt = .ok normalized

def Accepts (receipts : List Mapping) : Prop := verifyContinuityChain platform receipts = .ok ()

/-- The receipt is linked, and another one comes later in its run. -/
def NonLast (receipts : List Mapping) (receipt : Mapping) : Prop :=
  ∃ record, link? platform receipt = some record ∧
    ∃ later ∈ runLinks platform receipts record.run, record.seq < later.seq

end Verify

theorem checkLink_eq_ok {prevByRun result : OrderedDict String Linked} {item : Linked} :
    checkLink prevByRun item = .ok result ↔
      Follows (prevByRun.get? item.run) item ∧ prevByRun.set item.run item = result := by
  unfold checkLink Follows
  cases prevByRun.get? item.run with
  | none =>
      simp only [except_bind_eq_ok, raiseIf_eq_ok, exists_const, except_pure_eq_ok, not_or,
        not_not, Bool.not_eq_true, Option.isSome_eq_false_iff, Option.isNone_iff_eq_none]
  | some prior =>
      simp only [except_bind_eq_ok, raiseIf_eq_ok, exists_const, except_pure_eq_ok, not_not,
        and_assoc]

/-- The loop ends well when the items of every run are a chain. -/
theorem foldlM_checkLink {items : List Linked} {prevByRun : OrderedDict String Linked} :
    (∃ result, items.foldlM checkLink prevByRun = .ok result) ↔
      ∀ runId, Chained (prevByRun.get? runId) (items.filter (·.run = runId)) := by
  induction items generalizing prevByRun with
  | nil => exact ⟨fun _ _ => trivial, fun _ => ⟨prevByRun, rfl⟩⟩
  | cons item items ih =>
      simp only [List.foldlM_cons, except_bind_eq_ok, checkLink_eq_ok]
      constructor
      · rintro ⟨result, next, ⟨hfollows, rfl⟩, hrest⟩ runId
        have hchained := ih.mp ⟨result, hrest⟩ runId
        by_cases hrun : item.run = runId
        · subst hrun
          rw [List.filter_cons_of_pos (by simp)]
          rw [OrderedDict.get?_set_self] at hchained
          exact ⟨hfollows, hchained⟩
        · rw [List.filter_cons_of_neg (by simpa using hrun)]
          rwa [OrderedDict.get?_set, if_neg (Ne.symm hrun)] at hchained
      · intro hchained
        have hitem := hchained item.run
        rw [List.filter_cons_of_pos (by simp)] at hitem
        obtain ⟨result, hresult⟩ := ih.mpr fun runId => show
            Chained ((prevByRun.set item.run item).get? runId) (items.filter (·.run = runId)) by
          by_cases hrun : item.run = runId
          · subst hrun
            rw [OrderedDict.get?_set_self]
            exact hitem.2
          · have hother := hchained runId
            rw [List.filter_cons_of_neg (by simpa using hrun)] at hother
            rwa [OrderedDict.get?_set, if_neg (Ne.symm hrun)]
        exact ⟨result, _, ⟨hitem.1, rfl⟩, hresult⟩

/-! ## What is accepted -/

section Accepted

variable {platform : Platform} {receipts : List Mapping} {receipt : Mapping} {record : Linked}

theorem chainKeyLe_iff {first second : Linked} :
    chainKeyLe first second = true ↔
      first.run < second.run ∨ first.run = second.run ∧ first.seq ≤ second.seq := by
  simp [chainKeyLe]

theorem chainKeyLe_trans (first second third : Linked) (hfirst : chainKeyLe first second = true)
    (hsecond : chainKeyLe second third = true) : chainKeyLe first third = true := by
  rw [chainKeyLe_iff] at hfirst hsecond ⊢
  rcases hfirst with hfirst | ⟨hfirst, hle⟩
  · rcases hsecond with hsecond | ⟨hsecond, -⟩
    · exact .inl (lt_trans hfirst hsecond)
    · exact .inl (hsecond ▸ hfirst)
  · rw [hfirst]
    rcases hsecond with hsecond | ⟨hsecond, hle'⟩
    · exact .inl hsecond
    · exact .inr ⟨hsecond, hle.trans hle'⟩

theorem chainKeyLe_total (first second : Linked) :
    (chainKeyLe first second || chainKeyLe second first) = true := by
  rw [Bool.or_eq_true, chainKeyLe_iff, chainKeyLe_iff]
  rcases lt_trichotomy first.run second.run with hlt | heq | hgt
  · exact .inl (.inl hlt)
  · rcases le_total first.seq second.seq with hle | hle
    · exact .inl (.inr ⟨heq, hle⟩)
    · exact .inr (.inr ⟨heq.symm, hle⟩)
  · exact .inr (.inl hgt)

/-- Sorted by the key, the records of a run are sorted by their numbers. -/
theorem chained_sorted_iff {records : List Linked} {runId : String} :
    Chained none ((records.mergeSort chainKeyLe).filter (·.run = runId)) ↔
      Complete (records.filter (·.run = runId)) := by
  have hsorted := List.pairwise_mergeSort chainKeyLe_trans chainKeyLe_total records
  have hperm := (List.mergeSort_perm records chainKeyLe).filter (·.run = runId)
  rw [ChainRecord.chained_iff_complete]
  · exact ⟨fun hcomplete => hcomplete.perm hperm, fun hcomplete => hcomplete.perm hperm.symm⟩
  · refine (hsorted.filter _).imp_of_mem fun hfirst hsecond hkey => ?_
    have hfirst := of_decide_eq_true (List.mem_filter.mp hfirst).2
    have hsecond := of_decide_eq_true (List.mem_filter.mp hsecond).2
    rcases chainKeyLe_iff.mp hkey with hlt | ⟨-, hle⟩
    · rw [hfirst, hsecond] at hlt
      exact absurd hlt (lt_irrefl runId)
    · exact hle

theorem mapM_normalizeReceipt (hformed : ∀ receipt ∈ receipts, WellFormed platform receipt) :
    ∃ normalized, (receipts.filter (HasContinuity ·)).mapM (normalizeReceipt platform) =
        .ok normalized ∧
      normalized.filterMap linked? = receipts.filterMap (link? platform) := by
  induction receipts with
  | nil => exact ⟨[], rfl, rfl⟩
  | cons receipt receipts ih =>
      obtain ⟨hhead, htail⟩ := List.forall_mem_cons.mp hformed
      obtain ⟨rest, hrest, hlinks⟩ := ih htail
      by_cases hcontinuity : HasContinuity receipt
      · obtain ⟨normalized, hnormalized⟩ := hhead hcontinuity
        refine ⟨normalized :: rest, ?_, ?_⟩
        · rw [List.filter_cons_of_pos (by simpa using hcontinuity), List.mapM_cons, hnormalized,
            except_ok_bind, hrest]
          rfl
        · have hlink : link? platform receipt = linked? normalized := by
            rw [link?, if_pos hcontinuity, hnormalized]
            rfl
          rw [List.filterMap_cons, List.filterMap_cons, hlink, hlinks]
      · refine ⟨rest, ?_, ?_⟩
        · rwa [List.filter_cons_of_neg (by simpa using hcontinuity)]
        · have hlink : link? platform receipt = none := if_neg hcontinuity
          rw [List.filterMap_cons, hlink, hlinks]

/-- Well-formed receipts are accepted when every run is complete. -/
theorem accepts_iff (hformed : ∀ receipt ∈ receipts, WellFormed platform receipt) :
    Accepts platform receipts ↔ ∀ runId, Complete (runLinks platform receipts runId) := by
  obtain ⟨normalized, hnormalized, hlinks⟩ := mapM_normalizeReceipt hformed
  have hloop := @foldlM_checkLink ((normalized.filterMap linked?).mergeSort chainKeyLe) .empty
  simp only [OrderedDict.get?_empty, chained_sorted_iff, hlinks] at hloop
  unfold Accepts runLinks
  rw [← hloop, verifyContinuityChain, hnormalized, except_ok_bind, hlinks, except_bind_eq_ok]
  simp

theorem runLinks_perm {others : List Mapping} (hperm : receipts.Perm others) (runId : String) :
    (runLinks platform receipts runId).Perm (runLinks platform others runId) :=
  (hperm.filterMap _).filter _

theorem runLinks_cons (hlink : link? platform receipt = some record) :
    runLinks platform (receipt :: receipts) record.run =
      record :: runLinks platform receipts record.run := by
  rw [runLinks, List.filterMap_cons, hlink, List.filter_cons_of_pos (by simp)]
  rfl

/-- Without a receipt that is not the last of its run, and with that receipt twice, the run is
not complete. -/
theorem not_complete_of_nonLast (hlink : link? platform receipt = some record)
    (hcomplete : Complete (runLinks platform (receipt :: receipts) record.run))
    (hlater : ∃ later ∈ runLinks platform (receipt :: receipts) record.run,
      record.seq < later.seq) :
    ¬Complete (runLinks platform receipts record.run) ∧
      ¬Complete (runLinks platform (receipt :: receipt :: receipts) record.run) := by
  rw [runLinks_cons hlink] at hcomplete hlater
  obtain ⟨later, hlater, hlt⟩ := hlater
  refine ⟨hcomplete.not_complete_tail hlater hlt, ?_⟩
  rw [runLinks_cons hlink, runLinks_cons hlink]
  exact Complete.not_complete_cons List.mem_cons_self

/-- Exactly the complete chains are accepted, in any order; no receipt but the last of a run can
be removed, and none can be given twice. -/
theorem verifyContinuityChain_iff_complete
    (hformed : ∀ receipt ∈ receipts, WellFormed platform receipt) :
    (Accepts platform receipts ↔ ∀ runId, Complete (runLinks platform receipts runId)) ∧
      (∀ others, receipts.Perm others → (Accepts platform others ↔ Accepts platform receipts)) ∧
      (Accepts platform receipts → ∀ first receipt second, receipts = first ++ receipt :: second →
        NonLast platform receipts receipt → ¬Accepts platform (first ++ second) ∧
          ∀ others, others.Perm (receipt :: receipts) → ¬Accepts platform others) := by
  have hsubset : ∀ others : List Mapping, (∀ receipt ∈ others, receipt ∈ receipts) →
      (Accepts platform others ↔ ∀ runId, Complete (runLinks platform others runId)) :=
    fun others hothers => accepts_iff fun receipt hreceipt => hformed receipt (hothers _ hreceipt)
  refine ⟨accepts_iff hformed, fun others hperm => ?_, ?_⟩
  · rw [hsubset others fun _ hmem => hperm.mem_iff.mpr hmem, accepts_iff hformed]
    exact forall_congr' fun runId =>
      ⟨fun hcomplete => hcomplete.perm (runLinks_perm hperm runId).symm,
        fun hcomplete => hcomplete.perm (runLinks_perm hperm runId)⟩
  · rintro haccepts first receipt second rfl ⟨record, hlink, later, hlater, hlt⟩
    have hmiddle : (first ++ receipt :: second).Perm (receipt :: (first ++ second)) :=
      List.perm_middle
    have hcomplete := ((accepts_iff hformed).mp haccepts record.run).perm
      (runLinks_perm hmiddle record.run)
    have hlater := (runLinks_perm hmiddle record.run).mem_iff.mp hlater
    obtain ⟨hremoved, htwice⟩ :=
      not_complete_of_nonLast hlink hcomplete ⟨later, hlater, hlt⟩
    refine ⟨fun hrest => ?_, fun others hothers haccepted => ?_⟩
    · refine hremoved ((hsubset _ fun other hother => ?_).mp hrest record.run)
      exact hmiddle.mem_iff.mpr (List.mem_cons_of_mem _ hother)
    · have hperm := hothers.trans (hmiddle.cons receipt)
      refine htwice (((hsubset _ fun other hother => ?_).mp haccepted record.run).perm
        (runLinks_perm hperm record.run))
      rcases List.mem_cons.mp (hothers.mem_iff.mp hother) with rfl | hmem
      · simp
      · exact hmem

end Accepted

/-! ## What is built -/

/-- Two mappings with the same entries, in whatever order. -/
def SameEntries (value other : PyValue) : Prop :=
  ∃ items others, value = .dict items ∧ other = .dict others ∧
    ∀ key, (OrderedDict.ofList items).get? key = (OrderedDict.ofList others).get? key

section Built

variable (platform : Platform) (runId : String)

/-- The continuity of the receipt is the one that was built from the prior receipt. -/
def Continues (prior : Option Mapping) (receipt : Mapping) : Prop :=
  ∃ built, continuityFromPrior platform runId prior = .ok built ∧
    SameEntries (receipt.getValue "continuity") built

/-- The receipts of a run: the first one may have no continuity. -/
structure Issued (receipts : List Mapping) : Prop where
  first : ∀ receipt ∈ receipts.head?, HasContinuity receipt → Continues platform runId none receipt
  later : receipts.IsChain fun prior receipt => Continues platform runId (some prior) receipt

variable {platform : Platform} {runId : String} {prior receipt : Mapping}
variable {normalized : AgentReceipt} {receipts : List Mapping}

/-- What the builder reads of a prior receipt whose place is that of the record. -/
structure Placed (platform : Platform) (prior : Mapping) (record : Linked) : Prop where
  seq : nextSequenceNumber platform (prior.getValue "continuity") = .ok (record.seq + 1)
  positive : 1 ≤ record.seq
  digest : ∃ normalized, normalizeReceipt platform prior = .ok normalized ∧
    record.digest = normalized.messageDigestSha256Hex

theorem hasContinuity_of_sameEntries {built : PyValue}
    (hsame : SameEntries (receipt.getValue "continuity") built) : HasContinuity receipt := by
  obtain ⟨items, others, hvalue, -, -⟩ := hsame
  unfold HasContinuity
  rw [hvalue]
  rfl

theorem ChainLink.parse_eq_ok {sequenceNumber : Int} {text : String} {link : ChainLink}
    (hlink : ChainLink.parse sequenceNumber text = .ok link) :
    link.sequenceNumber = sequenceNumber ∧
      (link.prevMessageDigestSha256Hex.map (·.val)).getD "" = text := by
  unfold ChainLink.parse at hlink
  split at hlink
  · cases hlink
  split at hlink
  next hfirst =>
    split at hlink
    next hblank =>
      cases hlink
      exact ⟨hfirst.symm, hblank.symm⟩
    next => cases hlink
  next hlater =>
    obtain ⟨digest, hdigest, rfl⟩ := except_map_eq_ok.mp hlink
    exact ⟨rfl, (requireHex64_eq_ok.mp hdigest).symm⟩

theorem Matching.option_ext {re : String → Bool} (hempty : re "" = false)
    {token other : Option (Matching re)}
    (htext : (token.map (·.val)).getD "" = (other.map (·.val)).getD "") : token = other := by
  cases token with
  | none =>
      cases other with
      | none => rfl
      | some other => exact absurd htext.symm (other.ne_empty hempty)
  | some token =>
      cases other with
      | none => exact absurd htext (token.ne_empty hempty)
      | some other => exact congrArg some (Subtype.ext htext)

theorem normalizeContinuity_built (laws : platform.LowerLaws) {prev : Option Hex64}
    {sequenceNumber : Int} {run : Uuid} {items : List (String × PyValue)}
    {execution : Option ExecutionSection} {continuity : ContinuitySection}
    (hlookup : ∀ key, (OrderedDict.ofList items).get? key =
      OrderedDict.fieldValue key (continuityFields prev sequenceNumber run).entries)
    (hread : normalizeContinuity platform (.dict items) execution = .ok continuity) :
    continuity.runId = run ∧ continuity.link.sequenceNumber = sequenceNumber ∧
      continuity.link.prevMessageDigestSha256Hex = prev := by
  have hprev : platform.stripLower (platform.strOrBlank
      ((prev.map fun d => PyValue.str d.val).getD .none)) = (prev.map (·.val)).getD "" := by
    cases prev with
    | none => exact Platform.stripLower_eq_self laws nofun
    | some digest =>
        have htruthy : platform.strOrBlank (.str digest.val) = digest.val := by
          simp [Platform.strOrBlank, PyValue.truthy, digest.ne_empty (by decide)]
        change platform.stripLower (platform.strOrBlank (.str digest.val)) = digest.val
        rw [htruthy, Platform.stripLower_hex64 laws]
  simp only [normalizeContinuity, asMapping, except_ok_bind, Platform.strItem, item,
    OrderedDict.getValue, hlookup, continuityFields, OrderedDict.fieldValue_cons_self,
    OrderedDict.fieldValue_cons_ne, ne_eq, String.reduceEq, not_false_eq_true, Functor.map,
    Except.map, Platform.str_str, Platform.parseUuid_uuid laws, Platform.int_int, hprev,
    except_bind_eq_ok, raiseIf_eq_ok, exists_const, except_pure_eq_ok] at hread
  obtain ⟨link, hlink, -, rfl⟩ := hread
  obtain ⟨hseq, hdigest⟩ := ChainLink.parse_eq_ok hlink
  exact ⟨rfl, hseq, Matching.option_ext (by decide) hdigest⟩

/-- The place of a receipt whose continuity was built. -/
theorem link?_of_continuityFields (laws : platform.LowerLaws) {prev : Option Hex64}
    {sequenceNumber : Int} {run : Uuid} (hpositive : 1 ≤ sequenceNumber)
    (hnormalized : normalizeReceipt platform receipt = .ok normalized)
    (hsame : SameEntries (receipt.getValue "continuity")
      (.dict (continuityFields prev sequenceNumber run).items)) :
    ∃ record, link? platform receipt = some record ∧ record.run = run.val ∧
      record.seq = sequenceNumber ∧ record.prev = prev.map (·.val) ∧
      Placed platform receipt record := by
  have hcontinuity := hasContinuity_of_sameEntries hsame
  obtain ⟨items, others, hvalue, hother, hentries⟩ := hsame
  obtain rfl := PyValue.dict.inj hother
  have hread := (normalizeReceipt_eq_ok.mp hnormalized).continuity
  rw [hvalue] at hread
  obtain ⟨continuity, hparsed, hpart⟩ := except_map_eq_ok.mp hread
  have hlookup : ∀ key, (OrderedDict.ofList items).get? key =
      OrderedDict.fieldValue key (continuityFields prev sequenceNumber run).entries := by
    intro key
    rw [hentries key]
    exact OrderedDict.Fields.get?_mapping _ key
  obtain ⟨hrun, hseq, hprev⟩ := normalizeContinuity_built laws hlookup hparsed
  let record : Linked :=
    { run := continuity.runId.val
      seq := continuity.link.sequenceNumber
      prev := continuity.link.prevMessageDigestSha256Hex.map (·.val)
      digest := normalized.messageDigestSha256Hex }
  have hnext : nextSequenceNumber platform (receipt.getValue "continuity") =
      .ok (sequenceNumber + 1) := by
    have htruthy : (PyValue.int sequenceNumber).truthy = true := decide_eq_true (by omega)
    have hnumber : (OrderedDict.ofList items).getValue "sequence_number" = .int sequenceNumber := by
      rw [OrderedDict.getValue, hlookup]
      rfl
    rw [hvalue, nextSequenceNumber, hnumber, if_pos htruthy, Platform.int_int, except_ok_bind,
      if_pos (by omega)]
    rfl
  refine ⟨record, ?_, congrArg Subtype.val hrun, hseq, congrArg (Option.map (·.val)) hprev, ?_⟩
  · rw [link?, if_pos hcontinuity, hnormalized]
    change linked? normalized = _
    rw [linked?, ← hpart]
    rfl
  · have hrecord : record.seq = sequenceNumber := hseq
    refine ⟨?_, ?_, normalized, hnormalized, rfl⟩
    · rwa [hrecord]
    · rwa [hrecord]

/-- The digest that the builder reads is that of the normalized receipt. -/
theorem strOrBlank_digest (hnormalized : normalizeReceipt platform prior = .ok normalized)
    {prev : Hex64} {field : String}
    (hprev : requireHex64 (platform.stripLower
      (platform.strOrBlank (prior.getValue "message_digest_sha256_hex"))) field = .ok prev)
    (hblank : platform.stripLower "" = "") :
    prev.val = normalized.messageDigestSha256Hex := by
  obtain ⟨text, htext, hdigest⟩ := (normalizeReceipt_eq_ok.mp hnormalized).messageDigest
  have hread := requireHex64_eq_ok.mp hprev
  rw [Platform.strOrBlank, strItem_eq_ok htext] at hread
  split at hread
  · exact hread.symm.trans hdigest
  · rw [hblank] at hread
    exact absurd hread.symm (prev.ne_empty (by decide))

/-- A built receipt comes right after the receipt it was built from. -/
theorem link?_of_continues (laws : platform.LowerLaws) {before : Linked} {run : Uuid}
    (hrun : platform.parseUuid runId "continuity.run_id" = .ok run)
    (hplaced : Placed platform prior before)
    (hcontinues : Continues platform runId (some prior) receipt)
    (hnormalized : normalizeReceipt platform receipt = .ok normalized) :
    ∃ record, link? platform receipt = some record ∧ record.run = run.val ∧
      Follows (some before) record ∧ Placed platform receipt record := by
  obtain ⟨built, hbuilt, hsame⟩ := hcontinues
  simp only [continuityFromPrior, hrun, except_ok_bind, except_bind_eq_ok, raiseIf_eq_ok,
    exists_const, except_pure_eq_ok, hplaced.seq] at hbuilt
  obtain ⟨-, prev, hprev, rfl⟩ := hbuilt
  have hpositive := hplaced.positive
  obtain ⟨record, hlink, hrecord, hseq, hdigest, hnext⟩ :=
    link?_of_continuityFields laws (by omega) hnormalized hsame
  refine ⟨record, hlink, hrecord, ⟨hseq, ?_⟩, hnext⟩
  obtain ⟨normalizedPrior, hprior, hbefore⟩ := hplaced.digest
  have hblank : platform.stripLower "" = "" :=
    Platform.stripLower_eq_self laws fun _ hmem => absurd hmem List.not_mem_nil
  rw [hdigest, hbefore, ← strOrBlank_digest hprior hprev hblank]
  rfl

/-- The receipts that come after a placed one are linked one after the other. -/
theorem links_of_isChain (laws : platform.LowerLaws) {before : Linked} {run : Uuid}
    (hrun : platform.parseUuid runId "continuity.run_id" = .ok run)
    (hplaced : Placed platform prior before)
    (hchain : (prior :: receipts).IsChain fun prior receipt =>
      Continues platform runId (some prior) receipt)
    (hnormal : ∀ receipt ∈ receipts, ∃ normalized,
      normalizeReceipt platform receipt = .ok normalized) :
    Chained (some before) (receipts.filterMap (link? platform)) ∧
      (∀ record ∈ receipts.filterMap (link? platform), record.run = run.val) ∧
      (receipts.filterMap (link? platform)).length = receipts.length := by
  induction receipts generalizing prior before with
  | nil => exact ⟨trivial, nofun, rfl⟩
  | cons receipt receipts ih =>
      obtain ⟨hcontinues, hrest⟩ := List.isChain_cons_cons.mp hchain
      obtain ⟨⟨normalized, hnormalized⟩, hnormal⟩ := List.forall_mem_cons.mp hnormal
      obtain ⟨record, hlink, hrecord, hfollows, hnext⟩ :=
        link?_of_continues laws hrun hplaced hcontinues hnormalized
      obtain ⟨hchained, hruns, hlength⟩ := ih hnext hrest hnormal
      rw [List.filterMap_cons_some hlink]
      exact ⟨⟨hfollows, hchained⟩, List.forall_mem_cons.mpr ⟨hrecord, hruns⟩,
        congrArg (· + 1) hlength⟩

theorem accepts_iff_of_run (run : String)
    (hformed : ∀ receipt ∈ receipts, WellFormed platform receipt)
    (hruns : ∀ record ∈ receipts.filterMap (link? platform), record.run = run) :
    Accepts platform receipts ↔ Complete (receipts.filterMap (link? platform)) := by
  have hrun : runLinks platform receipts run = receipts.filterMap (link? platform) :=
    List.filter_eq_self.mpr fun record hrecord => decide_eq_true (hruns _ hrecord)
  rw [accepts_iff hformed]
  refine ⟨fun hall => hrun ▸ hall run, fun hcomplete other => ?_⟩
  by_cases hother : run = other
  · rwa [← hother, hrun]
  · have hnone : runLinks platform receipts other = [] := by
      refine List.filter_eq_nil_iff.mpr fun record hrecord hsame => hother ?_
      exact (hruns record hrecord).symm.trans (of_decide_eq_true hsame)
    rw [hnone]
    exact ChainRecord.complete_nil

theorem accepts_of_first {first : Mapping} (laws : platform.LowerLaws)
    (hnormal : ∀ receipt ∈ first :: receipts, ∃ normalized,
      normalizeReceipt platform receipt = .ok normalized)
    (hfirst : Continues platform runId none first)
    (hlater : (first :: receipts).IsChain fun prior receipt =>
      Continues platform runId (some prior) receipt) : Accepts platform (first :: receipts) := by
  obtain ⟨⟨normalized, hnormalized⟩, hrest⟩ := List.forall_mem_cons.mp hnormal
  obtain ⟨built, hbuilt, hsame⟩ := hfirst
  simp only [continuityFromPrior, except_bind_eq_ok, except_pure_eq_ok] at hbuilt
  obtain ⟨run, hrun, rfl⟩ := hbuilt
  obtain ⟨record, hlink, hrecord, hseq, hprev, hplaced⟩ :=
    link?_of_continuityFields laws (le_refl 1) hnormalized hsame
  obtain ⟨hchained, hruns, -⟩ := links_of_isChain laws hrun hplaced hlater hrest
  have hformed : ∀ receipt ∈ first :: receipts, WellFormed platform receipt :=
    fun receipt hreceipt _ => hnormal receipt hreceipt
  rw [accepts_iff_of_run run.val hformed, List.filterMap_cons_some hlink]
  · exact Chained.complete ⟨⟨hseq, hprev⟩, hchained⟩
  · rw [List.filterMap_cons_some hlink]
    exact List.forall_mem_cons.mpr ⟨hrecord, hruns⟩

theorem accepts_of_link?_eq_none (hlinks : ∀ receipt ∈ receipts, ¬HasContinuity receipt) :
    Accepts platform receipts := by
  have hformed : ∀ receipt ∈ receipts, WellFormed platform receipt :=
    fun receipt hreceipt hcontinuity => absurd hcontinuity (hlinks receipt hreceipt)
  have hnone : receipts.filterMap (link? platform) = [] :=
    List.filterMap_eq_nil_iff.mpr fun receipt hreceipt => if_neg (hlinks receipt hreceipt)
  rw [accepts_iff_of_run "" hformed, hnone]
  · exact ChainRecord.complete_nil
  · rw [hnone]
    nofun

/-- The builder counts a first receipt without a continuity as the one with number 1, and the
verifier leaves it out. -/
theorem not_accepts_of_unlinked_first {first second : Mapping} (laws : platform.LowerLaws)
    (hnormal : ∀ receipt ∈ first :: second :: receipts, ∃ normalized,
      normalizeReceipt platform receipt = .ok normalized)
    (hfirst : ¬HasContinuity first)
    (hlater : (first :: second :: receipts).IsChain fun prior receipt =>
      Continues platform runId (some prior) receipt) :
    ¬Accepts platform (first :: second :: receipts) := by
  obtain ⟨⟨normalized, hnormalized⟩, hrest⟩ := List.forall_mem_cons.mp hnormal
  have hcontinuity : first.getValue "continuity" = .none := by
    cases hvalue : first.getValue "continuity" with
    | none => rfl
    | _ => exact absurd (by rw [HasContinuity, hvalue]; rfl) hfirst
  obtain ⟨⟨built, hbuilt, -⟩, -⟩ := List.isChain_cons_cons.mp hlater
  obtain ⟨run, hrun, -⟩ := except_bind_eq_ok.mp hbuilt
  let before : Linked :=
    { run := run.val, seq := 1, prev := none, digest := normalized.messageDigestSha256Hex }
  have hplaced : Placed platform first before :=
    { seq := by rw [hcontinuity]; rfl
      positive := le_refl 1
      digest := ⟨normalized, hnormalized, rfl⟩ }
  obtain ⟨hchained, hruns, hlength⟩ := links_of_isChain laws hrun hplaced hlater hrest
  have hformed : ∀ receipt ∈ first :: second :: receipts, WellFormed platform receipt :=
    fun receipt hreceipt _ => hnormal receipt hreceipt
  have hlink : link? platform first = none := if_neg hfirst
  rw [accepts_iff_of_run run.val hformed, List.filterMap_cons_none hlink]
  · refine hchained.not_complete (le_refl 1) fun hnil => ?_
    rw [hnil] at hlength
    exact absurd hlength (by simp)
  · rwa [List.filterMap_cons_none hlink]

/-- The receipts of a run that were linked by the builder are accepted, unless the first of several
receipts has no continuity. -/
theorem verifyContinuityChain_issued_iff (laws : platform.LowerLaws)
    (hnormal : ∀ receipt ∈ receipts, ∃ normalized,
      normalizeReceipt platform receipt = .ok normalized)
    (hissued : Issued platform runId receipts) :
    Accepts platform receipts ↔
      receipts.length ≤ 1 ∨ ∀ first ∈ receipts.head?, HasContinuity first := by
  cases receipts with
  | nil => exact iff_of_true (accepts_of_link?_eq_none nofun) (.inr nofun)
  | cons first rest =>
      by_cases hfirst : HasContinuity first
      · refine iff_of_true ?_ (.inr fun receipt hreceipt => Option.some.inj hreceipt ▸ hfirst)
        exact accepts_of_first laws hnormal (hissued.first first rfl hfirst) hissued.later
      · cases rest with
        | nil =>
            refine iff_of_true (accepts_of_link?_eq_none ?_) (.inl (by simp))
            simpa using hfirst
        | cons second rest =>
            refine iff_of_false
              (not_accepts_of_unlinked_first laws hnormal hfirst hissued.later) ?_
            rintro (hlength | hhead)
            · simp at hlength
            · exact hfirst (hhead first rfl)

end Built

/-! ## Two tool calls -/

section ReadBack

variable {platform : Platform}

theorem sameEntries_fields (continuity : ContinuitySection) :
    SameEntries (.dict continuity.fields.items)
      (.dict (continuityFields continuity.link.prevMessageDigestSha256Hex
        continuity.link.sequenceNumber continuity.runId).items) := by
  refine ⟨_, _, rfl, rfl, fun key => ?_⟩
  change continuity.fields.mapping.get? key = (continuityFields ..).mapping.get? key
  rw [OrderedDict.Fields.get?_mapping, OrderedDict.Fields.get?_mapping]
  by_cases hprev : "prev_message_digest_sha256_hex" = key
  · subst hprev
    simp [ContinuitySection.fields, continuityFields]
  · have hlast := OrderedDict.fieldValue_append_cons_ne hprev
      (continuity.link.prevMessageDigestSha256Hex.map (PyValue.str ·.val))
      [("sequence_number", some (.int continuity.link.sequenceNumber)),
        ("run_id", some (.str continuity.runId.val))] []
    exact hlast.trans (OrderedDict.fieldValue_cons_ne hprev _ _).symm

theorem namedRun_fields (laws : platform.LowerLaws) {fields : PyFields} {run : Uuid}
    (hrun : OrderedDict.fieldValue "run_id" fields.entries = some (.str run.val)) :
    namedRun platform (.dict fields.items) = some run.val := by
  have hvalue : (OrderedDict.ofList fields.items).getValue "run_id" = .str run.val := by
    rw [OrderedDict.getValue]
    exact congrArg (·.getD PyValue.none) ((OrderedDict.Fields.get?_mapping ..).trans hrun)
  have hstrip : pyStrip run.val ≠ "" := by
    rw [pyStrip_eq_self fun c hc =>
      not_isPySpace_of_isTokenChar (admitsTokens_uuidRe _ run.property c hc)]
    exact run.ne_empty (by decide)
  have htruthy : (PyValue.str run.val).truthy = true := decide_eq_true (run.ne_empty (by decide))
  rw [namedRun, hvalue, Platform.strOrBlank, if_pos htruthy, Platform.str_str, if_neg hstrip,
    Platform.stripLower_uuid laws]

theorem namedRun_continuity (laws : platform.LowerLaws) {part : Option ContinuitySection}
    {run : Uuid} (hrun : ∀ continuity ∈ part, continuity.runId = run) :
    namedRun platform ((part.map (PyValue.dict ·.fields.items)).getD .none) =
      part.map fun _ => run.val := by
  cases part with
  | none => rfl
  | some continuity =>
      rw [← hrun continuity rfl]
      exact namedRun_fields laws (by simp [ContinuitySection.fields])

theorem namedRun_execution (laws : platform.LowerLaws) {part : Option ExecutionSection}
    {run : Uuid} (hrun : ∀ execution ∈ part, execution.runId = run) :
    namedRun platform ((part.map (PyValue.dict ·.fields.items)).getD .none) =
      part.map fun _ => run.val := by
  cases part with
  | none => rfl
  | some execution =>
      rw [← hrun execution rfl]
      exact namedRun_fields laws (by simp [ExecutionSection.fields])

theorem ChainLink.sequenceNumber_pos (link : ChainLink) : 0 < link.sequenceNumber := by
  cases link with
  | first => exact Int.one_pos
  | after seq prev => exact Int.one_pos.trans seq.property

theorem nextSequenceNumber_continuity (part : Option ContinuitySection) :
    nextSequenceNumber platform ((part.map (PyValue.dict ·.fields.items)).getD .none) =
      .ok ((part.map (·.link.sequenceNumber)).getD 1 + 1) := by
  cases part with
  | none => rfl
  | some continuity =>
      have hpositive := continuity.link.sequenceNumber_pos
      have htruthy : (PyValue.int continuity.link.sequenceNumber).truthy = true :=
        decide_eq_true (by omega)
      have hnumber : (OrderedDict.ofList continuity.fields.items).getValue "sequence_number" =
          .int continuity.link.sequenceNumber := by
        rw [OrderedDict.getValue]
        exact congrArg (·.getD PyValue.none)
          (OrderedDict.Fields.get?_mapping continuity.fields "sequence_number")
      rw [Option.map_some, Option.getD_some, nextSequenceNumber, hnumber, if_pos htruthy,
        Platform.int_int, except_ok_bind, if_pos hpositive]
      rfl

/-- What is built from a normalized receipt of the run. -/
theorem continuityFromPrior_toMapping (laws : platform.LowerLaws) {receipt : AgentReceipt}
    {run : Uuid} {digest : Hex64} (hdigest : receipt.messageDigestSha256Hex = digest.val)
    (hcontinuity : ∀ continuity ∈ receipt.continuity, continuity.runId = run)
    (hexecution : ∀ execution ∈ receipt.execution, execution.runId = run) :
    continuityFromPrior platform run.val (some receipt.toMapping) =
      .ok (.dict (continuityFields (some digest)
        ((receipt.continuity.map (·.link.sequenceNumber)).getD 1 + 1) run).items) := by
  have hlinked : receipt.toMapping.getValue "continuity" =
      (receipt.continuity.map (PyValue.dict ·.fields.items)).getD .none := by
    simp [getValue_toMapping, AgentReceipt.fields]
  have hexecuted : receipt.toMapping.getValue "execution" =
      (receipt.execution.map (PyValue.dict ·.fields.items)).getD .none := by
    simp [getValue_toMapping, AgentReceipt.fields]
  have hmessage : receipt.toMapping.getValue "message_digest_sha256_hex" = .str digest.val := by
    simp [getValue_toMapping, AgentReceipt.fields, hdigest]
  have hrun : ((receipt.continuity.map fun _ => run.val).or
      (receipt.execution.map fun _ => run.val)).getD run.val = run.val := by
    cases receipt.continuity <;> cases receipt.execution <;> rfl
  have htruthy : platform.strOrBlank (.str digest.val) = digest.val := by
    simp [Platform.strOrBlank, PyValue.truthy, digest.ne_empty (by decide)]
  rw [continuityFromPrior, Platform.parseUuid_uuid laws, except_ok_bind]
  dsimp only
  rw [hlinked, hexecuted, hmessage, namedRun_continuity laws hcontinuity,
    namedRun_execution laws hexecution, hrun, htruthy, Platform.requireHex64_hex64 laws,
    nextSequenceNumber_continuity]
  simp only [raiseIf, ne_eq, not_true_eq_false, if_false, except_ok_bind]
  rfl

end ReadBack

section Calls

def runBooked : Uuid := ⟨"7b5e2c1a-9d3f-4c8b-a6e1-2f4d6c8b0a13", by decide +kernel⟩

/-- A tool call of the run, the identifier of its receipt and the digest that was signed. -/
structure BookedCall where
  toolCallId : Text
  receiptId : Hex64
  signed : SignedDigest

def firstCall : BookedCall where
  toolCallId := ⟨"call-1", by decide +kernel⟩
  receiptId :=
    ⟨"4ca832beb5a7d01537470e9ca9b3063331323936e06398db0702a6d829e43795",
      hex64Re_ofList (by decide) rfl⟩
  signed := signedFirst

def secondCall : BookedCall where
  toolCallId := ⟨"call-2", by decide +kernel⟩
  receiptId :=
    ⟨"acb6aa97eb54f3ffcba7069f5dbc87570a6463b506b3884d4c8af348818cbfbc",
      hex64Re_ofList (by decide) rfl⟩
  signed := signedBlank

def BookedCall.execution (call : BookedCall) : ExecutionSection where
  runId := runBooked
  toolCallId := call.toolCallId
  toolName := ⟨"travel.book_hotel", by decide +kernel⟩
  operation := ⟨"travel.book_hotel", by decide +kernel⟩
  argumentsDigestSha256Hex := zeroDigest
  outcome := .executed
  startedAt := "2026-01-01T00:00:00Z"
  completedAt := "2026-01-01T00:00:00Z"
  resultDigestSha256Hex := none
  durationMs := none
  teeAttestationDigestSha256Hex := none

/-- The receipt of an executed call, with or without its place in the run. -/
def actionReceipt (call : BookedCall) (link : Option ChainLink) : AgentReceipt :=
  { terminalReceipt none [] call.signed with
    scope := .action
    receiptId := call.receiptId.val
    execution := some call.execution
    continuity := link.map fun link => { link, runId := runBooked } }

/-- The identifiers of the two receipts. -/
def platformBooked : Platform :=
  terminalPlatform fun bytes =>
    if bytes = s!"{terminalIntent.val}\x00{firstCall.toolCallId.val}".toUTF8 then
      firstCall.receiptId.val
    else secondCall.receiptId.val

theorem lowerLaws_booked : platformBooked.LowerLaws := lowerLaws_terminal

theorem rereads_action {call : BookedCall} {link : Option ChainLink}
    (hid : actionReceiptId platformBooked terminalIntent.val call.toolCallId.val =
      call.receiptId.val) : Rereads platformBooked (actionReceipt call link) := by
  have hbase : Rereads platformBooked (terminalReceipt none [] call.signed) := rereads_terminal rfl
  have hvalue : (actionReceipt call link).toMapping.getValue "execution" =
      .dict call.execution.fields.items := by
    simp [getValue_toMapping, AgentReceipt.fields, actionReceipt]
  have hexecution : normalizeExecution platformBooked (.dict call.execution.fields.items) =
      .ok call.execution := by
    have htime : platformBooked.formatRfc3339Seconds "2026-01-01T00:00:00Z" =
        .ok "2026-01-01T00:00:00Z" := formatRfc3339Seconds_terminal
    rw [normalizeExecution_fields lowerLaws_booked]
    change (do
      let startedAt ← platformBooked.formatRfc3339Seconds "2026-01-01T00:00:00Z"
      let completedAt ← platformBooked.formatRfc3339Seconds "2026-01-01T00:00:00Z"
      return { call.execution with startedAt, completedAt }) = _
    rw [htime]
    rfl
  exact
    { receiptId := Platform.stripLower_hex64 lowerLaws_booked call.receiptId
      receiptId_ne := call.receiptId.ne_empty (by decide)
      authorization := hbase.authorization
      externalAttestations := hbase.externalAttestations
      mandate := hbase.mandate
      outcome := fun hsettled => absurd rfl hsettled
      execution := by
        change executionOf platformBooked _ .action = .ok (some call.execution)
        rw [executionOf, hvalue, hexecution]
        rfl
      issuedAt := hbase.issuedAt
      signingAlgorithm := hbase.signingAlgorithm
      messageDigest := hbase.messageDigest
      publicKey := hbase.publicKey
      signature := hbase.signature
      merchant := hbase.merchant
      payment := hbase.payment
      continuity := by
        rintro part hpart executed hexecuted
        obtain ⟨_, _, rfl⟩ := Option.map_eq_some_iff.mp hpart
        obtain rfl := Option.some.inj hexecuted
        exact Platform.stripLower_uuid lowerLaws_booked runBooked
      operatorAttestation := hbase.operatorAttestation
      receiptIdHolds := by
        have hhex : requireHex64 call.receiptId.val "receipt_id" = .ok call.receiptId :=
          requireHex64_eq_ok.mpr rfl
        change (do
          raiseIf (call.receiptId.val ≠
              actionReceiptId platformBooked terminalIntent.val call.toolCallId.val)
            (.valueError "agent receipt: receipt_id does not match action scope derivation")
          let _ ← requireHex64 call.receiptId.val "receipt_id" : Except PyExc Unit) = _
        rw [hid, hhex]
        simp only [raiseIf, ne_eq, not_true_eq_false, if_false]
        rfl }

theorem normalizeReceipt_action {call : BookedCall} {link : Option ChainLink}
    (hid : actionReceiptId platformBooked terminalIntent.val call.toolCallId.val =
      call.receiptId.val) :
    normalizeReceipt platformBooked (actionReceipt call link).toMapping =
      .ok (actionReceipt call link) :=
  normalizeReceipt_eq_ok.mpr (normalizes_toMapping lowerLaws_booked (rereads_action hid))

theorem actionReceiptId_firstCall :
    actionReceiptId platformBooked terminalIntent.val firstCall.toolCallId.val =
      firstCall.receiptId.val := by decide +kernel

theorem actionReceiptId_secondCall :
    actionReceiptId platformBooked terminalIntent.val secondCall.toolCallId.val =
      secondCall.receiptId.val := by decide +kernel

/-- What the builder makes of the first receipt, with or without a continuity. -/
def secondLink : ChainLink := .after ⟨2, by decide⟩ firstCall.signed.digest

def firstReceipt (link : Option ChainLink) : Mapping := (actionReceipt firstCall link).toMapping

def secondReceipt : Mapping := (actionReceipt secondCall (some secondLink)).toMapping

theorem normalizeReceipt_booked (link : Option ChainLink) :
    ∀ receipt ∈ [firstReceipt link, secondReceipt], ∃ normalized,
      normalizeReceipt platformBooked receipt = .ok normalized := by
  intro receipt hreceipt
  rcases List.mem_pair.mp hreceipt with rfl | rfl
  · exact ⟨_, normalizeReceipt_action actionReceiptId_firstCall⟩
  · exact ⟨_, normalizeReceipt_action actionReceiptId_secondCall⟩

theorem continuity_action (call : BookedCall) (link : ChainLink) :
    (actionReceipt call (some link)).toMapping.getValue "continuity" =
      .dict ({ link, runId := runBooked } : ContinuitySection).fields.items := by
  simp [getValue_toMapping, AgentReceipt.fields, actionReceipt]

theorem continues_first :
    Continues platformBooked runBooked.val none (firstReceipt (some .first)) := by
  refine ⟨.dict (continuityFields none 1 runBooked).items, ?_, ?_⟩
  · rw [continuityFromPrior, Platform.parseUuid_uuid lowerLaws_booked]
    rfl
  · rw [firstReceipt, continuity_action]
    exact sameEntries_fields { link := .first, runId := runBooked }

theorem continues_second {link : Option ChainLink} (hlink : link = none ∨ link = some .first) :
    Continues platformBooked runBooked.val (some (firstReceipt link)) secondReceipt := by
  have hbuilt : continuityFromPrior platformBooked runBooked.val (some (firstReceipt link)) =
      .ok (.dict (continuityFields (some firstCall.signed.digest) 2 runBooked).items) := by
    have hdigest : (actionReceipt firstCall link).messageDigestSha256Hex =
        firstCall.signed.digest.val := rfl
    refine (continuityFromPrior_toMapping lowerLaws_booked hdigest ?_ ?_).trans ?_
    · intro continuity hcontinuity
      obtain ⟨_, _, rfl⟩ := Option.map_eq_some_iff.mp hcontinuity
      rfl
    · intro execution hexecution
      obtain rfl := Option.some.inj hexecution
      rfl
    · rcases hlink with rfl | rfl <;> rfl
  refine ⟨_, hbuilt, ?_⟩
  rw [secondReceipt, continuity_action]
  exact sameEntries_fields { link := secondLink, runId := runBooked }

theorem issued_booked {link : Option ChainLink} (hlink : link = none ∨ link = some .first) :
    Issued platformBooked runBooked.val [firstReceipt link, secondReceipt] where
  first receipt hreceipt hcontinuity := by
    obtain rfl := Option.some.inj hreceipt
    rcases hlink with rfl | rfl
    · exact absurd hcontinuity (by decide +kernel)
    · exact continues_first
  later := List.isChain_cons_cons.mpr ⟨continues_second hlink, .singleton _⟩

theorem accepts_booked : Accepts platformBooked [firstReceipt (some .first), secondReceipt] :=
  accepts_of_first lowerLaws_booked (normalizeReceipt_booked _) continues_first
    (issued_booked (.inr rfl)).later

theorem link?_action {call : BookedCall} {link : ChainLink}
    (hid : actionReceiptId platformBooked terminalIntent.val call.toolCallId.val =
      call.receiptId.val) :
    link? platformBooked (actionReceipt call (some link)).toMapping =
      some { run := runBooked.val
             seq := link.sequenceNumber
             prev := link.prevMessageDigestSha256Hex.map (·.val)
             digest := call.signed.digest.val } := by
  have hcontinuity : HasContinuity (actionReceipt call (some link)).toMapping := by
    rw [HasContinuity, continuity_action]
    rfl
  rw [link?, if_pos hcontinuity, normalizeReceipt_action hid]
  rfl

/-- The two receipts are accepted in the other order, and the second one alone is not. -/
theorem verifyContinuityChain_iff_complete_booked :
    Accepts platformBooked [secondReceipt, firstReceipt (some .first)] ∧
      ¬Accepts platformBooked [secondReceipt] := by
  have hformed : ∀ receipt ∈ [firstReceipt (some .first), secondReceipt],
      WellFormed platformBooked receipt :=
    fun receipt hreceipt _ => normalizeReceipt_booked (some .first) receipt hreceipt
  obtain ⟨-, hperm, hremoved⟩ := verifyContinuityChain_iff_complete hformed
  refine ⟨(hperm _ (List.Perm.swap _ _ [])).mpr accepts_booked, ?_⟩
  have hfirst := @link?_action firstCall .first actionReceiptId_firstCall
  have hsecond := @link?_action secondCall secondLink actionReceiptId_secondCall
  have hlater : ∃ later ∈ runLinks platformBooked [firstReceipt (some .first), secondReceipt]
      runBooked.val, 1 < later.seq := by
    rw [runLinks, firstReceipt, secondReceipt, List.filterMap_cons_some hfirst,
      List.filterMap_cons_some hsecond]
    exact ⟨_, List.mem_filter.mpr ⟨List.mem_cons_of_mem _ List.mem_cons_self, decide_eq_true rfl⟩,
      (by decide : (1 : ℤ) < 2)⟩
  exact (hremoved accepts_booked [] _ _ rfl ⟨_, hfirst, hlater⟩).1

/-- Two linked receipts are accepted. -/
theorem verifyContinuityChain_issued_booked :
    Accepts platformBooked [firstReceipt (some .first), secondReceipt] :=
  (verifyContinuityChain_issued_iff lowerLaws_booked (normalizeReceipt_booked _)
    (issued_booked (.inr rfl))).mpr (.inr fun receipt hreceipt => by
      obtain rfl := Option.some.inj hreceipt
      exact hasContinuity_of_sameEntries continues_first.choose_spec.2)

/-- Without a continuity in the first receipt they are rejected. -/
theorem verifyContinuityChain_rejects_unlinked :
    (∀ receipt ∈ [firstReceipt none, secondReceipt], ∃ normalized,
        normalizeReceipt platformBooked receipt = .ok normalized) ∧
      Issued platformBooked runBooked.val [firstReceipt none, secondReceipt] ∧
      ¬Accepts platformBooked [firstReceipt none, secondReceipt] :=
  ⟨normalizeReceipt_booked none, issued_booked (.inl rfl),
    not_accepts_of_unlinked_first lowerLaws_booked (normalizeReceipt_booked none)
      (by decide +kernel) (issued_booked (.inl rfl)).later⟩

end Calls

end PaybondKit.Receipt
