import PaybondKit.Foundation.ByteReader
import PaybondKit.Receipt.Acceptance

/-!
# The ladder of validity tiers

A tier is required by raising checks, and reported as the highest one that a receipt achieves.
The two agree: what is required passes exactly when no more is required than is achieved.
-/

namespace PaybondKit.Receipt

open Agent (PyExc)

/-! ## Tiers in order -/

namespace ValidityTier

def rank : ValidityTier → ℕ
  | .operational => 0
  | .primary => 1
  | .attested => 2

instance : LE ValidityTier := ⟨fun tier other => tier.rank ≤ other.rank⟩

instance : DecidableLE ValidityTier := fun tier other =>
  inferInstanceAs (Decidable (tier.rank ≤ other.rank))

theorem operational_le (tier : ValidityTier) : operational ≤ tier := Nat.zero_le _

end ValidityTier

section Ladder

variable (platform : Platform)

def achievedValidityTier (receipt : AgentReceipt) (trusted : Option (List String)) :
    Except PyExc ValidityTier :=
  match requirePrimaryValidity platform receipt with
  | .error (.valueError _) => .ok .operational
  | .error exception => .error exception
  | .ok () =>
      match receipt.operatorAttestation with
      | some attestation =>
          if allowsOperatorPublicKeyHex platform attestation.signingPublicKeyEd25519Hex.val trusted
          then .ok .attested
          else .ok .primary
      | none => .ok .primary

/-- The receipt achieves at least the tier. -/
def Achieves (receipt : AgentReceipt) (trusted : Option (List String)) (tier : ValidityTier) :
    Prop :=
  ∃ achieved, achievedValidityTier platform receipt trusted = .ok achieved ∧ tier ≤ achieved

end Ladder

section Agreement

variable {platform : Platform} {options : VerifyOptions} {receipt : AgentReceipt}
variable {trusted : Option (List String)}

/-- What the checks of a receipt raise themselves. -/
def IsCheckError (exception : PyExc) : Prop := ∃ message, exception = .valueError message

theorem raises_raiseIf {p : Prop} [Decidable p] (message : String) :
    Raises IsCheckError (raiseIf p (.valueError message)) := by
  unfold raiseIf
  split
  · exact raises_error ⟨message, rfl⟩
  · exact raises_ok ()

theorem raises_requireHex64 (value field : String) :
    Raises IsCheckError (requireHex64 value field) := by
  unfold requireHex64 checked
  split
  · exact raises_ok _
  · exact raises_error ⟨_, rfl⟩

theorem raises_requirePrimaryValidity :
    Raises IsCheckError (requirePrimaryValidity platform receipt) := by
  unfold requirePrimaryValidity
  cases receipt.evidence with
  | none => exact raises_error ⟨_, rfl⟩
  | some evidence =>
      refine (raises_raiseIf _).bind fun _ _ => ?_
      refine (raises_requireHex64 _ _).bind fun _ _ => ?_
      exact (raises_raiseIf _).bind fun _ _ => raises_raiseIf _

/-- Without what the primary tier requires a receipt is operational. -/
theorem achievedValidityTier_of_error {exception : PyExc}
    (herror : requirePrimaryValidity platform receipt = .error exception) :
    achievedValidityTier platform receipt trusted = .ok .operational := by
  obtain ⟨message, rfl⟩ := raises_requirePrimaryValidity exception herror
  rw [achievedValidityTier, herror]

/-- Beyond the primary tier the attestation decides. -/
theorem achievedValidityTier_of_ok (hprimary : requirePrimaryValidity platform receipt = .ok ()) :
    (requireAttestedValidity platform receipt trusted = .ok () ∧
        achievedValidityTier platform receipt trusted = .ok .attested) ∨
      (requireAttestedValidity platform receipt trusted ≠ .ok () ∧
        achievedValidityTier platform receipt trusted = .ok .primary) := by
  unfold achievedValidityTier requireAttestedValidity
  rw [hprimary]
  cases receipt.operatorAttestation with
  | none => exact .inr ⟨nofun, rfl⟩
  | some attestation =>
      simp only [ne_eq, raiseIf_eq_ok, Bool.not_eq_false]
      cases allowsOperatorPublicKeyHex platform attestation.signingPublicKeyEd25519Hex.val
          trusted with
      | true => exact .inl ⟨rfl, rfl⟩
      | false => exact .inr ⟨Bool.false_ne_true, rfl⟩

theorem achieves_iff_of_eq {achieved tier : ValidityTier}
    (hachieved : achievedValidityTier platform receipt trusted = .ok achieved) :
    Achieves platform receipt trusted tier ↔ tier ≤ achieved := by
  constructor
  · rintro ⟨_, hsame, hle⟩
    obtain rfl := Except.ok.inj (hachieved.symm.trans hsame)
    exact hle
  · intro hle
    exact ⟨achieved, hachieved, hle⟩

/-- What is required passes exactly when it is achieved. -/
theorem requireValidityTier_eq_ok {tier : ValidityTier} :
    requireValidityTier platform receipt trusted tier = .ok () ↔
      Achieves platform receipt trusted tier := by
  have hattested : requireValidityTier platform receipt trusted .attested = .ok () ↔
      requirePrimaryValidity platform receipt = .ok () ∧
        requireAttestedValidity platform receipt trusted = .ok () := by
    rw [requireValidityTier, except_bind_eq_ok]
    exact ⟨fun ⟨_, hboth⟩ => hboth, fun hboth => ⟨(), hboth⟩⟩
  cases hprimary : requirePrimaryValidity platform receipt with
  | error exception =>
      rw [achieves_iff_of_eq (achievedValidityTier_of_error hprimary)]
      cases tier with
      | operational => exact iff_of_true rfl (by decide)
      | primary =>
          rw [requireValidityTier, hprimary]
          exact iff_of_false nofun (by decide)
      | attested =>
          rw [hattested, hprimary]
          exact iff_of_false (fun h => nomatch h.1) (by decide)
  | ok done =>
      rcases @achievedValidityTier_of_ok platform receipt trusted hprimary with
        ⟨hattest, hachieved⟩ | ⟨hattest, hachieved⟩
      · rw [achieves_iff_of_eq hachieved]
        cases tier with
        | operational => exact iff_of_true rfl (by decide)
        | primary => exact iff_of_true hprimary (by decide)
        | attested => exact iff_of_true (hattested.mpr ⟨hprimary, hattest⟩) (by decide)
      · rw [achieves_iff_of_eq hachieved]
        cases tier with
        | operational => exact iff_of_true rfl (by decide)
        | primary => exact iff_of_true hprimary (by decide)
        | attested => exact iff_of_false (fun h => hattest (hattested.mp h).2) (by decide)

/-! ## Whole verifications -/

/-- The flag with which the registry is checked: a required attestation forces it on. -/
def registryFlag (options : VerifyOptions) (requiredTier : ValidityTier) : Option Bool :=
  if requiredTier = .attested then some true else options.verifyOperatorAgainstRegistry

/-- A tier adds its own checks to those of an operational receipt. -/
theorem checkReceipt_eq_ok {requiredTier : ValidityTier} :
    checkReceipt platform options requiredTier receipt = .ok () ↔
      checkReceipt platform
          { options with verifyOperatorAgainstRegistry := registryFlag options requiredTier }
          .operational receipt = .ok () ∧
        requireValidityTier platform receipt options.trustedOperatorPublicKeys requiredTier =
          .ok () := by
  have hoperational : ∀ flag : Option Bool,
      (if ValidityTier.operational = .attested then some true else flag) = flag :=
    fun flag => if_neg (by decide)
  have hnothing : requireValidityTier platform receipt options.trustedOperatorPublicKeys
      .operational = .ok () := rfl
  simp only [checkReceipt, hoperational, hnothing, except_bind_eq_ok, raiseIf_eq_ok, exists_const,
    and_true]
  constructor
  · rintro ⟨_, hprior, hkeys, halgorithm, _, hhex, hdigest, _, hsigns, _, hoperator, htier⟩
    exact ⟨⟨_, hprior, hkeys, halgorithm, _, hhex, hdigest, _, hsigns, _, hoperator⟩, htier⟩
  · rintro ⟨⟨_, hprior, hkeys, halgorithm, _, hhex, hdigest, _, hsigns, _, hoperator⟩, htier⟩
    exact ⟨_, hprior, hkeys, halgorithm, _, hhex, hdigest, _, hsigns, _, hoperator, htier⟩

/-- With a key of the registry it does not matter whether the registry is checked. -/
theorem verifyOperatorAttestation_of_attested {digest : String} (flag flag' : Option Bool)
    (hattested : requireAttestedValidity platform receipt options.trustedOperatorPublicKeys =
      .ok ()) :
    verifyOperatorAttestation platform receipt digest options flag =
      verifyOperatorAttestation platform receipt digest options flag' := by
  unfold requireAttestedValidity at hattested
  unfold verifyOperatorAttestation
  cases hattestation : receipt.operatorAttestation with
  | none => rfl
  | some attestation =>
      rw [hattestation] at hattested
      have hallowed := Bool.not_eq_false _ ▸ raiseIf_eq_ok.mp hattested
      simp only [hallowed, Bool.true_eq_false, and_false]

/-- An attested receipt passes the operational checks under either flag. -/
theorem checkReceipt_of_attested (flag flag' : Option Bool)
    (hattested : requireAttestedValidity platform receipt options.trustedOperatorPublicKeys =
      .ok ()) :
    checkReceipt platform { options with verifyOperatorAgainstRegistry := flag } .operational
        receipt =
      checkReceipt platform { options with verifyOperatorAgainstRegistry := flag' } .operational
        receipt := by
  have hsame : ∀ digest,
      verifyOperatorAttestation platform receipt digest
          { options with verifyOperatorAgainstRegistry := flag } flag =
        verifyOperatorAttestation platform receipt digest
          { options with verifyOperatorAgainstRegistry := flag' } flag' := by
    intro digest
    exact @verifyOperatorAttestation_of_attested platform options receipt digest flag flag' hattested
  have hoperational : ∀ flag : Option Bool,
      (if ValidityTier.operational = .attested then some true else flag) = flag :=
    fun flag => if_neg (by decide)
  simp only [checkReceipt, hoperational, hsame]

theorem normalizeValidityTier_operational (laws : platform.LowerLaws) :
    normalizeValidityTier platform (some "operational") = .ok .operational := by
  have hlower : foldOption platform (some "operational") = "operational" :=
    Platform.stripLower_eq_self laws (forall_mem_of_all (by decide))
  rw [normalizeValidityTier, hlower]
  rfl

/-- The options with which a receipt is verified as operational. -/
def VerifyOptions.operational (options : VerifyOptions) (flag : Option Bool) : VerifyOptions :=
  { options with requiredValidityTier := some "operational", verifyOperatorAgainstRegistry := flag }

theorem verify_operational_eq_ok (laws : platform.LowerLaws) {input : Mapping}
    {flag : Option Bool} :
    verifyAgentReceiptV1 platform input (options.operational flag) = .ok receipt ↔
      normalizeReceipt platform input = .ok receipt ∧
        checkReceipt platform { options with verifyOperatorAgainstRegistry := flag } .operational
          receipt = .ok () := by
  rw [verifyAgentReceiptV1_eq_ok]
  refine and_congr_right fun _ => ?_
  constructor
  · rintro ⟨tier, htier, hcheck⟩
    obtain rfl := Except.ok.inj ((normalizeValidityTier_operational laws).symm.trans htier)
    exact hcheck
  · intro hcheck
    exact ⟨_, normalizeValidityTier_operational laws, hcheck⟩

/-- A receipt is verified at a tier exactly when it is verified as operational and achieves the
tier. For the attested tier the registry is checked whatever the flag says. -/
theorem verifyAgentReceiptV1_tier_iff (laws : platform.LowerLaws) {tier : ValidityTier}
    (htier : normalizeValidityTier platform options.requiredValidityTier = .ok tier)
    (input : Mapping) :
    (∀ receipt, verifyAgentReceiptV1 platform input options = .ok receipt ↔
        verifyAgentReceiptV1 platform input (options.operational (registryFlag options tier)) =
            .ok receipt ∧
          Achieves platform receipt options.trustedOperatorPublicKeys tier) ∧
      (∀ receipt, verifyAgentReceiptV1 platform input options = .ok receipt ↔
        verifyAgentReceiptV1 platform input
            (options.operational options.verifyOperatorAgainstRegistry) = .ok receipt ∧
          Achieves platform receipt options.trustedOperatorPublicKeys tier) ∧
      (tier = .attested → ∀ flag,
        verifyAgentReceiptV1 platform input { options with verifyOperatorAgainstRegistry := flag } =
          verifyAgentReceiptV1 platform input
            { options with verifyOperatorAgainstRegistry := some true }) := by
  have hverify : ∀ {flag : Option Bool} {receipt : AgentReceipt},
      verifyAgentReceiptV1 platform input { options with verifyOperatorAgainstRegistry := flag } =
          .ok receipt ↔
        normalizeReceipt platform input = .ok receipt ∧
          checkReceipt platform { options with verifyOperatorAgainstRegistry := flag } tier
            receipt = .ok () := by
    intro flag receipt
    rw [verifyAgentReceiptV1_eq_ok]
    refine and_congr_right fun _ => ?_
    constructor
    · rintro ⟨tier', htier', hcheck⟩
      obtain rfl := Except.ok.inj (htier.symm.trans htier')
      exact hcheck
    · intro hcheck
      exact ⟨tier, htier, hcheck⟩
  have hforced : ∀ receipt, verifyAgentReceiptV1 platform input options = .ok receipt ↔
      verifyAgentReceiptV1 platform input (options.operational (registryFlag options tier)) =
          .ok receipt ∧
        Achieves platform receipt options.trustedOperatorPublicKeys tier := by
    intro receipt
    rw [verify_operational_eq_ok laws, ← requireValidityTier_eq_ok, and_assoc,
      ← checkReceipt_eq_ok]
    exact hverify
  refine ⟨hforced, ?_, ?_⟩
  · intro receipt
    rw [hforced, verify_operational_eq_ok laws, verify_operational_eq_ok laws]
    refine and_congr_left fun hachieves => and_congr_right fun _ => ?_
    cases tier with
    | operational => rw [registryFlag, if_neg (by decide)]
    | primary => rw [registryFlag, if_neg (by decide)]
    | attested =>
        have hrequired := requireValidityTier_eq_ok.mpr hachieves
        rw [requireValidityTier, except_bind_eq_ok] at hrequired
        obtain ⟨_, -, hattested⟩ := hrequired
        rw [checkReceipt_of_attested _ options.verifyOperatorAgainstRegistry hattested]
  · rintro rfl flag
    rw [verifyAgentReceiptV1, verifyAgentReceiptV1]
    simp only [htier]
    rfl

end Agreement

/-- The settled receipt has no evidence: it is accepted as operational and not as primary. -/
theorem verifyAgentReceiptV1_tier_settled :
    let platform := terminalPlatform fun _ => signedFirst.digest.val
    let receipt := terminalReceipt none [] signedFirst
    verifyAgentReceiptV1 platform receipt.toMapping {} = .ok receipt ∧
      verifyAgentReceiptV1 platform receipt.toMapping { requiredValidityTier := some "primary" } ≠
        .ok receipt := by
  refine ⟨accepted_terminal rfl rfl, fun hverify => ?_⟩
  have htier : normalizeValidityTier (terminalPlatform fun _ => signedFirst.digest.val)
      (some "primary") = .ok .primary := by
    have hlower : foldOption (terminalPlatform fun _ => signedFirst.digest.val)
        (some "primary") = "primary" :=
      Platform.stripLower_eq_self lowerLaws_terminal (forall_mem_of_all (by decide))
    rw [normalizeValidityTier, hlower]
    rfl
  obtain ⟨-, hmatches, -⟩ :=
    @verifyAgentReceiptV1_tier_iff _ { requiredValidityTier := some "primary" }
      lowerLaws_terminal _ htier (terminalReceipt none [] signedFirst).toMapping
  obtain ⟨-, hachieves⟩ := (hmatches _).mp hverify
  have hachieved : achievedValidityTier (terminalPlatform fun _ => signedFirst.digest.val)
      (terminalReceipt none [] signedFirst) none = .ok .operational := rfl
  exact absurd ((achieves_iff_of_eq hachieved).mp hachieves) (by decide)

end PaybondKit.Receipt
