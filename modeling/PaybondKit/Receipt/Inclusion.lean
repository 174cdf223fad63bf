import PaybondKit.Foundation.MerkleTree
import PaybondKit.Receipt.SignedPart

/-!
# Inclusion of a receipt in the transparency log

A signed tree head commits to the receipts of a tenant, and an inclusion proof shows that a
receipt is one of its leaves. The root is reconstructed from the leaf and the audit path. Paths
and roots are those of RFC 6962.
-/

namespace PaybondKit.Receipt.Transparency

open Agent (PyExc)

def agentReceiptTransparencySthKindV1 : String := "paybond.agent_receipt_transparency_sth_v1"
def agentReceiptTransparencyInclusionProofKindV1 : String :=
  "paybond.agent_receipt_transparency_inclusion_proof_v1"
def agentReceiptTransparencySchemaVersion : Int := 1

/-! ## The tree -/

/-- The loop that doubles `k` while `k * 2 < n`. -/
def doubleWhile (n k : ℕ) (hk : 0 < k) : ℕ :=
  if k * 2 < n then doubleWhile n (k * 2) (by omega) else k
termination_by n - k

def largestPowerOfTwoLessThan (n : ℕ) : ℕ := if n ≤ 1 then 0 else doubleWhile n 1 Nat.one_pos

section Hash

variable (platform : Platform)

def merkleLeafHashRfc6962 (leafData : ByteArray) : ByteArray :=
  platform.sha256 (⟨#[0x00]⟩ ++ leafData)

def merkleNodeHashRfc6962 (left right : ByteArray) : ByteArray :=
  platform.sha256 (⟨#[0x01]⟩ ++ left ++ right)

/-- The hashes of RFC 6962. -/
def rfc6962 : TreeHash ByteArray ByteArray where
  empty := platform.sha256 .empty
  leaf := merkleLeafHashRfc6962 platform
  node := merkleNodeHashRfc6962 platform

theorem rfc6962_leaf (leafData : ByteArray) :
    (rfc6962 platform).leaf leafData = merkleLeafHashRfc6962 platform leafData := rfl

theorem rfc6962_node (left right : ByteArray) :
    (rfc6962 platform).node left right = merkleNodeHashRfc6962 platform left right := rfl

end Hash

theorem doubleWhile_eq {n k : ℕ} {hk : 0 < k} :
    (∃ j, k = 2 ^ j) → k < n → doubleWhile n k hk = TreeHash.split n := by
  fun_induction doubleWhile n k hk with
  | case1 k hk hnext ih =>
      rintro ⟨j, rfl⟩ -
      exact ih ⟨j + 1, (Nat.pow_succ ..).symm⟩ hnext
  | case2 k hk hlast =>
      rintro ⟨j, rfl⟩ hlt
      exact TreeHash.eq_split hlt (by omega)

theorem largestPowerOfTwoLessThan_eq {n : ℕ} (hn : 2 ≤ n) :
    largestPowerOfTwoLessThan n = TreeHash.split n := by
  rw [largestPowerOfTwoLessThan, if_neg (by omega)]
  exact doubleWhile_eq ⟨0, rfl⟩ hn

/-- The root above a leaf, and how many siblings were consumed. -/
def reconstructMerkleRoot (platform : Platform) (leafHash : ByteArray) (leafIndex treeSize : ℕ)
    (auditPath : List ByteArray) : Except PyExc (ByteArray × ℕ) :=
  if treeSize = 1 then .ok (leafHash, 0)
  else if _hempty : treeSize = 0 then
    .error (.other "RecursionError" "maximum recursion depth exceeded")
  else
    let k := largestPowerOfTwoLessThan treeSize
    if leafIndex < k then do
      let (left, consumed) ← reconstructMerkleRoot platform leafHash leafIndex k auditPath
      match auditPath[consumed]? with
      | none => .error (.valueError "agent receipt transparency: audit path too short")
      | some right => return (merkleNodeHashRfc6962 platform left right, consumed + 1)
    else do
      let (right, consumed) ←
        reconstructMerkleRoot platform leafHash (leafIndex - k) (treeSize - k) auditPath
      match auditPath[consumed]? with
      | none => .error (.valueError "agent receipt transparency: audit path too short")
      | some left => return (merkleNodeHashRfc6962 platform left right, consumed + 1)
termination_by treeSize
decreasing_by
  · have hlt := @TreeHash.split_lt treeSize (by omega)
    rwa [largestPowerOfTwoLessThan_eq (by omega)]
  · have hpos := @TreeHash.split_pos treeSize
    rw [largestPowerOfTwoLessThan_eq (by omega)]
    omega

section Reconstruct

variable {platform : Platform} {leafHash root : ByteArray} {leafIndex treeSize consumed : ℕ}
variable {auditPath : List ByteArray}

theorem reverse_take_succ {sibling : ByteArray} (hsibling : auditPath[consumed]? = some sibling) :
    (auditPath.take (consumed + 1)).reverse = sibling :: (auditPath.take consumed).reverse := by
  rw [List.take_add_one, hsibling, Option.toList_some, List.reverse_append,
    List.reverse_singleton, List.singleton_append]

/-- One level of the reconstruction: the root of a subtree and the next sibling. -/
def nextLevel (auditPath : List ByteArray) (node : ByteArray → ByteArray → ByteArray) :
    ByteArray × ℕ → Except PyExc (ByteArray × ℕ)
  | (subtree, consumed) =>
      match auditPath[consumed]? with
      | none => .error (.valueError "agent receipt transparency: audit path too short")
      | some sibling => return (node subtree sibling, consumed + 1)

theorem nextLevel_eq_ok {node : ByteArray → ByteArray → ByteArray} {subtree : ByteArray × ℕ} :
    nextLevel auditPath node subtree = .ok (root, consumed) ↔
      ∃ sibling, auditPath[subtree.2]? = some sibling ∧ node subtree.1 sibling = root ∧
        subtree.2 + 1 = consumed := by
  obtain ⟨subtree, count⟩ := subtree
  unfold nextLevel
  cases hsibling : auditPath[count]? with
  | none => simp [hsibling]
  | some sibling => simp [hsibling, pure, Except.pure, Prod.ext_iff]

theorem reconstructMerkleRoot_step (hsize : 2 ≤ treeSize) :
    reconstructMerkleRoot platform leafHash leafIndex treeSize auditPath =
      if leafIndex < TreeHash.split treeSize then
        reconstructMerkleRoot platform leafHash leafIndex (TreeHash.split treeSize) auditPath >>=
          nextLevel auditPath (merkleNodeHashRfc6962 platform)
      else
        reconstructMerkleRoot platform leafHash (leafIndex - TreeHash.split treeSize)
          (treeSize - TreeHash.split treeSize) auditPath >>=
            nextLevel auditPath fun right left => merkleNodeHashRfc6962 platform left right := by
  rw [reconstructMerkleRoot, if_neg (by omega), dif_neg (by omega),
    largestPowerOfTwoLessThan_eq hsize]
  rfl

/-- A level above a subtree that is reconstructed rightly is reconstructed rightly. -/
theorem level_eq_ok {node : ByteArray → ByteArray → ByteArray} {index size : ℕ}
    (hsize : treeSize ≠ 1)
    (hsubtree : ∀ subtree consumed,
      reconstructMerkleRoot platform leafHash index size auditPath = .ok (subtree, consumed) ↔
        consumed ≤ auditPath.length ∧
          (rfc6962 platform).opened leafHash index size (auditPath.take consumed).reverse =
            some subtree)
    (hopens : ∀ sibling siblings,
      (rfc6962 platform).opened leafHash leafIndex treeSize (sibling :: siblings) =
        ((rfc6962 platform).opened leafHash index size siblings).map (node · sibling)) :
    (reconstructMerkleRoot platform leafHash index size auditPath >>= nextLevel auditPath node) =
        .ok (root, consumed) ↔
      consumed ≤ auditPath.length ∧
        (rfc6962 platform).opened leafHash leafIndex treeSize
          (auditPath.take consumed).reverse = some root := by
  rw [except_bind_eq_ok]
  constructor
  · rintro ⟨⟨subtree, count⟩, hread, hnext⟩
    obtain ⟨sibling, hsibling, rfl, rfl⟩ := nextLevel_eq_ok.mp hnext
    obtain ⟨-, hopened⟩ := (hsubtree subtree count).mp hread
    obtain ⟨hlt, -⟩ := List.getElem?_eq_some_iff.mp hsibling
    refine ⟨hlt, ?_⟩
    rw [reverse_take_succ hsibling, hopens, hopened]
    rfl
  · rintro ⟨hconsumed, hopened⟩
    cases consumed with
    | zero =>
        rw [List.take_zero, List.reverse_nil, TreeHash.opened, if_neg hsize] at hopened
        cases hopened
    | succ count =>
        have hsibling := List.getElem?_eq_getElem hconsumed
        rw [reverse_take_succ hsibling, hopens] at hopened
        obtain ⟨subtree, hbelow, rfl⟩ := Option.map_eq_some_iff.mp hopened
        exact ⟨(subtree, count), (hsubtree subtree count).mpr ⟨by omega, hbelow⟩,
          nextLevel_eq_ok.mpr ⟨_, hsibling, rfl, rfl⟩⟩

/-- The siblings that were consumed open the tree, read from the root. -/
theorem reconstructMerkleRoot_eq_ok (hsize : 1 ≤ treeSize) :
    reconstructMerkleRoot platform leafHash leafIndex treeSize auditPath = .ok (root, consumed) ↔
      consumed ≤ auditPath.length ∧
        (rfc6962 platform).opened leafHash leafIndex treeSize
          (auditPath.take consumed).reverse = some root := by
  induction treeSize using Nat.strong_induction_on generalizing leafIndex root consumed with
  | _ treeSize ih =>
      by_cases hone : treeSize = 1
      · subst hone
        rw [reconstructMerkleRoot, if_pos rfl, Except.ok.injEq, Prod.mk.injEq]
        constructor
        · rintro ⟨rfl, rfl⟩
          exact ⟨Nat.zero_le _, rfl⟩
        · rintro ⟨hconsumed, hopened⟩
          cases hpath : (auditPath.take consumed).reverse with
          | nil =>
              rw [hpath] at hopened
              rw [List.reverse_eq_nil_iff, List.take_eq_nil_iff] at hpath
              have hzero : 0 = consumed := by
                rcases hpath with hzero | hnil
                · exact hzero.symm
                · rw [hnil, List.length_nil] at hconsumed
                  omega
              exact ⟨Option.some.inj hopened, hzero⟩
          | cons sibling siblings =>
              rw [hpath, TreeHash.opened, if_pos (le_refl 1)] at hopened
              cases hopened
      · have htwo : 2 ≤ treeSize := by omega
        have hlt := TreeHash.split_lt htwo
        have hpos := @TreeHash.split_pos treeSize
        rw [reconstructMerkleRoot_step htwo]
        split
        next hside =>
          exact level_eq_ok hone (fun _ _ => ih _ hlt hpos)
            fun _ _ => TreeHash.opened_cons_of_lt htwo hside
        next hside =>
          exact level_eq_ok hone (fun _ _ => ih _ (by omega) (by omega))
            fun _ _ => TreeHash.opened_cons_of_le htwo (not_lt.mp hside)

/-- From a leaf and its path the root of the tree is reconstructed, and the path is consumed. -/
theorem reconstructMerkleRoot_auditPath (platform : Platform) {leaves : List ByteArray}
    (hindex : leafIndex < leaves.length) :
    reconstructMerkleRoot platform (merkleLeafHashRfc6962 platform leaves[leafIndex]) leafIndex
        leaves.length ((rfc6962 platform).auditPath leafIndex leaves) =
      .ok ((rfc6962 platform).root leaves,
        ((rfc6962 platform).auditPath leafIndex leaves).length) := by
  refine (reconstructMerkleRoot_eq_ok (by omega)).mpr ⟨le_refl _, ?_⟩
  rw [List.take_length]
  exact TreeHash.opened_auditPath hindex

end Reconstruct

/-! ## Tree heads -/

section Verify

variable (platform : Platform)

def requireHex64 (value : PyValue) (field : String) : Except PyExc Hex64 :=
  checked _ (.valueError <| s!"agent receipt transparency: {field} must be a lowercase 64-byte " ++
    "hex SHA-256 digest") (platform.stripLower (platform.str value))

/-- `^[0-9a-f]{128}$`. -/
def hex128Re (text : String) : Bool := text.toList.all isLowerHex && text.toList.length = 128

def requireHex128 (value : PyValue) (field : String) : Except PyExc (Matching hex128Re) :=
  checked _ (.valueError <| s!"agent receipt transparency: {field} must be a lowercase 128-char " ++
    "hex Ed25519 signature") (platform.stripLower (platform.str value))

/-- `str(mapping.get(key, "")).strip()`. -/
def stripped (mapping : Mapping) (key : String) : String :=
  pyStrip (platform.str ((mapping.get? key).getD (.str "")))

def requireKind (mapping : Mapping) (kind : String) : Except PyExc Unit := do
  raiseIf (stripped platform mapping "kind" ≠ kind)
    (.valueError s!"agent receipt transparency: kind must be {kind}")
  let schemaVersion ← platform.int ((mapping.get? "schema_version").getD (.int (-1)))
  raiseIf (schemaVersion ≠ agentReceiptTransparencySchemaVersion)
    (.valueError <| "agent receipt transparency: schema_version must be " ++
      toString agentReceiptTransparencySchemaVersion)

/-- A verified tree head. -/
structure TreeHead where
  tenantId : String
  treeSize : Int
  rootHash : Hex64
  issuedAt : String
  messageDigest : Hex64
  publicKey : Hex64
  signature : Matching hex128Re

/-- The entries that the verifier sets in the tree head. -/
def TreeHead.fields (head : TreeHead) : PyFields where
  entries :=
    [("tenant_id", some (.str head.tenantId)),
      ("tree_size", some (.int head.treeSize)),
      ("root_hash_sha256_hex", some (.str head.rootHash.val)),
      ("issued_at", some (.str head.issuedAt)),
      ("signing_algorithm", some (.str agentReceiptSigningAlgorithmEd25519)),
      ("message_digest_sha256_hex", some (.str head.messageDigest.val)),
      ("signing_public_key_ed25519_hex", some (.str head.publicKey.val)),
      ("ed25519_signature_hex", some (.str head.signature.val))]
  nodup := by simp

/-- `{**dict(sth), ...}`. -/
def TreeHead.over (head : TreeHead) (sth : Mapping) : Mapping := sth.update head.fields.mapping

def canonicalSthBytes (tenantId : String) (treeSize : Int) (rootHash : Hex64) (issuedAt : String) :
    ByteArray :=
  jsonDumpsBytes compactStyle <| .object
    [("kind", .string agentReceiptTransparencySthKindV1),
      ("schema_version", jsonInt agentReceiptTransparencySchemaVersion),
      ("tenant_id", .string tenantId),
      ("tree_size", jsonInt treeSize),
      ("root_hash_sha256_hex", .string rootHash.val),
      ("issued_at", .string issuedAt),
      ("signing_algorithm", .string agentReceiptSigningAlgorithmEd25519)]

def checkTreeHead (sth : Mapping) (expectedSigningPublicKeys : Option (List String)) :
    Except PyExc TreeHead := do
  requireKind platform sth agentReceiptTransparencySthKindV1
  let tenantId := stripped platform sth "tenant_id"
  raiseIf (tenantId = "") (.valueError "agent receipt transparency: tenant_id is required")
  let treeSize ← platform.int (← item sth "tree_size")
  raiseIf (treeSize < 0)
    (.valueError "agent receipt transparency: tree_size must be non-negative")
  raiseIf (stripped platform sth "signing_algorithm" ≠ agentReceiptSigningAlgorithmEd25519)
    (.valueError <| "agent receipt transparency: signing_algorithm must be " ++
      agentReceiptSigningAlgorithmEd25519)
  let rootHash ← requireHex64 platform (← item sth "root_hash_sha256_hex") "root_hash_sha256_hex"
  let messageDigest ←
    requireHex64 platform (← item sth "message_digest_sha256_hex") "message_digest_sha256_hex"
  let publicKey ← requireHex64 platform (← item sth "signing_public_key_ed25519_hex")
    "signing_public_key_ed25519_hex"
  raiseIf (allowsSigningPublicKeyHex platform publicKey.val expectedSigningPublicKeys = false)
    (.valueError <| "agent receipt transparency: signing_public_key_ed25519_hex is not in the " ++
      "configured trusted key set")
  let issuedAt := pyStrip (platform.str (← item sth "issued_at"))
  let digest := platform.sha256Hex (canonicalSthBytes tenantId treeSize rootHash issuedAt)
  raiseIf (digest ≠ messageDigest.val)
    (.valueError "agent receipt transparency: message digest mismatch")
  let signature ←
    requireHex128 platform (← item sth "ed25519_signature_hex") "ed25519_signature_hex"
  raiseIf (platform.ed25519Verify (bytesOfHex publicKey.val) (bytesOfHex signature.val) digest =
      false)
    (.valueError "agent receipt transparency: ed25519 signature verification failed")
  return { tenantId, treeSize, rootHash, issuedAt, messageDigest, publicKey, signature }

def verifySignedTreeHeadV1 (sth : Mapping) (expectedSigningPublicKeys : Option (List String)) :
    Except PyExc Mapping := do
  return (← checkTreeHead platform sth expectedSigningPublicKeys).over sth

/-! ## Inclusion proofs -/

/-- A verified inclusion proof. -/
structure Inclusion where
  tenantId : String
  receiptId : String
  messageDigest : Hex64
  leafHash : Hex64
  rootHash : Hex64
  leafIndex : ℕ
  treeSize : ℕ
  auditPath : List ByteArray
  sth : Mapping
  treeHead : TreeHead

/-- The entries that the verifier sets in the proof. -/
def Inclusion.fields (inclusion : Inclusion) : PyFields where
  entries :=
    [("tenant_id", some (.str inclusion.tenantId)),
      ("receipt_id", some (.str inclusion.receiptId)),
      ("message_digest_sha256_hex", some (.str inclusion.messageDigest.val)),
      ("leaf_hash_sha256_hex", some (.str inclusion.leafHash.val)),
      ("root_hash_sha256_hex", some (.str inclusion.rootHash.val)),
      ("leaf_index", some (.int inclusion.leafIndex)),
      ("tree_size", some (.int inclusion.treeSize)),
      ("audit_path_sha256_hex",
        some (.list (inclusion.auditPath.map (.str ∘ hexOfBytes)))),
      ("tree_head", some (.dict (inclusion.treeHead.over inclusion.sth).items))]
  nodup := by simp

/-- `{**dict(proof), ...}`. -/
def Inclusion.over (inclusion : Inclusion) (proof : Mapping) : Mapping :=
  proof.update inclusion.fields.mapping

/-- `value or []`, iterated. -/
def pyIterOrEmpty (value : PyValue) : Except PyExc (List PyValue) :=
  if value.truthy then pyIter value else .ok []

/-- The entries of the audit path, each as its bytes. -/
def readAuditPath (value : PyValue) : Except PyExc (List ByteArray) := do
  let entries ← pyIterOrEmpty value
  entries.zipIdx.mapM fun (entry, i) => do
    return bytesOfHex (← requireHex64 platform entry s!"audit_path_sha256_hex[{i}]").val

def checkInclusion (proof : Mapping)
    (expectedSigningPublicKeys : Option (List String)) : Except PyExc Inclusion := do
  requireKind platform proof agentReceiptTransparencyInclusionProofKindV1
  let tenantId := stripped platform proof "tenant_id"
  let receiptId := stripped platform proof "receipt_id"
  raiseIf (tenantId = "") (.valueError "agent receipt transparency: tenant_id is required")
  raiseIf (receiptId = "") (.valueError "agent receipt transparency: receipt_id is required")
  let treeSize ← platform.int (← item proof "tree_size")
  let leafIndex ← platform.int (← item proof "leaf_index")
  raiseIf (treeSize ≤ 0) (.valueError "agent receipt transparency: tree_size must be positive")
  raiseIf (leafIndex < 0 ∨ treeSize ≤ leafIndex)
    (.valueError "agent receipt transparency: leaf_index out of range")
  let messageDigest ←
    requireHex64 platform (← item proof "message_digest_sha256_hex") "message_digest_sha256_hex"
  let leafHash ← requireHex64 platform (← item proof "leaf_hash_sha256_hex") "leaf_hash_sha256_hex"
  let rootHash ← requireHex64 platform (← item proof "root_hash_sha256_hex") "root_hash_sha256_hex"
  let sth ← asMapping "AttributeError" (← item proof "tree_head")
  let treeHead ← checkTreeHead platform sth expectedSigningPublicKeys
  raiseIf (treeHead.tenantId ≠ tenantId)
    (.valueError "agent receipt transparency: tree_head.tenant_id mismatch")
  raiseIf (treeHead.treeSize ≠ treeSize)
    (.valueError "agent receipt transparency: tree_head.tree_size mismatch")
  raiseIf (treeHead.rootHash ≠ rootHash)
    (.valueError "agent receipt transparency: tree_head.root_hash mismatch")
  let leaf := merkleLeafHashRfc6962 platform (bytesOfHex messageDigest.val)
  raiseIf (hexOfBytes leaf ≠ leafHash.val)
    (.valueError "agent receipt transparency: leaf_hash does not match message digest")
  let auditPath ← readAuditPath platform (proof.getValue "audit_path_sha256_hex")
  let (root, consumed) ←
    reconstructMerkleRoot platform leaf leafIndex.toNat treeSize.toNat auditPath
  raiseIf (consumed ≠ auditPath.length)
    (.valueError "agent receipt transparency: audit path too long")
  raiseIf (hexOfBytes root ≠ rootHash.val)
    (.valueError "agent receipt transparency: inclusion proof does not match root hash")
  return { tenantId, receiptId, messageDigest, leafHash, rootHash, auditPath, sth, treeHead
           leafIndex := leafIndex.toNat
           treeSize := treeSize.toNat }

def verifyAgentReceiptInclusion (proof : Mapping)
    (expectedSigningPublicKeys : Option (List String)) : Except PyExc Mapping := do
  return (← checkInclusion platform proof expectedSigningPublicKeys).over proof

end Verify

/-! ## What is accepted -/

section Accepted

variable {platform : Platform}

/-- What is hashed from a leaf to the root. -/
def hashedInputs (platform : Platform) (leaf : ByteArray) (leafIndex treeSize : ℕ)
    (auditPath : List ByteArray) : List ByteArray :=
  (⟨#[0x00]⟩ ++ leaf) ::
    ((rfc6962 platform).openedPairs (merkleLeafHashRfc6962 platform leaf) leafIndex treeSize
      auditPath.reverse).map fun pair => ⟨#[0x01]⟩ ++ pair.1 ++ pair.2

/-- SHA-256 does not collide on what is hashed for the proof and for the leaf of the tree. -/
def CollisionFree (platform : Platform) (inclusion : Inclusion) (leaves : List ByteArray) : Prop :=
  Set.InjOn platform.sha256 { input | ∃ leaf ∈ leaves[inclusion.leafIndex]?,
    input ∈ hashedInputs platform (bytesOfHex inclusion.messageDigest.val) inclusion.leafIndex
        inclusion.treeSize inclusion.auditPath ∨
      input ∈ hashedInputs platform leaf inclusion.leafIndex leaves.length
        ((rfc6962 platform).auditPath inclusion.leafIndex leaves) }

/-- What an accepted proof has been checked for. -/
structure Checked (platform : Platform) (inclusion : Inclusion) : Prop where
  index : inclusion.leafIndex < inclusion.treeSize
  treeSize : inclusion.treeHead.treeSize = inclusion.treeSize
  rootHash : inclusion.treeHead.rootHash = inclusion.rootHash
  auditPath : ∀ entry ∈ inclusion.auditPath, entry.size = 32
  root : ∃ root, hexOfBytes root = inclusion.rootHash.val ∧
    reconstructMerkleRoot platform
        (merkleLeafHashRfc6962 platform (bytesOfHex inclusion.messageDigest.val))
        inclusion.leafIndex inclusion.treeSize inclusion.auditPath =
      .ok (root, inclusion.auditPath.length)

theorem except_mapM_forall {ε α β : Type} {f : α → Except ε β} {P : β → Prop}
    (hf : ∀ item result, f item = .ok result → P result) {items : List α} {results : List β}
    (hresults : items.mapM f = .ok results) : ∀ result ∈ results, P result := by
  induction items generalizing results with
  | nil =>
      obtain rfl := Except.ok.inj hresults
      nofun
  | cons item items ih =>
      simp only [List.mapM_cons, except_bind_eq_ok, except_pure_eq_ok] at hresults
      obtain ⟨result, hresult, rest, hrest, rfl⟩ := hresults
      exact List.forall_mem_cons.mpr ⟨hf item result hresult, ih hrest⟩

theorem size_readAuditPath {value : PyValue} {auditPath : List ByteArray}
    (hread : readAuditPath platform value = .ok auditPath) :
    ∀ entry ∈ auditPath, entry.size = 32 := by
  obtain ⟨entries, -, hentries⟩ := except_bind_eq_ok.mp hread
  refine except_mapM_forall (fun item result hresult => ?_) hentries
  obtain ⟨digest, -, hbytes⟩ := except_bind_eq_ok.mp hresult
  rw [← except_pure_eq_ok.mp hbytes]
  exact size_hex64 digest

theorem checked_of_checkInclusion {proof : Mapping} {keys : Option (List String)}
    {inclusion : Inclusion} (hcheck : checkInclusion platform proof keys = .ok inclusion) :
    Checked platform inclusion := by
  simp only [checkInclusion, except_bind_eq_ok, raiseIf_eq_ok, exists_const, except_pure_eq_ok,
    not_or, not_not, not_le, not_lt] at hcheck
  obtain ⟨-, -, -, -, -, -, treeSize, -, -, -, leafIndex, -, hpositive, ⟨hindex, hlt⟩, hcheck⟩ :=
    hcheck
  obtain ⟨-, -, messageDigest, -, -, -, leafHash, -, -, -, rootHash, -, hcheck⟩ := hcheck
  obtain ⟨-, -, sth, -, treeHead, -, -, hsize, hroot, -, auditPath, hpath, hcheck⟩ := hcheck
  obtain ⟨⟨root, consumed⟩, hreconstruct, hconsumed, hhex, rfl⟩ := hcheck
  dsimp only at hconsumed hhex hreconstruct
  subst hconsumed
  exact
    { index := by
        change leafIndex.toNat < treeSize.toNat
        omega
      treeSize := by
        change treeHead.treeSize = (treeSize.toNat : ℤ)
        omega
      rootHash := hroot
      auditPath := size_readAuditPath hpath
      root := ⟨root, hhex, hreconstruct⟩ }

/-- The hashes have one size, so that a pair is found again in what is hashed for it. -/
theorem node_inj {left right left' right' : ByteArray} (hleft : left.size = 32)
    (hleft' : left'.size = 32)
    (hsame : (⟨#[0x01]⟩ : ByteArray) ++ left ++ right = ⟨#[0x01]⟩ ++ left' ++ right') :
    (left, right) = (left', right') := by
  rw [ByteArray.append_assoc, ByteArray.append_assoc, ByteArray.append_right_inj] at hsame
  obtain rfl := ByteArray.append_inj_left hsame (hleft.trans hleft'.symm)
  rw [(ByteArray.append_right_inj left).mp hsame]

section Digests

variable (hhex : platform.HexDigests)
include hhex

theorem size_openedPairs {leaf : ByteArray} {leafIndex treeSize : ℕ} {siblings : List ByteArray}
    (hsiblings : ∀ sibling ∈ siblings, sibling.size = 32) :
    ∀ pair ∈ (rfc6962 platform).openedPairs (merkleLeafHashRfc6962 platform leaf) leafIndex
      treeSize siblings, pair.1.size = 32 :=
  fun pair hpair => (TreeHash.openedPairs_forall (P := fun digest : ByteArray => digest.size = 32)
    (hhex.size_sha256 _) (fun _ _ => hhex.size_sha256 _) hsiblings pair hpair).1

theorem size_auditPath (leafIndex : ℕ) (leaves : List ByteArray) :
    ∀ sibling ∈ (rfc6962 platform).auditPath leafIndex leaves, sibling.size = 32 := by
  refine TreeHash.auditPath_forall
    (TreeHash.root_forall (P := fun digest : ByteArray => digest.size = 32) ?_ ?_ ?_)
  · exact hhex.size_sha256 _
  · exact fun _ => hhex.size_sha256 _
  · exact fun _ _ => hhex.size_sha256 _

/-- Against the head of a tree, only the leaf at the index and its path are accepted. -/
theorem Checked.included {inclusion : Inclusion} {leaves : List ByteArray}
    (hchecked : Checked platform inclusion)
    (hroot : inclusion.treeHead.rootHash.val = hexOfBytes ((rfc6962 platform).root leaves))
    (hsize : inclusion.treeHead.treeSize = leaves.length)
    (hcollision : CollisionFree platform inclusion leaves) :
    leaves[inclusion.leafIndex]? = some (bytesOfHex inclusion.messageDigest.val) ∧
      inclusion.auditPath = (rfc6962 platform).auditPath inclusion.leafIndex leaves := by
  have hlength : inclusion.treeSize = leaves.length := by
    have hhead := hchecked.treeSize
    omega
  have hindex : inclusion.leafIndex < leaves.length := hlength ▸ hchecked.index
  have hleaf : leaves[inclusion.leafIndex]? = some leaves[inclusion.leafIndex] :=
    List.getElem?_eq_getElem hindex
  obtain ⟨root, hhexRoot, hreconstruct⟩ := hchecked.root
  obtain rfl : root = (rfc6962 platform).root leaves := by
    refine hexOfBytes_injective ?_
    rw [hhexRoot, ← hchecked.rootHash, hroot]
  have hopened := ((reconstructMerkleRoot_eq_ok (by omega)).mp hreconstruct).2
  rw [List.take_length, hlength] at hopened
  have hopened' := @TreeHash.opened_auditPath _ _ (rfc6962 platform) _ _ hindex
  have hpairs : ∀ pair ∈ (rfc6962 platform).openedPairs
        (merkleLeafHashRfc6962 platform (bytesOfHex inclusion.messageDigest.val))
        inclusion.leafIndex leaves.length inclusion.auditPath.reverse,
      ∀ pair' ∈ (rfc6962 platform).openedPairs
        (merkleLeafHashRfc6962 platform leaves[inclusion.leafIndex]) inclusion.leafIndex
        leaves.length ((rfc6962 platform).auditPath inclusion.leafIndex leaves).reverse,
      (rfc6962 platform).node pair.1 pair.2 = (rfc6962 platform).node pair'.1 pair'.2 →
        pair = pair' := by
    intro pair hpair pair' hpair' hsame
    have hinput := hcollision
      ⟨_, hleaf, .inl (List.mem_cons_of_mem _ (List.mem_map.mpr ⟨pair, hlength ▸ hpair, rfl⟩))⟩
      ⟨_, hleaf, .inr (List.mem_cons_of_mem _ (List.mem_map.mpr ⟨pair', hpair', rfl⟩))⟩ hsame
    refine node_inj (size_openedPairs hhex ?_ pair hpair) (size_openedPairs hhex ?_ pair' hpair')
      hinput
    · simpa using hchecked.auditPath
    · simpa using size_auditPath hhex inclusion.leafIndex leaves
  obtain ⟨hleafHash, hpath⟩ := TreeHash.opened_inj hpairs hopened hopened'
  have hinput := hcollision ⟨_, hleaf, .inl List.mem_cons_self⟩ ⟨_, hleaf, .inr List.mem_cons_self⟩
    hleafHash
  rw [hleaf, ← (ByteArray.append_right_inj _).mp hinput]
  exact ⟨rfl, List.reverse_injective hpath⟩

end Digests

end Accepted

/-! ## What a log publishes -/

section Published

variable {platform : Platform} (laws : platform.LowerLaws) {keys : Option (List String)}
include laws

theorem requireHex64_hex64 (digest : Hex64) (field : String) :
    requireHex64 platform (.str digest.val) field = .ok digest :=
  checked_eq_ok.mpr (Platform.stripLower_hex64 laws digest)

theorem requireHex128_hex128 (signature : Matching hex128Re) (field : String) :
    requireHex128 platform (.str signature.val) field = .ok signature := by
  have hsignature := signature.property
  simp only [hex128Re, Bool.and_eq_true, List.all_eq_true] at hsignature
  exact checked_eq_ok.mpr (Platform.stripLower_eq_self laws fun c hc =>
    isTokenChar_of_isLowerHex (hsignature.1 c hc))

omit laws in
theorem requireKind_congr {mapping other : Mapping}
    (hkind : mapping.get? "kind" = other.get? "kind")
    (hversion : mapping.get? "schema_version" = other.get? "schema_version") (kind : String) :
    requireKind platform mapping kind = requireKind platform other kind := by
  rw [requireKind, requireKind, stripped, stripped, hkind, hversion]

omit laws in
/-- A head that its key has signed. -/
structure TreeHead.Signed (platform : Platform) (head : TreeHead)
    (keys : Option (List String)) : Prop where
  tenantId : pyStrip head.tenantId = head.tenantId
  tenantId_ne : head.tenantId ≠ ""
  issuedAt : pyStrip head.issuedAt = head.issuedAt
  treeSize : 0 ≤ head.treeSize
  publicKey : allowsSigningPublicKeyHex platform head.publicKey.val keys = true
  digest : platform.sha256Hex
    (canonicalSthBytes head.tenantId head.treeSize head.rootHash head.issuedAt) =
      head.messageDigest.val
  signature : platform.ed25519Verify (bytesOfHex head.publicKey.val)
    (bytesOfHex head.signature.val) head.messageDigest.val = true

theorem checkTreeHead_signed {head : TreeHead} {sth : Mapping}
    (hkind : requireKind platform sth agentReceiptTransparencySthKindV1 = .ok ())
    (hsigned : head.Signed platform keys) :
    checkTreeHead platform (head.over sth) keys = .ok head := by
  have hlookup : ∀ key, (head.over sth).get? key =
      (OrderedDict.fieldValue key head.fields.entries).or (sth.get? key) := by
    intro key
    rw [TreeHead.over, OrderedDict.get?_update, OrderedDict.Fields.get?_mapping]
  have hkind' : requireKind platform (head.over sth) agentReceiptTransparencySthKindV1 =
      .ok () := by
    rw [← hkind]
    refine requireKind_congr ?_ ?_ _ <;> simp [hlookup, TreeHead.fields, OrderedDict.fieldValue]
  have halgorithm : pyStrip agentReceiptSigningAlgorithmEd25519 =
      agentReceiptSigningAlgorithmEd25519 := pyStrip_eq_self (forall_mem_of_all (by decide))
  simp only [checkTreeHead, hkind', stripped, item, hlookup, TreeHead.fields,
    OrderedDict.fieldValue_cons_self, OrderedDict.fieldValue_cons_ne, ne_eq, String.reduceEq,
    not_false_eq_true, Option.some_or, Option.getD_some, Platform.str_str, Platform.int_int,
    except_ok_bind, requireHex64_hex64 laws, requireHex128_hex128 laws, hsigned.tenantId,
    hsigned.tenantId_ne, hsigned.issuedAt, not_lt.mpr hsigned.treeSize, halgorithm,
    hsigned.publicKey, hsigned.digest, hsigned.signature, raiseIf, if_false, not_true_eq_false,
    Bool.true_eq_false]
  rfl

omit laws in
/-- A proof that leads from its receipt to the head. -/
structure Inclusion.Proven (platform : Platform) (inclusion : Inclusion)
    (keys : Option (List String)) : Prop where
  tenantId : pyStrip inclusion.tenantId = inclusion.tenantId
  tenantId_ne : inclusion.tenantId ≠ ""
  receiptId : pyStrip inclusion.receiptId = inclusion.receiptId
  receiptId_ne : inclusion.receiptId ≠ ""
  index : inclusion.leafIndex < inclusion.treeSize
  head : inclusion.treeHead.Signed platform keys
  headKind : requireKind platform inclusion.sth agentReceiptTransparencySthKindV1 = .ok ()
  headTenant : inclusion.treeHead.tenantId = inclusion.tenantId
  headSize : inclusion.treeHead.treeSize = inclusion.treeSize
  headRoot : inclusion.treeHead.rootHash = inclusion.rootHash
  leafHash : hexOfBytes (merkleLeafHashRfc6962 platform (bytesOfHex inclusion.messageDigest.val)) =
    inclusion.leafHash.val
  auditPath : ∃ digests : List Hex64, inclusion.auditPath = digests.map (bytesOfHex ·.val)
  root : reconstructMerkleRoot platform
      (merkleLeafHashRfc6962 platform (bytesOfHex inclusion.messageDigest.val))
      inclusion.leafIndex inclusion.treeSize inclusion.auditPath =
    .ok (bytesOfHex inclusion.rootHash.val, inclusion.auditPath.length)

theorem readAuditPath_hex64 (digests : List Hex64) :
    readAuditPath platform (.list ((digests.map (bytesOfHex ·.val)).map (.str ∘ hexOfBytes))) =
      .ok (digests.map (bytesOfHex ·.val)) := by
  have hentries : ∀ start, (((digests.map (bytesOfHex ·.val)).map
      ((.str ∘ hexOfBytes : ByteArray → PyValue))).zipIdx start).mapM (fun (entry, i) => do
        return bytesOfHex (← requireHex64 platform entry s!"audit_path_sha256_hex[{i}]").val) =
      Except.ok (digests.map (bytesOfHex ·.val)) := by
    induction digests with
    | nil => intro _; rfl
    | cons digest digests ih =>
        intro start
        simp only [List.map_cons, List.zipIdx_cons, List.mapM_cons, Function.comp_apply,
          hexOfBytes_hex64, requireHex64_hex64 laws, except_ok_bind]
        rw [ih (start + 1)]
        rfl
  rw [readAuditPath]
  have hiter : pyIterOrEmpty (.list ((digests.map (bytesOfHex ·.val)).map (.str ∘ hexOfBytes))) =
      .ok ((digests.map (bytesOfHex ·.val)).map (.str ∘ hexOfBytes)) := by
    unfold pyIterOrEmpty
    cases digests <;> rfl
  rw [hiter, except_ok_bind]
  exact hentries 0

theorem checkInclusion_proven {inclusion : Inclusion} {proof : Mapping}
    (hkind : requireKind platform proof agentReceiptTransparencyInclusionProofKindV1 = .ok ())
    (hproven : inclusion.Proven platform keys) :
    checkInclusion platform (inclusion.over proof) keys =
      .ok { inclusion with sth := inclusion.treeHead.over inclusion.sth } := by
  have hlookup : ∀ key, (inclusion.over proof).get? key =
      (OrderedDict.fieldValue key inclusion.fields.entries).or (proof.get? key) := by
    intro key
    rw [Inclusion.over, OrderedDict.get?_update, OrderedDict.Fields.get?_mapping]
  have hkind' : requireKind platform (inclusion.over proof)
      agentReceiptTransparencyInclusionProofKindV1 = .ok () := by
    rw [← hkind]
    refine requireKind_congr ?_ ?_ _ <;> simp [hlookup, Inclusion.fields, OrderedDict.fieldValue]
  obtain ⟨digests, hpath⟩ := hproven.auditPath
  have hread := readAuditPath_hex64 laws digests
  rw [← hpath] at hread
  have hindex := hproven.index
  have hpositive : ¬(inclusion.treeSize : ℤ) ≤ 0 := by omega
  have hrange : ¬((inclusion.leafIndex : ℤ) < 0 ∨
      (inclusion.treeSize : ℤ) ≤ (inclusion.leafIndex : ℤ)) := by omega
  simp only [checkInclusion, hkind', stripped, item, OrderedDict.getValue, hlookup,
    Inclusion.fields, OrderedDict.fieldValue_cons_self, OrderedDict.fieldValue_cons_ne, ne_eq,
    String.reduceEq, not_false_eq_true, Option.some_or, Option.getD_some, Platform.str_str,
    Platform.int_int, except_ok_bind, requireHex64_hex64 laws, asMapping, OrderedDict.ofList_items,
    checkTreeHead_signed laws hproven.headKind hproven.head, hproven.tenantId,
    hproven.tenantId_ne, hproven.receiptId, hproven.receiptId_ne, hpositive, hrange,
    hproven.headTenant, hproven.headSize, hproven.headRoot, hproven.leafHash, hread,
    Int.toNat_natCast, hproven.root, hexOfBytes_hex64, raiseIf, if_false, not_true_eq_false]
  rfl

end Published

/-! ## A tree of two receipts -/

section Logged

/-- The digest of the second receipt; the first one is that of the terminal receipt. -/
def secondDigest : Hex64 :=
  ⟨"e3b0c44298fc1c149afbf4c8996fb92427ae41e4649b934ca495991b7852b855",
    hex64Re_ofList (by decide) rfl⟩

def firstLeafHash : Hex64 :=
  ⟨"3944a5f6eca5ad78e00dc29830517b9c735cef410f311bbb2ba308fcf9be2fe1",
    hex64Re_ofList (by decide) rfl⟩

def secondLeafHash : Hex64 :=
  ⟨"4e59bf27372b1304bc0b137d1be9d566ad58b154b6a6b5778af7f414b1d4b84c",
    hex64Re_ofList (by decide) rfl⟩

def rootLogged : Hex64 :=
  ⟨"9d741bf0e61dea1acbd2fd3ff2cbcdef918b741dad9a45b298bd273814929b42",
    hex64Re_ofList (by decide) rfl⟩

def headDigest : Hex64 :=
  ⟨"12845779f2095aa2352ee42b6c61799410e35a89b37db6542997ac480cd4a4f2",
    hex64Re_ofList (by decide) rfl⟩

def leavesLogged : List ByteArray :=
  [bytesOfHex signedFirst.digest.val, bytesOfHex secondDigest.val]

/-- The digests of the two leaves, of their node and of the tree head. -/
def digestLogged (bytes : ByteArray) : Hex64 :=
  if bytes = ⟨#[0x00]⟩ ++ bytesOfHex signedFirst.digest.val then firstLeafHash
  else if bytes = ⟨#[0x00]⟩ ++ bytesOfHex secondDigest.val then secondLeafHash
  else if bytes = ⟨#[0x01]⟩ ++ bytesOfHex firstLeafHash.val ++ bytesOfHex secondLeafHash.val then
    rootLogged
  else headDigest

def platformLogged : Platform := terminalPlatform fun bytes => (digestLogged bytes).val

theorem hexDigests_logged : platformLogged.HexDigests := fun bytes => (digestLogged bytes).property

theorem hex128Re_append (high low : Hex64) : hex128Re (high.val ++ low.val) = true := by
  have hhigh := high.property
  have hlow := low.property
  simp only [hex64Re, Bool.and_eq_true, decide_eq_true_eq] at hhigh hlow
  rw [hex128Re, String.toList_append, List.all_append, List.length_append, hhigh.1, hhigh.2, hlow.1,
    hlow.2]
  rfl

def headLogged : TreeHead where
  tenantId := "tenant-a"
  treeSize := 2
  rootHash := rootLogged
  issuedAt := "2026-01-01T00:00:00Z"
  messageDigest := headDigest
  publicKey := signedFirst.publicKey
  signature :=
    ⟨signedFirst.signature, hex128Re_append signedFirst.signatureHigh signedFirst.signatureLow⟩

/-- The entries that say what a document is. -/
def documentKind (kind : String) : Mapping :=
  .ofList [("kind", .str kind), ("schema_version", .int agentReceiptTransparencySchemaVersion)]

/-- The proof for the first receipt. -/
def inclusionLogged : Inclusion where
  tenantId := "tenant-a"
  receiptId := terminalIntent.val
  messageDigest := signedFirst.digest
  leafHash := firstLeafHash
  rootHash := rootLogged
  leafIndex := 0
  treeSize := 2
  auditPath := [bytesOfHex secondLeafHash.val]
  sth := documentKind agentReceiptTransparencySthKindV1
  treeHead := headLogged

def proofLogged : Mapping :=
  inclusionLogged.over (documentKind agentReceiptTransparencyInclusionProofKindV1)

theorem requireKind_documentKind {platform : Platform} {kind : String}
    (hkind : pyStrip kind = kind) :
    requireKind platform (documentKind kind) kind = .ok () := by
  have hget : (documentKind kind).get? "kind" = some (.str kind) := rfl
  have hversion : (documentKind kind).get? "schema_version" =
      some (.int agentReceiptTransparencySchemaVersion) := rfl
  simp only [requireKind, stripped, hget, hversion, Option.getD_some, Platform.str_str,
    Platform.int_int, hkind, except_ok_bind, raiseIf, ne_eq, not_true_eq_false, if_false]

theorem sha256_logged (bytes : ByteArray) :
    platformLogged.sha256 bytes = bytesOfHex (digestLogged bytes).val := rfl

theorem bytesOfHex_ne {digest other : Hex64} (hne : digest.val ≠ other.val) :
    bytesOfHex digest.val ≠ bytesOfHex other.val := by
  intro hbytes
  apply hne
  rw [← hexOfBytes_hex64 digest, hbytes, hexOfBytes_hex64]

/-- The input of a leaf is shorter than that of a node. -/
theorem node_ne_leaf (first second digest : Hex64) (marker other : UInt8) :
    ⟨#[marker]⟩ ++ bytesOfHex first.val ++ bytesOfHex second.val ≠
      ⟨#[other]⟩ ++ bytesOfHex digest.val := by
  intro hbytes
  have hsize := congrArg ByteArray.size hbytes
  rw [ByteArray.size_append, ByteArray.size_append, ByteArray.size_append, size_hex64, size_hex64,
    size_hex64] at hsize
  cases hsize

/-- The bytes of an object begin with a brace. -/
theorem head_jsonDumpsBytes (style : JsonStyle) (members : List (String × Json)) :
    (jsonDumpsBytes style (.object members)).data.toList.head? = some 0x7b := by
  have hprint : ∃ rest, (Json.object members).print style = '{' :: rest := by
    cases members with
    | nil => exact ⟨_, rfl⟩
    | cons member members => exact ⟨_, rfl⟩
  obtain ⟨rest, hrest⟩ := hprint
  rw [jsonDumpsBytes, hrest, String.toUTF8, String.toByteArray_ofList, List.utf8Encode,
    List.flatMap_cons, List.data_toByteArray]
  rfl

theorem object_ne_marked {members : List (String × Json)} {marker : UInt8} {bytes : ByteArray}
    (hmarker : marker ≠ 0x7b) :
    jsonDumpsBytes compactStyle (.object members) ≠ ⟨#[marker]⟩ ++ bytes := by
  intro hbytes
  have hhead := head_jsonDumpsBytes compactStyle members
  rw [hbytes, ByteArray.toList_data_append] at hhead
  exact hmarker (Option.some.inj hhead)

theorem leaf_first :
    merkleLeafHashRfc6962 platformLogged (bytesOfHex signedFirst.digest.val) =
      bytesOfHex firstLeafHash.val := by
  rw [merkleLeafHashRfc6962, sha256_logged, digestLogged, if_pos rfl]

theorem leaf_second :
    merkleLeafHashRfc6962 platformLogged (bytesOfHex secondDigest.val) =
      bytesOfHex secondLeafHash.val := by
  have hne : bytesOfHex secondDigest.val ≠ bytesOfHex signedFirst.digest.val :=
    bytesOfHex_ne (by decide)
  rw [merkleLeafHashRfc6962, sha256_logged, digestLogged,
    if_neg fun h => hne ((ByteArray.append_right_inj _).mp h), if_pos rfl]

theorem node_logged :
    merkleNodeHashRfc6962 platformLogged (bytesOfHex firstLeafHash.val)
      (bytesOfHex secondLeafHash.val) = bytesOfHex rootLogged.val := by
  rw [merkleNodeHashRfc6962, sha256_logged, digestLogged, if_neg (node_ne_leaf _ _ _ _ _),
    if_neg (node_ne_leaf _ _ _ _ _), if_pos rfl]

theorem digest_headLogged :
    platformLogged.sha256Hex (canonicalSthBytes headLogged.tenantId headLogged.treeSize
      headLogged.rootHash headLogged.issuedAt) = headLogged.messageDigest.val := by
  have hdigest : ∀ bytes, platformLogged.sha256Hex bytes = (digestLogged bytes).val := fun _ => rfl
  rw [hdigest, digestLogged, canonicalSthBytes, if_neg (object_ne_marked (by decide)),
    if_neg (object_ne_marked (by decide)), ByteArray.append_assoc,
    if_neg (object_ne_marked (by decide))]
  rfl

theorem root_logged : (rfc6962 platformLogged).root leavesLogged = bytesOfHex rootLogged.val := by
  rw [leavesLogged, TreeHash.root_pair, rfc6962_leaf, rfc6962_leaf, rfc6962_node, leaf_first,
    leaf_second, node_logged]

theorem auditPath_logged :
    (rfc6962 platformLogged).auditPath 0 leavesLogged = [bytesOfHex secondLeafHash.val] := by
  rw [leavesLogged, TreeHash.auditPath_pair, rfc6962_leaf, leaf_second]

theorem signed_headLogged : headLogged.Signed platformLogged none where
  tenantId := by decide +kernel
  tenantId_ne := by decide
  issuedAt := by decide +kernel
  treeSize := by decide
  publicKey := rfl
  digest := digest_headLogged
  signature := rfl

theorem proven_inclusionLogged : inclusionLogged.Proven platformLogged none where
  tenantId := signed_headLogged.tenantId
  tenantId_ne := signed_headLogged.tenantId_ne
  receiptId := by decide +kernel
  receiptId_ne := terminalIntent.ne_empty (by decide)
  index := Nat.two_pos
  head := signed_headLogged
  headKind := requireKind_documentKind (by decide +kernel)
  headTenant := rfl
  headSize := rfl
  headRoot := rfl
  leafHash := by
    rw [inclusionLogged, leaf_first]
    exact hexOfBytes_hex64 firstLeafHash
  auditPath := ⟨[secondLeafHash], rfl⟩
  root := by
    have hroot := reconstructMerkleRoot_auditPath platformLogged
      (show 0 < leavesLogged.length from Nat.two_pos)
    rw [root_logged, auditPath_logged] at hroot
    exact hroot

def leafInput : ByteArray := ⟨#[0x00]⟩ ++ bytesOfHex signedFirst.digest.val

def nodeInput : ByteArray :=
  ⟨#[0x01]⟩ ++ bytesOfHex firstLeafHash.val ++ bytesOfHex secondLeafHash.val

theorem hashedInputs_logged :
    hashedInputs platformLogged (bytesOfHex signedFirst.digest.val) 0 2
      [bytesOfHex secondLeafHash.val] = [leafInput, nodeInput] := by
  rw [hashedInputs, List.reverse_singleton, TreeHash.openedPairs_pair, leaf_first]
  rfl

/-- The first receipt as the verifier finds it. -/
def inclusionVerified : Inclusion :=
  { inclusionLogged with
    sth := headLogged.over (documentKind agentReceiptTransparencySthKindV1) }

theorem collisionFree_logged : CollisionFree platformLogged inclusionVerified leavesLogged := by
  have hinput : ∀ input, (∃ leaf ∈ leavesLogged[0]?,
      input ∈ hashedInputs platformLogged (bytesOfHex signedFirst.digest.val) 0 2
          [bytesOfHex secondLeafHash.val] ∨
        input ∈ hashedInputs platformLogged leaf 0 leavesLogged.length
          ((rfc6962 platformLogged).auditPath 0 leavesLogged)) →
      input = leafInput ∨ input = nodeInput := by
    rintro input ⟨leaf, hleaf, hmem⟩
    obtain rfl : bytesOfHex signedFirst.digest.val = leaf := Option.some.inj hleaf
    rw [auditPath_logged] at hmem
    change _ ∨ input ∈ hashedInputs platformLogged _ 0 2 _ at hmem
    rw [hashedInputs_logged, or_self] at hmem
    exact List.mem_pair.mp hmem
  have hne : bytesOfHex firstLeafHash.val ≠ bytesOfHex rootLogged.val := bytesOfHex_ne (by decide)
  have hleaf : platformLogged.sha256 leafInput = bytesOfHex firstLeafHash.val := leaf_first
  have hnode : platformLogged.sha256 nodeInput = bytesOfHex rootLogged.val := node_logged
  intro input hmem input' hmem' hsame
  rcases hinput input hmem with rfl | rfl <;> rcases hinput input' hmem' with rfl | rfl
  · rfl
  · rw [hleaf, hnode] at hsame
    exact absurd hsame hne
  · rw [hleaf, hnode] at hsame
    exact absurd hsame.symm hne
  · rfl

end Logged

end PaybondKit.Receipt.Transparency
