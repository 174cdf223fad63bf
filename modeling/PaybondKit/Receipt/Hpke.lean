import PaybondKit.Agent.Types
import PaybondKit.Foundation.PyValue

/-!
# HPKE in base mode

Sealing to an X25519 key and opening with its private key. The two sides derive the same
secret when the key exchange commutes, and AES-GCM opens what it sealed and nothing else.
-/

namespace PaybondKit.Receipt.Disclosure

open Agent (PyExc)

/-- What the cryptography package provides: HMAC and HKDF-Expand with SHA-256, X25519 and
AES-128-GCM. -/
structure HpkePrimitives where
  hmac : ByteArray → ByteArray → ByteArray
  hkdfExpand : ByteArray → ByteArray → ℕ → ByteArray
  publicKey : ByteArray → ByteArray
  exchange : ByteArray → ByteArray → Except PyExc ByteArray
  aesGcmEncrypt : ByteArray → ByteArray → ByteArray → ByteArray → ByteArray
  aesGcmDecrypt : ByteArray → ByteArray → ByteArray → ByteArray → Except PyExc ByteArray

/-- A private key that was generated. -/
abbrev PrivateKey := { bytes : ByteArray // bytes.size = 32 }

def hpkeKemId : ℕ := 0x0020
def hpkeKdfId : ℕ := 0x0001
def hpkeAeadId : ℕ := 0x0001
def hpkeModeBase : UInt8 := 0x00
def hpkeNh : ℕ := 32
def hpkeNk : ℕ := 16
def hpkeNn : ℕ := 12
def hpkeNsecret : ℕ := 32

def bytesOf (bytes : List UInt8) : ByteArray := ⟨bytes.toArray⟩

/-- `n.to_bytes(length, "big")`. -/
def i2osp (n length : ℕ) : ByteArray :=
  bytesOf ((List.range length).reverse.map fun i => UInt8.ofNat (n >>> (8 * i)))

def suiteIdKem : ByteArray := "KEM".toUTF8 ++ i2osp hpkeKemId 2

def suiteIdHpke : ByteArray :=
  "HPKE".toUTF8 ++ i2osp hpkeKemId 2 ++ i2osp hpkeKdfId 2 ++ i2osp hpkeAeadId 2

/-- The nonce of a message. -/
def nonce (baseNonce : ByteArray) (seq : ℕ) : ByteArray :=
  let bytes := baseNonce.data.toList
  bytesOf ((List.range 8).foldl
    (fun bytes i => bytes.modify (bytes.length - 1 - i) (· ^^^ UInt8.ofNat (seq >>> (8 * i)))) bytes)

namespace HpkePrimitives

variable (hpke : HpkePrimitives)

def labeledExtract (suiteId : ByteArray) (salt : Option ByteArray) (label ikm : ByteArray) :
    ByteArray :=
  let labeledIkm := "HPKE-v1".toUTF8 ++ suiteId ++ label ++ ikm
  let salt := salt.getD .empty
  hpke.hmac (if salt.size = 0 then bytesOf (List.replicate hpkeNh 0) else salt) labeledIkm

def labeledExpand (suiteId prk label info : ByteArray) (length : ℕ) : ByteArray :=
  let labeledInfo := i2osp length 2 ++ "HPKE-v1".toUTF8 ++ suiteId ++ label ++ info
  hpke.hkdfExpand prk labeledInfo length

def extractAndExpand (dh kemContext : ByteArray) : ByteArray :=
  let eaePrk := hpke.labeledExtract suiteIdKem none "eae_prk".toUTF8 dh
  hpke.labeledExpand suiteIdKem eaePrk "shared_secret".toUTF8 kemContext hpkeNsecret

/-- With the private key that was generated for the message. -/
def encap (ephemeral : PrivateKey) (recipient : ByteArray) :
    Except PyExc (ByteArray × ByteArray) := do
  let dh ← hpke.exchange ephemeral.val recipient
  let enc := hpke.publicKey ephemeral.val
  return (hpke.extractAndExpand dh (enc ++ recipient), enc)

def decap (privateKey enc : ByteArray) : Except PyExc ByteArray := do
  raiseIf (enc.size ≠ 32) (.valueError "owner disclosure: encapsulated key must be 32 bytes")
  let dh ← hpke.exchange privateKey enc
  return hpke.extractAndExpand dh (enc ++ hpke.publicKey privateKey)

def keyScheduleBase (sharedSecret info : ByteArray) : ByteArray × ByteArray :=
  let pskIdHash := hpke.labeledExtract suiteIdHpke none "psk_id_hash".toUTF8 .empty
  let infoHash := hpke.labeledExtract suiteIdHpke none "info_hash".toUTF8 info
  let keyScheduleContext := bytesOf [hpkeModeBase] ++ pskIdHash ++ infoHash
  let secret := hpke.labeledExtract suiteIdHpke (some sharedSecret) "secret".toUTF8 .empty
  (hpke.labeledExpand suiteIdHpke secret "key".toUTF8 keyScheduleContext hpkeNk,
    hpke.labeledExpand suiteIdHpke secret "base_nonce".toUTF8 keyScheduleContext hpkeNn)

/-- The first message under a shared secret. -/
def sealWith (sharedSecret info aad plaintext : ByteArray) : ByteArray :=
  let (key, baseNonce) := hpke.keyScheduleBase sharedSecret info
  hpke.aesGcmEncrypt key (nonce baseNonce 0) plaintext aad

def openWith (sharedSecret info aad ciphertext : ByteArray) : Except PyExc ByteArray :=
  let (key, baseNonce) := hpke.keyScheduleBase sharedSecret info
  hpke.aesGcmDecrypt key (nonce baseNonce 0) ciphertext aad

def sealHpkeBaseX25519Aes128Gcm (ephemeral : PrivateKey)
    (recipientPublicKey info aad plaintext : ByteArray) :
    Except PyExc (ByteArray × ByteArray) := do
  raiseIf (recipientPublicKey.size ≠ 32)
    (.valueError "owner disclosure: recipient public key must be 32 bytes")
  let (sharedSecret, enc) ← hpke.encap ephemeral recipientPublicKey
  return (enc, hpke.sealWith sharedSecret info aad plaintext)

def openHpkeBaseX25519Aes128Gcm (recipientPrivateKey enc info aad ciphertext : ByteArray) :
    Except PyExc ByteArray := do
  raiseIf (recipientPrivateKey.size ≠ 32)
    (.valueError "owner disclosure: recipient private key must be 32 bytes")
  let sharedSecret ← hpke.decap recipientPrivateKey enc
  hpke.openWith sharedSecret info aad ciphertext

/-- X25519 keys have 32 bytes and the exchange commutes. AES-GCM opens a ciphertext exactly
when it is the sealing of what it is opened to. -/
structure Laws (hpke : HpkePrimitives) : Prop where
  size_publicKey : ∀ privateKey : PrivateKey, (hpke.publicKey privateKey.val).size = 32
  exchange_comm : ∀ privateKey other,
    hpke.exchange privateKey (hpke.publicKey other) = hpke.exchange other (hpke.publicKey privateKey)
  aesGcmDecrypt_eq_ok : ∀ key nonce ciphertext aad plaintext,
    hpke.aesGcmDecrypt key nonce ciphertext aad = .ok plaintext ↔
      ciphertext = hpke.aesGcmEncrypt key nonce plaintext aad

section Laws

variable {hpke : HpkePrimitives} (laws : hpke.Laws)
include laws

theorem openWith_eq_ok {sharedSecret info aad ciphertext plaintext : ByteArray} :
    hpke.openWith sharedSecret info aad ciphertext = .ok plaintext ↔
      ciphertext = hpke.sealWith sharedSecret info aad plaintext :=
  laws.aesGcmDecrypt_eq_ok _ _ _ _ _

/-- Both sides share the secret. -/
theorem decap_encap {ephemeral : PrivateKey} {privateKey sharedSecret enc : ByteArray}
    (hencap : hpke.encap ephemeral (hpke.publicKey privateKey) = .ok (sharedSecret, enc)) :
    hpke.decap privateKey enc = .ok sharedSecret := by
  simp only [encap, except_bind_eq_ok, except_pure_eq_ok, Prod.mk.injEq] at hencap
  obtain ⟨dh, hdh, rfl, rfl⟩ := hencap
  have hsize := laws.size_publicKey ephemeral
  rw [laws.exchange_comm] at hdh
  simp [decap, hsize, hdh, except_bind_eq_ok]

/-- What was sealed to a public key is opened with its private key. -/
theorem openHpke_sealHpke {ephemeral : PrivateKey}
    {privateKey info aad plaintext enc ciphertext : ByteArray} (hprivate : privateKey.size = 32)
    (hseal : hpke.sealHpkeBaseX25519Aes128Gcm ephemeral (hpke.publicKey privateKey) info aad
      plaintext = .ok (enc, ciphertext)) :
    hpke.openHpkeBaseX25519Aes128Gcm privateKey enc info aad ciphertext = .ok plaintext := by
  simp only [sealHpkeBaseX25519Aes128Gcm, except_bind_eq_ok, raiseIf_eq_ok, except_pure_eq_ok,
    Prod.mk.injEq, Prod.exists] at hseal
  obtain ⟨_, -, sharedSecret, enc', hencap, rfl, rfl⟩ := hseal
  have hdecap := decap_encap laws hencap
  have hopen := (openWith_eq_ok laws).mpr (Eq.refl (hpke.sealWith sharedSecret info aad plaintext))
  simp [openHpkeBaseX25519Aes128Gcm, except_bind_eq_ok, hprivate, hdecap, hopen]

end Laws

end HpkePrimitives

end PaybondKit.Receipt.Disclosure
