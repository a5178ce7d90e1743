import Sibna.Symbolic

/-!
# X3DH of the Java SDK

`CryptoProvider`, `PreKeyBundle` and `X3DHHandshake`. The responder never uses the prekey it is
given.
-/

namespace Sibna.Java

open KeyAlgebra

inductive Exception where
  | crypto (message : String)
  | nullPointer
  | arrayIndexOutOfBounds
  deriving DecidableEq

/-- `CryptoProvider` and the JDK below it. `generateX25519KeyPair` is called and missing there: what
it would draw is a parameter, here and in `Draws`. The calls of `hkdf` are told apart by their
`info`; what is combined in one of them has a fixed width and is kept as a list or a pair. -/
structure CryptoProvider where
  Key : Type
  Secret : Type
  PrivateKey : Type
  PublicKey : Type
  Shared : Type
  getPublic : PrivateKey → PublicKey
  getEncoded : PublicKey → Bytes
  /-- `KeyFactory.getInstance("X25519").generatePublic`, `none` if it throws. -/
  generatePublic : Bytes → Option PublicKey
  /-- `KeyAgreement`, which throws for a public key of low order. -/
  generateSecret : PrivateKey → PublicKey → Option Shared
  /-- `new byte[32]`. -/
  zeroSecret : Secret
  /-- `SibnaProtocol_X3DH`, 32 bytes. -/
  hkdfX3dh : List Shared → Secret
  /-- `SibnaProtocol_DoubleRatchet`, 96 bytes, split. -/
  hkdfDoubleRatchet : Secret → Key × Key × Key
  /-- One byte of `info`, 32 bytes. -/
  hkdfByte : Key → UInt8 → Key
  /-- `SibnaProtocol_RootChain`, 64 bytes, split. -/
  hkdfRootChain : Key → Shared → Key × Key
  /-- `Cipher.doFinal` for a key and a nonce. -/
  cipherEncrypt : Key → Bytes → Bytes → Bytes
  cipherDecrypt : Key → Bytes → Bytes → Option Bytes

namespace CryptoProvider
variable (J : CryptoProvider)

def bytesToPublicKey (keyBytes : Bytes) : Except Exception J.PublicKey :=
  match J.generatePublic keyBytes with
  | none => .error (.crypto "Failed to decode public key")
  | some key => .ok key

def x25519Agreement (privateKey : J.PrivateKey) (publicKey : J.PublicKey) :
    Except Exception J.Shared :=
  match J.generateSecret privateKey publicKey with
  | none => .error (.crypto "X25519 agreement failed")
  | some shared => .ok shared

def agreeWith (privateKey : J.PrivateKey) (keyBytes : Bytes) : Except Exception J.Shared := do
  J.x25519Agreement privateKey (← J.bytesToPublicKey keyBytes)

end CryptoProvider

/-- The public halves are those of the private keys. Of the Ed25519 key its encoding is used. -/
structure IdentityKeyPair (J : CryptoProvider) where
  ed25519Encoded : Bytes
  x25519 : J.PrivateKey

structure PreKeyBundle where
  identityKey : Bytes
  signedPrekey : Bytes
  onetimePrekey : Option Bytes

variable {J : CryptoProvider}

def PreKeyBundle.create (identity : IdentityKeyPair J) (signedPrekeyPublic : Bytes)
    (onetimePrekeyPublic : Option Bytes) : PreKeyBundle :=
  ⟨identity.ed25519Encoded, signedPrekeyPublic, onetimePrekeyPublic⟩

def PreKeyBundle.hasOnetimePrekey (b : PreKeyBundle) : Bool :=
  b.onetimePrekey.any (0 < ·.length)

namespace X3DHHandshake

def initiate (identity : IdentityKeyPair J) (ephemeral : J.PrivateKey) (peerBundle : PreKeyBundle) :
    Except Exception J.Secret := do
  let dh1 ← J.agreeWith identity.x25519 peerBundle.signedPrekey
  let dh2 ← J.agreeWith ephemeral peerBundle.identityKey
  let dh3 ← J.agreeWith ephemeral peerBundle.signedPrekey
  if peerBundle.hasOnetimePrekey then
    let dh4 ← J.agreeWith ephemeral (peerBundle.onetimePrekey.getD [])
    return J.hkdfX3dh [dh1, dh2, dh3, dh4]
  else
    return J.hkdfX3dh [dh1, dh2, dh3]

/-- The third argument is the prekey, which nothing reads. -/
def respond (identity : IdentityKeyPair J) (ephemeralPublicKey identityPublicKey _prekey : Bytes) :
    Except Exception J.Secret := do
  let dh1 ← J.agreeWith identity.x25519 identityPublicKey
  let dh2 ← J.agreeWith identity.x25519 ephemeralPublicKey
  let dh3 ← J.agreeWith identity.x25519 ephemeralPublicKey
  return J.hkdfX3dh [dh1, dh2, dh3]

variable {identity : IdentityKeyPair J} {ephemeral : J.PrivateKey} {b : PreKeyBundle}
  {secret : J.Secret}

lemma initiate_ok (h : initiate identity ephemeral b = .ok secret) : ∃ dh1 dh2 dh3 dh4,
    J.agreeWith identity.x25519 b.signedPrekey = .ok dh1 ∧
    J.agreeWith ephemeral b.identityKey = .ok dh2 ∧ J.agreeWith ephemeral b.signedPrekey = .ok dh3 ∧
    secret = J.hkdfX3dh ([dh1, dh2, dh3] ++ dh4) ∧ dh4.length = b.hasOnetimePrekey.toNat := by
  unfold initiate at h
  cases h1 : J.agreeWith identity.x25519 b.signedPrekey with
  | error e => rw [h1] at h; cases h
  | ok dh1 =>
    cases h2 : J.agreeWith ephemeral b.identityKey with
    | error e => rw [h1, h2] at h; cases h
    | ok dh2 =>
      cases h3 : J.agreeWith ephemeral b.signedPrekey with
      | error e => rw [h1, h2, h3] at h; cases h
      | ok dh3 =>
        rw [h1, h2, h3] at h
        cases hb : b.hasOnetimePrekey with
        | false =>
          rw [hb] at h
          cases h
          exact ⟨dh1, dh2, dh3, [], rfl, rfl, rfl, rfl, rfl⟩
        | true =>
          cases h4 : J.agreeWith ephemeral (b.onetimePrekey.getD []) with
          | error e => rw [hb, h4] at h; cases h
          | ok dh4 =>
            rw [hb, h4] at h
            cases h
            exact ⟨dh1, dh2, dh3, [dh4], rfl, rfl, rfl, rfl, rfl⟩

lemma respond_ok {ek i p : Bytes} (h : respond identity ek i p = .ok secret) : ∃ dh1 dh2,
    J.agreeWith identity.x25519 i = .ok dh1 ∧ J.agreeWith identity.x25519 ek = .ok dh2 ∧
    secret = J.hkdfX3dh [dh1, dh2, dh2] := by
  unfold respond at h
  cases h1 : J.agreeWith identity.x25519 i with
  | error e => rw [h1] at h; cases h
  | ok dh1 =>
    cases h2 : J.agreeWith identity.x25519 ek with
    | error e => rw [h1, h2] at h; cases h
    | ok dh2 =>
      rw [h1, h2] at h
      cases h
      exact ⟨dh1, dh2, rfl, rfl, rfl⟩

/-- Initiator and responder get one secret exactly if there is no one-time prekey, the signed prekey
stands for the identity key of the responder, with which it agrees for both keys of the initiator,
and the bundle's identity key, decoded as an X25519 key, does so for the ephemeral one. -/
theorem java_x3dh_agreement_iff
    (hcomm : ∀ x y, J.generateSecret x (J.getPublic y) = J.generateSecret y (J.getPublic x))
    (hdecode : ∀ x, J.generatePublic (J.getEncoded (J.getPublic x)) = some (J.getPublic x))
    (hhkdf : Function.Injective J.hkdfX3dh) (initiator responder : IdentityKeyPair J)
    (ephemeral : J.PrivateKey) (signedPrekey prekey : Bytes) (onetimePrekey : Option Bytes) :
    (∃ secret,
      initiate initiator ephemeral (.create responder signedPrekey onetimePrekey) = .ok secret ∧
      respond responder (J.getEncoded (J.getPublic ephemeral))
        (J.getEncoded (J.getPublic initiator.x25519)) prekey = .ok secret) ↔
    (PreKeyBundle.create responder signedPrekey onetimePrekey).hasOnetimePrekey = false ∧
      ∃ dh1 dh2, J.x25519Agreement initiator.x25519 (J.getPublic responder.x25519) = .ok dh1 ∧
        J.x25519Agreement ephemeral (J.getPublic responder.x25519) = .ok dh2 ∧
        J.agreeWith initiator.x25519 signedPrekey = .ok dh1 ∧
        J.agreeWith ephemeral signedPrekey = .ok dh2 ∧
        J.agreeWith ephemeral responder.ed25519Encoded = .ok dh2 := by
  have hagree : ∀ x, J.agreeWith responder.x25519 (J.getEncoded (J.getPublic x)) =
      J.x25519Agreement x (J.getPublic responder.x25519) := by
    intro x
    rw [CryptoProvider.agreeWith, CryptoProvider.bytesToPublicKey, hdecode]
    change J.x25519Agreement responder.x25519 (J.getPublic x) = _
    rw [CryptoProvider.x25519Agreement, hcomm, CryptoProvider.x25519Agreement]
  constructor
  · rintro ⟨secret, hinitiate, hrespond⟩
    obtain ⟨dh1, dh2, dh3, dh4, h1, h2, h3, hsecret, hlength⟩ := initiate_ok hinitiate
    obtain ⟨dh1', dh2', h1', h2', hsecret'⟩ := respond_ok hrespond
    rw [hagree] at h1' h2'
    have hlists := hhkdf (hsecret.symm.trans hsecret')
    obtain ⟨hdh, rfl⟩ := List.append_inj (hlists.trans (List.append_nil _).symm) rfl
    obtain ⟨rfl, rfl, rfl, -⟩ := hdh
    exact ⟨by simpa using hlength.symm, _, _, h1', h2', h1, h3, h2⟩
  · rintro ⟨honetime, dh1, dh2, h1', h2', h1, h3, h2⟩
    refine ⟨J.hkdfX3dh [dh1, dh2, dh2], ?_, ?_⟩
    · simp only [initiate, honetime]
      simp only [PreKeyBundle.create, h1, h2, h3]
      rfl
    · simp only [respond, hagree, h1', h2']
      rfl

end X3DHHandshake

open Symbolic X3DHHandshake

/-- Of an X.509 encoding; the ninth byte is `0x6e` for X25519 and `0x70` for Ed25519. -/
def x509Prefix (algorithm : UInt8) : Bytes :=
  [0x30, 0x2a, 0x30, 0x05, 0x06, 0x03, 0x2b, 0x65, algorithm, 0x03, 0x21, 0x00]

def symbolic : CryptoProvider where
  Key := Key
  Secret := List Shared
  PrivateKey := UInt64
  PublicKey := Bytes32
  Shared := Shared
  getPublic := publicKey
  getEncoded := fun r => x509Prefix 0x6e ++ r.val
  generatePublic := fun keyBytes =>
    if h : (keyBytes.drop 12).length = 32 then
      if keyBytes.take 12 = x509Prefix 0x6e then some ⟨keyBytes.drop 12, h⟩ else none
    else none
  generateSecret := fun a r => if isLowOrder r then none else some (diffieHellman a r)
  zeroSecret := []
  hkdfX3dh := id
  hkdfDoubleRatchet := fun _ =>
    (.atom (.sessionRoot secret), .atom (.sessionChain secret), .atom .zero)
  hkdfByte := .mac
  hkdfRootChain := fun k s => (.root k s, .chain k s)
  cipherEncrypt := fun k nonce m => aeadEncrypt k nonce [0] m
  cipherDecrypt := fun k nonce c => aeadDecrypt k nonce [0] c

instance : DecidableEq symbolic.Shared := inferInstanceAs (DecidableEq Shared)

instance : DecidableEq symbolic.Secret := inferInstanceAs (DecidableEq (List Shared))

lemma symbolic_generateSecret (a b : UInt64) :
    symbolic.generateSecret a (publicKey b) = some (diffieHellman a (publicKey b)) :=
  if_neg (Bool.eq_false_iff.mp (isLowOrder_publicKey b))

lemma symbolic_comm (a b : UInt64) :
    symbolic.generateSecret a (publicKey b) = symbolic.generateSecret b (publicKey a) := by
  rw [symbolic_generateSecret, symbolic_generateSecret, diffieHellman_comm]

lemma symbolic_decode (x : symbolic.PrivateKey) :
    symbolic.generatePublic (symbolic.getEncoded (symbolic.getPublic x)) =
      some (symbolic.getPublic x) := by
  simp [symbolic, x509Prefix]

def symbolicIdentity (algorithm : UInt8) (ed x : UInt64) : IdentityKeyPair symbolic :=
  ⟨x509Prefix algorithm ++ (publicKey ed).val, x⟩

/-- The Ed25519 encoding of this identity is an X25519 one. With that of a real identity the two
sides never agree. -/
theorem identity_key_as_prekey_agrees : ∃ secret,
    initiate (symbolicIdentity 0x70 11 1) (5 : UInt64)
    (.create (symbolicIdentity 0x6e 2 2) (symbolic.getEncoded (publicKey 2)) none) = .ok secret ∧
    respond (symbolicIdentity 0x6e 2 2) (symbolic.getEncoded (publicKey 5))
    (symbolic.getEncoded (publicKey 1)) [] = .ok secret :=
  (java_x3dh_agreement_iff symbolic_comm symbolic_decode Function.injective_id _ _ _ _ [] _).mpr
    ⟨rfl, Shared.pair 1 2, Shared.pair 2 5, by decide +kernel⟩

/-- The responder's bundle, created with its signed prekey 3: the initiator throws. With the X25519
key in place of the Ed25519 key the two sides combine different keys. -/
theorem x3dh_secrets_differ :
    initiate (symbolicIdentity 0x70 11 1) (5 : UInt64)
        (.create (symbolicIdentity 0x70 12 2) (symbolic.getEncoded (publicKey 3)) none) =
      .error (.crypto "Failed to decode public key") ∧
    initiate (symbolicIdentity 0x70 11 1) (5 : UInt64)
        (.create (symbolicIdentity 0x6e 2 2) (symbolic.getEncoded (publicKey 3)) none) =
      .ok [Shared.pair 1 3, Shared.pair 2 5, Shared.pair 3 5] ∧
    respond (symbolicIdentity 0x70 12 2) (symbolic.getEncoded (publicKey 5))
        (symbolic.getEncoded (publicKey 1))
        (symbolic.getEncoded (publicKey 3)) =
      .ok [Shared.pair 1 2, Shared.pair 2 5,
        Shared.pair 2 5] := by
  decide +kernel

end Sibna.Java
