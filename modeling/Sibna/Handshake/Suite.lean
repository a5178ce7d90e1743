import Sibna.Primitives

/-!
# What the handshake takes from its crates

`blake3`, `hkdf`, `fips203` and `ed25519_dalek`. Digests and secrets are abstract keys.
-/

namespace Sibna

def Suite.CommutativeDh (S : Suite) : Prop :=
  ∀ a b, S.diffieHellman a (S.publicKey b) = S.diffieHellman b (S.publicKey a)

/-- ML-KEM-768. The `…Ok` fields say which byte strings `try_from_bytes` takes. -/
structure MlKem768 where
  keyGen : FixedBytes 64 → FixedBytes 1184 × FixedBytes 2400
  encapsKeyOk : FixedBytes 1184 → Bool
  decapsKeyOk : FixedBytes 2400 → Bool
  cipherTextOk : FixedBytes 1088 → Bool
  /-- The second argument is the randomness of the call. -/
  encaps : FixedBytes 1184 → Bytes32 → Bytes32 × FixedBytes 1088
  decaps : FixedBytes 2400 → FixedBytes 1088 → Option Bytes32

/-- What key generation and encapsulation return is accepted, and decapsulation gives the
encapsulated secret back. -/
structure MlKem768.Correct (K : MlKem768) : Prop where
  encapsKey : ∀ d, K.encapsKeyOk (K.keyGen d).1 = true
  decapsKey : ∀ d, K.decapsKeyOk (K.keyGen d).2 = true
  cipherText : ∀ d m, K.cipherTextOk (K.encaps (K.keyGen d).1 m).2 = true
  decaps_encaps : ∀ d m,
    K.decaps (K.keyGen d).2 (K.encaps (K.keyGen d).1 m).2 = some (K.encaps (K.keyGen d).1 m).1

structure Ed25519 where
  /-- `SigningKey::from_bytes(..).verifying_key().to_bytes()`. -/
  verifyingKey : Bytes32 → Bytes32
  sign : Bytes32 → Bytes → FixedBytes 64
  /-- What `VerifyingKey::from_bytes` takes. -/
  verifyingKeyOk : Bytes32 → Bool
  verify : Bytes32 → Bytes → FixedBytes 64 → Bool

abbrev SignatureRecord := Signatures.Record Bytes32 Bytes (FixedBytes 64)

structure HandshakeSuite (S : Suite) where
  /-- `StaticSecret::from([0u8; 32])`. -/
  zeroScalar : S.Scalar
  sharedBytes : S.Shared → Bytes32
  blake3 : Bytes → S.Key
  /-- HKDF of the second digest, salted with the first, with info
  `SibnaX3DH_TranscriptBind_v3`. -/
  hkdfTranscript : S.Key → S.Key → S.Key
  /-- HKDF: salt, input keying material and info. An expansion to 32 bytes never fails. -/
  hkdfX3dh : S.Key → Bytes → Bytes → S.Key
  /-- HKDF of a seed without salt, with infos `SibnaIdentityKey_Ed25519_v1` and
  `SibnaIdentityKey_X25519_v1`. -/
  hkdfIdentity : Bytes32 → Bytes32 × S.Scalar
  /-- SHA-512, the first 32 bytes. -/
  sha512 : Bytes → S.Key
  kem : MlKem768
  ed : Ed25519

namespace HandshakeSuite
variable {S : Suite}

/-- Injective hashes: an output has one input, the info string included. -/
structure InjectiveKdf (H : HandshakeSuite S) : Prop where
  blake3 : Function.Injective H.blake3
  hkdfTranscript : ∀ {ext ext' digest digest' : S.Key},
    H.hkdfTranscript ext digest = H.hkdfTranscript ext' digest' → ext = ext' ∧ digest = digest'
  hkdfX3dh : ∀ {salt salt' : S.Key} {ikm ikm' info info' : Bytes},
    H.hkdfX3dh salt ikm info = H.hkdfX3dh salt' ikm' info' →
      salt = salt' ∧ ikm = ikm' ∧ info = info'

def NonzeroKdf (H : HandshakeSuite S) : Prop :=
  ∀ salt ikm info, isZero (S.keyBytes (H.hkdfX3dh salt ikm info)).val = false

end HandshakeSuite

end Sibna
