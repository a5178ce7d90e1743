import Mathlib.Data.List.AList
import Sibna.Lib.Framing
import Sibna.Lib.KeyAlgebra

/-!
# What the core takes from its environment

The cryptographic crates, the random generator and the clock enter as a `Suite` and an `Env`. What a
result assumes about them is one of the structures at the end.
-/

namespace Sibna

open KeyAlgebra

abbrev Bytes := List UInt8

/-- `[u8; n]`. -/
abbrev FixedBytes (n : Nat) := { b : Bytes // b.length = n }

abbrev Bytes32 := FixedBytes 32

@[simp] lemma FixedBytes.length_val {n : Nat} (b : FixedBytes n) : b.val.length = n := b.property

/-- `constant_time_is_zero`, and the `iter().all(|&b| b == 0)` of the callers that inline it. -/
def isZero (b : Bytes) : Bool := b.all (· == 0)

def saturatingAdd (a b : Nat) : Nat := min (a + b) (2 ^ 64 - 1)

/-- The third-party primitives. Keys are abstract: HMAC and HKDF outputs are compared as
derivations, and only `keyBytes` shows the 32 bytes the code looks at. -/
structure Suite where
  Key : Type
  Scalar : Type
  Shared : Type
  keyBytes : Key → Bytes32
  zeroKey : Key
  /-- `Hmac::<Sha256>` keyed with the first argument, over the one byte. -/
  hmacSha256 : Key → UInt8 → Key
  /-- HKDF with salt `SibnaSession_v3` and info `SibnaRootAndChainKey_v3`, 64 bytes, split. -/
  hkdfSession : Bytes32 → Key × Key
  /-- HKDF salted with the key and info `SibnaRatchet_v3`, 64 bytes, split. -/
  hkdfRatchet : Key → Shared → Key × Key
  publicKey : Scalar → Bytes32
  diffieHellman : Scalar → Bytes32 → Shared
  /-- ChaCha20-Poly1305: key, nonce, associated data, message. The tag is part of the result. -/
  aeadEncrypt : Key → Bytes → Bytes → Bytes → Bytes
  aeadDecrypt : Key → Bytes → Bytes → Bytes → Option Bytes

/-- The bytes of a term. -/
def Suite.bytes (S : Suite) : WireTerm S.Key Bytes → Bytes
  | .data d => d
  | .key k => (S.keyBytes k).val
  | .pair a b => S.bytes a ++ S.bytes b
  | .sealed k nonce ad content => S.aeadEncrypt k nonce ad (S.bytes content)

/-- The places at which one call reads the system clock. -/
inductive ClockRead where
  | rotation
  | newReceivingChain
  | newSendingChain
  | timestamp
  | validate
  | encryptor
  | seenNumbers
  | touch
  deriving DecidableEq

/-- The readings of one call, `none` for a clock before 1970. A `SystemTime` holds its
seconds in an `i64`, so no sum of a reading and a tolerance leaves the `u64` range. -/
structure Clock where
  read : ClockRead → Option Nat
  read_lt : ∀ r t, read r = some t → t < 2 ^ 63

def Clock.at (t : Nat) (h : t < 2 ^ 63) : Clock where
  read := fun _ => some t
  read_lt := fun _ u hu => by cases hu; exact h

/-- What one call takes from the operating system. A nonce is `none` when
`SecureRandom::new` fails. -/
structure Env (S : Suite) where
  clock : Clock
  newLocal : S.Scalar
  nonce : Option (FixedBytes 12)
  headerNonce : Option (FixedBytes 12)

inductive SessionAtom where
  | zero
  | sessionRoot (secret : Bytes32)
  | sessionChain (secret : Bytes32)
  deriving DecidableEq

/-- Symbolic HMAC and HKDF: every key has one derivation, so the functions are injective,
outputs of different functions differ, and no key is derived from itself. -/
structure Suite.SymbolicKdf (S : Suite) where
  term : S.Key → KeyTerm SessionAtom S.Shared
  term_injective : Function.Injective term
  term_zero : term S.zeroKey = .atom .zero
  term_hmac : ∀ k l, term (S.hmacSha256 k l) = .mac (term k) l
  term_session_root : ∀ x, term (S.hkdfSession x).1 = .atom (.sessionRoot x)
  term_session_chain : ∀ x, term (S.hkdfSession x).2 = .atom (.sessionChain x)
  term_ratchet_root : ∀ k s, term (S.hkdfRatchet k s).1 = .root (term k) s
  term_ratchet_chain : ∀ k s, term (S.hkdfRatchet k s).2 = .chain (term k) s

/-- Symbolic X25519. A contributory key is one that is not of low order; with a low-order key
the shared secret does not depend on the scalar, and nothing is assumed. -/
structure Suite.SymbolicDh (S : Suite) where
  contributory : Bytes32 → Prop
  comm : ∀ a b, S.diffieHellman a (S.publicKey b) = S.diffieHellman b (S.publicKey a)
  publicKey_injective : Function.Injective S.publicKey
  publicKey_ne_zero : ∀ a, isZero (S.publicKey a).val = false
  publicKey_contributory : ∀ a, contributory (S.publicKey a)
  dh_eq : ∀ {a b : S.Scalar} {x y : Bytes32}, contributory x →
    S.diffieHellman a x = S.diffieHellman b y →
      (a = b ∧ x = y) ∨ (y = S.publicKey a ∧ x = S.publicKey b)

/-- A sealed message opens to its plaintext under the same key, nonce and associated data,
and a sealed 56-byte header is 72 bytes long. -/
structure Suite.CorrectAead (S : Suite) : Prop where
  decrypt_encrypt : ∀ k n ad m, S.aeadDecrypt k n ad (S.aeadEncrypt k n ad m) = some m
  tag_length : ∀ k n ad m, 16 ≤ (S.aeadEncrypt k n ad m).length
  header_length : ∀ k n m, m.length = 56 → (S.aeadEncrypt k n [] m).length = 72

/-- What was sealed under one key opens under no other: two openings at the end of one byte
string are under the same key. -/
def Suite.CommittingAead (S : Suite) : Prop :=
  ∀ {k k' : S.Key} {n n' ad ad' c c' m m' : Bytes}, ad ≠ [] → ad' ≠ [] → c' <:+ c →
    S.aeadDecrypt k n ad c = some m → S.aeadDecrypt k' n' ad' c' = some m' → k = k'

namespace Suite.SymbolicDh
variable {S : Suite} (D : S.SymbolicDh)
include D

lemma scalar_mem {a b x : S.Scalar} {r : Bytes32}
    (h : S.diffieHellman x r = S.diffieHellman a (S.publicKey b)) : x = a ∨ x = b := by
  rcases D.dh_eq (D.publicKey_contributory b) h.symm with ⟨hax, _⟩ | ⟨_, hbx⟩
  · exact .inl hax.symm
  · exact .inr (D.publicKey_injective hbx).symm

end Suite.SymbolicDh

end Sibna
