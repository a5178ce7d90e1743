import Sibna.Crypto
import Sibna.Handshake.Suite
import Sibna.Lib.Runs

/-!
# The key store

`keystore/mod.rs`: identity, prekeys and pinned keys of peers.
-/

namespace Sibna

open LittleEndian

variable {S : Suite}

/-- A `created_at`: a clock before 1970 gives a value far in the future. -/
def creationTime (clock : Option Nat) : Nat := clock.getD ((2 ^ 64 - 1) / 2)

structure IdentityKeyPair (S : Suite) where
  ed25519Secret : Option Bytes32
  ed25519Public : Bytes32
  x25519Secret : Option S.Scalar
  x25519Public : Bytes32
  createdAt : Nat

namespace IdentityKeyPair

section
variable (H : HandshakeSuite S) (i : IdentityKeyPair S)

def generate (edSeed : Bytes32) (xScalar : S.Scalar) (clock : Option Nat) : IdentityKeyPair S where
  ed25519Secret := some edSeed
  ed25519Public := H.ed.verifyingKey edSeed
  x25519Secret := some xScalar
  x25519Public := S.publicKey xScalar
  createdAt := creationTime clock

def sign (data : Bytes) : Except ProtocolError (FixedBytes 64) :=
  match i.ed25519Secret with
  | none => .error .invalidState
  | some secret => .ok (H.ed.sign secret data)

def isValid : Bool :=
  !isZero i.ed25519Public.val && !isZero i.x25519Public.val &&
    (match i.ed25519Secret with
      | none => true
      | some secret => H.ed.verifyingKey secret == i.ed25519Public) &&
    (validatePublicKey i.x25519Public).isOk &&
    match i.x25519Secret with
    | none => true
    | some secret => S.publicKey secret == i.x25519Public

/-- What serde keeps: the X25519 scalar is written as `None`. -/
def saved : IdentityKeyPair S := { i with x25519Secret := none }

end

variable {H : HandshakeSuite S} {i : IdentityKeyPair S}

lemma isValid_x25519 (h : i.isValid H = true) {se : S.Scalar}
    (hs : i.x25519Secret = some se) : i.x25519Public = S.publicKey se := by
  simp only [isValid, hs, Bool.and_eq_true, beq_iff_eq] at h
  exact h.2.symm

lemma isValid_ed25519 (h : i.isValid H = true) {se : Bytes32}
    (hs : i.ed25519Secret = some se) : i.ed25519Public = H.ed.verifyingKey se := by
  simp only [isValid, hs, Bool.and_eq_true, beq_iff_eq] at h
  exact h.1.1.2.symm

lemma isValid_saved (h : i.isValid H = true) : i.saved.isValid H = true := by
  simp only [isValid, saved, Bool.and_eq_true] at h ⊢
  exact ⟨h.1, trivial⟩

end IdentityKeyPair

structure KeyGenEnv (S : Suite) where
  scalar : S.Scalar
  kemSeed : Option (FixedBytes 64)
  clock : Option Nat

structure SignedPreKey (S : Suite) where
  keyId : Nat
  secret : Option S.Scalar
  publicKey : Bytes32
  signature : Bytes
  pqSecret : Option Bytes
  pqPublic : Option Bytes
  createdAt : Nat

namespace SignedPreKey

/-- The signature covers the 32 bytes of the public key and nothing else. -/
def generate (H : HandshakeSuite S) (keyId : Nat) (identity : IdentityKeyPair S)
    (env : KeyGenEnv S) : Except ProtocolError (SignedPreKey S) :=
  match identity.sign H (S.publicKey env.scalar).val with
  | .error e => .error e
  | .ok signature =>
    match env.kemSeed with
    | none => .error (.internalErrorDetailed "PQC Keygen failed")
    | some d => .ok {
        keyId
        secret := some env.scalar
        publicKey := S.publicKey env.scalar
        signature := signature.val
        pqSecret := some (H.kem.keyGen d).2.val
        pqPublic := some (H.kem.keyGen d).1.val
        createdAt := creationTime env.clock }

/-- Older than seven days; a clock before 1970 counts as the creation time. -/
def isExpired (k : SignedPreKey S) (clock : Option Nat) : Bool :=
  decide (clock.getD k.createdAt > k.createdAt + 7 * 86400)

def saved (k : SignedPreKey S) : SignedPreKey S := { k with secret := none }

lemma generate_ok {H : HandshakeSuite S} {ki : Nat} {ie : IdentityKeyPair S}
    {env : KeyGenEnv S} {k : SignedPreKey S} (h : generate H ki ie env = .ok k) : ∃ secret d,
    ie.ed25519Secret = some secret ∧ env.kemSeed = some d ∧ k.secret = some env.scalar ∧
    k.publicKey = S.publicKey env.scalar ∧
    k.signature = (H.ed.sign secret (S.publicKey env.scalar).val).val ∧
    k.pqPublic = some (H.kem.keyGen d).1.val ∧ k.pqSecret = some (H.kem.keyGen d).2.val := by
  unfold generate at h
  split at h
  · cases h
  rename_i hsi
  split at h
  · cases h
  rename_i d hd
  unfold IdentityKeyPair.sign at hsi
  split at hsi
  · cases hsi
  rename_i secret hse
  cases hsi
  cases h
  exact ⟨secret, d, hse, hd, rfl, rfl, rfl, rfl, rfl⟩

end SignedPreKey

structure OneTimePreKey (S : Suite) where
  keyId : Nat
  secret : Option S.Scalar
  publicKey : Bytes32
  used : Bool
  createdAt : Nat

namespace OneTimePreKey

def generate (keyId : Nat) (scalar : S.Scalar) (clock : Option Nat) : OneTimePreKey S where
  keyId := keyId
  secret := some scalar
  publicKey := S.publicKey scalar
  used := false
  createdAt := creationTime clock

section
variable (k : OneTimePreKey S)

def markUsed : OneTimePreKey S := { k with used := true, secret := none }

/-- Older than thirty days; a clock before 1970 counts as far in the future. -/
def isExpired (clock : Option Nat) : Bool :=
  decide (creationTime clock > k.createdAt + 30 * 86400)

def saved : OneTimePreKey S := { k with secret := none }

def usable (clock : Option Nat) : Bool := !k.used && !k.isExpired clock

end

end OneTimePreKey

structure PinnedKey (S : Suite) where
  identityKey : Bytes32
  pinnedAt : Nat
  verified : Bool
  safetyNumber : S.Key

def bytesLt : Bytes → Bytes → Bool
  | [], [] => false
  | [], _ :: _ => true
  | _ :: _, [] => false
  | a :: as, b :: bs => a < b || (a == b && bytesLt as bs)

/-- `SIBNA_SAFETY_NUMBER_V1`. -/
def safetyNumberLabel : Bytes :=
  [83, 73, 66, 78, 65, 95, 83, 65, 70, 69, 84, 89, 95, 78, 85, 77, 66, 69, 82, 95, 86, 49]

def PinnedKey.new (H : HandshakeSuite S) (identityKey ourIdentity : Bytes32)
    (clock : Option Nat) : PinnedKey S where
  identityKey := identityKey
  pinnedAt := creationTime clock
  verified := false
  safetyNumber :=
    if bytesLt ourIdentity.val identityKey.val then
      H.sha512 (safetyNumberLabel ++ ourIdentity.val ++ identityKey.val)
    else H.sha512 (safetyNumberLabel ++ identityKey.val ++ ourIdentity.val)

inductive PinResult where
  | newPin
  | consistent
  | keyChanged (pinnedKey newKey : Bytes32)
  deriving DecidableEq

/-- The handler for encrypted storage is never set and has no field. -/
structure KeyStore (S : Suite) where
  identity : Option (IdentityKeyPair S)
  signedPrekey : Option (SignedPreKey S)
  onetimePrekeys : AList (fun _ : Nat => OneTimePreKey S)
  nextOnetimeId : Nat
  deviceId : UInt32
  rootIdentityKey : Option Bytes32
  deviceSignature : Option Bytes
  peerPins : AList (fun _ : Bytes => PinnedKey S)

namespace KeyStore

def new : KeyStore S where
  identity := none
  signedPrekey := none
  onetimePrekeys := ∅
  nextOnetimeId := 1
  deviceId := 0
  rootIdentityKey := none
  deviceSignature := none
  peerPins := ∅

section
variable (H : HandshakeSuite S)

def setIdentity (ks : KeyStore S) (identity : IdentityKeyPair S) : Outcome (KeyStore S) Unit :=
  if identity.isValid H then (.ok (), { ks with identity := some identity })
  else (.error .invalidKey, ks)

def setDeviceLink (ks : KeyStore S) (deviceId : UInt32) (rootKey : Bytes32)
    (signature : FixedBytes 64) : KeyStore S :=
  { ks with
    deviceId
    rootIdentityKey := some rootKey
    deviceSignature := some signature.val }

def getIdentityKeypair (ks : KeyStore S) : Except ProtocolError (IdentityKeyPair S) :=
  match ks.identity with
  | none => .error .keyNotFound
  | some identity => .ok identity

def generateSignedPrekey (ks : KeyStore S) (env : KeyGenEnv S) : Outcome (KeyStore S) Unit :=
  match ks.getIdentityKeypair with
  | .error e => (.error e, ks)
  | .ok identity =>
    match SignedPreKey.generate H 1 identity env with
    | .error e => (.error e, ks)
    | .ok prekey => (.ok (), { ks with signedPrekey := some prekey })

def getSignedPrekey (ks : KeyStore S) : Except ProtocolError (SignedPreKey S) :=
  match ks.signedPrekey with
  | none => .error .keyNotFound
  | some prekey => .ok prekey

def getSignedPrekeyPublic (ks : KeyStore S) : Except ProtocolError Bytes32 :=
  ks.getSignedPrekey.map SignedPreKey.publicKey

def getSignedPrekeyPqPublic (ks : KeyStore S) : Except ProtocolError Bytes :=
  match ks.signedPrekey.bind SignedPreKey.pqPublic with
  | none => .error .keyNotFound
  | some pk => .ok pk

def getSignedPrekeySignature (ks : KeyStore S) : Except ProtocolError (FixedBytes 64) :=
  match ks.signedPrekey with
  | none => .error .keyNotFound
  | some prekey =>
    if h : prekey.signature.length = 64 then .ok ⟨prekey.signature, h⟩
    else .error .invalidSignature

def rotateSignedPrekey (ks : KeyStore S) (env : KeyGenEnv S) : Outcome (KeyStore S) Bytes32 :=
  match ks.generateSignedPrekey H env with
  | (.error e, ks) => (.error e, ks)
  | (.ok (), ks) => (ks.getSignedPrekeyPublic, ks)

/-- The loop of `generate_onetime_prekeys`; `draw` gives scalar and clock of each new key. -/
def addOnetimePrekeys (draw : Nat → S.Scalar × Option Nat) :
    Nat → KeyStore S → List Nat × KeyStore S
  | 0, ks => ([], ks)
  | count + 1, ks =>
    let id := ks.nextOnetimeId
    let prekey := OneTimePreKey.generate id (draw id).1 (draw id).2
    let rest := addOnetimePrekeys draw count
      { ks with
        nextOnetimeId := id + 1
        onetimePrekeys := ks.onetimePrekeys.insert id prekey }
    (id :: rest.1, rest.2)

def generateOnetimePrekeys (ks : KeyStore S) (count : Nat) (draw : Nat → S.Scalar × Option Nat) :
    Outcome (KeyStore S) (List Nat) :=
  match ks.getIdentityKeypair with
  | .error e => (.error e, ks)
  | .ok _ =>
    let added := addOnetimePrekeys draw count ks
    (.ok added.1, added.2)

def onetimePrekeyCount (ks : KeyStore S) (clock : Option Nat) : Nat :=
  (ks.onetimePrekeys.entries.filter fun e => e.2.usable clock).length

def replenishOnetimePrekeys (ks : KeyStore S) (threshold target : Nat) (clock : Option Nat)
    (draw : Nat → S.Scalar × Option Nat) : Outcome (KeyStore S) Nat :=
  let currentCount := ks.onetimePrekeyCount clock
  if currentCount ≥ threshold then (.ok 0, ks)
  else
    let needed := target - currentCount
    match ks.generateOnetimePrekeys needed draw with
    | (.error e, ks) => (.error e, ks)
    | (.ok _, ks) => (.ok needed, ks)

def getOnetimePrekeyById (ks : KeyStore S) (id : Nat) : Except ProtocolError S.Scalar :=
  match (ks.onetimePrekeys.lookup id).bind OneTimePreKey.secret with
  | none => .error .keyNotFound
  | some secret => .ok secret

/-- `order` is the order in which the hash map is walked. -/
def getOnetimePrekeyPublic (ks : KeyStore S) (order : List Nat) (clock : Option Nat) :
    Except ProtocolError (Nat × Bytes32) :=
  match order.findSome? fun id => (ks.onetimePrekeys.lookup id).bind fun prekey =>
      if prekey.usable clock then some (id, prekey.publicKey) else none with
  | none => .error .keyNotFound
  | some found => .ok found

def getPrekeyBundleData (ks : KeyStore S) (order : List Nat) (clock : Option Nat) :
    Except ProtocolError (Bytes32 × Bytes32 × FixedBytes 64 × Option Bytes32) := do
  let identity ← ks.getIdentityKeypair
  let spkPub ← ks.getSignedPrekeyPublic
  let sig ← ks.getSignedPrekeySignature
  let opk := (ks.getOnetimePrekeyPublic order clock).toOption.map Prod.snd
  return (identity.ed25519Public, spkPub, sig, opk)

def markOnetimeUsed (ks : KeyStore S) (keyId : Nat) : KeyStore S :=
  match ks.onetimePrekeys.lookup keyId with
  | none => ks
  | some prekey =>
    { ks with onetimePrekeys := ks.onetimePrekeys.insert keyId prekey.markUsed }

def pruneKeys (ks : KeyStore S) (clock : Option Nat) : KeyStore S :=
  { ks with
    onetimePrekeys :=
      ⟨ks.onetimePrekeys.entries.filter fun e => e.2.usable clock,
        (List.filter_sublist.map Sigma.fst).nodup ks.onetimePrekeys.nodupKeys⟩
    signedPrekey := ks.signedPrekey.filter fun prekey => !prekey.isExpired clock }

def saved (ks : KeyStore S) : KeyStore S :=
  { ks with
    identity := ks.identity.map IdentityKeyPair.saved
    signedPrekey := ks.signedPrekey.map SignedPreKey.saved
    onetimePrekeys :=
      ⟨ks.onetimePrekeys.entries.map (Sigma.map id fun _ => OneTimePreKey.saved),
        List.NodupKeys.map₂ (fun _ => OneTimePreKey.saved) _ ks.onetimePrekeys.nodupKeys⟩ }

def pinPeerKey (ks : KeyStore S) (peerId : Bytes) (newKey : Bytes32) (clock : Option Nat) :
    PinResult × KeyStore S :=
  let ourIdentity : Bytes32 :=
    (ks.identity.map IdentityKeyPair.ed25519Public).getD ⟨List.replicate 32 0, by simp⟩
  match ks.peerPins.lookup peerId with
  | none =>
    (.newPin, { ks with peerPins := ks.peerPins.insert peerId (.new H newKey ourIdentity clock) })
  | some existing =>
    if existing.identityKey = newKey then (.consistent, ks)
    else (.keyChanged existing.identityKey newKey, ks)

def verifyOrPinPeerKey (ks : KeyStore S) (peerId : Bytes) (newKey : Bytes32) (clock : Option Nat) :
    Outcome (KeyStore S) PinResult :=
  match ks.pinPeerKey H peerId newKey clock with
  | (.keyChanged _ _, ks) => (.error .keyMismatch, ks)
  | (result, ks) => (.ok result, ks)

end

def isPeerVerified (ks : KeyStore S) (peerId : Bytes) : Bool :=
  match ks.peerPins.lookup peerId with
  | none => false
  | some pin => pin.verified

def markPeerVerified (ks : KeyStore S) (peerId : Bytes) : KeyStore S :=
  match ks.peerPins.lookup peerId with
  | none => ks
  | some pin => { ks with peerPins := ks.peerPins.insert peerId { pin with verified := true } }

def removePeerPin (ks : KeyStore S) (peerId : Bytes) : KeyStore S :=
  { ks with peerPins := ks.peerPins.erase peerId }

end KeyStore

end Sibna
