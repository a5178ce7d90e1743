import Sibna.Crypto
import Sibna.Handshake.Suite

/-!
# Group sessions

`group/mod.rs`. The release profile checks integer overflow, so a call that can overflow returns
`none` there. Names and creation times are never read and left out.
-/

namespace Sibna

open LittleEndian

/-- The crates behind the group layer. -/
structure GroupSuite (S : Suite) where
  /-- HKDF of a chain key without salt, with info `SibnaGroupMessageKey_v3`. -/
  messageKey : S.Key → S.Key
  /-- The same with info `SibnaGroupChainKey_v3`. -/
  nextChain : S.Key → S.Key
  sha256 : Bytes → Bytes32
  ed : Ed25519

/-- The places at which one call reads the system clock. -/
inductive GroupRead where
  | isExpired
  | created
  | messageKey (i : Nat)
  | timestamp
  | validate
  | touch
  deriving DecidableEq

structure GroupClock where
  read : GroupRead → Option Nat
  read_lt : ∀ r t, read r = some t → t < 2 ^ 63

def GroupClock.at (t : Nat) (h : t < 2 ^ 63) : GroupClock where
  read := fun _ => some t
  read_lt := fun _ u hu => by cases hu; exact h

/-- What a failing clock is replaced by: `u64::MAX / 2`. -/
def farFuture : Nat := 2 ^ 63 - 1

/-- What one call takes from the operating system; `chainKey` is the random chain key of a new
sender key. -/
structure GroupEnv (S : Suite) where
  clock : GroupClock
  chainKey : Option S.Key
  nonce : Option (FixedBytes 12)

structure SenderKey (S : Suite) where
  chainKey : S.Key
  messageNumber : UInt32
  expiration : Option UInt64
  keyId : UInt32

namespace SenderKey
variable {S : Suite}

def defaultExpirationSecs : Nat := 7 * 86400

section
variable (env : GroupEnv S) (G : GroupSuite S) (clock : GroupClock) (target : UInt32)

def new (keyId : UInt32) : Except ProtocolError (SenderKey S) := do
  let chainKey ← okOr env.chainKey .randomFailed
  let createdAt ← okOr (env.clock.read .created) .internalError
  return {
    chainKey
    messageNumber := 0
    expiration := some (UInt64.ofNat (createdAt + defaultExpirationSecs))
    keyId }

def checkExpiration (sk : SenderKey S) (now : Option Nat) : Except ProtocolError Unit :=
  match sk.expiration with
  | none => .ok ()
  | some expiration =>
    match now with
    | none => .error .internalError
    | some t => if t > expiration.toNat then .error .expired else .ok ()

/-- The chain key is replaced before the number is checked. -/
def nextMessageKey (now : Option Nat) (sk : SenderKey S) : Outcome (SenderKey S) S.Key :=
  match sk.checkExpiration now with
  | .error e => (.error e, sk)
  | .ok _ =>
    let moved := { sk with chainKey := G.nextChain sk.chainKey }
    if sk.messageNumber.toNat + 1 < 2 ^ 32 then
      (.ok (G.messageKey sk.chainKey), { moved with messageNumber := sk.messageNumber + 1 })
    else (.error .messageNumberOverflow, moved)

def isExpired (sk : SenderKey S) (now : Option Nat) : Bool :=
  match sk.expiration with
  | none => false
  | some expiration => decide (now.getD farFuture > expiration.toNat)

def rotate (sk : SenderKey S) : Except ProtocolError (SenderKey S) :=
  new env (sk.keyId + 1)

/-- The loop of `decrypt`: derive keys until the number is the message's. Every round but the last
moves the number on by one, so the difference is fuel enough. -/
def advanceTo (G : GroupSuite S) (clock : GroupClock) (target : UInt32) :
    (fuel i : Nat) → SenderKey S → Outcome (SenderKey S) Nat
  | 0, i, sk => (.ok i, sk)
  | fuel + 1, i, sk =>
    if sk.messageNumber < target then
      match sk.nextMessageKey G (clock.read (.messageKey i)) with
      | (.error e, sk) => (.error e, sk)
      | (.ok _, sk) => advanceTo G clock target fuel (i + 1) sk
    else (.ok i, sk)

def keyFor (sk : SenderKey S) : Outcome (SenderKey S) S.Key :=
  match advanceTo G clock target (target.toNat - sk.messageNumber.toNat) 0 sk with
  | (.error e, sk) => (.error e, sk)
  | (.ok i, sk) => sk.nextMessageKey G (clock.read (.messageKey i))

end

end SenderKey

def maxGroupSize : Nat := 1000

def maxGroupMessageSize : Nat := 10 * 1024 * 1024

def maxSkipGroup : Nat := 500

structure GroupMessage where
  groupId : Bytes32
  senderKeyId : UInt32
  messageNumber : UInt32
  ciphertext : Bytes
  epoch : UInt64
  timestamp : UInt64
  senderSignature : Bytes
  deriving DecidableEq

namespace GroupMessage
variable {S : Suite}

section
variable (G : GroupSuite S) (m : GroupMessage)

def signableBytes : Bytes :=
  m.groupId.val ++ toLe 4 m.senderKeyId.toNat ++ toLe 4 m.messageNumber.toNat ++
    toLe 8 m.epoch.toNat ++ toLe 8 m.timestamp.toNat ++ (G.sha256 m.ciphertext).val

def validate (now : Option Nat) : Except ProtocolError Unit := do
  ensure (!m.senderSignature.isEmpty) .authenticationFailed
  let now ← okOr now .internalError
  ensure (m.timestamp.toNat ≤ now + 300) .invalidMessage
  ensure (now ≤ m.timestamp.toNat + 86400) .expired
  ensure (m.ciphertext.length ≤ maxGroupMessageSize + 1024) .invalidMessage

/-- The signature check of `decrypt`. Its own refusal of an empty signature is not reached, since
`validate` comes first. -/
def verifySender (senderPublicKey : Bytes32) : Except ProtocolError Unit := do
  ensure (!m.senderSignature.isEmpty) .authenticationFailed
  ensure (G.ed.verifyingKeyOk senderPublicKey) .invalidKey
  let signature ← tryInto 64 m.senderSignature .invalidMessage
  ensure (G.ed.verify senderPublicKey (m.signableBytes G) signature) .authenticationFailed

end

end GroupMessage

structure GroupSession (S : Suite) where
  groupId : Bytes32
  ourSenderKey : Option (SenderKey S)
  senderKeys : AList (fun _ : Bytes32 => SenderKey S)
  members : List Bytes32
  epoch : UInt64
  lastActivity : Nat
  maxSize : Nat
  ourSigningKey : Option Bytes32

namespace GroupSession
variable {S : Suite}

def new (now : Option Nat) (groupId : Bytes32) (maxSize : Nat) : GroupSession S where
  groupId := groupId
  ourSenderKey := none
  senderKeys := ∅
  members := []
  epoch := 0
  lastActivity := now.getD farFuture
  maxSize := min maxSize maxGroupSize
  ourSigningKey := none

section
variable (G : GroupSuite S) (env : GroupEnv S) (s : GroupSession S) (m : GroupMessage)

def touch : GroupSession S :=
  { s with lastActivity := (env.clock.read .touch).getD farFuture }

def setSigningKey (seed : Bytes32) : GroupSession S :=
  { s with ourSigningKey := some seed }

def initializeSenderKey : Outcome (GroupSession S) Unit :=
  match SenderKey.new env 1 with
  | .error e => (.error e, s)
  | .ok sk => (.ok (), touch env { s with ourSenderKey := some sk })

def nextEpoch : Option (GroupSession S) :=
  if s.epoch.toNat + 1 < 2 ^ 64 then some { s with epoch := s.epoch + 1 } else none

section
variable (publicKey senderPublicKey : Bytes32)

def addMember : Option (Outcome (GroupSession S) Unit) :=
  if s.members.length ≥ s.maxSize then some (.error .invalidArgument, s)
  else if publicKey ∈ s.members then some (.error .invalidArgument, s)
  else
    (nextEpoch { s with members := s.members ++ [publicKey] }).map fun s => (.ok (), touch env s)

/-- The member is gone even when the rotation fails. -/
def removeMember : Option (Outcome (GroupSession S) Unit) :=
  (nextEpoch { s with
    members := s.members.filter (· != publicKey)
    senderKeys := s.senderKeys.erase publicKey }).map fun s =>
      match s.ourSenderKey with
      | none => (.ok (), touch env s)
      | some sk =>
        match sk.rotate env with
        | .error e => (.error e, s)
        | .ok sk => (.ok (), touch env { s with ourSenderKey := some sk })

def needsRotation (sk : SenderKey S) : Bool :=
  decide (sk.messageNumber.toNat > 1000) || sk.isExpired (env.clock.read .isExpired)

def rotateIfNeeded (sk : SenderKey S) : Except ProtocolError (SenderKey S) :=
  if needsRotation env sk then sk.rotate env else .ok sk

def sealMessage (key : S.Key) (plaintext : Bytes) : Except ProtocolError Bytes := do
  let crypto ← (CryptoHandler.new key).mapError .ofCrypto
  (crypto.encrypt env.nonce plaintext s.groupId.val).mapError .ofCrypto

def sign : GroupMessage :=
  match s.ourSigningKey with
  | none => m
  | some seed => { m with senderSignature := (G.ed.sign seed (m.signableBytes G)).val }

def messageFor (sk : SenderKey S) (ciphertext : Bytes) : GroupMessage where
  groupId := s.groupId
  senderKeyId := sk.keyId
  messageNumber := sk.messageNumber - 1
  ciphertext := ciphertext
  epoch := s.epoch
  timestamp := UInt64.ofNat ((env.clock.read .timestamp).getD farFuture)
  senderSignature := []

def encryptWith (sk : SenderKey S) (plaintext : Bytes) : Outcome (GroupSession S) GroupMessage :=
  match sk.nextMessageKey G (env.clock.read (.messageKey 0)) with
  | (.error e, sk) => (.error e, { s with ourSenderKey := some sk })
  | (.ok key, sk) =>
    let s := { s with ourSenderKey := some sk }
    match sealMessage env s key plaintext with
    | .error e => (.error e, s)
    | .ok ciphertext => (.ok (sign G s (messageFor env s sk ciphertext)), touch env s)

def encrypt (plaintext : Bytes) : Outcome (GroupSession S) GroupMessage :=
  if plaintext.length > maxGroupMessageSize then (.error .invalidArgument, s)
  else
    match s.ourSenderKey with
    | none => (.error .invalidState, s)
    | some sk =>
      match rotateIfNeeded env sk with
      | .error e => (.error e, s)
      | .ok sk => encryptWith G env s sk plaintext

def checkMessage : Except ProtocolError (SenderKey S) := do
  m.validate (env.clock.read .validate)
  ensure (m.groupId = s.groupId) .invalidMessage
  ensure (s.epoch ≤ m.epoch) .invalidMessage
  m.verifySender G senderPublicKey
  let sk ← okOr (s.senderKeys.lookup senderPublicKey) .keyNotFound
  ensure (sk.keyId = m.senderKeyId) .invalidMessage
  return sk

def openMessage (key : S.Key) (ciphertext : Bytes) : Except ProtocolError Bytes := do
  let crypto ← (CryptoHandler.new key).mapError .ofCrypto
  (crypto.decrypt ciphertext s.groupId.val).mapError .ofCrypto

/-- The stored key moves on with every derivation, whatever comes of the message. -/
def decryptWith (sk : SenderKey S) : Outcome (GroupSession S) Bytes :=
  let o := sk.keyFor G env.clock m.messageNumber
  let s := { s with senderKeys := s.senderKeys.insert senderPublicKey o.2 }
  match o.1 with
  | .error e => (.error e, s)
  | .ok key =>
    match openMessage s key m.ciphertext with
    | .error e => (.error e, s)
    | .ok plaintext => (.ok plaintext, touch env s)

/-- `message_number + MAX_SKIP_GROUP` is a sum of two `u32`. -/
def decrypt : Option (Outcome (GroupSession S) Bytes) :=
  match checkMessage G env s m senderPublicKey with
  | .error e => some (.error e, s)
  | .ok sk =>
    if sk.messageNumber.toNat + maxSkipGroup ≥ 2 ^ 32 then none
    else if m.messageNumber.toNat > sk.messageNumber.toNat + maxSkipGroup then
      some (.error .maxSkippedMessagesExceeded, s)
    else some (decryptWith G env s m senderPublicKey sk)

def importSenderKey (key : SenderKey S) : Outcome (GroupSession S) Unit :=
  if key.isExpired (env.clock.read .isExpired) then (.error .expired, s)
  else if ∃ existing ∈ s.senderKeys.lookup publicKey, key.keyId ≤ existing.keyId then
    (.error .invalidArgument, s)
  else (.ok (), touch env { s with senderKeys := s.senderKeys.insert publicKey key })

end

end

end GroupSession

structure GroupManager (S : Suite) where
  groups : AList (fun _ : Bytes32 => GroupSession S)
  maxGroups : Nat

namespace GroupManager
variable {S : Suite}

def defaultMaxGroups : Nat := 100

def new : GroupManager S := ⟨∅, defaultMaxGroups⟩

section
variable (now : Option Nat) (m : GroupManager S) (groupId : Bytes32)

def setGroup (session : GroupSession S) : GroupManager S :=
  { m with groups := m.groups.insert groupId session }

def createGroup (env : GroupEnv S) (m : GroupManager S) (groupId : Bytes32) :
    Outcome (GroupManager S) Unit :=
  if m.groups.entries.length ≥ m.maxGroups then (.error .invalidArgument, m)
  else
    match GroupSession.initializeSenderKey env (GroupSession.new now groupId maxGroupSize) with
    | (.error e, _) => (.error e, m)
    | (.ok (), session) => (.ok (), m.setGroup groupId session)

def leaveGroup : GroupManager S :=
  { m with groups := m.groups.erase groupId }

/-- The age of a group is a difference of two `u64`, and `retain` takes it of every group. -/
def pruneInactive (maxAgeSecs : UInt64) : Option (GroupManager S) :=
  let now := now.getD farFuture
  if ∀ group ∈ m.groups.entries, group.2.lastActivity ≤ now then
    some { m with
      groups := (m.groups.entries.filter fun group =>
        now - group.2.lastActivity < maxAgeSecs.toNat).toAList }
  else none

end

end GroupManager

end Sibna
