import Sibna.Ratchet.State

/-!
# Double ratchet sessions

`ratchet/session.rs`. Every call returns its result with the state it leaves. `encryptMessage` and
`decryptMessage` keep the message and its key beside the bytes.
-/

namespace Sibna

inductive HandshakeRole where
  | initiator
  | responder
  deriving DecidableEq

def HandshakeRole.isInitiator : HandshakeRole → Bool
  | initiator => true
  | responder => false

/-- `RatchetKdf::kdf_rk`. The expansion fails only for outputs over 8160 bytes. -/
def kdfRk (S : Suite) (rootKey : S.Key) (dhOut : S.Shared) : S.Key × S.Key :=
  S.hkdfRatchet rootKey dhOut

namespace DoubleRatchetSession
variable {S : Suite}

section
variable (config : Config) (sharedSecret : Bytes32) (localDh : S.Scalar) (remoteDh : Bytes32)

def new (now : Nat) : DoubleRatchetState S where
  rootKey := S.zeroKey
  sendingChain := none
  receivingChain := none
  dhLocal := some localDh
  dhLocalBytes := (S.publicKey localDh).val
  dhRemote := none
  dhRemoteBytes := none
  skippedMessageKeys := ∅
  maxSkip := config.maxSkippedMessages
  previousCounter := 0
  createdAt := now
  lastActivity := now
  messagesSent := 0
  messagesReceived := 0
  version := DoubleRatchetState.currentVersion

def initialState (config : Config) (role : HandshakeRole) (clock : Clock) (now : Nat) :
    DoubleRatchetState S :=
  let keys := S.hkdfSession sharedSecret
  let chain := ChainKey.new (clock.read .newSendingChain) keys.2
  { rootKey := keys.1
    sendingChain := if role.isInitiator then some chain else none
    receivingChain := if role.isInitiator then none else some chain
    dhLocal := some localDh
    dhLocalBytes := (S.publicKey localDh).val
    dhRemote := some remoteDh
    dhRemoteBytes := some remoteDh.val
    skippedMessageKeys := ∅
    maxSkip := config.maxSkippedMessages
    previousCounter := 0
    createdAt := now
    lastActivity := now
    messagesSent := 0
    messagesReceived := 0
    version := DoubleRatchetState.currentVersion }

def fromSharedSecret (config : Config) (role : HandshakeRole) (clock : Clock) :
    Except ProtocolError (DoubleRatchetState S) :=
  if isZero sharedSecret.val then .error .invalidArgument
  else
    match clock.read .timestamp with
    | none => .error .internalError
    | some now => .ok (initialState sharedSecret localDh remoteDh config role clock now)

end

section
variable (env : Env S)

def performDhRatchet (s : DoubleRatchetState S) : DoubleRatchetState S :=
  match s.dhRemote with
  | none => s.setLocalDh env.newLocal
  | some remote =>
    let keys := kdfRk S s.rootKey (S.diffieHellman env.newLocal remote)
    { s with
      rootKey := keys.1
      sendingChain := some (ChainKey.new (env.clock.read .newSendingChain) keys.2)
    }.setLocalDh env.newLocal

def dhRatchet (s : DoubleRatchetState S) (remoteDh : Bytes32) :
    Outcome (DoubleRatchetState S) Unit :=
  let s := { s with previousCounter := (s.sendingChain.map ChainKey.index).getD 0 }
  let s := s.setRemoteDh remoteDh
  match s.dhLocal with
  | none => (.error .invalidState, s)
  | some dhLocal =>
    let receiving := kdfRk S s.rootKey (S.diffieHellman dhLocal remoteDh)
    let sending := kdfRk S receiving.1 (S.diffieHellman env.newLocal remoteDh)
    (.ok (), { s with
      receivingChain := some (ChainKey.new (env.clock.read .newReceivingChain) receiving.2)
      rootKey := sending.1
      sendingChain := some (ChainKey.new (env.clock.read .newSendingChain) sending.2)
    }.setLocalDh env.newLocal)

/-- The `while` loop of `skip_message_keys`; each turn moves the index by one, so
`untilN - index` turns of fuel are the whole loop. -/
def skipLoop (untilN : Nat) : Nat → DoubleRatchetState S → Outcome (DoubleRatchetState S) Unit
  | 0, s => (.ok (), s)
  | fuel + 1, s =>
    match s.receivingChain with
    | none => (.error .invalidState, s)
    | some chain =>
      if chain.index < untilN then
        match chain.nextMessageKey with
        | none => (.error .invalidState, s)
        | some (mk, chain') =>
          let s := { s with receivingChain := some chain' }
          match s.dhRemote with
          | none => (.error .invalidState, s)
          | some dhRemote =>
            match s.addSkippedKey dhRemote (chain'.index - 1) mk with
            | (false, s) => (.error .maxSkippedMessagesExceeded, s)
            | (true, s) => skipLoop untilN fuel s
      else (.ok (), s)

/-- `current_index + max_skip` is a sum of two `u64`. -/
def skipMessageKeys (s : DoubleRatchetState S) (untilN : Nat) :
    Outcome (DoubleRatchetState S) Unit :=
  match s.receivingChain with
  | none => (.ok (), s)
  | some chain =>
    if 2 ^ 64 ≤ chain.index + s.maxSkip then (.error .panicked, s)
    else if untilN > chain.index + s.maxSkip then (.error .maxSkippedMessagesExceeded, s)
    else skipLoop untilN (untilN - chain.index) s

/-- The sum in `skip_message_keys` fits, for the receiving chain and for a new one. -/
def SumFits (s : DoubleRatchetState S) : Prop :=
  (s.receivingChain.map ChainKey.index).getD 0 + s.maxSkip < 2 ^ 64
  deriving Decidable

/-- What `encrypt` holds once it has moved the sending chain. `chain` is the chain before
the move, from which the header key is derived. -/
structure SendKey (S : Suite) where
  dhPub : Bytes32
  chain : ChainKey S
  messageKey : S.Key
  messageNumber : Nat
  rotated : Bool

def mustRotate (s : DoubleRatchetState S) : Bool :=
  (s.sendingChain.map fun c => c.needsRotation (env.clock.read .rotation)).getD true

def rotateIfNeeded (s : DoubleRatchetState S) : DoubleRatchetState S :=
  if mustRotate env s then performDhRatchet env s else s

def takeSendKey (s : DoubleRatchetState S) : Outcome (DoubleRatchetState S) (SendKey S) :=
  let rotated := mustRotate env s
  let s := rotateIfNeeded env s
  match s.dhLocal with
  | none => (.error .invalidState, s)
  | some dhLocal =>
    match s.sendingChain with
    | none => (.error .invalidState, s)
    | some chain =>
      if chain.index ≥ chain.reservedUntil then (.error .nonceReservationRequired, s)
      else
        match chain.nextMessageKey with
        | none => (.error .invalidState, s)
        | some (messageKey, chain') =>
          (.ok { dhPub := S.publicKey dhLocal, chain, messageKey,
                 messageNumber := chain'.index - 1, rotated },
            { s with sendingChain := some chain' })

def buildMessage (slot : SendKey S) (previousCounter : Nat) (plaintext associatedData : Bytes) :
    Except ProtocolError RatchetMessage :=
  match env.clock.read .timestamp with
  | none => .error .internalError
  | some timestamp =>
    let header : RatchetHeader := {
      dhPublic := slot.dhPub
      messageNumber := slot.messageNumber
      previousChainLength := previousCounter
      timestamp }
    match header.validate (env.clock.read .validate) with
    | .error e => .error e
    | .ok _ =>
      match Encryptor.new slot.messageKey 0 with
      | .error e => .error (.ofCrypto e)
      | .ok encryptor =>
        match (encryptor.encryptMessage (env.clock.read .encryptor) env.nonce plaintext
            (associatedData ++ header.toBytes)).1 with
        | .error e => .error (.ofCrypto e)
        | .ok ciphertext => .ok { header, ciphertext }

section
variable (config : Config)

/-- Only messages that follow no rotation have their header encrypted. -/
def frameMessage (env : Env S) (slot : SendKey S) (message : RatchetMessage) :
    Except ProtocolError Bytes :=
  if config.enableHeaderEncryption && !slot.rotated then
    message.toBytesEncrypted S slot.chain.deriveHeaderKey env.headerNonce
  else .ok message.toBytes

structure Encrypted (S : Suite) where
  slot : SendKey S
  message : RatchetMessage
  wire : Bytes

section
variable (key : S.Key) (s : DoubleRatchetState S)

def recordSent : DoubleRatchetState S :=
  let s := s.touch (env.clock.read .touch)
  { s with messagesSent := s.messagesSent + 1 }

def encryptMessage (env : Env S) (s : DoubleRatchetState S) (plaintext associatedData : Bytes) :
    Outcome (DoubleRatchetState S) (Encrypted S) :=
  match validateMessageForEncrypt plaintext with
  | .error _ => (.error .invalidMessage, s)
  | .ok _ =>
    match validateAssociatedData associatedData with
    | .error _ => (.error .invalidArgument, s)
    | .ok _ =>
      match takeSendKey env s with
      | (.error e, s) => (.error e, s)
      | (.ok slot, s) =>
        match buildMessage env slot s.previousCounter plaintext associatedData with
        | .error e => (.error e, s)
        | .ok message =>
          let s := recordSent env s
          match frameMessage config env slot message with
          | .error e => (.error e, s)
          | .ok wire => (.ok { slot, message, wire }, s)

def encrypt (env : Env S) (s : DoubleRatchetState S) (plaintext associatedData : Bytes) :
    Outcome (DoubleRatchetState S) Bytes :=
  (encryptMessage config env s plaintext associatedData).map Encrypted.wire

def openHeader (chain : Option (ChainKey S)) (message : Bytes) : Option RatchetMessage :=
  match chain with
  | none => none
  | some c => (RatchetMessage.fromBytesEncrypted S message c.deriveHeaderKey).toOption

/-- The receiving chain's header key first, then the sending chain's, then the plaintext
header. -/
def parseMessage (message : Bytes) : Except ProtocolError RatchetMessage :=
  if config.enableHeaderEncryption && message.length ≥ encryptedHeaderSize + 29 then
    match openHeader s.receivingChain message with
    | some m => .ok m
    | none =>
      match openHeader s.sendingChain message with
      | some m => .ok m
      | none => RatchetMessage.fromBytes message
  else RatchetMessage.fromBytes message

def decryptWithKey (ciphertext associatedData : Bytes) (header : RatchetHeader)
    (s : DoubleRatchetState S) (keyTuple : Bytes32 × Nat) : Outcome (DoubleRatchetState S) Bytes :=
  match Encryptor.new key 0 with
  | .error e => (.error (.ofCrypto e), s)
  | .ok encryptor =>
    match (encryptor.decryptMessage env.clock ciphertext (associatedData ++ header.toBytes)).1 with
    | .error e => (.error (.ofCrypto e), s)
    | .ok plaintext =>
      (.ok plaintext, { s with skippedMessageKeys := s.skippedMessageKeys.erase keyTuple })

def needsRatchet (remoteDh : Bytes32) : Bool :=
  (s.dhRemote.map fun p => !decide (p = remoteDh)).getD true

def notePreviousCounter : DoubleRatchetState S :=
  match s.sendingChain with
  | some c => { s with previousCounter := c.index }
  | none => s

def alignReceiving (header : RatchetHeader) : Outcome (DoubleRatchetState S) Unit :=
  if needsRatchet s header.dhPublic then
    match skipMessageKeys (notePreviousCounter s) header.previousChainLength with
    | (.error e, s) => (.error e, s)
    | (.ok _, s) =>
      match dhRatchet env s header.dhPublic with
      | (.error e, s) => (.error e, s)
      | (.ok _, s) => skipMessageKeys s header.messageNumber
  else skipMessageKeys s header.messageNumber

structure Decrypted (S : Suite) where
  message : RatchetMessage
  messageKey : S.Key
  plaintext : Bytes

def openMessage (m : RatchetMessage) (associatedData : Bytes) (s : DoubleRatchetState S) :
    Outcome (DoubleRatchetState S) (Decrypted S) :=
  (decryptWithKey env key m.ciphertext associatedData m.header s m.header.tag).map (⟨m, key, ·⟩)

def decryptTrial (m : RatchetMessage) (associatedData : Bytes) :
    Outcome (DoubleRatchetState S) (Decrypted S) :=
  match alignReceiving env s m.header with
  | (.error e, s) => (.error e, s)
  | (.ok _, s) =>
    match s.receivingChain with
    | none => (.error .invalidState, s)
    | some chain =>
      if m.header.messageNumber < chain.index then (.error .replayAttackDetected, s)
      else
        match chain.nextMessageKey with
        | none => (.error .invalidState, s)
        | some (mk, chain') =>
          openMessage env mk m associatedData { s with receivingChain := some chain' }

def recordReceived : DoubleRatchetState S :=
  let s := s.touch (env.clock.read .touch)
  { s with messagesReceived := s.messagesReceived + 1 }

def decryptParsed (m : RatchetMessage) (associatedData : Bytes) :
    Outcome (DoubleRatchetState S) (Decrypted S) :=
  match m.header.validate (env.clock.read .validate) with
  | .error e => (.error e, s)
  | .ok _ =>
    match s.skippedMessageKeys.lookup m.header.tag with
    | some mk => openMessage env mk m associatedData s
    | none =>
      match decryptTrial env s.clone m associatedData with
      | (.error e, _) => (.error e, s)
      | (.ok d, trial) => (.ok d, recordReceived env trial)

end

def decryptMessage (env : Env S) (s : DoubleRatchetState S) (message associatedData : Bytes) :
    Outcome (DoubleRatchetState S) (Decrypted S) :=
  if message.length < 48 + 29 then (.error .invalidMessage, s)
  else
    match parseMessage config s message with
    | .error e => (.error e, s)
    | .ok m => decryptParsed env s m associatedData

def decrypt (env : Env S) (s : DoubleRatchetState S) (message associatedData : Bytes) :
    Outcome (DoubleRatchetState S) Bytes :=
  (decryptMessage config env s message associatedData).map Decrypted.plaintext

end

section
variable (s : DoubleRatchetState S)

def serializeState : SavedState S := s.save

def newestSkipped (maxSkip : Nat) : SkippedKeys S :=
  let sorted := s.skippedMessageKeys.entries.mergeSort fun a b => a.1.2 ≤ b.1.2
  (sorted.reverse.take maxSkip).toAList

def deserializeState (data : SavedState S) : Outcome (DoubleRatchetState S) Unit :=
  match data.load.restoreDhKeys with
  | .error e => (.error e, s)
  | .ok loaded =>
    let maxSkip := loaded.maxSkip
    let s :=
      if loaded.dhLocal.isNone && loaded.dhRemote.isSome && loaded.sendingChain.isSome then
        performDhRatchet env loaded
      else loaded
    (.ok (), { s with skippedMessageKeys := newestSkipped s maxSkip })

def jumpToReservation : DoubleRatchetState S :=
  match s.sendingChain with
  | none => s
  | some ck =>
    if ck.reservedUntil > ck.index then
      { s with sendingChain := some { ck with index := ck.reservedUntil } }.touch
        (env.clock.read .touch)
    else s

def reserveNonces (count : Nat) : DoubleRatchetState S :=
  match s.sendingChain with
  | none => s
  | some ck =>
    { s with sendingChain := some { ck with reservedUntil := saturatingAdd ck.index count } }.touch
      (env.clock.read .touch)

end

end

inductive Call (S : Suite) where
  | encrypt (env : Env S) (plaintext associatedData : Bytes)
  | decrypt (env : Env S) (message associatedData : Bytes)

def call (config : Config) (s : DoubleRatchetState S) :
    Call S → Outcome (DoubleRatchetState S) Bytes
  | .encrypt env plaintext ad => encrypt config env s plaintext ad
  | .decrypt env message ad => decrypt config env s message ad

def run (config : Config) (s : DoubleRatchetState S) (calls : List (Call S)) :
    DoubleRatchetState S :=
  calls.foldl (fun s c => (call config s c).2) s

def results (config : Config) (s : DoubleRatchetState S) :
    List (Call S) → List (Except ProtocolError Bytes)
  | [] => []
  | c :: calls => (call config s c).1 :: results config (call config s c).2 calls

def Created (s : DoubleRatchetState S) : Prop :=
  (∃ config localDh now, s = new config localDh now) ∨ ∃ secret localDh remoteDh config role clock,
    fromSharedSecret secret localDh remoteDh config role clock = .ok s

end DoubleRatchetSession

end Sibna
