import Sibna.Crypto

/-!
# Chains, messages and the state of a session

`ratchet/chain.rs`, `ratchet/mod.rs` and `ratchet/state.rs`. What serde skips is absent from
`SavedState`.
-/

namespace Sibna

def messageKeySeed : UInt8 := 0x01
def chainKeySeed : UInt8 := 0x02
def headerKeySeed : UInt8 := 0x03

structure ChainKey (S : Suite) where
  key : S.Key
  index : Nat
  createdAt : Nat
  maxMessages : Nat
  reservedUntil : Nat
  maxMessages_lt : maxMessages < 2 ^ 64

namespace ChainKey
variable {S : Suite}

instance [DecidableEq S.Key] : DecidableEq (ChainKey S)
  | .mk .., .mk .. => decidable_of_iff' _ (.of_eq (mk.injEq ..))

def defaultMaxMessages : Nat := 4000

/-- `created_at` is zero when the clock cannot be read. -/
def new (now : Option Nat) (key : S.Key) : ChainKey S where
  key := key
  index := 0
  createdAt := now.getD 0
  maxMessages := defaultMaxMessages
  reservedUntil := defaultMaxMessages
  maxMessages_lt := by decide

section
variable (c : ChainKey S)

def deriveKey (seed : UInt8) : S.Key := S.hmacSha256 c.key seed

def nextMessageKey : Option (S.Key × ChainKey S) :=
  if c.index ≥ c.maxMessages then none
  else some (c.deriveKey messageKeySeed,
    { c with key := c.deriveKey chainKeySeed, index := saturatingAdd c.index 1 })

def deriveHeaderKey : S.Key := c.deriveKey headerKeySeed

def ageSecs (now : Option Nat) : Nat := now.getD c.createdAt - c.createdAt

def needsRotation (now : Option Nat) : Bool :=
  c.index ≥ c.maxMessages || c.ageSecs now > 86400

end

end ChainKey

section
variable {S : Suite}

def chainAt (k : S.Key) : Nat → S.Key
  | 0 => k
  | n + 1 => S.hmacSha256 (chainAt k n) chainKeySeed

def messageKeyAt (k : S.Key) (n : Nat) : S.Key := S.hmacSha256 (chainAt k n) messageKeySeed

lemma chainAt_add (k : S.Key) (m n : Nat) : chainAt k (m + n) = chainAt (chainAt k m) n := by
  induction n with
  | zero => rfl
  | succ n ih => rw [← Nat.add_assoc, chainAt, chainAt, ih]

def ChainKey.advance (c : ChainKey S) (n : Nat) : ChainKey S :=
  { c with key := chainAt c.key n, index := c.index + n }

lemma ChainKey.advance_advance (c : ChainKey S) (m n : Nat) :
    (c.advance m).advance n = c.advance (m + n) := by
  simp only [ChainKey.advance, chainAt_add, Nat.add_assoc]

lemma ChainKey.nextMessageKey_of_lt {c : ChainKey S} (h : c.index < c.maxMessages) :
    c.nextMessageKey = some (messageKeyAt c.key 0, c.advance 1) := by
  have hm := c.maxMessages_lt
  have hsa : saturatingAdd c.index 1 = c.index + 1 := by
    unfold saturatingAdd
    omega
  simp only [ChainKey.nextMessageKey, hsa, if_neg (Nat.not_le.mpr h)]
  rfl

lemma ChainKey.nextMessageKey_eq_some {c c' : ChainKey S} {mk : S.Key}
    (h : c.nextMessageKey = some (mk, c')) :
    c.index < c.maxMessages ∧ mk = messageKeyAt c.key 0 ∧ c' = c.advance 1 := by
  by_cases hlt : c.index < c.maxMessages
  · rw [nextMessageKey_of_lt hlt] at h
    cases h
    exact ⟨hlt, rfl, rfl⟩
  · rw [nextMessageKey, if_pos (Nat.not_lt.mp hlt)] at h
    cases h

end

open LittleEndian

def headerSize : Nat := 56
def encryptedHeaderNonceSize : Nat := 12
def encryptedHeaderSize : Nat := encryptedHeaderNonceSize + headerSize + 16

structure RatchetHeader where
  dhPublic : Bytes32
  messageNumber : Nat
  previousChainLength : Nat
  timestamp : Nat
  deriving DecidableEq

structure RatchetMessage where
  header : RatchetHeader
  ciphertext : Bytes
  deriving DecidableEq

namespace RatchetHeader

/-- What a skipped key is kept under. -/
abbrev tag (h : RatchetHeader) : Bytes32 × Nat := (h.dhPublic, h.messageNumber)

def toBytes (h : RatchetHeader) : Bytes :=
  h.dhPublic.val ++ toLe 8 h.messageNumber ++ toLe 8 h.previousChainLength ++ toLe 8 h.timestamp

def fromBytes (data : Bytes) : Except ProtocolError RatchetHeader :=
  if h : data.length < headerSize then .error .invalidMessage
  else .ok {
    dhPublic := ⟨data.take 32, by simp only [headerSize] at h; simp; omega⟩
    messageNumber := fromLe ((data.drop 32).take 8)
    previousChainLength := fromLe ((data.drop 40).take 8)
    timestamp := fromLe ((data.drop 48).take 8) }

def validate (h : RatchetHeader) (now : Option Nat) : Except ProtocolError Unit :=
  if isZero h.dhPublic.val then .error .invalidMessage
  else if h.messageNumber > 1000000000000 then .error .invalidMessage
  else
    match now with
    | none => .error .invalidState
    | some now =>
      if h.timestamp > now + 300 then .error .invalidMessage
      else if now > saturatingAdd h.timestamp 86400 then .error .messageTooOld
      else .ok ()

def encrypt (S : Suite) (h : RatchetHeader) (headerKey : S.Key) (nonce : Option (FixedBytes 12)) :
    Except ProtocolError Bytes :=
  match nonce with
  | none => .error .internalError
  | some n => .ok (n.val ++ S.aeadEncrypt headerKey n.val [] h.toBytes)

def decrypt (S : Suite) (data : Bytes) (headerKey : S.Key) : Except ProtocolError RatchetHeader :=
  if data.length < encryptedHeaderNonceSize + 16 then .error .invalidMessage
  else
    match S.aeadDecrypt headerKey (data.take encryptedHeaderNonceSize) []
        (data.drop encryptedHeaderNonceSize) with
    | none => .error .decryptionFailed
    | some plaintext => fromBytes plaintext

def InRange (h : RatchetHeader) : Prop :=
  h.messageNumber < 2 ^ 64 ∧ h.previousChainLength < 2 ^ 64 ∧ h.timestamp < 2 ^ 64

@[simp] lemma toBytes_length (h : RatchetHeader) : h.toBytes.length = 56 := by simp [toBytes]

lemma fromBytes_toBytes_append {h : RatchetHeader} (hr : h.InRange) (rest : Bytes) :
    fromBytes (h.toBytes ++ rest) = .ok h := by
  obtain ⟨hn, hp, ht⟩ := hr
  have hl : ¬ (h.toBytes ++ rest).length < headerSize := by simp [headerSize]
  have hdh : (h.toBytes ++ rest).take 32 = h.dhPublic.val := by
    simp [toBytes]
  have h32 : ((h.toBytes ++ rest).drop 32).take 8 = toLe 8 h.messageNumber := by
    simp [toBytes]
  have h40 : ((h.toBytes ++ rest).drop 40).take 8 = toLe 8 h.previousChainLength := by
    simp [toBytes, List.drop_append, List.drop_of_length_le]
  have h48 : ((h.toBytes ++ rest).drop 48).take 8 = toLe 8 h.timestamp := by
    simp [toBytes, List.drop_append, List.drop_of_length_le]
  simp only [fromBytes, hl, dif_neg, not_false_iff, hdh, h32, h40, h48]
  rw [fromLe_toLe hn, fromLe_toLe hp, fromLe_toLe ht]

lemma fromBytes_toBytes {h : RatchetHeader} (hr : h.InRange) : fromBytes h.toBytes = .ok h := by
  simpa using fromBytes_toBytes_append hr []

section
variable {S : Suite} (hA : S.CorrectAead) (k : S.Key) (n : FixedBytes 12)
include hA

lemma sealed_length (h : RatchetHeader) :
    (n.val ++ S.aeadEncrypt k n.val [] h.toBytes).length = encryptedHeaderSize := by
  simp [hA.header_length k n.val h.toBytes, encryptedHeaderSize, encryptedHeaderNonceSize,
    headerSize]

lemma decrypt_sealed {h : RatchetHeader} (hr : h.InRange) :
    decrypt S (n.val ++ S.aeadEncrypt k n.val [] h.toBytes) k = .ok h := by
  have hl := sealed_length hA k n h
  rw [decrypt, if_neg (by rw [hl]; decide), encryptedHeaderNonceSize, List.take_left' n.property,
    List.drop_left' n.property, hA.decrypt_encrypt]
  exact fromBytes_toBytes hr

end

end RatchetHeader

namespace RatchetMessage

def toBytes (m : RatchetMessage) : Bytes := m.header.toBytes ++ m.ciphertext

def toBytesEncrypted (S : Suite) (m : RatchetMessage) (headerKey : S.Key)
    (nonce : Option (FixedBytes 12)) : Except ProtocolError Bytes :=
  match m.header.encrypt S headerKey nonce with
  | .error e => .error e
  | .ok encryptedHeader => .ok (encryptedHeader ++ m.ciphertext)

def fromBytes (data : Bytes) : Except ProtocolError RatchetMessage :=
  if data.length < headerSize + 29 then .error .invalidMessage
  else
    match RatchetHeader.fromBytes (data.take headerSize) with
    | .error e => .error e
    | .ok header => .ok { header, ciphertext := data.drop headerSize }

def fromBytesEncrypted (S : Suite) (data : Bytes) (headerKey : S.Key) :
    Except ProtocolError RatchetMessage :=
  if data.length < encryptedHeaderSize + 29 then .error .invalidMessage
  else
    match RatchetHeader.decrypt S (data.take encryptedHeaderSize) headerKey with
    | .error e => .error e
    | .ok header => .ok { header, ciphertext := data.drop encryptedHeaderSize }

lemma fromBytes_toBytes {m : RatchetMessage} (hr : m.header.InRange)
    (hle : 29 ≤ m.ciphertext.length) : fromBytes m.toBytes = .ok m := by
  have hl : ¬ m.toBytes.length < headerSize + 29 := by
    simp only [toBytes, List.length_append, RatchetHeader.toBytes_length, headerSize]
    omega
  have hta : m.toBytes.take headerSize = m.header.toBytes := by
    simp [toBytes, headerSize]
  have hdr : m.toBytes.drop headerSize = m.ciphertext := by
    simp [toBytes, headerSize]
  simp only [fromBytes, hl, if_false, hta, hdr, RatchetHeader.fromBytes_toBytes hr]

variable {data : Bytes} {m : RatchetMessage}

lemma fromBytes_toBytes_dhPublic {m' : RatchetMessage} (h : fromBytes m.toBytes = .ok m') :
    m'.header.dhPublic = m.header.dhPublic := by
  unfold fromBytes at h
  split at h
  · cases h
  simp only [RatchetHeader.fromBytes] at h
  split at h
  · cases h
  rename_i hp
  cases h
  split at hp
  · cases hp
  · cases hp
    apply Subtype.ext
    simp [toBytes, RatchetHeader.toBytes, headerSize, List.take_take]

lemma fromBytes_ciphertext (h : fromBytes data = .ok m) : m.ciphertext = data.drop headerSize := by
  unfold fromBytes at h
  split at h
  · cases h
  split at h
  · cases h
  · cases h
    rfl

lemma fromBytesEncrypted_ciphertext {S : Suite} {k : S.Key}
    (h : fromBytesEncrypted S data k = .ok m) : m.ciphertext = data.drop encryptedHeaderSize := by
  unfold fromBytesEncrypted at h
  split at h
  · cases h
  split at h
  · cases h
  · cases h
    rfl

lemma fromBytesEncrypted_toBytesEncrypted {S : Suite} (hA : S.CorrectAead) {k : S.Key}
    {no : Option (FixedBytes 12)} (hr : m.header.InRange) (hle : 29 ≤ m.ciphertext.length)
    (h : m.toBytesEncrypted S k no = .ok data) : fromBytesEncrypted S data k = .ok m := by
  cases no with
  | none => simp [toBytesEncrypted, RatchetHeader.encrypt] at h
  | some n =>
    simp only [toBytesEncrypted, RatchetHeader.encrypt, Except.ok.injEq] at h
    subst h
    let header := n.val ++ S.aeadEncrypt k n.val [] m.header.toBytes
    have hhe : header.length = encryptedHeaderSize := RatchetHeader.sealed_length hA k n m.header
    have hl : ¬ (header ++ m.ciphertext).length < encryptedHeaderSize + 29 := by
      rw [List.length_append, hhe]
      omega
    have hta : (header ++ m.ciphertext).take encryptedHeaderSize = header := List.take_left' hhe
    have hdr : (header ++ m.ciphertext).drop encryptedHeaderSize = m.ciphertext :=
      List.drop_left' hhe
    simp only [header] at hl hta hdr
    simp only [fromBytesEncrypted, hl, if_false, hta, hdr, RatchetHeader.decrypt_sealed hA k n hr]

end RatchetMessage

/-- The two fields of `Config` the ratchet reads. -/
structure Config where
  maxSkippedMessages : Nat
  enableHeaderEncryption : Bool
  deriving DecidableEq

abbrev SkippedKeys (S : Suite) := AList (fun _ : Bytes32 × Nat => S.Key)

structure DoubleRatchetState (S : Suite) where
  rootKey : S.Key
  sendingChain : Option (ChainKey S)
  receivingChain : Option (ChainKey S)
  dhLocal : Option S.Scalar
  dhLocalBytes : Bytes
  dhRemote : Option Bytes32
  dhRemoteBytes : Option Bytes
  skippedMessageKeys : SkippedKeys S
  maxSkip : Nat
  previousCounter : Nat
  createdAt : Nat
  lastActivity : Nat
  messagesSent : Nat
  messagesReceived : Nat
  version : Nat

namespace DoubleRatchetState
variable {S : Suite}

def currentVersion : Nat := 1

section
variable (s : DoubleRatchetState S)

def touch (now : Option Nat) : DoubleRatchetState S :=
  { s with lastActivity := now.getD s.lastActivity }

def skippedKeysFull : Bool :=
  s.skippedMessageKeys.entries.length ≥ s.maxSkip

def addSkippedKey (pubKey : Bytes32) (msgNum : Nat) (key : S.Key) : Bool × DoubleRatchetState S :=
  if s.skippedKeysFull then (false, s)
  else (true, { s with skippedMessageKeys := s.skippedMessageKeys.insert (pubKey, msgNum) key })

def setLocalDh (secret : S.Scalar) : DoubleRatchetState S :=
  { s with dhLocalBytes := (S.publicKey secret).val, dhLocal := some secret }

def setRemoteDh (remote : Bytes32) : DoubleRatchetState S :=
  { s with dhRemoteBytes := some remote.val, dhRemote := some remote }

def restoreDhKeys : Except ProtocolError (DoubleRatchetState S) :=
  match s.dhRemoteBytes with
  | none => .ok s
  | some bytes =>
    if h : bytes.length = 32 then .ok { s with dhRemote := some ⟨bytes, h⟩ }
    else .error .deserializationError

/-- `impl Clone`, which copies every field. -/
def clone : DoubleRatchetState S := { s with }

@[simp] lemma clone_eq : s.clone = s := rfl

end

end DoubleRatchetState

structure SavedState (S : Suite) where
  rootKey : S.Key
  sendingChain : Option (ChainKey S)
  receivingChain : Option (ChainKey S)
  dhLocalBytes : Bytes
  dhRemoteBytes : Option Bytes
  skippedMessageKeys : List (Sigma fun _ : Bytes32 × Nat => S.Key)
  previousCounter : Nat
  createdAt : Nat
  lastActivity : Nat
  messagesSent : Nat
  messagesReceived : Nat
  version : Nat

section
variable {S : Suite}

instance [DecidableEq S.Key] : DecidableEq (SavedState S)
  | .mk .., .mk .. => decidable_of_iff' _ (.of_eq (SavedState.mk.injEq ..))

def DoubleRatchetState.save (s : DoubleRatchetState S) : SavedState S :=
  { s with skippedMessageKeys := s.skippedMessageKeys.entries }

def SavedState.load (d : SavedState S) : DoubleRatchetState S :=
  { d with
    dhLocal := none
    dhRemote := none
    skippedMessageKeys := d.skippedMessageKeys.toAList
    maxSkip := 0 }

lemma DoubleRatchetState.lookup_load_save (s : DoubleRatchetState S) (t : Bytes32 × Nat) :
    s.save.load.skippedMessageKeys.lookup t = s.skippedMessageKeys.lookup t :=
  List.dlookup_dedupKeys t s.skippedMessageKeys.entries

end

end Sibna
