import Sibna.Primitives

/-!
# Errors and input validation

The errors of the core (`error.rs`, `crypto/mod.rs`) and the length checks of `validation.rs`.
-/

namespace Sibna

inductive CryptoError where
  | invalidKeyLength
  | invalidNonceLength (expected actual : Nat)
  | encryptionFailed
  | decryptionFailed
  | authenticationFailed
  | randomFailed
  | keyDerivationFailed
  | invalidCiphertext
  | weakKey
  | insufficientEntropy
  deriving DecidableEq

/-- `panicked` is no error of the source: the call ends with an overflow, and `panic = "abort"`
ends the process. -/
inductive ProtocolError where
  | invalidKeyLength
  | encryptionFailed
  | decryptionFailed
  | authenticationFailed
  | invalidNonceLength (expected actual : Nat)
  | invalidState
  | keyDerivationFailed
  | invalidMessage
  | internalError
  | invalidCiphertext
  | invalidKey
  | randomFailed
  | invalidArgument
  | deserializationError
  | maxSkippedMessagesExceeded
  | replayAttackDetected
  | messageTooOld
  | nonceReservationRequired
  | storageError
  | serializationError
  | timeout
  | handshakeFailed
  | keyNotFound
  | invalidSignature
  | expired
  | keyMismatch
  | verificationRequired
  | rateLimitExceeded
  | messageNumberOverflow
  | sessionNotFound
  | internalErrorDetailed (details : String)
  | panicked
  deriving DecidableEq

def ProtocolError.ofCrypto : CryptoError → ProtocolError
  | .invalidKeyLength => .invalidKeyLength
  | .encryptionFailed => .encryptionFailed
  | .decryptionFailed => .decryptionFailed
  | .authenticationFailed => .authenticationFailed
  | .invalidNonceLength expected actual => .invalidNonceLength expected actual
  | .randomFailed => .randomFailed
  | .keyDerivationFailed => .keyDerivationFailed
  | .invalidCiphertext => .invalidCiphertext
  | .weakKey => .invalidKey
  | .insufficientEntropy => .randomFailed

def ProtocolError.debug : ProtocolError → String
  | .invalidKeyLength => "InvalidKeyLength"
  | .encryptionFailed => "EncryptionFailed"
  | .decryptionFailed => "DecryptionFailed"
  | .authenticationFailed => "AuthenticationFailed"
  | .invalidNonceLength expected actual =>
    "InvalidNonceLength \x7b expected: " ++ toString expected ++ ", actual: " ++ toString actual ++
      " \x7d"
  | .invalidState => "InvalidState"
  | .keyDerivationFailed => "KeyDerivationFailed"
  | .invalidMessage => "InvalidMessage"
  | .internalError => "InternalError"
  | .invalidCiphertext => "InvalidCiphertext"
  | .invalidKey => "InvalidKey"
  | .randomFailed => "RandomFailed"
  | .invalidArgument => "InvalidArgument"
  | .deserializationError => "DeserializationError"
  | .maxSkippedMessagesExceeded => "MaxSkippedMessagesExceeded"
  | .replayAttackDetected => "ReplayAttackDetected"
  | .messageTooOld => "MessageTooOld"
  | .nonceReservationRequired => "NonceReservationRequired"
  | .storageError => "StorageError"
  | .serializationError => "SerializationError"
  | .timeout => "Timeout"
  | .handshakeFailed => "HandshakeFailed"
  | .keyNotFound => "KeyNotFound"
  | .invalidSignature => "InvalidSignature"
  | .expired => "Expired"
  | .keyMismatch => "KeyMismatch"
  | .verificationRequired => "VerificationRequired"
  | .rateLimitExceeded => "RateLimitExceeded"
  | .messageNumberOverflow => "MessageNumberOverflow"
  | .sessionNotFound => "SessionNotFound"
  | .internalErrorDetailed details =>
    "InternalErrorDetailed \x7b details: " ++ details.quote ++ " \x7d"
  | .panicked => "attempt to add with overflow"

def CryptoError.text : CryptoError → String
  | .invalidKeyLength => "Invalid key length"
  | .invalidNonceLength _ _ => "Invalid nonce length"
  | .encryptionFailed => "Encryption failed"
  | .decryptionFailed => "Decryption failed"
  | .authenticationFailed => "Authentication failed"
  | .randomFailed => "Random generation failed"
  | .keyDerivationFailed => "Key derivation failed"
  | .invalidCiphertext => "Invalid ciphertext"
  | .weakKey => "Weak key detected"
  | .insufficientEntropy => "Insufficient entropy"

/-- The result of a call that works on `&mut` state: what it returns and what it leaves
behind, on the error paths too. -/
abbrev Outcome (σ α : Type) := Except ProtocolError α × σ

def Outcome.map {σ α β : Type} (f : α → β) (o : Outcome σ α) : Outcome σ β := (o.1.map f, o.2)

def okOr {ε α : Type} (o : Option α) (e : ε) : Except ε α :=
  match o with
  | none => .error e
  | some a => .ok a

def ensure {ε : Type} (b : Bool) (e : ε) : Except ε Unit := if b then .ok () else .error e

def tryInto {ε : Type} (n : Nat) (bytes : Bytes) (e : ε) : Except ε (FixedBytes n) :=
  if h : bytes.length = n then .ok ⟨bytes, h⟩ else .error e

def checkedSub (a b : Nat) : Option Nat := if b ≤ a then some (a - b) else none

/-- `data[start..stop]`; `none` is the panic. -/
def sliceOf (data : Bytes) (start stop : Nat) : Option Bytes :=
  if start ≤ stop ∧ stop ≤ data.length then some ((data.take stop).drop start) else none

lemma checkedSub_of_le {a b : Nat} (h : b ≤ a) : checkedSub a b = some (a - b) := if_pos h

lemma getElem?_eq_getD {data : Bytes} {i : Nat} (h : i < data.length) :
    data[i]? = some (data.getD i 0) := by
  rw [List.getD_eq_getElem?_getD, List.getElem?_eq_getElem h, Option.getD_some]

variable {ε α β : Type} {x : Except ε α}

lemma okOr_ok {o : Option α} {e : ε} {a : α} : okOr o e = .ok a ↔ o = some a := by
  cases o with
  | none | some => simp [okOr]

lemma okOr_error {o : Option α} {e e' : ε} : okOr o e = .error e' ↔ o = none ∧ e = e' := by
  cases o with
  | none | some => simp [okOr]

lemma ensure_error {b : Bool} {e e' : ε} : ensure b e = .error e' ↔ b = false ∧ e = e' := by
  cases b <;> simp [ensure]

lemma tryInto_error {n : Nat} {bt : Bytes} {e e' : ε} :
    tryInto n bt e = .error e' ↔ bt.length ≠ n ∧ e = e' := by
  unfold tryInto
  split <;> simp_all

lemma bind_error {f : α → Except ε β} {e : ε} :
    (x >>= f) = .error e ↔ x = .error e ∨ ∃ a, x = .ok a ∧ f a = .error e := by
  cases x with
  | error | ok => simp [bind, Except.bind]

lemma ensure_ok {b : Bool} {e : ε} {u : Unit} : ensure b e = .ok u ↔ b = true := by
  cases b <;> simp [ensure]

lemma tryInto_ok {n : Nat} {bt : Bytes} {e : ε} {key : FixedBytes n} :
    tryInto n bt e = .ok key ↔ bt = key.val := by
  unfold tryInto
  split
  · rw [Except.ok.injEq, Subtype.ext_iff]
  rename_i h
  simp only [reduceCtorEq, false_iff]
  intro hb
  exact h (hb ▸ key.property)

@[simp] lemma tryInto_val {n : Nat} (key : FixedBytes n) (e : ε) :
    tryInto n key.val e = .ok key := tryInto_ok.mpr rfl

lemma ok_bind (a : α) (f : α → Except ε β) : ((.ok a : Except ε α) >>= f) = f a := rfl

lemma mapError_ok {ε' : Type} {f : ε → ε'} {a : α} : x.mapError f = .ok a ↔ x = .ok a := by
  cases x with
  | error | ok => simp [Except.mapError]

lemma toOption_eq_some {a : α} : x.toOption = some a ↔ x = .ok a := by
  cases x with
  | error | ok => simp [Except.toOption]

lemma exceptMap_ok {f : α → β} {b : β} : x.map f = .ok b ↔ ∃ a, x = .ok a ∧ f a = b := by
  cases x with
  | error | ok => simp [Except.map]

lemma exists_fst_of_map_snd {x : Except ε (α × β)} {b : β} (h : x.map Prod.snd = .ok b) :
    ∃ a, x = .ok (a, b) := by
  obtain ⟨⟨a, b'⟩, hx, hb⟩ := exceptMap_ok.mp h
  obtain rfl := hb
  exact ⟨a, hx⟩

lemma bind_ok {f : α → Except ε β} {b : β} : (x >>= f) = .ok b ↔ ∃ a, x = .ok a ∧ f a = .ok b := by
  cases x with
  | error | ok => simp [bind, Except.bind]

lemma exists_ok_of_isSome (h : x.toOption.isSome) : ∃ a, x = .ok a := by
  cases x with
  | error e => cases h
  | ok a => exact ⟨a, rfl⟩

def maxMessageSize : Nat := 10 * 1024 * 1024
def minMessageSize : Nat := 1
def maxAdLen : Nat := 256

inductive ValidationError where
  | empty
  | tooShort (min actual : Nat)
  | tooLong (max actual : Nat)
  deriving DecidableEq

def validateMessage (data : Bytes) : Except ValidationError Unit :=
  if data.isEmpty then .error .empty
  else if data.length > maxMessageSize then .error (.tooLong maxMessageSize data.length)
  else if data.length < minMessageSize then .error (.tooShort minMessageSize data.length)
  else .ok ()

/-- Empty plaintexts pass: cover traffic sends them. -/
def validateMessageForEncrypt (data : Bytes) : Except ValidationError Unit :=
  if data.length > maxMessageSize then .error (.tooLong maxMessageSize data.length) else .ok ()

def validateAssociatedData (ad : Bytes) : Except ValidationError Unit :=
  if ad.length > maxAdLen then .error (.tooLong maxAdLen ad.length) else .ok ()

lemma validateMessage_ok_iff (data : Bytes) :
    validateMessage data = .ok () ↔ data ≠ [] ∧ data.length ≤ maxMessageSize := by
  cases data with
  | nil => simp [validateMessage]
  | cons b bs =>
    have hm : ¬ (b :: bs).length < minMessageSize := by simp [minMessageSize]
    simp only [validateMessage, hm, if_false]
    by_cases hma : (b :: bs).length > maxMessageSize
    · simp_all
    · simp_all

lemma validateMessageForEncrypt_ok_iff (data : Bytes) :
    validateMessageForEncrypt data = .ok () ↔ data.length ≤ maxMessageSize := by
  unfold validateMessageForEncrypt
  split <;> simp <;> omega

lemma validateAssociatedData_ok_iff (ad : Bytes) :
    validateAssociatedData ad = .ok () ↔ ad.length ≤ maxAdLen := by
  unfold validateAssociatedData
  split <;> simp <;> omega

end Sibna
