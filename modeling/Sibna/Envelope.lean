import Sibna.Group.SessionSpec
import Sibna.Handshake.Symbolic
import Sibna.Lib.Text

/-!
# Signed envelopes and timestamps

`SignedEnvelope` of `metadata.rs` and the envelopes of the Python SDK. The digest that is signed has
nothing between the fields, and an envelope subtracts its timestamp as it is.
-/

namespace Sibna

open LittleEndian Text

inductive EnvelopeError where
  | malformedSignature
  | malformedSenderKey
  | invalidSenderKey
  | signatureInvalid
  deriving DecidableEq

structure SignedEnvelope where
  recipientId : Bytes
  payloadHex : Bytes
  senderId : Bytes
  timestamp : Int64
  messageId : Bytes
  signatureHex : Bytes
  compressed : Bool
  isDummy : Bool
  deriving DecidableEq

namespace SignedEnvelope

section
variable (ed : Ed25519) (sha512 : Bytes → Bytes) (e : SignedEnvelope)

def hashed : Bytes :=
  e.recipientId ++ (e.payloadHex ++ (toLe 8 e.timestamp.toUInt64.toNat ++
    (e.messageId ++ [e.isDummy.toNat.toUInt8])))

def signingPayload : Bytes := sha512 e.hashed

def verify : Except EnvelopeError Unit := do
  let sigBytes ← okOr (Text.hexDecode e.signatureHex) .malformedSignature
  let keyBytes ← okOr (Text.hexDecode e.senderId) .malformedSenderKey
  ensure (keyBytes.length == 32 && sigBytes.length == 64) .malformedSignature
  let key ← tryInto 32 keyBytes .malformedSenderKey
  let sig ← tryInto 64 sigBytes .malformedSignature
  ensure (ed.verifyingKeyOk key) .invalidSenderKey
  ensure (ed.verify key (e.signingPayload sha512) sig) .signatureInvalid

def signedBy (secret : Bytes32) (e : SignedEnvelope) : SignedEnvelope :=
  { e with signatureHex := Text.hexEncode (ed.sign secret (e.signingPayload sha512)).val }

lemma hashed_inj {e e' : SignedEnvelope} (hre : e.recipientId.length = e'.recipientId.length)
    (hpa : e.payloadHex.length = e'.payloadHex.length) (h : e.hashed = e'.hashed) :
    e.recipientId = e'.recipientId ∧ e.payloadHex = e'.payloadHex ∧ e.timestamp = e'.timestamp ∧
    e.messageId = e'.messageId ∧ e.isDummy = e'.isDummy := by
  obtain ⟨hr, h₁⟩ := List.append_inj h hre
  obtain ⟨hp, h₂⟩ := List.append_inj h₁ hpa
  obtain ⟨ht, h₃⟩ := List.append_inj h₂ (by simp)
  obtain ⟨hm, hd⟩ := List.append_inj' h₃ rfl
  refine ⟨hr, hp, ?_, hm, ?_⟩
  · have hra := congrArg fromLe ht
    rw [fromLe_toLe (UInt64.toNat_lt _), fromLe_toLe (UInt64.toNat_lt _)] at hra
    exact congrArg Int64.ofUInt64 (UInt64.toNat_inj.mp hra)
  · cases hd₁ : e.isDummy <;> cases hd₂ : e'.isDummy <;> simp [hd₁, hd₂] at hd ⊢

lemma verify_ok {ed : Ed25519} {sha512 : Bytes → Bytes} {e : SignedEnvelope}
    (h : e.verify ed sha512 = .ok ()) : ∃ key sig, Text.hexDecode e.signatureHex = some sig.val ∧
    Text.hexDecode e.senderId = some key.val ∧ ed.verify key (e.signingPayload sha512) sig = true :=
    by
  obtain ⟨sb, hb, h₁⟩ := bind_ok.mp h
  obtain ⟨kb, he, h₂⟩ := bind_ok.mp h₁
  obtain ⟨-, -, h₃⟩ := bind_ok.mp h₂
  obtain ⟨key, hk, h₄⟩ := bind_ok.mp h₃
  obtain ⟨sig, hsi, h₅⟩ := bind_ok.mp h₄
  obtain ⟨-, -, hv⟩ := bind_ok.mp h₅
  rw [tryInto_ok.mp hk] at he
  rw [tryInto_ok.mp hsi] at hb
  exact ⟨key, sig, okOr_ok.mp hb, okOr_ok.mp he, ensure_ok.mp hv⟩

/-- Two envelopes with the same signed payload, or two that verify with the same signature, have the
same signed fields exactly if their recipients and their payloads are of the same length. -/
theorem signed_fields_iff_lengths (R : SignatureRecord) (hR : R.Sound ed.verify)
    (sha512 : Bytes → Bytes) (hinj : Function.Injective sha512) (e e' : SignedEnvelope) :
    let sameFields := e.recipientId = e'.recipientId ∧ e.payloadHex = e'.payloadHex ∧
      e.timestamp = e'.timestamp ∧ e.messageId = e'.messageId ∧ e.isDummy = e'.isDummy
    let sameLengths := e.recipientId.length = e'.recipientId.length ∧
      e.payloadHex.length = e'.payloadHex.length
    (e.signingPayload sha512 = e'.signingPayload sha512 → (sameFields ↔ sameLengths)) ∧
      (e.verify ed sha512 = .ok () → e'.verify ed sha512 = .ok () → e.senderId = e'.senderId →
        e.signatureHex = e'.signatureHex → (sameFields ↔ sameLengths)) := by
  intro sameFields sameLengths
  have hpayload : e.signingPayload sha512 = e'.signingPayload sha512 →
      (sameFields ↔ sameLengths) := by
    intro heq
    constructor
    · rintro ⟨hr, hp, -⟩
      exact ⟨congrArg List.length hr, congrArg List.length hp⟩
    · rintro ⟨hr, hp⟩
      exact hashed_inj hr hp (hinj heq)
  refine ⟨hpayload, ?_⟩
  intro h h' _ hsame
  obtain ⟨key, sig, hsig, -, hverify⟩ := verify_ok h
  obtain ⟨key', sig', hsig', -, hverify'⟩ := verify_ok h'
  rw [hsame, hsig', Option.some.injEq] at hsig
  obtain rfl : sig' = sig := Subtype.ext hsig
  exact hpayload (hR.eq_of_verify hverify hverify').2

end

section
open Symbolic

def plainEnvelope (recipient payload : Bytes) : SignedEnvelope :=
  { recipientId := recipient
    payloadHex := payload
    senderId := Text.hexEncode (publicKey 4).val
    timestamp := 1000
    messageId := utf8 "m1"
    signatureHex := Text.hexEncode (signature (publicKey 4).val 0)
    compressed := false
    isDummy := false }

def splitEd : Ed25519 := ed [(plainEnvelope (utf8 "ab") (utf8 "cd")).hashed]

theorem signed_fields_of_lengths :
    let envelope := plainEnvelope (utf8 "ab") (utf8 "cd")
    envelope.verify splitEd id = .ok () ∧ envelope.recipientId = utf8 "ab" := by
  intro envelope
  have hverify : envelope.verify splitEd id = .ok () := by decide +kernel
  obtain ⟨-, hfields⟩ := signed_fields_iff_lengths splitEd (signatures _ (by decide))
    (signatures_sound _ (by decide)) id Function.injective_id envelope envelope
  exact ⟨hverify, ((hfields hverify hverify rfl rfl).mpr ⟨rfl, rfl⟩).1⟩

/-- A relay moves a letter from the payload to the recipient, and the signature still verifies. -/
theorem signature_moves_with_split :
    let e := plainEnvelope (utf8 "ab") (utf8 "cd")
    let e' := { e with recipientId := utf8 "abc", payloadHex := utf8 "d" }
    e.signingPayload id = e'.signingPayload id ∧ e.recipientId ≠ e'.recipientId ∧
      e.payloadHex ≠ e'.payloadHex ∧ e.verify splitEd id = .ok () ∧
      e'.verify splitEd id = .ok () := by
  decide +kernel

end

end SignedEnvelope

/-- The entries of a JSON object that `client.py` reads of an envelope; `none` is a missing one. -/
structure EnvelopeDict where
  recipientId : Option Bytes
  payloadHex : Option Bytes
  senderId : Option Bytes
  timestamp : Option Int
  messageId : Option Bytes
  signatureHex : Option Bytes
  compressed : Option Bool
  deriving DecidableEq

namespace EnvelopeDict

def isSpace (c : UInt8) : Bool := c == 32 || (9 ≤ c && c ≤ 13)

/-- `bytes.fromhex`: white space may stand between the bytes; `none` is the `ValueError`. -/
def fromhex : Bytes → Option Bytes
  | [] => some []
  | [c] => if isSpace c then some [] else none
  | c :: d :: rest =>
    if isSpace c then fromhex (d :: rest)
    else do
      let high ← hexValue c
      let low ← hexValue d
      let bytes ← fromhex rest
      return UInt8.ofNat (16 * high + low) :: bytes

/-- `struct.pack("<q", t)`; `none` is the `struct.error`. -/
def packQ (t : Int) : Option Bytes :=
  if -2 ^ 63 ≤ t ∧ t < 2 ^ 63 then some (toLe 8 (t % 2 ^ 64).toNat) else none

/-- What goes into the hasher; the dummy flag of `metadata.rs` is not there. -/
def hashed (recipientId payloadHex : Bytes) (timestamp : Int) (messageId : Bytes) : Option Bytes :=
  (packQ timestamp).map fun packed => recipientId ++ (payloadHex ++ (packed ++ messageId))

/-- `messageId` is what `uuid4` draws and `timestamp` the time. -/
def makeSignedEnvelope (ed : Ed25519) (sha512 : Bytes → Bytes) (identity : Bytes32)
    (recipientId payloadHex : Bytes) (compress : Bool) (messageId : Bytes) (timestamp : Int) :
    Option EnvelopeDict :=
  (hashed recipientId payloadHex timestamp messageId).map fun bytes =>
    { recipientId := some recipientId
      payloadHex := some payloadHex
      senderId := some (Text.hexEncode (ed.verifyingKey identity).val)
      timestamp := some timestamp
      messageId := some messageId
      signatureHex := some (Text.hexEncode (ed.sign identity (sha512 bytes)).val)
      compressed := some compress }

/-- An exception gives `False`, as does a timestamp that is off by more than five minutes. -/
def verifySignedEnvelope (ed : Ed25519) (sha512 : Bytes → Bytes) (now : Int)
    (envelope : EnvelopeDict) : Bool :=
  let verified : Option Unit := do
    let senderId ← envelope.senderId
    let keyBytes ← fromhex senderId
    let signatureHex ← envelope.signatureHex
    let sigBytes ← fromhex signatureHex
    let recipientId ← envelope.recipientId
    let payloadHex ← envelope.payloadHex
    let timestamp ← envelope.timestamp
    let messageId ← envelope.messageId
    let bytes ← hashed recipientId payloadHex timestamp messageId
    let key ← (tryInto 32 keyBytes ()).toOption
    let sig ← (tryInto 64 sigBytes ()).toOption
    guard (ed.verify key (sha512 bytes) sig = true)
    guard ((now - timestamp).natAbs ≤ 300)
  verified.isSome

end EnvelopeDict

def addU64 (a b : Nat) : Option Nat := if a + b < 2 ^ 64 then some (a + b) else none

def checkedI64 (x : Int) : Option Int := if -2 ^ 63 ≤ x ∧ x < 2 ^ 63 then some x else none

/-- Not more than five minutes ahead, and not older than that; `none` is a panic. -/
def checkTimestamp (timestamp now maxAge : Nat) : Option (Except ProtocolError Unit) := do
  if timestamp > (← addU64 now 300) then some (.error .invalidMessage)
  else if now > (← addU64 timestamp maxAge) then some (.error .expired)
  else some (.ok ())

/-- `GroupMessage::validate` with its sums as they are checked at run time. -/
def GroupMessage.validateChecked (m : GroupMessage) (now : Option Nat) :
    Option (Except ProtocolError Unit) :=
  if m.senderSignature.isEmpty then some (.error .authenticationFailed)
  else
    match now with
    | none => some (.error .internalError)
    | some now => do
      let inTime ← checkTimestamp m.timestamp.toNat now 86400
      some (inTime.bind fun _ =>
        ensure (m.ciphertext.length ≤ maxGroupMessageSize + 1024) .invalidMessage)

structure SenderKeyMessage where
  timestamp : UInt64

def SenderKeyMessage.validate (m : SenderKeyMessage) (now : Option Nat) :
    Option (Except ProtocolError Unit) :=
  match now with
  | none => some (.error .internalError)
  | some now => checkTimestamp m.timestamp.toNat now 3600

def SignedEnvelope.isExpired (e : SignedEnvelope) (now : Int64) : Option Bool := do
  let age ← checkedI64 |← checkedI64 (now.toInt - e.timestamp.toInt)|
  some (age > 300)

variable {now : Nat}

lemma checkTimestamp_eq (hn : now < 2 ^ 63) (ti : Nat) {ma : Nat}
    (hag : ma ≤ 86400) :
    checkTimestamp ti now ma = some (do
      ensure (ti ≤ now + 300) .invalidMessage
      ensure (now ≤ ti + ma) .expired) := by
  rw [checkTimestamp, addU64, if_pos (by omega)]
  by_cases hea : ti ≤ now + 300
  · rw [addU64, if_pos (by omega)]
    by_cases hl : now ≤ ti + ma
    · simp [ensure, hea, hl, Nat.not_lt.mpr, bind, Except.bind]
    · simp [ensure, hea, Nat.not_lt.mpr, Nat.lt_of_not_le hl, bind, Except.bind]
  · simp [ensure, hea, bind, Except.bind]

lemma GroupMessage.validateChecked_eq (m : GroupMessage) {now : Option Nat}
    (hn : ∀ t ∈ now, t < 2 ^ 63) : m.validateChecked now = some (m.validate now) := by
  unfold validateChecked validate
  cases m.senderSignature.isEmpty with
  | true => rfl
  | false =>
    cases now with
    | none => rfl
    | some t =>
      simp only [checkTimestamp_eq (hn t rfl) _ (Nat.le_refl 86400)]
      rw [show ensure (!false) ProtocolError.authenticationFailed = .ok () from rfl, ok_bind,
        show okOr (some t) ProtocolError.internalError = .ok t from rfl, ok_bind]
      cases ensure _ ProtocolError.invalidMessage <;> rfl

lemma SenderKeyMessage.validate_eq (m : SenderKeyMessage) {now : Option Nat}
    (hn : ∀ t ∈ now, t < 2 ^ 63) : m.validate now = some (do
      let now ← okOr now .internalError
      ensure (m.timestamp.toNat ≤ now + 300) .invalidMessage
      ensure (now ≤ m.timestamp.toNat + 3600) .expired) := by
  cases now with
  | none => rfl
  | some t => exact checkTimestamp_eq (hn t rfl) _ (by decide)

lemma SignedEnvelope.isExpired_eq (e : SignedEnvelope) (now : Int64) :
    e.isExpired now = if |now.toInt - e.timestamp.toInt| < 2 ^ 63
      then some (decide (|now.toInt - e.timestamp.toInt| > 300)) else none := by
  unfold isExpired
  generalize now.toInt - e.timestamp.toInt = age
  by_cases h : |age| < 2 ^ 63
  · have hra := abs_lt.mp h
    have hpo := abs_nonneg age
    rw [checkedI64, if_pos (by omega), Option.bind_eq_bind, Option.bind_some, checkedI64,
      if_pos (by omega), if_pos h]
    rfl
  · have hn : checkedI64 |age| = none := if_neg fun hra => h hra.2
    rw [if_neg h, checkedI64]
    split
    · simp [hn]
    · rfl

/-- No sum of the group messages overflows at any reading of the clock, and the difference of an
envelope does only if the two times are as far apart as an `i64` can be. What is taken for valid is
within its window. -/
theorem timestamp_checks_total_iff (now : Option Nat) :
    (∀ m : GroupMessage, (∀ t ∈ now, t < 2 ^ 63) →
      ∃ r, m.validateChecked now = some r ∧ (r = .ok () → ∃ t ∈ now,
        m.timestamp.toNat ≤ t + 300 ∧ t ≤ m.timestamp.toNat + 86400)) ∧
    (∀ m : SenderKeyMessage, (∀ t ∈ now, t < 2 ^ 63) →
      ∃ r, m.validate now = some r ∧ (r = .ok () → ∃ t ∈ now,
        m.timestamp.toNat ≤ t + 300 ∧ t ≤ m.timestamp.toNat + 3600)) ∧
    ∀ (e : SignedEnvelope) (now : Int64),
      (e.isExpired now ≠ none ↔ |now.toInt - e.timestamp.toInt| < 2 ^ 63) ∧
      (e.isExpired now = some false → |now.toInt - e.timestamp.toInt| ≤ 300) := by
  refine ⟨?_, ?_, ?_⟩
  · intro m hnow
    refine ⟨_, m.validateChecked_eq hnow, fun hok => ?_⟩
    obtain ⟨-, t, ht, hearly, hlate, -⟩ := GroupSession.validate_ok.mp hok
    exact ⟨t, ht, hearly, hlate⟩
  · intro m hnow
    refine ⟨_, m.validate_eq hnow, fun hok => ?_⟩
    simp only [bind_ok, ensure_ok, okOr_ok, decide_eq_true_eq] at hok
    obtain ⟨t, ht, -, hearly, hlate⟩ := hok
    exact ⟨t, ht, hearly, hlate⟩
  · intro e now
    rw [e.isExpired_eq now]
    constructor
    · simp
    · split <;> simp

theorem recent_sender_key_valid : (SenderKeyMessage.mk 1000).validate (some 1200) = some (.ok ()) ∧
    ∃ t ∈ some 1200, (1000 : UInt64).toNat ≤ t + 300 ∧ t ≤ (1000 : UInt64).toNat + 3600 := by
  refine (and_iff_left_of_imp fun hvalid => ?_).mpr (by decide +kernel)
  obtain ⟨r, hr, hwindow⟩ := (timestamp_checks_total_iff (some 1200)).2.1 ⟨1000⟩ (by simp)
  exact hwindow (Option.some.inj (hr.symm.trans hvalid))

theorem earliest_envelope_overflows :
    SignedEnvelope.isExpired ⟨[], [], [], Int64.minValue, [], [], false, false⟩ 1000 = none := by
  decide +kernel

end Sibna
