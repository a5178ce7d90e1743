import Sibna.Envelope
import Sibna.Server.Addressing

/-!
# Envelope signatures between the clients and the relay

The relay checks a signature over its own encoding, the clients sign and verify a digest of other
fields.
-/

namespace Sibna

open LittleEndian Text

def SignedEnvelope.sealed (e : SignedEnvelope) : Server.Relay.SealedEnvelope :=
  { e with timestamp := e.timestamp.toInt }

def EnvelopeDict.sealed (d : EnvelopeDict) : Option Server.Relay.SealedEnvelope := do
  let recipientId ← d.recipientId
  let payloadHex ← d.payloadHex
  let compressed ← d.compressed
  let messageId ← d.messageId
  let timestamp ← d.timestamp
  let signatureHex ← d.signatureHex
  return { recipientId, payloadHex, compressed, messageId, timestamp, signatureHex }

namespace Server.Relay

open Interleaving

section
variable {ed : Ed25519} {senderId message signatureHex : Bytes}

lemma verifySender_ok_iff : verifySender ed senderId message signatureHex = .ok () ↔ ∃ key sig,
    Text.hexDecode senderId = some key.val ∧ ed.verifyingKeyOk key = true ∧
    Text.hexDecode signatureHex = some sig.val ∧ ed.verify key message sig = true := by
  constructor
  · intro h
    obtain ⟨kb, hb, h₁⟩ := bind_ok.mp h
    obtain ⟨key, hk, h₂⟩ := bind_ok.mp h₁
    obtain ⟨_, ho, h₃⟩ := bind_ok.mp h₂
    obtain ⟨sb, hs, h₄⟩ := bind_ok.mp h₃
    obtain ⟨sig, hsi, hv⟩ := bind_ok.mp h₄
    rw [tryInto_ok.mp hk] at hb
    rw [tryInto_ok.mp hsi] at hs
    exact ⟨key, sig, okOr_ok.mp hb, ensure_ok.mp ho, okOr_ok.mp hs, ensure_ok.mp hv⟩
  · rintro ⟨key, sig, hk, ho, hsi, hv⟩
    refine bind_ok.mpr ⟨key.val, okOr_ok.mpr hk, ?_⟩
    refine bind_ok.mpr ⟨key, tryInto_ok.mpr rfl, ?_⟩
    refine bind_ok.mpr ⟨(), ensure_ok.mpr ho, ?_⟩
    refine bind_ok.mpr ⟨sig.val, okOr_ok.mpr hsi, ?_⟩
    exact bind_ok.mpr ⟨sig, tryInto_ok.mpr rfl, ensure_ok.mpr hv⟩

lemma verifySender_signed_iff {R : SignatureRecord} (hR : R.Sound ed.verify) {key : Bytes32}
    {si : Bytes} {sig : FixedBytes 64} (hk : ed.verifyingKeyOk key = true)
    (hsi : ed.verify key si sig = true) :
    verifySender ed (Text.hexEncode key.val) message (Text.hexEncode sig.val) = .ok () ↔
    si = message := by
  constructor
  · intro hok
    obtain ⟨key', sig', -, -, hs', hv⟩ := verifySender_ok_iff.mp hok
    rw [hexDecode_hexEncode, Option.some.injEq] at hs'
    obtain rfl := Subtype.ext hs'
    exact (hR.eq_of_verify hsi hv).2
  · rintro rfl
    exact verifySender_ok_iff.mpr ⟨key, sig, hexDecode_hexEncode _, hk, hexDecode_hexEncode _, hsi⟩

end

/-- Over the connection of the signer an envelope passes exactly if what was signed is the encoding
of the relay. So none passes that is signed as in `metadata.rs` or in `client.py`. -/
theorem client_signature_passes_iff (ed : Ed25519) (R : SignatureRecord) (hR : R.Sound ed.verify)
    (sha512 : Bytes → Bytes)
    (hapart : ∀ bytes (envelope : SealedEnvelope), envelope.WellFormed →
      sha512 bytes ≠ envelope.canonical)
    (secret : Bytes32) (hkey : ed.verifyingKeyOk (ed.verifyingKey secret) = true) :
    let Signs := fun message =>
      ed.verify (ed.verifyingKey secret) message (ed.sign secret message) = true
    let Passes := fun envelope : SealedEnvelope =>
      verifySender ed (Text.hexEncode (ed.verifyingKey secret).val) envelope.canonical
        envelope.signatureHex = .ok ()
    (∀ (envelope : SealedEnvelope) signed, envelope.WellFormed → Signs signed →
      envelope.signatureHex = Text.hexEncode (ed.sign secret signed).val →
      (Passes envelope ↔ signed = envelope.canonical)) ∧
    (∀ e : SignedEnvelope, e.sealed.WellFormed → Signs (e.signingPayload sha512) →
      ¬ Passes (e.signedBy ed sha512 secret).sealed) ∧
    (∀ recipientId payloadHex compress messageId timestamp bytes dict envelope,
      EnvelopeDict.hashed recipientId payloadHex timestamp messageId = some bytes →
      EnvelopeDict.makeSignedEnvelope ed sha512 secret recipientId payloadHex compress messageId
        timestamp = some dict →
      dict.sealed = some envelope → envelope.WellFormed → Signs (sha512 bytes) →
      ¬ Passes envelope) := by
  intro Signs Passes
  have hpasses : ∀ (envelope : SealedEnvelope) signed, envelope.WellFormed → Signs signed →
      envelope.signatureHex = Text.hexEncode (ed.sign secret signed).val →
      (Passes envelope ↔ signed = envelope.canonical) := by
    intro envelope signed _ hsigns hsig
    simp only [Passes, hsig]
    exact verifySender_signed_iff hR hkey hsigns
  refine ⟨hpasses, ?_, ?_⟩
  · intro e hwf hsigns hok
    have hsigned := hpasses (e.signedBy ed sha512 secret).sealed _ hwf hsigns rfl
    exact hapart _ e.sealed hwf (hsigned.mp hok)
  intro recipientId payloadHex compress messageId timestamp bytes dict envelope hbytes hdict
    henvelope hwf hsigns hok
  rw [EnvelopeDict.makeSignedEnvelope, hbytes, Option.map_some, Option.some.injEq] at hdict
  subst hdict
  cases henvelope
  exact hapart _ _ hwf ((hpasses _ _ hwf hsigns rfl).mp hok)

section
open Sibna.Symbolic

def clientEnvelope : SignedEnvelope where
  recipientId := identityOf 5
  payloadHex := utf8 "00"
  senderId := identityOf 3
  timestamp := 1000
  messageId := utf8 "m1"
  signatureHex := []
  compressed := false
  isDummy := false

def markedDigest (bytes : Bytes) : Bytes := 255 :: bytes

lemma markedDigest_apart (bt : Bytes) (envelope : SealedEnvelope) (h : envelope.WellFormed) :
    markedDigest bt ≠ envelope.canonical := by
  intro heq
  have hhe := congrArg List.head? heq
  simp [markedDigest, SealedEnvelope.canonical, canonical, h.2.1.1, toBeBytes, toLe] at hhe

def clientEd : Ed25519 :=
  ed [markedDigest clientEnvelope.hashed, markedDigest clientEnvelope.hashed.dropLast,
    clientEnvelope.sealed.canonical]

def coreEnvelope : SignedEnvelope := clientEnvelope.signedBy clientEd markedDigest (publicKey 3)

def pythonEnvelope : EnvelopeDict where
  recipientId := some (identityOf 5)
  payloadHex := some (utf8 "00")
  senderId := some (identityOf 3)
  timestamp := some 1000
  messageId := some (utf8 "m1")
  signatureHex := some (Text.hexEncode (signature (publicKey 3).val 1))
  compressed := some false

def sealedWith (place : Nat) : SealedEnvelope :=
  { clientEnvelope.sealed with signatureHex := Text.hexEncode (signature (publicKey 3).val place) }

theorem canonical_signature_passes :
    verifySender clientEd (Text.hexEncode (clientEd.verifyingKey (publicKey 3)).val)
        (sealedWith 2).canonical (sealedWith 2).signatureHex = .ok () ∧
      verifySender clientEd (Text.hexEncode (clientEd.verifyingKey (publicKey 3)).val)
        coreEnvelope.sealed.canonical coreEnvelope.sealed.signatureHex ≠ .ok () := by
  obtain ⟨hpasses, hcore, -⟩ := client_signature_passes_iff clientEd (signatures _ (by decide))
    (signatures_sound _ (by decide)) markedDigest markedDigest_apart (publicKey 3)
      (by decide +kernel)
  refine ⟨?_, hcore clientEnvelope (by decide +kernel) (by decide +kernel)⟩
  exact (hpasses (sealedWith 2) (sealedWith 2).canonical (by decide +kernel) (by decide +kernel)
    (by decide +kernel)).mpr rfl

/-- Both envelopes verify where the clients verify them. -/
theorem client_signatures_refused :
    coreEnvelope.verify clientEd markedDigest = .ok () ∧ coreEnvelope.sealed.WellFormed ∧
      verifySender clientEd (identityOf 3) coreEnvelope.sealed.canonical
        coreEnvelope.sealed.signatureHex = .error .signature ∧
      EnvelopeDict.makeSignedEnvelope clientEd markedDigest (publicKey 3) (identityOf 5) (utf8 "00")
        false (utf8 "m1") 1000 = some pythonEnvelope ∧
      EnvelopeDict.verifySignedEnvelope clientEd markedDigest 1000 pythonEnvelope = true ∧
      pythonEnvelope.sealed = some (sealedWith 1) ∧
      verifySender clientEd (identityOf 3) (sealedWith 1).canonical (sealedWith 1).signatureHex =
        .error .signature := by
  decide +kernel

end

lemma packQ_inj {t t' : Int} {p : Bytes} (h : EnvelopeDict.packQ t = some p)
    (h' : EnvelopeDict.packQ t' = some p) : t = t' := by
  unfold EnvelopeDict.packQ at h h'
  split at h
  · split at h'
    · have heq := congrArg fromLe (Option.some.inj (h.trans h'.symm))
      rw [fromLe_toLe (by omega), fromLe_toLe (by omega)] at heq
      omega
    · cases h'
  · cases h

lemma hashed_timestamp {r p mi bt : Bytes} {t t' : Int} (h : EnvelopeDict.hashed r p t mi = some bt)
    (h' : EnvelopeDict.hashed r p t' mi = some bt) : t = t' := by
  obtain ⟨pa, hpa, rfl⟩ := Option.map_eq_some_iff.mp h
  obtain ⟨p', hp', heq⟩ := Option.map_eq_some_iff.mp h'
  obtain rfl := List.append_cancel_right (List.append_cancel_left (List.append_cancel_left heq))
  exact packQ_inj hpa hp'

/-- The JSON object of an envelope, with a sender id put in. The relay writes none. -/
def SealedEnvelope.object (envelope : SealedEnvelope) (senderId : Option Bytes) : EnvelopeDict where
  recipientId := some envelope.recipientId
  payloadHex := some envelope.payloadHex
  senderId := senderId
  timestamp := some envelope.timestamp
  messageId := some envelope.messageId
  signatureHex := some envelope.signatureHex
  compressed := some envelope.compressed

section
variable {ed : Ed25519} {sha512 : Bytes → Bytes} {now : Int} {envelope : SealedEnvelope}

lemma not_verified_of_no_sender (ed : Ed25519) (sha512 : Bytes → Bytes) (now : Int)
    (envelope : SealedEnvelope) :
    EnvelopeDict.verifySignedEnvelope ed sha512 now (envelope.object none) = false :=
  rfl

lemma verified_iff {senderId : Bytes} :
    EnvelopeDict.verifySignedEnvelope ed sha512 now (envelope.object (some senderId)) = true ↔
      ∃ (key : Bytes32) (sig : FixedBytes 64) (bytes : Bytes),
        EnvelopeDict.fromhex senderId = some key.val ∧
        EnvelopeDict.fromhex envelope.signatureHex = some sig.val ∧
        EnvelopeDict.hashed envelope.recipientId envelope.payloadHex envelope.timestamp
          envelope.messageId = some bytes ∧
        ed.verify key (sha512 bytes) sig = true ∧ (now - envelope.timestamp).natAbs ≤ 300 := by
  simp only [EnvelopeDict.verifySignedEnvelope, SealedEnvelope.object, Option.bind_eq_bind,
    Option.isSome_iff_exists, Option.bind_eq_some_iff, toOption_eq_some, tryInto_ok,
    Option.guard_eq_some']
  constructor
  · simp_all
  · simp_all

lemma verified_restamped_iff {R : SignatureRecord} (hR : R.Sound ed.verify)
    (hin : Function.Injective sha512) {senderId : Bytes} {sa st : Int}
    (hva : EnvelopeDict.verifySignedEnvelope ed sha512 sa
      (envelope.object (some senderId)) = true) :
    EnvelopeDict.verifySignedEnvelope ed sha512 now
        (SealedEnvelope.object { envelope with timestamp := st } (some senderId)) = true ↔
      st = envelope.timestamp ∧ (now - st).natAbs ≤ 300 := by
  obtain ⟨key, sig, bt, hk, hsi, hb, hv, -⟩ := verified_iff.mp hva
  constructor
  · intro h
    obtain ⟨key', sig', b', -, hs', hb', hv', hf⟩ := verified_iff.mp h
    obtain rfl := Subtype.ext (Option.some.inj (hsi.symm.trans hs'))
    obtain rfl := hin (hR.eq_of_verify hv hv').2
    exact ⟨hashed_timestamp hb' hb, hf⟩
  · rintro ⟨rfl, hf⟩
    exact verified_iff.mpr ⟨key, sig, bt, hk, hsi, hb, hv, hf⟩

end

section
variable {ed : Ed25519}

def MadeIn (log : List (Entry (relay ed))) (envelope : SealedEnvelope) : Prop :=
  ∃ entry ∈ log, entry.call.Makes ed envelope

lemma MadeIn.cons {log : List (Entry (relay ed))} {envelope : SealedEnvelope}
    (h : MadeIn log envelope) (en : Entry (relay ed)) : MadeIn (en :: log) envelope := by
  obtain ⟨x, hx, hm⟩ := h
  exact ⟨x, .tail _ hx, hm⟩

structure Forwarding (s : State (relay ed)) : Prop where
  queued : ∀ key item, s.shared.tableQueue.lookup key = some item →
    ∀ envelope ∈ item.envelope, MadeIn s.log envelope
  scanned : ∀ entry ∈ s.log, ∀ pfx entries, entry.done = ⟨.queue (.scanPrefix pfx), entries⟩ →
    ∀ key item, (key, item) ∈ entries → ∀ envelope ∈ item.envelope, MadeIn s.log envelope
  sent : ∀ channel frame, (channel, frame) ∈ s.shared.sent →
    ∀ envelope ∈ frame.envelope, MadeIn s.log envelope

lemma sent_act {e : OpEnv} {op : Op} {s : Shared} {ch : Nat} {f : Frame}
    (h : (ch, f) ∈ (act e op s).2.sent) : (ch, f) ∈ s.sent ∨ op = .send ch f ∨
    ∃ recipientId, op = .push recipientId f := by
  have hse : ∀ c' f', (ch, f) ∈ (s.send e c' f').sent →
      (ch, f) ∈ s.sent ∨ (ch, f) = (c', f') := by
    intro c' f' h
    unfold Shared.send at h
    split at h
    · simpa using h
    · exact .inl h
  cases op with
  | push recipientId f' =>
    simp only [act] at h
    split at h
    · rename_i c' _
      refine (hse c' f' h).imp_right fun heq => .inr ⟨recipientId, ?_⟩
      cases heq
      rfl
    · exact .inl h
  | send c' f' =>
    refine (hse c' f' h).imp_right fun heq => .inl ?_
    cases heq
    rfl
  | _ => exact .inl h

lemma Forwarding.perform {s : State (relay ed)} {i : Nat} {c : Call} {e : OpEnv} {op : Op}
    (h : Forwarding s) (hop : Performs ed c (s.past i) op) : Forwarding (s.perform i c e op) := by
  have hn : ∀ envelope, c.Makes ed envelope → MadeIn (s.perform i c e op).log envelope :=
    fun envelope hm => ⟨_, .head _, hm⟩
  refine ⟨?_, ?_, ?_⟩
  · intro key item hl envelope hen
    rcases lookup_queue_act e op s.shared key with hsa | ⟨item', rfl, -, hin⟩ | ⟨-, -, hno⟩
    · exact (h.queued key item (hsa ▸ hl) envelope hen).cons _
    · cases hin.symm.trans hl
      exact hn envelope (hop.2 envelope hen)
    · cases hno.symm.trans hl
  · intro et het pfx en hdo key item hit envelope hen
    rcases List.mem_cons.mp het with rfl | het
    · cases hdo
      exact (h.queued key item (Table.mem_scanPrefix hit).1 envelope hen).cons _
    · exact (h.scanned et het pfx en hdo key item hit envelope hen).cons _
  · intro ch f hse envelope hen
    rcases sent_act hse with hse | rfl | ⟨r, rfl⟩
    · exact (h.sent ch f hse envelope hen).cons _
    · obtain ⟨pfx, en, key, item, hsc, hit, hco⟩ := hop envelope hen
      obtain ⟨et, het, -, hdo⟩ := State.mem_past.mp hsc
      exact (h.scanned et het pfx en hdo key item hit envelope hco).cons _
    · exact hn envelope (hop.2 envelope hen)

lemma forwarding_relayed {s : Shared} (hq : s.tableQueue = ∅) (hse : s.sent = [])
    (es : Schedule (relay ed)) : Forwarding (relayed ed s es).state := by
  have hin : Forwarding (⟨s, []⟩ : State (relay ed)) := by
    refine ⟨?_, ?_, ?_⟩
    · simp_all
    · exact fun en hen => absurd hen List.not_mem_nil
    · simp_all
  exact performed_invariant ed hin (fun h _ hop => h.perform hop) es

end

/-- A signed envelope that is sent to a recipient, live or from the queue, is one that was routed,
with another timestamp and nothing else changed. Without the id of the sender it is never verified.
With it, and if it was valid where it was signed, it is verified exactly if the relay's stamp is the
timestamp that was signed, and within five minutes of the recipient's clock. -/
theorem forwarded_verified_iff (ed : Ed25519) (R : SignatureRecord) (hR : R.Sound ed.verify)
    (sha512 : Bytes → Bytes) (hinj : Function.Injective sha512) (s : Shared)
    (hqueue : s.tableQueue = ∅) (hsent : s.sent = []) (es : Schedule (relay ed))
    (channel : Nat) (frame : Frame) (envelope : SealedEnvelope)
    (hmem : (channel, frame) ∈ (relayed ed s es).state.shared.sent)
    (hframe : frame.envelope = some envelope) (hsigned : envelope.signatureHex ≠ []) :
    ∃ entry ∈ (relayed ed s es).state.log, ∃ claims submitted,
      entry.call = .frame claims (.envelope submitted) ∧
      verifySender ed claims.sub submitted.canonical submitted.signatureHex = .ok () ∧
      envelope = { submitted with timestamp := envelope.timestamp } ∧
      ∀ now, EnvelopeDict.verifySignedEnvelope ed sha512 now (envelope.object none) = false ∧
        ∀ senderId sentAt, EnvelopeDict.verifySignedEnvelope ed sha512 sentAt
            (submitted.object (some senderId)) = true →
          (EnvelopeDict.verifySignedEnvelope ed sha512 now
            (envelope.object (some senderId)) = true ↔
            envelope.timestamp = submitted.timestamp ∧
              (now - envelope.timestamp).natAbs ≤ 300) := by
  obtain ⟨entry, hentry, hmakes⟩ :=
    (forwarding_relayed hqueue hsent es).sent channel frame hmem envelope hframe
  rcases hmakes with ⟨claims, submitted, hcall, hverify, stamp, rfl⟩ | ⟨-, hunsigned⟩
  · refine ⟨entry, hentry, claims, submitted, hcall, hverify, rfl, fun now => ⟨?_, ?_⟩⟩
    · exact not_verified_of_no_sender ed sha512 now _
    · exact fun senderId sentAt hvalid => verified_restamped_iff hR hinj hvalid
  · exact absurd hunsigned hsigned

section
open Sibna.Symbolic

def routedLive (seconds : Nat) : Schedule (relay relayEd) :=
  [.start (.connect (claimsOf 5)), .start routeSigned] ++ relayTurns 4 0 seconds ++
    relayTurns 7 1 seconds

def clientBytes : Bytes :=
  (EnvelopeDict.hashed signedEnvelope.recipientId signedEnvelope.payloadHex signedEnvelope.timestamp
    signedEnvelope.messageId).getD []

def crossedDigest : Bytes → Bytes := Equiv.swap clientBytes signedEnvelope.canonical

def forwardedAt (seconds : Nat) : SealedEnvelope := { signedEnvelope with timestamp := seconds }

def submittedBy : Call → Option SealedEnvelope
  | .frame _ (.envelope envelope) => some envelope
  | _ => none

theorem forwarded_in_same_second :
    (relayed relayEd relayStart (routedLive 0)).state.shared.sent =
        [(0, .tagged (.envelope (forwardedAt 0)))] ∧
      EnvelopeDict.verifySignedEnvelope relayEd crossedDigest 100
        ((forwardedAt 0).object (some (identityOf 3))) = true := by
  obtain ⟨hsent, hsubmitted, hvalid⟩ :
      (relayed relayEd relayStart (routedLive 0)).state.shared.sent =
          [(0, .tagged (.envelope (forwardedAt 0)))] ∧
        (∀ entry ∈ (relayed relayEd relayStart (routedLive 0)).state.log,
          ∀ submitted ∈ submittedBy entry.call, submitted = signedEnvelope) ∧
        EnvelopeDict.verifySignedEnvelope relayEd crossedDigest 0
          (signedEnvelope.object (some (identityOf 3))) = true := by
    decide +kernel
  obtain ⟨entry, hentry, claims, submitted, hcall, -, -, hverified⟩ :=
    forwarded_verified_iff relayEd (signatures _ (by decide)) (signatures_sound _ (by decide))
      crossedDigest (Equiv.injective _) relayStart rfl rfl (routedLive 0) 0 _ (forwardedAt 0)
      (hsent ▸ List.mem_singleton_self _) rfl (by decide +kernel)
  obtain rfl : submitted = signedEnvelope := hsubmitted entry hentry submitted (by rw [hcall]; rfl)
  exact ⟨hsent, ((hverified 100).2 (identityOf 3) 0 hvalid).mpr ⟨rfl, by decide⟩⟩

theorem forwarded_envelope_refused :
    EnvelopeDict.verifySignedEnvelope relayEd crossedDigest 0
        (signedEnvelope.object (some (identityOf 3))) = true ∧
      (relayed relayEd relayStart (routedLive 10)).state.shared.sent =
        [(0, .tagged (.envelope (forwardedAt 10)))] ∧
      EnvelopeDict.verifySignedEnvelope relayEd crossedDigest 10 ((forwardedAt 10).object none) =
        false ∧
      EnvelopeDict.verifySignedEnvelope relayEd crossedDigest 10
        ((forwardedAt 10).object (some (identityOf 3))) = false := by
  decide +kernel

end

end Server.Relay

end Sibna
