import Sibna.Server.Verifiable

/-!
# What a signature is over

The encodings of an envelope and of a signal are apart without a tag.
-/

namespace Sibna.Server.Relay

open LittleEndian Framing

def lengthField : LengthField UInt8 where
  width := 8
  bound := 256 ^ 8
  encode := toBeBytes
  decode bytes := fromLe bytes.reverse
  length_encode n := by simp [toBeBytes]
  decode_encode n hn := by rw [toBeBytes, List.reverse_reverse, fromLe_toLe hn]
  encode_decode bytes hbytes := by
    have hle := toLe_fromLe bytes.reverse
    rw [List.length_reverse, hbytes] at hle
    rw [toBeBytes, hle, List.reverse_reverse]
  decode_lt bytes hbytes := by
    have hlt := fromLe_lt bytes.reverse
    rwa [List.length_reverse, hbytes] at hlt

/-- A `String` holds at most `isize::MAX` bytes. -/
def AreStrings (fields : List Bytes) : Prop := ∀ field ∈ fields, field.length < 2 ^ 63

lemma AreStrings.fit {f : List Bytes} (h : AreStrings f) : lengthField.Fit f := by
  intro fi hf
  exact Nat.lt_trans (h fi hf) (by decide)

lemma canonical_inj {f f' : List Bytes} (h : AreStrings f)
    (h' : AreStrings f') (heq : canonical f = canonical f') : f = f' :=
  LengthField.frames_inj (L := lengthField) (by decide) h.fit h'.fit heq

def SealedEnvelope.fields (envelope : SealedEnvelope) : List Bytes :=
  [envelope.recipientId, envelope.messageId, envelope.payloadHex]

def WebRtcSignal.fields (signal : WebRtcSignal) : List Bytes :=
  [signal.recipientId, signal.payloadHex]

lemma SealedEnvelope.WellFormed.areStrings {envelope : SealedEnvelope}
    (h : envelope.WellFormed) : AreStrings envelope.fields := by
  obtain ⟨⟨-, hid⟩, ⟨hre, -⟩, hp⟩ := h
  unfold maxPayloadHexLen at hp
  intro f hf
  simp only [SealedEnvelope.fields, List.mem_cons, List.not_mem_nil, or_false] at hf
  rcases hf with rfl | rfl | rfl
  · omega
  · omega
  · omega

/-- One signature, however it is spelt and whoever it is said to be from, passes for one list of
fields only. -/
lemma fields_of_verifySender {ed : Ed25519} {R : SignatureRecord} (hR : R.Sound ed.verify)
    {senderId si' signatureHex s' : Bytes} {f f' : List Bytes}
    (hsi : Text.hexDecode signatureHex = Text.hexDecode s') (h : AreStrings f)
    (h' : AreStrings f')
    (hok : verifySender ed senderId (canonical f) signatureHex = .ok ())
    (ho' : verifySender ed si' (canonical f') s' = .ok ()) :
    f = f' := by
  obtain ⟨key, sig, -, -, hde, hv⟩ := verifySender_ok_iff.mp hok
  obtain ⟨key', sig', -, -, hd', hv'⟩ := verifySender_ok_iff.mp ho'
  rw [hsi, hd', Option.some.injEq] at hde
  obtain rfl := Subtype.ext hde
  exact canonical_inj h h' (hR.eq_of_verify hv hv').2

/-- The encodings of envelopes and those of signals are injective, and none is both. So a signature
that passes for a message passes for none of the other kind, and for none with other fields. -/
theorem encodings_jointly_injective (ed : Ed25519) (R : SignatureRecord) (hR : R.Sound ed.verify) :
    (∀ e e' : SealedEnvelope, AreStrings e.fields → AreStrings e'.fields →
      e.canonical = e'.canonical → e.recipientId = e'.recipientId ∧ e.messageId = e'.messageId ∧
        e.payloadHex = e'.payloadHex) ∧
    (∀ x x' : WebRtcSignal, AreStrings x.fields → AreStrings x'.fields →
      x.canonical = x'.canonical → x.recipientId = x'.recipientId ∧ x.payloadHex = x'.payloadHex) ∧
    (∀ (e : SealedEnvelope) (x : WebRtcSignal), e.WellFormed → x.recipientId.length = 64 →
      AreStrings x.fields → e.canonical ≠ x.canonical) ∧
    ∀ senderId senderId' signatureHex signatureHex',
      Text.hexDecode signatureHex = Text.hexDecode signatureHex' →
      (∀ e e' : SealedEnvelope, AreStrings e.fields → AreStrings e'.fields →
        verifySender ed senderId e.canonical signatureHex = .ok () →
        verifySender ed senderId' e'.canonical signatureHex' = .ok () → e.fields = e'.fields) ∧
      (∀ x x' : WebRtcSignal, AreStrings x.fields → AreStrings x'.fields →
        verifySender ed senderId x.canonical signatureHex = .ok () →
        verifySender ed senderId' x'.canonical signatureHex' = .ok () → x.fields = x'.fields) ∧
      (∀ (e : SealedEnvelope) (x : WebRtcSignal), e.WellFormed → x.recipientId.length = 64 →
        AreStrings x.fields → verifySender ed senderId e.canonical signatureHex = .ok () →
        verifySender ed senderId' x.canonical signatureHex' ≠ .ok ()) := by
  -- three fields are not two
  have hkinds : ∀ (e : SealedEnvelope) (x : WebRtcSignal), e.fields ≠ x.fields :=
    fun e x h => absurd (congrArg List.length h)
      (by simp [SealedEnvelope.fields, WebRtcSignal.fields])
  refine ⟨?_, ?_, ?_, ?_⟩
  · intro e e' h h' heq
    have hfields := canonical_inj h h' heq
    simpa [SealedEnvelope.fields] using hfields
  · intro x x' h h' heq
    have hfields := canonical_inj h h' heq
    simpa [WebRtcSignal.fields] using hfields
  · intro e x h _ h' heq
    exact hkinds e x (canonical_inj h.areStrings h' heq)
  intro senderId senderId' signatureHex signatureHex' hsig
  refine ⟨?_, ?_, ?_⟩
  · exact fun e e' h h' hok hok' => fields_of_verifySender hR hsig h h' hok hok'
  · exact fun x x' h h' hok hok' => fields_of_verifySender hR hsig h h' hok hok'
  · intro e x h _ h' hok hok'
    exact hkinds e x (fields_of_verifySender hR hsig h.areStrings h' hok hok')

section
open Sibna.Symbolic Text

def crossedSignal : WebRtcSignal := { signedEnvelope with timestamp := 0 }

theorem envelope_signature_not_for_signal :
    verifySender relayEd (identityOf 3) signedEnvelope.canonical signedEnvelope.signatureHex =
        .ok () ∧
      verifySender relayEd (identityOf 3) crossedSignal.canonical crossedSignal.signatureHex ≠
        .ok () := by
  have hok : verifySender relayEd (identityOf 3) signedEnvelope.canonical
      signedEnvelope.signatureHex = .ok () := by decide +kernel
  obtain ⟨-, -, -, hsignatures⟩ := encodings_jointly_injective relayEd (signatures _ (by decide))
    (signatures_sound _ (by decide))
  obtain ⟨-, -, hcrossed⟩ := hsignatures (identityOf 3) (identityOf 3) signedEnvelope.signatureHex
    crossedSignal.signatureHex rfl
  have hstrings : AreStrings crossedSignal.fields := by
    unfold AreStrings
    decide +kernel
  exact ⟨hok, hcrossed signedEnvelope crossedSignal (by decide +kernel) (by decide +kernel)
    hstrings hok⟩

end

end Sibna.Server.Relay
