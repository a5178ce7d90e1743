import Sibna.Handshake.Builder
import Sibna.P2p.Authentication
import Sibna.P2p.Initiator

/-!
# An honest run of the peer-to-peer handshake

Each frame arrives as it was sent. The sessions are the two ends of one ratchet.
-/

namespace Sibna

variable {S : Suite}

/-- The initial states of the two ends: one root key, one chain to send and to receive on, and on
each side the public key of the other's scalar. -/
structure MatchedSessions (s t : DoubleRatchetState S) : Prop where
  rootKey : s.rootKey = t.rootKey
  chain : ∃ c d, s.sendingChain = some c ∧ t.receivingChain = some d ∧ c.key = d.key ∧
    c.index = 0 ∧ d.index = 0
  receiving : s.receivingChain = none
  sending : t.sendingChain = none
  keys : ∃ a b, s.dhLocal = some a ∧ t.dhLocal = some b ∧ s.dhRemote = some (S.publicKey b) ∧
    t.dhRemote = some (S.publicKey a)

lemma matchedSessions_initial (se : Bytes32) (a b : S.Scalar) (co c' : Config)
    (cl cl' : Clock) (now now' : Nat) :
    MatchedSessions (DoubleRatchetSession.initialState se a (S.publicKey b) co .initiator cl now)
    (DoubleRatchetSession.initialState se b (S.publicKey a) c' .responder cl' now') where
  rootKey := rfl
  chain := ⟨_, _, rfl, rfl, rfl, rfl, rfl⟩
  receiving := rfl
  sending := rfl
  keys := ⟨a, b, rfl, rfl, rfl, rfl⟩

namespace P2pSuite

section
variable (P : P2pSuite S)

section
variable (call : ResponderCall S) (first : Arrival)

def answerHello : Except P2pError Bytes := do
  let msg ← P.receiveMsg first
  let (aliceEphemeralPub, _) ← P.expectHello msg
  let handler ← P.deriveHandshakeKey call.env.ephemeral aliceEphemeralPub
  P.sendBundle call handler

def answerBundle (call : InitiatorCall S) (first : Arrival) : Except P2pError Bytes := do
  let r ← P.receiveBundle call first
  let x3dh ← P.runX3dhInitiator call r
  P.sendEnvelope call r x3dh

def responderX3dh (second : Arrival) : Except P2pError (CryptoHandler S × X3dhResult S) := do
  let msg ← P.receiveMsg first
  let (aliceEphemeralPub, initiatorDeviceId) ← P.expectHello msg
  let handler ← P.deriveHandshakeKey call.env.ephemeral aliceEphemeralPub
  let _ ← P.sendBundle call handler
  let envelope ← P.receiveEnvelope handler second
  let x3dh ← P.runX3dhResponder call aliceEphemeralPub initiatorDeviceId envelope
  return (handler, x3dh)

def answerEnvelope (second : Arrival) : Except P2pError Bytes := do
  let (handler, _) ← P.responderX3dh call first second
  P.sendOk call handler

def initiatorSecret (call : InitiatorCall S) (first : Arrival) : Except P2pError S.Key := do
  let r ← P.receiveBundle call first
  let x3dh ← P.runX3dhInitiator call r
  return x3dh.sharedSecret

def responderSecret (second : Arrival) : Except P2pError S.Key := do
  let (_, x3dh) ← P.responderX3dh call first second
  return x3dh.sharedSecret

end

end

/-- What the crates do on the way of an honest exchange. The lengths are generous: `bincode` adds
88 bytes to a bundle and at most 154 to an envelope, ChaCha20-Poly1305 adds 16 to a plaintext. -/
structure Delivering (P : P2pSuite S) : Prop where
  roundTrip : P.codec.RoundTrip
  aead : S.CorrectAead
  comm : S.CommutativeDh
  kem : P.handshake.kem.Correct
  nonzero : P.handshake.NonzeroKdf
  bundle_length : ∀ b payload, P.codec.encodeBundle b = .ok payload →
    payload.length ≤ b.bundleBytes.length + 1024
  envelope_length : ∀ e payload, P.codec.encodeEnvelope e = .ok payload →
    payload.length ≤ (e.pqCiphertext.getD []).length + 1024
  sealed_length : ∀ s (nonce : FixedBytes 12) label payload, label.length ≤ maxInfoLength →
    (S.aeadEncrypt (P.simpleKdf s) nonce.val label payload).length ≤ payload.length + 1024

/-- Two calls that belong together, and what they need in order to complete. -/
structure HonestRun (P : P2pSuite S) where
  initiator : InitiatorCall S
  responder : ResponderCall S
  initiatorIdentity : S.Scalar
  responderIdentity : S.Scalar
  pqSeed : FixedBytes 64
  encapsRandom : Bytes32
  -- the identities
  initiatorSecret : initiator.identity.x25519Secret = some initiatorIdentity
  initiatorPublic : initiator.identity.x25519Public = S.publicKey initiatorIdentity
  responderSecret : responder.identity.x25519Secret = some responderIdentity
  responderPublic : responder.identity.x25519Public = S.publicKey responderIdentity
  expected : initiator.handshakeCfg.expectedPeerIdentity = some responder.identity.ed25519Public
  -- the bundle
  signedPrekey : responder.bundle.signedPrekey = S.publicKey responder.spkSecret
  onetimePrekey : responder.bundle.onetimePrekey = responder.opkSecret.map S.publicKey
  pqPrekey : responder.bundle.pqSignedPrekey = some (P.handshake.kem.keyGen pqSeed).1.val
  pqSecret : responder.pqSk = some (P.handshake.kem.keyGen pqSeed).2.val
  valid : responder.bundle.validate P.handshake initiator.env.now = .ok ()
  -- the ephemeral keys and the key derived from them
  initiatorEphemeral : (S.publicKey initiator.env.ephemeral).val ∉ lowOrderPoints
  responderEphemeral : (S.publicKey responder.env.ephemeral).val ∉ lowOrderPoints
  strongKey : CryptoHandler.weak (S.keyBytes (P.simpleKdf (S.diffieHellman
    initiator.env.ephemeral (S.publicKey responder.env.ephemeral)))) = false
  -- random generator, stream and clock
  random : initiator.env.encapsRandom = some encapsRandom
  envelopeNonce : initiator.env.payloadNonce.isSome
  bundleNonce : responder.env.payloadNonce.isSome
  okNonce : responder.env.okNonce.isSome
  initiatorSends : initiator.env.firstSend = .ok () ∧ initiator.env.secondSend = .ok ()
  responderSends : responder.env.firstSend = .ok () ∧ responder.env.secondSend = .ok ()
  initiatorClock : (initiator.env.clock.read .timestamp).isSome
  responderClock : (responder.env.clock.read .timestamp).isSome

variable {P : P2pSuite S}

namespace HonestRun

variable (run : P.HonestRun)

def handler : CryptoHandler S :=
  ⟨P.simpleKdf (S.diffieHellman run.initiator.env.ephemeral
    (S.publicKey run.responder.env.ephemeral))⟩

def received : ReceivedBundle S :=
  ⟨run.handler, stealthBundle run.responder, run.responder.bundle⟩

def parties : X3dhParties S where
  __ := run
  initiatorEphemeral := run.initiator.env.ephemeral
  responderSignedPrekey := run.responder.spkSecret
  responderOnetimePrekey := run.responder.opkSecret
  pqSeed := some run.pqSeed
  initiatorDeviceId := run.initiator.ourDeviceId
  responderDeviceId := run.responder.ourDeviceId
  transcriptHashExt := P.buildTranscript
    { initiatorIdentity := run.initiator.identity.ed25519Public
      initiatorEphemeral := S.publicKey run.initiator.env.ephemeral
      responderIdentity := run.responder.identity.ed25519Public
      responderSignedPrekey := run.responder.bundle.signedPrekey
      responderOnetimePrekey := run.responder.bundle.onetimePrekey
      initiatorDeviceId := run.initiator.ourDeviceId
      responderDeviceId := run.responder.ourDeviceId }

lemma initiatorArgs_eq : P.initiatorArgs run.initiator run.received run.initiatorIdentity =
    run.parties.initiatorArgs P.handshake := by
  simp only [initiatorArgs, X3dhParties.initiatorArgs, received, stealthBundle, parties,
    run.responderPublic, run.signedPrekey, run.onetimePrekey, run.pqPrekey, Option.map_some]

lemma responderArgs_eq (x3dh : X3dhResult S) :
    P.responderArgs run.responder (S.publicKey run.initiator.env.ephemeral)
        run.initiator.ourDeviceId (stealthEnvelope run.initiator run.received x3dh)
        run.responderIdentity =
      run.parties.responderArgs P.handshake x3dh.pqCiphertext := by
  simp only [responderArgs, X3dhParties.responderArgs, stealthEnvelope, parties,
    run.initiatorPublic, run.pqSecret, Option.map_some]

lemma derives_initiator : P.deriveHandshakeKey run.initiator.env.ephemeral
    (S.publicKey run.responder.env.ephemeral) = .ok run.handler :=
  deriveHandshakeKey_eq run.strongKey

lemma derives_responder (hco : S.CommutativeDh) :
    P.deriveHandshakeKey run.responder.env.ephemeral
      (S.publicKey run.initiator.env.ephemeral) = .ok run.handler := by
  have hst := run.strongKey
  rw [hco] at hst
  rw [deriveHandshakeKey_eq hst, handler, hco]

section
variable (hP : P.Delivering)
include hP

lemma sealed_opens {no : Option (FixedBytes 12)} (hn : no.isSome) {p l : Bytes}
    (hle : p.length ≤ 4096) (hl : l.length ≤ maxInfoLength) :
    ∃ bytes, run.handler.encrypt no p l = .ok bytes ∧
      run.handler.decrypt bytes l = .ok p := by
  obtain ⟨n, rfl⟩ := Option.isSome_iff_exists.mp hn
  have hse : (S.aeadEncrypt run.handler.cipher n.val l p).length ≤ p.length + 1024 :=
    hP.sealed_length _ n l p hl
  refine ⟨_, run.handler.encrypt_some n ?_ hl,
    CryptoHandler.decrypt_sealed hP.aead run.handler n ?_⟩
  · unfold maxPlaintextLength
    omega
  · unfold maxCiphertextLength maxPlaintextLength
    omega

lemma hello_delivered : ∃ hello, P.sendHello run.initiator = .ok hello ∧
      P.receiveMsg (.frame hello) = .ok (.hello p2pProtocolVersion
        (S.publicKey run.initiator.env.ephemeral) run.initiator.ourDeviceId) := by
  obtain ⟨hello, -, hse, hre⟩ := delivers hP.roundTrip (.hello p2pProtocolVersion
    _ run.initiator.ourDeviceId)
  refine ⟨hello, ?_, hre⟩
  rwa [sendHello, run.initiatorSends.1]

lemma bundle_delivered : ∃ frame, P.sendBundle run.responder run.handler = .ok frame ∧
    P.receiveBundle run.initiator (.frame frame) = .ok run.received := by
  obtain ⟨hpk, sig, hsi⟩ := PreKeyBundle.pq_of_validate run.valid run.pqPrekey
  have hp := PreKeyBundle.parse_toBytes run.pqPrekey hpk hsi
  have hb := (PreKeyBundle.toBytes_length run.pqPrekey hpk hsi).2
  obtain ⟨p, hen, hde⟩ := hP.roundTrip.bundle _
  have hl : p.length ≤ run.responder.bundle.toBytes.length + 1024 :=
    hP.bundle_length (stealthBundle run.responder) p hen
  obtain ⟨sb, hs, ho⟩ := run.sealed_opens hP run.bundleNonce
    (show p.length ≤ 4096 by omega) (show bundleLabel.length ≤ maxInfoLength by decide)
  obtain ⟨frame, -, hse, hre⟩ := delivers hP.roundTrip (.bundle _ sb)
  have hep : P.expectBundle (.bundle (S.publicKey run.responder.env.ephemeral) sb) =
      .ok (S.publicKey run.responder.env.ephemeral, sb) := by
    have hv : validatePublicKey (S.publicKey run.responder.env.ephemeral) = .ok () :=
      if_neg run.responderEphemeral
    simp only [expectBundle, hv]
    rfl
  have hid : checkExpectedIdentity run.initiator.handshakeCfg
      (stealthBundle run.responder).responderEd25519Pub = .ok () := by
    unfold checkExpectedIdentity
    rw [run.expected]
    exact ensure_ok.mpr (beq_self_eq_true _)
  refine ⟨frame, ?_, ?_⟩
  · simp only [sendBundle, hen, hs, run.responderSends.1, Except.mapError, ok_bind]
    exact hse
  have hp' : PreKeyBundle.parse (stealthBundle run.responder).bundleBytes =
      .ok run.responder.bundle := hp
  simp only [receiveBundle, hre, hep, run.derives_initiator, ho, hde, hp',
    run.valid, hid, Except.mapError, ok_bind]
  rfl

lemma x3dh_agrees : ∃ x y, P.runX3dhInitiator run.initiator run.received = .ok x ∧
      P.runX3dhResponder run.responder (S.publicKey run.initiator.env.ephemeral)
        run.initiator.ourDeviceId (stealthEnvelope run.initiator run.received x) = .ok y ∧
      x.sharedSecret = y.sharedSecret ∧ (x.pqCiphertext.getD []).length = 1088 ∧
      isZero (S.keyBytes x.sharedSecret).val = false := by
  obtain ⟨x, hx, hct⟩ := run.parties.initiator_returns hP.kem hP.nonzero run.encapsRandom
    (fun _ => run.random)
  obtain ⟨y, hy⟩ := run.parties.responder_returns hP.kem hP.nonzero run.encapsRandom
  rw [← hct] at hy
  have hso : x.pqCiphertext = some (P.handshake.kem.encaps
      (P.handshake.kem.keyGen run.pqSeed).1 run.encapsRandom).2.val := hct
  have hse := X3dhParties.sharedSecret_agrees hP.comm hP.kem run.parties hx hy
  refine ⟨x, y, ?_, ?_, hse, ?_, ?_⟩
  · simp only [runX3dhInitiator, run.initiatorSecret, okOr, ok_bind, run.initiatorArgs_eq]
    exact mapError_ok.mpr hx
  · simp only [runX3dhResponder, run.responderSecret, okOr, ok_bind, run.responderArgs_eq]
    exact mapError_ok.mpr hy
  · rw [hso, Option.getD_some, FixedBytes.length_val]
  · exact X3dhRun.sharedSecret_nonzero hP.nonzero
      (.initiator (run.parties.initiatorArgs P.handshake)
      run.initiator.env.encapsRandom) hx

lemma envelope_delivered {x3dh : X3dhResult S} (hct : (x3dh.pqCiphertext.getD []).length = 1088) :
    ∃ frame, P.sendEnvelope run.initiator run.received x3dh = .ok frame ∧
      P.receiveEnvelope run.handler (.frame frame) =
        .ok (stealthEnvelope run.initiator run.received x3dh) := by
  obtain ⟨payload, hen, hde⟩ :=
    hP.roundTrip.envelope _
  have hl : payload.length ≤ (x3dh.pqCiphertext.getD []).length + 1024 :=
    hP.envelope_length (stealthEnvelope run.initiator run.received x3dh) payload hen
  obtain ⟨sealedEnvelope, hs, ho⟩ := run.sealed_opens hP run.envelopeNonce
    (show payload.length ≤ 4096 by omega) (show envelopeLabel.length ≤ maxInfoLength by decide)
  obtain ⟨frame, -, hse, hre⟩ := delivers hP.roundTrip _
  refine ⟨frame, ?_, ?_⟩
  · have hs' : run.received.handler.encrypt run.initiator.env.payloadNonce payload
        envelopeLabel = .ok sealedEnvelope := hs
    simp only [sendEnvelope, hen, hs', run.initiatorSends.2, Except.mapError, ok_bind]
    exact hse
  · simp only [receiveEnvelope, hre, expectEnvelope, ho, hde, Except.mapError, ok_bind]

lemma ok_delivered : ∃ frame sealedOk, P.sendOk run.responder run.handler = .ok frame ∧
    P.receiveMsg (.frame frame) = .ok (.ok sealedOk) ∧
    run.handler.decrypt sealedOk okLabel = .ok okSignal := by
  obtain ⟨sealedOk, hs, ho⟩ := run.sealed_opens hP run.okNonce
    (show okSignal.length ≤ 4096 by decide) (show okLabel.length ≤ maxInfoLength by decide)
  obtain ⟨frame, -, hse, hre⟩ := delivers hP.roundTrip _
  refine ⟨frame, sealedOk, ?_, hre, ho⟩
  simp only [sendOk, hs, run.responderSends.2]
  exact hse

end

lemma receiveOk_eq {x3dh : X3dhResult S} {f so : Bytes} {now : Nat}
    (hf : P.receiveMsg (.frame f) = .ok (.ok so))
    (ho : run.handler.decrypt so okLabel = .ok okSignal)
    (hz : isZero (S.keyBytes x3dh.sharedSecret).val = false)
    (hn : run.initiator.env.clock.read .timestamp = some now) :
    P.receiveOk run.initiator run.received x3dh (.frame f) =
      .ok (DoubleRatchetSession.initialState (S.keyBytes x3dh.sharedSecret)
        run.initiator.env.ephemeral (S.publicKey run.responder.spkSecret)
        run.initiator.protocolConfig .initiator run.initiator.env.clock now,
        run.responder.identity.ed25519Public) := by
  have hse := DoubleRatchetSession.fromSharedSecret_eq hz hn run.initiator.env.ephemeral
    (S.publicKey run.responder.spkSecret) run.initiator.protocolConfig .initiator
  simp only [receiveOk, hf, expectOk, received, ho, run.signedPrekey, hse, ok_bind]
  rfl

end HonestRun

/-- The four frames of an honest run are sent, both calls return with the identity of the other,
with one X3DH secret and with the two ends of one ratchet. -/
theorem honest_run (hP : P.Delivering) (run : P.HonestRun) : ∃ hello bundle envelope ok,
    P.sendHello run.initiator = .ok hello ∧
    P.answerHello run.responder (.frame hello) = .ok bundle ∧
    P.answerBundle run.initiator (.frame bundle) = .ok envelope ∧
    P.answerEnvelope run.responder (.frame hello) (.frame envelope) = .ok ok ∧ ∃ s t k,
    P.initiatorHandshake run.initiator (.frame bundle)
    (.frame ok) = .ok (s, run.responder.identity.ed25519Public) ∧
    P.responderHandshake run.responder (.frame hello)
    (.frame envelope) = .ok (t, run.initiator.identity.ed25519Public) ∧
    P.initiatorSecret run.initiator (.frame bundle) = .ok k ∧
    P.responderSecret run.responder (.frame hello) (.frame envelope) = .ok k ∧
    MatchedSessions s t := by
  obtain ⟨hello, hhello, hfirst⟩ := run.hello_delivered hP
  obtain ⟨bundle, hbundle, hreceived⟩ := run.bundle_delivered hP
  obtain ⟨x, y, hx, hy, hsecret, hct, hzero⟩ := run.x3dh_agrees hP
  obtain ⟨envelope, henvelope, hsecond⟩ := run.envelope_delivered hP hct
  obtain ⟨ok, sealedOk, hok, hthird, hopen⟩ := run.ok_delivered hP
  obtain ⟨now, hnow⟩ := Option.isSome_iff_exists.mp run.initiatorClock
  obtain ⟨now', hnow'⟩ := Option.isSome_iff_exists.mp run.responderClock
  have hexpect : P.expectHello _ = _ :=
    expectHello_hello run.initiatorEphemeral run.initiator.ourDeviceId
  have hderive := run.derives_responder hP.comm
  have hx3dh : P.responderX3dh run.responder (.frame hello) (.frame envelope) =
      .ok (run.handler, y) := by
    simp only [responderX3dh, hfirst, hexpect, hderive, hbundle, hsecond, hy, ok_bind]
    rfl
  refine ⟨hello, bundle, envelope, ok, hhello, ?_, ?_, ?_, _, _, x.sharedSecret, ?_, ?_, ?_, ?_,
    matchedSessions_initial (S.keyBytes x.sharedSecret) run.initiator.env.ephemeral
      run.responder.spkSecret run.initiator.protocolConfig run.responder.protocolConfig
      run.initiator.env.clock run.responder.env.clock now now'⟩
  · simp only [answerHello, hfirst, hexpect, hderive, ok_bind]
    exact hbundle
  · simp only [answerBundle, hreceived, hx, ok_bind]
    exact henvelope
  · simp only [answerEnvelope, hx3dh, ok_bind]
    exact hok
  · simp only [initiatorHandshake, hhello, hreceived, hx, henvelope, ok_bind]
    exact run.receiveOk_eq hthird hopen hzero hnow
  · have hsession := DoubleRatchetSession.fromSharedSecret_eq hzero hnow' run.responder.spkSecret
      (S.publicKey run.initiator.env.ephemeral) run.responder.protocolConfig .responder
    rw [hsecret] at hsession
    simp only [responderHandshake, hfirst, hexpect, hderive, hbundle, hsecond, hy, hok,
      responderSession, hsession, Except.mapError, ok_bind]
    rw [hsecret]
    rfl
  · simp only [initiatorSecret, hreceived, hx, ok_bind]
    rfl
  · simp only [responderSecret, hx3dh, ok_bind]
    rw [hsecret]
    rfl

end P2pSuite

namespace Symbolic

lemma p2p_delivering (me : List Bytes) : (p2p me).Delivering where
  roundTrip := codec_roundTrip
  aead := correctAead
  comm := commutativeDh
  kem := kem_correct
  nonzero := nonzeroKdf me
  bundle_length := by
    rintro b p ⟨⟩
    simp only [encodeBundle, List.length_append, FixedBytes.length_val]
    omega
  envelope_length := by
    rintro e p ⟨⟩
    have hk : (encodeKeyOption e.onetimePrekeyUsed).length ≤ 33 := by
      cases e.onetimePrekeyUsed <;> simp [encodeKeyOption]
    have hr : (encodeRest e.pqCiphertext).length = 1 + (e.pqCiphertext.getD []).length := by
      cases e.pqCiphertext <;> simp [encodeRest, Nat.add_comm]
    simp only [encodeEnvelope, List.length_append, FixedBytes.length_val]
    omega
  sealed_length := by
    intro s n l p hl
    have hta := simpleKdf_tag_length s n hl
    change (p ++ tag (simpleKdf s) n.val l).length ≤ _
    rw [List.length_append]
    omega

def honestRun (t : Fin (2 ^ 63)) (x : UInt64) : (p2p (bundleMessages 4 6)).HonestRun where
  initiator := initiatorCall (env t x).clock
  responder := responderCall (env t x).clock
  initiatorIdentity := scalar 1
  responderIdentity := scalar 4
  pqSeed := seed
  encapsRandom := secret
  initiatorSecret := rfl
  initiatorPublic := rfl
  responderSecret := rfl
  responderPublic := rfl
  expected := rfl
  signedPrekey := rfl
  onetimePrekey := rfl
  pqPrekey := rfl
  pqSecret := rfl
  valid := by
    change (bundle 4 6).validate (handshake (bundleMessages 4 6)) (some 2000) = .ok ()
    decide +kernel
  initiatorEphemeral := publicKey_not_lowOrder _
  responderEphemeral := publicKey_not_lowOrder _
  strongKey := (p2p_ideal []).strongKeys _
  random := rfl
  envelopeNonce := rfl
  bundleNonce := rfl
  okNonce := rfl
  initiatorSends := ⟨rfl, rfl⟩
  responderSends := ⟨rfl, rfl⟩
  initiatorClock := rfl
  responderClock := rfl

end Symbolic

namespace P2pSuite

open Symbolic

theorem parties_one_and_four_meet :
    let P := p2p (bundleMessages 4 6)
    let initiator := initiatorCall (env 2000 0).clock
    let responder := responderCall (env 2000 0).clock
    ∃ hello bundle envelope ok s t k, P.sendHello initiator = .ok hello ∧
      P.answerHello responder (.frame hello) = .ok bundle ∧
      P.answerBundle initiator (.frame bundle) = .ok envelope ∧
      P.answerEnvelope responder (.frame hello) (.frame envelope) = .ok ok ∧
      P.initiatorHandshake initiator (.frame bundle) (.frame ok) = .ok (s, publicKey 4) ∧
      P.responderHandshake responder (.frame hello) (.frame envelope) = .ok (t, publicKey 1) ∧
      P.initiatorSecret initiator (.frame bundle) = .ok k ∧
      P.responderSecret responder (.frame hello) (.frame envelope) = .ok k ∧
      MatchedSessions s t := by
  obtain ⟨hello, bundle, envelope, ok, h₁, h₂, h₃, h₄, s, t, k, hruns⟩ :=
    honest_run (p2p_delivering _) (honestRun 2000 0)
  exact ⟨hello, bundle, envelope, ok, s, t, k, h₁, h₂, h₃, h₄, hruns⟩

end P2pSuite

end Sibna
