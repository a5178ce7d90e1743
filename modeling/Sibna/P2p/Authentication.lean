import Sibna.P2p.Responder
import Sibna.Ratchet.Ledger

/-!
# Whom the responder accepts

A remote party is described by the secrets it holds. One fresh scalar is enough to be accepted under
any identity.
-/

namespace Sibna

variable {S : Suite}

structure RemoteParty (S : Suite) where
  /-- The Ed25519 secrets it holds. -/
  signingKeys : Bytes32 → Prop
  /-- The X25519 secrets it holds. -/
  scalars : S.Scalar → Prop

namespace RemoteParty

/-- The frames a party can send after it heard the given ephemeral keys. -/
inductive CanSend (P : P2pSuite S) (A : RemoteParty S) (heard : Bytes32 → Prop) : Bytes → Prop
  | hello {version : UInt8} {ephemeralPub : Bytes32} {deviceId : FixedBytes 16} {bytes : Bytes}
      (hbytes : P.codec.encodeMsg (.hello version ephemeralPub deviceId) = .ok bytes) :
      CanSend P A heard bytes
  | error {reason : String} {bytes : Bytes}
      (hbytes : P.codec.encodeMsg (.error reason) = .ok bytes) : CanSend P A heard bytes
  | envelope {e : S.Scalar} {peer : Bytes32} {nonce : FixedBytes 12} {content : StealthEnvelope}
      {payload bytes : Bytes} (he : A.scalars e) (hpeer : heard peer)
      (hpayload : P.codec.encodeEnvelope content = .ok payload)
      (hbytes : P.codec.encodeMsg (.envelope (nonce.val ++
        S.aeadEncrypt (P.simpleKdf (S.diffieHellman e peer)) nonce.val envelopeLabel payload)) =
          .ok bytes) :
      CanSend P A heard bytes

/-- The party has the private key of the identity, or an X25519 secret that is bound to it. -/
def Possesses (H : HandshakeSuite S) (bound : Bytes32 → Bytes32 → Prop) (A : RemoteParty S)
    (identity : Bytes32) : Prop :=
  (∃ sk, A.signingKeys sk ∧ H.ed.verifyingKey sk = identity) ∨
    ∃ x, A.scalars x ∧ bound identity (S.publicKey x)

def stranger (e : S.Scalar) : RemoteParty S where
  signingKeys := fun _ => False
  scalars := fun x => x = e

end RemoteParty

namespace P2pSuite

/-- Whoever is accepted under an identity possesses it, and it is the expected one. -/
def Authenticates (P : P2pSuite S) (bound : Bytes32 → Bytes32 → Prop) (call : ResponderCall S) :
    Prop :=
  ∀ (A : RemoteParty S) (first second : Bytes) (session : DoubleRatchetState S)
    (identity : Bytes32), A.CanSend P (fun _ => False) first →
    A.CanSend P (fun key => key = S.publicKey call.env.ephemeral) second →
    P.responderHandshake call (.frame first) (.frame second) = .ok (session, identity) →
    A.Possesses P.handshake bound identity ∧ ∀ expected,
    call.handshakeCfg.expectedPeerIdentity = some expected → identity = expected

structure CanComplete (P : P2pSuite S) (call : ResponderCall S) : Prop where
  x25519Secret : ∃ x, call.identity.x25519Secret = some x
  payloadNonce : ∃ n, call.env.payloadNonce = some n
  okNonce : ∃ n, call.env.okNonce = some n
  payload_length : ∀ bytes, P.codec.encodeBundle (stealthBundle call) = .ok bytes →
    bytes.length ≤ maxPlaintextLength
  firstSend : call.env.firstSend = .ok ()
  secondSend : call.env.secondSend = .ok ()
  clock : ∃ now, call.env.clock.read .timestamp = some now

/-- What the crates do on the way of an honest exchange. -/
structure Ideal (P : P2pSuite S) : Prop where
  roundTrip : P.codec.RoundTrip
  aead : S.CorrectAead
  comm : S.CommutativeDh
  nonzero : P.handshake.NonzeroKdf
  /-- No public key is a point of low order. -/
  publicKey : ∀ a, (S.publicKey a).val ∉ lowOrderPoints
  /-- No handshake key is a repeated byte. -/
  strongKeys : ∀ s, CryptoHandler.weak (S.keyBytes (P.simpleKdf s)) = false
  /-- A sealed envelope without a ciphertext in it is below the 100 MiB limit. -/
  envelope_length : ∀ content payload s (nonce : FixedBytes 12), content.pqCiphertext = none →
    P.codec.encodeEnvelope content = .ok payload →
      12 + (S.aeadEncrypt (P.simpleKdf s) nonce.val envelopeLabel payload).length ≤
        maxCiphertextLength

variable {P : P2pSuite S} {call : ResponderCall S}

lemma sendMsg_ok {sent : Except P2pError Unit} {msg : P2pMsg} {bt : Bytes}
    (h : P.sendMsg sent msg = .ok bt) : P.codec.encodeMsg msg = .ok bt ∧ sent = .ok () := by
  obtain ⟨b', hen, h₁⟩ := bind_ok.mp h
  obtain ⟨u, hse, h₂⟩ := bind_ok.mp h₁
  cases h₂
  exact ⟨mapError_ok.mp hen, hse⟩

lemma sendBundle_ok {ha : CryptoHandler S} {f : Bytes}
    (h : P.sendBundle call ha = .ok f) :
    (∃ n, call.env.payloadNonce = some n) ∧
      (∀ bytes, P.codec.encodeBundle (stealthBundle call) = .ok bytes →
        bytes.length ≤ maxPlaintextLength) ∧ call.env.firstSend = .ok () := by
  obtain ⟨p, hp, h₁⟩ := bind_ok.mp h
  obtain ⟨en, hen, h₂⟩ := bind_ok.mp h₁
  obtain ⟨hl, -, n, hn, -⟩ := CryptoHandler.encrypt_ok (mapError_ok.mp hen)
  refine ⟨⟨n, hn⟩, ?_, (sendMsg_ok h₂).2⟩
  intro bytes hb
  cases hb.symm.trans (mapError_ok.mp hp)
  exact hl

lemma sendOk_ok {ha : CryptoHandler S} {f : Bytes} (h : P.sendOk call ha = .ok f) :
    (∃ n, call.env.okNonce = some n) ∧ call.env.secondSend = .ok () := by
  obtain ⟨en, hen, h₁⟩ := bind_ok.mp h
  obtain ⟨-, -, n, hn, -⟩ := CryptoHandler.encrypt_ok (mapError_ok.mp hen)
  exact ⟨⟨n, hn⟩, (sendMsg_ok h₁).2⟩

lemma canComplete_of_ok {f sc : Arrival} {se : DoubleRatchetState S} {i : Bytes32}
    (h : P.responderHandshake call f sc = .ok (se, i)) : P.CanComplete call := by
  obtain ⟨msg, -, h₁⟩ := bind_ok.mp h
  obtain ⟨⟨a, di⟩, -, h₂⟩ := bind_ok.mp h₁
  obtain ⟨ha, -, h₃⟩ := bind_ok.mp h₂
  obtain ⟨bf, hb, h₄⟩ := bind_ok.mp h₃
  obtain ⟨en, -, h₅⟩ := bind_ok.mp h₄
  obtain ⟨x3dh, hx3dh, h₆⟩ := bind_ok.mp h₅
  obtain ⟨o, hok, h₇⟩ := bind_ok.mp h₆
  obtain ⟨s, hs, -⟩ := bind_ok.mp h₇
  obtain ⟨x, hx, -⟩ := bind_ok.mp hx3dh
  obtain ⟨-, now, hno, -⟩ := DoubleRatchetSession.fromSharedSecret_ok (mapError_ok.mp hs)
  obtain ⟨hn, hl, hf⟩ := sendBundle_ok hb
  obtain ⟨ho, hse⟩ := sendOk_ok hok
  exact ⟨⟨x, okOr_ok.mp hx⟩, hn, ho, hl, hf, hse, now, hno⟩

lemma Ideal.sendBundle (hP : P.Ideal) (hca : P.CanComplete call) (ha : CryptoHandler S) :
    ∃ frame, P.sendBundle call ha = .ok frame := by
  obtain ⟨n, hn⟩ := hca.payloadNonce
  obtain ⟨p, hp, -⟩ := hP.roundTrip.bundle _
  have hen := ha.encrypt_some n (hca.payload_length p hp)
    (show bundleLabel.length ≤ maxInfoLength by decide)
  obtain ⟨frame, -, hf, -⟩ := delivers hP.roundTrip (.bundle _ _)
  refine ⟨frame, ?_⟩
  simp only [P2pSuite.sendBundle, hp, hn, hen, hca.firstSend, Except.mapError, ok_bind]
  exact hf

lemma Ideal.sendOk (hP : P.Ideal) (hca : P.CanComplete call) (ha : CryptoHandler S) :
    ∃ frame, P.sendOk call ha = .ok frame := by
  obtain ⟨n, hn⟩ := hca.okNonce
  obtain ⟨frame, -, hf, -⟩ := delivers hP.roundTrip (.ok _)
  refine ⟨frame, ?_⟩
  simp only [P2pSuite.sendOk, hn, hca.secondSend, Except.mapError]
  exact hf

lemma Ideal.receiveEnvelope (hP : P.Ideal) (a e : S.Scalar) (n : FixedBytes 12)
    {co : StealthEnvelope} (hco : co.pqCiphertext = none) :
    ∃ payload bytes, P.codec.encodeEnvelope co = .ok payload ∧
      P.codec.encodeMsg (.envelope (n.val ++ S.aeadEncrypt
        (P.simpleKdf (S.diffieHellman e (S.publicKey a))) n.val envelopeLabel payload)) =
          .ok bytes ∧
      P.receiveEnvelope ⟨P.simpleKdf (S.diffieHellman a (S.publicKey e))⟩ (.frame bytes) =
        .ok co := by
  obtain ⟨payload, hp, hde⟩ := hP.roundTrip.envelope co
  obtain ⟨bytes, hb, -, hre⟩ := delivers hP.roundTrip (.envelope (n.val ++
    S.aeadEncrypt (P.simpleKdf (S.diffieHellman e _)) n.val envelopeLabel payload))
  have ho := CryptoHandler.decrypt_sealed hP.aead
    ⟨P.simpleKdf (S.diffieHellman e _)⟩ n
    (hP.envelope_length co payload (S.diffieHellman e (S.publicKey a)) n hco hp)
  refine ⟨payload, bytes, hp, hb, ?_⟩
  rw [hP.comm a e]
  simp only [P2pSuite.receiveEnvelope, hre, expectEnvelope, ho, hde, Except.mapError, ok_bind]

lemma Ideal.runX3dhResponder (hP : P.Ideal) (hca : P.CanComplete call) (a : Bytes32)
    (di : FixedBytes 16) {en : StealthEnvelope} (hen : en.pqCiphertext = none) : ∃ x3dh,
    P.runX3dhResponder call a di en = .ok x3dh ∧
    isZero (S.keyBytes x3dh.sharedSecret).val = false := by
  obtain ⟨x, hx⟩ := hca.x25519Secret
  obtain ⟨x3dh, hr, hz⟩ := x3dhResponderV3_classical hP.nonzero
    (show (P.responderArgs call a di en x).peerPqCt = none from hen)
  refine ⟨x3dh, ?_, hz⟩
  simp only [P2pSuite.runX3dhResponder, hx]
  exact mapError_ok.mpr hr

lemma CanComplete.responderSession (hca : P.CanComplete call) (a : Bytes32)
    {x3dh : X3dhResult S} (hx3dh : isZero (S.keyBytes x3dh.sharedSecret).val = false) :
    ∃ session, responderSession call a x3dh = .ok session := by
  obtain ⟨now, hn⟩ := hca.clock
  exact ⟨_, mapError_ok.mpr (DoubleRatchetSession.fromSharedSecret_eq hx3dh hn call.spkSecret
    a call.protocolConfig .responder)⟩

lemma Ideal.stranger_accepted (hP : P.Ideal) (hca : P.CanComplete call) (e : S.Scalar)
    (di : FixedBytes 16) (n : FixedBytes 12) {co : StealthEnvelope} (hco : co.pqCiphertext = none) :
    ∃ first second session, (RemoteParty.stranger e).CanSend P (fun _ => False) first ∧
    (RemoteParty.stranger e).CanSend P (fun key => key = S.publicKey call.env.ephemeral) second ∧
    P.responderHandshake call (.frame first)
    (.frame second) = .ok (session, co.initiatorEd25519Pub) := by
  obtain ⟨first, hf, -, hhe⟩ :=
    delivers hP.roundTrip (.hello p2pProtocolVersion (S.publicKey e) di)
  obtain ⟨p, second, hp, hsc, hen⟩ :=
    hP.receiveEnvelope call.env.ephemeral e n hco
  obtain ⟨bf, hb⟩ := hP.sendBundle hca
    ⟨P.simpleKdf (S.diffieHellman call.env.ephemeral (S.publicKey e))⟩
  obtain ⟨x3dh, hx3dh, hz⟩ := hP.runX3dhResponder hca (S.publicKey e) di hco
  obtain ⟨o, hok⟩ := hP.sendOk hca
    ⟨P.simpleKdf (S.diffieHellman call.env.ephemeral (S.publicKey e))⟩
  obtain ⟨session, hse⟩ := hca.responderSession (S.publicKey e) hz
  refine ⟨first, second, session, .hello hf, .envelope rfl rfl hp hsc, ?_⟩
  simp only [responderHandshake, hhe, expectHello_hello (hP.publicKey e),
    deriveHandshakeKey_eq (hP.strongKeys _), hb, hen,
    hx3dh, hok, hse, ok_bind]
  rfl

lemma stranger_possesses {H : HandshakeSuite S} {bo : Bytes32 → Bytes32 → Prop} {e : S.Scalar}
    {i : Bytes32} (h : (RemoteParty.stranger e).Possesses H bo i) : bo i (S.publicKey e) := by
  rcases h with ⟨sk, hsk, -⟩ | ⟨x, rfl, hb⟩
  · exact hsk.elim
  · exact hb

/-- If no X25519 key is bound to two identities, the responder authenticates its peers exactly
when it cannot complete a handshake. -/
theorem responder_authenticates_iff (hP : P.Ideal) {bound : Bytes32 → Bytes32 → Prop}
    (hbound : ∀ identity identity' key, bound identity key → bound identity' key →
      identity = identity') (call : ResponderCall S) :
    P.Authenticates bound call ↔ ¬ P.CanComplete call := by
  constructor
  · intro hauth hcan
    -- the same stranger is accepted under two identities, and its one key is not bound to both
    have hbound_of : ∀ identity, bound identity (S.publicKey P.handshake.zeroScalar) := by
      intro identity
      obtain ⟨first, second, session, hfirst, hsecond, hrun⟩ :=
        hP.stranger_accepted hcan P.handshake.zeroScalar call.ourDeviceId ⟨List.replicate 12 0, rfl⟩
          (show (StealthEnvelope.mk identity identity call.ourDeviceId identity none
            none).pqCiphertext = none from rfl)
      exact stranger_possesses (hauth _ _ _ _ _ hfirst hsecond hrun).1
    have heq := hbound ⟨List.replicate 32 0, rfl⟩ ⟨List.replicate 32 1, rfl⟩ _ (hbound_of _)
      (hbound_of _)
    exact absurd (congrArg Subtype.val heq) (by decide)
  · intro hcan A first second session identity _ _ hrun
    exact (hcan (canComplete_of_ok hrun)).elim

end P2pSuite

namespace Symbolic

lemma terminated_length (bs : Bytes) : (terminated bs).length = 2 * bs.length + 16 := by
  induction bs with
  | nil => simp [terminated]
  | cons b bs ih =>
    simp only [terminated, List.length_cons]
    omega

lemma encodeShared_length (s : Shared) : (encodeShared s).length ≤ 41 := by
  cases s <;> simp [encodeShared]

lemma encodeKey_simpleKdf_length (s : Shared) : (encodeKey (simpleKdf s)).length ≤ 46 := by
  have hsh := encodeShared_length s
  have hl : (encodeKey (simpleKdf s)).length = 5 + (encodeShared s).length := by
    change (2 :: (([2, 0, 0, 0] : Bytes) ++ encodeShared s)).length = _
    simp only [List.length_cons, List.length_append, List.length_nil]
    omega
  omega

lemma simpleKdf_tag_length (s : Shared) (n : FixedBytes 12) {l : Bytes}
    (hl : l.length ≤ maxInfoLength) : (tag (simpleKdf s) n.val l).length ≤ 1024 := by
  have hkdf := encodeKey_simpleKdf_length s
  unfold maxInfoLength at hl
  unfold tag
  split
  · simp [headerTag]
  · rw [List.length_reverse, terminated_length]
    simp only [List.length_append]
    omega

lemma p2p_ideal (me : List Bytes) : (p2p me).Ideal where
  roundTrip := codec_roundTrip
  aead := correctAead
  comm := commutativeDh
  nonzero := nonzeroKdf me
  publicKey := publicKey_not_lowOrder
  strongKeys := by
    intro s
    have hne : simpleKdf s ≠ .atom .zero := by
      rintro ⟨⟩
    change CryptoHandler.weak (keyBytes (simpleKdf s)) = false
    rw [keyBytes, if_neg hne]
    decide
  envelope_length := by
    rintro co p s n hco ⟨⟩
    have hk : (encodeKeyOption co.onetimePrekeyUsed).length ≤ 33 := by
      cases co.onetimePrekeyUsed <;> simp [encodeKeyOption]
    have hta := simpleKdf_tag_length s n (show envelopeLabel.length ≤ maxInfoLength by decide)
    change 12 + (encodeEnvelope co ++ tag (simpleKdf s) n.val envelopeLabel).length ≤ _
    simp only [encodeEnvelope, hco, encodeRest, List.length_append, FixedBytes.length_val,
      List.length_cons, List.length_nil, maxCiphertextLength, maxPlaintextLength]
    omega

def responderCall (clock : Clock) : ResponderCall suite where
  identity := identity 4
  bundle := bundle 4 6
  spkSecret := scalar 6
  opkSecret := none
  pqSk := some (kem.keyGen seed).2.val
  protocolConfig := config false
  handshakeCfg := ⟨some (publicKey 1)⟩
  ourDeviceId := device 4
  env := p2pEnv 5 clock

lemma responderCall_canComplete (t : Fin (2 ^ 63)) (x : UInt64) (me : List Bytes) :
    (p2p me).CanComplete (responderCall (env t x).clock) where
  x25519Secret := ⟨_, rfl⟩
  payloadNonce := ⟨_, rfl⟩
  okNonce := ⟨_, rfl⟩
  payload_length := by
    intro bt hb
    obtain rfl := Except.ok.inj hb
    change (encodeBundle ⟨publicKey 4, publicKey 4, device 4, (bundle 4 6).toBytes⟩).length ≤ _
    decide +kernel
  firstSend := rfl
  secondSend := rfl
  clock := ⟨_, rfl⟩

def strangerHello : Arrival :=
  .frame (encodeMsg (.hello p2pProtocolVersion (publicKey 7) (device 7)))

def strangerEnvelope (x : UInt64) : Arrival :=
  .frame (encodeMsg (.envelope (sealUnder 7 5 envelopeLabel
    (encodeEnvelope ⟨publicKey x, publicKey 7, device 7, publicKey 6, none, none⟩))))

end Symbolic

namespace P2pSuite

open Symbolic

theorem responder_four_does_not_authenticate :
    ¬ (p2p []).Authenticates (fun identity key => identity = key)
    (responderCall (env 2000 0).clock) := by
  have hiff := responder_authenticates_iff (p2p_ideal [])
    (show ∀ identity identity' key : Bytes32, identity = key → identity' = key →
      identity = identity' from fun _ _ _ h h' =>
        h.trans h'.symm) (responderCall (env 2000 0).clock)
  exact fun hauth => hiff.mp hauth (responderCall_canComplete 2000 0 [])

/-- The stranger is taken for the expected party 1, and the party 9 is accepted as well. -/
theorem stranger_taken_for_another :
    let call := responderCall (env 2000 0).clock
    let answer := fun i => (p2p []).responderHandshake call strangerHello (strangerEnvelope i)
    ∃ session session', answer 1 = .ok (session, publicKey 1) ∧
      answer 9 = .ok (session', publicKey 9) ∧
      call.handshakeCfg.expectedPeerIdentity = some (publicKey 1) := by
  intro call answer
  have hone : (answer 1).map Prod.snd = .ok (publicKey 1) := by decide +kernel
  have hnine : (answer 9).map Prod.snd = .ok (publicKey 9) := by decide +kernel
  obtain ⟨session, hok⟩ := exists_fst_of_map_snd hone
  obtain ⟨session', hok'⟩ := exists_fst_of_map_snd hnine
  exact ⟨session, session', hok, hok', rfl⟩

end P2pSuite

end Sibna
