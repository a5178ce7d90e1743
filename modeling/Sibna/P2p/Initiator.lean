import Sibna.P2p.Responder

/-!
# The initiator of the peer-to-peer handshake

`initiator_handshake`, cut at the frames it waits for. Nothing compares the identity it returns with
the one in the bundle.
-/

namespace Sibna

structure InitiatorCall (S : Suite) where
  identity : IdentityKeyPair S
  protocolConfig : Config
  handshakeCfg : P2pHandshakeConfig
  ourDeviceId : FixedBytes 16
  env : P2pEnv S

structure ReceivedBundle (S : Suite) where
  handler : CryptoHandler S
  stealth : StealthBundle
  bundle : PreKeyBundle

def hexDigit (n : Nat) : Char := "0123456789abcdef".toList.getD n '0'

def hexEncode (bytes : Bytes) : String :=
  String.ofList (bytes.flatMap fun b => [hexDigit (b.toNat / 16), hexDigit (b.toNat % 16)])

def checkExpectedIdentity (cfg : P2pHandshakeConfig) (got : Bytes32) : Except P2pError Unit :=
  match cfg.expectedPeerIdentity with
  | some expected =>
    ensure (got == expected) (.handshake ("peer identity mismatch: expected=" ++
      hexEncode (expected.val.take 4) ++ " got=" ++ hexEncode (got.val.take 4)))
  | none => .error (.handshake ("no expected_peer_identity configured. " ++
      "P2P connections require an out-of-band identity " ++
      "verification (safety number exchange) to prevent MITM. " ++
      "Set P2pConfig::expected_peer_identity to the peer's " ++
      "known Ed25519 key."))

namespace P2pSuite
variable {S : Suite} (P : P2pSuite S)

section
variable (call : InitiatorCall S)

def sendHello : Except P2pError Bytes :=
  P.sendMsg call.env.firstSend
    (.hello p2pProtocolVersion (S.publicKey call.env.ephemeral) call.ourDeviceId)

def expectBundle : P2pMsg → Except P2pError (Bytes32 × Bytes)
  | .bundle ephemeralPub encryptedBundle => do
    (validatePublicKey ephemeralPub).mapError fun _ => .handshake "invalid responder ephemeral key"
    return (ephemeralPub, encryptedBundle)
  | .error reason => .error (.handshake reason)
  | other => P.unexpected "Bundle" other

def receiveBundle (arrival : Arrival) : Except P2pError (ReceivedBundle S) := do
  let msg ← P.receiveMsg arrival
  let (bobEphemeralPub, encryptedBundle) ← P.expectBundle msg
  let handler ← P.deriveHandshakeKey call.env.ephemeral bobEphemeralPub
  let payload ← (handler.decrypt encryptedBundle bundleLabel).mapError
    fun _ => .handshake "failed to decrypt bundle"
  let stealth ← (P.codec.decodeBundle payload).mapError
    fun e => .handshake ("malformed stealth bundle: " ++ e)
  let bundle ← (PreKeyBundle.parse stealth.bundleBytes).mapError
    fun e => .handshake ("malformed internal bundle: " ++ e.debug)
  (bundle.validate P.handshake call.env.now).mapError
    fun e => .handshake ("bundle validation: " ++ e.debug)
  checkExpectedIdentity call.handshakeCfg stealth.responderEd25519Pub
  return ⟨handler, stealth, bundle⟩

section
variable (r : ReceivedBundle S) (x3dh : X3dhResult S)

def initiatorArgs (ourIdentity : S.Scalar) : InitiatorArgs S where
  ourIdentity := ourIdentity
  ourEphemeral := call.env.ephemeral
  peerIdentity := r.stealth.responderX25519Pub
  peerSignedPrekey := r.bundle.signedPrekey
  peerOnetimePrekey := r.bundle.onetimePrekey
  peerPqPk := r.bundle.pqSignedPrekey
  ourDeviceId := call.ourDeviceId
  peerDeviceId := r.stealth.responderDeviceId
  transcriptHashExt := P.buildTranscript
    { initiatorIdentity := call.identity.ed25519Public
      initiatorEphemeral := S.publicKey call.env.ephemeral
      responderIdentity := r.stealth.responderEd25519Pub
      responderSignedPrekey := r.bundle.signedPrekey
      responderOnetimePrekey := r.bundle.onetimePrekey
      initiatorDeviceId := call.ourDeviceId
      responderDeviceId := r.stealth.responderDeviceId }

def runX3dhInitiator : Except P2pError (X3dhResult S) := do
  let ourIdentity ← okOr call.identity.x25519Secret
    (.crypto "identity X25519 secret not available")
  (x3dhInitiatorV3 P.handshake (P.initiatorArgs call r ourIdentity) call.env.encapsRandom).mapError
    fun e => .handshake ("x3dh_initiator: " ++ e.debug)

def stealthEnvelope : StealthEnvelope where
  initiatorEd25519Pub := call.identity.ed25519Public
  initiatorX25519Pub := call.identity.x25519Public
  initiatorDeviceId := call.ourDeviceId
  signedPrekeyUsed := r.bundle.signedPrekey
  onetimePrekeyUsed := r.bundle.onetimePrekey
  pqCiphertext := x3dh.pqCiphertext

def sendEnvelope : Except P2pError Bytes := do
  let payload ← (P.codec.encodeEnvelope (stealthEnvelope call r x3dh)).mapError .framing
  let encryptedEnvelope ← (r.handler.encrypt call.env.payloadNonce payload envelopeLabel).mapError
    fun _ => .crypto "failed to encrypt envelope"
  P.sendMsg call.env.secondSend (.envelope encryptedEnvelope)

def expectOk : P2pMsg → Except P2pError Bytes
  | .ok encryptedOk => .ok encryptedOk
  | .error reason => .error (.handshake reason)
  | other => P.unexpected "Ok" other

def receiveOk (arrival : Arrival) : Except P2pError (DoubleRatchetState S × Bytes32) := do
  let msg ← P.receiveMsg arrival
  let encryptedOk ← P.expectOk msg
  let _ ← (r.handler.decrypt encryptedOk okLabel).mapError
    fun _ => .handshake "failed to decrypt ok signal"
  let session ← (DoubleRatchetSession.fromSharedSecret (S.keyBytes x3dh.sharedSecret)
    call.env.ephemeral r.bundle.signedPrekey call.protocolConfig .initiator call.env.clock).mapError
    fun e => .crypto ("ratchet init: " ++ e.debug)
  return (session, r.stealth.responderEd25519Pub)

end

/-- The arrivals are what the stream gives after the first and after the second frame sent. -/
def initiatorHandshake (first second : Arrival) :
    Except P2pError (DoubleRatchetState S × Bytes32) := do
  let _ ← P.sendHello call
  let r ← P.receiveBundle call first
  let x3dh ← P.runX3dhInitiator call r
  let _ ← P.sendEnvelope call r x3dh
  P.receiveOk call r x3dh second

end

variable {P} {call : InitiatorCall S} {r : ReceivedBundle S} {first second : Arrival}

lemma checkExpectedIdentity_ok {cfg : P2pHandshakeConfig} {got : Bytes32}
    (h : checkExpectedIdentity cfg got = .ok ()) : cfg.expectedPeerIdentity = some got := by
  unfold checkExpectedIdentity at h
  split at h
  · rename_i hep
    rw [hep, eq_of_beq (ensure_ok.mp h)]
  · cases h

lemma receiveBundle_ok (h : P.receiveBundle call first = .ok r) :
    PreKeyBundle.parse r.stealth.bundleBytes = .ok r.bundle ∧
    r.bundle.validate P.handshake call.env.now = .ok () ∧
    call.handshakeCfg.expectedPeerIdentity = some r.stealth.responderEd25519Pub := by
  obtain ⟨msg, -, h₁⟩ := bind_ok.mp h
  obtain ⟨⟨bep, eb⟩, -, h₂⟩ := bind_ok.mp h₁
  obtain ⟨ha, -, h₃⟩ := bind_ok.mp h₂
  obtain ⟨p, -, h₄⟩ := bind_ok.mp h₃
  obtain ⟨st, -, h₅⟩ := bind_ok.mp h₄
  obtain ⟨bu, hp, h₆⟩ := bind_ok.mp h₅
  obtain ⟨u, hv, h₇⟩ := bind_ok.mp h₆
  obtain ⟨v, hep, h₈⟩ := bind_ok.mp h₇
  cases h₈
  exact ⟨mapError_ok.mp hp, mapError_ok.mp hv, checkExpectedIdentity_ok hep⟩

lemma receiveOk_identity {x3dh : X3dhResult S} {se : DoubleRatchetState S} {i : Bytes32}
    (h : P.receiveOk call r x3dh second = .ok (se, i)) : i = r.stealth.responderEd25519Pub := by
  obtain ⟨msg, -, h₁⟩ := bind_ok.mp h
  obtain ⟨eo, -, h₂⟩ := bind_ok.mp h₁
  obtain ⟨p, -, h₃⟩ := bind_ok.mp h₂
  obtain ⟨s, -, h₄⟩ := bind_ok.mp h₃
  cases h₄
  rfl

lemma initiatorHandshake_ok {se : DoubleRatchetState S} {i : Bytes32}
    (h : P.initiatorHandshake call first second = .ok (se, i)) : ∃ r x3dh,
    P.receiveBundle call first = .ok r ∧ P.runX3dhInitiator call r = .ok x3dh ∧
    i = r.stealth.responderEd25519Pub := by
  obtain ⟨he, -, h₁⟩ := bind_ok.mp h
  obtain ⟨r, hr, h₂⟩ := bind_ok.mp h₁
  obtain ⟨x3dh, hx, h₃⟩ := bind_ok.mp h₂
  obtain ⟨f, -, h₄⟩ := bind_ok.mp h₃
  exact ⟨r, x3dh, hr, hx, receiveOk_identity h₄⟩

/-- Whatever frames arrive: the bundle whose prekeys entered the X3DH was signed by the returned
identity exactly if it names that identity as its own identity key. -/
theorem bundle_signed_by_identity_iff {R : SignatureRecord}
    (hR : R.Sound P.handshake.ed.verify) {session : DoubleRatchetState S} {identity : Bytes32}
    (h : P.initiatorHandshake call first second = .ok (session, identity)) :
    call.handshakeCfg.expectedPeerIdentity = some identity ∧
      ∃ r x3dh, P.receiveBundle call first = .ok r ∧ P.runX3dhInitiator call r = .ok x3dh ∧
        (P.handshake.ed.verify identity r.bundle.signingBytes r.bundle.bundleSignature = true ↔
          r.bundle.identityKey = identity) := by
  obtain ⟨r, x3dh, hr, hx, hidentity⟩ := initiatorHandshake_ok h
  obtain ⟨-, hvalid, hexpected⟩ := receiveBundle_ok hr
  have hsigned := (PreKeyBundle.validate_ok hvalid).1
  refine ⟨hidentity ▸ hexpected, r, x3dh, hr, hx, ?_⟩
  constructor
  · intro hverify
    exact (hR.eq_of_verify hsigned hverify).1
  · intro hkey
    rw [← hkey]
    exact hsigned

end P2pSuite

namespace Symbolic

def initiatorCall (clock : Clock) : InitiatorCall suite where
  identity := identity 1
  protocolConfig := config false
  handshakeCfg := ⟨some (publicKey 4)⟩
  ourDeviceId := device 1
  env := p2pEnv 3 clock

def bundleArrival (b : PreKeyBundle) : Arrival :=
  .frame (encodeMsg (.bundle (publicKey 5) (sealUnder 5 3 bundleLabel
    (encodeBundle ⟨publicKey 4, publicKey 4, device 4, b.toBytes⟩))))

def okArrival : Arrival := .frame (encodeMsg (.ok (sealUnder 5 3 okLabel okSignal)))

end Symbolic

namespace P2pSuite

open Symbolic

theorem bundle_signed_by_party_four :
    let P := p2p (bundleMessages 4 6)
    let call := initiatorCall (env 2000 0).clock
    ∃ session, P.initiatorHandshake call (bundleArrival (bundle 4 6)) okArrival =
        .ok (session, publicKey 4) ∧
      ∃ r x3dh, P.receiveBundle call (bundleArrival (bundle 4 6)) = .ok r ∧
        P.runX3dhInitiator call r = .ok x3dh ∧
        ((ed (bundleMessages 4 6)).verify (publicKey 4) r.bundle.signingBytes
          r.bundle.bundleSignature = true ↔ r.bundle.identityKey = publicKey 4) := by
  intro P call
  have hrun : (P.initiatorHandshake call (bundleArrival (bundle 4 6)) okArrival).map Prod.snd =
      .ok (publicKey 4) := by
    decide +kernel
  obtain ⟨session, hok⟩ := exists_fst_of_map_snd hrun
  exact ⟨session, hok, (bundle_signed_by_identity_iff
    (signatures_sound (bundleMessages 4 6) (by decide)) hok).2⟩

/-- The party 8 answers with a bundle of its own, and the initiator takes it for the party 4. -/
theorem bundle_of_another_identity :
    let P := p2p (bundleMessages 8 9)
    let call := initiatorCall (env 2000 0).clock
    ∃ session r, P.initiatorHandshake call (bundleArrival (bundle 8 9)) okArrival =
        .ok (session, publicKey 4) ∧
      P.receiveBundle call (bundleArrival (bundle 8 9)) = .ok r ∧
      (ed (bundleMessages 8 9)).verify (publicKey 4) r.bundle.signingBytes
        r.bundle.bundleSignature = false := by
  intro P call
  have hruns : (P.initiatorHandshake call (bundleArrival (bundle 8 9)) okArrival).map Prod.snd =
      .ok (publicKey 4) ∧
      (P.receiveBundle call (bundleArrival (bundle 8 9))).map (fun r =>
        (ed (bundleMessages 8 9)).verify (publicKey 4) r.bundle.signingBytes
          r.bundle.bundleSignature) = .ok false := by
    decide +kernel
  obtain ⟨hrun, hbundle⟩ := hruns
  obtain ⟨session, hok⟩ := exists_fst_of_map_snd hrun
  obtain ⟨r, hr, hverify⟩ := exceptMap_ok.mp hbundle
  exact ⟨session, r, hok, hr, hverify⟩

end P2pSuite

end Sibna
