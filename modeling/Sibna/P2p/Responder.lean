import Sibna.KeyStore.Runs

/-!
# The responder of the peer-to-peer handshake

`p2p/handshake.rs`. A role is a function of the frames that arrive; the stream, the timer and
`bincode` are parameters. The identity it returns is an unsigned field of the envelope.
-/

namespace Sibna

inductive P2pError where
  | io (text : String)
  | framing (text : String)
  | handshake (reason : String)
  | crypto (text : String)
  | tooManyPeers
  | timeout
  | invalidMessage (text : String)
  | disconnected
  deriving DecidableEq

/-- The timeout and the frame limit act through the stream, see `Arrival`. -/
structure P2pHandshakeConfig where
  expectedPeerIdentity : Option Bytes32

structure StealthBundle where
  responderEd25519Pub : Bytes32
  responderX25519Pub : Bytes32
  responderDeviceId : FixedBytes 16
  bundleBytes : Bytes

structure StealthEnvelope where
  initiatorEd25519Pub : Bytes32
  initiatorX25519Pub : Bytes32
  initiatorDeviceId : FixedBytes 16
  signedPrekeyUsed : Bytes32
  onetimePrekeyUsed : Option Bytes32
  pqCiphertext : Option Bytes

inductive P2pMsg where
  | hello (version : UInt8) (ephemeralPub : Bytes32) (initiatorDeviceId : FixedBytes 16)
  | bundle (ephemeralPub : Bytes32) (encryptedBundle : Bytes)
  | envelope (encryptedEnvelope : Bytes)
  | ok (encryptedOk : Bytes)
  | error (reason : String)

def p2pProtocolVersion : UInt8 := 4

/-- `handshake_bundle`. -/
def bundleLabel : Bytes :=
  [104, 97, 110, 100, 115, 104, 97, 107, 101, 95, 98, 117, 110, 100, 108, 101]

/-- `handshake_envelope`. -/
def envelopeLabel : Bytes :=
  [104, 97, 110, 100, 115, 104, 97, 107, 101, 95, 101, 110, 118, 101, 108, 111, 112, 101]

/-- `handshake_ok`. -/
def okLabel : Bytes := [104, 97, 110, 100, 115, 104, 97, 107, 101, 95, 111, 107]

/-- `OK`. -/
def okSignal : Bytes := [79, 75]

/-- `bincode` with its legacy configuration, with the texts of its errors, and the derived
`Debug` of a message. -/
structure WireCodec where
  encodeMsg : P2pMsg → Except String Bytes
  decodeMsg : Bytes → Except String P2pMsg
  encodeBundle : StealthBundle → Except String Bytes
  decodeBundle : Bytes → Except String StealthBundle
  encodeEnvelope : StealthEnvelope → Except String Bytes
  decodeEnvelope : Bytes → Except String StealthEnvelope
  debugMsg : P2pMsg → String

/-- Every value is written, and read back as itself. -/
structure WireCodec.RoundTrip (C : WireCodec) : Prop where
  msg : ∀ m, ∃ bytes, C.encodeMsg m = .ok bytes ∧ C.decodeMsg bytes = .ok m
  bundle : ∀ b, ∃ bytes, C.encodeBundle b = .ok bytes ∧ C.decodeBundle bytes = .ok b
  envelope : ∀ e, ∃ bytes, C.encodeEnvelope e = .ok bytes ∧ C.decodeEnvelope bytes = .ok e

structure P2pSuite (S : Suite) where
  handshake : HandshakeSuite S
  /-- `SimpleKdf::derive_sha256` with salt `SibnaHandshake_v4`: HKDF to 32 bytes, with info
  `SibnaSimpleKdf_SHA256`. -/
  simpleKdf : S.Shared → S.Key
  codec : WireCodec

/-- What `stream.next()` gives, or that the timer ran out first. -/
inductive Arrival where
  | frame (bytes : Bytes)
  | failed (text : String)
  | closed
  | late

def Arrival.receive : Arrival → Except P2pError Bytes
  | .frame bytes => .ok bytes
  | .failed text => .error (.framing text)
  | .closed => .error .disconnected
  | .late => .error .timeout

/-- What one call draws and reads. A role sends two frames: the sends are what writing them
returns. -/
structure P2pEnv (S : Suite) where
  ephemeral : S.Scalar
  encapsRandom : Option Bytes32
  payloadNonce : Option (FixedBytes 12)
  okNonce : Option (FixedBytes 12)
  now : Option Nat
  clock : Clock
  firstSend : Except P2pError Unit
  secondSend : Except P2pError Unit

namespace P2pSuite
variable {S : Suite} (P : P2pSuite S)

def sendMsg (sent : Except P2pError Unit) (msg : P2pMsg) : Except P2pError Bytes := do
  let bytes ← (P.codec.encodeMsg msg).mapError .framing
  sent
  return bytes

def receiveMsg (arrival : Arrival) : Except P2pError P2pMsg := do
  let bytes ← arrival.receive
  (P.codec.decodeMsg bytes).mapError .invalidMessage

def unexpected {α : Type} (expected : String) (msg : P2pMsg) : Except P2pError α :=
  .error (.invalidMessage ("expected " ++ expected ++ ", got " ++ P.codec.debugMsg msg))

def deriveHandshakeKey (ourEphemeral : S.Scalar) (peerEphemeralPub : Bytes32) :
    Except P2pError (CryptoHandler S) :=
  (CryptoHandler.new (P.simpleKdf (S.diffieHellman ourEphemeral peerEphemeralPub))).mapError
    fun e => .crypto e.text

def buildTranscript (t : Transcript) : S.Key := P.handshake.blake3 t.bytes

variable {P}

lemma delivers (hC : P.codec.RoundTrip) (msg : P2pMsg) : ∃ frame,
    P.codec.encodeMsg msg = .ok frame ∧ P.sendMsg (.ok ()) msg = .ok frame ∧
    P.receiveMsg (.frame frame) = .ok msg := by
  obtain ⟨frame, hen, hde⟩ := hC.msg msg
  refine ⟨frame, hen, ?_, mapError_ok.mpr hde⟩
  simp only [sendMsg, hen, ok_bind]
  rfl

lemma deriveHandshakeKey_eq {a : S.Scalar} {key : Bytes32}
    (h : CryptoHandler.weak (S.keyBytes (P.simpleKdf (S.diffieHellman a key))) = false) :
    P.deriveHandshakeKey a key = .ok ⟨P.simpleKdf (S.diffieHellman a key)⟩ := by
  apply mapError_ok.mpr
  rw [CryptoHandler.new, if_neg (Bool.eq_false_iff.mp h)]

end P2pSuite

structure ResponderCall (S : Suite) where
  identity : IdentityKeyPair S
  bundle : PreKeyBundle
  spkSecret : S.Scalar
  opkSecret : Option S.Scalar
  pqSk : Option Bytes
  protocolConfig : Config
  handshakeCfg : P2pHandshakeConfig
  ourDeviceId : FixedBytes 16
  env : P2pEnv S

namespace P2pSuite
variable {S : Suite} (P : P2pSuite S)

def expectHello : P2pMsg → Except P2pError (Bytes32 × FixedBytes 16)
  | .hello version ephemeralPub initiatorDeviceId => do
    ensure (version == p2pProtocolVersion) (.handshake "version mismatch")
    (validatePublicKey ephemeralPub).mapError fun _ => .handshake "invalid initiator ephemeral"
    return (ephemeralPub, initiatorDeviceId)
  | other => P.unexpected "Hello" other

section
variable (call : ResponderCall S)

def stealthBundle : StealthBundle where
  responderEd25519Pub := call.identity.ed25519Public
  responderX25519Pub := call.identity.x25519Public
  responderDeviceId := call.ourDeviceId
  bundleBytes := call.bundle.toBytes

def sendBundle (handler : CryptoHandler S) : Except P2pError Bytes := do
  let payload ← (P.codec.encodeBundle (stealthBundle call)).mapError .framing
  let encryptedBundle ← (handler.encrypt call.env.payloadNonce payload bundleLabel).mapError
    fun _ => .crypto "failed to encrypt bundle"
  P.sendMsg call.env.firstSend (.bundle (S.publicKey call.env.ephemeral) encryptedBundle)

def expectEnvelope : P2pMsg → Except P2pError Bytes
  | .envelope encryptedEnvelope => .ok encryptedEnvelope
  | .error reason => .error (.handshake reason)
  | other => P.unexpected "Envelope" other

def receiveEnvelope (handler : CryptoHandler S) (arrival : Arrival) :
    Except P2pError StealthEnvelope := do
  let msg ← P.receiveMsg arrival
  let encryptedEnvelope ← P.expectEnvelope msg
  let payload ← (handler.decrypt encryptedEnvelope envelopeLabel).mapError
    fun _ => .handshake "failed to decrypt envelope"
  (P.codec.decodeEnvelope payload).mapError
    fun e => .handshake ("malformed stealth envelope: " ++ e)

section
variable (aliceEphemeralPub : Bytes32) (initiatorDeviceId : FixedBytes 16)
  (envelope : StealthEnvelope)

/-- The device id is the one of the hello, not the one of the envelope. -/
def responderArgs (ourIdentity : S.Scalar) : ResponderArgs S where
  ourIdentity := ourIdentity
  ourSignedPrekey := call.spkSecret
  ourOnetimePrekey := call.opkSecret
  peerIdentity := envelope.initiatorX25519Pub
  peerEphemeral := aliceEphemeralPub
  ourPqSk := call.pqSk
  peerPqCt := envelope.pqCiphertext
  ourDeviceId := call.ourDeviceId
  peerDeviceId := initiatorDeviceId
  transcriptHashExt := P.buildTranscript
    { initiatorIdentity := envelope.initiatorEd25519Pub
      initiatorEphemeral := aliceEphemeralPub
      responderIdentity := call.identity.ed25519Public
      responderSignedPrekey := call.bundle.signedPrekey
      responderOnetimePrekey := call.bundle.onetimePrekey
      initiatorDeviceId := initiatorDeviceId
      responderDeviceId := call.ourDeviceId }

def runX3dhResponder : Except P2pError (X3dhResult S) := do
  let ourIdentity ← okOr call.identity.x25519Secret
    (.crypto "identity X25519 secret not available")
  (x3dhResponderV3 P.handshake
    (P.responderArgs call aliceEphemeralPub initiatorDeviceId envelope ourIdentity)).mapError
    fun e => .handshake ("x3dh_responder: " ++ e.debug)

def sendOk (handler : CryptoHandler S) : Except P2pError Bytes := do
  let encryptedOk ← (handler.encrypt call.env.okNonce okSignal okLabel).mapError
    fun _ => .crypto "failed to encrypt ok signal"
  P.sendMsg call.env.secondSend (.ok encryptedOk)

def responderSession (x3dh : X3dhResult S) : Except P2pError (DoubleRatchetState S) :=
  (DoubleRatchetSession.fromSharedSecret (S.keyBytes x3dh.sharedSecret) call.spkSecret
    aliceEphemeralPub call.protocolConfig .responder call.env.clock).mapError
    fun e => .crypto ("ratchet init: " ++ e.debug)

end

/-- The arrivals are what the stream gives at first and after the first frame sent. -/
def responderHandshake (first second : Arrival) :
    Except P2pError (DoubleRatchetState S × Bytes32) := do
  let msg ← P.receiveMsg first
  let (aliceEphemeralPub, initiatorDeviceId) ← P.expectHello msg
  let handler ← P.deriveHandshakeKey call.env.ephemeral aliceEphemeralPub
  let _ ← P.sendBundle call handler
  let envelope ← P.receiveEnvelope handler second
  let x3dh ← P.runX3dhResponder call aliceEphemeralPub initiatorDeviceId envelope
  let _ ← P.sendOk call handler
  let session ← responderSession call aliceEphemeralPub x3dh
  return (session, envelope.initiatorEd25519Pub)

end

variable {P}

lemma expectHello_hello {key : Bytes32} (hk : key.val ∉ lowOrderPoints) (di : FixedBytes 16) :
    P.expectHello (.hello p2pProtocolVersion key di) = .ok (key, di) := by
  have hv : validatePublicKey key = .ok () := if_neg hk
  simp only [expectHello, ensure, hv, Except.mapError, ok_bind]
  rfl

end P2pSuite

end Sibna

namespace Sibna.Symbolic

open LittleEndian

def splitFixed (n : Nat) (bytes : Bytes) : Option (FixedBytes n × Bytes) :=
  (slice n bytes 0).map fun b => (b, bytes.drop n)

@[simp] lemma splitFixed_append {n : Nat} (b : FixedBytes n) (rest : Bytes) :
    splitFixed n (b.val ++ rest) = some (b, rest) := by
  have hl : 0 + n ≤ (b.val ++ rest).length := by simp
  have hta : ((b.val ++ rest).drop 0).take n = b.val := List.take_left' b.property
  rw [splitFixed, slice, dif_pos hl, Option.map_some]
  exact congrArg some (Prod.ext (Subtype.ext hta) (List.drop_left' b.property))

def encodeText (s : String) : Bytes := s.toList.flatMap fun c => toLe 4 c.toNat

def decodeChars : Bytes → List Char
  | a :: b :: c :: d :: rest => Char.ofNat (fromLe [a, b, c, d]) :: decodeChars rest
  | _ => []

lemma decodeChars_encode (cs : List Char) :
    decodeChars (cs.flatMap fun c => toLe 4 c.toNat) = cs := by
  induction cs with
  | nil => rfl
  | cons c cs ih =>
    have hlt := c.val.toNat_lt
    have hf : ∀ n rest, decodeChars (toLe 4 n ++ rest) =
        Char.ofNat (fromLe (toLe 4 n)) :: decodeChars rest := fun _ _ => rfl
    rw [List.flatMap_cons, hf, ih, fromLe_toLe hlt, Char.ofNat_toNat]

def encodeMsg : P2pMsg → Bytes
  | .hello version ephemeralPub deviceId => 0 :: version :: (ephemeralPub.val ++ deviceId.val)
  | .bundle ephemeralPub encrypted => 1 :: (ephemeralPub.val ++ encrypted)
  | .envelope encrypted => 2 :: encrypted
  | .ok encrypted => 3 :: encrypted
  | .error reason => 4 :: encodeText reason

def decodeMsg : Bytes → Option P2pMsg
  | 0 :: version :: rest => do
    let (ephemeralPub, rest) ← splitFixed 32 rest
    let (deviceId, _) ← splitFixed 16 rest
    return .hello version ephemeralPub deviceId
  | 1 :: rest => do
    let (ephemeralPub, encrypted) ← splitFixed 32 rest
    return .bundle ephemeralPub encrypted
  | 2 :: rest => some (.envelope rest)
  | 3 :: rest => some (.ok rest)
  | 4 :: rest => some (.error (String.ofList (decodeChars rest)))
  | _ => none

lemma decodeMsg_encodeMsg (m : P2pMsg) : decodeMsg (encodeMsg m) = some m := by
  cases m with
  | hello v ep di =>
    have hde : splitFixed 16 di.val = some (di, []) := by
      have h := splitFixed_append di []
      rwa [List.append_nil] at h
    simp [encodeMsg, decodeMsg, hde]
  | bundle ep en => simp [encodeMsg, decodeMsg]
  | envelope | ok => rfl
  | error r =>
    simp only [encodeMsg, decodeMsg, encodeText, decodeChars_encode, String.ofList_toList]

def encodeBundle (b : StealthBundle) : Bytes :=
  b.responderEd25519Pub.val ++ (b.responderX25519Pub.val ++
    (b.responderDeviceId.val ++ b.bundleBytes))

def decodeBundle (bytes : Bytes) : Option StealthBundle := do
  let (responderEd25519Pub, rest) ← splitFixed 32 bytes
  let (responderX25519Pub, rest) ← splitFixed 32 rest
  let (responderDeviceId, bundleBytes) ← splitFixed 16 rest
  return { responderEd25519Pub, responderX25519Pub, responderDeviceId, bundleBytes }

lemma decodeBundle_encodeBundle (b : StealthBundle) : decodeBundle (encodeBundle b) = some b := by
  simp [encodeBundle, decodeBundle]

def encodeKeyOption : Option Bytes32 → Bytes
  | none => [0]
  | some key => 1 :: key.val

def decodeKeyOption : Bytes → Option (Option Bytes32 × Bytes)
  | 0 :: rest => some (none, rest)
  | 1 :: rest => (splitFixed 32 rest).map fun (key, rest) => (some key, rest)
  | _ => none

def encodeRest : Option Bytes → Bytes
  | none => [0]
  | some bytes => 1 :: bytes

def decodeRest : Bytes → Option (Option Bytes)
  | 0 :: _ => some none
  | 1 :: rest => some (some rest)
  | _ => none

def encodeEnvelope (e : StealthEnvelope) : Bytes :=
  e.initiatorEd25519Pub.val ++ (e.initiatorX25519Pub.val ++ (e.initiatorDeviceId.val ++
    (e.signedPrekeyUsed.val ++ (encodeKeyOption e.onetimePrekeyUsed ++ encodeRest e.pqCiphertext))))

def decodeEnvelope (bytes : Bytes) : Option StealthEnvelope := do
  let (initiatorEd25519Pub, rest) ← splitFixed 32 bytes
  let (initiatorX25519Pub, rest) ← splitFixed 32 rest
  let (initiatorDeviceId, rest) ← splitFixed 16 rest
  let (signedPrekeyUsed, rest) ← splitFixed 32 rest
  let (onetimePrekeyUsed, rest) ← decodeKeyOption rest
  let pqCiphertext ← decodeRest rest
  return { initiatorEd25519Pub, initiatorX25519Pub, initiatorDeviceId, signedPrekeyUsed
           onetimePrekeyUsed, pqCiphertext }

lemma decodeKeyOption_append (o : Option Bytes32) (rest : Bytes) :
    decodeKeyOption (encodeKeyOption o ++ rest) = some (o, rest) := by
  cases o with
  | none => rfl
  | some key => simp [encodeKeyOption, decodeKeyOption]

lemma decodeRest_encodeRest (o : Option Bytes) : decodeRest (encodeRest o) = some o := by
  cases o with
  | none | some => rfl

lemma decodeEnvelope_encodeEnvelope (e : StealthEnvelope) :
    decodeEnvelope (encodeEnvelope e) = some e := by
  simp [encodeEnvelope, decodeEnvelope, decodeKeyOption_append, decodeRest_encodeRest]

def codec : WireCodec where
  encodeMsg := fun m => .ok (encodeMsg m)
  decodeMsg := fun bytes => okOr (decodeMsg bytes) "malformed message"
  encodeBundle := fun b => .ok (encodeBundle b)
  decodeBundle := fun bytes => okOr (decodeBundle bytes) "malformed bundle"
  encodeEnvelope := fun e => .ok (encodeEnvelope e)
  decodeEnvelope := fun bytes => okOr (decodeEnvelope bytes) "malformed envelope"
  debugMsg := fun _ => "a message"

lemma codec_roundTrip : codec.RoundTrip where
  msg := fun m => ⟨_, rfl, okOr_ok.mpr (decodeMsg_encodeMsg m)⟩
  bundle := fun b => ⟨_, rfl, okOr_ok.mpr (decodeBundle_encodeBundle b)⟩
  envelope := fun e => ⟨_, rfl, okOr_ok.mpr (decodeEnvelope_encodeEnvelope e)⟩

def simpleKdf (s : Shared) : Key := .root (.root (.atom .zero) .lowOrder) s

def p2p (messages : List Bytes) : P2pSuite suite where
  handshake := handshake messages
  simpleKdf := simpleKdf
  codec := codec

def sealUnder (a b : UInt64) (label payload : Bytes) : Bytes :=
  nonce.val ++ aeadEncrypt (simpleKdf (diffieHellman a (publicKey b))) nonce.val label payload

def signatureOf (x : UInt64) (place : Nat) : FixedBytes 64 :=
  ⟨signature (publicKey x).val place, by simp [signature]⟩

def bundle (x y : UInt64) : PreKeyBundle where
  identityKey := publicKey x
  signedPrekey := publicKey y
  signature := signatureOf x 0
  onetimePrekey := none
  bundleId := device 5
  timestamp := 1000
  expiration := 2593000
  deviceId := 0
  rootIdentityKey := publicKey x
  deviceSignature := signatureOf x 1
  bundleSignature := signatureOf x 3
  pqSignedPrekey := some (kem.keyGen seed).1.val
  pqSignedPrekeySignature := some (signatureOf x 2)

def bundleMessages (x y : UInt64) : List Bytes :=
  [(publicKey y).val, PreKeyBundle.devicePayload (publicKey x) 0, (kem.keyGen seed).1.val,
    (bundle x y).signingBytes]

def p2pEnv (ephemeral : UInt64) (clock : Clock) : P2pEnv suite :=
  ⟨scalar ephemeral, some secret, some nonce, some nonce, some 2000, clock, .ok (), .ok ()⟩

end Sibna.Symbolic
