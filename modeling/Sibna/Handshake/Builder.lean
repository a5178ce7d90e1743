import Sibna.KeyStore.Runs
import Sibna.Storage

/-!
# Agreement, and the handshake builder

Two X3DH runs that belong together end with one secret, which belongs to one transcript. Then
`HandshakeBuilder` and `X3dhHandshake` of `handshake/builder.rs`.
-/

namespace Sibna

open X3dhKdf

variable {S : Suite} {H : HandshakeSuite S}

namespace X3dhParties

def ciphertext (H : HandshakeSuite S) (p : X3dhParties S) (m : Bytes32) : Option Bytes :=
  p.pqSeed.map fun d => (H.kem.encaps (H.kem.keyGen d).1 m).2.val

section
variable (hK : H.kem.Correct) (hN : H.NonzeroKdf) (p : X3dhParties S) (m : Bytes32)
include hK hN p m

lemma initiator_returns {ra : Option Bytes32} (hra : p.pqSeed ≠ none → ra = some m) : ∃ r,
    x3dhInitiatorV3 H (p.initiatorArgs H) ra = .ok r ∧ r.pqCiphertext = p.ciphertext H m := by
  cases hse : p.pqSeed with
  | none =>
    have hpk : (p.initiatorArgs H).peerPqPk = none := by simp [initiatorArgs, hse]
    simp only [x3dhInitiatorV3, hpk]
    exact ⟨_, validated_derived hN _ _ _ _ (by intro ct h; cases h), by simp [ciphertext, hse]⟩
  | some d =>
    have hpk : (p.initiatorArgs H).peerPqPk = some (H.kem.keyGen d).1.val := by
      simp [initiatorArgs, hse]
    have hm := hra (by simp [hse])
    simp only [x3dhInitiatorV3, hpk, hm, hK.tryEncaps d m]
    exact ⟨_, validated_derived hN _ _ _ _ (by intro ct h; cases h; simp),
      by simp [ciphertext, hse]⟩

lemma responder_returns :
    ∃ r, x3dhResponderV3 H (p.responderArgs H (p.ciphertext H m)) = .ok r := by
  cases hse : p.pqSeed with
  | none =>
    obtain ⟨r, hr, -⟩ := x3dhResponderV3_classical hN
      (show (p.responderArgs H (p.ciphertext H m)).peerPqCt = none by
        simp [responderArgs, ciphertext, hse])
    exact ⟨r, hr⟩
  | some d =>
    have hsk : (p.responderArgs H (p.ciphertext H m)).ourPqSk = some (H.kem.keyGen d).2.val := by
      simp [responderArgs, hse]
    have hct : (p.responderArgs H (p.ciphertext H m)).peerPqCt =
        some (H.kem.encaps (H.kem.keyGen d).1 m).2.val := by
      simp [responderArgs, ciphertext, hse]
    simp only [x3dhResponderV3, hsk, hct, hK.tryDecaps d m]
    exact ⟨_, validated_derived hN _ _ _ _ (by intro ct h; cases h)⟩

end

lemma sharedSecret_agrees (hco : S.CommutativeDh) (hK : H.kem.Correct) (p : X3dhParties S)
    {ra : Option Bytes32} {r r' : X3dhResult S}
    (hi : x3dhInitiatorV3 H (p.initiatorArgs H) ra = .ok r)
    (hr : x3dhResponderV3 H (p.responderArgs H r.pqCiphertext) = .ok r') :
    r.sharedSecret = r'.sharedSecret := by
  have hdh := p.dhResults_responderArgs (H := H) hco r.pqCiphertext
  have ht := p.transcript_responderArgs (H := H) r.pqCiphertext
  rcases x3dhInitiatorV3_ok hi with ⟨hpk, hct, hs⟩ | ⟨pk, ss, ct, hpk, hen, hct, hs⟩
  · -- no ciphertext was sent, so the responder runs the classical mode as well
    rcases x3dhResponderV3_ok hr with ⟨-, hs'⟩ | ⟨sk, ct, ss, -, hc', -, -⟩
    · rw [hs, hs', hdh, ht]
      rfl
    · rw [show (p.responderArgs H r.pqCiphertext).peerPqCt = r.pqCiphertext from rfl, hct] at hc'
      cases hc'
  · obtain ⟨d, hse, rfl⟩ := Option.map_eq_some_iff.mp hpk
    obtain ⟨m, -, rfl, rfl⟩ := MlKem768.tryEncaps_ok hen
    have hsk : (p.responderArgs H r.pqCiphertext).ourPqSk = some (H.kem.keyGen d).2.val := by
      simp [responderArgs, hse]
    rcases x3dhResponderV3_ok hr with ⟨hn, -⟩ | ⟨sk, ct, ss, hsk', hc', hde, hs'⟩
    · rcases hn with hn | hn
      · simp_all
      · rw [show (p.responderArgs H r.pqCiphertext).peerPqCt = r.pqCiphertext from rfl, hct] at hn
        cases hn
    · cases hsk.symm.trans hsk'
      cases hct.symm.trans hc'
      rw [hK.tryDecaps d m] at hde
      cases hde
      rw [hs, hs', hdh, ht]
      rfl

end X3dhParties

/-- Agreement: the responder's run, on the initiator's public keys and ciphertext, ends with the
initiator's secret. -/
theorem x3dh_agreement (hcomm : S.CommutativeDh) (hK : H.kem.Correct)
    (initiatorIdentity initiatorEphemeral responderIdentity responderPrekey : S.Scalar)
    (responderOnetime : Option S.Scalar) (pqSeed : Option (FixedBytes 64))
    (initiatorDevice responderDevice : FixedBytes 16) (ext : S.Key) (random : Option Bytes32)
    {r r' : X3dhResult S}
    (hi : x3dhInitiatorV3 H {
      ourIdentity := initiatorIdentity
      ourEphemeral := initiatorEphemeral
      peerIdentity := S.publicKey responderIdentity
      peerSignedPrekey := S.publicKey responderPrekey
      peerOnetimePrekey := responderOnetime.map S.publicKey
      peerPqPk := pqSeed.map fun d => (H.kem.keyGen d).1.val
      ourDeviceId := initiatorDevice
      peerDeviceId := responderDevice
      transcriptHashExt := ext } random = .ok r)
    (hr : x3dhResponderV3 H {
      ourIdentity := responderIdentity
      ourSignedPrekey := responderPrekey
      ourOnetimePrekey := responderOnetime
      peerIdentity := S.publicKey initiatorIdentity
      peerEphemeral := S.publicKey initiatorEphemeral
      ourPqSk := pqSeed.map fun d => (H.kem.keyGen d).2.val
      peerPqCt := r.pqCiphertext
      ourDeviceId := responderDevice
      peerDeviceId := initiatorDevice
      transcriptHashExt := ext } = .ok r') :
    r.sharedSecret = r'.sharedSecret :=
  X3dhParties.sharedSecret_agrees hcomm hK ⟨initiatorIdentity, initiatorEphemeral,
    responderIdentity, responderPrekey, responderOnetime, pqSeed, initiatorDevice,
    responderDevice, ext⟩ hi hr

open Symbolic

def parties : X3dhParties suite where
  initiatorIdentity := scalar 1
  initiatorEphemeral := scalar 2
  responderIdentity := scalar 3
  responderSignedPrekey := scalar 4
  responderOnetimePrekey := some (scalar 5)
  pqSeed := some seed
  initiatorDeviceId := device 1
  responderDeviceId := device 2
  transcriptHashExt := suite.zeroKey

theorem x3dh_agreement_hybrid : ∃ r r',
    x3dhInitiatorV3 (handshake []) (parties.initiatorArgs (handshake [])) (some secret) = .ok r ∧
    x3dhResponderV3 (handshake []) (parties.responderArgs (handshake []) r.pqCiphertext) = .ok r' ∧
    r.sharedSecret = r'.sharedSecret := by
  obtain ⟨r, hr, hct⟩ := parties.initiator_returns kem_correct (nonzeroKdf []) secret (fun _ => rfl)
  obtain ⟨r', hr'⟩ := parties.responder_returns kem_correct (nonzeroKdf []) secret
  rw [← hct] at hr'
  exact ⟨r, r', hr, hr', x3dh_agreement commutativeDh kem_correct _ _ _ _ _ _ _ _ _ _ hr hr'⟩

/-- Binding: equal secrets come from equal public inputs, in whichever roles they were derived. -/
theorem x3dh_binding (hH : H.InjectiveKdf) {run run' : X3dhRun S} {r r' : X3dhResult S}
    (h : run.exec H = .ok r) (h' : run'.exec H = .ok r') (heq : r.sharedSecret = r'.sharedSecret) :
    run.transcript = run'.transcript ∧ run.transcriptHashExt = run'.transcriptHashExt ∧
    run.hybrid = run'.hybrid := by
  obtain ⟨ikm, hs⟩ := X3dhRun.sharedSecret_eq h
  obtain ⟨ikm', hs'⟩ := X3dhRun.sharedSecret_eq h'
  rw [hs, hs'] at heq
  obtain ⟨hsalt, -, hinfo⟩ := hH.hkdfX3dh heq
  obtain ⟨hext, ht⟩ := hH.combinedTranscript hsalt
  refine ⟨ht, hext, ?_⟩
  cases hm : run.hybrid <;> cases hm' : run'.hybrid
  · rfl
  · simp only [hm, hm', Bool.false_eq_true, if_false, if_true] at hinfo
    exact (info_ne_pqInfo hinfo).elim
  · simp only [hm, hm', Bool.false_eq_true, if_false, if_true] at hinfo
    exact (info_ne_pqInfo hinfo.symm).elim
  · rfl

theorem x3dh_binding_across_roles :
    let run : X3dhRun suite :=
      .initiator (parties.initiatorArgs (handshake [])) (some secret)
    let run' : X3dhRun suite := .responder (parties.responderArgs
      (handshake []) (parties.ciphertext (handshake []) secret))
    ∃ r r', run.exec (handshake []) = .ok r ∧ run'.exec (handshake []) = .ok r' ∧
      r.sharedSecret = r'.sharedSecret ∧ run.transcript = run'.transcript ∧
      run.transcriptHashExt = run'.transcriptHashExt ∧ run.hybrid = run'.hybrid := by
  intro run run'
  obtain ⟨r, hr, -⟩ := parties.initiator_returns kem_correct (nonzeroKdf []) secret (fun _ => rfl)
  obtain ⟨r', hr'⟩ := parties.responder_returns kem_correct (nonzeroKdf []) secret
  have hsecrets : (run.exec (handshake [])).map X3dhResult.sharedSecret =
      (run'.exec (handshake [])).map X3dhResult.sharedSecret := by decide +kernel
  have heq : r.sharedSecret = r'.sharedSecret := by
    rw [show run.exec (handshake []) = .ok r from hr,
      show run'.exec (handshake []) = .ok r' from hr'] at hsecrets
    exact Except.ok.inj hsecrets
  exact ⟨r, r', hr, hr', heq, x3dh_binding (injectiveKdf []) hr hr' heq⟩

structure HandshakeOutput (S : Suite) where
  sharedSecret : S.Key
  localEphemeralKey : S.Scalar
  localEphemeralPublic : Bytes32
  pqCiphertext : Option Bytes
  associatedData : Bytes
  timestamp : Nat

namespace HandshakeOutput

def new (sharedSecret : S.Key) (localEphemeralKey : S.Scalar) (localEphemeralPublic : Bytes32)
    (clock : Option Nat) : HandshakeOutput S where
  sharedSecret := sharedSecret
  localEphemeralKey := localEphemeralKey
  localEphemeralPublic := localEphemeralPublic
  pqCiphertext := none
  associatedData := []
  timestamp := creationTime clock

def validate (o : HandshakeOutput S) : Except ProtocolError Unit := do
  ensure (!isZero (S.keyBytes o.sharedSecret).val) .invalidArgument
  ensure (S.publicKey o.localEphemeralKey == o.localEphemeralPublic) .invalidArgument

lemma validate_ok {o : HandshakeOutput S} : o.validate = .ok () ↔
    isZero (S.keyBytes o.sharedSecret).val = false ∧
    S.publicKey o.localEphemeralKey = o.localEphemeralPublic := by
  unfold validate
  simp only [bind_ok, ensure_ok, Bool.not_eq_true', beq_iff_eq, exists_const]

end HandshakeOutput

def ContextConfig.default : ContextConfig where
  maxSkippedMessages := 2000
  enableHeaderEncryption := false
  enableRateLimiting := true
  requireSafetyNumbers := true

/-- `random` says whether a generator was handed over. The associated data that can be set on
the builder is never read. -/
structure HandshakeBuilder (S : Suite) where
  config : ContextConfig
  keystore : Option (KeyStore S)
  random : Bool
  role : Option HandshakeRole
  peerIdentityKey : Option Bytes32
  peerSignedPrekey : Option Bytes32
  peerOnetimePrekey : Option Bytes32
  peerEphemeralKey : Option Bytes32
  ourOnetimePrekeyId : Option Nat
  peerPqPk : Option Bytes
  ourPqSk : Option Bytes
  peerPqCt : Option Bytes
  prologue : Option Bytes
  ourDeviceId : FixedBytes 16
  peerDeviceId : FixedBytes 16

structure X3dhHandshake (S : Suite) where
  config : ContextConfig
  keystore : KeyStore S
  role : HandshakeRole
  peerIdentityKey : Option Bytes32
  peerSignedPrekey : Option Bytes32
  peerOnetimePrekey : Option Bytes32
  peerEphemeralKey : Option Bytes32
  ourOnetimePrekeyId : Option Nat
  peerPqPk : Option Bytes
  ourPqSk : Option Bytes
  peerPqCt : Option Bytes
  prologue : Option Bytes
  ourDeviceId : FixedBytes 16
  peerDeviceId : FixedBytes 16

namespace HandshakeBuilder

def new : HandshakeBuilder S where
  config := ContextConfig.default
  keystore := none
  random := false
  role := none
  peerIdentityKey := none
  peerSignedPrekey := none
  peerOnetimePrekey := none
  peerEphemeralKey := none
  ourOnetimePrekeyId := none
  peerPqPk := none
  ourPqSk := none
  peerPqCt := none
  prologue := none
  ourDeviceId := ⟨List.replicate 16 0, by simp⟩
  peerDeviceId := ⟨List.replicate 16 0, by simp⟩

variable (b : HandshakeBuilder S)

def withConfig (config : ContextConfig) : HandshakeBuilder S := { b with config }

def withKeystore (keystore : KeyStore S) : HandshakeBuilder S :=
  { b with keystore := some keystore }

def withRandom : HandshakeBuilder S := { b with random := true }

def withRole (role : HandshakeRole) : HandshakeBuilder S := { b with role := some role }

def withChecked (n : Nat) (bytes : Bytes) (set : FixedBytes n → HandshakeBuilder S) :
    Except ProtocolError (HandshakeBuilder S) :=
  (tryInto n bytes .invalidKeyLength).map set

def withPeerIdentityKey (key : Bytes) : Except ProtocolError (HandshakeBuilder S) :=
  withChecked 32 key fun k => { b with peerIdentityKey := some k }

def withPeerSignedPrekey (key : Bytes) : Except ProtocolError (HandshakeBuilder S) :=
  withChecked 32 key fun k => { b with peerSignedPrekey := some k }

def withPeerOnetimePrekey (key : Bytes) : Except ProtocolError (HandshakeBuilder S) :=
  withChecked 32 key fun k => { b with peerOnetimePrekey := some k }

def withPeerEphemeralKey (key : Bytes) : Except ProtocolError (HandshakeBuilder S) :=
  withChecked 32 key fun k => { b with peerEphemeralKey := some k }

def withOurOnetimePrekeyId (id : Nat) : HandshakeBuilder S :=
  { b with ourOnetimePrekeyId := some id }

def withPeerPqPk (pk : Bytes) : Except ProtocolError (HandshakeBuilder S) :=
  withChecked 1184 pk fun k => { b with peerPqPk := some k.val }

def withOurPqSk (sk : Bytes) : Except ProtocolError (HandshakeBuilder S) :=
  withChecked 2400 sk fun k => { b with ourPqSk := some k.val }

def withPeerPqCt (ct : Bytes) : Except ProtocolError (HandshakeBuilder S) :=
  withChecked 1088 ct fun k => { b with peerPqCt := some k.val }

def withPrologue (prologue : Bytes) : HandshakeBuilder S := { b with prologue := some prologue }

def withOurDeviceId (id : FixedBytes 16) : HandshakeBuilder S := { b with ourDeviceId := id }

def withPeerDeviceId (id : FixedBytes 16) : HandshakeBuilder S := { b with peerDeviceId := id }

/-- `if let Some(x) = arg { builder = builder.with(x)?; }`. -/
def whenSome {α : Type} (arg : Option α)
    (set : HandshakeBuilder S → α → Except ProtocolError (HandshakeBuilder S)) :
    Except ProtocolError (HandshakeBuilder S) :=
  match arg with
  | none => .ok b
  | some a => set b a

/-- `systemRandom` is whether `SecureRandom::new` succeeds, if it comes to that. -/
def build (systemRandom : Bool) : Except ProtocolError (X3dhHandshake S) := do
  let role ← okOr b.role .invalidState
  let keystore ← okOr b.keystore .invalidState
  ensure (b.random || systemRandom) .invalidState
  return { b with keystore, role }

end HandshakeBuilder

/-- What `perform` takes from the random generators and the clock. -/
structure HandshakeEnv (S : Suite) where
  ephemeral : S.Scalar
  encapsRandom : Option Bytes32
  clock : Option Nat

namespace X3dhHandshake

variable (H : HandshakeSuite S) (env : HandshakeEnv S) (hs : X3dhHandshake S)

/-- Our key comes first, in either role. -/
def buildAssociatedData (ourKey peerKey : Bytes32) : Bytes :=
  ourKey.val ++ peerKey.val ++ hs.prologue.getD []

def performInitiator : Except ProtocolError (HandshakeOutput S) := do
  let ourIdentity ← hs.keystore.getIdentityKeypair
  let peerIk ← okOr hs.peerIdentityKey .invalidState
  let peerSpk ← okOr hs.peerSignedPrekey .invalidState
  ensure (!(hs.config.requireSafetyNumbers && hs.peerPqPk.isNone)) .handshakeFailed
  let secret ← okOr ourIdentity.x25519Secret .keyNotFound
  let x3dhResult ← x3dhInitiatorV3 H { hs with
    ourIdentity := secret
    ourEphemeral := env.ephemeral
    peerIdentity := peerIk
    peerSignedPrekey := peerSpk
    transcriptHashExt := S.zeroKey } env.encapsRandom
  let output := { HandshakeOutput.new x3dhResult.sharedSecret env.ephemeral
      (S.publicKey env.ephemeral) env.clock with
    associatedData := hs.buildAssociatedData ourIdentity.x25519Public peerIk
    pqCiphertext := x3dhResult.pqCiphertext }
  output.validate
  return output

def ourOnetimePrekey : Except ProtocolError (Option S.Scalar) :=
  match hs.ourOnetimePrekeyId with
  | none => .ok none
  | some id => (hs.keystore.getOnetimePrekeyById id).map some

/-- The responder's fresh key is generated after X3DH. Its scalar is moved out with
`mem::replace` in the second argument of `HandshakeOutput::new`, and the third is evaluated
afterwards: the public key is that of the zero scalar left in its place. -/
def performResponder : Except ProtocolError (HandshakeOutput S) := do
  let ourIdentity ← hs.keystore.getIdentityKeypair
  let ourSignedPrekey ← hs.keystore.getSignedPrekey
  let peerIk ← okOr hs.peerIdentityKey .invalidState
  let peerEk ← okOr hs.peerEphemeralKey .invalidState
  ensure (!(hs.config.requireSafetyNumbers && hs.ourPqSk.isNone)) .handshakeFailed
  let ourOpk ← hs.ourOnetimePrekey
  let identitySecret ← okOr ourIdentity.x25519Secret .keyNotFound
  let prekeySecret ← okOr ourSignedPrekey.secret .keyNotFound
  let x3dhResult ← x3dhResponderV3 H { hs with
    ourIdentity := identitySecret
    ourSignedPrekey := prekeySecret
    ourOnetimePrekey := ourOpk
    peerIdentity := peerIk
    peerEphemeral := peerEk
    transcriptHashExt := S.zeroKey }
  let moved := env.ephemeral
  let ephemeral := H.zeroScalar
  let output := { HandshakeOutput.new x3dhResult.sharedSecret moved
      (S.publicKey ephemeral) env.clock with
    associatedData := hs.buildAssociatedData ourIdentity.x25519Public peerIk }
  output.validate
  return output

def perform : Except ProtocolError (HandshakeOutput S) :=
  match hs.role with
  | .initiator => hs.performInitiator H env
  | .responder => hs.performResponder H env

end X3dhHandshake

end Sibna
