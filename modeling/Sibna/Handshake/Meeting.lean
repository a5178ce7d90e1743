import Sibna.Handshake.Builder

/-!
# Two builders that belong together

An initiator and a responder configured for each other from their key stores.
-/

namespace Sibna

variable {S : Suite}

/-- Both key stores and what the two sides agree on. With `postQuantum` the initiator is given
the ML-KEM key of the responder's signed prekey. -/
structure Meeting (S : Suite) where
  initiator : KeyStore S
  responder : KeyStore S
  initiatorConfig : ContextConfig
  responderConfig : ContextConfig
  onetimeId : Option Nat
  postQuantum : Bool
  initiatorDeviceId : FixedBytes 16
  responderDeviceId : FixedBytes 16
  prologue : Option Bytes

namespace Meeting

structure Keys (m : Meeting S) where
  initiatorIdentity : IdentityKeyPair S
  initiatorScalar : S.Scalar
  responderIdentity : IdentityKeyPair S
  responderScalar : S.Scalar
  signedPrekey : SignedPreKey S
  signedPrekeyScalar : S.Scalar
  initiator_identity : m.initiator.identity = some initiatorIdentity
  initiator_secret : initiatorIdentity.x25519Secret = some initiatorScalar
  responder_identity : m.responder.identity = some responderIdentity
  responder_secret : responderIdentity.x25519Secret = some responderScalar
  signedPrekey_eq : m.responder.signedPrekey = some signedPrekey
  signedPrekey_secret : signedPrekey.secret = some signedPrekeyScalar
  onetime : ∀ id, m.onetimeId = some id →
    ∃ k x, m.responder.onetimePrekeys.lookup id = some k ∧ k.secret = some x

def onetimePublic (m : Meeting S) : Option Bytes32 :=
  m.onetimeId.bind fun id => (m.responder.onetimePrekeys.lookup id).map OneTimePreKey.publicKey

def onetimeScalar (m : Meeting S) : Option S.Scalar :=
  m.onetimeId.bind fun id => (m.responder.onetimePrekeys.lookup id).bind OneTimePreKey.secret

def pqPublic {m : Meeting S} (k : m.Keys) : Option Bytes :=
  if m.postQuantum then k.signedPrekey.pqPublic else none

def pqSecret {m : Meeting S} (k : m.Keys) : Option Bytes :=
  if m.postQuantum then k.signedPrekey.pqSecret else none

open HandshakeBuilder

def initiatorHandshake {m : Meeting S} (k : m.Keys) (systemRandom : Bool) :
    Except ProtocolError (X3dhHandshake S) := do
  let b : HandshakeBuilder S := new.withConfig m.initiatorConfig
    |>.withKeystore m.initiator |>.withRandom |>.withRole .initiator
    |>.withOurDeviceId m.initiatorDeviceId |>.withPeerDeviceId m.responderDeviceId
  let b ← b.withPeerIdentityKey k.responderIdentity.x25519Public.val
  let b ← b.withPeerSignedPrekey k.signedPrekey.publicKey.val
  let b ← b.whenSome m.onetimePublic fun b opk => b.withPeerOnetimePrekey opk.val
  let b ← b.whenSome (pqPublic k) withPeerPqPk
  let b ← b.whenSome m.prologue fun b p => .ok (b.withPrologue p)
  b.build systemRandom

def responderHandshake {m : Meeting S} (k : m.Keys) (sent : HandshakeOutput S)
    (systemRandom : Bool) : Except ProtocolError (X3dhHandshake S) := do
  let b : HandshakeBuilder S := new.withConfig m.responderConfig
    |>.withKeystore m.responder |>.withRandom |>.withRole .responder
    |>.withOurDeviceId m.responderDeviceId |>.withPeerDeviceId m.initiatorDeviceId
  let b ← b.withPeerIdentityKey k.initiatorIdentity.x25519Public.val
  let b ← b.withPeerEphemeralKey sent.localEphemeralPublic.val
  let b ← b.whenSome m.onetimeId fun b id => .ok (b.withOurOnetimePrekeyId id)
  let b ← b.whenSome (pqSecret k) withOurPqSk
  let b ← b.whenSome sent.pqCiphertext withPeerPqCt
  let b ← b.whenSome m.prologue fun b p => .ok (b.withPrologue p)
  b.build systemRandom

def Agrees (H : HandshakeSuite S) {m : Meeting S} (k : m.Keys) (systemRandom : Bool)
    (initiatorEnv responderEnv : HandshakeEnv S) : Prop :=
  ∃ hs out hs' out', initiatorHandshake k systemRandom = .ok hs ∧
    hs.perform H initiatorEnv = .ok out ∧
    responderHandshake k out systemRandom = .ok hs' ∧ hs'.perform H responderEnv = .ok out' ∧
    out.sharedSecret = out'.sharedSecret ∧ out.associatedData = out'.associatedData

variable {H : HandshakeSuite S} {m : Meeting S} {k : m.Keys}

def builtInitiator (k : m.Keys) : X3dhHandshake S where
  config := m.initiatorConfig
  keystore := m.initiator
  role := .initiator
  peerIdentityKey := some k.responderIdentity.x25519Public
  peerSignedPrekey := some k.signedPrekey.publicKey
  peerOnetimePrekey := m.onetimePublic
  peerEphemeralKey := none
  ourOnetimePrekeyId := none
  peerPqPk := pqPublic k
  ourPqSk := none
  peerPqCt := none
  prologue := m.prologue
  ourDeviceId := m.initiatorDeviceId
  peerDeviceId := m.responderDeviceId

def builtResponder (k : m.Keys) (sent : HandshakeOutput S) : X3dhHandshake S where
  config := m.responderConfig
  keystore := m.responder
  role := .responder
  peerIdentityKey := some k.initiatorIdentity.x25519Public
  peerSignedPrekey := none
  peerOnetimePrekey := none
  peerEphemeralKey := some sent.localEphemeralPublic
  ourOnetimePrekeyId := m.onetimeId
  peerPqPk := none
  ourPqSk := pqSecret k
  peerPqCt := sent.pqCiphertext
  prologue := m.prologue
  ourDeviceId := m.responderDeviceId
  peerDeviceId := m.initiatorDeviceId

lemma pq_keys (hB : m.responder.Reachable H) (k : m.Keys) : ∃ seed : Option (FixedBytes 64),
    (seed ≠ none ↔ m.postQuantum = true) ∧ pqPublic k = seed.map (fun d => (H.kem.keyGen d).1.val) ∧
    pqSecret k = seed.map fun d => (H.kem.keyGen d).2.val := by
  obtain ⟨d, hpk, hsk⟩ := (hB.wellFormed.signedPrekey k.signedPrekey_eq).pq
  cases hpq : m.postQuantum with
  | false => exact ⟨none, by simp, by simp [pqPublic, hpq], by simp [pqSecret, hpq]⟩
  | true => exact ⟨some d, by simp, by simp [pqPublic, hpq, hpk], by simp [pqSecret, hpq, hsk]⟩

lemma initiatorHandshake_eq (hB : m.responder.Reachable H) (sr : Bool) :
    initiatorHandshake k sr = .ok (builtInitiator k) := by
  obtain ⟨seed, -, hpk, -⟩ := pq_keys hB k
  simp only [initiatorHandshake, builtInitiator, hpk]
  cases m.onetimePublic <;> cases seed <;> cases m.prologue <;>
    simp [withPeerIdentityKey, withPeerSignedPrekey, withPeerOnetimePrekey, withPeerPqPk,
      withChecked, whenSome, Except.map, bind, Except.bind, build, okOr, ensure, withRandom,
      withRole, withKeystore, withConfig, withOurDeviceId, withPeerDeviceId, withPrologue, new,
      pure, Except.pure]

lemma responderHandshake_eq (hB : m.responder.Reachable H) {sent : HandshakeOutput S}
    (hct : ∀ ct, sent.pqCiphertext = some ct → ct.length = 1088) (sr : Bool) :
    responderHandshake k sent sr = .ok (builtResponder k sent) := by
  obtain ⟨seed, -, -, hsk⟩ := pq_keys hB k
  have hci : sent.pqCiphertext = none ∨ ∃ ct : FixedBytes 1088,
      sent.pqCiphertext = some ct.val := by
    cases h : sent.pqCiphertext with
    | none => exact .inl rfl
    | some ct => exact .inr ⟨⟨ct, hct ct h⟩, rfl⟩
  simp only [responderHandshake, builtResponder, hsk]
  rcases hci with hci | ⟨ct, hci⟩ <;> cases m.onetimeId <;> cases seed <;>
    cases m.prologue <;>
    simp [withPeerIdentityKey, withPeerEphemeralKey, withOurOnetimePrekeyId, withOurPqSk,
      withPeerPqCt, withChecked, whenSome, Except.map, bind, Except.bind, build, okOr, ensure,
      withRandom, withRole, withKeystore, withConfig, withOurDeviceId, withPeerDeviceId,
      withPrologue, new, pure, Except.pure, hci]

def parties (k : m.Keys) (seed : Option (FixedBytes 64)) (ephemeral : S.Scalar) :
    X3dhParties S where
  __ := m
  initiatorIdentity := k.initiatorScalar
  initiatorEphemeral := ephemeral
  responderIdentity := k.responderScalar
  responderSignedPrekey := k.signedPrekeyScalar
  responderOnetimePrekey := m.onetimeScalar
  pqSeed := seed
  transcriptHashExt := S.zeroKey

def initiatorOutput (k : m.Keys) (env : HandshakeEnv S) (r : X3dhResult S) : HandshakeOutput S :=
  { HandshakeOutput.new r.sharedSecret env.ephemeral (S.publicKey env.ephemeral) env.clock with
    associatedData := k.initiatorIdentity.x25519Public.val ++
      k.responderIdentity.x25519Public.val ++ m.prologue.getD []
    pqCiphertext := r.pqCiphertext }

def responderOutput (H : HandshakeSuite S) (k : m.Keys) (env : HandshakeEnv S)
    (r : X3dhResult S) : HandshakeOutput S :=
  { HandshakeOutput.new r.sharedSecret env.ephemeral (S.publicKey H.zeroScalar) env.clock with
    associatedData := k.responderIdentity.x25519Public.val ++
      k.initiatorIdentity.x25519Public.val ++ m.prologue.getD [] }

lemma initiatorPublic (hA : m.initiator.Reachable H) (k : m.Keys) :
    k.initiatorIdentity.x25519Public = S.publicKey k.initiatorScalar :=
  IdentityKeyPair.isValid_x25519 (hA.wellFormed.identity k.initiator_identity) k.initiator_secret

lemma responderPublic (hB : m.responder.Reachable H) (k : m.Keys) :
    k.responderIdentity.x25519Public = S.publicKey k.responderScalar :=
  IdentityKeyPair.isValid_x25519 (hB.wellFormed.identity k.responder_identity) k.responder_secret

lemma signedPrekeyPublic (hB : m.responder.Reachable H) (k : m.Keys) :
    k.signedPrekey.publicKey = S.publicKey k.signedPrekeyScalar :=
  (hB.wellFormed.signedPrekey k.signedPrekey_eq).publicKey k.signedPrekey_secret

lemma onetimePublic_eq (hB : m.responder.Reachable H) (k : m.Keys) :
    m.onetimePublic = m.onetimeScalar.map S.publicKey := by
  unfold onetimePublic onetimeScalar
  cases hid : m.onetimeId with
  | none => rfl
  | some id =>
    obtain ⟨p, x, hl, hx⟩ := k.onetime id hid
    simp only [Option.bind_some, hl, Option.map_some, hx]
    rw [hB.wellFormed.onetimePrekeys hl x hx]

variable {seed : Option (FixedBytes 64)}

lemma perform_builtInitiator (hB : m.responder.Reachable H)
    (hs : pqPublic k = seed.map fun d => (H.kem.keyGen d).1.val) (env : HandshakeEnv S) :
    (builtInitiator k).perform H env = (do
      ensure (!(m.initiatorConfig.requireSafetyNumbers && seed.isNone)) .handshakeFailed
      let r ← x3dhInitiatorV3 H ((parties k seed env.ephemeral).initiatorArgs H) env.encapsRandom
      (initiatorOutput k env r).validate
      return initiatorOutput k env r) := by
  simp only [X3dhHandshake.perform, builtInitiator, X3dhHandshake.performInitiator,
    KeyStore.getIdentityKeypair, k.initiator_identity, ok_bind, k.initiator_secret, hs,
    Option.isNone_map, onetimePublic_eq hB k, responderPublic hB k, signedPrekeyPublic hB k,
    initiatorOutput, X3dhHandshake.buildAssociatedData]
  rfl

lemma perform_builtResponder (hA : m.initiator.Reachable H)
    (hs : pqSecret k = seed.map fun d => (H.kem.keyGen d).2.val) (env env' : HandshakeEnv S)
    (r : X3dhResult S) :
    (builtResponder k (initiatorOutput k env r)).perform H env' = (do
      ensure (!(m.responderConfig.requireSafetyNumbers && seed.isNone)) .handshakeFailed
      let r' ← x3dhResponderV3 H
        ((parties k seed env.ephemeral).responderArgs H r.pqCiphertext)
      (responderOutput H k env' r').validate
      return responderOutput H k env' r') := by
  have ho : (builtResponder k (initiatorOutput k env r)).ourOnetimePrekey =
      .ok m.onetimeScalar := by
    unfold X3dhHandshake.ourOnetimePrekey onetimeScalar
    cases hid : m.onetimeId with
    | none => simp only [builtResponder, hid, Option.bind_none]
    | some id =>
      obtain ⟨p, x, hl, hx⟩ := k.onetime id hid
      simp only [builtResponder, hid, KeyStore.getOnetimePrekeyById, hl, Option.bind_some, hx,
        Except.map]
  simp only [X3dhHandshake.perform, X3dhHandshake.performResponder, ho]
  simp only [builtResponder, KeyStore.getIdentityKeypair, k.responder_identity,
    KeyStore.getSignedPrekey, k.signedPrekey_eq, ok_bind, k.responder_secret,
    k.signedPrekey_secret, hs, Option.isNone_map, initiatorPublic hA k, responderOutput,
    X3dhHandshake.buildAssociatedData]
  rfl

lemma associatedData_eq_iff {a b : Bytes32} {p : Bytes} :
    a.val ++ b.val ++ p = b.val ++ a.val ++ p ↔ a = b := by
  constructor
  · intro h
    rw [List.append_assoc, List.append_assoc] at h
    exact (Transcript.fixed_append_inj h).1
  · rintro rfl
    rfl

lemma random_of_initiator {ep : S.Scalar} {ra : Option Bytes32} {r : X3dhResult S}
    (h : x3dhInitiatorV3 H ((parties k seed ep).initiatorArgs H) ra = .ok r)
    (hs : seed ≠ none) : ra ≠ none := by
  intro hra
  obtain ⟨d, rfl⟩ := Option.ne_none_iff_exists'.mp hs
  rcases x3dhInitiatorV3_ok h with ⟨hpk, -⟩ | ⟨pk, ss, ct, hpk, hen, -⟩
  · cases hpk
  cases hpk
  obtain ⟨m, hm, -⟩ := MlKem768.tryEncaps_ok hen
  rw [hra] at hm
  cases hm

lemma safety_iff {b : Bool} {pq : Bool} (h : seed ≠ none ↔ pq = true) :
    (!(b && seed.isNone)) = true ↔ (b = true → pq = true) := by
  rw [← h]
  cases b <;> cases seed <;> simp

lemma initiator_performs (hK : H.kem.Correct) (hN : H.NonzeroKdf) (hB : m.responder.Reachable H)
    (hpq : seed ≠ none ↔ m.postQuantum = true)
    (hpk : pqPublic k = seed.map fun d => (H.kem.keyGen d).1.val) (env : HandshakeEnv S)
    (hsa : m.initiatorConfig.requireSafetyNumbers = true → m.postQuantum = true)
    (hra : m.postQuantum = true → env.encapsRandom ≠ none) :
    ∃ r x, x3dhInitiatorV3 H ((parties k seed env.ephemeral).initiatorArgs H) env.encapsRandom =
        .ok r ∧ r.pqCiphertext = (parties k seed env.ephemeral).ciphertext H x ∧
      (builtInitiator k).perform H env = .ok (initiatorOutput k env r) := by
  obtain ⟨x, hx⟩ : ∃ x, seed ≠ none → env.encapsRandom = some x := by
    cases hr : env.encapsRandom with
    | none =>
      refine ⟨⟨List.replicate 32 0, by simp⟩, fun h => ?_⟩
      exact absurd hr (hra (hpq.mp h))
    | some x => exact ⟨x, fun _ => rfl⟩
  obtain ⟨r, hr, hct⟩ := (parties k seed env.ephemeral).initiator_returns hK hN x hx
  have hv : (initiatorOutput k env r).validate = .ok () :=
    HandshakeOutput.validate_ok.mpr ⟨X3dhRun.sharedSecret_nonzero hN (.initiator _ _) hr, rfl⟩
  refine ⟨r, x, hr, hct, ?_⟩
  rw [perform_builtInitiator hB hpk, (safety_iff hpq).mpr hsa, hr, ensure]
  simp only [ok_bind, hv]
  rfl

lemma responder_performs (hK : H.kem.Correct) (hN : H.NonzeroKdf) (hA : m.initiator.Reachable H)
    (hpq : seed ≠ none ↔ m.postQuantum = true)
    (hsk : pqSecret k = seed.map fun d => (H.kem.keyGen d).2.val) (env env' : HandshakeEnv S)
    {r : X3dhResult S} {x : Bytes32}
    (hct : r.pqCiphertext = (parties k seed env.ephemeral).ciphertext H x)
    (hsa : m.responderConfig.requireSafetyNumbers = true → m.postQuantum = true) :
    ∃ r', x3dhResponderV3 H ((parties k seed env.ephemeral).responderArgs H r.pqCiphertext) =
        .ok r' ∧
      (builtResponder k (initiatorOutput k env r)).perform H env' =
        if S.publicKey env'.ephemeral = S.publicKey H.zeroScalar then
          .ok (responderOutput H k env' r') else .error .invalidArgument := by
  obtain ⟨r', hr'⟩ := (parties k seed env.ephemeral).responder_returns hK hN x
  rw [← hct] at hr'
  have hn := X3dhRun.sharedSecret_nonzero hN (.responder _) hr'
  have hv : (responderOutput H k env' r').validate =
      ensure (S.publicKey env'.ephemeral == S.publicKey H.zeroScalar) .invalidArgument := by
    unfold HandshakeOutput.validate
    rw [show (responderOutput H k env' r').sharedSecret = r'.sharedSecret from rfl, hn]
    rfl
  refine ⟨r', hr', ?_⟩
  rw [perform_builtResponder hA hsk, (safety_iff hpq).mpr hsa, hr']
  simp only [ensure, ok_bind, hv, beq_iff_eq]
  split_ifs <;> rfl

/-- The two sides agree exactly when the responder's fresh scalar has the public key of the zero
scalar and both have one identity key, apart from what their configurations ask for. -/
theorem builder_agreement_iff (hcomm : S.CommutativeDh) (hK : H.kem.Correct) (hN : H.NonzeroKdf)
    (hA : m.initiator.Reachable H) (hB : m.responder.Reachable H) (k : m.Keys) (systemRandom : Bool)
    (env env' : HandshakeEnv S) : Agrees H k systemRandom env env' ↔
    (m.initiatorConfig.requireSafetyNumbers = true → m.postQuantum = true) ∧
    (m.responderConfig.requireSafetyNumbers = true → m.postQuantum = true) ∧
    (m.postQuantum = true → env.encapsRandom ≠ none) ∧
    S.publicKey env'.ephemeral = S.publicKey H.zeroScalar ∧
    k.initiatorIdentity.x25519Public = k.responderIdentity.x25519Public := by
  obtain ⟨seed, hpq, hpk, hsk⟩ := pq_keys hB k
  constructor
  · rintro ⟨hs, out, hs', out', hbuild, hperform, hbuild', hperform', -, had⟩
    rw [initiatorHandshake_eq hB] at hbuild
    cases hbuild
    rw [perform_builtInitiator hB hpk] at hperform
    simp only [bind_ok, ensure_ok] at hperform
    obtain ⟨-, hsafe, r, hr, -, -, hout⟩ := hperform
    cases hout
    have hct := x3dhInitiatorV3_ciphertext hr
    rw [responderHandshake_eq hB hct] at hbuild'
    cases hbuild'
    rw [perform_builtResponder hA hsk] at hperform'
    simp only [bind_ok, ensure_ok] at hperform'
    obtain ⟨-, hsafe', r', hr', u, hvalid, hout'⟩ := hperform'
    cases hout'
    refine ⟨(safety_iff hpq).mp hsafe, (safety_iff hpq).mp hsafe', ?_, ?_, ?_⟩
    · exact fun h => random_of_initiator hr (hpq.mpr h)
    · exact (HandshakeOutput.validate_ok.mp hvalid).2
    · exact associatedData_eq_iff.mp had
  · rintro ⟨hsafe, hsafe', hrandom, hzero, hidentity⟩
    obtain ⟨r, x, hr, hct, hperform⟩ := initiator_performs hK hN hB hpq hpk env hsafe hrandom
    obtain ⟨r', hr', hperform'⟩ := responder_performs hK hN hA hpq hsk env env' hct hsafe'
    rw [if_pos hzero] at hperform'
    refine ⟨_, _, _, _, initiatorHandshake_eq hB systemRandom, hperform,
      responderHandshake_eq hB (x3dhInitiatorV3_ciphertext hr) systemRandom, hperform', ?_, ?_⟩
    · exact X3dhParties.sharedSecret_agrees hcomm hK _ hr hr'
    · exact associatedData_eq_iff.mpr hidentity

end Meeting

namespace Symbolic

def meeting (x : UInt64) : Meeting suite where
  initiator := store [] 1 2 3
  responder := store [] x 5 6
  initiatorConfig := { ContextConfig.default with requireSafetyNumbers := false }
  responderConfig := { ContextConfig.default with requireSafetyNumbers := false }
  onetimeId := some 1
  postQuantum := true
  initiatorDeviceId := device 1
  responderDeviceId := device 2
  prologue := none

def meetingKeys (x : UInt64) : (meeting x).Keys where
  initiatorIdentity := identity 1
  initiatorScalar := scalar 1
  responderIdentity := identity x
  responderScalar := scalar x
  signedPrekey := prekey [] x 5
  signedPrekeyScalar := scalar 5
  initiator_identity := store_identity [] 1 2 3
  initiator_secret := rfl
  responder_identity := store_identity [] x 5 6
  responder_secret := rfl
  signedPrekey_eq := store_signedPrekey [] x 5 6
  signedPrekey_secret := rfl
  onetime := by
    intro id hid
    obtain rfl := Option.some.inj hid
    exact ⟨.generate 1 (scalar 6) (some 1000), scalar 6, store_onetimePrekey [] x 5 6, rfl⟩

def handshakeEnv (e : UInt64) : HandshakeEnv suite := ⟨scalar e, some secret, some 2000⟩

end Symbolic

namespace Meeting

open Symbolic

theorem self_meeting_agrees :
    Agrees (handshake []) (meetingKeys 1) true (handshakeEnv 7) (handshakeEnv 0) := by
  apply (builder_agreement_iff commutativeDh kem_correct (nonzeroKdf [])
    (store_reachable [] 1 2 3) (store_reachable [] 1 5 6)
    _ true (handshakeEnv 7) (handshakeEnv 0)).mpr
  exact ⟨fun _ => rfl, fun _ => rfl, fun _ h => (by cases h), rfl, rfl⟩

/-- Two different parties: the initiator succeeds and the responder refuses its own output. -/
theorem responder_refuses_own_output : ∃ hs out hs',
    initiatorHandshake (meetingKeys 4) true = .ok hs ∧ hs.perform (handshake [])
    (handshakeEnv 7) = .ok out ∧ responderHandshake (meetingKeys 4) out true = .ok hs' ∧
    hs'.perform (handshake []) (handshakeEnv 8) = .error .invalidArgument := by
  obtain ⟨seed, hpq, hpk, hsk⟩ := pq_keys (store_reachable [] 4 5 6) (meetingKeys 4)
  obtain ⟨r, x, hr, hct, hperform⟩ := initiator_performs kem_correct (nonzeroKdf [])
    (store_reachable [] 4 5 6) hpq hpk (handshakeEnv 7) (fun _ => rfl) (fun _ h => by cases h)
  obtain ⟨r', -, hperform'⟩ := responder_performs kem_correct (nonzeroKdf [])
    (store_reachable [] 1 2 3) hpq hsk (handshakeEnv 7) (handshakeEnv 8) hct (fun _ => rfl)
  rw [if_neg (by decide +kernel)] at hperform'
  exact ⟨_, _, _, initiatorHandshake_eq (store_reachable [] 4 5 6) true, hperform,
    responderHandshake_eq (store_reachable [] 4 5 6) (x3dhInitiatorV3_ciphertext hr) true,
    hperform'⟩

end Meeting

end Sibna
