import Sibna.Handshake.Perform
import Sibna.Lib.Interleaving

/-!
# Pinned keys

`perform_handshake` reads, pins and stores under different locks. Whatever other calls do in
between, a session was made with the key that is pinned.
-/

namespace Sibna

open Interleaving

variable {S : Suite} {γ : Type}

namespace KeyStore

def verifyPeer (ks : KeyStore S) (peerId : Bytes) : Outcome (KeyStore S) Unit :=
  match ks.peerPins.lookup peerId with
  | none => (.error .keyNotFound, ks)
  | some _ => (.ok (), ks.markPeerVerified peerId)

def reloaded (K : KeyStoreCodec S) (ks : KeyStore S) (encryptionKey : S.Key)
    (nonce : Option (FixedBytes 12)) : KeyStore S :=
  match ks.toEncryptedBytes K encryptionKey nonce with
  | .error _ => ks
  | .ok data =>
    match fromEncryptedBytes K data encryptionKey with
    | .error _ => ks
    | .ok ks' => ks'

/-- Every pin keeps its key, and its flag if it is set. -/
def PinsGrow (ks ks' : KeyStore S) : Prop :=
  ∀ peerId pin, ks.peerPins.lookup peerId = some pin → ∃ pin',
    ks'.peerPins.lookup peerId = some pin' ∧ pin'.identityKey = pin.identityKey ∧
    (pin.verified = true → pin'.verified = true)

variable {H : HandshakeSuite S} {ks ks' ks'' : KeyStore S}

lemma PinsGrow.of_eq (h : ks'.peerPins = ks.peerPins) : PinsGrow ks ks' := by
  intro p pin hpi
  exact ⟨pin, h ▸ hpi, rfl, fun hv => hv⟩

lemma PinsGrow.refl (ks : KeyStore S) : PinsGrow ks ks := .of_eq rfl

lemma PinsGrow.trans (h : PinsGrow ks ks') (h' : PinsGrow ks' ks'') : PinsGrow ks ks'' := by
  intro p pin hpi
  obtain ⟨pin', hp', hk, hve⟩ := h p pin hpi
  obtain ⟨pin'', hp'', hk', hv'⟩ := h' p pin' hp'
  exact ⟨pin'', hp'', hk'.trans hk, fun hv => hv' (hve hv)⟩

lemma pinsGrow_pinPeerKey (p : Bytes) (n : Bytes32) (cl : Option Nat) :
    PinsGrow ks (ks.pinPeerKey H p n cl).2 := by
  simp only [pinPeerKey]
  split
  · rename_i hn
    intro id pin hpi
    have hid : id ≠ p := by grind
    exact ⟨pin, (AList.lookup_insert_ne hid).trans hpi, rfl, fun h => h⟩
  · split
    · exact .refl ks
    · exact .refl ks

lemma pinsGrow_markPeerVerified (p : Bytes) : PinsGrow ks (ks.markPeerVerified p) := by
  unfold markPeerVerified
  split
  · exact .refl ks
  rename_i hpi
  intro id pin hpn
  by_cases hid : id = p
  · subst hid
    cases hpi.symm.trans hpn
    exact ⟨_, AList.lookup_insert _, rfl, fun _ => rfl⟩
  · exact ⟨pin, (AList.lookup_insert_ne hid).trans hpn, rfl, fun h => h⟩

lemma pinsGrow_verifyPeer (p : Bytes) : PinsGrow ks (ks.verifyPeer p).2 := by
  unfold verifyPeer
  split
  · exact .refl ks
  · exact pinsGrow_markPeerVerified p

lemma pinsGrow_reloaded (hA : S.CorrectAead) {K : KeyStoreCodec S} (hK : K.RoundTrip) (ek : S.Key)
    (n : Option (FixedBytes 12)) : PinsGrow ks (ks.reloaded K ek n) := by
  unfold reloaded
  split
  · exact .refl ks
  rename_i hda
  split
  · exact .refl ks
  · rename_i hk'
    rw [fromEncryptedBytes_ok hA hK hda hk']
    exact .of_eq rfl

lemma verifyOrPinPeerKey_error_iff (ks : KeyStore S) (p : Bytes) (n : Bytes32)
    (cl : Option Nat) : (∃ e, (ks.verifyOrPinPeerKey H p n cl).1 = .error e) ↔ ∃ pin,
    ks.peerPins.lookup p = some pin ∧ pin.identityKey ≠ n := by
  cases hpi : ks.peerPins.lookup p with
  | none => simp [verifyOrPinPeerKey, pinPeerKey, hpi]
  | some pin =>
    by_cases hk : pin.identityKey = n
    · simp [verifyOrPinPeerKey, pinPeerKey, hpi, hk]
    · simp [verifyOrPinPeerKey, pinPeerKey, hpi, hk]

def Pinned (ks : KeyStore S) (peerId : Bytes) (key : Bytes32) : Prop :=
  ∃ pin, ks.peerPins.lookup peerId = some pin ∧ pin.identityKey = key

lemma PinsGrow.pinned (h : PinsGrow ks ks') {p : Bytes} {key : Bytes32}
    (hpi : ks.Pinned p key) : ks'.Pinned p key := by
  obtain ⟨pin, hpn, hk⟩ := hpi
  obtain ⟨pin', hp', hk', -⟩ := h p pin hpn
  exact ⟨pin', hp', hk'.trans hk⟩

lemma verifyOrPinPeerKey_ok {p : Bytes} {n : Bytes32} {cl : Option Nat}
    {r : PinResult} (h : (ks.verifyOrPinPeerKey H p n cl).1 = .ok r) :
    (ks.verifyOrPinPeerKey H p n cl).2.Pinned p n := by
  rw [verifyOrPinPeerKey_snd]
  cases hpi : ks.peerPins.lookup p with
  | none =>
    simp only [pinPeerKey, hpi]
    exact ⟨_, AList.lookup_insert _, rfl⟩
  | some pin =>
    by_cases hk : pin.identityKey = n
    · simp only [pinPeerKey, hpi, hk]
      exact ⟨pin, hpi, hk⟩
    · simp [verifyOrPinPeerKey, pinPeerKey, hpi, hk] at h

end KeyStore

def X3dhRun.peerIdentity : X3dhRun S → Bytes32
  | .initiator args _ => args.peerIdentity
  | .responder args => args.peerIdentity

/-- The session comes from an X3DH run with this identity key of the peer. -/
def EstablishedWith (H : HandshakeSuite S) (key : Bytes32) (session : DoubleRatchetState S) :
    Prop :=
  ∃ (run : X3dhRun S) (result : X3dhResult S) (localDh : S.Scalar) (remote : Bytes32)
    (config : Config) (role : HandshakeRole) (clock : Clock),
    run.exec H = .ok result ∧ run.peerIdentity = key ∧
      DoubleRatchetSession.fromSharedSecret (S.keyBytes result.sharedSecret) localDh remote config
        role clock = .ok session

lemma X3dhHandshake.perform_ok {H : HandshakeSuite S} {env : HandshakeEnv S}
    {hs : X3dhHandshake S} {o : HandshakeOutput S} (h : hs.perform H env = .ok o) :
    ∃ key run result, hs.peerIdentityKey = some key ∧ X3dhRun.exec H run = .ok result ∧
    run.peerIdentity = key ∧ o.sharedSecret = result.sharedSecret := by
  unfold perform at h
  split at h
  · simp only [performInitiator, bind_ok] at h
    obtain ⟨_, -, p, hp, _, -, -, -, _, -, result, hre, -, -, h⟩ := h
    cases h
    exact ⟨p, .initiator _ _, result, okOr_ok.mp hp, hre, rfl, rfl⟩
  · simp only [performResponder, bind_ok] at h
    obtain ⟨_, -, _, -, p, hp, _, -, -, -, _, -, _, -, _, -, result, hre, -, -, h⟩ := h
    cases h
    exact ⟨p, .responder _, result, okOr_ok.mp hp, hre, rfl, rfl⟩

namespace HandshakeBuilder
variable {b b' : HandshakeBuilder S}

lemma withChecked_ok {n : Nat} {bt : Bytes} {set : FixedBytes n → HandshakeBuilder S}
    (h : withChecked n bt set = .ok b') : ∃ k : FixedBytes n, bt = k.val ∧ set k = b' := by
  obtain ⟨k, hk, hse⟩ := exceptMap_ok.mp h
  exact ⟨k, tryInto_ok.mp hk, hse⟩

section
variable {α : Type} {arg : Option α}
  {set : HandshakeBuilder S → α → Except ProtocolError (HandshakeBuilder S)}

lemma whenSome_ok (h : b.whenSome arg set = .ok b') : arg = none ∧ b' = b ∨ ∃ a, arg = some a ∧
    set b a = .ok b' := by
  cases arg with
  | none => exact .inl ⟨rfl, (Except.ok.inj h).symm⟩
  | some a => exact .inr ⟨a, rfl, h⟩

lemma whenSome_peerIdentityKey
    (hse : ∀ a b', set b a = .ok b' → b'.peerIdentityKey = b.peerIdentityKey)
    (h : b.whenSome arg set = .ok b') : b'.peerIdentityKey = b.peerIdentityKey := by
  rcases whenSome_ok h with ⟨-, rfl⟩ | ⟨a, -, ha⟩
  · rfl
  · exact hse a b' ha

end

lemma build_peerIdentityKey {sr : Bool} {hs : X3dhHandshake S}
    (h : b.build sr = .ok hs) : hs.peerIdentityKey = b.peerIdentityKey := by
  simp only [build, bind_ok] at h
  obtain ⟨_, -, _, -, -, -, h⟩ := h
  cases h
  rfl

end HandshakeBuilder

namespace SecureContext

open HandshakeBuilder

lemma handshakeWith_ok {H : HandshakeSuite S} {env : PerformEnv S}
    {ctx : SecureContext S (KeyStore S) γ} {ke : KeyStore S} {role : HandshakeRole}
    {args : PeerArgs} {o : HandshakeOutput S}
    (h : ctx.handshakeWith H env ke role args = .ok o) :
    ∃ (key : Bytes32) (run : X3dhRun S) (result : X3dhResult S),
      args.peerIdentityKey = some key.val ∧ run.exec H = .ok result ∧ run.peerIdentity = key ∧
        o.sharedSecret = result.sharedSecret := by
  simp only [handshakeWith, bind_ok] at h
  obtain ⟨-, -, b₁, h₁, b₂, h₂, b₃, h₃, b₄, h₄, b₅, h₅, hs, hb, h⟩ := h
  obtain ⟨key, run, result, hk, hr, hp, hse⟩ := X3dhHandshake.perform_ok h
  have hb₂ := whenSome_peerIdentityKey (fun a b' ha => by
    obtain ⟨k, -, rfl⟩ := withChecked_ok ha
    rfl) h₂
  have hb₃ := whenSome_peerIdentityKey (fun a b' ha => by
    obtain ⟨k, -, rfl⟩ := withChecked_ok ha
    rfl) h₃
  have hb₄ := whenSome_peerIdentityKey (fun a b' ha => by
    cases ha
    rfl) h₄
  have hb₅ := whenSome_peerIdentityKey (fun a b' ha => by
    cases ha
    rfl) h₅
  rw [build_peerIdentityKey hb, hb₅, hb₄, hb₃, hb₂] at hk
  refine ⟨key, run, result, ?_, hr, hp, hse⟩
  rcases whenSome_ok h₁ with ⟨-, rfl⟩ | ⟨pk, hpk, hst⟩
  · cases hk
  · obtain ⟨k, rfl, rfl⟩ := withChecked_ok hst
    cases hk
    exact hpk

end SecureContext

namespace Pinning

structure Guarded (S : Suite) where
  keystore : KeyStore S
  sessions : SessionManager S

/-- What is done under one lock. -/
inductive PinOp (S : Suite) where
  | isPeerVerified (peerId : Bytes)
  | readKeystore
  | pinPeerKey (peerId : Bytes) (newKey : Bytes32) (clock : Option Nat)
  | verifyOrPinPeerKey (peerId : Bytes) (newKey : Bytes32) (clock : Option Nat)
  | markPeerVerified (peerId : Bytes)
  | verifyPeer (peerId : Bytes)
  | reload (encryptionKey : S.Key) (nonce : Option (FixedBytes 12))
  | insertSession (peerId : Bytes) (session : DoubleRatchetState S)

@[reducible] def PinOp.Ans : PinOp S → Type
  | .isPeerVerified _ => Bool
  | .readKeystore => KeyStore S
  | .pinPeerKey .. => PinResult
  | .verifyOrPinPeerKey .. => Except ProtocolError PinResult
  | .markPeerVerified _ => Unit
  | .verifyPeer _ => Except ProtocolError Unit
  | .reload .. => Unit
  | .insertSession .. => Unit

section
variable (H : HandshakeSuite S) (ctx : SecureContext S (KeyStore S) γ)

def PinOp.onKeystore (K : KeyStoreCodec S) (ks : KeyStore S) : (op : PinOp S) → op.Ans × KeyStore S
  | .isPeerVerified peerId => (ks.isPeerVerified peerId, ks)
  | .readKeystore => (ks, ks)
  | .pinPeerKey peerId newKey clock => ks.pinPeerKey H peerId newKey clock
  | .verifyOrPinPeerKey peerId newKey clock => ks.verifyOrPinPeerKey H peerId newKey clock
  | .markPeerVerified peerId => ((), ks.markPeerVerified peerId)
  | .verifyPeer peerId => ks.verifyPeer peerId
  | .reload encryptionKey nonce => ((), ks.reloaded K encryptionKey nonce)
  | .insertSession .. => ((), ks)

def PinOp.onSessions (m : SessionManager S) : PinOp S → SessionManager S
  | .insertSession peerId session => { m with sessions := m.sessions.insert peerId session }
  | _ => m

abbrev Pins (S : Suite) := Prog (PinOp S) PinOp.Ans

def perform (op : PinOp S) : Pins S op.Ans := Prog.perform op

inductive PinCall (S : Suite) where
  | pinPeerKey (peerId : Bytes) (newKey : Bytes32) (clock : Option Nat)
  | verifyOrPinPeerKey (peerId : Bytes) (newKey : Bytes32) (clock : Option Nat)
  | markPeerVerified (peerId : Bytes)
  | verifyPeer (peerId : Bytes)
  | reload (encryptionKey : S.Key) (nonce : Option (FixedBytes 12))
  | performHandshake (env : PerformEnv S) (role : HandshakeRole) (args : PeerArgs)

inductive PinReply where
  | pinned (result : PinResult)
  | checked (result : Except ProtocolError PinResult)
  | done (result : Except ProtocolError Unit)
  | session (result : Except ProtocolError Bytes)

def storeSession (env : PerformEnv S) (role : HandshakeRole) (args : PeerArgs)
    (output : HandshakeOutput S) : Pins S (Except ProtocolError Bytes) :=
  match SecureContext.remoteDh role args with
  | .error e => pure (.error e)
  | .ok remote =>
    match DoubleRatchetSession.fromSharedSecret (S.keyBytes output.sharedSecret)
        output.localEphemeralKey remote ctx.config.toConfig role env.clock with
    | .error e => pure (.error e)
    | .ok session => do
      perform (.insertSession args.peerId session)
      return .ok args.peerId

def handshakeAndPin (env : PerformEnv S) (role : HandshakeRole) (args : PeerArgs) :
    Pins S (Except ProtocolError Bytes) := do
  let keystore ← perform .readKeystore
  match ctx.handshakeWith H env keystore role args with
  | .error e => return .error e
  | .ok output =>
    match args.peerIdentityKey with
    | none => storeSession ctx env role args output
    | some pk =>
      if h : pk.length = 32 then
        match ← perform (.verifyOrPinPeerKey args.peerId ⟨pk, h⟩ env.pinClock) with
        | .error e => return .error e
        | .ok _ => storeSession ctx env role args output
      else storeSession ctx env role args output

/-- Safety numbers are looked at under a read lock of their own. -/
def performHandshake (env : PerformEnv S) (role : HandshakeRole) (args : PeerArgs) :
    Pins S (Except ProtocolError Bytes) := do
  if ctx.config.enableRateLimiting && !env.limiterAllows then
    return .error .rateLimitExceeded
  if ctx.config.requireSafetyNumbers then
    if !(← perform (.isPeerVerified args.peerId)) then
      return .error .verificationRequired
  handshakeAndPin H ctx env role args

def body : PinCall S → Pins S PinReply
  | .pinPeerKey peerId newKey clock =>
    do return .pinned (← perform (.pinPeerKey peerId newKey clock))
  | .verifyOrPinPeerKey peerId newKey clock => do
    return .checked (← perform (.verifyOrPinPeerKey peerId newKey clock))
  | .markPeerVerified peerId => do
    perform (.markPeerVerified peerId)
    return .done (.ok ())
  | .verifyPeer peerId => do return .done (← perform (.verifyPeer peerId))
  | .reload encryptionKey nonce => do
    perform (.reload encryptionKey nonce)
    return .done (.ok ())
  | .performHandshake env role args => do
    return .session (← performHandshake H ctx env role args)

@[reducible] def pinning (K : KeyStoreCodec S) (ctx : SecureContext S (KeyStore S) γ) : System where
  Op := PinOp S
  Ans := PinOp.Ans
  Shared := Guarded S
  Env := Unit
  Call := PinCall S
  Result := PinReply
  act _ op g := ((op.onKeystore H K g.keystore).1,
    ⟨(op.onKeystore H K g.keystore).2, op.onSessions g.sessions⟩)
  body := body H ctx

def runPins (K : KeyStoreCodec S)
    (ctx : SecureContext S (KeyStore S) γ) (es : Schedule (pinning H K ctx)) :
    World (pinning H K ctx) :=
  Runs.exec World.step (World.initial (M := pinning H K ctx) ⟨ctx.keystore, ctx.sessions⟩) es

end

variable {H : HandshakeSuite S} {K : KeyStoreCodec S} {ctx : SecureContext S (KeyStore S) γ}
  {env : PerformEnv S} {role : HandshakeRole} {args : PeerArgs}

lemma run_storeSession (ctx' : SecureContext S (KeyStore S) γ) (ou : HandshakeOutput S)
    (u : Nat → Unit) (hco : ctx'.config = ctx.config) :
    (storeSession ctx env role args ou).run (pinning H K ctx).act u
        ⟨ctx'.keystore, ctx'.sessions⟩ =
      let o : Outcome (SecureContext S (KeyStore S) γ) Bytes :=
        match SecureContext.remoteDh role args with
        | .error e => (.error e, ctx')
        | .ok r =>
          match DoubleRatchetSession.fromSharedSecret (S.keyBytes ou.sharedSecret)
              ou.localEphemeralKey r ctx'.config.toConfig role env.clock with
          | .error e => (.error e, ctx')
          | .ok se =>
            (.ok args.peerId, { ctx' with
              sessions := { ctx'.sessions with
                sessions := ctx'.sessions.sessions.insert args.peerId se } })
      (o.1, ⟨o.2.keystore, o.2.sessions⟩, u) := by
  unfold storeSession
  rw [hco]
  cases SecureContext.remoteDh role args with
  | error e => rfl
  | ok r =>
    simp only
    cases DoubleRatchetSession.fromSharedSecret _
        ou.localEphemeralKey r ctx.config.toConfig role env.clock with
    | error e => rfl
    | ok se => rfl

lemma run_handshakeAndPin (u : Nat → Unit)
    (h : ctx.runHandshake H env role args = ctx.handshakeWith H env ctx.keystore role args) :
    (handshakeAndPin H ctx env role args).run (pinning H K ctx).act u
        ⟨ctx.keystore, ctx.sessions⟩ =
      let o := ctx.performHandshake H env role args
      (o.1, ⟨o.2.keystore, o.2.sessions⟩, u) := by
  simp only [handshakeAndPin, SecureContext.performHandshake, perform, Prog.perform_bind, Prog.run,
    PinOp.onKeystore, h]
  cases ctx.handshakeWith H env ctx.keystore role args with
  | error e => rfl
  | ok output =>
    simp only [SecureContext.pinPeer]
    cases args.peerIdentityKey with
    | none => exact run_storeSession ctx output _ rfl
    | some pk =>
      simp only
      split
      · rename_i hl
        simp only [Prog.run]
        generalize ctx.keystore.verifyOrPinPeerKey H args.peerId ⟨pk, hl⟩ env.pinClock = o
        obtain ⟨r, keystore⟩ := o
        cases r with
        | error e => rfl
        | ok result =>
          exact run_storeSession { ctx with keystore } output _ rfl
      · exact run_storeSession ctx output _ rfl

lemma performHandshake_alone (u : Nat → Unit) :
    (performHandshake H ctx env role args).run (pinning H K ctx).act u
        ⟨ctx.keystore, ctx.sessions⟩ =
      let o := ctx.performHandshake H env role args
      (o.1, ⟨o.2.keystore, o.2.sessions⟩, u) := by
  have hr : ctx.runHandshake H env role args =
    ((ensure _ _).bind fun _ => (ensure _ _).bind fun _ =>
    ctx.handshakeWith H env ctx.keystore role args) := rfl
  unfold performHandshake
  cases hra : ctx.config.enableRateLimiting && !env.limiterAllows with
  | true =>
    have hl : (!ctx.config.enableRateLimiting || env.limiterAllows) = false := by
      simpa using hra
    rw [hl] at hr
    rw [SecureContext.performHandshake, hr]
    rfl
  | false =>
    have hl : (!ctx.config.enableRateLimiting || env.limiterAllows) = true := by grind
    rw [hl] at hr
    cases hsa : ctx.config.requireSafetyNumbers with
    | false =>
      rw [hsa] at hr
      exact run_handshakeAndPin u hr
    | true =>
      rw [hsa] at hr
      cases hv : ctx.keystore.isPeerVerified args.peerId with
      | true =>
        rw [hv] at hr
        refine Eq.trans ?_ (run_handshakeAndPin u hr)
        simp only [Bool.false_eq_true, if_false, if_true, perform, Prog.perform_bind, Prog.run,
          PinOp.onKeystore, hv]
        rfl
      | false =>
        rw [SecureContext.performHandshake, hr]
        simp only [Bool.false_eq_true, if_false, if_true, perform, Prog.perform_bind, Prog.run,
          PinOp.onKeystore, hv]
        rfl

lemma pinsGrow_onKeystore (hA : S.CorrectAead) (hK : K.RoundTrip)
    (ks : KeyStore S) (op : PinOp S) : ks.PinsGrow (op.onKeystore H K ks).2 := by
  cases op with
  | isPeerVerified | readKeystore | insertSession => exact .refl ks
  | pinPeerKey peerId newKey clock => exact KeyStore.pinsGrow_pinPeerKey peerId newKey clock
  | verifyOrPinPeerKey peerId newKey clock =>
    simp only [PinOp.onKeystore, KeyStore.verifyOrPinPeerKey_snd]
    exact KeyStore.pinsGrow_pinPeerKey peerId newKey clock
  | markPeerVerified peerId => exact KeyStore.pinsGrow_markPeerVerified peerId
  | verifyPeer peerId => exact KeyStore.pinsGrow_verifyPeer peerId
  | reload encryptionKey nonce => exact KeyStore.pinsGrow_reloaded hA hK encryptionKey nonce

/-- The session comes from a handshake with the key that is pinned for the peer. -/
def StoredWith (H : HandshakeSuite S) (ks : KeyStore S) (c : PinCall S) (peerId : Bytes)
    (session : DoubleRatchetState S) : Prop :=
  ∃ env role args key, c = .performHandshake env role args ∧ args.peerId = peerId ∧
    args.peerIdentityKey = some key.val ∧ ks.Pinned peerId key ∧ EstablishedWith H key session

lemma StoredWith.mono {ks ks' : KeyStore S} {c : PinCall S} {p : Bytes} {se : DoubleRatchetState S}
    (h : StoredWith H ks c p se) (hg : ks.PinsGrow ks') : StoredWith H ks' c p se := by
  obtain ⟨env, role, args, key, hc, hp, hk, hpi, hse⟩ := h
  exact ⟨env, role, args, key, hc, hp, hk, hg.pinned hpi, hse⟩

def contract (H : HandshakeSuite S) (ctx : SecureContext S (KeyStore S) γ) (hA : S.CorrectAead)
    (hK : K.RoundTrip) : Contract (pinning H K ctx) where
  inv s := ∀ entry ∈ s.log, ∀ peerId session, entry.op = .insertSession peerId session →
    StoredWith H s.shared.keystore entry.call peerId session
  ok _ _ _ _ _ := True
  allowed s _ c _ op := ∀ peerId session, op = .insertSession peerId session →
    StoredWith H s.shared.keystore c peerId session
  kept := by
    intro s i c e op hinv _ hallowed entry hentry peerId session hop
    have hgrow := pinsGrow_onKeystore hA hK s.shared.keystore op (H := H)
    rcases List.mem_cons.mp hentry with rfl | hentry
    · exact (hallowed peerId session hop).mono hgrow
    · exact (hinv entry hentry peerId session hop).mono hgrow

section
variable {hA : S.CorrectAead} {hK : K.RoundTrip} {i : Nat} {c : PinCall S}
  {s : State (pinning H K ctx)}

lemma stable_pinned (p : Bytes) (key : Bytes32) :
    (contract H ctx hA hK).Stable i fun s => s.shared.keystore.Pinned p key := by
  intro s j c e op _ _ _ _ h
  exact (pinsGrow_onKeystore hA hK s.shared.keystore op).pinned h

lemma stable_true : (contract H ctx hA hK).Stable i fun _ => True :=
  fun _ _ _ _ _ => trivial

lemma keeps_storeSession {o : HandshakeOutput S} {key : Bytes32} {run : X3dhRun S}
    {r : X3dhResult S} (hc : c = .performHandshake env role args)
    (hk : args.peerIdentityKey = some key.val) (hr : run.exec H = .ok r)
    (hp : run.peerIdentity = key) (hsc : o.sharedSecret = r.sharedSecret)
    (h : s.shared.keystore.Pinned args.peerId key) :
    (contract H ctx hA hK).Keeps i c (fun _ _ => True) (storeSession ctx env role args o) s := by
  unfold storeSession
  split
  · exact Contract.keeps_ret_of (fun _ => trivial) s
  split
  · exact Contract.keeps_ret_of (fun _ => trivial) s
  rename_i hse
  refine Contract.keeps_step (stable_pinned args.peerId key) h ?_
  intro s e _ hpi _
  refine ⟨?_, Contract.keeps_ret_of (fun _ => trivial) _⟩
  rintro p s' ⟨⟩
  rw [hsc] at hse
  exact ⟨env, role, args, key, hc, rfl, hk, hpi, run, r, _, _, _, _, _, hr, hp, hse⟩

lemma keeps_other {α : Type} {op : PinOp S} {next : op.Ans → Pins S α}
    (hop : ∀ peerId session, op ≠ .insertSession peerId session)
    (hn : ∀ a s, (contract H ctx hA hK).Keeps i c (fun _ _ => True) (next a) s) :
    (contract H ctx hA hK).Keeps i c (fun _ _ => True) (.step op next) s := by
  refine Contract.keeps_step stable_true trivial ?_
  intro s e _ _ _
  exact ⟨fun peerId session heq => absurd heq (hop peerId session), hn _ _⟩

lemma keeps_handshakeAndPin (hc : c = .performHandshake env role args) :
    (contract H ctx hA hK).Keeps i c (fun _ _ => True) (handshakeAndPin H ctx env role args) s := by
  simp only [handshakeAndPin, perform, Prog.perform_bind]
  refine keeps_other nofun ?_
  intro ke s
  cases ho : ctx.handshakeWith H env ke role args with
  | error e => exact Contract.keeps_ret_of (fun _ => trivial) s
  | ok o =>
    obtain ⟨key, run, r, hk, hr, hp, hse⟩ := SecureContext.handshakeWith_ok ho
    -- without a key of 32 bytes there is no output
    simp only [hk, FixedBytes.length_val]
    refine Contract.keeps_step stable_true trivial ?_
    intro s e _ _ _
    refine ⟨nofun, ?_⟩
    split
    · exact Contract.keeps_ret_of (fun _ => trivial) _
    · rename_i hpi
      exact keeps_storeSession hc hk hr hp hse (KeyStore.verifyOrPinPeerKey_ok hpi)

lemma keeps_performHandshake (hc : c = .performHandshake env role args) :
    (contract H ctx hA hK).Keeps i c (fun _ _ => True) (performHandshake H ctx env role args) s :=
    by
  unfold performHandshake
  split
  · exact Contract.keeps_ret_of (fun _ => trivial) s
  split
  · refine keeps_other nofun ?_
    intro v s
    cases v with
    | true => exact keeps_handshakeAndPin hc
    | false => exact Contract.keeps_ret_of (fun _ => trivial) s
  · exact keeps_handshakeAndPin hc

end

section
variable (hA : S.CorrectAead) (hK : K.RoundTrip)
include hA hK

lemma sound : (contract H ctx hA hK).Sound fun _ _ _ _ => True := by
  intro s i c _ _
  have hre : ∀ (a : PinReply) s,
      (contract H ctx hA hK).Keeps i c (fun _ _ => True) (.ret a) s :=
    fun a s => Contract.keeps_ret_of (fun _ => trivial) s
  cases c with
  | performHandshake env role args =>
    exact (keeps_performHandshake rfl).bind fun a s _ => hre _ s
  | pinPeerKey | verifyOrPinPeerKey | markPeerVerified | verifyPeer | reload =>
    exact keeps_other nofun fun a s => hre _ s

lemma kept_runPins (es : Schedule (pinning H K ctx)) :
    (contract H ctx hA hK).Kept (fun _ _ _ _ => True) (runPins H K ctx es) := by
  refine (sound hA hK).run (Contract.kept_initial ?_)
    (guarded_of_always (fun _ _ _ _ _ => trivial) _ _)
  exact fun _ hen => absurd hen List.not_mem_nil

lemma pinsGrow_exec (w : World (pinning H K ctx)) (es : Schedule (pinning H K ctx)) :
    w.state.shared.keystore.PinsGrow (Runs.exec World.step w es).state.shared.keystore := by
  refine Runs.exec_invariant (I := fun w' : World (pinning H K ctx) =>
    w.state.shared.keystore.PinsGrow w'.state.shared.keystore) ?_ es (.refl _)
  intro w' ev hg
  cases ev with
  | start c => exact hg
  | advance i e =>
    simp only [World.step]
    split
    · rename_i op next hi
      exact hg.trans (pinsGrow_onKeystore hA hK w'.state.shared.keystore op)
    · exact hg

end

/-- Over every interleaving of the calls: from any point `es` of a run on, a pin keeps its key and
its flag, the check fails exactly for another key, and every session stored so far was made with
the key that is pinned for its peer. -/
theorem pinned_keys_hold (hA : S.CorrectAead) (H : HandshakeSuite S)
    (K : KeyStoreCodec S) (hK : K.RoundTrip) (ctx : SecureContext S (KeyStore S) γ)
    (es fs : Schedule (pinning H K ctx)) :
    let before := (runPins H K ctx es).state
    let after := (Runs.exec World.step (runPins H K ctx es) fs).state
    (∀ peerId pin, before.shared.keystore.peerPins.lookup peerId = some pin → ∃ pin',
      after.shared.keystore.peerPins.lookup peerId = some pin' ∧
        pin'.identityKey = pin.identityKey ∧ (pin.verified = true → pin'.verified = true)) ∧
    (∀ peerId newKey clock,
      (∃ e, (before.shared.keystore.verifyOrPinPeerKey H peerId newKey clock).1 = .error e) ↔
        ∃ pin, before.shared.keystore.peerPins.lookup peerId = some pin ∧
          pin.identityKey ≠ newKey) ∧
    (∀ entry ∈ before.log, ∀ peerId session, entry.op = .insertSession peerId session →
      StoredWith H before.shared.keystore entry.call peerId session) := by
  intro before after
  refine ⟨pinsGrow_exec hA hK _ fs, ?_, (kept_runPins hA hK es).inv⟩
  exact fun peerId newKey clock =>
    KeyStore.verifyOrPinPeerKey_error_iff before.shared.keystore peerId newKey clock

end Pinning

namespace Symbolic

set_option synthInstance.maxSize 512 in
instance : DecidableEq (IdentityKeyPair suite)
  | .mk .., .mk .. => decidable_of_iff' _ (.of_eq (IdentityKeyPair.mk.injEq ..))

set_option synthInstance.maxSize 512 in
instance : DecidableEq (SignedPreKey suite)
  | .mk .., .mk .. => decidable_of_iff' _ (.of_eq (SignedPreKey.mk.injEq ..))

instance : DecidableEq (OneTimePreKey suite)
  | .mk .., .mk .. => decidable_of_iff' _ (.of_eq (OneTimePreKey.mk.injEq ..))

instance : DecidableEq (PinnedKey suite)
  | .mk .., .mk .. => decidable_of_iff' _ (.of_eq (PinnedKey.mk.injEq ..))

set_option synthInstance.maxSize 4096 in
instance : DecidableEq (KeyStore suite) :=
  Function.Injective.decidableEq
    (f := fun ks => (ks.identity, ks.signedPrekey, ks.onetimePrekeys.entries, ks.nextOnetimeId,
      ks.deviceId, ks.rootIdentityKey, ks.deviceSignature, ks.peerPins.entries))
    (by
      rintro ⟨i, k, ⟨o, ho⟩, n, d, r, g, ⟨p, hp⟩⟩ ⟨i', k', ⟨o', ho'⟩, n', d', r', g', ⟨p', hp'⟩⟩ h
      cases h
      rfl)

/-- A codec that knows the stores of the list and reports every other one. -/
def knownStores (stores : List (KeyStore suite)) : KeyStoreCodec suite where
  encode ks := (stores.idxOf? ks).map fun i => List.replicate i 1
  decode bytes := stores[bytes.length]?.map KeyStore.saved

lemma knownStores_roundTrip (st : List (KeyStore suite)) : (knownStores st).RoundTrip := by
  intro ks bt h
  obtain ⟨i, hi, rfl⟩ := Option.map_eq_some_iff.mp h
  obtain ⟨hlt, heq, -⟩ := List.idxOf?_eq_some_iff.mp hi
  have hks : st[i] = ks := by simpa using heq
  simp only [knownStores, List.length_replicate]
  rw [List.getElem?_eq_getElem hlt, hks, Option.map_some]

def labelledMessages : List Bytes := [SecureContext.spkLabel ++ (publicKey 5).val]

def peerArgs : PeerArgs where
  peerId := [9]
  peerIdentityKey := some (publicKey 4).val
  peerSignedPrekey := some (publicKey 5).val
  peerSpkSignature := some ((ed labelledMessages).sign (publicKey 4)
    (SecureContext.spkLabel ++ (publicKey 5).val))
  peerOnetimePrekey := none
  peerDeviceId := none
  prologue := none

def pinnedStore : KeyStore suite :=
  (context.keystore.pinPeerKey (handshake labelledMessages) [9] (publicKey 4) (some 2000)).2

end Symbolic

namespace Pinning

open Symbolic

abbrev OnePeer := pinning (handshake labelledMessages) (knownStores [pinnedStore]) context

def oneHandshake : List (Event OnePeer) :=
  [.start (.performHandshake (performEnv (env 2000 0).clock) .initiator peerArgs),
    .advance 0 (), .advance 0 (), .advance 0 ()]

def oneReload : List (Event OnePeer) :=
  [.start (.reload (.atom (.sessionRoot secret)) (some nonce)), .advance 1 ()]

theorem pin_outlives_reload :
    let pinned := runPins (handshake labelledMessages) (knownStores [pinnedStore]) context
      oneHandshake
    let before := pinned.state
    let after := (Runs.exec World.step pinned oneReload).state
    (∃ entry ∈ before.log, ∃ session, entry.op = .insertSession [9] session ∧
      StoredWith (handshake labelledMessages) before.shared.keystore entry.call [9] session) ∧
    (∃ pin, after.shared.keystore.peerPins.lookup [9] = some pin ∧
      pin.identityKey = publicKey 4) ∧
    after.shared.keystore.signedPrekey.bind SignedPreKey.secret = none := by
  intro pinned before after
  obtain ⟨hpins, -, hsessions⟩ := pinned_keys_hold correctAead
    (handshake labelledMessages) (knownStores [pinnedStore]) (knownStores_roundTrip _) context
    oneHandshake oneReload
  have hpinned : (before.shared.keystore.peerPins.lookup [9]).map (·.identityKey) =
      some (publicKey 4) := by decide +kernel
  obtain ⟨pin, hpin, hkey⟩ := Option.map_eq_some_iff.mp hpinned
  obtain ⟨pin', hpin', hkey', -⟩ := hpins [9] pin hpin
  refine ⟨?_, ⟨pin', hpin', hkey'.trans hkey⟩, by decide +kernel⟩
  obtain ⟨entry, hentry, session, hop⟩ :
      ∃ entry ∈ before.log, ∃ session, entry.op = .insertSession [9] session :=
    ⟨_, List.mem_cons_self, _, rfl⟩
  exact ⟨entry, hentry, session, hop, hsessions entry hentry [9] session hop⟩

end Pinning

end Sibna
