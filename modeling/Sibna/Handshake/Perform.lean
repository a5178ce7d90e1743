import Sibna.Context
import Sibna.Handshake.Builder

/-!
# `SecureContext::perform_handshake`

The context checks the signed prekey under a label, the key store signs the key alone.
-/

namespace Sibna

variable {S : Suite} {γ : Type}

/-- The arguments about the peer. In the responder role the initiator's ephemeral key comes in
the place of the one-time prekey. -/
structure PeerArgs where
  peerId : Bytes
  peerIdentityKey : Option Bytes
  peerSignedPrekey : Option Bytes
  peerSpkSignature : Option (FixedBytes 64)
  peerOnetimePrekey : Option Bytes
  peerDeviceId : Option (FixedBytes 16)
  prologue : Option Bytes

structure PerformEnv (S : Suite) where
  limiterAllows : Bool
  systemRandom : Bool
  handshake : HandshakeEnv S
  pinClock : Option Nat
  clock : Clock

namespace SecureContext

open HandshakeBuilder

/-- `SibnaSignedPreKey_v3`. -/
def spkLabel : Bytes :=
  [83, 105, 98, 110, 97, 83, 105, 103, 110, 101, 100, 80, 114, 101, 75, 101, 121, 95, 118, 51]

section
variable (H : HandshakeSuite S) (role : HandshakeRole) (args : PeerArgs)

/-- Only the initiator checks, and only if it was given both keys. -/
def checkSpkSignature : Except ProtocolError Unit :=
  match role, args.peerIdentityKey, args.peerSignedPrekey with
  | .initiator, some peerIk, some peerSpk => do
    ensure (peerIk.length == 32 && peerSpk.length == 32) .invalidKeyLength
    let vk ← tryInto 32 peerIk .invalidKeyLength
    ensure (H.ed.verifyingKeyOk vk) .invalidKey
    let sig ← okOr args.peerSpkSignature .handshakeFailed
    ensure (H.ed.verify vk (spkLabel ++ peerSpk) sig) .invalidSignature
  | _, _, _ => .ok ()

section
variable (env : PerformEnv S) (ctx : SecureContext S (KeyStore S) γ)

/-- From the builder to the output, with what the lock of the key store gave. -/
def handshakeWith (keystore : KeyStore S) (role : HandshakeRole) (args : PeerArgs) :
    Except ProtocolError (HandshakeOutput S) := do
  let b : HandshakeBuilder S := new.withConfig ctx.config
    |>.withKeystore keystore |>.withRandom |>.withRole role
    |>.withOurDeviceId ctx.deviceId
  checkSpkSignature H role args
  let b ← b.whenSome args.peerIdentityKey withPeerIdentityKey
  let b ← b.whenSome args.peerSignedPrekey withPeerSignedPrekey
  let b ← b.whenSome args.peerOnetimePrekey withPeerOnetimePrekey
  let b ← b.whenSome args.prologue fun b p => .ok (b.withPrologue p)
  let b ← b.whenSome args.peerDeviceId fun b d => .ok (b.withPeerDeviceId d)
  let handshake ← b.build env.systemRandom
  handshake.perform H env.handshake

/-- Everything up to the output of the handshake; the context is not changed. -/
def runHandshake
    (role : HandshakeRole) (args : PeerArgs) : Except ProtocolError (HandshakeOutput S) := do
  ensure (!ctx.config.enableRateLimiting || env.limiterAllows) .rateLimitExceeded
  ensure (!ctx.config.requireSafetyNumbers || ctx.keystore.isPeerVerified args.peerId)
    .verificationRequired
  ctx.handshakeWith H env ctx.keystore role args

def pinPeer (clock : Option Nat) (ctx : SecureContext S (KeyStore S) γ) (args : PeerArgs) :
    Outcome (SecureContext S (KeyStore S) γ) Unit :=
  match args.peerIdentityKey with
  | none => (.ok (), ctx)
  | some pk =>
    if h : pk.length = 32 then
      match ctx.keystore.verifyOrPinPeerKey H args.peerId ⟨pk, h⟩ clock with
      | (.error e, keystore) => (.error e, { ctx with keystore })
      | (.ok _, keystore) => (.ok (), { ctx with keystore })
    else (.ok (), ctx)

def remoteDh : Except ProtocolError Bytes32 := do
  let key ← okOr (match role with
    | .initiator => args.peerSignedPrekey
    | .responder => args.peerOnetimePrekey) .invalidState
  tryInto 32 key .invalidKeyLength

def performHandshake (role : HandshakeRole) (args : PeerArgs) :
    Outcome (SecureContext S (KeyStore S) γ) Bytes :=
  match ctx.runHandshake H env role args with
  | .error e => (.error e, ctx)
  | .ok output =>
    match ctx.pinPeer H env.pinClock args with
    | (.error e, ctx) => (.error e, ctx)
    | (.ok (), ctx) =>
      match remoteDh role args with
      | .error e => (.error e, ctx)
      | .ok remote =>
        match DoubleRatchetSession.fromSharedSecret (S.keyBytes output.sharedSecret)
            output.localEphemeralKey remote ctx.config.toConfig role env.clock with
        | .error e => (.error e, ctx)
        | .ok session =>
          (.ok args.peerId, { ctx with
            sessions := { ctx.sessions with
              sessions := ctx.sessions.sessions.insert args.peerId session } })

end

end

variable {H : HandshakeSuite S} {ctx : SecureContext S (KeyStore S) γ}

lemma performHandshake_of_refused {env : PerformEnv S} {args : PeerArgs} {e : ProtocolError}
    (hra : ctx.config.enableRateLimiting = false) (hsa : ctx.config.requireSafetyNumbers = false)
    (h : checkSpkSignature H .initiator args = .error e) :
    ctx.performHandshake H env .initiator args = (.error e, ctx) := by
  have hr : ctx.runHandshake H env .initiator args = .error e := by
    simp only [runHandshake, handshakeWith, hra, hsa, ensure, h]
    rfl
  simp only [performHandshake, hr]

lemma checkSpkSignature_refused {args : PeerArgs} {ik spk : Bytes32} {sig : FixedBytes 64}
    (hik : args.peerIdentityKey = some ik.val) (hsp : args.peerSignedPrekey = some spk.val)
    (hsi : args.peerSpkSignature = some sig) (hok : H.ed.verifyingKeyOk ik = true)
    (hv : H.ed.verify ik (spkLabel ++ spk.val) sig = false) :
    checkSpkSignature H .initiator args = .error .invalidSignature := by
  simp only [checkSpkSignature, hik, hsp, hsi, FixedBytes.length_val, beq_self_eq_true,
    Bool.and_self, ensure, if_true, ok_bind, tryInto_val, hok, okOr, hv, Bool.false_eq_true,
    if_false]

lemma spkLabel_append_ne (spk spk' : Bytes32) : spkLabel ++ spk.val ≠ spk'.val := by
  intro h
  have hl := congrArg List.length h
  simp [spkLabel] at hl

lemma getSignedPrekeySignature_ok {ks : KeyStore S} {sig : FixedBytes 64}
    (h : ks.getSignedPrekeySignature = .ok sig) :
    ∃ prekey, ks.signedPrekey = some prekey ∧ prekey.signature = sig.val := by
  unfold KeyStore.getSignedPrekeySignature at h
  split at h
  · cases h
  rename_i prekey hpr
  split at h
  · grind
  · cases h

/-- The store's own signature is refused for every identity and every signed prekey, as is a
signature by any other identity. -/
theorem signed_prekey_refused {R : SignatureRecord} (hR : R.Sound H.ed.verify)
    (hkeys : ∀ secret, H.ed.verifyingKeyOk (H.ed.verifyingKey secret) = true)
    {ks ks' : KeyStore S} (hks : ks.Reachable H) {gen : KeyGenEnv S}
    (hgen : ks.generateSignedPrekey H gen = (.ok (), ks'))
    {identity : IdentityKeyPair S} (hidentity : ks'.getIdentityKeypair = .ok identity)
    {spk : Bytes32} (hspk : ks'.getSignedPrekeyPublic = .ok spk)
    {sig : FixedBytes 64} (hsig : ks'.getSignedPrekeySignature = .ok sig)
    (hmade : ∀ secret, identity.ed25519Secret = some secret →
      R.made (H.ed.verifyingKey secret) (S.publicKey gen.scalar).val
        (H.ed.sign secret (S.publicKey gen.scalar).val))
    (hrate : ctx.config.enableRateLimiting = false)
    (hsafe : ctx.config.requireSafetyNumbers = false) (env : PerformEnv S) (peerId : Bytes)
    (opk : Option Bytes) (device : Option (FixedBytes 16)) (prologue : Option Bytes) :
    (ctx.performHandshake H env .initiator ⟨peerId, some identity.ed25519Public.val,
      some spk.val, some sig, opk, device, prologue⟩).1 = .error .invalidSignature ∧
    ∀ {other : Bytes32} {message : Bytes} {forged : FixedBytes 64},
      other ≠ identity.ed25519Public → R.made other message forged →
        (ctx.performHandshake H env .initiator ⟨peerId, some identity.ed25519Public.val,
          some spk.val, some forged, opk, device, prologue⟩).1 = .error .invalidSignature := by
  obtain ⟨i, prekey, hi, hprekey, rfl⟩ := KeyStore.generateSignedPrekey_ok hgen
  obtain ⟨secret, -, hsecret, -, -, hpublic, hsigned, -⟩ := SignedPreKey.generate_ok hprekey
  simp only [KeyStore.getIdentityKeypair, hi] at hidentity
  obtain rfl := Except.ok.inj hidentity
  have hkey := IdentityKeyPair.isValid_ed25519 (hks.wellFormed.identity hi) hsecret
  have hok : H.ed.verifyingKeyOk i.ed25519Public = true := by
    rw [hkey]
    exact hkeys secret
  obtain ⟨prekey', hprekey', hsig'⟩ := getSignedPrekeySignature_ok hsig
  cases hprekey'
  obtain rfl : sig = H.ed.sign secret (S.publicKey gen.scalar).val :=
    Subtype.ext (hsig'.symm.trans hsigned)
  obtain rfl : spk = S.publicKey gen.scalar := (Except.ok.inj hspk).symm.trans hpublic
  have hrefused : ∀ s,
      H.ed.verify i.ed25519Public (spkLabel ++ (S.publicKey gen.scalar).val) s = false →
      (ctx.performHandshake H env .initiator ⟨peerId, some i.ed25519Public.val,
        some (S.publicKey gen.scalar).val, some s, opk, device, prologue⟩).1 =
          .error .invalidSignature := by
    intro s hs
    rw [performHandshake_of_refused hrate hsafe (checkSpkSignature_refused rfl rfl rfl hok hs)]
  refine ⟨?_, ?_⟩
  · exact hrefused _ (hR.refused (hmade secret hsecret) (.inr (spkLabel_append_ne _ _)))
  · intro other message forged hne hforged
    exact hrefused forged (hR.refused hforged (.inl (Ne.symm hne)))

end SecureContext

namespace Symbolic

def signedMessages : List Bytes := [(publicKey 5).val]

def bareStore : KeyStore suite :=
  KeyStore.run (handshake signedMessages) KeyStore.new [.setIdentity (identity 4)]

def prekeyDraw : KeyGenEnv suite := ⟨scalar 5, some seed, some 1000⟩

def context : SecureContext suite (KeyStore suite) Unit where
  keystore := store signedMessages 1 2 3
  sessions := ⟨∅, ContextConfig.default⟩
  groups := ()
  config :=
    { ContextConfig.default with enableRateLimiting := false, requireSafetyNumbers := false }
  storageKey := suite.zeroKey
  storageSalt := secret
  deviceId := device 1
  sequenceNumber := 0

def performEnv (clock : Clock) : PerformEnv suite :=
  ⟨true, true, ⟨scalar 7, some secret, some 2000⟩, some 2000, clock⟩

lemma ed_keysOk (me : List Bytes) (se : Bytes32) :
    (ed me).verifyingKeyOk ((ed me).verifyingKey se) = true := by
  simp [ed, verifyingKey]

end Symbolic

namespace SecureContext

open Symbolic

theorem signed_prekey_refused_once :
    ∃ ks' sig, bareStore.generateSignedPrekey (handshake signedMessages) prekeyDraw =
        (.ok (), ks') ∧ ks'.getSignedPrekeySignature = .ok sig ∧
      (context.performHandshake (handshake signedMessages)
        (performEnv (env 2000 0).clock) .initiator
        ⟨[9], some (identity 4).ed25519Public.val, some (publicKey 5).val, some sig, none, none,
          none⟩).1 = .error .invalidSignature := by
  have hgen : bareStore.generateSignedPrekey (handshake signedMessages) prekeyDraw =
      (.ok (), { bareStore with signedPrekey := some (prekey signedMessages 4 5) }) := by
    rfl
  refine ⟨_, (ed signedMessages).sign (publicKey 4) (publicKey 5).val, hgen, rfl, ?_⟩
  refine (signed_prekey_refused (signatures_sound signedMessages (by decide))
    (ed_keysOk signedMessages) ⟨_, rfl⟩ hgen rfl rfl rfl ?_ rfl rfl _ [9] none none none).1
  intro secret hsecret
  obtain rfl := Option.some.inj hsecret
  change (ed signedMessages).verify _ _ _ = true
  decide +kernel

/-- The store's signature verifies over the key alone, and the context refuses it. -/
theorem own_signature_refused :
    let sig := (ed signedMessages).sign (publicKey 4) (publicKey 5).val
    (ed signedMessages).verify (identity 4).ed25519Public (publicKey 5).val sig = true ∧
      (context.performHandshake (handshake signedMessages)
        (performEnv (env 2000 0).clock) .initiator
        ⟨[9], some (identity 4).ed25519Public.val, some (publicKey 5).val, some sig, none, none,
          none⟩).1 = .error .invalidSignature := by
  decide +kernel

end SecureContext

end Sibna
