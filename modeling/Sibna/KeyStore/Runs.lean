import Sibna.Handshake.PreKeyBundle
import Sibna.Handshake.Symbolic
import Sibna.Lib.Maps

/-!
# Runs of the key store

Every call keeps the store well formed. Encrypting a store and reading it back is the call `reload`.
-/

namespace Sibna

variable {S : Suite}

structure SignedPreKey.Matching (H : HandshakeSuite S) (k : SignedPreKey S) : Prop where
  publicKey : ∀ {x}, k.secret = some x → k.publicKey = S.publicKey x
  pq : ∃ d, k.pqPublic = some (H.kem.keyGen d).1.val ∧ k.pqSecret = some (H.kem.keyGen d).2.val

def OneTimePreKey.Matching (k : OneTimePreKey S) : Prop :=
  ∀ x, k.secret = some x → k.publicKey = S.publicKey x

namespace KeyStore

structure WellFormed (H : HandshakeSuite S) (ks : KeyStore S) : Prop where
  identity : ∀ {i}, ks.identity = some i → i.isValid H = true
  signedPrekey : ∀ {k}, ks.signedPrekey = some k → k.Matching H
  onetimePrekeys : ∀ {id k}, ks.onetimePrekeys.lookup id = some k → k.Matching

inductive Call (S : Suite) where
  | setIdentity (identity : IdentityKeyPair S)
  | setDeviceLink (deviceId : UInt32) (rootKey : Bytes32) (signature : FixedBytes 64)
  | generateSignedPrekey (env : KeyGenEnv S)
  | rotateSignedPrekey (env : KeyGenEnv S)
  | generateOnetimePrekeys (count : Nat) (draw : Nat → S.Scalar × Option Nat)
  | replenishOnetimePrekeys (threshold target : Nat) (clock : Option Nat)
      (draw : Nat → S.Scalar × Option Nat)
  | markOnetimeUsed (keyId : Nat)
  | pruneKeys (clock : Option Nat)
  | reload
  | verifyOrPinPeerKey (peerId : Bytes) (newKey : Bytes32) (clock : Option Nat)
  | markPeerVerified (peerId : Bytes)
  | removePeerPin (peerId : Bytes)

section
variable (H : HandshakeSuite S) (ks : KeyStore S)

def step : Call S → KeyStore S
  | .setIdentity identity => (ks.setIdentity H identity).2
  | .setDeviceLink deviceId rootKey signature => ks.setDeviceLink deviceId rootKey signature
  | .generateSignedPrekey env => (ks.generateSignedPrekey H env).2
  | .rotateSignedPrekey env => (ks.rotateSignedPrekey H env).2
  | .generateOnetimePrekeys count draw => (ks.generateOnetimePrekeys count draw).2
  | .replenishOnetimePrekeys threshold target clock draw =>
    (ks.replenishOnetimePrekeys threshold target clock draw).2
  | .markOnetimeUsed keyId => ks.markOnetimeUsed keyId
  | .pruneKeys clock => ks.pruneKeys clock
  | .reload => ks.saved
  | .verifyOrPinPeerKey peerId newKey clock => (ks.verifyOrPinPeerKey H peerId newKey clock).2
  | .markPeerVerified peerId => ks.markPeerVerified peerId
  | .removePeerPin peerId => ks.removePeerPin peerId

def run (calls : List (Call S)) : KeyStore S :=
  Runs.exec (step H) ks calls

def Reachable : Prop :=
  ∃ calls, ks = run H new calls

def renews : Call S → Bool
  | .generateSignedPrekey env => (ks.generateSignedPrekey H env).1.isOk
  | .rotateSignedPrekey env => (ks.generateSignedPrekey H env).1.isOk
  | _ => false

inductive Change (H : HandshakeSuite S) (ks : KeyStore S) : KeyStore S → Prop where
  | identity {i : IdentityKeyPair S} (hi : i.isValid H = true) :
      Change H ks { ks with identity := some i }
  | onetime (x : S.Scalar) (clock : Option Nat) :
      Change H ks { ks with
        nextOnetimeId := ks.nextOnetimeId + 1
        onetimePrekeys := ks.onetimePrekeys.insert ks.nextOnetimeId
          (.generate ks.nextOnetimeId x clock) }
  | used {id : Nat} {k : OneTimePreKey S} (hk : ks.onetimePrekeys.lookup id = some k) :
      Change H ks { ks with onetimePrekeys := ks.onetimePrekeys.insert id k.markUsed }
  | pruned (clock : Option Nat) : Change H ks (ks.pruneKeys clock)
  | pins (pins : AList fun _ : Bytes => PinnedKey S) : Change H ks { ks with peerPins := pins }

abbrev Changes : KeyStore S → KeyStore S → Prop :=
  Relation.ReflTransGen (Change H)

end

/-- What a call does to the store. All but three of them only make changes that keep what the
signed prekey, its signature and the link are. -/
inductive Effect (H : HandshakeSuite S) (ks : KeyStore S) (c : Call S) : Prop where
  | link (deviceId : UInt32) (rootKey : Bytes32) (signature : FixedBytes 64)
      (hc : c = .setDeviceLink deviceId rootKey signature)
  | reload (hc : c = .reload)
  | renewed {env : KeyGenEnv S} {i : IdentityKeyPair S} {k : SignedPreKey S}
      (hc : c = .generateSignedPrekey env ∨ c = .rotateSignedPrekey env)
      (hrenews : renews H ks c = true) (hi : ks.identity = some i)
      (hk : SignedPreKey.generate H 1 i env = .ok k)
      (hstep : ks.step H c = { ks with signedPrekey := some k })
  | changed
      (hlink : ∀ deviceId rootKey signature, c ≠ .setDeviceLink deviceId rootKey signature)
      (hreload : c ≠ .reload) (hrenews : renews H ks c = false)
      (hchanges : Changes H ks (ks.step H c))

variable {H : HandshakeSuite S} {ks ks' : KeyStore S}

lemma Changes.invariant {P : KeyStore S → Prop} (h : Changes H ks ks')
    (hs : ∀ ks ks', Change H ks ks' → P ks → P ks') (hks : P ks) : P ks' := by
  induction h with
  | refl => exact hks
  | tail _ h ih => exact hs _ _ h ih

lemma getIdentityKeypair_ok {i : IdentityKeyPair S}
    (h : ks.getIdentityKeypair = .ok i) : ks.identity = some i := by
  unfold getIdentityKeypair at h
  split at h
  · cases h
  · simp_all

lemma generateSignedPrekey_cases (H : HandshakeSuite S) (ks : KeyStore S) (env : KeyGenEnv S) :
    (∃ i k, ks.identity = some i ∧ SignedPreKey.generate H 1 i env = .ok k ∧
      ks.generateSignedPrekey H env = (.ok (), { ks with signedPrekey := some k })) ∨
    ∃ e, ks.generateSignedPrekey H env = (.error e, ks) := by
  unfold generateSignedPrekey
  split
  · exact .inr ⟨_, rfl⟩
  rename_i i hid
  split
  · exact .inr ⟨_, rfl⟩
  · rename_i k hk
    exact .inl ⟨i, k, getIdentityKeypair_ok hid, hk, rfl⟩

lemma generateSignedPrekey_ok {env : KeyGenEnv S}
    (h : ks.generateSignedPrekey H env = (.ok (), ks')) : ∃ identity prekey,
    ks.identity = some identity ∧ SignedPreKey.generate H 1 identity env = .ok prekey ∧
    ks' = { ks with signedPrekey := some prekey } := by
  rcases generateSignedPrekey_cases H ks env with ⟨i, k, hi, hk, heq⟩ | ⟨e, heq⟩
  · exact ⟨i, k, hi, hk, congrArg Prod.snd (h.symm.trans heq)⟩
  · cases h.symm.trans heq

lemma rotateSignedPrekey_snd (env : KeyGenEnv S) :
    (ks.rotateSignedPrekey H env).2 = (ks.generateSignedPrekey H env).2 := by
  unfold rotateSignedPrekey
  generalize ks.generateSignedPrekey H env = o
  obtain ⟨r, ks'⟩ := o
  cases r <;> rfl

lemma verifyOrPinPeerKey_snd (p : Bytes) (n : Bytes32) (cl : Option Nat) :
    (ks.verifyOrPinPeerKey H p n cl).2 = (ks.pinPeerKey H p n cl).2 := by
  unfold verifyOrPinPeerKey
  generalize ks.pinPeerKey H p n cl = o
  obtain ⟨r, ks'⟩ := o
  cases r <;> rfl

lemma changes_addOnetimePrekeys (draw : Nat → S.Scalar × Option Nat) (co : Nat)
    (ks : KeyStore S) : Changes H ks (addOnetimePrekeys draw co ks).2 := by
  induction co generalizing ks with
  | zero => exact .refl
  | succ co ih => exact .head (.onetime _ _) (ih _)

lemma changes_generateOnetimePrekeys (co : Nat) (draw : Nat → S.Scalar × Option Nat) :
    Changes H ks (ks.generateOnetimePrekeys co draw).2 := by
  unfold generateOnetimePrekeys
  split
  · exact .refl
  · exact changes_addOnetimePrekeys draw co ks

lemma effect_signed (H : HandshakeSuite S) (ks : KeyStore S) {c : Call S} {env : KeyGenEnv S}
    (hc : c = .generateSignedPrekey env ∨ c = .rotateSignedPrekey env) : Effect H ks c := by
  have hca : renews H ks c = (ks.generateSignedPrekey H env).1.isOk ∧
      ks.step H c = (ks.generateSignedPrekey H env).2 := by
    rcases hc with rfl | rfl
    · exact ⟨rfl, rfl⟩
    · exact ⟨rfl, rotateSignedPrekey_snd env⟩
  rcases generateSignedPrekey_cases H ks env with ⟨i, k, hi, hk, heq⟩ | ⟨e, heq⟩
  · rw [heq] at hca
    exact .renewed hc hca.1 hi hk hca.2
  rw [heq] at hca
  refine .changed ?_ ?_ hca.1 ?_
  · rcases hc with rfl | rfl <;> exact nofun
  · rcases hc with rfl | rfl <;> exact nofun
  · rw [hca.2]

lemma effect_step (H : HandshakeSuite S) (ks : KeyStore S) (c : Call S) : Effect H ks c := by
  cases c with
  | setDeviceLink di r si => exact .link di r si rfl
  | reload => exact .reload rfl
  | generateSignedPrekey env => exact effect_signed H ks (.inl rfl)
  | rotateSignedPrekey env => exact effect_signed H ks (.inr rfl)
  | setIdentity i =>
    refine .changed nofun nofun rfl ?_
    simp only [step, setIdentity]
    split
    · rename_i hv
      exact .single (.identity hv)
    · exact .refl
  | generateOnetimePrekeys co draw =>
    exact .changed nofun nofun rfl (changes_generateOnetimePrekeys co draw)
  | replenishOnetimePrekeys th ta cl draw =>
    refine .changed nofun nofun rfl ?_
    have hg : Changes H ks _ :=
      changes_generateOnetimePrekeys (ta - ks.onetimePrekeyCount cl) draw
    simp only [step, replenishOnetimePrekeys]
    split
    · exact .refl
    · split <;> rename_i heq <;> rwa [heq] at hg
  | markOnetimeUsed ki =>
    refine .changed nofun nofun rfl ?_
    simp only [step, markOnetimeUsed]
    split
    · exact .refl
    · rename_i hk
      exact .single (.used hk)
  | pruneKeys cl => exact .changed nofun nofun rfl (.single (.pruned cl))
  | verifyOrPinPeerKey p n cl =>
    refine .changed nofun nofun rfl ?_
    simp only [step, verifyOrPinPeerKey_snd, pinPeerKey]
    split
    · exact .single (.pins _)
    · split <;> exact .refl
  | markPeerVerified p =>
    refine .changed nofun nofun rfl ?_
    simp only [step, markPeerVerified]
    split
    · exact .refl
    · exact .single (.pins _)
  | removePeerPin p => exact .changed nofun nofun rfl (.single (.pins _))

lemma lookup_pruneKeys {cl : Option Nat} {id : Nat} {k : OneTimePreKey S}
    (h : (ks.pruneKeys cl).onetimePrekeys.lookup id = some k) :
    ks.onetimePrekeys.lookup id = some k := by
  have hm := List.mem_of_mem_filter (List.of_mem_dlookup h)
  exact List.mem_dlookup ks.onetimePrekeys.nodupKeys hm

lemma lookup_saved {id : Nat} {k : OneTimePreKey S}
    (h : ks.saved.onetimePrekeys.lookup id = some k) :
    ∃ k', ks.onetimePrekeys.lookup id = some k' ∧ k = k'.saved := by
  obtain ⟨k', hk', rfl⟩ := Option.map_eq_some_iff.mp ((List.dlookup_map₂ id).symm.trans h)
  exact ⟨k', hk', rfl⟩

lemma wellFormed_new : WellFormed H (new : KeyStore S) where
  identity := by intro i h; cases h
  signedPrekey := by intro k h; cases h
  onetimePrekeys := by intro id k h; cases h

lemma WellFormed.change (hc : Change H ks ks') (h : ks.WellFormed H) : ks'.WellFormed H := by
  cases hc with
  | identity hi =>
    refine ⟨?_, h.signedPrekey, h.onetimePrekeys⟩
    rintro i' ⟨⟩
    exact hi
  | onetime x cl =>
    refine ⟨h.identity, h.signedPrekey, ?_⟩
    intro id k hk
    rcases Maps.lookup_insert_some hk with ⟨-, rfl⟩ | ⟨-, hk⟩
    · rintro y ⟨⟩
      rfl
    · exact h.onetimePrekeys hk
  | used hu =>
    refine ⟨h.identity, h.signedPrekey, ?_⟩
    intro id k hk
    rcases Maps.lookup_insert_some hk with ⟨-, rfl⟩ | ⟨-, hk⟩
    · rintro y ⟨⟩
    · exact h.onetimePrekeys hk
  | pruned cl =>
    refine ⟨h.identity, ?_, fun hk => h.onetimePrekeys (lookup_pruneKeys hk)⟩
    intro k hk
    obtain ⟨hk, -⟩ := Option.filter_eq_some_iff.mp hk
    exact h.signedPrekey hk
  | pins pins => exact { h with }

lemma WellFormed.saved (h : ks.WellFormed H) : ks.saved.WellFormed H := by
  refine ⟨?_, ?_, ?_⟩
  · intro i hi
    obtain ⟨i', hi', rfl⟩ := Option.map_eq_some_iff.mp hi
    exact IdentityKeyPair.isValid_saved (h.identity hi')
  · intro k hk
    obtain ⟨k', hk', rfl⟩ := Option.map_eq_some_iff.mp hk
    refine ⟨?_, (h.signedPrekey hk').pq⟩
    rintro x ⟨⟩
  · intro id k hk
    obtain ⟨k', -, rfl⟩ := lookup_saved hk
    rintro x ⟨⟩

lemma WellFormed.step (h : ks.WellFormed H) (call : Call S) : (ks.step H call).WellFormed H := by
  cases effect_step H ks call with
  | link di r si hc =>
    subst hc
    exact { h with }
  | reload hc =>
    subst hc
    exact h.saved
  | renewed _ _ _ hpr hs =>
    rw [hs]
    refine ⟨h.identity, ?_, h.onetimePrekeys⟩
    rintro k ⟨⟩
    obtain ⟨se, d, -, -, hse, hpu, -, hpk, hsk⟩ := SignedPreKey.generate_ok hpr
    refine ⟨?_, d, hpk, hsk⟩
    intro x hx
    rw [hpu, Option.some.inj (hse.symm.trans hx)]
  | changed _ _ _ hch => exact hch.invariant (fun _ _ => WellFormed.change) h

lemma Reachable.wellFormed (h : ks.Reachable H) : ks.WellFormed H := by
  obtain ⟨ca, rfl⟩ := h
  exact Runs.exec_invariant (fun _ call hs => hs.step call) ca wellFormed_new

end KeyStore

/-- bincode with the serde attributes of the store. -/
structure KeyStoreCodec (S : Suite) where
  encode : KeyStore S → Option Bytes
  decode : Bytes → Option (KeyStore S)

/-- What was written is read back without the scalars that are left out. -/
def KeyStoreCodec.RoundTrip (K : KeyStoreCodec S) : Prop :=
  ∀ ks bytes, K.encode ks = some bytes → K.decode bytes = some ks.saved

namespace KeyStore

/-- `SibnaKeyStore_v3`. -/
def storeLabel : Bytes :=
  [83, 105, 98, 110, 97, 75, 101, 121, 83, 116, 111, 114, 101, 95, 118, 51]

def toEncryptedBytes (K : KeyStoreCodec S) (ks : KeyStore S) (encryptionKey : S.Key)
    (nonce : Option (FixedBytes 12)) : Except ProtocolError Bytes := do
  let plaintext ← okOr (K.encode ks) .serializationError
  let handler ← (CryptoHandler.new encryptionKey).mapError fun _ => .internalError
  (handler.encrypt nonce plaintext storeLabel).mapError fun _ => .storageError

def fromEncryptedBytes (K : KeyStoreCodec S) (data : Bytes) (encryptionKey : S.Key) :
    Except ProtocolError (KeyStore S) := do
  let handler ← (CryptoHandler.new encryptionKey).mapError fun _ => .internalError
  let plaintext ← (handler.decrypt data storeLabel).mapError fun _ => .storageError
  okOr (K.decode plaintext) .deserializationError

variable {ks : KeyStore S}

lemma fromEncryptedBytes_ok (hA : S.CorrectAead) {K : KeyStoreCodec S} (hK : K.RoundTrip)
    {ks' : KeyStore S} {ek : S.Key} {n : Option (FixedBytes 12)} {data : Bytes}
    (h : ks.toEncryptedBytes K ek n = .ok data)
    (h' : fromEncryptedBytes K data ek = .ok ks') : ks' = ks.saved := by
  obtain ⟨p, hpl, h⟩ := bind_ok.mp h
  obtain ⟨ha, hha, hse⟩ := bind_ok.mp h
  obtain ⟨ha', hh', h'⟩ := bind_ok.mp h'
  obtain ⟨p', ho, hre⟩ := bind_ok.mp h'
  cases hha.symm.trans hh'
  have heq := CryptoHandler.decrypt_encrypt hA (mapError_ok.mp hse) (mapError_ok.mp ho)
  have hde := hK ks p (okOr_ok.mp hpl)
  rw [heq, hde] at hre
  exact (Except.ok.inj hre).symm

/-- What a bundle takes from outside: the order in which the one-time prekeys are walked, the
clock at which they are looked at, the random id and the clock of the bundle. -/
structure BundleEnv where
  order : List Nat
  onetimeClock : Option Nat
  bundleId : FixedBytes 16
  clock : Option Nat

lemma zeroSignature_length : (List.replicate 64 (0 : UInt8)).length = 64 := by simp

section
variable (H : HandshakeSuite S) (ks : KeyStore S)

/-- A stored signature of another length counts as zeros; without one the identity signs for
itself. -/
def deviceSignatureFor (identity : IdentityKeyPair S) : Except ProtocolError (FixedBytes 64) :=
  match ks.deviceSignature with
  | some s =>
    .ok (if h : s.length = 64 then ⟨s, h⟩ else ⟨List.replicate 64 0, zeroSignature_length⟩)
  | none => identity.sign H (PreKeyBundle.devicePayload identity.ed25519Public ks.deviceId)

def withPqPrekeyOf (identity : IdentityKeyPair S) (b : PreKeyBundle) :
    Except ProtocolError PreKeyBundle :=
  match ks.getSignedPrekeyPqPublic with
  | .error _ => .ok b
  | .ok pk => (identity.sign H pk).map (b.withPqPrekey pk)

def generatePrekeyBundleBytes (env : BundleEnv) : Except ProtocolError Bytes := do
  let identity ← ks.getIdentityKeypair
  let spkPub ← ks.getSignedPrekeyPublic
  let sig ← ks.getSignedPrekeySignature
  let opk := (ks.getOnetimePrekeyPublic env.order env.onetimeClock).toOption.map Prod.snd
  let rootKey := ks.rootIdentityKey.getD identity.ed25519Public
  let devSig ← ks.deviceSignatureFor H identity
  let bundle ← ks.withPqPrekeyOf H identity
    (.new identity.ed25519Public spkPub sig opk ks.deviceId rootKey devSig env.bundleId env.clock)
  let bundle ← bundle.signBundle (identity.sign H)
  return bundle.toBytes

end

lemma withPqPrekeyOf_ok {H : HandshakeSuite S} {i : IdentityKeyPair S} {b b' : PreKeyBundle}
    (h : ks.withPqPrekeyOf H i b = .ok b') :
    (∃ pq sig, b' = { b with pqSignedPrekey := pq, pqSignedPrekeySignature := sig }) ∧ ∀ pk,
    ks.signedPrekey.bind SignedPreKey.pqPublic = some pk → ∃ sig, i.sign H pk = .ok sig ∧
    b' = b.withPqPrekey pk sig := by
  unfold withPqPrekeyOf getSignedPrekeyPqPublic at h
  cases hpk : ks.signedPrekey.bind SignedPreKey.pqPublic with
  | none =>
    rw [hpk] at h
    cases h
    exact ⟨⟨_, _, rfl⟩, nofun⟩
  | some pk =>
    rw [hpk] at h
    obtain ⟨sig, hsi, rfl⟩ := exceptMap_ok.mp h
    refine ⟨⟨_, _, rfl⟩, ?_⟩
    rintro pk' ⟨⟩
    exact ⟨sig, hsi, rfl⟩

lemma getSignedPrekeyPublic_ok {spk : Bytes32} (h : ks.getSignedPrekeyPublic = .ok spk) :
    ∃ prekey, ks.signedPrekey = some prekey ∧ prekey.publicKey = spk := by
  obtain ⟨prekey, hpr, rfl⟩ := exceptMap_ok.mp h
  unfold getSignedPrekey at hpr
  split at hpr
  · cases hpr
  · simp_all

lemma getSignedPrekeySignature_ok {p : SignedPreKey S} {sig : FixedBytes 64}
    (hpr : ks.signedPrekey = some p) (h : ks.getSignedPrekeySignature = .ok sig) :
    p.signature = sig.val := by
  unfold getSignedPrekeySignature at h
  rw [hpr] at h
  simp only at h
  split at h
  · exact congrArg Subtype.val (Except.ok.inj h)
  · cases h

structure Issued (H : HandshakeSuite S) (ks : KeyStore S) (env : BundleEnv)
    (i : IdentityKeyPair S) (k : SignedPreKey S) (bundle : PreKeyBundle) : Prop where
  identity : ks.identity = some i
  prekey : ks.signedPrekey = some k
  identityKey : bundle.identityKey = i.ed25519Public
  signedPrekey : bundle.signedPrekey = k.publicKey
  signature : k.signature = bundle.signature.val
  onetimePrekey : bundle.onetimePrekey =
    (ks.getOnetimePrekeyPublic env.order env.onetimeClock).toOption.map Prod.snd
  expiration : bundle.expiration = UInt64.ofNat (creationTime env.clock + PreKeyBundle.lifetime)
  deviceId : bundle.deviceId = ks.deviceId
  rootIdentityKey : bundle.rootIdentityKey = ks.rootIdentityKey.getD i.ed25519Public
  deviceSignature : ks.deviceSignatureFor H i = .ok bundle.deviceSignature
  pq : ∀ pk, k.pqPublic = some pk → bundle.pqSignedPrekey = some pk ∧
    ∃ sig, i.sign H pk = .ok sig ∧ bundle.pqSignedPrekeySignature = some sig
  bundleSignature : i.sign H bundle.signingBytes = .ok bundle.bundleSignature

lemma generatePrekeyBundleBytes_ok {H : HandshakeSuite S} {env : BundleEnv} {bt : Bytes}
    (h : ks.generatePrekeyBundleBytes H env = .ok bt) : ∃ identity prekey bundle,
    bt = PreKeyBundle.toBytes bundle ∧ ks.Issued H env identity prekey bundle := by
  obtain ⟨identity, hid, h⟩ := bind_ok.mp h
  obtain ⟨sp, hsp, h⟩ := bind_ok.mp h
  obtain ⟨sig, hs, h⟩ := bind_ok.mp h
  obtain ⟨ds, hd, h⟩ := bind_ok.mp h
  obtain ⟨bundle, hb, h⟩ := bind_ok.mp h
  obtain ⟨si, hsi, h⟩ := bind_ok.mp h
  obtain ⟨bs, hu, hse⟩ := bind_ok.mp hsi
  obtain ⟨prekey, hpr, rfl⟩ := getSignedPrekeyPublic_ok hsp
  obtain ⟨⟨pq, p, rfl⟩, hpq⟩ := withPqPrekeyOf_ok hb
  cases hse
  refine ⟨identity, prekey, _, (Except.ok.inj h).symm, getIdentityKeypair_ok hid, hpr, rfl,
    rfl, getSignedPrekeySignature_ok hpr hs, rfl, rfl, rfl, rfl, hd, ?_,
    hu⟩
  intro pk hpk
  obtain ⟨p', hsg, heq⟩ := hpq pk (by rw [hpr, Option.bind_some, hpk])
  exact ⟨congrArg PreKeyBundle.pqSignedPrekey heq, p', hsg,
    congrArg PreKeyBundle.pqSignedPrekeySignature heq⟩

lemma Issued.fromBytes {H : HandshakeSuite S} {ks : KeyStore S} {env : BundleEnv}
    {i : IdentityKeyPair S} {p : SignedPreKey S} {bu : PreKeyBundle} (h : ks.Issued H env i p bu)
    (hw : ks.WellFormed H) : PreKeyBundle.fromBytes bu.toBytes = some (.ok bu) := by
  obtain ⟨d, hpk, -⟩ := (hw.signedPrekey h.prekey).pq
  obtain ⟨hpq, sig, -, hsi⟩ := h.pq _ hpk
  exact PreKeyBundle.fromBytes_toBytes hpq (H.kem.keyGen d).1.property hsi

end KeyStore

end Sibna

namespace Sibna.Symbolic

section
variable (messages : List Bytes) (x : UInt64)

def identity : IdentityKeyPair suite :=
  .generate (handshake []) (publicKey x) (scalar x) (some 1000)

def prekey (y : UInt64) : SignedPreKey suite where
  keyId := 1
  secret := some (scalar y)
  publicKey := publicKey y
  signature := ((ed messages).sign (publicKey x) (publicKey y).val).val
  pqSecret := some (kem.keyGen seed).2.val
  pqPublic := some (kem.keyGen seed).1.val
  createdAt := 1000

def store (y z : UInt64) : KeyStore suite :=
  KeyStore.run (handshake messages) KeyStore.new
    [.setIdentity (identity x), .generateSignedPrekey ⟨scalar y, some seed, some 1000⟩,
      .generateOnetimePrekeys 1 fun _ => (scalar z, some 1000)]

lemma publicKey_not_lowOrder : (publicKey x).val ∉ lowOrderPoints := by
  have hpo : ∀ p ∈ lowOrderPoints, p.drop 8 ≠ List.replicate 24 9 := by decide
  intro h
  apply hpo _ h
  exact List.drop_left' (by simp)

lemma verifyingKey_publicKey : verifyingKey (publicKey x) = publicKey x := by
  apply Subtype.ext
  simp [verifyingKey, publicKey]

lemma identity_isValid : (identity x).isValid (handshake messages) = true := by
  have hz : isZero (publicKey x).val = false := dh.publicKey_ne_zero x
  have hl := publicKey_not_lowOrder x
  have hed := verifyingKey_publicKey x
  simp [IdentityKeyPair.isValid, validatePublicKey, Except.isOk, Except.toBool, identity,
    IdentityKeyPair.generate, handshake, ed, suite, scalar, hed, hz, hl]

end

section
variable (messages : List Bytes) (x y z : UInt64)
include messages x y z

lemma store_eq : store messages x y z = { KeyStore.new with
      identity := some (identity x)
      signedPrekey := some (prekey messages x y)
      onetimePrekeys := (∅ : AList fun _ : Nat => OneTimePreKey suite).insert 1
        (.generate 1 (scalar z) (some 1000))
      nextOnetimeId := 2 } := by
  simp only [store, KeyStore.run, Runs.exec, List.foldl, KeyStore.step, KeyStore.setIdentity,
    identity_isValid]
  rfl

lemma store_identity : (store messages x y z).identity = some (identity x) := by
  rw [store_eq]

lemma store_signedPrekey : (store messages x y z).signedPrekey = some (prekey messages x y) := by
  rw [store_eq]

lemma store_onetimePrekey :
    (store messages x y z).onetimePrekeys.lookup 1 = some (.generate 1 (scalar z) (some 1000)) := by
  rw [store_eq]
  rfl

lemma store_reachable : (store messages x y z).Reachable (handshake messages) :=
  ⟨_, rfl⟩

end

end Sibna.Symbolic
