import Sibna.KeyStore.Advertised
import Sibna.P2p.Responder

/-!
# Bundles that their own store would accept

A bundle is valid as long as the identity is the one that the kept signatures are for.
-/

namespace Sibna

variable {S : Suite}

namespace KeyStore

section
variable {H : HandshakeSuite S} {ks : KeyStore S}

structure Keeps (ks ks' : KeyStore S) : Prop where
  deviceId : ks'.deviceId = ks.deviceId
  rootIdentityKey : ks'.rootIdentityKey = ks.rootIdentityKey
  deviceSignature : ks'.deviceSignature = ks.deviceSignature
  signedPrekey : ∀ k', ks'.signedPrekey = some k' → ∃ k, ks.signedPrekey = some k ∧
    k'.publicKey = k.publicKey ∧ k'.signature = k.signature

lemma Keeps.change {ks₁ ks₂ : KeyStore S} (hc : Change H ks₁ ks₂) (h : Keeps ks ks₁) :
    Keeps ks ks₂ := by
  cases hc with
  | pruned cl =>
    refine ⟨h.deviceId, h.rootIdentityKey, h.deviceSignature, ?_⟩
    intro k' hk'
    obtain ⟨hk, -⟩ := Option.filter_eq_some_iff.mp hk'
    exact h.signedPrekey k' hk
  | _ => exact { h with }

end

def identityKey (ks : KeyStore S) : Option Bytes32 := ks.identity.map IdentityKeyPair.ed25519Public

lemma identityKey_of_some {ks : KeyStore S} {i : IdentityKeyPair S} (h : ks.identity = some i) :
    ks.identityKey = some i.ed25519Public := by
  rw [identityKey, h, Option.map_some]

def Signs (H : HandshakeSuite S) (ks : KeyStore S) (message : Bytes) : Prop :=
  ∀ secret ∈ ks.identity.bind IdentityKeyPair.ed25519Secret,
    H.ed.verify (H.ed.verifyingKey secret) message (H.ed.sign secret message) = true

instance (H : HandshakeSuite S) (ks : KeyStore S) (message : Bytes) :
    Decidable (ks.Signs H message) := by
  unfold Signs
  infer_instance

/-- A store with the identity key that signed the prekey, and the one the device was linked to. -/
structure Vouched (S : Suite) where
  store : KeyStore S
  signer : Option Bytes32
  linked : Option Bytes32

namespace Vouched

def step (H : HandshakeSuite S) (v : Vouched S) (c : Call S) : Vouched S where
  store := v.store.step H c
  signer := if renews H v.store c then v.store.identityKey else v.signer
  linked := match c with
    | .setDeviceLink _ _ _ => v.store.identityKey
    | _ => v.linked

def initial : Vouched S := ⟨new, none, none⟩

def run (H : HandshakeSuite S) (calls : List (Call S)) : Vouched S :=
  Runs.exec (step H) initial calls

/-- The signature of a link verifies for the identity and the device id, and so does a new signature
for a prekey. -/
def Genuine (H : HandshakeSuite S) (v : Vouched S) : Call S → Prop
  | .setDeviceLink deviceId rootKey signature => ∃ key ∈ v.store.identityKey,
      H.ed.verifyingKeyOk rootKey = true ∧
      H.ed.verify rootKey (PreKeyBundle.devicePayload key deviceId) signature = true
  | .generateSignedPrekey env => v.store.Signs H (S.publicKey env.scalar).val
  | .rotateSignedPrekey env => v.store.Signs H (S.publicKey env.scalar).val
  | _ => True

instance decidableGenuine (H : HandshakeSuite S) (v : Vouched S) (c : Call S) :
    Decidable (Genuine H v c) := by
  cases c <;> unfold Genuine <;> infer_instance

section
variable (H : HandshakeSuite S)

lemma store_run (ca : List (Call S)) : (run H ca).store = KeyStore.run H new ca :=
  (List.foldl_hom Vouched.store fun _ _ => rfl).symm

def SignedBy (k : SignedPreKey S) (signer : Option Bytes32) : Prop :=
  (∃ x, k.publicKey = S.publicKey x) ∧ ∃ key ∈ signer, ∃ sig : FixedBytes 64,
    k.signature = sig.val ∧ H.ed.verify key k.publicKey.val sig = true

def LinkedBy (ks : KeyStore S) (linked : Option Bytes32) : Prop :=
  match ks.deviceSignature with
  | none => ks.rootIdentityKey = none
  | some s => ∃ root ∈ ks.rootIdentityKey, ∃ key ∈ linked, ∃ sig : FixedBytes 64, s = sig.val ∧
      H.ed.verifyingKeyOk root = true ∧
      H.ed.verify root (PreKeyBundle.devicePayload key ks.deviceId) sig = true

lemma LinkedBy.of_eq {H : HandshakeSuite S} {ks ks' : KeyStore S} {l : Option Bytes32}
    (h : LinkedBy H ks l) (hid : ks'.deviceId = ks.deviceId)
    (hr : ks'.rootIdentityKey = ks.rootIdentityKey)
    (hsi : ks'.deviceSignature = ks.deviceSignature) : LinkedBy H ks' l := by
  simp only [LinkedBy, hid, hr, hsi] at h ⊢
  exact h

structure Kept (H : HandshakeSuite S) (v : Vouched S) : Prop where
  wellFormed : v.store.WellFormed H
  prekey : ∀ k, v.store.signedPrekey = some k → SignedBy H k v.signer
  link : LinkedBy H v.store v.linked

lemma kept_initial : (initial : Vouched S).Kept H where
  wellFormed := wellFormed_new
  prekey := by intro k h; cases h
  link := rfl

end

section
variable {H : HandshakeSuite S} {v : Vouched S} {c : Call S}

lemma step_linked
    (hc : ∀ deviceId rootKey signature, c ≠ .setDeviceLink deviceId rootKey signature) :
    (v.step H c).linked = v.linked := by
  cases c with
  | setDeviceLink deviceId rootKey signature => exact absurd rfl (hc deviceId rootKey signature)
  | _ => rfl

lemma Kept.keeps (h : v.Kept H)
    (hc : ∀ deviceId rootKey signature, c ≠ .setDeviceLink deviceId rootKey signature)
    (hr : renews H v.store c = false) (hke : Keeps v.store (v.store.step H c)) :
    (v.step H c).Kept H := by
  refine ⟨h.wellFormed.step c, ?_, ?_⟩
  · intro k' hk'
    obtain ⟨k, hk, hpu, hsg⟩ := hke.signedPrekey k' hk'
    have hsi := h.prekey k hk
    simp only [SignedBy, Vouched.step, hr, hpu, hsg] at hsi ⊢
    exact hsi
  · rw [step_linked hc]
    exact h.link.of_eq hke.deviceId hke.rootIdentityKey hke.deviceSignature

lemma Kept.step (h : v.Kept H) (hc : Genuine H v c) : (v.step H c).Kept H := by
  cases effect_step H v.store c with
  | link deviceId rootKey signature hca =>
    subst hca
    obtain ⟨key, hke, hro, hv⟩ := hc
    exact ⟨h.wellFormed.step (.setDeviceLink deviceId rootKey signature), h.prekey, rootKey, rfl,
      key, hke, signature, rfl, hro, hv⟩
  | reload hca =>
    subst hca
    refine h.keeps nofun rfl ⟨rfl, rfl, rfl, ?_⟩
    intro k' hk'
    obtain ⟨k, hk, rfl⟩ := Option.map_eq_some_iff.mp hk'
    exact ⟨k, hk, rfl, rfl⟩
  | @renewed env i k hca hr hi hk hs =>
    obtain ⟨secret, d, hse, -, -, hpu, hsg, -⟩ := SignedPreKey.generate_ok hk
    have hsi : v.store.Signs H (S.publicKey env.scalar).val := by
      rcases hca with rfl | rfl <;> exact hc
    refine ⟨h.wellFormed.step c, ?_, ?_⟩
    · intro k' hk'
      simp only [Vouched.step, hs, Option.some.injEq] at hk'
      subst hk'
      refine ⟨⟨_, hpu⟩, i.ed25519Public, ?_, _, hsg, ?_⟩
      · simp [Vouched.step, hr, identityKey_of_some hi]
      · rw [hpu, IdentityKeyPair.isValid_ed25519 (h.wellFormed.identity hi) hse]
        exact hsi secret (by rw [hi, Option.bind_some, hse]; rfl)
    · rw [step_linked (by rcases hca with rfl | rfl <;> exact nofun)]
      exact h.link.of_eq (by simp only [Vouched.step, hs]) (by simp only [Vouched.step, hs])
        (by simp only [Vouched.step, hs])
  | changed hl _ hr hch =>
    exact h.keeps hl hr (hch.invariant (fun _ _ => Keeps.change)
      ⟨rfl, rfl, rfl, fun k' hk' => ⟨k', hk', rfl, rfl⟩⟩)

end

lemma kept_run {H : HandshakeSuite S} {ca : List (Call S)}
    (h : Runs.Guarded (step H) (Genuine H) initial ca) : (run H ca).Kept H :=
  h.invariant (fun _ _ hs hc => hs.step hc) (kept_initial H)

end Vouched

section
variable {H : HandshakeSuite S} {ks : KeyStore S} {env : BundleEnv} {i : IdentityKeyPair S}
  {k : SignedPreKey S} {bundle : PreKeyBundle}

def signedMessages (bundle : PreKeyBundle) : List Bytes :=
  [PreKeyBundle.devicePayload bundle.identityKey bundle.deviceId, bundle.signingBytes] ++
    bundle.pqSignedPrekey.toList

lemma sign_ok {me : Bytes} {sig : FixedBytes 64} (h : i.sign H me = .ok sig) :
    ∃ secret, i.ed25519Secret = some secret ∧ sig = H.ed.sign secret me := by
  unfold IdentityKeyPair.sign at h
  split at h
  · cases h
  · simp_all

lemma Signs.verify (hi : ks.identity = some i) (hv : i.isValid H = true) {me : Bytes}
    (h : ks.Signs H me) {sig : FixedBytes 64} (hsi : i.sign H me = .ok sig) :
    H.ed.verify i.ed25519Public me sig = true := by
  obtain ⟨se, hse, rfl⟩ := sign_ok hsi
  rw [IdentityKeyPair.isValid_ed25519 hv hse]
  exact h se (by rw [hi, Option.bind_some, hse]; rfl)

lemma Issued.signature_iff {R : SignatureRecord} (hR : R.Sound H.ed.verify)
    (h : ks.Issued H env i k bundle) {si : Option Bytes32} (hk : Vouched.SignedBy H k si) :
    H.ed.verify bundle.identityKey bundle.signedPrekey.val bundle.signature = true ↔
    si = ks.identityKey := by
  obtain ⟨-, key, hke, sig, hsi, hv⟩ := hk
  obtain rfl := Subtype.ext (hsi.symm.trans h.signature)
  rw [h.identityKey, h.signedPrekey, Option.mem_def.mp hke,
    identityKey_of_some h.identity, Option.some.injEq]
  constructor
  · exact fun hcu => (hR.eq_of_verify hv hcu).1
  · rintro rfl
    exact hv

lemma devicePayload_inj {key key' : Bytes32} {di : UInt32}
    (h : PreKeyBundle.devicePayload key di = PreKeyBundle.devicePayload key' di) : key = key' :=
  Subtype.ext (List.append_cancel_right h)

lemma Issued.deviceSignature_iff {R : SignatureRecord} (hR : R.Sound H.ed.verify)
    (hke : ∀ secret, H.ed.verifyingKeyOk (H.ed.verifyingKey secret) = true)
    (h : ks.Issued H env i k bundle) (hv : i.isValid H = true)
    (hsg : ks.Signs H (PreKeyBundle.devicePayload bundle.identityKey bundle.deviceId))
    {l : Option Bytes32} (hl : Vouched.LinkedBy H ks l) :
    H.ed.verifyingKeyOk bundle.rootIdentityKey = true ∧
      (H.ed.verify bundle.rootIdentityKey
          (PreKeyBundle.devicePayload bundle.identityKey bundle.deviceId)
          bundle.deviceSignature = true ↔
        (ks.deviceSignature.isSome = true → l = ks.identityKey)) := by
  have hsi := h.deviceSignature
  unfold deviceSignatureFor at hsi
  unfold Vouched.LinkedBy at hl
  rw [h.identityKey, h.deviceId] at hsg ⊢
  rw [h.rootIdentityKey]
  cases hde : ks.deviceSignature with
  | none =>
    rw [hde] at hsi hl
    obtain ⟨secret, hse, -⟩ := sign_ok hsi
    rw [hl, Option.getD_none]
    refine ⟨?_, iff_of_true (hsg.verify h.identity hv hsi) nofun⟩
    rw [IdentityKeyPair.isValid_ed25519 hv hse]
    exact hke secret
  | some s =>
    rw [hde] at hsi hl
    obtain ⟨root, hr, key, hk, sig, rfl, ho, hve⟩ := hl
    rw [Option.mem_def.mp hr, Option.getD_some]
    refine ⟨ho, ?_⟩
    have hsh : sig = bundle.deviceSignature := by simp_all
    subst hsh
    rw [Option.mem_def.mp hk, identityKey_of_some h.identity, Option.some.injEq]
    constructor
    · exact fun hcu _ => devicePayload_inj (hR.eq_of_verify hve hcu).2
    · grind

lemma Issued.pq_ok (h : ks.Issued H env i k bundle) (hw : ks.WellFormed H)
    (hsi : ∀ pk ∈ bundle.pqSignedPrekey, ks.Signs H pk) :
    PreKeyBundle.validatePq H bundle = .ok () := by
  obtain ⟨d, hpk, -⟩ := (hw.signedPrekey h.prekey).pq
  obtain ⟨hpq, sig, hsg, hs⟩ := h.pq _ hpk
  have hv := (hsi _ hpq).verify h.identity (hw.identity h.identity) hsg
  have hl := (H.kem.keyGen d).1.property
  rw [PreKeyBundle.validatePq, hpq, hs, h.identityKey]
  simp only [hl]
  exact ensure_ok.mpr hv

lemma Issued.unexpired_iff (h : ks.Issued H env i k bundle)
    (hcl : ∀ now ∈ env.clock, now < 2 ^ 63) :
    (∃ now, env.clock = some now ∧ now ≤ bundle.expiration.toNat) ↔ env.clock.isSome = true := by
  rw [h.expiration, Option.isSome_iff_exists]
  constructor
  · exact fun ⟨now, hn, _⟩ => ⟨now, hn⟩
  rintro ⟨now, hn⟩
  have hlt := hcl now hn
  refine ⟨now, hn, ?_⟩
  rw [hn, creationTime, Option.getD_some, UInt64.toNat_ofNat', PreKeyBundle.lifetime]
  omega

end

/-- Whatever bundle is handed out, `from_bytes` reads it. It is valid exactly if the identity is the
one that signed the prekey and, on a linked device, the one that the link was set for, and the clock
can be read. -/
theorem issued_bundle_valid_iff (H : HandshakeSuite S) (R : SignatureRecord)
    (hR : R.Sound H.ed.verify) (hpublic : ∀ x, isZero (S.publicKey x).val = false)
    (hkeys : ∀ secret, H.ed.verifyingKeyOk (H.ed.verifyingKey secret) = true)
    (calls : List (Call S))
    (hcalls : Runs.Guarded (Vouched.step H) (Vouched.Genuine H) Vouched.initial calls)
    (env : BundleEnv) (hclock : ∀ now ∈ env.clock, now < 2 ^ 63) (bytes : Bytes)
    (hbytes : (run H new calls).generatePrekeyBundleBytes H env = .ok bytes) :
    let v := Vouched.run H calls
    ∃ bundle, PreKeyBundle.fromBytes bytes = some (.ok bundle) ∧
      ((∀ message ∈ signedMessages bundle, (run H new calls).Signs H message) →
        (bundle.validate H env.clock = .ok () ↔ v.signer = v.store.identityKey ∧
          (v.store.deviceSignature.isSome = true → v.linked = v.store.identityKey) ∧
          env.clock.isSome = true)) := by
  intro v
  have hkept : v.Kept H := Vouched.kept_run hcalls
  rw [← Vouched.store_run H calls] at hbytes ⊢
  obtain ⟨i, k, bundle, rfl, hissued⟩ := generatePrekeyBundleBytes_ok hbytes
  have hvalid := hkept.wellFormed.identity hissued.identity
  have hsigned := hkept.prekey k hissued.prekey
  refine ⟨bundle, hissued.fromBytes hkept.wellFormed, fun hsigns => ?_⟩
  obtain ⟨hrootOk, hdevice⟩ := hissued.deviceSignature_iff hR hkeys hvalid
    (hsigns _ (by simp [signedMessages])) hkept.link
  have hpq := hissued.pq_ok hkept.wellFormed fun pk hpk =>
    hsigns pk (by simp [signedMessages, Option.mem_def.mp hpk])
  rw [PreKeyBundle.validate_ok_iff]
  constructor
  · intro h
    exact ⟨(hissued.signature_iff hR hsigned).mp h.signature, hdevice.mp h.deviceSignature,
      (hissued.unexpired_iff hclock).mp h.unexpired⟩
  rintro ⟨hsigner, hlinked, htime⟩
  obtain ⟨secret, hsecret, -⟩ := sign_ok hissued.bundleSignature
  obtain ⟨x, hx⟩ := hsigned.1
  refine ⟨?_, ?_, ?_, (hissued.signature_iff hR hsigned).mpr hsigner, ?_, hrootOk,
    hdevice.mpr hlinked, hpq, (hissued.unexpired_iff hclock).mpr htime⟩
  · rw [hissued.identityKey]
    simp only [IdentityKeyPair.isValid, Bool.and_eq_true, Bool.not_eq_true'] at hvalid
    exact hvalid.1.1.1.1
  · rw [hissued.signedPrekey, hx]
    exact hpublic x
  · rw [hissued.identityKey, IdentityKeyPair.isValid_ed25519 hvalid hsecret]
    exact hkeys secret
  · rw [hissued.identityKey]
    exact (hsigns _ (by simp [signedMessages])).verify hissued.identity hvalid
      hissued.bundleSignature

section
open Symbolic

def linkedCalls : List (Call suite) :=
  [.setIdentity (Symbolic.identity 1), .generateSignedPrekey ⟨scalar 2, some seed, some 1000⟩,
    .setDeviceLink 7 (publicKey 9) (signatureOf 9 1)]

def replacedCalls : List (Call suite) :=
  [.setIdentity (Symbolic.identity 1), .generateSignedPrekey ⟨scalar 2, some seed, some 1000⟩,
    .setIdentity (Symbolic.identity 3)]

def issueEnv : BundleEnv := ⟨[], some 1000, device 5, some 1000⟩

def linkedBundle : PreKeyBundle :=
  { bundle 1 2 with
    deviceId := 7
    rootIdentityKey := publicKey 9
    deviceSignature := signatureOf 9 1 }

def staleBundle : PreKeyBundle := { bundle 3 2 with signature := signatureOf 1 0 }

def bundleSuite (b : PreKeyBundle) : HandshakeSuite suite :=
  handshake [(publicKey 2).val, PreKeyBundle.devicePayload b.identityKey b.deviceId,
    (kem.keyGen seed).1.val, b.signingBytes]

def linkedSuite : HandshakeSuite suite := bundleSuite linkedBundle

theorem linked_bundle_valid : ∃ bytes bundle,
    (run linkedSuite new linkedCalls).generatePrekeyBundleBytes linkedSuite issueEnv = .ok bytes ∧
    PreKeyBundle.fromBytes bytes = some (.ok bundle) ∧
    bundle.validate linkedSuite (some 1000) = .ok () := by
  obtain ⟨hcalls, hbytes, hsigns, hsigner, hlinked⟩ :
      Runs.Guarded (Vouched.step linkedSuite) (Vouched.Genuine linkedSuite)
          Vouched.initial linkedCalls ∧
        (run linkedSuite new linkedCalls).generatePrekeyBundleBytes linkedSuite issueEnv =
          .ok linkedBundle.toBytes ∧
        (∀ message ∈ signedMessages linkedBundle,
          (run linkedSuite new linkedCalls).Signs linkedSuite message) ∧
        (Vouched.run linkedSuite linkedCalls).signer =
          (Vouched.run linkedSuite linkedCalls).store.identityKey ∧
        (Vouched.run linkedSuite linkedCalls).linked =
          (Vouched.run linkedSuite linkedCalls).store.identityKey := by
    decide +kernel
  obtain ⟨bundle, hread, hvalid⟩ := issued_bundle_valid_iff linkedSuite
    (signatures _ (by decide)) (signatures_sound _ (by decide)) dh.publicKey_ne_zero
    (fun secret => by simp [linkedSuite, bundleSuite, handshake, ed, verifyingKey])
    linkedCalls hcalls
    issueEnv (by decide) _ hbytes
  have hself : PreKeyBundle.fromBytes linkedBundle.toBytes = some (.ok linkedBundle) :=
    PreKeyBundle.fromBytes_toBytes rfl (kem.keyGen seed).1.property rfl
  obtain rfl : linkedBundle = bundle := Except.ok.inj (Option.some.inj (hself.symm.trans hread))
  exact ⟨_, _, hbytes, hself, (hvalid hsigns).mpr ⟨hsigner, fun _ => hlinked, rfl⟩⟩

/-- What party 3 signs verifies, but the signature of the prekey is not theirs. -/
theorem replaced_identity_invalid :
    let H := bundleSuite staleBundle
    Runs.Guarded (Vouched.step H) (Vouched.Genuine H) Vouched.initial replacedCalls ∧
      (run H new replacedCalls).generatePrekeyBundleBytes H issueEnv = .ok staleBundle.toBytes ∧
      (∀ message ∈ signedMessages staleBundle, (run H new replacedCalls).Signs H message) ∧
      (PreKeyBundle.parse staleBundle.toBytes).bind (fun b => b.validate H (some 1000)) =
        .error .invalidSignature := by
  decide +kernel

end

end KeyStore

end Sibna
