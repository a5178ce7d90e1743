import Sibna.KeyStore.Runs

/-!
# The prekeys a store advertises

A store read back has lost its scalars and still hands the prekeys out. A one-time prekey is shown
until `mark_onetime_used` is called for it.
-/

namespace Sibna

variable {S : Suite}

namespace KeyStore

structure Tracked (S : Suite) where
  store : KeyStore S
  renewed : Bool
  firstId : Nat

namespace Tracked

def step (H : HandshakeSuite S) (t : Tracked S) (c : Call S) : Tracked S where
  store := t.store.step H c
  renewed := match c with
    | .reload => false
    | c => t.renewed || renews H t.store c
  firstId := match c with
    | .reload => t.store.nextOnetimeId
    | _ => t.firstId

def initial : Tracked S := ⟨new, false, 1⟩

def run (H : HandshakeSuite S) (calls : List (Call S)) : Tracked S :=
  Runs.exec (step H) initial calls

lemma store_run (H : HandshakeSuite S) (ca : List (Call S)) :
    (run H ca).store = KeyStore.run H new ca :=
  (List.foldl_hom Tracked.store fun _ _ => rfl).symm

structure Fits (t : Tracked S) : Prop where
  signed : ∀ {k}, t.store.signedPrekey = some k → k.secret.isSome = t.renewed
  bound : ∀ {id k}, t.store.onetimePrekeys.lookup id = some k → id < t.store.nextOnetimeId
  first : t.firstId ≤ t.store.nextOnetimeId
  onetime : ∀ {id k}, t.store.onetimePrekeys.lookup id = some k → k.used = false →
    k.secret.isSome = decide (t.firstId ≤ id)

lemma fits_initial : (initial : Tracked S).Fits where
  signed := by intro k h; cases h
  bound := by intro id k h; cases h
  first := Nat.le_refl 1
  onetime := by intro id k h; cases h

variable {t : Tracked S}

lemma Fits.change {H : HandshakeSuite S} {ks ks' : KeyStore S} {r : Bool} {f : Nat}
    (hc : Change H ks ks') (h : Fits ⟨ks, r, f⟩) : Fits ⟨ks', r, f⟩ := by
  cases hc with
  | identity | pins => exact { h with }
  | onetime x clock =>
    refine ⟨h.signed, ?_, Nat.le_succ_of_le h.first, ?_⟩
    · intro id k hk
      rcases Maps.lookup_insert_some hk with ⟨rfl, -⟩ | ⟨-, hk⟩
      · exact Nat.lt_succ_self _
      · exact Nat.lt_succ_of_lt (h.bound hk)
    · intro id k hk hu
      rcases Maps.lookup_insert_some hk with ⟨rfl, rfl⟩ | ⟨-, hk⟩
      · simp [OneTimePreKey.generate, h.first]
      · exact h.onetime hk hu
  | used hpr =>
    refine ⟨h.signed, ?_, h.first, ?_⟩
    · intro id k hk
      rcases Maps.lookup_insert_some hk with ⟨rfl, -⟩ | ⟨-, hk⟩
      · exact h.bound hpr
      · exact h.bound hk
    · intro id k hk hu
      rcases Maps.lookup_insert_some hk with ⟨rfl, rfl⟩ | ⟨-, hk⟩
      · cases hu
      · exact h.onetime hk hu
  | pruned clock =>
    refine ⟨?_, fun hk => h.bound (lookup_pruneKeys hk), h.first,
      fun hk => h.onetime (lookup_pruneKeys hk)⟩
    intro k hk
    obtain ⟨hk, -⟩ := Option.filter_eq_some_iff.mp hk
    exact h.signed hk

lemma Fits.reload (h : t.Fits) : Fits ⟨t.store.saved, false, t.store.nextOnetimeId⟩ := by
  refine ⟨?_, ?_, Nat.le_refl _, ?_⟩
  · intro k hk
    obtain ⟨p, -, rfl⟩ := Option.map_eq_some_iff.mp hk
    rfl
  · intro id k hk
    obtain ⟨p, hpr, -⟩ := lookup_saved hk
    exact h.bound hpr
  intro id k hk _
  obtain ⟨p, hpr, rfl⟩ := lookup_saved hk
  have hid := h.bound hpr
  exact (decide_eq_false (Nat.not_le.mpr hid)).symm

lemma step_of_ne (H : HandshakeSuite S) (t : Tracked S) {c : Call S} (hc : c ≠ .reload) :
    t.step H c = ⟨t.store.step H c, t.renewed || renews H t.store c, t.firstId⟩ := by
  cases c with
  | reload => exact absurd rfl hc
  | _ => rfl

lemma Fits.step (H : HandshakeSuite S) (h : t.Fits) (c : Call S) : (t.step H c).Fits := by
  cases effect_step H t.store c with
  | link deviceId rootKey signature hc =>
    subst hc
    simp only [Tracked.step, renews, Bool.or_false]
    exact { h with }
  | reload hc =>
    subst hc
    exact h.reload
  | renewed hc hr _ hpr hs =>
    rw [step_of_ne H t (by rcases hc with rfl | rfl <;> exact nofun), hr, hs, Bool.or_true]
    refine { h with signed := ?_ }
    rintro k ⟨⟩
    obtain ⟨secret, d, -, -, hse, -⟩ := SignedPreKey.generate_ok hpr
    rw [hse, Option.isSome_some]
  | changed _ hre hr hch =>
    rw [step_of_ne H t hre, hr, Bool.or_false]
    exact hch.invariant (P := fun ks => Fits ⟨ks, t.renewed, t.firstId⟩) (fun _ _ => Fits.change) h

lemma fits_run (H : HandshakeSuite S) (ca : List (Call S)) : (run H ca).Fits :=
  Runs.exec_invariant (fun _ c h => h.step H c) ca fits_initial

end Tracked

def CanAnswer (ks : KeyStore S) (spk : Bytes32) (opk : Option (Nat × Bytes32)) : Prop :=
  (∃ prekey x, ks.signedPrekey = some prekey ∧ prekey.secret = some x ∧ S.publicKey x = spk) ∧
    ∀ id pub, opk = some (id, pub) → ∃ x, ks.getOnetimePrekeyById id = .ok x ∧ S.publicKey x = pub

variable {clock : Option Nat}

lemma used_of_usable {p : OneTimePreKey S} (h : p.usable clock = true) : p.used = false := by
  simp only [OneTimePreKey.usable, Bool.and_eq_true, Bool.not_eq_true'] at h
  exact h.1

lemma getOnetimePrekeyPublic_ok {ks : KeyStore S} {o : List Nat} {id : Nat} {pub : Bytes32}
    (h : ks.getOnetimePrekeyPublic o clock = .ok (id, pub)) : ∃ prekey,
    ks.onetimePrekeys.lookup id = some prekey ∧ prekey.usable clock = true ∧
    prekey.publicKey = pub := by
  unfold getOnetimePrekeyPublic at h
  split at h
  · cases h
  rename_i hf
  cases h
  obtain ⟨id', -, hi'⟩ := List.exists_of_findSome?_eq_some hf
  obtain ⟨prekey, hpr, hu⟩ := Option.bind_eq_some_iff.mp hi'
  split at hu
  · grind
  · cases hu

lemma canAnswer_iff (H : HandshakeSuite S) (ca : List (Call S)) {o : List Nat}
    {p : SignedPreKey S} (hpr : (run H new ca).signedPrekey = some p) :
    let ks := run H new ca
    let opk := (ks.getOnetimePrekeyPublic o clock).toOption
    ks.CanAnswer p.publicKey opk ↔ (Tracked.run H ca).renewed = true ∧
      ∀ id pub, opk = some (id, pub) → (Tracked.run H ca).firstId ≤ id := by
  intro ks opk
  have hf := Tracked.fits_run H ca
  have hst := Tracked.store_run H ca
  have hw : ks.WellFormed H := Reachable.wellFormed ⟨ca, rfl⟩
  refine and_congr ?_ (forall_congr' fun id => forall_congr' fun pub => ?_)
  · rw [← hf.signed (by rw [hst]; exact hpr), Option.isSome_iff_exists]
    constructor
    · grind
    · rintro ⟨x, hx⟩
      exact ⟨p, x, hpr, hx, ((hw.signedPrekey hpr).publicKey hx).symm⟩
  · refine imp_congr_right fun hop => ?_
    obtain ⟨onetime, ho, hu, rfl⟩ := getOnetimePrekeyPublic_ok (toOption_eq_some.mp hop)
    have hse := hf.onetime (by rw [hst]; exact ho) (used_of_usable hu)
    have hfi : (Tracked.run H ca).firstId ≤ id ↔ ∃ x, onetime.secret = some x := by
      rw [← Option.isSome_iff_exists, hse, decide_eq_true_iff]
    rw [hfi]
    simp only [getOnetimePrekeyById, ho, Option.bind_some]
    constructor
    · rintro ⟨x, hx, -⟩
      split at hx
      · cases hx
      · simp_all
    · rintro ⟨x, hx⟩
      exact ⟨x, by rw [hx], (hw.onetimePrekeys ho x hx).symm⟩

/-- Whatever the store hands out, it can answer for it exactly if the signed prekey was replaced and
the one-time prekey made after the store was read back last. -/
theorem advertised_prekeys_answerable_iff (H : HandshakeSuite S) (calls : List (Call S))
    (env : BundleEnv) :
    let ks := run H new calls
    let opk := (ks.getOnetimePrekeyPublic env.order env.onetimeClock).toOption
    let madeSince := (Tracked.run H calls).renewed = true ∧
      ∀ id pub, opk = some (id, pub) → (Tracked.run H calls).firstId ≤ id
    (∀ ik spk sig shown,
      ks.getPrekeyBundleData env.order env.onetimeClock = .ok (ik, spk, sig, shown) →
      shown = opk.map Prod.snd ∧ (ks.CanAnswer spk opk ↔ madeSince)) ∧
    (∀ bytes, ks.generatePrekeyBundleBytes H env = .ok bytes →
      ∃ bundle, bytes = PreKeyBundle.toBytes bundle ∧ bundle.onetimePrekey = opk.map Prod.snd ∧
        (ks.CanAnswer bundle.signedPrekey opk ↔ madeSince)) := by
  intro ks opk madeSince
  refine ⟨?_, ?_⟩
  · intro ik spk sig shown h
    obtain ⟨identity, -, h⟩ := bind_ok.mp h
    obtain ⟨spkPub, hspk, h⟩ := bind_ok.mp h
    obtain ⟨sig', -, h⟩ := bind_ok.mp h
    obtain ⟨-, rfl, -, rfl⟩ : _ ∧ spkPub = spk ∧ _ ∧ opk.map Prod.snd = shown := by
      simpa using Except.ok.inj h
    obtain ⟨prekey, hprekey, rfl⟩ := getSignedPrekeyPublic_ok hspk
    exact ⟨rfl, canAnswer_iff H calls hprekey⟩
  · intro bytes h
    obtain ⟨identity, prekey, bundle, hbytes, hissued⟩ := generatePrekeyBundleBytes_ok h
    refine ⟨bundle, hbytes, hissued.onetimePrekey, ?_⟩
    rw [hissued.signedPrekey]
    exact canAnswer_iff H calls hissued.prekey

open Symbolic

def reloadedCalls : List (Call suite) :=
  [.setIdentity (Symbolic.identity 1), .generateSignedPrekey ⟨scalar 2, some seed, some 1000⟩,
    .generateOnetimePrekeys 1 fun _ => (scalar 3, some 1000), .reload]

def renewedCalls : List (Call suite) :=
  reloadedCalls ++ [.rotateSignedPrekey ⟨scalar 5, some seed, some 1000⟩,
    .generateOnetimePrekeys 1 fun _ => (scalar 6, some 1000)]

def bundleEnv : BundleEnv := ⟨[2, 1], some 2000, device 5, some 2000⟩

theorem renewed_store_answers :
    let ks := run (handshake []) new renewedCalls
    ∃ bytes bundle, ks.generatePrekeyBundleBytes (handshake []) bundleEnv = .ok bytes ∧
      bytes = PreKeyBundle.toBytes bundle ∧ bundle.onetimePrekey = some (publicKey 6) ∧
      ks.CanAnswer bundle.signedPrekey (some (2, publicKey 6)) := by
  intro ks
  obtain ⟨bytes, hbytes⟩ := exists_ok_of_isSome
    (x := ks.generatePrekeyBundleBytes (handshake []) bundleEnv) (by decide +kernel)
  obtain ⟨bundle, hbundle, honetime, hanswer⟩ :=
    (advertised_prekeys_answerable_iff (handshake []) renewedCalls bundleEnv).2 bytes hbytes
  have hopk : (ks.getOnetimePrekeyPublic bundleEnv.order bundleEnv.onetimeClock).toOption =
      some (2, publicKey 6) := by decide +kernel
  rw [hopk] at honetime hanswer
  refine ⟨bytes, bundle, hbytes, hbundle, honetime, hanswer.mpr ⟨by decide +kernel, ?_⟩⟩
  intro id pub hid
  obtain ⟨rfl, -⟩ := Prod.mk.inj (Option.some.inj hid)
  decide +kernel

/-- Both prekeys are handed out and neither scalar is there. -/
theorem reloaded_store_advertises :
    let ks := run (handshake []) new reloadedCalls
    (ks.getPrekeyBundleData [1] (some 2000)).toOption.map (fun data => (data.2.1, data.2.2.2)) =
        some (publicKey 2, some (publicKey 3)) ∧
      (ks.generatePrekeyBundleBytes (handshake []) bundleEnv).toOption.isSome ∧
      (ks.getOnetimePrekeyPublic [1] (some 2000)).toOption = some (1, publicKey 3) ∧
      ¬ ks.CanAnswer (publicKey 2) (some (1, publicKey 3)) ∧
      ks.signedPrekey.bind SignedPreKey.secret = none ∧
      ks.getOnetimePrekeyById 1 = .error .keyNotFound := by
  intro ks
  have hsecret : ks.signedPrekey.bind SignedPreKey.secret = none := rfl
  refine ⟨by decide +kernel, by decide +kernel, by decide +kernel, ?_, hsecret, rfl⟩
  rintro ⟨⟨prekey, x, hprekey, hx, -⟩, -⟩
  rw [hprekey, Option.bind_some, hx] at hsecret
  cases hsecret

end KeyStore

namespace KeyStore

def newKeys (ks ks' : KeyStore S) : List (Nat × Bytes32) :=
  (ks'.onetimePrekeys.entries.filter fun e => ks.nextOnetimeId ≤ e.1).map fun e =>
    (e.1, e.2.publicKey)

lemma mem_newKeys {ks ks' : KeyStore S} {id : Nat} {pub : Bytes32} : (id, pub) ∈ newKeys ks ks' ↔
    ∃ k, ks'.onetimePrekeys.lookup id = some k ∧ ks.nextOnetimeId ≤ id ∧ k.publicKey = pub := by
  constructor
  · intro h
    obtain ⟨⟨id', k⟩, hm, heq⟩ := List.mem_map.mp h
    obtain ⟨hen, hid⟩ := List.mem_filter.mp hm
    cases heq
    exact ⟨k, List.mem_dlookup ks'.onetimePrekeys.nodupKeys hen, by simpa using hid, rfl⟩
  · rintro ⟨k, hk, hid, rfl⟩
    exact List.mem_map.mpr
      ⟨⟨id, k⟩, List.mem_filter.mpr ⟨List.of_mem_dlookup hk, by simpa using hid⟩,
      rfl⟩

lemma newKeys_ids_nodup (ks ks' : KeyStore S) : ((newKeys ks ks').map Prod.fst).Nodup := by
  rw [newKeys, List.map_map]
  exact (List.filter_sublist.map Sigma.fst).nodup ks'.onetimePrekeys.nodupKeys

structure Extends (ks ks' : KeyStore S) : Prop where
  next : ks.nextOnetimeId ≤ ks'.nextOnetimeId
  lookup : ∀ {id k'}, ks'.onetimePrekeys.lookup id = some k' →
    (ks.nextOnetimeId ≤ id ∧ id < ks'.nextOnetimeId) ∨
      ∃ k, ks.onetimePrekeys.lookup id = some k ∧ k'.publicKey = k.publicKey

lemma Extends.change {H : HandshakeSuite S} {ks ks₁ ks₂ : KeyStore S} (hc : Change H ks₁ ks₂)
    (h : Extends ks ks₁) : Extends ks ks₂ := by
  cases hc with
  | identity | pins => exact ⟨h.next, h.lookup⟩
  | onetime x clock =>
    refine ⟨Nat.le_succ_of_le h.next, ?_⟩
    intro id k hk
    rcases Maps.lookup_insert_some hk with ⟨rfl, -⟩ | ⟨-, hk⟩
    · exact .inl ⟨h.next, Nat.lt_succ_self _⟩
    · exact (h.lookup hk).imp_left fun hid => ⟨hid.1, Nat.lt_succ_of_lt hid.2⟩
  | used hpr =>
    refine ⟨h.next, ?_⟩
    intro id k hk
    rcases Maps.lookup_insert_some hk with ⟨rfl, rfl⟩ | ⟨-, hk⟩
    · have hpi := h.lookup hpr
      exact hpi
    · exact h.lookup hk
  | pruned clock => exact ⟨h.next, fun hk => h.lookup (lookup_pruneKeys hk)⟩

lemma extends_step (H : HandshakeSuite S) (ks : KeyStore S) (c : Call S) :
    Extends ks (ks.step H c) := by
  have hre : Extends ks ks := ⟨Nat.le_refl _, fun hk => .inr ⟨_, hk, rfl⟩⟩
  cases effect_step H ks c with
  | link di r si hc =>
    subst hc
    exact ⟨hre.next, hre.lookup⟩
  | reload hc =>
    subst hc
    refine ⟨Nat.le_refl _, ?_⟩
    intro id k hk
    obtain ⟨k', hk', rfl⟩ := lookup_saved hk
    exact .inr ⟨k', hk', rfl⟩
  | renewed _ _ _ _ hs =>
    rw [hs]
    exact ⟨hre.next, hre.lookup⟩
  | changed _ _ _ hch => exact hch.invariant (fun _ _ => Extends.change) hre

/-- A bundle as it was returned. -/
inductive Returned where
  | encoded (bytes : Bytes)
  | parts (identity signedPrekey : Bytes32) (signature : FixedBytes 64)
      (onetimePrekey : Option Bytes32)

def Returned.onetimePrekey : Returned → Option Bytes32
  | .encoded bytes => (PreKeyBundle.parse bytes).toOption.bind PreKeyBundle.onetimePrekey
  | .parts _ _ _ opk => opk

inductive Turn (S : Suite) where
  | call (c : Call S)
  | bundleBytes (env : BundleEnv)
  | bundleData (order : List Nat) (clock : Option Nat)

/-- A store with the one-time prekeys that were made, those that were shown, and the bundles that
were returned, newest first. -/
structure Advertising (S : Suite) where
  store : KeyStore S
  made : List (Nat × Bytes32)
  shown : List (Nat × Bytes32)
  returned : List Returned

namespace Advertising

def initial : Advertising S := ⟨new, [], [], []⟩

section
variable (H : HandshakeSuite S) (a : Advertising S)

def returns (order : List Nat) (clock : Option Nat) (bundle : Returned) : Advertising S :=
  { a with
    shown := (a.store.getOnetimePrekeyPublic order clock).toOption.toList ++ a.shown
    returned := bundle :: a.returned }

def step : Turn S → Advertising S
  | .call c =>
    { a with
      store := a.store.step H c
      made := newKeys a.store (a.store.step H c) ++ a.made }
  | .bundleBytes env =>
    match a.store.generatePrekeyBundleBytes H env with
    | .error _ => a
    | .ok bytes => a.returns env.order env.onetimeClock (.encoded bytes)
  | .bundleData order clock =>
    match a.store.getPrekeyBundleData order clock with
    | .error _ => a
    | .ok (identity, spk, sig, opk) => a.returns order clock (.parts identity spk sig opk)

def run (turns : List (Turn S)) : Advertising S :=
  Runs.exec (step H) initial turns

def Fresh : Turn S → Prop
  | .call c => ((newKeys a.store (a.store.step H c) ++ a.made).map Prod.snd).Nodup
  | _ => True

def Retired (clock : Option Nat) : Prop :=
  ∀ x ∈ a.shown, ∀ k ∈ a.store.onetimePrekeys.lookup x.1, k.usable clock = false

/-- When a bundle is built, no prekey that was shown before can still be shown. -/
def RetiredFirst : Turn S → Prop
  | .call _ => True
  | .bundleBytes env => a.Retired env.onetimeClock
  | .bundleData _ clock => a.Retired clock

end

instance decidableFresh (H : HandshakeSuite S) (a : Advertising S) (turn : Turn S) :
    Decidable (a.Fresh H turn) := by
  cases turn <;> unfold Fresh <;> infer_instance

instance decidableRetired (a : Advertising S) (clock : Option Nat) :
    Decidable (a.Retired clock) := by
  unfold Retired
  infer_instance

instance decidableRetiredFirst (a : Advertising S) (turn : Turn S) :
    Decidable (a.RetiredFirst turn) := by
  cases turn <;> unfold RetiredFirst <;> infer_instance

structure Recorded (H : HandshakeSuite S) (a : Advertising S) : Prop where
  wellFormed : a.store.WellFormed H
  listed : ∀ {id k}, a.store.onetimePrekeys.lookup id = some k → (id, k.publicKey) ∈ a.made
  below : ∀ x ∈ a.made, x.1 < a.store.nextOnetimeId
  ids : (a.made.map Prod.fst).Nodup
  keys : (a.made.map Prod.snd).Nodup
  shown : a.shown ⊆ a.made
  returned : a.returned.filterMap Returned.onetimePrekey = a.shown.map Prod.snd

lemma recorded_initial (H : HandshakeSuite S) : (initial : Advertising S).Recorded H where
  wellFormed := wellFormed_new
  listed := by intro id k h; cases h
  below := by intro x h; cases h
  ids := List.nodup_nil
  keys := List.nodup_nil
  shown := List.nil_subset _
  returned := rfl

variable {H : HandshakeSuite S} {a : Advertising S}

lemma Recorded.call (h : a.Recorded H) {c : Call S} (hf : a.Fresh H (.call c)) :
    (a.step H (.call c)).Recorded H := by
  have het := extends_step H a.store c
  have hb : ∀ x ∈ newKeys a.store (a.store.step H c),
      a.store.nextOnetimeId ≤ x.1 ∧ x.1 < (a.store.step H c).nextOnetimeId := by
    rintro ⟨id, pub⟩ hx
    obtain ⟨k, hk, hid, -⟩ := mem_newKeys.mp hx
    rcases het.lookup hk with hn | ⟨k', hk', -⟩
    · exact hn
    · exact absurd (h.below _ (h.listed hk')) (Nat.not_lt.mpr hid)
  refine ⟨h.wellFormed.step c, ?_, ?_, ?_, hf, ?_, h.returned⟩
  · intro id k' hk'
    rcases het.lookup hk' with ⟨hid, -⟩ | ⟨k, hk, hpu⟩
    · exact List.mem_append_left _ (mem_newKeys.mpr ⟨k', hk', hid, rfl⟩)
    · rw [hpu]
      exact List.mem_append_right _ (h.listed hk)
  · intro x hx
    rcases List.mem_append.mp hx with hx | hx
    · exact (hb x hx).2
    · exact Nat.lt_of_lt_of_le (h.below x hx) het.next
  · simp only [step, List.map_append]
    refine (newKeys_ids_nodup _ _).append h.ids ?_
    intro id hn ho
    obtain ⟨x, hx, rfl⟩ := List.mem_map.mp hn
    obtain ⟨y, hy, heq⟩ := List.mem_map.mp ho
    have hlt := h.below y hy
    rw [heq] at hlt
    exact absurd (hb x hx).1 (Nat.not_le.mpr hlt)
  · exact List.subset_append_of_subset_right _ h.shown

lemma Recorded.returns (h : a.Recorded H) {o : List Nat} {clock : Option Nat} {bu : Returned}
    (hb : bu.onetimePrekey = (a.store.getOnetimePrekeyPublic o clock).toOption.map Prod.snd) :
    (a.returns o clock bu).Recorded H := by
  refine ⟨h.wellFormed, h.listed, h.below, h.ids, h.keys, ?_, ?_⟩
  · intro x hx
    rcases List.mem_append.mp hx with hx | hx
    · obtain ⟨k, hk, -, hpu⟩ :=
        getOnetimePrekeyPublic_ok (toOption_eq_some.mp (Option.mem_toList.mp hx))
      have hl := h.listed hk
      rwa [hpu] at hl
    · exact h.shown hx
  · simp only [Advertising.returns, List.filterMap_cons, hb, h.returned]
    cases (a.store.getOnetimePrekeyPublic o clock).toOption <;> rfl

lemma getPrekeyBundleData_ok {ks : KeyStore S} {o : List Nat} {clock : Option Nat}
    {ie spk : Bytes32} {sig : FixedBytes 64} {opk : Option Bytes32}
    (h : ks.getPrekeyBundleData o clock = .ok (ie, spk, sig, opk)) :
    opk = (ks.getOnetimePrekeyPublic o clock).toOption.map Prod.snd := by
  obtain ⟨i, -, h⟩ := bind_ok.mp h
  obtain ⟨sp, -, h⟩ := bind_ok.mp h
  obtain ⟨sig', -, h⟩ := bind_ok.mp h
  exact (congrArg (fun data => data.2.2.2) (Except.ok.inj h)).symm

lemma generatePrekeyBundleBytes_onetimePrekey {ks : KeyStore S} (hw : ks.WellFormed H)
    {env : BundleEnv} {bt : Bytes} (h : ks.generatePrekeyBundleBytes H env = .ok bt) :
    (Returned.encoded bt).onetimePrekey =
      (ks.getOnetimePrekeyPublic env.order env.onetimeClock).toOption.map Prod.snd := by
  obtain ⟨i, k, bundle, rfl, his⟩ := generatePrekeyBundleBytes_ok h
  have hp : PreKeyBundle.parse bundle.toBytes = .ok bundle :=
    Option.get_of_eq_some _ (his.fromBytes hw)
  rw [Returned.onetimePrekey, hp]
  exact his.onetimePrekey

lemma step_cases (hw : a.store.WellFormed H) (turn : Turn S) : (∃ c, turn = .call c) ∨
    a.step H turn = a ∨ ∃ order clock bundle, a.step H turn = a.returns order clock bundle ∧
    (a.RetiredFirst turn → a.Retired clock) ∧
    bundle.onetimePrekey = (a.store.getOnetimePrekeyPublic order clock).toOption.map Prod.snd := by
  cases turn with
  | call c => exact .inl ⟨c, rfl⟩
  | bundleBytes env =>
    simp only [step]
    split
    · exact .inr (.inl rfl)
    · rename_i hb
      exact .inr (.inr ⟨_, _, _, rfl, id, generatePrekeyBundleBytes_onetimePrekey hw hb⟩)
  | bundleData order clock =>
    simp only [step]
    split
    · exact .inr (.inl rfl)
    · rename_i hda
      exact .inr (.inr ⟨_, _, _, rfl, id, getPrekeyBundleData_ok hda⟩)

lemma Recorded.step (h : a.Recorded H) {turn : Turn S} (hf : a.Fresh H turn) :
    (a.step H turn).Recorded H := by
  rcases step_cases h.wellFormed turn with ⟨c, rfl⟩ | hsa | ⟨o, clock, bu, heq, -, hb⟩
  · exact h.call hf
  · rwa [hsa]
  · rw [heq]
    exact h.returns hb

lemma Recorded.not_shown (h : a.Recorded H) {o : List Nat} {clock : Option Nat} {id : Nat}
    {pub : Bytes32} (hre : a.Retired clock)
    (hf : a.store.getOnetimePrekeyPublic o clock = .ok (id, pub)) : pub ∉ a.shown.map Prod.snd := by
  intro hm
  obtain ⟨k, hk, hu, rfl⟩ := getOnetimePrekeyPublic_ok hf
  obtain ⟨⟨id', pub⟩, hx, heq⟩ := List.mem_map.mp hm
  obtain rfl := heq
  -- new keys are new, so the key was shown under this id
  obtain rfl := congrArg Prod.fst (List.inj_on_of_nodup_map h.keys (h.shown hx) (h.listed hk) rfl)
  rw [hre _ hx k hk] at hu
  cases hu

lemma Recorded.not_shown_iff (h : a.Recorded H) (clock : Option Nat) :
    (∀ order : List Nat, order.Perm a.store.onetimePrekeys.keys → ∀ id pub,
      a.store.getOnetimePrekeyPublic order clock = .ok (id, pub) → pub ∉ a.shown.map Prod.snd) ↔
      a.Retired clock := by
  constructor
  · rintro hn ⟨id, pub⟩ hx k (hk : a.store.onetimePrekeys.lookup id = some k)
    by_contra hu
    rw [Bool.not_eq_false] at hu
    have hke := h.listed hk
    obtain rfl := congrArg Prod.snd (List.inj_on_of_nodup_map h.ids (h.shown hx) hke rfl)
    have hm : id ∈ a.store.onetimePrekeys.keys := by
      rw [← AList.mem_keys, ← AList.lookup_isSome, hk, Option.isSome_some]
    -- the walk may begin at the key
    refine hn _ (List.perm_cons_erase hm).symm id k.publicKey ?_ (List.mem_map.mpr ⟨_, hx, rfl⟩)
    simp only [getOnetimePrekeyPublic, List.findSome?_cons, hk, Option.bind_some, hu, if_true]
  · exact fun hre _ _ _ _ hf => h.not_shown hre hf

lemma Recorded.shown_nodup_step (h : a.Recorded H) (hn : (a.shown.map Prod.snd).Nodup)
    {turn : Turn S} (hf : a.RetiredFirst turn) :
    ((a.step H turn).shown.map Prod.snd).Nodup := by
  rcases step_cases h.wellFormed turn with ⟨c, rfl⟩ | hsa | ⟨o, clock, bu, heq, hcl, -⟩
  · exact hn
  · rwa [hsa]
  rw [heq, Advertising.returns]
  cases hfo : (a.store.getOnetimePrekeyPublic o clock).toOption with
  | none => exact hn
  | some f =>
    exact List.nodup_cons.mpr ⟨h.not_shown (hcl hf) (toOption_eq_some.mp hfo), hn⟩

lemma recorded_run {tu : List (Turn S)}
    (h : Runs.Guarded (step H) (Fresh H) initial tu) : (run H tu).Recorded H :=
  h.invariant (fun _ _ hs htu => hs.step htu) (recorded_initial H)

end Advertising

/-- No one-time prekey stands in two bundles, provided that what was shown has been marked as used,
has expired or has been pruned before the next bundle. Otherwise an order of the walk shows a key
again. -/
theorem advertised_once_if_retired (H : HandshakeSuite S) (turns : List (Turn S))
    (hfresh : Runs.Guarded (Advertising.step H) (Advertising.Fresh H) Advertising.initial turns) :
    let a := Advertising.run H turns
    let shown := a.returned.filterMap Returned.onetimePrekey
    (Runs.Guarded (Advertising.step H) Advertising.RetiredFirst Advertising.initial turns →
      shown.Nodup) ∧
    ∀ clock, (∀ order : List Nat, order.Perm a.store.onetimePrekeys.keys → ∀ id pub,
      a.store.getOnetimePrekeyPublic order clock = .ok (id, pub) → pub ∉ shown) ↔
        a.Retired clock := by
  intro a shown
  have hrecorded : a.Recorded H := Advertising.recorded_run hfresh
  simp only [shown, hrecorded.returned]
  refine ⟨fun hretired => ?_, hrecorded.not_shown_iff⟩
  have honce :=
    (hfresh.and hretired).invariant (I := fun a => a.Recorded H ∧ (a.shown.map Prod.snd).Nodup)
      (fun _ _ hs hturn => ⟨hs.1.step hturn.1, hs.1.shown_nodup_step hs.2 hturn.2⟩)
      ⟨Advertising.recorded_initial H, List.nodup_nil⟩
  exact honce.2

section
open Symbolic

def firstBundle : List (Turn suite) :=
  [.call (.setIdentity (Symbolic.identity 1)),
    .call (.generateSignedPrekey ⟨scalar 2, some seed, some 1000⟩),
    .call (.generateOnetimePrekeys 2 fun id => (scalar (UInt64.ofNat (10 + id)), some 1000)),
    .bundleBytes ⟨[1, 2], some 2000, device 5, some 2000⟩]

def returnedKeys (turns : List (Turn suite)) : List Bytes32 :=
  (Advertising.run (handshake []) turns).returned.filterMap Returned.onetimePrekey

def markedTurns : List (Turn suite) :=
  firstBundle ++ [.call (.markOnetimeUsed 1), .bundleData [1, 2] (some 2000)]

def unmarkedTurns : List (Turn suite) :=
  firstBundle ++ [.bundleBytes ⟨[1, 2], some 2000, device 6, some 2000⟩,
    .bundleData [1, 2] (some 2000)]

theorem marked_key_not_shown :
    (returnedKeys markedTurns).Nodup ∧ returnedKeys markedTurns = [publicKey 12, publicKey 11] := by
  refine And.imp_left (advertised_once_if_retired (handshake []) markedTurns ?_).1 ?_
  all_goals decide +kernel

theorem unmarked_key_shown_again :
    Runs.Guarded (Advertising.step (handshake []))
    (Advertising.Fresh (handshake [])) Advertising.initial unmarkedTurns ∧
    returnedKeys unmarkedTurns = [publicKey 11, publicKey 11, publicKey 11] := by
  decide +kernel

end

end KeyStore

end Sibna
