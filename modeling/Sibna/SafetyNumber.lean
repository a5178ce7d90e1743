import Sibna.Handshake.Perform
import Sibna.Lib.Text

/-!
# Safety numbers

`safety.rs`, and the fingerprint of a pin. Five digits have more values than two bytes, and the
surplus is cut off.
-/

namespace Sibna

open Text LittleEndian

def groupValue (high low : UInt8) : Nat := high.toNat <<< 8 ||| low.toNat

def groupSpace (i : Nat) : Bytes := if 0 < i ∧ i % 3 = 0 then [32] else []

def digitGroups : Nat → Bytes → Bytes
  | _, [] => []
  | i, [b] => groupSpace i ++ padded 5 ((b.toNat <<< 8) % 100000)
  | i, b :: c :: rest =>
    groupSpace i ++ padded 5 (groupValue b c % 100000) ++ digitGroups (i + 1) rest

def bytesToDigits (bytes : Bytes32) : Bytes := digitGroups 0 bytes.val

/-- The fields are private; the digits are always those of the fingerprint. -/
structure SafetyNumber where
  digits : Bytes
  fingerprint : Bytes32
  version : Nat
  digits_eq : digits = bytesToDigits fingerprint
  deriving DecidableEq

namespace SafetyNumber

def VERSION : Nat := 1

def ofFingerprint (fingerprint : Bytes32) : SafetyNumber where
  digits := bytesToDigits fingerprint
  fingerprint := fingerprint
  version := VERSION
  digits_eq := rfl

def calculate (sha512 : Bytes → FixedBytes 64) (ourIdentity theirIdentity : Bytes32) :
    SafetyNumber :=
  let (first, second) :=
    if bytesLt ourIdentity.val theirIdentity.val then (ourIdentity, theirIdentity)
    else (theirIdentity, ourIdentity)
  let result := sha512 (UInt8.ofNat VERSION :: safetyNumberLabel ++ first.val ++ second.val)
  ofFingerprint ⟨result.val.take 32, by simp [result.property]⟩

def digitsOf (s : Bytes) : Bytes := s.filter isDigit

def fingerprintBytes : Nat → Bytes → Option Bytes
  | 0, _ => some []
  | left + 1, digits =>
    (parseU32 (digits.take 5)).bind fun value =>
      (fingerprintBytes left (digits.drop 5)).map fun rest =>
        UInt8.ofNat (value >>> 8 &&& 255) :: UInt8.ofNat (value &&& 255) :: rest

lemma length_fingerprintBytes {left : Nat} {di bt : Bytes}
    (h : fingerprintBytes left di = some bt) : bt.length = 2 * left := by
  induction left generalizing di bt with
  | zero =>
    rw [← Option.some.inj h]
    rfl
  | succ left ih =>
    obtain ⟨v, -, hr⟩ := Option.bind_eq_some_iff.mp h
    obtain ⟨rest, hb, rfl⟩ := Option.map_eq_some_iff.mp hr
    rw [List.length_cons, List.length_cons, ih hb]
    omega

def parse (s : Bytes) : Option SafetyNumber :=
  if (digitsOf s).length ≠ 80 then none
  else
    Option.pmap (fun bytes hbytes => ofFingerprint ⟨bytes, hbytes⟩)
      (fingerprintBytes 16 (digitsOf s)) fun _ h => length_fingerprintBytes h

def verify (self other : SafetyNumber) : Bool := self.fingerprint = other.fingerprint

end SafetyNumber

lemma groupValue_eq (b c : UInt8) : groupValue b c = 256 * b.toNat + c.toNat := by
  rw [groupValue, Nat.or_comm, or_shiftLeft_eq, Nat.mul_comm]

lemma groupValue_lt (b c : UInt8) : groupValue b c < 65536 := by
  have hb := b.toNat_lt
  have hc := c.toNat_lt
  rw [groupValue_eq]
  omega

lemma groupValue_mod (b c : UInt8) : groupValue b c % 100000 = groupValue b c := by
  have hlt := groupValue_lt b c
  omega

lemma groupValue_bytes (v : Nat) :
    groupValue (UInt8.ofNat (v >>> 8 &&& 255)) (UInt8.ofNat (v &&& 255)) = v % 65536 := by
  have han := fun n => Nat.and_two_pow_sub_one_eq_mod n 8
  rw [groupValue_eq, han, han, UInt8.toNat_ofNat', UInt8.toNat_ofNat', Nat.shiftRight_eq_div_pow]
  omega

lemma groupValue_inj {b c b' c' : UInt8} (h : groupValue b c = groupValue b' c') :
    b = b' ∧ c = c' := by
  have hc := c.toNat_lt
  have hc' := c'.toNat_lt
  rw [groupValue_eq, groupValue_eq] at h
  exact ⟨UInt8.toNat_inj.mp (by omega), UInt8.toNat_inj.mp (by omega)⟩

def plainDigits : Bytes → Bytes
  | b :: c :: rest => padded 5 (groupValue b c) ++ plainDigits rest
  | _ => []

lemma exists_pair {n : Nat} {bt : Bytes} (h : bt.length = 2 * (n + 1)) :
    ∃ b c rest, bt = b :: c :: rest ∧ rest.length = 2 * n := by
  cases bt with
  | nil => cases h
  | cons b bt =>
    cases bt with
    | nil => grind
    | cons c rest =>
      refine ⟨b, c, rest, rfl, ?_⟩
      simp only [List.length_cons] at h
      omega

lemma length_padded_groupValue (b c : UInt8) : (padded 5 (groupValue b c)).length = 5 :=
  length_padded (by decide) ((groupValue_lt b c).trans (by decide))

lemma length_plainDigits {n : Nat} {bt : Bytes} (h : bt.length = 2 * n) :
    (plainDigits bt).length = 5 * n := by
  induction n generalizing bt with
  | zero =>
    rw [List.eq_nil_of_length_eq_zero h]
    rfl
  | succ n ih =>
    obtain ⟨b, c, rest, rfl, hr⟩ := exists_pair h
    rw [plainDigits, List.length_append, length_padded_groupValue, ih hr]
    omega

namespace SafetyNumber

lemma digits_digitsOf (s : Bytes) : Digits (digitsOf s) :=
  fun _ hc => (List.mem_filter.mp hc).2

lemma digitsOf_digitGroups {n : Nat} (i : Nat) {bt : Bytes} (h : bt.length = 2 * n) :
    digitsOf (digitGroups i bt) = plainDigits bt := by
  induction n generalizing i bt with
  | zero =>
    rw [List.eq_nil_of_length_eq_zero h]
    rfl
  | succ n ih =>
    obtain ⟨b, c, rest, rfl, hr⟩ := exists_pair h
    have hsp : (groupSpace i).filter isDigit = [] := by
      unfold groupSpace
      split <;> rfl
    have hg : (padded 5 (groupValue b c)).filter isDigit = padded 5 (groupValue b c) :=
      List.filter_eq_self.mpr (digits_padded _ _)
    have ho := ih (i + 1) hr
    rw [digitsOf] at ho ⊢
    rw [digitGroups, List.filter_append, List.filter_append, hsp, groupValue_mod, hg, ho,
      List.nil_append, plainDigits]

lemma digitsOf_bytesToDigits (f : Bytes32) : digitsOf (bytesToDigits f) = plainDigits f.val :=
  @digitsOf_digitGroups 16 0 f.val f.property

lemma fingerprintBytes_append {left : Nat} {g rest : Bytes} (hg : Digits g)
    (hl : g.length = 5) :
    fingerprintBytes (left + 1) (g ++ rest) = (fingerprintBytes left rest).map fun bytes =>
      UInt8.ofNat (numeral g >>> 8 &&& 255) :: UInt8.ofNat (numeral g &&& 255) :: bytes := by
  have hne : g ≠ [] := List.ne_nil_of_length_pos (by omega)
  have hlt : numeral g < 2 ^ 32 := by
    have hb := numeral_lt hg
    rw [hl] at hb
    omega
  rw [fingerprintBytes, List.take_left' hl, List.drop_left' hl,
    parseU32_of_digits hne hg hlt, Option.bind_some]

lemma fingerprintBytes_plainDigits {n : Nat} {bt : Bytes} (h : bt.length = 2 * n) :
    fingerprintBytes n (plainDigits bt) = some bt := by
  induction n generalizing bt with
  | zero =>
    rw [List.eq_nil_of_length_eq_zero h]
    rfl
  | succ n ih =>
    obtain ⟨b, c, rest, rfl, hr⟩ := exists_pair h
    have hby := groupValue_bytes (groupValue b c)
    rw [Nat.mod_eq_of_lt (groupValue_lt b c)] at hby
    obtain ⟨hb, hc⟩ := groupValue_inj hby
    rw [plainDigits, fingerprintBytes_append (digits_padded _ _) (length_padded_groupValue b c),
      ih hr, numeral_padded, hb, hc]
    rfl

lemma fingerprintBytes_of_digits {n : Nat} {di : Bytes} (h : Digits di) (hl : di.length = 5 * n) :
    ∃ bytes, fingerprintBytes n di = some bytes ∧
    (plainDigits bytes = di ↔ ∀ k < n, numeral ((di.drop (5 * k)).take 5) < 65536) := by
  induction n generalizing di with
  | zero =>
    rw [List.eq_nil_of_length_eq_zero hl]
    exact ⟨[], rfl, iff_of_true rfl fun k hk => absurd hk (Nat.not_lt_zero k)⟩
  | succ n ih =>
    obtain ⟨hg, hr⟩ := digits_append.mp
      (show Digits (di.take 5 ++ di.drop 5) by rwa [List.take_append_drop])
    have hf : (di.take 5).length = 5 := List.length_take_of_le (by omega)
    obtain ⟨bytes, hb, hif⟩ := ih hr (by rw [List.length_drop]; omega)
    have hre := @fingerprintBytes_append n _ (di.drop 5) hg hf
    rw [List.take_append_drop, hb, Option.map_some] at hre
    refine ⟨_, hre, ?_⟩
    have hlt : numeral (di.take 5) % 65536 < 10 ^ 5 := by omega
    have hfi := padded_eq_iff (by decide) hlt hg hf
    have hpa := length_padded (by decide) hlt
    have hdr : ∀ k, di.drop (5 * (k + 1)) = (di.drop 5).drop (5 * k) := by
      intro k
      rw [List.drop_drop, Nat.mul_succ, Nat.add_comm]
    -- the first group and the others, on both sides
    rw [plainDigits, groupValue_bytes, Nat.forall_lt_succ_left]
    simp only [hdr, Nat.mul_zero, List.drop_zero]
    rw [← hif]
    constructor
    · intro heq
      obtain ⟨hon, ho⟩ := List.append_inj (heq.trans (List.take_append_drop 5 di).symm)
        (hpa.trans hf.symm)
      have hm := hfi.mp hon
      exact ⟨by omega, ho⟩
    · rintro ⟨hsm, ho⟩
      rw [hfi.mpr (Nat.mod_eq_of_lt hsm), ho, List.take_append_drop]

lemma parse_eq_some_iff {s : Bytes} {n : SafetyNumber} : parse s = some n ↔
    (digitsOf s).length = 80 ∧ fingerprintBytes 16 (digitsOf s) = some n.fingerprint.val ∧
    n = ofFingerprint n.fingerprint := by
  by_cases hl : (digitsOf s).length = 80
  · rw [parse, if_neg (not_not.mpr hl), Option.pmap_eq_some_iff]
    constructor
    · rintro ⟨bt, hb, hre, rfl⟩
      exact ⟨hl, hre, rfl⟩
    · grind
  · rw [parse, if_pos hl]
    exact iff_of_false nofun fun h => hl h.1

lemma parse_bytesToDigits (f : Bytes32) : parse (bytesToDigits f) = some (ofFingerprint f) := by
  refine parse_eq_some_iff.mpr ⟨?_, ?_, rfl⟩
  · rw [digitsOf_bytesToDigits]
    exact @length_plainDigits 16 _ f.property
  · rw [digitsOf_bytesToDigits, fingerprintBytes_plainDigits f.property]
    rfl

/-- Every fingerprint survives being shown and typed, and no two are shown alike. -/
theorem display_roundTrip :
    (∀ fingerprint, ∃ n, parse (bytesToDigits fingerprint) = some n ∧
      n.fingerprint = fingerprint ∧ n.digits = bytesToDigits fingerprint) ∧
    Function.Injective bytesToDigits := by
  refine ⟨fun fingerprint =>
    ⟨ofFingerprint fingerprint, parse_bytesToDigits fingerprint, rfl, rfl⟩, ?_⟩
  intro fingerprint fingerprint' heq
  have hparse := parse_bytesToDigits fingerprint
  rw [heq, parse_bytesToDigits, Option.some.injEq] at hparse
  exact (congrArg SafetyNumber.fingerprint hparse).symm

def typedGroup (s : Bytes) (k : Nat) : Nat := numeral (((digitsOf s).drop (5 * k)).take 5)

/-- The digits of the number that is read are those that were typed if and only if no group is above
what two bytes hold. -/
theorem parse_faithful_iff {s : Bytes} {n : SafetyNumber} (h : parse s = some n) :
    (digitsOf n.digits = digitsOf s ∧
      ∀ peer, n.verify peer = true → digitsOf peer.digits = digitsOf s) ↔
    ∀ k < 16, typedGroup s k < 65536 := by
  obtain ⟨hlength, hread, -⟩ := parse_eq_some_iff.mp h
  obtain ⟨bytes, hbytes, hiff⟩ := @fingerprintBytes_of_digits 16 _ (digits_digitsOf s) hlength
  cases hread.symm.trans hbytes
  have hshown : digitsOf n.digits = plainDigits n.fingerprint.val := by
    rw [n.digits_eq, digitsOf_bytesToDigits]
  rw [← hshown] at hiff
  refine ⟨fun hsame => hiff.mp hsame.1, fun hgroups => ⟨hiff.mpr hgroups, fun peer hpeer => ?_⟩⟩
  have hfingerprint := of_decide_eq_true hpeer
  rw [peer.digits_eq, ← hfingerprint, ← n.digits_eq]
  exact hiff.mpr hgroups

def zeroNumber : SafetyNumber := ofFingerprint ⟨List.replicate 32 0, rfl⟩

theorem zeros_parsed_faithfully : digitsOf zeroNumber.digits = digitsOf (List.replicate 80 48) ∧
    ∀ peer, zeroNumber.verify peer = true →
    digitsOf peer.digits = digitsOf (List.replicate 80 48) := by
  have hparse : parse (List.replicate 80 48) = some zeroNumber := by decide +kernel
  exact (parse_faithful_iff hparse).mpr (by decide +kernel)

def surplus : Bytes := [54, 53, 53, 51, 54] ++ List.replicate 75 48

theorem surplus_verified : parse surplus = some zeroNumber ∧ zeroNumber.verify zeroNumber = true ∧
    digitsOf zeroNumber.digits = List.replicate 80 48 ∧ digitsOf surplus = surplus ∧
    digitsOf zeroNumber.digits ≠ digitsOf surplus := by
  decide +kernel

end SafetyNumber

variable {S : Suite} {H : HandshakeSuite S}

lemma bytesLt_iff (as bs : Bytes) : bytesLt as bs = true ↔ as < bs := by
  induction as generalizing bs with
  | nil =>
    cases bs with
    | nil => exact iff_of_false Bool.false_ne_true (List.not_lt_nil _)
    | cons b bs => exact iff_of_true rfl (List.nil_lt_cons b bs)
  | cons a as ih =>
    cases bs with
    | nil => exact iff_of_false Bool.false_ne_true (List.not_lt_nil _)
    | cons b bs =>
      rw [bytesLt, Bool.or_eq_true, Bool.and_eq_true, decide_eq_true_iff, beq_iff_eq, ih,
        List.cons_lt_cons_iff]

def sortedKeys (ourIdentity theirIdentity : Bytes32) : Bytes32 × Bytes32 :=
  if bytesLt ourIdentity.val theirIdentity.val then (ourIdentity, theirIdentity)
  else (theirIdentity, ourIdentity)

lemma sortedKeys_comm (a b : Bytes32) : sortedKeys a b = sortedKeys b a := by
  unfold sortedKeys
  simp only [bytesLt_iff]
  by_cases hlt : a.val < b.val
  · rw [if_pos hlt, if_neg (List.lt_asymm hlt)]
  · by_cases hgt : b.val < a.val
    · rw [if_neg hlt, if_pos hgt]
    · rw [Subtype.ext (List.le_antisymm (List.not_lt.mp hgt) (List.not_lt.mp hlt))]

lemma sortedKeys_left_inj {a a' b : Bytes32} : sortedKeys a b = sortedKeys a' b ↔ a = a' := by
  refine ⟨fun h => ?_, fun h => by rw [h]⟩
  unfold sortedKeys at h
  split at h
  · split at h
    · exact (Prod.mk.inj h).1
    · exact (Prod.mk.inj h).1.trans (Prod.mk.inj h).2
  · split at h
    · exact (Prod.mk.inj h).2.trans (Prod.mk.inj h).1
    · exact (Prod.mk.inj h).2

def labelledKeys (ourIdentity theirIdentity : Bytes32) : Bytes :=
  safetyNumberLabel ++ (sortedKeys ourIdentity theirIdentity).1.val ++
    (sortedKeys ourIdentity theirIdentity).2.val

lemma length_labelledKeys (a b : Bytes32) : (labelledKeys a b).length = 86 := by
  rw [labelledKeys, List.length_append, List.length_append, (sortedKeys a b).1.property,
    (sortedKeys a b).2.property]
  rfl

lemma labelledKeys_comm (a b : Bytes32) : labelledKeys a b = labelledKeys b a := by
  rw [labelledKeys, sortedKeys_comm, labelledKeys]

lemma labelledKeys_left_inj {a a' b : Bytes32} : labelledKeys a b = labelledKeys a' b ↔ a = a' := by
  refine ⟨fun h => ?_, fun h => by rw [h]⟩
  have hl : ∀ k k' : Bytes32,
      (safetyNumberLabel ++ k.val).length = (safetyNumberLabel ++ k'.val).length := by
    intro k k'
    rw [List.length_append, List.length_append, k.property, k'.property]
  obtain ⟨hf, hse⟩ := List.append_inj h (hl _ _)
  exact sortedKeys_left_inj.mp
    (Prod.ext (Subtype.ext (List.append_cancel_left hf)) (Subtype.ext hse))

lemma PinnedKey.new_safetyNumber (i o : Bytes32) (cl : Option Nat) :
    (PinnedKey.new H i o cl).safetyNumber = H.sha512 (labelledKeys o i) := by
  unfold PinnedKey.new labelledKeys sortedKeys
  split <;> rfl

namespace SafetyNumber

def hashed (ourIdentity theirIdentity : Bytes32) : Bytes :=
  UInt8.ofNat VERSION :: labelledKeys ourIdentity theirIdentity

/-- `calculate` keeps the first half of the hash that `digest` stands for. -/
lemma calculate_fingerprint (sha512 : Bytes → FixedBytes 64) (a b : Bytes32) :
    (calculate sha512 a b).fingerprint.val = (sha512 (hashed a b)).val.take 32 := rfl

def digest (H : HandshakeSuite S) (ourIdentity theirIdentity : Bytes32) : S.Key :=
  H.sha512 (hashed ourIdentity theirIdentity)

end SafetyNumber

namespace KeyStore

def withPinnedKeys {α : Type} (ks : KeyStore S) (peerId : Bytes)
    (calculate : Bytes32 → Bytes32 → α) : Except ProtocolError α :=
  match ks.getIdentityKeypair with
  | .error e => .error e
  | .ok identity =>
    match ks.peerPins.lookup peerId with
    | none => .error .keyNotFound
    | some pin => .ok (calculate identity.ed25519Public pin.identityKey)

def getFingerprint (H : HandshakeSuite S) (ks : KeyStore S) (peerId : Bytes) :
    Except ProtocolError S.Key :=
  ks.withPinnedKeys peerId (SafetyNumber.digest H)

lemma withPinnedKeys_ok {α : Type} {ks : KeyStore S} {p : Bytes} {ca : Bytes32 → Bytes32 → α}
    {x : α} (h : ks.withPinnedKeys p ca = .ok x) : ∃ ours theirs, ca ours theirs = x := by
  unfold withPinnedKeys at h
  split at h
  · cases h
  · split at h
    · cases h
    · exact ⟨_, _, Except.ok.inj h⟩

lemma length_zeros : (List.replicate 32 (0 : UInt8)).length = 32 := List.length_replicate

def ourIdentity (ks : KeyStore S) : Bytes32 :=
  (ks.identity.map IdentityKeyPair.ed25519Public).getD ⟨List.replicate 32 0, length_zeros⟩

lemma pinPeerKey_newPin {ks : KeyStore S} {p : Bytes} {n : Bytes32} {cl : Option Nat}
    (h : (ks.pinPeerKey H p n cl).1 = .newPin) :
    (ks.pinPeerKey H p n cl).2.peerPins.lookup p = some (.new H n ks.ourIdentity cl) := by
  unfold pinPeerKey at h ⊢
  split
  · exact AList.lookup_insert _
  rename_i hei
  simp only [hei] at h
  split at h
  · cases h
  · cases h

/-- The number of a new pin is that of no two keys, and `get_safety_number` gives it for no peer and
no store. The other side has the same one if and only if it pins the key that this side had for its
own. -/
theorem pinned_safetyNumber_iff (hsha : Function.Injective H.sha512) {ks : KeyStore S}
    {peerId : Bytes} {newKey : Bytes32} {clock : Option Nat}
    (hnew : (ks.pinPeerKey H peerId newKey clock).1 = .newPin) : ∃ pin,
    (ks.pinPeerKey H peerId newKey clock).2.peerPins.lookup peerId = some pin ∧
    pin.identityKey = newKey ∧
    (∀ ours theirs, pin.safetyNumber ≠ SafetyNumber.digest H ours theirs) ∧
    (∀ (later : KeyStore S) (peer : Bytes), later.getFingerprint H peer ≠ .ok pin.safetyNumber) ∧
    ∀ (other : KeyStore S) (peer : Bytes) (key : Bytes32) (time : Option Nat) (pin' : PinnedKey S),
    other.ourIdentity = newKey → (other.pinPeerKey H peer key time).1 = .newPin →
    (other.pinPeerKey H peer key time).2.peerPins.lookup peer = some pin' →
    (pin.safetyNumber = pin'.safetyNumber ↔ ks.ourIdentity = key) := by
  refine ⟨_, pinPeerKey_newPin hnew, rfl, ?_⟩
  rw [PinnedKey.new_safetyNumber]
  -- one byte more is hashed for a safety number
  have hne : ∀ ours theirs, H.sha512 (labelledKeys ks.ourIdentity newKey) ≠
      SafetyNumber.digest H ours theirs := by
    intro ours theirs heq
    have hlength := congrArg List.length (hsha heq)
    rw [SafetyNumber.hashed, List.length_cons, length_labelledKeys, length_labelledKeys] at hlength
    cases hlength
  refine ⟨hne, ?_, ?_⟩
  · intro later peer hget
    obtain ⟨ours, theirs, hdigest⟩ := withPinnedKeys_ok hget
    exact hne ours theirs hdigest.symm
  intro other peer key time pin' hother hnew' hpin'
  cases (pinPeerKey_newPin hnew').symm.trans hpin'
  rw [PinnedKey.new_safetyNumber, hother, hsha.eq_iff, labelledKeys_comm newKey key,
    labelledKeys_left_inj]

end KeyStore

namespace Symbolic

def identityStore (party : UInt64) : KeyStore suite :=
  KeyStore.run (handshake signedMessages) KeyStore.new [.setIdentity (identity party)]

def pinnedPeer (party peer : UInt64) : KeyStore suite :=
  ((identityStore party).pinPeerKey (handshake signedMessages) [9] (identity peer).ed25519Public
    (some 2000)).2

lemma sha512_injective (me : List Bytes) : Function.Injective (handshake me).sha512 :=
  absorb_injective (by intro k l h; cases h)

theorem new_pin_number : ∃ pin, (pinnedPeer 1 4).peerPins.lookup [9] = some pin ∧
    pin.identityKey = (identity 4).ed25519Public ∧
    (∀ ours theirs, pin.safetyNumber ≠ SafetyNumber.digest (handshake signedMessages) ours theirs) ∧
    (∀ (later : KeyStore suite) (peer : Bytes),
      later.getFingerprint (handshake signedMessages) peer ≠ .ok pin.safetyNumber) ∧
    ∀ pin', (pinnedPeer 4 1).peerPins.lookup [9] = some pin' →
      pin.safetyNumber = pin'.safetyNumber := by
  have hnew : ((identityStore 1).pinPeerKey (handshake signedMessages) [9]
      (identity 4).ed25519Public (some 2000)).1 = .newPin := by decide +kernel
  obtain ⟨pin, hpin, hkey, hdigest, hshown, hother⟩ :=
    KeyStore.pinned_safetyNumber_iff (sha512_injective signedMessages) hnew
  exact ⟨pin, hpin, hkey, hdigest, hshown, fun pin' hpin' =>
    (hother (identityStore 4) _ _ _ pin' rfl (by decide +kernel) hpin').mpr rfl⟩

/-- The pins of both sides agree, and `get_safety_number` gives each something else. -/
theorem pinned_number_not_shown :
    (∃ number, ((pinnedPeer 1 4).peerPins.lookup [9]).map PinnedKey.safetyNumber = some number ∧
      ((pinnedPeer 4 1).peerPins.lookup [9]).map PinnedKey.safetyNumber = some number ∧
      number ≠ SafetyNumber.digest (handshake signedMessages) (identity 1).ed25519Public
        (identity 4).ed25519Public) ∧
    (pinnedPeer 1 4).getFingerprint (handshake signedMessages) [9] =
      .ok (SafetyNumber.digest (handshake signedMessages) (identity 1).ed25519Public
        (identity 4).ed25519Public) := by
  refine ⟨⟨(handshake signedMessages).sha512
    (labelledKeys (identity 1).ed25519Public (identity 4).ed25519Public), ?_, ?_, ?_⟩, ?_⟩
  · decide +kernel
  · decide +kernel
  · decide +kernel
  · rfl

end Symbolic

end Sibna
