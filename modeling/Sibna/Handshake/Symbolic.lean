import Sibna.Handshake.Suite
import Sibna.Symbolic

/-!
# The symbolic suite, for handshakes

Hashes absorb bytes into a key term. A signature is the signer's name and the place of the message
in a given list.
-/

namespace Sibna.Symbolic

open KeyAlgebra LittleEndian

def absorb (base : Key) : Bytes → Key
  | [] => base
  | b :: bs => .mac (absorb base bs) b

lemma absorb_injective {base : Key} (hb : ∀ k l, base ≠ .mac k l) :
    Function.Injective (absorb base) := by
  intro bs
  induction bs with
  | nil =>
    intro bs' h
    cases bs' with
    | nil => rfl
    | cons b' bs' => exact (hb _ _ h).elim
  | cons b bs ih =>
    intro bs' h
    cases bs' with
    | nil => exact (hb _ _ h.symm).elim
    | cons b' bs' =>
      simp only [absorb, KeyTerm.mac.injEq] at h
      rw [h.2, ih h.1]

lemma absorb_ne_zero {base : Key} (hb : base ≠ .atom .zero) (bs : Bytes) :
    absorb base bs ≠ .atom .zero := by
  cases bs with
  | nil => exact hb
  | cons b bs => exact nofun

section
variable {n i : Nat} (bs : Bytes) (me messages : List Bytes)

def blake3 : Key := absorb (.atom .zero) bs

def hkdfTranscript (ext digest : Key) : Key :=
  absorb (.root (.atom .zero) .lowOrder) (encodeKey ext ++ encodeKey digest)

def hkdfX3dh (salt : Key) (ikm info : Bytes) : Key :=
  absorb (.chain (.atom .zero) .lowOrder) (encodeKey salt ++ (terminated ikm ++ info))

def sharedBytes : Shared → Bytes32
  | .lowOrder => ⟨List.replicate 32 0, zeros_length⟩
  | .pair a b => ⟨toLe 8 a.toNat ++ toLe 8 b.toNat ++ List.replicate 16 1, by simp⟩
  | .mixed a r => ⟨toLe 8 a.toNat ++ r.val.take 24, by simp⟩

def fill (h : bs.length ≤ n) : FixedBytes n :=
  ⟨bs ++ List.replicate (n - bs.length) 0, by
    simp only [List.length_append, List.length_replicate]
    omega⟩

def kem : MlKem768 where
  keyGen := fun d => (fill d.val (by simp), fill d.val (by simp))
  encapsKeyOk := fun _ => true
  decapsKeyOk := fun _ => true
  cipherTextOk := fun _ => true
  encaps := fun pk m => (m, fill (pk.val.take 64 ++ m.val) (by simp))
  decaps := fun sk ct =>
    if ct.val.take 64 = sk.val.take 64 then some ⟨(ct.val.drop 64).take 32, by simp⟩ else none

lemma take_fill {u v : Bytes} (h : (u ++ v).length ≤ n) (hu : u.length = i) :
    (fill (u ++ v) h).val.take i = u := by
  simp only [fill, List.append_assoc]
  exact List.take_left' hu

lemma drop_fill {j : Nat} {u v : Bytes}
    (h : (u ++ v).length ≤ n) (hu : u.length = i) (hv : v.length = j) :
    ((fill (u ++ v) h).val.drop i).take j = v := by
  simp only [fill, List.append_assoc]
  rw [List.drop_left' hu]
  exact List.take_left' hv

lemma take_seed (d : FixedBytes 64) (h : d.val.length ≤ n) : (fill d.val h).val.take 64 = d.val :=
    by
  exact List.take_left' d.property

lemma kem_correct : kem.Correct where
  encapsKey := fun _ => rfl
  decapsKey := fun _ => rfl
  cipherText := fun _ _ => rfl
  decaps_encaps := by
    intro d m
    have hl : ((kem.keyGen d).1.val.take 64 : Bytes).length = 64 := by simp
    have hf : ((kem.keyGen d).1.val.take 64 ++ m.val).length ≤ 1088 := by simp
    have hta : (kem.encaps (kem.keyGen d).1 m).2.val.take 64 = (kem.keyGen d).1.val.take 64 :=
      take_fill hf hl
    have hdr := drop_fill hf hl m.property
    have hs : (kem.keyGen d).1.val.take 64 = (kem.keyGen d).2.val.take 64 := by
      simp only [kem, take_seed]
    change (if (kem.encaps (kem.keyGen d).1 m).2.val.take 64 = (kem.keyGen d).2.val.take 64 then
      some (⟨((kem.encaps (kem.keyGen d).1 m).2.val.drop 64).take 32, by simp⟩ : Bytes32)
      else none) = some m
    rw [if_pos (hta.trans hs)]
    exact congrArg some (Subtype.ext hdr)

def verifyingKey (sk : Bytes32) : Bytes32 := ⟨sk.val.take 8 ++ List.replicate 24 9, by simp⟩

def signature (name : Bytes) (place : Nat) : Bytes :=
  name.take 8 ++ (UInt8.ofNat place :: List.replicate 55 0)

def ed : Ed25519 where
  verifyingKey := verifyingKey
  sign := fun sk m => ⟨signature sk.val (messages.idxOf m), by simp [signature]⟩
  verifyingKeyOk := fun pk => pk.val.drop 8 == List.replicate 24 9
  verify := fun pk m s =>
    messages.contains m && pk.val.drop 8 == List.replicate 24 9 &&
      s.val == signature pk.val (messages.idxOf m)

lemma signature_inj {u v : Bytes32} {i j : Nat} (hi : i < 256) (hj : j < 256)
    (h : signature u.val i = signature v.val j) : u.val.take 8 = v.val.take 8 ∧ i = j := by
  obtain ⟨hta, hpl⟩ := List.append_inj h (by simp)
  refine ⟨hta, ?_⟩
  have hb := congrArg UInt8.toNat (List.cons.inj hpl).1
  rw [UInt8.toNat_ofNat', UInt8.toNat_ofNat'] at hb
  omega

/-- The signatures that verify, with at most 256 messages to sign. -/
def signatures (hlen : messages.length ≤ 256) : SignatureRecord where
  made := fun pk m s => (ed messages).verify pk m s = true
  unique := by
    intro pk pk' m m' s h h'
    simp only [ed, Bool.and_eq_true, List.contains_iff_mem, beq_iff_eq] at h h'
    obtain ⟨⟨hm, hpk⟩, hs⟩ := h
    obtain ⟨⟨hm', hpk'⟩, hs'⟩ := h'
    have hi : messages.idxOf m < 256 := lt_of_lt_of_le (List.idxOf_lt_length_of_mem hm) hlen
    have hj : messages.idxOf m' < 256 := lt_of_lt_of_le (List.idxOf_lt_length_of_mem hm') hlen
    obtain ⟨htake, hidx⟩ := signature_inj hi hj (hs.symm.trans hs')
    refine ⟨Subtype.ext ?_, (List.idxOf_inj hm).mp hidx⟩
    rw [← List.take_append_drop 8 pk.val, ← List.take_append_drop 8 pk'.val, htake, hpk, hpk']

lemma signatures_sound (hl : me.length ≤ 256) : (signatures me hl).Sound (ed me).verify :=
  fun h => h

def handshake : HandshakeSuite suite where
  zeroScalar := (0 : UInt64)
  sharedBytes := sharedBytes
  blake3 := blake3
  hkdfTranscript := hkdfTranscript
  hkdfX3dh := hkdfX3dh
  hkdfIdentity := fun seed => (seed, UInt64.ofNat (fromLe (seed.val.take 8)))
  sha512 := absorb (.root (.root (.atom .zero) .lowOrder) .lowOrder)
  kem := kem
  ed := ed messages

lemma injectiveKdf : (handshake me).InjectiveKdf where
  blake3 := absorb_injective (by intro k l h; cases h)
  hkdfTranscript := by
    intro ext ext' digest digest' h
    have hab := absorb_injective (by intro k l h; cases h) h
    obtain ⟨het, hdi⟩ := encodeKey_append_inj hab
    rw [← List.append_nil (encodeKey digest), ← List.append_nil (encodeKey digest')] at hdi
    exact ⟨het, (encodeKey_append_inj hdi).1⟩
  hkdfX3dh := by
    intro salt salt' ikm ikm' info info' h
    have hab := absorb_injective (by intro k l h; cases h) h
    obtain ⟨hsa, hr⟩ := encodeKey_append_inj hab
    have hik : ikm = ikm' := terminated_unique (List.prefix_append _ info)
      (hr ▸ List.prefix_append _ info')
    subst hik
    exact ⟨hsa, rfl, List.append_cancel_left hr⟩

lemma nonzeroKdf : (handshake me).NonzeroKdf := by
  intro salt ikm info
  have hne : hkdfX3dh salt ikm info ≠ .atom .zero := absorb_ne_zero (by decide) _
  change isZero (keyBytes (hkdfX3dh salt ikm info)).val = false
  rw [keyBytes, if_neg hne]
  decide

end

lemma commutativeDh : suite.CommutativeDh := dh.comm

def seed : FixedBytes 64 := ⟨List.replicate 64 6, by simp⟩

def device (b : UInt8) : FixedBytes 16 := ⟨List.replicate 16 b, by simp⟩

end Sibna.Symbolic
