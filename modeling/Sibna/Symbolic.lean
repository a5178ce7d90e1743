import Sibna.Ratchet.Session

/-!
# A symbolic suite

An executable instance of the primitives that satisfies every assumption of `Primitives`. A tag
spells out key, nonce and associated data and can be read from the end.
-/

namespace Sibna.Symbolic

open KeyAlgebra LittleEndian

inductive Shared where
  | lowOrder
  | pair (a b : UInt64)
  | mixed (a : UInt64) (r : Bytes32)
  deriving DecidableEq

abbrev Key := KeyTerm SessionAtom Shared

def publicKey (a : UInt64) : Bytes32 :=
  ⟨toLe 8 a.toNat ++ List.replicate 24 9, by simp⟩

def scalarOf (r : Bytes32) : Option UInt64 :=
  if r.val.drop 8 = List.replicate 24 9 then some (UInt64.ofNat (fromLe (r.val.take 8))) else none

def isLowOrder (r : Bytes32) : Bool :=
  r.val == List.replicate 32 0 || r.val == 1 :: List.replicate 31 0

def diffieHellman (a : UInt64) (r : Bytes32) : Shared :=
  if isLowOrder r then .lowOrder
  else
    match scalarOf r with
    | some b => if a ≤ b then .pair a b else .pair b a
    | none => .mixed a r

lemma scalarOf_publicKey (a : UInt64) : scalarOf (publicKey a) = some a := by
  have hlt : a.toNat < 256 ^ 8 := a.toNat_lt
  simp [scalarOf, publicKey, fromLe_toLe hlt]

variable {a b : UInt64} {u v : Bytes}

lemma publicKey_of_scalarOf {r : Bytes32} (h : scalarOf r = some b) : r = publicKey b := by
  unfold scalarOf at h
  split at h
  · rename_i hdr
    have hb := Option.some.inj h
    have hl : (r.val.take 8).length = 8 := by simp
    have hlt : fromLe (r.val.take 8) < 2 ^ 64 := by
      have hlt := fromLe_lt (r.val.take 8)
      rwa [hl] at hlt
    have hn : b.toNat = fromLe (r.val.take 8) := by
      rw [← hb, UInt64.toNat_ofNat']
      exact Nat.mod_eq_of_lt hlt
    have hta : toLe 8 (fromLe (r.val.take 8)) = r.val.take 8 := by
      have hle := toLe_fromLe (r.val.take 8)
      rwa [hl] at hle
    have hv : (publicKey b).val = r.val.take 8 ++ r.val.drop 8 := by
      rw [hdr, ← hta, ← hn]
      rfl
    apply Subtype.ext
    rw [hv, List.take_append_drop]
  · cases h

lemma publicKey_injective : Function.Injective publicKey := by
  intro a b h
  have hs := scalarOf_publicKey a
  rw [h, scalarOf_publicKey b] at hs
  exact (Option.some.inj hs).symm

lemma isLowOrder_publicKey (a : UInt64) : isLowOrder (publicKey a) = false := by
  have hl : ∀ b : UInt8, (publicKey a).val ≠ b :: List.replicate 31 0 := by
    intro b h
    have hd := congrArg (List.drop 8) h
    simp [publicKey] at hd
  simp only [isLowOrder, Bool.or_eq_false_iff, beq_eq_false_iff_ne]
  exact ⟨hl 0, hl 1⟩

lemma diffieHellman_publicKey (a b : UInt64) :
    diffieHellman a (publicKey b) = if a ≤ b then .pair a b else .pair b a := by
  simp [diffieHellman, isLowOrder_publicKey, scalarOf_publicKey]

lemma diffieHellman_comm (a b : UInt64) :
    diffieHellman a (publicKey b) = diffieHellman b (publicKey a) := by
  rw [diffieHellman_publicKey, diffieHellman_publicKey]
  by_cases hab : a ≤ b
  · by_cases hba : b ≤ a
    · rw [UInt64.le_antisymm hab hba]
    · rw [if_pos hab, if_neg hba]
  · rw [if_neg hab, if_pos (UInt64.le_of_lt (UInt64.not_le.mp hab))]

lemma pair_eq {c d : UInt64}
    (h : (if a ≤ b then Shared.pair a b else .pair b a) = if c ≤ d then .pair c d else .pair d c) :
    (a = c ∧ b = d) ∨ (a = d ∧ b = c) := by
  split_ifs at h <;> cases h
  · exact .inl ⟨rfl, rfl⟩
  · exact .inr ⟨rfl, rfl⟩
  · exact .inr ⟨rfl, rfl⟩
  · exact .inl ⟨rfl, rfl⟩

lemma diffieHellman_eq {x y : Bytes32} (hx : isLowOrder x = false)
    (h : diffieHellman a x = diffieHellman b y) :
    (a = b ∧ x = y) ∨ (y = publicKey a ∧ x = publicKey b) := by
  cases hsx : scalarOf x with
  | some c =>
    rw [publicKey_of_scalarOf hsx, diffieHellman_publicKey] at h
    cases hsy : scalarOf y with
    | some d =>
      rw [publicKey_of_scalarOf hsy, diffieHellman_publicKey] at h
      rw [publicKey_of_scalarOf hsx, publicKey_of_scalarOf hsy]
      rcases pair_eq h with ⟨rfl, rfl⟩ | ⟨rfl, rfl⟩
      · exact .inl ⟨rfl, rfl⟩
      · exact .inr ⟨rfl, rfl⟩
    | none =>
      simp only [diffieHellman, hsy] at h
      split_ifs at h
  | none =>
    simp only [diffieHellman, hx, hsx, Bool.false_eq_true, if_false] at h
    split at h
    · cases h
    cases hsy : scalarOf y with
    | some d =>
      simp only [hsy] at h
      split_ifs at h
    | none => simp_all

def encodeShared : Shared → Bytes
  | .lowOrder => [0]
  | .pair a b => 1 :: toLe 8 a.toNat ++ toLe 8 b.toNat
  | .mixed a r => 2 :: toLe 8 a.toNat ++ r.val

def encodeAtom : SessionAtom → Bytes
  | .zero => [0]
  | .sessionRoot x => 1 :: x.val
  | .sessionChain x => 2 :: x.val

def encodeKey : Key → Bytes
  | .atom a => 0 :: encodeAtom a
  | .mac k l => 1 :: l :: encodeKey k
  | .root k s => 2 :: (encodeKey k ++ encodeShared s)
  | .chain k s => 3 :: (encodeKey k ++ encodeShared s)

lemma toLe_append_inj (h : toLe 8 a.toNat ++ u = toLe 8 b.toNat ++ v) : a = b ∧ u = v := by
  obtain ⟨hab, huv⟩ := List.append_inj h (by simp)
  have ha := a.toNat_lt
  have hb := b.toNat_lt
  have hn := congrArg fromLe hab
  rw [fromLe_toLe ha, fromLe_toLe hb] at hn
  exact ⟨UInt64.toNat_inj.mp hn, huv⟩

lemma bytes32_append_inj {x y : Bytes32} (h : x.val ++ u = y.val ++ v) : x = y ∧ u = v := by
  obtain ⟨hxy, huv⟩ := List.append_inj h (by simp)
  exact ⟨Subtype.ext hxy, huv⟩

lemma encodeShared_append_inj {s s' : Shared} (h : encodeShared s ++ u = encodeShared s' ++ v) :
    s = s' ∧ u = v := by
  cases s <;> cases s' <;>
    simp [encodeShared] at h
  · exact ⟨rfl, h⟩
  · obtain ⟨rfl, hb⟩ := toLe_append_inj h
    obtain ⟨rfl, rfl⟩ := toLe_append_inj hb
    exact ⟨rfl, rfl⟩
  · obtain ⟨rfl, hr⟩ := toLe_append_inj h
    obtain ⟨rfl, rfl⟩ := bytes32_append_inj hr
    exact ⟨rfl, rfl⟩

lemma encodeAtom_append_inj {a a' : SessionAtom} (h : encodeAtom a ++ u = encodeAtom a' ++ v) :
    a = a' ∧ u = v := by
  cases a <;> cases a' <;>
    simp [encodeAtom] at h
  · exact ⟨rfl, h⟩
  all_goals
    obtain ⟨rfl, rfl⟩ := bytes32_append_inj h
    exact ⟨rfl, rfl⟩

lemma encodeKey_append_inj {k k' : Key} (h : encodeKey k ++ u = encodeKey k' ++ v) :
    k = k' ∧ u = v := by
  induction k generalizing k' u v with
  | atom a =>
    cases k' <;> simp [encodeKey] at h
    obtain ⟨rfl, rfl⟩ := encodeAtom_append_inj h
    exact ⟨rfl, rfl⟩
  | mac k l ih =>
    cases k' <;> simp [encodeKey] at h
    obtain ⟨rfl, hk⟩ := h
    obtain ⟨rfl, rfl⟩ := ih hk
    exact ⟨rfl, rfl⟩
  | root k s ih =>
    cases k' <;> simp [encodeKey] at h
    obtain ⟨rfl, hs⟩ := ih h
    obtain ⟨rfl, rfl⟩ := encodeShared_append_inj hs
    exact ⟨rfl, rfl⟩
  | chain k s ih =>
    cases k' <;> simp [encodeKey] at h
    obtain ⟨rfl, hs⟩ := ih h
    obtain ⟨rfl, rfl⟩ := encodeShared_append_inj hs
    exact ⟨rfl, rfl⟩

def terminated : Bytes → Bytes
  | [] => List.replicate 16 0
  | b :: bs => b :: 1 :: terminated bs

lemma sixteen_le_terminated (bs : Bytes) : 16 ≤ (terminated bs).length := by
  induction bs with
  | nil => simp [terminated]
  | cons b bs ih =>
    simp only [terminated, List.length_cons]
    omega

lemma terminated_unique {bs bs' l : Bytes} (h : terminated bs <+: l)
    (h' : terminated bs' <+: l) : bs = bs' := by
  induction bs generalizing bs' l with
  | nil =>
    obtain ⟨u, rfl⟩ := h
    cases bs' with
    | nil => rfl
    | cons b' bs' =>
      obtain ⟨v, hv⟩ := h'
      simp [terminated] at hv
  | cons b bs ih =>
    obtain ⟨u, rfl⟩ := h
    cases bs' with
    | nil =>
      obtain ⟨v, hv⟩ := h'
      simp [terminated] at hv
    | cons b' bs' =>
      obtain ⟨v, hv⟩ := h'
      simp only [terminated, List.cons_append, List.cons.injEq, true_and] at hv
      obtain ⟨rfl, hv⟩ := hv
      rw [ih ⟨u, rfl⟩ ⟨v, hv⟩]

section
variable (k : Key) (nonce ad : Bytes)

def headerTag : Bytes :=
  [UInt8.ofNat k.level, UInt8.ofNat (k.pos 2), 0, 0] ++ List.replicate 8 255 ++ [0, 0, 0, 0]

def tag : Bytes :=
  if ad = [] then headerTag k else (terminated (encodeKey k ++ (nonce ++ ad))).reverse

lemma sixteen_le_tag : 16 ≤ (tag k nonce ad).length := by
  unfold tag
  split
  · simp [headerTag]
  · rw [List.length_reverse]
    exact sixteen_le_terminated _

def aeadEncrypt (m : Bytes) : Bytes := m ++ tag k nonce ad

def aeadDecrypt (c : Bytes) : Option Bytes :=
  let t := tag k nonce ad
  if c.drop (c.length - t.length) = t then some (c.take (c.length - t.length)) else none

lemma zeros_length : (List.replicate 32 (0 : UInt8)).length = 32 := by simp

def keyBytes : Bytes32 :=
  if k = .atom .zero then ⟨List.replicate 32 0, zeros_length⟩
  else ⟨(List.range 32).map fun i => UInt8.ofNat (i + 1), by simp⟩

end

def suite : Suite where
  Key := Key
  Scalar := UInt64
  Shared := Shared
  keyBytes := keyBytes
  zeroKey := .atom .zero
  hmacSha256 := .mac
  hkdfSession := fun x => (.atom (.sessionRoot x), .atom (.sessionChain x))
  hkdfRatchet := fun k s => (.root k s, .chain k s)
  publicKey := publicKey
  diffieHellman := diffieHellman
  aeadEncrypt := aeadEncrypt
  aeadDecrypt := aeadDecrypt

instance : DecidableEq suite.Scalar := inferInstanceAs (DecidableEq UInt64)

def scalar (x : UInt64) : suite.Scalar := x

instance : DecidableEq suite.Key := inferInstanceAs (DecidableEq Key)

lemma term_injective : Function.Injective (id : Key → Key) := Function.injective_id

def kdf : suite.SymbolicKdf where
  term := id
  term_injective := term_injective
  term_zero := rfl
  term_hmac := fun _ _ => rfl
  term_session_root := fun _ => rfl
  term_session_chain := fun _ => rfl
  term_ratchet_root := fun _ _ => rfl
  term_ratchet_chain := fun _ _ => rfl

def dh : suite.SymbolicDh where
  contributory := fun r => isLowOrder r = false
  comm := diffieHellman_comm
  publicKey_injective := publicKey_injective
  publicKey_ne_zero := by
    intro a
    simp [suite, publicKey, isZero, List.replicate]
  publicKey_contributory := isLowOrder_publicKey
  dh_eq := diffieHellman_eq

instance : DecidablePred dh.contributory :=
  fun r => inferInstanceAs (Decidable (isLowOrder r = false))

lemma correctAead : suite.CorrectAead where
  decrypt_encrypt := by
    intro k n ad m
    simp [suite, aeadEncrypt, aeadDecrypt]
  tag_length := by
    intro k n ad m
    have h := sixteen_le_tag k n ad
    have hl : (suite.aeadEncrypt k n ad m).length = m.length + (tag k n ad).length :=
      List.length_append
    omega
  header_length := by
    intro k n m h
    simp [suite, aeadEncrypt, tag, headerTag, h]

lemma tag_suffix {k : Key} {nonce ad c m : Bytes} (h : aeadDecrypt k nonce ad c = some m) :
    tag k nonce ad <:+ c := by
  simp only [aeadDecrypt] at h
  split at h
  · rename_i ht
    rw [← ht]
    exact List.drop_suffix _ _
  · cases h

lemma committingAead : suite.CommittingAead := by
  intro k k' n n' ad ad' c c' m m' had ha' hc h h'
  have ht := tag_suffix h
  have ht' := (tag_suffix h').trans hc
  simp only [tag, had, ha', if_false] at ht ht'
  rw [← List.reverse_prefix, List.reverse_reverse] at ht ht'
  exact (encodeKey_append_inj (terminated_unique ht ht')).1

/-! ## Tags of the real length

Sixteen bytes cannot spell out a key. The suite below has them all the same, for what depends on
the length of a sealed message and not on the key it was sealed under. -/

def shortEncrypt (k : Key) (m : Bytes) : Bytes := m ++ headerTag k

def shortDecrypt (k : Key) (c : Bytes) : Option Bytes :=
  if c.drop (c.length - 16) = headerTag k then some (c.take (c.length - 16)) else none

def short : Suite :=
  { suite with
    aeadEncrypt := fun k _ _ m => shortEncrypt k m
    aeadDecrypt := fun k _ _ c => shortDecrypt k c }

instance : DecidableEq short.Key := inferInstanceAs (DecidableEq Key)

lemma shortEncrypt_length (k : Key) (m : Bytes) : (shortEncrypt k m).length = m.length + 16 := by
  simp [shortEncrypt, headerTag]

lemma shortDecrypt_shortEncrypt (k : Key) (m : Bytes) :
    shortDecrypt k (shortEncrypt k m) = some m := by
  rw [shortDecrypt, shortEncrypt_length, Nat.add_sub_cancel]
  simp [shortEncrypt]

lemma short_aeadLength (k : short.Key) (n ad m : Bytes) :
    (short.aeadEncrypt k n ad m).length = m.length + 16 := shortEncrypt_length k m

lemma short_correctAead : short.CorrectAead where
  decrypt_encrypt := by
    intro k n ad m
    exact shortDecrypt_shortEncrypt k m
  tag_length := by
    intro k n ad m
    rw [short_aeadLength]
    omega
  header_length := by
    intro k n m h
    rw [short_aeadLength, h]

def secret : Bytes32 := ⟨List.replicate 32 7, by simp⟩

def nonce : FixedBytes 12 := ⟨List.replicate 12 5, by simp⟩

lemma device_length : (List.replicate 16 (1 : UInt8)).length = 16 := by simp

lemma second_lt (t : Fin (2 ^ 63)) : t.val < 2 ^ 63 := t.isLt

instance neZero_two_pow : NeZero (2 ^ 63) := ⟨by decide⟩

def env (t : Fin (2 ^ 63)) (x : UInt64) : Env suite :=
  ⟨Clock.at t (second_lt t), x, some nonce, some nonce⟩

def config (headers : Bool) : Config := ⟨2000, headers⟩

abbrev sentBytes {σ : Type} (sent : Outcome σ Bytes) : Bytes := sent.1.toOption.getD []

def session (headers : Bool) : HandshakeRole → DoubleRatchetState suite
  | .initiator => DoubleRatchetSession.initialState secret (1 : UInt64) (publicKey 2)
      (config headers) .initiator (env 1000 0).clock 1000
  | .responder => DoubleRatchetSession.initialState secret (2 : UInt64) (publicKey 1)
      (config headers) .responder (env 1000 0).clock 1000

lemma created_session (h : Bool) (p : HandshakeRole) :
    DoubleRatchetSession.Created (session h p) := by
  cases p <;> exact .inr ⟨secret, _, _, config h, _, (env 1000 0).clock, rfl⟩

def skipping (maxSkip : Nat) (p : HandshakeRole) : DoubleRatchetState suite :=
  { session false p with maxSkip }

end Sibna.Symbolic
