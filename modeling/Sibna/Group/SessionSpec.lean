import Sibna.Group.Session

/-!
# What each group call does

Inversion and frame lemmas for the calls of `Group.Session`.
-/

namespace Sibna

open HashChain

variable {S : Suite} {G : GroupSuite S}

namespace SenderKey

def moved (G : GroupSuite S) (n : Nat) (sk : SenderKey S) : SenderKey S :=
  { sk with
    chainKey := G.nextChain^[n] sk.chainKey
    messageNumber := UInt32.ofNat (sk.messageNumber.toNat + n) }

section
variable (n : Nat) (sk : SenderKey S)

def cursor : Cursor S.Key := ⟨sk.chainKey, sk.messageNumber.toNat⟩

@[simp] lemma moved_zero : sk.moved G 0 = sk := by
  simp [moved]

@[simp] lemma moved_keyId : (sk.moved G n).keyId = sk.keyId := rfl

@[simp] lemma moved_expiration : (sk.moved G n).expiration = sk.expiration := rfl

@[simp] lemma moved_checkExpiration (now : Option Nat) :
    (sk.moved G n).checkExpiration now = sk.checkExpiration now := rfl

end

variable {n : Nat} {now : Option Nat} {sk : SenderKey S}

lemma moved_number (h : sk.messageNumber.toNat + n < 2 ^ 32) :
    (sk.moved G n).messageNumber.toNat = sk.messageNumber.toNat + n :=
  UInt32.toNat_ofNat_of_lt' h

lemma moved_moved {m : Nat} (h : sk.messageNumber.toNat + m < 2 ^ 32) :
    (sk.moved G m).moved G n = sk.moved G (m + n) := by
  have hn := moved_number (G := G) h
  simp only [moved] at hn ⊢
  rw [hn, ← Function.iterate_add_apply, Nat.add_comm n m, Nat.add_assoc]

lemma moved_cursor (h : sk.messageNumber.toNat + n < 2 ^ 32) :
    (sk.moved G n).cursor = sk.cursor.advance G.nextChain n := by
  rw [cursor, moved_number h]
  rfl

lemma nextMessageKey_error {e : ProtocolError} (h : sk.checkExpiration now = .error e) :
    sk.nextMessageKey G now = (.error e, sk) := by
  rw [nextMessageKey, h]

lemma nextMessageKey_moved (h : sk.checkExpiration now = .ok ())
    (hlt : sk.messageNumber.toNat + 1 < 2 ^ 32) :
    sk.nextMessageKey G now = (.ok (G.messageKey sk.chainKey), sk.moved G 1) := by
  have hn : sk.messageNumber + 1 = UInt32.ofNat (sk.messageNumber.toNat + 1) := by
    simp
  rw [nextMessageKey, h]
  simp only [hlt, if_true, moved, hn, Function.iterate_one]

lemma nextMessageKey_overflow (h : sk.checkExpiration now = .ok ())
    (hlt : ¬ sk.messageNumber.toNat + 1 < 2 ^ 32) :
    sk.nextMessageKey G now =
      (.error .messageNumberOverflow, { sk with chainKey := G.nextChain sk.chainKey }) := by
  rw [nextMessageKey, h]
  simp only [hlt, if_false]

lemma advanceTo_cases (cl : GroupClock) (ta : UInt32) (i fuel : Nat) (sk : SenderKey S)
    (hf : ta.toNat - sk.messageNumber.toNat = fuel) :
    (∃ j e, j < fuel ∧ (∀ l < j, sk.checkExpiration (cl.read (.messageKey (i + l))) = .ok ()) ∧
      sk.checkExpiration (cl.read (.messageKey (i + j))) = .error e ∧
      advanceTo G cl ta fuel i sk = (.error e, sk.moved G j)) ∨
    ((∀ l < fuel, sk.checkExpiration (cl.read (.messageKey (i + l))) = .ok ()) ∧
      advanceTo G cl ta fuel i sk = (.ok (i + fuel), sk.moved G fuel)) := by
  induction fuel generalizing i sk with
  | zero =>
    right
    refine ⟨fun l hl => absurd hl (Nat.not_lt_zero l), ?_⟩
    rw [advanceTo, moved_zero, Nat.add_zero]
  | succ fuel ih =>
    have hta := ta.toNat_lt
    have hlt : sk.messageNumber.toNat + 1 < 2 ^ 32 := by omega
    rw [advanceTo, if_pos (UInt32.lt_iff_toNat_lt.mpr (by omega))]
    cases hch : sk.checkExpiration (cl.read (.messageKey i)) with
    | error e =>
      left
      refine ⟨0, e, Nat.succ_pos fuel, fun l hl => absurd hl (Nat.not_lt_zero l), hch, ?_⟩
      rw [nextMessageKey_error hch, moved_zero]
    | ok u =>
      have hn := moved_number (G := G) hlt
      have hm : ∀ n, (sk.moved G 1).moved G n = sk.moved G (n + 1) := by
        intro n
        rw [moved_moved hlt, Nat.add_comm]
      have hpl : ∀ l, i + 1 + l = i + (l + 1) := by
        intro l
        omega
      rw [nextMessageKey_moved hch hlt]
      simp only
      rcases ih _ (sk.moved G 1) (by omega) with ⟨j, e, hj, hb, hat, hr⟩ | ⟨hal, hr⟩
      · left
        rw [hm] at hr
        refine ⟨j + 1, e, by omega, ?_, ?_, hr⟩
        · intro l hl
          cases l with
          | zero => exact hch
          | succ l => simp_all
        · rwa [← hpl]
      · right
        rw [hm] at hr
        refine ⟨?_, by rw [hr, hpl]⟩
        intro l hl
        cases l with
        | zero => exact hch
        | succ l => simp_all

def Usable (clock : GroupClock) (sk : SenderKey S) (n : Nat) : Prop :=
  ∀ i < n, sk.checkExpiration (clock.read (.messageKey i)) = .ok ()

lemma keyFor_cases (cl : GroupClock) (ta : UInt32) (sk : SenderKey S)
    (hn : ta.toNat - sk.messageNumber.toNat = n) (hlt : sk.messageNumber.toNat + n < 2 ^ 32) :
    (∃ j e, j ≤ n ∧ sk.Usable cl j ∧
      sk.checkExpiration (cl.read (.messageKey j)) = .error e ∧
      sk.keyFor G cl ta = (.error e, sk.moved G j)) ∨
    (sk.Usable cl (n + 1) ∧ sk.messageNumber.toNat + (n + 1) < 2 ^ 32 ∧
      sk.keyFor G cl ta =
        (.ok (G.messageKey (G.nextChain^[n] sk.chainKey)), sk.moved G (n + 1))) ∨
    (sk.Usable cl (n + 1) ∧ sk.messageNumber.toNat + (n + 1) = 2 ^ 32 ∧
      sk.keyFor G cl ta = (.error .messageNumberOverflow,
        { sk.moved G n with chainKey := G.nextChain^[n + 1] sk.chainKey })) := by
  unfold keyFor
  rw [hn]
  have hca := advanceTo_cases (G := G) cl ta 0 n sk hn
  simp only [Nat.zero_add] at hca
  rcases hca with ⟨j, e, hj, hb, hat, hr⟩ | ⟨hal, hr⟩
  · left
    exact ⟨j, e, by omega, hb, hat, by rw [hr]⟩
  rw [hr]
  have hnu := moved_number (G := G) hlt
  cases hch : sk.checkExpiration (cl.read (.messageKey n)) with
  | error e =>
    left
    exact ⟨n, e, Nat.le_refl n, hal, hch, nextMessageKey_error hch⟩
  | ok u =>
    right
    have hu : sk.Usable cl (n + 1) := by
      intro i hi
      rcases Nat.lt_succ_iff_lt_or_eq.mp hi with hi | rfl
      · exact hal i hi
      · exact hch
    by_cases hro : sk.messageNumber.toNat + (n + 1) < 2 ^ 32
    · left
      refine ⟨hu, hro, ?_⟩
      have hne : (sk.moved G n).nextMessageKey G _ = _ := nextMessageKey_moved hch (by omega)
      rwa [moved_moved hlt] at hne
    · right
      refine ⟨hu, by omega, ?_⟩
      have hne : (sk.moved G n).nextMessageKey G _ = _ :=
        nextMessageKey_overflow hch (by omega)
      rwa [Function.iterate_succ_apply']

end SenderKey

namespace GroupSession

lemma encrypt_cases (env : GroupEnv S) (s : GroupSession S) (plaintext : Bytes) :
    (∃ e, encrypt G env s plaintext = (.error e, s)) ∨ ∃ sk sk₁, s.ourSenderKey = some sk ∧
    rotateIfNeeded env sk = .ok sk₁ ∧ plaintext.length ≤ maxGroupMessageSize ∧
    encrypt G env s plaintext = encryptWith G env s sk₁ plaintext := by
  unfold encrypt
  split
  · exact .inl ⟨_, rfl⟩
  rename_i hl
  cases hk : s.ourSenderKey with
  | none => exact .inl ⟨_, rfl⟩
  | some sk =>
    cases hro : rotateIfNeeded env sk with
    | error e => exact .inl ⟨e, by simp only [hro]⟩
    | ok sk₁ => exact .inr ⟨sk, sk₁, rfl, hro, Nat.le_of_not_lt hl, by simp only [hro]⟩

lemma encryptWith_cases (env : GroupEnv S) (s : GroupSession S) (sk : SenderKey S)
    (plaintext : Bytes) :
    (∃ e sk', encryptWith G env s sk plaintext = (.error e, { s with ourSenderKey := some sk' }) ∧
      (sk' = sk ∨ sk' = sk.moved G 1 ∧ sk.messageNumber.toNat + 1 < 2 ^ 32 ∨
        sk' = { sk with chainKey := G.nextChain sk.chainKey } ∧
          ¬ sk.messageNumber.toNat + 1 < 2 ^ 32)) ∨
    ∃ ciphertext, sk.messageNumber.toNat + 1 < 2 ^ 32 ∧
      sealMessage env s (G.messageKey sk.chainKey) plaintext = .ok ciphertext ∧
      encryptWith G env s sk plaintext =
        (.ok (sign G s (messageFor env s (sk.moved G 1) ciphertext)),
        touch env { s with ourSenderKey := some (sk.moved G 1) }) := by
  unfold encryptWith
  cases hch : sk.checkExpiration (env.clock.read (.messageKey 0)) with
  | error e =>
    left
    exact ⟨e, sk, by rw [SenderKey.nextMessageKey_error hch], .inl rfl⟩
  | ok u =>
    by_cases hlt : sk.messageNumber.toNat + 1 < 2 ^ 32
    · rw [SenderKey.nextMessageKey_moved hch hlt]
      cases hs : sealMessage env s (G.messageKey sk.chainKey) plaintext with
      | error e =>
        left
        have hs' : sealMessage env { s with ourSenderKey := some (sk.moved G 1) }
            _ plaintext = .error e := hs
        exact ⟨e, _, by simp only [hs'], .inr (.inl ⟨rfl, hlt⟩)⟩
      | ok ciphertext =>
        right
        have hs' : sealMessage env { s with ourSenderKey := some (sk.moved G 1) }
            _ plaintext = .ok ciphertext := hs
        refine ⟨ciphertext, hlt, rfl, ?_⟩
        simp only [hs']
        rfl
    · left
      exact ⟨_, _, by rw [SenderKey.nextMessageKey_overflow hch hlt], .inr (.inr ⟨rfl, hlt⟩)⟩

variable {env : GroupEnv S} {s s' : GroupSession S} {m : GroupMessage} {pk : Bytes32}
  {sk : SenderKey S} {plaintext : Bytes}

lemma encrypt_ok (h : encrypt G env s plaintext = (.ok m, s')) : ∃ sk sk₁ ciphertext,
    s.ourSenderKey = some sk ∧ rotateIfNeeded env sk = .ok sk₁ ∧
    plaintext.length ≤ maxGroupMessageSize ∧
    sealMessage env s (G.messageKey sk₁.chainKey) plaintext = .ok ciphertext ∧
    m = sign G s (messageFor env s (sk₁.moved G 1) ciphertext) ∧
    s' = touch env { s with ourSenderKey := some (sk₁.moved G 1) } := by
  rcases encrypt_cases (G := G) env s plaintext with ⟨e, heq⟩ | ⟨sk, sk₁, hk, hro, hl, heq⟩
  · rw [heq] at h
    cases h
  rcases encryptWith_cases (G := G) env s sk₁ plaintext with
    ⟨e, _, he', -⟩ | ⟨ciphertext, -, hs, he'⟩
  · rw [heq, he'] at h
    cases h
  · simp_all

lemma sign_eq (s : GroupSession S) (m : GroupMessage) :
    ∃ signature, sign G s m = { m with senderSignature := signature } := by
  unfold sign
  split
  · exact ⟨m.senderSignature, rfl⟩
  · exact ⟨_, rfl⟩

lemma sealMessage_ok {key : S.Key} {ci : Bytes} (h : sealMessage env s key plaintext = .ok ci) :
    CryptoHandler.weak (S.keyBytes key) = false ∧
    (⟨key⟩ : CryptoHandler S).encrypt env.nonce plaintext s.groupId.val = .ok ci := by
  unfold sealMessage at h
  simp only [bind_ok, mapError_ok] at h
  obtain ⟨cr, hn, hse⟩ := h
  obtain ⟨hci, hw⟩ := CryptoHandler.new_ok hn
  obtain ⟨cp⟩ := cr
  obtain rfl := hci
  exact ⟨hw, hse⟩

lemma validate_ok {now : Option Nat} : m.validate now = .ok () ↔ m.senderSignature ≠ [] ∧ ∃ t,
    now = some t ∧ m.timestamp.toNat ≤ t + 300 ∧ t ≤ m.timestamp.toNat + 86400 ∧
    m.ciphertext.length ≤ maxGroupMessageSize + 1024 := by
  unfold GroupMessage.validate
  simp only [bind_ok, ensure_ok, okOr_ok, decide_eq_true_eq, Bool.not_eq_true',
    List.isEmpty_eq_false_iff]
  constructor
  · simp_all
  · simp_all

lemma checkMessage_ok : checkMessage G env s m pk = .ok sk ↔
    m.validate (env.clock.read .validate) = .ok () ∧ m.groupId = s.groupId ∧ s.epoch ≤ m.epoch ∧
    m.verifySender G pk = .ok () ∧ s.senderKeys.lookup pk = some sk ∧ sk.keyId = m.senderKeyId := by
  unfold checkMessage
  simp only [bind_ok, ensure_ok, okOr_ok, decide_eq_true_eq]
  constructor
  · rintro ⟨_, hv, _, hg, _, hep, _, hsi, sk', hl, _, hid, hre⟩
    cases hre
    exact ⟨hv, hg, hep, hsi, hl, hid⟩
  · rintro ⟨hv, hg, hep, hsi, hl, hid⟩
    exact ⟨(), hv, (), hg, (), hep, (), hsi, sk, hl, (), hid, rfl⟩

lemma verifySender_ok : m.verifySender G pk = .ok () ↔ G.ed.verifyingKeyOk pk = true ∧
    ∃ signature : FixedBytes 64, m.senderSignature = signature.val ∧
    G.ed.verify pk (m.signableBytes G) signature = true := by
  unfold GroupMessage.verifySender
  simp only [bind_ok, ensure_ok, tryInto_ok]
  constructor
  · simp_all
  rintro ⟨hk, signature, hsi, hv⟩
  refine ⟨(), ?_, (), hk, signature, hsi, hv⟩
  have hl : m.senderSignature.length = 64 := by rw [hsi, FixedBytes.length_val]
  cases hb : m.senderSignature with
  | nil => simp_all
  | cons b bs => rfl

lemma openMessage_ok {key : S.Key} {ci : Bytes} : openMessage s key ci = .ok plaintext ↔
    CryptoHandler.weak (S.keyBytes key) = false ∧
    (⟨key⟩ : CryptoHandler S).decrypt ci s.groupId.val = .ok plaintext := by
  unfold openMessage
  simp only [bind_ok, mapError_ok]
  constructor
  · rintro ⟨cr, hn, ho⟩
    obtain ⟨hci, hw⟩ := CryptoHandler.new_ok hn
    obtain ⟨cp⟩ := cr
    obtain rfl := hci
    exact ⟨hw, ho⟩
  · rintro ⟨hw, ho⟩
    refine ⟨⟨key⟩, ?_, ho⟩
    rw [CryptoHandler.new, hw]
    rfl

def gap (sk : SenderKey S) (m : GroupMessage) : Nat :=
  m.messageNumber.toNat - sk.messageNumber.toNat

structure Arrives (G : GroupSuite S) (env : GroupEnv S) (s : GroupSession S) (m : GroupMessage)
    (pk : Bytes32) (sk : SenderKey S) : Prop where
  checked : checkMessage G env s m pk = .ok sk
  room : sk.messageNumber.toNat + maxSkipGroup < 2 ^ 32
  skip : m.messageNumber.toNat ≤ sk.messageNumber.toNat + maxSkipGroup

structure Opens (G : GroupSuite S) (env : GroupEnv S) (s : GroupSession S) (m : GroupMessage)
    (sk : SenderKey S) (plaintext : Bytes) : Prop where
  usable : sk.Usable env.clock (gap sk m + 1)
  number : sk.messageNumber.toNat + (gap sk m + 1) < 2 ^ 32
  opened : openMessage s (G.messageKey (G.nextChain^[gap sk m] sk.chainKey)) m.ciphertext =
    .ok plaintext

lemma Arrives.lookup {env : GroupEnv S} {s : GroupSession S} {m : GroupMessage} {pk : Bytes32}
    {sk : SenderKey S} (h : Arrives G env s m pk sk) : s.senderKeys.lookup pk = some sk :=
  (checkMessage_ok.mp h.checked).2.2.2.2.1

lemma Arrives.gap_lt (h : Arrives G env s m pk sk) :
    sk.messageNumber.toNat + gap sk m < 2 ^ 32 := by
  have hro := h.room
  have hsk := h.skip
  unfold gap
  omega

lemma decrypt_eq_decryptWith (h : Arrives G env s m pk sk) :
    decrypt G env s m pk = some (decryptWith G env s m pk sk) := by
  rw [decrypt, h.checked]
  simp only
  rw [if_neg (Nat.not_le.mpr h.room), if_neg (Nat.not_lt.mpr h.skip)]

lemma decrypt_not_arrives (h : ∀ sk, ¬ Arrives G env s m pk sk) :
    decrypt G env s m pk = none ∨ ∃ e, decrypt G env s m pk = some (.error e, s) := by
  unfold decrypt
  cases hch : checkMessage G env s m pk with
  | error e => exact .inr ⟨e, rfl⟩
  | ok sk =>
    simp only
    split
    · exact .inl rfl
    rename_i hro
    split
    · exact .inr ⟨_, rfl⟩
    · rename_i hsk
      exact absurd ⟨hch, Nat.lt_of_not_le hro, Nat.le_of_not_lt hsk⟩ (h sk)

lemma decrypt_of_opens (h : Arrives G env s m pk sk) (ho : Opens G env s m sk plaintext) :
    decrypt G env s m pk = some (.ok plaintext, touch env
      { s with senderKeys := s.senderKeys.insert pk (sk.moved G (gap sk m + 1)) }) := by
  have hk : sk.keyFor G env.clock m.messageNumber =
      (.ok (G.messageKey (G.nextChain^[gap sk m] sk.chainKey)), sk.moved G (gap sk m + 1)) := by
    rcases sk.keyFor_cases env.clock m.messageNumber rfl h.gap_lt with
      ⟨j, e, hj, -, hre, -⟩ | ⟨-, -, hk⟩ | ⟨-, hl, -⟩
    · have hu := ho.usable j (Nat.lt_succ_of_le hj)
      rw [hre] at hu
      cases hu
    · exact hk
    · exact absurd ho.number (Nat.not_lt.mpr (Nat.le_of_eq hl.symm))
  have hop : openMessage { s with
      senderKeys := s.senderKeys.insert pk (sk.moved G (gap sk m + 1)) }
      (G.messageKey _) m.ciphertext = .ok plaintext :=
    ho.opened
  rw [decrypt_eq_decryptWith h, decryptWith, hk]
  simp only [hop]

def Spoils (G : GroupSuite S) (env : GroupEnv S) (sk sk' : SenderKey S) : Prop :=
  (∃ j, sk' = sk.moved G j ∧ sk.messageNumber.toNat + j < 2 ^ 32 ∧
    (j = 0 ↔ sk.checkExpiration (env.clock.read (.messageKey 0)) ≠ .ok ())) ∨
  (sk'.keyId = sk.keyId ∧ sk.messageNumber.toNat < sk'.messageNumber.toNat ∧
    sk'.messageNumber.toNat + 1 = 2 ^ 32 ∧
    sk.checkExpiration (env.clock.read (.messageKey 0)) = .ok ())

lemma decrypt_not_opens (h : Arrives G env s m pk sk) (hop : ∀ p, ¬ Opens G env s m sk p) : ∃ e sk',
    decrypt G env s m pk = some (.error e, { s with senderKeys := s.senderKeys.insert pk sk' }) ∧
    Spoils G env sk sk' := by
  rw [decrypt_eq_decryptWith h, decryptWith]
  have hro := h.room
  rcases sk.keyFor_cases env.clock m.messageNumber rfl h.gap_lt with
    ⟨j, e, hj, hu, hre, hk⟩ | ⟨hu, hlt, hk⟩ | ⟨hu, hl, hk⟩
  · have hga := h.gap_lt
    have hj' : j ≤ gap sk m := hj
    refine ⟨e, sk.moved G j, by rw [hk], .inl ⟨j, rfl, by omega, ?_⟩⟩
    cases j with
    | zero =>
      simp [hre]
    | succ j =>
      rw [hu 0 (Nat.succ_pos j)]
      exact ⟨fun hj => absurd hj (Nat.succ_ne_zero j), fun hok => absurd rfl hok⟩
  · rw [hk]
    cases ho : openMessage { s with
        senderKeys := s.senderKeys.insert pk (sk.moved G (gap sk m + 1)) }
        (G.messageKey _) m.ciphertext with
    | ok p => exact absurd ⟨hu, hlt, ho⟩ (hop p)
    | error e =>
      refine ⟨e, sk.moved G _, ?_, .inl ⟨_, rfl, hlt, ?_⟩⟩
      · simp only [gap] at ho
        simp only [ho]
      · rw [hu 0 (Nat.succ_pos _)]
        exact ⟨fun hj => absurd hj (Nat.succ_ne_zero _), fun hok => absurd rfl hok⟩
  · -- the last number is more than one place away
    have hn := SenderKey.moved_number (G := G) h.gap_lt
    have hl' : sk.messageNumber.toNat + (gap sk m + 1) = 2 ^ 32 := hl
    simp only [maxSkipGroup] at hro
    refine ⟨_, { sk.moved G _ with chainKey := G.nextChain^[gap sk m + 1] sk.chainKey },
      by rw [hk]; rfl, .inr ⟨rfl, ?_, ?_, hu 0 (Nat.succ_pos _)⟩⟩
    · have hg : sk.messageNumber.toNat < (sk.moved G (gap sk m)).messageNumber.toNat := by omega
      exact hg
    · have hg : (sk.moved G (gap sk m)).messageNumber.toNat + 1 = 2 ^ 32 := by omega
      exact hg

lemma decrypt_ok (h : decrypt G env s m pk = some (.ok plaintext, s')) : ∃ sk,
    Arrives G env s m pk sk ∧ Opens G env s m sk plaintext ∧
    s' = touch env { s with senderKeys := s.senderKeys.insert pk (sk.moved G (gap sk m + 1)) } := by
  by_cases har : ∃ sk, Arrives G env s m pk sk
  · obtain ⟨sk, har⟩ := har
    by_cases ho : ∃ p, Opens G env s m sk p
    · obtain ⟨p, ho⟩ := ho
      rw [decrypt_of_opens har ho] at h
      cases h
      exact ⟨sk, har, ho, rfl⟩
    · obtain ⟨e, sk', heq, -⟩ := decrypt_not_opens har (not_exists.mp ho)
      rw [heq] at h
      cases h
  · rcases decrypt_not_arrives (not_exists.mp har) with heq | ⟨e, heq⟩
    · rw [heq] at h
      cases h
    · rw [heq] at h
      cases h

lemma importSenderKey_ok {key : SenderKey S} (h : importSenderKey env s pk key = (.ok (), s')) :
    (∀ existing ∈ s.senderKeys.lookup pk, existing.keyId < key.keyId) ∧
    s' = touch env { s with senderKeys := s.senderKeys.insert pk key } := by
  unfold importSenderKey at h
  split at h
  · cases h
  split at h
  · cases h
  rename_i hei
  cases h
  refine ⟨fun existing hm => ?_, rfl⟩
  exact UInt32.not_le.mp fun hle => hei ⟨existing, hm, hle⟩

end GroupSession

end Sibna
