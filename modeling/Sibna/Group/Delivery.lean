import Sibna.Group.Runs

/-!
# Group delivery with losses

Sender and receiver read the same chain and only move forward.
-/

namespace Sibna

open HashChain Runs

variable {S : Suite} {G : GroupSuite S}

/-- What the crates grant: signatures verify, sealed messages open and are 16 bytes longer, and no
message key is weak. -/
structure GroupSuite.Correct (G : GroupSuite S) : Prop where
  aead : S.CorrectAead
  aeadLength : S.AeadLength
  verifyingKeyOk : ∀ seed, G.ed.verifyingKeyOk (G.ed.verifyingKey seed) = true
  verify_sign : ∀ seed m, G.ed.verify (G.ed.verifyingKey seed) m (G.ed.sign seed m) = true
  strong : ∀ k, CryptoHandler.weak (S.keyBytes (G.messageKey k)) = false

namespace GroupSession

variable {seed groupId : Bytes32} {env : GroupEnv S} {s : GroupSession S} {sk : SenderKey S}
  {plaintext : Bytes}

lemma number_le_of_not_rotated (h : needsRotation env sk = false) :
    sk.messageNumber.toNat ≤ 1000 := by
  rw [needsRotation, Bool.or_eq_false_iff, decide_eq_false_iff_not] at h
  exact Nat.le_of_not_lt h.1

lemma rotateIfNeeded_keep {sk₁ : SenderKey S} (hk : needsRotation env sk = false)
    (h : rotateIfNeeded env sk = .ok sk₁) : sk₁ = sk := by
  rw [rotateIfNeeded, hk, if_neg Bool.false_ne_true] at h
  exact (Except.ok.inj h).symm

lemma encrypt_keep_ok {s' : GroupSession S} {m : GroupMessage} (hke : s.ourSenderKey = some sk)
    (hk : needsRotation env sk = false) (hr : encrypt G env s plaintext = (.ok m, s')) :
    s'.ourSenderKey = some (sk.moved G 1) ∧ ∃ ciphertext, plaintext.length ≤ maxGroupMessageSize ∧
    sealMessage env s (G.messageKey sk.chainKey) plaintext = .ok ciphertext ∧
    m = sign G s (messageFor env s (sk.moved G 1) ciphertext) := by
  obtain ⟨sk₀, sk₁, ciphertext, hk₀, hro, hl, hs, hm, rfl⟩ := encrypt_ok hr
  cases hk₀.symm.trans hke
  obtain rfl := rotateIfNeeded_keep hk hro
  exact ⟨rfl, ciphertext, hl, hs, hm⟩

lemma encrypt_keep_error {s' : GroupSession S} {sk' : SenderKey S} {e : ProtocolError}
    (hke : s.ourSenderKey = some sk) (hk : needsRotation env sk = false)
    (hr : encrypt G env s plaintext = (.error e, s')) (hk' : s'.ourSenderKey = some sk') :
    sk' = sk ∨ sk' = sk.moved G 1 := by
  have hn := number_le_of_not_rotated hk
  rcases encrypt_cases (G := G) env s plaintext with ⟨e, heq⟩ | ⟨sk₀, sk₁, hk₀, hro, -, heq⟩
  · simp_all
  cases hk₀.symm.trans hke
  obtain rfl := rotateIfNeeded_keep hk hro
  rcases encryptWith_cases (G := G) env s sk₁ plaintext with ⟨e, sk₂, he', hm⟩ | ⟨_, _, _, he'⟩
  · rw [heq, he'] at hr
    cases hr
    cases hk'
    rcases hm with rfl | ⟨rfl, -⟩ | ⟨-, ho⟩
    · exact .inl rfl
    · exact .inr rfl
    · omega
  · simp_all

/-- What a sender with this seed encrypts in one group, from the moment its sender key is the
first argument, until the key is rotated. Between two calls the session may change in every other
respect, and calls that fail are calls too. -/
inductive Sends (G : GroupSuite S) (seed groupId : Bytes32) :
    SenderKey S → List (GroupMessage × Bytes) → Prop where
  | done (sk : SenderKey S) : Sends G seed groupId sk []
  | sent {sk sk' : SenderKey S} {env : GroupEnv S} {s s' : GroupSession S} {plaintext : Bytes}
      {m : GroupMessage} {rest : List (GroupMessage × Bytes)} (hkey : s.ourSenderKey = some sk)
      (hseed : s.ourSigningKey = some seed) (hgroup : s.groupId = groupId)
      (hkeep : needsRotation env sk = false) (hrun : encrypt G env s plaintext = (.ok m, s'))
      (hkey' : s'.ourSenderKey = some sk') (hrest : Sends G seed groupId sk' rest) :
      Sends G seed groupId sk ((m, plaintext) :: rest)
  | failed {sk sk' : SenderKey S} {env : GroupEnv S} {s s' : GroupSession S} {plaintext : Bytes}
      {e : ProtocolError} {rest : List (GroupMessage × Bytes)} (hkey : s.ourSenderKey = some sk)
      (hkeep : needsRotation env sk = false) (hrun : encrypt G env s plaintext = (.error e, s'))
      (hkey' : s'.ourSenderKey = some sk') (hrest : Sends G seed groupId sk' rest) :
      Sends G seed groupId sk rest

lemma Sends.cons {seed groupId : Bytes32} {sk : SenderKey S} {env : GroupEnv S}
    {s : GroupSession S} {plaintext : Bytes} {m : GroupMessage} {rest : List (GroupMessage × Bytes)}
    (hke : s.ourSenderKey = some sk) (hs : s.ourSigningKey = some seed)
    (hg : s.groupId = groupId) (hk : needsRotation env sk = false)
    (hru : (encrypt G env s plaintext).1 = .ok m)
    (hr : Sends G seed groupId (sk.moved G 1) rest) :
    Sends G seed groupId sk ((m, plaintext) :: rest) := by
  have hc : encrypt G env s plaintext = (.ok m, (encrypt G env s plaintext).2) :=
    Prod.ext hru rfl
  exact .sent hke hs hg hk hc (encrypt_keep_ok hke hk hc).1 hr

structure Genuine (G : GroupSuite S) (seed groupId : Bytes32) (base : SenderKey S)
    (m : GroupMessage) (plaintext : Bytes) : Prop where
  group : m.groupId = groupId
  keyId : m.senderKeyId = base.keyId
  number : m.messageNumber.toNat ≤ 1000
  length : plaintext.length ≤ maxGroupMessageSize
  signed : m.senderSignature = (G.ed.sign seed (m.signableBytes G)).val
  sealed : ∃ c : Cursor S.Key, base.cursor.Reaches G.nextChain c ∧
    c.number = m.messageNumber.toNat ∧ ∃ n : FixedBytes 12,
      m.ciphertext = n.val ++ S.aeadEncrypt (G.messageKey c.key) n.val groupId.val plaintext

lemma moved_reaches {n : Nat} (h : sk.messageNumber.toNat + n < 2 ^ 32) :
    sk.cursor.Reaches G.nextChain (sk.moved G n).cursor := by
  rw [SenderKey.moved_cursor h]
  exact (Cursor.Reaches.refl _).advance n

lemma Genuine.of_moved {m : GroupMessage} {n : Nat} (hlt : sk.messageNumber.toNat + n < 2 ^ 32)
    (h : Genuine G seed groupId (sk.moved G n) m plaintext) :
    Genuine G seed groupId sk m plaintext := by
  obtain ⟨c, hc, hr⟩ := h.sealed
  exact ⟨h.group, h.keyId, h.number, h.length, h.signed, c, (moved_reaches hlt).trans hc, hr⟩

lemma genuine_of_sealed {ci : Bytes} (hs : s.ourSigningKey = some seed) (hg : s.groupId = groupId)
    (hn : sk.messageNumber.toNat ≤ 1000) (hle : plaintext.length ≤ maxGroupMessageSize)
    (hse : sealMessage env s (G.messageKey sk.chainKey) plaintext = .ok ci) :
    (sign G s (messageFor env s (sk.moved G 1) ci)).messageNumber = sk.messageNumber ∧
    Genuine G seed groupId sk (sign G s (messageFor env s (sk.moved G 1) ci)) plaintext := by
  obtain ⟨-, hen⟩ := sealMessage_ok hse
  obtain ⟨-, -, n, -, hci⟩ := CryptoHandler.encrypt_ok hen
  let m := sign G s (messageFor env s (sk.moved G 1) ci)
  have hm : m.messageNumber = sk.messageNumber := by
    simp [m, sign, hs, messageFor, SenderKey.moved]
  refine ⟨hm, ?_⟩
  have hl : m.ciphertext = ci := by
    simp [m, sign, hs, messageFor]
  refine ⟨?_, ?_, by rw [hm]; exact hn, hle, ?_, sk.cursor, Cursor.Reaches.refl _,
    by rw [hm]; rfl, n, ?_⟩
  · simp [sign, hs, messageFor, hg]
  · simp [sign, hs, messageFor]
  · simp only [sign, hs]
    rfl
  · rw [hl, hci, hg]
    rfl

lemma Sends.genuine {sent : List (GroupMessage × Bytes)} (h : Sends G seed groupId sk sent) :
    (∀ x ∈ sent, Genuine G seed groupId sk x.1 x.2 ∧
      sk.messageNumber.toNat ≤ x.1.messageNumber.toNat) ∧
    sent.Pairwise fun x y => x.1.messageNumber.toNat < y.1.messageNumber.toNat := by
  induction h with
  | done sk => exact ⟨nofun, List.Pairwise.nil⟩
  | @sent sk sk' env s s' plaintext m rest hke hs hgr hk hr hk' _ ih =>
    have hn := number_le_of_not_rotated hk
    have hlt : sk.messageNumber.toNat + 1 < 2 ^ 32 := by omega
    obtain ⟨hmo, ci, hl, hse, rfl⟩ := encrypt_keep_ok hke hk hr
    cases hmo.symm.trans hk'
    obtain ⟨hm, hg⟩ := genuine_of_sealed hs hgr hn hl hse
    obtain ⟨hal, hpa⟩ := ih
    rw [SenderKey.moved_number hlt] at hal
    refine ⟨?_, List.Pairwise.cons ?_ hpa⟩
    · intro x hx
      rcases List.mem_cons.mp hx with rfl | hx
      · exact ⟨hg, by rw [hm]⟩
      · obtain ⟨hx, hle⟩ := hal x hx
        exact ⟨hx.of_moved hlt, by omega⟩
    · intro x hx
      have hle := (hal x hx).2
      simp only [hm]
      omega
  | @failed sk sk' env s s' plaintext e rest hke hk hr hk' _ ih =>
    have hn := number_le_of_not_rotated hk
    have hlt : sk.messageNumber.toNat + 1 < 2 ^ 32 := by omega
    rcases encrypt_keep_error hke hk hr hk' with rfl | rfl
    · exact ih
    obtain ⟨hal, hpa⟩ := ih
    rw [SenderKey.moved_number hlt] at hal
    refine ⟨fun x hx => ?_, hpa⟩
    obtain ⟨hx, hle⟩ := hal x hx
    exact ⟨hx.of_moved hlt, by omega⟩

def receive (G : GroupSuite S) (pk : Bytes32) (r : GroupSession S) (x : GroupEnv S × GroupMessage) :
    GroupSession S :=
  ((decrypt G x.1 r x.2 pk).map Prod.snd).getD r

def results (G : GroupSuite S) (pk : Bytes32) :
    GroupSession S → List (GroupEnv S × GroupMessage) → List (Option (Except ProtocolError Bytes))
  | _, [] => []
  | r, x :: xs => (decrypt G x.1 r x.2 pk).map Prod.fst :: results G pk (receive G pk r x) xs

structure InWindow (pk : Bytes32) (r : GroupSession S) (x : GroupEnv S × GroupMessage) : Prop where
  timestamp : ∃ t, x.1.clock.read .validate = some t ∧ x.2.timestamp.toNat ≤ t + 300 ∧
    t ≤ x.2.timestamp.toNat + 86400
  epoch : r.epoch ≤ x.2.epoch
  skip : ∀ sk ∈ r.senderKeys.lookup pk,
    x.2.messageNumber.toNat ≤ sk.messageNumber.toNat + maxSkipGroup
  expiry : ∀ sk ∈ r.senderKeys.lookup pk, sk.Usable x.1.clock (gap sk x.2 + 1)

structure Follows (G : GroupSuite S) (groupId pk : Bytes32) (base : SenderKey S)
    (r : GroupSession S) (n : Nat) : Prop where
  group : r.groupId = groupId
  copy : ∃ sk, r.senderKeys.lookup pk = some sk ∧ sk.keyId = base.keyId ∧
    base.cursor.Reaches G.nextChain sk.cursor ∧ sk.messageNumber.toNat ≤ n

lemma Follows.mono {pk : Bytes32} {base : SenderKey S} {r : GroupSession S} {n n' : Nat}
    (h : Follows G groupId pk base r n) (hle : n ≤ n') : Follows G groupId pk base r n' := by
  obtain ⟨sk, hl, hid, hre, hn⟩ := h.copy
  exact ⟨h.group, sk, hl, hid, hre, hn.trans hle⟩

section
variable {seed groupId : Bytes32} {base : SenderKey S} {m : GroupMessage} {plaintext : Bytes}

section
variable (hG : G.Correct) (h : Genuine G seed groupId base m plaintext)
include hG h

lemma Genuine.verifySender : m.verifySender G (G.ed.verifyingKey seed) = .ok () :=
  verifySender_ok.mpr ⟨hG.verifyingKeyOk seed, _, h.signed, hG.verify_sign seed _⟩

lemma Genuine.length_le : m.ciphertext.length ≤ maxGroupMessageSize + 1024 := by
  obtain ⟨c, -, -, n, hci⟩ := h.sealed
  have hl := h.length
  rw [hci, List.length_append, hG.aeadLength, FixedBytes.length_val, tagLength]
  omega

lemma Follows.opens {env : GroupEnv S} {r : GroupSession S} {sk : SenderKey S}
    (hg : r.groupId = groupId) (hre : base.cursor.Reaches G.nextChain sk.cursor)
    (hle : sk.messageNumber.toNat ≤ m.messageNumber.toNat)
    (hep : sk.Usable env.clock (gap sk m + 1)) : Opens G env r m sk plaintext := by
  obtain ⟨c, hc, hn, n, hci⟩ := h.sealed
  have hcu := hre.advance_of_le hc (by rw [hn]; exact hle)
  have hpl : c.number - sk.cursor.number = gap sk m := by rw [hn]; rfl
  have hk : G.nextChain^[gap sk m] sk.chainKey = c.key := by
    have hke := congrArg Cursor.key hcu
    rw [hpl] at hke
    exact hke.symm
  have hb := h.number
  have hl := h.length
  refine ⟨hep, by unfold gap; omega, openMessage_ok.mpr ⟨hG.strong _, ?_⟩⟩
  rw [hk, hci, hg]
  apply CryptoHandler.decrypt_sealed hG.aead
  rw [hG.aeadLength]
  unfold maxGroupMessageSize at hl
  unfold maxCiphertextLength maxPlaintextLength
  omega

end

lemma Follows.decrypt (hG : G.Correct) {env : GroupEnv S} {r : GroupSession S}
    (hr : Follows G groupId (G.ed.verifyingKey seed) base r m.messageNumber.toNat)
    (h : Genuine G seed groupId base m plaintext)
    (hw : InWindow (G.ed.verifyingKey seed) r (env, m)) :
    ∃ r', GroupSession.decrypt G env r m (G.ed.verifyingKey seed) = some (.ok plaintext, r') ∧
      Follows G groupId (G.ed.verifyingKey seed) base r' (m.messageNumber.toNat + 1) := by
  obtain ⟨sk, hl, hid, hre, hle⟩ := hr.copy
  have hb := h.number
  obtain ⟨t, ht, hea, hla⟩ := hw.timestamp
  have hsi : m.senderSignature ≠ [] := by
    intro hem
    have hln := congrArg List.length (h.signed.symm.trans hem)
    rw [FixedBytes.length_val] at hln
    cases hln
  have har : Arrives G env r m (G.ed.verifyingKey seed) sk := by
    refine ⟨checkMessage_ok.mpr ⟨?_, h.group.trans hr.group.symm, hw.epoch,
      h.verifySender hG, hl, hid.trans h.keyId.symm⟩, ?_, hw.skip sk hl⟩
    · exact validate_ok.mpr ⟨hsi, t, ht, hea, hla, h.length_le hG⟩
    · unfold maxSkipGroup
      omega
  have ho := Follows.opens hG h hr.group hre hle (hw.expiry sk hl)
  have hg : gap sk m + 1 = m.messageNumber.toNat + 1 - sk.messageNumber.toNat := by
    unfold gap
    omega
  refine ⟨_, decrypt_of_opens har ho, hr.group, sk.moved G _,
    AList.lookup_insert _, hid, hre.trans (moved_reaches ho.number), ?_⟩
  rw [SenderKey.moved_number ho.number]
  omega

end

lemma results_of_follows (hG : G.Correct) {base : SenderKey S}
    (de : List (GroupEnv S × GroupMessage × Bytes))
    (hg : ∀ x ∈ de, Genuine G seed groupId base x.2.1 x.2.2)
    (ho : de.Pairwise fun x y => x.2.1.messageNumber.toNat < y.2.1.messageNumber.toNat)
    {r : GroupSession S} (hr : ∀ x ∈ de,
      Follows G groupId (G.ed.verifyingKey seed) base r x.2.1.messageNumber.toNat)
    (hw : Guarded (receive G (G.ed.verifyingKey seed)) (InWindow (G.ed.verifyingKey seed)) r
      (de.map fun x => (x.1, x.2.1))) :
    results G (G.ed.verifyingKey seed) r (de.map fun x => (x.1, x.2.1)) =
      de.map fun x => some (.ok x.2.2) := by
  induction de generalizing r with
  | nil => rfl
  | cons x rest ih =>
    obtain ⟨env, m, plaintext⟩ := x
    obtain ⟨hf, ho⟩ := List.pairwise_cons.mp ho
    obtain ⟨hn, hl⟩ := hw
    obtain ⟨r', heq, hr'⟩ := (hr _ (.head _)).decrypt hG (hg _ (.head _)) hn
    have hs : receive G (G.ed.verifyingKey seed) r (env, m) = r' := by
      rw [receive, heq]
      rfl
    rw [hs] at hl
    simp only [List.map_cons, results, heq, hs]
    congr 1
    apply ih (fun x hx => hg x (.tail _ hx)) ho _ hl
    intro x hx
    exact hr'.mono (hf x hx)

/-- Every subsequence of what a sender encrypts under one sender key, delivered in order and
within the limits to a receiver with a copy from before, is decrypted to the plaintexts. -/
theorem group_delivery (hG : G.Correct) (seed groupId : Bytes32) (sk : SenderKey S)
    (sent : List (GroupMessage × Bytes)) (hsends : Sends G seed groupId sk sent)
    (env : GroupEnv S) (r₀ r : GroupSession S) (hgroup : r₀.groupId = groupId)
    (himport : importSenderKey env r₀ (G.ed.verifyingKey seed) sk = (.ok (), r))
    (delivered : List (GroupEnv S × GroupMessage × Bytes))
    (hsub : (delivered.map Prod.snd).Sublist sent)
    (hwindow : Guarded (receive G (G.ed.verifyingKey seed)) (InWindow (G.ed.verifyingKey seed)) r
      (delivered.map fun x => (x.1, x.2.1))) :
    results G (G.ed.verifyingKey seed) r (delivered.map fun x => (x.1, x.2.1)) =
      delivered.map fun x => some (.ok x.2.2) := by
  obtain ⟨hall, hpair⟩ := hsends.genuine
  obtain ⟨-, rfl⟩ := importSenderKey_ok himport
  have hmem : ∀ x ∈ delivered, x.2 ∈ sent := by
    intro x hx
    exact hsub.subset (List.mem_map_of_mem hx)
  apply results_of_follows hG delivered (fun x hx => (hall x.2 (hmem x hx)).1) _ _ hwindow
  · have horder := hpair.sublist hsub
    rw [List.pairwise_map] at horder
    exact horder
  · intro x hx
    exact ⟨hgroup, sk, AList.lookup_insert _, rfl, Cursor.Reaches.refl _, (hall x.2 (hmem x hx)).2⟩

instance (clock : GroupClock) (sk : SenderKey S) (n : Nat) : Decidable (sk.Usable clock n) :=
  inferInstanceAs (Decidable (∀ i < n, _ = _))

end GroupSession

namespace Symbolic

open GroupSession

lemma shortGroup_correct : shortGroup.Correct where
  aead := short_correctAead
  aeadLength := short_aeadLength
  verifyingKeyOk := by
    intro seed
    simp [shortGroup, hashEd, verifyingKey]
  verify_sign := by
    intro seed m
    simp [shortGroup, hashEd]
  strong := by
    intro k
    have hne : groupMessageKey k ≠ .atom .zero := by
      rintro ⟨⟩
    change CryptoHandler.weak (keyBytes (groupMessageKey k)) = false
    rw [keyBytes, if_neg hne]
    decide

def sendingAt (n : Nat) : GroupSession short :=
  { sending with ourSenderKey := some ((senderKey 1 1).moved shortGroup n) }

def numberedMessage (t : Fin (2 ^ 63)) (n : Nat) : GroupMessage :=
  sentMessage (encrypt shortGroup (shortEnv t 0) (sendingAt n) [UInt8.ofNat n])

lemma sends_numbered {t : Fin (2 ^ 63)} {n : Nat} {rest : List (GroupMessage × Bytes)}
    (hn : (senderKey 1 1).messageNumber.toNat + n < 2 ^ 32)
    (hk : needsRotation (shortEnv t 0) ((senderKey 1 1).moved shortGroup n) = false)
    (hru : (encrypt shortGroup (shortEnv t 0) (sendingAt n) [UInt8.ofNat n]).1 =
      .ok (numberedMessage t n))
    (hr : Sends shortGroup signingSeed groupId ((senderKey 1 1).moved shortGroup (n + 1)) rest) :
    Sends shortGroup signingSeed groupId ((senderKey 1 1).moved shortGroup n)
      ((numberedMessage t n, [UInt8.ofNat n]) :: rest) := by
  refine Sends.cons (s := sendingAt n) rfl rfl rfl hk hru ?_
  rwa [SenderKey.moved_moved hn]

lemma sends_three : Sends shortGroup signingSeed groupId (senderKey 1 1)
    [(numberedMessage 1001 0, [0]), (numberedMessage 1002 1, [1]),
      (numberedMessage 1003 2, [2])] := by
  have hl : Sends shortGroup signingSeed groupId ((senderKey 1 1).moved shortGroup 2)
      [(numberedMessage 1003 2, [2])] :=
    sends_numbered (by decide) (by decide +kernel) (by decide +kernel) (.done _)
  have hse : Sends shortGroup signingSeed groupId ((senderKey 1 1).moved shortGroup 1)
      [(numberedMessage 1002 1, [1]), (numberedMessage 1003 2, [2])] :=
    sends_numbered (by decide) (by decide +kernel) (by decide +kernel) hl
  exact sends_numbered (n := 0) (by decide) (by decide +kernel) (by decide +kernel) hse

def joined : GroupSession short := { receiving with senderKeys := ∅ }

theorem first_and_third_delivered :
    results shortGroup sender (importSenderKey (shortEnv 1000 0) joined sender (senderKey 1 1)).2
      [(shortEnv 1010 0, numberedMessage 1001 0), (shortEnv 1011 0, numberedMessage 1003 2)] =
    [some (.ok [0]), some (.ok [2])] := by
  refine group_delivery shortGroup_correct signingSeed groupId (senderKey 1 1) _ sends_three
    (shortEnv 1000 0) joined _ rfl (Prod.ext ?_ rfl)
    [(shortEnv 1010 0, numberedMessage 1001 0, [0]), (shortEnv 1011 0, numberedMessage 1003 2, [2])]
    ?_ ⟨⟨⟨1010, rfl, ?_, ?_⟩, ?_, ?_, ?_⟩, ⟨⟨1011, rfl, ?_, ?_⟩, ?_, ?_, ?_⟩, trivial⟩
  · decide +kernel
  · exact ((List.Sublist.refl _).cons _).cons_cons _
  all_goals decide +kernel

end Symbolic

end Sibna
