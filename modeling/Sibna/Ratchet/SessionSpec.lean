import Sibna.Symbolic

/-!
# What one call of a session does

Inversions and frame lemmas of the session functions.
-/

namespace Sibna

variable {S : Suite}

/-- The cache after `n` keys of the chain `k`, from number `index` on, were set aside. -/
def stash (r : Bytes32) : Nat → SkippedKeys S → S.Key → Nat → SkippedKeys S
  | 0, cache, _, _ => cache
  | n + 1, cache, k, index =>
    stash r n (cache.insert (r, index) (messageKeyAt k 0)) (chainAt k 1) (index + 1)

lemma length_insert_le (ca : SkippedKeys S) (t : Bytes32 × Nat) (k : S.Key) :
    (ca.insert t k).entries.length ≤ ca.entries.length + 1 := by
  exact Nat.add_le_add_right (List.kerase_sublist _ _).length_le 1

namespace DoubleRatchetSession

lemma map_ok {σ α β : Type} {f : α → β} {o : Outcome σ α} {b : β} {s : σ}
    (h : o.map f = (.ok b, s)) : ∃ a, o = (.ok a, s) ∧ f a = b := by
  obtain ⟨r, s'⟩ := o
  cases r with
  | error e => cases h
  | ok a =>
    cases h
    exact ⟨a, rfl, rfl⟩

variable {config : Config} {env : Env S} {s s' : DoubleRatchetState S} {message : Bytes}
  {slot : SendKey S} {plaintext : Bytes} {m : RatchetMessage} {ad : Bytes} {d : Decrypted S}
  {e : ProtocolError}

lemma map_error {σ α β : Type} {f : α → β} {o : Outcome σ α} {s : σ} (h : o.map f = (.error e, s)) :
    o = (.error e, s) := by
  obtain ⟨r, s'⟩ := o
  cases r with
  | error e => cases h; rfl
  | ok a => cases h

def Authentic (key : S.Key) (ciphertext plaintext : Bytes) : Prop :=
  ∃ nonce ad, ad ≠ [] ∧ S.aeadDecrypt key nonce ad (ciphertext.drop 36) = some plaintext

lemma openMessage_ok {key : S.Key} (h : openMessage env key m ad s = (.ok d, s')) : d.message = m ∧
    d.messageKey = key ∧ Authentic key m.ciphertext d.plaintext ∧
    s' = { s with skippedMessageKeys := s.skippedMessageKeys.erase m.header.tag } := by
  obtain ⟨p, hd, rfl⟩ := map_ok h
  unfold decryptWithKey at hd
  cases hn : Encryptor.new key 0 with
  | error e => simp [hn] at hd
  | ok enc =>
    obtain ⟨-, rfl⟩ := Encryptor.new_ok hn
    simp only [hn, Encryptor.decryptMessage_fst] at hd
    split at hd
    · cases hd
    rename_i hb
    obtain ⟨n, t, q, ho⟩ := Encryptor.decryptBytes_ok hb
    cases hd
    refine ⟨rfl, rfl, ⟨_, _, ?_, ho⟩, rfl⟩
    intro hni
    have hl := congrArg List.length hni
    simp at hl

lemma openMessage_error {key : S.Key} (h : openMessage env key m ad s = (.error e, s')) :
    s' = s := by
  have hd := map_error h
  unfold decryptWithKey at hd
  split at hd
  · cases hd; rfl
  · split at hd
    · cases hd; rfl
    · cases hd

lemma takeSendKey_ok (h : takeSendKey env s = (.ok slot, s')) : ∃ a c,
    (rotateIfNeeded env s).dhLocal = some a ∧ (rotateIfNeeded env s).sendingChain = some c ∧
    c.index < c.reservedUntil ∧ c.index < c.maxMessages ∧
    slot = ⟨S.publicKey a, c, messageKeyAt c.key 0, c.index, mustRotate env s⟩ ∧
    s' = { rotateIfNeeded env s with sendingChain := some (c.advance 1) } := by
  simp only [takeSendKey] at h
  split at h
  · cases h
  rename_i a ha
  split at h
  · cases h
  rename_i c hc
  split at h
  · cases h
  split at h
  · cases h
  rename_i hmk
  obtain ⟨hlt, rfl, rfl⟩ := ChainKey.nextMessageKey_eq_some hmk
  cases h
  exact ⟨a, c, ha, hc, by omega, hlt, rfl, rfl⟩

lemma takeSendKey_error (h : takeSendKey env s = (.error e, s')) : s' = rotateIfNeeded env s := by
  simp only [takeSendKey] at h
  split at h
  · cases h; rfl
  split at h
  · cases h; rfl
  split at h
  · cases h; rfl
  · split at h
    · cases h; rfl
    · cases h

lemma validate_ok_iff (h : RatchetHeader) (now : Option Nat) : h.validate now = .ok () ↔
    isZero h.dhPublic.val = false ∧ h.messageNumber ≤ 1000000000000 ∧ ∃ t, now = some t ∧
    h.timestamp ≤ t + 300 ∧ t ≤ saturatingAdd h.timestamp 86400 := by
  unfold RatchetHeader.validate
  split
  · simp_all
  split
  · simp_all
  cases now with
  | none => simp
  | some t =>
    simp only []
    split_ifs <;> simp_all

/-- What building and sealing a message needs besides its key: the inner encryptor's own
checks, a key it does not refuse, and the clock and the random generator. -/
structure Sealable (env : Env S) (slot : SendKey S) (plaintext ad : Bytes) : Prop where
  plaintext_ne : plaintext ≠ []
  plaintext_le : plaintext.length ≤ maxMessageSize
  ad_le : ad.length + 56 ≤ maxAdLen
  key_ok : S.weakKey slot.messageKey = false
  dhPub_ne : isZero slot.dhPub.val = false
  number_le : slot.messageNumber ≤ 1000000000000
  nonce : env.nonce.isSome
  encryptor : (env.clock.read .encryptor).isSome
  clock : ∃ ts now, env.clock.read .timestamp = some ts ∧ env.clock.read .validate = some now ∧
    ts ≤ now + 300 ∧ now ≤ ts + 86400

lemma saturatingAdd_of_lt {a b : Nat} (h : a + b < 2 ^ 64) : saturatingAdd a b = a + b := by
  unfold saturatingAdd
  omega

lemma buildMessage_ok {pc : Nat} (h : buildMessage env slot pc plaintext ad = .ok m) :
    ∃ ts, env.clock.read .timestamp = some ts ∧
      m.header = ⟨slot.dhPub, slot.messageNumber, pc, ts⟩ ∧
      m.header.validate (env.clock.read .validate) = .ok () ∧
      S.weakKey slot.messageKey = false ∧
      (⟨slot.messageKey, 0, 0, ∅, 100000⟩ : Encryptor S).encryptBytes
        (env.clock.read .encryptor) env.nonce plaintext (ad ++ m.header.toBytes) =
          .ok m.ciphertext := by
  simp only [buildMessage] at h
  cases hts : env.clock.read .timestamp with
  | none => simp [hts] at h
  | some ts =>
    simp only [hts] at h
    split at h
    · cases h
    rename_i hv
    split at h
    · cases h
    rename_i hn
    obtain ⟨hw, rfl⟩ := Encryptor.new_ok hn
    rw [Encryptor.encryptMessage_fst] at h
    split at h
    · cases h
    · grind

lemma Sealable.of_buildMessage {pc : Nat} (h : buildMessage env slot pc plaintext ad = .ok m) :
    Sealable env slot plaintext ad := by
  obtain ⟨ts, hts, hh, hv, hw, hb⟩ := buildMessage_ok h
  obtain ⟨hne, hl, had, n, t, hn, ht, -⟩ := Encryptor.encryptBytes_ok hb
  rw [hh] at hv
  obtain ⟨hz, hnu, now, hno, hle, hge⟩ := (validate_ok_iff _ _).mp hv
  have hlt := env.clock.read_lt _ _ hts
  simp only [List.length_append, RatchetHeader.toBytes_length] at had
  rw [saturatingAdd_of_lt (by simp only; omega)] at hge
  exact ⟨hne, hl, had, hw, hz, hnu, by simp [hn], by simp [ht],
    ts, now, hts, hno, hle, hge⟩

lemma Sealable.buildMessage {env : Env S} {slot : SendKey S} {plaintext ad : Bytes}
    (h : Sealable env slot plaintext ad) (pc : Nat) :
    ∃ m, buildMessage env slot pc plaintext ad = .ok m := by
  obtain ⟨ts, now, hts, hno, hle, hge⟩ := h.clock
  obtain ⟨n, hn⟩ := Option.isSome_iff_exists.mp h.nonce
  obtain ⟨t, ht⟩ := Option.isSome_iff_exists.mp h.encryptor
  have hlt := env.clock.read_lt _ _ hts
  have hv : RatchetHeader.validate ⟨slot.dhPub, slot.messageNumber, pc, ts⟩
      (env.clock.read .validate) = .ok () := by
    apply (validate_ok_iff _ _).mpr
    refine ⟨h.dhPub_ne, h.number_le, now, hno, hle, ?_⟩
    rw [saturatingAdd_of_lt (by simp only; omega)]
    exact hge
  have had : (ad ++ RatchetHeader.toBytes ⟨slot.dhPub, slot.messageNumber, pc, ts⟩).length ≤
      maxAdLen := by
    simpa using h.ad_le
  simp only [DoubleRatchetSession.buildMessage, hts, hv, Encryptor.new_of_not_weak h.key_ok,
    Encryptor.encryptMessage_fst, hn, ht,
    Encryptor.encryptBytes_of_valid _ h.plaintext_ne h.plaintext_le had]
  exact ⟨_, rfl⟩

section
variable {sent : Encrypted S} (h : encryptMessage config env s plaintext ad = (.ok sent, s'))
include h

lemma encryptMessage_ok : ∃ s1, takeSendKey env s = (.ok sent.slot, s1) ∧
    buildMessage env sent.slot s1.previousCounter plaintext ad = .ok sent.message ∧
    frameMessage config env sent.slot sent.message = .ok sent.wire ∧ s' = recordSent env s1 := by
  simp only [encryptMessage] at h
  split at h
  · cases h
  split at h
  · cases h
  split at h
  · cases h
  rename_i s1 hsl
  split at h
  · cases h
  rename_i hm
  split at h
  · cases h
  · grind

lemma encryptMessage_dhPublic :
    ∃ a, s'.dhLocal = some a ∧ sent.message.header.dhPublic = S.publicKey a := by
  obtain ⟨s1, hta, hb, -, rfl⟩ := encryptMessage_ok h
  obtain ⟨a, c, ha, -, -, -, hsl, rfl⟩ := takeSendKey_ok hta
  obtain ⟨ts, -, hh, -⟩ := buildMessage_ok hb
  refine ⟨a, ha, ?_⟩
  rw [hh, hsl]

end

lemma frameMessage_plain {wire : Bytes} (ho : config.enableHeaderEncryption = false)
    (h : frameMessage config env slot m = .ok wire) : wire = m.toBytes := by
  simp only [frameMessage, ho, Bool.false_and, Bool.false_eq_true, if_false, Except.ok.injEq] at h
  exact h.symm

lemma parseMessage_plain (ho : config.enableHeaderEncryption = false) (s : DoubleRatchetState S)
    (message : Bytes) : parseMessage config s message = RatchetMessage.fromBytes message := by
  simp [parseMessage, ho]

lemma encryptMessage_error (h : encryptMessage config env s plaintext ad = (.error e, s')) :
    ((maxMessageSize < plaintext.length ∨ maxAdLen < ad.length) ∧ s' = s) ∨
    (plaintext.length ≤ maxMessageSize ∧ ad.length ≤ maxAdLen ∧
      (takeSendKey env s = (.error e, s') ∨
      ∃ slot s1, takeSendKey env s = (.ok slot, s1) ∧
        ((s' = s1 ∧ buildMessage env slot s1.previousCounter plaintext ad = .error e) ∨
        (s' = recordSent env s1 ∧ ∃ m, frameMessage config env slot m = .error e)))) := by
  simp only [encryptMessage] at h
  split at h
  · rename_i hv
    cases h
    refine .inl ⟨.inl ?_, rfl⟩
    by_contra hle
    rw [(validateMessageForEncrypt_ok_iff _).mpr (by omega)] at hv
    cases hv
  · rename_i hp
    split at h
    · rename_i hv
      cases h
      refine .inl ⟨.inr ?_, rfl⟩
      by_contra hle
      rw [(validateAssociatedData_ok_iff _).mpr (by omega)] at hv
      cases hv
    · rename_i had
      refine .inr ⟨(validateMessageForEncrypt_ok_iff _).mp hp,
        (validateAssociatedData_ok_iff _).mp had, ?_⟩
      split at h
      · simp_all
      rename_i slot s1 hsl
      split at h
      · simp_all
      rename_i m hm
      split at h
      · grind
      · cases h

lemma decryptParsed_ok (h : decryptParsed env s m ad = (.ok d, s')) :
    (∃ mk, s.skippedMessageKeys.lookup m.header.tag = some mk ∧
      openMessage env mk m ad s = (.ok d, s')) ∨
    ∃ s1 c s2, alignReceiving env s m.header = (.ok (), s1) ∧ s1.receivingChain = some c ∧
      c.index ≤ m.header.messageNumber ∧ c.index < c.maxMessages ∧
      openMessage env (messageKeyAt c.key 0) m ad
        { s1 with receivingChain := some (c.advance 1) } = (.ok d, s2) ∧
      s' = recordReceived env s2 := by
  simp only [decryptParsed] at h
  split at h
  · cases h
  split at h
  · simp_all
  split at h
  · cases h
  rename_i trial htr
  cases h
  simp only [decryptTrial] at htr
  split at htr
  · cases htr
  rename_i s1 hal
  split at htr
  · cases htr
  · rename_i c hc
    split at htr
    · cases htr
    · split at htr
      · cases htr
      · rename_i hmk
        obtain ⟨hlt, rfl, rfl⟩ := ChainKey.nextMessageKey_eq_some hmk
        exact .inr ⟨s1, c, trial, hal, hc, by omega, hlt, htr, rfl⟩

lemma decryptMessage_of_parse (hl : 48 + 29 ≤ message.length)
    (hp : parseMessage config s message = .ok m) (env : Env S) (ad : Bytes) :
    decryptMessage config env s message ad = decryptParsed env s m ad := by
  simp only [decryptMessage, Nat.not_lt.mpr hl, if_false, hp]

lemma decryptMessage_ok (h : decryptMessage config env s message ad = (.ok d, s')) :
    ∃ m, parseMessage config s message = .ok m ∧ decryptParsed env s m ad = (.ok d, s') := by
  simp only [decryptMessage] at h
  split at h
  · cases h
  split at h
  · cases h
  · simp_all

lemma decryptMessage_error (h : decryptMessage config env s message ad = (.error e, s')) :
    s' = s := by
  simp only [decryptMessage] at h
  split at h
  · cases h; rfl
  split at h
  · cases h; rfl
  simp only [decryptParsed] at h
  split at h
  · cases h; rfl
  split at h
  · exact openMessage_error h
  · split at h
    · cases h; rfl
    · cases h

def setAside (s : DoubleRatchetState S) (c : ChainKey S) (r : Bytes32) (n : Nat) :
    DoubleRatchetState S :=
  { s with
    receivingChain := some (c.advance n)
    skippedMessageKeys := stash r n s.skippedMessageKeys c.key c.index }

lemma skipLoop_ok {c : ChainKey S} {n : Nat} (hc : s.receivingChain = some c)
    (h : skipLoop (c.index + n) n s = (.ok (), s')) : (n = 0 ∧ s' = s) ∨ ∃ r, s.dhRemote = some r ∧
    s' = setAside s c r n ∧ s'.skippedMessageKeys.entries.length ≤ s.maxSkip := by
  induction n generalizing s c with
  | zero =>
    cases h
    exact .inl ⟨rfl, rfl⟩
  | succ n ih =>
    have hlt : c.index < c.index + (n + 1) := by omega
    simp only [skipLoop, hc, if_pos hlt] at h
    split at h
    · cases h
    rename_i hmk
    obtain ⟨-, rfl, rfl⟩ := ChainKey.nextMessageKey_eq_some hmk
    split at h
    · cases h
    rename_i r hr
    simp only [DoubleRatchetState.addSkippedKey, DoubleRatchetState.skippedKeysFull,
      decide_eq_true_eq] at h
    by_cases hf : s.skippedMessageKeys.entries.length ≥ s.maxSkip
    · simp_all
    have hin : c.index + (n + 1) = (c.advance 1).index + n := by
      simp only [ChainKey.advance]
      omega
    simp only [if_neg hf, hin] at h
    refine .inr ⟨r, hr, ?_⟩
    rcases ih rfl h with ⟨rfl, rfl⟩ | ⟨r', hr', rfl, hl⟩
    · exact ⟨rfl, (length_insert_le ..).trans (Nat.lt_of_not_le hf)⟩
    cases hr.symm.trans hr'
    refine ⟨?_, hl⟩
    simp only [setAside, ChainKey.advance_advance, Nat.add_comm 1 n]
    rfl

lemma setAside_zero {c : ChainKey S} (hc : s.receivingChain = some c) (r : Bytes32) :
    setAside s c r 0 = s := by
  cases s
  cases hc
  rfl

/-- The loop in closed form: it does nothing, or it sets all keys up to the number aside and
had room for them. -/
lemma skipMessageKeys_ok {u : Nat} (h : skipMessageKeys s u = (.ok (), s')) :
    (s' = s ∧ ∀ c, s.receivingChain = some c → u ≤ c.index) ∨ ∃ c r, s.receivingChain = some c ∧
    s.dhRemote = some r ∧ c.index < u ∧ u ≤ c.index + s.maxSkip ∧
    s' = setAside s c r (u - c.index) ∧ s'.skippedMessageKeys.entries.length ≤ s.maxSkip := by
  unfold skipMessageKeys at h
  split at h
  · simp_all
  rename_i c hc
  split at h
  · cases h
  split at h
  · cases h
  by_cases hle : u ≤ c.index
  · rw [Nat.sub_eq_zero_of_le hle] at h
    cases h
    refine .inl ⟨rfl, fun c' hc' => ?_⟩
    cases hc.symm.trans hc'
    exact hle
  · rw [show u = c.index + (u - c.index) by omega, Nat.add_sub_cancel_left] at h
    rcases skipLoop_ok hc h with ⟨hz, -⟩ | ⟨r, hr, hs', hl⟩
    · omega
    · exact .inr ⟨c, r, hc, hr, by omega, by omega, hs', hl⟩

lemma SumFits.of_chain (h : SumFits s) {c : ChainKey S} (hc : s.receivingChain = some c) :
    c.index + s.maxSkip < 2 ^ 64 := by
  simpa only [SumFits, hc, Option.map_some, Option.getD_some] using h

lemma SumFits.maxSkip_lt (h : SumFits s) : s.maxSkip < 2 ^ 64 :=
  Nat.lt_of_le_of_lt (Nat.le_add_left _ _) h

lemma skipMessageKeys_sum {u : Nat} (h : skipMessageKeys s u = (.ok (), s')) {c : ChainKey S}
    (hc : s.receivingChain = some c) : c.index + s.maxSkip < 2 ^ 64 := by
  by_contra hov
  simp only [skipMessageKeys, hc, if_pos (Nat.le_of_not_lt hov)] at h
  cases h

lemma skipMessageKeys_frame {u : Nat} (h : skipMessageKeys s u = (.ok (), s')) :
    ∃ n cache,
      s' = { s with
        receivingChain := s.receivingChain.map (ChainKey.advance · n)
        skippedMessageKeys := cache } := by
  rcases skipMessageKeys_ok h with ⟨rfl, -⟩ | ⟨c, r, hc, -, -, -, rfl, -⟩
  · exact ⟨0, _, by rw [show s'.receivingChain.map (ChainKey.advance · 0) = _ from Option.map_id']⟩
  · exact ⟨u - c.index, _, by rw [hc]; rfl⟩

lemma notePreviousCounter_eq (s : DoubleRatchetState S) :
    ∃ n, notePreviousCounter s = { s with previousCounter := n } := by
  unfold notePreviousCounter
  split
  · exact ⟨_, rfl⟩
  · exact ⟨s.previousCounter, rfl⟩

lemma dhRatchet_ok {r : Bytes32} (h : dhRatchet env s r = (.ok (), s')) :
    ∃ a, s.dhLocal = some a ∧
      let receiving := kdfRk S s.rootKey (S.diffieHellman a r)
      let sending := kdfRk S receiving.1 (S.diffieHellman env.newLocal r)
      s' = { s with
        rootKey := sending.1
        sendingChain := some (ChainKey.new (env.clock.read .newSendingChain) sending.2)
        receivingChain := some (ChainKey.new (env.clock.read .newReceivingChain) receiving.2)
        dhLocal := some env.newLocal
        dhLocalBytes := (S.publicKey env.newLocal).val
        dhRemote := some r
        dhRemoteBytes := some r.val
        previousCounter := (s.sendingChain.map ChainKey.index).getD 0 } := by
  simp only [dhRatchet] at h
  split at h
  · cases h
  · rename_i a ha
    cases h
    exact ⟨a, ha, rfl⟩

lemma alignReceiving_ok {he : RatchetHeader} (h : alignReceiving env s he = (.ok (), s')) :
    (needsRatchet s he.dhPublic = false ∧
      skipMessageKeys s he.messageNumber = (.ok (), s')) ∨
    (needsRatchet s he.dhPublic = true ∧ ∃ n s₁ s₂,
      skipMessageKeys { s with previousCounter := n } he.previousChainLength = (.ok (), s₁) ∧
      dhRatchet env s₁ he.dhPublic = (.ok (), s₂) ∧
      skipMessageKeys s₂ he.messageNumber = (.ok (), s')) := by
  unfold alignReceiving at h
  split at h
  · rename_i hne
    obtain ⟨n, hn⟩ := notePreviousCounter_eq s
    rw [hn] at h
    split at h
    · cases h
    rename_i s₁ hsk
    split at h
    · cases h
    · grind
  · simp_all

lemma alignReceiving_sum {he : RatchetHeader} {c' : ChainKey S}
    (h : alignReceiving env s he = (.ok (), s')) (hc' : s'.receivingChain = some c') :
    SumFits s := by
  cases hc : s.receivingChain with
  | some c =>
    rw [SumFits, hc]
    rcases alignReceiving_ok h with ⟨-, hsk⟩ | ⟨-, n, s₁, s₂, hsk, -, -⟩
    · exact skipMessageKeys_sum hsk hc
    · exact skipMessageKeys_sum (s := { s with previousCounter := n }) hsk hc
  | none =>
    rw [SumFits, hc]
    rcases alignReceiving_ok h with ⟨-, hsk⟩ | ⟨-, n, s₁, s₂, hsk, hra, hs'⟩
    · -- without a chain nothing is set aside, and there is no chain afterwards
      obtain ⟨k, ca, rfl⟩ := skipMessageKeys_frame hsk
      rw [hc] at hc'
      cases hc'
    · obtain ⟨k, ca, rfl⟩ := skipMessageKeys_frame hsk
      obtain ⟨a, -, rfl⟩ := dhRatchet_ok hra
      exact skipMessageKeys_sum hs' rfl

/-- Nothing changed but the receiving chain, the cache and the counters of the session. -/
structure Kept (s s' : DoubleRatchetState S) : Prop where
  rootKey : s'.rootKey = s.rootKey
  sending : s'.sendingChain = s.sendingChain
  dhLocal : s'.dhLocal = s.dhLocal
  dhRemote : s'.dhRemote = s.dhRemote
  dhRemoteBytes : s'.dhRemoteBytes = s.dhRemoteBytes
  previousCounter : s'.previousCounter = s.previousCounter

/-- The session ratcheted to the remote key `r`. -/
structure Turned (env : Env S) (s s' : DoubleRatchetState S) (r : Bytes32) : Prop where
  needed : needsRatchet s r = true
  dhLocal : s'.dhLocal = some env.newLocal
  dhRemote : s'.dhRemote = some r
  dhRemoteBytes : s'.dhRemoteBytes = some r.val
  previousCounter : s'.previousCounter = (s.sendingChain.map ChainKey.index).getD 0
  sending : ∃ k, s'.sendingChain = some (ChainKey.new (env.clock.read .newSendingChain)
    (kdfRk S k (S.diffieHellman env.newLocal r)).2)
  receiving : ∃ b n, s.dhLocal = some b ∧ s'.receivingChain =
    some ((ChainKey.new (env.clock.read .newReceivingChain)
      (kdfRk S s.rootKey (S.diffieHellman b r)).2).advance n)

lemma alignReceiving_frame {he : RatchetHeader} (h : alignReceiving env s he = (.ok (), s')) :
    (Kept s s' ∧ needsRatchet s he.dhPublic = false) ∨ Turned env s s' he.dhPublic := by
  rcases alignReceiving_ok h with ⟨hn, hsk⟩ | ⟨hn, n, s₁, s₂, hsk, hra, hs'⟩
  · obtain ⟨n, ca, rfl⟩ := skipMessageKeys_frame hsk
    exact .inl ⟨⟨rfl, rfl, rfl, rfl, rfl, rfl⟩, hn⟩
  obtain ⟨n, ca, rfl⟩ := skipMessageKeys_frame hsk
  obtain ⟨a, ha, rfl⟩ := dhRatchet_ok hra
  obtain ⟨n', c', rfl⟩ := skipMessageKeys_frame hs'
  exact .inr ⟨hn, rfl, rfl, rfl, rfl, ⟨_, rfl⟩, a, n', ha, rfl⟩

lemma decryptMessage_frame (h : decryptMessage config env s message ad = (.ok d, s')) :
    Kept s s' ∨ Turned env s s' d.message.header.dhPublic := by
  obtain ⟨m, -, hpa⟩ := decryptMessage_ok h
  rcases decryptParsed_ok hpa with ⟨mk, -, ho⟩ | ⟨s1, c, s2, hal, hc, -, -, ho, rfl⟩
  · obtain ⟨-, -, -, rfl⟩ := openMessage_ok ho
    exact .inl ⟨rfl, rfl, rfl, rfl, rfl, rfl⟩
  obtain ⟨rfl, -, -, rfl⟩ := openMessage_ok ho
  rcases alignReceiving_frame hal with ⟨hk, -⟩ | ht
  · exact .inl ⟨hk.rootKey, hk.sending, hk.dhLocal, hk.dhRemote, hk.dhRemoteBytes,
      hk.previousCounter⟩
  obtain ⟨b, n, hb, hre⟩ := ht.receiving
  refine .inr ⟨ht.needed, ht.dhLocal, ht.dhRemote, ht.dhRemoteBytes, ht.previousCounter,
    ht.sending, b, n + 1, hb, ?_⟩
  cases hc.symm.trans hre
  rfl

/-- A failed decryption leaves the session as it was, so what later calls return does not
depend on it having been tried. -/
theorem decrypt_error_unchanged (config : Config) (env : Env S) (s s' : DoubleRatchetState S)
    (message ad : Bytes) (e : ProtocolError)
    (h : decrypt config env s message ad = (.error e, s')) : s' = s ∧ ∀ calls,
    results config s' calls = results config s calls ∧ run config s' calls = run config s calls :=
    by
  have hs : s' = s := decryptMessage_error (map_error h)
  subst hs
  exact ⟨rfl, fun _ => ⟨rfl, rfl⟩⟩

theorem decrypt_wrong_ad_unchanged :
    let wire := (encrypt (Symbolic.config false) (Symbolic.env 1000 3)
      (Symbolic.session false .initiator) [104, 105] []).1.toOption.getD []
    let o := decrypt (Symbolic.config false) (Symbolic.env 1001 4)
      (Symbolic.session false .responder) wire [1]
    o.1 = .error .authenticationFailed ∧ o.2 = Symbolic.session false .responder := by
  intro wire o
  have herr : o.1 = .error .authenticationFailed := by decide +kernel
  generalize ho : o = r at herr
  obtain ⟨r, s'⟩ := r
  cases herr
  exact ⟨rfl, (decrypt_error_unchanged _ _ _ _ _ _ _ ho).1⟩

lemma performDhRatchet_some {r : Bytes32} (hr : s.dhRemote = some r) (env : Env S) :
    performDhRatchet env s = { s with
      rootKey := (kdfRk S s.rootKey (S.diffieHellman env.newLocal r)).1
      sendingChain := some (ChainKey.new (env.clock.read .newSendingChain)
        (kdfRk S s.rootKey (S.diffieHellman env.newLocal r)).2)
      dhLocal := some env.newLocal
      dhLocalBytes := (S.publicKey env.newLocal).val } := by
  simp only [performDhRatchet, hr]
  rfl

lemma performDhRatchet_none (hr : s.dhRemote = none) (env : Env S) :
    performDhRatchet env s = s.setLocalDh env.newLocal := by
  simp only [performDhRatchet, hr]

@[simp] lemma performDhRatchet_dhLocal (env : Env S) (s : DoubleRatchetState S) :
    (performDhRatchet env s).dhLocal = some env.newLocal := by
  unfold performDhRatchet
  split <;> rfl

lemma performDhRatchet_frame (env : Env S) (s : DoubleRatchetState S) :
    ∃ rootKey sendingChain dhLocal dhLocalBytes, performDhRatchet env s =
      { s with rootKey, sendingChain, dhLocal, dhLocalBytes } := by
  unfold performDhRatchet
  split <;> exact ⟨_, _, _, _, rfl⟩

lemma rotateIfNeeded_frame (env : Env S) (s : DoubleRatchetState S) :
    ∃ rootKey sendingChain dhLocal dhLocalBytes, rotateIfNeeded env s =
      { s with rootKey, sendingChain, dhLocal, dhLocalBytes } := by
  unfold rotateIfNeeded
  split
  · exact performDhRatchet_frame env s
  · exact ⟨_, _, _, _, rfl⟩

lemma rotateIfNeeded_dhLocal (h : mustRotate env s = true) :
    (rotateIfNeeded env s).dhLocal = some env.newLocal := by
  rw [rotateIfNeeded, if_pos h, performDhRatchet_dhLocal]

lemma rotateIfNeeded_of_not (h : mustRotate env s = false) : rotateIfNeeded env s = s := by
  simp [rotateIfNeeded, h]

@[simp] lemma rotateIfNeeded_dhRemote (env : Env S) (s : DoubleRatchetState S) :
    (rotateIfNeeded env s).dhRemote = s.dhRemote := by
  obtain ⟨_, _, _, _, h⟩ := rotateIfNeeded_frame env s
  rw [h]

@[simp] lemma rotateIfNeeded_dhRemoteBytes (env : Env S) (s : DoubleRatchetState S) :
    (rotateIfNeeded env s).dhRemoteBytes = s.dhRemoteBytes := by
  obtain ⟨_, _, _, _, h⟩ := rotateIfNeeded_frame env s
  rw [h]

@[simp] lemma rotateIfNeeded_previousCounter (env : Env S) (s : DoubleRatchetState S) :
    (rotateIfNeeded env s).previousCounter = s.previousCounter := by
  obtain ⟨_, _, _, _, h⟩ := rotateIfNeeded_frame env s
  rw [h]

lemma takeSendKey_frame {s₁ : DoubleRatchetState S} (h : takeSendKey env s = (.ok slot, s₁))
    (hs' : s' = s₁ ∨ s' = recordSent env s₁) :
    ∃ c activity sent, (rotateIfNeeded env s).sendingChain = some c ∧ c.index < c.maxMessages ∧
      s' = { rotateIfNeeded env s with
        sendingChain := some (c.advance 1), lastActivity := activity, messagesSent := sent } := by
  obtain ⟨a, c, -, hc, -, hm, -, rfl⟩ := takeSendKey_ok h
  rcases hs' with rfl | rfl
  · exact ⟨c, _, _, hc, hm, rfl⟩
  · exact ⟨c, _, _, hc, hm, rfl⟩

lemma encryptMessage_frame {r : Except ProtocolError (Encrypted S)}
    (h : encryptMessage config env s plaintext ad = (r, s')) :
    s' = s ∨ ∃ sending activity sent,
      s' = { rotateIfNeeded env s with
        sendingChain := sending, lastActivity := activity, messagesSent := sent } ∧
      (sending = (rotateIfNeeded env s).sendingChain ∨
        ∃ c, (rotateIfNeeded env s).sendingChain = some c ∧ c.index < c.maxMessages ∧
          sending = some (c.advance 1)) := by
  cases r with
  | error e =>
    rcases encryptMessage_error h with ⟨-, hs⟩ | ⟨-, -, hta | ⟨slot, s₁, hta, hs₁⟩⟩
    · exact .inl hs
    · rw [takeSendKey_error hta]
      exact .inr ⟨_, _, _, rfl, .inl rfl⟩
    · obtain ⟨c, activity, sent, hc, hm, hs'⟩ :=
        takeSendKey_frame hta (hs₁.imp And.left And.left)
      exact .inr ⟨_, _, _, hs', .inr ⟨c, hc, hm, rfl⟩⟩
  | ok m =>
    obtain ⟨s₁, hta, -, -, hs₁⟩ := encryptMessage_ok h
    obtain ⟨c, activity, sent, hc, hm, hs'⟩ := takeSendKey_frame hta (.inr hs₁)
    exact .inr ⟨_, _, _, hs', .inr ⟨c, hc, hm, rfl⟩⟩

lemma exists_of_not_mustRotate (h : mustRotate env s = false) : ∃ c, s.sendingChain = some c ∧
    c.index < c.maxMessages ∧ c.ageSecs (env.clock.read .rotation) ≤ 86400 := by
  cases hc : s.sendingChain with
  | none => simp [mustRotate, hc] at h
  | some c =>
    simp only [mustRotate, hc, Option.map_some, Option.getD_some, ChainKey.needsRotation,
      Bool.or_eq_false_iff, decide_eq_false_iff_not] at h
    exact ⟨c, rfl, by omega, by omega⟩

lemma takeSendKey_of_chain {a : S.Scalar} {c : ChainKey S}
    (ha : (rotateIfNeeded env s).dhLocal = some a)
    (hc : (rotateIfNeeded env s).sendingChain = some c) (hr : c.index < c.reservedUntil)
    (hm : c.index < c.maxMessages) :
    takeSendKey env s =
      (.ok ⟨S.publicKey a, c, messageKeyAt c.key 0, c.index, mustRotate env s⟩,
        { rotateIfNeeded env s with sendingChain := some (c.advance 1) }) := by
  simp only [takeSendKey, ha, hc, Nat.not_le.mpr hr, if_false, ChainKey.nextMessageKey_of_lt hm]
  rfl

lemma frameMessage_ok (slot : SendKey S) (m : RatchetMessage)
    (h : config.enableHeaderEncryption = true → slot.rotated = false → env.headerNonce.isSome) :
    ∃ wire, frameMessage config env slot m = .ok wire := by
  unfold frameMessage
  split
  · rename_i hf
    simp only [Bool.and_eq_true, Bool.not_eq_true'] at hf
    obtain ⟨n, hn⟩ := Option.isSome_iff_exists.mp (h hf.1 hf.2)
    exact ⟨_, by simp [hn]; rfl⟩
  · exact ⟨_, rfl⟩

lemma jumpToReservation_eq (env : Env S) (s : DoubleRatchetState S) :
    ∃ activity, jumpToReservation env s = { s with
      sendingChain := s.sendingChain.map fun c => { c with index := max c.index c.reservedUntil }
      lastActivity := activity } := by
  obtain ⟨_, se, _, _, _, _, _, _, _, _, _, activity, _, _, _⟩ := s
  cases se with
  | none => exact ⟨activity, rfl⟩
  | some c =>
    simp only [jumpToReservation, Option.map_some]
    split
    · rename_i hlt
      rw [Nat.max_eq_right (Nat.le_of_lt hlt)]
      exact ⟨_, rfl⟩
    · simp_all

lemma skipLoop_ne_panicked (u n : Nat) (s : DoubleRatchetState S) :
    (skipLoop u n s).1 ≠ .error .panicked := by
  induction n generalizing s with
  | zero => simp [skipLoop]
  | succ n ih =>
    simp only [skipLoop]
    repeat' split
    all_goals simp [ih]

lemma skipMessageKeys_ne_panicked (hsu : SumFits s) (u : Nat) :
    (skipMessageKeys s u).1 ≠ .error .panicked := by
  unfold skipMessageKeys
  split
  · simp
  rename_i c hc
  rw [if_neg (Nat.not_le.mpr (hsu.of_chain hc))]
  split
  · simp
  · exact skipLoop_ne_panicked _ _ _

lemma alignReceiving_ne_panicked (hsu : SumFits s) (h : RatchetHeader) :
    (alignReceiving env s h).1 ≠ .error .panicked := by
  unfold alignReceiving
  split
  · obtain ⟨n, hn⟩ := notePreviousCounter_eq s
    rw [hn]
    have hf := skipMessageKeys_ne_panicked (s := { s with previousCounter := n }) hsu
      h.previousChainLength
    split
    · rename_i heq
      rwa [heq] at hf
    rename_i s₁ hs
    split
    · rename_i heq
      simp only [dhRatchet] at heq
      split at heq
      · cases heq
        simp
      · cases heq
    · rename_i hr
      obtain ⟨k, ca, rfl⟩ := skipMessageKeys_frame hs
      obtain ⟨a, -, rfl⟩ := dhRatchet_ok hr
      refine skipMessageKeys_ne_panicked ?_ _
      -- the new chain starts at index 0
      have hlt := hsu.maxSkip_lt
      simpa only [SumFits, ChainKey.new, Option.map_some, Option.getD_some, Nat.zero_add]
  · exact skipMessageKeys_ne_panicked hsu _

lemma ofCrypto_ne_panicked (e : CryptoError) : ProtocolError.ofCrypto e ≠ .panicked := by
  cases e <;> simp [ProtocolError.ofCrypto]

lemma openMessage_ne_panicked (key : S.Key) (m : RatchetMessage) (ad : Bytes) :
    (openMessage env key m ad s).1 ≠ .error .panicked := by
  simp only [openMessage, decryptWithKey]
  repeat' split
  all_goals simp [Outcome.map, Except.map, ofCrypto_ne_panicked]

lemma decryptTrial_ne_panicked (hsu : SumFits s) (m : RatchetMessage) (ad : Bytes) :
    (decryptTrial env s m ad).1 ≠ .error .panicked := by
  have ha : (alignReceiving env s m.header).1 ≠ _ := alignReceiving_ne_panicked hsu m.header
  unfold decryptTrial
  split
  · rename_i heq
    simp_all
  repeat' split
  all_goals first | exact openMessage_ne_panicked _ _ _ | simp

lemma validate_ne_panicked (h : RatchetHeader) (now : Option Nat) :
    h.validate now ≠ .error .panicked := by
  unfold RatchetHeader.validate
  repeat' split
  all_goals simp

lemma decryptParsed_ne_panicked (hsu : SumFits s) (m : RatchetMessage) (ad : Bytes) :
    (decryptParsed env s m ad).1 ≠ .error .panicked := by
  have ht : (decryptTrial env s.clone m ad).1 ≠ _ := decryptTrial_ne_panicked hsu m ad
  unfold decryptParsed
  split
  · rename_i hv
    simpa [hv] using validate_ne_panicked m.header (env.clock.read .validate)
  split
  · exact openMessage_ne_panicked _ _ _
  split <;> simp_all

lemma fromBytes_ne_panicked (message : Bytes) :
    RatchetMessage.fromBytes message ≠ .error .panicked := by
  unfold RatchetMessage.fromBytes
  split
  · simp
  split
  · rename_i he
    unfold RatchetHeader.fromBytes at he
    split at he
    · cases he
      simp
    · cases he
  · simp

lemma parseMessage_ne_panicked (config : Config) (s : DoubleRatchetState S) (message : Bytes) :
    parseMessage config s message ≠ .error .panicked := by
  unfold parseMessage
  repeat' split
  all_goals first | exact fromBytes_ne_panicked _ | simp

lemma decryptMessage_ne_panicked (hsu : SumFits s) (message ad : Bytes) :
    (decryptMessage config env s message ad).1 ≠ .error .panicked := by
  unfold decryptMessage
  split
  · simp
  split
  · rename_i hp
    simpa [hp] using parseMessage_ne_panicked config s message
  · exact decryptParsed_ne_panicked hsu _ _

end DoubleRatchetSession

end Sibna
