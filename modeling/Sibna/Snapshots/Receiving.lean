import Sibna.Snapshots.Calls

/-!
# What a restored session still receives

`max_skip` comes back as zero, so the cache is empty and stays so.
-/

namespace Sibna.DoubleRatchetSession

open KeyAlgebra

variable {S : Suite}

/-- The states of a session: new ones, and what calls, reservations and restores of saved
states make of them. -/
inductive Reachable (config : Config) : DoubleRatchetState S → Prop where
  | created {s : DoubleRatchetState S} (h : Created s) : Reachable config s
  | call {s : DoubleRatchetState S} (h : Reachable config s) (c : Call S) :
      Reachable config (call config s c).2
  | reserveNonces {s : DoubleRatchetState S} (h : Reachable config s) (env : Env S) (count : Nat) :
      Reachable config (reserveNonces env s count)
  | jumpToReservation {s : DoubleRatchetState S} (h : Reachable config s) (env : Env S) :
      Reachable config (jumpToReservation env s)
  | deserializeState {s d : DoubleRatchetState S} (h : Reachable config s)
      (hd : Reachable config d) (env : Env S) :
      Reachable config (deserializeState env s (serializeState d)).2
  | loadSession {d : DoubleRatchetState S} (hd : Reachable config d) (env : Env S) :
      Reachable config (SecureStorage.loadSession env (serializeState d))

structure Recorded (s : DoubleRatchetState S) : Prop where
  length : ∀ b, s.dhRemoteBytes = some b → b.length = 32
  remote : ∀ r, s.dhRemote = some r → s.dhRemoteBytes = some r.val

lemma newestSkipped_zero (s : DoubleRatchetState S) : newestSkipped s 0 = ∅ := by
  rfl

structure Reloaded (s s' : DoubleRatchetState S) : Prop where
  receiving : s'.receivingChain = s.receivingChain
  remote : ∀ r, s.dhRemote = some r → s'.dhRemote = some r
  cache : s'.skippedMessageKeys = ∅
  maxSkip : s'.maxSkip = 0
  rootKey : s'.rootKey = s.rootKey ∨ ∃ x, s'.rootKey = (kdfRk S s.rootKey x).1

section
variable {K : S.SymbolicKdf} {config : Config} {env : Env S} {untilN : Nat}
  {s s' : DoubleRatchetState S} {message ad : Bytes} {m : RatchetMessage}

lemma deserializeState_reloaded (hs : Recorded s) (env : Env S) (s₀ : DoubleRatchetState S) :
    (deserializeState env s₀ (serializeState s)).1 = .ok () ∧
    Reloaded s (deserializeState env s₀ (serializeState s)).2 := by
  cases hb : s.dhRemoteBytes with
  | none =>
    have hl : (serializeState s).load.restoreDhKeys = .ok (serializeState s).load := by
      simp only [DoubleRatchetState.restoreDhKeys, serializeState, SavedState.load,
        DoubleRatchetState.save, hb]
    simp only [deserializeState, hl]
    refine ⟨trivial, rfl, ?_, newestSkipped_zero _, rfl, .inl rfl⟩
    intro r hr
    rw [hs.remote r hr] at hb
    cases hb
  | some b =>
    have hle := hs.length b hb
    have hl : (serializeState s).load.restoreDhKeys =
        .ok { (serializeState s).load with dhRemote := some ⟨b, hle⟩ } := by
      simp only [DoubleRatchetState.restoreDhKeys, serializeState, SavedState.load,
        DoubleRatchetState.save, hb, hle, dite_true]
    have hre : ∀ r, s.dhRemote = some r → some (⟨b, hle⟩ : Bytes32) = some r := by
      intro r hr
      rw [hs.remote r hr, Option.some.injEq] at hb
      exact congrArg some (Subtype.ext hb.symm)
    simp only [deserializeState, hl]
    refine ⟨trivial, ?_⟩
    cases hse : s.sendingChain with
    | none =>
      simp only [serializeState, DoubleRatchetState.save, hse]
      exact ⟨rfl, hre, newestSkipped_zero _, rfl, .inl rfl⟩
    | some c =>
      simp only [serializeState, DoubleRatchetState.save, hse]
      exact ⟨rfl, hre, newestSkipped_zero _, rfl, .inr ⟨_, rfl⟩⟩

lemma recorded_created (h : Created s) : Recorded s := by
  rcases h with ⟨config, l, now, rfl⟩ | ⟨_, _, rd, _, _, _, h⟩
  · exact ⟨fun b hb => (by cases hb), fun r hr => (by cases hr)⟩
  obtain ⟨-, now, -, rfl⟩ := fromSharedSecret_ok h
  refine ⟨fun b hb => ?_, fun r hr => ?_⟩
  · cases hb
    exact rd.property
  · cases hr
    rfl

lemma Recorded.call {config : Config} {s : DoubleRatchetState S} (h : Recorded s)
    (c : Call S) : Recorded (DoubleRatchetSession.call config s c).2 := by
  cases c with
  | encrypt env p ad =>
    simp only [DoubleRatchetSession.call, encrypt, Outcome.map]
    cases ho : encryptMessage config env s p ad with
    | mk r s' =>
      rcases encryptMessage_frame ho with rfl | ⟨se, a, sent, rfl, -⟩
      · exact h
      · exact ⟨by simpa using h.length, by simpa using h.remote⟩
  | decrypt env message ad =>
    simp only [DoubleRatchetSession.call, decrypt, Outcome.map]
    cases ho : decryptMessage config env s message ad with
    | mk r s' =>
      cases r with
      | error e =>
        rwa [decryptMessage_error ho]
      | ok d =>
        rcases decryptMessage_frame ho with hk | ht
        · constructor
          · rw [hk.dhRemoteBytes]
            exact h.length
          · rw [hk.dhRemoteBytes, hk.dhRemote]
            exact h.remote
        · refine ⟨fun b hb => ?_, fun r hr => ?_⟩
          · rw [ht.dhRemoteBytes, Option.some.injEq] at hb
            rw [← hb]
            exact FixedBytes.length_val _
          · rw [ht.dhRemote, Option.some.injEq] at hr
            rw [ht.dhRemoteBytes, hr]

lemma Recorded.restored {d : DoubleRatchetState S} (hs : Recorded s) (hd : Recorded d)
    (h : Restored env s (serializeState d) s') : Recorded s' := by
  cases h with
  | refused => exact hs
  | unanchored ca hb => exact ⟨hd.length, nofun⟩
  | receiver ca hb hse => exact ⟨hd.length, fun r hr => by cases hr; exact hb⟩
  | @ratcheted ca r hb =>
    exact ⟨hd.length, fun r hr => by cases hr; exact hb⟩

lemma Reachable.recorded (h : Reachable config s) : Recorded s := by
  induction h with
  | created h => exact recorded_created h
  | call h c ih => exact ih.call c
  | @reserveNonces s h env co ih =>
    obtain ⟨a, heq⟩ := reserveNonces_eq env s co
    rw [heq]
    exact ⟨ih.length, ih.remote⟩
  | @jumpToReservation s h env ih =>
    obtain ⟨a, heq⟩ := jumpToReservation_eq env s
    rw [heq]
    exact ⟨ih.length, ih.remote⟩
  | deserializeState hs hd env ihs ihd => exact ihs.restored ihd (restored_deserializeState env _ _)
  | @loadSession d hd env ih =>
    obtain ⟨a, heq⟩ := jumpToReservation_eq env (serializeState d).load
    rw [SecureStorage.loadSession, heq]
    exact ⟨ih.length, nofun⟩

lemma ledger_congr (h : Ledger K (s.schedule [])) (hro : s'.rootKey = s.rootKey)
    (hse : s'.sendingChain.map ChainKey.key = s.sendingChain.map ChainKey.key)
    (hre : s'.receivingChain = s.receivingChain)
    (hca : ∀ t k, s'.skippedMessageKeys.lookup t = some k →
      s.skippedMessageKeys.lookup t = some k) : Ledger K (s'.schedule []) := by
  have his : ∀ k, Issued K (s.schedule []) k → Issued K (s'.schedule []) k := by
    rintro k ⟨c, hkc, hle, hs, hr⟩
    refine ⟨c, hkc, ?_, ?_, ?_⟩
    · simpa only [DoubleRatchetState.schedule, hro] using hle
    · simpa only [DoubleRatchetState.schedule, hse] using hs
    · simpa only [DoubleRatchetState.schedule, hre] using hr
  constructor
  · simpa only [DoubleRatchetState.schedule, hro, hse] using h.sending_le
  · simpa only [DoubleRatchetState.schedule, hro, hre] using h.receiving_le
  · simpa only [DoubleRatchetState.schedule, hse, hre] using h.apart
  · exact fun t k hk => his k (h.skipped_issued t k (hca t k hk))
  · exact (by rintro _ ⟨⟩)
  · exact fun t t' k hk hk' => h.skipped_injective t t' k (hca t k hk) (hca t' k hk')
  · exact (by rintro _ _ _ ⟨⟩)

lemma ledger_restored {d : DoubleRatchetState S} (hs : Ledger K (s.schedule []))
    (hd : Ledger K (d.schedule [])) (h : Restored env s (serializeState d) s')
    (hca : s'.skippedMessageKeys = ∅) : Ledger K (s'.schedule []) := by
  have hem : ∀ t k, s'.skippedMessageKeys.lookup t ≠ some k := by simp_all
  cases h with
  | refused => exact hs
  | unanchored | receiver =>
    exact ledger_congr hd rfl rfl rfl fun t k hk => absurd hk (hem t k)
  | @ratcheted cache r hb =>
    have hl : Ledger K (DoubleRatchetState.schedule
        { (serializeState d).load with dhRemote := some r } []) :=
      ledger_congr hd rfl rfl rfl fun t k hk => (d.lookup_load_save t).symm.trans hk
    have hro := hl.shift (performDhRatchet_shift env none _ [])
    exact ledger_congr hro rfl rfl rfl fun t k hk => absurd hk (hem t k)

lemma Reachable.ledger (h : Reachable config s) : Ledger K (s.schedule []) := by
  induction h with
  | created h => exact ledger_created h
  | call h c ih => exact ledger_call ih c
  | @reserveNonces s h env co ih =>
    obtain ⟨a, heq⟩ := reserveNonces_eq env s co
    rw [heq]
    refine ledger_congr ih rfl ?_ rfl fun t k hk => hk
    rw [Option.map_map]
    rfl
  | @jumpToReservation s h env ih =>
    obtain ⟨a, heq⟩ := jumpToReservation_eq env s
    rw [heq]
    refine ledger_congr ih rfl ?_ rfl fun t k hk => hk
    rw [Option.map_map]
    rfl
  | @deserializeState s d hs hd env ihs ihd =>
    exact ledger_restored ihs ihd (restored_deserializeState env s _)
      (deserializeState_reloaded hd.recorded env s).2.cache
  | @loadSession d hd env ih =>
    obtain ⟨a, heq⟩ := jumpToReservation_eq env (serializeState d).load
    rw [SecureStorage.loadSession, heq]
    refine ledger_congr ih rfl ?_ rfl fun t k hk => (d.lookup_load_save t).symm.trans hk
    rw [Option.map_map]
    rfl

lemma skipMessageKeys_zero (hm : s.maxSkip = 0) (h : skipMessageKeys s untilN = (.ok (), s')) :
    s' = s := by
  rcases skipMessageKeys_ok h with ⟨hs, -⟩ | ⟨c, r, -, -, hlt, hro, -, -⟩
  · exact hs
  · omega

lemma accepted_of_no_room {d : Decrypted S} (hm : s.maxSkip = 0) (hca : s.skippedMessageKeys = ∅)
    (h : decryptMessage config env s message ad = (.ok d, s')) :
    (∃ c, s.receivingChain = some c ∧ d.messageKey = messageKeyAt c.key 0) ∨ ∃ x n,
    d.messageKey = messageKeyAt (chainAt (kdfRk S s.rootKey x).2 n) 0 := by
  obtain ⟨m, -, hpa⟩ := decryptMessage_ok h
  rcases decryptParsed_ok hpa with ⟨mk, hmk, -⟩ | ⟨s₁, c, s₂, hal, hc, -, -, ho, -⟩
  · simp_all
  obtain ⟨-, hk, -, -⟩ := openMessage_ok ho
  rcases alignReceiving_frame hal with ⟨-, hn⟩ | htu
  · rw [alignReceiving, hn, if_neg Bool.false_ne_true] at hal
    obtain rfl := skipMessageKeys_zero hm hal
    exact .inl ⟨c, hc, hk⟩
  · obtain ⟨b, n, -, hre⟩ := htu.receiving
    cases hc.symm.trans hre
    exact .inr ⟨_, n, hk⟩

def headerOn (config : Config) (chain : Option (ChainKey S)) (message : Bytes) :
    Option RatchetMessage :=
  if config.enableHeaderEncryption && message.length ≥ encryptedHeaderSize + 29 then
    openHeader chain message
  else (RatchetMessage.fromBytes message).toOption

/-- A late message, whose key was set aside, or a message of the current receiving chain. -/
inductive Awaited (config : Config) (s : DoubleRatchetState S) (message : Bytes)
    (m : RatchetMessage) : Prop where
  | late (hparse : parseMessage config s message = .ok m)
      (hkey : (s.skippedMessageKeys.lookup m.header.tag).isSome)
  | next (hheader : headerOn config s.receivingChain message = some m)
      (hremote : s.dhRemote = some m.header.dhPublic)

lemma parseMessage_of_headerOn (h : headerOn config s.receivingChain message = some m) :
    parseMessage config s message = .ok m := by
  unfold headerOn at h
  unfold parseMessage
  split at h
  · simp_all
  rename_i hpl
  rw [if_neg hpl]
  cases hm : RatchetMessage.fromBytes message with
  | error e => simp [hm, Except.toOption] at h
  | ok m' =>
    simp only [hm, Except.toOption, Option.some.injEq] at h
    rw [h]

lemma Awaited.parse (h : Awaited config s message m) : parseMessage config s message = .ok m := by
  cases h with
  | late hp _ => exact hp
  | next hh _ => exact parseMessage_of_headerOn hh

lemma skipMessageKeys_reaches {c' : ChainKey S} (h : skipMessageKeys s untilN = (.ok (), s'))
    (hc' : s'.receivingChain = some c') : untilN ≤ c'.index := by
  rcases skipMessageKeys_ok h with ⟨rfl, hle⟩ | ⟨c, r, hc, -, hlt, -, rfl, -⟩
  · exact hle c' hc'
  · cases hc'
    simp only [ChainKey.advance]
    omega

lemma Awaited.key {config : Config} {env : Env S} {s s' : DoubleRatchetState S}
    {message ad : Bytes} {m : RatchetMessage} {d : Decrypted S} (h : Awaited config s message m)
    (hd : decryptMessage config env s message ad = (.ok d, s')) :
    s.skippedMessageKeys.lookup m.header.tag = some d.messageKey ∨
      (s.skippedMessageKeys.lookup m.header.tag = none ∧
        ∃ c n, s.receivingChain = some c ∧ m.header.messageNumber = c.index + n ∧
          d.messageKey = messageKeyAt (chainAt c.key n) 0) := by
  obtain ⟨m', hp, hpa⟩ := decryptMessage_ok hd
  rw [h.parse] at hp
  cases hp
  cases hmk : s.skippedMessageKeys.lookup m.header.tag with
  | some mk =>
    simp only [decryptParsed, hmk] at hpa
    split at hpa
    · cases hpa
    · obtain ⟨-, hk, -, -⟩ := openMessage_ok hpa
      exact .inl (by rw [hk])
  | none =>
    refine .inr ⟨rfl, ?_⟩
    cases h with
    | late hp hk => simp_all
    | next hh hr =>
      rcases decryptParsed_ok hpa with ⟨mk, hm', -⟩ | ⟨s₁, c, s₂, hal, hc, hle, -, ho, -⟩
      · grind
      obtain ⟨-, hk, -, -⟩ := openMessage_ok ho
      rw [alignReceiving, needsRatchet_self hr, if_neg Bool.false_ne_true] at hal
      have hre := skipMessageKeys_reaches hal hc
      obtain ⟨n, ca, rfl⟩ := skipMessageKeys_frame hal
      obtain ⟨c₀, hc₀, rfl⟩ := Option.map_eq_some_iff.mp hc
      refine ⟨c₀, n, hc₀, ?_, hk⟩
      simp only [ChainKey.advance] at hle hre
      omega

lemma openMessage_fst (env : Env S) (key : S.Key) (m : RatchetMessage) (ad : Bytes)
    (s t : DoubleRatchetState S) :
    (openMessage env key m ad s).1 = (openMessage env key m ad t).1 := by
  simp only [openMessage, decryptWithKey]
  split
  · rfl
  · split <;> rfl

lemma decryptParsed_sum {d : Decrypted S} {t : DoubleRatchetState S}
    (hmk : s.skippedMessageKeys.lookup m.header.tag = none)
    (h : decryptParsed env s m ad = (.ok d, t)) : SumFits s := by
  rcases decryptParsed_ok h with ⟨mk, hm, -⟩ | ⟨s₁, c, s₂, hal, hc, -⟩
  · cases hmk.symm.trans hm
  · exact alignReceiving_sum hal hc

lemma decryptParsed_next {c : ChainKey S}
    (hmk : s.skippedMessageKeys.lookup m.header.tag = none)
    (hr : s.dhRemote = some m.header.dhPublic) (hc : s.receivingChain = some c)
    (hn : m.header.messageNumber = c.index) (hsu : c.index + s.maxSkip < 2 ^ 64) :
    (decryptParsed env s m ad).1 = match m.header.validate (env.clock.read .validate) with
      | .error e => .error e
      | .ok _ => if c.index < c.maxMessages then (openMessage env (messageKeyAt c.key 0) m ad s).1
        else .error .invalidState := by
  have hal : alignReceiving env s m.header = (.ok (), s) := by
    rw [alignReceiving, needsRatchet_self hr, if_neg Bool.false_ne_true, hn]
    simp only [skipMessageKeys, hc, Nat.sub_self, skipLoop]
    rw [if_neg (Nat.not_le.mpr hsu), if_neg (by omega)]
  cases hv : m.header.validate (env.clock.read .validate) with
  | error e => simp only [decryptParsed, hv]
  | ok u =>
    by_cases hlt : c.index < c.maxMessages
    · simp only [decryptParsed, hv, decryptTrial, DoubleRatchetState.clone_eq, hmk, hal, hc, hn,
        Nat.lt_irrefl, ChainKey.nextMessageKey_of_lt hlt, if_pos hlt]
      rw [openMessage_fst env _ m ad s { s with receivingChain := some (c.advance 1) }]
      generalize openMessage env (messageKeyAt c.key 0) m ad { s with receivingChain := some _ } = o
      obtain ⟨r, t⟩ := o
      cases r <;> rfl
    · simp only [decryptParsed, hv, decryptTrial, DoubleRatchetState.clone_eq, hmk, hal, hc, hn,
        Nat.lt_irrefl, if_false, ChainKey.nextMessageKey, if_pos (Nat.le_of_not_lt hlt), if_neg hlt]

lemma Reloaded.level_lt (h : Reloaded s s') (x : S.Shared) (n : Nat) :
    K.level s.rootKey < K.level (chainAt (kdfRk S s'.rootKey x).2 n) := by
  rw [K.level_chainAt, K.level_kdfRk_chain]
  rcases h.rootKey with hr | ⟨y, hr⟩
  · rw [hr]
    omega
  · rw [hr, K.level_kdfRk_root]
    omega

lemma Reloaded.next_of_key {env' : Env S} {t t' : DoubleRatchetState S} {ad' : Bytes}
    {d d' : Decrypted S} (h : Reloaded s s') (hl : Ledger K (s.schedule []))
    (haw : Awaited config s message m) (hd : decryptMessage config env s message ad = (.ok d, t))
    (hd' : decryptMessage config env' s' message ad' = (.ok d', t'))
    (hke : d'.messageKey = d.messageKey) :
    s.skippedMessageKeys.lookup m.header.tag = none ∧
      s.receivingChain.map ChainKey.index = some m.header.messageNumber := by
  have hre : ∀ c, s.receivingChain = some c → (s.schedule []).receiving = some c.key := by
    intro c hc
    simp only [DoubleRatchetState.schedule, hc, Option.map_some]
  rcases accepted_of_no_room h.maxSkip h.cache hd' with ⟨c, hc, hk⟩ | ⟨x, n, hk⟩
  · rw [h.receiving] at hc
    rcases haw.key hd with hla | ⟨hno, c', n, hc', hn, hk'⟩
    · exact absurd (hke.symm.trans hk) ((hl.skipped_issued _ _ hla).ne_receiving (hre c hc))
    cases hc.symm.trans hc'
    have hpo := congrArg K.pos (K.messageKeyAt_injective (hk'.symm.trans (hke.symm.trans hk)))
    rw [K.pos_chainAt] at hpo
    refine ⟨hno, ?_⟩
    rw [hc, Option.map_some, hn]
    congr 1
    omega
  · -- the key of a chain opened after the restore is above all keys of the session
    have hab := h.level_lt (K := K) x n
    rcases haw.key hd with hla | ⟨-, c', i, hc', -, hk'⟩
    · obtain ⟨c, hc, hle, -⟩ := hl.skipped_issued _ _ hla
      have heq := K.messageKeyAt_injective (hc.symm.trans (hke.symm.trans hk))
      rw [heq] at hle
      exact absurd hle (Nat.not_le.mpr hab)
    · have hle := hl.receiving_le _ (hre c' hc')
      have heq := K.messageKeyAt_injective (hk'.symm.trans (hke.symm.trans hk))
      rw [← heq, K.level_chainAt] at hab
      exact absurd hle (Nat.not_le.mpr hab)

/-- A reachable session that is saved and restored: a message it was waiting for and would have
accepted is accepted after the restore exactly if it is the next one of the receiving chain and
no key was set aside for it. -/
theorem restored_receives_iff (K : S.SymbolicKdf) (hC : S.CommittingAead) (config : Config)
    (s s₀ : DoubleRatchetState S) (hs : Reachable config s) (env₀ : Env S) :
    (deserializeState env₀ s₀ (serializeState s)).1 = .ok () ∧
    ∀ (env : Env S) (message ad plaintext : Bytes) (m : RatchetMessage),
      Awaited config s message m → (decrypt config env s message ad).1 = .ok plaintext →
      ((decrypt config env (deserializeState env₀ s₀ (serializeState s)).2 message ad).1 =
          .ok plaintext ↔
        s.skippedMessageKeys.lookup m.header.tag = none ∧
          s.receivingChain.map ChainKey.index = some m.header.messageNumber) := by
  obtain ⟨hok, hre⟩ := deserializeState_reloaded hs.recorded env₀ s₀
  refine ⟨hok, ?_⟩
  generalize (deserializeState env₀ s₀ (serializeState s)).2 = s' at hre
  intro env message ad plaintext m haw hbefore
  generalize ho : decrypt config env s message ad = o at hbefore
  obtain ⟨r, t⟩ := o
  cases hbefore
  obtain ⟨d, hd, rfl⟩ := map_ok ho
  constructor
  · intro hafter
    generalize ho' : decrypt config env s' message ad = o' at hafter
    obtain ⟨r', t'⟩ := o'
    cases hafter
    obtain ⟨d', hd', -⟩ := map_ok ho'
    obtain ⟨hauth, hparse⟩ := decryptMessage_authentic hd
    obtain ⟨hauth', hparse'⟩ := decryptMessage_authentic hd'
    exact hre.next_of_key (K := K) hs.ledger haw hd hd' (hauth'.key_eq hC hauth
      (parseMessage_ciphertext hparse') (parseMessage_ciphertext hparse))
  · rintro ⟨hnone, hindex⟩
    obtain ⟨c, hc, hn⟩ := Option.map_eq_some_iff.mp hindex
    cases haw with
    | late hparse hkey =>
      rw [hnone] at hkey
      cases hkey
    | next hheader hremote =>
      have hlen : 48 + 29 ≤ message.length := by
        by_contra hlt
        rw [decryptMessage, if_pos (by omega)] at hd
        cases hd
      have hparse := parseMessage_of_headerOn hheader
      rw [decryptMessage_of_parse hlen hparse] at hd
      have hsum := (decryptParsed_sum hnone hd).of_chain hc
      rw [← hre.receiving] at hheader hc
      have hparse' := parseMessage_of_headerOn hheader
      have hempty : s'.skippedMessageKeys.lookup
          m.header.tag = none := by
        rw [hre.cache, AList.lookup_empty]
      have hnow : (decryptParsed env s' m ad).1 = _ :=
        decryptParsed_next hempty (hre.remote _ hremote) hc hn.symm (by rw [hre.maxSkip]; omega)
      rw [hre.receiving] at hc
      have hthen : (decryptParsed env s m ad).1 = _ :=
        decryptParsed_next hnone hremote hc hn.symm hsum
      rw [openMessage_fst env _ m ad s' s, ← hthen, hd] at hnow
      simp only [decrypt, Outcome.map, decryptMessage_of_parse hlen hparse', hnow, Except.map]

end

open Symbolic

theorem restored_session_receives_next :
    let config := config false
    let first := encrypt config (env 1001 3) (session false .initiator) [10] []
    let second := encrypt config (env 1002 4) first.2 [11] []
    let s := (decrypt config (env 1003 5) (session false .responder)
      (sentBytes first) []).2
    let s' := (deserializeState (env 1004 6) s (serializeState s)).2
    (decrypt config (env 1005 7) s' (sentBytes second) []).1 = .ok [11] := by
  intro config first second s s'
  have hs : Reachable config s :=
    (Reachable.created (created_session false .responder)).call
      (.decrypt (env 1003 5) (sentBytes first) [])
  have hheader : (headerOn config s.receivingChain (sentBytes second)).isSome := by
    decide +kernel
  obtain ⟨m, hm⟩ := Option.isSome_iff_exists.mp hheader
  have hfacts : ((headerOn config s.receivingChain (sentBytes second)).map fun m =>
      (s.dhRemote = some m.header.dhPublic ∧
        s.skippedMessageKeys.lookup m.header.tag = none ∧
        s.receivingChain.map ChainKey.index = some m.header.messageNumber : Bool)) = some true := by
    decide +kernel
  rw [hm, Option.map_some, Option.some.injEq, decide_eq_true_eq] at hfacts
  exact ((restored_receives_iff kdf committingAead config s s hs _).2 _ _ _ _ m
    (.next hm hfacts.1) (by decide +kernel)).mpr hfacts.2

/-- The key set aside for an overtaken message is gone after a restore, and so is the room to set
one aside for the next message when another one was lost before it. -/
theorem restored_session_refuses_late_message :
    let config := config false
    let first := encrypt config (env 1001 3) (session false .initiator) [10] []
    let second := encrypt config (env 1002 4) first.2 [11] []
    let third := encrypt config (env 1003 5) second.2 [12] []
    let fourth := encrypt config (env 1004 6) third.2 [13] []
    let s := (decrypt config (env 1005 7) (session false .responder)
      (sentBytes second) []).2
    let s' := (deserializeState (env 1006 8) s (serializeState s)).2
    (decrypt config (env 1007 9) s (sentBytes first) []).1 = .ok [10] ∧
    (decrypt config (env 1007 9) s' (sentBytes first) []).1 =
      .error .replayAttackDetected ∧
    (decrypt config (env 1007 9) s (sentBytes fourth) []).1 = .ok [13] ∧
    (decrypt config (env 1007 9) s' (sentBytes fourth) []).1 =
      .error .maxSkippedMessagesExceeded := by
  decide +kernel

end Sibna.DoubleRatchetSession
