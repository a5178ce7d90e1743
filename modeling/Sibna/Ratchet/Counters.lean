import Sibna.Lib.Runs
import Sibna.Ratchet.FailedEncryption
import Sibna.Ratchet.Ledger

/-!
# The counters of a session, and its sending chain

A message opened with a cached key returns before it is counted. `jump_to_reservation` moves the
index of the sending chain and leaves the key.
-/

namespace Sibna

open DoubleRatchetSession Symbolic

variable {S : Suite}

def DoubleRatchetState.messageStats (s : DoubleRatchetState S) : Nat × Nat :=
  (s.messagesSent, s.messagesReceived)

/-- A session with the number of its calls that returned `Ok`, and whether `last_activity` was the
time of the call after each successful decryption. -/
structure Tally (S : Suite) where
  session : DoubleRatchetState S
  encrypted : Nat
  decrypted : Nat
  refreshed : Bool

namespace Tally

def initial (s : DoubleRatchetState S) : Tally S := ⟨s, 0, 0, true⟩

inductive Call (S : Suite) where
  | encrypt (env : Env S) (plaintext associatedData : Bytes)
  | decrypt (env : Env S) (message associatedData : Bytes)
  | reserveNonces (env : Env S) (count : Nat)
  | jumpToReservation (env : Env S)
  | deserializeState (env : Env S) (data : SavedState S)

section
variable (config : Config) (t : Tally S)

def step : Call S → Tally S
  | .encrypt env plaintext ad =>
    match DoubleRatchetSession.encrypt config env t.session plaintext ad with
    | (.ok _, s) => { t with session := s, encrypted := t.encrypted + 1 }
    | (.error _, s) => { t with session := s }
  | .decrypt env message ad =>
    match DoubleRatchetSession.decrypt config env t.session message ad with
    | (.ok _, s) =>
      { t with
        session := s
        decrypted := t.decrypted + 1
        refreshed := t.refreshed && decide (some s.lastActivity = env.clock.read .touch) }
    | (.error _, s) => { t with session := s }
  | .reserveNonces env count => { t with session := reserveNonces env t.session count }
  | .jumpToReservation env => { t with session := jumpToReservation env t.session }
  | .deserializeState env data => { t with session := (deserializeState env t.session data).2 }

/-- The counters are the numbers of the calls that returned `Ok`. -/
def Exact : Prop :=
  t.session.messageStats = (t.encrypted, t.decrypted) ∧ t.refreshed = true

/-- Without a nonce for the encrypted header there is nothing to seal: no key to send with, or one
of the checks on payload, associated data, key, clock and random generator fails. -/
def FramesSent (env : Env S) (s : DoubleRatchetState S) (plaintext ad : Bytes) : Prop :=
  config.enableHeaderEncryption = true → mustRotate env s = false → env.headerNonce = none → ∀ a c,
    s.dhLocal = some a → s.sendingChain = some c → c.index < c.reservedUntil →
    c.index < c.maxMessages →
    ¬ Sealable env ⟨S.publicKey a, c, messageKeyAt c.key 0, c.index, false⟩ plaintext ad

/-- The header read from the message names no key of the cache, and the clock can be read. -/
def Uncached (env : Env S) (s : DoubleRatchetState S) (message : Bytes) : Prop :=
  (∀ m ∈ (parseMessage config s message).toOption,
    s.skippedMessageKeys.lookup m.header.tag = none) ∧
  (env.clock.read .touch).isSome = true
  deriving Decidable

/-- A state that can be read back carries the numbers of the run. -/
def Counted : Call S → Prop
  | .encrypt env plaintext ad => FramesSent config env t.session plaintext ad
  | .decrypt env message _ => Uncached config env t.session message
  | .deserializeState _ data => (∀ bytes ∈ data.dhRemoteBytes, bytes.length = 32) →
      (data.messagesSent, data.messagesReceived) = (t.encrypted, t.decrypted)
  | _ => True

def Returned : Call S → Prop
  | .decrypt env message ad =>
    (DoubleRatchetSession.decrypt config env t.session message ad).1.isOk = true
  | _ => True

lemma rotateIfNeeded_stats (env : Env S) (s : DoubleRatchetState S) :
    (rotateIfNeeded env s).messageStats = s.messageStats := by
  obtain ⟨_, _, _, _, h⟩ := rotateIfNeeded_frame env s
  rw [h]
  rfl

lemma takeSendKey_stats {env : Env S} {s s₁ : DoubleRatchetState S} {slot : SendKey S}
    (h : takeSendKey env s = (.ok slot, s₁)) : s₁.messageStats = s.messageStats := by
  obtain ⟨a, c, -, -, -, -, -, rfl⟩ := takeSendKey_ok h
  exact rotateIfNeeded_stats env s

lemma messageStats_encryptMessage (env : Env S) (s : DoubleRatchetState S) (p ad : Bytes) :
    (encryptMessage config env s p ad).2.messageStats =
      (s.messagesSent + (encryptMessage { config with enableHeaderEncryption := false } env s
        p ad).1.isOk.toNat, s.messagesReceived) := by
  simp only [encryptMessage]
  cases validateMessageForEncrypt p with
  | error e => rfl
  | ok _ =>
    cases validateAssociatedData ad with
    | error e => rfl
    | ok _ =>
      cases hta : takeSendKey env s with
      | mk r s₁ =>
        cases r with
        | error e =>
          rw [takeSendKey_error hta]
          exact rotateIfNeeded_stats env s
        | ok slot =>
          have hs₁ := takeSendKey_stats hta
          simp only
          cases buildMessage env slot s₁.previousCounter p ad with
          | error e => exact hs₁
          | ok m =>
            -- the message is recorded before it is framed
            have hre := congrArg (fun st : Nat × Nat => (st.1 + 1, st.2)) hs₁
            simp only
            cases frameMessage config env slot m <;> exact hre

end

section
variable {env : Env S} {s s' : DoubleRatchetState S}

lemma isOk_plain {config : Config} {p ad : Bytes} {sent : Encrypted S}
    (h : encryptMessage config env s p ad = (.ok sent, s')) :
    (encryptMessage { config with enableHeaderEncryption := false } env s p ad).1.isOk = true := by
  obtain ⟨s₁, hta, hb, -, rfl⟩ := encryptMessage_ok h
  have hco := messageStats_encryptMessage config env s p ad
  have hs₁ : s₁.messagesSent = s.messagesSent := congrArg Prod.fst (takeSendKey_stats hta)
  rw [h] at hco
  have hse := congrArg Prod.fst hco
  simp only [recordSent, DoubleRatchetState.touch, hs₁] at hse
  exact Bool.toNat_eq_one.mp (Nat.add_left_cancel hse).symm

lemma framesSent_iff {config : Config} {p ad : Bytes} : FramesSent config env s p ad ↔
    ((encryptMessage { config with enableHeaderEncryption := false } env s p ad).1.isOk = true →
      (encryptMessage config env s p ad).1.isOk = true) := by
  constructor
  · intro hf hok
    cases ho : encryptMessage { config with enableHeaderEncryption := false } env s p ad with
    | mk r s' =>
    cases r with
    | error e =>
      rw [ho] at hok
      cases hok
    | ok sent =>
    obtain ⟨s₁, hta, hb, -⟩ := encryptMessage_ok ho
    obtain ⟨a, c, ha, hc, hre, hma, hsl, -⟩ := takeSendKey_ok hta
    have hse := Sealable.of_buildMessage hb
    rw [hsl] at hse
    have hno : config.enableHeaderEncryption = true → mustRotate env s = false →
        env.headerNonce.isSome := by
      intro hon hro
      rw [rotateIfNeeded_of_not hro] at ha hc
      rw [hro] at hse
      exact Option.isSome_iff_ne_none.mpr fun hn => hf hon hro hn a c ha hc hre hma hse
    obtain ⟨sent', s'', hon⟩ := encryptMessage_of_completes ha hc hre hma hse hno
    rw [hon]
    rfl
  · intro him hon hro hn a c ha hc hre hma hse
    have hs := rotateIfNeeded_of_not hro
    rw [← hro] at hse
    have hof : ∃ sent s',
      encryptMessage { config with enableHeaderEncryption := false } env s p ad = (.ok sent, s') :=
      encryptMessage_of_completes (hs.symm ▸ ha) (hs.symm ▸ hc) hre hma hse Bool.noConfusion
    obtain ⟨sent, s', ho⟩ := hof
    rw [ho] at him
    cases ho' : encryptMessage config env s p ad with
    | mk r s' =>
    rw [ho'] at him
    cases r with
    | error e => cases him rfl
    | ok sent =>
    obtain ⟨s₁, hta, -, hfr, -⟩ := encryptMessage_ok ho'
    obtain ⟨a', c', -, -, -, -, hsl, -⟩ := takeSendKey_ok hta
    have hsn := frameMessage_nonce hfr hon (hsl ▸ hro)
    rw [hn] at hsn
    cases hsn

lemma alignReceiving_stats {he : RatchetHeader}
    (h : alignReceiving env s he = (.ok (), s')) : s'.messageStats = s.messageStats := by
  rcases alignReceiving_ok h with ⟨-, hsk⟩ | ⟨-, n, s₁, s₂, hsk, hra, hs'⟩
  · obtain ⟨n, ca, rfl⟩ := skipMessageKeys_frame hsk
    rfl
  obtain ⟨n, ca, rfl⟩ := skipMessageKeys_frame hsk
  obtain ⟨a, -, rfl⟩ := dhRatchet_ok hra
  obtain ⟨n', c', rfl⟩ := skipMessageKeys_frame hs'
  rfl

lemma decryptMessage_stats {config : Config} {me ad : Bytes} {d : Decrypted S}
    (h : decryptMessage config env s me ad = (.ok d, s')) :
    let cached := s.skippedMessageKeys.lookup
      d.message.header.tag
    (cached.isSome = true ∧ s'.messageStats = s.messageStats) ∨
      (cached = none ∧ s'.messageStats = (s.messagesSent, s.messagesReceived + 1) ∧
        ∀ now, env.clock.read .touch = some now → s'.lastActivity = now) := by
  intro cached
  obtain ⟨m, -, hpa⟩ := decryptMessage_ok h
  cases hca : s.skippedMessageKeys.lookup m.header.tag with
  | some key =>
    simp only [decryptParsed, hca] at hpa
    split at hpa
    · cases hpa
    · obtain ⟨rfl, -, -, rfl⟩ := openMessage_ok hpa
      exact .inl ⟨by simp only [cached, hca, Option.isSome_some], rfl⟩
  | none =>
    rcases decryptParsed_ok hpa with ⟨key, hk, -⟩ | ⟨s₁, c, s₂, hal, -, -, -, ho, rfl⟩
    · cases hca.symm.trans hk
    obtain ⟨rfl, -, -, rfl⟩ := openMessage_ok ho
    refine .inr ⟨hca, ?_, ?_⟩
    · exact congrArg (fun stats : Nat × Nat => (stats.1, stats.2 + 1)) (alignReceiving_stats hal)
    · intro now hn
      simp only [recordReceived, DoubleRatchetState.touch, hn, Option.getD_some]

lemma deserializeState_stats (env : Env S) (s : DoubleRatchetState S) {data : SavedState S}
    (h : ∀ bytes ∈ data.dhRemoteBytes, bytes.length = 32) :
    (deserializeState env s data).2.messageStats = (data.messagesSent, data.messagesReceived) := by
  have hre : ∃ l, data.load.restoreDhKeys = .ok l ∧
      l.messageStats = (data.messagesSent, data.messagesReceived) := by
    have hb : data.load.dhRemoteBytes = data.dhRemoteBytes := rfl
    unfold DoubleRatchetState.restoreDhKeys
    rw [hb]
    cases hd : data.dhRemoteBytes with
    | none => exact ⟨_, rfl, rfl⟩
    | some bt => exact ⟨_, dif_pos (h bt hd), rfl⟩
  obtain ⟨l, hl, hst⟩ := hre
  simp only [deserializeState, hl]
  split
  · obtain ⟨_, _, _, _, hpr⟩ := performDhRatchet_frame env l
    rw [hpr]
    exact hst
  · exact hst

lemma deserializeState_unread (env : Env S) (s : DoubleRatchetState S) {data : SavedState S}
    (h : ¬ ∀ bytes ∈ data.dhRemoteBytes, bytes.length = 32) :
    (deserializeState env s data).2 = s := by
  have hb : data.load.dhRemoteBytes = data.dhRemoteBytes := rfl
  unfold deserializeState DoubleRatchetState.restoreDhKeys
  rw [hb]
  cases hd : data.dhRemoteBytes with
  | none => simp [hd] at h
  | some bt =>
    have hl : bt.length ≠ 32 := by simpa [hd] using h
    simp only [hl, dite_false]

lemma reserveNonces_stats (env : Env S) (s : DoubleRatchetState S) (co : Nat) :
    (reserveNonces env s co).messageStats = s.messageStats := by
  unfold reserveNonces
  split <;> rfl

lemma jumpToReservation_stats (env : Env S) (s : DoubleRatchetState S) :
    (jumpToReservation env s).messageStats = s.messageStats := by
  obtain ⟨a, h⟩ := jumpToReservation_eq env s
  rw [h]
  rfl

section
variable {config : Config} {t : Tally S}

lemma exact_encrypt (h : t.Exact) (env : Env S) (p ad : Bytes) :
    FramesSent config env t.session p ad ↔ (t.step config (.encrypt env p ad)).Exact := by
  obtain ⟨hst, hre⟩ := h
  obtain ⟨hse, hrc⟩ := Prod.mk.inj hst
  have hco := messageStats_encryptMessage config env t.session p ad
  rw [framesSent_iff]
  cases ho : encryptMessage config env t.session p ad with
  | mk r s =>
    rw [ho] at hco
    cases r with
    | ok sent =>
      have hs : t.step config (.encrypt env p ad) =
          { t with session := s, encrypted := t.encrypted + 1 } := by
        simp only [step, DoubleRatchetSession.encrypt, ho]
        rfl
      rw [isOk_plain ho, hse, hrc] at hco
      rw [hs]
      exact iff_of_true (fun _ => rfl) ⟨hco, hre⟩
    | error e =>
      have hs : t.step config (.encrypt env p ad) = { t with session := s } := by
        simp only [step, DoubleRatchetSession.encrypt, ho]
        rfl
      rw [hse, hrc] at hco
      rw [hs]
      -- the session has counted the message if it was built
      cases hb : (encryptMessage { config with enableHeaderEncryption := false } env t.session
          p ad).1.isOk with
      | true =>
        rw [hb] at hco
        refine iff_of_false (fun him => by cases him rfl) fun hea => ?_
        have hsa := congrArg Prod.fst (hco.symm.trans hea.1)
        simp at hsa
      | false =>
        rw [hb] at hco
        exact iff_of_true (by simp) ⟨hco, hre⟩

lemma exact_decrypt (h : t.Exact) (env : Env S) (me ad : Bytes) :
    (t.Returned config (.decrypt env me ad) → Uncached config env t.session me) ↔
    (t.step config (.decrypt env me ad)).Exact := by
  obtain ⟨hst, hre⟩ := h
  obtain ⟨hse, hrc⟩ := Prod.mk.inj hst
  simp only [Returned, DoubleRatchetSession.decrypt]
  cases ho : decryptMessage config env t.session me ad with
  | mk r s =>
    cases r with
    | error e =>
      have hs : t.step config (.decrypt env me ad) = t := by
        simp only [step, DoubleRatchetSession.decrypt, ho]
        rw [decryptMessage_error ho]
        rfl
      rw [hs]
      exact iff_of_true (fun hok => Bool.noConfusion hok) ⟨hst, hre⟩
    | ok d =>
      have hs : t.step config (.decrypt env me ad) =
          { t with
            session := s
            decrypted := t.decrypted + 1
            refreshed := t.refreshed && decide (some s.lastActivity = env.clock.read .touch) } := by
        simp only [step, DoubleRatchetSession.decrypt, ho]
        rfl
      have hun : Uncached config env t.session me ↔ t.session.skippedMessageKeys.lookup
          d.message.header.tag = none ∧
          (env.clock.read .touch).isSome = true := by
        simp [Uncached, (decryptMessage_authentic ho).2, Except.toOption]
      refine (forall_prop_of_true rfl).trans (hun.trans ?_)
      rw [hs]
      rcases decryptMessage_stats ho with ⟨hca, hco⟩ | ⟨hn, hco, hto⟩
      · refine iff_of_false (fun hop => ?_) fun hea => ?_
        · rw [hop.1] at hca
          cases hca
        · have hsa := congrArg Prod.snd ((hco.trans hst).symm.trans hea.1)
          simp at hsa
      · rw [hse, hrc] at hco
        have hra : some s.lastActivity = env.clock.read .touch ↔
            (env.clock.read .touch).isSome = true := by
          cases hno : env.clock.read .touch with
          | none => simp
          | some now => simp [hto now hno]
        simp only [Exact, hco, hre, hn, Bool.true_and, decide_eq_true_iff, hra, true_and]

lemma exact_step (h : t.Exact) (c : Call S) :
    (t.Returned config c → Counted config t c) ↔ (t.step config c).Exact := by
  cases c with
  | encrypt env p ad => exact (forall_prop_of_true trivial).trans (exact_encrypt h env p ad)
  | decrypt env me ad => exact exact_decrypt h env me ad
  | reserveNonces env co =>
    exact iff_of_true (fun _ => trivial) ⟨(reserveNonces_stats env t.session co).trans h.1, h.2⟩
  | jumpToReservation env =>
    exact iff_of_true (fun _ => trivial) ⟨(jumpToReservation_stats env t.session).trans h.1, h.2⟩
  | deserializeState env data =>
    refine (forall_prop_of_true trivial).trans ?_
    simp only [Counted, step, Exact]
    by_cases hl : ∀ bytes ∈ data.dhRemoteBytes, bytes.length = 32
    · rw [deserializeState_stats env t.session hl]
      exact ⟨fun heq => ⟨heq hl, h.2⟩, fun hea _ => hea.1⟩
    · rw [deserializeState_unread env t.session hl]
      exact iff_of_true (fun hl' => absurd hl' hl) h

end

lemma exact_initial (hs : Created s) : (initial s).Exact := by
  refine ⟨?_, rfl⟩
  rcases hs with ⟨config, l, now, rfl⟩ | ⟨se, l, r, config, role, cl, h⟩
  · rfl
  · obtain ⟨-, now, -, rfl⟩ := fromSharedSecret_ok h
    rfl

end

/-- All along a run `message_stats` is the number of calls that returned `Ok`, and every successful
decryption has set `last_activity`, if no message names a cached key or comes without a clock, none
is lost after it was counted, and no state is read back with other numbers. Of the calls that
returned, all others break it. -/
theorem stats_exact_of_counted (config : Config) (s : DoubleRatchetState S) (hs : Created s)
    (calls : List (Call S)) :
    (Runs.Guarded (step config) (Counted config) (initial s) calls →
      ∀ n, (Runs.exec (step config) (initial s) (calls.take n)).Exact) ∧
    ((∀ n, (Runs.exec (step config) (initial s) (calls.take n)).Exact) →
      Runs.Guarded (step config) (fun t c => t.Returned config c → Counted config t c) (initial s)
        calls) := by
  have hiff := Runs.reached_iff_guarded (I := Exact)
    (fun t c h => show (t.Returned config c → _) ↔ _ from exact_step h c) (exact_initial hs) calls
  exact ⟨fun hcalls => hiff.mpr (hcalls.mono fun _ _ hc _ => hc), hiff.mp⟩

theorem stats_exact_in_order :
    let config := config false
    let s := Symbolic.session false .responder
    let first := DoubleRatchetSession.encrypt config (env 1000 3)
      (Symbolic.session false .initiator) [10] []
    let second := DoubleRatchetSession.encrypt config (env 1001 4) first.2 [11] []
    let calls : List (Call suite) :=
      [.decrypt (env 1002 5) (sentBytes first) [],
        .decrypt (env 1003 6) (sentBytes second) [],
        .encrypt (env 1004 7) [20] []]
    (Runs.exec (step config) (initial s) calls).session.messageStats = (1, 2) ∧
      ∀ n, (Runs.exec (step config) (initial s) (calls.take n)).Exact := by
  intro config s first second calls
  refine ⟨by decide +kernel, (stats_exact_of_counted config s
    (created_session false .responder) calls).1 ?_⟩
  exact ⟨show Uncached _ _ _ _ by decide +kernel, show Uncached _ _ _ _ by decide +kernel,
    fun hon => Bool.noConfusion hon, trivial⟩

/-- Two messages of which the second arrives first: both are opened, one is counted, and the time is
that of the first call. -/
theorem stats_late_message :
    let config := config false
    let s := Symbolic.session false .responder
    let first := DoubleRatchetSession.encrypt config (env 1000 3)
      (Symbolic.session false .initiator) [10] []
    let second := DoubleRatchetSession.encrypt config (env 1001 4) first.2 [11] []
    let t := Runs.exec (step config) (initial s)
      [.decrypt (env 1002 5) (sentBytes second) [],
        .decrypt (env 1003 6) (sentBytes first) []]
    Created s ∧ t.decrypted = 2 ∧ t.session.messageStats = (0, 1) ∧ t.session.lastActivity = 1002 ∧
      t.refreshed = false := by
  intro config s first second t
  exact ⟨created_session false .responder, by decide +kernel⟩

end Tally

open KeyAlgebra

def afterCall (config : Config) (s : DoubleRatchetState S) : Tally.Call S → DoubleRatchetState S
  | .encrypt env plaintext ad => (encryptMessage config env s plaintext ad).2
  | .decrypt env message ad => (decryptMessage config env s message ad).2
  | .reserveNonces env count => reserveNonces env s count
  | .jumpToReservation env => jumpToReservation env s
  | .deserializeState env data => (deserializeState env s data).2

/-- The chain stands at the step of its index, counted from the key it was created with: that key is
an extraction and no step of another chain. -/
def Stepped (K : S.SymbolicKdf) (chain : Option (ChainKey S)) : Prop :=
  ∀ c ∈ chain, ∃ origin, K.pos origin = 0 ∧ c.key = chainAt origin c.index

/-- The sending chain stands at its index, and so does every message that could be sent now. -/
structure Numbered (K : S.SymbolicKdf) (config : Config) (s : DoubleRatchetState S) : Prop where
  chain : Stepped K s.sendingChain
  messages : ∀ env plaintext ad sent s', encryptMessage config env s plaintext ad = (.ok sent, s') →
    ∃ origin c, K.pos origin = 0 ∧ s'.sendingChain = some c ∧
      c.key = chainAt origin (sent.message.header.messageNumber + 1) ∧
      sent.slot.messageKey = messageKeyAt origin sent.message.header.messageNumber

/-- A jump that does not move, and a state that is read back with its chain in step (with a remote
key the chain is replaced). -/
def InPlace (K : S.SymbolicKdf) (s : DoubleRatchetState S) : Tally.Call S → Prop
  | .jumpToReservation _ => ∀ c ∈ s.sendingChain, c.reservedUntil ≤ c.index
  | .deserializeState _ data => data.dhRemoteBytes = none → Stepped K data.sendingChain
  | _ => True

section
variable {K : S.SymbolicKdf} {config : Config} {env : Env S} {s s' : DoubleRatchetState S}

lemma Stepped.none : Stepped K none := nofun

lemma Stepped.new (now : Option Nat) {k : S.Key} (h : K.pos k = 0) :
    Stepped K (some (ChainKey.new now k)) := by
  rintro c ⟨⟩
  exact ⟨k, h, rfl⟩

lemma Stepped.advance {c : ChainKey S} (h : Stepped K (some c)) (n : Nat) :
    Stepped K (some (c.advance n)) := by
  rintro c' ⟨⟩
  obtain ⟨o, hpo, hk⟩ := h c rfl
  refine ⟨o, hpo, ?_⟩
  simp only [ChainKey.advance, hk, chainAt_add]

lemma pos_kdfRk_chain (k : S.Key) (sh : S.Shared) : K.pos (kdfRk S k sh).2 = 0 := by
  rw [Suite.SymbolicKdf.pos, kdfRk, K.term_ratchet_chain]
  rfl

lemma stepped_created (h : Created s) : Stepped K s.sendingChain := by
  rcases h with ⟨config, l, now, rfl⟩ | ⟨se, _, _, _, role, _, h⟩
  · exact .none
  obtain ⟨-, now, -, rfl⟩ := fromSharedSecret_ok h
  cases role with
  | initiator =>
    refine .new _ ?_
    rw [Suite.SymbolicKdf.pos, K.term_session_chain]
    rfl
  | responder => exact .none

lemma stepped_performDhRatchet (h : Stepped K s.sendingChain) :
    Stepped K (performDhRatchet env s).sendingChain := by
  cases hr : s.dhRemote with
  | none =>
    rwa [performDhRatchet_none hr]
  | some r =>
    rw [performDhRatchet_some hr]
    exact .new _ (pos_kdfRk_chain _ _)

lemma stepped_rotateIfNeeded (env : Env S) (h : Stepped K s.sendingChain) :
    Stepped K (rotateIfNeeded env s).sendingChain := by
  unfold rotateIfNeeded
  split
  · exact stepped_performDhRatchet h
  · exact h

section
variable (h : Stepped K s.sendingChain)
include h

lemma Numbered.of_chain : Numbered K config s := by
  refine ⟨h, fun env p ad sent s' hse => ?_⟩
  obtain ⟨s₁, hta, hb, -, rfl⟩ := encryptMessage_ok hse
  obtain ⟨a, c, -, hc, -, -, hsl, rfl⟩ := takeSendKey_ok hta
  obtain ⟨ts, -, hh, -⟩ := buildMessage_ok hb
  have hro := stepped_rotateIfNeeded env h
  rw [hc] at hro
  obtain ⟨o, hpo, hk⟩ := hro c rfl
  refine ⟨o, c.advance 1, hpo, rfl, ?_⟩
  rw [hh, hsl]
  constructor
  · simp only [ChainKey.advance, hk, ← chainAt_add]
  · simp only [messageKeyAt, hk, chainAt]

lemma stepped_encrypt (p ad : Bytes) :
    Stepped K (encryptMessage config env s p ad).2.sendingChain := by
  have hro := stepped_rotateIfNeeded env h
  cases ho : encryptMessage config env s p ad with
  | mk r s' =>
    rcases encryptMessage_frame ho with rfl | ⟨se, _, _, rfl, rfl | ⟨c, hc, -, rfl⟩⟩
    · exact h
    · exact hro
    · exact (hc ▸ hro).advance 1

lemma stepped_decrypt (me ad : Bytes) :
    Stepped K (decryptMessage config env s me ad).2.sendingChain := by
  cases ho : decryptMessage config env s me ad with
  | mk r s' =>
    cases r with
    | error e =>
      cases decryptMessage_error ho
      exact h
    | ok d =>
      rcases decryptMessage_frame ho with hke | htu
      · rwa [hke.sending]
      · obtain ⟨k, hk⟩ := htu.sending
        rw [hk]
        exact .new _ (pos_kdfRk_chain _ _)

lemma stepped_reserveNonces (co : Nat) : Stepped K (reserveNonces env s co).sendingChain := by
  unfold reserveNonces
  split
  · exact h
  · rename_i c hc
    rintro c' ⟨⟩
    exact h c hc

lemma stepped_jumpToReservation_iff : Stepped K (jumpToReservation env s).sendingChain ↔
    ∀ c ∈ s.sendingChain, c.reservedUntil ≤ c.index := by
  obtain ⟨ac, hj⟩ := jumpToReservation_eq env s
  rw [hj]
  cases hc : s.sendingChain with
  | none => exact iff_of_true .none nofun
  | some c =>
    obtain ⟨o, hpo, hk⟩ := h c hc
    constructor
    · rintro hst c' ⟨⟩
      obtain ⟨o', hp', hk'⟩ := hst _ rfl
      -- the key is a step of both origins, and its position tells the index
      have hin := congrArg K.pos (hk.symm.trans hk')
      rw [K.pos_chainAt, K.pos_chainAt, hpo, hp'] at hin
      simp only at hin
      omega
    · rintro hle c' ⟨⟩
      refine ⟨o, hpo, hk.trans ?_⟩
      simp only [Nat.max_eq_left (hle c rfl)]

lemma stepped_deserializeState_iff (data : SavedState S) :
    Stepped K (deserializeState env s data).2.sendingChain ↔
    (data.dhRemoteBytes = none → Stepped K data.sendingChain) := by
  have hb : data.load.dhRemoteBytes = data.dhRemoteBytes := rfl
  unfold deserializeState DoubleRatchetState.restoreDhKeys
  rw [hb]
  cases hr : data.dhRemoteBytes with
  | none => exact ⟨fun hc _ => hc, fun hc => hc rfl⟩
  | some bt =>
    refine iff_of_true ?_ nofun
    by_cases hl : bt.length = 32
    · simp only [hl, dite_true]
      split
      · rw [performDhRatchet_some rfl]
        exact .new _ (pos_kdfRk_chain _ _)
      · rename_i hpr
        have hn : data.load.sendingChain = none := by simpa [SavedState.load] using hpr
        exact hn.symm ▸ Stepped.none
    · simp_all

lemma stepped_afterCall (call : Tally.Call S) :
    InPlace K s call ↔ Stepped K (afterCall config s call).sendingChain := by
  cases call with
  | encrypt env p ad => exact iff_of_true trivial (stepped_encrypt h p ad)
  | decrypt env me ad => exact iff_of_true trivial (stepped_decrypt h me ad)
  | reserveNonces env co => exact iff_of_true trivial (stepped_reserveNonces h co)
  | jumpToReservation env => exact (stepped_jumpToReservation_iff h).symm
  | deserializeState env data => exact (stepped_deserializeState_iff h data).symm

end

/-- The sending chain and its messages keep to their numbers in every state of a run exactly as long
as no jump moves the index and no state is read back with its chain out of step. -/
theorem sending_chain_iff (K : S.SymbolicKdf) (config : Config) (s : DoubleRatchetState S)
    (hs : Created s) (calls : List (Tally.Call S)) :
    (∀ n, Numbered K config (Runs.exec (afterCall config) s (calls.take n))) ↔
    Runs.Guarded (afterCall config) (InPlace K) s calls :=
  Runs.reached_iff_guarded (I := Numbered K config)
    (fun _ call h => (stepped_afterCall h.chain call).trans ⟨.of_chain, Numbered.chain⟩)
    (.of_chain (stepped_created hs)) calls

end

theorem numbered_without_jump :
    let config := config false
    let calls : List (Tally.Call suite) :=
      [.encrypt (env 1000 3) [10] [], .reserveNonces (env 1001 4) 0,
        .jumpToReservation (env 1002 5)]
    ∀ n, Numbered kdf config
      (Runs.exec (afterCall config) (session false .initiator) (calls.take n)) := by
  intro config calls
  refine (sending_chain_iff kdf config (session false .initiator)
    (created_session false .initiator) calls).mpr ⟨trivial, trivial, ?_, trivial⟩
  rintro c ⟨⟩
  decide +kernel

/-- After a jump to a reservation of ten numbers, message 10 is encrypted under message key 0, and
the receiver does not open it. -/
theorem jump_leaves_key :
    let config := config false
    let calls : List (Tally.Call suite) :=
      [.reserveNonces (env 1000 3) 10, .jumpToReservation (env 1001 4),
        .reserveNonces (env 1002 5) 10]
    let sent := (encryptMessage config (env 1003 6)
      (Runs.exec (afterCall config) (session false .initiator) calls) [10] []).1.toOption
    sent.map (fun m => (m.message.header.messageNumber, m.slot.messageKey)) =
        some (10, messageKeyAt (S := suite) (suite.hkdfSession secret).2
          0) ∧
      (DoubleRatchetSession.decrypt config (env 1004 7) (session false .responder)
        ((sent.map Encrypted.wire).getD []) []).1 = .error .authenticationFailed := by
  intro config calls sent
  decide +kernel

end Sibna
