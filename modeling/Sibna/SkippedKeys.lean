import Sibna.Network

/-!
# The cache of skipped keys

The receiving chains of a session, as a map from remote keys to the keys the chains began with. A
new chain is above all earlier ones, so no remote key comes back with a second one.
-/

namespace Sibna

open DoubleRatchetSession

variable {S : Suite}

/-- The receiving side of a session: `origin` has the key that the receiving chain of a remote key
began with, and `taken` are the headers of accepted messages. -/
structure Receiving (origin : Bytes32 → Option S.Key) (taken : Bytes32 × Nat → Prop)
    (s : DoubleRatchetState S) : Prop where
  chain : ∀ c, s.receivingChain = some c →
    ∃ r k, s.dhRemote = some r ∧ origin r = some k ∧ c.key = chainAt k c.index
  entry : ∀ d n key, s.skippedMessageKeys.lookup (d, n) = some key →
    ∃ k, origin d = some k ∧ key = messageKeyAt k n
  entry_lt : ∀ d n key c, s.skippedMessageKeys.lookup (d, n) = some key → s.dhRemote = some d →
    s.receivingChain = some c → n < c.index
  entry_new : ∀ d n key, s.skippedMessageKeys.lookup (d, n) = some key → ¬ taken (d, n)
  known : ∀ d n, taken (d, n) → (origin d).isSome
  taken_lt : ∀ d n c, taken (d, n) → s.dhRemote = some d → s.receivingChain = some c → n < c.index
  room : s.skippedMessageKeys.entries.length ≤ s.maxSkip

namespace Receiving
variable {origin : Bytes32 → Option S.Key} {taken : Bytes32 × Nat → Prop} {env : Env S}
  {s s' : DoubleRatchetState S}

section
variable (h : Receiving origin taken s)
include h

lemma congr (hch : s'.receivingChain = s.receivingChain) (hr : s'.dhRemote = s.dhRemote)
    (hca : s'.skippedMessageKeys = s.skippedMessageKeys) (hsk : s'.maxSkip = s.maxSkip) :
    Receiving origin taken s' where
  chain := hch ▸ hr ▸ h.chain
  entry := hca ▸ h.entry
  entry_lt := hca ▸ hch ▸ hr ▸ h.entry_lt
  entry_new := hca ▸ h.entry_new
  known := h.known
  taken_lt := hch ▸ hr ▸ h.taken_lt
  room := hca ▸ hsk ▸ h.room

lemma mono {t' : Bytes32 × Nat → Prop} (hsu : ∀ t, t' t → taken t) : Receiving origin t' s :=
  { h with
    entry_new := fun d n key hen ht => h.entry_new d n key hen (hsu _ ht)
    known := fun d n ht => h.known d n (hsu _ ht)
    taken_lt := fun d n c ht => h.taken_lt d n c (hsu _ ht) }

lemma skip {u : Nat} (hsk : skipMessageKeys s u = (.ok (), s')) :
    Receiving origin taken s' ∧ ∀ c, s'.receivingChain = some c → u ≤ c.index := by
  rcases skipMessageKeys_ok hsk with ⟨rfl, hle⟩ | ⟨c, r, hc, hr, hlt, -, rfl, hro⟩
  · exact ⟨h, hle⟩
  obtain ⟨r', k, hr', hk, hke⟩ := h.chain c hc
  cases hr.symm.trans hr'
  have hl := lookup_stash r (u - c.index) s.skippedMessageKeys c.key c.index
  refine ⟨⟨?_, ?_, ?_, ?_, h.known, ?_, hro⟩, ?_⟩
  · rintro c' ⟨⟩
    refine ⟨r, k, hr, hk, ?_⟩
    simp only [ChainKey.advance, hke, chainAt_add]
  · intro d n key hen
    rw [setAside, hl] at hen
    split at hen
    · rename_i hn
      obtain ⟨rfl, hle, -⟩ := hn
      cases hen
      exact ⟨k, hk, by rw [hke, messageKeyAt_chainAt, Nat.add_sub_cancel' hle]⟩
    · exact h.entry d n key hen
  · rintro d n key c' hen hd ⟨⟩
    rw [setAside, hl] at hen
    simp only [ChainKey.advance]
    split at hen
    · omega
    · have := h.entry_lt d n key c hen hd hc
      omega
  · intro d n key hen hta
    rw [setAside, hl] at hen
    split at hen
    · rename_i hn
      obtain ⟨rfl, hle, -⟩ := hn
      have := h.taken_lt d n c hta hr hc
      omega
    · exact h.entry_new d n key hen hta
  · rintro d n c' hta hd ⟨⟩
    have := h.taken_lt d n c hta hd hc
    simp only [ChainKey.advance]
    omega
  · rintro c' ⟨⟩
    simp only [ChainKey.advance]
    omega

lemma turn {r : Bytes32} {k : S.Key} {now : Option Nat} (hn : origin r = none)
    (hch : s'.receivingChain = some (ChainKey.new now k)) (hr : s'.dhRemote = some r)
    (hca : s'.skippedMessageKeys = s.skippedMessageKeys) (hsk : s'.maxSkip = s.maxSkip) :
    Receiving (Function.update origin r (some k)) taken s' := by
  have ho : ∀ d, (origin d).isSome → d ≠ r := by grind
  refine ⟨?_, fun d n key hen => ?_, fun d n key _ hen hd _ => ?_, hca ▸ h.entry_new,
    fun d n hta => ?_, fun d n _ hta hd _ => ?_, hca ▸ hsk ▸ h.room⟩
  · intro c hc
    cases hch.symm.trans hc
    exact ⟨r, k, hr, Function.update_self .., rfl⟩
  · rw [hca] at hen
    obtain ⟨k', hk', hk⟩ := h.entry d n key hen
    exact ⟨k', by rw [Function.update_of_ne (ho d (by simp [hk'])), hk'], hk⟩
  · rw [hca] at hen
    obtain ⟨k', hk', -⟩ := h.entry d n key hen
    cases hr.symm.trans hd
    exact absurd rfl (ho r (by simp [hk']))
  · rw [Function.update_of_ne (ho d (h.known d n hta))]
    exact h.known d n hta
  · cases hr.symm.trans hd
    exact absurd rfl (ho r (h.known r n hta))

lemma advance {c : ChainKey S} (hc : s.receivingChain = some c) :
    Receiving origin taken { s with receivingChain := some (c.advance 1) } := by
  refine { h with chain := ?_, entry_lt := ?_, taken_lt := ?_ }
  · rintro c' ⟨⟩
    obtain ⟨r, k, hr, hk, hke⟩ := h.chain c hc
    refine ⟨r, k, hr, hk, ?_⟩
    simp only [ChainKey.advance, hke, chainAt_add]
  · rintro d n key c' hen hd ⟨⟩
    exact Nat.lt_succ_of_lt (h.entry_lt d n key c hen hd hc)
  · rintro d n c' hta hd ⟨⟩
    exact Nat.lt_succ_of_lt (h.taken_lt d n c hta hd hc)

lemma forget {d : Bytes32} {n : Nat} (hd : (origin d).isSome)
    (hn : ∀ c, s.dhRemote = some d → s.receivingChain = some c → n < c.index) :
    Receiving origin (fun t => t = (d, n) ∨ taken t)
      { s with skippedMessageKeys := s.skippedMessageKeys.erase (d, n) } where
  chain := h.chain
  entry := fun d' n' key hen => h.entry d' n' key (Maps.lookup_erase_some hen).2
  entry_lt := fun d' n' key c hen => h.entry_lt d' n' key c (Maps.lookup_erase_some hen).2
  entry_new := fun d' n' key hen hta =>
    hta.elim (Maps.lookup_erase_some hen).1 (h.entry_new d' n' key (Maps.lookup_erase_some hen).2)
  known := by
    rintro d' n' (⟨⟨⟩⟩ | hta)
    · exact hd
    · exact h.known d' n' hta
  taken_lt := by
    rintro d' n' c (⟨⟨⟩⟩ | hta) hr hc
    · exact hn c hr hc
    · exact h.taken_lt d' n' c hta hr hc
  room := (List.kerase_sublist _ _).length_le.trans h.room

lemma take {c : ChainKey S} {d : Bytes32} (hc : s.receivingChain = some c)
    (hd : s.dhRemote = some d) : Receiving origin (fun t => t = (d, c.index) ∨ taken t)
      { s with
        receivingChain := some (c.advance 1)
        skippedMessageKeys := s.skippedMessageKeys.erase (d, c.index) } := by
  obtain ⟨r, k, hr, hk, -⟩ := h.chain c hc
  cases hd.symm.trans hr
  refine (h.advance hc).forget (by simp [hk]) ?_
  rintro c' - ⟨⟩
  exact Nat.lt_succ_self _

lemma finish {c : ChainKey S} {m : RatchetMessage} {ad : Bytes} {d : Decrypted S}
    {s₂ : DoubleRatchetState S} (hc : s.receivingChain = some c)
    (hd : s.dhRemote = some m.header.dhPublic) (hn : c.index = m.header.messageNumber)
    (ho : openMessage env (messageKeyAt c.key 0) m ad
      { s with receivingChain := some (c.advance 1) } = (.ok d, s₂))
    : Receiving origin (fun t => t = d.message.header.tag ∨
      taken t) (recordReceived env s₂) := by
  obtain ⟨rfl, -, -, rfl⟩ := openMessage_ok ho
  have hta := h.take hc hd
  rw [hn] at hta
  exact hta.congr rfl rfl rfl rfl

end

end Receiving

lemma level_messageKeyAt (K : S.SymbolicKdf) (k : S.Key) (n : Nat) :
    K.level (messageKeyAt k n) = K.level k := by
  rw [messageKeyAt, Suite.SymbolicKdf.level, K.term_hmac]
  exact K.level_chainAt k n

lemma Receiving.accept (K : S.SymbolicKdf) {origin : Bytes32 → Option S.Key}
    {taken : Bytes32 × Nat → Prop} {config : Config} {env : Env S} {s s' : DoubleRatchetState S}
    {me ad : Bytes} {d : Decrypted S} (h : Receiving origin taken s)
    (hd : decryptMessage config env s me ad = (.ok d, s'))
    (hne : K.level d.messageKey = K.level s.rootKey + 1 →
      origin d.message.header.dhPublic = none) :
    let taken' := fun t =>
      t = d.message.header.tag ∨ taken t
    (Receiving origin taken' s' ∧ s'.rootKey = s.rootKey) ∨
      ∃ k, Receiving (Function.update origin d.message.header.dhPublic (some k)) taken' s' ∧
        K.level d.messageKey = K.level k ∧ K.level k = K.level s.rootKey + 1 ∧
        K.level k ≤ K.level s'.rootKey ∧ s'.dhRemote = some d.message.header.dhPublic ∧
        s'.receivingChain.isSome := by
  intro taken'
  obtain ⟨m, -, hpa⟩ := decryptMessage_ok hd
  rcases decryptParsed_ok hpa with ⟨key, hca, ho⟩ |
    ⟨s₁, c, s₂, hal, hc, hle, -, ho, rfl⟩
  · obtain ⟨rfl, -, -, rfl⟩ := openMessage_ok ho
    obtain ⟨k, hk, -⟩ := h.entry _ _ key hca
    exact .inl ⟨h.forget (by simp [hk]) fun c hr hc => h.entry_lt _ _ key c hca hr hc, rfl⟩
  obtain ⟨hm, hke, -, hs₂⟩ := openMessage_ok ho
  rcases alignReceiving_ok hal with ⟨hn, hsk⟩ | ⟨-, n, t, u, hsk, hra, hs'⟩
  · obtain ⟨h₁, hin⟩ := h.skip hsk
    obtain ⟨_, _, hs₁⟩ := skipMessageKeys_frame hsk
    have hre : s₁.dhRemote = some m.header.dhPublic := by
      rw [hs₁]
      cases hr : s.dhRemote with
      | none => simp [needsRatchet, hr] at hn
      | some r => simpa [needsRatchet, hr] using hn
    refine .inl ⟨h₁.finish hc hre (Nat.le_antisymm hle (hin c hc)) ho, ?_⟩
    rw [hs₂, hs₁]
    rfl
  · have h₀ : Receiving origin taken { s with previousCounter := n } := h.congr rfl rfl rfl rfl
    obtain ⟨h₁, -⟩ := h₀.skip hsk
    obtain ⟨_, _, ht⟩ := skipMessageKeys_frame hsk
    obtain ⟨a, -, hu⟩ := dhRatchet_ok hra
    obtain ⟨j, _, hs₁⟩ := skipMessageKeys_frame hs'
    have hl : K.level (kdfRk S t.rootKey (S.diffieHellman a m.header.dhPublic)).2 =
        K.level s.rootKey + 1 := by
      rw [K.level_kdfRk_chain, ht]
    have hro : K.level s₁.rootKey = K.level s.rootKey + 2 := by simp_all
    have hmessageKey : K.level d.messageKey = K.level s.rootKey + 1 := by
      rw [hs₁, hu] at hc
      cases hc
      rw [hke, level_messageKeyAt]
      exact (K.level_chainAt _ j).trans hl
    obtain rfl := hm
    have hch := congrArg DoubleRatchetState.receivingChain hu
    obtain ⟨h₂, hin⟩ := (h₁.turn (hne hmessageKey) hch (by rw [hu]) (by rw [hu])
      (by rw [hu])).skip hs'
    have hre : s₁.dhRemote = some d.message.header.dhPublic := by
      rw [hs₁, hu]
    refine .inr ⟨_, h₂.finish hc hre (Nat.le_antisymm hle (hin c hc)) ho,
      hmessageKey.trans hl.symm, hl, ?_, ?_, ?_⟩
    all_goals rw [hs₂]
    · exact (hl.trans_le (Nat.le_succ _)).trans hro.ge
    · exact hre
    · rfl

structure Sending (K : S.SymbolicKdf) (level : Bytes32 → Nat) (scalars : List S.Scalar)
    (sent : List (Sent S)) (q : HandshakeRole) (s : DoubleRatchetState S) : Prop where
  sent_level : ∀ m ∈ sent, m.sender = q → K.level m.key = level m.header.dhPublic
  sent_drawn : ∀ m ∈ sent, m.sender = q → ∃ a ∈ scalars, m.header.dhPublic = S.publicKey a
  chain_level : ∀ a c, s.dhLocal = some a → s.sendingChain = some c →
    K.level c.key = level (S.publicKey a)
  local_drawn : ∀ a, s.dhLocal = some a → a ∈ scalars

/-- The sending side goes on with its ratchet key and at its level. -/
def Steady (K : S.SymbolicKdf) (s s' : DoubleRatchetState S) : Prop :=
  s'.dhLocal = s.dhLocal ∧ ∀ c', s'.sendingChain = some c' →
    ∃ c, s.sendingChain = some c ∧ K.level c'.key = K.level c.key

section
variable {K : S.SymbolicKdf} {config : Config} {env : Env S} {s s' : DoubleRatchetState S}

lemma Steady.refl (s : DoubleRatchetState S) : Steady K s s := ⟨rfl, fun c hc => ⟨c, hc, rfl⟩⟩

lemma steady_encrypt {pl ad : Bytes} {r : Except ProtocolError (Encrypted S)}
    (h : encryptMessage config env s pl ad = (r, s')) :
    Steady K s s' ∨ s'.dhLocal = some env.newLocal := by
  rcases encryptMessage_frame h with rfl | ⟨se, _, _, rfl, hs⟩
  · exact .inl (.refl _)
  cases hro : mustRotate env s with
  | true => exact .inr (rotateIfNeeded_dhLocal hro)
  | false =>
    rw [rotateIfNeeded_of_not hro] at hs ⊢
    refine .inl ⟨rfl, ?_⟩
    rcases hs with rfl | ⟨c, hc, -, rfl⟩
    · exact fun c hc => ⟨c, hc, rfl⟩
    · rintro c' ⟨⟩
      exact ⟨c, hc, K.level_chainAt c.key 1⟩

lemma steady_decrypt {me ad : Bytes} {d : Decrypted S}
    (h : decryptMessage config env s me ad = (.ok d, s')) :
    Steady K s s' ∨ s'.dhLocal = some env.newLocal := by
  rcases decryptMessage_frame h with hke | htu
  · refine .inl ⟨hke.dhLocal, fun c hc => ⟨c, ?_, rfl⟩⟩
    rw [← hke.sending, hc]
  · exact .inr htu.dhLocal

variable {level : Bytes32 → Nat} {scalars : List S.Scalar} {sent : List (Sent S)}
  {q : HandshakeRole} {x : S.Scalar}

lemma Sending.move (D : S.SymbolicDh) (h : Sending K level scalars sent q s) (hx : x ∉ scalars)
    (hs : Steady K s s' ∨ s'.dhLocal = some x) : ∃ level',
    (∀ a ∈ scalars, level' (S.publicKey a) = level (S.publicKey a)) ∧
    Sending K level' (x :: scalars) sent q s' := by
  rcases hs with ⟨hl, hch⟩ | hl
  · refine ⟨level, fun _ _ => rfl, h.sent_level, fun m hm hq => ?_, fun a c ha hc => ?_, ?_⟩
    · obtain ⟨a, ha, hd⟩ := h.sent_drawn m hm hq
      exact ⟨a, .tail _ ha, hd⟩
    · obtain ⟨c', hc', hle⟩ := hch c hc
      rw [hle, h.chain_level a c' (hl ▸ ha) hc']
    · exact fun a ha => .tail _ (h.local_drawn a (hl ▸ ha))
  · -- the new ratchet key is given the level of the new chain
    have ho : ∀ a ∈ scalars, S.publicKey a ≠ S.publicKey x :=
      fun a ha heq => hx (D.publicKey_injective heq ▸ ha)
    refine ⟨Function.update level _
      ((s'.sendingChain.map fun c => K.level c.key).getD 0),
      fun a ha => Function.update_of_ne (ho a ha) .., fun m hm hq => ?_, fun m hm hq => ?_,
      fun a c ha hc => ?_, fun a ha => ?_⟩
    · obtain ⟨a, ha, hd⟩ := h.sent_drawn m hm hq
      rw [h.sent_level m hm hq, hd, Function.update_of_ne (ho a ha)]
    · obtain ⟨a, ha, hd⟩ := h.sent_drawn m hm hq
      exact ⟨a, .tail _ ha, hd⟩
    · simp_all
    · simp_all

lemma Sending.append {m : Sent S} (h : Sending K level scalars sent q s)
    (hm : m.sender = q → ∃ a c, s.dhLocal = some a ∧ m.header.dhPublic = S.publicKey a ∧
      s.sendingChain = some c ∧ K.level m.key = K.level c.key) :
    Sending K level scalars (sent ++ [m]) q s := by
  refine ⟨fun m' hm' hq => ?_, fun m' hm' hq => ?_, h.chain_level, h.local_drawn⟩
  all_goals rcases List.mem_append.mp hm' with ho | hn
  · exact h.sent_level m' ho hq
  · obtain rfl := List.mem_singleton.mp hn
    obtain ⟨a, c, ha, hd, hc, hl⟩ := hm hq
    rw [hl, hd, h.chain_level a c ha hc]
  · exact h.sent_drawn m' ho hq
  · obtain rfl := List.mem_singleton.mp hn
    obtain ⟨a, c, ha, hd, -⟩ := hm hq
    exact ⟨a, h.local_drawn a ha, hd⟩

lemma sent_on_chain {pl ad : Bytes} {en : Encrypted S}
    (h : encryptMessage config env s pl ad = (.ok en, s')) : ∃ a c, s'.dhLocal = some a ∧
    en.message.header.dhPublic = S.publicKey a ∧ s'.sendingChain = some c ∧
    K.level en.slot.messageKey = K.level c.key := by
  obtain ⟨s₁, hta, hb, -, rfl⟩ := encryptMessage_ok h
  obtain ⟨a, c, ha, -, -, -, hsl, rfl⟩ := takeSendKey_ok hta
  obtain ⟨ts, -, hh, -⟩ := buildMessage_ok hb
  refine ⟨a, c.advance 1, ha, ?_, rfl, ?_⟩
  · rw [hh, hsl]
  · rw [hsl, level_messageKeyAt]
    exact (K.level_chainAt c.key 1).symm

end

namespace World
section
variable {config : HandshakeRole → Config} {w w' : World S} {p : HandshakeRole}

/-- What a session accepts was sealed by one of the two, under the key and with the header that it
was opened with, and random scalars are new. -/
def Unforged (config : HandshakeRole → Config) (w : World S) (e : Event S) : Prop :=
  (∀ call ∈ w.incoming e, ∀ d ∈ (decryptMessage (config call.1) e.env (w.session call.1) call.2.1
    call.2.2).1.toOption, ∃ m ∈ w.sent, m.key = d.messageKey ∧ m.header = d.message.header) ∧
  e.env.newLocal ∉ w.scalars

def Took (w : World S) (p : HandshakeRole) (t : Bytes32 × Nat) : Prop :=
  ∃ a ∈ w.accepted, a.receiver = p ∧ a.decrypted.message.header.tag = t

/-- A session and its peer: `origin` has the receiving chains of the session, `level` the levels of
the ratchet keys of the peer. -/
structure Followed (K : S.SymbolicKdf) (p : HandshakeRole) (origin : Bytes32 → Option S.Key)
    (level : Bytes32 → Nat) (w : World S) : Prop where
  ledger : Ledger K ((w.session p).schedule (w.usedKeys p))
  sending : Sending K level w.scalars w.sent p.peer (w.session p.peer)
  receiving : Receiving origin (w.Took p) (w.session p)
  origin_le : ∀ d k, origin d = some k → K.level k ≤ K.level (w.session p).rootKey
  origin_level : ∀ d k, origin d = some k → K.level k = level d
  origin_drawn : ∀ d k, origin d = some k → ∃ a ∈ w.scalars, d = S.publicKey a

structure Grown (K : S.SymbolicKdf) (p : HandshakeRole) (origin origin' : Bytes32 → Option S.Key)
    (w w' : World S) : Prop where
  receiving : Receiving origin' (w'.Took p) (w'.session p)
  origin_le : ∀ d k, origin' d = some k → K.level k ≤ K.level (w'.session p).rootKey
  old : ∀ d k, origin d = some k → origin' d = some k
  new : ∀ d k, origin' d = some k → origin d = some k ∨
    (((w'.session p).dhRemote = some d ∧ (w'.session p).receivingChain.isSome) ∧
      ∃ m ∈ w.sent, m.sender = p.peer ∧ m.header.dhPublic = d ∧ K.level m.key = K.level k)

variable {K : S.SymbolicKdf} {origin : Bytes32 → Option S.Key} {level : Bytes32 → Nat}
  {e : Event S}

lemma steady_update (q : HandshakeRole) {q' : HandshakeRole} {t : DoubleRatchetState S}
    {x : S.Scalar} (hse : w'.session = Function.update w.session q' t)
    (h : Steady K (w.session q') t ∨ t.dhLocal = some x) : Steady K (w.session q) (w'.session q) ∨
    (w'.session q).dhLocal = some x := by
  by_cases hq : q = q'
  · simp_all
  · rw [hse, Function.update_of_ne hq]
    exact .inl (.refl _)

lemma sending_step (config : HandshakeRole → Config) (D : S.SymbolicDh) {q : HandshakeRole}
    (h : Sending K level w.scalars w.sent q (w.session q)) (hx : e.env.newLocal ∉ w.scalars) :
    let w' := w.step config e
    ∃ level', (∀ a ∈ w.scalars, level' (S.publicKey a) = level (S.publicKey a)) ∧
      Sending K level' w'.scalars w'.sent q (w'.session q) := by
  intro w'
  have hsc : w'.scalars = e.env.newLocal :: w.scalars := rfl
  rw [hsc]
  cases effect_step config w e with
  | idle hse hsn _ =>
    rw [hsn, hse]
    exact h.move D hx (.inl (.refl _))
  | failed hev hc hse hsn _ =>
    subst hev
    rw [hsn]
    exact h.move D hx (steady_update q hse (steady_encrypt hc))
  | accepts _ hc hse hsn _ =>
    rw [hsn]
    exact h.move D hx (steady_update q hse (steady_decrypt hc))
  | @sends q' _ _ _ encrypted t hev hc hse hsn _ =>
    subst hev
    obtain ⟨level', hsa, h'⟩ := h.move D hx (steady_update q hse (steady_encrypt hc))
    refine ⟨level', hsa, hsn ▸ h'.append ?_⟩
    rintro rfl
    rw [hse, Function.update_self]
    exact sent_on_chain hc

section
variable (h : Followed K p origin level w)
include h

lemma Followed.stays (hre : Receiving origin (w'.Took p) (w'.session p))
    (hr : K.level (w.session p).rootKey ≤ K.level (w'.session p).rootKey) :
    Grown K p origin origin w w' :=
  ⟨hre, fun d k hk => (h.origin_le d k hk).trans hr, fun _ _ hk => hk, fun _ _ => .inl⟩

lemma Followed.encrypts {q : HandshakeRole} {env : Env S} {pl ad : Bytes}
    {r : Except ProtocolError (Encrypted S)} {t : DoubleRatchetState S}
    (hc : encryptMessage (config q) env (w.session q) pl ad = (r, t))
    (hss : w'.session = Function.update w.session q t) (hac : w'.accepted = w.accepted) :
    Grown K p origin origin w w' := by
  have hto : ∀ x, w'.Took p x → w.Took p x := by
    simp only [Took, hac]
    exact fun _ hx => hx
  by_cases hq : p = q
  · subst hq
    have hro : ∀ s : DoubleRatchetState S, Receiving origin (w.Took p) s →
        Receiving origin (w.Took p) (rotateIfNeeded env s) ∧
          K.level s.rootKey ≤ K.level (rotateIfNeeded env s).rootKey := by
      intro s hs
      unfold rotateIfNeeded performDhRatchet
      split
      · split
        · exact ⟨hs.congr rfl rfl rfl rfl, Nat.le_refl _⟩
        · exact ⟨hs.congr rfl rfl rfl rfl, (Nat.le_succ _).trans_eq (K.level_kdfRk_root ..).symm⟩
      · exact ⟨hs, Nat.le_refl _⟩
    have hse : w'.session p = t := by rw [hss, Function.update_self]
    rcases encryptMessage_frame hc with rfl | ⟨se, _, _, rfl, -⟩
    · exact h.stays (hse ▸ h.receiving.mono hto) (hse ▸ Nat.le_refl _)
    obtain ⟨hre, hr⟩ := hro _ h.receiving
    refine h.stays ?_ (hse ▸ hr)
    rw [hse]
    exact (hre.mono hto).congr rfl rfl rfl rfl
  · have hse : w'.session p = w.session p := by rw [hss, Function.update_of_ne hq]
    exact h.stays (hse ▸ h.receiving.mono hto) (hse ▸ Nat.le_refl _)

lemma Followed.accepts (he : w.Unforged config e) {me ad : Bytes} {d : Decrypted S}
    {t : DoubleRatchetState S} (hev : w.incoming e = some (p, me, ad))
    (hc : decryptMessage (config p) e.env (w.session p) me ad = (.ok d, t))
    (hse : w'.session p = t) (hac : w'.accepted = w.accepted ++ [⟨p, d⟩]) :
    ∃ origin', Grown K p origin origin' w w' := by
  obtain ⟨m, hm, hke, hh⟩ := he.1 _ hev d (by simp only [hc]; rfl)
  -- the key is not one that the session has used itself
  have hpe : m.sender = p.peer := by
    have hne : m.sender ≠ p := fun heq => ledger_decrypt_fresh h.ledger hc
      (mem_usedKeys.mpr (.inl ⟨m, hm, heq, hke⟩))
    revert hne
    cases m.sender <;> cases p <;> simp [HandshakeRole.peer]
  have hl := h.sending.sent_level m hm hpe
  rw [hke, hh] at hl
  have hto : ∀ x, w'.Took p x →
      x = d.message.header.tag ∨ w.Took p x := by
    rintro x ⟨a, ha, hp, rfl⟩
    rw [hac] at ha
    rcases List.mem_append.mp ha with ha | ha
    · exact .inr ⟨a, ha, hp, rfl⟩
    · simp_all
  have hn : K.level d.messageKey = K.level (w.session p).rootKey + 1 →
      origin d.message.header.dhPublic = none := by
    intro hab
    by_contra hso
    obtain ⟨k, hk⟩ := Option.ne_none_iff_exists'.mp hso
    have hle := h.origin_le _ k hk
    rw [h.origin_level _ k hk, ← hl] at hle
    omega
  rcases h.receiving.accept K hc hn with ⟨hre, hro⟩ | ⟨k, hre, hk, hkr, hk', hr, hch⟩
  · exact ⟨origin, h.stays (hse ▸ hre.mono hto) (by rw [hse, hro])⟩
  refine ⟨_, hse ▸ hre.mono hto, fun d' k' hd' => ?_, fun d' k' hd' => ?_, fun d' k' hd' => ?_⟩
  · by_cases hd : d' = d.message.header.dhPublic
    · simp_all
    · rw [Function.update_of_ne hd] at hd'
      rw [hse]
      exact (h.origin_le d' k' hd').trans (by omega)
  · grind
  · by_cases hd : d' = d.message.header.dhPublic
    · rw [hd, Function.update_self, Option.some.injEq] at hd'
      refine .inr ⟨hse ▸ hd ▸ ⟨hr, hch⟩, m, hm, hpe, ?_, ?_⟩
      · rw [hh, hd]
      · rw [hke, hk, hd']
    · simp_all

lemma Followed.grows (he : w.Unforged config e) :
    ∃ origin', Grown K p origin origin' w (w.step config e) := by
  cases effect_step config w e with
  | idle hse _ hac =>
    refine ⟨origin, h.stays ?_ ?_⟩
    · rw [hse]
      refine h.receiving.mono fun x hx => ?_
      rwa [Took, hac] at hx
    · rw [hse]
  | failed _ hc hse _ hac => exact ⟨origin, h.encrypts hc hse hac⟩
  | sends _ hc hse _ hac => exact ⟨origin, h.encrypts hc hse hac⟩
  | @accepts q _ _ d t hev hc hse _ hac =>
    by_cases hq : p = q
    · subst hq
      exact h.accepts he hev hc (by rw [hse, Function.update_self]) hac
    have hsl : (w.step config e).session p = w.session p := by simp_all
    refine ⟨origin, h.stays ?_ (by rw [hsl])⟩
    rw [hsl]
    refine h.receiving.mono ?_
    rintro x ⟨a, ha, hp, hx⟩
    rw [hac] at ha
    rcases List.mem_append.mp ha with ha | ha
    · exact ⟨a, ha, hp, hx⟩
    · simp_all

end

lemma Followed.step (D : S.SymbolicDh) (h : Followed K p origin level w)
    (he : w.Unforged config e) : ∃ origin' level', Followed K p origin' level' (w.step config e) ∧
    Grown K p origin origin' w (w.step config e) := by
  obtain ⟨level', hsa, hs⟩ := sending_step config D h.sending he.2
  obtain ⟨origin', hg⟩ := h.grows he
  refine ⟨origin', level', ⟨?_, hs, hg.receiving, hg.origin_le, fun d k hk => ?_,
    fun d k hk => ?_⟩, hg⟩
  · exact stable_step (Ledger.stable K e.env.newLocal) (fun _ _ _ _ _ _ _ => trivial) h.ledger
  · rcases hg.new d k hk with ho | ⟨-, m, hm, hp, rfl, hl⟩
    · obtain ⟨a, ha, rfl⟩ := h.origin_drawn d k ho
      rw [h.origin_level _ k ho, hsa a ha]
    · obtain ⟨a, ha, hd⟩ := h.sending.sent_drawn m hm hp
      rw [← hl, h.sending.sent_level m hm hp, hd, hsa a ha]
  · rcases hg.new d k hk with ho | ⟨-, m, hm, hp, rfl, -⟩
    · obtain ⟨a, ha, hd⟩ := h.origin_drawn d k ho
      exact ⟨a, .tail _ ha, hd⟩
    · obtain ⟨a, ha, hd⟩ := h.sending.sent_drawn m hm hp
      exact ⟨a, .tail _ ha, hd⟩

/-- In some state of the run the session receives on the chain `c` with the remote key `d`. -/
def Held (config : HandshakeRole → Config) (w : World S) (es : List (Event S)) (p : HandshakeRole)
    (d : Bytes32) (c : ChainKey S) : Prop :=
  ∃ i, ((w.run config (es.take i)).session p).dhRemote = some d ∧
    ((w.run config (es.take i)).session p).receivingChain = some c

include K in
lemma chainAt_injective {k k' : S.Key} {n : Nat} (h : chainAt k n = chainAt k' n) : k = k' := by
  induction n with
  | zero => exact h
  | succ n ih =>
    have hte := congrArg K.term h
    rw [chainAt, chainAt, K.term_hmac, K.term_hmac, KeyAlgebra.KeyTerm.mac.injEq] at hte
    exact ih (K.term_injective hte.1)

lemma Followed.origin_of_current (h : Followed K p origin level w) {d : Bytes32} {k : S.Key}
    {c : ChainKey S} (hd : (w.session p).dhRemote = some d)
    (hc : (w.session p).receivingChain = some c) :
    origin d = some k ↔ c.key = chainAt k c.index := by
  obtain ⟨r, k', hr, hk', hk⟩ := h.receiving.chain c hc
  cases hd.symm.trans hr
  rw [hk', hk, Option.some.injEq]
  exact ⟨fun heq => heq ▸ rfl, chainAt_injective (K := K)⟩

lemma Followed.run (D : S.SymbolicDh) {es : List (Event S)} (h : Followed K p origin level w)
    (hes : Runs.Guarded (World.step config) (Unforged config) w es) :
    ∃ origin' level', Followed K p origin' level' (w.run config es) ∧
      ∀ d k, origin' d = some k ↔
        origin d = some k ∨ ∃ c, Held config w es p d c ∧ c.key = chainAt k c.index := by
  induction es generalizing w origin level with
  | nil =>
    refine ⟨origin, level, h, fun d k => ⟨.inl, ?_⟩⟩
    rintro (hk | ⟨c, ⟨i, hd, hc⟩, hke⟩)
    · exact hk
    · rw [List.take_nil] at hd hc
      exact (h.origin_of_current hd hc).mpr hke
  | cons e es ih =>
    obtain ⟨o₁, l₁, h₁, hg⟩ := h.step D hes.1
    obtain ⟨origin', level', h', hif⟩ := ih h₁ hes.2
    refine ⟨origin', level', h', fun d k => (hif d k).trans ⟨?_, ?_⟩⟩
    · rintro (hk | ⟨c, ⟨i, hhe⟩, hke⟩)
      · rcases hg.new d k hk with ho | ⟨⟨hd, hso⟩, -⟩
        · exact .inl ho
        · obtain ⟨c, hc⟩ := Option.isSome_iff_exists.mp hso
          exact .inr ⟨c, ⟨1, hd, hc⟩, (h₁.origin_of_current hd hc).mp hk⟩
      · exact .inr ⟨c, ⟨i + 1, hhe⟩, hke⟩
    · rintro (hk | ⟨c, ⟨i, hd, hc⟩, hke⟩)
      · exact .inl (hg.old d k hk)
      · cases i with
        | zero => exact .inl (hg.old d k ((h.origin_of_current hd hc).mpr hke))
        | succ i => exact .inr ⟨c, ⟨i, hd, hc⟩, hke⟩

lemma level_session_chain (K : S.SymbolicKdf) (se : Bytes32) :
    K.level (S.hkdfSession se).2 = 0 := by
  rw [Suite.SymbolicKdf.level, K.term_session_chain]
  rfl

lemma sending_matched {se : Bytes32} (K : S.SymbolicKdf) (h : w.Matched config se)
    (q : HandshakeRole) : Sending K (fun _ => 0) w.scalars w.sent q (w.session q) := by
  obtain ⟨a, ha, b, -, cl, now, hs⟩ := h.session_eq q
  rw [h.sent, hs]
  refine ⟨nofun, nofun, fun _ c _ hc => ?_, ?_⟩
  · cases q with
    | initiator =>
      cases hc
      exact level_session_chain K se
    | responder => cases hc
  · rintro _ ⟨⟩
    exact ha

lemma followed_matched {se : Bytes32} (K : S.SymbolicKdf) (h : w.Matched config se)
    (p : HandshakeRole) : ∃ origin level, Followed K p origin level w ∧ ∀ d k, origin d = some k →
    ∃ c, (w.session p).dhRemote = some d ∧ (w.session p).receivingChain = some c ∧
    c.key = chainAt k c.index := by
  have hl := ledger_run K h [] p
  have hn : ∀ t, ¬ w.Took p t := by
    rintro t ⟨x, hx, -⟩
    rw [h.accepted] at hx
    cases hx
  obtain ⟨a, -, b, hb, cl, now, hs⟩ := h.session_eq p
  have hro : (w.session p).skippedMessageKeys.entries.length ≤ (w.session p).maxSkip := by
    rw [hs]
    exact Nat.zero_le _
  have hca : ∀ t, (w.session p).skippedMessageKeys.lookup t = none := by
    rw [hs]
    exact fun t => AList.lookup_empty t
  have hem : ∀ {P : Prop} {t key}, (w.session p).skippedMessageKeys.lookup t = some key →
    P := by simp_all
  have hre : ∀ origin, (∀ c, (w.session p).receivingChain = some c → ∃ r k,
      (w.session p).dhRemote = some r ∧ origin r = some k ∧ c.key = chainAt k c.index) →
      Receiving origin _ (w.session p) := fun origin hch =>
    ⟨hch, fun _ _ _ => hem, fun _ _ _ _ => hem, fun _ _ _ => hem,
      fun d n ht => absurd ht (hn _), fun d n _ ht => absurd ht (hn _), hro⟩
  cases p with
  | initiator =>
    refine ⟨fun _ => none, fun _ => 0, ⟨hl, sending_matched K h _, hre _ ?_, nofun,
      nofun, nofun⟩, nofun⟩
    rw [hs]
    exact nofun
  | responder =>
    have ho : ∀ d k, Function.update (fun _ => none) (S.publicKey b)
        (some (S.hkdfSession se).2) d = some k →
        d = S.publicKey b ∧ k = (S.hkdfSession se).2 := by
      intro d k hk
      by_cases hd : d = S.publicKey b
      · simp_all
      · simp_all
    refine ⟨Function.update (fun _ => none) (S.publicKey b) (some (S.hkdfSession se).2),
      fun _ => 0, ⟨hl, sending_matched K h _, hre _ ?_, fun d k hk => ?_,
        fun d k hk => ?_, fun d k hk => ?_⟩, fun d k hk => ?_⟩
    · rw [hs]
      rintro c ⟨⟩
      exact ⟨_, _, rfl, Function.update_self .., rfl⟩
    all_goals obtain ⟨rfl, rfl⟩ := ho d k hk
    · rw [level_session_chain]
      exact Nat.zero_le _
    · exact level_session_chain K se
    · exact ⟨b, hb, rfl⟩
    · rw [hs]
      exact ⟨_, rfl, rfl, rfl⟩

/-- Every key in the cache is the message key with its number of the one receiving chain that the
session has held with its remote key, its number is below the index of that chain while the remote
key is the current one, and no message with its header was accepted; and the cache stays within its
bound. -/
theorem skipped_keys_sound (K : S.SymbolicKdf) (D : S.SymbolicDh) {secret : Bytes32}
    (h : w.Matched config secret) (es : List (Event S))
    (hes : Runs.Guarded (World.step config) (Unforged config) w es) (p : HandshakeRole) :
    let s := (w.run config es).session p
    ∃ origin : Bytes32 → Option S.Key,
      (∀ d k, origin d = some k ↔ ∃ c, Held config w es p d c ∧ c.key = chainAt k c.index) ∧
      (∀ d n key, s.skippedMessageKeys.lookup (d, n) = some key →
        (∃ k, origin d = some k ∧ key = messageKeyAt k n) ∧
        (∀ c, s.dhRemote = some d → s.receivingChain = some c → n < c.index) ∧
        ¬ (w.run config es).Took p (d, n)) ∧
      s.skippedMessageKeys.entries.length ≤ s.maxSkip := by
  intro s
  obtain ⟨origin₀, level₀, h₀, hinitial⟩ := followed_matched K h p
  obtain ⟨origin, level, hrun, hiff⟩ := h₀.run D hes
  refine ⟨origin, fun d k => (hiff d k).trans ⟨?_, .inr⟩, fun d n key hentry => ?_,
    hrun.receiving.room⟩
  · rintro (hk | hheld)
    · obtain ⟨c, hd, hc, hkey⟩ := hinitial d k hk
      exact ⟨c, ⟨0, hd, hc⟩, hkey⟩
    · exact hheld
  · exact ⟨hrun.receiving.entry d n key hentry,
      fun c hd hc => hrun.receiving.entry_lt d n key c hentry hd hc,
      hrun.receiving.entry_new d n key hentry⟩

instance [DecidableEq S.Key] [DecidableEq S.Scalar] (config : HandshakeRole → Config)
    (w : World S) (e : Event S) : Decidable (w.Unforged config e) :=
  inferInstanceAs (Decidable ((∀ call ∈ _, ∀ d ∈ _, ∃ m ∈ _, _ ∧ _) ∧ _))

end

open Symbolic

theorem skipped_first_message :
    let config := fun _ : HandshakeRole => config false
    let es : List (Event suite) :=
      [.encrypt .initiator (env 1000 3) [10] [],
        .encrypt .initiator (env 1001 4) [11] [], .deliver 1 (env 1002 5),
        .inject .responder (env 1003 6) (List.replicate 100 1) []]
    let w := (world false).run config es
    (w.session .responder).skippedMessageKeys.entries.length = 1 ∧
      ¬ w.Took .responder (publicKey 1, 0) := by
  intro config es w
  have hguard : Runs.Guarded (World.step config) (Unforged config) (world false) es := by
    decide +kernel
  have hentry : ((w.session .responder).skippedMessageKeys.lookup
      (publicKey 1, 0)).isSome = true := by
    decide +kernel
  obtain ⟨key, hkey⟩ := Option.isSome_iff_exists.mp hentry
  have hmatched : (world false).Matched config secret :=
    world_matched false
  obtain ⟨origin, -, hcache, -⟩ :=
    skipped_keys_sound kdf dh hmatched es hguard .responder
  exact ⟨by decide +kernel, (hcache _ _ key hkey).2.2⟩

end World

end Sibna
