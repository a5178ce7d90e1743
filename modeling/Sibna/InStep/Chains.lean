import Sibna.Network

/-!
# The two ends of a chain

Either the peer's receiving chain is the session's sending chain, or the peer can open it. What a
delivery, a rotation and a turn of the ratchet do to this.
-/

namespace Sibna

open DoubleRatchetSession

lemma HandshakeRole.eq_or_eq_peer (p q : HandshakeRole) : q = p ∨ q = p.peer := by
  cases p <;> cases q <;> simp [HandshakeRole.peer]

lemma HandshakeRole.forall_iff {P : HandshakeRole → Prop} (p : HandshakeRole) :
    (∀ q, P q) ↔ P p ∧ P p.peer := by
  refine ⟨fun h => ⟨h p, h p.peer⟩, fun h q => ?_⟩
  rcases HandshakeRole.eq_or_eq_peer p q with rfl | rfl
  · exact h.1
  · exact h.2

variable {S : Suite}

/-- The sending chain of `s` and the receiving chain of `t` are one chain, and `t` is not past
the end of it. -/
structure Linked (s t : DoubleRatchetState S) (c d : ChainKey S) : Prop where
  sending : s.sendingChain = some c
  receiving : t.receivingChain = some d
  base : ∃ k, c.key = chainAt k c.index ∧ d.key = chainAt k d.index
  index_le : d.index ≤ c.index

structure Follows (s t : DoubleRatchetState S) (a : S.Scalar) : Prop where
  dhLocal : s.dhLocal = some a
  remote : t.dhRemote = some (S.publicKey a)
  chains : (s.sendingChain = none ∧ t.receivingChain = none) ∨ ∃ c d, Linked s t c d

/-- `s` has made a sending chain that `t` has not opened yet and opens with its scalar. -/
structure Ahead (s t : DoubleRatchetState S) (x b : S.Scalar) (r : Bytes32) (c : ChainKey S) :
    Prop where
  dhLocal : s.dhLocal = some x
  peerLocal : t.dhLocal = some b
  remote : t.dhRemote = some r
  remote_ne : r ≠ S.publicKey x
  absent : ∀ i, t.skippedMessageKeys.lookup (S.publicKey x, i) = none
  rootKey : s.rootKey = (kdfRk S t.rootKey (S.diffieHellman b (S.publicKey x))).1
  sending : s.sendingChain = some c
  chain : c.key = chainAt (kdfRk S t.rootKey (S.diffieHellman b (S.publicKey x))).2 c.index

inductive Phase (s : HandshakeRole → DoubleRatchetState S) : Prop where
  | level (hroot : ∀ p, (s p).rootKey = (s p.peer).rootKey)
      (hfollows : ∀ p, ∃ a, Follows (s p) (s p.peer) a) : Phase s
  | ahead (p : HandshakeRole) (hahead : ∃ x b r c, Ahead (s p) (s p.peer) x b r c)
      (hfollows : ∃ a, Follows (s p.peer) (s p) a) : Phase s

/-- A message that is under way has its key waiting at the receiver `t`; a chain that is still
to be opened is the one the sender `s` sends on. -/
inductive Receivable (s t : DoubleRatchetState S) (h : RatchetHeader) (key : S.Key) : Prop where
  | held (hh : Held t h key)
  | due {c : ChainKey S} (hd : Due t h key c)
  | coming {r : Bytes32} {b x : S.Scalar} (hc : Coming t h key r b) (hx : s.dhLocal = some x)
      (hdh : h.dhPublic = S.publicKey x)

def Placed (s : DoubleRatchetState S) (h : RatchetHeader) : Prop :=
  ∀ a, s.dhLocal = some a → h.dhPublic = S.publicKey a →
    ∃ c, s.sendingChain = some c ∧ h.messageNumber < c.index

structure Regular (s : DoubleRatchetState S) : Prop where
  sending : ∀ c, s.sendingChain = some c →
    c.maxMessages = ChainKey.defaultMaxMessages ∧ c.index ≤ ChainKey.defaultMaxMessages
  receiving : ∀ c, s.receivingChain = some c → c.maxMessages = ChainKey.defaultMaxMessages
  previousCounter_le : s.previousCounter ≤ ChainKey.defaultMaxMessages
  behind : CacheBehind s

variable {a : S.Scalar} {h : RatchetHeader}

section
variable {s t : DoubleRatchetState S}

lemma Follows.not_coming {x b : S.Scalar} {key : S.Key} {r : Bytes32} (hf : Follows s t a)
    (hc : Coming t h key r b) (hx : s.dhLocal = some x) (hdh : h.dhPublic = S.publicKey x) :
    False := by
  have hax : a = x := Option.some.inj (hf.dhLocal.symm.trans hx)
  have hr := hc.remote
  rw [hf.remote, Option.some.injEq] at hr
  apply hc.remote_ne
  rw [← hr, hax, hdh]

lemma Linked.due {c d : ChainKey S} (hl : Linked s t c d)
    (hf : t.dhRemote = some (S.publicKey a)) (hs : Regular s) (ht : Regular t)
    (hlt : c.index < c.maxMessages) (hdh : h.dhPublic = S.publicKey a)
    (hn : h.messageNumber = c.index) : Due t h (messageKeyAt c.key 0) d := by
  obtain ⟨k, hck, hdk⟩ := hl.base
  have hle := hl.index_le
  refine ⟨hdh ▸ hf, hl.receiving, by omega, ?_, ?_⟩
  · rw [ht.receiving d hl.receiving, ← (hs.sending c hl.sending).1]
    omega
  · rw [hck, hdk, messageKeyAt_chainAt, messageKeyAt_chainAt, hn]
    congr 1
    omega

lemma Ahead.coming {x b : S.Scalar} {r : Bytes32} {c : ChainKey S} {h : RatchetHeader}
    (ha : Ahead s t x b r c) (hs : Regular s) (hlt : c.index < c.maxMessages)
    (hdh : h.dhPublic = S.publicKey x) (hn : h.messageNumber = c.index) :
    Coming t h (messageKeyAt c.key 0) r b where
  remote := ha.remote
  remote_ne := hdh ▸ ha.remote_ne
  dhLocal := ha.peerLocal
  absent := hdh ▸ ha.absent
  number_lt := by
    rw [← (hs.sending c ha.sending).1]
    omega
  key_eq := by
    rw [ha.chain, messageKeyAt_chainAt, hdh, hn]
    rfl

end

lemma Phase.receivable_next {s : HandshakeRole → DoubleRatchetState S} (hp : Phase s)
    (hr : ∀ p, Regular (s p)) (p : HandshakeRole) {c : ChainKey S} (ha : (s p).dhLocal = some a)
    (hc : (s p).sendingChain = some c) (hlt : c.index < c.maxMessages)
    (hdh : h.dhPublic = S.publicKey a) (hn : h.messageNumber = c.index) :
    Receivable (s p) (s p.peer) h (messageKeyAt c.key 0) := by
  have hfo : (∃ a, Follows (s p) (s p.peer) a) →
      Receivable (s p) (s p.peer) h (messageKeyAt c.key 0) := by
    intro ⟨a', hf⟩
    cases hf.dhLocal.symm.trans ha
    rcases hf.chains with ⟨hno, -⟩ | ⟨c', d, hl⟩
    · simp [hc] at hno
    · cases hl.sending.symm.trans hc
      exact .due (hl.due hf.remote (hr p) (hr _) hlt hdh hn)
  cases hp with
  | level hro hf => exact hfo (hf p)
  | ahead q hah hf =>
    rcases HandshakeRole.eq_or_eq_peer p q with rfl | rfl
    · obtain ⟨x, b, r, c', hah⟩ := hah
      cases hah.dhLocal.symm.trans ha
      cases hah.sending.symm.trans hc
      exact .coming (hah.coming (hr _) hlt hdh hn) ha hdh
    · rw [HandshakeRole.peer_peer] at hf
      exact hfo hf

structure SameReceiving (s s' : DoubleRatchetState S) : Prop where
  rootKey : s'.rootKey = s.rootKey
  receiving : s'.receivingChain = s.receivingChain
  dhLocal : s'.dhLocal = s.dhLocal
  dhRemote : s'.dhRemote = s.dhRemote
  cache : s'.skippedMessageKeys = s.skippedMessageKeys

structure SameSending (s s' : DoubleRatchetState S) : Prop where
  rootKey : s'.rootKey = s.rootKey
  sending : s'.sendingChain = s.sendingChain
  dhLocal : s'.dhLocal = s.dhLocal

section
variable {s s' t : DoubleRatchetState S} {h : RatchetHeader} {key : S.Key}

variable {c : ChainKey S}

section
variable (hs : SameReceiving s s')
include hs

lemma SameReceiving.linked {d : ChainKey S} (hl : Linked t s c d) : Linked t s' c d :=
  { hl with receiving := hs.receiving.trans hl.receiving }

lemma SameReceiving.follows {a : S.Scalar} (hf : Follows t s a) : Follows t s' a where
  dhLocal := hf.dhLocal
  remote := hs.dhRemote.trans hf.remote
  chains := by
    rcases hf.chains with ⟨hn, hn'⟩ | ⟨c, d, hl⟩
    · exact .inl ⟨hn, hs.receiving.trans hn'⟩
    · exact .inr ⟨c, d, hs.linked hl⟩

lemma SameReceiving.ahead {x b : S.Scalar} {r : Bytes32} (ha : Ahead t s x b r c) :
    Ahead t s' x b r c where
  __ := ha
  peerLocal := hs.dhLocal.trans ha.peerLocal
  remote := hs.dhRemote.trans ha.remote
  absent := hs.cache.symm ▸ ha.absent
  rootKey := hs.rootKey.symm ▸ ha.rootKey
  chain := hs.rootKey.symm ▸ ha.chain

lemma SameReceiving.receivable (hr : Receivable t s h key) : Receivable t s' h key := by
  cases hr with
  | held hh =>
    apply Receivable.held
    rwa [Held, hs.cache]
  | due hd =>
    exact .due { hd with
      remote := hs.dhRemote.trans hd.remote
      chain := hs.receiving.trans hd.chain }
  | coming hc hx hdh =>
    refine .coming { hc with
      remote := hs.dhRemote.trans hc.remote
      dhLocal := hs.dhLocal.trans hc.dhLocal
      absent := hs.cache.symm ▸ hc.absent
      key_eq := ?_ } hx hdh
    rw [hs.rootKey]
    exact hc.key_eq

end

lemma SameSending.follows {a : S.Scalar} (hs : SameSending s s') (hf : Follows s t a) :
    Follows s' t a where
  dhLocal := hs.dhLocal.trans hf.dhLocal
  remote := hf.remote
  chains := by
    rcases hf.chains with ⟨hn, hn'⟩ | ⟨c, d, hl⟩
    · exact .inl ⟨hs.sending.trans hn, hn'⟩
    · exact .inr ⟨c, d, { hl with sending := hs.sending.trans hl.sending }⟩

lemma SameSending.ahead {x b : S.Scalar} {r : Bytes32} (hs : SameSending s s')
    (ha : Ahead s t x b r c) : Ahead s' t x b r c :=
  { ha with
    dhLocal := hs.dhLocal.trans ha.dhLocal
    rootKey := hs.rootKey.trans ha.rootKey
    sending := hs.sending.trans ha.sending }

lemma SameSending.placed (hs : SameSending s s') (hp : Placed s h) : Placed s' h := by
  rwa [Placed, hs.dhLocal, hs.sending]

lemma Receivable.of_dhLocal (hs : s'.dhLocal = s.dhLocal) (hr : Receivable s t h key) :
    Receivable s' t h key := by
  cases hr with
  | held hh => exact .held hh
  | due hd => exact .due hd
  | coming hc hx hdh => exact .coming hc (hs.trans hx) hdh

end

structure Advances (s s' : DoubleRatchetState S) (c : ChainKey S) : Prop extends
    SameReceiving s s' where
  before : s.sendingChain = some c
  after : s'.sendingChain = some (c.advance 1)
  index_lt : c.index < c.maxMessages
  previousCounter : s'.previousCounter = s.previousCounter

section
variable {s s' t : DoubleRatchetState S} {c : ChainKey S}

section
variable (ha : Advances s s' c)
include ha

lemma Advances.regular (hr : Regular s) : Regular s' where
  sending := by
    intro c' hc'
    rw [ha.after, Option.some.injEq] at hc'
    subst hc'
    obtain ⟨hm, -⟩ := hr.sending c ha.before
    have hlt := ha.index_lt
    refine ⟨hm, ?_⟩
    simp only [ChainKey.advance]
    omega
  receiving := ha.receiving.symm ▸ hr.receiving
  previousCounter_le := ha.previousCounter.symm ▸ hr.previousCounter_le
  behind := by
    intro r d i k hre hd hk
    rw [ha.dhRemote] at hre
    rw [ha.receiving] at hd
    rw [ha.cache] at hk
    exact hr.behind r d i k hre hd hk

lemma Advances.placed {h : RatchetHeader} (hp : Placed s h) : Placed s' h := by
  intro a hl hdh
  rw [ha.dhLocal] at hl
  obtain ⟨c', hc', hlt⟩ := hp a hl hdh
  cases hc'.symm.trans ha.before
  refine ⟨_, ha.after, ?_⟩
  simp only [ChainKey.advance]
  omega

lemma Advances.follows {a : S.Scalar} (hf : Follows s t a) : Follows s' t a where
  dhLocal := ha.dhLocal.trans hf.dhLocal
  remote := hf.remote
  chains := by
    rcases hf.chains with ⟨hn, -⟩ | ⟨c', d, hl⟩
    · simp [ha.before] at hn
    cases hl.sending.symm.trans ha.before
    obtain ⟨k, hck, hdk⟩ := hl.base
    have hle := hl.index_le
    refine .inr ⟨_, d, ha.after, hl.receiving, ⟨k, ?_, hdk⟩, ?_⟩
    · simp only [ChainKey.advance, hck, chainAt_add]
    · simp only [ChainKey.advance]
      omega

lemma Advances.ahead {x b : S.Scalar} {r : Bytes32} {c' : ChainKey S} (hah : Ahead s t x b r c') :
    Ahead s' t x b r (c.advance 1) := by
  cases hah.sending.symm.trans ha.before
  exact { hah with
    dhLocal := ha.dhLocal.trans hah.dhLocal
    rootKey := ha.rootKey.trans hah.rootKey
    sending := ha.after
    chain := by
      simp only [ChainKey.advance, hah.chain, chainAt_add] }

end

end

section
variable {s t : DoubleRatchetState S} {h : RatchetHeader} {key : S.Key} {tag : Bytes32 × Nat}

lemma sameSending_forget (t : DoubleRatchetState S) (tag : Bytes32 × Nat) :
    SameSending t (forget t tag) := ⟨rfl, rfl, rfl⟩

lemma sameReceiving_recordReceived (env : Env S) (t : DoubleRatchetState S) :
    SameReceiving t (recordReceived env t) := ⟨rfl, rfl, rfl, rfl, rfl⟩

lemma lookup_forget_none {d : Bytes32} {i : Nat}
    (hn : t.skippedMessageKeys.lookup (d, i) = none) (tag : Bytes32 × Nat) :
    (forget t tag).skippedMessageKeys.lookup (d, i) = none := by
  by_cases hta : (d, i) = tag
  · rw [hta]
    exact AList.lookup_erase ..
  · simp only [forget]
    rwa [AList.lookup_erase_ne hta]

lemma Regular.forget (hr : Regular t) (tag : Bytes32 × Nat) : Regular (forget t tag) where
  __ := hr
  behind := by
    intro r c i k hre hc hk
    cases hl : t.skippedMessageKeys.lookup (r, i) with
    | none =>
      rw [lookup_forget_none hl] at hk
      cases hk
    | some k' => exact hr.behind r c i k' hre hc hl

lemma Regular.takeDue {c : ChainKey S} (hr : Regular t) (hd : Due t h key c) :
    Regular (takeDue t c h) where
  __ := hr
  receiving := by
    intro c' hc'
    obtain rfl := Option.some.inj hc'
    exact hr.receiving c hd.chain
  behind := hr.behind.after_takeDue hd

lemma Follows.forget {a : S.Scalar} (hf : Follows s t a) (tag : Bytes32 × Nat) :
    Follows s (forget t tag) a where
  __ := hf
  chains := by
    rcases hf.chains with hn | ⟨c, d, hl⟩
    · exact Or.inl hn
    · exact Or.inr ⟨c, d, { hl with receiving := hl.receiving }⟩

lemma Follows.takeDue {a : S.Scalar} {c : ChainKey S} (hf : Follows s t a) (hd : Due t h key c)
    (hp : Placed s h) : Follows s (takeDue t c h) a where
  __ := hf
  chains := by
    rcases hf.chains with ⟨-, hn⟩ | ⟨c', d, hl⟩
    · simp [hd.chain] at hn
    · obtain rfl : d = c := Option.some.inj (hl.receiving.symm.trans hd.chain)
      have hdh : h.dhPublic = S.publicKey a := Option.some.inj (hd.remote.symm.trans hf.remote)
      obtain ⟨c'', hc'', hlt⟩ := hp a hf.dhLocal hdh
      obtain rfl : c'' = c' := Option.some.inj (hc''.symm.trans hl.sending)
      obtain ⟨k, hck, hdk⟩ := hl.base
      have hle := hd.index_le
      refine Or.inr ⟨_, _, hl.sending, rfl, ⟨k, hck, ?_⟩, ?_⟩
      · simp only [ChainKey.advance, hdk, chainAt_add]
      · simp only [ChainKey.advance]
        omega

lemma Ahead.forget {x b : S.Scalar} {r : Bytes32} {c : ChainKey S} (ha : Ahead s t x b r c)
    (tag : Bytes32 × Nat) : Ahead s (forget t tag) x b r c :=
  { ha with absent := fun i => lookup_forget_none (ha.absent i) tag }

lemma lookup_takeDue_none {c : ChainKey S} {d : Bytes32} (hd : Due t h key c)
    (hne : t.dhRemote ≠ some d) {i : Nat} (hn : t.skippedMessageKeys.lookup (d, i) = none) :
    (takeDue t c h).skippedMessageKeys.lookup (d, i) = none := by
  have hdh : d ≠ h.dhPublic := fun heq => hne (heq ▸ hd.remote)
  rwa [lookup_takeDue t c h (fun hta => hdh (congrArg Prod.fst hta)), if_neg fun hin => hdh hin.1]

lemma Ahead.takeDue {x b : S.Scalar} {r : Bytes32} {c c' : ChainKey S}
    (ha : Ahead s t x b r c') (hd : Due t h key c) : Ahead s (takeDue t c h) x b r c' :=
  { ha with
    absent := by
      intro i
      apply lookup_takeDue_none hd _ (ha.absent i)
      rw [ha.remote]
      exact fun heq => ha.remote_ne (Option.some.inj heq) }

section
variable {h' : RatchetHeader} {key' : S.Key} (hr : Receivable s t h' key')
include hr

lemma Receivable.forget (hne : h'.tag ≠ tag) : Receivable s (forget t tag) h' key' := by
  cases hr with
  | held hh =>
    apply Receivable.held
    rw [Held]
    simp only [DoubleRatchetSession.forget]
    rw [AList.lookup_erase_ne hne]
    exact hh
  | due hd => exact .due { hd with }
  | coming hc hx hdh =>
    exact .coming { hc with absent := fun i => lookup_forget_none (hc.absent i) tag } hx hdh

lemma Receivable.takeDue {c : ChainKey S} (ht : Regular t) (hd : Due t h key c)
    (hne : h'.tag ≠ h.tag) : Receivable s (takeDue t c h) h' key' := by
  cases hr with
  | held hh => exact .held (hh.after_takeDue ht.behind hd hne)
  | due hd' =>
    have hcc := Option.some.inj (hd'.chain.symm.trans hd.chain)
    rw [hcc] at hd'
    rcases hd'.after_takeDue hd hne with hh | hd''
    · exact .held hh
    · exact .due hd''
  | coming hc hx hdh =>
    refine .coming { hc with absent := fun i => lookup_takeDue_none hd ?_ (hc.absent i) } hx hdh
    rw [hc.remote]
    exact fun heq => hc.remote_ne (Option.some.inj heq)

end

end

structure Unseen (t : DoubleRatchetState S) (x : S.Scalar) : Prop where
  remote : t.dhRemote ≠ some (S.publicKey x)
  absent : ∀ i, t.skippedMessageKeys.lookup (S.publicKey x, i) = none

section
variable {s t : DoubleRatchetState S} {env : Env S} {a b : S.Scalar}

lemma Ahead.of_rotate (D : S.SymbolicDh) (hr : s.rootKey = t.rootKey) (hf : Follows s t a)
    (hf' : Follows t s b) (hx : Unseen t env.newLocal) :
    ∃ c, Ahead (performDhRatchet env s) t env.newLocal b (S.publicKey a) c := by
  rw [performDhRatchet_some hf'.remote]
  refine ⟨_, rfl, hf'.dhLocal, hf.remote, ?_, hx.absent, ?_, rfl, ?_⟩
  · intro heq
    exact hx.remote (hf.remote.trans (congrArg some heq))
  · rw [hr, D.comm]
  · rw [hr, D.comm]
    rfl

lemma Follows.rotate (hf : Follows t s b) : Follows t (performDhRatchet env s) b := by
  rw [performDhRatchet_some hf.remote]
  refine ⟨hf.dhLocal, hf.remote, ?_⟩
  rcases hf.chains with hn | ⟨c, d, hl⟩
  · exact .inl hn
  · exact .inr ⟨c, d, { hl with receiving := hl.receiving }⟩

lemma Regular.rotate {r : Bytes32} (hs : Regular s) (hr : s.dhRemote = some r) :
    Regular (performDhRatchet env s) := by
  rw [performDhRatchet_some hr]
  refine { hs with sending := ?_ }
  rintro c ⟨⟩
  exact ⟨rfl, Nat.zero_le _⟩

lemma Receivable.of_follows {s' : DoubleRatchetState S} {h : RatchetHeader} {key : S.Key}
    (hr : Receivable s t h key) (hf : Follows s t a) : Receivable s' t h key := by
  cases hr with
  | held hh => exact .held hh
  | due hd => exact .due hd
  | coming hc hx hdh => exact absurd hdh fun hdh => hf.not_coming hc hx hdh

lemma Receivable.rotate {h : RatchetHeader} {key : S.Key} (hr : Receivable t s h key)
    (hf : Follows t s b) : Receivable t (performDhRatchet env s) h key := by
  rw [performDhRatchet_some hf.remote]
  cases hr with
  | held hh => exact .held hh
  | due hd => exact .due { hd with }
  | coming hc hx hdh => exact absurd hdh fun hdh => hf.not_coming hc hx hdh

end

section
variable {s t : DoubleRatchetState S} {env : Env S} {x b : S.Scalar} {r : Bytes32}
  {c : ChainKey S} {h : RatchetHeader} {key : S.Key}

lemma Ahead.turn (D : S.SymbolicDh) (ha : Ahead s t x b r c) (hf : Follows t s b)
    (hdh : h.dhPublic = S.publicKey x) (hy : Unseen s env.newLocal) :
    ∃ c', Ahead (turn env t r b h) s env.newLocal x (S.publicKey b) c' := by
  refine ⟨_, rfl, ha.dhLocal, hf.remote, ?_, hy.absent, ?_, rfl, ?_⟩
  · intro heq
    exact hy.remote (hf.remote.trans (congrArg some heq))
  · rw [ha.rootKey, D.comm x env.newLocal, ← hdh]
    rfl
  · rw [ha.rootKey, D.comm x env.newLocal, ← hdh]
    rfl

lemma Ahead.follows_turn (ha : Ahead s t x b r c) (hdh : h.dhPublic = S.publicKey x) :
    Follows s (DoubleRatchetSession.turn env t r b h) x where
  dhLocal := ha.dhLocal
  remote := congrArg some hdh
  chains := by
    refine .inr ⟨c, openedChain env t b h, ha.sending, rfl, ⟨_, ha.chain, ?_⟩, Nat.zero_le _⟩
    rw [← hdh]
    rfl

lemma Regular.turn (hr : Regular t) (hc : Coming t h key r b) :
    Regular (DoubleRatchetSession.turn env t r b h) where
  sending := by
    rintro c' ⟨⟩
    exact ⟨rfl, Nat.zero_le _⟩
  receiving := by
    rintro c' ⟨⟩
    rfl
  previousCounter_le := by
    change (t.sendingChain.map ChainKey.index).getD 0 ≤ _
    cases hs : t.sendingChain with
    | none => exact Nat.zero_le _
    | some c => exact (hr.sending c hs).2
  behind := CacheBehind.after_turn hc env

lemma Receivable.turn {h' : RatchetHeader} {key' : S.Key} (hr : Receivable s t h' key')
    (ht : Regular t) (ha : Ahead s t x b r c) (hdh : h.dhPublic = S.publicKey x)
    (ho : ∀ c, Due t h' key' c → h'.messageNumber < h.previousChainLength) :
    Receivable s (DoubleRatchetSession.turn env t r b h) h' key' := by
  cases hr with
  | held hh => exact .held (hh.after_turn ha.remote ht.behind env b)
  | due hd =>
    cases hd.remote.symm.trans ha.remote
    exact .held (hd.after_turn (ho _ hd) env b)
  | @coming r' b' x' hc hx hd' =>
    obtain rfl := Option.some.inj (hc.dhLocal.symm.trans ha.peerLocal)
    cases hx.symm.trans ha.dhLocal
    have hd := hc.after_turn env
    have heq := hd'.trans hdh.symm
    refine .due (c := openedChain env t b' h)
      ⟨congrArg some heq.symm, rfl, hd.index_le, hd.number_lt, ?_⟩
    rw [hd.key_eq]
    simp only [openedChain, heq]

end

end Sibna
