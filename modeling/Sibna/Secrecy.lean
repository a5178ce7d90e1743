import Sibna.Network

/-!
# Forward secrecy and post-compromise security

The attacker sees the wire and learns the whole memory of one party at one moment.
-/

namespace Sibna

open KeyAlgebra KeySchedule DoubleRatchetSession Symbolic

variable {S : Suite}

/-- The key material in a session's memory. -/
inductive Leaked (K : S.SymbolicKdf) (s : DoubleRatchetState S) :
    KeyTerm SessionAtom S.Shared → Prop where
  | root : Leaked K s (K.term s.rootKey)
  | sending {c : ChainKey S} (h : s.sendingChain = some c) : Leaked K s (K.term c.key)
  | receiving {c : ChainKey S} (h : s.receivingChain = some c) : Leaked K s (K.term c.key)
  | skipped {t : Bytes32 × Nat} {k : S.Key} (h : s.skippedMessageKeys.lookup t = some k) :
      Leaked K s (K.term k)

/-- What the attacker holds besides the leak: scalars, and keys not derived from any other. -/
structure Attacker (S : Suite) where
  scalars : S.Scalar → Prop
  atoms : SessionAtom → Prop

/-- The ciphertext of a message, as `encrypt_message` lays it out. -/
def Sent.body (m : Sent S) (time : Nat) (nonce : Bytes) : WireTerm S.Key Bytes :=
  .pair (.data (buildHeader 0 time)) (.pair (.data nonce) (.sealed m.key nonce
    (m.associatedData ++ m.header.toBytes ++ buildHeader 0 time) (.data m.plaintext)))

/-- The terms of a message, its header in the clear or encrypted. -/
inductive Sent.Frame (m : Sent S) : WireTerm S.Key Bytes → Prop where
  | plain (time : Nat) (nonce : Bytes) :
      Frame m (.pair (.data m.header.toBytes) (m.body time nonce))
  | encrypted (headerNonce : Bytes) (time : Nat) (nonce : Bytes) :
      Frame m (.pair (.data headerNonce) (.pair (.sealed m.encrypted.slot.chain.deriveHeaderKey
        headerNonce [] (.data m.header.toBytes)) (m.body time nonce)))

/-- The term is what stands on the wire. -/
def Sent.Reads (m : Sent S) (f : WireTerm S.Key Bytes) : Prop :=
  m.Frame f ∧ S.bytes f = m.encrypted.wire

def SharedWith (scalars : S.Scalar → Prop) (shared : S.Shared) : Prop :=
  ∃ x r, scalars x ∧ shared = S.diffieHellman x r

/-- The attacker sees the messages sent and knows the memory of `s`. -/
def Attacker.Learns (A : Attacker S) (K : S.SymbolicKdf) (sent : List (Sent S))
    (s : DoubleRatchetState S) (k : S.Key) : Prop :=
  Learnable (fun t => ∃ m ∈ sent, ∃ f, m.Reads f ∧ t = f.map K.term) (Leaked K s) A.atoms
    (SharedWith fun x => A.scalars x ∨ s.dhLocal = some x) (.key (K.term k))

lemma Attacker.Learns.derivable {A : Attacker S} {K : S.SymbolicKdf}
    {sent : List (Sent S)} {s : DoubleRatchetState S} {k : S.Key} (h : A.Learns K sent s k) :
    Derivable (Leaked K s) A.atoms (SharedWith fun x => A.scalars x ∨ s.dhLocal = some x)
    (K.term k) := by
  refine Learnable.carries ?_ h
  rintro t ⟨m, -, f, ⟨hf, -⟩, rfl⟩
  cases hf <;> simp [WireTerm.map, WireTerm.Carries, Sent.body]

lemma reads_of_encryptMessage {config : Config} {env : Env S} {s s' : DoubleRatchetState S}
    {plaintext ad : Bytes} {en : Encrypted S}
    (h : encryptMessage config env s plaintext ad = (.ok en, s')) (p : HandshakeRole) :
    ∃ f, (⟨p, plaintext, ad, en⟩ : Sent S).Reads f := by
  obtain ⟨s1, -, hb, hf, -⟩ := encryptMessage_ok h
  obtain ⟨-, -, -, -, -, hb⟩ := buildMessage_ok hb
  obtain ⟨-, -, -, n, t, -, -, hc⟩ := Encryptor.encryptBytes_ok hb
  unfold frameMessage at hf
  split at hf
  · cases hn : env.headerNonce with
    | none => simp [RatchetMessage.toBytesEncrypted, RatchetHeader.encrypt, hn] at hf
    | some hn' =>
      refine ⟨_, .encrypted hn'.val t n.val, ?_⟩
      simp only [RatchetMessage.toBytesEncrypted, RatchetHeader.encrypt, hn, Except.ok.injEq] at hf
      rw [← hf, hc]
      simp [Suite.bytes, Sent.body, List.append_assoc]
  · refine ⟨_, .plain t n.val, ?_⟩
    rw [← Except.ok.inj hf, RatchetMessage.toBytes, hc]
    simp [Suite.bytes, Sent.body, List.append_assoc]

lemma World.reads_run {w : World S} (config : HandshakeRole → Config) (hse : w.sent = [])
    (es : List (Event S)) : ∀ m ∈ (w.run config es).sent, ∃ f, m.Reads f := by
  apply Runs.exec_invariant (I := fun w : World S => ∀ m ∈ w.sent, ∃ f, m.Reads f)
  · intro w e h m hm
    rcases mem_step_sent hm with hm | ⟨env, s, -, ho, -⟩
    · exact h m hm
    · exact reads_of_encryptMessage ho m.sender
  · simp [hse]

section
variable (K : S.SymbolicKdf) (secret : Bytes32)

def IsChain (c : S.Key) : Prop :=
  (K.term c).Strand (· = .sessionRoot secret) (· = .sessionChain secret) chainKeySeed

lemma IsChain.next {K : S.SymbolicKdf} {secret : Bytes32} {c : S.Key}
    (h : IsChain K secret c) : IsChain K secret (chainAt c 1) := by
  unfold IsChain
  rw [chainAt, K.term_hmac]
  exact ⟨rfl, h⟩

def shaped : KeyInvariant S where
  root := fun k => (K.term k).Spine (· = .sessionRoot secret)
  chain := IsChain K secret
  message := fun k => ∃ c, k = messageKeyAt c 0 ∧ IsChain K secret c
  scalar := fun _ => True
  remote := fun _ => True

lemma shaped_closed : (shaped K secret).Closed where
  next := fun c hc => ⟨hc.next, c, rfl, hc⟩
  extract := by
    intro k a r hk _
    constructor
    · change (K.term _).Spine _
      rwa [kdfRk, K.term_ratchet_root]
    · change IsChain K secret _
      rwa [IsChain, kdfRk, K.term_ratchet_chain]

lemma shaped_initialState (l : S.Scalar) (r : Bytes32) (co : Config) (role : HandshakeRole)
    (cl : Clock) (now : Nat) :
    (shaped K secret).Holds ((initialState secret l r co role cl now).schedule []) := by
  have hr : (K.term (S.hkdfSession secret).1).Spine (· = .sessionRoot secret) := by
    rw [K.term_session_root]
    rfl
  have hch : IsChain K secret (S.hkdfSession secret).2 := by
    rw [IsChain, K.term_session_chain]
    rfl
  cases role <;>
    constructor <;>
      simp [DoubleRatchetState.schedule, initialState, ChainKey.new, shaped, hr, hch]

end

section
variable {K : S.SymbolicKdf} {secret : Bytes32} {s : DoubleRatchetState S} {used : List S.Key}

lemma not_spine_of_strand {base cb : SessionAtom → Prop} {c : UInt8} (hdi : ∀ a, base a → ¬ cb a)
    {t : KeyTerm SessionAtom S.Shared} (ht : t.Strand base cb c) : ¬ t.Spine base := by
  cases t with
  | atom a => exact fun h => hdi a h ht
  | mac | chain => exact id
  | root => exact ht.elim

lemma Leaked.cases_of_shaped (hs : (shaped K secret).Holds (s.schedule used))
    {t : KeyTerm SessionAtom S.Shared} (h : Leaked K s t) :
    (t = K.term s.rootKey ∧ t.Spine (· = .sessionRoot secret)) ∨
    (∃ c, t = K.term c ∧ IsChain K secret c ∧
      ((s.schedule used).sending = some c ∨ (s.schedule used).receiving = some c)) ∨
    ∃ i c, t = .mac (K.term c) messageKeySeed ∧
      s.skippedMessageKeys.lookup i = some (messageKeyAt c 0) := by
  cases h with
  | root => exact .inl ⟨rfl, hs.root⟩
  | @sending c h =>
    have hse : (s.schedule used).sending = some c.key := by
      simp [DoubleRatchetState.schedule, h]
    exact .inr (.inl ⟨c.key, rfl, hs.sending _ hse, .inl hse⟩)
  | @receiving c h =>
    have hre : (s.schedule used).receiving = some c.key := by
      simp [DoubleRatchetState.schedule, h]
    exact .inr (.inl ⟨c.key, rfl, hs.receiving _ hre, .inr hre⟩)
  | @skipped i k h =>
    obtain ⟨-, c, rfl, hc⟩ := hs.skipped i k h
    exact .inr (.inr ⟨i, c, by rw [messageKeyAt, K.term_hmac]; rfl, h⟩)

lemma sealed_used {ao : SessionAtom → Prop} {sh : S.Shared → Prop}
    (hl : Ledger K (s.schedule used)) (hs : (shaped K secret).Holds (s.schedule used))
    (hat : ∀ a, ao a → a ≠ .sessionRoot secret ∧ a ≠ .sessionChain secret)
    {k : S.Key} (hk : k ∈ used) : Sealed (Leaked K s) ao sh (K.term k) := by
  obtain ⟨c, rfl, hc⟩ := hs.used k hk
  obtain ⟨c', heq, hle, hse, hre⟩ := hl.used_issued _ hk
  obtain rfl := K.messageKeyAt_injective heq
  have hdi : ∀ a : SessionAtom, a = .sessionRoot secret → ¬ a = .sessionChain secret := by
    rintro a rfl h
    cases h
  rw [messageKeyAt, K.term_hmac]
  constructor
  · intro hla
    rcases hla.cases_of_shaped hs with ⟨-, hsp⟩ | ⟨d, hd, hch, -⟩ | ⟨i, d, hd, hlo⟩
    · exact hsp.elim
    · rw [IsChain, ← hd] at hch
      exact absurd hch.1 (by decide)
    · have hcd : c = d := K.term_injective (KeyTerm.mac.inj hd).1
      subst hcd
      exact hl.skipped_unused i _ hlo hk
  · apply sealed_strand (n := K.level s.rootKey) (fun a ha h => (hat a h).1 ha)
      (fun a ha h => (hat a h).2 ha) ?_ hc hle
    · intro u hu hst hul
      rcases hu.cases_of_shaped hs with ⟨-, hsp⟩ | ⟨d, rfl, -, hd | hd⟩ | ⟨i, d, rfl, -⟩
      · exact absurd hsp (not_spine_of_strand hdi hst)
      · exact hse d hd hul.symm
      · exact hre d hd hul.symm
      · exact absurd hst.1 (by decide)
    · intro u hu hsp
      rcases hu.cases_of_shaped hs with ⟨rfl, -⟩ | ⟨d, rfl, hd, -⟩ | ⟨i, d, rfl, -⟩
      · exact le_rfl
      · exact absurd hsp (not_spine_of_strand hdi hd)
      · exact hsp.elim

end

/-- Forward secrecy. Whatever happened on the network, the memory of a party and all messages, the
later ones too, do not give the key of any message the party has sent or accepted, to an attacker
with any scalars of its own and every key that does not come from the session's secret. -/
theorem forward_secrecy (K : S.SymbolicKdf) (config : HandshakeRole → Config) (secret : Bytes32)
    (w : World S) (hw : w.Matched config secret) (es later : List (Event S)) (p : HandshakeRole)
    (A : Attacker S) (hA : ∀ a, A.atoms a → a ≠ .sessionRoot secret ∧ a ≠ .sessionChain secret)
    (k : S.Key) (hk : k ∈ (w.run config es).usedKeys p) :
    (∀ m ∈ (w.run config (es ++ later)).sent, ∃ f, m.Reads f) ∧
    ¬ A.Learns K (w.run config (es ++ later)).sent ((w.run config es).session p) k := by
  refine ⟨World.reads_run config hw.sent _, ?_⟩
  have hshaped : (shaped K secret).Holds
      (((w.run config es).session p).schedule ((w.run config es).usedKeys p)) := by
    apply World.stable_run fun x => (shaped_closed K secret).stable trivial
    obtain ⟨a, -, b, -, clock, now, hs⟩ := hw.session_eq p
    rw [hs, hw.usedKeys_eq]
    exact shaped_initialState _ _ _ _ _ _ _ _
  intro hlearn
  exact hlearn.derivable.not_sealed (sealed_used (World.ledger_run K hw es p) hshaped hA hk)

theorem forward_secrecy_first :
    let w := (world false).run (fun _ => config false)
      [.encrypt .initiator (env 1000 3) [104, 105] [], .deliver 0 (env 1001 4)]
    let k : suite.Key := messageKeyAt (suite.hkdfSession secret).2 0
    k ∈ w.usedKeys .responder ∧ w.sent.length = 1 ∧
    (∀ m ∈ w.sent, ∃ f, m.Reads f) ∧
    ¬ Attacker.Learns ⟨fun _ => True, fun a => a ≠ .sessionRoot secret ∧
      a ≠ .sessionChain secret⟩ kdf w.sent (w.session .responder) k := by
  intro w k
  have hused : w.usedKeys .responder = [k] := by decide +kernel
  have hk : k ∈ w.usedKeys .responder := hused ▸ List.mem_singleton_self k
  have hsecret := forward_secrecy kdf _ secret (world false)
    (world_matched false) _ [] .responder ⟨fun _ => True, _⟩ (fun a ha => ha) k hk
  rw [List.append_nil] at hsecret
  exact ⟨hk, by decide +kernel, hsecret⟩

def Hidden (fresh : S.Scalar → Prop) (shared : S.Shared) : Prop :=
  ∃ x y, fresh x ∧ fresh y ∧ shared = S.diffieHellman x (S.publicKey y)

section
variable {K : S.SymbolicKdf} {P : S.Shared → Prop}

lemma all_chainAt {c : S.Key} (h : (K.term c).All P) : (K.term (chainAt c 1)).All P := by
  rwa [chainAt, K.term_hmac]

lemma all_messageKeyAt {c : S.Key} (h : (K.term c).All P) : (K.term (messageKeyAt c 0)).All P := by
  rwa [messageKeyAt, K.term_hmac]

lemma all_kdfRk {k : S.Key} {sh : S.Shared} (h : (K.term k).All P) (hs : P sh) :
    (K.term (kdfRk S k sh).1).All P ∧ (K.term (kdfRk S k sh).2).All P := by
  rw [kdfRk, K.term_ratchet_root, K.term_ratchet_chain]
  exact ⟨⟨h, hs⟩, ⟨h, hs⟩⟩

lemma any_chainAt (c : S.Key) : (K.term (chainAt c 1)).Any P ↔ (K.term c).Any P := by
  rw [chainAt, K.term_hmac]
  rfl

lemma any_messageKeyAt (c : S.Key) : (K.term (messageKeyAt c 0)).Any P ↔ (K.term c).Any P := by
  rw [messageKeyAt, K.term_hmac]
  rfl

lemma any_kdfRk {k : S.Key} (sh : S.Shared) (h : (K.term k).Any P ∨ P sh) :
    (K.term (kdfRk S k sh).1).Any P ∧ (K.term (kdfRk S k sh).2).Any P := by
  rw [kdfRk, K.term_ratchet_root, K.term_ratchet_chain]
  exact ⟨h, h⟩

end

def drawnKeys (K : S.SymbolicKdf) (drawn : S.Scalar → Prop) : KeyInvariant S :=
  let derived : S.Key → Prop := fun k =>
    (K.term k).All fun shared => ∃ x r, drawn x ∧ shared = S.diffieHellman x r
  { root := derived, chain := derived, message := derived, scalar := drawn,
    remote := fun _ => True }

lemma drawnKeys_closed (K : S.SymbolicKdf) (dr : S.Scalar → Prop) : (drawnKeys K dr).Closed where
  next := fun _ hc => ⟨all_chainAt hc, all_messageKeyAt hc⟩
  extract := fun _ a r hk ha => all_kdfRk hk ⟨a, r, ha, rfl⟩

lemma drawnKeys_mono {K : S.SymbolicKdf} {dr d' : S.Scalar → Prop} {v : KeySchedule S}
    (hm : ∀ a, dr a → d' a) (h : (drawnKeys K dr).Holds v) : (drawnKeys K d').Holds v := by
  have hal : ∀ {k : S.Key}, (drawnKeys K dr).root k → (drawnKeys K d').root k :=
    fun hk => KeyTerm.All.mono (fun _ hs => hs.imp fun x hr => hr.imp fun r hx =>
      ⟨hm x hx.1, hx.2⟩) hk
  exact ⟨hal h.root, fun c hc => hal (h.sending c hc), fun c hc => hal (h.receiving c hc),
    fun a ha => hm a (h.dhLocal a ha), fun _ _ => trivial,
    fun t k hk => ⟨trivial, hal (h.skipped t k hk).2⟩, fun k hk => hal (h.used k hk)⟩

structure Recovered (K : S.SymbolicKdf) (fresh : S.Scalar → Prop) (v : KeySchedule S) : Prop where
  root : (K.term v.rootKey).Any (Hidden fresh)
  sending : ∀ c, v.sending = some c → (K.term c).Any (Hidden fresh)

/-- A schedule has recovered as soon as it holds anything that came from a fresh ratchet key
of the peer, or from a peer that has recovered. -/
structure Healing (K : S.SymbolicKdf) (fresh : S.Scalar → Prop) (v : KeySchedule S) : Prop where
  dhRemote : ∀ y, v.dhRemote = some (S.publicKey y) → fresh y → Recovered K fresh v
  stashed : ∀ t k y, v.skipped.lookup t = some k → t.1 = S.publicKey y → fresh y →
    Recovered K fresh v
  receiving : ∀ c, v.receiving = some c → (K.term c).Any (Hidden fresh) → Recovered K fresh v
  skipped : ∀ t k, v.skipped.lookup t = some k → (K.term k).Any (Hidden fresh) →
    Recovered K fresh v

section
variable {K : S.SymbolicKdf} {fresh : S.Scalar → Prop} {v v' : KeySchedule S} {x : S.Scalar}

lemma Recovered.shift {ad : Option Bytes32} (hv : Shift x ad v v')
    (h : Recovered K fresh v) : Recovered K fresh v' := by
  cases hv with
  | stash | rekey => exact ⟨h.root, h.sending⟩
  | @ratchet a r ha hr =>
    have hro := any_kdfRk (S.diffieHellman a r) (.inl h.root)
    have hse := any_kdfRk (S.diffieHellman x r) (.inl hro.1)
    exact ⟨hse.1, by intro c hc; cases hc; exact hse.2⟩
  | @rotate r hr =>
    have hse := any_kdfRk (S.diffieHellman x r) (.inl h.root)
    exact ⟨hse.1, by intro c hc; cases hc; exact hse.2⟩

variable {k : S.Key}

lemma Recovered.consume {so : Option Bytes32} (hv : Consume k so v v')
    (h : Recovered K fresh v) : Recovered K fresh v' := by
  cases hv with
  | @send c _ hc hk =>
    refine ⟨h.root, ?_⟩
    rintro c' ⟨⟩
    exact (any_chainAt c).mpr (h.sending c hc)
  | accept | unstash => exact ⟨h.root, h.sending⟩

lemma Recovered.stable (K : S.SymbolicKdf) (fresh : S.Scalar → Prop) (x : S.Scalar) :
    Stable x (fun _ => True) (Recovered K fresh) where
  shift := fun _ hv h => h.shift hv
  consume := fun hv h => h.consume hv
  forget := fun _ h => ⟨h.root, h.sending⟩

lemma Recovered.of_ratchet {a : S.Scalar} {r : Bytes32}
    (h : (K.term v.rootKey).Any (Hidden fresh) ∨ Hidden fresh (S.diffieHellman a r) ∨
      Hidden fresh (S.diffieHellman x r)) : Recovered K fresh (v.ratchet a x r) := by
  have hse := any_kdfRk (K := K) (P := Hidden fresh)
    (k := (kdfRk S v.rootKey _).1) (S.diffieHellman x r) (by
      rcases h with h | h | h
      · exact .inl (any_kdfRk _ (.inl h)).1
      · exact .inl (any_kdfRk _ (.inr h)).1
      · exact .inr h)
  exact ⟨hse.1, by intro c hc; cases hc; exact hse.2⟩

lemma Healing.mono (h : Healing K fresh v) (hke : Recovered K fresh v → Recovered K fresh v')
    (hr : v'.dhRemote = v.dhRemote)
    (hre : ∀ c', v'.receiving = some c' → ∃ c, v.receiving = some c ∧
      ((K.term c').Any (Hidden fresh) → (K.term c).Any (Hidden fresh)))
    (hsk : ∀ t k, v'.skipped.lookup t = some k → v.skipped.lookup t = some k) :
    Healing K fresh v' where
  dhRemote := fun y hy hf => hke (h.dhRemote y (hr ▸ hy) hf)
  stashed := fun t k y hk hy hf => hke (h.stashed t k y (hsk t k hk) hy hf)
  receiving := by
    intro c' hc' han
    obtain ⟨c, hc, him⟩ := hre c' hc'
    exact hke (h.receiving c hc (him han))
  skipped := fun t k hk han => hke (h.skipped t k (hsk t k hk) han)

lemma Healing.shift {ad : Option Bytes32} (hx : fresh x) (hv : Shift x ad v v')
    (h : Healing K fresh v) : Healing K fresh v' := by
  have hke : Recovered K fresh v → Recovered K fresh v' := Recovered.shift hv
  cases hv with
  | @stash c r n hc hr =>
    refine ⟨fun y hy hf => hke (h.dhRemote y hy hf), ?_, ?_, ?_⟩
    · intro t k y hk hy hf
      rcases Maps.lookup_insert_some hk with ⟨rfl, -⟩ | ⟨-, ho⟩
      · exact hke (h.dhRemote y (hr.trans (congrArg some hy)) hf)
      · exact hke (h.stashed t k y ho hy hf)
    · intro c' hc' han
      cases hc'
      exact hke (h.receiving c hc ((any_chainAt c).mp han))
    · intro t k hk han
      rcases Maps.lookup_insert_some hk with ⟨-, rfl⟩ | ⟨-, ho⟩
      · exact hke (h.receiving c hc ((any_messageKeyAt c).mp han))
      · exact hke (h.skipped t k ho han)
  | @ratchet a r ha hr =>
    refine ⟨?_, fun t k y hk hy hf => hke (h.stashed t k y hk hy hf), ?_,
      fun t k hk han => hke (h.skipped t k hk han)⟩
    · intro y hy hf
      cases hy
      exact Recovered.of_ratchet (.inr (.inr ⟨x, y, hx, hf, rfl⟩))
    intro c hc han
    cases hc
    rw [kdfRk, K.term_ratchet_chain] at han
    exact Recovered.of_ratchet (han.imp_right .inl)
  | rotate | rekey => exact h.mono hke rfl (fun c hc => ⟨c, hc, id⟩) fun _ _ hk => hk

lemma Healing.consume {k : S.Key} {so : Option Bytes32} (hv : Consume k so v v')
    (h : Healing K fresh v) : Healing K fresh v' := by
  have hke : Recovered K fresh v → Recovered K fresh v' := Recovered.consume hv
  cases hv with
  | send => exact h.mono hke rfl (fun c hc => ⟨c, hc, id⟩) fun _ _ hk => hk
  | @accept c t _ _ hc hk =>
    refine h.mono hke rfl ?_ fun _ _ hk => (Maps.lookup_erase_some hk).2
    rintro c' ⟨⟩
    exact ⟨c, hc, (any_chainAt c).mp⟩
  | unstash =>
    exact h.mono hke rfl (fun c hc => ⟨c, hc, id⟩) fun _ _ hk => (Maps.lookup_erase_some hk).2

lemma Healing.stable (K : S.SymbolicKdf) (hx : fresh x) :
    Stable x (fun _ => True) (Healing K fresh) where
  shift := fun _ hv h => h.shift hx hv
  consume := fun hv h => h.consume hv
  forget := fun _ h => h.mono (fun h => ⟨h.root, h.sending⟩) rfl (fun c hc => ⟨c, hc, id⟩)
    fun _ _ hk => hk

lemma Healing.recovered_of_consume {r : Bytes32} (hv : Consume k (some r) v v')
    (h : Healing K fresh v) (hk : (K.term k).Any (Hidden fresh) ∨ ∃ y, fresh y ∧ r = S.publicKey y)
    : Recovered K fresh v' := by
  apply Recovered.consume hv
  cases hv with
  | send hs => cases hs
  | @accept c t hs hr hc hke =>
    cases hs
    rcases hk with han | ⟨y, hf, hy⟩
    · rw [hke] at han
      exact h.receiving c hc ((any_messageKeyAt c).mp han)
    · exact h.dhRemote y (hr.trans (congrArg some hy)) hf
  | @unstash t hs ht =>
    cases hs
    rcases hk with han | ⟨y, hf, hy⟩
    · exact h.skipped t k ht han
    · exact h.stashed t k y ht hy hf

lemma Recovered.any_of_send (hv : Consume k none v v') (h : Recovered K fresh v) :
    (K.term k).Any (Hidden fresh) := by
  cases hv with
  | @send c _ hc hk =>
    rw [hk]
    exact (any_messageKeyAt c).mpr (h.sending c hc)
  | accept t hs => cases hs
  | unstash hs => cases hs

end

namespace World
variable {K : S.SymbolicKdf} {fresh : S.Scalar → Prop} {config : HandshakeRole → Config}

structure Healed (K : S.SymbolicKdf) (fresh : S.Scalar → Prop) (w : World S) : Prop where
  healing : ∀ q, Healing K fresh ((w.session q).schedule (w.usedKeys q))
  accepted : ∀ a ∈ w.accepted, ((K.term a.decrypted.messageKey).Any (Hidden fresh) ∨
      ∃ y, fresh y ∧ a.decrypted.message.header.dhPublic = S.publicKey y) →
    Recovered K fresh ((w.session a.receiver).schedule (w.usedKeys a.receiver))

lemma healed_step (w : World S) (e : Event S) (h : w.Healed K fresh)
    (he : fresh e.env.newLocal) : (w.step config e).Healed K fresh := by
  have hk : ∀ q, Recovered K fresh ((w.session q).schedule (w.usedKeys q)) →
      Recovered K fresh (((w.step config e).session q).schedule _) :=
    fun q => stable_step (Recovered.stable K fresh _) (fun _ _ _ _ _ _ _ => trivial)
  refine ⟨fun q => stable_step (Healing.stable K he) (fun _ _ _ _ _ _ _ => trivial)
    (h.healing q), ?_⟩
  intro a ha han
  rcases mem_step_accepted ha with ha | ⟨me, ad, s, -, hd, hs⟩
  · exact hk _ (h.accepted a ha han)
  obtain ⟨v, hsh, hco⟩ := decryptMessage_schedule _ hd
  have hv := hsh.invariant (fun _ _ hsi hv => hv.shift he hsi) (h.healing a.receiver)
  have hre := hv.recovered_of_consume hco han
  rw [hs]
  exact ⟨hre.root, hre.sending⟩

variable {w : World S}

lemma recovered_sends {q : HandshakeRole}
    (h : Recovered K fresh ((w.session q).schedule (w.usedKeys q))) (es : List (Event S)) :
    ∀ m ∈ (w.run config es).sent.drop w.sent.length, m.sender = q →
    (K.term m.encrypted.slot.messageKey).Any (Hidden fresh) := by
  have hin : ∀ (w' : World S) (e : Event S),
      (Recovered K fresh ((w'.session q).schedule (w'.usedKeys q)) ∧
        w.sent.length ≤ w'.sent.length ∧
        ∀ m ∈ w'.sent.drop w.sent.length, m.sender = q →
          (K.term m.encrypted.slot.messageKey).Any (Hidden fresh)) →
      (Recovered K fresh (((w'.step config e).session q).schedule
          ((w'.step config e).usedKeys q)) ∧
        w.sent.length ≤ (w'.step config e).sent.length ∧
        ∀ m ∈ (w'.step config e).sent.drop w.sent.length, m.sender = q →
          (K.term m.encrypted.slot.messageKey).Any (Hidden fresh)) := by
    intro w' e ⟨hre, hl, hse⟩
    refine ⟨stable_step (Recovered.stable K fresh _) (fun _ _ _ _ _ _ _ => trivial) hre, ?_⟩
    rcases step_sent config w' e with hs | ⟨p, env, pt, ad, en, s, rfl, ho, hs, -⟩
    · simp_all
    rw [hs, List.length_append, List.drop_append_of_le_length hl]
    refine ⟨by omega, ?_⟩
    intro m hm hq
    rcases List.mem_append.mp hm with hm | hm
    · exact hse m hm hq
    obtain rfl := List.mem_singleton.mp hm
    obtain rfl := hq
    obtain ⟨v, hsh, hco⟩ := encryptMessage_schedule _ ho
    have hv := hsh.invariant (fun _ _ hsi hv => hv.shift hsi) hre
    exact hv.any_of_send hco
  exact (Runs.exec_invariant hin es ⟨h, le_rfl, by simp⟩).2.2

lemma drawnKeys_run (K : S.SymbolicKdf) {se : Bytes32} (hw : w.Matched config se)
    (es : List (Event S)) (q : HandshakeRole) :
    (drawnKeys K (· ∈ (w.run config es).scalars)).Holds
      (((w.run config es).session q).schedule ((w.run config es).usedKeys q)) := by
  apply Runs.exec_invariant (I := fun w : World S =>
    (drawnKeys K (· ∈ w.scalars)).Holds ((w.session q).schedule (w.usedKeys q)))
  · intro w e h
    refine stable_step ((drawnKeys_closed K (· ∈ (w.step config e).scalars)).stable ?_)
      (fun _ _ _ _ _ _ _ => trivial) (drawnKeys_mono (fun a ha => .tail _ ha) h)
    exact .head _
  · obtain ⟨a, ha, b, -, cl, now, hs⟩ := hw.session_eq q
    rw [hs, hw.usedKeys_eq]
    have hr : (drawnKeys K (· ∈ w.scalars)).root (S.hkdfSession se).1 := by
      change (K.term _).All _
      rw [K.term_session_root]
      trivial
    have hch : (drawnKeys K (· ∈ w.scalars)).chain (S.hkdfSession se).2 := by
      change (K.term _).All _
      rw [K.term_session_chain]
      trivial
    refine ⟨hr, ?sending, ?receiving, ?_, fun _ _ => trivial, ?_, ?_⟩
    case sending | receiving =>
      intro c hc
      cases q <;> simp [DoubleRatchetState.schedule, initialState, HandshakeRole.isInitiator,
        ChainKey.new] at hc
      exact hc ▸ hch
    · rintro a' ⟨⟩
      exact ha
    · intro t k hk
      simp [DoubleRatchetState.schedule, initialState] at hk
    · intro k hk
      simp [DoubleRatchetState.schedule] at hk

lemma authentic_run (hA : S.CorrectAead) {se : Bytes32} (hw : w.Matched config se)
    (es : List (Event S)) :
    (∀ m ∈ (w.run config es).sent, Authentic m.encrypted.slot.messageKey
      m.encrypted.message.ciphertext m.plaintext) ∧
    ∀ a ∈ (w.run config es).accepted, Authentic a.decrypted.messageKey
      a.decrypted.message.ciphertext a.decrypted.plaintext := by
  apply Runs.exec_invariant (I := fun w : World S =>
    (∀ m ∈ w.sent, Authentic m.encrypted.slot.messageKey m.encrypted.message.ciphertext
      m.plaintext) ∧
    ∀ a ∈ w.accepted, Authentic a.decrypted.messageKey a.decrypted.message.ciphertext
      a.decrypted.plaintext)
  · intro w e ⟨hs, ha⟩
    constructor
    · intro m hm
      rcases mem_step_sent hm with hm | ⟨env, s, -, ho, -⟩
      · exact hs m hm
      · exact encryptMessage_authentic hA ho
    · intro a hme
      rcases mem_step_accepted hme with hme | ⟨me, ad, s, -, hd, -⟩
      · exact ha a hme
      · exact (decryptMessage_authentic hd).1
  · simp [hw.sent, hw.accepted]

/-- A message is opened under the key it was sealed under. -/
lemma accepted_key_eq (hA : S.CorrectAead) (hC : S.CommittingAead) {se : Bytes32}
    (hw : w.Matched config se) {es : List (Event S)} {m : Sent S}
    (hm : m ∈ (w.run config es).sent) {a : Accepted S} (ha : a ∈ (w.run config es).accepted)
    (hme : a.decrypted.message = m.encrypted.message) :
    a.decrypted.messageKey = m.encrypted.slot.messageKey := by
  obtain ⟨hs, hr⟩ := authentic_run hA hw es
  have hau := hr a ha
  rw [hme] at hau
  exact hau.key_unique hC (hs m hm)

/-- A scalar that is new at the leak was drawn in `es`. -/
lemma recovered_of_fresh (D : S.SymbolicDh) {es : List (Event S)}
    (h : (w.run config es).Healed K fresh) (ho : (w.run config es).Honest) {y : S.Scalar}
    (hy : y ∉ w.scalars) (hn : ∀ e ∈ es, e.env.newLocal ∉ w.scalars → fresh e.env.newLocal)
    {a : Accepted S} (ha : a ∈ (w.run config es).accepted)
    (hdh : a.decrypted.message.header.dhPublic = S.publicKey y) :
    Recovered K fresh (((w.run config es).session a.receiver).schedule
      ((w.run config es).usedKeys a.receiver)) := by
  obtain ⟨b, hb, hdh'⟩ := ho.accepted a ha
  obtain rfl := D.publicKey_injective (hdh.symm.trans hdh')
  rcases mem_run_scalars hb with hb | ⟨e, he, rfl⟩
  · exact absurd hb hy
  · exact h.accepted a ha (.inr ⟨_, hn e he hy, hdh⟩)

section
variable (D : S.SymbolicDh) {w : World S} (hfresh : ∀ x, fresh x → x ∉ w.scalars)
include D hfresh

lemma not_any_hidden {k : S.Key} (hk : (drawnKeys K (· ∈ w.scalars)).root k) :
    ¬ (K.term k).Any (Hidden fresh) := by
  refine KeyTerm.All.not_any ?_ hk
  rintro sh ⟨x, r, hx, rfl⟩ ⟨a, b, ha, hb, heq⟩
  rcases D.scalar_mem heq with rfl | rfl
  · exact hfresh _ ha hx
  · exact hfresh _ hb hx

variable
  (hdrawn : ∀ q, (drawnKeys K (· ∈ w.scalars)).Holds ((w.session q).schedule (w.usedKeys q)))
include hdrawn

lemma healed_at_leak (h : w.Honest) : w.Healed K fresh := by
  have hr : ∀ {y : S.Scalar} {r : Bytes32}, (∃ b, b ∈ w.scalars ∧ r = S.publicKey b) →
      r = S.publicKey y → ¬ fresh y := by
    rintro y r ⟨b, hb, rfl⟩ heq hy
    exact hfresh y hy (D.publicKey_injective heq ▸ hb)
  refine ⟨fun q => ⟨?_, ?_, ?_, ?_⟩, ?_⟩
  · intro y hy hf
    exact absurd hf (hr ((h.keys q).dhRemote _ hy) rfl)
  · intro t k y hk hy hf
    exact absurd hf (hr ((h.keys q).skipped t k hk).1 hy)
  · intro c hc han
    exact absurd han (not_any_hidden D hfresh ((hdrawn q).receiving c hc))
  · intro t k hk han
    exact absurd han (not_any_hidden D hfresh ((hdrawn q).skipped t k hk).2)
  rintro a ha (han | ⟨y, hf, hy⟩)
  · have hu := mem_usedKeys.mpr (.inr ⟨a, ha, rfl, rfl⟩)
    exact absurd han (not_any_hidden D hfresh ((hdrawn _).used _ hu))
  · exact absurd hf (hr (h.accepted a ha) hy)

lemma healed_run {config : HandshakeRole → Config}
    (ho : ∀ p, (config p).enableHeaderEncryption = false) (h : w.Honest) {es : List (Event S)}
    (hes : Runs.Guarded (step config) Passive w es)
    (hn : ∀ e ∈ es, e.env.newLocal ∉ w.scalars → fresh e.env.newLocal) :
    (w.run config es).Healed K fresh ∧ (w.run config es).Honest := by
  have hin : (w.run config es).Healed K fresh ∧ (w.run config es).Honest ∧
      ∀ x ∈ w.scalars, x ∈ (w.run config es).scalars := by
    apply (hes.and_mem hn).invariant
      (I := fun w' => w'.Healed K fresh ∧ w'.Honest ∧ ∀ x ∈ w.scalars, x ∈ w'.scalars)
    · intro w' e ⟨hhe, hho, hsu⟩ ⟨hpa, hn⟩
      refine ⟨healed_step w' e hhe (hn fun hx => hpa.2 (hsu _ hx)), honest_step ho w' e hho hpa, ?_⟩
      intro x hx
      exact .tail _ (hsu x hx)
    · exact ⟨healed_at_leak D hfresh hdrawn h, h, fun x hx => hx⟩
  exact ⟨hin.1, hin.2.1⟩

lemma not_learns {A : Attacker S} (hat : ∀ x, fresh x → ¬ A.scalars x) {p : HandshakeRole}
    {sent : List (Sent S)} {k : S.Key} (hk : (K.term k).Any (Hidden fresh)) :
    ¬ A.Learns K sent (w.session p) k := by
  intro hl
  refine hl.derivable.not_sealed (sealed_of_any ?_ ?_ hk)
  · intro t ht
    cases ht with
    | root => exact not_any_hidden D hfresh (hdrawn p).root
    | @sending c h =>
      exact not_any_hidden D hfresh
        ((hdrawn p).sending c.key (by simp [DoubleRatchetState.schedule, h]))
    | @receiving c h =>
      exact not_any_hidden D hfresh
        ((hdrawn p).receiving c.key (by simp [DoubleRatchetState.schedule, h]))
    | skipped h => exact not_any_hidden D hfresh ((hdrawn p).skipped _ _ h).2
  · rintro sh ⟨a, b, ha, hb, rfl⟩ ⟨x, r, hx, heq⟩
    have hfx : fresh x := by
      rcases D.scalar_mem heq.symm with rfl | rfl
      · exact ha
      · exact hb
    rcases hx with hx | hx
    · exact hat x hfx hx
    · exact hfresh x hfx ((hdrawn p).dhLocal x hx)

end

end World

/-- Post-compromise security. The memory of `p` leaks after `es₁`. Once `p` has accepted, in
`es₂`, a message with a ratchet key drawn after the leak, what `p` sends in `es₃` is out of the
attacker's reach, and so is what its peer sends in `es₄` after it has accepted one of those
messages. The attacker sees all messages and may know every key of every session secret. -/
theorem post_compromise_security (K : S.SymbolicKdf) (D : S.SymbolicDh) (hA : S.CorrectAead)
    (hC : S.CommittingAead) (config : HandshakeRole → Config)
    (hoff : ∀ p, (config p).enableHeaderEncryption = false) (secret : Bytes32) (w₀ : World S)
    (hw₀ : w₀.Matched config secret) (es₁ es₂ es₃ es₄ : List (Event S))
    (hrun : Runs.Guarded (World.step config) World.Passive w₀ (es₁ ++ (es₂ ++ (es₃ ++ es₄))))
    (p : HandshakeRole) (A : Attacker S)
    (hscalars : ∀ e ∈ es₂ ++ (es₃ ++ es₄), ¬ A.scalars e.env.newLocal) (y : S.Scalar)
    (hy : y ∉ (w₀.run config es₁).scalars)
    (haccepted : ∃ a ∈ (w₀.run config (es₁ ++ es₂)).accepted, a.receiver = p ∧
      a.decrypted.message.header.dhPublic = S.publicKey y) :
    let w₁ := w₀.run config es₁
    let w₂ := w₁.run config es₂
    let w₃ := w₂.run config es₃
    let w₄ := w₃.run config es₄
    (∀ m ∈ w₄.sent, ∃ f, m.Reads f) ∧
    (∀ m ∈ w₃.sent.drop w₂.sent.length, m.sender = p →
      ¬ A.Learns K w₄.sent (w₁.session p) m.encrypted.slot.messageKey) ∧
    (∀ m ∈ w₃.sent.drop w₂.sent.length, m.sender = p →
      (∃ a ∈ w₃.accepted, a.receiver = p.peer ∧
        a.decrypted.message = m.encrypted.message) →
      ∀ m' ∈ w₄.sent.drop w₃.sent.length, m'.sender = p.peer →
        ¬ A.Learns K w₄.sent (w₁.session p) m'.encrypted.slot.messageKey) := by
  intro w₁ w₂ w₃ w₄
  refine ⟨?_, ?_⟩
  · have hreads := World.reads_run config hw₀.sent (es₁ ++ (es₂ ++ (es₃ ++ es₄)))
    rwa [World.run, Runs.exec_append, Runs.exec_append, Runs.exec_append] at hreads
  obtain ⟨hrun₁, hlater⟩ := Runs.guarded_append.mp hrun
  have hhonest : w₁.Honest := hrun₁.invariant (World.honest_step hoff) (World.honest_matched hw₀)
  have hdrawn := World.drawnKeys_run K hw₀ es₁
  -- the scalars the attacker does not have
  let fresh : S.Scalar → Prop := fun x => x ∉ w₁.scalars ∧ ¬ A.scalars x
  have hfresh : ∀ x, fresh x → x ∉ w₁.scalars := fun x hx => hx.1
  have hhealed : ∀ es : List (Event S), Runs.Guarded (World.step config) World.Passive w₁ es →
      (∀ e ∈ es, ¬ A.scalars e.env.newLocal) →
      (w₁.run config es).Healed K fresh ∧ (w₁.run config es).Honest :=
    fun es hes hmem => World.healed_run D hfresh hdrawn hoff hhonest hes
      fun e he hx => ⟨hx, hmem e he⟩
  obtain ⟨hrun₂, hlater₃⟩ := Runs.guarded_append.mp hlater
  obtain ⟨hrun₃, -⟩ := Runs.guarded_append.mp hlater₃
  have hnot : ∀ x, fresh x → ¬ A.scalars x := fun x hx => hx.2
  -- `p` has recovered at the end of `es₂`
  obtain ⟨hhealed₂, hhonest₂⟩ := hhealed es₂ hrun₂ fun e he =>
    hscalars e (List.mem_append_left _ he)
  have hrec : Recovered K fresh ((w₂.session p).schedule (w₂.usedKeys p)) := by
    obtain ⟨a, ha, rfl, hdh⟩ := haccepted
    rw [World.run, Runs.exec_append] at ha
    exact World.recovered_of_fresh D hhealed₂ hhonest₂ hy
      (fun e he hx => ⟨hx, hscalars e (List.mem_append_left _ he)⟩) ha hdh
  have hsends : ∀ m ∈ w₃.sent.drop w₂.sent.length, m.sender = p →
      (K.term m.encrypted.slot.messageKey).Any _ := World.recovered_sends hrec es₃
  refine ⟨fun m hm hp => World.not_learns D hfresh hdrawn hnot (hsends m hm hp), ?_⟩
  intro m hm hp ⟨a, ha, hpeer, hmsg⟩ m' hm' hp'
  -- the peer used the key the message was sealed under
  have hw₃ : w₀.run config (es₁ ++ (es₂ ++ es₃)) = w₃ := by
    rw [World.run, Runs.exec_append, Runs.exec_append]
  have hkey := World.accepted_key_eq hA hC hw₀ (hw₃ ▸ List.mem_of_mem_drop hm)
    (hw₃ ▸ ha) hmsg
  obtain ⟨hhealed₃, -⟩ := hhealed _ (Runs.guarded_append.mpr ⟨hrun₂, hrun₃⟩)
    fun e he => hscalars e (by
      rcases List.mem_append.mp he with he | he
      · exact List.mem_append_left _ he
      · exact List.mem_append_right _ (List.mem_append_left _ he))
  rw [World.run, Runs.exec_append] at hhealed₃
  have hrec' := hhealed₃.accepted a ha (.inl (hkey ▸ hsends m hm hp))
  rw [hpeer] at hrec'
  exact World.not_learns D hfresh hdrawn hnot
    (World.recovered_sends hrec' es₄ m' hm' hp')

theorem post_compromise_first_exchange :
    let config : HandshakeRole → Config := fun _ => config false
    let w₁ := world false
    let w₂ := w₁.run config
      [.encrypt .responder (env 1000 3) [1] [], .deliver 0 (env 1001 4)]
    let w₃ := w₂.run config
      [.encrypt .initiator (env 1002 5) [2] [], .deliver 1 (env 1003 6)]
    let w₄ := w₃.run config [.encrypt .responder (env 1004 7) [3] []]
    let A : Attacker suite := ⟨fun x => x ∈ w₁.scalars, fun _ => True⟩
    (w₃.sent.drop w₂.sent.length).map Sent.sender = [.initiator] ∧
    (w₄.sent.drop w₃.sent.length).map Sent.sender = [.responder] ∧
    (∀ m ∈ w₄.sent, ∃ f, m.Reads f) ∧
    (∀ m ∈ w₃.sent.drop w₂.sent.length,
      ¬ A.Learns kdf w₄.sent (w₁.session .initiator) m.encrypted.slot.messageKey) ∧
    ∀ m ∈ w₄.sent.drop w₃.sent.length,
      ¬ A.Learns kdf w₄.sent (w₁.session .initiator) m.encrypted.slot.messageKey := by
  intro config w₁ w₂ w₃ w₄ A
  have hrun : Runs.Guarded (World.step config) World.Passive w₁
      ([] ++ ([.encrypt .responder (env 1000 3) [1] [],
        .deliver 0 (env 1001 4)] ++
      ([.encrypt .initiator (env 1002 5) [2] [], .deliver 1 (env 1003 6)] ++
        [.encrypt .responder (env 1004 7) [3] []]))) := by decide +kernel
  obtain ⟨hreads, hfirst, hsecond⟩ := post_compromise_security kdf dh
    correctAead committingAead config (fun _ => rfl) secret w₁
    (world_matched false) _ _ _ _ hrun .initiator A (by decide +kernel)
    (scalar 3) (by decide +kernel) (by decide +kernel)
  obtain ⟨hsent, hsent', m, hm, hsender, haccepted⟩ :
      (w₃.sent.drop w₂.sent.length).map Sent.sender = [.initiator] ∧
      (w₄.sent.drop w₃.sent.length).map Sent.sender = [.responder] ∧
      ∃ m ∈ w₃.sent.drop w₂.sent.length, m.sender = .initiator ∧
        ∃ a ∈ w₃.accepted, a.receiver = .responder ∧
          a.decrypted.message = m.encrypted.message := by
    decide +kernel
  have hby {l : List (Sent suite)} {q : HandshakeRole} (hl : l.map Sent.sender = [q])
      {m : Sent suite} (hm : m ∈ l) : m.sender = q := by
    have hmem := List.mem_map_of_mem (f := Sent.sender) hm
    rw [hl] at hmem
    exact List.mem_singleton.mp hmem
  refine ⟨hsent, hsent', hreads, ?_, ?_⟩
  · intro m' hm'
    exact hfirst m' hm' (hby hsent hm')
  · intro m' hm'
    exact hsecond m hm hsender haccepted m' hm' (hby hsent' hm')

end Sibna
