import Sibna.InStep.Runs

/-!
# Rotation, loss and reordering

Without header encryption, and as long as no chain outlives its limits, whatever a receiver misses
when it leaves a chain is set aside.
-/

namespace Sibna.World

open DoubleRatchetSession KeyAlgebra

variable {S : Suite} {w : World S}

lemma messageKeyAt_kdfRk_inj (K : S.SymbolicKdf) {k k' : S.Key} {s s' : S.Shared} {n : Nat}
    (h : messageKeyAt (chainAt (kdfRk S k s).2 n) 0 = messageKeyAt (kdfRk S k' s').2 0) :
    k = k' := by
  have hch := congrArg K.term (K.messageKeyAt_injective h)
  simp only [kdfRk, K.term_ratchet_chain] at hch
  cases n with
  | zero =>
    simp only [chainAt, K.term_ratchet_chain, KeyTerm.chain.injEq] at hch
    exact K.term_injective hch.1
  | succ n =>
    simp only [chainAt, K.term_hmac] at hch
    cases hch

lemma needsRatchet_of_unseen {t : DoubleRatchetState S} {x : S.Scalar} (h : Unseen t x) :
    needsRatchet t (S.publicKey x) = true := by
  cases hr : t.dhRemote with
  | none => simp [needsRatchet, hr]
  | some r =>
    apply needsRatchet_of_ne hr
    intro heq
    exact h.remote (heq ▸ hr)

lemma rotated_slot {env : Env S} {s s₁ : DoubleRatchetState S} {slot : SendKey S} {r : Bytes32}
    (hr : s.dhRemote = some r) (hro : mustRotate env s = true)
    (h : takeSendKey env s = (.ok slot, s₁)) : slot.dhPub = S.publicKey env.newLocal ∧
    slot.messageKey = messageKeyAt (kdfRk S s.rootKey (S.diffieHellman env.newLocal r)).2 0 := by
  obtain ⟨a, c, ha, hc, -, -, rfl, -⟩ := takeSendKey_ok h
  rw [rotateIfNeeded, if_pos hro, performDhRatchet_some hr] at ha hc
  cases ha
  cases hc
  exact ⟨rfl, rfl⟩

lemma rotated_message_refused (K : S.SymbolicKdf) (D : S.SymbolicDh) (hA : S.CorrectAead)
    (hC : S.CommittingAead) {co : HandshakeRole → Config}
    (hof : ∀ p, (co p).enableHeaderEncryption = false) (hw : w.InStep) (hh : w.Honest)
    {p : HandshakeRole} {env : Env S} {pl ad : Bytes} {sent : Encrypted S}
    {s' : DoubleRatchetState S} (hx : env.newLocal ∉ w.scalars)
    (hro : mustRotate env (w.session p) = true)
    (ho : encryptMessage (co p) env (w.session p) pl ad = (.ok sent, s'))
    (hne : (w.session p).rootKey ≠ (w.session p.peer).rootKey) (env' : Env S) (ad' : Bytes) :
    ∃ e, (decrypt (co p.peer) env' (w.session p.peer) sent.wire ad').1 = .error e := by
  obtain ⟨r, hr⟩ := hw.phase.dhRemote p
  obtain ⟨s₁, hta, hb, hf, -⟩ := encryptMessage_ok ho
  obtain ⟨hdh, hk⟩ := rotated_slot hr hro hta
  obtain ⟨ts, -, hhe, -⟩ := buildMessage_ok hb
  have hg := Genuine.of_buildMessage hb
  have hu := hh.unseen D hx p.peer
  have he : sent.message.header.dhPublic = S.publicKey env.newLocal := by
    rwa [hhe]
  cases hd : decryptMessage (co p.peer) env' (w.session p.peer) sent.wire ad' with
  | mk res t' =>
    cases res with
    | error e => exact ⟨e, by rw [decrypt, hd]; rfl⟩
    | ok d =>
      exfalso
      obtain ⟨hau, hp⟩ := decryptMessage_authentic hd
      have hsa : d.messageKey = sent.slot.messageKey := by
        refine hau.key_eq hC (hg.authentic hA) (parseMessage_ciphertext hp) (.inl ?_)
        rw [frameMessage_plain (hof p) hf]
        simp [RatchetMessage.toBytes, headerSize]
      rw [parseMessage_plain (hof _), frameMessage_plain (hof p) hf] at hp
      have hl := (RatchetMessage.fromBytes_toBytes_dhPublic hp).trans he
      obtain ⟨m, hm, hpa⟩ := decryptMessage_ok hd
      rcases decryptParsed_ok hpa with
        ⟨mk, hmk, hop⟩ | ⟨t₁, c, t₂, hal, hc, -, -, hop, -⟩
      · obtain ⟨rfl, -, -, -⟩ := openMessage_ok hop
        rw [RatchetHeader.tag, hl, hu.absent] at hmk
        cases hmk
      obtain ⟨rfl, hdk, -, -⟩ := openMessage_ok hop
      rcases alignReceiving_frame hal with ⟨-, hn⟩ | htu
      · rw [hl, needsRatchet_of_unseen hu] at hn
        cases hn
      obtain ⟨b, n, -, hre⟩ := htu.receiving
      cases hc.symm.trans hre
      rw [hdk, hk] at hsa
      exact hne (messageKeyAt_kdfRk_inj K hsa).symm

/-- In every run in which each rotation happens while the two root keys are equal, and each
message is delivered in time and after what its header does not announce, the first delivery
of every message, those after a rotation included, returns its plaintext. After such a run a
rotation from unequal root keys makes a message that the peer refuses. -/
theorem rotation_delivery_decrypts (K : S.SymbolicKdf) (D : S.SymbolicDh) (hA : S.CorrectAead)
    (hC : S.CommittingAead) (config : HandshakeRole → Config)
    (hoff : ∀ p, (config p).enableHeaderEncryption = false) (secret : Bytes32) (w : World S)
    (hw : w.Matched config secret) (es : List (Event S))
    (hes : Runs.Guarded (step config) Aligned w es) :
    (∀ i env m, (w.run config es).sent[i]? = some m → i ∉ (w.run config es).delivered →
      (w.run config es).Aligned (.deliver i env) →
        (w.run config es).delivery config i env = some (.ok m.plaintext)) ∧
    ∀ p env plaintext ad sent s', env.newLocal ∉ (w.run config es).scalars →
      mustRotate env ((w.run config es).session p) = true →
      encryptMessage (config p) env ((w.run config es).session p) plaintext ad = (.ok sent, s') →
      ((w.run config es).session p).rootKey ≠ ((w.run config es).session p.peer).rootKey →
        ∀ env' ad', ∃ e, (decrypt (config p.peer) env' ((w.run config es).session p.peer)
          sent.wire ad').1 = .error e := by
  have hrun :=
    hes.invariant (I := fun w : World S => w.Sync K) (sync_step D hA hC hoff) (sync_matched K hw)
  constructor
  · intro i env m hm hi hdel
    exact hrun.delivery D hA hoff hdel hm hi
  · intro p env plaintext ad sent s' hx hrot ho hne env' ad'
    exact rotated_message_refused K D hA hC hoff hrun.inStep hrun.honest hx hrot ho hne env' ad'

open Symbolic

theorem rotation_first_chain_decrypts :
    let config := fun _ : HandshakeRole => config false
    let es : List (Event suite) :=
      [.encrypt .initiator (env 1000 3) [10] [], .deliver 0 (env 1001 4),
        .encrypt .initiator (env 90000 5) [11] []]
    Runs.Guarded (step config) Aligned (world false) es ∧
    ((world false).run config es).sent.map (fun m => m.encrypted.slot.rotated) =
      [false, true] ∧
    ((world false).run config es).delivery config 1 (env 90001 6) =
      some (.ok [11]) := by
  intro config es
  have hes : Runs.Guarded (step config) Aligned (world false) es := by decide +kernel
  refine ⟨hes, by decide +kernel, ?_⟩
  have hm : ((world false).run config es).sent[1]?.map Sent.plaintext = some [11] := by
    decide +kernel
  obtain ⟨m, hm, hplain⟩ := Option.map_eq_some_iff.mp hm
  rw [← hplain]
  exact (rotation_delivery_decrypts kdf dh correctAead
    committingAead config (fun _ => rfl) secret _ (world_matched false)
    es hes).1 1 _ m hm (by decide +kernel) (by decide +kernel)

/-- One message in each direction, both received, and one more of the initiator on the chain
it then made, received as well. A day later the initiator's chain needs rotation; the message
it sends is not authentic for the responder. -/
theorem rotation_after_exchange_refused :
    let config := fun _ : HandshakeRole => config false
    let es : List (Event suite) :=
      [.encrypt .initiator (env 1000 3) [10] [], .deliver 0 (env 1001 4),
        .encrypt .responder (env 1002 5) [20] [], .deliver 1 (env 1003 6),
        .encrypt .initiator (env 1004 7) [11] [], .deliver 2 (env 1005 8)]
    let w := (world false).run config es
    let rotation := env 90000 9
    w.sent.length = 3 ∧ w.accepted.length = 3 ∧
    (w.session .initiator).sendingChain.map
      (fun c => c.needsRotation (rotation.clock.read .rotation)) = some true ∧
    (w.step config (.encrypt .initiator rotation [12] [])).delivery config 3
      (env 90001 10) = some (.error .authenticationFailed) := by
  decide +kernel

/-- Random scalars are new, no sending chain is used beyond its limits of number and age, no
delivery overflows the sum of its receiver, and each first delivery is inside the timestamp
windows and leaves the cache within `max_skip`.
Plaintexts and associated data are not restricted: what `encrypt` refuses is not sent. -/
def Orderly (w : World S) : Event S → Prop
  | .encrypt p env _ _ => env.newLocal ∉ w.scalars ∧
      ∀ c ∈ (w.session p).sendingChain, c.needsRotation (env.clock.read .rotation) = false
  | .deliver i env => env.newLocal ∉ w.scalars ∧
      ∀ m ∈ w.sent[i]?, SumFits (w.session m.sender.peer) ∧
        (i ∉ w.delivered → w.Deliverable env m)
  | .inject _ _ _ _ => False

instance [DecidableEq S.Scalar] (w : World S) : (e : Event S) → Decidable (w.Orderly e)
  | .encrypt .. => inferInstanceAs (Decidable (_ ∧ ∀ c ∈ _, _))
  | .deliver .. => inferInstanceAs (Decidable (_ ∧ ∀ m ∈ _, _ ∧ (_ → _)))
  | .inject .. => instDecidableFalse

structure Covering (w : World S) : Prop where
  current : ∀ m ∈ w.sent, ∀ a, (w.session m.sender).dhLocal = some a →
    m.header.dhPublic = S.publicKey a →
      m.header.previousChainLength = (w.session m.sender).previousCounter
  previous : ∀ m ∈ w.sent, ∀ a, (w.session m.sender).dhLocal = some a →
    (w.session m.sender.peer).dhRemote ≠ some (S.publicKey a) →
    (w.session m.sender.peer).dhRemote = some m.header.dhPublic →
      m.header.messageNumber < (w.session m.sender).previousCounter
  opened : ∀ p, (w.session p).sendingChain = none →
    (w.session p).rootKey = (w.session p.peer).rootKey ∧ (w.session p.peer).sendingChain ≠ none

section
variable {env : Env S} {s : DoubleRatchetState S} {plaintext ad : Bytes}

lemma mustRotate_of_chain
    (h : ∀ c ∈ s.sendingChain, c.needsRotation (env.clock.read .rotation) = false)
    (hr : mustRotate env s = true) : s.sendingChain = none := by
  cases hc : s.sendingChain with
  | none => rfl
  | some c =>
    rw [mustRotate, hc, Option.map_some, Option.getD_some, h c hc] at hr
    cases hr

lemma Covering.announces (hco : w.Covering) (hw : w.InStep) {i : Nat} {m : Sent S}
    (hm : w.sent[i]? = some m) (hi : i ∉ w.delivered) : w.Announces m := by
  intro hn hno e he hu hse hr
  cases hw.pending i m hm hi with
  | held hh =>
    rw [Held, hno] at hh
    cases hh
  | due hd =>
    rw [needsRatchet_self hd.remote] at hn
    cases hn
  | @coming r b x hc hl hdh =>
    have hme : e.1 ∈ w.sent := List.mem_of_getElem? (List.mem_zipIdx_iff_getElem?.mp he)
    rw [hco.current m (List.mem_of_getElem? hm) x hl hdh, ← hse]
    rw [← hse] at hl hr hc
    refine hco.previous e.1 hme x hl ?_ hr
    rw [hc.remote, ← hdh]
    exact fun heq => hc.remote_ne (Option.some.inj heq)

lemma Covering.aligned (hco : w.Covering) (hw : w.InStep) {e : Event S} (he : w.Orderly e) :
    w.Aligned e := by
  cases e with
  | encrypt p env plaintext ad =>
    exact ⟨he.1, fun hr => (hco.opened p (mustRotate_of_chain he.2 hr)).1⟩
  | deliver i env =>
    refine ⟨he.1, fun m hm => ?_⟩
    obtain ⟨hsu, hde⟩ := he.2 m hm
    exact ⟨hsu, fun hi => ⟨hde hi, hco.announces hw hm hi⟩⟩
  | inject p env me ad => exact he

lemma encryptMessage_cases {co : Config} {s' : DoubleRatchetState S}
    {res : Except ProtocolError (Encrypted S)} {r : Bytes32}
    (hl : ∀ c ∈ s.sendingChain, c.needsRotation (env.clock.read .rotation) = false)
    (hr : s.dhRemote = some r) (h : encryptMessage co env s plaintext ad = (res, s')) :
    s'.previousCounter = s.previousCounter ∧ s'.dhRemote = s.dhRemote ∧
    ((s'.dhLocal = s.dhLocal ∧ s'.rootKey = s.rootKey ∧
        (s'.sendingChain = none → s.sendingChain = none)) ∨
      (s.sendingChain = none ∧ s'.dhLocal = some env.newLocal ∧ s'.sendingChain ≠ none)) := by
  rcases encryptMessage_frame h with rfl | ⟨se, a, sent, rfl, hs⟩
  · exact ⟨rfl, rfl, .inl ⟨rfl, rfl, id⟩⟩
  refine ⟨rotateIfNeeded_previousCounter env s, rotateIfNeeded_dhRemote env s, ?_⟩
  have hn : se = none → (rotateIfNeeded env s).sendingChain = none := by
    intro h
    rcases hs with hsa | ⟨c, -, -, hso⟩
    · exact hsa.symm.trans h
    · simp [h] at hso
  cases hrt : mustRotate env s with
  | false =>
    rw [rotateIfNeeded_of_not hrt] at hn ⊢
    exact .inl ⟨rfl, rfl, hn⟩
  | true =>
    refine .inr ⟨mustRotate_of_chain hl hrt, rotateIfNeeded_dhLocal hrt, ?_⟩
    intro hse
    have hro := hn hse
    rw [rotateIfNeeded, if_pos hrt, performDhRatchet_some hr] at hro
    cases hro

lemma encryptMessage_announces {co : Config} {s' : DoubleRatchetState S} {m : Encrypted S}
    (h : encryptMessage co env s plaintext ad = (.ok m, s')) :
    m.message.header.previousChainLength = s.previousCounter := by
  obtain ⟨s₁, hta, hb, -, -⟩ := encryptMessage_ok h
  obtain ⟨a, c, -, -, -, -, -, rfl⟩ := takeSendKey_ok hta
  obtain ⟨ts, -, hh, -⟩ := buildMessage_ok hb
  rw [hh]
  exact rotateIfNeeded_previousCounter env _

structure Sends (w w' : World S) (p : HandshakeRole) (env : Env S) : Prop where
  peer : w'.session p.peer = w.session p.peer
  counter : (w'.session p).previousCounter = (w.session p).previousCounter
  remote : (w'.session p).dhRemote = (w.session p).dhRemote
  sent : ∀ m ∈ w'.sent, m ∈ w.sent ∨ (m.sender = p ∧
    m.header.previousChainLength = (w.session p).previousCounter ∧
    ∃ a, (w'.session p).dhLocal = some a ∧ m.header.dhPublic = S.publicKey a)
  ratchet : ((w'.session p).dhLocal = (w.session p).dhLocal ∧
      (w'.session p).rootKey = (w.session p).rootKey ∧
      ((w'.session p).sendingChain = none → (w.session p).sendingChain = none)) ∨
    ((w.session p).sendingChain = none ∧ (w'.session p).dhLocal = some env.newLocal ∧
      (w'.session p).sendingChain ≠ none)

lemma sends_step (co : HandshakeRole → Config) (hw : w.InStep) {p : HandshakeRole}
    (he : w.Orderly (.encrypt p env plaintext ad)) :
    Sends w (w.step co (.encrypt p env plaintext ad)) p env := by
  generalize ho : encryptMessage (co p) env (w.session p) plaintext ad = o
  obtain ⟨res, s'⟩ := o
  have hse : (w.step co (.encrypt p env plaintext ad)).session p = s' :=
    (send_session_self ..).trans (congrArg Prod.snd ho)
  obtain ⟨r, hr⟩ := hw.phase.dhRemote p
  obtain ⟨hco, hre, hca⟩ := encryptMessage_cases he.2 hr ho
  rw [← hse] at hco hre hca
  refine ⟨send_session_ne co w (HandshakeRole.peer_ne p) env plaintext ad, hco, hre, ?_, hca⟩
  intro m hm
  rcases step_sent co w _ with
    hsa | ⟨_, _, _, _, encrypted, _, heq, hok, hap, _⟩
  · rw [hsa] at hm
    exact .inl hm
  cases heq
  rw [hap] at hm
  rcases List.mem_append.mp hm with hm | hm
  · exact .inl hm
  obtain rfl := List.mem_singleton.mp hm
  rw [ho] at hok
  cases hok
  rw [hse]
  exact .inr ⟨rfl, encryptMessage_announces ho, encryptMessage_dhPublic ho⟩

section
variable {w' : World S} {p : HandshakeRole} {env : Env S}

lemma Covering.sends_current (D : S.SymbolicDh) (hco : w.Covering) (hh : w.Honest)
    (hx : env.newLocal ∉ w.scalars) (hs : Sends w w' p env) {m : Sent S} (hm : m ∈ w'.sent)
    {a : S.Scalar} (hl : (w'.session m.sender).dhLocal = some a)
    (hdh : m.header.dhPublic = S.publicKey a) :
    m.header.previousChainLength = (w'.session m.sender).previousCounter := by
  rcases hs.sent m hm with ho | ⟨hse, han, -⟩
  · rcases HandshakeRole.eq_or_eq_peer p m.sender with hse | hse
    · rw [hse] at hl
      rw [hse, hs.counter]
      rcases hs.ratchet with ⟨hk, -, -⟩ | ⟨-, hn, -⟩
      · have hcu := hco.current m ho a
        rw [hse, ← hk] at hcu
        exact hcu hl hdh
      -- the new key is in no message sent before
      cases hn.symm.trans hl
      obtain ⟨b, hb, heq⟩ := hh.sent m ho
      exact absurd (D.publicKey_injective (heq.symm.trans hdh) ▸ hb) hx
    · have hcu := hco.current m ho a
      rw [hse] at hcu hl ⊢
      rw [hs.peer] at hl ⊢
      exact hcu hl hdh
  · rwa [hse, hs.counter]

lemma Covering.sends_previous (K : S.SymbolicKdf) (hco : w.Covering) (hw : w.InStep)
    (hs : Sends w w' p env) {m : Sent S} (hm : m ∈ w'.sent) {a : S.Scalar}
    (hl : (w'.session m.sender).dhLocal = some a)
    (hne : (w'.session m.sender.peer).dhRemote ≠ some (S.publicKey a))
    (hr : (w'.session m.sender.peer).dhRemote = some m.header.dhPublic) :
    m.header.messageNumber < (w'.session m.sender).previousCounter := by
  rcases hs.sent m hm with ho | ⟨hse, -, a', hl', hdh⟩
  · have hpr := hco.previous m ho a
    rcases HandshakeRole.eq_or_eq_peer p m.sender with hse | hse
    · rw [hse] at hl hpr
      rw [hse, hs.peer] at hne hr
      rw [hse, hs.counter]
      rcases hs.ratchet with ⟨hk, -, -⟩ | ⟨hn, -, -⟩
      · simp_all
      -- the first chain opens here, so `p` has sent nothing the peer follows
      obtain ⟨a₀, hf⟩ := hw.phase.level_of_eq K p (hco.opened p hn).1 p
      have hpl := hw.placed m ho
      rw [hse] at hpl
      have hdh := Option.some.inj (hr.symm.trans hf.remote)
      obtain ⟨c, hc, -⟩ := hpl a₀ hf.dhLocal hdh
      rw [hn] at hc
      cases hc
    · rw [hse] at hl hne hr hpr ⊢
      rw [HandshakeRole.peer_peer] at hpr
      rw [HandshakeRole.peer_peer, hs.remote] at hne hr
      rw [hs.peer] at hl ⊢
      exact hpr hl hne hr
  · simp_all

end

lemma Covering.step_encrypt {K : S.SymbolicKdf} (D : S.SymbolicDh)
    (co : HandshakeRole → Config) (hco : w.Covering) (hw : w.Sync K) {p : HandshakeRole}
    (he : w.Orderly (.encrypt p env plaintext ad)) :
    (w.step co (.encrypt p env plaintext ad)).Covering := by
  have hs := sends_step co hw.inStep he
  constructor
  · intro m hm a hl hdh
    exact hco.sends_current D hw.honest he.1 hs hm hl hdh
  · intro m hm a hl hne hr
    exact hco.sends_previous K hw.inStep hs hm hl hne hr
  rw [HandshakeRole.forall_iff p, HandshakeRole.peer_peer, hs.peer]
  have hb := hco.opened p.peer
  rw [HandshakeRole.peer_peer] at hb
  rcases hs.ratchet with ⟨-, hro, hn⟩ | ⟨hn, -, hso⟩
  · rw [hro]
    refine ⟨fun h => hco.opened p (hn h), fun h => ?_⟩
    obtain ⟨heq, hne⟩ := hb h
    exact ⟨heq, fun h' => hne (hn h')⟩
  · refine ⟨fun h => absurd h hso, fun h => ?_⟩
    exact absurd h (hco.opened p hn).2

lemma Covering.update {w' : World S} (hcv : w.Covering) (p : HandshakeRole)
    (hse : w'.sent = w.sent) (hp : w'.session p.peer = w.session p.peer)
    (hke : Kept (w.session p) (w'.session p)) : w'.Covering := by
  have hl : ∀ q, (w'.session q).dhLocal = (w.session q).dhLocal := by
    rw [HandshakeRole.forall_iff p, hp]
    exact ⟨hke.dhLocal, rfl⟩
  have hr : ∀ q, (w'.session q).dhRemote = (w.session q).dhRemote := by
    rw [HandshakeRole.forall_iff p, hp]
    exact ⟨hke.dhRemote, rfl⟩
  have hco : ∀ q, (w'.session q).previousCounter = (w.session q).previousCounter := by
    rw [HandshakeRole.forall_iff p, hp]
    exact ⟨hke.previousCounter, rfl⟩
  have hs : ∀ q, (w'.session q).sendingChain = (w.session q).sendingChain := by
    rw [HandshakeRole.forall_iff p, hp]
    exact ⟨hke.sending, rfl⟩
  have hro : ∀ q, (w'.session q).rootKey = (w.session q).rootKey := by
    rw [HandshakeRole.forall_iff p, hp]
    exact ⟨hke.rootKey, rfl⟩
  constructor
  · simp only [hse, hl, hco]
    exact hcv.current
  · simp only [hse, hl, hr, hco]
    exact hcv.previous
  · simp only [hs, hro]
    exact hcv.opened

lemma Covering.turn (D : S.SymbolicDh) {w' : World S} (hco : w.Covering) (hw : w.InStep)
    (hh : w.Honest) (hx : env.newLocal ∉ w.scalars) (p : HandshakeRole) (hse : w'.sent = w.sent)
    (hpe : w'.session p.peer = w.session p.peer) {h : RatchetHeader} {key : S.Key} {r : Bytes32}
    {b x : S.Scalar} (hc : Coming (w.session p) h key r b)
    (hl : (w.session p.peer).dhLocal = some x) (hdh : h.dhPublic = S.publicKey x)
    (htu : Turned env (w.session p) (w'.session p) h.dhPublic) : w'.Covering := by
  obtain ⟨hf, c, hah⟩ := hw.phase.ahead_of_coming hc hl hdh
  refine ⟨?_, ?_, ?_⟩
  · intro m hm a ha hma
    rw [hse] at hm
    rcases HandshakeRole.eq_or_eq_peer p m.sender with hp | hp
    · rw [hp, htu.dhLocal] at ha
      cases ha
      obtain ⟨b', hb', heq⟩ := hh.sent m hm
      exact absurd (D.publicKey_injective (heq.symm.trans hma) ▸ hb') hx
    · have hcu := hco.current m hm a
      rw [hp] at hcu ha ⊢
      rw [hpe] at ha ⊢
      exact hcu ha hma
  · intro m hm a ha hne hr
    rw [hse] at hm
    rcases HandshakeRole.eq_or_eq_peer p m.sender with hp | hp
    · -- the chain that was left: its messages lie below its index
      rw [hp, hpe] at hr
      rw [hp, htu.previousCounter]
      have hpl := hw.placed m hm
      rw [hp] at hpl
      have hmb := Option.some.inj (hr.symm.trans hf.remote)
      obtain ⟨c', hc', hlt⟩ := hpl b hf.dhLocal hmb
      rwa [hc']
    · rw [hp] at ha hne
      rw [hpe, hl] at ha
      cases ha
      rw [HandshakeRole.peer_peer, htu.dhRemote, hdh] at hne
      exact absurd rfl hne
  · rw [HandshakeRole.forall_iff p, hpe]
    obtain ⟨k, hk⟩ := htu.sending
    refine ⟨fun hn => ?_, fun hn => ?_⟩
    · grind
    · rw [hah.sending] at hn
      cases hn

lemma Covering.step_deliver {K : S.SymbolicKdf} (D : S.SymbolicDh) (hA : S.CorrectAead)
    (hC : S.CommittingAead) {co : HandshakeRole → Config}
    (ho : ∀ p, (co p).enableHeaderEncryption = false) (hco : w.Covering) (hw : w.Sync K)
    {i : Nat} (he : w.Orderly (.deliver i env)) : (w.step co (.deliver i env)).Covering := by
  cases hm : w.sent[i]? with
  | none =>
    simp only [step, act, hm]
    exact { hco with }
  | some m =>
    by_cases hi : i ∈ w.delivered
    · obtain ⟨e, her⟩ := hw.replay_refused hA hC co env hm hi
      simp only [step, act, hm, receive_error her]
      exact { hco with }
    obtain ⟨t', hok, hca, -⟩ := hw.inStep.first_delivery D hA ho hw.honest he.1 hm hi
      ((he.2 m hm).2 hi) (hco.announces hw.inStep hm hi)
    have hse : (w.step co (.deliver i env)).session m.sender.peer = t' := by
      simp [step, act, hm, receive_ok hok]
    have hp : (w.step co (.deliver i env)).session m.sender.peer.peer =
        w.session m.sender.peer.peer := by
      simp only [step, act, hm, receive_ok hok]
      exact setSession_ne _ (HandshakeRole.peer_ne _) _
    have hsn : (w.step co (.deliver i env)).sent = w.sent := by
      simp only [step, act, hm, receive_ok hok]
      rfl
    rcases hca with hke | ⟨htu, r, b, x, hc, hl, hdh⟩
    · exact hco.update m.sender.peer hsn hp (hse.symm ▸ hke)
    · exact hco.turn D hw.inStep hw.honest he.1 m.sender.peer hsn hp hc
        (by rw [HandshakeRole.peer_peer]; exact hl) hdh (hse.symm ▸ htu)

lemma covering_matched {co : HandshakeRole → Config} {se : Bytes32}
    (h : w.Matched co se) : w.Covering := by
  refine ⟨by simp [h.sent], by simp [h.sent], ?_⟩
  obtain ⟨a, b, cl, -, -, hi, hr⟩ := h.sessions
  obtain ⟨-, now, -, hi⟩ := fromSharedSecret_ok hi
  obtain ⟨-, now', -, hr⟩ := fromSharedSecret_ok hr
  rw [HandshakeRole.forall_iff .initiator]
  simp [HandshakeRole.peer, hi, hr, initialState, HandshakeRole.isInitiator]

/-- For two matched sessions without header encryption, over every orderly schedule, the
first delivery of every message returns exactly the plaintext that was encrypted. -/
theorem first_delivery_decrypts (K : S.SymbolicKdf) (D : S.SymbolicDh) (hA : S.CorrectAead)
    (hC : S.CommittingAead) (config : HandshakeRole → Config)
    (hoff : ∀ p, (config p).enableHeaderEncryption = false) (secret : Bytes32) (w : World S)
    (hw : w.Matched config secret) (es : List (Event S))
    (hes : Runs.Guarded (step config) Orderly w es) (i : Nat) (env : Env S) (m : Sent S)
    (hm : (w.run config es).sent[i]? = some m) (hi : i ∉ (w.run config es).delivered)
    (hdel : (w.run config es).Orderly (.deliver i env)) :
    (w.run config es).delivery config i env = some (.ok m.plaintext) := by
  have hrun : (w.run config es).Sync K ∧ (w.run config es).Covering := by
    refine hes.invariant (I := fun w : World S => w.Sync K ∧ w.Covering) ?_
      ⟨sync_matched K hw, covering_matched hw⟩
    intro w e hinv he
    obtain ⟨hsync, hcov⟩ := hinv
    refine ⟨sync_step D hA hC hoff w e hsync (hcov.aligned hsync.inStep he), ?_⟩
    cases e with
    | encrypt p env plaintext ad => exact hcov.step_encrypt D config hsync he
    | deliver i env => exact hcov.step_deliver D hA hC hoff hsync he
    | inject p env message ad => exact absurd he id
  exact hrun.1.delivery D hA hoff (hrun.2.aligned hrun.1.inStep hdel) hm hi

end

theorem overtaken_delivery_decrypts :
    let config := fun _ : HandshakeRole => config false
    let es : List (Event suite) :=
      [.encrypt .initiator (env 1000 3) [10] [], .encrypt .initiator (env 1001 4) [11] [],
        .encrypt .initiator (env 1002 5) [12] [], .deliver 1 (env 1003 6),
        .encrypt .responder (env 1004 7) [20] [], .deliver 3 (env 1005 8),
        .encrypt .initiator (env 1006 9) [13] [], .deliver 4 (env 1007 10),
        .deliver 1 (env 1008 11)]
    Runs.Guarded (step config) Orderly (world false) es ∧
    ((world false).run config es).delivery config 2 (env 1009 12) =
      some (.ok [12]) := by
  intro config es
  have hes : Runs.Guarded (step config) Orderly (world false) es := by decide +kernel
  refine ⟨hes, ?_⟩
  have hm : ((world false).run config es).sent[2]?.map Sent.plaintext = some [12] := by
    decide +kernel
  obtain ⟨m, hm, hplain⟩ := Option.map_eq_some_iff.mp hm
  rw [← hplain]
  exact first_delivery_decrypts kdf dh correctAead
    committingAead config (fun _ => rfl) secret _ (world_matched false)
    es hes 2 _ m hm (by decide +kernel) (by decide +kernel)

/-- With `max_skipped_messages = usize::MAX` the second message of an orderly schedule, delivered
in order, ends in the overflow. -/
theorem second_delivery_panics :
    let config := fun _ : HandshakeRole => (⟨2 ^ 64 - 1, false⟩ : Config)
    let es : List (Event suite) :=
      [.encrypt .initiator (env 1000 3) [10] [],
        .encrypt .initiator (env 1001 4) [11] [], .deliver 0 (env 1002 5)]
    let w := (skippingWorld (2 ^ 64 - 1)).run config es
    (skippingWorld (2 ^ 64 - 1)).Matched config secret ∧
    Runs.Guarded (step config) Orderly (skippingWorld (2 ^ 64 - 1)) es ∧
    (∀ m ∈ w.sent[1]?, inWindow (env 1003 6) m.encrypted.message = true ∧
      keysToSkip (w.session .responder) m.header = 0) ∧
    w.delivery config 1 (env 1003 6) = some (.error .panicked) := by
  intro config es w
  exact ⟨skippingWorld_matched _, by decide +kernel⟩

end Sibna.World
