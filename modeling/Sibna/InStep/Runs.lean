import Sibna.InStep.World

/-!
# Runs of two sessions

A first delivery finds its key and keeps the sessions in step, a second one fails.
-/

namespace Sibna

open DoubleRatchetSession

variable {S : Suite}

namespace World

variable {w w' : World S}

variable {i : Nat} {m : Sent S} {p : HandshakeRole}

lemma InStep.tag_ne (hw : w.InStep) {j : Nat} {m' : Sent S} (hm : w.sent[i]? = some m)
    (hm' : w.sent[j]? = some m') (hij : j ≠ i) (hse : m'.sender = m.sender) :
    m'.tag ≠ m.tag := by
  obtain ⟨hi, rfl⟩ := List.getElem?_eq_some_iff.mp hm
  obtain ⟨hj, rfl⟩ := List.getElem?_eq_some_iff.mp hm'
  have hpa := List.pairwise_iff_getElem.mp hw.distinct
  rcases Nat.lt_or_gt_of_ne hij with hlt | hgt
  · exact hpa j i hj hi hlt hse
  · exact fun hta => hpa i j hi hj hgt hse.symm hta.symm

section
variable (hw : w.InStep) (hm : w.sent[i]? = some m) (hp : m.sender = p.peer)
include hw hm hp

lemma InStep.take {t' : DoubleRatchetState S} (hss : w'.session = Function.update w.session p t')
    (hsn : w'.sent = w.sent) (hde : w'.delivered = i :: w.delivered)
    (hs : SameSending (w.session p) t') (hrg : Regular t')
    (hfo : ∀ a, Follows (w.session p.peer) (w.session p) a → Follows (w.session p.peer) t' a)
    (hah : ∀ x b r c, Ahead (w.session p.peer) (w.session p) x b r c →
      Ahead (w.session p.peer) t' x b r c)
    (hre : ∀ h key, h.tag ≠ m.tag → Receivable (w.session p.peer) (w.session p) h key →
      Receivable (w.session p.peer) t' h key)
    : w'.InStep := by
  have hse : w'.session p = t' := by rw [hss, Function.update_self]
  have hpe : w'.session p.peer = w.session p.peer := by simp_all
  have hu : ∀ j, j ∉ w'.delivered → j ≠ i ∧ j ∉ w.delivered := by simp_all
  refine hw.update p hsn hpe ?_ (hse.symm ▸ hrg) ?_ ?_ ?_
  · apply hw.phase.update p hpe
    all_goals rw [hse]
    · exact hs.rootKey
    · exact fun a hf => hs.follows hf
    · exact hfo
    · exact fun x b r c ha => ⟨c, hs.ahead ha⟩
    · exact hah
  · intro m' _ _ hpl
    rw [hse]
    exact hs.placed hpl
  · intro j m' _ hj _
    rw [hse]
    exact ⟨(hu j hj).2, fun hr => hr.of_dhLocal hs.dhLocal⟩
  · intro j m' hm' hj hp'
    obtain ⟨hji, hjd⟩ := hu j hj
    rw [hse]
    exact ⟨hjd, hre _ _ (hw.tag_ne hm hm' hji (hp'.trans hp.symm))⟩

lemma InStep.take_held
    (hse : w'.session = Function.update w.session p (forget (w.session p) m.tag))
    (hsn : w'.sent = w.sent) (hde : w'.delivered = i :: w.delivered) : w'.InStep := by
  refine hw.take hm hp hse hsn hde (sameSending_forget _ _) ((hw.regular p).forget _) ?_ ?_ ?_
  · exact fun a hf => hf.forget _
  · exact fun x b r c ha => ha.forget _
  · exact fun h key hne hr => hr.forget hne

lemma InStep.take_due {c : ChainKey S} (env : Env S) (hd : Due (w.session p) m.header m.key c)
    (hse : w'.session = Function.update w.session p
      (recordReceived env (takeDue (w.session p) c m.header)))
    (hsn : w'.sent = w.sent) (hde : w'.delivered = i :: w.delivered) : w'.InStep := by
  have hpl := hw.placed m (List.mem_of_getElem? hm)
  rw [hp] at hpl
  have hsa := sameReceiving_recordReceived env (takeDue (w.session p) c m.header)
  refine hw.take hm hp hse hsn hde ?_ ?_ ?_ ?_ ?_
  · exact ⟨rfl, rfl, rfl⟩
  · have hre := (hw.regular p).takeDue hd
    exact { hre with }
  · exact fun a hf => hsa.follows (hf.takeDue hd hpl)
  · exact fun x b r c ha => hsa.ahead (ha.takeDue hd)
  · exact fun h key hne hr => hsa.receivable (hr.takeDue (hw.regular p) hd hne)

end

lemma InStep.turn (D : S.SymbolicDh) (hw : w.InStep) (hh : w.Honest) {env : Env S}
    (hx : env.newLocal ∉ w.scalars) {p : HandshakeRole} {h : RatchetHeader} {key : S.Key}
    {r : Bytes32} {b x : S.Scalar} (hc : Coming (w.session p) h key r b)
    (hl : (w.session p.peer).dhLocal = some x) (hdh : h.dhPublic = S.publicKey x)
    (hca : ∀ i m, w.sent[i]? = some m → i ∉ w.delivered → m.sender = p.peer → ∀ c,
      Due (w.session p) m.header m.key c → m.header.messageNumber < h.previousChainLength) :
    (w.setSession p (DoubleRatchetSession.turn env (w.session p) r b h)).InStep := by
  have hpe : (w.setSession p (DoubleRatchetSession.turn env (w.session p) r b h)).session
      p.peer = w.session p.peer := by simp
  obtain ⟨hf, c, ha⟩ := hw.phase.ahead_of_coming hc hl hdh
  refine hw.update p rfl hpe ?_ ?_ ?_ ?_ ?_
  · apply Phase.ahead p
    · rw [setSession_self, hpe]
      exact ⟨_, _, _, ha.turn D hf hdh (hh.unseen D hx p.peer)⟩
    · rw [setSession_self, hpe]
      exact ⟨x, ha.follows_turn hdh⟩
  · rw [setSession_self]
    exact (hw.regular p).turn hc
  · intro m hm _ _
    rw [setSession_self]
    exact hh.placed_fresh D hx rfl hm
  · intro i m _ hi _
    exact ⟨hi, fun hr => hr.of_follows hf⟩
  · intro i m hm hi hp
    rw [setSession_self]
    exact ⟨hi, fun hr => hr.turn (hw.regular p) ha hdh (fun c hd => hca i m hm hi hp c hd)⟩

/-- The message is inside both timestamp windows, and its receiver has room for the keys it has
to set aside. -/
def Deliverable (w : World S) (env : Env S) (m : Sent S) : Prop :=
  inWindow env m.encrypted.message = true ∧ HasRoom (w.session m.sender.peer) m.header
  deriving Decidable

/-- A message that makes its receiver leave the receiving chain announces whatever was sent on
that chain and not received. -/
def Announces (w : World S) (m : Sent S) : Prop :=
  needsRatchet (w.session m.sender.peer) m.header.dhPublic = true →
    (w.session m.sender.peer).skippedMessageKeys.lookup m.tag = none → ∀ e ∈ w.sent.zipIdx,
    e.2 ∉ w.delivered → e.1.sender = m.sender →
    (w.session m.sender.peer).dhRemote = some e.1.header.dhPublic →
    e.1.header.messageNumber < m.header.previousChainLength
  deriving Decidable

section
variable (hw : w.InStep) (hm : m ∈ w.sent)
include hw hm

lemma InStep.decryptMessage_sent (hA : S.CorrectAead) {config : HandshakeRole → Config}
    (ho : ∀ p, (config p).enableHeaderEncryption = false) (hh : w.Honest) {env : Env S}
    (t : DoubleRatchetState S) :
    decryptMessage (config m.sender.peer) env t m.encrypted.wire m.associatedData =
      decryptParsed env t m.encrypted.message m.associatedData := by
  rw [hh.plain m hm]
  refine (hw.genuine m hm).decryptMessage hA (ho _) (Nat.lt_of_le_of_lt (hw.announced_le m hm) ?_)
  decide

lemma InStep.announced_le_receiving (c : ChainKey S)
    (hc : (w.session m.sender.peer).receivingChain = some c) :
    m.header.previousChainLength ≤ c.maxMessages := by
  rw [(hw.regular _).receiving c hc]
  exact hw.announced_le m hm

end

lemma InStep.first_delivery (D : S.SymbolicDh) (hA : S.CorrectAead)
    {config : HandshakeRole → Config} (ho : ∀ p, (config p).enableHeaderEncryption = false)
    (hw : w.InStep) (hh : w.Honest) {env : Env S} (hx : env.newLocal ∉ w.scalars)
    (hm : w.sent[i]? = some m) (hi : i ∉ w.delivered) (hdl : w.Deliverable env m)
    (han : w.Announces m) :
    ∃ t', decryptMessage (config m.sender.peer) env (w.session m.sender.peer) m.encrypted.wire
        m.associatedData = (.ok ⟨m.encrypted.message, m.key, m.plaintext⟩, t') ∧
      (Kept (w.session m.sender.peer) t' ∨
        (Turned env (w.session m.sender.peer) t' m.header.dhPublic ∧
          ∃ r b x, Coming (w.session m.sender.peer) m.header m.key r b ∧
            (w.session m.sender).dhLocal = some x ∧ m.header.dhPublic = S.publicKey x)) ∧
      ∀ w' : World S, w'.session = Function.update w.session m.sender.peer t' →
        w'.sent = w.sent → w'.delivered = i :: w.delivered → w'.InStep := by
  have hme := List.mem_of_getElem? hm
  have hg := hw.genuine m hme
  have hse : m.sender = m.sender.peer.peer := (HandshakeRole.peer_peer _).symm
  obtain ⟨hwi, hro⟩ := hdl
  rw [hw.decryptMessage_sent hme hA ho hh]
  cases hw.pending i m hm hi with
  | held hhe =>
    exact ⟨_, hhe.accepted hA hg hwi, .inl ⟨rfl, rfl, rfl, rfl, rfl, rfl⟩,
      fun w' => hw.take_held hm hse⟩
  | due hd =>
    exact ⟨_, hd.accepted hA (hw.regular _).behind hg hwi hro,
      .inl ⟨rfl, rfl, rfl, rfl, rfl, rfl⟩, fun w' => hw.take_due hm hse env hd⟩
  | @coming r b x hc hl hdh =>
    have hn := needsRatchet_of_ne hc.remote hc.remote_ne
    refine ⟨_, hc.accepted hA (hw.announced_le_receiving hme) hg hwi hro,
      .inr ⟨⟨hn, rfl, rfl, rfl, rfl, ⟨_, rfl⟩, b, _, hc.dhLocal, rfl⟩, r, b, x, hc, hl,
        hdh⟩, ?_⟩
    intro w' hss hsn hde
    rw [hse] at hl
    have htu := hw.turn D hh hx hc hl hdh (by
      intro j m' hm' hj hs' c hd
      exact han hn (hc.absent _) (m', j)
        (List.mem_zipIdx_iff_getElem?.mpr hm') hj (hs'.trans hse.symm) hd.remote)
    have hdu : Due ((w.setSession m.sender.peer (DoubleRatchetSession.turn env
        (w.session m.sender.peer) r b m.header)).session m.sender.peer) m.header m.key
          (openedChain env (w.session m.sender.peer) b m.header) := by
      rw [setSession_self]
      exact hc.after_turn env
    refine htu.take_due hm hse env hdu ?_ hsn hde
    rw [hss, setSession_self]
    simp only [setSession, Function.update_idem]

end World

namespace World

variable {w w' : World S}

structure Sync (K : S.SymbolicKdf) (w : World S) : Prop where
  honest : w.Honest
  ledger : ∀ p, Ledger K ((w.session p).schedule (w.usedKeys p))
  inStep : w.InStep
  delivered_lt : ∀ i ∈ w.delivered, i < w.sent.length
  used : ∀ i m, w.sent[i]? = some m → i ∈ w.delivered → m.key ∈ w.usedKeys m.sender.peer

/-- Random scalars are new, a rotation happens only while the root keys are equal, no delivery
overflows the sum of its receiver, and each first delivery is one that the receiver can take. -/
def Aligned (w : World S) : Event S → Prop
  | .encrypt p env _ _ => env.newLocal ∉ w.scalars ∧ (mustRotate env (w.session p) = true →
      (w.session p).rootKey = (w.session p.peer).rootKey)
  | .deliver i env => env.newLocal ∉ w.scalars ∧
      ∀ m ∈ w.sent[i]?, SumFits (w.session m.sender.peer) ∧
        (i ∉ w.delivered → w.Deliverable env m ∧ w.Announces m)
  | .inject _ _ _ _ => False

lemma Aligned.passive {e : Event S} (he : w.Aligned e) : w.Passive e := by
  cases e with
  | encrypt | deliver => exact ⟨rfl, he.1⟩
  | inject p env message ad => exact absurd he id

lemma usedKeys_step (config : HandshakeRole → Config) (w : World S) (e : Event S)
    {p : HandshakeRole} {k : S.Key} (hk : k ∈ w.usedKeys p) : k ∈ (w.step config e).usedKeys p := by
  obtain ⟨⟨ms, hse⟩, as, hac⟩ := step_grows config w e
  apply mem_usedKeys.mpr
  rw [hse, hac]
  rcases mem_usedKeys.mp hk with ⟨m, hm, hp, rfl⟩ | ⟨a, ha, hp, rfl⟩
  · exact .inl ⟨m, List.mem_append_left _ hm, hp, rfl⟩
  · exact .inr ⟨a, List.mem_append_left _ ha, hp, rfl⟩

lemma InStep.redeliver (hw : w.InStep) (hse : w'.session = w.session)
    (hsn : w'.sent = w.sent) (hde : ∀ i ∈ w.delivered, i ∈ w'.delivered) : w'.InStep where
  phase := hse ▸ hw.phase
  regular := hse ▸ hw.regular
  genuine := hsn ▸ hw.genuine
  announced_le := hsn ▸ hw.announced_le
  placed := by
    rw [hse, hsn]
    exact hw.placed
  distinct := hsn ▸ hw.distinct
  pending := by
    rw [hse, hsn]
    exact fun i m hm hi => hw.pending i m hm fun h => hi (hde i h)

variable {K : S.SymbolicKdf} {config : HandshakeRole → Config}

lemma Sync.next (hof : ∀ p, (config p).enableHeaderEncryption = false) (hw : w.Sync K)
    {e : Event S} (he : w.Aligned e) (hin : (w.step config e).InStep)
    (hn : ∀ i ∈ (w.step config e).delivered, i ∈ w.delivered ∨ ∃ m, w.sent[i]? = some m ∧
      m.key ∈ (w.step config e).usedKeys m.sender.peer) : (w.step config e).Sync K := by
  obtain ⟨⟨ms, hse⟩, -⟩ := step_grows config w e
  have hlt : ∀ i ∈ (w.step config e).delivered, i < w.sent.length := by
    intro i hi
    rcases hn i hi with ho | ⟨m, hm, -⟩
    · exact hw.delivered_lt i ho
    · exact (List.getElem?_eq_some_iff.mp hm).1
  refine ⟨honest_step hof w e hw.honest he.passive, fun p => stable_step (Ledger.stable K _)
    (fun _ _ _ _ _ _ _ => trivial) (hw.ledger p), hin, ?_, ?_⟩
  · grind
  intro i m hm hi
  rw [hse, List.getElem?_append_left (hlt i hi)] at hm
  rcases hn i hi with ho | ⟨m', hm', hu⟩
  · exact usedKeys_step config w _ (hw.used i m hm ho)
  · simp_all

lemma Sync.replay_refused (hA : S.CorrectAead) (hC : S.CommittingAead) (hw : w.Sync K)
    (config : HandshakeRole → Config) (env : Env S) {i : Nat} {m : Sent S}
    (hm : w.sent[i]? = some m) (hi : i ∈ w.delivered) :
    ∃ e, decryptMessage (config m.sender.peer) env (w.session m.sender.peer) m.encrypted.wire
      m.associatedData = (.error e, w.session m.sender.peer) := by
  have hme := List.mem_of_getElem? hm
  refine decryptMessage_used hC (hw.ledger _) (hw.used i m hm hi)
    ((hw.inStep.genuine m hme).authentic hA) (.inl ?_)
  rw [hw.honest.plain m hme]
  simp [RatchetMessage.toBytes, headerSize]

section
variable (D : S.SymbolicDh) (hA : S.CorrectAead) (hC : S.CommittingAead)
  (ho : ∀ p, (config p).enableHeaderEncryption = false)
include D hA hC ho

lemma Sync.step_deliver (hw : w.Sync K) {i : Nat} {env : Env S} (he : w.Aligned (.deliver i env))
    : (w.step config (.deliver i env)).Sync K := by
  cases hm : w.sent[i]? with
  | none =>
    apply hw.next ho he
    all_goals simp only [step, act, hm]
    · exact hw.inStep.redeliver rfl rfl fun _ hj => hj
    · exact fun _ hj => .inl hj
  | some m =>
    by_cases hi : i ∈ w.delivered
    · obtain ⟨e, her⟩ := hw.replay_refused hA hC config env hm hi
      apply hw.next ho he
      all_goals simp only [step, act, hm, receive_error her]
      · exact hw.inStep.redeliver rfl rfl fun _ hj => .tail _ hj
      intro j hj
      rcases List.mem_cons.mp hj with rfl | hj
      · exact .inl hi
      · exact .inl hj
    · obtain ⟨hde, han⟩ := (he.2 m hm).2 hi
      obtain ⟨t', hok, -, hn⟩ :=
        hw.inStep.first_delivery D hA ho hw.honest he.1 hm hi hde han
      apply hw.next ho he
      all_goals simp only [step, act, hm, receive_ok hok]
      · exact hn _ rfl rfl rfl
      intro j hj
      rcases List.mem_cons.mp hj with rfl | hj
      · refine .inr ⟨m, hm, mem_usedKeys.mpr (.inr ?_)⟩
        exact ⟨⟨m.sender.peer, m.encrypted.message, m.key, m.plaintext⟩, by simp, rfl, rfl⟩
      · exact .inl hj

lemma sync_step (w : World S) (e : Event S) (hw : w.Sync K) (he : w.Aligned e) :
    (w.step config e).Sync K := by
  cases e with
  | encrypt p env pl ad =>
    have hse := hw.inStep.send K D config hw.honest he.1 p pl ad he.2
    have hde : (w.step config (.encrypt p env pl ad)).delivered = w.delivered := by
      simp only [step, act, send]
      split <;> rfl
    exact hw.next ho he (hse.redeliver rfl rfl fun _ hi => hi) fun i hi => .inl (hde ▸ hi)
  | deliver i env => exact hw.step_deliver D hA hC ho he
  | inject p env me ad => exact absurd he id

end

lemma phase_matched {se : Bytes32} (h : w.Matched config se) : Phase w.session := by
  obtain ⟨a, b, cl, -, -, hi, hr⟩ := h.sessions
  obtain ⟨-, now, -, hi⟩ := fromSharedSecret_ok hi
  obtain ⟨-, now', -, hr⟩ := fromSharedSecret_ok hr
  apply Phase.level
  · rw [HandshakeRole.forall_iff .initiator]
    simp only [HandshakeRole.peer, hi, hr]
    exact ⟨rfl, rfl⟩
  rw [HandshakeRole.forall_iff .initiator]
  simp only [HandshakeRole.peer, hi, hr]
  constructor
  · exact ⟨a, rfl, rfl, .inr ⟨_, _, rfl, rfl, ⟨_, rfl, rfl⟩, le_rfl⟩⟩
  · exact ⟨b, rfl, rfl, .inl ⟨rfl, rfl⟩⟩

lemma regular_initialState (se : Bytes32) (l : S.Scalar) (r : Bytes32)
    (config : Config) (role : HandshakeRole) (cl : Clock) (now : Nat) :
    Regular (initialState se l r config role cl now) := by
  cases role <;>
    refine ⟨?_, ?_, Nat.zero_le _, ?_⟩ <;>
      simp [initialState, ChainKey.new, CacheBehind]

lemma sync_matched (K : S.SymbolicKdf) {se : Bytes32} (h : w.Matched config se) : w.Sync K where
  honest := honest_matched h
  ledger := fun p => ledger_run K h [] p
  inStep := by
    refine ⟨phase_matched h, ?_, ?_, ?_, ?_, ?_, ?_⟩
    · intro p
      obtain ⟨a, -, b, -, cl, now, hs⟩ := h.session_eq p
      rw [hs]
      exact regular_initialState _ _ _ _ _ _ _
    all_goals simp [h.sent]
  delivered_lt := by simp [h.delivered]
  used := by simp [h.sent]

lemma Sync.delivery {K : S.SymbolicKdf} (D : S.SymbolicDh) (hA : S.CorrectAead)
    {config : HandshakeRole → Config} (ho : ∀ p, (config p).enableHeaderEncryption = false)
    (hw : w.Sync K) {i : Nat} {env : Env S} {m : Sent S} (he : w.Aligned (.deliver i env))
    (hm : w.sent[i]? = some m) (hi : i ∉ w.delivered) :
    w.delivery config i env = some (.ok m.plaintext) := by
  obtain ⟨hde, han⟩ := (he.2 m hm).2 hi
  obtain ⟨t', hok, -⟩ := hw.inStep.first_delivery D hA ho hw.honest he.1 hm hi hde han
  simp only [World.delivery, hm, Option.map_some, decrypt, hok]
  rfl

instance [DecidableEq S.Key] [DecidableEq S.Scalar] (w : World S) (e : Event S) :
    Decidable (w.Aligned e) := by
  rcases e <;> unfold Aligned <;> infer_instance

end World

end Sibna
