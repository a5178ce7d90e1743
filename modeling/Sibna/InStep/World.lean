import Sibna.InStep.Chains

/-!
# Two sessions in step

The invariant of two matched sessions: equal root keys, or one of them a chain ahead.
-/

namespace Sibna

open DoubleRatchetSession

variable {S : Suite}

variable {s : HandshakeRole → DoubleRatchetState S}

lemma Phase.update {s' : HandshakeRole → DoubleRatchetState S} (hph : Phase s)
    (p : HandshakeRole) (hp : s' p.peer = s p.peer) (hr : (s' p).rootKey = (s p).rootKey)
    (hfs : ∀ a, Follows (s p) (s p.peer) a → Follows (s' p) (s p.peer) a)
    (hfr : ∀ a, Follows (s p.peer) (s p) a → Follows (s p.peer) (s' p) a)
    (has : ∀ x b r c, Ahead (s p) (s p.peer) x b r c → ∃ c', Ahead (s' p) (s p.peer) x b r c')
    (har : ∀ x b r c, Ahead (s p.peer) (s p) x b r c → Ahead (s p.peer) (s' p) x b r c) :
    Phase s' := by
  cases hph with
  | level hro hf =>
    apply Phase.level
    · rw [HandshakeRole.forall_iff p, HandshakeRole.peer_peer, hp, hr, hro p]
      exact ⟨rfl, rfl⟩
    rw [HandshakeRole.forall_iff p]
    have hb := hf p.peer
    rw [HandshakeRole.peer_peer] at hb ⊢
    rw [hp]
    exact ⟨(hf p).imp hfs, hb.imp hfr⟩
  | ahead q ha hf =>
    rcases HandshakeRole.eq_or_eq_peer p q with rfl | rfl
    · obtain ⟨x, b, r, c, ha⟩ := ha
      obtain ⟨c', ha'⟩ := has x b r c ha
      apply Phase.ahead q
      · grind
      · grind
    · rw [HandshakeRole.peer_peer] at ha hf
      obtain ⟨x, b, r, c, ha⟩ := ha
      apply Phase.ahead p.peer
      · rw [HandshakeRole.peer_peer, hp]
        exact ⟨x, b, r, c, har x b r c ha⟩
      · rw [HandshakeRole.peer_peer, hp]
        exact hf.imp hfs

lemma Phase.level_of_eq (K : S.SymbolicKdf) (hph : Phase s) (p : HandshakeRole)
    (hr : (s p).rootKey = (s p.peer).rootKey) : ∀ q, ∃ a, Follows (s q) (s q.peer) a := by
  cases hph with
  | level _ hf => exact hf
  | ahead q ha _ =>
    obtain ⟨x, b, r, c, ha⟩ := ha
    have hl := congrArg K.level ha.rootKey
    rw [K.level_kdfRk_root] at hl
    rcases HandshakeRole.eq_or_eq_peer p q with rfl | rfl
    · rw [hr] at hl
      omega
    · simp_all

lemma Phase.ahead_of_coming (hph : Phase s) {p : HandshakeRole} {h : RatchetHeader}
    {key : S.Key} {r : Bytes32} {b x : S.Scalar} (hc : Coming (s p) h key r b)
    (hl : (s p.peer).dhLocal = some x) (hdh : h.dhPublic = S.publicKey x) :
    Follows (s p) (s p.peer) b ∧ ∃ c, Ahead (s p.peer) (s p) x b r c := by
  have hn : ¬ ∃ a, Follows (s p.peer) (s p) a :=
    fun ⟨a, hf⟩ => hf.not_coming hc hl hdh
  cases hph with
  | level hr hfo =>
    have hf := hfo p.peer
    rw [HandshakeRole.peer_peer] at hf
    exact absurd hf hn
  | ahead q ha hfo =>
    rcases HandshakeRole.eq_or_eq_peer p q with rfl | rfl
    · exact absurd hfo hn
    rw [HandshakeRole.peer_peer] at ha hfo
    obtain ⟨x', b', r', c, ha⟩ := ha
    obtain ⟨b'', hf⟩ := hfo
    cases ha.dhLocal.symm.trans hl
    obtain rfl := Option.some.inj (ha.peerLocal.symm.trans hc.dhLocal)
    cases hf.dhLocal.symm.trans ha.peerLocal
    cases ha.remote.symm.trans hc.remote
    exact ⟨hf, c, ha⟩

lemma Phase.dhRemote {s : HandshakeRole → DoubleRatchetState S} (hph : Phase s)
    (p : HandshakeRole) : ∃ r, (s p).dhRemote = some r := by
  cases hph with
  | level _ hfo =>
    obtain ⟨b, hf⟩ := hfo p.peer
    rw [HandshakeRole.peer_peer] at hf
    exact ⟨_, hf.remote⟩
  | ahead q hah hfo =>
    rcases HandshakeRole.eq_or_eq_peer p q with rfl | rfl
    · obtain ⟨b, hf⟩ := hfo
      exact ⟨_, hf.remote⟩
    · rw [HandshakeRole.peer_peer] at hah
      obtain ⟨x, b, r, c, ha⟩ := hah
      exact ⟨r, ha.remote⟩

namespace World

structure InStep (w : World S) : Prop where
  phase : Phase w.session
  regular : ∀ p, Regular (w.session p)
  genuine : ∀ m ∈ w.sent, Genuine m.key m.plaintext m.associatedData m.encrypted.message
  announced_le : ∀ m ∈ w.sent, m.header.previousChainLength ≤ ChainKey.defaultMaxMessages
  placed : ∀ m ∈ w.sent, Placed (w.session m.sender) m.header
  distinct : w.sent.Pairwise fun m m' => m.sender = m'.sender → m.tag ≠ m'.tag
  pending : ∀ i m, w.sent[i]? = some m → i ∉ w.delivered →
    Receivable (w.session m.sender) (w.session m.sender.peer) m.header m.key

variable {w w' : World S}

lemma InStep.update (hw : w.InStep) (p : HandshakeRole) (hse : w'.sent = w.sent)
    (hpe : w'.session p.peer = w.session p.peer) (hph : Phase w'.session)
    (hrg : Regular (w'.session p))
    (hpl : ∀ m ∈ w.sent, m.sender = p → Placed (w.session p) m.header →
      Placed (w'.session p) m.header)
    (hsn : ∀ i m, w.sent[i]? = some m → i ∉ w'.delivered → m.sender = p → i ∉ w.delivered ∧
      (Receivable (w.session p) (w.session p.peer) m.header m.key →
        Receivable (w'.session p) (w.session p.peer) m.header m.key))
    (hre : ∀ i m, w.sent[i]? = some m → i ∉ w'.delivered → m.sender = p.peer →
      i ∉ w.delivered ∧ (Receivable (w.session p.peer) (w.session p) m.header m.key →
        Receivable (w.session p.peer) (w'.session p) m.header m.key)) :
    w'.InStep where
  phase := hph
  regular := by
    rw [HandshakeRole.forall_iff p, hpe]
    exact ⟨hrg, hw.regular p.peer⟩
  genuine := hse.symm ▸ hw.genuine
  announced_le := hse.symm ▸ hw.announced_le
  placed := by
    intro m hm
    rw [hse] at hm
    have ho := hw.placed m hm
    rcases HandshakeRole.eq_or_eq_peer p m.sender with hp | hp
    · simp_all
    · simp_all
  distinct := hse.symm ▸ hw.distinct
  pending := by
    intro i m hm hi
    rw [hse] at hm
    rcases HandshakeRole.eq_or_eq_peer p m.sender with hp | hp
    · obtain ⟨hi', him⟩ := hsn i m hm hi hp
      have ho := hw.pending i m hm hi'
      rw [hp] at ho ⊢
      rw [hpe]
      exact him ho
    · obtain ⟨hi', him⟩ := hre i m hm hi hp
      have ho := hw.pending i m hm hi'
      rw [hp, HandshakeRole.peer_peer] at ho ⊢
      rw [hpe]
      exact him ho

lemma InStep.push (hw : w.InStep) (m : Sent S) (hsn : w'.sent = w.sent ++ [m])
    (hse : w'.session = w.session) (hde : w'.delivered = w.delivered)
    (hg : Genuine m.key m.plaintext m.associatedData m.encrypted.message)
    (han : m.header.previousChainLength ≤ ChainKey.defaultMaxMessages)
    (hpl : Placed (w.session m.sender) m.header)
    (hn : ∀ m' ∈ w.sent, m'.sender = m.sender → m'.tag ≠ m.tag)
    (hre : Receivable (w.session m.sender) (w.session m.sender.peer) m.header m.key) :
    w'.InStep := by
  have hal : ∀ {P : Sent S → Prop}, (∀ m' ∈ w.sent, P m') → P m → ∀ m' ∈ w'.sent, P m' := by
    intro P hP hm m' hm'
    rw [hsn] at hm'
    rcases List.mem_append.mp hm' with hm' | hm'
    · exact hP m' hm'
    · exact List.mem_singleton.mp hm' ▸ hm
  refine ⟨hse.symm ▸ hw.phase, hse.symm ▸ hw.regular, hal hw.genuine hg,
    hal hw.announced_le han, ?_, ?_, ?_⟩
  · rw [hse]
    exact hal hw.placed hpl
  · rw [hsn]
    apply List.pairwise_append.mpr
    refine ⟨hw.distinct, List.pairwise_singleton _ _, ?_⟩
    intro m₁ hm₁ m₂ hm₂ hsa
    obtain rfl := List.mem_singleton.mp hm₂
    exact hn m₁ hm₁ hsa
  · intro i m' hm' hi
    rw [hsn] at hm'
    rw [hse]
    rw [hde] at hi
    by_cases hlt : i < w.sent.length
    · rw [List.getElem?_append_left hlt] at hm'
      exact hw.pending i m' hm' hi
    · grind

section
variable {x : S.Scalar} (D : S.SymbolicDh) (hh : w.Honest) (hx : x ∉ w.scalars)
include D hh hx

lemma Honest.unseen (p : HandshakeRole) : Unseen (w.session p) x where
  remote := by
    intro hr
    obtain ⟨b, hb, heq⟩ := (hh.keys p).dhRemote _ hr
    exact hx (D.publicKey_injective heq ▸ hb)
  absent := by
    intro i
    cases hk : (w.session p).skippedMessageKeys.lookup (S.publicKey x, i) with
    | none => rfl
    | some k =>
      obtain ⟨⟨b, hb, heq⟩, -⟩ := (hh.keys p).skipped _ k hk
      exact absurd (D.publicKey_injective heq ▸ hb) hx

lemma Honest.placed_fresh {s : DoubleRatchetState S} (hs : s.dhLocal = some x) {m : Sent S}
    (hm : m ∈ w.sent) : Placed s m.header := by
  intro a ha hdh
  cases ha.symm.trans hs
  obtain ⟨b, hb, heq⟩ := hh.sent m hm
  exact absurd (D.publicKey_injective (heq.symm.trans hdh) ▸ hb) hx

end

section
variable {env : Env S} (K : S.SymbolicKdf) (D : S.SymbolicDh) (hw : w.InStep) (hh : w.Honest)
  (hx : env.newLocal ∉ w.scalars) (p : HandshakeRole)
include K D hw hh hx p

lemma InStep.rotate (hro : (w.session p).rootKey = (w.session p.peer).rootKey) :
    (w.setSession p (performDhRatchet env (w.session p))).InStep := by
  have hfo := hw.phase.level_of_eq K p hro
  obtain ⟨a, hf⟩ := hfo p
  obtain ⟨b, hf'⟩ := hfo p.peer
  rw [HandshakeRole.peer_peer] at hf'
  have hp : (w.setSession p (performDhRatchet env (w.session p))).session p.peer =
      w.session p.peer := by simp
  refine hw.update p rfl hp ?_ ?_ ?_ ?_ ?_
  · apply Phase.ahead p
    · rw [setSession_self, hp]
      exact ⟨_, _, _, Ahead.of_rotate D hro hf hf' (hh.unseen D hx p.peer)⟩
    · rw [setSession_self, hp]
      exact ⟨b, hf'.rotate⟩
  · rw [setSession_self]
    exact (hw.regular p).rotate hf'.remote
  · intro m hm _ _
    rw [setSession_self]
    exact hh.placed_fresh D hx (performDhRatchet_dhLocal env _) hm
  · intro i m _ hi _
    exact ⟨hi, fun hr => hr.of_follows hf⟩
  · intro i m _ hi _
    rw [setSession_self]
    exact ⟨hi, fun hr => hr.rotate hf'⟩

lemma InStep.rotateIfNeeded
    (hro : mustRotate env (w.session p) = true → (w.session p).rootKey = (w.session p.peer).rootKey)
    : (w.setSession p (rotateIfNeeded env (w.session p))).InStep := by
  cases hr : mustRotate env (w.session p) with
  | true =>
    rw [DoubleRatchetSession.rotateIfNeeded, if_pos hr]
    exact hw.rotate K D hh hx p (hro hr)
  | false =>
    rw [rotateIfNeeded_of_not hr, setSession, Function.update_eq_self]
    exact hw

end

lemma InStep.advance (hw : w.InStep) (p : HandshakeRole) {s' : DoubleRatchetState S}
    {c : ChainKey S} (ha : Advances (w.session p) s' c) : (w.setSession p s').InStep := by
  have hpe : (w.setSession p s').session p.peer = w.session p.peer := by simp
  refine hw.update p rfl hpe ?_ ?_ ?_ ?_ ?_
  · apply hw.phase.update p hpe
    all_goals rw [setSession_self]
    · exact ha.rootKey
    · exact fun a hf => ha.follows hf
    · exact fun a hf => ha.toSameReceiving.follows hf
    · exact fun x b r c' hah => ⟨_, ha.ahead hah⟩
    · exact fun x b r c' hah => ha.toSameReceiving.ahead hah
  · rw [setSession_self]
    exact ha.regular (hw.regular p)
  · intro m _ _ hp
    rw [setSession_self]
    exact ha.placed hp
  · intro i m _ hi _
    rw [setSession_self]
    exact ⟨hi, fun hr => hr.of_dhLocal ha.dhLocal⟩
  · intro i m _ hi _
    rw [setSession_self]
    exact ⟨hi, fun hr => ha.toSameReceiving.receivable hr⟩

lemma takeSendKey_advances {env : Env S} {s s₁ s' : DoubleRatchetState S} {slot : SendKey S}
    (h : takeSendKey env s = (.ok slot, s₁)) (hs' : s' = s₁ ∨ s' = recordSent env s₁) :
    ∃ c, Advances (rotateIfNeeded env s) s' c := by
  obtain ⟨c, a, sent, hc, hm, rfl⟩ := takeSendKey_frame h hs'
  exact ⟨c, ⟨rfl, rfl, rfl, rfl, rfl⟩, hc, rfl, hm, rfl⟩

section
variable {p : HandshakeRole} {env : Env S}
  (hrotated :
    (w.setSession p (DoubleRatchetSession.rotateIfNeeded env (w.session p))).InStep)
include hrotated

lemma InStep.advance_rotated {s' : DoubleRatchetState S} {c : ChainKey S}
    (ha : Advances (DoubleRatchetSession.rotateIfNeeded env (w.session p)) s' c) :
    (w.setSession p s').InStep := by
  have had := hrotated.advance p (c := c) (by rw [setSession_self]; exact ha)
  rwa [setSession, setSession, Function.update_idem] at had

lemma InStep.send_ok {co : HandshakeRole → Config} {pl ad : Bytes}
    {en : Encrypted S} {s' : DoubleRatchetState S}
    (ho : encryptMessage (co p) env (w.session p) pl ad = (.ok en, s')) :
    (w.send co p env pl ad).InStep := by
  rw [World.send_ok ho]
  obtain ⟨s₁, hta, hb, -, rfl⟩ := encryptMessage_ok ho
  obtain ⟨c, had⟩ := takeSendKey_advances hta (.inr rfl)
  have hs := hrotated.advance_rotated had
  obtain ⟨a, c', ha, hc', -, hm, hsl, rfl⟩ := takeSendKey_ok hta
  obtain rfl := Option.some.inj (hc'.symm.trans had.before)
  obtain ⟨ts, -, hh, -⟩ := buildMessage_ok hb
  have hdh : en.message.header.dhPublic = S.publicKey a := by rw [hh, hsl]
  have hnu : en.message.header.messageNumber = c'.index := by rw [hh, hsl]
  have hk : en.slot.messageKey = messageKeyAt c'.key 0 := by rw [hsl]
  refine hs.push ⟨p, pl, ad, en⟩ rfl rfl rfl (.of_buildMessage hb) ?_ ?_ ?_ ?_
  · have hre := hrotated.regular p
    rw [setSession_self] at hre
    simp only [Sent.header, hh]
    exact hre.previousCounter_le
  · intro a' _ _
    refine ⟨_, by rw [setSession_self]; exact had.after, ?_⟩
    simp only [Sent.header, ChainKey.advance]
    omega
  · -- earlier messages of the chain have smaller numbers
    intro m' hm' hse htg
    have hpl := hrotated.placed m' hm'
    rw [hse, setSession_self] at hpl
    obtain ⟨c'', hc'', hlt⟩ := hpl a ha ((congrArg Prod.fst htg).trans hdh)
    obtain rfl := Option.some.inj (hc''.symm.trans hc')
    have hn : m'.header.messageNumber = c''.index := (congrArg Prod.snd htg).trans hnu
    omega
  · have hne := hrotated.phase.receivable_next hrotated.regular p
      (h := en.message.header) (by rw [setSession_self]; exact ha)
      (by rw [setSession_self]; exact hc') hm hdh hnu
    rw [setSession_self, setSession_ne _ (HandshakeRole.peer_ne p)] at hne
    rw [setSession_self, setSession_ne _ (HandshakeRole.peer_ne p), Sent.key, hk]
    exact hne.of_dhLocal had.dhLocal

end

lemma InStep.send (K : S.SymbolicKdf) (D : S.SymbolicDh) (co : HandshakeRole → Config)
    (hw : w.InStep) (hh : w.Honest) {env : Env S} (hx : env.newLocal ∉ w.scalars)
    (p : HandshakeRole) (pl ad : Bytes)
    (hr : mustRotate env (w.session p) = true →
      (w.session p).rootKey = (w.session p.peer).rootKey) :
    (w.send co p env pl ad).InStep := by
  have hrotated := hw.rotateIfNeeded K D hh hx p hr
  cases ho : encryptMessage (co p) env (w.session p) pl ad with
  | mk r s' =>
    cases r with
    | error e =>
      rw [send_error ho]
      rcases encryptMessage_error ho with ⟨-, rfl⟩ | ⟨-, -, hta | ⟨slot, s₁, hta, hs₁⟩⟩
      · rwa [setSession, Function.update_eq_self]
      · rwa [takeSendKey_error hta]
      · obtain ⟨c, had⟩ := takeSendKey_advances hta (hs₁.imp And.left And.left)
        exact hrotated.advance_rotated had
    | ok en => exact hrotated.send_ok ho

end World

end Sibna
