import Sibna.Lib.Cursors
import Sibna.Snapshots.Calls

/-!
# Every branch has a chain of its own

`Traced` says what one operation does to the readers, and the invariant follows from that alone.
-/

namespace Sibna

open KeyAlgebra Cursors DoubleRatchetSession

namespace Branches
variable {S : Suite}

def readers (K : S.SymbolicKdf) (w : Branches S) : Readers Nat (KeyTerm SessionAtom S.Shared) where
  cursor := fun i => (w.objects i).bind (DoubleRatchetState.cursor K)
  log := w.used.map K.place

def Drawn (w : Branches S) (o : KeyTerm SessionAtom S.Shared) : Prop :=
  (∃ secret, o = .atom (.sessionChain secret)) ∨
    ∃ k x r, x ∈ w.scalars ∧ r ∈ w.adopted ∧ o = .chain k (S.diffieHellman x r)

structure Sound (K : S.SymbolicKdf) (D : S.SymbolicDh) (w : Branches S) : Prop where
  contributory : ∀ r ∈ w.adopted, D.contributory r
  objects : ∀ i s, w.objects i = some s → Anchored w.adopted s
  snapshots : ∀ d ∈ w.snapshots, Anchored w.adopted d.load
  apart : (w.readers K).Apart
  drawn : ∀ o, (w.readers K).Mentions o → w.Drawn o

/-- Where the object `i` can send from during an operation that draws `x`: where it stood, or
the beginning of a chain made with `x`. -/
inductive Base (K : S.SymbolicKdf) (w : Branches S) (x : Option S.Scalar)
    (adopted : List Bytes32) (i : Nat) : KeyTerm SessionAtom S.Shared × Nat → Prop where
  | current {p} (h : (w.readers K).cursor i = some p) : Base K w x adopted i p
  | opened {k : S.Key} {a : S.Scalar} {r : Bytes32} (ha : x = some a) (hr : r ∈ adopted) :
      Base K w x adopted i (K.place (kdfRk S k (S.diffieHellman a r)).2)

/-- What an operation can do to the cursors. -/
inductive Traced (K : S.SymbolicKdf) (w : Branches S) (x : Option S.Scalar)
    (adopted : List Bytes32) : Option (Nat × DoubleRatchetState S) → Option S.Key → Prop where
  | idle : Traced K w x adopted none none
  | closed {i : Nat} {s : DoubleRatchetState S} (h : s.cursor K = none) :
      Traced K w x adopted (some (i, s)) none
  | moved {i : Nat} {s : DoubleRatchetState S} {p} (n : Nat) (hp : Base K w x adopted i p)
      (h : s.cursor K = some (p.1, p.2 + n)) : Traced K w x adopted (some (i, s)) none
  | read {i : Nat} {s : DoubleRatchetState S} {p} {k : S.Key} (hp : Base K w x adopted i p)
      (h : s.cursor K = some (p.1, p.2 + 1)) (hk : K.place k = p) :
      Traced K w x adopted (some (i, s)) (some k)

variable {K : S.SymbolicKdf} {D : S.SymbolicDh} {w : Branches S}

lemma Sound.not_mentions (h : Sound K D w) {x : S.Scalar} (hx : x ∉ w.scalars)
    (hpu : S.publicKey x ∉ w.adopted) {r : Bytes32} (hr : D.contributory r)
    (k : KeyTerm SessionAtom S.Shared) :
    ¬ (w.readers K).Mentions (.chain k (S.diffieHellman x r)) := by
  intro hm
  rcases h.drawn _ hm with ⟨se, heq⟩ | ⟨k', x', r', hx', hr', heq⟩
  · cases heq
  have hdh := (KeyTerm.chain.inj heq).2
  rcases D.dh_eq hr hdh with ⟨rfl, -⟩ | ⟨rfl, -⟩
  · exact hx hx'
  · exact hpu hr'

lemma readers_put (w : Branches S) (i : Nat) (s : DoubleRatchetState S) :
    (w.put (some (i, s))).readers K = (w.readers K).place i (s.cursor K) := by
  have hcu : (fun j => (Function.update w.objects i (some s) j).bind
      (DoubleRatchetState.cursor K)) =
      Function.update (fun j => (w.objects j).bind (DoubleRatchetState.cursor K)) i
        (s.cursor K) := by
    funext j
    by_cases hj : j = i
    · subst hj
      simp
    · simp [Function.update_of_ne hj]
  simp only [readers, put, Readers.place, hcu]

section
variable {x : Option S.Scalar} {adopted : List Bytes32}

section
variable (h : Sound K D w) (hx : ∀ a ∈ x, a ∉ w.scalars ∧ S.publicKey a ∉ w.adopted)
  (had : ∀ r ∈ adopted, D.contributory r)
include h hx had

lemma Sound.place_base {i : Nat} {p} (hp : Base K w x adopted i p) :
    ((w.readers K).place i (some p)).Apart ∧
      ((w.readers K).Mentions p.1 ∨
        ∃ k a r, a ∈ x ∧ r ∈ adopted ∧ p.1 = .chain k (S.diffieHellman a r)) := by
  cases hp with
  | current hcu => exact ⟨h.apart.advance hcu (Nat.le_refl _), .inl (.inl ⟨i, p.2, hcu⟩)⟩
  | @opened k a r ha hr =>
    obtain ⟨hx, hpu⟩ := hx a ha
    rw [K.place_kdfRk]
    exact ⟨h.apart.start i 0 (h.not_mentions hx hpu (had r hr) _), .inr ⟨_, a, r, ha, hr, rfl⟩⟩

lemma Traced.apart {wr : Option (Nat × DoubleRatchetState S)} {key : Option S.Key}
    (ht : Traced K w x adopted wr key) (w' : Branches S)
    (hob : w'.objects = (w.put wr).objects) (hu : w'.used = w.used ++ key.toList) :
    (w'.readers K).Apart ∧ ∀ o, (w'.readers K).Mentions o → (w.readers K).Mentions o ∨
      ∃ k a r, a ∈ x ∧ r ∈ adopted ∧ o = .chain k (S.diffieHellman a r) := by
  have hre : w'.readers K = { (w.put wr).readers K with
      log := (w.readers K).log ++ key.toList.map K.place } := by
    simp only [readers, hob, hu, List.map_append]
  rw [hre]
  cases ht with
  | idle =>
    simp only [Option.toList_none, List.map_nil, List.append_nil]
    exact ⟨h.apart, fun o ho => .inl ho⟩
  | @closed i s hs =>
    simp only [Option.toList_none, List.map_nil, List.append_nil, readers_put, hs]
    refine ⟨h.apart.close i, ?_⟩
    intro o ho
    rcases Readers.mentions_place (q := none) ho with hol | ⟨n, hn⟩
    · exact .inl hol
    · cases hn
  | @moved i s p n hp hs =>
    obtain ⟨hpl, hme⟩ := h.place_base hx had hp
    have hav := hpl.advance (i := i) (Readers.place_cursor_self _ i _) (Nat.le_add_right p.2 n)
    rw [Readers.place_place] at hav
    simp only [Option.toList_none, List.map_nil, List.append_nil, readers_put, hs]
    refine ⟨hav, ?_⟩
    intro o ho
    rcases Readers.mentions_place (q := some _) ho with hol | ⟨m, hm⟩
    · exact .inl hol
    · cases hm
      exact hme
  | @read i s p k hp hs hk =>
    obtain ⟨hpl, hme⟩ := h.place_base hx had hp
    have hcu := Readers.place_cursor_self (w.readers K) i (some p)
    have hra := hpl.read hcu
    rw [Readers.place_read] at hra
    simp only [Option.toList_some, List.map_cons, hk, readers_put, hs]
    refine ⟨hra, ?_⟩
    intro o ho
    have hb := Readers.mentions_read hcu (o := o) (by rwa [Readers.place_read])
    rcases Readers.mentions_place hb with hol | ⟨m, hm⟩
    · exact .inl hol
    · cases hm
      exact hme

end

end

variable {config : Nat → Config}

variable {i : Nat} {env : Env S} {ad : Bytes} {adopted : List Bytes32} {s s' : DoubleRatchetState S}

lemma readers_cursor (hi : w.objects i = some s) : (w.readers K).cursor i = s.cursor K := by
  simp only [readers, hi, Option.bind_some]

lemma Traced.stay {x : Option S.Scalar} (hi : w.objects i = some s) (h : s'.cursor K = s.cursor K)
    : Traced K w x adopted (some (i, s')) none := by
  cases hs : s.cursor K with
  | none => exact Traced.closed (h.trans hs)
  | some p => exact Traced.moved 0 (Base.current ((readers_cursor hi).trans hs)) (h.trans hs)

lemma Base.rotated (hi : w.objects i = some s) {r : Bytes32} (hr : s.dhRemote = some r)
    (hm : r ∈ adopted) {c : ChainKey S} (hc : (rotateIfNeeded env s).sendingChain = some c) :
    Base K w (some env.newLocal) adopted i (K.place c.key) := by
  by_cases hro : mustRotate env s = true
  · rw [rotateIfNeeded, if_pos hro, performDhRatchet_some hr, Option.some.injEq] at hc
    rw [← hc]
    exact Base.opened rfl hm
  · rw [rotateIfNeeded, if_neg hro] at hc
    exact Base.current ((readers_cursor hi).trans (DoubleRatchetState.cursor_of_sending K hr hc))

lemma Sound.encrypt_stalled (h : Sound K D w) (hi : w.objects i = some s) (hr : s.dhRemote = none)
    {p : Bytes} (hst : w.Stalls (.encrypt i env p ad)) {m : Encrypted S} :
    encryptMessage (config i) env s p ad ≠ (.ok m, s') := by
  intro hen
  obtain ⟨s₁, hta, -⟩ := encryptMessage_ok hen
  obtain ⟨a, c, ha, hc, -, hlt, -⟩ := takeSendKey_ok hta
  rw [rotateIfNeeded_sending_of_none hr] at hc
  rcases (h.objects i s hi).rotate_stalled hr (hst s hi hr) hc with hn | hm
  · rw [hn] at ha
    cases ha
  · omega

lemma Sound.traced_encrypt (h : Sound K D w) {p : Bytes}
    (hst : w.Stalls (.encrypt i env p ad)) (hi : w.objects i = some s)
    (hsu : ∀ r ∈ w.adopted, r ∈ adopted) {o : Except ProtocolError (Encrypted S)}
    (hen : encryptMessage (config i) env s p ad = (o, s')) :
    Traced K w (some env.newLocal) adopted (some (i, s'))
      (o.toOption.map fun m => m.slot.messageKey) := by
  have hre : s'.dhRemote = s.dhRemote := by
    rcases encryptMessage_frame hen with rfl | ⟨_, _, _, rfl, -⟩
    · rfl
    · exact rotateIfNeeded_dhRemote env s
  cases hr : s.dhRemote with
  | none =>
    cases o with
    | ok m => exact absurd hen (h.encrypt_stalled hi hr hst)
    | error e => exact Traced.closed (DoubleRatchetState.cursor_of_none K (hre.trans hr))
  | some r =>
    have hm := hsu r ((h.objects i s hi).remote_mem hr)
    have hcu : ∀ c', s'.sendingChain = some c' → s'.cursor K = some (K.place c'.key) :=
      fun c' => DoubleRatchetState.cursor_of_sending K (hre.trans hr)
    cases o with
    | ok m =>
      obtain ⟨s₁, hta, -, -, rfl⟩ := encryptMessage_ok hen
      obtain ⟨a, c, -, hc, -, -, hsl, rfl⟩ := takeSendKey_ok hta
      have hk : K.place m.slot.messageKey = K.place c.key := by
        rw [hsl]
        exact K.place_messageKeyAt c.key
      refine Traced.read (Base.rotated hi hr hm hc) ?_ hk
      rw [← K.place_chainAt_one]
      exact hcu _ rfl
    | error e =>
      rcases encryptMessage_frame hen with rfl | ⟨se, ac, sent, rfl, hs⟩
      · exact Traced.stay hi rfl
      rcases hs with rfl | ⟨c, hc, -, rfl⟩
      · cases hc : (rotateIfNeeded env s).sendingChain with
        | none =>
          apply Traced.closed
          simp only [DoubleRatchetState.cursor, Option.map_none, Option.bind_fun_none]
        | some c =>
          refine Traced.moved 0 (Base.rotated hi hr hm hc) ?_
          rw [← hc]
          exact hcu c hc
      · refine Traced.moved 1 (Base.rotated hi hr hm hc) ?_
        rw [← K.place_chainAt_one]
        exact hcu _ rfl

lemma Traced.decrypt {me : Bytes} (hi : w.objects i = some s) {d : Decrypted S}
    (hde : decryptMessage (config i) env s me ad = (.ok d, s')) :
    Traced K w (some env.newLocal) (d.message.header.dhPublic :: w.adopted) (some (i, s')) none :=
    by
  rcases decryptMessage_frame hde with hk | ht
  · exact Traced.stay hi (DoubleRatchetState.cursor_congr K hk.dhRemote (by rw [hk.sending]))
  · obtain ⟨k, hk⟩ := ht.sending
    exact Traced.moved 0 (Base.opened rfl (.head _))
      (DoubleRatchetState.cursor_of_sending K ht.dhRemote hk)

lemma Traced.restored {d : SavedState S} (hi : w.objects i = some s)
    (hd : Anchored w.adopted d.load) (hs' : Restored env s d s') :
    Traced K w (some env.newLocal) w.adopted (some (i, s')) none := by
  cases hs' with
  | refused => exact Traced.stay hi rfl
  | unanchored ca hb => exact Traced.closed (DoubleRatchetState.cursor_of_none K rfl)
  | @receiver ca r hb hs =>
    apply Traced.closed
    have hn : d.load.sendingChain = none := hs
    simp only [DoubleRatchetState.cursor, hn, Option.map_none, Option.bind_some]
  | @ratcheted ca r hb =>
    obtain ⟨r', hm, heq⟩ := hd.bytes _ hb
    obtain rfl := Subtype.ext heq
    refine Traced.moved 0 (Base.opened (k := d.rootKey) rfl hm) ?_
    exact DoubleRatchetState.cursor_of_sending K (r := r) (c := ChainKey.new _ _) rfl rfl

structure Effect (K : S.SymbolicKdf) (w : Branches S) (x : Option S.Scalar)
    (adopted : List Bytes32) (write : Option (Nat × DoubleRatchetState S)) (key : Option S.Key) :
    Prop where
  anchored : ∀ i s, write = some (i, s) → Anchored adopted s
  traced : Traced K w x adopted write key

section
variable {x : Option S.Scalar} {adopted : List Bytes32}

lemma Effect.none : Effect K w x adopted none none where
  anchored := fun i s h => by cases h
  traced := Traced.idle

lemma Effect.some {i : Nat} {s : DoubleRatchetState S} {key : Option S.Key}
    (ha : Anchored adopted s) (ht : Traced K w x adopted (some (i, s)) key) :
    Effect K w x adopted (some (i, s)) key where
  anchored := by
    intro j t h
    cases h
    exact ha
  traced := ht

lemma Effect.map {α : Type} {o : Option α} {i : Nat} {f : α → DoubleRatchetState S}
    (h : ∀ a, o = Option.some a → Effect K w x adopted (Option.some (i, f a)) Option.none) :
    Effect K w x adopted (o.map fun a => (i, f a)) Option.none := by
  cases o with
  | none => exact Effect.none
  | some a => exact h a rfl

end

lemma Sound.effect_renumber (h : Sound K D w) {x : Option S.Scalar} (hi : w.objects i = some s)
    {f : ChainKey S → ChainKey S} (ac : Nat)
    (hf : ∀ c, (f c).maxMessages = c.maxMessages ∧ c.index ≤ (f c).index)
    (hk : ∀ c, (f c).key = c.key) :
    Effect K w x w.adopted (some (i, { s with
      sendingChain := s.sendingChain.map f, lastActivity := ac })) none := by
  apply Effect.some ((h.objects i s hi).renumber ac hf)
  apply Traced.stay hi
  exact DoubleRatchetState.cursor_congr K rfl (by simp [Function.comp_def, hk])

lemma Sound.effect_encrypt (h : Sound K D w) (i : Nat) (env : Env S) (p ad : Bytes)
    (hst : w.Stalls (.encrypt i env p ad)) :
    Effect K w (some env.newLocal) w.adopted (w.writes config (.encrypt i env p ad))
    (w.uses config (.encrypt i env p ad)) := by
  simp only [writes, uses]
  cases hi : w.objects i with
  | none => exact Effect.none
  | some s =>
    generalize hen : encryptMessage (config i) env s p ad = o
    simp only [Option.map_some, Option.bind_some, hen]
    exact Effect.some ((h.objects i s hi).encrypt (hst s hi) hen)
      (h.traced_encrypt hst hi (fun r hr => hr) hen)

lemma Sound.effect_decrypt (h : Sound K D w) (i : Nat) (env : Env S) (me ad : Bytes) :
    Effect K w (some env.newLocal) ((w.adopts config (.decrypt i env me ad)).toList ++ w.adopted)
    (w.writes config (.decrypt i env me ad)) none := by
  simp only [writes, adopts]
  cases hi : w.objects i with
  | none => exact Effect.none
  | some s =>
    generalize hde : decryptMessage (config i) env s me ad = o
    obtain ⟨o, s'⟩ := o
    simp only [Option.map_some, Option.bind_some, hde]
    cases o with
    | error e =>
      rw [decryptMessage_error hde]
      exact Effect.some (h.objects i s hi) (Traced.stay hi rfl)
    | ok d => exact Effect.some ((h.objects i s hi).decrypt hde) (Traced.decrypt hi hde)

lemma Sound.effect (h : Sound K D w) (op : Operation S) (hst : w.Stalls op) :
    Effect K w op.draws ((w.adopts config op).toList ++ w.adopted) (w.writes config op)
    (w.uses config op) := by
  cases op with
  | create i env now =>
    have han : Anchored w.adopted (new (config i) env.newLocal now) := by
      refine ⟨fun b hb => ?_, fun r hr => ?_, fun _ => rfl, fun _ c hc => ?_⟩
      · cases hb
      · cases hr
      · cases hc
    exact Effect.some han (Traced.closed (DoubleRatchetState.cursor_of_none K rfl))
  | encrypt i env p ad => exact h.effect_encrypt i env p ad hst
  | decrypt i env me ad => exact h.effect_decrypt i env me ad
  | reserveNonces i env co =>
    apply Effect.map
    intro s hi
    obtain ⟨ac, heq⟩ := reserveNonces_eq env s co
    rw [heq]
    exact h.effect_renumber hi ac (fun c => ⟨rfl, Nat.le_refl _⟩) fun c => rfl
  | jumpToReservation i env =>
    apply Effect.map
    intro s hi
    obtain ⟨ac, heq⟩ := jumpToReservation_eq env s
    rw [heq]
    exact h.effect_renumber hi ac (fun c => ⟨rfl, Nat.le_max_left _ _⟩) fun c => rfl
  | serializeState i => exact Effect.none
  | deserializeState i n env =>
    simp only [writes]
    cases hi : w.objects i with
    | none => exact Effect.none
    | some s =>
      apply Effect.map
      intro d hn
      have hd := h.snapshots d (List.mem_of_getElem? hn)
      have hre := restored_deserializeState env s d
      exact Effect.some ((h.objects i s hi).restored hd hre) (Traced.restored hi hd hre)
  | loadContext i n env =>
    apply Effect.map
    intro d hn
    have hd := h.snapshots d (List.mem_of_getElem? hn)
    obtain ⟨ac, heq⟩ := jumpToReservation_eq env d.load
    rw [SecureStorage.loadSession, heq]
    apply Effect.some
    · exact hd.renumber ac fun c => ⟨rfl, Nat.le_max_left _ _⟩
    · exact Traced.closed (DoubleRatchetState.cursor_of_none K rfl)

lemma put_objects {wr : Option (Nat × DoubleRatchetState S)} {j : Nat}
    {t : DoubleRatchetState S} (h : (w.put wr).objects j = some t) :
    w.objects j = some t ∨ ∃ i, wr = some (i, t) := by
  cases wr with
  | none => exact .inl h
  | some e =>
    by_cases hj : j = e.1
    · subst hj
      simp only [put, Function.update_self, Option.some.injEq] at h
      exact .inr ⟨e.1, by rw [← h]⟩
    · simp only [put, Function.update_of_ne hj] at h
      exact .inl h

lemma sound_step {op : Operation S} (h : Sound K D w) (hf : w.Fresh op)
    (hco : w.Contributory D config op) (hst : w.Stalls op) : Sound K D (w.step config op) := by
  have hef : Effect K w op.draws ((w.adopts config op).toList ++ w.adopted) _ (w.uses config op) :=
    h.effect op hst
  have had : ∀ r ∈ (w.adopts config op).toList ++ w.adopted, D.contributory r := by
    intro r hr
    rcases List.mem_append.mp hr with hn | hol
    · exact hco r (Option.mem_toList.mp hn)
    · exact h.contributory r hol
  have hsu : ∀ r ∈ w.adopted, r ∈ (w.adopts config op).toList ++ w.adopted :=
    fun r hr => List.mem_append_right _ hr
  obtain ⟨hap, hm⟩ :=
    Traced.apart h hf had hef.traced (w.step config op) rfl rfl
  refine ⟨had, ?_, ?_, hap, ?_⟩
  · intro j t ht
    rcases put_objects ht with hol | ⟨i, hi⟩
    · exact (h.objects j t hol).mono hsu
    · exact hef.anchored i t hi
  · intro d hd
    rcases List.mem_append.mp hd with hol | hn
    · exact (h.snapshots d hol).mono hsu
    cases op with
    | serializeState i =>
      obtain ⟨s, hs, rfl⟩ := Option.map_eq_some_iff.mp (Option.mem_toList.mp hn)
      exact ((h.objects i s hs).mono hsu).save
    | _ => cases hn
  · intro o ho
    rcases hm o ho with hol | ⟨k, a, r, ha, hr, rfl⟩
    · rcases h.drawn o hol with hat | ⟨k, x, r, hx, hr, heq⟩
      · exact .inl hat
      · exact .inr ⟨k, x, r, List.mem_append_right _ hx, hsu r hr, heq⟩
    · exact .inr ⟨k, a, r, List.mem_append_left _ (Option.mem_toList.mpr ha), hr, rfl⟩

lemma anchored_created (hs : Created s) : Anchored s.dhRemote.toList s := by
  rcases hs with ⟨config, x, now, rfl⟩ | ⟨se, x, r, config, role, cl, hok⟩
  · refine ⟨fun b hb => ?_, fun r hr => ?_, fun _ => rfl, fun _ c hc => ?_⟩
    · cases hb
    · cases hr
    · cases hc
  · obtain ⟨-, now, -, rfl⟩ := fromSharedSecret_ok hok
    refine ⟨fun b hb => ?_, fun r' hr => ?_, fun hn => ?_, fun hn => ?_⟩
    · cases hb
      exact ⟨r, List.mem_singleton_self r, rfl⟩
    · cases hr
      rfl
    · cases hn
    · cases hn

lemma cursor_created (hs : Created s) :
    s.cursor K = none ∨ ∃ secret, s.cursor K = some (.atom (.sessionChain secret), 0) := by
  rcases hs with ⟨config, x, now, rfl⟩ | ⟨secret, x, r, config, role, cl, hok⟩
  · exact .inl (DoubleRatchetState.cursor_of_none K rfl)
  obtain ⟨-, now, -, rfl⟩ := fromSharedSecret_ok hok
  cases role with
  | initiator =>
    refine .inr ⟨secret, ?_⟩
    rw [DoubleRatchetState.cursor_of_sending K (r := r)
      (c := ChainKey.new _ (S.hkdfSession secret).2) rfl rfl]
    simp only [Suite.SymbolicKdf.place, Suite.SymbolicKdf.pos, ChainKey.new, K.term_session_chain,
      KeyTerm.origin, KeyTerm.pos]
  | responder => exact .inl rfl

lemma initial_objects {t : DoubleRatchetState S} (h : (initial s).objects i = some t) :
    i = 0 ∧ t = s := by
  by_cases hi : i = 0
  · subst hi
    simp only [initial, Function.update_self, Option.some.injEq] at h
    exact ⟨rfl, h.symm⟩
  · simp [initial, Function.update_of_ne hi] at h

lemma sound_initial (hs : Created s) (hr : ∀ r ∈ s.dhRemote, D.contributory r) :
    Sound K D (initial s) := by
  have hcu : ∀ {i p}, ((initial s).readers K).cursor i = some p → i = 0 ∧ s.cursor K = some p := by
    intro i p hp
    obtain ⟨t, ht, hp⟩ := Option.bind_eq_some_iff.mp hp
    obtain ⟨rfl, rfl⟩ := initial_objects ht
    exact ⟨rfl, hp⟩
  constructor
  · intro r hme
    exact hr r (Option.mem_toList.mp hme)
  · intro i t ht
    obtain ⟨-, rfl⟩ := initial_objects ht
    exact anchored_created hs
  · rintro d ⟨⟩
  · constructor
    · grind
    · rintro i o n m _ ⟨⟩
    · exact List.nodup_nil
  · rintro o (⟨i, n, hi⟩ | ⟨n, hn⟩)
    · rcases cursor_created (K := K) hs with hno | ⟨se, hso⟩
      · simp_all
      · rw [(hcu hi).2] at hso
        cases hso
        exact .inl ⟨se, rfl⟩
    · cases hn

end Branches

end Sibna
