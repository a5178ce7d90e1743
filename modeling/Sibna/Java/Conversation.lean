import Sibna.Java.DoubleRatchet

/-!
# Conversations between two Java sessions

Messages are delivered by their index, and sessions written out and restored. No object opens what
another one sends.
-/

namespace Sibna.Java

open DoubleRatchet

structure Sent where
  sender : HandshakeRole
  plaintext : Bytes
  wire : Bytes
  deriving DecidableEq

structure Conversation (J : CryptoProvider) where
  object : HandshakeRole → DoubleRatchet J
  sent : List Sent
  delivered : List Nat

inductive Action (J : CryptoProvider) where
  | encrypt (p : HandshakeRole) (draws : Draws J) (plaintext : Bytes)
  | deliver (i : Nat) (draws : Draws J)
  | reload (p : HandshakeRole) (draws : Draws J)

namespace Conversation
variable {J : CryptoProvider} {I : J.Ideal} {w : Conversation J}

def fresh (secret : J.Secret) (keyPair : J.PrivateKey) : Conversation J where
  object p := create secret (p = .initiator) keyPair
  sent := []
  delivered := []

section
variable (w : Conversation J)

def result (m : Sent) (draws : Draws J) : Except Exception Bytes :=
  ((w.object m.sender.peer).decrypt draws m.wire).1

def step : Action J → Conversation J
  | .encrypt p draws plaintext =>
    match (w.object p).encrypt draws plaintext with
    | (.error _, s) => { w with object := Function.update w.object p s }
    | (.ok wire, s) =>
      { w with object := Function.update w.object p s, sent := w.sent ++ [⟨p, plaintext, wire⟩] }
  | .deliver i draws =>
    match w.sent[i]? with
    | none => w
    | some m =>
      { w with
        object := Function.update w.object m.sender.peer
          ((w.object m.sender.peer).decrypt draws m.wire).2
        delivered := i :: w.delivered }
  | .reload p draws => { w with object := Function.update w.object p ((w.object p).reload draws) }

/-- A first delivery returns the plaintext, a repeated one throws. -/
def Delivers : Action J → Prop
  | .deliver i draws => ∀ m, w.sent[i]? = some m →
      if i ∈ w.delivered then ∃ e, w.result m draws = .error e
      else w.result m draws = .ok m.plaintext
  | _ => True

def Silent : Action J → Prop
  | .deliver i _ => w.sent[i]? = none
  | _ => True

lemma step_sent (e : Action J) : w.sent <+: (w.step e).sent := by
  cases e with
  | encrypt p dr pl =>
    simp only [step]
    split
    · exact List.prefix_rfl
    · exact List.prefix_append _ _
  | deliver i dr =>
    simp only [step]
    split <;> exact List.prefix_rfl
  | reload p dr => exact List.prefix_rfl

lemma step_delivered (e : Action J) : (w.step e).delivered = w.delivered ∨ ∃ i draws m,
    e = .deliver i draws ∧ w.sent[i]? = some m ∧ (w.step e).delivered = i :: w.delivered := by
  cases e with
  | encrypt p draws pl =>
    simp only [step]
    split <;> exact .inl rfl
  | deliver i draws =>
    simp only [step]
    cases hm : w.sent[i]? with
    | none => exact .inl rfl
    | some m => exact .inr ⟨i, draws, m, rfl, hm, rfl⟩
  | reload p draws => exact .inl rfl

end

structure Sound (I : J.Ideal) (w : Conversation J) : Prop where
  object : ∀ p, (w.object p).Sound I
  sent : ∀ m ∈ w.sent, ∃ s draws, DoubleRatchet.Sound I s ∧
    (DoubleRatchet.encrypt draws s m.plaintext).1 = .ok m.wire
  delivered : ∀ i ∈ w.delivered, i < w.sent.length

lemma Sound.update (h : w.Sound I) (p : HandshakeRole) {s : DoubleRatchet J} (hs : s.Sound I)
    (q : HandshakeRole) : (Function.update w.object p s q).Sound I := by
  by_cases hq : q = p
  · simp_all
  · rw [Function.update_of_ne hq]
    exact h.object q

lemma Sound.step (h : w.Sound I) (e : Action J) : (w.step e).Sound I := by
  have hde : ∀ i ∈ (w.step e).delivered, i < (w.step e).sent.length := by
    intro i hi
    refine Nat.lt_of_lt_of_le ?_ (w.step_sent e).length_le
    rcases w.step_delivered e with hd | ⟨j, dr, m, -, hm, hd⟩
    · exact h.delivered i (hd ▸ hi)
    · rcases List.mem_cons.mp (hd ▸ hi) with rfl | hi
      · exact (List.getElem?_eq_some_iff.mp hm).1
      · exact h.delivered i hi
  cases e with
  | encrypt p dr pl =>
    have hs := (h.object p).encrypt dr pl
    simp only [Conversation.step] at hde ⊢
    cases hc : (w.object p).encrypt dr pl with
    | mk r s =>
      rw [hc] at hs hde
      cases r with
      | error e => exact ⟨h.update p hs, h.sent, hde⟩
      | ok wire =>
        refine ⟨h.update p hs, fun m hm => ?_, hde⟩
        rcases List.mem_append.mp hm with hm | hm
        · exact h.sent m hm
        · cases List.mem_singleton.mp hm
          exact ⟨_, dr, h.object p, congrArg Prod.fst hc⟩
  | deliver i dr =>
    simp only [Conversation.step] at hde ⊢
    cases hm : w.sent[i]? with
    | none => exact h
    | some m =>
      rw [hm] at hde
      exact ⟨h.update _ ((h.object _).decrypt dr m.wire).1, h.sent, hde⟩
  | reload p dr => exact ⟨h.update p ((h.object p).reload dr), h.sent, hde⟩

lemma sound_fresh (I : J.Ideal) (se : J.Secret) (kp : J.PrivateKey) : (fresh se kp).Sound I :=
  ⟨fun _ => sound_create I se _ kp, nofun, nofun⟩

lemma Sound.not_opened (h : w.Sound I) {i : Nat} {m : Sent} (hm : w.sent[i]? = some m)
    {r : DoubleRatchet J} (hr : r.Sound I) (dr : Draws J) :
    ∃ e, (r.decrypt dr m.wire).1 = .error e := by
  obtain ⟨s, d', hs, hw⟩ := h.sent m (List.mem_of_getElem? hm)
  exact hs.decrypt_encrypt hr hw dr

/-- In every run of the two objects, deliveries are as they should be exactly if there are none. -/
theorem java_delivery_iff (I : J.Ideal) (secret : J.Secret) (keyPair : J.PrivateKey)
    (es : List (Action J)) : Runs.Guarded step Delivers (fresh secret keyPair) es ↔
    Runs.Guarded step Silent (fresh secret keyPair) es := by
  refine Runs.Guarded.iff_of_invariant (I := fun w => w.Sound I ∧ w.delivered = []) ?_ ?_
    (Runs.guarded_of_mem (Q := fun _ => True) _ fun _ _ => trivial)
      ⟨sound_fresh I secret keyPair, rfl⟩
  · rintro w e ⟨hw, hnone⟩ -
    cases e with
    | deliver i draws =>
      constructor
      · intro h
        cases hm : w.sent[i]? with
        | none => exact hm
        | some m =>
          have hok := h m hm
          rw [hnone, if_neg List.not_mem_nil] at hok
          obtain ⟨e, he⟩ := hw.not_opened hm (hw.object m.sender.peer) draws
          cases he.symm.trans hok
      · intro h m hm
        cases (show w.sent[i]? = none from h).symm.trans hm
    | _ => exact Iff.rfl
  · rintro w e ⟨hw, hnone⟩ - hsilent
    refine ⟨hw.step e, ?_⟩
    rcases step_delivered w e with h | ⟨i, draws, m, rfl, hm, -⟩
    · exact h.trans hnone
    · cases (show w.sent[i]? = none from hsilent).symm.trans hm

/-- The first message of the initiator is lost on the responder, which has no key pair. -/
theorem first_message_refused :
    let w := (fresh (J := symbolic) [] (1 : UInt64)).step
      (.encrypt .initiator (symbolicDraws 3) [7])
    w.sent.map (fun m => (m.plaintext, w.result m (symbolicDraws 4))) =
      [([7], .error .nullPointer)] := by
  decide +kernel

end Conversation

/-- A conversation after the object of `p` was restored, and the object as it was, which makes the
same calls. -/
structure Restored (J : CryptoProvider) where
  original : DoubleRatchet J
  conversation : Conversation J

namespace Restored
variable {J : CryptoProvider} {I : J.Ideal} {p : HandshakeRole}

section
variable (p : HandshakeRole) (n : Nat) (t : Restored J)

def restore (draws : Draws J) (w : Conversation J) : Restored J where
  original := w.object p
  conversation := w.step (.reload p draws)

def step (e : Action J) : Restored J where
  original :=
    match e with
    | .encrypt q draws plaintext =>
      if q = p then (t.original.encrypt draws plaintext).2 else t.original
    | .deliver i draws =>
      match t.conversation.sent[i]? with
      | none => t.original
      | some m => if m.sender = p then t.original else (t.original.decrypt draws m.wire).2
    | .reload _ _ => t.original
  conversation := t.conversation.step e

/-- The peer opens what was sent after the first `n` messages, the first time it gets it, and the
restored object opens what the original would have opened. -/
def Behaves : Action J → Prop
  | .deliver i draws => ∀ m, t.conversation.sent[i]? = some m →
      (m.sender = p → n ≤ i → i ∉ t.conversation.delivered →
        t.conversation.result m draws = .ok m.plaintext) ∧
      (m.sender ≠ p → ∀ plaintext, (t.original.decrypt draws m.wire).1 = .ok plaintext →
        t.conversation.result m draws = .ok plaintext)
  | _ => True

def Mute : Action J → Prop
  | .deliver i _ => ∀ m, t.conversation.sent[i]? = some m → m.sender = p → i < n
  | _ => True

end

structure Sound (I : J.Ideal) (p : HandshakeRole) (n : Nat) (t : Restored J) : Prop where
  original : t.original.Sound I
  conversation : t.conversation.Sound I
  delivered : ∀ i ∈ t.conversation.delivered, ∃ m, t.conversation.sent[i]? = some m ∧
    (m.sender = p → i < n)

lemma Sound.step {n : Nat} {t : Restored J} (h : t.Sound I p n) {e : Action J}
    (hmu : t.Mute p n e) : (t.step p e).Sound I p n := by
  refine ⟨?_, h.conversation.step e, ?_⟩
  · cases e with
    | encrypt q dr pl =>
      simp only [Restored.step]
      split
      · exact h.original.encrypt dr pl
      · exact h.original
    | deliver i dr =>
      simp only [Restored.step]
      split
      · exact h.original
      · split
        · exact h.original
        · exact (h.original.decrypt dr _).1
    | reload q dr => exact h.original
  · intro i hi
    have hke : ∃ m, t.conversation.sent[i]? = some m ∧ (m.sender = p → i < n) := by
      rcases t.conversation.step_delivered e with hd | ⟨j, dr, m, rfl, hm, hd⟩
      · exact h.delivered i (hd ▸ hi)
      · rcases List.mem_cons.mp (hd ▸ hi : i ∈ j :: t.conversation.delivered) with rfl | hi
        · exact ⟨m, hm, hmu m hm⟩
        · exact h.delivered i hi
    obtain ⟨m, hm, hlt⟩ := hke
    obtain ⟨l, hl⟩ := t.conversation.step_sent e
    refine ⟨m, ?_, hlt⟩
    change (t.conversation.step e).sent[i]? = some m
    rw [← hl, List.getElem?_append_left (List.getElem?_eq_some_iff.mp hm).1, hm]

/-- From every state the two objects can reach: a restored session behaves like the one it was
written from exactly if nothing it sends is delivered. The original would not have opened anything
either. -/
theorem java_restored_iff (I : J.Ideal) (secret : J.Secret) (keyPair : J.PrivateKey)
    (before : List (Action J)) (w : Conversation J)
    (hw : w = Runs.exec Conversation.step (.fresh secret keyPair) before) (p : HandshakeRole)
    (draws : Draws J) (es : List (Action J)) :
    Runs.Guarded (step p) (Behaves p w.sent.length) (restore p draws w) es ↔
      Runs.Guarded (step p) (Mute p w.sent.length) (restore p draws w) es := by
  have hsound : w.Sound I := by
    rw [hw]
    exact Runs.exec_invariant (fun _ e h => h.step e) before
      (Conversation.sound_fresh I secret keyPair)
  have hstart : (restore p draws w).Sound I p w.sent.length := by
    refine ⟨hsound.object p, hsound.step (.reload p draws), fun i hi => ?_⟩
    have hlt := hsound.delivered i hi
    exact ⟨_, List.getElem?_eq_getElem hlt, fun _ => hlt⟩
  refine Runs.Guarded.iff_of_invariant ?_ (fun t e h _ => h.step)
    (Runs.guarded_of_mem (Q := fun _ => True) _ fun _ _ => trivial) hstart
  intro t e ht _
  cases e with
  | deliver i draws =>
    refine forall₂_congr fun m hm => ⟨?_, ?_⟩
    · rintro ⟨hfirst, -⟩ hsender
      by_contra hge
      have hfresh : i ∉ t.conversation.delivered := by
        intro hi
        obtain ⟨m', hm', hlt⟩ := ht.delivered i hi
        cases hm.symm.trans hm'
        exact hge (hlt hsender)
      obtain ⟨e, he⟩ := ht.conversation.not_opened hm (ht.conversation.object m.sender.peer) draws
      cases he.symm.trans (hfirst hsender (Nat.le_of_not_lt hge) hfresh)
    · intro hlt
      refine ⟨fun hsender hge _ => absurd (hlt hsender) (Nat.not_lt.mpr hge), ?_⟩
      intro _ plaintext hopened
      obtain ⟨e, he⟩ := ht.conversation.not_opened hm ht.original draws
      cases he.symm.trans hopened
  | _ => exact Iff.rfl

theorem restored_sends :
    Runs.Guarded (step .responder) (Behaves .responder 0)
    (restore .responder (symbolicDraws 5) (.fresh [] (1 : UInt64)))
    [.encrypt .initiator (symbolicDraws 6) [7], .deliver 0 (symbolicDraws 4),
      .encrypt .responder (symbolicDraws 8) [9]] := by
  refine (java_restored_iff symbolicIdeal [] (1 : UInt64) [] _ rfl .responder (symbolicDraws 5)
    _).mpr ⟨trivial, ?_, trivial, trivial⟩
  rintro m ⟨⟩ ⟨⟩

/-- What the restored initiator sends, the responder does not open. And a message for the key pair 1
of the initiator, made by an SDK that turns its ratchet once, is opened by the original and not by
the restored object, which has the key pair 5. -/
theorem restored_session_differs :
    let s : DoubleRatchet symbolic := create [] true (1 : UInt64)
    let t := restore .initiator (symbolicDraws 5) (.fresh [] (1 : UInt64))
    let w := t.conversation.step (.encrypt .initiator (symbolicDraws 6) [7])
    let chain : symbolic.Key :=
      .chain s.rootChainKey (Symbolic.diffieHellman 9 (Symbolic.publicKey 1))
    let wire := DoubleRatchet.buildHeader (J := symbolic) (9 : UInt64) 0 ++
      symbolic.encrypt (symbolic.hkdfByte chain 1) Symbolic.nonce [8]
    w.sent.map (fun m => (m.plaintext, w.result m (symbolicDraws 4))) =
      [([7], .error .nullPointer)] ∧
    (s.decrypt (symbolicDraws 6) wire).1 = .ok [8] ∧
    ((t.conversation.object .initiator).decrypt (symbolicDraws 6) wire).1 =
      .error (.crypto "Decryption failed") := by
  decide +kernel

end Restored

end Sibna.Java
