import Sibna.Lib.Runs
import Sibna.Ratchet.Ledger

/-!
# Two sessions and the network between them

An event is an encryption, the delivery of a message sent earlier by its index, or bytes of the
attacker.
-/

namespace Sibna

open DoubleRatchetSession

def HandshakeRole.peer : HandshakeRole → HandshakeRole
  | initiator => responder
  | responder => initiator

@[simp] lemma HandshakeRole.peer_peer (p : HandshakeRole) : p.peer.peer = p := by
  cases p <;> rfl

@[simp] lemma HandshakeRole.peer_ne (p : HandshakeRole) : p.peer ≠ p := by
  cases p <;> decide

structure Sent (S : Suite) where
  sender : HandshakeRole
  plaintext : Bytes
  associatedData : Bytes
  encrypted : Encrypted S

abbrev Sent.header {S : Suite} (m : Sent S) : RatchetHeader := m.encrypted.message.header

abbrev Sent.key {S : Suite} (m : Sent S) : S.Key := m.encrypted.slot.messageKey

abbrev Sent.tag {S : Suite} (m : Sent S) : Bytes32 × Nat := m.header.tag

structure Accepted (S : Suite) where
  receiver : HandshakeRole
  decrypted : Decrypted S

structure World (S : Suite) where
  session : HandshakeRole → DoubleRatchetState S
  sent : List (Sent S)
  accepted : List (Accepted S)
  delivered : List Nat
  scalars : List S.Scalar

inductive Event (S : Suite) where
  | encrypt (p : HandshakeRole) (env : Env S) (plaintext associatedData : Bytes)
  | deliver (i : Nat) (env : Env S)
  | inject (p : HandshakeRole) (env : Env S) (message associatedData : Bytes)

def Event.env {S : Suite} : Event S → Env S
  | encrypt _ env _ _ => env
  | deliver _ env => env
  | inject _ env _ _ => env

def Event.isInject {S : Suite} : Event S → Bool
  | inject _ _ _ _ => true
  | _ => false

namespace World
variable {S : Suite}

section
variable (config : HandshakeRole → Config) (w : World S)

def setSession (p : HandshakeRole) (s : DoubleRatchetState S) : World S :=
  { w with session := Function.update w.session p s }

def send (p : HandshakeRole) (env : Env S) (plaintext ad : Bytes) : World S :=
  match encryptMessage (config p) env (w.session p) plaintext ad with
  | (.error _, s) => w.setSession p s
  | (.ok encrypted, s) =>
    { w.setSession p s with sent := w.sent ++ [⟨p, plaintext, ad, encrypted⟩] }

def receive (p : HandshakeRole) (env : Env S) (message ad : Bytes) : World S :=
  match decryptMessage (config p) env (w.session p) message ad with
  | (.error _, s) => w.setSession p s
  | (.ok d, s) => { w.setSession p s with accepted := w.accepted ++ [⟨p, d⟩] }

/-- The call an event makes; a delivery of something never sent is no call. -/
def act : Event S → World S
  | .encrypt p env plaintext ad => w.send config p env plaintext ad
  | .inject p env message ad => w.receive config p env message ad
  | .deliver i env =>
    match w.sent[i]? with
    | none => w
    | some m =>
      { w.receive config m.sender.peer env m.encrypted.wire m.associatedData with
        delivered := i :: w.delivered }

def incoming : Event S → Option (HandshakeRole × Bytes × Bytes)
  | .encrypt _ _ _ _ => none
  | .inject p _ message ad => some (p, message, ad)
  | .deliver i _ => w.sent[i]?.map fun m => (m.sender.peer, m.encrypted.wire, m.associatedData)

def step (e : Event S) : World S :=
  { w.act config e with scalars := e.env.newLocal :: w.scalars }

def delivery (i : Nat) (env : Env S) : Option (Except ProtocolError Bytes) :=
  w.sent[i]?.map fun m =>
    (decrypt (config m.sender.peer) env (w.session m.sender.peer) m.encrypted.wire
      m.associatedData).1

abbrev run (es : List (Event S)) : World S :=
  Runs.exec (step config) w es

/-- Two sessions fresh from the same handshake: one secret, opposite roles, and on each side
the other side's public key. -/
structure Matched (config : HandshakeRole → Config) (secret : Bytes32) (w : World S) : Prop where
  sessions : ∃ (a b : S.Scalar) (clock : HandshakeRole → Clock), a ≠ b ∧ w.scalars = [a, b] ∧
    fromSharedSecret secret a (S.publicKey b) (config .initiator) .initiator (clock .initiator) =
      .ok (w.session .initiator) ∧
    fromSharedSecret secret b (S.publicKey a) (config .responder) .responder (clock .responder) =
      .ok (w.session .responder)
  sent : w.sent = []
  accepted : w.accepted = []
  delivered : w.delivered = []

def usedKeys (p : HandshakeRole) : List S.Key :=
  (w.sent.filter fun m => m.sender = p).map (fun m => m.encrypted.slot.messageKey) ++
    (w.accepted.filter fun a => a.receiver = p).map fun a => a.decrypted.messageKey

end

section
variable {config : HandshakeRole → Config} {w : World S} {p : HandshakeRole} {env : Env S}
  {plaintext message ad : Bytes} {s : DoubleRatchetState S}

lemma send_ok {en : Encrypted S}
    (h : encryptMessage (config p) env (w.session p) plaintext ad = (.ok en, s)) :
    w.send config p env plaintext ad =
      { w.setSession p s with sent := w.sent ++ [⟨p, plaintext, ad, en⟩] } := by
  simp only [send, h]

lemma send_error {e : ProtocolError}
    (h : encryptMessage (config p) env (w.session p) plaintext ad = (.error e, s)) :
    w.send config p env plaintext ad = w.setSession p s := by
  simp only [send, h]

lemma receive_ok {d : Decrypted S}
    (h : decryptMessage (config p) env (w.session p) message ad = (.ok d, s)) :
    w.receive config p env message ad =
      { w.setSession p s with accepted := w.accepted ++ [⟨p, d⟩] } := by
  simp only [receive, h]

lemma receive_error {e : ProtocolError}
    (h : decryptMessage (config p) env (w.session p) message ad = (.error e, s)) :
    w.receive config p env message ad = w := by
  simp only [receive, h, decryptMessage_error h, setSession, Function.update_eq_self]

end

@[simp] lemma setSession_self (w : World S) (p : HandshakeRole) (s : DoubleRatchetState S) :
    (w.setSession p s).session p = s := Function.update_self ..

variable {config : HandshakeRole → Config} {secret : Bytes32} {w : World S} {p : HandshakeRole}

@[simp] lemma setSession_ne (w : World S) {q : HandshakeRole} (h : p ≠ q)
    (s : DoubleRatchetState S) : (w.setSession q s).session p = w.session p :=
  Function.update_of_ne h ..

lemma send_session_self (config : HandshakeRole → Config) (w : World S) (p : HandshakeRole)
    (env : Env S) (plaintext ad : Bytes) : (w.send config p env plaintext ad).session p =
      (encryptMessage (config p) env (w.session p) plaintext ad).2 := by
  unfold send
  split <;> simp [*]

lemma send_session_ne (config : HandshakeRole → Config) (w : World S) {q : HandshakeRole}
    (h : q ≠ p) (env : Env S) (plaintext ad : Bytes) :
    (w.send config p env plaintext ad).session q = w.session q := by
  unfold send
  split <;> simp [h]

/-- What one event does, apart from the scalar it draws and the delivery it records. -/
inductive Effect (config : HandshakeRole → Config) (w : World S) (e : Event S) (w' : World S) : Prop
  | idle (session : w'.session = w.session) (sent : w'.sent = w.sent)
      (accepted : w'.accepted = w.accepted)
  | failed {p : HandshakeRole} {env : Env S} {plaintext ad : Bytes} {err : ProtocolError}
      {s : DoubleRatchetState S} (event : e = .encrypt p env plaintext ad)
      (call : encryptMessage (config p) env (w.session p) plaintext ad = (.error err, s))
      (session : w'.session = Function.update w.session p s) (sent : w'.sent = w.sent)
      (accepted : w'.accepted = w.accepted)
  | sends {p : HandshakeRole} {env : Env S} {plaintext ad : Bytes} {encrypted : Encrypted S}
      {s : DoubleRatchetState S} (event : e = .encrypt p env plaintext ad)
      (call : encryptMessage (config p) env (w.session p) plaintext ad = (.ok encrypted, s))
      (session : w'.session = Function.update w.session p s)
      (sent : w'.sent = w.sent ++ [⟨p, plaintext, ad, encrypted⟩])
      (accepted : w'.accepted = w.accepted)
  | accepts {p : HandshakeRole} {message ad : Bytes} {d : Decrypted S} {s : DoubleRatchetState S}
      (event : w.incoming e = some (p, message, ad))
      (call : decryptMessage (config p) e.env (w.session p) message ad = (.ok d, s))
      (session : w'.session = Function.update w.session p s) (sent : w'.sent = w.sent)
      (accepted : w'.accepted = w.accepted ++ [⟨p, d⟩])

lemma effect_receive {e : Event S} {message ad : Bytes}
    (h : w.incoming e = some (p, message, ad)) (delivered : List Nat) (scalars : List S.Scalar) :
    Effect config w e { w.receive config p e.env message ad with delivered, scalars } := by
  cases ho : decryptMessage (config p) e.env (w.session p) message ad with
  | mk r s =>
    cases r with
    | error err =>
      rw [receive_error ho]
      exact .idle rfl rfl rfl
    | ok d =>
      rw [receive_ok ho]
      exact .accepts h ho rfl rfl rfl

lemma effect_step (config : HandshakeRole → Config) (w : World S) (e : Event S) :
    Effect config w e (w.step config e) := by
  cases e with
  | encrypt p env plaintext ad =>
    cases ho : encryptMessage (config p) env (w.session p) plaintext ad with
    | mk r s =>
      cases r with
      | error err =>
        simp only [step, act, send_error ho]
        exact .failed rfl ho rfl rfl rfl
      | ok en =>
        simp only [step, act, send_ok ho]
        exact .sends rfl ho rfl rfl rfl
  | inject p env message ad => exact effect_receive rfl _ _
  | deliver i env =>
    cases hm : w.sent[i]? with
    | none =>
      simp only [step, act, hm]
      exact .idle rfl rfl rfl
    | some m =>
      simp only [step, act, hm]
      exact effect_receive (e := .deliver i env) (by rw [incoming, hm]; rfl) _ _

lemma step_sent (config : HandshakeRole → Config) (w : World S) (e : Event S) :
    (w.step config e).sent = w.sent ∨ ∃ p env plaintext ad encrypted s,
    e = .encrypt p env plaintext ad ∧
    encryptMessage (config p) env (w.session p) plaintext ad = (.ok encrypted, s) ∧
    (w.step config e).sent = w.sent ++ [⟨p, plaintext, ad, encrypted⟩] ∧
    (w.step config e).session p = s := by
  cases effect_step config w e with
  | idle _ hse _ | failed _ _ _ hse _ | accepts _ _ _ hse _ => exact .inl hse
  | sends hev hc hss hse _ => simp_all

lemma step_grows (config : HandshakeRole → Config) (w : World S) (e : Event S) :
    (∃ ms, (w.step config e).sent = w.sent ++ ms) ∧
    ∃ as, (w.step config e).accepted = w.accepted ++ as := by
  cases effect_step config w e with
  | idle _ hse hac | failed _ _ _ hse hac => simp_all
  | sends _ _ _ hse hac => exact ⟨⟨_, hse⟩, [], by rw [hac, List.append_nil]⟩
  | accepts _ _ _ hse hac => exact ⟨⟨[], by rw [hse, List.append_nil]⟩, _, hac⟩

lemma mem_step_sent {e : Event S} {m : Sent S} (h : m ∈ (w.step config e).sent) :
    m ∈ w.sent ∨ ∃ env s, e = .encrypt m.sender env m.plaintext m.associatedData ∧
      encryptMessage (config m.sender) env (w.session m.sender) m.plaintext m.associatedData =
        (.ok m.encrypted, s) ∧ (w.step config e).session m.sender = s := by
  rcases step_sent config w e with hse | ⟨p, env, _, _, en, s, he, ho, hse, hs⟩
  · exact .inl (hse ▸ h)
  rw [hse] at h
  rcases List.mem_append.mp h with h | h
  · exact .inl h
  · simp_all

lemma mem_step_accepted {e : Event S} {a : Accepted S} (h : a ∈ (w.step config e).accepted) :
    a ∈ w.accepted ∨ ∃ message ad s, w.incoming e = some (a.receiver, message, ad) ∧
      decryptMessage (config a.receiver) e.env (w.session a.receiver) message ad =
        (.ok a.decrypted, s) ∧ (w.step config e).session a.receiver = s := by
  cases effect_step config w e with
  | idle _ _ hac | failed _ _ _ _ hac | sends _ _ _ _ hac => exact .inl (hac ▸ h)
  | accepts hev hc hse _ hac =>
    rw [hac] at h
    rcases List.mem_append.mp h with h | h
    · exact .inl h
    · simp_all

lemma mem_usedKeys {k : S.Key} : k ∈ w.usedKeys p ↔
    (∃ m ∈ w.sent, m.sender = p ∧ m.encrypted.slot.messageKey = k) ∨ ∃ a ∈ w.accepted,
    a.receiver = p ∧ a.decrypted.messageKey = k := by
  simp [usedKeys, and_assoc]

section
variable {config : HandshakeRole → Config} {w : World S} {p q : HandshakeRole} {env : Env S}
  {admissible : Bytes32 → Prop} {P : KeySchedule S → Prop}

lemma mem_usedKeys_append {w' : World S} {m : List (Sent S)} {a : List (Accepted S)} {k : S.Key}
    (hk : k ∈ w'.usedKeys p) (hse : w'.sent = w.sent ++ m)
    (hac : w'.accepted = w.accepted ++ a) : k ∈ w.usedKeys p ∨
      (∃ x ∈ m, x.sender = p ∧ x.encrypted.slot.messageKey = k) ∨
      ∃ x ∈ a, x.receiver = p ∧ x.decrypted.messageKey = k := by
  rcases mem_usedKeys.mp hk with ⟨x, hx, hp, rfl⟩ | ⟨x, hx, hp, rfl⟩
  · rw [hse] at hx
    rcases List.mem_append.mp hx with hx | hx
    · exact .inl (mem_usedKeys.mpr (.inl ⟨x, hx, hp, rfl⟩))
    · exact .inr (.inl ⟨x, hx, hp, rfl⟩)
  · rw [hac] at hx
    rcases List.mem_append.mp hx with hx | hx
    · exact .inl (mem_usedKeys.mpr (.inr ⟨x, hx, hp, rfl⟩))
    · exact .inr (.inr ⟨x, hx, hp, rfl⟩)

lemma stable_update (hP : KeySchedule.Stable env.newLocal admissible P) {w' : World S}
    {s : DoubleRatchetState S} (used : List S.Key)
    (hse : w'.session = Function.update w.session q s)
    (hu : ∀ k ∈ w'.usedKeys p, k ∈ w.usedKeys p ∨ p = q ∧ k ∈ used)
    (hs : p = q → P (s.schedule (used ++ w.usedKeys p)))
    (hw : P ((w.session p).schedule (w.usedKeys p))) :
    P ((w'.session p).schedule (w'.usedKeys p)) := by
  by_cases hpq : p = q
  · rw [hse, hpq, Function.update_self, ← hpq]
    refine hP.forget_schedule (fun k hk => ?_) (hs hpq)
    exact List.mem_append.mpr ((hu k hk).symm.imp And.right id)
  · rw [hse, Function.update_of_ne hpq]
    exact hP.forget_schedule (fun k hk => (hu k hk).resolve_right fun h => hpq h.1) hw

lemma stable_step {e : Event S} (hP : KeySchedule.Stable e.env.newLocal admissible P)
    (had : ∀ q message ad, w.incoming e = some (q, message, ad) →
      ∀ d s, decryptMessage (config q) e.env (w.session q) message ad = (.ok d, s) →
        admissible d.message.header.dhPublic)
    (hw : P ((w.session p).schedule (w.usedKeys p))) :
    P (((w.step config e).session p).schedule ((w.step config e).usedKeys p)) := by
  cases effect_step config w e with
  | idle hse hsn hac =>
    rwa [hse, usedKeys, hsn, hac]
  | failed hev hc hse hsn hac =>
    subst hev
    refine stable_update hP [] hse ?_ ?_ hw
    · intro k hk
      rw [usedKeys, hsn, hac] at hk
      exact .inl hk
    · rintro rfl
      exact stable_encrypt_error hP hc hw
  | @sends q _ _ _ en _ hev hc hse hsn hac =>
    subst hev
    refine stable_update hP [en.slot.messageKey] hse ?_ ?_ hw
    · intro k hk
      rcases mem_usedKeys_append hk hsn (hac.trans (List.append_nil _).symm) with hk | hk | hk
      · exact .inl hk
      · simp_all
      · simp at hk
    · rintro rfl
      exact stable_encrypt_ok hP hc hw
  | @accepts q _ _ d s hev hc hse hsn hac =>
    refine stable_update hP [d.messageKey] hse ?_ ?_ hw
    · intro k hk
      rcases mem_usedKeys_append hk (hsn.trans (List.append_nil _).symm) hac with hk | hk | hk
      · exact .inl hk
      · simp at hk
      · simp_all
    · rintro rfl
      exact stable_decrypt_ok hP hc (had _ _ _ hev d s hc) hw

lemma stable_run (hP : ∀ x, KeySchedule.Stable x (fun _ => True) P) (es : List (Event S))
    (hw : P ((w.session p).schedule (w.usedKeys p))) :
    P (((w.run config es).session p).schedule ((w.run config es).usedKeys p)) :=
  Runs.exec_invariant (I := fun w : World S => P ((w.session p).schedule (w.usedKeys p)))
    (fun _ e => stable_step (hP e.env.newLocal) (fun _ _ _ _ _ _ _ => trivial)) es hw

end

lemma Matched.session_eq (h : w.Matched config secret) (p : HandshakeRole) : ∃ a ∈ w.scalars,
    ∃ b ∈ w.scalars, ∃ clock now, w.session p = initialState secret a (S.publicKey b)
    (config p) p clock now := by
  obtain ⟨a, b, clock, -, hsc, hi, hr⟩ := h.sessions
  obtain ⟨-, now, -, hi⟩ := fromSharedSecret_ok hi
  obtain ⟨-, now', -, hr⟩ := fromSharedSecret_ok hr
  cases p with
  | initiator => exact ⟨a, by simp [hsc], b, by simp [hsc], _, _, hi⟩
  | responder => exact ⟨b, by simp [hsc], a, by simp [hsc], _, _, hr⟩

lemma Matched.usedKeys_eq (h : w.Matched config secret) (p : HandshakeRole) :
    w.usedKeys p = [] := by
  simp [usedKeys, h.sent, h.accepted]

lemma ledger_run (K : S.SymbolicKdf) (h : w.Matched config secret) (es : List (Event S))
    (p : HandshakeRole) :
    Ledger K (((w.run config es).session p).schedule ((w.run config es).usedKeys p)) := by
  apply stable_run (Ledger.stable K)
  obtain ⟨a, -, b, -, cl, now, hs⟩ := h.session_eq p
  rw [hs, h.usedKeys_eq]
  exact ledger_initialState _ _ _ _ _ _ _

lemma mem_run_scalars {es : List (Event S)} {x : S.Scalar} (h : x ∈ (w.run config es).scalars) :
    x ∈ w.scalars ∨ ∃ e ∈ es, x = e.env.newLocal := by
  induction es generalizing w with
  | nil => exact .inl h
  | cons e es ih =>
    rcases ih (w := w.step config e) h with hx | ⟨e', he', hx⟩
    · rcases List.mem_cons.mp hx with rfl | hx
      · exact Or.inr ⟨e, .head _, rfl⟩
      · exact .inl hx
    · exact .inr ⟨e', List.mem_cons_of_mem e he', hx⟩

/-- The network only carries messages of the two sessions, and random scalars are new. -/
def Passive (w : World S) (e : Event S) : Prop :=
  e.isInject = false ∧ e.env.newLocal ∉ w.scalars

instance [DecidableEq S.Scalar] (w : World S) (e : Event S) : Decidable (w.Passive e) :=
  inferInstanceAs (Decidable (_ ∧ _))

def honestKeys (drawn : S.Scalar → Prop) : KeyInvariant S where
  root := fun _ => True
  chain := fun _ => True
  message := fun _ => True
  scalar := drawn
  remote := fun r => ∃ b, drawn b ∧ r = S.publicKey b

lemma honestKeys_closed (dr : S.Scalar → Prop) : (honestKeys dr).Closed where
  next := fun _ _ => ⟨trivial, trivial⟩
  extract := fun _ _ _ _ _ => ⟨trivial, trivial⟩

lemma honestKeys_mono {dr d' : S.Scalar → Prop} {v : KeySchedule S} (hm : ∀ a, dr a → d' a)
    (h : (honestKeys dr).Holds v) : (honestKeys d').Holds v where
  root := trivial
  sending := fun _ _ => trivial
  receiving := fun _ _ => trivial
  dhLocal := fun a ha => hm a (h.dhLocal a ha)
  dhRemote := fun r hr => (h.dhRemote r hr).imp fun b hb => ⟨hm b hb.1, hb.2⟩
  skipped := fun t k hk =>
    ⟨(h.skipped t k hk).1.imp fun b hb => ⟨hm b hb.1, hb.2⟩, trivial⟩
  used := fun _ _ => trivial

structure Honest (w : World S) : Prop where
  plain : ∀ m ∈ w.sent, m.encrypted.wire = m.encrypted.message.toBytes
  sent : ∀ m ∈ w.sent, ∃ a ∈ w.scalars, m.encrypted.message.header.dhPublic = S.publicKey a
  accepted : ∀ m ∈ w.accepted, ∃ a ∈ w.scalars,
    m.decrypted.message.header.dhPublic = S.publicKey a
  keys : ∀ p, (honestKeys (· ∈ w.scalars)).Holds ((w.session p).schedule (w.usedKeys p))

lemma Honest.admissible (ho : ∀ p, (config p).enableHeaderEncryption = false) (h : w.Honest)
    {e : Event S} (he : w.Passive e) (q : HandshakeRole) (message ad : Bytes)
    (hin : w.incoming e = some (q, message, ad)) (d : Decrypted S) (s : DoubleRatchetState S)
    (hd : decryptMessage (config q) e.env (w.session q) message ad = (.ok d, s)) :
    ∃ b, b ∈ w.scalars ∧ d.message.header.dhPublic = S.publicKey b := by
  cases e with
  | encrypt => cases hin
  | inject p env message ad => cases he.1
  | deliver i env =>
    cases hm : w.sent[i]? with
    | none =>
      rw [incoming, hm] at hin
      cases hin
    | some m =>
      rw [incoming, hm] at hin
      cases hin
      have hme := List.mem_of_getElem? hm
      have hp := (decryptMessage_authentic hd).2
      rw [parseMessage_plain (ho _), h.plain m hme] at hp
      rw [RatchetMessage.fromBytes_toBytes_dhPublic hp]
      exact h.sent m hme

lemma honest_step (hof : ∀ p, (config p).enableHeaderEncryption = false) (w : World S)
    (e : Event S) (h : w.Honest) (he : w.Passive e) : (w.step config e).Honest := by
  have hke : ∀ p, (honestKeys (· ∈ e.env.newLocal :: w.scalars)).Holds
      (((w.step config e).session p).schedule ((w.step config e).usedKeys p)) := by
    intro p
    apply stable_step ((honestKeys_closed _).stable (.head _))
    · intro q message ad hin d s hd
      exact (h.admissible hof he q message ad hin d s hd).imp fun b hb => ⟨.tail _ hb.1, hb.2⟩
    · exact honestKeys_mono (fun a ha => .tail _ ha) (h.keys p)
  have hg : ∀ {r : Bytes32}, (∃ a ∈ w.scalars, r = S.publicKey a) →
      ∃ a ∈ (w.step config e).scalars, r = S.publicKey a :=
    fun hr => hr.imp fun a ha => ⟨.tail _ ha.1, ha.2⟩
  refine ⟨?_, ?_, ?_, hke⟩
  · intro m hm
    rcases mem_step_sent hm with hm | ⟨env, s, -, ho, -⟩
    · exact h.plain m hm
    · obtain ⟨s1, -, -, hf, -⟩ := encryptMessage_ok ho
      exact frameMessage_plain (hof _) hf
  · intro m hm
    rcases mem_step_sent hm with hm | ⟨env, s, -, ho, hs⟩
    · exact hg (h.sent m hm)
    obtain ⟨a, ha, hdh⟩ := encryptMessage_dhPublic ho
    refine ⟨a, (hke m.sender).dhLocal a ?_, hdh⟩
    rwa [hs]
  · intro a ha
    rcases mem_step_accepted ha with ha | ⟨message, ad, s, hin, hd, -⟩
    · exact hg (h.accepted a ha)
    · exact hg (h.admissible hof he _ message ad hin _ s hd)

lemma honest_matched (h : w.Matched config secret) : w.Honest := by
  refine ⟨by simp [h.sent], by simp [h.sent], by simp [h.accepted], ?_⟩
  intro p
  obtain ⟨a, ha, b, hb, cl, now, hs⟩ := h.session_eq p
  rw [hs]
  refine ⟨trivial, fun _ _ => trivial, fun _ _ => trivial, ?_, ?_, ?_, fun _ _ => trivial⟩
  · rintro a' ⟨⟩
    exact ha
  · rintro r ⟨⟩
    exact ⟨b, hb, rfl⟩
  · intro t k hk
    simp [DoubleRatchetState.schedule, initialState] at hk

end World

def Symbolic.world (headers : Bool) : World suite where
  session := session headers
  sent := []
  accepted := []
  delivered := []
  scalars := [(1 : UInt64), (2 : UInt64)]

lemma Symbolic.world_matched (he : Bool) : (world he).Matched (fun _ => config he) secret where
  sessions := ⟨(1 : UInt64), (2 : UInt64), fun _ => (env 1000 0).clock,
    show (1 : UInt64) ≠ 2 by decide, rfl, rfl, rfl⟩
  sent := rfl
  accepted := rfl
  delivered := rfl

def Symbolic.skippingWorld (maxSkip : Nat) : World suite :=
  { world false with session := skipping maxSkip }

lemma Symbolic.skippingWorld_matched (n : Nat) :
    (skippingWorld n).Matched (fun _ => ⟨n, false⟩) secret where
  sessions := ⟨(1 : UInt64), (2 : UInt64), fun _ => (env 1000 0).clock,
    show (1 : UInt64) ≠ 2 by decide, rfl, rfl, rfl⟩
  sent := rfl
  accepted := rfl
  delivered := rfl

end Sibna
