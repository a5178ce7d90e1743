import Sibna.Lib.Maps
import Sibna.Ratchet.SessionSpec

/-!
# The key schedule of a session

The abstract machine under a session, which the session functions refine. `Shift` has the moves that
use no message key, `Consume` those that use one.
-/

namespace Sibna

open Relation

structure KeySchedule (S : Suite) where
  rootKey : S.Key
  sending : Option S.Key
  receiving : Option S.Key
  dhLocal : Option S.Scalar
  dhRemote : Option Bytes32
  skipped : SkippedKeys S
  used : List S.Key

namespace KeySchedule
variable {S : Suite}

def ratchet (v : KeySchedule S) (a x : S.Scalar) (r : Bytes32) : KeySchedule S :=
  let recv := kdfRk S v.rootKey (S.diffieHellman a r)
  let send := kdfRk S recv.1 (S.diffieHellman x r)
  { v with
    rootKey := send.1
    sending := some send.2
    receiving := some recv.2
    dhLocal := some x
    dhRemote := some r }

def rotate (v : KeySchedule S) (x : S.Scalar) (r : Bytes32) : KeySchedule S :=
  let send := kdfRk S v.rootKey (S.diffieHellman x r)
  { v with
    rootKey := send.1
    sending := some send.2
    dhLocal := some x }

/-- `x` is the random scalar of the call and `adopted` the remote key it may ratchet to. -/
inductive Shift (x : S.Scalar) (adopted : Option Bytes32) :
    KeySchedule S → KeySchedule S → Prop where
  | stash {v : KeySchedule S} {c : S.Key} {r : Bytes32} (n : Nat) (hc : v.receiving = some c)
      (hr : v.dhRemote = some r) :
      Shift x adopted v { v with
        receiving := some (chainAt c 1)
        skipped := v.skipped.insert (r, n) (messageKeyAt c 0) }
  | ratchet {v : KeySchedule S} {a : S.Scalar} {r : Bytes32} (ha : v.dhLocal = some a)
      (hr : adopted = some r) :
      Shift x adopted v (v.ratchet a x r)
  | rotate {v : KeySchedule S} {r : Bytes32} (hr : v.dhRemote = some r) :
      Shift x adopted v (v.rotate x r)
  | rekey {v : KeySchedule S} (hr : v.dhRemote = none) :
      Shift x adopted v { v with dhLocal := some x }

abbrev Shifts (x : S.Scalar) (adopted : Option Bytes32) : KeySchedule S → KeySchedule S → Prop :=
  ReflTransGen (Shift x adopted)

/-- Using the message key `k`, of the sending chain or for a message that came with the ratchet
key `source`. -/
inductive Consume (k : S.Key) (source : Option Bytes32) :
    KeySchedule S → KeySchedule S → Prop where
  | send {v : KeySchedule S} {c : S.Key} (hsource : source = none) (hc : v.sending = some c)
      (hk : k = messageKeyAt c 0) :
      Consume k source v { v with sending := some (chainAt c 1), used := k :: v.used }
  | accept {v : KeySchedule S} {c : S.Key} (t : Bytes32 × Nat) (hsource : source = some t.1)
      (hr : v.dhRemote = some t.1) (hc : v.receiving = some c) (hk : k = messageKeyAt c 0) :
      Consume k source v { v with
        receiving := some (chainAt c 1)
        skipped := v.skipped.erase t
        used := k :: v.used }
  | unstash {v : KeySchedule S} {t : Bytes32 × Nat} (hsource : source = some t.1)
      (ht : v.skipped.lookup t = some k) :
      Consume k source v { v with skipped := v.skipped.erase t, used := k :: v.used }

section
variable {x : S.Scalar} {adopted : Option Bytes32} {v v' : KeySchedule S}

lemma Shift.used_eq (h : Shift x adopted v v') : v'.used = v.used := by
  cases h <;> rfl

lemma Shifts.used_eq (h : Shifts x adopted v v') : v'.used = v.used := by
  induction h with
  | refl => rfl
  | tail _ h ih => rw [h.used_eq, ih]

end

lemma Shifts.invariant {P : KeySchedule S → Prop} {x : S.Scalar} {adopted : Option Bytes32}
    (hs : ∀ v v', Shift x adopted v v' → P v → P v') {v v' : KeySchedule S}
    (h : Shifts x adopted v v') (hv : P v) : P v' := by
  induction h with
  | refl => exact hv
  | tail _ h ih => exact hs _ _ h ih

/-- A property that every move keeps, when the random scalar is `x` and the remote keys that
are adopted are admissible, and that does not depend on how much of the history is
remembered. -/
structure Stable (x : S.Scalar) (admissible : Bytes32 → Prop) (P : KeySchedule S → Prop) :
    Prop where
  shift : ∀ {adopted v v'}, (∀ r, adopted = some r → admissible r) → Shift x adopted v v' →
    P v → P v'
  consume : ∀ {k source v v'}, Consume k source v v' → P v → P v'
  forget : ∀ {v : KeySchedule S} {used}, (∀ k ∈ used, k ∈ v.used) → P v → P { v with used }

end KeySchedule

open KeySchedule

variable {S : Suite}

/-- Properties of the single keys, one for each place a key can have. -/
structure KeyInvariant (S : Suite) where
  root : S.Key → Prop
  chain : S.Key → Prop
  message : S.Key → Prop
  scalar : S.Scalar → Prop
  remote : Bytes32 → Prop

namespace KeyInvariant

structure Holds (I : KeyInvariant S) (v : KeySchedule S) : Prop where
  root : I.root v.rootKey
  sending : ∀ c, v.sending = some c → I.chain c
  receiving : ∀ c, v.receiving = some c → I.chain c
  dhLocal : ∀ a, v.dhLocal = some a → I.scalar a
  dhRemote : ∀ r, v.dhRemote = some r → I.remote r
  skipped : ∀ t k, v.skipped.lookup t = some k → I.remote t.1 ∧ I.message k
  used : ∀ k ∈ v.used, I.message k

/-- The properties are passed on by the derivations of the ratchet. -/
structure Closed (I : KeyInvariant S) : Prop where
  next : ∀ c, I.chain c → I.chain (chainAt c 1) ∧ I.message (messageKeyAt c 0)
  extract : ∀ k a r, I.root k → I.scalar a →
    I.root (kdfRk S k (S.diffieHellman a r)).1 ∧ I.chain (kdfRk S k (S.diffieHellman a r)).2

lemma Closed.stable {I : KeyInvariant S} (hI : I.Closed) {x : S.Scalar} (hx : I.scalar x) :
    Stable x I.remote I.Holds where
  shift := by
    intro adopted v v' had hv h
    cases hv with
    | @stash c r n hc hr =>
      obtain ⟨hn, hm⟩ := hI.next c (h.receiving c hc)
      refine { h with receiving := ?_, skipped := ?_ }
      · simp_all
      intro t k hk
      rcases Maps.lookup_insert_some hk with ⟨rfl, rfl⟩ | ⟨-, ho⟩
      · exact ⟨h.dhRemote r hr, hm⟩
      · exact h.skipped t k ho
    | @ratchet a r ha hr =>
      obtain ⟨hro, hre⟩ := hI.extract v.rootKey a r h.root (h.dhLocal a ha)
      obtain ⟨hro', hse⟩ := hI.extract _ x r hro hx
      refine ⟨hro', ?_, ?_, ?_, ?_, h.skipped, h.used⟩
      · rintro c ⟨⟩
        exact hse
      · rintro c ⟨⟩
        exact hre
      · rintro b ⟨⟩
        exact hx
      · rintro r' ⟨⟩
        exact had r hr
    | @rotate r hr =>
      obtain ⟨hro, hse⟩ := hI.extract v.rootKey x r h.root hx
      refine { h with root := hro, sending := ?_, dhLocal := ?_ }
      · rintro c ⟨⟩
        exact hse
      · rintro b ⟨⟩
        exact hx
    | rekey hr =>
      refine { h with dhLocal := ?_ }
      rintro b ⟨⟩
      exact hx
  consume := by
    intro k so v v' hv h
    have hu : I.message k → ∀ k' ∈ k :: v.used, I.message k' := by
      intro hk k' hk'
      rcases List.mem_cons.mp hk' with rfl | hk'
      · exact hk
      · exact h.used k' hk'
    have he (t : Bytes32 × Nat) : ∀ t' k', (v.skipped.erase t).lookup t' = some k' →
        I.remote t'.1 ∧ I.message k' :=
      fun t' k' hk' => h.skipped t' k' (Maps.lookup_erase_some hk').2
    cases hv with
    | @send c _ hc hk =>
      subst hk
      obtain ⟨hn, hm⟩ := hI.next c (h.sending c hc)
      refine { h with sending := ?_, used := hu hm }
      rintro c' ⟨⟩
      exact hn
    | @accept c t _ _ hc hk =>
      subst hk
      obtain ⟨hn, hm⟩ := hI.next c (h.receiving c hc)
      refine { h with receiving := ?_, skipped := he t, used := hu hm }
      rintro c' ⟨⟩
      exact hn
    | @unstash t _ ht =>
      exact { h with skipped := he t, used := hu (h.skipped t k ht).2 }
  forget := fun hsu h =>
    { h with used := fun k hk => h.used k (hsu k hk) }

end KeyInvariant

def DoubleRatchetState.schedule (s : DoubleRatchetState S) (used : List S.Key) : KeySchedule S where
  __ := s
  sending := s.sendingChain.map ChainKey.key
  receiving := s.receivingChain.map ChainKey.key
  skipped := s.skippedMessageKeys
  used := used

lemma KeySchedule.Stable.forget_schedule {x : S.Scalar} {admissible : Bytes32 → Prop}
    {P : KeySchedule S → Prop} (hP : Stable x admissible P) {s : DoubleRatchetState S}
    {used used' : List S.Key}
    (hsu : ∀ k ∈ used', k ∈ used) (h : P (s.schedule used)) : P (s.schedule used') :=
  hP.forget (v := s.schedule used) hsu h

namespace DoubleRatchetSession

section
variable (env : Env S) (adopted : Option Bytes32) (s : DoubleRatchetState S) (used : List S.Key)
include env adopted s used

lemma performDhRatchet_shift :
    Shift env.newLocal adopted (s.schedule used) ((performDhRatchet env s).schedule used) := by
  cases hr : s.dhRemote with
  | none =>
    rw [performDhRatchet_none hr]
    exact Shift.rekey (v := s.schedule used) hr
  | some r =>
    rw [performDhRatchet_some hr]
    exact Shift.rotate (v := s.schedule used) hr

lemma rotateIfNeeded_shifts :
    Shifts env.newLocal adopted (s.schedule used) ((rotateIfNeeded env s).schedule used) := by
  unfold rotateIfNeeded
  split
  · exact .single (performDhRatchet_shift env adopted s used)
  · exact .refl

end

variable {config : Config} {env : Env S} {s s' : DoubleRatchetState S} {ad : Bytes}

lemma setAside_shifts {x : S.Scalar} {adopted : Option Bytes32} {c : ChainKey S} {r : Bytes32}
    (used : List S.Key) (n : Nat) (hc : s.receivingChain = some c) (hr : s.dhRemote = some r) :
    Shifts x adopted (s.schedule used) ((setAside s c r n).schedule used) := by
  induction n generalizing s c with
  | zero =>
    rw [setAside_zero hc]
  | succ n ih =>
    have hre := ih (s := setAside s c r 1) rfl hr
    simp only [setAside, ChainKey.advance_advance, Nat.add_comm 1 n] at hre
    exact .head (.stash c.index (by simp [DoubleRatchetState.schedule, hc]) hr) hre

lemma skipMessageKeys_shifts {x : S.Scalar} {adopted : Option Bytes32} {u : Nat}
    (used : List S.Key) (h : skipMessageKeys s u = (.ok (), s')) :
    Shifts x adopted (s.schedule used) (s'.schedule used) := by
  rcases skipMessageKeys_ok h with ⟨rfl, -⟩ | ⟨c, r, hc, hr, -, -, rfl, -⟩
  · exact .refl
  · exact setAside_shifts used _ hc hr

lemma dhRatchet_shift {r : Bytes32} (used : List S.Key) (h : dhRatchet env s r = (.ok (), s')) :
    Shift env.newLocal (some r) (s.schedule used) (s'.schedule used) := by
  obtain ⟨a, ha, rfl⟩ := dhRatchet_ok h
  exact Shift.ratchet (v := s.schedule used) ha rfl

lemma alignReceiving_shifts {he : RatchetHeader} (used : List S.Key)
    (h : alignReceiving env s he = (.ok (), s')) :
    Shifts env.newLocal (some he.dhPublic) (s.schedule used) (s'.schedule used) := by
  rcases alignReceiving_ok h with ⟨-, hsk⟩ | ⟨-, n, s₁, s₂, hsk, hra, hs'⟩
  · exact skipMessageKeys_shifts used hsk
  · have hf : Shifts env.newLocal (some he.dhPublic) _ _ := skipMessageKeys_shifts used hsk
    exact (hf.tail (dhRatchet_shift used hra)).trans (skipMessageKeys_shifts used hs')

lemma alignReceiving_dhRemote {he : RatchetHeader}
    (h : alignReceiving env s he = (.ok (), s')) : s'.dhRemote = some he.dhPublic := by
  rcases alignReceiving_frame h with ⟨hke, hn⟩ | htu
  · rw [hke.dhRemote]
    cases hr : s.dhRemote with
    | none => simp [needsRatchet, hr] at hn
    | some r =>
      simp only [needsRatchet, hr, Option.map_some, Option.getD_some, Bool.not_eq_eq_eq_not,
        Bool.not_false, decide_eq_true_eq] at hn
      rw [hn]
  · exact htu.dhRemote

lemma decryptMessage_schedule {me : Bytes} {d : Decrypted S} (used : List S.Key)
    (h : decryptMessage config env s me ad = (.ok d, s')) : ∃ v,
    Shifts env.newLocal (some d.message.header.dhPublic) (s.schedule used) v ∧
    Consume d.messageKey (some d.message.header.dhPublic) v (s'.schedule (d.messageKey :: used)) :=
    by
  obtain ⟨m, -, hpa⟩ := decryptMessage_ok h
  rcases decryptParsed_ok hpa with ⟨mk, hmk, ho⟩ | ⟨s1, c, s2, hal, hc, -, -, ho, rfl⟩
  · obtain ⟨rfl, rfl, -, rfl⟩ := openMessage_ok ho
    exact ⟨_, .refl, .unstash rfl hmk⟩
  obtain ⟨rfl, hk, -, rfl⟩ := openMessage_ok ho
  refine ⟨s1.schedule used, alignReceiving_shifts used hal, ?_⟩
  have hre : (s1.schedule used).receiving = some c.key := by
    simp only [DoubleRatchetState.schedule, hc, Option.map_some]
  exact Consume.accept (v := s1.schedule used) _ rfl (alignReceiving_dhRemote hal) hre hk

lemma takeSendKey_schedule {slot : SendKey S} (used : List S.Key)
    (h : takeSendKey env s = (.ok slot, s')) : ∃ v, Shifts env.newLocal none (s.schedule used) v ∧
    Consume slot.messageKey none v (s'.schedule (slot.messageKey :: used)) := by
  obtain ⟨a, c, -, hc, -, -, rfl, rfl⟩ := takeSendKey_ok h
  refine ⟨_, rotateIfNeeded_shifts env none s used, ?_⟩
  have hse : ((rotateIfNeeded env s).schedule used).sending = some c.key := by
    simp only [DoubleRatchetState.schedule, hc, Option.map_some]
  exact Consume.send (v := (rotateIfNeeded env s).schedule used) rfl hse rfl

lemma encryptMessage_schedule {p : Bytes} {sent : Encrypted S} (used : List S.Key)
    (h : encryptMessage config env s p ad = (.ok sent, s')) : ∃ v,
    Shifts env.newLocal none (s.schedule used) v ∧
    Consume sent.slot.messageKey none v (s'.schedule (sent.slot.messageKey :: used)) := by
  obtain ⟨s1, hta, -, -, rfl⟩ := encryptMessage_ok h
  obtain ⟨v, hv, hco⟩ := takeSendKey_schedule used hta
  exact ⟨v, hv, hco⟩

lemma encryptMessage_error_schedule {p : Bytes} {e : ProtocolError} (used : List S.Key)
    (h : encryptMessage config env s p ad = (.error e, s')) :
    Shifts env.newLocal none (s.schedule used) (s'.schedule used) ∨ ∃ k v,
    Shifts env.newLocal none (s.schedule used) v ∧ Consume k none v (s'.schedule (k :: used)) := by
  rcases encryptMessage_error h with ⟨-, rfl⟩ | ⟨-, -, hta | ⟨slot, s1, hta, hs1⟩⟩
  · exact .inl .refl
  · rw [takeSendKey_error hta]
    exact .inl (rotateIfNeeded_shifts env none s used)
  obtain ⟨v, hv, hco⟩ := takeSendKey_schedule used hta
  refine .inr ⟨slot.messageKey, v, hv, ?_⟩
  rcases hs1 with ⟨rfl, -⟩ | ⟨rfl, -⟩
  · exact hco
  · exact hco

section
variable {config : Config} {env : Env S} {s s' : DoubleRatchetState S} {used : List S.Key}
  {admissible : Bytes32 → Prop} {P : KeySchedule S → Prop}

variable {ad : Bytes}

section
variable (hP : Stable env.newLocal admissible P)
include hP

lemma stable_decrypt_ok {me : Bytes} {d : Decrypted S}
    (h : decryptMessage config env s me ad = (.ok d, s'))
    (had : admissible d.message.header.dhPublic) (hs : P (s.schedule used)) :
    P (s'.schedule (d.messageKey :: used)) := by
  obtain ⟨v, hsh, hco⟩ := decryptMessage_schedule used h
  have hok : ∀ r, some d.message.header.dhPublic = some r → admissible r := by simp_all
  exact hP.consume hco (hsh.invariant (fun _ _ => hP.shift hok) hs)

lemma stable_encrypt_ok {p : Bytes} {sent : Encrypted S}
    (h : encryptMessage config env s p ad = (.ok sent, s')) (hs : P (s.schedule used)) :
    P (s'.schedule (sent.slot.messageKey :: used)) := by
  obtain ⟨v, hsh, hco⟩ := encryptMessage_schedule used h
  exact hP.consume hco (hsh.invariant (fun _ _ => hP.shift (by simp)) hs)

lemma stable_encrypt_error {p : Bytes} {e : ProtocolError}
    (h : encryptMessage config env s p ad = (.error e, s')) (hs : P (s.schedule used)) :
    P (s'.schedule used) := by
  rcases encryptMessage_error_schedule used h with hsh | ⟨k, v, hsh, hco⟩
  · exact hsh.invariant (fun _ _ => hP.shift (by simp)) hs
  · have hv' := hP.consume hco (hsh.invariant (fun _ _ => hP.shift (by simp)) hs)
    exact hP.forget_schedule (fun k hk => .tail _ hk) hv'

end

end

end DoubleRatchetSession

end Sibna
