import Sibna.Server.Registry
import Sibna.Server.RelayTrace

/-!
# Messages in the queue

When an envelope enters the queue of its recipient, and what takes it out.
-/

namespace Sibna.Server.Relay

open Interleaving Text

variable {ed : Ed25519}

def queuedBy (entry : Entry (relay ed)) : Option (SealedEnvelope × Int) :=
  match entry with
  | ⟨_, .frame _ (.envelope _), _, .queue (.insert _ ⟨.envelope envelope, expires⟩), _⟩ =>
    some (envelope, expires)
  | ⟨_, .send _ _, _, .queue (.insert _ ⟨.envelope envelope, expires⟩), _⟩ =>
    some (envelope, expires)
  | _ => none

def acceptedSend (entry : Entry (relay ed)) : Bool :=
  match entry with
  | ⟨_, .send _ _, _, .returned (.response r), _⟩ => r.status == .ok || r.status == .accepted
  | _ => false

def Call.Carries : Call → SealedEnvelope → Prop
  | .frame _ (.envelope envelope'), envelope =>
    envelope = { envelope' with timestamp := envelope.timestamp }
  | .send _ req, envelope => req.Carries envelope
  | _, _ => False

section
variable (envelope : SealedEnvelope)

def keyOf : Bytes := queueKey envelope.recipientId envelope.messageId

def scanned (entry : Entry (relay ed)) : List (Bytes × QueueItem) :=
  match entry with
  | ⟨_, _, _, .queue (.scanPrefix _), entries⟩ => entries
  | _ => []

def Acked (later : List (Entry (relay ed))) : Prop :=
  ∃ entry ∈ later, ∃ claims, entry.call = .frame claims (.ack envelope.messageId) ∧
    claims.sub = envelope.recipientId ∧ entry.op = .queue (.remove (keyOf envelope))

def TakenBy (entry : Entry (relay ed)) (envelope : SealedEnvelope) : Prop :=
  (∃ claims identityKeyHex, entry.call = .inbox claims identityKeyHex ∧
    claims.sub = envelope.recipientId) ∧ entry.op = .queue (.remove (keyOf envelope))

def Fetched (later log : List (Entry (relay ed))) : Prop :=
  ∃ entry ∈ later, TakenBy entry envelope ∧ ∀ answer ∈ log, answer.thread = entry.thread → ∀ result,
    answer.op = .returned result → ∃ inbox, result = .response ⟨.ok, .json inbox⟩ ∧
    some envelope ∈ inbox.messages

def Expired (expires : Int) (later log : List (Entry (relay ed))) : Prop :=
  ∃ entry ∈ later, (entry.op = .queue (.remove (keyOf envelope)) ∨
      ∃ item, entry.op = .queue (.insert (keyOf envelope) item)) ∧
    ∃ x ∈ log, x.thread = entry.thread ∧ expires < x.env.clock.val

end

def Free (s : State (relay ed)) (key : Bytes) (now : Timestamp) : Prop :=
  match s.shared.tableQueue.lookup key with
  | none => True
  | some item => item.expires < now.val

def FoundBy (s : State (relay ed)) (i : Nat) (key : Bytes) : Prop :=
  match s.shared.tableQueue.lookup key with
  | none => True
  | some item => ∃ entry ∈ s.log, entry.thread = i ∧ (key, item) ∈ scanned entry

/-- Messages are put into the queue, under a key that is free and, over HTTP, for a recipient
without a colon; what a call has scanned is removed only if it is still that. -/
def Preserving (s : State (relay ed)) (i : Nat) (c : Call) (e : OpEnv) (op : Op) : Prop :=
  match c, op with
  | .send _ _, .push recipientId _ => s.shared.reaches e recipientId = false
  | .send _ req, .queue (.insert key _) =>
    e.access.fails = false ∧ colon ∉ req.recipientId ∧ Free s key e.clock
  | .frame _ (.envelope _), .queue (.insert key _) => e.access.fails = false ∧ Free s key e.clock
  | .frame _ (.webRtc _), .queue (.insert key _) => Free s key e.clock
  | .inbox _ _, .queue (.remove key) => FoundBy s i key
  | .connect _, .queue (.remove key) => FoundBy s i key
  | _, _ => True

instance (s : State (relay ed)) (key : Bytes) (now : Timestamp) : Decidable (Free s key now) := by
  unfold Free
  split <;> infer_instance

instance (s : State (relay ed)) (i : Nat) (key : Bytes) : Decidable (FoundBy s i key) := by
  unfold FoundBy
  split <;> infer_instance

instance (s : State (relay ed)) (i : Nat) (c : Call) (e : OpEnv) (op : Op) :
    Decidable (Preserving s i c e op) := by
  rcases c with _ | ⟨_, message⟩ | _ | _ | _ <;> try rcases message
  all_goals rcases op <;> try rename TreeOp _ => op; rcases op
  all_goals unfold Preserving; infer_instance

def Kept (s : State (relay ed)) (envelope : SealedEnvelope) (expires : Int)
    (later : List (Entry (relay ed))) : Prop :=
  s.shared.tableQueue.lookup (keyOf envelope) = some ⟨.envelope envelope, expires⟩ ∨
    Acked envelope later ∨
    (∃ entry ∈ later, TakenBy entry envelope ∧ ∃ x ∈ s.log, x.thread = entry.thread ∧
      x.call = entry.call ∧ (keyOf envelope, ⟨.envelope envelope, expires⟩) ∈ scanned x) ∨
    Expired envelope expires later s.log

def Dated (entry : Entry (relay ed)) (earlier : List (Entry (relay ed))) : Prop :=
  ∀ envelope expires, queuedBy entry = some (envelope, expires) →
    colon ∉ envelope.recipientId ∧ entry.call.Carries envelope ∧
    ∃ x ∈ earlier, x.thread = entry.thread ∧ expires = x.env.clock.val + queueTtl

def Answers (log : List (Entry (relay ed))) : Prop :=
  ∀ x ∈ log, ∀ answer ∈ log, answer.thread = x.thread → (∃ claims identityKeyHex,
    x.call = .inbox claims identityKeyHex) → ∀ result, answer.op = .returned result →
    ∀ key item, (key, item) ∈ scanned x → ∃ inbox, result = .response ⟨.ok, .json inbox⟩ ∧
      (item.envelope ∈ inbox.messages ∨ ∃ y ∈ log, y.thread = x.thread ∧
        item.expires < y.env.clock.val)

structure Delivering (s : State (relay ed)) : Prop where
  answered : s.Answered
  kept : Runs.Afterwards (fun entry later => ∀ envelope expires,
    queuedBy entry = some (envelope, expires) → Kept s envelope expires later) s.log
  dated : Runs.Throughout Dated s.log
  unpushed : ∀ entry ∈ s.log, ∀ claims req, entry.call = .send claims req →
    ∀ recipientId frame, entry.done ≠ ⟨.push recipientId frame, true⟩
  accepted : ∀ entry ∈ s.log, acceptedSend entry = true → ∃ x ∈ s.log,
    x.thread = entry.thread ∧ x.call = entry.call ∧ (queuedBy x).isSome = true
  answers : Answers s.log

section
variable {entry : Entry (relay ed)}

lemma queuedBy_some {envelope : SealedEnvelope} {expires : Int}
    (h : queuedBy entry = some (envelope, expires)) :
    ((∃ claims envelope', entry.call = .frame claims (.envelope envelope')) ∨
      ∃ claims req, entry.call = .send claims req) ∧
    ∃ key, entry.op = .queue (.insert key ⟨.envelope envelope, expires⟩) := by
  unfold queuedBy at h
  split at h
  · simp_all
  · simp_all
  · cases h

lemma done_of_scanned {key : Bytes} {item : QueueItem} (h : (key, item) ∈ scanned entry) :
    ∃ pfx, entry.done = ⟨.queue (.scanPrefix pfx), scanned entry⟩ := by
  unfold scanned at h
  split at h
  · exact ⟨_, rfl⟩
  · cases h

end

section
variable {s : State (relay ed)} {i : Nat} {c : Call} {e : OpEnv} {op : Op}

variable {envelope : SealedEnvelope} {expires : Int}

lemma queued_perform (hok : Preserving s i c e op) (hdo : Does ed c (s.past i) op)
    {ans : op.Ans} (h : queuedBy (⟨i, c, e, op, ans⟩ : Entry (relay ed)) = some (envelope, expires))
    :
    op = .queue (.insert (keyOf envelope) ⟨.envelope envelope, expires⟩) ∧
      e.access.fails = false ∧ colon ∉ envelope.recipientId ∧ c.Carries envelope ∧
      ∃ now : Timestamp, ⟨.now, now⟩ ∈ s.past i ∧ expires = now.val + queueTtl := by
  obtain ⟨hc, key, hop⟩ := queuedBy_some h
  subst hop
  rcases hc with ⟨cl, e', rfl⟩ | ⟨cl, req, rfl⟩
  · obtain ⟨hwf, -, -, now, hk, now', hn', hit⟩ := hdo
    obtain ⟨hco, rfl⟩ := QueueItem.mk.inj hit
    cases hco
    subst hk
    exact ⟨rfl, hok.1, colon_notMem_of_wellFormed hwf, rfl, now', hn', rfl⟩
  · obtain ⟨e', hca, hk, now', hn', hit⟩ := hdo
    obtain ⟨hco, rfl⟩ := QueueItem.mk.inj hit
    cases hco
    subst hk
    have hcl := hok.2.1
    rw [← hca.1] at hcl
    exact ⟨rfl, hok.1, hcl, hca, now', hn', rfl⟩

lemma dated_perform (h : Delivering s) (hok : Preserving s i c e op)
    (hdo : Does ed c (s.past i) op) : Dated ⟨i, c, e, op, (act e op s.shared).1⟩ s.log := by
  intro envelope expires hq
  obtain ⟨-, -, hco, hca, now, hn, rfl⟩ := queued_perform hok hdo hq
  obtain ⟨x, hx, hi, rfl⟩ := clock_of_now h.answered hn
  exact ⟨hco, hca, x, hx, hi, rfl⟩

lemma free_of_insert (hok : Preserving s i c e op) (hdo : Does ed c (s.past i) op) {key : Bytes}
    {item : QueueItem} (hop : op = .queue (.insert key item)) : Free s key e.clock := by
  subst hop
  cases c with
  | frame claims message =>
    cases message with
    | envelope envelope => exact hok.2
    | ack messageId => exact hdo.elim
    | webRtc signal => exact hok
  | send claims req => exact hok.2.2
  | connect | inbox | prune => exact hdo.elim

lemma Delivering.dated_of_mem (h : Delivering s) {x : Entry (relay ed)} (hx : x ∈ s.log)
    (hq : queuedBy x = some (envelope, expires)) : colon ∉ envelope.recipientId := by
  obtain ⟨l, ea, -, hda⟩ := h.dated.of_mem hx
  exact (hda envelope expires hq).1

lemma past_of_scanned {x : Entry (relay ed)} (hx : x ∈ s.log) (hi : x.thread = i) {key : Bytes}
    {item : QueueItem} (hit : (key, item) ∈ scanned x) :
    ∃ pfx, ⟨.queue (.scanPrefix pfx), scanned x⟩ ∈ s.past i := by
  obtain ⟨pfx, hdo⟩ := done_of_scanned hit
  exact ⟨pfx, State.mem_past.mpr ⟨x, hx, hi, hdo⟩⟩

section
variable (h : Delivering s) (hok : Preserving s i c e op) (hca : s.Runs i c)
  (hdo : Does ed c (s.past i) op) (hco : colon ∉ envelope.recipientId)
include h hok hca hdo hco

lemma kept_of_stored
    (hs : s.shared.tableQueue.lookup (keyOf envelope) = some ⟨.envelope envelope, expires⟩)
    (l : List (Entry (relay ed))) :
    Kept (s.perform i c e op) envelope expires (⟨i, c, e, op, (act e op s.shared).1⟩ :: l) := by
  rcases lookup_queue_act e op s.shared (keyOf envelope) with hsa | ⟨item, hop, -⟩ | ⟨rfl, -⟩
  · exact .inl (hsa.trans hs)
  · have hf := free_of_insert hok hdo hop
    simp only [Free, hs] at hf
    exact Or.inr (Or.inr (Or.inr ⟨_, .head _, Or.inr ⟨item, hop⟩, _, .head _, rfl, hf⟩))
  · rcases does_queue_remove hdo with ⟨cl, mi, rfl, hk⟩ |
      ⟨cl, identityKeyHex, rfl, hpf⟩ | ⟨cl, rfl, hpf, hdu⟩
    · obtain ⟨hsu, rfl⟩ := queueKey_inj hk hco cl.colon_notMem
      exact Or.inr (Or.inl ⟨_, .head _, cl, rfl, hsu.symm, rfl⟩)
    · have hsu := eq_of_queuePrefix hpf cl.colon_notMem hco
      simp only [Preserving, FoundBy, hs] at hok
      obtain ⟨x, hx, hi, hit⟩ := hok
      exact Or.inr (Or.inr (Or.inl ⟨_, .head _,
        ⟨⟨cl, identityKeyHex, rfl, hsu⟩, rfl⟩, x, .tail _ hx, hi, hca x hx hi,
        hit⟩))
    · simp only [Preserving, FoundBy, hs] at hok
      obtain ⟨x, hx, hi, hit⟩ := hok
      obtain ⟨pfx, hsc⟩ := past_of_scanned hx hi hit
      rcases hdu pfx _ _ hsc hit with ⟨si, hsi⟩ | ⟨now, hn, hlt⟩
      · cases hsi
      · obtain ⟨y, hy, hyi, rfl⟩ := clock_of_now h.answered hn
        exact Or.inr (Or.inr (Or.inr ⟨_, .head _, Or.inl rfl, y, .tail _ hy, hyi, hlt⟩))

lemma kept_perform {l : List (Entry (relay ed))} (hke : Kept s envelope expires l) :
    Kept (s.perform i c e op) envelope expires (⟨i, c, e, op, (act e op s.shared).1⟩ :: l) := by
  rcases hke with hs | ⟨entry, hen, hac⟩ | ⟨entry, hen, hta, x, hx, hsc⟩ |
    ⟨entry, hen, hop, x, hx, hlt⟩
  · exact kept_of_stored h hok hca hdo hco hs l
  · exact Or.inr (Or.inl ⟨entry, .tail _ hen, hac⟩)
  · exact Or.inr (Or.inr (Or.inl ⟨entry, .tail _ hen, hta, x, .tail _ hx, hsc⟩))
  · exact Or.inr (Or.inr (Or.inr ⟨entry, .tail _ hen, hop, x, .tail _ hx, hlt⟩))

end

lemma kept_of_queued (hok : Preserving s i c e op) (hdo : Does ed c (s.past i) op)
    {ans : op.Ans}
    (hq : queuedBy (⟨i, c, e, op, ans⟩ : Entry (relay ed)) = some (envelope, expires)) :
    Kept (s.perform i c e op) envelope expires [] := by
  obtain ⟨rfl, hf, -⟩ := queued_perform hok hdo hq
  refine .inl ?_
  simp only [State.perform_shared, act, Table.lookup_act_insert]
  exact if_pos ⟨hf, trivial⟩

lemma unpushed_perform (h : Delivering s) (hok : Preserving s i c e op) :
    ∀ entry ∈ (s.perform i c e op).log, ∀ claims req, entry.call = .send claims req →
    ∀ recipientId frame, entry.done ≠ ⟨.push recipientId frame, true⟩ := by
  intro entry hen claims req hc recipientId frame hdo
  rcases List.mem_cons.mp hen with rfl | hen
  · subst hc
    obtain ⟨rfl, han⟩ := Sigma.mk.inj hdo
    have hre := hok
    exact absurd ((eq_of_heq han).symm.trans hre) (by simp)
  · exact h.unpushed entry hen claims req hc recipientId frame hdo

lemma accepted_perform (h : Delivering s) (hca : s.Runs i c) (hde : Does ed c (s.past i) op) :
    ∀ entry ∈ (s.perform i c e op).log, acceptedSend entry = true → ∃ x ∈ (s.perform i c e op).log,
    x.thread = entry.thread ∧ x.call = entry.call ∧ (queuedBy x).isSome = true := by
  intro entry hen hac
  rcases List.mem_cons.mp hen with rfl | hen
  · unfold acceptedSend at hac
    split at hac
    · rename_i heq
      cases heq
      rcases hde with hst | ⟨-, f, hpu⟩ | ⟨-, key, envelope, expires, ans, hin⟩
      · simp [hst] at hac
      · obtain ⟨x, hx, hi, hdo⟩ := State.mem_past.mp hpu
        exact absurd hdo (h.unpushed x hx _ _ (hca x hx hi) _ _)
      obtain ⟨x, hx, hi, hdo⟩ := State.mem_past.mp hin
      have hc := hca x hx hi
      refine ⟨x, .tail _ hx, hi, hc, ?_⟩
      obtain ⟨th, call, env, op, ans⟩ := x
      cases hdo
      cases hc
      rfl
    · cases hac
  · obtain ⟨x, hx, hq⟩ := h.accepted entry hen hac
    exact ⟨x, .tail _ hx, hq⟩

lemma answers_perform (h : Delivering s) (hca : s.Runs i c) (hdo : Does ed c (s.past i) op) :
    Answers (s.perform i c e op).log := by
  rintro x hx an han hth ⟨cl, ikh, hin⟩ re hre key item hit
  rcases List.mem_cons.mp hx with rfl | hx'
  · -- a scan comes before the answer
    obtain ⟨pfx, hdn⟩ := done_of_scanned hit
    cases congrArg Sigma.fst hdn
    subst hin
    rcases List.mem_cons.mp han with rfl | han
    · cases hre
    have hu : an.op.returns = false :=
      hdo.2 an.done (State.mem_past.mpr ⟨an, han, hth, rfl⟩)
    rw [hre] at hu
    cases hu
  · rcases List.mem_cons.mp han with rfl | han
    · subst hre
      obtain rfl := (hca x hx' hth.symm).symm.trans hin
      obtain ⟨pfx, hsc⟩ := past_of_scanned hx' hth.symm hit
      cases re with
      | routing | done => exact hdo.elim
      | response r =>
        obtain ⟨ib, rfl, hen⟩ := hdo pfx _ hsc
        refine ⟨ib, rfl, ?_⟩
        rcases hen key item hit with hm | ⟨now, hn, hlt⟩
        · exact .inl hm
        · obtain ⟨y, hy, hyi, rfl⟩ := clock_of_now h.answered hn
          exact Or.inr ⟨y, .tail _ hy, hyi.trans hth, hlt⟩
    · obtain ⟨ib, hrs, hm⟩ := h.answers x hx' an han hth ⟨cl, ikh, hin⟩ re hre key item hit
      refine ⟨ib, hrs, ?_⟩
      rcases hm with hm | ⟨y, hy, hl⟩
      · exact .inl hm
      · exact Or.inr ⟨y, .tail _ hy, hl⟩

lemma delivering_perform (h : Delivering s) (hok : Preserving s i c e op) (hca : s.Runs i c)
    (hdo : Does ed c (s.past i) op) : Delivering (s.perform i c e op) where
  answered := h.answered.perform i c e op
  kept := h.kept.cons (fun _ _ hq => kept_of_queued hok hdo hq)
    fun _ hx _ hke envelope expires hq =>
      kept_perform h hok hca hdo (h.dated_of_mem hx hq) (hke envelope expires hq)
  dated := ⟨dated_perform h hok hdo, h.dated⟩
  unpushed := unpushed_perform h hok
  accepted := accepted_perform h hca hdo
  answers := answers_perform h hca hdo

end

lemma delivering_relayed {s : Shared} {es : Schedule (relay ed)} (hes : Along Preserving s es) :
    Delivering (relayed ed s es).state := by
  refine relayed_invariant ed (I := Delivering) ?_ delivering_perform hes
  refine ⟨?_, Runs.Afterwards.nil _, trivial, ?_, ?_, ?_⟩
  all_goals rintro entry ⟨⟩

lemma Delivering.fetched_or_expired {s : State (relay ed)} (h : Delivering s)
    {l : List (Entry (relay ed))} {entry x : Entry (relay ed)} {envelope : SealedEnvelope}
    {expires : Int} (hen : entry ∈ l) (hta : TakenBy entry envelope) (hx : x ∈ s.log)
    (hth : x.thread = entry.thread) (hc : x.call = entry.call)
    (hsc : (keyOf envelope, ⟨.envelope envelope, expires⟩) ∈ scanned x) :
    Fetched envelope l s.log ∨ Expired envelope expires l s.log := by
  by_cases hl : ∃ y ∈ s.log, y.thread = entry.thread ∧ expires < y.env.clock.val
  · exact .inr ⟨entry, hen, .inl hta.2, hl⟩
  refine .inl ⟨entry, hen, hta, fun a han hsa r hre => ?_⟩
  obtain ⟨cl, ikh, hin, -⟩ := hta.1
  obtain ⟨ib, hrs, hm | ⟨y, hy, hyx, hlt⟩⟩ := h.answers x hx a han
    (hsa.trans hth.symm) ⟨cl, ikh, hc.trans hin⟩ r hre _ _ hsc
  · exact ⟨ib, hrs, hm⟩
  · exact absurd ⟨y, hy, hyx.trans hth, hlt⟩ hl

section
open Sibna.Symbolic

def sendTo (x : UInt64) : Call := .send (claimsOf 3) ⟨identityOf x, utf8 "00", none⟩

def queuedAndFetched : Schedule (relay relayEd) :=
  [.start routeSigned, .start (sendTo 5), .start (.connect (claimsOf 5)),
    .start (.frame (claimsOf 5) (.ack (utf8 "m1"))), .start (.inbox (claimsOf 5) (identityOf 5))] ++
    relayTurns 8 0 200000 ++ relayTurns 7 1 200000 ++ relayTurns 6 2 200001 ++
    relayTurns 2 3 200002 ++ relayTurns 5 4 200003

def queuedIds (log : List (Entry (relay relayEd))) : List Bytes :=
  log.filterMap fun entry => (queuedBy entry).map fun queued => queued.1.messageId

def pushedAndDisconnected : Schedule (relay relayEd) :=
  [.start (.connect (claimsOf 5)), .start (sendTo 5)] ++ relayTurns 4 0 200000 ++
    relayTurns 5 1 200000 ++ relayTurns 3 0 200000

end

end Sibna.Server.Relay
