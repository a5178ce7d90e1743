import Sibna.Server.Addressing
import Sibna.Server.Delivery

/-!
# Acknowledgements

The keys of an entry, of the scan and of the acknowledgement agree unless the recipient holds a
colon.
-/

namespace Sibna.Server.Relay

open Interleaving Text

variable {ed : Ed25519}

def Call.PlainRecipient : Call → Prop
  | .send _ req => colon ∉ req.recipientId
  | _ => True

def Call.Queues (c : Call) : Prop :=
  (∃ claims submitted, c = .frame claims (.envelope submitted)) ∨ ∃ claims req, c = .send claims req

structure PutBy (x : Entry (relay ed)) (envelope : SealedEnvelope) (expires : Int) : Prop where
  op : x.op = .queue (.insert (keyOf envelope) ⟨.envelope envelope, expires⟩)
  call : x.call.Queues
  plain : x.call.PlainRecipient ↔ colon ∉ envelope.recipientId

def Filed (log : List (Entry (relay ed))) (key : Bytes) (item : QueueItem) : Prop :=
  ∀ envelope ∈ item.envelope, key = keyOf envelope ∧ ∃ x ∈ log, PutBy x envelope item.expires

lemma Filed.cons {log : List (Entry (relay ed))} {key : Bytes} {item : QueueItem}
    (h : Filed log key item) (x : Entry (relay ed)) : Filed (x :: log) key item := by
  intro envelope hen
  obtain ⟨hk, y, hy, hpu⟩ := h envelope hen
  exact ⟨hk, y, .tail _ hy, hpu⟩

section
variable {s : State (relay ed)} {i : Nat} {c : Call} {e : OpEnv}

lemma filed_insert {past : Past} {key : Bytes} {item : QueueItem} {ans : Option Unit}
    (hdo : Does ed c past (.queue (.insert key item))) (log : List (Entry (relay ed))) :
    Filed (⟨i, c, e, .queue (.insert key item), ans⟩ :: log) key item := by
  intro envelope hen
  cases c with
  | frame claims message =>
    cases message with
    | envelope submitted =>
      obtain ⟨hwf, -, -, now, rfl, now', -, rfl⟩ := hdo
      cases hen
      have hpl := colon_notMem_of_wellFormed hwf
      exact ⟨rfl, _, .head _, rfl, Or.inl ⟨claims, submitted, rfl⟩, iff_of_true trivial hpl⟩
    | ack messageId => exact hdo.elim
    | webRtc signal =>
      obtain ⟨signal', hsi⟩ := hdo
      rw [QueueItem.envelope, hsi] at hen
      cases hen
  | send claims req =>
    obtain ⟨posted, hca, rfl, now, -, rfl⟩ := hdo
    cases hen
    refine ⟨rfl, _, .head _, rfl, Or.inr ⟨claims, req, rfl⟩, ?_⟩
    rw [hca.1]
    exact Iff.rfl
  | connect | inbox | prune => exact hdo.elim

structure Filing (s : State (relay ed)) : Prop where
  queued : ∀ key item, s.shared.tableQueue.lookup key = some item → Filed s.log key item
  scanned : ∀ x ∈ s.log, ∀ key item, (key, item) ∈ scanned x → Filed s.log key item

lemma Filing.perform {op : Op} (h : Filing s) (hdo : Does ed c (s.past i) op) :
    Filing (s.perform i c e op) := by
  constructor
  · intro key item hl
    rcases lookup_queue_act e op s.shared key with hsa | ⟨item', rfl, -, hin⟩ | ⟨-, -, hn⟩
    · exact (h.queued key item (hsa ▸ hl)).cons _
    · cases hin.symm.trans hl
      exact filed_insert hdo s.log
    · cases hn.symm.trans hl
  · intro x hx key item hit
    rcases List.mem_cons.mp hx with rfl | hx
    · obtain ⟨pfx, hdn⟩ := done_of_scanned hit
      cases congrArg Sigma.fst hdn
      exact (h.queued key item (Table.mem_scanPrefix hit).1).cons _
    · exact (h.scanned x hx key item hit).cons _

lemma filing_relayed {s : Shared} (hq : s.tableQueue = ∅)
    (es : Schedule (relay ed)) : Filing (relayed ed s es).state := by
  have hin : Filing (⟨s, []⟩ : State (relay ed)) := by
    refine ⟨fun key item hl => ?_, fun x hx => absurd hx List.not_mem_nil⟩
    simp [hq] at hl
  exact relayed_invariant ed hin (fun h (_ : True) _ hdo => h.perform hdo)
    (guarded_of_always (fun _ _ _ _ _ => trivial) _ es)

structure Handing (s : State (relay ed)) : Prop where
  scans : ∀ x ∈ s.log, ∀ key item, (key, item) ∈ scanned x →
    ∃ claims, x.call.reader = some claims ∧ queuePrefix claims.sub <+: key
  sends : ∀ y ∈ s.log, ∀ channel frame, y.op = .send channel frame →
    ∀ envelope ∈ frame.envelope, ∃ x ∈ s.log, x.call = y.call ∧
      ∃ key item, (key, item) ∈ scanned x ∧ item.envelope = some envelope

lemma scanned_of_done {x : Entry (relay ed)} {pfx : Bytes} {en : List (Bytes × QueueItem)}
    (h : x.done = ⟨.queue (.scanPrefix pfx), en⟩) : scanned x = en := by
  obtain ⟨th, call, env, op, ans⟩ := x
  cases h
  rfl

lemma Handing.perform {op : Op} (h : Handing s) (hca : s.Runs i c)
    (hop : Performs ed c (s.past i) op) : Handing (s.perform i c e op) := by
  constructor
  · intro x hx key item hit
    rcases List.mem_cons.mp hx with rfl | hx
    · obtain ⟨pfx, hdo⟩ := done_of_scanned hit
      cases congrArg Sigma.fst hdo
      obtain ⟨cl, hre, rfl⟩ := hop
      exact ⟨cl, hre, (Table.mem_scanPrefix hit).2⟩
    · exact h.scans x hx key item hit
  · intro y hy ch f hse envelope hen
    rcases List.mem_cons.mp hy with rfl | hy
    · subst hse
      obtain ⟨pfx, en, key, item, hsc, hit, hco⟩ := hop envelope hen
      obtain ⟨x, hx, hi, hdo⟩ := State.mem_past.mp hsc
      refine ⟨x, .tail _ hx, hca x hx hi, key, item, ?_, hco⟩
      rwa [scanned_of_done hdo]
    · obtain ⟨x, hx, hf⟩ := h.sends y hy ch f hse envelope hen
      exact ⟨x, .tail _ hx, hf⟩

end

lemma handing_relayed (s : Shared) (es : Schedule (relay ed)) :
    Handing (relayed ed s es).state := by
  have hin : Handing (⟨s, []⟩ : State (relay ed)) :=
    ⟨fun x hx => absurd hx List.not_mem_nil, fun y hy => absurd hy List.not_mem_nil⟩
  exact performed_invariant ed hin (fun h hca hop => h.perform hca hop) es

section
variable {identity messageId : Bytes} {env : Nat → OpEnv} {s : Shared}

lemma lookup_handleAck (key : Bytes) :
    ((handleAck identity messageId).run act env s).2.1.tableQueue.lookup key =
      if (env 0).access.fails = false ∧ key = queueKey identity messageId then none
      else s.tableQueue.lookup key :=
  Table.lookup_act_remove (env 0).access (queueKey identity messageId) s.tableQueue key

variable {envelope : SealedEnvelope}

lemma lookup_acknowledged (hre : envelope.recipientId = identity)
    (ho : (env 0).access.fails = false) :
    ((handleAck identity envelope.messageId).run act env s).2.1.tableQueue.lookup
      (keyOf envelope) = none := by
  rw [lookup_handleAck, if_pos ⟨ho, by rw [keyOf, hre]⟩]

lemma lookup_not_acknowledged (hre : envelope.recipientId ≠ identity) :
    ((handleAck identity envelope.messageId).run act env s).2.1.tableQueue.lookup
      (keyOf envelope) = s.tableQueue.lookup (keyOf envelope) := by
  rw [lookup_handleAck, if_neg]
  rintro ⟨-, hk⟩
  have hf := List.append_cancel_left hk
  exact hre (List.append_cancel_right hf)

end

def handedBy (entry : Entry (relay ed)) : Option (Bytes × SealedEnvelope) :=
  match entry with
  | ⟨_, .connect claims, _, .send _ (.tagged (.envelope envelope)), _⟩ =>
    some (claims.sub, envelope)
  | _ => none

lemma handedBy_some {en : Entry (relay ed)} {identity : Bytes} {envelope : SealedEnvelope}
    (h : handedBy en = some (identity, envelope)) :
    ∃ claims channel, en.call = .connect claims ∧ claims.sub = identity ∧
      en.op = .send channel (.tagged (.envelope envelope)) := by
  unfold handedBy at h
  split at h
  · simp_all
  · cases h

/-- In every run, an envelope that a connection of an identity is handed out of the queue was put
there by a call of the run. It is addressed to the identity, and its acknowledgement removes it from
any queue, exactly if that call did not name a recipient with a colon. If it did, the
acknowledgement leaves the entry. -/
theorem delivered_acknowledged_iff (ed : Ed25519) (s : Shared) (hqueue : s.tableQueue = ∅)
    (es : Schedule (relay ed)) (y : Entry (relay ed))
    (hy : y ∈ (relayed ed s es).state.log) (identity : Bytes) (envelope : SealedEnvelope)
    (hhanded : handedBy y = some (identity, envelope)) :
    ∃ x ∈ (relayed ed s es).state.log, (∃ expires, PutBy x envelope expires) ∧
      ((envelope.recipientId = identity ∧ ∀ env s', (env 0).access.fails = false →
          ((handleAck identity envelope.messageId).run act env s').2.1.tableQueue.lookup
            (keyOf envelope) = none) ↔ x.call.PlainRecipient) ∧
      (¬ x.call.PlainRecipient → envelope.recipientId ≠ identity ∧ ∀ env s',
        ((handleAck identity envelope.messageId).run act env s').2.1.tableQueue.lookup
          (keyOf envelope) = s'.tableQueue.lookup (keyOf envelope)) := by
  obtain ⟨claims, channel, hcall, rfl, hsend⟩ := handedBy_some hhanded
  have hhanding := handing_relayed s es
  obtain ⟨z, hz, hsame, key, item, hitem, hcontent⟩ :=
    hhanding.sends y hy channel _ hsend envelope rfl
  obtain ⟨claims', hreader, hpfx⟩ := hhanding.scans z hz key item hitem
  rw [hsame, hcall] at hreader
  obtain rfl : claims = claims' := Option.some.inj hreader
  obtain ⟨rfl, x, hx, hput⟩ :=
    (filing_relayed hqueue es).scanned z hz key item hitem envelope hcontent
  -- the scan stops at the first colon
  have hplain : x.call.PlainRecipient ↔ envelope.recipientId = claims.sub := by
    rw [hput.plain]
    constructor
    · intro hcolon
      exact (eq_of_queuePrefix hpfx claims.colon_notMem hcolon).symm
    · intro hrecipient
      rw [hrecipient]
      exact claims.colon_notMem
  refine ⟨x, hx, ⟨item.expires, hput⟩, ?_, ?_⟩
  · rw [hplain]
    constructor
    · exact fun h => h.1
    · exact fun hrecipient => ⟨hrecipient, fun env s' => lookup_acknowledged hrecipient⟩
  · rw [hplain]
    exact fun hrecipient => ⟨hrecipient, fun env s' => lookup_not_acknowledged hrecipient⟩

section
open Sibna.Symbolic

def postedAndAcked (recipientId : Bytes) : Schedule (relay relayEd) :=
  .start (.send (claimsOf 3) ⟨recipientId, utf8 "00", none⟩) :: relayTurns 7 0 10 ++
    .start (.connect (claimsOf 5)) :: relayTurns 5 1 20 ++
    .start (.frame (claimsOf 5) (.ack (utf8 "u1"))) :: relayTurns 2 2 30

def postedEnvelope (recipientId : Bytes) : SealedEnvelope where
  recipientId := recipientId
  payloadHex := utf8 "00"
  compressed := false
  messageId := utf8 "u1"
  timestamp := 10
  signatureHex := []

theorem posted_message_acknowledged :
    let identity := identityOf 5
    let handed := fun y => handedBy y = some (identity, postedEnvelope identity)
    (∃ y ∈ (relayed relayEd relayStart (postedAndAcked identity)).state.log, handed y) ∧
    ∀ env s', (env 0).access.fails = false →
      ((handleAck identity (utf8 "u1")).run act env s').2.1.tableQueue.lookup
        (keyOf (postedEnvelope identity)) = none := by
  intro identity handed
  obtain ⟨⟨y, hy, hhanded⟩, hplain⟩ :
      (∃ y ∈ (relayed relayEd relayStart (postedAndAcked identity)).state.log, handed y) ∧
      colon ∉ identity := by decide +kernel
  obtain ⟨x, -, ⟨expires, hput⟩, hiff, -⟩ := delivered_acknowledged_iff relayEd relayStart rfl
    (postedAndAcked identity) y hy identity (postedEnvelope identity) hhanded
  exact ⟨⟨y, hy, hhanded⟩, (hiff.mpr (hput.plain.mpr hplain)).2⟩

def mixedRecipient : Bytes := identityOf 5 ++ utf8 ":x"

/-- Party 5 is handed a message that is not addressed to it, and cannot acknowledge it. -/
theorem colon_recipient_not_acknowledged :
    let last := (relayed relayEd relayStart (postedAndAcked mixedRecipient)).state
    let envelope := postedEnvelope mixedRecipient
    (∃ y ∈ last.log, handedBy y = some (identityOf 5, envelope)) ∧
    envelope.recipientId ≠ identityOf 5 ∧ envelope.messageId = utf8 "u1" ∧
    last.shared.tableQueue.lookup (keyOf envelope) =
        some ⟨.envelope envelope, 10 + queueTtl⟩ := by
  decide +kernel

end

end Sibna.Server.Relay
