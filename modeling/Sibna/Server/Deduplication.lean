import Sibna.Lib.Admission
import Sibna.Server.Registry
import Sibna.Server.RelayTrace

/-!
# Message ids

The lookup of an id, the removal of an expired record and the new record are transactions of their
own.
-/

namespace Sibna.Server.Relay

open Interleaving Admission Text

variable {ed : Ed25519}

def routeAct (messageId : Bytes) : (op : Op) → op.Ans → Act Bytes Int
  | .dedup (.get _), _ => .check messageId false
  | .dedup (.insert _ value), _ => .commit messageId (i64FromBeBytes value)
  | .returned _, _ => .close
  | _, _ => .other

def admission : Call → (op : Op) → op.Ans → Act Bytes Int
  | .frame _ (.envelope envelope), op, ans => routeAct envelope.messageId op ans
  | _, _, _ => .other

abbrev admissions (log : List (Entry (relay ed))) : Log Bytes Int := acts admission log

def recordOf (entry : Entry (relay ed)) : Option (Bytes × Int) :=
  (admission entry.call entry.op entry.ans).committed

def lookupOf (entry : Entry (relay ed)) : Option (Bytes × Option (Option Bytes)) :=
  match entry with
  | ⟨_, .frame _ (.envelope envelope), _, .dedup (.get _), found⟩ =>
    some (envelope.messageId, found)
  | _ => none

def sentId (entry : Entry (relay ed)) : Option Bytes :=
  match entry with
  | ⟨_, .frame _ (.envelope envelope), _, .queue (.insert _ _), _⟩ => some envelope.messageId
  | ⟨_, .frame _ (.envelope envelope), _, .push _ _, _⟩ => some envelope.messageId
  | _ => none

def Returned (i : Nat) (log : List (Entry (relay ed))) : Prop :=
  ∃ entry ∈ log, entry.thread = i ∧ entry.op.returns = true

section
variable (messageId : Bytes) (op : Op) (ans : op.Ans)

lemma isCheck_routeAct : (routeAct messageId op ans).isCheck = op.looksUp := by
  cases op with
  | dedup op => cases op <;> rfl
  | _ => rfl

lemma ends_routeAct : (routeAct messageId op ans).ends = (op.stamps || op.returns) := by
  cases op with
  | dedup op => cases op <;> rfl
  | _ => rfl

end

section
variable {entry : Entry (relay ed)} {messageId : Bytes}

lemma recordOf_some {t : Int} (h : recordOf entry = some (messageId, t)) :
    ∃ claims envelope key value, entry.call = .frame claims (.envelope envelope) ∧
    entry.op = .dedup (.insert key value) ∧ envelope.messageId = messageId ∧
    i64FromBeBytes value = t := by
  obtain ⟨th, call, env, op, ans⟩ := entry
  have hco := Act.eq_commit_of_committed h
  cases call with
  | frame claims me =>
    cases me with
    | envelope envelope =>
      cases op with
      | dedup op =>
        cases op with
        | insert key value =>
          obtain ⟨hid, ht⟩ := Act.commit.inj hco
          exact ⟨claims, envelope, key, value, rfl, rfl, hid, ht⟩
        | _ => cases hco
      | _ => cases hco
    | _ => cases hco
  | _ => cases hco

lemma sentId_some (h : sentId entry = some messageId) :
    ∃ claims envelope, entry.call = .frame claims (.envelope envelope) ∧
      envelope.messageId = messageId ∧ ((∃ key item, entry.op = .queue (.insert key item)) ∨
        ∃ recipientId frame, entry.op = .push recipientId frame) := by
  unfold sentId at h
  split at h
  · exact ⟨_, _, rfl, Option.some.inj h, .inl ⟨_, _, rfl⟩⟩
  · exact ⟨_, _, rfl, Option.some.inj h, .inr ⟨_, _, rfl⟩⟩
  · cases h

end

/-- A call that recorded the id more than 48 hours ago has returned, and has queued and pushed its
envelope more than 48 hours ago. -/
def Settled (log : List (Entry (relay ed))) (i : Nat) (messageId : Bytes)
    (now : Timestamp) : Prop :=
  ∀ x ∈ log, x.thread ≠ i →
    match recordOf x with
    | none => True
    | some (messageId', t) => messageId' = messageId → t + dedupWindow < now.val →
        Returned x.thread log ∧ ∀ y ∈ log, y.thread = x.thread → sentId y = some messageId →
          y.env.clock.val + dedupWindow < now.val

instance (log : List (Entry (relay ed))) (i : Nat) (messageId : Bytes) (now : Timestamp) :
    Decidable (Settled log i messageId now) := by
  unfold Settled Returned
  refine @List.decidableBAll _ _ (fun x => ?_) log
  refine @instDecidableForall _ _ _ ?_
  split <;> infer_instance

/-- The clock does not go back. No other call is between the lookup and the record of an id when it
is looked up; lookups and records go through; whoever recorded the id before is settled; and the
pruning task removes no live record. -/
def Timely (s : State (relay ed)) (i : Nat) (c : Call) (e : OpEnv) (op : Op) : Prop :=
  (∀ entry ∈ s.log, entry.env.clock.val ≤ e.clock.val) ∧
    match c, op with
    | .frame _ (.envelope envelope), .dedup (.get _) =>
      e.access.fails = false ∧ Vacant i envelope.messageId (admissions s.log)
    | .frame _ (.envelope envelope), .dedup (.insert _ _) =>
      e.access.fails = false ∧ Settled s.log i envelope.messageId e.clock
    | .prune, .dedup (.remove key) =>
      match s.shared.tableDedup.lookup key with
      | none => True
      | some record => ¬ Live record e.clock
    | _, _ => True

instance (s : State (relay ed)) (i : Nat) (c : Call) (e : OpEnv) (op : Op) :
    Decidable (Timely s i c e op) := by
  unfold Timely
  refine @instDecidableAnd _ _ _ ?_
  split
  · infer_instance
  · infer_instance
  · split <;> infer_instance
  · infer_instance

def Lapsed (t : Int) (log : List (Entry (relay ed))) : Prop :=
  ∃ entry ∈ log, t + dedupWindow < entry.env.clock.val

def Accounted (found : Option (Option Bytes)) (t : Int) (log : List (Entry (relay ed))) : Prop :=
  (∃ record, found = some (some record) ∧ record.length = 8 ∧ t ≤ i64FromBeBytes record) ∨
    Lapsed t log

section
variable (entry : Entry (relay ed)) (earlier : List (Entry (relay ed)))

def Seen : Prop :=
  ∀ messageId found, lookupOf entry = some (messageId, found) → ∀ x ∈ earlier, ∀ t,
    recordOf x = some (messageId, t) → Accounted found t earlier

def Apart : Prop :=
  ∀ messageId t, recordOf entry = some (messageId, t) → ∀ x ∈ earlier, x.thread ≠ entry.thread →
    ∀ t', recordOf x = some (messageId, t') → Returned x.thread earlier ∧ ∀ y ∈ earlier,
    y.thread = x.thread → sentId y = some messageId →
    y.env.clock.val + dedupWindow < entry.env.clock.val

def SentAfterRecord : Prop :=
  ∀ messageId, sentId entry = some messageId → ¬ Returned entry.thread earlier ∧
    ∃ x ∈ earlier, x.thread = entry.thread ∧ ∃ t, recordOf x = some (messageId, t)

end

structure Deduplicated (s : State (relay ed)) : Prop where
  answered : s.Answered
  clocks : Runs.Throughout
    (fun entry earlier => ∀ x ∈ earlier, x.env.clock.val ≤ entry.env.clock.val) s.log
  run : Run (admissions s.log)
  recorded : ∀ x ∈ s.log, ∀ messageId t, recordOf x = some (messageId, t) →
    Accounted (some (s.shared.tableDedup.lookup (dedupKey messageId))) t s.log
  seen : Runs.Throughout Seen s.log
  apart : Runs.Throughout Apart s.log
  sends : Runs.Throughout SentAfterRecord s.log

lemma Lapsed.of_subset {t : Int} {log log' : List (Entry (relay ed))} (h : Lapsed t log)
    (hsu : log ⊆ log') : Lapsed t log' := by
  obtain ⟨entry, hen, hlt⟩ := h
  exact ⟨entry, hsu hen, hlt⟩

section
variable {s : State (relay ed)} {i : Nat} {c : Call} {e : OpEnv} {op : Op}

lemma not_returned_of_past (h : Without Op.returns (s.past i)) : ¬ Returned i s.log := by
  rintro ⟨entry, hen, hi, hre⟩
  have hpa := h entry.done (State.mem_past.mpr ⟨entry, hen, hi, rfl⟩)
  exact absurd (hre.symm.trans hpa) (by simp)

section
variable {claims : Claims} {envelope : SealedEnvelope}

lemma not_checked_of_past
    (hca : s.Runs i (.frame claims (.envelope envelope)))
    (h : Without Op.looksUp (s.past i)) : ¬ Checked i (admissions s.log) := by
  intro hce
  obtain ⟨d, hd, hch⟩ := (exists_acts_iff hca fun a => Act.isCheck a = true).mp hce
  rw [admission, isCheck_routeAct, h d hd] at hch
  cases hch

variable {key : Bytes}

section
variable {found : Option (Option Bytes)} (hca : s.Runs i (.frame claims (.envelope envelope)))
  (h : Looked key found (s.past i))
include hca h

lemma not_ended_of_looked : ¬ Ended i (admissions s.log) := by
  intro hed
  obtain ⟨d, hd, hen⟩ := (exists_acts_iff hca fun a => Act.ends a = true).mp hed
  rw [admission, ends_routeAct, h.unstamped d hd, h.unreturned d hd] at hen
  cases hen

lemma open_of_looked : Open i envelope.messageId (admissions s.log) :=
  ⟨⟨_, mem_acts_of_past hca h.looked, rfl, rfl⟩, not_ended_of_looked hca h⟩

end

lemma lapsed_of_cleared (h : Deduplicated s)
    (hca : s.Runs i (.frame claims (.envelope envelope)))
    (hcl : Cleared key (s.past i)) {x : Entry (relay ed)} (hx : x ∈ s.log) {t : Int}
    (hre : recordOf x = some (envelope.messageId, t)) : Lapsed t s.log := by
  obtain ⟨found, hl, hep⟩ := hcl
  obtain ⟨entry, hen, hi, hdo⟩ := State.mem_past.mp hl.looked
  obtain ⟨later, earlier, hlg⟩ := List.append_of_mem hen
  obtain ⟨hlo, hv⟩ : lookupOf entry = some (envelope.messageId, found) ∧
      (entry.thread, admission entry.call entry.op entry.ans) =
        (i, .check envelope.messageId false) := by
    have hc := hca entry hen hi
    obtain ⟨thread, call, env, op, ans⟩ := entry
    cases hdo
    cases hc
    cases hi
    exact ⟨rfl, rfl⟩
  -- nobody has recorded the id since the lookup
  have hco : Committed x.thread envelope.messageId t (admissions earlier) := by
    have hac : admissions s.log = admissions later ++ (i, .check envelope.messageId false) ::
        admissions earlier := by
      rw [hlg, admissions, acts, List.map_append, List.map_cons, hv]
      rfl
    have hr := h.run
    have hed := not_ended_of_looked hca hl
    have hco : Committed x.thread envelope.messageId t (admissions s.log) :=
      ⟨_, List.mem_map_of_mem hx, rfl, hre⟩
    rw [hac] at hr hed hco
    exact Run.committed_before hr hed hco
  obtain ⟨y, hy, -, hyr⟩ := hco
  obtain ⟨x', hx', rfl⟩ := List.mem_map.mp hy
  have hse := h.seen
  rw [hlg] at hse
  have hsu : earlier ⊆ s.log := by simp_all
  rcases hse.entry _ _ hlo x' hx' t hyr with ⟨record, rfl, hln, hle⟩ | hla
  · obtain ⟨now, hn, hlt⟩ := hep record rfl hln
    obtain ⟨z, hz, -, rfl⟩ := clock_of_now h.answered hn
    exact ⟨z, hz, by omega⟩
  · exact hla.of_subset hsu

end

lemma allowed_admission (hok : Timely s i c e op) (hca : s.Runs i c)
    (hdo : Does ed c (s.past i) op) :
    Allowed i (admissions s.log) (admission c op (act e op s.shared).1) := by
  cases c with
  | frame claims me =>
    cases me with
    | envelope envelope =>
      cases op with
      | dedup op =>
        cases op with
        | get key => exact ⟨not_checked_of_past hca hdo.2, hok.2.2⟩
        | insert key v =>
          obtain ⟨-, ⟨found, hl, -⟩, -⟩ := hdo
          exact open_of_looked hca hl
        | _ => trivial
      | _ => trivial
    | _ => trivial
  | _ => trivial

lemma Accounted.cons {found : Option (Option Bytes)} {t : Int} {log : List (Entry (relay ed))}
    (h : Accounted found t log) (x : Entry (relay ed)) : Accounted found t (x :: log) := by
  rcases h with h | hl
  · exact .inl h
  · exact .inr (hl.of_subset (List.subset_cons_self _ _))

section
variable (h : Deduplicated s) (hok : Timely s i c e op)
include h hok

lemma accounted_perform (hca : s.Runs i c) (hdo : Does ed c (s.past i) op) {x : Entry (relay ed)}
    (hx : x ∈ s.log) {messageId : Bytes} {t : Int} (hre : recordOf x = some (messageId, t)) :
    Accounted (some ((s.perform i c e op).shared.tableDedup.lookup (dedupKey messageId))) t
      (s.perform i c e op).log := by
  have hac := h.recorded x hx messageId t hre
  rcases lookup_dedup_act e op s.shared (dedupKey messageId) with hsa | ⟨v, rfl, -⟩ | ⟨rfl, -⟩
  · rw [State.perform_shared, hsa]
    exact hac.cons _
  · rcases does_dedup hdo with ⟨claims, envelope, rfl, hk, hcl, -⟩ | rfl
    · obtain rfl := dedupKey_injective hk
      exact .inr ((lapsed_of_cleared h hca hcl hx hre).of_subset (List.subset_cons_self _ _))
    · exact hdo.elim
  · rcases does_dedup hdo with ⟨claims, envelope, rfl, hk, hcl⟩ | rfl
    · obtain rfl := dedupKey_injective hk
      exact .inr ((lapsed_of_cleared h hca hcl hx hre).of_subset (List.subset_cons_self _ _))
    refine .inr ?_
    rcases hac with ⟨r, hl, hln, hle⟩ | hla
    · have hep := hok.2
      simp only [Option.some.inj hl] at hep
      have hlt : i64FromBeBytes r < e.clock.val - dedupWindow := by
        by_contra hge
        exact hep ⟨hln, by omega⟩
      exact ⟨_, .head _, by simp only; omega⟩
    · exact hla.of_subset (List.subset_cons_self _ _)

lemma recorded_perform (hca : s.Runs i c) (hdo : Does ed c (s.past i) op) :
    ∀ x ∈ (s.perform i c e op).log, ∀ messageId t, recordOf x = some (messageId, t) →
      Accounted (some ((s.perform i c e op).shared.tableDedup.lookup (dedupKey messageId))) t
        (s.perform i c e op).log := by
  intro x hx messageId t hre
  rcases List.mem_cons.mp hx with rfl | hx
  · obtain ⟨claims, envelope, key, v, hc, hop, rfl, rfl⟩ := recordOf_some hre
    subst hc hop
    obtain ⟨rfl, -, now, -, rfl⟩ := hdo
    refine .inl ⟨now.record, congrArg some ?_, now.record_length, Int.le_refl _⟩
    simp only [State.perform_shared, act, Table.lookup_act_insert]
    exact if_pos ⟨hok.2.1, trivial⟩
  · exact accounted_perform h hok hca hdo hx hre

lemma seen_perform (hdo : Does ed c (s.past i) op) :
    Seen ⟨i, c, e, op, (act e op s.shared).1⟩ s.log := by
  intro messageId found hl x hx t hre
  have hac := h.recorded x hx messageId t hre
  unfold lookupOf at hl
  split at hl
  · rename_i heq
    cases Option.some.inj hl
    cases heq
    obtain ⟨rfl, -⟩ := hdo
    simp only [act, Table.act, hok.2.1]
    exact hac
  · cases hl

lemma apart_perform (hca : s.Runs i c) (hdo : Does ed c (s.past i) op) :
    Apart ⟨i, c, e, op, (act e op s.shared).1⟩ s.log := by
  intro messageId t hre x hx hne t' hr'
  obtain ⟨claims, envelope, key, v, hc, hop, rfl, -⟩ := recordOf_some hre
  subst hc hop
  obtain ⟨z, hz, hlt⟩ := lapsed_of_cleared h hca hdo.2.1 hx hr'
  have hcl := hok.1 z hz
  have hse := hok.2.2 x hx hne
  simp only [hr'] at hse
  exact hse trivial (by omega)

end

lemma sends_perform (hca : s.Runs i c) (hdo : Does ed c (s.past i) op) :
    SentAfterRecord ⟨i, c, e, op, (act e op s.shared).1⟩ s.log := by
  intro messageId hse
  obtain ⟨claims, envelope, hc, rfl, hop⟩ := sentId_some hse
  subst hc
  have hst : Stamped (dedupKey envelope.messageId) (s.past i) := by
    rcases hop with ⟨key, item, rfl⟩ | ⟨r, f, rfl⟩
    · exact hdo.2.1
    · exact hdo.2
  obtain ⟨hu, v, ans, hin⟩ := hst
  refine ⟨not_returned_of_past hu, ?_⟩
  obtain ⟨x, hx, hi, hdn⟩ := State.mem_past.mp hin
  refine ⟨x, hx, hi, i64FromBeBytes v, ?_⟩
  have hc := hca x hx hi
  obtain ⟨th, call, env, op, ans⟩ := x
  cases hdn
  cases hc
  rfl

lemma deduplicated_perform (h : Deduplicated s) (hok : Timely s i c e op) (hca : s.Runs i c)
    (hdo : Does ed c (s.past i) op) : Deduplicated (s.perform i c e op) where
  answered := h.answered.perform i c e op
  clocks := ⟨hok.1, h.clocks⟩
  run := ⟨allowed_admission hok hca hdo, h.run⟩
  recorded := recorded_perform h hok hca hdo
  seen := ⟨seen_perform h hok hdo, h.seen⟩
  apart := ⟨apart_perform h hok hca hdo, h.apart⟩
  sends := ⟨sends_perform hca hdo, h.sends⟩

end

lemma deduplicated_relayed {s : Shared} {es : Schedule (relay ed)} (hes : Along Timely s es) :
    Deduplicated (relayed ed s es).state := by
  refine relayed_invariant ed (I := Deduplicated) ?_ deduplicated_perform hes
  refine ⟨?_, trivial, trivial, ?_, trivial, trivial, trivial⟩
  · rintro entry ⟨⟩
  · rintro x ⟨⟩

lemma Deduplicated.sent_before {s : State (relay ed)} (h : Deduplicated s)
    {l ea : List (Entry (relay ed))} {r r' x : Entry (relay ed)} {messageId : Bytes}
    {t t' : Int} (hl : s.log = l ++ r' :: ea) (hr : r ∈ ea)
    (hrc : recordOf r = some (messageId, t)) (hr' : recordOf r' = some (messageId, t'))
    (hne : r.thread ≠ r'.thread) (hx : x ∈ s.log) (hxr : x.thread = r.thread)
    (hsn : sentId x = some messageId) :
    x.env.clock.val + dedupWindow < r'.env.clock.val := by
  have hap := h.apart
  rw [hl] at hap
  obtain ⟨hre, hb⟩ := hap.entry messageId t' hr' r hr hne t hrc
  -- the call of `x` had returned by then
  have hx' : x ∈ ea := by
    rw [hl] at hx
    rcases List.mem_append.mp hx with hx | hx
    · obtain ⟨l₁, l₂, rfl⟩ := List.append_of_mem hx
      have hse := h.sends
      rw [hl, List.append_assoc, List.cons_append] at hse
      obtain ⟨entry, hen, hth, hrt⟩ := hre
      refine absurd ⟨entry, ?_, hth.trans hxr.symm, hrt⟩ (hse.entry messageId hsn).1
      exact List.mem_append_right _ (.tail _ hen)
    · rcases List.mem_cons.mp hx with rfl | hx
      · exact absurd hxr.symm hne
      · exact hx
  exact hb x hx' hxr hsn

lemma Deduplicated.record_of_sent {s : State (relay ed)} (h : Deduplicated s)
    {x : Entry (relay ed)} (hx : x ∈ s.log) {messageId : Bytes} (hsn : sentId x = some messageId) :
    ∃ r ∈ s.log, r.thread = x.thread ∧ (∃ t, recordOf r = some (messageId, t)) ∧
      r.env.clock.val ≤ x.env.clock.val := by
  obtain ⟨l, ea, hl, hse⟩ := h.sends.of_mem hx
  have hcl := h.clocks
  rw [hl] at hcl
  obtain ⟨-, r, hr, hth, hre⟩ := hse messageId hsn
  refine ⟨r, ?_, hth, hre, hcl.entry r hr⟩
  rw [hl]
  exact List.mem_append_right _ (.tail _ hr)

/-- In every run that meets the condition, two envelopes of one id are queued or pushed more than
48 hours apart. -/
theorem envelopes_of_one_id_apart (ed : Ed25519) (s : Shared)
    (es : Schedule (relay ed)) (hes : Along Timely s es) : ∀ x ∈ (relayed ed s es).state.log,
    ∀ y ∈ (relayed ed s es).state.log, x.thread ≠ y.thread → ∀ messageId,
    sentId x = some messageId → sentId y = some messageId →
    x.env.clock.val + dedupWindow < y.env.clock.val ∨
    y.env.clock.val + dedupWindow < x.env.clock.val := by
  have h := deduplicated_relayed hes
  intro x hx y hy hne messageId hsx hsy
  obtain ⟨r, hr, hrx, ⟨t, hrecord⟩, hclock⟩ := h.record_of_sent hx hsx
  obtain ⟨r', hr', hry, ⟨t', hrecord'⟩, hclock'⟩ := h.record_of_sent hy hsy
  have hne' : r.thread ≠ r'.thread := by
    rw [hrx, hry]
    exact hne
  have hrr : r ≠ r' := by
    rintro rfl
    exact hne' rfl
  rcases Runs.earlier_or_earlier hr hr' hrr with ⟨later, earlier, hlog, hfirst⟩ |
    ⟨later, earlier, hlog, hfirst⟩
  · have hlt := h.sent_before hlog hfirst hrecord hrecord' hne' hx hrx.symm hsx
    exact .inl (by omega)
  · have hlt := h.sent_before hlog hfirst hrecord' hrecord hne'.symm hy hry.symm hsy
    exact .inr (by omega)

section
open Sibna.Symbolic

def sentLog (log : List (Entry (relay relayEd))) : List (Nat × Bytes × Int) :=
  log.filterMap fun entry =>
    (sentId entry).map fun messageId => (entry.thread, messageId, entry.env.clock.val)

def routedInTurn : Schedule (relay relayEd) :=
  [.start routeSigned, .start routeSigned, .start .prune, .start routeSigned] ++
    relayTurns 8 0 200000 ++ relayTurns 3 1 200000 ++ relayTurns 4 2 400000 ++ relayTurns 8 3 400000

theorem routed_again_after_48_hours :
    (∀ x ∈ (relayed relayEd relayStart routedInTurn).state.log,
      ∀ y ∈ (relayed relayEd relayStart routedInTurn).state.log, x.thread ≠ y.thread →
      ∀ messageId, sentId x = some messageId → sentId y = some messageId →
        x.env.clock.val + dedupWindow < y.env.clock.val ∨
          y.env.clock.val + dedupWindow < x.env.clock.val) ∧
      sentLog (relayed relayEd relayStart routedInTurn).state.log =
        [(3, utf8 "m1", 400000), (3, utf8 "m1", 400000), (0, utf8 "m1", 200000),
          (0, utf8 "m1", 200000)] := by
  refine And.imp_left (envelopes_of_one_id_apart relayEd relayStart routedInTurn) ?_
  decide +kernel

def routedSideBySide : Schedule (relay relayEd) :=
  [.start routeSigned, .start routeSigned] ++ relayTurns 1 0 200000 ++ relayTurns 1 1 200000 ++
    relayTurns 7 0 200000 ++ relayTurns 7 1 200000

theorem envelope_sent_twice_at_once :
    sentLog (relayed relayEd relayStart routedSideBySide).state.log =
      [(1, utf8 "m1", 200000), (1, utf8 "m1", 200000), (0, utf8 "m1", 200000),
        (0, utf8 "m1", 200000)] := by
  decide +kernel

end

end Sibna.Server.Relay
