import Sibna.RateLimit.Isolation

/-!
# What `remaining` does

A query stores the counter it has brought up to date, cut to the burst size of its operation, and
makes counters for clients that are not known.
-/

namespace Sibna.RateLimiter

section
variable (l : RateLimiter) (clientId : Bytes)

lemma tracked_withCounter (counter : ClientCounter) :
    (l.withCounter clientId counter).tracked =
      if l.isKnown clientId then l.tracked else l.tracked + 1 :=
  Maps.length_keys_insert l.counters clientId counter

lemma tracked_reset_le : (l.reset clientId).tracked ≤ l.tracked :=
  Maps.length_keys_erase_le l.counters clientId

lemma tracked_pruneInactive_le (ma : Nat) (now : Instant) :
    (l.pruneInactive ma now).tracked ≤ l.tracked := by
  have hsu : (l.pruneInactive ma now).counters.keys ⊆ l.counters.keys :=
    fun id hid => mem_keys_pruneInactive hid
  exact (List.subperm_of_subset (AList.keys_nodup _) hsu).length_le

end

def grows (l : RateLimiter) : Call → Bool
  | .check operation clientId _ _ => (l.limits.lookup operation).isSome && !l.isKnown clientId
  | _ => false

lemma tracked_of_call {P : Platform} {l l' : RateLimiter} {c : Call} {a : Answer}
    (h : l.call P c = some (a, l')) : l'.tracked ≤ l.tracked ∨ l'.tracked = l.tracked + 1 ∧
    (l.grows c = true ∨ l.tracked < maxTrackedClients) := by
  cases c with
  | check operation clientId now created =>
    obtain ⟨r, -, hr⟩ := call_check h
    obtain ⟨-, -, rfl⟩ | ⟨li, counter, hl, -, rfl⟩ := check_cases hr
    · exact .inl (Nat.le_refl _)
    have htr := tracked_withCounter l clientId counter
    split at htr
    · exact .inl (Nat.le_of_eq htr)
    · rename_i hu
      exact .inr ⟨htr, .inl (by simp [grows, hl, hu])⟩
  | remaining operation clientId created now =>
    obtain ⟨q, -, hr⟩ := call_remaining h
    rcases remaining_cases hr with ⟨-, rfl, -⟩ | ⟨li, counter, -, hro, -, -, rfl⟩
    · exact .inl (Nat.le_refl _)
    have htr := tracked_withCounter l clientId counter
    split at htr
    · exact .inl (Nat.le_of_eq htr)
    · rename_i hu
      exact .inr ⟨htr, .inr (capacityError_eq_none_iff.mp hro (Bool.not_eq_true _ ▸ hu))⟩
  | reset clientId =>
    cases h
    exact .inl (tracked_reset_le l clientId)
  | pruneInactive ma now =>
    cases h
    exact .inl (tracked_pruneInactive_le l ma now)

/-- As long as every check of a new client finds room, no more clients are tracked than the
maximum. -/
theorem tracked_within_capacity (P : Platform) (l : RateLimiter) (calls : List Call)
    (hstart : l.tracked ≤ maxTrackedClients)
    (h : Unwinding.Meets (call P) (fun l c => l.grows c = true → l.tracked < maxTrackedClients) l
      calls) (n : Nat) :
    ∀ t ∈ Runs.exec (step P) (some l) (calls.take n), t.tracked ≤ maxTrackedClients := by
  rw [Unwinding.Meets, ← List.take_append_drop n calls, Runs.guarded_append] at h
  refine Runs.Guarded.invariant (I := fun o => ∀ t ∈ o, t.tracked ≤ maxTrackedClients) ?_ h.1 ?_
  · intro o c hI hroom t' ht'
    obtain ⟨t, a, rfl, hcall⟩ := step_some ht'
    have ht := hI t rfl
    rcases tracked_of_call hcall with hle | ⟨heq, hgrows | hlt⟩
    · omega
    · have hlt := hroom t rfl hgrows
      omega
    · omega
  · rintro _ ⟨⟩
    exact hstart

theorem first_client_within_capacity :
    (new 0).tracked ≤ maxTrackedClients ∧
      ∀ t ∈ Runs.exec (step ⟨2 ^ 63⟩) (some (new 0))
        ([.check "encrypt" [1] (fromSecs 100) (fromSecs 100)].take 1),
        t.tracked ≤ maxTrackedClients :=
  ⟨by decide, tracked_within_capacity ⟨2 ^ 63⟩ (new 0) _ (by decide) (by decide +kernel) 1⟩

def newClients (n : Nat) : List Call :=
  (List.range n).map fun i =>
    .check "encrypt" (List.replicate i 97) (fromSecs 100) (fromSecs 100)

lemma exec_newClients (n : Nat) : ∃ l,
    Runs.exec (step ⟨2 ^ 63⟩) (some (new 0)) (newClients n) = some l ∧ l.limits = (new 0).limits ∧
    (∀ id ∈ l.counters.keys, id.length < n) ∧ l.tracked = n := by
  induction n with
  | zero => exact ⟨new 0, rfl, rfl, nofun, rfl⟩
  | succ n ih =>
    obtain ⟨l, hee, hl, hke, htr⟩ := ih
    have hu : l.counters.lookup (List.replicate n 97) = none := by
      refine AList.lookup_eq_none.mpr fun hm => ?_
      have hlt := hke _ hm
      rw [List.length_replicate] at hlt
      omega
    have hli : l.limits.lookup "encrypt" = some ⟨20, 200, 2000, 20000, fromSecs 30, 10⟩ := by
      rw [hl]
      rfl
    have hco : l.counterOf (List.replicate n 97) (fromSecs 100) = .default (fromSecs 100) := by
      rw [counterOf, hu]
      rfl
    obtain ⟨r, hr⟩ : ∃ r, (ClientCounter.default (fromSecs 100)).check ⟨2 ^ 63⟩ "encrypt"
        ⟨20, 200, 2000, 20000, fromSecs 30, 10⟩
        (l.outerError (List.replicate n 97) (fromSecs 100)) (fromSecs 100) = some r :=
      ClientCounter.exists_check_of_le _ (by decide) (by decide)
    refine ⟨{ l.withCounter (List.replicate n 97) r.2 with
      globalCounter := (l.checkGlobal (fromSecs 100)).2 }, ?_, hl, fun id hid => ?_, ?_⟩
    · rw [newClients, List.range_succ, List.map_append, Runs.exec_append, ← newClients, hee]
      simp only [List.map_cons, List.map_nil, Runs.exec, List.foldl_cons, List.foldl_nil, step,
        Unwinding.advance, Option.bind_some, call, check_known hli, hco, hr,
        Option.map_some]
    · rcases (mem_keys_withCounter _ _ _).mp hid with rfl | hid
      · simp
      · exact Nat.lt_succ_of_lt (hke id hid)
    · have hg := tracked_withCounter l (List.replicate n 97) r.2
      rw [isKnown, hu] at hg
      exact hg.trans (congrArg (· + 1) htr)

/-- A hundred thousand and one clients, each of which asks once. -/
theorem tracked_beyond_capacity : ∃ l,
    Runs.exec (step ⟨2 ^ 63⟩) (some (new 0)) (newClients 100001) = some l ∧
    maxTrackedClients < l.tracked := by
  obtain ⟨l, hexec, -, -, htracked⟩ := exec_newClients 100001
  refine ⟨l, hexec, ?_⟩
  rw [htracked]
  decide

section
variable {P : Platform} {l : RateLimiter} {operation : String} {clientId : Bytes}
  {now created : Instant}

lemma check_ok_iff_counter {li : OperationLimit} (hl : l.limits.lookup operation = some li)
    (ho : l.outerError clientId now = none) :
    (∃ t, l.check P operation clientId now created = some (.ok (), t)) ↔ ∃ counter',
    (l.counterOf clientId created).check P operation li none now = some (.ok (), counter') := by
  rw [check_known hl, ho]
  constructor
  · simp_all
  · simp_all

end

/-- A quota is what a check at the same instant finds, whether it comes after the query or in its
place; in its place a new counter has to read the same time. -/
theorem remaining_predicts_check (P : Platform) (l l' : RateLimiter)
    (hglobal : l.globalEnabled = false) (hroom : l.tracked < maxTrackedClients) (operation : String)
    (clientId : Bytes) (created now : Instant) (q : RemainingQuota)
    (h : l.remaining operation clientId created now = some (some q, l')) :
    (∀ created', (∃ t, l'.check P operation clientId now created' = some (.ok (), t)) ↔ q.Allows) ∧
    ∀ created', (l.isKnown clientId = true ∨ created' = created) →
    ((∃ t, l.check P operation clientId now created' = some (.ok (), t)) ↔ q.Allows) := by
  rcases remaining_cases h with ⟨hnone, -⟩ | ⟨limit, refilled, hlimit, -, hrefill, hq, rfl⟩
  · cases hnone
  cases hq
  refine ⟨fun created' => ?_, fun created' hcreated => ?_⟩
  · have hcapacity : (l.withCounter clientId refilled).capacityError clientId = none := by
      simp [capacityError, isKnown]
    have hcounter : (l.withCounter clientId refilled).counterOf clientId created' = refilled := by
      simp [counterOf]
    rw [check_ok_iff_counter (l := l.withCounter clientId refilled) hlimit
      (outerError_quiet hglobal hcapacity), hcounter]
    exact ClientCounter.check_ok_iff (ClientCounter.refreshed_of_refill hrefill)
  · have hcapacity : l.capacityError clientId = none := capacityError_quiet hroom
    have hcounter : l.counterOf clientId created' = l.counterOf clientId created := by
      rcases hcreated with hknown | rfl
      · obtain ⟨counter, hcounter⟩ := Option.isSome_iff_exists.mp hknown
        rw [counterOf_known hcounter, counterOf_known hcounter]
      · rfl
    rw [check_ok_iff_counter hlimit (outerError_quiet hglobal hcapacity), hcounter]
    exact ClientCounter.check_ok_iff hrefill

theorem first_quota_predicts :
    ∃ q l', ((new 0).setGlobalEnabled false).remaining "encrypt" [1] (fromSecs 100) (fromSecs 100) =
        some (some q, l') ∧ q.Allows ∧
      ∃ t, l'.check ⟨2 ^ 63⟩ "encrypt" [1] (fromSecs 100) (fromSecs 100) = some (.ok (), t) := by
  refine ⟨_, _, rfl, ?_, ?_⟩
  · exact ⟨fun w => by cases w <;> decide +kernel, by decide +kernel, by decide +kernel⟩
  · refine ((remaining_predicts_check ⟨2 ^ 63⟩ ((new 0).setGlobalEnabled false) _ rfl (by decide)
      "encrypt" [1] (fromSecs 100) (fromSecs 100) _ rfl).1 (fromSecs 100)).mpr ?_
    exact ⟨fun w => by cases w <;> decide +kernel, by decide +kernel, by decide +kernel⟩

structure Agrees (l t : RateLimiter) : Prop where
  limits : l.limits = t.limits
  globalEnabled : l.globalEnabled = t.globalEnabled
  globalRps : l.globalRps = t.globalRps
  globalCounter : l.globalCounter = t.globalCounter

namespace Agrees
variable {l t : RateLimiter}

lemma refl (l : RateLimiter) : Agrees l l := ⟨rfl, rfl, rfl, rfl⟩

lemma trans {m : RateLimiter} (h : Agrees l t) (h' : Agrees t m) : Agrees l m :=
  ⟨h.limits.trans h'.limits, h.globalEnabled.trans h'.globalEnabled,
    h.globalRps.trans h'.globalRps, h.globalCounter.trans h'.globalCounter⟩

lemma of_withCounter (l : RateLimiter) (clientId : Bytes) (counter : ClientCounter) :
    Agrees (l.withCounter clientId counter) l := ⟨rfl, rfl, rfl, rfl⟩

lemma checkGlobal (h : Agrees l t) (now : Instant) : l.checkGlobal now = t.checkGlobal now := by
  unfold RateLimiter.checkGlobal
  rw [h.globalEnabled, h.globalRps, h.globalCounter]

lemma call {P : Platform} {c : Call} {a b : Answer} {l' t' : RateLimiter} (h : Agrees l t)
    (hl : l.call P c = some (a, l')) (ht : t.call P c = some (b, t')) : Agrees l' t' := by
  have hg : l.globalAfter c = t.globalAfter c := by
    cases c with
    | check operation id now created => exact congrArg Prod.snd (h.checkGlobal now)
    | remaining | reset | pruneInactive => exact h.globalCounter
  obtain ⟨counters, rfl, -⟩ := call_cases hl
  obtain ⟨counters', rfl, -⟩ := call_cases ht
  exact ⟨h.limits, h.globalEnabled, h.globalRps, hg⟩

end Agrees

/-- The query has nothing to do: the operation has no limit, or there is no room for a counter of
the client, or its counter is up to date. -/
def Idle (l : RateLimiter) (operation : String) (clientId : Bytes) (now : Instant) : Prop :=
  ∀ limit ∈ l.limits.lookup operation,
    (l.isKnown clientId = false → maxTrackedClients ≤ l.tracked) ∧
    ∀ counter ∈ l.counters.lookup clientId, (∀ w ∈ Window.all, ¬ counter.Over now w) ∧
    counter.refillProduct limit now < 1000
  deriving Decidable

section
variable {l : RateLimiter} {clientId : Bytes} {counter : ClientCounter}

lemma lookup_withCounter_self (h : l.counters.lookup clientId = some counter) (id : Bytes) :
    (l.withCounter clientId counter).counters.lookup id = l.counters.lookup id := by
  by_cases hid : id = clientId
  · rw [hid, lookup_withCounter, h]
  · exact lookup_withCounter_ne _ _ _ hid

lemma remaining_keeps_iff (l : RateLimiter) (operation : String) (clientId : Bytes)
    (created now : Instant) :
    (∃ q l', l.remaining operation clientId created now = some (q, l') ∧ l'.Agrees l ∧
      ∀ id, l'.counters.lookup id = l.counters.lookup id) ↔ l.Idle operation clientId now := by
  cases hli : l.limits.lookup operation with
  | none =>
    refine iff_of_true ⟨none, l, remaining_unknown hli, .refl l, fun _ => rfl⟩ ?_
    intro li hm
    rw [hli] at hm
    cases hm
  | some li =>
    have hid : l.Idle operation clientId now ↔
        (l.isKnown clientId = false → maxTrackedClients ≤ l.tracked) ∧
        ∀ counter ∈ l.counters.lookup clientId,
          (∀ w ∈ Window.all, ¬ counter.Over now w) ∧ counter.refillProduct li now < 1000 := by
      simp only [Idle, hli, Option.mem_some_iff, forall_eq']
    rw [hid]
    cases hl : l.counters.lookup clientId with
    | none =>
      have hu : l.isKnown clientId = false := by rw [isKnown, hl, Option.isSome_none]
      by_cases hf : maxTrackedClients ≤ l.tracked
      · have her : l.capacityError clientId ≠ none := fun hro =>
          absurd (capacityError_eq_none_iff.mp hro hu) (Nat.not_lt.mpr hf)
        exact iff_of_true ⟨none, l, remaining_full hli her, .refl l, fun _ => rfl⟩
          ⟨fun _ => hf, (by simp)⟩
      · refine iff_of_false ?_ fun h => hf (h.1 hu)
        rintro ⟨q, l', h, -, hsa⟩
        rw [remaining_room hli (capacityError_quiet (Nat.lt_of_not_le hf))] at h
        obtain ⟨counter, -, heq⟩ := Option.map_eq_some_iff.mp h
        obtain ⟨-, rfl⟩ := Prod.mk.inj heq
        have hn := hsa clientId
        rw [lookup_withCounter, hl] at hn
        cases hn
    | some counter =>
      have hkn := isKnown_of_lookup hl
      rw [remaining_room hli (capacityError_known hkn), counterOf_known hl]
      have hs : (counter.updateCounters now).refillBurstTokens li now = some counter ↔
          (∀ w, ¬ counter.Over now w) ∧ counter.refillProduct li now < 1000 :=
        ClientCounter.stored_eq_self_iff
      constructor
      · rintro ⟨q, l', h, -, hsa⟩
        obtain ⟨r, hre, heq⟩ := Option.map_eq_some_iff.mp h
        obtain ⟨-, rfl⟩ := Prod.mk.inj heq
        have hse := hsa clientId
        rw [lookup_withCounter, hl] at hse
        cases hse
        obtain ⟨ho, hdu⟩ := hs.mp hre
        refine ⟨by simp [hkn], ?_⟩
        rintro _ ⟨⟩
        exact ⟨fun w _ => ho w, hdu⟩
      · rintro ⟨-, htd⟩
        obtain ⟨ho, hdu⟩ := htd counter rfl
        rw [hs.mpr ⟨fun w => ho w (Window.mem_all w), hdu⟩]
        exact ⟨_, _, rfl, Agrees.of_withCounter l clientId counter, lookup_withCounter_self hl⟩

end

def isCheck : Call → Bool
  | .check _ _ _ _ => true
  | _ => false

def checkedClients (calls : List Call) : List Bytes := (calls.filter isCheck).filterMap Call.client

/-- A check, or a query that is idle or for a tracked client that is not one of those that are
checked. -/
def Unnoticed (ids : List Bytes) (l : RateLimiter) : Call → Prop
  | .check _ _ _ _ => True
  | .remaining operation clientId _ now => l.Idle operation clientId now ∨
      clientId ∉ ids ∧ ∃ counter ∈ l.counters.lookup clientId,
        ∀ limit ∈ l.limits.lookup operation, ¬ counter.RefillOverflows limit now
  | _ => False

instance (ids : List Bytes) (l : RateLimiter) : (c : Call) → Decidable (l.Unnoticed ids c)
  | .check .. => instDecidableTrue
  | .remaining .. => inferInstanceAs (Decidable (_ ∨ _ ∧ ∃ counter ∈ _, ∀ limit ∈ _, ¬ _))
  | .reset _ | .pruneInactive .. => instDecidableFalse

structure Indistinct (ids : List Bytes) (l t : RateLimiter) : Prop where
  agrees : Agrees l t
  counters : ∀ id ∈ ids, l.counters.lookup id = t.counters.lookup id
  known : ∀ id, l.isKnown id = t.isKnown id

lemma isKnown_withCounter (l : RateLimiter) (clientId : Bytes) (counter : ClientCounter)
    (id : Bytes) : (l.withCounter clientId counter).isKnown id = (id == clientId || l.isKnown id) :=
    by
  unfold isKnown
  by_cases hid : id = clientId
  · rw [hid, lookup_withCounter]
    simp
  · rw [lookup_withCounter_ne _ _ _ hid]
    simp [hid]

namespace Indistinct
variable {P : Platform} {ids : List Bytes} {l t : RateLimiter}

lemma refl (ids : List Bytes) (l : RateLimiter) : Indistinct ids l l :=
  ⟨.refl l, fun _ _ => rfl, fun _ => rfl⟩

section
variable (h : Indistinct ids l t)
include h

lemma tracked : l.tracked = t.tracked := by
  have hm : ∀ id, id ∈ l.counters.keys ↔ id ∈ t.counters.keys := by
    intro id
    rw [← AList.mem_keys, ← AList.mem_keys, ← AList.lookup_isSome, ← AList.lookup_isSome]
    exact Bool.eq_iff_iff.mp (h.known id)
  have hpe := (List.perm_ext_iff_of_nodup l.counters.keys_nodup t.counters.keys_nodup).mpr hm
  exact hpe.length_eq

lemma capacityError (id : Bytes) : l.capacityError id = t.capacityError id := by
  unfold RateLimiter.capacityError
  rw [h.known, h.tracked]

lemma agree_check {operation : String} {id : Bytes} (hid : id ∈ ids) (now created : Instant) :
    (l.call P (.check operation id now created) = none ∧
        t.call P (.check operation id now created) = none) ∨
      ∃ a l' t', l.call P (.check operation id now created) = some (a, l') ∧
        t.call P (.check operation id now created) = some (a, t') ∧ Indistinct ids l' t' := by
  have ho (now : Instant) : l.outerError id now = t.outerError id now := by
    rw [outerError, outerError, h.agrees.checkGlobal, h.capacityError]
  rcases call_own (P := P) (c := .check operation id now created) rfl h.agrees.limits ho
    (h.capacityError id) (h.counters id hid) with hn | ⟨a, l', t', hl, ht, hsa⟩
  · exact .inl hn
  refine .inr ⟨a, l', t', hl, ht, h.agrees.call hl ht, fun id' hi' => ?_, fun id' => ?_⟩
  · by_cases heq : id = id'
    · exact heq ▸ hsa
    · rw [lookup_of_call hl rfl heq, lookup_of_call ht rfl heq, h.counters id' hi']
  by_cases heq : id = id'
  · exact heq ▸ congrArg Option.isSome hsa
  · have hkn := h.known id'
    rwa [isKnown, ← lookup_of_call hl rfl heq, isKnown, ← lookup_of_call ht rfl heq] at hkn

lemma skip_remaining {operation : String} {id : Bytes} {created now : Instant}
    (hok : l.Unnoticed ids (.remaining operation id created now)) :
    ∃ q l', l.remaining operation id created now = some (q, l') ∧ Indistinct ids l' t := by
  rcases hok with hil | ⟨hid, counter, hco, ho⟩
  · obtain ⟨q, l', heq, hag, hsa⟩ := (remaining_keeps_iff l operation id created now).mpr hil
    refine ⟨q, l', heq, hag.trans h.agrees, fun id' hi' => ?_, fun id' => ?_⟩
    · rw [hsa, h.counters id' hi']
    · rw [isKnown, hsa]
      exact h.known id'
  · cases hl : l.limits.lookup operation with
    | none => exact ⟨none, l, remaining_unknown hl, h⟩
    | some li =>
      have hkn := isKnown_of_lookup hco
      obtain ⟨r, hre, -⟩ := ClientCounter.exists_refill
        (ClientCounter.refillOverflows_updateCounters.not.mpr (ho li hl))
      rw [remaining_room hl (capacityError_known hkn), counterOf_known hco, hre]
      refine ⟨_, _, rfl, (Agrees.of_withCounter l id r).trans h.agrees, fun id' hi' => ?_,
        fun id' => ?_⟩
      · have hne : id' ≠ id := fun heq => hid (heq ▸ hi')
        rw [lookup_withCounter_ne _ _ _ hne, h.counters id' hi']
      rw [isKnown_withCounter, ← h.known]
      by_cases heq : id' = id
      · simp [heq, hkn]
      · simp [heq]

end

end Indistinct

lemma unseen_queries (P : Platform) (ids : List Bytes) :
    Unwinding.Unseen (call P) (fun l c => l.Unnoticed ids c ∧ ∀ id, isCheck c = true →
      c.client = some id → id ∈ ids) isCheck (Indistinct ids) where
  skip {s t c} h hok hc := by
    cases c with
    | check operation id now created => cases hc
    | remaining operation id created now =>
      obtain ⟨q, l', heq, h'⟩ := h.skip_remaining hok.1
      exact ⟨.quota q, l', by rw [call, heq]; rfl, h'⟩
    | reset | pruneInactive => exact absurd hok.1 not_false
  agree {s t c} h hok hc := by
    cases c with
    | check operation id now created => exact h.agree_check (hok.2 id rfl rfl) now created
    | remaining | reset | pruneInactive => cases hc

/-- A query leaves the limiter as it was exactly if it is idle. Queries that are so, or that are for
tracked clients without a check in the run, can be inserted between checks: the results are the
same, and as many clients are tracked at every point. -/
theorem queries_read_only_iff (P : Platform) (l : RateLimiter) :
    (∀ operation clientId created now,
      (∃ q l', l.remaining operation clientId created now = some (q, l') ∧ l'.Agrees l ∧
        ∀ id, l'.counters.lookup id = l.counters.lookup id) ↔ l.Idle operation clientId now) ∧
    ∀ calls, Unwinding.Meets (call P) (Unnoticed (checkedClients calls)) l calls →
      Unwinding.answers (call P) isCheck l calls =
          Unwinding.answers (call P) isCheck l (calls.filter isCheck) ∧
        ∀ n, (Runs.exec (step P) (some l) (calls.take n)).map tracked =
          (Runs.exec (step P) (some l) ((calls.take n).filter isCheck)).map tracked := by
  refine ⟨remaining_keeps_iff l, fun calls hcalls => ?_⟩
  have hmeets := hcalls.and_mem (Q := fun c => ∀ id, isCheck c = true → c.client = some id →
      id ∈ checkedClients calls) fun c hc id hcheck hclient =>
    List.mem_filterMap.mpr ⟨c, List.mem_filter.mpr ⟨hc, hcheck⟩, hclient⟩
  have hunseen := unseen_queries P (checkedClients calls)
  refine ⟨hunseen.answers_filter (fun _ h => h) (.refl _ l) hmeets, fun n => ?_⟩
  rcases hunseen.exec_filter (.refl _ l) (hmeets.take n) with ⟨hs, ht⟩ | ⟨s', t', hs, ht, h⟩
  · rw [step, hs, ht]
  · rw [step, hs, ht, Option.map_some, Option.map_some, h.tracked]

def encryptions (queries : List Call) : List Call :=
  .check "encrypt" [1] (fromSecs 100) (fromSecs 100) :: queries ++
    List.replicate 3 (.check "encrypt" [1] (fromMillis 100500) (fromMillis 100500))

theorem unnoticed_query :
    Unwinding.Meets (call ⟨2 ^ 63⟩) (Unnoticed [[1], [1], [1], [1]]) (new 0)
        (encryptions [.remaining "encrypt" [1] (fromMillis 100050) (fromMillis 100050)]) ∧
      Unwinding.answers (call ⟨2 ^ 63⟩) isCheck (new 0)
          (encryptions [.remaining "encrypt" [1] (fromMillis 100050) (fromMillis 100050)]) =
        Unwinding.answers (call ⟨2 ^ 63⟩) isCheck (new 0) (encryptions []) := by
  refine (and_iff_left_of_imp fun hmeets => ?_).mpr (by decide +kernel)
  exact ((queries_read_only_iff ⟨2 ^ 63⟩ (new 0)).2 _ hmeets).1

/-- The quota of another operation takes the tokens down to that operation's burst size, and the
last encryption is refused; that of another client makes a counter for it. -/
theorem query_takes_tokens :
    Unwinding.answers (call ⟨2 ^ 63⟩) isCheck (new 0) (encryptions []) =
        [.checked (.ok ()), .checked (.ok ()), .checked (.ok ()), .checked (.ok ())] ∧
      Unwinding.answers (call ⟨2 ^ 63⟩) isCheck (new 0)
          (encryptions [.remaining "handshake" [1] (fromMillis 100500) (fromMillis 100500)]) =
        [.checked (.ok ()), .checked (.ok ()), .checked (.ok ()),
          .checked (.error .burstExceeded)] ∧
      (Runs.exec (step ⟨2 ^ 63⟩) (some (new 0)) (encryptions [])).map tracked = some 1 ∧
      (Runs.exec (step ⟨2 ^ 63⟩) (some (new 0))
          (encryptions [.remaining "encrypt" [2] (fromSecs 100) (fromSecs 100)])).map tracked =
        some 2 :=
  ⟨rfl, rfl, rfl, rfl⟩

end Sibna.RateLimiter
