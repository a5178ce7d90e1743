import Mathlib.Data.List.Dedup
import Sibna.RateLimit.Counter

/-!
# What clients and operations have in common

Clients have counters of their own, the operations of one client share it.
-/

namespace Sibna.RateLimiter

def Overflows (P : Platform) (l : RateLimiter) : Call → Prop
  | .check operation clientId now created => ∃ limit ∈ l.limits.lookup operation,
      (l.counterOf clientId created).RefillOverflows limit now ∨
        (l.counterOf clientId created).Exhausted limit now ∧ P.latest < now + limit.cooldown
  | .remaining operation clientId created now => ∃ limit ∈ l.limits.lookup operation,
      (l.counterOf clientId created).RefillOverflows limit now
  | _ => False

instance (P : Platform) (l : RateLimiter) (c : Call) : Decidable (l.Overflows P c) := by
  rcases c <;> unfold Overflows <;> infer_instance

section
variable {P : Platform} {l : RateLimiter} {operation : String} {clientId : Bytes}
  {now created : Instant}

lemma checkGlobal_quiet (hg : l.globalEnabled = false) :
    l.checkGlobal now = (none, l.globalCounter) := by
  simp [checkGlobal, hg]

lemma outerError_quiet (hg : l.globalEnabled = false)
    (hro : l.capacityError clientId = none) : l.outerError clientId now = none := by
  rw [outerError, checkGlobal_quiet hg, hro]
  rfl

lemma capacityError_known (hkn : l.isKnown clientId = true) : l.capacityError clientId = none :=
  capacityError_eq_none_iff.mpr fun hu => absurd (hkn.symm.trans hu) nofun

lemma capacityError_quiet (hro : l.tracked < maxTrackedClients) : l.capacityError clientId = none :=
  capacityError_eq_none_iff.mpr fun _ => hro

lemma exists_call {c : Call} (hg : l.globalEnabled = false) (hro : l.tracked < maxTrackedClients)
    (hok : ¬ l.Overflows P c) : ∃ a l', l.call P c = some (a, l') := by
  cases c with
  | check operation id now created =>
    cases hl : l.limits.lookup operation with
    | none =>
      rw [call, check_unknown hl]
      exact ⟨_, _, rfl⟩
    | some limit =>
      simp only [Overflows, hl, Option.mem_some_iff, exists_eq_left', not_or, not_and,
        Nat.not_lt] at hok
      obtain ⟨r, hr⟩ :
          ∃ r, (l.counterOf id created).check P operation limit none now = some r :=
        ClientCounter.exists_check hok.1 hok.2
      rw [call, check_known hl, outerError_quiet hg (capacityError_quiet hro), hr]
      exact ⟨_, _, rfl⟩
  | remaining operation id created now =>
    cases hl : l.limits.lookup operation with
    | none =>
      rw [call, remaining_unknown hl]
      exact ⟨_, _, rfl⟩
    | some limit =>
      simp only [Overflows, hl, Option.mem_some_iff, exists_eq_left'] at hok
      obtain ⟨counter, hco, -⟩ :=
        ClientCounter.exists_refill (ClientCounter.refillOverflows_updateCounters.not.mpr hok)
      rw [call, remaining_room hl (capacityError_quiet hro), hco]
      exact ⟨_, _, rfl⟩
  | reset | pruneInactive => exact ⟨_, _, rfl⟩

end

structure Alike (clientId : Bytes) (ids : List Bytes) (l t : RateLimiter) : Prop where
  limits : l.limits = t.limits
  quiet : l.globalEnabled = false ∧ t.globalEnabled = false
  counter : l.counters.lookup clientId = t.counters.lookup clientId
  among : (∀ id ∈ l.counters.keys, id ∈ ids) ∧ ∀ id ∈ t.counters.keys, id ∈ ids

lemma tracked_le {l : RateLimiter} {ids : List Bytes} (h : ∀ id ∈ l.counters.keys, id ∈ ids) :
    l.tracked ≤ ids.dedup.length := by
  have hsu := fun id hid => List.mem_dedup.mpr (h id hid)
  exact (List.subperm_of_subset l.counters.keys_nodup hsu).length_le

namespace Alike
variable {P : Platform} {clientId : Bytes} {ids : List Bytes} {l t : RateLimiter}

lemma room (h : Alike clientId ids l t) (hid : ids.dedup.length < maxTrackedClients) :
    l.tracked < maxTrackedClients ∧ t.tracked < maxTrackedClients :=
  ⟨Nat.lt_of_le_of_lt (tracked_le h.among.1) hid, Nat.lt_of_le_of_lt (tracked_le h.among.2) hid⟩

lemma next {c : Call} {a : Answer} {l' t' : RateLimiter} (h : Alike clientId ids l t)
    (hok : ∀ id ∈ c.client, id ∈ ids) (hl : l.call P c = some (a, l'))
    (ht : t.call P c = some (a, t') ∨ t' = t)
    (hco : l'.counters.lookup clientId = t'.counters.lookup clientId) :
    Alike clientId ids l' t' := by
  have ham {m m' : RateLimiter} {a : Answer} (hm : m.call P c = some (a, m'))
      (his : ∀ id ∈ m.counters.keys, id ∈ ids) : ∀ id ∈ m'.counters.keys, id ∈ ids :=
    fun id hid => (mem_keys_of_call hm hid).elim (hok id) (his id)
  obtain ⟨hli, hg⟩ := config_of_call hl
  rcases ht with ht | rfl
  · obtain ⟨hl', hg'⟩ := config_of_call ht
    exact ⟨hli.trans (h.limits.trans hl'.symm),
      ⟨hg.trans h.quiet.1, hg'.trans h.quiet.2⟩, hco,
      ham hl h.among.1, ham ht h.among.2⟩
  · exact ⟨hli.trans h.limits, ⟨hg.trans h.quiet.1, h.quiet.2⟩, hco, ham hl h.among.1, h.among.2⟩

end Alike

/-- The listed clients call, and no call of another client can end the process. -/
def Harmless (P : Platform) (clientId : Bytes) (ids : List Bytes) (l : RateLimiter) (c : Call) :
    Prop :=
  (c.client ≠ some clientId → ¬ l.Overflows P c) ∧ ∀ id ∈ c.client, id ∈ ids

def ofClient (clientId : Bytes) (c : Call) : Bool := c.client == some clientId

def notOfOthers (clientId : Bytes) (c : Call) : Bool := c.client.all (· == clientId)

section
variable {P : Platform} {clientId : Bytes} {ids : List Bytes} {l t : RateLimiter} {c : Call}

section
variable (h : Alike clientId ids l t) (hid : ids.dedup.length < maxTrackedClients)
include h hid

lemma skip_call (hok : Harmless P clientId ids l c) (hc : notOfOthers clientId c = false) :
    ∃ a l', l.call P c = some (a, l') ∧ Alike clientId ids l' t := by
  obtain ⟨id, hcl, hne⟩ : ∃ id, c.client = some id ∧ id ≠ clientId := by
    cases hcl : c.client with
    | none => simp [notOfOthers, hcl] at hc
    | some id => exact ⟨id, rfl, by simpa [notOfOthers, hcl] using hc⟩
  obtain ⟨a, l', hca⟩ :=
    exists_call h.quiet.1 (h.room hid).1 (hok.1 (by simp [hcl, hne]))
  refine ⟨a, l', hca, h.next hok.2 hca (.inr rfl) ?_⟩
  rw [lookup_of_call hca hcl hne, h.counter]

lemma agree_call (hok : ∀ id ∈ c.client, id ∈ ids) (hc : notOfOthers clientId c = true) :
    (l.call P c = none ∧ t.call P c = none) ∨ ∃ a l' t', l.call P c = some (a, l') ∧
    t.call P c = some (a, t') ∧ Alike clientId ids l' t' := by
  obtain ⟨hro, hr'⟩ := h.room hid
  have hca : l.capacityError clientId = none := capacityError_quiet hro
  have hc' : t.capacityError clientId = none := capacityError_quiet hr'
  cases hcl : c.client with
  | none =>
    -- only a pruning has no client
    cases c with
    | check | remaining | reset => cases hcl
    | pruneInactive maxAge now =>
      refine .inr ⟨.done, _, _, rfl, rfl, h.next (P := P) hok rfl (.inl rfl) ?_⟩
      rw [lookup_pruneInactive, lookup_pruneInactive, h.counter]
  | some id =>
    obtain rfl : id = clientId := by simpa [notOfOthers, hcl] using hc
    rcases call_own (P := P) hcl h.limits
      (fun now => (outerError_quiet h.quiet.1 hca).trans
        (outerError_quiet h.quiet.2 hc').symm)
      (hca.trans hc'.symm) h.counter with hn | ⟨a, l', t', hl, ht, hsa⟩
    · exact .inl hn
    · exact .inr ⟨a, l', t', hl, ht, h.next hok hl (.inl ht) hsa⟩

end

lemma unseen_others (P : Platform) (clientId : Bytes) {ids : List Bytes}
    (hid : ids.dedup.length < maxTrackedClients) :
    Unwinding.Unseen (call P) (Harmless P clientId ids) (notOfOthers clientId)
    (Alike clientId ids) where
  skip h hok hc := skip_call h hid hok hc
  agree h hok hc := agree_call h hid hok.2 hc

end

/-- A run of clients that all fit into the limiter, in which no call of another client can end the
process. -/
structure Isolated (P : Platform) (clientId : Bytes) (l : RateLimiter) (calls : List Call) :
    Prop where
  few : (l.counters.keys ++ calls.filterMap Call.client).dedup.length < maxTrackedClients
  harmless : Unwinding.Meets (call P) (fun l c => c.client ≠ some clientId → ¬ l.Overflows P c) l
    calls

lemma Isolated.answers_filter {P : Platform} {clientId : Bytes} {l : RateLimiter}
    {ca : List Call} (h : Isolated P clientId l ca) (hg : l.globalEnabled = false) :
    Unwinding.answers (call P) (ofClient clientId) l ca = Unwinding.answers (call P)
    (ofClient clientId) l (ca.filter (notOfOthers clientId)) := by
  refine (unseen_others P clientId h.few).answers_filter ?_ ?_ (h.harmless.and_mem ?_)
  · intro c hc
    have hcl := eq_of_beq hc
    simp [notOfOthers, hcl]
  · refine ⟨rfl, ⟨hg, hg⟩, rfl, ?_, ?_⟩
    · exact fun id hid => List.mem_append_left _ hid
    · exact fun id hid => List.mem_append_left _ hid
  · intro c hc id hid
    exact List.mem_append_right _ (List.mem_filterMap.mpr ⟨c, hc, hid⟩)

/-- Two runs that differ in calls of other clients only give a client the same answers. -/
theorem answers_without_others (P : Platform) (clientId : Bytes) (l : RateLimiter)
    (hglobal : l.globalEnabled = false) (calls calls' : List Call)
    (hsame : calls.filter (notOfOthers clientId) = calls'.filter (notOfOthers clientId))
    (h : Isolated P clientId l calls) (h' : Isolated P clientId l calls') :
    Unwinding.answers (call P) (ofClient clientId) l calls =
      Unwinding.answers (call P) (ofClient clientId) l calls' := by
  rw [h.answers_filter hglobal, h'.answers_filter hglobal, hsame]

def afterAnother (idle : Nat) : List Call :=
  [.check "decrypt" [2] (fromSecs 1000) (fromSecs 1000),
    .check "decrypt" [2] (fromSecs 1000 + idle) (fromSecs 1000 + idle),
    .check "encrypt" [1] (fromSecs 1001 + idle) (fromSecs 1001 + idle)]

theorem answers_after_a_day :
    let l := (new 0).setGlobalEnabled false
    let calls := afterAnother (fromSecs 86400)
    Isolated ⟨2 ^ 63⟩ [1] l calls ∧ Unwinding.answers (call ⟨2 ^ 63⟩) (ofClient [1]) l calls =
      Unwinding.answers (call ⟨2 ^ 63⟩) (ofClient [1]) l (calls.drop 2) := by
  intro l calls
  have h : Isolated ⟨2 ^ 63⟩ [1] l calls := ⟨by decide, by decide +kernel⟩
  have h' : Isolated ⟨2 ^ 63⟩ [1] l (calls.drop 2) := ⟨by decide, by decide +kernel⟩
  exact ⟨h, answers_without_others _ _ _ rfl _ _ rfl h h'⟩

/-- The tokens of ten days do not fit into 32 bits: the other client ends the process, and the check
has no answer. -/
theorem no_answer_after_ten_days :
    let l := (new 0).setGlobalEnabled false
    let calls := afterAnother (fromSecs 864000)
    l.globalEnabled = false ∧
      (calls.filterMap Call.client).dedup.length < maxTrackedClients ∧
      calls.filter (notOfOthers [1]) = calls.drop 2 ∧
      Unwinding.answers (call ⟨2 ^ 63⟩) (ofClient [1]) l calls = [] ∧
      Unwinding.answers (call ⟨2 ^ 63⟩) (ofClient [1]) l (calls.drop 2) = [.checked (.ok ())] :=
  ⟨rfl, by decide, rfl, rfl, rfl⟩

def ofOperation (operation : String) (clientId : Bytes) : Call → Bool
  | .check operation' id _ _ => operation' == operation && id == clientId
  | _ => false

def ofOtherOperation (operation : String) (clientId : Bytes) : Call → Bool
  | .check operation' id _ _ => operation' != operation && id == clientId
  | _ => false

/-- A check of an operation without a limit. -/
def unlimited (l : RateLimiter) : Call → Bool
  | .check operation _ _ _ => (l.limits.lookup operation).isNone
  | _ => false

def keepsCooldown (clientId : Bytes) : Call → Bool
  | .check _ id _ _ => id != clientId
  | .remaining _ _ _ _ => true
  | .reset id => id != clientId
  | .pruneInactive _ _ => false

section
variable {P : Platform} {l l' : RateLimiter} {operation : String} {clientId : Bytes}
  {now created : Instant}

lemma check_unlimited (hg : l.globalEnabled = false) (hl : l.limits.lookup operation = none) :
    l.check P operation clientId now created = some (.error (.unknownOperation operation), l) := by
  rw [check_unknown hl, checkGlobal_quiet hg]

lemma unseen_unlimited (P : Platform) (operation : String) (clientId : Bytes) :
    Unwinding.Unseen (call P) (fun l c => ofOtherOperation operation clientId c = true →
      l.unlimited c = true) (fun c => !ofOtherOperation operation clientId c)
    (fun s t => s = t ∧ s.globalEnabled = false) where
  skip {s t c} h hok hc := by
    obtain ⟨rfl, hg⟩ := h
    have hun := hok (by simpa using hc)
    cases c with
    | check operation' id now created =>
      refine ⟨.checked (.error (.unknownOperation operation')), s, ?_, rfl, hg⟩
      rw [call, check_unlimited hg (Option.isNone_iff_eq_none.mp hun)]
      rfl
    | remaining | reset | pruneInactive => cases hun
  agree {s t c} h _ _ := by
    obtain ⟨rfl, hg⟩ := h
    cases hca : s.call P c with
    | none => exact .inl ⟨rfl, rfl⟩
    | some r => exact .inr ⟨r.1, r.2, r.2, rfl, rfl, rfl, (config_of_call hca).2.trans hg⟩

lemma cooldown_of_remaining {co c' : ClientCounter} {li : OperationLimit}
    (h : (co.updateCounters now).refillBurstTokens li now = some c') :
    c'.cooldownUntil = co.cooldownUntil := by
  obtain ⟨tk, t, rfl⟩ := ClientCounter.eq_of_refillBurstTokens h
  rfl

def CoolingDown (clientId : Bytes) (cooldownEnd : Instant) (l : RateLimiter) : Prop :=
  ∃ counter ∈ l.counters.lookup clientId, counter.cooldownUntil = some cooldownEnd

variable {cooldownEnd : Instant}

section
variable (h : CoolingDown clientId cooldownEnd l)
include h

lemma CoolingDown.call {c : Call} (hc : keepsCooldown clientId c = true) {a : Answer}
    (hca : l.call P c = some (a, l')) : CoolingDown clientId cooldownEnd l' := by
  by_cases ho : ∃ id, c.client = some id ∧ id ≠ clientId
  · obtain ⟨id, hcl, hne⟩ := ho
    rwa [CoolingDown, lookup_of_call hca hcl hne]
  -- of the calls for the client only a query keeps the cooldown
  cases c with
  | check | reset => exact absurd ⟨_, rfl, by simpa [keepsCooldown] using hc⟩ ho
  | remaining operation id created now =>
    obtain rfl := Classical.not_not.mp fun hne => ho ⟨id, rfl, hne⟩
    obtain ⟨q, -, hr⟩ := call_remaining hca
    rcases remaining_cases hr with ⟨-, rfl, -⟩ | ⟨limit, counter, -, -, hre, -, rfl⟩
    · exact h
    · obtain ⟨old, hol, hco⟩ := h
      refine ⟨counter, by simp, ?_⟩
      rw [cooldown_of_remaining hre, counterOf_known hol, hco]
  | pruneInactive maxAge now => cases hc

lemma CoolingDown.exec {ca : List Call} (hca : ∀ c ∈ ca, keepsCooldown clientId c = true)
    (hr : Runs.exec (step P) (some l) ca = some l') : CoolingDown clientId cooldownEnd l' := by
  have hst : ∀ t ∈ some l, CoolingDown clientId cooldownEnd t := by
    rintro _ ⟨⟩
    exact h
  refine Runs.Guarded.invariant (I := fun o => ∀ t ∈ o, CoolingDown clientId cooldownEnd t) ?_
    (Runs.guarded_of_mem _ hca) hst l' hr
  intro o c hI hc t' ht'
  obtain ⟨t, a, rfl, hcl⟩ := step_some ht'
  exact (hI t rfl).call hc hcl

lemma CoolingDown.refused (hno : now < cooldownEnd) {r : Except RateLimitError Unit}
    (hch : l.check P operation clientId now created = some (r, l')) : r ≠ .ok () := by
  obtain ⟨co, hcu, hco⟩ := h
  obtain ⟨-, hre, -⟩ | ⟨li, c', hl, hc', hl'⟩ := check_cases hch
  · rw [hre]
    nofun
  rw [counterOf_known hcu] at hc'
  have her : co.cooldownError now = some (.cooldownActive (cooldownEnd - now)) := by
    rw [ClientCounter.cooldownError, hco]
    exact if_pos hno
  obtain ⟨re, -, ⟨hn, -, -⟩ | ⟨err, -, hre, -⟩⟩ :=
    ClientCounter.cases_of_check hc'
  · simp [her] at hn
  · rw [hre]
    nofun

end

end

/-- The operations of a client share its counter. In a run in which the other operations that a
client checks have no limit, the answers for one operation are those of the run without them. A
check of an operation with a limit either takes a token and counts in every window, for all
operations, or keeps the client from all of them until the cooldown of the one that was refused is
over or another check has replaced it. -/
theorem operations_share_counter (P : Platform) (l : RateLimiter) (clientId : Bytes)
    (hglobal : l.globalEnabled = false) :
    (∀ operation calls,
        Unwinding.Meets (call P) (fun l c => ofOtherOperation operation clientId c = true →
          l.unlimited c = true) l calls →
        Unwinding.answers (call P) (ofOperation operation clientId) l calls =
          Unwinding.answers (call P) (ofOperation operation clientId) l
            (calls.filter fun c => !ofOtherOperation operation clientId c)) ∧
      ∀ operation limit now created result l', l.limits.lookup operation = some limit →
        l.check P operation clientId now created = some (result, l') →
        (result = .ok () ∧ ∃ refreshed counter,
            (l.counterOf clientId created).refreshed limit now = some refreshed ∧
            l'.counters.lookup clientId = some counter ∧
            (∀ w, counter.count w = refreshed.count w + 1) ∧
            counter.burstTokens = refreshed.burstTokens - 1) ∨
          (result ≠ .ok () ∧ ∀ calls t, (∀ c ∈ calls, keepsCooldown clientId c = true) →
            Runs.exec (step P) (some l') calls = some t →
            ∀ operation' now' created' result' t', now' < now + limit.cooldown →
              t.check P operation' clientId now' created' = some (result', t') →
              result' ≠ .ok ()) := by
  refine ⟨fun operation calls hcalls => ?_,
    fun operation limit now created result l' hlimit hcheck => ?_⟩
  · refine (unseen_unlimited P operation clientId).answers_filter ?_ ⟨rfl, hglobal⟩ hcalls
    intro c hc
    cases c with
    | check operation' id now created =>
      simp only [ofOperation, Bool.and_eq_true] at hc
      simp [ofOtherOperation, eq_of_beq hc.1]
    | remaining | reset | pruneInactive => rfl
  · obtain ⟨hnone, -, -⟩ | ⟨limit', counter, hlimit', hcheck', rfl⟩ := check_cases hcheck
    · rw [hnone] at hlimit
      cases hlimit
    obtain rfl : limit' = limit := Option.some.inj (hlimit'.symm.trans hlimit)
    obtain ⟨refreshed, hrefreshed, ⟨-, rfl, rfl⟩ | ⟨err, -, rfl, rfl⟩⟩ :=
      ClientCounter.cases_of_check hcheck'
    · exact .inl ⟨rfl, refreshed, _, hrefreshed, lookup_withCounter _ _ _, fun _ => rfl, rfl⟩
    refine .inr ⟨nofun, fun calls t hcalls hrun operation' now' created' result' t' hnow h => ?_⟩
    have hcooling : CoolingDown clientId (now + limit'.cooldown)
        { l.withCounter clientId { refreshed with cooldownUntil := some _ }
          with globalCounter := (l.checkGlobal now).2 } :=
      ⟨_, lookup_withCounter _ _ _, rfl⟩
    exact (hcooling.exec hcalls hrun).refused hnow h

/-- An operation without a limit leaves the handshake alone; the first handshake counts in every
window, and the cooldown of a second one keeps the client from encryptions. -/
theorem handshakes_without_backups :
    let P : Platform := ⟨2 ^ 63⟩
    let l := (new 0).setGlobalEnabled false
    let backup : Call := .check "backup" [1] (fromSecs 100) (fromSecs 100)
    let handshake : Call := .check "handshake" [1] (fromSecs 100) (fromSecs 100)
    Unwinding.answers (call P) (ofOperation "handshake" [1]) l [backup, handshake] =
      Unwinding.answers (call P) (ofOperation "handshake" [1]) l [handshake] ∧
    ∃ first second third counter e result,
      l.check P "handshake" [1] (fromSecs 100) (fromSecs 100) = some (.ok (), first) ∧
      first.counters.lookup [1] = some counter ∧ (∀ w, counter.count w = 1) ∧
      first.check P "handshake" [1] (fromSecs 100) (fromSecs 100) = some (.error e, second) ∧
      second.check P "encrypt" [1] (fromSecs 110) (fromSecs 110) = some (result, third) ∧
      result ≠ .ok () := by
  intro P l backup handshake
  refine ⟨(operations_share_counter P l [1] rfl).1 "handshake" _ (by decide), ?_⟩
  have hlimit : l.limits.lookup "handshake" = some ⟨1, 10, 100, 1000, fromSecs 300, 2⟩ := rfl
  have hthree : ((l.check P "handshake" [1] (fromSecs 100) (fromSecs 100)).bind fun r =>
      (r.2.check P "handshake" [1] (fromSecs 100) (fromSecs 100)).bind fun r' =>
        (r'.2.check P "encrypt" [1] (fromSecs 110) (fromSecs 110)).map fun r'' =>
          (r.1, r'.1, r''.1)) =
      some (.ok (), .error (.rateExceeded "handshake" "per_second" (fromSecs 300)),
        .error (.cooldownActive (fromSecs 290))) := by decide +kernel
  obtain ⟨⟨r, first⟩, hfirst, hthree⟩ := Option.bind_eq_some_iff.mp hthree
  obtain ⟨⟨r', second⟩, hsecond, hthree⟩ := Option.bind_eq_some_iff.mp hthree
  obtain ⟨⟨result, third⟩, hthird, hresults⟩ := Option.map_eq_some_iff.mp hthree
  cases hresults
  obtain ⟨-, refreshed, counter, hrefreshed, hcounter, hcount, -⟩ | ⟨hrefused, -⟩ :=
    (operations_share_counter P l [1] rfl).2 "handshake" _ _ _ _ _ hlimit hfirst
  · obtain ⟨tokens, time, rfl⟩ := ClientCounter.eq_of_refillBurstTokens hrefreshed
    have hone : ∀ w, counter.count w = 1 := fun w => (hcount w).trans (by cases w <;> rfl)
    have hcall : l.call P handshake = some (.checked (.ok ()), first) := by
      rw [call, hfirst]
      rfl
    obtain ⟨hlimits, hquiet⟩ := config_of_call hcall
    obtain ⟨hok, -⟩ | ⟨-, hcooling⟩ := (operations_share_counter P first [1] hquiet).2 "handshake" _
      _ _ _ _ (hlimits ▸ hlimit) hsecond
    · cases hok
    · exact ⟨first, second, third, counter, _, _, hfirst, hcounter, hone, hsecond, hthird,
        hcooling [] _ (by simp) rfl _ _ _ _ _ (by decide) hthird⟩
  · exact absurd rfl hrefused

/-- Behind an encryption the first handshake of the second is one too many, and the cooldown of a
handshake keeps the client from encryptions. -/
theorem encrypt_consumes_handshake :
    let answers (operation : String) :=
      Unwinding.answers (call ⟨2 ^ 63⟩) (ofOperation operation [1]) ((new 0).setGlobalEnabled false)
    let check (operation : String) (seconds : Nat) : Call :=
      .check operation [1] (fromSecs seconds) (fromSecs seconds)
    answers "handshake" [check "encrypt" 100, check "handshake" 100] =
        [.checked (.error (.rateExceeded "handshake" "per_second" (fromSecs 300)))] ∧
      answers "handshake" [check "handshake" 100] = [.checked (.ok ())] ∧
      answers "encrypt" [check "encrypt" 100, check "handshake" 100, check "encrypt" 110] =
        [.checked (.ok ()), .checked (.error (.cooldownActive (fromSecs 290)))] ∧
      answers "encrypt" [check "encrypt" 100, check "encrypt" 110] =
        [.checked (.ok ()), .checked (.ok ())] :=
  ⟨rfl, rfl, rfl, rfl⟩

end Sibna.RateLimiter
