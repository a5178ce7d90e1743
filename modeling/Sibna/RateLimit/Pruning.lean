import Sibna.RateLimit.Cooldown

/-!
# What pruning forgets

The same calls from the limiter with and without the pruning.
-/

namespace Sibna

namespace ClientCounter

def fresh (limit : OperationLimit) (now : Instant) : ClientCounter where
  count := fun _ => 0
  last := fun _ => now
  cooldownUntil := none
  burstTokens := limit.burstSize
  lastRefill := now

@[mk_iff]
structure Spent (counter : ClientCounter) (limit : OperationLimit) (now : Instant) : Prop where
  windows : ∀ w ∈ Window.all, counter.Over now w
  cooldown : ∀ cooldownEnd ∈ counter.cooldownUntil, cooldownEnd ≤ now
  burst : 0 < limit.burstSize.toNat
  tokens : 1000 * limit.burstSize.toNat ≤ counter.refillProduct limit now
  fits : ¬ counter.RefillOverflows limit now

instance (counter : ClientCounter) (limit : OperationLimit) (now : Instant) :
    Decidable (counter.Spent limit now) :=
  decidable_of_iff' _ (spent_iff ..)

section
variable {P : Platform} {counter : ClientCounter} {limit : OperationLimit} {now : Instant}

lemma min_eq_burst {tk bu : UInt32} (h : bu.toNat ≤ tk.toNat) : min tk bu = bu := by
  change (if tk ≤ bu then tk else bu) = bu
  split
  · rename_i hle
    exact UInt32.le_antisymm hle (UInt32.le_iff_toNat_le.mpr h)
  · rfl

lemma Spent.stored (h : counter.Spent limit now) :
    (counter.updateCounters now).refillBurstTokens limit now =
      some { fresh limit now with cooldownUntil := counter.cooldownUntil } := by
  have hu : counter.updateCounters now =
      { counter with count := fun _ => 0, last := fun _ => now } := by
    simp only [updateCounters, fun w => h.windows w (Window.mem_all w), if_true]
  have hb := h.burst
  have hto : 1000 * limit.burstSize.toNat ≤ (counter.updateCounters now).refillProduct limit now :=
    h.tokens
  rcases (counter.updateCounters now).refill_cases limit now with
    ⟨hdu, -⟩ | ⟨-, ho, -⟩ | ⟨-, -, tokens, hsu, heq⟩
  · omega
  · exact absurd ho h.fits
  · rw [heq, min_eq_burst (by omega), hu]
    rfl

lemma Spent.refreshed (h : counter.Spent limit now) :
    counter.refreshed limit now = some (fresh limit now) ∧ counter.cooldownError now = none := by
  rcases counter.cooldown_cases now with ⟨ce, hed, hlt, -⟩ | ⟨-, hn, hen⟩
  · exact absurd (h.cooldown ce hed) (Nat.not_le.mpr hlt)
  · rw [refreshed_eq, h.stored, hen]
    exact ⟨rfl, hn⟩

lemma Spent.minute (h : counter.Spent limit now) : fromSecs 60 ≤ now := by
  have hda := h.windows .day (by decide)
  have hl : fromSecs 60 ≤ Window.day.length := by decide
  exact Nat.le_trans hl (Nat.le_trans hda (Nat.sub_le _ _))

lemma default_not_over (now : Instant) (w : Window) : ¬ (default now).Over now w :=
  not_over_of_started rfl

lemma default_product (limit : OperationLimit) (hm : fromSecs 60 ≤ now) :
    (default now).refillProduct limit now = 60000 * limit.burstSize.toNat := by
  have hel : now - (default now).lastRefill = fromSecs 60 := by
    simp only [default, if_pos hm]
    exact Nat.sub_sub_self hm
  rw [refillProduct, hel]
  rfl

lemma default_stored (hm : fromSecs 60 ≤ now) (hb : 0 < limit.burstSize.toNat) :
    ((default now).updateCounters now).refillBurstTokens limit now = none ∨
    ((default now).updateCounters now).refillBurstTokens limit now = some (fresh limit now) := by
  rw [updateCounters_of_not_over (default_not_over now)]
  have hpr := default_product limit hm
  rcases (default now).refill_cases limit now with
    ⟨hdu, -⟩ | ⟨-, -, heq⟩ | ⟨-, -, tokens, hsu, heq⟩
  · omega
  · exact .inl heq
  · right
    rw [heq, min_eq_burst (by omega)]
    rfl

lemma Spent.check_eq (h : counter.Spent limit now) {operation : String}
    {er : Option RateLimitError} {r r' : Except RateLimitError Unit × ClientCounter}
    (hr : counter.check P operation limit er now = some r)
    (hr' : (default now).check P operation limit er now = some r') : r = r' := by
  obtain ⟨hre, hco⟩ := h.refreshed
  rcases default_stored h.minute h.burst with hn | hne
  · rw [check, refreshed_eq, hn] at hr'
    cases hr'
  · rw [check, hre, hco] at hr
    rw [check, refreshed_eq, hne] at hr'
    exact Option.some.inj (hr.symm.trans hr')

lemma Spent.stored_eq (h : counter.Spent limit now) (hco : counter.cooldownUntil = none)
    {c c' : ClientCounter}
    (hc : (counter.updateCounters now).refillBurstTokens limit now = some c)
    (hc' : ((default now).updateCounters now).refillBurstTokens limit now = some c') : c = c' := by
  rw [h.stored, hco] at hc
  rcases default_stored h.minute h.burst with hn | hne
  · rw [hn] at hc'
    cases hc'
  · exact Option.some.inj (hc.symm.trans (hne.symm.trans hc'))

end

end ClientCounter

namespace RateLimiter

def HasRoom (l : RateLimiter) (clientId : Bytes) : Prop :=
  l.isKnown clientId = false → l.tracked < maxTrackedClients
  deriving Decidable

/-- If the call is one of the client for an operation with a limit, then both limiters have room
for the client, and where only the first one has a counter of it nothing is left of that. -/
def Undisturbed (clientId : Bytes) (l t : RateLimiter) : Call → Prop
  | .check operation id now created => id = clientId → ∀ limit ∈ l.limits.lookup operation,
      l.HasRoom id ∧ t.HasRoom id ∧ (t.isKnown id = false → ∀ counter ∈ l.counters.lookup id,
        counter.Spent limit now ∧ created = now)
  | .remaining operation id created now => id = clientId → ∀ limit ∈ l.limits.lookup operation,
      l.HasRoom id ∧ t.HasRoom id ∧ (t.isKnown id = false → ∀ counter ∈ l.counters.lookup id,
        counter.Spent limit now ∧ created = now ∧ counter.cooldownUntil.isNone)
  | _ => True

instance (clientId : Bytes) (l t : RateLimiter) (c : Call) :
    Decidable (Undisturbed clientId l t c) := by
  rcases c <;> unfold Undisturbed <;> infer_instance

structure AlikeOrForgotten (clientId : Bytes) (l t : RateLimiter) : Prop where
  agrees : Agrees l t
  counter : l.counters.lookup clientId = t.counters.lookup clientId ∨
    t.counters.lookup clientId = none

section
variable {P : Platform} {clientId : Bytes} {l t l' t' : RateLimiter} {operation : String}
  {now created : Instant}

namespace AlikeOrForgotten

lemma counters_of_lookup (h : AlikeOrForgotten clientId l t)
    (hl : l'.counters.lookup clientId = l.counters.lookup clientId)
    (ht : t'.counters.lookup clientId = t.counters.lookup clientId) :
    l'.counters.lookup clientId = t'.counters.lookup clientId ∨
    t'.counters.lookup clientId = none := by
  rw [hl, ht]
  exact h.counter

lemma eq_of_counterOf {α : Type} {f : ClientCounter → Option α} {s u : α}
    (h : AlikeOrForgotten clientId l t) (hs : f (l.counterOf clientId created) = some s)
    (hu : f (t.counterOf clientId created) = some u)
    (hf : t.isKnown clientId = false → ∀ counter ∈ l.counters.lookup clientId,
      f counter = some s → f (.default created) = some u → s = u) : s = u := by
  rcases h.counter with heq | hn
  · rw [counterOf, heq] at hs
    exact Option.some.inj (hs.symm.trans hu)
  rw [counterOf, hn, Option.getD_none] at hu
  cases hco : l.counters.lookup clientId with
  | none =>
    rw [counterOf, hco] at hs
    exact Option.some.inj (hs.symm.trans hu)
  | some counter =>
    rw [counterOf_known hco] at hs
    exact hf (by rw [isKnown, hn]; rfl) counter hco hs hu

variable {r r' : Except RateLimitError Unit} {q q' : Option RemainingQuota}

lemma check_own (h : AlikeOrForgotten clientId l t)
    (hok : Undisturbed clientId l t (.check operation clientId now created))
    (hl : l.check P operation clientId now created = some (r, l'))
    (ht : t.check P operation clientId now created = some (r', t')) :
    r = r' ∧ (l'.counters.lookup clientId = t'.counters.lookup clientId ∨
      t'.counters.lookup clientId = none) := by
  cases hli : l.limits.lookup operation with
  | none =>
    rw [check_unknown hli] at hl
    rw [check_unknown (h.agrees.limits ▸ hli)] at ht
    cases hl
    cases ht
    exact ⟨rfl, h.counter⟩
  | some limit =>
    obtain ⟨hro, hr', hsp⟩ := hok rfl limit hli
    rw [check_known hli, outerError, capacityError_eq_none_iff.mpr hro, h.agrees.checkGlobal] at hl
    rw [check_known (h.agrees.limits ▸ hli), outerError, capacityError_eq_none_iff.mpr hr'] at ht
    obtain ⟨s, hs, heq⟩ := Option.map_eq_some_iff.mp hl
    obtain ⟨u, hu, he'⟩ := Option.map_eq_some_iff.mp ht
    cases heq
    cases he'
    obtain rfl : s = u := by
      refine h.eq_of_counterOf
        (f := fun counter => counter.check P operation limit _ now)
        hs hu fun hf counter hco hs hu => ?_
      obtain ⟨hsp, rfl⟩ := hsp hf counter hco
      exact hsp.check_eq hs hu
    refine ⟨rfl, .inl ?_⟩
    exact (lookup_withCounter l clientId s.2).trans (lookup_withCounter t clientId s.2).symm

lemma remaining_own (h : AlikeOrForgotten clientId l t)
    (hok : Undisturbed clientId l t (.remaining operation clientId created now))
    (hl : l.remaining operation clientId created now = some (q, l'))
    (ht : t.remaining operation clientId created now = some (q', t')) :
    q = q' ∧ (l'.counters.lookup clientId = t'.counters.lookup clientId ∨
      t'.counters.lookup clientId = none) := by
  cases hli : l.limits.lookup operation with
  | none =>
    rw [remaining_unknown hli] at hl
    rw [remaining_unknown (h.agrees.limits ▸ hli)] at ht
    cases hl
    cases ht
    exact ⟨rfl, h.counter⟩
  | some limit =>
    obtain ⟨hro, hr', hsp⟩ := hok rfl limit hli
    rw [remaining_room hli (capacityError_eq_none_iff.mpr hro)] at hl
    rw [remaining_room (h.agrees.limits ▸ hli) (capacityError_eq_none_iff.mpr hr')] at ht
    obtain ⟨counter, hs, heq⟩ := Option.map_eq_some_iff.mp hl
    obtain ⟨counter', hu, he'⟩ := Option.map_eq_some_iff.mp ht
    cases heq
    cases he'
    obtain rfl : counter = counter' := by
      refine h.eq_of_counterOf
        (f := fun counter => (counter.updateCounters now).refillBurstTokens limit now)
        hs hu fun hf old ho hs hu => ?_
      obtain ⟨hsp, rfl, hco⟩ := hsp hf old ho
      exact hsp.stored_eq (Option.isNone_iff_eq_none.mp hco) hs hu
    refine ⟨rfl, .inl ?_⟩
    rw [lookup_withCounter, lookup_withCounter]

end AlikeOrForgotten

end

lemma parallel_client (P : Platform) (clientId : Bytes) :
    Unwinding.Parallel (call P) (Undisturbed clientId) (ofClient clientId)
    (AlikeOrForgotten clientId) where
  step {l t c a b l' t'} h hok hl ht := by
    have hag := h.agrees.call hl ht
    cases hcl : c.client with
    | none =>
      refine ⟨⟨hag, ?_⟩, fun hw => by simp [ofClient, hcl] at hw⟩
      cases c with
      | check | remaining | reset => cases hcl
      | pruneInactive maxAge now =>
        cases hl
        cases ht
        rw [lookup_pruneInactive, lookup_pruneInactive]
        rcases h.counter with heq | hn
        · exact .inl (by rw [heq])
        · exact .inr (by rw [hn]; rfl)
    | some id =>
      by_cases hid : id = clientId
      · subst hid
        cases c with
        | check operation id' now created =>
          cases hcl
          obtain ⟨r, rfl, hr⟩ := call_check hl
          obtain ⟨r', rfl, hr'⟩ := call_check ht
          obtain ⟨rfl, hco⟩ := h.check_own hok hr hr'
          exact ⟨⟨hag, hco⟩, fun _ => rfl⟩
        | remaining operation id' created now =>
          cases hcl
          obtain ⟨q, rfl, hq⟩ := call_remaining hl
          obtain ⟨q', rfl, hq'⟩ := call_remaining ht
          obtain ⟨rfl, hco⟩ := h.remaining_own hok hq hq'
          exact ⟨⟨hag, hco⟩, fun _ => rfl⟩
        | reset id' =>
          cases hcl
          cases hl
          cases ht
          exact ⟨⟨hag, .inr (AList.lookup_erase _ _)⟩, fun _ => rfl⟩
        | pruneInactive maxAge now => cases hcl
      · refine ⟨⟨hag, h.counters_of_lookup (lookup_of_call hl hcl hid)
          (lookup_of_call ht hcl hid)⟩, fun hw => ?_⟩
        simp [ofClient, hcl, hid] at hw

lemma AlikeOrForgotten.pruned (l : RateLimiter) (ma : Nat) (now : Instant)
    (clientId : Bytes) : AlikeOrForgotten clientId l (l.pruneInactive ma now) := by
  refine ⟨⟨rfl, rfl, rfl, rfl⟩, ?_⟩
  rw [lookup_pruneInactive]
  cases l.counters.lookup clientId with
  | none => exact .inl rfl
  | some counter =>
    rw [Option.filter_some]
    split
    · exact .inl rfl
    · exact .inr rfl

structure Usable (limit : OperationLimit) : Prop where
  windows : ∀ w, 0 < limit.maxPer w
  burst : 0 < limit.burstSize.toNat
  fits : 60000 * limit.burstSize.toNat < 2 ^ 32

section
variable {P : Platform} {l : RateLimiter} {clientId : Bytes} {operation : String}
  {limit : OperationLimit} {time : Instant}

lemma default_not_exhausted (h : Usable limit) (hm : fromSecs 60 ≤ time) :
    ¬ (ClientCounter.default time).RefillOverflows limit time ∧
    ¬ (ClientCounter.default time).Exhausted limit time := by
  have hb := h.burst
  have hf := h.fits
  have hpr := ClientCounter.default_product limit hm
  have hn : (ClientCounter.default time).burstTokens.toNat = 0 := rfl
  constructor
  · rw [ClientCounter.RefillOverflows, hpr, hn]
    omega
  rintro (⟨ce, ⟨⟩, -⟩ | ⟨-, hdu⟩ | ⟨w, -, hle⟩)
  · omega
  · rw [ClientCounter.updateCounters_of_not_over (ClientCounter.default_not_over time)] at hle
    exact absurd (h.windows w) (UInt32.not_lt.mpr hle)

lemma check_fails_iff (hl : l.limits.lookup operation = some limit)
    (hla : time + limit.cooldown ≤ P.latest) (ho : l.outerError clientId time = none)
    (hf : ¬ (l.counterOf clientId time).RefillOverflows limit time) :
    (∃ err s, l.check P operation clientId time time = some (.error err, s)) ↔
    (l.counterOf clientId time).Exhausted limit time := by
  have hok : (∃ s, l.check P operation clientId time time = some (.ok (), s)) ↔
      ¬ (l.counterOf clientId time).Exhausted limit time :=
    (check_ok_iff_counter hl ho).trans (ClientCounter.check_ok_iff_not_exhausted hf)
  obtain ⟨⟨r, s⟩, hr⟩ : ∃ r, l.check P operation clientId time time = some r := by
    obtain ⟨r, hr⟩ := ClientCounter.exists_check_of_le _ hf hla
    rw [check_known hl, hr]
    exact ⟨_, rfl⟩
  rw [hr] at hok ⊢
  cases r with
  | ok u => exact iff_of_false nofun (hok.mp ⟨s, rfl⟩)
  | error err => exact iff_of_true ⟨err, s, rfl⟩ (not_not.mp (hok.not.mp nofun))

lemma next_check_keeps_refusal_iff {ma : Nat} {now : Instant}
    (hl : l.limits.lookup operation = some limit) (hu : Usable limit)
    (hm : fromSecs 60 ≤ time) (hla : time + limit.cooldown ≤ P.latest)
    (ho : l.outerError clientId time = none)
    (ho' : (l.pruneInactive ma now).outerError clientId time = none)
    (hf : ¬ (l.counterOf clientId time).RefillOverflows limit time) :
    ((∃ err s, l.check P operation clientId time time = some (.error err, s)) →
      ¬ ∃ s, (l.pruneInactive ma now).check P operation clientId time time =
        some (.ok (), s)) ↔
    (l.isKnown clientId = (l.pruneInactive ma now).isKnown clientId ∨
      ¬ (l.counterOf clientId time).Exhausted limit time) := by
  have hfa := check_fails_iff hl hla ho hf
  have hpa : (∃ s, (l.pruneInactive ma now).check P operation clientId time time =
      some _) ↔ ∃ counter', ((l.pruneInactive ma now).counterOf clientId time).check P
        operation limit none time = some _ :=
    check_ok_iff_counter (l := l.pruneInactive ma now) hl ho'
  rw [hfa, hpa]
  rcases (AlikeOrForgotten.pruned l ma now clientId).counter with hsa | hn
  · refine iff_of_true (fun heh hok => ?_) (.inl (congrArg Option.isSome hsa))
    rw [counterOf, ← hsa] at hok
    exact (ClientCounter.check_ok_iff_not_exhausted hf).mp hok heh
  cases hco : l.counters.lookup clientId with
  | none =>
    refine iff_of_true (fun heh hok => ?_) (.inl ?_)
    · rw [counterOf, hn, ← hco] at hok
      exact (ClientCounter.check_ok_iff_not_exhausted hf).mp hok heh
    · rw [isKnown, isKnown, hco, hn]
  | some counter =>
    have hok : ∃ counter', ((l.pruneInactive ma now).counterOf clientId time).check P operation
        limit none time = some (.ok (), counter') := by
      rw [counterOf, hn, Option.getD_none]
      obtain ⟨hf', hno⟩ := default_not_exhausted hu hm
      exact (ClientCounter.check_ok_iff_not_exhausted hf').mpr hno
    have hfo : l.isKnown clientId ≠ (l.pruneInactive ma now).isKnown clientId := by
      rw [isKnown, isKnown, hco, hn]
      simp
    constructor
    · exact fun h => .inr fun heh => h heh hok
    · rintro (heq | hno) heh
      · exact absurd heq hfo
      · exact absurd heh hno

end

/-- As long as a client that comes back after the pruning finds room, and had nothing left of the
counter that was removed, its checks are refused with the pruning if they are without it. The very
next check, which nothing outside refuses, keeps its refusal exactly if the counter of the client is
kept or was not exhausted. -/
theorem pruning_keeps_refusals_iff (P : Platform) (l : RateLimiter) (maxAge : Nat) (now : Instant)
    (clientId : Bytes) :
    (∀ calls, Unwinding.MeetBoth (call P) (Undisturbed clientId) l (l.pruneInactive maxAge now)
        calls → ∀ n operation time created err,
      calls[n]? = some (.check operation clientId time created) →
      Unwinding.answerAt (call P) l calls n = some (.checked (.error err)) →
      Unwinding.answerAt (call P) (l.pruneInactive maxAge now) calls n ≠
        some (.checked (.ok ()))) ∧
    ∀ operation limit time, l.limits.lookup operation = some limit → Usable limit →
      fromSecs 60 ≤ time → time + limit.cooldown ≤ P.latest → l.outerError clientId time = none →
      (l.pruneInactive maxAge now).outerError clientId time = none →
      ¬ (l.counterOf clientId time).RefillOverflows limit time →
      (((∃ err s, l.check P operation clientId time time = some (.error err, s)) →
        ¬ ∃ s, (l.pruneInactive maxAge now).check P operation clientId time time =
          some (.ok (), s)) ↔
      (l.isKnown clientId = (l.pruneInactive maxAge now).isKnown clientId ∨
        ¬ (l.counterOf clientId time).Exhausted limit time)) := by
  refine ⟨fun calls hcalls n operation time created err hcall hrefused hpasses => ?_, ?_⟩
  · have hwatched : ofClient clientId (.check operation clientId time created) = true := by
      simp [ofClient, Call.client]
    have heq := (parallel_client P clientId).answerAt_eq
      (.pruned l maxAge now clientId) hcalls hcall
      hwatched hrefused hpasses
    cases heq
  · intro operation limit time hlimit husable hminute hlatest houter houter' hfits
    exact next_check_keeps_refusal_iff hlimit husable hminute hlatest houter houter' hfits

def twoHandshakes : List Call :=
  List.replicate 2 (.check "handshake" [1] (fromSecs 100) (fromSecs 100))

def laterHandshake : Call := .check "handshake" [1] (fromSecs 102) (fromSecs 102)

def afterHandshakes : RateLimiter :=
  (Runs.exec (step ⟨2 ^ 63⟩) (some (new 0)) twoHandshakes).getD (new 0)

theorem kept_counter_refuses :
    Unwinding.MeetBoth (call ⟨2 ^ 63⟩) (Undisturbed [1]) afterHandshakes
        (afterHandshakes.pruneInactive (fromSecs 1) (fromMillis 100500)) [laterHandshake] ∧
      Unwinding.answerAt (call ⟨2 ^ 63⟩)
          (afterHandshakes.pruneInactive (fromSecs 1) (fromMillis 100500)) [laterHandshake] 0 ≠
        some (.checked (.ok ())) := by
  refine (and_iff_left_of_imp fun hmeets => ?_).mpr (by decide +kernel)
  exact (pruning_keeps_refusals_iff ⟨2 ^ 63⟩ afterHandshakes (fromSecs 1)
    (fromMillis 100500) [1]).1 _ hmeets 0 "handshake" (fromSecs 102) (fromSecs 102)
      (.cooldownActive (fromSecs 298)) rfl rfl

/-- Two seconds later it is removed, with a cooldown of five minutes. -/
theorem pruning_ends_cooldown :
    Unwinding.answers (call ⟨2 ^ 63⟩) (ofClient [1]) (new 0) (twoHandshakes ++ [laterHandshake]) =
        [.checked (.ok ()),
          .checked (.error (.rateExceeded "handshake" "per_second" (fromSecs 300))),
          .checked (.error (.cooldownActive (fromSecs 298)))] ∧
      Unwinding.answers (call ⟨2 ^ 63⟩) (ofClient [1]) (new 0)
          (twoHandshakes ++ [.pruneInactive (fromSecs 1) (fromSecs 102), laterHandshake]) =
        [.checked (.ok ()),
          .checked (.error (.rateExceeded "handshake" "per_second" (fromSecs 300))),
          .checked (.ok ())] :=
  ⟨rfl, rfl⟩

end RateLimiter

end Sibna
