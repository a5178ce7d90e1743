import Sibna.Lib.Windows
import Sibna.RateLimit.Limiter

/-!
# How many checks go through

Each window of a counter is a lazily restarting window.
-/

namespace Sibna.RateLimiter

def Call.now : Call → Instant
  | .check _ _ now _ => now
  | .remaining _ _ _ now => now
  | .reset _ => 0
  | .pruneInactive _ now => now

def Call.isCheckOrRemaining : Call → Bool
  | .check _ _ _ _ => true
  | .remaining _ _ _ _ => true
  | _ => false

def restarts (w : Window) (clientId : Bytes) : Option RateLimiter → Call → Bool
  | some l, .check operation clientId' now _ =>
    clientId' == clientId && (l.limits.lookup operation).isSome &&
      (l.counters.lookup clientId).any fun counter => decide (counter.Over now w)
  | some l, .remaining operation clientId' _ now =>
    clientId' == clientId && (l.limits.lookup operation).isSome &&
      (l.counters.lookup clientId).any fun counter => decide (counter.Over now w)
  | _, _ => false

def admits (P : Platform) (operation : String) (clientId : Bytes) :
    Option RateLimiter → Call → Bool
  | some l, .check operation' clientId' now created =>
    operation' == operation && clientId' == clientId &&
      (l.check P operation clientId now created).any fun r => r.1.isOk
  | _, _ => false

def admissions (P : Platform) (operation : String) (clientId : Bytes) :
    Option RateLimiter → List Call → List Instant
  | _, [] => []
  | o, c :: cs =>
    if admits P operation clientId o c then
      c.now :: admissions P operation clientId (step P o c) cs
    else admissions P operation clientId (step P o c) cs

def ticks (P : Platform) (operation : String) (clientId : Bytes) (w : Window) :
    Option RateLimiter → List Call → List Windows.Tick
  | _, [] => []
  | o, c :: cs =>
    ⟨c.now, restarts w clientId o c, admits P operation clientId o c⟩ ::
      ticks P operation clientId w (step P o c) cs

section
variable {P : Platform} {operation : String} {clientId : Bytes} {w : Window}

lemma length_admissions (o : Option RateLimiter) (cs : List Call) :
    (admissions P operation clientId o cs).length =
      (ticks P operation clientId w o cs).countP Windows.Tick.admits := by
  induction cs generalizing o with
  | nil => rfl
  | cons c cs ih =>
    simp only [admissions, ticks]
    split <;> simp_all

lemma length_filter_admissions (o : Option RateLimiter) (cs : List Call) (t wi : Nat) :
    ((admissions P operation clientId o cs).filter fun now => t ≤ now ∧ now < t + wi).length =
      (ticks P operation clientId w o cs).countP (Windows.inInterval wi t) := by
  induction cs generalizing o with
  | nil => rfl
  | cons c cs ih =>
    simp only [admissions, ticks, List.countP_cons, Windows.inInterval]
    split
    · grind
    · simp_all

lemma ticks_pairwise {o : Option RateLimiter} {cs : List Call}
    (h : cs.Pairwise fun a b => a.now ≤ b.now) :
    (ticks P operation clientId w o cs).Pairwise fun x y => x.now ≤ y.now := by
  induction cs generalizing o with
  | nil => exact List.Pairwise.nil
  | cons c cs ih =>
    obtain ⟨hle, h⟩ := List.pairwise_cons.mp h
    refine List.pairwise_cons.mpr ⟨?_, ih h⟩
    have hn : ∀ (o : Option RateLimiter) (cs : List Call),
        (ticks P operation clientId w o cs).map Windows.Tick.now = cs.map Call.now := by
      intro o cs
      induction cs generalizing o with
      | nil => rfl
      | cons c cs ih => simp only [ticks, List.map_cons, ih]
    intro y hy
    have hm := hn (step P o c) cs ▸ List.mem_map_of_mem hy
    obtain ⟨c', hc', heq⟩ := List.mem_map.mp hm
    rw [← heq]
    exact hle c' hc'

lemma restarts_of_guarded {o : Option RateLimiter} {cs : List Call}
    (h : Runs.Guarded (step P) (fun o c => restarts w clientId o c = false) o cs) :
    ∀ x ∈ ticks P operation clientId w o cs, x.restarts = false := by
  induction cs generalizing o with
  | nil => exact nofun
  | cons c cs ih => exact List.forall_mem_cons.mpr ⟨h.1, ih h.2⟩

end

def windowCount (w : Window) (clientId : Bytes) (l : RateLimiter) : Nat :=
  ((l.counters.lookup clientId).map fun counter => (counter.count w).toNat).getD 0

def windowDue (w : Window) (clientId : Bytes) (l : RateLimiter) : Nat :=
  ((l.counters.lookup clientId).map fun counter => counter.last w + w.length).getD 0

structure Touched (w : Window) (now : Instant) (counter counter' : ClientCounter) (admitted : Prop)
    (most : Nat) : Prop where
  last : counter'.last w = if counter.Over now w then now else counter.last w
  count : (if counter.Over now w then 0 else (counter.count w).toNat) ≤ (counter'.count w).toNat
  below : admitted → (if counter.Over now w then 0 else (counter.count w).toNat) < most ∧
    (if counter.Over now w then 0 else (counter.count w).toNat) + 1 ≤ (counter'.count w).toNat

lemma updateCounters_count_toNat (co : ClientCounter) (now : Instant) (w : Window) :
    ((co.updateCounters now).count w).toNat =
      if co.Over now w then 0 else (co.count w).toNat := by
  simp only [ClientCounter.updateCounters]
  split <;> rfl

lemma touched_of_check {P : Platform} {operation : String} {limit : OperationLimit}
    {er : Option RateLimitError} {now : Instant} {co c' : ClientCounter}
    {r : Except RateLimitError Unit}
    (h : co.check P operation limit er now = some (r, c')) (w : Window) :
    Touched w now co c' (r = .ok ()) (limit.maxPer w).toNat := by
  obtain ⟨hl, ⟨hok, hco⟩ | ⟨⟨err, her⟩, hco⟩⟩ := ClientCounter.windows_of_check h
  · obtain ⟨hb, hco⟩ := hco w
    rw [UInt32.lt_iff_toNat_lt] at hb
    -- below a `u32` the sum does not wrap
    have hm := (limit.maxPer w).toNat_lt
    have hsu : (c'.count w).toNat = ((co.updateCounters now).count w).toNat + 1 := by
      rw [hco, UInt32.toNat_add, UInt32.toNat_one, Nat.mod_eq_of_lt (by omega)]
    refine ⟨congrFun hl w, ?_, fun _ => ?_⟩
    · rw [← updateCounters_count_toNat]
      omega
    · rw [← updateCounters_count_toNat]
      omega
  · refine ⟨congrFun hl w, ?_, fun hok => by simp [her] at hok⟩
    rw [hco, updateCounters_count_toNat]

lemma touched_of_refill {limit : OperationLimit} {now : Instant} {co c' : ClientCounter}
    (h : (co.updateCounters now).refillBurstTokens limit now = some c') (w : Window)
    (most : Nat) : Touched w now co c' False most := by
  obtain ⟨tk, t, rfl⟩ := ClientCounter.eq_of_refillBurstTokens h
  refine ⟨rfl, ?_, False.elim⟩
  exact Nat.le_of_eq (updateCounters_count_toNat co now w).symm

structure Follows (w : Window) (clientId : Bytes) (most : Nat) (l l' : RateLimiter) (now : Instant)
    (restarts admits : Bool) : Prop where
  restarted : restarts = true →
    windowDue w clientId l ≤ now ∧ now + w.length ≤ windowDue w clientId l'
  kept : restarts = false → windowDue w clientId l ≤ windowDue w clientId l' ∧
    windowCount w clientId l ≤ windowCount w clientId l'
  admitted : admits = true →
    (restarts = false → windowCount w clientId l < most ∧
      windowCount w clientId l + 1 ≤ windowCount w clientId l') ∧
    (restarts = true → 0 < most ∧ 1 ≤ windowCount w clientId l')

section
variable {w : Window} {clientId : Bytes} {most : Nat} {l l' : RateLimiter} {now : Instant}

lemma follows_of_lookup (h : l'.counters.lookup clientId = l.counters.lookup clientId) :
    Follows w clientId most l l' now false false := by
  refine ⟨nofun, fun _ => ?_, nofun⟩
  simp only [windowDue, windowCount, h, Nat.le_refl, and_self]

variable {created : Instant}

lemma follows_of_touched {c' : ClientCounter} {ad : Prop} {am : Bool}
    (h : Touched w now (l.counterOf clientId created) c' ad most)
    (had : am = true → ad) (hl' : l'.counters.lookup clientId = some c') :
    Follows w clientId most l l' now
      ((l.counters.lookup clientId).any fun counter => decide (counter.Over now w)) am := by
  obtain ⟨hla, hco, hb⟩ := h
  cases hl : l.counters.lookup clientId with
  | none =>
    -- a new counter has counted nothing, whether its window is over or not
    have hn : ((l.counterOf clientId created).count w).toNat = 0 := by
      simp [counterOf, hl, ClientCounter.default]
    rw [hn, ite_self] at hco hb
    refine ⟨(by simp), fun _ => ?_, fun h => ⟨fun _ => ?_, (by simp)⟩⟩
    · simp [windowDue, windowCount, hl]
    · simpa [windowCount, hl, hl'] using hb (had h)
  | some counter =>
    have hcu : l.counterOf clientId created = counter := by simp [counterOf, hl]
    rw [hcu] at hla hco hb
    simp only [Option.any_some]
    refine ⟨fun ho => ?_, fun ho => ?_, fun h => ⟨fun ho => ?_, fun ho => ?_⟩⟩
    all_goals
      simp only [decide_eq_true_eq, decide_eq_false_iff_not] at ho
      simp only [ho, if_false] at hla hco hb
      simp only [windowDue, windowCount, hl, hl', Option.map_some, Option.getD_some, hla]
    · have hpo : 0 < w.length := by cases w <;> decide
      exact ⟨by omega, Nat.le_refl _⟩
    · omega
    · exact hb (had h)
    · have h := hb (had h)
      omega

variable {P : Platform} {operation : String} {limit : OperationLimit}

lemma follows_check {o' : String} {r : Except RateLimitError Unit}
    (hl : l.limits.lookup operation = some limit)
    (h : l.check P o' clientId now created = some (r, l')) :
    Follows w clientId (limit.maxPer w).toNat l l' now
      (restarts w clientId (some l) (.check o' clientId now created))
      (admits P operation clientId (some l) (.check o' clientId now created)) := by
  simp only [restarts, admits]
  obtain ⟨hu, -, rfl⟩ | ⟨li', co, hl', hch, rfl⟩ := check_cases h
  · have hop : o' ≠ operation := by
      rintro rfl
      rw [hu] at hl
      cases hl
    simp only [hu, Option.isSome_none, Bool.and_false, beq_eq_false_iff_ne.mpr hop]
    exact follows_of_lookup rfl
  · simp only [beq_self_eq_true, hl', Bool.true_and, Bool.and_true]
    have hto := touched_of_check hch w
    by_cases hop : o' = operation
    · subst hop
      cases hl'.symm.trans hl
      refine follows_of_touched hto ?_ (AList.lookup_insert _)
      intro hok
      simp only [h, beq_self_eq_true, Bool.true_and] at hok
      cases r with
      | error err => cases hok
      | ok _ => rfl
    · have hre : Touched w now (l.counterOf clientId created) co False (limit.maxPer w).toNat :=
        ⟨hto.last, hto.count, False.elim⟩
      refine follows_of_touched hre ?_ (AList.lookup_insert _)
      simp [hop]

lemma follows_remaining {o' : String} {q : Option RemainingQuota}
    (h : l.remaining o' clientId created now = some (q, l')) :
    Follows w clientId most l l' now
      (restarts w clientId (some l) (.remaining o' clientId created now)) false := by
  simp only [restarts]
  rcases remaining_cases h with ⟨-, rfl, hu⟩ | ⟨limit, co, hl, -, hre, -, rfl⟩
  · have hn : ((l'.limits.lookup o').isSome &&
        (l'.counters.lookup clientId).any fun co => decide (co.Over now w)) = false := by
      rcases hu with hu | hu <;> simp [hu]
    rw [beq_self_eq_true, Bool.true_and, hn]
    exact follows_of_lookup rfl
  · simp only [beq_self_eq_true, hl, Bool.true_and]
    exact follows_of_touched (touched_of_refill hre w most) nofun (AList.lookup_insert _)

variable (w clientId) in
lemma follows_call {c : Call} {a : Answer} (hl : l.limits.lookup operation = some limit)
    (hc : c.isCheckOrRemaining = true) (h : l.call P c = some (a, l')) :
    Follows w clientId (limit.maxPer w).toNat l l' c.now (restarts w clientId (some l) c)
    (admits P operation clientId (some l) c) := by
  cases c with
  | check operation' id now created =>
    by_cases hid : id = clientId
    · subst hid
      obtain ⟨result, -, hr⟩ := call_check h
      exact follows_check hl hr
    · simp only [restarts, admits, beq_eq_false_iff_ne.mpr hid, Bool.false_and, Bool.and_false]
      exact follows_of_lookup (lookup_of_call h rfl hid)
  | remaining operation' id created now =>
    by_cases hid : id = clientId
    · subst hid
      obtain ⟨q, -, hr⟩ := call_remaining h
      exact follows_remaining hr
    · simp only [restarts, beq_eq_false_iff_ne.mpr hid, Bool.false_and]
      exact follows_of_lookup (lookup_of_call h rfl hid)
  | reset | pruneInactive => cases hc

end

section
variable {P : Platform} {operation : String} {clientId : Bytes} {w : Window}

lemma trace_none (most co due : Nat) (cs : List Call) :
    Windows.Trace w.length most co due (ticks P operation clientId w none cs) := by
  induction cs with
  | nil => exact .nil co due
  | cons c cs ih =>
    have hre : restarts w clientId none c = false := by cases c <;> rfl
    have had : admits P operation clientId none c = false := by cases c <;> rfl
    have hr := ih
    refine .cons ?_ ?_ ?_ hr
    · simp [hre]
    · simp
    · simp [had]

variable {l : RateLimiter}

lemma admits_of_panic {c : Call} (h : l.call P c = none) :
    admits P operation clientId (some l) c = false := by
  cases c with
  | check o' c' now created =>
    by_cases hsa : o' = operation ∧ c' = clientId
    · obtain ⟨rfl, rfl⟩ := hsa
      have hpa := Option.map_eq_none_iff.mp h
      simp [admits, hpa]
    · simp only [admits, Bool.and_eq_false_iff, beq_eq_false_iff_ne]
      tauto
  | _ => rfl

lemma due_of_restarts {c : Call} (h : restarts w clientId (some l) c = true) :
    windowDue w clientId l ≤ c.now := by
  have ho : (l.counters.lookup clientId).any (fun counter => decide (counter.Over c.now w)) =
      true := by
    cases c with
    | check | remaining => exact (Bool.and_eq_true_iff.mp h).2
    | reset | pruneInactive => cases h
  obtain ⟨counter, hco, ho⟩ := (Option.any_eq_true _ _).mp ho
  have hpo : 0 < w.length := by cases w <;> decide
  have ho := of_decide_eq_true ho
  simp only [windowDue, hco, Option.map_some, Option.getD_some]
  omega

lemma trace_ticks {limit : OperationLimit} {cs : List Call}
    (hl : l.limits.lookup operation = some limit) (hcs : ∀ c ∈ cs, c.isCheckOrRemaining = true) :
    Windows.Trace w.length (limit.maxPer w).toNat (windowCount w clientId l)
    (windowDue w clientId l) (ticks P operation clientId w (some l) cs) := by
  induction cs generalizing l with
  | nil => exact .nil _ _
  | cons c cs ih =>
    obtain ⟨hc, hcs⟩ := List.forall_mem_cons.mp hcs
    simp only [ticks]
    cases hca : l.call P c with
    | none =>
      have hs : step P (some l) c = none := by simp [step, Unwinding.advance, hca]
      have had : admits P operation clientId (some l) c = false := admits_of_panic hca
      rw [hs]
      refine .cons ?_ ?_ ?_ (trace_none _ (windowCount w clientId l)
        (max (windowDue w clientId l) (c.now + w.length)) cs)
      · exact fun h => ⟨due_of_restarts h, Nat.le_max_right _ _⟩
      · exact fun _ => ⟨Nat.le_max_left _ _, Nat.le_refl _⟩
      · simp [had]
    | some r =>
      obtain ⟨a, l'⟩ := r
      have hs : step P (some l) c = some l' := by simp [step, Unwinding.advance, hca]
      have hf := follows_call w clientId hl hc hca
      rw [hs]
      refine .cons hf.restarted hf.kept hf.admitted (ih ?_ hcs)
      rw [(config_of_call hca).1, hl]

lemma limits_of_exec {l' : RateLimiter} {cs : List Call}
    (h : Runs.exec (step P) (some l) cs = some l') : l'.limits = l.limits := by
  refine Runs.exec_invariant (I := fun o => ∀ l', o = some l' → l'.limits = l.limits) ?_ cs ?_ l' h
  · intro o c ih l' hl'
    obtain ⟨l₁, a, rfl, hc⟩ := step_some hl'
    rw [(config_of_call hc).1, ih l₁ rfl]
  · rintro l' ⟨⟩
    rfl

end

/-- Between two restarts of a window at most the maximum goes through, and at most twice the maximum
in any half-open interval of the length of the window. -/
theorem admissions_within_limit (P : Platform) (l : RateLimiter) (operation : String)
    (clientId : Bytes) (limit : OperationLimit) (w : Window)
    (hlimit : l.limits.lookup operation = some limit) (calls : List Call)
    (hcalls : ∀ c ∈ calls, c.isCheckOrRemaining = true) :
    (∀ before first between after, calls = before ++ first :: between ++ after →
      Runs.Guarded (step P) (fun o c => restarts w clientId o c = false)
        (Runs.exec (step P) (some l) (before ++ [first])) between →
      (admissions P operation clientId (Runs.exec (step P) (some l) before)
        (first :: between)).length ≤ (limit.maxPer w).toNat) ∧
    (calls.Pairwise (fun a b => a.now ≤ b.now) → ∀ t,
      ((admissions P operation clientId (some l) calls).filter
        fun now => t ≤ now ∧ now < t + w.length).length ≤ 2 * (limit.maxPer w).toNat) := by
  constructor
  · rintro before first between after rfl hguarded
    rw [Runs.exec_append] at hguarded
    have hbetween : ∀ x ∈ ticks P operation clientId w
        (step P (Runs.exec _ (some l) before) first) between, x.restarts = false :=
      restarts_of_guarded hguarded
    rw [length_admissions (w := w)]
    cases hbefore : Runs.exec (step P) (some l) before with
    | none =>
      rw [hbefore] at hbetween
      exact (trace_none _ 0 0 (first :: between)).admitted_le hbetween
    | some l₁ =>
      rw [hbefore] at hbetween
      have hlimit₁ : l₁.limits.lookup operation = some limit := by
        rw [limits_of_exec hbefore, hlimit]
      have hcs : ∀ c ∈ first :: between, c.isCheckOrRemaining = true := by
        intro c hc
        apply hcalls c
        simp only [List.mem_append]
        exact .inl (.inr hc)
      exact (trace_ticks hlimit₁ hcs).admitted_le hbetween
  · intro hsorted t
    rw [length_filter_admissions (w := w)]
    exact (trace_ticks hlimit hcalls).interval_le (ticks_pairwise hsorted)

def createSessions : List Call :=
  .remaining "create_session" [1] (fromMillis 100900) (fromMillis 100900) ::
    (List.replicate 3 (.check "create_session" [1] (fromMillis 101800) (fromMillis 101800)) ++
      List.replicate 3 (.check "create_session" [1] (fromMillis 101900) (fromMillis 101900)))

theorem create_sessions_within_limit :
    (new 0).limits.lookup "create_session" = some ⟨3, 30, 300, 3000, fromSecs 60, 5⟩ ∧
      (admissions ⟨2 ^ 63⟩ "create_session" [1] (some (new 0)) createSessions).length = 5 ∧
      ((admissions ⟨2 ^ 63⟩ "create_session" [1] (some (new 0)) createSessions).filter
        fun now => fromMillis 101800 ≤ now ∧
          now < fromMillis 101800 + Window.second.length).length ≤
          2 * 3 := by
  have hlimit : (new 0).limits.lookup "create_session" =
      some ⟨3, 30, 300, 3000, fromSecs 60, 5⟩ := by rfl
  have hcalls : ∀ c ∈ createSessions, c.isCheckOrRemaining = true := by decide
  have hsorted : createSessions.Pairwise fun a b => a.now ≤ b.now := by decide
  refine ⟨hlimit, by decide +kernel, ?_⟩
  exact (admissions_within_limit ⟨2 ^ 63⟩ (new 0) "create_session" [1] _ .second hlimit
    createSessions hcalls).2 hsorted _

end Sibna.RateLimiter
