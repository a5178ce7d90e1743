import Sibna.Lib.Maps
import Sibna.Lib.Unwinding
import Sibna.Primitives

/-!
# The rate limiter

`rate_limit.rs`. One counter per client, held against the limits of the operation that is checked.
-/

namespace Sibna

/-- Nanoseconds after the first instant of the platform. -/
abbrev Instant := Nat

/-- The last instant of the platform; `Instant + Duration` panics beyond it. -/
structure Platform where
  latest : Instant

def fromSecs (n : Nat) : Nat := n * 1000000000

def fromMillis (n : Nat) : Nat := n * 1000000

def asSecs (d : Nat) : Nat := d / 1000000000

def asMillis (d : Nat) : Nat := d / 1000000

inductive Window where
  | second
  | minute
  | hour
  | day
  deriving DecidableEq

namespace Window

def length : Window → Nat
  | second => fromSecs 1
  | minute => fromSecs 60
  | hour => fromSecs 3600
  | day => fromSecs 86400

def limitType : Window → String
  | second => "per_second"
  | minute => "per_minute"
  | hour => "per_hour"
  | day => "per_day"

def all : List Window := [second, minute, hour, day]

lemma mem_all (w : Window) : w ∈ all := by
  cases w <;> decide

end Window

structure OperationLimit where
  maxPerSecond : UInt32 := 10
  maxPerMinute : UInt32 := 100
  maxPerHour : UInt32 := 1000
  maxPerDay : UInt32 := 10000
  cooldown : Nat := fromSecs 60
  burstSize : UInt32 := 5

def OperationLimit.maxPer (limit : OperationLimit) : Window → UInt32
  | .second => limit.maxPerSecond
  | .minute => limit.maxPerMinute
  | .hour => limit.maxPerHour
  | .day => limit.maxPerDay

/-- `count` is `second_count` to `day_count`, `last` is `last_second` to `last_day`. -/
structure ClientCounter where
  count : Window → UInt32
  last : Window → Instant
  cooldownUntil : Option Instant
  burstTokens : UInt32
  lastRefill : Instant

structure GlobalCounter where
  count : UInt32
  lastReset : Instant

inductive RateLimitError where
  | rateExceeded (operation limitType : String) (retryAfter : Nat)
  | cooldownActive (remaining : Nat)
  | unknownOperation (operation : String)
  | globalRateExceeded
  | burstExceeded
  deriving DecidableEq

def RateLimitError.text : RateLimitError → String
  | .rateExceeded operation limitType retryAfter =>
    "Rate limit exceeded for " ++ operation ++ " (" ++ limitType ++ "). Retry after " ++
      toString (asSecs retryAfter) ++ "s"
  | .cooldownActive remaining =>
    "Cooldown active. Retry after " ++ toString (asSecs remaining) ++ "s"
  | .unknownOperation operation => "Unknown operation: " ++ operation
  | .globalRateExceeded => "Global rate limit exceeded"
  | .burstExceeded => "Burst limit exceeded"

structure RemainingQuota where
  per : Window → UInt32
  burstTokens : UInt32
  inCooldown : Bool

/-- `+` and `*` of `u32`: the build checks for overflow and panics. -/
def checkedAdd (a b : UInt32) : Option UInt32 :=
  if a.toNat + b.toNat < 2 ^ 32 then some (a + b) else none

def checkedMul (a b : UInt32) : Option UInt32 :=
  if a.toNat * b.toNat < 2 ^ 32 then some (a * b) else none

namespace ClientCounter

section
variable (counter : ClientCounter) (limit : OperationLimit) (now : Instant)

/-- `now` is read by the counter itself, after the `now` of the call that makes it. -/
def default : ClientCounter where
  count := fun _ => 0
  last := fun _ => now
  cooldownUntil := none
  burstTokens := 0
  lastRefill := if fromSecs 60 ≤ now then now - fromSecs 60 else now

/-- The window is over; `duration_since` saturates. -/
abbrev Over (w : Window) : Prop :=
  w.length ≤ now - counter.last w

def updateCounters : ClientCounter :=
  { counter with
    count := fun w => if counter.Over now w then 0 else counter.count w
    last := fun w => if counter.Over now w then now else counter.last w }

/-- The milliseconds are cut to 32 bits before they are multiplied. -/
def refillBurstTokens : Option ClientCounter :=
  match checkedMul (UInt32.ofNat (asMillis (now - counter.lastRefill))) limit.burstSize with
  | none => none
  | some product =>
    if product / 1000 > 0 then
      match checkedAdd counter.burstTokens (product / 1000) with
      | none => none
      | some tokens =>
        some { counter with burstTokens := min tokens limit.burstSize, lastRefill := now }
    else some counter

def cooldownError : Option RateLimitError :=
  match counter.cooldownUntil with
  | some cooldownEnd =>
    if now < cooldownEnd then some (.cooldownActive (cooldownEnd - now)) else none
  | none => none

def endCooldown : ClientCounter :=
  match counter.cooldownUntil with
  | some cooldownEnd =>
    if now < cooldownEnd then counter else { counter with cooldownUntil := none }
  | none => counter

def limitHit : Option Window :=
  Window.all.find? fun w => limit.maxPer w ≤ counter.count w

def limitError (operation : String) (limit : OperationLimit) : Option RateLimitError :=
  if counter.burstTokens = 0 then some .burstExceeded
  else
    match counter.limitHit limit with
    | some w => some (.rateExceeded operation w.limitType limit.cooldown)
    | none => none

def consume : ClientCounter :=
  { counter with
    count := fun w => counter.count w + 1
    burstTokens := counter.burstTokens - 1 }

def refreshed : Option ClientCounter :=
  ((counter.endCooldown now).updateCounters now).refillBurstTokens limit now

end

/-- Every error starts a cooldown. -/
def conclude (P : Platform) (limit : OperationLimit) (now : Instant) (counter : ClientCounter) :
    Option RateLimitError → Option (Except RateLimitError Unit × ClientCounter)
  | none => some (.ok (), counter.consume)
  | some err =>
    if now + limit.cooldown ≤ P.latest then
      some (.error err, { counter with cooldownUntil := some (now + limit.cooldown) })
    else none

/-- What `check` does with the counter of the client, after `error` from the checks before. -/
def check (P : Platform) (operation : String) (limit : OperationLimit)
    (error : Option RateLimitError) (now : Instant) (counter : ClientCounter) :
    Option (Except RateLimitError Unit × ClientCounter) :=
  match counter.refreshed limit now with
  | none => none
  | some refreshed =>
    refreshed.conclude P limit now
      (error <|> counter.cooldownError now <|> refreshed.limitError operation limit)

section
variable {operation : String} {limit : OperationLimit} {now : Instant}
  {counter counter' refreshed : ClientCounter}

lemma eq_of_refillBurstTokens (h : counter.refillBurstTokens limit now = some counter') :
    ∃ tokens t, counter' = { counter with burstTokens := tokens, lastRefill := t } := by
  unfold refillBurstTokens at h
  split at h
  · cases h
  split at h
  · split at h
    · cases h
    · grind
  · cases h
    exact ⟨_, _, rfl⟩

lemma refill_cooldown (counter : ClientCounter) (co : Option Instant) :
    { counter with cooldownUntil := co }.refillBurstTokens limit now =
      (counter.refillBurstTokens limit now).map fun c => { c with cooldownUntil := co } := by
  unfold refillBurstTokens
  cases checkedMul (UInt32.ofNat (asMillis _)) limit.burstSize with
  | none => rfl
  | some p =>
    dsimp only
    by_cases hdu : p / 1000 > 0
    · grind
    · simp_all

lemma refreshed_eq (counter : ClientCounter) (limit : OperationLimit) (now : Instant) :
    counter.refreshed limit now =
      ((counter.updateCounters now).refillBurstTokens limit now).map fun c =>
        { c with cooldownUntil := (counter.endCooldown now).cooldownUntil } := by
  have hu : (counter.endCooldown now).updateCounters now =
      { counter.updateCounters now with
        cooldownUntil := (counter.endCooldown now).cooldownUntil } := by
    unfold endCooldown
    split
    · split <;> rfl
    · rfl
  rw [ClientCounter.refreshed, hu, refill_cooldown]

lemma eq_of_refreshed (h : counter.refreshed limit now = some refreshed) :
    refreshed.count = (counter.updateCounters now).count ∧
    refreshed.last = (counter.updateCounters now).last ∧
    refreshed.cooldownUntil = (counter.endCooldown now).cooldownUntil := by
  rw [refreshed_eq] at h
  obtain ⟨st, hs, rfl⟩ := Option.map_eq_some_iff.mp h
  obtain ⟨tk, t, rfl⟩ := eq_of_refillBurstTokens hs
  exact ⟨rfl, rfl, rfl⟩

lemma cooldownError_eq_none_iff : counter.cooldownError now = none ↔
    ∀ cooldownEnd ∈ counter.cooldownUntil, cooldownEnd ≤ now := by
  unfold cooldownError
  cases counter.cooldownUntil with
  | none | some => simp

lemma limitError_eq_none_iff (operation : String) : counter.limitError operation limit = none ↔
    (∀ w, counter.count w < limit.maxPer w) ∧ counter.burstTokens ≠ 0 := by
  have hhi : counter.limitHit limit = none ↔ ∀ w, counter.count w < limit.maxPer w := by
    simp [limitHit, Window.mem_all]
  rw [limitError, ← hhi]
  split
  · simp_all
  · cases counter.limitHit limit <;> simp_all

end

section
variable {P : Platform} {operation : String} {limit : OperationLimit}
  {error : Option RateLimitError} {now : Instant} {counter counter' : ClientCounter}
  {result : Except RateLimitError Unit}

section
variable (h : counter.check P operation limit error now = some (result, counter'))
include h

lemma cases_of_check : ∃ refreshed, counter.refreshed limit now = some refreshed ∧
      (((error <|> counter.cooldownError now <|> refreshed.limitError operation limit) = none ∧
          result = .ok () ∧ counter' = refreshed.consume) ∨
        ∃ err, (error <|> counter.cooldownError now <|> refreshed.limitError operation limit) =
            some err ∧ result = .error err ∧
          counter' = { refreshed with cooldownUntil := some (now + limit.cooldown) }) := by
  unfold check at h
  split at h
  · cases h
  rename_i refreshed hre
  refine ⟨refreshed, hre, ?_⟩
  cases her : (error <|> counter.cooldownError now <|> refreshed.limitError operation limit) with
  | none =>
    rw [her] at h
    cases h
    exact .inl ⟨rfl, rfl, rfl⟩
  | some err =>
    rw [her, conclude] at h
    split at h
    · simp_all
    · cases h

lemma windows_of_check : counter'.last = (counter.updateCounters now).last ∧
      ((result = .ok () ∧ ∀ w, (counter.updateCounters now).count w < limit.maxPer w ∧
          counter'.count w = (counter.updateCounters now).count w + 1) ∨
        ((∃ err, result = .error err) ∧ counter'.count = (counter.updateCounters now).count)) := by
  obtain ⟨refreshed, hre, hca⟩ := cases_of_check h
  obtain ⟨hco, hl, -⟩ := eq_of_refreshed hre
  rcases hca with ⟨her, rfl, rfl⟩ | ⟨err, -, rfl, rfl⟩
  · have hli : refreshed.limitError operation limit = none := by
      simp_all
    refine ⟨hl, .inl ⟨rfl, fun w => ?_⟩⟩
    rw [← hco]
    exact ⟨((limitError_eq_none_iff operation).mp hli).1 w, rfl⟩
  · exact ⟨hl, .inr ⟨⟨err, rfl⟩, hco⟩⟩

end

end

end ClientCounter

structure RateLimiter where
  limits : AList fun _ : String => OperationLimit
  counters : AList fun _ : Bytes => ClientCounter
  globalEnabled : Bool
  globalRps : UInt32
  globalCounter : GlobalCounter

namespace RateLimiter

def maxTrackedClients : Nat := 100000

def addLimit (l : RateLimiter) (operation : String) (limit : OperationLimit) : RateLimiter :=
  { l with limits := l.limits.insert operation limit }

def setGlobalEnabled (l : RateLimiter) (enabled : Bool) : RateLimiter :=
  { l with globalEnabled := enabled }

def setGlobalRps (l : RateLimiter) (rps : UInt32) : RateLimiter := { l with globalRps := rps }

def new (now : Instant) : RateLimiter :=
  let l : RateLimiter := ⟨∅, ∅, true, 100, ⟨0, now⟩⟩
  let l := l.addLimit "decrypt" ⟨5, 50, 500, 5000, fromSecs 120, 5⟩
  let l := l.addLimit "handshake" ⟨1, 10, 100, 1000, fromSecs 300, 2⟩
  let l := l.addLimit "encrypt" ⟨20, 200, 2000, 20000, fromSecs 30, 10⟩
  let l := l.addLimit "key_gen" ⟨2, 20, 100, 1000, fromSecs 600, 2⟩
  l.addLimit "create_session" ⟨3, 30, 300, 3000, fromSecs 60, 5⟩

def checkGlobal (l : RateLimiter) (now : Instant) : Option RateLimitError × GlobalCounter :=
  if l.globalEnabled then
    let global := if fromSecs 1 ≤ now - l.globalCounter.lastReset then ⟨0, now⟩ else l.globalCounter
    if global.count ≥ l.globalRps then (some .globalRateExceeded, global)
    else (none, { global with count := global.count + 1 })
  else (none, l.globalCounter)

def isKnown (l : RateLimiter) (clientId : Bytes) : Bool := (l.counters.lookup clientId).isSome

def tracked (l : RateLimiter) : Nat := l.counters.keys.length

def counterOf (l : RateLimiter) (clientId : Bytes) (created : Instant) : ClientCounter :=
  (l.counters.lookup clientId).getD (.default created)

def capacityError (l : RateLimiter) (clientId : Bytes) : Option RateLimitError :=
  if !l.isKnown clientId && l.tracked ≥ maxTrackedClients then some .globalRateExceeded else none

def outerError (l : RateLimiter) (clientId : Bytes) (now : Instant) : Option RateLimitError :=
  (l.checkGlobal now).1 <|> l.capacityError clientId

def withCounter (l : RateLimiter) (clientId : Bytes) (counter : ClientCounter) : RateLimiter :=
  { l with counters := l.counters.insert clientId counter }

section
variable (l : RateLimiter) (clientId : Bytes) (counter : ClientCounter)

@[simp] lemma lookup_withCounter :
    (l.withCounter clientId counter).counters.lookup clientId = some counter :=
  AList.lookup_insert _

lemma lookup_withCounter_ne {id : Bytes} (h : id ≠ clientId) :
    (l.withCounter clientId counter).counters.lookup id = l.counters.lookup id :=
  AList.lookup_insert_ne h

lemma mem_keys_withCounter {id : Bytes} :
    id ∈ (l.withCounter clientId counter).counters.keys ↔ id = clientId ∨ id ∈ l.counters.keys :=
  AList.mem_insert _

end

/-- `created` is the time that a new counter reads. No result is a panic. -/
def check (P : Platform) (l : RateLimiter) (operation : String) (clientId : Bytes)
    (now created : Instant) : Option (Except RateLimitError Unit × RateLimiter) :=
  let (error, globalCounter) := l.checkGlobal now
  let l := { l with globalCounter := globalCounter }
  match l.limits.lookup operation with
  | none => some (.error (.unknownOperation operation), l)
  | some limit =>
    match (l.counterOf clientId created).check P operation limit
        (error <|> l.capacityError clientId) now with
    | none => none
    | some (result, counter) => some (result, l.withCounter clientId counter)

def quota (limit : OperationLimit) (counter : ClientCounter) (now : Instant) : RemainingQuota where
  per := fun w => if counter.count w ≤ limit.maxPer w then limit.maxPer w - counter.count w else 0
  burstTokens := counter.burstTokens
  inCooldown := (counter.cooldownUntil.map fun t => decide (t > now)).getD false

/-- Here a new counter reads the clock first. -/
def remaining (l : RateLimiter) (operation : String) (clientId : Bytes) (created now : Instant) :
    Option (Option RemainingQuota × RateLimiter) :=
  match l.limits.lookup operation with
  | none => some (none, l)
  | some limit =>
    if !l.isKnown clientId && l.tracked ≥ maxTrackedClients then some (none, l)
    else
      match ((l.counterOf clientId created).updateCounters now).refillBurstTokens limit now with
      | none => none
      | some counter => some (some (quota limit counter now), l.withCounter clientId counter)

def reset (l : RateLimiter) (clientId : Bytes) : RateLimiter :=
  { l with counters := l.counters.erase clientId }

def pruneInactive (l : RateLimiter) (maxAge : Nat) (now : Instant) : RateLimiter :=
  { l with counters :=
      (l.counters.entries.filter fun entry => now - entry.2.last .second < maxAge).toAList }

section
variable (l : RateLimiter) (maxAge : Nat) (now : Instant)

lemma lookup_pruneInactive (clientId : Bytes) :
    (l.pruneInactive maxAge now).counters.lookup clientId =
      (l.counters.lookup clientId).filter fun counter => now - counter.last .second < maxAge :=
  Maps.lookup_filter l.counters clientId _

variable {l maxAge now}

lemma mem_keys_pruneInactive {clientId : Bytes}
    (h : clientId ∈ (l.pruneInactive maxAge now).counters.keys) : clientId ∈ l.counters.keys := by
  rw [← AList.mem_keys, ← AList.lookup_isSome, lookup_pruneInactive] at h
  rw [← AList.mem_keys, ← AList.lookup_isSome]
  cases hl : l.counters.lookup clientId with
  | none => simp [hl] at h
  | some counter => rfl

end

section
variable {P : Platform} {l l' : RateLimiter} {operation : String} {clientId : Bytes}
  {now created : Instant} {limit : OperationLimit} {counter : ClientCounter}

lemma counterOf_known (h : l.counters.lookup clientId = some counter) :
    l.counterOf clientId created = counter := by
  rw [counterOf, h, Option.getD_some]

lemma isKnown_of_lookup (h : l.counters.lookup clientId = some counter) :
    l.isKnown clientId = true := by
  rw [isKnown, h, Option.isSome_some]

lemma capacityError_eq_none_iff : l.capacityError clientId = none ↔
    (l.isKnown clientId = false → l.tracked < maxTrackedClients) := by
  simp [capacityError]

lemma check_unknown (hl : l.limits.lookup operation = none) :
    l.check P operation clientId now created =
      some (.error (.unknownOperation operation),
        { l with globalCounter := (l.checkGlobal now).2 }) := by
  simp only [check, hl]

lemma check_known (hl : l.limits.lookup operation = some limit) :
    l.check P operation clientId now created =
      ((l.counterOf clientId created).check P operation limit (l.outerError clientId now) now).map
        fun r => (r.1,
          { l.withCounter clientId r.2 with globalCounter := (l.checkGlobal now).2 }) := by
  have hco (g : GlobalCounter) :
    ({ l with globalCounter := g }).counterOf clientId created = l.counterOf clientId created := rfl
  have hca (g : GlobalCounter) :
    ({ l with globalCounter := g }).capacityError clientId = l.capacityError clientId := rfl
  simp only [check, hl, hco, hca, outerError]
  cases (l.counterOf clientId created).check P operation limit _ now <;> rfl

lemma check_cases {result : Except RateLimitError Unit}
    (h : l.check P operation clientId now created = some (result, l')) :
    (l.limits.lookup operation = none ∧ result = .error (.unknownOperation operation) ∧
        l' = { l with globalCounter := (l.checkGlobal now).2 }) ∨
      ∃ limit counter, l.limits.lookup operation = some limit ∧
        (l.counterOf clientId created).check P operation limit (l.outerError clientId now) now =
          some (result, counter) ∧
        l' = { l.withCounter clientId counter with globalCounter := (l.checkGlobal now).2 } := by
  cases hl : l.limits.lookup operation with
  | none => simp_all [check_unknown]
  | some limit =>
    rw [check_known hl] at h
    obtain ⟨r, hr, heq⟩ := Option.map_eq_some_iff.mp h
    cases heq
    exact .inr ⟨limit, r.2, rfl, hr, rfl⟩

lemma remaining_unknown (hl : l.limits.lookup operation = none) :
    l.remaining operation clientId created now = some (none, l) := by
  simp only [remaining, hl]

lemma remaining_full (hl : l.limits.lookup operation = some limit)
    (hf : l.capacityError clientId ≠ none) :
    l.remaining operation clientId created now = some (none, l) := by
  simp_all [remaining, capacityError]

lemma remaining_room (hl : l.limits.lookup operation = some limit)
    (hro : l.capacityError clientId = none) :
    l.remaining operation clientId created now =
      (((l.counterOf clientId created).updateCounters now).refillBurstTokens limit now).map
        fun counter => (some (quota limit counter now), l.withCounter clientId counter) := by
  have hf : ¬ (!l.isKnown clientId && decide (l.tracked ≥ maxTrackedClients)) = true := by
    simpa [capacityError] using hro
  simp only [remaining, hl, if_neg hf]
  cases ((l.counterOf clientId created).updateCounters now).refillBurstTokens limit now <;> rfl

lemma remaining_cases {q : Option RemainingQuota}
    (h : l.remaining operation clientId created now = some (q, l')) :
    (q = none ∧ l' = l ∧ (l.limits.lookup operation = none ∨ l.counters.lookup clientId = none)) ∨
    ∃ limit counter, l.limits.lookup operation = some limit ∧ l.capacityError clientId = none ∧
    ((l.counterOf clientId created).updateCounters now).refillBurstTokens limit now = some counter ∧
    q = some (quota limit counter now) ∧ l' = l.withCounter clientId counter := by
  cases hl : l.limits.lookup operation with
  | none => simp_all [remaining_unknown]
  | some limit =>
    by_cases hro : l.capacityError clientId = none
    · rw [remaining_room hl hro] at h
      obtain ⟨counter, hre, heq⟩ := Option.map_eq_some_iff.mp h
      cases heq
      exact .inr ⟨limit, counter, rfl, hro, hre, rfl, rfl⟩
    · rw [remaining_full hl hro] at h
      cases h
      refine .inl ⟨rfl, rfl, .inr ?_⟩
      simp_all [capacityError, isKnown]

end

inductive Call where
  | check (operation : String) (clientId : Bytes) (now created : Instant)
  | remaining (operation : String) (clientId : Bytes) (created now : Instant)
  | reset (clientId : Bytes)
  | pruneInactive (maxAge : Nat) (now : Instant)

inductive Answer where
  | checked (result : Except RateLimitError Unit)
  | quota (quota : Option RemainingQuota)
  | done

def call (P : Platform) (l : RateLimiter) : Call → Option (Answer × RateLimiter)
  | .check operation clientId now created =>
    (l.check P operation clientId now created).map fun r => (.checked r.1, r.2)
  | .remaining operation clientId created now =>
    (l.remaining operation clientId created now).map fun r => (.quota r.1, r.2)
  | .reset clientId => some (.done, l.reset clientId)
  | .pruneInactive maxAge now => some (.done, l.pruneInactive maxAge now)

def Call.client : Call → Option Bytes
  | .check _ clientId _ _ => some clientId
  | .remaining _ clientId _ _ => some clientId
  | .reset clientId => some clientId
  | .pruneInactive _ _ => none

def globalAfter (l : RateLimiter) : Call → GlobalCounter
  | .check _ _ now _ => (l.checkGlobal now).2
  | _ => l.globalCounter

section
variable {P : Platform} {l l' : RateLimiter} {a : Answer} {operation : String} {clientId id : Bytes}
  {now created : Instant} {c : Call}

lemma call_check (h : l.call P (.check operation clientId now created) = some (a, l')) : ∃ result,
    a = .checked result ∧ l.check P operation clientId now created = some (result, l') := by
  obtain ⟨r, hr, heq⟩ := Option.map_eq_some_iff.mp h
  cases heq
  exact ⟨r.1, rfl, hr⟩

lemma call_remaining (h : l.call P (.remaining operation clientId created now) = some (a, l')) :
    ∃ q, a = .quota q ∧ l.remaining operation clientId created now = some (q, l') := by
  obtain ⟨r, hr, heq⟩ := Option.map_eq_some_iff.mp h
  cases heq
  exact ⟨r.1, rfl, hr⟩

section
variable (h : l.call P c = some (a, l'))
include h

lemma call_cases :
    ∃ counters, l' = { l with counters := counters, globalCounter := l.globalAfter c } ∧
      (counters = l.counters ∨
        (∃ id counter, c.client = some id ∧ counters = l.counters.insert id counter) ∨
        (∃ id, c = .reset id ∧ counters = l.counters.erase id) ∨
        ∃ maxAge now, c = .pruneInactive maxAge now ∧
          counters = (l.pruneInactive maxAge now).counters) := by
  cases c with
  | check operation clientId now created =>
    obtain ⟨result, -, hr⟩ := call_check h
    obtain ⟨-, -, rfl⟩ | ⟨limit, counter, -, -, rfl⟩ := check_cases hr
    · exact ⟨_, rfl, .inl rfl⟩
    · exact ⟨_, rfl, .inr (.inl ⟨clientId, counter, rfl, rfl⟩)⟩
  | remaining operation clientId created now =>
    obtain ⟨q, -, hr⟩ := call_remaining h
    rcases remaining_cases hr with ⟨-, rfl, -⟩ | ⟨limit, counter, -, -, -, -, rfl⟩
    · exact ⟨_, rfl, .inl rfl⟩
    · exact ⟨_, rfl, .inr (.inl ⟨clientId, counter, rfl, rfl⟩)⟩
  | reset id =>
    cases h
    exact ⟨_, rfl, .inr (.inr (.inl ⟨id, rfl, rfl⟩))⟩
  | pruneInactive maxAge now =>
    cases h
    exact ⟨_, rfl, .inr (.inr (.inr ⟨maxAge, now, rfl, rfl⟩))⟩

lemma config_of_call : l'.limits = l.limits ∧ l'.globalEnabled = l.globalEnabled := by
  obtain ⟨co, rfl, -⟩ := call_cases h
  exact ⟨rfl, rfl⟩

lemma lookup_of_call (hcl : c.client = some id) (hne : id ≠ clientId) :
    l'.counters.lookup clientId = l.counters.lookup clientId := by
  obtain ⟨co, rfl, rfl | ⟨id', counter, hi', rfl⟩ | ⟨id', rfl, rfl⟩ |
    ⟨maxAge, now, rfl, rfl⟩⟩ := call_cases h
  · rfl
  · grind [AList.lookup_insert_ne]
  · cases hcl
    exact AList.lookup_erase_ne (Ne.symm hne)
  · cases hcl

lemma mem_keys_of_call (hid : id ∈ l'.counters.keys) :
    c.client = some id ∨ id ∈ l.counters.keys := by
  obtain ⟨co, rfl, rfl | ⟨id', counter, hi', rfl⟩ | ⟨id', rfl, rfl⟩ |
    ⟨maxAge, now, rfl, rfl⟩⟩ := call_cases h
  · exact .inr hid
  · rcases (AList.mem_insert _).mp hid with rfl | hid
    · exact .inl hi'
    · exact .inr hid
  · exact .inr (AList.mem_erase.mp hid).2
  · exact .inr (mem_keys_pruneInactive hid)

end

lemma call_own {t : RateLimiter} (hcl : c.client = some clientId) (hli : l.limits = t.limits)
    (ho : ∀ now, l.outerError clientId now = t.outerError clientId now)
    (hca : l.capacityError clientId = t.capacityError clientId)
    (hco : l.counters.lookup clientId = t.counters.lookup clientId) : l.call P c = none ∧
    t.call P c = none ∨ ∃ a l' t', l.call P c = some (a, l') ∧ t.call P c = some (a, t') ∧
    l'.counters.lookup clientId = t'.counters.lookup clientId := by
  have hof (created : Instant) : l.counterOf clientId created = t.counterOf clientId created := by
    rw [counterOf, counterOf, hco]
  have hs (counter : ClientCounter) : (l.withCounter clientId counter).counters.lookup clientId =
      (t.withCounter clientId counter).counters.lookup clientId := by simp
  cases c with
  | check operation id now created =>
    obtain rfl := Option.some.inj hcl
    cases hl : t.limits.lookup operation with
    | none =>
      simp only [call, check_unknown hl, check_unknown ((congrArg _ hli).trans hl)]
      exact .inr ⟨_, _, _, rfl, rfl, hco⟩
    | some limit =>
      simp only [call, check_known hl, check_known ((congrArg _ hli).trans hl), ho, hof]
      cases (t.counterOf id created).check P operation limit _ now with
      | none => exact .inl ⟨rfl, rfl⟩
      | some r => exact .inr ⟨_, _, _, rfl, rfl, hs r.2⟩
  | remaining operation id created now =>
    obtain rfl := Option.some.inj hcl
    cases hl : t.limits.lookup operation with
    | none =>
      simp only [call, remaining_unknown hl, remaining_unknown ((congrArg _ hli).trans hl)]
      exact .inr ⟨_, _, _, rfl, rfl, hco⟩
    | some limit =>
      have hl' := (congrArg _ hli).trans hl
      by_cases hro : t.capacityError id = none
      · simp only [call, remaining_room hl hro, remaining_room hl' (hca.trans hro), hof]
        cases ((t.counterOf id created).updateCounters now).refillBurstTokens limit now with
        | none => exact .inl ⟨rfl, rfl⟩
        | some counter => exact .inr ⟨_, _, _, rfl, rfl, hs counter⟩
      · simp only [call, remaining_full hl hro, remaining_full hl' (hca ▸ hro)]
        exact .inr ⟨_, _, _, rfl, rfl, hco⟩
  | reset id =>
    cases hcl
    exact .inr ⟨_, _, _, rfl, rfl, by simp only [reset, AList.lookup_erase]⟩
  | pruneInactive maxAge now => cases hcl

end

/-- A panic aborts the process: nothing comes after it. -/
def step (P : Platform) : Option RateLimiter → Call → Option RateLimiter :=
  Unwinding.advance (call P)

lemma step_some {P : Platform} {o : Option RateLimiter} {c : Call} {l' : RateLimiter}
    (h : step P o c = some l') : ∃ l a, o = some l ∧ l.call P c = some (a, l') := by
  obtain ⟨l, rfl, hm⟩ := Option.bind_eq_some_iff.mp h
  obtain ⟨⟨a, l''⟩, hc, rfl⟩ := Option.map_eq_some_iff.mp hm
  exact ⟨l, a, rfl, hc⟩

end RateLimiter

end Sibna
