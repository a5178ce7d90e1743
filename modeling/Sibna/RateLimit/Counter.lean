import Sibna.RateLimit.Limiter

/-!
# The counter of a client

`remaining` brings the counter up to date as `check` does.
-/

namespace Sibna

def RemainingQuota.Allows (q : RemainingQuota) : Prop :=
  (∀ w, 0 < q.per w) ∧ 0 < q.burstTokens ∧ q.inCooldown = false

namespace ClientCounter

section
variable (counter : ClientCounter) (limit : OperationLimit) (now : Instant)

def refillProduct : Nat :=
  asMillis (now - counter.lastRefill) % 2 ^ 32 * limit.burstSize.toNat

def RefillOverflows : Prop :=
  2 ^ 32 ≤ counter.refillProduct limit now ∨
    2 ^ 32 ≤ counter.burstTokens.toNat + counter.refillProduct limit now / 1000
  deriving Decidable

/-- A cooldown is on, there is no token and none is due, or a window is full. -/
def Exhausted : Prop :=
  (∃ cooldownEnd ∈ counter.cooldownUntil, now < cooldownEnd) ∨
    (counter.burstTokens = 0 ∧ counter.refillProduct limit now < 1000) ∨
    ∃ w ∈ Window.all, limit.maxPer w ≤ (counter.updateCounters now).count w
  deriving Decidable

end

section
variable {counter refreshed : ClientCounter} {limit : OperationLimit} {now : Instant}

lemma toNat_product (h : counter.refillProduct limit now < 2 ^ 32) :
    (UInt32.ofNat (asMillis (now - counter.lastRefill)) * limit.burstSize).toNat =
      counter.refillProduct limit now := by
  exact Nat.mod_eq_of_lt h

lemma min_ne_zero {a b : UInt32} (ha : a ≠ 0) (hb : b ≠ 0) : min a b ≠ 0 := by
  rcases Std.min_eq_or (a := a) (b := b) with h | h
  · rwa [h]
  · rwa [h]

lemma refill_cases (counter : ClientCounter) (limit : OperationLimit) (now : Instant) :
    counter.refillProduct limit now < 1000 ∧ counter.refillBurstTokens limit now = some counter ∨
    1000 ≤ counter.refillProduct limit now ∧ counter.RefillOverflows limit now ∧
      counter.refillBurstTokens limit now = none ∨
    1000 ≤ counter.refillProduct limit now ∧ ¬ counter.RefillOverflows limit now ∧
      ∃ tokens : UInt32,
        tokens.toNat = counter.burstTokens.toNat + counter.refillProduct limit now / 1000 ∧
        counter.refillBurstTokens limit now =
          some { counter with burstTokens := min tokens limit.burstSize, lastRefill := now } := by
  unfold refillBurstTokens
  set elapsed := UInt32.ofNat (asMillis (now - counter.lastRefill))
  by_cases hm : counter.refillProduct limit now < 2 ^ 32
  · have hch : checkedMul elapsed limit.burstSize = some (elapsed * limit.burstSize) := by
      exact if_pos hm
    have hq : (elapsed * limit.burstSize / 1000).toNat =
        counter.refillProduct limit now / 1000 := by
      rw [UInt32.toNat_div, toNat_product hm]
      rfl
    have hpo : elapsed * limit.burstSize / 1000 > 0 ↔ 1000 ≤ counter.refillProduct limit now := by
      rw [gt_iff_lt, UInt32.lt_iff_toNat_lt, hq, UInt32.toNat_zero]
      omega
    simp only [hch]
    by_cases hdu : 1000 ≤ counter.refillProduct limit now
    · right
      rw [if_pos (hpo.mpr hdu), checkedAdd, hq]
      by_cases had : counter.burstTokens.toNat + counter.refillProduct limit now / 1000 < 2 ^ 32
      · right
        rw [if_pos had]
        refine ⟨hdu, ?_, _, ?_, rfl⟩
        · simp only [RefillOverflows, not_or, Nat.not_le]
          exact ⟨hm, had⟩
        · rw [UInt32.toNat_add, hq, Nat.mod_eq_of_lt had]
      · left
        rw [if_neg had]
        exact ⟨hdu, .inr (Nat.le_of_not_lt had), rfl⟩
    · simp_all
  · have hch : checkedMul elapsed limit.burstSize = none := by
      exact if_neg hm
    rw [hch]
    exact .inr (.inl ⟨by omega, .inl (Nat.le_of_not_lt hm), rfl⟩)

lemma exists_refill (h : ¬ counter.RefillOverflows limit now) : ∃ counter',
    counter.refillBurstTokens limit now = some counter' ∧
    (counter'.burstTokens = 0 → counter.burstTokens = 0 ∧ counter.refillProduct limit now < 1000) :=
    by
  rcases counter.refill_cases limit now with
    ⟨hdu, heq⟩ | ⟨-, ho, -⟩ | ⟨hdu, -, tokens, hto, heq⟩
  · exact ⟨counter, heq, fun hn => ⟨hn, hdu⟩⟩
  · exact absurd ho h
  have hb : limit.burstSize ≠ 0 := by
    intro hz
    simp [refillProduct, hz] at hdu
  refine ⟨_, heq, fun hn => absurd hn (min_ne_zero (fun hz => ?_) hb)⟩
  rw [hz, UInt32.toNat_zero] at hto
  omega

def RefillExact (counter : ClientCounter) (limit : OperationLimit) (now : Instant) : Prop :=
  let elapsed := asMillis (now - counter.lastRefill)
  elapsed < 2 ^ 32 ∧ elapsed * limit.burstSize.toNat < 2 ^ 32 ∧
    counter.burstTokens.toNat + elapsed * limit.burstSize.toNat / 1000 < 2 ^ 32 ∧
    (elapsed * limit.burstSize.toNat < 1000 → counter.burstTokens ≤ limit.burstSize)

lemma refillProduct_of_lt (h : asMillis (now - counter.lastRefill) < 2 ^ 32) :
    counter.refillProduct limit now = asMillis (now - counter.lastRefill) * limit.burstSize.toNat :=
    by
  rw [refillProduct, Nat.mod_eq_of_lt h]

lemma toNat_min (a b : UInt32) : (min a b).toNat = min a.toNat b.toNat := by
  change (if a ≤ b then a else b).toNat = _
  split
  · rename_i h
    exact (min_eq_left (UInt32.le_iff_toNat_le.mp h)).symm
  · rename_i h
    exact (min_eq_right (Nat.le_of_not_le fun hle => h (UInt32.le_iff_toNat_le.mpr hle))).symm

lemma refill_full (h : counter.RefillExact limit now)
    (hid : 1000 ≤ asMillis (now - counter.lastRefill)) (hb : 1 ≤ limit.burstSize) : ∃ counter',
    counter.refillBurstTokens limit now = some counter' ∧ counter'.burstTokens = limit.burstSize :=
    by
  obtain ⟨hel, hpr, hsu, -⟩ := h
  have hdu : 1000 * limit.burstSize.toNat ≤ counter.refillProduct limit now :=
    refillProduct_of_lt hel ▸ Nat.mul_le_mul_right _ hid
  rw [← refillProduct_of_lt hel] at hpr hsu
  have hpo : 1 ≤ limit.burstSize.toNat := hb
  rcases counter.refill_cases limit now with
    ⟨hn, -⟩ | ⟨-, ho | ho, -⟩ | ⟨-, -, tokens, hto, heq⟩
  · omega
  · omega
  · omega
  refine ⟨_, heq, ?_⟩
  apply UInt32.toNat_inj.mp
  rw [toNat_min]
  omega

/-- A refill is exact, without anything cut off, exactly under these conditions; and then a second
is enough for all tokens that `check` can find. -/
theorem refill_exact_iff (counter : ClientCounter) (limit : OperationLimit) (now : Instant) :
    ((asMillis (now - counter.lastRefill) < 2 ^ 32 ∧
      ∃ counter', counter.refillBurstTokens limit now = some counter' ∧
        counter'.burstTokens.toNat = min limit.burstSize.toNat (counter.burstTokens.toNat +
          asMillis (now - counter.lastRefill) * limit.burstSize.toNat / 1000)) ↔
      counter.RefillExact limit now) ∧
    (counter.RefillExact limit now → 1000 ≤ asMillis (now - counter.lastRefill) →
      1 ≤ limit.burstSize →
      (counter.refreshed limit now).map ClientCounter.burstTokens = some limit.burstSize) := by
  constructor
  · refine and_congr_right fun helapsed => ?_
    have hold := counter.burstTokens.toNat_lt
    have hproduct : counter.refillProduct limit now = _ := refillProduct_of_lt helapsed
    rcases counter.refill_cases limit now with
      ⟨hnone, heq⟩ | ⟨hdue, hover, heq⟩ | ⟨hdue, hover, tokens, htokens, heq⟩
    · simp only [heq, Option.some.injEq, exists_eq_left', UInt32.le_iff_toNat_le]
      omega
    · simp only [heq, reduceCtorEq, false_and, exists_false, false_iff]
      rcases hover with hover | hover <;> omega
    · simp only [RefillOverflows, not_or, Nat.not_le] at hover
      simp only [heq, Option.some.injEq, exists_eq_left', toNat_min]
      omega
  · intro hexact hidle hburst
    obtain ⟨counter', heq, htokens⟩ :=
      @refill_full (counter.updateCounters now) limit now hexact hidle hburst
    rw [refreshed_eq, heq, ← htokens]
    rfl

theorem full_after_a_minute :
    ((default (fromSecs 100)).refreshed ⟨3, 30, 300, 3000, fromSecs 60, 5⟩ (fromSecs 100)).map
      ClientCounter.burstTokens = some 5 := by
  refine (refill_exact_iff _ ⟨3, 30, 300, 3000, fromSecs 60, 5⟩ _).2 ⟨?_, ?_, ?_, ?_⟩ ?_ ?_
  all_goals decide

/-- Ten days are too many milliseconds for the product, after 2 ^ 32 nothing is left of them, and
the tokens of an operation with a larger size stay. -/
theorem refills_inexact :
    (default 0).refillBurstTokens ⟨3, 30, 300, 3000, fromSecs 60, 5⟩ (fromSecs 864000) = none ∧
      ((default 0).refillBurstTokens ⟨1, 1, 1, 1, 0, 1⟩ (fromMillis (2 ^ 32))).map
        ClientCounter.burstTokens = some 0 ∧
      ({ default 0 with burstTokens := 5 }.refillBurstTokens ⟨1, 10, 100, 1000, fromSecs 300, 2⟩
        (fromMillis 100)).map ClientCounter.burstTokens = some 5 := by
  refine ⟨?_, ?_, ?_⟩
  all_goals rfl

lemma refillOverflows_updateCounters :
    (counter.updateCounters now).RefillOverflows limit now ↔ counter.RefillOverflows limit now :=
  Iff.rfl

end

section
variable {counter refilled : ClientCounter} {limit : OperationLimit} {now : Instant}

lemma not_over_of_started {w : Window} (h : counter.last w = now) : ¬ counter.Over now w := by
  have hpo : 0 < w.length := by cases w <;> decide
  rw [Over, h]
  omega

lemma not_over_updateCounters (counter : ClientCounter) (now : Instant) (w : Window) :
    ¬ (counter.updateCounters now).Over now w := by
  by_cases ho : counter.Over now w
  · exact not_over_of_started (if_pos ho)
  · simpa only [Over, updateCounters, if_neg ho] using ho

lemma updateCounters_of_not_over (h : ∀ w, ¬ counter.Over now w) :
    counter.updateCounters now = counter := by
  simp only [updateCounters, h, if_false]

lemma refill_eq_self_iff : counter.refillBurstTokens limit now = some counter ↔
    counter.refillProduct limit now < 1000 := by
  rcases counter.refill_cases limit now with
    ⟨hdu, heq⟩ | ⟨hdu, -, heq⟩ | ⟨hdu, -, tokens, -, heq⟩
  · exact iff_of_true heq hdu
  · simp_all
  refine iff_of_false (fun hse => ?_) (Nat.not_lt.mpr hdu)
  -- a refill with tokens due comes after the last one
  have hl : now = counter.lastRefill := by grind
  rw [refillProduct, hl, Nat.sub_self] at hdu
  simp [asMillis] at hdu

lemma refill_refill (h : counter.refillBurstTokens limit now = some refilled) :
    refilled.refillBurstTokens limit now = some refilled := by
  rcases counter.refill_cases limit now with
    ⟨-, heq⟩ | ⟨-, -, heq⟩ | ⟨-, -, tokens, -, heq⟩
  · simp_all
  · rw [heq] at h
    cases h
  · cases heq.symm.trans h
    rw [refill_eq_self_iff, refillProduct, Nat.sub_self]
    simp [asMillis]

section
variable (h : (counter.updateCounters now).refillBurstTokens limit now = some refilled)
include h

lemma not_over_of_refill (w : Window) : ¬ refilled.Over now w := by
  obtain ⟨tk, t, rfl⟩ := eq_of_refillBurstTokens h
  exact counter.not_over_updateCounters now w

lemma refreshed_of_refill :
    (refilled.updateCounters now).refillBurstTokens limit now = some refilled := by
  rw [updateCounters_of_not_over (not_over_of_refill h)]
  exact refill_refill h

end

lemma stored_eq_self_iff : (counter.updateCounters now).refillBurstTokens limit now = some counter ↔
    (∀ w, ¬ counter.Over now w) ∧ counter.refillProduct limit now < 1000 := by
  constructor
  · intro h
    have ho := not_over_of_refill h
    rw [updateCounters_of_not_over ho] at h
    exact ⟨ho, refill_eq_self_iff.mp h⟩
  · rintro ⟨ho, hdu⟩
    rw [updateCounters_of_not_over ho]
    exact refill_eq_self_iff.mpr hdu

end

section
variable {P : Platform} {operation : String} {limit : OperationLimit} {now : Instant}
  {counter refilled : ClientCounter}

lemma quota_allows_iff : (RateLimiter.quota limit counter now).Allows ↔
    (∀ w, counter.count w < limit.maxPer w) ∧ counter.burstTokens ≠ 0 ∧
    ∀ cooldownEnd ∈ counter.cooldownUntil, cooldownEnd ≤ now := by
  have hpe : ∀ w, 0 < (RateLimiter.quota limit counter now).per w ↔
      counter.count w < limit.maxPer w := by
    intro w
    simp only [RateLimiter.quota]
    split
    · grind
    · grind
  have hto : 0 < (RateLimiter.quota limit counter now).burstTokens ↔ counter.burstTokens ≠ 0 :=
    UInt32.pos_iff_ne_zero
  have hco : (RateLimiter.quota limit counter now).inCooldown = false ↔
      ∀ cooldownEnd ∈ counter.cooldownUntil, cooldownEnd ≤ now := by
    unfold RateLimiter.quota
    cases counter.cooldownUntil with
    | none | some => simp
  rw [RemainingQuota.Allows, hto, hco]
  exact and_congr_left fun _ => forall_congr' hpe

lemma check_ok_iff (h : (counter.updateCounters now).refillBurstTokens limit now = some refilled) :
    (∃ counter', counter.check P operation limit none now = some (.ok (), counter')) ↔
    (RateLimiter.quota limit refilled now).Allows := by
  have hco : counter.cooldownError now = refilled.cooldownError now := by
    obtain ⟨tk, t, rfl⟩ := eq_of_refillBurstTokens h
    rfl
  have hl (cooldown : Option Instant) :
      { refilled with cooldownUntil := cooldown }.limitError operation limit =
        refilled.limitError operation limit := rfl
  have her : (none <|> refilled.cooldownError now <|> refilled.limitError operation limit) =
      none ↔ (RateLimiter.quota limit refilled now).Allows := by
    rw [quota_allows_iff, ← and_assoc, ← limitError_eq_none_iff operation,
      ← cooldownError_eq_none_iff]
    cases refilled.cooldownError now <;> simp
  rw [← her, check, refreshed_eq, h]
  simp only [Option.map_some, hco, hl]
  cases (none <|> refilled.cooldownError now <|> refilled.limitError operation limit) with
  | none => exact iff_of_true ⟨_, rfl⟩ rfl
  | some err =>
    refine iff_of_false ?_ nofun
    rintro ⟨counter', heq⟩
    simp only [conclude] at heq
    split at heq <;> cases heq

lemma check_ok_iff_not_exhausted (hf : ¬ counter.RefillOverflows limit now) :
    (∃ counter', counter.check P operation limit none now = some (.ok (), counter')) ↔
    ¬ counter.Exhausted limit now := by
  obtain ⟨refilled, hre, hto⟩ := exists_refill (refillOverflows_updateCounters.not.mpr hf)
  have hn : refilled.burstTokens = 0 ↔
      counter.burstTokens = 0 ∧ counter.refillProduct limit now < 1000 := by
    refine ⟨hto, fun ⟨hz, hdu⟩ => ?_⟩
    have hsa : (counter.updateCounters now).refillBurstTokens limit now = some _ :=
      refill_eq_self_iff.mpr hdu
    cases hsa.symm.trans hre
    exact hz
  obtain ⟨hcu, hco⟩ : refilled.count = (counter.updateCounters now).count ∧
      refilled.cooldownUntil = counter.cooldownUntil := by
    obtain ⟨tk, t, rfl⟩ := eq_of_refillBurstTokens hre
    exact ⟨rfl, rfl⟩
  rw [check_ok_iff hre, quota_allows_iff, Ne, hn, hcu, hco, Exhausted, not_or, not_or]
  constructor
  · rintro ⟨hb, hto, ho⟩
    refine ⟨?_, hto, ?_⟩
    · simp_all
    · simp_all
  · rintro ⟨ho, hto, hb⟩
    refine ⟨fun w => ?_, hto, fun ce hen => ?_⟩
    · exact UInt32.not_le.mp fun hle => hb ⟨w, Window.mem_all w, hle⟩
    · exact Nat.le_of_not_lt fun hlt => ho ⟨ce, hen, hlt⟩

lemma exists_check_of_le (er : Option RateLimitError)
    (hrf : ¬ counter.RefillOverflows limit now) (hco : now + limit.cooldown ≤ P.latest) :
    ∃ r, counter.check P operation limit er now = some r := by
  obtain ⟨refreshed, hre⟩ : ∃ refreshed, counter.refreshed limit now = some refreshed := by
    obtain ⟨st, hs, -⟩ := exists_refill (refillOverflows_updateCounters.not.mpr hrf)
    rw [refreshed_eq, hs]
    exact ⟨_, rfl⟩
  simp only [check, hre]
  cases (er <|> counter.cooldownError now <|> refreshed.limitError operation limit) with
  | none => exact ⟨_, rfl⟩
  | some err => exact ⟨_, if_pos hco⟩

lemma exists_check (hre : ¬ counter.RefillOverflows limit now)
    (hco : counter.Exhausted limit now → now + limit.cooldown ≤ P.latest) :
    ∃ r, counter.check P operation limit none now = some r := by
  by_cases heh : counter.Exhausted limit now
  · exact exists_check_of_le none hre (hco heh)
  · obtain ⟨c', h⟩ := (check_ok_iff_not_exhausted hre).mpr heh
    exact ⟨_, h⟩

end

end ClientCounter

end Sibna
