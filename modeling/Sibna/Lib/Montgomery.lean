import Mathlib.Data.Nat.ModEq
import Mathlib.Tactic.IntervalCases
import Mathlib.Tactic.LinearCombination
import Mathlib.Tactic.Ring

/-!
# The ladder on a Montgomery curve

If a table of ratios is closed under the two formulas, the ladder stays in it up to common factors.
-/

namespace Montgomery

universe u

variable {R : Type u} [CommRing R]

@[ext] structure Ratio (R : Type u) where
  x : R
  z : R

def infinity : Ratio R := ⟨1, 0⟩

def finite (v : R) : Ratio R := ⟨v, 1⟩

def double (a24 : R) (P : Ratio R) : Ratio R :=
  let aa := (P.x + P.z) ^ 2
  let bb := (P.x - P.z) ^ 2
  let e := aa - bb
  ⟨aa * bb, e * (aa + a24 * e)⟩

def add (v : R) (P Q : Ratio R) : Ratio R :=
  let da := (Q.x - Q.z) * (P.x + P.z)
  let cb := (Q.x + Q.z) * (P.x - P.z)
  ⟨(da + cb) ^ 2, v * (da - cb) ^ 2⟩

def step (a24 v : R) (bit : Bool) (s : Ratio R × Ratio R) : Ratio R × Ratio R :=
  if bit then (add v s.1 s.2, double a24 s.2) else (double a24 s.1, add v s.1 s.2)

def ladderFrom (a24 v : R) (n : Nat) : Nat → Ratio R × Ratio R → Ratio R × Ratio R
  | 0, s => s
  | k + 1, s => ladderFrom a24 v n k (step a24 v (n.testBit k) s)

def ladder (a24 v : R) (n bits : Nat) : Ratio R :=
  (ladderFrom a24 v n bits (infinity, finite v)).1

def Multiple (P Q : Ratio R) : Prop := ∃ t, Q.x = t * P.x ∧ Q.z = t * P.z

lemma Multiple.refl (P : Ratio R) : Multiple P P := ⟨1, (one_mul _).symm, (one_mul _).symm⟩

variable {P : Ratio R} {period : List (Ratio R)}

lemma Multiple.trans {Q S : Ratio R} (hPQ : Multiple P Q) (hQS : Multiple Q S) : Multiple P S := by
  obtain ⟨t, hx, hz⟩ := hPQ
  obtain ⟨s, hx', hz'⟩ := hQS
  exact ⟨s * t, by rw [hx', hx, mul_assoc], by rw [hz', hz, mul_assoc]⟩

lemma multiple_infinity (h : P.z = 0) : Multiple infinity P :=
  ⟨P.x, (mul_one _).symm, h.trans (mul_zero _).symm⟩

lemma multiple_finite {v : R} (h : P.x = P.z * v) : Multiple (finite v) P :=
  ⟨P.z, h, (mul_one _).symm⟩

lemma Multiple.z_eq_zero (h : Multiple infinity P) : P.z = 0 := by
  obtain ⟨t, -, hz⟩ := h
  rw [hz, infinity, mul_zero]

lemma Multiple.double {P Q : Ratio R} (a24 : R) (h : Multiple P Q) :
    Multiple (double a24 P) (double a24 Q) := by
  obtain ⟨t, hx, hz⟩ := h
  refine ⟨t ^ 4, ?_, ?_⟩
  · simp only [Montgomery.double, hx, hz]
    ring
  · simp only [Montgomery.double, hx, hz]
    ring

lemma Multiple.add {P P' Q Q' : Ratio R} (v : R) (hP : Multiple P P') (hQ : Multiple Q Q') :
    Multiple (add v P Q) (add v P' Q') := by
  obtain ⟨t, hx, hz⟩ := hP
  obtain ⟨s, hx', hz'⟩ := hQ
  refine ⟨(t * s) ^ 2, ?_, ?_⟩
  · simp only [Montgomery.add, hx, hz, hx', hz']
    ring
  · simp only [Montgomery.add, hx, hz, hx', hz']
    ring

structure Multiples (a24 v : R) (table : Nat → Ratio R) : Prop where
  zero : table 0 = infinity
  one : table 1 = finite v
  double : ∀ m, Multiple (table (2 * m)) (double a24 (table m))
  add : ∀ m, Multiple (table (2 * m + 1)) (add v (table m) (table (m + 1)))

variable {a24 v : R} {table : Nat → Ratio R}

def Follows (table : Nat → Ratio R) (m : Nat) (s : Ratio R × Ratio R) : Prop :=
  Multiple (table m) s.1 ∧ Multiple (table (m + 1)) s.2

lemma Multiples.follows_step (h : Multiples a24 v table) {m : Nat} {s : Ratio R × Ratio R}
    (hs : Follows table m s) (bit : Bool) :
    Follows table (2 * m + bit.toNat) (step a24 v bit s) := by
  have had := (h.add m).trans (hs.1.add v hs.2)
  cases bit with
  | false => exact ⟨(h.double m).trans (hs.1.double a24), had⟩
  | true => exact ⟨had, (h.double _).trans (hs.2.double a24)⟩

lemma Multiples.follows_ladderFrom (h : Multiples a24 v table) (n k : Nat) {m : Nat}
    {s : Ratio R × Ratio R} (hs : Follows table m s) :
    Follows table (2 ^ k * m + n % 2 ^ k) (ladderFrom a24 v n k s) := by
  induction k generalizing m s with
  | zero => simpa [ladderFrom, Nat.mod_one] using hs
  | succ k ih =>
    have hv : 2 ^ (k + 1) * m + n % 2 ^ (k + 1) =
        2 ^ k * (2 * m + (n.testBit k).toNat) + n % 2 ^ k := by
      rw [Nat.mod_pow_succ, Nat.toNat_testBit]
      ring
    rw [hv]
    exact ih (h.follows_step hs _)

lemma Multiples.ladder (h : Multiples a24 v table) (n bits : Nat) :
    Multiple (table (n % 2 ^ bits)) (ladder a24 v n bits) := by
  have hst : Follows table 0 (infinity, finite v) := by
    constructor
    · rw [h.zero]
      exact .refl _
    · rw [h.one]
      exact .refl _
  have hen := (h.follows_ladderFrom n bits hst).1
  rwa [Nat.mul_zero, Nat.zero_add] at hen

def cycle (n : Nat) (period : List (Ratio R)) (m : Nat) : Ratio R := period.getD (m % n) infinity

lemma cycle_congr {n m m' : Nat} (h : m ≡ m' [MOD n]) : cycle n period m = cycle n period m' := by
  rw [cycle, h, cycle]

lemma Multiples.of_cycle {n : Nat} (hpo : 0 < n) (hz : cycle n period 0 = infinity)
    (ho : cycle n period 1 = finite v) (hdo : ∀ m < n,
      Multiple (cycle n period (2 * m)) (Montgomery.double a24 (cycle n period m)))
    (had : ∀ m < n, Multiple (cycle n period (2 * m + 1))
      (Montgomery.add v (cycle n period m) (cycle n period (m + 1)))) :
    Multiples a24 v (cycle n period) where
  zero := hz
  one := ho
  double m := by
    have hm := Nat.mod_modEq m n
    rw [← cycle_congr hm, ← cycle_congr (hm.mul_left 2)]
    exact hdo _ (Nat.mod_lt m hpo)
  add m := by
    have hm := Nat.mod_modEq m n
    rw [← cycle_congr hm, ← cycle_congr (hm.add_right 1),
      ← cycle_congr ((hm.mul_left 2).add_right 1)]
    exact had _ (Nat.mod_lt m hpo)

lemma Multiples.ladder_cycle {n : Nat} (h : Multiples a24 v (cycle n period)) {sc bits : Nat}
    (hdv : n ∣ sc % 2 ^ bits) : (Montgomery.ladder a24 v sc bits).z = 0 := by
  have hl := h.ladder sc bits
  rw [cycle_congr ((Nat.modEq_zero_iff_dvd).mpr hdv), h.zero] at hl
  exact hl.z_eq_zero

lemma double_infinity : Multiple infinity (Montgomery.double a24 infinity) :=
  multiple_infinity (by simp [infinity, Montgomery.double])

lemma double_zero : Multiple infinity (Montgomery.double a24 (finite 0)) :=
  multiple_infinity (by simp [finite, Montgomery.double])

lemma double_finite {p q : R} (h : (p ^ 2 - 1) ^ 2 = 4 * p * ((p + 1) ^ 2 + 4 * a24 * p) * q) :
    Multiple (finite q) (Montgomery.double a24 (finite p)) := by
  refine multiple_finite ?_
  simp only [finite, Montgomery.double]
  linear_combination h

lemma add_infinity_left (v : R) : Multiple (finite v) (Montgomery.add v infinity (finite v)) := by
  refine multiple_finite ?_
  simp only [infinity, finite, Montgomery.add]
  ring

lemma add_infinity_right (v : R) : Multiple (finite v) (Montgomery.add v (finite v) infinity) := by
  refine multiple_finite ?_
  simp only [infinity, finite, Montgomery.add]
  ring

lemma add_finite {p q r : R} (h : (p * q - 1) ^ 2 = v * (q - p) ^ 2 * r) :
    Multiple (finite r) (Montgomery.add v (finite p) (finite q)) := by
  refine multiple_finite ?_
  simp only [finite, Montgomery.add]
  linear_combination 4 * h

lemma multiples_two : Multiples a24 (0 : R) (cycle 2 [infinity, finite 0]) := by
  refine .of_cycle (by decide) rfl rfl ?_ ?_
  · intro m hm
    interval_cases m
    · exact double_infinity
    · exact double_zero
  · intro m hm
    interval_cases m
    · exact add_infinity_left 0
    · exact add_infinity_right 0

lemma multiples_four (hv : v ^ 2 = 1) :
    Multiples a24 v (cycle 4 [infinity, finite v, finite 0, finite v]) := by
  have hdo : Multiple (finite 0) (Montgomery.double a24 (finite v)) :=
    double_finite (by rw [hv]; ring)
  refine .of_cycle (by decide) rfl rfl ?_ ?_
  · intro m hm
    interval_cases m
    · exact double_infinity
    · exact hdo
    · exact double_zero
    · exact hdo
  · intro m hm
    interval_cases m
    · exact add_infinity_left v
    · exact add_finite (by linear_combination (-v ^ 2 - 1) * hv)
    · exact add_finite (by linear_combination (-v ^ 2 - 1) * hv)
    · exact add_infinity_right v

lemma multiples_eight {w : R} (hv : (v ^ 2 - 1) ^ 2 = 4 * v * ((v + 1) ^ 2 + 4 * a24 * v))
    (hw : (w ^ 2 - 1) ^ 2 = 4 * w * ((w + 1) ^ 2 + 4 * a24 * w)) (hvw : v * w = 1) :
    Multiples a24 v (cycle 8
      [infinity, finite v, finite 1, finite w, finite 0, finite w, finite 1, finite v]) := by
  have ho : Multiple (finite 0) (Montgomery.double a24 (finite 1)) := double_finite (by ring)
  have hdo := double_finite (by rw [hv, mul_one])
  have hth := double_finite (by rw [hw, mul_one])
  refine .of_cycle (by decide) rfl rfl ?_ ?_
  · intro m hm
    interval_cases m
    · exact double_infinity
    · exact hdo
    · exact ho
    · exact hth
    · exact double_zero
    · exact hth
    · exact ho
    · exact hdo
  · intro m hm
    interval_cases m
    · exact add_infinity_left v
    · exact add_finite (by linear_combination (-(v - 1) ^ 2) * hvw)
    · exact add_finite (by linear_combination (-(w - 1) ^ 2) * hvw)
    · exact add_finite (by linear_combination (-v * w - 1) * hvw)
    · exact add_finite (by linear_combination (-v * w - 1) * hvw)
    · exact add_finite (by linear_combination (-(w - 1) ^ 2) * hvw)
    · exact add_finite (by linear_combination (-(v - 1) ^ 2) * hvw)
    · exact add_infinity_right v

end Montgomery
