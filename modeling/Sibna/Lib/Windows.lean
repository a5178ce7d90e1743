import Mathlib.Data.List.Count

/-!
# Counting in windows that restart lazily

At most the maximum goes through between two restarts, and twice as much in any window.
-/

namespace Windows

structure Tick where
  now : Nat
  restarts : Bool
  admits : Bool

/-- Events that follow the rules, from a count and the time before which the window does not
restart. -/
inductive Trace (width most : Nat) : Nat → Nat → List Tick → Prop where
  | nil (count due : Nat) : Trace width most count due []
  | cons {count count' due due' : Nat} {x : Tick} {xs : List Tick}
      (restarted : x.restarts = true → due ≤ x.now ∧ x.now + width ≤ due')
      (kept : x.restarts = false → due ≤ due' ∧ count ≤ count')
      (admitted : x.admits = true →
        (x.restarts = false → count < most ∧ count + 1 ≤ count') ∧
          (x.restarts = true → 0 < most ∧ 1 ≤ count'))
      (rest : Trace width most count' due' xs) : Trace width most count due (x :: xs)

variable {width most count due : Nat} {x : Tick} {xs : List Tick}

lemma countP_cons_add_le {p : Tick → Bool} {bound count' : Nat} (hke : count ≤ count')
    (hco : p x = true → count < most ∧ count + 1 ≤ count')
    (hr : xs.countP p + min count' most ≤ bound) : (x :: xs).countP p + min count most ≤ bound := by
  rw [List.countP_cons]
  cases hx : p x with
  | true =>
    have hb := hco hx
    simp only [if_true]
    omega
  | false => grind

lemma Trace.admitted_add_count_le (h : Trace width most count due xs)
    (hxs : ∀ x ∈ xs, x.restarts = false) : xs.countP Tick.admits + min count most ≤ most := by
  induction h with
  | nil count due => grind
  | @cons count c' due due' x xs r kept a rest ih => grind

lemma Trace.admitted_le (h : Trace width most count due (x :: xs))
    (hxs : ∀ y ∈ xs, y.restarts = false) : (x :: xs).countP Tick.admits ≤ most := by
  cases hx : x.restarts with
  | false =>
    have hle := h.admitted_add_count_le (List.forall_mem_cons.mpr ⟨hx, hxs⟩)
    omega
  | true =>
    cases h with
    | cons r kept a rest =>
      -- the count begins at zero again
      have hle := countP_cons_add_le (Nat.zero_le _) (fun had => (a had).2 hx)
        (rest.admitted_add_count_le hxs)
      omega

def inInterval (width t : Nat) (x : Tick) : Bool :=
  x.admits && decide (t ≤ x.now ∧ x.now < t + width)

lemma countP_inInterval_eq_zero {t : Nat} (hxs : ∀ x ∈ xs, t + width ≤ x.now) :
    xs.countP (inInterval width t) = 0 := by
  rw [List.countP_eq_zero]
  intro x hx
  have hl := hxs x hx
  simp only [inInterval, Bool.and_eq_true, decide_eq_true_eq]
  omega

section
variable {t : Nat}

section
variable (h : Trace width most count due xs)
include h

lemma Trace.interval_add_count_le (hdu : t + width ≤ due)
    (hso : xs.Pairwise fun x y => x.now ≤ y.now) :
    xs.countP (inInterval width t) + min count most ≤ most := by
  induction h with
  | nil count due => grind
  | @cons count c' due due' x xs r kept a rest ih =>
    obtain ⟨hle, hso⟩ := List.pairwise_cons.mp hso
    by_cases hl : t + width ≤ x.now
    · rw [countP_inInterval_eq_zero (List.forall_mem_cons.mpr
        ⟨hl, fun y hy => Nat.le_trans hl (hle y hy)⟩)]
      omega
    have hx : x.restarts = false := by
      rw [Bool.eq_false_iff]
      intro hx
      have hre := r hx
      omega
    have hke := kept hx
    exact countP_cons_add_le hke.2
      (fun hin => (a (Bool.and_eq_true_iff.mp hin).1).1 hx) (ih (by omega) hso)

lemma Trace.interval_from_le (hxs : ∀ x ∈ xs, t ≤ x.now)
    (hso : xs.Pairwise fun x y => x.now ≤ y.now) :
    xs.countP (inInterval width t) + min count most ≤ 2 * most := by
  induction h with
  | nil count due => grind
  | @cons count c' due due' x xs r kept a rest ih =>
    obtain ⟨-, hso⟩ := List.pairwise_cons.mp hso
    obtain ⟨hx, hxs⟩ := List.forall_mem_cons.mp hxs
    cases hre : x.restarts with
    | true =>
      have hrs := r hre
      have hr := rest.interval_add_count_le (t := t) (by omega) hso
      have hle := countP_cons_add_le (Nat.zero_le _)
        (fun hin => (a (Bool.and_eq_true_iff.mp hin).1).2 hre) hr
      omega
    | false =>
      exact countP_cons_add_le (kept hre).2
        (fun hin => (a (Bool.and_eq_true_iff.mp hin).1).1 hre) (ih hxs hso)

lemma Trace.interval_le (hso : xs.Pairwise fun x y => x.now ≤ y.now) :
    xs.countP (inInterval width t) ≤ 2 * most := by
  induction h with
  | nil count due => simp
  | @cons count c' due due' x xs r kept a rest ih =>
    by_cases hx : t ≤ x.now
    · -- everything from here on is in the interval or after it
      have hal : ∀ y ∈ x :: xs, t ≤ y.now := List.forall_mem_cons.mpr
        ⟨hx, fun y hy => Nat.le_trans hx ((List.pairwise_cons.mp hso).1 y hy)⟩
      have hle := (Trace.cons r kept a rest).interval_from_le hal hso
      omega
    · have hin : inInterval width t x = false := by
        simp only [inInterval, Bool.and_eq_false_iff, decide_eq_false_iff_not]
        exact .inr fun h => hx h.1
      rw [List.countP_cons_of_neg (by simp [hin])]
      exact ih (List.pairwise_cons.mp hso).2

end

end

end Windows
