import Mathlib.Data.List.Basic

/-!
# Cursors on streams

As long as no two cursors stand on one stream and each is ahead of what was read, nothing is read
twice.
-/

namespace Cursors

structure Readers (ι ω : Type) where
  cursor : ι → Option (ω × Nat)
  log : List (ω × Nat)

namespace Readers
variable {ι ω : Type} {R : Readers ι ω}

structure Apart (R : Readers ι ω) : Prop where
  eq_of_stream : ∀ {i j o n m}, R.cursor i = some (o, n) → R.cursor j = some (o, m) → i = j
  behind : ∀ {i o n m}, R.cursor i = some (o, n) → (o, m) ∈ R.log → m < n
  nodup : R.log.Nodup

def Mentions (R : Readers ι ω) (o : ω) : Prop :=
  (∃ i n, R.cursor i = some (o, n)) ∨ ∃ n, (o, n) ∈ R.log

section
variable [DecidableEq ι]

section
variable (R : Readers ι ω) (i : ι) (q : Option (ω × Nat))

def place : Readers ι ω :=
  { R with cursor := Function.update R.cursor i q }

def read (p : ω × Nat) : Readers ι ω :=
  { R.place i (some (p.1, p.2 + 1)) with log := R.log ++ [p] }

@[simp] lemma place_cursor_self : (R.place i q).cursor i = q := Function.update_self ..

@[simp] lemma place_place (q' : Option (ω × Nat)) : (R.place i q).place i q' = R.place i q' := by
  simp only [place, Function.update_idem]

@[simp] lemma place_read (p : ω × Nat) (q : Option (ω × Nat)) :
    (R.place i q).read i p = R.read i p := by
  simp only [read, place_place]
  rfl

end

lemma mentions_place {i : ι} {q : Option (ω × Nat)} {o : ω} (h : (R.place i q).Mentions o) :
    R.Mentions o ∨ ∃ n, q = some (o, n) := by
  rcases h with ⟨j, n, hj⟩ | hl
  · by_cases hji : j = i
    · simp_all
    · refine .inl (.inl ⟨j, n, ?_⟩)
      simpa [place, Function.update_of_ne hji] using hj
  · exact .inl (.inr hl)

lemma mentions_read {i : ι} {p : ω × Nat} (hp : R.cursor i = some p) {o : ω}
    (h : (R.read i p).Mentions o) : R.Mentions o := by
  have hcu : R.Mentions p.1 := .inl ⟨i, p.2, hp⟩
  rcases h with hj | ⟨n, hn⟩
  · rcases mentions_place (R := R) (i := i) (.inl hj) with ho | ⟨n, hn⟩
    · exact ho
    · cases hn
      exact hcu
  · rcases List.mem_append.mp hn with ho | hne
    · exact .inr ⟨n, ho⟩
    · grind

namespace Apart

lemma place (h : R.Apart) {i : ι} {q : Option (ω × Nat)}
    (ho : ∀ o n, q = some (o, n) → ∀ j m, j ≠ i → R.cursor j ≠ some (o, m))
    (hl : ∀ o n, q = some (o, n) → ∀ m, (o, m) ∈ R.log → m < n) : (R.place i q).Apart where
  eq_of_stream := by
    intro j k o n m hj hk
    by_cases hji : j = i
    · by_cases hki : k = i
      · rw [hji, hki]
      · subst hji
        simp only [Readers.place, Function.update_self, Function.update_of_ne hki] at hj hk
        exact absurd hk (ho o n hj k m hki)
    · by_cases hki : k = i
      · subst hki
        simp only [Readers.place, Function.update_self, Function.update_of_ne hji] at hj hk
        exact absurd hj (ho o m hk j n hji)
      · simp only [Readers.place, Function.update_of_ne hji, Function.update_of_ne hki] at hj hk
        exact h.eq_of_stream hj hk
  behind := by
    intro j o n m hj hm
    by_cases hji : j = i
    · subst hji
      simp only [Readers.place, Function.update_self] at hj
      exact hl o n hj m hm
    · simp only [Readers.place, Function.update_of_ne hji] at hj
      exact h.behind hj hm
  nodup := h.nodup

lemma close (h : R.Apart) (i : ι) : (R.place i none).Apart := by
  apply h.place
  · rintro o n ⟨⟩
  · rintro o n ⟨⟩

lemma advance (h : R.Apart) {i : ι} {o : ω} {n m : Nat} (hi : R.cursor i = some (o, n))
    (hnm : n ≤ m) : (R.place i (some (o, m))).Apart := by
  apply h.place
  · intro o' n' ho j k hj hk
    cases ho
    exact hj (h.eq_of_stream hk hi)
  · intro o' n' ho k hk
    cases ho
    exact Nat.lt_of_lt_of_le (h.behind hi hk) hnm

lemma start (h : R.Apart) (i : ι) {o : ω} (n : Nat) (ho : ¬ R.Mentions o) :
    (R.place i (some (o, n))).Apart := by
  apply h.place
  · intro o' n' ho' j m _ hj
    cases ho'
    exact ho (.inl ⟨j, m, hj⟩)
  · intro o' n' ho' m hm
    cases ho'
    exact absurd (.inr ⟨m, hm⟩) ho

lemma read (h : R.Apart) {i : ι} {p : ω × Nat} (hi : R.cursor i = some p) : (R.read i p).Apart where
  eq_of_stream := (h.advance hi (Nat.le_succ p.2)).eq_of_stream
  behind := by
    intro j o n m hj hm
    have hmo := h.advance hi (Nat.le_succ p.2)
    rcases List.mem_append.mp hm with ho | hne
    · exact hmo.behind hj ho
    · -- The entry just read: only the reader itself stands on its stream.
      cases List.mem_singleton.mp hne
      have hse : (R.place i (some (o, m + 1))).cursor i = some (o, m + 1) := by
        simp [Readers.place]
      have hji : j = i := hmo.eq_of_stream hj hse
      subst hji
      have hn : (o, m + 1) = (o, n) := by simpa [Readers.read, Readers.place] using hj
      cases hn
      exact Nat.lt_succ_self m
  nodup := by
    refine List.nodup_append.mpr ⟨h.nodup, by simp, ?_⟩
    intro q hq q' hq' heq
    rw [List.mem_singleton.mp hq'] at heq
    subst heq
    exact Nat.lt_irrefl _ (h.behind hi hq)

end Apart

end

end Readers

end Cursors
