import Sibna.Lib.Runs

/-!
# Runs with the unseen events taken out

If unseen events lead to a state that cannot be told from the old one, the answers do not depend on
them.
-/

namespace Unwinding

variable {σ ε α : Type}

def advance (call : σ → ε → Option (α × σ)) (o : Option σ) (e : ε) : Option σ :=
  o.bind fun s => (call s e).map Prod.snd

def answers (call : σ → ε → Option (α × σ)) (watched : ε → Bool) : σ → List ε → List α
  | _, [] => []
  | s, e :: es =>
    match call s e with
    | none => []
    | some (a, s') =>
      if watched e then a :: answers call watched s' es else answers call watched s' es

def Meets (call : σ → ε → Option (α × σ)) (ok : σ → ε → Prop) (s : σ) (es : List ε) : Prop :=
  Runs.Guarded (advance call) (fun o e => ∀ s ∈ o, ok s e) (some s) es

instance (call : σ → ε → Option (α × σ)) (ok : σ → ε → Prop) [∀ s e, Decidable (ok s e)] (s : σ)
    (es : List ε) : Decidable (Meets call ok s es) :=
  inferInstanceAs (Decidable (Runs.Guarded _ _ _ _))

structure Unseen (call : σ → ε → Option (α × σ)) (ok : σ → ε → Prop) (seen : ε → Bool)
    (R : σ → σ → Prop) : Prop where
  skip : ∀ {s t e}, R s t → ok s e → seen e = false → ∃ a s', call s e = some (a, s') ∧ R s' t
  agree : ∀ {s t e}, R s t → ok s e → seen e = true →
    (call s e = none ∧ call t e = none) ∨
      ∃ a s' t', call s e = some (a, s') ∧ call t e = some (a, t') ∧ R s' t'

variable {call : σ → ε → Option (α × σ)} {ok : σ → ε → Prop} {s s' t : σ} {e : ε} {es : List ε}
  {a : α}

lemma Meets.next (h : Meets call ok s (e :: es)) (hc : call s e = some (a, s')) :
    Meets call ok s' es := by
  have hn : advance call (some s) e = some s' := by simp [advance, hc]
  rw [Meets, ← hn]
  exact h.2

lemma Meets.and_mem {Q : ε → Prop} (h : Meets call ok s es) (hQ : ∀ e ∈ es, Q e) :
    Meets call (fun s e => ok s e ∧ Q e) s es := by
  have hal : ∀ (o : Option σ) (es : List ε), (∀ e ∈ es, Q e) →
      Runs.Guarded (advance call) (fun o e => ∀ s ∈ o, ok s e) o es →
      Runs.Guarded (advance call) (fun o e => ∀ s ∈ o, ok s e ∧ Q e) o es := by
    intro o es hQ h
    induction es generalizing o with
    | nil => trivial
    | cons e es ih =>
      obtain ⟨he, hQ⟩ := List.forall_mem_cons.mp hQ
      exact ⟨fun s hs => ⟨h.1 s hs, he⟩, ih _ hQ h.2⟩
  exact hal _ es hQ h

variable {R : σ → σ → Prop}

lemma Unseen.answers_filter {seen w : ε → Bool} (h : Unseen call ok seen R)
    (hw : ∀ e, w e = true → seen e = true) (hR : R s t) (hes : Meets call ok s es) :
    answers call w s es = answers call w t (es.filter seen) := by
  induction es generalizing s t with
  | nil => rfl
  | cons e es ih =>
    have hok : ok s e := hes.1 s rfl
    cases hse : seen e with
    | false =>
      obtain ⟨a, s', hc, hR'⟩ := h.skip hR hok hse
      have hn : w e = false := by grind
      simp only [answers, hc, hn, List.filter_cons, hse]
      exact ih hR' (hes.next hc)
    | true =>
      rw [List.filter_cons_of_pos hse]
      rcases h.agree hR hok hse with ⟨hs, ht⟩ | ⟨a, s', t', hs, ht, hR'⟩
      · simp only [answers, hs, ht]
      · simp only [answers, hs, ht, ih hR' (hes.next hs)]

lemma exec_none (es : List ε) : Runs.exec (advance call) none es = none := by
  induction es with
  | nil => rfl
  | cons e es ih => exact ih

lemma Unseen.exec_filter {seen : ε → Bool} (h : Unseen call ok seen R) (hR : R s t)
    (hes : Meets call ok s es) :
    (Runs.exec (advance call) (some s) es = none ∧
        Runs.exec (advance call) (some t) (es.filter seen) = none) ∨
      ∃ s' t', Runs.exec (advance call) (some s) es = some s' ∧
        Runs.exec (advance call) (some t) (es.filter seen) = some t' ∧ R s' t' := by
  induction es generalizing s t with
  | nil => exact .inr ⟨s, t, rfl, rfl, hR⟩
  | cons e es ih =>
    have hok : ok s e := hes.1 s rfl
    have hco (u : σ) (e : ε) (es : List ε) :
      Runs.exec (advance call) (some u) (e :: es) = Runs.exec _ ((call u e).map Prod.snd) es := rfl
    cases hse : seen e with
    | false =>
      obtain ⟨a, s', hc, hR'⟩ := h.skip hR hok hse
      rw [List.filter_cons_of_neg (by simp [hse]), hco, hc]
      exact ih hR' (hes.next hc)
    | true =>
      rw [List.filter_cons_of_pos hse, hco, hco]
      rcases h.agree hR hok hse with ⟨hs, ht⟩ | ⟨a, s', t', hs, ht, hR'⟩
      · rw [hs, ht]
        exact .inl ⟨exec_none es, exec_none _⟩
      · rw [hs, ht]
        exact ih hR' (hes.next hs)

lemma meets_answered (h : (Runs.exec (advance call) (some s) es).isSome) :
    Meets call (fun s e => (call s e).isSome) s es := by
  induction es generalizing s with
  | nil => trivial
  | cons e es ih =>
    change (Runs.exec (advance call) ((call s e).map Prod.snd) es).isSome at h
    cases hc : call s e with
    | none =>
      rw [hc, Option.map_none, exec_none] at h
      cases h
    | some r =>
      rw [hc] at h
      constructor
      · simp_all
      · rw [advance, Option.bind_some, hc]
        exact ih h

lemma Meets.take (h : Meets call ok s es) (n : Nat) : Meets call ok s (es.take n) := by
  rw [Meets, ← List.take_append_drop n es, Runs.guarded_append] at h
  exact h.1

def answerAt (call : σ → ε → Option (α × σ)) : σ → List ε → Nat → Option α
  | _, [], _ => none
  | s, e :: _, 0 => (call s e).map Prod.fst
  | s, e :: es, n + 1 => (call s e).bind fun r => answerAt call r.2 es n

def advanceBoth (call : σ → ε → Option (α × σ)) (o : Option σ × Option σ) (e : ε) :
    Option σ × Option σ :=
  (advance call o.1 e, advance call o.2 e)

def MeetBoth (call : σ → ε → Option (α × σ)) (ok : σ → σ → ε → Prop) (s t : σ) (es : List ε) :
    Prop :=
  Runs.Guarded (advanceBoth call) (fun o e => ∀ s ∈ o.1, ∀ t ∈ o.2, ok s t e) (some s, some t) es

instance (call : σ → ε → Option (α × σ)) (ok : σ → σ → ε → Prop)
    [∀ s t e, Decidable (ok s t e)] (s t : σ) (es : List ε) :
    Decidable (MeetBoth call ok s t es) :=
  inferInstanceAs (Decidable (Runs.Guarded _ _ _ _))

structure Parallel (call : σ → ε → Option (α × σ)) (ok : σ → σ → ε → Prop) (watched : ε → Bool)
    (R : σ → σ → Prop) : Prop where
  step : ∀ {s t e a b s' t'}, R s t → ok s t e → call s e = some (a, s') →
    call t e = some (b, t') → R s' t' ∧ (watched e = true → a = b)

lemma Parallel.answerAt_eq {ok : σ → σ → ε → Prop} {w : ε → Bool}
    (h : Parallel call ok w R) {n : Nat} {b : α} (hR : R s t) (hes : MeetBoth call ok s t es)
    (he : es[n]? = some e) (hw : w e = true) (ha : answerAt call s es n = some a)
    (hb : answerAt call t es n = some b) : a = b := by
  induction es generalizing s t n with
  | nil => cases ha
  | cons e' es ih =>
    have hok : ok s t e' := hes.1 s rfl t rfl
    cases n with
    | zero =>
      cases he
      obtain ⟨r, hr, rfl⟩ := Option.map_eq_some_iff.mp ha
      obtain ⟨r', hr', rfl⟩ := Option.map_eq_some_iff.mp hb
      exact (h.step hR hok hr hr').2 hw
    | succ n =>
      obtain ⟨r, hr, ha⟩ := Option.bind_eq_some_iff.mp ha
      obtain ⟨r', hr', hb⟩ := Option.bind_eq_some_iff.mp hb
      have hn : advanceBoth call (some s, some t) e' = (some r.2, some r'.2) := by
        simp [advanceBoth, advance, hr, hr']
      refine ih (h.step hR hok hr hr').1 ?_ he ha hb
      rw [MeetBoth, ← hn]
      exact hes.2

end Unwinding
