import Mathlib.Logic.Basic

/-!
# Guarded runs

A run is guarded when each event meets a condition at the state in which it happens.
-/

namespace Runs

variable {σ ε : Type}

def exec (step : σ → ε → σ) (s : σ) (es : List ε) : σ := es.foldl step s

def Guarded (step : σ → ε → σ) (ok : σ → ε → Prop) : σ → List ε → Prop
  | _, [] => True
  | s, e :: es => ok s e ∧ Guarded step ok (step s e) es

instance decidableGuarded (step : σ → ε → σ) (ok : σ → ε → Prop) [∀ s e, Decidable (ok s e)] :
    (s : σ) → (es : List ε) → Decidable (Guarded step ok s es)
  | _, [] => isTrue trivial
  | s, e :: es => @instDecidableAnd _ _ _ (decidableGuarded step ok (step s e) es)

variable {step : σ → ε → σ} {ok : σ → ε → Prop}

lemma exec_append (s : σ) (es fs : List ε) :
    exec step s (es ++ fs) = exec step (exec step s es) fs := List.foldl_append

variable {I : σ → Prop} {s : σ} {es : List ε}

lemma guarded_append {fs : List ε} : Guarded step ok s (es ++ fs) ↔ Guarded step ok s es ∧
    Guarded step ok (exec step s es) fs := by
  induction es generalizing s with
  | nil => exact ⟨fun h => ⟨trivial, h⟩, fun h => h.2⟩
  | cons e es ih =>
    simp only [List.cons_append, Guarded, ih, and_assoc]
    rfl

lemma guarded_of_mem {Q : ε → Prop} (s : σ) (hQ : ∀ e ∈ es, Q e) :
    Guarded step (fun _ e => Q e) s es := by
  induction es generalizing s with
  | nil => trivial
  | cons e es ih =>
    exact ⟨hQ e (.head _), ih _ fun e' he' => hQ e' (List.mem_cons_of_mem e he')⟩

section
variable {P Q ok' : σ → ε → Prop}

lemma Guarded.and (h : Guarded step ok s es) (h' : Guarded step ok' s es) :
    Guarded step (fun s e => ok s e ∧ ok' s e) s es := by
  induction es generalizing s with
  | nil => trivial
  | cons e es ih => exact ⟨⟨h.1, h'.1⟩, ih h.2 h'.2⟩

lemma Guarded.and_mem {Q : ε → Prop} (h : Guarded step ok s es) (hQ : ∀ e ∈ es, Q e) :
    Guarded step (fun s e => ok s e ∧ Q e) s es :=
  h.and (guarded_of_mem s hQ)

lemma Guarded.mono (him : ∀ s e, ok s e → ok' s e) (h : Guarded step ok s es) :
    Guarded step ok' s es := by
  induction es generalizing s with
  | nil => trivial
  | cons e es ih => exact ⟨him s e h.1, ih h.2⟩

lemma Guarded.iff (hif : ∀ s e, ok s e → (P s e ↔ Q s e)) (h : Guarded step ok s es) :
    Guarded step P s es ↔ Guarded step Q s es := by
  induction es generalizing s with
  | nil => exact Iff.rfl
  | cons e es ih => exact and_congr (hif s e h.1) (ih h.2)

lemma Guarded.invariant (hst : ∀ s e, I s → ok s e → I (step s e)) (h : Guarded step ok s es)
    (hs : I s) : I (exec step s es) := by
  induction es generalizing s with
  | nil => exact hs
  | cons e es ih => exact ih h.2 (hst s e hs h.1)

lemma exec_invariant (hst : ∀ s e, I s → I (step s e)) (es : List ε) (hs : I s) :
    I (exec step s es) := by
  induction es generalizing s with
  | nil => exact hs
  | cons e es ih => exact ih (hst s e hs)

/-- Where the condition on an event says exactly that the invariant survives it, the invariant holds
in every state of a run as long as the run is guarded. -/
lemma reached_iff_guarded (hok : ∀ s e, I s → (ok s e ↔ I (step s e))) (hs : I s) (es : List ε) :
    (∀ n, I (exec step s (es.take n))) ↔ Guarded step ok s es := by
  induction es generalizing s with
  | nil =>
    refine ⟨fun _ => trivial, fun _ n => ?_⟩
    rwa [List.take_nil]
  | cons e es ih =>
    constructor
    · intro h
      have hn : I (step s e) := h 1
      exact ⟨(hok s e hs).mpr hn, (ih hn).mp fun n => h (n + 1)⟩
    rintro ⟨he, hes⟩ n
    cases n with
    | zero => exact hs
    | succ n => exact (ih ((hok s e hs).mp he)).mpr hes n

lemma Guarded.iff_of_invariant (hif : ∀ s e, I s → ok s e → (P s e ↔ Q s e))
    (hst : ∀ s e, I s → ok s e → Q s e → I (step s e)) (h : Guarded step ok s es) (hs : I s) :
    Guarded step P s es ↔ Guarded step Q s es := by
  induction es generalizing s with
  | nil => exact Iff.rfl
  | cons e es ih =>
    have he := hif s e hs h.1
    constructor
    · rintro ⟨hP, hPs⟩
      have hQ := he.mp hP
      exact ⟨hQ, (ih h.2 (hst s e hs h.1 hQ)).mp hPs⟩
    · rintro ⟨hQ, hQs⟩
      exact ⟨he.mpr hQ, (ih h.2 (hst s e hs h.1 hQ)).mpr hQs⟩

end

lemma guarded_project {τ : Type} {step' : τ → ε → τ} {f : τ → σ}
    (hf : ∀ t e, f (step' t e) = step (f t) e) (t : τ) (es : List ε) :
    Guarded step ok (f t) es ↔ Guarded step' (fun t e => ok (f t) e) t es := by
  induction es generalizing t with
  | nil => exact Iff.rfl
  | cons e es ih =>
    refine and_congr_right fun _ => ?_
    rw [← hf]
    exact ih _

section
variable {α : Type}

def Throughout (P : α → List α → Prop) : List α → Prop
  | [] => True
  | x :: log => P x log ∧ Throughout P log

section
variable (Q : α → List α → Prop) {P : α → List α → Prop}

lemma Throughout.entry {x : α} {later ea : List α} (h : Throughout P (later ++ x :: ea)) : P x ea :=
    by
  induction later with
  | nil => exact h.1
  | cons y later ih => exact ih h.2

lemma Throughout.of_mem {x : α} {log : List α} (h : Throughout P log) (hx : x ∈ log) :
    ∃ later earlier, log = later ++ x :: earlier ∧ P x earlier := by
  obtain ⟨later, earlier, rfl⟩ := List.append_of_mem hx
  exact ⟨later, earlier, rfl, h.entry⟩

lemma earlier_or_earlier {x y : α} {log : List α} (hx : x ∈ log) (hy : y ∈ log) (hne : x ≠ y) :
    (∃ later earlier, log = later ++ y :: earlier ∧ x ∈ earlier) ∨ ∃ later earlier,
    log = later ++ x :: earlier ∧ y ∈ earlier := by
  obtain ⟨later, earlier, rfl⟩ := List.append_of_mem hy
  rcases List.mem_append.mp hx with hx | hx
  · obtain ⟨l₁, l₂, rfl⟩ := List.append_of_mem hx
    refine .inr ⟨l₁, l₂ ++ y :: earlier, by simp, ?_⟩
    exact List.mem_append_right _ (.head _)
  · exact .inl ⟨later, earlier, rfl, List.mem_of_ne_of_mem hne hx⟩

def Afterwards (log : List α) : Prop :=
  ∀ later x earlier, log = later ++ x :: earlier → Q x later

lemma Afterwards.nil : Afterwards Q [] := by
  intro l x ea h
  have hl := congrArg List.length h
  simp at hl

end

lemma Afterwards.cons {Q Q' : α → List α → Prop} {z : α} {log : List α} (h : Afterwards Q log)
    (hn : Q' z []) (ho : ∀ x ∈ log, ∀ later, Q x later → Q' x (z :: later)) :
    Afterwards Q' (z :: log) := by
  intro later x ea heq
  cases later with
  | nil =>
    cases heq
    exact hn
  | cons y later =>
    cases heq
    exact ho x (List.mem_append_right _ (.head _)) later (h later x ea rfl)

end

end Runs
