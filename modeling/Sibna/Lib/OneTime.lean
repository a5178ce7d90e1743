import Mathlib.Data.List.Basic
import Sibna.Lib.Runs

/-!
# Items handed out once

Consumers look which keys are there and take them one by one. If nobody looks at or puts to a key in
between, every item is handed out once.
-/

namespace OneTime

inductive Act (κ : Type) where
  | put (key : κ)
  | drop (key : κ)
  | look (keys : List κ)
  | take (key : κ) (done : Bool)
  | answer (handedOut : Bool)
  | other

variable {κ : Type}

namespace Act

def looked : Act κ → List κ
  | look keys => keys
  | _ => []

def taken : Act κ → Option κ
  | take key _ => some key
  | _ => none

def isAnswer : Act κ → Bool
  | answer _ => true
  | _ => false

def isPut : Act κ → Bool
  | put _ => true
  | _ => false

end Act

abbrev Log (κ : Type) := List (Nat × Act κ)

section
variable (i : Nat) (key : κ) (log : Log κ)

def Looked : Prop := ∃ x ∈ log, x.1 = i ∧ key ∈ x.2.looked

def Taken : Prop := ∃ x ∈ log, x.1 = i ∧ x.2.taken = some key

def Answered : Prop := ∃ x ∈ log, x.1 = i ∧ x.2.isAnswer = true

def Putter : Prop := ∃ x ∈ log, x.1 = i ∧ x.2.isPut = true

def Busy : Prop :=
  Looked i key log ∧ ¬ Taken i key log ∧ ¬ Answered i log

def Free : Prop := ∀ x ∈ log, ¬ Busy x.1 key log

lemma Free.not_busy {key : κ} {log : Log κ} (h : Free key log) (i : Nat) : ¬ Busy i key log := by
  intro hb
  obtain ⟨x, hx, rfl, -⟩ := hb.1
  exact h x hx hb

/-- Everyone who has looked at the key has been answered. -/
def Settled : Prop := ∀ x ∈ log, Looked x.1 key log → Answered x.1 log

lemma Settled.answered {i : Nat} {key : κ} {log : Log κ} (h : Settled key log)
    (hl : Looked i key log) : Answered i log := by
  obtain ⟨x, hx, rfl, -⟩ := id hl
  exact h x hx hl

lemma Settled.free {key : κ} {log : Log κ} (h : Settled key log) : Free key log :=
  fun x hx hb => hb.2.2 (h x hx hb.1)

def Released : Prop := Answered i log ∧ ¬ Taken i key log

end

section
variable {i : Nat} {key : κ} {x : Nat × Act κ} {log : Log κ}

lemma looked_cons : Looked i key (x :: log) ↔ (x.1 = i ∧ key ∈ x.2.looked) ∨ Looked i key log := by
  simp [Looked]

lemma taken_cons : Taken i key (x :: log) ↔ (x.1 = i ∧ x.2.taken = some key) ∨ Taken i key log := by
  simp [Taken]

lemma answered_cons : Answered i (x :: log) ↔ (x.1 = i ∧ x.2.isAnswer = true) ∨ Answered i log := by
  simp [Answered]

end

variable [DecidableEq κ]

instance (key : κ) (log : Log κ) : Decidable (Free key log) := by
  unfold Free Busy Looked Taken Answered
  infer_instance

instance (key : κ) (log : Log κ) : Decidable (Settled key log) := by
  unfold Settled Looked Answered
  infer_instance

def holder (key : κ) : Log κ → Option Nat
  | [] => none
  | (i, .put k) :: log => if k = key then some i else holder key log
  | (_, .drop k) :: log => if k = key then none else holder key log
  | (_, .take k true) :: log => if k = key then none else holder key log
  | _ :: log => holder key log

def Found (i : Nat) (key : κ) (j : Nat) : Log κ → Prop
  | [] => False
  | x :: log => (x.1 = i ∧ key ∈ x.2.looked ∧ holder key log = some j) ∨ Found i key j log

instance decidableFound (i : Nat) (key : κ) (j : Nat) : (log : Log κ) →
    Decidable (Found i key j log)
  | [] => isFalse fun h => h
  | x :: log =>
    @instDecidableOr (x.1 = i ∧ key ∈ x.2.looked ∧ holder key log = some j) (Found i key j log) _
      (decidableFound i key j log)

def Took (i : Nat) (key : κ) (j : Nat) : Log κ → Prop
  | [] => False
  | x :: log => (x = (i, .take key true) ∧ holder key log = some j) ∨ Took i key j log

def Allowed (watched : κ → Prop) (i : Nat) (log : Log κ) : Act κ → Prop
  | .put key => ¬ Putter i log ∧ (watched key → Free key log)
  | .look keys => ¬ Answered i log ∧ (∀ key, ¬ Looked i key log) ∧
      ∀ key ∈ keys, (holder key log).isSome ∧ (watched key → Free key log)
  | .take key done => Busy i key log ∧ (watched key → done = true)
  | .answer handedOut => handedOut = true → ∀ key, Looked i key log → Taken i key log
  | .drop _ => True
  | .other => True

abbrev Run (watched : κ → Prop) : Log κ → Prop :=
  Runs.Throughout fun x log => Allowed watched x.1 log x.2

section
variable {key : κ} {log : Log κ} {i j : Nat}

lemma holder_cons (key : κ) (x : Nat × Act κ) (log : Log κ) :
    holder key (x :: log) = holder key log ∨ (x.2 = .put key ∧ holder key (x :: log) = some x.1) ∨
    holder key (x :: log) = none := by
  obtain ⟨i, a⟩ := x
  cases a with
  | put k =>
    by_cases hk : k = key
    · subst hk
      exact .inr (.inl ⟨rfl, if_pos rfl⟩)
    · exact .inl (if_neg hk)
  | drop k =>
    by_cases hk : k = key
    · exact .inr (.inr (if_pos hk))
    · exact .inl (if_neg hk)
  | take k done =>
    cases done with
    | false => exact .inl rfl
    | true =>
      by_cases hk : k = key
      · exact .inr (.inr (if_pos hk))
      · exact .inl (if_neg hk)
  | look | answer | other => exact .inl rfl

lemma put_of_holder (h : holder key log = some j) : (j, .put key) ∈ log := by
  induction log with
  | nil => cases h
  | cons x log ih =>
    rcases holder_cons key x log with heq | ⟨hpu, heq⟩ | heq
    · exact List.mem_cons_of_mem x (ih (heq ▸ h))
    · grind
    · rw [heq] at h
      cases h

lemma Found.looked (h : Found i key j log) : Looked i key log := by
  induction log with
  | nil => exact h.elim
  | cons x log ih =>
    rw [looked_cons]
    rcases h with ⟨hi, hk, -⟩ | h
    · exact .inl ⟨hi, hk⟩
    · exact .inr (ih h)

lemma Found.put (h : Found i key j log) : (j, .put key) ∈ log := by
  induction log with
  | nil => exact h.elim
  | cons x log ih =>
    rcases h with ⟨-, -, hho⟩ | h
    · exact List.mem_cons_of_mem x (put_of_holder hho)
    · exact List.mem_cons_of_mem x (ih h)

end

section
variable {watched : κ → Prop} {key : κ} {log : Log κ} {i i' j : Nat}

section
variable (hr : Run watched log)
include hr

lemma Run.put_once {key' : κ} (h : (j, .put key) ∈ log) (h' : (j, .put key') ∈ log) :
    key = key' := by
  induction log with
  | nil => cases h
  | cons x log ih =>
    obtain ⟨hal, hr⟩ := hr
    rcases List.mem_cons.mp h with rfl | hl
    · rcases List.mem_cons.mp h' with heq | hl'
      · cases heq
        rfl
      · exact absurd ⟨_, hl', rfl, rfl⟩ hal.1
    · rcases List.mem_cons.mp h' with rfl | hl'
      · exact absurd ⟨_, hl, rfl, rfl⟩ hal.1
      · exact ih hr hl hl'

lemma Run.looked_of_taken (h : Taken i key log) : Looked i key log := by
  induction log with
  | nil =>
    obtain ⟨x, hx, -⟩ := h
    cases hx
  | cons x log ih =>
    rw [looked_cons]
    rcases taken_cons.mp h with ⟨hi, hta⟩ | h
    · obtain ⟨i₀, a⟩ := x
      cases a with
      | take k done =>
        obtain rfl := hi
        cases hta
        exact .inr hr.1.1.1
      | _ => cases hta
    · exact .inr (ih hr.2 h)

lemma Run.gone (hk : watched key) (hfo : Found i key j log) (hta : Taken i key log) :
    holder key log ≠ some j := by
  induction log with
  | nil => exact hfo.elim
  | cons x log ih =>
    obtain ⟨hal, hr⟩ := hr
    obtain ⟨i₀, a⟩ := x
    -- where the act is no look of this consumer and no take of the key, the two facts are older
    have o : ∀ hf : Found i key j log, Taken i key log → holder key ((i₀, a) :: log) ≠ some j := by
      intro hf ht hho
      rcases holder_cons key _ log with heq | ⟨hpu, heq⟩ | heq
      · exact ih hr hf ht (heq ▸ hho)
      · obtain rfl := hpu
        cases heq.symm.trans hho
        exact hal.1 ⟨_, hf.put, rfl, rfl⟩
      · simp_all
    rcases hfo with ⟨hi, hl, -⟩ | hfo
    · cases a with
      | look keys =>
        obtain rfl := hi
        have hta : Taken i₀ key log := by
          rcases taken_cons.mp hta with ⟨-, h⟩ | h
          · cases h
          · exact h
        exact absurd (Run.looked_of_taken hr hta) (hal.2.1 key)
      | _ => exact absurd hl List.not_mem_nil
    · rcases taken_cons.mp hta with ⟨hi, hta⟩ | hta
      · cases a with
        | take k done =>
          cases hta
          obtain rfl := hal.2 hk
          rw [holder, if_pos rfl]
          exact nofun
        | _ => cases hta
      · exact o hfo hta

lemma Run.held (hk : watched key) (hf : Found i key j log) (hb : Busy i key log) :
    holder key log = some j ∨ holder key log = none := by
  induction log with
  | nil => exact hf.elim
  | cons x log ih =>
    obtain ⟨hal, hr⟩ := hr
    obtain ⟨-, hta, han⟩ := hb
    rcases hf with ⟨hi, hl, hho⟩ | hf
    · obtain ⟨i₀, a⟩ := x
      cases a with
      | look keys => exact .inl hho
      | _ => exact absurd hl List.not_mem_nil
    · have hb : Busy i key log :=
        ⟨hf.looked, fun h => hta (taken_cons.mpr (.inr h)),
          fun h => han (answered_cons.mpr (.inr h))⟩
      rcases holder_cons key x log with heq | ⟨hpu, -⟩ | heq
      · simp_all
      · obtain ⟨i₀, a⟩ := x
        obtain rfl := hpu
        exact absurd hb ((hal.2 hk).not_busy i)
      · exact .inr heq

end

lemma Released.cons {x : Nat × Act κ} (hal : Allowed watched x.1 log x.2)
    (h : Released i key log) : Released i key (x :: log) := by
  obtain ⟨han, hta⟩ := h
  refine ⟨answered_cons.mpr (.inr han), fun hco => ?_⟩
  rcases taken_cons.mp hco with ⟨hi, hx⟩ | ho
  · obtain ⟨i₀, a⟩ := x
    cases a with
    | take k done =>
      obtain rfl := hi
      exact hal.1.2.2 han
    | _ => cases hx
  · exact hta ho

section
variable (hr : Run watched log)
include hr

lemma Run.released (hk : watched key) (hne : i ≠ i') (hf : Found i key j log)
    (hf' : Found i' key j log) : Released i key log ∨ Released i' key log := by
  induction log with
  | nil => exact hf.elim
  | cons x log ih =>
    obtain ⟨hal, hr⟩ := hr
    -- the later of the two looked when the earlier was no longer busy
    have l : ∀ {i i'}, x.1 = i' → key ∈ x.2.looked → holder key log = some j →
        Found i key j log → Released i key (x :: log) := by
      intro i i' _ hl hho hf
      refine Released.cons hal ?_
      have hta := fun h => Run.gone hr hk hf h hho
      have hb : ¬ Busy i key log := by
        obtain ⟨i₀, a⟩ := x
        cases a with
        | look keys => exact ((hal.2.2 key hl).2 hk).not_busy i
        | _ => exact absurd hl List.not_mem_nil
      refine ⟨?_, hta⟩
      by_contra han
      exact hb ⟨hf.looked, hta, han⟩
    rcases hf with ⟨hi, hl, hho⟩ | hf
    · rcases hf' with ⟨hi', -, -⟩ | hf'
      · exact absurd (hi.symm.trans hi') hne
      · exact .inr (l hi hl hho hf')
    rcases hf' with ⟨hi', hl, hho⟩ | hf'
    · exact .inl (l hi' hl hho hf)
    · rcases ih hr hf hf' with h | h
      · exact .inl (h.cons hal)
      · exact .inr (h.cons hal)

lemma Run.taken_of_answer (h : (i, .answer true) ∈ log) (hl : Looked i key log) :
    Taken i key log := by
  induction log with
  | nil => cases h
  | cons x log ih =>
    obtain ⟨hal, hr⟩ := hr
    rw [taken_cons]
    rcases List.mem_cons.mp h with rfl | hlo
    · rcases looked_cons.mp hl with ⟨-, hm⟩ | hl
      · cases hm
      · exact .inr (hal rfl key hl)
    rcases looked_cons.mp hl with ⟨hi, hm⟩ | hl
    · obtain ⟨i₀, a⟩ := x
      cases a with
      | look keys =>
        obtain rfl := hi
        have han : Answered i₀ log := ⟨(i₀, .answer true), hlo, rfl, rfl⟩
        exact absurd han hal.1
      | _ => exact absurd hm List.not_mem_nil
    · exact .inr (ih hr hlo hl)

lemma Run.handed_out_once {key' : κ} (hk : watched key) (hf : Found i key j log)
    (hf' : Found i' key' j log) (h : (i, .answer true) ∈ log) (h' : (i', .answer true) ∈ log) :
    i = i' := by
  by_contra hne
  obtain rfl := hr.put_once hf.put hf'.put
  rcases hr.released hk hne hf hf' with hre | hre
  · exact hre.2 (hr.taken_of_answer h hf.looked)
  · exact hre.2 (hr.taken_of_answer h' hf'.looked)

lemma Run.exists_found (h : Looked i key log) : ∃ j, Found i key j log := by
  induction log with
  | nil =>
    obtain ⟨x, hx, -⟩ := h
    cases hx
  | cons x log ih =>
    obtain ⟨hal, hr⟩ := hr
    rcases looked_cons.mp h with ⟨hi, hm⟩ | h
    · obtain ⟨i₀, a⟩ := x
      cases a with
      | look keys =>
        obtain ⟨j, hj⟩ := Option.isSome_iff_exists.mp (hal.2.2 key hm).1
        exact ⟨j, .inl ⟨hi, hm, hj⟩⟩
      | _ => exact absurd hm List.not_mem_nil
    · obtain ⟨j, hj⟩ := ih hr h
      exact ⟨j, .inr hj⟩

lemma Run.found_of_took (hk : watched key) (h : Took i key j log) : Found i key j log := by
  induction log with
  | nil => exact h.elim
  | cons x log ih =>
    obtain ⟨hal, hr⟩ := hr
    rcases h with ⟨rfl, hho⟩ | h
    · have hb := hal.1
      obtain ⟨j', hf⟩ := Run.exists_found hr hb.1
      rcases Run.held hr hk hf hb with heq | heq
      · cases heq.symm.trans hho
        exact .inr hf
      · simp_all
    · exact .inr (ih hr h)

end

end

end OneTime
