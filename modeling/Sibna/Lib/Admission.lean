import Mathlib.Data.List.Basic
import Sibna.Lib.Runs

/-!
# Check, then commit

If nobody checks an id between the check and the commit of a thread, what it saw at the check is
still so at the commit.
-/

namespace Admission

inductive Act (ι τ : Type) where
  | check (id : ι) (refused : Bool)
  | commit (id : ι) (time : τ)
  | close
  | other

variable {ι τ : Type}

namespace Act

def passed : Act ι τ → Option ι
  | check id false => some id
  | _ => none

def committed : Act ι τ → Option (ι × τ)
  | commit id time => some (id, time)
  | _ => none

def isCheck : Act ι τ → Bool
  | check _ _ => true
  | _ => false

def ends : Act ι τ → Bool
  | commit _ _ => true
  | close => true
  | _ => false

lemma eq_check_of_passed {a : Act ι τ} {id : ι} (h : a.passed = some id) : a = .check id false := by
  cases a with
  | check id' r =>
    cases r with
    | true => cases h
    | false =>
      cases h
      rfl
  | _ => cases h

lemma eq_commit_of_committed {a : Act ι τ} {id : ι} {time : τ}
    (h : a.committed = some (id, time)) : a = .commit id time := by
  cases a with
  | commit id' time' =>
    cases Option.some.inj h
    rfl
  | _ => cases h

end Act

abbrev Log (ι τ : Type) := List (Nat × Act ι τ)

section
variable (i : Nat) (id : ι) (log : Log ι τ)

def Passed : Prop := ∃ x ∈ log, x.1 = i ∧ x.2.passed = some id

def Committed (time : τ) (log : Log ι τ) : Prop :=
  ∃ x ∈ log, x.1 = i ∧ x.2.committed = some (id, time)

def Ended : Prop := ∃ x ∈ log, x.1 = i ∧ x.2.ends = true

def Checked : Prop := ∃ x ∈ log, x.1 = i ∧ x.2.isCheck = true

def Open : Prop := Passed i id log ∧ ¬ Ended i log

def Vacant : Prop := ∀ x ∈ log, x.1 ≠ i → ¬ Open x.1 id log

end

instance [DecidableEq ι] (i : Nat) (id : ι) (log : Log ι τ) : Decidable (Vacant i id log) := by
  unfold Vacant Open Passed Ended
  infer_instance

def Allowed (i : Nat) (log : Log ι τ) : Act ι τ → Prop
  | .check id _ => ¬ Checked i log ∧ Vacant i id log
  | .commit id _ => Open i id log
  | .close => True
  | .other => True

abbrev Run : Log ι τ → Prop := Runs.Throughout fun x log => Allowed x.1 log x.2

section
variable {i : Nat} {id : ι} {time : τ} {x : Nat × Act ι τ} {log : Log ι τ}

lemma passed_cons :
    Passed i id (x :: log) ↔ (x.1 = i ∧ x.2.passed = some id) ∨ Passed i id log := by
  simp [Passed]

lemma committed_cons : Committed i id time (x :: log) ↔
    (x.1 = i ∧ x.2.committed = some (id, time)) ∨ Committed i id time log := by
  simp [Committed]

lemma ended_cons : Ended i (x :: log) ↔ (x.1 = i ∧ x.2.ends = true) ∨ Ended i log := by
  simp [Ended]

end

section
variable {log : Log ι τ} {i j : Nat} {id : ι} {time : τ}

lemma Vacant.eq_of_open (h : Vacant i id log) (ho : Open j id log) : j = i := by
  by_contra hne
  obtain ⟨⟨x, hx, rfl, hpa⟩, hen⟩ := ho
  exact h x hx hne ⟨⟨x, hx, rfl, hpa⟩, hen⟩

lemma open_cons {x : Nat × Act ι τ} (h : Open i id (x :: log)) :
    Open i id log ∨ x = (i, .check id false) := by
  obtain ⟨hpa, hen⟩ := h
  have he' : ¬ Ended i log := fun h => hen (ended_cons.mpr (.inr h))
  rcases passed_cons.mp hpa with ⟨hi, hx⟩ | hpa
  · exact .inr (Prod.ext hi (Act.eq_check_of_passed hx))
  · exact .inl ⟨hpa, he'⟩

lemma Run.open_unique (hr : Run log) (hi : Open i id log) (hj : Open j id log) : i = j := by
  induction log with
  | nil =>
    obtain ⟨⟨x, hx, -⟩, -⟩ := hi
    cases hx
  | cons x log ih =>
    obtain ⟨hal, hr⟩ := hr
    rcases open_cons hi with hi' | rfl
    · rcases open_cons hj with hj' | rfl
      · exact ih hr hi' hj'
      · exact hal.2.eq_of_open hi'
    · rcases open_cons hj with hj' | heq
      · exact (hal.2.eq_of_open hj').symm
      · exact (Prod.mk.inj heq).1

lemma Run.committed_before {later ea : Log ι τ}
    (hr : Run (later ++ (i, .check id false) :: ea))
    (hen : ¬ Ended i (later ++ (i, .check id false) :: ea))
    (hco : Committed j id time (later ++ (i, .check id false) :: ea)) :
    Committed j id time ea := by
  induction later with
  | nil =>
    rcases committed_cons.mp hco with ⟨-, hcm⟩ | hco
    · cases hcm
    · exact hco
  | cons x later ih =>
    obtain ⟨hal, hr⟩ := hr
    have he' := fun h => hen (ended_cons.mpr (.inr h))
    rcases committed_cons.mp hco with ⟨hj, hx⟩ | hco
    · -- both threads would be open at the commit
      obtain ⟨i₀, a⟩ := x
      obtain rfl := Act.eq_commit_of_committed hx
      have ho : Open i id (later ++ (i, .check id false) :: ea) :=
        ⟨⟨_, List.mem_append_right _ (.head _), rfl, rfl⟩, he'⟩
      have heq := Run.open_unique hr ho hal
      exact absurd (ended_cons.mpr (.inl ⟨heq.symm, rfl⟩)) hen
    · exact ih hr he' hco

def Refuses (x : Nat × Act ι τ) (log : Log ι τ) : Prop :=
  ∀ id, x.2.passed = some id → ∀ j time, ¬ Committed j id time log

lemma Run.not_committed_of_open (hr : Run log) (hre : Runs.Throughout Refuses log)
    (ho : Open i id log) : ¬ Committed j id time log := by
  obtain ⟨⟨⟨i₀, a⟩, hx, rfl, ha⟩, hen⟩ := ho
  obtain rfl := Act.eq_check_of_passed ha
  obtain ⟨l, ea, rfl⟩ := List.append_of_mem hx
  intro hco
  exact hre.entry id rfl j time (Run.committed_before hr hen hco)

lemma Run.committed_nodup (hr : Run log) (hre : Runs.Throughout Refuses log) :
    (log.filterMap fun x => x.2.committed.map Prod.fst).Nodup := by
  induction log with
  | nil => exact List.nodup_nil
  | cons x log ih =>
    obtain ⟨hal, hr⟩ := hr
    obtain ⟨-, hre⟩ := hre
    obtain ⟨i, a⟩ := x
    cases a with
    | commit id time =>
      refine List.nodup_cons.mpr ⟨fun hm => ?_, ih hr hre⟩
      obtain ⟨y, hy, hid⟩ := List.mem_filterMap.mp hm
      obtain ⟨⟨id', time'⟩, hco, rfl⟩ := Option.map_eq_some_iff.mp hid
      exact Run.not_committed_of_open hr hre hal ⟨y, hy, rfl, hco⟩
    | check | close | other => exact ih hr hre

end

end Admission
