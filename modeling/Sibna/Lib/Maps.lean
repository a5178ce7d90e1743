import Mathlib.Data.List.AList

/-! # Maps that are filtered and counted -/

namespace Maps

variable {α : Type} {β : α → Type} [DecidableEq α] (s : AList β) (a : α)

lemma lookup_erase_some {s : AList β} {a a' : α} {b : β a'} (h : (s.erase a).lookup a' = some b) :
    a' ≠ a ∧ s.lookup a' = some b := by
  by_cases ha : a' = a
  · subst ha
    rw [AList.lookup_erase] at h
    cases h
  · simp_all

lemma lookup_insert_some {γ : Type} {s : AList fun _ : α => γ} {a a' : α} {b b' : γ}
    (h : (s.insert a b).lookup a' = some b') :
    (a' = a ∧ b' = b) ∨ (a' ≠ a ∧ s.lookup a' = some b') := by
  by_cases ha : a' = a
  · rw [ha, AList.lookup_insert, Option.some.injEq] at h
    exact .inl ⟨ha, h.symm⟩
  · simp_all

lemma lookup_filter (keep : Sigma β → Bool) :
    (s.entries.filter keep).toAList.lookup a = (s.lookup a).filter fun b => keep ⟨a, b⟩ := by
  have hn := s.nodupKeys
  rw [AList.lookup_to_alist]
  ext b
  rw [← Option.mem_def, List.mem_dlookup_iff (hn.sublist List.filter_sublist), List.mem_filter,
    Option.filter_eq_some_iff, ← Option.mem_def]
  exact and_congr_left fun _ => (List.mem_dlookup_iff hn).symm

lemma forall_mem_entries {P : (a : α) → β a → Prop} :
    (∀ entry ∈ s.entries, P entry.1 entry.2) ↔ ∀ a b, s.lookup a = some b → P a b := by
  constructor
  · intro h a b hb
    exact h ⟨a, b⟩ (AList.mem_lookup_iff.mp hb)
  · rintro h ⟨a, b⟩ hen
    exact h a b (AList.mem_lookup_iff.mpr hen)

lemma length_keys_insert (b : β a) :
    (s.insert a b).keys.length =
      if (s.lookup a).isSome then s.keys.length else s.keys.length + 1 := by
  rw [AList.keys_insert, List.length_cons]
  split
  · rename_i hso
    have hm : a ∈ s.keys := AList.lookup_isSome.mp hso
    have hpo := List.length_pos_of_mem hm
    rw [List.length_erase_of_mem hm]
    omega
  · rename_i hn
    have hm : a ∉ s.keys := fun hm => hn (AList.lookup_isSome.mpr hm)
    rw [List.erase_of_not_mem hm]

lemma length_keys_erase_le : (s.erase a).keys.length ≤ s.keys.length := by
  rw [AList.keys_erase]
  exact List.length_erase_le

end Maps
