import Sibna.Server.Registry

/-!
# Envelopes that are dropped

`route_message` records the message id before it looks at the signature.
-/

namespace Sibna.Server.Relay

open Interleaving Text

def routeAlone (ed : Ed25519) (s : Shared) (env : Nat → OpEnv) (senderId : Bytes)
    (envelope : SealedEnvelope) : Routing × Shared :=
  (((routeMessage ed senderId envelope).run act env s).1,
    ((routeMessage ed senderId envelope).run act env s).2.1)

section
variable (s : Shared) (env : Nat → OpEnv) (messageId : Bytes)

def Unchanged (s' : Shared) : Prop :=
  (∀ key, s'.tableDedup.lookup key = s.tableDedup.lookup key) ∧ s'.tableQueue = s.tableQueue ∧
    s'.sent = s.sent

def found : Option Bytes :=
  if (env 0).access.fails then none else s.tableDedup.lookup (dedupKey messageId)

def Duplicate : Prop :=
  match found s env messageId with
  | none => False
  | some record => Live record (env 1).clock

end

instance (s : Shared) (env : Nat → OpEnv) (messageId : Bytes) :
    Decidable (Duplicate s env messageId) := by
  unfold Duplicate
  split <;> infer_instance

def lookupSteps : Option Bytes → Nat
  | none => 1
  | some record => if record.length = 8 then 3 else 2

section
variable (s : Shared) (env : Nat → OpEnv) (messageId : Bytes)

def Shared.dedup (access : Access) (op : TreeOp Bytes) : Shared :=
  { s with tableDedup := (Table.act access op s.tableDedup).2 }

def cleared : Shared :=
  match found s env messageId with
  | none => s
  | some record =>
    s.dedup (env (lookupSteps (some record) - 1)).access (.remove (dedupKey messageId))

def stamped : Shared :=
  (cleared s env messageId).dedup (env (lookupSteps (found s env messageId) + 1)).access
    (.insert (dedupKey messageId) (env (lookupSteps (found s env messageId))).clock.record)

end

section
variable (ed : Ed25519) (s : Shared) (env : Nat → OpEnv) (senderId : Bytes)
  (envelope : SealedEnvelope) (messageId : Bytes)

lemma run_isDuplicate :
    (isDuplicate (dedupKey messageId)).run act env s =
      if Duplicate s env messageId then (true, s, fun n => env (n + 2))
      else (false, cleared s env messageId,
        fun n => env (n + lookupSteps (found s env messageId))) := by
  have hg : (isDuplicate (dedupKey messageId)).run act env s =
      ((match found s env messageId with
        | none => pure false
        | some ex => do
          if ← isExpired ex then
            let _ ← perform (.dedup (.remove (dedupKey messageId)))
            return false
          else return true : Handler Bool).run act (fun n => env (n + 1)) s) := by
    cases hfa : (env 0).access.fails with
    | true => simp [isDuplicate, perform, Prog.run, act, Table.act, found, hfa]
    | false =>
      cases hlo : s.tableDedup.lookup (dedupKey messageId) with
      | none => simp [isDuplicate, perform, Prog.run, act, Table.act, found, hlo]
      | some ex =>
        simp [isDuplicate, perform, Prog.run, act, Table.act, found, hfa, hlo]
  rw [hg]
  cases hf : found s env messageId with
  | none => simp [Duplicate, cleared, lookupSteps, hf, Prog.run, pure]
  | some ex =>
    by_cases hl : ex.length = 8
    · by_cases hli : (env 1).clock.val - dedupWindow ≤ i64FromBeBytes ex
      · have hep : ¬ i64FromBeBytes ex < (env 1).clock.val - dedupWindow := by omega
        have hdu : Duplicate s env messageId := by
          simp only [Duplicate, hf]
          exact ⟨hl, hli⟩
        simp [hdu, isExpired, hl, hep, perform, Prog.run, act, pure]
      · have hep : i64FromBeBytes ex < (env 1).clock.val - dedupWindow := by omega
        have hdu : ¬ Duplicate s env messageId := by
          simp only [Duplicate, hf]
          exact fun h => hli h.2
        simp [hdu, cleared, hf, lookupSteps, Shared.dedup, isExpired, hl, hep, perform,
          Prog.run, act, pure]
    · have hdu : ¬ Duplicate s env messageId := by
        simp only [Duplicate, hf]
        exact fun h => hl h.1
      simp [hdu, cleared, hf, lookupSteps, Shared.dedup, isExpired, hl, perform, Prog.run, act,
        pure]

lemma run_forward : ((forward envelope).run act env s).1 = .routed ∧
    ((forward envelope).run act env s).2.1.tableDedup = s.tableDedup := by
  refine ⟨rfl, ?_⟩
  simp only [forward, queueMessage, perform, Prog.run, act, Prog.perform_bind, Prog.step_bind, pure,
    Prog.ret_bind]
  split
  · simp only [Shared.send]
    split <;> rfl
  · rfl

lemma run_stampAndVerify_error {r : Refusal}
    (h : verifySender ed senderId envelope.canonical envelope.signatureHex = .error r) :
    ((stampAndVerify ed senderId envelope).run act env s).1 = .unauthentic r ∧
      ((stampAndVerify ed senderId envelope).run act env s).2.1 = s.dedup (env 1).access
        (.insert (dedupKey envelope.messageId) (env 0).clock.record) := by
  simp [stampAndVerify, h, perform, Prog.run, act, Shared.dedup, pure]

lemma run_stampAndVerify_ok
    (h : verifySender ed senderId envelope.canonical envelope.signatureHex = .ok ()) :
    ((stampAndVerify ed senderId envelope).run act env s).1 = .routed ∧
      ((stampAndVerify ed senderId envelope).run act env s).2.1.tableDedup =
        (s.dedup (env 1).access
          (.insert (dedupKey envelope.messageId) (env 0).clock.record)).tableDedup := by
  simp only [stampAndVerify, h, perform, Prog.run, Prog.perform_bind]
  exact run_forward _ _ _

lemma routeAlone_of_not_wellFormed (h : ¬ envelope.WellFormed) :
    (routeAlone ed s env senderId envelope).1 ≠ .routed ∧
    (routeAlone ed s env senderId envelope).2 = s := by
  obtain ⟨r, hne, hro⟩ := routeMessage_of_not_wellFormed ed senderId h
  rw [routeAlone, hro]
  exact ⟨hne, rfl⟩

lemma routeAlone_of_duplicate (h : envelope.WellFormed) (hdu : Duplicate s env envelope.messageId) :
    routeAlone ed s env senderId envelope = (.duplicate, s) := by
  rw [routeAlone, routeMessage_of_wellFormed ed senderId h, Prog.run_bind, run_isDuplicate,
    if_pos hdu]
  rfl

section
variable (h : envelope.WellFormed) (hdu : ¬ Duplicate s env envelope.messageId)
include h hdu

lemma routeAlone_of_error {r : Refusal}
    (hv : verifySender ed senderId envelope.canonical envelope.signatureHex = .error r) :
    routeAlone ed s env senderId envelope = (.unauthentic r, stamped s env envelope.messageId) := by
  rw [routeAlone, routeMessage_of_wellFormed ed senderId h, Prog.run_bind, run_isDuplicate,
    if_neg hdu]
  obtain ⟨hre, hst⟩ := run_stampAndVerify_error ed _
    (fun n => env (n + lookupSteps _)) senderId envelope hv
  refine Prod.ext hre (hst.trans ?_)
  simp only [stamped, Nat.zero_add, Nat.add_comm 1]

lemma routeAlone_of_ok
    (hv : verifySender ed senderId envelope.canonical envelope.signatureHex = .ok ()) :
    (routeAlone ed s env senderId envelope).1 = .routed ∧
      (routeAlone ed s env senderId envelope).2.tableDedup =
        (stamped s env envelope.messageId).tableDedup := by
  rw [routeAlone, routeMessage_of_wellFormed ed senderId h, Prog.run_bind, run_isDuplicate,
    if_neg hdu]
  obtain ⟨hre, hst⟩ := run_stampAndVerify_ok ed _
    (fun n => env (n + lookupSteps _)) senderId envelope hv
  refine ⟨hre, hst.trans ?_⟩
  simp only [stamped, Nat.zero_add, Nat.add_comm 1]

end

lemma routed_iff : (routeAlone ed s env senderId envelope).1 = .routed ↔ envelope.WellFormed ∧
    ¬ Duplicate s env envelope.messageId ∧
    verifySender ed senderId envelope.canonical envelope.signatureHex = .ok () := by
  by_cases h : envelope.WellFormed
  · by_cases hdu : Duplicate s env envelope.messageId
    · simp [routeAlone_of_duplicate ed s env senderId envelope h hdu, hdu]
    cases hv : verifySender ed senderId envelope.canonical envelope.signatureHex with
    | error r =>
      simp [routeAlone_of_error ed s env senderId envelope h hdu hv]
    | ok u =>
      simp [(routeAlone_of_ok ed s env senderId envelope h hdu hv).1, h, hdu]
  · simp [(routeAlone_of_not_wellFormed ed s env senderId envelope h).1, h]

lemma lookup_cleared (key : Bytes) :
    (cleared s env messageId).tableDedup.lookup key =
      if (found s env messageId).isSome ∧
          (env (lookupSteps (found s env messageId) - 1)).access.fails = false ∧
          key = dedupKey messageId then none
      else s.tableDedup.lookup key := by
  unfold cleared
  split
  · grind
  · rename_i hf
    simp [hf, Shared.dedup, Table.lookup_act_remove]

lemma lookup_stamped_ne {key : Bytes} (hk : key ≠ dedupKey messageId) :
    (stamped s env messageId).tableDedup.lookup key = s.tableDedup.lookup key := by
  simp [stamped, Shared.dedup, Table.lookup_act_insert, lookup_cleared, hk]

lemma lookup_stamped_self :
    (stamped s env messageId).tableDedup.lookup (dedupKey messageId) =
      if (env (lookupSteps (found s env messageId) + 1)).access.fails = false then
        some (env (lookupSteps (found s env messageId))).clock.record
      else if (found s env messageId).isSome ∧
          (env (lookupSteps (found s env messageId) - 1)).access.fails = false then none
      else s.tableDedup.lookup (dedupKey messageId) := by
  simp [stamped, Shared.dedup, Table.lookup_act_insert, lookup_cleared]

end

section
variable (s : Shared) (env : Nat → OpEnv)

def WritesNothing (messageId : Bytes) : Prop :=
  if (env (lookupSteps (found s env messageId) + 1)).access.fails = false then
    s.tableDedup.lookup (dedupKey messageId) =
      some (env (lookupSteps (found s env messageId))).clock.record
  else (found s env messageId).isSome →
    (env (lookupSteps (found s env messageId) - 1)).access.fails = true

/-- The envelope is turned away before its id is recorded, or recording it changes nothing. -/
def LeavesNoRecord (envelope : SealedEnvelope) : Prop :=
  ¬ envelope.WellFormed ∨ Duplicate s env envelope.messageId ∨
    WritesNothing s env envelope.messageId

/-- The first envelope leaves a record, and the second, with the same id, finds it live. -/
def Shadows (env' : Nat → OpEnv) (envelope envelope' : SealedEnvelope) : Prop :=
  envelope.messageId = envelope'.messageId ∧ envelope.WellFormed ∧
    ¬ Duplicate s env envelope.messageId ∧
    (env (lookupSteps (found s env envelope.messageId) + 1)).access.fails = false ∧
    (env' 0).access.fails = false ∧
    (env' 1).clock.val - dedupWindow ≤
      (env (lookupSteps (found s env envelope.messageId))).clock.val

end

section
variable (ed : Ed25519) (s : Shared) (env env' : Nat → OpEnv) (senderId senderId' : Bytes)
  (envelope envelope' : SealedEnvelope)

lemma duplicate_iff (messageId : Bytes) : Duplicate s env messageId ↔
    (env 0).access.fails = false ∧ ∃ record,
    s.tableDedup.lookup (dedupKey messageId) = some record ∧ Live record (env 1).clock := by
  unfold Duplicate found
  cases hf : (env 0).access.fails with
  | true => simp
  | false =>
    cases hl : s.tableDedup.lookup (dedupKey messageId) with
    | none | some => simp

lemma lookup_of_found {messageId : Bytes} (h : (found s env messageId).isSome) :
    s.tableDedup.lookup (dedupKey messageId) ≠ none := by
  unfold found at h
  split at h
  · cases h
  · grind

lemma stamped_frame (messageId : Bytes) : (stamped s env messageId).tableQueue = s.tableQueue ∧
    (stamped s env messageId).sent = s.sent := by
  unfold stamped cleared
  split <;> exact ⟨rfl, rfl⟩

lemma unchanged_stamped_iff (messageId : Bytes) :
    Unchanged s (stamped s env messageId) ↔ WritesNothing s env messageId := by
  have hse := lookup_stamped_self s env messageId
  unfold WritesNothing
  constructor
  · rintro ⟨hta, -⟩
    rw [hta] at hse
    split
    · simp_all
    rename_i hin
    rw [if_neg hin] at hse
    intro hso
    by_contra hre
    rw [if_pos ⟨hso, Bool.not_eq_true _ ▸ hre⟩] at hse
    exact lookup_of_found s env hso hse
  · intro h
    refine ⟨fun key => ?_, stamped_frame s env messageId⟩
    by_cases hk : key = dedupKey messageId
    · subst hk
      rw [hse]
      split
      · simp_all
      rename_i hin
      rw [if_neg hin] at h
      refine if_neg ?_
      rintro ⟨hso, hre⟩
      rw [h hso] at hre
      cases hre
    · exact lookup_stamped_ne s env messageId hk

lemma dropped_unchanged_iff (h : (routeAlone ed s env senderId envelope).1 ≠ .routed) :
    Unchanged s (routeAlone ed s env senderId envelope).2 ↔ LeavesNoRecord s env envelope := by
  by_cases hwf : envelope.WellFormed
  · by_cases hdu : Duplicate s env envelope.messageId
    · rw [routeAlone_of_duplicate ed s env senderId envelope hwf hdu]
      exact iff_of_true ⟨fun _ => rfl, rfl, rfl⟩ (.inr (.inl hdu))
    cases hv : verifySender ed senderId envelope.canonical envelope.signatureHex with
    | ok u => exact absurd (routeAlone_of_ok ed s env senderId envelope hwf hdu hv).1 h
    | error r =>
      rw [routeAlone_of_error ed s env senderId envelope hwf hdu hv]
      exact (unchanged_stamped_iff s env envelope.messageId).trans
        (by simp [LeavesNoRecord, hwf, hdu])
  · rw [(routeAlone_of_not_wellFormed ed s env senderId envelope hwf).2]
    exact iff_of_true ⟨fun _ => rfl, rfl, rfl⟩ (.inl hwf)

lemma lookup_routeAlone (key : Bytes) :
    (routeAlone ed s env senderId envelope).2.tableDedup.lookup key =
      if envelope.WellFormed ∧ ¬ Duplicate s env envelope.messageId then
        (stamped s env envelope.messageId).tableDedup.lookup key
      else s.tableDedup.lookup key := by
  by_cases hwf : envelope.WellFormed
  · by_cases hdu : Duplicate s env envelope.messageId
    · simp [routeAlone_of_duplicate ed s env senderId envelope hwf hdu, hdu]
    cases hv : verifySender ed senderId envelope.canonical envelope.signatureHex with
    | ok u =>
      simp [(routeAlone_of_ok ed s env senderId envelope hwf hdu hv).2, hwf, hdu]
    | error r =>
      simp [routeAlone_of_error ed s env senderId envelope hwf hdu hv, hwf, hdu]
  · simp [(routeAlone_of_not_wellFormed ed s env senderId envelope hwf).2, hwf]

lemma duplicate_after_iff (h : ¬ Duplicate s env' envelope'.messageId) :
    Duplicate (routeAlone ed s env senderId envelope).2 env' envelope'.messageId ↔
    Shadows s env env' envelope envelope' := by
  rw [duplicate_iff] at h ⊢
  rw [lookup_routeAlone]
  by_cases hpa : envelope.WellFormed ∧ ¬ Duplicate s env envelope.messageId
  · rw [if_pos hpa]
    by_cases hid : envelope.messageId = envelope'.messageId
    · rw [← hid] at h ⊢
      rw [lookup_stamped_self]
      split
      · rename_i hin
        constructor
        · rintro ⟨hg, r, hre, -, hl⟩
          cases hre
          rw [i64FromBeBytes_record] at hl
          exact ⟨hid, hpa.1, hpa.2, hin, hg, hl⟩
        · rintro ⟨-, -, -, -, hg, hl⟩
          refine ⟨hg, _, rfl, Timestamp.record_length _, ?_⟩
          rwa [i64FromBeBytes_record]
      · rename_i hin
        refine iff_of_false ?_ fun hsh => hin hsh.2.2.2.1
        rintro ⟨hg, r, hlo, hl⟩
        split at hlo
        · cases hlo
        · exact h ⟨hg, r, hlo, hl⟩
    · have hk := fun heq => hid (dedupKey_injective heq).symm
      rw [lookup_stamped_ne s env envelope.messageId hk]
      exact iff_of_false h fun hsh => hid hsh.1
  · rw [if_neg hpa]
    exact iff_of_false h fun hsh => hpa ⟨hsh.2.1, hsh.2.2.1⟩

lemma routed_after_iff (h : (routeAlone ed s env' senderId' envelope').1 = .routed) :
    (routeAlone ed (routeAlone ed s env senderId envelope).2 env' senderId' envelope').1 = .routed ↔
    ¬ Shadows s env env' envelope envelope' := by
  obtain ⟨hwf, hdu, hv⟩ := (routed_iff ed s env' senderId' envelope').mp h
  rw [routed_iff, ← duplicate_after_iff ed s env env' senderId envelope envelope' hdu]
  simp [hwf, hv]

end

/-- A rejected envelope has no effect exactly if it is turned away before its id is recorded; an
envelope that would have been routed is still routed after another one, exactly if that one has not
left a record under the same id. -/
theorem rejected_without_effect_iff (ed : Ed25519) (s : Shared) (env : Nat → OpEnv)
    (senderId : Bytes) (envelope : SealedEnvelope) :
    ((routeAlone ed s env senderId envelope).1 ≠ .routed →
      (Unchanged s (routeAlone ed s env senderId envelope).2 ↔ LeavesNoRecord s env envelope)) ∧
    ∀ env' senderId' envelope', (routeAlone ed s env' senderId' envelope').1 = .routed →
      ((routeAlone ed (routeAlone ed s env senderId envelope).2 env' senderId' envelope').1 =
        .routed ↔
        ¬ Shadows s env env' envelope envelope') :=
  ⟨dropped_unchanged_iff ed s env senderId envelope,
    fun env' senderId' envelope' =>
      routed_after_iff ed s env env' senderId senderId' envelope envelope'⟩

section
open Sibna.Symbolic

theorem envelope_without_id_has_no_effect :
    let envelope := { unsignedEnvelope with messageId := [] }
    let env := fun _ => relayEnv 200000
    let dropped := routeAlone relayEd relayStart env (identityOf 9) envelope
    let routed := (routeAlone relayEd relayStart env (identityOf 3) signedEnvelope).2
    let repeated := routeAlone relayEd routed env (identityOf 9) signedEnvelope
    Unchanged relayStart dropped.2 ∧
      (routeAlone relayEd dropped.2 env (identityOf 3) signedEnvelope).1 = .routed ∧
      repeated.1 = .duplicate ∧ Unchanged routed repeated.2 := by
  intro envelope env dropped routed repeated
  have hmalformed : ¬ envelope.WellFormed := by decide
  obtain ⟨hunchanged, hrouted⟩ :=
    rejected_without_effect_iff relayEd relayStart env (identityOf 9) envelope
  have hduplicate : repeated.1 = .duplicate ∧ Duplicate routed env signedEnvelope.messageId := by
    decide +kernel
  refine ⟨(hunchanged ?_).mpr (.inl hmalformed),
    (hrouted env (identityOf 3) signedEnvelope ?_).mpr ?_, hduplicate.1, ?_⟩
  · decide +kernel
  · decide +kernel
  · exact fun hshadows => hmalformed hshadows.2.1
  · refine ((rejected_without_effect_iff relayEd routed env _ signedEnvelope).1 ?_).mpr ?_
    · exact fun h => nomatch h.symm.trans hduplicate.1
    · exact .inr (.inl hduplicate.2)

/-- An envelope without a signature makes the relay drop the signed one of another user. -/
theorem unsigned_envelope_shadows_signed :
    let env := fun _ => relayEnv 200000
    let dropped := routeAlone relayEd relayStart env (identityOf 9) unsignedEnvelope
    dropped.1 = .unauthentic .signatureHex ∧ ¬ Unchanged relayStart dropped.2 ∧
      (routeAlone relayEd relayStart env (identityOf 3) signedEnvelope).1 = .routed ∧
      (routeAlone relayEd dropped.2 env (identityOf 3) signedEnvelope).1 = .duplicate := by
  intro env dropped
  have hrecord : (dropped.2.tableDedup.lookup (dedupKey (utf8 "m1"))).isSome = true := by
    decide +kernel
  refine ⟨by decide +kernel, fun h => ?_, by decide +kernel, by decide +kernel⟩
  rw [h.1] at hrecord
  cases hrecord

end

end Sibna.Server.Relay
