import Sibna.Snapshots.Invariant

/-!
# No message key is used twice across restores

First for `deserialize_state`, then for `SecureStorage`.
-/

namespace Sibna.Branches

open Runs DoubleRatchetSession

variable {S : Suite} {K : S.SymbolicKdf} {D : S.SymbolicDh} {w : Branches S}

section
variable {config : Nat → Config}

instance [DecidableEq S.Scalar] (op : Operation S) : Decidable (w.Fresh op) :=
  inferInstanceAs (Decidable (∀ x ∈ _, _ ∧ _))

instance [DecidablePred D.contributory] (op : Operation S) :
    Decidable (w.Contributory D config op) := by
  unfold Contributory
  infer_instance

instance (op : Operation S) : Decidable (w.Stalls op) := by
  cases op <;> unfold Stalls <;> infer_instance

lemma used_exec (config : Nat → Config) (w : Branches S) (ops : List (Operation S)) :
    ∃ keys, (exec (step config) w ops).used = w.used ++ keys := by
  induction ops generalizing w with
  | nil => exact ⟨[], (List.append_nil _).symm⟩
  | cons op ops ih =>
    obtain ⟨keys, hke⟩ := ih _
    refine ⟨(w.uses config op).toList ++ keys, ?_⟩
    rwa [← List.append_assoc]

def Reparsed (w : Branches S) : Prop :=
  ∀ i s, w.objects i = some s → s.dhRemote = none → s.sendingChain = none

lemma Reparsed.stalls (h : w.Reparsed) (op : Operation S) : w.Stalls op := by
  cases op with
  | encrypt i env p ad =>
    intro s hs hr c hc
    rw [h i s hs hr] at hc
    cases hc
  | _ => trivial

variable {env : Env S} {s s' : DoubleRatchetState S}

section
variable (h : s.dhRemote = none → s.sendingChain = none)
include h

lemma encryptMessage_reparsed {config : Config} {p ad : Bytes}
    {o : Except ProtocolError (Encrypted S)}
    (hen : encryptMessage config env s p ad = (o, s')) (hr : s'.dhRemote = none) :
    s'.sendingChain = none := by
  rcases encryptMessage_frame hen with rfl | ⟨se, a, sent, rfl, hs⟩
  · exact h hr
  have hn := (rotateIfNeeded_dhRemote env s).symm.trans hr
  rw [rotateIfNeeded_sending_of_none hn, h hn] at hs
  rcases hs with hs | ⟨c, hc, -⟩
  · exact hs
  · cases hc

lemma decryptMessage_reparsed {config : Config} {me ad : Bytes}
    {o : Except ProtocolError (Decrypted S)}
    (hde : decryptMessage config env s me ad = (o, s')) (hr : s'.dhRemote = none) :
    s'.sendingChain = none := by
  cases o with
  | error e =>
    rw [decryptMessage_error hde] at hr ⊢
    exact h hr
  | ok d =>
    rcases decryptMessage_frame hde with hk | ht
    · rw [hk.sending]
      exact h (hk.dhRemote.symm.trans hr)
    · rw [ht.dhRemote] at hr
      cases hr

lemma restored_reparsed {d : SavedState S} {a : List Bytes32} (hd : Anchored a d.load)
    (hs' : Restored env s d s') (hr : s'.dhRemote = none) : s'.sendingChain = none := by
  cases hs' with
  | refused => exact h hr
  | unanchored ca hb => exact hd.sending hb
  | receiver ca hb hs => exact hs
  | ratcheted ca hb =>
    cases hr

end

lemma Reparsed.step (h : w.Reparsed) (hso : Sound K D w) {op : Operation S}
    (hl : op.isLoad = false) : (w.step config op).Reparsed := by
  intro j t ht hr
  rcases put_objects ht with ho | ⟨i, hi⟩
  · exact h j t ho hr
  cases op with
  | create i' env now =>
    cases hi
    rfl
  | encrypt i' env p ad =>
    obtain ⟨s, hs, heq⟩ := Option.map_eq_some_iff.mp hi
    cases heq
    exact encryptMessage_reparsed (h i s hs) rfl hr
  | decrypt i' env me ad =>
    obtain ⟨s, hs, heq⟩ := Option.map_eq_some_iff.mp hi
    cases heq
    exact decryptMessage_reparsed (h i s hs) rfl hr
  | reserveNonces i' env co =>
    obtain ⟨s, hs, heq⟩ := Option.map_eq_some_iff.mp hi
    cases heq
    obtain ⟨a, heq⟩ := reserveNonces_eq env s co
    rw [heq] at hr ⊢
    simp only [h i s hs hr, Option.map_none]
  | jumpToReservation i' env =>
    obtain ⟨s, hs, heq⟩ := Option.map_eq_some_iff.mp hi
    cases heq
    obtain ⟨a, heq⟩ := jumpToReservation_eq env s
    rw [heq] at hr ⊢
    simp only [h i s hs hr, Option.map_none]
  | serializeState i' => cases hi
  | deserializeState i' n env =>
    obtain ⟨s, hs, hi⟩ := Option.bind_eq_some_iff.mp hi
    obtain ⟨d, hn, heq⟩ := Option.map_eq_some_iff.mp hi
    cases heq
    exact restored_reparsed (h i s hs) (hso.snapshots d (List.mem_of_getElem? hn))
      (restored_deserializeState env s d) hr
  | loadContext i' n env => cases hl

lemma Reparsed.initial {s : DoubleRatchetState S} (hs : Created s) : (initial s).Reparsed := by
  intro i t ht hr
  obtain ⟨-, rfl⟩ := initial_objects ht
  apply (anchored_created hs).sending
  cases hb : t.dhRemoteBytes with
  | none => rfl
  | some b =>
    obtain ⟨r, hm, -⟩ := (anchored_created hs).bytes b hb
    rw [hr] at hm
    cases hm

/-- The operations of the session itself, on fresh scalars and contributory ratchet keys. -/
def Restoring (D : S.SymbolicDh) (config : Nat → Config) (w : Branches S) (op : Operation S) :
    Prop :=
  w.Fresh op ∧ w.Contributory D config op ∧ op.isLoad = false

instance [DecidableEq S.Scalar] [DecidablePred D.contributory] (op : Operation S) :
    Decidable (Restoring D config w op) := by
  unfold Restoring
  infer_instance

end

open Symbolic

/-- Whatever snapshots are restored, however often and into whatever objects, no two successful
encryptions use one message key. -/
theorem restored_sessions_use_distinct_keys (K : S.SymbolicKdf) (D : S.SymbolicDh)
    (config : Nat → Config) (s : DoubleRatchetState S) (hs : Created s)
    (hr : ∀ r ∈ s.dhRemote, D.contributory r) (ops : List (Operation S))
    (hops : Guarded (step config) (Restoring D config) (initial s) ops) :
    (exec (step config) (initial s) ops).used.Nodup := by
  have hinv : Sound K D (exec (step config) (initial s) ops) ∧
      (exec (step config) (initial s) ops).Reparsed := by
    apply hops.invariant (I := fun w => Sound K D w ∧ w.Reparsed)
    · intro w op ⟨hsound, hparsed⟩ ⟨hfresh, hcontr, hload⟩
      exact ⟨sound_step hsound hfresh hcontr (hparsed.stalls op), hparsed.step hsound hload⟩
    · exact ⟨sound_initial hs hr, Reparsed.initial hs⟩
  exact List.Nodup.of_map _ hinv.1.apart.nodup

theorem twice_restored_session_distinct_keys :
    let config := fun _ : Nat => config false
    let ops : List (Operation suite) :=
      [.encrypt 0 (env 1001 3) [10] [], .serializeState 0,
        .encrypt 0 (env 1002 4) [11] [], .create 1 (env 1003 5) 1003,
        .deserializeState 0 0 (env 1004 6), .deserializeState 1 0 (env 1005 7),
        .encrypt 0 (env 1006 8) [12] [], .encrypt 1 (env 1007 9) [13] []]
    let w := exec (step config) (initial (session false .initiator)) ops
    w.used.length = 4 ∧ w.used.Nodup := by
  refine ⟨by decide +kernel, ?_⟩
  apply restored_sessions_use_distinct_keys kdf dh
  · exact created_session false .initiator
  · intro r hr
    cases hr
    exact isLowOrder_publicKey 2
  · decide +kernel

def lowOrderPoint : Bytes32 := ⟨1 :: List.replicate 31 0, by simp⟩

def lowOrderMessage (env : Env suite) : Bytes :=
  let root := (session false .responder).rootKey
  let chain := ChainKey.new (env.clock.read .newSendingChain)
    (kdfRk suite root (suite.diffieHellman (scalar 1) lowOrderPoint)).2
  let slot := ⟨lowOrderPoint, chain, messageKeyAt chain.key 0, chain.index, true⟩
  match buildMessage env slot 0 [7] [] with
  | .ok m => m.toBytes
  | .error _ => []

/-- The ratchet accepts a remote key of low order. With it the ratchet on restore does not
depend on the scalar, and two objects restored from one snapshot send under one key. -/
theorem low_order_restores_share_key :
    let config := fun _ : Nat => config false
    let ops : List (Operation suite) :=
      [.decrypt 0 (env 1001 3) (lowOrderMessage (env 1000 1)) [], .serializeState 0,
        .create 1 (env 1002 4) 1002,
        .deserializeState 0 0 (env 1003 5), .deserializeState 1 0 (env 1004 6),
        .encrypt 0 (env 1005 7) [10] [], .encrypt 1 (env 1006 8) [11] []]
    let w := exec (step config) (initial (session false .responder)) ops
    Guarded (step config) (fun w op => w.Fresh op ∧ op.isLoad = false)
      (initial (session false .responder)) ops ∧
    w.adopted = [lowOrderPoint, publicKey 1] ∧
    w.used.length = 2 ∧ ¬ w.used.Nodup := by
  decide +kernel

/-- The scalars drawn are new, accepted keys are not of low order, and no encryption rotates a chain
of a session without a remote key. -/
def Reloading (D : S.SymbolicDh) (config : Nat → Config) (w : Branches S) (op : Operation S) :
    Prop :=
  w.Fresh op ∧ w.Contributory D config op ∧ w.Stalls op

instance [DecidableEq S.Scalar] [DecidablePred D.contributory] {config : Nat → Config}
    (op : Operation S) : Decidable (Reloading D config w op) := by
  unfold Reloading
  infer_instance

/-- What is encrypted after `load_context` is encrypted under keys that were not used before
it, whichever save it reads and whatever was done since. -/
theorem reloaded_session_uses_new_keys (K : S.SymbolicKdf) (D : S.SymbolicDh)
    (config : Nat → Config) (s : DoubleRatchetState S) (hs : Created s)
    (hr : ∀ r ∈ s.dhRemote, D.contributory r) (before after : List (Operation S)) (i n : Nat)
    (env : Env S)
    (hops : Guarded (step config) (Reloading D config) (initial s)
      (before ++ .loadContext i n env :: after)) :
    ∃ keys, (exec (step config) (initial s) (before ++ .loadContext i n env :: after)).used =
        (exec (step config) (initial s) before).used ++ keys ∧
      ∀ k ∈ keys, k ∉ (exec (step config) (initial s) before).used := by
  have hsound : Sound K D
      (exec (step config) (initial s) (before ++ .loadContext i n env :: after)) := by
    apply hops.invariant (I := Sound K D)
    · intro w op h ⟨hfresh, hcontr, hstall⟩
      exact sound_step h hfresh hcontr hstall
    · exact sound_initial hs hr
  have hnodup := List.Nodup.of_map _ hsound.apart.nodup
  rw [exec_append] at hnodup ⊢
  obtain ⟨keys, hkeys⟩ := used_exec config (exec _ (initial s) before) _
  rw [hkeys] at hnodup ⊢
  refine ⟨keys, rfl, ?_⟩
  intro k hk hused
  exact (List.nodup_append.mp hnodup).2.2 k hused k hk rfl

theorem reloaded_session_uses_new_keys_default :
    let config := fun _ : Nat => config false
    let before : List (Operation suite) :=
      [.encrypt 0 (env 1001 3) [10] [], .serializeState 0,
        .encrypt 0 (env 1002 4) [11] []]
    let after : List (Operation suite) :=
      [.encrypt 1 (env 90000 6) [12] [], .reserveNonces 1 (env 90001 0) 100,
        .encrypt 1 (env 90002 7) [13] [], .encrypt 0 (env 90003 8) [14] []]
    let start := initial (session false .initiator)
    let all := before ++ .loadContext 1 0 (env 1003 5) :: after
    (exec (step config) start all).used.length = 3 ∧
    ∃ keys, (exec (step config) start all).used = (exec (step config) start before).used ++ keys ∧
      ∀ k ∈ keys, k ∉ (exec (step config) start before).used := by
  refine ⟨by decide +kernel, ?_⟩
  apply reloaded_session_uses_new_keys kdf dh
  · exact created_session false .initiator
  · intro r hr
    cases hr
    exact isLowOrder_publicKey 2
  · decide +kernel

/-- The safety jump moves the index and not the chain key, and a rotation test without a remote
key only makes a new local scalar. Once a reservation has been asked for, the reloaded session
sends under the key the lost one had used. -/
theorem reloaded_session_reuses_key :
    let config := fun _ : Nat => config false
    let before : List (Operation suite) :=
      [.reserveNonces 0 (env 1001 0) 10, .serializeState 0,
        .encrypt 0 (env 1002 3) [10] []]
    let after : List (Operation suite) :=
      [.loadContext 1 0 (env 1003 0), .encrypt 1 (env 90000 4) [11] [],
        .reserveNonces 1 (env 90001 0) 100, .encrypt 1 (env 90002 5) [12] []]
    let start := initial (session false .initiator)
    let key := messageKeyAt (suite.hkdfSession secret).2 0
    Guarded (step config) (fun w op => w.Fresh op ∧ w.Contributory dh config op) start
      (before ++ after) ∧
    (exec (step config) start before).used = [key] ∧
    (exec (step config) start (before ++ after)).used = [key] ++ [key] := by
  decide +kernel

end Sibna.Branches
