import Sibna.Lib.Interleaving
import Sibna.Storage.Crash

/-!
# Saves side by side

`save_to_disk` takes its sequence number first and then waits for the lock file.
-/

namespace Sibna.Concurrent

open Interleaving SecureStorage

structure Disk where
  sequenceNumber : Nat
  directory : Directory

section
variable (path : StorePath) (d : Disk)

def Disk.files (path : StorePath) : StoreFiles := d.directory.files path.toFileName

def Disk.carryOut (op : StoreOp) : Disk :=
  { d with directory := op.carryOut path.toFileName d.directory }

@[simp] lemma Disk.files_carryOut (op : StoreOp) :
    (d.carryOut path op).files path = op.apply (d.files path) :=
  Directory.files_carryOut path d.directory op

inductive SaveOp where
  | fetchAdd
  | createLock
  | file (op : FileOp)
  | removeLock
  deriving DecidableEq

@[reducible] def SaveOp.Ans : SaveOp → Type
  | .fetchAdd => Nat
  | .createLock => Bool
  | .file _ => Unit
  | .removeLock => Unit

def SaveOp.act : (op : SaveOp) → op.Ans × Disk
  | .fetchAdd => (d.sequenceNumber, { d with sequenceNumber := (d.sequenceNumber + 1) % 2 ^ 64 })
  | .createLock => if (d.files path).lock then (false, d) else (true, d.carryOut path .createLock)
  | .file op => ((), d.carryOut path (.file op))
  | .removeLock => ((), d.carryOut path .removeLock)

end

lemma act_createLock_held {path : StorePath} {d : Disk} (h : (d.files path).lock = true) :
    SaveOp.act path d .createLock = (false, d) := if_pos h

lemma act_createLock_free {path : StorePath} {d : Disk} (h : (d.files path).lock = false) :
    SaveOp.act path d .createLock = (true, d.carryOut path .createLock) :=
  if_neg (Bool.eq_false_iff.mp h)

abbrev Save := Prog SaveOp SaveOp.Ans

def perform (op : SaveOp) : Save op.Ans := Prog.perform op

variable {S : Suite} {κ γ : Type}

/-- What one call finds behind the read guards of the context and takes from the operating system.
`polls` are its looks at the lock file within 30 seconds: whether each is refused for another
reason than that the file exists. -/
structure SaveCall (S : Suite) (κ γ : Type) where
  keystore : κ
  sessions : SessionManager S
  groups : γ
  env : DiskEnv
  polls : List Bool

def acquireLock : List Bool → Save (Except ProtocolError Unit)
  | [] => pure (.error .timeout)
  | refused :: polls => do
    if refused then return .error .storageError
    if ← perform .createLock then return .ok ()
    acquireLock polls

def fileOps (env : DiskEnv) : Nat → List FileOp → Save (Except ProtocolError Unit)
  | _, [] => pure (.ok ())
  | i, op :: ops =>
    if env.refuses i then pure (.error .storageError)
    else do
      perform (.file op)
      fileOps env (i + 1) ops

section
variable (C : StorageSuite S κ γ) (ctx : SecureContext S κ γ)

def lockedSave (env : DiskEnv) (key : S.Key) (salt : Bytes32)
    (payload : StoragePayload (SavedSessions S) κ γ) : Save (Except ProtocolError Unit) :=
  match sealPayload C env key payload with
  | .error e => pure (.error e)
  | .ok encrypted => do
    match ← fileOps env 1 (tmpSteps salt encrypted) with
    | .error e => return .error e
    | .ok _ =>
      match C.encodeManifest
        (manifestFor C key payload.version payload.sequenceNumber encrypted) with
      | none => return .error .serializationError
      | some bytes => fileOps env 6 [.writeManifest bytes, .renameTmp]

/-- The guard drops the lock file on every way out and does not look at the answer. -/
def saveContext (call : SaveCall S κ γ)
    (sequenceNumber : Nat) : Save (Except ProtocolError Unit) := do
  match ← acquireLock call.polls with
  | .error e => return .error e
  | .ok _ =>
    let result ← lockedSave C call.env ctx.storageKey ctx.storageSalt
      (payloadFor call.env call.keystore call.sessions call.groups sequenceNumber ctx.deviceId)
    if call.env.refuses 8 then return result
    perform .removeLock
    return result

/-- `none` where `seq + 1` overflows and the process aborts. -/
def saveToDisk (call : SaveCall S κ γ) : Save (Option (Except ProtocolError Unit)) := do
  let seq ← perform .fetchAdd
  if seq + 1 < 2 ^ 64 then
    let result ← saveContext C ctx call (seq + 1)
    return some result
  else return none

@[reducible] def saves (path : StorePath) : System where
  Op := SaveOp
  Ans := SaveOp.Ans
  Shared := Disk
  Env := Unit
  Call := SaveCall S κ γ
  Result := Option (Except ProtocolError Unit)
  act _ op d := SaveOp.act path d op
  body := saveToDisk C ctx

def runSaves (path : StorePath) (d : Directory)
    (es : Schedule (saves C ctx path)) : Interleaving.World (saves C ctx path) :=
  Runs.exec Interleaving.World.step
    (Interleaving.World.initial (M := saves C ctx path) ⟨ctx.sequenceNumber, d⟩) es

end

section
variable (path : StorePath) (u : Nat → Unit) (n : Nat) (d : Directory)

lemma run_fileOps (env : DiskEnv) (i : Nat) (ops : List FileOp) :
    (fileOps env i ops).run (fun _ op d => SaveOp.act path d op) u ⟨n, d⟩ =
      (if granted env i ops = ops then .ok () else .error .storageError,
        ⟨n, ((granted env i ops).map .file).foldl (StoreOp.carryOut path.toFileName) d⟩, u) := by
  induction ops generalizing i d u with
  | nil => rfl
  | cons op ops ih =>
    unfold fileOps granted
    split
    · rfl
    · refine (ih _ _ _).trans ?_
      simp

lemma run_lockedSave (C : StorageSuite S κ γ) (env : DiskEnv) (key : S.Key) (salt : Bytes32)
    (pa : StoragePayload (SavedSessions S) κ γ) (f : StoreFiles) :
    (lockedSave C env key salt pa).run (fun _ op d => SaveOp.act path d op) u ⟨n, d⟩ =
      ((SecureStorage.lockedSave C env key salt pa f).1,
        ⟨n, ((lockedSteps C env key salt pa).map .file).foldl (StoreOp.carryOut path.toFileName) d⟩,
        u) := by
  unfold lockedSave SecureStorage.lockedSave lockedSteps
  cases sealPayload C env key pa with
  | error e => rfl
  | ok encrypted =>
    simp only [Prog.run_bind, run_fileOps]
    have hf := runOps_fst env 1 (tmpSteps salt encrypted) f
    generalize runOps env 1 (tmpSteps salt encrypted) f = o at hf ⊢
    obtain ⟨r, f₁⟩ := o
    by_cases hal : granted env 1 (tmpSteps salt encrypted) = tmpSteps salt encrypted
    · rw [if_pos hal] at hf
      subst hf
      simp only [hal, if_true, ne_eq, not_true_eq_false, if_false]
      cases C.encodeManifest _ with
      | none => rfl
      | some bytes =>
        refine (run_fileOps path u n _ env 6 _).trans ?_
        simp only [runOps_fst, List.map_append, List.foldl_append]
    · rw [if_neg hal] at hf
      subst hf
      simp only [hal, if_false, ne_eq, not_false_eq_true, if_true]
      rfl

lemma run_acquireLock {p : List Bool} {r : Bool} (hpo : p.head? = some r)
    (hl : (d.files path.toFileName).lock = false) :
    (acquireLock p).run (fun _ op d => SaveOp.act path d op) u ⟨n, d⟩ =
      if r then (.error .storageError, ⟨n, d⟩, u)
      else (.ok (), ⟨n, StoreOp.createLock.carryOut path.toFileName d⟩, u) := by
  obtain ⟨rest, rfl⟩ := List.head?_eq_some_iff.mp hpo
  cases r with
  | true => rfl
  | false =>
    simp only [acquireLock, perform, Bool.false_eq_true, if_false, Prog.perform_bind, Prog.run,
      act_createLock_free (d := ⟨n, d⟩) hl]
    rfl

/-- Alone, a call carries out the steps of `save_context`. -/
lemma saveContext_alone (C : StorageSuite S κ γ) (ctx : SecureContext S κ γ)
    (call : SaveCall S κ γ) (sn : Nat) (hl : (d.files path.toFileName).lock = false)
    (hpo : call.polls.head? = some (call.env.refuses 0)) (hdr : call.env.refuses 8 = false) :
    (saveContext C ctx call sn).run (fun _ op d => SaveOp.act path d op) u ⟨n, d⟩ =
      ((SecureStorage.saveContext C call.env (d.files path.toFileName) ctx.storageKey
          ctx.storageSalt call.keystore call.sessions call.groups sn ctx.deviceId).1,
        ⟨n, (saveSteps C call.env (d.files path.toFileName) ctx.storageKey ctx.storageSalt
          (payloadFor call.env call.keystore call.sessions call.groups sn ctx.deviceId)).foldl
            (StoreOp.carryOut path.toFileName) d⟩, u) := by
  unfold saveContext SecureStorage.saveContext withLock saveSteps
  rw [Prog.run_bind, run_acquireLock path u n d hpo hl, hl, if_neg Bool.false_ne_true]
  cases call.env.refuses 0 with
  | true => rfl
  | false =>
    simp only [Bool.false_eq_true, if_false, Prog.run_bind,
      run_lockedSave path _ _ _ _ _ _ _ _ { d.files path.toFileName with lock := true }, hdr,
      Bool.or_self, List.foldl_cons, List.foldl_append]
    rfl

end

def SaveOp.takes : (op : SaveOp) → op.Ans → Bool
  | .createLock, created => created
  | _, _ => false

def SaveOp.number : (op : SaveOp) → op.Ans → Option Nat
  | .fetchAdd, seq => some (seq + 1)
  | _, _ => none

variable {C : StorageSuite S κ γ} {ctx : SecureContext S κ γ} {path : StorePath} {f : StoreFiles}

def lastTaker (log : List (Entry (saves C ctx path))) : Option Nat :=
  (log.find? fun entry => entry.op.takes entry.ans).map (·.thread)

def allocations (log : List (Entry (saves C ctx path))) : List (Nat × Nat) :=
  log.filterMap fun entry => (entry.op.number entry.ans).map fun n => (entry.thread, n)

def lastNumbered (log : List (Entry (saves C ctx path))) : Option Nat :=
  (allocations log).head?.map (·.1)

section
variable (s : State (saves C ctx path)) (i : Nat) (c : SaveCall S κ γ) (e : Unit)

lemma allocations_fetchAdd : allocations (s.perform i c e .fetchAdd).log =
    (i, s.shared.sequenceNumber + 1) :: allocations s.log := rfl

variable {op : SaveOp}

lemma allocations_perform (hop : op ≠ .fetchAdd) :
    allocations (s.perform i c e op).log = allocations s.log := by
  cases op with
  | fetchAdd => exact absurd rfl hop
  | createLock | file | removeLock => rfl

lemma sequenceNumber_perform (hop : op ≠ .fetchAdd) :
    (s.perform i c e op).shared.sequenceNumber = s.shared.sequenceNumber := by
  cases op with
  | fetchAdd => exact absurd rfl hop
  | createLock =>
    simp only [State.perform_shared, SaveOp.act]
    split <;> rfl
  | file | removeLock => rfl

lemma createLock_held (h : (s.shared.files path).lock = true) :
    lastTaker (s.perform i c e .createLock).log = lastTaker s.log ∧
    (s.perform i c e .createLock).shared = s.shared := by
  refine ⟨?_, congrArg Prod.snd (act_createLock_held h)⟩
  rw [State.perform_log]
  simp only [act_createLock_held h]
  rfl

lemma createLock_free (h : (s.shared.files path).lock = false) :
    lastTaker (s.perform i c e .createLock).log = some i ∧
    (s.perform i c e .createLock).shared.files path = { s.shared.files path with lock := true } :=
    by
  have hac := act_createLock_free h
  refine ⟨?_, (congrArg (fun r => r.2.files path) hac).trans (Disk.files_carryOut _ _ _)⟩
  rw [State.perform_log]
  simp only [hac]
  rfl

lemma lastTaker_perform (hop : op ≠ .createLock) :
    lastTaker (s.perform i c e op).log = lastTaker s.log := by
  cases op with
  | createLock => exact absurd rfl hop
  | fetchAdd | file | removeLock => rfl

end

/-- Only the call that took the lock last works on the files, while the lock file is there. -/
def contract (C : StorageSuite S κ γ) (ctx : SecureContext S κ γ) (path : StorePath) :
    Contract (saves C ctx path) where
  inv s := (∀ a ∈ allocations s.log, a.2 < 2 ^ 64) →
    (allocations s.log).Pairwise (fun a b => b.2 < a.2) ∧ ∀ a ∈ allocations s.log,
    a.2 ≤ s.shared.sequenceNumber
  ok _ _ _ _ _ := True
  allowed s i _ _ op := op = .fetchAdd ∨ op = .createLock ∨
    (s.shared.files path).lock = true ∧ lastTaker s.log = some i
  kept := by
    intro s i c e op hinv _ _
    by_cases hop : op = .fetchAdd
    · subst hop
      rw [allocations_fetchAdd]
      intro hbound
      obtain ⟨hnew, hold⟩ := List.forall_mem_cons.mp hbound
      obtain ⟨hpair, hle⟩ := hinv hold
      have hseq : (s.perform i c e .fetchAdd).shared.sequenceNumber = s.shared.sequenceNumber + 1 :=
        Nat.mod_eq_of_lt hnew
      rw [hseq]
      refine ⟨List.pairwise_cons.mpr ⟨?_, hpair⟩, List.forall_mem_cons.mpr ⟨Nat.le_refl _, ?_⟩⟩
      · exact fun a ha => Nat.lt_succ_of_le (hle a ha)
      · exact fun a ha => Nat.le_succ_of_le (hle a ha)
    · rw [allocations_perform s i c e hop, sequenceNumber_perform s i c e hop]
      exact hinv

section
variable (i n : Nat)

def Numbered (s : State (saves C ctx path)) : Prop :=
  ∀ m, (i, m) ∈ allocations s.log ↔ m = n

def Inside (f : StoreFiles) (s : State (saves C ctx path)) : Prop :=
  Numbered i n s ∧ lastTaker s.log = some i ∧ s.shared.files path = f ∧ f.lock = true

def Committed (C : StorageSuite S κ γ) (ctx : SecureContext S κ γ) (c : SaveCall S κ γ) (n : Nat)
    (f : StoreFiles) : Prop :=
  let payload := payloadFor c.env c.keystore c.sessions c.groups n ctx.deviceId
  ∃ encrypted bytes, sealPayload C c.env ctx.storageKey payload = .ok encrypted ∧
    C.encodeManifest (manifestFor C ctx.storageKey payload.version n encrypted) = some bytes ∧
    f.blob = some (magic ++ ctx.storageSalt.val ++ encrypted) ∧ f.manifest = some bytes

def Saved (c : SaveCall S κ γ) (n : Nat) (s : State (saves C ctx path)) : Prop :=
  Numbered i n s ∧ lastTaker s.log ≠ none ∧
    (lastTaker s.log = some i → Committed C ctx c n (s.shared.files path))

lemma stable_unnumbered : (contract C ctx path).Stable i fun s => ∀ m, (i, m) ∉ allocations s.log :=
    by
  intro s j c e op hj _ _ _ h m hm
  by_cases hop : op = .fetchAdd
  · subst hop
    rcases List.mem_cons.mp hm with heq | hm
    · exact hj (congrArg Prod.fst heq).symm
    · exact h m hm
  · rw [allocations_perform s j c e hop] at hm
    exact h m hm

lemma stable_numbered : (contract C ctx path).Stable i (Numbered i n) := by
  intro s j c e op hj _ _ _ h m
  by_cases hop : op = .fetchAdd
  · subst hop
    rw [allocations_fetchAdd, List.mem_cons, ← h m]
    refine or_iff_right fun heq => hj ?_
    exact (congrArg Prod.fst heq).symm
  · rw [allocations_perform s j c e hop]
    exact h m

lemma stable_inside (f : StoreFiles) : (contract C ctx path).Stable i (Inside i n f) := by
  intro s j c e op hj hin hok hal ⟨hn, hta, hf, hl⟩
  refine ⟨stable_numbered i n hj hin hok hal hn, ?_⟩
  rcases hal with rfl | rfl | ⟨-, ho⟩
  · exact ⟨hta, hf, hl⟩
  · obtain ⟨hke, hsh⟩ := createLock_held s j c e (by rw [hf, hl])
    rw [hke, hsh]
    exact ⟨hta, hf, hl⟩
  · exact absurd (Option.some.inj (ho.symm.trans hta)) hj

lemma stable_saved (c : SaveCall S κ γ) (n : Nat) : (contract C ctx path).Stable i (Saved i c n) :=
    by
  intro s j c' e op hj hin hok hal ⟨hn, htk, hf⟩
  refine ⟨stable_numbered i n hj hin hok hal hn, ?_⟩
  by_cases hop : op = .createLock
  · subst hop
    by_cases hl : (s.shared.files path).lock = true
    · obtain ⟨hke, hsh⟩ := createLock_held s j c' e hl
      rw [hke, hsh]
      exact ⟨htk, hf⟩
    · obtain ⟨hta, -⟩ := createLock_free s j c' e (Bool.eq_false_iff.mpr hl)
      rw [hta]
      exact ⟨Option.some_ne_none j, fun heq => absurd (Option.some.inj heq) hj⟩
  · rw [lastTaker_perform s j c' e hop]
    refine ⟨htk, fun hta => ?_⟩
    rcases hal with rfl | heq | ⟨-, ho⟩
    · exact hf hta
    · exact absurd heq hop
    · exact absurd (Option.some.inj (ho.symm.trans hta)) hj

end

lemma Inside.file {i n : Nat} {f : StoreFiles} {s : State (saves C ctx path)} (h : Inside i n f s)
    (c : SaveCall S κ γ) (e : Unit) (op : FileOp) :
    Inside i n (op.apply f) (s.perform i c e (.file op)) := by
  obtain ⟨hn, hta, rfl, hl⟩ := h
  exact ⟨hn, hta, Disk.files_carryOut _ _ _, (apply_lock _ op).trans hl⟩

lemma Inside.saved {i n : Nat} {s : State (saves C ctx path)} (h : Inside i n f s)
    {c : SaveCall S κ γ}
    (hf : Committed C ctx c n f) : Saved i c n s := by
  obtain ⟨hn, hta, rfl, -⟩ := h
  exact ⟨hn, by rw [hta]; exact Option.some_ne_none i, fun _ => hf⟩

section
variable {i n : Nat} {c : SaveCall S κ γ} {s : State (saves C ctx path)}

lemma keeps_acquireLock {p : List Bool} (h : Numbered i n s) :
    (contract C ctx path).Keeps i c (fun r s => r = .ok () → ∃ f, Inside i n f s)
    (acquireLock p) s := by
  induction p generalizing s with
  | nil => exact Contract.keeps_ret_of (fun s hr => nomatch hr) s
  | cons re p ih =>
    cases re with
    | true => exact Contract.keeps_ret_of (fun s hr => nomatch hr) s
    | false =>
      refine Contract.keeps_step (stable_numbered i n) h ?_
      intro s e _ hn _
      refine ⟨.inr (.inl rfl), ?_⟩
      by_cases hl : (s.shared.files path).lock = true
      · simp only [act_createLock_held hl]
        exact ih hn
      · rw [Bool.not_eq_true] at hl
        simp only [act_createLock_free hl]
        obtain ⟨hta, hf⟩ := createLock_free s i c e hl
        refine Contract.keeps_ret (stable_inside i n { s.shared.files path with lock := true })
          ⟨hn, hta, hf, rfl⟩ ?_
        exact fun s hs _ => ⟨_, hs⟩

lemma keeps_fileOps {env : DiskEnv} {k : Nat} {ops : List FileOp} {f : StoreFiles}
    (h : Inside i n f s) :
    (contract C ctx path).Keeps i c
      (fun r s => ∃ f', Inside i n f' s ∧ (r = .ok () → f' = ops.foldl FileOp.apply f))
      (fileOps env k ops) s := by
  induction ops generalizing k f s with
  | nil => exact Contract.keeps_ret (stable_inside i n f) h fun s hs => ⟨f, hs, fun _ => rfl⟩
  | cons op ops ih =>
    unfold fileOps
    split
    · exact Contract.keeps_ret (stable_inside i n f) h fun s hs => ⟨f, hs, nofun⟩
    refine Contract.keeps_step (stable_inside i n f) h ?_
    intro s e _ hs _
    refine ⟨.inr (.inr ⟨?_, hs.2.1⟩), ih (hs.file c e op)⟩
    rw [hs.2.2.1, hs.2.2.2]

lemma keeps_lockedSave {f : StoreFiles} (h : Inside i n f s) :
    (contract C ctx path).Keeps i c
      (fun r s => ∃ f', Inside i n f' s ∧ (r = .ok () → Committed C ctx c n f'))
      (lockedSave C c.env ctx.storageKey ctx.storageSalt
        (payloadFor c.env c.keystore c.sessions c.groups n ctx.deviceId)) s := by
  unfold lockedSave
  split
  · exact Contract.keeps_ret (stable_inside i n f) h fun s hs => ⟨f, hs, (by simp)⟩
  rename_i encrypted hse
  refine (keeps_fileOps h).bind ?_
  rintro r s ⟨f₁, hs, hf⟩
  cases r with
  | error e => exact Contract.keeps_ret (stable_inside i n f₁) hs fun s hs => ⟨f₁, hs, (by simp)⟩
  | ok u =>
    have htm : f₁.tmp = some (magic ++ ctx.storageSalt.val ++ encrypted) := by
      rw [hf rfl]
      rfl
    simp only
    split
    · exact Contract.keeps_ret (stable_inside i n f₁) hs fun s hs => ⟨f₁, hs, (by simp)⟩
    rename_i bytes hb
    refine (keeps_fileOps hs).mono ?_
    rintro r s ⟨f₂, hs, hf⟩
    refine ⟨f₂, hs, fun hr => ⟨encrypted, bytes, hse, hb, ?_, ?_⟩⟩
    · rw [hf hr, ← htm]
      rfl
    · rw [hf hr]
      rfl

lemma keeps_saveContext (h : Numbered i n s) :
    (contract C ctx path).Keeps i c (fun r s => r = .ok () → Saved i c n s)
    (saveContext C ctx c n) s :=
    by
  refine (keeps_acquireLock h).bind ?_
  intro r s hs
  cases r with
  | error e =>
    exact Contract.keeps_ret_of (fun s hr => nomatch hr) s
  | ok u =>
    obtain ⟨f, hs⟩ := hs rfl
    refine (keeps_lockedSave hs).bind ?_
    rintro r s ⟨f₁, hs, hf⟩
    split
    · exact Contract.keeps_ret (stable_inside i n f₁) hs fun s hs hr => hs.saved (hf hr)
    refine Contract.keeps_step (stable_inside i n f₁) hs ?_
    intro s e _ hs _
    refine ⟨.inr (.inr ⟨?_, hs.2.1⟩), ?_⟩
    · rw [hs.2.2.1, hs.2.2.2]
    cases r with
    | error e =>
      exact Contract.keeps_ret_of (fun s hr => nomatch hr) _
    | ok u =>
      refine Contract.keeps_ret (stable_saved i c n) ?_ fun s hs _ => hs
      obtain ⟨hn, hta, rfl, -⟩ := hs
      refine ⟨hn, ne_of_eq_of_ne hta (Option.some_ne_none i), fun _ => ?_⟩
      change Committed C ctx c n ((s.shared.carryOut path .removeLock).files path)
      rw [Disk.files_carryOut]
      exact hf rfl

end

def Ended (i : Nat) (c : SaveCall S κ γ) (r : Option (Except ProtocolError Unit))
    (s : State (saves C ctx path)) : Prop :=
  r = some (.ok ()) → ∃ n < 2 ^ 64, Saved i c n s

section
variable (C : StorageSuite S κ γ) (ctx : SecureContext S κ γ)

lemma sound (path : StorePath) : (contract C ctx path).Sound Ended := by
  intro s i c _ hf
  refine Contract.keeps_step (stable_unnumbered i) ?_ ?_
  · intro m hm
    obtain ⟨en, hen, hnu⟩ := List.mem_filterMap.mp hm
    obtain ⟨n, -, hn⟩ := Option.map_eq_some_iff.mp hnu
    exact hf en hen (congrArg Prod.fst hn)
  · intro s e _ hs _
    refine ⟨.inl rfl, ?_⟩
    have hnm : Numbered i (s.shared.sequenceNumber + 1) (s.perform i c e .fetchAdd) := by
      intro m
      rw [allocations_fetchAdd, List.mem_cons, Prod.mk.injEq]
      simp [hs m]
    show Contract.Keeps _ _ _ _ (if s.shared.sequenceNumber + 1 < 2 ^ 64 then _ else _) _
    split
    · rename_i hb
      refine (keeps_saveContext hnm).bind ?_
      intro r s hr
      cases r with
      | error e => exact Contract.keeps_ret_of (fun s hr => nomatch hr) s
      | ok u =>
        refine Contract.keeps_ret (stable_saved i c _) (hr rfl) ?_
        exact fun s hs _ => ⟨_, hb, hs⟩
    · exact Contract.keeps_ret_of (fun s hr => nomatch hr) _

lemma kept_runSaves (d : Directory) (es : Schedule (saves C ctx path)) :
    (contract C ctx path).Kept Ended (runSaves C ctx path d es) := by
  refine (sound C ctx path).run (Contract.kept_initial ?_)
    (guarded_of_always (fun _ _ _ _ _ => trivial) _ _)
  exact fun _ => ⟨List.Pairwise.nil, nofun⟩

/-- The stored number was given to one of the calls, and none was given a higher one. -/
def CarriesHighest (w : Interleaving.World (saves C ctx path)) : Prop :=
  ∃ stored, Holds C ctx.storageKey (w.state.shared.files path) stored ctx.storageSalt ∧
    (∃ a ∈ allocations w.state.log, a.2 = stored.sequenceNumber) ∧
    ∀ a ∈ allocations w.state.log, a.2 ≤ stored.sequenceNumber

end

lemma holds_unique {key : S.Key} {salt salt' : Bytes32}
    {st s' : StoragePayload (SavedSessions S) κ γ} (h : Holds C key f st salt)
    (h' : Holds C key f s' salt') : s' = st := by
  obtain ⟨ma, en, hm, hre, ho⟩ := h
  obtain ⟨m', e', hm', hr', ho'⟩ := h'
  rw [hm] at hm'
  cases hm'
  rw [hre] at hr'
  cases hr'
  rw [ho] at ho'
  exact (Except.ok.inj ho').symm

lemma exists_entry_of_lastTaker {log : List (Entry (saves C ctx path))} {i : Nat}
    (h : lastTaker log = some i) : ∃ entry ∈ log, entry.thread = i := by
  obtain ⟨entry, hen, rfl⟩ := Option.map_eq_some_iff.mp h
  exact ⟨entry, List.mem_of_find?_eq_some hen, rfl⟩

lemma exists_entry_of_allocation {log : List (Entry (saves C ctx path))} {a : Nat × Nat}
    (h : a ∈ allocations log) : ∃ entry ∈ log, entry.thread = a.1 := by
  obtain ⟨entry, hen, hn⟩ := List.mem_filterMap.mp h
  obtain ⟨n, -, rfl⟩ := Option.map_eq_some_iff.mp hn
  exact ⟨entry, hen, rfl⟩

lemma highest_iff_head {l : List (Nat × Nat)} (hl : l.Pairwise fun a b => b.2 < a.2) {i n : Nat}
    (hm : (i, n) ∈ l) (hu : ∀ m, (i, m) ∈ l → m = n) :
    (∀ a ∈ l, a.2 ≤ n) ↔ some i = l.head?.map (·.1) := by
  cases l with
  | nil => cases hm
  | cons b l =>
    obtain ⟨hlt, -⟩ := List.pairwise_cons.mp hl
    simp only [List.head?_cons]
    constructor
    · intro hle
      rcases List.mem_cons.mp hm with rfl | hta
      · rfl
      · exact absurd (hlt _ hta) (Nat.not_lt.mpr (hle b (.head _)))
    · intro hi
      have hb : b.2 = n := by simp_all
      intro a ha
      rcases List.mem_cons.mp ha with rfl | ha
      · exact Nat.le_of_eq hb
      · exact Nat.le_of_lt (hb ▸ hlt a ha)

/-- Blob and manifest always belong together, to the call that took the lock last. They carry the
highest number exactly if that call was also the last to be numbered. -/
theorem concurrent_saves_carry_highest_iff (hA : S.CorrectAead) (hL : S.AeadLength)
    (C : StorageSuite S κ γ) (hC : C.RoundTrip) (hM : C.ManifestRoundTrip)
    (ctx : SecureContext S κ γ) (path : StorePath) (directory : Directory)
    (es : Schedule (saves C ctx path)) (w : Interleaving.World (saves C ctx path))
    (hw : w = runSaves C ctx path directory es) (hcalls : w.threads ≠ [])
    (hreturned : ∀ thread ∈ w.threads, thread.2.result = some (some (.ok ()))) :
    (∃ i c p n stored, w.threads[i]? = some (c, p) ∧ (i, n) ∈ allocations w.state.log ∧
      C.Keeps (payloadFor c.env c.keystore c.sessions c.groups n ctx.deviceId) stored ∧
      Holds C ctx.storageKey (w.state.shared.files path) stored ctx.storageSalt) ∧
    (CarriesHighest C ctx w ↔ lastTaker w.state.log = lastNumbered w.state.log) := by
  have hkept := hw ▸ kept_runSaves C ctx directory es
  have hsaved : ∀ i c p, w.threads[i]? = some (c, p) → ∃ n < 2 ^ 64, Saved i c n w.state :=
    fun i c p hi => hkept.result hi (hreturned _ (List.mem_of_getElem? hi)) rfl
  have hbound : ∀ a ∈ allocations w.state.log, a.2 < 2 ^ 64 := by
    intro a ha
    obtain ⟨entry, hentry, hthread⟩ := exists_entry_of_allocation ha
    obtain ⟨c, p, hi⟩ := hkept.exists_thread hentry
    obtain ⟨n, hn, hnum, -⟩ := hsaved _ c p hi
    rw [hthread] at hnum
    exact lt_of_eq_of_lt ((hnum a.2).mp ha) hn
  obtain ⟨hpair, -⟩ := hkept.inv hbound
  -- some call has taken the lock, and the last to do so is one of them
  obtain ⟨i, htaker⟩ : ∃ i, lastTaker w.state.log = some i := by
    obtain ⟨thread, rest, hthreads⟩ := List.exists_cons_of_ne_nil hcalls
    obtain ⟨n, -, -, htaken, -⟩ := hsaved 0 thread.1 thread.2 (by rw [hthreads]; rfl)
    exact Option.ne_none_iff_exists'.mp htaken
  obtain ⟨entry, hentry, rfl⟩ := exists_entry_of_lastTaker htaker
  obtain ⟨c, p, hi⟩ := hkept.exists_thread hentry
  obtain ⟨n, -, hnum, -, hfiles⟩ := hsaved _ c p hi
  obtain ⟨encrypted, bytes, hsealed, hbytes, hblob, hmanifest⟩ := hfiles htaker
  obtain ⟨stored, hkeeps, hseq, hholds⟩ :=
    holds_of_renamed hA hL hC hM hsealed hbytes
      (w.state.shared.files path) ctx.storageSalt hmanifest hblob
  have hmem := (hnum n).mpr rfl
  refine ⟨⟨_, c, p, n, stored, hi, hmem, hkeeps, hholds⟩, ?_⟩
  rw [htaker, lastNumbered, ← highest_iff_head hpair hmem fun m => (hnum m).mp]
  constructor
  · rintro ⟨stored', hholds', -, hle⟩
    rw [holds_unique hholds hholds', hseq] at hle
    exact hle
  intro hle
  refine ⟨stored, hholds, ⟨_, hmem, hseq.symm⟩, ?_⟩
  rw [hseq]
  exact hle

open Symbolic

def emptyContext : SecureContext short Unit Unit where
  keystore := ()
  sessions := noSessions
  groups := ()
  config := noSessions.config
  storageKey := storageKey
  storageSalt := secret
  deviceId := storageDevice
  sequenceNumber := 0

def numberedCall (n : UInt8) : SaveCall short Unit Unit :=
  ⟨(), noSessions, (), disk n, [false]⟩

def twoCalls (first : Nat) : Schedule (saves twoSaves emptyContext storePath) :=
  [.start (numberedCall 1), .start (numberedCall 2), .advance 0 (), .advance 1 ()] ++
    List.replicate 9 (.advance first ()) ++ List.replicate 9 (.advance (1 - first) ())

def afterTwoCalls (first : Nat) : Interleaving.World (saves twoSaves emptyContext storePath) :=
  runSaves twoSaves emptyContext storePath (fun _ => none) (twoCalls first)

theorem saves_in_order_carry_highest : CarriesHighest twoSaves emptyContext (afterTwoCalls 0) := by
  refine (concurrent_saves_carry_highest_iff short_correctAead short_aeadLength
    twoSaves (storage_roundTrip _) (storage_manifestRoundTrip _)
    emptyContext storePath (fun _ => none) (twoCalls 0) (afterTwoCalls 0) rfl ?_ ?_).2.mpr ?_
  · exact List.ne_nil_of_length_pos (by decide +kernel)
  · decide +kernel
  · decide +kernel

/-- The second call has the higher number and writes first: the first call replaces its blob and
its manifest by the lower number. -/
theorem save_replaced_by_lower_number :
    let w := afterTwoCalls 1
    let files := w.state.shared.files storePath
    w.threads.length = 2 ∧ (∀ thread ∈ w.threads, thread.2.result = some (some (.ok ()))) ∧
    allocations w.state.log = [(1, 2), (0, 1)] ∧ loadNumbered files = .ok 1 ∧
    ¬ CarriesHighest twoSaves emptyContext w := by
  intro w files
  have hnumbers : allocations w.state.log = [(1, 2), (0, 1)] := by decide +kernel
  have hload : loadNumbered files = .ok 1 := by decide +kernel
  refine ⟨by decide +kernel, by decide +kernel, hnumbers, hload, ?_⟩
  rintro ⟨stored, hholds, -, hle⟩
  have hlock : files.lock = false := by decide +kernel
  have hread : loadContext twoSaves (disk 0) sessionEnv files storageKey = _ :=
    loadContext_of_holds sessionEnv (fun _ => rfl) hlock hholds
  rw [loadNumbered, hread] at hload
  have hstored : stored.sequenceNumber = 1 := Except.ok.inj hload
  have htwo : 2 ≤ stored.sequenceNumber := hle (1, 2) (by rw [hnumbers]; exact List.mem_cons_self)
  omega

end Sibna.Concurrent
