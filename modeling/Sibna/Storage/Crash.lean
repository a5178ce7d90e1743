import Sibna.Context

/-!
# A save that is killed, old files put back

A killed process leaves the lock file. The MAC ties the manifest to one payload, and nothing ties
either to the last save.
-/

namespace Sibna

inductive StoreOp where
  | createLock
  | file (op : FileOp)
  | removeLock
  deriving DecidableEq

def StoreOp.apply (f : StoreFiles) : StoreOp → StoreFiles
  | .createLock => { f with lock := true }
  | .file op => op.apply f
  | .removeLock => { f with lock := false }

/-- The operation at the names that `save_context` derives from the path. -/
def StoreOp.carryOut (path : FileName) (d : Directory) : StoreOp → Directory
  | .createLock => Function.update d (path.withExtension "lock") (some [])
  | .file .createTmp => Function.update d (path.withExtension "tmp") (some [])
  | .file (.appendTmp bytes) => Function.update d (path.withExtension "tmp")
      ((d (path.withExtension "tmp")).map (· ++ bytes))
  | .file .syncTmp => d
  | .file (.writeManifest bytes) => Function.update d (path.withExtension "manifest") (some bytes)
  | .file .renameTmp =>
    if path.withExtension "tmp" = path then d
    else Function.update (Function.update d path (d (path.withExtension "tmp")))
      (path.withExtension "tmp") none
  | .removeLock => Function.update d (path.withExtension "lock") none

lemma StorePath.withExtension_ne (path : StorePath) : path.withExtension "tmp" ≠ path.toFileName ∧
    path.withExtension "manifest" ≠ path.toFileName ∧
    path.withExtension "lock" ≠ path.toFileName := by
  obtain ⟨⟨stem, extension⟩, ht, hm, hl⟩ := path
  simp [FileName.withExtension, ht.symm, hm.symm, hl.symm]

lemma Directory.files_carryOut (path : StorePath) (d : Directory) (op : StoreOp) :
    Directory.files (op.carryOut path.toFileName d) path.toFileName =
      op.apply (d.files path.toFileName) := by
  obtain ⟨ht, hm, hl⟩ := path.withExtension_ne
  have hn : ∀ {a b : String}, a ≠ b → path.withExtension a ≠ path.withExtension b := by
    simp [FileName.withExtension]
  rcases op with _ | op | _
  · simp [StoreOp.carryOut, Directory.files, StoreOp.apply, hl.symm, hn]
  · cases op <;> simp [StoreOp.carryOut, Directory.files, StoreOp.apply, FileOp.apply, ht, ht.symm,
      hm, hm.symm, hl, hn]
  · simp [StoreOp.carryOut, Directory.files, StoreOp.apply, hl.symm, hn]

lemma Directory.files_foldl (path : StorePath) (d : Directory) (ops : List StoreOp) :
    Directory.files (ops.foldl (StoreOp.carryOut path.toFileName) d) path.toFileName =
      ops.foldl StoreOp.apply (d.files path.toFileName) := by
  induction ops generalizing d with
  | nil => rfl
  | cons op ops ih => rw [List.foldl_cons, ih, Directory.files_carryOut, List.foldl_cons]

namespace SecureStorage

variable {S : Suite} {κ γ : Type}

section
variable (C : StorageSuite S κ γ) (env : DiskEnv)

def granted (env : DiskEnv) : Nat → List FileOp → List FileOp
  | _, [] => []
  | i, op :: ops => if env.refuses i then [] else op :: granted env (i + 1) ops

def lockedSteps (key : S.Key) (salt : Bytes32) (payload : StoragePayload (SavedSessions S) κ γ) :
    List FileOp :=
  match sealPayload C env key payload with
  | .error _ => []
  | .ok encrypted =>
    if granted env 1 (tmpSteps salt encrypted) ≠ tmpSteps salt encrypted then
      granted env 1 (tmpSteps salt encrypted)
    else
      match C.encodeManifest
        (manifestFor C key payload.version payload.sequenceNumber encrypted) with
      | none => tmpSteps salt encrypted
      | some bytes => tmpSteps salt encrypted ++ granted env 6 [.writeManifest bytes, .renameTmp]

def saveSteps (files : StoreFiles) (key : S.Key) (salt : Bytes32)
    (payload : StoragePayload (SavedSessions S) κ γ) : List StoreOp :=
  if files.lock || env.refuses 0 then []
  else .createLock :: ((lockedSteps C env key salt payload).map .file ++ [.removeLock])

lemma runOps_snd (i : Nat) (ops : List FileOp) (f : StoreFiles) :
    (runOps env i ops f).2 = (granted env i ops).foldl FileOp.apply f := by
  induction ops generalizing i f with
  | nil => rfl
  | cons op ops ih =>
    unfold runOps granted
    split
    · rfl
    · exact ih _ (op.apply f)

lemma runOps_fst (env : DiskEnv) (i : Nat) (ops : List FileOp) (f : StoreFiles) :
    (runOps env i ops f).1 = if granted env i ops = ops then .ok () else .error .storageError := by
  induction ops generalizing i f with
  | nil => rfl
  | cons op ops ih =>
    unfold runOps granted
    split
    · rfl
    · simp_all

lemma lockedSave_snd (key : S.Key) (salt : Bytes32)
    (pa : StoragePayload (SavedSessions S) κ γ) (f : StoreFiles) :
    (lockedSave C env key salt pa f).2 = (lockedSteps C env key salt pa).foldl FileOp.apply f := by
  unfold lockedSave lockedSteps
  cases sealPayload C env key pa with
  | error e => rfl
  | ok en =>
    simp only
    generalize tmpSteps salt en = tmp
    have hf := runOps_fst env 1 tmp f
    have hsn := runOps_snd env 1 tmp f
    generalize runOps env 1 tmp f = o at hf hsn
    obtain ⟨r, f₁⟩ := o
    by_cases hal : granted env 1 tmp = tmp
    · rw [if_neg (not_not.mpr hal)]
      rw [if_pos hal] at hf
      rw [hal] at hsn
      subst hf hsn
      cases C.encodeManifest _ with
      | none => rfl
      | some bytes => simp only [runOps_snd, List.foldl_append]
    · rw [if_pos hal]
      rw [if_neg hal] at hf
      subst hf hsn
      rfl

/-- The steps are those of `save_context`, on the files and in the directory. -/
lemma saveContext_files (path : StorePath) (d : Directory)
    (key : S.Key) (salt : Bytes32) (ke : κ) (se : SessionManager S) (g : γ) (sn : Nat)
    (di : FixedBytes 16) :
    (saveContext C env (d.files path.toFileName) key salt ke se g sn di).2 =
      Directory.files ((saveSteps C env (d.files path.toFileName) key salt
        (payloadFor env ke se g sn di)).foldl (StoreOp.carryOut path.toFileName) d)
        path.toFileName := by
  rw [Directory.files_foldl]
  generalize d.files path.toFileName = files
  unfold saveContext saveSteps withLock
  by_cases hl : files.lock = true
  · rw [if_pos hl, hl]
    rfl
  rw [if_neg hl]
  by_cases hre : env.refuses 0 = true
  · simp_all
  rw [if_neg hre, if_neg (by simp [hl, hre]), List.foldl_cons, List.foldl_append, List.foldl_map]
  simp only [lockedSave_snd]
  rfl

end

@[simp] lemma apply_lock (f : StoreFiles) (op : FileOp) : (op.apply f).lock = f.lock := by
  cases op <;> rfl

variable {C : StorageSuite S κ γ} {env : DiskEnv} {files : StoreFiles} {key : S.Key}
  {f : StoreFiles} {salt : Bytes32} {payload : StoragePayload (SavedSessions S) κ γ} {bytes : Bytes}

lemma foldl_lock {st : List StoreOp} (h : .removeLock ∉ st) (hf : f.lock = true) :
    (st.foldl StoreOp.apply f).lock = true := by
  induction st generalizing f with
  | nil => exact hf
  | cons step st ih =>
    apply ih (List.not_mem_of_not_mem_cons h)
    cases step with
    | createLock => rfl
    | file op => exact (apply_lock f op).trans hf
    | removeLock => exact absurd (.head _) h

lemma foldl_tmp {ops : List FileOp} (hm : ∀ bytes, .writeManifest bytes ∉ ops)
    (hre : .renameTmp ∉ ops) : (ops.foldl FileOp.apply f).blob = f.blob ∧
    (ops.foldl FileOp.apply f).manifest = f.manifest := by
  induction ops generalizing f with
  | nil => exact ⟨rfl, rfl⟩
  | cons op ops ih =>
    obtain ⟨hb, hke⟩ := ih (f := op.apply f) (fun bytes h => hm bytes (.tail _ h))
      (fun h => hre (.tail _ h))
    rw [List.foldl_cons, hb, hke]
    cases op with
    | createTmp | appendTmp | syncTmp => exact ⟨rfl, rfl⟩
    | writeManifest bytes => exact absurd (.head _) (hm bytes)
    | renameTmp => exact absurd (.head _) hre

lemma mem_granted {i : Nat} {ops : List FileOp} {op : FileOp} (h : op ∈ granted env i ops) :
    op ∈ ops := by
  induction ops generalizing i with
  | nil => exact h
  | cons o ops ih =>
    unfold granted at h
    split at h
    · cases h
    · rcases List.mem_cons.mp h with rfl | h
      · exact .head _
      · exact .tail _ (ih h)

lemma lockedSteps_cases (C : StorageSuite S κ γ) (env : DiskEnv) (key : S.Key) (salt : Bytes32)
    (payload : StoragePayload (SavedSessions S) κ γ) :
    ((∀ bytes, .writeManifest bytes ∉ lockedSteps C env key salt payload) ∧
      .renameTmp ∉ lockedSteps C env key salt payload) ∨
    ∃ encrypted bytes, sealPayload C env key payload = .ok encrypted ∧
      C.encodeManifest (manifestFor C key payload.version payload.sequenceNumber encrypted) =
        some bytes ∧
      lockedSteps C env key salt payload = tmpSteps salt encrypted ++
        .writeManifest bytes :: if env.refuses 7 then [] else [.renameTmp] := by
  unfold lockedSteps
  split
  · exact .inl ⟨fun _ => List.not_mem_nil, List.not_mem_nil⟩
  rename_i encrypted hse
  split
  · left
    refine ⟨fun bytes h => ?_, fun h => ?_⟩
    · have hm := mem_granted h
      simp [tmpSteps] at hm
    · have hm := mem_granted h
      simp [tmpSteps] at hm
  · split
    · left
      simp [tmpSteps]
    rename_i bytes hb
    by_cases hre : env.refuses 6 = true
    · left
      simp [tmpSteps, granted, hre]
    right
    refine ⟨encrypted, bytes, hse, hb, ?_⟩
    rw [granted, if_neg hre, granted]
    rfl

/-- A load of the files returns the old state or the payload that was being saved. -/
def Recovers (C : StorageSuite S κ γ) (env : DiskEnv) (sessionEnv : Bytes → Env S) (key : S.Key)
    (old : StoragePayload (SessionManager S) κ γ × Bytes32)
    (payload : StoragePayload (SavedSessions S) κ γ) (salt : Bytes32) (files : StoreFiles) : Prop :=
  ∃ loaded files', loadContext C env sessionEnv files key = (.ok loaded, files') ∧
    (loaded = old ∨ ∃ stored, C.Keeps payload stored ∧
      loaded = ({ stored with sessions := stored.sessions.load sessionEnv }, salt))

lemma Holds.congr {f' : StoreFiles} (hb : f'.blob = f.blob) (hm : f'.manifest = f.manifest)
    (h : Holds C key f payload salt) : Holds C key f' payload salt := by
  rwa [Holds, hb, hm]

lemma foldl_lockedSteps (ops : List FileOp) (files : StoreFiles) :
    (StoreOp.createLock :: (ops.map .file ++ [.removeLock])).foldl StoreOp.apply files =
      { ops.foldl FileOp.apply { files with lock := true } with lock := false } := by
  rw [List.foldl_cons, List.foldl_append, List.foldl_map]
  rfl

lemma not_holds_of_sha256_ne (hM : C.ManifestRoundTrip) {v sn : Nat}
    {en : Bytes} (hm : f.manifest = some bytes)
    (hb : C.encodeManifest (manifestFor C key v sn en) = some bytes)
    (hne : ∀ magicRead saltRead stored, f.blob.bind readBlob = some (magicRead, saltRead, stored) →
      C.sha256 en ≠ C.sha256 stored) : ¬ Holds C key f payload salt := by
  rintro ⟨ma, stored, hde, hre, ho⟩
  rw [hm, Option.bind_some, hM _ _ hb] at hde
  cases hde
  obtain ⟨-, -, -, -, -, -, hha, -⟩ := openPayload_ok ho
  exact hne _ _ _ hre hha

lemma holds_of_renamed (hA : S.CorrectAead) (hL : S.AeadLength) (hC : C.RoundTrip)
    (hM : C.ManifestRoundTrip) {en : Bytes} {v : Nat}
    (hse : sealPayload C env key payload = .ok en)
    (hby : C.encodeManifest (manifestFor C key v payload.sequenceNumber en) =
      some bytes) (f : StoreFiles) (salt : Bytes32) (hm : f.manifest = some bytes)
    (hb : f.blob = some (magic ++ salt.val ++ en)) :
    ∃ stored, C.Keeps payload stored ∧ stored.sequenceNumber = payload.sequenceNumber ∧
      Holds C key f stored salt := by
  obtain ⟨stored, hke, hsq, ho⟩ := openPayload_manifestFor hA hL hC v hse
  refine ⟨stored, hke, hsq, _, en, ?_, ?_, ho⟩
  · rw [hm, Option.bind_some, hM _ _ hby]
  · rw [hb, Option.bind_some, readBlob_append]

lemma not_holds_behind_manifest (hM : C.ManifestRoundTrip) {salt' : Bytes32}
    {st : StoragePayload (SavedSessions S) κ γ}
    (hf : ∀ encrypted magicRead saltRead st, sealPayload C env key payload = .ok encrypted →
      files.blob.bind readBlob = some (magicRead, saltRead, st) →
      C.sha256 encrypted ≠ C.sha256 st) (hre : env.refuses 7 = true)
    (hm : .writeManifest bytes ∈ lockedSteps C env key salt payload) :
    ¬ Holds C key { (lockedSteps C env key salt payload).foldl FileOp.apply
      { files with lock := true } with lock := false } st salt' := by
  rcases lockedSteps_cases C env key salt payload with
    ⟨hn, -⟩ | ⟨encrypted, bytes', hse, hen, hl⟩
  · exact absurd hm (hn bytes)
  · rw [hl, hre, if_pos rfl]
    apply not_holds_of_sha256_ne hM (by rfl) hen
    exact fun magicRead saltRead st => hf encrypted magicRead saltRead st hse

lemma whole_save_recovers (hA : S.CorrectAead) (hL : S.AeadLength) (hC : C.RoundTrip)
    (hM : C.ManifestRoundTrip) {env' : DiskEnv} (se : Bytes → Env S) {salt₀ : Bytes32}
    {s₀ : StoragePayload (SavedSessions S) κ γ} (hg : ∀ i, env'.refuses i = false)
    (hh₀ : Holds C key files s₀ salt₀) (hre : env.refuses 7 = true →
      ∀ bytes, .writeManifest bytes ∉ lockedSteps C env key salt payload) :
    Recovers C env' se key
      ({ s₀ with sessions := s₀.sessions.load se }, salt₀) payload salt
      { (lockedSteps C env key salt payload).foldl FileOp.apply { files with lock := true } with
        lock := false } := by
  rcases lockedSteps_cases C env key salt payload with
    ⟨hn, hkp⟩ | ⟨encrypted, bytes, hse, hen, hl⟩
  · obtain ⟨hb, hm⟩ := foldl_tmp (f := { files with lock := true }) hn hkp
    exact ⟨_, _, loadContext_of_holds se hg rfl (hh₀.congr hb hm), .inl rfl⟩
  have hgo : env.refuses 7 = false := by grind
  rw [hl, hgo, if_neg Bool.false_ne_true]
  obtain ⟨st, hke, -, hho⟩ := holds_of_renamed hA hL hC hM hse hen
    ⟨some _, some bytes, none, false⟩ salt rfl rfl
  refine ⟨_, _, loadContext_of_holds se hg rfl (hho.congr ?_ rfl), .inr ⟨st, hke, rfl⟩⟩
  simp [FileOp.apply]

lemma saveSteps_split {ca rest : List StoreOp}
    (hst : saveSteps C env files key salt payload = ca ++ rest) (hca : ca ≠ []) :
    (∃ tail, ca = .createLock :: tail) ∧
      (.removeLock ∈ ca → ca =
        .createLock :: ((lockedSteps C env key salt payload).map .file ++ [.removeLock])) := by
  obtain ⟨step, tail, rfl⟩ := List.exists_cons_of_ne_nil hca
  unfold saveSteps at hst
  split at hst
  · cases hst
  rw [List.cons_append, List.cons.injEq] at hst
  obtain ⟨rfl, hta⟩ := hst
  refine ⟨⟨tail, rfl⟩, fun hm => ?_⟩
  have hl : .removeLock ∈ tail := by simpa using hm
  -- the lock is removed once, at the end
  rcases List.eq_nil_or_concat rest with rfl | ⟨init, last, rfl⟩
  · rw [hta, List.append_nil]
  rw [List.concat_eq_append, ← List.append_assoc] at hta
  obtain ⟨hin, -⟩ := List.append_inj' hta rfl
  have hf : .removeLock ∈ (lockedSteps C env key salt payload).map StoreOp.file := by simp_all
  simp at hf

/-- The process is killed after the operations `carried`, in any directory. The next load succeeds
with the old state or the new one exactly if the lock was removed and the rename not refused behind
the manifest. -/
theorem killed_save_recovers_iff (hA : S.CorrectAead) (hL : S.AeadLength) (C : StorageSuite S κ γ)
    (hC : C.RoundTrip) (hM : C.ManifestRoundTrip) (env env' : DiskEnv) (sessionEnv : Bytes → Env S)
    (path : StorePath) (directory : Directory) (files₀ : StoreFiles) (key : S.Key) (salt : Bytes32)
    (old : StoragePayload (SessionManager S) κ γ × Bytes32) (keystore : κ)
    (sessions : SessionManager S) (groups : γ) (sequenceNumber : Nat) (deviceId : FixedBytes 16)
    (carried rest : List StoreOp) (hgranted : ∀ i, env'.refuses i = false)
    (hold : loadContext C env' sessionEnv (directory.files path.toFileName) key = (.ok old, files₀))
    (hfresh : ∀ encrypted magicRead saltRead stored,
      sealPayload C env key (payloadFor env keystore sessions groups sequenceNumber deviceId) =
        .ok encrypted →
      (directory path.toFileName).bind readBlob = some (magicRead, saltRead, stored) →
      C.sha256 encrypted ≠ C.sha256 stored)
    (hsteps : saveSteps C env (directory.files path.toFileName) key salt
      (payloadFor env keystore sessions groups sequenceNumber deviceId) = carried ++ rest)
    (hcarried : carried ≠ []) :
    Recovers C env' sessionEnv key old
        (payloadFor env keystore sessions groups sequenceNumber deviceId) salt
        (Directory.files (carried.foldl (StoreOp.carryOut path.toFileName) directory)
          path.toFileName) ↔
      .removeLock ∈ carried ∧
        (env.refuses 7 = true → ∀ bytes, .file (.writeManifest bytes) ∉ carried) := by
  rw [Directory.files_foldl]
  replace hfresh : ∀ encrypted magicRead saltRead stored, sealPayload C env key _ = .ok encrypted →
    (directory.files path.toFileName).blob.bind readBlob = some (magicRead, saltRead, stored) →
    C.sha256 encrypted ≠ C.sha256 stored := hfresh
  generalize hpayload : payloadFor env keystore sessions groups sequenceNumber deviceId = payload
    at *
  generalize directory.files path.toFileName = files at *
  obtain ⟨⟨tail, rfl⟩, hwhole⟩ := saveSteps_split hsteps hcarried
  obtain ⟨p₀, salt₀⟩ := old
  obtain ⟨hlock₀, stored₀, hholds₀, rfl⟩ := loadContext_ok hold
  constructor
  · rintro ⟨⟨p, salt'⟩, files', hload, hstate⟩
    obtain ⟨hlock, stored, hholds, hp⟩ := loadContext_ok hload
    have hremoved : .removeLock ∈ StoreOp.createLock :: tail := by
      by_contra hmem
      have hheld := foldl_lock (f := { files with lock := true })
        (List.not_mem_of_not_mem_cons hmem) rfl
      rw [List.foldl_cons, StoreOp.apply, hheld] at hlock
      cases hlock
    refine ⟨hremoved, ?_⟩
    intro hrefused bytes hbytes
    rw [hwhole hremoved] at hbytes
    rw [hwhole hremoved, foldl_lockedSteps] at hholds
    exact not_holds_behind_manifest hM hfresh hrefused (by simpa using hbytes) hholds
  · rintro ⟨hremoved, hrename⟩
    rw [hwhole hremoved] at hrename
    rw [hwhole hremoved, foldl_lockedSteps]
    exact whole_save_recovers hA hL hC hM sessionEnv hgranted hholds₀
      fun hrefused bytes hmem => hrename hrefused bytes (by simpa using hmem)

open Symbolic

def storeName : FileName := ⟨"context", some "db"⟩

lemma storeName_plain : storeName.extension ≠ some "tmp" ∧ storeName.extension ≠ some "manifest" ∧
    storeName.extension ≠ some "lock" := by decide

def storePath : StorePath := ⟨storeName, storeName_plain⟩

def stepsOf (n : UInt8) (d : Directory) : List StoreOp :=
  saveSteps twoSaves (disk n) (d.files storeName) storageKey secret (numbered n)

/-- The files after the first operations of a save. -/
def filesAfter (ops : List StoreOp) (d : Directory) : StoreFiles :=
  Directory.files (ops.foldl (StoreOp.carryOut storeName) d) storeName

def firstSaved : Directory :=
  (stepsOf 1 fun _ => none).foldl (StoreOp.carryOut storeName) fun _ => none

theorem killed_after_unlock_recovers :
    ∃ old, Recovers twoSaves (disk 0) sessionEnv storageKey old (numbered 2) secret
      (filesAfter (stepsOf 2 firstSaved) firstSaved) := by
  have hloads : (loadContext twoSaves (disk 0) sessionEnv (firstSaved.files storeName)
      storageKey).1.toOption.isSome := by decide +kernel
  obtain ⟨old, hold⟩ := exists_ok_of_isSome hloads
  refine ⟨old, ?_⟩
  refine (killed_save_recovers_iff short_correctAead short_aeadLength
    twoSaves (storage_roundTrip _) (storage_manifestRoundTrip _)
    (disk 2) (disk 0) sessionEnv storePath firstSaved _
    storageKey secret old () noSessions () 2 storageDevice (stepsOf 2 firstSaved) []
    (fun _ => rfl) (Prod.ext hold rfl) ?_ (List.append_nil _).symm ?_).mpr ⟨?_, ?_⟩
  · intro encrypted magicRead saltRead stored hsealed hread
    have hnew : encrypted = (sealPayload twoSaves (disk 2) storageKey
        (payloadFor (disk 2) () noSessions () 2 storageDevice)).toOption.getD [] := by
      rw [hsealed]
      rfl
    have hstored : stored = (((firstSaved storeName).bind readBlob).map (·.2.2)).getD [] := by
      rw [show (firstSaved storeName).bind readBlob = _ from hread]
      rfl
    rw [hnew, hstored]
    decide +kernel
  · decide +kernel
  · decide +kernel
  · intro hrefused
    cases hrefused

/-- The second of two saves is killed after the rename: the load times out. Killed after the
manifest, with the lock file removed by hand, the files do not fit together. -/
theorem killed_save_blocks_load :
    let steps := stepsOf 2 firstSaved
    loadNumbered (firstSaved.files storeName) = .ok 1 ∧ steps.length = 9 ∧
    loadNumbered (filesAfter (steps.take 8) firstSaved) = .error .timeout ∧
    loadNumbered { filesAfter (steps.take 7) firstSaved with lock := false } =
      .error .storageError := by
  refine ⟨?_, ?_, ?_, ?_⟩ <;> decide +kernel

end SecureStorage

open LittleEndian SecureStorage

structure Save (S : Suite) (κ γ : Type) where
  env : DiskEnv
  salt : Bytes32
  keystore : κ
  sessions : SessionManager S
  groups : γ
  sequenceNumber : Nat
  deviceId : FixedBytes 16
  sequenceNumber_lt : sequenceNumber < 2 ^ 64

variable {S : Suite} {κ γ : Type}

namespace Save

section
variable (C : StorageSuite S κ γ) (key : S.Key) (s : Save S κ γ)

def payload : StoragePayload (SavedSessions S) κ γ :=
  payloadFor s.env s.keystore s.sessions s.groups s.sequenceNumber s.deviceId

def run (files : StoreFiles) : Outcome StoreFiles Unit :=
  saveContext C s.env files key s.salt s.keystore s.sessions s.groups s.sequenceNumber s.deviceId

def Made (encrypted : Bytes) : Prop :=
  sealPayload C s.env key s.payload = .ok encrypted

/-- Both files are those of the save; the salt in front of the sealed payload may be another. -/
def Restored (files : StoreFiles) : Prop :=
  ∃ salt encrypted, s.Made C key encrypted ∧
    files.blob.bind readBlob = some (magic, salt, encrypted) ∧
    files.manifest.bind C.decodeManifest =
      some (manifestFor C key currentVersion s.sequenceNumber encrypted)

end

end Save

/-- The saves completed so far, newest first, and the files as they are now. -/
inductive Stored (C : StorageSuite S κ γ) (key : S.Key) : List (Save S κ γ) →
    StoreFiles → Prop where
  | start (files : StoreFiles) : Stored C key [] files
  | save {saves : List (Save S κ γ)} {files files' : StoreFiles} {s : Save S κ γ}
      (h : Stored C key saves files) (hrun : s.run C key files = (.ok (), files'))
      (hlater : ∀ t ∈ saves, t.sequenceNumber < s.sequenceNumber) : Stored C key (s :: saves) files'
  | overwrite {saves : List (Save S κ γ)} {files : StoreFiles} (blob manifest : Option Bytes)
      (h : Stored C key saves files) : Stored C key saves { files with blob, manifest }

/-- Without the key no new MAC and no new sealed payload is made, and SHA-256 does not collide on
the sealed payloads. -/
structure Unforged (C : StorageSuite S κ γ) (key : S.Key) (saves : List (Save S κ γ))
    (files : StoreFiles) : Prop where
  mac : ∀ m, files.manifest.bind C.decodeManifest = some m →
    m.manifestMac = C.hmac key (macInput m.version m.sequenceNumber m.blobHash) →
    ∃ s ∈ saves, ∃ encrypted, s.Made C key encrypted ∧
      macInput m.version m.sequenceNumber m.blobHash =
        macInput currentVersion s.sequenceNumber (C.sha256 encrypted)
  aead : ∀ magicRead salt encrypted handler plaintext,
    files.blob.bind readBlob = some (magicRead, salt, encrypted) →
    CryptoHandler.new key = .ok handler → handler.decrypt encrypted storeInfo = .ok plaintext →
    ∃ s ∈ saves, s.Made C key encrypted
  sha256 : ∀ s ∈ saves, ∀ t ∈ saves, ∀ a b, s.Made C key a → t.Made C key b →
    C.sha256 a = C.sha256 b → a = b

lemma Stored.lock {C : StorageSuite S κ γ} {key : S.Key} {sa : List (Save S κ γ)}
    {files : StoreFiles} (h : Stored C key sa files) (hne : sa ≠ []) : files.lock = false := by
  induction h with
  | start => exact absurd rfl hne
  | save _ hr =>
    obtain ⟨-, -, -, -, rfl⟩ := saveContext_ok hr
    rfl
  | overwrite _ _ _ ih => exact ih hne

variable {C : StorageSuite S κ γ} {key : S.Key} {files : StoreFiles}

lemma Stored.lt {last : Save S κ γ} {sa : List (Save S κ γ)} (h : Stored C key (last :: sa) files) :
    ∀ t ∈ sa, t.sequenceNumber < last.sequenceNumber := by
  generalize hal : last :: sa = all at h
  induction h with
  | start => cases hal
  | save _ _ hl =>
    cases hal
    exact hl
  | overwrite _ _ _ ih => exact ih hal

lemma macInput_inj {v v' se s' : Nat} {hash hash' : Bytes32} (hv : v < 2 ^ 32) (hv' : v' < 2 ^ 32)
    (hs : se < 2 ^ 64) (hs' : s' < 2 ^ 64) (h : macInput v se hash = macInput v' s' hash') :
    v = v' ∧ se = s' ∧ hash = hash' := by
  obtain ⟨hn, hha⟩ := List.append_inj h (by simp)
  obtain ⟨hve, hse⟩ := List.append_inj hn (by simp)
  refine ⟨?_, ?_, Subtype.ext hha⟩
  · have heq := congrArg fromLe hve
    rwa [fromLe_toLe hv, fromLe_toLe hv'] at heq
  · have heq := congrArg fromLe hse
    rwa [fromLe_toLe hs, fromLe_toLe hs'] at heq

lemma Save.Made.sequenceNumber_eq (hA : S.CorrectAead) (hC : C.RoundTrip) {s : Save S κ γ}
    {en : Bytes} (hm : s.Made C key en) {ma : StorageManifest}
    {p : StoragePayload (SavedSessions S) κ γ} (ho : openPayload C key ma en = .ok p) :
    p.sequenceNumber = s.sequenceNumber := by
  obtain ⟨pl, ha, hec, hha, hen⟩ := sealPayload_ok hm
  obtain ⟨h', p', hh', hde, hdc, -⟩ := openPayload_ok ho
  cases hha.symm.trans hh'
  obtain rfl := CryptoHandler.decrypt_encrypt hA hen hde
  obtain ⟨ke, g, hro⟩ := hC _ _ hec
  cases hro.symm.trans hdc
  rfl

lemma Unforged.restored (hA : S.CorrectAead) (hC : C.RoundTrip) (hR : C.ManifestRange)
    {sa : List (Save S κ γ)} (hU : Unforged C key sa files)
    {p : StoragePayload (SavedSessions S) κ γ} {salt : Bytes32}
    (h : Holds C key files p salt) :
    ∃ s ∈ sa, s.Restored C key files ∧ p.sequenceNumber = s.sequenceNumber := by
  obtain ⟨m, en, hde, hre, ho⟩ := h
  obtain ⟨ha, pl, hhn, hdc, -, hmac, hha, -⟩ := openPayload_ok ho
  obtain ⟨s, hs, hm⟩ := hU.aead _ _ _ _ _ hre hhn hdc
  obtain ⟨t, ht, e', hm', hin⟩ := hU.mac m hde hmac
  obtain ⟨bytes, -, hb⟩ := Option.bind_eq_some_iff.mp hde
  obtain ⟨he, hl⟩ := hR _ _ hb
  obtain ⟨hv, hse, hh'⟩ := macInput_inj he (by decide) hl
    t.sequenceNumber_lt hin
  -- the MAC and the seal are of the same save, or of two with the same sealed payload
  obtain rfl := hU.sha256 s hs t ht _ _ hm hm' (hha.symm.trans hh')
  have hp := hm.sequenceNumber_eq hA hC ho
  have hp' := hm'.sequenceNumber_eq hA hC ho
  refine ⟨s, hs, ⟨salt, en, hm, hre, ?_⟩, hp⟩
  rw [hde, Option.some.injEq]
  obtain ⟨v, se, hash, mac⟩ := m
  simp only at hv hse hha hmac
  subst hv hha hmac
  rw [hse, ← hp', hp, manifestFor]

lemma Save.Restored.holds (hA : S.CorrectAead) (hL : S.AeadLength) (hC : C.RoundTrip)
    {s : Save S κ γ} (h : s.Restored C key files) :
    ∃ stored salt, Holds C key files stored salt ∧ stored.sequenceNumber = s.sequenceNumber := by
  obtain ⟨salt, en, hm, hre, hde⟩ := h
  obtain ⟨stored, -, hse, ho⟩ := openPayload_manifestFor hA hL hC currentVersion hm
  exact ⟨stored, salt, ⟨_, en, hde, hre, ho⟩, hse⟩

/-- After any saves and any overwriting, every load returns at least the sequence number of the
last completed save exactly if the files are not those of an earlier one. -/
theorem load_not_rolled_back_iff (hA : S.CorrectAead) (hL : S.AeadLength) (C : StorageSuite S κ γ)
    (hC : C.RoundTrip) (hR : C.ManifestRange) (key : S.Key) (last : Save S κ γ)
    (saves : List (Save S κ γ)) (files : StoreFiles) (hstored : Stored C key (last :: saves) files)
    (hU : Unforged C key (last :: saves) files) (sessionEnv : Bytes → Env S) :
    (∀ env p salt files',
      loadContext C env sessionEnv files key = (.ok (p, salt), files') →
        last.sequenceNumber ≤ p.sequenceNumber) ↔
      ∀ s ∈ saves, ¬ s.Restored C key files := by
  constructor
  · intro hload s hs hrestored
    obtain ⟨stored, salt, hholds, hseq⟩ := hrestored.holds hA hL hC
    have hle := hload ⟨none, none, fun _ => false⟩ _ _ _
      (loadContext_of_holds sessionEnv (fun _ => rfl) (hstored.lock (List.cons_ne_nil _ _)) hholds)
    have hlt := hstored.lt s hs
    simp only [hseq] at hle
    omega
  · intro hnot env p salt files' hload
    obtain ⟨-, stored, hholds, rfl⟩ := loadContext_ok hload
    obtain ⟨s, hs, hrestored, hseq⟩ := hU.restored hA hC hR hholds
    rcases List.mem_cons.mp hs with rfl | hs
    · exact Nat.le_of_eq hseq.symm
    · exact absurd hrestored (hnot s hs)

namespace Symbolic

def numberedSave (n : UInt8) : Save short Unit Unit where
  env := disk n
  salt := secret
  keystore := ()
  sessions := noSessions
  groups := ()
  sequenceNumber := n.toNat
  deviceId := storageDevice
  sequenceNumber_lt := by
    have h := n.toNat_lt
    omega

def savedTwice : StoreFiles := (saveNumbered 2 savedOnce).2

lemma stored_twice : Stored twoSaves storageKey [numberedSave 2, numberedSave 1] savedTwice := by
  have hf : (numberedSave 1).run twoSaves storageKey ⟨none, none, none, false⟩ =
      (.ok (), savedOnce) := Prod.ext (by decide +kernel) rfl
  have hse : (numberedSave 2).run twoSaves storageKey savedOnce = (.ok (), savedTwice) :=
    Prod.ext (by decide +kernel) rfl
  refine ((Stored.start _).save hf (fun t ht => by cases ht)).save hse ?_
  intro t ht
  rw [List.mem_singleton.mp ht]
  decide

def sealedOf (n : UInt8) : Bytes :=
  (sealPayload twoSaves (disk n) storageKey (numbered n)).toOption.getD []

lemma eq_sealedOf {n : UInt8} {en : Bytes}
    (h : (numberedSave n).Made twoSaves storageKey en) : en = sealedOf n := by
  have hse : sealPayload twoSaves (disk n) storageKey (numbered n) = .ok en := h
  rw [sealedOf, hse]
  rfl

lemma made_one : (numberedSave 1).Made twoSaves storageKey (sealedOf 1) := by
  have h : sealPayload twoSaves (disk 1) storageKey (numbered 1) = .ok (sealedOf 1) := by
    decide +kernel
  exact h

lemma made_two : (numberedSave 2).Made twoSaves storageKey (sealedOf 2) := by
  have h : sealPayload twoSaves (disk 2) storageKey (numbered 2) = .ok (sealedOf 2) := by
    decide +kernel
  exact h

def mixed : StoreFiles := { savedTwice with blob := savedOnce.blob }

lemma mixed_manifest : mixed.manifest.bind twoSaves.decodeManifest =
    some (manifestFor twoSaves storageKey currentVersion 2 (sealedOf 2)) := by decide +kernel

lemma sealedOf_sha256_ne : twoSaves.sha256 (sealedOf 1) ≠ twoSaves.sha256 (sealedOf 2) := by
  decide +kernel

lemma mixed_unforged : Unforged twoSaves storageKey [numberedSave 2, numberedSave 1] mixed where
  mac := by
    intro m hm _
    rw [mixed_manifest, Option.some.injEq] at hm
    subst hm
    exact ⟨numberedSave 2, by simp, sealedOf 2, made_two, rfl⟩
  aead := by
    intro mr salt en hn p hre _ _
    obtain ⟨-, -, rfl⟩ := hre
    exact ⟨numberedSave 1, by simp, made_one⟩
  sha256 := by
    intro s hs t ht a b ha hb hha
    simp only [List.mem_cons, List.not_mem_nil, or_false] at hs ht
    rcases hs with rfl | rfl <;> rcases ht with rfl | rfl <;>
      rw [eq_sealedOf ha, eq_sealedOf hb] at hha ⊢
    · exact absurd hha sealedOf_sha256_ne.symm
    · exact absurd hha sealedOf_sha256_ne

end Symbolic

open Symbolic

theorem mixed_files_not_rolled_back :
    mixed.manifest.bind twoSaves.decodeManifest =
      some (manifestFor twoSaves storageKey currentVersion 2 (sealedOf 2)) ∧
    ∀ env p salt files', loadContext twoSaves env sessionEnv mixed
      storageKey = (.ok (p, salt), files') → 2 ≤ p.sequenceNumber := by
  refine ⟨mixed_manifest, ?_⟩
  refine (load_not_rolled_back_iff short_correctAead short_aeadLength
    twoSaves (storage_roundTrip _) (storage_manifestRange _)
    storageKey _ [numberedSave 1] mixed
    (stored_twice.overwrite _ _) mixed_unforged sessionEnv).mpr ?_
  rintro s hs ⟨salt, encrypted, -, -, hmanifest⟩
  rw [mixed_manifest, Option.some.injEq, List.mem_singleton.mp hs] at hmanifest
  have hsequence := congrArg StorageManifest.sequenceNumber hmanifest
  cases hsequence

/-- The files of the first save, put back after the second one, are loaded. -/
theorem first_save_put_back :
    let files := { savedTwice with
      blob := savedOnce.blob, manifest := savedOnce.manifest }
    Stored twoSaves storageKey
      [numberedSave 2, numberedSave 1] files ∧
    loadNumbered savedTwice = .ok 2 ∧ loadNumbered files = .ok 1 := by
  refine ⟨stored_twice.overwrite _ _, ?_, ?_⟩ <;> decide +kernel

end Sibna
