import Sibna.Snapshots.Branches

/-!
# Storage files

`storage.rs`, and `SessionManager` of `lib.rs` as serde writes and reads it. Key store and group
manager are carried along as they are.
-/

namespace Sibna

open LittleEndian

/-- The fields of `Config` that `SecureContext` reads beside those of the ratchet. -/
structure ContextConfig extends Config where
  enableRateLimiting : Bool
  requireSafetyNumbers : Bool
  deriving DecidableEq

def mapSessions {α β : Type} (f : Bytes → α → β) (m : AList fun _ : Bytes => α) :
    AList fun _ : Bytes => β :=
  ⟨m.entries.map (Sigma.map id f), List.NodupKeys.map₂ f _ m.nodupKeys⟩

lemma lookup_mapSessions {α β : Type} (f : Bytes → α → β) (m : AList fun _ : Bytes => α)
    (id : Bytes) : (mapSessions f m).lookup id = (m.lookup id).map (f id) :=
  List.dlookup_map₂ id

structure SessionManager (S : Suite) where
  sessions : AList (fun _ : Bytes => DoubleRatchetState S)
  config : ContextConfig

structure SavedSessions (S : Suite) where
  sessions : AList (fun _ : Bytes => SavedState S)
  config : ContextConfig

instance {S : Suite} [DecidableEq S.Key] : DecidableEq (SavedSessions S) := fun a b =>
  decidable_of_iff (a.sessions.entries = b.sessions.entries ∧ a.config = b.config) (by
    cases a
    cases b
    rw [SavedSessions.mk.injEq, AList.ext_iff])

def SessionManager.save {S : Suite} (m : SessionManager S) : SavedSessions S :=
  ⟨mapSessions (fun _ s => s.save) m.sessions, m.config⟩

def SavedSessions.load {S : Suite} (m : SavedSessions S) (env : Bytes → Env S) : SessionManager S :=
  ⟨mapSessions (fun id d => SecureStorage.loadSession (env id) d) m.sessions, m.config⟩

lemma SavedSessions.lookup_load_save {S : Suite} (m : SessionManager S) (env : Bytes → Env S)
    (id : Bytes) : (m.save.load env).sessions.lookup id =
      (m.sessions.lookup id).map fun s => SecureStorage.loadSession (env id) s.save := by
  simp only [SavedSessions.load, SessionManager.save, lookup_mapSessions, Option.map_map]
  rfl

/-- `σ` is the form the sessions have: saved, or loaded. -/
structure StoragePayload (σ κ γ : Type) where
  version : Nat
  sequenceNumber : Nat
  keystore : κ
  sessions : σ
  groups : γ
  lastSave : Nat
  deviceId : FixedBytes 16
  deriving DecidableEq

structure StorageManifest where
  version : Nat
  sequenceNumber : Nat
  blobHash : Bytes32
  manifestMac : Bytes32
  deriving DecidableEq

/-- The crates behind the storage layer; `argon2id` with the default parameters. -/
structure StorageSuite (S : Suite) (κ γ : Type) where
  argon2id : Bytes → Bytes32 → Option S.Key
  sha256 : Bytes → Bytes32
  hmac : S.Key → Bytes → Bytes32
  encodePayload : StoragePayload (SavedSessions S) κ γ → Option Bytes
  decodePayload : Bytes → Option (StoragePayload (SavedSessions S) κ γ)
  encodeManifest : StorageManifest → Option Bytes
  decodeManifest : Bytes → Option StorageManifest

/-- bincode reads back what it wrote, up to what the key store and the groups leave out. -/
def StorageSuite.RoundTrip {S : Suite} {κ γ : Type} (C : StorageSuite S κ γ) : Prop :=
  ∀ payload bytes, C.encodePayload payload = some bytes → ∃ keystore groups,
    C.decodePayload bytes = some { payload with keystore, groups }

def StorageSuite.Keeps {S : Suite} {κ γ : Type} (C : StorageSuite S κ γ)
    (payload stored : StoragePayload (SavedSessions S) κ γ) : Prop :=
  ∃ bytes, C.encodePayload payload = some bytes ∧ C.decodePayload bytes = some stored

def StorageSuite.ManifestRoundTrip {S : Suite} {κ γ : Type} (C : StorageSuite S κ γ) : Prop :=
  ∀ manifest bytes, C.encodeManifest manifest = some bytes → C.decodeManifest bytes = some manifest

def StorageSuite.ManifestRange {S : Suite} {κ γ : Type} (C : StorageSuite S κ γ) : Prop :=
  ∀ bytes m, C.decodeManifest bytes = some m → m.version < 2 ^ 32 ∧ m.sequenceNumber < 2 ^ 64

/-- A file name as `Path` takes it apart. -/
structure FileName where
  stem : String
  extension : Option String
  deriving DecidableEq

def FileName.withExtension (name : FileName) (extension : String) : FileName :=
  { name with extension := some extension }

/-- The path of a store, other than the names `with_extension` derives from it: under `tmp` a save
truncates the stored blob, under `manifest` the rename replaces the manifest, under `lock` the guard
removes the blob. -/
structure StorePath extends FileName where
  plain : extension ≠ some "tmp" ∧ extension ≠ some "manifest" ∧ extension ≠ some "lock"

abbrev Directory := FileName → Option Bytes

/-- The files of a store at a `StorePath`, where they are four; `blob` is the path itself. -/
structure StoreFiles where
  blob : Option Bytes
  manifest : Option Bytes
  tmp : Option Bytes
  lock : Bool
  deriving DecidableEq

def Directory.files (d : Directory) (path : FileName) : StoreFiles where
  blob := d path
  manifest := d (path.withExtension "manifest")
  tmp := d (path.withExtension "tmp")
  lock := (d (path.withExtension "lock")).isSome

inductive FileOp where
  | createTmp
  | appendTmp (bytes : Bytes)
  | syncTmp
  | writeManifest (bytes : Bytes)
  | renameTmp
  deriving DecidableEq

def FileOp.apply (f : StoreFiles) : FileOp → StoreFiles
  | .createTmp => { f with tmp := some [] }
  | .appendTmp bytes => { f with tmp := f.tmp.map (· ++ bytes) }
  | .syncTmp => f
  | .writeManifest bytes => { f with manifest := some bytes }
  | .renameTmp => { f with blob := f.tmp, tmp := none }

/-- What one storage call takes from the operating system: the clock, the nonce, and which of
its file operations, counted from the lock, are refused. -/
structure DiskEnv where
  clock : Option Nat
  nonce : Option (FixedBytes 12)
  refuses : Nat → Bool

namespace SecureStorage

variable {S : Suite} {κ γ : Type}

/-- `SIBNA001`. -/
def magic : Bytes := [83, 73, 66, 78, 65, 48, 48, 49]

def currentVersion : Nat := 1

/-- `SibnaUnifiedStore_v1`. -/
def storeInfo : Bytes :=
  [83, 105, 98, 110, 97, 85, 110, 105, 102, 105, 101, 100, 83, 116, 111, 114, 101, 95, 118, 49]

def runOps (env : DiskEnv) : Nat → List FileOp → StoreFiles → Outcome StoreFiles Unit
  | _, [], f => (.ok (), f)
  | i, op :: ops, f =>
    if env.refuses i then (.error .storageError, f) else runOps env (i + 1) ops (op.apply f)

/-- `_acquire_lock`: a lock file that stays for 30 seconds is a timeout. The guard removes the
file on every way out. -/
def withLock {α : Type} (env : DiskEnv) (f : StoreFiles)
    (body : StoreFiles → Outcome StoreFiles α) : Outcome StoreFiles α :=
  if f.lock then (.error .timeout, f)
  else if env.refuses 0 then (.error .storageError, f)
  else
    let o := body { f with lock := true }
    (o.1, { o.2 with lock := false })

def sealPayload (C : StorageSuite S κ γ) (env : DiskEnv) (key : S.Key)
    (payload : StoragePayload (SavedSessions S) κ γ) : Except ProtocolError Bytes :=
  match C.encodePayload payload with
  | none => .error .serializationError
  | some plaintext =>
    match CryptoHandler.new key with
    | .error _ => .error .internalError
    | .ok handler =>
      match handler.encrypt env.nonce plaintext storeInfo with
      | .error _ => .error .storageError
      | .ok encrypted => .ok encrypted

def macInput (version sequenceNumber : Nat) (blobHash : Bytes32) : Bytes :=
  toLe 4 version ++ toLe 8 sequenceNumber ++ blobHash.val

def manifestFor (C : StorageSuite S κ γ) (key : S.Key) (version sequenceNumber : Nat)
    (encrypted : Bytes) : StorageManifest where
  version := version
  sequenceNumber := sequenceNumber
  blobHash := C.sha256 encrypted
  manifestMac := C.hmac key (macInput version sequenceNumber (C.sha256 encrypted))

def payloadFor (env : DiskEnv) (keystore : κ) (sessions : SessionManager S) (groups : γ)
    (sequenceNumber : Nat) (deviceId : FixedBytes 16) : StoragePayload (SavedSessions S) κ γ where
  version := currentVersion
  sequenceNumber := sequenceNumber
  keystore := keystore
  sessions := sessions.save
  groups := groups
  lastSave := env.clock.getD ((2 ^ 64 - 1) / 2)
  deviceId := deviceId

def tmpSteps (salt : Bytes32) (encrypted : Bytes) : List FileOp :=
  [.createTmp, .appendTmp magic, .appendTmp salt.val, .appendTmp encrypted, .syncTmp]

/-- What `save_context` does behind the lock file. -/
def lockedSave (C : StorageSuite S κ γ) (env : DiskEnv) (key : S.Key) (salt : Bytes32)
    (payload : StoragePayload (SavedSessions S) κ γ) (f : StoreFiles) : Outcome StoreFiles Unit :=
  match sealPayload C env key payload with
  | .error e => (.error e, f)
  | .ok encrypted =>
    match runOps env 1 (tmpSteps salt encrypted) f with
    | (.error e, f) => (.error e, f)
    | (.ok _, f) =>
      match C.encodeManifest
          (manifestFor C key payload.version payload.sequenceNumber encrypted) with
      | none => (.error .serializationError, f)
      | some bytes => runOps env 6 [.writeManifest bytes, .renameTmp] f

def saveContext (C : StorageSuite S κ γ) (env : DiskEnv) (files : StoreFiles) (key : S.Key)
    (salt : Bytes32) (keystore : κ) (sessions : SessionManager S) (groups : γ)
    (sequenceNumber : Nat) (deviceId : FixedBytes 16) : Outcome StoreFiles Unit :=
  withLock env files
    (lockedSave C env key salt (payloadFor env keystore sessions groups sequenceNumber deviceId))

def readBlob (blob : Bytes) : Option (Bytes × Bytes32 × Bytes) :=
  if h : 40 ≤ blob.length then
    some (blob.take 8, ⟨(blob.drop 8).take 32, by rw [List.length_take, List.length_drop]; omega⟩,
      blob.drop 40)
  else none

/-- What `load_context` checks and opens once both files are read. -/
def openPayload (C : StorageSuite S κ γ) (key : S.Key) (manifest : StorageManifest)
    (encrypted : Bytes) : Except ProtocolError (StoragePayload (SavedSessions S) κ γ) :=
  match CryptoHandler.new key with
  | .error _ => .error .internalError
  | .ok handler =>
    if manifest.manifestMac ≠
        C.hmac key (macInput manifest.version manifest.sequenceNumber manifest.blobHash) then
      .error .storageError
    else if manifest.blobHash ≠ C.sha256 encrypted then .error .storageError
    else
      match handler.decrypt encrypted storeInfo with
      | .error _ => .error .storageError
      | .ok plaintext =>
        match C.decodePayload plaintext with
        | none => .error .deserializationError
        | some payload =>
          if payload.sequenceNumber < manifest.sequenceNumber then .error .storageError
          else .ok payload

def loadContext (C : StorageSuite S κ γ) (env : DiskEnv) (sessionEnv : Bytes → Env S)
    (files : StoreFiles) (key : S.Key) :
    Outcome StoreFiles (StoragePayload (SessionManager S) κ γ × Bytes32) :=
  withLock env files fun f =>
    match f.manifest with
    | none => (.error .storageError, f)
    | some bytes =>
      if env.refuses 1 then (.error .storageError, f)
      else
        match C.decodeManifest bytes with
        | none => (.error .deserializationError, f)
        | some manifest =>
          if env.refuses 2 then (.error .storageError, f)
          else
            match f.blob.bind readBlob with
            | none => (.error .storageError, f)
            | some (magicRead, salt, encrypted) =>
              if magicRead ≠ magic then (.error .storageError, f)
              else
                match openPayload C key manifest encrypted with
                | .error e => (.error e, f)
                | .ok payload =>
                  (.ok ({ payload with sessions := payload.sessions.load sessionEnv }, salt), f)

variable {C : StorageSuite S κ γ} {env : DiskEnv} {files : StoreFiles} {key : S.Key}
  {payload : StoragePayload (SavedSessions S) κ γ} {salt : Bytes32} {encrypted : Bytes}

lemma runOps_ok {i : Nat} {ops : List FileOp} {f f' : StoreFiles}
    (h : runOps env i ops f = (.ok (), f')) : f' = ops.foldl FileOp.apply f := by
  induction ops generalizing i f with
  | nil =>
    cases h
    rfl
  | cons op ops ih =>
    rw [runOps] at h
    split at h
    · cases h
    · exact ih h

lemma withLock_ok {α : Type} {f f' : StoreFiles} {body : StoreFiles → Outcome StoreFiles α}
    {a : α} (h : withLock env f body = (.ok a, f')) : f.lock = false ∧ ∃ f₁,
    body { f with lock := true } = (.ok a, f₁) ∧ f' = { f₁ with lock := false } := by
  unfold withLock at h
  split at h
  · cases h
  rename_i hl
  refine ⟨Bool.eq_false_iff.mpr hl, ?_⟩
  split at h
  · cases h
  generalize body { f with lock := true } = o at h
  obtain ⟨r, f₁⟩ := o
  cases h
  exact ⟨f₁, rfl, rfl⟩

lemma sealPayload_ok (h : sealPayload C env key payload = .ok encrypted) : ∃ plaintext handler,
    C.encodePayload payload = some plaintext ∧ CryptoHandler.new key = .ok handler ∧
    handler.encrypt env.nonce plaintext storeInfo = .ok encrypted := by
  unfold sealPayload at h
  split at h
  · cases h
  rename_i plaintext hpl
  split at h
  · cases h
  rename_i handler hha
  split at h
  · cases h
  · simp_all

lemma saveContext_ok {f' : StoreFiles} {ke : κ} {se : SessionManager S} {g : γ} {sn : Nat}
    {di : FixedBytes 16} (h : saveContext C env files key salt ke se g sn di = (.ok (), f')) :
    ∃ encrypted manifest, sealPayload C env key (payloadFor env ke se g sn di) = .ok encrypted ∧
    C.encodeManifest (manifestFor C key currentVersion sn encrypted) = some manifest ∧
    f' = ⟨some (magic ++ salt.val ++ encrypted), some manifest, none, false⟩ := by
  obtain ⟨-, f₁, hb, rfl⟩ := withLock_ok h
  unfold lockedSave at hb
  split at hb
  · cases hb
  rename_i encrypted hse
  split at hb
  · cases hb
  rename_i htm
  split at hb
  · cases hb
  rename_i manifest hm
  have hf₂ := runOps_ok htm
  have hf₁ := runOps_ok hb
  refine ⟨encrypted, manifest, hse, hm, ?_⟩
  rw [hf₁, hf₂]
  simp only [tmpSteps, List.foldl_cons, List.foldl_nil, FileOp.apply, Option.map_some,
    List.nil_append]

lemma openPayload_ok {ma : StorageManifest} (h : openPayload C key ma encrypted = .ok payload) :
    ∃ handler plaintext, CryptoHandler.new key = .ok handler ∧
    handler.decrypt encrypted storeInfo = .ok plaintext ∧ C.decodePayload plaintext = some payload ∧
    ma.manifestMac = C.hmac key (macInput ma.version ma.sequenceNumber ma.blobHash) ∧
    ma.blobHash = C.sha256 encrypted ∧ ma.sequenceNumber ≤ payload.sequenceNumber := by
  unfold openPayload at h
  split at h
  · cases h
  rename_i handler hha
  split at h
  · cases h
  rename_i hmac
  split at h
  · cases h
  rename_i hhs
  split at h
  · cases h
  rename_i plaintext ho
  split at h
  · cases h
  · rename_i hde
    split at h
    · cases h
    · simp_all

def Holds (C : StorageSuite S κ γ) (key : S.Key) (files : StoreFiles)
    (payload : StoragePayload (SavedSessions S) κ γ) (salt : Bytes32) : Prop :=
  ∃ manifest encrypted, files.manifest.bind C.decodeManifest = some manifest ∧
    files.blob.bind readBlob = some (magic, salt, encrypted) ∧
    openPayload C key manifest encrypted = .ok payload

lemma loadContext_ok {se : Bytes → Env S} {f' : StoreFiles}
    {p : StoragePayload (SessionManager S) κ γ}
    (h : loadContext C env se files key = (.ok (p, salt), f')) :
    files.lock = false ∧ ∃ payload, Holds C key files payload salt ∧
      p = { payload with sessions := payload.sessions.load se } := by
  obtain ⟨hl, f₁, hb, -⟩ := withLock_ok h
  refine ⟨hl, ?_⟩
  split at hb
  · cases hb
  rename_i bytes hby
  split at hb
  · cases hb
  split at hb
  · cases hb
  rename_i manifest hma
  split at hb
  · cases hb
  split at hb
  · cases hb
  · rename_i encrypted hre
    split at hb
    · cases hb
    · rename_i hm
      split at hb
      · cases hb
      · rename_i payload ho
        cases hb
        obtain rfl := not_not.mp hm
        have hde : files.manifest.bind C.decodeManifest = some manifest := by simp_all
        exact ⟨payload, ⟨manifest, encrypted, hde, hre, ho⟩, rfl⟩

lemma loadContext_of_holds (se : Bytes → Env S) (hg : ∀ i, env.refuses i = false)
    (hl : files.lock = false) (h : Holds C key files payload salt) :
    loadContext C env se files key =
      (.ok ({ payload with sessions := payload.sessions.load se }, salt), files) := by
  obtain ⟨blob, mf, tmp, lock⟩ := files
  obtain rfl := hl
  obtain ⟨ma, encrypted, hm, hre, ho⟩ := h
  obtain ⟨bt, hb, hde⟩ := Option.bind_eq_some_iff.mp hm
  obtain rfl := hb
  simp only [loadContext, withLock, hg, hde, hre, ho, ne_eq, not_true_eq_false,
    if_false, Bool.false_eq_true]

lemma openPayload_manifestFor (hA : S.CorrectAead) (hL : S.AeadLength) (hC : C.RoundTrip)
    (v : Nat) (h : sealPayload C env key payload = .ok encrypted) :
    ∃ stored, C.Keeps payload stored ∧ stored.sequenceNumber = payload.sequenceNumber ∧
      openPayload C key (manifestFor C key v payload.sequenceNumber encrypted) encrypted =
        .ok stored := by
  obtain ⟨plaintext, handler, hen, hha, hec⟩ := sealPayload_ok h
  obtain ⟨keystore, groups, hde⟩ := hC _ _ hen
  have hdc := CryptoHandler.decrypt_of_encrypt hA hL hec
  refine ⟨{ payload with keystore, groups }, ⟨plaintext, hen, hde⟩, rfl, ?_⟩
  simp only [openPayload, hha, hdc, hde, manifestFor, ne_eq, not_true_eq_false,
    if_false, Nat.lt_irrefl]

lemma readBlob_append (salt : Bytes32) (encrypted : Bytes) :
    readBlob (magic ++ salt.val ++ encrypted) = some (magic, salt, encrypted) := by
  have hm : magic.length = 8 := rfl
  set blob := magic ++ salt.val ++ encrypted
  have hl : 40 ≤ blob.length := by grind
  have hhe : blob.take 8 = magic := by simp_all [blob]
  have hsa : (blob.drop 8).take 32 = salt.val := by simp_all [blob]
  have hr : blob.drop 40 = encrypted :=
    List.drop_left' (by rw [List.length_append, hm, FixedBytes.length_val])
  rw [readBlob, dif_pos hl]
  simp only [hhe, hsa, hr]

lemma loadContext_saveContext (hA : S.CorrectAead) (hC : C.RoundTrip) {env' : DiskEnv}
    {se : Bytes → Env S} {f₁ f₂ : StoreFiles} {salt' : Bytes32} {ke : κ}
    {ss : SessionManager S} {g : γ} {sn : Nat} {di : FixedBytes 16}
    {p : StoragePayload (SessionManager S) κ γ}
    (hsa : saveContext C env files key salt ke ss g sn di =
      (.ok (), f₁))
    (hl : loadContext C env' se f₁ key = (.ok (p, salt'), f₂)) :
    salt' = salt ∧ p.sessions = ss.save.load se ∧
      p.sequenceNumber = sn ∧ p.deviceId = di := by
  obtain ⟨encrypted, ma, hse, -, rfl⟩ := saveContext_ok hsa
  obtain ⟨pl, ha, hec, hha, hen⟩ := sealPayload_ok hse
  obtain ⟨-, payload, ⟨m', e', -, hre, ho⟩, rfl⟩ := loadContext_ok hl
  rw [Option.bind_some, readBlob_append, Option.some.injEq, Prod.mk.injEq, Prod.mk.injEq] at hre
  obtain ⟨-, rfl, rfl⟩ := hre
  obtain ⟨h', p', hh', hde, hdc, -⟩ := openPayload_ok ho
  cases hha.symm.trans hh'
  obtain rfl := CryptoHandler.decrypt_encrypt hA hen hde
  obtain ⟨ks, gs, hro⟩ := hC _ _ hec
  cases hro.symm.trans hdc
  exact ⟨rfl, rfl, rfl, rfl⟩

end SecureStorage

end Sibna
