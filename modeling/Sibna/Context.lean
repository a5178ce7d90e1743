import Sibna.Ratchet.SessionSpec
import Sibna.Storage

/-!
# Saving and loading a context

`SecureContext::save_to_disk` and `load_from_disk`, and a store that can be evaluated.
-/

namespace Sibna

structure SecureContext (S : Suite) (κ γ : Type) where
  keystore : κ
  sessions : SessionManager S
  groups : γ
  config : ContextConfig
  storageKey : S.Key
  storageSalt : Bytes32
  deviceId : FixedBytes 16
  sequenceNumber : Nat

namespace SecureContext

open DoubleRatchetSession SecureStorage

variable {S : Suite} {κ γ : Type}

/-- The sequence number moves on whether or not the save succeeds. -/
def saveToDisk (C : StorageSuite S κ γ) (env : DiskEnv) (files : StoreFiles)
    (ctx : SecureContext S κ γ) : Outcome (StoreFiles × SecureContext S κ γ) Unit :=
  let seq := (ctx.sequenceNumber + 1) % 2 ^ 64
  let o := saveContext C env files ctx.storageKey ctx.storageSalt ctx.keystore ctx.sessions
    ctx.groups seq ctx.deviceId
  (o.1, o.2, { ctx with sequenceNumber := seq })

/-- The salt is read from the file first, without a look at the magic. -/
def loadFromDisk (C : StorageSuite S κ γ) (env : DiskEnv) (sessionEnv : Bytes → Env S)
    (files : StoreFiles) (password : Bytes) : Outcome StoreFiles (SecureContext S κ γ) :=
  match files.blob.bind readBlob with
  | none => (.error .storageError, files)
  | some (_, salt, _) =>
    match C.argon2id password salt with
    | none => (.error .keyDerivationFailed, files)
    | some storageKey =>
      match loadContext C env sessionEnv files storageKey with
      | (.error e, files) => (.error e, files)
      | (.ok (payload, _), files) =>
        match env.nonce with
        | none => (.error .randomFailed, files)
        | some _ =>
          (.ok {
            keystore := payload.keystore
            sessions := payload.sessions
            groups := payload.groups
            config := payload.sessions.config
            storageKey
            storageSalt := salt
            deviceId := payload.deviceId
            sequenceNumber := payload.sequenceNumber }, files)

section
variable {C : StorageSuite S κ γ} {env : DiskEnv} {files : StoreFiles} {ctx : SecureContext S κ γ}

lemma saveToDisk_ok {f' : StoreFiles} {ctx' : SecureContext S κ γ}
    (h : ctx.saveToDisk C env files = (.ok (), f', ctx')) :
    saveContext C env files ctx.storageKey ctx.storageSalt ctx.keystore ctx.sessions ctx.groups
      ((ctx.sequenceNumber + 1) % 2 ^ 64) ctx.deviceId = (.ok (), f') := by
  rw [saveToDisk, Prod.mk.injEq, Prod.mk.injEq] at h
  exact Prod.ext h.1 h.2.1

lemma loadFromDisk_ok {se : Bytes → Env S} {f' : StoreFiles} {p : Bytes}
    (h : loadFromDisk C env se files p = (.ok ctx, f')) :
    ∃ magicRead salt encrypted storageKey payload salt',
    files.blob.bind readBlob = some (magicRead, salt, encrypted) ∧
    C.argon2id p salt = some storageKey ∧
    loadContext C env se files storageKey = (.ok (payload, salt'), f') ∧
    ctx.sessions = payload.sessions := by
  unfold loadFromDisk at h
  split at h
  · cases h
  rename_i magicRead salt encrypted hre
  split at h
  · cases h
  rename_i storageKey hk
  split at h
  · cases h
  rename_i payload salt' f hl
  split at h
  · cases h
  · grind

lemma lookup_loadFromDisk (hA : S.CorrectAead) (hC : C.RoundTrip) {env' : DiskEnv}
    {se : Bytes → Env S} {f₁ f₂ : StoreFiles} {ctx₁ ctx' : SecureContext S κ γ}
    {p : Bytes} (hpa : C.argon2id p ctx.storageSalt = some ctx.storageKey)
    (hsv : ctx.saveToDisk C env files = (.ok (), f₁, ctx₁))
    (hlo : loadFromDisk C env' se f₁ p = (.ok ctx', f₂)) (id : Bytes) :
    ctx'.sessions.sessions.lookup id =
      (ctx.sessions.sessions.lookup id).map fun s => loadSession (se id) s.save := by
  have hsa := saveToDisk_ok hsv
  obtain ⟨mr, salt, en, key, pa, salt', hre, hk, hp, hse⟩ :=
    loadFromDisk_ok hlo
  obtain ⟨e', ma, -, -, rfl⟩ := saveContext_ok hsa
  rw [Option.bind_some, readBlob_append, Option.some.injEq, Prod.mk.injEq, Prod.mk.injEq] at hre
  obtain ⟨-, rfl, -⟩ := hre
  cases hpa.symm.trans hk
  obtain ⟨-, hl, -⟩ := loadContext_saveContext hA hC hsa hp
  rw [hse, hl, SavedSessions.lookup_load_save]

lemma loadSession_dhLocal (env : Env S) (d : SavedState S) :
    (loadSession env d).dhLocal = none := by
  obtain ⟨a, heq⟩ := jumpToReservation_eq env d.load
  rw [loadSession, heq]
  rfl

lemma loadSession_dhRemote (env : Env S) (d : SavedState S) :
    (loadSession env d).dhRemote = none := by
  obtain ⟨a, heq⟩ := jumpToReservation_eq env d.load
  rw [loadSession, heq]
  rfl

lemma lookup_loadSession (env : Env S) (s : DoubleRatchetState S) (k : Bytes32 × Nat) :
    (loadSession env s.save).skippedMessageKeys.lookup k = s.skippedMessageKeys.lookup k := by
  obtain ⟨a, heq⟩ := jumpToReservation_eq env s.save.load
  rw [loadSession, heq]
  exact s.lookup_load_save k

lemma loadSession_reserved {env : Env S} {d : SavedState S} {c : ChainKey S}
    (h : (loadSession env d).sendingChain = some c) : c.reservedUntil ≤ c.index := by
  obtain ⟨a, heq⟩ := jumpToReservation_eq env d.load
  rw [loadSession, heq] at h
  obtain ⟨ck, -, rfl⟩ := Option.map_eq_some_iff.mp h
  exact Nat.le_max_right _ _

lemma encrypt_loadSession (co : Config) (env env' : Env S) (d : SavedState S) (p ad : Bytes) :
    ∃ e, (encrypt co env' (loadSession env d) p ad).1 = .error e := by
  generalize ho : encrypt co env' (loadSession env d) p ad = o
  obtain ⟨r, s'⟩ := o
  cases r with
  | error e => exact ⟨e, rfl⟩
  | ok wire =>
    obtain ⟨sent, hse, -⟩ := map_ok ho
    obtain ⟨s₁, hta, -⟩ := encryptMessage_ok hse
    obtain ⟨a, c, -, hc, hre, -⟩ := takeSendKey_ok hta
    have hch : (loadSession env d).sendingChain = some c := by
      rw [← hc, rotateIfNeeded]
      split
      · rw [performDhRatchet_none (loadSession_dhRemote env d)]
        rfl
      · rfl
    have hle := loadSession_reserved hch
    omega

lemma decrypt_loadSession {co : Config} {env env' : Env S} {d : SavedState S} {me ad p : Bytes}
    (h : (decrypt co env' (loadSession env d) me ad).1 = .ok p) : ∃ m,
    parseMessage co (loadSession env d) me = .ok m ∧
    ((loadSession env d).skippedMessageKeys.lookup m.header.tag).isSome := by
  generalize ho : decrypt co env' (loadSession env d) me ad = o at h
  obtain ⟨r, s'⟩ := o
  cases h
  obtain ⟨dm, hdm, -⟩ := map_ok ho
  obtain ⟨m, hp, hpa⟩ := decryptMessage_ok hdm
  refine ⟨m, hp, ?_⟩
  rcases decryptParsed_ok hpa with ⟨mk, hmk, -⟩ | ⟨s₁, c, s₂, hal, -⟩
  · rw [hmk]
    rfl
  rcases alignReceiving_frame hal with ⟨-, hn⟩ | htu
  · rw [needsRatchet, loadSession_dhRemote] at hn
    cases hn
  · obtain ⟨b, n, hb, -⟩ := htu.receiving
    rw [loadSession_dhLocal] at hb
    cases hb

/-- Whatever session is saved and loaded, no call of its `encrypt` succeeds as the next one, and
all it still decrypts are messages for which a key had been set aside before the save. -/
theorem reloaded_session_unusable (hA : S.CorrectAead) (C : StorageSuite S κ γ) (hC : C.RoundTrip)
    (env env' : DiskEnv) (sessionEnv : Bytes → Env S) (files files₁ files₂ : StoreFiles)
    (ctx ctx₁ ctx' : SecureContext S κ γ) (password : Bytes)
    (hpassword : C.argon2id password ctx.storageSalt = some ctx.storageKey)
    (hsave : ctx.saveToDisk C env files = (.ok (), files₁, ctx₁))
    (hload : loadFromDisk C env' sessionEnv files₁ password = (.ok ctx', files₂))
    (id : Bytes) (s : DoubleRatchetState S) (hs : ctx.sessions.sessions.lookup id = some s) :
    ∃ s', ctx'.sessions.sessions.lookup id = some s' ∧
      (∀ config env plaintext ad, ∃ e, (encrypt config env s' plaintext ad).1 = .error e) ∧
      ∀ config env message ad plaintext, (decrypt config env s' message ad).1 = .ok plaintext →
        ∃ m, parseMessage config s' message = .ok m ∧
          (s.skippedMessageKeys.lookup m.header.tag).isSome := by
  refine ⟨loadSession (sessionEnv id) s.save, ?_, ?_, ?_⟩
  · rw [lookup_loadFromDisk hA hC hpassword hsave hload, hs, Option.map_some]
  · intro config env plaintext ad
    exact encrypt_loadSession config _ env s.save plaintext ad
  intro config env message ad plaintext hplain
  obtain ⟨m, hparse, hkey⟩ := decrypt_loadSession hplain
  refine ⟨m, hparse, ?_⟩
  rw [lookup_loadSession] at hkey
  exact hkey

end

open Symbolic

def oneSession (s : DoubleRatchetState suite) (config : Config) :
    SecureContext suite Unit Unit where
  keystore := ()
  sessions := ⟨AList.singleton [7] s, ⟨config, false, false⟩⟩
  groups := ()
  config := ⟨config, false, false⟩
  storageKey := .atom (.sessionRoot secret)
  storageSalt := secret
  deviceId := ⟨List.replicate 16 1, device_length⟩
  sequenceNumber := 0

def digest (bytes : Bytes) : Bytes32 :=
  ⟨(bytes ++ List.replicate 32 0).take 32, by simp⟩

def oneStore (payload : StoragePayload (SavedSessions suite) Unit Unit)
    (manifest : StorageManifest) : StorageSuite suite Unit Unit where
  argon2id := fun _ salt => some (.atom (.sessionRoot salt))
  sha256 := digest
  hmac := fun _ bytes => digest bytes
  encodePayload := fun p => if p = payload then some [1] else none
  decodePayload := fun _ => some payload
  encodeManifest := fun m => if m = manifest then some [2] else none
  decodeManifest := fun _ => some manifest

lemma oneStore_roundTrip (pa : StoragePayload (SavedSessions suite) Unit Unit)
    (ma : StorageManifest) : (oneStore pa ma).RoundTrip := by
  intro p bt h
  simp only [oneStore, ite_eq_iff, reduceCtorEq, and_false, or_false] at h
  exact ⟨(), (), by rw [h.1]; rfl⟩

def storeOf (env : DiskEnv) (ctx : SecureContext suite Unit Unit) : StorageSuite suite Unit Unit :=
  let payload := payloadFor env () ctx.sessions () ((ctx.sequenceNumber + 1) % 2 ^ 64) ctx.deviceId
  let encrypted := (env.nonce.map fun n =>
    n.val ++ suite.aeadEncrypt ctx.storageKey n.val storeInfo [1]).getD []
  let mac := digest (macInput 1 ((ctx.sequenceNumber + 1) % 2 ^ 64) (digest encrypted))
  oneStore payload ⟨1, (ctx.sequenceNumber + 1) % 2 ^ 64, digest encrypted, mac⟩

theorem reloaded_responder_unusable :
    let disk : DiskEnv := ⟨some 1004, some nonce, fun _ => false⟩
    let ctx := oneSession (session false .responder) (Symbolic.config false)
    let saved := ctx.saveToDisk (storeOf disk ctx) disk ⟨none, none, none, false⟩
    let loaded := loadFromDisk (storeOf disk ctx) disk (fun _ => env 1004 0) saved.2.1 []
    ∃ ctx' s', loaded.1 = .ok ctx' ∧ ctx'.sessions.sessions.lookup [7] = some s' ∧
      ∀ config env plaintext ad, ∃ e, (encrypt config env s' plaintext ad).1 = .error e := by
  intro disk ctx saved loaded
  have hsaved : saved.1 = .ok () := by decide +kernel
  have hloaded : loaded.1.toOption.isSome := by decide +kernel
  obtain ⟨ctx', hctx⟩ := exists_ok_of_isSome hloaded
  obtain ⟨s', hs', hencrypt, -⟩ := reloaded_session_unusable correctAead
    (storeOf disk ctx) (oneStore_roundTrip _ _) disk disk (fun _ => env 1004 0) _ saved.2.1
    loaded.2 ctx saved.2.2 ctx' [] rfl (Prod.ext hsaved rfl) (Prod.ext hctx rfl) [7]
    (session false .responder) rfl
  exact ⟨ctx', s', hctx, hs', hencrypt⟩

/-- The responder has received the first message. Left alone it sends and receives; saved and
loaded it does neither. -/
theorem reloaded_session_refuses :
    let disk : DiskEnv := ⟨some 1004, some nonce, fun _ => false⟩
    let config := Symbolic.config false
    let first := encrypt config (env 1001 3) (session false .initiator) [10] []
    let s := (decrypt config (env 1002 4) (session false .responder)
      (sentBytes first) []).2
    let answer := encrypt config (env 1005 5) s [20] []
    let next := encrypt config (env 1003 6) first.2 [11] []
    let ctx := oneSession s config
    let saved := ctx.saveToDisk (storeOf disk ctx) disk ⟨none, none, none, false⟩
    let loaded := loadFromDisk (storeOf disk ctx) disk (fun _ => env 1004 0) saved.2.1 []
    let s' := (loaded.1.toOption.bind fun c => c.sessions.sessions.lookup [7]).getD s
    (decrypt config (env 1006 7) first.2 (sentBytes answer) []).1 = .ok [20] ∧
    (decrypt config (env 1006 7) s (sentBytes next) []).1 = .ok [11] ∧
    saved.1 = .ok () ∧ loaded.1.toOption.isSome ∧
    (encrypt config (env 1005 5) s' [20] []).1 = .error .invalidState ∧
    (decrypt config (env 1006 7) s' (sentBytes next) []).1 =
      .error .invalidState := by
  decide +kernel

end SecureContext

end Sibna

namespace Sibna.Symbolic

open LittleEndian SecureStorage SecureContext

def encodeManifest (m : StorageManifest) : Option Bytes :=
  if m.version < 2 ^ 32 ∧ m.sequenceNumber < 2 ^ 64 then
    some (toLe 4 m.version ++ (toLe 8 m.sequenceNumber ++ (m.blobHash.val ++ m.manifestMac.val)))
  else none

def decodeManifest (bytes : Bytes) : Option StorageManifest :=
  if h : 76 ≤ bytes.length then
    some {
      version := fromLe (bytes.take 4)
      sequenceNumber := fromLe ((bytes.drop 4).take 8)
      blobHash := ⟨(bytes.drop 12).take 32, by rw [List.length_take, List.length_drop]; omega⟩
      manifestMac := ⟨(bytes.drop 44).take 32, by rw [List.length_take, List.length_drop]; omega⟩ }
  else none

abbrev ShortPayload := StoragePayload (SavedSessions short) Unit Unit

def storage (payloads : List ShortPayload) : StorageSuite short Unit Unit where
  argon2id := fun _ salt => some (.atom (.sessionRoot salt))
  sha256 := digest
  hmac := fun _ bytes => digest bytes
  encodePayload := fun p => (payloads.idxOf? p).map fun i => List.replicate i 1
  decodePayload := fun bytes => payloads[bytes.length]?
  encodeManifest := encodeManifest
  decodeManifest := decodeManifest

lemma storage_roundTrip (pa : List ShortPayload) : (storage pa).RoundTrip := by
  intro p bt h
  obtain ⟨i, hi, rfl⟩ := Option.map_eq_some_iff.mp h
  refine ⟨(), (), ?_⟩
  obtain ⟨hlt, heq, -⟩ := List.idxOf?_eq_some_iff.mp hi
  have hp : pa[i] = p := by simpa using heq
  simp only [storage, List.length_replicate]
  rw [List.getElem?_eq_getElem hlt, hp]

lemma storage_manifestRoundTrip (p : List ShortPayload) : (storage p).ManifestRoundTrip := by
  intro m bt h
  simp only [storage, encodeManifest] at h
  split at h
  · rename_i hra
    cases h
    have hv : fromLe (toLe 4 m.version) = m.version := fromLe_toLe hra.1
    have hse : fromLe (toLe 8 m.sequenceNumber) = m.sequenceNumber := fromLe_toLe hra.2
    generalize hb : toLe 4 m.version ++ (toLe 8 m.sequenceNumber ++ _) = bt
    have hl : bt.length = 76 := by simp [← hb]
    have h4 : bt.drop 4 = toLe 8 m.sequenceNumber ++ (m.blobHash.val ++ m.manifestMac.val) := by
      rw [← hb, List.drop_left' (toLe_length 4 _)]
    have h12 : bt.drop 12 = m.blobHash.val ++ m.manifestMac.val := by
      rw [show 12 = 4 + 8 from rfl, ← List.drop_drop, h4, List.drop_left' (toLe_length 8 _)]
    have h44 : bt.drop 44 = m.manifestMac.val := by
      rw [show 44 = 12 + 32 from rfl, ← List.drop_drop, h12, List.drop_left' m.blobHash.property]
    have hhe : bt.take 4 = toLe 4 m.version := by
      rw [← hb, List.take_left' (toLe_length 4 _)]
    have hmac := List.take_of_length_le (Nat.le_of_eq m.manifestMac.property)
    simp only [storage, decodeManifest]
    rw [dif_pos (Nat.le_of_eq hl.symm)]
    simp only [hhe, h4, h12, h44, hmac, hv, hse, List.take_left' (toLe_length 8 _),
      List.take_left' m.blobHash.property]
  · cases h

lemma storage_manifestRange (p : List ShortPayload) : (storage p).ManifestRange := by
  intro bt m h
  have hde : decodeManifest bt = some m := h
  unfold decodeManifest at hde
  split at hde
  · cases hde
    have hv := fromLe_lt (bt.take 4)
    have hse := fromLe_lt ((bt.drop 4).take 8)
    rw [List.length_take, Nat.min_eq_left (by omega)] at hv
    rw [List.length_take, List.length_drop, Nat.min_eq_left (by omega)] at hse
    exact ⟨hv, hse⟩
  · cases hde

def disk (n : UInt8) : DiskEnv :=
  ⟨some 1000, some ⟨List.replicate 12 n, by simp⟩, fun _ => false⟩

def storageKey : short.Key := .atom (.sessionRoot secret)

def noSessions : SessionManager short := ⟨∅, ⟨config false, false, false⟩⟩

def storageDevice : FixedBytes 16 := ⟨List.replicate 16 1, device_length⟩

def numbered (n : UInt8) : ShortPayload :=
  payloadFor (disk n) () noSessions () n.toNat storageDevice

def twoSaves : StorageSuite short Unit Unit := storage [numbered 1, numbered 2]

def saveNumbered (n : UInt8) (files : StoreFiles) : Outcome StoreFiles Unit :=
  saveContext twoSaves (disk n) files storageKey secret () noSessions () n.toNat storageDevice

def savedOnce : StoreFiles := (saveNumbered 1 ⟨none, none, none, false⟩).2

def sessionEnv (_ : Bytes) : Env short := ⟨Clock.at 1000 (by decide), (0 : UInt64), none, none⟩

def loadNumbered (files : StoreFiles) : Except ProtocolError Nat :=
  (loadContext twoSaves (disk 0) sessionEnv files storageKey).1.map (·.1.sequenceNumber)

end Sibna.Symbolic
