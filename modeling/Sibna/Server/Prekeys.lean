import Sibna.Handshake.PreKeyBundle
import Sibna.Lib.Interleaving
import Sibna.Server.Db

/-!
# Prekeys on the server

The prekey handlers of `main.rs`, without the log lines, whose slices can panic.
-/

namespace Sibna.Server.Prekeys

open Interleaving Text

variable {S : Suite}

section
variable (bundle : PreKeyBundle) (rootId : Bytes)

def resortKey : Bytes := utf8 "prekey_resort:" ++ rootId

def deviceKey (deviceId : UInt32) : Bytes :=
  rootId ++ colon :: decimal deviceId.toNat

def rootPrefix : Bytes := rootId ++ [colon]

def rootIdOf : Bytes := hexEncode bundle.rootIdentityKey.val

/-- `isLastResort` is the flag of the request. -/
def dbKey (isLastResort : Option Bool) : Bytes :=
  if isLastResort.getD false then resortKey (rootIdOf bundle)
  else deviceKey (rootIdOf bundle) bundle.deviceId

lemma resortKey_eq : resortKey rootId = utf8 "prekey_resort" ++ colon :: rootId := by
  have h : utf8 "prekey_resort:" = utf8 "prekey_resort" ++ [colon] := by decide +kernel
  rw [resortKey, h, List.append_assoc, List.singleton_append]

lemma colon_notMem_resort : colon ∉ utf8 "prekey_resort" := by decide +kernel

lemma hexDecode_resort : hexDecode (utf8 "prekey_resort") = none := by decide +kernel

lemma resort_ne_of_hexDecode {text bs : Bytes} (h : hexDecode text = some bs) :
    utf8 "prekey_resort" ≠ text := by
  rintro rfl
  rw [hexDecode_resort] at h
  cases h

lemma resort_ne_rootIdOf (bu : PreKeyBundle) : utf8 "prekey_resort" ≠ rootIdOf bu :=
  resort_ne_of_hexDecode (hexDecode_hexEncode _)

/-- What the handlers do outside of themselves; `respond` is the answer that goes out. -/
inductive Op where
  | enforceRateLimit (identity : Bytes)
  | now
  | tree (op : TreeOp Bytes)
  | respond (response : Response (List Bytes))

@[reducible] def Op.Ans : Op → Type
  | .enforceRateLimit _ => Option String
  | .now => Option Nat
  | .tree op => op.Ans
  | .respond _ => Unit

/-- What an operation meets: the error of the rate limiter if it refuses, the transaction, the
clock. -/
structure OpEnv where
  refusal : Option String
  access : Access
  clock : Option Nat

def act (e : OpEnv) : (op : Op) → Table Bytes → op.Ans × Table Bytes
  | .enforceRateLimit _, t => (e.refusal, t)
  | .now, t => (e.clock, t)
  | .tree op, t => Table.act e.access op t
  | .respond _, t => ((), t)

abbrev Handler := Prog Op Op.Ans

def perform (op : Op) : Handler op.Ans := Prog.perform op

structure UploadPrekeyRequest where
  bundleHex : Bytes
  isLastResort : Option Bool

def reusesId : Option (Option Bytes) → Bool
  | some (some existing) =>
    match PreKeyBundle.parse existing with
    | .ok existingBundle => bundle.bundleId == existingBundle.bundleId
    | .error _ => false
  | _ => false

end

def replayed : Response (List Bytes) :=
  ⟨.conflict, .text "Replay attack detected: bundle_id reused"⟩

def storeBundle (bundleBytes : Bytes) (bundle : PreKeyBundle) (key : Bytes) :
    Handler (Response (List Bytes)) := do
  let existing ← perform (.tree (.get key))
  if reusesId bundle existing then
    return replayed
  else
    match ← perform (.tree (.insert key bundleBytes)) with
    | none => return ⟨.internalServerError, .empty⟩
    | some () => return ⟨.ok, .empty⟩

section
variable (H : HandshakeSuite S)

def uploadPrekeyHandler (claims : Claims) (payload : UploadPrekeyRequest) :
    Handler (Response (List Bytes)) := do
  match ← perform (.enforceRateLimit claims.sub) with
  | some text => return tooManyRequests text
  | none =>
    match hexDecode payload.bundleHex with
    | none => return ⟨.badRequest, .text "Invalid hex encoding"⟩
    | some bundleBytes =>
      match PreKeyBundle.parse bundleBytes with
      | .error _ => return ⟨.badRequest, .text "Malformed PreKeyBundle"⟩
      | .ok bundle =>
        match bundle.validate H (← perform .now) with
        | .error e => return ⟨.badRequest, .text ("Invalid bundle: " ++ e.debug)⟩
        | .ok () =>
          match ← perform (.enforceRateLimit (rootIdOf bundle)) with
          | some text => return tooManyRequests text
          | none => storeBundle bundleBytes bundle (dbKey bundle payload.isLastResort)

def isValidBundle (bytes : Bytes) : Handler Bool :=
  match PreKeyBundle.parse bytes with
  | .error _ => return false
  | .ok bundle => do return (bundle.validate H (← perform .now)).isOk

def collectBundles (H : HandshakeSuite S) : List (Bytes × Bytes) → Handler (List Bytes)
  | [] => return []
  | (_, bundleBytes) :: entries => do
    let valid ← isValidBundle H bundleBytes
    let fetched ← collectBundles H entries
    return if valid then hexEncode bundleBytes :: fetched else fetched

/-- The last-resort bundle is asked for where no one-time bundle was found. -/
def orLastResort (rootId : Bytes) (fetched : List Bytes) : Handler (List Bytes) :=
  if fetched.isEmpty then do
    match ← perform (.tree (.get (resortKey rootId))) with
    | some (some resortBytes) =>
      return if ← isValidBundle H resortBytes then [hexEncode resortBytes] else []
    | _ => return []
  else return fetched

def removeAll : List Bytes → Handler Unit
  | [] => return ()
  | key :: keys => do
    let _ ← perform (.tree (.remove key))
    removeAll keys

/-- Every scanned key is removed, where there is something to return. -/
def answerFetch (entries : List (Bytes × Bytes)) (fetched : List Bytes) :
    Handler (Response (List Bytes)) := do
  if fetched.isEmpty then
    return ⟨.notFound, .empty⟩
  else
    removeAll (entries.map Prod.fst)
    return ⟨.ok, .json fetched⟩

def fetchPrekeyHandler (rootId : Bytes) : Handler (Response (List Bytes)) := do
  match ← perform (.enforceRateLimit rootId) with
  | some text => return tooManyRequests text
  | none =>
    let entries ← perform (.tree (.scanPrefix (rootPrefix rootId)))
    let fetched ← collectBundles H entries
    let fetched ← orLastResort H rootId fetched
    answerFetch entries fetched

def deleteAll : List Bytes → Handler Bool
  | [] => return false
  | key :: keys => do
    let removed ← perform (.tree (.remove key))
    let deleted ← deleteAll keys
    return (removed.getD none).isSome || deleted

def deletePrekeyHandler (claims : Claims) (rootId : Bytes) : Handler (Response (List Bytes)) := do
  if claims.sub ≠ rootId then
    return ⟨.forbidden, .text "Cannot delete another user's prekeys"⟩
  else
    let entries ← perform (.tree (.scanPrefix (rootPrefix rootId)))
    let deleted ← deleteAll (entries.map Prod.fst)
    return if deleted then ⟨.ok, .empty⟩ else ⟨.notFound, .empty⟩

inductive Call where
  | upload (claims : Claims) (payload : UploadPrekeyRequest)
  | fetch (rootId : Bytes)
  | delete (claims : Claims) (rootId : Bytes)

def handle : Call → Handler (Response (List Bytes))
  | .upload claims payload => uploadPrekeyHandler H claims payload
  | .fetch rootId => fetchPrekeyHandler H rootId
  | .delete claims rootId => deletePrekeyHandler claims rootId

@[reducible] def prekeys : System where
  Op := Op
  Ans := Op.Ans
  Shared := Table Bytes
  Env := OpEnv
  Call := Call
  Result := Unit
  act := act
  body := fun c => do perform (.respond (← handle H c))

def served (es : Schedule (prekeys H)) : World (prekeys H) :=
  Runs.exec World.step (World.initial (M := prekeys H) ∅) es

lemma lookup_perform {H : HandshakeSuite S} (s : State (prekeys H)) (i : Nat) (c : Call)
    (e : OpEnv) (op : Op) (k : Bytes) :
    Table.Steps Op.tree op e.access s.shared (s.perform i c e op).shared k := by
  cases op with
  | tree op => exact .act Op.tree op e.access s.shared k
  | enforceRateLimit | now | respond => exact .inl rfl

def UploadPrekeyRequest.Carries (payload : UploadPrekeyRequest) (bytes : Bytes)
    (bundle : PreKeyBundle) (key : Bytes) : Prop :=
  hexDecode payload.bundleHex = some bytes ∧ PreKeyBundle.parse bytes = .ok bundle ∧
    dbKey bundle payload.isLastResort = key

def UploadPrekeyRequest.bundle (payload : UploadPrekeyRequest) : Option PreKeyBundle :=
  (hexDecode payload.bundleHex).bind fun bytes => (PreKeyBundle.parse bytes).toOption

lemma UploadPrekeyRequest.Carries.bundle {p : UploadPrekeyRequest} {bt : Bytes}
    {b : PreKeyBundle} {key : Bytes} (h : p.Carries bt b key) : p.bundle = some b := by
  obtain ⟨hb, hp, -⟩ := h
  rw [UploadPrekeyRequest.bundle, hb, Option.bind_some, hp]
  rfl

end

namespace Op

def isRespond : Op → Bool
  | .respond _ => true
  | _ => false

def isGet : Op → Bool
  | .tree (.get _) => true
  | _ => false

def storesOrResponds : Op → Bool
  | .tree (.insert _ _) => true
  | .respond _ => true
  | _ => false

def removes (key : Bytes) : Op → Bool
  | .tree (.remove k) => k = key
  | _ => false

def isWork : Op → Bool
  | .enforceRateLimit _ => false
  | _ => true

end Op

def UploadDoes (H : HandshakeSuite S) (payload : UploadPrekeyRequest) (past : History Op Op.Ans) :
    Op → Prop
  | .enforceRateLimit _ => True
  | .now => True
  | .tree (.get key) => Without Op.isGet past ∧ ∃ bytes bundle clock,
      payload.Carries bytes bundle key ∧ bundle.validate H clock = .ok ()
  | .tree (.insert key value) => Without Op.storesOrResponds past ∧ ∃ bundle clock existing,
      payload.Carries value bundle key ∧ bundle.validate H clock = .ok () ∧
      ⟨.tree (.get key), existing⟩ ∈ past ∧ reusesId bundle existing = false
  | .tree _ => False
  | .respond r => r.status = .tooManyRequests ∨ r.status = .badRequest ∨
      ∃ bytes bundle key existing, payload.Carries bytes bundle key ∧
        ⟨.tree (.get key), existing⟩ ∈ past ∧ (reusesId bundle existing = true → r = replayed)

def FetchDoes (rootId : Bytes) (past : History Op Op.Ans) : Op → Prop
  | .enforceRateLimit _ => True
  | .now => True
  | .tree (.get key) => key = resortKey rootId
  | .tree (.scanPrefix pfx) => pfx = rootPrefix rootId ∧ Without Op.isWork past
  | .tree (.remove key) => Without (Op.removes key) past ∧ Without Op.isRespond past ∧ ∃ entries,
      ⟨.tree (.scanPrefix (rootPrefix rootId)), entries⟩ ∈ past ∧ key ∈ entries.map Prod.fst
  | .tree _ => False
  | .respond r => r.status = .ok → ∀ pfx entries, ⟨.tree (.scanPrefix pfx), entries⟩ ∈ past →
      ∀ key ∈ entries.map Prod.fst, ∃ removed, ⟨.tree (.remove key), removed⟩ ∈ past

def DeleteDoes (claims : Claims) (rootId : Bytes) : Op → Prop
  | .tree (.scanPrefix pfx) => claims.sub = rootId ∧ pfx = rootPrefix rootId
  | .tree (.remove key) => claims.sub = rootId ∧ rootPrefix rootId <+: key
  | .tree _ => False
  | .enforceRateLimit _ => False
  | .now => False
  | .respond _ => True

def Does (H : HandshakeSuite S) (c : Call) (past : History Op Op.Ans) : Op → Prop :=
  match c with
  | .upload _ payload => UploadDoes H payload past
  | .fetch rootId => FetchDoes rootId past
  | .delete claims rootId => DeleteDoes claims rootId

section
variable (H : HandshakeSuite S)

variable {rootId : Bytes} {entries : List (Bytes × Bytes)} {past : History Op Op.Ans}

lemma always_storeBundle {p : UploadPrekeyRequest} {bt key : Bytes}
    {bu : PreKeyBundle} {cl : Option Nat} (hca : p.Carries bt bu key)
    (hv : bu.validate H cl = .ok ()) (hl : Without Op.isGet past)
    (hs : Without Op.storesOrResponds past) :
    (storeBundle bt bu key).Always (prekeys H).Possible (UploadDoes H p)
      (fun past r => UploadDoes H p past (.respond r)) past := by
  refine Prog.always_perform ⟨hl, bt, bu, cl, hca, hv⟩ fun ex _ => ?_
  split
  · exact .inr (.inr ⟨bt, bu, key, ex, hca, .head _, fun _ => rfl⟩)
  rename_i hf
  refine Prog.always_perform ⟨hs.cons rfl, bu, cl, ex, hca, hv, .head _, Bool.eq_false_iff.mpr hf⟩
    fun i _ => ?_
  have hdo : ∀ r, UploadDoes H p (⟨.tree (.insert key bt), i⟩ ::
      ⟨.tree (.get key), ex⟩ :: past) (.respond r) := fun r =>
    .inr (.inr ⟨bt, bu, key, ex, hca, .tail _ (.head _), fun h => absurd h hf⟩)
  cases i with
  | none | some => exact hdo _

lemma always_upload (cl : Claims) (p : UploadPrekeyRequest) :
    (uploadPrekeyHandler H cl p).Always (prekeys H).Possible (UploadDoes H p)
    (fun past r => UploadDoes H p past (.respond r)) [] := by
  refine Prog.always_perform trivial fun re _ => ?_
  cases re with
  | some text => exact .inl rfl
  | none =>
    simp only
    split
    · exact .inr (.inl rfl)
    rename_i hby
    split
    · exact .inr (.inl rfl)
    rename_i hb
    refine Prog.always_perform trivial fun co _ => ?_
    split
    · exact .inr (.inl rfl)
    rename_i hv
    refine Prog.always_perform trivial fun re _ => ?_
    cases re with
    | some text => exact .inl rfl
    | none =>
      exact always_storeBundle H ⟨hby, hb, rfl⟩ hv (by simp [Without, Op.isGet])
        (by simp [Without, Op.storesOrResponds])

structure Scanned (rootId : Bytes) (entries : List (Bytes × Bytes)) (past : History Op Op.Ans) :
    Prop where
  scan : ⟨.tree (.scanPrefix (rootPrefix rootId)), entries⟩ ∈ past
  only : ∀ pfx entries', ⟨.tree (.scanPrefix pfx), entries'⟩ ∈ past → entries' = entries
  unanswered : Without Op.isRespond past

section
variable {rootId : Bytes} {entries : List (Bytes × Bytes)} {past : History Op Op.Ans} {op : Op}
  {ans : op.Ans}

lemma Scanned.cons (h : Scanned rootId entries past) (hre : op.isRespond = false)
    (hsc : ∀ pfx, op ≠ .tree (.scanPrefix pfx)) : Scanned rootId entries (⟨op, ans⟩ :: past) where
  scan := List.mem_cons_of_mem _ h.scan
  only := by
    intro pfx e' hm
    rcases List.mem_cons.mp hm with heq | hm
    · exact absurd (congrArg Sigma.fst heq).symm (hsc pfx)
    · exact h.only pfx e' hm
  unanswered := h.unanswered.cons hre

def Reading (rootId : Bytes) (entries : List (Bytes × Bytes)) (past : History Op Op.Ans) : Prop :=
  Scanned rootId entries past ∧ ∀ key, Without (Op.removes key) past

lemma Reading.cons (h : Reading rootId entries past)
    (hop : op = .now ∨ ∃ key, op = .tree (.get key)) : Reading rootId entries (⟨op, ans⟩ :: past) :=
    by
  rcases hop with rfl | ⟨key, rfl⟩
  · exact ⟨h.1.cons rfl (by simp), fun key => (h.2 key).cons rfl⟩
  · exact ⟨h.1.cons rfl (by simp), fun key => (h.2 key).cons rfl⟩

end

section
variable (h : Reading rootId entries past)
include h

lemma always_isValidBundle {bt : Bytes} :
    (isValidBundle H bt).Always (prekeys H).Possible (FetchDoes rootId)
    (fun past _ => Reading rootId entries past) past := by
  unfold isValidBundle
  split
  · exact h
  · refine Prog.always_perform trivial fun cl _ => ?_
    exact h.cons (.inl rfl)

lemma always_collectBundles {rest : List (Bytes × Bytes)} :
    (collectBundles H rest).Always (prekeys H).Possible (FetchDoes rootId)
    (fun past _ => Reading rootId entries past) past := by
  induction rest generalizing past with
  | nil => exact h
  | cons en rest ih =>
    refine (always_isValidBundle H h).bind fun past v h => ?_
    exact (ih h).bind fun past f h => h

lemma always_orLastResort {f : List Bytes} :
    (orLastResort H rootId f).Always (prekeys H).Possible (FetchDoes rootId)
    (fun past _ => Reading rootId entries past) past := by
  unfold orLastResort
  split
  · refine Prog.always_perform rfl fun r _ => ?_
    have h' : Reading rootId entries (⟨.tree (.get (resortKey rootId)), r⟩ :: past) :=
      h.cons (.inr ⟨_, rfl⟩)
    split
    · exact (always_isValidBundle H h').bind fun past v h => h
    · exact h'
  · exact h

end

structure Removing (rootId : Bytes) (entries : List (Bytes × Bytes)) (keys : List Bytes)
    (past : History Op Op.Ans) : Prop where
  scanned : Scanned rootId entries past
  left : ∀ key ∈ keys, key ∈ entries.map Prod.fst ∧ Without (Op.removes key) past
  done : ∀ key ∈ entries.map Prod.fst, key ∈ keys ∨
    ∃ removed, ⟨.tree (.remove key), removed⟩ ∈ past

lemma always_removeAll {keys : List Bytes} (hn : keys.Nodup)
    (h : Removing rootId entries keys past) :
    (removeAll keys).Always (prekeys H).Possible (FetchDoes rootId)
    (fun past _ => Removing rootId entries [] past) past := by
  induction keys generalizing past with
  | nil => exact h
  | cons key keys ih =>
    obtain ⟨hno, hn⟩ := List.nodup_cons.mp hn
    obtain ⟨hk, hu⟩ := h.left key (.head _)
    refine Prog.always_perform ⟨hu, h.scanned.unanswered, entries, h.scanned.scan, hk⟩ fun r _ => ?_
    refine ih hn ⟨h.scanned.cons rfl (by simp), ?_, ?_⟩
    · intro key' hm
      obtain ⟨hk', hl⟩ := h.left key' (.tail _ hm)
      exact ⟨hk', hl.cons (decide_eq_false fun heq => hno (heq ▸ hm))⟩
    · intro key' hm
      rcases h.done key' hm with hin | ⟨r', hre⟩
      · rcases List.mem_cons.mp hin with rfl | hin
        · exact .inr ⟨r, .head _⟩
        · exact .inl hin
      · exact .inr ⟨r', .tail _ hre⟩

lemma possible_scan_nodup {pfx : Bytes}
    (h : (prekeys H).Possible (.tree (.scanPrefix pfx)) entries) :
    (entries.map Prod.fst).Nodup := by
  obtain ⟨e, t, rfl⟩ := h
  exact Table.scanPrefix_keys_nodup t e.access pfx

lemma always_fetch (rootId : Bytes) :
    (fetchPrekeyHandler H rootId).Always (prekeys H).Possible (FetchDoes rootId)
    (fun past r => FetchDoes rootId past (.respond r)) [] := by
  refine Prog.always_perform trivial fun re _ => ?_
  cases re with
  | some text => exact nofun
  | none =>
    refine Prog.always_perform ⟨rfl, (Without.nil _).cons rfl⟩ fun entries hen => ?_
    have hre : Reading rootId entries [⟨.tree (.scanPrefix (rootPrefix rootId)), entries⟩,
        ⟨.enforceRateLimit rootId, none⟩] := by
      refine ⟨⟨.head _, ?_, ((Without.nil _).cons rfl).cons rfl⟩,
        fun key => ((Without.nil _).cons rfl).cons rfl⟩
      intro pfx e' hm
      rcases List.mem_cons.mp hm with heq | hm
      · cases heq
        rfl
      · cases List.mem_singleton.mp hm
    refine (always_collectBundles H hre).bind fun past f hre => ?_
    refine (always_orLastResort H hre).bind fun past f ⟨hsc, hu⟩ => ?_
    unfold answerFetch
    split
    · exact nofun
    have hrm : Removing rootId entries (entries.map Prod.fst) past :=
      ⟨hsc, fun key hk => ⟨hk, hu key⟩, fun key hk => .inl hk⟩
    refine (always_removeAll H (possible_scan_nodup H hen) hrm).bind fun past _ hdo => ?_
    intro _ pfx e' hm key hk
    rw [hdo.scanned.only pfx e' hm] at hk
    exact (hdo.done key hk).resolve_left List.not_mem_nil

lemma always_deleteAll {cl : Claims} {keys : List Bytes} (hsu : cl.sub = rootId)
    (hke : ∀ key ∈ keys, rootPrefix rootId <+: key) :
    (deleteAll keys).Always (prekeys H).Possible (fun _ => DeleteDoes cl rootId)
    (fun _ _ => True) past := by
  induction keys generalizing past with
  | nil => trivial
  | cons key keys ih =>
    refine Prog.always_perform ⟨hsu, hke key (.head _)⟩ fun r _ => ?_
    exact (ih fun key' hm => hke key' (.tail _ hm)).bind fun _ _ _ => trivial

lemma always_delete (cl : Claims) (rootId : Bytes) :
    (deletePrekeyHandler cl rootId).Always (prekeys H).Possible (fun _ => DeleteDoes cl rootId)
    (fun _ _ => True) [] := by
  unfold deletePrekeyHandler
  split
  · trivial
  rename_i hsu
  refine Prog.always_perform ⟨not_not.mp hsu, rfl⟩ fun entries hen => ?_
  refine (always_deleteAll H (not_not.mp hsu) ?_).bind fun _ _ _ => trivial
  intro key hk
  obtain ⟨en, het, rfl⟩ := List.mem_map.mp hk
  obtain ⟨e, t, rfl⟩ := hen
  exact (Table.mem_scanPrefix het).2

lemma always_body (c : Call) :
    ((prekeys H).body c).Always (prekeys H).Possible (Does H c) (fun _ _ => True) [] := by
  cases c with
  | upload cl p =>
    exact (always_upload H cl p).bind fun past r h => ⟨h, fun _ _ => trivial⟩
  | fetch rootId => exact (always_fetch H rootId).bind fun past r h => ⟨h, fun _ _ => trivial⟩
  | delete cl rootId =>
    exact (always_delete H cl rootId).bind fun past r _ => ⟨trivial, fun _ _ => trivial⟩

end

lemma served_invariant (H : HandshakeSuite S)
    {ok : State (prekeys H) → Nat → Call → OpEnv → Op → Prop} {I : State (prekeys H) → Prop}
    (hin : I ⟨∅, []⟩)
    (hs : ∀ {s i c e op}, I s → ok s i c e op →
      s.Runs i c → Does H c (s.past i) op →
      I (s.perform i c e op))
    {es : Schedule (prekeys H)}
    (hes : Along ok ∅ es) :
    I (served H es).state :=
  (Traced.run (always_body H) hs (Traced.initial (M := prekeys H) ∅) hin hes).2

lemma served_always (H : HandshakeSuite S) {I : State (prekeys H) → Prop} (hin : I ⟨∅, []⟩)
    (hs : ∀ {s i c e op}, I s → s.Runs i c →
      Does H c (s.past i) op → I (s.perform i c e op))
    (es : Schedule (prekeys H)) : I (served H es).state :=
  served_invariant H hin (fun h (_ : True) => hs h)
    (guarded_of_always (fun _ _ _ _ _ => trivial) _ es)

end Sibna.Server.Prekeys
