import Sibna.Server.Registry

/-!
# Prekeys of one root

`fetch_prekey_handler` selects by the text before the first colon. `upload_prekey_handler` does not
look at its token.
-/

namespace Sibna.Server.Prekeys

open Interleaving Text

variable {S : Suite} {H : HandshakeSuite S}

def WellKeyed (t : Table Bytes) : Prop :=
  ∀ key bytes, t.lookup key = some bytes → ∃ bundle isLastResort,
    PreKeyBundle.parse bytes = .ok bundle ∧ dbKey bundle isLastResort = key

lemma wellKeyed_perform {s : State (prekeys H)} {i : Nat} {c : Call} {e : OpEnv} {op : Op}
    (h : WellKeyed s.shared) (hdo : Does H c (s.past i) op) :
    WellKeyed (s.perform i c e op).shared := by
  intro key bytes hl
  rcases lookup_perform s i c e op key with heq | ⟨v, rfl, -, heq⟩ | ⟨-, -, heq⟩
  · exact h key bytes (heq ▸ hl)
  · cases heq.symm.trans hl
    cases c with
    | upload claims payload =>
      obtain ⟨-, bundle, clock, existing, ⟨-, hp, hk⟩, -⟩ := hdo
      exact ⟨bundle, payload.isLastResort, hp, hk⟩
    | fetch | delete => exact hdo.elim
  · simp_all

lemma wellKeyed_served (H : HandshakeSuite S) (es : Schedule (prekeys H)) :
    WellKeyed (served H es).state.shared := by
  refine served_always H (I := fun s => WellKeyed s.shared) ?_ ?_ es
  · rintro key bt ⟨⟩
  · intro s i c e op h _ hdo
    exact wellKeyed_perform h hdo

lemma dbKey_fields (bu : PreKeyBundle) (i : Option Bool) :
    ∃ first second, dbKey bu i = first ++ colon :: second ∧ colon ∉ first ∧
      colon ∉ second ∧
      (first = rootIdOf bu ∨ first = utf8 "prekey_resort" ∧ second = rootIdOf bu) := by
  unfold dbKey
  split
  · exact ⟨_, _, resortKey_eq _, colon_notMem_resort, colon_notMem_hexEncode _, .inr ⟨rfl, rfl⟩⟩
  · exact ⟨_, _, rfl, colon_notMem_hexEncode _, colon_notMem_decimal _, .inl rfl⟩

lemma rootIdOf_of_begins {rootId : Bytes} {bu : PreKeyBundle} {i : Option Bool}
    (h : rootPrefix rootId <+: dbKey bu i) :
    rootId = rootIdOf bu ∨ rootId = utf8 "prekey_resort" := by
  obtain ⟨f, se, hk, hf, hse, hr⟩ := dbKey_fields bu i
  rw [hk] at h
  obtain rfl := only_field_of_begins h hf hse
  rcases hr with hr | ⟨hr, -⟩
  · exact .inl hr
  · exact .inr hr

lemma rootIdOf_of_resortKey {rootId : Bytes} {bu : PreKeyBundle} {i : Option Bool}
    (h : dbKey bu i = resortKey rootId) : rootIdOf bu = rootId := by
  obtain ⟨f, se, hk, hf, -, hr⟩ := dbKey_fields bu i
  rw [hk, resortKey_eq] at h
  obtain ⟨rfl, rfl⟩ := first_field h hf colon_notMem_resort
  rcases hr with hr | ⟨-, hr⟩
  · exact absurd hr (resort_ne_rootIdOf bu)
  · exact hr.symm

def ValidAt (H : HandshakeSuite S) (bytes : Bytes) (clock : Option Nat) : Prop :=
  ∃ bundle, PreKeyBundle.parse bytes = .ok bundle ∧ bundle.validate H clock = .ok ()

lemma run_isValidBundle {bt : Bytes} {bu : PreKeyBundle}
    (hp : PreKeyBundle.parse bt = .ok bu) (env : Nat → OpEnv) (t : Table Bytes) : ∃ valid,
    (isValidBundle H bt).run act env t = (valid, t, fun n => env (n + 1)) ∧
    (valid = true ↔ ValidAt H bt (env 0).clock) := by
  refine ⟨(bu.validate H (env 0).clock).isOk, ?_, ?_⟩
  · unfold isValidBundle
    rw [hp]
    rfl
  unfold ValidAt
  rw [hp]
  cases hv : bu.validate H (env 0).clock with
  | error | ok => simp [Except.toBool, hv]

lemma run_collectBundles {en : List (Bytes × Bytes)}
    (hp : ∀ entry ∈ en, ∃ bundle, PreKeyBundle.parse entry.2 = .ok bundle)
    (env : Nat → OpEnv) (t : Table Bytes) :
    ∃ fetched, (collectBundles H en).run act env t =
        (fetched, t, fun n => env (n + en.length)) ∧
      (∀ hex ∈ fetched, ∃ entry ∈ en, hex = Text.hexEncode entry.2) ∧
      (fetched = [] ↔ ∀ j entry, en[j]? = some entry → ¬ ValidAt H entry.2 (env j).clock) := by
  induction en generalizing env with
  | nil => exact ⟨[], rfl, by simp, by simp⟩
  | cons entry en ih =>
    obtain ⟨bundle, hb⟩ := hp entry (.head _)
    obtain ⟨v, hv, hif⟩ := run_isValidBundle (H := H) hb env t
    obtain ⟨fetched, hr, hm, hem⟩ :=
      ih (fun e he => hp e (.tail _ he)) (fun n => env (n + 1))
    refine ⟨if v then Text.hexEncode entry.2 :: fetched else fetched, ?_, ?_, ?_⟩
    · simp only [collectBundles, Prog.run_bind, hv, hr]
      refine Prod.ext rfl (Prod.ext rfl (funext fun n => ?_))
      simp only [Prog.run, pure, List.length_cons, Nat.add_assoc]
    · intro hex hhe
      have hta : hex ∈ fetched → ∃ e ∈ entry :: en, hex = Text.hexEncode e.2 := by simp_all
      split at hhe
      · rcases List.mem_cons.mp hhe with rfl | hhe
        · exact ⟨entry, .head _, rfl⟩
        · exact hta hhe
      · exact hta hhe
    · cases v with
      | true =>
        constructor
        · rintro ⟨⟩
        · grind
      | false =>
        rw [if_neg (by simp), hem]
        constructor
        · intro h j e hj
          cases j with
          | zero => simp_all
          | succ j => exact h j e hj
        · exact fun h j e hj => h _ e hj

lemma run_orLastResort {t : Table Bytes} (ht : WellKeyed t) (env : Nat → OpEnv) (rootId : Bytes)
    (f : List Bytes) :
    ∃ fetched' env', (orLastResort H rootId f).run act env t = (fetched', t, env') ∧
      (f ≠ [] → fetched' = f) ∧
      (f = [] → fetched' = [] ∨
        ∃ bytes, t.lookup (resortKey rootId) = some bytes ∧ fetched' = [Text.hexEncode bytes]) := by
  cases f with
  | cons hex f => exact ⟨_, _, rfl, fun _ => rfl, nofun⟩
  | nil =>
    cases hf : (env 0).access.fails with
    | true =>
      refine ⟨[], fun n => env (n + 1), ?_, fun h => absurd rfl h, fun _ => .inl rfl⟩
      simp [orLastResort, perform, Prog.run, act, Table.act, hf, pure]
    | false =>
      cases hl : t.lookup (resortKey rootId) with
      | none =>
        refine ⟨[], fun n => env (n + 1), ?_, fun h => absurd rfl h, fun _ => .inl rfl⟩
        simp [orLastResort, perform, Prog.run, act, Table.act, hl, pure]
      | some bytes =>
        obtain ⟨bu, -, hp, -⟩ := ht _ _ hl
        obtain ⟨v, hr, -⟩ := run_isValidBundle (H := H) hp (fun n => env (n + 1)) t
        refine ⟨if v then [Text.hexEncode bytes] else [], fun n => env (n + 2), ?_,
          fun h => absurd rfl h, fun _ => ?_⟩
        · simp [orLastResort, perform, Prog.run, Prog.run_bind, act, Table.act, hf, hl, hr, pure]
        · cases v with
          | true => exact .inr ⟨bytes, rfl, rfl⟩
          | false => exact .inl rfl

lemma run_removeAll (keys : List Bytes) (env : Nat → OpEnv) (t : Table Bytes) {key : Bytes}
    (hk : key ∉ keys) : ((removeAll keys).run act env t).2.1.lookup key = t.lookup key := by
  induction keys generalizing env t with
  | nil => rfl
  | cons key' keys ih =>
    obtain ⟨hne, hke⟩ := not_or.mp (mt List.mem_cons.mpr hk)
    show ((removeAll keys).run act _ (act (env 0) (.tree (.remove key')) t).2).2.1.lookup key = _
    rw [ih _ _ hke]
    exact (Table.lookup_act_remove _ _ _ _).trans (if_neg fun h => hne h.2)

def fetchAlone (H : HandshakeSuite S) (t : Table Bytes) (env : Nat → OpEnv) (rootId : Bytes) :
    Response (List Bytes) × Table Bytes :=
  let (response, t', _) := (fetchPrekeyHandler H rootId).run act env t
  (response, t')

/-- Only bundles of the root are returned, only entries of the root are removed, and no last-resort
bundle of anyone. -/
structure Isolated (rootId : Bytes) (t : Table Bytes) (response : Response (List Bytes))
    (t' : Table Bytes) : Prop where
  returned : ∀ fetched, response.body = .json fetched → ∀ hex ∈ fetched, ∃ bytes bundle,
    hex = Text.hexEncode bytes ∧ PreKeyBundle.parse bytes = .ok bundle ∧ rootIdOf bundle = rootId
  removed : ∀ key, t'.lookup key ≠ t.lookup key → ∃ bytes bundle, t.lookup key = some bytes ∧
    PreKeyBundle.parse bytes = .ok bundle ∧ rootIdOf bundle = rootId
  lastResort : ∀ root, t'.lookup (resortKey root) = t.lookup (resortKey root)

lemma fetchAlone_spec {t : Table Bytes} (ht : WellKeyed t) {env : Nat → OpEnv} (rootId : Bytes)
    (hl : (env 0).refusal = none) {en : List (Bytes × Bytes)}
    (hen : en = t.scanPrefix (env 1).access (rootPrefix rootId)) :
    ∃ fetched fetched', (∀ hex ∈ fetched, ∃ entry ∈ en, hex = Text.hexEncode entry.2) ∧
      (fetched = [] ↔ ∀ j entry, en[j]? = some entry →
        ¬ ValidAt H entry.2 (env (j + 2)).clock) ∧
      (fetched ≠ [] → fetched' = fetched) ∧
      (fetched = [] → fetched' = [] ∨
        ∃ bytes, t.lookup (resortKey rootId) = some bytes ∧ fetched' = [Text.hexEncode bytes]) ∧
      (fetched' = [] → fetchAlone H t env rootId = (⟨.notFound, .empty⟩, t)) ∧
      (fetched' ≠ [] → (fetchAlone H t env rootId).1 = ⟨.ok, .json fetched'⟩ ∧
        ∀ key ∉ en.map Prod.fst,
          (fetchAlone H t env rootId).2.lookup key = t.lookup key) := by
  have hp : ∀ entry ∈ en, ∃ bundle, PreKeyBundle.parse entry.2 = .ok bundle := by
    rintro ⟨key, bytes⟩ het
    rw [hen] at het
    obtain ⟨bundle, -, hb, -⟩ := ht key bytes (Table.mem_scanPrefix het).1
    exact ⟨bundle, hb⟩
  obtain ⟨fetched, hco, hm, hem⟩ :=
    run_collectBundles (H := H) hp (fun n => env (n + 2)) t
  obtain ⟨fetched', env', hre, hn, hf⟩ :=
    run_orLastResort (H := H) ht (fun n => env (n + (en.length + 2))) rootId fetched
  have hr : (fetchPrekeyHandler H rootId).run act env t =
      (answerFetch en fetched').run act env' t := by
    simp only [fetchPrekeyHandler, perform, Prog.perform_bind, Prog.run, act, hl, Table.act, ← hen,
      Prog.run_bind, hco, hre, Nat.add_assoc]
  refine ⟨fetched, fetched', hm, hem, hn, hf, ?_, ?_⟩
  · rintro rfl
    simp only [fetchAlone, hr]
    rfl
  intro hne
  have han : answerFetch en fetched' = (do
      removeAll (en.map Prod.fst)
      return ⟨.ok, .json fetched'⟩) := by
    rw [answerFetch, if_neg (by simpa using hne)]
  simp only [fetchAlone, hr, han, Prog.run_bind]
  exact ⟨rfl, fun key hk => run_removeAll _ env' t hk⟩

section
variable {t : Table Bytes} {access : Access} {rootId : Bytes} {entry : Bytes × Bytes}

lemma bundle_of_scanned (ht : WellKeyed t) (hr : rootId ≠ utf8 "prekey_resort")
    (h : entry ∈ t.scanPrefix access (rootPrefix rootId)) :
    ∃ bundle, t.lookup entry.1 = some entry.2 ∧ PreKeyBundle.parse entry.2 = .ok bundle ∧
      rootIdOf bundle = rootId := by
  obtain ⟨hl, hb⟩ := Table.mem_scanPrefix h
  obtain ⟨bundle, i, hp, hk⟩ := ht _ _ hl
  rw [← hk] at hb
  exact ⟨bundle, hl, hp, ((rootIdOf_of_begins hb).resolve_right hr).symm⟩

lemma resortKey_notMem_scanned (ht : WellKeyed t) (hr : rootId ≠ utf8 "prekey_resort")
    (root : Bytes) :
    resortKey root ∉ (t.scanPrefix access (rootPrefix rootId)).map Prod.fst := by
  intro hm
  obtain ⟨entry, hen, hk⟩ := List.mem_map.mp hm
  obtain ⟨bu, -, -, rfl⟩ := bundle_of_scanned ht hr hen
  have hb := (Table.mem_scanPrefix hen).2
  rw [hk, resortKey_eq] at hb
  exact hr (first_field_of_begins hb (colon_notMem_hexEncode _) colon_notMem_resort)

end

lemma isolated_of_unchanged {rootId : Bytes} {t : Table Bytes} {r : Response (List Bytes)}
    (h : ∀ fetched, r.body ≠ .json fetched) : Isolated rootId t r t where
  returned fetched hb := absurd hb (h fetched)
  removed _ hk := absurd rfl hk
  lastResort _ := rfl

lemma isolated_of_ne_resort {t : Table Bytes} (ht : WellKeyed t) {env : Nat → OpEnv}
    (hli : (env 0).refusal = none) {rootId : Bytes} (hr : rootId ≠ utf8 "prekey_resort") :
    Isolated rootId t (fetchAlone H t env rootId).1 (fetchAlone H t env rootId).2 := by
  obtain ⟨f, f', hm, -, hn, hfa, hno, hso⟩ :=
    fetchAlone_spec (H := H) ht rootId hli rfl
  by_cases hf' : f' = []
  · rw [hno hf']
    exact isolated_of_unchanged nofun
  obtain ⟨han, hfr⟩ := hso hf'
  refine ⟨?_, ?_, ?_⟩
  · intro r hre hex hhe
    rw [han] at hre
    cases hre
    by_cases hf : f = []
    · rcases hfa hf with h | ⟨bt, hl, rfl⟩
      · exact absurd h hf'
      · obtain ⟨bu, i, hp, hk⟩ := ht _ _ hl
        exact ⟨bt, bu, List.mem_singleton.mp hhe, hp, rootIdOf_of_resortKey hk⟩
    · rw [hn hf] at hhe
      obtain ⟨entry, hen, rfl⟩ := hm hex hhe
      obtain ⟨bu, -, hp, hb⟩ := bundle_of_scanned ht hr hen
      exact ⟨entry.2, bu, rfl, hp, hb⟩
  · intro key hk
    obtain ⟨entry, hen, rfl⟩ := List.mem_map.mp (not_not.mp (mt (hfr key) hk))
    obtain ⟨bu, hl, hp, hb⟩ := bundle_of_scanned ht hr hen
    exact ⟨entry.2, bu, hl, hp, hb⟩
  · intro root
    exact hfr _ (resortKey_notMem_scanned ht hr root)

/-- A fetch keeps to its root exactly if the path is not the text `prekey_resort`, or no
last-resort bundle it comes to is valid at that moment. -/
theorem fetch_isolated_iff (H : HandshakeSuite S) (es : Schedule (prekeys H))
    (env : Nat → OpEnv) (rootId : Bytes) :
    Isolated rootId (served H es).state.shared
        (fetchAlone H (served H es).state.shared env rootId).1
        (fetchAlone H (served H es).state.shared env rootId).2 ↔
      (rootId = utf8 "prekey_resort" → (env 0).refusal = none → ∀ j entry,
        ((served H es).state.shared.scanPrefix (env 1).access (utf8 "prekey_resort:"))[j]? =
          some entry → ¬ ValidAt H entry.2 (env (j + 2)).clock) := by
  have ht := wellKeyed_served H es
  generalize (served H es).state.shared = t at ht ⊢
  have hresort : rootPrefix (utf8 "prekey_resort") = utf8 "prekey_resort:" := by decide +kernel
  cases hlimit : (env 0).refusal with
  | some text =>
    have hanswer : fetchAlone H t env rootId = (tooManyRequests text, t) := by
      simp [fetchAlone, fetchPrekeyHandler, perform, Prog.run, act, hlimit, pure]
    rw [hanswer]
    constructor
    · intro _ _ h
      cases h
    · intro _
      exact isolated_of_unchanged fun _ h => nomatch h
  | none =>
    by_cases hroot : rootId = utf8 "prekey_resort"
    · subst hroot
      obtain ⟨fetched, fetched', -, hempty, hnonempty, hfallback, hnone, hsome⟩ :=
        fetchAlone_spec (H := H) ht (utf8 "prekey_resort") hlimit rfl
      rw [hresort] at hempty
      constructor
      · intro hisolated _ _
        rw [← hempty]
        by_contra hne
        rw [hnonempty hne] at hsome
        obtain ⟨hex, hhex⟩ := List.exists_mem_of_ne_nil fetched hne
        have hbody : (fetchAlone H t env (utf8 "prekey_resort")).1.body = .json fetched := by
          rw [(hsome hne).1]
        obtain ⟨bytes, bundle, -, -, hbundle⟩ := hisolated.returned fetched hbody hex hhex
        exact resort_ne_rootIdOf bundle hbundle.symm
      · intro hcond
        -- the last-resort bundle of a root of that name is never stored
        have hfetched' : fetched' = [] := by
          rcases hfallback (hempty.mpr (hcond rfl rfl)) with h | ⟨bytes, hlookup, -⟩
          · exact h
          · obtain ⟨bundle, isLastResort, -, hkey⟩ := ht _ _ hlookup
            exact absurd (rootIdOf_of_resortKey hkey).symm (resort_ne_rootIdOf bundle)
        rw [hnone hfetched']
        exact isolated_of_unchanged fun _ h => nomatch h
    · exact ⟨fun _ h => absurd h hroot, fun _ => isolated_of_ne_resort ht hlimit hroot⟩

section
open Symbolic

def lastResortTable : Table Bytes :=
  (served serverSuite
    (.start (uploadBy 3 (bundle 3 4) (some true)) :: prekeyTurns 6 0)).state.shared

/-- Then anyone fetches the path `prekey_resort`: the bundle is returned and removed. -/
theorem last_resort_bundle_fetched_away :
    ¬ Isolated (utf8 "prekey_resort") lastResortTable
      (fetchAlone serverSuite lastResortTable (fun _ => prekeyEnv) (utf8 "prekey_resort")).1
      (fetchAlone serverSuite lastResortTable (fun _ => prekeyEnv) (utf8 "prekey_resort")).2 := by
  intro h
  have hkept := h.lastResort rootId
  revert hkept
  decide +kernel

end

def EntryOf (root : Bytes32) (key : Bytes) : Prop :=
  key = resortKey (Text.hexEncode root.val) ∨
    ∃ deviceId, key = deviceKey (Text.hexEncode root.val) deviceId

lemma rootIdentityKey_of_entryOf {b : PreKeyBundle} {i : Option Bool} {root : Bytes32}
    (h : EntryOf root (dbKey b i)) : b.rootIdentityKey = root := by
  obtain ⟨f, se, hk, hf, -, hr⟩ := dbKey_fields b i
  rcases h with h | ⟨di, h⟩
  · exact Subtype.ext (hexEncode_injective (rootIdOf_of_resortKey h))
  rw [hk] at h
  obtain ⟨rfl, -⟩ := first_field h hf (colon_notMem_hexEncode _)
  rcases hr with hr | ⟨hr, -⟩
  · exact Subtype.ext (hexEncode_injective hr.symm)
  · exact absurd hr.symm (resort_ne_of_hexDecode (hexDecode_hexEncode _))

lemma key_of_entryOf {cl : Claims} {root : Bytes32} {key : Bytes}
    (hb : rootPrefix cl.sub <+: key) (h : EntryOf root key) : cl.key = root := by
  rcases h with rfl | ⟨di, rfl⟩
  · rw [resortKey_eq] at hb
    have hsu := first_field_of_begins hb cl.colon_notMem colon_notMem_resort
    exact absurd hsu.symm (resort_ne_of_hexDecode cl.decodes)
  have hsu := first_field_of_begins hb cl.colon_notMem (colon_notMem_hexEncode _)
  have hde := cl.decodes
  rw [hsu, hexDecode_hexEncode] at hde
  exact Subtype.ext (Option.some.inj hde).symm

def changedKey (entry : Entry (prekeys H)) : Option Bytes :=
  match entry with
  | ⟨_, _, _, .tree (.insert key _), some ()⟩ => some key
  | ⟨_, _, _, .tree (.remove key), some (some _)⟩ => some key
  | _ => none

lemma changedKey_op {entry : Entry (prekeys H)} {key : Bytes} (h : changedKey entry = some key) :
    (∃ value, entry.op = .tree (.insert key value)) ∨ entry.op = .tree (.remove key) := by
  unfold changedKey at h
  split at h
  · simp_all
  · cases h
    exact .inr rfl
  · cases h

def requester (entry : Entry (prekeys H)) : Option Bytes32 :=
  match entry.call with
  | .upload claims _ => some claims.key
  | .delete claims _ => some claims.key
  | .fetch _ => none

def uploadedIdentity (entry : Entry (prekeys H)) : Option Bytes32 :=
  match entry.call with
  | .upload _ payload => payload.bundle.map PreKeyBundle.identityKey
  | _ => none

/-- Every change of an entry was asked for by its root identity or by the identity key of the
bundle. -/
def Owned (log : List (Entry (prekeys H))) : Prop :=
  ∀ entry ∈ log, ∀ root key subject, changedKey entry = some key → EntryOf root key →
    requester entry = some subject → subject = root ∨ uploadedIdentity entry = some subject

def Own (claims : Claims) (b : PreKeyBundle) : Prop :=
  claims.key = b.rootIdentityKey ∨ claims.key = b.identityKey
  deriving Decidable

/-- The token of an upload is for the root or the identity key of its bundle, or else its replay
check, if limiter and validation let it come to that, can be made and finds the bundle id in the
table. -/
def OwnUpload (s : State (prekeys H)) (_ : Nat) (c : Call) (e : OpEnv) (op : Op) : Prop :=
  match c, op with
  | .upload claims payload, .tree (.get key) => ∀ b ∈ payload.bundle, Own claims b ∨
      e.access.fails = false ∧ reusesId b (some (s.shared.lookup key)) = true
  | _, _ => True

instance (s : State (prekeys H)) (i : Nat) (c : Call) (e : OpEnv) (op : Op) :
    Decidable (OwnUpload s i c e op) := by
  unfold OwnUpload
  split <;> infer_instance

/-- The replay check of an upload with another token has found the bundle id. -/
def Caught (log : List (Entry (prekeys H))) : Prop :=
  ∀ entry ∈ log, ∀ claims payload b key existing, entry.call = .upload claims payload →
    payload.bundle = some b → entry.done = ⟨.tree (.get key), existing⟩ →
    Own claims b ∨ reusesId b existing = true

section
variable {s : State (prekeys H)} {i : Nat} {c : Call} {e : OpEnv} {op : Op}

lemma caught_perform (h : Caught s.log) (hok : OwnUpload s i c e op) :
    Caught (s.perform i c e op).log := by
  intro entry hen cl p b key ex hc hb hdn
  rcases List.mem_cons.mp hen with rfl | hen
  swap
  · exact h entry hen cl p b key ex hc hb hdn
  cases hc
  cases hdn
  refine (hok b hb).imp_right fun hre => ?_
  simp only [act, Table.act, hre.1]
  exact hre.2

lemma owned_perform (h : Owned s.log) (hca : Caught s.log) (hr : s.Runs i c)
    (hdo : Does H c (s.past i) op) : Owned (s.perform i c e op).log := by
  intro entry hen root key su hch hk hsu
  rcases List.mem_cons.mp hen with rfl | hen
  swap
  · exact h entry hen root key su hch hk hsu
  have hop := changedKey_op hch
  cases c with
  | fetch rootId => cases hsu
  | upload cl p =>
    cases hsu
    rcases hop with ⟨v, rfl⟩ | rfl
    · obtain ⟨-, b, co, ex, hcr, -, hg, hre⟩ := hdo
      have hb := hcr.bundle
      obtain ⟨-, -, rfl⟩ := hcr
      obtain ⟨en, hen, hi, hdn⟩ := State.mem_past.mp hg
      -- an upload that stores has found another bundle id, so it is the owner's
      have hown := (hca en hen cl p b _ ex (hr en hen hi) hb hdn).resolve_right (by simp [hre])
      rcases hown with hown | hown
      · exact .inl (hown.trans (rootIdentityKey_of_entryOf hk))
      · refine .inr ?_
        simp only [uploadedIdentity, hb, hown]
        rfl
    · exact hdo.elim
  | delete cl rootId =>
    cases hsu
    rcases hop with ⟨v, rfl⟩ | rfl
    · exact hdo.elim
    · obtain ⟨rfl, hbe⟩ := hdo
      exact .inl (key_of_entryOf hbe hk)

end

/-- The entries of a root are changed by its owner only. Whoever asked, what stands under a key of a
root identity is a bundle of that identity. -/
theorem prekeys_changed_by_owner (H : HandshakeSuite S)
    (es : Schedule (prekeys H)) (hes : Along OwnUpload ∅ es) : Owned (served H es).state.log ∧
    ∀ root key bytes, EntryOf root key → (served H es).state.shared.lookup key = some bytes → ∃ b,
    PreKeyBundle.parse bytes = .ok b ∧ b.rootIdentityKey = root := by
  refine ⟨(served_invariant H (I := fun s => Owned s.log ∧ Caught s.log) ?_ ?_ hes).1, ?_⟩
  · exact ⟨fun _ hentry => absurd hentry List.not_mem_nil,
      fun _ hentry => absurd hentry List.not_mem_nil⟩
  · rintro s i c e op ⟨howned, hcaught⟩ hok hruns hdoes
    exact ⟨owned_perform howned hcaught hruns hdoes, caught_perform hcaught hok⟩
  · intro root key bytes hkey hlookup
    obtain ⟨b, isLastResort, hparse, rfl⟩ := wellKeyed_served H es key bytes hlookup
    exact ⟨b, hparse, rootIdentityKey_of_entryOf hkey⟩

section
open Sibna.Symbolic

def ownersRequests : Schedule (prekeys serverSuite) :=
  [.start (uploadBy 3 (bundle 3 4) none), .start (uploadBy 3 renewedBundle none),
    .start (uploadBy 9 renewedBundle none), .start (.delete (claimsOf 3) rootId)] ++
    prekeyTurns 6 0 ++ prekeyTurns 6 1 ++ prekeyTurns 6 2 ++ prekeyTurns 3 3

/-- Another user sends the newer bundle again and is refused. -/
theorem owner_uploads_and_deletes :
    Owned (served serverSuite ownersRequests).state.log ∧
      (served serverSuite ownersRequests).state.log.filterMap changedKey =
        List.replicate 3 (deviceKey rootId (bundle 3 4).deviceId) := by
  refine And.imp_left (fun hown => (prekeys_changed_by_owner serverSuite ownersRequests hown).1) ?_
  decide +kernel

def replayOfOlderBundle : Schedule (prekeys serverSuite) :=
  [.start (uploadBy 3 (bundle 3 4) none), .start (uploadBy 3 renewedBundle none),
    .start (uploadBy 9 (bundle 3 4) none)] ++
    prekeyTurns 6 0 ++ prekeyTurns 6 1 ++ prekeyTurns 6 2

theorem older_bundle_restored_by_other :
    let key := deviceKey rootId (bundle 3 4).deviceId
    let last := (served serverSuite replayOfOlderBundle).state
    ¬ Owned last.log ∧ (served serverSuite (replayOfOlderBundle.take 15)).state.shared.lookup key =
        some renewedBundle.toBytes ∧
      last.shared.lookup key = some (bundle 3 4).toBytes := by
  intro key last
  obtain ⟨entry, hentry, hchanged, hsubject, hidentity⟩ : ∃ entry ∈ last.log,
      changedKey entry = some key ∧ requester entry = some (publicKey 9) ∧
      uploadedIdentity entry ≠ some (publicKey 9) := by
    decide +kernel
  refine ⟨?_, by decide +kernel⟩
  intro h
  rcases h entry hentry _ _ _ hchanged (Or.inr ⟨_, rfl⟩) hsubject with hroot | hidentity'
  · exact absurd hroot (by decide +kernel)
  · exact hidentity hidentity'

end

end Sibna.Server.Prekeys
