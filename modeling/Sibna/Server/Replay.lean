import Sibna.Lib.Admission
import Sibna.Server.Registry

/-!
# Bundle ids

An upload is compared with the one bundle that is stored under its own key at that moment.
-/

namespace Sibna.Server.Prekeys

open Interleaving Admission Text

variable {S : Suite} {H : HandshakeSuite S}

/-- Root identity, device and id of a bundle. -/
abbrev BundleKey := Bytes32 × UInt32 × FixedBytes 16

def bundleKey (b : PreKeyBundle) : BundleKey := (b.rootIdentityKey, b.deviceId, b.bundleId)

def uploadAct (b : PreKeyBundle) : (op : Op) → op.Ans → Act BundleKey Unit
  | .tree (.get _), existing => .check (bundleKey b) (reusesId b existing)
  | .tree (.insert _ _), some () => .commit (bundleKey b) ()
  | .respond _, _ => .close
  | _, _ => .other

def admission : Call → (op : Op) → op.Ans → Act BundleKey Unit
  | .upload _ payload, op, ans =>
    match payload.bundle with
    | none => .other
    | some b => uploadAct b op ans
  | _, _, _ => .other

abbrev admissions (log : List (Entry (prekeys H))) : Log BundleKey Unit := acts admission log

def acceptedBundle (entry : Entry (prekeys H)) : Option BundleKey :=
  (admission entry.call entry.op entry.ans).committed.map Prod.fst

def uploadAnswer (entry : Entry (prekeys H)) : Option (BundleKey × Response (List Bytes)) :=
  match entry with
  | ⟨_, .upload _ payload, _, .respond r, _⟩ => payload.bundle.map fun b => (bundleKey b, r)
  | _ => none

variable {key : BundleKey}

lemma committed_of_accepted {log : List (Entry (prekeys H))}
    (h : key ∈ log.filterMap acceptedBundle) : ∃ j, Committed j key () (admissions log) := by
  obtain ⟨en, hen, hac⟩ := List.mem_filterMap.mp h
  obtain ⟨⟨key', u⟩, hco, rfl⟩ := Option.map_eq_some_iff.mp hac
  exact ⟨en.thread, _, List.mem_map_of_mem hen, rfl, hco⟩

lemma accepted_of_committed {log : List (Entry (prekeys H))} {j : Nat} {u : Unit}
    (h : Committed j key u (admissions log)) : key ∈ log.filterMap acceptedBundle := by
  obtain ⟨x, hx, -, hco⟩ := h
  obtain ⟨en, hen, rfl⟩ := List.mem_map.mp hx
  exact List.mem_filterMap.mpr ⟨en, hen, Option.map_eq_some_iff.mpr ⟨_, hco, rfl⟩⟩

/-- When an upload looks up its key, no other upload of that bundle is between its lookup and the
store; and if the bundle has been accepted before, it is still stored under that key. -/
def Remembered (s : State (prekeys H)) (i : Nat) (c : Call) (e : OpEnv) (op : Op) : Prop :=
  match c, op with
  | .upload _ payload, .tree (.get key) =>
    match payload.bundle with
    | none => True
    | some b => Vacant i (bundleKey b) (admissions s.log) ∧
        (bundleKey b ∈ s.log.filterMap acceptedBundle →
          e.access.fails = false ∧ reusesId b (some (s.shared.lookup key)) = true)
  | _, _ => True

instance (s : State (prekeys H)) (i : Nat) (c : Call) (e : OpEnv) (op : Op) :
    Decidable (Remembered s i c e op) := by
  rcases c <;> rcases op with _ | _ | op | _ <;> try rcases op
  all_goals unfold Remembered; first | infer_instance | (dsimp only; split <;> infer_instance)

def Answers (entry : Entry (prekeys H)) (before : List (Entry (prekeys H))) : Prop :=
  ∀ key r, uploadAnswer entry = some (key, r) → r.status = .tooManyRequests ∨
    r.status = .badRequest ∨ ∃ refused, (entry.thread, .check key refused) ∈ admissions before ∧
    (refused = true → r = replayed)

structure Admitted (s : State (prekeys H)) : Prop where
  run : Run (admissions s.log)
  refuses : Runs.Throughout Refuses (admissions s.log)
  answers : Runs.Throughout Answers s.log

section
variable {s : State (prekeys H)} {i : Nat} {c : Call} {e : OpEnv} {op : Op}

variable {claims : Claims} {payload : UploadPrekeyRequest}

lemma admission_upload {b : PreKeyBundle} (hb : payload.bundle = some b) (op : Op) (ans : op.Ans)
    : admission (.upload claims payload) op ans = uploadAct b op ans := by
  simp only [admission, hb]

lemma isGet_of_isCheck {ans : op.Ans} (h : (admission c op ans).isCheck = true) :
    op.isGet = true := by
  unfold admission uploadAct at h
  split at h
  · split at h
    · cases h
    · split at h <;> first | rfl | cases h
  · cases h

lemma storesOrResponds_of_ends {ans : op.Ans} (h : (admission c op ans).ends = true) :
    op.storesOrResponds = true := by
  unfold admission uploadAct at h
  split at h
  · split at h
    · cases h
    · split at h <;> first | rfl | cases h
  · cases h

lemma allowed_admission (hok : Remembered s i c e op) (hca : s.Runs i c)
    (hdo : Does H c (s.past i) op) :
    Allowed i (admissions s.log) (admission c op (act e op s.shared).1) := by
  cases c with
  | fetch | delete => trivial
  | upload claims payload =>
    cases hb : payload.bundle with
    | none =>
      simp only [admission, hb]
      trivial
    | some b =>
      rw [admission_upload hb]
      cases op with
      | enforceRateLimit | now | respond => trivial
      | tree op =>
        cases op with
        | remove | scanPrefix | iter => trivial
        | get key =>
          simp only [Remembered, hb] at hok
          refine ⟨?_, hok.1⟩
          exact not_acted (P := fun a => Act.isCheck a = true) hca hdo.1 fun _ _ => isGet_of_isCheck
        | insert key value =>
          obtain ⟨hs, b', clock, existing, hcr, -, hg, hfr⟩ := hdo
          cases hb.symm.trans hcr.bundle
          cases hf : e.access.fails with
          | true =>
            simp only [act, Table.act, hf]
            trivial
          | false =>
            simp only [act, Table.act, hf]
            refine ⟨⟨_, mem_acts_of_past hca hg, rfl, ?_⟩, ?_⟩
            · rw [admission_upload hb, uploadAct, hfr]
              rfl
            · exact not_acted (P := fun a => Act.ends a = true) hca hs fun _ _ =>
                storesOrResponds_of_ends

lemma refuses_admission (hok : Remembered s i c e op) :
    Refuses (i, admission c op (act e op s.shared).1) (admissions s.log) := by
  intro key hpa j u hco
  cases c with
  | fetch | delete => cases hpa
  | upload claims payload =>
    cases hb : payload.bundle with
    | none =>
      simp only [admission, hb] at hpa
      cases hpa
    | some b =>
      rw [admission_upload hb] at hpa
      cases op with
      | enforceRateLimit | now | respond => cases hpa
      | tree op =>
        cases op with
        | remove | scanPrefix | iter => cases hpa
        | insert key value =>
          cases hf : e.access.fails <;> simp [act, Table.act, hf, uploadAct, Act.passed] at hpa
        | get key' =>
          have hch := Act.eq_check_of_passed hpa
          simp only [uploadAct, Act.check.injEq] at hch
          obtain ⟨rfl, hfr⟩ := hch
          simp only [Remembered, hb] at hok
          obtain ⟨hf, hre⟩ := hok.2 (accepted_of_committed hco)
          simp only [act, Table.act, hf] at hfr
          exact absurd (hre.symm.trans hfr) (by simp)

lemma answers_of_does (hcl : s.Runs i c) (hdo : Does H c (s.past i) op) :
    Answers ⟨i, c, e, op, (act e op s.shared).1⟩ s.log := by
  intro key r han
  unfold uploadAnswer at han
  split at han
  · rename_i claims payload _ r' _ heq
    cases heq
    obtain ⟨b, hb, hk⟩ := Option.map_eq_some_iff.mp han
    cases hk
    rcases hdo with h | h | ⟨bt, b', k, ex, hca, hg, hre⟩
    · exact .inl h
    · exact .inr (.inl h)
    cases hb.symm.trans hca.bundle
    refine .inr (.inr ⟨reusesId b ex, ?_, hre⟩)
    have hm : (i, admission (.upload claims payload) (.tree (.get k)) ex) ∈ admissions s.log :=
      mem_acts_of_past hcl hg
    rwa [admission_upload hb] at hm
  · cases han

lemma admitted_perform (h : Admitted s) (hok : Remembered s i c e op) (hca : s.Runs i c)
    (hdo : Does H c (s.past i) op) : Admitted (s.perform i c e op) where
  run := ⟨allowed_admission hok hca hdo, h.run⟩
  refuses := ⟨refuses_admission hok, h.refuses⟩
  answers := ⟨answers_of_does hca hdo, h.answers⟩

end

lemma admitted_served {es : Schedule (prekeys H)} (hes : Along Remembered ∅ es) :
    Admitted (served H es).state :=
  served_invariant H (I := Admitted) ⟨trivial, trivial, trivial⟩ admitted_perform hes

lemma Admitted.answer {s : State (prekeys H)} (h : Admitted s)
    {l ea : List (Entry (prekeys H))} (hl : s.log = l ++ ea)
    (hk : key ∈ ea.filterMap acceptedBundle) {en : Entry (prekeys H)}
    (hen : en ∈ l) (hth : ∀ entry' ∈ ea, entry'.thread ≠ en.thread)
    {r : Response (List Bytes)} (has : uploadAnswer en = some (key, r)) :
    r = replayed ∨ r.status = .tooManyRequests ∨ r.status = .badRequest := by
  obtain ⟨later₁, later₂, rfl⟩ := List.append_of_mem hen
  have han := h.answers
  rw [hl, List.append_assoc, List.cons_append] at han
  rcases han.entry key r has with hr | hr | ⟨refused, hch, hr⟩
  · exact .inr (.inl hr)
  · exact .inr (.inr hr)
  refine .inl (hr ?_)
  obtain ⟨entry', he', hv⟩ := List.mem_map.mp hch
  obtain ⟨ht', hac⟩ := Prod.mk.inj hv
  -- the check is no older than the request, so the bundle had been accepted by then
  have hm : entry' ∈ later₂ := by
    rcases List.mem_append.mp he' with h | h
    · exact h
    · exact absurd ht' (hth entry' h)
  obtain ⟨later₃, later₄, rfl⟩ := List.append_of_mem hm
  have hl' : s.log = (later₁ ++ en :: later₃) ++ entry' :: (later₄ ++ ea) := by
    rw [hl]
    simp
  have hre := h.refuses
  rw [hl', admissions, acts, List.map_append, List.map_cons] at hre
  have hk' : key ∈ (later₄ ++ ea).filterMap acceptedBundle := by simp_all
  obtain ⟨j, hco⟩ := committed_of_accepted hk'
  cases refused with
  | true => rfl
  | false =>
    refine absurd hco (hre.entry key ?_ j ())
    simp only [hac]
    rfl

/-- In every run in which an upload that was accepted before finds its bundle under its own key, and
no two uploads of one bundle overlap: every bundle id is accepted once for a root and a device, and
a later upload of it is answered with the conflict, unless the rate limiter or the checks of the
bundle refuse it before. -/
theorem bundle_ids_accepted_once (H : HandshakeSuite S)
    (es : Schedule (prekeys H)) (hes : Along Remembered ∅ es) :
    ((served H es).state.log.filterMap acceptedBundle).Nodup ∧ ∀ later earlier key,
    (served H es).state.log = later ++ earlier → key ∈ earlier.filterMap acceptedBundle →
    ∀ entry ∈ later, (∀ entry' ∈ earlier, entry'.thread ≠ entry.thread) → ∀ r,
    uploadAnswer entry = some (key, r) → r = replayed ∨ r.status = .tooManyRequests ∨
    r.status = .badRequest := by
  have hadmitted := admitted_served hes
  refine ⟨?_, ?_⟩
  · have hnodup := Run.committed_nodup hadmitted.run hadmitted.refuses
    rw [admissions, acts, List.filterMap_map] at hnodup
    exact hnodup
  · intro later earlier key hlog hkey entry hentry hthread r hanswer
    exact hadmitted.answer hlog hkey hentry hthread hanswer

section
open Symbolic

def uploadsInTurn : Schedule (prekeys serverSuite) :=
  [.start (uploadBy 3 (bundle 3 4) none), .start (uploadBy 9 (bundle 3 4) none)] ++
    prekeyTurns 6 0 ++ prekeyTurns 5 1

theorem second_upload_not_accepted :
    ((served serverSuite uploadsInTurn).state.log.filterMap acceptedBundle).Nodup ∧
      (served serverSuite uploadsInTurn).state.log.filterMap uploadAnswer =
        [(bundleKey (bundle 3 4), replayed), (bundleKey (bundle 3 4), ⟨.ok, .empty⟩)] := by
  refine And.imp_left (fun h => (bundle_ids_accepted_once serverSuite uploadsInTurn h).1) ?_
  decide +kernel

def uploadsAroundFetch : Schedule (prekeys serverSuite) :=
  [.start (uploadBy 3 (bundle 3 4) none), .start (.fetch rootId),
    .start (uploadBy 9 (bundle 3 4) none)] ++
    prekeyTurns 6 0 ++ prekeyTurns 5 1 ++ prekeyTurns 6 2

theorem fetched_bundle_accepted_again :
    (served serverSuite uploadsAroundFetch).state.log.filterMap acceptedBundle =
        [bundleKey (bundle 3 4), bundleKey (bundle 3 4)] ∧
      (served serverSuite uploadsAroundFetch).state.log.filterMap uploadAnswer =
        [(bundleKey (bundle 3 4), ⟨.ok, .empty⟩), (bundleKey (bundle 3 4), ⟨.ok, .empty⟩)] := by
  decide +kernel

end

end Sibna.Server.Prekeys
