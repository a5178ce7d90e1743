import Sibna.Lib.OneTime
import Sibna.Server.Registry

/-!
# One-time bundles

A fetch scans the table in one transaction and removes what it found in others.
-/

namespace Sibna.Server.Prekeys

open Interleaving OneTime Text

variable {S : Suite} {H : HandshakeSuite S}

def OneTimeKey (key : Bytes) : Prop := ¬ utf8 "prekey_resort:" <+: key
  deriving Decidable

def actOf : Call → (op : Op) → op.Ans → Act Bytes
  | _, .tree (.insert key _), some () => .put key
  | .fetch _, .tree (.scanPrefix _), entries => .look (entries.map Prod.fst)
  | .fetch _, .tree (.remove key), removed => .take key removed.isSome
  | _, .tree (.remove key), some _ => .drop key
  | .fetch _, .respond r, _ => .answer (r.status = .ok)
  | _, _, _ => .other

abbrev items (log : List (Entry (prekeys H))) : Log Bytes := acts actOf log

lemma items_perform (s : State (prekeys H)) (i : Nat) (c : Call) (e : OpEnv) (op : Op) :
    items (s.perform i c e op).log = (i, actOf c op (act e op s.shared).1) :: items s.log := rfl

section
variable {c : Call} {op : Op} {ans : op.Ans} {key : Bytes}

lemma storesOrResponds_of_isPut (h : (actOf c op ans).isPut = true) :
    op.storesOrResponds = true := by
  unfold actOf at h
  split at h <;> first | rfl | cases h

lemma removes_of_taken (h : (actOf c op ans).taken = some key) : op.removes key = true := by
  unfold actOf at h
  split at h <;> cases h
  exact decide_eq_true rfl

lemma isRespond_of_isAnswer (h : (actOf c op ans).isAnswer = true) : op.isRespond = true := by
  unfold actOf at h
  split at h <;> first | rfl | cases h

lemma isWork_of_ne_other (h : actOf c op ans ≠ .other) : op.isWork = true := by
  unfold actOf at h
  split at h <;> first | rfl | exact absurd rfl h

lemma scan_of_looked (h : key ∈ (actOf c op ans).looked) : ∃ pfx entries,
    (⟨op, ans⟩ : (op : Op) × op.Ans) = ⟨.tree (.scanPrefix pfx), entries⟩ ∧
    key ∈ entries.map Prod.fst := by
  unfold actOf at h
  split at h <;> first | exact ⟨_, _, rfl, h⟩ | cases h

end

variable {s : State (prekeys H)}

/-- A fetch comes upon no one-time key that another fetch has scanned and neither removed nor left;
an upload stores under no such key; and the removals of a fetch go through. -/
def Serial (s : State (prekeys H)) (_ : Nat) (c : Call) (e : OpEnv) (op : Op) : Prop :=
  match c, op with
  | .fetch _, .tree (.scanPrefix pfx) =>
    ∀ key ∈ (s.shared.scanPrefix e.access pfx).map Prod.fst, OneTimeKey key → Free key (items s.log)
  | .upload _ _, .tree (.insert key _) => OneTimeKey key → Free key (items s.log)
  | .fetch _, .tree (.remove key) => OneTimeKey key → e.access.fails = false
  | _, _ => True

instance (s : State (prekeys H)) (i : Nat) (c : Call) (e : OpEnv) (op : Op) :
    Decidable (Serial s i c e op) := by
  rcases c <;> rcases op with _ | _ | op | _ <;> try rcases op
  all_goals unfold Serial; infer_instance

structure Accounted (s : State (prekeys H)) : Prop where
  live : ∀ key, (s.shared.lookup key).isSome = (holder key (items s.log)).isSome
  run : Run OneTimeKey (items s.log)

lemma live_perform (h : ∀ key, (s.shared.lookup key).isSome = (holder key (items s.log)).isSome)
    (i : Nat) (c : Call) (e : OpEnv) (op : Op) (key : Bytes) :
    ((s.perform i c e op).shared.lookup key).isSome =
      (holder key (items (s.perform i c e op).log)).isSome := by
  rw [items_perform]
  cases op with
  | enforceRateLimit | now | respond => cases c <;> exact h key
  | tree op =>
    cases op with
    | get | scanPrefix | iter => cases c <;> exact h key
    | insert k v =>
      cases hf : e.access.fails with
      | true => cases c <;> simpa [act, Table.act, hf, actOf, holder] using h key
      | false =>
        by_cases hk : k = key
        · subst hk
          cases c <;> simp [act, Table.act, hf, actOf, holder]
        · cases c <;> simpa [act, Table.act, hf, actOf, holder, hk,
            AList.lookup_insert_ne (Ne.symm hk)] using h key
    | remove k =>
      cases hf : e.access.fails with
      | true => cases c <;> simpa [act, Table.act, hf, actOf, holder] using h key
      | false =>
        by_cases hk : k = key
        · subst hk
          cases c <;> simp [act, Table.act, hf, actOf, holder]
        · cases c <;> simpa [act, Table.act, hf, actOf, holder, hk,
            AList.lookup_erase_ne (Ne.symm hk)] using h key

section
variable {s : State (prekeys H)} {i : Nat} {e : OpEnv} {op : Op}

lemma allowed_of_upload {cl : Claims} {p : UploadPrekeyRequest}
    (hok : Serial s i (.upload cl p) e op)
    (hca : s.Runs i (.upload cl p))
    (hdo : UploadDoes H p (s.past i) op) :
    Allowed OneTimeKey i (items s.log) (actOf (.upload cl p) op (act e op s.shared).1) := by
  cases op with
  | enforceRateLimit | now | respond => trivial
  | tree op =>
    cases op with
    | get k => trivial
    | remove | scanPrefix | iter => exact hdo.elim
    | insert k v =>
      cases hf : e.access.fails with
      | true =>
        simp only [act, Table.act, hf]
        trivial
      | false =>
        simp only [act, Table.act, hf]
        refine ⟨not_acted (P := fun a : Act Bytes => a.isPut = true) hca hdo.1 fun _ _ => ?_, hok⟩
        exact storesOrResponds_of_isPut

lemma allowed_of_fetch {rootId : Bytes}
    (hli : ∀ key, (s.shared.lookup key).isSome = (holder key (items s.log)).isSome)
    (hok : Serial s i (.fetch rootId) e op)
    (hca : s.Runs i (.fetch rootId))
    (hdo : FetchDoes rootId (s.past i) op) :
    Allowed OneTimeKey i (items s.log) (actOf (.fetch rootId) op (act e op s.shared).1) := by
  cases op with
  | enforceRateLimit | now => trivial
  | respond r =>
    intro hst key hk
    obtain ⟨d, hd, hl⟩ := (exists_acts_iff hca fun a : Act Bytes => key ∈ a.looked).mp hk
    obtain ⟨pfx, en, heq, hm⟩ := scan_of_looked hl
    obtain ⟨re, hre⟩ := hdo (of_decide_eq_true hst) pfx en (heq ▸ hd) key hm
    exact ⟨_, mem_acts_of_past hca hre, rfl, rfl⟩
  | tree op =>
    cases op with
    | get k => trivial
    | insert | iter => exact hdo.elim
    | scanPrefix pfx =>
      have hno : ∀ {P : Act Bytes → Prop}, ¬ P .other → ¬ ∃ x ∈ items s.log, x.1 = i ∧ P x.2 := by
        intro P hP
        refine not_acted hca hdo.2 fun op ans hac => ?_
        exact isWork_of_ne_other fun heq => hP (heq ▸ hac)
      refine ⟨hno (P := fun a : Act Bytes => a.isAnswer = true) (by simp [Act.isAnswer]),
        fun k => hno (P := fun a : Act Bytes => k ∈ a.looked) (by simp [Act.looked]),
          fun key hk => ?_⟩
      refine ⟨?_, hok key hk⟩
      obtain ⟨et, hen, rfl⟩ := List.mem_map.mp hk
      rw [← hli, (Table.mem_scanPrefix hen).1, Option.isSome_some]
    | remove k =>
      obtain ⟨hun, hu, en, hsc, hm⟩ := hdo
      refine ⟨⟨⟨_, mem_acts_of_past hca hsc, rfl, hm⟩, ?_, ?_⟩, fun hk => ?_⟩
      · exact not_acted (P := fun a : Act Bytes => a.taken = some k) hca hun fun _ _ =>
          removes_of_taken
      · exact not_acted (P := fun a : Act Bytes => a.isAnswer = true) hca hu fun _ _ =>
          isRespond_of_isAnswer
      · simp [act, Table.act, hok hk]

lemma allowed_of_delete {cl : Claims} {rootId : Bytes} (hdo : DeleteDoes cl rootId op) :
    Allowed OneTimeKey i (items s.log) (actOf (.delete cl rootId) op (act e op s.shared).1) := by
  cases op with
  | enforceRateLimit | now => exact hdo.elim
  | respond r => trivial
  | tree op =>
    cases op with
    | get | insert | iter => exact hdo.elim
    | scanPrefix pfx => trivial
    | remove k => cases hf : e.access.fails <;> simp [act, Table.act, hf, actOf, Allowed]

end

lemma accounted_perform {i : Nat} {c : Call} {e : OpEnv} {op : Op} (h : Accounted s)
    (hok : Serial s i c e op) (hca : s.Runs i c)
    (hdo : Does H c (s.past i) op) : Accounted (s.perform i c e op) := by
  refine ⟨live_perform h.live i c e op, ?_⟩
  refine ⟨?_, h.run⟩
  cases c with
  | upload cl p => exact allowed_of_upload hok hca hdo
  | fetch rootId => exact allowed_of_fetch h.live hok hca hdo
  | delete cl rootId => exact allowed_of_delete hdo

def scannedBy (entry : Entry (prekeys H)) : List (Bytes × Bytes) :=
  match entry with
  | ⟨_, .fetch _, _, .tree (.scanPrefix _), entries⟩ => entries
  | _ => []

def fetchAnswer (entry : Entry (prekeys H)) : Option (Response (List Bytes)) :=
  match entry with
  | ⟨_, .fetch _, _, .respond r, _⟩ => some r
  | _ => none

def ReturnedBy (log : List (Entry (prekeys H))) (i j : Nat) : Prop :=
  ∃ key value fetched, OneTimeKey key ∧ Found i key j (items log) ∧
    (∃ entry ∈ log, entry.thread = i ∧ (key, value) ∈ scannedBy entry) ∧
    (∃ entry ∈ log, entry.thread = i ∧ fetchAnswer entry = some ⟨.ok, .json fetched⟩) ∧
    Text.hexEncode value ∈ fetched

lemma answer_mem_items {log : List (Entry (prekeys H))} {en : Entry (prekeys H)}
    {r : Response (List Bytes)} (hen : en ∈ log) (han : fetchAnswer en = some r)
    (hr : r.status = .ok) : (en.thread, .answer true) ∈ items log := by
  unfold fetchAnswer at han
  split at han
  · cases han
    refine List.mem_map.mpr ⟨_, hen, ?_⟩
    simp [actOf, hr]
  · cases han

/-- In every run in which nobody comes upon a key that a fetch is busy with and removals go through:
no stored one-time bundle is in the answers of two fetches, and a fetch removes only bundles that
it found when it scanned. -/
theorem onetime_bundles_returned_once (H : HandshakeSuite S)
    (es : Schedule (prekeys H))
    (hes : Along Serial ∅ es) :
    (∀ i i' j, ReturnedBy (served H es).state.log i j → ReturnedBy (served H es).state.log i' j →
      i = i') ∧
    ∀ i key j, OneTimeKey key → Took i key j (items (served H es).state.log) →
      Found i key j (items (served H es).state.log) := by
  have haccounted : Accounted (served H es).state := by
    refine served_invariant H (I := Accounted) ⟨fun key => ?_, trivial⟩ accounted_perform hes
    rfl
  refine ⟨?_, ?_⟩
  · rintro i i' j ⟨key, _, _, hkey, hfound, -, ⟨entry, hentry, hi, hanswer⟩, -⟩
      ⟨key', _, _, -, hfound', -, ⟨entry', hentry', hi', hanswer'⟩, -⟩
    refine haccounted.run.handed_out_once hkey hfound hfound' ?_ ?_
    · exact hi ▸ answer_mem_items hentry hanswer rfl
    · exact hi' ▸ answer_mem_items hentry' hanswer' rfl
  · intro i key j hkey htook
    exact haccounted.run.found_of_took hkey htook

section
open Symbolic

def uploadAndFetches : Schedule (prekeys serverSuite) :=
  [.start (uploadBy 3 (bundle 3 4) none), .start (.fetch rootId), .start (.fetch rootId)] ++
    prekeyTurns 6 0

def fetchesInTurn : Schedule (prekeys serverSuite) :=
  uploadAndFetches ++ prekeyTurns 5 1 ++ prekeyTurns 4 2

abbrev FetchedBundle (log : List (Entry (prekeys serverSuite))) (i : Nat) : Prop :=
  OneTimeKey (deviceKey rootId 0) ∧ Found i (deviceKey rootId 0) 0 (items log) ∧
    (∃ entry ∈ log, entry.thread = i ∧
      (deviceKey rootId 0, (bundle 3 4).toBytes) ∈ scannedBy entry) ∧
    (∃ entry ∈ log, entry.thread = i ∧
      fetchAnswer entry = some ⟨.ok, .json [Text.hexEncode (bundle 3 4).toBytes]⟩) ∧
    Text.hexEncode (bundle 3 4).toBytes ∈ [Text.hexEncode (bundle 3 4).toBytes]

theorem bundle_returned_to_first_fetch :
    let log := (served serverSuite fetchesInTurn).state.log
    ReturnedBy log 1 0 ∧ ∀ i, ReturnedBy log i 0 → i = 1 := by
  intro log
  obtain ⟨hserial, hfetched⟩ : Along Serial ∅ fetchesInTurn ∧ FetchedBundle log 1 := by
    decide +kernel
  have hfirst : ReturnedBy log 1 0 := ⟨_, _, _, hfetched⟩
  refine ⟨hfirst, fun i hi => ?_⟩
  exact (onetime_bundles_returned_once serverSuite fetchesInTurn hserial).1 i 1 0 hi hfirst

def fetchesTogether : Schedule (prekeys serverSuite) :=
  uploadAndFetches ++ prekeyTurns 2 1 ++ prekeyTurns 5 2 ++ prekeyTurns 3 1

theorem bundle_returned_to_both_fetches :
    let log := (served serverSuite fetchesTogether).state.log
    ReturnedBy log 1 0 ∧ ReturnedBy log 2 0 := by
  intro log
  have hboth : ∀ i ∈ [1, 2], FetchedBundle log i := by decide +kernel
  exact ⟨⟨_, _, _, hboth 1 (by simp)⟩, ⟨_, _, _, hboth 2 (by simp)⟩⟩

end

end Sibna.Server.Prekeys
