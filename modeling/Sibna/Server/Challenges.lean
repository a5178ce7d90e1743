import Sibna.Lib.OneTime
import Sibna.Server.Auth
import Sibna.Server.Registry

/-!
# Tokens for challenges

A proof looks up the pending challenge in one transaction and removes it in another.
-/

namespace Sibna.Server.Auth

open Interleaving OneTime Text

variable {A : Authority}

def actOf : Call → (op : Op) → op.Ans → Act Bytes
  | .challenge _, .tree (.insert key _), some () => .put key
  | .prove _, .tree (.get key), some (some _) => .look [key]
  | .prove _, .tree (.remove key), removed => .take key removed.isSome
  | .prove _, .respond response, _ => .answer (tokenOf response).isSome
  | _, _, _ => .other

abbrev items (log : List (Entry (auth A))) : Log Bytes := acts actOf log

/-- The request that issued the latest challenge, stored or not. -/
def latest (key : Bytes) : List (Entry (auth A)) → Option Nat
  | [] => none
  | entry :: log =>
    match entry.op with
    | .tree (.insert k _) => if k = key then some entry.thread else latest key log
    | _ => latest key log

/-- A transaction that stores or removes a challenge does not fail; where a challenge is stored,
every proof that has found one for the identity has been answered; and where one is looked up, every
proof that has found it has removed it or been answered. -/
def Unraced (s : State (auth A)) (_ : Nat) (_ : Call) (e : OpEnv) : Op → Prop
  | .tree (.insert key _) => e.access.fails = false ∧ Settled key (items s.log)
  | .tree (.get key) => Free key (items s.log)
  | .tree (.remove _) => e.access.fails = false
  | _ => True

instance (s : State (auth A)) (i : Nat) (c : Call) (e : OpEnv) (op : Op) :
    Decidable (Unraced s i c e op) := by
  unfold Unraced
  split <;> infer_instance

variable {s : State (auth A)} {i : Nat} {c : Call} {e : OpEnv} {op : Op} {ans : op.Ans}
  {key : Bytes}

lemma isInsert_of_isPut (h : (actOf c op ans).isPut = true) : op.isInsert = true := by
  unfold actOf at h
  split at h <;> first | rfl | cases h

lemma insert_of_put (h : actOf c op ans = .put key) : ∃ value, op = .tree (.insert key value) := by
  unfold actOf at h
  split at h <;> cases h
  exact ⟨_, rfl⟩

lemma isRemove_of_taken (h : (actOf c op ans).taken = some key) : op.isRemove = true := by
  unfold actOf at h
  split at h <;> first | rfl | cases h

lemma isRespond_of_isAnswer (h : (actOf c op ans).isAnswer = true) : op.isRespond = true := by
  unfold actOf at h
  split at h <;> first | rfl | cases h

lemma isWork_of_ne_other (h : actOf c op ans ≠ .other) : op.isWork = true := by
  unfold actOf at h
  split at h <;> first | rfl | exact absurd rfl h

lemma get_of_looked (h : key ∈ (actOf c op ans).looked) :
    ∃ found, (⟨op, ans⟩ : (op : Op) × op.Ans) = ⟨.tree (.get key), found⟩ := by
  unfold actOf at h
  split at h <;> first | cases List.mem_singleton.mp h; exact ⟨_, rfl⟩ | cases h

lemma not_answered (hca : s.Runs i c) (hpa : Without Op.isRespond (s.past i)) :
    ¬ Answered i (items s.log) :=
  not_acted (P := fun a : Act Bytes => a.isAnswer = true) hca hpa fun _ _ => isRespond_of_isAnswer

lemma Made.perform {s : State (auth A)} {j : Nat} {v : Bytes} (h : Made A (s.past j) v)
    (i : Nat) (c : Call) (e : OpEnv) (op : Op) : Made A ((s.perform i c e op).past j) v := by
  obtain ⟨ch, now, hdr, hre, rfl⟩ := h
  refine ⟨ch, now, ?_, ?_, rfl⟩
  · exact State.firstOf_perform (s := s) hdr i c e op
  · exact State.firstOf_perform (s := s) hre i c e op

structure Accounted (s : State (auth A)) : Prop where
  run : Run (fun _ => True) (items s.log)
  stored : ∀ key value, s.shared.lookup key = some value →
    ∃ j, holder key (items s.log) = some j ∧ Made A (s.past j) value
  seen : ∀ i key value, ⟨.tree (.get key), some (some value)⟩ ∈ s.past i →
    ∃ j, Found i key j (items s.log) ∧ Made A (s.past j) value
  held : ∀ key j, holder key (items s.log) = some j → latest key s.log = some j
  pending : ∀ i key j, Found i key j (items s.log) → ¬ Answered i (items s.log) →
    latest key s.log = some j

namespace Accounted

lemma allowed (h : Accounted s) (hu : Unraced s i c e op) (hca : s.Runs i c)
    (hdo : Does A c (s.past i) op) :
    Allowed (fun _ => True) i (items s.log) (actOf c op (act e op s.shared).1) := by
  cases op with
  | enforceRateLimit | fillBytes | now => cases c <;> trivial
  | respond response =>
    cases c with
    | challenge req => trivial
    | prove req =>
      intro hto key hl
      obtain ⟨token, hto⟩ := Option.isSome_iff_exists.mp hto
      obtain ⟨d, hd, hk⟩ := (exists_acts_iff hca fun a : Act Bytes => key ∈ a.looked).mp hl
      obtain ⟨found, heq⟩ := get_of_looked hk
      obtain ⟨re, hre⟩ := (hdo.2 token hto).2.1 key found (heq ▸ hd)
      exact ⟨_, mem_acts_of_past hca hre, rfl, rfl⟩
  | tree op =>
    cases op with
    | scanPrefix | iter => cases c <;> exact hdo.elim
    | insert key value =>
      cases c with
      | prove req => exact hdo.elim
      | challenge req =>
        simp only [act, Table.act, hu.1]
        exact ⟨not_acted (P := fun a : Act Bytes => a.isPut = true) hca hdo.1 fun _ _ =>
          isInsert_of_isPut,
          fun _ => hu.2.free⟩
    | remove key =>
      cases c with
      | challenge req => exact hdo.elim
      | prove req =>
        obtain ⟨hre, han, st, hg⟩ := hdo
        refine ⟨⟨?_, ?_, not_answered hca han⟩, fun _ => ?_⟩
        · exact ⟨_, mem_acts_of_past hca hg, rfl, List.mem_singleton_self key⟩
        · exact not_acted (P := fun a : Act Bytes => a.taken = some key) hca hre fun _ _ =>
            isRemove_of_taken
        · simp [act, Table.act, show e.access.fails = false from hu]
    | get key =>
      cases c with
      | challenge req => exact hdo.elim
      | prove req =>
        have hno : ∀ {P : Act Bytes → Prop}, ¬ P .other → ¬ ∃ x ∈ items s.log, x.1 = i ∧ P x.2 := by
          intro P hP
          refine not_acted hca hdo.2 fun op ans hac => ?_
          exact isWork_of_ne_other fun heq => hP (heq ▸ hac)
        simp only [act, Table.act]
        cases hf : e.access.fails with
        | true => trivial
        | false =>
          cases hl : s.shared.lookup key with
          | none => trivial
          | some value =>
            refine ⟨hno (P := fun a : Act Bytes => a.isAnswer = true) (by simp [Act.isAnswer]),
              fun k => hno (P := fun a : Act Bytes => k ∈ a.looked) (by simp [Act.looked]),
                fun k hk => ?_⟩
            obtain rfl := List.mem_singleton.mp hk
            obtain ⟨j, hho, -⟩ := h.stored k value hl
            exact ⟨Option.isSome_iff_exists.mpr ⟨j, hho⟩, fun _ => hu⟩

lemma stored_perform (h : Accounted s) (hu : Unraced s i c e op) (hdo : Does A c (s.past i) op)
    (key va : Bytes) (hl : (s.perform i c e op).shared.lookup key = some va) :
    ∃ j, holder key (items (s.perform i c e op).log) = some j ∧
      Made A ((s.perform i c e op).past j) va := by
  -- most operations leave the key alone
  have hke : s.shared.lookup key = some va →
      holder key (items (s.perform i c e op).log) = holder key (items s.log) →
      ∃ j, holder key (items (s.perform i c e op).log) = some j ∧
        Made A ((s.perform i c e op).past j) va := by
    intro hl hhe
    obtain ⟨j, hj, hm⟩ := h.stored key va hl
    exact ⟨j, hhe.trans hj, hm.perform i c e op⟩
  cases op with
  | enforceRateLimit | fillBytes | now | respond => exact hke hl (by cases c <;> rfl)
  | tree op =>
    cases op with
    | get k =>
      have hsa : ∀ ans, holder key ((i, actOf c (.tree (.get k)) ans) :: items s.log) =
          holder key (items s.log) := by
        rintro (_ | _ | _) <;> cases c <;> rfl
      exact hke hl (hsa _)
    | scanPrefix | iter => cases c <;> exact hdo.elim
    | insert k v =>
      cases c with
      | prove req => exact hdo.elim
      | challenge req =>
        obtain ⟨-, -, hm⟩ := hdo
        have hf := hu.1
        by_cases hk : k = key
        · subst hk
          obtain rfl : v = va := by simpa [act, Table.act, hf] using hl
          refine ⟨i, ?_, hm.perform i _ e _⟩
          simp [acts, act, Table.act, hf, actOf, holder]
        · simp only [State.perform_shared, act, Table.act, hf, Bool.false_eq_true, if_false,
            AList.lookup_insert_ne (Ne.symm hk)] at hl
          exact hke hl (by simp [acts, act, Table.act, hf, actOf, holder, hk])
    | remove k =>
      have hf : e.access.fails = false := hu
      by_cases hk : k = key
      · subst hk
        simp [act, Table.act, hf] at hl
      · simp only [State.perform_shared, act, Table.act, hf, Bool.false_eq_true, if_false,
          AList.lookup_erase_ne (Ne.symm hk)] at hl
        exact hke hl (by cases c <;> simp [acts, act, Table.act, hf, actOf, holder, hk])

lemma seen_perform (h : Accounted s) (hdo : Does A c (s.past i) op) (i' : Nat) (key v : Bytes)
    (hg : ⟨.tree (.get key), some (some v)⟩ ∈ (s.perform i c e op).past i') : ∃ j,
    Found i' key j (items (s.perform i c e op).log) ∧ Made A ((s.perform i c e op).past j) v := by
  have ho : ⟨.tree (.get key), some (some v)⟩ ∈ s.past i' →
      ∃ j, Found i' key j (items (s.perform i c e op).log) ∧
        Made A ((s.perform i c e op).past j) v := by
    intro hg
    obtain ⟨j, hsa, hm⟩ := h.seen i' key v hg
    exact ⟨j, .inr hsa, hm.perform i c e op⟩
  by_cases hi : i = i'
  · subst hi
    rw [State.past_perform_self] at hg
    rcases List.mem_cons.mp hg with heq | hg
    · obtain rfl := (congrArg Sigma.fst heq).symm
      have han : (act e (.tree (.get key)) s.shared).1 = some (some v) :=
        (eq_of_heq (Sigma.mk.inj heq).2).symm
      have hl : s.shared.lookup key = some v := by
        simp only [act, Table.act] at han
        split at han
        · cases han
        · exact Option.some.inj han
      obtain ⟨j, hhe, hm⟩ := h.stored key v hl
      cases c with
      | challenge req => exact hdo.elim
      | prove req =>
        refine ⟨j, .inl ⟨rfl, ?_, hhe⟩, hm.perform i _ e _⟩
        simp only [han, actOf]
        exact List.mem_singleton_self key
    · exact ho hg
  · rw [State.past_perform_ne s hi] at hg
    exact ho hg

lemma latest_perform (hop : ∀ value, op ≠ .tree (.insert key value)) :
    latest key (s.perform i c e op).log = latest key s.log := by
  cases op with
  | tree op =>
    cases op with
    | insert k v =>
      have hk : k ≠ key := fun hk => hop v (hk ▸ rfl)
      exact if_neg hk
    | _ => rfl
  | _ => rfl

lemma held_perform (h : Accounted s) (hu : Unraced s i c e op) (hdo : Does A c (s.past i) op)
    (key : Bytes) (j : Nat) (hho : holder key (items (s.perform i c e op).log) = some j) :
    latest key (s.perform i c e op).log = some j := by
  by_cases hop : ∃ value, op = .tree (.insert key value)
  · obtain ⟨v, rfl⟩ := hop
    cases c with
    | prove req => exact hdo.elim
    | challenge req =>
      obtain rfl : i = j := by simpa [acts, act, Table.act, hu.1, actOf, holder] using hho
      exact if_pos rfl
  · rw [latest_perform fun v hv => hop ⟨v, hv⟩]
    rcases holder_cons key (i, actOf c op _) (items s.log) with heq | ⟨hpu, -⟩ | heq
    · exact h.held key j (heq.symm.trans hho)
    · exact absurd (insert_of_put hpu) hop
    · cases heq.symm.trans hho

lemma pending_perform (h : Accounted s) (hu : Unraced s i c e op) (i' : Nat) (key : Bytes) (j : Nat)
    (hf : Found i' key j (items (s.perform i c e op).log))
    (han : ¬ Answered i' (items (s.perform i c e op).log)) :
    latest key (s.perform i c e op).log = some j := by
  by_cases hop : ∃ value, op = .tree (.insert key value)
  · obtain ⟨v, rfl⟩ := hop
    rcases hf with ⟨-, hl, -⟩ | hf
    · obtain ⟨found, heq⟩ := get_of_looked hl
      cases congrArg Sigma.fst heq
    · exact absurd (answered_cons.mpr (.inr (hu.2.answered hf.looked))) han
  · rw [latest_perform fun v hv => hop ⟨v, hv⟩]
    rcases hf with ⟨-, -, hho⟩ | hf
    · exact h.held key j hho
    · exact h.pending i' key j hf fun ha => han (answered_cons.mpr (.inr ha))

lemma perform (h : Accounted s) (hu : Unraced s i c e op) (hca : s.Runs i c)
    (hdo : Does A c (s.past i) op) : Accounted (s.perform i c e op) where
  run := ⟨h.allowed hu hca hdo, h.run⟩
  stored := h.stored_perform hu hdo
  seen := h.seen_perform hdo
  held := h.held_perform hu hdo
  pending := h.pending_perform hu

end Accounted

section
variable (made : Bytes32 → Bytes → FixedBytes 64 → Prop) (log : List (Entry (auth A)))

def pastOf (i : Nat) : History Op Op.Ans :=
  (log.filter fun entry => entry.thread == i).map Entry.done

/-- The request has presented the challenge that `j` drew, signed by the owner of the identity, at
most 60 seconds after `j` read the clock. -/
def Answers (i : Nat) (req : ProveRequest) (j : Nat) : Prop :=
  ∃ key challenge signature issuedAt presentedAt,
    Presents req key challenge.val signature ∧ made key challenge.val signature ∧
    drawn (pastOf log j) = some challenge ∧ firstReading (pastOf log j) = some issuedAt ∧
    firstReading (pastOf log i) = some presentedAt ∧ presentedAt.val ≤ issuedAt.val + 60

def handedOut (entry : Entry (auth A)) : Option Bytes :=
  match entry.op with
  | .respond response => tokenOf response
  | _ => none

/-- A token goes out for the identity of a request only if the request has answered the latest
challenge issued for the identity, for which no token has gone out yet. -/
def Justified (entry : Entry (auth A)) (log : List (Entry (auth A))) : Prop :=
  ∀ token, handedOut entry = some token → ∃ req, entry.call = .prove req ∧
    (∃ now, A.encode (claimsAt req.identityKeyHex now) A.jwtSecret = some token) ∧ ∃ j,
    latest (challengeKey req.identityKeyHex) log = some j ∧
    Found entry.thread (challengeKey req.identityKeyHex) j (items log) ∧
    Answers made log entry.thread req j ∧ ∀ i,
    Found i (challengeKey req.identityKeyHex) j (items log) → (i, .answer true) ∉ items log

end

lemma Accounted.answers (h : Accounted s) {R : SignatureRecord} (hR : R.Sound A.ed.verify)
    {i : Nat} {req : ProveRequest} (hpa : Passed A req (s.past i)) : ∃ j,
    Found i (challengeKey req.identityKeyHex) j (items s.log) ∧ Answers R.made s.log i req j := by
  obtain ⟨st, eh, ea, p, hg, hre, hin, hea⟩ := hpa
  obtain ⟨j, hsa, ch, ia, hdr, his, rfl⟩ := h.seen i _ st hg
  rw [inspect_storedChallenge, Except.ok.injEq, Prod.mk.injEq] at hin
  obtain ⟨rfl, rfl⟩ := hin
  obtain ⟨hti, key, si, hpr, hv⟩ := presents_of_examine A hea
  exact ⟨j, hsa, key, ch, si, ia, p, hpr, hR hv, hdr, his, hre, hti⟩

lemma Accounted.justified (h : Accounted s) {R : SignatureRecord} (hR : R.Sound A.ed.verify)
    (hca : s.Runs i c) (hdo : Does A c (s.past i) op) :
    Justified R.made ⟨i, c, e, op, (act e op s.shared).1⟩ s.log := by
  intro tk hto
  cases op with
  | respond r =>
    replace hto : tokenOf r = some tk := hto
    cases c with
    | challenge req => cases (show tokenOf r = none from hdo).symm.trans hto
    | prove req =>
      obtain ⟨hpa, -, hcl⟩ := hdo.2 tk hto
      obtain ⟨j, hsa, han⟩ := h.answers hR hpa
      have hu : Unraced s i (.prove req) e (.respond r) := trivial
      have hal := h.allowed hu hca hdo
      simp only [actOf, hto, Option.isSome_some] at hal
      have hun := not_answered hca hdo.1
      refine ⟨req, rfl, hcl, j, h.pending i _ j hsa hun, hsa, han, fun i' hf hm => hun ?_⟩
      have hr : Run (fun _ => True) ((i, .answer true) :: items s.log) := ⟨hal, h.run⟩
      obtain rfl := hr.handed_out_once trivial (.inr hsa) (.inr hf) (.head _) (.tail _ hm)
      exact ⟨_, hm, rfl, rfl⟩
  | _ => cases hto

lemma accounted_initial : Accounted (A := A) ⟨∅, []⟩ where
  run := trivial
  stored := by
    intro key value hl
    cases hl
  seen := by
    intro i key value hg
    cases hg
  held := by
    intro key j hho
    cases hho
  pending := by
    intro i key j hf
    exact hf.elim

/-- In every run of requests side by side that meets the condition, every token is justified when
it goes out. -/
theorem tokens_justified_of_unraced (A : Authority) (R : SignatureRecord) (hR : R.Sound A.ed.verify)
    (es : Schedule (auth A)) (hes : Along Unraced ∅ es) :
    Runs.Throughout (Justified R.made) (authenticated A es).state.log := by
  refine (Traced.run (I := fun s => Accounted s ∧ Runs.Throughout (Justified R.made) s.log)
    (always_body A) ?_ (Traced.initial (M := auth A) ∅) ⟨accounted_initial, trivial⟩ hes).2.2
  rintro s i c e op ⟨h, hju⟩ hu hca hdo
  exact ⟨h.perform hu hca hdo, h.justified hR hca hdo, hju⟩

section
open Sibna.Symbolic

lemma challenge_length (n : UInt8) : (List.replicate 32 n).length = 32 := by simp

def challengeOf (n : UInt8) : Bytes32 := ⟨List.replicate 32 n, challenge_length n⟩

def challenges : List Bytes := [(challengeOf 1).val, (challengeOf 2).val]

lemma hmac_length (text : Bytes) : ((text ++ List.replicate 32 0).take 32).length = 32 := by simp

def authority : Authority where
  ed := ed challenges
  hmac := fun _ text => ⟨(text ++ List.replicate 32 0).take 32, hmac_length text⟩
  encode := fun claims _ => some (claims.sub ++ decimal claims.iat.toNat)
  jwtSecret := utf8 "secret"
  logsWarnings := true

def authEnv (random : UInt8) (seconds : Nat) : OpEnv :=
  ⟨none, challengeOf random, (relayEnv seconds).clock, .clean⟩

def authTurns (n i seconds : Nat) : Schedule (auth authority) :=
  List.replicate n (.advance i (authEnv 1 seconds))

def challengeCall : Call := .challenge ⟨identityOf 3⟩

def proveCall : Call :=
  .prove ⟨identityOf 3, Text.hexEncode (challengeOf 1).val,
    Text.hexEncode (signature (publicKey 3).val 0)⟩

def challengeAndProofs : Schedule (auth authority) :=
  [.start challengeCall, .start proveCall, .start proveCall] ++ authTurns 5 0 100

def proofsInTurn : Schedule (auth authority) :=
  challengeAndProofs ++ authTurns 6 1 130 ++ authTurns 3 2 140

def tokensOf (log : List (Entry (auth authority))) : List (Nat × Bytes) :=
  log.filterMap fun entry => (handedOut entry).map fun token => (entry.thread, token)

theorem token_justified_in_turn :
    tokensOf (authenticated authority proofsInTurn).state.log =
        [(1, identityOf 3 ++ utf8 "130")] ∧
      Runs.Throughout (Justified (signatures challenges (by decide)).made)
        (authenticated authority proofsInTurn).state.log := by
  refine And.imp_right (tokens_justified_of_unraced authority (signatures challenges (by decide))
    (signatures_sound challenges (by decide)) proofsInTurn) ?_
  decide +kernel

def proofsTogether : Schedule (auth authority) :=
  challengeAndProofs ++ authTurns 2 1 130 ++ authTurns 2 2 130 ++ authTurns 4 1 130 ++
    authTurns 4 2 130

def proofOfOldChallenge : Schedule (auth authority) :=
  challengeAndProofs ++ authTurns 2 1 130 ++
    .start challengeCall :: List.replicate 5 (.advance 3 (authEnv 2 130)) ++ authTurns 4 1 130

/-- Two tokens for one challenge, and one for a challenge that is not the latest. -/
theorem tokens_for_used_and_old_challenge :
    (tokensOf (authenticated authority proofsTogether).state.log =
        [(2, identityOf 3 ++ utf8 "130"), (1, identityOf 3 ++ utf8 "130")] ∧
      ∀ i ∈ [1, 2], Found i (challengeKey (identityOf 3)) 0
        (items (authenticated authority proofsTogether).state.log)) ∧
    tokensOf (authenticated authority proofOfOldChallenge).state.log =
        [(1, identityOf 3 ++ utf8 "130")] ∧
      Found 1 (challengeKey (identityOf 3)) 0
        (items (authenticated authority proofOfOldChallenge).state.log) ∧
      latest (challengeKey (identityOf 3))
        (authenticated authority (proofOfOldChallenge.take 16)).state.log = some 3 := by
  decide +kernel

end

end Sibna.Server.Auth
