import Sibna.Group.Runs

/-!
# How long a group lasts

The public calls of a `GroupManager` in any order. A call that aborts leaves everything as it was.
-/

namespace Sibna

variable {S : Suite} {G : GroupSuite S}

inductive ManagerCall (S : Suite) where
  | createGroup (now : Option Nat) (env : GroupEnv S) (groupId : Bytes32)
  | session (groupId : Bytes32) (call : GroupCall S)
  | leaveGroup (groupId : Bytes32)
  | pruneInactive (now : Option Nat) (maxAgeSecs : UInt64)

namespace GroupManager

def onSession (G : GroupSuite S) (m : GroupManager S) (groupId : Bytes32) (call : GroupCall S) :
    GroupManager S :=
  match m.groups.lookup groupId with
  | none => m
  | some session => m.setGroup groupId (session.step G call)

def step (G : GroupSuite S) (m : GroupManager S) : ManagerCall S → GroupManager S
  | .createGroup now env groupId => (m.createGroup now env groupId).2
  | .session groupId call => m.onSession G groupId call
  | .leaveGroup groupId => m.leaveGroup groupId
  | .pruneInactive now maxAgeSecs => (m.pruneInactive now maxAgeSecs).getD m

section
variable (m : GroupManager S) (now : Option Nat) (maxAgeSecs : UInt64)

lemma pruneInactive_cases :
    (∃ m', m.pruneInactive now maxAgeSecs = some m' ∧
      (∀ g s, m.groups.lookup g = some s → s.lastActivity ≤ now.getD farFuture) ∧
      ∀ g, m'.groups.lookup g = (m.groups.lookup g).filter fun s =>
        now.getD farFuture - s.lastActivity < maxAgeSecs.toNat) ∨
    m.pruneInactive now maxAgeSecs = none ∧
      ∃ g s, m.groups.lookup g = some s ∧ now.getD farFuture < s.lastActivity := by
  have hen := Maps.forall_mem_entries m.groups (P := fun _ s => s.lastActivity ≤ now.getD farFuture)
  by_cases hpa : ∀ group ∈ m.groups.entries, group.2.lastActivity ≤ now.getD farFuture
  · exact .inl ⟨_, if_pos hpa, hen.mp hpa, fun g => Maps.lookup_filter m.groups g _⟩
  · refine .inr ⟨if_neg hpa, ?_⟩
    have hf := hen.not.mp hpa
    simpa only [not_forall, Nat.not_le, exists_prop] using hf

/-- Pruning returns, with exactly the groups that were active in the last `maxAgeSecs` seconds or
will be, if and only if none has its last activity in the future. -/
theorem pruneInactive_exact_iff :
    (∃ m', m.pruneInactive now maxAgeSecs = some m' ∧
      ∀ g s, m'.groups.lookup g = some s ↔ m.groups.lookup g = some s ∧
        (now.getD farFuture - s.lastActivity < maxAgeSecs.toNat ∨
          now.getD farFuture < s.lastActivity)) ↔
    ∀ g s, m.groups.lookup g = some s → s.lastActivity ≤ now.getD farFuture := by
  rcases pruneInactive_cases m now maxAgeSecs with ⟨m', heq, hpast, hkept⟩ | ⟨heq, g, s, hs, hlt⟩
  · refine ⟨fun _ => hpast, fun _ => ⟨m', heq, fun g s => ?_⟩⟩
    rw [hkept, Option.filter_eq_some_iff, decide_eq_true_eq]
    refine and_congr_right fun hs => ?_
    have hle := hpast g s hs
    omega
  · constructor
    · rintro ⟨m', heq', -⟩
      rw [heq] at heq'
      cases heq'
    · exact fun hpast => absurd (hpast g s hs) (Nat.not_le.mpr hlt)

end

section
variable (m : GroupManager S)

/-- There is room for one more group, the random generator gives a chain key and the clock can be
read. -/
def CanCreate (env : GroupEnv S) : Prop :=
  m.groups.entries.length < m.maxGroups ∧ env.chainKey.isSome ∧ (env.clock.read .created).isSome
  deriving Decidable

lemma createGroup_cases (now : Option Nat) (env : GroupEnv S) (m : GroupManager S) (g : Bytes32) :
    ¬ m.CanCreate env ∧ (m.createGroup now env g).2 = m ∨ m.CanCreate env ∧ ∃ session sk,
    session.ourSenderKey = some sk ∧ env.chainKey = some sk.chainKey ∧
    m.createGroup now env g = (.ok (), m.setGroup g session) := by
  unfold createGroup
  by_cases hf : m.groups.entries.length ≥ m.maxGroups
  · rw [if_pos hf]
    exact .inl ⟨fun h => absurd h.1 (Nat.not_lt.mpr hf), rfl⟩
  rw [if_neg hf]
  have hn : SenderKey.new env 1 = do
      let chainKey ← okOr env.chainKey .randomFailed
      let createdAt ← okOr _ .internalError
      return ⟨chainKey, 0,
        some (UInt64.ofNat (createdAt + SenderKey.defaultExpirationSecs)), 1⟩ := rfl
  cases hch : env.chainKey with
  | none =>
    rw [hch] at hn
    refine .inl ⟨fun h => ?_, ?_⟩
    · simp [CanCreate, hch] at h
    · simp only [GroupSession.initializeSenderKey, hn]
      rfl
  | some k =>
    cases hcl : env.clock.read .created with
    | none =>
      rw [hch, hcl] at hn
      refine .inl ⟨fun h => ?_, ?_⟩
      · simp [CanCreate, hcl] at h
      · simp only [GroupSession.initializeSenderKey, hn]
        rfl
    | some t =>
      rw [hch, hcl] at hn
      refine .inr ⟨⟨Nat.lt_of_not_le hf, ?_, ?_⟩, ?_⟩
      · rw [hch]
        rfl
      · rw [hcl]
        rfl
      · simp only [GroupSession.initializeSenderKey, hn]
        exact ⟨_, _, rfl, rfl, rfl⟩

lemma lookup_setGroup (g : Bytes32) (s : GroupSession S) :
    (m.setGroup g s).groups.lookup g = some s :=
  AList.lookup_insert _

lemma lookup_setGroup_ne {g q : Bytes32} (s : GroupSession S) (h : q ≠ g) :
    (m.setGroup g s).groups.lookup q = m.groups.lookup q :=
  AList.lookup_insert_ne h

/-- A group that exists is as it was after the call, or the call was one of its own operations and
has led to the session that the operation makes, or it was left or pruned and is gone. -/
def Lasts (G : GroupSuite S) (m : GroupManager S) (c : ManagerCall S) : Prop :=
  ∀ g s, m.groups.lookup g = some s → (m.step G c).groups.lookup g = some s ∨
    (∃ call, c = .session g call ∧ (m.step G c).groups.lookup g = some (s.step G call)) ∨
    (c = .leaveGroup g ∨ ∃ now maxAgeSecs, c = .pruneInactive now maxAgeSecs) ∧
    (m.step G c).groups.lookup g = none

/-- The call creates a group that exists, and nothing stands in its way. -/
def Recreates : ManagerCall S → Prop
  | .createGroup _ env groupId => (m.groups.lookup groupId).isSome ∧ m.CanCreate env
  | _ => False

end

instance (m : GroupManager S) (c : ManagerCall S) : Decidable (m.Recreates c) := by
  cases c <;> unfold Recreates <;> infer_instance

/-- The random chain key is not the one that the group has. -/
def DrawsFresh (m : GroupManager S) : ManagerCall S → Prop
  | .createGroup _ env groupId => ∀ s ∈ m.groups.lookup groupId, ∀ sk ∈ s.ourSenderKey,
      env.chainKey ≠ some sk.chainKey
  | _ => True

instance [DecidableEq S.Key] (m : GroupManager S) (c : ManagerCall S) :
    Decidable (m.DrawsFresh c) := by
  cases c <;> unfold DrawsFresh <;> infer_instance

lemma lasts_session (m : GroupManager S) (gi : Bytes32) (call : GroupCall S) :
    m.Lasts G (.session gi call) := by
  intro g s hs
  by_cases hg : g = gi
  · subst hg
    have hst : m.step G (.session g call) = m.setGroup g (s.step G call) := by
      simp only [step, onSession, hs]
    rw [hst]
    exact .inr (.inl ⟨call, rfl, lookup_setGroup _ _ _⟩)
  · left
    simp only [step, onSession]
    split
    · exact hs
    · rw [lookup_setGroup_ne _ _ hg, hs]

lemma lasts_leaveGroup (m : GroupManager S) (gi : Bytes32) : m.Lasts G (.leaveGroup gi) := by
  intro g s hs
  by_cases hg : g = gi
  · subst hg
    exact .inr (.inr ⟨.inl rfl, AList.lookup_erase _ _⟩)
  · exact .inl ((AList.lookup_erase_ne hg).trans hs)

lemma lasts_pruneInactive (m : GroupManager S) (now : Option Nat) (maxAgeSecs : UInt64) :
    m.Lasts G (.pruneInactive now maxAgeSecs) := by
  intro g s hs
  rcases pruneInactive_cases m now maxAgeSecs with ⟨m', heq, -, hke⟩ | ⟨heq, -⟩
  · have hst : m.step G (.pruneInactive now maxAgeSecs) = m' := by rw [step, heq, Option.getD_some]
    rw [hst, hke, hs, Option.filter_some]
    split
    · exact .inl rfl
    · exact .inr (.inr ⟨.inr ⟨now, maxAgeSecs, rfl⟩, rfl⟩)
  · left
    rw [step, heq, Option.getD_none, hs]

lemma lasts_createGroup_iff {now : Option Nat} {env : GroupEnv S} {m : GroupManager S}
    {gi : Bytes32} (hf : m.DrawsFresh (.createGroup now env gi)) :
    m.Lasts G (.createGroup now env gi) ↔ ¬ m.Recreates (.createGroup now env gi) := by
  rcases createGroup_cases now env m gi with ⟨hca, heq⟩ | ⟨hcn, session, sk, hsk, hk, heq⟩
  · refine ⟨fun _ h => hca h.2, fun _ g s hs => .inl ?_⟩
    rw [step, heq, hs]
  have hst : m.step G (.createGroup now env gi) = m.setGroup gi session := by
    rw [step, heq]
  constructor
  · rintro hl ⟨hso, -⟩
    obtain ⟨s, hs⟩ := Option.isSome_iff_exists.mp hso
    rcases hl gi s hs with hsa | ⟨call, hc, -⟩ | ⟨hc | ⟨_, _, hc⟩, -⟩
    · -- the new session has the random chain key
      rw [hst, lookup_setGroup] at hsa
      cases hsa
      exact hf session hs sk hsk hk
    · cases hc
    · cases hc
    · cases hc
  · intro hn g s hs
    have hg : g ≠ gi := by
      rintro rfl
      exact hn ⟨Option.isSome_iff_exists.mpr ⟨s, hs⟩, hcn⟩
    left
    rw [hst, lookup_setGroup_ne _ _ hg, hs]

lemma lasts_iff {m : GroupManager S} {c : ManagerCall S} (hf : m.DrawsFresh c) :
    m.Lasts G c ↔ ¬ m.Recreates c := by
  cases c with
  | createGroup now env g => exact lasts_createGroup_iff hf
  | session g call => exact iff_of_true (lasts_session m g call) not_false
  | leaveGroup g => exact iff_of_true (lasts_leaveGroup m g) not_false
  | pruneInactive now maxAgeSecs =>
    exact iff_of_true (lasts_pruneInactive m now maxAgeSecs) not_false

/-- Along a run every group that exists is changed by its own operations only and ends only when it
is left or pruned, exactly as long as no group that exists is created once more. -/
theorem groups_last_iff (G : GroupSuite S) (m : GroupManager S)
    (calls : List (ManagerCall S)) (hfresh : Runs.Guarded (step G) DrawsFresh m calls) :
    Runs.Guarded (step G) (Lasts G) m calls ↔ Runs.Guarded (step G)
    (fun m c => ¬ m.Recreates c) m calls :=
  hfresh.iff fun _ _ h => lasts_iff h

end GroupManager

namespace Symbolic

open GroupManager

def filledGroup : List (ManagerCall short) :=
  [.createGroup (some 1000) (shortEnv 1000 1) groupId,
    .session groupId (.addMember (shortEnv 1001 0) sender)]

def createdOnceMore : ManagerCall short := .createGroup (some 1002) (shortEnv 1002 2) groupId

theorem left_before_created :
    Runs.Guarded (step shortGroup) DrawsFresh .new
        (filledGroup ++ [.leaveGroup groupId, createdOnceMore]) ∧
      Runs.Guarded (step shortGroup) (Lasts shortGroup) .new
        (filledGroup ++ [.leaveGroup groupId, createdOnceMore]) := by
  refine (and_iff_left_of_imp fun hfresh => ?_).mpr (by decide +kernel)
  exact (groups_last_iff shortGroup .new _ hfresh).mpr (by decide +kernel)

def held (m : GroupManager short) : List Bytes32 × UInt64 × Option Key :=
  match m.groups.lookup groupId with
  | none => ([], 0, none)
  | some s => (s.members, s.epoch, s.ourSenderKey.map (·.chainKey))

/-- The second creation succeeds, and the member, the epoch and the sender key are gone. -/
theorem created_twice :
    let m := Runs.exec (step shortGroup) .new filledGroup
    held m = ([sender], 1, some (chainKey 1)) ∧
      (m.createGroup (some 1002) (shortEnv 1002 2) groupId).1 = .ok () ∧
      held (m.step shortGroup createdOnceMore) = ([], 0, some (chainKey 2)) := by
  decide +kernel

lemma touchless_lt (r : GroupRead) (t : Nat)
    (h : (if r = .touch then none else some 1000) = some t) : t < 2 ^ 63 := by
  split at h
  · cases h
  · cases h
    decide

def touchless : GroupEnv short :=
  ⟨⟨fun r => if r = .touch then none else some 1000, touchless_lt⟩, some (chainKey 1), some nonce⟩

/-- After a correction of the clock by a second, the group that was just created ends the process;
one whose time was recorded while the clock could not be read does so from then on. -/
theorem pruned_after_correction :
    let m := (GroupManager.new.createGroup (some 1000) (shortEnv 1000 1) groupId).2
    ((m.pruneInactive (some 1000) 10).map fun m => (m.groups.lookup groupId).isSome) = some true ∧
      (m.pruneInactive (some 999) 10).isNone = true ∧
      ((GroupManager.new.createGroup (some 1000) touchless groupId).2.pruneInactive
        (some 1000) 10).isNone = true := by
  decide +kernel

end Symbolic

end Sibna
