import Sibna.RateLimit.Queries

/-!
# Who gets a cooldown

Every error of `check` starts one, also those that are not the client's own.
-/

namespace Sibna

namespace ClientCounter

lemma cooldown_cases (co : ClientCounter) (now : Instant) :
    (∃ cooldownEnd ∈ co.cooldownUntil, now < cooldownEnd ∧
      co.cooldownError now = some (.cooldownActive (cooldownEnd - now))) ∨
    (∀ cooldownEnd ∈ co.cooldownUntil, cooldownEnd ≤ now) ∧
      co.cooldownError now = none ∧ (co.endCooldown now).cooldownUntil = none := by
  unfold cooldownError endCooldown
  cases hco : co.cooldownUntil with
  | none => exact .inr ⟨nofun, rfl, hco⟩
  | some cooldownEnd =>
    by_cases hlt : now < cooldownEnd
    · exact .inl ⟨cooldownEnd, rfl, hlt, if_pos hlt⟩
    right
    dsimp only
    rw [if_neg hlt, if_neg hlt]
    refine ⟨?_, rfl, rfl⟩
    rintro _ ⟨⟩
    exact Nat.le_of_not_lt hlt

end ClientCounter

namespace RateLimiter

/-- If the call is a check of the client, it finds a token and room in every window. -/
def WithinLimits (clientId : Bytes) (l : RateLimiter) : Call → Prop
  | .check operation id now created => id = clientId → ∀ limit ∈ l.limits.lookup operation,
      ∀ refreshed ∈ (l.counterOf id created).refreshed limit now,
        refreshed.limitError operation limit = none
  | _ => True

instance (clientId : Bytes) (l : RateLimiter) (c : Call) :
    Decidable (l.WithinLimits clientId c) := by
  rcases c <;> unfold WithinLimits <;> infer_instance

def NotCooling (P : Platform) (clientId : Bytes) (l : RateLimiter) : Call → Prop
  | .check operation id now created => id = clientId → ∀ r l',
      l.check P operation id now created = some (r, l') →
        ∀ remaining, r ≠ .error (.cooldownActive remaining)
  | _ => True

/-- The end of the cooldown that the last check of the client has started, if it was refused by the
global limit or for want of room. A reset or a pruning of the client's counter takes it away. -/
def penalise (clientId : Bytes) (l : RateLimiter) (penalty : Option Instant) :
    Call → Option Instant
  | .check operation id now _ =>
    if id = clientId then
      match l.limits.lookup operation with
      | none => penalty
      | some limit => if (l.outerError id now).isSome then some (now + limit.cooldown) else none
    else penalty
  | .remaining _ _ _ _ => penalty
  | .reset id => if id = clientId then none else penalty
  | .pruneInactive maxAge now =>
    if (l.pruneInactive maxAge now).isKnown clientId then penalty else none

def watch (P : Platform) (clientId : Bytes) (s : Option RateLimiter × Option Instant) (c : Call) :
    Option RateLimiter × Option Instant :=
  (step P s.1 c, (s.1.map fun l => l.penalise clientId s.2 c).getD s.2)

/-- If the call is a check of the client, it is refused for the same reasons or comes after the
penalty. -/
def Spared (clientId : Bytes) (penalty : Option Instant) (l : RateLimiter) : Call → Prop
  | .check operation id now _ => id = clientId → (l.limits.lookup operation).isSome →
      l.outerError id now = none → ∀ cooldownEnd ∈ penalty, cooldownEnd ≤ now
  | _ => True

instance (clientId : Bytes) (penalty : Option Instant) (l : RateLimiter) (c : Call) :
    Decidable (l.Spared clientId penalty c) := by
  rcases c <;> unfold Spared <;> infer_instance

def CooldownIs (clientId : Bytes) (cooldown : Option Instant) (l : RateLimiter) : Prop :=
  ∀ created, (l.counterOf clientId created).cooldownUntil = cooldown

section
variable {P : Platform} {clientId : Bytes} {penalty : Option Instant} {l l' : RateLimiter}

lemma outerError_eq {now : Instant} {err : RateLimitError}
    (h : l.outerError clientId now = some err) : err = .globalRateExceeded := by
  have hg : ∀ e, (l.checkGlobal now).1 = some e → e = .globalRateExceeded := by
    intro e he
    unfold checkGlobal at he
    split at he
    · generalize (if fromSecs 1 ≤ now - l.globalCounter.lastReset then ⟨0, now⟩
        else l.globalCounter : GlobalCounter) = global at he
      dsimp only at he
      split at he
      · exact (Option.some.inj he).symm
      · cases he
    · cases he
  cases her : (l.checkGlobal now).1 with
  | some e =>
    rw [outerError, her] at h
    obtain rfl := Option.some.inj h
    exact hg e her
  | none =>
    rw [outerError, her] at h
    unfold capacityError at h
    split at h
    · exact (Option.some.inj h).symm
    · cases h

lemma CooldownIs.withCounter (l : RateLimiter) (clientId : Bytes) (co : ClientCounter) :
    CooldownIs clientId co.cooldownUntil (l.withCounter clientId co) := by
  intro cr
  rw [counterOf, lookup_withCounter, Option.getD_some]

lemma CooldownIs.of_lookup (h : CooldownIs clientId penalty l)
    (hl : l'.counters.lookup clientId = l.counters.lookup clientId) :
    CooldownIs clientId penalty l' := by
  intro cr
  rw [counterOf, hl]
  exact h cr

lemma CooldownIs.of_unknown (hl : l.counters.lookup clientId = none) :
    CooldownIs clientId none l := by
  intro cr
  rw [counterOf, hl]
  rfl

section
variable (h : CooldownIs clientId penalty l)
include h

lemma check_of_within {o : String} {li : OperationLimit} {now cr : Instant}
    {r : Except RateLimitError Unit} (hl : l.limits.lookup o = some li)
    (hw : l.WithinLimits clientId (.check o clientId now cr))
    (hch : l.check P o clientId now cr = some (r, l')) :
    (∃ err, l.outerError clientId now = some err ∧ r = .error .globalRateExceeded ∧
        CooldownIs clientId (some (now + li.cooldown)) l') ∨
      l.outerError clientId now = none ∧
        ((∃ cooldownEnd ∈ penalty, now < cooldownEnd ∧
            r = .error (.cooldownActive (cooldownEnd - now))) ∨
          (∀ cooldownEnd ∈ penalty, cooldownEnd ≤ now) ∧ r = .ok () ∧
            CooldownIs clientId none l') := by
  obtain ⟨hn, -⟩ | ⟨li', co, hl', hco, rfl⟩ := check_cases hch
  · simp_all
  obtain rfl := Option.some.inj (hl'.symm.trans hl)
  obtain ⟨re, hre, hca⟩ := ClientCounter.cases_of_check hco
  have hb := hw rfl li' hl' re hre
  have hs (cooldown : Option Instant) (c : ClientCounter) (hc : c.cooldownUntil = cooldown) :
      CooldownIs clientId cooldown
        { l.withCounter clientId c with globalCounter := (l.checkGlobal now).2 } := by
    have hco := CooldownIs.withCounter l clientId c
    rwa [hc] at hco
  cases ho : l.outerError clientId now with
  | some err =>
    left
    rw [ho] at hca
    rcases hca with ⟨hn, -⟩ | ⟨err', her, rfl, rfl⟩
    · cases hn
    · cases her
      obtain rfl := outerError_eq ho
      exact ⟨_, rfl, rfl, hs _ _ rfl⟩
  | none =>
    right
    refine ⟨rfl, ?_⟩
    have hcl := h cr
    have heo : (none <|> (l.counterOf clientId cr).cooldownError now <|> none) =
        (l.counterOf clientId cr).cooldownError now := by
      cases (l.counterOf clientId cr).cooldownError now <;> rfl
    rw [ho, hb, heo] at hca
    rcases (l.counterOf clientId cr).cooldown_cases now with
      ⟨cooldownEnd, hed, hlt, hac⟩ | ⟨hov, hn, hen⟩
    · left
      rcases hca with ⟨hn, -⟩ | ⟨err, her, rfl, -⟩
      · simp_all
      · simp_all
    · right
      rcases hca with ⟨-, rfl, rfl⟩ | ⟨err, her, -⟩
      · rw [hcl] at hov
        refine ⟨hov, rfl, hs _ _ ?_⟩
        exact (ClientCounter.eq_of_refreshed hre).2.2.trans hen
      · simp_all

lemma notCooling_iff_spared {c : Call} (han : (l.call P c).isSome)
    (hw : l.WithinLimits clientId c) : l.NotCooling P clientId c ↔ l.Spared clientId penalty c := by
  cases c with
  | check operation id now created =>
    refine imp_congr_right fun hid => ?_
    subst hid
    obtain ⟨⟨r, l'⟩, hch⟩ : ∃ r, l.check P operation id now created = some r := by
      rw [call, Option.isSome_map] at han
      exact Option.isSome_iff_exists.mp han
    cases hl : l.limits.lookup operation with
    | none =>
      rw [check_unknown hl]
      refine iff_of_true ?_ (by simp)
      rintro _ _ ⟨⟩
      simp
    | some limit =>
      have hon : (∀ r' l'', l.check P operation id now created = some (r', l'') →
          ∀ remaining, r' ≠ .error (.cooldownActive remaining)) ↔
          ∀ remaining, r ≠ .error (.cooldownActive remaining) := by
        refine ⟨fun hal => hal r l' hch, fun hr r' l'' hc' => ?_⟩
        obtain ⟨rfl, -⟩ := Prod.mk.inj (Option.some.inj (hch.symm.trans hc'))
        exact hr
      rw [hon]
      rcases check_of_within h hl hw hch with ⟨err, ho, rfl, -⟩ |
          ⟨ho, ⟨cooldownEnd, hen, hlt, rfl⟩ | ⟨hov, rfl, -⟩⟩
      · refine iff_of_true (by simp) fun _ hn => ?_
        rw [ho] at hn
        cases hn
      · refine iff_of_false (fun hr => hr _ rfl) fun hsp => ?_
        exact absurd (hsp rfl ho cooldownEnd hen) (Nat.not_le.mpr hlt)
      · exact iff_of_true (by simp) fun _ _ => hov
  | remaining | reset | pruneInactive => exact Iff.rfl

lemma CooldownIs.call {c : Call} {a : Answer} (hw : l.WithinLimits clientId c)
    (hsp : l.Spared clientId penalty c) (hc : l.call P c = some (a, l')) :
    CooldownIs clientId (l.penalise clientId penalty c) l' := by
  by_cases ho : ∃ id, c.client = some id ∧ id ≠ clientId
  · obtain ⟨id, hcl, hne⟩ := ho
    have hpe : l.penalise clientId penalty c = penalty := by
      cases c with
      | check | remaining | reset =>
        cases hcl
        simp [penalise, hne]
      | pruneInactive maxAge now => cases hcl
    rw [hpe]
    exact h.of_lookup (lookup_of_call hc hcl hne)
  have how := fun id hcl => Classical.not_not.mp fun hne => ho ⟨id, hcl, hne⟩
  cases c with
  | check operation id now created =>
    obtain rfl := how id rfl
    obtain ⟨r, -, hr⟩ := call_check hc
    rw [penalise, if_pos rfl]
    cases hli : l.limits.lookup operation with
    | none =>
      rw [check_unknown hli] at hr
      cases hr
      exact h
    | some limit =>
      rcases check_of_within h hli hw hr with ⟨err, hou, -, hn⟩ |
          ⟨hou, ⟨cooldownEnd, hen, hlt, -⟩ | ⟨-, -, hn⟩⟩
      · simp_all
      · have hle := hsp rfl (by rw [hli]; rfl) hou cooldownEnd hen
        exact absurd hle (Nat.not_le.mpr hlt)
      · simp_all
  | remaining operation id created now =>
    obtain rfl := how id rfl
    obtain ⟨q, -, hr⟩ := call_remaining hc
    rcases remaining_cases hr with ⟨-, rfl, -⟩ | ⟨limit, counter, -, -, hre, -, rfl⟩
    · exact h
    · have hs := CooldownIs.withCounter l id counter
      rwa [cooldown_of_remaining hre, h created] at hs
  | reset id =>
    obtain rfl := how id rfl
    cases hc
    rw [penalise, if_pos rfl]
    exact .of_unknown (AList.lookup_erase _ _)
  | pruneInactive maxAge now =>
    cases hc
    rw [penalise]
    cases hl : (l.pruneInactive maxAge now).counters.lookup clientId with
    | none =>
      rw [isKnown, hl, Option.isSome_none, if_neg Bool.false_ne_true]
      exact .of_unknown hl
    | some counter =>
      rw [isKnown_of_lookup hl, if_pos rfl]
      refine h.of_lookup (hl.trans ?_)
      rw [lookup_pruneInactive, Option.filter_eq_some_iff] at hl
      exact hl.1.symm

end

end

/-- A client that stays below its own limits and starts without a cooldown is never answered with
`CooldownActive`, exactly if each of its checks that follows one refused by the global limit or for
want of room is refused for these reasons too or comes after the cooldown of the refused one. -/
theorem cooldown_only_after_outer_refusal_iff (P : Platform) (l : RateLimiter) (clientId : Bytes)
    (calls : List Call)
    (hstart : ∀ counter ∈ l.counters.lookup clientId, counter.cooldownUntil = none)
    (hruns : (Runs.exec (step P) (some l) calls).isSome)
    (hwithin : Unwinding.Meets (call P) (WithinLimits clientId) l calls) :
    Unwinding.Meets (call P) (NotCooling P clientId) l calls ↔
      Runs.Guarded (watch P clientId) (fun s c => ∀ l ∈ s.1, Spared clientId s.2 l c) (some l, none)
        calls := by
  have hok := (Unwinding.meets_answered hruns).and hwithin
  have hproject (ok : Option RateLimiter → Call → Prop) :
      Runs.Guarded (step P) ok _ calls ↔
        Runs.Guarded (watch P clientId) (fun s c => ok s.1 c) _ calls :=
    Runs.guarded_project (f := Prod.fst) (fun _ _ => rfl) (some l, none) calls
  have hI : ∀ t ∈ (some l, (none : Option Instant)).1, CooldownIs clientId none t := by
    rintro _ ⟨⟩ created
    unfold counterOf
    cases hlookup : l.counters.lookup clientId with
    | none => rfl
    | some counter => exact hstart counter hlookup
  refine (hproject _).trans (Runs.Guarded.iff_of_invariant
    (I := fun s => ∀ t ∈ s.1, CooldownIs clientId s.2 t) ?_ ?_ ((hproject _).mp hok) hI)
  · intro s c hs hok
    refine forall₂_congr fun t ht => ?_
    exact notCooling_iff_spared (hs t ht) (hok.1 t ht) (hok.2 t ht)
  intro s c hs hok hspared t' ht'
  obtain ⟨t, a, ht, hcall⟩ := step_some ht'
  have hnext := (hs t ht).call (hok.2 t ht) (hspared t ht) hcall
  simpa [watch, ht] using hnext

def crowded (n : Nat) : List Call :=
  List.replicate n (.check "encrypt" [2] (fromSecs 100) (fromSecs 100)) ++
    [.check "encrypt" [1] (fromSecs 100) (fromSecs 100),
      .check "encrypt" [1] (fromSecs 102) (fromSecs 102)]

theorem spared_below_global_limit :
    Unwinding.Meets (call ⟨2 ^ 63⟩) (WithinLimits [1]) (new 0) (crowded 5) ∧
    Unwinding.Meets (call ⟨2 ^ 63⟩) (NotCooling ⟨2 ^ 63⟩ [1]) (new 0) (crowded 5) := by
  refine (and_iff_left_of_imp fun hwithin => ?_).mpr (by decide +kernel)
  exact (cooldown_only_after_outer_refusal_iff ⟨2 ^ 63⟩ (new 0) [1] (crowded 5) nofun
    (by decide +kernel) hwithin).mpr (by decide +kernel)

/-- The other client has used up a global limit of five a second. -/
theorem cooldown_without_offence :
    Unwinding.Meets (call ⟨2 ^ 63⟩) (WithinLimits [1]) ((new 0).setGlobalRps 5) (crowded 5) ∧
      Unwinding.answers (call ⟨2 ^ 63⟩) (ofClient [1]) ((new 0).setGlobalRps 5) (crowded 5) =
        [.checked (.error .globalRateExceeded),
          .checked (.error (.cooldownActive (fromSecs 28)))] ∧
      Unwinding.answers (call ⟨2 ^ 63⟩) (ofClient [1]) ((new 0).setGlobalRps 5) (crowded 0) =
        [.checked (.ok ()), .checked (.ok ())] :=
  ⟨by decide +kernel, rfl, rfl⟩

end RateLimiter

end Sibna
