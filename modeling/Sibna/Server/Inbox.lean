import Mathlib.Data.List.TakeWhile
import Sibna.RateLimit.Limiter
import Sibna.Server.Addressing

/-!
# The inbox over HTTP

`inbox_handler` behind the rate limiter. It removes whatever stands under the identity.
-/

namespace Sibna.Server

open Text

/-- `ip` is the address as it is printed. -/
def generateRateKey (ip identity : Bytes) : Bytes := ip ++ utf8 "|" ++ identity

def enforceRateLimit (P : Platform) (limiter : RateLimiter) (operation : String)
    (ip identity : Bytes) (now created : Instant) : Option (Option String × RateLimiter) :=
  (limiter.check P operation (generateRateKey ip identity) now created).map fun r =>
    match r.1 with
    | .ok () => (none, r.2)
    | .error e => (some e.text, r.2)

def prekeyLimit : OperationLimit := ⟨500, 5000, 100000, 1000000, fromMillis 100, 100⟩

def ipUnauthLimit : OperationLimit := ⟨50, 200, 5000, 20000, fromMillis 500, 50⟩

def serverLimiter (now : Instant) : RateLimiter :=
  let limiter := ((RateLimiter.new now).setGlobalEnabled true).setGlobalRps 5000
  let limiter := limiter.addLimit "ip_unauth" ipUnauthLimit
  let limiter := limiter.addLimit "prekey_upload" prekeyLimit
  let limiter := limiter.addLimit "prekey_fetch" prekeyLimit
  let limiter := limiter.addLimit "auth_challenge" prekeyLimit
  let limiter := limiter.addLimit "auth_prove" prekeyLimit
  limiter.addLimit "message_send" prekeyLimit

def WithinLimits (P : Platform) (limiter : RateLimiter) (operation : String) (ip identity : Bytes)
    (now created : Instant) : Prop :=
  ∀ limit, limiter.limits.lookup operation = some limit → ∃ limiter',
    limiter.check P operation (generateRateKey ip identity) now created = some (.ok (), limiter')

lemma refusal_isNone_iff {P : Platform} {l l' : RateLimiter} {o : String}
    {ip identity : Bytes} {now cr : Instant} {r : Option String}
    (h : enforceRateLimit P l o ip identity now cr = some (r, l'))
    (hw : WithinLimits P l o ip identity now cr) :
    r = none ↔ (l.limits.lookup o).isSome = true := by
  cases hl : l.limits.lookup o with
  | none =>
    rw [enforceRateLimit, RateLimiter.check_unknown hl] at h
    cases h
    simp
  | some li =>
    obtain ⟨next, hch⟩ := hw li hl
    rw [enforceRateLimit, hch] at h
    cases h
    simp

namespace Relay

open Interleaving Symbolic

lemma scanPrefix_clean {β : Type} (t : Table β) (pfx : Bytes) :
    t.scanPrefix .clean pfx = t.sorted.filter fun entry => pfx.isPrefixOf entry.1 := by
  have hal : ∀ entry ∈ (t.sorted.filter fun entry => pfx.isPrefixOf entry.1).zipIdx,
    Access.clean.readable entry.2 = true := fun _ _ => rfl
  have ho : ¬ Access.clean.fails = true := Bool.false_ne_true
  rw [Table.scanPrefix, if_neg ho, List.takeWhile_eq_self_iff.mpr hal, List.zipIdx_map_fst]

lemma run_removeAll (keys : List Bytes) {env : Nat → OpEnv} (s : Shared)
    (hcl : ∀ n, (env n).access = .clean) :
    ∃ t env', (removeAll (fun key => .queue (.remove key)) keys).run act env s =
        ((), { s with tableQueue := t }, env') ∧
      ∀ key, t.lookup key = if key ∈ keys then none else s.tableQueue.lookup key := by
  induction keys generalizing s env with
  | nil => exact ⟨s.tableQueue, env, rfl, fun key => by simp⟩
  | cons key keys ih =>
    obtain ⟨t, env', hr, hl⟩ :=
      ih { s with tableQueue := s.tableQueue.erase key } (fun n => hcl _)
    refine ⟨t, env', ?_, fun key' => ?_⟩
    · rw [← hr]
      simp only [removeAll, perform, Prog.perform_bind, Prog.run, act, hcl 0, Access.clean]
      rfl
    · rw [hl key']
      by_cases heq : key' = key
      · subst heq
        simp
      · simp [heq]

section
variable {claims : Claims} {env : Nat → OpEnv} {s : Shared}

lemma run_inboxHandler_refused {text : String} (h : (env 0).refusal = some text) :
    ((inboxHandler claims claims.sub).run act env s).1 = tooManyRequests text := by
  simp [inboxHandler, perform, Prog.run, act, h, pure]

def under (s : Shared) (identity : Bytes) : List (Bytes × QueueItem) :=
  s.tableQueue.sorted.filter fun entry => (queuePrefix identity).isPrefixOf entry.1

variable {identity key : Bytes} {item : QueueItem}

lemma mem_under : (key, item) ∈ under s identity ↔ s.tableQueue.lookup key = some item ∧
    queuePrefix identity <+: key := by
  rw [under, List.mem_filter, Table.mem_sorted, List.isPrefixOf_iff_prefix]

lemma run_inboxHandler (hre : (env 0).refusal = none)
    (hcl : ∀ n, (env n).access = .clean) :
    ∃ t, ((inboxHandler claims claims.sub).run act env s).1 =
        ⟨.ok, .json (inboxOf (env 1).clock (under s claims.sub))⟩ ∧
      ((inboxHandler claims claims.sub).run act env s).2.1 = { s with tableQueue := t } ∧
      ∀ key, t.lookup key =
        if key ∈ (under s claims.sub).map Prod.fst then none else s.tableQueue.lookup key := by
  obtain ⟨t, env', hr, hl⟩ := run_removeAll _ s (fun n => hcl _)
  have hst : (inboxHandler claims claims.sub).run act env s =
      (removeAll (fun key => .queue (.remove key)) ((under s claims.sub).map Prod.fst) >>= fun _ =>
        pure ⟨.ok, .json (inboxOf (env 1).clock (under s claims.sub))⟩).run act
          (fun n => env (n + 3)) s := by
    simp only [inboxHandler, ne_eq, not_true_eq_false, if_false, perform, Prog.perform_bind,
      Prog.run, act, hre, Table.act, hcl 2, scanPrefix_clean]
    rfl
  rw [hst, Prog.run_bind, hr]
  exact ⟨t, rfl, rfl, hl⟩

lemma removed_iff {t : Table QueueItem} (hl : ∀ key, t.lookup key =
      if key ∈ (under s identity).map Prod.fst then none else s.tableQueue.lookup key)
    (hit : s.tableQueue.lookup key = some item) :
    t.lookup key = none ↔ queuePrefix identity <+: key := by
  rw [hl key]
  by_cases hm : key ∈ (under s identity).map Prod.fst
  · obtain ⟨⟨key', item'⟩, hen, rfl⟩ := List.mem_map.mp hm
    rw [if_pos hm]
    exact iff_of_true rfl (mem_under.mp hen).2
  · rw [if_neg hm, hit]
    refine iff_of_false nofun fun hpf => hm ?_
    exact List.mem_map.mpr ⟨(key, item), mem_under.mpr ⟨hit, hpf⟩, rfl⟩

def QueueItem.lapsed (item : QueueItem) (now : Timestamp) : Bool := item.expires < now.val

def pending (identity : Bytes) (now : Timestamp) (entry : Bytes × QueueItem) :
    Option SealedEnvelope :=
  if entry.2.recipientId = identity ∧ entry.2.lapsed now = false then entry.2.envelope else none

/-- The user gets every pending envelope once; these and what has expired are gone, and nothing
else is. -/
structure Delivered (identity : Bytes) (now : Timestamp) (s : Shared) (r : Response Inbox)
    (s' : Shared) : Prop where
  answer : r = ⟨.ok, .json ⟨(s.tableQueue.sorted.filterMap (pending identity now)).map some,
    (s.tableQueue.sorted.filterMap (pending identity now)).length⟩⟩
  removed : ∀ key item, s.tableQueue.lookup key = some item →
    (s'.tableQueue.lookup key = none ↔
      item.recipientId = identity ∧ (item.lapsed now = true ∨ item.envelope.isSome = true))
  kept : ∀ key, s'.tableQueue.lookup key = none ∨
    s'.tableQueue.lookup key = s.tableQueue.lookup key
  others : s' = { s with tableQueue := s'.tableQueue }

def WithoutSignals (s : Shared) (identity : Bytes) (now : Timestamp) : Prop :=
  ∀ key item, s.tableQueue.lookup key = some item → item.recipientId = identity →
    item.lapsed now = false → item.envelope.isSome = true

def Unmixed (s : Shared) (identity : Bytes) : Prop :=
  ∀ key item, s.tableQueue.lookup key = some item → queuePrefix identity <+: key →
    item.recipientId = identity

lemma queuePrefix_of_recipientId (hke : WellKeyed s.tableQueue)
    (hl : s.tableQueue.lookup key = some item) : queuePrefix item.recipientId <+: key := by
  obtain ⟨id, rfl⟩ := hke key item hl
  exact ⟨id, by simp [queuePrefix, queueKey]⟩

lemma map_filter_eq_filterMap {α β : Type} {p : α → Bool} {f g : α → Option β} {l : List α}
    (h : ∀ x ∈ l, (p x = true ∧ ∃ y, f x = some y ∧ g x = some y) ∨ (p x = false ∧ g x = none)) :
    (l.filter p).map f = (l.filterMap g).map some := by
  induction l with
  | nil => rfl
  | cons x l ih =>
    obtain ⟨hx, hl⟩ := List.forall_mem_cons.mp h
    rcases hx with ⟨hp, y, hf, hg⟩ | ⟨hp, hg⟩
    · simp_all
    · rw [List.filter_cons_of_neg (by simp [hp]), List.filterMap_cons_none hg, ih hl]

lemma inboxOf_eq {now : Timestamp} {en : List (Bytes × QueueItem)}
    (hsa : ∀ entry ∈ en, queuePrefix identity <+: entry.1 ↔ entry.2.recipientId = identity)
    (hsi : ∀ entry ∈ en, entry.2.recipientId = identity → entry.2.lapsed now = false →
      entry.2.envelope.isSome = true) :
    inboxOf now (en.filter fun entry => (queuePrefix identity).isPrefixOf entry.1) =
      ⟨(en.filterMap (pending identity now)).map some,
        (en.filterMap (pending identity now)).length⟩ := by
  have hm : ((en.filter fun entry => (queuePrefix identity).isPrefixOf entry.1).filter
      fun entry => ¬ now.val > entry.2.expires).map (fun entry => entry.2.envelope) =
        (en.filterMap (pending identity now)).map some := by
    rw [List.filter_filter]
    refine map_filter_eq_filterMap fun entry het => ?_
    by_cases hre : entry.2.recipientId = identity
    · have hpf := List.isPrefixOf_iff_prefix.mpr ((hsa entry het).mpr hre)
      by_cases hl : now.val > entry.2.expires
      · exact .inr ⟨by simp [hl], by simp [pending, QueueItem.lapsed, hl]⟩
      have hu := decide_eq_false hl
      obtain ⟨ev, hen⟩ :=
        Option.isSome_iff_exists.mp (hsi entry het hre hu)
      refine .inl ⟨by simp [hpf, hl], ev, hen, ?_⟩
      rw [pending, if_pos ⟨hre, hu⟩, hen]
    · have hpf : (queuePrefix identity).isPrefixOf entry.1 = false := by
        rwa [Bool.eq_false_iff, ne_eq, List.isPrefixOf_iff_prefix, hsa entry het]
      exact .inr ⟨by simp [hpf], if_neg fun h => hre h.1⟩
  have hco := congrArg List.length hm
  rw [List.length_map, List.length_map] at hco
  simp only [inboxOf, hm, hco]

lemma delivered_iff {t : Table QueueItem} {now : Timestamp} (hke : WellKeyed s.tableQueue)
    (hl : ∀ key, t.lookup key =
      if key ∈ (under s identity).map Prod.fst then none else s.tableQueue.lookup key) :
    Delivered identity now s ⟨.ok, .json (inboxOf now (under s identity))⟩
        { s with tableQueue := t } ↔
      WithoutSignals s identity now ∧ Unmixed s identity := by
  constructor
  · intro h
    refine ⟨fun key item hit hre hla => ?_, fun key item hit hpf => ?_⟩
    · have hpf := queuePrefix_of_recipientId hke hit
      rw [hre] at hpf
      have ho := (h.removed key item hit).mp ((removed_iff hl hit).mpr hpf)
      exact ho.2.resolve_left (by simp [hla])
    · exact ((h.removed key item hit).mp ((removed_iff hl hit).mpr hpf)).1
  · rintro ⟨hsi, hu⟩
    have hsa : ∀ key item, s.tableQueue.lookup key = some item →
        (queuePrefix identity <+: key ↔ item.recipientId = identity) := by
      intro key item hit
      refine ⟨hu key item hit, ?_⟩
      rintro rfl
      exact queuePrefix_of_recipientId hke hit
    refine ⟨?_, ?_, ?_, rfl⟩
    · rw [under, inboxOf_eq]
      · exact fun en hen => hsa en.1 en.2 (Table.mem_sorted.mp hen)
      · exact fun en hen => hsi en.1 en.2 (Table.mem_sorted.mp hen)
    · intro key item hit
      rw [removed_iff hl hit, hsa key item hit]
      refine ⟨fun hre => ⟨hre, ?_⟩, fun h => h.1⟩
      cases hla : item.lapsed now with
      | true => exact .inl rfl
      | false => exact .inr (hsi key item hit hre hla)
    · intro key
      simp only [hl key]
      split
      · exact .inl rfl
      · exact .inr rfl

end

/-- For a user within the limits, the inbox is delivered exactly where its operation has a limit, no
WebRTC signal waits for the user, and no entry for somebody else stands under their identity. -/
theorem inbox_delivered_iff (P : Platform) (limiter limiter' : RateLimiter) (ip : Bytes)
    (now created : Instant) (claims : Claims) (s : Shared) (env : Nat → OpEnv)
    (hkeyed : WellKeyed s.tableQueue) (hclean : ∀ n, (env n).access = .clean)
    (hlimiter : enforceRateLimit P limiter "inbox_fetch" ip claims.sub now created =
      some ((env 0).refusal, limiter'))
    (hwithin : WithinLimits P limiter "inbox_fetch" ip claims.sub now created) :
    Delivered claims.sub (env 1).clock s ((inboxHandler claims claims.sub).run act env s).1
        ((inboxHandler claims claims.sub).run act env s).2.1 ↔
      (limiter.limits.lookup "inbox_fetch").isSome = true ∧
        WithoutSignals s claims.sub (env 1).clock ∧ Unmixed s claims.sub := by
  rw [← refusal_isNone_iff hlimiter hwithin]
  cases hrefusal : (env 0).refusal with
  | some text =>
    refine ⟨fun h => ?_, fun h => nomatch h.1⟩
    have hanswer := h.answer
    rw [run_inboxHandler_refused hrefusal] at hanswer
    cases congrArg Response.status hanswer
  | none =>
    obtain ⟨t, hresponse, hshared, hlookup⟩ :
        ∃ t, ((inboxHandler claims claims.sub).run act env s).1 =
            ⟨.ok, .json (inboxOf (env 1).clock _)⟩ ∧
          ((inboxHandler claims claims.sub).run act env s).2.1 = { s with tableQueue := t } ∧
          ∀ key, t.lookup key = if key ∈ (under s claims.sub).map Prod.fst then none
            else s.tableQueue.lookup key :=
      run_inboxHandler hrefusal hclean
    rw [hresponse, hshared, delivered_iff hkeyed hlookup]
    exact ⟨fun h => ⟨rfl, h⟩, fun h => h.2⟩

def queueOf (content : QueueContent) : Shared :=
  { relayStart with
    tableQueue := (∅ : Table QueueItem).insert (queueKey (identityOf 5) (utf8 "m1")) ⟨content, 70⟩ }

def waitingSignal : WebRtcSignal := ⟨identityOf 5, utf8 "00", [], 10⟩

lemma lookup_queueOf {co : QueueContent} {key : Bytes} {item : QueueItem}
    (h : (queueOf co).tableQueue.lookup key = some item) :
    key = queueKey (identityOf 5) (utf8 "m1") ∧ item = ⟨co, 70⟩ := by
  by_cases hk : key = queueKey (identityOf 5) (utf8 "m1")
  · subst hk
    exact ⟨rfl, (Option.some.inj ((AList.lookup_insert _).symm.trans h)).symm⟩
  · rw [queueOf, AList.lookup_insert_ne hk] at h
    cases h

theorem envelope_delivered_to_inbox :
    let waiting := queueOf (.envelope unsignedEnvelope)
    let answer := (inboxHandler (claimsOf 5) (identityOf 5)).run act (fun _ => relayEnv 10) waiting
    ∃ limiter', enforceRateLimit ⟨2 ^ 63⟩ ((serverLimiter 0).addLimit "inbox_fetch" prekeyLimit)
        "inbox_fetch" (utf8 "127.0.0.1") (identityOf 5) (fromSecs 100) (fromSecs 100) =
        some (none, limiter') ∧
      Delivered (identityOf 5) (relayEnv 10).clock waiting answer.1 answer.2.1 := by
  refine ⟨_, rfl, ?_⟩
  refine (inbox_delivered_iff ⟨2 ^ 63⟩ ((serverLimiter 0).addLimit "inbox_fetch" prekeyLimit) _
    (utf8 "127.0.0.1") (fromSecs 100) (fromSecs 100) (claimsOf 5)
    (queueOf _) (fun _ => relayEnv 10) ?_ (fun _ => rfl) rfl ?_).mpr
    ⟨rfl, ?_, ?_⟩
  · intro key item hitem
    obtain ⟨rfl, rfl⟩ := lookup_queueOf hitem
    exact ⟨utf8 "m1", rfl⟩
  · exact fun limit _ => ⟨_, rfl⟩
  · intro key item hitem _ _
    obtain ⟨rfl, rfl⟩ := lookup_queueOf hitem
    rfl
  · intro key item hitem _
    obtain ⟨rfl, rfl⟩ := lookup_queueOf hitem
    rfl

/-- `run_server` sets no limit for the operation, so that every request is one too many; with a
limit, a signal goes out as null and is gone. -/
theorem inbox_refused_and_signal_lost :
    let answer := (inboxHandler (claimsOf 5) (identityOf 5)).run act
    let refusal := "Unknown operation: inbox_fetch"
    let last := answer (fun _ => relayEnv 10) (queueOf (.signal waitingSignal))
    (enforceRateLimit ⟨2 ^ 63⟩ (serverLimiter 0) "inbox_fetch" (utf8 "127.0.0.1") (identityOf 5)
        (fromSecs 100) (fromSecs 100)).map Prod.fst = some (some refusal) ∧
      (answer (fun _ => { relayEnv 10 with refusal := some refusal })
          (queueOf (.envelope unsignedEnvelope))).1 = ⟨.tooManyRequests, .text refusal⟩ ∧
      last.1 = ⟨.ok, .json ⟨[none], 1⟩⟩ ∧
      last.2.1.tableQueue.lookup (queueKey (identityOf 5) (utf8 "m1")) = none := by
  decide +kernel

end Relay

end Sibna.Server
