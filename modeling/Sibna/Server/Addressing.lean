import Sibna.Server.Isolation
import Sibna.Server.RelayTrace

/-!
# Whom an entry is for

Recipients and subjects of tokens are texts, used as they came. A key can be written in several
ways, and only an upload writes it anew.
-/

namespace Sibna.Server.Relay

open Interleaving Text

def WellKeyed (t : Table QueueItem) : Prop :=
  ∀ key item, t.lookup key = some item → ∃ id, key = queueKey item.recipientId id

section
variable {ed : Ed25519}

def OpenedFor (log : List (Entry (relay ed))) (identity : Bytes) (channel : Nat) : Prop :=
  ∃ entry ∈ log, entry.done = ⟨.openChannel, channel⟩ ∧
    ∃ claims, entry.call = .connect claims ∧ claims.sub = identity

lemma OpenedFor.cons {log : List (Entry (relay ed))} {i : Bytes} {ch : Nat}
    (h : OpenedFor log i ch) (en : Entry (relay ed)) :
    OpenedFor (en :: log) i ch := by
  obtain ⟨x, hx, hdo, hcl⟩ := h
  exact ⟨x, .tail _ hx, hdo, hcl⟩

structure Addressed (s : State (relay ed)) : Prop where
  keyed : WellKeyed s.shared.tableQueue
  done : ∀ entry ∈ s.log, ∃ past, Performs ed entry.call past entry.op
  opened : ∀ entry ∈ s.log, ∀ channel, entry.done = ⟨.openChannel, channel⟩ →
    channel < s.shared.channels
  once : ∀ entry ∈ s.log, ∀ entry' ∈ s.log, ∀ channel, entry.done = ⟨.openChannel, channel⟩ →
    entry'.done = ⟨.openChannel, channel⟩ → entry.call = entry'.call
  entered : ∀ identity channel, s.shared.clients.lookup identity = some channel →
    OpenedFor s.log identity channel

lemma clients_act {e : OpEnv} {op : Op} {s : Shared} {i : Bytes} {ch : Nat}
    (h : (act e op s).2.clients.lookup i = some ch) :
    op = .register i ch ∨ s.clients.lookup i = some ch := by
  cases op with
  | register i' c' =>
    simp only [act] at h
    by_cases heq : i = i'
    · subst heq
      rw [AList.lookup_insert] at h
      cases h
      exact .inl rfl
    · simp_all
  | unregister i' =>
    simp only [act] at h
    by_cases heq : i = i'
    · subst heq
      rw [AList.lookup_erase] at h
      cases h
    · simp_all
  | push r f =>
    refine .inr ?_
    simp only [act, Shared.send] at h
    split at h
    · split at h <;> exact h
    · exact h
  | send c' f =>
    refine .inr ?_
    simp only [act, Shared.send] at h
    split at h <;> exact h
  | _ => exact .inr h

lemma channels_act (e : OpEnv) (op : Op) (s : Shared) : s.channels ≤ (act e op s).2.channels ∧
    ∀ channel, (⟨op, (act e op s).1⟩ : (op : Op) × op.Ans) = ⟨.openChannel, channel⟩ →
    channel = s.channels ∧ (act e op s).2.channels = s.channels + 1 := by
  by_cases hop : op = .openChannel
  · subst hop
    refine ⟨Nat.le_succ _, fun channel h => ?_⟩
    cases h
    exact ⟨rfl, rfl⟩
  · refine ⟨Nat.le_of_eq ?_, fun channel h => absurd (congrArg Sigma.fst h) hop⟩
    cases op with
    | openChannel => exact absurd rfl hop
    | push r f =>
      simp only [act, Shared.send]
      split
      · split <;> rfl
      · rfl
    | send c' f =>
      simp only [act, Shared.send]
      split <;> rfl
    | _ => rfl

lemma WellKeyed.act {s : Shared} (h : WellKeyed s.tableQueue) (e : OpEnv) {c : Call} {past : Past}
    {op : Op} (hop : Performs ed c past op) : WellKeyed (act e op s).2.tableQueue := by
  intro key item hl
  rcases lookup_queue_act e op s key with hsa | ⟨item', rfl, -, hne⟩ | ⟨-, -, hn⟩
  · exact h key item (hsa ▸ hl)
  · obtain rfl := Option.some.inj (hne.symm.trans hl)
    exact hop.1
  · rw [hn] at hl
    cases hl

lemma Addressed.perform {s : State (relay ed)} {i : Nat} {c : Call} {e : OpEnv} {op : Op}
    (h : Addressed s) (hca : s.Runs i c) (hop : Performs ed c (s.past i) op) :
      Addressed (s.perform i c e op) := by
  obtain ⟨hle, hn⟩ := channels_act e op s.shared
  refine ⟨h.keyed.act e hop, ?_, ?_, ?_, ?_⟩
  · intro entry hen
    rcases List.mem_cons.mp hen with rfl | hen
    · exact ⟨s.past i, hop⟩
    · exact h.done entry hen
  · intro entry hen channel hdo
    rcases List.mem_cons.mp hen with rfl | hen
    · obtain ⟨rfl, hne⟩ := hn channel hdo
      exact hne ▸ Nat.lt_succ_self _
    · exact Nat.lt_of_lt_of_le (h.opened entry hen channel hdo) hle
  · intro entry hen entry' he' channel hdo hd'
    rcases List.mem_cons.mp hen with rfl | hen
    · rcases List.mem_cons.mp he' with rfl | he'
      · rfl
      · obtain ⟨rfl, -⟩ := hn channel hdo
        exact absurd (h.opened entry' he' _ hd') (Nat.lt_irrefl _)
    · rcases List.mem_cons.mp he' with rfl | he'
      · obtain ⟨rfl, -⟩ := hn channel hd'
        exact absurd (h.opened entry hen _ hdo) (Nat.lt_irrefl _)
      · exact h.once entry hen entry' he' channel hdo hd'
  · intro identity channel hl
    rcases clients_act hl with rfl | hl
    · obtain ⟨⟨claims, rfl, hsu⟩, ho⟩ := hop
      obtain ⟨entry, hen, hth, hdo⟩ := State.mem_past.mp ho
      have hopenedFor : OpenedFor s.log identity channel :=
        ⟨entry, hen, hdo, claims, hca entry hen hth, hsu.symm⟩
      exact hopenedFor.cons _
    · exact (h.entered identity channel hl).cons _

lemma Addressed.injective {s : State (relay ed)} (h : Addressed s) {i i' : Bytes}
    {ch : Nat} (hl : s.shared.clients.lookup i = some ch)
    (hl' : s.shared.clients.lookup i' = some ch) : i = i' := by
  obtain ⟨x, hx, hdo, cl, hc, hsu⟩ := h.entered i ch hl
  obtain ⟨y, hy, hd', c', hc', hs'⟩ := h.entered i' ch hl'
  have hsa := hc.symm.trans ((h.once x hx y hy ch hdo hd').trans hc')
  cases hsa
  exact hsu.symm.trans hs'

lemma addressed_relayed {s : Shared} (hke : WellKeyed s.tableQueue) (hcl : s.clients = ∅)
    (es : Schedule (relay ed)) : Addressed (relayed ed s es).state := by
  have hin : Addressed (⟨s, []⟩ : State (relay ed)) := by
    refine ⟨hke, ?_, ?_, ?_, ?_⟩
    · exact fun en hen => absurd hen List.not_mem_nil
    · exact fun en hen => absurd hen List.not_mem_nil
    · exact fun en hen => absurd hen List.not_mem_nil
    · simp_all
  exact performed_invariant ed hin Addressed.perform es

end

end Sibna.Server.Relay

namespace Sibna.Server

open Interleaving Text

namespace Relay
variable {ed : Ed25519}

variable {s : State (relay ed)}

lemma queuePrefix_iff (h : Addressed s) {cl : Claims} {r key : Bytes} {item : QueueItem}
    (hde : Text.hexDecode r = some cl.key.val) (hit : s.shared.tableQueue.lookup key = some item)
    (hre : item.recipientId = r) : queuePrefix cl.sub <+: key ↔ r = cl.sub := by
  obtain ⟨id, rfl⟩ := h.keyed key item hit
  rw [hre]
  constructor
  · intro hpf
    exact (eq_of_queuePrefix hpf cl.colon_notMem (notMem_of_hexDecode hde rfl)).symm
  · rintro rfl
    exact ⟨id, by simp [queuePrefix, queueKey]⟩

lemma pushed_iff (h : Addressed s) {i r : Bytes} {ch : Nat}
    (hch : s.shared.clients.lookup i = some ch) {e : OpEnv} (ho : e.channelOpen = true)
    (f : Frame) : (act e (.push r f) s.shared).2.sent = s.shared.sent ++ [(ch, f)] ↔ r = i := by
  constructor
  · intro hse
    simp only [act, Shared.send, ho] at hse
    cases hl : s.shared.clients.lookup r with
    | none =>
      rw [hl] at hse
      have hle := congrArg List.length hse
      simp at hle
    | some c' =>
      rw [hl] at hse
      obtain rfl : c' = ch := by simpa using hse
      exact h.injective hl hch
  · rintro rfl
    simp [act, Shared.send, hch, ho]

/-- Messages for a spelling of the user's key reach the user exactly if the token has that
spelling: those in the queue by the scans of the user's calls, the others by a push. -/
structure Decided (s : State (relay ed)) (claims : Claims) (spelling : Bytes) : Prop where
  queued : ∀ entry ∈ s.log, ∀ pfx, entry.call.reader = some claims →
    entry.op = .queue (.scanPrefix pfx) → ∀ key item, s.shared.tableQueue.lookup key = some item →
      item.recipientId = spelling → (pfx <+: key ↔ spelling = claims.sub)
  addressed : ∀ entry ∈ s.log, ∀ recipientId frame, entry.op = .push recipientId frame →
    frame.recipientId = some recipientId
  pushed : ∀ channel, s.shared.clients.lookup claims.sub = some channel → ∀ e frame,
    e.channelOpen = true →
      ((act e (.push spelling frame) s.shared).2.sent = s.shared.sent ++ [(channel, frame)] ↔
        spelling = claims.sub)

lemma Addressed.decided (h : Addressed s) {cl : Claims} {sp : Bytes}
    (hsp : Text.hexDecode sp = some cl.key.val) : Decided s cl sp where
  queued := by
    intro en hen pfx hra hop key item hit hre
    obtain ⟨past, hdo⟩ := h.done en hen
    rw [hop] at hdo
    obtain ⟨c', hr', rfl⟩ := hdo
    cases hr'.symm.trans hra
    exact queuePrefix_iff h hsp hit hre
  addressed := by
    intro en hen r f hop
    obtain ⟨past, hdo⟩ := h.done en hen
    rw [hop] at hdo
    exact hdo.1
  pushed := fun _ hch _ f ho => pushed_iff h hch ho f

end Relay

namespace Prekeys
variable {S : Suite} {H : HandshakeSuite S}

lemma rootPrefix_iff {r : Bytes} {key : Bytes32} (di : UInt32)
    (hde : Text.hexDecode r = some key.val) :
    rootPrefix r <+: deviceKey (Text.hexEncode key.val) di ↔ r = Text.hexEncode key.val := by
  constructor
  · intro hpf
    exact first_field_of_begins hpf (notMem_of_hexDecode hde rfl) (colon_notMem_hexEncode _)
  · rintro rfl
    exact ⟨decimal di.toNat, by simp [rootPrefix, deviceKey]⟩

lemma resortKey_iff {r : Bytes} {key : Bytes32} :
    resortKey r = resortKey (Text.hexEncode key.val) ↔ r = Text.hexEncode key.val :=
  ⟨List.append_cancel_left, congrArg resortKey⟩

lemma does_of_served (H : HandshakeSuite S) (es : Schedule (prekeys H)) :
    ∀ entry ∈ (served H es).state.log, ∃ past, Does H entry.call past entry.op := by
  refine served_always H (I := fun s => ∀ entry ∈ s.log, ∃ past, Does H entry.call past entry.op)
    ?_ ?_ es
  · exact nofun
  intro s i c e op h _ hdo entry hen
  rcases List.mem_cons.mp hen with rfl | hen
  · exact ⟨s.past i, hdo⟩
  · exact h entry hen

lemma entryOf_upload {cl : Claims} {p : UploadPrekeyRequest} {b : PreKeyBundle}
    {past : History Op Op.Ans} {key v : Bytes} (hb : p.bundle = some b)
    (h : Does H (.upload cl p) past (.tree (.insert key v))) : EntryOf b.rootIdentityKey key := by
  obtain ⟨-, b', co, ex, hca, -⟩ := h
  obtain rfl := Option.some.inj (hca.bundle.symm.trans hb)
  obtain ⟨-, -, rfl⟩ := hca
  unfold dbKey
  split
  · exact .inl rfl
  · exact .inr ⟨b'.deviceId, rfl⟩

/-- Uploads write to the entries of the key in small letters; fetches of a spelling and deletions
with the token act on these entries exactly if they are in small letters too. -/
structure Decided (log : List (Entry (prekeys H))) (claims : Claims) (spelling : Bytes) : Prop where
  uploaded : ∀ entry ∈ log, ∀ claims' payload b key value, entry.call = .upload claims' payload →
    payload.bundle = some b → entry.op = .tree (.insert key value) → EntryOf b.rootIdentityKey key
  fetched : ∀ entry ∈ log, entry.call = .fetch spelling →
    ∀ pfx, entry.op = .tree (.scanPrefix pfx) →
    ∀ deviceId, (pfx <+: deviceKey (Text.hexEncode claims.key.val) deviceId ↔
      spelling = Text.hexEncode claims.key.val)
  resorted : ∀ entry ∈ log, entry.call = .fetch spelling → ∀ key, entry.op = .tree (.get key) →
    (key = resortKey (Text.hexEncode claims.key.val) ↔ spelling = Text.hexEncode claims.key.val)
  deleted : ∀ entry ∈ log, ∀ path, entry.call = .delete claims path → ∀ pfx,
    entry.op = .tree (.scanPrefix pfx) → ∀ deviceId,
      (pfx <+: deviceKey (Text.hexEncode claims.key.val) deviceId ↔
        claims.sub = Text.hexEncode claims.key.val)

lemma decided_served (H : HandshakeSuite S) (es : Schedule (prekeys H))
    {cl : Claims} {sp : Bytes}
    (hsp : Text.hexDecode sp = some cl.key.val) :
    Decided (served H es).state.log cl sp := by
  have hdo := does_of_served H es
  refine ⟨?_, ?_, ?_, ?_⟩
  · intro en hen c' p b key v hc hb hop
    obtain ⟨past, h⟩ := hdo en hen
    rw [hc, hop] at h
    exact entryOf_upload hb h
  · intro en hen hc pfx hop di
    obtain ⟨past, h⟩ := hdo en hen
    rw [hc, hop] at h
    obtain ⟨rfl, -⟩ := h
    exact rootPrefix_iff di hsp
  · intro en hen hc key hop
    obtain ⟨past, h⟩ := hdo en hen
    rw [hc, hop] at h
    obtain rfl := h
    exact resortKey_iff
  · intro en hen path hc pfx hop di
    obtain ⟨past, h⟩ := hdo en hen
    rw [hc, hop] at h
    obtain ⟨rfl, rfl⟩ := h
    exact rootPrefix_iff di cl.decodes

end Prekeys

section
open Sibna.Symbolic

def capitals : Bytes := (identityOf 10).map fun c => if 97 ≤ c then c - 32 else c

def claimsInCapitals : Claims where
  sub := capitals
  key := publicKey 10
  decodes := by decide +kernel

def messageInSmallLetters : Schedule (Relay.relay relayEd) :=
  [.start (.connect claimsInCapitals),
    .start (.send (claimsOf 3) ⟨identityOf 10, utf8 "00", none⟩),
    .start (.inbox claimsInCapitals capitals)] ++
    relayTurns 4 0 10 ++ relayTurns 7 1 20 ++ relayTurns 4 2 30

def relayAnswers (log : List (Entry (Relay.relay relayEd))) : List (Nat × Response Relay.Inbox) :=
  log.filterMap fun entry =>
    match entry.op with
    | .returned (.response r) => some (entry.thread, r)
    | _ => none

def capitalSuite : HandshakeSuite suite := handshake (bundleMessages 10 11)

def bundleInCapitals : Schedule (Prekeys.prekeys capitalSuite) :=
  [.start (.upload claimsInCapitals ⟨Text.hexEncode (bundle 10 11).toBytes, none⟩),
    .start (.delete claimsInCapitals capitals)] ++
    List.replicate 6 (.advance 0 prekeyEnv) ++ List.replicate 3 (.advance 1 prekeyEnv)

def prekeyAnswers (log : List (Entry (Prekeys.prekeys capitalSuite))) : List (Nat × Status) :=
  log.filterMap fun entry =>
    match entry.op with
    | .respond r => some (entry.thread, r.status)
    | _ => none

def afterMessage : State (Relay.relay relayEd) :=
  (Relay.relayed relayEd relayStart messageInSmallLetters).state

def afterDeletion : State (Prekeys.prekeys capitalSuite) :=
  (Prekeys.served capitalSuite bundleInCapitals).state

end

end Sibna.Server
