import Sibna.Ratchet.Ledger
import Sibna.Snapshots.Branches

/-!
# What the calls do to a restored session

Every sending chain is a stream of message keys in the sense of `Cursors`.
-/

namespace Sibna

open KeyAlgebra DoubleRatchetSession

namespace Suite.SymbolicKdf
variable {S : Suite} (K : S.SymbolicKdf)

def place (k : S.Key) : KeyTerm SessionAtom S.Shared × Nat := ((K.term k).origin, K.pos k)

lemma place_messageKeyAt (k : S.Key) : K.place (messageKeyAt k 0) = K.place k := by
  have hte : K.term (messageKeyAt k 0) = .mac (K.term k) messageKeySeed := K.term_hmac _ _
  have hs : messageKeySeed ≠ chainKeySeed := by decide
  simp only [place, pos, hte, KeyTerm.origin, KeyTerm.pos, if_neg hs]

lemma place_chainAt_one (k : S.Key) :
    K.place (chainAt k 1) = ((K.place k).1, (K.place k).2 + 1) := by
  have hte : K.term (chainAt k 1) = .mac (K.term k) chainKeySeed := K.term_hmac _ _
  simp only [place, pos, hte, KeyTerm.origin, KeyTerm.pos, if_pos]

lemma place_kdfRk (k : S.Key) (s : S.Shared) :
    K.place (kdfRk S k s).2 = (.chain (K.term k) s, 0) := by
  simp only [place, pos, kdfRk, K.term_ratchet_chain, KeyTerm.origin, KeyTerm.pos]

end Suite.SymbolicKdf

section
variable {S : Suite}

def DoubleRatchetState.cursor (K : S.SymbolicKdf) (s : DoubleRatchetState S) :
    Option (KeyTerm SessionAtom S.Shared × Nat) :=
  s.dhRemote.bind fun _ => s.sendingChain.map fun c => K.place c.key

variable {adopted : List Bytes32} {env : Env S} {s s' : DoubleRatchetState S}

lemma DoubleRatchetState.cursor_congr (K : S.SymbolicKdf) (hr : s'.dhRemote = s.dhRemote)
    (hk : s'.sendingChain.map ChainKey.key = s.sendingChain.map ChainKey.key) :
    s'.cursor K = s.cursor K := by
  have hm : ∀ t : DoubleRatchetState S, t.sendingChain.map (fun c => K.place c.key) =
      (t.sendingChain.map ChainKey.key).map K.place := fun t => by rw [Option.map_map]; rfl
  simp only [cursor, hr, hm, hk]

lemma DoubleRatchetState.cursor_of_sending (K : S.SymbolicKdf) {r : Bytes32} {c : ChainKey S}
    (hr : s.dhRemote = some r) (hc : s.sendingChain = some c) :
    s.cursor K = some (K.place c.key) := by
  simp only [cursor, hr, hc, Option.bind_some, Option.map_some]

lemma DoubleRatchetState.cursor_of_none (K : S.SymbolicKdf) (hr : s.dhRemote = none) :
    s.cursor K = none := by
  simp only [cursor, hr, Option.bind_none]

structure Anchored (adopted : List Bytes32) (s : DoubleRatchetState S) : Prop where
  bytes : ∀ b, s.dhRemoteBytes = some b → ∃ r ∈ adopted, b = r.val
  remote : ∀ r, s.dhRemote = some r → s.dhRemoteBytes = some r.val
  sending : s.dhRemoteBytes = none → s.sendingChain = none
  stalled : s.dhRemote = none → ∀ c, s.sendingChain = some c →
    s.dhLocal = none ∨ c.maxMessages ≤ c.index

section
variable (h : Anchored adopted s)
include h

lemma Anchored.mono {a' : List Bytes32} (hsu : ∀ r ∈ adopted, r ∈ a') : Anchored a' s where
  __ := h
  bytes := by
    intro b hb
    obtain ⟨r, hr, heq⟩ := h.bytes b hb
    exact ⟨r, hsu r hr, heq⟩

lemma Anchored.remote_mem {r : Bytes32} (hr : s.dhRemote = some r) : r ∈ adopted := by
  obtain ⟨r', hr', heq⟩ := h.bytes _ (h.remote r hr)
  obtain rfl := Subtype.ext heq
  exact hr'

lemma Anchored.save : Anchored adopted (serializeState s).load where
  __ := h
  remote := fun r hr => by cases hr
  stalled := fun _ _ _ => Or.inl rfl

lemma Anchored.renumber {f : ChainKey S → ChainKey S} (a : Nat)
    (hf : ∀ c, (f c).maxMessages = c.maxMessages ∧ c.index ≤ (f c).index) :
    Anchored adopted { s with sendingChain := s.sendingChain.map f, lastActivity := a } where
  __ := h
  sending := by
    intro hn
    simp only [h.sending hn, Option.map_none]
  stalled := by
    intro hr c hc
    obtain ⟨c₀, hc₀, rfl⟩ := Option.map_eq_some_iff.mp hc
    obtain ⟨hm, hin⟩ := hf c₀
    rw [hm]
    exact (h.stalled hr c₀ hc₀).imp id fun hle => hle.trans hin

end

lemma reserveNonces_eq (env : Env S) (s : DoubleRatchetState S) (count : Nat) :
    ∃ activity, reserveNonces env s count = { s with
      sendingChain := s.sendingChain.map fun c =>
        { c with reservedUntil := saturatingAdd c.index count }
      lastActivity := activity } := by
  obtain ⟨_, sending, _, _, _, _, _, _, _, _, _, activity, _, _, _⟩ := s
  cases sending with
  | none => exact ⟨activity, rfl⟩
  | some c => exact ⟨_, rfl⟩

lemma rotateIfNeeded_sending_of_none (hr : s.dhRemote = none) :
    (rotateIfNeeded env s).sendingChain = s.sendingChain := by
  unfold rotateIfNeeded
  split
  · rw [performDhRatchet_none hr]
    rfl
  · rfl

lemma Anchored.rotate_stalled (h : Anchored adopted s) (hr : s.dhRemote = none)
    (hst : ∀ c, s.sendingChain = some c →
      c.maxMessages ≤ c.index ∨ c.ageSecs (env.clock.read .rotation) ≤ 86400) {c : ChainKey S}
    (hc : s.sendingChain = some c) :
    (rotateIfNeeded env s).dhLocal = none ∨ c.maxMessages ≤ c.index := by
  rcases hst c hc with hm | hag
  · exact .inr hm
  by_cases hm : c.maxMessages ≤ c.index
  · exact .inr hm
  have hn : mustRotate env s = false := by
    simp only [mustRotate, hc, Option.map_some, Option.getD_some, ChainKey.needsRotation,
      Bool.or_eq_false_iff, decide_eq_false_iff_not]
    omega
  rw [rotateIfNeeded_of_not hn]
  exact h.stalled hr c hc

lemma Anchored.encrypt {co : Config} {p ad : Bytes}
    {r : Except ProtocolError (Encrypted S)} (h : Anchored adopted s)
    (hst : s.dhRemote = none → ∀ c, s.sendingChain = some c →
      c.maxMessages ≤ c.index ∨ c.ageSecs (env.clock.read .rotation) ≤ 86400)
    (hen : encryptMessage co env s p ad = (r, s')) : Anchored adopted s' := by
  rcases encryptMessage_frame hen with rfl | ⟨sending, activity, sent, rfl, hse⟩
  · exact h
  -- without a remote key the chain is the old one, and it has moved only with keys left
  have ho : s.dhRemote = none → ∀ c', sending = some c' → ∃ c, s.sendingChain = some c ∧
      (c' = c ∨ c.index < c.maxMessages) := by
    intro hr c' hc'
    rw [rotateIfNeeded_sending_of_none hr] at hse
    rcases hse with rfl | ⟨c, hc, hlt, -⟩
    · exact ⟨c', hc', .inl rfl⟩
    · exact ⟨c, hc, .inr hlt⟩
  constructor
  · simpa using h.bytes
  · simpa using h.remote
  · intro hn
    have hb : s.dhRemoteBytes = none := by simpa using hn
    have hr : s.dhRemote = none := by
      cases hr : s.dhRemote with
      | none => rfl
      | some r =>
        rw [h.remote r hr] at hb
        cases hb
    cases hs : sending with
    | none => rfl
    | some c' =>
      obtain ⟨c, hc, -⟩ := ho hr c' hs
      rw [h.sending hb] at hc
      cases hc
  · intro hn c' hc'
    have hr : s.dhRemote = none := by simpa using hn
    obtain ⟨c, hc, hm⟩ := ho hr c' hc'
    rcases h.rotate_stalled hr (hst hr) hc with hl | hma
    · exact .inl hl
    · rcases hm with rfl | hlt
      · exact .inr hma
      · omega

lemma Anchored.decrypt {co : Config} {me ad : Bytes} {d : Decrypted S}
    (h : Anchored adopted s) (hde : decryptMessage co env s me ad = (.ok d, s')) :
    Anchored (d.message.header.dhPublic :: adopted) s' := by
  rcases decryptMessage_frame hde with hk | ht
  · have hs := h.mono fun r hr => List.mem_cons_of_mem d.message.header.dhPublic hr
    constructor
    · rw [hk.dhRemoteBytes]
      exact hs.bytes
    · rw [hk.dhRemote, hk.dhRemoteBytes]
      exact hs.remote
    · rw [hk.dhRemoteBytes, hk.sending]
      exact hs.sending
    · rw [hk.dhRemote, hk.sending, hk.dhLocal]
      exact hs.stalled
  · constructor
    · intro b hb
      rw [ht.dhRemoteBytes, Option.some.injEq] at hb
      exact ⟨_, .head _, hb.symm⟩
    · intro r hr
      rw [ht.dhRemote, Option.some.injEq] at hr
      rw [ht.dhRemoteBytes, hr]
    · intro hn
      rw [ht.dhRemoteBytes] at hn
      cases hn
    · intro hn
      rw [ht.dhRemote] at hn
      cases hn

/-- What `deserialize_state` leaves in the object. -/
inductive Restored (env : Env S) (s : DoubleRatchetState S) (d : SavedState S) :
    DoubleRatchetState S → Prop where
  | refused : Restored env s d s
  | unanchored (cache : SkippedKeys S) (hbytes : d.dhRemoteBytes = none) :
      Restored env s d { d.load with skippedMessageKeys := cache }
  | receiver (cache : SkippedKeys S) {r : Bytes32} (hbytes : d.dhRemoteBytes = some r.val)
      (hsending : d.sendingChain = none) :
      Restored env s d { d.load with dhRemote := some r, skippedMessageKeys := cache }
  | ratcheted (cache : SkippedKeys S) {r : Bytes32} (hbytes : d.dhRemoteBytes = some r.val) :
      Restored env s d { performDhRatchet env { d.load with dhRemote := some r } with
        skippedMessageKeys := cache }

lemma restored_deserializeState (env : Env S) (s : DoubleRatchetState S) (d : SavedState S) :
    Restored env s d (deserializeState env s d).2 := by
  obtain ⟨_, sending, _, _, bytes, _, _, _, _, _, _, _⟩ := d
  cases bytes with
  | none => exact Restored.unanchored _ rfl
  | some b =>
    by_cases hl : b.length = 32
    · simp only [deserializeState, DoubleRatchetState.restoreDhKeys, SavedState.load, hl]
      cases sending with
      | none => exact Restored.receiver _ (r := ⟨b, hl⟩) rfl rfl
      | some c => exact Restored.ratcheted _ (r := ⟨b, hl⟩) rfl
    · simp only [deserializeState, DoubleRatchetState.restoreDhKeys, SavedState.load, hl]
      exact Restored.refused

lemma Anchored.restored {d : SavedState S} (h : Anchored adopted s) (hd : Anchored adopted d.load)
    (hs' : Restored env s d s') : Anchored adopted s' := by
  cases hs' with
  | refused => exact h
  | unanchored cache hb => exact { hd with }
  | @receiver cache r hb hs =>
    refine ⟨hd.bytes, ?_, hd.sending, ?_⟩
    · rintro r' ⟨⟩
      exact hb
    · rintro ⟨⟩
  | @ratcheted cache r hb =>
    refine ⟨hd.bytes, ?_, ?_, ?_⟩
    · rintro r' ⟨⟩
      exact hb
    · intro hn
      rw [show d.dhRemoteBytes = none from hn] at hb
      cases hb
    · rintro ⟨⟩

end

end Sibna
