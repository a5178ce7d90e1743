import Sibna.Ratchet.Receive

/-!
# The room a message needs

The conditions of `Receive` are necessary.
-/

namespace Sibna

variable {S : Suite}

lemma length_insert_of_absent {ca : SkippedKeys S} {t : Bytes32 × Nat} (k : S.Key)
    (h : ca.lookup t = none) : (ca.insert t k).entries.length = ca.entries.length + 1 := by
  rw [AList.entries_insert_of_notMem (AList.lookup_eq_none.mp h), List.length_cons]

lemma length_stash_of_absent {r : Bytes32} (n : Nat) {ca : SkippedKeys S} (k : S.Key)
    {ie : Nat} (h : ∀ i, ie ≤ i → ca.lookup (r, i) = none) :
    (stash r n ca k ie).entries.length = ca.entries.length + n := by
  induction n generalizing ca k ie with
  | zero => rfl
  | succ n ih =>
    rw [stash, ih, length_insert_of_absent _ (h ie le_rfl)]
    · omega
    · intro i hi
      rw [AList.lookup_insert_ne (by simp only [ne_eq, Prod.mk.injEq]; omega)]
      exact h i (by omega)

lemma Encryptor.decryptBytes_window {e : Encryptor S} {now : Option Nat} {ci ad p : Bytes}
    (h : e.decryptBytes now ci ad = .ok p) : ∃ t, now = some t ∧
    innerTimestamp ci ≤ t + clockSkewToleranceSecs ∧ t ≤ innerTimestamp ci + maxMessageAgeSecs := by
  simp only [decryptBytes] at h
  split at h
  · cases h
  cases now with
  | none => cases h
  | some t =>
    simp only at h
    split at h
    · cases h
    rename_i ha
    split at h
    · cases h
    · rename_i hag
      exact ⟨t, rfl, Nat.le_of_not_lt ha, Nat.le_of_not_lt hag⟩

namespace DoubleRatchetSession

def Capped (s : DoubleRatchetState S) : Prop :=
  s.skippedMessageKeys.entries.length ≤ s.maxSkip

variable {s s' : DoubleRatchetState S}

lemma skipMessageKeys_room {c : ChainKey S} {r : Bytes32} {u : Nat}
    (hc : s.receivingChain = some c) (hr : s.dhRemote = some r)
    (hf : ∀ i, c.index ≤ i → s.skippedMessageKeys.lookup (r, i) = none) (hca : Capped s)
    (h : skipMessageKeys s u = (.ok (), s')) :
    s.skippedMessageKeys.entries.length + (u - c.index) ≤ s.maxSkip := by
  rcases skipMessageKeys_ok h with ⟨-, hle⟩ | ⟨c', r', hc', hr', -, -, rfl, hl⟩
  · rwa [Nat.sub_eq_zero_of_le (hle c hc)]
  cases hc.symm.trans hc'
  cases hr.symm.trans hr'
  rwa [setAside, length_stash_of_absent _ _ hf] at hl

section
variable {env : Env S} {t t' : DoubleRatchetState S} {m : RatchetMessage} {ad : Bytes}
  {d : Decrypted S} {key : S.Key}

lemma CacheBehind.fresh {c : ChainKey S} {r : Bytes32} (hb : CacheBehind t)
    (hr : t.dhRemote = some r) (hc : t.receivingChain = some c) (i : Nat) (hi : c.index ≤ i) :
    t.skippedMessageKeys.lookup (r, i) = none := by
  by_contra hso
  obtain ⟨k, hk⟩ := Option.ne_none_iff_exists'.mp hso
  have hlt := hb r c i k hr hc hk
  omega

lemma decryptTrial_align (h : decryptTrial env t m ad = (.ok d, t')) :
    ∃ t₁ c, alignReceiving env t m.header = (.ok (), t₁) ∧ t₁.receivingChain = some c := by
  unfold decryptTrial at h
  split at h
  · cases h
  split at h
  · cases h
  · rename_i ha _ c hc
    exact ⟨_, c, ha, hc⟩

lemma decryptTrial_opens (h : decryptTrial env t m ad = (.ok d, t')) :
    ∃ t₁ mk, openMessage env mk m ad t₁ = (.ok d, t') := by
  unfold decryptTrial at h
  split at h
  · cases h
  split at h
  · cases h
  split at h
  · cases h
  · split at h
    · cases h
    · exact ⟨_, _, h⟩

lemma sumFits_of_trial (h : decryptTrial env t m ad = (.ok d, t')) : SumFits t := by
  obtain ⟨t₁, c, hal, hc⟩ := decryptTrial_align h
  exact alignReceiving_sum hal hc

lemma Due.room {c : ChainKey S} (hd : Due t m.header key c) (hb : CacheBehind t)
    (hca : Capped t) (h : decryptTrial env t m ad = (.ok d, t')) :
    t.skippedMessageKeys.entries.length + (m.header.messageNumber - c.index) ≤ t.maxSkip := by
  obtain ⟨t₁, -, hal, -⟩ := decryptTrial_align h
  rw [alignReceiving, needsRatchet_self hd.remote, if_neg Bool.false_ne_true] at hal
  exact skipMessageKeys_room hd.chain hd.remote (hb.fresh hd.remote hd.chain) hca hal

lemma length_turn {r : Bytes32} (hr : t.dhRemote = some r) (hb : CacheBehind t) (env : Env S)
    (b : S.Scalar) (h : RatchetHeader) :
    (turn env t r b h).skippedMessageKeys.entries.length = t.skippedMessageKeys.entries.length +
      (t.receivingChain.map fun c => h.previousChainLength - c.index).getD 0 := by
  cases hc : t.receivingChain with
  | none => simp [turn, closeChain, hc]
  | some c =>
    simp only [turn, closeChain, hc]
    exact length_stash_of_absent _ _ (hb.fresh hr hc)

lemma Coming.room {r : Bytes32} {b : S.Scalar} (hc : Coming t m.header key r b)
    (hl : ∀ c, t.receivingChain = some c → m.header.previousChainLength ≤ c.maxMessages)
    (hb : CacheBehind t) (hcp : Capped t) (h : decryptTrial env t m ad = (.ok d, t')) :
    t.skippedMessageKeys.entries.length +
      ((t.receivingChain.map fun c => m.header.previousChainLength - c.index).getD 0 +
        m.header.messageNumber) ≤ t.maxSkip := by
  have hcl : ∀ c, t.receivingChain = some c →
      m.header.previousChainLength ≤ c.maxMessages ∧ t.skippedMessageKeys.entries.length +
        (m.header.previousChainLength - c.index) ≤ t.maxSkip := by
    intro c hre
    refine ⟨hl c hre, ?_⟩
    obtain ⟨t₁, -, hal, -⟩ := decryptTrial_align h
    rcases alignReceiving_ok hal with ⟨hn, -⟩ | ⟨-, n, t₂, t₃, hsk, -, -⟩
    · cases (needsRatchet_of_ne hc.remote hc.remote_ne).symm.trans hn
    · exact skipMessageKeys_room (s := { t with previousCounter := n }) hre hc.remote
        (hb.fresh hc.remote hre) hcp hsk
  have htu := length_turn hc.remote hb env b m.header
  rw [decryptTrial_turn hc.remote hc.remote_ne hc.dhLocal (sumFits_of_trial h) hcl] at h
  have hca : Capped (turn env t r b m.header) := by
    rw [Capped, htu, maxSkip_turn]
    cases hre : t.receivingChain with
    | none => exact hcp
    | some c => exact (hcl c hre).2
  have hro := (hc.after_turn env).room (CacheBehind.after_turn hc env) hca h
  rw [htu, maxSkip_turn, show (openedChain env t b m.header).index = 0 from rfl] at hro
  omega

lemma openMessage_window {s : DoubleRatchetState S} (h : openMessage env key m ad s = (.ok d, t')) :
    within (env.clock.read .encryptor)
    (Encryptor.innerTimestamp m.ciphertext) clockSkewToleranceSecs maxMessageAgeSecs = true := by
  obtain ⟨p, hd, -⟩ := map_ok h
  unfold decryptWithKey at hd
  split at hd
  · cases hd
  rw [Encryptor.decryptMessage_fst] at hd
  split at hd
  · cases hd
  · rename_i hb
    exact within_iff.mpr (Encryptor.decryptBytes_window hb)

lemma accepted_window_room {p : Bytes} (hg : Genuine key p ad m)
    (hpl : Held t m.header key ∨ (∃ c, Due t m.header key c) ∨
      ∃ r b, Coming t m.header key r b)
    (hl : ∀ c, t.receivingChain = some c → m.header.previousChainLength ≤ c.maxMessages)
    (hb : CacheBehind t) (hca : Capped t) (h : decryptParsed env t m ad = (.ok d, t')) :
    inWindow env m = true ∧ HasRoom t m.header := by
  unfold decryptParsed at h
  split at h
  · cases h
  rename_i hv
  have hh : within (env.clock.read .validate) m.header.timestamp 300 86400 = true := by
    obtain ⟨-, -, now, hno, ha, hag⟩ := (validate_ok_iff _ _).mp hv
    have hlt := hg.timestamp_lt
    rw [saturatingAdd_of_lt (by omega)] at hag
    exact within_iff.mpr ⟨now, hno, ha, hag⟩
  split at h
  · rename_i hmk
    refine ⟨Bool.and_eq_true_iff.mpr ⟨hh, openMessage_window h⟩, ?_⟩
    refine ⟨?_, fun hn => ?_⟩
    · rwa [keysToSkip, hmk, Option.isSome_some, if_pos rfl]
    · cases hmk.symm.trans hn
  · rename_i hn
    split at h
    · cases h
    rename_i htr
    have hw : inWindow env m = true := by
      refine Bool.and_eq_true_iff.mpr ⟨hh, ?_⟩
      obtain ⟨s₁, c, ho⟩ := decryptTrial_opens htr
      exact openMessage_window ho
    refine ⟨hw, ?_, fun _ => sumFits_of_trial htr⟩
    rcases hpl with hhe | ⟨c, hdu⟩ | ⟨r, b, hco⟩
    · cases hn.symm.trans hhe
    · simp only [keysToSkip, hn, needsRatchet_self hdu.remote, hdu.chain, Bool.false_eq_true,
        if_false, Option.map_some, Option.getD_some]
      exact hdu.room hb hca htr
    · simp only [keysToSkip, hn, needsRatchet_of_ne hco.remote hco.remote_ne, if_true]
      exact hco.room hl hb hca htr

end

lemma Capped.erase {s : DoubleRatchetState S} (h : Capped s) (tag : Bytes32 × Nat) :
    Capped { s with skippedMessageKeys := s.skippedMessageKeys.erase tag } :=
  (List.kerase_sublist _ _).length_le.trans h

lemma Capped.skipMessageKeys {u : Nat} {s s' : DoubleRatchetState S} (hs : Capped s)
    (h : DoubleRatchetSession.skipMessageKeys s u = (.ok (), s')) : Capped s' := by
  rcases skipMessageKeys_ok h with ⟨rfl, -⟩ | ⟨c, r, -, -, -, -, rfl, hl⟩
  · exact hs
  · exact hl

lemma Capped.alignReceiving {env : Env S} {he : RatchetHeader} {s s' : DoubleRatchetState S}
    (hs : Capped s) (h : DoubleRatchetSession.alignReceiving env s he = (.ok (), s')) :
    Capped s' := by
  rcases alignReceiving_ok h with ⟨-, hsk⟩ | ⟨-, n, s₁, s₂, hsk, hra, hs'⟩
  · exact hs.skipMessageKeys hsk
  have hs₁ : Capped s₁ := Capped.skipMessageKeys (s := { s with previousCounter := n }) hs hsk
  obtain ⟨a, -, rfl⟩ := dhRatchet_ok hra
  refine Capped.skipMessageKeys ?_ hs'
  exact hs₁

lemma Capped.decryptMessage {co : Config} {env : Env S} {me ad : Bytes} {d : Decrypted S}
    (hs : Capped s) (h : DoubleRatchetSession.decryptMessage co env s me ad = (.ok d, s'))
    : Capped s' := by
  obtain ⟨m, -, hpa⟩ := decryptMessage_ok h
  rcases decryptParsed_ok hpa with ⟨mk, -, ho⟩ | ⟨s₁, c, s₂, hal, -, -, -, ho, rfl⟩
  · obtain ⟨-, -, -, rfl⟩ := openMessage_ok ho
    exact hs.erase _
  · obtain ⟨-, -, -, rfl⟩ := openMessage_ok ho
    have hs₁ := hs.alignReceiving hal
    exact Capped.erase (s := { s₁ with receivingChain := some _ }) hs₁ _

lemma Capped.encryptMessage {co : Config} {env : Env S} {p ad : Bytes}
    {r : Except ProtocolError (Encrypted S)} (hs : Capped s)
    (h : DoubleRatchetSession.encryptMessage co env s p ad = (r, s')) : Capped s' := by
  rcases encryptMessage_frame h with rfl | ⟨se, a, sent, rfl, -⟩
  · exact hs
  have hro : Capped (rotateIfNeeded env s) := by
    obtain ⟨_, _, _, _, h⟩ := rotateIfNeeded_frame env s
    rw [h]
    exact hs
  exact hro

end DoubleRatchetSession

end Sibna
