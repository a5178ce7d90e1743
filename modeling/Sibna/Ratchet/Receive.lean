import Sibna.Ratchet.SessionSpec

/-!
# Receiving a genuine message

When a message is accepted, and the state that is left: with a key in the cache, on the current
chain, or on the chain its ratchet key opens.
-/

namespace Sibna

variable {S : Suite}

section
variable (r : Bytes32) (n : Nat) (ca : SkippedKeys S) (k : S.Key)

lemma messageKeyAt_chainAt (m n : Nat) : messageKeyAt (chainAt k m) n = messageKeyAt k (m + n) := by
  simp only [messageKeyAt, chainAt_add]

lemma lookup_stash (ie : Nat) (d : Bytes32) (i : Nat) : (stash r n ca k ie).lookup (d, i) =
      if d = r ∧ ie ≤ i ∧ i < ie + n then some (messageKeyAt k (i - ie))
      else ca.lookup (d, i) := by
  induction n generalizing ca k ie with
  | zero =>
    rw [stash, if_neg (by omega)]
  | succ n ih =>
    rw [stash, ih]
    by_cases hl : d = r ∧ ie + 1 ≤ i ∧ i < ie + 1 + n
    · obtain ⟨rfl, hle, hlt⟩ := hl
      rw [if_pos ⟨rfl, hle, hlt⟩, if_pos ⟨rfl, by omega, by omega⟩, messageKeyAt_chainAt,
        show 1 + (i - (ie + 1)) = i - ie by omega]
    rw [if_neg hl]
    by_cases hf : (d, i) = (r, ie)
    · cases hf
      rw [AList.lookup_insert, if_pos ⟨rfl, le_rfl, by omega⟩, Nat.sub_self]
    rw [AList.lookup_insert_ne hf, if_neg]
    rintro ⟨rfl, hle, hlt⟩
    have hne : i ≠ ie := fun h => hf (by rw [h])
    exact hl ⟨rfl, by omega, by omega⟩

lemma length_stash_le (i : Nat) : (stash r n ca k i).entries.length ≤ ca.entries.length + n := by
  induction n generalizing ca k i with
  | zero => exact le_rfl
  | succ n ih =>
    have hin := length_insert_le ca (r, i) (messageKeyAt k 0)
    have hr := ih (ca.insert (r, i) (messageKeyAt k 0)) (chainAt k 1) (i + 1)
    rw [stash]
    omega

end

namespace DoubleRatchetSession

variable {r : Bytes32}

section
variable {s : DoubleRatchetState S} {c : ChainKey S} (hc : s.receivingChain = some c)
  (hr : s.dhRemote = some r)
include hc hr

lemma skipLoop_of_room {n : Nat} (hm : c.index + n ≤ c.maxMessages)
    (hro : s.skippedMessageKeys.entries.length + n ≤ s.maxSkip) :
    skipLoop (c.index + n) n s = (.ok (), setAside s c r n) := by
  induction n generalizing s c with
  | zero => rw [setAside_zero hc, skipLoop]
  | succ n ih =>
    obtain ⟨root, sending, recv, dhLocal, localBytes, remote, remoteBytes, cache,
      maxSkip, pc, created,
      activity, nsent, nreceived, version⟩ := s
    cases hc
    cases hr
    change cache.entries.length + (n + 1) ≤ maxSkip at hro
    have hlt : c.index < c.index + (n + 1) := by omega
    have hf : ¬ cache.entries.length ≥ maxSkip := by omega
    have hin := length_insert_le cache (r, c.index) (messageKeyAt c.key 0)
    simp only [skipLoop, hlt, DoubleRatchetState.addSkippedKey, DoubleRatchetState.skippedKeysFull,
      hf, decide_false, Bool.false_eq_true, if_false,
      ChainKey.nextMessageKey_of_lt (show c.index < c.maxMessages by omega)]
    rw [show c.index + (n + 1) = (c.advance 1).index + n by simp only [ChainKey.advance]; omega]
    rw [ih rfl rfl]
    · simp only [setAside, ChainKey.advance_advance, Nat.add_comm 1 n]
      rfl
    · simp only [ChainKey.advance]
      omega
    · simp only [ChainKey.advance, Nat.add_sub_cancel]
      omega

lemma skipMessageKeys_of_room {u : Nat} (hm : u ≤ c.maxMessages)
    (hov : c.index + s.maxSkip < 2 ^ 64)
    (hro : s.skippedMessageKeys.entries.length + (u - c.index) ≤ s.maxSkip) :
    skipMessageKeys s u = (.ok (), setAside s c r (u - c.index)) := by
  simp only [skipMessageKeys, hc]
  rw [if_neg (by omega), if_neg (by omega)]
  by_cases hle : u ≤ c.index
  · have hz : u - c.index = 0 := by omega
    rw [hz, setAside_zero hc, skipLoop]
  · have hl := skipLoop_of_room (n := u - c.index) hc hr (by omega) hro
    rwa [show c.index + (u - c.index) = u by omega] at hl

end

/-- What a session sealed under the key: a header that passes its checks but for the time,
and a body made by a new encryptor. -/
structure Genuine (key : S.Key) (plaintext ad : Bytes) (m : RatchetMessage) : Prop where
  key_ok : S.weakKey key = false
  dhPublic_ne : isZero m.header.dhPublic.val = false
  number_le : m.header.messageNumber ≤ 1000000000000
  timestamp_lt : m.header.timestamp < 2 ^ 63
  body : ∃ (clock : Clock) (nonce : Option (FixedBytes 12)),
    (⟨key, 0, 0, ∅, 100000⟩ : Encryptor S).encryptBytes (clock.read .encryptor) nonce plaintext
      (ad ++ m.header.toBytes) = .ok m.ciphertext

lemma Genuine.of_buildMessage {env : Env S} {slot : SendKey S} {pc : Nat} {plaintext ad : Bytes}
    {m : RatchetMessage} (h : buildMessage env slot pc plaintext ad = .ok m) :
    Genuine slot.messageKey plaintext ad m := by
  obtain ⟨ts, hts, hh, hv, hw, hb⟩ := buildMessage_ok h
  obtain ⟨hz, hn, -⟩ := (validate_ok_iff _ _).mp hv
  refine ⟨hw, hz, hn, ?_, env.clock, env.nonce, hb⟩
  rw [hh]
  exact env.clock.read_lt _ _ hts

def within (now : Option Nat) (timestamp ahead age : Nat) : Bool :=
  now.any fun t => timestamp ≤ t + ahead && t ≤ timestamp + age

def inWindow (env : Env S) (m : RatchetMessage) : Bool :=
  within (env.clock.read .validate) m.header.timestamp 300 86400 &&
    within (env.clock.read .encryptor) (Encryptor.innerTimestamp m.ciphertext)
      clockSkewToleranceSecs maxMessageAgeSecs

lemma within_iff {now : Option Nat} {ti a age : Nat} : within now ti a age = true ↔ ∃ t,
    now = some t ∧ ti ≤ t + a ∧ t ≤ ti + age := by
  cases now <;> simp [within]

def forget (s : DoubleRatchetState S) (tag : Bytes32 × Nat) : DoubleRatchetState S :=
  { s with skippedMessageKeys := s.skippedMessageKeys.erase tag }

section
variable {env : Env S} {key : S.Key} {plaintext ad : Bytes} {m : RatchetMessage}

lemma Genuine.validate (hg : Genuine key plaintext ad m) (hw : inWindow env m = true) :
    m.header.validate (env.clock.read .validate) = .ok () := by
  obtain ⟨hh, -⟩ := Bool.and_eq_true_iff.mp hw
  obtain ⟨t, ht, ha, hag⟩ := within_iff.mp hh
  have hlt := hg.timestamp_lt
  refine (validate_ok_iff _ _).mpr ⟨hg.dhPublic_ne, hg.number_le, t, ht, ha, ?_⟩
  rwa [saturatingAdd_of_lt (by omega)]

section
variable (hA : S.CorrectAead) (hg : Genuine key plaintext ad m)
include hA hg

lemma Genuine.length_le : 36 + 16 ≤ m.ciphertext.length := by
  obtain ⟨cl, n, hb⟩ := hg.body
  exact (Encryptor.decryptBytes_encryptBytes hA hb (Nat.le_add_right _ _) (Nat.le_add_right _ _)).1

lemma Genuine.toBytes_length_le : 48 + 29 ≤ m.toBytes.length := by
  have hl := hg.length_le hA
  simp only [RatchetMessage.toBytes, List.length_append, RatchetHeader.toBytes_length]
  omega

lemma Genuine.openMessage (hw : inWindow env m = true) (s : DoubleRatchetState S) :
    openMessage env key m ad s = (.ok ⟨m, key, plaintext⟩, forget s m.header.tag) := by
  obtain ⟨-, hin⟩ := Bool.and_eq_true_iff.mp hw
  obtain ⟨t, ht, ha, hag⟩ := within_iff.mp hin
  obtain ⟨cl, n, hb⟩ := hg.body
  have ho := (Encryptor.decryptBytes_encryptBytes hA hb ha hag).2
  simp only [DoubleRatchetSession.openMessage, decryptWithKey,
    Encryptor.new_of_not_weak hg.key_ok, Encryptor.decryptMessage_fst, ht, ho]
  rfl

lemma Genuine.authentic : Authentic key m.ciphertext plaintext := by
  obtain ⟨cl, no, hb⟩ := hg.body
  obtain ⟨-, -, -, n, t, -, -, hct⟩ := Encryptor.encryptBytes_ok hb
  refine ⟨n.val, ad ++ m.header.toBytes ++ buildHeader 0 t, ?_, ?_⟩
  · intro hn
    have hl := congrArg List.length hn
    simp at hl
  have hdr : m.ciphertext.drop 36 = S.aeadEncrypt key n.val
      (ad ++ m.header.toBytes ++ buildHeader 0 t) plaintext := by
    rw [hct]
    apply List.drop_left'
    simp
  rw [hdr]
  exact hA.decrypt_encrypt _ _ _ _

end

end

section
variable (t : DoubleRatchetState S)

def Held (h : RatchetHeader) (key : S.Key) : Prop :=
  t.skippedMessageKeys.lookup h.tag = some key

structure Due (t : DoubleRatchetState S) (h : RatchetHeader) (key : S.Key) (c : ChainKey S) :
    Prop where
  remote : t.dhRemote = some h.dhPublic
  chain : t.receivingChain = some c
  index_le : c.index ≤ h.messageNumber
  number_lt : h.messageNumber < c.maxMessages
  key_eq : key = messageKeyAt c.key (h.messageNumber - c.index)

structure Coming (t : DoubleRatchetState S) (h : RatchetHeader) (key : S.Key) (r : Bytes32)
    (b : S.Scalar) : Prop where
  remote : t.dhRemote = some r
  remote_ne : r ≠ h.dhPublic
  dhLocal : t.dhLocal = some b
  absent : ∀ i, t.skippedMessageKeys.lookup (h.dhPublic, i) = none
  number_lt : h.messageNumber < ChainKey.defaultMaxMessages
  key_eq : key = messageKeyAt (kdfRk S t.rootKey (S.diffieHellman b h.dhPublic)).2
    h.messageNumber

def CacheBehind : Prop :=
  ∀ r c i k, t.dhRemote = some r → t.receivingChain = some c →
    t.skippedMessageKeys.lookup (r, i) = some k → i < c.index

lemma needsRatchet_self {t : DoubleRatchetState S} (h : t.dhRemote = some r) :
    needsRatchet t r = false := by
  simp [needsRatchet, h]

lemma needsRatchet_of_ne {t : DoubleRatchetState S} {r' : Bytes32} (h : t.dhRemote = some r)
    (hne : r ≠ r') : needsRatchet t r' = true := by
  simp [needsRatchet, h, hne]

def takeDue (c : ChainKey S) (h : RatchetHeader) : DoubleRatchetState S :=
  forget
    { setAside t c h.dhPublic (h.messageNumber - c.index) with
      receivingChain := some (c.advance (h.messageNumber - c.index + 1)) }
    h.tag

end

section
variable {env : Env S} {t : DoubleRatchetState S} {key : S.Key} {c : ChainKey S}
  {plaintext ad : Bytes} {m : RatchetMessage}

lemma Due.trial (hA : S.CorrectAead) (hd : Due t m.header key c) (hg : Genuine key plaintext ad m)
    (hw : inWindow env m = true) (hov : c.index + t.maxSkip < 2 ^ 64)
    (hro : t.skippedMessageKeys.entries.length + (m.header.messageNumber - c.index) ≤ t.maxSkip) :
    decryptTrial env t m ad = (.ok ⟨m, key, plaintext⟩, takeDue t c m.header) := by
  have hsk := skipMessageKeys_of_room hd.chain hd.remote (Nat.le_of_lt hd.number_lt) hov hro
  have hin : (c.advance (m.header.messageNumber - c.index)).index = m.header.messageNumber := by
    have hle := hd.index_le
    simp only [ChainKey.advance]
    omega
  have hk : messageKeyAt (c.advance (m.header.messageNumber - c.index)).key 0 = key := by
    rw [hd.key_eq]
    exact messageKeyAt_chainAt _ _ _
  have hn := ChainKey.nextMessageKey_of_lt (c := c.advance _) (hin.symm ▸ hd.number_lt)
  rw [hk, ChainKey.advance_advance] at hn
  simp only [decryptTrial, alignReceiving, needsRatchet_self hd.remote, Bool.false_eq_true, hsk]
  simp only [setAside, hin, Nat.lt_irrefl, if_false, hn, hg.openMessage hA hw]
  rfl

lemma lookup_takeDue (t : DoubleRatchetState S) (c : ChainKey S) (h : RatchetHeader)
    {d : Bytes32} {i : Nat} (hne : (d, i) ≠ h.tag) :
    (takeDue t c h).skippedMessageKeys.lookup (d, i) =
      if d = h.dhPublic ∧ c.index ≤ i ∧ i < c.index + (h.messageNumber - c.index) then
        some (messageKeyAt c.key (i - c.index))
      else t.skippedMessageKeys.lookup (d, i) := by
  simp only [takeDue, forget, setAside]
  rw [AList.lookup_erase_ne hne, lookup_stash]

variable {h : RatchetHeader}

lemma Held.after_takeDue {h' : RatchetHeader} {key' : S.Key} (hh : Held t h' key')
    (hb : CacheBehind t) (hd : Due t h key c) (hne : h'.tag ≠ h.tag) :
    Held (takeDue t c h) h' key' := by
  rw [Held, lookup_takeDue t c h hne, if_neg]
  · exact hh
  · rintro ⟨hdh, hle, -⟩
    have hlt := hb _ c _ _ (hdh ▸ hd.remote) hd.chain hh
    omega

lemma Due.after_takeDue {h' : RatchetHeader} {key' : S.Key} (hd' : Due t h' key' c)
    (hd : Due t h key c) (hne : h'.tag ≠ h.tag) : Held (takeDue t c h) h' key' ∨
    Due (takeDue t c h) h' key' (c.advance (h.messageNumber - c.index + 1)) := by
  have hdh : h'.dhPublic = h.dhPublic := by
    have hr := hd'.remote
    rw [hd.remote, Option.some.injEq] at hr
    exact hr.symm
  have hnu : h'.messageNumber ≠ h.messageNumber := fun hn =>
    hne (by rw [RatchetHeader.tag, hdh, hn])
  have hle := hd.index_le
  have hl' := hd'.index_le
  rcases Nat.lt_or_gt_of_ne hnu with hlt | hgt
  · left
    rw [Held, lookup_takeDue t c h hne, if_pos ⟨hdh, hl', by omega⟩, ← hd'.key_eq]
  right
  refine ⟨hd'.remote, rfl, ?_, hd'.number_lt, ?_⟩
  · simp only [ChainKey.advance]
    omega
  simp only [ChainKey.advance, messageKeyAt_chainAt]
  rw [hd'.key_eq]
  congr 1
  omega

lemma CacheBehind.after_takeDue (hb : CacheBehind t) (hd : Due t h key c) :
    CacheBehind (takeDue t c h) := by
  intro r c' i k hr hc' hk
  cases hc'
  have hrr := Option.some.inj (hr.symm.trans hd.remote)
  subst hrr
  simp only [ChainKey.advance]
  by_cases hi : i = h.messageNumber
  · omega
  rw [lookup_takeDue t c h (by simpa using hi)] at hk
  split at hk
  · omega
  · have hlt := hb _ c i k hd.remote hd.chain hk
    omega

end

section
variable (env : Env S) (t : DoubleRatchetState S) (r : Bytes32) (b : S.Scalar)

def closeChain (previousChainLength : Nat) : DoubleRatchetState S :=
  match t.receivingChain with
  | none => t
  | some c => setAside t c r (previousChainLength - c.index)

def openedChain (h : RatchetHeader) : ChainKey S :=
  ChainKey.new (env.clock.read .newReceivingChain)
    (kdfRk S t.rootKey (S.diffieHellman b h.dhPublic)).2

def turn (h : RatchetHeader) : DoubleRatchetState S :=
  let receiving := kdfRk S t.rootKey (S.diffieHellman b h.dhPublic)
  let sending := kdfRk S receiving.1 (S.diffieHellman env.newLocal h.dhPublic)
  { closeChain t r h.previousChainLength with
    rootKey := sending.1
    sendingChain := some (ChainKey.new (env.clock.read .newSendingChain) sending.2)
    receivingChain := some (openedChain env t b h)
    dhLocal := some env.newLocal
    dhLocalBytes := (S.publicKey env.newLocal).val
    dhRemote := some h.dhPublic
    dhRemoteBytes := some h.dhPublic.val
    previousCounter := (t.sendingChain.map ChainKey.index).getD 0 }

end

section
variable {env : Env S} {t : DoubleRatchetState S} {r : Bytes32} {b : S.Scalar}
  {h : RatchetHeader}

lemma skipMessageKeys_closeChain {p : Nat} (hr : t.dhRemote = some r) (hsu : SumFits t)
    (hcl : ∀ c, t.receivingChain = some c → p ≤ c.maxMessages ∧
      t.skippedMessageKeys.entries.length + (p - c.index) ≤ t.maxSkip) :
    skipMessageKeys (notePreviousCounter t) p =
      (.ok (), closeChain (notePreviousCounter t) r p) := by
  have hrm : (notePreviousCounter t).dhRemote = some r := by
    unfold notePreviousCounter
    split <;> exact hr
  have hre : (notePreviousCounter t).receivingChain = t.receivingChain := by
    unfold notePreviousCounter
    split <;> rfl
  have hca : (notePreviousCounter t).skippedMessageKeys = t.skippedMessageKeys := by
    unfold notePreviousCounter
    split <;> rfl
  have hm : (notePreviousCounter t).maxSkip = t.maxSkip := by
    unfold notePreviousCounter
    split <;> rfl
  cases hc : t.receivingChain with
  | none => simp only [skipMessageKeys, closeChain, hre, hc]
  | some c =>
    obtain ⟨hle, hro⟩ := hcl c hc
    rw [skipMessageKeys_of_room (hre.trans hc) hrm hle (by rw [hm]; exact hsu.of_chain hc)
      (by rw [hca, hm]; exact hro)]
    simp only [closeChain, hre, hc]

lemma dhRatchet_turn (hb : t.dhLocal = some b) :
    dhRatchet env (closeChain (notePreviousCounter t) r h.previousChainLength) h.dhPublic =
      (.ok (), turn env t r b h) := by
  obtain ⟨root, se, recv, dl, l, re, rb, ca, ms, pc, cr, a, ns, n, v⟩ := t
  cases hb
  cases se <;> cases recv <;> rfl

lemma decryptTrial_turn {m : RatchetMessage} {ad : Bytes} (hr : t.dhRemote = some r)
    (hne : r ≠ m.header.dhPublic) (hb : t.dhLocal = some b) (hsu : SumFits t)
    (hcl : ∀ c, t.receivingChain = some c →
      m.header.previousChainLength ≤ c.maxMessages ∧ t.skippedMessageKeys.entries.length +
        (m.header.previousChainLength - c.index) ≤ t.maxSkip) :
    decryptTrial env t m ad = decryptTrial env (turn env t r b m.header) m ad := by
  have hre : (turn env t r b m.header).dhRemote = some m.header.dhPublic := rfl
  have hal : alignReceiving env t m.header =
      alignReceiving env (turn env t r b m.header) m.header := by
    simp only [alignReceiving, needsRatchet_of_ne hr hne, needsRatchet_self hre, if_true,
      Bool.false_eq_true, if_false, skipMessageKeys_closeChain hr hsu hcl, dhRatchet_turn hb]
  simp only [decryptTrial, hal]

section
variable (env : Env S) (t : DoubleRatchetState S) (r : Bytes32) (b : S.Scalar)

lemma lookup_turn (h : RatchetHeader) (d : Bytes32) (i : Nat) :
    (turn env t r b h).skippedMessageKeys.lookup (d, i) =
      match t.receivingChain with
      | none => t.skippedMessageKeys.lookup (d, i)
      | some c =>
        if d = r ∧ c.index ≤ i ∧ i < c.index + (h.previousChainLength - c.index) then
          some (messageKeyAt c.key (i - c.index))
        else t.skippedMessageKeys.lookup (d, i) := by
  cases hc : t.receivingChain with
  | none => simp only [turn, closeChain, hc]
  | some c =>
    simp only [turn, closeChain, hc]
    exact lookup_stash ..

lemma length_turn_le (h : RatchetHeader) :
    (turn env t r b h).skippedMessageKeys.entries.length ≤ t.skippedMessageKeys.entries.length +
      (t.receivingChain.map fun c => h.previousChainLength - c.index).getD 0 := by
  cases hc : t.receivingChain with
  | none => simp [turn, closeChain, hc]
  | some c =>
    simp only [turn, closeChain, hc]
    exact length_stash_le ..

lemma maxSkip_turn (h : RatchetHeader) : (turn env t r b h).maxSkip = t.maxSkip := by
  cases hc : t.receivingChain <;> simp [turn, closeChain, hc, setAside]

end

lemma Coming.after_turn {key : S.Key} (hc : Coming t h key r b) (env : Env S) :
    Due (turn env t r b h) h key (openedChain env t b h) where
  __ := hc
  remote := rfl
  chain := rfl
  index_le := Nat.zero_le _

lemma Held.after_turn {h' : RatchetHeader} {key' : S.Key} (hh : Held t h' key')
    (hr : t.dhRemote = some r) (hb : CacheBehind t) (env : Env S) (b : S.Scalar) :
    Held (turn env t r b h) h' key' := by
  rw [Held, lookup_turn]
  cases hc : t.receivingChain with
  | none => exact hh
  | some c =>
    simp only
    rw [if_neg]
    · exact hh
    · rintro ⟨rfl, hle, -⟩
      have hlt := hb _ c _ _ hr hc hh
      omega

lemma Due.after_turn {h' : RatchetHeader} {key' : S.Key} {c : ChainKey S} (hd : Due t h' key' c)
    (hlt : h'.messageNumber < h.previousChainLength) (env : Env S) (b : S.Scalar) :
    Held (turn env t h'.dhPublic b h) h' key' := by
  have hle := hd.index_le
  rw [Held, lookup_turn, hd.chain]
  simp only
  rw [if_pos ⟨trivial, hle, by omega⟩, ← hd.key_eq]

lemma CacheBehind.after_turn {key : S.Key} (hc : Coming t h key r b) (env : Env S) :
    CacheBehind (turn env t r b h) := by
  intro d c' i k hd hc' hk
  cases hd
  rw [lookup_turn] at hk
  have hab := hc.absent i
  cases hre : t.receivingChain with
  | none => simp_all
  | some c =>
    simp only [hre] at hk
    rw [if_neg (fun h => hc.remote_ne h.1.symm), hab] at hk
    cases hk

end

section
variable (t : DoubleRatchetState S)

def keysToSkip (h : RatchetHeader) : Nat :=
  if (t.skippedMessageKeys.lookup h.tag).isSome then 0
  else if needsRatchet t h.dhPublic then
    (t.receivingChain.map fun c => h.previousChainLength - c.index).getD 0 + h.messageNumber
  else (t.receivingChain.map fun c => h.messageNumber - c.index).getD 0

/-- Unless its key was set aside before, the message does not overflow the sum of
`skip_message_keys`. -/
def Addable (h : RatchetHeader) : Prop :=
  t.skippedMessageKeys.lookup h.tag = none → SumFits t
  deriving Decidable

def HasRoom (h : RatchetHeader) : Prop :=
  t.skippedMessageKeys.entries.length + keysToSkip t h ≤ t.maxSkip ∧ Addable t h
  deriving Decidable

end

section
variable {env : Env S} {t : DoubleRatchetState S} {key : S.Key} {plaintext ad : Bytes}
  {m : RatchetMessage}

lemma Held.accepted (hA : S.CorrectAead) (hh : Held t m.header key)
    (hg : Genuine key plaintext ad m) (hw : inWindow env m = true) :
    decryptParsed env t m ad = (.ok ⟨m, key, plaintext⟩, forget t m.header.tag) := by
  rw [Held] at hh
  simp only [decryptParsed, hg.validate hw, hh, hg.openMessage hA hw]

lemma Due.accepted (hA : S.CorrectAead) {c : ChainKey S} (hd : Due t m.header key c)
    (hb : CacheBehind t) (hg : Genuine key plaintext ad m) (hw : inWindow env m = true)
    (hro : HasRoom t m.header) :
    decryptParsed env t m ad =
      (.ok ⟨m, key, plaintext⟩, recordReceived env (takeDue t c m.header)) := by
  have hn : t.skippedMessageKeys.lookup m.header.tag = none := by
    by_contra hso
    obtain ⟨k, hk⟩ := Option.ne_none_iff_exists'.mp hso
    have hlt := hb _ c _ _ hd.remote hd.chain hk
    have hle := hd.index_le
    omega
  have hke : keysToSkip t m.header = m.header.messageNumber - c.index := by
    simp [keysToSkip, hn, needsRatchet_self hd.remote, hd.chain]
  rw [HasRoom, hke] at hro
  simp only [decryptParsed, hg.validate hw, hn, DoubleRatchetState.clone_eq, hd.trial hA hg hw
    ((hro.2 hn).of_chain hd.chain) hro.1]

lemma Coming.accepted (hA : S.CorrectAead) {r : Bytes32} {b : S.Scalar}
    (hc : Coming t m.header key r b)
    (hl : ∀ c, t.receivingChain = some c → m.header.previousChainLength ≤ c.maxMessages)
    (hg : Genuine key plaintext ad m) (hw : inWindow env m = true) (hro : HasRoom t m.header) :
    decryptParsed env t m ad = (.ok ⟨m, key, plaintext⟩, recordReceived env
      (takeDue (turn env t r b m.header) (openedChain env t b m.header) m.header)) := by
  have hn := hc.absent m.header.messageNumber
  have hke : keysToSkip t m.header =
      (t.receivingChain.map fun c => m.header.previousChainLength - c.index).getD 0 +
        m.header.messageNumber := by
    simp [keysToSkip, hn, needsRatchet_of_ne hc.remote hc.remote_ne]
  obtain ⟨hro, hsu⟩ := hro
  replace hsu := hsu hn
  rw [hke] at hro
  have hcl : ∀ c, t.receivingChain = some c →
      m.header.previousChainLength ≤ c.maxMessages ∧ t.skippedMessageKeys.entries.length +
        (m.header.previousChainLength - c.index) ≤ t.maxSkip := by
    intro c hre
    rw [hre] at hro
    simp only [Option.map_some, Option.getD_some] at hro
    exact ⟨hl c hre, by omega⟩
  have htu := length_turn_le env t r b m.header
  have htr : decryptTrial env t m ad = decryptTrial env (turn env t r b m.header) m ad :=
    decryptTrial_turn hc.remote hc.remote_ne hc.dhLocal hsu hcl
  have hin : (openedChain env t b m.header).index = 0 := rfl
  rw [(hc.after_turn env).trial hA hg hw (by
    rw [maxSkip_turn, hin, Nat.zero_add]
    exact hsu.maxSkip_lt) (by
    rw [maxSkip_turn, hin]
    omega)] at htr
  simp only [decryptParsed, hg.validate hw, hn, DoubleRatchetState.clone_eq, htr]

lemma Genuine.decryptMessage (hA : S.CorrectAead) {co : Config}
    (ho : co.enableHeaderEncryption = false) (hg : Genuine key plaintext ad m)
    (hpn : m.header.previousChainLength < 2 ^ 64) :
    decryptMessage co env t m.toBytes ad = decryptParsed env t m ad := by
  have hl := hg.length_le hA
  have hn := hg.number_le
  have hts := hg.timestamp_lt
  apply decryptMessage_of_parse (hg.toBytes_length_le hA)
  rw [parseMessage_plain ho]
  exact RatchetMessage.fromBytes_toBytes ⟨by omega, hpn, by omega⟩ (by omega)

end

end DoubleRatchetSession

end Sibna
