import Sibna.Ratchet.KeySchedule
import Sibna.Ratchet.Receive

/-!
# The ledger of message keys

All keys issued so far lie below the current chain keys in the order of levels and positions, so no
message key is used twice.
-/

namespace Sibna

open KeyAlgebra KeySchedule

variable {S : Suite}

namespace Suite.SymbolicKdf
variable (K : S.SymbolicKdf)

section
variable (k : S.Key) (n : Nat) (s : S.Shared)

def level : Nat := (K.term k).level

def pos : Nat := (K.term k).pos chainKeySeed

@[simp] lemma level_chainAt : K.level (chainAt k n) = K.level k := by
  induction n with
  | zero => rfl
  | succ n ih =>
    rwa [chainAt, level, K.term_hmac]

@[simp] lemma pos_chainAt : K.pos (chainAt k n) = K.pos k + n := by
  induction n with
  | zero => rfl
  | succ n ih =>
    rw [chainAt, pos, K.term_hmac, KeyTerm.pos, if_pos rfl]
    exact congrArg (· + 1) ih

@[simp] lemma level_kdfRk_root : K.level (kdfRk S k s).1 = K.level k + 1 := by
  rw [level, kdfRk, K.term_ratchet_root]
  rfl

@[simp] lemma level_kdfRk_chain : K.level (kdfRk S k s).2 = K.level k + 1 := by
  rw [level, kdfRk, K.term_ratchet_chain]
  rfl

end

include K in
lemma messageKeyAt_injective {c c' : S.Key} (h : messageKeyAt c 0 = messageKeyAt c' 0) :
    c = c' := by
  have ht := congrArg K.term h
  simp only [messageKeyAt, chainAt, K.term_hmac, KeyTerm.mac.injEq, and_true] at ht
  exact K.term_injective ht

end Suite.SymbolicKdf

variable {K : S.SymbolicKdf}

def Issued (K : S.SymbolicKdf) (v : KeySchedule S) (k : S.Key) : Prop :=
  ∃ c, k = messageKeyAt c 0 ∧ K.level c ≤ K.level v.rootKey ∧
    (∀ c', v.sending = some c' → K.level c = K.level c' → K.pos c < K.pos c') ∧
    (∀ c', v.receiving = some c' → K.level c = K.level c' → K.pos c < K.pos c')

structure Ledger (K : S.SymbolicKdf) (v : KeySchedule S) : Prop where
  sending_le : ∀ c, v.sending = some c → K.level c ≤ K.level v.rootKey
  receiving_le : ∀ c, v.receiving = some c → K.level c ≤ K.level v.rootKey
  apart : ∀ c c', v.sending = some c → v.receiving = some c' → K.level c ≠ K.level c'
  skipped_issued : ∀ t k, v.skipped.lookup t = some k → Issued K v k
  used_issued : ∀ k ∈ v.used, Issued K v k
  skipped_injective : ∀ t t' k, v.skipped.lookup t = some k → v.skipped.lookup t' = some k → t = t'
  skipped_unused : ∀ t k, v.skipped.lookup t = some k → k ∉ v.used

variable {v : KeySchedule S} {k : S.Key}

lemma Issued.ne_sending {c : S.Key} (h : Issued K v k) (hc : v.sending = some c) :
    k ≠ messageKeyAt c 0 := by
  obtain ⟨c', rfl, -, hpo, -⟩ := h
  intro heq
  obtain rfl := K.messageKeyAt_injective heq
  exact Nat.lt_irrefl _ (hpo _ hc rfl)

lemma Issued.ne_receiving {c : S.Key} (h : Issued K v k) (hc : v.receiving = some c) :
    k ≠ messageKeyAt c 0 := by
  obtain ⟨c', rfl, -, -, hpo⟩ := h
  intro heq
  obtain rfl := K.messageKeyAt_injective heq
  exact Nat.lt_irrefl _ (hpo _ hc rfl)

def Moved (K : S.SymbolicKdf) (v v' : KeySchedule S) (old new : Option S.Key) : Prop :=
  ∀ c', new = some c' →
    (K.level v.rootKey < K.level c' ∧ K.level c' ≤ K.level v'.rootKey) ∨
      ∃ c, old = some c ∧ K.level c = K.level c' ∧ K.pos c ≤ K.pos c'

lemma moved_refl (v v' : KeySchedule S) (old : Option S.Key) : Moved K v v' old old :=
  fun c hc => Or.inr ⟨c, hc, rfl, le_rfl⟩

lemma moved_next {c : S.Key} {old : Option S.Key} (v v' : KeySchedule S) (hc : old = some c) :
    Moved K v v' old (some (chainAt c 1)) := by
  rintro c' ⟨⟩
  exact .inr ⟨c, hc, by simp, by simp⟩

lemma Issued.mono {v' : KeySchedule S} (h : Issued K v k)
    (hro : K.level v.rootKey ≤ K.level v'.rootKey) (hs : Moved K v v' v.sending v'.sending)
    (hr : Moved K v v' v.receiving v'.receiving) : Issued K v' k := by
  obtain ⟨d, rfl, hd, hds, hdr⟩ := h
  refine ⟨d, rfl, hd.trans hro, ?_, ?_⟩
  · intro c' hc' hl
    rcases hs c' hc' with ⟨hn, -⟩ | ⟨c, hc, hcl, hcp⟩
    · omega
    · exact (hds c hc (hl.trans hcl.symm)).trans_le hcp
  · intro c' hc' hl
    rcases hr c' hc' with ⟨hn, -⟩ | ⟨c, hc, hcl, hcp⟩
    · omega
    · exact (hdr c hc (hl.trans hcl.symm)).trans_le hcp

namespace Ledger
variable {v v' : KeySchedule S}

lemma subset (h : Ledger K v) {used : List S.Key} (hsu : ∀ k ∈ used, k ∈ v.used) :
    Ledger K { v with used } :=
  { h with
    used_issued := fun k hk => h.used_issued k (hsu k hk)
    skipped_unused := fun t k ht hk => h.skipped_unused t k ht (hsu k hk) }

lemma level_le (hr : K.level v.rootKey ≤ K.level v'.rootKey) {old new : Option S.Key}
    (ho : ∀ c, old = some c → K.level c ≤ K.level v.rootKey) (h : Moved K v v' old new)
    (c' : S.Key) (hc' : new = some c') : K.level c' ≤ K.level v'.rootKey := by
  rcases h c' hc' with ⟨-, hn⟩ | ⟨c, hc, hl, -⟩
  · exact hn
  · rw [← hl]
    exact (ho c hc).trans hr

section
variable (h : Ledger K v)
include h

lemma move (hsk : v'.skipped = v.skipped) (hu : v'.used = v.used)
    (hro : K.level v.rootKey ≤ K.level v'.rootKey) (hs : Moved K v v' v.sending v'.sending)
    (hr : Moved K v v' v.receiving v'.receiving)
    (hap : ∀ c c', v'.sending = some c → v'.receiving = some c' → K.level c ≠ K.level c') :
    Ledger K v' where
  sending_le := level_le hro h.sending_le hs
  receiving_le := level_le hro h.receiving_le hr
  apart := hap
  skipped_issued := fun t k hk => (h.skipped_issued t k (hsk ▸ hk)).mono hro hs hr
  used_issued := fun k hk => (h.used_issued k (hu ▸ hk)).mono hro hs hr
  skipped_injective := by
    rw [hsk]
    exact h.skipped_injective
  skipped_unused := by
    rw [hsk, hu]
    exact h.skipped_unused

lemma ratchet (a x : S.Scalar) (r : Bytes32) : Ledger K (v.ratchet a x r) := by
  refine h.move rfl rfl (by simp [KeySchedule.ratchet]; omega) ?_ ?_ ?_
  · rintro c' ⟨⟩
    refine .inl ?_
    simp only [KeySchedule.ratchet, Suite.SymbolicKdf.level_kdfRk_root,
      Suite.SymbolicKdf.level_kdfRk_chain]
    omega
  · rintro c' ⟨⟩
    exact .inl (by simp [KeySchedule.ratchet])
  · intro c c' hc hc'
    cases hc
    cases hc'
    simp

lemma rotate (x : S.Scalar) (r : Bytes32) : Ledger K (v.rotate x r) := by
  refine h.move rfl rfl (by simp [KeySchedule.rotate]) ?_ (moved_refl _ _ _) ?_
  · rintro c' ⟨⟩
    exact .inl (by simp [KeySchedule.rotate])
  intro c c' hc hc'
  cases hc
  have hle := h.receiving_le c' hc'
  simp only [Suite.SymbolicKdf.level_kdfRk_chain]
  omega

section
variable {c : S.Key} (t : Bytes32 × Nat)

lemma advance_sending (hc : v.sending = some c) :
    Ledger K { v with sending := some (chainAt c 1) } ∧
    Issued K { v with sending := some (chainAt c 1) } (messageKeyAt c 0) := by
  refine ⟨h.move rfl rfl le_rfl (moved_next _ _ hc) (moved_refl _ _ _) ?_,
    c, rfl, h.sending_le c hc, ?_, fun d hd hl => absurd hl (h.apart c d hc hd)⟩
  · intro c' d hc' hd
    cases hc'
    simpa using h.apart c d hc hd
  · intro c' hc' _
    cases hc'
    simp

lemma advance_receiving (hc : v.receiving = some c) :
    Ledger K { v with receiving := some (chainAt c 1) } ∧
    Issued K { v with receiving := some (chainAt c 1) } (messageKeyAt c 0) := by
  refine ⟨h.move rfl rfl le_rfl (moved_refl _ _ _) (moved_next _ _ hc) ?_,
    c, rfl, h.receiving_le c hc, fun d hd hl => absurd hl.symm (h.apart d c hd hc), ?_⟩
  · rintro d c' hd ⟨⟩
    simpa using h.apart d c hd hc
  · intro c' hc' _
    cases hc'
    simp

lemma insert (hk : Issued K v k) (hca : ∀ t, v.skipped.lookup t ≠ some k) (hu : k ∉ v.used) :
    Ledger K { v with skipped := v.skipped.insert t k } where
  __ := h
  skipped_issued := by
    intro t' k' hk'
    rcases Maps.lookup_insert_some hk' with ⟨-, rfl⟩ | ⟨-, ho⟩
    · exact hk
    · exact h.skipped_issued t' k' ho
  skipped_injective := by
    intro t₁ t₂ k' h₁ h₂
    rcases Maps.lookup_insert_some h₁ with ⟨rfl, rfl⟩ | ⟨-, ho₁⟩ <;>
      rcases Maps.lookup_insert_some h₂ with ⟨rfl, hke⟩ | ⟨-, ho₂⟩
    · rfl
    · exact absurd ho₂ (hca t₂)
    · exact absurd (hke ▸ ho₁) (hca t₁)
    · exact h.skipped_injective t₁ t₂ k' ho₁ ho₂
  skipped_unused := by
    intro t' k' hk'
    rcases Maps.lookup_insert_some hk' with ⟨-, rfl⟩ | ⟨-, ho⟩
    · exact hu
    · exact h.skipped_unused t' k' ho

lemma stash {c : S.Key} (t : Bytes32 × Nat) (hc : v.receiving = some c) : Ledger K { v with
      receiving := some (chainAt c 1)
      skipped := v.skipped.insert t (messageKeyAt c 0) } := by
  obtain ⟨hl, hi⟩ := h.advance_receiving hc
  exact hl.insert t hi (fun t ht => (h.skipped_issued t _ ht).ne_receiving hc rfl)
    fun hu => (h.used_issued _ hu).ne_receiving hc rfl

lemma shift {x : S.Scalar} {a : Option Bytes32} (hv : Shift x a v v') : Ledger K v' := by
  cases hv with
  | stash n hc hr => exact h.stash _ hc
  | ratchet ha hr => exact h.ratchet _ x _
  | rotate hr => exact h.rotate x _
  | rekey hr => exact { h with }

lemma erase : Ledger K { v with skipped := v.skipped.erase t } where
  __ := h
  skipped_issued := fun t' k hk => h.skipped_issued t' k (Maps.lookup_erase_some hk).2
  skipped_injective := fun t1 t2 k h1 h2 =>
    h.skipped_injective t1 t2 k (Maps.lookup_erase_some h1).2 (Maps.lookup_erase_some h2).2
  skipped_unused := fun t' k hk => h.skipped_unused t' k (Maps.lookup_erase_some hk).2

end

lemma use {k : S.Key} (hk : Issued K v k) (hca : ∀ t, v.skipped.lookup t ≠ some k) :
    Ledger K { v with used := k :: v.used } where
  __ := h
  used_issued := by
    intro k' hk'
    rcases List.mem_cons.mp hk' with rfl | hk'
    · exact hk
    · exact h.used_issued k' hk'
  skipped_unused := by
    intro t k' ht hk'
    rcases List.mem_cons.mp hk' with rfl | hk'
    · exact hca t ht
    · exact h.skipped_unused t k' ht hk'

lemma consume {k : S.Key} {so : Option Bytes32} (hv : Consume k so v v') :
    k ∉ v.used ∧ Ledger K v' := by
  cases hv with
  | @send c _ hc hk =>
    subst hk
    refine ⟨fun hu => (h.used_issued _ hu).ne_sending hc rfl, ?_⟩
    obtain ⟨hl, hi⟩ := h.advance_sending hc
    exact hl.use hi fun t ht => (h.skipped_issued t _ ht).ne_sending hc rfl
  | @accept c t _ _ hc hk =>
    subst hk
    refine ⟨fun hu => (h.used_issued _ hu).ne_receiving hc rfl, ?_⟩
    obtain ⟨hl, hi⟩ := h.advance_receiving hc
    exact (hl.erase t).use hi fun t' ht' =>
      (h.skipped_issued t' _ (Maps.lookup_erase_some ht').2).ne_receiving hc rfl
  | @unstash t _ ht =>
    refine ⟨h.skipped_unused t k ht, (h.erase t).use (h.skipped_issued t k ht) ?_⟩
    intro t' ht'
    obtain ⟨hne, ho⟩ := Maps.lookup_erase_some ht'
    exact hne (h.skipped_injective t' t k ho ht)

end

lemma stable (K : S.SymbolicKdf) (x : S.Scalar) : Stable x (fun _ => True) (Ledger K) where
  shift := fun _ hv h => h.shift hv
  consume := fun hv h => (h.consume hv).2
  forget := fun hsu h => h.subset hsu

end Ledger

namespace DoubleRatchetSession

lemma ledger_new (config : Config) (l : S.Scalar) (now : Nat) :
    Ledger K ((new config l now).schedule []) := by
  constructor <;> simp [DoubleRatchetState.schedule, new]

lemma ledger_initialState (se : Bytes32) (l : S.Scalar) (r : Bytes32)
    (config : Config) (role : HandshakeRole) (clock : Clock) (now : Nat) :
    Ledger K ((initialState se l r config role clock now).schedule []) := by
  have hch : K.level (S.hkdfSession se).2 ≤ K.level (S.hkdfSession se).1 := by
    simp [Suite.SymbolicKdf.level, K.term_session_chain, KeyTerm.level]
  cases role <;>
    constructor <;>
      simp [DoubleRatchetState.schedule, initialState, HandshakeRole.isInitiator, ChainKey.new, hch]

lemma fromSharedSecret_eq {se : Bytes32} {clock : Clock} {now : Nat} (hse : isZero se.val = false)
    (hn : clock.read .timestamp = some now) (l : S.Scalar) (r : Bytes32) (config : Config)
    (role : HandshakeRole) :
    fromSharedSecret se l r config role clock = .ok (initialState se l r config role clock now) :=
    by
  simp only [fromSharedSecret, hse, Bool.false_eq_true, if_false, hn]

section
variable {config : Config} {env : Env S} {s s' : DoubleRatchetState S} {message ad : Bytes}
  {used : List S.Key} {c : Bytes}

lemma fromSharedSecret_ok {se : Bytes32} {l : S.Scalar} {r : Bytes32} {role : HandshakeRole}
    {clock : Clock} (h : fromSharedSecret se l r config role clock = .ok s) :
    isZero se.val = false ∧ ∃ now, clock.read .timestamp = some now ∧
    s = initialState se l r config role clock now := by
  unfold fromSharedSecret at h
  split at h
  · cases h
  rename_i hz
  split at h
  · cases h
  · rename_i now hn
    cases h
    exact ⟨by simpa using hz, now, hn, rfl⟩

lemma ledger_created (h : Created s) : Ledger K (s.schedule []) := by
  rcases h with ⟨config, l, now, rfl⟩ | ⟨_, _, _, _, _, _, h⟩
  · exact ledger_new config l now
  · obtain ⟨-, now, -, rfl⟩ := fromSharedSecret_ok h
    exact ledger_initialState _ _ _ _ _ _ now

section
variable (hl : Ledger K (s.schedule used))
include hl

lemma ledger_decrypt_fresh {d : Decrypted S}
    (h : decryptMessage config env s message ad = (.ok d, s')) : d.messageKey ∉ used := by
  obtain ⟨v, hsh, hco⟩ := decryptMessage_schedule used h
  have hv := hsh.invariant (fun _ _ hsi hl => hl.shift hsi) hl
  have hf := (hv.consume hco).1
  rwa [hsh.used_eq] at hf

lemma ledger_call (c : Call S) : Ledger K ((call config s c).2.schedule used) := by
  cases c with
  | encrypt env p ad =>
    simp only [call, encrypt]
    cases h : encryptMessage config env s p ad with
    | mk r s' =>
      cases r with
      | error e => exact stable_encrypt_error (Ledger.stable K _) h hl
      | ok sent =>
        exact (stable_encrypt_ok (Ledger.stable K _) h hl).subset fun k hk => .tail _ hk
  | decrypt env message ad =>
    simp only [call, decrypt]
    cases h : decryptMessage config env s message ad with
    | mk r s' =>
      cases r with
      | error e =>
        rwa [decryptMessage_error h]
      | ok d =>
        exact (stable_decrypt_ok (Ledger.stable K _) h trivial hl).subset fun k hk => .tail _ hk

lemma ledger_run (calls : List (Call S)) : Ledger K ((run config s calls).schedule used) := by
  induction calls generalizing s with
  | nil => exact hl
  | cons c calls ih => exact ih (ledger_call hl c)

end

lemma parseMessage_ciphertext {m : RatchetMessage} (h : parseMessage config s message = .ok m) :
    m.ciphertext = message.drop headerSize ∨ m.ciphertext = message.drop encryptedHeaderSize := by
  have ho : ∀ {ch : Option (ChainKey S)}, openHeader ch message = some m →
      m.ciphertext = message.drop encryptedHeaderSize := by
    intro ch hm
    cases ch with
    | none => cases hm
    | some c =>
      simp only [openHeader] at hm
      cases hp : RatchetMessage.fromBytesEncrypted S message c.deriveHeaderKey with
      | error e => simp [hp, Except.toOption] at hm
      | ok m' =>
        simp only [hp, Except.toOption, Option.some.injEq] at hm
        subst hm
        exact RatchetMessage.fromBytesEncrypted_ciphertext hp
  unfold parseMessage at h
  split at h
  · split at h
    · rename_i hm
      cases h
      exact .inr (ho hm)
    split at h
    · rename_i hm
      cases h
      exact .inr (ho hm)
    · exact .inl (RatchetMessage.fromBytes_ciphertext h)
  · exact .inl (RatchetMessage.fromBytes_ciphertext h)

lemma decryptMessage_authentic {d : Decrypted S}
    (h : decryptMessage config env s message ad = (.ok d, s')) :
    Authentic d.messageKey d.message.ciphertext d.plaintext ∧
    parseMessage config s message = .ok d.message := by
  obtain ⟨m, hm, hpa⟩ := decryptMessage_ok h
  rcases decryptParsed_ok hpa with ⟨mk, -, ho⟩ | ⟨_, _, _, -, -, -, -, ho, -⟩
  all_goals
    obtain ⟨rfl, hk, hau, -⟩ := openMessage_ok ho
    rw [hk]
    exact ⟨hau, hm⟩

lemma Authentic.key_eq (hC : S.CommittingAead) {k k' : S.Key} {p p' : Bytes} {c' : Bytes}
    (h : Authentic k c p) (h' : Authentic k' c' p')
    (hc : c = message.drop headerSize ∨ c = message.drop encryptedHeaderSize)
    (hc' : c' = message.drop headerSize ∨ c' = message.drop encryptedHeaderSize) : k = k' := by
  obtain ⟨n, ad, had, ho⟩ := h
  obtain ⟨n', ad', ha', ho'⟩ := h'
  have hsu : ∀ i j, i ≤ j → (message.drop j).drop 36 <:+ (message.drop i).drop 36 := by
    intro i j hij
    obtain ⟨d, rfl⟩ := Nat.exists_eq_add_of_le hij
    rw [List.drop_drop, List.drop_drop, show i + d + 36 = (i + 36) + d by omega,
      ← List.drop_drop]
    exact List.drop_suffix _ _
  rcases hc with rfl | rfl <;> rcases hc' with rfl | rfl
  · exact hC had ha' (hsu _ _ le_rfl) ho ho'
  · exact hC had ha' (hsu _ _ (by decide)) ho ho'
  · exact (hC ha' had (hsu _ _ (by decide)) ho' ho).symm
  · exact hC had ha' (hsu _ _ le_rfl) ho ho'

lemma Authentic.key_unique (hC : S.CommittingAead) {k k' : S.Key} {p p' : Bytes}
    (h : Authentic k c p) (h' : Authentic k' c p') : k = k' := by
  obtain ⟨n, ad, had, ho⟩ := h
  obtain ⟨n', ad', ha', ho'⟩ := h'
  exact hC had ha' (List.suffix_refl _) ho ho'

lemma encryptMessage_authentic (hA : S.CorrectAead) {p : Bytes} {sent : Encrypted S}
    (h : encryptMessage config env s p ad = (.ok sent, s')) :
    Authentic sent.slot.messageKey sent.message.ciphertext p := by
  obtain ⟨s1, -, hb, -, -⟩ := encryptMessage_ok h
  exact (Genuine.of_buildMessage hb).authentic hA

lemma decryptMessage_used (hC : S.CommittingAead) {key : S.Key} {p : Bytes}
    (hl : Ledger K (s.schedule used)) (hk : key ∈ used) (hau : Authentic key c p)
    (hc : c = message.drop headerSize ∨ c = message.drop encryptedHeaderSize) :
    ∃ e, decryptMessage config env s message ad = (.error e, s) := by
  cases ho : decryptMessage config env s message ad with
  | mk r s' =>
    cases r with
    | error e => exact ⟨e, by rw [decryptMessage_error ho]⟩
    | ok d =>
      exfalso
      obtain ⟨ha', hp⟩ := decryptMessage_authentic ho
      have hke := ha'.key_eq hC hau (parseMessage_ciphertext hp) hc
      exact ledger_decrypt_fresh hl ho (hke ▸ hk)

/-- In a session that runs on any inputs, a byte string that was accepted once is refused
ever after, and without a panic as long as the sum of `skip_message_keys` fits. -/
theorem decrypt_accepts_once (K : S.SymbolicKdf) (hC : S.CommittingAead) (config : Config)
    (s₀ : DoubleRatchetState S) (h₀ : Created s₀) (before between : List (Call S))
    (env env' : Env S) (message ad ad' plaintext : Bytes) (s' : DoubleRatchetState S)
    (h : decrypt config env (run config s₀ before) message ad = (.ok plaintext, s'))
    (hsum : SumFits (run config s' between)) :
    ∃ e, e ≠ .panicked ∧
      (decrypt config env' (run config s' between) message ad').1 = .error e := by
  have hbefore : Ledger K ((run config s₀ before).schedule []) :=
    ledger_run (ledger_created h₀) before
  obtain ⟨d, hd, -⟩ := map_ok h
  have hl := stable_decrypt_ok (Ledger.stable K _) hd trivial hbefore
  have hlater : Ledger K ((run config s' between).schedule [d.messageKey]) :=
    ledger_run hl between
  obtain ⟨hauth, hparse⟩ := decryptMessage_authentic hd
  obtain ⟨e, he⟩ := decryptMessage_used hC hlater (.head _) hauth (parseMessage_ciphertext hparse)
  have hne : (decryptMessage config env' _ message ad').1 ≠ _ :=
    decryptMessage_ne_panicked hsum message ad'
  rw [he] at hne
  exact ⟨e, fun hpanic => hne (congrArg Except.error hpanic), by rw [decrypt, he]; rfl⟩

end

open Symbolic

theorem decrypt_accepts_once_first :
    let wire := (encrypt (config true) (env 1000 3)
      (session true .initiator) [104, 105] []).1.toOption.getD []
    let first := decrypt (config true) (env 1001 4)
      (session true .responder) wire []
    first.1 = .ok [104, 105] ∧
    ∃ e, e ≠ .panicked ∧ (decrypt (config true) (env 1003 6)
      (run (config true) first.2 [.encrypt (env 1002 5) [111, 107] []])
        wire []).1 = .error e := by
  intro wire first
  have hok : first.1 = .ok [104, 105] := by decide +kernel
  refine ⟨hok, ?_⟩
  have hsum : SumFits (run (config true) first.2
      [.encrypt (env 1002 5) [111, 107] []]) := by decide +kernel
  generalize ho : first = r at hok hsum ⊢
  obtain ⟨r, s'⟩ := r
  cases hok
  exact decrypt_accepts_once kdf committingAead (config true)
    (session true .responder)
    (created_session true .responder)
    [] _ _ _ _ _ _ _ _ ho hsum

/-- With `max_skipped_messages = usize::MAX` the copy of the first message ends in the overflow. -/
theorem replay_panics :
    let config : Config := ⟨2 ^ 64 - 1, false⟩
    let wire := (encrypt config (env 1000 3)
      (skipping (2 ^ 64 - 1) .initiator) [104, 105] []).1.toOption.getD []
    let first := decrypt config (env 1001 4)
      (skipping (2 ^ 64 - 1) .responder) wire []
    Created (skipping (2 ^ 64 - 1) .responder) ∧ first.1 = .ok [104, 105] ∧
    (decrypt config (env 1002 5) first.2 wire []).1 = .error .panicked := by
  intro config wire first
  exact ⟨Or.inr ⟨secret, (2 : UInt64), publicKey 1, config, .responder,
    (env 1000 0).clock, rfl⟩, by decide +kernel⟩

end DoubleRatchetSession

end Sibna
