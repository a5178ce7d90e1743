import Sibna.Group.Runs

/-!
# Failing group decryptions

`decrypt` walks the stored chain before it knows whether the message opens, and adds to the `u32`
numbers of an imported key without a check.
-/

namespace Sibna

variable {S : Suite} {G : GroupSuite S}

namespace SenderKey

lemma nextMessageKey_failed {now : Option Nat} {sk sk' : SenderKey S} {e : ProtocolError}
    (h : sk.nextMessageKey G now = (.error e, sk')) : sk.checkExpiration now = .error e ∧ sk' = sk ∨
    sk.checkExpiration now = .ok () ∧ sk.messageNumber.toNat + 1 = 2 ^ 32 ∧
    sk' = { sk with chainKey := G.nextChain sk.chainKey } := by
  cases hep : sk.checkExpiration now with
  | error e' =>
    rw [nextMessageKey_error hep] at h
    cases h
    exact .inl ⟨rfl, rfl⟩
  | ok u =>
    by_cases hlt : sk.messageNumber.toNat + 1 < 2 ^ 32
    · rw [nextMessageKey_moved hep hlt] at h
      cases h
    rw [nextMessageKey_overflow hep hlt] at h
    cases h
    have hra := sk.messageNumber.toNat_lt
    exact .inr ⟨rfl, by omega, rfl⟩

lemma nextMessageKey_keeps_iff (hch : ∀ k, G.nextChain k ≠ k) (now : Option Nat)
    (sk : SenderKey S) :
    (∀ e sk', sk.nextMessageKey G now = (.error e, sk') →
      sk'.chainKey = sk.chainKey ∧ sk'.messageNumber = sk.messageNumber) ↔
    (sk.checkExpiration now = .ok () → sk.messageNumber.toNat + 1 < 2 ^ 32) := by
  constructor
  · intro hke hep
    by_contra hlt
    exact hch _ (hke _ _ (nextMessageKey_overflow hep hlt)).1
  intro hro e sk' h
  rcases nextMessageKey_failed h with ⟨-, rfl⟩ | ⟨hep, hl, -⟩
  · exact ⟨rfl, rfl⟩
  · exact absurd hl (Nat.ne_of_lt (hro hep))

end SenderKey

namespace GroupSession

lemma decrypt_returns_iff (env : GroupEnv S) (s : GroupSession S) (m : GroupMessage)
    (pk : Bytes32) : s.decrypt G env m pk ≠ none ↔ ∀ sk, checkMessage G env s m pk = .ok sk →
    sk.messageNumber.toNat + maxSkipGroup < 2 ^ 32 := by
  unfold decrypt
  cases checkMessage G env s m pk with
  | error e => simp
  | ok sk =>
    simp only [Except.ok.injEq, forall_eq']
    split
    · simp_all
    · rename_i hro
      refine ⟨fun _ => Nat.lt_of_not_le hro, fun _ => ?_⟩
      split <;> simp

/-- The sum in `decrypt` overflows exactly if a message passes the checks before it and the stored
number is within `MAX_SKIP_GROUP` of the end. A failing derivation changes the key exactly if the
key has not expired and its number is the last. -/
theorem sender_key_arithmetic_iff (G : GroupSuite S) (hchain : ∀ k, G.nextChain k ≠ k) :
    (∀ (env : GroupEnv S) (s : GroupSession S) (m : GroupMessage) (pk : Bytes32),
      s.decrypt G env m pk ≠ none ↔
        ∀ sk, checkMessage G env s m pk = .ok sk →
          sk.messageNumber.toNat + maxSkipGroup < 2 ^ 32) ∧
    ∀ (sk : SenderKey S) (now : Option Nat),
      (∀ e sk', sk.nextMessageKey G now = (.error e, sk') →
        sk'.chainKey = sk.chainKey ∧ sk'.messageNumber = sk.messageNumber) ↔
      (sk.checkExpiration now = .ok () → sk.messageNumber.toNat + 1 < 2 ^ 32) :=
  ⟨decrypt_returns_iff, fun sk now => SenderKey.nextMessageKey_keeps_iff hchain now sk⟩

end GroupSession

namespace Symbolic

lemma groupNextChain_ne (k : Key) : groupNextChain k ≠ k := by
  intro h
  have hpo : (KeyAlgebra.KeyTerm.mac k 2).pos 2 = k.pos 2 := congrArg _ h
  simp [KeyAlgebra.KeyTerm.pos] at hpo

def keyAt (number : UInt32) : SenderKey short := { senderKey 1 1 with messageNumber := number }

def imported (number : UInt32) : Outcome (GroupSession short) Unit :=
  { receiving with senderKeys := ∅ }.importSenderKey (shortEnv 1000 0) sender (keyAt number)

def received (number : UInt32) : Option (Outcome (GroupSession short) Bytes) :=
  (imported number).2.decrypt shortGroup (shortEnv 1002 0)
    (sentMessage (sending.encrypt shortGroup (shortEnv 1001 0) [10])) sender

theorem first_key_arithmetic : (∀ k, shortGroup.nextChain k ≠ k) ∧ received 0 ≠ none ∧ ∀ e sk',
    (keyAt 0).nextMessageKey shortGroup (some 1002) = (.error e, sk') →
    sk'.chainKey = (keyAt 0).chainKey ∧ sk'.messageNumber = (keyAt 0).messageNumber := by
  have h := GroupSession.sender_key_arithmetic_iff shortGroup groupNextChain_ne
  refine ⟨groupNextChain_ne, (h.1 _ _ _ _).mpr fun sk hsk => ?_,
    (h.2 _ (some 1002)).mpr fun _ => by decide⟩
  obtain rfl : keyAt 0 = sk := by
    have hlookup := (GroupSession.checkMessage_ok.mp hsk).2.2.2.2.1
    exact Option.some.inj hlookup
  decide

/-- The import takes a key with any number. With one of the last 500 the sender's genuine message
makes the sum overflow; with the last one the chain key is replaced and nothing is derived. -/
theorem last_numbers_unsafe :
    (imported 4294966796).1 = .ok () ∧ received 4294966796 = none ∧
      (imported 4294966795).1 = .ok () ∧
      (received 4294966795).map Prod.fst = some (.ok [10]) ∧
      ((keyAt 4294967295).nextMessageKey shortGroup (some 1002)).1 =
        .error .messageNumberOverflow ∧
      ((keyAt 4294967295).nextMessageKey shortGroup (some 1002)).2.chainKey ≠
        (keyAt 4294967295).chainKey := by
  refine ⟨by decide +kernel, ?_, by decide +kernel, by decide +kernel, by decide +kernel,
    groupNextChain_ne _⟩
  have h : (received 4294966796).isNone = true := by decide +kernel
  exact Option.isNone_iff_eq_none.mp h

end Symbolic

end Sibna

namespace Sibna.GroupSession

variable {S : Suite} {G : GroupSuite S}

def Decrypts (G : GroupSuite S) (env : GroupEnv S) (s : GroupSession S) (m : GroupMessage)
    (pk : Bytes32) (plaintext : Bytes) : Prop :=
  ∃ s', decrypt G env s m pk = some (.ok plaintext, s')

variable {env : GroupEnv S}

lemma decrypts_iff {s : GroupSession S} {m : GroupMessage} {pk : Bytes32} {p : Bytes} :
    Decrypts G env s m pk p ↔ ∃ sk, Arrives G env s m pk sk ∧ Opens G env s m sk p := by
  constructor
  · rintro ⟨s', h⟩
    obtain ⟨sk, har, ho, -⟩ := decrypt_ok h
    exact ⟨sk, har, ho⟩
  · rintro ⟨sk, har, ho⟩
    exact ⟨_, decrypt_of_opens har ho⟩

lemma Decrypts.congr {s s' : GroupSession S} (hg : s'.groupId = s.groupId)
    (hep : s'.epoch = s.epoch) (hke : ∀ q, s'.senderKeys.lookup q = s.senderKeys.lookup q)
    {m : GroupMessage} {pk : Bytes32} {p : Bytes} (h : Decrypts G env s m pk p) :
    Decrypts G env s' m pk p := by
  obtain ⟨sk, har, ho⟩ := decrypts_iff.mp h
  have hch : checkMessage G env s' m pk = .ok sk := by
    have hsa := checkMessage_ok.mp har.checked
    rwa [checkMessage_ok, hg, hep, hke]
  have hop : openMessage s' (G.messageKey (G.nextChain^[gap sk m] sk.chainKey)) m.ciphertext =
      .ok p := by
    have hsa := openMessage_ok.mp ho.opened
    rwa [openMessage_ok, hg]
  exact decrypts_iff.mpr ⟨sk, ⟨hch, har.room, har.skip⟩, ⟨ho.usable, ho.number, hop⟩⟩

lemma Spoils.ne {sk sk' : SenderKey S} (h : Spoils G env sk sk')
    (hf : sk.checkExpiration (env.clock.read (.messageKey 0)) = .ok ()) : sk' ≠ sk := by
  have hlt : sk.messageNumber.toNat < sk'.messageNumber.toNat := by
    rcases h with ⟨j, rfl, hj, hif⟩ | ⟨-, hlt, -⟩
    · have hpo : j ≠ 0 := fun h0 => hif.mp h0 hf
      rw [SenderKey.moved_number hj]
      omega
    · exact hlt
  rintro rfl
  exact Nat.lt_irrefl _ hlt

lemma Spoils.eq_of_refused {sk sk' : SenderKey S} (h : Spoils G env sk sk')
    (hre : sk.checkExpiration (env.clock.read (.messageKey 0)) ≠ .ok ()) : sk' = sk := by
  rcases h with ⟨j, rfl, -, hif⟩ | ⟨-, -, -, hf⟩
  · rw [hif.mpr hre, SenderKey.moved_zero]
  · exact absurd hf hre

/-- A failing call leaves the sender keys, and with them every message that could be decrypted, as
they were exactly if no message gets as far as the chain without being opened there. -/
theorem failed_decrypt_keeps_keys_iff (G : GroupSuite S) (env : GroupEnv S) (s : GroupSession S)
    (m : GroupMessage) (pk : Bytes32) :
    (∀ e s', decrypt G env s m pk = some (.error e, s') →
      (∀ q, s'.senderKeys.lookup q = s.senderKeys.lookup q) ∧
      ∀ env' m' q plaintext, Decrypts G env' s m' q plaintext → Decrypts G env' s' m' q plaintext) ↔
    ∀ sk, Arrives G env s m pk sk →
      sk.checkExpiration (env.clock.read (.messageKey 0)) = .ok () →
        ∃ plaintext, Opens G env s m sk plaintext := by
  constructor
  · intro hkeeps sk harrives hfirst
    by_contra hopens
    obtain ⟨e, sk', heq, hmoved⟩ := decrypt_not_opens harrives (not_exists.mp hopens)
    have hsame := (hkeeps _ _ heq).1 pk
    rw [AList.lookup_insert, harrives.lookup] at hsame
    cases hsame
    exact hmoved.ne hfirst rfl
  · intro hopens e s' heq
    have hkeys : s'.groupId = s.groupId ∧ s'.epoch = s.epoch ∧
        ∀ q, s'.senderKeys.lookup q = s.senderKeys.lookup q := by
      by_cases harrives : ∃ sk, Arrives G env s m pk sk
      · obtain ⟨sk, harrives⟩ := harrives
        by_cases hopened : ∃ p, Opens G env s m sk p
        · obtain ⟨p, hopened⟩ := hopened
          rw [decrypt_of_opens harrives hopened] at heq
          cases heq
        obtain ⟨e', sk', heq', hmoved⟩ := decrypt_not_opens harrives (not_exists.mp hopened)
        rw [heq'] at heq
        cases heq
        have hrefused := fun hfirst => hopened (hopens sk harrives hfirst)
        obtain rfl := hmoved.eq_of_refused hrefused
        refine ⟨rfl, rfl, fun q => ?_⟩
        by_cases hq : q = pk
        · rw [hq, AList.lookup_insert, harrives.lookup]
        · rw [AList.lookup_insert_ne hq]
      · rcases decrypt_not_arrives (not_exists.mp harrives) with heq' | ⟨e', heq'⟩
        · rw [heq'] at heq
          cases heq
        · rw [heq'] at heq
          cases heq
          exact ⟨rfl, rfl, fun _ => rfl⟩
    obtain ⟨hgroup, hepoch, hkeys⟩ := hkeys
    exact ⟨hkeys, fun env' m' q plaintext h => h.congr hgroup hepoch hkeys⟩

open Symbolic

/-- A genuine message that is delivered a second time is refused, and the next message, which
could be decrypted before, is refused from then on. -/
theorem duplicate_costs_next_message :
    let first := encrypt shortGroup (shortEnv 1001 0) sending [10]
    let second := encrypt shortGroup (shortEnv 1002 0) first.2 [11]
    let receive := fun s m => decrypt shortGroup (shortEnv 1003 0) s m
      sender
    let once := receive receiving (sentMessage first)
    let twice := receive (after once) (sentMessage first)
    once.map Prod.fst = some (.ok [10]) ∧
    twice.map Prod.fst = some (.error .authenticationFailed) ∧
    (receive (after once) (sentMessage second)).map Prod.fst =
      some (.ok [11]) ∧
    (receive (after twice) (sentMessage second)).map Prod.fst =
      some (.error .authenticationFailed) := by
  decide +kernel

end Sibna.GroupSession
