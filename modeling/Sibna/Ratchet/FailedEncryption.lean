import Sibna.Ratchet.SessionSpec

/-!
# Failed encryptions

`encrypt` has no trial copy of the state as `decrypt` has.
-/

namespace Sibna.DoubleRatchetSession

variable {S : Suite}

section
variable {config : Config} {env : Env S} {s s' : DoubleRatchetState S} {plaintext ad : Bytes}
  {e : ProtocolError}

lemma frameMessage_nonce {slot : SendKey S} {m : RatchetMessage} {wire : Bytes}
    (h : frameMessage config env slot m = .ok wire) (hon : config.enableHeaderEncryption = true)
    (hr : slot.rotated = false) : env.headerNonce.isSome := by
  cases hn : env.headerNonce with
  | some n => rfl
  | none =>
    simp [frameMessage, hon, hr, RatchetMessage.toBytesEncrypted, RatchetHeader.encrypt, hn] at h

/-- The inputs for which a failing `encrypt` gives back the state it was called with: those
stopped before the chain or the ratchet is touched, and those that do not fail. -/
inductive EncryptSafe (config : Config) (env : Env S) (s : DoubleRatchetState S)
    (plaintext ad : Bytes) : Prop where
  | refused (h : maxMessageSize < plaintext.length ∨ maxAdLen < ad.length) :
      EncryptSafe config env s plaintext ad
  | blocked (hrot : mustRotate env s = false)
      (h : s.dhLocal = none ∨ ∃ c, s.sendingChain = some c ∧ c.reservedUntil ≤ c.index) :
      EncryptSafe config env s plaintext ad
  | completes {a : S.Scalar} {c : ChainKey S} (ha : (rotateIfNeeded env s).dhLocal = some a)
      (hc : (rotateIfNeeded env s).sendingChain = some c) (hres : c.index < c.reservedUntil)
      (hmax : c.index < c.maxMessages)
      (hseal : Sealable env ⟨S.publicKey a, c, messageKeyAt c.key 0, c.index, mustRotate env s⟩
        plaintext ad)
      (hframe : config.enableHeaderEncryption = true → mustRotate env s = false →
        env.headerNonce.isSome) :
      EncryptSafe config env s plaintext ad

lemma takeSendKey_error_blocked (h : takeSendKey env s = (.error e, s'))
    (hr : mustRotate env s = false) :
    s.dhLocal = none ∨ ∃ c, s.sendingChain = some c ∧ c.reservedUntil ≤ c.index := by
  obtain ⟨c, hc, hm, -⟩ := exists_of_not_mustRotate hr
  cases ha : s.dhLocal with
  | none => exact .inl rfl
  | some a =>
    refine .inr ⟨c, hc, ?_⟩
    by_contra hre
    have hs := rotateIfNeeded_of_not hr
    rw [takeSendKey_of_chain (hs.symm ▸ ha) (hs.symm ▸ hc) (by omega) hm] at h
    cases h

lemma takeSendKey_ok_ne {s1 : DoubleRatchetState S} {slot : SendKey S}
    (hf : s.dhLocal ≠ some env.newLocal) (h : takeSendKey env s = (.ok slot, s1)) :
    s1.dhLocal ≠ s.dhLocal ∨ s1.sendingChain ≠ s.sendingChain := by
  obtain ⟨a, c, ha, hc, -, -, -, rfl⟩ := takeSendKey_ok h
  cases hr : mustRotate env s with
  | true =>
    left
    simp only [rotateIfNeeded_dhLocal hr]
    exact hf.symm
  | false =>
    right
    rw [rotateIfNeeded_of_not hr] at hc
    simp only [hc, ne_eq, Option.some.injEq]
    intro heq
    have hid := congrArg ChainKey.index heq
    simp [ChainKey.advance] at hid

lemma encryptMessage_of_completes {a : S.Scalar} {c : ChainKey S}
    (ha : (rotateIfNeeded env s).dhLocal = some a)
    (hc : (rotateIfNeeded env s).sendingChain = some c) (hr : c.index < c.reservedUntil)
    (hma : c.index < c.maxMessages)
    (hs : Sealable env ⟨S.publicKey a, c, messageKeyAt c.key 0, c.index, mustRotate env s⟩
      plaintext ad) (hf : config.enableHeaderEncryption = true → mustRotate env s = false →
      env.headerNonce.isSome) :
    ∃ sent s', encryptMessage config env s plaintext ad = (.ok sent, s') := by
  have had := Nat.le_trans (Nat.le_add_right _ 56) hs.ad_le
  obtain ⟨m, hm⟩ := hs.buildMessage
    ({ rotateIfNeeded env s with sendingChain := some (c.advance 1) } :
      DoubleRatchetState S).previousCounter
  obtain ⟨wire, hw⟩ := frameMessage_ok
    ⟨S.publicKey a, c, messageKeyAt c.key 0, c.index, mustRotate env s⟩ m hf
  simp only [encryptMessage, (validateMessageForEncrypt_ok_iff _).mpr hs.plaintext_le,
    (validateAssociatedData_ok_iff _).mpr had, takeSendKey_of_chain ha hc hr hma, hm, hw]
  exact ⟨_, _, rfl⟩

lemma EncryptSafe.unchanged (hsa : EncryptSafe config env s plaintext ad)
    (h : encryptMessage config env s plaintext ad = (.error e, s')) : s' = s := by
  have hca := encryptMessage_error h
  cases hsa with
  | refused hr =>
    rcases hca with ⟨-, hs⟩ | ⟨hp, had, -⟩
    · exact hs
    · omega
  | blocked hro hb =>
    rcases hca with ⟨-, hs⟩ | ⟨-, -, hta | ⟨slot, s1, hta, -⟩⟩
    · exact hs
    · rw [takeSendKey_error hta, rotateIfNeeded_of_not hro]
    obtain ⟨a, c, ha, hc, hre, -⟩ := takeSendKey_ok hta
    rw [rotateIfNeeded_of_not hro] at ha hc
    rcases hb with hn | ⟨c', hc', hle⟩
    · simp [ha] at hn
    · grind
  | @completes a c ha hc hre hm hsl hf =>
    obtain ⟨sent, s'', hse⟩ := encryptMessage_of_completes ha hc hre hm hsl hf
    rw [hse] at h
    cases h

lemma EncryptSafe.of_ok {sent : Encrypted S}
    (h : encryptMessage config env s plaintext ad = (.ok sent, s')) :
    EncryptSafe config env s plaintext ad := by
  obtain ⟨s1, hta, hb, hf, -⟩ := encryptMessage_ok h
  obtain ⟨a, c, ha, hc, hr, hm, hsl, -⟩ := takeSendKey_ok hta
  rw [hsl] at hb hf
  exact .completes ha hc hr hm (.of_buildMessage hb) (frameMessage_nonce hf)

lemma EncryptSafe.of_error (hf : s.dhLocal ≠ some env.newLocal)
    (h : encryptMessage config env s plaintext ad = (.error e, s)) :
    EncryptSafe config env s plaintext ad := by
  rcases encryptMessage_error h with ⟨hr, -⟩ | ⟨-, -, hta | ⟨slot, s1, hta, hs1⟩⟩
  · exact .refused hr
  · cases hro : mustRotate env s with
    | true =>
      have hl := rotateIfNeeded_dhLocal hro
      rw [← takeSendKey_error hta] at hl
      exact absurd hl hf
    | false => exact .blocked hro (takeSendKey_error_blocked hta hro)
  · -- a key was taken, and that shows in the state
    have hne := takeSendKey_ok_ne hf hta
    rcases hs1 with ⟨hs, -⟩ | ⟨hs, -⟩
    · simp_all
    · rw [hs] at hne
      simp [recordSent, DoubleRatchetState.touch] at hne

lemma encrypt_isOk_iff : (encrypt config env s plaintext ad).1.isOk = true ↔ ∃ sent s',
    encryptMessage config env s plaintext ad = (.ok sent, s') := by
  rw [encrypt]
  obtain ⟨r, s'⟩ := encryptMessage config env s plaintext ad
  cases r with
  | error | ok => simp [Outcome.map, Except.map, Except.toBool]

end

/-- The random scalar of the call is new, so that a ratchet always shows in the state. -/
theorem encrypt_error_unchanged_iff (config : Config) (env : Env S) (s : DoubleRatchetState S)
    (plaintext ad : Bytes) (hfresh : s.dhLocal ≠ some env.newLocal) :
    (∀ e s', encrypt config env s plaintext ad = (.error e, s') → s' = s) ↔
    EncryptSafe config env s plaintext ad := by
  constructor
  · intro h
    cases ho : encryptMessage config env s plaintext ad with
    | mk r s' =>
      cases r with
      | ok sent => exact .of_ok ho
      | error e =>
        have hs : s' = s := h e s' (by rw [encrypt, ho]; rfl)
        rw [hs] at ho
        exact .of_error hfresh ho
  · intro hsafe e s' h
    exact hsafe.unchanged (map_error h)

open Symbolic

theorem encrypt_error_unchanged_iff_initiator :
    let sent := encrypt (config false) (env 1000 3) (session false .initiator) [104, 105]
      (List.replicate 257 7)
    sent.1 = .error .invalidArgument ∧ sent.2 = session false .initiator := by
  have hfresh : (session false .initiator).dhLocal ≠ some (env 1000 3).newLocal := by decide +kernel
  have hunchanged := (encrypt_error_unchanged_iff (config false) (env 1000 3) _ [104, 105]
    (List.replicate 257 7) hfresh).mpr (.refused (.inr (by rw [List.length_replicate]; decide)))
  generalize ho : encrypt (config false) (env 1000 3) _ [104, 105] (List.replicate 257 7) = sent
  have herror : sent.1 = .error .invalidArgument := ho ▸ by decide +kernel
  exact ⟨herror, hunchanged _ _ (ho.trans (Prod.ext herror rfl))⟩

/-- Cover traffic: the empty plaintext passes the session's check and is refused by the
encryptor, after the sending chain has moved past message number 0. -/
theorem encrypt_empty_skips_number :
    let s := session false .initiator
    let o := encrypt (config false) (env 1000 3) s [] []
    fromSharedSecret secret (1 : UInt64) (publicKey 2) (config false)
      .initiator (env 1000 0).clock = .ok s ∧
    o.1 = .error .invalidCiphertext ∧ s.sendingChain.map ChainKey.index = some 0 ∧
    o.2.sendingChain.map ChainKey.index = some 1 := by
  refine ⟨rfl, ?_, ?_, ?_⟩ <;> decide +kernel

/-- Where one byte can be encrypted, the session takes every plaintext that is neither empty nor too
long, with associated data that leaves room for the header below the encryptor's own limit. -/
theorem encrypt_domain_iff (config : Config) (env : Env S) (s : DoubleRatchetState S) (b : UInt8)
    (h : (encrypt config env s [b] []).1.isOk = true) (plaintext ad : Bytes) :
    (encrypt config env s plaintext ad).1.isOk = true ↔ plaintext ≠ [] ∧
    plaintext.length ≤ maxMessageSize ∧ ad.length + 56 ≤ maxAdLen := by
  constructor
  · intro hok
    obtain ⟨sent, s', hsent⟩ := encrypt_isOk_iff.mp hok
    obtain ⟨s1, -, hbuild, -, -⟩ := encryptMessage_ok hsent
    have hseal := Sealable.of_buildMessage hbuild
    exact ⟨hseal.plaintext_ne, hseal.plaintext_le, hseal.ad_le⟩
  · rintro ⟨hne, hle, had⟩
    obtain ⟨sent, s', hsent⟩ := encrypt_isOk_iff.mp h
    obtain ⟨s1, htake, hbuild, hframe, -⟩ := encryptMessage_ok hsent
    obtain ⟨a, c, ha, hc, hres, hmax, hslot, -⟩ := takeSendKey_ok htake
    rw [hslot] at hbuild hframe
    -- what sealing needs besides the two inputs is the same for both calls
    have hseal := Sealable.of_buildMessage hbuild
    exact encrypt_isOk_iff.mpr (encryptMessage_of_completes ha hc hres hmax
      { hseal with plaintext_ne := hne, plaintext_le := hle, ad_le := had }
      (frameMessage_nonce hframe))

theorem encrypt_domain_first_message :
    (encrypt (config false) (env 1000 3) (session false .initiator)
      [104] []).1.isOk = true ∧
    (encrypt (config false) (env 1000 3) (session false .initiator)
      [104, 105] (List.replicate 200 7)).1.isOk = true := by
  have h : (encrypt (config false) (env 1000 3)
      (session false .initiator) [104] []).1.isOk = true := by decide +kernel
  refine ⟨h, (encrypt_domain_iff _ _ _ 104 h _ _).mpr ⟨nofun, by decide, ?_⟩⟩
  rw [List.length_replicate]
  decide

/-- Cover traffic is refused, and so are 201 bytes of associated data. -/
theorem encrypt_refuses_within_limits :
    (encrypt (config false) (env 1000 3) (session false .initiator)
      [104] []).1.isOk = true ∧
    (encrypt (config false) (env 1000 3) (session false .initiator)
      [] []).1 = .error .invalidCiphertext ∧
    (encrypt (config false) (env 1000 3) (session false .initiator)
      [104] (List.replicate 201 7)).1 = .error .invalidCiphertext := by
  refine ⟨?_, ?_, ?_⟩ <;> decide +kernel

end Sibna.DoubleRatchetSession
