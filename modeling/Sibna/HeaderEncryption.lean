import Sibna.Network

/-!
# Header encryption

One schedule with encrypted headers and without. The header key comes from the momentary chain key,
so a header is readable exactly when its message is the next of the receiving chain.
-/

namespace Sibna

open DoubleRatchetSession

def withHeaders (config : HandshakeRole → Config) (on : Bool) : HandshakeRole → Config :=
  fun p => { config p with enableHeaderEncryption := on }

/-- No plaintext header that is followed by the encryptor's own header is by accident a sealed
header. -/
def Suite.HeadersApart (S : Suite) : Prop :=
  ∀ (k : S.Key) (h : RatchetHeader) (t : Nat) (rest : Bytes), 4 ≤ rest.length →
    S.aeadDecrypt k ((h.toBytes ++ (buildHeader 0 t ++ rest)).take 12) []
    (((h.toBytes ++ (buildHeader 0 t ++ rest)).take 84).drop 12) = none

variable {S : Suite}

def DoubleRatchetSession.Encrypted.plain (e : Encrypted S) : Encrypted S :=
  { e with wire := e.message.toBytes }

def Sent.plain (m : Sent S) : Sent S := { m with encrypted := m.encrypted.plain }

section
variable {env : Env S}

lemma encryptMessage_plain (config : Config) (hn : env.headerNonce.isSome)
    (s : DoubleRatchetState S) (p ad : Bytes) :
    encryptMessage { config with enableHeaderEncryption := false } env s p ad =
      (encryptMessage { config with enableHeaderEncryption := true } env s p ad).map
        Encrypted.plain := by
  simp only [encryptMessage]
  cases validateMessageForEncrypt p with
  | error e => rfl
  | ok _ =>
    cases validateAssociatedData ad with
    | error e => rfl
    | ok _ =>
      obtain ⟨r, s₁⟩ := takeSendKey env s
      cases r with
      | error e => rfl
      | ok slot =>
        simp only
        cases buildMessage env slot s₁.previousCounter p ad with
        | error e => rfl
        | ok m =>
          obtain ⟨wire, hw⟩ : ∃ wire, frameMessage
              { config with enableHeaderEncryption := true } env slot m = .ok wire :=
            frameMessage_ok slot m (fun _ _ => hn)
          simp only [hw]
          rfl

structure Framed (m : Sent S) : Prop where
  genuine : Genuine m.key m.plaintext m.associatedData m.encrypted.message
  announced_lt : m.header.previousChainLength < 2 ^ 64
  rotated : m.encrypted.slot.rotated = true → m.encrypted.wire = m.encrypted.message.toBytes
  kept : m.encrypted.slot.rotated = false → ∃ nonce, m.encrypted.message.toBytesEncrypted S
    m.encrypted.slot.chain.deriveHeaderKey nonce = .ok m.encrypted.wire

section
variable {config : Config} {env : Env S} {t : DoubleRatchetState S} {m : Sent S}

lemma Framed.inRange (hm : Framed m) : m.header.InRange := by
  have hn : m.header.messageNumber ≤ 1000000000000 := hm.genuine.number_le
  have hts : m.header.timestamp < 2 ^ 63 := hm.genuine.timestamp_lt
  exact ⟨by omega, hm.announced_lt, by omega⟩

lemma Framed.parse_plain (hA : S.CorrectAead) (hS : S.HeadersApart) (hm : Framed m)
    (config : Config) (t : DoubleRatchetState S) :
    parseMessage config t m.encrypted.message.toBytes = .ok m.encrypted.message := by
  have hl := hm.genuine.length_le hA
  have hpl := RatchetMessage.fromBytes_toBytes hm.inRange (by omega)
  obtain ⟨cl, no, hb⟩ := hm.genuine.body
  obtain ⟨-, -, -, n, ts, -, -, hct⟩ := Encryptor.encryptBytes_ok hb
  have hf : ∀ ch : Option (ChainKey S),
      openHeader ch m.encrypted.message.toBytes = none := by
    intro ch
    cases ch with
    | none => rfl
    | some c =>
      have ho : S.aeadDecrypt c.deriveHeaderKey (m.encrypted.message.toBytes.take 12) []
          ((m.encrypted.message.toBytes.take 84).drop 12) = none := by
        rw [RatchetMessage.toBytes, hct, List.append_assoc]
        refine hS _ _ _ _ ?_
        rw [List.length_append, FixedBytes.length_val]
        omega
      have hsi : ¬ (m.encrypted.message.toBytes.take encryptedHeaderSize).length <
          encryptedHeaderNonceSize + 16 := by
        simp only [List.length_take, RatchetMessage.toBytes, List.length_append,
          encryptedHeaderSize, encryptedHeaderNonceSize, headerSize]
        omega
      have hta : (m.encrypted.message.toBytes.take encryptedHeaderSize).take
          encryptedHeaderNonceSize = m.encrypted.message.toBytes.take 12 := by
        rw [List.take_take]
        rfl
      have hde : RatchetHeader.decrypt S (m.encrypted.message.toBytes.take encryptedHeaderSize)
          c.deriveHeaderKey = .error .decryptionFailed := by
        simp only [RatchetHeader.decrypt, hsi, if_false, hta]
        rw [show encryptedHeaderSize = 84 from rfl, show encryptedHeaderNonceSize = 12 from rfl, ho]
      simp only [openHeader, RatchetMessage.fromBytesEncrypted, hde]
      split <;> rfl
  simp only [parseMessage, hf, hpl]
  split <;> rfl

lemma Framed.parse_next (hA : S.CorrectAead) (hm : Framed m)
    (hr : m.encrypted.slot.rotated = false) (hon : config.enableHeaderEncryption = true)
    {c : ChainKey S} (hc : t.receivingChain = some c) (hk : c.key = m.encrypted.slot.chain.key) :
    parseMessage config t m.encrypted.wire = .ok m.encrypted.message := by
  have hl := hm.genuine.length_le hA
  obtain ⟨n, hw⟩ := hm.kept hr
  have ho := RatchetMessage.fromBytesEncrypted_toBytesEncrypted hA hm.inRange (by omega) hw
  have hh : c.deriveHeaderKey = m.encrypted.slot.chain.deriveHeaderKey := by
    simp only [ChainKey.deriveHeaderKey, ChainKey.deriveKey, hk]
  have hsi : m.encrypted.wire.length ≥ encryptedHeaderSize + 29 := by
    by_contra hlt
    rw [RatchetMessage.fromBytesEncrypted, if_pos (by omega)] at ho
    cases ho
  simp only [parseMessage, hon, hsi, hc, openHeader, hh, ho]
  rfl

end

structure Bounded (s : DoubleRatchetState S) : Prop where
  previousCounter_lt : s.previousCounter < 2 ^ 64
  sending_lt : ∀ c, s.sendingChain = some c → c.index < 2 ^ 64

section
variable {config : Config} {s s' : DoubleRatchetState S}

lemma Bounded.rotateIfNeeded (h : Bounded s) (env : Env S) : Bounded (rotateIfNeeded env s) where
  previousCounter_lt := by
    rw [rotateIfNeeded_previousCounter]
    exact h.previousCounter_lt
  sending_lt := by
    unfold DoubleRatchetSession.rotateIfNeeded performDhRatchet
    intro c hc
    split at hc
    · split at hc
      · exact h.sending_lt c hc
      · obtain rfl := Option.some.inj hc
        exact Nat.two_pow_pos 64
    · exact h.sending_lt c hc

lemma Bounded.encrypt {p ad : Bytes} {r : Except ProtocolError (Encrypted S)} (h : Bounded s)
    (ho : encryptMessage config env s p ad = (r, s')) : Bounded s' := by
  have hro := h.rotateIfNeeded env
  rcases encryptMessage_frame ho with rfl | ⟨se, a, sent, rfl, hs⟩
  · exact h
  refine ⟨hro.previousCounter_lt, ?_⟩
  rcases hs with rfl | ⟨c, -, hlt, rfl⟩
  · exact hro.sending_lt
  rintro c' ⟨⟩
  have hm := c.maxMessages_lt
  simp only [ChainKey.advance]
  omega

lemma Bounded.decrypt {me ad : Bytes} {r : Except ProtocolError (Decrypted S)} (h : Bounded s)
    (ho : decryptMessage config env s me ad = (r, s')) : Bounded s' := by
  cases r with
  | error e =>
    rwa [decryptMessage_error ho]
  | ok d =>
    rcases decryptMessage_frame ho with hke | htu
    · constructor
      · rw [hke.previousCounter]
        exact h.previousCounter_lt
      · rw [hke.sending]
        exact h.sending_lt
    · constructor
      · rw [htu.previousCounter]
        cases hc : s.sendingChain with
        | none => exact Nat.two_pow_pos 64
        | some c => exact h.sending_lt c hc
      · obtain ⟨k, hk⟩ := htu.sending
        intro c hc
        cases hk.symm.trans hc
        exact Nat.two_pow_pos 64

end

end

namespace World

section
variable (config : HandshakeRole → Config) (w : World S)

def plain : World S := { w with sent := w.sent.map Sent.plain }

def outcome : Event S → Option (Option Bytes)
  | .encrypt _ _ _ _ => none
  | .deliver i env => (w.delivery config i env).map Except.toOption
  | .inject p env message ad => some (decrypt (config p) env (w.session p) message ad).1.toOption

def outcomes (config : HandshakeRole → Config) (w : World S) :
    List (Event S) → List (Option (Option Bytes))
  | [] => []
  | e :: es => w.outcome config e :: outcomes config (w.step config e) es

/-- A header nonce can be drawn, and a delivery is a copy of a message accepted before, a
message sent with a rotation, or the next message of the receiving chain; in any case it does not
overflow the sum of its receiver. -/
def InOrder : Event S → Prop
  | .encrypt _ env _ _ => env.headerNonce.isSome
  | .deliver i _ => ∀ m ∈ w.sent[i]?, SumFits (w.session m.sender.peer) ∧
      (m.encrypted.slot.rotated = true ∨ m.key ∈ w.usedKeys m.sender.peer ∨
        (w.session m.sender.peer).receivingChain.map ChainKey.key =
          some m.encrypted.slot.chain.key)
  | .inject _ _ _ _ => False

end

instance [DecidableEq S.Key] (w : World S) (e : Event S) : Decidable (w.InOrder e) := by
  rcases e <;> unfold InOrder <;> infer_instance

structure Lockstep (K : S.SymbolicKdf) (w : World S) : Prop where
  bounded : ∀ p, Bounded (w.session p)
  framed : ∀ m ∈ w.sent, Framed m
  ledger : ∀ p, Ledger K ((w.session p).schedule (w.usedKeys p))

section
variable {K : S.SymbolicKdf} {w : World S} {config : HandshakeRole → Config}

variable {env : Env S}

lemma Lockstep.decrypt_plain (hA : S.CorrectAead) (hC : S.CommittingAead) (hS : S.HeadersApart)
    (config : HandshakeRole → Config) (hw : w.Lockstep K) {i : Nat}
    (he : w.InOrder (.deliver i env)) {m : Sent S} (hm : w.sent[i]? = some m) :
    let on := decryptMessage (withHeaders config true m.sender.peer) env
      (w.session m.sender.peer) m.encrypted.wire m.associatedData
    let off := decryptMessage (withHeaders config false m.sender.peer) env
      (w.session m.sender.peer) m.encrypted.message.toBytes m.associatedData
    on.1.toOption = off.1.toOption ∧ on.2 = off.2 := by
  intro on off
  have hf := hw.framed m (List.mem_of_getElem? hm)
  have hl := hf.genuine.length_le hA
  have ho : off = decryptParsed env (w.session m.sender.peer) m.encrypted.message
      m.associatedData :=
    decryptMessage_of_parse (hf.genuine.toBytes_length_le hA)
      (hf.parse_plain hA hS _ _) env m.associatedData
  -- with the same message parsed, the rest of `decrypt` does not look at the setting
  have hsa : on = decryptParsed env (w.session m.sender.peer) m.encrypted.message
      m.associatedData → on.1.toOption = off.1.toOption ∧ on.2 = off.2 := by
    intro hon
    rw [hon, ho]
    exact ⟨rfl, rfl⟩
  by_cases hro : m.encrypted.slot.rotated = true
  · apply hsa
    have hwi := hf.rotated hro
    apply decryptMessage_of_parse
    · rw [hwi]
      exact hf.genuine.toBytes_length_le hA
    · rw [hwi]
      exact hf.parse_plain hA hS _ _
  · have hro : m.encrypted.slot.rotated = false := by simpa using hro
    obtain ⟨nonce, hwi⟩ := hf.kept hro
    have hb := RatchetMessage.fromBytesEncrypted_toBytesEncrypted hA hf.inRange
      (by omega) hwi
    rcases (he m hm).2 with hr | hu | hn
    · rw [hro] at hr
      cases hr
    · -- a copy of something accepted is refused either way
      have hau := hf.genuine.authentic hA
      obtain ⟨e, hon⟩ : ∃ e, on = (.error e, _) := decryptMessage_used hC (hw.ledger _) hu hau
        (.inr (RatchetMessage.fromBytesEncrypted_ciphertext hb))
      obtain ⟨e', ho⟩ : ∃ e, off = (.error e, _) :=
        decryptMessage_used hC (hw.ledger _) hu hau
          (.inl (by simp [RatchetMessage.toBytes, headerSize]))
      rw [hon, ho]
      exact ⟨rfl, rfl⟩
    · obtain ⟨c, hc, hk⟩ := Option.map_eq_some_iff.mp hn
      apply hsa
      apply decryptMessage_of_parse
      · by_contra hlt
        rw [RatchetMessage.fromBytesEncrypted, if_pos (by
          simp only [encryptedHeaderSize, headerSize]
          omega)] at hb
        cases hb
      · exact hf.parse_next hA hro rfl hc hk

lemma framed_of_ok {config : Config} {p : HandshakeRole} {s s' : DoubleRatchetState S}
    {pl ad : Bytes} {sent : Encrypted S} (h : Bounded s)
    (ho : encryptMessage { config with enableHeaderEncryption := true } env s pl ad =
      (.ok sent, s')) : Framed ⟨p, pl, ad, sent⟩ := by
  obtain ⟨s₁, hta, hb, hf, -⟩ := encryptMessage_ok ho
  obtain ⟨a, c, -, -, -, -, -, rfl⟩ := takeSendKey_ok hta
  obtain ⟨ts, -, hh, -⟩ := buildMessage_ok hb
  refine ⟨.of_buildMessage hb, ?_, ?_, ?_⟩
  · rw [Sent.header, hh]
    exact (h.rotateIfNeeded env).previousCounter_lt
  · intro (hr : sent.slot.rotated = true)
    simp only [frameMessage, hr, Bool.not_true, Bool.and_false, Bool.false_eq_true, if_false,
      Except.ok.injEq] at hf
    exact hf.symm
  · intro (hr : sent.slot.rotated = false)
    simp only [frameMessage, hr] at hf
    exact ⟨env.headerNonce, hf⟩

lemma lockstep_step (w : World S) (e : Event S) (hw : w.Lockstep K) :
    (w.step (withHeaders config true) e).Lockstep K := by
  refine ⟨?_, ?_, fun p =>
    stable_step (Ledger.stable K _) (fun _ _ _ _ _ _ _ => trivial) (hw.ledger p)⟩
  · have hu : ∀ {p s}, (w.step (withHeaders config true) e).session =
        Function.update w.session p s → Bounded s →
          ∀ q, Bounded ((w.step (withHeaders config true) e).session q) := by
      intro p s hse hs q
      rw [hse, Function.update_apply]
      split
      · exact hs
      · exact hw.bounded q
    cases effect_step _ w e with
    | idle hse _ _ => exact hse.symm ▸ hw.bounded
    | failed _ hc hse _ _ | sends _ hc hse _ _ =>
      exact hu hse ((hw.bounded _).encrypt hc)
    | accepts _ hc hse _ _ => exact hu hse ((hw.bounded _).decrypt hc)
  · intro m hm
    rcases mem_step_sent hm with hm | ⟨env, s, -, ho, -⟩
    · exact hw.framed m hm
    · exact framed_of_ok (hw.bounded _) ho

lemma decrypt_toOption (config : Config) (env : Env S) (s : DoubleRatchetState S)
    (me ad : Bytes) : (decrypt config env s me ad).1.toOption =
      (decryptMessage config env s me ad).1.toOption.map Decrypted.plaintext := by
  rw [decrypt, Outcome.map]
  cases (decryptMessage config env s me ad).1 <;> rfl

lemma receive_plain {config c' : HandshakeRole → Config} {p : HandshakeRole}
    {me m' ad : Bytes}
    (hr : (decryptMessage (config p) env (w.session p) me ad).1.toOption =
      (decryptMessage (c' p) env (w.session p) m' ad).1.toOption)
    (hst : (decryptMessage (config p) env (w.session p) me ad).2 =
      (decryptMessage (c' p) env (w.session p) m' ad).2) :
    (w.receive config p env me ad).plain = w.plain.receive c' p env m' ad := by
  have hse : w.plain.session = w.session := rfl
  simp only [receive, hse]
  generalize decryptMessage (config p) env (w.session p) me ad = o at hr hst ⊢
  generalize decryptMessage (c' p) env (w.session p) m' ad = o' at hr hst ⊢
  obtain ⟨r, s⟩ := o
  obtain ⟨r', s'⟩ := o'
  obtain rfl := hst
  cases r with
  | error e =>
    cases r' with
    | error e' => rfl
    | ok d => cases hr
  | ok d =>
    cases r' with
    | error e' => cases hr
    | ok d' =>
      cases hr
      rfl

lemma Lockstep.step_plain (hA : S.CorrectAead) (hC : S.CommittingAead) (hS : S.HeadersApart)
    (config : HandshakeRole → Config) (hw : w.Lockstep K) {e : Event S} (he : w.InOrder e) :
    (w.step (withHeaders config true) e).plain = w.plain.step (withHeaders config false) e ∧
    w.outcome (withHeaders config true) e = w.plain.outcome (withHeaders config false) e := by
  cases e with
  | inject p env me ad => exact absurd he id
  | encrypt p env pl ad =>
    refine ⟨?_, rfl⟩
    have heq := encryptMessage_plain (config p) he (w.session p) pl ad
    have hss : w.plain.session p = w.session p := rfl
    simp only [step, act, send, hss]
    rw [show withHeaders config false p =
      { config p with enableHeaderEncryption := false } from rfl, heq]
    rw [show withHeaders config true p = { config p with enableHeaderEncryption := true } from rfl]
    cases encryptMessage { config p with enableHeaderEncryption := true } env _ pl ad with
    | mk r s =>
      cases r with
      | error e => rfl
      | ok sent =>
        simp only [plain, setSession, List.map_append]
        rfl
  | deliver i env =>
    have hse : w.plain.sent[i]? = w.sent[i]?.map Sent.plain := List.getElem?_map
    cases hm : w.sent[i]? with
    | none =>
      simp only [step, act, outcome, delivery, hm, hse]
      exact ⟨rfl, rfl⟩
    | some m =>
      obtain ⟨hr, hst⟩ := hw.decrypt_plain hA hC hS config he hm
      constructor
      · have hre := receive_plain hr hst
        simp only [step, act, hm, hse]
        change { (w.receive (withHeaders config true) m.sender.peer env m.encrypted.wire
          m.associatedData).plain with
            delivered := i :: w.delivered, scalars := env.newLocal :: w.scalars } = _
        rw [hre]
        rfl
      · simp only [outcome, delivery, hm, hse, Option.map_some, decrypt_toOption]
        exact congrArg (fun r => some _) hr

lemma Lockstep.outcomes_plain (hA : S.CorrectAead) (hC : S.CommittingAead)
    (hS : S.HeadersApart) (hw : w.Lockstep K) (es : List (Event S))
    (hes : Runs.Guarded (step (withHeaders config true)) InOrder w es) :
    w.outcomes (withHeaders config true) es = w.plain.outcomes (withHeaders config false) es := by
  induction es generalizing w with
  | nil => rfl
  | cons e es ih =>
    obtain ⟨hf, hr⟩ := hes
    obtain ⟨hs, ho⟩ := hw.step_plain hA hC hS config hf
    rw [outcomes, outcomes, ho, ih (lockstep_step w e hw) hr, hs]

lemma lockstep_matched (K : S.SymbolicKdf) {se : Bytes32} (h : w.Matched config se) :
    w.Lockstep K where
  bounded := by
    intro p
    obtain ⟨a, -, b, -, cl, now, hs⟩ := h.session_eq p
    rw [hs]
    refine ⟨Nat.two_pow_pos 64, ?_⟩
    intro c hc
    cases p with
    | initiator =>
      cases hc
      exact Nat.two_pow_pos 64
    | responder => cases hc
  framed := by simp [h.sent]
  ledger := fun p => ledger_run K h [] p

/-- Whatever the schedule, as long as no message skips ahead of its receiver, the results of
`decrypt` with header encryption on both sides are those without it. -/
theorem headers_transparent (K : S.SymbolicKdf) (hA : S.CorrectAead) (hC : S.CommittingAead)
    (hS : S.HeadersApart) (config : HandshakeRole → Config) (secret : Bytes32) (w : World S)
    (hw : w.Matched config secret) (es : List (Event S))
    (hes : Runs.Guarded (step (withHeaders config true)) InOrder w es) :
    w.outcomes (withHeaders config true) es = w.outcomes (withHeaders config false) es := by
  have hplain : w.plain = w := by
    rw [plain, hw.sent]
    exact congrArg (fun l => { w with sent := l }) hw.sent.symm
  rw [(lockstep_matched K hw).outcomes_plain hA hC hS es hes, hplain]

end

open Symbolic

lemma headersApart_symbolic : suite.HeadersApart := by
  intro k h t rest hr
  have hl : ((h.toBytes ++ (buildHeader 0 t ++ rest)).take 84).length = 84 := by
    simp
    omega
  have hb : ((h.toBytes ++ (buildHeader 0 t ++ rest)).take 84)[72]? = some 0 := by
    rw [List.getElem?_take_of_lt (by decide), List.getElem?_append_right (by simp),
      List.getElem?_append_left (by simp)]
    simp [buildHeader, buildHeaderWithPadding, LittleEndian.toLe]
  generalize (h.toBytes ++ (buildHeader 0 t ++ rest)).take 84 = data at hl hb
  rw [List.getElem?_eq_getElem (by omega), Option.some.injEq] at hb
  simp only [suite, aeadDecrypt, tag]
  rw [if_neg]
  intro heq
  have hta := congrArg (fun l => l[4]?) heq
  simp [headerTag, hl, hb] at hta

theorem headers_transparent_in_order :
    let config := fun _ : HandshakeRole => config true
    let es : List (Event suite) :=
      [.encrypt .initiator (env 1000 3) [10] [], .encrypt .initiator (env 1001 4) [11] [],
        .deliver 0 (env 1002 5), .deliver 1 (env 1003 6),
        .encrypt .responder (env 1004 7) [20] [], .deliver 2 (env 1005 8),
        .deliver 0 (env 1006 9), .encrypt .responder (env 1007 10) [21] [],
        .deliver 3 (env 1008 11)]
    Runs.Guarded (step (withHeaders config true)) InOrder (world true) es ∧
    (world true).outcomes (withHeaders config true) es =
      (world true).outcomes (withHeaders config false) es := by
  intro config es
  refine (and_iff_left_of_imp fun hes => ?_).mpr (by decide +kernel)
  exact headers_transparent kdf correctAead committingAead
    headersApart_symbolic config secret _ (world_matched true) es hes

/-- Two messages of which the second arrives first: accepted without header encryption, lost
with it. -/
theorem headers_swapped_differ :
    let config := fun _ : HandshakeRole => config true
    let es : List (Event suite) :=
      [.encrypt .initiator (env 1000 3) [10] [], .encrypt .initiator (env 1001 4) [11] [],
        .deliver 1 (env 1002 5)]
    (world true).Matched config secret ∧
    (world true).outcomes (withHeaders config false) es = [none, none, some (some [11])] ∧
    (world true).outcomes (withHeaders config true) es = [none, none, some none] := by
  refine ⟨world_matched true, ?_, ?_⟩ <;> decide +kernel

end World

end Sibna
