import Sibna.Lib.Runs
import Sibna.Ratchet.FailedEncryption
import Sibna.Ratchet.Ledger

/-!
# The announced length of the previous chain

The ratchet of `decrypt` records the length of the chain it replaces, the rotation of `encrypt` does
not.
-/

namespace Sibna.DoubleRatchetSession

open Runs

variable {S : Suite}

inductive SendingOp (S : Suite) where
  | encrypt (env : Env S) (plaintext associatedData : Bytes)
  | decrypt (env : Env S) (message associatedData : Bytes)
  | reserveNonces (env : Env S) (count : Nat)
  | jumpToReservation (env : Env S)

structure Announced where
  header : RatchetHeader
  previous : List RatchetHeader

structure SendingHistory (S : Suite) where
  session : DoubleRatchetState S
  current : List RatchetHeader
  previous : List RatchetHeader
  written : List Announced

namespace SendingHistory

def initial (s : DoubleRatchetState S) : SendingHistory S := ⟨s, [], [], []⟩

def turn (w : SendingHistory S) : SendingHistory S :=
  { w with previous := w.current, current := [] }

def write (w : SendingHistory S) (header : RatchetHeader) : SendingHistory S :=
  { w with
    current := w.current ++ [header]
    written := w.written ++ [⟨header, w.previous⟩] }

end SendingHistory

def replacesChain (env : Env S) (s : DoubleRatchetState S) : Bool :=
  mustRotate env s && s.dhRemote.isSome

def turnedBy (s : DoubleRatchetState S) (header : RatchetHeader) : Bool :=
  (s.skippedMessageKeys.lookup header.tag).isNone && needsRatchet s header.dhPublic

section
variable (config : Config) (w : SendingHistory S)

/-- The rotation comes after the two length checks of `encrypt` and before everything else. -/
def encryptStep (env : Env S) (plaintext ad : Bytes) : SendingHistory S :=
  let o := encryptMessage config env w.session plaintext ad
  let w :=
    if plaintext.length ≤ maxMessageSize ∧ ad.length ≤ maxAdLen ∧
      replacesChain env w.session = true then w.turn else w
  match o with
  | (.ok sent, s) => { w.write sent.message.header with session := s }
  | (.error _, s) => { w with session := s }

def decryptStep (env : Env S) (message ad : Bytes) : SendingHistory S :=
  match decryptMessage config env w.session message ad with
  | (.ok d, s) =>
    { (if turnedBy w.session d.message.header then w.turn else w) with session := s }
  | (.error _, s) => { w with session := s }

def sendingStep : SendingOp S → SendingHistory S
  | .encrypt env plaintext ad => encryptStep config w env plaintext ad
  | .decrypt env message ad => decryptStep config w env message ad
  | .reserveNonces env count => { w with session := reserveNonces env w.session count }
  | .jumpToReservation env => { w with session := jumpToReservation env w.session }

/-- A call that finds a key on the sending chain does not fail afterwards. -/
def Completing (env : Env S) (s : DoubleRatchetState S) (plaintext ad : Bytes) : Prop :=
  ∀ a c, plaintext.length ≤ maxMessageSize → ad.length ≤ maxAdLen →
    (rotateIfNeeded env s).dhLocal = some a → (rotateIfNeeded env s).sendingChain = some c →
    c.index < c.reservedUntil → c.index < c.maxMessages →
    Sealable env ⟨S.publicKey a, c, messageKeyAt c.key 0, c.index, mustRotate env s⟩ plaintext ad ∧
    (config.enableHeaderEncryption = true → mustRotate env s = false → env.headerNonce.isSome)

/-- A rotation replaces a chain only if `previous_counter` already is its length, no call fails
once it has taken a key, and the index is not moved over reserved numbers. -/
def Accounted : SendingOp S → Prop
  | .encrypt env plaintext ad =>
    (replacesChain env w.session = true → ∀ c, w.session.sendingChain = some c →
      c.index = w.session.previousCounter) ∧
    Completing config env w.session plaintext ad
  | .decrypt _ _ _ => True
  | .reserveNonces _ _ => True
  | .jumpToReservation _ => ∀ c, w.session.sendingChain = some c → c.reservedUntil ≤ c.index

end

section
variable {config : Config} {w : SendingHistory S} {env : Env S} {s : DoubleRatchetState S}
  {plaintext ad : Bytes}

lemma completing_of_ok (h : (encrypt config env s plaintext ad).1.toOption.isSome) :
    Completing config env s plaintext ad := by
  intro a c _ _ ha hc hr hm
  cases ho : encryptMessage config env s plaintext ad with
  | mk r s' =>
    cases r with
    | error e =>
      rw [encrypt, ho] at h
      cases h
    | ok sent =>
      obtain ⟨s₁, hta, hb, hf, -⟩ := encryptMessage_ok ho
      rw [takeSendKey_of_chain ha hc hr hm, Prod.mk.injEq, Except.ok.injEq] at hta
      rw [← hta.1] at hb hf
      exact ⟨.of_buildMessage hb, frameMessage_nonce hf⟩

/-- The sending index and `previous_counter` count the headers of the two chains. -/
structure Counted (w : SendingHistory S) : Prop where
  previousCounter : w.session.previousCounter = w.previous.length
  index : ∀ c, w.session.sendingChain = some c → c.index = w.current.length
  unused : w.session.sendingChain = none → w.current = [] ∧ w.session.previousCounter = 0
  current_lt : ∀ h ∈ w.current, h.messageNumber < w.current.length
  previous_lt : ∀ h ∈ w.previous, h.messageNumber < w.previous.length
  written : ∀ r ∈ w.written, r.header.previousChainLength = r.previous.length ∧
    ∀ h ∈ r.previous, h.messageNumber < r.header.previousChainLength

lemma counted_created (h : Created s) : Counted (SendingHistory.initial s) := by
  have hst : s.previousCounter = 0 ∧ ∀ c, s.sendingChain = some c → c.index = 0 := by
    rcases h with ⟨config, l, now, rfl⟩ | ⟨se, l, r, config, role, cl, h⟩
    · exact ⟨rfl, nofun⟩
    obtain ⟨-, now, -, rfl⟩ := fromSharedSecret_ok h
    refine ⟨rfl, ?_⟩
    intro c hc
    cases role with
    | initiator =>
      cases hc
      rfl
    | responder => cases hc
  exact {
    previousCounter := hst.1
    index := hst.2
    unused := fun _ => ⟨rfl, hst.1⟩
    current_lt := nofun
    previous_lt := nofun
    written := nofun }

lemma Counted.keep (h : Counted w) (hco : s.previousCounter = w.session.previousCounter)
    (hin : s.sendingChain.map ChainKey.index = w.session.sendingChain.map ChainKey.index) :
    Counted { w with session := s } where
  __ := h
  previousCounter := hco.trans h.previousCounter
  index := by
    intro c hc
    rw [hc, Option.map_some] at hin
    obtain ⟨c', hc', heq⟩ := Option.map_eq_some_iff.mp hin.symm
    exact heq.symm.trans (h.index c' hc')
  unused := by
    intro hn
    rw [hn, Option.map_none] at hin
    obtain ⟨hcu, hz⟩ := h.unused (Option.map_eq_none_iff.mp hin.symm)
    exact ⟨hcu, hco.trans hz⟩

lemma Counted.turn {w : SendingHistory S} {s : DoubleRatchetState S} {c : ChainKey S}
    (h : Counted w) (hco : s.previousCounter = w.current.length) (hc : s.sendingChain = some c)
    (hin : c.index = 0) : Counted { w.turn with session := s } where
  previousCounter := hco
  index := by
    intro c' hc'
    cases hc.symm.trans hc'
    exact hin
  unused := by
    intro hn
    cases hc.symm.trans hn
  current_lt := nofun
  previous_lt := h.current_lt
  written := h.written

lemma Counted.write {w : SendingHistory S} {s : DoubleRatchetState S} {c : ChainKey S}
    {he : RatchetHeader} (h : Counted w) (hc : w.session.sendingChain = some c)
    (hs : s.sendingChain = some (c.advance 1))
    (hco : s.previousCounter = w.session.previousCounter)
    (hnu : he.messageNumber = c.index)
    (han : he.previousChainLength = w.session.previousCounter) :
    Counted { w.write he with session := s } where
  previousCounter := hco.trans h.previousCounter
  index := by
    intro c' hc'
    cases hs.symm.trans hc'
    simp only [SendingHistory.write, ChainKey.advance, List.length_append, List.length_singleton,
      h.index c hc]
  unused := by
    intro hno
    cases hs.symm.trans hno
  current_lt := by
    intro h' hh'
    simp only [SendingHistory.write, List.length_append, List.length_singleton]
    rcases List.mem_append.mp hh' with ho | hn
    · have hlt := h.current_lt h' ho
      omega
    · rw [List.mem_singleton.mp hn, hnu, h.index c hc]
      omega
  previous_lt := h.previous_lt
  written := by
    intro r hr
    rcases List.mem_append.mp hr with ho | hn
    · exact h.written r ho
    rw [List.mem_singleton.mp hn]
    have hl := han.trans h.previousCounter
    refine ⟨hl, ?_⟩
    intro h' hh'
    exact (h.previous_lt h' hh').trans_eq hl.symm

lemma rotateIfNeeded_sending (h : replacesChain env s = false) :
    (rotateIfNeeded env s).sendingChain = s.sendingChain := by
  rw [rotateIfNeeded]
  split
  · rename_i hr
    rw [replacesChain, hr, Bool.true_and, Option.isSome_eq_false_iff,
      Option.isNone_iff_eq_none] at h
    rw [performDhRatchet_none h]
    rfl
  · rfl

lemma rotateIfNeeded_replaced (h : replacesChain env s = true) :
    ∃ c, (rotateIfNeeded env s).sendingChain = some c ∧ c.index = 0 := by
  obtain ⟨hro, hre⟩ := Bool.and_eq_true_iff.mp h
  obtain ⟨r, hr⟩ := Option.isSome_iff_exists.mp hre
  rw [rotateIfNeeded, if_pos hro, performDhRatchet_some hr]
  exact ⟨_, rfl, rfl⟩

lemma Counted.rotate {w : SendingHistory S} {env : Env S} (h : Counted w)
    (hr : replacesChain env w.session = true → ∀ c, w.session.sendingChain = some c →
      c.index = w.session.previousCounter) :
    Counted { (if replacesChain env w.session = true then w.turn else w) with
      session := rotateIfNeeded env w.session } := by
  split
  · rename_i hre
    obtain ⟨c, hc, hin⟩ := rotateIfNeeded_replaced hre
    refine h.turn ?_ hc hin
    rw [rotateIfNeeded_previousCounter]
    cases hs : w.session.sendingChain with
    | none =>
      obtain ⟨hcu, hz⟩ := h.unused hs
      rw [hz, hcu]
      rfl
    | some c' => rw [← hr hre c' hs, h.index c' hs]
  · rename_i hke
    refine h.keep (rotateIfNeeded_previousCounter env _) ?_
    rw [rotateIfNeeded_sending (Bool.eq_false_iff.mpr hke)]

lemma Counted.encrypt (h : Counted w)
    (hrt : replacesChain env w.session = true → ∀ c, w.session.sendingChain = some c →
      c.index = w.session.previousCounter)
    (hco : Completing config env w.session plaintext ad) :
    Counted (encryptStep config w env plaintext ad) := by
  have hro := h.rotate hrt
  unfold encryptStep
  cases ho : encryptMessage config env w.session plaintext ad with
  | mk r s =>
    cases r with
    | ok sent =>
      obtain ⟨s₁, hta, hb, -, rfl⟩ := encryptMessage_ok ho
      obtain ⟨a, c, -, hc, -, -, hsl, rfl⟩ := takeSendKey_ok hta
      obtain ⟨ts, -, hh, -⟩ := buildMessage_ok hb
      have hs := Sealable.of_buildMessage hb
      have had : ad.length ≤ maxAdLen := by
        have hle := hs.ad_le
        omega
      simp only [hs.plaintext_le, had, true_and]
      refine hro.write hc rfl rfl ?_ ?_
      · rw [hh, hsl]
      · rw [hh]
    | error e =>
      rcases encryptMessage_error ho with ⟨hsi, rfl⟩ | ⟨hp, had, hr⟩
      · rwa [if_neg (fun hc => by omega)]
      simp only [hp, had, true_and]
      rcases hr with hta | ⟨slot, s₁, hta, hl⟩
      · rwa [takeSendKey_error hta]
      -- a key was taken, so nothing was left to fail
      obtain ⟨a, c, ha, hc, hre, hma, rfl, -⟩ := takeSendKey_ok hta
      obtain ⟨hs, hn⟩ := hco a c hp had ha hc hre hma
      rcases hl with ⟨-, hb⟩ | ⟨-, m, hf⟩
      · obtain ⟨m, hm⟩ := hs.buildMessage s₁.previousCounter
        cases hm.symm.trans hb
      · obtain ⟨wire, hw⟩ := frameMessage_ok ⟨S.publicKey a, c, messageKeyAt c.key 0, c.index,
          mustRotate env w.session⟩ m hn
        cases hw.symm.trans hf

lemma decryptMessage_turned {s' : DoubleRatchetState S} {me : Bytes} {d : Decrypted S}
    (h : decryptMessage config env s me ad = (.ok d, s')) :
    (turnedBy s d.message.header = false ∧ s'.sendingChain = s.sendingChain ∧
      s'.previousCounter = s.previousCounter) ∨
    (turnedBy s d.message.header = true ∧ ∃ c, s'.sendingChain = some c ∧ c.index = 0 ∧
      s'.previousCounter = (s.sendingChain.map ChainKey.index).getD 0) := by
  obtain ⟨m, -, hpa⟩ := decryptMessage_ok h
  cases hmk : s.skippedMessageKeys.lookup m.header.tag with
  | some mk =>
    simp only [decryptParsed, hmk] at hpa
    split at hpa
    · cases hpa
    obtain ⟨rfl, -, -, rfl⟩ := openMessage_ok hpa
    refine .inl ⟨?_, rfl, rfl⟩
    rw [turnedBy, hmk]
    rfl
  | none =>
    rcases decryptParsed_ok hpa with ⟨mk, hm', -⟩ | ⟨s₁, c, s₂, hal, -, -, -, ho, rfl⟩
    · cases hmk.symm.trans hm'
    obtain ⟨rfl, -, -, rfl⟩ := openMessage_ok ho
    have htu : turnedBy s d.message.header = needsRatchet s d.message.header.dhPublic := by
      rw [turnedBy, hmk]
      rfl
    rw [htu]
    rcases alignReceiving_frame hal with ⟨hke, hn⟩ | ht
    · exact .inl ⟨hn, hke.sending, hke.previousCounter⟩
    · obtain ⟨k, hs⟩ := ht.sending
      exact .inr ⟨ht.needed, _, hs, rfl, ht.previousCounter⟩

lemma Counted.decrypt {me : Bytes} (h : Counted w) : Counted (decryptStep config w env me ad) := by
  unfold decryptStep
  cases ho : decryptMessage config env w.session me ad with
  | mk r s =>
    cases r with
    | error e =>
      obtain rfl := decryptMessage_error ho
      exact h
    | ok d =>
      rcases decryptMessage_turned ho with ⟨htu, hsn, hco⟩ | ⟨htu, hs⟩
      · simp only [htu]
        exact h.keep hco (congrArg _ hsn)
      obtain ⟨c, hc, hin, hco⟩ := hs
      simp only [htu]
      refine h.turn ?_ hc hin
      rw [hco]
      cases hse : w.session.sendingChain with
      | none => rw [(h.unused hse).1]; rfl
      | some c' => exact h.index c' hse

lemma Counted.step {op : SendingOp S} (h : Counted w) (hop : Accounted config w op) :
    Counted (sendingStep config w op) := by
  cases op with
  | encrypt env plaintext ad => exact h.encrypt hop.1 hop.2
  | decrypt env me ad => exact h.decrypt
  | reserveNonces env co =>
    have hk : (reserveNonces env w.session co).previousCounter = w.session.previousCounter ∧
        (reserveNonces env w.session co).sendingChain.map ChainKey.index =
          w.session.sendingChain.map ChainKey.index := by
      unfold reserveNonces
      split
      · exact ⟨rfl, rfl⟩
      · rename_i c hc
        rw [hc]
        exact ⟨rfl, rfl⟩
    exact h.keep hk.1 hk.2
  | jumpToReservation env =>
    have hk : jumpToReservation env w.session = w.session := by
      unfold jumpToReservation
      split
      · rfl
      · rename_i c hc
        rw [if_neg (Nat.not_lt.mpr (hop c hc))]
    exact h.keep (by rw [hk]) (by rw [hk])

/-- In a run whose steps all meet the condition, every header announces the number of messages
encrypted on the chain before its own, and they all have smaller numbers than that. -/
theorem header_announces_previous_chain (config : Config) (s : DoubleRatchetState S)
    (hs : Created s) (ops : List (SendingOp S))
    (hops : Guarded (sendingStep config) (Accounted config) (SendingHistory.initial s) ops) :
    ∀ r ∈ (exec (sendingStep config) (SendingHistory.initial s) ops).written,
      r.header.previousChainLength = r.previous.length ∧
        ∀ h ∈ r.previous, h.messageNumber < r.header.previousChainLength := by
  have hcounted := hops.invariant (fun w op hw hop => hw.step hop) (counted_created hs)
  exact hcounted.written

lemma accounted_of_ok (hke : replacesChain env w.session = false)
    (h : (encrypt config env w.session plaintext ad).1.toOption.isSome) :
    Accounted config w (.encrypt env plaintext ad) := by
  refine ⟨?_, completing_of_ok h⟩
  intro hre
  cases hke.symm.trans hre

end

open Symbolic

theorem header_announces_two :
    let config := config false
    let s := session false .initiator
    let first := encrypt config (env 1001 3) s [10] []
    let peer := (decrypt config (env 1003 5) (session false .responder)
      (sentBytes first) []).2
    let answer := encrypt config (env 1004 6) peer [20] []
    let ops : List (SendingOp suite) :=
      [.encrypt (env 1001 3) [10] [], .encrypt (env 1002 4) [11] [],
        .decrypt (env 1005 7) (sentBytes answer) [],
        .encrypt (env 1006 8) [12] []]
    let w := exec (sendingStep config) (SendingHistory.initial s) ops
    w.written.map (fun r => r.header.previousChainLength) = [0, 0, 2] ∧
    ∀ r ∈ w.written, r.header.previousChainLength = r.previous.length ∧
      ∀ h ∈ r.previous, h.messageNumber < r.header.previousChainLength := by
  refine ⟨by decide +kernel, ?_⟩
  apply header_announces_previous_chain
  · exact created_session false .initiator
  · refine ⟨accounted_of_ok ?_ ?_, accounted_of_ok ?_ ?_, trivial,
      accounted_of_ok ?_ ?_, trivial⟩ <;>
      decide +kernel

/-- A chain of one message, rotated after a day: the next header announces no message, the
receiver leaves the chain without the key of the one still under way, and refuses it. -/
theorem rotation_announces_nothing :
    let config := config false
    let s := session false .initiator
    let ops : List (SendingOp suite) :=
      [.encrypt (env 80000 3) [10] [], .encrypt (env 90000 4) [11] []]
    let w := exec (sendingStep config) (SendingHistory.initial s) ops
    let first := encrypt config (env 80000 3) s [10] []
    let second := encrypt config (env 90000 4) first.2 [11] []
    let peer := session false .responder
    let peer' := decrypt config (env 90001 5) peer (sentBytes second) []
    w.written.map (fun r => (r.header.previousChainLength, r.previous.length)) =
      [(0, 0), (0, 1)] ∧
    (decrypt config (env 90002 6) peer (sentBytes first) []).1 = .ok [10] ∧
    peer'.1 = .ok [11] ∧
    (decrypt config (env 90002 6) peer'.2 (sentBytes first) []).1.toOption = none := by
  decide +kernel

end Sibna.DoubleRatchetSession
