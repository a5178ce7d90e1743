import Sibna.HeaderEncryption
import Sibna.InStep.Runs
import Sibna.Ratchet.Room

/-!
# Expired keys and clock tolerance

The cache of a session holds bare keys, and nothing leaves it for its age. A header may be 300
seconds ahead of the receiver's clock, the encryptor's own timestamp only 30.
-/

namespace Sibna

open DoubleRatchetSession Symbolic

variable {S : Suite}

def maxMessageKeyAgeSecs : Nat := 86400

/-- `SkippedMessageKey::is_expired`; without a clock the key counts as new. -/
def isExpired (now : Option Nat) (createdAt : Nat) : Bool :=
  now.getD createdAt > createdAt + maxMessageKeyAgeSecs

structure TimedWorld (S : Suite) where
  world : World S
  createdAt : HandshakeRole → Bytes32 × Nat → Nat

namespace TimedWorld

def initial (w : World S) : TimedWorld S := ⟨w, fun _ _ => 0⟩

section
variable (w : TimedWorld S)

def refused (env : Env S) : TimedWorld S :=
  { w with world := { w.world with scalars := env.newLocal :: w.world.scalars } }

def stamped (p : HandshakeRole) (env : Env S) : Bytes32 × Nat → Nat := fun tag =>
  if ((w.world.session p).skippedMessageKeys.lookup tag).isSome then w.createdAt p tag
  else (env.clock.read .touch).getD 0

section
variable (config : HandshakeRole → Config) (w : TimedWorld S)

def deliver (i : Nat) (env : Env S) : TimedWorld S :=
  match w.world.sent[i]? with
  | none => w.refused env
  | some m =>
    match (decryptMessage (config m.sender.peer) env (w.world.session m.sender.peer)
        m.encrypted.wire m.associatedData).1 with
    | .error _ => w.refused env
    | .ok _ =>
      { world := w.world.step config (.deliver i env)
        createdAt := Function.update w.createdAt m.sender.peer (w.stamped m.sender.peer env) }

def step : Event S → TimedWorld S
  | .deliver i env => w.deliver config i env
  | e => { w with world := w.world.step config e }

abbrev run (es : List (Event S)) : TimedWorld S :=
  Runs.exec (step config) w es

end

def unexpired (p : HandshakeRole) (env : Env S) : Nat :=
  ((w.world.session p).skippedMessageKeys.entries.filter fun e =>
    !isExpired (env.clock.read .touch) (w.createdAt p e.1)).length

/-- What the specification asks of a delivery: inside the windows, and room beside the keys that
have not expired. -/
def Expected (env : Env S) (m : Sent S) : Prop :=
  inWindow env m.encrypted.message = true ∧
    w.unexpired m.sender.peer env + keysToSkip (w.world.session m.sender.peer) m.header ≤
      (w.world.session m.sender.peer).maxSkip
  deriving Decidable

def Fits (w : World S) (m : Sent S) : Prop := HasRoom (w.session m.sender.peer) m.header
  deriving Decidable

/-- Random scalars are new, a rotation happens only while the root keys are equal, no delivery
overflows the sum of its receiver, and an expected first delivery fits and announces what is
missing of the chain before. -/
def Tolerable : Event S → Prop
  | .encrypt p env _ _ => env.newLocal ∉ w.world.scalars ∧
      (mustRotate env (w.world.session p) = true →
        (w.world.session p).rootKey = (w.world.session p.peer).rootKey)
  | .deliver i env => env.newLocal ∉ w.world.scalars ∧
      ∀ m ∈ w.world.sent[i]?, SumFits (w.world.session m.sender.peer) ∧
        (i ∉ w.world.delivered → w.Expected env m → Fits w.world m ∧ w.world.Announces m)
  | .inject _ _ _ _ => False

end

section
variable {config : HandshakeRole → Config} {w : World S} {env : Env S} {i : Nat} {m : Sent S}

section
variable (hA : S.CorrectAead) (ho : ∀ p, (config p).enableHeaderEncryption = false) (hw : w.InStep)
  (hh : w.Honest)
include hA ho hw hh

lemma decrypts_of_fits (hm : w.sent[i]? = some m) (hi : i ∉ w.delivered)
    (hwi : inWindow env m.encrypted.message = true) (hf : Fits w m) :
    ∃ t', decryptMessage (config m.sender.peer) env (w.session m.sender.peer) m.encrypted.wire
      m.associatedData = (.ok ⟨m.encrypted.message, m.key, m.plaintext⟩, t') := by
  have hme := List.mem_of_getElem? hm
  have hg := hw.genuine m hme
  rw [hw.decryptMessage_sent hme hA ho hh]
  cases hw.pending i m hm hi with
  | held hhe => exact ⟨_, hhe.accepted hA hg hwi⟩
  | due hd => exact ⟨_, hd.accepted hA (hw.regular _).behind hg hwi hf⟩
  | coming hc _ _ =>
    exact ⟨_, hc.accepted hA (hw.announced_le_receiving hme) hg hwi hf⟩

lemma fits_of_decrypts (hca : ∀ p, Capped (w.session p)) (hm : w.sent[i]? = some m)
    (hi : i ∉ w.delivered) {d : Decrypted S} {t' : DoubleRatchetState S}
    (hok : decryptMessage (config m.sender.peer) env
      (w.session m.sender.peer) m.encrypted.wire m.associatedData = (.ok d, t'))
    : inWindow env m.encrypted.message = true ∧ Fits w m := by
  have hme := List.mem_of_getElem? hm
  rw [hw.decryptMessage_sent hme hA ho hh] at hok
  refine accepted_window_room (hw.genuine m hme) ?_ (hw.announced_le_receiving hme)
    (hw.regular _).behind (hca _) hok
  cases hw.pending i m hm hi with
  | held hhe => exact .inl hhe
  | due hd => exact .inr (.inl ⟨_, hd⟩)
  | coming hc _ _ => exact .inr (.inr ⟨_, _, hc⟩)

end

end

structure Bounded (K : S.SymbolicKdf) (w : TimedWorld S) : Prop where
  sync : w.world.Sync K
  capped : ∀ p, Capped (w.world.session p)

section
variable {K : S.SymbolicKdf} {config : HandshakeRole → Config} {w : TimedWorld S}

section
variable (D : S.SymbolicDh) (hA : S.CorrectAead) (hC : S.CommittingAead)
include D hA hC

lemma Bounded.refused (ho : ∀ p, (config p).enableHeaderEncryption = false) (h : w.Bounded K)
    {env : Env S} (hx : env.newLocal ∉ w.world.scalars) : (w.refused env).Bounded K := by
  have hn : w.world.sent[w.world.sent.length]? = none := List.getElem?_eq_none le_rfl
  have hs : w.world.step config (.deliver w.world.sent.length env) = (w.refused env).world := by
    simp only [World.step, World.act, hn]
    rfl
  refine ⟨?_, h.capped⟩
  rw [← hs]
  refine World.sync_step D hA hC ho w.world _ h.sync ⟨hx, ?_⟩
  intro m hm
  cases hn.symm.trans hm

lemma Bounded.encrypt (ho : ∀ p, (config p).enableHeaderEncryption = false) (h : w.Bounded K)
    {p : HandshakeRole} {env : Env S} {pl ad : Bytes}
    (he : w.Tolerable (.encrypt p env pl ad)) :
    (w.step config (.encrypt p env pl ad)).Bounded K := by
  refine ⟨World.sync_step D hA hC ho w.world _ h.sync he, ?_⟩
  rw [HandshakeRole.forall_iff p]
  constructor
  · have hse : ((w.step config (.encrypt p env pl ad)).world.session p) = _ :=
      World.send_session_self config w.world p env pl ad
    rw [hse]
    exact (h.capped p).encryptMessage rfl
  · have hp : ((w.step config (.encrypt p env pl ad)).world.session p.peer) = _ :=
      World.send_session_ne config w.world (HandshakeRole.peer_ne p) env pl ad
    rw [hp]
    exact h.capped p.peer

lemma Bounded.deliver (hof : ∀ p, (config p).enableHeaderEncryption = false) (h : w.Bounded K)
    {i : Nat} {env : Env S} (he : w.Tolerable (.deliver i env)) :
    (w.deliver config i env).Bounded K := by
  unfold TimedWorld.deliver
  split
  · exact h.refused D hA hC hof he.1
  rename_i m hm
  split
  · exact h.refused D hA hC hof he.1
  rename_i hd
  generalize ho : decryptMessage (config m.sender.peer) env (w.world.session m.sender.peer)
    m.encrypted.wire m.associatedData = o at hd
  obtain ⟨r, t'⟩ := o
  cases hd
  have hi : i ∉ w.world.delivered := by
    intro hi
    obtain ⟨e, her⟩ := h.sync.replay_refused hA hC config env hm hi
    cases ho.symm.trans her
  obtain ⟨hw, hf⟩ :=
    fits_of_decrypts hA hof h.sync.inStep h.sync.honest h.capped hm hi ho
  -- what is accepted was expected, since the unexpired keys are among the cached ones
  have hep : w.Expected env m :=
    ⟨hw, (Nat.add_le_add_right ((List.length_filter_le _ _)) _).trans hf.1⟩
  obtain ⟨hsu, hto⟩ := he.2 m hm
  refine ⟨World.sync_step D hA hC hof w.world _ h.sync ⟨he.1, ?_⟩, ?_⟩
  · intro m' hm'
    cases hm.symm.trans hm'
    exact ⟨hsu, fun _ => ⟨⟨hw, hf⟩, (hto hi hep).2⟩⟩
  simp only [World.step, World.act, hm, World.receive_ok ho]
  rw [HandshakeRole.forall_iff m.sender.peer]
  constructor
  · rw [World.setSession_self]
    exact (h.capped _).decryptMessage ho
  · rw [World.setSession_ne _ (HandshakeRole.peer_ne _)]
    exact h.capped _

lemma bounded_step (ho : ∀ p, (config p).enableHeaderEncryption = false) (w : TimedWorld S)
    (e : Event S) (h : w.Bounded K) (he : w.Tolerable e) : (w.step config e).Bounded K := by
  cases e with
  | encrypt p env pl ad => exact h.encrypt D hA hC ho he
  | deliver i env => exact h.deliver D hA hC ho he
  | inject p env me ad => exact absurd he id

end

end

lemma bounded_matched (K : S.SymbolicKdf) {config : HandshakeRole → Config} {se : Bytes32}
    {w : World S} (h : w.Matched config se) : (initial w).Bounded K := by
  refine ⟨World.sync_matched K h, ?_⟩
  intro p
  obtain ⟨a, -, b, -, cl, now, hs⟩ := h.session_eq p
  change Capped (w.session p)
  rw [hs]
  exact Nat.zero_le _

/-- Two matched sessions without header encryption, over any losses: when a delivery is one the
specification lets the receiver take, it is accepted exactly if it fits beside all cached keys,
expired ones included, and does not overflow the sum of `skip_message_keys`. -/
theorem expected_delivery_iff (K : S.SymbolicKdf) (D : S.SymbolicDh) (hA : S.CorrectAead)
    (hC : S.CommittingAead) (config : HandshakeRole → Config)
    (hoff : ∀ p, (config p).enableHeaderEncryption = false) (secret : Bytes32) (w : World S)
    (hw : w.Matched config secret) (es : List (Event S))
    (hes : Runs.Guarded (step config) Tolerable (initial w) es) (i : Nat) (env : Env S)
    (m : Sent S) (hm : ((initial w).run config es).world.sent[i]? = some m)
    (hi : i ∉ ((initial w).run config es).world.delivered)
    (hexpected : ((initial w).run config es).Expected env m) :
    ((initial w).run config es).world.delivery config i env = some (.ok m.plaintext) ↔
      Fits ((initial w).run config es).world m := by
  have hrun := hes.invariant (fun w e => bounded_step D hA hC hoff w e) (bounded_matched K hw)
  rw [World.delivery, hm, Option.map_some, Option.some.injEq]
  constructor
  · intro hok
    generalize ho :
      decrypt (config m.sender.peer) env _ m.encrypted.wire m.associatedData = o at hok
    obtain ⟨r, t'⟩ := o
    cases hok
    obtain ⟨d, hd, -⟩ := map_ok ho
    exact (fits_of_decrypts hA hoff hrun.sync.inStep hrun.sync.honest hrun.capped hm hi hd).2
  · intro hfits
    obtain ⟨t', hok⟩ := decrypts_of_fits hA hoff hrun.sync.inStep
      hrun.sync.honest hm hi hexpected.1 hfits
    rw [decrypt, hok]
    rfl

instance [DecidableEq S.Key] [DecidableEq S.Scalar] (w : TimedWorld S) :
    (e : Event S) → Decidable (w.Tolerable e)
  | .encrypt .. => inferInstanceAs (Decidable (_ ∧ (_ → _)))
  | .deliver .. => inferInstanceAs (Decidable (_ ∧ ∀ m ∈ _, _ ∧ (_ → _ → _)))
  | .inject .. => instDecidableFalse

theorem late_delivery_fits :
    let config := fun _ : HandshakeRole => (⟨2, false⟩ : Config)
    let es : List (Event suite) :=
      [.encrypt .initiator (env 1001 3) [10] [], .encrypt .initiator (env 1002 4) [11] [],
        .encrypt .initiator (env 1003 5) [12] [], .deliver 2 (env 1004 6)]
    let w := (initial (skippingWorld 2)).run config es
    w.world.delivery config 0 (env 4600 7) = some (.ok [10]) := by
  intro config es w
  have hm : w.world.sent[0]?.map Sent.plaintext = some [10] := by decide +kernel
  obtain ⟨m, hm, hplain⟩ := Option.map_eq_some_iff.mp hm
  have hfacts : ∀ m ∈ w.world.sent[0]?, w.Expected (env 4600 7) m ∧ Fits w.world m := by
    decide +kernel
  obtain ⟨hexpected, hfits⟩ := hfacts m hm
  rw [← hplain]
  subst w
  exact (expected_delivery_iff kdf dh correctAead committingAead
    config (fun _ => rfl) secret _ (skippingWorld_matched 2) es (by decide +kernel) 0 _
    m hm (by decide +kernel) hexpected).mpr hfits

/-- Two messages are lost for good and their keys fill the cache. A day later, after an answer,
the next message that overtakes another one is refused: the expired keys still count. -/
theorem expired_keys_refuse_delivery :
    let config := fun _ : HandshakeRole => (⟨2, false⟩ : Config)
    let es : List (Event suite) :=
      [.encrypt .initiator (env 1001 3) [10] [], .encrypt .initiator (env 1002 4) [11] [],
        .encrypt .initiator (env 1003 5) [12] [], .deliver 2 (env 1004 6),
        .encrypt .responder (env 99000 7) [20] [], .deliver 3 (env 99001 8),
        .encrypt .initiator (env 99002 9) [13] [],
        .encrypt .initiator (env 99003 10) [14] []]
    let w := (initial (skippingWorld 2)).run config es
    Runs.Guarded (step config) Tolerable (initial (skippingWorld 2)) es ∧
    (∀ m ∈ w.world.sent[5]?, w.Expected (env 99004 11) m) ∧
    w.unexpired .responder (env 99004 11) = 0 ∧
    w.world.delivery config 5 (env 99004 11) =
      some (.error .maxSkippedMessagesExceeded) := by
  decide +kernel

end TimedWorld

end Sibna

namespace Sibna.TimedWorld

open DoubleRatchetSession World Symbolic

variable {S : Suite}

def plain (w : TimedWorld S) : TimedWorld S := { w with world := w.world.plain }

section
variable {K : S.SymbolicKdf} {config : HandshakeRole → Config} {w : TimedWorld S}

lemma sent_plain (w : World S) (i : Nat) : w.plain.sent[i]? = w.sent[i]?.map Sent.plain :=
  List.getElem?_map

lemma announces_plain {w : World S} {m : Sent S} (h : w.Announces m) :
    w.plain.Announces m.plain := by
  intro hn hno e he hu hse hr
  have hz : w.plain.sent.zipIdx = w.sent.zipIdx.map (Prod.map Sent.plain id) := List.zipIdx_map
  rw [hz] at he
  obtain ⟨e', he', rfl⟩ := List.mem_map.mp he
  exact h hn hno e' he' hu hse hr

lemma tolerable_plain {e : Event S} (h : w.Tolerable e) : w.plain.Tolerable e := by
  cases e with
  | encrypt | inject => exact h
  | deliver i env =>
    refine ⟨h.1, ?_⟩
    intro m hm
    rw [plain, sent_plain] at hm
    obtain ⟨m', hm', rfl⟩ := Option.map_eq_some_iff.mp hm
    obtain ⟨hsu, hto⟩ := h.2 m' hm'
    exact ⟨hsu, fun hi hep => ⟨(hto hi hep).1, announces_plain (hto hi hep).2⟩⟩

lemma lockstep_step (e : Event S) (hw : w.world.Lockstep K) :
    (w.step (withHeaders config true) e).world.Lockstep K := by
  have hre : ∀ env, (w.refused env).world.Lockstep K :=
    fun env => { hw with }
  cases e with
  | encrypt | inject => exact World.lockstep_step w.world _ hw
  | deliver i env =>
    simp only [step, deliver]
    split
    · exact hre env
    · split
      · exact hre env
      · exact World.lockstep_step w.world _ hw

section
variable {i : Nat} {env : Env S} {m : Sent S}

lemma deliver_error {e : ProtocolError} (hm : w.world.sent[i]? = some m)
    (h : (decryptMessage (config m.sender.peer) env (w.world.session m.sender.peer)
      m.encrypted.wire m.associatedData).1 = .error e) :
        w.deliver config i env = w.refused env := by
  simp only [deliver, hm, h]

lemma deliver_ok {d : Decrypted S} (hm : w.world.sent[i]? = some m)
    (h : (decryptMessage (config m.sender.peer) env (w.world.session m.sender.peer)
      m.encrypted.wire m.associatedData).1 = .ok d) :
    w.deliver config i env =
      { world := w.world.step config (.deliver i env)
        createdAt := Function.update w.createdAt m.sender.peer (w.stamped m.sender.peer env) } := by
  simp only [deliver, hm, h]

end

lemma step_plain (hA : S.CorrectAead) (hC : S.CommittingAead) (hS : S.HeadersApart)
    (config : HandshakeRole → Config) (hw : w.world.Lockstep K) {e : Event S}
    (he : w.world.InOrder e) :
    (w.step (withHeaders config true) e).plain = w.plain.step (withHeaders config false) e := by
  have hwo := (hw.step_plain hA hC hS config he).1
  cases e with
  | encrypt p env pl ad => exact congrArg (fun v => { w with world := v }) hwo
  | inject p env me ad => exact absurd he id
  | deliver i env =>
    have hse := sent_plain w.world i
    cases hm : w.world.sent[i]? with
    | none =>
      simp only [step, deliver, plain, hm, hse]
      rfl
    | some m =>
      rw [hm, Option.map_some] at hse
      have hr := (hw.decrypt_plain hA hC hS config he hm).1
      have hpl : w.plain.world.sent[i]? = some m.plain := hse
      cases hon : (decryptMessage (withHeaders config true m.sender.peer) env
          _ m.encrypted.wire m.associatedData).1 with
      | error e =>
        cases ho : (decryptMessage (withHeaders config false m.sender.peer) env
            (w.world.session m.sender.peer) m.encrypted.message.toBytes m.associatedData).1 with
        | error e' =>
          exact (congrArg plain (deliver_error hm hon)).trans (deliver_error hpl ho).symm
        | ok d =>
          rw [hon, ho] at hr
          cases hr
      | ok d =>
        cases ho : (decryptMessage (withHeaders config false m.sender.peer) env
            _ m.encrypted.message.toBytes m.associatedData).1 with
        | error e' =>
          rw [hon, ho] at hr
          cases hr
        | ok d' =>
          have hb := congrArg (fun v => TimedWorld.mk v
            (Function.update w.createdAt m.sender.peer (w.stamped m.sender.peer env))) hwo
          exact ((congrArg plain (deliver_ok hm hon)).trans hb).trans (deliver_ok hpl ho).symm

lemma run_plain (hA : S.CorrectAead) (hC : S.CommittingAead) (hS : S.HeadersApart)
    (hw : w.world.Lockstep K) (es : List (Event S))
    (hes : Runs.Guarded (step (withHeaders config true))
      (fun w e => w.Tolerable e ∧ w.world.InOrder e) w es) :
    (w.run (withHeaders config true) es).plain = w.plain.run (withHeaders config false) es ∧
      (w.run (withHeaders config true) es).world.Lockstep K ∧
      Runs.Guarded (step (withHeaders config false)) Tolerable w.plain es := by
  induction es generalizing w with
  | nil => exact ⟨rfl, hw, trivial⟩
  | cons e es ih =>
    obtain ⟨⟨hto, ho⟩, hre⟩ := hes
    obtain ⟨hr, hl, hg⟩ := ih (lockstep_step e hw) hre
    rw [step_plain hA hC hS config hw ho] at hr hg
    exact ⟨hr, hl, tolerable_plain hto, hg⟩

end

def Next (w : World S) (m : Sent S) : Prop :=
  keysToSkip (w.session m.sender.peer) m.header = 0
  deriving Decidable

lemma Bounded.delivery_window {K : S.SymbolicKdf} (hA : S.CorrectAead)
    {config : HandshakeRole → Config} (hof : ∀ p, (config p).enableHeaderEncryption = false)
    {w : TimedWorld S} (h : w.Bounded K) {i : Nat} {env : Env S} {m : Sent S}
    (hm : w.world.sent[i]? = some m) (hi : i ∉ w.world.delivered) (hn : Next w.world m) :
    w.world.outcome config (.deliver i env) =
      some (if inWindow env m.encrypted.message &&
          decide (Addable (w.world.session m.sender.peer) m.header) then some m.plaintext
        else none) := by
  have hf : Addable (w.world.session m.sender.peer) m.header ↔ Fits w.world m := by
    rw [Fits, HasRoom, hn]
    exact (and_iff_right (h.capped _)).symm
  simp only [hf]
  simp only [outcome, delivery, hm, Option.map_some, decrypt_toOption]
  cases hw : inWindow env m.encrypted.message && decide (Fits w.world m) with
  | true =>
    rw [Bool.and_eq_true, decide_eq_true_eq] at hw
    obtain ⟨t', hok⟩ := decrypts_of_fits hA hof h.sync.inStep h.sync.honest hm hi hw.1 hw.2
    rw [hok]
    rfl
  | false =>
    cases ho : decryptMessage (config m.sender.peer) env (w.world.session m.sender.peer)
        m.encrypted.wire m.associatedData with
    | mk r t' =>
      cases r with
      | error e => rfl
      | ok d =>
        have hin := fits_of_decrypts hA hof h.sync.inStep h.sync.honest h.capped hm hi ho
        rw [← decide_eq_true_eq (p := Fits _ _), ← Bool.and_eq_true, hw] at hin
        cases hin

/-- The next message is opened exactly if its header is from a day before to 300 seconds after the
receiver's clock, its inner timestamp is no more than 30 seconds ahead of it, and it does not
overflow the sum of `skip_message_keys`. With encrypted
headers the message and those before it must be ones whose header can be read. -/
theorem next_delivery_iff_windows (K : S.SymbolicKdf) (D : S.SymbolicDh) (hA : S.CorrectAead)
    (hC : S.CommittingAead) (hS : S.HeadersApart) (config : HandshakeRole → Config) (on : Bool)
    (secret : Bytes32) (w : World S) (hw : w.Matched config secret) (es : List (Event S))
    (hes : Runs.Guarded (step (withHeaders config on))
      (fun w e => w.Tolerable e ∧ (on = true → w.world.InOrder e)) (initial w) es)
    (i : Nat) (env : Env S) (m : Sent S)
    (hm : ((initial w).run (withHeaders config on) es).world.sent[i]? = some m)
    (hi : i ∉ ((initial w).run (withHeaders config on) es).world.delivered)
    (hnext : Next ((initial w).run (withHeaders config on) es).world m)
    (hread : on = true → ((initial w).run (withHeaders config on) es).world.InOrder
      (.deliver i env)) :
    ((initial w).run (withHeaders config on) es).world.outcome (withHeaders config on)
        (.deliver i env) =
      some (if within (env.clock.read .validate) m.header.timestamp 300 86400 &&
          within (env.clock.read .encryptor)
            (Encryptor.innerTimestamp m.encrypted.message.ciphertext) 30 86400 &&
          decide (Addable (((initial w).run (withHeaders config on) es).world.session m.sender.peer)
            m.header) then
        some m.plaintext else none) := by
  have hbounded : ∀ es, Runs.Guarded (step (withHeaders config false)) Tolerable (initial w) es →
      ((initial w).run _ es).Bounded K := fun es hes =>
    hes.invariant (fun w e => bounded_step D hA hC (fun _ => rfl) w e) (bounded_matched K hw)
  cases on with
  | false =>
    have hguarded := hes.mono fun _ _ h => h.1
    exact (hbounded es hguarded).delivery_window hA (fun _ => rfl) hm hi hnext
  | true =>
    have hguarded : Runs.Guarded (step (withHeaders config true))
        (fun w e => w.Tolerable e ∧ w.world.InOrder e) _ es :=
      hes.mono fun _ _ h => ⟨h.1, h.2 rfl⟩
    obtain ⟨hrun, hlock, htolerable⟩ :=
      run_plain hA hC hS (lockstep_matched K hw) es hguarded
    have hplain : (initial w).plain = initial w := by
      rw [plain, initial, World.plain, hw.sent]
      exact congrArg (fun l => initial { w with sent := l }) hw.sent.symm
    rw [hplain] at hrun htolerable
    have hboth := hbounded es htolerable
    rw [← hrun] at hboth
    have hmplain : ((initial w).run (withHeaders config true) es).plain.world.sent[i]? =
        some m.plain := by
      rw [plain, sent_plain, hm, Option.map_some]
    rw [(hlock.step_plain hA hC hS config (hread rfl)).2]
    exact hboth.delivery_window (m := m.plain) hA (fun _ => rfl) hmplain hi hnext

theorem next_delivery_fast_clock :
    let config := fun _ : HandshakeRole => config true
    let es : List (Event suite) :=
      [.encrypt .initiator (env 1020 3) [10] [], .deliver 0 (env 1001 4),
        .encrypt .initiator (env 1022 5) [11] []]
    let w := ((initial (Symbolic.world true)).run (withHeaders config true) es).world
    w.outcome (withHeaders config true) (.deliver 1 (env 1003 6)) = some (some [11]) := by
  intro config es w
  obtain ⟨m, hm⟩ : ∃ m, w.sent[1]? = some m := Option.isSome_iff_exists.mp (by decide +kernel)
  have hfacts : Runs.Guarded (step (withHeaders config true))
      (fun w e => w.Tolerable e ∧ (true = true → w.world.InOrder e)) (initial (Symbolic.world true))
        es ∧
      ∀ m ∈ w.sent[1]?, Next w m ∧
        (if within (some 1003) m.header.timestamp 300 86400 &&
            within (some 1003) (Encryptor.innerTimestamp m.encrypted.message.ciphertext) 30 86400 &&
            decide (Addable (w.session m.sender.peer) m.header)
          then some m.plaintext else none) = some [11] := by
    decide +kernel
  obtain ⟨hes, hlast⟩ := hfacts
  obtain ⟨hnext, hplain⟩ := hlast m hm
  rw [← hplain]
  exact next_delivery_iff_windows kdf dh correctAead
    committingAead headersApart_symbolic config true secret _
    (world_matched true) es hes 1 _ m hm (by decide +kernel) hnext
    (fun _ => by decide +kernel)

/-- The first message of a sender whose clock is 100 seconds fast is inside the window of the
header, and refused. -/
theorem next_delivery_refused :
    let config := fun _ : HandshakeRole => config false
    let w := (initial (Symbolic.world false)).run config
      [.encrypt .initiator (env 1100 3) [10] []]
    (Symbolic.world false).Matched config secret ∧
    (∀ m ∈ w.world.sent[0]?, Next w.world m ∧
      within ((env 1000 4).clock.read .validate) m.header.timestamp 300 86400 = true) ∧
    w.world.delivery config 0 (env 1000 4) = some (.error .invalidCiphertext) := by
  intro config w
  exact ⟨world_matched false, by decide +kernel⟩

end Sibna.TimedWorld
