import Sibna.HeaderEncryption
import Sibna.InStep.Runs
import Sibna.Messaging

/-!
# From one context to the other

The receiver takes padding off every message, so without padding nothing gets through.
-/

namespace Sibna

open DoubleRatchetSession Runs

variable {S : Suite}

namespace DoubleRatchetSession

/-- Apart from the payload nothing is missing for an encryption: there is a key to send with, and
clock, random generator, key and associated data are in order. -/
def Ready (config : Config) (env : Env S) (s : DoubleRatchetState S) (ad : Bytes) : Prop :=
  ∃ slot s', takeSendKey env s = (.ok slot, s') ∧
    (∀ payload, payload ≠ [] → payload.length ≤ maxMessageSize → Sealable env slot payload ad) ∧
    (config.enableHeaderEncryption = true → slot.rotated = false → env.headerNonce.isSome)

lemma Ready.encryptMessage_iff {config : Config} {env : Env S} {s : DoubleRatchetState S}
    {pa ad : Bytes} (h : Ready config env s ad) :
    (∃ sent, (DoubleRatchetSession.encryptMessage config env s pa ad).1 = .ok sent) ↔ pa ≠ [] ∧
    pa.length ≤ maxMessageSize := by
  constructor
  · rintro ⟨sent, hsn⟩
    have hr : DoubleRatchetSession.encryptMessage config env s pa ad = (.ok sent, _) :=
      Prod.ext hsn rfl
    obtain ⟨s₁, -, hb, -⟩ := encryptMessage_ok hr
    obtain ⟨ts, -, -, -, -, hby⟩ := buildMessage_ok hb
    obtain ⟨hne, hle, -⟩ := Encryptor.encryptBytes_ok hby
    exact ⟨hne, hle⟩
  · rintro ⟨hne, hle⟩
    obtain ⟨slot, s', hta, hse, hn⟩ := h
    have hs := hse pa hne hle
    obtain ⟨m, hm⟩ := hs.buildMessage s'.previousCounter
    obtain ⟨wire, hw⟩ := frameMessage_ok slot m hn
    have had := Nat.le_trans (Nat.le_add_right _ 56) hs.ad_le
    refine ⟨⟨slot, m, wire⟩, ?_⟩
    simp only [DoubleRatchetSession.encryptMessage, (validateMessageForEncrypt_ok_iff _).mpr hle,
      (validateAssociatedData_ok_iff _).mpr had, hta, hm, hw]

end DoubleRatchetSession

namespace World

variable {K : S.SymbolicKdf} {w : World S} {config : HandshakeRole → Config} {headers : Bool}

def InTouch (headers : Bool) (w : World S) (e : Event S) : Prop :=
  w.Aligned e ∧ (headers = true → w.InOrder e)

/-- With header encryption, the world with plain headers is the one that is in step. -/
def Together (K : S.SymbolicKdf) (w : World S) : Bool → Prop
  | false => w.Sync K
  | true => w.plain.Sync K ∧ w.Lockstep K

lemma withHeaders_self (h : ∀ p, (config p).enableHeaderEncryption = headers) :
    withHeaders config headers = config := by
  funext p
  rw [withHeaders, ← h p]

lemma Aligned.plain {e : Event S} (h : w.Aligned e) : w.plain.Aligned e := by
  cases e with
  | encrypt | inject => exact h
  | deliver i env =>
    refine ⟨h.1, ?_⟩
    intro m hm
    have hse : ∀ j, w.plain.sent[j]? = w.sent[j]?.map Sent.plain := fun j => List.getElem?_map
    rw [hse] at hm
    obtain ⟨m₀, hm₀, rfl⟩ := Option.map_eq_some_iff.mp hm
    obtain ⟨hsu, hfi⟩ := h.2 m₀ hm₀
    refine ⟨hsu, fun hi => ?_⟩
    obtain ⟨hde, han⟩ := hfi hi
    refine ⟨hde, ?_⟩
    rintro hn hno ⟨m', j⟩ hj hu hsn hr
    rw [List.mem_zipIdx_iff_getElem?, hse] at hj
    obtain ⟨m₁, hm₁, rfl⟩ := Option.map_eq_some_iff.mp hj
    exact han hn hno (m₁, j) (List.mem_zipIdx_iff_getElem?.mpr hm₁) hu hsn hr

lemma Together.step (D : S.SymbolicDh) (hA : S.CorrectAead) (hC : S.CommittingAead)
    (hS : S.HeadersApart) (hsa : ∀ p, (config p).enableHeaderEncryption = headers) {e : Event S}
    (h : w.Together K headers) (he : w.InTouch headers e) :
    (w.step config e).Together K headers := by
  cases headers with
  | false => exact sync_step D hA hC hsa w e h he.1
  | true =>
    obtain ⟨hsy, hl⟩ := h
    have hpl := (hl.step_plain hA hC hS config (he.2 rfl)).1
    have hl' : (w.step (withHeaders config true) e).Lockstep K := lockstep_step w e hl
    rw [withHeaders_self hsa] at hpl hl'
    refine ⟨?_, hl'⟩
    rw [hpl]
    exact sync_step D hA hC (fun _ => rfl) w.plain e hsy he.1.plain

lemma together_matched (K : S.SymbolicKdf) {se : Bytes32} (h : w.Matched config se) :
    w.Together K headers := by
  cases headers with
  | false => exact sync_matched K h
  | true =>
    have hpl : w.plain = w := by
      rw [plain, h.sent]
      exact congrArg (fun l => { w with sent := l }) h.sent.symm
    refine ⟨?_, lockstep_matched K h⟩
    rw [hpl]
    exact sync_matched K h

lemma Together.run (D : S.SymbolicDh) (hA : S.CorrectAead) (hC : S.CommittingAead)
    (hS : S.HeadersApart) (hsa : ∀ p, (config p).enableHeaderEncryption = headers)
    (h : w.Together K headers) {es : List (Event S)}
    (hes : Guarded (World.step config) (InTouch headers) w es) :
    (w.run config es).Together K headers := by
  refine hes.invariant (I := fun w : World S => w.Together K headers) ?_ h
  intro w e h he
  exact h.step D hA hC hS hsa he

lemma Together.delivered_lt (h : w.Together K headers) : ∀ i ∈ w.delivered, i < w.sent.length := by
  cases headers with
  | false => exact h.delivered_lt
  | true =>
    intro i hi
    have hlt := h.1.delivered_lt i hi
    rwa [plain, List.length_map] at hlt

section
variable (D : S.SymbolicDh) (hA : S.CorrectAead) (hC : S.CommittingAead) (hS : S.HeadersApart)
include D hA hC hS

lemma Together.delivery (hsa : ∀ p, (config p).enableHeaderEncryption = headers)
    (h : w.Together K headers) {i : Nat} {env : Env S} (he : w.InTouch headers (.deliver i env))
    {m : Sent S} (hm : w.sent[i]? = some m) (hi : i ∉ w.delivered) :
    w.delivery config i env = some (.ok m.plaintext) := by
  cases headers with
  | false => exact h.delivery D hA hsa he.1 hm hi
  | true =>
    obtain ⟨hsy, hl⟩ := h
    have hse : w.plain.sent[i]? = some m.plain := by
      rw [plain, List.getElem?_map, hm, Option.map_some]
    have hpl : w.plain.delivery (withHeaders config false) i env =
        some (.ok m.plain.plaintext) :=
      hsy.delivery D hA (fun _ => rfl) he.1.plain hse hi
    have ho := (hl.step_plain hA hC hS config (he.2 rfl)).2
    rw [withHeaders_self hsa, outcome, outcome, hpl] at ho
    obtain ⟨r, hr, hok⟩ := Option.map_eq_some_iff.mp ho
    rw [hr]
    cases r with
    | error e => cases hok
    | ok pl =>
      obtain rfl : pl = m.plaintext := Option.some.inj hok
      rfl

lemma Together.carries (hsa : ∀ p, (config p).enableHeaderEncryption = headers)
    (h : w.Together K headers) {p : HandshakeRole} {env env' : Env S} {pa ad : Bytes}
    (hsn : w.InTouch headers (.encrypt p env pa ad))
    (hdl : (w.step config (.encrypt p env pa ad)).InTouch headers (.deliver w.sent.length env'))
    {sent : Encrypted S}
    (hse : (encryptMessage (config p) env (w.session p) pa ad).1 = .ok sent) :
    (decrypt (config p.peer) env' (w.session p.peer) sent.wire ad).1 = .ok pa := by
  have hok : encryptMessage (config p) env (w.session p) pa ad = (.ok sent, _) :=
    Prod.ext hse rfl
  have hs := h.step D hA hC hS hsa hsn
  let w' := w.step config (.encrypt p env pa ad)
  have hse : w'.sent = w.sent ++ [⟨p, pa, ad, sent⟩] := by
    simp only [w', World.step, act, send_ok hok]
  have hl : w'.sent[w.sent.length]? = some ⟨p, pa, ad, sent⟩ := by
    rw [hse, List.getElem?_concat_length]
  have hn : w.sent.length ∉ w'.delivered := by
    have hsa : w'.delivered = w.delivered := by
      simp only [w', World.step, act, send_ok hok, setSession]
    rw [hsa]
    exact fun hm => Nat.lt_irrefl _ (h.delivered_lt _ hm)
  have hde := hs.delivery D hA hC hS hsa hdl hl hn
  have hp : w'.session p.peer = w.session p.peer :=
    send_session_ne config w (HandshakeRole.peer_ne p) env pa ad
  rw [World.delivery, hl, Option.map_some, hp] at hde
  exact Option.some.inj hde

end

end World

namespace MessagingContext

variable {config : HandshakeRole → Config} {w : World S} {p : HandshakeRole}
variable {ctx ctx' : MessagingContext S} {id id' : Bytes}

structure Connected (config : HandshakeRole → Config) (w : World S) (p : HandshakeRole)
    (ctx ctx' : MessagingContext S) (id id' : Bytes) : Prop where
  senderConfig : ctx.config.toConfig = config p
  receiverConfig : ctx'.config.toConfig = config p.peer
  sender : ctx.sessions.sessions.lookup id = some (w.session p)
  receiver : ctx'.sessions.sessions.lookup id' = some (w.session p.peer)
  senderRate : ctx.config.enableRateLimiting = false
  receiverRate : ctx'.config.enableRateLimiting = false
  senderSafety : ctx.config.requireSafetyNumbers = false

lemma Connected.encryptMessage (h : Connected config w p ctx ctx' id id') {env : MessagingEnv S}
    {pl : Bytes} (hl : pl.length ≤ ctx.messaging.maxMessageSize)
    (ad : Option Bytes) : ctx.encryptMessage env id pl ad =
      match padMessage env.padding pl ctx.messaging.messagePadding with
      | .error e => (.error e, ctx)
      | .ok padded =>
        let o := encrypt (config p) env.session (w.session p) padded (ad.getD [])
        (o.1, ctx.setSession id o.2) := by
  unfold MessagingContext.encryptMessage prepareMessage
  simp only [h.senderRate, h.senderSafety, h.sender, h.senderConfig, ensure, if_true,
    hl, decide_true, okOr, ok_bind]
  cases padMessage env.padding pl ctx.messaging.messagePadding with
  | error | ok => rfl

lemma Connected.decryptMessage (h : Connected config w p ctx ctx' id id') (env : MessagingEnv S)
    (wire : Bytes) (ad : Option Bytes) : (ctx'.decryptMessage env id' wire ad).1 =
      (decrypt (config p.peer) env.session (w.session p.peer) wire (ad.getD [])).1.bind
        unpadMessage := by
  simp only [MessagingContext.decryptMessage, findSession, h.receiverRate, h.receiver,
    h.receiverConfig, Bool.not_false, Bool.true_or, ensure, if_true, okOr, ok_bind]

def RoundTrips (env env' : MessagingEnv S) (ctx ctx' : MessagingContext S) (id id' : Bytes)
    (plaintext : Bytes) (ad : Option Bytes) : Prop :=
  ∃ wire, (ctx.encryptMessage env id plaintext ad).1 = .ok wire ∧
    (ctx'.decryptMessage env' id' wire ad).1 = .ok plaintext

lemma roundTrips_iff (h : Connected config w p ctx ctx' id id') {env env' : MessagingEnv S}
    {pl : Bytes} (hl : pl.length ≤ ctx.messaging.maxMessageSize) {ad : Option Bytes}
    (hca : ∀ padded sent,
      padMessage env.padding pl ctx.messaging.messagePadding = .ok padded →
      (DoubleRatchetSession.encryptMessage (config p) env.session (w.session p) padded
        (ad.getD [])).1 = .ok sent →
      (decrypt (config p.peer) env'.session (w.session p.peer) sent.wire (ad.getD [])).1 =
        .ok padded) :
    RoundTrips env env' ctx ctx' id id' pl ad ↔
      ∃ padded, padMessage env.padding pl ctx.messaging.messagePadding = .ok padded ∧
        (∃ sent, (DoubleRatchetSession.encryptMessage (config p) env.session (w.session p)
          padded (ad.getD [])).1 = .ok sent) ∧ unpadMessage padded = .ok pl := by
  have hen : ctx.encryptMessage env id pl ad = _ := h.encryptMessage hl ad
  rw [RoundTrips, hen]
  constructor
  · rintro ⟨wire, hw, hpl⟩
    cases hpa : padMessage env.padding pl ctx.messaging.messagePadding with
    | error e => simp_all
    | ok padded =>
      rw [hpa] at hw
      obtain ⟨sent, hse, rfl⟩ := exceptMap_ok.mp hw
      rw [h.decryptMessage, hca padded sent hpa hse] at hpl
      exact ⟨padded, rfl, ⟨sent, hse⟩, hpl⟩
  · rintro ⟨padded, hpa, ⟨sent, hse⟩, hu⟩
    rw [hpa]
    refine ⟨sent.wire, exceptMap_ok.mpr ⟨sent, hse, rfl⟩, ?_⟩
    rwa [h.decryptMessage, hca padded sent hpa hse]

/-- Between contexts whose sessions are in step a message makes the round trip exactly if its
padding fits. -/
theorem message_round_trips_iff (K : S.SymbolicKdf) (D : S.SymbolicDh) (hA : S.CorrectAead)
    (hC : S.CommittingAead) (hS : S.HeadersApart) (config : HandshakeRole → Config)
    (headers : Bool) (hsame : ∀ p, (config p).enableHeaderEncryption = headers)
    (secret : Bytes32) (w₀ : World S) (hmatched : w₀.Matched config secret)
    (es : List (Event S)) (hes : Guarded (World.step config) (World.InTouch headers) w₀ es)
    (w : World S) (hw : w = w₀.run config es) (p : HandshakeRole)
    (ctx ctx' : MessagingContext S) (id id' : Bytes) (hctx : Connected config w p ctx ctx' id id')
    (env env' : MessagingEnv S) (draws : PaddingDraws) (hdraws : env.padding = some draws)
    (plaintext : Bytes) (hlen : plaintext.length ≤ ctx.messaging.maxMessageSize)
    (ad : Option Bytes) (hready : Ready (config p) env.session (w.session p) (ad.getD []))
    (hsend : ∀ payload, w.InTouch headers (.encrypt p env.session payload (ad.getD [])))
    (hdeliver : ∀ payload,
      padMessage env.padding plaintext ctx.messaging.messagePadding = .ok payload →
        (w.step config (.encrypt p env.session payload (ad.getD []))).InTouch headers
          (.deliver w.sent.length env'.session)) :
    RoundTrips env env' ctx ctx' id id' plaintext ad ↔
      ctx.messaging.messagePadding.Fits draws plaintext.length := by
  have htogether : w.Together K headers := by
    rw [hw]
    exact (World.together_matched K hmatched).run D hA hC hS hsame hes
  rw [roundTrips_iff hctx hlen fun padded sent hpad hsent =>
    htogether.carries D hA hC hS hsame (hsend padded) (hdeliver padded hpad) hsent,
    PaddingMode.fits_iff, hdraws]
  simp only [hready.encryptMessage_iff]

end MessagingContext

namespace Symbolic

open MessagingContext

def zeroDraws : PaddingDraws where
  prefixDraw := 0
  noise := fun n => ⟨List.replicate n 0, List.length_replicate⟩
  blocksDraw := 0
  filling := fun n => ⟨List.replicate n 0, List.length_replicate⟩

def messagingContext (mode : PaddingMode) (role : HandshakeRole) : MessagingContext suite :=
  contextWith (AList.singleton [7] (session false role)) GroupManager.new mode

def messagingEnv (env : Env suite) : MessagingEnv suite := ⟨true, some zeroDraws, env⟩

lemma connected_fresh (mode : PaddingMode) :
    Connected (fun _ => config false) (world false) .initiator (messagingContext mode .initiator)
    (messagingContext mode .responder) [7] [7] :=
  ⟨rfl, rfl, rfl, rfl, rfl, rfl, rfl⟩

lemma ready_initiator : Ready (config false) (env 1000 3) (session false .initiator) [] := by
  refine ⟨_, _, rfl, ?_, nofun⟩
  intro pa hne hle
  refine ⟨hne, hle, ?_, ?_, ?_, ?_, ?_, ?_, 1000, 1000, ?_⟩ <;> decide +kernel

theorem small_message_round_trips :
    RoundTrips (messagingEnv (env 1000 3)) (messagingEnv (env 1001 4))
    (messagingContext .small .initiator) (messagingContext .small .responder) [7] [7] [10] none :=
    by
  refine (message_round_trips_iff kdf dh correctAead committingAead World.headersApart_symbolic
    (fun _ => config false) false (fun _ => rfl) secret (world false)
      (world_matched false) [] trivial
    (world false) rfl .initiator _ _ _ _ (connected_fresh .small) (messagingEnv (env 1000 3))
    (messagingEnv (env 1001 4)) zeroDraws rfl [10] ?_ none ready_initiator ?_ ?_).mpr
    ⟨?_, ?_, ?_, ?_⟩
  · decide
  · intro payload
    exact ⟨⟨by decide +kernel, by decide +kernel⟩, nofun⟩
  · intro payload hpad
    obtain rfl : (padMessage (some zeroDraws) [10] .small).toOption.getD [] = payload := by
      rw [show padMessage (some zeroDraws) [10] .small = .ok payload from hpad]
      rfl
    exact ⟨by decide +kernel, nofun⟩
  all_goals decide

/-- Without padding a message is encrypted and cannot be read, and cover traffic is refused; a
block size that is not a power of two is found out with the first message. -/
theorem unpadded_message_unreadable :
    let sender := fun mode => messagingContext mode .initiator
    let receiver := messagingContext .none .responder
    let sent := (sender .none).encryptMessage (messagingEnv (env 1000 3)) [7] [10, 11, 12, 13] none
    sent.1.toOption.isSome ∧
    (receiver.decryptMessage (messagingEnv (env 1001 4)) [7] (sentBytes sent) none).1 =
      .error .invalidMessage ∧
    ((sender .none).generateCoverMessage (messagingEnv (env 1000 3)) [7]).1 =
      .error .invalidCiphertext ∧
    ((sender (.custom 100)).encryptMessage (messagingEnv (env 1000 3)) [7] [10] none).1 =
      .error .invalidArgument := by
  refine ⟨?_, ?_, ?_, ?_⟩ <;> decide +kernel

end Symbolic

end Sibna
