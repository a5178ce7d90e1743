import Sibna.Errors
import Sibna.Handshake.Suite
import Sibna.Lib.Interleaving
import Sibna.Server.Db

/-!
# The relay

`ws.rs`, the message handlers of `main.rs` and its pruning task.
-/

namespace Sibna.Server.Relay

open Interleaving Text LittleEndian

structure SealedEnvelope where
  recipientId : Bytes
  payloadHex : Bytes
  compressed : Bool
  messageId : Bytes
  timestamp : Int
  signatureHex : Bytes
  deriving DecidableEq

structure WebRtcSignal where
  recipientId : Bytes
  payloadHex : Bytes
  signatureHex : Bytes
  timestamp : Int
  deriving DecidableEq

inductive WsMessage where
  | envelope (envelope : SealedEnvelope)
  | ack (messageId : Bytes)
  | webRtc (signal : WebRtcSignal)
  deriving DecidableEq

/-- What goes down a channel. `send_message_handler` writes an envelope without the tag of a
`WsMessage`. -/
inductive Frame where
  | tagged (message : WsMessage)
  | bare (envelope : SealedEnvelope)
  deriving DecidableEq

inductive QueueContent where
  | envelope (envelope : SealedEnvelope)
  | signal (signal : WebRtcSignal)
  deriving DecidableEq

structure QueueItem where
  content : QueueContent
  expires : Int
  deriving DecidableEq

/-- `json["envelope"]`, which is null for a signal. -/
def QueueItem.envelope (item : QueueItem) : Option SealedEnvelope :=
  match item.content with
  | .envelope envelope => some envelope
  | .signal _ => none

structure SendMessageRequest where
  recipientId : Bytes
  payloadHex : Bytes
  compressed : Option Bool
  deriving DecidableEq

structure Inbox where
  messages : List (Option SealedEnvelope)
  count : Nat
  deriving DecidableEq

/-- Seconds as `chrono::Utc::now().timestamp()` gives them: a clock before the epoch panics, and
chrono knows no times after the year 262142. -/
def Timestamp := { t : Int // 0 ≤ t ∧ t < 2 ^ 43 }

instance : DecidableEq Timestamp := inferInstanceAs (DecidableEq { t : Int // 0 ≤ t ∧ t < 2 ^ 43 })

def dedupWindow : Int := 48 * 3600

def queueTtl : Int := 7 * 86400

def signalTtl : Int := 60

/-- `to_be_bytes` of a `u64`. -/
def toBeBytes (n : Nat) : Bytes := (toLe 8 n).reverse

def i64FromBeBytes (bytes : Bytes) : Int :=
  if fromLe bytes.reverse < 2 ^ 63 then fromLe bytes.reverse
  else (fromLe bytes.reverse : Int) - 2 ^ 64

def Timestamp.record (t : Timestamp) : Bytes := toBeBytes t.val.toNat

@[simp] lemma Timestamp.record_length (t : Timestamp) : t.record.length = 8 := by
  simp [record, toBeBytes]

@[simp] lemma i64FromBeBytes_record (t : Timestamp) : i64FromBeBytes t.record = t.val := by
  have hra := t.property
  have hlt : t.val.toNat < 256 ^ 8 := by omega
  have hre : fromLe t.record.reverse = t.val.toNat := by
    rw [Timestamp.record, toBeBytes, List.reverse_reverse, fromLe_toLe hlt]
  rw [i64FromBeBytes, hre, if_pos (by omega)]
  omega

def Live (record : Bytes) (now : Timestamp) : Prop :=
  record.length = 8 ∧ now.val - dedupWindow ≤ i64FromBeBytes record
  deriving Decidable

inductive Refusal where
  | senderId
  | verifyingKey
  | signatureHex
  | signature
  deriving DecidableEq

/-- The return of `route_message` that is taken; there is a warning at each but the last. -/
inductive Routing where
  | invalidMessageId
  | invalidRecipientId
  | oversizedPayload
  | duplicate
  | unauthentic (refusal : Refusal)
  | routed
  deriving DecidableEq

inductive Result where
  | routing (routing : Routing)
  | response (response : Response Inbox)
  | done
  deriving DecidableEq

/-- What the calls do outside of themselves. `push` looks up the channel of the recipient and sends,
`disconnected` is the end of one of the two tasks of a connection, `returned` that of the call. -/
inductive Op where
  | enforceRateLimit (operation : String) (identity : Bytes)
  | now
  | newUuid
  | openChannel
  | register (identity : Bytes) (channel : Nat)
  | unregister (identity : Bytes)
  | push (recipientId : Bytes) (frame : Frame)
  | send (channel : Nat) (frame : Frame)
  | dedup (op : TreeOp Bytes)
  | queue (op : TreeOp QueueItem)
  | disconnected
  | returned (result : Result)

@[reducible] def Op.Ans : Op → Type
  | .enforceRateLimit _ _ => Option String
  | .now => Timestamp
  | .newUuid => Bytes
  | .openChannel => Nat
  | .push _ _ => Bool
  | .dedup op => op.Ans
  | .queue op => op.Ans
  | _ => Unit

/-- What an operation meets: the error of the rate limiter if it refuses, the transaction, the
clock, the random id, and whether the receiving end of the channel is still there. -/
structure OpEnv where
  refusal : Option String
  access : Access
  clock : Timestamp
  uuid : Bytes
  channelOpen : Bool

structure Shared where
  tableDedup : Table Bytes
  tableQueue : Table QueueItem
  clients : Table Nat
  channels : Nat
  sent : List (Nat × Frame)

def Shared.reaches (s : Shared) (e : OpEnv) (recipientId : Bytes) : Bool :=
  (s.clients.lookup recipientId).isSome && e.channelOpen

def Shared.send (s : Shared) (e : OpEnv) (channel : Nat) (frame : Frame) : Shared :=
  if e.channelOpen then { s with sent := s.sent ++ [(channel, frame)] } else s

def act (e : OpEnv) : (op : Op) → Shared → op.Ans × Shared
  | .enforceRateLimit _ _, s => (e.refusal, s)
  | .now, s => (e.clock, s)
  | .newUuid, s => (e.uuid, s)
  | .openChannel, s => (s.channels, { s with channels := s.channels + 1 })
  | .register identity channel, s => ((), { s with clients := s.clients.insert identity channel })
  | .unregister identity, s => ((), { s with clients := s.clients.erase identity })
  | .push recipientId frame, s =>
    (s.reaches e recipientId,
      match s.clients.lookup recipientId with
      | some channel => s.send e channel frame
      | none => s)
  | .send channel frame, s => ((), s.send e channel frame)
  | .dedup op, s =>
    ((Table.act e.access op s.tableDedup).1,
      { s with tableDedup := (Table.act e.access op s.tableDedup).2 })
  | .queue op, s =>
    ((Table.act e.access op s.tableQueue).1,
      { s with tableQueue := (Table.act e.access op s.tableQueue).2 })
  | .disconnected, s => ((), s)
  | .returned _, s => ((), s)

abbrev Handler := Prog Op Op.Ans

def perform (op : Op) : Handler op.Ans := Prog.perform op

def removeAll (remove : Bytes → Op) : List Bytes → Handler Unit
  | [] => return ()
  | key :: keys => do
    let _ ← perform (remove key)
    removeAll remove keys

def dedupKey (messageId : Bytes) : Bytes := utf8 "dedup:" ++ messageId

lemma dedupKey_injective {mi m' : Bytes} (h : dedupKey mi = dedupKey m') : mi = m' :=
  List.append_cancel_left h

section
variable (ed : Ed25519) (senderId identityId : Bytes)

def queuePrefix : Bytes := utf8 "queue:" ++ (identityId ++ [colon])

def queueKey (recipientId messageId : Bytes) : Bytes :=
  utf8 "queue:" ++ (recipientId ++ colon :: messageId)

def canonical (fields : List Bytes) : Bytes :=
  fields.flatMap fun field => toBeBytes field.length ++ field

section
variable (envelope : SealedEnvelope)

def SealedEnvelope.canonical : Bytes :=
  Relay.canonical [envelope.recipientId, envelope.messageId, envelope.payloadHex]

def WebRtcSignal.canonical (signal : WebRtcSignal) : Bytes :=
  Relay.canonical [signal.recipientId, signal.payloadHex]

def verifySender (message signatureHex : Bytes) : Except Refusal Unit := do
  let keyBytes ← okOr (hexDecode senderId) .senderId
  let key ← tryInto 32 keyBytes .senderId
  ensure (ed.verifyingKeyOk key) .verifyingKey
  let sigBytes ← okOr (hexDecode signatureHex) .signatureHex
  let signature ← tryInto 64 sigBytes .signatureHex
  ensure (ed.verify key message signature) .signature

def maxPayloadHexLen : Nat := 20 * 1024 * 1024

def isAsciiHexdigit (c : UInt8) : Bool := (hexValue c).isSome

/-- A record of another length is an old one. -/
def isExpired (existing : Bytes) : Handler Bool :=
  if existing.length = 8 then do
    let now ← perform .now
    return i64FromBeBytes existing < now.val - dedupWindow
  else return true

/-- The lookup of the message id; an expired record is removed. -/
def isDuplicate (dedupKey : Bytes) : Handler Bool := do
  match ← perform (.dedup (.get dedupKey)) with
  | some (some existing) =>
    if ← isExpired existing then
      let _ ← perform (.dedup (.remove dedupKey))
      return false
    else return true
  | _ => return false

def queueMessage : Handler Unit := do
  let now ← perform .now
  let _ ← perform (.queue (.insert (queueKey envelope.recipientId envelope.messageId)
    ⟨.envelope envelope, now.val + queueTtl⟩))
  return ()

def forward : Handler Routing := do
  let now ← perform .now
  let envelope := { envelope with timestamp := now.val }
  queueMessage envelope
  let _ ← perform (.push envelope.recipientId (.tagged (.envelope envelope)))
  return .routed

/-- The record is written before the signature is looked at. -/
def stampAndVerify : Handler Routing := do
  let now ← perform .now
  let _ ← perform (.dedup (.insert (dedupKey envelope.messageId) now.record))
  match verifySender ed senderId envelope.canonical envelope.signatureHex with
  | .error refusal => return .unauthentic refusal
  | .ok () => forward envelope

def routeMessage : Handler Routing := do
  if envelope.messageId.isEmpty || envelope.messageId.length > 128 then
    return .invalidMessageId
  else if envelope.recipientId.length ≠ 64 || !envelope.recipientId.all isAsciiHexdigit then
    return .invalidRecipientId
  else if envelope.payloadHex.length > maxPayloadHexLen then
    return .oversizedPayload
  else if ← isDuplicate (dedupKey envelope.messageId) then
    return .duplicate
  else stampAndVerify ed senderId envelope

def SealedEnvelope.WellFormed : Prop :=
  (envelope.messageId ≠ [] ∧ envelope.messageId.length ≤ 128) ∧
    (envelope.recipientId.length = 64 ∧ envelope.recipientId.all isAsciiHexdigit = true) ∧
    envelope.payloadHex.length ≤ maxPayloadHexLen
  deriving Decidable

end

lemma routeMessage_of_wellFormed (si : Bytes) {en : SealedEnvelope}
    (h : en.WellFormed) : routeMessage ed si en =
      isDuplicate (dedupKey en.messageId) >>= fun duplicate =>
        if duplicate then pure .duplicate else stampAndVerify ed si en := by
  obtain ⟨⟨hid, hi⟩, ⟨hl, hhe⟩, hp⟩ := h
  simp [routeMessage, hid, hl, hhe, Nat.not_lt.mpr hi, Nat.not_lt.mpr hp]

lemma routeMessage_of_not_wellFormed (si : Bytes) {en : SealedEnvelope} (h : ¬ en.WellFormed) :
    ∃ routing, routing ≠ .routed ∧ routeMessage ed si en = pure routing := by
  unfold routeMessage
  split
  · exact ⟨.invalidMessageId, nofun, rfl⟩
  rename_i hid
  split
  · exact ⟨.invalidRecipientId, nofun, rfl⟩
  rename_i hre
  split
  · exact ⟨.oversizedPayload, nofun, rfl⟩
  rename_i hp
  simp at hid hre hp
  refine absurd ⟨hid, ⟨hre.1, ?_⟩, hp⟩ h
  simpa using hre.2

/-- The recipient is not checked for hexadecimal digits here. -/
def routeWebrtc (signal : WebRtcSignal) : Handler Unit := do
  if signal.recipientId.length ≠ 64 then return ()
  else
    match verifySender ed senderId signal.canonical signal.signatureHex with
    | .error _ => return ()
    | .ok () =>
      let now ← perform .now
      let signal := { signal with timestamp := now.val }
      if ← perform (.push signal.recipientId (.tagged (.webRtc signal))) then return ()
      else
        let uuid ← perform .newUuid
        let now ← perform .now
        let _ ← perform (.queue (.insert
          (queueKey signal.recipientId (utf8 "webrtc_" ++ uuid))
          ⟨.signal signal, now.val + signalTtl⟩))
        return ()

def deliverEntries (channel : Nat) (now : Timestamp) :
    List (Bytes × QueueItem) → Handler (List Bytes)
  | [] => return []
  | (key, item) :: entries => do
    if now.val > item.expires then
      let toDelete ← deliverEntries channel now entries
      return key :: toDelete
    else
      match item.content with
      | .envelope envelope =>
        let _ ← perform (.send channel (.tagged (.envelope envelope)))
        deliverEntries channel now entries
      | .signal signal =>
        let _ ← perform (.send channel (.tagged (.webRtc signal)))
        let toDelete ← deliverEntries channel now entries
        return key :: toDelete

def deliverQueuedMessages (channel : Nat) : Handler Unit := do
  let now ← perform .now
  let entries ← perform (.queue (.scanPrefix (queuePrefix identityId)))
  let toDelete ← deliverEntries channel now entries
  removeAll (fun key => .queue (.remove key)) toDelete

def handleAck (messageId : Bytes) : Handler Unit := do
  let _ ← perform (.queue (.remove (queueKey identityId messageId)))
  return ()

def handleWs : Handler Unit := do
  let channel ← perform .openChannel
  let _ ← perform (.register identityId channel)
  deliverQueuedMessages identityId channel
  let _ ← perform .disconnected
  let _ ← perform (.unregister identityId)
  return ()

def handleFrame : WsMessage → Handler Result
  | .envelope envelope => do return .routing (← routeMessage ed identityId envelope)
  | .ack messageId => do
    handleAck identityId messageId
    return .done
  | .webRtc signal => do
    routeWebrtc ed identityId signal
    return .done

def sendMessageHandler (claims : Claims) (req : SendMessageRequest) : Handler (Response Inbox) := do
  match ← perform (.enforceRateLimit "message_send" claims.sub) with
  | some text => return tooManyRequests text
  | none =>
    let uuid ← perform .newUuid
    let now ← perform .now
    let envelope : SealedEnvelope :=
      { recipientId := req.recipientId
        payloadHex := req.payloadHex
        compressed := req.compressed.getD false
        messageId := uuid
        timestamp := now.val
        signatureHex := [] }
    if ← perform (.push req.recipientId (.bare envelope)) then return ⟨.ok, .empty⟩
    else
      queueMessage envelope
      return ⟨.accepted, .empty⟩

def inboxOf (now : Timestamp) (entries : List (Bytes × QueueItem)) : Inbox where
  messages := (entries.filter fun entry => ¬ now.val > entry.2.expires).map fun entry =>
    entry.2.envelope
  count := (entries.filter fun entry => ¬ now.val > entry.2.expires).length

/-- Every scanned key is removed, whether its entry is returned or has expired. -/
def inboxHandler (claims : Claims) (identityKeyHex : Bytes) : Handler (Response Inbox) := do
  if claims.sub ≠ identityKeyHex then
    return ⟨.unauthorized, .text "Identity mismatch"⟩
  else
    match ← perform (.enforceRateLimit "inbox_fetch" claims.sub) with
    | some text => return tooManyRequests text
    | none =>
      let now ← perform .now
      let entries ← perform (.queue (.scanPrefix (queuePrefix claims.sub)))
      removeAll (fun key => .queue (.remove key)) (entries.map Prod.fst)
      return ⟨.ok, .json (inboxOf now entries)⟩

def pruneDedup : Handler Unit := do
  let now ← perform .now
  let entries ← perform (.dedup .iter)
  removeAll (fun key => .dedup (.remove key))
    ((entries.filter fun entry =>
      entry.2.length = 8 ∧ i64FromBeBytes entry.2 < now.val - dedupWindow).map Prod.fst)

inductive Call where
  | connect (claims : Claims)
  | frame (claims : Claims) (message : WsMessage)
  | send (claims : Claims) (req : SendMessageRequest)
  | inbox (claims : Claims) (identityKeyHex : Bytes)
  | prune

def handle : Call → Handler Result
  | .connect claims => do
    handleWs claims.sub
    return .done
  | .frame claims message => handleFrame ed claims.sub message
  | .send claims req => do return .response (← sendMessageHandler claims req)
  | .inbox claims identityKeyHex => do return .response (← inboxHandler claims identityKeyHex)
  | .prune => do
    pruneDedup
    return .done

@[reducible] def relay : System where
  Op := Op
  Ans := Op.Ans
  Shared := Shared
  Env := OpEnv
  Call := Call
  Result := Unit
  act := act
  body := fun c => do perform (.returned (← handle ed c))

def relayed (s : Shared) (es : Schedule (relay ed)) : World (relay ed) :=
  Runs.exec World.step (World.initial (M := relay ed) s) es

end

end Sibna.Server.Relay
