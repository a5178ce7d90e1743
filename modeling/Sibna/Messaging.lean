import Sibna.Context
import Sibna.Group.Runs
import Sibna.KeyStore
import Sibna.Padding

/-!
# Messages of a context

The message and group calls of `SecureContext`. None gives a group a signing key, and
`decrypt_group_message` refuses every message without a signature.
-/

namespace Sibna

/-- The fields of `Config` that the messaging calls read beside those of `ContextConfig`. -/
structure MessagingConfig where
  enableGroupMessaging : Bool
  maxMessageSize : Nat
  messagePadding : PaddingMode

structure MessagingContext (S : Suite) extends SecureContext S (KeyStore S) (GroupManager S) where
  messaging : MessagingConfig

/-- `limiterAllows` is the answer of the rate limiter. -/
structure MessagingEnv (S : Suite) where
  limiterAllows : Bool
  padding : Option PaddingDraws
  session : Env S

namespace MessagingContext
variable {S : Suite}

open DoubleRatchetSession

section
variable (env : MessagingEnv S) (ctx : MessagingContext S) (sessionId : Bytes)

def setSession (s : DoubleRatchetState S) : MessagingContext S :=
  { ctx with sessions :=
    { ctx.sessions with sessions := ctx.sessions.sessions.insert sessionId s } }

def prepareMessage (plaintext : Bytes) : Except ProtocolError (Bytes × DoubleRatchetState S) := do
  ensure (!ctx.config.enableRateLimiting || env.limiterAllows) .rateLimitExceeded
  ensure (decide (plaintext.length ≤ ctx.messaging.maxMessageSize)) .invalidArgument
  ensure (!ctx.config.requireSafetyNumbers || ctx.keystore.isPeerVerified sessionId)
    .verificationRequired
  let padded ← padMessage env.padding plaintext ctx.messaging.messagePadding
  let session ← okOr (ctx.sessions.sessions.lookup sessionId) .sessionNotFound
  return (padded, session)

def encryptMessage (plaintext : Bytes) (associatedData : Option Bytes) :
    Outcome (MessagingContext S) Bytes :=
  match ctx.prepareMessage env sessionId plaintext with
  | .error e => (.error e, ctx)
  | .ok (padded, session) =>
    let o := encrypt ctx.config.toConfig env.session session padded (associatedData.getD [])
    (o.1, ctx.setSession sessionId o.2)

def generateCoverMessage : Outcome (MessagingContext S) Bytes :=
  ctx.encryptMessage env sessionId [] none

def findSession : Except ProtocolError (DoubleRatchetState S) := do
  ensure (!ctx.config.enableRateLimiting || env.limiterAllows) .rateLimitExceeded
  okOr (ctx.sessions.sessions.lookup sessionId) .sessionNotFound

def decryptMessage (ciphertext : Bytes) (associatedData : Option Bytes) :
    Outcome (MessagingContext S) Bytes :=
  match ctx.findSession env sessionId with
  | .error e => (.error e, ctx)
  | .ok session =>
    let o := decrypt ctx.config.toConfig env.session session ciphertext (associatedData.getD [])
    (o.1.bind unpadMessage, ctx.setSession sessionId o.2)

end

end MessagingContext

open Runs

variable {S : Suite} {G : GroupSuite S}

namespace MessagingContext

def createGroup (now : Option Nat) (env : GroupEnv S) (ctx : MessagingContext S)
    (groupId : Bytes32) : Outcome (MessagingContext S) Unit :=
  if !ctx.messaging.enableGroupMessaging then (.error .invalidState, ctx)
  else
    let o := ctx.groups.createGroup now env groupId
    (o.1, { ctx with groups := o.2 })

def withGroup {α : Type} (ctx : MessagingContext S) (groupId : Bytes32)
    (call : GroupSession S → Option (Outcome (GroupSession S) α)) :
    Option (Outcome (MessagingContext S) α) :=
  if !ctx.messaging.enableGroupMessaging then some (.error .invalidState, ctx)
  else
    match ctx.groups.groups.lookup groupId with
    | none => some (.error .invalidState, ctx)
    | some group => (call group).map fun o =>
        (o.1, { ctx with groups := ctx.groups.setGroup groupId o.2 })

def encryptGroupMessage (G : GroupSuite S) (env : GroupEnv S) (ctx : MessagingContext S)
    (groupId : Bytes32) (plaintext : Bytes) : Option (Outcome (MessagingContext S) GroupMessage) :=
  ctx.withGroup groupId fun group => some (group.encrypt G env plaintext)

def decryptGroupMessage (G : GroupSuite S) (env : GroupEnv S) (ctx : MessagingContext S)
    (message : GroupMessage) (senderPublicKey : Bytes32) :
    Option (Outcome (MessagingContext S) Bytes) :=
  ctx.withGroup message.groupId fun group => group.decrypt G env message senderPublicKey

section
variable (env : GroupEnv S) (ctx : MessagingContext S) (groupId : Bytes32)

def addGroupMember (publicKey : Bytes32) : Option (Outcome (MessagingContext S) Unit) :=
  ctx.withGroup groupId fun group => group.addMember env publicKey

def removeGroupMember (publicKey : Bytes32) : Option (Outcome (MessagingContext S) Unit) :=
  ctx.withGroup groupId fun group => group.removeMember env publicKey

def leaveGroup : MessagingContext S :=
  { ctx with groups := ctx.groups.leaveGroup groupId }

end

end MessagingContext

inductive ContextGroupCall (S : Suite) where
  | createGroup (now : Option Nat) (env : GroupEnv S) (groupId : Bytes32)
  | encryptGroupMessage (env : GroupEnv S) (groupId : Bytes32) (plaintext : Bytes)
  | decryptGroupMessage (env : GroupEnv S) (message : GroupMessage) (senderPublicKey : Bytes32)
  | addGroupMember (env : GroupEnv S) (groupId publicKey : Bytes32)
  | removeGroupMember (env : GroupEnv S) (groupId publicKey : Bytes32)
  | leaveGroup (groupId : Bytes32)

namespace MessagingContext

def groupStep (G : GroupSuite S) (ctx : MessagingContext S) :
    ContextGroupCall S → MessagingContext S
  | .createGroup now env groupId => (ctx.createGroup now env groupId).2
  | .encryptGroupMessage env groupId plaintext =>
    ((ctx.encryptGroupMessage G env groupId plaintext).map Prod.snd).getD ctx
  | .decryptGroupMessage env m pk => ((ctx.decryptGroupMessage G env m pk).map Prod.snd).getD ctx
  | .addGroupMember env groupId pk => ((ctx.addGroupMember env groupId pk).map Prod.snd).getD ctx
  | .removeGroupMember env groupId pk =>
    ((ctx.removeGroupMember env groupId pk).map Prod.snd).getD ctx
  | .leaveGroup groupId => ctx.leaveGroup groupId

def Unsigned (ctx : MessagingContext S) : Prop :=
  ∀ groupId s, ctx.groups.groups.lookup groupId = some s → s.ourSigningKey = none

lemma unsigned_new {ctx : MessagingContext S} (h : ctx.groups = GroupManager.new) :
    ctx.Unsigned := by
  intro g s hs
  rw [h, GroupManager.new, AList.lookup_empty] at hs
  cases hs

end MessagingContext

lemma GroupSession.step_signingKey (s : GroupSession S) (call : GroupCall S)
    (hc : ∀ seed, call ≠ .setSigningKey seed) :
    (s.step G call).ourSigningKey = s.ourSigningKey := by
  have hef := effect_step (G := G) s call
  generalize s.step G call = s' at hef ⊢
  cases hef with
  | signs seed hc' => exact absurd hc' (hc seed)
  | own | added | removed | stored => rfl

lemma GroupSession.encrypt_unsigned {env : GroupEnv S} {s : GroupSession S} {p : Bytes}
    {m : GroupMessage} (hk : s.ourSigningKey = none)
    (h : (s.encrypt G env p).1 = .ok m) : m.senderSignature = [] := by
  obtain ⟨sk, sk₁, ci, -, -, -, -, rfl, -⟩ := encrypt_ok (Prod.ext h rfl)
  rw [sign, hk]
  rfl

lemma GroupSession.decrypt_unsigned (env : GroupEnv S) (s : GroupSession S) {m : GroupMessage}
    (pk : Bytes32) (h : m.senderSignature = []) :
    s.decrypt G env m pk = some (.error .authenticationFailed, s) := by
  have hv : m.validate (env.clock.read .validate) = .error .authenticationFailed := by
    rw [GroupMessage.validate, h]
    rfl
  have hch : checkMessage G env s m pk = .error .authenticationFailed := by
    rw [checkMessage, hv]
    rfl
  rw [decrypt, hch]

namespace MessagingContext

variable {ctx : MessagingContext S}

lemma withGroup_cases {α : Type} (ctx : MessagingContext S) (g : Bytes32)
    (call : GroupSession S → Option (Outcome (GroupSession S) α)) :
    ctx.withGroup g call = some (.error .invalidState, ctx) ∨
    ∃ group, ctx.groups.groups.lookup g = some group ∧
      ctx.withGroup g call = (call group).map fun o =>
        (o.1, { ctx with groups := ctx.groups.setGroup g o.2 }) := by
  unfold withGroup
  split
  · exact .inl rfl
  · cases hg : ctx.groups.groups.lookup g with
    | none => exact .inl rfl
    | some group => exact .inr ⟨group, rfl, rfl⟩

section
variable (h : ctx.Unsigned)
include h

lemma Unsigned.setGroup {g : Bytes32} {s : GroupSession S} (hs : s.ourSigningKey = none) :
    Unsigned { ctx with groups := ctx.groups.setGroup g s } := by
  intro q s' hl
  rcases Maps.lookup_insert_some hl with ⟨-, rfl⟩ | ⟨-, hl⟩
  · exact hs
  · exact h q s' hl

lemma Unsigned.withGroup {α : Type} {g : Bytes32}
    {call : GroupSession S → Option (Outcome (GroupSession S) α)}
    (hc : ∀ s, ∀ o ∈ call s, o.2.ourSigningKey = s.ourSigningKey) :
    Unsigned (((ctx.withGroup g call).map Prod.snd).getD ctx) := by
  rcases withGroup_cases ctx g call with heq | ⟨gr, hg, heq⟩
  · rwa [heq]
  rw [heq]
  cases ho : call gr with
  | none => exact h
  | some o => exact h.setGroup ((hc gr o ho).trans (h g gr hg))

lemma Unsigned.createGroup (now : Option Nat) (env : GroupEnv S) (g : Bytes32) :
    Unsigned (ctx.createGroup now env g).2 := by
  unfold MessagingContext.createGroup GroupManager.createGroup
  split
  · exact h
  split
  · exact h
  split
  · exact h
  rename_i hse
  unfold GroupSession.initializeSenderKey at hse
  split at hse
  · cases hse
  · cases hse
    exact h.setGroup rfl

lemma Unsigned.leaveGroup (g : Bytes32) : Unsigned (ctx.leaveGroup g) := by
  intro q s hl
  exact h q s (Maps.lookup_erase_some hl).2

lemma Unsigned.groupStep (call : ContextGroupCall S) : Unsigned (ctx.groupStep G call) := by
  cases call with
  | createGroup now env g => exact h.createGroup now env g
  | leaveGroup g => exact h.leaveGroup g
  | encryptGroupMessage env g p =>
    apply h.withGroup
    rintro s o ho
    cases ho
    exact s.step_signingKey (.encrypt env p) (by simp)
  | decryptGroupMessage env m pk =>
    apply h.withGroup
    intro s o ho
    have hk := s.step_signingKey (G := G) (.decrypt env m pk) (by simp)
    rwa [GroupSession.step, ho] at hk
  | addGroupMember env g pk =>
    apply h.withGroup
    intro s o ho
    have hk := s.step_signingKey (G := G) (.addMember env pk) (by simp)
    rwa [GroupSession.step, ho] at hk
  | removeGroupMember env g pk =>
    apply h.withGroup
    intro s o ho
    have hk := s.step_signingKey (G := G) (.removeMember env pk) (by simp)
    rwa [GroupSession.step, ho] at hk

end

/-- Whatever a context has been through, no other context decrypts a message it returns: not with
any groups and sender keys, and not for any sender. -/
theorem group_message_refused (G : GroupSuite S) (ctx : MessagingContext S)
    (hctx : ctx.Unsigned) (calls : List (ContextGroupCall S)) (env : GroupEnv S)
    (groupId : Bytes32) (plaintext : Bytes) (m : GroupMessage)
    (hm : ((exec (groupStep G) ctx calls).encryptGroupMessage G env groupId
      plaintext).map Prod.fst =
      some (.ok m)) (ctx' : MessagingContext S) (env' : GroupEnv S) (senderPublicKey : Bytes32) :
    (ctx'.decryptGroupMessage G env' m senderPublicKey).map Prod.fst =
        some (.error .authenticationFailed) ∨
      (ctx'.decryptGroupMessage G env' m senderPublicKey).map Prod.fst =
        some (.error .invalidState) := by
  have hrun : (exec (groupStep G) ctx calls).Unsigned :=
    exec_invariant (I := Unsigned) (fun _ call h => h.groupStep call) calls hctx
  have hunsigned : m.senderSignature = [] := by
    rcases withGroup_cases (exec _ ctx calls) groupId
      (fun group => some _) with heq | ⟨group, hgroup, heq⟩
    · rw [encryptGroupMessage, heq] at hm
      cases hm
    · rw [encryptGroupMessage, heq] at hm
      exact GroupSession.encrypt_unsigned (hrun groupId group hgroup) (Option.some.inj hm)
  rcases withGroup_cases ctx' m.groupId (fun group => group.decrypt G env' m senderPublicKey) with
    heq | ⟨group, -, heq⟩
  · right
    rw [decryptGroupMessage, heq]
    rfl
  · left
    rw [decryptGroupMessage, heq,
      GroupSession.decrypt_unsigned env' group senderPublicKey hunsigned]
    rfl

end MessagingContext

namespace Symbolic

open MessagingContext

def contextWith {S : Suite} (sessions : AList fun _ : Bytes => DoubleRatchetState S)
    (groups : GroupManager S) (mode : PaddingMode) : MessagingContext S where
  keystore := KeyStore.new
  sessions := ⟨sessions, ⟨config false, false, false⟩⟩
  groups := groups
  config := ⟨config false, false, false⟩
  storageKey := S.zeroKey
  storageSalt := secret
  deviceId := ⟨List.replicate 16 1, device_length⟩
  sequenceNumber := 0
  messaging := ⟨true, 10 * 1024 * 1024, mode⟩

def groupContext (groups : GroupManager short) : MessagingContext short :=
  contextWith ∅ groups .standard

def contextMessage (o : Option (Outcome (MessagingContext short) GroupMessage)) : GroupMessage :=
  sentMessage ((o.map fun o => (o.1, sending)).getD (.error .invalidState, sending))

def groupHolder : MessagingContext short :=
  groupContext (GroupManager.new.setGroup groupId receiving)

def creatingCalls : List (ContextGroupCall short) :=
  [.createGroup (some 1000) (shortEnv 1000 1) groupId,
    .addGroupMember (shortEnv 1000 1) groupId sender]

def groupCreator : MessagingContext short :=
  exec (groupStep shortGroup) (groupContext GroupManager.new) creatingCalls

def heldAnswer (m : GroupMessage) : Option (Except ProtocolError Bytes) :=
  (groupHolder.decryptGroupMessage shortGroup (shortEnv 1002 0) m sender).map Prod.fst

theorem created_group_message_refused :
    let sent := groupCreator.encryptGroupMessage shortGroup (shortEnv 1001 0) groupId [10]
    sent.map Prod.fst = some (.ok (contextMessage sent)) ∧
    (heldAnswer (contextMessage sent) = some (.error .authenticationFailed) ∨
      heldAnswer (contextMessage sent) = some (.error .invalidState)) := by
  intro sent
  have hsent : sent.map Prod.fst = some (.ok (contextMessage sent)) := by decide +kernel
  exact ⟨hsent, group_message_refused shortGroup (groupContext GroupManager.new)
    (unsigned_new rfl) creatingCalls (shortEnv 1001 0) groupId [10] _ hsent groupHolder _ _⟩

/-- The sender's key in the other context is the one the group was created with, and all that is
missing is the signing key. -/
theorem unsigned_group_message :
    let sent := groupCreator.encryptGroupMessage shortGroup (shortEnv 1001 0) groupId [10]
    let group := (groupCreator.groups.groups.lookup groupId).getD sending
    let signed := (group.setSigningKey signingSeed).encrypt shortGroup (shortEnv 1001 0) [10]
    group.ourSenderKey = receiving.senderKeys.lookup sender ∧
    heldAnswer (contextMessage sent) = some (.error .authenticationFailed) ∧
    heldAnswer (sentMessage signed) = some (.ok [10]) := by
  refine ⟨rfl, ?_, ?_⟩ <;> decide +kernel

end Symbolic

end Sibna
