import Sibna.Server.Relay

/-!
# What the calls of the relay do

Each operation a call can come to, with what it has done before.
-/

namespace Sibna.Server.Relay

open Interleaving Text

abbrev Past := History Op Op.Ans

namespace Op

def returns : Op → Bool
  | .returned _ => true
  | _ => false

def looksUp : Op → Bool
  | .dedup (.get _) => true
  | _ => false

def stamps : Op → Bool
  | .dedup (.insert _ _) => true
  | _ => false

end Op

section
variable (past : Past) (ed : Ed25519) (c : Call)

def ExpiredIn (record : Bytes) : Prop :=
  record.length = 8 → ∃ now : Timestamp, ⟨.now, now⟩ ∈ past ∧
    i64FromBeBytes record < now.val - dedupWindow

structure Looked (key : Bytes) (found : Option (Option Bytes)) (past : Past) : Prop where
  unstamped : Without Op.stamps past
  unreturned : Without Op.returns past
  looked : ⟨.dedup (.get key), found⟩ ∈ past

def Cleared (key : Bytes) (past : Past) : Prop :=
  ∃ found, Looked key found past ∧ ∀ record, found = some (some record) → ExpiredIn past record

def Stamped (key : Bytes) (past : Past) : Prop :=
  Without Op.returns past ∧ ∃ value ans, ⟨.dedup (.insert key value), ans⟩ ∈ past

def IsQueued (envelope : SealedEnvelope) (key : Bytes) (item : QueueItem) : Prop :=
  key = queueKey envelope.recipientId envelope.messageId ∧
    ∃ now : Timestamp, ⟨.now, now⟩ ∈ past ∧ item = ⟨.envelope envelope, now.val + queueTtl⟩

def RouteDoes (senderId : Bytes) (envelope : SealedEnvelope) (past : Past) : Op → Prop
  | .now => True
  | .dedup (.get key) => key = dedupKey envelope.messageId ∧ Without Op.looksUp past
  | .dedup (.remove key) => key = dedupKey envelope.messageId ∧ Cleared key past
  | .dedup (.insert key value) => key = dedupKey envelope.messageId ∧ Cleared key past ∧
      ∃ now : Timestamp, ⟨.now, now⟩ ∈ past ∧ value = now.record
  | .queue (.insert key item) => envelope.WellFormed ∧ Stamped (dedupKey envelope.messageId) past ∧
      verifySender ed senderId envelope.canonical envelope.signatureHex = .ok () ∧
      ∃ now : Timestamp, IsQueued past { envelope with timestamp := now.val } key item
  | .push recipientId _ => recipientId = envelope.recipientId ∧
      Stamped (dedupKey envelope.messageId) past
  | .returned _ => True
  | _ => False

def WebrtcDoes : Op → Prop
  | .now => True
  | .newUuid => True
  | .push _ _ => True
  | .queue (.insert _ item) => ∃ signal, item.content = .signal signal
  | .returned _ => True
  | _ => False

def AckDoes (identityId messageId : Bytes) : Op → Prop
  | .queue (.remove key) => key = queueKey identityId messageId
  | .returned _ => True
  | _ => False

def LapsedIn (item : QueueItem) : Prop :=
  ∃ now : Timestamp, ⟨.now, now⟩ ∈ past ∧ item.expires < now.val

def ConnectDoes (identityId : Bytes) (past : Past) : Op → Prop
  | .queue (.scanPrefix pfx) => pfx = queuePrefix identityId
  | .queue (.remove key) => queuePrefix identityId <+: key ∧ ∀ pfx entries item,
      ⟨.queue (.scanPrefix pfx), entries⟩ ∈ past → (key, item) ∈ entries →
        (∃ signal, item.content = .signal signal) ∨ LapsedIn past item
  | .queue _ => False
  | .dedup _ => False
  | .enforceRateLimit _ _ => False
  | .newUuid => False
  | .push _ _ => False
  | _ => True

def SendMessageRequest.Carries (req : SendMessageRequest) (envelope : SealedEnvelope) : Prop :=
  envelope.recipientId = req.recipientId ∧ envelope.payloadHex = req.payloadHex ∧
    envelope.compressed = req.compressed.getD false

def SendDoes (req : SendMessageRequest) (past : Past) : Op → Prop
  | .enforceRateLimit _ _ => True
  | .newUuid => True
  | .now => True
  | .push recipientId _ => recipientId = req.recipientId
  | .queue (.insert key item) => ∃ envelope, req.Carries envelope ∧ IsQueued past envelope key item
  | .returned (.response r) => r.status = .tooManyRequests ∨
      (r.status = .ok ∧ ∃ frame, ⟨.push req.recipientId frame, true⟩ ∈ past) ∨
      (r.status = .accepted ∧ ∃ key envelope expires ans,
        ⟨.queue (.insert key ⟨.envelope envelope, expires⟩), ans⟩ ∈ past)
  | _ => False

/-- The answer to a request that has scanned the queue holds what was there, save what had
expired. -/
def AnswersInbox (r : Response Inbox) : Prop :=
  ∀ pfx entries, ⟨.queue (.scanPrefix pfx), entries⟩ ∈ past → ∃ inbox, r = ⟨.ok, .json inbox⟩ ∧
    ∀ key item, (key, item) ∈ entries → item.envelope ∈ inbox.messages ∨ LapsedIn past item

def InboxDoes (identityId : Bytes) (past : Past) : Op → Prop
  | .enforceRateLimit _ _ => True
  | .now => True
  | .queue (.scanPrefix pfx) => pfx = queuePrefix identityId ∧ Without Op.returns past
  | .queue (.remove key) => queuePrefix identityId <+: key
  | .returned (.response r) => AnswersInbox past r
  | _ => False

def PruneDoes : Op → Prop
  | .now => True
  | .dedup .iter => True
  | .dedup (.remove _) => True
  | .returned _ => True
  | _ => False

def Does (past : Past) : Op → Prop :=
  match c with
  | .connect claims => ConnectDoes claims.sub past
  | .frame claims (.envelope envelope) => RouteDoes ed claims.sub envelope past
  | .frame claims (.ack messageId) => AckDoes claims.sub messageId
  | .frame _ (.webRtc _) => WebrtcDoes
  | .send _ req => SendDoes req past
  | .inbox claims _ => InboxDoes claims.sub past
  | .prune => PruneDoes

def WsMessage.recipientId : WsMessage → Option Bytes
  | .envelope e => some e.recipientId
  | .ack _ => none
  | .webRtc signal => some signal.recipientId

def Frame.recipientId : Frame → Option Bytes
  | .tagged message => message.recipientId
  | .bare envelope => some envelope.recipientId

def QueueItem.recipientId (item : QueueItem) : Bytes :=
  match item.content with
  | .envelope envelope => envelope.recipientId
  | .signal signal => signal.recipientId

def Call.reader : Call → Option Claims
  | .connect claims => some claims
  | .inbox claims _ => some claims
  | _ => none

def Frame.envelope : Frame → Option SealedEnvelope
  | .tagged (.envelope envelope) => some envelope
  | .bare envelope => some envelope
  | _ => none

def Call.Routes (envelope : SealedEnvelope) : Prop :=
  ∃ claims submitted, c = .frame claims (.envelope submitted) ∧
    verifySender ed claims.sub submitted.canonical submitted.signatureHex = .ok () ∧
    ∃ now : Timestamp, envelope = { submitted with timestamp := now.val }

def Call.Posts (envelope : SealedEnvelope) : Prop :=
  (∃ claims req, c = .send claims req) ∧ envelope.signatureHex = []

def Call.Makes (envelope : SealedEnvelope) : Prop :=
  c.Routes ed envelope ∨ c.Posts envelope

def FoundIn (envelope : SealedEnvelope) : Prop :=
  ∃ pfx entries key item, ⟨.queue (.scanPrefix pfx), entries⟩ ∈ past ∧ (key, item) ∈ entries ∧
    item.envelope = some envelope

def Performs (past : Past) : Op → Prop
  | .register identity channel => (∃ claims, c = .connect claims ∧ identity = claims.sub) ∧
      ⟨.openChannel, channel⟩ ∈ past
  | .push recipientId frame => frame.recipientId = some recipientId ∧
      ∀ envelope ∈ frame.envelope, c.Makes ed envelope
  | .send _ frame => ∀ envelope ∈ frame.envelope, FoundIn past envelope
  | .queue (.insert key item) => (∃ id, key = queueKey item.recipientId id) ∧
      ∀ envelope ∈ item.envelope, c.Makes ed envelope
  | .queue (.scanPrefix pfx) => ∃ claims, c.reader = some claims ∧ pfx = queuePrefix claims.sub
  | _ => True

/-- Both of what is known of an operation. -/
abbrev Takes (past : Past) (op : Op) : Prop :=
  Does ed c past op ∧ Performs ed c past op

end

lemma colon_notMem_of_wellFormed {envelope : SealedEnvelope} (h : envelope.WellFormed) :
    colon ∉ envelope.recipientId := by
  intro hm
  have hdi := List.all_eq_true.mp h.2.1.2 colon hm
  exact absurd hdi (by decide)

lemma queueKey_inj {r r' mi m' : Bytes} (h : queueKey r mi = queueKey r' m') (hco : colon ∉ r)
    (hc' : colon ∉ r') : r = r' ∧ mi = m' :=
  first_field (List.append_cancel_left h) hco hc'

lemma eq_of_queuePrefix {i r mi : Bytes} (h : queuePrefix i <+: queueKey r mi) (hco : colon ∉ i)
    (hc' : colon ∉ r) : i = r :=
  first_field_of_begins ((List.prefix_append_right_inj _).mp h) hco hc'

section
variable {ed : Ed25519} {c : Call} {past : Past} {key : Bytes}

lemma does_dedup {op : TreeOp Bytes} (h : Does ed c past (.dedup op)) :
    (∃ claims envelope, c = .frame claims (.envelope envelope) ∧
      RouteDoes ed claims.sub envelope past (.dedup op)) ∨ c = .prune := by
  cases c with
  | frame claims message =>
    cases message with
    | envelope envelope => exact .inl ⟨claims, envelope, rfl, h⟩
    | ack | webRtc => exact h.elim
  | connect | send | inbox => exact h.elim
  | prune => exact .inr rfl

lemma does_queue_remove (h : Does ed c past (.queue (.remove key))) :
    (∃ claims messageId, c = .frame claims (.ack messageId) ∧ key = queueKey claims.sub messageId) ∨
    (∃ claims identityKeyHex, c = .inbox claims identityKeyHex ∧ queuePrefix claims.sub <+: key) ∨
    ∃ claims, c = .connect claims ∧ ConnectDoes claims.sub past (.queue (.remove key)) := by
  cases c with
  | frame claims message =>
    cases message with
    | ack messageId => exact .inl ⟨claims, messageId, rfl, h⟩
    | envelope | webRtc => exact h.elim
  | inbox claims identityKeyHex => exact .inr (.inl ⟨claims, identityKeyHex, rfl, h⟩)
  | connect claims => exact .inr (.inr ⟨claims, rfl, h⟩)
  | send | prune => exact h.elim

@[simp] lemma Shared.send_tableDedup (s : Shared) (e : OpEnv) (ch : Nat) (f : Frame) :
    (s.send e ch f).tableDedup = s.tableDedup := by
  unfold Shared.send
  split <;> rfl

@[simp] lemma Shared.send_tableQueue (s : Shared) (e : OpEnv) (ch : Nat) (f : Frame) :
    (s.send e ch f).tableQueue = s.tableQueue := by
  unfold Shared.send
  split <;> rfl

lemma lookup_dedup_act (e : OpEnv) (op : Op) (s : Shared) (k : Bytes) :
    Table.Steps Op.dedup op e.access s.tableDedup (act e op s).2.tableDedup k := by
  cases op with
  | dedup op => exact .act Op.dedup op _ _ k
  | push r f =>
    refine .inl ?_
    simp only [act]
    split <;> simp
  | send ch f => exact .inl (by simp [act])
  | _ => exact .inl rfl

lemma lookup_queue_act (e : OpEnv) (op : Op) (s : Shared) (k : Bytes) :
    Table.Steps Op.queue op e.access s.tableQueue (act e op s).2.tableQueue k := by
  cases op with
  | queue op => exact .act Op.queue op _ _ k
  | push r f =>
    refine .inl ?_
    simp only [act]
    split <;> simp
  | send ch f => exact .inl (by simp [act])
  | _ => exact .inl rfl

end

section
variable {key : Bytes} {past : Past} {op : Op}

lemma ExpiredIn.cons {r : Bytes} (h : ExpiredIn past r) {ans : op.Ans} :
    ExpiredIn (⟨op, ans⟩ :: past) r := by
  intro hl
  obtain ⟨now, hn, hlt⟩ := h hl
  exact ⟨now, .tail _ hn, hlt⟩

lemma Looked.cons {f : Option (Option Bytes)} (h : Looked key f past)
    (hst : op.stamps = false) (hre : op.returns = false) {ans : op.Ans} :
    Looked key f (⟨op, ans⟩ :: past) where
  unstamped := h.unstamped.cons hst
  unreturned := h.unreturned.cons hre
  looked := List.mem_cons_of_mem _ h.looked

lemma Cleared.cons (h : Cleared key past) (hst : op.stamps = false)
    (hre : op.returns = false) {ans : op.Ans} : Cleared key (⟨op, ans⟩ :: past) := by
  obtain ⟨f, hl, hep⟩ := h
  exact ⟨f, hl.cons hst hre, fun r hrc =>
    (hep r hrc).cons⟩

lemma Stamped.cons (h : Stamped key past) (hre : op.returns = false) {ans : op.Ans} :
    Stamped key (⟨op, ans⟩ :: past) := by
  obtain ⟨hu, v, ans', hm⟩ := h
  exact ⟨hu.cons hre, v, ans', .tail _ hm⟩

end

section
variable (ed : Ed25519) (claims : Claims) (envelope : SealedEnvelope) {past : Past}

lemma always_isExpired {key ex : Bytes} {f : Option (Option Bytes)} (h : Looked key f past) :
    (isExpired ex).Always (relay ed).Possible (Takes ed (.frame claims (.envelope envelope)))
    (fun past expired => Looked key f past ∧ (expired = true → ExpiredIn past ex)) past := by
  unfold isExpired
  split
  · refine Prog.always_perform ⟨trivial, trivial⟩ fun now _ => ?_
    refine ⟨h.cons rfl rfl, fun hep _ => ?_⟩
    exact ⟨now, .head _, of_decide_eq_true hep⟩
  · rename_i hl
    exact ⟨h, fun _ hl' => absurd hl' hl⟩

lemma always_isDuplicate :
    (isDuplicate (dedupKey envelope.messageId)).Always (relay ed).Possible
      (Takes ed (.frame claims (.envelope envelope)))
      (fun past duplicate => duplicate = false →
        Cleared (dedupKey envelope.messageId) past) [] := by
  refine Prog.always_perform ⟨⟨rfl, Without.nil _⟩, trivial⟩ fun f _ => ?_
  have hl : Looked (dedupKey envelope.messageId) f
      [⟨.dedup (.get _), f⟩] :=
    ⟨(Without.nil _).cons rfl, (Without.nil _).cons rfl, .head _⟩
  split
  · refine (always_isExpired ed claims envelope hl).bind fun past ex h => ?_
    obtain ⟨hl, hep⟩ := h
    cases ex with
    | false => exact nofun
    | true =>
      have hcl : Cleared (dedupKey envelope.messageId) past := by
        refine ⟨_, hl, fun r hre => ?_⟩
        cases Option.some.inj hre
        exact hep rfl
      exact Prog.always_perform ⟨⟨rfl, hcl⟩, trivial⟩ fun re _ _ => hcl.cons rfl rfl
  · rename_i hn
    intro _
    exact ⟨_, hl, fun r hre => absurd hre (hn r)⟩

lemma always_forward (hwf : envelope.WellFormed)
    (hv : verifySender ed claims.sub envelope.canonical envelope.signatureHex = .ok ())
    (h : Stamped (dedupKey envelope.messageId) past) :
    (forward envelope).Always (relay ed).Possible (Takes ed (.frame claims (.envelope envelope)))
      (fun _ _ => True) past := by
  refine Prog.always_perform ⟨trivial, trivial⟩ fun now _ => ?_
  have hm : ∀ routed, some { envelope with timestamp := now.val } = some routed →
      Call.Makes ed (.frame claims (.envelope envelope)) routed := by
    rintro _ ⟨⟩
    exact .inl ⟨claims, envelope, rfl, hv, now, rfl⟩
  refine Prog.always_perform ⟨trivial, trivial⟩ fun now' _ => ?_
  refine Prog.always_perform
    ⟨⟨hwf, (h.cons rfl).cons rfl, hv, now, rfl, now', .head _, rfl⟩,
      ⟨envelope.messageId, rfl⟩, hm⟩ fun q _ => ?_
  exact Prog.always_perform ⟨⟨rfl, ((h.cons rfl).cons rfl).cons rfl⟩, rfl, hm⟩ fun p _ => trivial

lemma always_stampAndVerify (hwf : envelope.WellFormed)
    (h : Cleared (dedupKey envelope.messageId) past) :
    (stampAndVerify ed claims.sub envelope).Always (relay ed).Possible
      (Takes ed (.frame claims (.envelope envelope))) (fun _ _ => True) past := by
  refine Prog.always_perform ⟨trivial, trivial⟩ fun now _ => ?_
  refine Prog.always_perform ⟨⟨rfl, h.cons rfl rfl, now, .head _, rfl⟩, trivial⟩ fun i _ => ?_
  split
  · trivial
  rename_i hv
  obtain ⟨f, hl, -⟩ := h
  refine always_forward ed claims envelope hwf hv ⟨?_, _, _, .head _⟩
  exact (hl.unreturned.cons rfl).cons rfl

lemma always_routeMessage :
    (routeMessage ed claims.sub envelope).Always (relay ed).Possible
      (Takes ed (.frame claims (.envelope envelope))) (fun _ _ => True) [] := by
  by_cases hwf : envelope.WellFormed
  · rw [routeMessage_of_wellFormed ed claims.sub hwf]
    refine (always_isDuplicate ed claims envelope).bind fun past du h => ?_
    cases du with
    | true => trivial
    | false => exact always_stampAndVerify ed claims envelope hwf (h rfl)
  · obtain ⟨r, -, hro⟩ := routeMessage_of_not_wellFormed ed claims.sub hwf
    rw [hro]
    trivial

end

section
variable (ed : Ed25519)

lemma always_routeWebrtc (claims : Claims) (si : WebRtcSignal) :
    (routeWebrtc ed claims.sub si).Always (relay ed).Possible
      (Takes ed (.frame claims (.webRtc si))) (fun _ _ => True) [] := by
  unfold routeWebrtc
  split
  · trivial
  split
  · trivial
  refine Prog.always_perform ⟨trivial, trivial⟩ fun now _ => ?_
  refine Prog.always_perform ⟨trivial, rfl, nofun⟩ fun p _ => ?_
  cases p with
  | true => trivial
  | false =>
    refine Prog.always_perform ⟨trivial, trivial⟩ fun uuid _ => ?_
    refine Prog.always_perform ⟨trivial, trivial⟩ fun now' _ => ?_
    exact Prog.always_perform ⟨⟨_, rfl⟩, ⟨_, rfl⟩, nofun⟩ fun q _ => trivial

variable {past : Past}

lemma always_removeAll {Q : Past → Op → Prop} {r : Bytes → Op} {P : Past → Prop}
    {keys : List Bytes} (hP : P past) (hQ : ∀ past, P past → ∀ key ∈ keys, Q past (r key))
    (hco : ∀ past key ans, P past → P (⟨r key, ans⟩ :: past)) :
    (removeAll r keys).Always (relay ed).Possible Q (fun past _ => P past) past := by
  induction keys generalizing past with
  | nil => exact hP
  | cons key keys ih =>
    refine Prog.always_perform (hQ past hP key (.head _)) fun re _ => ?_
    exact ih (hco past key re hP) fun past hP key' hm =>
      hQ past hP key' (.tail _ hm)

lemma possible_scan {pfx key : Bytes} {item : QueueItem} {en : List (Bytes × QueueItem)}
    (h : (relay ed).Possible (.queue (.scanPrefix pfx)) en) (hm : (key, item) ∈ en) :
    pfx <+: key ∧ ∀ item', (key, item') ∈ en → item' = item := by
  obtain ⟨e, s, rfl⟩ := h
  obtain ⟨hl, hpf⟩ := Table.mem_scanPrefix hm
  refine ⟨hpf, fun item' hm' => ?_⟩
  exact Option.some.inj ((Table.mem_scanPrefix hm').1.symm.trans hl)

structure Scanned (now : Timestamp) (entries : List (Bytes × QueueItem)) (past : Past) : Prop where
  read : ⟨.now, now⟩ ∈ past
  only : ∀ pfx entries', ⟨.queue (.scanPrefix pfx), entries'⟩ ∈ past → entries' = entries

lemma Scanned.cons {now : Timestamp} {en : List (Bytes × QueueItem)} {past : Past} {op : Op}
    {ans : op.Ans} (h : Scanned now en past) (hop : ∀ pfx, op ≠ .queue (.scanPrefix pfx)) :
    Scanned now en (⟨op, ans⟩ :: past) where
  read := List.mem_cons_of_mem _ h.read
  only pfx entries' hm := by
    rcases List.mem_cons.mp hm with heq | hm
    · exact absurd (congrArg Sigma.fst heq).symm (hop pfx)
    · exact h.only pfx entries' hm

def Due (now : Timestamp) (entries : List (Bytes × QueueItem)) (key : Bytes) : Prop :=
  ∃ item, (key, item) ∈ entries ∧
    ((∃ signal, item.content = .signal signal) ∨ item.expires < now.val)

lemma always_deliverEntries {claims : Claims} {ch : Nat} {now : Timestamp}
    {en rest : List (Bytes × QueueItem)} {pfx : Bytes} (h : Scanned now en past)
    (hr : rest ⊆ en) (hf : ⟨.queue (.scanPrefix pfx), en⟩ ∈ past) :
    (deliverEntries ch now rest).Always (relay ed).Possible (Takes ed (.connect claims))
      (fun past toDelete => Scanned now en past ∧ ∀ key ∈ toDelete, Due now en key)
      past := by
  induction rest generalizing past with
  | nil => exact ⟨h, nofun⟩
  | cons et rest ih =>
    obtain ⟨key, item⟩ := et
    obtain ⟨hen, hr⟩ := List.cons_subset.mp hr
    have hde : Due now en key → ∀ past toDelete,
        (Scanned now en past ∧ ∀ key ∈ toDelete, Due now en key) →
        Scanned now en past ∧ ∀ key' ∈ key :: toDelete, Due now en key' := by
      rintro hdu past toDelete ⟨h, hke⟩
      exact ⟨h, List.forall_mem_cons.mpr ⟨hdu, hke⟩⟩
    unfold deliverEntries
    split
    · rename_i hl
      exact (ih h hr hf).bind (hde ⟨item, hen, .inr hl⟩)
    split
    · rename_i envelope hco
      have hse : FoundIn past envelope :=
        ⟨pfx, en, key, item, hf, hen, by rw [QueueItem.envelope, hco]⟩
      refine Prog.always_perform ⟨trivial, fun _ h => by cases h; exact hse⟩ fun _ _ => ?_
      exact ih (h.cons (by simp)) hr (.tail _ hf)
    · rename_i signal hsi
      refine Prog.always_perform ⟨trivial, nofun⟩ fun _ _ => ?_
      exact (ih (h.cons (by simp)) hr (.tail _ hf)).bind
        (hde ⟨item, hen, .inl ⟨signal, hsi⟩⟩)

lemma always_deliverQueuedMessages {claims : Claims} {ch : Nat}
    (h : ∀ pfx entries, ⟨.queue (.scanPrefix pfx), entries⟩ ∉ past) :
    (deliverQueuedMessages claims.sub ch).Always (relay ed).Possible (Takes ed (.connect claims))
    (fun _ _ => True) past := by
  refine Prog.always_perform ⟨trivial, trivial⟩ fun now _ => ?_
  refine Prog.always_perform ⟨rfl, claims, rfl, rfl⟩ fun entries hen => ?_
  have hsc : Scanned now entries (⟨.queue (.scanPrefix (queuePrefix claims.sub)), entries⟩ ::
      ⟨.now, now⟩ :: past) := by
    refine ⟨.tail _ (.head _), fun pfx e' hm => ?_⟩
    rcases List.mem_cons.mp hm with heq | hm
    · cases heq
      rfl
    · rcases List.mem_cons.mp hm with heq | hm
      · cases heq
      · exact absurd hm (h pfx e')
  refine (always_deliverEntries ed hsc (List.Subset.refl _) (.head _)).bind fun past td h => ?_
  refine (always_removeAll ed h.1 ?_ ?_).imp fun _ _ _ => trivial
  · intro past hsc key hk
    obtain ⟨item, hit, hdu⟩ := h.2 key hk
    obtain ⟨hpf, ho⟩ := possible_scan ed hen hit
    refine ⟨⟨hpf, fun pfx e' item' hm hi' => ?_⟩, trivial⟩
    rw [hsc.only pfx e' hm] at hi'
    obtain rfl := ho item' hi'
    rcases hdu with hsi | hl
    · exact .inl hsi
    · exact .inr ⟨now, hsc.read, hl⟩
  · intro past key ans hsc
    exact hsc.cons (by simp)

lemma always_handleWs (claims : Claims) :
    (handleWs claims.sub).Always (relay ed).Possible (Takes ed (.connect claims)) (fun _ _ => True)
    [] := by
  refine Prog.always_perform ⟨trivial, trivial⟩ fun ch _ => ?_
  refine Prog.always_perform ⟨trivial, ⟨claims, rfl, rfl⟩, .head _⟩ fun _ _ => ?_
  refine (always_deliverQueuedMessages ed (by simp)).bind fun past _ _ => ?_
  refine Prog.always_perform ⟨trivial, trivial⟩ fun _ _ => ?_
  exact Prog.always_perform ⟨trivial, trivial⟩ fun _ _ => trivial

lemma always_sendMessageHandler (claims : Claims) (req : SendMessageRequest) :
    (sendMessageHandler claims req).Always (relay ed).Possible (Takes ed (.send claims req))
    (fun past r => SendDoes req past (.returned (.response r))) [] := by
  refine Prog.always_perform ⟨trivial, trivial⟩ fun re _ => ?_
  cases re with
  | some text => exact .inl rfl
  | none =>
    refine Prog.always_perform ⟨trivial, trivial⟩ fun uuid _ => ?_
    refine Prog.always_perform ⟨trivial, trivial⟩ fun now _ => ?_
    have hm : ∀ posted : SealedEnvelope,
        some ⟨req.recipientId, req.payloadHex, req.compressed.getD false, uuid, now.val, []⟩ =
          some posted → Call.Makes ed (.send claims req) posted := by
      rintro _ ⟨⟩
      exact .inr ⟨⟨claims, req, rfl⟩, rfl⟩
    refine Prog.always_perform ⟨rfl, rfl, hm⟩ fun p _ => ?_
    cases p with
    | true => exact .inr (.inl ⟨rfl, _, .head _⟩)
    | false =>
      refine Prog.always_perform ⟨trivial, trivial⟩ fun now' _ => ?_
      refine Prog.always_perform
        ⟨⟨_, ⟨rfl, rfl, rfl⟩, rfl, now', .head _, rfl⟩, ⟨uuid, rfl⟩, hm⟩
        fun q _ => ?_
      exact .inr (.inr ⟨rfl, _, _, _, _, .head _⟩)

lemma always_inboxHandler (claims : Claims) (i : Bytes) :
    (inboxHandler claims i).Always (relay ed).Possible (Takes ed (.inbox claims i))
    (fun past r => InboxDoes claims.sub past (.returned (.response r))) [] := by
  unfold inboxHandler
  split
  · exact nofun
  refine Prog.always_perform ⟨trivial, trivial⟩ fun re _ => ?_
  cases re with
  | some text =>
    intro pfx en hm
    cases List.mem_singleton.mp hm
  | none =>
    refine Prog.always_perform ⟨trivial, trivial⟩ fun now _ => ?_
    refine Prog.always_perform
      ⟨⟨rfl, ((Without.nil _).cons rfl).cons rfl⟩, claims, rfl, rfl⟩ fun en hen => ?_
    have hsc : Scanned now en [⟨.queue (.scanPrefix (queuePrefix claims.sub)), en⟩,
        ⟨.now, now⟩, ⟨.enforceRateLimit "inbox_fetch" claims.sub, none⟩] := by
      refine ⟨.tail _ (.head _), fun pfx e' hm => ?_⟩
      simp only [List.mem_cons, Sigma.mk.injEq, Op.queue.injEq,
        TreeOp.scanPrefix.injEq, reduceCtorEq,
        false_and, List.not_mem_nil, or_false] at hm
      obtain ⟨rfl, hm⟩ := hm
      exact eq_of_heq hm
    refine (always_removeAll ed hsc ?_ ?_).bind fun past _ hsc => ?_
    · intro past _ key hk
      obtain ⟨⟨key', item⟩, hit, rfl⟩ := List.mem_map.mp hk
      exact ⟨(possible_scan ed hen hit).1, trivial⟩
    · intro past key ans hsc
      exact hsc.cons (by simp)
    intro pfx e' hm
    refine ⟨inboxOf now en, rfl, fun key item hit => ?_⟩
    rw [hsc.only pfx e' hm] at hit
    by_cases hl : now.val > item.expires
    · exact .inr ⟨now, hsc.read, hl⟩
    · refine .inl (List.mem_map.mpr ⟨(key, item), List.mem_filter.mpr ⟨hit, ?_⟩, rfl⟩)
      exact decide_eq_true hl

lemma always_pruneDedup :
    pruneDedup.Always (relay ed).Possible (Takes ed .prune) (fun _ _ => True) [] := by
  refine Prog.always_perform ⟨trivial, trivial⟩ fun now _ => ?_
  refine Prog.always_perform ⟨trivial, trivial⟩ fun en _ => ?_
  exact always_removeAll ed (P := fun _ => True) trivial (fun _ _ _ _ => ⟨trivial, trivial⟩)
    fun _ _ _ _ => trivial

lemma always_handle (c : Call) :
    (handle ed c).Always (relay ed).Possible (Takes ed c)
    (fun past result => Does ed c past (.returned result)) [] := by
  cases c with
  | connect claims => exact (always_handleWs ed claims).bind fun _ _ _ => trivial
  | frame claims me =>
    cases me with
    | envelope envelope =>
      exact (always_routeMessage ed claims envelope).bind fun _ _ _ => trivial
    | ack mi => exact Prog.always_perform ⟨rfl, trivial⟩ fun _ _ => trivial
    | webRtc si => exact (always_routeWebrtc ed claims si).bind fun _ _ _ => trivial
  | send claims req => exact (always_sendMessageHandler ed claims req).bind fun _ _ h => h
  | inbox claims i =>
    exact (always_inboxHandler ed claims i).bind fun _ _ h => h
  | prune => exact (always_pruneDedup ed).bind fun _ _ _ => trivial

lemma always_body (c : Call) :
    ((relay ed).body c).Always (relay ed).Possible (Takes ed c) (fun _ _ => True) [] :=
  (always_handle ed c).bind fun _ _ h => Prog.always_perform ⟨h, trivial⟩ fun _ _ => trivial

section
variable {I : State (relay ed) → Prop} {s : Shared} (hin : I ⟨s, []⟩)
include hin

lemma relayed_invariant {ok : State (relay ed) → Nat → Call → OpEnv → Op → Prop}
    (hs : ∀ {s i c e op}, I s → ok s i c e op → s.Runs i c → Does ed c (s.past i) op →
      I (s.perform i c e op))
    {es : Schedule (relay ed)}
    (hes : Along ok s es) :
    I (relayed ed s es).state :=
  (Traced.run (always_body ed) (fun h hok hca hop => hs h hok hca hop.1)
    (Traced.initial (M := relay ed) s) hin hes).2

lemma performed_invariant
    (hs : ∀ {s i c e op}, I s → s.Runs i c → Performs ed c (s.past i) op → I (s.perform i c e op))
    (es : Schedule (relay ed)) : I (relayed ed s es).state :=
  (Traced.run (always_body ed) (fun h (_ : True) hca hop => hs h hca hop.2)
    (Traced.initial (M := relay ed) s) hin
    (guarded_of_always (fun _ _ _ _ _ => trivial) _ es)).2

end

variable {ed}

lemma clock_of_now {s : State (relay ed)} (h : s.Answered) {i : Nat} {now : Timestamp}
    (hn : ⟨.now, now⟩ ∈ s.past i) :
    ∃ entry ∈ s.log, entry.thread = i ∧ entry.env.clock = now := by
  obtain ⟨entry, hen, hi, hdo⟩ := State.mem_past.mp hn
  obtain ⟨sh, han⟩ := h entry hen
  refine ⟨entry, hen, hi, ?_⟩
  obtain ⟨th, call, env, op, ans⟩ := entry
  cases hdo
  exact han.symm

end

end Sibna.Server.Relay
