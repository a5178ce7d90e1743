import Sibna.Group.Runs

/-!
# Members and their sender keys

A message is accepted with a key behind the stored one. Members are a list, accepted keys a map, and
only `remove_member` looks at both.
-/

namespace Sibna

open HashChain KeyAlgebra Runs

variable {S : Suite} {G : GroupSuite S}

/-- Symbolic HKDF for sender chains: every key has one derivation. -/
structure GroupSuite.SymbolicKdf (G : GroupSuite S) where
  Atom : Type
  Shared : Type
  term : S.Key → KeyTerm Atom Shared
  term_injective : Function.Injective term
  term_messageKey : ∀ k, term (G.messageKey k) = .mac (term k) 1
  term_nextChain : ∀ k, term (G.nextChain k) = .mac (term k) 2

namespace GroupSuite.SymbolicKdf

lemma pos_iterate (K : G.SymbolicKdf) (k : S.Key) (i : Nat) :
    (K.term (G.nextChain^[i] k)).pos 2 = (K.term k).pos 2 + i := by
  induction i with
  | zero => rfl
  | succ i ih =>
    rw [Function.iterate_succ_apply', K.term_nextChain, KeyTerm.pos, if_pos rfl, ih]
    rfl

lemma acyclic (K : G.SymbolicKdf) : Acyclic G.nextChain G.messageKey := by
  intro k i j h
  have hpo := congrArg (fun k => (K.term k).pos 2) h
  have hne : ¬ (1 : UInt8) = 2 := by decide
  simp only [K.term_messageKey, KeyTerm.pos, hne, if_false, pos_iterate] at hpo
  omega

end GroupSuite.SymbolicKdf

namespace GroupSession

structure Receiver (S : Suite) where
  session : GroupSession S
  accepted : List (GroupMessage × Bytes32)

def Receiver.step (G : GroupSuite S) (w : Receiver S) (call : GroupCall S) : Receiver S :=
  ⟨w.session.step G call, (accepts G w.session call).toList ++ w.accepted⟩

def Passed (G : GroupSuite S) (s : GroupSession S) (m : GroupMessage) (sk : SenderKey S) : Prop :=
  m.senderKeyId < sk.keyId ∨ m.senderKeyId = sk.keyId ∧
    (sk.messageNumber.toNat + 1 = 2 ^ 32 ∨
      ∃ c : Cursor S.Key, c.Reaches G.nextChain sk.cursor ∧ c.number < sk.messageNumber.toNat ∧
        ∃ plaintext, openMessage s (G.messageKey c.key) m.ciphertext = .ok plaintext)

structure Spent (G : GroupSuite S) (s : GroupSession S) (x : GroupMessage × Bytes32) : Prop where
  signed : x.1.verifySender G x.2 = .ok ()
  passed : ∃ sk, s.senderKeys.lookup x.2 = some sk ∧ Passed G s x.1 sk

variable {s s' : GroupSession S} {m : GroupMessage} {pk : Bytes32} {sk : SenderKey S}

lemma openMessage_congr (h : s'.groupId = s.groupId) (key : S.Key) (ci : Bytes) :
    openMessage s' key ci = openMessage s key ci := by
  rw [openMessage, openMessage, h]

lemma Passed.congr (hg : s'.groupId = s.groupId) (h : Passed G s m sk) : Passed G s' m sk := by
  unfold Passed
  simp only [openMessage_congr hg]
  exact h

lemma Passed.advances {sk' : SenderKey S} (h : Passed G s m sk) (had : Advances G sk sk') :
    Passed G s m sk' := by
  obtain ⟨hid, hm⟩ := had
  unfold Passed
  rw [hid]
  refine h.imp id fun ⟨hsa, hpa⟩ => ⟨hsa, ?_⟩
  rcases hm with hre | hl
  · have hle : sk.messageNumber.toNat ≤ sk'.messageNumber.toNat := hre.number_le
    have hb := sk'.messageNumber.toNat_lt
    rcases hpa with hl | ⟨c, hc, hlt, ho⟩
    · left
      omega
    · exact .inr ⟨c, hc.trans hre, by omega, ho⟩
  · exact .inl hl

lemma Passed.not_opens (K : G.SymbolicKdf) (hA : S.CommittingAead) {env : GroupEnv S} {p : Bytes}
    (h : Passed G s m sk) (har : Arrives G env s m pk sk) : ¬ Opens G env s m sk p := by
  intro hop
  obtain ⟨-, -, -, -, -, hid⟩ := checkMessage_ok.mp har.checked
  have hro := har.room
  rcases h with hlt | ⟨-, hla | ⟨c, hc, hlt, p', ho⟩⟩
  · simp_all
  · simp only [maxSkipGroup] at hro
    omega
  -- two keys of one chain open the same ciphertext
  obtain ⟨-, hoe⟩ := openMessage_ok.mp hop.opened
  obtain ⟨-, ho'⟩ := openMessage_ok.mp ho
  obtain ⟨-, -, hae⟩ := CryptoHandler.decrypt_ok hoe
  obtain ⟨-, -, ha'⟩ := CryptoHandler.decrypt_ok ho'
  have hg : s.groupId.val ≠ [] := by
    intro hem
    have hl := congrArg List.length hem
    rw [FixedBytes.length_val] at hl
    cases hl
  have hk := hA hg hg List.suffix_rfl ha' hae
  have hn := K.acyclic.number_eq (Cursor.Reaches.refl c) (hc.advance _) hk
  have hpl : (sk.cursor.advance G.nextChain (gap sk m)).number =
      sk.messageNumber.toNat + gap sk m := rfl
  omega

section
variable {x : GroupMessage × Bytes32} (h : Spent G s x) (hg : s'.groupId = s.groupId)
include h hg

lemma Spent.congr (hke : s'.senderKeys = s.senderKeys) : Spent G s' x := by
  obtain ⟨sk, hl, hpa⟩ := h.passed
  exact ⟨h.signed, sk, by rw [hke, hl], hpa.congr hg⟩

lemma Spent.of_insert {sk' : SenderKey S} (hke : s'.senderKeys = s.senderKeys.insert pk sk')
    (hsk : ∀ sk, s.senderKeys.lookup pk = some sk → Passed G s x.1 sk → Passed G s x.1 sk') :
    Spent G s' x := by
  obtain ⟨sk, hl, hpa⟩ := h.passed
  by_cases hpk : x.2 = pk
  · refine ⟨h.signed, sk', ?_, ?_⟩
    · rw [hke, hpk, AList.lookup_insert]
    · rw [hpk] at hl
      exact (hsk sk hl hpa).congr hg
  · refine ⟨h.signed, sk, ?_, hpa.congr hg⟩
    rw [hke, AList.lookup_insert_ne hpk, hl]

end

lemma Passed.keyId_le (h : Passed G s m sk) : m.senderKeyId ≤ sk.keyId := by
  rcases h with hlt | ⟨heq, -⟩
  · exact UInt32.le_of_lt hlt
  · exact UInt32.le_of_eq heq

lemma Spent.effect {x : GroupMessage × Bytes32} {call : GroupCall S} (hef : Effect G s call s')
    (h : Spent G s x) (hc : ∀ env pk, call ≠ .removeMember env pk) : Spent G s' x := by
  cases hef with
  | signs | own | added => exact h.congr rfl rfl
  | removed activity hc' => exact absurd hc' (hc _ _)
  | stored activity hs =>
    refine h.of_insert rfl rfl fun sk hl hpa => ?_
    rcases hs with ⟨sk₀, hl₀, had⟩ | ⟨-, hhi⟩
    · cases hl₀.symm.trans hl
      exact hpa.advances had
    · exact .inl (UInt32.lt_of_le_of_lt hpa.keyId_le (hhi sk hl))

lemma spent_of_accepts {call : GroupCall S} (h : accepts G s call = some (m, pk)) :
    Spent G (s.step G call) (m, pk) := by
  obtain ⟨env, sk, p, -, har, ho, heq⟩ := accepts_some h
  obtain ⟨-, -, -, hsi, -, hid⟩ := checkMessage_ok.mp har.checked
  rw [heq]
  refine ⟨hsi, sk.moved G _, AList.lookup_insert _, .inr ⟨hid.symm, .inr ?_⟩⟩
  refine ⟨sk.cursor.advance G.nextChain _, ?_, ?_, p, ho.opened⟩
  · rw [SenderKey.moved_cursor ho.number, ← Cursor.advance_advance]
    exact (Cursor.Reaches.refl _).advance 1
  · rw [SenderKey.moved_number ho.number]
    exact Nat.lt_succ_self _

lemma Spent.not_accepts (K : G.SymbolicKdf) (hA : S.CommittingAead) {R : SignatureRecord}
    (hR : R.Sound G.ed.verify) {pk' : Bytes32} (h : Spent G s (m, pk)) (call : GroupCall S) :
    accepts G s call ≠ some (m, pk') := by
  intro hac
  obtain ⟨env, sk, p, -, har, ho, -⟩ := accepts_some hac
  obtain ⟨-, -, -, hsi', hl', -⟩ := checkMessage_ok.mp har.checked
  obtain ⟨-, si, hsi, hv⟩ := verifySender_ok.mp h.signed
  obtain ⟨-, si', hs', hv'⟩ := verifySender_ok.mp hsi'
  obtain rfl := Subtype.ext (hsi.symm.trans hs')
  obtain ⟨rfl, -⟩ := hR.eq_of_verify hv hv'
  obtain ⟨sk', hl, hpa⟩ := h.passed
  cases hl.symm.trans hl'
  exact hpa.not_opens K hA har ho

/-- Over every run without removals no message is accepted twice. -/
theorem group_message_accepted_once (K : G.SymbolicKdf) (hA : S.CommittingAead)
    (R : SignatureRecord) (hR : R.Sound G.ed.verify) (s : GroupSession S)
    (calls : List (GroupCall S)) (hcalls : ∀ call ∈ calls, ∀ env pk, call ≠ .removeMember env pk) :
    ((exec (Receiver.step G) ⟨s, []⟩ calls).accepted.map Prod.fst).Nodup := by
  have hguarded : Guarded (Receiver.step G) _ ⟨s, []⟩ calls := guarded_of_mem _ hcalls
  have hinvariant := hguarded.invariant
    (I := fun w => (w.accepted.map Prod.fst).Nodup ∧ ∀ x ∈ w.accepted, Spent G w.session x)
    ?_ ⟨List.nodup_nil, nofun⟩
  · exact hinvariant.1
  rintro w call ⟨hnodup, hspent⟩ hcall
  have hkept := fun x hx => (hspent x hx).effect (effect_step w.session call) hcall
  cases haccepts : accepts G w.session call with
  | none =>
    simp only [Receiver.step, haccepts, Option.toList_none, List.nil_append]
    exact ⟨hnodup, hkept⟩
  | some x =>
    simp only [Receiver.step, haccepts, Option.toList_some, List.singleton_append, List.map_cons,
      List.nodup_cons]
    refine ⟨⟨?_, hnodup⟩, ?_⟩
    · intro hmem
      obtain ⟨⟨m', pk'⟩, hx, rfl⟩ := List.mem_map.mp hmem
      exact (hspent _ hx).not_accepts K hA hR call haccepts
    intro x hx
    rcases List.mem_cons.mp hx with rfl | hx
    · exact spent_of_accepts haccepts
    · exact hkept x hx

end GroupSession

namespace Symbolic

open GroupSession

def groupKdf (ed : Ed25519) : (group ed).SymbolicKdf where
  Atom := SessionAtom
  Shared := Shared
  term := id
  term_injective := Symbolic.term_injective
  term_messageKey := fun _ => rfl
  term_nextChain := fun _ => rfl

def groupEnv (t : Fin (2 ^ 63)) (b : UInt8) : GroupEnv suite :=
  ⟨GroupClock.at t (second_lt t), some (chainKey b), some nonce⟩

def firstMessage (t : Fin (2 ^ 63)) (ed : Ed25519) : GroupMessage :=
  sentMessage (encrypt (group ed) (groupEnv t 0) (sendingWith (keyMade (chainKey 1) 1)) [10])

def signedOnce (t : Fin (2 ^ 63)) : GroupSuite suite :=
  group (ed [(firstMessage t hashEd).signableBytes (group hashEd)])

theorem first_message_accepted_once :
    let G := signedOnce 1001
    let m := firstMessage 1001 G.ed
    let accepted := (exec (Receiver.step G) ⟨receivingWith (keyMade (chainKey 1) 1), []⟩
      [.decrypt (groupEnv 1002 0) m sender, .decrypt (groupEnv 1003 0) m sender]).accepted
    accepted.length = 1 ∧ (accepted.map Prod.fst).Nodup := by
  intro G m accepted
  refine ⟨by decide +kernel, ?_⟩
  apply group_message_accepted_once (groupKdf _) committingAead
    (signatures [(firstMessage 1001 hashEd).signableBytes (group hashEd)] (by decide))
    (signatures_sound _ _)
  simp

end Symbolic

end Sibna

namespace Sibna.GroupSession

open Runs

variable {S : Suite} {G : GroupSuite S}

def Enrolled (s : GroupSession S) : Prop :=
  ∀ pk sk, s.senderKeys.lookup pk = some sk → pk ∈ s.members

def ImportsMember (s : GroupSession S) (call : GroupCall S) : Prop :=
  ∀ env pk key, call = .importSenderKey env pk key → pk ∈ s.members

lemma Enrolled.insert {s : GroupSession S} (h : Enrolled s) {pk : Bytes32} {sk : SenderKey S}
    (hpk : pk ∈ s.members) : Enrolled { s with senderKeys := s.senderKeys.insert pk sk } := by
  intro q sk' hl
  rcases Maps.lookup_insert_some hl with ⟨rfl, -⟩ | ⟨-, hl⟩
  · exact hpk
  · exact h q sk' hl

lemma Enrolled.without {s : GroupSession S} (h : Enrolled s) (pk : Bytes32) :
    Enrolled (s.without pk) := by
  intro q sk hl
  obtain ⟨hne, hke⟩ := Maps.lookup_erase_some hl
  exact List.mem_filter.mpr ⟨h q sk hke, by simpa using hne⟩

lemma Enrolled.effect {s s' : GroupSession S} {call : GroupCall S} (hef : Effect G s call s')
    (h : Enrolled s) (hc : ImportsMember s call) : Enrolled s' := by
  cases hef with
  | signs | own => exact h
  | added env pk => exact fun q sk hl => List.mem_append_left _ (h q sk hl)
  | removed => exact h.without _
  | stored a hs =>
    rcases hs with ⟨sk, hl, -⟩ | ⟨⟨env, hc'⟩, -⟩
    · exact h.insert (h _ sk hl)
    · exact h.insert (hc env _ _ hc')

/-- In every run that imports keys for members only, from a session with no other keys, whoever a
message is accepted from is a member at that moment. -/
theorem accepted_sender_is_member (s : GroupSession S) (hs : Enrolled s)
    (before after : List (GroupCall S)) (call : GroupCall S)
    (hcalls : Guarded (step G) ImportsMember s (before ++ call :: after)) (m : GroupMessage)
    (pk : Bytes32) (haccepts : accepts G (exec (step G) s before) call = some (m, pk)) :
    pk ∈ (exec (step G) s before).members := by
  have hbefore := (guarded_append.mp hcalls).1
  have henrolled := hbefore.invariant (fun s call h hcall => h.effect (effect_step s call) hcall) hs
  obtain ⟨env, sk, plaintext, -, harrives, -⟩ := accepts_some haccepts
  exact henrolled pk sk harrives.lookup

open Symbolic

theorem stored_sender_is_member :
    let m := sentMessage
      (encrypt shortGroup (shortEnv 1001 0) sending [10])
    accepts shortGroup receiving
      (.decrypt (shortEnv 1002 0) m sender) = some (m, sender) ∧
    sender ∈ receiving.members := by
  intro m
  have haccepts : accepts shortGroup receiving
      (.decrypt (shortEnv 1002 0) m sender) = some (m, sender) := by
    decide +kernel
  have henrolled : Enrolled receiving := by
    intro pk sk hlookup
    have hstored : pk ∈ receiving.senderKeys :=
      AList.lookup_isSome.mp (Option.isSome_of_mem hlookup)
    exact AList.mem_keys.mp hstored
  refine ⟨haccepts, accepted_sender_is_member (G := shortGroup) receiving
    henrolled [] [] _ ⟨?_, trivial⟩ m _ haccepts⟩
  intro env pk key h
  cases h

/-- A member is removed, its old key imported once more, and its next message accepted. -/
theorem removed_member_accepted :
    let calls : List (GroupCall short) :=
      [.removeMember (shortEnv 1001 0) sender,
        .importSenderKey (shortEnv 1002 0) sender (senderKey 1 1)]
    let s := exec (step shortGroup) receiving calls
    let m := sentMessage (encrypt shortGroup (shortEnv 1003 0)
      { sending with epoch := 2 } [10])
    sender ∈ receiving.members ∧
    accepts shortGroup s (.decrypt (shortEnv 1004 0) m sender) = some (m, sender) ∧
    sender ∉ s.members := by
  refine ⟨?_, ?_, ?_⟩ <;> decide +kernel

end Sibna.GroupSession

namespace Sibna

open KeyAlgebra Runs

variable {S : Suite} {G : GroupSuite S}

namespace GroupSession

section
variable (G : GroupSuite S)

def encryptionKey (env : GroupEnv S) (s : GroupSession S) : Option S.Key :=
  s.ourSenderKey.bind fun sk =>
    (rotateIfNeeded env sk).toOption.map fun sk => G.messageKey sk.chainKey

/-- A message that `encrypt` returned, and what it was made of. -/
structure SentMessage (S : Suite) where
  key : S.Key
  plaintext : Bytes
  message : GroupMessage

def sends (s : GroupSession S) : GroupCall S → Option (SentMessage S)
  | .encrypt env plaintext =>
    match encryptionKey G env s, (s.encrypt G env plaintext).1 with
    | some key, .ok message => some ⟨key, plaintext, message⟩
    | _, _ => none
  | _ => none

def messages (G : GroupSuite S) : GroupSession S → List (GroupCall S) → List (SentMessage S)
  | _, [] => []
  | s, call :: calls => (sends G s call).toList ++ messages G (step G s call) calls

/-- The term is the message's ciphertext; its other fields are in the clear. -/
def SentMessage.Reads (m : SentMessage S) (f : WireTerm S.Key Bytes) : Prop :=
  (∃ n, f = .pair (.data n) (.sealed m.key n m.message.groupId.val (.data m.plaintext))) ∧
    S.bytes f = m.message.ciphertext

def Known (s : GroupSession S) (calls : List (GroupCall S)) (k : S.Key) : Prop :=
  (∃ first rest sk, calls = first ++ rest ∧
    (exec (step G) s first).ourSenderKey = some sk ∧ k = sk.chainKey) ∨
  ∃ call ∈ calls, call.draws = some k

end

section
variable (K : G.SymbolicKdf) (atoms : K.Atom → Prop)

/-- One who sees the messages and has known the sender key along the calls. -/
def Learns (shared : K.Shared → Prop)
    (sent : List (SentMessage S)) (s : GroupSession S) (calls : List (GroupCall S)) (k : S.Key) :
    Prop :=
  Learnable (fun t => ∃ m ∈ sent, ∃ f, m.Reads f ∧ t = f.map K.term)
    (fun t => ∃ k', Known G s calls k' ∧ t = K.term k') atoms shared (.key (K.term k))

section
variable (s : GroupSession S) (calls : List (GroupCall S)) (k : S.Key)

def Fresh : Prop :=
  ∃ a, K.term k = .atom a ∧ ¬ atoms a ∧ ∀ k', Known G s calls k' → (K.term k').origin ≠ .atom a

def FromFresh : Prop :=
  ∃ c, Fresh K atoms s calls c ∧ (K.term k).origin = K.term c

end

end

section
variable {K : G.SymbolicKdf} {atoms : K.Atom → Prop} {shared : K.Shared → Prop}
variable {s : GroupSession S} {calls : List (GroupCall S)}

variable {k : S.Key}

lemma Fresh.fromFresh (h : Fresh K atoms s calls k) : FromFresh K atoms s calls k := by
  obtain ⟨a, hte, hr⟩ := h
  refine ⟨k, ⟨a, hte, hr⟩, ?_⟩
  rw [hte]
  rfl

lemma FromFresh.next (h : FromFresh K atoms s calls k) :
    FromFresh K atoms s calls (G.nextChain k) := by
  obtain ⟨c, hc, ho⟩ := h
  refine ⟨c, hc, ?_⟩
  rwa [K.term_nextChain]

section
variable {w : GroupSession S} {sent : List (SentMessage S)}

lemma Learns.derivable (h : Learns K atoms shared sent s calls k) :
    Derivable (fun t => ∃ k', Known G s calls k' ∧ t = K.term k') atoms shared (K.term k) := by
  refine Learnable.carries ?_ h
  rintro t ⟨m, -, f, ⟨⟨n, rfl⟩, -⟩, rfl⟩
  simp [WireTerm.map, WireTerm.Carries]

lemma FromFresh.not_learned (h : FromFresh K atoms s calls k) :
    ¬ Learns K atoms shared sent s calls (G.messageKey k) := by
  obtain ⟨c, ⟨a, hte, hat, hkn⟩, ho⟩ := h
  intro hl
  apply hl.derivable.not_sealed
  apply sealed_of_origin hat
  · simp_all
  · rw [K.term_messageKey]
    exact ho.trans hte

def Renewed (K : G.SymbolicKdf) (atoms : K.Atom → Prop) (s : GroupSession S)
    (calls : List (GroupCall S)) (w : GroupSession S) : Prop :=
  ∃ sk, w.ourSenderKey = some sk ∧ FromFresh K atoms s calls sk.chainKey

lemma Renewed.succeeds (h : Renewed K atoms s calls w) {dr : Option S.Key}
    (hdr : ∀ c, dr = some c → Fresh K atoms s calls c) (hk : Succeeds G w dr k) :
    FromFresh K atoms s calls k := by
  obtain ⟨c, hs, hpl⟩ := hk
  have hc : FromFresh K atoms s calls c := by
    rcases hs with hda | ⟨sk, hke, rfl⟩
    · exact (hdr c hda).fromFresh
    · obtain ⟨sk', hk', hf⟩ := h
      cases hke.symm.trans hk'
      exact hf
  rcases hpl with rfl | rfl
  · exact hc
  · exact hc.next

lemma Renewed.effect {w' : GroupSession S} {call : GroupCall S} (hef : Effect G w call w')
    (h : Renewed K atoms s calls w) (hc : ∀ c, call.draws = some c → Fresh K atoms s calls c) :
    Renewed K atoms s calls w' := by
  have ho : ∀ key, OwnKey G w call.draws key →
      ∃ sk, key = some sk ∧ FromFresh K atoms s calls sk.chainKey := by
    rintro key (rfl | ⟨sk, rfl, hk⟩)
    · exact h
    · exact ⟨sk, rfl, h.succeeds hc hk⟩
  cases hef with
  | signs | added | stored => exact h
  | own activity hke => exact ho _ hke
  | removed activity _ hke => exact ho _ hke

end

end

lemma reads_of_encrypt {env : GroupEnv S} {s s' : GroupSession S} {plaintext : Bytes}
    {m : GroupMessage} (h : s.encrypt G env plaintext = (.ok m, s')) : ∃ k f,
    encryptionKey G env s = some k ∧ (⟨k, plaintext, m⟩ : SentMessage S).Reads f := by
  obtain ⟨sk, sk₁, ci, hown, hro, -, hse, rfl, -⟩ := encrypt_ok h
  obtain ⟨-, hsl⟩ := sealMessage_ok hse
  obtain ⟨-, -, n, -, rfl⟩ := CryptoHandler.encrypt_ok hsl
  obtain ⟨signature, hsi⟩ := sign_eq (G := G) s (messageFor env s (sk₁.moved G 1)
    (n.val ++ S.aeadEncrypt (G.messageKey sk₁.chainKey) n.val s.groupId.val plaintext))
  refine ⟨G.messageKey sk₁.chainKey, _, ?_, ⟨n.val, rfl⟩, ?_⟩
  · simp only [encryptionKey, hown, Option.bind_some, hro, Except.toOption, Option.map_some]
  · rw [hsi]
    rfl

lemma reads_of_messages {s : GroupSession S} {calls : List (GroupCall S)} {m : SentMessage S}
    (h : m ∈ messages G s calls) : ∃ f, m.Reads f := by
  induction calls generalizing s with
  | nil => cases h
  | cons call calls ih =>
    rcases List.mem_append.mp h with hm | hm
    · cases call with
      | encrypt env plaintext =>
        simp only [sends] at hm
        split at hm
        · rename_i key message hk hok
          obtain rfl := List.mem_singleton.mp hm
          obtain ⟨k, f, hk', hf⟩ := reads_of_encrypt (Prod.ext hok rfl)
          cases hk.symm.trans hk'
          exact ⟨f, hf⟩
        · cases hm
      | _ => cases hm
    · exact ih hm

/-- The key of every message that `encrypt` returns after a successful removal cannot be derived
from what was known before it and all messages. -/
theorem message_key_secret_after_removal (K : G.SymbolicKdf) (atoms : K.Atom → Prop)
    (shared : K.Shared → Prop) (s : GroupSession S) (before after : List (GroupCall S))
    (env env' : GroupEnv S) (pk : Bytes32) (s₁ s₂ : GroupSession S) (plaintext : Bytes)
    (m : GroupMessage) (hkey : (exec (step G) s before).ourSenderKey.isSome)
    (hremove : (exec (step G) s before).removeMember env pk = some (.ok (), s₁))
    (hfresh : ∀ call ∈ .removeMember env pk :: (after ++ [.encrypt env' plaintext]),
      ∀ c, call.draws = some c → Fresh K atoms s before c)
    (hencrypt : (exec (step G) s₁ after).encrypt G env' plaintext = (.ok m, s₂)) :
    let sent := messages G s before ++ messages G s₁ (after ++ [.encrypt env' plaintext])
    (∀ m ∈ sent, ∃ f, m.Reads f) ∧
    ∃ k f, encryptionKey G env' (exec (step G) s₁ after) = some k ∧
      (⟨k, plaintext, m⟩ : SentMessage S).Reads f ∧ ¬ Learns K atoms shared sent s before k := by
  intro sent
  refine ⟨fun m hm => (List.mem_append.mp hm).elim reads_of_messages reads_of_messages, ?_⟩
  have hremoved : Renewed K atoms s before s₁ := by
    rcases removeMember_cases env (exec _ s before) pk with
      heq | ⟨hnone, -⟩ | ⟨_, _, -, heq⟩ | ⟨sk, sk', -, hnew, heq⟩
    · rw [heq] at hremove
      cases hremove
    · rw [hnone] at hkey
      cases hkey
    · rw [heq] at hremove
      cases hremove
    · rw [heq] at hremove
      cases hremove
      exact ⟨sk', rfl, (hfresh _ (.head _) _ (new_chainKey hnew)).fromFresh⟩
  have hlater : Guarded (step G) _ s₁ after := guarded_of_mem s₁ fun call hcall =>
    hfresh call (.tail _ (List.mem_append_left _ hcall))
  have hrenewed := hlater.invariant (fun w call h hcall =>
    h.effect (effect_step w call) hcall) hremoved
  have hdrawn := hfresh (.encrypt env' plaintext) (List.mem_cons_of_mem _ (by simp))
  clear_value sent
  generalize exec (step G) s₁ after = w at hencrypt hrenewed ⊢
  obtain ⟨k, f, hk, hf⟩ := reads_of_encrypt hencrypt
  refine ⟨k, f, hk, hf, ?_⟩
  obtain ⟨sk, sk₁, ciphertext, hown, hrotate, -⟩ := encrypt_ok hencrypt
  simp only [encryptionKey, hown, Option.bind_some, hrotate, Except.toOption, Option.map_some,
    Option.some.injEq] at hk
  rw [← hk]
  apply FromFresh.not_learned
  rcases rotateIfNeeded_chainKey hrotate with rfl | hdraw
  · obtain ⟨sk', hown', hfresh'⟩ := hrenewed
    cases hown.symm.trans hown'
    exact hfresh'
  · exact (hdrawn _ hdraw).fromFresh

end GroupSession

namespace Symbolic

open GroupSession

def onceSent (t : Fin (2 ^ 63)) : List (GroupCall suite) := [.encrypt (groupEnv t 9) [10]]

def owner : GroupSession suite := sendingWith (keyMade (chainKey 1) 1)

section
variable {t : Fin (2 ^ 63)}
  (hse : ((exec (step (group hashEd)) owner (onceSent t)).ourSenderKey.map SenderKey.chainKey) =
    some ((group hashEd).nextChain (chainKey 1)))
include hse

lemma known_onceSent {k : suite.Key} (h : Known (group hashEd) owner (onceSent t) k) :
    k = chainKey 1 ∨ k = (group hashEd).nextChain (chainKey 1) ∨ k = chainKey 9 := by
  rcases h with ⟨f, rest, sk, hsp, hk, rfl⟩ | ⟨call, hc, hdr⟩
  · cases f with
    | nil =>
      cases hk
      exact .inl rfl
    | cons call f =>
      obtain ⟨rfl, hn⟩ := List.cons.inj hsp
      obtain ⟨rfl, rfl⟩ := List.append_eq_nil_iff.mp hn.symm
      have hch : ((exec (step (group hashEd)) owner (onceSent t)).ourSenderKey.map
          SenderKey.chainKey) = some sk.chainKey := congrArg _ hk
      exact .inr (.inl (Option.some.inj (hch.symm.trans hse)))
  · obtain rfl := List.mem_singleton.mp hc
    exact .inr (.inr (Option.some.inj hdr).symm)

lemma fresh_onceSent {b : UInt8} (ho : b ≠ 1) (hn : b ≠ 9) :
    Fresh (groupKdf hashEd) (fun _ => False) owner (onceSent t) (chainKey b) := by
  have hne : ∀ c : UInt8, b ≠ c → chainKey c ≠ chainKey b := by
    intro c hc h
    simp only [chainKey, KeyTerm.atom.injEq, SessionAtom.sessionChain.injEq, Subtype.mk.injEq] at h
    exact hc (List.replicate_right_injective (n := 32) (by decide) h).symm
  refine ⟨_, rfl, id, fun k hk => ?_⟩
  rcases known_onceSent hse hk with rfl | rfl | rfl
  · exact hne 1 ho
  · exact hne 1 ho
  · exact hne 9 hn

end

theorem next_key_secret_after_removal :
    let w := exec (step (group hashEd)) owner (onceSent 1001)
    ∃ s₁ m k, w.removeMember (groupEnv 1002 2) sender = some (.ok (), s₁) ∧
      (s₁.encrypt (group hashEd) (groupEnv 1003 3) [11]).1 = .ok m ∧
      encryptionKey (group hashEd) (groupEnv 1003 3) s₁ = some k ∧
      ¬ Learns (groupKdf hashEd) (fun _ => False) (fun _ => True)
        (messages (group hashEd) owner (onceSent 1001) ++
          messages (group hashEd) s₁ [.encrypt (groupEnv 1003 3) [11]])
        owner (onceSent 1001) k := by
  intro w
  have hsent : w.ourSenderKey.map SenderKey.chainKey =
      some ((group hashEd).nextChain (chainKey 1)) := by
    decide +kernel
  have hkey : w.ourSenderKey.isSome := by decide +kernel
  have hremoves : (w.removeMember (groupEnv 1002 2) sender).map Prod.fst = some (.ok ()) := by
    decide +kernel
  have hencrypts : (w.removeMember (groupEnv 1002 2) sender).map (fun o =>
      (o.2.encrypt (group hashEd) (groupEnv 1003 3) [11]).1.toOption.isSome) = some true := by
    decide +kernel
  obtain ⟨⟨r, s₁⟩, hremove, rfl⟩ := Option.map_eq_some_iff.mp hremoves
  rw [hremove] at hencrypts
  obtain ⟨m, hm⟩ := exists_ok_of_isSome (Option.some.inj hencrypts)
  have hfresh : ∀ call ∈ GroupCall.removeMember (groupEnv 1002 2) sender ::
      ([] ++ [.encrypt (groupEnv 1003 3) [11]]), ∀ c, call.draws = some c →
        Fresh (groupKdf hashEd) (fun _ => False) owner (onceSent 1001) c := by
    intro call hcall c hdraws
    simp only [List.nil_append, List.mem_cons, List.not_mem_nil, or_false] at hcall
    rcases hcall with rfl | rfl
    · obtain rfl := Option.some.inj hdraws
      exact fresh_onceSent hsent (by decide) (by decide)
    · obtain rfl := Option.some.inj hdraws
      exact fresh_onceSent hsent (by decide) (by decide)
  obtain ⟨-, k, f, hk, -, hsecret⟩ := message_key_secret_after_removal (groupKdf hashEd)
    (fun _ => False) (fun _ => True) owner (onceSent 1001) [] (groupEnv 1002 2) (groupEnv 1003 3)
    sender s₁ _ [11] m hkey hremove hfresh (Prod.ext hm rfl)
  exact ⟨s₁, m, k, hremove, hm, hk, hsecret⟩

end Symbolic

end Sibna
