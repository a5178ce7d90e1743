import Sibna.Group.SessionSpec
import Sibna.Handshake.Symbolic
import Sibna.Lib.Maps
import Sibna.Lib.Runs

/-!
# Runs of a group session

The public calls of a `GroupSession` in any order. A call that aborts leaves the session as it was.
-/

namespace Sibna

open HashChain

variable {S : Suite} {G : GroupSuite S}

inductive GroupCall (S : Suite) where
  | setSigningKey (seed : Bytes32)
  | initializeSenderKey (env : GroupEnv S)
  | addMember (env : GroupEnv S) (publicKey : Bytes32)
  | removeMember (env : GroupEnv S) (publicKey : Bytes32)
  | encrypt (env : GroupEnv S) (plaintext : Bytes)
  | decrypt (env : GroupEnv S) (message : GroupMessage) (senderPublicKey : Bytes32)
  | importSenderKey (env : GroupEnv S) (publicKey : Bytes32) (key : SenderKey S)

def GroupCall.draws : GroupCall S → Option S.Key
  | .initializeSenderKey env => env.chainKey
  | .removeMember env _ => env.chainKey
  | .encrypt env _ => env.chainKey
  | .setSigningKey _ => none
  | .addMember _ _ => none
  | .decrypt _ _ _ => none
  | .importSenderKey _ _ _ => none

namespace GroupSession

def step (G : GroupSuite S) (s : GroupSession S) : GroupCall S → GroupSession S
  | .setSigningKey seed => s.setSigningKey seed
  | .initializeSenderKey env => (s.initializeSenderKey env).2
  | .addMember env pk => ((s.addMember env pk).map Prod.snd).getD s
  | .removeMember env pk => ((s.removeMember env pk).map Prod.snd).getD s
  | .encrypt env plaintext => (s.encrypt G env plaintext).2
  | .decrypt env m pk => ((s.decrypt G env m pk).map Prod.snd).getD s
  | .importSenderKey env pk key => (s.importSenderKey env pk key).2

def accepts (G : GroupSuite S) (s : GroupSession S) : GroupCall S → Option (GroupMessage × Bytes32)
  | .decrypt env m pk =>
    match s.decrypt G env m pk with
    | some (.ok _, _) => some (m, pk)
    | _ => none
  | _ => none

lemma nextEpoch_some {s s' : GroupSession S} (h : nextEpoch s = some s') :
    s' = { s with epoch := s.epoch + 1 } := by
  unfold nextEpoch at h
  split at h
  · exact (Option.some.inj h).symm
  · cases h

section
variable (s : GroupSession S) (call : GroupCall S)

def without (pk : Bytes32) : GroupSession S :=
  { s with
    members := s.members.filter (· != pk)
    senderKeys := s.senderKeys.erase pk
    epoch := s.epoch + 1 }

lemma removeMember_cases (env : GroupEnv S) (s : GroupSession S) (pk : Bytes32) :
    s.removeMember env pk = none ∨
    s.ourSenderKey = none ∧ s.removeMember env pk = some (.ok (), touch env (s.without pk)) ∨
    (∃ sk e, s.ourSenderKey = some sk ∧ s.removeMember env pk = some (.error e, s.without pk)) ∨
    ∃ sk sk', s.ourSenderKey = some sk ∧ sk.rotate env = .ok sk' ∧
      s.removeMember env pk =
        some (.ok (), touch env { s.without pk with ourSenderKey := some sk' }) := by
  unfold removeMember
  cases hep : nextEpoch { s with
      members := s.members.filter (· != pk), senderKeys := s.senderKeys.erase pk } with
  | none => exact .inl rfl
  | some s' =>
    obtain rfl := nextEpoch_some hep
    right
    simp only [Option.map_some]
    cases hk : s.ourSenderKey with
    | none =>
      left
      refine ⟨rfl, ?_⟩
      simp only [without, hk]
    | some sk =>
      right
      cases hro : sk.rotate env with
      | error e =>
        left
        refine ⟨sk, e, rfl, ?_⟩
        simp only [without, hk, hro]
      | ok sk' =>
        right
        refine ⟨sk, sk', rfl, hro, ?_⟩
        simp only [without, hro]

def Advances (G : GroupSuite S) (sk sk' : SenderKey S) : Prop :=
  sk'.keyId = sk.keyId ∧
    (sk.cursor.Reaches G.nextChain sk'.cursor ∨ sk'.messageNumber.toNat + 1 = 2 ^ 32)

lemma Advances.of_moved {sk : SenderKey S} {n : Nat} (h : sk.messageNumber.toNat + n < 2 ^ 32) :
    Advances G sk (sk.moved G n) := by
  refine ⟨rfl, .inl ?_⟩
  rw [SenderKey.moved_cursor h]
  exact (Cursor.Reaches.refl _).advance n

lemma new_chainKey {env : GroupEnv S} {ki : UInt32} {sk : SenderKey S}
    (h : SenderKey.new env ki = .ok sk) : env.chainKey = some sk.chainKey := by
  unfold SenderKey.new at h
  simp only [bind_ok, okOr_ok] at h
  obtain ⟨c, hc, t, -, hsk⟩ := h
  cases hsk
  exact hc

lemma rotateIfNeeded_chainKey {env : GroupEnv S} {sk sk₁ : SenderKey S}
    (h : rotateIfNeeded env sk = .ok sk₁) : sk₁ = sk ∨ env.chainKey = some sk₁.chainKey := by
  unfold rotateIfNeeded at h
  split at h
  · exact .inr (new_chainKey h)
  · exact .inl (Except.ok.inj h).symm

def Succeeds (G : GroupSuite S) (s : GroupSession S) (drawn : Option S.Key) (k : S.Key) : Prop :=
  ∃ c, (drawn = some c ∨ ∃ sk, s.ourSenderKey = some sk ∧ c = sk.chainKey) ∧
    (k = c ∨ k = G.nextChain c)

def OwnKey (G : GroupSuite S) (s : GroupSession S) (drawn : Option S.Key)
    (key : Option (SenderKey S)) : Prop :=
  key = s.ourSenderKey ∨ ∃ sk, key = some sk ∧ Succeeds G s drawn sk.chainKey

/-- What a call changes. The own key comes from its own chain or the random generator, and the key
of another sender from its own chain or an import. -/
inductive Effect (G : GroupSuite S) (s : GroupSession S) (call : GroupCall S) :
    GroupSession S → Prop where
  | signs (seed : Bytes32) (hcall : call = .setSigningKey seed) :
      Effect G s call (s.setSigningKey seed)
  | own {key : Option (SenderKey S)} (activity : Nat) (hkey : OwnKey G s call.draws key) :
      Effect G s call { s with ourSenderKey := key, lastActivity := activity }
  | added (env : GroupEnv S) (pk : Bytes32) :
      Effect G s call (touch env { s with members := s.members ++ [pk], epoch := s.epoch + 1 })
  | removed {env : GroupEnv S} {pk : Bytes32} {key : Option (SenderKey S)} (activity : Nat)
      (hcall : call = .removeMember env pk) (hkey : OwnKey G s call.draws key) :
      Effect G s call { s.without pk with ourSenderKey := key, lastActivity := activity }
  | stored {pk : Bytes32} {sk' : SenderKey S} (activity : Nat)
      (hstored : (∃ sk, s.senderKeys.lookup pk = some sk ∧ Advances G sk sk') ∨
        (∃ env, call = .importSenderKey env pk sk') ∧
          ∀ existing ∈ s.senderKeys.lookup pk, existing.keyId < sk'.keyId) :
      Effect G s call { s with
        senderKeys := s.senderKeys.insert pk sk', lastActivity := activity }

lemma effect_refl : Effect G s call s :=
  .own s.lastActivity (Or.inl rfl)

lemma effect_encrypt (env : GroupEnv S) (p : Bytes) (s : GroupSession S) :
    Effect G s (.encrypt env p) (s.encrypt G env p).2 := by
  rcases encrypt_cases (G := G) env s p with ⟨e, heq⟩ | ⟨sk, sk₁, hk, hro, -, heq⟩
  · rw [heq]
    exact effect_refl s _
  have hs : env.chainKey = some sk₁.chainKey ∨
      ∃ sk, s.ourSenderKey = some sk ∧ sk₁.chainKey = sk.chainKey := by
    rcases rotateIfNeeded_chainKey hro with rfl | hdr
    · exact .inr ⟨sk₁, hk, rfl⟩
    · exact .inl hdr
  rw [heq]
  rcases encryptWith_cases (G := G) env s sk₁ p with
    ⟨e, sk', he', hs'⟩ | ⟨_, -, -, he'⟩
  · rw [he']
    refine .own s.lastActivity (.inr ⟨sk', rfl, sk₁.chainKey, hs, ?_⟩)
    rcases hs' with rfl | ⟨rfl, -⟩ | ⟨rfl, -⟩
    · exact .inl rfl
    · exact .inr rfl
    · exact .inr rfl
  · rw [he']
    exact .own _ (.inr ⟨_, rfl, sk₁.chainKey, hs, .inr rfl⟩)

lemma effect_decrypt (env : GroupEnv S) (m : GroupMessage) (pk : Bytes32) (s : GroupSession S) :
    Effect G s (.decrypt env m pk) (s.step G (.decrypt env m pk)) := by
  simp only [step]
  by_cases har : ∃ sk, Arrives G env s m pk sk
  · obtain ⟨sk, har⟩ := har
    by_cases ho : ∃ p, Opens G env s m sk p
    · obtain ⟨p, ho⟩ := ho
      rw [decrypt_of_opens har ho]
      exact .stored _ (.inl ⟨sk, har.lookup, Advances.of_moved ho.number⟩)
    obtain ⟨e, sk', heq, hsp⟩ := decrypt_not_opens har (not_exists.mp ho)
    rw [heq]
    refine .stored s.lastActivity (.inl ⟨sk, har.lookup, ?_⟩)
    rcases hsp with ⟨j, rfl, hj, -⟩ | ⟨hid, -, hl, -⟩
    · exact Advances.of_moved hj
    · exact ⟨hid, .inr hl⟩
  · rcases decrypt_not_arrives (not_exists.mp har) with heq | ⟨e, heq⟩
    · rw [heq]
      exact effect_refl s _
    · rw [heq]
      exact effect_refl s _

lemma effect_step : Effect G s call (s.step G call) := by
  cases call with
  | setSigningKey seed => exact .signs seed rfl
  | initializeSenderKey env =>
    simp only [step, initializeSenderKey]
    cases hn : SenderKey.new env 1 with
    | error e => exact effect_refl s _
    | ok sk => exact .own _ (.inr ⟨sk, rfl, _, .inl (new_chainKey hn), .inl rfl⟩)
  | addMember env pk =>
    simp only [step, addMember]
    split
    · exact effect_refl s _
    split
    · exact effect_refl s _
    cases hep : nextEpoch { s with members := s.members ++ [pk] } with
    | none => exact effect_refl s _
    | some s' =>
      obtain rfl := nextEpoch_some hep
      exact .added env pk
  | removeMember env pk =>
    rcases removeMember_cases env s pk with heq | ⟨-, heq⟩ | ⟨_, _, -, heq⟩ |
      ⟨_, sk', -, hn, heq⟩ <;>
      simp only [step, heq, Option.map_some, Option.getD_some]
    · exact effect_refl s _
    · exact .removed _ rfl (.inl rfl)
    · exact .removed s.lastActivity rfl (.inl rfl)
    · exact .removed _ rfl (.inr ⟨sk', rfl, _, .inl (new_chainKey hn), .inl rfl⟩)
  | encrypt env p => exact effect_encrypt env p s
  | decrypt env m pk => exact effect_decrypt env m pk s
  | importSenderKey env pk key =>
    simp only [step, importSenderKey]
    split
    · exact effect_refl s _
    split
    · exact effect_refl s _
    · rename_i hei
      refine .stored _ (.inr ⟨⟨env, rfl⟩, fun ex hm => ?_⟩)
      exact UInt32.not_le.mp fun hle => hei ⟨ex, hm, hle⟩

end

lemma accepts_some {s : GroupSession S} {call : GroupCall S} {m : GroupMessage} {pk : Bytes32}
    (h : accepts G s call = some (m, pk)) :
    ∃ env sk plaintext, call = .decrypt env m pk ∧ Arrives G env s m pk sk ∧
      Opens G env s m sk plaintext ∧ s.step G call = touch env
        { s with senderKeys := s.senderKeys.insert pk (sk.moved G (gap sk m + 1)) } := by
  cases call with
  | decrypt env m' pk' =>
    simp only [accepts] at h
    split at h
    · rename_i plaintext s' heq
      cases h
      obtain ⟨sk, har, ho, rfl⟩ := decrypt_ok heq
      refine ⟨env, sk, plaintext, rfl, har, ho, ?_⟩
      rw [step, heq]
      rfl
    · cases h
  | setSigningKey | initializeSenderKey | addMember | removeMember | encrypt | importSenderKey =>
    cases h

end GroupSession

end Sibna

namespace Sibna.Symbolic

open KeyAlgebra LittleEndian

def residue (bytes : Bytes) : Bytes32 :=
  ⟨toLe 32 (fromLe (bytes ++ [1]) % (2 ^ 256 - 189)), toLe_length 32 _⟩

def hashEd : Ed25519 where
  verifyingKey := verifyingKey
  sign := fun sk m => ⟨(verifyingKey sk).val ++ (residue m).val, by simp⟩
  verifyingKeyOk := fun pk => pk.val.drop 8 == List.replicate 24 9
  verify := fun pk m s => s.val == pk.val ++ (residue m).val

section
variable (k : Key) (b : UInt8) {S : Suite} (sk : SenderKey S)

def groupMessageKey : Key := .mac k 1

def groupNextChain : Key := .mac k 2

def group (ed : Ed25519) : GroupSuite suite where
  messageKey := groupMessageKey
  nextChain := groupNextChain
  sha256 := residue
  ed := ed

def shortGroup : GroupSuite short where
  messageKey := groupMessageKey
  nextChain := groupNextChain
  sha256 := residue
  ed := hashEd

def chainKey : Key := .atom (.sessionChain ⟨List.replicate 32 b, by simp⟩)

def shortEnv (t : Fin (2 ^ 63)) (b : UInt8) : GroupEnv short :=
  ⟨GroupClock.at t (second_lt t), some (chainKey b), some nonce⟩

def groupId : Bytes32 := ⟨List.replicate 32 4, by simp⟩

def signingSeed : Bytes32 := ⟨List.replicate 32 3, by simp⟩

def sender : Bytes32 := verifyingKey signingSeed

def keyMade (chainKey : S.Key) (keyId : UInt32) : SenderKey S :=
  ⟨chainKey, 0, some 605800, keyId⟩

def sendingWith : GroupSession S where
  groupId := groupId
  ourSenderKey := some sk
  senderKeys := ∅
  members := [sender]
  epoch := 1
  lastActivity := 1000
  maxSize := 1000
  ourSigningKey := some signingSeed

def receivingWith : GroupSession S :=
  { sendingWith sk with
    ourSenderKey := none
    senderKeys := AList.singleton sender sk
    ourSigningKey := none }

def senderKey (keyId : UInt32) : SenderKey short := keyMade (chainKey b) keyId

def sending : GroupSession short := sendingWith (senderKey 1 1)

def receiving : GroupSession short := receivingWith (senderKey 1 1)

def sentMessage (o : Outcome (GroupSession S) GroupMessage) : GroupMessage :=
  o.1.toOption.getD ⟨groupId, 0, 0, [], 0, 0, []⟩

end

def after {α : Type} (o : Option (Outcome (GroupSession short) α)) : GroupSession short :=
  (o.map Prod.snd).getD receiving

end Sibna.Symbolic
