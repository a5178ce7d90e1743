import Sibna.Java.X3dh

/-!
# Group sessions of the Java SDK

A sender ratchets its key before it encrypts, a receiver never ratchets its copy.
-/

namespace Sibna.Java

/-- What `GroupSession` uses of `CryptoProvider`: `hkdf` with the info `SibnaGroup_Ratchet`, and
`Cipher.doFinal` for a key, a nonce and the data of `updateAAD`. -/
structure GroupProvider where
  Key : Type
  hkdfRatchet : Key → Key
  cipherEncrypt : Key → Bytes → Bytes → Bytes → Bytes
  cipherDecrypt : Key → Bytes → Bytes → Bytes → Option Bytes

namespace GroupProvider
variable (G : GroupProvider)

def encrypt (key : G.Key) (nonce : FixedBytes 12) (plaintext associatedData : Bytes) : Bytes :=
  nonce.val ++ G.cipherEncrypt key nonce.val associatedData plaintext

def decrypt (key : G.Key) (ciphertext associatedData : Bytes) : Except Exception Bytes :=
  if ciphertext.length < 28 then .error (.crypto "Ciphertext too short")
  else
    okOr (G.cipherDecrypt key (ciphertext.take 12) associatedData (ciphertext.drop 12))
      (.crypto "Decryption failed")

structure Ideal : Prop where
  acyclic : ∀ (n : Nat) (k : G.Key), G.hkdfRatchet^[n + 1] k ≠ k
  opens : ∀ {k k' : G.Key} {nonce nonce' aad aad' plaintext plaintext' : Bytes},
    G.cipherDecrypt k' nonce' aad' (G.cipherEncrypt k nonce aad plaintext) =
      some plaintext' → k = k'

end GroupProvider

/-- `leave` sets the sender key to `null` together with `left`. -/
structure GroupSession (G : GroupProvider) where
  groupId : Bytes
  memberSenderKeys : String → Option G.Key
  mySenderKey : Option G.Key

namespace GroupSession
variable {G : GroupProvider}

def create (groupId : Bytes) (generated : G.Key) : GroupSession G :=
  ⟨groupId, fun _ => none, some generated⟩

section
variable (s : GroupSession G)

def left : Bool := s.mySenderKey.isNone

def importSenderKey (publicKeyHex : String) (senderKey : G.Key) : GroupSession G :=
  { s with memberSenderKeys := Function.update s.memberSenderKeys publicKeyHex (some senderKey) }

def encrypt (nonce : FixedBytes 12) (s : GroupSession G) (plaintext : Bytes) :
    Except Exception Bytes × GroupSession G :=
  match s.mySenderKey with
  | none => (.error (.crypto "Already left the group"), s)
  | some key =>
    let key := G.hkdfRatchet key
    (.ok (G.encrypt key nonce plaintext s.groupId), { s with mySenderKey := some key })

def decrypt (senderPublicKeyHex : String) (ciphertext : Bytes) :
    Except Exception Bytes × GroupSession G :=
  if s.left then (.error (.crypto "Already left the group"), s)
  else
    match s.memberSenderKeys senderPublicKeyHex with
    | none => (.error (.crypto ("No sender key for member: " ++ senderPublicKeyHex)), s)
    | some senderKey => (G.decrypt senderKey ciphertext s.groupId, s)

def getSenderKey : Except Exception G.Key := okOr s.mySenderKey .nullPointer

end

/-- Each message is encrypted and decrypted, gives its plaintext, and is refused when it is
decrypted again. -/
def Delivers (sender : String) :
    GroupSession G → GroupSession G → List (FixedBytes 12 × Bytes) → Prop
  | _, _, [] => True
  | s, r, (nonce, plaintext) :: rest =>
    ∃ ciphertext, (s.encrypt nonce plaintext).1 = .ok ciphertext ∧
      (r.decrypt sender ciphertext).1 = .ok plaintext ∧
      (∃ e, ((r.decrypt sender ciphertext).2.decrypt sender ciphertext).1 = .error e) ∧
      Delivers sender (s.encrypt nonce plaintext).2 (r.decrypt sender ciphertext).2 rest

/-- What the messages are encrypted to, up to the first exception. -/
def ciphertexts : GroupSession G → List (FixedBytes 12 × Bytes) → List Bytes
  | _, [] => []
  | s, (nonce, plaintext) :: rest =>
    match s.encrypt nonce plaintext with
    | (.error _, _) => []
    | (.ok ciphertext, s) => ciphertext :: s.ciphertexts rest

variable {s r : GroupSession G} {sender : String} {k : G.Key} {ciphertext : Bytes}

lemma decrypt_snd : (r.decrypt sender ciphertext).2 = r := by
  unfold decrypt
  split
  · rfl
  · split <;> rfl

lemma encrypt_ok {n : FixedBytes 12} {p : Bytes} {s' : GroupSession G}
    (h : s.encrypt n p = (.ok ciphertext, s')) : ∃ key, s.mySenderKey = some key ∧
    s'.mySenderKey = some (G.hkdfRatchet key) ∧
    ciphertext = G.encrypt (G.hkdfRatchet key) n p s.groupId := by
  unfold encrypt at h
  split at h
  · cases h
  · grind

lemma decrypt_refused (I : G.Ideal) {key : G.Key} {n : FixedBytes 12} {aad pl : Bytes}
    (hne : key ≠ k) : ∃ e,
    ((r.importSenderKey sender k).decrypt sender (G.encrypt key n pl aad)).1 = .error e := by
  unfold decrypt
  split
  · exact ⟨_, rfl⟩
  simp only [importSenderKey, Function.update_self, GroupProvider.decrypt]
  split
  · exact ⟨_, rfl⟩
  rw [GroupProvider.encrypt, List.drop_left' n.property]
  cases ho : G.cipherDecrypt k _ r.groupId (G.cipherEncrypt key n.val aad pl) with
  | none => exact ⟨_, rfl⟩
  | some p => exact absurd (I.opens ho) hne

lemma ciphertexts_refused (I : G.Ideal) {n : Nat}
    {me : List (FixedBytes 12 × Bytes)} (hk : s.mySenderKey = some (G.hkdfRatchet^[n] k)) :
    ∀ c ∈ s.ciphertexts me, ∃ e, ((r.importSenderKey sender k).decrypt sender c).1 = .error e := by
  induction me generalizing s n with
  | nil => exact nofun
  | cons m rest ih =>
    rw [ciphertexts]
    split
    · exact nofun
    rename_i ciphertext s' h
    obtain ⟨key, hs, hs', rfl⟩ := encrypt_ok h
    cases hk.symm.trans hs
    rw [← Function.iterate_succ_apply' G.hkdfRatchet] at hs' ⊢
    exact List.forall_mem_cons.mpr ⟨decrypt_refused I (I.acyclic n k), ih hs'⟩

/-- Nothing that a member encrypts after its key was copied is ever opened, so only the empty
sequence is delivered. -/
theorem group_delivery_iff (I : G.Ideal) (s r : GroupSession G) (sender : String) (k : G.Key)
    (hkey : s.getSenderKey = .ok k) (messages : List (FixedBytes 12 × Bytes)) :
    (Delivers sender s (r.importSenderKey sender k) messages ↔ messages = []) ∧
    ∀ c ∈ s.ciphertexts messages, ∃ e,
    ((r.importSenderKey sender k).decrypt sender c).1 = .error e := by
  have hkey := okOr_ok.mp hkey
  refine ⟨⟨fun h => ?_, fun h => h ▸ trivial⟩, ciphertexts_refused I (n := 0) hkey⟩
  cases messages with
  | nil => rfl
  | cons m rest =>
    obtain ⟨c, -, hfirst, ⟨e, hsecond⟩, -⟩ := h
    rw [decrypt_snd, hfirst] at hsecond
    cases hsecond

end GroupSession

open Symbolic Java.GroupSession

def symbolicGroup : GroupProvider where
  Key := Key
  hkdfRatchet := fun k => .mac k 3
  cipherEncrypt := fun k nonce aad m => aeadEncrypt k nonce (0 :: aad) m
  cipherDecrypt := fun k nonce aad c => aeadDecrypt k nonce (0 :: aad) c

lemma symbolicGroup_ideal : symbolicGroup.Ideal where
  acyclic := by
    intro n (k : Key) h
    have hg : ∀ n, sizeOf ((fun k : Key => KeyAlgebra.KeyTerm.mac k 3)^[n] k) ≥ sizeOf k + n := by
      intro n
      induction n with
      | zero => exact Nat.le_refl _
      | succ n ih =>
        rw [Function.iterate_succ_apply', KeyAlgebra.KeyTerm.mac.sizeOf_spec]
        omega
    have := hg (n + 1)
    rw [show (fun k : Key => KeyAlgebra.KeyTerm.mac k 3)^[n + 1] k = k from h] at this
    omega
  opens := by
    intro k k' no n' aad aad' p p' h
    exact committingAead (List.cons_ne_nil 0 aad) (List.cons_ne_nil 0 aad') List.suffix_rfl
      (correctAead.decrypt_encrypt k no _ p) h

def sampleMember (key : Key) : GroupSession symbolicGroup := create [7] key

theorem message_refused : ¬ Delivers "a" (sampleMember (.atom .zero))
      ((sampleMember (.atom .zero)).importSenderKey "a" (.atom .zero)) [(nonce, [1])] ∧
    ∀ c ∈ (sampleMember (.atom .zero)).ciphertexts [(nonce, [1])],
      ∃ e, (((sampleMember (.atom .zero)).importSenderKey "a" (.atom .zero)).decrypt "a" c).1 =
        .error e :=
  (group_delivery_iff symbolicGroup_ideal _ _ "a" (.atom .zero) rfl [(nonce, [1])]).imp_left
    fun hiff h => List.cons_ne_nil _ _ (hiff.mp h)

theorem first_message_lost :
    let sender := sampleMember (.atom .zero)
    let receiver := (sampleMember (.atom (.sessionRoot secret))).importSenderKey "a" (.atom .zero)
    sender.getSenderKey = .ok (.atom .zero) ∧
      (receiver.decrypt "a" (symbolicGroup.encrypt (.mac (.atom .zero) 3) nonce [1] [7])).1 =
        .error (.crypto "Decryption failed") ∧
      sender.ciphertexts [(nonce, [1])] =
        [symbolicGroup.encrypt (.mac (.atom .zero) 3) nonce [1] [7]] := by
  refine ⟨rfl, ?_, rfl⟩
  decide

end Sibna.Java
