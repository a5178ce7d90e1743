import Sibna.Java.X3dh
import Sibna.Network

/-!
# The Double Ratchet of the Java SDK

An object receives with keys an odd number of root steps from the secret and sends with keys an even
number of steps from it.
-/

namespace Sibna.Java

open KeyAlgebra LittleEndian

structure Draws (J : CryptoProvider) where
  keyPair : J.PrivateKey
  nonce : FixedBytes 12

namespace CryptoProvider
variable (J : CryptoProvider)

def encrypt (key : J.Key) (nonce : FixedBytes 12) (plaintext : Bytes) : Bytes :=
  nonce.val ++ J.cipherEncrypt key nonce.val plaintext

def decrypt (key : J.Key) (ciphertext : Bytes) : Except Exception Bytes :=
  if ciphertext.length < 28 then .error (.crypto "Ciphertext too short")
  else
    match J.cipherDecrypt key (ciphertext.take 12) (ciphertext.drop 12) with
    | none => .error (.crypto "Decryption failed")
    | some plaintext => .ok plaintext

/-- What is used of ideal primitives: derivations are told apart, a message opens under its own key
only, and whether an agreement is refused depends on the public key. -/
structure Ideal where
  Atom : Type
  term : J.Key → KeyTerm Atom J.Shared
  term_session : ∀ secret, ∃ a b c, term (J.hkdfDoubleRatchet secret).1 = .atom a ∧
    term (J.hkdfDoubleRatchet secret).2.1 = .atom b ∧
      term (J.hkdfDoubleRatchet secret).2.2 = .atom c
  term_byte : ∀ k info, term (J.hkdfByte k info) = .mac (term k) info
  term_root : ∀ k shared, term (J.hkdfRootChain k shared).1 = .root (term k) shared
  term_chain : ∀ k shared, term (J.hkdfRootChain k shared).2 = .chain (term k) shared
  refused : ∀ x y key, J.generateSecret x key = none → J.generateSecret y key = none
  encoded_length : ∀ key, (J.getEncoded key).length = 44
  opens : ∀ {k k' : J.Key} {nonce nonce' plaintext plaintext' : Bytes},
    J.cipherDecrypt k' nonce' (J.cipherEncrypt k nonce plaintext) = some plaintext' → k = k'

variable {J}

def Ideal.level (I : J.Ideal) (k : J.Key) : Nat := (I.term k).level

end CryptoProvider

/-- The map of skipped keys is read but nothing is ever put into it; its keys, a number and the hex
form of a public key in one string, are pairs here. -/
structure DoubleRatchet (J : CryptoProvider) where
  dhRatchetKeyPair : Option J.PrivateKey
  rootChainKey : J.Key
  sendingChainKey : J.Key
  sendingMessageNumber : UInt32
  receivingChainKey : J.Key
  receivingMessageNumber : UInt32
  remoteDHRatchetKey : Option Bytes
  skippedMessageKeys : List ((UInt32 × Bytes) × J.Key)

structure MessageHeader where
  dhPublicKey : Option Bytes
  messageNumber : UInt32
  headerLength : Nat

namespace DoubleRatchet
variable {J : CryptoProvider}

def create (sharedSecret : J.Secret) (isInitiator : Bool) (keyPair : J.PrivateKey) :
    DoubleRatchet J :=
  let (root, first, second) := J.hkdfDoubleRatchet sharedSecret
  if isInitiator then ⟨some keyPair, root, first, 0, second, 0, none, []⟩
  else ⟨none, root, second, 0, first, 0, none, []⟩

def buildHeader (keyPair : J.PrivateKey) (sendingMessageNumber : UInt32) : Bytes :=
  let dhPub := J.getEncoded (J.getPublic keyPair)
  UInt8.ofNat dhPub.length :: dhPub ++ (toLe 4 sendingMessageNumber.toNat).reverse

def parseHeader (data : Bytes) : Except Exception MessageHeader :=
  if data.length < 5 then .ok ⟨none, 0, 0⟩
  else
    let dhPubLen := (data.headD 0).toNat
    -- the four reads of the number; the copy of the key before them pads with zeros
    if data.length < 1 + dhPubLen + 4 then .error .arrayIndexOutOfBounds
    else
      .ok ⟨some ((data.drop 1).take dhPubLen),
        UInt32.ofNat (fromLe ((data.drop (1 + dhPubLen)).take 4).reverse), 1 + dhPubLen + 4⟩

section
variable (draws : Draws J) (s : DoubleRatchet J)

/-- The chain has moved when the header is built. -/
def encrypt (plaintext : Bytes) : Except Exception Bytes × DoubleRatchet J :=
  if plaintext = [] then (.error (.crypto "Plaintext cannot be empty"), s)
  else
    let ciphertext := J.encrypt (J.hkdfByte s.sendingChainKey 1) draws.nonce plaintext
    let s := { s with sendingChainKey := J.hkdfByte s.sendingChainKey 2 }
    match s.dhRatchetKeyPair with
    | none => (.error .nullPointer, s)
    | some keyPair =>
      (.ok (buildHeader keyPair s.sendingMessageNumber ++ ciphertext),
        { s with sendingMessageNumber := s.sendingMessageNumber + 1 })

def performDHRatchet (remoteDHPubKey : Bytes) : Except Exception Unit × DoubleRatchet J :=
  match s.dhRatchetKeyPair with
  | none => (.error .nullPointer, s)
  | some keyPair =>
    match J.agreeWith keyPair remoteDHPubKey with
    | .error e => (.error e, s)
    | .ok dhOutput =>
      let rootKdf := J.hkdfRootChain s.rootChainKey dhOutput
      let s := { s with rootChainKey := rootKdf.1, receivingChainKey := rootKdf.2,
                        dhRatchetKeyPair := some draws.keyPair }
      match J.agreeWith draws.keyPair remoteDHPubKey with
      | .error e => (.error e, s)
      | .ok dhOutput2 =>
        let rootKdf2 := J.hkdfRootChain s.rootChainKey dhOutput2
        (.ok (), { s with rootChainKey := rootKdf2.1, sendingChainKey := rootKdf2.2,
                          remoteDHRatchetKey := some remoteDHPubKey, sendingMessageNumber := 0,
                          receivingMessageNumber := 0 })

/-- The ratchet step of `decrypt`, for a header with another key than the last one. -/
def followHeader : Option Bytes → Except Exception Unit × DoubleRatchet J
  | none => (.ok (), s)
  | some key =>
    if s.remoteDHRatchetKey = some key then (.ok (), s) else s.performDHRatchet draws key

/-- Nothing that was changed is put back when a later step throws. -/
def decrypt (message : Bytes) : Except Exception Bytes × DoubleRatchet J :=
  match parseHeader message with
  | .error e => (.error e, s)
  | .ok header =>
    let ciphertext := message.drop header.headerLength
    match s.followHeader draws header.dhPublicKey with
    | (.error e, s) => (.error e, s)
    | (.ok (), s) =>
      let key := (header.messageNumber, header.dhPublicKey.getD [])
      match s.skippedMessageKeys.lookup key with
      | some skippedKey =>
        (J.decrypt skippedKey ciphertext,
          { s with skippedMessageKeys := s.skippedMessageKeys.filter (·.1 != key) })
      | none =>
        let messageKey := J.hkdfByte s.receivingChainKey 1
        let s := { s with receivingChainKey := J.hkdfByte s.receivingChainKey 2 }
        match J.decrypt messageKey ciphertext with
        | .error e => (.error e, s)
        | .ok plaintext =>
          (.ok plaintext, { s with receivingMessageNumber := s.receivingMessageNumber + 1 })

/-- The layout of `serialize`, without the version and the counter that is always zero. -/
structure Serialized (J : CryptoProvider) where
  root : J.Key
  sendKey : J.Key
  sendIdx : UInt32
  recvKey : J.Key
  recvIdx : UInt32
  remoteDH : Bytes

/-- 32 bytes of the remote key are kept, and neither the key pair nor the skipped keys. -/
def serialize : Except Exception (Serialized J) :=
  let remoteDH := s.remoteDHRatchetKey.getD (List.replicate 32 0)
  if remoteDH.length < 32 then .error .arrayIndexOutOfBounds
  else
    .ok ⟨s.rootChainKey, s.sendingChainKey, s.sendingMessageNumber, s.receivingChainKey,
      s.receivingMessageNumber, remoteDH.take 32⟩

def deserialize (data : Serialized J) : DoubleRatchet J :=
  { create J.zeroSecret true draws.keyPair with
    rootChainKey := data.root
    sendingChainKey := data.sendKey
    sendingMessageNumber := data.sendIdx
    receivingChainKey := data.recvKey
    receivingMessageNumber := data.recvIdx
    remoteDHRatchetKey := some data.remoteDH }

def reload : DoubleRatchet J :=
  match s.serialize with
  | .error _ => s
  | .ok data => deserialize draws data

end

variable {I : J.Ideal} {s : DoubleRatchet J}

/-- A restored object has a remote key of 32 bytes, which no header holds. -/
structure Sound (I : J.Ideal) (s : DoubleRatchet J) : Prop where
  root : Even (I.level s.rootChainKey)
  sending : Even (I.level s.sendingChainKey)
  receiving : ∀ key ∈ s.remoteDHRatchetKey, key.length = 44 → Odd (I.level s.receivingChainKey)
  skipped : s.skippedMessageKeys = []

section
open CryptoProvider.Ideal

lemma level_byte (k : J.Key) (info : UInt8) : I.level (J.hkdfByte k info) = I.level k := by
  rw [level, I.term_byte]
  rfl

lemma level_root (k : J.Key) (sh : J.Shared) :
    I.level (J.hkdfRootChain k sh).1 = I.level k + 1 := by
  rw [level, I.term_root]
  rfl

lemma level_chain (k : J.Key) (sh : J.Shared) :
    I.level (J.hkdfRootChain k sh).2 = I.level k + 1 := by
  rw [level, I.term_chain]
  rfl

lemma sound_create (I : J.Ideal) (se : J.Secret) (i : Bool) (kp : J.PrivateKey) :
    (create se i kp).Sound I := by
  obtain ⟨a, b, c, ha, hb, hc⟩ := I.term_session se
  cases i
  · exact ⟨by simp [create, level, ha, KeyTerm.level], by simp [create, level, hc, KeyTerm.level],
      (by rintro _ ⟨⟩), rfl⟩
  · exact ⟨by simp [create, level, ha, KeyTerm.level], by simp [create, level, hb, KeyTerm.level],
      (by rintro _ ⟨⟩), rfl⟩

end

lemma Sound.encrypt (h : s.Sound I) (draws : Draws J) (p : Bytes) :
    (DoubleRatchet.encrypt draws s p).2.Sound I := by
  have hs : Even (I.level (J.hkdfByte s.sendingChainKey 2)) := by
    rw [level_byte]
    exact h.sending
  unfold DoubleRatchet.encrypt
  split
  · exact h
  dsimp only
  split
  · exact { h with sending := hs }
  · exact { h with sending := hs }

lemma agreeWith_error {x y : J.PrivateKey} {kb : Bytes} {e : Exception} {sh : J.Shared}
    (I : J.Ideal) (hx : J.agreeWith x kb = .ok sh) : J.agreeWith y kb ≠ .error e := by
  intro hy
  simp only [CryptoProvider.agreeWith, CryptoProvider.bytesToPublicKey] at hx hy
  cases hk : J.generatePublic kb with
  | none =>
    rw [hk] at hx
    cases hx
  | some key =>
    rw [hk] at hx hy
    simp only [bind, Except.bind, CryptoProvider.x25519Agreement] at hx hy
    cases hse : J.generateSecret y key with
    | none =>
      rw [I.refused y x key hse] at hx
      cases hx
    | some _ => simp_all

section
variable (h : s.Sound I) (draws : Draws J)
include h draws

lemma Sound.performDHRatchet (key : Bytes) :
    (performDHRatchet draws s key).2.Sound I ∧ ((performDHRatchet draws s key).1 = .ok () →
      Odd (I.level (performDHRatchet draws s key).2.receivingChainKey)) := by
  unfold DoubleRatchet.performDHRatchet
  split
  · exact ⟨h, nofun⟩
  · split
    · exact ⟨h, nofun⟩
    · rename_i shared hsh
      dsimp only
      split
      · rename_i e he
        exact absurd he (agreeWith_error I hsh)
      · rename_i shared' _
        have ho : Odd (I.level (J.hkdfRootChain s.rootChainKey shared).2) := by
          rw [level_chain]
          exact h.root.add_one
        have hev : Even (I.level (J.hkdfRootChain s.rootChainKey shared).1 + 1) := by
          rw [level_root]
          exact h.root.add_one.add_one
        refine ⟨⟨?_, ?_, fun _ _ _ => ho, h.skipped⟩, fun _ => ho⟩
        · rw [level_root]
          exact hev
        · rw [level_chain]
          exact hev

lemma Sound.followHeader (dpk : Option Bytes) :
    (followHeader draws s dpk).2.Sound I ∧ ((followHeader draws s dpk).1 = .ok () →
      ∀ key ∈ dpk, key.length = 44 →
        Odd (I.level (followHeader draws s dpk).2.receivingChainKey)) := by
  cases dpk with
  | none => exact ⟨h, nofun⟩
  | some key =>
    by_cases hke : s.remoteDHRatchetKey = some key
    · simp only [DoubleRatchet.followHeader, if_pos hke]
      exact ⟨h, fun _ k hk => h.receiving k (hke ▸ hk)⟩
    · simp only [DoubleRatchet.followHeader, if_neg hke]
      obtain ⟨hso, ho⟩ := h.performDHRatchet draws key
      exact ⟨hso, fun hok _ _ _ => ho hok⟩

/-- A call of `decrypt` keeps the invariant, and opens a message with a full header under a key of
odd level only. -/
lemma Sound.decrypt (me : Bytes) : (decrypt draws s me).2.Sound I ∧ ∀ plaintext,
    (decrypt draws s me).1 = .ok plaintext → ∃ header k, parseHeader me = .ok header ∧
    J.decrypt k (me.drop header.headerLength) = .ok plaintext ∧ ∀ key ∈ header.dhPublicKey,
    key.length = 44 → Odd (I.level k) := by
  unfold DoubleRatchet.decrypt
  cases hp : parseHeader me with
  | error e => exact ⟨h, nofun⟩
  | ok header =>
    have hf := h.followHeader draws header.dhPublicKey
    cases hre : s.followHeader draws header.dhPublicKey with
    | mk r t =>
      rw [hre] at hf
      obtain ⟨ht, hod⟩ := hf
      cases r with
      | error e =>
        simp only [hre]
        exact ⟨ht, nofun⟩
      | ok _ =>
        have hm : ∀ key ∈ t.remoteDHRatchetKey, key.length = 44 →
            Odd (I.level (J.hkdfByte t.receivingChainKey 2)) := by
          rw [level_byte]
          exact ht.receiving
        have hsk : t.skippedMessageKeys = [] := ht.skipped
        simp only [hre, hsk, List.lookup_nil]
        cases ho : J.decrypt (J.hkdfByte t.receivingChainKey 1) (me.drop header.headerLength) with
        | error e => exact ⟨⟨ht.root, ht.sending, hm, rfl⟩, nofun⟩
        | ok plaintext =>
          refine ⟨⟨ht.root, ht.sending, hm, rfl⟩, ?_⟩
          rintro _ ⟨⟩
          refine ⟨header, _, rfl, ho, ?_⟩
          rw [level_byte]
          exact hod rfl

lemma Sound.reload : (reload draws s).Sound I := by
  unfold DoubleRatchet.reload serialize
  dsimp only
  split_ifs
  · exact h
  · refine ⟨h.root, h.sending, ?_, rfl⟩
    rintro key ⟨⟩ hl
    simp at hl
    omega

end

lemma length_buildHeader (I : J.Ideal) (kp : J.PrivateKey) (n : UInt32) :
    (buildHeader kp n).length = 49 := by
  simp [buildHeader, I.encoded_length]

lemma parseHeader_buildHeader (I : J.Ideal) (kp : J.PrivateKey) (n : UInt32) (ci : Bytes) :
    parseHeader (buildHeader kp n ++ ci) = .ok ⟨some (J.getEncoded (J.getPublic kp)), n, 49⟩ := by
  have hl := I.encoded_length (J.getPublic kp)
  have hto : ¬ (buildHeader kp n ++ ci).length < 49 := by
    rw [List.length_append, length_buildHeader I]
    omega
  have hle : ((buildHeader kp n ++ ci).headD 0).toNat = 44 := by
    simp [buildHeader, hl]
  have hn : UInt32.ofNat (fromLe (toLe 4 n.toNat)) = n := by
    rw [fromLe_toLe n.toNat_lt, UInt32.ofNat_toNat]
  rw [parseHeader, if_neg (by omega)]
  rw [hle, if_neg hto]
  simp [buildHeader, hl, hn]

lemma cipherDecrypt_of_decrypt {k : J.Key} {ci p : Bytes} (h : J.decrypt k ci = .ok p) :
    J.cipherDecrypt k (ci.take 12) (ci.drop 12) = some p := by
  unfold CryptoProvider.decrypt at h
  split at h
  · cases h
  split at h
  · cases h
  · cases h
    assumption

lemma Sound.decrypt_encrypt {r : DoubleRatchet J} (h : s.Sound I) (hr : r.Sound I) {draws : Draws J}
    {p wire : Bytes} (hw : (DoubleRatchet.encrypt draws s p).1 = .ok wire)
    (d' : Draws J) : ∃ e, (DoubleRatchet.decrypt d' r wire).1 = .error e := by
  cases hre : (DoubleRatchet.decrypt d' r wire).1 with
  | error e => exact ⟨e, rfl⟩
  | ok o =>
    obtain ⟨he, k, hp, ho, hod⟩ := (hr.decrypt d' wire).2 o hre
    unfold DoubleRatchet.encrypt at hw
    split at hw
    · cases hw
    dsimp only at hw
    split at hw
    · cases hw
    rename_i keyPair _
    cases hw
    cases (parseHeader_buildHeader I keyPair _ _).symm.trans hp
    rw [List.drop_left' (length_buildHeader I keyPair _)] at ho
    have hci := cipherDecrypt_of_decrypt ho
    rw [CryptoProvider.encrypt, List.drop_left' draws.nonce.property] at hci
    have hk := hod _ rfl (I.encoded_length _)
    rw [← I.opens hci, level_byte] at hk
    exact absurd h.sending (Nat.not_even_iff_odd.mpr hk)

end DoubleRatchet

open Symbolic

def symbolicIdeal : symbolic.Ideal where
  Atom := SessionAtom
  term := id
  term_session := fun _ => ⟨_, _, _, rfl, rfl, rfl⟩
  term_byte := fun _ _ => rfl
  term_root := fun _ _ => rfl
  term_chain := fun _ _ => rfl
  refused := by
    intro x y key h
    simp only [symbolic] at h ⊢
    split at h
    · rw [if_pos (by assumption)]
    · cases h
  encoded_length := by
    intro (key : Bytes32)
    exact List.length_append.trans (congrArg (12 + ·) key.property)
  opens := by
    intro k k' nonce nonce' plaintext plaintext' h
    exact committingAead (List.cons_ne_nil 0 []) (List.cons_ne_nil 0 []) List.suffix_rfl
      (correctAead.decrypt_encrypt k nonce [0] plaintext) h

def symbolicDraws (keyPair : UInt64) : Draws symbolic := ⟨keyPair, nonce⟩

end Sibna.Java
