import Sibna.Errors

/-!
# The two ciphers

`CryptoHandler` and `validate_public_key` of `crypto/mod.rs`, and the message encryptor of
`crypto/encryptor.rs`, of which the ratchet makes one per message key.
-/

namespace Sibna

def tagLength : Nat := 16
def maxPlaintextLength : Nat := 100 * 1024 * 1024
def maxCiphertextLength : Nat := maxPlaintextLength + 12 + tagLength
def maxInfoLength : Nat := 256

def Suite.AeadLength (S : Suite) : Prop :=
  ∀ k n ad m, (S.aeadEncrypt k n ad m).length = m.length + tagLength

structure CryptoHandler (S : Suite) where
  cipher : S.Key

namespace CryptoHandler
variable {S : Suite}

def weak (key : Bytes32) : Bool :=
  isZero key.val || key.val == List.replicate 32 (key.val.headD 0)

def new (key : S.Key) : Except CryptoError (CryptoHandler S) :=
  if weak (S.keyBytes key) then .error .weakKey else .ok ⟨key⟩

/-- `none` for the nonce is a failing `SecureRandom::new`. -/
def encrypt (h : CryptoHandler S) (nonce : Option (FixedBytes 12)) (plaintext ad : Bytes) :
    Except CryptoError Bytes :=
  if plaintext.length > maxPlaintextLength then .error .encryptionFailed
  else if ad.length > maxInfoLength then .error .invalidCiphertext
  else
    match nonce with
    | none => .error .randomFailed
    | some n => .ok (n.val ++ S.aeadEncrypt h.cipher n.val ad plaintext)

def decrypt (h : CryptoHandler S) (ciphertext ad : Bytes) : Except CryptoError Bytes :=
  if ciphertext.length < 12 + tagLength then .error .invalidCiphertext
  else if ciphertext.length > maxCiphertextLength then .error .invalidCiphertext
  else
    match S.aeadDecrypt h.cipher (ciphertext.take 12) ad (ciphertext.drop 12) with
    | none => .error .authenticationFailed
    | some plaintext => .ok plaintext

variable {h : CryptoHandler S} {plaintext ad : Bytes}

lemma new_ok {key : S.Key} (hn : new key = .ok h) :
    h.cipher = key ∧ weak (S.keyBytes key) = false := by
  unfold new at hn
  split at hn
  · cases hn
  · grind

lemma encrypt_ok {no : Option (FixedBytes 12)} {bt : Bytes}
    (he : h.encrypt no plaintext ad = .ok bt) :
    plaintext.length ≤ maxPlaintextLength ∧ ad.length ≤ maxInfoLength ∧
      ∃ n, no = some n ∧ bt = n.val ++ S.aeadEncrypt h.cipher n.val ad plaintext := by
  unfold encrypt at he
  split at he
  · cases he
  rename_i hl
  split at he
  · cases he
  rename_i had
  split at he
  · cases he
  · simp_all

lemma decrypt_ok {ci : Bytes} (hd : h.decrypt ci ad = .ok plaintext) :
    12 + tagLength ≤ ci.length ∧ ci.length ≤ maxCiphertextLength ∧
    S.aeadDecrypt h.cipher (ci.take 12) ad (ci.drop 12) = some plaintext := by
  unfold decrypt at hd
  split at hd
  · cases hd
  rename_i hm
  split at hd
  · cases hd
  rename_i hma
  split at hd
  · cases hd
  · simp_all

lemma encrypt_some (h : CryptoHandler S) (n : FixedBytes 12)
    (hl : plaintext.length ≤ maxPlaintextLength) (had : ad.length ≤ maxInfoLength) :
    h.encrypt (some n) plaintext ad = .ok (n.val ++ S.aeadEncrypt h.cipher n.val ad plaintext) := by
  unfold encrypt
  rw [if_neg (Nat.not_lt.mpr hl), if_neg (Nat.not_lt.mpr had)]

lemma decrypt_sealed (hA : S.CorrectAead) (h : CryptoHandler S) (n : FixedBytes 12)
    (hl : 12 + (S.aeadEncrypt h.cipher n.val ad plaintext).length ≤ maxCiphertextLength) :
    h.decrypt (n.val ++ S.aeadEncrypt h.cipher n.val ad plaintext) ad = .ok plaintext := by
  have hta := hA.tag_length h.cipher n.val ad plaintext
  have hb : (n.val ++ S.aeadEncrypt h.cipher n.val ad plaintext).length =
      12 + (S.aeadEncrypt h.cipher n.val ad plaintext).length := by simp
  unfold decrypt
  rw [hb, if_neg (by unfold tagLength; omega), if_neg (by omega),
    List.take_left' n.property, List.drop_left' n.property, hA.decrypt_encrypt]

lemma decrypt_of_encrypt (hA : S.CorrectAead) (hL : S.AeadLength) {no : Option (FixedBytes 12)}
    {bt : Bytes} (he : h.encrypt no plaintext ad = .ok bt) :
    h.decrypt bt ad = .ok plaintext := by
  obtain ⟨hl, -, n, -, rfl⟩ := encrypt_ok he
  apply decrypt_sealed hA
  rw [hL]
  unfold maxCiphertextLength
  omega

lemma decrypt_encrypt (hA : S.CorrectAead) {h : CryptoHandler S}
    {no : Option (FixedBytes 12)} {plaintext p' ad bt : Bytes}
    (he : h.encrypt no plaintext ad = .ok bt) (hd : h.decrypt bt ad = .ok p') :
    p' = plaintext := by
  obtain ⟨-, -, n, -, rfl⟩ := encrypt_ok he
  obtain ⟨-, -, ho⟩ := decrypt_ok hd
  rw [List.take_left' n.property, List.drop_left' n.property, hA.decrypt_encrypt] at ho
  exact (Option.some.inj ho).symm

end CryptoHandler

def lowOrderPoints : List Bytes :=
  [List.replicate 32 0x00,
   0x01 :: List.replicate 31 0x00,
   [0xe0, 0xeb, 0x7a, 0x7c, 0x3b, 0x41, 0xb8, 0x01, 0xf1, 0xda, 0x56, 0x75, 0x47, 0x11,
    0x85, 0x12, 0x1a, 0x9f, 0x17, 0x60, 0xe7, 0x61, 0x19, 0x90, 0x3f, 0x52, 0x49, 0x22,
    0xfe, 0x80, 0x5a, 0x5f],
   [0x5f, 0x9c, 0x95, 0xbc, 0xa3, 0x50, 0x8c, 0x24, 0xb1, 0xd0, 0xb1, 0xa5, 0x99, 0x83,
    0x17, 0x0c, 0x64, 0x81, 0x41, 0xb2, 0x39, 0x52, 0x80, 0x24, 0xed, 0x54, 0x8f, 0x61,
    0x6c, 0x7e, 0x48, 0x8a],
   [0xed, 0xce, 0x84, 0x43, 0xbc, 0xaf, 0x73, 0x1d, 0x0e, 0x25, 0xd4, 0x7f, 0x3d, 0x1b,
    0xba, 0x8a, 0xb6, 0xb0, 0x5b, 0x69, 0x80, 0x45, 0x29, 0xed, 0x7f, 0x72, 0x1d, 0x97,
    0xa3, 0x31, 0xa3, 0xec],
   List.replicate 31 0x00 ++ [0x80],
   0x01 :: List.replicate 30 0x00 ++ [0x81],
   [0xe0, 0xeb, 0x7a, 0x7c, 0x3b, 0x41, 0xb8, 0x01, 0xf1, 0xda, 0x56, 0x75, 0x47, 0x11,
    0x85, 0x12, 0x1a, 0x9f, 0x17, 0x60, 0xe7, 0x61, 0x19, 0x90, 0x3f, 0x52, 0x49, 0x22,
    0xfe, 0x80, 0x5a, 0xdf]]

def validatePublicKey (pubKey : Bytes32) : Except CryptoError Unit :=
  if pubKey.val ∈ lowOrderPoints then .error .weakKey else .ok ()

open LittleEndian

def messageHeaderSize : Nat := 8 + 8 + 8
def nonceLength : Nat := 12
def maxMessageAgeSecs : Nat := 86400
def clockSkewToleranceSecs : Nat := 30

structure Encryptor (S : Suite) where
  cipher : S.Key
  messageNumber : Nat
  maxMessageNumber : Nat
  seenNumbers : AList (fun _ : Nat => Nat)
  maxSeenNumbers : Nat

def Suite.weakKey (S : Suite) (key : S.Key) : Bool :=
  isZero (S.keyBytes key).val || (S.keyBytes key).val.take 16 == (S.keyBytes key).val.drop 16

def buildHeaderWithPadding (messageNumber timestamp padding : Nat) : Bytes :=
  toLe 8 messageNumber ++ toLe 8 timestamp ++ toLe 8 padding

def buildHeader (messageNumber timestamp : Nat) : Bytes :=
  buildHeaderWithPadding messageNumber timestamp 0

@[simp] lemma buildHeaderWithPadding_length (n t p : Nat) :
    (buildHeaderWithPadding n t p).length = 24 := by simp [buildHeaderWithPadding]

@[simp] lemma buildHeader_length (n t : Nat) : (buildHeader n t).length = 24 :=
  buildHeaderWithPadding_length n t 0

namespace Encryptor
variable {S : Suite}

def new (key : S.Key) (initialMessageNumber : Nat) : Except CryptoError (Encryptor S) :=
  if S.weakKey key then .error .invalidKeyLength
  else .ok {
    cipher := key
    messageNumber := initialMessageNumber
    maxMessageNumber := initialMessageNumber
    seenNumbers := ∅
    maxSeenNumbers := 100000 }

section
variable (e : Encryptor S) (now : Option Nat)

def encryptBytes (nonce : Option (FixedBytes 12)) (plaintext associatedData : Bytes) :
    Except CryptoError Bytes :=
  match validateMessage plaintext, validateAssociatedData associatedData, nonce, now with
  | .error _, _, _, _ => .error .invalidCiphertext
  | .ok _, .error _, _, _ => .error .invalidCiphertext
  | .ok _, .ok _, none, _ => .error .randomFailed
  | .ok _, .ok _, some _, none => .error .encryptionFailed
  | .ok _, .ok _, some n, some timestamp =>
    let header := buildHeader e.messageNumber timestamp
    .ok (header ++ n.val ++ S.aeadEncrypt e.cipher n.val (associatedData ++ header) plaintext)

def encryptMessage (nonce : Option (FixedBytes 12)) (plaintext associatedData : Bytes) :
    Except CryptoError Bytes × Encryptor S :=
  match e.encryptBytes now nonce plaintext associatedData with
  | .error err => (.error err, e)
  | .ok bytes => (.ok bytes, { e with messageNumber := saturatingAdd e.messageNumber 1 })

/-- What `decrypt_message` does up to the replay table: the length, timestamp and replay
checks, and the opening under the header found on the wire, padding included. -/
def decryptBytes (ciphertext associatedData : Bytes) : Except CryptoError Bytes :=
  if ciphertext.length < messageHeaderSize + nonceLength + 16 then .error .invalidCiphertext
  else
    let messageNumber := fromLe (ciphertext.take 8)
    let timestamp := fromLe ((ciphertext.drop 8).take 8)
    let padding := fromLe ((ciphertext.drop 16).take 8)
    match now with
    | none => .error .encryptionFailed
    | some now =>
      if timestamp > now + clockSkewToleranceSecs then .error .invalidCiphertext
      else if now > timestamp + maxMessageAgeSecs then .error .invalidCiphertext
      else if (e.seenNumbers.lookup messageNumber).isSome then .error .authenticationFailed
      else
        let nonce := (ciphertext.drop messageHeaderSize).take nonceLength
        let encrypted := ciphertext.drop (messageHeaderSize + nonceLength)
        let header := buildHeaderWithPadding messageNumber timestamp padding
        match S.aeadDecrypt e.cipher nonce (associatedData ++ header) encrypted with
        | none => .error .authenticationFailed
        | some plaintext => .ok plaintext

def updateSeenNumbers (messageNumber timestamp : Nat) : Encryptor S :=
  let cutoff := now.getD ((2 ^ 64 - 1) / 2) - maxMessageAgeSecs
  let seen := e.seenNumbers.insert messageNumber timestamp
  { e with
    maxMessageNumber := max e.maxMessageNumber messageNumber
    seenNumbers := (seen.entries.filter fun entry => cutoff ≤ entry.2).toAList }

def decryptMessage (clock : Clock) (ciphertext associatedData : Bytes) :
    Except CryptoError Bytes × Encryptor S :=
  match e.decryptBytes (clock.read .encryptor) ciphertext associatedData with
  | .error err => (.error err, e)
  | .ok plaintext =>
    (.ok plaintext, e.updateSeenNumbers (clock.read .seenNumbers) (fromLe (ciphertext.take 8))
      (fromLe ((ciphertext.drop 8).take 8)))

end

variable {key : S.Key} {e : Encryptor S} {plaintext ad : Bytes}

lemma new_of_not_weak (h : S.weakKey key = false) (n : Nat) :
    new key n = .ok ⟨key, n, n, ∅, 100000⟩ := by
  simp [new, h]

lemma new_ok {n : Nat} (h : new key n = .ok e) :
    S.weakKey key = false ∧ e = ⟨key, n, n, ∅, 100000⟩ := by
  cases hw : S.weakKey key with
  | true => simp [new, hw] at h
  | false =>
    rw [new_of_not_weak hw, Except.ok.injEq] at h
    exact ⟨rfl, h.symm⟩

def innerTimestamp (ciphertext : Bytes) : Nat := fromLe ((ciphertext.drop 8).take 8)

lemma encryptBytes_ok {now : Option Nat} {no : Option (FixedBytes 12)} {bt : Bytes}
    (h : e.encryptBytes now no plaintext ad = .ok bt) :
    plaintext ≠ [] ∧ plaintext.length ≤ maxMessageSize ∧ ad.length ≤ maxAdLen ∧
      ∃ n t, no = some n ∧ now = some t ∧
        bt = buildHeader e.messageNumber t ++ n.val ++ S.aeadEncrypt e.cipher n.val
          (ad ++ buildHeader e.messageNumber t) plaintext := by
  unfold encryptBytes at h
  split at h
  · cases h
  · cases h
  · cases h
  · cases h
  rename_i hm had
  obtain ⟨hne, hl⟩ := (validateMessage_ok_iff plaintext).mp hm
  refine ⟨hne, hl, (validateAssociatedData_ok_iff ad).mp had, _, _, rfl, rfl, ?_⟩
  exact (Except.ok.inj h).symm

lemma encryptBytes_of_valid (e : Encryptor S) {t : Nat} {n : FixedBytes 12}
    {plaintext ad : Bytes} (hne : plaintext ≠ []) (hl : plaintext.length ≤ maxMessageSize)
    (had : ad.length ≤ maxAdLen) :
    e.encryptBytes (some t) (some n) plaintext ad =
      .ok (buildHeader e.messageNumber t ++ n.val ++ S.aeadEncrypt e.cipher n.val
        (ad ++ buildHeader e.messageNumber t) plaintext) := by
  simp only [encryptBytes, (validateMessage_ok_iff plaintext).mpr ⟨hne, hl⟩,
    (validateAssociatedData_ok_iff ad).mpr had]

lemma decryptBytes_ok {now : Option Nat} {ci : Bytes}
    (h : e.decryptBytes now ci ad = .ok plaintext) : ∃ n t p,
    S.aeadDecrypt e.cipher ((ci.drop 24).take 12) (ad ++ buildHeaderWithPadding n t p)
    (ci.drop 36) = some plaintext := by
  simp only [decryptBytes] at h
  split at h
  · cases h
  cases now with
  | none => cases h
  | some now =>
    simp only at h
    split_ifs at h
    split at h
    · cases h
    · rename_i ho
      cases h
      exact ⟨_, _, _, ho⟩

lemma decryptMessage_fst (e : Encryptor S) (cl : Clock) (ci ad : Bytes) :
    (e.decryptMessage cl ci ad).1 = e.decryptBytes (cl.read .encryptor) ci ad := by
  unfold decryptMessage
  cases h : e.decryptBytes (cl.read .encryptor) ci ad <;> rfl

lemma encryptMessage_fst (e : Encryptor S) (now : Option Nat) (no : Option (FixedBytes 12))
    (plaintext ad : Bytes) :
    (e.encryptMessage now no plaintext ad).1 = e.encryptBytes now no plaintext ad := by
  unfold encryptMessage
  cases h : e.encryptBytes now no plaintext ad <;> rfl

section
variable {n t : Nat}

lemma number_wire (hn : n < 2 ^ 64) (rest : Bytes) :
    fromLe ((buildHeader n t ++ rest).take 8) = n := by
  have h8 : (buildHeader n t ++ rest).take 8 = toLe 8 n := by
    simp [buildHeader, buildHeaderWithPadding]
  rw [h8, fromLe_toLe (by omega)]

lemma innerTimestamp_wire (ht : t < 2 ^ 64) (rest : Bytes) :
    innerTimestamp (buildHeader n t ++ rest) = t := by
  have h16 : ((buildHeader n t ++ rest).drop 8).take 8 = toLe 8 t := by
    simp [buildHeader, buildHeaderWithPadding]
  rw [innerTimestamp, h16, fromLe_toLe (by omega)]

lemma decryptBytes_wire (e : Encryptor S) (now : Option Nat) (ad : Bytes) (hn : n < 2 ^ 64)
    (ht : t < 2 ^ 64) (nn : FixedBytes 12) {box : Bytes} (hbo : 16 ≤ box.length) :
    e.decryptBytes now (buildHeader n t ++ (nn.val ++ box)) ad =
      match now with
      | none => .error .encryptionFailed
      | some now =>
        if t > now + clockSkewToleranceSecs then .error .invalidCiphertext
        else if now > t + maxMessageAgeSecs then .error .invalidCiphertext
        else if (e.seenNumbers.lookup n).isSome then .error .authenticationFailed
        else
          match S.aeadDecrypt e.cipher nn.val (ad ++ buildHeader n t) box with
          | none => .error .authenticationFailed
          | some plaintext => .ok plaintext := by
  set wire := buildHeader n t ++ (nn.val ++ box) with hw
  have h24 : (wire.drop 16).take 8 = toLe 8 0 := by
    simp [hw, buildHeader, buildHeaderWithPadding, List.drop_append, List.drop_of_length_le]
  have h36 : (wire.drop 24).take 12 = nn.val := by
    simp [hw]
  have hb : wire.drop (24 + 12) = box := by
    rw [hw, ← List.append_assoc]
    apply List.drop_left'
    simp
  have hl : ¬ wire.length < 24 + 12 + 16 := by grind
  have hts := innerTimestamp_wire (n := n) ht (nn.val ++ box)
  rw [innerTimestamp, ← hw] at hts
  have hnu := number_wire (t := t) hn (nn.val ++ box)
  simp only [decryptBytes, messageHeaderSize, nonceLength, hl, if_false, hts, h24, h36, hb,
    fromLe_toLe (show 0 < 256 ^ 8 by decide)]
  -- the number stands in a type, where no rewriting reaches it
  generalize fromLe (wire.take 8) = number at hnu ⊢
  subst hnu
  rw [← buildHeader]

end

lemma decryptBytes_encryptBytes (hA : S.CorrectAead) {cl : Clock}
    {no : Option (FixedBytes 12)} {bt : Bytes} {t' m : Nat}
    (h : (⟨key, 0, 0, ∅, m⟩ : Encryptor S).encryptBytes (cl.read .encryptor) no
      plaintext ad = .ok bt) (hsk : innerTimestamp bt ≤ t' + clockSkewToleranceSecs)
    (hag : t' ≤ innerTimestamp bt + maxMessageAgeSecs) :
    36 + 16 ≤ bt.length ∧
    (⟨key, 0, 0, ∅, m⟩ : Encryptor S).decryptBytes (some t') bt ad = .ok plaintext := by
  obtain ⟨-, -, -, n, t, rfl, hre, rfl⟩ := encryptBytes_ok h
  have ht : t < 2 ^ 64 := by
    have hlt := cl.read_lt .encryptor t hre
    omega
  have hta := hA.tag_length key n.val (ad ++ buildHeader 0 t) plaintext
  have ho := hA.decrypt_encrypt key n.val (ad ++ buildHeader 0 t) plaintext
  rw [List.append_assoc] at hsk hag ⊢
  rw [innerTimestamp_wire ht] at hsk hag
  constructor
  · simp only [List.length_append, buildHeader_length]
    omega
  · rw [decryptBytes_wire _ _ _ (show 0 < 2 ^ 64 by decide) ht n hta]
    simp only [Nat.not_lt.mpr hsk, Nat.not_lt.mpr hag, if_false, AList.lookup_empty,
      Option.isSome_none, Bool.false_eq_true, ho]

end Encryptor

end Sibna
