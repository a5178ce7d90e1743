import Sibna.ReplayWindow

/-!
# Streams

`StreamingEncryptor` of `crypto/encryptor.rs`. Both ends count the chunks over all streams.
-/

namespace Sibna

open LittleEndian Framing

def chunkField : LengthField UInt8 where
  width := 4
  bound := 256 ^ 4
  encode := toLe 4
  decode := fromLe
  length_encode := toLe_length 4
  decode_encode n hn := fromLe_toLe hn
  encode_decode bytes hbytes := by
    have hle := toLe_fromLe bytes
    rwa [hbytes] at hle
  decode_lt bytes hbytes := by
    have hlt := fromLe_lt bytes
    rwa [hbytes] at hlt

/-- The cipher adds less than a chunk to a chunk, so that the length of what it seals fits the
`u32`. -/
def Suite.ShortTag (S : Suite) (key : S.Key) : Prop :=
  ∀ (nonce : FixedBytes 12) (ad m : Bytes), ad.length = 32 →
    (S.aeadEncrypt key nonce.val ad m).length ≤ m.length + 1024 * 1024

structure StreamingEncryptor (S : Suite) where
  chunkSize : Nat
  encryptor : Encryptor S
  chunkCounter : Nat
  chunkSize_eq : chunkSize = 1024 * 1024
  chunkCounter_lt : chunkCounter < 2 ^ 64

/-- What the calls of `encrypt_message` for the chunks of one stream take from the operating
system, by the place of the chunk. -/
structure SealEnv where
  clock : Nat → Clock
  nonce : Nat → Option (FixedBytes 12)

def numChunks (chunkSize : Nat) (data : Bytes) : Nat := (data.length + chunkSize - 1) / chunkSize

def chunkAt (chunkSize : Nat) (data : Bytes) (i : Nat) : Bytes :=
  (data.take (min ((i + 1) * chunkSize) data.length)).drop (i * chunkSize)

lemma saturatingAdd_lt (n k : Nat) : saturatingAdd n k < 2 ^ 64 := by
  rw [saturatingAdd]
  omega

namespace StreamingEncryptor
variable {S : Suite}

def start (encryptor : Encryptor S) : StreamingEncryptor S where
  chunkSize := 1024 * 1024
  encryptor := encryptor
  chunkCounter := 0
  chunkSize_eq := rfl
  chunkCounter_lt := Nat.two_pow_pos 64

def new (key : S.Key) : Except CryptoError (StreamingEncryptor S) :=
  match Encryptor.new key 0 with
  | .error err => .error err
  | .ok encryptor => .ok (start encryptor)

def advance (s : StreamingEncryptor S) (encryptor : Encryptor S) : StreamingEncryptor S where
  __ := s
  encryptor := encryptor
  chunkCounter := saturatingAdd s.chunkCounter 1
  chunkCounter_lt := saturatingAdd_lt s.chunkCounter 1

def encryptChunks (env : SealEnv) (data : Bytes) :
    Nat → Nat → StreamingEncryptor S → Except CryptoError Bytes × StreamingEncryptor S
  | 0, _, s => (.ok [], s)
  | left + 1, i, s =>
    match s.encryptor.encryptMessage ((env.clock i).read .encryptor) (env.nonce i)
        (chunkAt s.chunkSize data i) (toLe 8 s.chunkCounter) with
    | (.error err, encryptor) => (.error err, { s with encryptor })
    | (.ok encrypted, encryptor) =>
      match encryptChunks env data left (i + 1) (s.advance encryptor) with
      | (.error err, s') => (.error err, s')
      | (.ok rest, s') => (.ok (chunkField.frame encrypted ++ rest), s')

def encryptStream (env : SealEnv) (data : Bytes) (s : StreamingEncryptor S) :
    Except CryptoError Bytes × StreamingEncryptor S :=
  match encryptChunks env data (numChunks s.chunkSize data) 0 s with
  | (.error err, s') => (.error err, s')
  | (.ok chunks, s') => (.ok (toLe 8 (numChunks s.chunkSize data) ++ chunks), s')

def decryptChunks (clock : Nat → Clock) :
    Nat → Nat → Bytes → StreamingEncryptor S → Except CryptoError Bytes × StreamingEncryptor S
  | 0, _, _, s => (.ok [], s)
  | left + 1, i, data, s =>
    match chunkField.read data with
    | none => (.error .invalidCiphertext, s)
    | some (encryptedChunk, rest) =>
      match s.encryptor.decryptMessage (clock i) encryptedChunk (toLe 8 s.chunkCounter) with
      | (.error err, encryptor) => (.error err, { s with encryptor })
      | (.ok chunk, encryptor) =>
        match decryptChunks clock left (i + 1) rest (s.advance encryptor) with
        | (.error err, s') => (.error err, s')
        | (.ok result, s') => (.ok (chunk ++ result), s')

/-- Whatever follows the last counted chunk is not looked at. -/
def decryptStream (clock : Nat → Clock) (data : Bytes) (s : StreamingEncryptor S) :
    Except CryptoError Bytes × StreamingEncryptor S :=
  if data.length < 8 then (.error .invalidCiphertext, s)
  else decryptChunks clock (fromLe (data.take 8)) 0 (data.drop 8) s

lemma chunkSize_pos (s : StreamingEncryptor S) : 0 < s.chunkSize := by
  rw [s.chunkSize_eq]
  decide

lemma new_ok {key : S.Key} {s : StreamingEncryptor S} (h : new key = .ok s) :
    s.encryptor = ⟨key, 0, 0, ∅, 100000⟩ ∧ s.chunkCounter = 0 := by
  unfold new at h
  split at h
  · cases h
  · rename_i hn
    rw [← Except.ok.inj h]
    exact ⟨(Encryptor.new_ok hn).2, rfl⟩

end StreamingEncryptor

section
variable {size : Nat} {data : Bytes} {i : Nat}

lemma lt_numChunks_iff (hsi : 0 < size) : i < numChunks size data ↔ i * size < data.length := by
  rw [numChunks, Nat.lt_iff_add_one_le, Nat.le_div_iff_mul_le hsi, Nat.add_mul]
  omega

lemma length_chunkAt :
    (chunkAt size data i).length = min ((i + 1) * size) data.length - i * size := by
  rw [chunkAt, List.length_drop, List.length_take]
  omega

lemma length_chunkAt_le : (chunkAt size data i).length ≤ size := by
  rw [length_chunkAt, Nat.add_mul]
  omega

lemma chunkAt_ne_nil (hsi : 0 < size) (h : i < numChunks size data) : chunkAt size data i ≠ [] := by
  apply List.ne_nil_of_length_pos
  have hlt := (lt_numChunks_iff hsi).mp h
  rw [length_chunkAt, Nat.add_mul]
  omega

lemma flatMap_chunkAt (size : Nat) (data : Bytes) (n : Nat) :
    (List.range n).flatMap (chunkAt size data) = data.take (n * size) := by
  induction n with
  | zero => simp
  | succ n ih =>
    have hm : data.take (min ((n + 1) * size) data.length) =
      data.take ((n + 1) * size) := by simp_all
    have hle := Nat.mul_le_mul_right size (Nat.le_succ n)
    have hea : data.take (n * size) = (data.take ((n + 1) * size)).take (n * size) := by grind
    rw [List.range_succ, List.flatMap_append, ih, List.flatMap_singleton, chunkAt, hm, hea,
      List.take_append_drop]

lemma chunks_flatten (hsi : 0 < size) :
    (List.range (numChunks size data)).flatMap (chunkAt size data) = data := by
  have hal : data.length ≤ numChunks size data * size := by
    by_contra hlt
    exact Nat.lt_irrefl _ ((lt_numChunks_iff hsi).mpr (Nat.not_le.mp hlt))
  rw [flatMap_chunkAt, List.take_of_length_le hal]

end

namespace StreamingEncryptor
variable {S : Suite}

lemma count_append {co : Nat} (hco : co < 256 ^ 8) (rest : Bytes) :
    ¬ (toLe 8 co ++ rest).length < 8 ∧ fromLe ((toLe 8 co ++ rest).take 8) = co ∧
    (toLe 8 co ++ rest).drop 8 = rest := by
  refine ⟨?_, ?_, List.drop_left' (toLe_length 8 co)⟩
  · simp_all
  · rw [List.take_left' (toLe_length 8 co), fromLe_toLe hco]

def SealedBy (key : S.Key) (env : SealEnv) (size : Nat) (data : Bytes) :
    Nat → Nat → Nat → List Encryptor.Sealed → Prop
  | _, _, _, [] => True
  | i, counter, number, x :: xs =>
    (x.Under key ∧ x.number = number ∧ x.associatedData = toLe 8 counter ∧
      (env.clock i).read .encryptor = some x.timestamp ∧ x.plaintext = chunkAt size data i) ∧
    SealedBy key env size data (i + 1) (saturatingAdd counter 1) (saturatingAdd number 1) xs

def body (chunks : List Encryptor.Sealed) : Bytes :=
  chunkField.frames (chunks.map Encryptor.Sealed.bytes)

end StreamingEncryptor

namespace Encryptor
variable {S : Suite}

lemma encryptMessage_ok {e e' : Encryptor S} {clock : Clock} {no : Option (FixedBytes 12)}
    {p ad bytes : Bytes} (hn : e.messageNumber < 2 ^ 64)
    (h : e.encryptMessage (clock.read .encryptor) no p ad = (.ok bytes, e')) :
    ∃ x : Sealed, x.bytes = bytes ∧ x.plaintext = p ∧ x.associatedData = ad ∧
      x.Under e.cipher ∧ x.number = e.messageNumber ∧
      clock.read .encryptor = some x.timestamp ∧
      e' = { e with messageNumber := saturatingAdd e.messageNumber 1 } := by
  unfold encryptMessage at h
  split at h
  · cases h
  rename_i hb
  obtain ⟨hok, rfl⟩ := Prod.mk.inj h
  cases hok
  obtain ⟨-, -, -, n, t, -, hre, rfl⟩ := encryptBytes_ok hb
  have ht : t < 2 ^ 64 := by
    have hlt := clock.read_lt .encryptor t hre
    omega
  rw [List.append_assoc]
  refine ⟨⟨_, p, ad⟩, rfl, rfl, rfl, ⟨_, t, hn, ht, n, rfl⟩, number_wire hn _, ?_, rfl⟩
  rw [hre, Sealed.timestamp, innerTimestamp_wire ht]

lemma encryptMessage_of_valid (e : Encryptor S) {now : Option Nat}
    {no : Option (FixedBytes 12)} {p ad : Bytes} (hno : now.isSome = true)
    (hn : no.isSome = true) (hne : p ≠ []) (hl : p.length ≤ maxMessageSize)
    (had : ad.length ≤ maxAdLen) :
    ∃ bytes, e.encryptMessage now no p ad =
      (.ok bytes, { e with messageNumber := saturatingAdd e.messageNumber 1 }) := by
  obtain ⟨t, rfl⟩ := Option.isSome_iff_exists.mp hno
  obtain ⟨n, rfl⟩ := Option.isSome_iff_exists.mp hn
  have hb := @encryptBytes_of_valid S e t n p ad hne hl had
  exact ⟨_, by rw [encryptMessage, hb]⟩

lemma decryptMessage_cipher (e : Encryptor S) (clock : Clock) (ci ad : Bytes) :
    (e.decryptMessage clock ci ad).2.cipher = e.cipher := by
  unfold decryptMessage
  cases e.decryptBytes _ ci ad <;> rfl

lemma Sealed.Under.length_lt {key : S.Key} {x : Sealed} (hT : S.ShortTag key) (h : x.Under key)
    (had : x.associatedData.length = 8) (hpl : x.plaintext.length ≤ 1024 * 1024) :
    x.bytes.length < chunkField.bound := by
  obtain ⟨n, t, -, -, no, hby⟩ := h
  have hn := no.property
  have hta := hT no (x.associatedData ++ buildHeader n t) x.plaintext (by
    rw [List.length_append, had, buildHeader_length])
  have hb : chunkField.bound = 4294967296 := by decide
  rw [hb, hby, List.length_append, List.length_append, buildHeader_length, hn]
  omega

end Encryptor

namespace StreamingEncryptor
variable {S : Suite} {env : SealEnv} {data : Bytes}

lemma saturatingAdd_zero {n : Nat} (h : n < 2 ^ 64) : saturatingAdd n 0 = n := by
  rw [saturatingAdd]
  omega

lemma saturatingAdd_succ (n left : Nat) :
    saturatingAdd (saturatingAdd n 1) left = saturatingAdd n (left + 1) := by
  simp only [saturatingAdd]
  omega

variable {left : Nat} {s s' : StreamingEncryptor S} {bytes : Bytes}

lemma encryptChunks_succ {i : Nat} (h : encryptChunks env data (left + 1) i s = (.ok bytes, s')) :
    ∃ encrypted encryptor rest, s.encryptor.encryptMessage ((env.clock i).read .encryptor)
    (env.nonce i) (chunkAt s.chunkSize data i)
    (toLe 8 s.chunkCounter) = (.ok encrypted, encryptor) ∧ encryptChunks env data left (i + 1)
    (s.advance encryptor) = (.ok rest, s') ∧ bytes = chunkField.frame encrypted ++ rest := by
  rw [encryptChunks] at h
  split at h
  · cases h
  rename_i encrypted encryptor hen
  split at h
  · cases h
  · simp_all

lemma encryptChunks_ok {i : Nat} (hn : s.encryptor.messageNumber < 2 ^ 64)
    (h : encryptChunks env data left i s = (.ok bytes, s')) :
    (∃ chunks, SealedBy s.encryptor.cipher env s.chunkSize data i s.chunkCounter
        s.encryptor.messageNumber chunks ∧ chunks.length = left ∧ bytes = body chunks) ∧
      s'.encryptor = { s.encryptor with
        messageNumber := saturatingAdd s.encryptor.messageNumber left } ∧
      s'.chunkCounter = saturatingAdd s.chunkCounter left := by
  induction left generalizing i s bytes with
  | zero =>
    obtain ⟨hok, rfl⟩ := Prod.mk.inj h
    refine ⟨⟨[], trivial, rfl, (Except.ok.inj hok).symm⟩, ?_, ?_⟩
    · rw [saturatingAdd_zero hn]
    · rw [saturatingAdd_zero s.chunkCounter_lt]
  | succ left ih =>
    obtain ⟨en, encryptor, rest, hec, hr, rfl⟩ := encryptChunks_succ h
    obtain ⟨x, rfl, hpl, had, hu, hnu, hre, rfl⟩ :=
      Encryptor.encryptMessage_ok hn hec
    obtain ⟨⟨chunks, hse, hl, rfl⟩, hen, hco⟩ := ih (saturatingAdd_lt _ _) hr
    refine ⟨⟨x :: chunks, ⟨⟨hu, hnu, had, hre, hpl⟩, hse⟩, ?_, rfl⟩, ?_, ?_⟩
    · rw [List.length_cons, hl]
    · rw [hen]
      simp only [advance, saturatingAdd_succ]
    · rw [hco]
      exact saturatingAdd_succ _ _

lemma encryptChunks_of_env {i : Nat} (hlf : i + left ≤ numChunks s.chunkSize data)
    (hen : ∀ k < numChunks s.chunkSize data,
      ((env.clock k).read .encryptor).isSome = true ∧ (env.nonce k).isSome = true) :
    ∃ bytes s', encryptChunks env data left i s = (.ok bytes, s') := by
  induction left generalizing i s with
  | zero => exact ⟨[], s, rfl⟩
  | succ left ih =>
    have hi : i < numChunks s.chunkSize data := by omega
    have hl : (chunkAt s.chunkSize data i).length ≤ maxMessageSize := by
      have hle := @length_chunkAt_le s.chunkSize data i
      rw [s.chunkSize_eq] at hle ⊢
      exact hle.trans (by decide)
    have had : (toLe 8 s.chunkCounter).length ≤ maxAdLen := by
      rw [toLe_length]
      decide
    obtain ⟨en, hec⟩ := Encryptor.encryptMessage_of_valid s.encryptor (hen i hi).1
      (hen i hi).2 (chunkAt_ne_nil s.chunkSize_pos hi) hl had
    have hn : i + 1 + left ≤ numChunks s.chunkSize data := by omega
    obtain ⟨rest, s', hr⟩ := ih (s := s.advance { s.encryptor with
      messageNumber := saturatingAdd s.encryptor.messageNumber 1 }) hn hen
    refine ⟨chunkField.frame en ++ rest, s', ?_⟩
    rw [encryptChunks, hec]
    simp only [hr]

lemma encryptStream_ok (hn : s.encryptor.messageNumber < 2 ^ 64)
    (h : s.encryptStream env data = (.ok bytes, s')) :
    (∃ chunks, SealedBy s.encryptor.cipher env s.chunkSize data 0 s.chunkCounter
        s.encryptor.messageNumber chunks ∧ chunks.length = numChunks s.chunkSize data ∧
        bytes = toLe 8 chunks.length ++ body chunks) ∧
      s'.encryptor = { s.encryptor with
        messageNumber := saturatingAdd s.encryptor.messageNumber (numChunks s.chunkSize data) } ∧
      s'.chunkCounter = saturatingAdd s.chunkCounter (numChunks s.chunkSize data) := by
  unfold encryptStream at h
  split at h
  · cases h
  rename_i hr
  obtain ⟨hok, rfl⟩ := Prod.mk.inj h
  obtain ⟨⟨chunks, hse, hl, rfl⟩, hen, hco⟩ := encryptChunks_ok hn hr
  refine ⟨⟨chunks, hse, hl, ?_⟩, hen, hco⟩
  rw [hl]
  exact (Except.ok.inj hok).symm

lemma encryptStream_of_env (hen : ∀ k < numChunks s.chunkSize data,
      ((env.clock k).read .encryptor).isSome = true ∧ (env.nonce k).isSome = true) :
    ∃ bytes s', s.encryptStream env data = (.ok bytes, s') := by
  obtain ⟨rest, s', hr⟩ := encryptChunks_of_env (i := 0) (Nat.le_of_eq (Nat.zero_add _)) hen
  exact ⟨_, s', by rw [encryptStream, hr]⟩

namespace SealedBy
variable {key : S.Key} {size : Nat} {i counter number : Nat} {chunks : List Encryptor.Sealed}

lemma under (h : SealedBy key env size data i counter number chunks) :
    ∀ x ∈ chunks, x.Under key := by
  induction chunks generalizing i counter number with
  | nil => exact nofun
  | cons x xs ih => exact List.forall_mem_cons.mpr ⟨h.1.1, ih h.2⟩

lemma plaintexts (h : SealedBy key env size data i counter number chunks) :
    chunks.map Encryptor.Sealed.plaintext = (List.range' i chunks.length).map (chunkAt size data) :=
    by
  induction chunks generalizing i counter number with
  | nil => rfl
  | cons x xs ih =>
    obtain ⟨⟨-, -, -, -, hpl⟩, hr⟩ := h
    rw [List.map_cons, ih hr, hpl, List.length_cons, List.range'_succ, List.map_cons]

lemma flatMap_plaintext (hsi : 0 < size) (h : SealedBy key env size data 0 counter number chunks)
    (hl : chunks.length = numChunks size data) : chunks.flatMap Encryptor.Sealed.plaintext = data :=
    by
  rw [List.flatMap_def, h.plaintexts, hl, ← List.range_eq_range', ← List.flatMap_def,
    chunks_flatten hsi]

lemma length_plaintext_le (h : SealedBy key env size data i counter number chunks) :
    ∀ x ∈ chunks, x.plaintext.length ≤ size := by
  intro x hx
  have hm : x.plaintext ∈ chunks.map Encryptor.Sealed.plaintext := List.mem_map_of_mem hx
  rw [h.plaintexts] at hm
  obtain ⟨k, -, hk⟩ := List.mem_map.mp hm
  rw [← hk]
  exact length_chunkAt_le

lemma length_associatedData (h : SealedBy key env size data i counter number chunks) :
    ∀ x ∈ chunks, x.associatedData.length = 8 := by
  induction chunks generalizing i counter number with
  | nil => exact nofun
  | cons x xs ih =>
    refine List.forall_mem_cons.mpr ⟨?_, ih h.2⟩
    rw [h.1.2.2.1, toLe_length]

lemma fit (hT : S.ShortTag key) (hsi : size = 1024 * 1024)
    (h : SealedBy key env size data i counter number chunks) :
    chunkField.Fit (chunks.map Encryptor.Sealed.bytes) := by
  intro bytes hb
  obtain ⟨x, hx, rfl⟩ := List.mem_map.mp hb
  have hpl := h.length_plaintext_le x hx
  rw [hsi] at hpl
  exact (h.under x hx).length_lt hT (h.length_associatedData x hx) hpl

end SealedBy

section
variable {clock : Nat → Clock} {left i : Nat} {encryptedChunk rest chunk : Bytes}
  {s : StreamingEncryptor S} {err : CryptoError} {encryptor : Encryptor S}

lemma decryptChunks_cut (hre : chunkField.read data = none) :
    decryptChunks clock (left + 1) i data s = (.error .invalidCiphertext, s) := by
  rw [decryptChunks, hre]

lemma decryptChunks_refused (hre : chunkField.read data = some (encryptedChunk, rest))
    (ho : (s.encryptor.decryptMessage (clock i) encryptedChunk (toLe 8 s.chunkCounter)).1 =
      .error err) :
    decryptChunks clock (left + 1) i data s = (.error err, s) := by
  rw [Encryptor.decryptMessage_fst] at ho
  simp only [decryptChunks, hre, Encryptor.decryptMessage, ho]

lemma decryptChunks_opened (hre : chunkField.read data = some (encryptedChunk, rest))
    (ho : s.encryptor.decryptMessage (clock i) encryptedChunk (toLe 8 s.chunkCounter) =
      (.ok chunk, encryptor)) :
    decryptChunks clock (left + 1) i data s =
      ((decryptChunks clock left (i + 1) rest (s.advance encryptor)).1.map fun result =>
          chunk ++ result,
        (decryptChunks clock left (i + 1) rest (s.advance encryptor)).2) := by
  simp only [decryptChunks, hre, ho]
  split
  · rename_i hr
    rw [hr]
    rfl
  · rename_i hr
    rw [hr]
    rfl

lemma decryptChunks_cases (clock : Nat → Clock) (left i : Nat) (data : Bytes)
    (s : StreamingEncryptor S) :
    (chunkField.read data = none ∧
      decryptChunks clock (left + 1) i data s = (.error .invalidCiphertext, s)) ∨
    ∃ encryptedChunk rest, chunkField.read data = some (encryptedChunk, rest) ∧
      ((∃ err, (s.encryptor.decryptMessage (clock i) encryptedChunk (toLe 8 s.chunkCounter)).1 =
          .error err ∧ decryptChunks clock (left + 1) i data s = (.error err, s)) ∨
        ∃ chunk encryptor, s.encryptor.decryptMessage (clock i) encryptedChunk
            (toLe 8 s.chunkCounter) = (.ok chunk, encryptor) ∧
          decryptChunks clock (left + 1) i data s =
            ((decryptChunks clock left (i + 1) rest (s.advance encryptor)).1.map fun result =>
                chunk ++ result,
              (decryptChunks clock left (i + 1) rest (s.advance encryptor)).2)) := by
  cases hre : chunkField.read data with
  | none => exact .inl ⟨rfl, decryptChunks_cut hre⟩
  | some f =>
    obtain ⟨encryptedChunk, rest⟩ := f
    refine .inr ⟨encryptedChunk, rest, rfl, ?_⟩
    cases ho : s.encryptor.decryptMessage (clock i) encryptedChunk (toLe 8 s.chunkCounter) with
    | mk o encryptor =>
      cases o with
      | error err => exact .inl ⟨err, rfl, decryptChunks_refused hre (by rw [ho])⟩
      | ok chunk => exact .inr ⟨chunk, encryptor, rfl, decryptChunks_opened hre ho⟩

lemma decryptChunks_ok {r : Bytes}
    (h : (decryptChunks clock (left + 1) i data s).1 = .ok r) :
    ∃ encryptedChunk rest chunk encryptor others,
      chunkField.read data = some (encryptedChunk, rest) ∧
      s.encryptor.decryptMessage (clock i) encryptedChunk (toLe 8 s.chunkCounter) =
        (.ok chunk, encryptor) ∧
      (decryptChunks clock left (i + 1) rest (s.advance encryptor)).1 = .ok others ∧
      r = chunk ++ others := by
  rcases decryptChunks_cases clock left i data s with
    ⟨-, heq⟩ | ⟨encryptedChunk, rest, hre, ⟨err, -, heq⟩ | ⟨chunk, encryptor, hop, heq⟩⟩
  · rw [heq] at h
    cases h
  · rw [heq] at h
    cases h
  rw [heq] at h
  cases ho : (decryptChunks clock left (i + 1) rest (s.advance encryptor)).1 with
  | error err =>
    rw [ho] at h
    cases h
  | ok others =>
    rw [ho] at h
    exact ⟨encryptedChunk, rest, chunk, encryptor, others, hre, hop, ho, (Except.ok.inj h).symm⟩

lemma decryptStream_append (clock : Nat → Clock) {co : Nat} (hco : co < 256 ^ 8)
    (rest : Bytes) (s : StreamingEncryptor S) :
    s.decryptStream clock (toLe 8 co ++ rest) = decryptChunks clock co 0 rest s := by
  obtain ⟨hl, hre, hr⟩ := count_append hco rest
  rw [decryptStream, if_neg hl, hre, hr]

end

section
open Sibna.Symbolic

lemma hundred_lt : 100 < 2 ^ 63 := by decide

def chunkClock (_ : Nat) : Clock := Clock.at 100 hundred_lt

def chunkEnv : SealEnv := ⟨chunkClock, fun _ => some nonce⟩

end

end StreamingEncryptor

end Sibna
