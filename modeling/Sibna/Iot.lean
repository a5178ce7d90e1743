import Sibna.Errors
import Sibna.Lib.Crc

/-!
# Compressed payloads and serial frames

`decompress` checks the announced size only of inputs longer than four bytes. `parse_serial_frame`
checks the markers and a lower bound on the length, each for itself.
-/

namespace Sibna.Iot

/-- `lz4_flex`; `none` is any of its errors. -/
structure Lz4 where
  compressPrependSize : Bytes → Bytes
  decompressSizePrepended : Bytes → Option Bytes

/-- Decompression inverts compression, which writes the size as a `u32` in front. -/
structure Lz4.Inverts (L : Lz4) : Prop where
  size : ∀ data, data.length < 2 ^ 32 →
    (L.compressPrependSize data).take 4 = LittleEndian.toLe 4 data.length
  roundTrip : ∀ data, data.length < 2 ^ 32 →
    L.decompressSizePrepended (L.compressPrependSize data) = some data

inductive DecompressError where
  | invalidData
  | tooLarge
  deriving DecidableEq, Repr

inductive ParseError where
  | tooShort
  | decompressionFailed
  deriving DecidableEq, Repr

def maxDecompressedSize : Nat := 20 * 1024 * 1024

/-- What the library takes for the size of its output; shorter inputs are an error there. -/
def declaredSize (input : Bytes) : Option Nat :=
  if 4 ≤ input.length then some (LittleEndian.fromLe (input.take 4)) else none

section
variable {p : Bytes} (L : Lz4)

def compress (data : Bytes) : Bytes := L.compressPrependSize data

/-- The inputs the library is called with, and the result. -/
def decompress (data : Bytes) : List Bytes × Except DecompressError Bytes :=
  if data.length > 4 ∧ LittleEndian.fromLe (data.take 4) > maxDecompressedSize then
    ([], .error .tooLarge)
  else ([data], okOr (L.decompressSizePrepended data) .invalidData)

def buildMqttPayload (recipientId : Bytes32) (encryptedPayload : Bytes) (compressPayload : Bool) :
    Bytes :=
  [if compressPayload then 0x01 else 0x00] ++ recipientId.val ++
    if compressPayload then compress L encryptedPayload else encryptedPayload

lemma length_recipient {raw : Bytes} (h : ¬ raw.length < 33) :
    ((raw.drop 1).take 32).length = 32 := by
  simp only [List.length_take, List.length_drop]
  omega

def parseMqttPayload (raw : Bytes) : List Bytes × Except ParseError (Bool × Bytes32 × Bytes) :=
  if h : raw.length < 33 then ([], .error .tooShort)
  else
    let recipient : Bytes32 := ⟨(raw.drop 1).take 32, length_recipient h⟩
    let payloadRaw := raw.drop 33
    if raw.getD 0 0 &&& 0x01 ≠ 0 then
      ((decompress L payloadRaw).1, ((decompress L payloadRaw).2.mapError fun _ =>
        ParseError.decompressionFailed).map fun payload => (true, recipient, payload))
    else ([], .ok (false, recipient, payloadRaw))

/-- Whatever the library declares is within the limit. -/
def Bounded (calls : List Bytes) : Prop :=
  ∀ input ∈ calls, ∀ size, declaredSize input = some size → size ≤ maxDecompressedSize

lemma bounded_decompress_iff (data : Bytes) : Bounded (decompress L data).1 ↔
    ¬ (data.length = 4 ∧ maxDecompressedSize < LittleEndian.fromLe data) := by
  unfold decompress
  split
  · exact iff_of_true (by simp [Bounded]) (by omega)
  by_cases hl : data.length = 4
  · simp [Bounded, declaredSize, hl, List.take_of_length_le]
  · simp [Bounded, declaredSize]
    omega

lemma decompress_compress {L : Lz4} (hL : L.Inverts) {data : Bytes}
    (h : data.length ≤ maxDecompressedSize) : (decompress L (compress L data)).2 = .ok data := by
  have hlt : data.length < 2 ^ 32 := Nat.lt_of_le_of_lt h (by decide)
  rw [decompress, compress, if_neg, hL.roundTrip data hlt]
  · rfl
  · rintro ⟨-, hl⟩
    rw [hL.size data hlt, LittleEndian.fromLe_toLe hlt] at hl
    exact absurd h (Nat.not_le.mpr hl)

lemma parseMqttPayload_cons (f : UInt8) (r : Bytes32) (rest : Bytes) :
    (parseMqttPayload L (f :: (r.val ++ rest))).2 =
      if f &&& 0x01 ≠ 0 then ((decompress L rest).2.mapError fun _ =>
        ParseError.decompressionFailed).map fun payload => (true, r, payload)
      else .ok (false, r, rest) := by
  have hl : ¬ (f :: (r.val ++ rest)).length < 33 := by simp_all
  have hre : (r.val ++ rest).take 32 = r.val :=
    List.take_left' r.property
  have hr : (r.val ++ rest).drop 32 = rest := List.drop_left' r.property
  rw [parseMqttPayload, dif_neg hl]
  simp only [List.drop_succ_cons, List.drop_zero, hre, hr, List.getD_cons_zero]
  split <;> rfl

lemma parse_build {L : Lz4} (hL : L.Inverts) (r : Bytes32) {p : Bytes}
    (h : p.length ≤ maxDecompressedSize) (cp : Bool) :
    (parseMqttPayload L (buildMqttPayload L r p cp)).2 = .ok (cp, r, p) := by
  cases cp with
  | true =>
    refine (parseMqttPayload_cons L 0x01 r (compress L p)).trans ?_
    rw [if_pos (by decide), decompress_compress hL h]
    rfl
  | false => exact parseMqttPayload_cons L 0x00 r p

/-- Only a size without anything behind it gets past the limit, directly or behind the 33 bytes of
an MQTT payload; and what is sent comes back. -/
theorem decompression_bounded_iff : (∀ data, Bounded (decompress L data).1 ↔
      ¬ (data.length = 4 ∧ maxDecompressedSize < LittleEndian.fromLe data)) ∧
    (∀ raw, Bounded (parseMqttPayload L raw).1 ↔ ¬ (raw.length = 37 ∧ raw.getD 0 0 &&& 0x01 ≠ 0 ∧
      maxDecompressedSize < LittleEndian.fromLe (raw.drop 33))) ∧
    (L.Inverts → ∀ recipientId payload compressPayload, payload.length ≤ maxDecompressedSize →
      (parseMqttPayload L (buildMqttPayload L recipientId payload compressPayload)).2 =
        .ok (compressPayload, recipientId, payload)) := by
  refine ⟨bounded_decompress_iff L, ?_, fun hL recipientId payload _ h => parse_build hL _ h _⟩
  intro raw
  unfold parseMqttPayload
  split
  · exact iff_of_true (by simp [Bounded]) (by omega)
  by_cases hflag : raw.getD 0 0 &&& 0x01 ≠ 0
  · simp only [if_pos hflag, bounded_decompress_iff, List.length_drop]
    exact not_congr (and_congr (by omega) (and_iff_right hflag).symm)
  · simp only [if_neg hflag]
    exact iff_of_true (by simp [Bounded]) fun h => hflag h.2.1

/-- The token and the length bytes of an LZ4 sequence of `n` literals. -/
def literalToken (n : Nat) : Bytes :=
  if n < 15 then [UInt8.ofNat (16 * n)]
  else 0xF0 :: (List.replicate ((n - 15) / 255) 0xFF ++ [UInt8.ofNat ((n - 15) % 255)])

/-- LZ4 blocks of one sequence without a match; the literals are at the end. -/
def literalsOnly : Lz4 where
  compressPrependSize data :=
    LittleEndian.toLe 4 data.length ++ (literalToken data.length ++ data)
  decompressSizePrepended input :=
    some (input.drop (input.length - LittleEndian.fromLe (input.take 4)))

lemma literalsOnly_inverts : literalsOnly.Inverts where
  size data _ := List.take_left' (LittleEndian.toLe_length 4 data.length)
  roundTrip data h := by
    have hs : LittleEndian.fromLe (LittleEndian.toLe 4 data.length) = data.length :=
      LittleEndian.fromLe_toLe h
    simp only [literalsOnly, List.take_left' (LittleEndian.toLe_length 4 _), hs]
    rw [← List.append_assoc, List.length_append, Nat.add_sub_cancel, List.drop_left]

theorem compressed_byte_returned :
    (parseMqttPayload literalsOnly
      (buildMqttPayload literalsOnly ⟨List.replicate 32 1, rfl⟩ [7] true)).2 =
      .ok (true, ⟨List.replicate 32 1, rfl⟩, [7]) := by
  exact (decompression_bounded_iff literalsOnly).2.2 literalsOnly_inverts _ [7] true (by decide)

theorem four_bytes_unbounded : ¬ Bounded (decompress literalsOnly [0xFF, 0xFF, 0xFF, 0xFF]).1 ∧
    ¬ Bounded (parseMqttPayload literalsOnly (0x01 :: List.replicate 36 0xFF)).1 := by
  constructor
  · intro h
    exact absurd (h _ (.head _) _ rfl) (by decide)
  · intro h
    exact absurd (h _ (.head _) _ rfl) (by decide)

inductive FrameError where
  | tooShort
  | noSTX
  | noETX
  | incompleteFrame
  | crcMismatch (expected received : BitVec 16)
  deriving DecidableEq, Repr

/-- CRC-16/IBM. -/
def crc16 (data : Bytes) : BitVec 16 := data.foldl (Crc.absorb 0xA001#16) 0xFFFF#16

def bigEndian (x : Nat) : Bytes := [UInt8.ofNat (x / 256), UInt8.ofNat x]

def fromBigEndian (hi lo : UInt8) : Nat := (hi.toNat <<< 8) ||| lo.toNat

/-- The length is cut to a `u16`. -/
def frameSerial (payload : Bytes) : Bytes :=
  let len := payload.length % 65536
  let crc := crc16 payload
  [0x02] ++ bigEndian len ++ payload ++ bigEndian crc.toNat ++ [0x03]

/-- `none` is a panic. -/
def parseSerialFrame (data : Bytes) : Option (Except FrameError Bytes) :=
  if data.length < 6 then some (.error .tooShort)
  else do
    if (← data[0]?) ≠ 0x02 then some (.error .noSTX)
    else if (← data[← checkedSub data.length 1]?) ≠ 0x03 then some (.error .noETX)
    else
      let len := fromBigEndian (← data[1]?) (← data[2]?)
      if data.length < 3 + len + 3 then some (.error .incompleteFrame)
      else
        let payload ← sliceOf data 3 (3 + len)
        let received := BitVec.ofNat 16 (fromBigEndian (← data[3 + len]?) (← data[3 + len + 1]?))
        let expected := crc16 payload
        if received ≠ expected then some (.error (.crcMismatch expected received))
        else some (.ok payload)

lemma fromBigEndian_eq (hi lo : UInt8) : fromBigEndian hi lo = hi.toNat * 256 + lo.toNat := by
  rw [fromBigEndian, Nat.or_comm, LittleEndian.or_shiftLeft_eq]

lemma fromBigEndian_lt (hi lo : UInt8) : fromBigEndian hi lo < 65536 := by
  have hhi := hi.toNat_lt
  have hlo := lo.toNat_lt
  rw [fromBigEndian_eq]
  omega

lemma bigEndian_fromBigEndian (hi lo : UInt8) : bigEndian (fromBigEndian hi lo) = [hi, lo] := by
  have hlo := lo.toNat_lt
  rw [bigEndian, fromBigEndian_eq]
  congr
  · rw [show (hi.toNat * 256 + lo.toNat) / 256 = hi.toNat by omega, UInt8.ofNat_toNat]
  · simp_all

lemma fromBigEndian_bigEndian {x : Nat} (h : x < 65536) :
    fromBigEndian (UInt8.ofNat (x / 256)) (UInt8.ofNat x) = x := by
  rw [fromBigEndian_eq, UInt8.toNat_ofNat', UInt8.toNat_ofNat']
  omega

lemma exists_shape {data : Bytes} (h : 6 ≤ data.length) :
    ∃ stx hi lo rest etx, data = stx :: hi :: lo :: (rest ++ [etx]) ∧ 2 ≤ rest.length := by
  rcases data with _ | ⟨stx, _ | ⟨hi, _ | ⟨lo, data⟩⟩⟩
  all_goals simp only [List.length_cons, List.length_nil] at h
  iterate 3 omega
  rcases List.eq_nil_or_concat data with rfl | ⟨rest, etx, rfl⟩
  · simp at h
  · simp_all

lemma exists_check {rest : Bytes} {len : Nat} (h : len + 2 ≤ rest.length) :
    ∃ payload a b extra, rest = payload ++ a :: b :: extra ∧ payload.length = len := by
  refine ⟨rest.take len, rest[len], rest[len + 1], rest.drop (len + 2), ?_, ?_⟩
  · rw [← List.drop_eq_getElem_cons, ← List.drop_eq_getElem_cons, List.take_append_drop]
  · rw [List.length_take]
    omega

lemma getElem?_last (stx hi lo etx : UInt8) (rest : Bytes) :
    (stx :: hi :: lo :: (rest ++ [etx]))[(stx :: hi :: lo :: (rest ++ [etx])).length - 1]? =
      some etx := by
  rw [← List.getLast?_eq_getElem?, ← List.cons_append, ← List.cons_append, ← List.cons_append,
    List.getLast?_concat]

lemma parse_incomplete {hi lo : UInt8} {rest : Bytes} (stx etx : UInt8) (hr : 2 ≤ rest.length)
    (hln : rest.length < fromBigEndian hi lo + 2) :
    ∃ e, parseSerialFrame (stx :: hi :: lo :: (rest ++ [etx])) = some (.error e) := by
  have hl := getElem?_last stx hi lo etx rest
  have hle : (stx :: hi :: lo :: (rest ++ [etx])).length = rest.length + 4 := by simp
  rw [parseSerialFrame, if_neg (by omega), checkedSub_of_le (by omega)]
  simp only [Option.bind_eq_bind, Option.bind_some, hl, List.getElem?_cons_zero,
    List.getElem?_cons_succ]
  split
  · exact ⟨_, rfl⟩
  split
  · exact ⟨_, rfl⟩
  · rw [if_pos (by omega)]
    exact ⟨_, rfl⟩

lemma parse_complete {hi lo : UInt8} {p : Bytes} (hle : p.length = fromBigEndian hi lo)
    (stx etx a b : UInt8) (ex : Bytes) :
    parseSerialFrame (stx :: hi :: lo :: (p ++ a :: b :: ex ++ [etx])) =
      if stx ≠ 0x02 then some (.error .noSTX)
      else if etx ≠ 0x03 then some (.error .noETX)
      else if BitVec.ofNat 16 (fromBigEndian a b) ≠ crc16 p then
        some (.error (.crcMismatch (crc16 p) (BitVec.ofNat 16 (fromBigEndian a b))))
      else some (.ok p) := by
  have hl := getElem?_last stx hi lo etx (p ++ a :: b :: ex)
  generalize hda : stx :: hi :: lo :: (p ++ a :: b :: ex ++ [etx]) = data at hl ⊢
  have hln : data.length = p.length + ex.length + 6 := by simp [← hda]; omega
  have hf : data[0]? = some stx ∧ data[1]? = some hi ∧ data[2]? = some lo := by simp [← hda]
  have hsl : sliceOf data 3 (3 + p.length) = some p := by
    rw [sliceOf, if_pos (by omega), Nat.add_comm]
    simp [← hda]
  have hch : data[3 + p.length]? = some a ∧ data[3 + p.length + 1]? = some b := by
    rw [Nat.add_comm]
    simp [← hda]
  rw [parseSerialFrame, if_neg (by omega), checkedSub_of_le (by omega)]
  simp only [Option.bind_eq_bind, Option.bind_some, hf, hl, ← hle, hsl, hch,
    if_neg (show ¬ data.length < 3 + p.length + 3 by omega)]

def laidOut (payload : Bytes) (crc : BitVec 16) (extra : Bytes) : Bytes :=
  [0x02] ++ bigEndian payload.length ++ payload ++ bigEndian crc.toNat ++ extra ++ [0x03]

lemma length_laidOut (p : Bytes) (crc : BitVec 16) (ex : Bytes) :
    (laidOut p crc ex).length = p.length + ex.length + 6 := by
  simp [laidOut, bigEndian]
  omega

lemma frameSerial_eq (h : p.length < 65536) : frameSerial p = laidOut p (crc16 p) [] := by
  simp [frameSerial, laidOut, Nat.mod_eq_of_lt h]

lemma parse_laidOut (h : p.length < 65536) (crc : BitVec 16)
    (ex : Bytes) : parseSerialFrame (laidOut p crc ex) =
      if crc ≠ crc16 p then some (.error (.crcMismatch (crc16 p) crc))
      else some (.ok p) := by
  have hp := parse_complete (fromBigEndian_bigEndian h).symm 0x02 0x03
    (UInt8.ofNat (crc.toNat / 256)) (UInt8.ofNat crc.toNat) ex
  rw [fromBigEndian_bigEndian crc.isLt, BitVec.ofNat_toNat, BitVec.setWidth_eq] at hp
  simpa [laidOut, bigEndian] using hp

lemma parse_cases (data : Bytes) : (∃ e, parseSerialFrame data = some (.error e)) ∨
    ∃ payload extra, parseSerialFrame data = some (.ok payload) ∧ payload.length < 65536 ∧
    data = laidOut payload (crc16 payload) extra := by
  by_cases hsh : data.length < 6
  · exact .inl ⟨_, if_pos hsh⟩
  obtain ⟨stx, hi, lo, rest, etx, rfl, hr⟩ := exists_shape (Nat.not_lt.mp hsh)
  by_cases hl : rest.length < fromBigEndian hi lo + 2
  · exact .inl (parse_incomplete stx etx hr hl)
  obtain ⟨payload, a, b, extra, rfl, hp⟩ := exists_check (Nat.not_lt.mp hl)
  rw [parse_complete hp]
  split
  · exact .inl ⟨_, rfl⟩
  split
  · exact .inl ⟨_, rfl⟩
  split
  · exact .inl ⟨_, rfl⟩
  rename_i hst het hcr
  have hlt := fromBigEndian_lt a b
  refine .inr ⟨payload, extra, rfl, hp ▸ fromBigEndian_lt hi lo, ?_⟩
  rw [laidOut, hp, ← not_not.mp hcr, BitVec.toNat_ofNat, Nat.mod_eq_of_lt hlt,
    bigEndian_fromBigEndian, bigEndian_fromBigEndian, not_not.mp hst, not_not.mp het]
  simp

lemma laidOut_of_parse {data p : Bytes} (h : parseSerialFrame data = some (.ok p)) :
    p.length < 65536 ∧ ∃ extra, data = laidOut p (crc16 p) extra := by
  rcases parse_cases data with ⟨e, her⟩ | ⟨p', extra, hok, hl, hda⟩
  · rw [her] at h
    cases h
  · simp_all

/-- A payload comes back from its frame exactly if its length fits the two bytes. -/
theorem serial_roundTrip_iff (payload : Bytes) :
    parseSerialFrame (frameSerial payload) = some (.ok payload) ↔ payload.length < 65536 := by
  constructor
  · intro h
    exact (laidOut_of_parse h).1
  · intro h
    rw [frameSerial_eq h, parse_laidOut h, if_neg (not_not.mpr rfl)]

theorem long_payload_mismatch :
    parseSerialFrame (frameSerial (0 :: 0 :: List.replicate 65534 0)) =
      some (.error (.crcMismatch 0xFFFF#16 0#16)) := by
  have hlength : (0 :: 0 :: List.replicate 65534 (0 : UInt8)).length = 65536 := by
    rw [List.length_cons, List.length_cons, List.length_replicate]
  rw [frameSerial, hlength]
  exact @parse_complete 0 0 [] rfl 0x02 0x03 0 0 _

/-- The length in the second and third byte. -/
def announcedLength (data : Bytes) : Nat := fromBigEndian (data.getD 1 0) (data.getD 2 0)

lemma announcedLength_laidOut (h : p.length < 65536) (c : BitVec 16) (extra : Bytes) :
    announcedLength (laidOut p c extra) = p.length := fromBigEndian_bigEndian h

end

/-- No input is a panic. An accepted one is the frame of its payload exactly if it is six bytes
longer than it announces: bytes between the check and the end marker are not looked at. -/
theorem serial_canonical_iff (data : Bytes) : parseSerialFrame data ≠ none ∧ ∀ payload,
    parseSerialFrame data = some (.ok payload) →
    (data = frameSerial payload ↔ data.length = 6 + announcedLength data) := by
  constructor
  · rcases parse_cases data with ⟨e, h⟩ | ⟨payload, extra, h, -⟩
    · simp [h]
    · simp [h]
  · intro payload h
    obtain ⟨hlen, extra, rfl⟩ := laidOut_of_parse h
    rw [frameSerial_eq hlen, announcedLength_laidOut hlen, length_laidOut]
    constructor
    · intro heq
      have hlength := congrArg List.length heq
      rw [length_laidOut, length_laidOut, List.length_nil] at hlength
      omega
    · intro heq
      rw [List.eq_nil_of_length_eq_zero (show extra.length = 0 by omega)]

theorem one_byte_frame_canonical : parseSerialFrame [2, 0, 1, 7, 0x82, 0xFE, 3] = some (.ok [7]) ∧
    [2, 0, 1, 7, 0x82, 0xFE, 3] = frameSerial [7] := by
  refine (and_iff_left_of_imp fun h => ?_).mpr (by decide +kernel)
  exact ((serial_canonical_iff _).2 _ h).mpr rfl

theorem frame_with_extra_byte : parseSerialFrame [2, 0, 0, 0xFF, 0xFF, 0, 3] = some (.ok []) ∧
    [2, 0, 0, 0xFF, 0xFF, 0, 3] ≠ frameSerial [] := by
  decide +kernel

/-- An error in one payload byte or in two that follow each other is seen. -/
theorem two_byte_errors_detected (payload : Bytes) (hlen : payload.length ≤ 65535) (i : Nat)
    (a b : UInt8) (hne : a ≠ 0 ∨ b ≠ 0) (ha : a ≠ 0 → i < payload.length)
    (hb : b ≠ 0 → i + 1 < payload.length) :
    parseSerialFrame (Crc.damaged a b (frameSerial payload) (3 + i)) =
      some (.error (.crcMismatch (crc16 (Crc.damaged a b payload i)) (crc16 payload))) := by
  have hframe : Crc.damaged a b (frameSerial payload) (3 + i) =
      laidOut (Crc.damaged a b payload i) (crc16 payload) [] := by
    rw [frameSerial_eq (by omega), Nat.add_comm]
    simp [laidOut, bigEndian, Crc.damaged, Crc.damaged_append hne ha hb, Crc.length_damaged]
  have hcrc : crc16 payload ≠ crc16 (Crc.damaged a b payload i) :=
    Crc.foldl_damaged_ne hne ha hb (by decide) (by decide +kernel) _
  rw [hframe, parse_laidOut (by rw [Crc.length_damaged]; omega), if_pos hcrc]

theorem flipped_bytes_detected : parseSerialFrame (Crc.damaged 0xFF 1 (frameSerial [1, 2, 3]) 4) =
    some (.error (.crcMismatch (crc16 [1, 0xFD, 2]) (crc16 [1, 2, 3]))) := by
  exact two_byte_errors_detected [1, 2, 3] (by decide) 1 0xFF 1 (by decide) (by decide) (by decide)

end Sibna.Iot
