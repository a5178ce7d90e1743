import Mathlib.Data.List.GetD
import Mathlib.Order.Bounds.Basic
import Sibna.Errors

/-!
# Message padding

`crypto/padding.rs`. The filling is counted in two bytes, enough for blocks of up to 65536 bytes;
the check of a custom block size lets larger ones through.
-/

namespace Sibna

inductive PaddingMode where
  | none
  | small
  | standard
  | large
  | maximum
  | quantum
  | custom (blockSize : Nat)
  deriving DecidableEq

namespace PaddingMode

def blockSize : PaddingMode → Nat
  | none => 1
  | small => 256
  | standard => 1024
  | large => 4096
  | maximum => 16384
  | quantum => 65536
  | custom n => n

def isEnabled (mode : PaddingMode) : Bool := mode != none

/-- `n == 0 || !n.is_power_of_two() || n < 64` is refused, for a custom size only. -/
def blockSizeOk : PaddingMode → Bool
  | custom n => n != 0 && 2 ^ n.log2 == n && decide (64 ≤ n)
  | _ => true

end PaddingMode

def paddingMinOverhead : Nat := 1 + 1 + 2
def maxPaddingBytes : Nat := 65535
def maxExtraBlocks : Nat := 7

structure PaddingDraws where
  prefixDraw : UInt32
  noise : (n : Nat) → FixedBytes n
  blocksDraw : UInt32
  filling : (n : Nat) → FixedBytes n

namespace PaddingDraws

section
variable (draws : PaddingDraws)

def prefixLen : Nat := draws.prefixDraw.toNat % 8 + 1

section
variable (block plaintextLen : Nat)

def minTotal : Nat :=
  1 + draws.prefixLen + plaintextLen + 2

def minPadLen : Nat :=
  let remainder := draws.minTotal plaintextLen % block
  if remainder = 0 then 0 else block - remainder

def extraBlocks : Nat :=
  let budget := (maxPaddingBytes - draws.minPadLen block plaintextLen) / block
  draws.blocksDraw.toNat % (min budget maxExtraBlocks + 1)

def padLen : Nat :=
  draws.minPadLen block plaintextLen + draws.extraBlocks block plaintextLen * block

end

end

end PaddingDraws

def padLenBytes (padLen : Nat) : Bytes :=
  [UInt8.ofNat (padLen &&& 0xFF), UInt8.ofNat (padLen >>> 8)]

def padMessage (draws : Option PaddingDraws) (plaintext : Bytes) (mode : PaddingMode) :
    Except ProtocolError Bytes :=
  if !mode.isEnabled then .ok plaintext
  else do
    let draws ← okOr draws .internalError
    ensure mode.blockSizeOk .invalidArgument
    let padLen := draws.padLen mode.blockSize plaintext.length
    ensure (decide (padLen ≤ maxPaddingBytes)) .invalidArgument
    return UInt8.ofNat draws.prefixLen :: (draws.noise draws.prefixLen).val ++ plaintext ++
      (draws.filling padLen).val ++ padLenBytes padLen

def unpadMessage (padded : Bytes) : Except ProtocolError Bytes :=
  if padded.length < paddingMinOverhead then .error .invalidMessage
  else
    let prefixLen := (padded.getD 0 0).toNat
    if prefixLen < 1 ∨ 8 < prefixLen ∨ 1 + prefixLen + 2 > padded.length then .error .invalidMessage
    else
      let lo := (padded.getD (padded.length - 2) 0).toNat
      let hi := (padded.getD (padded.length - 1) 0).toNat
      let padLen := lo ||| (hi <<< 8)
      let totalOverhead := 1 + prefixLen + padLen + 2
      if totalOverhead > padded.length then .error .invalidMessage
      else .ok ((padded.drop (1 + prefixLen)).take (padded.length - totalOverhead))

lemma padLenBytes_read {n : Nat} (h : n ≤ maxPaddingBytes) :
    (UInt8.ofNat (n &&& 0xFF)).toNat ||| ((UInt8.ofNat (n >>> 8)).toNat <<< 8) = n := by
  have hn : n < 65536 := Nat.lt_succ_of_le h
  have hlo : (UInt8.ofNat (n &&& 0xFF)).toNat = n % 256 := by
    rw [UInt8.toNat_ofNat', Nat.and_two_pow_sub_one_eq_mod n 8]
    omega
  have hhi : (UInt8.ofNat (n >>> 8)).toNat = n / 256 := by
    rw [UInt8.toNat_ofNat', Nat.shiftRight_eq_div_pow]
    omega
  rw [hlo, hhi, Nat.or_comm, ← Nat.shiftLeft_add_eq_or_of_lt (by omega), Nat.shiftLeft_eq]
  omega

lemma getD_append_pair (f : Bytes) (lo hi : UInt8) :
    (f ++ [lo, hi]).getD ((f ++ [lo, hi]).length - 2) 0 = lo ∧
    (f ++ [lo, hi]).getD ((f ++ [lo, hi]).length - 1) 0 = hi := by
  have hl : (f ++ [lo, hi]).length = f.length + 2 := by simp
  rw [hl]
  constructor
  · simp_all
  · simp_all

lemma unpadMessage_frame {n : Nat} (hn : 1 ≤ n ∧ n ≤ 8) {no f : Bytes} (hno : no.length = n)
    (hf : f.length ≤ maxPaddingBytes) (plaintext : Bytes) :
    unpadMessage (UInt8.ofNat n :: no ++ plaintext ++ f ++ padLenBytes f.length) = .ok plaintext :=
    by
  generalize hpa : UInt8.ofNat n :: no ++ plaintext ++ f ++ padLenBytes f.length = padded
  have hl : padded.length = 1 + n + plaintext.length + f.length + 2 := by
    rw [← hpa, ← hno]
    simp only [padLenBytes, List.length_append, List.length_cons, List.length_nil]
    omega
  have hfi : (padded.getD 0 0).toNat = n := by
    have hb : padded.getD 0 0 = UInt8.ofNat n := by
      rw [← hpa]
      rfl
    rw [hb, UInt8.toNat_ofNat']
    omega
  obtain ⟨hlo, hhi⟩ := getD_append_pair _ (UInt8.ofNat _) (UInt8.ofNat (f.length >>> 8))
  change List.getD (_ ++ padLenBytes _) ((_ ++ padLenBytes _).length - 2) 0 = _ at hlo
  change List.getD (_ ++ padLenBytes _) ((_ ++ padLenBytes _).length - 1) 0 = _ at hhi
  rw [hpa] at hlo hhi
  have hpl : (padded.drop (1 + n)).take plaintext.length = plaintext := by
    have hdr : padded = (UInt8.ofNat n :: no) ++ (plaintext ++ (f ++
        padLenBytes f.length)) := by
      rw [← hpa]
      simp
    rw [hdr, List.drop_left' (by simp only [List.length_cons]; omega), List.take_left]
  simp only [unpadMessage, hfi, hlo, hhi, padLenBytes_read hf, paddingMinOverhead]
  rw [if_neg (by omega), if_neg (by omega), if_neg (by omega)]
  rw [show padded.length - (1 + n + f.length + 2) = plaintext.length by omega, hpl]

lemma unpadMessage_ne (me : Bytes) : unpadMessage me ≠ .ok me := by
  intro h
  simp only [unpadMessage] at h
  split at h
  · cases h
  split at h
  · cases h
  split at h
  · cases h
  · have hl := congrArg List.length (Except.ok.inj h)
    simp only [List.length_take] at hl
    omega

/-- The mode pads, its block size is one, the filling to the block boundary fits the two length
bytes, and the result is within the limit of the session. -/
structure PaddingMode.Fits (mode : PaddingMode) (draws : PaddingDraws) (plaintextLen : Nat) :
    Prop where
  enabled : mode ≠ .none
  blockSize : mode.blockSizeOk = true
  boundary : draws.minPadLen mode.blockSize plaintextLen ≤ maxPaddingBytes
  size : draws.minTotal plaintextLen + draws.padLen mode.blockSize plaintextLen ≤ maxMessageSize

variable {draws : PaddingDraws} {plaintext padded : Bytes} {mode : PaddingMode}

lemma PaddingDraws.padLen_le_iff (draws : PaddingDraws) (block plaintextLen : Nat) :
    draws.padLen block plaintextLen ≤ maxPaddingBytes ↔
    draws.minPadLen block plaintextLen ≤ maxPaddingBytes := by
  constructor
  · intro h
    exact Nat.le_trans (Nat.le_add_right _ _) h
  intro h
  have het : draws.extraBlocks block plaintextLen ≤
      (maxPaddingBytes - draws.minPadLen block plaintextLen) / block := by
    have hlt := Nat.mod_lt draws.blocksDraw.toNat (Nat.succ_pos (min
      ((maxPaddingBytes - draws.minPadLen block plaintextLen) / block) maxExtraBlocks))
    exact Nat.le_trans (Nat.le_of_lt_succ hlt) (Nat.min_le_left _ _)
  have hb := Nat.le_trans (Nat.mul_le_mul_right block het) (Nat.div_mul_le_self _ _)
  unfold padLen
  omega

lemma padMessage_ok (hen : mode ≠ .none) :
    padMessage (some draws) plaintext mode = .ok padded ↔
      mode.blockSizeOk = true ∧
      draws.minPadLen mode.blockSize plaintext.length ≤ maxPaddingBytes ∧
      padded = UInt8.ofNat draws.prefixLen :: (draws.noise draws.prefixLen).val ++ plaintext ++
        (draws.filling (draws.padLen mode.blockSize plaintext.length)).val ++
        padLenBytes (draws.padLen mode.blockSize plaintext.length) := by
  have hm : (!mode.isEnabled) = false := by simp [PaddingMode.isEnabled, hen]
  rw [padMessage, hm]
  simp only [Bool.false_eq_true, if_false, bind_ok, okOr_ok, ensure_ok, decide_eq_true_eq,
    Option.some.injEq, exists_eq_left', draws.padLen_le_iff]
  constructor
  · rintro ⟨-, hbl, -, hb, heq⟩
    exact ⟨hbl, hb, (Except.ok.inj heq).symm⟩
  · rintro ⟨hbl, hb, rfl⟩
    exact ⟨(), hbl, (), hb, rfl⟩

section
variable (hen : mode ≠ .none) (h : padMessage (some draws) plaintext mode = .ok padded)
include hen h

lemma unpadMessage_padMessage : unpadMessage padded = .ok plaintext := by
  obtain ⟨-, hb, rfl⟩ := (padMessage_ok hen).mp h
  have hpr : 1 ≤ draws.prefixLen ∧ draws.prefixLen ≤ 8 := by
    unfold PaddingDraws.prefixLen
    omega
  have hpa := (draws.padLen_le_iff mode.blockSize plaintext.length).mpr hb
  generalize draws.padLen mode.blockSize plaintext.length = n at hpa
  obtain ⟨f, rfl⟩ := draws.filling n
  exact unpadMessage_frame hpr (draws.noise _).property hpa plaintext

lemma padMessage_length : padded.length = draws.minTotal plaintext.length +
      draws.padLen mode.blockSize plaintext.length := by
  obtain ⟨-, -, rfl⟩ := (padMessage_ok hen).mp h
  simp only [padLenBytes, List.length_append, List.length_cons, List.length_nil,
    (draws.noise _).property, (draws.filling _).property, PaddingDraws.minTotal]
  omega

end

lemma PaddingMode.fits_iff : mode.Fits draws plaintext.length ↔ ∃ padded,
    padMessage (some draws) plaintext mode = .ok padded ∧
    (padded ≠ [] ∧ padded.length ≤ maxMessageSize) ∧ unpadMessage padded = .ok plaintext := by
  constructor
  · intro hf
    obtain ⟨padded, hpa⟩ : ∃ padded, padMessage (some draws) plaintext mode = .ok padded :=
      ⟨_, (padMessage_ok hf.enabled).mpr ⟨hf.blockSize, hf.boundary, rfl⟩⟩
    have hu := unpadMessage_padMessage hf.enabled hpa
    refine ⟨padded, hpa, ⟨?_, ?_⟩, hu⟩
    · rintro rfl
      cases hu
    · rw [padMessage_length hf.enabled hpa]
      exact hf.size
  · rintro ⟨padded, hpa, ⟨-, hle⟩, hu⟩
    have hen : mode ≠ .none := by
      rintro rfl
      cases hpa
      exact unpadMessage_ne plaintext hu
    obtain ⟨hbl, hb, -⟩ := (padMessage_ok hen).mp hpa
    refine ⟨hen, hbl, hb, ?_⟩
    rwa [← padMessage_length hen hpa]

def Fitting (block size : Nat) : Set Nat := { n | block ∣ n ∧ size ≤ n }

namespace PaddingDraws
variable (draws : PaddingDraws) {block : Nat} (plaintextLen : Nat)

lemma isLeast_fitting (hb : 0 < block) :
    IsLeast (Fitting block (draws.minTotal plaintextLen))
    (draws.minTotal plaintextLen + draws.minPadLen block plaintextLen) := by
  have hm := Nat.mod_lt (draws.minTotal plaintextLen) hb
  have hdi := Nat.div_add_mod (draws.minTotal plaintextLen) block
  unfold minPadLen
  generalize draws.minTotal plaintextLen = size at hm hdi ⊢
  dsimp only
  split
  · rename_i hz
    exact ⟨⟨Nat.dvd_of_mod_eq_zero hz, Nat.le_add_right _ _⟩, fun n hn => hn.2⟩
  have hne : size + (block - size % block) = block * (size / block + 1) := by
    rw [Nat.mul_succ]
    omega
  refine ⟨⟨⟨_, hne⟩, Nat.le_add_right _ _⟩, ?_⟩
  rintro n ⟨⟨k, rfl⟩, hle⟩
  rw [hne]
  refine Nat.mul_le_mul_left block ?_
  by_contra hlt
  have hk : block * k ≤ block * (size / block) := Nat.mul_le_mul_left block (by omega)
  omega

lemma minPadLen_le_max (hb : 0 < block) (hle : block ≤ 65536) :
    draws.minPadLen block plaintextLen ≤ maxPaddingBytes := by
  unfold minPadLen maxPaddingBytes
  dsimp only
  split
  · omega
  · omega

lemma extraBlocks_le (block : Nat) : draws.extraBlocks block plaintextLen ≤ maxExtraBlocks := by
  have hlt := Nat.mod_lt draws.blocksDraw.toNat (Nat.succ_pos
    (min ((maxPaddingBytes - draws.minPadLen block plaintextLen) / block) maxExtraBlocks))
  exact Nat.le_trans (Nat.le_of_lt_succ hlt) (Nat.min_le_right _ _)

end PaddingDraws

lemma PaddingMode.blockSize_pos {mode : PaddingMode} (h : mode.blockSizeOk = true) :
    0 < mode.blockSize := by
  cases mode with
  | custom n =>
    simp only [blockSizeOk, Bool.and_eq_true, bne_iff_ne] at h
    exact Nat.pos_of_ne_zero h.1.1
  | _ => decide

section
variable {draws : PaddingDraws} {plaintext padded : Bytes} {mode : PaddingMode}

section
variable (hen : mode ≠ .none) (h : padMessage (some draws) plaintext mode = .ok padded)
include hen h

lemma padMessage_length_eq : padded.length = draws.minTotal plaintext.length +
      draws.minPadLen mode.blockSize plaintext.length +
        draws.extraBlocks mode.blockSize plaintext.length * mode.blockSize := by
  rw [padMessage_length hen h, PaddingDraws.padLen, Nat.add_assoc]

lemma blockSize_dvd_length : mode.blockSize ∣ padded.length := by
  have hpo := PaddingMode.blockSize_pos ((padMessage_ok hen).mp h).1
  rw [padMessage_length_eq hen h]
  exact Nat.dvd_add (draws.isLeast_fitting plaintext.length hpo).1.1 (Nat.dvd_mul_left _ _)

lemma length_le_seven_blocks {l : Nat}
    (hl : IsLeast (Fitting mode.blockSize (draws.minTotal plaintext.length)) l) :
    padded.length ≤ l + 7 * mode.blockSize := by
  have hpo := PaddingMode.blockSize_pos ((padMessage_ok hen).mp h).1
  rw [padMessage_length_eq hen h, hl.unique (draws.isLeast_fitting plaintext.length hpo)]
  exact Nat.add_le_add_left (Nat.mul_le_mul_right _ (draws.extraBlocks_le _ _)) _

end

end

/-- `unpad_message` with the indices, differences and slices as they are checked at run time; `none`
is a panic. The sums of lengths are at most 65546 or the length of the message. -/
def unpadChecked (padded : Bytes) : Option (Except ProtocolError Bytes) :=
  if padded.length < paddingMinOverhead then some (.error .invalidMessage)
  else do
    let first ← padded[0]?
    let prefixLen := first.toNat
    if ¬ (1 ≤ prefixLen ∧ prefixLen ≤ 8) ∨ 1 + prefixLen + 2 > padded.length then
      some (.error .invalidMessage)
    else
      let lo ← padded[← checkedSub padded.length 2]?
      let hi ← padded[← checkedSub padded.length 1]?
      let padLen := lo.toNat ||| (hi.toNat <<< 8)
      let totalOverhead := 1 + prefixLen + padLen + 2
      if totalOverhead > padded.length then some (.error .invalidMessage)
      else
        let plaintextLen ← checkedSub padded.length totalOverhead
        let start := 1 + prefixLen
        let stop := start + plaintextLen
        let plaintext ← sliceOf padded start stop
        some (.ok plaintext)

lemma unpadChecked_eq (padded : Bytes) : unpadChecked padded = some (unpadMessage padded) := by
  unfold unpadChecked unpadMessage
  split
  · rfl
  rename_i hl
  unfold paddingMinOverhead at hl
  simp only [Option.bind_eq_bind, getElem?_eq_getD (show 0 < padded.length by omega),
    checkedSub_of_le (show 2 ≤ padded.length by omega),
    checkedSub_of_le (show 1 ≤ padded.length by omega),
    getElem?_eq_getD (show padded.length - 2 < padded.length by omega),
    getElem?_eq_getD (show padded.length - 1 < padded.length by omega), Option.bind_some]
  generalize (padded.getD 0 0).toNat = prefixLen
  generalize (padded.getD (padded.length - 2) 0).toNat ||| ((padded.getD _ 0).toNat <<< 8) = padLen
  by_cases hpr : prefixLen < 1 ∨ 8 < prefixLen ∨ 1 + prefixLen + 2 > padded.length
  · rw [if_pos hpr, if_pos (by omega)]
  rw [if_neg hpr, if_neg (by omega)]
  by_cases ho : 1 + prefixLen + padLen + 2 > padded.length
  · rw [if_pos ho, if_pos ho]
  · rw [if_neg ho, if_neg ho, checkedSub_of_le (by omega), Option.bind_some, sliceOf,
      if_pos (by omega), Option.bind_some, List.drop_take, Nat.add_sub_cancel_left]

/-- Whatever is drawn, a message that is padded fills whole blocks, at most seven more than the
smallest number that holds it, and unpads to the plaintext. Nothing makes `unpad_message` panic. -/
theorem padding_roundTrip :
    (∀ (mode : PaddingMode) (draws : PaddingDraws) (plaintext padded : Bytes),
      mode.isEnabled = true → padMessage (some draws) plaintext mode = .ok padded →
      mode.blockSize ∣ padded.length ∧
      (∃ least, IsLeast (Fitting mode.blockSize (draws.minTotal plaintext.length)) least ∧
        padded.length ≤ least + 7 * mode.blockSize) ∧
      unpadMessage padded = .ok plaintext) ∧
    ∀ padded, unpadChecked padded = some (unpadMessage padded) := by
  refine ⟨?_, unpadChecked_eq⟩
  intro mode draws plaintext padded hmode h
  have henabled : mode ≠ .none := by
    rintro rfl
    cases hmode
  have hpos := PaddingMode.blockSize_pos ((padMessage_ok henabled).mp h).1
  have hleast := draws.isLeast_fitting plaintext.length hpos
  exact ⟨blockSize_dvd_length henabled h, ⟨_, hleast, length_le_seven_blocks henabled h hleast⟩,
    unpadMessage_padMessage henabled h⟩

def onesDraws (blocks : UInt32) : PaddingDraws where
  prefixDraw := 0
  noise := fun n => ⟨List.replicate n 1, List.length_replicate⟩
  blocksDraw := blocks
  filling := fun n => ⟨List.replicate n 1, List.length_replicate⟩

theorem padding_roundTrip_small : ∃ padded,
    padMessage (some (onesDraws 2)) [1, 2, 3] .small = .ok padded ∧
    PaddingMode.small.blockSize ∣ padded.length ∧ padded.length = 768 ∧
    unpadMessage padded = .ok [1, 2, 3] := by
  obtain ⟨padded, hpad⟩ : ∃ padded, padMessage (some (onesDraws 2)) [1, 2, 3] .small = .ok padded :=
    exists_ok_of_isSome (by decide +kernel)
  obtain ⟨hdvd, -, hunpad⟩ := padding_roundTrip.1 .small (onesDraws 2) [1, 2, 3] padded rfl hpad
  exact ⟨padded, hpad, hdvd, padMessage_length (by decide) hpad, hunpad⟩

section
variable {n : Nat} {draws : PaddingDraws} {plaintext : Bytes}

lemma minPadLen_le_iff (hn : 0 < n) : draws.minPadLen n plaintext.length ≤ maxPaddingBytes ↔ ∃ m,
    n ∣ m ∧ draws.minTotal plaintext.length ≤ m ∧
    m ≤ draws.minTotal plaintext.length + maxPaddingBytes := by
  have hl := draws.isLeast_fitting plaintext.length hn
  constructor
  · intro h
    exact ⟨_, hl.1.1, hl.1.2, Nat.add_le_add_left h _⟩
  · rintro ⟨m, hdv, hle, hne⟩
    have hm := hl.2 ⟨hdv, hle⟩
    omega

lemma padMessage_custom_ok_iff (hn : (PaddingMode.custom n).blockSizeOk = true) :
    (∃ padded, padMessage (some draws) plaintext (.custom n) = .ok padded) ↔ ∃ m, n ∣ m ∧
    draws.minTotal plaintext.length ≤ m ∧ m ≤ draws.minTotal plaintext.length + maxPaddingBytes :=
    by
  have hpo : 0 < n := PaddingMode.blockSize_pos hn
  rw [← minPadLen_le_iff hpo]
  constructor
  · rintro ⟨padded, h⟩
    exact ((padMessage_ok (by simp)).mp h).2.1
  · intro h
    exact ⟨_, (padMessage_ok (by simp)).mpr ⟨hn, h, rfl⟩⟩

end

lemma custom_blockSize_gap {n : Nat} (hn : (PaddingMode.custom n).blockSizeOk = true)
    (hla : 65536 < n) : 131072 ≤ n := by
  simp only [PaddingMode.blockSizeOk, Bool.and_eq_true, beq_iff_eq] at hn
  have hpo := hn.1.2
  have hl : 16 < n.log2 := by
    by_contra hle
    have := Nat.pow_le_pow_right (show 0 < 2 by decide) (Nat.not_lt.mp hle)
    omega
  calc 131072 = 2 ^ 17 := by decide
    _ ≤ 2 ^ n.log2 := Nat.pow_le_pow_right (by decide) hl
    _ = n := hpo

/-- For a custom block size that passes the check, a message is padded exactly if the bytes that it
needs are at most 65535 short of whole blocks. So every message is padded, whatever is drawn,
exactly with blocks of up to 65536 bytes. -/
theorem custom_block_pads_iff (n : Nat) (hn : (PaddingMode.custom n).blockSizeOk = true) :
    (∀ draws plaintext, (∃ padded, padMessage (some draws) plaintext (.custom n) = .ok padded) ↔
      ∃ m, n ∣ m ∧ 1 + draws.prefixLen + plaintext.length + 2 ≤ m ∧
        m ≤ 1 + draws.prefixLen + plaintext.length + 2 + 65535) ∧
    ((∀ draws plaintext, ∃ padded, padMessage (some draws) plaintext (.custom n) = .ok padded) ↔
      n ≤ 65536) := by
  refine ⟨fun draws plaintext => padMessage_custom_ok_iff hn, ?_, ?_⟩
  · intro hall
    obtain ⟨m, ⟨k, rfl⟩, hle, hnear⟩ := (padMessage_custom_ok_iff hn).mp (hall (onesDraws 0) [])
    change 4 ≤ n * k at hle
    change n * k ≤ 4 + 65535 at hnear
    -- the first block ends beyond
    by_contra hlarge
    have hgap := custom_blockSize_gap hn (Nat.not_le.mp hlarge)
    have hk : 0 < k := Nat.pos_of_ne_zero (by rintro rfl; omega)
    have hblock : n ≤ n * k := Nat.le_mul_of_pos_right n hk
    omega
  · intro hle draws plaintext
    have hpos : 0 < n := PaddingMode.blockSize_pos hn
    have hfits := draws.minPadLen_le_max plaintext.length hpos hle
    exact (padMessage_custom_ok_iff hn).mpr ((minPadLen_le_iff hpos).mp hfits)

theorem largest_custom_block_pads : (PaddingMode.custom 65536).blockSizeOk = true ∧
    ∀ draws plaintext, ∃ padded, padMessage (some draws) plaintext (.custom 65536) = .ok padded :=
  ⟨by decide +kernel, (custom_block_pads_iff 65536 (by decide +kernel)).2.mpr (by decide)⟩

/-- The check passes, and the filling does not fit. -/
theorem custom_block_refused : (PaddingMode.custom 131072).blockSizeOk = true ∧
    padMessage (some (onesDraws 0)) [1] (.custom 131072) = .error .invalidArgument := by
  decide +kernel

end Sibna
