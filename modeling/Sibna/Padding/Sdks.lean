import Sibna.Padding

/-!
# Message padding in the SDKs

`client.py` and `index.ts` read back what the core and each other padded.
-/

namespace Sibna.Sdk

open LittleEndian

def paddingBlock : Nat := 1024

structure PadDraws where
  prefixDraw : Fin 8
  noise : (n : Nat) → FixedBytes n
  blocksDraw : Fin 2
  filling : (n : Nat) → FixedBytes n

def PadDraws.prefixLen (draws : PadDraws) : Nat := 1 + draws.prefixDraw.val

def PadDraws.minTotal (draws : PadDraws) (dataLen : Nat) : Nat := 1 + draws.prefixLen + dataLen + 2

/-- The checks with the texts of their errors, in which the two SDKs name their variables. -/
def unpadPayload (bodyLenName dataStartName : String) (padded : Bytes) : Except String Bytes :=
  if padded.length < 4 then .error "Payload too short to unpad"
  else
    let totalLen := padded.length
    let padLen := (padded.getD (totalLen - 1) 0).toNat * 256 + (padded.getD (totalLen - 2) 0).toNat
    let bodyLen : Int := (totalLen : Int) - 2 - padLen
    if bodyLen < 1 ∨ bodyLen > totalLen then
      .error s!"Invalid padding: {bodyLenName}({bodyLen}) out of range"
    else
      let prefixLen := (padded.getD 0 0).toNat
      if prefixLen < 1 ∨ prefixLen > 8 then .error s!"Invalid prefix length: {prefixLen}"
      else
        let dataStart : Int := 1 + (prefixLen : Int)
        let dataEnd : Int := dataStart + (bodyLen - dataStart)
        if dataStart > bodyLen ∨ dataEnd > bodyLen then
          .error s!"Invalid padding layout: {dataStartName}({dataStart}) > {bodyLenName}({bodyLen})"
        else .ok ((padded.take dataEnd.toNat).drop dataStart.toNat)

namespace Python

def toBytes (padLen : Nat) : Except String Bytes :=
  if padLen < 256 ^ 2 then .ok (toLe 2 padLen) else .error "int too big to convert"

def padLen (draws : PadDraws) (dataLen : Nat) : Nat :=
  let remainder := draws.minTotal dataLen % paddingBlock
  let minPadLen := (paddingBlock - remainder) % paddingBlock
  minPadLen + draws.blocksDraw.val * paddingBlock

def padPayload (draws : PadDraws) (data : Bytes) : Except String Bytes := do
  let padLen := padLen draws data.length
  let length ← toBytes padLen
  return [UInt8.ofNat draws.prefixLen] ++ (draws.noise draws.prefixLen).val ++ data ++
    (draws.filling padLen).val ++ length

def unpadPayload : Bytes → Except String Bytes := Sdk.unpadPayload "body_len" "data_start"

end Python

namespace TypeScript

def padLen (draws : PadDraws) (dataLen : Nat) : Nat :=
  let remainder := draws.minTotal dataLen % paddingBlock
  let minPadLen := if remainder = 0 then 0 else paddingBlock - remainder
  minPadLen + draws.blocksDraw.val * paddingBlock

def padPayload (draws : PadDraws) (data : Bytes) : Bytes :=
  let padLen := padLen draws data.length
  [UInt8.ofNat draws.prefixLen] ++ (draws.noise draws.prefixLen).val ++ data ++
    (draws.filling padLen).val ++
    [UInt8.ofNat (padLen &&& 0xFF), UInt8.ofNat ((padLen >>> 8) &&& 0xFF)]

def unpadPayload : Bytes → Except String Bytes := Sdk.unpadPayload "bodyLen" "dataStart"

end TypeScript

lemma unpadPayload_toOption (bln dsn : String) (p : Bytes) :
    (unpadPayload bln dsn p).toOption = (unpadMessage p).toOption := by
  by_cases hl : p.length < 4
  · rw [unpadPayload, if_pos hl, unpadMessage, paddingMinOverhead, if_pos hl]
    rfl
  rw [unpadPayload, if_neg hl, unpadMessage, paddingMinOverhead, if_neg hl]
  -- the core and the SDKs read the two bytes of the length in different ways
  simp only [or_shiftLeft_eq]
  generalize (p.getD 0 0).toNat = prefixLen
  generalize (p.getD (p.length - 1) 0).toNat * 256 + (p.getD _ 0).toNat = padLen
  by_cases hf : (1 ≤ prefixLen ∧ prefixLen ≤ 8) ∧ 1 + prefixLen + padLen + 2 ≤ p.length
  · rw [if_neg (by omega), if_neg (by omega), if_neg (by omega), if_neg (by omega),
      if_neg (by omega), List.drop_take]
    have hen : (1 + (prefixLen : Int) + ((p.length : Int) - 2 - padLen -
        (1 + (prefixLen : Int)))).toNat = p.length - 2 - padLen := by omega
    have hst : (1 + (prefixLen : Int)).toNat = 1 + prefixLen := by omega
    have hsi : p.length - 2 - padLen - (1 + prefixLen) = p.length - (1 + prefixLen + padLen + 2) :=
      by omega
    rw [hen, hst, hsi]
    rfl
  · split_ifs <;> first | rfl | omega

lemma unpadPayload_eq_ok {bln dsn : String} {p data : Bytes} (h : unpadMessage p = .ok data) :
    unpadPayload bln dsn p = .ok data := by
  rw [← toOption_eq_some, unpadPayload_toOption, h]
  rfl

lemma unpadPayload_eq_error {bln dsn : String} {p : Bytes} {err : ProtocolError}
    (h : unpadMessage p = .error err) : ∃ text, unpadPayload bln dsn p = .error text := by
  have ho := unpadPayload_toOption bln dsn p
  rw [h] at ho
  cases hp : unpadPayload bln dsn p with
  | error text => exact ⟨text, rfl⟩
  | ok data =>
    rw [hp] at ho
    cases ho

section
variable (draws : PadDraws)

lemma PadDraws.prefixLen_range : 1 ≤ draws.prefixLen ∧ draws.prefixLen ≤ 8 := by
  unfold prefixLen
  omega

lemma padLen_eq (dl : Nat) : Python.padLen draws dl = TypeScript.padLen draws dl := by
  have hlt := Nat.mod_lt (draws.minTotal dl) (show 0 < paddingBlock by decide)
  simp only [Python.padLen, TypeScript.padLen]
  generalize draws.minTotal dl % paddingBlock = remainder at hlt ⊢
  unfold paddingBlock at hlt ⊢
  split
  · omega
  · omega

lemma padLen_le (dl : Nat) : TypeScript.padLen draws dl ≤ maxPaddingBytes := by
  simp only [TypeScript.padLen]
  generalize draws.minTotal dl % paddingBlock = remainder
  unfold paddingBlock maxPaddingBytes
  split
  · omega
  · omega

lemma padLenBytes_eq {n : Nat} (h : n ≤ maxPaddingBytes) :
    [UInt8.ofNat (n &&& 0xFF), UInt8.ofNat ((n >>> 8) &&& 0xFF)] = padLenBytes n ∧
    toLe 2 n = padLenBytes n := by
  unfold maxPaddingBytes at h
  have hhi := Nat.shiftRight_eq_div_pow n 8
  have hlo := Nat.and_two_pow_sub_one_eq_mod n 8
  have hsm : n / 256 &&& 0xFF = n / 256 := by
    rw [Nat.and_two_pow_sub_one_eq_mod (n / 256) 8]
    omega
  constructor
  · rw [padLenBytes, hhi, hsm]
  rw [padLenBytes, hhi, hlo]
  simp only [toLe, List.cons.injEq, and_true]
  apply UInt8.toNat_inj.mp
  simp

end

lemma unpadMessage_typeScript (draws : PadDraws) (data : Bytes) :
    unpadMessage (TypeScript.padPayload draws data) = .ok data := by
  have hl := padLen_le draws data.length
  rw [TypeScript.padPayload, (padLenBytes_eq hl).1]
  generalize TypeScript.padLen draws data.length = n at hl
  obtain ⟨f, rfl⟩ := draws.filling n
  exact unpadMessage_frame draws.prefixLen_range (draws.noise _).property hl data

lemma python_padPayload (draws : PadDraws) (data : Bytes) :
    Python.padPayload draws data = .ok (TypeScript.padPayload draws data) := by
  have hl := padLen_le draws data.length
  have hb : Python.toBytes (TypeScript.padLen draws data.length) =
      .ok (padLenBytes (TypeScript.padLen draws data.length)) := by
    unfold maxPaddingBytes at hl
    rw [Python.toBytes, if_pos (by omega), (padLenBytes_eq hl).2]
  rw [Python.padPayload, TypeScript.padPayload, padLen_eq, hb, (padLenBytes_eq hl).1]
  rfl

lemma exists_padMessage_standard (draws : PaddingDraws) (data : Bytes) :
    ∃ padded, padMessage (some draws) data .standard = .ok padded := by
  have hf := @PaddingDraws.minPadLen_le_max draws PaddingMode.standard.blockSize
    data.length (by decide) (by decide)
  exact ⟨_, (padMessage_ok (by decide)).mpr ⟨rfl, hf, rfl⟩⟩

/-- On every byte string the core and the two SDKs fail alike or give the same bytes. What an SDK
pads the core unpads, and what the core pads in the standard mode an SDK unpads. -/
theorem unpadding_agrees :
    (∀ padded,
      (∃ data, unpadMessage padded = .ok data ∧ Python.unpadPayload padded = .ok data ∧
        TypeScript.unpadPayload padded = .ok data) ∨
      ((∃ err, unpadMessage padded = .error err) ∧
        (∃ text, Python.unpadPayload padded = .error text) ∧
        ∃ text, TypeScript.unpadPayload padded = .error text)) ∧
    (∀ draws data, ∃ padded, Python.padPayload draws data = .ok padded ∧
      unpadMessage padded = .ok data) ∧
    (∀ draws data, unpadMessage (TypeScript.padPayload draws data) = .ok data) ∧
    ∀ draws data, ∃ padded, padMessage (some draws) data .standard = .ok padded ∧
      Python.unpadPayload padded = .ok data ∧ TypeScript.unpadPayload padded = .ok data := by
  refine ⟨?_, ?_, unpadMessage_typeScript, ?_⟩
  · intro padded
    cases h : unpadMessage padded with
    | ok data => exact .inl ⟨data, rfl, unpadPayload_eq_ok h, unpadPayload_eq_ok h⟩
    | error err => exact .inr ⟨⟨err, rfl⟩, unpadPayload_eq_error h, unpadPayload_eq_error h⟩
  · intro draws data
    exact ⟨_, python_padPayload draws data, unpadMessage_typeScript draws data⟩
  · intro draws data
    obtain ⟨padded, hpad⟩ := exists_padMessage_standard draws data
    have hunpad := unpadMessage_padMessage (by decide) hpad
    exact ⟨padded, hpad, unpadPayload_eq_ok hunpad, unpadPayload_eq_ok hunpad⟩

end Sibna.Sdk
