import Mathlib.Data.List.Basic
import Mathlib.Tactic.Ring

/-!
# Frames and fixed-width numbers

Frames put one after the other can be told apart again, whatever follows them.
-/

namespace Framing

structure LengthField (α : Type) where
  width : Nat
  bound : Nat
  encode : Nat → List α
  decode : List α → Nat
  length_encode : ∀ n, (encode n).length = width
  decode_encode : ∀ n, n < bound → decode (encode n) = n
  encode_decode : ∀ xs, xs.length = width → encode (decode xs) = xs
  decode_lt : ∀ xs, xs.length = width → decode xs < bound

namespace LengthField
variable {α : Type} (L : LengthField α)

def frame (field : List α) : List α := L.encode field.length ++ field

def frames (fields : List (List α)) : List α := fields.flatMap L.frame

@[simp] lemma frames_cons (field : List α) (fields : List (List α)) :
    L.frames (field :: fields) = L.frame field ++ L.frames fields := rfl

def Fit (fields : List (List α)) : Prop := ∀ field ∈ fields, field.length < L.bound

def read (data : List α) : Option (List α × List α) :=
  if data.length < L.width then none
  else
    let length := L.decode (data.take L.width)
    let rest := data.drop L.width
    if rest.length < length then none else some (rest.take length, rest.drop length)

def readAll : Nat → List α → Option (List (List α) × List α)
  | 0, data => some ([], data)
  | count + 1, data =>
    (L.read data).bind fun first =>
      (readAll count first.2).map fun others => (first.1 :: others.1, others.2)

variable {L}

variable {field rest : List α} {fields : List (List α)}

lemma read_frame (h : field.length < L.bound) (rest : List α) :
    L.read (L.frame field ++ rest) = some (field, rest) := by
  have hw := L.length_encode field.length
  have hl : ¬ (L.frame field ++ rest).length < L.width := by
    simp only [frame, List.length_append]
    omega
  have hta : (L.frame field ++ rest).take L.width = L.encode field.length := by
    rw [frame, List.append_assoc, List.take_left' hw]
  have hdr : (L.frame field ++ rest).drop L.width = field ++ rest := by
    rw [frame, List.append_assoc, List.drop_left' hw]
  have hen : ¬ (field ++ rest).length < field.length := by simp_all
  simp only [read, if_neg hl, hta, hdr, L.decode_encode _ h, if_neg hen, List.take_left,
    List.drop_left]

lemma eq_of_read {data : List α} (h : L.read data = some (field, rest)) :
    data = L.frame field ++ rest ∧ field.length < L.bound := by
  unfold read at h
  split at h
  · cases h
  rename_i hlo
  dsimp only at h
  split at h
  · cases h
  rename_i hen
  cases Option.some.inj h
  have hw := List.length_take_of_le (Nat.not_lt.mp hlo)
  have hl := List.length_take_of_le (Nat.not_lt.mp hen)
  constructor
  · rw [frame, hl, L.encode_decode _ hw, List.append_assoc, List.take_append_drop,
      List.take_append_drop]
  · rw [hl]
    exact L.decode_lt _ hw

lemma readAll_frames (h : L.Fit fields) (rest : List α) :
    L.readAll fields.length (L.frames fields ++ rest) = some (fields, rest) := by
  induction fields with
  | nil => rfl
  | cons field fields ih =>
    have hfi := h field (.head _)
    have hf : L.Fit fields := fun x hx => h x (.tail _ hx)
    rw [List.length_cons, frames_cons, List.append_assoc, readAll, read_frame hfi,
      Option.bind_some, ih hf]
    rfl

lemma eq_of_readAll {count : Nat} {data : List α} (h : L.readAll count data = some (fields, rest))
    : data = L.frames fields ++ rest ∧ fields.length = count ∧ L.Fit fields := by
  induction count generalizing data fields with
  | zero =>
    cases Option.some.inj h
    exact ⟨rfl, rfl, nofun⟩
  | succ count ih =>
    obtain ⟨⟨field, data'⟩, hre, ho⟩ := Option.bind_eq_some_iff.mp h
    obtain ⟨⟨f', rest'⟩, ha, heq⟩ := Option.map_eq_some_iff.mp ho
    cases heq
    obtain ⟨rfl, hf⟩ := eq_of_read hre
    obtain ⟨rfl, hl, hfi⟩ := ih ha
    refine ⟨?_, ?_, ?_⟩
    · rw [frames_cons, List.append_assoc]
    · rw [List.length_cons, hl]
    · exact List.forall_mem_cons.mpr ⟨hf, hfi⟩

lemma frame_append_inj {field' rest' : List α} (h : field.length < L.bound)
    (h' : field'.length < L.bound) (heq : L.frame field ++ rest = L.frame field' ++ rest') :
    field = field' ∧ rest = rest' := by
  have hre := read_frame h rest
  rw [heq, read_frame h', Option.some.injEq] at hre
  exact Prod.mk.inj hre.symm

lemma frames_inj (hw : 0 < L.width) {f' : List (List α)} (h : L.Fit fields)
    (h' : L.Fit f') (heq : L.frames fields = L.frames f') : fields = f' := by
  have hne : ∀ (field : List α) fields, L.frames (field :: fields) ≠ [] := by
    intro field fields hn
    have hl := congrArg List.length hn
    simp only [frames_cons, frame, List.length_append, L.length_encode, List.length_nil] at hl
    omega
  induction fields generalizing f' with
  | nil =>
    cases f' with
    | nil => rfl
    | cons fi' f' => exact absurd heq.symm (hne fi' f')
  | cons field fields ih =>
    cases f' with
    | nil => exact absurd heq (hne field fields)
    | cons fi' f' =>
      obtain ⟨rfl, hr⟩ := frame_append_inj (h field (.head _)) (h' fi' (.head _)) heq
      rw [ih (fun x hx => h x (.tail _ hx)) (fun x hx => h' x (.tail _ hx)) hr]

end LengthField

end Framing

namespace LittleEndian

def toLe : Nat → Nat → List UInt8
  | 0, _ => []
  | width + 1, n => UInt8.ofNat n :: toLe width (n / 256)

def fromLe : List UInt8 → Nat
  | [] => 0
  | b :: bs => b.toNat + 256 * fromLe bs

@[simp] lemma toLe_length (width n : Nat) : (toLe width n).length = width := by
  induction width generalizing n with
  | zero => rfl
  | succ width ih => simp [toLe, ih]

lemma fromLe_toLe_mod (width n : Nat) : fromLe (toLe width n) = n % 256 ^ width := by
  induction width generalizing n with
  | zero => simp [toLe, fromLe, Nat.mod_one]
  | succ width ih =>
    have hpo : 256 ^ (width + 1) = 256 * 256 ^ width := by ring
    have hb : (UInt8.ofNat n).toNat = n % 256 := by simp
    simp only [toLe, fromLe, ih, hb, hpo, Nat.mod_mul]

lemma fromLe_toLe {width n : Nat} (h : n < 256 ^ width) : fromLe (toLe width n) = n := by
  rw [fromLe_toLe_mod, Nat.mod_eq_of_lt h]

lemma fromLe_lt (bs : List UInt8) : fromLe bs < 256 ^ bs.length := by
  induction bs with
  | nil => simp [fromLe]
  | cons b bs ih =>
    have hb : b.toNat < 256 := b.toNat_lt
    simp only [fromLe, List.length_cons, pow_succ]
    omega

lemma toLe_fromLe (bs : List UInt8) : toLe bs.length (fromLe bs) = bs := by
  induction bs with
  | nil => rfl
  | cons b bs ih =>
    have hb : b.toNat < 256 := b.toNat_lt
    have hdi : (b.toNat + 256 * fromLe bs) / 256 = fromLe bs := by omega
    have hby : UInt8.ofNat (b.toNat + 256 * fromLe bs) = b := by simp_all
    simp only [List.length_cons, toLe, fromLe, hdi, hby, ih]

lemma or_shiftLeft_eq (lo hi : UInt8) :
    lo.toNat ||| (hi.toNat <<< 8) = hi.toNat * 256 + lo.toNat := by
  rw [Nat.or_comm, ← Nat.shiftLeft_add_eq_or_of_lt lo.toNat_lt, Nat.shiftLeft_eq]

end LittleEndian
