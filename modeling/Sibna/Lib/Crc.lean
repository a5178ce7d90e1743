import Mathlib.Logic.Function.Iterate

/-!
# Cyclic redundancy checks

A shift of the register is linear over `^^^`, and injective if the top bit of the polynomial is set.
-/

namespace Crc

variable {w : Nat} (poly : BitVec w)

def shift (crc : BitVec w) : BitVec w :=
  if crc.getLsbD 0 then (crc >>> 1) ^^^ poly else crc >>> 1

def absorb (crc : BitVec w) (byte : UInt8) : BitVec w :=
  (shift poly)^[8] (crc ^^^ byte.toBitVec.setWidth w)

lemma xor_xor_xor_cancel (a b c : BitVec w) : (a ^^^ c) ^^^ (b ^^^ c) = a ^^^ b := by
  rw [BitVec.xor_comm b, BitVec.xor_assoc, ← BitVec.xor_assoc c, BitVec.xor_self, BitVec.zero_xor]

lemma shift_xor (a b : BitVec w) : shift poly (a ^^^ b) = shift poly a ^^^ shift poly b := by
  unfold shift
  rw [BitVec.getLsbD_xor, BitVec.ushiftRight_xor_distrib]
  cases a.getLsbD 0 <;> cases b.getLsbD 0
  · rfl
  · exact BitVec.xor_assoc _ _ _
  · grind
  · exact (xor_xor_xor_cancel _ _ _).symm

lemma shifts_xor (n : Nat) (a b : BitVec w) :
    (shift poly)^[n] (a ^^^ b) = (shift poly)^[n] a ^^^ (shift poly)^[n] b := by
  induction n generalizing a b with
  | zero => rfl
  | succ n ih => simp only [Function.iterate_succ_apply, shift_xor, ih]

variable {poly}

lemma eq_zero_of_shift (hpo : poly.msb = true) {a : BitVec w} (h : shift poly a = 0) : a = 0 := by
  unfold shift at h
  split at h
  · -- What is shifted has no top bit, so it cannot cancel the polynomial.
    have hm := congrArg BitVec.msb (BitVec.xor_eq_zero_iff.mp h)
    rw [hpo] at hm
    simp at hm
  · rename_i hbi
    apply BitVec.eq_of_getLsbD_eq
    intro i _
    cases i with
    | zero => simpa using hbi
    | succ i =>
      have hi := congrArg (BitVec.getLsbD · i) h
      simpa [Nat.add_comm] using hi

lemma shift_injective (hpo : poly.msb = true) : Function.Injective (shift poly) := by
  intro a b h
  apply BitVec.xor_eq_zero_iff.mp
  apply eq_zero_of_shift hpo
  rw [shift_xor, h, BitVec.xor_self]
  rfl

lemma eq_of_foldl_absorb_eq (hpo : poly.msb = true) (bytes : List UInt8) {a b : BitVec w}
    (h : bytes.foldl (absorb poly) a = bytes.foldl (absorb poly) b) : a = b := by
  induction bytes generalizing a b with
  | nil => exact h
  | cons byte bytes ih =>
    have hby := (shift_injective hpo).iterate 8 (ih h)
    exact (BitVec.xor_left_inj _).mp hby

lemma absorb_xor (crc : BitVec w) (x a : UInt8) :
    absorb poly crc (x ^^^ a) = absorb poly crc x ^^^ (shift poly)^[8] (a.toBitVec.setWidth w) := by
  rw [absorb, UInt8.toBitVec_xor, BitVec.setWidth_xor, ← BitVec.xor_assoc, shifts_xor, absorb]

lemma errors_eq_zero (hpo : poly.msb = true)
    (hby : ∀ x : BitVec 8, (shift poly)^[8] (x.setWidth w) >>> 8 = 0#w → x = 0#8)
    {crc : BitVec w} {x y a b : UInt8}
    (h : absorb poly (absorb poly crc (x ^^^ a)) (y ^^^ b) = absorb poly (absorb poly crc x) y) :
    a = 0 ∧ b = 0 := by
  have hsu := (shift_injective hpo).iterate 8 h
  have her : (shift poly)^[8] (a.toBitVec.setWidth w) = b.toBitVec.setWidth w := by
    rw [absorb_xor, UInt8.toBitVec_xor, BitVec.setWidth_xor, BitVec.xor_assoc,
      BitVec.xor_right_inj] at hsu
    rw [BitVec.xor_comm (y.toBitVec.setWidth w), ← BitVec.xor_assoc] at hsu
    apply BitVec.xor_eq_zero_iff.mp
    exact (BitVec.xor_left_inj _).mp (hsu.trans BitVec.zero_xor.symm)
  have hl : (b.toBitVec.setWidth w) >>> 8 = 0#w := by grind
  have hz : (shift poly)^[8] 0#w = 0#w := by
    have h := shifts_xor poly 8 0#w 0#w
    rwa [BitVec.xor_self, BitVec.xor_self] at h
  have ha := hby _ (her ▸ hl)
  rw [ha, BitVec.setWidth_zero, hz] at her
  have hb := hby b.toBitVec (by rw [← her, hz, BitVec.zero_ushiftRight])
  exact ⟨UInt8.toBitVec_inj.mp ha, UInt8.toBitVec_inj.mp hb⟩

def damaged (a b : UInt8) : List UInt8 → Nat → List UInt8
  | [], _ => []
  | [x], 0 => [x ^^^ a]
  | x :: y :: data, 0 => (x ^^^ a) :: (y ^^^ b) :: data
  | x :: data, i + 1 => x :: damaged a b data i

lemma length_damaged (a b : UInt8) (data : List UInt8) (i : Nat) :
    (damaged a b data i).length = data.length := by
  fun_induction damaged a b data i with
  | case1 | case2 | case3 => rfl
  | case4 x data i ih => rw [List.length_cons, ih, List.length_cons]

section
variable {a b : UInt8} (hne : a ≠ 0 ∨ b ≠ 0) {data : List UInt8} {i : Nat}
  (ha : a ≠ 0 → i < data.length) (hb : b ≠ 0 → i + 1 < data.length)
include hne ha hb

lemma damaged_append (tail : List UInt8) :
    damaged a b (data ++ tail) i = damaged a b data i ++ tail := by
  fun_induction damaged a b data i with
  | case1 => exact absurd hne (by simp_all)
  | case2 x =>
    obtain rfl : b = 0 := by simpa using hb
    cases tail with
    | nil => rfl
    | cons y tail => simp [damaged]
  | case3 => rfl
  | case4 x data i ih =>
    have hta := ih (fun h => Nat.lt_of_succ_lt_succ (ha h)) fun h => Nat.lt_of_succ_lt_succ (hb h)
    simp only [List.cons_append, damaged, hta]

lemma foldl_damaged_ne (hpo : poly.msb = true)
    (hby : ∀ x : BitVec 8, (shift poly)^[8] (x.setWidth w) >>> 8 = 0#w → x = 0#8) (crc : BitVec w) :
    data.foldl (absorb poly) crc ≠ (damaged a b data i).foldl (absorb poly) crc := by
  fun_induction damaged a b data i generalizing crc with
  | case1 => exact absurd hne (by simp_all)
  | case2 x =>
    obtain rfl : b = 0 := by simpa using hb
    intro h
    have hn : absorb poly (absorb poly crc (x ^^^ a)) ((0 : UInt8) ^^^ 0) =
        absorb poly (absorb poly crc x) 0 := by
      exact congrArg (absorb poly · 0) h.symm
    exact absurd hne (by simp [errors_eq_zero hpo hby hn])
  | case3 x y data =>
    intro h
    rw [List.foldl_cons, List.foldl_cons, List.foldl_cons, List.foldl_cons] at h
    have hz := errors_eq_zero hpo hby (eq_of_foldl_absorb_eq hpo data h.symm)
    exact absurd hne (by simp [hz])
  | case4 x data i ih => simp_all

end

end Crc
