import Mathlib.Data.ZMod.Basic
import Sibna.Crypto
import Sibna.Lib.Montgomery

/-!
# Public keys of low order

Only three of the byte strings that `validate_public_key` compares with encode points of low order.
-/

namespace Sibna

open LittleEndian

namespace X25519

def prime : Nat := 2 ^ 255 - 19

def eighthCoordinate : Nat :=
  325606250916557431795983626356110631294008115727848805560023387167927233504

def eighthInverse : Nat :=
  39382357235489614581723060781553021112529911719440698176882885853963445705823

def lowOrderCoordinates : List Nat := [0, 1, prime - 1, eighthCoordinate, eighthInverse]

/-- The number that a key encodes; the top bit is ignored. -/
def coordinate (key : Bytes32) : Nat := fromLe key.val % 2 ^ 255

def LowOrder (key : Bytes32) : Prop := coordinate key % prime ∈ lowOrderCoordinates
  deriving Decidable

/-- The lowest three bits are cleared, the highest one is cleared and the one below it set. -/
def clamp (scalar : Bytes32) : Bytes :=
  (scalar.val.modify 0 (· &&& 248)).modify 31 (fun b => b &&& 127 ||| 64)

def scalarMult (scalar key : Bytes32) : Bytes32 :=
  let P := Montgomery.ladder (121665 : ZMod prime) (coordinate key : ZMod prime)
    (fromLe (clamp scalar)) 255
  ⟨toLe 32 (P.x * P.z ^ (prime - 2)).val, toLe_length 32 _⟩

lemma eight_dvd_cleared (b : UInt8) : 8 ∣ (b &&& 248).toNat := by
  refine Nat.dvd_of_mod_eq_zero ?_
  have han : (b.toNat &&& 248) % 2 ^ 3 = (b.toNat % 2 ^ 3) &&& (248 % 2 ^ 3) :=
    Nat.and_mod_two_pow ..
  exact han.trans (Nat.and_zero _)

lemma eight_dvd_clamp (sc : Bytes32) : 8 ∣ fromLe (clamp sc) % 2 ^ 255 := by
  rw [Nat.dvd_mod_iff (by decide)]
  obtain ⟨bs, hl⟩ := sc
  cases bs with
  | nil => cases hl
  | cons b bs =>
    exact (eight_dvd_cleared b).add (Nat.dvd_mul_right_of_dvd (by decide) _)

lemma natCast_eq {m n : Nat} (h : m % prime = n % prime) : (m : ZMod prime) = n :=
  (ZMod.natCast_eq_natCast_iff' m n prime).mpr h

lemma natCast_coordinate (key : Bytes32) :
    (coordinate key : ZMod prime) = (coordinate key % prime : Nat) :=
  (ZMod.natCast_mod _ _).symm

lemma negOne_sq : ((prime - 1 : Nat) : ZMod prime) ^ 2 = 1 := by
  have h := @natCast_eq ((prime - 1) ^ 2) 1 (by decide)
  push_cast at h
  exact h

lemma eighth_mul_inverse : (eighthCoordinate : ZMod prime) * (eighthInverse : ZMod prime) = 1 := by
  have h := @natCast_eq (eighthCoordinate * eighthInverse) 1 (by decide)
  push_cast at h
  exact h

def Eighth (v : Nat) : Prop :=
  (v ^ 4 + 1) % prime = (2 * v ^ 2 + 4 * v * ((v + 1) ^ 2 + 4 * 121665 * v)) % prime

lemma Eighth.root {v : Nat} (h : Eighth v) : ((v : ZMod prime) ^ 2 - 1) ^ 2 =
    4 * (v : ZMod prime) * (((v : ZMod prime) + 1) ^ 2 + 4 * 121665 * (v : ZMod prime)) := by
  have hca := natCast_eq h
  push_cast at hca
  linear_combination hca

lemma eighth_eighthCoordinate : Eighth eighthCoordinate := by
  unfold Eighth
  decide

lemma eighth_eighthInverse : Eighth eighthInverse := by
  unfold Eighth
  decide

variable {key : Bytes32}

lemma ladder_lowOrder (h : LowOrder key) {n : Nat} (hn : 8 ∣ n % 2 ^ 255) :
    (Montgomery.ladder (121665 : ZMod prime) (coordinate key : ZMod prime) n 255).z = 0 := by
  have htw := (by decide : 2 ∣ 8).trans hn
  have hf := (by decide : 4 ∣ 8).trans hn
  have hca : coordinate key % prime = 0 ∨ coordinate key % prime = 1 ∨
      coordinate key % prime = prime - 1 ∨ coordinate key % prime = eighthCoordinate ∨
      coordinate key % prime = eighthInverse := by
    simpa only [LowOrder, lowOrderCoordinates, List.mem_cons, List.not_mem_nil, or_false] using h
  rw [natCast_coordinate]
  rcases hca with h | h | h | h | h
  · rw [h, Nat.cast_zero]
    exact Montgomery.multiples_two.ladder_cycle htw
  · rw [h, Nat.cast_one]
    exact (Montgomery.multiples_four (one_pow 2)).ladder_cycle hf
  · rw [h]
    exact (Montgomery.multiples_four negOne_sq).ladder_cycle hf
  · rw [h]
    exact (Montgomery.multiples_eight eighth_eighthCoordinate.root eighth_eighthInverse.root
      eighth_mul_inverse).ladder_cycle hn
  · rw [h]
    exact (Montgomery.multiples_eight eighth_eighthInverse.root eighth_eighthCoordinate.root
      ((mul_comm _ _).trans eighth_mul_inverse)).ladder_cycle hn

lemma scalarMult_lowOrder (h : LowOrder key) (sc : Bytes32) :
    (scalarMult sc key).val = List.replicate 32 0 := by
  have hz := ladder_lowOrder h (eight_dvd_clamp sc)
  have hep : prime - 2 ≠ 0 := by decide
  simp only [scalarMult, hz, zero_pow hep, mul_zero]
  rfl

lemma lowOrder_of_mem_points : ∀ point ∈ lowOrderPoints,
    fromLe point % 2 ^ 255 % prime ∈ lowOrderCoordinates → fromLe point = 0 ∨ fromLe point = 1 ∨
    fromLe point = 2 ^ 255 := by
  decide +kernel

lemma mem_points_of_fromLe
    (h : fromLe key.val = 0 ∨ fromLe key.val = 1 ∨ fromLe key.val = 2 ^ 255) :
    key.val ∈ lowOrderPoints := by
  have hk := toLe_fromLe key.val
  rw [key.property] at hk
  rw [← hk]
  rcases h with h | h | h
  · rw [h]
    decide
  · rw [h]
    decide
  · rw [h]
    decide

lemma validatePublicKey_error_iff (key : Bytes32) :
    (∃ e, validatePublicKey key = .error e) ↔ key.val ∈ lowOrderPoints := by
  unfold validatePublicKey
  split
  · simp_all
  · simp_all

/-- A key of low order is refused if and only if it is the plain zero or one, or the zero with the
top bit set. With every such key, X25519 gives zero for every secret. -/
theorem lowOrder_rejected_iff {key : Bytes32} (h : LowOrder key) :
    ((∃ e, validatePublicKey key = .error e) ↔
      fromLe key.val = 0 ∨ fromLe key.val = 1 ∨ fromLe key.val = 2 ^ 255) ∧
    ∀ scalar, (scalarMult scalar key).val = List.replicate 32 0 := by
  refine ⟨(validatePublicKey_error_iff key).trans ⟨?_, mem_points_of_fromLe⟩, scalarMult_lowOrder h⟩
  exact fun hmem => lowOrder_of_mem_points key.val hmem h

def encoded (n : Nat) : Bytes32 := ⟨toLe 32 n, toLe_length 32 n⟩

theorem zero_rejected :
    let rejected := fun n => (∃ e, validatePublicKey (encoded n) = .error e) ∧
      ∀ scalar, (scalarMult scalar (encoded n)).val = List.replicate 32 0
    rejected 0 ∧ rejected 1 ∧ rejected (2 ^ 255) := by
  have hlow : ∀ n ∈ [0, 1, 2 ^ 255], LowOrder (encoded n) ∧
    fromLe (encoded n).val ∈ [0, 1, 2 ^ 255] := by
    decide +kernel
  have hall : ∀ n ∈ [0, 1, 2 ^ 255], (∃ e, validatePublicKey (encoded n) = .error e) ∧
      ∀ scalar, (scalarMult scalar (encoded n)).val = List.replicate 32 0 := by
    intro n hn
    obtain ⟨hlow, hlisted⟩ := hlow n hn
    obtain ⟨hiff, hzero⟩ := lowOrder_rejected_iff hlow
    exact ⟨hiff.mpr (by simpa using hlisted), hzero⟩
  exact ⟨hall _ (.head _), hall _ (.tail _ (.head _)), hall _ (.tail _ (.tail _ (.head _)))⟩

/-- Minus one, a coordinate of order eight, and one with the top bit set. -/
theorem lowOrder_accepted :
    let accepted := fun n => LowOrder (encoded n) ∧ validatePublicKey (encoded n) = .ok () ∧
      ∀ scalar, (scalarMult scalar (encoded n)).val = List.replicate 32 0
    accepted (prime - 1) ∧ accepted eighthCoordinate ∧ accepted (2 ^ 255 + 1) := by
  have haccepted : ∀ n ∈ [prime - 1, eighthCoordinate, 2 ^ 255 + 1],
      LowOrder (encoded n) ∧ (encoded n).val ∉ lowOrderPoints := by
    decide +kernel
  have hall : ∀ n ∈ [prime - 1, eighthCoordinate, 2 ^ 255 + 1],
      LowOrder (encoded n) ∧ validatePublicKey (encoded n) = .ok () ∧
        ∀ scalar, (scalarMult scalar (encoded n)).val = List.replicate 32 0 := by
    intro n hn
    obtain ⟨hlow, hpoints⟩ := haccepted n hn
    exact ⟨hlow, if_neg hpoints, scalarMult_lowOrder hlow⟩
  exact ⟨hall _ (.head _), hall _ (.tail _ (.head _)), hall _ (.tail _ (.tail _ (.head _)))⟩

end X25519

end Sibna
