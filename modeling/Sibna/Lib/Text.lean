import Mathlib.Data.List.Basic
import Mathlib.Data.List.Induction
import Mathlib.Tactic.IntervalCases

/-!
# Text as bytes

Hexadecimal digits, decimal numerals of a fixed width, and fields joined by a separator.
-/

namespace Text

def utf8 (s : String) : List UInt8 := s.toUTF8.toList

def hexDigit (n : Nat) : UInt8 := UInt8.ofNat (if n < 10 then 48 + n else 87 + n)

def hexValue (c : UInt8) : Option Nat :=
  if 48 ≤ c.toNat ∧ c.toNat ≤ 57 then some (c.toNat - 48)
  else if 97 ≤ c.toNat ∧ c.toNat ≤ 102 then some (c.toNat - 87)
  else if 65 ≤ c.toNat ∧ c.toNat ≤ 70 then some (c.toNat - 55)
  else none

def hexEncode : List UInt8 → List UInt8
  | [] => []
  | b :: bs => hexDigit (b.toNat / 16) :: hexDigit (b.toNat % 16) :: hexEncode bs

def hexDecode : List UInt8 → Option (List UInt8)
  | [] => some []
  | [_] => none
  | c :: d :: rest => do
    let high ← hexValue c
    let low ← hexValue d
    let bs ← hexDecode rest
    return UInt8.ofNat (16 * high + low) :: bs

variable {cs bs : List UInt8} {c : UInt8} {n : Nat}

lemma hexValue_hexDigit (h : n < 16) : hexValue (hexDigit n) = some n := by
  interval_cases n <;> rfl

@[simp] lemma hexDecode_hexEncode (bs : List UInt8) : hexDecode (hexEncode bs) = some bs := by
  induction bs with
  | nil => rfl
  | cons b bs ih =>
    have hb : b.toNat < 256 := b.toNat_lt
    have hby : UInt8.ofNat (16 * (b.toNat / 16) + b.toNat % 16) = b := by
      rw [Nat.div_add_mod, UInt8.ofNat_toNat]
    simp only [hexEncode, hexDecode, hexValue_hexDigit (show b.toNat / 16 < 16 by omega),
      hexValue_hexDigit (show b.toNat % 16 < 16 by omega), ih, Option.bind_eq_bind,
      Option.bind_some, hby]
    rfl

lemma length_hexEncode (bs : List UInt8) : (hexEncode bs).length = 2 * bs.length := by
  induction bs with
  | nil => rfl
  | cons b bs ih =>
    rw [hexEncode, List.length_cons, List.length_cons, ih, List.length_cons]
    omega

lemma hexEncode_injective {bs' : List UInt8} (h : hexEncode bs = hexEncode bs') : bs = bs' := by
  have hde := congrArg hexDecode h
  rw [hexDecode_hexEncode, hexDecode_hexEncode] at hde
  exact Option.some.inj hde

lemma hexValue_of_hexDecode (h : hexDecode cs = some bs) : ∀ c ∈ cs, (hexValue c).isSome := by
  induction cs using hexDecode.induct generalizing bs with
  | case1 => exact nofun
  | case2 c => cases h
  | case3 c d rest ih =>
    simp only [hexDecode, Option.bind_eq_bind, Option.bind_eq_some_iff] at h
    obtain ⟨high, hhi, low, hl, bs', hr, -⟩ := h
    intro x hx
    rcases List.mem_cons.mp hx with rfl | hx
    · rw [hhi, Option.isSome_some]
    · rcases List.mem_cons.mp hx with rfl | hx
      · rw [hl, Option.isSome_some]
      · exact ih hr x hx

lemma notMem_of_hexDecode (h : hexDecode cs = some bs) (hc : hexValue c = none) : c ∉ cs := by
  intro hm
  have hso := hexValue_of_hexDecode h c hm
  rw [hc] at hso
  cases hso

lemma hexValue_lt (h : hexValue c = some n) : n < 16 := by
  unfold hexValue at h
  split at h
  · cases h
    omega
  split at h
  · cases h
    omega
  split at h
  · cases h
    omega
  · cases h

lemma hexDigit_iff_small (h : hexValue c = some n) : hexDigit n = c ↔ ¬ (65 ≤ c ∧ c ≤ 70) := by
  rw [UInt8.le_iff_toNat_le, UInt8.le_iff_toNat_le, ← UInt8.toNat_inj]
  unfold hexValue at h
  split at h
  · cases h
    rw [hexDigit, if_pos (by omega), UInt8.toNat_ofNat', Nat.mod_eq_of_lt (by omega)]
    exact iff_of_true (by omega) (by simp; omega)
  split at h
  · cases h
    rw [hexDigit, if_neg (by omega), UInt8.toNat_ofNat', Nat.mod_eq_of_lt (by omega)]
    exact iff_of_true (by omega) (by simp; omega)
  split at h
  · cases h
    rw [hexDigit, if_neg (by omega), UInt8.toNat_ofNat', Nat.mod_eq_of_lt (by omega)]
    exact iff_of_false (by omega) (by simp; omega)
  · cases h

lemma hexEncode_iff_small (h : hexDecode cs = some bs) :
    hexEncode bs = cs ↔ ∀ c ∈ cs, ¬ (65 ≤ c ∧ c ≤ 70) := by
  induction cs using hexDecode.induct generalizing bs with
  | case1 =>
    cases h
    simp [hexEncode]
  | case2 c => cases h
  | case3 c d rest ih =>
    simp only [hexDecode, Option.bind_eq_bind, Option.bind_eq_some_iff] at h
    obtain ⟨high, hhi, low, hl, bs', hr, hbs⟩ := h
    cases hbs
    have hh' := hexValue_lt hhi
    have hl' := hexValue_lt hl
    have hb : (UInt8.ofNat (16 * high + low)).toNat = 16 * high + low := by
      rw [UInt8.toNat_ofNat', Nat.mod_eq_of_lt (by omega)]
    rw [hexEncode, hb, show (16 * high + low) / 16 = high by omega,
      show (16 * high + low) % 16 = low by omega, List.cons.injEq, List.cons.injEq,
      hexDigit_iff_small hhi, hexDigit_iff_small hl, ih hr, List.forall_mem_cons,
      List.forall_mem_cons]

def decimal (n : Nat) : List UInt8 := (Nat.toDigits 10 n).map fun c => UInt8.ofNat c.toNat

lemma digit_of_mem_decimal (h : c ∈ decimal n) : 48 ≤ c.toNat ∧ c.toNat ≤ 57 := by
  obtain ⟨d, hd, rfl⟩ := List.mem_map.mp h
  have hdi := Nat.isDigit_of_mem_toDigits (by omega) (by omega) hd
  simp only [Char.isDigit, Bool.and_eq_true, decide_eq_true_eq] at hdi
  obtain ⟨hl, hhi⟩ := hdi
  have hl' : 48 ≤ d.toNat := hl
  have hh' : d.toNat ≤ 57 := hhi
  rw [UInt8.toNat_ofNat', Nat.mod_eq_of_lt (by omega)]
  exact ⟨hl', hh'⟩

def isDigit (c : UInt8) : Bool := decide (48 ≤ c.toNat ∧ c.toNat ≤ 57)

def parseDigits (cs : List UInt8) : Option Nat :=
  if cs ≠ [] ∧ cs.all isDigit then some (cs.foldl (fun n c => 10 * n + (c.toNat - 48)) 0) else none

def parseI64 : List UInt8 → Option Int
  | [] => none
  | c :: cs =>
    if c = 45 then (parseDigits cs).bind fun n => if n ≤ 2 ^ 63 then some (-n) else none
    else
      (parseDigits (if c = 43 then cs else c :: cs)).bind fun n =>
        if n < 2 ^ 63 then some (n : Int) else none

lemma parseDigits_decimal (n : Nat) : parseDigits (decimal n) = some n := by
  have hne : decimal n ≠ [] := by
    simp [decimal, Nat.toDigits_ne_nil]
  have hal : (decimal n).all isDigit = true := by
    rw [List.all_eq_true]
    exact fun c hc => decide_eq_true (digit_of_mem_decimal hc)
  have hf : (decimal n).foldl (fun n c => 10 * n + (c.toNat - 48)) 0 =
      Nat.ofDigitChars 10 (Nat.toDigits 10 n) 0 := by
    rw [decimal, List.foldl_map, Nat.ofDigitChars]
    refine List.foldl_ext _ _ _ fun so c hc => ?_
    have hdi := Nat.isDigit_of_mem_toDigits (by omega) (by omega) hc
    simp only [Char.isDigit, Bool.and_eq_true, decide_eq_true_eq] at hdi
    have hhi : c.toNat ≤ 57 := hdi.2
    rw [UInt8.toNat_ofNat', Nat.mod_eq_of_lt (by omega)]
    rfl
  rw [parseDigits, if_pos ⟨hne, hal⟩, hf, Nat.ofDigitChars_toDigits (by omega) (by omega)]

lemma parseI64_decimal (h : n < 2 ^ 63) : parseI64 (decimal n) = some (n : Int) := by
  have hp := parseDigits_decimal n
  cases hde : decimal n with
  | nil =>
    rw [hde] at hp
    cases hp
  | cons c cs =>
    have hdi : 48 ≤ c.toNat := by
      refine (digit_of_mem_decimal (n := n) ?_).1
      rw [hde]
      exact .head _
    have hm : c ≠ 45 := by
      rintro rfl
      exact absurd hdi (by decide)
    have hpl : c ≠ 43 := by
      rintro rfl
      exact absurd hdi (by decide)
    rw [hde] at hp
    rw [parseI64, if_neg hm, if_neg hpl, hp, Option.bind_some, if_pos h]

section
variable {α : Type} {a a' b b' : List α} {sep : α}

lemma first_field (h : a ++ sep :: b = a' ++ sep :: b') (ha : sep ∉ a) (ha' : sep ∉ a') :
    a = a' ∧ b = b' := by
  induction a generalizing a' with
  | nil =>
    cases a' with
    | nil => exact ⟨rfl, (List.cons.inj h).2⟩
    | cons x a' => simp_all
  | cons x a ih =>
    cases a' with
    | nil => grind
    | cons y a' => simp_all

lemma first_field_of_begins (h : a ++ [sep] <+: a' ++ sep :: b') (ha : sep ∉ a)
    (ha' : sep ∉ a') : a = a' := by
  obtain ⟨rest, hr⟩ := h
  rw [List.append_assoc] at hr
  exact (first_field hr ha ha').1

lemma only_field_of_begins (h : a ++ [sep] <+: a' ++ sep :: b') (ha' : sep ∉ a')
    (hb' : sep ∉ b') : a = a' := by
  obtain ⟨rest, hr⟩ := h
  rw [List.append_assoc] at hr
  exact ((List.append_cons_inj_of_notMem ha' hb').mp hr.symm).1.symm

def splitOnce [DecidableEq α] (sep : α) : List α → Option (List α × List α)
  | [] => none
  | x :: xs =>
    if x = sep then some ([], xs) else (splitOnce sep xs).map fun (a, b) => (x :: a, b)

def splitThree [DecidableEq α] (sep : α) (xs : List α) : Option (List α × List α × List α) :=
  (splitOnce sep xs).bind fun (a, rest) => (splitOnce sep rest).map fun (b, c) => (a, b, c)

lemma splitOnce_append [DecidableEq α] (ha : sep ∉ a) :
    splitOnce sep (a ++ sep :: b) = some (a, b) := by
  induction a with
  | nil => exact if_pos rfl
  | cons x a ih =>
    have hne : x ≠ sep := fun heq => ha (heq ▸ (.head _))
    rw [List.cons_append, splitOnce, if_neg hne, ih fun hm => ha (List.mem_cons_of_mem x hm)]
    rfl

lemma splitThree_append [DecidableEq α] {c : List α} (ha : sep ∉ a) (hb : sep ∉ b) :
    splitThree sep (a ++ sep :: (b ++ sep :: c)) = some (a, b, c) := by
  simp only [splitThree, splitOnce_append ha, splitOnce_append hb, Option.bind_some,
    Option.map_some]

end

def numeral (cs : List UInt8) : Nat := cs.foldl (fun n c => 10 * n + (c.toNat - 48)) 0

def Digits (cs : List UInt8) : Prop := ∀ c ∈ cs, isDigit c = true

def padded (width n : Nat) : List UInt8 := (decimal n).leftpad width 48

def parseU32 : List UInt8 → Option Nat
  | [] => none
  | c :: cs =>
    (parseDigits (if c = 43 then cs else c :: cs)).bind fun n => if n < 2 ^ 32 then some n else none

@[simp] lemma numeral_append_singleton (cs : List UInt8) (c : UInt8) :
    numeral (cs ++ [c]) = 10 * numeral cs + (c.toNat - 48) := by
  simp [numeral]

lemma isDigit_iff {c : UInt8} : isDigit c = true ↔ 48 ≤ c.toNat ∧ c.toNat ≤ 57 := by
  simp [isDigit]

variable {cs : List UInt8}

lemma digits_append {ds : List UInt8} : Digits (cs ++ ds) ↔ Digits cs ∧ Digits ds :=
  List.forall_mem_append

lemma digits_singleton {c : UInt8} : Digits [c] ↔ 48 ≤ c.toNat ∧ c.toNat ≤ 57 := by
  simp [Digits, isDigit]

lemma numeral_lt (h : Digits cs) : numeral cs < 10 ^ cs.length := by
  induction cs using List.reverseRecOn with
  | nil => decide
  | append_singleton cs c ih =>
    obtain ⟨hcs, hc⟩ := digits_append.mp h
    have hc := digits_singleton.mp hc
    have hlt := ih hcs
    rw [numeral_append_singleton, List.length_append, List.length_singleton, pow_succ]
    omega

lemma numeral_inj {ds : List UInt8} (hcs : Digits cs) (hds : Digits ds)
    (hl : cs.length = ds.length) (h : numeral cs = numeral ds) : cs = ds := by
  induction cs using List.reverseRecOn generalizing ds with
  | nil => exact (List.eq_nil_of_length_eq_zero hl.symm).symm
  | append_singleton cs c ih =>
    cases ds using List.reverseRecOn with
    | nil => simp at hl
    | append_singleton ds d =>
      obtain ⟨hcs, hc⟩ := digits_append.mp hcs
      obtain ⟨hds, hd⟩ := digits_append.mp hds
      have hc := digits_singleton.mp hc
      have hd := digits_singleton.mp hd
      rw [numeral_append_singleton, numeral_append_singleton] at h
      have hla : c = d := UInt8.toNat_inj.mp (by omega)
      have hin : cs = ds := ih hcs hds (by simpa using hl) (by omega)
      rw [hla, hin]

lemma numeral_replicate_append (k : Nat) (cs : List UInt8) :
    numeral (List.replicate k 48 ++ cs) = numeral cs := by
  induction k with
  | zero => rfl
  | succ k ih =>
    rw [← ih]
    rfl

lemma parseDigits_of_digits (hne : cs ≠ []) (h : Digits cs) :
    parseDigits cs = some (numeral cs) := if_pos ⟨hne, List.all_eq_true.mpr h⟩

lemma parseU32_of_digits (hne : cs ≠ []) (h : Digits cs) (hlt : numeral cs < 2 ^ 32) :
    parseU32 cs = some (numeral cs) := by
  cases cs with
  | nil => exact absurd rfl hne
  | cons c cs =>
    have hpl : c ≠ 43 := by
      rintro rfl
      exact absurd (h 43 (.head _)) (by decide)
    rw [parseU32, if_neg hpl, parseDigits_of_digits hne h, Option.bind_some, if_pos hlt]

lemma digits_decimal (n : Nat) : Digits (decimal n) :=
  fun _ hc => isDigit_iff.mpr (digit_of_mem_decimal hc)

lemma numeral_decimal (n : Nat) : numeral (decimal n) = n := by
  have hne : decimal n ≠ [] := by
    simp [decimal, Nat.toDigits_ne_nil]
  have hp := parseDigits_of_digits hne (digits_decimal n)
  rw [parseDigits_decimal, Option.some.injEq] at hp
  exact hp.symm

lemma digits_padded (width n : Nat) : Digits (padded width n) := by
  refine digits_append.mpr ⟨fun c hc => ?_, digits_decimal n⟩
  rw [List.eq_of_mem_replicate hc]
  rfl

@[simp] lemma numeral_padded (width n : Nat) : numeral (padded width n) = n := by
  rw [padded, List.leftpad, numeral_replicate_append, numeral_decimal]

lemma length_padded {width n : Nat} (hw : 0 < width) (h : n < 10 ^ width) :
    (padded width n).length = width := by
  have hle : (decimal n).length ≤ width := by
    rw [decimal, List.length_map]
    exact (Nat.length_toDigits_le_iff (by decide) hw).mpr h
  rw [padded, List.length_leftpad, Nat.max_eq_left hle]

lemma padded_eq_iff {width n : Nat} (hw : 0 < width) (hn : n < 10 ^ width) (h : Digits cs)
    (hl : cs.length = width) : padded width n = cs ↔ n = numeral cs := by
  constructor
  · rintro rfl
    rw [numeral_padded]
  · rintro rfl
    refine numeral_inj (digits_padded _ _) h ?_ (numeral_padded _ _)
    rw [length_padded hw hn, hl]

end Text
