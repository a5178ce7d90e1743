import Sibna.Lib.Text
import Sibna.P2p.Responder

/-!
# Addresses of peers

`parse_host_port` of `p2p/transport.rs`. Offsets count bytes, and a slice inside a character panics.
-/

namespace Sibna.Address

def byteLen (text : List Char) : Nat := (text.map Char.utf8Size).sum

def find (pattern : Char) : List Char → Option Nat
  | [] => none
  | c :: cs => if c = pattern then some 0 else (find pattern cs).map (c.utf8Size + ·)

def splitAt : List Char → Nat → Option (List Char × List Char)
  | text, 0 => some ([], text)
  | [], _ + 1 => none
  | c :: cs, offset + 1 =>
    if c.utf8Size ≤ offset + 1 then
      (splitAt cs (offset + 1 - c.utf8Size)).map fun (before, after) => (c :: before, after)
    else none

def slice (text : List Char) (start stop : Nat) : Option (List Char) :=
  if start ≤ stop then do
    let (before, _) ← splitAt text stop
    let (_, middle) ← splitAt before start
    return middle
  else none

def rsplitn2 (sep : Char) (text : List Char) : List (List Char) :=
  match Text.splitOnce sep text.reverse with
  | none => [text]
  | some (last, rest) => [last.reverse, rest.reverse]

/-- `str::parse::<u16>`: decimal digits after at most one plus sign. -/
def parseU16 (text : List Char) : Option Nat :=
  (Text.parseU32 (text.flatMap String.utf8EncodeChar)).bind fun n =>
    if n < 2 ^ 16 then some n else none

def readPort (addr host portStr : List Char) : Except P2pError (List Char × Nat) := do
  let port ← okOr (parseU16 portStr)
    (.handshake ("invalid port in address: " ++ String.ofList addr))
  return (host, port)

/-- The outer `none` is the panic of a slice. -/
def parseHostPort (addr : List Char) : Option (Except P2pError (List Char × Nat)) :=
  match find ']' addr with
  | some bracketEnd => do
    let host ← slice addr 1 bracketEnd
    let (_, rest) ← splitAt addr (bracketEnd + 1)
    return readPort addr host (match rest with
      | ':' :: port => port
      | _ => [])
  | none => some do
    let parts := rsplitn2 ':' addr
    let portStr ← okOr parts[0]? (.handshake ("invalid address format: " ++ String.ofList addr))
    let host ← okOr parts[1]? (.handshake ("missing host in address: " ++ String.ofList addr))
    readPort addr host portStr

variable {a b : List Char} {c : Char}

lemma find_append (h : c ∉ a) : find c (a ++ c :: b) = some (byteLen a) := by
  induction a with
  | nil => simp [find, byteLen]
  | cons d a ih =>
    have hne : d ≠ c := fun heq => h (heq ▸ .head _)
    rw [List.cons_append, find, if_neg hne, ih (fun hm => h (.tail _ hm))]
    rfl

lemma find_eq_none (h : c ∉ a) : find c a = none := by
  induction a with
  | nil => rfl
  | cons d a ih =>
    have hne : d ≠ c := fun heq => h (heq ▸ .head _)
    rw [find, if_neg hne, ih (fun hm => h (.tail _ hm))]
    rfl

lemma splitAt_append (a b : List Char) : splitAt (a ++ b) (byteLen a) = some (a, b) := by
  induction a with
  | nil => cases b <;> rfl
  | cons d a ih =>
    have hpo := d.utf8Size_pos
    have hl : byteLen (d :: a) = d.utf8Size + byteLen a := List.sum_cons
    obtain ⟨n, hn⟩ := Nat.exists_eq_succ_of_ne_zero (show byteLen (d :: a) ≠ 0 by omega)
    rw [hn, List.cons_append, splitAt, if_pos (by omega),
      show n + 1 - d.utf8Size = byteLen a by omega, ih]
    rfl

lemma splitAt_one (c : Char) (a : List Char) :
    splitAt (c :: a) 1 = if c.utf8Size = 1 then some ([c], a) else none := by
  have hpo := c.utf8Size_pos
  by_cases hc : c.utf8Size = 1
  · rw [splitAt, if_pos hc.le, if_pos hc, hc]
    cases a <;> rfl
  · rw [splitAt, if_neg (by omega), if_neg hc]

/-- The branch of `[host]:port`, for an address that does not begin with the bracket: the slice of
the host panics where the first character has several bytes. -/
lemma parseHostPort_bracket (h : ']' ∉ c :: a) : parseHostPort (c :: a ++ ']' :: b) =
    if c.utf8Size = 1 then
      some (readPort (c :: a ++ ']' :: b) a (match b with | ':' :: port => port | _ => []))
    else none := by
  have hl : byteLen (c :: a) + 1 = byteLen (c :: a ++ [']']) := by
    simp [byteLen]
    rfl
  have hr : splitAt (c :: a ++ ']' :: b) (byteLen (c :: a) + 1) =
      some (c :: a ++ [']'], b) := by
    rw [List.append_cons, hl, splitAt_append]
  have hle : 1 ≤ byteLen (c :: a) := by
    have hpo := c.utf8Size_pos
    simp [byteLen]
    omega
  simp only [parseHostPort, find_append h, hr, slice, if_pos hle, splitAt_append, splitAt_one,
    Option.bind_eq_bind, Option.bind_some]
  split <;> rfl

lemma digit_of_mem {n : Nat} (h : c ∈ Nat.toDigits 10 n) : 48 ≤ c.toNat ∧ c.toNat ≤ 57 := by
  have hdi := Nat.isDigit_of_mem_toDigits (by omega) (by omega) h
  simp only [Char.isDigit, Bool.and_eq_true, decide_eq_true_eq] at hdi
  exact hdi

lemma parseU16_toDigits {n : Nat} (h : n < 2 ^ 16) : parseU16 (Nat.toDigits 10 n) = some n := by
  have hb : (Nat.toDigits 10 n).flatMap String.utf8EncodeChar = Text.decimal n := by
    rw [Text.decimal, List.map_eq_flatMap]
    refine List.flatMap_congr fun c hc => ?_
    exact if_pos ((digit_of_mem hc).2.trans (by decide))
  have hne : Text.decimal n ≠ [] := by
    simp [Text.decimal]
  have hp := Text.parseU32_of_digits hne (Text.digits_decimal n)
    (by rw [Text.numeral_decimal]; omega)
  rw [parseU16, hb, hp, Text.numeral_decimal, Option.bind_some, if_pos h]

lemma readPort_toDigits (addr host : List Char) (port : UInt16) :
    readPort addr host (Nat.toDigits 10 port.toNat) = .ok (host, port.toNat) := by
  rw [readPort, parseU16_toDigits port.toNat_lt]
  rfl

lemma notMem_toDigits {n : Nat} (h : 57 < c.toNat) : c ∉ Nat.toDigits 10 n :=
  fun hm => absurd (digit_of_mem hm).2 (by omega)

/-- No slice of `parse_host_port` fails but that of the host in brackets, where the address begins
with the bracket or with a character of several bytes; and an address is read back from the text it
is written as. -/
theorem parseHostPort_exact (port : UInt16) :
    (∀ addr : List Char, parseHostPort addr = none ↔
      ']' ∈ addr ∧ ∃ c ∈ addr.head?, c = ']' ∨ c.utf8Size ≠ 1) ∧
    (∀ host : List Char, ']' ∉ host →
      parseHostPort (host ++ ':' :: Nat.toDigits 10 port.toNat) = some (.ok (host, port.toNat))) ∧
    ∀ ip : List Char, ']' ∉ ip →
      parseHostPort ('[' :: ip ++ ']' :: ':' :: Nat.toDigits 10 port.toNat) =
        some (.ok (ip, port.toNat)) := by
  refine ⟨fun addr => ?_, fun host h => ?_, fun ip h => ?_⟩
  · by_cases hmem : ']' ∈ addr
    · obtain ⟨a, b, rfl, ha⟩ := List.eq_append_cons_of_mem hmem
      cases a with
      | nil => exact iff_of_true rfl ⟨hmem, _, rfl, .inl rfl⟩
      | cons c a =>
        have hc : c ≠ ']' := fun heq => ha (heq ▸ .head _)
        rw [parseHostPort_bracket ha]
        simp [hc]
    · simp [parseHostPort, find_eq_none hmem, hmem]
  · have hbracket : ']' ∉ host ++ ':' :: Nat.toDigits 10 port.toNat := by
      simp [h, notMem_toDigits (c := ']') (by decide)]
    have hcolon : ':' ∉ (Nat.toDigits 10 port.toNat).reverse := by
      simp [notMem_toDigits (c := ':') (by decide)]
    have hparts : rsplitn2 ':' (host ++ ':' :: Nat.toDigits 10 port.toNat) =
        [Nat.toDigits 10 port.toNat, host] := by
      simp [rsplitn2, Text.splitOnce_append hcolon]
    rw [parseHostPort, find_eq_none hbracket]
    simp only [hparts]
    exact congrArg some (readPort_toDigits _ _ _)
  · have hbracket : ']' ∉ '[' :: ip := by
      simp [h]
    rw [parseHostPort_bracket hbracket]
    exact congrArg some (readPort_toDigits _ _ _)

theorem loopback_read : parseHostPort "[::1]:8080".toList = some (.ok ("::1".toList, 8080)) :=
  (parseHostPort_exact 8080).2.2 "::1".toList (by decide)

theorem bracket_first_panics : parseHostPort "]:80".toList = none ∧
    parseHostPort "é]:80".toList = none := ⟨rfl, rfl⟩

end Sibna.Address
