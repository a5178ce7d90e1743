import Mathlib.Algebra.Order.BigOperators.Group.List
import Sibna.SafetyNumber

/-!
# Safety numbers in the SDKs

`safety_number.cpp` and `safety_number.dart` read a text of sixty digits and take more from it than
it has.
-/

namespace Sibna.Sdk

open Text LittleEndian

namespace Cpp

inductive ResultCode where
  | invalidArgument
  | internalError
  deriving DecidableEq

inductive StdException where
  | invalidArgument
  | outOfRange
  deriving DecidableEq

/-- A failed `Result`, or an exception. -/
inductive Failure where
  | result (code : ResultCode) (message : String)
  | thrown (exception : StdException)
  deriving DecidableEq

structure SafetyNumber where
  formattedNumber : Bytes
  fingerprint : Bytes
  version : Nat
  deriving DecidableEq

def compareBytes : Bytes → Bytes → Int
  | a :: as, b :: bs => if a ≠ b then (a.toNat : Int) - b.toNat else compareBytes as bs
  | _, _ => 0

def formatGroups (text : Bytes) : Bytes :=
  (List.range ((text.length + 4) / 5)).flatMap fun k =>
    (if 0 < k then [32] else []) ++ (text.drop (5 * k)).take 5

def formatSafetyNumber (text : Bytes) : Bytes := formatGroups (text.filter isDigit)

/-- Which calls of OpenSSL succeed. -/
structure Evp where
  created : Bool
  initialized : Bool
  updated : Bool
  finalized : Bool

def concat (ourIdentity theirIdentity : Bytes32) : Bytes :=
  let (first, second) :=
    if 0 < compareBytes ourIdentity.val theirIdentity.val then (theirIdentity, ourIdentity)
    else (ourIdentity, theirIdentity)
  1 :: (first.val ++ second.val)

def ofHash (hash : FixedBytes 64) : SafetyNumber where
  formattedNumber := formatGroups (Text.hexEncode (hash.val.take 30))
  fingerprint := hash.val.take 32
  version := 1

def calculate (evp : Evp) (sha512 : Bytes → FixedBytes 64) (ourIdentity theirIdentity : Bytes32) :
    Except Failure SafetyNumber :=
  if !evp.created then .error (.result .internalError "Failed to create hash context")
  else if !evp.initialized then .error (.result .internalError "Failed to initialize SHA-512")
  else if !evp.updated then .error (.result .internalError "Failed to update hash")
  else if !evp.finalized then .error (.result .internalError "Failed to finalize hash")
  else .ok (ofHash (sha512 (concat ourIdentity theirIdentity)))

def hexDigits : Bytes → Except Failure Bytes
  | [] => .ok []
  | c :: cs =>
    if (hexValue c).isSome then (hexDigits cs).map (c :: ·)
    else if c ≠ 32 then .error (.result .invalidArgument "Invalid character in safety number")
    else hexDigits cs

def substr (text : Bytes) (pos count : Nat) : Except Failure Bytes :=
  if text.length < pos then .error (.thrown .outOfRange) else .ok ((text.drop pos).take count)

def stoi (text : Bytes) : Except Failure Nat :=
  if text = [] then .error (.thrown .invalidArgument)
  else .ok (text.foldl (fun n c => 16 * n + (hexValue c).getD 0) 0)

def fingerprintFrom (digits : Bytes) : Nat → Nat → Except Failure Bytes
  | 0, _ => .ok []
  | left + 1, i => do
    let byteStr ← substr digits (i * 2) 2
    let value ← stoi byteStr
    let rest ← fingerprintFrom digits left (i + 1)
    return UInt8.ofNat value :: rest

def parse (safetyNumber : Bytes) : Except Failure SafetyNumber := do
  let digits ← hexDigits safetyNumber
  if digits.length ≠ 60 then
    .error (.result .invalidArgument "Safety number must be 60 hex digits")
  else
    let fingerprint ← fingerprintFrom digits 32 0
    return ⟨formatSafetyNumber digits, fingerprint, 1⟩

end Cpp

namespace Dart

inductive SibnaErrorCode where
  | invalidKey
  | invalidArgument
  deriving DecidableEq

inductive Failure where
  | validationError (code : SibnaErrorCode) (message field : String)
  | rangeError
  deriving DecidableEq

structure SafetyNumber where
  formattedNumber : Bytes
  fingerprint : Bytes
  version : Nat
  deriving DecidableEq

def currentVersion : Nat := 1

def compareBytes : Bytes → Bytes → Int
  | a :: as, b :: bs => if a ≠ b then (a.toNat : Int) - b.toNat else compareBytes as bs
  | as, bs => (as.length : Int) - bs.length

def digitGroups : Nat → Bytes → Bytes
  | i, b :: c :: rest =>
    groupSpace i ++ padded 5 (groupValue b c % 100000) ++ digitGroups (i + 1) rest
  | _, _ => []

def bytesToDigits (bytes : Bytes) : Bytes := digitGroups 0 bytes

def ofFingerprint (fingerprint : Bytes) : SafetyNumber :=
  ⟨bytesToDigits fingerprint, fingerprint, currentVersion⟩

def data (ourIdentity theirIdentity : Bytes) : Bytes :=
  let first := if compareBytes ourIdentity theirIdentity < 0 then ourIdentity else theirIdentity
  let second := if compareBytes ourIdentity theirIdentity < 0 then theirIdentity else ourIdentity
  UInt8.ofNat currentVersion :: (first ++ second)

def calculate (hmacSha512 : Bytes → Bytes → FixedBytes 64) (ourIdentity theirIdentity : Bytes) :
    Except Failure SafetyNumber :=
  if ourIdentity.length ≠ 32 then
    .error (.validationError .invalidKey "Identity key must be 32 bytes" "ourIdentity")
  else if theirIdentity.length ≠ 32 then
    .error (.validationError .invalidKey "Identity key must be 32 bytes" "theirIdentity")
  else
    .ok (ofFingerprint
      ((hmacSha512 safetyNumberLabel (data ourIdentity theirIdentity)).val.take 32))

def substring (text : Bytes) (start stop : Nat) : Except Failure Bytes :=
  if text.length < stop then .error .rangeError else .ok ((text.take stop).drop start)

def fingerprintFrom (digits : Bytes) : Nat → Nat → Except Failure Bytes
  | 0, _ => .ok []
  | left + 1, i => do
    let chunk ← substring digits (i * 5) ((i + 1) * 5)
    let value := numeral chunk
    let rest ← fingerprintFrom digits left (i + 1)
    return UInt8.ofNat (value >>> 8 &&& 255) :: UInt8.ofNat (value &&& 255) :: rest

def parse (safetyNumber : Bytes) : Except Failure SafetyNumber :=
  let digits := safetyNumber.filter isDigit
  if digits.length ≠ 60 then
    .error (.validationError .invalidArgument "Safety number must be 60 digits" "safetyNumber")
  else (fingerprintFrom digits 16 0).map ofFingerprint

end Dart

lemma Cpp.fingerprintFrom_fails (di : Bytes) (left i : Nat) (h : di.length ≤ 2 * (i + left)) :
    (Cpp.fingerprintFrom di (left + 1) i).toOption = none := by
  induction left generalizing i with
  | zero =>
    rw [Cpp.fingerprintFrom, Cpp.substr]
    split
    · rfl
    · have hdr : di.drop (i * 2) = [] := List.drop_eq_nil_of_le (by omega)
      rw [hdr]
      rfl
  | succ left ih =>
    have hr := ih (i + 1) (by omega)
    rw [Cpp.fingerprintFrom]
    cases Cpp.substr di _ 2 with
    | error e => rfl
    | ok bs =>
      cases hv : Cpp.stoi bs with
      | error e => simp [hv, bind, Except.bind, Except.toOption]
      | ok v =>
        cases hb : Cpp.fingerprintFrom di (left + 1) (i + 1) with
        | error e => simp [hv, bind, Except.bind, Except.toOption]
        | ok rest =>
          rw [hb] at hr
          cases hr

lemma Cpp.parse_fails (text : Bytes) : (Cpp.parse text).toOption = none := by
  unfold Cpp.parse
  cases Cpp.hexDigits text with
  | error e => rfl
  | ok di =>
    simp only [bind, Except.bind]
    split
    · rfl
    have hf := Cpp.fingerprintFrom_fails di 31 0 (by omega)
    cases hb : Cpp.fingerprintFrom di 32 0 with
    | error e => rfl
    | ok f =>
      rw [hb] at hf
      cases hf

lemma Dart.fingerprintFrom_fails (di : Bytes) (left i : Nat) (h : di.length < 5 * (i + left + 1)) :
    (Dart.fingerprintFrom di (left + 1) i).toOption = none := by
  induction left generalizing i with
  | zero =>
    rw [Dart.fingerprintFrom, Dart.substring, if_pos (by omega)]
    rfl
  | succ left ih =>
    have hr := ih (i + 1) (by omega)
    rw [Dart.fingerprintFrom]
    cases Dart.substring di _ ((i + 1) * 5) with
    | error e => rfl
    | ok ch =>
      cases hb : Dart.fingerprintFrom di (left + 1) (i + 1) with
      | error e => simp [bind, Except.bind, Except.toOption]
      | ok rest =>
        rw [hb] at hr
        cases hr

lemma Dart.parse_fails (text : Bytes) : (Dart.parse text).toOption = none := by
  unfold Dart.parse
  dsimp only
  split
  · rfl
  have hf := Dart.fingerprintFrom_fails (text.filter isDigit) 15 0 (by omega)
  cases hb : Dart.fingerprintFrom (text.filter isDigit) 16 0 with
  | error e => rfl
  | ok f =>
    rw [hb] at hf
    cases hf

inductive Implementation where
  | core
  | cpp
  | dart
  deriving DecidableEq

structure Shown where
  text : Bytes
  fingerprint : Bytes
  deriving DecidableEq

def shown (sha512 : Bytes → FixedBytes 64) (hmacSha512 : Bytes → Bytes → FixedBytes 64)
    (ourIdentity theirIdentity : Bytes32) : Implementation → Option Shown
  | .core =>
    let n := Sibna.SafetyNumber.calculate sha512 ourIdentity theirIdentity
    some ⟨n.digits, n.fingerprint.val⟩
  | .cpp =>
    (Cpp.calculate ⟨true, true, true, true⟩ sha512 ourIdentity theirIdentity).toOption.map fun n =>
      ⟨n.formattedNumber, n.fingerprint⟩
  | .dart =>
    (Dart.calculate hmacSha512 ourIdentity.val theirIdentity.val).toOption.map fun n =>
      ⟨n.formattedNumber, n.fingerprint⟩

def parsed (text : Bytes) : Implementation → Option Bytes
  | .core => (Sibna.SafetyNumber.parse text).map fun n => n.fingerprint.val
  | .cpp => (Cpp.parse text).toOption.map Cpp.SafetyNumber.fingerprint
  | .dart => (Dart.parse text).toOption.map Dart.SafetyNumber.fingerprint

lemma length_take_hash (hash : FixedBytes 64) : (hash.val.take 32).length = 32 := by
  rw [List.length_take, hash.property]
  rfl

def firstHalf (hash : FixedBytes 64) : Bytes32 := ⟨hash.val.take 32, length_take_hash hash⟩

/-- Texts of different lengths have different hashes, also in the half that is kept. An HMAC is a
hash of more than one block, and not the hash of a text of less than one. -/
structure Unrelated (sha512 : Bytes → FixedBytes 64) (hmacSha512 : Bytes → Bytes → FixedBytes 64) :
    Prop where
  lengths : ∀ bs bs' : Bytes, bs.length < 2 ^ 16 → bs'.length < 2 ^ 16 → bs.length ≠ bs'.length →
    firstHalf (sha512 bs) ≠ firstHalf (sha512 bs')
  hmac : ∀ bs key bs', bs.length < 128 → firstHalf (sha512 bs) ≠ firstHalf (hmacSha512 key bs')

section

variable (sha512 : Bytes → FixedBytes 64) (hmacSha512 : Bytes → Bytes → FixedBytes 64)

def fingerprint (ourIdentity theirIdentity : Bytes32) : Implementation → Bytes32
  | .core => firstHalf (sha512 (Sibna.SafetyNumber.hashed ourIdentity theirIdentity))
  | .cpp => firstHalf (sha512 (Cpp.concat ourIdentity theirIdentity))
  | .dart =>
    firstHalf (hmacSha512 safetyNumberLabel (Dart.data ourIdentity.val theirIdentity.val))

variable {sha512 hmacSha512}

lemma fingerprint_inj (h : Unrelated sha512 hmacSha512) (a b : Bytes32) {p q : Implementation}
    (heq : fingerprint sha512 hmacSha512 a b p = fingerprint sha512 hmacSha512 a b q) : p = q := by
  have hco : (Cpp.concat a b).length = 65 := by
    unfold Cpp.concat
    split
    rename_i first second _
    rw [List.length_cons, List.length_append, first.property, second.property]
  have hha : (Sibna.SafetyNumber.hashed a b).length = 87 := by
    rw [Sibna.SafetyNumber.hashed, List.length_cons, length_labelledKeys]
  -- the label makes 22 bytes
  have hl : fingerprint sha512 hmacSha512 a b .core ≠ fingerprint sha512 hmacSha512 a b .cpp :=
    h.lengths _ _ (by omega) (by omega) (by omega)
  cases p with
  | core =>
    cases q with
    | core => rfl
    | cpp => exact absurd heq hl
    | dart => exact absurd heq (h.hmac _ _ _ (by omega))
  | cpp =>
    cases q with
    | core => exact absurd heq.symm hl
    | cpp => rfl
    | dart => exact absurd heq (h.hmac _ _ _ (by omega))
  | dart =>
    cases q with
    | core | cpp => exact absurd heq.symm (h.hmac _ _ _ (by omega))
    | dart => rfl

def display (fingerprint : Bytes32) : Implementation → Bytes
  | .cpp => Cpp.formatGroups (Text.hexEncode (fingerprint.val.take 30))
  | .core | .dart => bytesToDigits fingerprint

lemma Dart.digitGroups_eq {n : Nat} (i : Nat) {bt : Bytes} (h : bt.length = 2 * n) :
    Dart.digitGroups i bt = Sibna.digitGroups i bt := by
  induction n generalizing i bt with
  | zero =>
    rw [List.eq_nil_of_length_eq_zero h]
    rfl
  | succ n ih =>
    obtain ⟨b, c, rest, rfl, hr⟩ := exists_pair h
    rw [Dart.digitGroups, Sibna.digitGroups, ih (i + 1) hr]

lemma shown_eq (a b : Bytes32) (p : Implementation) : shown sha512 hmacSha512 a b p =
    some ⟨display (fingerprint sha512 hmacSha512 a b p) p,
      (fingerprint sha512 hmacSha512 a b p).val⟩ := by
  cases p with
  | core => rfl
  | cpp =>
    have hta : ((sha512 (Cpp.concat a b)).val.take 32).take 30 = (sha512 _).val.take 30 :=
      List.take_take ..
    simp only [display, fingerprint, firstHalf, hta]
    rfl
  | dart =>
    have hca : Dart.calculate hmacSha512 a.val b.val =
        .ok (Dart.ofFingerprint (fingerprint sha512 hmacSha512 a b .dart).val) := by
      rw [Dart.calculate, if_neg (not_not.mpr a.property), if_neg (not_not.mpr b.property)]
      rfl
    have hdi : Dart.bytesToDigits (fingerprint sha512 hmacSha512 a b .dart).val =
        bytesToDigits _ :=
      @Dart.digitGroups_eq 16 0 _ (fingerprint sha512 hmacSha512 a b .dart).property
    rw [shown, hca, display, ← hdi]
    rfl

lemma Cpp.length_formatGroups_le (text : Bytes) :
    (Cpp.formatGroups text).length ≤ (text.length + 4) / 5 * 6 := by
  have hg : ∀ k, ((if 0 < k then [32] else []) ++ (text.drop (5 * k)).take 5).length ≤ 6 := by
    intro k
    have hsp : (if 0 < k then [32] else [] : Bytes).length ≤ 1 := by
      split
      · exact le_rfl
      · exact Nat.zero_le 1
    have hta := List.length_take_le 5 (text.drop (5 * k))
    rw [List.length_append]
    omega
  rw [Cpp.formatGroups, List.length_flatMap]
  refine (List.sum_le_card_nsmul _ 6 ?_).trans_eq ?_
  · simp_all
  · rw [List.length_map, List.length_range, Nat.nsmul_eq_mul]

lemma parsed_display_iff (f : Bytes32) (p q : Implementation) :
    parsed (display f p) q = some f.val ↔ q = .core ∧ p ≠ .cpp := by
  cases q with
  | cpp =>
    rw [parsed, Cpp.parse_fails]
    exact iff_of_false (fun h => by cases h) fun h => by cases h.1
  | dart =>
    rw [parsed, Dart.parse_fails]
    exact iff_of_false (fun h => by cases h) fun h => by cases h.1
  | core =>
    have hdi : parsed (bytesToDigits f) .core = some f.val := by
      rw [parsed, Sibna.SafetyNumber.parse_bytesToDigits]
      rfl
    cases p with
    | core | dart => exact iff_of_true hdi ⟨rfl, (by simp)⟩
    | cpp =>
      -- at most seventy-two characters for eighty digits
      have hl : (Sibna.SafetyNumber.digitsOf (display f .cpp)).length ≠ 80 := by
        have hf := List.length_filter_le isDigit (display f .cpp)
        have hg := Cpp.length_formatGroups_le (Text.hexEncode (f.val.take 30))
        rw [length_hexEncode, List.length_take, f.property] at hg
        rw [display] at hf
        rw [Sibna.SafetyNumber.digitsOf, display]
        omega
      have hp : Sibna.SafetyNumber.parse (display f .cpp) = none := if_pos hl
      rw [parsed, hp]
      exact iff_of_false (by simp) fun h => h.2 rfl

/-- Two implementations have the same fingerprint only if they are one. A number that one of them
shows is read by the core unless it comes from the C++ SDK, and by no other. -/
theorem safety_numbers_agree_iff (h : Unrelated sha512 hmacSha512) (a b : Bytes32)
    (p q : Implementation) : ∃ number number', shown sha512 hmacSha512 a b p = some number ∧
    shown sha512 hmacSha512 a b q = some number' ∧
    (number.fingerprint = number'.fingerprint ↔ p = q) ∧
    (parsed number.text q = some number.fingerprint ↔ q = .core ∧ p ≠ .cpp) := by
  refine ⟨_, _, shown_eq a b p, shown_eq a b q, ?_, parsed_display_iff _ p q⟩
  refine ⟨fun heq => fingerprint_inj h a b (Subtype.ext heq), ?_⟩
  rintro rfl
  rfl

end

def lengthHash (bs : Bytes) : FixedBytes 64 :=
  ⟨toLe 64 (2 * (bs.length % 2 ^ 16)), toLe_length 64 _⟩

def oddHmac (_key _bs : Bytes) : FixedBytes 64 := ⟨toLe 64 1, toLe_length 64 1⟩

lemma unrelated_lengthHash : Unrelated lengthHash oddHmac := by
  have hre : ∀ bs, fromLe (firstHalf (lengthHash bs)).val = 2 * (bs.length % 2 ^ 16) := by
    intro bs
    have hta : (firstHalf (lengthHash bs)).val = toLe 32 (2 * (bs.length % 2 ^ 16)) := rfl
    rw [hta, fromLe_toLe (by omega)]
  constructor
  · intro bs bs' hbs hb' hne heq
    have hl := hre bs
    rw [heq, hre bs'] at hl
    omega
  · intro bs key bs' _ heq
    have ho := hre bs
    rw [heq] at ho
    have hon : fromLe (firstHalf (oddHmac key bs')).val = 1 := rfl
    omega

def firstKey : Bytes32 := ⟨List.replicate 32 1, List.length_replicate⟩

def secondKey : Bytes32 := ⟨List.replicate 32 2, List.length_replicate⟩

theorem core_and_dart_numbers : ∃ number number',
    shown lengthHash oddHmac firstKey secondKey .dart = some number ∧
    shown lengthHash oddHmac firstKey secondKey .core = some number' ∧
    number.fingerprint ≠ number'.fingerprint ∧
    parsed number.text .core = some number.fingerprint := by
  obtain ⟨number, number', hdart, hcore, hsame, hparsed⟩ :=
    safety_numbers_agree_iff unrelated_lengthHash firstKey secondKey .dart .core
  exact ⟨number, number', hdart, hcore, fun h => absurd (hsame.mp h) (by decide),
    hparsed.mpr ⟨rfl, by decide⟩⟩

/-- No two implementations agree, the core does not read what the C++ SDK shows, and no SDK reads
what the core shows, nor what it shows itself. -/
theorem numbers_disagree : ∃ core cpp dart,
    shown lengthHash oddHmac firstKey secondKey .core = some core ∧
    shown lengthHash oddHmac firstKey secondKey .cpp = some cpp ∧
    shown lengthHash oddHmac firstKey secondKey .dart = some dart ∧
    core.fingerprint ≠ cpp.fingerprint ∧ core.fingerprint ≠ dart.fingerprint ∧
    cpp.fingerprint ≠ dart.fingerprint ∧ Sibna.SafetyNumber.parse cpp.text = none ∧
    Cpp.parse core.text =
      .error (.result .invalidArgument "Safety number must be 60 hex digits") ∧
    Dart.parse core.text =
      .error (.validationError .invalidArgument "Safety number must be 60 digits" "safetyNumber") ∧
    Cpp.parse cpp.text = .error (.thrown .invalidArgument) ∧
    Dart.parse dart.text =
      .error (.validationError .invalidArgument "Safety number must be 60 digits" "safetyNumber") ∧
    Dart.parse (List.replicate 60 48) = .error .rangeError := by
  refine ⟨_, _, _, shown_eq _ _ .core, shown_eq _ _ .cpp, shown_eq _ _ .dart, ?_⟩
  decide +kernel

end Sibna.Sdk
