import Sibna.Errors
import Sibna.Lib.Text

/-!
# The random generator

`crypto/random.rs`: pool, rejection sampler and shuffle. `none` stands for a panic.
-/

namespace Sibna

/-- `okm salt ikm info` is the whole output of HKDF-SHA256, of which an expansion gives the first
bytes. -/
structure RandomHashes where
  okm : Bytes → Bytes → Bytes → Nat → UInt8
  sha256 : Bytes → Bytes32

def RandomHashes.expand (H : RandomHashes) (salt ikm info : Bytes) (len : Nat) : Option Bytes :=
  if len ≤ 255 * 32 then some ((List.range len).map (H.okm salt ikm info)) else none

structure SecureRandom where
  entropyPool : FixedBytes 64
  bytesGenerated : Nat
  maxBytesBeforeReseed : Nat

/-- What `OsRng` gives one call: the pool, if it is reseeded, and the bytes of the buffer. -/
structure OsDraws where
  pool : FixedBytes 64
  bytes : Nat → UInt8

def rotateLeft5 (b : UInt8) : UInt8 := (b <<< 5) ||| (b >>> 3)

namespace SecureRandom

def reseed (pool : FixedBytes 64) (rng : SecureRandom) : SecureRandom :=
  { rng with entropyPool := pool, bytesGenerated := 0 }

def reseedIfDue (os : OsDraws) (rng : SecureRandom) (len : Nat) : SecureRandom :=
  if saturatingAdd rng.bytesGenerated len > rng.maxBytesBeforeReseed then rng.reseed os.pool
  else rng

/-- One step of the mixing loop; `i % generated.len()` panics for an empty slice. -/
def mixByte (generated : Bytes) (pool : FixedBytes 64) (step : UInt8 × Nat) :
    Option (FixedBytes 64) :=
  if generated.length = 0 then none
  else some ⟨pool.val.modify (step.2 % 64) fun b =>
      rotateLeft5 (b + step.1) + generated.getD (step.2 % generated.length) 0,
    (List.length_modify ..).trans pool.property⟩

def updateEntropyPool (H : RandomHashes) (pool : FixedBytes 64) (generated : Bytes) :
    Option (FixedBytes 64) :=
  (H.sha256 (pool.val ++ generated)).val.zipIdx.foldlM (mixByte generated) pool

def chunkInfo (offset : Nat) : Bytes :=
  Text.utf8 "SibnaSecureRandom_v3_chunk_" ++ Text.decimal offset

/-- The loop over the chunks of a long buffer, from `offset` on. -/
def fillChunks (H : RandomHashes) (pool osBytes : Bytes) (offset : Nat) (rest : Bytes) : Bytes :=
  if 0 < rest.length then
    let chunk := rest.take 8000
    (H.expand pool osBytes (chunkInfo offset) chunk.length).getD chunk ++
      fillChunks H pool osBytes (offset + chunk.length) (rest.drop 8000)
  else []
termination_by rest.length
decreasing_by simp; omega

def fillBytes (H : RandomHashes) (os : OsDraws) (rng : SecureRandom) (buf : Bytes) :
    Option (Bytes × SecureRandom) := do
  let rng := rng.reseedIfDue os buf.length
  let osBytes := (List.range buf.length).map os.bytes
  let buf := (H.expand rng.entropyPool osBytes (Text.utf8 "SibnaSecureRandom_v3") buf.length).getD
    (fillChunks H rng.entropyPool osBytes 0 buf)
  let pool ← updateEntropyPool H rng.entropyPool buf
  return (buf, { rng with
    entropyPool := pool, bytesGenerated := saturatingAdd rng.bytesGenerated buf.length })

/-- A vector of more than `isize::MAX` bytes is a capacity overflow. -/
def genBytes (H : RandomHashes) (os : OsDraws) (rng : SecureRandom) (len : Nat) :
    Option (Bytes × SecureRandom) :=
  if len < 2 ^ 63 then rng.fillBytes H os (List.replicate len 0) else none

variable {H : RandomHashes} {os : OsDraws} {rng : SecureRandom} {buf : Bytes}

lemma updateEntropyPool_eq_none_iff (pool : FixedBytes 64) (g : Bytes) :
    updateEntropyPool H pool g = none ↔ g = [] := by
  unfold updateEntropyPool
  constructor
  · intro h
    by_contra hne
    have hl : g.length ≠ 0 := by simpa using hne
    generalize (H.sha256 (pool.val ++ g)).val.zipIdx = st at h
    induction st generalizing pool with
    | nil => cases h
    | cons step st ih =>
      rw [List.foldlM_cons, mixByte, if_neg hl] at h
      exact ih _ h
  · rintro rfl
    generalize H.sha256 (pool.val ++ []) = hash
    obtain ⟨hash, hl⟩ := hash
    cases hash with
    | nil => cases hl
    | cons b hash => rfl

lemma expand_of_le (salt ikm info : Bytes) {len : Nat} (h : len ≤ 8160) :
    H.expand salt ikm info len = some ((List.range len).map (H.okm salt ikm info)) := if_pos h

lemma fillChunks_eq (pool o : Bytes) (of : Nat) (rest : Bytes) :
    fillChunks H pool o of rest = (List.range rest.length).map fun i =>
      H.okm pool o (chunkInfo (of + i / 8000 * 8000)) (i % 8000) := by
  fun_induction fillChunks H pool o of rest with
  | case1 of rest hpo ch ih =>
    have hch : ch.length = min 8000 rest.length := List.length_take
    have hl : rest.length = ch.length + (rest.drop 8000).length := by grind
    rw [expand_of_le _ _ _ (by omega), Option.getD_some, ih, hl, List.range_add,
      List.map_append, List.map_map]
    congr 1
    · refine List.map_congr_left fun i hi => ?_
      have hi : i < 8000 := by
        have := List.mem_range.mp hi
        omega
      rw [Nat.div_eq_of_lt hi, Nat.mod_eq_of_lt hi, Nat.zero_mul, Nat.add_zero]
    · refine List.map_congr_left fun i hi => ?_
      -- a byte after the chunk: the chunk was a whole one
      have hf : ch.length = 8000 := by
        have := List.mem_range.mp hi
        rw [List.length_drop] at this
        omega
      rw [Function.comp_apply, hf, show of + (8000 + i) / 8000 * 8000 =
        of + 8000 + i / 8000 * 8000 by omega, show (8000 + i) % 8000 = i % 8000 by omega]
  | case2 of rest hpo => simp_all

/-- Byte `i` of a buffer of `len` bytes, as the HKDF gives it: one expansion, or one for each chunk
where the buffer is beyond the limit of one. -/
def outputByte (H : RandomHashes) (pool osBytes : Bytes) (len i : Nat) : UInt8 :=
  if len ≤ 8160 then H.okm pool osBytes (Text.utf8 "SibnaSecureRandom_v3") i
  else H.okm pool osBytes (chunkInfo (i / 8000 * 8000)) (i % 8000)

/-- What a request of `len` bytes gives: every byte is one of the HKDF, and the counter stays
within the limit and one request. -/
structure Filled (H : RandomHashes) (os : OsDraws) (rng : SecureRandom) (len : Nat)
    (result : Bytes × SecureRandom) : Prop where
  output : result.1 = (List.range len).map (outputByte H (rng.reseedIfDue os len).entropyPool
    ((List.range len).map os.bytes) len)
  limit : result.2.maxBytesBeforeReseed = rng.maxBytesBeforeReseed
  counter : result.2.bytesGenerated ≤ rng.maxBytesBeforeReseed + len

lemma output_eq (pool o : Bytes) (buf : Bytes) :
    (H.expand pool o (Text.utf8 "SibnaSecureRandom_v3") buf.length).getD
        (fillChunks H pool o 0 buf) =
      (List.range buf.length).map (outputByte H pool o buf.length) := by
  by_cases h : buf.length ≤ 8160
  · rw [expand_of_le _ _ _ h]
    exact List.map_congr_left fun i _ => (if_pos h).symm
  · rw [RandomHashes.expand, if_neg h, Option.getD_none, fillChunks_eq]
    refine List.map_congr_left fun i _ => ?_
    rw [outputByte, if_neg h, Nat.zero_add]

lemma reseedIfDue_limit :
    (rng.reseedIfDue os buf.length).maxBytesBeforeReseed = rng.maxBytesBeforeReseed := by
  unfold reseedIfDue
  split <;> rfl

lemma counter_le (os : OsDraws) (rng : SecureRandom) (len : Nat) :
    saturatingAdd (rng.reseedIfDue os len).bytesGenerated len ≤ rng.maxBytesBeforeReseed + len := by
  unfold reseedIfDue
  split
  · simp only [reseed, saturatingAdd]
    omega
  · omega

lemma fillBytes_complete (H : RandomHashes) (os : OsDraws) (rng : SecureRandom) (buf : Bytes) :
    (fillBytes H os rng buf = none ↔ buf = []) ∧ ∀ r ∈ fillBytes H os rng buf,
    Filled H os rng buf.length r := by
  unfold fillBytes
  simp only [output_eq]
  generalize ho : List.map _ (List.range buf.length) = out
  have hl : out.length = buf.length := by grind
  have hpo := updateEntropyPool_eq_none_iff (H := H) (rng.reseedIfDue os buf.length).entropyPool out
  have hem : out = [] ↔ buf = [] := by grind
  rw [hem] at hpo
  cases hm : updateEntropyPool H (rng.reseedIfDue os buf.length).entropyPool out with
  | none => exact ⟨iff_of_true rfl (hpo.mp hm), nofun⟩
  | some pool =>
    refine ⟨iff_of_false nofun fun hb => ?_, ?_⟩
    · simp_all
    rintro r hr
    cases hr
    refine ⟨ho.symm, reseedIfDue_limit, ?_⟩
    rw [hl]
    exact counter_le os rng buf.length

/-- A request completes unless it is for no byte at all (or, for a new vector, for more bytes than
one can hold). -/
theorem requests_complete_iff (H : RandomHashes) (os : OsDraws) (rng : SecureRandom) :
    (∀ buf : Bytes, (fillBytes H os rng buf = none ↔ buf = []) ∧
      ∀ r ∈ fillBytes H os rng buf, Filled H os rng buf.length r) ∧
    ∀ len : Nat, (genBytes H os rng len = none ↔ len = 0 ∨ 2 ^ 63 ≤ len) ∧
      ∀ r ∈ genBytes H os rng len, Filled H os rng len r := by
  refine ⟨fillBytes_complete H os rng, fun len => ?_⟩
  obtain ⟨hnone, hsome⟩ := fillBytes_complete H os rng _
  rw [List.length_replicate] at hsome
  by_cases hlen : len < 2 ^ 63
  · rw [genBytes, if_pos hlen, hnone, List.replicate_eq_nil_iff]
    exact ⟨⟨.inl, fun h => h.resolve_right (by omega)⟩, hsome⟩
  · rw [genBytes, if_neg hlen]
    exact ⟨iff_of_true rfl (.inr (by omega)), nofun⟩

theorem empty_request_panics :
    (∀ (H : RandomHashes) (os : OsDraws) (rng : SecureRandom), fillBytes H os rng [] = none) ∧
    ∀ (H : RandomHashes) (os : OsDraws) (rng : SecureRandom), genBytes H os rng 0 = none :=
  ⟨fun H os rng => (fillBytes_complete H os rng []).1.mpr rfl,
    fun H os rng => (fillBytes_complete H os rng []).1.mpr rfl⟩

/-- `u64::next_power_of_two`; `none` is the overflow of its last addition. -/
def nextPowerOfTwo (n : UInt64) : Option UInt64 :=
  let oneLess := if n ≤ 1 then 0 else 2 ^ ((n - 1).toNat.log2 + 1) - 1
  if oneLess + 1 < 2 ^ 64 then some (UInt64.ofNat (oneLess + 1)) else none

/-- The loop of `gen_range` from the word at `pos` on: what it returns and the next position, if it
returns within `fuel` words. -/
def genRangeLoop (words : Nat → UInt64) (mask max : UInt64) : Nat → Nat → Option (UInt64 × Nat)
  | 0, _ => none
  | fuel + 1, pos =>
    let val := words pos &&& mask
    if val < max then some (val, pos + 1) else genRangeLoop words mask max fuel (pos + 1)

/-- `words` are what the calls of `next_u64` return, in their order. -/
def genRange (words : Nat → UInt64) (fuel : Nat) (max : UInt64) (pos : Nat) :
    Option (Option (UInt64 × Nat)) :=
  if max = 0 then some (some (0, pos))
  else (nextPowerOfTwo max).map fun p => genRangeLoop words (p - 1) max fuel pos

variable {T : Type}

def swap (slice : List T) (i j : Nat) : Option (List T) :=
  match slice[i]?, slice[j]? with
  | some x, some y => some ((slice.set i y).set j x)
  | _, _ => none

def shuffleLoop (words : Nat → UInt64) (fuel : Nat) :
    Nat → List T → Nat → Option (Option (List T))
  | 0, slice, _ => some (some slice)
  | i + 1, slice, pos => do
    match ← genRange words fuel (UInt64.ofNat (i + 1 + 1)) pos with
    | none => return none
    | some (j, pos) => shuffleLoop words fuel i (← swap slice (i + 1) j.toNat) pos

/-- `rng` is `none` where the generator of the thread cannot be created. -/
def shuffle (rng : Option (Nat → UInt64)) (fuel : Nat) (slice : List T) :
    Option (Option (List T)) :=
  if slice.length ≤ 1 then some (some slice)
  else match rng with
    | none => some (some slice)
    | some words => shuffleLoop words fuel (slice.length - 1) slice 0

/-- `gen_range` as a sampler below `max`: its mask is computed and admits fewer than twice `max`
values, what it returns is below `max`, it returns with the first word accepted, and every value
below `max` is returned for some words. -/
structure Samples (max : UInt64) : Prop where
  mask : ∃ p, nextPowerOfTwo max = some p ∧ (p - 1).toNat + 1 < 2 * max.toNat
  below : ∀ words fuel pos, ∃ o, genRange words fuel max pos = some o ∧ ∀ r ∈ o, r.1 < max
  returns : ∀ words pos p n, nextPowerOfTwo max = some p → words (pos + n) &&& (p - 1) < max →
    ∃ r, ∀ fuel, genRange words (fuel + n + 1) max pos = some (some r)
  all : ∀ v < max, ∃ words, ∀ fuel pos,
    genRange words (fuel + 1) max pos = some (some (v, pos + 1))

/-- Every call of `gen_range` meets a word that it accepts. -/
def Fair (words : Nat → UInt64) : Prop :=
  ∀ max p pos, max ≠ 0 → nextPowerOfTwo max = some p → ∃ n, words (pos + n) &&& (p - 1) < max

lemma nextPowerOfTwo_eq {max : UInt64} (h : max ≠ 0) :
    ∃ k : Nat, max.toNat ≤ 2 ^ k ∧ 2 ^ k < 2 * max.toNat ∧
      nextPowerOfTwo max = if 2 ^ k < 2 ^ 64 then some (UInt64.ofNat (2 ^ k)) else none := by
  have hpo : max.toNat ≠ 0 := fun h0 => h (UInt64.toNat_inj.mp h0)
  by_cases ho : max ≤ 1
  · have hm : max.toNat ≤ 1 := UInt64.le_iff_toNat_le.mp ho
    refine ⟨0, by omega, by omega, ?_⟩
    simp [nextPowerOfTwo, ho]
  have hm : ¬ max.toNat ≤ 1 := fun hle => ho (UInt64.le_iff_toNat_le.mpr hle)
  have hpr : (max - 1).toNat = max.toNat - 1 :=
    UInt64.toNat_sub_of_le _ _ (UInt64.le_iff_toNat_le.mpr (show 1 ≤ max.toNat by omega))
  have hl := Nat.log2_self_le (n := (max - 1).toNat) (by omega)
  have hhi := Nat.lt_log2_self (n := (max - 1).toNat)
  refine ⟨(max - 1).toNat.log2 + 1, by omega, by rw [Nat.pow_succ]; omega, ?_⟩
  rw [nextPowerOfTwo, if_neg ho, Nat.sub_add_cancel Nat.one_le_two_pow]

lemma nextPowerOfTwo_of_le {max : UInt64} (h : max ≠ 0) (hm : max.toNat ≤ 2 ^ 63) : ∃ p k,
    nextPowerOfTwo max = some p ∧ (p - 1).toNat = 2 ^ k - 1 ∧ max.toNat ≤ 2 ^ k ∧
    2 ^ k < 2 * max.toNat := by
  obtain ⟨k, hl, hhi, heq⟩ := nextPowerOfTwo_eq h
  have hk : 2 ^ k < 2 ^ 64 := by omega
  have ho : 1 ≤ 2 ^ k := Nat.one_le_two_pow
  rw [if_pos hk] at heq
  refine ⟨_, k, heq, ?_, hl, hhi⟩
  rw [UInt64.toNat_sub_of_le, UInt64.toNat_ofNat_of_lt' hk]
  · rfl
  · rwa [UInt64.le_iff_toNat_le, UInt64.toNat_ofNat_of_lt' hk]

lemma nextPowerOfTwo_of_lt {max : UInt64} (hm : 2 ^ 63 < max.toNat) :
    nextPowerOfTwo max = none := by
  obtain ⟨k, hl, -, heq⟩ := nextPowerOfTwo_eq (show max ≠ 0 by rintro rfl; simp at hm)
  have hk : 63 < k := (Nat.pow_lt_pow_iff_right (by decide)).mp (hm.trans_le hl)
  rw [heq, if_neg (Nat.not_lt.mpr (Nat.pow_le_pow_right (by decide) hk))]

section
variable {words : Nat → UInt64} {mask max : UInt64} {fuel pos : Nat}

lemma genRangeLoop_lt {r : UInt64 × Nat}
    (h : genRangeLoop words mask max fuel pos = some r) : r.1 < max := by
  induction fuel generalizing pos with
  | zero => cases h
  | succ fuel ih =>
    rw [genRangeLoop] at h
    split at h
    · grind
    · exact ih h

lemma genRangeLoop_returns (pos : Nat) {n : Nat} (h : words (pos + n) &&& mask < max) :
    ∃ r, ∀ fuel, genRangeLoop words mask max (fuel + n + 1) pos = some r := by
  induction n generalizing pos with
  | zero => exact ⟨_, fun fuel => if_pos h⟩
  | succ n ih =>
    by_cases hn : words pos &&& mask < max
    · exact ⟨_, fun fuel => if_pos hn⟩
    · obtain ⟨r, hr⟩ := ih (pos + 1) (by rwa [Nat.add_assoc, Nat.add_comm 1])
      exact ⟨r, fun fuel => (if_neg hn).trans (hr fuel)⟩

lemma samples_of_le (hne : max ≠ 0) (hma : max.toNat ≤ 2 ^ 63) : Samples max := by
  obtain ⟨p, k, hp, hm, hl, hhi⟩ := nextPowerOfTwo_of_le hne hma
  have hra : ∀ words fuel pos, genRange words fuel max pos =
      some (genRangeLoop words (p - 1) max fuel pos) := by
    intro words fuel pos
    rw [genRange, if_neg hne, hp]
    rfl
  refine ⟨⟨p, hp, by omega⟩, fun words fuel pos => ⟨_, hra .., fun r hr => genRangeLoop_lt hr⟩,
    ?_, fun v hv => ⟨fun _ => v, fun fuel pos => ?_⟩⟩
  · intro words pos p' n hp' hn
    cases hp.symm.trans hp'
    obtain ⟨r, hr⟩ := genRangeLoop_returns pos hn
    exact ⟨r, fun fuel => by rw [hra, hr fuel]⟩
  · have hv' : v &&& (p - 1) = v := by
      rw [← UInt64.toNat_inj, UInt64.toNat_and, hm, Nat.and_two_pow_sub_one_eq_mod]
      exact Nat.mod_eq_of_lt ((UInt64.lt_iff_toNat_lt.mp hv).trans_le hl)
    rw [hra, genRangeLoop, hv', if_pos hv]

lemma genRange_of_lt (hm : 2 ^ 63 < max.toNat) : genRange words fuel max pos = none := by
  rw [genRange, if_neg (by rintro rfl; simp at hm), nextPowerOfTwo_of_lt hm]
  rfl

end

lemma swap_perm {sl : List T} {i j : Nat} (hi : i < sl.length) (hj : j < sl.length) :
    ∃ slice', swap sl i j = some slice' ∧ slice'.Perm sl := by
  refine ⟨_, ?_, List.set_set_perm hi hj⟩
  rw [swap, List.getElem?_eq_getElem hi, List.getElem?_eq_getElem hj]

section
variable {i : Nat} (h : i + 1 ≤ 2 ^ 63)
include h

lemma toNat_bound : (UInt64.ofNat (i + 1)).toNat = i + 1 :=
  UInt64.toNat_ofNat_of_lt' (h.trans_lt (by decide))

lemma bound_ne_zero : UInt64.ofNat (i + 1) ≠ 0 := by
  intro h0
  have hb := toNat_bound h
  rw [h0] at hb
  cases hb

lemma samples_bound : Samples (UInt64.ofNat (i + 1)) :=
  samples_of_le (bound_ne_zero h) (by rwa [toNat_bound h])

end

lemma swap_below {sl : List T} {i : Nat} {j : UInt64} (hi : i < sl.length)
    (hb : i + 1 ≤ 2 ^ 63) (hj : j < UInt64.ofNat (i + 1)) :
    ∃ slice', swap sl i j.toNat = some slice' ∧ slice'.Perm sl := by
  have hj : j.toNat < i + 1 := by
    rwa [← toNat_bound hb]
  exact swap_perm hi (by omega)

lemma shuffleLoop_perm (words : Nat → UInt64) (fuel : Nat) {i : Nat} {sl : List T} (pos : Nat)
    (hi : i < sl.length) (hb : i + 1 ≤ 2 ^ 63) :
    ∃ o, shuffleLoop words fuel i sl pos = some o ∧ ∀ slice' ∈ o, slice'.Perm sl := by
  induction i generalizing sl pos with
  | zero => exact ⟨_, rfl, fun _ h => Option.some.inj h ▸ .refl _⟩
  | succ i ih =>
    obtain ⟨o, ho, hbe⟩ := (samples_bound hb).below words fuel pos
    simp only [shuffleLoop, ho]
    cases o with
    | none => exact ⟨none, rfl, nofun⟩
    | some r =>
      obtain ⟨slice', hsw, hpe⟩ := swap_below hi hb (hbe r rfl)
      obtain ⟨o, ho, hal⟩ := ih r.2 (show i < slice'.length by rw [hpe.length_eq]; omega)
        (by omega)
      simp only [Option.bind_eq_bind, Option.bind_some, hsw]
      exact ⟨o, ho, fun s'' h => (hal s'' h).trans hpe⟩

lemma shuffleLoop_returns {words : Nat → UInt64} (hf : Fair words) {i : Nat} {sl : List T}
    (pos : Nat) (hi : i < sl.length) (hb : i + 1 ≤ 2 ^ 63) :
    ∃ least, ∀ fuel ≥ least, ∃ slice', shuffleLoop words fuel i sl pos = some (some slice') := by
  induction i generalizing sl pos with
  | zero => exact ⟨0, fun _ _ => ⟨sl, rfl⟩⟩
  | succ i ih =>
    obtain ⟨p, hp, -⟩ := (samples_bound hb).mask
    obtain ⟨n, hn⟩ := hf _ p pos (bound_ne_zero hb) hp
    obtain ⟨r, hr⟩ := (samples_bound hb).returns words pos p n hp hn
    have hbe : r.1 < UInt64.ofNat (i + 1 + 1) := by
      obtain ⟨o, ho, hbe⟩ := (samples_bound hb).below words (0 + n + 1) pos
      rw [hr] at ho
      cases ho
      exact hbe r rfl
    obtain ⟨slice', hsw, hpe⟩ := swap_below hi hb hbe
    obtain ⟨least, hl⟩ := ih r.2 (show i < slice'.length by rw [hpe.length_eq]; omega)
      (by omega)
    refine ⟨max least (n + 1), fun fuel hfu => ?_⟩
    have hra := hr (fuel - n - 1)
    rw [show fuel - n - 1 + n + 1 = fuel by omega] at hra
    obtain ⟨s'', h⟩ := hl fuel (by omega)
    refine ⟨s'', ?_⟩
    simp only [shuffleLoop, hra, Option.bind_eq_bind, Option.bind_some, hsw]
    exact h

lemma shuffle_of_short {rng : Option (Nat → UInt64)} {sl : List T} (fuel : Nat)
    (h : rng = none ∨ sl.length ≤ 1) : shuffle rng fuel sl = some (some sl) := by
  unfold shuffle
  split
  · rfl
  · simp_all

lemma shuffle_of_long (words : Nat → UInt64) {sl : List T} (fuel : Nat) (hl : 2 ^ 63 < sl.length)
    (hm : sl.length < 2 ^ 64) : shuffle (some words) fuel sl = none := by
  obtain ⟨i, hi⟩ : ∃ i, sl.length = i + 2 := ⟨sl.length - 2, by omega⟩
  have hra : genRange words fuel (UInt64.ofNat (i + 2)) 0 = none := by
    refine genRange_of_lt ?_
    rw [UInt64.toNat_ofNat_of_lt' (hi ▸ hm)]
    omega
  rw [shuffle, if_neg (by omega), hi]
  simp only [Nat.add_succ_sub_one, shuffleLoop, hra]
  rfl

/-- The sampler and the shuffle are right for all bounds and slices up to `2^63`, and beyond it the
mask overflows. (A longer slice has elements of size zero.) -/
theorem sampling_exact (max : UInt64) :
    (max ≠ 0 → (Samples max ↔ max.toNat ≤ 2 ^ 63)) ∧
    ∀ (T : Type) (rng : Option (Nat → UInt64)) (slice : List T), slice.length < 2 ^ 64 →
      ((∀ fuel, shuffle rng fuel slice ≠ none) ↔ rng = none ∨ slice.length ≤ 2 ^ 63) ∧
      (∀ fuel slice', shuffle rng fuel slice = some (some slice') → slice'.Perm slice) ∧
      (slice.length ≤ 2 ^ 63 → (∀ words ∈ rng, Fair words) →
        ∃ least, ∀ fuel ≥ least, ∃ slice', shuffle rng fuel slice = some (some slice')) := by
  refine ⟨fun hne => ⟨fun h => ?_, samples_of_le hne⟩, fun T rng slice hmax => ?_⟩
  · obtain ⟨p, hp, -⟩ := h.mask
    by_contra hlt
    rw [nextPowerOfTwo_of_lt (Nat.not_le.mp hlt)] at hp
    cases hp
  · by_cases hshort : rng = none ∨ slice.length ≤ 1
    · simp only [shuffle_of_short _ hshort]
      refine ⟨iff_of_true nofun (hshort.imp_right (by omega)), fun _ _ h => ?_,
        fun _ _ => ⟨0, fun _ _ => ⟨slice, rfl⟩⟩⟩
      cases h
      exact .refl _
    · obtain ⟨hrng, hlong⟩ := not_or.mp hshort
      obtain ⟨words, rfl⟩ := Option.ne_none_iff_exists'.mp hrng
      have hloop : ∀ fuel, shuffle (some words) fuel slice = shuffleLoop words fuel _ slice 0 :=
        fun fuel => if_neg hlong
      by_cases hbound : slice.length ≤ 2 ^ 63
      · have hperm := fun fuel => shuffleLoop_perm words fuel 0
          (show slice.length - 1 < slice.length by omega) (by omega)
        simp only [hloop]
        refine ⟨iff_of_true (fun fuel h => ?_) (.inr hbound), fun fuel slice' h => ?_,
          fun _ hfair => shuffleLoop_returns (hfair words rfl) 0 (by omega) (by omega)⟩
        · obtain ⟨o, ho, -⟩ := hperm fuel
          rw [ho] at h
          cases h
        obtain ⟨o, ho, hall⟩ := hperm fuel
        rw [ho] at h
        cases h
        exact hall slice' rfl
      · have hnone := fun fuel => shuffle_of_long words fuel (Nat.not_le.mp hbound) hmax
        simp only [hnone]
        exact ⟨iff_of_false (fun h => h 0 rfl) (not_or.mpr ⟨hrng, hbound⟩), nofun,
          fun h => absurd h hbound⟩

theorem dice_and_deck : Samples 6 ∧ ∃ least, ∀ fuel ≥ least, ∃ slice',
    shuffle (some fun _ => 0) fuel [1, 2, 3] = some (some slice') :=
  ⟨((sampling_exact 6).1 (by decide)).mpr (by decide),
    ((sampling_exact 6).2 Nat (some fun _ => 0) [1, 2, 3] (by decide)).2.2 (by decide) (by
      rintro words ⟨⟩ max p pos hmax -
      exact ⟨0, by simpa [UInt64.pos_iff_ne_zero] using hmax⟩)⟩

theorem large_bound_panics : (0x8000000000000001 : UInt64) ≠ 0 ∧
    ∀ words fuel pos, genRange words fuel 0x8000000000000001 pos = none :=
  ⟨by decide, fun _ _ _ => genRange_of_lt (by decide)⟩

end SecureRandom

end Sibna
