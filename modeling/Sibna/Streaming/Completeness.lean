import Sibna.Streaming

/-!
# Whole streams

What opens is a sequence of chunks that were sealed, with consecutive counters. `decrypt_stream`
takes nothing back when a later chunk fails.
-/

namespace Sibna

open LittleEndian Framing

variable {S : Suite}

def countedChunks (d : Bytes) : Option (List Bytes × Bytes) :=
  if d.length < 8 then none else chunkField.readAll (fromLe (d.take 8)) (d.drop 8)

structure GenuineStream (S : Suite) (key : S.Key) where
  sender : StreamingEncryptor S
  env : SealEnv
  data : Bytes
  bytes : Bytes
  after : StreamingEncryptor S
  cipher_eq : sender.encryptor.cipher = key
  number_lt : sender.encryptor.messageNumber < 2 ^ 64
  length_lt : data.length < 2 ^ 63
  sealed : sender.encryptStream env data = (.ok bytes, after)

/-- The counted chunks are as many as those of the stream, each of them is one of them, and nothing
follows. A counter at its end does not tell chunks apart; then they stand in the stream's order. -/
def GenuineStream.MadeOf {key : S.Key} (x : GenuineStream S key) (d : Bytes) : Prop :=
  ∃ own wires, countedChunks x.bytes = some (own, []) ∧ countedChunks d = some (wires, []) ∧
    wires.length = own.length ∧ (∀ w ∈ wires, w ∈ own) ∧
    (2 ^ 64 - 1 ≤ x.after.chunkCounter → wires = own)

lemma countedChunks_append {co : Nat} (hco : co < 256 ^ 8) (rest : Bytes) :
    countedChunks (toLe 8 co ++ rest) = chunkField.readAll co rest := by
  obtain ⟨hl, hre, hr⟩ := StreamingEncryptor.count_append hco rest
  rw [countedChunks, if_neg hl, hre, hr]

lemma eq_of_countedChunks {d rest : Bytes} {wires : List Bytes}
    (h : countedChunks d = some (wires, rest)) :
    d = toLe 8 wires.length ++ (chunkField.frames wires ++ rest) := by
  unfold countedChunks at h
  split at h
  · cases h
  rename_i hlo
  obtain ⟨hr, hl, -⟩ := LengthField.eq_of_readAll h
  have he := List.length_take_of_le (Nat.not_lt.mp hlo)
  have hco := toLe_fromLe (d.take 8)
  rw [he, ← hl] at hco
  rw [hco, ← hr, List.take_append_drop]

namespace Encryptor

lemma Sealed.Under.eq_of_bytes (hA : S.CorrectAead) (hB : S.BindingAead) {key : S.Key}
    {x y : Sealed} (hx : x.Under key) (hy : y.Under key) (h : x.bytes = y.bytes) : x = y := by
  obtain ⟨n, t, -, -, no, hxb⟩ := hx
  obtain ⟨n', t', -, -, no', hyb⟩ := hy
  have hby := hxb.symm.trans (h.trans hyb)
  obtain ⟨hh, hr⟩ := List.append_inj hby (by simp)
  obtain ⟨hn, hb⟩ := List.append_inj hr (no.property.trans no'.property.symm)
  rw [← hh, ← hn] at hb
  have hne : ∀ ad : Bytes, ad ++ buildHeader n t ≠ [] := fun ad =>
    List.append_ne_nil_of_right_ne_nil _ (List.ne_nil_of_length_pos (by simp))
  have ho := hA.decrypt_encrypt key no.val (y.associatedData ++ buildHeader n t) y.plaintext
  rw [← hb] at ho
  have had := hB (hne _) (hne _) ho
  rw [had, hA.decrypt_encrypt] at ho
  cases x
  cases y
  simp_all

lemma decryptMessage_sealed (hA : S.CorrectAead) (hB : S.BindingAead) {key : S.Key}
    {e e' : Encryptor S} {clock : Clock} {x : Sealed} {ad p : Bytes} (hk : e.cipher = key)
    (hx : x.Under key) (h : e.decryptMessage clock x.bytes ad = (.ok p, e')) :
    x.associatedData = ad ∧ p = x.plaintext := by
  have hf : (e.decryptMessage clock x.bytes ad).1 = .ok p := by rw [h]
  by_cases hpr : (⟨clock, x, ad⟩ : Delivery).Proper
  · have ho := decryptMessage_proper hA hk hx hpr
    rw [hf] at ho
    split at ho
    · cases ho
    · exact ⟨hpr.1.symm, Except.ok.inj ho⟩
  · obtain ⟨err, her⟩ := decryptMessage_not_proper hA hB hk hx hpr
    rw [hf] at her
    cases her

end Encryptor

namespace StreamingEncryptor
variable {key : S.Key}

def Counted : Nat → List Encryptor.Sealed → Prop
  | _, [] => True
  | counter, x :: xs => x.associatedData = toLe 8 counter ∧ Counted (saturatingAdd counter 1) xs

variable {counter : Nat}

lemma SealedBy.counted {env : SealEnv} {size : Nat} {data : Bytes} {i n : Nat}
    {chunks : List Encryptor.Sealed} (h : SealedBy key env size data i counter n chunks) :
    Counted counter chunks := by
  induction chunks generalizing i counter n with
  | nil => trivial
  | cons x xs ih => exact ⟨h.1.2.2.1, ih h.2⟩

lemma Counted.getElem {xs : List Encryptor.Sealed} (h : Counted counter xs)
    (hco : counter < 2 ^ 64) (k : Nat) (hk : k < xs.length) :
    (xs.get ⟨k, hk⟩).associatedData = toLe 8 (saturatingAdd counter k) := by
  induction xs generalizing counter k with
  | nil => cases hk
  | cons x xs ih =>
    cases k with
    | zero =>
      rw [saturatingAdd_zero hco]
      exact h.1
    | succ k =>
      rw [← saturatingAdd_succ]
      exact ih h.2 (saturatingAdd_lt _ _) k _

lemma Counted.eq_of_mem {c' : Nat} {xs ys : List Encryptor.Sealed} (hxs : Counted counter xs)
    (hys : Counted c' ys) (hco : counter < 2 ^ 64) (hen : c' + ys.length < 2 ^ 64 - 1)
    (hl : xs.length = ys.length) (hm : ∀ x ∈ xs, x ∈ ys) : xs = ys := by
  -- the counter of a chunk says where it stands in the stream
  have hpl : ∀ k (hk : k < xs.length), ∃ j, ∃ hj : j < ys.length,
      xs.get ⟨k, hk⟩ = ys.get ⟨j, hj⟩ ∧ saturatingAdd counter k = c' + j := by
    intro k hk
    obtain ⟨⟨j, hj⟩, hg⟩ := List.mem_iff_get.mp (hm _ (List.get_mem xs ⟨k, hk⟩))
    have hk' := hxs.getElem hco k hk
    have hj' := hys.getElem (by omega) j hj
    rw [← hg, hj'] at hk'
    have hf := congrArg fromLe hk'
    rw [fromLe_toLe (saturatingAdd_lt _ _), fromLe_toLe (saturatingAdd_lt _ _)] at hf
    refine ⟨j, hj, hg.symm, ?_⟩
    rw [← hf, saturatingAdd]
    omega
  refine List.ext_get hl fun k hk hk' => ?_
  obtain ⟨f, hfi, -, hcf⟩ := hpl 0 (by omega)
  obtain ⟨last, hla, -, hcl⟩ := hpl (xs.length - 1) (by omega)
  obtain ⟨j, hj, heq, hcj⟩ := hpl k hk
  rw [saturatingAdd] at hcf hcl hcj
  have hsa : j = k := by omega
  subst hsa
  exact heq

section
variable {clock : Nat → Clock} {left i : Nat} {data rest result : Bytes} {wires : List Bytes}
  {chunks : List Encryptor.Sealed} {r : StreamingEncryptor S}

lemma decryptChunks_sealed (hA : S.CorrectAead) (hB : S.BindingAead)
    (hu : ∀ x ∈ chunks, x.Under key) (hk : r.encryptor.cipher = key)
    (hre : chunkField.readAll left data = some (wires, rest))
    (hm : ∀ w ∈ wires, w ∈ chunks.map Encryptor.Sealed.bytes)
    (hok : (decryptChunks clock left i data r).1 = .ok result) :
    ∃ xs, (∀ x ∈ xs, x ∈ chunks) ∧ xs.map Encryptor.Sealed.bytes = wires ∧
      result = xs.flatMap Encryptor.Sealed.plaintext ∧ Counted r.chunkCounter xs := by
  induction left generalizing i data r wires result with
  | zero =>
    obtain ⟨rfl, -⟩ := Prod.mk.inj (Option.some.inj hre)
    exact ⟨[], nofun, rfl, (Except.ok.inj hok).symm, trivial⟩
  | succ left ih =>
    obtain ⟨wire, data', ch, en, o, hf, ho, hot, rfl⟩ :=
      decryptChunks_ok hok
    rw [LengthField.readAll, hf, Option.bind_some] at hre
    obtain ⟨⟨w', rest'⟩, ha, heq⟩ := Option.map_eq_some_iff.mp hre
    cases heq
    obtain ⟨hwi, hw⟩ := List.forall_mem_cons.mp hm
    obtain ⟨x, hx, rfl⟩ := List.mem_map.mp hwi
    obtain ⟨had, rfl⟩ := Encryptor.decryptMessage_sealed hA hB hk (hu x hx) ho
    have hci : (r.advance en).encryptor.cipher = key := by
      have hsa := Encryptor.decryptMessage_cipher r.encryptor (clock i) x.bytes
        (toLe 8 r.chunkCounter)
      rwa [ho, hk] at hsa
    obtain ⟨xs, hxs, rfl, rfl, hco⟩ := ih hci ha hw hot
    exact ⟨x :: xs, List.forall_mem_cons.mpr ⟨hx, hxs⟩, rfl, rfl, had, hco⟩

end

end StreamingEncryptor

namespace GenuineStream
variable {key : S.Key}

structure Holds (x : GenuineStream S key) (chunks : List Encryptor.Sealed) : Prop where
  under : ∀ y ∈ chunks, y.Under key
  counted : StreamingEncryptor.Counted x.sender.chunkCounter chunks
  data_eq : chunks.flatMap Encryptor.Sealed.plaintext = x.data
  after_eq : x.after.chunkCounter = saturatingAdd x.sender.chunkCounter chunks.length
  countedChunks_eq : countedChunks x.bytes = some (chunks.map Encryptor.Sealed.bytes, [])

lemma exists_holds (hT : S.ShortTag key) (x : GenuineStream S key) : ∃ chunks, x.Holds chunks := by
  obtain ⟨⟨chunks, hse, hl, hb⟩, -, haf⟩ :=
    StreamingEncryptor.encryptStream_ok x.number_lt x.sealed
  rw [x.cipher_eq] at hse
  have hco : chunks.length < 256 ^ 8 := by
    have hda := x.length_lt
    rw [hl, numChunks, x.sender.chunkSize_eq]
    omega
  have hre := LengthField.readAll_frames (hse.fit hT x.sender.chunkSize_eq) []
  rw [List.length_map, List.append_nil] at hre
  refine ⟨chunks, hse.under, hse.counted, hse.flatMap_plaintext x.sender.chunkSize_pos hl, ?_, ?_⟩
  · rwa [hl]
  · rwa [hb, countedChunks_append hco]

lemma Holds.eq_of_opened (hA : S.CorrectAead) (hB : S.BindingAead) {x : GenuineStream S key}
    {chunks xs : List Encryptor.Sealed} (h : x.Holds chunks) {counter : Nat}
    (hco : counter < 2 ^ 64) (hcu : StreamingEncryptor.Counted counter xs)
    (hm : ∀ y ∈ xs, y ∈ chunks) (hl : xs.length = chunks.length)
    (hen : 2 ^ 64 - 1 ≤ x.after.chunkCounter →
      xs.map Encryptor.Sealed.bytes = chunks.map Encryptor.Sealed.bytes) : xs = chunks := by
  have haf := h.after_eq
  rw [saturatingAdd] at haf
  by_cases hla : 2 ^ 64 - 1 ≤ x.after.chunkCounter
  · refine List.ext_get hl fun k hk hk' => ?_
    refine (h.under _ (hm _ (List.get_mem xs _))).eq_of_bytes hA hB
      (h.under _ (List.get_mem chunks _)) ?_
    have hg := List.getElem_of_eq (hen hla) (by rwa [List.length_map] : k < _)
    simpa using hg
  · exact hcu.eq_of_mem h.counted hco (by omega) hl hm

/-- A byte string that opens is a whole stream, and opens to its data, if it is made of the chunks
of the stream, and of all of them. -/
theorem opened_whole_iff (hA : S.CorrectAead) (hB : S.BindingAead) (hT : S.ShortTag key)
    (streams : Set (GenuineStream S key)) {receiver : StreamingEncryptor S}
    (hreceiver : receiver.encryptor.cipher = key) (clock : Nat → Clock) (d result : Bytes)
    (hok : (receiver.decryptStream clock d).1 = .ok result) :
    (∃ x ∈ streams, d = x.bytes ∧ result = x.data) ↔ ∃ x ∈ streams, x.MadeOf d := by
  constructor
  · rintro ⟨x, hx, rfl, -⟩
    obtain ⟨chunks, hchunks⟩ := exists_holds hT x
    exact ⟨x, hx, _, _, hchunks.countedChunks_eq, hchunks.countedChunks_eq, rfl,
      fun w hw => hw, fun _ => rfl⟩
  · rintro ⟨x, hx, own, wires, hown, hwires, hlength, hmem, hend⟩
    obtain ⟨chunks, hchunks⟩ := exists_holds hT x
    obtain ⟨rfl, -⟩ := Prod.mk.inj (Option.some.inj (hown.symm.trans hchunks.countedChunks_eq))
    have hd := eq_of_countedChunks hwires
    have hread := hwires
    unfold countedChunks at hread
    unfold StreamingEncryptor.decryptStream at hok
    split at hok
    · cases hok
    rename_i hlong
    rw [if_neg hlong] at hread
    obtain ⟨xs, hxs, rfl, rfl, hcounted⟩ := StreamingEncryptor.decryptChunks_sealed hA hB
      hchunks.under hreceiver hread hmem hok
    rw [List.length_map, List.length_map] at hlength
    obtain rfl := hchunks.eq_of_opened hA hB receiver.chunkCounter_lt hcounted hxs hlength hend
    refine ⟨x, hx, ?_, hchunks.data_eq⟩
    rw [hd, eq_of_countedChunks hchunks.countedChunks_eq]

section
open Sibna.Symbolic Encryptor StreamingEncryptor

lemma terminated_length (bs : Bytes) : (terminated bs).length = 2 * bs.length + 16 := by
  induction bs with
  | nil => rfl
  | cons b bs ih =>
    rw [terminated, List.length_cons, List.length_cons, List.length_cons, ih]
    omega

lemma shortTag_of_encodeKey {key : suite.Key} (hk : (encodeKey key).length ≤ 100) :
    suite.ShortTag key := by
  intro n ad m had
  have hne : ad ≠ [] := List.ne_nil_of_length_pos (by omega)
  have hn := n.property
  have hl : (suite.aeadEncrypt key n.val ad m).length = m.length + (tag key n.val ad).length :=
    List.length_append
  have hta : tag key n.val ad = (terminated (encodeKey key ++ (n.val ++ ad))).reverse := if_neg hne
  rw [hl, hta, List.length_reverse, terminated_length, List.length_append,
    List.length_append, hn, had]
  omega

lemma windowKey_shortTag : suite.ShortTag windowKey := shortTag_of_encodeKey (by decide +kernel)

def fresh : StreamingEncryptor suite := .start ⟨windowKey, 0, 0, ∅, 100000⟩

def streamOf (s : StreamingEncryptor suite) (data : Bytes) : Bytes :=
  match (s.encryptStream chunkEnv data).1 with
  | .ok bytes => bytes
  | .error _ => []

def one : GenuineStream suite windowKey where
  sender := fresh
  env := chunkEnv
  data := [7]
  bytes := streamOf fresh [7]
  after := (fresh.encryptStream chunkEnv [7]).2
  cipher_eq := rfl
  number_lt := by decide
  length_lt := by decide
  sealed := Prod.ext (by decide +kernel) rfl

def two : GenuineStream suite windowKey where
  sender := one.after
  env := chunkEnv
  data := [9]
  bytes := streamOf one.after [9]
  after := (one.after.encryptStream chunkEnv [9]).2
  cipher_eq := by decide +kernel
  number_lt := by decide +kernel
  length_lt := by decide
  sealed := Prod.ext (by decide +kernel) rfl

theorem one_opened_whole : ∃ x ∈ ({one, two} : Set (GenuineStream suite windowKey)),
    one.bytes = x.bytes ∧ [7] = x.data := by
  have hok : (fresh.decryptStream chunkClock one.bytes).1 = .ok [7] := by decide +kernel
  have hcounted : (countedChunks one.bytes).map Prod.snd = some [] := by decide +kernel
  obtain ⟨⟨own, _⟩, hown, rfl⟩ := Option.map_eq_some_iff.mp hcounted
  exact (opened_whole_iff correctAead bindingAead windowKey_shortTag {one, two} rfl chunkClock
    one.bytes [7] hok).mpr ⟨one, .inl rfl, own, own, hown, hown, rfl, fun _ hw => hw, fun _ => rfl⟩

def joined : Bytes := toLe 8 2 ++ (one.bytes.drop 8 ++ two.bytes.drop 8)

def emptied : Bytes := toLe 8 0 ++ one.bytes.drop 8

theorem edited_streams_open : (fresh.decryptStream chunkClock joined).1 = .ok [7, 9] ∧
    (fresh.decryptStream chunkClock emptied).1 = .ok [] ∧
    (fresh.decryptStream chunkClock (one.bytes ++ [0])).1 = .ok [7] ∧
    ∀ d ∈ [joined, emptied, one.bytes ++ [0]],
    ¬ ∃ x ∈ ({one, two} : Set (GenuineStream suite windowKey)), d = x.bytes := by
  refine ⟨by decide +kernel, by decide +kernel, by decide +kernel, ?_⟩
  have hall : ∀ d ∈ [joined, emptied, one.bytes ++ [0]], d ≠ one.bytes ∧ d ≠ two.bytes := by
    decide +kernel
  rintro d hd ⟨x, rfl | rfl, heq⟩
  · exact (hall d hd).1 heq
  · exact (hall d hd).2 heq

end

end GenuineStream

namespace Encryptor

/-- One of the checks of `decrypt_message` fails: the length, the clock, the two ends of the window,
the table of numbers, the tag. -/
def Refuses (e : Encryptor S) (now : Option Nat) (ciphertext associatedData : Bytes) : Prop :=
  ciphertext.length < messageHeaderSize + nonceLength + 16 ∨ now = none ∨
    (∃ t, now = some t ∧ t + clockSkewToleranceSecs < innerTimestamp ciphertext) ∨
    (∃ t, now = some t ∧ innerTimestamp ciphertext + maxMessageAgeSecs < t) ∨
    (e.seenNumbers.lookup (fromLe (ciphertext.take 8))).isSome = true ∨
    S.aeadDecrypt e.cipher ((ciphertext.drop messageHeaderSize).take nonceLength)
    (associatedData ++ ciphertext.take messageHeaderSize)
    (ciphertext.drop (messageHeaderSize + nonceLength)) = none

lemma buildHeaderWithPadding_wire {ci : Bytes} (h : messageHeaderSize ≤ ci.length) :
    buildHeaderWithPadding (fromLe (ci.take 8)) (fromLe ((ci.drop 8).take 8))
    (fromLe ((ci.drop 16).take 8)) = ci.take messageHeaderSize := by
  rw [messageHeaderSize] at h ⊢
  have hf : ∀ n, n + 8 ≤ ci.length →
      toLe 8 (fromLe ((ci.drop n).take 8)) = (ci.drop n).take 8 := by
    intro n hn
    have hl : ((ci.drop n).take 8).length = 8 := by grind
    have hle := toLe_fromLe ((ci.drop n).take 8)
    rwa [hl] at hle
  have hfi := hf 0 (by omega)
  rw [List.drop_zero] at hfi
  rw [buildHeaderWithPadding, hfi, hf 8 (by omega), hf 16 (by omega),
    ← List.take_add, ← List.take_add]

lemma decryptMessage_error_iff (e : Encryptor S) (clock : Clock) (ci ad : Bytes) :
    (∃ err, (e.decryptMessage clock ci ad).1 = .error err) ↔
    e.Refuses (clock.read .encryptor) ci ad := by
  rw [decryptMessage_fst, Refuses]
  by_cases hsh : ci.length < messageHeaderSize + nonceLength + 16
  · exact ⟨fun _ => .inl hsh, fun _ => ⟨_, if_pos hsh⟩⟩
  have hh := @buildHeaderWithPadding_wire ci (by omega)
  cases hre : clock.read .encryptor with
  | none => exact ⟨fun _ => .inr (.inl rfl), fun _ => ⟨_, if_neg hsh⟩⟩
  | some now =>
    simp only [decryptBytes, hsh, if_false, hh, innerTimestamp, Option.some.injEq, reduceCtorEq,
      exists_eq_left', gt_iff_lt]
    split_ifs with hsk hag hse
    · simp [hsk]
    · simp [hag]
    · simp [hse]
    cases ho : S.aeadDecrypt e.cipher ((ci.drop messageHeaderSize).take nonceLength)
      _
      (ci.drop _) with
    | none => simp
    | some p => simp [hsk, hag, hse]

end Encryptor

namespace StreamingEncryptor
variable {clock : Nat → Clock} {left i : Nat} {data d : Bytes} {s : StreamingEncryptor S}

def NextChunkRefused (clock : Nat → Clock) (i : Nat) (data : Bytes)
    (s : StreamingEncryptor S) : Prop :=
  chunkField.read data = none ∨ ∃ encryptedChunk rest,
    chunkField.read data = some (encryptedChunk, rest) ∧
    s.encryptor.Refuses ((clock i).read .encryptor) encryptedChunk (toLe 8 s.chunkCounter)

def FirstChunkRefused (clock : Nat → Clock) (d : Bytes) (s : StreamingEncryptor S) : Prop :=
  d.length < 8 ∨ NextChunkRefused clock 0 (d.drop 8) s

lemma decryptChunks_of_refused (h : NextChunkRefused clock i data s) :
    ∃ err, decryptChunks clock (left + 1) i data s = (.error err, s) := by
  rcases h with hcu | ⟨ec, rest, hra, hre⟩
  · exact ⟨_, decryptChunks_cut hcu⟩
  · obtain ⟨err, her⟩ := (Encryptor.decryptMessage_error_iff _ _ _ _).mpr hre
    exact ⟨err, decryptChunks_refused hra her⟩

lemma decryptChunks_of_not_refused (h : ¬ NextChunkRefused clock i data s) :
    ∃ rest encryptor, (decryptChunks clock (left + 1) i data s).2 =
      (decryptChunks clock left (i + 1) rest (s.advance encryptor)).2 := by
  rcases decryptChunks_cases clock left i data s with
    ⟨hcu, -⟩ | ⟨encryptedChunk, rest, hra, ⟨err, her, -⟩ | ⟨chunk, encryptor, -, heq⟩⟩
  · exact absurd (.inl hcu) h
  · have hre := (Encryptor.decryptMessage_error_iff _ _ _ _).mp ⟨err, her⟩
    exact absurd (.inr ⟨encryptedChunk, rest, hra, hre⟩) h
  · exact ⟨rest, encryptor, by rw [heq]⟩

lemma chunkCounter_le_decryptChunks :
    s.chunkCounter ≤ (decryptChunks clock left i data s).2.chunkCounter := by
  induction left generalizing i data s with
  | zero => exact Nat.le_refl _
  | succ left ih =>
    by_cases hn : NextChunkRefused clock i data s
    · obtain ⟨err, heq⟩ := @decryptChunks_of_refused S clock left i data s hn
      rw [heq]
    obtain ⟨rest, en, heq⟩ := @decryptChunks_of_not_refused S clock left i data s hn
    have hs : s.chunkCounter ≤ (s.advance en).chunkCounter := by
      have hlt := s.chunkCounter_lt
      simp only [advance, saturatingAdd]
      omega
    rw [heq]
    exact hs.trans ih

lemma decryptStream_of_firstChunkRefused (h : FirstChunkRefused clock d s) :
    (s.decryptStream clock d).2 = s := by
  unfold decryptStream
  split
  · rfl
  rename_i hl
  cases fromLe _ with
  | zero => rfl
  | succ left =>
    obtain ⟨err, heq⟩ := decryptChunks_of_refused (h.resolve_left hl)
    rw [heq]

lemma firstChunkRefused_of_chunkCounter {err : CryptoError}
    (h : (s.decryptStream clock d).1 = .error err) (hen : s.chunkCounter < 2 ^ 64 - 1)
    (hsa : (s.decryptStream clock d).2.chunkCounter = s.chunkCounter) :
    FirstChunkRefused clock d s := by
  by_contra hn
  rw [FirstChunkRefused, not_or] at hn
  obtain ⟨hl, hne⟩ := hn
  rw [decryptStream, if_neg hl] at h hsa
  cases hco : fromLe (d.take 8) with
  | zero =>
    rw [hco] at h
    cases h
  | succ left =>
    obtain ⟨rest, en, heq⟩ := @decryptChunks_of_not_refused S clock left 0 _ s hne
    rw [hco, heq] at hsa
    have hs : s.chunkCounter < (s.advance en).chunkCounter := by
      simp only [advance, saturatingAdd]
      omega
    have hle := @chunkCounter_le_decryptChunks S clock left (0 + 1) rest (s.advance en)
    omega

/-- When a stream fails, nothing has changed if it was its first chunk that failed. -/
theorem failed_stream_unchanged_iff (s : StreamingEncryptor S) (clock : Nat → Clock) (d : Bytes)
    {err : CryptoError} (h : (s.decryptStream clock d).1 = .error err) :
    (FirstChunkRefused clock d s → (s.decryptStream clock d).2 = s) ∧
    (s.chunkCounter < 2 ^ 64 - 1 →
      ((s.decryptStream clock d).2.chunkCounter = s.chunkCounter ∧
        (s.decryptStream clock d).2.encryptor.seenNumbers = s.encryptor.seenNumbers ↔
      FirstChunkRefused clock d s)) := by
  refine ⟨decryptStream_of_firstChunkRefused, fun hend => ⟨?_, ?_⟩⟩
  · rintro ⟨hsame, -⟩
    exact firstChunkRefused_of_chunkCounter h hend hsame
  · intro hrefused
    rw [decryptStream_of_firstChunkRefused hrefused]
    exact ⟨rfl, rfl⟩

section
open Sibna.Symbolic Sibna.GenuineStream

def damaged : Bytes := toLe 8 2 ++ one.bytes.drop 8

def opened : StreamingEncryptor suite := (fresh.decryptStream chunkClock one.bytes).2

theorem replayed_stream_unchanged :
    let again := opened.decryptStream chunkClock one.bytes
    opened.chunkCounter = 1 ∧ FirstChunkRefused chunkClock one.bytes opened ∧
      again.2 = opened := by
  intro again
  have hfacts : again.1 = .error .authenticationFailed ∧ opened.chunkCounter = 1 ∧
      again.2.chunkCounter = opened.chunkCounter ∧
      again.2.encryptor.seenNumbers.entries = opened.encryptor.seenNumbers.entries := by
    decide +kernel
  obtain ⟨herror, hcount, hsame, hseen⟩ := hfacts
  subst again
  obtain ⟨hunchanged, hiff⟩ := failed_stream_unchanged_iff opened chunkClock one.bytes herror
  have hrefused := (hiff (by omega)).mp ⟨hsame, AList.ext hseen⟩
  exact ⟨hcount, hrefused, hunchanged hrefused⟩

theorem damaged_stream_blocks_intact :
    let failed := fresh.decryptStream chunkClock damaged
    failed.1 = .error .invalidCiphertext ∧ failed.2.chunkCounter = 1 ∧
    failed.2.encryptor.seenNumbers.lookup 0 = some 100 ∧
    fresh.chunkCounter = 0 ∧ fresh.encryptor.seenNumbers.lookup 0 = none ∧
    (fresh.decryptStream chunkClock one.bytes).1 = .ok [7] ∧
    (failed.2.decryptStream chunkClock one.bytes).1 = .error .authenticationFailed := by
  decide +kernel

end

end StreamingEncryptor

end Sibna
