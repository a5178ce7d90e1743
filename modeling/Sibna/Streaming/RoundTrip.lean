import Mathlib.Algebra.BigOperators.Group.List.Basic
import Sibna.Streaming

/-!
# Streams, one after the other

The counters of both ends stay in step until they stop at the end of their range.
-/

namespace Sibna

open LittleEndian Framing

structure Transfer where
  data : Bytes
  env : SealEnv
  clock : Nat → Clock
  length_lt : data.length < 2 ^ 63

namespace Transfer

def count (x : Transfer) : Nat := numChunks (1024 * 1024) x.data

/-- The chunk finds a nonce and the time, and is opened inside the window. -/
def ProperAt (x : Transfer) (i : Nat) : Prop :=
  (x.env.nonce i).isSome = true ∧ ∃ t now, (x.env.clock i).read .encryptor = some t ∧
    (x.clock i).read .encryptor = some now ∧ t ≤ now + clockSkewToleranceSecs ∧
    now ≤ t + maxMessageAgeSecs

def Proper (x : Transfer) : Prop := ∀ i < x.count, x.ProperAt i

def Keeps (x : Transfer) : Prop :=
  ∃ t now, (x.env.clock 0).read .encryptor = some t ∧ (x.clock 0).read .seenNumbers = some now ∧
    now - maxMessageAgeSecs ≤ t

lemma count_lt (x : Transfer) : x.count < 256 ^ 8 := by
  have hlt := x.length_lt
  rw [count, numChunks]
  omega

end Transfer

namespace StreamingEncryptor
variable {S : Suite} {key : S.Key} {N : Nat}

def encryptStreams : StreamingEncryptor S → List Transfer → List (Except CryptoError Bytes)
  | _, [] => []
  | s, x :: xs => (s.encryptStream x.env x.data).1 :: encryptStreams
    (s.encryptStream x.env x.data).2 xs

def decryptStreams :
    StreamingEncryptor S → List ((Nat → Clock) × Bytes) → List (Except CryptoError Bytes)
  | _, [] => []
  | s, (clock, bytes) :: streams =>
    (s.decryptStream clock bytes).1 :: decryptStreams (s.decryptStream clock bytes).2 streams

structure Sends (key : S.Key) (N : Nat) (s : StreamingEncryptor S) : Prop where
  cipher : s.encryptor.cipher = key
  number : s.encryptor.messageNumber = min N (2 ^ 64 - 1)
  counter : s.chunkCounter = min N (2 ^ 64 - 1)

structure Receives (key : S.Key) (N : Nat) (r : StreamingEncryptor S) : Prop where
  cipher : r.encryptor.cipher = key
  counter : r.chunkCounter = min N (2 ^ 64 - 1)
  seen : ∀ n, (r.encryptor.seenNumbers.lookup n).isSome = true → n < N

lemma Sends.new {s : StreamingEncryptor S} (h : new key = .ok s) : Sends key 0 s := by
  obtain ⟨hen, hco⟩ := new_ok h
  exact ⟨by rw [hen], by rw [hen]; rfl, hco⟩

lemma Receives.new {r : StreamingEncryptor S} (h : new key = .ok r) : Receives key 0 r := by
  obtain ⟨hen, hco⟩ := new_ok h
  refine ⟨by rw [hen], hco, fun n hn => ?_⟩
  rw [hen, AList.lookup_empty] at hn
  cases hn

lemma saturatingAdd_min (N k : Nat) :
    saturatingAdd (min N (2 ^ 64 - 1)) k = min (N + k) (2 ^ 64 - 1) := by
  rw [saturatingAdd]
  omega

lemma Sends.encryptStream {s : StreamingEncryptor S} (h : Sends key N s) {x : Transfer}
    (hx : x.Proper) : ∃ s' chunks,
    s.encryptStream x.env x.data = (.ok (toLe 8 x.count ++ body chunks), s') ∧
    Sends key (N + x.count) s' ∧ SealedBy key x.env (1024 * 1024) x.data 0 (min N (2 ^ 64 - 1))
    (min N (2 ^ 64 - 1)) chunks ∧ chunks.length = x.count := by
  have hev : ∀ k < numChunks s.chunkSize x.data,
      ((x.env.clock k).read .encryptor).isSome = true ∧ (x.env.nonce k).isSome = true := by
    intro k hk
    rw [s.chunkSize_eq] at hk
    obtain ⟨hno, t, now, hre, -⟩ := hx k hk
    exact ⟨by rw [hre]; rfl, hno⟩
  obtain ⟨bt, s', hok⟩ := encryptStream_of_env hev
  have hn : s.encryptor.messageNumber < 2 ^ 64 := by
    rw [h.number]
    omega
  obtain ⟨⟨chunks, hse, hl, rfl⟩, hen, hco⟩ := encryptStream_ok hn hok
  rw [s.chunkSize_eq, ← Transfer.count] at hen hco hl
  rw [s.chunkSize_eq, h.cipher, h.number, h.counter] at hse
  rw [hl] at hok
  refine ⟨s', chunks, hok, ⟨?_, ?_, ?_⟩, hse, hl⟩
  · rw [hen]
    exact h.cipher
  · rw [hen]
    simp only [h.number, saturatingAdd_min]
  · rw [hco, h.counter, saturatingAdd_min]

end StreamingEncryptor

namespace Encryptor
variable {S : Suite}

lemma lookup_updateSeenNumbers_isSome (e : Encryptor S) (now : Option Nat) {nu t n : Nat}
    (h : ((e.updateSeenNumbers now nu t).seenNumbers.lookup n).isSome = true) :
    n = nu ∨ (e.seenNumbers.lookup n).isSome = true := by
  obtain ⟨t', ht'⟩ := Option.isSome_iff_exists.mp h
  have hin := ((lookup_updateSeenNumbers e _ _ _ n t').mp ht').1
  by_cases heq : n = nu
  · exact .inl heq
  · simp_all

end Encryptor

namespace StreamingEncryptor
variable {S : Suite} {key : S.Key} {N : Nat}

variable {r : StreamingEncryptor S}

lemma Receives.proper (h : Receives key N r) {x : Transfer} {i : Nat} (hx : x.ProperAt i)
    {y : Encryptor.Sealed} (had : y.associatedData = toLe 8 (min N (2 ^ 64 - 1)))
    (hcl : (x.env.clock i).read .encryptor = some y.timestamp) :
    (⟨x.clock i, y, toLe 8 r.chunkCounter⟩ : Encryptor.Delivery).Proper := by
  obtain ⟨-, t, now, ht, hn, hsk, hag⟩ := hx
  cases hcl.symm.trans ht
  refine ⟨?_, now, hn, hsk, hag⟩
  rw [h.counter]
  exact had.symm

lemma Receives.unseen (h : Receives key N r) {n : Nat} (hn : N ≤ n) :
    (r.encryptor.seenNumbers.lookup n).isSome = false := by
  apply Bool.eq_false_of_not_eq_true
  intro hse
  have hlt := h.seen n hse
  omega

lemma Receives.decryptMessage (hA : S.CorrectAead) {r : StreamingEncryptor S}
    (h : Receives key N r) {x : Encryptor.Sealed} {cl : Clock} (hu : x.Under key)
    (hpr : (⟨cl, x, toLe 8 r.chunkCounter⟩ : Encryptor.Delivery).Proper) (hn : N ≤ x.number) :
    r.encryptor.decryptMessage cl x.bytes (toLe 8 r.chunkCounter) =
      (.ok x.plaintext, r.encryptor.updateSeenNumbers (cl.read .seenNumbers) x.number
        x.timestamp) := by
  have hf := Encryptor.decryptMessage_proper hA h.cipher hu hpr
  have hsn := Encryptor.decryptMessage_snd r.encryptor ⟨cl, x, toLe 8 r.chunkCounter⟩
  simp only [h.unseen hn] at hf
  simp only [hf] at hsn
  exact Prod.ext hf hsn

lemma Receives.advance {r : StreamingEncryptor S} (h : Receives key N r) (now : Option Nat)
    {nu : Nat} (hnu : nu ≤ N) (t : Nat) :
    Receives key (N + 1) (r.advance (r.encryptor.updateSeenNumbers now nu t)) where
  cipher := h.cipher
  counter := by
    simp only [StreamingEncryptor.advance, h.counter, saturatingAdd_min]
  seen n hn := by
    rcases Encryptor.lookup_updateSeenNumbers_isSome _ _ hn with rfl | ho
    · omega
    · have hlt := h.seen n ho
      omega

lemma Receives.decryptChunks (hA : S.CorrectAead) {x : Transfer} {ch : List Encryptor.Sealed}
    (hfi : chunkField.Fit (ch.map Encryptor.Sealed.bytes)) {i : Nat} {r : StreamingEncryptor S}
    (h : Receives key N r) (hse : SealedBy key x.env (1024 * 1024) x.data i
      (min N (2 ^ 64 - 1)) (min N (2 ^ 64 - 1)) ch)
    (hpr : ∀ k, i ≤ k → k < i + ch.length → x.ProperAt k)
    (hco : N + ch.length ≤ 2 ^ 64) :
    ∃ r', decryptChunks x.clock ch.length i (body ch) r =
        (.ok (ch.flatMap Encryptor.Sealed.plaintext), r') ∧
      Receives key (N + ch.length) r' := by
  induction ch generalizing N i r with
  | nil => exact ⟨r, rfl, h⟩
  | cons y ys ih =>
    obtain ⟨⟨hu, hnu, had, hcl, -⟩, hr⟩ := hse
    simp only [saturatingAdd_min] at hr
    rw [List.length_cons] at hpr hco
    have hy := h.proper (hpr i (Nat.le_refl i) (by omega)) had hcl
    have hop := h.decryptMessage hA hu hy (by omega)
    obtain ⟨hf, ho⟩ := List.forall_mem_cons.mp hfi
    have hle : y.number ≤ N := by omega
    have hn := h.advance ((x.clock i).read .seenNumbers) hle y.timestamp
    obtain ⟨r', hr', hre⟩ := ih ho hn hr (fun k hik hk => hpr k (by omega) (by omega)) (by omega)
    have hb : body (y :: ys) = chunkField.frame y.bytes ++ body ys := rfl
    refine ⟨r', ?_, ?_⟩
    · rw [List.length_cons, hb, decryptChunks_opened (LengthField.read_frame hf _) hop, hr']
      rfl
    · rw [List.length_cons, Nat.add_comm ys.length, ← Nat.add_assoc]
      exact hre

section
variable {s : StreamingEncryptor S} (hA : S.CorrectAead) (hT : S.ShortTag key) (hs : Sends key N s)
  (hr : Receives key N r)
include hA hT hs hr

lemma transfer {x : Transfer} (hx : x.Proper) (hco : N + x.count ≤ 2 ^ 64) : ∃ bytes s' r',
    s.encryptStream x.env x.data = (.ok bytes, s') ∧
    r.decryptStream x.clock bytes = (.ok x.data, r') ∧ Sends key (N + x.count) s' ∧
    Receives key (N + x.count) r' := by
  obtain ⟨s', ch, hok, hs', hse, hl⟩ := hs.encryptStream hx
  have hpr : ∀ k, 0 ≤ k → k < 0 + ch.length → x.ProperAt k :=
    fun k _ hk => hx k (by omega)
  rw [← hl] at hco hs' hok
  obtain ⟨r', ho, hr'⟩ := hr.decryptChunks hA (hse.fit hT rfl) hse hpr hco
  have hlt : ch.length < 256 ^ 8 := by
    rw [hl]
    exact x.count_lt
  refine ⟨_, s', r', hok, ?_, ?_, ?_⟩
  · rw [decryptStream_append x.clock hlt, ho, hse.flatMap_plaintext (by decide) hl]
  · rwa [← hl]
  · rwa [← hl]

lemma run {xs : List Transfer} (hxs : ∀ x ∈ xs, x.Proper)
    (hco : N + (xs.map Transfer.count).sum ≤ 2 ^ 64) : ∃ streams,
    s.encryptStreams xs = streams.map Except.ok ∧
    r.decryptStreams ((xs.map Transfer.clock).zip streams) = xs.map fun x => .ok x.data := by
  induction xs generalizing N s r with
  | nil => exact ⟨[], rfl, rfl⟩
  | cons x xs ih =>
    obtain ⟨hx, hxs⟩ := List.forall_mem_cons.mp hxs
    rw [List.map_cons, List.sum_cons, ← Nat.add_assoc] at hco
    obtain ⟨bt, s', r', hse, ho, hs', hr'⟩ := transfer hA hT hs hr hx (by omega)
    obtain ⟨streams, hst, hre⟩ := ih hs' hr' hxs hco
    refine ⟨bt :: streams, ?_, ?_⟩
    · rw [encryptStreams, hse, List.map_cons, hst]
    · rw [List.map_cons, List.zip_cons_cons, decryptStreams, ho, List.map_cons, hre]

end

/-- Up to the end of the counters every sequence of byte strings comes back as it was. -/
theorem streams_roundTrip (hA : S.CorrectAead) (hT : S.ShortTag key)
    {sender receiver : StreamingEncryptor S} (hsender : new key = .ok sender)
    (hreceiver : new key = .ok receiver) (xs : List Transfer) (hxs : ∀ x ∈ xs, x.Proper)
    (hcount : (xs.map Transfer.count).sum ≤ 2 ^ 64) : ∃ streams,
    sender.encryptStreams xs = streams.map Except.ok ∧
    receiver.decryptStreams ((xs.map Transfer.clock).zip streams) = xs.map fun x => .ok x.data := by
  refine run hA hT (Sends.new hsender) (Receives.new hreceiver) hxs ?_
  rwa [Nat.zero_add]

section
variable {x : Transfer} {y : Encryptor.Sealed} {r : StreamingEncryptor S}

variable {s : StreamingEncryptor S}

lemma Sends.encryptStream_one (h : Sends key N s) (hx : x.Proper) (ho : x.count = 1) : ∃ s' y,
    s.encryptStream x.env x.data = (.ok (toLe 8 1 ++ body [y]), s') ∧ Sends key (N + 1) s' ∧
    SealedBy key x.env (1024 * 1024) x.data 0 (min N (2 ^ 64 - 1)) (min N (2 ^ 64 - 1)) [y] := by
  obtain ⟨s', ch, hok, hs', hse, hl⟩ := h.encryptStream hx
  rw [ho] at hok hs' hl
  obtain ⟨y, rfl⟩ := List.length_eq_one_iff.mp hl
  exact ⟨s', y, hok, hs', hse⟩

lemma body_one (y : Encryptor.Sealed) : body [y] = chunkField.frame y.bytes ++ [] := rfl

section
variable (hA : S.CorrectAead) (hT : S.ShortTag key)
include hA hT

lemma Receives.decryptStream_one (h : Receives key N r) (hN : N < 2 ^ 64) (hx : x.ProperAt 0)
    (hke : x.Keeps)
    (hse : SealedBy key x.env (1024 * 1024) x.data 0 (min N (2 ^ 64 - 1)) (min N (2 ^ 64 - 1)) [y])
    : ∃ r', r.decryptStream x.clock (toLe 8 1 ++ body [y]) = (.ok y.plaintext, r') ∧
      Receives key (N + 1) r' ∧ (r'.encryptor.seenNumbers.lookup y.number).isSome = true := by
  have hf := hse.fit hT rfl y.bytes (.head _)
  obtain ⟨⟨hu, hn, had, hcl, -⟩, -⟩ := hse
  have ho := h.decryptMessage hA hu (h.proper hx had hcl) (by omega)
  have hle : y.number ≤ N := by omega
  refine ⟨_, ?_, h.advance ((x.clock 0).read .seenNumbers) hle y.timestamp, ?_⟩
  · rw [decryptStream_append x.clock (by decide), body_one,
      decryptChunks_opened (LengthField.read_frame hf _) ho]
    simp only [StreamingEncryptor.decryptChunks, Except.map, List.append_nil]
  obtain ⟨t', now', ht', hn', hcu⟩ := hke
  cases hcl.symm.trans ht'
  have hl := (Encryptor.lookup_updateSeenNumbers r.encryptor now' y.number y.timestamp
    y.number y.timestamp).mpr ⟨AList.lookup_insert _, hcu⟩
  simp only [StreamingEncryptor.advance, hn', hl, Option.isSome_some]

lemma Receives.decryptStream_seen (h : Receives key N r) (hx : x.ProperAt 0)
    (hse : SealedBy key x.env (1024 * 1024) x.data 0 (min N (2 ^ 64 - 1)) (min N (2 ^ 64 - 1)) [y])
    (hsn : (r.encryptor.seenNumbers.lookup y.number).isSome = true) :
    (r.decryptStream x.clock (toLe 8 1 ++ body [y])).1 = .error .authenticationFailed := by
  have hf := hse.fit hT rfl y.bytes (.head _)
  obtain ⟨⟨hu, -, had, hcl, -⟩, -⟩ := hse
  have hre := Encryptor.decryptMessage_proper hA h.cipher hu (h.proper hx had hcl)
  simp only [hsn] at hre
  rw [decryptStream_append x.clock (by decide), body_one,
    decryptChunks_refused (LengthField.read_frame hf _) hre]

lemma second_at_end_refused (hs : Sends key (2 ^ 64 - 1) s) (hr : Receives key (2 ^ 64 - 1) r)
    (hx : x.Proper) (ho : x.count = 1) (hke : x.Keeps) {st : List Bytes}
    (hst : s.encryptStreams [x, x] = st.map Except.ok) :
    ∃ first, r.decryptStreams (([x, x].map Transfer.clock).zip st) =
      [first, .error .authenticationFailed] := by
  have hx₀ : x.ProperAt 0 := hx 0 (by omega)
  obtain ⟨s₁, y₁, hsa₁, hs₁, hse₁⟩ := hs.encryptStream_one hx ho
  obtain ⟨s₂, y₂, hse₂, -, hs₂⟩ := hs₁.encryptStream_one hx ho
  obtain ⟨r₁, hop, hr₁, hse⟩ := hr.decryptStream_one hA hT (by decide) hx₀ hke hse₁
  have hsa := hse₁.1.2.1.trans hs₂.1.2.1.symm
  rw [hsa] at hse
  have hre := hr₁.decryptStream_seen hA hT hx₀ hs₂ hse
  have hin : Function.Injective (Except.ok : Bytes → Except CryptoError Bytes) :=
    fun a b hab => Except.ok.inj hab
  simp only [encryptStreams, hsa₁, hse₂] at hst
  obtain rfl : [toLe 8 1 ++ body [y₁], toLe 8 1 ++ body [y₂]] = st :=
    List.map_injective_iff.mpr hin hst
  refine ⟨.ok y₁.plaintext, ?_⟩
  simp only [List.map_cons, List.map_nil, List.zip_cons_cons, List.zip_nil_left, decryptStreams,
    hop, hre]

lemma not_roundTrip_at_end (hx : x.Proper) (hon : x.count = 1) (hke : x.Keeps) {left : Nat}
    (hs : Sends key N s) (hr : Receives key N r) (hN : N + left = 2 ^ 64 - 1) {st : List Bytes}
    (hst : s.encryptStreams (List.replicate (left + 2) x) = st.map Except.ok) :
    r.decryptStreams (((List.replicate (left + 2) x).map Transfer.clock).zip st) ≠
      (List.replicate (left + 2) x).map fun x => .ok x.data := by
  induction left generalizing N s r st with
  | zero =>
    subst hN
    obtain ⟨f, hre⟩ := second_at_end_refused hA hT hs hr hx hon hke hst
    intro hal
    have ha' := hre.symm.trans hal
    simp at ha'
  | succ left ih =>
    have hco : N + x.count ≤ 2 ^ 64 := by omega
    obtain ⟨bt, s', r', hse, ho, hs', hr'⟩ := transfer hA hT hs hr hx hco
    rw [Nat.add_right_comm, List.replicate_succ] at hst ⊢
    rw [encryptStreams, hse] at hst
    cases st with
    | nil => cases hst
    | cons b st =>
      rw [List.map_cons, List.cons.injEq] at hst
      obtain ⟨hb, hrs⟩ := hst
      cases hb
      have hne := ih hs' hr' (by omega) hrs
      intro hal
      rw [List.map_cons, List.zip_cons_cons, decryptStreams, ho, List.map_cons,
        List.cons.injEq] at hal
      exact hne hal.2

end

end

section
open Sibna.Symbolic

def streamKey : short.Key := (short.hkdfSession secret).2

def streamStart : StreamingEncryptor short := .start ⟨streamKey, 0, 0, ∅, 100000⟩

lemma new_streamKey : new streamKey = .ok streamStart := by
  rw [new, Encryptor.new_of_not_weak (by decide +kernel)]
  rfl

lemma streamKey_shortTag : short.ShortTag streamKey := by
  intro n ad m _
  rw [short_aeadLength]
  omega

def atOnce (data : Bytes) (h : data.length < 2 ^ 63) : Transfer where
  data := data
  env := chunkEnv
  clock := chunkClock
  length_lt := h

lemma atOnce_proper (data : Bytes) (h : data.length < 2 ^ 63) : (atOnce data h).Proper := by
  intro i _
  exact ⟨rfl, 100, 100, rfl, rfl, by decide, by decide⟩

theorem short_streams_roundTrip : ∃ streams,
    streamStart.encryptStreams [atOnce [] (by decide), atOnce [7] (by decide),
      atOnce [] (by decide)] = streams.map Except.ok ∧
    streamStart.decryptStreams (([atOnce [] (by decide), atOnce [7] (by decide),
      atOnce [] (by decide)].map Transfer.clock).zip streams) = [.ok [], .ok [7], .ok []] := by
  refine streams_roundTrip short_correctAead streamKey_shortTag new_streamKey new_streamKey
    [atOnce [] (by decide), atOnce [7] (by decide), atOnce [] (by decide)] ?_ (by decide)
  intro x hx
  simp only [List.mem_cons, List.not_mem_nil, or_false] at hx
  rcases hx with rfl | rfl | rfl <;> exact atOnce_proper _ _

/-- The last number is used twice: by the last chunk but one and by the last. -/
theorem streams_past_end_refused :
    let transfer := atOnce [7] (by decide)
    let transfers := List.replicate (2 ^ 64 + 1) transfer
    new streamKey = .ok streamStart ∧ transfer.Proper ∧
    ¬ ∃ streams, streamStart.encryptStreams transfers = streams.map Except.ok ∧
      streamStart.decryptStreams ((transfers.map Transfer.clock).zip streams) =
        transfers.map fun x => .ok x.data := by
  refine ⟨new_streamKey, atOnce_proper _ _, ?_⟩
  rintro ⟨streams, hstreams, hresults⟩
  have hkeeps : (atOnce [7] (by decide)).Keeps := ⟨100, 100, rfl, rfl, by decide⟩
  exact not_roundTrip_at_end short_correctAead streamKey_shortTag (atOnce_proper _ _) (by decide)
    hkeeps (Sends.new new_streamKey) (Receives.new new_streamKey) (Nat.zero_add _) hstreams hresults

end

end StreamingEncryptor

end Sibna
