import Sibna.Lib.Text
import Sibna.P2p.Responder

/-!
# What the bytes of a bundle determine

`laidOut` is what the parser accepts in general, `Canonical` says when `to_bytes` writes it.
-/

namespace Sibna

open LittleEndian Transcript

namespace Continues
variable {data rest : Bytes} {offset : Nat}

lemma of_slice {n : Nat} {x : FixedBytes n} (h : Continues data offset rest)
    (hx : Sibna.slice n data offset = some x) :
    ∃ rest', rest = x.val ++ rest' ∧ Continues data (offset + n) rest' := by
  unfold Sibna.slice at hx
  split at hx
  · rename_i hle
    cases hx
    have hr : n ≤ rest.length := by
      rw [h.length] at hle
      omega
    have hta : (data.drop offset).take n = rest.take n := by
      obtain ⟨f, rfl, rfl⟩ := h
      rw [List.drop_left]
    refine ⟨rest.drop n, ?_, ?_⟩
    · exact (List.take_append_drop n rest).symm.trans (congrArg (· ++ rest.drop n) hta.symm)
    · have hsp : Continues data offset (rest.take n ++ rest.drop n) := by
        rwa [List.take_append_drop]
      exact hsp.skip (by simp [hr])
  · cases hx

lemma of_byte {c : UInt8} (h : Continues data offset rest) (hc : data[offset]? = some c) :
    ∃ rest', rest = c :: rest' ∧ Continues data (offset + 1) rest' := by
  cases rest with
  | nil =>
    have hl := h.length
    rw [List.getElem?_eq_none (by rw [hl]; exact Nat.le_refl _)] at hc
    cases hc
  | cons d rest' =>
    obtain ⟨hd, hn⟩ := h.byte
    cases hd.symm.trans hc
    exact ⟨rest', rfl, hn⟩

end Continues

namespace PreKeyBundle

variable {b b' : PreKeyBundle} {pk : Bytes} {sig : FixedBytes 64} {data rest : Bytes} {offset : Nat}

/-- No input makes the parser panic, and a bundle with a post-quantum key and its signature is read
back as it was written. -/
theorem bundle_bytes_roundTrip : (∀ data, (fromBytes data).isSome = true) ∧
    ∀ (b : PreKeyBundle) (pk : Bytes) (sig : FixedBytes 64), b.pqSignedPrekey = some pk →
    pk.length = 1184 → b.pqSignedPrekeySignature = some sig → fromBytes b.toBytes = some (.ok b) :=
  ⟨fromBytes_isSome, fun _ _ _ hpk hlen hsig => fromBytes_toBytes hpk hlen hsig⟩

open Symbolic in
theorem bundle_bytes_roundTrip_symbolic :
    fromBytes (bundle 4 6).toBytes = some (.ok (bundle 4 6)) ∧
      fromBytes { bundle 4 6 with onetimePrekey := some (publicKey 7) }.toBytes =
        some (.ok { bundle 4 6 with onetimePrekey := some (publicKey 7) }) :=
  ⟨bundle_bytes_roundTrip.2 _ _ _ rfl (kem.keyGen seed).1.property rfl,
    bundle_bytes_roundTrip.2 _ _ _ rfl (kem.keyGen seed).1.property rfl⟩

lemma pqFromBytes_ok (h : pqFromBytes data offset = some (.ok (pk, sig)))
    (hda : Continues data offset rest) :
    ∃ pqFlag extra, pqFlag ≠ 0 ∧ pk.length = 1184 ∧
      rest = pqFlag :: (pk ++ (sig.val ++ extra)) := by
  unfold pqFromBytes at h
  split at h
  · obtain ⟨pqFlag, hf, h₁⟩ := Option.bind_eq_some_iff.mp h
    split at h₁
    · rename_i hpq
      obtain ⟨key, hk, h₂⟩ := Option.bind_eq_some_iff.mp h₁
      obtain ⟨sig', hsi, h₃⟩ := Option.bind_eq_some_iff.mp h₂
      cases Except.ok.inj (Option.some.inj h₃)
      obtain ⟨rest₁, rfl, hd₁⟩ := hda.of_byte hf
      obtain ⟨rest₂, rfl, hd₂⟩ := hd₁.of_slice hk
      obtain ⟨extra, rfl, -⟩ := hd₂.of_slice hsi
      exact ⟨pqFlag, extra, hpq.1, key.property, rfl⟩
    · cases h₁
  · cases h

lemma leBytes_fromLe {n v : Nat} {x : FixedBytes n} (h : v = fromLe x.val) : leBytes n v = x := by
  subst h
  refine Subtype.ext ?_
  have hw := toLe_fromLe x.val
  rwa [x.property] at hw

lemma fromLe_lt_fixed {n : Nat} (x : FixedBytes n) : fromLe x.val < 256 ^ n := by
  have hlt := fromLe_lt x.val
  rwa [x.property] at hlt

lemma tailFromBytes_ok {i sp : Bytes32} {si : FixedBytes 64} {o : Option Bytes32}
    {bs : FixedBytes 64}
    (h : tailFromBytes data offset i sp si o bs = some (.ok b)) (hda : Continues data offset rest) :
    b.identityKey = i ∧ b.signedPrekey = sp ∧ b.signature = si ∧ b.onetimePrekey = o ∧
    b.bundleSignature = bs ∧ ∃ pk sig pqFlag extra, b.pqSignedPrekey = some pk ∧
    b.pqSignedPrekeySignature = some sig ∧ pk.length = 1184 ∧ pqFlag ≠ 0 ∧
    rest = b.middleBytes ++ (pqFlag :: (pk ++ (sig.val ++ extra))) := by
  unfold tailFromBytes at h
  split at h
  · cases h
  obtain ⟨bi, hid, h₁⟩ := Option.bind_eq_some_iff.mp h
  obtain ⟨ti, hts, h₂⟩ := Option.bind_eq_some_iff.mp h₁
  obtain ⟨ex, hep, h₃⟩ := Option.bind_eq_some_iff.mp h₂
  split at h₃
  · cases h₃
  obtain ⟨di, hdv, h₄⟩ := Option.bind_eq_some_iff.mp h₃
  obtain ⟨root, hr, h₅⟩ := Option.bind_eq_some_iff.mp h₄
  obtain ⟨ds, hs, h₆⟩ := Option.bind_eq_some_iff.mp h₅
  obtain ⟨pq, hpq, h₇⟩ := Option.bind_eq_some_iff.mp h₆
  obtain ⟨⟨pk, sig⟩, rfl, hb⟩ := exceptMap_ok.mp (Option.some.inj h₇)
  obtain ⟨rest₁, rfl, hd₁⟩ := hda.of_slice hid
  obtain ⟨rest₂, rfl, hd₂⟩ := hd₁.of_slice hts
  obtain ⟨rest₃, rfl, hd₃⟩ := hd₂.of_slice hep
  obtain ⟨rest₄, rfl, hd₄⟩ := hd₃.of_slice hdv
  obtain ⟨rest₅, rfl, hd₅⟩ := hd₄.of_slice hr
  obtain ⟨rest₆, rfl, hd₆⟩ := hd₅.of_slice hs
  obtain ⟨pqFlag, extra, hf, hl, rfl⟩ := pqFromBytes_ok hpq hd₆
  subst hb
  refine ⟨rfl, rfl, rfl, rfl, rfl, pk, sig, pqFlag, extra, rfl, rfl, hl, hf, ?_⟩
  have hti : ∀ x : FixedBytes 8, leBytes 8 (UInt64.ofNat (fromLe x.val)).toNat = x :=
    fun x => leBytes_fromLe (UInt64.toNat_ofNat_of_lt' (fromLe_lt_fixed x))
  have hde := leBytes_fromLe (UInt32.toNat_ofNat_of_lt' (fromLe_lt_fixed di))
  simp only [middleBytes, hti, hde, List.append_assoc]

/-- An accepted input is the bundle laid out with some flags and some bytes before the signature. -/
lemma fromBytes_ok (h : fromBytes data = some (.ok b)) : ∃ pk sig onetimeFlag pqFlag extra,
    b.pqSignedPrekey = some pk ∧ b.pqSignedPrekeySignature = some sig ∧ pk.length = 1184 ∧
    (onetimeFlag ≠ 0 ↔ b.onetimePrekey.isSome = true) ∧ pqFlag ≠ 0 ∧
    data = b.laidOut pk sig onetimeFlag pqFlag extra := by
  unfold fromBytes at h
  split at h
  · cases h
  obtain ⟨bs, hs, h₁⟩ := Option.bind_eq_some_iff.mp h
  obtain ⟨ik, hik, h₂⟩ := Option.bind_eq_some_iff.mp h₁
  obtain ⟨spk, hsp, h₃⟩ := Option.bind_eq_some_iff.mp h₂
  obtain ⟨si, hsi, h₄⟩ := Option.bind_eq_some_iff.mp h₃
  obtain ⟨onetimeFlag, hf, h₅⟩ := Option.bind_eq_some_iff.mp h₄
  -- the signature is the end of the input, and the payload all before it
  have hen : Continues data (data.length - 64) (data.drop (data.length - 64)) :=
    ⟨data.take _, by simp, (List.take_append_drop _ _).symm⟩
  obtain ⟨rest₀, hr₀, haf⟩ := hen.of_slice hs
  have hn : rest₀ = [] := by
    have hl := haf.length
    exact List.eq_nil_of_length_eq_zero (by omega)
  have hw : data = data.take (data.length - 64) ++ bs.val := by
    rw [hn, List.append_nil] at hr₀
    rw [← hr₀, List.take_append_drop]
  generalize data.take (data.length - 64) = payload at *
  have hp : Continues payload 0 payload := ⟨[], rfl, rfl⟩
  obtain ⟨rest₁, rfl, hd₁⟩ := hp.of_slice hik
  obtain ⟨rest₂, rfl, hd₂⟩ := hd₁.of_slice hsp
  obtain ⟨rest₃, rfl, hd₃⟩ := hd₂.of_slice hsi
  obtain ⟨rest₄, rfl, hd₄⟩ := hd₃.of_byte hf
  split at h₅
  · rename_i hse
    obtain ⟨opk, hop, h₆⟩ := Option.bind_eq_some_iff.mp h₅
    obtain ⟨rest₅, rfl, hd₅⟩ := hd₄.of_slice hop
    obtain ⟨rfl, rfl, rfl, ho, rfl, pk, sig, pqFlag, extra, hpk, hsg, hl, hpq, rfl⟩ :=
      tailFromBytes_ok h₆ hd₅
    refine ⟨pk, sig, onetimeFlag, pqFlag, extra, hpk, hsg, hl, ?_, hpq, ?_⟩
    · grind
    · rw [hw, laidOut, ho]
      simp only [optionBytes, List.append_assoc, List.cons_append]
  · rename_i hu
    obtain ⟨rfl, rfl, rfl, ho, rfl, pk, sig, pqFlag, extra, hpk, hsg, hl, hpq, rfl⟩ :=
      tailFromBytes_ok h₅ hd₄
    refine ⟨pk, sig, onetimeFlag, pqFlag, extra, hpk, hsg, hl, ?_, hpq, ?_⟩
    · grind
    · rw [hw, laidOut, ho]
      simp only [optionBytes, List.append_assoc, List.cons_append, List.nil_append]

def onetimeEnd (data : Bytes) : Nat := if data[128]? = some 0 then 129 else 161

/-- Both flags are 0 or 1, and nothing stands before the bundle signature. -/
@[mk_iff]
structure Canonical (data : Bytes) : Prop where
  onetimeFlag : data[128]? = some 0 ∨ data[128]? = some 1
  pqFlag : data[onetimeEnd data + 132]? = some 1
  length : data.length = onetimeEnd data + 132 + 1 + 1184 + 64 + 64

instance decidableCanonical (data : Bytes) : Decidable (Canonical data) :=
  decidable_of_iff' _ (canonical_iff _)

lemma canonical_laidOut (hpk : pk.length = 1184) {o p : UInt8} {ex : Bytes}
    (hf : o ≠ 0 ↔ b.onetimePrekey.isSome = true) : Canonical (b.laidOut pk sig o p ex) ↔
    o = flag b.onetimePrekey ∧ p = 1 ∧ ex = [] := by
  generalize hda : b.laidOut pk sig o p ex = data
  have h₀ : Continues data 0 _ := ⟨[], rfl, hda.symm⟩
  obtain ⟨-, h₁⟩ := h₀.slice
  obtain ⟨-, h₂⟩ := h₁.slice
  obtain ⟨-, h₃⟩ := h₂.slice
  obtain ⟨ho, h₄⟩ := h₃.byte
  have hen : onetimeEnd data = 129 + (optionBytes b.onetimePrekey).length := by
    rw [onetimeEnd, ho]
    cases hop : b.onetimePrekey with
    | none =>
      rw [hop] at hf
      rw [if_pos (by simpa using hf)]
      rfl
    | some key =>
      rw [hop] at hf
      rw [if_neg (by simpa using hf), optionBytes, key.property]
  have h₅ := h₄.skip rfl
  rw [show 0 + 32 + 32 + 64 + 1 = 129 from rfl, ← hen] at h₅
  have h₆ := h₅.skip b.middleBytes_length
  have hl := h₆.length
  simp only [List.length_cons, List.length_append, hpk, FixedBytes.length_val] at hl
  obtain ⟨hpq, -⟩ := h₆.byte
  constructor
  · intro h
    refine ⟨?_, ?_, ?_⟩
    · have hor := h.onetimeFlag
      rw [ho, Option.some.injEq, Option.some.injEq] at hor
      unfold flag
      split
      · simp_all
      · simp_all
    · exact Option.some.inj (hpq.symm.trans h.pqFlag)
    · have hto := h.length
      exact List.eq_nil_of_length_eq_zero (by omega)
  · rintro ⟨rfl, rfl, rfl⟩
    refine ⟨?_, hpq, ?_⟩
    · rw [ho, flag]
      split
      · exact .inr rfl
      · exact .inl rfl
    · rw [hl, List.length_nil]

lemma toBytes_iff_canonical (h : fromBytes data = some (.ok b)) :
    b.toBytes = data ↔ Canonical data := by
  obtain ⟨pk, sig, o, p, ex, hpk, hsi, hl, hf, -, rfl⟩ := fromBytes_ok h
  rw [toBytes_laidOut hpk hsi]
  constructor
  · intro heq
    rw [← heq]
    exact (canonical_laidOut hl (flag_ne_zero _)).mpr ⟨rfl, rfl, rfl⟩
  · intro hca
    obtain ⟨rfl, rfl, rfl⟩ := (canonical_laidOut hl hf).mp hca
    rfl

/-- A canonical input is the only one for its bundle, and so is the hexadecimal text of it that has
no capital letter. -/
theorem canonical_unique (data : Bytes) (b : PreKeyBundle) (h : fromBytes data = some (.ok b)) :
    (b.toBytes = data ↔ Canonical data) ∧
    (∀ data', fromBytes data' = some (.ok b) → Canonical data → Canonical data' → data' = data) ∧
    ∀ text, Text.hexDecode text = some data →
    (Text.hexEncode b.toBytes = text ↔ Canonical data ∧ ∀ c ∈ text, ¬ (65 ≤ c ∧ c ≤ 70)) := by
  refine ⟨toBytes_iff_canonical h, ?_, ?_⟩
  · intro data' h' hcanonical hcanonical'
    rw [← (toBytes_iff_canonical h).mpr hcanonical, ← (toBytes_iff_canonical h').mpr hcanonical']
  intro text htext
  rw [← toBytes_iff_canonical h, ← Text.hexEncode_iff_small htext]
  constructor
  · rintro rfl
    rw [Text.hexDecode_hexEncode, Option.some.injEq] at htext
    exact ⟨htext, congrArg Text.hexEncode htext.symm⟩
  · rintro ⟨hdata, hencode⟩
    rw [hdata, hencode]

section
open Symbolic

theorem canonical_unique_written : fromBytes (bundle 4 6).toBytes = some (.ok (bundle 4 6)) ∧
    Canonical (bundle 4 6).toBytes ∧ ∀ c ∈ Text.hexEncode (bundle 4 6).toBytes,
    ¬ (65 ≤ c ∧ c ≤ 70) := by
  have hread : fromBytes (bundle 4 6).toBytes = some (.ok (bundle 4 6)) :=
    fromBytes_toBytes rfl (kem.keyGen seed).1.property rfl
  obtain ⟨hbytes, -, htext⟩ := canonical_unique _ _ hread
  exact ⟨hread, hbytes.mp rfl, ((htext _ (Text.hexDecode_hexEncode _)).mp rfl).2⟩

/-- The bundle with the flag of its post-quantum key set to 2, and with a byte before its
signature: both are read as the same bundle. -/
theorem fromBytes_not_injective :
    let b := bundle 4 6
    let flagged := b.laidOut (kem.keyGen seed).1.val (signatureOf 4 2) 0 2 []
    let extended := b.laidOut (kem.keyGen seed).1.val (signatureOf 4 2) 0 1 [7]
    fromBytes flagged = some (.ok b) ∧ fromBytes extended = some (.ok b) ∧ b.toBytes ≠ flagged ∧
      b.toBytes ≠ extended ∧ flagged ≠ extended := by
  intro b flagged extended
  have hread : ∀ pqFlag extra, pqFlag ≠ 0 → fromBytes (b.laidOut (kem.keyGen seed).1.val
      (signatureOf 4 2) 0 pqFlag extra) = some (.ok b) := fun pqFlag extra hpq =>
    fromBytes_laidOut rfl (kem.keyGen seed).1.property rfl (by decide) hpq
  exact ⟨hread 2 [] (by decide), hread 1 [7] (by decide), by decide +kernel⟩

end

lemma flag_eq_flag {α : Type} {o o' : Option α} (h : flag o = flag o') : o.isSome = o'.isSome := by
  cases o <;> cases o' <;> first | rfl | cases h

lemma leBytes_inj {n v v' : Nat} (hv : v < 256 ^ n) (hv' : v' < 256 ^ n)
    (h : leBytes n v = leBytes n v') : v = v' := by
  have hre := congrArg (fun x : FixedBytes n => fromLe x.val) h
  simp only [leBytes] at hre
  rwa [fromLe_toLe hv, fromLe_toLe hv'] at hre

lemma signatureBytes_inj {o o' : Option (FixedBytes 64)}
    (h : (o.map Subtype.val).getD [] = (o'.map Subtype.val).getD []) : o = o' := by
  have hl := congrArg List.length h
  cases o with
  | none =>
    cases o' with
    | none => rfl
    | some sig' => simp at hl
  | some sig =>
    cases o' with
    | none => simp at hl
    | some sig' => exact congrArg some (Subtype.ext h)

lemma pq_inj {S : Suite} {H : HandshakeSuite S} (hpq : validatePq H b = .ok ())
    (hpq' : validatePq H b' = .ok ()) (hf : flag b.pqSignedPrekey = flag b'.pqSignedPrekey)
    (h : b.pqSignedPrekey.getD [] ++ (b.pqSignedPrekeySignature.map Subtype.val).getD [] =
      b'.pqSignedPrekey.getD [] ++ (b'.pqSignedPrekeySignature.map Subtype.val).getD []) :
    b.pqSignedPrekey = b'.pqSignedPrekey ∧
      b.pqSignedPrekeySignature = b'.pqSignedPrekeySignature := by
  have hso := flag_eq_flag hf
  cases hpk : b.pqSignedPrekey with
  | none =>
    cases hp' : b'.pqSignedPrekey with
    | none =>
      rw [hpk, hp'] at h
      exact ⟨rfl, signatureBytes_inj h⟩
    | some pk' => simp_all
  | some pk =>
    cases hp' : b'.pqSignedPrekey with
    | none => simp_all
    | some pk' =>
      have hl := (validatePq_some hpq hpk).1
      have hl' := (validatePq_some hpq' hp').1
      rw [hpk, hp'] at h
      obtain ⟨hk, hsi⟩ := List.append_inj h (hl.trans hl'.symm)
      exact ⟨congrArg some hk, signatureBytes_inj hsi⟩

/-- Two bundles that pass their checks and have the same signed bytes are the same but for the
bundle signature. -/
theorem signingBytes_binds {S : Suite} (H : HandshakeSuite S) (b b' : PreKeyBundle)
    (clock clock' : Option Nat) (hb : b.validate H clock = .ok ())
    (hb' : b'.validate H clock' = .ok ()) (h : b.signingBytes = b'.signingBytes) :
    b.identityKey = b'.identityKey ∧ b.signedPrekey = b'.signedPrekey ∧
      b.signature = b'.signature ∧ b.onetimePrekey = b'.onetimePrekey ∧ b.bundleId = b'.bundleId ∧
      b.timestamp = b'.timestamp ∧ b.expiration = b'.expiration ∧ b.deviceId = b'.deviceId ∧
      b.rootIdentityKey = b'.rootIdentityKey ∧ b.deviceSignature = b'.deviceSignature ∧
      b.pqSignedPrekey = b'.pqSignedPrekey ∧
      b.pqSignedPrekeySignature = b'.pqSignedPrekeySignature := by
  simp only [signingBytes, List.append_assoc, List.cons_append, List.nil_append] at h
  obtain ⟨hik, h₁⟩ := fixed_append_inj h
  obtain ⟨hspk, h₂⟩ := fixed_append_inj h₁
  obtain ⟨hsig, h₃⟩ := fixed_append_inj h₂
  obtain ⟨hflag, h₄⟩ := List.cons.inj h₃
  obtain ⟨hopk, h₅⟩ := Transcript.option_append_inj (flag_eq_flag hflag) h₄
  obtain ⟨hid, h₆⟩ := fixed_append_inj h₅
  obtain ⟨hts, h₇⟩ := fixed_append_inj (x := leBytes 8 _) (y := leBytes 8 _) h₆
  obtain ⟨hexp, h₈⟩ := fixed_append_inj (x := leBytes 8 _) (y := leBytes 8 _) h₇
  obtain ⟨hdev, h₉⟩ := fixed_append_inj (x := leBytes 4 _) (y := leBytes 4 _) h₈
  obtain ⟨hroot, h₁₀⟩ := fixed_append_inj h₉
  obtain ⟨hdevSig, h₁₁⟩ := fixed_append_inj h₁₀
  obtain ⟨hpqFlag, h₁₂⟩ := List.cons.inj h₁₁
  obtain ⟨hpk, hpqSig⟩ := pq_inj (validate_ok hb).2 (validate_ok hb').2 hpqFlag h₁₂
  have htime : ∀ t t' : UInt64, leBytes 8 t.toNat = leBytes 8 t'.toNat → t = t' :=
    fun t t' heq => UInt64.toNat_inj.mp (leBytes_inj t.toNat_lt t'.toNat_lt heq)
  exact ⟨hik, hspk, hsig, hopk, hid, htime _ _ hts, htime _ _ hexp,
    UInt32.toNat_inj.mp (leBytes_inj b.deviceId.toNat_lt b'.deviceId.toNat_lt hdev), hroot, hdevSig,
    hpk, hpqSig⟩

open Symbolic in
theorem signingBytes_binds_copy : ∃ b, parse (bundle 4 6).toBytes = .ok b ∧
    b.validate (handshake (bundleMessages 4 6)) (some 2000) = .ok () ∧
    b.pqSignedPrekey = (bundle 4 6).pqSignedPrekey := by
  have hvalid : (bundle 4 6).validate (handshake (bundleMessages 4 6)) (some 2000) = .ok () := by
    decide +kernel
  have hread := parse_toBytes (b := bundle 4 6) rfl (kem.keyGen seed).1.property rfl
  obtain ⟨-, -, -, -, -, -, -, -, -, -, hpk, -⟩ :=
    signingBytes_binds (handshake (bundleMessages 4 6)) (bundle 4 6) (bundle 4 6) (some 2000)
      (some 2000) hvalid hvalid rfl
  exact ⟨bundle 4 6, hread, hvalid, hpk⟩

end PreKeyBundle

end Sibna
