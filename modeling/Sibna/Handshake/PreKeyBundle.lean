import Sibna.Handshake.X3dh
import Sibna.KeyStore

/-!
# Prekey bundles

`PreKeyBundle` of `handshake/mod.rs` in the `pqc` build. The parser goes through its input by
offsets; `Continues` says what the input looks like from an offset on.
-/

namespace Sibna

open LittleEndian

structure PreKeyBundle where
  identityKey : Bytes32
  signedPrekey : Bytes32
  signature : FixedBytes 64
  onetimePrekey : Option Bytes32
  bundleId : FixedBytes 16
  timestamp : UInt64
  expiration : UInt64
  deviceId : UInt32
  rootIdentityKey : Bytes32
  deviceSignature : FixedBytes 64
  bundleSignature : FixedBytes 64
  pqSignedPrekey : Option Bytes
  pqSignedPrekeySignature : Option (FixedBytes 64)

/-- `data[offset..offset + n]`; `none` is the panic of a range past the end. -/
def slice (n : Nat) (data : Bytes) (offset : Nat) : Option (FixedBytes n) :=
  if h : offset + n ≤ data.length then
    some ⟨(data.drop offset).take n, by simp only [List.length_take, List.length_drop]; omega⟩
  else none

lemma slice_some {n : Nat} {data : Bytes} {offset : Nat} (h : offset + n ≤ data.length) :
    ∃ bytes, slice n data offset = some bytes :=
  ⟨_, dif_pos h⟩

namespace PreKeyBundle
variable {S : Suite}

def lifetime : Nat := 30 * 86400

/-- `bundleId` is what `OsRng` draws. A reading is below `2 ^ 63`, so the sum is no overflow. -/
def new (identityKey signedPrekey : Bytes32) (signature : FixedBytes 64)
    (onetimePrekey : Option Bytes32) (deviceId : UInt32) (rootIdentityKey : Bytes32)
    (deviceSignature : FixedBytes 64) (bundleId : FixedBytes 16) (clock : Option Nat) :
    PreKeyBundle where
  identityKey := identityKey
  signedPrekey := signedPrekey
  signature := signature
  onetimePrekey := onetimePrekey
  bundleId := bundleId
  timestamp := UInt64.ofNat (creationTime clock)
  expiration := UInt64.ofNat (creationTime clock + lifetime)
  deviceId := deviceId
  rootIdentityKey := rootIdentityKey
  deviceSignature := deviceSignature
  bundleSignature := ⟨List.replicate 64 0, by simp⟩
  pqSignedPrekey := none
  pqSignedPrekeySignature := none

section
variable (b : PreKeyBundle) (data : Bytes) (offset : Nat)

def withPqPrekey (pk : Bytes) (sig : FixedBytes 64) : PreKeyBundle :=
  { b with pqSignedPrekey := some pk, pqSignedPrekeySignature := some sig }

def flag {α : Type} (o : Option α) : UInt8 := if o.isSome then 1 else 0

def signingBytes : Bytes :=
  b.identityKey.val ++ b.signedPrekey.val ++ b.signature.val ++
    [flag b.onetimePrekey] ++ optionBytes b.onetimePrekey ++
    b.bundleId.val ++ toLe 8 b.timestamp.toNat ++ toLe 8 b.expiration.toNat ++
    toLe 4 b.deviceId.toNat ++ b.rootIdentityKey.val ++ b.deviceSignature.val ++
    [flag b.pqSignedPrekey] ++ b.pqSignedPrekey.getD [] ++
    (b.pqSignedPrekeySignature.map Subtype.val).getD []

def signBundle (signer : Bytes → Except ProtocolError (FixedBytes 64)) :
    Except ProtocolError PreKeyBundle := do
  let bundleSignature ← signer b.signingBytes
  return { b with bundleSignature }

def devicePayload (identityKey : Bytes32) (deviceId : UInt32) : Bytes :=
  identityKey.val ++ toLe 4 deviceId.toNat

def validatePq (H : HandshakeSuite S) (b : PreKeyBundle) : Except ProtocolError Unit :=
  match b.pqSignedPrekey with
  | none => .ok ()
  | some pk =>
    if pk.length ≠ 1184 then .error .invalidKeyLength
    else
      match b.pqSignedPrekeySignature with
      | none => .error .invalidSignature
      | some sig => ensure (H.ed.verify b.identityKey pk sig) .invalidSignature

def validate (H : HandshakeSuite S) (b : PreKeyBundle) (clock : Option Nat) :
    Except ProtocolError Unit := do
  ensure (!isZero b.identityKey.val) .invalidKey
  ensure (!isZero b.signedPrekey.val) .invalidKey
  ensure (H.ed.verifyingKeyOk b.identityKey) .invalidKey
  ensure (H.ed.verify b.identityKey b.signedPrekey.val b.signature) .invalidSignature
  ensure (H.ed.verify b.identityKey b.signingBytes b.bundleSignature) .invalidSignature
  ensure (H.ed.verifyingKeyOk b.rootIdentityKey) .invalidKey
  ensure (H.ed.verify b.rootIdentityKey (devicePayload b.identityKey b.deviceId)
    b.deviceSignature) .invalidSignature
  validatePq H b
  let now ← okOr clock .internalError
  ensure (now ≤ b.expiration.toNat) .expired

structure Accepted (H : HandshakeSuite S) (b : PreKeyBundle) (clock : Option Nat) : Prop where
  identityKey : isZero b.identityKey.val = false
  signedPrekey : isZero b.signedPrekey.val = false
  identityOk : H.ed.verifyingKeyOk b.identityKey = true
  signature : H.ed.verify b.identityKey b.signedPrekey.val b.signature = true
  bundleSignature : H.ed.verify b.identityKey b.signingBytes b.bundleSignature = true
  rootOk : H.ed.verifyingKeyOk b.rootIdentityKey = true
  deviceSignature : H.ed.verify b.rootIdentityKey (devicePayload b.identityKey b.deviceId)
    b.deviceSignature = true
  pq : validatePq H b = .ok ()
  unexpired : ∃ now, clock = some now ∧ now ≤ b.expiration.toNat

lemma validate_ok_iff {H : HandshakeSuite S} {b : PreKeyBundle} {cl : Option Nat} :
    b.validate H cl = .ok () ↔ Accepted H b cl := by
  constructor
  · intro h
    obtain ⟨_, hid, h₁⟩ := bind_ok.mp h
    obtain ⟨_, hpr, h₂⟩ := bind_ok.mp h₁
    obtain ⟨_, ho, h₃⟩ := bind_ok.mp h₂
    obtain ⟨_, hsi, h₄⟩ := bind_ok.mp h₃
    obtain ⟨_, hb, h₅⟩ := bind_ok.mp h₄
    obtain ⟨_, hr, h₆⟩ := bind_ok.mp h₅
    obtain ⟨_, hde, h₇⟩ := bind_ok.mp h₆
    obtain ⟨_, hpq, h₈⟩ := bind_ok.mp h₇
    obtain ⟨now, hn, hti⟩ := bind_ok.mp h₈
    exact ⟨by simpa using ensure_ok.mp hid, by simpa using ensure_ok.mp hpr,
      ensure_ok.mp ho, ensure_ok.mp hsi, ensure_ok.mp hb, ensure_ok.mp hr,
      ensure_ok.mp hde, hpq, now, okOr_ok.mp hn, by simpa using ensure_ok.mp hti⟩
  · intro h
    obtain ⟨now, hn, hti⟩ := h.unexpired
    refine bind_ok.mpr ⟨(), ensure_ok.mpr (by simp [h.identityKey]), ?_⟩
    refine bind_ok.mpr ⟨(), ensure_ok.mpr (by simp [h.signedPrekey]), ?_⟩
    refine bind_ok.mpr ⟨(), ensure_ok.mpr h.identityOk, ?_⟩
    refine bind_ok.mpr ⟨(), ensure_ok.mpr h.signature, ?_⟩
    refine bind_ok.mpr ⟨(), ensure_ok.mpr h.bundleSignature, ?_⟩
    refine bind_ok.mpr ⟨(), ensure_ok.mpr h.rootOk, ?_⟩
    refine bind_ok.mpr ⟨(), ensure_ok.mpr h.deviceSignature, ?_⟩
    refine bind_ok.mpr ⟨(), h.pq, ?_⟩
    exact bind_ok.mpr ⟨now, okOr_ok.mpr hn, ensure_ok.mpr (by simpa using hti)⟩

lemma validate_ok {H : HandshakeSuite S} {b : PreKeyBundle} {cl : Option Nat}
    (h : b.validate H cl = .ok ()) :
    H.ed.verify b.identityKey b.signingBytes b.bundleSignature = true ∧ validatePq H b = .ok () :=
  ⟨(validate_ok_iff.mp h).bundleSignature, (validate_ok_iff.mp h).pq⟩

def toBytes : Bytes := b.signingBytes ++ b.bundleSignature.val

/-- What follows the device signature: a bundle without a post-quantum key is refused. -/
def pqFromBytes : Option (Except ProtocolError (Bytes × FixedBytes 64)) :=
  if offset < data.length then do
    let hasPq ← data[offset]?
    if hasPq ≠ 0 ∧ offset + 1 + 1184 + 64 ≤ data.length then do
      let pk ← slice 1184 data (offset + 1)
      let sig ← slice 64 data (offset + 1 + 1184)
      return .ok (pk.val, sig)
    else return .error .invalidMessage
  else some (.error .invalidMessage)

/-- `data` is what stands before the bundle signature, from the bundle id on at `offset`. -/
def tailFromBytes (identityKey signedPrekey : Bytes32) (signature : FixedBytes 64)
    (onetimePrekey : Option Bytes32) (bundleSignature : FixedBytes 64) :
    Option (Except ProtocolError PreKeyBundle) :=
  if data.length < offset + 16 + 8 + 8 + 64 then some (.error .invalidMessage)
  else do
    let bundleId ← slice 16 data offset
    let timestamp ← slice 8 data (offset + 16)
    let expiration ← slice 8 data (offset + 24)
    if data.length < offset + 32 + 4 + 32 + 64 then some (.error .invalidMessage)
    else do
      let deviceId ← slice 4 data (offset + 32)
      let rootIdentityKey ← slice 32 data (offset + 36)
      let deviceSignature ← slice 64 data (offset + 68)
      let pq ← pqFromBytes data (offset + 132)
      return pq.map fun (pk, sig) =>
        { identityKey, signedPrekey, signature, onetimePrekey, bundleId
          timestamp := UInt64.ofNat (fromLe timestamp.val)
          expiration := UInt64.ofNat (fromLe expiration.val)
          deviceId := UInt32.ofNat (fromLe deviceId.val)
          rootIdentityKey, deviceSignature, bundleSignature
          pqSignedPrekey := some pk
          pqSignedPrekeySignature := some sig }

/-- `none` is a panic. -/
def fromBytes : Option (Except ProtocolError PreKeyBundle) :=
  if data.length < 325 then some (.error .invalidMessage)
  else do
    let sigStart := data.length - 64
    let bundleSignature ← slice 64 data sigStart
    let payload := data.take sigStart
    let identityKey ← slice 32 payload 0
    let signedPrekey ← slice 32 payload 32
    let signature ← slice 64 payload 64
    let hasOnetime ← payload[128]?
    if hasOnetime ≠ 0 then do
      let onetimePrekey ← slice 32 payload 129
      tailFromBytes payload 161 identityKey signedPrekey signature (some onetimePrekey)
        bundleSignature
    else tailFromBytes payload 129 identityKey signedPrekey signature none bundleSignature

lemma pqFromBytes_some : ∃ r, pqFromBytes data offset = some r := by
  unfold pqFromBytes
  split
  · rename_i hlt
    rw [List.getElem?_eq_getElem hlt]
    simp only [Option.bind_eq_bind, Option.bind_some]
    split
    · obtain ⟨pk, hpk⟩ := slice_some (show offset + 1 + 1184 ≤ data.length by omega)
      obtain ⟨sig, hsi⟩ := slice_some (show offset + 1 + 1184 + 64 ≤ data.length by omega)
      simp only [hpk, hsi]
      exact ⟨_, rfl⟩
    · exact ⟨_, rfl⟩
  · exact ⟨_, rfl⟩

lemma tailFromBytes_some (i sp : Bytes32) (si : FixedBytes 64) (o : Option Bytes32)
    (bs : FixedBytes 64) : ∃ r, tailFromBytes data offset i sp si o bs = some r := by
  unfold tailFromBytes
  split
  · exact ⟨_, rfl⟩
  obtain ⟨bi, hid⟩ := slice_some (show offset + 16 ≤ data.length by omega)
  obtain ⟨ti, hts⟩ := slice_some (show offset + 16 + 8 ≤ data.length by omega)
  obtain ⟨ex, hep⟩ := slice_some (show offset + 24 + 8 ≤ data.length by omega)
  simp only [hid, hts, hep]
  split
  · exact ⟨_, rfl⟩
  obtain ⟨di, hde⟩ := slice_some (show offset + 32 + 4 ≤ data.length by omega)
  obtain ⟨root, hr⟩ := slice_some (show offset + 36 + 32 ≤ data.length by omega)
  obtain ⟨ds, hs⟩ := slice_some (show offset + 68 + 64 ≤ data.length by omega)
  obtain ⟨pq, hpq⟩ := pqFromBytes_some data (offset + 132)
  simp only [hde, hr, hs, hpq]
  exact ⟨_, rfl⟩

lemma fromBytes_some : ∃ r, fromBytes data = some r := by
  unfold fromBytes
  split
  · exact ⟨_, rfl⟩
  have hp : (data.take (data.length - 64)).length = data.length - 64 := by grind
  obtain ⟨bs, hs⟩ :=
    slice_some (show data.length - 64 + 64 ≤ data.length by omega)
  obtain ⟨ik, hik⟩ := slice_some (show 0 + 32 ≤ (data.take (data.length - 64)).length by omega)
  obtain ⟨spk, hsp⟩ := slice_some (show 32 + 32 ≤ (data.take (data.length - 64)).length by omega)
  obtain ⟨sig, hsi⟩ := slice_some (show 64 + 64 ≤ (data.take (data.length - 64)).length by omega)
  have hf := List.getElem?_eq_getElem (show 128 < (data.take (data.length - 64)).length by omega)
  simp only [hs, hik, hsp, hsi, hf, Option.bind_eq_bind, Option.bind_some]
  split
  · obtain ⟨opk, ho⟩ :=
      slice_some (show 129 + 32 ≤ (data.take (data.length - 64)).length by omega)
    simp only [ho]
    exact tailFromBytes_some _ _ _ _ _ _ _
  · exact tailFromBytes_some _ _ _ _ _ _ _

lemma fromBytes_isSome : (fromBytes data).isSome = true := by
  obtain ⟨r, hr⟩ := fromBytes_some data
  rw [hr, Option.isSome_some]

def parse : Except ProtocolError PreKeyBundle :=
  (fromBytes data).get (fromBytes_isSome data)

end

end PreKeyBundle

def Continues (data : Bytes) (offset : Nat) (rest : Bytes) : Prop :=
  ∃ front, front.length = offset ∧ data = front ++ rest

namespace Continues
variable {data rest : Bytes} {offset : Nat}

lemma length (h : Continues data offset rest) : data.length = offset + rest.length := by
  obtain ⟨f, rfl, rfl⟩ := h
  exact List.length_append

lemma skip {bt : Bytes} {n : Nat} (hn : bt.length = n)
    (h : Continues data offset (bt ++ rest)) : Continues data (offset + n) rest := by
  obtain ⟨f, rfl, rfl⟩ := h
  refine ⟨f ++ bt, ?_, (List.append_assoc _ _ _).symm⟩
  rw [List.length_append, hn]

lemma slice {n : Nat} {x : FixedBytes n} (h : Continues data offset (x.val ++ rest)) :
    Sibna.slice n data offset = some x ∧ Continues data (offset + n) rest := by
  refine ⟨?_, h.skip x.property⟩
  have hl : offset + n ≤ data.length := by
    rw [h.length, List.length_append, x.property]
    omega
  rw [Sibna.slice, dif_pos hl]
  obtain ⟨f, rfl, rfl⟩ := h
  have hre : ((f ++ (x.val ++ rest)).drop f.length).take n = x.val := by simp_all
  exact congrArg some (Subtype.ext hre)

lemma byte {b : UInt8} (h : Continues data offset (b :: rest)) :
    data[offset]? = some b ∧ Continues data (offset + 1) rest := by
  have ho : Continues data offset ([b] ++ rest) := h
  refine ⟨?_, ho.skip rfl⟩
  obtain ⟨f, rfl, rfl⟩ := h
  rw [List.getElem?_append_right (Nat.le_refl _), Nat.sub_self, List.getElem?_cons_zero]

end Continues

def leBytes (n value : Nat) : FixedBytes n := ⟨toLe n value, toLe_length n value⟩

namespace PreKeyBundle

variable {b : PreKeyBundle} {pk : Bytes} {sig : FixedBytes 64} {data : Bytes} {offset : Nat}
  {onetimeFlag pqFlag : UInt8} {extra : Bytes}

def middleBytes (b : PreKeyBundle) : Bytes :=
  b.bundleId.val ++ ((leBytes 8 b.timestamp.toNat).val ++ ((leBytes 8 b.expiration.toNat).val ++
    ((leBytes 4 b.deviceId.toNat).val ++ (b.rootIdentityKey.val ++ b.deviceSignature.val))))

@[simp] lemma middleBytes_length (b : PreKeyBundle) : b.middleBytes.length = 132 := by
  simp only [middleBytes, List.length_append, FixedBytes.length_val]

/-- A bundle in bytes, with its two flags and what stands before its signature. The parser takes any
byte but zero for a flag that is set, and does not look at the extra bytes. -/
def laidOut (b : PreKeyBundle) (pk : Bytes) (sig : FixedBytes 64) (onetimeFlag pqFlag : UInt8)
    (extra : Bytes) : Bytes :=
  b.identityKey.val ++ (b.signedPrekey.val ++ (b.signature.val ++
    (onetimeFlag :: (optionBytes b.onetimePrekey ++ (b.middleBytes ++
      (pqFlag :: (pk ++ (sig.val ++ (extra ++ b.bundleSignature.val)))))))))

lemma pqFromBytes_continues (hpk : pk.length = 1184) (hp : pqFlag ≠ 0)
    (h : Continues data offset (pqFlag :: (pk ++ (sig.val ++ extra)))) :
    pqFromBytes data offset = some (.ok (pk, sig)) := by
  have hl := h.length
  simp only [List.length_cons, List.length_append, sig.property] at hl
  obtain ⟨hf, h₁⟩ := h.byte
  obtain ⟨hk, h₂⟩ := Continues.slice (x := (⟨pk, hpk⟩ : FixedBytes 1184)) h₁
  obtain ⟨hsi, -⟩ := h₂.slice
  rw [pqFromBytes, if_pos (by omega), hf]
  simp only [Option.bind_eq_bind, Option.bind_some]
  rw [if_pos ⟨hp, by omega⟩, hk, hsi]
  rfl

lemma tailFromBytes_continues (hpk : pk.length = 1184) (hf : pqFlag ≠ 0)
    (h : Continues data offset (b.middleBytes ++ (pqFlag :: (pk ++ (sig.val ++ extra))))) :
    tailFromBytes data offset b.identityKey b.signedPrekey b.signature b.onetimePrekey
        b.bundleSignature =
      some (.ok { b with pqSignedPrekey := some pk, pqSignedPrekeySignature := some sig }) := by
  have hl := h.length
  simp only [List.length_cons, List.length_append, hpk, FixedBytes.length_val] at hl
  simp only [middleBytes, List.append_assoc] at h
  obtain ⟨hid, h₁⟩ := h.slice
  obtain ⟨hts, h₂⟩ := h₁.slice
  obtain ⟨hep, h₃⟩ := h₂.slice
  obtain ⟨hdv, h₄⟩ := h₃.slice
  obtain ⟨hr, h₅⟩ := h₄.slice
  obtain ⟨hs, h₆⟩ := h₅.slice
  have hpq := pqFromBytes_continues hpk hf h₆
  have hti : ∀ t : UInt64, UInt64.ofNat (fromLe (leBytes 8 t.toNat).val) = t := by
    intro t
    have hre : fromLe (leBytes 8 t.toNat).val = t.toNat := fromLe_toLe t.toNat_lt
    rw [hre, UInt64.ofNat_toNat]
  have hde : UInt32.ofNat (fromLe (leBytes 4 b.deviceId.toNat).val) = b.deviceId := by
    have hre : fromLe (leBytes 4 b.deviceId.toNat).val = b.deviceId.toNat :=
      fromLe_toLe b.deviceId.toNat_lt
    rw [hre, UInt32.ofNat_toNat]
  rw [tailFromBytes, if_neg (by omega), hid, hts, hep]
  simp only [Option.bind_eq_bind, Option.bind_some]
  rw [if_neg (by omega), hdv, hr, hs, hpq]
  simp only [Option.bind_some, hti, hde]
  rfl

section
variable (hpk : b.pqSignedPrekey = some pk)
include hpk

lemma toBytes_laidOut (hsi : b.pqSignedPrekeySignature = some sig) :
    b.toBytes = b.laidOut pk sig (flag b.onetimePrekey) 1 [] := by
  simp only [toBytes, signingBytes, laidOut, middleBytes, leBytes, hpk, hsi, flag,
    Option.isSome_some, if_true, Option.getD_some, Option.map_some, List.append_assoc,
    List.cons_append, List.nil_append]

lemma toBytes_length (hl : pk.length = 1184) (hsi : b.pqSignedPrekeySignature = some sig) :
    325 ≤ b.toBytes.length ∧ b.toBytes.length ≤ 2048 := by
  have ho : (optionBytes b.onetimePrekey).length ≤ 32 := by
    cases b.onetimePrekey <;> simp [optionBytes]
  rw [toBytes_laidOut hpk hsi]
  simp only [laidOut, List.length_append, List.length_cons, FixedBytes.length_val,
    middleBytes_length, List.length_nil]
  omega

lemma tailFromBytes_self (hl : pk.length = 1184) (hsi : b.pqSignedPrekeySignature = some sig)
    (hf : pqFlag ≠ 0)
    (h : Continues data offset (b.middleBytes ++ (pqFlag :: (pk ++ (sig.val ++ extra))))) :
    tailFromBytes data offset b.identityKey b.signedPrekey b.signature b.onetimePrekey
        b.bundleSignature = some (.ok b) := by
  rw [tailFromBytes_continues hl hf h]
  obtain ⟨ik, spk, sig', opk, id, ts, exp, dev, root, ds, bs, pq, p⟩ := b
  obtain rfl := hpk
  obtain rfl := hsi
  rfl

lemma fromBytes_laidOut (hl : pk.length = 1184) (hsg : b.pqSignedPrekeySignature = some sig)
    (ho : onetimeFlag ≠ 0 ↔ b.onetimePrekey.isSome = true) (hq : pqFlag ≠ 0) :
    fromBytes (b.laidOut pk sig onetimeFlag pqFlag extra) = some (.ok b) := by
  obtain ⟨payload, hp⟩ : ∃ payload, payload = b.identityKey.val ++ (b.signedPrekey.val ++
      (b.signature.val ++ (onetimeFlag :: (optionBytes b.onetimePrekey ++ (b.middleBytes ++
        (pqFlag :: (pk ++ (sig.val ++ extra)))))))) := ⟨_, rfl⟩
  generalize hda : b.laidOut pk sig onetimeFlag pqFlag extra = data
  have hpa : data = payload ++ b.bundleSignature.val := by
    rw [← hda, hp]
    simp only [laidOut, List.append_assoc, List.cons_append]
  have hb : data.length = payload.length + 64 := by grind
  have hm : 1510 ≤ payload.length := by
    rw [hp]
    simp only [List.length_append, List.length_cons, FixedBytes.length_val, middleBytes_length]
    omega
  have hst : data.length - 64 = payload.length := by omega
  have hen : slice 64 data payload.length = some b.bundleSignature :=
    (Continues.slice ⟨payload, rfl, by rw [hpa, List.append_nil]⟩).1
  have hta : data.take payload.length = payload := by
    rw [hpa, List.take_left]
  have h₀ : Continues payload 0 _ := ⟨[], rfl, hp⟩
  obtain ⟨hik, h₁⟩ := h₀.slice
  obtain ⟨hsp, h₂⟩ := h₁.slice
  obtain ⟨hsi, h₃⟩ := h₂.slice
  obtain ⟨hf, h₄⟩ := h₃.byte
  rw [fromBytes, if_neg (by omega)]
  simp only [hst, hen, hta, hik, hsp, hsi, hf, Option.bind_eq_bind, Option.bind_some]
  cases hop : b.onetimePrekey with
  | none =>
    rw [hop] at h₄ ho
    rw [if_neg (by simpa using ho), ← hop]
    exact tailFromBytes_self hpk hl hsg hq h₄
  | some key =>
    rw [hop] at h₄ ho
    obtain ⟨hk, h₅⟩ := h₄.slice
    rw [if_pos (ho.mpr rfl), hk, Option.bind_some, ← hop]
    exact tailFromBytes_self hpk hl hsg hq h₅

end

lemma flag_ne_zero {α : Type} (o : Option α) : flag o ≠ 0 ↔ o.isSome = true := by
  cases o <;> simp [flag]

section
variable (hpk : b.pqSignedPrekey = some pk) (hl : pk.length = 1184)
  (hsi : b.pqSignedPrekeySignature = some sig)
include hpk hl hsi

lemma fromBytes_toBytes : fromBytes b.toBytes = some (.ok b) := by
  rw [toBytes_laidOut hpk hsi]
  exact fromBytes_laidOut hpk hl hsi (flag_ne_zero _) (by decide)

lemma parse_toBytes : parse b.toBytes = .ok b :=
  Option.get_of_eq_some _ (fromBytes_toBytes hpk hl hsi)

end

lemma validatePq_some {S : Suite} {H : HandshakeSuite S} (h : validatePq H b = .ok ())
    (hpk : b.pqSignedPrekey = some pk) :
    pk.length = 1184 ∧ ∃ sig, b.pqSignedPrekeySignature = some sig := by
  unfold validatePq at h
  rw [hpk] at h
  simp only at h
  split at h
  · cases h
  rename_i hl
  refine ⟨not_not.mp hl, ?_⟩
  cases hsi : b.pqSignedPrekeySignature with
  | none =>
    rw [hsi] at h
    cases h
  | some sig => exact ⟨sig, rfl⟩

lemma pq_of_validate {S : Suite} {H : HandshakeSuite S} {cl : Option Nat}
    (h : b.validate H cl = .ok ()) (hpk : b.pqSignedPrekey = some pk) :
    pk.length = 1184 ∧ ∃ sig, b.pqSignedPrekeySignature = some sig :=
  validatePq_some (validate_ok h).2 hpk

end PreKeyBundle

end Sibna
