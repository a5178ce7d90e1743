import Sibna.Errors
import Sibna.Handshake.Suite

/-!
# X3DH

`handshake/x3dh.rs` with the `X3dhKdf` of `crypto/kdf.rs`, in the build with the post-quantum
feature.
-/

namespace Sibna

variable {S : Suite}

/-- What both roles hash, and the peer-to-peer handshake once more with Ed25519 identities. -/
structure Transcript where
  initiatorIdentity : Bytes32
  initiatorEphemeral : Bytes32
  responderIdentity : Bytes32
  responderSignedPrekey : Bytes32
  responderOnetimePrekey : Option Bytes32
  initiatorDeviceId : FixedBytes 16
  responderDeviceId : FixedBytes 16
  deriving DecidableEq

def optionBytes : Option Bytes32 → Bytes
  | none => []
  | some key => key.val

namespace Transcript

def bytes (t : Transcript) : Bytes :=
  t.initiatorIdentity.val ++ (t.initiatorEphemeral.val ++ (t.responderIdentity.val ++
    (t.responderSignedPrekey.val ++ (optionBytes t.responderOnetimePrekey ++
      (t.initiatorDeviceId.val ++ t.responderDeviceId.val)))))

lemma fixed_append_inj {n : Nat} {x y : FixedBytes n} {u v : Bytes}
    (h : x.val ++ u = y.val ++ v) : x = y ∧ u = v := by
  obtain ⟨hxy, huv⟩ := List.append_inj h (by rw [x.property, y.property])
  exact ⟨Subtype.ext hxy, huv⟩

lemma option_append_inj {o o' : Option Bytes32} {u v : Bytes} (hso : o.isSome = o'.isSome)
    (h : optionBytes o ++ u = optionBytes o' ++ v) : o = o' ∧ u = v := by
  cases o with
  | none =>
    cases o' with
    | none => exact ⟨rfl, h⟩
    | some key => cases hso
  | some key =>
    cases o' with
    | none => cases hso
    | some key' =>
      obtain ⟨rfl, huv⟩ := fixed_append_inj h
      exact ⟨rfl, huv⟩

lemma isSome_of_length {o o' : Option Bytes32} {u v : Bytes} (hle : u.length = v.length)
    (h : optionBytes o ++ u = optionBytes o' ++ v) : o.isSome = o'.isSome := by
  have hl := congrArg List.length h
  rw [List.length_append, List.length_append, hle] at hl
  cases o <;> cases o' <;> first | rfl | simp [optionBytes] at hl

lemma bytes_injective : Function.Injective bytes := by
  intro t t' h
  obtain ⟨ii, ie, ri, rs, ro, di, dr⟩ := t
  simp only [bytes] at h
  obtain ⟨hii, h₁⟩ := fixed_append_inj h
  obtain ⟨hie, h₂⟩ := fixed_append_inj h₁
  obtain ⟨hri, h₃⟩ := fixed_append_inj h₂
  obtain ⟨hrs, h₄⟩ := fixed_append_inj h₃
  obtain ⟨hro, h₅⟩ := option_append_inj (isSome_of_length (by simp) h₄) h₄
  obtain ⟨hdi, hdr⟩ := fixed_append_inj h₅
  rw [hii, hie, hri, hrs, hro, hdi, Subtype.ext hdr]

end Transcript

def HandshakeSuite.combinedTranscript (H : HandshakeSuite S) (ext : S.Key) (t : Transcript) :
    S.Key :=
  H.hkdfTranscript ext (H.blake3 t.bytes)

variable {H : HandshakeSuite S}

lemma HandshakeSuite.InjectiveKdf.combinedTranscript (hH : H.InjectiveKdf) {ext ext' : S.Key}
    {t t' : Transcript} (h : H.combinedTranscript ext t = H.combinedTranscript ext' t') :
    ext = ext' ∧ t = t' := by
  obtain ⟨het, hdi⟩ := hH.hkdfTranscript h
  exact ⟨het, Transcript.bytes_injective (hH.blake3 hdi)⟩

namespace X3dhKdf

/-- `SibnaX3DH_v3`. -/
def info : Bytes := [83, 105, 98, 110, 97, 88, 51, 68, 72, 95, 118, 51]

/-- `SibnaPQX3DH_v3`. -/
def pqInfo : Bytes := [83, 105, 98, 110, 97, 80, 81, 88, 51, 68, 72, 95, 118, 51]

lemma info_ne_pqInfo : info ≠ pqInfo := by decide

/-- The shared secrets of one run; the fourth is there with a one-time prekey. -/
structure DhResults where
  dh1 : Bytes32
  dh2 : Bytes32
  dh3 : Bytes32
  dh4 : Option Bytes32

namespace DhResults

def toList (dh : DhResults) : List Bytes32 := [dh.dh1, dh.dh2, dh.dh3] ++ dh.dh4.toList

def concatenated (dh : DhResults) : Bytes :=
  dh.dh1.val ++ dh.dh2.val ++ dh.dh3.val ++ optionBytes dh.dh4

lemma length_toList (dh : DhResults) : dh.toList.length = 3 ∨ dh.toList.length = 4 := by
  obtain ⟨dh1, dh2, dh3, dh4⟩ := dh
  cases dh4 with
  | none => exact .inl rfl
  | some dh4 => exact .inr rfl

end DhResults

def deriveSharedSecret (H : HandshakeSuite S) (dh : DhResults) (transcriptHash : S.Key) : S.Key :=
  H.hkdfX3dh transcriptHash dh.concatenated info

def derivePqSharedSecret (H : HandshakeSuite S) (dh : DhResults) (pqSharedSecret : Bytes32)
    (transcriptHash : S.Key) : S.Key :=
  H.hkdfX3dh transcriptHash (dh.concatenated ++ pqSharedSecret.val) pqInfo

end X3dhKdf

structure X3dhResult (S : Suite) where
  sharedSecret : S.Key
  dhResults : List Bytes32
  pqCiphertext : Option Bytes

namespace X3dhResult

def validate (r : X3dhResult S) : Except ProtocolError Unit :=
  if isZero (S.keyBytes r.sharedSecret).val then .error .invalidArgument
  else if r.dhResults.isEmpty || r.dhResults.length > 4 then .error .invalidArgument
  else
    match r.pqCiphertext with
    | none => .ok ()
    | some ct => if ct.length ≠ 1088 then .error .invalidArgument else .ok ()

def validated (r : X3dhResult S) : Except ProtocolError (X3dhResult S) :=
  match r.validate with
  | .error e => .error e
  | .ok () => .ok r

lemma validated_ok {r r' : X3dhResult S} (h : r.validated = .ok r') : r' = r := by
  unfold validated at h
  split at h
  · cases h
  · exact (Except.ok.inj h).symm

lemma validated_eq {r : X3dhResult S} (hdh : r.dhResults.length = 3 ∨ r.dhResults.length = 4)
    (hct : ∀ ct, r.pqCiphertext = some ct → ct.length = 1088) :
    r.validated =
      if isZero (S.keyBytes r.sharedSecret).val then .error .invalidArgument else .ok r := by
  have hem : (r.dhResults.isEmpty || decide (r.dhResults.length > 4)) = false := by
    rw [Bool.or_eq_false_iff, List.isEmpty_eq_false_iff, decide_eq_false_iff_not]
    refine ⟨?_, by omega⟩
    intro hn
    rw [hn, List.length_nil] at hdh
    omega
  unfold validated validate
  simp only [hem, Bool.false_eq_true, if_false]
  split_ifs with hz
  · rfl
  · cases hpq : r.pqCiphertext with
    | none => rfl
    | some ct => simp only [hct ct hpq, ne_eq, not_true_eq_false, if_false]

end X3dhResult

namespace MlKem768
variable (K : MlKem768)

/-- `EncapsKey::try_from_bytes` and `try_encaps`; `none` is a failing random generator. -/
def tryEncaps (pk : Bytes) (random : Option Bytes32) : Except ProtocolError (Bytes32 × Bytes) :=
  if h : pk.length = 1184 then
    if K.encapsKeyOk ⟨pk, h⟩ then
      match random with
      | none => .error .keyDerivationFailed
      | some m => .ok ((K.encaps ⟨pk, h⟩ m).1, (K.encaps ⟨pk, h⟩ m).2.val)
    else .error .invalidKey
  else .error .invalidKeyLength

/-- Both lengths are looked at before either is parsed. -/
def tryDecaps (sk ct : Bytes) : Except ProtocolError Bytes32 :=
  if hsk : sk.length = 2400 then
    if hct : ct.length = 1088 then
      if K.decapsKeyOk ⟨sk, hsk⟩ then
        if K.cipherTextOk ⟨ct, hct⟩ then
          match K.decaps ⟨sk, hsk⟩ ⟨ct, hct⟩ with
          | none => .error .keyDerivationFailed
          | some ss => .ok ss
        else .error .invalidCiphertext
      else .error .invalidKey
    else .error .invalidCiphertext
  else .error .invalidKeyLength

variable {K}

lemma tryEncaps_ok {pk : FixedBytes 1184} {random : Option Bytes32} {ss : Bytes32} {ct : Bytes}
    (h : K.tryEncaps pk.val random = .ok (ss, ct)) :
    ∃ m, random = some m ∧ ss = (K.encaps pk m).1 ∧ ct = (K.encaps pk m).2.val := by
  unfold tryEncaps at h
  rw [dif_pos pk.property] at h
  split at h
  · split at h
    · cases h
    · simp_all
  · cases h

lemma tryEncaps_length {pk : Bytes} {random : Option Bytes32} {ss : Bytes32} {ct : Bytes}
    (h : K.tryEncaps pk random = .ok (ss, ct)) : ct.length = 1088 := by
  have hpk : pk.length = 1184 := by
    by_contra hne
    unfold tryEncaps at h
    rw [dif_neg hne] at h
    cases h
  obtain ⟨m, -, -, rfl⟩ := tryEncaps_ok (show K.tryEncaps (⟨pk, hpk⟩ : FixedBytes 1184).val
    random = .ok _ from h)
  exact (K.encaps ⟨pk, hpk⟩ m).2.property

lemma Correct.tryEncaps (hK : K.Correct) (d : FixedBytes 64) (m : Bytes32) :
    K.tryEncaps (K.keyGen d).1.val (some m) =
      .ok ((K.encaps (K.keyGen d).1 m).1, (K.encaps (K.keyGen d).1 m).2.val) := by
  unfold MlKem768.tryEncaps
  rw [dif_pos (K.keyGen d).1.property, if_pos (hK.encapsKey d)]

lemma Correct.tryDecaps (hK : K.Correct) (d : FixedBytes 64) (m : Bytes32) :
    K.tryDecaps (K.keyGen d).2.val (K.encaps (K.keyGen d).1 m).2.val =
      .ok (K.encaps (K.keyGen d).1 m).1 := by
  unfold MlKem768.tryDecaps
  rw [dif_pos (K.keyGen d).2.property, dif_pos (K.encaps (K.keyGen d).1 m).2.property,
    if_pos (hK.decapsKey d), if_pos (hK.cipherText d m)]
  simp only [hK.decaps_encaps]

end MlKem768

structure InitiatorArgs (S : Suite) where
  ourIdentity : S.Scalar
  ourEphemeral : S.Scalar
  peerIdentity : Bytes32
  peerSignedPrekey : Bytes32
  peerOnetimePrekey : Option Bytes32
  peerPqPk : Option Bytes
  ourDeviceId : FixedBytes 16
  peerDeviceId : FixedBytes 16
  transcriptHashExt : S.Key

structure ResponderArgs (S : Suite) where
  ourIdentity : S.Scalar
  ourSignedPrekey : S.Scalar
  ourOnetimePrekey : Option S.Scalar
  peerIdentity : Bytes32
  peerEphemeral : Bytes32
  ourPqSk : Option Bytes
  peerPqCt : Option Bytes
  ourDeviceId : FixedBytes 16
  peerDeviceId : FixedBytes 16
  transcriptHashExt : S.Key

namespace InitiatorArgs

def dhResults (H : HandshakeSuite S) (a : InitiatorArgs S) : X3dhKdf.DhResults where
  dh1 := H.sharedBytes (S.diffieHellman a.ourIdentity a.peerSignedPrekey)
  dh2 := H.sharedBytes (S.diffieHellman a.ourEphemeral a.peerIdentity)
  dh3 := H.sharedBytes (S.diffieHellman a.ourEphemeral a.peerSignedPrekey)
  dh4 := a.peerOnetimePrekey.map fun opk => H.sharedBytes (S.diffieHellman a.ourEphemeral opk)

def transcript (a : InitiatorArgs S) : Transcript where
  initiatorIdentity := S.publicKey a.ourIdentity
  initiatorEphemeral := S.publicKey a.ourEphemeral
  responderIdentity := a.peerIdentity
  responderSignedPrekey := a.peerSignedPrekey
  responderOnetimePrekey := a.peerOnetimePrekey
  initiatorDeviceId := a.ourDeviceId
  responderDeviceId := a.peerDeviceId

end InitiatorArgs

namespace ResponderArgs

def dhResults (H : HandshakeSuite S) (a : ResponderArgs S) : X3dhKdf.DhResults where
  dh1 := H.sharedBytes (S.diffieHellman a.ourSignedPrekey a.peerIdentity)
  dh2 := H.sharedBytes (S.diffieHellman a.ourIdentity a.peerEphemeral)
  dh3 := H.sharedBytes (S.diffieHellman a.ourSignedPrekey a.peerEphemeral)
  dh4 := a.ourOnetimePrekey.map fun opk => H.sharedBytes (S.diffieHellman opk a.peerEphemeral)

def transcript (a : ResponderArgs S) : Transcript where
  initiatorIdentity := a.peerIdentity
  initiatorEphemeral := a.peerEphemeral
  responderIdentity := S.publicKey a.ourIdentity
  responderSignedPrekey := S.publicKey a.ourSignedPrekey
  responderOnetimePrekey := a.ourOnetimePrekey.map S.publicKey
  initiatorDeviceId := a.peerDeviceId
  responderDeviceId := a.ourDeviceId

end ResponderArgs

open X3dhKdf

/-- `random` is what `try_encaps` draws. -/
def x3dhInitiatorV3 (H : HandshakeSuite S) (a : InitiatorArgs S) (random : Option Bytes32) :
    Except ProtocolError (X3dhResult S) :=
  let dh := a.dhResults H
  let combined := H.combinedTranscript a.transcriptHashExt a.transcript
  match a.peerPqPk with
  | none => X3dhResult.validated ⟨deriveSharedSecret H dh combined, dh.toList, none⟩
  | some pk =>
    match H.kem.tryEncaps pk random with
    | .error e => .error e
    | .ok (ss, ct) =>
      X3dhResult.validated ⟨derivePqSharedSecret H dh ss combined, dh.toList, some ct⟩

/-- With only one of the secret key and the ciphertext the run is a classical one. -/
def x3dhResponderV3 (H : HandshakeSuite S) (a : ResponderArgs S) :
    Except ProtocolError (X3dhResult S) :=
  let dh := a.dhResults H
  let combined := H.combinedTranscript a.transcriptHashExt a.transcript
  match a.ourPqSk, a.peerPqCt with
  | some sk, some ct =>
    match H.kem.tryDecaps sk ct with
    | .error e => .error e
    | .ok ss => X3dhResult.validated ⟨derivePqSharedSecret H dh ss combined, dh.toList, none⟩
  | _, _ => X3dhResult.validated ⟨deriveSharedSecret H dh combined, dh.toList, none⟩

lemma validated_derived (hN : H.NonzeroKdf) (salt : S.Key) (ikm info : Bytes) (dh : DhResults)
    {ct : Option Bytes} (hct : ∀ c, ct = some c → c.length = 1088) :
    X3dhResult.validated ⟨H.hkdfX3dh salt ikm info, dh.toList, ct⟩ =
      .ok ⟨H.hkdfX3dh salt ikm info, dh.toList, ct⟩ := by
  rw [X3dhResult.validated_eq (DhResults.length_toList dh) hct, if_neg]
  exact Bool.eq_false_iff.mp (hN salt ikm info)

lemma x3dhResponderV3_classical (hN : H.NonzeroKdf) {a : ResponderArgs S}
    (hct : a.peerPqCt = none) :
    ∃ r, x3dhResponderV3 H a = .ok r ∧ isZero (S.keyBytes r.sharedSecret).val = false := by
  have hn : ∀ c : Bytes, (none : Option Bytes) = some c → c.length = 1088 := by
    rintro c ⟨⟩
  refine ⟨⟨deriveSharedSecret H (a.dhResults H)
    (H.combinedTranscript a.transcriptHashExt a.transcript), (a.dhResults H).toList, none⟩, ?_,
    hN _ _ _⟩
  cases hsk : a.ourPqSk <;>
    simp only [x3dhResponderV3, hct, hsk] <;>
    exact validated_derived hN _ _ _ _ hn

variable {r : X3dhResult S}

section
variable {a : InitiatorArgs S} {random : Option Bytes32} (h : x3dhInitiatorV3 H a random = .ok r)
include h

lemma x3dhInitiatorV3_ok : (a.peerPqPk = none ∧ r.pqCiphertext = none ∧
      r.sharedSecret = deriveSharedSecret H (a.dhResults H)
        (H.combinedTranscript a.transcriptHashExt a.transcript)) ∨
    ∃ pk ss ct, a.peerPqPk = some pk ∧ H.kem.tryEncaps pk random = .ok (ss, ct) ∧
      r.pqCiphertext = some ct ∧
      r.sharedSecret = derivePqSharedSecret H (a.dhResults H) ss
        (H.combinedTranscript a.transcriptHashExt a.transcript) := by
  simp only [x3dhInitiatorV3] at h
  split at h
  · rename_i hpk
    obtain rfl := X3dhResult.validated_ok h
    exact .inl ⟨hpk, rfl, rfl⟩
  rename_i pk hpk
  split at h
  · cases h
  · rename_i ss ct hen
    obtain rfl := X3dhResult.validated_ok h
    exact .inr ⟨pk, ss, ct, hpk, hen, rfl, rfl⟩

lemma x3dhInitiatorV3_ciphertext : ∀ ct, r.pqCiphertext = some ct → ct.length = 1088 := by
  intro ct hct
  rcases x3dhInitiatorV3_ok h with ⟨-, hn, -⟩ | ⟨pk, ss, ct', -, hen, hc', -⟩
  · rw [hn] at hct
    cases hct
  · grind [MlKem768.tryEncaps_length]

end

lemma x3dhResponderV3_ok {a : ResponderArgs S} (h : x3dhResponderV3 H a = .ok r) :
    ((a.ourPqSk = none ∨ a.peerPqCt = none) ∧
      r.sharedSecret = deriveSharedSecret H (a.dhResults H)
        (H.combinedTranscript a.transcriptHashExt a.transcript)) ∨
    ∃ sk ct ss, a.ourPqSk = some sk ∧ a.peerPqCt = some ct ∧ H.kem.tryDecaps sk ct = .ok ss ∧
      r.sharedSecret = derivePqSharedSecret H (a.dhResults H) ss
        (H.combinedTranscript a.transcriptHashExt a.transcript) := by
  simp only [x3dhResponderV3] at h
  split at h
  · rename_i sk ct hsk hct
    split at h
    · cases h
    · rename_i ss hde
      obtain rfl := X3dhResult.validated_ok h
      exact .inr ⟨sk, ct, ss, hsk, hct, hde, rfl⟩
  · rename_i hn
    obtain rfl := X3dhResult.validated_ok h
    refine .inl ⟨?_, rfl⟩
    cases hsk : a.ourPqSk with
    | none => exact .inl rfl
    | some sk =>
      cases hct : a.peerPqCt with
      | none => exact .inr rfl
      | some ct => exact (hn sk ct hsk hct).elim

inductive X3dhRun (S : Suite) where
  | initiator (args : InitiatorArgs S) (random : Option Bytes32)
  | responder (args : ResponderArgs S)

namespace X3dhRun

def exec (H : HandshakeSuite S) : X3dhRun S → Except ProtocolError (X3dhResult S)
  | initiator args random => x3dhInitiatorV3 H args random
  | responder args => x3dhResponderV3 H args

def transcript : X3dhRun S → Transcript
  | initiator args _ => args.transcript
  | responder args => args.transcript

def transcriptHashExt : X3dhRun S → S.Key
  | initiator args _ => args.transcriptHashExt
  | responder args => args.transcriptHashExt

def hybrid : X3dhRun S → Bool
  | initiator args _ => args.peerPqPk.isSome
  | responder args => args.ourPqSk.isSome && args.peerPqCt.isSome

lemma sharedSecret_eq {H : HandshakeSuite S} {run : X3dhRun S} {r : X3dhResult S}
    (h : run.exec H = .ok r) :
    ∃ ikm, r.sharedSecret =
      H.hkdfX3dh (H.combinedTranscript run.transcriptHashExt run.transcript) ikm
        (if run.hybrid then pqInfo else info) := by
  cases run with
  | initiator args random =>
    rcases x3dhInitiatorV3_ok h with ⟨hpk, -, hs⟩ | ⟨pk, ss, ct, hpk, -, -, hs⟩
    · refine ⟨(args.dhResults H).concatenated, ?_⟩
      simp only [hybrid, hpk]
      exact hs
    · refine ⟨(args.dhResults H).concatenated ++ ss.val, ?_⟩
      simp only [hybrid, hpk]
      exact hs
  | responder args =>
    rcases x3dhResponderV3_ok h with ⟨hn, hs⟩ | ⟨sk, ct, ss, hsk, hct, -, hs⟩
    · refine ⟨(args.dhResults H).concatenated, ?_⟩
      have hm : (args.ourPqSk.isSome && args.peerPqCt.isSome) = false := by grind
      simp only [hybrid, hm]
      exact hs
    · refine ⟨(args.dhResults H).concatenated ++ ss.val, ?_⟩
      simp only [hybrid, hsk, hct]
      exact hs

lemma sharedSecret_nonzero {H : HandshakeSuite S} (hN : H.NonzeroKdf) (run : X3dhRun S)
    {r : X3dhResult S} (h : run.exec H = .ok r) :
    isZero (S.keyBytes r.sharedSecret).val = false := by
  obtain ⟨ikm, hs⟩ := sharedSecret_eq h
  rw [hs]
  exact hN _ _ _

end X3dhRun

/-- The secrets of both parties of a handshake, and what they agree on beforehand. -/
structure X3dhParties (S : Suite) where
  initiatorIdentity : S.Scalar
  initiatorEphemeral : S.Scalar
  responderIdentity : S.Scalar
  responderSignedPrekey : S.Scalar
  responderOnetimePrekey : Option S.Scalar
  /-- The seed of the responder's ML-KEM key pair. -/
  pqSeed : Option (FixedBytes 64)
  initiatorDeviceId : FixedBytes 16
  responderDeviceId : FixedBytes 16
  transcriptHashExt : S.Key

namespace X3dhParties

def initiatorArgs (H : HandshakeSuite S) (p : X3dhParties S) : InitiatorArgs S where
  ourIdentity := p.initiatorIdentity
  ourEphemeral := p.initiatorEphemeral
  peerIdentity := S.publicKey p.responderIdentity
  peerSignedPrekey := S.publicKey p.responderSignedPrekey
  peerOnetimePrekey := p.responderOnetimePrekey.map S.publicKey
  peerPqPk := p.pqSeed.map fun d => (H.kem.keyGen d).1.val
  ourDeviceId := p.initiatorDeviceId
  peerDeviceId := p.responderDeviceId
  transcriptHashExt := p.transcriptHashExt

def responderArgs (H : HandshakeSuite S) (p : X3dhParties S) (pqCiphertext : Option Bytes) :
    ResponderArgs S where
  ourIdentity := p.responderIdentity
  ourSignedPrekey := p.responderSignedPrekey
  ourOnetimePrekey := p.responderOnetimePrekey
  peerIdentity := S.publicKey p.initiatorIdentity
  peerEphemeral := S.publicKey p.initiatorEphemeral
  ourPqSk := p.pqSeed.map fun d => (H.kem.keyGen d).2.val
  peerPqCt := pqCiphertext
  ourDeviceId := p.responderDeviceId
  peerDeviceId := p.initiatorDeviceId
  transcriptHashExt := p.transcriptHashExt

variable {H : HandshakeSuite S}

lemma transcript_responderArgs (p : X3dhParties S) (ct : Option Bytes) :
    (p.responderArgs H ct).transcript = (p.initiatorArgs H).transcript :=
  rfl

lemma dhResults_responderArgs (hco : S.CommutativeDh) (p : X3dhParties S) (ct : Option Bytes) :
    (p.responderArgs H ct).dhResults H = (p.initiatorArgs H).dhResults H := by
  have h4 : (p.responderOnetimePrekey.map fun opk =>
      H.sharedBytes (S.diffieHellman opk (S.publicKey p.initiatorEphemeral))) =
      (p.responderOnetimePrekey.map S.publicKey).map fun opk =>
        H.sharedBytes (S.diffieHellman p.initiatorEphemeral opk) := by
    rw [Option.map_map]
    apply Option.map_congr
    intro opk _
    rw [hco opk]
    rfl
  simp only [InitiatorArgs.dhResults, ResponderArgs.dhResults, initiatorArgs, responderArgs, h4,
    hco p.responderSignedPrekey, hco p.responderIdentity]

end X3dhParties

end Sibna
