import Sibna.Server.Relay

/-!
# Authentication

`challenge_handler` and `prove_handler` of `auth.rs`.
-/

namespace Sibna.Server.Auth

open Interleaving Text

/-- The claims of a token; times are in seconds. -/
structure Claims where
  sub : Bytes
  iat : Int
  exp : Int
  device : Bytes
  deriving DecidableEq

structure RegisterRequest where
  identityKeyHex : Bytes

structure ChallengeResponse where
  challengeHex : Bytes
  expiresIn : Nat
  deriving DecidableEq

structure ProveRequest where
  identityKeyHex : Bytes
  challengeHex : Bytes
  signatureHex : Bytes

structure TokenResponse where
  token : Bytes
  expiresIn : Nat
  deriving DecidableEq

inductive Answer where
  | challenge (response : ChallengeResponse)
  | token (response : TokenResponse)
  | error (message : String)
  deriving DecidableEq

/-- What the server checks and signs with: HMAC-SHA256 under a key, and the encoding of claims as a
token under the secret; and whether its log takes warnings. -/
structure Authority where
  ed : Ed25519
  hmac : Bytes → Bytes → Bytes32
  encode : Claims → Bytes → Option Bytes
  jwtSecret : Bytes
  logsWarnings : Bool

variable (A : Authority)

inductive Op where
  | enforceRateLimit (operation : String) (identity : Bytes)
  | fillBytes
  | now
  | tree (op : TreeOp Bytes)
  | respond (response : Response Answer)

@[reducible] def Op.Ans : Op → Type
  | .enforceRateLimit _ _ => Option String
  | .fillBytes => Bytes32
  | .now => Relay.Timestamp
  | .tree op => op.Ans
  | .respond _ => Unit

/-- What an operation meets: the error of the rate limiter if it refuses, random bytes, the clock,
the transaction. -/
structure OpEnv where
  refusal : Option String
  random : Bytes32
  clock : Relay.Timestamp
  access : Access

def act (e : OpEnv) : (op : Op) → Table Bytes → op.Ans × Table Bytes
  | .enforceRateLimit _ _, t => (e.refusal, t)
  | .fillBytes, t => (e.random, t)
  | .now, t => (e.clock, t)
  | .tree op, t => Table.act e.access op t
  | .respond _, t => ((), t)

abbrev Handler := Prog Op Op.Ans

def perform (op : Op) : Handler op.Ans := Prog.perform op

def challengeKey (identity : Bytes) : Bytes := utf8 "challenge:" ++ identity

def storedChallenge (challenge : Bytes32) (now : Relay.Timestamp) : Bytes :=
  hexEncode challenge.val ++
    colon :: (hexEncode (A.hmac A.jwtSecret (hexEncode challenge.val)).val ++
      colon :: decimal (now.val + 60).toNat)

def challengeHandler (req : RegisterRequest) : Handler (Response Answer) := do
  match ← perform (.enforceRateLimit "auth_challenge" req.identityKeyHex) with
  | some text => return tooManyRequests text
  | none =>
    if req.identityKeyHex.length ≠ 64 then
      return ⟨.badRequest, .json (.error "invalid identity_key length")⟩
    else
      let challenge ← perform .fillBytes
      let now ← perform .now
      -- the error is ignored
      let _ ← perform
        (.tree (.insert (challengeKey req.identityKeyHex) (storedChallenge A challenge now)))
      return ⟨.ok, .json (.challenge ⟨hexEncode challenge.val, 60⟩)⟩

/-- How a proof is turned down: the challenge stays, or is removed, or the handler panics. -/
inductive Refusal where
  | left (status : Status) (text : String)
  | removed (status : Status) (text : String)
  | panicked

def integrityError : Refusal := .removed .internalServerError "Challenge integrity error"

def cutsAt16 (text : Bytes) : Bool :=
  match text[16]? with
  | none => true
  | some b => b &&& 0xC0 != 0x80

/-- The stored challenge, as far as its HMAC and its format are right, with the end of its time. -/
def inspect (identity stored : Bytes) : Except Refusal (Bytes × Int) :=
  match splitThree colon stored with
  | none => .error (.left .internalServerError "Bad challenge format")
  | some (challengeHex, macHex, expires) =>
    match hexDecode macHex with
    | none => .error integrityError
    | some mac =>
      if (A.hmac A.jwtSecret challengeHex).val ≠ mac then
        -- the warning has the first 16 bytes of the identity
        .error (if A.logsWarnings && !cutsAt16 identity then .panicked else integrityError)
      else
        match parseI64 expires with
        | none => .error (.removed .internalServerError "Bad challenge format")
        | some expiresAt => .ok (challengeHex, expiresAt)

def examine (req : ProveRequest) (expectedHex : Bytes) (expiresAt : Int) (now : Relay.Timestamp) :
    Except Refusal Unit := do
  ensure (decide (now.val ≤ expiresAt)) (.removed .unauthorized "Challenge expired")
  let challenge ← okOr (hexDecode req.challengeHex) (.left .badRequest "Invalid challenge hex")
  let expected ← okOr (hexDecode expectedHex) integrityError
  ensure (decide (challenge = expected)) (.left .unauthorized "Challenge mismatch")
  let keyBytes ← okOr (hexDecode req.identityKeyHex) (.left .badRequest "Invalid identity_key hex")
  let key ← tryInto 32 keyBytes (.left .badRequest "Invalid identity_key hex")
  let sigBytes ← okOr (hexDecode req.signatureHex) (.left .badRequest "Invalid signature hex")
  let signature ← tryInto 64 sigBytes (.left .badRequest "Invalid signature hex")
  ensure (A.ed.verifyingKeyOk key) (.left .badRequest "Invalid Ed25519 public key")
  ensure (A.ed.verify key challenge signature)
    (.left .unauthorized "Signature verification failed")

def refuse (key : Bytes) : Refusal → Handler (Option (Response Answer))
  | .left status text => return some ⟨status, .text text⟩
  | .removed status text => do
    let _ ← perform (.tree (.remove key))
    return some ⟨status, .text text⟩
  | .panicked => return none

def claimsAt (identity : Bytes) (now : Relay.Timestamp) : Claims where
  sub := identity
  iat := now.val
  exp := now.val + 86400
  device := utf8 "default"

def issueToken (identity : Bytes) (now : Relay.Timestamp) : Response Answer :=
  match A.encode (claimsAt identity now) A.jwtSecret with
  | none => ⟨.internalServerError, .text "Failed to issue token"⟩
  | some token => ⟨.ok, .json (.token ⟨token, 86400⟩)⟩

def proveHandler (req : ProveRequest) : Handler (Option (Response Answer)) := do
  match ← perform (.enforceRateLimit "auth_prove" req.identityKeyHex) with
  | some text => return some (tooManyRequests text)
  | none =>
    match ← perform (.tree (.get (challengeKey req.identityKeyHex))) with
    | some (some stored) =>
      match inspect A req.identityKeyHex stored with
      | .error r => refuse (challengeKey req.identityKeyHex) r
      | .ok (expectedHex, expiresAt) =>
        match examine A req expectedHex expiresAt (← perform .now) with
        | .error r => refuse (challengeKey req.identityKeyHex) r
        | .ok () =>
          let _ ← perform (.tree (.remove (challengeKey req.identityKeyHex)))
          return some (issueToken A req.identityKeyHex (← perform .now))
    | _ => return some ⟨.unauthorized, .text "No pending challenge"⟩

inductive Call where
  | challenge (req : RegisterRequest)
  | prove (req : ProveRequest)

def handle : Call → Handler (Option (Response Answer))
  | .challenge req => do return some (← challengeHandler A req)
  | .prove req => proveHandler A req

def answer : Option (Response Answer) → Handler Unit
  | none => return ()
  | some response => perform (.respond response)

@[reducible] def auth : System where
  Op := Op
  Ans := Op.Ans
  Shared := Table Bytes
  Env := OpEnv
  Call := Call
  Result := Unit
  act := act
  body := fun c => do answer (← handle A c)

def authenticated (es : Schedule (auth A)) : World (auth A) :=
  Runs.exec World.step (World.initial (M := auth A) ∅) es

lemma decimal_range {now : Relay.Timestamp} :
    (now.val + 60).toNat < 2 ^ 63 ∧ (((now.val + 60).toNat : Nat) : Int) = now.val + 60 := by
  have hra := now.property
  omega

lemma inspect_storedChallenge (i : Bytes) (ch : Bytes32) (now : Relay.Timestamp) :
    inspect A i (storedChallenge A ch now) = .ok (hexEncode ch.val, now.val + 60) := by
  unfold inspect storedChallenge
  rw [splitThree_append (colon_notMem_hexEncode _) (colon_notMem_hexEncode _)]
  simp only [hexDecode_hexEncode, ne_eq, not_true_eq_false, if_false,
    parseI64_decimal decimal_range.1, decimal_range.2]

structure Presents (req : ProveRequest) (key : Bytes32) (challenge : Bytes)
    (signature : FixedBytes 64) : Prop where
  identity : hexDecode req.identityKeyHex = some key.val
  challenge : hexDecode req.challengeHex = some challenge
  signature : hexDecode req.signatureHex = some signature.val

lemma presents_of_examine {req : ProveRequest} {ch : Bytes} {ea : Int} {now : Relay.Timestamp}
    (h : examine A req (hexEncode ch) ea now = .ok ()) : now.val ≤ ea ∧ ∃ key signature,
    Presents req key ch signature ∧ A.ed.verify key ch signature = true := by
  simp only [examine, bind_ok, ensure_ok, okOr_ok, tryInto_ok, hexDecode_hexEncode,
    decide_eq_true_eq] at h
  obtain ⟨-, hn, p, hch, ex, hep, -, rfl, _, hid, key, rfl, _, hsi, signature, rfl, -, -, hv⟩ := h
  cases hep
  exact ⟨hn, key, signature, ⟨hid, hch, hsi⟩, hv⟩

def tokenOf : Response Answer → Option Bytes
  | ⟨_, .json (.token response)⟩ => some response.token
  | _ => none

def Op.isInsert : Op → Bool
  | .tree (.insert _ _) => true
  | _ => false

def Op.isWork : Op → Bool
  | .enforceRateLimit _ _ => false
  | _ => true

def Op.isRemove : Op → Bool
  | .tree (.remove _) => true
  | _ => false

def Op.isRespond : Op → Bool
  | .respond _ => true
  | _ => false

/-- The challenge that a request has drawn. -/
abbrev drawn : History Op Op.Ans → Option Bytes32 :=
  firstOf fun d => match d with
    | ⟨.fillBytes, ans⟩ => some ans
    | _ => none

/-- The first reading of the clock. -/
abbrev firstReading : History Op Op.Ans → Option Relay.Timestamp :=
  firstOf fun d => match d with
    | ⟨.now, ans⟩ => some ans
    | _ => none

def Made (past : History Op Op.Ans) (value : Bytes) : Prop :=
  ∃ challenge now, drawn past = some challenge ∧ firstReading past = some now ∧
    value = storedChallenge A challenge now

def Passed (req : ProveRequest) (past : History Op Op.Ans) : Prop :=
  ∃ stored expectedHex expiresAt now,
    ⟨.tree (.get (challengeKey req.identityKeyHex)), some (some stored)⟩ ∈ past ∧
    firstReading past = some now ∧
    inspect A req.identityKeyHex stored = .ok (expectedHex, expiresAt) ∧
    examine A req expectedHex expiresAt now = .ok ()

def ChallengeDoes (req : RegisterRequest) (past : History Op Op.Ans) : Op → Prop
  | .enforceRateLimit _ _ => True
  | .fillBytes => True
  | .now => True
  | .tree (.insert key value) => Without Op.isInsert past ∧ key = challengeKey req.identityKeyHex ∧
      Made A past value
  | .tree _ => False
  | .respond response => tokenOf response = none

def ProveDoes (req : ProveRequest) (past : History Op Op.Ans) : Op → Prop
  | .enforceRateLimit _ _ => True
  | .fillBytes => False
  | .now => True
  | .tree (.get key) => key = challengeKey req.identityKeyHex ∧ Without Op.isWork past
  | .tree (.remove key) => Without Op.isRemove past ∧ Without Op.isRespond past ∧
      ∃ stored, ⟨.tree (.get key), some (some stored)⟩ ∈ past
  | .tree _ => False
  | .respond response => Without Op.isRespond past ∧
      ∀ token, tokenOf response = some token → Passed A req past ∧
        (∀ key ans, ⟨.tree (.get key), ans⟩ ∈ past → ∃ re, ⟨.tree (.remove key), re⟩ ∈ past) ∧
        ∃ now, A.encode (claimsAt req.identityKeyHex now) A.jwtSecret = some token

def Does (c : Call) (past : History Op Op.Ans) : Op → Prop :=
  match c with
  | .challenge req => ChallengeDoes A req past
  | .prove req => ProveDoes A req past

lemma always_challenge (req : RegisterRequest) :
    (challengeHandler A req).Always (auth A).Possible (ChallengeDoes A req)
    (fun past response => ChallengeDoes A req past (.respond response)) [] := by
  refine Prog.always_perform trivial fun r _ => ?_
  cases r with
  | some text => rfl
  | none =>
    simp only
    split
    · rfl
    refine Prog.always_perform trivial fun ch _ => ?_
    refine Prog.always_perform trivial fun now _ => ?_
    refine Prog.always_perform ⟨?_, rfl, ch, now, rfl, rfl, rfl⟩ fun _ _ => rfl
    exact (((Without.nil _).cons rfl).cons rfl).cons rfl

lemma proveDoes_respond {req : ProveRequest} {past : History Op Op.Ans} {x : Response Answer}
    (hpa : Without Op.isRespond past) (hto : tokenOf x = none) :
    ProveDoes A req past (.respond x) := by
  refine ⟨hpa, fun tk htk => ?_⟩
  cases hto.symm.trans htk

lemma proveDoes_remove_now {req : ProveRequest} {past : History Op Op.Ans} {key : Bytes}
    (now : Relay.Timestamp) (h : ProveDoes A req past (.tree (.remove key))) :
    ProveDoes A req (⟨.now, now⟩ :: past) (.tree (.remove key)) := by
  obtain ⟨hre, han, st, hg⟩ := h
  exact ⟨hre.cons rfl, han.cons rfl, st, List.mem_cons_of_mem _ hg⟩

lemma always_refuse (req : ProveRequest) (key : Bytes) (r : Refusal) {past : History Op Op.Ans}
    (hdo : ProveDoes A req past (.tree (.remove key))) :
    (refuse key r).Always (auth A).Possible (ProveDoes A req)
    (fun past response => ∀ x ∈ response, ProveDoes A req past (.respond x)) past := by
  have hpa : Without Op.isRespond past := hdo.2.1
  cases r with
  | left st text =>
    rintro x ⟨⟩
    exact proveDoes_respond A hpa rfl
  | removed st text =>
    refine Prog.always_perform hdo fun _ _ => ?_
    rintro x ⟨⟩
    exact proveDoes_respond A (hpa.cons rfl) rfl
  | panicked => exact nofun

lemma always_prove (req : ProveRequest) :
    (proveHandler A req).Always (auth A).Possible (ProveDoes A req)
    (fun past response => ∀ x ∈ response, ProveDoes A req past (.respond x)) [] := by
  refine Prog.always_perform trivial fun r _ => ?_
  cases r with
  | some text =>
    rintro x ⟨⟩
    exact proveDoes_respond A ((Without.nil _).cons rfl) rfl
  | none =>
    refine Prog.always_perform ⟨rfl, (Without.nil _).cons rfl⟩ fun st _ => ?_
    split
    · rename_i st _
      have hdo : ProveDoes A req [⟨.tree (.get (challengeKey req.identityKeyHex)), some (some st)⟩,
          ⟨.enforceRateLimit "auth_prove" req.identityKeyHex, none⟩]
          (.tree (.remove (challengeKey req.identityKeyHex))) :=
        ⟨((Without.nil _).cons rfl).cons rfl, ((Without.nil _).cons rfl).cons rfl, st, by simp⟩
      split
      · exact always_refuse A req _ _ hdo
      rename_i expectedHex expiresAt hin
      refine Prog.always_perform trivial fun now _ => ?_
      replace hdo := proveDoes_remove_now A now hdo
      split
      · exact always_refuse A req _ _ hdo
      rename_i hea
      refine Prog.always_perform hdo fun re _ => ?_
      refine Prog.always_perform trivial fun now' _ => ?_
      rintro x ⟨⟩
      refine ⟨(hdo.2.1.cons rfl).cons rfl, fun tk hto => ?_⟩
      refine ⟨⟨st, expectedHex, expiresAt, now, by simp, rfl, hin, hea⟩, ?_, now', ?_⟩
      · intro key ans hg
        obtain rfl : key = challengeKey req.identityKeyHex := by
          simp at hg
          exact hg.1
        exact ⟨re, by simp⟩
      unfold issueToken at hto
      split at hto
      · cases hto
      · rename_i token' hen
        cases hto
        exact hen
    · rintro x ⟨⟩
      exact proveDoes_respond A (((Without.nil _).cons rfl).cons rfl) rfl

lemma always_handle (c : Call) :
    (handle A c).Always (auth A).Possible (Does A c)
    (fun past response => ∀ x ∈ response, Does A c past (.respond x)) [] := by
  cases c with
  | challenge req =>
    refine (always_challenge A req).bind fun past response h => ?_
    rintro x ⟨⟩
    exact h
  | prove req => exact always_prove A req

lemma always_body (c : Call) :
    ((auth A).body c).Always (auth A).Possible (Does A c) (fun _ _ => True) [] := by
  refine (always_handle A c).bind fun past r h => ?_
  cases r with
  | none => trivial
  | some x => exact ⟨h x rfl, fun _ _ => trivial⟩

end Sibna.Server.Auth
