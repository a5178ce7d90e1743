import Sibna.Server.Auth
import Sibna.Server.Registry

/-!
# The slices in the log lines

A slice panics inside of a character, and at 16 bytes also for a shorter text. A line that the log
does not take is not evaluated.
-/

namespace Sibna.Server.Slices

open Interleaving Text

def slicesAt16 (text : Bytes) : Bool := decide (16 ≤ text.length) && Auth.cutsAt16 text

section
variable (warns informs : Bool)

/-- `enforce_rate_limit`, for the error of the limiter; `none` where its warning panics. -/
def enforceRateLimit (identity : Bytes) : Option String → Option (Option String)
  | none => some none
  | some e => if warns && !Auth.cutsAt16 identity then none else some (some e)

/-- A handler with log lines that are written once an operation is answered: it ends where one of
them panics. -/
def logging {Op : Type} {Ans : Op → Type} {α : Type} (panics : (op : Op) → Ans op → Bool) :
    Prog Op Ans α → Prog Op Ans (Option α)
  | .ret a => .ret (some a)
  | .step op next => .step op fun ans =>
    if panics op ans then .ret none else logging panics (next ans)

def authPanics : (op : Auth.Op) → op.Ans → Bool
  | .enforceRateLimit _ identity, refusal => (enforceRateLimit warns identity refusal).isNone
  | _, _ => false

def uploadPanics (payload : Prekeys.UploadPrekeyRequest) : (op : Prekeys.Op) → op.Ans → Bool
  | .enforceRateLimit identity, refusal => (enforceRateLimit warns identity refusal).isNone
  | .tree (.insert _ _), some () => informs && !(payload.bundle.map Prekeys.rootIdOf).all slicesAt16
  | _, _ => false

def sendPanics : (op : Relay.Op) → op.Ans → Bool
  | .enforceRateLimit _ identity, refusal => (enforceRateLimit warns identity refusal).isNone
  | .push recipientId _, true => informs && !slicesAt16 recipientId
  | _, _ => false

/-- The line about a last-resort bundle comes before the removal of the one-time bundles, the line
about one-time bundles after it. -/
def answerLogging (panics : Bool) (entries : List (Bytes × Bytes)) (fetched served : List Bytes) :
    Prekeys.Handler (Option (Response (List Bytes))) := do
  if panics && fetched.isEmpty && !served.isEmpty then return none
  else
    let response ← Prekeys.answerFetch entries served
    return if panics && !fetched.isEmpty then none else some response

def fetchLogging {S : Suite} (H : HandshakeSuite S) (warns informs : Bool) (rootId : Bytes) :
    Prekeys.Handler (Option (Response (List Bytes))) := do
  match enforceRateLimit warns rootId (← Prekeys.perform (.enforceRateLimit rootId)) with
  | none => return none
  | some (some text) => return some (tooManyRequests text)
  | some none =>
    let entries ← Prekeys.perform (.tree (.scanPrefix (Prekeys.rootPrefix rootId)))
    let fetched ← Prekeys.collectBundles H entries
    let served ← Prekeys.orLastResort H rootId fetched
    answerLogging (informs && !slicesAt16 rootId) entries fetched served

/-- The limiter does not refuse, or its warning is not logged, or the text is cut between
characters. -/
def Loggable (identity : Bytes) (refusal : Option String) : Prop :=
  refusal = none ∨ warns = false ∨ Auth.cutsAt16 identity = true

end

/-- The stored challenge does not carry its HMAC. -/
def MacMismatch (A : Auth.Authority) (stored : Bytes) : Prop :=
  ∃ challengeHex macHex expires mac,
    splitThree colon stored = some (challengeHex, macHex, expires) ∧ hexDecode macHex = some mac ∧
    (A.hmac A.jwtSecret challengeHex).val ≠ mac

section
variable {S : Suite} (H : HandshakeSuite S)

/-- Whether one of the bundles validates. The clock is read in turn, once for each that parses. -/
def someValid : (Nat → Option Nat) → List Bytes → Bool
  | _, [] => false
  | clock, bytes :: rest =>
    match PreKeyBundle.parse bytes with
    | .error _ => someValid clock rest
    | .ok bundle => (bundle.validate H (clock 0)).isOk || someValid (fun n => clock (n + 1)) rest

def readings : List Bytes → Nat
  | [] => 0
  | bytes :: rest => readings rest + (PreKeyBundle.parse bytes).isOk.toNat

/-- One of the scanned bundles validates, or else the last-resort bundle is there and validates. -/
def findsBundle (env : Nat → Prekeys.OpEnv) (t : Table Bytes) (rootId : Bytes)
    (scanned : List Bytes) : Bool :=
  someValid H (fun n => (env n).clock) scanned ||
    (!(env (readings scanned)).access.fails &&
      (t.lookup (Prekeys.resortKey rootId)).any fun bytes =>
      someValid H (fun n => (env (n + 1 + readings scanned)).clock) [bytes])

end

section
variable {Op : Type} {Ans : Op → Type} {α σ ε : Type} {act : ε → (op : Op) → σ → Ans op × σ}

def Quiet (panics : (op : Op) → Ans op → Bool) : Prog Op Ans α → Prop
  | .ret _ => True
  | .step op next => ∀ ans, panics op ans = false ∧ Quiet panics (next ans)

lemma quiet_perform {β : Type} {p : (op : Op) → Ans op → Bool} {op : Op}
    {f : Ans op → Prog Op Ans β} (h : ∀ ans, p op ans = false ∧ Quiet p (f ans)) :
    Quiet p (Prog.perform op >>= f) := h

lemma run_logging_of_quiet {pa : (op : Op) → Ans op → Bool} {p : Prog Op Ans α}
    (h : Quiet pa p) (env : Nat → ε) (s : σ) :
    ((logging pa p).run act env s).1 = some (p.run act env s).1 := by
  induction p generalizing env s with
  | ret a => rfl
  | step op next ih =>
    obtain ⟨hop, hn⟩ := h (act (env 0) op s).1
    simp only [logging, Prog.run, hop]
    exact ih _ hn _ _

lemma logging_perform {P : Option α → Prop} (hP : ¬ P none)
    (p : (op : Op) → Ans op → Bool) (op : Op)
    (next : Ans op → Prog Op Ans α) (env : Nat → ε) (s : σ) :
    P ((logging p (Prog.perform op >>= next)).run act env s).1 ↔ p op (act (env 0) op s).1 = false ∧
      P ((logging p (next (act (env 0) op s).1)).run act (fun n => env (n + 1))
        (act (env 0) op s).2).1 := by
  simp only [Prog.perform_bind, logging, Prog.run]
  cases p op (act _ op s).1 with
  | true => exact iff_of_false hP (Bool.noConfusion ·.1)
  | false => exact (and_iff_right rfl).symm

lemma isSome_logging_perform (p : (op : Op) → Ans op → Bool) (op : Op)
    (next : Ans op → Prog Op Ans α) (env : Nat → ε) (s : σ) :
    ((logging p (Prog.perform op >>= next)).run act env s).1.isSome = true ↔
      p op (act (env 0) op s).1 = false ∧
      ((logging p (next (act (env 0) op s).1)).run act (fun n => env (n + 1))
        (act (env 0) op s).2).1.isSome = true :=
  logging_perform (P := fun r => r.isSome = true) nofun p op next env s

end

section
variable {text : Bytes} (w : Bool) (A : Auth.Authority) (env : Nat → Auth.OpEnv) (t : Table Bytes)
  (req : Auth.ProveRequest)

lemma cutsAt16_of_hexDecode {bt : Bytes} (h : hexDecode text = some bt) :
    Auth.cutsAt16 text = true := by
  unfold Auth.cutsAt16
  split
  · rfl
  rename_i b hb
  have hv := hexValue_of_hexDecode h b (List.mem_of_getElem? hb)
  rw [bne_iff_ne]
  intro hco
  have hle : (b &&& 0xC0).toNat ≤ b.toNat := by
    exact Nat.and_le_left
  have hl : 128 ≤ b.toNat := by rwa [hco] at hle
  have hn : hexValue b = none := by
    rw [hexValue, if_neg (by omega), if_neg (by omega), if_neg (by omega)]
  rw [hn] at hv
  cases hv

lemma enforceRateLimit_isSome {w : Bool} {i : Bytes} {r : Option String} :
    (enforceRateLimit w i r).isSome ↔ Loggable w i r := by
  cases r <;> cases w <;> cases hcu : Auth.cutsAt16 i <;>
    simp [enforceRateLimit, Loggable, hcu]

lemma enforceRateLimit_hex {bt : Bytes} (h : hexDecode text = some bt) (w : Bool)
    (r : Option String) : enforceRateLimit w text r = some r := by
  cases r <;> simp [enforceRateLimit, cutsAt16_of_hexDecode h]

lemma enforceRateLimit_rootIdOf (bu : PreKeyBundle) (w : Bool) (r : Option String) :
    enforceRateLimit w (Prekeys.rootIdOf bu) r = some r :=
  enforceRateLimit_hex (hexDecode_hexEncode _) w r

lemma slicesAt16_rootIdOf (bu : PreKeyBundle) : slicesAt16 (Prekeys.rootIdOf bu) = true := by
  have hcu := cutsAt16_of_hexDecode (hexDecode_hexEncode bu.rootIdentityKey.val)
  simp [slicesAt16, Prekeys.rootIdOf, hcu, length_hexEncode]

lemma challenge_completes_iff (req : Auth.RegisterRequest) :
    ((logging (authPanics A.logsWarnings)
      (Auth.challengeHandler A req)).run Auth.act env t).1.isSome ↔
      Loggable A.logsWarnings req.identityKeyHex (env 0).refusal := by
  refine (isSome_logging_perform _ _ _ _ _).trans ?_
  refine (and_iff_left_of_imp fun _ => ?_).trans
    (by simp [authPanics, Auth.act, ← enforceRateLimit_isSome])
  rw [run_logging_of_quiet]
  · rfl
  split
  · trivial
  · split
    · trivial
    · exact fun _ => ⟨rfl, fun _ => ⟨rfl, fun _ => ⟨rfl, trivial⟩⟩⟩

lemma quiet_refuse (key : Bytes) (r : Auth.Refusal) : Quiet (authPanics w) (Auth.refuse key r) := by
  cases r with
  | left | panicked => trivial
  | removed => exact fun _ => ⟨rfl, trivial⟩

lemma isSome_refuse {key : Bytes} {r : Auth.Refusal} {env : Nat → Auth.OpEnv} {t : Table Bytes} :
    ((Auth.refuse key r).run Auth.act env t).1.isSome ↔ r ≠ .panicked := by
  cases r with
  | left | removed => exact iff_of_true rfl nofun
  | panicked => exact iff_of_false nofun (· rfl)

lemma examine_ne_panicked (eh : Bytes) (ea : Int) (now : Relay.Timestamp) :
    Auth.examine A req eh ea now ≠ .error .panicked := by
  simp [Auth.examine, bind_error, ensure_error, okOr_error, tryInto_error, Auth.integrityError]

lemma inspect_panicked_iff {A : Auth.Authority} {identity stored : Bytes} :
    Auth.inspect A identity stored = .error .panicked ↔ MacMismatch A stored ∧
    A.logsWarnings = true ∧ Auth.cutsAt16 identity = false := by
  unfold Auth.inspect MacMismatch
  split
  · rename_i hsp
    simp [hsp]
  rename_i ch mh ex hsp
  split
  · rename_i hd
    simp [hsp, hd, Auth.integrityError]
  rename_i mac hd
  split
  · rename_i hne
    cases hw : A.logsWarnings <;> cases hcu : Auth.cutsAt16 identity <;>
      simp [hsp, hd, hne, Auth.integrityError]
  · rename_i heq
    split <;> simp_all

lemma prove_completes_iff :
    ((logging (authPanics A.logsWarnings)
      (Auth.proveHandler A req)).run Auth.act env t).1.join.isSome ↔
      Loggable A.logsWarnings req.identityKeyHex (env 0).refusal ∧
        ((env 0).refusal = none → ∀ stored,
        (Table.act (env 1).access (.get (Auth.challengeKey req.identityKeyHex)) t).1 =
          some (some stored) → MacMismatch A stored → A.logsWarnings = true →
        Auth.cutsAt16 req.identityKeyHex = true) := by
  have hpa : ∀ stored, (MacMismatch A stored → A.logsWarnings = true →
      Auth.cutsAt16 req.identityKeyHex = true) ↔
      Auth.inspect A req.identityKeyHex stored ≠ .error .panicked := by
    intro stored
    rw [Ne, inspect_panicked_iff]
    simp
  simp only [hpa]
  refine (logging_perform (P := fun r => r.join.isSome = true) nofun _ _ _ _ _).trans ?_
  refine and_congr (by simp [authPanics, Auth.act, ← enforceRateLimit_isSome]) ?_
  rw [run_logging_of_quiet]
  · split
    · rename_i hre
      exact iff_of_true rfl fun h => nomatch h.symm.trans hre
    rename_i hg
    refine Iff.trans ?_ (forall_prop_of_true (show (env 0).refusal = none from hg)).symm
    rw [Option.join_some, Auth.perform, Prog.perform_bind, Prog.run]
    split
    · rename_i stored hge
      have hs : (Table.act (env 1).access (.get (Auth.challengeKey req.identityKeyHex)) t).1 =
          some _ := hge
      simp only [hs, Option.some.injEq, forall_eq']
      split
      · rename_i r hin
        rw [hin, ne_eq, Except.error.injEq]
        exact isSome_refuse
      rename_i hin
      rw [hin]
      refine iff_of_true ?_ nofun
      rw [Auth.perform, Prog.perform_bind, Prog.run]
      split
      · rename_i hea
        exact isSome_refuse.mpr fun hr => examine_ne_panicked A _ _ _ _ (hr ▸ hea)
      · rfl
    · rename_i ho
      exact iff_of_true rfl fun stored hge => (ho stored hge).elim
  · split
    · trivial
    refine quiet_perform fun stored => ⟨rfl, ?_⟩
    split
    · split
      · exact quiet_refuse _ _ _
      refine quiet_perform fun now => ⟨rfl, ?_⟩
      split
      · exact quiet_refuse _ _ _
      · exact fun _ => ⟨rfl, fun _ => ⟨rfl, trivial⟩⟩
    · trivial

lemma upload_completes {S : Suite} (H : HandshakeSuite S) (w i : Bool)
    (env : Nat → Prekeys.OpEnv) (t : Table Bytes) (cl : Claims)
    (p : Prekeys.UploadPrekeyRequest) :
    ((logging (uploadPanics w i p) (Prekeys.uploadPrekeyHandler H cl p)).run
      Prekeys.act env t).1.isSome := by
  rw [run_logging_of_quiet]
  · rfl
  refine quiet_perform fun r => ⟨?_, ?_⟩
  · simp only [uploadPanics, enforceRateLimit_hex cl.decodes, Option.isNone_some]
  split
  · trivial
  split
  · trivial
  split
  · trivial
  · refine quiet_perform fun now => ⟨rfl, ?_⟩
    split
    · trivial
    · refine quiet_perform fun r => ⟨?_, ?_⟩
      · simp only [uploadPanics, enforceRateLimit_rootIdOf, Option.isNone_some]
      · split
        · trivial
        · refine quiet_perform fun ex => ⟨rfl, ?_⟩
          split
          · trivial
          · refine quiet_perform fun st => ⟨?_, ?_⟩
            · cases st with
              | none => rfl
              | some _ =>
                have hsl : (p.bundle.map Prekeys.rootIdOf).all slicesAt16 = true := by
                  cases p.bundle with
                  | none => rfl
                  | some bu => exact slicesAt16_rootIdOf bu
                simp only [uploadPanics, hsl, Bool.not_true, Bool.and_false]
            · split <;> trivial

lemma send_completes_iff (i : Bool) (env : Nat → Relay.OpEnv) (s : Relay.Shared)
    (cl : Claims) (req : Relay.SendMessageRequest) :
    ((logging (sendPanics w i) (Relay.sendMessageHandler cl req)).run
        Relay.act env s).1.isSome ↔
      ((env 0).refusal = none → s.reaches (env 3) req.recipientId = true →
        i = true → slicesAt16 req.recipientId = true) := by
  refine (isSome_logging_perform _ _ _ _ _).trans ((and_iff_right ?_).trans ?_)
  · simp only [sendPanics, enforceRateLimit_hex cl.decodes, Option.isNone_some]
  split
  · rename_i hre
    exact iff_of_true rfl fun h => nomatch h.symm.trans hre
  rename_i hg
  refine Iff.trans ?_ (forall_prop_of_true (show (env 0).refusal = none from hg)).symm
  refine (isSome_logging_perform _ _ _ _ _).trans ((and_iff_right rfl).trans ?_)
  refine (isSome_logging_perform _ _ _ _ _).trans ((and_iff_right rfl).trans ?_)
  refine (isSome_logging_perform _ _ _ _ _).trans ?_
  refine (and_iff_left_of_imp fun _ => ?_).trans ?_
  · rw [run_logging_of_quiet]
    · rfl
    · split
      · trivial
      · exact fun _ => ⟨rfl, fun _ => ⟨rfl, trivial⟩⟩
  · change sendPanics w i (.push req.recipientId _) (s.reaches (env 3) req.recipientId) = false ↔ _
    cases s.reaches _ req.recipientId <;> simp [sendPanics]

end

lemma answer_completes_iff {p : Bool} {en : List (Bytes × Bytes)} {f se : List Bytes}
    (hse : se = [] → f = []) (env : Nat → Prekeys.OpEnv) (t : Table Bytes) :
    ((answerLogging p en f se).run Prekeys.act env t).1.isSome ↔
      (se.isEmpty = false → p = false) := by
  cases se with
  | nil =>
    obtain rfl := hse rfl
    cases p <;> exact iff_of_true rfl nofun
  | cons b bs =>
    unfold answerLogging
    cases p
    · simp [Prog.run_bind, Prog.run, pure]
    · cases f <;> simp [Prog.run_bind, Prog.run, pure]

section
variable {S : Suite} {H : HandshakeSuite S}

lemma run_collectBundles (en : List (Bytes × Bytes)) (env : Nat → Prekeys.OpEnv)
    (t : Table Bytes) : ∃ fetched, (Prekeys.collectBundles H en).run Prekeys.act env t =
      (fetched, t, fun n => env (n + readings (en.map Prod.snd))) ∧
    fetched.isEmpty = !someValid H (fun n => (env n).clock) (en.map Prod.snd) := by
  induction en generalizing env with
  | nil => exact ⟨[], rfl, rfl⟩
  | cons e en ih =>
    simp only [Prekeys.collectBundles, Prekeys.isValidBundle, List.map_cons, someValid, readings,
      Prog.run_bind]
    cases hp : PreKeyBundle.parse e.2 with
    | error err =>
      obtain ⟨f, hr, he⟩ := ih env
      refine ⟨f, ?_, he⟩
      change (_, _) = _
      simp only [Prog.run, pure, hr]
      rfl
    | ok bu =>
      obtain ⟨f, hr, he⟩ := ih fun n => env (n + 1)
      refine ⟨if (bu.validate H (env 0).clock).isOk then Text.hexEncode e.2 :: f else f, ?_, ?_⟩
      · simp only [Prekeys.perform, Prog.perform_bind, Prog.run, pure, hr, Prekeys.act]
        rfl
      · cases hv : (bu.validate H (env 0).clock).isOk <;> simp [hv, he]

lemma run_orLastResort (rootId : Bytes) (f : List Bytes) (env : Nat → Prekeys.OpEnv)
    (t : Table Bytes) : ((Prekeys.orLastResort H rootId f).run Prekeys.act env t).1.isEmpty =
      (f.isEmpty && !(!(env 0).access.fails &&
        (t.lookup (Prekeys.resortKey rootId)).any fun bytes =>
        someValid H (fun n => (env (n + 1)).clock) [bytes])) := by
  cases f with
  | cons b bs => rfl
  | nil =>
    simp only [Prekeys.orLastResort, List.isEmpty_nil, if_true, Prekeys.perform,
      Prog.perform_bind, Prog.run, Prekeys.act, Table.act, Bool.true_and]
    cases (env 0).access.fails with
    | true => rfl
    | false =>
      cases t.lookup (Prekeys.resortKey rootId) with
      | none => rfl
      | some bytes =>
        cases hp : PreKeyBundle.parse bytes with
        | error e => simp [Prekeys.isValidBundle, someValid, hp, Prog.run, pure]
        | ok bu =>
          cases hv : (bu.validate H (env 1).clock).isOk <;>
            simp [Prekeys.isValidBundle, someValid, hp, hv, Prekeys.perform, Prog.perform_bind,
              Prog.run, pure, Prekeys.act]

lemma found_completes_iff (p : Bool) (en : List (Bytes × Bytes)) (env : Nat → Prekeys.OpEnv)
    (t : Table Bytes) (ri : Bytes) :
    ((do
      let fetched ← Prekeys.collectBundles H en
      let served ← Prekeys.orLastResort H ri fetched
      answerLogging p en fetched served).run Prekeys.act env t).1.isSome ↔
      (findsBundle H env t ri (en.map Prod.snd) = true → p = false) := by
  obtain ⟨f, hf, hem⟩ := run_collectBundles (H := H) en env t
  have hse := run_orLastResort (H := H) ri f (fun n => env (n + readings (en.map Prod.snd))) t
  rw [Prog.run_bind, hf, Prog.run_bind]
  refine (answer_completes_iff ?_ _ _).trans ?_
  · intro h
    rw [List.isEmpty_iff.mpr h] at hse
    exact List.isEmpty_iff.mp (Bool.and_eq_true_iff.mp hse.symm).1
  · rw [hse, hem, ← Bool.not_or, Bool.not_eq_false', Nat.zero_add]
    rfl

lemma fetch_completes_iff (w i : Bool) (env : Nat → Prekeys.OpEnv) (t : Table Bytes) (ri : Bytes) :
    ((fetchLogging H w i ri).run Prekeys.act env t).1.isSome ↔
      Loggable w ri (env 0).refusal ∧ ((env 0).refusal = none →
        findsBundle H (fun n => env (n + 2)) t ri
          ((t.scanPrefix (env 1).access (Prekeys.rootPrefix ri)).map Prod.snd) = true →
        i = true → slicesAt16 ri = true) := by
  rw [← enforceRateLimit_isSome]
  unfold fetchLogging
  simp only [Prekeys.perform, Prog.perform_bind, Prog.run, Prekeys.act]
  cases (env 0).refusal with
  | none =>
    refine (found_completes_iff (H := H) _ _ _ _ _).trans ?_
    simp [enforceRateLimit]
    rfl
  | some text =>
    cases hw : (w && !Auth.cutsAt16 ri) <;>
      simp [enforceRateLimit, hw, Prog.run, pure, tooManyRequests]

end

/-- When the handlers end without a panic, whatever the state and the operations meet: where
`enforce_rate_limit` shows the identity of a refused request, where a stored challenge does not
carry its HMAC, where there is a bundle for a request for prekeys, and where a message is pushed. -/
theorem handlers_complete_iff {S : Suite} (H : HandshakeSuite S) (A : Auth.Authority)
    (informs : Bool)
    (authEnv : Nat → Auth.OpEnv) (prekeyEnv : Nat → Prekeys.OpEnv) (relayEnv : Nat → Relay.OpEnv)
    (challenges prekeys : Table Bytes) (relay : Relay.Shared) (register : Auth.RegisterRequest)
    (prove : Auth.ProveRequest) (rootId : Bytes) (claims : Claims)
    (payload : Prekeys.UploadPrekeyRequest) (req : Relay.SendMessageRequest) :
    (∀ identity refusal, (enforceRateLimit A.logsWarnings identity refusal).isSome ↔
      Loggable A.logsWarnings identity refusal) ∧
    (((logging (authPanics A.logsWarnings) (Auth.challengeHandler A register)).run Auth.act authEnv
        challenges).1.isSome ↔
      Loggable A.logsWarnings register.identityKeyHex (authEnv 0).refusal) ∧
    (((logging (authPanics A.logsWarnings) (Auth.proveHandler A prove)).run Auth.act authEnv
        challenges).1.join.isSome ↔
      Loggable A.logsWarnings prove.identityKeyHex (authEnv 0).refusal ∧
        ((authEnv 0).refusal = none → ∀ stored,
        (Table.act (authEnv 1).access
          (.get (Auth.challengeKey prove.identityKeyHex)) challenges).1 =
          some (some stored) → MacMismatch A stored → A.logsWarnings = true →
        Auth.cutsAt16 prove.identityKeyHex = true)) ∧
    (((fetchLogging H A.logsWarnings informs rootId).run Prekeys.act prekeyEnv prekeys).1.isSome ↔
      Loggable A.logsWarnings rootId (prekeyEnv 0).refusal ∧
      ((prekeyEnv 0).refusal = none → findsBundle H (fun n => prekeyEnv (n + 2)) prekeys rootId
          ((prekeys.scanPrefix (prekeyEnv 1).access (Prekeys.rootPrefix rootId)).map Prod.snd) =
            true →
        informs = true → slicesAt16 rootId = true)) ∧
    ((logging (uploadPanics A.logsWarnings informs payload)
        (Prekeys.uploadPrekeyHandler H claims payload)).run Prekeys.act prekeyEnv
          prekeys).1.isSome ∧
    (((logging (sendPanics A.logsWarnings informs)
      (Relay.sendMessageHandler claims req)).run Relay.act
        relayEnv relay).1.isSome ↔
      ((relayEnv 0).refusal = none → relay.reaches (relayEnv 3) req.recipientId = true →
        informs = true → slicesAt16 req.recipientId = true)) :=
  ⟨fun _ _ => enforceRateLimit_isSome, challenge_completes_iff A authEnv challenges register,
    prove_completes_iff A authEnv challenges prove,
    fetch_completes_iff A.logsWarnings informs prekeyEnv prekeys rootId,
    upload_completes H A.logsWarnings informs prekeyEnv prekeys claims payload,
    send_completes_iff A.logsWarnings informs relayEnv relay claims req⟩

open Symbolic in
/-- A last-resort bundle is uploaded, and someone asks for the prekeys of `prekey_resort`, which is
too short. Someone else, refused by the limiter, has a name whose 17th byte is inside of a
character. -/
theorem short_path_panics :
    ((fetchLogging serverSuite true true (utf8 "prekey_resort")).run Prekeys.act
      (fun _ => prekeyEnv) (Prekeys.served serverSuite
        (.start (uploadBy 3 (bundle 3 4) (some true)) :: prekeyTurns 6 0)).state.shared).1 = none ∧
    enforceRateLimit true (utf8 "fifteen lettersé") (some "Rate limit exceeded") = none := by
  decide +kernel

end Sibna.Server.Slices
