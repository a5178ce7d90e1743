import Sibna.Lib.Runs
import Sibna.Ratchet.Session

/-!
# Snapshots and restored sessions

A session is saved and restored any number of times, while older objects live on.
`deserialize_state` gives each a chain of its own, `load_context` does not.
-/

namespace Sibna

open DoubleRatchetSession

/-- One session through `load_context`: what serde reads back, without `restore_dh_keys`,
and the safety jump. -/
def SecureStorage.loadSession {S : Suite} (env : Env S) (data : SavedState S) :
    DoubleRatchetState S :=
  jumpToReservation env data.load

/-- The objects that exist, the snapshots taken, the message keys of the successful
encryptions in order, the remote keys sessions were given or accepted and the scalars drawn. -/
structure Branches (S : Suite) where
  objects : Nat → Option (DoubleRatchetState S)
  snapshots : List (SavedState S)
  used : List S.Key
  adopted : List Bytes32
  scalars : List S.Scalar

/-- `serializeState` also stands for `save_context`, which writes a session with the same
serde derive. -/
inductive Operation (S : Suite) where
  | create (i : Nat) (env : Env S) (now : Nat)
  | encrypt (i : Nat) (env : Env S) (plaintext associatedData : Bytes)
  | decrypt (i : Nat) (env : Env S) (message associatedData : Bytes)
  | reserveNonces (i : Nat) (env : Env S) (count : Nat)
  | jumpToReservation (i : Nat) (env : Env S)
  | serializeState (i : Nat)
  | deserializeState (i snapshot : Nat) (env : Env S)
  | loadContext (i snapshot : Nat) (env : Env S)

namespace Operation
variable {S : Suite}

def draws : Operation S → Option S.Scalar
  | create _ env _ => some env.newLocal
  | encrypt _ env _ _ => some env.newLocal
  | decrypt _ env _ _ => some env.newLocal
  | deserializeState _ _ env => some env.newLocal
  | _ => none

def isLoad : Operation S → Bool
  | loadContext _ _ _ => true
  | _ => false

end Operation

namespace Branches
variable {S : Suite}

def initial (s : DoubleRatchetState S) : Branches S where
  objects := Function.update (fun _ => none) 0 (some s)
  snapshots := []
  used := []
  adopted := s.dhRemote.toList
  scalars := s.dhLocal.toList

section
variable (config : Nat → Config) (w : Branches S)

def writes : Operation S → Option (Nat × DoubleRatchetState S)
  | .create i env now => some (i, new (config i) env.newLocal now)
  | .encrypt i env plaintext ad =>
    (w.objects i).map fun s => (i, (encryptMessage (config i) env s plaintext ad).2)
  | .decrypt i env message ad =>
    (w.objects i).map fun s => (i, (decryptMessage (config i) env s message ad).2)
  | .reserveNonces i env count =>
    (w.objects i).map fun s => (i, DoubleRatchetSession.reserveNonces env s count)
  | .jumpToReservation i env =>
    (w.objects i).map fun s => (i, DoubleRatchetSession.jumpToReservation env s)
  | .serializeState _ => none
  | .deserializeState i n env =>
    (w.objects i).bind fun s => w.snapshots[n]?.map fun d =>
      (i, (DoubleRatchetSession.deserializeState env s d).2)
  | .loadContext i n env => w.snapshots[n]?.map fun d => (i, SecureStorage.loadSession env d)

def saves : Operation S → Option (SavedState S)
  | .serializeState i => (w.objects i).map DoubleRatchetSession.serializeState
  | _ => none

def uses : Operation S → Option S.Key
  | .encrypt i env plaintext ad => (w.objects i).bind fun s =>
    ((encryptMessage (config i) env s plaintext ad).1.toOption).map fun m => m.slot.messageKey
  | _ => none

def adopts : Operation S → Option Bytes32
  | .decrypt i env message ad => (w.objects i).bind fun s =>
    ((decryptMessage (config i) env s message ad).1.toOption).map fun d =>
      d.message.header.dhPublic
  | _ => none

def put : Option (Nat × DoubleRatchetState S) → Branches S
  | none => w
  | some (i, s) => { w with objects := Function.update w.objects i (some s) }

def step (op : Operation S) : Branches S :=
  { w.put (w.writes config op) with
    snapshots := w.snapshots ++ (w.saves op).toList
    used := w.used ++ (w.uses config op).toList
    adopted := (w.adopts config op).toList ++ w.adopted
    scalars := op.draws.toList ++ w.scalars }

def Fresh (op : Operation S) : Prop :=
  ∀ x ∈ op.draws, x ∉ w.scalars ∧ S.publicKey x ∉ w.adopted

def Contributory (D : S.SymbolicDh) (config : Nat → Config) (w : Branches S)
    (op : Operation S) : Prop :=
  ∀ r ∈ w.adopts config op, D.contributory r

/-- An encryption on a session without a remote key does not find a chain that has keys left
and is over a day old. -/
def Stalls : Operation S → Prop
  | .encrypt i env _ _ => ∀ s ∈ w.objects i, s.dhRemote = none → ∀ c ∈ s.sendingChain,
    c.maxMessages ≤ c.index ∨ c.ageSecs (env.clock.read .rotation) ≤ 86400
  | _ => True

end

end Branches

end Sibna
