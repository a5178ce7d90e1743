import Sibna.P2p.Responder
import Sibna.Server.Prekeys
import Sibna.Server.Relay

/-!
# The registry of connections

At its end a connection removes whatever is entered under its identity.
-/

namespace Sibna.Symbolic

open Interleaving Server Text

def claimsOf (x : UInt64) : Claims where
  sub := Text.hexEncode (publicKey x).val
  key := publicKey x
  decodes := hexDecode_hexEncode _

def renewedBundle : PreKeyBundle :=
  { bundle 3 4 with bundleId := device 6, bundleSignature := signatureOf 3 4 }

def serverSuite : HandshakeSuite suite :=
  handshake (bundleMessages 3 4 ++ [renewedBundle.signingBytes])

def rootId : Bytes := Prekeys.rootIdOf (bundle 3 4)

def prekeyEnv : Prekeys.OpEnv := ⟨none, .clean, some 2000⟩

def uploadBy (x : UInt64) (b : PreKeyBundle) (isLastResort : Option Bool) : Prekeys.Call :=
  .upload (claimsOf x) ⟨Text.hexEncode b.toBytes, isLastResort⟩

def prekeyTurns (n i : Nat) : Schedule (Prekeys.prekeys serverSuite) :=
  List.replicate n (.advance i prekeyEnv)

def identityOf (x : UInt64) : Bytes := Text.hexEncode (publicKey x).val

def unsignedEnvelope : Relay.SealedEnvelope where
  recipientId := identityOf 5
  payloadHex := utf8 "00"
  compressed := false
  messageId := utf8 "m1"
  timestamp := 0
  signatureHex := []

def relayEd : Ed25519 := ed [unsignedEnvelope.canonical]

def signedEnvelope : Relay.SealedEnvelope :=
  { unsignedEnvelope with signatureHex := Text.hexEncode (signature (publicKey 3).val 0) }

def relayStart : Relay.Shared := ⟨∅, ∅, ∅, 0, []⟩

def relayEnv (seconds : Nat) : Relay.OpEnv :=
  ⟨none, .clean, ⟨(seconds % 2 ^ 42 : Nat), by omega⟩, utf8 "u1", true⟩

def routeSigned : Relay.Call := .frame (claimsOf 3) (.envelope signedEnvelope)

def relayTurns (n i seconds : Nat) : Schedule (Relay.relay relayEd) :=
  List.replicate n (.advance i (relayEnv seconds))

end Sibna.Symbolic

namespace Sibna.Server.Relay

open Interleaving Text Symbolic

variable {ed : Ed25519}

def newest (identity : Bytes) : List (Entry (relay ed)) → Option (Nat × Nat)
  | [] => none
  | ⟨i, _, _, .register identity' channel, _⟩ :: log =>
    if identity' = identity then some (i, channel) else newest identity log
  | _ :: log => newest identity log

def Op.disconnects : Op → Bool
  | .disconnected => true
  | _ => false

def StillOpen (i : Nat) (log : List (Entry (relay ed))) : Prop :=
  ∀ entry ∈ log, entry.thread = i → entry.op.disconnects = false
  deriving Decidable

def Reached (s : Shared) (identity : Bytes) (channel : Nat) : Prop :=
  s.clients.lookup identity = some channel ∧ ∀ (e : OpEnv) (frame : Frame), e.channelOpen = true →
    act e (.push identity frame) s = (true, { s with sent := s.sent ++ [(channel, frame)] })

lemma reached_iff {s : Shared} {ie : Bytes} {ch : Nat} :
    Reached s ie ch ↔ s.clients.lookup ie = some ch := by
  refine ⟨fun h => h.1, fun h => ⟨h, ?_⟩⟩
  intro e f ho
  simp [act, Shared.reaches, Shared.send, h, ho]

def Connected (s : State (relay ed)) : Prop :=
  ∀ identity i channel, newest identity s.log = some (i, channel) → StillOpen i s.log →
    Reached s.shared identity channel

def Retired (s : State (relay ed)) (_ : Nat) (_ : Call) (_ : OpEnv) : Op → Prop
  | .unregister identity => ∀ i channel, newest identity s.log = some (i, channel) →
      ¬ StillOpen i s.log
  | _ => True

lemma StillOpen.of_cons {i : Nat} {en : Entry (relay ed)} {log : List (Entry (relay ed))}
    (h : StillOpen i (en :: log)) : StillOpen i log :=
  fun x hx => h x (List.mem_cons_of_mem _ hx)

section
variable {s : State (relay ed)} {i : Nat} {c : Call} {e : OpEnv} {op : Op}

lemma Connected.of_clients (h : Connected s)
    (hcl : (s.perform i c e op).shared.clients = s.shared.clients)
    (hn : ∀ identity, newest identity (s.perform i c e op).log = newest identity s.log) :
    Connected (s.perform i c e op) := by
  intro identity j ch hj ho
  rw [reached_iff, hcl, ← reached_iff]
  exact h identity j ch (hn identity ▸ hj) ho.of_cons

lemma Connected.register (h : Connected s) (ie : Bytes) (ch : Nat) :
    Connected (s.perform i c e (.register ie ch)) := by
  intro i' j c' hj ho
  rw [reached_iff]
  simp only [State.perform_log, newest] at hj
  simp only [State.perform_shared, act]
  by_cases heq : ie = i'
  · simp_all
  · rw [if_neg heq] at hj
    rw [AList.lookup_insert_ne (Ne.symm heq), ← reached_iff]
    exact h i' j c' hj ho.of_cons

lemma connected_unregister_iff (h : Connected s) (ie : Bytes) :
    Retired s i c e (.unregister ie) ↔ Connected (s.perform i c e (.unregister ie)) := by
  constructor
  · intro hrt i' j ch hj ho
    rw [reached_iff]
    by_cases heq : i' = ie
    · subst heq
      exact absurd ho.of_cons (hrt j ch hj)
    · simp only [State.perform_shared, act]
      rw [AList.lookup_erase_ne heq, ← reached_iff]
      exact h i' j ch hj ho.of_cons
  · intro hco j ch hj ho
    have ho' : StillOpen j (s.perform i c e (.unregister ie)).log := by
      intro en hen hth
      rcases List.mem_cons.mp hen with rfl | hen
      · rfl
      · exact ho en hen hth
    have hre := reached_iff.mp (hco ie j ch hj ho')
    simp only [State.perform_shared, act, AList.lookup_erase] at hre
    cases hre

lemma retired_iff_connected_perform (h : Connected s) :
    Retired s i c e op ↔ Connected (s.perform i c e op) := by
  cases op with
  | unregister ie => exact connected_unregister_iff h ie
  | register ie ch => exact ⟨fun _ => h.register ie ch, fun _ => trivial⟩
  | push r f =>
    refine ⟨fun _ => h.of_clients ?_ fun _ => rfl, fun _ => trivial⟩
    simp only [State.perform_shared, act, Shared.send]
    split
    · split <;> rfl
    · rfl
  | send ch f =>
    refine ⟨fun _ => h.of_clients ?_ fun _ => rfl, fun _ => trivial⟩
    simp only [State.perform_shared, act, Shared.send]
    split <;> rfl
  | _ => exact ⟨fun _ => h.of_clients rfl fun _ => rfl, fun _ => trivial⟩

end

/-- In every state of a run the newest connection of an identity that is still open is reached,
if and only if no connection of the run removes its identity before the newest one has ended. -/
theorem newest_connection_reached_iff (ed : Ed25519) (s : Shared) (es : Schedule (relay ed)) :
    (∀ n, Connected (relayed ed s (es.take n)).state) ↔ Along Retired s es := by
  refine reached_iff_guarded retired_iff_connected_perform ?_ es
  intro identity i channel hnewest
  cases hnewest

def overlappingConnections : Schedule (relay relayEd) :=
  [.start (.connect (claimsOf 5)), .start (.connect (claimsOf 5))] ++ relayTurns 4 0 10 ++
    relayTurns 4 1 20 ++ relayTurns 2 0 30

theorem newer_connection_unregistered :
    newest (identityOf 5) (relayed relayEd relayStart overlappingConnections).state.log =
        some (1, 1) ∧
      StillOpen 1 (relayed relayEd relayStart overlappingConnections).state.log ∧
      (relayed relayEd relayStart overlappingConnections).state.shared.clients.lookup
        (identityOf 5) = none := by
  decide +kernel

end Sibna.Server.Relay
