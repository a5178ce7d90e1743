import Sibna.Expiry
import Sibna.Group.Decryption
import Sibna.Group.Delivery
import Sibna.Group.Lifetime
import Sibna.Group.Membership
import Sibna.Handshake.Canonical
import Sibna.Handshake.Meeting
import Sibna.Handshake.Pinning
import Sibna.Iot
import Sibna.Java.Conversation
import Sibna.Java.GroupSession
import Sibna.KeyStore.Validity
import Sibna.LowOrder
import Sibna.Messaging.RoundTrip
import Sibna.P2p.Address
import Sibna.P2p.HonestRun
import Sibna.Padding.Sdks
import Sibna.Random
import Sibna.Ratchet.Counters
import Sibna.Ratchet.PreviousChain
import Sibna.RateLimit.Bound
import Sibna.RateLimit.Pruning
import Sibna.Reordering
import Sibna.SafetyNumber.Sdks
import Sibna.Secrecy
import Sibna.Server.Acknowledgement
import Sibna.Server.Challenges
import Sibna.Server.Deduplication
import Sibna.Server.Encodings
import Sibna.Server.Inbox
import Sibna.Server.Rejection
import Sibna.Server.Replay
import Sibna.Server.Slices
import Sibna.Server.ZeroReuse
import Sibna.SkippedKeys
import Sibna.Snapshots.KeyReuse
import Sibna.Snapshots.Receiving
import Sibna.Storage.Concurrent
import Sibna.Streaming.Completeness
import Sibna.Streaming.RoundTrip
