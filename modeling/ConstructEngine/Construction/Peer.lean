import Mathlib.Algebra.Group.Nat.Defs
import Mathlib.Data.List.Sort
import Mathlib.Logic.Function.Basic
import ConstructEngine.Construction.Events
import ConstructEngine.Interaction.Pool

namespace ConstructEngine

/-- A relay has the lowest number. -/
def CandidateType.defaultPriority : CandidateType → Nat
  | .localLan => 100
  | .ipv6LinkLocal => 90
  | .publicIp => 50
  | .ipv6Global => 45
  | .relay => 10

/-- A new candidate has the port's transport and no pairing data. -/
def ICECandidate.new (candidateType : CandidateType) (address : String) (priority : Nat) :
    ICECandidate where
  candidateType
  address
  priority
  foundation := none
  interfaceName := none
  transport := "udp"
  generation := 0

def ICECandidate.lan (address : String) (interfaceName : Option String) : ICECandidate :=
  { ICECandidate.new .localLan address 100 with interfaceName }

def ICECandidate.publicIp (address : String) : ICECandidate := .new .publicIp address 50

namespace P2P

open Interaction Program

inductive PeerStatus where
  | disconnected
  | handshaking
  | connecting
  | connected
  | failed
  | relayFallback
  deriving DecidableEq

/-- The manager keeps this of each peer. -/
structure PeerInfo where
  userId : String
  deviceId : String
  candidates : List ICECandidate
  status : PeerStatus
  latencyMs : Option Nat

/-- The counters have 64 bits. The average of the latencies is a floating-point number that no other
part of the manager reads, so it is left out. -/
structure P2PStats where
  connectionsEstablished : Nat := 0
  handoffAttempts : Nat := 0
  handoffsSuccessful : Nat := 0
  fallbacksToRelay : Nat := 0

inductive ConnectionState where
  | disconnected
  | connecting
  | connected
  | reconnecting
  | closed
  | failed
  deriving DecidableEq

/-- The standard library parses the text of a socket address. -/
class SocketAddr (Addr : Type) where
  parse : String → Except String Addr

/-- A connection counts its bytes and knows its last round trip. -/
structure P2PConnection (Addr : Type) where
  peerUserId : String
  peerDeviceId : String
  state : ConnectionState
  remoteAddr : Option Addr
  timeoutSecs : Nat
  bytesSent : Nat
  bytesReceived : Nat
  lastRttMs : Option Nat

variable {Addr A : Type}

/-- A new connection has no address. -/
def P2PConnection.new (peerUserId peerDeviceId : String) (timeoutSecs : Nat) : P2PConnection Addr where
  peerUserId
  peerDeviceId
  state := .disconnected
  remoteAddr := none
  timeoutSecs
  bytesSent := 0
  bytesReceived := 0
  lastRttMs := none

/-- A network interface shows its address as text. -/
inductive IfAddr where
  | v4 (ip : String)
  | v6 (ip : String)

structure Interface where
  name : String
  isLoopback : Bool
  addr : IfAddr

/-- The peers are stored under the text of their key. -/
abbrev Peers := String → Option PeerInfo

/-- A section names one use of the locked table of peers. -/
inductive PeersSection : Type → Type 1 where
  | handshake (peerKey userId deviceId : String) : PeersSection Unit
  | offer (peerKey userId deviceId : String) (candidates : List ICECandidate) : PeersSection Unit
  | storeCandidates (peerKey : String) (candidates : List ICECandidate) : PeersSection Unit
  | setStatus (peerKey : String) (status : PeerStatus) : PeersSection Unit
  | candidatesRead (peerKey : String) : PeersSection (List ICECandidate)
  | setLatency (peerKey : String) (latencyMs : Nat) : PeersSection Unit
  | remove (peerKey : String) : PeersSection Unit

/-- An absent peer is left absent. -/
def Peers.modify (peers : Peers) (peerKey : String) (change : PeerInfo → PeerInfo) : Peers :=
  Function.update peers peerKey ((peers peerKey).map change)

def PeersSection.run : {A : Type} → PeersSection A → Peers → A × Peers
  | _, .handshake peerKey userId deviceId, peers =>
      let peer := match peers peerKey with
        | some peer => { peer with status := .handshaking }
        | none => ⟨userId, deviceId, [], .handshaking, none⟩
      ((), Function.update peers peerKey (some peer))
  | _, .offer peerKey userId deviceId candidates, peers =>
      let peer := match peers peerKey with
        | some peer => { peer with candidates, status := .handshaking }
        | none => ⟨userId, deviceId, candidates, .handshaking, none⟩
      ((), Function.update peers peerKey (some peer))
  | _, .storeCandidates peerKey candidates, peers =>
      ((), peers.modify peerKey fun peer => { peer with candidates })
  | _, .setStatus peerKey status, peers => ((), peers.modify peerKey fun peer => { peer with status })
  | _, .candidatesRead peerKey, peers => (((peers peerKey).map PeerInfo.candidates).getD [], peers)
  | _, .setLatency peerKey latencyMs, peers =>
      ((), peers.modify peerKey fun peer => { peer with latencyMs := some latencyMs })
  | _, .remove peerKey, peers => ((), Function.update peers peerKey none)

inductive StatsUpdate where
  | handoffAttempt
  | established
  | fallback

/-- A counter wraps around in the release profile. -/
def increment (counter : Nat) : Nat := (counter + 1) % 2 ^ 64

def StatsUpdate.run : StatsUpdate → P2PStats → P2PStats
  | .handoffAttempt, stats => { stats with handoffAttempts := increment stats.handoffAttempts }
  | .established, stats => { stats with
      connectionsEstablished := increment stats.connectionsEstablished
      handoffsSuccessful := increment stats.handoffsSuccessful }
  | .fallback, stats => { stats with fallbacksToRelay := increment stats.fallbacksToRelay }

/-- Each field of a connection has its own lock. -/
inductive ConnectionAccess (Addr : Type) : Type → Type 1 where
  | stateRead : ConnectionAccess Addr ConnectionState
  | stateWrite (state : ConnectionState) : ConnectionAccess Addr Unit
  | remoteAddrRead : ConnectionAccess Addr (Option Addr)
  | remoteAddrWrite (remoteAddr : Option Addr) : ConnectionAccess Addr Unit
  | bytesSentAdd (length : Nat) : ConnectionAccess Addr Unit
  | bytesReceivedAdd (length : Nat) : ConnectionAccess Addr Unit
  | lastRttWrite (rtt : Nat) : ConnectionAccess Addr Unit

def ConnectionAccess.run : {A : Type} → ConnectionAccess Addr A → P2PConnection Addr →
    A × P2PConnection Addr
  | _, .stateRead, connection => (connection.state, connection)
  | _, .stateWrite state, connection => ((), { connection with state })
  | _, .remoteAddrRead, connection => (connection.remoteAddr, connection)
  | _, .remoteAddrWrite remoteAddr, connection => ((), { connection with remoteAddr })
  | _, .bytesSentAdd length, connection =>
      ((), { connection with bytesSent := (connection.bytesSent + length) % 2 ^ 64 })
  | _, .bytesReceivedAdd length, connection =>
      ((), { connection with bytesReceived := (connection.bytesReceived + length) % 2 ^ 64 })
  | _, .lastRttWrite rtt, connection => ((), { connection with lastRttMs := some rtt })

/-- These are the answers of the probe socket before it waits for the peer. -/
structure ProbeOutcome where
  bind : Except String Unit := .ok ()
  setReadTimeout : Except String Unit := .ok ()
  setWriteTimeout : Except String Unit := .ok ()
  sendTo : Except String Unit := .ok ()

def ProbeOutcome.result (outcome : ProbeOutcome) : Except String Unit := do
  outcome.bind.mapError fun e => s!"Failed to bind UDP socket: {e}"
  outcome.setReadTimeout.mapError fun e => s!"Failed to set socket timeout: {e}"
  outcome.setWriteTimeout.mapError fun e => s!"Failed to set write timeout: {e}"
  outcome.sendTo.mapError fun e => s!"Failed to send probe: {e}"

/-- The blocking receive of a probe ends in one of these ways. -/
inductive Datagram (Addr : Type) where
  | received (length : Nat) (source : Addr)
  | recvError (message : String)
  | joinError (message : String)

/-- These are the points at which the manager and its connections meet the shared tables, the network
and the platform. The operation that stores a connection also spawns its connect task, because nothing
is awaited between the two. -/
inductive PeerOp (Addr : Type) : Type → Type 1 where
  | peersLock {A : Type} (region : PeersSection A) : PeerOp Addr A
  | statsLock (update : StatsUpdate) : PeerOp Addr Unit
  | localCandidatesWrite (candidates : List ICECandidate) : PeerOp Addr Unit
  | connectionsInsert (peerKey : String) (connection : P2PConnection Addr)
      (candidates : List ICECandidate) : PeerOp Addr Nat
  | connectionLock {A : Type} (id : Nat) (access : ConnectionAccess Addr A) : PeerOp Addr A
  | getIfAddrs : PeerOp Addr (Except String (List Interface))
  | queryStun (server : String) : PeerOp Addr (Except String String)
  | sendProbe (id : Nat) (addr : Addr) : PeerOp Addr (Except String Unit)
  | recvProbe (id : Nat) (addr : Addr) : PeerOp Addr (Datagram Addr)
  | sendData (id : Nat) (addr : Addr) (data : List UInt8) : PeerOp Addr (Except String Nat)
  | recvData (id : Nat) (limitMs : Option Nat) : PeerOp Addr (Option (Except String (List UInt8)))
  | instantNow : PeerOp Addr Nat
  | sleep (ms : Nat) : PeerOp Addr Unit
  | eventSend (event : UiEvent) : PeerOp Addr Unit

abbrev PeerM (Addr : Type) := Program (PeerOp Addr)

/-- The environment chooses one of these answers at each operation. -/
structure PeerChoice (Addr : Type) where
  interfaces : Except String (List Interface) := .ok []
  stun : Except String String := .error "no response"
  probe : ProbeOutcome := {}
  datagram : Datagram Addr := .recvError "timed out"
  sent : Except String Nat := .error "unreachable"
  received : Option (Except String (List UInt8)) := none
  instant : Nat := 0

/-- The manager's tables are shared by all tasks. A connection has an identity because the table and
its connect task share it. -/
structure Manager (Addr : Type) where
  peers : Peers := fun _ => none
  connections : String → Option Nat := fun _ => none
  arena : Nat → P2PConnection Addr := fun _ => .new "" "" 0
  nextConnection : Nat := 0
  stats : P2PStats := {}
  localCandidates : List ICECandidate := []
  sent : List UiEvent := []

/-- A new connection is stored under a new identity. -/
def Manager.insert (manager : Manager Addr) (peerKey : String) (connection : P2PConnection Addr) :
    Nat × Manager Addr :=
  (manager.nextConnection, { manager with
    connections := Function.update manager.connections peerKey (some manager.nextConnection)
    arena := Function.update manager.arena manager.nextConnection connection
    nextConnection := manager.nextConnection + 1 })

def PeerOp.exec : {A : Type} → PeerOp Addr A → PeerChoice Addr → Manager Addr → A × Manager Addr
  | _, .peersLock region, _, manager =>
      let (answer, peers) := region.run manager.peers
      (answer, { manager with peers })
  | _, .statsLock update, _, manager => ((), { manager with stats := update.run manager.stats })
  | _, .localCandidatesWrite localCandidates, _, manager => ((), { manager with localCandidates })
  | _, .connectionsInsert peerKey connection _, _, manager => manager.insert peerKey connection
  | _, .connectionLock id access, _, manager =>
      let (answer, connection) := access.run (manager.arena id)
      (answer, { manager with arena := Function.update manager.arena id connection })
  | _, .getIfAddrs, choice, manager => (choice.interfaces, manager)
  | _, .queryStun _, choice, manager => (choice.stun, manager)
  | _, .sendProbe _ _, choice, manager => (choice.probe.result, manager)
  | _, .recvProbe _ _, choice, manager => (choice.datagram, manager)
  | _, .sendData _ _ _, choice, manager => (choice.sent, manager)
  | _, .recvData _ _, choice, manager => (choice.received, manager)
  | _, .instantNow, choice, manager => (choice.instant, manager)
  | _, .sleep _, _, manager => ((), manager)
  | _, .eventSend event, _, manager => ((), { manager with sent := manager.sent ++ [event] })

end P2P

end ConstructEngine
