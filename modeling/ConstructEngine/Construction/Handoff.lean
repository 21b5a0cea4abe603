import ConstructEngine.Construction.Peer

namespace ConstructEngine.P2P

open Interaction Program

variable {Addr : Type}

/-- A candidate succeeds when its socket receives any datagram with content. -/
def tryConnectToCandidate [SocketAddr Addr] (id : Nat) (candidate : ICECandidate) :
    PeerM Addr (Except String Unit) := do
  match SocketAddr.parse candidate.address with
  | .error e => return .error s!"Invalid candidate address: {e}"
  | .ok addr =>
      match ← perform (.sendProbe id addr) with
      | .error message => return .error message
      | .ok () =>
          match ← perform (.recvProbe id addr) with
          | .joinError e => return .error s!"Task join error: {e}"
          | .recvError e => return .error s!"Recv error: {e}"
          | .received len _ =>
              if 0 < len then
                perform (.connectionLock id (.remoteAddrWrite (some addr)))
                return .ok ()
              else return .error "No response from peer"

/-- The first candidate that succeeds ends the attempt. -/
def tryCandidates [SocketAddr Addr] (id : Nat) : List ICECandidate → PeerM Addr (Except String Unit)
  | [] => do
      perform (.connectionLock id (.stateWrite .failed))
      return .error "All ICE candidates failed"
  | candidate :: rest => do
      match ← tryConnectToCandidate id candidate with
      | .ok () =>
          perform (.connectionLock id (.stateWrite .connected))
          return .ok ()
      | .error _ => tryCandidates id rest

/-- The candidates are tried from the lowest priority number on. The sort is stable. -/
def sortedCandidates (candidates : List ICECandidate) : List ICECandidate :=
  candidates.insertionSort fun first second => first.priority ≤ second.priority

/-- The connect tries every candidate until one answers. -/
def connect [SocketAddr Addr] (id : Nat) (candidates : List ICECandidate) :
    PeerM Addr (Except String Unit) := do
  perform (.connectionLock id (.stateWrite .connecting))
  tryCandidates id (sortedCandidates candidates)

/-- A connection sends only when it knows the remote address. -/
def send (id : Nat) (data : List UInt8) : PeerM Addr (Except String Nat) := do
  match ← perform (.connectionLock id .remoteAddrRead) with
  | none => return .error "Remote address unknown"
  | some addr =>
      match ← perform (.sendData id addr data) with
      | .error e => return .error s!"Send failed: {e}"
      | .ok len =>
          perform (.connectionLock id (.bytesSentAdd len))
          return .ok len

/-- A receive that is given a time limit can be dropped while it waits. -/
def receive (id : Nat) (limitMs : Option Nat) : PeerM Addr (Option (Except String (List UInt8))) := do
  match ← perform (.connectionLock id .remoteAddrRead) with
  | none => return some (.error "Remote address unknown")
  | some _ =>
      match ← perform (.recvData id limitMs) with
      | none => return none
      | some (.error e) => return some (.error s!"Recv failed: {e}")
      | some (.ok data) =>
          perform (.connectionLock id (.bytesReceivedAdd data.length))
          return some (.ok data)

def ping : List UInt8 := [80, 73, 78, 71]

def pong : List UInt8 := [80, 79, 78, 71]

/-- The round trip is measured only on a connected connection, and only a pong counts. -/
def measureRtt (id : Nat) : PeerM Addr (Option Nat) := do
  let state ← perform (.connectionLock id .stateRead)
  if state ≠ .connected then return none
  else
    let start ← perform .instantNow
    match ← send id ping with
    | .error _ => return none
    | .ok _ =>
        match ← receive id (some 2000) with
        | some (.ok data) =>
            if data = pong then
              let now ← perform .instantNow
              perform (.connectionLock id (.lastRttWrite (now - start)))
              return some (now - start)
            else return none
        | _ => return none

/-- The state is written before the address is forgotten. -/
def close (id : Nat) : PeerM Addr Unit := do
  perform (.connectionLock id (.stateWrite .closed))
  perform (.connectionLock id (.remoteAddrWrite none))

/-- A reconnect closes the connection, waits and connects. -/
def reconnect [SocketAddr Addr] (id : Nat) (candidates : List ICECandidate) :
    PeerM Addr (Except String Unit) := do
  close id
  perform (.sleep 100)
  perform (.connectionLock id (.stateWrite .reconnecting))
  connect id candidates

def p2pPort : Nat := 8765

structure P2PConfig where
  stunServers : List String
  p2pTimeoutSecs : Nat

/-- A loopback interface gives no candidate. -/
def Interface.candidate (iface : Interface) : Option ICECandidate :=
  if iface.isLoopback then none
  else
    let addr := match iface.addr with
      | .v4 ip => s!"{ip}:{p2pPort}"
      | .v6 ip => s!"[{ip}]:{p2pPort}"
    some (.lan addr (some iface.name))

/-- The first server that answers gives the public candidate. -/
def queryStunServers : List String → PeerM Addr (List ICECandidate)
  | [] => return []
  | stunServer :: rest => do
      match ← perform (.queryStun stunServer) with
      | .ok publicAddr => return [.publicIp publicAddr]
      | .error _ => queryStunServers rest

def gatherLocalCandidates (config : P2PConfig) : PeerM Addr (List ICECandidate) := do
  let interfaces ← perform .getIfAddrs
  let lan := match interfaces with
    | .ok interfaces => interfaces.filterMap Interface.candidate
    | .error _ => []
  let candidates := lan ++ (← queryStunServers config.stunServers)
  perform (.localCandidatesWrite candidates)
  return candidates

/-- A peer is known under the text of its user and device. -/
def peerKey (userId deviceId : String) : String := s!"{userId}:{deviceId}"

/-- An attempt without candidates ends here. Every other one stores a new connection in place of the
old one and leaves the rest to its connect task. -/
def attemptConnection (config : P2PConfig) (peerUserId peerDeviceId : String) : PeerM Addr Unit := do
  let key := peerKey peerUserId peerDeviceId
  perform (.peersLock (.setStatus key .connecting))
  let peerCandidates ← perform (.peersLock (.candidatesRead key))
  if peerCandidates.isEmpty then return
  else
    let connection := P2PConnection.new peerUserId peerDeviceId config.p2pTimeoutSecs
    let _ ← perform (.connectionsInsert key connection peerCandidates)

/-- This is the task that an attempt spawns. -/
def connectTask [SocketAddr Addr] (key peerUserId : String) (id : Nat)
    (candidates : List ICECandidate) : PeerM Addr Unit := do
  match ← connect id candidates with
  | .ok () =>
      perform (.statsLock .established)
      perform (.peersLock (.setStatus key .connected))
      match ← measureRtt id with
      | some rtt => perform (.eventSend (.p2pStatusReport peerUserId true (some (rtt % 2 ^ 32)) false))
      | none => return
  | .error _ =>
      perform (.peersLock (.setStatus key .failed))
      perform (.statsLock .fallback)
      perform (.eventSend (.p2pStatusReport peerUserId false none true))

/-- The own candidates are offered to the peer. -/
def initiateHandoff (config : P2PConfig) (peerUserId peerDeviceId : String) : PeerM Addr Unit := do
  perform (.peersLock (.handshake (peerKey peerUserId peerDeviceId) peerUserId peerDeviceId))
  perform (.statsLock .handoffAttempt)
  let localCandidates ← gatherLocalCandidates config
  perform (.eventSend (.p2pHandoffInitiate peerUserId localCandidates))

/-- The offer of a peer is stored, acknowledged and tried. -/
def handleHandoffInitiate (config : P2PConfig) (peerUserId peerDeviceId : String)
    (candidates : List ICECandidate) : PeerM Addr Unit := do
  let key := peerKey peerUserId peerDeviceId
  perform (.peersLock (.offer key peerUserId peerDeviceId candidates))
  let localCandidates ← gatherLocalCandidates config
  perform (.eventSend (.p2pHandoffAck key true localCandidates none))
  attemptConnection config peerUserId peerDeviceId

/-- The candidates of an unknown peer are not stored. -/
def handleHandoffAck (config : P2PConfig) (peerUserId peerDeviceId : String)
    (candidates : List ICECandidate) : PeerM Addr Unit := do
  perform (.peersLock (.storeCandidates (peerKey peerUserId peerDeviceId) candidates))
  attemptConnection config peerUserId peerDeviceId

/-- One section on the peers reads the status, so this is a function of the state. -/
def getPeerStatus (manager : Manager Addr) (userId deviceId : String) : Option PeerStatus :=
  (manager.peers (peerKey userId deviceId)).map PeerInfo.status

/-- A removed peer keeps its connection. -/
def removePeer (userId deviceId : String) : PeerM Addr Unit :=
  perform (.peersLock (.remove (peerKey userId deviceId)))

/-- The average of the latencies is not part of the statistics here. -/
def updatePeerLatency (userId deviceId : String) (latencyMs : Nat) : PeerM Addr Unit :=
  perform (.peersLock (.setLatency (peerKey userId deviceId) latencyMs))

/-- The platform calls the methods of the manager, and an attempt spawns its connect task. -/
inductive ManagerTask where
  | initiateHandoff (peerUserId peerDeviceId : String)
  | handleHandoffInitiate (peerUserId peerDeviceId : String) (candidates : List ICECandidate)
  | handleHandoffAck (peerUserId peerDeviceId : String) (candidates : List ICECandidate)
  | removePeer (userId deviceId : String)
  | updatePeerLatency (userId deviceId : String) (latencyMs : Nat)
  | connect (key peerUserId : String) (id : Nat) (candidates : List ICECandidate)

/-- Only the manager spawns connect tasks. -/
def ManagerTask.isCall : ManagerTask → Bool
  | .connect .. => false
  | _ => true

def ManagerTask.body [SocketAddr Addr] (config : P2PConfig) : ManagerTask → PeerM Addr Unit
  | .initiateHandoff peerUserId peerDeviceId => P2P.initiateHandoff config peerUserId peerDeviceId
  | .handleHandoffInitiate peerUserId peerDeviceId candidates =>
      P2P.handleHandoffInitiate config peerUserId peerDeviceId candidates
  | .handleHandoffAck peerUserId peerDeviceId candidates =>
      P2P.handleHandoffAck config peerUserId peerDeviceId candidates
  | .removePeer userId deviceId => P2P.removePeer userId deviceId
  | .updatePeerLatency userId deviceId latencyMs => P2P.updatePeerLatency userId deviceId latencyMs
  | .connect key peerUserId id candidates => connectTask key peerUserId id candidates

/-- The spawned task takes the key, the peer and the candidates with it. -/
def PeerOp.starts : {A : Type} → PeerOp Addr A → A → Option ManagerTask
  | _, .connectionsInsert key connection candidates, id =>
      some (.connect key connection.peerUserId id candidates)
  | _, _, _ => none

/-- All calls and connect tasks share the tables of one manager. -/
abbrev managerPool (Addr : Type) [SocketAddr Addr] (config : P2PConfig) :
    Pool (PeerOp Addr) ManagerTask where
  State := Manager Addr
  Choice := PeerChoice Addr
  exec _ op choice manager := some (op.exec choice manager)
  starts := PeerOp.starts
  body := ManagerTask.body config

end ConstructEngine.P2P
