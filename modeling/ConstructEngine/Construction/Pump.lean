import ConstructEngine.Construction.Grpc

namespace ConstructEngine

/-- The pump measures the first frame of its buffer from the length header. The sum fits in a
machine word of 64 bits. -/
def frameSize (recvBuf : Bytes) : Option Nat :=
  match recvBuf with
  | _ :: b1 :: b2 :: b3 :: b4 :: _ =>
      let msgLen := fromBeBytes b1 b2 b3 b4
      if recvBuf.length < 5 + msgLen then none else some (5 + msgLen)
  | _ => none

theorem frameSize_bounds {recvBuf : Bytes} {size : Nat} (measured : frameSize recvBuf = some size) :
    5 ≤ size ∧ size ≤ recvBuf.length := by
  unfold frameSize at measured
  split at measured
  · simp only at measured
    split at measured
    · cases measured
    · cases measured
      omega
  · cases measured

/-- The pump hands over every complete frame of its buffer and keeps the rest. -/
def drainFrames (recvBuf : Bytes) : List Bytes × Bytes :=
  match _measured : frameSize recvBuf with
  | none => ([], recvBuf)
  | some size =>
      let (frames, kept) := drainFrames (recvBuf.drop size)
      (recvBuf.take size :: frames, kept)
  termination_by recvBuf.length
  decreasing_by
    have bounds := frameSize_bounds _measured
    simp only [List.length_drop]
    omega

inductive PumpEnd where
  | disconnected
  | sendFailed
  | serverClosed
  | recvFailed
  | aborted
  deriving DecidableEq

/-- The pump ends by itself unless its handle was dropped. -/
def PumpEnd.byItself : PumpEnd → Bool
  | .sendFailed | .serverClosed | .recvFailed => true
  | .disconnected | .aborted => false

/-- A frame that was popped from the queue is in flight until the stream has taken it. -/
inductive PumpAt where
  | draining
  | sending (frame : Bytes)
  | polling
  | ended (reason : PumpEnd)
  deriving DecidableEq

/-- A pump owns one H3 stream, its outgoing queue and its receive buffer. -/
structure Pump where
  conn : Nat
  outgoing : List Bytes := []
  handleDropped : Bool := false
  location : PumpAt := .draining
  written : List Bytes := []
  finished : Bool := false
  recvBuf : Bytes := []
  endedAt : Option Nat := none

def Pump.isEnded (pump : Pump) : Bool :=
  match pump.location with
  | .ended _ => true
  | _ => false

/-- These are the answers that a pump can receive at its current place. -/
inductive PumpInput where
  | pop
  | sent
  | sendFails
  | queueEmpty
  | chunk (data : Bytes)
  | serverCloses
  | recvFails
  | timeout
  | abort

/-- One step of the pump returns the frames that it passes on. -/
def Pump.step (pump : Pump) (input : PumpInput) : Option (Pump × List Bytes) :=
  match pump.location, input with
  | .ended _, _ => none
  | _, .abort =>
      if pump.handleDropped then some ({ pump with location := .ended .aborted }, []) else none
  | .draining, .pop =>
      match pump.outgoing with
      | frame :: rest => some ({ pump with outgoing := rest, location := .sending frame }, [])
      | [] => none
  | .sending frame, .sent =>
      some ({ pump with written := pump.written ++ [frame], location := .draining }, [])
  | .sending _, .sendFails => some ({ pump with finished := true, location := .ended .sendFailed }, [])
  | .draining, .queueEmpty =>
      if pump.outgoing.isEmpty then
        if pump.handleDropped then
          some ({ pump with finished := true, location := .ended .disconnected }, [])
        else some ({ pump with location := .polling }, [])
      else none
  | .polling, .chunk data =>
      let (frames, kept) := drainFrames (pump.recvBuf ++ data)
      some ({ pump with recvBuf := kept, location := .draining }, frames)
  | .polling, .serverCloses => some ({ pump with location := .ended .serverClosed }, [])
  | .polling, .recvFails => some ({ pump with location := .ended .recvFailed }, [])
  | .polling, .timeout => some ({ pump with location := .draining }, [])
  | _, _ => none

end ConstructEngine
