import Mathlib.Algebra.Group.Nat.Defs
import ConstructEngine.Construction.Error

namespace ConstructEngine

/-- These are the four bytes that the buffer writes for a 32-bit integer. -/
def putU32 (value : Nat) : Bytes :=
  [UInt8.ofNat (value / 2 ^ 24), UInt8.ofNat (value / 2 ^ 16), UInt8.ofNat (value / 2 ^ 8),
    UInt8.ofNat value]

def fromBeBytes (b1 b2 b3 b4 : UInt8) : Nat :=
  b1.toNat * 2 ^ 24 + b2.toNat * 2 ^ 16 + b3.toNat * 2 ^ 8 + b4.toNat

/-- The frame is the compression flag, the length as a 32-bit integer, and the message. -/
def encodeGrpcFrame (protoBytes : Bytes) : Bytes :=
  0 :: putU32 (protoBytes.length % 2 ^ 32) ++ protoBytes

/-- The decoder returns the message bytes and the remaining bytes. -/
def decodeGrpcFrame (data : Bytes) : Except EngineError (Bytes × Bytes) :=
  match data with
  | compressed :: b1 :: b2 :: b3 :: b4 :: body =>
      if compressed ≠ 0 then .error (.transport "compressed gRPC frames not supported")
      else
        let msgLen := fromBeBytes b1 b2 b3 b4
        if body.length < msgLen then
          .error (.transport s!"gRPC frame incomplete: need {msgLen} bytes, have {body.length}")
        else .ok (body.take msgLen, body.drop msgLen)
  | _ => .error (.transport s!"gRPC frame too short: {data.length} bytes")

inductive GrpcStatus where
  | ok
  | cancelled
  | unknown
  | invalidArgument
  | deadlineExceeded
  | notFound
  | alreadyExists
  | permissionDenied
  | resourceExhausted
  | failedPrecondition
  | aborted
  | outOfRange
  | unimplemented
  | internal
  | unavailable
  | dataLoss
  | unauthenticated
  deriving DecidableEq

/-- Codes without a branch of their own become `unknown`. -/
def GrpcStatus.fromCode : Nat → GrpcStatus
  | 0 => .ok
  | 1 => .cancelled
  | 3 => .invalidArgument
  | 4 => .deadlineExceeded
  | 5 => .notFound
  | 7 => .permissionDenied
  | 8 => .resourceExhausted
  | 12 => .unimplemented
  | 13 => .internal
  | 14 => .unavailable
  | 16 => .unauthenticated
  | _ => .unknown

def GrpcStatus.isOk (status : GrpcStatus) : Bool := status = .ok

def GrpcStatus.isUnauthenticated (status : GrpcStatus) : Bool := status = .unauthenticated

end ConstructEngine
