import ConstructEngine.Construction.Grpc

namespace ConstructEngine

/-- Header names are lower case, and header values are raw bytes. -/
abbrev Headers := List (String × Bytes)

def Headers.get (headers : Headers) (name : String) : Option Bytes := headers.lookup name

def isVisibleAscii (byte : UInt8) : Bool := (32 ≤ byte && byte < 127) || byte = 9

/-- A header value is a text only when every byte is visible. -/
def toStr (value : Bytes) : Option Bytes := if value.all isVisibleAscii then some value else none

def asText (value : Bytes) : String := String.ofList (value.map fun byte => Char.ofNat byte.toNat)

/-- The parser reads an optional plus sign and at least one digit, without overflow. -/
def parseU32 (text : Bytes) : Option Nat :=
  let digits := if text.head? = some 43 then text.tail else text
  if digits.isEmpty then none
  else digits.foldlM (fun value digit =>
    if 48 ≤ digit ∧ digit ≤ 57 then
      let next := value * 10 + (digit.toNat - 48)
      if next < 2 ^ 32 then some next else none
    else none) 0

/-- The status line of a response carries the number and the display text of its code. -/
structure StatusCode where
  code : Nat
  text : String

/-- An exchange lists what the H3 stream answers to each call of one request. -/
structure H3Exchange where
  buildRequest : Except String Unit := .ok ()
  sendRequest : Except String Unit := .ok ()
  sendData : Except String Unit := .ok ()
  finish : Except String Unit := .ok ()
  recvResponse : Except String (StatusCode × Headers) := .error "closed"
  recvData : List Bytes := []
  recvEnd : Except String Unit := .ok ()
  recvTrailers : Except String (Option Headers) := .ok none

def grpcStatusOf (trailers : Headers) : Nat :=
  (((trailers.get "grpc-status").bind toStr).bind parseU32).getD 2

def grpcMessageOf (trailers : Headers) : String :=
  (((trailers.get "grpc-message").bind toStr).map asText).getD ""

/-- A status in the trailers that is not `ok` ends the call with an error. -/
def checkTrailers (trailers : Headers) : Except EngineError Unit :=
  let grpcStatus := grpcStatusOf trailers
  let grpcMsg := grpcMessageOf trailers
  let status := GrpcStatus.fromCode grpcStatus
  if status.isOk then .ok ()
  else if status.isUnauthenticated then .error (.unauthenticated grpcMsg)
  else .error (.grpc grpcStatus grpcMsg)

def failedWith (stage : String) {A : Type} (answer : Except String A) : Except EngineError A :=
  answer.mapError fun message => .transport s!"{stage}: {message}"

def doUnaryCall (servicePath : String) (exchange : H3Exchange) : Except EngineError Bytes := do
  failedWith "build request" exchange.buildRequest
  failedWith s!"send_request '{servicePath}'" exchange.sendRequest
  failedWith "send_data" exchange.sendData
  failedWith "finish" exchange.finish
  let (status, _) ← failedWith "recv_response" exchange.recvResponse
  if status.code ≠ 200 then
    throw (.transport s!"HTTP {status.text} from '{servicePath}'")
  let body := exchange.recvData.flatten
  failedWith "recv_data" exchange.recvEnd
  match ← failedWith "recv_trailers" exchange.recvTrailers with
  | some trailers => checkTrailers trailers
  | none => pure ()
  if body.isEmpty then
    return []
  let (msg, _) ← decodeGrpcFrame body
  return msg

end ConstructEngine
