namespace ConstructEngine

abbrev Bytes := List UInt8

inductive EngineError where
  | transport (message : String)
  | tls (message : String)
  | grpc (code : Nat) (message : String)
  | crypto (message : String)
  | config (message : String)
  | alreadyRunning
  | notRunning
  | timeout
  | unauthenticated (message : String)
  | internal (message : String)
  deriving DecidableEq

/-- These are the display texts of the error enumeration. -/
def EngineError.toString : EngineError → String
  | .transport message => s!"Transport error: {message}"
  | .tls message => s!"TLS error: {message}"
  | .grpc code message => s!"gRPC error: code={code}, message={message}"
  | .crypto message => s!"Crypto error: {message}"
  | .config message => s!"Config error: {message}"
  | .alreadyRunning => "Engine is already running"
  | .notRunning => "Engine is not running"
  | .timeout => "Operation timed out"
  | .unauthenticated message => s!"Unauthenticated: {message}"
  | .internal message => s!"Internal error: {message}"

instance : ToString EngineError := ⟨EngineError.toString⟩

def EngineError.isUnauthenticated : EngineError → Bool
  | .unauthenticated _ => true
  | _ => false

/-- The platform passes this configuration once, at construction. -/
structure EngineConfig where
  serverHost : String
  serverPort : Nat
  myDeviceId : String
  myUserId : String
  keysCfeData : Bytes
  authToken : Option String
  eventBuffer : Nat
  deriving DecidableEq

def EngineConfig.default : EngineConfig where
  serverHost := "api.konstruct.cc"
  serverPort := 443
  myDeviceId := ""
  myUserId := ""
  keysCfeData := []
  authToken := none
  eventBuffer := 1024

def EngineConfig.serverAddr (config : EngineConfig) : String :=
  s!"{config.serverHost}:{config.serverPort}"

end ConstructEngine
