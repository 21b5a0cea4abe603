import ConstructEngine.Construction.Error

namespace ConstructEngine

inductive AnonymityLevel where
  | normal
  | ghost
  deriving DecidableEq

inductive CandidateType where
  | localLan
  | publicIp
  | relay
  | ipv6LinkLocal
  | ipv6Global
  deriving DecidableEq

structure ICECandidate where
  candidateType : CandidateType
  address : String
  priority : Nat
  foundation : Option String
  interfaceName : Option String
  transport : String
  generation : Nat
  deriving DecidableEq

/-- The platform dispatches these events to the engine. -/
inductive UiEvent where
  | registerDevice (username : Option String) (deviceId : String)
  | authenticate (deviceId : String) (challengeResponse signingKey : Bytes)
  | refreshToken (refreshToken : String)
  | logout
  | fetchPreKeyBundle (userId : String) (deviceId : Option String)
  | uploadOtpks (deviceId : String) (count : Nat)
  | getPreKeyCount (deviceId : String)
  | rotateSignedPreKey (deviceId : String)
  | openMessageStream (conversationIds : List String) (sinceCursor : Option String)
  | closeMessageStream
  | sendMessage (contactId : String) (plaintext : Bytes) (localId conversationId : String)
      (anonymityLevel : AnonymityLevel)
  | ackMessage (messageId : String) (messageNumber : Nat)
  | initSessionInitiator (contactId : String)
  | searchUser (query : String)
  | signal (callId : String) (signalBytes : Bytes)
  | registerPushToken (token platform : String)
  | backgroundPush (sinceCursor : Option String)
  | keychainResult (key : String) (data : Option Bytes)
  | platformReady
  | p2pHandoffInitiate (peerId : String) (candidates : List ICECandidate)
  | p2pHandoffAck (sessionId : String) (success : Bool) (candidates : List ICECandidate)
      (measuredLatencyMs : Option Nat)
  | p2pStatusReport (peerId : String) (connected : Bool) (latencyMs : Option Nat) (isRelay : Bool)
  deriving DecidableEq

/-- The engine fires these actions at the platform. -/
inductive PlatformAction where
  | saveKeychain (key : String) (data : Bytes)
  | loadKeychain (key : String)
  | deleteKeychain (key : String)
  | setAuthToken (userId accessToken refreshToken : String) (expiresAt : Int)
  | clearAuth
  | registrationComplete (userId deviceId : String)
  | saveMessage (envelopeBytes : Bytes) (senderId conversationId : String) (timestamp : Int)
  | updateMessageStatus (localId : String) (status : Nat)
  | displayMessage (messageId : String) (plaintext : Bytes) (senderId conversationId : String)
      (timestamp : Int)
  | deliveryReceipt (messageId conversationId : String) (timestamp : Int)
  | sessionEstablished (contactId sessionId : String)
  | sessionError (contactId message : String)
  | preKeyBundleReady (userId : String) (bundleBytes : Bytes)
  | otpksUploaded (uploaded serverCount : Nat)
  | preKeyCountUpdated (count recommendedMinimum : Nat)
  | spkRotated (keyId : Nat)
  | streamReady (streamCursor : Option String)
  | streamError (message : String)
  | incomingCall (callId callerId : String) (signalBytes : Bytes)
  | callSignalReceived (callId : String) (signalBytes : Bytes)
  | connectionStateChanged (connected : Bool)
  | networkError (message : String)
  | log (level message : String)
  | showNotification (messageId senderId conversationId : String) (preview : Option Bytes)
      (timestamp : Int)
  | backgroundFetchComplete (decryptedCount : Nat) (hadErrors : Bool)
  | p2pStatusReport (peerId : String) (connected : Bool) (latencyMs : Option Nat) (isRelay : Bool)
  | userFound (userId username : String)
  | userNotFound (query : String)
  deriving DecidableEq

end ConstructEngine
