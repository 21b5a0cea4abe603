import ConstructEngine.Construction.Error

namespace ConstructEngine

/- The protobuf messages carry the fields that the engine reads or writes. The generated code
gives every other field its default value. -/

structure GetPowChallengeRequest where

structure GetPowChallengeResponse where
  challenge : String
  difficulty : Nat

structure DevicePublicKeys where
  verifyingKey : Bytes
  identityPublic : Bytes
  signedPrekeyPublic : Bytes
  signedPrekeySignature : Bytes
  cryptoSuite : String

structure PowSolution where
  challenge : String
  nonce : Nat
  hash : Bytes

structure RegisterDeviceRequest where
  username : Option String
  deviceId : String
  publicKeys : Option DevicePublicKeys
  powSolution : Option PowSolution

structure AuthTokens where
  userId : String
  accessToken : String
  refreshToken : String
  expiresAt : Int

structure RegisterDeviceResponse where
  tokens : Option AuthTokens

structure AuthenticateDeviceRequest where
  deviceId : String
  timestamp : Int
  signature : Bytes

structure AuthenticateDeviceResponse where
  tokens : Option AuthTokens

structure RefreshTokenRequest where
  refreshToken : String
  deviceId : String

structure RefreshTokenResponse where
  accessToken : String
  refreshToken : Option String
  expiresAt : Int

structure LogoutRequest where
  accessToken : String
  allDevices : Bool

structure GetPreKeyBundleRequest where
  userId : String
  deviceId : Option String
  preferredSuite : Option Int

structure PreKeyBundle where
  cryptoSuite : Int
  identityKey : Bytes
  signedPreKey : Bytes
  signedPreKeySignature : Bytes
  oneTimePreKey : Option Bytes
  oneTimePreKeyId : Option Nat
  spkUploadedAt : Int
  spkRotationEpoch : Nat
  kyberSpkUploadedAt : Option Int
  kyberSpkRotationEpoch : Option Nat
  kyberPreKey : Option Bytes
  kyberOneTimePreKey : Option Bytes
  kyberOneTimePreKeyId : Option Nat

structure GetPreKeyBundleResponse where
  bundle : Option PreKeyBundle
  verifyingKey : Bytes

structure OneTimePreKey where
  keyId : Nat
  publicKey : Bytes

structure SignedPreKeyUpload where
  keyId : Nat
  publicKey : Bytes
  signature : Bytes

structure UploadPreKeysRequest where
  deviceId : String
  preKeys : List OneTimePreKey
  signedPreKey : Option SignedPreKeyUpload
  replaceExisting : Bool

structure UploadPreKeysResponse where
  preKeyCount : Nat

structure GetPreKeyCountRequest where
  deviceId : String

structure GetPreKeyCountResponse where
  count : Nat
  recommendedMinimum : Nat

structure RotateSignedPreKeyRequest where
  deviceId : String
  newSignedPreKey : Option SignedPreKeyUpload
  reason : Int

structure RotateSignedPreKeyResponse where
  success : Bool

/-- The engine tells the text id from every other form of a message id. -/
inductive MessageIdType where
  | messageId (id : String)
  | other

structure SealedInner where
  recipientUserId : String
  deliveryTag : Bytes
  encryptedPayload : Bytes
  contentType : Int

structure SealedSenderEnvelope where
  sealedInner : Bytes
  timestamp : Int

structure UserId where
  userId : String

structure Envelope where
  sender : Option UserId := none
  encryptedPayload : Bytes := []
  messageIdType : Option MessageIdType := none
  conversationId : String := ""
  timestamp : Int := 0
  sealedSender : Option SealedSenderEnvelope := none

structure SubscribeRequest where
  conversationIds : List String
  sinceCursor : Option String
  includePresence : Bool

structure DirectReceipt where
  messageIds : List String
  status : Int
  timestamp : Int

inductive ReceiptType where
  | direct (receipt : DirectReceipt)
  | other

structure DeliveryReceipt where
  receiptType : Option ReceiptType

inductive StreamRequest where
  | subscribe (request : SubscribeRequest)
  | send (envelope : Envelope)
  | receipt (receipt : DeliveryReceipt)

structure MessageStreamRequest where
  request : Option StreamRequest
  requestId : String
  attemptId : Option String

inductive StreamResponse where
  | message (envelope : Envelope)
  | ack
  | receipt (receipt : DeliveryReceipt)
  | heartbeatAck
  | other

structure MessageStreamResponse where
  response : Option StreamResponse
  streamCursor : Option String

structure FindUserRequest where
  username : String

structure FindUserResponse where
  userId : String

structure RegisterDeviceTokenRequest where
  deviceToken : String
  deviceId : String

structure GetPendingMessagesRequest where
  sinceCursor : Option String
  limit : Option Nat

structure PendingMessage where
  contentType : Int
  encryptedPayload : Bytes
  senderId : String
  messageId : String
  timestamp : Int

structure GetPendingMessagesResponse where
  messages : List PendingMessage
  hasMore : Bool
  nextCursor : String

/-- A schema names one generated message type. -/
inductive Schema : Type → Type where
  | getPowChallengeRequest : Schema GetPowChallengeRequest
  | getPowChallengeResponse : Schema GetPowChallengeResponse
  | registerDeviceRequest : Schema RegisterDeviceRequest
  | registerDeviceResponse : Schema RegisterDeviceResponse
  | authenticateDeviceRequest : Schema AuthenticateDeviceRequest
  | authenticateDeviceResponse : Schema AuthenticateDeviceResponse
  | refreshTokenRequest : Schema RefreshTokenRequest
  | refreshTokenResponse : Schema RefreshTokenResponse
  | logoutRequest : Schema LogoutRequest
  | getPreKeyBundleRequest : Schema GetPreKeyBundleRequest
  | getPreKeyBundleResponse : Schema GetPreKeyBundleResponse
  | uploadPreKeysRequest : Schema UploadPreKeysRequest
  | uploadPreKeysResponse : Schema UploadPreKeysResponse
  | getPreKeyCountRequest : Schema GetPreKeyCountRequest
  | getPreKeyCountResponse : Schema GetPreKeyCountResponse
  | rotateSignedPreKeyRequest : Schema RotateSignedPreKeyRequest
  | rotateSignedPreKeyResponse : Schema RotateSignedPreKeyResponse
  | sealedInner : Schema SealedInner
  | messageStreamRequest : Schema MessageStreamRequest
  | messageStreamResponse : Schema MessageStreamResponse
  | findUserRequest : Schema FindUserRequest
  | findUserResponse : Schema FindUserResponse
  | registerDeviceTokenRequest : Schema RegisterDeviceTokenRequest
  | getPendingMessagesRequest : Schema GetPendingMessagesRequest
  | getPendingMessagesResponse : Schema GetPendingMessagesResponse

/-- The generated code is not part of the repository, so the model takes its codec and the
numbers of its enumerations as parameters. -/
class Prost where
  encodeToVec : {M : Type} → Schema M → M → Bytes
  decode : {M : Type} → Schema M → Bytes → Except String M
  hybridKyber1024X25519 : Int
  hybridKyber768X25519 : Int
  e2eeSignal : Int
  scheduled : Int

end ConstructEngine
