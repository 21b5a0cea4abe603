import ConstructEngine.Construction.Stream

namespace ConstructEngine

open Interaction Program

variable {Core : Type} [Prost]

/-- The new keys are persisted before the server learns them. -/
def handleUploadOtpks (deviceId : String) (count : Nat) : EngineM Core Unit := do
  match ← perform (.core (.generateAndExport count)) with
  | .error _ => return
  | .ok (preKeys, stateBytes) =>
      onAction (.saveKeychain "orchestrator_state" stateBytes)
      let uploaded := preKeys.length % 2 ^ 32
      let req : UploadPreKeysRequest := ⟨deviceId, preKeys, none, false⟩
      match ← unaryCall keyUpload (Prost.encodeToVec .uploadPreKeysRequest req) with
      | .error _ => return
      | .ok bytes =>
          match Prost.decode .uploadPreKeysResponse bytes with
          | .error _ => return
          | .ok resp => onAction (.otpksUploaded uploaded resp.preKeyCount)

/-- Too few keys on the server lead to an upload. -/
def handleGetPreKeyCount (deviceId : String) : EngineM Core Unit := do
  match ← unaryCall keyCount (Prost.encodeToVec .getPreKeyCountRequest ⟨deviceId⟩) with
  | .error _ => return
  | .ok bytes =>
      match Prost.decode .getPreKeyCountResponse bytes with
      | .error _ => return
      | .ok resp =>
          onAction (.preKeyCountUpdated resp.count resp.recommendedMinimum)
          if resp.count < resp.recommendedMinimum then
            let needed := resp.recommendedMinimum - resp.count
            handleUploadOtpks deviceId needed

/-- The new key is saved before the server learns it. -/
def handleRotateSpk (deviceId : String) : EngineM Core Unit := do
  match ← perform (.core .rotateAndExport) with
  | .error _ => return
  | .ok (keyId, spkPublic, spkSig, stateBytes) =>
      onAction (.saveKeychain "orchestrator_state" stateBytes)
      let req : RotateSignedPreKeyRequest :=
        ⟨deviceId, some ⟨keyId, spkPublic, spkSig⟩, Prost.scheduled⟩
      match ← unaryCall keyRotateSpk (Prost.encodeToVec .rotateSignedPreKeyRequest req) with
      | .error _ => return
      | .ok bytes =>
          match Prost.decode .rotateSignedPreKeyResponse bytes with
          | .error _ => return
          | .ok resp => if resp.success then onAction (.spkRotated keyId)

variable [ConstructCore Core] (config : EngineConfig)

/-- Registration solves the challenge, sends the public keys of the core and stores the tokens. -/
def handleRegisterDevice (username : Option String) (deviceId : String) : EngineM Core Unit := do
  match ← unaryCall authPowChallenge (Prost.encodeToVec .getPowChallengeRequest ⟨⟩) with
  | .error _ => return
  | .ok challengeBytes =>
  match Prost.decode .getPowChallengeResponse challengeBytes with
  | .error _ => return
  | .ok challengeResp =>
  match ← perform (.computePow challengeResp.challenge challengeResp.difficulty) with
  | none => return
  | some powSolution =>
  match ← perform (.core .registrationKeys) with
  | .error _ => return
  | .ok publicKeys =>
  let req : RegisterDeviceRequest := {
    username
    deviceId
    publicKeys := some publicKeys
    powSolution := some ⟨challengeResp.challenge, powSolution.nonce, powSolution.hash⟩ }
  match ← unaryCall authRegister (Prost.encodeToVec .registerDeviceRequest req) with
  | .error (.unauthenticated _) => onAction .clearAuth
  | .error _ => return
  | .ok bytes =>
  match Prost.decode .registerDeviceResponse bytes with
  | .error _ => return
  | .ok resp =>
  match resp.tokens with
  | none => return
  | some tokens =>
  perform (.tokenWrite (some tokens.accessToken))
  perform (.tokenStateSend (some ⟨tokens.refreshToken, tokens.expiresAt⟩))
  onAction (.setAuthToken tokens.userId tokens.accessToken tokens.refreshToken tokens.expiresAt)
  onAction (.registrationComplete tokens.userId deviceId)
  reopenStreamIfNeeded
  handleGetPreKeyCount config.myDeviceId

variable (Core) in
/-- A long enough key signs the request; otherwise the event's own signature is used. -/
def authSignature (deviceId : String) (timestamp : Int) (challengeResponse signingKey : Bytes) :
    Bytes :=
  if 32 ≤ signingKey.length then
    ConstructCore.sign Core (signingKey.take 32) s!"{deviceId}{timestamp}".toUTF8.toList
  else challengeResponse

def handleAuthenticate (deviceId : String) (challengeResponse signingKey : Bytes) :
    EngineM Core Unit := do
  let timestamp ← perform .systemTime
  let signature := authSignature Core deviceId timestamp challengeResponse signingKey
  let req : AuthenticateDeviceRequest := ⟨deviceId, timestamp, signature⟩
  match ← unaryCall authAuthenticate (Prost.encodeToVec .authenticateDeviceRequest req) with
  | .error (.unauthenticated _) => onAction .clearAuth
  | .error _ => return
  | .ok bytes =>
  match Prost.decode .authenticateDeviceResponse bytes with
  | .error _ => return
  | .ok resp =>
  match resp.tokens with
  | none => return
  | some tokens =>
  perform (.tokenWrite (some tokens.accessToken))
  perform (.tokenStateSend (some ⟨tokens.refreshToken, tokens.expiresAt⟩))
  onAction (.setAuthToken tokens.userId tokens.accessToken tokens.refreshToken tokens.expiresAt)
  reopenStreamIfNeeded
  handleGetPreKeyCount config.myDeviceId

omit [ConstructCore Core] in
/-- A rejection is reported while the transport keeps its token. An answer without a refresh token stores
the empty one. -/
def handleRefreshToken (refreshToken : String) : EngineM Core Unit := do
  let req : RefreshTokenRequest := ⟨refreshToken, config.myDeviceId⟩
  match ← unaryCall authRefresh (Prost.encodeToVec .refreshTokenRequest req) with
  | .error (.unauthenticated _) =>
      perform (.tokenStateSend none)
      onAction .clearAuth
  | .error _ => return
  | .ok bytes =>
  match Prost.decode .refreshTokenResponse bytes with
  | .error _ => return
  | .ok resp =>
  let rt := resp.refreshToken.getD ""
  perform (.tokenWrite (some resp.accessToken))
  perform (.tokenStateSend (some ⟨rt, resp.expiresAt⟩))
  onAction (.setAuthToken "" resp.accessToken rt resp.expiresAt)
  reopenStreamIfNeeded

/-- A failed request does not keep the engine from forgetting the tokens. -/
def handleLogout : EngineM Core Unit := do
  let req : LogoutRequest := ⟨config.authToken.getD "", false⟩
  let _ ← unaryCall authLogout (Prost.encodeToVec .logoutRequest req)
  perform (.tokenWrite none)
  perform (.tokenStateSend none)
  onAction .clearAuth

def handleFetchPreKeyBundle (userId : String) (deviceId : Option String) :
    EngineM Core Unit := do
  let req : GetPreKeyBundleRequest := ⟨userId, deviceId, none⟩
  match ← unaryCall keyGetBundle (Prost.encodeToVec .getPreKeyBundleRequest req) with
  | .error _ => return
  | .ok bytes => onAction (.preKeyBundleReady userId bytes)

/-- Any failure counts as an unknown user. -/
def handleSearchUser (query : String) : EngineM Core Unit := do
  match ← unaryCall userFind (Prost.encodeToVec .findUserRequest ⟨query⟩) with
  | .error _ => onAction (.userNotFound query)
  | .ok bytes =>
      match Prost.decode .findUserResponse bytes with
      | .error _ => onAction (.userNotFound query)
      | .ok resp =>
          if resp.userId.isEmpty then onAction (.userNotFound query)
          else onAction (.userFound resp.userId query)

def handleRegisterPush (token : String) : EngineM Core Unit := do
  let req : RegisterDeviceTokenRequest := ⟨token, config.myDeviceId⟩
  let _ ← unaryCall notificationRegister (Prost.encodeToVec .registerDeviceTokenRequest req)

end ConstructEngine
