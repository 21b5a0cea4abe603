import ConstructEngine.Construction.Proto

namespace ConstructEngine

/-- The private keys are stored in the keychain as one blob. -/
structure CfePrivateKeysV1 where
  ikPriv : Bytes
  skPriv : Bytes
  spkPriv : Bytes
  spkSig : Bytes

inductive SuiteID where
  | classic
  | pqHybrid
  deriving DecidableEq

/-- The core starts a session from these public keys of a peer. -/
structure X3DHPublicKeyBundle where
  identityPublic : Bytes
  signedPrekeyPublic : Bytes
  signature : Bytes
  verifyingKey : Bytes
  suiteId : SuiteID
  oneTimePrekeyPublic : Option Bytes
  oneTimePrekeyId : Option Nat
  spkUploadedAt : Nat
  spkRotationEpoch : Nat
  kyberSpkUploadedAt : Nat
  kyberSpkRotationEpoch : Nat

structure KyberKeys where
  preKey : Option Bytes
  otpk : Option Bytes
  otpkId : Option Nat

/-- An encrypted payload is unpacked into its header and its content. -/
structure WirePayload where
  messageNumber : Nat
  dhPublicKey : Bytes
  sealedBox : Bytes
  oneTimePrekeyId : Option Nat

/-- The first message of a peer starts a session. -/
structure IncomingFirstMessage where
  ephemeralPublicKey : Bytes
  messageNumber : Nat
  content : Bytes
  oneTimePrekeyId : Option Nat

structure RegistrationBundle where
  verifyingKey : Bytes
  identityPublic : Bytes
  signedPrekeyPublic : Bytes
  signature : Bytes

/-- The healing queue says whether a failed session is tried again. -/
inductive HealingDecision where
  | retryAllowed (attempt retryAfterMs : Nat)
  | maxAttemptsReached
  | notFound

/-- The crypto core is not part of the repository, so the model takes its calls as parameters.
A call that borrows the core mutably may change the core even when it fails. -/
class ConstructCore (Core : Type) where
  decodePrivateKeys : Bytes → Except String CfePrivateKeysV1
  fromKeys : CfePrivateKeysV1 → String → Except String Core
  encryptBytesFor : String → Bytes → Core → Except String Bytes × Core
  decryptBytesFor : String → Bytes → Core → Except String Bytes × Core
  initSessionWithBundle : String → X3DHPublicKeyBundle → KyberKeys → Core →
    Except String Unit × Core
  initReceivingSessionWithMsg : String → X3DHPublicKeyBundle → IncomingFirstMessage → Core →
    Except String (String × Bytes) × Core
  exportOrchestratorStateCfe : Core → Except String Bytes
  importOrchestratorStateCfe : Bytes → Core → Except String Unit × Core
  getAllSessionContactIds : Core → List String
  generateOtpks : Nat → Core → Except String (List (Nat × Bytes)) × Core
  rotateSpk : Core → Except String (Nat × Bytes × Bytes) × Core
  getRegistrationBundleFields : Core → Except String RegistrationBundle
  clearHealRecord : String → Core → Core
  enqueueHeal : String → Bytes → Core → Core
  recordHealAttempt : String → Core → HealingDecision × Core
  unpack : Bytes → Except String WirePayload
  computePow : String → Nat → PowSolution
  sign : Bytes → Bytes → Bytes

/-- The trace records each call of the core with its answer. -/
inductive CoreCall where
  | encrypt (contactId : String) (plaintext : Bytes) (answer : Except String Bytes)
  | decrypt (senderId : String) (wirePayload : Bytes) (answer : Except String Bytes)
  | initSession (contactId : String) (answer : Except String Unit)
  | initReceivingSession (senderId : String) (answer : Except String (String × Bytes))
  | exportState (answer : Except String Bytes)
  | importState (blob : Bytes) (answer : Except String Unit)
  | generateOtpks (count : Nat) (answer : Except String (List (Nat × Bytes)))
  | rotateSpk (answer : Except String (Nat × Bytes × Bytes))
  | enqueueHeal (senderId : String) (wirePayload : Bytes)
  | recordHealAttempt (senderId : String) (decision : HealingDecision)
  | clearHealRecord (senderId : String)
  | initCore (initialised : Bool)

/-- A critical section computes on the locked core and records its calls. -/
abbrev LockedM (Core : Type) := StateM (Core × List CoreCall)

namespace LockedM

@[simp] theorem pure_run {Core A : Type} (value : A) (state : Core × List CoreCall) :
    (pure value : LockedM Core A) state = (value, state) := rfl

@[simp] theorem bind_run {Core A B : Type} (body : LockedM Core A) (rest : A → LockedM Core B)
    (state : Core × List CoreCall) :
    (body >>= rest) state = rest (body state).1 (body state).2 := rfl

variable {Core : Type} [ConstructCore Core]

/-- The calls of the core are noted with their answers. -/
def encryptBytesFor (contactId : String) (plaintext : Bytes) :
    LockedM Core (Except String Bytes) := fun (core, calls) =>
  let (answer, core) := ConstructCore.encryptBytesFor contactId plaintext core
  (answer, core, calls ++ [.encrypt contactId plaintext answer])

def decryptBytesFor (senderId : String) (wirePayload : Bytes) :
    LockedM Core (Except String Bytes) := fun (core, calls) =>
  let (answer, core) := ConstructCore.decryptBytesFor senderId wirePayload core
  (answer, core, calls ++ [.decrypt senderId wirePayload answer])

def initSessionWithBundle (contactId : String) (bundle : X3DHPublicKeyBundle)
    (kyber : KyberKeys) : LockedM Core (Except String Unit) := fun (core, calls) =>
  let (answer, core) := ConstructCore.initSessionWithBundle contactId bundle kyber core
  (answer, core, calls ++ [.initSession contactId answer])

def initReceivingSessionWithMsg (senderId : String) (bundle : X3DHPublicKeyBundle)
    (first : IncomingFirstMessage) : LockedM Core (Except String (String × Bytes)) :=
  fun (core, calls) =>
  let (answer, core) := ConstructCore.initReceivingSessionWithMsg senderId bundle first core
  (answer, core, calls ++ [.initReceivingSession senderId answer])

def exportOrchestratorStateCfe : LockedM Core (Except String Bytes) := fun (core, calls) =>
  let answer := ConstructCore.exportOrchestratorStateCfe core
  (answer, core, calls ++ [.exportState answer])

def importOrchestratorStateCfe (blob : Bytes) : LockedM Core (Except String Unit) :=
  fun (core, calls) =>
  let (answer, core) := ConstructCore.importOrchestratorStateCfe blob core
  (answer, core, calls ++ [.importState blob answer])

def getAllSessionContactIds : LockedM Core (List String) := fun (core, calls) =>
  (ConstructCore.getAllSessionContactIds core, core, calls)

def generateOtpks (count : Nat) : LockedM Core (Except String (List (Nat × Bytes))) :=
  fun (core, calls) =>
  let (answer, core) := ConstructCore.generateOtpks count core
  (answer, core, calls ++ [.generateOtpks count answer])

def rotateSpk : LockedM Core (Except String (Nat × Bytes × Bytes)) := fun (core, calls) =>
  let (answer, core) := ConstructCore.rotateSpk core
  (answer, core, calls ++ [.rotateSpk answer])

def getRegistrationBundleFields : LockedM Core (Except String RegistrationBundle) :=
  fun (core, calls) => (ConstructCore.getRegistrationBundleFields core, core, calls)

def clearHealRecord (senderId : String) : LockedM Core Unit := fun (core, calls) =>
  ((), ConstructCore.clearHealRecord senderId core, calls ++ [.clearHealRecord senderId])

def enqueueHeal (senderId : String) (wirePayload : Bytes) : LockedM Core Unit :=
  fun (core, calls) =>
  ((), ConstructCore.enqueueHeal senderId wirePayload core,
    calls ++ [.enqueueHeal senderId wirePayload])

def recordHealAttempt (senderId : String) : LockedM Core HealingDecision := fun (core, calls) =>
  let (decision, core) := ConstructCore.recordHealAttempt senderId core
  (decision, core, calls ++ [.recordHealAttempt senderId decision])

end LockedM

/-- A state that cannot be exported is the empty state. -/
def unwrapOrDefault : Except String Bytes → Bytes
  | .ok bytes => bytes
  | .error _ => []

/-- A section names one region of the engine that holds the core lock. -/
inductive CoreSection (Core : Type) : Type → Type where
  | encryptAndExport (contactId : String) (plaintext : Bytes) :
      CoreSection Core (Except String (Bytes × Bytes))
  | initiateAndExport (contactId : String) (bundle : X3DHPublicKeyBundle) (kyber : KyberKeys) :
      CoreSection Core (Except String (Bytes × Bytes))
  | receiveAndExport (senderId : String) (bundle : X3DHPublicKeyBundle)
      (first : IncomingFirstMessage) : CoreSection Core (Except String (Bytes × Bytes))
  | decryptAndExport (senderId : String) (wirePayload : Bytes) :
      CoreSection Core (Except String (Bytes × Bytes))
  | decrypt (senderId : String) (wirePayload : Bytes) : CoreSection Core (Except String Bytes)
  | exportState : CoreSection Core (Except String Bytes)
  | restore (blob : Bytes) : CoreSection Core (List String)
  | replace (core : Option Core) : CoreSection Core Unit
  | registrationKeys : CoreSection Core (Except String DevicePublicKeys)
  | generateAndExport (count : Nat) :
      CoreSection Core (Except String (List OneTimePreKey × Bytes))
  | rotateAndExport : CoreSection Core (Except String (Nat × Bytes × Bytes × Bytes))
  | heal (senderId : String) (wirePayload : Bytes) : CoreSection Core HealingDecision
  | clearHeal (senderId : String) : CoreSection Core Unit

namespace CoreSection

variable {Core A : Type} [ConstructCore Core]

open LockedM

/-- The section runs on the core inside the lock, or gives its answer for an absent core. -/
def locked (core : Option Core) (absent : A) (body : LockedM Core A) :
    A × Option Core × List CoreCall :=
  match core with
  | none => (absent, none, [])
  | some core =>
      let (answer, core, calls) := body (core, [])
      (answer, some core, calls)

/-- A section without a core gives this error. -/
def notInitialized {A : Type} : Except String A := .error "OrchestratorCore not initialized"

/-- The message is encrypted, and the state is exported under the same lock. -/
def encryptBody (contactId : String) (plaintext : Bytes) :
    LockedM Core (Except String (Bytes × Bytes)) := do
  match ← encryptBytesFor contactId plaintext with
  | .error message => return .error s!"encrypt: {message}"
  | .ok wirePayload =>
      let stateBytes := unwrapOrDefault (← exportOrchestratorStateCfe)
      return .ok (wirePayload, stateBytes)

/-- A new session encrypts an empty first message. -/
def initiateBody (contactId : String) (bundle : X3DHPublicKeyBundle) (kyber : KyberKeys) :
    LockedM Core (Except String (Bytes × Bytes)) := do
  match ← initSessionWithBundle contactId bundle kyber with
  | .error message => return .error s!"init_session_with_bundle: {message}"
  | .ok () =>
      match ← encryptBytesFor contactId [] with
      | .error message => return .error s!"encrypt first message: {message}"
      | .ok wirePayload =>
          let stateBytes := unwrapOrDefault (← exportOrchestratorStateCfe)
          return .ok (wirePayload, stateBytes)

/-- The first message opens the session. -/
def receiveBody (senderId : String) (bundle : X3DHPublicKeyBundle)
    (first : IncomingFirstMessage) : LockedM Core (Except String (Bytes × Bytes)) := do
  match ← initReceivingSessionWithMsg senderId bundle first with
  | .error message => return .error s!"init_receiving_session: {message}"
  | .ok (_, plaintext) =>
      let stateBytes := unwrapOrDefault (← exportOrchestratorStateCfe)
      return .ok (plaintext, stateBytes)

/-- The message is decrypted, and the state is exported under the same lock. -/
def decryptAndExportBody (senderId : String) (wirePayload : Bytes) :
    LockedM Core (Except String (Bytes × Bytes)) := do
  match ← decryptBytesFor senderId wirePayload with
  | .error message => return .error s!"decrypt: {message}"
  | .ok plaintext =>
      let stateBytes := unwrapOrDefault (← exportOrchestratorStateCfe)
      return .ok (plaintext, stateBytes)

/-- The contacts are listed only when the import succeeds. -/
def restoreBody (blob : Bytes) : LockedM Core (List String) := do
  match ← importOrchestratorStateCfe blob with
  | .ok () => getAllSessionContactIds
  | .error _ => return []

/-- The public keys are registered with the suite of their curve. -/
def registrationBody : LockedM Core (Except String DevicePublicKeys) := do
  match ← getRegistrationBundleFields with
  | .error message => return .error message
  | .ok bundle => return .ok {
      verifyingKey := bundle.verifyingKey
      identityPublic := bundle.identityPublic
      signedPrekeyPublic := bundle.signedPrekeyPublic
      signedPrekeySignature := bundle.signature
      cryptoSuite := "Curve25519+Ed25519" }

/-- Unlike the message sections, the key sections give up when the export fails. -/
def generateBody (count : Nat) : LockedM Core (Except String (List OneTimePreKey × Bytes)) := do
  match ← generateOtpks count with
  | .error message => return .error message
  | .ok pairs =>
      match ← exportOrchestratorStateCfe with
      | .error message => return .error message
      | .ok state => return .ok (pairs.map fun (keyId, publicKey) => ⟨keyId, publicKey⟩, state)

def rotateBody : LockedM Core (Except String (Nat × Bytes × Bytes × Bytes)) := do
  match ← LockedM.rotateSpk with
  | .error message => return .error message
  | .ok (keyId, publicKey, signature) =>
      match ← exportOrchestratorStateCfe with
      | .error message => return .error message
      | .ok state => return .ok (keyId, publicKey, signature, state)

/-- The message is queued before its attempt is counted. -/
def healBody (senderId : String) (wirePayload : Bytes) : LockedM Core HealingDecision := do
  enqueueHeal senderId wirePayload
  recordHealAttempt senderId

/-- This is the effect of each section on the core, with the calls that it makes. -/
def run : {A : Type} → CoreSection Core A → Option Core → A × Option Core × List CoreCall
  | _, .encryptAndExport contactId plaintext, core =>
      locked core notInitialized (encryptBody contactId plaintext)
  | _, .initiateAndExport contactId bundle kyber, core =>
      locked core notInitialized (initiateBody contactId bundle kyber)
  | _, .receiveAndExport senderId bundle first, core =>
      locked core notInitialized (receiveBody senderId bundle first)
  | _, .decryptAndExport senderId wirePayload, core =>
      locked core notInitialized (decryptAndExportBody senderId wirePayload)
  | _, .decrypt senderId wirePayload, core =>
      locked core notInitialized do
        match ← decryptBytesFor senderId wirePayload with
        | .error message => return .error s!"decrypt: {message}"
        | .ok plaintext => return .ok plaintext
  | _, .exportState, core =>
      locked core notInitialized do
        match ← exportOrchestratorStateCfe with
        | .error message => return .error s!"export: {message}"
        | .ok state => return .ok state
  | _, .restore blob, core => locked core [] (restoreBody blob)
  | _, .replace core, _ => ((), core, [.initCore core.isSome])
  | _, .registrationKeys, core => locked core notInitialized registrationBody
  | _, .generateAndExport count, core => locked core notInitialized (generateBody count)
  | _, .rotateAndExport, core => locked core notInitialized rotateBody
  | _, .heal senderId wirePayload, core => locked core .notFound (healBody senderId wirePayload)
  | _, .clearHeal senderId, core => locked core () (clearHealRecord senderId)

end CoreSection

/-- An empty blob gives no core, and a malformed blob gives an error. -/
def buildCore (Core : Type) [ConstructCore Core] (keysCfeData : Bytes) (userId : String) :
    Except EngineError (Option Core) :=
  if keysCfeData.isEmpty then .ok none
  else
    match ConstructCore.decodePrivateKeys Core keysCfeData with
    | .error message => .error (.crypto s!"decode private keys: {message}")
    | .ok decoded =>
        match ConstructCore.fromKeys decoded userId with
        | .error message => .error (.crypto s!"build crypto client: {message}")
        | .ok orchestrator => .ok (some orchestrator)

end ConstructEngine
