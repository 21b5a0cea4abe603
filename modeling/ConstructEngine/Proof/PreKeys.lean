import ConstructEngine.Proof.Actions
import ConstructEngine.Proof.Rehearsal
import ConstructEngine.Proof.Sections

namespace ConstructEngine

open Interaction Program Machine

/-- An export that follows new keys contains the private half of each of them. -/
structure ExportsKeys (Core : Type) [ConstructCore Core] (contains : Bytes → Bytes → Prop) : Prop where
  generated : ∀ (core after : Core) count pairs blob,
    ConstructCore.generateOtpks count core = (.ok pairs, after) →
    ConstructCore.exportOrchestratorStateCfe after = .ok blob → ∀ pair ∈ pairs, contains blob pair.2
  rotated : ∀ (core after : Core) keyId publicKey signature blob,
    ConstructCore.rotateSpk core = (.ok (keyId, publicKey, signature), after) →
    ConstructCore.exportOrchestratorStateCfe after = .ok blob → contains blob publicKey

section
variable [Prost]

/-- The upload carries the generated keys and no signed key. -/
def uploadRequest (deviceId : String) (preKeys : List OneTimePreKey) : Bytes :=
  Prost.encodeToVec .uploadPreKeysRequest ⟨deviceId, preKeys, none, false⟩

/-- The rotation carries the new signed key alone. -/
def rotationRequest (deviceId : String) (upload : SignedPreKeyUpload) : Bytes :=
  Prost.encodeToVec .rotateSignedPreKeyRequest ⟨deviceId, some upload, Prost.scheduled⟩

/-- The request publishes these public keys. -/
inductive Publishes : String → Bytes → List Bytes → Prop
  | upload (deviceId : String) (preKeys : List OneTimePreKey) :
      Publishes keyUpload (uploadRequest deviceId preKeys) (preKeys.map OneTimePreKey.publicKey)
  | rotation (deviceId : String) (upload : SignedPreKeyUpload) :
      Publishes keyRotateSpk (rotationRequest deviceId upload) [upload.publicKey]

/-- The private half of each published key is in a saved blob. -/
def preKeyLaw (contains : Bytes → Bytes → Prop) (log : List Event) : Event → Prop
  | .rpc servicePath request _ => servicePath = keyUpload ∨ servicePath = keyRotateSpk →
      ∃ keys blob, Publishes servicePath request keys ∧
        .action (.saveKeychain "orchestrator_state" blob) ∈ log ∧ ∀ key ∈ keys, contains blob key
  | _ => True

end

/-- These topics publish no keys. -/
def Unpublished (topic : Topic) : Prop := topic ≠ .rpc keyUpload ∧ topic ≠ .rpc keyRotateSpk

variable {Core A : Type}

/-- The handler saves and calls only after its section on the core has succeeded. -/
def Gated (succeeded : Prop) (op : Op Core A) : Prop :=
  match op with
  | .onAction (.saveKeychain ..) | .exchange .. => succeeded
  | _ => True

section
variable [Prost]

/-- A reported number of keys is the one in the request that was just made. -/
def Counted (deviceId : String) (op : Op Core A) (log : List Event) : Prop :=
  match op with
  | .onAction (.otpksUploaded uploaded _) => ∃ preKeys token,
      log.getLast? = some (.rpc keyUpload (uploadRequest deviceId preKeys) token) ∧
      uploaded = preKeys.length % 2 ^ 32
  | _ => True

end

/-- The upload begins with the generation of this many keys. -/
def Generates (start : List Event) (count : Nat) (op : Op Core A) (log : List Event) : Prop :=
  match op with
  | .core (.generateAndExport needed) => needed = count ∧ log = start
  | _ => True

/-- New keys are generated only for a count below the minimum, and they fill the gap. -/
def Replenishes (op : Op Core A) (log : List Event) : Prop :=
  match op with
  | .core (.generateAndExport needed) => ∃ count recommendedMinimum,
      log.getLast? = some (.action (.preKeyCountUpdated count recommendedMinimum)) ∧
      count < recommendedMinimum ∧ needed = recommendedMinimum - count
  | _ => True

/-- Each count below the minimum that was reported since has led a core that is there to generate the
missing keys. -/
def Refilled (core : Option Core) (start log : List Event) : Prop :=
  ∃ events, log = start ++ events ∧ ∀ count recommendedMinimum,
    .action (.preKeyCountUpdated count recommendedMinimum) ∈ events → count < recommendedMinimum →
    core ≠ none → ∃ answer, .core (.generateOtpks (recommendedMinimum - count) answer) ∈ events

/-- The action reports no count. -/
def PlatformAction.Uncounted : PlatformAction → Prop
  | .preKeyCountUpdated .. => False
  | _ => True

/-- Since the start a core that is there was asked for this many keys, and no count was reported. -/
def Generated (core : Option Core) (count : Nat) (start log : List Event) : Prop :=
  ∃ events, log = start ++ events ∧ (∀ count minimum, .action (.preKeyCountUpdated count minimum) ∉ events) ∧
    (core ≠ none → ∃ answer, .core (.generateOtpks count answer) ∈ events)

/-- What reports no count leaves it so. -/
theorem Generated.snoc {core : Option Core} {count : Nat} {start log : List Event} {event : Event}
    (uncounted : event.FiredBy False PlatformAction.Uncounted) (generated : Generated core count start log) :
    Generated core count start (log ++ [event]) := by
  obtain ⟨events, rfl, silent, asked⟩ := generated
  refine ⟨events ++ [event], List.append_assoc .., fun count minimum member => ?_, fun held => ?_⟩
  · rcases List.mem_append.mp member with earlier | last
    · exact silent count minimum earlier
    · rw [← List.mem_singleton.mp last] at uncounted
      exact uncounted
  · obtain ⟨answer, member⟩ := asked held
    exact ⟨answer, List.mem_append_left _ member⟩

section
variable [ConstructCore Core] [Prost] {config : EngineConfig} {contains : Bytes → Bytes → Prop}

/-- The law of the trace is the guard of every run. -/
abbrev preKeyGuard (Core : Type) [ConstructCore Core] (config : EngineConfig)
    (contains : Bytes → Bytes → Prop) : (engineMachine Core config).Guard :=
  traceGuard (Promise.any (engineMachine Core config)) (preKeyLaw contains)

/-- Outside of the two services nothing is published. -/
theorem unpublished_guard {op : Op Core A} (unpublished : Unpublished op.topic) (world : World Core) :
    preKeyGuard Core config contains op world := by
  intro choice event _ traces _
  have other : Unpublished event.topic := by
    rcases traces_about traces with reading | same
    · rw [reading]
      simp [Unpublished]
    · rw [same]
      exact unpublished
  cases event with
  | rpc servicePath request token =>
      rintro (rfl | rfl)
      · exact absurd rfl other.1
      · exact absurd rfl other.2
  | _ => trivial

/-- The section generates keys and exports the state. -/
def UploadReady (core : Option Core) (count : Nat) : Prop :=
  ∃ preKeys blob, (CoreSection.run (.generateAndExport count) core).1 = .ok (preKeys, blob)

/-- The section rotates the signed key and exports the state. -/
def RotationReady (core : Option Core) : Prop :=
  ∃ keyId publicKey signature blob,
    (CoreSection.run .rotateAndExport core).1 = .ok (keyId, publicKey, signature, blob)

/-- The guard of the upload also says what it generates, when it saves and what it reports. -/
def uploadGuard (config : EngineConfig) (contains : Bytes → Bytes → Prop) (engine : Engine Core)
    (deviceId : String) (count : Nat) : (engineMachine Core config).Guard := fun op world =>
  preKeyGuard Core config contains op world ∧ Gated (UploadReady engine.core count) op ∧
    Counted deviceId op (World.engine world).log ∧ Generates engine.log count op (World.engine world).log

/-- The guard of the rotation also says when it saves. -/
def rotationGuard (config : EngineConfig) (contains : Bytes → Bytes → Prop) (engine : Engine Core) :
    (engineMachine Core config).Guard := fun op world =>
  preKeyGuard Core config contains op world ∧ Gated (RotationReady engine.core) op

/-- The guard of the count check also says how many keys it asks for. -/
def countGuard (Core : Type) [ConstructCore Core] (config : EngineConfig)
    (contains : Bytes → Bytes → Prop) : (engineMachine Core config).Guard := fun op world =>
  preKeyGuard Core config contains op world ∧ Replenishes op (World.engine world).log

omit [ConstructCore Core] [Prost] in
/-- To connect is neither to save nor to report. -/
theorem linking_gated {succeeded : Prop} {op : Op Core A} (linking : Linking op.topic) :
    Gated succeeded op := by
  cases op with
  | onAction action =>
      cases action <;> first | trivial | simp [Linking, Op.topic, PlatformAction.topic] at linking
  | exchange => simp [Linking, Op.topic] at linking
  | _ => trivial

omit [ConstructCore Core] in
/-- To connect is not to report an upload. -/
theorem linking_counted {deviceId : String} {op : Op Core A} (linking : Linking op.topic)
    (log : List Event) : Counted deviceId op log := by
  cases op with
  | onAction action =>
      cases action <;> first | trivial | simp [Linking, Op.topic, PlatformAction.topic] at linking
  | _ => trivial

omit [ConstructCore Core] [Prost] in
/-- To connect is not to generate keys. -/
theorem linking_generates {start : List Event} {count : Nat} {op : Op Core A}
    (linking : Linking op.topic) (log : List Event) : Generates start count op log := by
  cases op with
  | core region =>
      cases region <;> first | trivial | simp [Linking, Op.topic, CoreSection.topic] at linking
  | _ => trivial

omit [ConstructCore Core] [Prost] in
/-- To connect is not to ask for keys. -/
theorem linking_replenishes {op : Op Core A} (linking : Linking op.topic) (log : List Event) :
    Replenishes op log := by
  cases op with
  | core region =>
      cases region <;> first | trivial | simp [Linking, Op.topic, CoreSection.topic] at linking
  | _ => trivial

omit [Prost] in
/-- To connect is to publish nothing. -/
theorem linking_unpublished {topic : Topic} (linking : Linking topic) : Unpublished topic := by
  rcases linking with rfl | rfl <;> simp [Unpublished]

variable (exports : ExportsKeys Core contains)
include exports

/-- The upload publishes what it has saved. -/
theorem handleUploadOtpks_gated (deviceId : String) (count : Nat) (engine : Engine Core) :
    EngineSafe (Promise.any (engineMachine Core config))
      (uploadGuard config contains engine deviceId count)
      (handleUploadOtpks deviceId count) (fun _ _ => True) engine := by
  unfold handleUploadOtpks
  refine section_step (fun world same => ⟨unpublished_guard (by simp [Unpublished, Op.topic,
    CoreSection.topic]) world, trivial, trivial, rfl, congrArg Engine.log same⟩) fun world choice same _ => ?_
  rcases CoreSection.generateAndExport_calls count engine.core with
    ⟨message, failed⟩ | ⟨before, pairs, after, blob, -, generated, exported, ran⟩
  · rw [failed]
    exact Owned.safe_done trivial
  have gate : UploadReady engine.core count := ⟨_, _, congrArg Prod.fst ran⟩
  rw [ran]
  refine action_bind (fun world _ => ⟨unpublished_guard (by simp [Unpublished, Op.topic,
    PlatformAction.topic]) world, gate, trivial, trivial⟩) ?_
  refine (unaryCall_called (fun op world linking => ⟨unpublished_guard (linking_unpublished linking) world,
    linking_gated linking, linking_counted linking _, linking_generates linking _⟩)
    fun conn token world log => ⟨?_, gate, trivial, trivial⟩).andThen
      fun answer next now => ?_
  · rcases answer with error | bytes
    · exact Owned.safe_done trivial
    dsimp only
    split
    · exact Owned.safe_done trivial
    obtain ⟨-, error, failed⟩ | ⟨token, grown⟩ := now.1
    · cases failed
    refine action_done (fun world same => ⟨unpublished_guard (by simp [Unpublished, Op.topic,
      PlatformAction.topic]) world, trivial, ?_, trivial⟩) trivial
    refine ⟨_, token, ?_, rfl⟩
    rw [same, grown, List.getLast?_concat]
    rfl
  · intro choice event _ traces _
    cases traces
    intro _
    refine ⟨_, blob, .upload deviceId _, by rw [log]; simp [Engine.record], ?_⟩
    intro key member
    obtain ⟨preKey, listed, rfl⟩ := List.mem_map.mp member
    obtain ⟨pair, found, rfl⟩ := List.mem_map.mp listed
    exact exports.generated before after count pairs blob generated exported pair found

/-- Only a section that exported leads to a save, to the request and to the report. -/
theorem handleRotateSpk_gated (deviceId : String) (engine : Engine Core) :
    EngineSafe (Promise.any (engineMachine Core config)) (rotationGuard config contains engine)
      (handleRotateSpk deviceId) (fun _ _ => True) engine := by
  unfold handleRotateSpk
  refine section_bind (fun world => ⟨unpublished_guard (by simp [Unpublished, Op.topic, CoreSection.topic])
    world, trivial⟩) fun world choice same _ => ?_
  rcases CoreSection.rotateAndExport_calls engine.core with
    ⟨message, failed⟩ | ⟨before, keyId, publicKey, signature, after, blob, -, rotated, exported, ran⟩
  · rw [failed]
    exact Owned.safe_done trivial
  have gate : RotationReady engine.core := ⟨_, _, _, _, congrArg Prod.fst ran⟩
  rw [ran]
  refine action_bind (fun world _ => ⟨unpublished_guard (by simp [Unpublished, Op.topic,
    PlatformAction.topic]) world, gate⟩) ?_
  refine (unaryCall_called (fun op world linking => ⟨unpublished_guard (linking_unpublished linking) world,
    linking_gated linking⟩) fun conn token world log => ⟨?_, gate⟩).andThen fun answer next now => ?_
  · rcases answer with error | bytes
    · exact Owned.safe_done trivial
    dsimp only
    split
    · exact Owned.safe_done trivial
    split
    · exact action_done (fun world _ => ⟨unpublished_guard (by simp [Unpublished, Op.topic,
        PlatformAction.topic]) world, trivial⟩) trivial
    · exact Owned.safe_done trivial
  · intro choice event _ traces _
    cases traces
    intro _
    refine ⟨_, blob, .rotation deviceId _, by rw [log]; simp [Engine.record], ?_⟩
    intro key member
    rw [List.mem_singleton.mp member]
    exact exports.rotated before after keyId publicKey signature blob rotated exported

/-- The count decides whether keys are generated and how many. -/
theorem handleGetPreKeyCount_replenishes (deviceId : String) (engine : Engine Core) :
    EngineSafe (Promise.any (engineMachine Core config)) (countGuard Core config contains)
      (handleGetPreKeyCount deviceId) (fun _ _ => True) engine := by
  unfold handleGetPreKeyCount
  refine (unaryCall_called (fun op world linking => ⟨unpublished_guard (linking_unpublished linking) world,
    linking_replenishes linking _⟩) fun conn token world _ => ⟨unpublished_guard (by
      simp [Unpublished, Op.topic, keyCount, keyUpload, keyRotateSpk]) world, trivial⟩).andThen
        fun answer next _ => ?_
  rcases answer with error | bytes
  · exact Owned.safe_done trivial
  dsimp only
  split
  · exact Owned.safe_done trivial
  next resp _ =>
    refine action_bind (fun world _ => ⟨unpublished_guard (by simp [Unpublished, Op.topic,
      PlatformAction.topic]) world, trivial⟩) ?_
    split
    next low =>
      refine (handleUploadOtpks_gated exports deviceId _ _).relax fun op world guarded => ⟨guarded.1, ?_⟩
      have generates := guarded.2.2.2
      cases op with
      | core region =>
          cases region with
          | generateAndExport needed =>
              obtain ⟨rfl, same⟩ := generates
              exact ⟨resp.count, resp.recommendedMinimum, by rw [same]; exact List.getLast?_concat, low, rfl⟩
          | _ => trivial
      | _ => trivial
    · exact Owned.safe_done trivial

omit exports [Prost] in
/-- A program that only reports, but no count, generates nothing more. -/
theorem fires_generated {program : EngineM Core A} (fires : Fires False PlatformAction.Uncounted program)
    {core : Option Core} {count : Nat} {start : List Event} {engine : Engine Core}
    (now : Generated core count start engine.log) :
    EngineSafe (Promise.any (engineMachine Core config)) (fun _ _ => True) program
      (fun _ after => Generated core count start after.log) engine := by
  have safe : EngineSafe (Promise.any (engineMachine Core config))
      (traceGuard (Promise.any (engineMachine Core config)) fun _ _ => True) program
      (fun _ after => Generated core count start after.log) engine :=
    fires_log (Generated core count start) (fun _ _ uncounted => Generated.snoc uncounted)
      (fun _ _ _ _ => trivial) fires now
  exact safe.relax fun _ _ _ => trivial

omit exports in
/-- The section is the first step, and whatever the server answers comes after it. -/
theorem handleUploadOtpks_generates (deviceId : String) (count : Nat) (engine : Engine Core) :
    EngineSafe (Promise.any (engineMachine Core config)) (fun _ _ => True) (handleUploadOtpks deviceId count)
      (fun _ after => Generated engine.core count engine.log after.log) engine := by
  have fires : Fires False PlatformAction.Uncounted (handleUploadOtpks deviceId count : EngineM Core Unit) :=
    fires_handleUploadOtpks (fun _ => trivial) (fun _ _ => trivial) _ _
  unfold handleUploadOtpks at fires ⊢
  refine section_bind (fun _ => trivial) fun _ _ _ _ => ?_
  -- The calls of the section are in the trace, and what follows them reports no count.
  have asked : Generated engine.core count engine.log (engine.log ++
      (CoreSection.run (.generateAndExport count) engine.core).2.2.map .core) := by
    refine ⟨_, rfl, by simp, fun held => ?_⟩
    obtain ⟨core, held⟩ := Option.ne_none_iff_exists'.mp held
    obtain ⟨answer, called⟩ := CoreSection.generateAndExport_asks count core
    rw [held]
    exact ⟨answer, List.mem_map_of_mem called⟩
  exact fires_generated (fires.2 (CoreSection.run (.generateAndExport count) engine.core).1) asked

omit exports in
/-- A count below the minimum always leads to new keys. -/
theorem handleGetPreKeyCount_refills (deviceId : String) (engine : Engine Core) :
    EngineSafe (Promise.any (engineMachine Core config)) (fun _ _ => True) (handleGetPreKeyCount deviceId)
      (fun _ after => Refilled engine.core engine.log after.log) engine := by
  unfold handleGetPreKeyCount
  refine (unaryCall_called (fun _ _ _ => trivial) fun _ _ _ _ => trivial).andThen fun answer next now => ?_
  obtain ⟨events, grown, silent⟩ : ∃ events, next.log = engine.log ++ events ∧
      ∀ count minimum, .action (.preKeyCountUpdated count minimum) ∉ events := by
    obtain ⟨same, -⟩ | ⟨token, grown⟩ := now.1
    · exact ⟨[], by rw [same, List.append_nil], fun _ _ => List.not_mem_nil⟩
    · exact ⟨_, grown, by simp⟩
  have idle : Refilled engine.core engine.log next.log :=
    ⟨events, grown, fun count minimum reported => absurd reported (silent count minimum)⟩
  rcases answer with error | bytes
  · exact Owned.safe_done idle
  dsimp only
  split
  · exact Owned.safe_done idle
  next resp _ =>
    refine action_bind (fun _ _ => trivial) ?_
    split
    next low =>
      refine (handleUploadOtpks_generates deviceId _ _).weaken fun _ after generated => ?_
      obtain ⟨later, whole, uncounted, asked⟩ := generated
      refine ⟨events ++ .action (.preKeyCountUpdated resp.count resp.recommendedMinimum) :: later, ?_,
        fun count minimum reported _ held => ?_⟩
      · rw [whole]
        simp [Engine.record, grown]
      obtain ⟨answer, called⟩ := asked (now.2 ▸ held)
      rcases List.mem_append.mp reported with earlier | reported
      · exact absurd earlier (silent count minimum)
      rcases List.mem_cons.mp reported with this_one | afterwards
      · cases this_one
        exact ⟨answer, List.mem_append_right _ (List.mem_cons_of_mem _ called)⟩
      · exact absurd afterwards (uncounted count minimum)
    next high =>
      refine Owned.safe_done ⟨events ++ [.action (.preKeyCountUpdated resp.count resp.recommendedMinimum)],
        by simp [Engine.record, grown], fun count minimum reported low => ?_⟩
      rcases List.mem_append.mp reported with earlier | this_one
      · exact absurd earlier (silent count minimum)
      · cases List.mem_singleton.mp this_one
        exact absurd low high

/-- Every request of a run publishes only keys whose private halves were saved before it. -/
abbrev Publishing (Core : Type) [ConstructCore Core] (config : EngineConfig)
    (contains : Bytes → Bytes → Prop) (program : EngineM Core A) : Prop :=
  Keeps (Promise.any (engineMachine Core config)) (preKeyGuard Core config contains)
    (fun _ => True) program

omit exports in
/-- A program outside of the two services publishes nothing. -/
theorem unpublished_publishing {program : EngineM Core A} (concerns : Concerns Unpublished program) :
    Publishing Core config contains program := by
  refine keeps_of_uses stable_true (fun op engages => ?_) concerns
  refine keeps_perform stable_true (fun world _ => unpublished_guard ?_ world) fun _ _ _ _ _ _ _ => trivial
  rcases engages with same | same | same | own
  · simp [Unpublished, same]
  · simp [Unpublished, same]
  · simp [Unpublished, same]
  · exact own

omit exports in
/-- A call to another service publishes nothing. -/
theorem call_publishing {servicePath : String} (other : Unpublished (.rpc servicePath)) (request : Bytes) :
    Publishing Core config contains (unaryCall servicePath request) :=
  unpublished_publishing (built_unaryCall other : Built Unpublished (anyRequest Unpublished) _).concerns

/-- The guard of the upload is the stronger one. -/
theorem handleUploadOtpks_publishing (deviceId : String) (count : Nat) :
    Publishing Core config contains (handleUploadOtpks deviceId count) := fun world _ =>
  (handleUploadOtpks_gated exports deviceId count world.engine world rfl).relax
    fun _ _ guarded => guarded.1

/-- The guard of the rotation is the stronger one. -/
theorem handleRotateSpk_publishing (deviceId : String) :
    Publishing Core config contains (handleRotateSpk deviceId) := fun world _ =>
  (handleRotateSpk_gated exports deviceId world.engine world rfl).relax fun _ _ guarded => guarded.1

/-- The guard of the count check is the stronger one. -/
theorem handleGetPreKeyCount_publishing (deviceId : String) :
    Publishing Core config contains (handleGetPreKeyCount deviceId) := fun world _ =>
  (handleGetPreKeyCount_replenishes exports deviceId world.engine world rfl).relax
    fun _ _ guarded => guarded.1

/-- A registration ends with an upload for the new device. -/
theorem handleRegisterDevice_publishing (username : Option String) (deviceId : String) :
    Publishing Core config contains (handleRegisterDevice config username deviceId) := by
  have done {B : Type} (value : B) : Publishing Core config contains (pure value) := keeps_done stable_true value
  have one {B : Type} (op : Op Core B) (other : Unpublished op.topic) :
      Publishing Core config contains (perform op) := unpublished_publishing (concerns_own other)
  unfold handleRegisterDevice
  refine keeps_bind (call_publishing (by simp [Unpublished, authPowChallenge, keyUpload, keyRotateSpk]) _)
    fun answer => ?_
  rcases answer with error | challengeBytes
  · exact done ()
  dsimp only
  split
  · exact done ()
  refine keeps_bind (one _ (by simp [Unpublished, Op.topic])) fun solved => ?_
  cases solved with
  | none => exact done ()
  | some powSolution =>
  refine keeps_bind (one _ (by simp [Unpublished, Op.topic, CoreSection.topic])) fun keys => ?_
  rcases keys with error | publicKeys
  · exact done ()
  refine keeps_bind (call_publishing (by simp [Unpublished, authRegister, keyUpload, keyRotateSpk]) _)
    fun answer => ?_
  have clear : Publishing Core config contains (onAction .clearAuth) :=
    one _ (by simp [Unpublished, Op.topic, PlatformAction.topic])
  split
  · exact clear
  · exact done ()
  split
  · exact done ()
  split
  · exact done ()
  refine keeps_bind (one _ (by simp [Unpublished, Op.topic])) fun _ =>
    keeps_bind (one _ (by simp [Unpublished, Op.topic])) fun _ =>
    keeps_bind (one _ (by simp [Unpublished, Op.topic, PlatformAction.topic])) fun _ =>
    keeps_bind (one _ (by simp [Unpublished, Op.topic, PlatformAction.topic])) fun _ =>
    keeps_bind (unpublished_publishing (concerns_reopenStreamIfNeeded (by simp [Unpublished]))) fun _ =>
    handleGetPreKeyCount_publishing exports config.myDeviceId

/-- An authentication ends with a count check. -/
theorem handleAuthenticate_publishing (deviceId : String) (challengeResponse signingKey : Bytes) :
    Publishing Core config contains
      (handleAuthenticate config deviceId challengeResponse signingKey) := by
  have done {B : Type} (value : B) : Publishing Core config contains (pure value) := keeps_done stable_true value
  have one {B : Type} (op : Op Core B) (other : Unpublished op.topic) :
      Publishing Core config contains (perform op) := unpublished_publishing (concerns_own other)
  unfold handleAuthenticate
  refine keeps_bind (one _ (by simp [Unpublished, Op.topic])) fun timestamp =>
    keeps_bind (call_publishing (by simp [Unpublished, authAuthenticate, keyUpload, keyRotateSpk]) _)
      fun answer => ?_
  have clear : Publishing Core config contains (onAction .clearAuth) :=
    one _ (by simp [Unpublished, Op.topic, PlatformAction.topic])
  split
  · exact clear
  · exact done ()
  split
  · exact done ()
  split
  · exact done ()
  refine keeps_bind (one _ (by simp [Unpublished, Op.topic])) fun _ =>
    keeps_bind (one _ (by simp [Unpublished, Op.topic])) fun _ =>
    keeps_bind (one _ (by simp [Unpublished, Op.topic, PlatformAction.topic])) fun _ =>
    keeps_bind (unpublished_publishing (concerns_reopenStreamIfNeeded (by simp [Unpublished]))) fun _ =>
    handleGetPreKeyCount_publishing exports config.myDeviceId

/-- Whatever handler publishes, it saved before. -/
theorem handleEvent_publishing (event : UiEvent) :
    Publishing Core config contains (handleEvent config event) := by
  cases event
  case registerDevice username deviceId => exact handleRegisterDevice_publishing exports username deviceId
  case authenticate deviceId challengeResponse signingKey =>
      exact handleAuthenticate_publishing exports deviceId challengeResponse signingKey
  case uploadOtpks deviceId count => exact handleUploadOtpks_publishing exports deviceId count
  case getPreKeyCount deviceId => exact handleGetPreKeyCount_publishing exports deviceId
  case rotateSignedPreKey deviceId => exact handleRotateSpk_publishing exports deviceId
  all_goals
    refine unpublished_publishing (built_handleEvent config _ ?_).concerns
    simp [UiEvent.topics, loginTopics, receiveTopics, Unpublished, authRefresh, authLogout, keyGetBundle,
      userFind, notificationRegister, messagingGetPending, keyUpload, keyRotateSpk]

/-- Between two handlers nothing need be kept, since each one saves what it publishes. -/
theorem eventLoop_publishing :
    Keeps (Promise.any (engineMachine Core config)) (preKeyGuard Core config contains)
      (fun _ => True) (eventLoop config) := by
  refine eventLoop_traced (fun _ => True) (fun _ event (_ : Unpublished event.topic) _ => trivial)
    (fun op world other _ => unpublished_guard other world) ?_ ?_ (fun _ _ _ _ _ => trivial) ?_
  · simp [loopTopics, receiveTopics, loginTopics, Unpublished, authRefresh, keyGetBundle, keyUpload,
      keyRotateSpk]
  · intro A op world same _
    exact unpublished_guard (by simp [Unpublished, same]) world
  · exact fun event engine _ world _ => handleEvent_publishing exports event world trivial

/-- Only keys that are saved are published. The section on the core decides whether a handler saves
and calls, the count decides how many keys are generated, and a count below the minimum leads to new ones. -/
theorem preKeys_persisted {engine : Engine Core} (created : Engine.new config = .ok engine) :
    (∀ world later, Reaches (Promise.any (engineMachine Core config))
      (startWorld engine, eventLoop config) (world, later) →
        AtEach (preKeyLaw contains) world.engine.log) ∧
    (∀ deviceId count (start world : World Core) {B : Type} (op : Op Core B) next,
      Reaches (Promise.any (engineMachine Core config)) (start, handleUploadOtpks deviceId count)
        (world, .ask op next) →
      Gated (UploadReady start.engine.core count) op ∧ Counted deviceId op world.engine.log ∧
        Generates start.engine.log count op world.engine.log) ∧
    (∀ deviceId (start world : World Core) {B : Type} (op : Op Core B) next,
      Reaches (Promise.any (engineMachine Core config)) (start, handleRotateSpk deviceId)
        (world, .ask op next) →
      Gated (RotationReady start.engine.core) op) ∧
    (∀ deviceId (start world : World Core) {B : Type} (op : Op Core B) next,
      Reaches (Promise.any (engineMachine Core config)) (start, handleGetPreKeyCount deviceId)
        (world, .ask op next) →
      Replenishes op world.engine.log) ∧
    ∀ deviceId (start world : World Core),
      Reaches (Promise.any (engineMachine Core config)) (start, handleGetPreKeyCount deviceId)
        (world, .done ()) →
      Refilled start.engine.core start.engine.log world.engine.log := by
  refine ⟨?_, ?_, ?_, ?_, ?_⟩
  · intro world later reached
    obtain ⟨core, rfl⟩ := Engine.new_fresh created
    exact traced_reached (fun _ _ => trivial) (eventLoop_publishing exports _ trivial) (atEach_nil _) reached
  · intro deviceId count start world B op next reached
    have safe : Holds _ (uploadGuard config contains start.engine deviceId count) _ _ start :=
      handleUploadOtpks_gated exports deviceId count start.engine start rfl
    exact ((safe _ _ reached).1 B op next rfl).2
  · intro deviceId start world B op next reached
    have safe : Holds _ (rotationGuard config contains start.engine) _ _ start :=
      handleRotateSpk_gated exports deviceId start.engine start rfl
    exact ((safe _ _ reached).1 B op next rfl).2
  · intro deviceId start world B op next reached
    have safe : Holds _ (countGuard Core config contains) _ _ start :=
      handleGetPreKeyCount_replenishes exports deviceId start.engine start rfl
    exact ((safe _ _ reached).1 B op next rfl).2
  · intro deviceId start world reached
    have safe : Holds (Promise.any (engineMachine Core config)) _ _ _ start :=
      handleGetPreKeyCount_refills deviceId start.engine start rfl
    exact (safe _ _ reached).2 () rfl

end

/-- This core keeps the private halves of its keys among its sessions. -/
structure KeyRing where
  core : RehearsalCore

instance keyRing : ConstructCore KeyRing where
  decodePrivateKeys := ConstructCore.decodePrivateKeys RehearsalCore
  fromKeys keys userId := (ConstructCore.fromKeys keys userId).map KeyRing.mk
  encryptBytesFor _ plaintext ring := (.ok (1 :: plaintext), ring)
  decryptBytesFor _ wirePayload ring := (.ok wirePayload, ring)
  initSessionWithBundle _ _ _ ring := (.ok (), ring)
  initReceivingSessionWithMsg senderId _ first ring := (.ok (senderId, first.content), ring)
  exportOrchestratorStateCfe ring := ConstructCore.exportOrchestratorStateCfe ring.core
  importOrchestratorStateCfe _ ring := (.ok (), ring)
  getAllSessionContactIds _ := []
  generateOtpks count ring :=
    let fresh := (List.range count).map UInt8.ofNat
    (.ok (fresh.map fun key => (key.toNat, [key])),
      ⟨{ ring.core with sessions := fresh ++ ring.core.sessions }⟩)
  rotateSpk ring := (.ok (1, [9], []), ⟨{ ring.core with sessions := 9 :: ring.core.sessions }⟩)
  getRegistrationBundleFields _ := .error "not rehearsed"
  clearHealRecord _ ring := ring
  enqueueHeal _ _ ring := ring
  recordHealAttempt _ ring := (.notFound, ring)
  unpack _ := .error "not rehearsed"
  computePow challenge _ := ⟨challenge, 0, []⟩
  sign _ message := message

/-- The exported blob holds the sessions of the ring. -/
theorem keyRing_exported {ring : KeyRing} {blob : Bytes}
    (exported : ConstructCore.exportOrchestratorStateCfe ring = .ok blob) :
    blob = 7 :: ring.core.sessions := by
  change (if ring.core.identity.isEmpty then .error "no storage key"
    else .ok (7 :: ring.core.sessions) : Except String Bytes) = .ok blob at exported
  split at exported
  · cases exported
  · cases exported
    rfl

/-- Every key of the ring is part of its blob. -/
theorem keyRing_exports : ExportsKeys KeyRing fun blob key => key ⊆ blob where
  generated core after count pairs blob generated exported pair member := by
    rw [keyRing_exported exported]
    cases generated
    obtain ⟨key, listed, rfl⟩ := List.mem_map.mp member
    intro byte single
    rw [List.mem_singleton.mp single]
    exact List.mem_cons_of_mem _ (List.mem_append_left _ listed)
  rotated core after keyId publicKey signature blob rotated exported := by
    rw [keyRing_exported exported]
    cases rotated
    intro byte single
    rw [List.mem_singleton.mp single]
    exact List.mem_cons_of_mem _ List.mem_cons_self

/-- The machine runs the engine with this ring. -/
abbrev keyRingMachine := engineMachine KeyRing (rehearsalConfig [1, 5] none)

/-- This is where a run of the program with this core ends. -/
def ringed (program : EngineM KeyRing Unit) (inputs : List keyRingMachine.Input) :
    keyRingMachine.Configuration Unit :=
  run (startWorld (Engine.fresh (rehearsalConfig [1, 5] none) (some ⟨⟨[5], []⟩⟩)), program) inputs

/-- These runs are runs of the engine. -/
theorem ringed_any (program : EngineM KeyRing Unit) (inputs : List keyRingMachine.Input) :
    Reaches (Promise.any keyRingMachine)
      (startWorld (Engine.fresh (rehearsalConfig [1, 5] none) (some ⟨⟨[5], []⟩⟩)), program)
      ((ringed program inputs).1, (ringed program inputs).2) := run_reaches (allAllowed_any inputs _)

/-- The platform asks for two keys, a count and a rotation, and the server answers. -/
def keyRingRun : keyRingMachine.Configuration Unit :=
  ringed (eventLoop (rehearsalConfig [1, 5] none))
    ([UiEvent.uploadOtpks "d" 2, .getPreKeyCount "d", .rotateSignedPreKey "d"].map
        (fun event => .move (Move.dispatch event)) ++
      List.replicate 48 (.answer servedChoice))

/-- The count check alone finds one key of three. -/
def keyRingCount : keyRingMachine.Configuration Unit :=
  ringed (handleGetPreKeyCount "d") (List.replicate 20 (.answer servedChoice))

/-- An upload of two keys was reported. -/
def Event.uploadsTwo : Event → Bool
  | .action (.otpksUploaded uploaded _) => uploaded = 2
  | _ => false

def Event.countsLow : Event → Bool
  | .action (.preKeyCountUpdated count recommendedMinimum) => count < recommendedMinimum
  | _ => false

/-- The uploads are reported, and the count check asks for the two missing keys. -/
theorem preKeys_persisted_served :
    (∃ event ∈ keyRingRun.1.engine.log, event.topic = .rpc keyUpload) ∧
    (∃ event ∈ keyRingRun.1.engine.log, event.topic = .rpc keyRotateSpk) ∧
    keyRingRun.1.engine.log.any Event.uploadsTwo = true ∧
    AtEach (preKeyLaw fun blob key => key ⊆ blob) keyRingRun.1.engine.log ∧
    keyRingCount.1.engine.log.any Event.countsLow = true ∧
    Refilled (some (⟨⟨[5], []⟩⟩ : KeyRing)) [] keyRingCount.1.engine.log := by
  have proved := preKeys_persisted keyRing_exports (show Engine.new (rehearsalConfig [1, 5] none) =
    .ok (Engine.fresh (rehearsalConfig [1, 5] none) (some (⟨⟨[5], []⟩⟩ : KeyRing))) from rfl)
  obtain ⟨⟨⟩, finished⟩ : ∃ value, keyRingCount.2 = .done value := hasEnded_shape (by decide +kernel)
  have reached := ringed_any (handleGetPreKeyCount "d") (List.replicate 20 (.answer servedChoice))
  refine ⟨by decide +kernel, by decide +kernel, by decide +kernel, ?_, by decide +kernel, ?_⟩
  · exact proved.1 _ _ (ringed_any _ _)
  · unfold keyRingCount at finished ⊢
    rw [finished] at reached
    exact proved.2.2.2.2 "d" _ _ reached

end ConstructEngine
