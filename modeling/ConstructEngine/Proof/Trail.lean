import ConstructEngine.Interaction.Trace
import ConstructEngine.Proof.Link

namespace ConstructEngine

open Interaction Program Machine

variable {Core A : Type}

/-- The core opened this plaintext for the sender of a message. -/
def CoreCall.opened : CoreCall → Option Bytes
  | .decrypt _ _ (.ok plaintext) => some plaintext
  | .initReceivingSession _ (.ok (_, plaintext)) => some plaintext
  | _ => none

/-- The call opens this plaintext. -/
def CoreCall.Opens (call : CoreCall) (plaintext : Bytes) : Prop := call.opened = some plaintext

/-- The core sealed this payload for a contact. -/
def CoreCall.Seals (call : CoreCall) (wirePayload : Bytes) : Prop :=
  ∃ contactId plaintext, call = .encrypt contactId plaintext (.ok wirePayload)

/-- These calls may move a ratchet forward. -/
def CoreCall.advances : CoreCall → Bool
  | .encrypt .. | .decrypt .. | .initSession .. | .initReceivingSession .. => true
  | _ => false

/-- An event has the kind of the operations that alone record it. -/
def Event.kind : Event → OpKind
  | .action reported => actionKind reported
  | .core call => if call.opened.isSome then .receive else .plain
  | .handling .. => .receive
  | .sent site .. => site.kind
  | _ => .plain

/-- This is the message that the event takes up. -/
def Event.message : Event → Option IncomingMessage
  | .handling _ taken => some taken
  | _ => none

/-- This is the message that the engine took up last. -/
def beingReceived (log : List Event) : Option IncomingMessage :=
  (log.filterMap Event.message).getLast?

namespace LockedM

/-- The body appends only allowed calls to the trace of its section. -/
def Calls (allowed : CoreCall → Prop) (body : LockedM Core A) : Prop :=
  ∀ core calls, ∃ more, (body (core, calls)).2.2 = calls ++ more ∧ ∀ call ∈ more, allowed call

variable {allowed : CoreCall → Prop} {B : Type}

/-- A body that only answers calls nothing. -/
theorem calls_pure (value : A) : Calls allowed (pure value : LockedM Core A) :=
  fun _ _ => ⟨[], (List.append_nil _).symm, nofun⟩

/-- The calls of two bodies follow one another. -/
theorem calls_bind {body : LockedM Core A} {rest : A → LockedM Core B} (first : Calls allowed body)
    (later : ∀ value, Calls allowed (rest value)) : Calls allowed (body >>= rest) := by
  intro core calls
  obtain ⟨more, extended, allowedMore⟩ := first core calls
  obtain ⟨last, extendedLast, allowedLast⟩ :=
    later (body (core, calls)).1 (body (core, calls)).2.1 (body (core, calls)).2.2
  refine ⟨more ++ last, ?_, fun call member => ?_⟩
  · rw [← List.append_assoc, ← extended]
    exact extendedLast
  · rcases List.mem_append.mp member with member | member
    · exact allowedMore call member
    · exact allowedLast call member

/-- One call is appended. -/
theorem calls_one {body : LockedM Core A} {call : Core → CoreCall}
    (appends : ∀ core calls, (body (core, calls)).2.2 = calls ++ [call core])
    (each : ∀ core, allowed (call core)) : Calls allowed body := fun core calls =>
  ⟨[call core], appends core calls, fun _ member => by
    rw [List.mem_singleton.mp member]
    exact each core⟩

end LockedM

namespace CoreSection

variable [ConstructCore Core]

open LockedM

/-- The call of the section succeeded with these bytes and left this core. -/
def outcome : {A : Type} → CoreSection Core A → Core → Option (Bytes × Core)
  | _, .encryptAndExport contactId plaintext, core =>
      match ConstructCore.encryptBytesFor contactId plaintext core with
      | (.ok wirePayload, after) => some (wirePayload, after)
      | (.error _, _) => none
  | _, .initiateAndExport contactId bundle kyber, core =>
      match ConstructCore.initSessionWithBundle contactId bundle kyber core with
      | (.ok (), middle) =>
          match ConstructCore.encryptBytesFor contactId [] middle with
          | (.ok wirePayload, after) => some (wirePayload, after)
          | (.error _, _) => none
      | (.error _, _) => none
  | _, .receiveAndExport senderId bundle first, core =>
      match ConstructCore.initReceivingSessionWithMsg senderId bundle first core with
      | (.ok (_, plaintext), after) => some (plaintext, after)
      | (.error _, _) => none
  | _, .decryptAndExport senderId wirePayload, core =>
      match ConstructCore.decryptBytesFor senderId wirePayload core with
      | (.ok plaintext, after) => some (plaintext, after)
      | (.error _, _) => none
  | _, _, _ => none

/-- The core can export its state, and the exported state is not empty. -/
def exports (core : Core) : Bool :=
  match ConstructCore.exportOrchestratorStateCfe core with
  | .ok stateBytes => !stateBytes.isEmpty
  | .error _ => false

omit [ConstructCore Core] in
/-- Without a core a section calls nothing. -/
theorem calls_locked {allowed : CoreCall → Prop} {body : LockedM Core A} (calls : Calls allowed body)
    (core : Option Core) (absent : A) : ∀ call ∈ (locked core absent body).2.2, allowed call := by
  cases core with
  | none => exact nofun
  | some core =>
      obtain ⟨more, extended, each⟩ := calls core []
      intro call member
      exact each call (by rw [← List.nil_append more, ← extended]; exact member)

omit [ConstructCore Core] in
/-- A section opens messages or is plain. -/
theorem plain_or_receive (region : CoreSection Core A) :
    region.kind = .plain ∨ region.kind = .receive := by
  cases region <;> first | exact .inl rfl | exact .inr rfl

/-- A plain section opens nothing. -/
theorem run_opened {region : CoreSection Core A} (plain : region.kind = .plain)
    (core : Option Core) : ∀ call ∈ (region.run core).2.2, call.opened = none := by
  have exported : Calls (fun call => call.opened = none)
      (exportOrchestratorStateCfe : LockedM Core (Except String Bytes)) :=
    calls_one (fun _ _ => rfl) fun _ => rfl
  have sealing (contactId : String) (plaintext : Bytes) : Calls (fun call => call.opened = none)
      (encryptBytesFor contactId plaintext : LockedM Core (Except String Bytes)) :=
    calls_one (fun _ _ => rfl) fun _ => rfl
  cases region with
  | receiveAndExport => exact absurd plain nofun
  | decryptAndExport => exact absurd plain nofun
  | decrypt => exact absurd plain nofun
  | encryptAndExport contactId plaintext =>
      refine calls_locked (calls_bind (sealing _ _) fun answer => ?_) core _
      rcases answer with message | wirePayload
      · exact calls_pure _
      · exact calls_bind exported fun _ => calls_pure _
  | initiateAndExport contactId bundle kyber =>
      refine calls_locked (calls_bind ?_ fun answer => ?_) core _
      · exact calls_one (fun _ _ => rfl) fun _ => rfl
      rcases answer with message | ⟨⟩
      · exact calls_pure _
      refine calls_bind (sealing _ _) fun answer => ?_
      rcases answer with message | wirePayload
      · exact calls_pure _
      · exact calls_bind exported fun _ => calls_pure _
  | exportState =>
      refine calls_locked (calls_bind exported fun answer => ?_) core _
      rcases answer with message | state <;> exact calls_pure _
  | restore blob =>
      refine calls_locked (calls_bind ?_ fun answer => ?_) core _
      · exact calls_one (fun _ _ => rfl) fun _ => rfl
      rcases answer with message | ⟨⟩
      · exact calls_pure _
      · exact fun _ _ => ⟨[], (List.append_nil _).symm, nofun⟩
  | replace core => exact fun call member => by cases List.mem_singleton.mp member; rfl
  | registrationKeys =>
      refine calls_locked (calls_bind ?_ fun answer => ?_) core _
      · exact fun _ _ => ⟨[], (List.append_nil _).symm, nofun⟩
      rcases answer with message | bundle <;> exact calls_pure _
  | generateAndExport count =>
      refine calls_locked (calls_bind ?_ fun answer => ?_) core _
      · exact calls_one (fun _ _ => rfl) fun _ => rfl
      rcases answer with message | pairs
      · exact calls_pure _
      refine calls_bind exported fun answer => ?_
      rcases answer with message | state <;> exact calls_pure _
  | rotateAndExport =>
      refine calls_locked (calls_bind ?_ fun answer => ?_) core _
      · exact calls_one (fun _ _ => rfl) fun _ => rfl
      rcases answer with message | ⟨keyId, publicKey, signature⟩
      · exact calls_pure _
      refine calls_bind exported fun answer => ?_
      rcases answer with message | state <;> exact calls_pure _
  | heal senderId wirePayload =>
      refine calls_locked (calls_bind ?_ fun _ => ?_) core _
      · exact calls_one (fun _ _ => rfl) fun _ => rfl
      · exact calls_one (fun _ _ => rfl) fun _ => rfl
  | clearHeal senderId =>
      refine calls_locked ?_ core _
      exact calls_one (fun _ _ => rfl) fun _ => rfl

/-- The section succeeded with these bytes and exported the state of the core that it left. -/
structure Exported (region : CoreSection Core (Except String (Bytes × Bytes)))
    (produces : CoreCall → Bytes → Prop) (core : Core) (bytes : Bytes) (after : Core)
    (calls : List CoreCall) : Prop where
  outcome : region.outcome core = some (bytes, after)
  ran : region.run (some core) = (.ok (bytes, unwrapOrDefault
    (ConstructCore.exportOrchestratorStateCfe after)), some after, calls)
  recorded : ∃ front call, produces call bytes ∧ (∀ earlier ∈ front, earlier.opened = none) ∧
    calls = front ++ [call, .exportState (ConstructCore.exportOrchestratorStateCfe after)]

/-- The section failed and opened nothing. -/
def Failed (region : CoreSection Core (Except String (Bytes × Bytes))) (core : Core) : Prop :=
  ∃ message after calls, region.run (some core) = (.error message, some after, calls) ∧
    ∀ call ∈ calls, call.opened = none

/-- A section that exports either fails without opening anything or succeeds. -/
abbrev FailedOrExported (region : CoreSection Core (Except String (Bytes × Bytes)))
    (produces : CoreCall → Bytes → Prop) (core : Core) : Prop :=
  Failed region core ∨ ∃ bytes after calls, Exported region produces core bytes after calls

/-- The payload is sealed before the export. -/
theorem encryptAndExport_run (contactId : String) (plaintext : Bytes) (core : Core) :
    FailedOrExported (.encryptAndExport contactId plaintext) CoreCall.Seals core := by
  cases answered : ConstructCore.encryptBytesFor contactId plaintext core with
  | mk answer after =>
  rcases answer with message | wirePayload
  · refine .inl ⟨s!"encrypt: {message}", after, [.encrypt contactId plaintext (.error message)],
      ?_, by simp [CoreCall.opened]⟩
    simp only [run, locked, encryptBody, encryptBytesFor, answered, bind_run, pure_run]
    rfl
  · refine .inr ⟨wirePayload, after, _, ?_, ?_, [], _, ⟨contactId, plaintext, rfl⟩,
      nofun, rfl⟩
    · simp [outcome, answered]
    · simp only [run, locked, encryptBody, encryptBytesFor, exportOrchestratorStateCfe, answered,
        bind_run, pure_run]
      rfl

/-- The session is initiated and its first payload sealed before the export. -/
theorem initiateAndExport_run (contactId : String) (bundle : X3DHPublicKeyBundle)
    (kyber : KyberKeys) (core : Core) :
    FailedOrExported (.initiateAndExport contactId bundle kyber) CoreCall.Seals core := by
  cases started : ConstructCore.initSessionWithBundle contactId bundle kyber core with
  | mk answer middle =>
  rcases answer with message | ⟨⟩
  · refine .inl ⟨s!"init_session_with_bundle: {message}", middle,
      [.initSession contactId (.error message)], ?_, by simp [CoreCall.opened]⟩
    simp only [run, locked, initiateBody, initSessionWithBundle, started, bind_run, pure_run]
    rfl
  cases answered : ConstructCore.encryptBytesFor contactId [] middle with
  | mk answer after =>
  rcases answer with message | wirePayload
  · refine .inl ⟨s!"encrypt first message: {message}", after,
      [.initSession contactId (.ok ()), .encrypt contactId [] (.error message)], ?_,
      by simp [CoreCall.opened]⟩
    simp only [run, locked, initiateBody, initSessionWithBundle, encryptBytesFor, started, answered,
      bind_run, pure_run]
    rfl
  · refine .inr ⟨wirePayload, after, _, ?_, ?_, [.initSession contactId (.ok ())], _,
      ⟨contactId, [], rfl⟩, by simp [CoreCall.opened], rfl⟩
    · simp [outcome, started, answered]
    · simp only [run, locked, initiateBody, initSessionWithBundle, encryptBytesFor,
        exportOrchestratorStateCfe, started, answered, bind_run, pure_run]
      rfl

/-- The session and its first plaintext come before the export. -/
theorem receiveAndExport_run (senderId : String) (bundle : X3DHPublicKeyBundle)
    (first : IncomingFirstMessage) (core : Core) :
    FailedOrExported (.receiveAndExport senderId bundle first) CoreCall.Opens core := by
  cases answered : ConstructCore.initReceivingSessionWithMsg senderId bundle first core with
  | mk answer after =>
  rcases answer with message | ⟨sessionId, plaintext⟩
  · refine .inl ⟨s!"init_receiving_session: {message}", after,
      [.initReceivingSession senderId (.error message)], ?_, by simp [CoreCall.opened]⟩
    simp only [run, locked, receiveBody, initReceivingSessionWithMsg, answered, bind_run, pure_run]
    rfl
  · refine .inr ⟨plaintext, after, _, ?_, ?_, [],
      .initReceivingSession senderId (.ok (sessionId, plaintext)), rfl, nofun, rfl⟩
    · simp [outcome, answered]
    · simp only [run, locked, receiveBody, initReceivingSessionWithMsg, exportOrchestratorStateCfe,
        answered, bind_run, pure_run]
      rfl

/-- The plaintext comes before the export. -/
theorem decryptAndExport_run (senderId : String) (wirePayload : Bytes) (core : Core) :
    FailedOrExported (.decryptAndExport senderId wirePayload) CoreCall.Opens core := by
  cases answered : ConstructCore.decryptBytesFor senderId wirePayload core with
  | mk answer after =>
  rcases answer with message | plaintext
  · refine .inl ⟨s!"decrypt: {message}", after, [.decrypt senderId wirePayload (.error message)],
      ?_, by simp [CoreCall.opened]⟩
    simp only [run, locked, decryptAndExportBody, decryptBytesFor, answered, bind_run, pure_run]
    rfl
  · refine .inr ⟨plaintext, after, _, ?_, ?_, [], .decrypt senderId wirePayload (.ok plaintext),
      rfl, nofun, rfl⟩
    · simp [outcome, answered]
    · simp only [run, locked, decryptAndExportBody, decryptBytesFor, exportOrchestratorStateCfe,
        answered, bind_run, pure_run]
      rfl

end CoreSection

variable [ConstructCore Core] {config : EngineConfig}

/-- The section of an operation moves a ratchet with these bytes and leaves this core. -/
def Op.ratchet : {A : Type} → Op Core A → Core → Option (Bytes × Core)
  | _, .core region, locked => region.outcome locked
  | _, _, _ => none

/-- These events come from the network, the clock and the loop. -/
def Event.isBackground : Event → Bool
  | .rpc .. | .subscribed .. | .refreshDue _ | .refreshScheduled .. | .event _ | .frame _ => true
  | _ => false

/-- The operation may record this event. -/
def Op.Records : {A : Type} → Op Core A → Event → Prop
  | _, .onAction reported, event => event = .action reported
  | _, .handling path message, event => event = .handling path message
  | _, .sendFrame site handle frame, event => ∃ accepted, event = .sent site handle frame accepted
  | _, .core region, event =>
      ∃ call, event = .core call ∧ (region.kind = .plain → call.opened = none)
  | _, _, event => event.isBackground = true

/-- The trace grows by events that the operation may record. -/
theorem exec_records {op : Op Core A} {choice : Choice} {world after : World Core} {value : A}
    (answered : exec config op choice world = some (value, after)) :
    ∃ more, after.engine.log = world.engine.log ++ more ∧ ∀ event ∈ more, op.Records event := by
  have still : ∃ more, world.engine.log = world.engine.log ++ more ∧
      ∀ event ∈ more, op.Records event := ⟨[], (List.append_nil _).symm, nofun⟩
  have one (event : Event) (records : op.Records event) :
      ∃ more, world.engine.log ++ [event] = world.engine.log ++ more ∧
        ∀ event ∈ more, op.Records event :=
    ⟨[event], rfl, fun _ member => by rw [List.mem_singleton.mp member]; exact records⟩
  cases op with
  | onAction action => cases answered; exact one _ rfl
  | core region =>
      cases answered
      refine ⟨_, rfl, fun event member => ?_⟩
      obtain ⟨call, called, rfl⟩ := List.mem_map.mp member
      exact ⟨call, rfl, fun plain => CoreSection.run_opened plain _ call called⟩
  | handling path message => cases answered; exact one _ rfl
  | sendFrame site handle frame =>
      obtain ⟨-, rfl⟩ | ⟨pump, -, -, -, -, rfl⟩ := sendFrame_effect answered <;>
        exact one _ ⟨_, rfl⟩
  | exchange => cases answered; exact one _ rfl
  | refreshReset => cases answered; exact one _ rfl
  | quicConnect =>
      obtain ⟨error, -, -, rfl⟩ | ⟨-, rfl⟩ := quicConnect_effect answered <;> exact still
  | openExchange =>
      obtain rfl | rfl := openExchange_effect answered
      · exact still
      · exact one _ rfl
  | sleepUntil deadline =>
      obtain rfl := sleepUntil_effect answered
      exact still
  | tokenHasChanged =>
      obtain ⟨tokenSeen, rfl⟩ := tokenHasChanged_effect answered
      exact still
  | select refreshArmed =>
      obtain ⟨-, -, rfl⟩ | ⟨-, -, rfl⟩ | ⟨-, ⟨event, rest, -, -, rfl⟩ | ⟨-, ⟨frame, rest, -, -, rfl⟩ |
        ⟨-, -, rfl⟩⟩⟩ := select_effect answered
      · exact one _ rfl
      · exact still
      · exact one _ rfl
      · exact one _ rfl
      · exact still
  | paramsRead =>
      obtain ⟨-, -, rfl⟩ := paramsRead_effect answered
      exact still
  | paramsWrite params =>
      obtain ⟨-, rfl⟩ := paramsWrite_effect answered
      exact still
  | paramsCursor cursor =>
      obtain ⟨-, rfl⟩ := paramsCursor_effect answered
      exact still
  | paramsLock =>
      obtain ⟨-, -, rfl⟩ := paramsLock_effect answered
      exact still
  | _ => cases answered; exact still

omit [ConstructCore Core] in
/-- An event is plain or of the kind of the operation that records it. -/
theorem records_kind {op : Op Core A} {event : Event} (records : op.Records event) :
    event.kind = .plain ∨ event.kind = op.kind := by
  have background (silent : event.isBackground = true) : event.kind = .plain := by
    cases event <;> first | rfl | cases silent
  cases op with
  | onAction reported => cases records; exact .inr rfl
  | handling path message => cases records; exact .inr rfl
  | sendFrame site handle frame => obtain ⟨accepted, rfl⟩ := records; exact .inr rfl
  | core region =>
      obtain ⟨call, rfl, opened⟩ := records
      change (if call.opened.isSome then OpKind.receive else OpKind.plain) = .plain ∨
        (if call.opened.isSome then OpKind.receive else OpKind.plain) = region.kind
      rcases region.plain_or_receive with plain | receive
      · left
        rw [opened plain]
        rfl
      · rw [receive]
        split
        · exact .inr rfl
        · exact .inl rfl
  | _ => exact .inl (background records)

/-- No frame joins the queue of a pump that has ended. -/
def Net.queueClosed (net : Net) (handle : BiDiStreamHandle) : Bool :=
  (net.pumps[handle.pump]?).all Pump.isEnded

/-- A frame that is handed over is recorded, accepted or not. -/
theorem exec_sendFrame {site : SendSite} {handle : BiDiStreamHandle} {frame : Bytes}
    {choice : Choice} {world after : World Core} {value : Except EngineError Unit}
    (answered : exec config (.sendFrame site handle frame) choice world = some (value, after)) :
    ∃ accepted, after.engine = world.engine.record (.sent site handle frame accepted) ∧
      (accepted = true → world.net.queueClosed handle = false) := by
  obtain ⟨-, rfl⟩ | ⟨pump, found, running, -, -, rfl⟩ := sendFrame_effect answered
  · exact ⟨false, rfl, by rintro ⟨⟩⟩
  · exact ⟨true, rfl, fun _ => by simp [Net.queueClosed, found, running]⟩

omit [ConstructCore Core] in
/-- The calls of a section take no message up. -/
theorem beingReceived_calls (log : List Event) (calls : List CoreCall) :
    beingReceived (log ++ calls.map .core) = beingReceived log := by
  have silent : (calls.map Event.core).filterMap Event.message = [] := by
    simp [List.filterMap_map, Function.comp_def, Event.message]
  unfold beingReceived
  rw [List.filterMap_append, silent, List.append_nil]

omit [ConstructCore Core] in
/-- A handler takes its message up. -/
theorem beingReceived_handling (log : List Event) (path : ReceivePath) (message : IncomingMessage) :
    beingReceived (log ++ [.handling path message]) = some message := by
  unfold beingReceived
  simp [Event.message]

omit [ConstructCore Core] in
/-- Only a handler takes a message up. -/
theorem beingReceived_quiet {log : List Event} {event : Event} (quiet : event.kind ≠ .receive) :
    beingReceived (log ++ [event]) = beingReceived log := by
  have silent : event.message = none := by
    cases event with
    | handling path message => exact absurd rfl quiet
    | _ => rfl
  unfold beingReceived
  simp [silent]

section
variable {promise : (engineMachine Core config).Promise} {guard : (engineMachine Core config).Guard}
  {B : Type} {result : B → Engine Core → Prop} {engine : Engine Core}

/-- The engine's part of the state is safe to run this program on. -/
abbrev EngineSafe (promise : (engineMachine Core config).Promise)
    (guard : (engineMachine Core config).Guard) (program : EngineM Core A)
    (result : A → Engine Core → Prop) (engine : Engine Core) : Prop :=
  (engineOwned Core config).Safe promise guard program result engine

/-- A property of the trace survives a program when it survives the events of its operations. -/
theorem uses_log (kinds : OpKind → Prop) (holds : List Event → Prop)
    (plain : kinds .plain)
    (each : ∀ log event, kinds event.kind → holds log → holds (log ++ [event]))
    (guarded : ∀ {A : Type} (op : Op Core A) world, kinds op.kind → holds world.engine.log →
      guard op world)
    {program : EngineM Core A} (uses : program.Uses fun op => kinds op.kind) {engine : Engine Core}
    (now : holds engine.log) :
    EngineSafe promise guard program (fun _ after => holds after.log) engine := by
  refine Owned.safe_of_uses (fun engine : Engine Core => holds engine.log)
    (fun op world permitted now => guarded op world permitted now) ?_ uses now
  intro B op choice world value after permitted now _ answered
  obtain ⟨more, grown, records⟩ := exec_records answered
  change holds after.engine.log
  rw [grown]
  have every : ∀ event ∈ more, kinds event.kind := fun event member => by
    rcases records_kind (records event member) with kind | kind <;> rw [kind]
    · exact plain
    · exact permitted
  clear grown records
  induction more using List.reverseRecOn with
  | nil => rw [List.append_nil]; exact now
  | append_singleton front last ih =>
      rw [← List.append_assoc]
      refine each _ _ (every last (by simp)) (ih fun event member => every event ?_)
      exact List.mem_append_left _ member

/-- Plain operations are ordinary. -/
theorem ordinary_plain : Ordinary .plain := by unfold Ordinary; decide

/-- The transport is ordinary. -/
theorem ordinary_transport : Ordinary .transport := by unfold Ordinary; decide

/-- A property of the trace survives a handler that neither moves nor announces a message. -/
theorem made_log (holds : List Event → Prop)
    (each : ∀ log event, Ordinary event.kind → holds log → holds (log ++ [event]))
    (guarded : ∀ {A : Type} (op : Op Core A) world, Ordinary op.kind → holds world.engine.log →
      guard op world)
    {program : EngineM Core A} (made : Made Ordinary program) {engine : Engine Core}
    (now : holds engine.log) :
    EngineSafe promise guard program (fun _ after => holds after.log) engine :=
  uses_log Ordinary holds ordinary_plain each guarded (made.uses
    (fun _ kind => by rw [kind]; exact ordinary_plain)
    (fun _ kind => by rw [kind]; exact ordinary_transport) fun _ permitted => permitted) now

/-- A handler begins with its message in the trace. -/
theorem handling_bind {path : ReceivePath} {message : IncomingMessage}
    {rest : Unit → EngineM Core B} (guarded : ∀ world, guard (.handling path message) world)
    (later : EngineSafe promise guard (rest ()) result (engine.record (.handling path message))) :
    EngineSafe promise guard (perform (.handling path message) >>= rest) result engine := by
  apply Owned.safe_step (fun world _ => guarded world)
  intro world choice value after same _ answered
  cases answered
  cases same
  exact later

/-- An operation that only asks the environment leaves the engine alone. -/
theorem uuid_bind {rest : Bytes → EngineM Core B} (guarded : ∀ world, guard .uuid world)
    (later : ∀ uuid, EngineSafe promise guard (rest uuid) result engine) :
    EngineSafe promise guard (perform .uuid >>= rest) result engine := by
  apply Owned.safe_step (fun world _ => guarded world)
  intro world choice value after same _ answered
  cases answered
  cases same
  exact later _

/-- The clock may show any time. -/
theorem systemTime_bind {rest : Int → EngineM Core B} (guarded : ∀ world, guard .systemTime world)
    (later : ∀ time, EngineSafe promise guard (rest time) result engine) :
    EngineSafe promise guard (perform .systemTime >>= rest) result engine := by
  apply Owned.safe_step (fun world _ => guarded world)
  intro world choice value after same _ answered
  cases answered
  cases same
  exact later _

/-- A fired action is recorded. -/
theorem action_bind {action : PlatformAction} {rest : Unit → EngineM Core B}
    (guarded : ∀ world, world.engine = engine → guard (.onAction action) world)
    (later : EngineSafe promise guard (rest ()) result (engine.record (.action action))) :
    EngineSafe promise guard (onAction action >>= rest) result engine := by
  apply Owned.safe_step guarded
  intro world choice value after same _ answered
  cases answered
  cases same
  exact later

/-- The frame is recorded, and the rest continues with either answer. -/
theorem sendFrame_bind {site : SendSite} {handle : BiDiStreamHandle} {frame : Bytes}
    {rest : Except EngineError Unit → EngineM Core B}
    (guarded : ∀ world, world.engine = engine → guard (.sendFrame site handle frame) world)
    (later : ∀ value accepted, EngineSafe promise guard (rest value) result
      (engine.record (.sent site handle frame accepted))) :
    EngineSafe promise guard (perform (.sendFrame site handle frame) >>= rest) result engine := by
  refine Owned.safe_step guarded fun world choice value after same _ answered => ?_
  have sent : exec config (.sendFrame site handle frame) choice world = some (value, after) := answered
  obtain ⟨accepted, recorded, -⟩ := exec_sendFrame sent
  change EngineSafe promise guard (rest value) result after.engine
  rw [recorded]
  cases same
  exact later value accepted

/-- A program may end with an action. -/
theorem action_done {action : PlatformAction} {result : Unit → Engine Core → Prop}
    (guarded : ∀ world, world.engine = engine → guard (.onAction action) world)
    (now : result () (engine.record (.action action))) :
    EngineSafe promise guard (onAction action) result engine := by
  refine Owned.safe_perform guarded fun world choice value after same _ answered => ?_
  cases answered
  cases same
  exact now

/-- The held stream is read as it is. -/
theorem streamRead_bind {rest : Option BiDiStreamHandle → EngineM Core B}
    (guarded : ∀ world, guard .streamRead world)
    (later : EngineSafe promise guard (rest engine.stream) result engine) :
    EngineSafe promise guard (perform .streamRead >>= rest) result engine := by
  apply Owned.safe_step (fun world _ => guarded world)
  intro world choice value after same _ answered
  cases answered
  cases same
  exact later

/-- The section runs on the core of the engine under the promise. -/
theorem section_step {region : CoreSection Core A} {rest : A → EngineM Core B}
    (guarded : ∀ world, world.engine = engine → guard (.core region) world)
    (later : ∀ world choice, world.engine = engine → promise.answers (.core region) choice world →
      EngineSafe promise guard (rest (region.run engine.core).1) result
        (({ engine with core := (region.run engine.core).2.1 }).recordCalls
          (region.run engine.core).2.2)) :
    EngineSafe promise guard (perform (.core region) >>= rest) result engine := by
  apply Owned.safe_step guarded
  intro world choice value after same kept answered
  cases answered
  cases same
  exact later world choice rfl kept

/-- The core runs its section, and the calls are recorded. -/
theorem section_bind {region : CoreSection Core A} {rest : A → EngineM Core B}
    (guarded : ∀ world, guard (.core region) world)
    (later : ∀ world choice, world.engine = engine → promise.answers (.core region) choice world →
      EngineSafe promise guard (rest (region.run engine.core).1) result
        (({ engine with core := (region.run engine.core).2.1 }).recordCalls
          (region.run engine.core).2.2)) :
    EngineSafe promise guard (perform (.core region) >>= rest) result engine :=
  section_step (fun world _ => guarded world) later

/-- An empty state is not saved. -/
def Engine.save (engine : Engine Core) (stateBytes : Bytes) : Engine Core :=
  if stateBytes.isEmpty then engine
  else engine.record (.action (.saveKeychain "orchestrator_state" stateBytes))

/-- The empty state is not saved. -/
theorem saveState_bind {stateBytes : Bytes} {rest : Unit → EngineM Core B}
    (guarded : stateBytes ≠ [] → ∀ world, world.engine = engine →
      guard (.onAction (.saveKeychain "orchestrator_state" stateBytes)) world)
    (later : EngineSafe promise guard (rest ()) result (engine.save stateBytes)) :
    EngineSafe promise guard (saveState stateBytes >>= rest) result engine := by
  unfold saveState
  unfold Engine.save at later
  split
  · next empty => rwa [if_pos empty] at later
  · next some =>
      exact action_bind (guarded fun empty => some (by rw [empty]; rfl)) (by rwa [if_neg some] at later)

end

end ConstructEngine
