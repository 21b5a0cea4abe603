import ConstructEngine.Proof.Rehearsal
import ConstructEngine.Proof.Topics
import ConstructEngine.Proof.Trail

namespace ConstructEngine

open Interaction Program Machine

variable {Core : Type}

section
variable [Prost]

/-- The frame carries the payload in its envelope, openly or sealed. -/
def Carries (frame wirePayload : Bytes) : Prop :=
  ∃ envelope localId, frame = sendRequestFrame envelope localId ∧
    (envelope.encryptedPayload = wirePayload ∨ ∃ recipient tag timestamp,
      envelope.sealedSender = some
        ⟨Prost.encodeToVec .sealedInner ⟨recipient, tag, wirePayload, 1⟩, timestamp⟩)

/-- The call that follows this trace produced the frame. -/
def Produced (site : SendSite) (frame : Bytes) (front : List Event) (call : CoreCall) : Prop :=
  match site with
  | .sendMessage | .initSessionInitiator =>
      ∃ wirePayload, call.Seals wirePayload ∧ Carries frame wirePayload
  | .sendAckFrame => ∃ message plaintext timestamp, beingReceived front = some message ∧
      call.Opens plaintext ∧ frame = deliveryReceipt message.messageId timestamp
  | .ackMessage => True

end

/-- The last advancing call of the trace was followed by an export and a save of the same state. -/
def SavedLast (produced : List Event → CoreCall → Prop) (log : List Event) : Prop :=
  ∃ front call middle stateBytes, log = front ++ .core call :: middle ∧ produced front call ∧
    (∀ later, .core later ∈ middle → later.advances = false) ∧
    [.core (.exportState (.ok stateBytes)),
      .action (.saveKeychain "orchestrator_state" stateBytes)].Sublist middle

/-- The last advancing call of the trace was followed by an export of this state. -/
def ExportedLast (produced : List Event → CoreCall → Prop) (stateBytes : Bytes)
    (log : List Event) : Prop :=
  stateBytes.isEmpty = false ∧ ∃ front call middle, log = front ++ .core call :: middle ∧
    produced front call ∧ (∀ later, .core later ∈ middle → later.advances = false) ∧
    .core (.exportState (.ok stateBytes)) ∈ middle

/-- Ciphertext frames and acknowledgements come after the save of the state behind them. -/
def PersistLaw [Prost] (before : List Event) (event : Event) : Prop :=
  match event with
  | .sent site _ frame _ => site = .ackMessage ∨ SavedLast (Produced site frame) before
  | _ => True

/-- A call that does not advance the core leaves the export the last one. -/
theorem ExportedLast.calls {produced : List Event → CoreCall → Prop} {stateBytes : Bytes}
    {log : List Event} {calls : List CoreCall} (exported : ExportedLast produced stateBytes log)
    (resting : ∀ call ∈ calls, call.advances = false) :
    ExportedLast produced stateBytes (log ++ calls.map .core) := by
  obtain ⟨some, front, call, middle, rfl, product, latest, member⟩ := exported
  refine ⟨some, front, call, middle ++ calls.map .core, by simp, product, fun later called => ?_,
    List.mem_append_left _ member⟩
  rcases List.mem_append.mp called with called | called
  · exact latest later called
  · obtain ⟨call, called, same⟩ := List.mem_map.mp called
    cases same
    exact resting _ called

/-- An exported state that is handed over is saved. -/
theorem ExportedLast.saved {produced : List Event → CoreCall → Prop} {stateBytes : Bytes}
    {log : List Event} (exported : ExportedLast produced stateBytes log) :
    SavedLast produced (log ++ [.action (.saveKeychain "orchestrator_state" stateBytes)]) := by
  obtain ⟨-, front, call, middle, rfl, product, latest, member⟩ := exported
  refine ⟨front, call, middle ++ [_], stateBytes, by simp, product, fun later called => ?_,
    (List.singleton_sublist.mpr member).append (List.Sublist.refl _)⟩
  rcases List.mem_append.mp called with called | called
  · exact latest later called
  · cases List.mem_singleton.mp called

variable [ConstructCore Core] {config : EngineConfig}

/-- A successful section leaves an exported state behind when its core can export. -/
theorem exportedLast_of_section {region : CoreSection Core (Except String (Bytes × Bytes))}
    {produces : CoreCall → Bytes → Prop} {core after : Core} {bytes : Bytes} {calls : List CoreCall}
    (exported : CoreSection.Exported region produces core bytes after calls)
    (exports : CoreSection.exports after = true) {produced : List Event → CoreCall → Prop}
    {log : List Event}
    (implies : ∀ front call, beingReceived front = beingReceived log → produces call bytes →
      produced front call) :
    ExportedLast produced (unwrapOrDefault (ConstructCore.exportOrchestratorStateCfe after))
      (log ++ calls.map .core) := by
  obtain ⟨front, call, product, -, rfl⟩ := exported.recorded
  unfold CoreSection.exports at exports
  split at exports
  · next stateBytes done =>
      refine ⟨by simpa [done, unwrapOrDefault] using exports, log ++ front.map .core, call,
        [.core (.exportState (.ok stateBytes))], by simp [done],
        implies _ _ (beingReceived_calls log front) product, ?_, by simp [done, unwrapOrDefault]⟩
      intro later called
      cases List.mem_singleton.mp called
      rfl
  · cases exports

/-- While a stream is held, every core that moved a ratchet exports a state. -/
def RatchetExports {A : Type} (op : Op Core A) (world : World Core) : Prop :=
  ∀ core ∈ world.engine.core, ∀ outcome ∈ op.ratchet core, world.engine.stream.isSome = true →
    CoreSection.exports outcome.2 = true

instance {A : Type} (op : Op Core A) (world : World Core) : Decidable (RatchetExports op world) :=
  inferInstanceAs (Decidable (∀ core ∈ world.engine.core, ∀ outcome ∈ op.ratchet core, _ → _))

/-- In these runs no ratchet moves without an export while a stream is held. -/
def persistPromise (Core : Type) [ConstructCore Core] (config : EngineConfig) :
    (engineMachine Core config).Promise where
  answers op _ world := RatchetExports op world
  moves _ _ := True

instance (A : Type) (op : Op Core A) (choice : Choice) (world : World Core) :
    Decidable ((persistPromise Core config).answers op choice world) :=
  inferInstanceAs (Decidable (RatchetExports op world))

instance (move : Move) (world : World Core) :
    Decidable ((persistPromise Core config).moves move world) := isTrue trivial

section
variable [Prost]

/-- Every frame that needs a saved state finds one. -/
def persistGuard (Core : Type) [ConstructCore Core] (config : EngineConfig) :
    (engineMachine Core config).Guard := fun op world =>
  match op with
  | .sendFrame site _ frame => site = .ackMessage ∨ SavedLast (Produced site frame) world.engine.log
  | _ => True

/-- The program, begun with this engine, sends only frames whose state is saved. -/
abbrev PersistSafe {A : Type} (config : EngineConfig) (program : EngineM Core A)
    (result : A → Engine Core → Prop) (engine : Engine Core) : Prop :=
  EngineSafe (persistPromise Core config) (persistGuard Core config) program result engine

/-- Programs of these kinds hand no guarded frame to the stream. -/
def Unsent (kind : OpKind) : Prop := kind ≠ .publish ∧ kind ≠ .acknowledge

/-- An operation that sends no guarded frame may always be answered. -/
theorem unsent_guard {A : Type} {op : Op Core A} (unsent : Unsent op.kind) (world : World Core) :
    persistGuard Core config op world := by
  cases op with
  | sendFrame site handle frame =>
      cases site with
      | ackMessage => exact .inl rfl
      | sendMessage => exact absurd rfl unsent.1
      | initSessionInitiator => exact absurd rfl unsent.1
      | sendAckFrame => exact absurd rfl unsent.2
  | _ => trivial

/-- A program that sends no guarded frame needs no saved state. -/
theorem uses_persist {A : Type} {program : EngineM Core A}
    (uses : program.Uses fun op => Unsent op.kind) (engine : Engine Core) :
    PersistSafe config program (fun _ _ => True) engine :=
  Owned.safe_of_uses (fun _ => True) (fun _ world unsent _ => unsent_guard unsent world)
    (fun _ _ _ _ _ _ _ _ _ => trivial) uses trivial

/-- What a handler is made of sends a guarded frame only where its kind says so. -/
theorem made_persist {A : Type} {program : EngineM Core A} (made : Made Unsent program)
    (engine : Engine Core) : PersistSafe config program (fun _ _ => True) engine :=
  uses_persist (made.uses (fun _ kind => by rw [kind]; constructor <;> decide)
    (fun _ kind => by rw [kind]; constructor <;> decide) fun _ unsent => unsent) engine

omit [Prost] in
/-- A plain operation sends no guarded frame. -/
theorem unsent_plain : Unsent .plain := by constructor <;> decide

/-- A plain action sends nothing. -/
theorem action_persist {action : PlatformAction} (reports : actionKind action = .plain)
    (engine : Engine Core) :
    PersistSafe config (onAction action : EngineM Core Unit) (fun _ _ => True) engine :=
  made_persist (made_action unsent_plain action reports) engine

/-- A guarded frame is sent after its state was saved, and what follows needs no guard. -/
theorem sendFrame_persist {site : SendSite} {handle : BiDiStreamHandle} {frame : Bytes}
    {rest : Except EngineError Unit → EngineM Core Unit} {engine : Engine Core}
    (saved : SavedLast (Produced site frame) engine.log) (made : ∀ value, Made Unsent (rest value)) :
    PersistSafe config (perform (.sendFrame site handle frame) >>= rest) (fun _ _ => True)
      engine := by
  refine sendFrame_bind ?_ fun value _ => made_persist (made value) _
  rintro world rfl
  exact .inr saved

/-- The sealed or open envelope carries the payload, and building it leaves the engine alone. -/
theorem buildEnvelope_bind {A : Type} {promise : (engineMachine Core config).Promise}
    {guard : (engineMachine Core config).Guard} {contactId localId conversationId : String}
    {wirePayload : Bytes} {level : AnonymityLevel} {rest : Envelope → EngineM Core A}
    {result : A → Engine Core → Prop} {engine : Engine Core}
    (guarded : ∀ {B : Type} (op : Op Core B) world, op.topic = .reading → guard op world)
    (later : ∀ envelope, Carries (sendRequestFrame envelope localId) wirePayload →
      EngineSafe promise guard (rest envelope) result engine) :
    EngineSafe promise guard
      (buildEnvelope contactId localId conversationId wirePayload level >>= rest) result engine := by
  cases level with
  | normal => exact later _ ⟨_, localId, rfl, .inl rfl⟩
  | ghost =>
      exact uuid_bind (fun world => guarded _ world rfl) fun first =>
        uuid_bind (fun world => guarded _ world rfl) fun second =>
        systemTime_bind (fun world => guarded _ world rfl) fun timestamp =>
        later _ ⟨_, localId, rfl, .inr ⟨_, _, _, rfl⟩⟩

/-- What only reads sends nothing. -/
theorem reading_persist {A : Type} (op : Op Core A) (world : World Core) (reading : op.topic = .reading) :
    persistGuard Core config op world := by
  cases op with
  | sendFrame => cases reading
  | _ => trivial

omit [ConstructCore Core] [Prost] in
@[simp] theorem save_stream (engine : Engine Core) (stateBytes : Bytes) :
    (engine.save stateBytes).stream = engine.stream := by
  unfold Engine.save
  split <;> rfl

omit [ConstructCore Core] [Prost] in
/-- A frame that joins the stream after a save finds the state that was exported last. -/
theorem saved_of_exported {produced : List Event → CoreCall → Prop} {stateBytes : Bytes}
    {engine : Engine Core} (exported : ExportedLast produced stateBytes engine.log) :
    SavedLast produced (engine.save stateBytes).log := by
  unfold Engine.save
  rw [if_neg (by rw [exported.1]; decide)]
  exact exported.saved

/-- The state behind the ciphertext is saved before the frame is sent. -/
theorem handleSendMessage_persist (contactId : String) (plaintext : Bytes)
    (localId conversationId : String) (level : AnonymityLevel) (engine : Engine Core) :
    PersistSafe config (handleSendMessage contactId plaintext localId conversationId level)
      (fun _ _ => True) engine := by
  unfold handleSendMessage
  refine section_bind (fun _ => trivial) fun world choice same kept => ?_
  subst same
  cases stored : world.engine.core with
  | none => exact action_persist rfl _
  | some core =>
  rcases CoreSection.encryptAndExport_run contactId plaintext core with
    ⟨message, after, calls, ran, -⟩ | ⟨bytes, after, calls, exported⟩
  · rw [ran]
    exact action_persist rfl _
  rw [exported.ran]
  refine saveState_bind (fun _ _ _ => trivial) (buildEnvelope_bind reading_persist fun envelope carries => ?_)
  apply streamRead_bind (fun _ => trivial)
  rw [save_stream]
  cases held : world.engine.stream with
  | none => exact action_persist rfl _
  | some stream =>
  have exports := kept core stored _ exported.outcome (by rw [held]; rfl)
  refine sendFrame_persist (saved_of_exported (exportedLast_of_section exported exports ?_)) ?_
  · exact fun front call _ seals => ⟨_, seals, carries⟩
  · rintro (error | ⟨⟩) <;> exact made_action unsent_plain _ rfl

/-- The state behind the initiation is saved before the frame is sent. -/
theorem handleInitSessionInitiator_persist (contactId : String) (engine : Engine Core) :
    PersistSafe config (handleInitSessionInitiator contactId) (fun _ _ => True) engine := by
  unfold handleInitSessionInitiator
  refine (made_persist (made_fetchBundle _ _) engine).andThen fun fetched engine _ => ?_
  rcases fetched with message | ⟨bundle, verifyingKey⟩
  · exact action_persist rfl _
  refine section_bind (fun _ => trivial) fun world choice same kept => ?_
  subst same
  cases stored : world.engine.core with
  | none => exact action_persist rfl _
  | some core =>
  rcases CoreSection.initiateAndExport_run contactId (x3dhBundle bundle verifyingKey)
    ⟨bundle.kyberPreKey, bundle.kyberOneTimePreKey, bundle.kyberOneTimePreKeyId⟩ core with
    ⟨message, after, calls, ran, -⟩ | ⟨bytes, after, calls, exported⟩
  · rw [ran]
    exact action_persist rfl _
  rw [exported.ran]
  refine saveState_bind (fun _ _ _ => trivial) (uuid_bind (fun _ => trivial) fun uuid => ?_)
  apply streamRead_bind (fun _ => trivial)
  rw [save_stream]
  cases held : world.engine.stream with
  | none => exact action_persist rfl _
  | some stream =>
  have exports := kept core stored _ exported.outcome (by rw [held]; rfl)
  refine sendFrame_persist (saved_of_exported (exportedLast_of_section exported exports ?_))
    fun _ => made_action unsent_plain _ rfl
  exact fun front call _ seals => ⟨_, seals, _, _, rfl, .inl rfl⟩

/-- The acknowledged message was opened by the call behind the exported state. -/
theorem sendAckFrame_persist (message : IncomingMessage) {stateBytes : Bytes}
    {rest : EngineM Core Unit} {engine : Engine Core}
    (exported : engine.stream.isSome = true → ExportedLast (fun front call =>
      beingReceived front = some message ∧ ∃ plaintext, call.Opens plaintext) stateBytes engine.log)
    (made : Made Unsent rest) :
    PersistSafe config (do saveState stateBytes; sendAckFrame message.messageId; rest)
      (fun _ _ => True) engine := by
  apply saveState_bind (fun _ _ _ => trivial)
  have acknowledged : PersistSafe config (sendAckFrame message.messageId) (fun _ _ => True)
      (engine.save stateBytes) := by
    unfold sendAckFrame
    refine systemTime_bind (fun _ => trivial) fun timestamp => streamRead_bind (fun _ => trivial) ?_
    rw [save_stream]
    cases held : engine.stream with
    | none => exact Owned.safe_done trivial
    | some stream =>
        refine sendFrame_persist ?_ fun _ => made_return ()
        obtain ⟨front, call, middle, blob, shape, ⟨taken, plaintext, opens⟩, latest, sublist⟩ :=
          saved_of_exported (exported (by rw [held]; rfl))
        exact ⟨front, call, middle, blob, shape, ⟨message, plaintext, timestamp, taken, opens, rfl⟩,
          latest, sublist⟩
  exact acknowledged.andThen fun _ engine _ => made_persist made engine

omit [Prost] in
/-- A receiving section exports the state behind the acknowledgement of the current message. -/
theorem opened_exported {region : CoreSection Core (Except String (Bytes × Bytes))}
    {core after : Core} {plaintext : Bytes} {calls : List CoreCall} {world : World Core}
    {message : IncomingMessage} (kept : RatchetExports (.core region) world)
    (stored : world.engine.core = some core)
    (exported : CoreSection.Exported region CoreCall.Opens core plaintext after calls)
    (taken : beingReceived world.engine.log = some message)
    (streaming : world.engine.stream.isSome = true) :
    ExportedLast (fun front call => beingReceived front = some message ∧
        ∃ plaintext, call.Opens plaintext)
      (unwrapOrDefault (ConstructCore.exportOrchestratorStateCfe after))
      (world.engine.log ++ calls.map .core) :=
  exportedLast_of_section exported (kept core stored _ exported.outcome streaming)
    fun _ _ same opens => ⟨same.trans taken, plaintext, opens⟩

/-- The state behind the plaintext is saved before the acknowledgement. -/
theorem handleDecryptMessage_persist (message : IncomingMessage) (engine : Engine Core) :
    PersistSafe config (handleDecryptMessage message) (fun _ _ => True) engine := by
  unfold handleDecryptMessage
  apply handling_bind (fun _ => trivial)
  have taken : beingReceived (engine.record (.handling .decryptMessage message)).log =
      some message := beingReceived_handling _ _ _
  refine section_bind (fun _ => trivial) fun world choice same kept => ?_
  rw [← same] at taken ⊢
  cases stored : world.engine.core with
  | none => exact Owned.safe_done trivial
  | some core =>
  rcases CoreSection.decryptAndExport_run message.senderId message.wirePayload core with
    ⟨text, after, calls, ran, -⟩ | ⟨plaintext, after, calls, exported⟩
  · rw [ran]
    exact Owned.safe_done trivial
  rw [exported.ran]
  exact sendAckFrame_persist message (opened_exported kept stored exported taken)
    (made_action unsent_plain _ rfl)

/-- The current message stays the same while its bundle is fetched. -/
theorem fetchBundle_persist {userId noBundle : String} {message : IncomingMessage}
    {engine : Engine Core} (taken : beingReceived engine.log = some message) :
    PersistSafe config (fetchBundle userId noBundle)
      (fun _ after => beingReceived after.log = some message) engine :=
  made_log (fun log => beingReceived log = some message)
    (fun _ _ ordinary now => (beingReceived_quiet ordinary.2.2.1).trans now)
    (fun _ world ordinary _ => unsent_guard ⟨ordinary.1, ordinary.2.1⟩ world)
    (made_fetchBundle userId noBundle) taken

/-- The state behind the new session is saved before the acknowledgement. -/
theorem handleSessionInitResponder_persist (message : IncomingMessage) (engine : Engine Core) :
    PersistSafe config (handleSessionInitResponder message) (fun _ _ => True) engine := by
  unfold handleSessionInitResponder
  apply handling_bind (fun _ => trivial)
  refine (fetchBundle_persist (beingReceived_handling _ _ _)).andThen fun fetched engine taken => ?_
  rcases fetched with text | ⟨bundle, verifyingKey⟩
  · exact action_persist rfl _
  dsimp only
  split
  · exact action_persist rfl _
  refine section_bind (fun _ => trivial) fun world choice same kept => ?_
  subst same
  cases stored : world.engine.core with
  | none => exact made_persist (made_healing unsent_plain message _) _
  | some core =>
  rcases CoreSection.receiveAndExport_run message.senderId (x3dhBundle bundle verifyingKey) _ core with
    ⟨text, after, calls, ran, -⟩ | ⟨plaintext, after, calls, exported⟩
  · rw [ran]
    exact made_persist (made_healing unsent_plain message _) _
  rw [exported.ran]
  refine section_bind (fun _ => trivial) fun cleared _ _ _ => ?_
  refine sendAckFrame_persist message (fun streaming => ?_) ?_
  · refine ExportedLast.calls (opened_exported kept stored exported taken streaming)
      fun call called => ?_
    cases List.mem_singleton.mp called
    rfl
  · refine .bind (made_action unsent_plain _ rfl) fun _ => ?_
    split
    · exact made_return ()
    · exact made_action unsent_plain _ rfl

omit [Prost] in
/-- Between two operations nothing is assumed. -/
theorem persist_stable : Stable (persistPromise Core config) fun _ => True :=
  fun _ _ _ _ _ _ => trivial

/-- The program sends only frames whose state is saved. -/
abbrev KeepsPersist {A : Type} (config : EngineConfig) (program : EngineM Core A) : Prop :=
  Keeps (persistPromise Core config) (persistGuard Core config) (fun _ => True) program

/-- What is safe from every engine is safe in every world. -/
theorem keeps_persist {A : Type} {program : EngineM Core A}
    (safe : ∀ engine, PersistSafe config program (fun _ _ => True) engine) :
    KeepsPersist config program := fun world _ => safe world.engine world rfl

/-- Every handler saves before it sends. -/
theorem eventLoop_persist : KeepsPersist config (eventLoop config : EngineM Core Unit) := by
  have made {A : Type} {program : EngineM Core A} (made : Made Unsent program) :
      KeepsPersist config program := keeps_persist (made_persist made)
  apply eventLoop_messages persist_stable
  · intro A program ordinary
    exact made (ordinary.mono fun single piece =>
      piece.mono fun kind ordinary => ⟨ordinary.1, ordinary.2.1⟩)
  · exact keeps_persist (uses_persist (uses_ensureConnected
      (fun _ kind => by rw [kind]; exact unsent_plain)
      fun _ kind => by rw [kind]; constructor <;> decide))
  · exact fun op kind => made (made_op op (by rw [kind]; constructor <;> decide))
  · exact fun contactId plaintext localId conversationId level => keeps_persist
      (handleSendMessage_persist contactId plaintext localId conversationId level)
  · exact fun contactId => keeps_persist (handleInitSessionInitiator_persist contactId)
  · exact fun message => keeps_persist (handleSessionInitResponder_persist message)
  · exact fun message => keeps_persist (handleDecryptMessage_persist message)
  · intro totals msg
    refine keeps_of_composed persist_stable (composed_handlePendingMessage ?_ ?_ ?_ totals msg)
    · exact fun single piece => made (.piece (piece.mono fun kind plain => by
        rw [plain]; exact unsent_plain))
    · exact fun op kind => made (made_op op (by rw [kind]; constructor <;> decide))
    · exact fun message => .piece (keeps_persist (handleSessionInitResponder_persist message))

omit [ConstructCore Core] in
/-- The law speaks of sent frames alone. -/
theorem persistLaw_unsent {before : List Event} {event : Event} (unsent : Unsent event.kind) :
    PersistLaw before event := by
  cases event with
  | sent site handle frame accepted =>
      cases site with
      | ackMessage => exact .inl rfl
      | sendMessage => exact absurd rfl unsent.1
      | initSessionInitiator => exact absurd rfl unsent.1
      | sendAckFrame => exact absurd rfl unsent.2
  | _ => trivial

/-- A guarded operation extends the trace under the law. -/
theorem persistLaw_kept {A : Type} (op : Op Core A) (choice : Choice) (world : World Core)
    (value : A) (after : World Core) (guarded : persistGuard Core config op world)
    (lawful : AtEach PersistLaw world.engine.log)
    (answered : exec config op choice world = some (value, after)) :
    AtEach PersistLaw after.engine.log := by
  have other (unsent : Unsent op.kind) : AtEach PersistLaw after.engine.log := by
    obtain ⟨more, grown, records⟩ := exec_records answered
    rw [grown]
    refine atEach_append lawful fun before event rest shape => persistLaw_unsent ?_
    rcases records_kind (records event (by rw [shape]; simp)) with kind | kind <;> rw [kind]
    · exact unsent_plain
    · exact unsent
  cases op with
  | sendFrame site handle frame =>
      obtain ⟨accepted, recorded, -⟩ := exec_sendFrame answered
      rw [recorded]
      refine atEach_snoc.mpr ?_
      exact ⟨lawful, guarded⟩
  | onAction action =>
      refine other ?_
      cases action with
      | connectionStateChanged connected => cases connected <;> constructor <;> nofun
      | _ => constructor <;> nofun
  | core region => exact other (by cases region <;> constructor <;> nofun)
  | streamWrite stream => exact other (by cases stream <;> constructor <;> nofun)
  | _ => exact other (by constructor <;> nofun)

/-- In these runs every ciphertext frame and every acknowledgement follows the save of the state
that was exported after the call behind it. -/
theorem published_persisted {engine : Engine Core} (created : Engine.new config = .ok engine)
    {world : World Core} {later : EngineM Core Unit}
    (reached : Reaches (persistPromise Core config) (startWorld engine, eventLoop config)
      (world, later)) : AtEach PersistLaw world.engine.log := by
  obtain ⟨core, rfl⟩ := Engine.new_fresh created
  have keeps : KeepsPersist config (eventLoop config : EngineM Core Unit) := eventLoop_persist
  have safe := keeps (startWorld (Engine.fresh config core)) trivial
  refine safe.invariant (fun world => AtEach PersistLaw world.engine.log) ?_ ?_
    (atEach_nil PersistLaw) reached
  · exact (engineOwned Core config).stable fun engine => AtEach PersistLaw engine.log
  · exact fun op choice world value after guarded lawful _ answered =>
      persistLaw_kept op choice world value after guarded lawful answered

/-- A frame that needs a saved state is sent. -/
def Event.publishes : Event → Bool
  | .sent .ackMessage .. => false
  | .sent .. => true
  | _ => false

/-- The state of the orchestrator is saved. -/
def Event.savesState : Event → Bool
  | .action (.saveKeychain key _) => key == "orchestrator_state"
  | _ => false

omit [ConstructCore Core] in
/-- A lawful trace with a published frame contains a save. -/
theorem saves_of_publishes {log : List Event} (lawful : AtEach PersistLaw log)
    (published : log.any Event.publishes = true) : log.any Event.savesState = true := by
  obtain ⟨event, member, publishes⟩ := List.any_eq_true.mp published
  obtain ⟨before, later, rfl⟩ := List.append_of_mem member
  have law := lawful before event later rfl
  cases event with
  | sent site handle frame accepted =>
      rcases law with rfl | ⟨front, call, middle, stateBytes, rfl, -, -, saved⟩
      · cases publishes
      · refine List.any_eq_true.mpr ⟨.action (.saveKeychain "orchestrator_state" stateBytes), ?_, rfl⟩
        have inside := saved.subset (List.mem_cons_of_mem _ (List.mem_singleton_self _))
        simp [inside]
  | _ => cases publishes

end

/-- The stream opens, and the platform sends a message to a contact. -/
def sentMessage (keysCfeData : Bytes) : List (rehearsalMachine (rehearsalConfig keysCfeData none)).Input :=
  rehearsal (rehearsalConfig keysCfeData none)
    [.openMessageStream ["c"] none, .sendMessage "alice" [1, 2] "l1" "alice" .normal]
    (List.replicate 33 { opened := { recvResponse := .ok ⟨200, "200 OK"⟩ } }) []

/-- The core of these keys cannot export, and the frame is sent without a save. -/
theorem published_persisted_fails :
    ¬ ∀ world later, Reaches (Promise.any (rehearsalMachine (rehearsalConfig [1] none)))
      (rehearsalStart (rehearsalConfig [1] none) (some ⟨[], []⟩)) (world, later) →
      AtEach PersistLaw world.engine.log := by
  intro lawful
  have claimed := saves_of_publishes (lawful _ _ (rehearsed_any _ _ (sentMessage [1])))
    (by decide +kernel)
  exact absurd claimed (by decide +kernel)

/-- The core of these keys exports its state, and the frame follows the save. -/
theorem published_persisted_saved :
    (rehearsed (rehearsalConfig [1, 5] none) (some ⟨[5], []⟩)
      (sentMessage [1, 5])).1.engine.log.any Event.publishes = true ∧
    AtEach PersistLaw (rehearsed (rehearsalConfig [1, 5] none) (some ⟨[5], []⟩)
      (sentMessage [1, 5])).1.engine.log :=
  ⟨by decide +kernel, published_persisted (rehearsal_with_core [5] none)
    (rehearsed_reaches (by decide +kernel))⟩

end ConstructEngine
