import ConstructEngine.Proof.Rehearsal
import ConstructEngine.Proof.Trail

namespace ConstructEngine

open Interaction Program Machine

variable {Core : Type}

/-- This is the plaintext that the event opens. -/
def Event.opened : Event → Option Bytes
  | .core call => call.opened
  | _ => none

/-- Only a core that receives opens a message. -/
theorem opened_quiet {event : Event} (quiet : event.kind ≠ .receive) : event.opened = none := by
  cases event with
  | core call =>
      cases opened : call.opened with
      | none => exact opened
      | some plaintext => exact absurd (by simp [Event.kind, opened]) quiet
  | _ => rfl

/-- The core opened a message of this trace with this plaintext. -/
def Received (log : List Event) (message : IncomingMessage) (plaintext : Bytes) : Prop :=
  ∃ front call later, log = front ++ .core call :: later ∧ beingReceived front = some message ∧
    call.Opens plaintext

/-- The platform was told to show the message with this plaintext. -/
def Displayed (log : List Event) (message : IncomingMessage) (plaintext : Bytes) : Prop :=
  .action (.displayMessage message.messageId plaintext message.senderId message.conversationId
    message.timestamp) ∈ log

/-- An acknowledgement of the message was enqueued after the core opened it. -/
def Acknowledged [Prost] (log : List Event) (message : IncomingMessage) (plaintext : Bytes) : Prop :=
  ∃ front handle timestamp later, log = front ++
      .sent .sendAckFrame handle (deliveryReceipt message.messageId timestamp) true :: later ∧
    Received front message plaintext

/-- A state was saved that was exported after the core opened the message. -/
def SavedAfter (log : List Event) (message : IncomingMessage) (plaintext : Bytes) : Prop :=
  ∃ front stateBytes middle later, log = front ++ .core (.exportState (.ok stateBytes)) :: middle ++
      .action (.saveKeychain "orchestrator_state" stateBytes) :: later ∧
    Received front message plaintext

/-- A crash at the end of this trace loses no message: what the server or the saved state has given
up was displayed. -/
def CrashSafe [Prost] (log : List Event) : Prop :=
  ∀ message plaintext, plaintext ≠ [] →
    Acknowledged log message plaintext ∨ SavedAfter log message plaintext →
    Displayed log message plaintext

/-- Every received message was displayed, except for the one that is owed. -/
def DisplayedBut (owed : Option (IncomingMessage × Bytes)) (log : List Event) : Prop :=
  ∀ message plaintext, plaintext ≠ [] → Received log message plaintext →
    Displayed log message plaintext ∨ owed = some (message, plaintext)

/-- Every received message was displayed. -/
abbrev AllDisplayed : List Event → Prop := DisplayedBut none

/-- Acknowledgements that are enqueued and saved states find every message displayed. -/
def ReceiptLaw (before : List Event) (event : Event) : Prop :=
  match event with
  | .sent .sendAckFrame _ _ true => AllDisplayed before
  | .action (.saveKeychain key _) => key = "orchestrator_state" → AllDisplayed before
  | _ => True

theorem received_append {log : List Event} {message : IncomingMessage} {plaintext : Bytes}
    (received : Received log message plaintext) (more : List Event) :
    Received (log ++ more) message plaintext := by
  obtain ⟨front, call, later, rfl, taken, opens⟩ := received
  exact ⟨front, call, later ++ more, by simp, taken, opens⟩

/-- One event receives a message only when it opens the current one. -/
theorem received_snoc {log : List Event} {event : Event} {message : IncomingMessage}
    {plaintext : Bytes} (received : Received (log ++ [event]) message plaintext) :
    Received log message plaintext ∨
      beingReceived log = some message ∧ event.opened = some plaintext := by
  obtain ⟨front, call, later, shape, taken, opens⟩ := received
  rcases List.eq_nil_or_concat later with rfl | ⟨middle, last, rfl⟩
  · obtain ⟨rfl, same⟩ := List.append_inj' shape rfl
    cases same
    exact .inr ⟨taken, opens⟩
  · have split : log ++ [event] = (front ++ .core call :: middle) ++ [last] := by
      rw [shape]; simp
    obtain ⟨rfl, -⟩ := List.append_inj' split rfl
    exact .inl ⟨front, call, middle, rfl, taken, opens⟩

/-- A crash is safe at the end of every lawful trace. -/
theorem crashSafe_of_lawful [Prost] {log : List Event} (lawful : AtEach ReceiptLaw log) :
    CrashSafe log := by
  rintro message plaintext some (⟨front, handle, timestamp, later, rfl, received⟩ |
    ⟨front, stateBytes, middle, later, rfl, received⟩)
  · have shown := lawful _ _ _ rfl message plaintext some received
    exact List.mem_append_left _ (shown.resolve_right nofun)
  · have shown := lawful _ _ _ rfl rfl message plaintext some (received_append received _)
    exact List.mem_append_left _ (shown.resolve_right nofun)

section
variable {owed : Option (IncomingMessage × Bytes)} {log : List Event} {event : Event}
  {message : IncomingMessage} {plaintext : Bytes}

/-- Where nothing is opened, nothing more is owed. -/
theorem DisplayedBut.quiet (now : DisplayedBut owed log) (silent : event.opened = none) :
    DisplayedBut owed (log ++ [event]) := by
  intro message plaintext some received
  rcases received_snoc received with earlier | ⟨-, opened⟩
  · exact (now message plaintext some earlier).imp_left (List.mem_append_left _)
  · rw [silent] at opened
    cases opened

/-- Calls that open nothing leave nothing more owed. -/
theorem DisplayedBut.calls (now : DisplayedBut owed log) {calls : List CoreCall}
    (silent : ∀ call ∈ calls, call.opened = none) : DisplayedBut owed (log ++ calls.map .core) := by
  induction calls using List.reverseRecOn with
  | nil => rw [List.map_nil, List.append_nil]; exact now
  | append_singleton front last ih =>
      rw [List.map_append, ← List.append_assoc]
      apply (ih fun call member => silent call (List.mem_append_left _ member)).quiet
      exact silent last (by simp)

/-- The message that the core opens is owed from then on. -/
theorem DisplayedBut.opened (now : AllDisplayed log) (taken : beingReceived log = some message)
    (opens : event.opened = some plaintext) :
    DisplayedBut (some (message, plaintext)) (log ++ [event]) := by
  intro other text some received
  rcases received_snoc received with earlier | ⟨same, opened⟩
  · exact .inl (List.mem_append_left _ ((now other text some earlier).resolve_right nofun))
  · cases taken.symm.trans same
    cases opens.symm.trans opened
    exact .inr rfl

/-- The message that is displayed is owed no more. -/
theorem DisplayedBut.shown (now : DisplayedBut (some (message, plaintext)) log) :
    AllDisplayed (log ++ [.action (.displayMessage message.messageId plaintext message.senderId
      message.conversationId message.timestamp)]) := by
  intro other text some received
  rcases received_snoc received with earlier | ⟨-, opened⟩
  · rcases now other text some earlier with shown | same
    · exact .inl (List.mem_append_left _ shown)
    · cases same
      exact .inl (List.mem_append_right _ (List.mem_singleton_self _))
  · cases opened

/-- A message without content need not be displayed. -/
theorem DisplayedBut.nothing (now : DisplayedBut (some (message, [])) log) : AllDisplayed log := by
  intro other text some received
  rcases now other text some received with shown | same
  · exact .inl shown
  · cases same
    exact absurd rfl some

end

/-- This is the plaintext that the core opened last. -/
def lastOpened (log : List Event) : Option Bytes := (log.filterMap Event.opened).getLast?

/-- The last event decides what was opened last. -/
theorem lastOpened_snoc (log : List Event) (event : Event) :
    lastOpened (log ++ [event]) = event.opened.or (lastOpened log) := by
  unfold lastOpened
  rw [List.filterMap_append]
  cases opened : event.opened <;> simp [opened]

/-- The message was opened last, and only its own display is missing. -/
def Owed (message : IncomingMessage) (plaintext : Bytes) (log : List Event) : Prop :=
  DisplayedBut (some (message, plaintext)) log ∧ lastOpened log = some plaintext

/-- What opens nothing leaves the debt as it is. -/
theorem Owed.quiet {message : IncomingMessage} {plaintext : Bytes} {log : List Event} {event : Event}
    (owed : Owed message plaintext log) (silent : event.opened = none) :
    Owed message plaintext (log ++ [event]) :=
  ⟨owed.1.quiet silent, by rw [lastOpened_snoc, silent]; exact owed.2⟩

/-- A call that opens a message makes the debt. -/
theorem owed_of_call {message : IncomingMessage} {plaintext : Bytes} {log : List Event}
    {call : CoreCall} (now : AllDisplayed log) (taken : beingReceived log = some message)
    (opens : call.Opens plaintext) : Owed message plaintext (log ++ [.core call]) := by
  refine ⟨DisplayedBut.opened now taken opens, ?_⟩
  have last : (Event.core call).opened = some plaintext := opens
  rw [lastOpened_snoc, last]
  rfl

variable [ConstructCore Core] {config : EngineConfig}

theorem owed_of_section {region : CoreSection Core (Except String (Bytes × Bytes))}
    {core after : Core} {plaintext : Bytes} {calls : List CoreCall} {message : IncomingMessage}
    {log : List Event}
    (exported : CoreSection.Exported region CoreCall.Opens core plaintext after calls)
    (now : AllDisplayed log) (taken : beingReceived log = some message) :
    Owed message plaintext (log ++ calls.map .core) := by
  obtain ⟨front, call, opens, silent, rfl⟩ := exported.recorded
  have opened : Owed message plaintext (log ++ front.map .core ++ [.core call]) :=
    owed_of_call (now.calls silent) ((beingReceived_calls log front).trans taken) opens
  have full : Owed message plaintext (log ++ front.map .core ++ [.core call] ++
      [.core (.exportState (ConstructCore.exportOrchestratorStateCfe after))]) := opened.quiet rfl
  simpa using full

/-- The acknowledgement goes to this stream. -/
def Op.ackHandle : {A : Type} → Op Core A → Option BiDiStreamHandle
  | _, .sendFrame .sendAckFrame handle _ => some handle
  | _, _ => none

/-- The core that opened a message with content cannot export a state. -/
def OpensUnsaved {A : Type} (op : Op Core A) (world : World Core) : Prop :=
  op.kind = .receive → ∀ core ∈ world.engine.core, ∀ outcome ∈ op.ratchet core, outcome.1 ≠ [] →
    CoreSection.exports outcome.2 = false

/-- The acknowledgement of a message with content finds a closed queue. -/
def AckRefused {A : Type} (op : Op Core A) (world : World Core) : Prop :=
  ∀ handle ∈ op.ackHandle, ∀ plaintext ∈ lastOpened world.engine.log, plaintext ≠ [] →
    world.net.queueClosed handle = true

instance {A : Type} (op : Op Core A) (world : World Core) : Decidable (OpensUnsaved op world) :=
  inferInstanceAs (Decidable (_ → ∀ core ∈ world.engine.core, ∀ outcome ∈ op.ratchet core, _ → _))

instance {A : Type} (op : Op Core A) (world : World Core) : Decidable (AckRefused op world) :=
  inferInstanceAs (Decidable (∀ handle ∈ op.ackHandle,
    ∀ plaintext ∈ lastOpened world.engine.log, _ → _))

/-- In these runs a message with content is neither saved nor acknowledged before its display. -/
def receiptPromise (Core : Type) [ConstructCore Core] (config : EngineConfig) :
    (engineMachine Core config).Promise where
  answers op _ world := OpensUnsaved op world ∧ AckRefused op world
  moves _ _ := True

instance (A : Type) (op : Op Core A) (choice : Choice) (world : World Core) :
    Decidable ((receiptPromise Core config).answers op choice world) :=
  inferInstanceAs (Decidable (OpensUnsaved op world ∧ AckRefused op world))

instance (move : Move) (world : World Core) :
    Decidable ((receiptPromise Core config).moves move world) := isTrue trivial

/-- Saves find every message displayed, and so do acknowledgements unless a message with content
was opened last. -/
def receiptGuard (Core : Type) [ConstructCore Core] (config : EngineConfig) :
    (engineMachine Core config).Guard := fun op world =>
  match op with
  | .onAction (.saveKeychain key _) =>
      key = "orchestrator_state" → AllDisplayed world.engine.log
  | .sendFrame .sendAckFrame _ _ => AllDisplayed world.engine.log ∨
      ∃ plaintext, lastOpened world.engine.log = some plaintext ∧ plaintext ≠ []
  | _ => True

/-- While every message is displayed, any operation may be answered. -/
theorem receiptGuard_of_displayed {A : Type} (op : Op Core A) {world : World Core}
    (now : AllDisplayed world.engine.log) : receiptGuard Core config op world := by
  cases op with
  | onAction action =>
      cases action with
      | saveKeychain key data => exact fun _ => now
      | _ => trivial
  | sendFrame site handle frame =>
      cases site with
      | sendAckFrame => exact .inl now
      | _ => trivial
  | _ => trivial

/-- The program, begun with this engine, saves and acknowledges only what is displayed. -/
abbrev ReceiptSafe {A : Type} (config : EngineConfig) (program : EngineM Core A)
    (result : A → Engine Core → Prop) (engine : Engine Core) : Prop :=
  EngineSafe (receiptPromise Core config) (receiptGuard Core config) program result engine

/-- Programs that receive nothing keep every message displayed. -/
theorem uses_receipt {A : Type} {program : EngineM Core A}
    (uses : program.Uses fun op => op.kind ≠ .receive) {engine : Engine Core}
    (now : AllDisplayed engine.log) :
    ReceiptSafe config program (fun _ after => AllDisplayed after.log) engine := by
  refine uses_log (· ≠ .receive) AllDisplayed (by decide) ?_
    (fun op _ _ now => receiptGuard_of_displayed op now) uses now
  exact fun log event quiet now => now.quiet (opened_quiet quiet)

section
variable [Prost]

omit [Prost] in
/-- A program outside of the receive paths keeps every message displayed. -/
theorem made_receipt {A : Type} {program : EngineM Core A} (made : Made (· ≠ .receive) program)
    {engine : Engine Core} (now : AllDisplayed engine.log) :
    ReceiptSafe config program (fun _ after => AllDisplayed after.log) engine :=
  uses_receipt (made.uses (fun _ kind => by rw [kind]; decide) (fun _ kind => by rw [kind]; decide)
    fun _ quiet => quiet) now

omit [Prost] in
/-- A plain action keeps every message displayed. -/
theorem action_receipt {action : PlatformAction} (reports : actionKind action = .plain)
    {engine : Engine Core} (now : AllDisplayed engine.log) :
    ReceiptSafe config (onAction action : EngineM Core Unit) (fun _ after => AllDisplayed after.log)
      engine :=
  made_receipt (made_action (by decide) action reports) now

omit [Prost] in
/-- An opened message with content has no exported state to save. -/
theorem nothing_saved {region : CoreSection Core (Except String (Bytes × Bytes))} {core after : Core}
    {plaintext : Bytes} {calls : List CoreCall} {world : World Core}
    (exported : CoreSection.Exported region CoreCall.Opens core plaintext after calls)
    (receives : region.kind = .receive) (unsaved : OpensUnsaved (.core region) world)
    (stored : world.engine.core = some core) (some : plaintext ≠ []) :
    unwrapOrDefault (ConstructCore.exportOrchestratorStateCfe after) = [] := by
  have none_exported := unsaved receives core stored _ exported.outcome some
  unfold CoreSection.exports at none_exported
  split at none_exported
  · next stateBytes done =>
      rw [done]
      have empty : stateBytes = [] := by simpa using none_exported
      exact empty
  · next message done => rw [done]; rfl

/-- The owed message is saved and acknowledged only if it is empty. -/
theorem sendAckFrame_receipt {message : IncomingMessage} {plaintext stateBytes : Bytes}
    {rest : EngineM Core Unit} {engine : Engine Core} (owed : Owed message plaintext engine.log)
    (unsaved : plaintext ≠ [] → stateBytes = [])
    (later : ∀ engine : Engine Core, Owed message plaintext engine.log →
      ReceiptSafe config rest (fun _ after => AllDisplayed after.log) engine) :
    ReceiptSafe config (do saveState stateBytes; sendAckFrame message.messageId; rest)
      (fun _ after => AllDisplayed after.log) engine := by
  have saved : Owed message plaintext (engine.save stateBytes).log := by
    unfold Engine.save
    split
    · exact owed
    · exact owed.quiet rfl
  apply saveState_bind
  · rintro some world rfl -
    have empty : plaintext = [] := Classical.byContradiction fun content => some (unsaved content)
    rw [empty] at owed
    exact owed.1.nothing
  have acknowledged : ReceiptSafe config (sendAckFrame message.messageId)
      (fun _ after => Owed message plaintext after.log) (engine.save stateBytes) := by
    unfold sendAckFrame
    refine systemTime_bind (fun _ => trivial) fun timestamp => streamRead_bind (fun _ => trivial) ?_
    split
    · refine sendFrame_bind ?_ fun value accepted => Owned.safe_done (saved.quiet rfl)
      rintro world same
      rw [← same] at saved
      by_cases empty : plaintext = []
      · subst empty
        exact .inl saved.1.nothing
      · exact .inr ⟨plaintext, saved.2, empty⟩
    · exact Owned.safe_done saved
  exact acknowledged.andThen fun _ engine owed => later engine owed

omit [Prost] in
/-- Taking up a message displays nothing and opens nothing. -/
theorem handling_receipt {log : List Event} (path : ReceivePath) (message : IncomingMessage)
    (now : AllDisplayed log) : AllDisplayed (log ++ [.handling path message]) ∧
      beingReceived (log ++ [.handling path message]) = some message :=
  ⟨now.quiet rfl, beingReceived_handling log path message⟩

omit [Prost] in
/-- The display pays the debt. -/
theorem display_receipt {message : IncomingMessage} {plaintext : Bytes} {engine : Engine Core}
    (owed : Owed message plaintext engine.log) :
    ReceiptSafe config (onAction (.displayMessage message.messageId plaintext message.senderId
      message.conversationId message.timestamp)) (fun _ after => AllDisplayed after.log) engine :=
  action_done (fun _ _ => trivial) owed.1.shown

/-- The save and the acknowledgement come before the display, so neither may succeed. -/
theorem handleDecryptMessage_receipt (message : IncomingMessage) {engine : Engine Core}
    (now : AllDisplayed engine.log) :
    ReceiptSafe config (handleDecryptMessage message) (fun _ after => AllDisplayed after.log)
      engine := by
  unfold handleDecryptMessage
  apply handling_bind (fun _ => trivial)
  obtain ⟨now, taken⟩ := handling_receipt .decryptMessage message now
  refine section_bind (fun _ => trivial) fun world choice same kept => ?_
  change AllDisplayed (engine.record _).log at now
  change beingReceived (engine.record _).log = _ at taken
  rw [← same] at now taken ⊢
  cases stored : world.engine.core with
  | none => exact Owned.safe_done (now.calls nofun)
  | some core =>
  rcases CoreSection.decryptAndExport_run message.senderId message.wirePayload core with
    ⟨text, after, calls, ran, silent⟩ | ⟨plaintext, after, calls, exported⟩
  · rw [ran]
    exact Owned.safe_done (now.calls silent)
  rw [exported.ran]
  exact sendAckFrame_receipt (owed_of_section exported now taken)
    (nothing_saved exported rfl kept.1 stored) fun _ owed => display_receipt owed

/-- Fetching a bundle displays nothing, and the current message stays the same. -/
theorem fetchBundle_receipt {userId noBundle : String} {message : IncomingMessage}
    {engine : Engine Core} (shown : AllDisplayed engine.log ∧ beingReceived engine.log = some message) :
    ReceiptSafe config (fetchBundle userId noBundle)
      (fun _ after => AllDisplayed after.log ∧ beingReceived after.log = some message) engine := by
  refine made_log (fun log => AllDisplayed log ∧ beingReceived log = some message) ?_
    (fun op _ _ shown => receiptGuard_of_displayed op shown.1) (made_fetchBundle userId noBundle) shown
  rintro log event ordinary ⟨now, taken⟩
  exact ⟨now.quiet (opened_quiet ordinary.2.2.1), (beingReceived_quiet ordinary.2.2.1).trans taken⟩

/-- Again the save and the acknowledgement come before the display. -/
theorem handleSessionInitResponder_receipt (message : IncomingMessage) {engine : Engine Core}
    (now : AllDisplayed engine.log) :
    ReceiptSafe config (handleSessionInitResponder message) (fun _ after => AllDisplayed after.log)
      engine := by
  unfold handleSessionInitResponder
  apply handling_bind (fun _ => trivial)
  refine (fetchBundle_receipt (handling_receipt .sessionInitResponder message now)).andThen
    fun fetched engine shown => ?_
  obtain ⟨now, taken⟩ := shown
  rcases fetched with text | ⟨bundle, verifyingKey⟩
  · exact action_receipt rfl now
  dsimp only
  split
  · exact action_receipt rfl now
  refine section_bind (fun _ => trivial) fun world choice same kept => ?_
  subst same
  cases stored : world.engine.core with
  | none => exact made_receipt (made_healing (by decide) message _) (now.calls nofun)
  | some core =>
  rcases CoreSection.receiveAndExport_run message.senderId (x3dhBundle bundle verifyingKey) _ core with
    ⟨text, after, calls, ran, silent⟩ | ⟨plaintext, after, calls, exported⟩
  · rw [ran]
    exact made_receipt (made_healing (by decide) message _) (now.calls silent)
  rw [exported.ran]
  refine section_bind (fun _ => trivial) fun cleared _ _ _ => ?_
  refine sendAckFrame_receipt ((owed_of_section exported now taken).quiet rfl)
    (nothing_saved exported rfl kept.1 stored) fun engine owed => ?_
  apply action_bind (fun _ _ => trivial)
  have still : Owed message plaintext
    (engine.record (.action (.sessionEstablished message.senderId message.messageId))).log :=
    owed.quiet rfl
  split
  · next empty =>
      rw [List.isEmpty_iff.mp empty] at still
      exact Owned.safe_done still.1.nothing
  · exact display_receipt still

omit [Prost] in
/-- The batch section only decrypts. -/
theorem decrypt_run (senderId : String) (wirePayload : Bytes) (core : Core) :
    (∃ text after calls, (CoreSection.decrypt senderId wirePayload).run (some core) =
        (.error text, some after, calls) ∧ ∀ call ∈ calls, call.opened = none) ∨
      ∃ plaintext after call, (CoreSection.decrypt senderId wirePayload).run (some core) =
        (.ok plaintext, some after, [call]) ∧ call.Opens plaintext := by
  cases answered : ConstructCore.decryptBytesFor senderId wirePayload core with
  | mk answer after =>
  rcases answer with message | plaintext
  · refine .inl ⟨s!"decrypt: {message}", after, [.decrypt senderId wirePayload (.error message)], ?_,
      by simp [CoreCall.opened]⟩
    simp only [CoreSection.run, CoreSection.locked, LockedM.decryptBytesFor, answered, LockedM.bind_run,
      LockedM.pure_run]
    rfl
  · refine .inr ⟨plaintext, after, .decrypt senderId wirePayload (.ok plaintext), ?_, rfl⟩
    simp only [CoreSection.run, CoreSection.locked, LockedM.decryptBytesFor, answered, LockedM.bind_run,
      LockedM.pure_run]
    rfl

/-- A batch displays each message right after it is opened. -/
theorem handlePendingMessage_receipt (totals : Nat × Bool) (msg : PendingMessage)
    {engine : Engine Core} (now : AllDisplayed engine.log) :
    ReceiptSafe config (handlePendingMessage totals msg) (fun _ after => AllDisplayed after.log)
      engine := by
  unfold handlePendingMessage
  dsimp only
  split
  · exact Owned.safe_done now
  split
  · exact Owned.safe_done now
  split
  · exact Owned.safe_done now
  split
  · exact (handleSessionInitResponder_receipt _ now).andThen fun _ engine now => Owned.safe_done now
  apply handling_bind (fun _ => trivial)
  obtain ⟨now, taken⟩ := handling_receipt .backgroundPush
    ⟨msg.senderId, msg.encryptedPayload, msg.messageId, msg.senderId, msg.timestamp⟩ now
  refine section_bind (fun _ => trivial) fun world choice same _ => ?_
  change AllDisplayed (engine.record _).log at now
  change beingReceived (engine.record _).log = _ at taken
  rw [← same] at now taken ⊢
  cases stored : world.engine.core with
  | none => exact Owned.safe_done (now.calls nofun)
  | some core =>
  rcases decrypt_run msg.senderId msg.encryptedPayload core with
    ⟨text, after, calls, ran, silent⟩ | ⟨plaintext, after, call, ran, opens⟩
  · rw [ran]
    exact Owned.safe_done (now.calls silent)
  rw [ran]
  have owed : Owed
      ⟨msg.senderId, msg.encryptedPayload, msg.messageId, msg.senderId, msg.timestamp⟩ plaintext
      (({ world.engine with core := some after }).recordCalls [call]).log :=
    owed_of_call now taken opens
  refine (display_receipt owed).andThen fun _ engine now => ?_
  exact (action_receipt rfl now).andThen fun _ engine now => Owned.safe_done now

omit [Prost] in
/-- The environment displays and opens nothing. -/
theorem receipt_stable :
    Stable (receiptPromise Core config) fun world => AllDisplayed world.engine.log :=
  (engineOwned Core config).stable fun engine => AllDisplayed engine.log

/-- The program begins and ends with every message displayed. -/
abbrev KeepsReceipt {A : Type} (config : EngineConfig) (program : EngineM Core A) : Prop :=
  Keeps (receiptPromise Core config) (receiptGuard Core config)
    (fun world => AllDisplayed world.engine.log) program

omit [Prost] in
/-- What is safe from every engine keeps every message displayed. -/
theorem keeps_receipt {A : Type} {program : EngineM Core A}
    (safe : ∀ engine : Engine Core, AllDisplayed engine.log →
      ReceiptSafe config program (fun _ after => AllDisplayed after.log) engine) :
    KeepsReceipt config program := fun world now => safe world.engine now world rfl

/-- Only handlers open messages, and each of them pays its debt. -/
theorem eventLoop_receipt : KeepsReceipt config (eventLoop config : EngineM Core Unit) := by
  have made {A : Type} {program : EngineM Core A} (made : Made (· ≠ .receive) program) :
      KeepsReceipt config program := keeps_receipt fun _ => made_receipt made
  apply eventLoop_messages receipt_stable
  · intro A program ordinary
    exact made (ordinary.mono fun single piece => piece.mono fun kind ordinary => ordinary.2.2.1)
  · exact keeps_receipt fun _ => uses_receipt (uses_ensureConnected
      (fun _ kind => by rw [kind]; decide) fun _ kind => by rw [kind]; decide)
  · exact fun op kind => made (made_op op (by rw [kind]; decide))
  · exact fun contactId plaintext localId conversationId level =>
      made (made_handleSendMessage (by decide) (by decide) _ _ _ _ _)
  · exact fun contactId => made (made_handleInitSessionInitiator (by decide) (by decide) _)
  · exact fun message => keeps_receipt fun _ => handleSessionInitResponder_receipt message
  · exact fun message => keeps_receipt fun _ => handleDecryptMessage_receipt message
  · exact fun totals msg => keeps_receipt fun _ => handlePendingMessage_receipt totals msg

omit [Prost] in
/-- A guarded operation extends the trace under the law. -/
theorem receiptLaw_kept {A : Type} (op : Op Core A) (choice : Choice) (world : World Core)
    (value : A) (after : World Core) (guarded : receiptGuard Core config op world)
    (lawful : AtEach ReceiptLaw world.engine.log)
    (kept : (receiptPromise Core config).answers op choice world)
    (answered : exec config op choice world = some (value, after)) :
    AtEach ReceiptLaw after.engine.log := by
  obtain ⟨more, grown, records⟩ := exec_records answered
  have every (law : ∀ before event, op.Records event → ReceiptLaw before event) :
      AtEach ReceiptLaw after.engine.log := by
    rw [grown]
    refine atEach_append lawful fun before event rest shape => law _ event (records event ?_)
    rw [shape]
    simp
  have background (before : List Event) (event : Event) (silent : event.isBackground = true) :
      ReceiptLaw before event := by
    cases event <;> trivial
  cases op with
  | sendFrame site handle frame =>
      obtain ⟨accepted, recorded, opens⟩ := exec_sendFrame answered
      rw [recorded]
      refine atEach_snoc.mpr ⟨lawful, ?_⟩
      cases site with
      | sendAckFrame =>
          cases accepted with
          | false => trivial
          | true =>
              rcases guarded with now | ⟨plaintext, last, some⟩
              · exact now
              · have closed := kept.2 handle rfl plaintext last some
                exact absurd (closed.symm.trans (opens rfl)) (by decide)
      | _ => trivial
  | onAction action =>
      cases answered
      refine atEach_snoc.mpr ⟨lawful, ?_⟩
      cases action with
      | saveKeychain key data => exact guarded
      | _ => trivial
  | core region => exact every fun before event ⟨call, shape, _⟩ => by rw [shape]; trivial
  | handling path message => exact every fun before event shape => by cases shape; trivial
  | _ => exact every background

/-- In these runs a crash at any point loses no message. -/
theorem receipt_crashSafe {engine : Engine Core} (created : Engine.new config = .ok engine)
    {world : World Core} {later : EngineM Core Unit}
    (reached : Reaches (receiptPromise Core config) (startWorld engine, eventLoop config)
      (world, later)) {trace : List Event} (crashed : trace <+: world.engine.log) :
    CrashSafe trace := by
  obtain ⟨core, rfl⟩ := Engine.new_fresh created
  have nothing : AllDisplayed (Engine.fresh config core).log := by
    rintro message plaintext - ⟨front, call, later, shape, -⟩
    simp [Engine.fresh] at shape
  have keeps : KeepsReceipt config (eventLoop config : EngineM Core Unit) := eventLoop_receipt
  have safe := keeps (startWorld (Engine.fresh config core)) nothing
  have lawful : AtEach ReceiptLaw world.engine.log := by
    refine safe.invariant (fun world => AtEach ReceiptLaw world.engine.log) ?_ ?_
      (atEach_nil ReceiptLaw) reached
    · exact (engineOwned Core config).stable fun engine => AtEach ReceiptLaw engine.log
    · exact fun op choice world value after guarded lawful kept answered =>
        receiptLaw_kept op choice world value after guarded lawful kept answered
  obtain ⟨more, shape⟩ := crashed
  rw [← shape] at lawful
  exact crashSafe_of_lawful lawful.of_append

end

/-- A message is displayed. -/
def Event.displays : Event → Bool
  | .action (.displayMessage ..) => true
  | _ => false

/-- This is the state that the event exports. -/
def Event.exported : Event → Option Bytes
  | .core (.exportState (.ok stateBytes)) => some stateBytes
  | _ => none

/-- This is the state that the event hands to the platform. -/
def Event.savedState : Event → Option Bytes
  | .action (.saveKeychain key data) => if key = "orchestrator_state" then some data else none
  | _ => none

/-- Only a call of the core opens a message. -/
theorem eq_core_of_opened {event : Event} {plaintext : Bytes} (opens : event.opened = some plaintext) :
    ∃ call, event = .core call ∧ call.Opens plaintext := by
  cases event with
  | core call => exact ⟨call, rfl, opens⟩
  | _ => cases opens

/-- Only an export that succeeds exports a state. -/
theorem eq_export_of_exported {event : Event} {stateBytes : Bytes}
    (exports : event.exported = some stateBytes) : event = .core (.exportState (.ok stateBytes)) := by
  unfold Event.exported at exports
  split at exports
  · cases exports; rfl
  · cases exports

/-- Only a save under the key of the orchestrator saves a state. -/
theorem eq_save_of_savedState {event : Event} {stateBytes : Bytes}
    (saves : event.savedState = some stateBytes) :
    event = .action (.saveKeychain "orchestrator_state" stateBytes) := by
  unfold Event.savedState at saves
  split at saves
  · next key data =>
      split at saves
      · next same => cases saves; rw [same]
      · cases saves
  · cases saves

/-- A trace splits at the position of an event. -/
theorem split_at {log : List Event} {position : Nat} {event : Event}
    (found : log[position]? = some event) :
    log = log.take position ++ event :: log.drop (position + 1) := by
  obtain ⟨inside, same⟩ := List.getElem?_eq_some_iff.mp found
  rw [← same, ← List.drop_eq_getElem_cons inside, List.take_append_drop]

/-- Three positions of a trace show that a state was saved after a message was opened. -/
theorem savedAfter_at {log : List Event} (opened exported saved : Nat) {message : IncomingMessage}
    {plaintext : Bytes} (stateBytes : Bytes) (taken : beingReceived (log.take opened) = some message)
    (opens : ((log.take exported)[opened]?).bind Event.opened = some plaintext)
    (exports : ((log.take saved)[exported]?).bind Event.exported = some stateBytes)
    (saves : (log[saved]?).bind Event.savedState = some stateBytes) (first : opened ≤ exported)
    (second : exported ≤ saved) : SavedAfter log message plaintext := by
  obtain ⟨openEvent, openFound, opens⟩ := Option.bind_eq_some_iff.mp opens
  obtain ⟨exportEvent, exportFound, exports⟩ := Option.bind_eq_some_iff.mp exports
  obtain ⟨saveEvent, saveFound, saves⟩ := Option.bind_eq_some_iff.mp saves
  obtain ⟨call, rfl, opens⟩ := eq_core_of_opened opens
  cases eq_export_of_exported exports
  cases eq_save_of_savedState saves
  have inner := split_at openFound
  have middle := split_at exportFound
  have outer := split_at saveFound
  rw [List.take_take, Nat.min_eq_left second] at middle
  rw [List.take_take, Nat.min_eq_left first] at inner
  exact ⟨log.take exported, stateBytes, _, _, outer.trans (congrArg (· ++ _) middle),
    log.take opened, call, _, inner, taken, opens⟩

/-- The platform asks for the pending messages, and every answer of the server carries this
payload of two bytes. -/
def pendingBatch (payload : Bytes) (answers : Nat) :
    List (rehearsalMachine (rehearsalConfig [1, 5] none)).Input :=
  rehearsal (rehearsalConfig [1, 5] none) [.backgroundPush none] (List.replicate answers
    { http := {
        recvResponse := .ok (⟨200, "200 OK"⟩, [])
        recvData := [[0, 0, 0, 0, 2], payload] } }) []

/-- The first message of a session has content, and a crash after the save loses it. -/
theorem receipt_crashSafe_fails :
    ¬ ∀ world later, Reaches (Promise.any (rehearsalMachine (rehearsalConfig [1, 5] none)))
      (rehearsalStart (rehearsalConfig [1, 5] none) (some ⟨[5], []⟩)) (world, later) →
      ∀ trace, trace <+: world.engine.log → CrashSafe trace := by
  intro safe
  have saved : SavedAfter (rehearsed (rehearsalConfig [1, 5] none) (some ⟨[5], []⟩)
      (pendingBatch [0, 65] 28)).1.engine.log ⟨"alice", [0, 65], "m1", "alice", 0⟩ [65] := by
    refine savedAfter_at 5 6 8 [7] ?_ ?_ ?_ ?_ (by decide) (by decide) <;> decide +kernel
  have claimed := safe _ _ (rehearsed_any _ _ _) _ List.prefix_rfl _ _ (by decide) (.inr saved)
  have shown := List.any_eq_true.mpr ⟨_, claimed, (rfl : Event.displays _ = true)⟩
  exact absurd shown (by decide +kernel)

/-- The next message of a session is displayed before the batch is saved. -/
theorem receipt_crashSafe_batch :
    (rehearsed (rehearsalConfig [1, 5] none) (some ⟨[5], []⟩)
      (pendingBatch [5, 65] 29)).1.engine.log.any Event.displays = true ∧
    CrashSafe (rehearsed (rehearsalConfig [1, 5] none) (some ⟨[5], []⟩)
      (pendingBatch [5, 65] 29)).1.engine.log :=
  ⟨by decide +kernel, receipt_crashSafe (rehearsal_with_core [5] none)
    (rehearsed_reaches (by decide +kernel)) List.prefix_rfl⟩

end ConstructEngine
