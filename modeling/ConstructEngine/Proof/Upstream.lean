import ConstructEngine.Proof.Envelope
import ConstructEngine.Proof.Outgoing
import ConstructEngine.Proof.Topics

namespace ConstructEngine

open Interaction Program Machine

variable {Core A : Type}

/-- On an open stream the engine sends messages, and receipts for single messages. -/
def MessageStreamRequest.Upstream (request : MessageStreamRequest) : Prop :=
  (∃ envelope localId, request = ⟨some (.send envelope), localId, some localId⟩) ∨
    ∃ messageId timestamp,
      request = ⟨some (.receipt ⟨some (.direct ⟨[messageId], 1, timestamp⟩)⟩), messageId, none⟩

section
variable [Prost]

/-- A request travels as the body of one frame. -/
def requestFrame (request : MessageStreamRequest) : Bytes :=
  encodeGrpcFrame (Prost.encodeToVec .messageStreamRequest request)

/-- A frame for the stream is the frame of a request. -/
def Op.Writes : {A : Type} → Op Core A → Prop
  | _, .sendFrame _ _ frame => ∃ request : MessageStreamRequest, request.Upstream ∧ frame = requestFrame request
  | _, _ => True

/-- Every frame of the program for the stream is the frame of a request. -/
abbrev Writes (program : EngineM Core A) : Prop := program.Uses fun op => op.Writes

/-- Only sending is about the frames. -/
theorem writes_of_topic {op : Op Core A} (other : ∀ site, op.topic ≠ .sending site) : op.Writes := by
  cases op with
  | sendFrame site handle frame => exact absurd rfl (other site)
  | _ => trivial

/-- An operation that engages in other topics writes nothing. -/
theorem writes_engaged {topics : Topic → Prop} (silent : ∀ site, ¬ topics (.sending site)) {op : Op Core A}
    (engages : Engages topics op.topic) : op.Writes := by
  refine writes_of_topic fun site same => ?_
  rw [same] at engages
  rcases engages with basic | basic | basic | own
  · cases basic
  · cases basic
  · cases basic
  · exact silent site own

/-- A program that is not about sending writes nothing. -/
theorem writes_concerns {topics : Topic → Prop} (silent : ∀ site, ¬ topics (.sending site))
    {program : EngineM Core A} (concerns : Concerns topics program) : Writes program :=
  concerns.mono fun _ => writes_engaged silent

theorem writes_plain {program : EngineM Core A} (concerns : Concerns (fun _ => False) program) : Writes program :=
  writes_concerns (fun _ => False.elim) concerns

/-- A receipt is the frame of its request. -/
theorem writes_receipt (site : SendSite) (stream : BiDiStreamHandle) (messageId : String) (timestamp : Int) :
    (Op.sendFrame site stream (deliveryReceipt messageId timestamp) : Op Core _).Writes :=
  ⟨_, .inr ⟨messageId, timestamp, rfl⟩, rfl⟩

/-- An envelope is the frame of its request. -/
theorem writes_message (site : SendSite) (stream : BiDiStreamHandle) (envelope : Envelope) (localId : String) :
    (Op.sendFrame site stream (sendRequestFrame envelope localId) : Op Core _).Writes :=
  ⟨_, .inl ⟨envelope, localId, rfl⟩, rfl⟩

/-- The platform may ask for the receipt of any message. -/
theorem writes_handleAckMessage (messageId : String) :
    Writes (handleAckMessage messageId : EngineM Core Unit) := by
  unfold handleAckMessage
  refine uses_bind (uses_perform trivial) fun timestamp => uses_bind (uses_perform trivial) fun stream => ?_
  cases stream with
  | none => exact uses_pure ()
  | some stream => exact uses_bind (uses_perform (writes_receipt _ _ _ _)) fun _ => uses_pure ()

theorem writes_sendAckFrame (messageId : String) : Writes (sendAckFrame messageId : EngineM Core Unit) := by
  unfold sendAckFrame
  refine uses_bind (uses_perform trivial) fun timestamp => uses_bind (uses_perform trivial) fun stream => ?_
  cases stream with
  | none => exact uses_pure ()
  | some stream => exact uses_bind (uses_perform (writes_receipt _ _ _ _)) fun _ => uses_pure ()

theorem writes_buildEnvelope (contactId localId conversationId : String) (wirePayload : Bytes)
    (level : AnonymityLevel) :
    Writes (buildEnvelope contactId localId conversationId wirePayload level : EngineM Core Envelope) := by
  cases level with
  | normal => exact uses_pure _
  | ghost =>
      exact uses_bind (uses_perform trivial) fun _ => uses_bind (uses_perform trivial) fun _ =>
        uses_bind (uses_perform trivial) fun _ => uses_pure _

/-- A message is sent under its local id. -/
theorem writes_handleSendMessage (contactId : String) (plaintext : Bytes) (localId conversationId : String)
    (level : AnonymityLevel) :
    Writes (handleSendMessage contactId plaintext localId conversationId level : EngineM Core Unit) := by
  unfold handleSendMessage
  refine uses_bind (uses_perform trivial) fun encrypted => ?_
  rcases encrypted with error | ⟨wirePayload, stateBytes⟩
  · exact uses_perform trivial
  refine uses_bind (writes_plain (concerns_saveState _)) fun _ => uses_bind (writes_buildEnvelope _ _ _ _ _)
    fun envelope => uses_bind (uses_perform trivial) fun stream => ?_
  cases stream with
  | none => exact uses_perform trivial
  | some stream =>
      refine uses_bind (uses_perform (writes_message _ _ _ _)) fun accepted => ?_
      rcases accepted with error | ⟨⟩ <;> exact uses_perform trivial

theorem writes_unaryCall (servicePath : String) (request : Bytes) :
    Writes (unaryCall servicePath request : EngineM Core (Except EngineError Bytes)) := by
  have built : Built (· = .rpc servicePath) (anyRequest (· = .rpc servicePath))
      (unaryCall servicePath request : EngineM Core (Except EngineError Bytes)) := built_unaryCall rfl
  exact writes_concerns (fun _ => by simp) built.concerns

theorem writes_fetchBundle (userId noBundle : String) :
    Writes (fetchBundle userId noBundle : EngineM Core (Except String (PreKeyBundle × Bytes))) := by
  have built : Built (· = .rpc keyGetBundle) (anyRequest (· = .rpc keyGetBundle))
      (fetchBundle userId noBundle : EngineM Core _) := built_fetchBundle (fun _ => rfl) _ _
  exact writes_concerns (fun _ => by simp) built.concerns

/-- The first frame of a session has the shape of every other message. -/
theorem writes_handleInitSessionInitiator (contactId : String) :
    Writes (handleInitSessionInitiator contactId : EngineM Core Unit) := by
  unfold handleInitSessionInitiator
  refine uses_bind (writes_fetchBundle _ _) fun fetched => ?_
  rcases fetched with message | ⟨bundle, verifyingKey⟩
  · exact uses_perform trivial
  refine uses_bind (uses_perform trivial) fun initiated => ?_
  rcases initiated with message | ⟨wirePayload, stateBytes⟩
  · exact uses_perform trivial
  refine uses_bind (writes_plain (concerns_saveState _)) fun _ => uses_bind (uses_perform trivial) fun uuid =>
    uses_bind (uses_perform trivial) fun stream => ?_
  cases stream with
  | none => exact uses_perform trivial
  | some stream => exact uses_bind (uses_perform (writes_message _ _ _ _)) fun _ => uses_perform trivial

variable [ConstructCore Core]

/-- The responder sends one receipt at most. -/
theorem writes_handleSessionInitResponder (message : IncomingMessage) :
    Writes (handleSessionInitResponder message : EngineM Core Unit) := by
  unfold handleSessionInitResponder
  refine uses_bind (uses_perform trivial) fun _ => uses_bind (writes_fetchBundle _ _) fun fetched => ?_
  rcases fetched with text | ⟨bundle, verifyingKey⟩
  · exact uses_perform trivial
  dsimp only
  split
  · exact uses_perform trivial
  refine uses_bind (uses_perform trivial) fun received => ?_
  rcases received with error | ⟨plaintext, stateBytes⟩
  · refine uses_bind (uses_perform trivial) fun decision => ?_
    cases decision with
    | retryAllowed attempt retryAfterMs => exact uses_perform trivial
    | maxAttemptsReached => exact uses_bind (uses_perform trivial) fun _ => uses_perform trivial
    | notFound => exact uses_bind (uses_perform trivial) fun _ => uses_perform trivial
  · refine uses_bind (uses_perform trivial) fun _ => uses_bind (writes_plain (concerns_saveState _)) fun _ =>
      uses_bind (writes_sendAckFrame _) fun _ => uses_bind (uses_perform trivial) fun _ => ?_
    split
    · exact uses_pure ()
    · exact uses_perform trivial

omit [ConstructCore Core] in
theorem writes_handleDecryptMessage (message : IncomingMessage) :
    Writes (handleDecryptMessage message : EngineM Core Unit) := by
  unfold handleDecryptMessage
  refine uses_bind (uses_perform trivial) fun _ => uses_bind (uses_perform trivial) fun received => ?_
  rcases received with error | ⟨plaintext, stateBytes⟩
  · exact uses_pure ()
  · exact uses_bind (writes_plain (concerns_saveState _)) fun _ =>
      uses_bind (writes_sendAckFrame _) fun _ => uses_perform trivial

/-- A pending message is acknowledged on the path of the responder only. -/
theorem writes_handlePendingMessage (totals : Nat × Bool) (msg : PendingMessage) :
    Writes (handlePendingMessage totals msg : EngineM Core (Nat × Bool)) := by
  unfold handlePendingMessage
  dsimp only
  split
  · exact uses_pure _
  split
  · exact uses_pure _
  split
  · exact uses_pure _
  split
  · exact uses_bind (writes_handleSessionInitResponder _) fun _ => uses_pure _
  refine uses_bind (uses_perform trivial) fun _ => uses_bind (uses_perform trivial) fun received => ?_
  rcases received with error | plaintext
  · exact uses_pure _
  · exact uses_bind (uses_perform trivial) fun _ => uses_bind (uses_perform trivial) fun _ => uses_pure _

/-- A background fetch sends nothing but receipts. -/
theorem writes_handleBackgroundPush (sinceCursor : Option String) :
    Writes (handleBackgroundPush sinceCursor : EngineM Core Unit) := by
  unfold handleBackgroundPush
  refine uses_bind (uses_iterate (fun progress => ?page) _) fun totals =>
    uses_bind (uses_perform trivial) fun exported => uses_bind ?_ fun _ => uses_perform trivial
  case page =>
    unfold backgroundPage
    refine uses_bind (writes_unaryCall _ _) fun answer => ?_
    rcases answer with error | bytes
    · exact uses_pure _
    dsimp only
    split
    · exact uses_pure _
    refine uses_bind (Composed.uses (.foldlM (fun totals msg => .piece (writes_handlePendingMessage totals msg)) _)
      fun _ writes => writes) fun totals => ?_
    split <;> exact uses_pure _
  · exact Composed.uses (.option fun stateBytes => .piece (writes_plain (concerns_saveState stateBytes)))
      fun _ writes => writes

theorem writes_handleIncomingEnvelope (envelope : Envelope) :
    Writes (handleIncomingEnvelope envelope : EngineM Core Unit) := by
  have named (id : Option MessageIdType) : Writes (messageIdOf id : EngineM Core String) :=
    writes_plain (built_messageIdOf id : Built _ (anyRequest _) _).concerns
  unfold handleIncomingEnvelope
  dsimp only
  split
  · exact uses_pure ()
  split
  · exact uses_pure ()
  refine uses_bind (named _) fun messageId => ?_
  split
  · exact uses_pure ()
  split
  · exact writes_handleSessionInitResponder _
  · exact writes_handleDecryptMessage _

/-- An incoming frame is answered with a receipt at most. -/
theorem writes_handleIncomingFrame (frame : Bytes) :
    Writes (handleIncomingFrame frame : EngineM Core Unit) := by
  unfold handleIncomingFrame
  split
  · exact uses_pure ()
  split
  · exact uses_pure ()
  refine uses_bind (Composed.uses (.option fun cursor => .piece (uses_perform trivial)) fun _ writes => writes)
    fun _ => ?_
  split
  · exact writes_handleIncomingEnvelope _
  · exact Composed.uses (.forM fun id => .piece (uses_perform trivial)) fun _ writes => writes
  · exact uses_pure ()

/-- Every handler sends only requests. -/
theorem writes_handleEvent (config : EngineConfig) (event : UiEvent) :
    Writes (handleEvent config event : EngineM Core Unit) := by
  have silent (other : ∀ site, Topic.sending site ∉ event.topics) :
      Writes (handleEvent config event : EngineM Core Unit) :=
    writes_concerns other (built_handleEvent config event fun _ listed => listed).concerns
  cases event with
  | sendMessage => exact writes_handleSendMessage _ _ _ _ _
  | ackMessage => exact writes_handleAckMessage _
  | initSessionInitiator => exact writes_handleInitSessionInitiator _
  | backgroundPush => exact writes_handleBackgroundPush _
  | _ => exact silent fun site => by simp [UiEvent.topics, keyCountTopics, loginTopics]

theorem eventLoopTurn_writes (config : EngineConfig) (refreshArmed : Bool) :
    Writes (eventLoopTurn config refreshArmed : EngineM Core (Bool ⊕ Unit)) := by
  unfold eventLoopTurn
  refine uses_bind ?timer fun armed => uses_bind (uses_perform trivial) fun branch => ?_
  case timer =>
    unfold updateRefreshTimer
    refine uses_bind (uses_perform trivial) fun changed => ?_
    match changed with
    | none => exact uses_pure _
    | some none => exact uses_pure _
    | some (some state) =>
        exact uses_bind (uses_perform trivial) fun now => uses_bind (uses_perform trivial) fun _ => uses_pure _
  cases branch with
  | refresh =>
      refine uses_bind (uses_perform trivial) fun due => uses_bind ?_ fun _ => uses_pure _
      exact Composed.uses (.option fun state => .piece
        (writes_handleEvent config (.refreshToken state.refreshToken))) fun _ writes => writes
  | changed =>
      refine uses_bind ?_ fun _ => uses_pure _
      unfold handleConnectedChange
      refine uses_bind (uses_perform trivial) fun connected => ?_
      split
      · exact uses_pure ()
      · refine uses_bind (uses_perform trivial) fun _ => ?_
        exact writes_concerns (fun _ => by simp) concerns_reconnect
  | event event =>
      cases event with
      | none => exact uses_pure _
      | some event => exact uses_bind (writes_handleEvent config event) fun _ => uses_pure _
  | frame frame => exact uses_bind (writes_handleIncomingFrame frame) fun _ => uses_pure _
  | tokenChanged => exact uses_pure _

/-- The loop sends only requests, in whatever order its branches run. -/
theorem eventLoop_writes (config : EngineConfig) : Writes (eventLoop config : EngineM Core Unit) := by
  unfold eventLoop
  refine uses_bind (uses_perform trivial) fun started => ?_
  rcases started with error | ⟨⟩
  · exact uses_bind (uses_perform trivial) fun _ => uses_perform trivial
  · exact uses_bind (writes_plain concerns_ensureConnected) fun _ => uses_bind (uses_perform trivial) fun _ =>
      uses_bind (uses_iterate (eventLoopTurn_writes config) false) fun _ => uses_perform trivial

end

/-- The pump wrote the accepted frames from the first one on. Until it ends, all others are in flight or
wait in its queue. -/
structure Pump.Follows (pump : Pump) (accepted : List Bytes) : Prop where
  written : pump.written <+: accepted
  waiting : pump.isEnded = false → accepted = pump.written ++ pump.unwritten

/-- A running pump follows the frames that it wrote and those that are still to write. -/
theorem Pump.follows_of_waiting {pump : Pump} {accepted : List Bytes}
    (waiting : accepted = pump.written ++ pump.unwritten) : pump.Follows accepted :=
  ⟨waiting ▸ List.prefix_append _ _, fun _ => waiting⟩

/-- An ended pump follows every extension of what it wrote. -/
theorem Pump.follows_of_ended {pump : Pump} {accepted : List Bytes} (written : pump.written <+: accepted)
    (ended : pump.isEnded = true) : pump.Follows accepted :=
  ⟨written, fun running => absurd (running.symm.trans ended) nofun⟩

/-- A step moves a frame on its way, or it ends the pump. -/
theorem Pump.step_follows {pump after : Pump} {input : PumpInput} {frames accepted : List Bytes}
    (stepped : pump.step input = some (after, frames)) (follows : pump.Follows accepted) :
    after.Follows accepted := by
  have waiting : accepted = pump.written ++ pump.unwritten := by
    refine follows.waiting ?_
    cases location : pump.location with
    | ended reason => simp [step, location] at stepped
    | _ => simp [isEnded, location]
  have written := follows.written
  unfold step at stepped
  split at stepped
  · cases stepped
  · split at stepped <;> cases stepped
    exact follows_of_ended written rfl
  next located =>
    split at stepped
    · next frame rest queued =>
        cases stepped
        exact follows_of_waiting (by simpa [unwritten, inFlight, located, queued] using waiting)
    · cases stepped
  next frame located =>
    cases stepped
    exact follows_of_waiting (by simpa [unwritten, inFlight, located] using waiting)
  · cases stepped
    exact follows_of_ended written rfl
  next located =>
    rw [unwritten_queued (by simp [located])] at waiting
    split at stepped
    · split at stepped <;> cases stepped
      · exact follows_of_ended written rfl
      · exact follows_of_waiting waiting
    · cases stepped
  next located =>
    rw [unwritten_queued (by simp [located])] at waiting
    cases stepped
    exact follows_of_waiting waiting
  · cases stepped
    exact follows_of_ended written rfl
  · cases stepped
    exact follows_of_ended written rfl
  next located =>
    rw [unwritten_queued (by simp [located])] at waiting
    cases stepped
    exact follows_of_waiting waiting
  · cases stepped

/-- No frame was accepted for a pump that does not exist. -/
def FollowsAt (accepted : List Bytes) : Option Pump → Prop
  | some pump => pump.Follows accepted
  | none => accepted = []

/-- Every pump of this world follows what its queue accepted. -/
def Followed (world : World Core) : Prop :=
  ∀ number, FollowsAt (acceptedBy number world.engine.log) world.net.pumps[number]?

theorem follows_update {net : Net} {number target : Nat} {pump after : Pump} {accepted : List Bytes}
    (found : net.pumps[target]? = some pump) (same : target = number → after.Follows accepted)
    (now : FollowsAt accepted net.pumps[number]?) :
    FollowsAt accepted (net.updatePump target after).pumps[number]? := by
  by_cases here : target = number
  · subst here
    simp only [Net.updatePump, List.getElem?_set_self (List.getElem?_eq_some_iff.mp found).1]
    exact same rfl
  · simpa only [Net.updatePump, List.getElem?_set_ne here] using now

theorem follows_dropHandle {net : Net} (stream : Option BiDiStreamHandle) {number : Nat}
    {accepted : List Bytes} (now : FollowsAt accepted net.pumps[number]?) :
    FollowsAt accepted (net.dropHandle stream).pumps[number]? := by
  unfold Net.dropHandle
  split
  · exact now
  split
  · exact now
  next pump found =>
    refine follows_update found (fun here => ?_) now
    subst here
    rw [found] at now
    exact ⟨now.written, now.waiting⟩

theorem follows_spawn {pumps : List Pump} {number : Nat} {accepted : List Bytes} (conn : Nat)
    (now : FollowsAt accepted pumps[number]?) :
    FollowsAt accepted (pumps ++ [({ conn } : Pump)])[number]? := by
  rcases Nat.lt_trichotomy number pumps.length with known | rfl | beyond
  · rwa [List.getElem?_append_left known]
  · have nothing : accepted = [] := by simpa [FollowsAt] using now
    subst nothing
    simp only [List.getElem?_append_right (Nat.le_refl _), Nat.sub_self, List.getElem?_cons_zero]
    exact Pump.follows_of_waiting rfl
  · rw [List.getElem?_eq_none (Nat.le_of_lt beyond)] at now
    rw [List.getElem?_eq_none (by simpa using Nat.succ_le_of_lt beyond)]
    exact now

section
variable [ConstructCore Core] {config : EngineConfig}

/-- An accepted frame joins the queue behind all others. -/
theorem sendFrame_followed {site : SendSite} {handle : BiDiStreamHandle} {frame : Bytes}
    {choice : Choice} {world after : World Core} {value : Except EngineError Unit}
    (answered : exec config (.sendFrame site handle frame) choice world = some (value, after))
    (followed : Followed world) : Followed after := by
  intro number
  have now := followed number
  have silent (event : Event) (other : event.acceptedBy number = none) :
      acceptedBy number (world.engine.log ++ [event]) = acceptedBy number world.engine.log :=
    acceptedBy_silent (by simpa using other)
  obtain ⟨-, rfl⟩ | ⟨pump, found, running, -, -, rfl⟩ := sendFrame_effect answered
  · simpa only [Engine.record, silent (.sent site handle frame false) rfl] using now
  by_cases same : handle.pump = number
  · subst same
    rw [found] at now
    have grown : acceptedBy handle.pump (world.engine.log ++ [.sent site handle frame true]) =
        acceptedBy handle.pump world.engine.log ++ [frame] := by
      simp [acceptedBy, Event.acceptedBy]
    simp only [Engine.record, Net.updatePump, grown,
      List.getElem?_set_self (List.getElem?_eq_some_iff.mp found).1]
    exact Pump.follows_of_waiting (by rw [now.waiting running]; simp [Pump.unwritten, Pump.inFlight])
  · have other := silent (.sent site handle frame true) (by simp [Event.acceptedBy, same])
    simpa only [Engine.record, Net.updatePump, other, List.getElem?_set_ne same] using now

/-- Every other operation leaves the written and the waiting frames alone. -/
theorem exec_followed {op : Op Core A} {choice : Choice} {world after : World Core}
    {value : A} (answered : exec config op choice world = some (value, after))
    (followed : Followed world) : Followed after := by
  by_cases sends : op.isSendFrame = true
  · cases op with
    | sendFrame site handle frame => exact sendFrame_followed answered followed
    | _ => cases sends
  intro number
  have now := followed number
  obtain ⟨more, grown, records⟩ := exec_records answered
  rw [grown, acceptedBy_silent fun event member =>
    records_silent (Bool.eq_false_iff.mpr sends) (records event member) _]
  clear grown records
  cases op with
  | sendFrame => exact absurd rfl sends
  | spawnPump conn => cases answered; exact follows_spawn conn now
  | streamWrite stream => cases answered; exact follows_dropHandle _ now
  | _ =>
      rw [(exec_surrounds answered).pumps rfl]
      exact now

/-- The environment moves frames, but it adds none. -/
theorem followed_stable {promise : (engineMachine Core config).Promise} : Stable promise Followed := by
  rintro move world after followed - moved
  obtain ⟨net, done, rfl⟩ := moveWorld_some moved
  intro number
  have now := followed number
  cases move with
  | pump target input =>
      simp only [moveNet, Net.movePump, Option.bind_eq_bind, Option.bind_eq_some_iff,
        Option.pure_def, Option.some.injEq] at done
      obtain ⟨pump, found, ⟨stepped, frames⟩, step, rfl⟩ := done
      refine follows_update found (fun here => ?_) now
      subst here
      rw [found] at now
      have follows := Pump.step_follows step now
      split
      · exact ⟨follows.written, follows.waiting⟩
      · exact follows
  | driverExits conn =>
      simp only [moveNet, Net.driverExits] at done
      split at done <;> cases done
      exact now
  | dispatch event =>
      simp only [moveNet, Net.dispatch, Option.some.injEq] at done
      subst done
      split <;> exact now
  | retryDue index =>
      obtain ⟨frame, rfl⟩ := retryDue_some done
      exact now
  | tick millis => cases done; exact now

variable [Prost]

/-- A frame that was sent is the frame of a request. -/
def Event.Genuine : Event → Prop
  | .sent _ _ bytes _ => ∃ request : MessageStreamRequest, request.Upstream ∧ bytes = requestFrame request
  | _ => True

omit [ConstructCore Core] in
/-- A program that writes requests leaves genuine events in the trace. -/
theorem records_genuine {op : Op Core A} (writes : op.Writes) {event : Event} (records : op.Records event) :
    event.Genuine := by
  cases op with
  | sendFrame site handle frame =>
      obtain ⟨accepted, rfl⟩ := records
      exact writes
  | onAction action => cases records; trivial
  | handling path message => cases records; trivial
  | core region => obtain ⟨call, rfl, -⟩ := records; trivial
  | _ => cases event <;> trivial

/-- In every run, only frames of requests are sent. -/
theorem sent_genuine {world after : World Core} {later : EngineM Core Unit} (silent : world.engine.log = [])
    (reached : Reaches (Promise.any (engineMachine Core config)) (world, eventLoop config) (after, later)) :
    ∀ event ∈ after.engine.log, event.Genuine := by
  have stable : Stable (Promise.any (engineMachine Core config))
      fun world : World Core => ∀ event ∈ world.engine.log, event.Genuine :=
    (engineOwned Core config).stable fun engine => ∀ event ∈ engine.log, event.Genuine
  have kept {B : Type} (op : Op Core B) choice world value after (writes : op.Writes)
      (each : ∀ event ∈ world.engine.log, event.Genuine)
      (answered : exec config op choice world = some (value, after)) :
      ∀ event ∈ after.engine.log, event.Genuine := by
    obtain ⟨more, grown, records⟩ := exec_records answered
    intro event member
    rw [grown] at member
    rcases List.mem_append.mp member with earlier | added
    · exact each event earlier
    · exact records_genuine writes (records event added)
  have holds : Holds (Promise.any (engineMachine Core config)) (fun op _ => op.Writes) (eventLoop config)
      (fun _ world => ∀ event ∈ world.engine.log, event.Genuine) world :=
    holds_of_uses _ stable (fun op world writes _ => writes)
      (fun op choice world value after writes each _ answered =>
        kept op choice world value after writes each answered) (eventLoop_writes config) (by simp [silent])
  exact holds.invariant _ stable (fun op choice world value after writes each _ answered =>
    kept op choice world value after writes each answered) (by simp [silent]) reached

omit [ConstructCore Core] in
/-- The accepted frames of a pump are the frames of a list of requests. -/
theorem acceptedBy_requests {log : List Event} (genuine : ∀ event ∈ log, event.Genuine) (number : Nat) :
    ∃ requests : List MessageStreamRequest, (∀ request ∈ requests, request.Upstream) ∧
      acceptedBy number log = requests.map requestFrame := by
  induction log with
  | nil => exact ⟨[], nofun, rfl⟩
  | cons event rest inductionHypothesis =>
      obtain ⟨requests, upstream, same⟩ :=
        inductionHypothesis fun event member => genuine event (List.mem_cons_of_mem _ member)
      cases accepted : event.acceptedBy number with
      | none => exact ⟨requests, upstream, by rw [acceptedBy, List.filterMap_cons_none accepted]; exact same⟩
      | some frame =>
          have own : ∃ request : MessageStreamRequest, request.Upstream ∧ frame = requestFrame request := by
            have known := genuine event (List.mem_cons_self ..)
            cases event with
            | sent site handle bytes taken =>
                cases taken <;> simp [Event.acceptedBy] at accepted
                rw [← accepted.2]
                exact known
            | _ => cases accepted
          obtain ⟨request, kind, rfl⟩ := own
          refine ⟨request :: requests, ?_, ?_⟩
          · intro other member
            rcases List.mem_cons.mp member with rfl | later
            · exact kind
            · exact upstream other later
          · rw [acceptedBy, List.filterMap_cons_some accepted, List.map_cons]
            exact congrArg _ same

/-- The server cuts the frame and decodes its body. -/
def readRequest (frame : Bytes) : Except String MessageStreamRequest := do
  let (message, _) ← (decodeGrpcFrame frame).mapError toString
  Prost.decode .messageStreamRequest message

/-- A server cuts the bytes of a stream as the engine cuts its own, and decodes each frame. -/
def readRequests (bytes : Bytes) : List (Except String MessageStreamRequest) × Bytes :=
  ((drainFrames bytes).1.map readRequest, (drainFrames bytes).2)

omit [ConstructCore Core] [Prost] in
/-- The decoder of the engine cuts the frames of short messages apart again. -/
theorem drainFrames_encoded {messages : List Bytes} (short : ∀ message ∈ messages, message.length < 2 ^ 32) :
    drainFrames (messages.map encodeGrpcFrame).flatten = (messages.map encodeGrpcFrame, []) := by
  have whole : ∀ frame ∈ messages.map encodeGrpcFrame, grpcCutter.size frame = some frame.length := by
    intro frame member
    obtain ⟨message, known, rfl⟩ := List.mem_map.mp member
    exact frameSize_encode (short message known)
  have cut := Subsingleton.elim (drained (messages.map encodeGrpcFrame).flatten) (.ofFrames _ rfl whole)
  exact Prod.ext (congrArg Cutter.Cutting.frames cut) (congrArg Cutter.Cutting.rest cut)

omit [ConstructCore Core] in
/-- The server reads back the request that was framed. -/
theorem readRequest_frame {request : MessageStreamRequest} (codec : RoundTrips .messageStreamRequest request)
    (short : (Prost.encodeToVec .messageStreamRequest request).length < 2 ^ 32) :
    readRequest (requestFrame request) = .ok request := by
  have decoded : decodeGrpcFrame (requestFrame request) =
      .ok (Prost.encodeToVec .messageStreamRequest request, []) := by
    unfold requestFrame
    rw [← decode_encode short [], List.append_nil]
  unfold readRequest
  rw [decoded]
  exact codec

omit [ConstructCore Core] in
/-- The server reads a stream of requests back. -/
theorem readRequests_frames (codec : ∀ request : MessageStreamRequest, RoundTrips .messageStreamRequest request)
    {requests : List MessageStreamRequest} (short : ∀ request ∈ requests,
      (Prost.encodeToVec .messageStreamRequest request).length < 2 ^ 32) :
    readRequests (requests.map requestFrame).flatten = (requests.map .ok, []) := by
  have framed : requests.map requestFrame =
      (requests.map (Prost.encodeToVec .messageStreamRequest)).map encodeGrpcFrame := by
    rw [List.map_map]
    rfl
  have cut : drainFrames (requests.map requestFrame).flatten = (requests.map requestFrame, []) := by
    rw [framed]
    refine drainFrames_encoded fun message member => ?_
    obtain ⟨request, known, rfl⟩ := List.mem_map.mp member
    exact short request known
  have read : (requests.map requestFrame).map readRequest = requests.map .ok := by
    clear framed cut
    induction requests with
    | nil => rfl
    | cons request rest inductionHypothesis =>
        have first := readRequest_frame (codec request) (short request (List.mem_cons_self ..))
        have others := inductionHypothesis fun other member => short other (List.mem_cons_of_mem _ member)
        simp only [List.map_cons, first, others]
  unfold readRequests
  rw [cut, read]

/-- In every run and for every stream, a server that reads what the pump wrote with the engine's own
decoder gets messages and receipts, which are the first requests that the stream accepted, and nothing
is left over. Until the pump ends, the later requests are in flight or wait in its queue. -/
theorem requests_conveyed (codec : ∀ request : MessageStreamRequest, RoundTrips .messageStreamRequest request)
    {engine : Engine Core} (created : Engine.new config = .ok engine)
    {world : World Core} {later : EngineM Core Unit}
    (reached : Reaches (Promise.any (engineMachine Core config)) (startWorld engine, eventLoop config)
      (world, later)) (number : Nat) (pump : Pump) (found : world.net.pumps[number]? = some pump)
    (short : ∀ frame ∈ pump.written, frame.length < 2 ^ 32 + 5) :
    ∃ requests : List MessageStreamRequest, (∀ request ∈ requests, request.Upstream) ∧
      acceptedBy number world.engine.log = requests.map requestFrame ∧
      readRequests pump.written.flatten = ((requests.take pump.written.length).map .ok, []) ∧
      (pump.isEnded = false →
        pump.inFlight ++ pump.outgoing = (requests.drop pump.written.length).map requestFrame) := by
  obtain ⟨core, rfl⟩ := Engine.new_fresh created
  have follows : pump.Follows (acceptedBy number world.engine.log) := by
    have followed : Followed world := reaches_invariant Followed followed_stable
      (fun op choice world value after now _ answered => exec_followed answered now)
      (fun number => (rfl : acceptedBy number [] = [])) reached
    have now := followed number
    rwa [found] at now
  obtain ⟨requests, upstream, same⟩ := acceptedBy_requests (sent_genuine rfl reached) number
  have written : pump.written = (requests.take pump.written.length).map requestFrame := by
    rw [List.map_take, ← same]
    exact List.prefix_iff_eq_take.mp follows.written
  have bounded : ∀ request ∈ requests.take pump.written.length,
      (Prost.encodeToVec .messageStreamRequest request).length < 2 ^ 32 := by
    intro request member
    have frame := short (requestFrame request) (written ▸ List.mem_map_of_mem member)
    have size : (requestFrame request).length =
        (Prost.encodeToVec .messageStreamRequest request).length + 5 := by
      simp [requestFrame, encodeGrpcFrame, putU32]
    omega
  refine ⟨requests, upstream, same, ?_, fun running => ?_⟩
  · have read := readRequests_frames codec bounded
    rwa [← written] at read
  · have whole := follows.waiting running
    rw [List.map_drop, ← same, whole, List.drop_left]
    rfl

end

section
attribute [local instance] loopback

/-- This is where a rehearsal with this codec ends. -/
def looped (inputs : List (rehearsalMachine (rehearsalConfig [1] none)).Input) :
    (rehearsalMachine (rehearsalConfig [1] none)).Configuration Unit :=
  run (startWorld (Engine.fresh (rehearsalConfig [1] none) (some (⟨[], []⟩ : RehearsalCore))),
    eventLoop (rehearsalConfig [1] none)) inputs

theorem looped_any (inputs : List (rehearsalMachine (rehearsalConfig [1] none)).Input) :
    Reaches (Promise.any (rehearsalMachine (rehearsalConfig [1] none)))
      (startWorld (Engine.fresh (rehearsalConfig [1] none) (some (⟨[], []⟩ : RehearsalCore))),
        eventLoop (rehearsalConfig [1] none)) ((looped inputs).1, (looped inputs).2) :=
  run_reaches (allAllowed_any inputs _)

/-- The stream opens and accepts two messages, and its pump writes the first one and takes up the second. -/
def halfWritten : List (rehearsalMachine (rehearsalConfig [1] none)).Input :=
  rehearsal (rehearsalConfig [1] none) [.openMessageStream ["c"] none,
      .sendMessage "alice" [1, 2] "l1" "alice" .normal, .sendMessage "alice" [3] "l2" "alice" .ghost]
    (List.replicate 48 { opened := { recvResponse := .ok ⟨200, "200 OK"⟩ } })
    [.pump 0 .pop, .pump 0 .sent, .pump 0 .pop]

/-- The server reads the first message, and the second one is in flight. -/
theorem requests_conveyed_half :
    ∃ (pump : Pump) (requests : List MessageStreamRequest),
      (looped halfWritten).1.net.pumps[0]? = some pump ∧ pump.written.length = 1 ∧
      acceptedBy 0 (looped halfWritten).1.engine.log = requests.map requestFrame ∧
      readRequests pump.written.flatten = ((requests.take 1).map .ok, []) ∧
      pump.inFlight ++ pump.outgoing = (requests.drop 1).map requestFrame := by
  have found : ((looped halfWritten).1.net.pumps[0]?).any (fun pump => decide (pump.written.length = 1 ∧
      (∀ frame ∈ pump.written, frame.length < 2 ^ 32 + 5) ∧ pump.isEnded = false)) = true := by
    decide +kernel
  obtain ⟨pump, stored, known⟩ := (Option.any_eq_true _ _).mp found
  obtain ⟨one, short, running⟩ := of_decide_eq_true known
  obtain ⟨requests, -, accepted, read, waiting⟩ := requests_conveyed loopback_roundTrips
    (rehearsal_with_core [] none) (looped_any halfWritten) 0 pump stored short
  rw [one] at read waiting
  exact ⟨pump, requests, stored, one, accepted, read, waiting running⟩

end

end ConstructEngine
