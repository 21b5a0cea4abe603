import ConstructEngine.Interaction.Monitor
import ConstructEngine.Proof.Recovery
import ConstructEngine.Proof.Resubscription
import ConstructEngine.Proof.Timer

namespace ConstructEngine

open Interaction Program Machine

variable {Core A : Type}

/-- A stream was opened for these conversations while this subscription was the current one. -/
structure Opening where
  handle : BiDiStreamHandle
  subscription : Nat
  conversationIds : List String

/-- Each opening event of the platform begins a subscription when its parameters are stored. The note
keeps the cursor of that event, the conversations of the latest request, all streams that were opened,
and the cursors of the frames that were taken up, each with the pump that read it. The held stream is
superseded from the moment when other conversations are stored until the new handle is. -/
structure SubscriptionNote where
  subscription : Nat
  sinceCursor : Option String
  asked : List String
  openings : List Opening
  cursors : List (Nat × String)
  superseded : Bool

namespace SubscriptionNote

/-- No subscription has begun. -/
def start : SubscriptionNote := ⟨0, none, [], [], [], false⟩

/-- The handle belongs to a stream that was opened for these conversations. -/
def opened (note : SubscriptionNote) (handle : BiDiStreamHandle) (conversationIds : List String) : Bool :=
  note.openings.any fun opening => opening.handle = handle && opening.conversationIds = conversationIds

/-- The held stream, if there is one, was opened for these conversations. -/
def fits (note : SubscriptionNote) (stream : Option BiDiStreamHandle) (conversationIds : List String) : Bool :=
  stream.all fun handle => note.opened handle conversationIds

/-- The pump reads a stream that was opened for the current subscription. -/
def reads (note : SubscriptionNote) (pump : Nat) : Bool :=
  note.openings.any fun opening =>
    opening.handle.pump = pump && opening.subscription = note.subscription

/-- A frame of a stream that was opened for the current subscription had this cursor. -/
def received (note : SubscriptionNote) (cursor : String) : Bool :=
  note.cursors.any fun (pump, other) => other = cursor && note.reads pump

/-- The parameters of an opening event are stored, or the stored ones again. -/
def store (note : SubscriptionNote) (opening : Bool) (cursor : Option String) : SubscriptionNote :=
  if opening then { note with subscription := note.subscription + 1, sinceCursor := cursor } else note

/-- A frame that a pump read is taken up. -/
def take (note : SubscriptionNote) : Option Nat → Option String → SubscriptionNote
  | some pump, some cursor => { note with cursors := (pump, cursor) :: note.cursors }
  | _, _ => note

/-- The subscription is the same, and nothing about it was forgotten. -/
structure Grown (before after : SubscriptionNote) : Prop where
  subscription : after.subscription = before.subscription
  sinceCursor : after.sinceCursor = before.sinceCursor
  openings : before.openings ⊆ after.openings
  cursors : before.cursors ⊆ after.cursors

variable {before middle after : SubscriptionNote}

/-- A note has grown from itself. -/
theorem Grown.refl (note : SubscriptionNote) : note.Grown note :=
  ⟨rfl, rfl, List.Subset.refl _, List.Subset.refl _⟩

/-- What has grown twice has grown. -/
theorem Grown.trans (first : before.Grown middle) (second : middle.Grown after) : before.Grown after :=
  ⟨second.subscription.trans first.subscription, second.sinceCursor.trans first.sinceCursor,
    List.Subset.trans first.openings second.openings, List.Subset.trans first.cursors second.cursors⟩

/-- A stream that was opened stays so. -/
theorem Grown.opened (grown : before.Grown after) {handle : BiDiStreamHandle} {conversationIds : List String}
    (opened : before.opened handle conversationIds = true) :
    after.opened handle conversationIds = true := by
  obtain ⟨opening, member, same⟩ := List.any_eq_true.mp opened
  exact List.any_eq_true.mpr ⟨opening, grown.openings member, same⟩

/-- A pump goes on reading its subscription. -/
theorem Grown.reads (grown : before.Grown after) {pump : Nat} (reads : before.reads pump = true) :
    after.reads pump = true := by
  obtain ⟨opening, member, same⟩ := List.any_eq_true.mp reads
  refine List.any_eq_true.mpr ⟨opening, grown.openings member, ?_⟩
  rw [grown.subscription]
  exact same

/-- A cursor that was received stays so. -/
theorem Grown.received (grown : before.Grown after) {cursor : String}
    (received : before.received cursor = true) : after.received cursor = true := by
  obtain ⟨⟨pump, other⟩, member, same⟩ := List.any_eq_true.mp received
  obtain ⟨equal, reads⟩ := Bool.and_eq_true_iff.mp same
  exact List.any_eq_true.mpr ⟨(pump, other), grown.cursors member,
    Bool.and_eq_true_iff.mpr ⟨equal, grown.reads reads⟩⟩

/-- To take a frame up adds its cursor. -/
theorem take_grows (note : SubscriptionNote) (origin : Option Nat) (cursor : Option String) :
    note.Grown (note.take origin cursor) := by
  unfold take
  split
  · exact ⟨rfl, rfl, List.Subset.refl _, List.subset_cons_self _ _⟩
  · exact .refl note

/-- To take a frame up supersedes nothing. -/
theorem take_superseded (note : SubscriptionNote) (origin : Option Nat) (cursor : Option String) :
    (note.take origin cursor).superseded = note.superseded := by
  unfold take
  split <;> rfl

/-- A cursor from a stream of the current subscription is received when its frame is taken up. -/
theorem take_received {note : SubscriptionNote} {origin : Option Nat} (reads : origin.any note.reads = true)
    (cursor : String) : (note.take origin (some cursor)).received cursor = true := by
  cases origin with
  | none => cases reads
  | some pump =>
      have reads : note.reads pump = true := reads
      have later : (note.take (some pump) (some cursor)).reads pump = true := reads
      exact List.any_eq_true.mpr ⟨(pump, cursor), List.mem_cons_self, by simpa using later⟩

end SubscriptionNote

/-- The loop works on an event that opens a stream. -/
def openingRuns (log : List Event) : Bool :=
  match currentTask log with
  | some (.event (.openMessageStream ..)) => true
  | _ => false

/-- This is the pump that read the first frame in the queue. -/
def Net.nextOrigin (net : Net) : Option Nat := net.frames.head?.bind QueuedFrame.origin

section
variable [Prost]

/-- The note follows the parameters, the requests, the streams and the frames. -/
def Op.subscriptionNote : {A : Type} → Op Core A → World Core → A → SubscriptionNote → SubscriptionNote
  | _, .paramsWrite params, world, _, note =>
      { note.store (openingRuns world.engine.log) params.lastCursor with
        superseded := !note.fits world.engine.stream params.conversationIds }
  | _, .openExchange _ _ conversationIds _ _, _, _, note => { note with asked := conversationIds }
  | _, .spawnPump _, _, handle, note =>
      { note with openings := ⟨handle, note.subscription, note.asked⟩ :: note.openings }
  | _, .streamWrite _, _, _, note => { note with superseded := false }
  | _, .select _, world, .frame frame, note => note.take world.net.nextOrigin (frameCursor frame)
  | _, _, _, _, note => note

/-- The held stream was opened for the stored conversations. -/
def Engine.matching (engine : Engine Core) (note : SubscriptionNote) : Bool :=
  engine.stream.all fun handle => engine.streamParams.all fun params =>
    note.opened handle params.conversationIds

/-- The stored cursor is the one of the opening event, or a stream of its subscription brought it. -/
def Engine.Positioned (engine : Engine Core) (note : SubscriptionNote) : Prop :=
  ∀ params, engine.streamParams = some params → params.lastCursor = note.sinceCursor ∨
    ∃ cursor, params.lastCursor = some cursor ∧ note.received cursor = true

variable [ConstructCore Core] {config : EngineConfig}

/-- It is written by the operations alone. -/
def subscriptionLedger (Core : Type) [ConstructCore Core] (config : EngineConfig) :
    (engineMachine Core config).Ledger SubscriptionNote := ⟨Op.subscriptionNote⟩

/-- This is the engine with the note next to its state. -/
abbrev subscriptionMachine (Core : Type) [ConstructCore Core] (config : EngineConfig) :
    Machine (Op Core) :=
  (engineMachine Core config).monitored (subscriptionLedger Core config)

/-- An attempt fails only while the held stream was opened for the stored conversations, and a frame
with a cursor is taken up only from a stream of the current subscription. -/
def Op.agreeable (config : EngineConfig) :
    {A : Type} → Op Core A → Choice → World Core → SubscriptionNote → Bool
  | _, .quicConnect, choice, world, note =>
      (choice.connect.result config).isOk || world.engine.matching note
  | _, .openExchange .., choice, world, note => choice.opened.result.isOk || world.engine.matching note
  | _, .select refreshArmed, _, world, note =>
      match selectBranch refreshArmed world with
      | some (.frame frame, _) => (frameCursor frame).isNone || world.net.nextOrigin.any note.reads
      | _ => true
  | _, _, _, _, _ => true

/-- In these runs every operation is agreeable. -/
def subscriptionPromise (Core : Type) [ConstructCore Core] (config : EngineConfig) :
    (subscriptionMachine Core config).Promise where
  answers op choice state := op.agreeable config choice state.1 state.2 = true
  moves _ _ := True

instance (A : Type) (op : Op Core A) (choice : (subscriptionMachine Core config).Choice)
    (state : (subscriptionMachine Core config).State) :
    Decidable ((subscriptionPromise Core config).answers op choice state) :=
  inferInstanceAs (Decidable (op.agreeable config choice state.1 state.2 = true))

instance (move : (subscriptionMachine Core config).Move) (state : (subscriptionMachine Core config).State) :
    Decidable ((subscriptionPromise Core config).moves move state) := isTrue trivial

/-- The parameters of an opening event or the stored ones are written, a cursor of the current
subscription is stored, a stream for the stored conversations is held, and these two agree whenever
the loop turns to another task. -/
def subscriptionGuard (Core : Type) [ConstructCore Core] (config : EngineConfig) :
    (subscriptionMachine Core config).Guard := fun op state =>
  match op with
  | .paramsWrite params =>
      currentTask (World.engine state.1).log =
        some (.event (.openMessageStream params.conversationIds params.lastCursor)) ∨
      (World.engine state.1).streamParams = some params
  | .paramsCursor cursor => SubscriptionNote.received state.2 cursor = true
  | .streamWrite (some handle) => ∀ params, (World.engine state.1).streamParams = some params →
      SubscriptionNote.opened state.2 handle params.conversationIds = true
  | .select _ | .onAction (.connectionStateChanged false) =>
      (World.engine state.1).matching state.2 = true
  | _ => True

/-- The engine and the note belong to the program. -/
def subscriptionOwned (Core : Type) [ConstructCore Core] (config : EngineConfig) :
    (subscriptionMachine Core config).Owned (Engine Core × SubscriptionNote) :=
  (engineOwned Core config).monitored (subscriptionLedger Core config)

/-- The program, begun with this engine and note, stores only what agrees. -/
abbrev SubscriptionSafe (config : EngineConfig) (program : EngineM Core A)
    (result : A → Engine Core × SubscriptionNote → Prop) (view : Engine Core × SubscriptionNote) : Prop :=
  (subscriptionOwned Core config).Safe (subscriptionPromise Core config) (subscriptionGuard Core config)
    program result view

/-- The stream and its parameters are the same, the loop works on the same task, and nothing about the
subscription was forgotten. -/
structure Subscribing (before after : Engine Core × SubscriptionNote) : Prop where
  stream : after.1.stream = before.1.stream
  streamParams : after.1.streamParams = before.1.streamParams
  task : currentTask after.1.log = currentTask before.1.log
  note : before.2.Grown after.2

omit [Prost] [ConstructCore Core] in
/-- What stays the same twice stays the same. -/
theorem Subscribing.trans {before middle after : Engine Core × SubscriptionNote}
    (first : Subscribing before middle) (second : Subscribing middle after) : Subscribing before after :=
  ⟨second.stream.trans first.stream, second.streamParams.trans first.streamParams,
    second.task.trans first.task, first.note.trans second.note⟩

omit [ConstructCore Core] in
/-- Only stored parameters begin another subscription. -/
theorem subscriptionNote_grows {op : Op Core A} (unwritten : op.writes .streamParams = false)
    (world : World Core) (value : A) (note : SubscriptionNote) :
    note.Grown (op.subscriptionNote world value note) := by
  cases op with
  | paramsWrite => cases unwritten
  | openExchange => exact ⟨rfl, rfl, List.Subset.refl _, List.Subset.refl _⟩
  | spawnPump => exact ⟨rfl, rfl, List.subset_cons_self _ _, List.Subset.refl _⟩
  | streamWrite => exact ⟨rfl, rfl, List.Subset.refl _, List.Subset.refl _⟩
  | select =>
      cases value with
      | frame frame => exact note.take_grows _ _
      | _ => exact .refl note
  | _ => exact .refl note

omit [ConstructCore Core] in
/-- Only stored parameters supersede a stream, and only a new handle ends this. -/
theorem subscriptionNote_superseded {op : Op Core A} (stream : op.writes .stream = false)
    (params : op.writes .streamParams = false) (world : World Core) (value : A) (note : SubscriptionNote) :
    (op.subscriptionNote world value note).superseded = note.superseded := by
  cases op with
  | paramsWrite => cases params
  | streamWrite => cases stream
  | select =>
      cases value with
      | frame frame => exact note.take_superseded _ _
      | _ => rfl
  | _ => rfl

omit [ConstructCore Core] [Prost] in
/-- The held stream stays one of the stored conversations while nothing is forgotten. -/
theorem matching_grows {before after : Engine Core} {note later : SubscriptionNote}
    (stream : after.stream = before.stream) (params : after.streamParams = before.streamParams)
    (grown : note.Grown later) (matching : before.matching note = true) : after.matching later = true := by
  unfold Engine.matching at matching ⊢
  rw [stream, params]
  simp only [Option.all_eq_true] at matching ⊢
  exact fun handle held params stored => grown.opened (matching handle held params stored)

omit [ConstructCore Core] [Prost] in
/-- With the same parameters the cursor stays in its place. -/
theorem positioned_grows {before after : Engine Core} {note later : SubscriptionNote}
    (params : after.streamParams = before.streamParams) (grown : note.Grown later)
    (positioned : before.Positioned note) : after.Positioned later := by
  intro stored same
  rw [params] at same
  rcases positioned stored same with since | ⟨cursor, carried, received⟩
  · exact .inl (since.trans grown.sinceCursor.symm)
  · exact .inr ⟨cursor, carried, grown.received received⟩

/-- The stream, the stored conversations and the stored cursor agree. -/
structure Subscribed (view : Engine Core × SubscriptionNote) : Prop where
  matching : view.1.matching view.2 = true
  positioned : view.1.Positioned view.2

omit [ConstructCore Core] [Prost] in
/-- With the same stream and parameters the agreement stays. -/
theorem Subscribed.grow {before after : Engine Core × SubscriptionNote} (subscribed : Subscribed before)
    (still : Subscribing before after) : Subscribed after :=
  ⟨matching_grows still.stream still.streamParams still.note subscribed.matching,
    positioned_grows still.streamParams still.note subscribed.positioned⟩

/-- These operations leave the stream, its parameters and the task alone. -/
def Op.aloof (op : Op Core A) : Prop :=
  op.writes .stream = false ∧ op.writes .streamParams = false ∧ op.topic ≠ .selection

/-- An operation acts on the world, and the note follows it. -/
theorem subscription_exec {op : Op Core A} {choice : Choice}
    {state after : (subscriptionMachine Core config).State} {value : A}
    (answered : (subscriptionMachine Core config).exec op choice state = some (value, after)) :
    exec config op choice state.1 = some (value, after.1) ∧
      after.2 = op.subscriptionNote state.1 value state.2 := monitored_exec answered

/-- An aloof operation leaves the subscription as it is. -/
theorem subscribing_exec {op : Op Core A} (aloof : op.aloof) {choice : Choice}
    {state after : (subscriptionMachine Core config).State} {value : A}
    (answered : (subscriptionMachine Core config).exec op choice state = some (value, after)) :
    Subscribing ((subscriptionOwned Core config).view state) ((subscriptionOwned Core config).view after) := by
  obtain ⟨done, written⟩ := subscription_exec answered
  have frame := exec_frame done
  refine ⟨frame.stream aloof.1, frame.streamParams aloof.2.1, exec_task aloof.2.2 done, ?_⟩
  change state.2.Grown after.2
  rw [written]
  exact subscriptionNote_grows aloof.2.1 state.1 value state.2

/-- An aloof operation may always be answered. -/
theorem aloof_guard {op : Op Core A} (aloof : op.aloof) (state : (subscriptionMachine Core config).State) :
    subscriptionGuard Core config op state := by
  cases op with
  | paramsWrite => cases aloof.2.1
  | paramsCursor => cases aloof.2.1
  | streamWrite => cases aloof.1
  | select => exact absurd rfl aloof.2.2
  | onAction action =>
      cases action with
      | connectionStateChanged connected =>
          cases connected with
          | false => exact absurd rfl aloof.2.2
          | true => trivial
      | _ => trivial
  | _ => trivial

/-- An aloof operation is a step of the subscription. -/
theorem subscribing_step {op : Op Core A} (aloof : op.aloof) (view : Engine Core × SubscriptionNote) :
    SubscriptionSafe config (perform op) (fun _ after => Subscribing view after) view := by
  refine Owned.safe_perform (fun state _ => aloof_guard aloof state)
    fun state choice value after same _ answered => ?_
  rw [← same]
  exact subscribing_exec aloof answered

omit [Prost] [ConstructCore Core] in
/-- Outside of these topics an operation is aloof. -/
theorem aloof_topic {op : Op Core A} (apart : op.topic ≠ .subscription ∧ op.topic ≠ .closing ∧
    op.topic ≠ .cursor ∧ op.topic ≠ .selection) : op.aloof := by
  obtain ⟨subscription, closing, cursor, selection⟩ := apart
  refine ⟨?_, ?_, selection⟩
  · cases op with
    | streamWrite stream =>
        cases stream with
        | none => exact absurd rfl closing
        | some handle => exact absurd rfl subscription
    | _ => rfl
  · cases op with
    | paramsWrite => exact absurd rfl subscription
    | paramsCursor => exact absurd rfl cursor
    | _ => rfl

omit [Prost] [ConstructCore Core] in
/-- To connect is aloof. -/
theorem aloof_linking {op : Op Core A} (linking : Linking op.topic) : op.aloof := by
  refine aloof_topic ?_
  rcases linking with same | same <;> simp [same]

/-- The subscription is left alone. A failure came while the held stream was one of the stored
conversations, and otherwise the engine has a connection. -/
def Linked (view : Engine Core × SubscriptionNote) (ensured : Except EngineError Unit)
    (after : Engine Core × SubscriptionNote) : Prop :=
  Subscribing view after ∧
    match ensured with
    | .error _ => after.1.matching after.2 = true
    | .ok () => after.1.h3.isSome = true

/-- A failed attempt tells that the held stream fits. -/
theorem connectH3_linked (site : ConnectSite) (view : Engine Core × SubscriptionNote) :
    SubscriptionSafe config (connectH3 site) (Linked view) view := by
  have aloof {B : Type} (op : Op Core B) (connection : op.topic = .connection) : op.aloof :=
    aloof_linking (.inr connection)
  unfold connectH3
  refine (subscribing_step (aloof _ rfl) view).andThen fun _ begun first => ?_
  refine Owned.safe_step (fun state _ => aloof_guard (aloof _ rfl) state)
    fun state choice connected after same kept answered => ?_
  have exchanged := subscribing_exec (aloof _ rfl) answered
  have second := first.trans (same ▸ exchanged)
  rcases connected with error | conn
  · have failed : (choice.connect.result config).isOk = false := by
      obtain ⟨failure, failed, -⟩ | ⟨same, -⟩ := quicConnect_effect (subscription_exec answered).1
      · rw [failed]
        rfl
      · cases same
    have matching : state.1.engine.matching state.2 = true := by
      have kept : ((choice.connect.result config).isOk || state.1.engine.matching state.2) = true := kept
      rwa [failed, Bool.false_or] at kept
    exact Owned.safe_done ⟨second, matching_grows exchanged.stream exchanged.streamParams exchanged.note matching⟩
  · have stored : SubscriptionSafe config (perform (.h3Store site conn))
        (fun _ stored => Subscribing view stored ∧ stored.1.h3.isSome = true)
        ((subscriptionOwned Core config).view after) := by
      refine Owned.safe_perform (fun state _ => aloof_guard (aloof _ rfl) state)
        fun state choice value after same _ answered => ?_
      refine ⟨second.trans (same ▸ subscribing_exec (aloof _ rfl) answered), ?_⟩
      obtain ⟨after, written⟩ := after
      cases (subscription_exec answered).1
      rfl
    refine stored.andThen fun _ third known => ?_
    have sent : SubscriptionSafe config (perform .connectedSend)
        (fun _ sent => Subscribing third sent ∧ sent.1.h3 = third.1.h3) third := by
      refine Owned.safe_perform (fun state _ => aloof_guard (aloof _ rfl) state)
        fun state choice value after same _ answered => ?_
      refine ⟨same ▸ subscribing_exec (aloof _ rfl) answered, ?_⟩
      have kept := (exec_frame (subscription_exec answered).1).h3 rfl
      exact kept.trans (congrArg (fun view => view.1.h3) same)
    exact sent.andThen fun _ last now => Owned.safe_done ⟨known.1.trans now.1, by rw [now.2]; exact known.2⟩

/-- A stored connection is used as it is. -/
theorem ensureH3_linked (site : ConnectSite) (view : Engine Core × SubscriptionNote) :
    SubscriptionSafe config (ensureH3 site) (Linked view) view := by
  unfold ensureH3
  refine Owned.safe_step (fun state _ => trivial) fun state choice h3 after same _ answered => ?_
  have still : Subscribing view ((subscriptionOwned Core config).view after) :=
    same ▸ subscribing_exec (aloof_linking (.inl rfl)) answered
  cases h3 with
  | none =>
      exact (connectH3_linked site _).weaken fun _ after linked => ⟨still.trans linked.1, linked.2⟩
  | some conn =>
      refine Owned.safe_done ⟨still, ?_⟩
      obtain ⟨world, note⟩ := state
      obtain ⟨after, written⟩ := after
      have read : world.engine.h3 = some conn ∧ world = after := by
        simpa [exec] using (subscription_exec answered).1
      change after.engine.h3.isSome = true
      rw [← read.2, read.1]
      rfl

omit [Prost] in
/-- The server accepts the subscription or refuses it. -/
theorem openExchange_answer {conn : Nat} {token sinceCursor : Option String} {conversationIds : List String}
    {requestId : String} {choice : Choice} {world after : World Core} {value : Except EngineError Unit}
    (answered : exec config (.openExchange conn token conversationIds sinceCursor requestId) choice world =
      some (value, after)) : value = choice.opened.result := by
  simp only [exec] at answered
  split at answered
  next error failed =>
    cases answered
    rw [OpenExchange.result, failed]
    rfl
  next => cases answered; rfl

/-- A stream opens for the conversations that were asked for, or the attempt fails while the held
stream is one of the stored conversations. -/
theorem openMessageStream_linked (conversationIds : List String) (sinceCursor : Option String)
    (view : Engine Core × SubscriptionNote) :
    SubscriptionSafe config (openMessageStream conversationIds sinceCursor) (fun opened after =>
      Subscribing view after ∧ match opened with
        | .error _ => after.1.matching after.2 = true
        | .ok handle => after.2.opened handle conversationIds = true) view := by
  have reading {B : Type} (op : Op Core B) (reading : op.topic = .reading) : op.aloof :=
    aloof_linking (.inl reading)
  unfold openMessageStream
  refine (ensureH3_linked _ view).andThen fun ensured first linked => ?_
  rcases ensured with error | ⟨⟩
  · exact Owned.safe_done linked
  have connected : SubscriptionSafe config sendRequest (fun sendReq after =>
      Subscribing view after ∧ ∃ conn, sendReq = .ok conn) first := by
    unfold sendRequest
    refine Owned.safe_step (fun _ _ => trivial) fun state choice h3 after same _ answered => ?_
    have still := linked.1.trans (same ▸ subscribing_exec (reading _ rfl) answered)
    have read : state.1.engine.h3 = h3 :=
      congrArg Prod.fst (Option.some.inj (subscription_exec answered).1)
    have present : state.1.engine.h3.isSome = true := by
      have same : state.1.engine = first.1 := congrArg Prod.fst same
      rw [same]
      exact linked.2
    cases h3 with
    | none =>
        rw [read] at present
        cases present
    | some conn => exact Owned.safe_done ⟨still, conn, rfl⟩
  refine connected.andThen fun sendReq second now => ?_
  obtain ⟨before, conn, rfl⟩ := now
  refine (subscribing_step (reading _ rfl) second).andThen fun token third now => ?_
  refine (subscribing_step (reading _ rfl) third).andThen fun requestId fourth later => ?_
  have before := (before.trans now).trans later
  have apart : (Op.openExchange conn token conversationIds sinceCursor requestId : Op Core _).aloof :=
    ⟨rfl, rfl, by simp [Op.topic]⟩
  refine Owned.safe_step (fun state _ => trivial) fun state choice opened after same kept answered => ?_
  have exchanged := subscribing_exec apart answered
  have still := before.trans (same ▸ exchanged)
  rcases opened with error | ⟨⟩
  · have failed := openExchange_answer (subscription_exec answered).1
    have matching : state.1.engine.matching state.2 = true := by
      have kept : (choice.opened.result.isOk || state.1.engine.matching state.2) = true := kept
      rw [← failed] at kept
      exact kept
    exact Owned.safe_done ⟨still, matching_grows exchanged.stream exchanged.streamParams exchanged.note matching⟩
  · have asked : after.2.asked = conversationIds := by
      rw [(subscription_exec answered).2]
      rfl
    have spawned : SubscriptionSafe config (perform (.spawnPump conn)) (fun handle last =>
        Subscribing view last ∧ last.2.opened handle conversationIds = true)
        ((subscriptionOwned Core config).view after) := by
      refine Owned.safe_perform (fun _ _ => trivial) fun state choice handle last same _ answered => ?_
      have spawns : (Op.spawnPump conn : Op Core _).aloof := ⟨rfl, rfl, by simp [Op.topic]⟩
      refine ⟨still.trans (same ▸ subscribing_exec spawns answered), ?_⟩
      change last.2.opened handle conversationIds = true
      have same : state.2 = after.2 := by
        exact congrArg (fun view : Engine Core × SubscriptionNote => view.2) same
      rw [(subscription_exec answered).2, ← asked, ← same]
      simp [Op.subscriptionNote, SubscriptionNote.opened]
    exact spawned.andThen fun handle last now => Owned.safe_done now

/-- Stored parameters begin a subscription, or they continue the stored one. -/
theorem paramsWrite_positioned {params : StreamParams} {choice : Choice}
    {state after : (subscriptionMachine Core config).State}
    (guarded : subscriptionGuard Core config (.paramsWrite params) state)
    (positioned : state.1.engine.Positioned state.2)
    (answered : (subscriptionMachine Core config).exec (.paramsWrite params) choice state = some ((), after)) :
    after.1.engine.Positioned after.2 := by
  obtain ⟨done, written⟩ := subscription_exec answered
  have same : after.1.engine.streamParams = some params := by
    obtain ⟨-, world⟩ := paramsWrite_effect done
    rw [world]
  intro stored now
  cases same.symm.trans now
  rw [written]
  change params.lastCursor = (state.2.store _ params.lastCursor).sinceCursor ∨
    ∃ cursor, _ ∧ (state.2.store _ params.lastCursor).received cursor = true
  unfold SubscriptionNote.store
  split
  · exact .inl rfl
  next continued =>
    rcases guarded with opening | stored
    · have runs : openingRuns state.1.engine.log = true := by
        unfold openingRuns
        rw [opening]
      exact absurd runs continued
    · exact positioned params stored

/-- An attempt leaves the stream of the stored conversations, whether it succeeds or not. -/
theorem handleOpenStream_subscribed (params : StreamParams) {view : Engine Core × SubscriptionNote}
    (wished : currentTask view.1.log =
        some (.event (.openMessageStream params.conversationIds params.lastCursor)) ∨
      view.1.streamParams = some params)
    (positioned : view.1.Positioned view.2) :
    SubscriptionSafe config (handleOpenStream params.conversationIds params.lastCursor)
      (fun _ => Subscribed) view := by
  have guarded (state : (subscriptionMachine Core config).State)
      (same : (subscriptionOwned Core config).view state = view) :
      subscriptionGuard Core config (.paramsWrite params) state := by
    rw [← same] at wished
    exact wished
  have stored : SubscriptionSafe config (perform (.paramsWrite params)) (fun _ after =>
      after.1.streamParams = some params ∧ after.1.Positioned after.2) view := by
    refine Owned.safe_perform guarded fun state choice value after same _ answered => ?_
    have before := guarded state same
    rw [← same] at positioned
    refine ⟨?_, paramsWrite_positioned before positioned answered⟩
    obtain ⟨-, world⟩ := paramsWrite_effect (subscription_exec answered).1
    change after.1.engine.streamParams = some params
    rw [world]
  have report (action : PlatformAction) (topic : action.topic = .report) {view : Engine Core × SubscriptionNote}
      (now : Subscribed view) :
      SubscriptionSafe config (onAction action) (fun _ => Subscribed) view := by
    have aloof : (Op.onAction action : Op Core Unit).aloof := ⟨rfl, rfl, by simp [Op.topic, topic]⟩
    exact (subscribing_step aloof view).weaken fun _ after still => now.grow still
  refine stored.andThen fun _ next now => ?_
  obtain ⟨same, positioned⟩ := now
  refine (openMessageStream_linked params.conversationIds params.lastCursor next).andThen fun opened last now => ?_
  obtain ⟨still, outcome⟩ := now
  have positioned := positioned_grows still.streamParams still.note positioned
  cases opened with
  | error error => exact report _ rfl ⟨outcome, positioned⟩
  | ok handle =>
      have stored : last.1.streamParams = some params := still.streamParams.trans same
      have held : SubscriptionSafe config (perform (.streamWrite (some handle))) (fun _ => Subscribed) last := by
        refine Owned.safe_perform (fun state same => ?_) fun state choice value after same _ answered => ?_
        · subst same
          intro other now
          cases stored.symm.trans now
          exact outcome
        · subst same
          obtain ⟨world, note⟩ := state
          obtain ⟨after, written⟩ := after
          obtain ⟨done, wrote⟩ := subscription_exec answered
          cases done
          cases wrote
          refine ⟨?_, positioned⟩
          have stored : world.engine.streamParams = some params := stored
          change Option.all (fun params => note.opened handle params.conversationIds)
            world.engine.streamParams = true
          rw [stored]
          exact outcome
      exact held.andThen fun _ after now => report _ rfl now

/-- The stored parameters are stored again and opened. -/
theorem reopenStreamIfNeeded_subscribed {view : Engine Core × SubscriptionNote} (now : Subscribed view) :
    SubscriptionSafe config reopenStreamIfNeeded (fun _ => Subscribed) view := by
  refine Owned.safe_step (fun _ _ => trivial) fun state choice stored after same _ answered => ?_
  have reads : (Op.paramsRead : Op Core _).aloof := ⟨rfl, rfl, by simp [Op.topic]⟩
  have still := subscribing_exec reads answered
  rw [same] at still
  have now := now.grow still
  obtain ⟨-, rfl, world⟩ := paramsRead_effect (subscription_exec answered).1
  cases stored : state.1.engine.streamParams with
  | none => exact Owned.safe_done now
  | some params =>
      have held : after.1.engine.streamParams = some params := by rw [world, stored]
      exact handleOpenStream_subscribed params (.inr held) now.positioned

/-- The subscription that was read under the guard is opened again. -/
theorem resubscribe_subscribed {view : Engine Core × SubscriptionNote} (now : Subscribed view) :
    SubscriptionSafe config resubscribe (fun _ => Subscribed) view := by
  have unlocks {view : Engine Core × SubscriptionNote} (now : Subscribed view) :
      SubscriptionSafe config (perform .paramsUnlock) (fun _ => Subscribed) view := by
    have aloof : (Op.paramsUnlock : Op Core Unit).aloof := ⟨rfl, rfl, by simp [Op.topic]⟩
    exact (subscribing_step aloof view).weaken fun _ after still => now.grow still
  refine Owned.safe_step (fun _ _ => trivial) fun state choice stored after same _ answered => ?_
  have locks : (Op.paramsLock : Op Core _).aloof := ⟨rfl, rfl, by simp [Op.topic]⟩
  have still := subscribing_exec locks answered
  rw [same] at still
  have now := now.grow still
  obtain ⟨-, rfl, world⟩ := paramsLock_effect (subscription_exec answered).1
  cases stored : state.1.engine.streamParams with
  | none => exact unlocks now
  | some params =>
      have held : after.1.engine.streamParams = some params := by rw [world, ← stored]
      exact (handleOpenStream_subscribed params (.inr held) now.positioned).andThen fun _ _ now => unlocks now

/-- Outside of these topics the agreement stays. -/
theorem subscribed_step {op : Op Core A}
    (apart : op.topic ≠ .subscription ∧ op.topic ≠ .cursor ∧ op.topic ≠ .selection)
    {view : Engine Core × SubscriptionNote} (now : Subscribed view) :
    SubscriptionSafe config (perform op) (fun _ => Subscribed) view := by
  by_cases closing : op.topic = .closing
  · cases op with
    | streamWrite stream =>
        cases stream with
        | some handle => cases closing
        | none =>
            refine Owned.safe_perform (fun _ _ => trivial) fun state choice value after same _ answered => ?_
            obtain ⟨world, note⟩ := state
            obtain ⟨after, written⟩ := after
            obtain ⟨done, wrote⟩ := subscription_exec answered
            cases done
            cases wrote
            subst same
            exact ⟨rfl, now.positioned⟩
    | onAction action =>
        have same : action.topic = .closing := closing
        simpa [same] using action_topic action
    | core region => cases region <;> cases closing
    | _ => cases closing
  · exact (subscribing_step (aloof_topic ⟨apart.1, closing, apart.2⟩) view).weaken
      fun _ after still => now.grow still

/-- A handler that neither wishes nor moves the cursor keeps the stream of the stored conversations. -/
theorem subscribed_built {topics : Topic → Prop}
    (unsteered : ∀ topic, topics topic → topic ≠ .wish ∧ topic ≠ .cursor ∧ topic ≠ .selection)
    {program : EngineM Core A} (built : Built topics (anyRequest topics) program)
    {view : Engine Core × SubscriptionNote} (now : Subscribed view) :
    SubscriptionSafe config program (fun _ => Subscribed) view := by
  have kept : Keeps (subscriptionPromise Core config) (subscriptionGuard Core config)
      (fun state => Subscribed ((subscriptionOwned Core config).view state)) program := by
    refine keeps_built ((subscriptionOwned Core config).stable Subscribed) (fun op engages apart =>
      keeps_owned.mpr fun view now => subscribed_step ⟨fun same => ?_, ?_, ?_⟩ now)
      (fun wished => absurd rfl (unsteered _ wished).1)
      (fun _ => keeps_owned.mpr fun view now => reopenStreamIfNeeded_subscribed now) built
    · simp [same, Topic.opens] at apart
    · exact engages.ne (by simp) fun topic listed => (unsteered topic listed).2.1
    · exact engages.ne (by simp) fun topic listed => (unsteered topic listed).2.2
  exact keeps_owned.mp kept view now

/-- A cursor moves the stored parameters, if there are any. -/
def Engine.moveCursor (engine : Engine Core) (cursor : String) : Engine Core :=
  let streamParams := engine.streamParams.map fun params => { params with lastCursor := some cursor }
  { engine with streamParams }

omit [ConstructCore Core] [Prost] in
/-- The conversations stay the same. -/
theorem moveCursor_matching (engine : Engine Core) (note : SubscriptionNote) (cursor : String) :
    (engine.moveCursor cursor).matching note = engine.matching note := by
  simp [Engine.matching, Engine.moveCursor, Option.all_map]

omit [ConstructCore Core] [Prost] in
/-- A received cursor may be stored. -/
theorem moveCursor_positioned {engine : Engine Core} {note : SubscriptionNote} {cursor : String}
    (received : note.received cursor = true) : (engine.moveCursor cursor).Positioned note := by
  intro params stored
  obtain ⟨before, -, rfl⟩ := Option.map_eq_some_iff.mp stored
  exact .inr ⟨cursor, rfl, received⟩

/-- The loop works on the event that it took up, and the cursor of a frame that it took up was received. -/
def Took (branch : Branch) (view : Engine Core × SubscriptionNote) : Prop :=
  match branch with
  | .event (some event) => Subscribed view ∧ currentTask view.1.log = some (.event event)
  | .frame frame => Subscribed view ∧
      ∀ cursor, frameCursor frame = some cursor → view.2.received cursor = true
  | _ => Subscribed view

/-- The frame that is taken up belongs to the current subscription or has no cursor. -/
theorem select_took (armed : Bool) {view : Engine Core × SubscriptionNote} (now : Subscribed view) :
    SubscriptionSafe config (perform (.select armed)) Took view := by
  refine Owned.safe_perform (fun state same => ?_) fun state choice branch after same kept answered => ?_
  · subst same
    exact now.matching
  subst same
  obtain ⟨world, note⟩ := state
  obtain ⟨after, written⟩ := after
  obtain ⟨done, wrote⟩ := subscription_exec answered
  have kept : (Op.select armed).agreeable config choice world note = true := kept
  have done : exec config (.select armed) choice world = some (branch, after) := done
  obtain ⟨rfl, -, rfl⟩ | ⟨rfl, -, rfl⟩ | ⟨-, ⟨event, rest, -, rfl, rfl⟩ | ⟨-, ⟨frame, rest, front, rfl, rfl⟩ |
    ⟨-, rfl, rfl⟩⟩⟩ := select_effect done
  · cases wrote
    exact ⟨now.matching, now.positioned⟩
  · cases wrote
    exact ⟨now.matching, now.positioned⟩
  · cases wrote
    exact ⟨⟨now.matching, now.positioned⟩, currentTask_mark _ rfl⟩
  · have grown := note.take_grows world.net.nextOrigin (frameCursor frame.frame)
    cases wrote
    refine ⟨⟨matching_grows rfl rfl grown now.matching, positioned_grows rfl grown now.positioned⟩,
      fun cursor carried => ?_⟩
    have done : selectBranch armed world = some _ := done
    simp only [Op.agreeable, done, carried, Option.isNone_some, Bool.false_or] at kept
    change (note.take world.net.nextOrigin (frameCursor frame.frame)).received cursor = true
    rw [carried]
    exact SubscriptionNote.take_received kept cursor
  · cases wrote
    exact ⟨now.matching, now.positioned⟩

/-- The cursor of a frame was received, so that it may be stored. -/
theorem handleIncomingFrame_subscribed {frame : Bytes} {view : Engine Core × SubscriptionNote}
    (took : Took (.frame frame) view) :
    SubscriptionSafe config (handleIncomingFrame frame) (fun _ => Subscribed) view := by
  obtain ⟨now, received⟩ := took
  obtain ⟨rest, built, same⟩ : ∃ rest : EngineM Core Unit, _ ∧ handleIncomingFrame frame = _ :=
    handleIncomingFrame_split frame
  rw [same]
  have moved : SubscriptionSafe config ((frameCursor frame).forM fun cursor => perform (.paramsCursor cursor))
      (fun _ => Subscribed) view := by
    cases carried : frameCursor frame with
    | none => exact Owned.safe_done now
    | some cursor =>
        have known := received cursor carried
        refine Owned.safe_perform (fun state same => by subst same; exact known)
          fun state choice value after same _ answered => ?_
        subst same
        obtain ⟨world, note⟩ := state
        obtain ⟨after, written⟩ := after
        obtain ⟨done, wrote⟩ := subscription_exec answered
        obtain ⟨-, rfl⟩ := paramsCursor_effect done
        cases wrote
        exact ⟨(moveCursor_matching world.engine note cursor).trans now.matching, moveCursor_positioned known⟩
  exact moved.andThen fun _ after now => subscribed_built (by simp [receiveTopics]) built now

/-- Only the opening event stores other conversations. -/
theorem handleEvent_subscribed {event : UiEvent} {view : Engine Core × SubscriptionNote}
    (took : Took (.event (some event)) view) :
    SubscriptionSafe config (handleEvent config event) (fun _ => Subscribed) view := by
  obtain ⟨now, task⟩ := took
  have handled (apart : Topic.wish ∉ event.topics ∧ Topic.cursor ∉ event.topics) :
      SubscriptionSafe config (handleEvent config event) (fun _ => Subscribed) view :=
    subscribed_built (fun topic listed => ⟨fun same => apart.1 (same ▸ listed),
      fun same => apart.2 (same ▸ listed), topics_unselected event topic listed⟩)
      (built_handleEvent config event fun _ member => member) now
  cases event with
  | openMessageStream conversationIds sinceCursor =>
      exact handleOpenStream_subscribed ⟨conversationIds, sinceCursor⟩ (.inl task) now.positioned
  | _ => exact handled (by simp [UiEvent.topics, receiveTopics, keyCountTopics, loginTopics])

/-- Without its stream a subscription agrees with anything. -/
theorem handleDisconnect_subscribed {view : Engine Core × SubscriptionNote} (now : Subscribed view) :
    SubscriptionSafe config handleDisconnect (fun _ => Subscribed) view := by
  have reported : SubscriptionSafe config (onAction (.connectionStateChanged false))
      (fun _ => Subscribed) view := by
    refine Owned.safe_perform (fun state same => by subst same; exact now.matching)
      fun state choice value after same _ answered => ?_
    subst same
    obtain ⟨world, note⟩ := state
    obtain ⟨after, written⟩ := after
    obtain ⟨done, wrote⟩ := subscription_exec answered
    cases done
    cases wrote
    exact ⟨now.matching, now.positioned⟩
  refine reported.andThen fun _ view now => ?_
  refine (subscribed_step (by simp [Op.topic]) now).andThen fun _ view now => ?_
  have connects : SubscriptionSafe config ensureConnected (fun _ => Subscribed) view := by
    refine safe_uses (fun op view engages now => subscribed_step ?_ now)
      (concerns_ensureConnected : Concerns (fun _ => False) _) now
    refine ⟨?_, ?_, ?_⟩ <;> exact engages.ne (by simp) (by simp)
  exact connects.andThen fun _ view now => resubscribe_subscribed now

/-- Between two turns the stream and the parameters agree. -/
theorem eventLoop_subscribed : Keeps (subscriptionPromise Core config) (subscriptionGuard Core config)
    (fun state => Subscribed ((subscriptionOwned Core config).view state)) (eventLoop config) := by
  refine eventLoop_owned Took ?_ (fun armed view now => select_took armed now) ?_ (fun view now => now)
    (fun view now => handleDisconnect_subscribed now) (fun event view now => handleEvent_subscribed now)
    (fun frame view now => handleIncomingFrame_subscribed now) (fun view now => now.elim id id)
  · intro A op view own now
    refine subscribed_step ⟨?_, ?_, ?_⟩ now <;> exact own.ne (by simp) (by simp)
  · exact fun view now => subscribed_built (by simp [loginTopics]) (built_refresh config) now

/-- In every state the stored cursor belongs to the current subscription, and unless an opening event
is being handled or the held stream is superseded, this stream does. -/
def Agreeing (state : World Core × SubscriptionNote) : Prop :=
  state.1.engine.Positioned state.2 ∧
    (openingRuns state.1.engine.log = false ∨ state.2.superseded = false →
      state.1.engine.matching state.2 = true)

omit [ConstructCore Core] [Prost] in
/-- A stream that fits the stored conversations is one of them. -/
theorem store_fits {engine : Engine Core} {note : SubscriptionNote} {params : StreamParams}
    {opening superseded : Bool}
    (fits : note.fits engine.stream params.conversationIds = true) :
    ({ engine with streamParams := some params } : Engine Core).matching
      { note.store opening params.lastCursor with superseded } = true := by
  have same (handle : BiDiStreamHandle) :
      ({ note.store opening params.lastCursor with superseded } : SubscriptionNote).opened handle
        params.conversationIds = note.opened handle params.conversationIds := by
    unfold SubscriptionNote.store
    split <;> rfl
  simpa [Engine.matching, SubscriptionNote.fits, same] using fits

theorem matching_of_selection {op : Op Core A} {state : (subscriptionMachine Core config).State}
    (selection : op.topic = .selection) (guarded : subscriptionGuard Core config op state) :
    state.1.engine.matching state.2 = true := by
  cases op with
  | select => exact guarded
  | onAction action =>
      cases action with
      | connectionStateChanged connected =>
          cases connected with
          | false => exact guarded
          | true => cases selection
      | _ => cases selection
  | core region => cases region <;> cases selection
  | streamWrite stream => cases stream <;> cases selection
  | _ => cases selection

theorem agreeing_exec {op : Op Core A} {choice : Choice}
    {state after : (subscriptionMachine Core config).State} {value : A}
    (guarded : subscriptionGuard Core config op state) (agreeing : Agreeing state)
    (answered : (subscriptionMachine Core config).exec op choice state = some (value, after)) :
    Agreeing after := by
  obtain ⟨done, written⟩ := subscription_exec answered
  obtain ⟨positioned, matched⟩ := agreeing
  by_cases apart : op.writes .stream = false ∧ op.writes .streamParams = false
  · have frame := exec_frame done
    have stream := frame.stream apart.1
    have params := frame.streamParams apart.2
    have grown := subscriptionNote_grows apart.2 state.1 value state.2
    rw [← written] at grown
    refine ⟨positioned_grows params grown positioned, fun free => ?_⟩
    by_cases selection : op.topic = .selection
    · exact matching_grows stream params grown (matching_of_selection selection guarded)
    · refine matching_grows stream params grown (matched ?_)
      unfold openingRuns at free ⊢
      rw [← exec_task selection done]
      rw [written, subscriptionNote_superseded apart.1 apart.2] at free
      exact free
  · obtain ⟨world, note⟩ := state
    obtain ⟨next, noted⟩ := after
    cases op with
    | paramsWrite params =>
        refine ⟨paramsWrite_positioned guarded positioned answered, fun free => ?_⟩
        obtain ⟨-, rfl⟩ := paramsWrite_effect done
        obtain rfl : noted = _ := written
        rcases free with unopened | fits
        · have unopened : openingRuns world.engine.log = false := unopened
          rcases guarded with opening | stored
          · rw [openingRuns, opening] at unopened
            cases unopened
          · have stored : some params = world.engine.streamParams := stored.symm
            refine matching_grows ?_ stored ?_ (matched (.inl unopened))
            · rfl
            · change note.Grown { note.store (openingRuns world.engine.log) _ with superseded := _ }
              rw [unopened]
              exact ⟨rfl, rfl, List.Subset.refl _, List.Subset.refl _⟩
        · have fits : note.fits world.engine.stream params.conversationIds = true := by
            simpa [Op.subscriptionNote] using fits
          exact store_fits fits
    | paramsCursor cursor =>
        obtain ⟨-, rfl⟩ := paramsCursor_effect done
        cases written
        exact ⟨moveCursor_positioned guarded, fun free =>
          (moveCursor_matching world.engine note cursor).trans (matched free)⟩
    | streamWrite stream =>
        cases done
        cases written
        refine ⟨positioned, fun _ => ?_⟩
        cases stream with
        | none => rfl
        | some handle =>
            change Option.all (fun params => note.opened handle params.conversationIds)
              world.engine.streamParams = true
            exact (Option.all_eq_true _ _).mpr guarded
    | _ => exact absurd ⟨rfl, rfl⟩ apart

/-- A held stream was opened for the stored conversations, and the stored cursor is the one of the
opening event or was received on a stream of its subscription. -/
def StreamAgrees (state : World Core × SubscriptionNote) : Prop :=
  ∀ handle params, state.1.engine.stream = some handle → state.1.engine.streamParams = some params →
    state.2.opened handle params.conversationIds = true ∧
    (params.lastCursor = state.2.sinceCursor ∨
      ∃ cursor, params.lastCursor = some cursor ∧ state.2.received cursor = true)

omit [Prost] [ConstructCore Core] in
theorem streamAgrees_of_matching {state : World Core × SubscriptionNote}
    (matching : state.1.engine.matching state.2 = true) (positioned : state.1.engine.Positioned state.2) :
    StreamAgrees state := by
  intro handle params held stored
  refine ⟨?_, positioned params stored⟩
  unfold Engine.matching at matching
  rw [held, stored] at matching
  exact matching

/-- In every run in which no attempt to open a stream fails while a stream of other conversations is
held, and in which no frame with a cursor is taken up from a stream of an earlier subscription, the
stream and the stored subscription agree unless an opening event has superseded the stream that is
still held, and the stored cursor belongs to the subscription in every state. -/
theorem subscription_agrees {engine : Engine Core} (created : Engine.new config = .ok engine)
    {state : World Core × SubscriptionNote} {later : EngineM Core Unit}
    (reached : Reaches (subscriptionPromise Core config)
      ((startWorld engine, SubscriptionNote.start), eventLoop config) (state, later)) :
    state.1.engine.Positioned state.2 ∧
    (isWaiting later = true ∨ openingRuns state.1.engine.log = false ∨ state.2.superseded = false →
      StreamAgrees state) := by
  obtain ⟨core, rfl⟩ := Engine.new_fresh created
  have start : Subscribed ((subscriptionOwned Core config).view
      (startWorld (Engine.fresh config core), SubscriptionNote.start)) := ⟨rfl, nofun⟩
  have holds := eventLoop_subscribed _ start
  have stable : Stable (subscriptionPromise Core config) fun state => Agreeing state := by
    intro move state after agreeing _ moved
    obtain ⟨done, same⟩ := monitored_move moved
    obtain ⟨net, -, same'⟩ := moveWorld_some done
    unfold Agreeing
    rw [same, same']
    exact agreeing
  have agreeing : Agreeing state := holds.invariant (fun state => Agreeing state) stable
    (fun op choice state value after guarded agreeing _ answered => agreeing_exec guarded agreeing answered)
    ⟨start.positioned, fun _ => start.matching⟩ reached
  refine ⟨agreeing.1, ?_⟩
  rintro (waiting | free)
  · obtain ⟨armed, next, rfl⟩ := isWaiting_shape waiting
    exact streamAgrees_of_matching ((holds _ _ reached).1 _ _ _ rfl) agreeing.1
  · exact streamAgrees_of_matching (agreeing.2 free) agreeing.1

end

section
attribute [local instance] responding

abbrev subscribedStart : (subscriptionMachine RehearsalCore (rehearsalConfig [] none)).Configuration Unit :=
  ((startWorld (Engine.fresh (rehearsalConfig [] none) none), SubscriptionNote.start),
    eventLoop (rehearsalConfig [] none))

/-- This frame brings a cursor and nothing else. -/
def cursorFrame : Bytes := encodeGrpcFrame (responseWire.put ⟨none, some "7"⟩)

/-- The platform opens a stream, a frame comes on it, and before the loop takes up the frame the
platform dispatches another event. -/
def overtaken (sinceCursor : Option String) (event : UiEvent) (choice : Choice) :
    List (subscriptionMachine RehearsalCore (rehearsalConfig [] none)).Input :=
  .move (Move.dispatch (.openMessageStream ["c"] sinceCursor)) :: List.replicate 40 (.answer openChoice) ++
    [.move (Move.pump 0 .queueEmpty), .move (Move.pump 0 (.chunk cursorFrame)), .move (Move.dispatch event)] ++
    List.replicate 60 (.answer choice)

/-- The second opening event fails, and then the frame of the first stream is taken up. -/
def overtakenOpening : (subscriptionMachine RehearsalCore (rehearsalConfig [] none)).Configuration Unit :=
  run subscribedStart (overtaken none (.openMessageStream ["d"] (some "1")) servedChoice)

/-- The engine still holds the stream of the first conversations and stores its cursor for the second. -/
theorem subscription_agrees_fails :
    ¬ ∀ final : (subscriptionMachine RehearsalCore (rehearsalConfig [] none)).Configuration Unit,
      Reaches (Promise.any (subscriptionMachine RehearsalCore (rehearsalConfig [] none))) subscribedStart final →
      isWaiting final.2 = true → StreamAgrees final.1 := by
  intro agrees
  have reached : Reaches (Promise.any (subscriptionMachine RehearsalCore (rehearsalConfig [] none)))
      subscribedStart overtakenOpening := by
    unfold overtakenOpening
    exact run_reaches (allAllowed_any _ _)
  obtain ⟨opened, -⟩ := agrees _ reached (by decide +kernel) ⟨0, 0⟩ ⟨["d"], some "7"⟩ (by decide +kernel)
    (by decide +kernel)
  exact absurd opened (by decide +kernel)

/-- The login opens the stream again, and the frame brings the cursor of the same subscription. -/
def overtakenLogin : (subscriptionMachine RehearsalCore (rehearsalConfig [] none)).Configuration Unit :=
  run subscribedStart (overtaken (some "5") (.authenticate "d" [] []) openChoice)

theorem subscription_agrees_login :
    overtakenLogin.1.1.engine.stream = some ⟨1, 0⟩ ∧
    overtakenLogin.1.1.engine.streamParams = some ⟨["c"], some "7"⟩ ∧ StreamAgrees overtakenLogin.1 := by
  have agrees (final : (subscriptionMachine RehearsalCore (rehearsalConfig [] none)).Configuration Unit)
      (reached : Reaches (subscriptionPromise RehearsalCore (rehearsalConfig [] none)) subscribedStart final)
      (waiting : isWaiting final.2 = true) : StreamAgrees final.1 := by
    obtain ⟨state, later⟩ := final
    exact (subscription_agrees (rehearsal_without_core none) reached).2 (.inl waiting)
  have reached : Reaches (subscriptionPromise RehearsalCore (rehearsalConfig [] none)) subscribedStart
      overtakenLogin := by
    unfold overtakenLogin
    exact run_reaches (by decide +kernel)
  exact ⟨by decide +kernel, by decide +kernel, agrees _ reached (by decide +kernel)⟩

end

end ConstructEngine
