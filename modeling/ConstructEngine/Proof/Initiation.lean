import Mathlib.Logic.Function.Basic
import ConstructEngine.Proof.Persistence
import ConstructEngine.Proof.Rehearsal
import ConstructEngine.Proof.Sections
import ConstructEngine.Proof.Turn

namespace ConstructEngine

open Interaction Program Machine

/-- This is what the trace tells about the sessions that the engine initiated: the number of the
next message to each contact, and whether a first message still waits for a stream. -/
structure Numbering where
  next : String → Option Nat
  fresh : Bool

/-- A successful initiation starts again at number 0. Sessions of a contact, of a restored state or
of another core have no number here. -/
def Numbering.record (numbering : Numbering) : Event → Numbering
  | .core (.initSession contactId (.ok ())) =>
      { numbering with next := Function.update numbering.next contactId (some 0) }
  | .core (.encrypt contactId _ (.ok _)) =>
      { next := Function.update numbering.next contactId ((numbering.next contactId).map (· + 1))
        fresh := numbering.next contactId = some 0 }
  | .core (.initReceivingSession contactId (.ok _)) =>
      { numbering with next := Function.update numbering.next contactId none }
  | .core (.importState _ (.ok ())) | .core (.initCore _) => { numbering with next := fun _ => none }
  | .sent .. => { numbering with fresh := false }
  | _ => numbering

/-- The whole trace numbers the messages of each contact. -/
def numbering (log : List Event) : Numbering := log.foldl Numbering.record ⟨fun _ => none, false⟩

/-- The last event decides how the numbering goes on. -/
theorem numbering_snoc (log : List Event) (event : Event) :
    numbering (log ++ [event]) = (numbering log).record event := by
  simp [numbering, List.foldl_append]

/-- The event gives the engine another session with the contact. -/
def Event.renews (contactId : String) : Event → Bool
  | .core (.initSession other (.ok ())) => other = contactId
  | .core (.initReceivingSession other (.ok _)) => other = contactId
  | .core (.importState _ (.ok ())) | .core (.initCore _) => true
  | _ => false

/-- The event starts a session of the engine's own or seals a message. -/
def Event.seals : Event → Bool
  | .core (.initSession _ (.ok ())) | .core (.encrypt _ _ (.ok _)) => true
  | _ => false

/-- Only the core seals a message. -/
theorem seals_of_topic {event : Event} (other : event.topic ≠ .sealing) : event.seals = false := by
  unfold Event.seals
  split
  · exact absurd rfl other
  · exact absurd rfl other
  · rfl

/-- What seals nothing renews a session or leaves its number. -/
theorem record_next {event : Event} (other : event.seals = false) {before : Numbering}
    {contactId : String} {number : Nat}
    (next : (before.record event).next contactId = some number) :
    before.next contactId = some number ∧ event.renews contactId = false := by
  unfold Numbering.record at next
  split at next
  · cases other
  · cases other
  · next _ receiving _ =>
      by_cases same : receiving = contactId
      · simp [same] at next
      · exact ⟨by simpa [Function.update_of_ne (Ne.symm same)] using next, by simp [Event.renews, same]⟩
  · cases next
  · cases next
  · exact ⟨next, rfl⟩
  · next initiates _ receives imports replaces _ =>
      refine ⟨next, ?_⟩
      unfold Event.renews
      split
      · exact (initiates _ rfl).elim
      · exact (receives _ _ rfl).elim
      · exact (imports _ rfl).elim
      · exact (replaces _ rfl).elim
      · rfl

/-- What seals nothing makes nothing fresh. -/
theorem record_fresh {event : Event} (other : event.seals = false) {before : Numbering}
    (rested : before.fresh = false) : (before.record event).fresh = false := by
  unfold Numbering.record
  split
  · cases other
  · cases other
  · exact rested
  · exact rested
  · exact rested
  · rfl
  · exact rested

/-- Exports and reports leave the numbers alone. -/
theorem record_quiet {event : Event} (quiet : event.topic = .reading ∨ event.topic = .report)
    (before : Numbering) : before.record event = before := by
  unfold Numbering.record
  split <;> first | rfl | (rcases quiet with quiet | quiet <;> cases quiet)

/-- To read and to report renews no session. -/
theorem renews_quiet {event : Event} (quiet : event.topic = .reading ∨ event.topic = .report)
    (contactId : String) : event.renews contactId = false := by
  unfold Event.renews
  split <;> first | rfl | (rcases quiet with quiet | quiet <;> cases quiet)

/-- To read and to report leaves the numbering alone. -/
theorem numbering_quiet (log : List Event) {middle : List Event}
    (quiet : ∀ event ∈ middle, event.topic = .reading ∨ event.topic = .report) :
    numbering (log ++ middle) = numbering log := by
  induction middle using List.reverseRecOn with
  | nil => rw [List.append_nil]
  | append_singleton front last ih =>
      rw [← List.append_assoc, numbering_snoc, record_quiet (quiet last (by simp))]
      exact ih fun event member => quiet event (List.mem_append_left _ member)

/-- These frames carry ciphertext. -/
def SendSite.seals : SendSite → Bool
  | .sendMessage | .initSessionInitiator => true
  | _ => false

section
variable [Prost]

/-- A stream accepted the frame of the first message of the current session. -/
def FirstAccepted (contactId : String) (log : List Event) : Prop :=
  ∃ front plaintext wirePayload middle site handle frame,
    log = front ++ .core (.encrypt contactId plaintext (.ok wirePayload)) :: middle ∧
    (numbering front).next contactId = some 0 ∧
    (∀ event ∈ middle, event.renews contactId = false) ∧
    .sent site handle frame true ∈ middle ∧ Carries frame wirePayload

/-- The last ciphertext of the trace is this one. -/
def LastSealed (log front : List Event) (contactId : String) (wirePayload : Bytes) : Prop :=
  ∃ plaintext middle, log = front ++ .core (.encrypt contactId plaintext (.ok wirePayload)) :: middle ∧
    ∀ event ∈ middle, event.topic = .reading ∨ event.topic = .report

/-- The initiator reports a session whose first frame was accepted, and a later frame of a session
that the engine initiated is accepted after the first. -/
def initiationLaw (log : List Event) : Event → Prop
  | .action (.sessionEstablished established _) =>
      ∀ contactId, currentTask log = some (.event (.initSessionInitiator contactId)) →
        established = contactId ∧ (numbering log).next contactId = some 1 ∧ FirstAccepted contactId log
  | .sent site _ frame true => site.seals = true →
      ∃ front contactId wirePayload, LastSealed log front contactId wirePayload ∧
        Carries frame wirePayload ∧ ∀ number,
        (numbering front).next contactId = some (number + 1) → FirstAccepted contactId front
  | _ => True

/-- An accepted first message stays so until the session is renewed. -/
theorem FirstAccepted.snoc {contactId : String} {log : List Event}
    (first : FirstAccepted contactId log) {event : Event} (stays : event.renews contactId = false) :
    FirstAccepted contactId (log ++ [event]) := by
  obtain ⟨front, plaintext, wirePayload, middle, site, handle, frame, rfl, start, same, sent, carries⟩ :=
    first
  refine ⟨front, plaintext, wirePayload, middle ++ [event], site, handle, frame, by simp, start, ?_,
    List.mem_append_left _ sent, carries⟩
  intro later member
  rcases List.mem_append.mp member with earlier | last
  · exact same later earlier
  · rw [List.mem_singleton.mp last]
    exact stays

/-- No first message waits for a stream, and none that is behind the next number is missing. -/
structure Rested (log : List Event) : Prop where
  first : ∀ contactId number, (numbering log).next contactId = some (number + 1) →
    FirstAccepted contactId log
  fresh : (numbering log).fresh = false

/-- What seals nothing leaves the first messages accepted. -/
theorem Rested.snoc {log : List Event} (rested : Rested log) {event : Event}
    (other : event.seals = false) : Rested (log ++ [event]) := by
  constructor
  · intro contactId number next
    rw [numbering_snoc] at next
    obtain ⟨before, stays⟩ := record_next other next
    exact (rested.first contactId number before).snoc stays
  · rw [numbering_snoc]
    exact record_fresh other rested.fresh

/-- A new session begins with the number zero. -/
theorem Rested.initiated {log : List Event} (rested : Rested log) (contactId : String) :
    Rested (log ++ [.core (.initSession contactId (.ok ()))]) ∧
      (numbering (log ++ [.core (.initSession contactId (.ok ()))])).next contactId = some 0 := by
  rw [numbering_snoc]
  refine ⟨⟨fun other number next => ?_, ?_⟩, by simp [Numbering.record]⟩
  · rw [numbering_snoc] at next
    by_cases same : other = contactId
    · simp [Numbering.record, same] at next
    · simp only [Numbering.record, Function.update_of_ne same] at next
      exact (rested.first other number next).snoc (by simp [Event.renews, Ne.symm same])
  · rw [numbering_snoc]
    exact rested.fresh

/-- The handler has sealed a message, and its frame was not sent yet. -/
structure Sealed (log front : List Event) (contactId : String) (wirePayload : Bytes) : Prop where
  last : LastSealed log front contactId wirePayload
  rested : Rested front

/-- To read and to report leaves the sealed message the last one. -/
theorem Sealed.snoc {log front : List Event} {contactId : String} {wirePayload : Bytes}
    (sealing : Sealed log front contactId wirePayload) {event : Event}
    (quiet : event.topic = .reading ∨ event.topic = .report) :
    Sealed (log ++ [event]) front contactId wirePayload := by
  obtain ⟨plaintext, middle, rfl, still⟩ := sealing.last
  refine ⟨⟨plaintext, middle ++ [event], by simp, fun later member => ?_⟩, sealing.rested⟩
  rcases List.mem_append.mp member with earlier | last
  · exact still later earlier
  · rw [List.mem_singleton.mp last]
    exact quiet

omit [Prost] in
/-- Since the seal nothing was numbered. -/
theorem LastSealed.numbering {log front : List Event} {contactId : String} {wirePayload : Bytes}
    (last : LastSealed log front contactId wirePayload) :
    ∃ plaintext, numbering log =
      (numbering front).record (.core (.encrypt contactId plaintext (.ok wirePayload))) := by
  obtain ⟨plaintext, middle, rfl, still⟩ := last
  refine ⟨plaintext, ?_⟩
  rw [← numbering_snoc, List.append_cons, numbering_quiet _ still]

/-- Only the first message of this session can still be missing. -/
theorem Sealed.first {log front : List Event} {contactId : String} {wirePayload : Bytes}
    (sealing : Sealed log front contactId wirePayload) {other : String} {number : Nat}
    (next : (numbering log).next other = some (number + 1)) :
    FirstAccepted other log ∨ other = contactId ∧ (numbering front).next contactId = some 0 := by
  have later (accepted : FirstAccepted other front) : FirstAccepted other log := by
    obtain ⟨plaintext, middle, rfl, still⟩ := sealing.last
    rw [List.append_cons]
    have sealed : FirstAccepted other (front ++ [.core (.encrypt contactId plaintext (.ok wirePayload))]) :=
      accepted.snoc rfl
    clear sealing next
    induction middle using List.reverseRecOn with
    | nil => rwa [List.append_nil]
    | append_singleton middle last ih =>
        rw [← List.append_assoc]
        exact (ih fun event member => still event (List.mem_append_left _ member)).snoc
          (renews_quiet (still last (by simp)) other)
  obtain ⟨plaintext, same⟩ := sealing.last.numbering
  rw [same] at next
  by_cases mine : other = contactId
  · subst mine
    simp only [Numbering.record, Function.update_self, Option.map_eq_some_iff] at next
    obtain ⟨current, before, grown⟩ := next
    cases current with
    | zero => exact .inr ⟨rfl, before⟩
    | succ previous => exact .inl (later (sealing.rested.first other previous before))
  · simp only [Numbering.record, Function.update_of_ne mine] at next
    exact .inl (later (sealing.rested.first other number next))

/-- A seal with the number zero is a first message. -/
theorem Sealed.fresh {log front : List Event} {contactId : String} {wirePayload : Bytes}
    (sealing : Sealed log front contactId wirePayload)
    (start : (numbering front).next contactId = some 0) : (numbering log).fresh = true := by
  obtain ⟨plaintext, same⟩ := sealing.last.numbering
  rw [same]
  simpa [Numbering.record] using start

/-- After the number zero comes the number one. -/
theorem Sealed.started {log front : List Event} {contactId : String} {wirePayload : Bytes}
    (sealing : Sealed log front contactId wirePayload)
    (start : (numbering front).next contactId = some 0) :
    (numbering log).next contactId = some 1 := by
  obtain ⟨plaintext, same⟩ := sealing.last.numbering
  rw [same]
  simp [Numbering.record, start]

/-- A sealed message that is not the first one leaves nothing open. -/
theorem Sealed.settle {log front : List Event} {contactId : String} {wirePayload : Bytes}
    (sealing : Sealed log front contactId wirePayload) (rested : (numbering log).fresh = false) :
    Rested log := by
  refine ⟨fun other number next => ?_, rested⟩
  rcases sealing.first next with first | ⟨-, start⟩
  · exact first
  · rw [sealing.fresh start] at rested
    cases rested

/-- The accepted frame settles the session. -/
theorem Sealed.sent {log front : List Event} {contactId : String} {wirePayload frame : Bytes}
    (sealing : Sealed log front contactId wirePayload) (carries : Carries frame wirePayload)
    (site : SendSite) (handle : BiDiStreamHandle) :
    Rested (log ++ [.sent site handle frame true]) ∧
      ((numbering front).next contactId = some 0 →
        FirstAccepted contactId (log ++ [.sent site handle frame true])) := by
  have accepted (start : (numbering front).next contactId = some 0) :
      FirstAccepted contactId (log ++ [.sent site handle frame true]) := by
    obtain ⟨plaintext, middle, rfl, still⟩ := sealing.last
    refine ⟨front, plaintext, wirePayload, middle ++ [.sent site handle frame true], site, handle,
      frame, by simp, start, fun event member => ?_, by simp, carries⟩
    rcases List.mem_append.mp member with earlier | last
    · exact renews_quiet (still event earlier) contactId
    · rw [List.mem_singleton.mp last]
      rfl
  refine ⟨⟨fun other number next => ?_, ?_⟩, accepted⟩
  · rw [numbering_snoc] at next
    have next : (numbering log).next other = some (number + 1) := next
    rcases sealing.first next with first | ⟨rfl, start⟩
    · exact first.snoc rfl
    · exact accepted start
  · rw [numbering_snoc]
    rfl

end

variable {Core A : Type}

/-- A stream is there when the engine looks for one, and the queue of its handle is open. -/
def Op.streamReady : {A : Type} → Op Core A → World Core → Bool
  | _, .streamRead, world => world.engine.stream.isSome
  | _, .sendFrame _ handle _, world => !world.net.queueClosed handle
  | _, _, _ => true

variable [ConstructCore Core] {config : EngineConfig}

/-- In these runs a stream is ready for the frame of each first message. -/
def initiationPromise (Core : Type) [ConstructCore Core] (config : EngineConfig) :
    (engineMachine Core config).Promise where
  answers op _ world := (numbering world.engine.log).fresh = true → op.streamReady world = true
  moves _ _ := True

instance (A : Type) (op : Op Core A) (choice : (engineMachine Core config).Choice)
    (world : (engineMachine Core config).State) :
    Decidable ((initiationPromise Core config).answers op choice world) :=
  inferInstanceAs (Decidable ((numbering (World.engine world).log).fresh = true →
    op.streamReady world = true))

instance (move : (engineMachine Core config).Move) (world : (engineMachine Core config).State) :
    Decidable ((initiationPromise Core config).moves move world) := isTrue trivial

section
variable [Prost]

/-- Calls that seal nothing leave the first messages accepted. -/
theorem Rested.failed {log : List Event} (rested : Rested log) {calls : List CoreCall}
    (failed : ∀ call ∈ calls, (Event.core call).seals = false) :
    Rested (log ++ calls.map .core) := by
  induction calls using List.reverseRecOn with
  | nil => simpa using rested
  | append_singleton front last ih =>
      rw [List.map_append, ← List.append_assoc]
      exact (ih fun call member => failed call (List.mem_append_left _ member)).snoc
        (failed last (by simp))

/-- The program, begun with this engine, sends first messages first. -/
abbrev InitiationSafe (config : EngineConfig) (program : EngineM Core A)
    (result : A → Engine Core → Prop) (engine : Engine Core) : Prop :=
  EngineSafe (initiationPromise Core config) (traceGuard (initiationPromise Core config) initiationLaw)
    program result engine

/-- The law says nothing about these topics. -/
def Lawless (topic : Topic) : Prop :=
  topic ≠ .session ∧ topic ≠ .sending .sendMessage ∧ topic ≠ .sending .initSessionInitiator

/-- Outside of frames and reports the law says nothing. -/
theorem initiationLaw_free {log : List Event} {event : Event} (free : Lawless event.topic) :
    initiationLaw log event := by
  unfold initiationLaw
  split
  · exact absurd rfl free.1
  · next site _ _ =>
      intro sealing
      cases site with
      | sendMessage => exact absurd rfl free.2.1
      | initSessionInitiator => exact absurd rfl free.2.2
      | _ => cases sealing
  · trivial

/-- Outside of frames and reports any operation may be answered. -/
theorem initiationGuard_free {op : Op Core A} (free : Lawless op.topic) (world : World Core) :
    traceGuard (initiationPromise Core config) initiationLaw op world := by
  intro choice event _ traces _
  rcases traces_about traces with reading | same
  · exact initiationLaw_free (by rw [reading]; simp [Lawless])
  · exact initiationLaw_free (same ▸ free)

omit [ConstructCore Core] in
/-- To save the state leaves the sealed message the last one. -/
theorem Sealed.save {engine : Engine Core} {front : List Event} {contactId : String}
    {wirePayload : Bytes} (sealing : Sealed engine.log front contactId wirePayload) (stateBytes : Bytes) :
    Sealed (engine.save stateBytes).log front contactId wirePayload := by
  unfold Engine.save
  split
  · exact sealing
  · exact sealing.snoc (.inr rfl)

omit [ConstructCore Core] [Prost] in
/-- To save the state leaves the task in hand. -/
theorem currentTask_save (engine : Engine Core) (stateBytes : Bytes) :
    currentTask (engine.save stateBytes).log = currentTask engine.log := by
  unfold Engine.save
  split
  · rfl
  · exact currentTask_snoc engine.log (by simp [Event.topic, PlatformAction.topic])

/-- A stream can only be missing for a later message. -/
theorem initiation_streamRead {engine : Engine Core} {result : A → Engine Core → Prop}
    {rest : Option BiDiStreamHandle → EngineM Core A}
    (missing : (numbering engine.log).fresh = false → InitiationSafe config (rest none) result engine)
    (found : ∀ stream, InitiationSafe config (rest (some stream)) result engine) :
    InitiationSafe config (perform .streamRead >>= rest) result engine := by
  refine streamRead_promised (initiationGuard_free (by simp [Lawless, Op.topic])) ?_
  intro world choice same kept
  have kept : (numbering world.engine.log).fresh = true → world.engine.stream.isSome = true := kept
  rw [same] at kept
  cases held : engine.stream with
  | some stream => exact found stream
  | none =>
      rw [held] at kept
      exact missing (Bool.eq_false_iff.mpr fun fresh => by cases kept fresh)

/-- Only the frame of a later message is refused. -/
theorem sealed_sendFrame {engine : Engine Core} {front : List Event} {contactId : String}
    {wirePayload : Bytes} {result : A → Engine Core → Prop}
    (sealing : Sealed engine.log front contactId wirePayload) {site : SendSite}
    {handle : BiDiStreamHandle} {frame : Bytes} {rest : Except EngineError Unit → EngineM Core A}
    (carries : Carries frame wirePayload)
    (refused : (numbering engine.log).fresh = false → ∀ error,
      InitiationSafe config (rest (.error error)) result
        (engine.record (.sent site handle frame false)))
    (accepted : Rested (engine.record (.sent site handle frame true)).log →
      ((numbering front).next contactId = some 0 →
        FirstAccepted contactId (engine.record (.sent site handle frame true)).log) →
      InitiationSafe config (rest (.ok ())) result (engine.record (.sent site handle frame true))) :
    InitiationSafe config (perform (.sendFrame site handle frame) >>= rest) result engine := by
  obtain ⟨rested, first⟩ := sealing.sent carries site handle
  refine sendFrame_outcomes (fun world same => traceGuard_sent fun done => ?_) ?_ (accepted rested first)
  · cases done with
    | false => trivial
    | true =>
        rw [same]
        intro _
        exact ⟨front, contactId, wirePayload, sealing.last, carries,
          fun number next => sealing.rested.first contactId number next⟩
  · intro world choice same kept closed
    have kept : (numbering world.engine.log).fresh = true → (!world.net.queueClosed handle) = true := kept
    rw [same, closed] at kept
    exact refused (Bool.eq_false_iff.mpr fun fresh => by cases kept fresh) _

/-- A message that no stream accepts may not be the first one of its session. -/
theorem handleSendMessage_rested {contactId localId conversationId : String} {plaintext : Bytes}
    {level : AnonymityLevel} {engine : Engine Core} (rested : Rested engine.log) :
    InitiationSafe config (handleSendMessage contactId plaintext localId conversationId level)
      (fun _ after => Rested after.log) engine := by
  have reported (status : Nat) {engine : Engine Core} (rested : Rested engine.log) :
      InitiationSafe config (onAction (.updateMessageStatus localId status))
        (fun _ after => Rested after.log) engine := by
    refine action_done (fun world _ => initiationGuard_free ?_ world) (rested.snoc rfl)
    simp [Lawless, Op.topic, PlatformAction.topic]
  unfold handleSendMessage
  refine section_bind (initiationGuard_free (by simp [Lawless, Op.topic, CoreSection.topic])) ?_
  intro world choice same _
  rcases CoreSection.encryptAndExport_calls contactId plaintext engine.core with
    ⟨message, after, calls, ran, failed⟩ | ⟨wirePayload, stateBytes, after, answer, ran⟩
  · rw [ran]
    refine reported 4 (rested.failed fun call member => ?_)
    obtain ⟨error, rfl⟩ := failed call member
    rfl
  rw [ran]
  have sealing : Sealed (({ engine with core := after }).recordCalls
      [.encrypt contactId plaintext (.ok wirePayload), .exportState answer]).log engine.log contactId
        wirePayload :=
    ⟨⟨plaintext, [.core (.exportState answer)], rfl, fun event member => by
      rw [List.mem_singleton.mp member]; exact .inl rfl⟩, rested⟩
  refine saveState_bind (fun _ world _ => initiationGuard_free ?_ world) ?_
  · simp [Lawless, Op.topic, PlatformAction.topic]
  refine buildEnvelope_bind (fun op world reading => initiationGuard_free ?_ world) ?_
  · simp [Lawless, reading]
  intro envelope carries
  have sealing := sealing.save stateBytes
  refine initiation_streamRead (fun rested => reported 4 (sealing.settle rested)) fun stream => ?_
  refine sealed_sendFrame sealing carries (fun rested error => ?_) fun rested _ => reported 1 rested
  exact reported 4 ((sealing.settle rested).snoc rfl)

/-- The first frame of the new session is accepted before the session is reported. -/
theorem handleInitSessionInitiator_rested {contactId : String} {engine : Engine Core}
    (rested : Rested engine.log)
    (task : currentTask engine.log = some (.event (.initSessionInitiator contactId))) :
    InitiationSafe config (handleInitSessionInitiator contactId) (fun _ after => Rested after.log)
      engine := by
  unfold handleInitSessionInitiator
  have fetches : InitiationSafe config (fetchBundle contactId "Server returned no pre-key bundle")
      (fun _ after => Rested after.log ∧
        currentTask after.log = some (.event (.initSessionInitiator contactId))) engine := by
    have concerns : Concerns (· = Topic.rpc keyGetBundle) (fetchBundle contactId
        "Server returned no pre-key bundle" : EngineM Core (Except String (PreKeyBundle × Bytes))) :=
      (built_fetchBundle (fun _ => rfl) _ _ : Built _ (anyRequest _) _).concerns
    have free {topic : Topic} (engages : Engages (· = Topic.rpc keyGetBundle) topic) :
        Lawless topic ∧ topic ≠ .sealing ∧ topic ≠ .selection := by
      rcases engages with rfl | rfl | rfl | rfl <;> simp [Lawless]
    refine concerns_log (fun log => Rested log ∧
      currentTask log = some (.event (.initSessionInitiator contactId))) ?_ ?_ concerns ⟨rested, task⟩
    · intro log event engages now
      exact ⟨now.1.snoc (seals_of_topic (free engages).2.1),
        by rw [currentTask_snoc log (free engages).2.2]; exact now.2⟩
    · exact fun op world engages _ => initiationGuard_free (free engages).1 world
  refine fetches.andThen fun fetched engine later => ?_
  obtain ⟨rested, task⟩ := later
  have failed (message : String) {engine : Engine Core} (rested : Rested engine.log) :
      InitiationSafe config (onAction (.sessionError contactId message))
        (fun _ after => Rested after.log) engine := by
    refine action_done (fun world _ => traceGuard_action ?_) (rested.snoc rfl)
    trivial
  rcases fetched with message | ⟨bundle, verifyingKey⟩
  · exact failed message rested
  refine section_bind (initiationGuard_free (by simp [Lawless, Op.topic, CoreSection.topic])) ?_
  intro world choice same _
  obtain ⟨initiated, start⟩ := rested.initiated contactId
  rcases CoreSection.initiateAndExport_calls contactId (x3dhBundle bundle verifyingKey)
    ⟨bundle.kyberPreKey, bundle.kyberOneTimePreKey, bundle.kyberOneTimePreKeyId⟩ engine.core with
    ⟨message, after, calls, ran, calling⟩ | ⟨wirePayload, stateBytes, after, answer, ran⟩
  · rw [ran]
    refine failed message ?_
    obtain rfl | ⟨error, rfl⟩ | ⟨error, rfl⟩ := calling
    · simpa [Engine.recordCalls] using rested
    · exact rested.snoc rfl
    · have later := initiated.snoc (rfl : (Event.core (.encrypt contactId [] (.error error))).seals = false)
      simpa [Engine.recordCalls] using later
  rw [ran]
  have sealing : Sealed (({ engine with core := after }).recordCalls
      [.initSession contactId (.ok ()), .encrypt contactId [] (.ok wirePayload),
        .exportState answer]).log (engine.log ++ [.core (.initSession contactId (.ok ()))]) contactId
        wirePayload :=
    ⟨⟨[], [.core (.exportState answer)], by simp [Engine.recordCalls], fun event member => by
      rw [List.mem_singleton.mp member]; exact .inl rfl⟩, initiated⟩
  have sealing := sealing.save stateBytes
  have fresh := sealing.fresh start
  have task : currentTask ((({ engine with core := after }).recordCalls
      [.initSession contactId (.ok ()), .encrypt contactId [] (.ok wirePayload),
        .exportState answer]).save stateBytes).log = some (.event (.initSessionInitiator contactId)) := by
    rw [currentTask_save]
    exact (currentTask_calls engine.log _).trans task
  refine saveState_bind (fun _ world _ => initiationGuard_free ?_ world) ?_
  · simp [Lawless, Op.topic, PlatformAction.topic]
  refine uuid_bind (initiationGuard_free (by simp [Lawless, Op.topic])) fun uuid => ?_
  refine initiation_streamRead (fun rested => by rw [fresh] at rested; cases rested) fun stream => ?_
  refine sealed_sendFrame sealing ⟨_, _, rfl, .inl rfl⟩
    (fun rested => by rw [fresh] at rested; cases rested) fun rested first => ?_
  refine action_done (fun world same => traceGuard_action ?_) (rested.snoc rfl)
  rw [same]
  intro other current
  rw [Engine.record, currentTask_snoc _ (by simp [Event.topic]), task] at current
  cases current
  refine ⟨rfl, ?_, first start⟩
  rw [Engine.record, numbering_snoc]
  exact sealing.started start

/-- These topics neither seal a message nor take anything up. -/
def Unsealing (topic : Topic) : Prop :=
  topic ≠ .sealing ∧ topic ≠ .selection ∧ topic ≠ .sending .sendMessage ∧
    topic ≠ .sending .initSessionInitiator

/-- Only two events of the platform make the engine seal a message. -/
def UiEvent.seals : UiEvent → Bool
  | .sendMessage .. | .initSessionInitiator _ => true
  | _ => false

omit [Prost] in
/-- Other events seal nothing. -/
theorem unsealing_event {event : UiEvent} (other : event.seals = false) :
    ∀ topic ∈ event.topics, Unsealing topic := by
  cases event <;> first | (cases other; done) |
    simp [UiEvent.topics, keyCountTopics, loginTopics, receiveTopics, Unsealing]

/-- Between two handlers every first message was accepted. -/
theorem eventLoop_rested :
    Keeps (initiationPromise Core config) (traceGuard (initiationPromise Core config) initiationLaw)
      (fun world => Rested world.engine.log) (eventLoop config) := by
  have each (log : List Event) (event : Event) (unsealing : Unsealing event.topic)
      (now : Rested log ∧ ∀ contactId, currentTask log ≠ some (.event (.initSessionInitiator contactId))) :
      Rested (log ++ [event]) ∧
        ∀ contactId, currentTask (log ++ [event]) ≠ some (.event (.initSessionInitiator contactId)) := by
    rw [currentTask_snoc log unsealing.2.1]
    exact ⟨now.1.snoc (seals_of_topic unsealing.1), now.2⟩
  have guarded {B : Type} (op : Op Core B) (world : World Core) (unsealing : Unsealing op.topic)
      (now : Rested world.engine.log ∧
        ∀ contactId, currentTask world.engine.log ≠ some (.event (.initSessionInitiator contactId))) :
      traceGuard (initiationPromise Core config) initiationLaw op world := by
    by_cases session : op.topic = .session
    · intro choice event _ traces _
      cases event with
      | action reported =>
          cases reported with
          | sessionEstablished => exact fun contactId task => absurd task (now.2 contactId)
          | _ => trivial
      | sent site =>
          rcases traces_about traces with reading | same
          · cases reading
          · rw [session] at same
            cases same
      | _ => trivial
    · exact initiationGuard_free ⟨session, unsealing.2.2⟩ world
  have loop : ∀ topic ∈ loopTopics, Unsealing topic := by
    simp [loopTopics, loginTopics, receiveTopics, Unsealing]
  refine eventLoop_tasks _ each guarded loop Rested (fun _ now => now.1) ?_ ?_ ?_ ?_
  · intro B op engine own rested
    have free {topic : Topic} (engages : Engages (· = Topic.loop) topic) :
        Lawless topic ∧ topic ≠ .sealing := by
      rcases engages with rfl | rfl | rfl | rfl <;> simp [Lawless]
    exact concerns_log Rested
      (fun log event engages now => now.snoc (seals_of_topic (free engages).2))
      (fun op world engages _ => initiationGuard_free (free engages).1 world) (uses_perform own) rested
  · exact fun op world selection _ => initiationGuard_free (by simp [selection, Lawless]) world
  · intro log mark selection other rested
    refine ⟨rested.snoc (seals_of_topic (by simp [selection])), fun contactId => ?_⟩
    rw [currentTask_mark log selection]
    exact fun same => other _ (Option.some.inj same)
  · intro event engine rested
    have taken : Rested (engine.record (.event event)).log := rested.snoc rfl
    cases seals : event.seals with
    | true =>
        cases event with
        | sendMessage => exact handleSendMessage_rested taken
        | initSessionInitiator =>
            exact handleInitSessionInitiator_rested taken (currentTask_mark engine.log rfl)
        | _ => cases seals
    | false =>
        have concerns : Concerns Unsealing (handleEvent config event : EngineM Core Unit) :=
          (built_handleEvent config event (unsealing_event seals)).concerns
        refine (calm_log _ each guarded loop concerns ⟨taken, fun contactId task => ?_⟩).weaken
          fun _ _ now => now.1
        rw [Engine.record, currentTask_mark engine.log rfl] at task
        cases task
        cases seals

variable (Core) in
/-- The number of a sealed message is read off its payload. -/
def messageNumberOf (wirePayload : Bytes) : Option Nat :=
  (ConstructCore.unpack Core wirePayload).toOption.map WirePayload.messageNumber

variable (Core) in
/-- The core numbers the messages of each session that the engine initiates from 0 on. -/
def numberedLaw (log : List Event) : Event → Prop
  | .core (.encrypt contactId _ (.ok wirePayload)) =>
      ∀ number ∈ (numbering log).next contactId, messageNumberOf Core wirePayload = some number
  | _ => True

instance decidableNumberedLaw (log : List Event) (event : Event) :
    Decidable (numberedLaw Core log event) := by
  unfold numberedLaw
  split <;> infer_instance

variable (Core) in
/-- A stream accepted the frame with message number 0 of the current session. -/
def ZeroAccepted (contactId : String) (log : List Event) : Prop :=
  ∃ front plaintext wirePayload middle site handle frame,
    log = front ++ .core (.encrypt contactId plaintext (.ok wirePayload)) :: middle ∧
    messageNumberOf Core wirePayload = some 0 ∧
    (∀ event ∈ middle, event.renews contactId = false) ∧
    .sent site handle frame true ∈ middle ∧ Carries frame wirePayload

variable (Core) in
/-- A session that the initiator reports has its message number 0 accepted, and so has each session
that the engine initiated before a stream accepts a frame with a greater number. -/
def sessionInitLaw (log : List Event) : Event → Prop
  | .action (.sessionEstablished established _) =>
      ∀ contactId, currentTask log = some (.event (.initSessionInitiator contactId)) →
        established = contactId ∧ ZeroAccepted Core contactId log
  | .sent site _ frame true => site.seals = true →
      ∃ front contactId wirePayload, LastSealed log front contactId wirePayload ∧
        Carries frame wirePayload ∧ (((numbering front).next contactId).isSome = true →
          ∀ number, messageNumberOf Core wirePayload = some number → 0 < number →
          ZeroAccepted Core contactId front)
  | _ => True

/-- The first message carries the number zero. -/
theorem FirstAccepted.zero {contactId : String} {log : List Event}
    (first : FirstAccepted contactId log) (numbered : AtEach (numberedLaw Core) log) :
    ZeroAccepted Core contactId log := by
  obtain ⟨front, plaintext, wirePayload, middle, site, handle, frame, rfl, start, rest⟩ := first
  exact ⟨front, plaintext, wirePayload, middle, site, handle, frame, rfl,
    numbered front _ middle rfl 0 start, rest⟩

/-- With numbered messages the law speaks of the payloads. -/
theorem initiationLaw_numbered {log : List Event} {event : Event}
    (numbered : AtEach (numberedLaw Core) log) (lawful : initiationLaw log event) :
    sessionInitLaw Core log event := by
  unfold initiationLaw at lawful
  split at lawful
  · intro contactId task
    obtain ⟨same, -, first⟩ := lawful contactId task
    exact ⟨same, first.zero numbered⟩
  · intro sealing
    obtain ⟨front, contactId, wirePayload, last, carries, first⟩ := lawful sealing
    refine ⟨front, contactId, wirePayload, last, carries, fun initiated number same positive => ?_⟩
    obtain ⟨plaintext, middle, rfl, -⟩ := last
    obtain ⟨next, started⟩ := Option.isSome_iff_exists.mp initiated
    have known := numbered front _ middle rfl next started
    obtain rfl : next = number := by simpa [same] using known.symm
    cases next with
    | zero => cases positive
    | succ previous => exact (first previous started).zero numbered.of_append
  · next established sent =>
      unfold sessionInitLaw
      split
      · exact (established _ _ rfl).elim
      · exact (sent _ _ _ rfl).elim
      · trivial

/-- In these runs the message number 0 of a session comes first. -/
theorem sessionInit_first {engine : Engine Core} (created : Engine.new config = .ok engine)
    {world : World Core} {program : EngineM Core Unit}
    (reached : Reaches (initiationPromise Core config) (startWorld engine, eventLoop config)
      (world, program))
    (numbered : AtEach (numberedLaw Core) world.engine.log) :
    AtEach (sessionInitLaw Core) world.engine.log := by
  obtain ⟨core, rfl⟩ := Engine.new_fresh created
  have start : Rested (startWorld (Engine.fresh config core)).engine.log :=
    ⟨fun _ _ => nofun, rfl⟩
  have lawful : AtEach initiationLaw world.engine.log :=
    traced_reached (fun _ _ => trivial) (eventLoop_rested _ start) (atEach_nil _) reached
  rintro before event later shape
  have known : AtEach (numberedLaw Core) before := by
    rw [shape] at numbered
    exact numbered.of_append
  exact initiationLaw_numbered known (lawful before event later shape)

end

/-- This core counts the messages that it sealed in its session. -/
structure CountingCore where
  sealed : Nat

/-- A wire payload is the message number before the plaintext. -/
instance countingCore : ConstructCore CountingCore where
  decodePrivateKeys _ := .ok ⟨[], [], [], []⟩
  fromKeys _ _ := .ok ⟨0⟩
  encryptBytesFor _ plaintext core := (.ok (UInt8.ofNat core.sealed :: plaintext), ⟨core.sealed + 1⟩)
  decryptBytesFor _ wirePayload core := (.ok wirePayload.tail, core)
  initSessionWithBundle _ _ _ _ := (.ok (), ⟨0⟩)
  initReceivingSessionWithMsg senderId _ first core := (.ok (senderId, first.content), core)
  exportOrchestratorStateCfe core := .ok [UInt8.ofNat core.sealed]
  importOrchestratorStateCfe _ core := (.ok (), core)
  getAllSessionContactIds _ := []
  generateOtpks _ core := (.ok [], core)
  rotateSpk core := (.ok (1, [], []), core)
  getRegistrationBundleFields _ := .ok ⟨[], [], [], []⟩
  clearHealRecord _ core := core
  enqueueHeal _ _ core := core
  recordHealAttempt _ core := (.notFound, core)
  unpack
    | number :: content => .ok ⟨number.toNat, [], content, none⟩
    | [] => .error "empty payload"
  computePow challenge _ := ⟨challenge, 0, []⟩
  sign _ message := message

/-- The machine runs the engine with a core that counts. -/
abbrev countingMachine := engineMachine CountingCore (rehearsalConfig [1] none)

/-- The engine begins with this core. -/
def countingStart : countingMachine.Configuration Unit :=
  (startWorld (Engine.fresh (rehearsalConfig [1] none) (some ⟨0⟩)), eventLoop (rehearsalConfig [1] none))

/-- The server accepts every request and every subscription. -/
def initiatingInputs (events : List UiEvent) (answers : Nat) : List countingMachine.Input :=
  events.map (fun event => .move (Move.dispatch event)) ++
    List.replicate answers (.answer {
      http := {
        recvResponse := .ok (⟨200, "200 OK"⟩, [])
        recvData := [[0, 0, 0, 0, 0]] }
      opened := { recvResponse := .ok ⟨200, "200 OK"⟩ } })

/-- The events are dispatched at once, and the server accepts everything. -/
def initiating (events : List UiEvent) (answers : Nat) : countingMachine.Configuration Unit :=
  run countingStart (initiatingInputs events answers)

/-- These runs are runs of the engine. -/
theorem initiating_reaches {promise : countingMachine.Promise} {events : List UiEvent} {answers : Nat}
    (allowed : AllAllowed promise countingStart (initiatingInputs events answers)) :
    Reaches promise countingStart
      ((initiating events answers).1, (initiating events answers).2) := run_reaches allowed

/-- A frame was accepted by a stream. -/
def Event.isAccepted : Event → Bool
  | .sent _ _ _ accepted => accepted
  | _ => false

/-- The initiator asks for a session with this contact. -/
def establishedBy : Event → Option String
  | .event (.initSessionInitiator contactId) => some contactId
  | _ => none

/-- A session is reported. -/
def Event.isEstablished : Event → Bool
  | .action (.sessionEstablished ..) => true
  | _ => false

/-- A lawful trace that ends with the report of the initiator contains an accepted frame. -/
theorem accepted_of_established {Core : Type} [ConstructCore Core] [Prost] {log : List Event}
    (lawful : AtEach (sessionInitLaw Core) log) (last : log.getLast?.any Event.isEstablished = true)
    (task : ((currentTask log.dropLast).bind establishedBy).isSome = true) :
    log.any Event.isAccepted = true := by
  obtain ⟨event, ends, established⟩ := (Option.any_eq_true _ _).mp last
  obtain ⟨front, rfl⟩ := List.getLast?_eq_some_iff.mp ends
  rw [List.dropLast_concat] at task
  obtain ⟨contactId, task⟩ := Option.isSome_iff_exists.mp task
  obtain ⟨mark, current, initiates⟩ := Option.bind_eq_some_iff.mp task
  obtain rfl : mark = .event (.initSessionInitiator contactId) := by
    unfold establishedBy at initiates
    split at initiates <;> cases initiates
    rfl
  have law := lawful front event [] rfl
  unfold Event.isEstablished at established
  split at established
  · obtain ⟨-, sealedFront, _, _, middle, site, handle, frame, rfl, -, -, sent, -⟩ := law contactId current
    exact List.any_eq_true.mpr ⟨.sent site handle frame true, by simp [sent], rfl⟩
  · cases established

/-- No stream is open, and the session is reported without its first frame. -/
theorem sessionInit_first_fails :
    ¬ ∀ world later, Reaches (Promise.any countingMachine) countingStart (world, later) →
      AtEach (numberedLaw CountingCore) world.engine.log →
      AtEach (sessionInitLaw CountingCore) world.engine.log := by
  intro lawful
  have reached := initiating_reaches (allAllowed_any
    (initiatingInputs [.initSessionInitiator "alice"] 24) countingStart)
  have claimed := accepted_of_established (lawful _ _ reached (by decide +kernel))
    (by decide +kernel) (by decide +kernel)
  exact absurd claimed (by decide +kernel)

/-- The stream is open before the session is initiated, and the next message follows the first. -/
def openedFirst : List UiEvent :=
  [.openMessageStream ["c"] none, .initSessionInitiator "alice",
    .sendMessage "alice" [1] "l1" "alice" .normal]

theorem sessionInit_first_opened :
    ((initiating openedFirst 50).1.engine.log.filter Event.isAccepted).length = 2 ∧
      AtEach (sessionInitLaw CountingCore) (initiating openedFirst 50).1.engine.log := by
  have created : Engine.new (rehearsalConfig [1] none) =
      .ok (Engine.fresh (rehearsalConfig [1] none) (some (⟨0⟩ : CountingCore))) := rfl
  have allowed : AllAllowed (initiationPromise CountingCore (rehearsalConfig [1] none)) countingStart
      (initiatingInputs openedFirst 50) := by decide +kernel
  exact ⟨by decide +kernel, sessionInit_first created (initiating_reaches allowed) (by decide +kernel)⟩

end ConstructEngine
