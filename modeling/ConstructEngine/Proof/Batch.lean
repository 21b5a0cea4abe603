import Mathlib.Data.List.Nodup
import ConstructEngine.Interaction.Monitor
import ConstructEngine.Proof.Envelope
import ConstructEngine.Proof.Rehearsal
import ConstructEngine.Proof.Turn

namespace ConstructEngine

open Interaction Program Machine

variable {Core A : Type}

/-- This is what a background push asked from the server, what it got, and what became of the
messages: the responder runs that began, the sessions that they established with a decrypted first
message, and the messages that were decrypted without a responder. -/
structure BatchNote where
  requests : List Bytes := []
  pages : List GetPendingMessagesResponse := []
  handed : List IncomingMessage := []
  inits : Nat := 0
  established : Nat := 0
  decrypted : Nat := 0

/-- The loop ended although its last page, if it got one, announced another one. -/
def BatchNote.cutShort (note : BatchNote) : Bool := note.pages.getLast?.all (·.hasMore)

/-- An empty cursor leads back to the first page. -/
def pageCursor (page : GetPendingMessagesResponse) : Option String :=
  if page.nextCursor.isEmpty then none else some page.nextCursor

/-- The cursor of the event is followed by the ones of the pages. -/
def pageCursors (sinceCursor : Option String) (pages : List GetPendingMessagesResponse) :
    List (Option String) := sinceCursor :: pages.map pageCursor

/-- The loop is about to report the end of the fetch. -/
def completion (program : EngineM Core Unit) : Option (Nat × Bool) :=
  match program with
  | .ask (.onAction (.backgroundFetchComplete decryptedCount hadErrors)) _ =>
      some (decryptedCount, hadErrors)
  | _ => none

/-- A fetch that is complete reports its totals. -/
theorem completion_shape {program : EngineM Core Unit} {totals : Nat × Bool}
    (complete : completion program = some totals) :
    ∃ next, program = .ask (.onAction (.backgroundFetchComplete totals.1 totals.2)) next := by
  unfold completion at complete
  split at complete
  · cases complete
    exact ⟨_, rfl⟩
  · cases complete

section
variable [Prost]

/-- A page begins at a cursor and has fifty messages at most. -/
def pageRequest (cursor : Option String) : Bytes :=
  Prost.encodeToVec .getPendingMessagesRequest ⟨cursor, some 50⟩

/-- A page comes from an answer that decodes. -/
def pageOf (answer : Except EngineError Bytes) : Option GetPendingMessagesResponse :=
  answer.toOption.bind fun bytes => (Prost.decode .getPendingMessagesResponse bytes).toOption

/-- Control messages and empty payloads are passed over. -/
def isWanted (msg : PendingMessage) : Bool :=
  (msg.contentType = Prost.e2eeSignal ∨ msg.contentType = 0) ∧ msg.encryptedPayload.isEmpty = false

/-- A message of a page is received under its own id. -/
def pendingMessage (msg : PendingMessage) : IncomingMessage :=
  ⟨msg.senderId, msg.encryptedPayload, msg.messageId, msg.senderId, msg.timestamp⟩

/-- A payload that can be unpacked is handed to the responder or decrypted. -/
def handedOver (Core : Type) [ConstructCore Core] (msg : PendingMessage) : Option IncomingMessage :=
  if isWanted msg ∧ (ConstructCore.unpack Core msg.encryptedPayload).isOk then some (pendingMessage msg)
  else none

/-- These many messages of the pages are wanted. -/
def BatchNote.wanted (note : BatchNote) : Nat := (note.pages.flatMap (·.messages)).countP isWanted

def Op.batchNote : {A : Type} → Op Core A → A → BatchNote → BatchNote
  | _, .exchange _ servicePath request _, answers, note =>
      if servicePath = messagingGetPending then
        { note with
          requests := note.requests ++ [request]
          pages := note.pages ++ (pageOf (doUnaryCall servicePath answers)).toList }
      else note
  | _, .handling .sessionInitResponder message, _, note =>
      { note with handed := note.handed ++ [message], inits := note.inits + 1 }
  | _, .handling _ message, _, note => { note with handed := note.handed ++ [message] }
  | _, .core (.receiveAndExport ..), answer, note =>
      { note with established := note.established + answer.toOption.toList.length }
  | _, .core (.decrypt ..), answer, note =>
      { note with decrypted := note.decrypted + answer.toOption.toList.length }
  | _, _, _, note => note

/-- The fetch reports its end. -/
def Op.endsFetch : {A : Type} → Op Core A → Bool
  | _, .onAction (.backgroundFetchComplete ..) => true
  | _, _ => false

variable [ConstructCore Core] {config : EngineConfig}

/-- The note follows the pages and the messages. -/
def batchLedger (Core : Type) [ConstructCore Core] (config : EngineConfig) :
    (engineMachine Core config).Ledger BatchNote := ⟨fun op _ => op.batchNote⟩

/-- This is the engine with the note next to its state. -/
abbrev batchMachine (Core : Type) [ConstructCore Core] (config : EngineConfig) : Machine (Op Core) :=
  (engineMachine Core config).monitored (batchLedger Core config)

/-- After these messages, the totals count the begun responder runs and the decrypted messages, and
the error flag stands for the other wanted messages. -/
structure Tallies (Core : Type) [ConstructCore Core] (done : List PendingMessage) (totals : Nat × Bool)
    (note : BatchNote) : Prop where
  handed : note.handed = done.filterMap (handedOver Core)
  counted : totals.1 = (note.inits + note.decrypted) % 2 ^ 32
  bounded : note.inits + note.decrypted ≤ done.countP isWanted
  erred : totals.2 = true ↔ note.inits + note.decrypted < done.countP isWanted
  established : note.established ≤ note.inits

/-- All pages so far announced another one, and the next request carries the latest cursor. -/
structure Continues (sinceCursor cursor : Option String) (note : BatchNote) : Prop where
  follows : note.requests ++ [pageRequest cursor] = (pageCursors sinceCursor note.pages).map pageRequest
  more : ∀ page ∈ note.pages, page.hasMore = true

/-- After the last page, the error flag also stands for a page that did not come. -/
structure Totals (totals : Nat × Bool) (note : BatchNote) : Prop where
  counted : totals.1 = (note.inits + note.decrypted) % 2 ^ 32
  bounded : note.inits + note.decrypted ≤ note.wanted
  erred : totals.2 = true ↔ note.inits + note.decrypted < note.wanted ∨ note.cutShort = true
  established : note.established ≤ note.inits

/-- A request carries the latest cursor, a message is handed over in its turn, and the report gives
the totals. -/
def batchGuard (Core : Type) [ConstructCore Core] (config : EngineConfig) (sinceCursor : Option String) :
    (batchMachine Core config).Guard := fun op state =>
  match op with
  | .exchange _ servicePath request _ => servicePath = messagingGetPending →
      ∃ cursor, request = pageRequest cursor ∧ Continues sinceCursor cursor state.2
  | .handling _ message => state.2.handed ++ [message] <+:
      (state.2.pages.flatMap (·.messages)).filterMap (handedOver Core)
  | .onAction (.backgroundFetchComplete decryptedCount hadErrors) =>
      Totals (decryptedCount, hadErrors) state.2
  | _ => True

/-- The program, begun with this note, reports only the totals of its pages. -/
abbrev BatchSafe (config : EngineConfig) (sinceCursor : Option String) (program : EngineM Core A)
    (result : A → BatchNote → Prop) (note : BatchNote) : Prop :=
  (batchLedger Core config).owned.Safe (Promise.any (batchMachine Core config))
    (batchGuard Core config sinceCursor) program result note

variable {sinceCursor : Option String}

theorem batch_step {op : Op Core A} {note : BatchNote}
    (free : ∀ state : (batchMachine Core config).State, state.2 = note →
      batchGuard Core config sinceCursor op state) :
    BatchSafe config sinceCursor (perform op) (fun value after => after = op.batchNote value note) note := by
  refine Owned.safe_perform free fun state choice value after same _ answered => ?_
  cases same
  exact (monitored_exec answered).2

/-- These topics are about something else than the batch. -/
def Unbatched (topic : Topic) : Prop :=
  topic ≠ .rpc messagingGetPending ∧ topic ≠ .handling ∧ topic ≠ .opening

omit [ConstructCore Core] in
theorem batchNote_kept {op : Op Core A} (unbatched : Unbatched op.topic) (value : A) (note : BatchNote) :
    op.batchNote value note = note := by
  cases op with
  | exchange conn servicePath request token =>
      have other : servicePath ≠ messagingGetPending := fun same => unbatched.1 (congrArg Topic.rpc same)
      simp [Op.batchNote, other]
  | handling => exact absurd rfl unbatched.2.1
  | core region =>
      cases region <;> first | rfl | exact absurd rfl unbatched.2.2
  | _ => rfl

/-- The program says nothing about the batch. -/
abbrev Unfetched (program : EngineM Core A) : Prop :=
  program.Uses fun op => Unbatched op.topic ∧ op.endsFetch = false

omit [Prost] [ConstructCore Core] in
theorem linking_unfetched {op : Op Core A} (linking : Linking op.topic) :
    Unbatched op.topic ∧ op.endsFetch = false := by
  constructor
  · rcases linking with same | same <;> simp [Unbatched, same]
  · cases op with
    | onAction action => cases action <;> first | rfl | (rcases linking with same | same <;> cases same)
    | _ => rfl

omit [Prost] [ConstructCore Core] in
theorem unfetched_reading {op : Op Core A} (reading : op.topic = .reading) : Unfetched (perform op) :=
  uses_perform (linking_unfetched (.inl reading))

omit [Prost] [ConstructCore Core] in
theorem unfetched_unaryCall {servicePath : String} (other : servicePath ≠ messagingGetPending)
    (request : Bytes) :
    Unfetched (unaryCall servicePath request : EngineM Core (Except EngineError Bytes)) :=
  asks_unaryCall (fun op linking => linking_unfetched linking) fun conn token =>
    ⟨by simp [Unbatched, Op.topic, other], rfl⟩

omit [Prost] [ConstructCore Core] in
theorem unfetched_saveState (stateBytes : Bytes) : Unfetched (saveState stateBytes : EngineM Core Unit) := by
  unfold saveState
  split
  · exact uses_pure ()
  · exact uses_perform ⟨by simp [Unbatched, Op.topic, PlatformAction.topic], rfl⟩

omit [ConstructCore Core] in
theorem unfetched_sendAckFrame (messageId : String) :
    Unfetched (sendAckFrame messageId : EngineM Core Unit) := by
  unfold sendAckFrame
  refine uses_bind (unfetched_reading rfl) fun timestamp => uses_bind (unfetched_reading rfl) fun stream => ?_
  cases stream with
  | none => exact uses_pure ()
  | some stream =>
      exact uses_bind (uses_perform ⟨by simp [Unbatched, Op.topic], rfl⟩) fun _ => uses_pure ()

/-- An operation about something else leaves the note alone. -/
theorem unbatched_step {op : Op Core A} (unbatched : Unbatched op.topic) (silent : op.endsFetch = false)
    (note : BatchNote) :
    BatchSafe config sinceCursor (perform op) (fun _ after => after = note) note := by
  refine (batch_step fun state same => ?_).weaken fun value after kept =>
    kept.trans (batchNote_kept unbatched value note)
  cases op with
  | exchange conn servicePath request token =>
      exact fun same => absurd (congrArg Topic.rpc same) unbatched.1
  | handling => exact absurd rfl unbatched.2.1
  | onAction action =>
      cases action with
      | backgroundFetchComplete decryptedCount hadErrors => cases silent
      | _ => trivial
  | _ => trivial

theorem unfetched_safe {program : EngineM Core A} (unfetched : Unfetched program) (note : BatchNote) :
    BatchSafe config sinceCursor program (fun _ after => after = note) note := by
  refine safe_uses (fun op view apart same => ?_) unfetched rfl
  subst same
  exact unbatched_step apart.1 apart.2 view

/-- The answer to a page request is noted, unless the request is never sent. -/
theorem fetchPage_notes {cursor : Option String} {note : BatchNote}
    (continues : Continues sinceCursor cursor note) :
    BatchSafe config sinceCursor
      (unaryCall messagingGetPending (pageRequest cursor) : EngineM Core _) (fun answer after =>
      (∃ error, answer = .error error ∧ after = note) ∨
        after = { note with
          requests := note.requests ++ [pageRequest cursor]
          pages := note.pages ++ (pageOf answer).toList }) note := by
  refine unaryCall_split (fun op middle linking same => ?_) (fun conn token middle same => ?_)
    (fun answer middle known => ?_) rfl
  · subst same
    exact unbatched_step (linking_unfetched linking).1 (linking_unfetched linking).2 middle
  · subst same
    refine Owned.safe_perform (fun state same _ => ⟨cursor, rfl, ?_⟩) ?_
    · change state.2 = middle at same
      rw [same]
      exact continues
    · intro state choice exchange after same _ answered
      cases same
      have written := (monitored_exec answered).2
      exact written.trans (by simp [batchLedger, Op.batchNote])
  · subst known
    exact unbatched_step (by simp [Unbatched, Op.topic]) rfl _

omit [ConstructCore Core] in
theorem unfetched_fetchBundle (userId noBundle : String) :
    Unfetched (fetchBundle userId noBundle : EngineM Core (Except String (PreKeyBundle × Bytes))) := by
  unfold fetchBundle
  refine uses_bind (unfetched_unaryCall (by decide) _) fun answer => ?_
  rcases answer with error | bytes
  · exact uses_pure _
  dsimp only
  split
  · exact uses_pure _
  · split <;> exact uses_pure _

/-- The note after a responder run that has decrypted the first message or not. -/
def BatchNote.responded (note : BatchNote) (message : IncomingMessage) (opened : Nat) : BatchNote :=
  { note with
    handed := note.handed ++ [message]
    inits := note.inits + 1
    established := note.established + opened }

/-- The responder establishes one session at most, and it says nothing about the batch otherwise. -/
theorem handleSessionInitResponder_notes {message : IncomingMessage} {note : BatchNote}
    (turn : note.handed ++ [message] <+:
      (note.pages.flatMap (·.messages)).filterMap (handedOver Core)) :
    BatchSafe config sinceCursor (handleSessionInitResponder message : EngineM Core Unit)
      (fun _ after => ∃ opened ≤ 1, after = note.responded message opened) note := by
  have unopened {program : EngineM Core Unit} (unfetched : Unfetched program) :
      BatchSafe config sinceCursor program
        (fun _ after => ∃ opened ≤ 1, after = note.responded message opened) (note.responded message 0) :=
    (unfetched_safe unfetched _).weaken fun _ after same => ⟨0, by omega, same⟩
  have action (action : PlatformAction) (session : action.topic = .session) :
      Unfetched (onAction action : EngineM Core Unit) := by
    refine uses_perform ⟨by simp [Unbatched, Op.topic, session], ?_⟩
    cases action <;> first | rfl | cases session
  have clear : Unfetched (perform (.core (.clearHeal message.senderId)) : EngineM Core Unit) :=
    uses_perform ⟨by simp [Unbatched, Op.topic, CoreSection.topic], rfl⟩
  have begun : BatchSafe config sinceCursor (perform (.handling .sessionInitResponder message) : EngineM Core Unit)
      (fun _ after => after = note.responded message 0) note :=
    batch_step (by rintro state rfl; exact turn)
  unfold handleSessionInitResponder
  refine begun.andThen fun _ middle same => ?_
  subst same
  refine (unfetched_safe (unfetched_fetchBundle _ _) _).andThen fun fetched middle same => ?_
  subst same
  rcases fetched with text | ⟨bundle, verifyingKey⟩
  · exact unopened (action _ rfl)
  dsimp only
  split
  · exact unopened (action _ rfl)
  next decoded unpacked =>
  have received (first : IncomingFirstMessage) : BatchSafe config sinceCursor
      (perform (.core (.receiveAndExport message.senderId (x3dhBundle bundle verifyingKey) first)) :
        EngineM Core (Except String (Bytes × Bytes)))
      (fun answer after => after = note.responded message answer.toOption.toList.length)
      (note.responded message 0) := batch_step (fun _ _ => trivial)
  refine (received _).andThen fun answer middle same => ?_
  subst same
  rcases answer with error | ⟨plaintext, stateBytes⟩
  · refine unopened (uses_bind
      (uses_perform ⟨by simp [Unbatched, Op.topic, CoreSection.topic], rfl⟩) fun decision => ?_)
    cases decision with
    | retryAllowed attempt retryAfterMs => exact uses_perform ⟨by simp [Unbatched, Op.topic], rfl⟩
    | maxAttemptsReached => exact uses_bind clear fun _ => action _ rfl
    | notFound => exact uses_bind clear fun _ => action _ rfl
  · refine (unfetched_safe ?_ _).weaken fun _ after same => ⟨1, Nat.le_refl 1, same⟩
    refine uses_bind clear fun _ => uses_bind (unfetched_saveState stateBytes) fun _ =>
      uses_bind (unfetched_sendAckFrame _) fun _ => uses_bind (action _ rfl) fun _ => ?_
    split
    · exact uses_pure ()
    · exact uses_perform ⟨by simp [Unbatched, Op.topic, PlatformAction.topic], rfl⟩

theorem handed_snoc (done : List PendingMessage) (msg : PendingMessage) :
    (done ++ [msg]).filterMap (handedOver Core) =
      done.filterMap (handedOver Core) ++ (handedOver Core msg).toList := by
  rw [List.filterMap_append, List.filterMap_cons]
  cases handedOver Core msg <;> rfl

/-- A message that is passed over changes nothing. -/
theorem Tallies.skip {done : List PendingMessage} {totals : Nat × Bool} {note : BatchNote}
    (tallies : Tallies Core done totals note) {msg : PendingMessage} (unwanted : isWanted msg = false) :
    Tallies Core (done ++ [msg]) totals note := by
  have handed : note.handed = (done ++ [msg]).filterMap (handedOver Core) := by
    simp [handedOver, unwanted, tallies.handed]
  exact ⟨handed, tallies.counted, by simpa [unwanted] using tallies.bounded,
    by simpa [unwanted] using tallies.erred, tallies.established⟩

/-- A wanted message that is not decrypted raises the flag. -/
theorem Tallies.miss {done : List PendingMessage} {totals : Nat × Bool} {note after : BatchNote}
    (tallies : Tallies Core done totals note) {msg : PendingMessage} (wanted : isWanted msg = true)
    (handed : after.handed = note.handed ++ (handedOver Core msg).toList)
    (same : after.inits = note.inits ∧ after.established = note.established ∧
      after.decrypted = note.decrypted) :
    Tallies Core (done ++ [msg]) (totals.1, true) after := by
  obtain ⟨inits, established, decrypted⟩ := same
  have bounded := tallies.bounded
  constructor
  · rw [handed, tallies.handed, handed_snoc]
  · rw [inits, decrypted]; exact tallies.counted
  · rw [inits, decrypted]; simp [wanted]; omega
  · rw [inits, decrypted]; simp [wanted]; omega
  · rw [inits, established]; exact tallies.established

/-- A message that counts as decrypted leaves the flag. -/
theorem Tallies.count {done : List PendingMessage} {totals : Nat × Bool} {note after : BatchNote}
    (tallies : Tallies Core done totals note) {msg : PendingMessage} (wanted : isWanted msg = true)
    (handed : after.handed = note.handed ++ (handedOver Core msg).toList)
    (one : after.inits + after.decrypted = note.inits + note.decrypted + 1)
    (established : after.established ≤ after.inits) :
    Tallies Core (done ++ [msg]) ((totals.1 + 1) % 2 ^ 32, totals.2) after := by
  have bounded := tallies.bounded
  constructor
  · rw [handed, tallies.handed, handed_snoc]
  · rw [one, tallies.counted]; simp
  · rw [one]; simp [wanted]; omega
  · rw [one, tallies.erred]; simp [wanted]
  · exact established

/-- Each message is passed over, missed, or counted, and it is handed over in its turn. -/
theorem handlePendingMessage_tallies {done : List PendingMessage} {totals : Nat × Bool} {note : BatchNote}
    (tallies : Tallies Core done totals note) {msg : PendingMessage}
    (turn : done ++ [msg] <+: note.pages.flatMap (·.messages)) :
    BatchSafe config sinceCursor (handlePendingMessage totals msg : EngineM Core (Nat × Bool))
      (fun totals after => Tallies Core (done ++ [msg]) totals after ∧
        after.requests = note.requests ∧ after.pages = note.pages) note := by
  have handed (offered : handedOver Core msg = some (pendingMessage msg)) :
      note.handed ++ [pendingMessage msg] <+:
        (note.pages.flatMap (·.messages)).filterMap (handedOver Core) := by
    have front := turn.filterMap (handedOver Core)
    rwa [handed_snoc, offered, ← tallies.handed] at front
  have quiet {program : EngineM Core Unit} (unfetched : Unfetched program) (note : BatchNote) :
      BatchSafe config sinceCursor program (fun _ after => after = note) note := unfetched_safe unfetched note
  unfold handlePendingMessage
  dsimp only
  split
  next control =>
      refine Owned.safe_done ⟨tallies.skip ?_, rfl, rfl⟩
      simp [isWanted, control.1, control.2]
  next content =>
  split
  next empty => exact Owned.safe_done ⟨tallies.skip (by simp [isWanted, empty]), rfl, rfl⟩
  next filled =>
  have wanted : isWanted msg = true := by
    simp only [Bool.not_eq_true] at filled
    simp only [isWanted, filled]
    by_cases signal : msg.contentType = Prost.e2eeSignal
    · simp [signal]
    · simpa [signal] using content
  split
  next error packed =>
      refine Owned.safe_done ⟨tallies.miss wanted ?_ ⟨rfl, rfl, rfl⟩, rfl, rfl⟩
      simp [handedOver, packed, Except.isOk, Except.toBool]
  next decoded unpacked =>
  have offered : handedOver Core msg = some (pendingMessage msg) := by
    simp [handedOver, wanted, unpacked, Except.isOk, Except.toBool]
  split
  next session =>
      have established := tallies.established
      refine (handleSessionInitResponder_notes (handed offered)).andThen fun _ after known => ?_
      obtain ⟨opened, few, rfl⟩ := known
      refine Owned.safe_done ⟨tallies.count wanted (by rw [offered]; rfl) ?_ ?_, rfl, rfl⟩
      · simp only [BatchNote.responded]; omega
      · simp only [BatchNote.responded]; omega
  next message =>
      have begun : BatchSafe config sinceCursor
          (perform (.handling .backgroundPush (pendingMessage msg)) : EngineM Core Unit)
          (fun _ after => after = { note with handed := note.handed ++ [pendingMessage msg] }) note :=
        batch_step (by rintro state rfl; exact handed offered)
      refine begun.andThen fun _ middle same => ?_
      subst same
      have opened : BatchSafe config sinceCursor
          (perform (.core (.decrypt msg.senderId msg.encryptedPayload)) : EngineM Core (Except String Bytes))
          (fun answer after => after = { note with
            handed := note.handed ++ [pendingMessage msg]
            decrypted := note.decrypted + answer.toOption.toList.length })
          { note with handed := note.handed ++ [pendingMessage msg] } := batch_step (fun _ _ => trivial)
      refine opened.andThen fun answer middle same => ?_
      subst same
      rcases answer with error | plaintext
      · exact Owned.safe_done ⟨tallies.miss wanted (by rw [offered]; rfl) ⟨rfl, rfl, rfl⟩, rfl, rfl⟩
      · refine (quiet (uses_perform ⟨by simp [Unbatched, Op.topic, PlatformAction.topic], rfl⟩) _).andThen
          fun _ middle same => ?_
        subst same
        refine (quiet (uses_perform ⟨by simp [Unbatched, Op.topic, PlatformAction.topic], rfl⟩) _).andThen
          fun _ middle same => ?_
        subst same
        exact Owned.safe_done ⟨tallies.count wanted (by rw [offered]; rfl) (Nat.add_assoc ..).symm
          tallies.established, rfl, rfl⟩

/-- The next page was announced, and its request is not there yet. -/
structure Paging (Core : Type) [ConstructCore Core] (sinceCursor : Option String)
    (progress : Option String × Nat × Bool) (note : BatchNote) : Prop where
  continues : Continues sinceCursor progress.1 note
  tallies : Tallies Core (note.pages.flatMap (·.messages)) progress.2 note

/-- A page that does not come ends the loop with the flag. -/
theorem Tallies.cut {totals : Nat × Bool} {note after : BatchNote}
    (tallies : Tallies Core (note.pages.flatMap (·.messages)) totals note)
    (same : after = note ∨ after = { note with requests := after.requests })
    (more : ∀ page ∈ note.pages, page.hasMore = true) : Totals (totals.1, true) after := by
  have cut : note.cutShort = true := by
    unfold BatchNote.cutShort
    cases last : note.pages.getLast? with
    | none => rfl
    | some page => exact more page (List.mem_of_getLast? last)
  have totalled (requests : List Bytes) : Totals (totals.1, true) { note with requests } :=
    ⟨tallies.counted, tallies.bounded, by simp [show ({ note with requests } : BatchNote).cutShort = true from cut],
      tallies.established⟩
  rcases same with rfl | same
  · exact totalled after.requests
  · rw [same]
    exact totalled after.requests

/-- A last page ends the loop with the totals of all pages. -/
theorem Tallies.last {pages : List GetPendingMessagesResponse} {resp : GetPendingMessagesResponse}
    {totals : Nat × Bool} {note : BatchNote} (fetched : note.pages = pages ++ [resp])
    (tallies : Tallies Core (note.pages.flatMap (·.messages)) totals note) (final : resp.hasMore = false) :
    Totals totals note := by
  have whole : note.cutShort = false := by simp [BatchNote.cutShort, fetched, final]
  exact ⟨tallies.counted, tallies.bounded, by simpa [whole, BatchNote.wanted] using tallies.erred,
    tallies.established⟩

/-- These messages of a page have been handled after the earlier ones. -/
structure Handled (Core : Type) [ConstructCore Core] (fetched : BatchNote)
    (earlier passed : List PendingMessage) (totals : Nat × Bool) (note : BatchNote) : Prop where
  tallies : Tallies Core (earlier ++ passed) totals note
  requests : note.requests = fetched.requests
  pages : note.pages = fetched.pages

/-- The messages of a page are handled one after the other. -/
theorem page_handled {fetched : BatchNote} {earlier messages : List PendingMessage} {totals : Nat × Bool}
    (tallies : Tallies Core earlier totals fetched)
    (arrived : fetched.pages.flatMap (·.messages) = earlier ++ messages) :
    BatchSafe config sinceCursor (messages.foldlM handlePendingMessage totals : EngineM Core _)
      (Handled Core fetched earlier messages) fetched := by
  refine Owned.safe_foldlM (Handled Core fetched earlier) messages ?_
    ⟨by rw [List.append_nil]; exact tallies, rfl, rfl⟩
  intro passed msg totals middle turn handled
  have next : (earlier ++ passed) ++ [msg] <+: middle.pages.flatMap (·.messages) := by
    rw [handled.pages, arrived, List.append_assoc, List.prefix_append_right_inj]
    exact turn
  refine (handlePendingMessage_tallies handled.tallies next).weaken fun totals after done => ?_
  obtain ⟨tallies, requests, pages⟩ := done
  rw [List.append_assoc] at tallies
  exact ⟨tallies, requests.trans handled.requests, pages.trans handled.pages⟩

/-- Each turn asks for the announced page and handles it, or ends the loop. -/
theorem backgroundPage_pages {progress : Option String × Nat × Bool} {note : BatchNote}
    (paging : Paging Core sinceCursor progress note) :
    BatchSafe config sinceCursor (backgroundPage progress : EngineM Core _) (fun outcome after =>
      outcome.elim (fun again => Paging Core sinceCursor again after) (fun totals => Totals totals after))
      note := by
  obtain ⟨cursor, totals⟩ := progress
  unfold backgroundPage
  refine (fetchPage_notes paging.continues).andThen fun answer after known => ?_
  rcases answer with error | respBytes
  · refine Owned.safe_done (paging.tallies.cut ?_ paging.continues.more)
    rcases known with ⟨-, -, same⟩ | same
    · exact .inl same
    · exact .inr (by rw [same]; simp [pageOf, Except.toOption])
  have fetched := known.resolve_left (by rintro ⟨error, impossible, -⟩; cases impossible)
  dsimp only
  split
  next error malformed =>
      refine Owned.safe_done (paging.tallies.cut (.inr ?_) paging.continues.more)
      rw [fetched]
      simp [pageOf, Except.toOption, malformed]
  next resp parsed =>
  have arrived : after = { note with
      requests := note.requests ++ [pageRequest cursor], pages := note.pages ++ [resp] } := by
    rw [fetched]
    simp [pageOf, Except.toOption, parsed]
  subst arrived
  have earlier : Tallies Core (note.pages.flatMap (·.messages)) totals { note with
      requests := note.requests ++ [pageRequest cursor], pages := note.pages ++ [resp] } :=
    ⟨paging.tallies.handed, paging.tallies.counted, paging.tallies.bounded, paging.tallies.erred,
      paging.tallies.established⟩
  refine (page_handled earlier (by simp)).andThen fun totals last done => ?_
  obtain ⟨tallies, requests, pages⟩ := done
  have whole : Tallies Core (last.pages.flatMap (·.messages)) totals last := by
    rw [pages, List.flatMap_append]
    simpa using tallies
  split
  next more =>
      refine Owned.safe_done ⟨⟨?_, ?_⟩, whole⟩
      · rw [requests, pages, paging.continues.follows]
        simp [pageCursors, pageCursor]
      · rw [pages]
        intro page member
        rcases List.mem_append.mp member with earlier | latest
        · exact paging.continues.more page earlier
        · cases List.mem_singleton.mp latest
          exact more
  next final => exact Owned.safe_done (whole.last pages (by simpa using final))

theorem handleBackgroundPush_totals (sinceCursor : Option String) :
    BatchSafe config sinceCursor (handleBackgroundPush sinceCursor : EngineM Core Unit) (fun _ _ => True) {} := by
  have paging : Paging Core sinceCursor (sinceCursor, 0, false) {} := by
    refine ⟨⟨rfl, fun page member => ?_⟩, ⟨rfl, rfl, Nat.le_refl _, ?_, Nat.le_refl _⟩⟩
    · cases member
    · simp
  have looped : BatchSafe config sinceCursor
      (iterate backgroundPage (sinceCursor, 0, false) : EngineM Core (Nat × Bool)) Totals {} :=
    Owned.safe_iterate (Paging Core sinceCursor) (fun progress note paging => backgroundPage_pages paging) paging
  unfold handleBackgroundPush
  refine looped.andThen fun totals note counted => ?_
  have exports : Unfetched (perform (.core .exportState) : EngineM Core (Except String Bytes)) :=
    uses_perform ⟨by simp [Unbatched, Op.topic, CoreSection.topic], rfl⟩
  refine (unfetched_safe exports note).andThen fun exported after same => ?_
  subst same
  have saves : Unfetched (exported.toOption.forM saveState : EngineM Core Unit) := by
    cases exported.toOption with
    | none => exact uses_pure ()
    | some stateBytes => exact unfetched_saveState stateBytes
  refine (unfetched_safe saves after).andThen fun _ last same => ?_
  subst same
  refine Owned.safe_perform (fun state same => ?_) fun _ _ _ _ _ _ _ => trivial
  change state.2 = last at same
  subst same
  exact counted

/-- The requests follow the pages, every page but the last one announced another one, and the messages
of the pages are handed over once each and in order. -/
structure Orderly (Core : Type) [ConstructCore Core] (sinceCursor : Option String) (note : BatchNote) :
    Prop where
  follows : note.requests <+: (pageCursors sinceCursor note.pages).map pageRequest
  more : ∀ page ∈ note.pages.take (note.requests.length - 1), page.hasMore = true
  handed : note.handed <+: (note.pages.flatMap (·.messages)).filterMap (handedOver Core)

theorem orderly_exec {op : Op Core A} {choice : Choice} {state after : (batchMachine Core config).State}
    {value : A} (guarded : batchGuard Core config sinceCursor op state)
    (orderly : Orderly Core sinceCursor state.2)
    (answered : (batchMachine Core config).exec op choice state = some (value, after)) :
    Orderly Core sinceCursor after.2 := by
  have written : after.2 = op.batchNote value state.2 := (monitored_exec answered).2
  rw [written]
  obtain ⟨world, note⟩ := state
  by_cases unbatched : Unbatched op.topic
  · rw [batchNote_kept unbatched]
    exact orderly
  cases op with
  | exchange conn servicePath request token =>
      by_cases pending : servicePath = messagingGetPending
      · obtain ⟨cursor, rfl, continues⟩ := guarded pending
        have grown : note.requests ++ [pageRequest cursor] =
          (pageCursors sinceCursor note.pages).map pageRequest := continues.follows
        have length := congrArg List.length grown
        simp only [List.length_append, List.length_map, pageCursors, List.length_cons, List.length_nil] at length
        simp only [Op.batchNote, pending, if_pos]
        refine ⟨?_, ?_, ?_⟩
        · rw [grown]
          refine List.IsPrefix.map _ ?_
          simp [pageCursors]
        · intro page member
          refine continues.more page ?_
          rwa [List.length_append, List.length_singleton, Nat.add_sub_cancel,
            show note.requests.length = note.pages.length by omega, List.take_left'] at member
          rfl
        · refine orderly.handed.trans (List.IsPrefix.filterMap _ ?_)
          simp
      · exact absurd (by simp [Unbatched, Op.topic, pending]) unbatched
  | handling path message => cases path <;> exact ⟨orderly.follows, orderly.more, guarded⟩
  | core region =>
      cases region <;> exact ⟨orderly.follows, orderly.more, orderly.handed⟩
  | _ => exact orderly

theorem pageRequest_injective
    (codec : ∀ cursor, RoundTrips .getPendingMessagesRequest (⟨cursor, some 50⟩ : GetPendingMessagesRequest)) :
    Function.Injective (pageRequest : Option String → Bytes) := by
  intro first second same
  have read := codec first
  unfold RoundTrips at read
  rw [show Prost.encodeToVec .getPendingMessagesRequest ⟨first, some 50⟩ = pageRequest first from rfl, same,
    show pageRequest second = Prost.encodeToVec .getPendingMessagesRequest ⟨second, some 50⟩ from rfl,
    codec second] at read
  cases read
  rfl

/-- In every run of a background push, the cursors of the requests are the one of the event and then
the one of each page, so that they differ exactly when these do. -/
theorem pages_followed
    (codec : ∀ cursor, RoundTrips .getPendingMessagesRequest (⟨cursor, some 50⟩ : GetPendingMessagesRequest))
    {start : World Core} {state : (batchMachine Core config).State} {later : EngineM Core Unit}
    (reached : Reaches (Promise.any (batchMachine Core config)) ((start, {}), handleBackgroundPush sinceCursor)
      (state, later)) :
    Orderly Core sinceCursor state.2 ∧
    (state.2.requests.Nodup ↔
      ((pageCursors sinceCursor state.2.pages).take state.2.requests.length).Nodup) := by
  have holds : Holds (Promise.any (batchMachine Core config)) (batchGuard Core config sinceCursor)
    (handleBackgroundPush sinceCursor) _ (start, {}) := handleBackgroundPush_totals sinceCursor _ rfl
  have orderly : Orderly Core sinceCursor state.2 := by
    refine holds.invariant (fun state => Orderly Core sinceCursor state.2) ?_ ?_ ?_ reached
    · intro move state after orderly _ moved
      rw [(monitored_move moved).2]
      exact orderly
    · exact fun op choice state value after guarded orderly _ answered => orderly_exec guarded orderly answered
    · refine ⟨List.nil_prefix, fun page member => ?_, List.nil_prefix⟩
      cases member
  refine ⟨orderly, ?_⟩
  rw [← List.nodup_map_iff (pageRequest_injective codec), List.map_take,
    ← List.prefix_iff_eq_take.mp orderly.follows]

/-- The report counts the messages that were decrypted, and it has errors when a page did not come or
a wanted message was not decrypted. -/
def Exact (totals : Nat × Bool) (note : BatchNote) : Prop :=
  totals.1 = note.established + note.decrypted ∧
    (totals.2 = true ↔ note.cutShort = true ∨ note.established + note.decrypted ≠ note.wanted)

/-- Every responder run has decrypted its message, and the count fits in 32 bits; or the runs that have
not are too many for the count to show them, and something else went wrong. -/
def Accountable (note : BatchNote) : Prop :=
  note.established + note.decrypted < 2 ^ 32 ∧ (note.established = note.inits ∨
    (note.inits - note.established) % 2 ^ 32 = 0 ∧
      (note.cutShort = true ∨ note.inits + note.decrypted < note.wanted))

/-- In every run of a background push, the report is exact if and only if no responder run has failed to
decrypt its message. -/
theorem fetch_accounted {start : World Core} {state : (batchMachine Core config).State}
    {later : EngineM Core Unit}
    (reached : Reaches (Promise.any (batchMachine Core config)) ((start, {}), handleBackgroundPush sinceCursor)
      (state, later)) {totals : Nat × Bool} (complete : completion later = some totals) :
    Exact totals state.2 ↔ Accountable state.2 := by
  have holds : Holds (Promise.any (batchMachine Core config)) (batchGuard Core config sinceCursor)
    (handleBackgroundPush sinceCursor) _ (start, {}) := handleBackgroundPush_totals sinceCursor _ rfl
  obtain ⟨next, rfl⟩ := completion_shape complete
  have now : Totals totals state.2 := (holds _ _ reached).1 _ _ _ rfl
  have counted := now.counted
  have bounded := now.bounded
  have established := now.established
  have count : totals.1 = state.2.established + state.2.decrypted ↔
      state.2.established + state.2.decrypted < 2 ^ 32 ∧
        (state.2.inits - state.2.established) % 2 ^ 32 = 0 := by omega
  unfold Exact Accountable
  rw [count, now.erred]
  by_cases cut : state.2.cutShort = true
  · simp only [cut, or_true, true_or, and_true]
    omega
  · simp only [cut, or_false, false_or, Bool.false_eq_true]
    omega

end

/-- A page request in full. -/
def pageRequestWire : Wire GetPendingMessagesRequest :=
  (Wire.text.option.pair Wire.nat.option).via (fun request => (request.sinceCursor, request.limit))
    (fun (sinceCursor, limit) => ⟨sinceCursor, limit⟩) fun _ => rfl

/-- This server always announces another page, whose cursor is the text of its answer. -/
abbrev pagingProst : Prost where
  encodeToVec
    | .getPendingMessagesRequest, request => pageRequestWire.put request
    | _, _ => []
  decode
    | .getPendingMessagesRequest, bytes =>
        match pageRequestWire.take bytes with
        | some (request, _) => .ok request
        | none => .error "malformed request"
    | .getPendingMessagesResponse, bytes =>
        .ok ⟨[], true, String.ofList (bytes.map fun byte => Char.ofNat byte.toNat)⟩
    | _, _ => .error "not paged"
  hybridKyber1024X25519 := 3
  hybridKyber768X25519 := 2
  e2eeSignal := 1
  scheduled := 1

theorem pagingProst_roundTrips (request : GetPendingMessagesRequest) :
    @RoundTrips pagingProst _ .getPendingMessagesRequest request := by
  change (match pageRequestWire.take (pageRequestWire.put request) with
    | some (request, _) => Except.ok request
    | none => .error "malformed request") = .ok request
  rw [pageRequestWire.taken_all]

/-- The server answers a request with this message of fewer than 256 bytes. -/
def answeredWith (message : Bytes) : Choice :=
  { http := {
      recvResponse := .ok (⟨200, "200 OK"⟩, [])
      recvData := [[0, 0, 0, 0, message.length.toUInt8] ++ message] } }

/-- A background push gets these answers. -/
def paged (answers : List Choice) :
    (@batchMachine pagingProst RehearsalCore _ (rehearsalConfig [] none)).Configuration Unit :=
  run ((startWorld (Engine.fresh (rehearsalConfig [] none) none), {}),
    @handleBackgroundPush RehearsalCore pagingProst _ none) (answers.map .answer)

/-- A server whose pages have no cursor gets the same request again. -/
theorem pages_followed_fails :
    ¬ ∀ state later, Reaches (Promise.any (@batchMachine pagingProst RehearsalCore _ (rehearsalConfig [] none)))
      ((startWorld (Engine.fresh (rehearsalConfig [] none) none), {}),
        @handleBackgroundPush RehearsalCore pagingProst _ none) (state, later) →
      state.2.requests.Nodup := by
  intro distinct
  have claimed := distinct _ _
    (run_reaches (allAllowed_any _ _) : Reaches _ _ (paged (List.replicate 16 (answeredWith []))))
  exact absurd claimed (by decide +kernel)

/-- A page with another cursor gets another request. -/
theorem pages_followed_forward :
    (paged (List.replicate 16 (answeredWith [97]))).1.2.requests.length = 2 ∧
    (paged (List.replicate 16 (answeredWith [97]))).1.2.requests.Nodup := by
  have reached : Reaches (Promise.any (@batchMachine pagingProst RehearsalCore _ (rehearsalConfig [] none)))
      ((startWorld (Engine.fresh (rehearsalConfig [] none) none), {}),
        @handleBackgroundPush RehearsalCore pagingProst _ none)
      ((paged (List.replicate 16 (answeredWith [97]))).1, (paged (List.replicate 16 (answeredWith [97]))).2) :=
    run_reaches (allAllowed_any _ _)
  exact ⟨by decide +kernel,
    (@pages_followed _ pagingProst _ _ _ (fun _ => pagingProst_roundTrips _) _ _ _ reached).2.mpr
      (by decide +kernel)⟩

/-- A background push gets one page with one message that starts a session. -/
def fetched (core : Option RehearsalCore) (answers : Nat) :
    (batchMachine RehearsalCore (rehearsalConfig [] none)).Configuration Unit :=
  run ((startWorld (Engine.fresh (rehearsalConfig [] none) core), {}), handleBackgroundPush none)
    (List.replicate answers (.answer (answeredWith [0])))

theorem fetched_reaches (core : Option RehearsalCore) (answers : Nat) :
    Reaches (Promise.any (batchMachine RehearsalCore (rehearsalConfig [] none)))
      ((startWorld (Engine.fresh (rehearsalConfig [] none) core), {}), handleBackgroundPush none)
      (fetched core answers) := by
  unfold fetched
  exact run_reaches (allAllowed_any _ _)

/-- An engine without a core counts a message that it has not decrypted. -/
theorem fetch_accounted_fails :
    ¬ ∀ final totals, Reaches (Promise.any (batchMachine RehearsalCore (rehearsalConfig [] none)))
      ((startWorld (Engine.fresh (rehearsalConfig [] none) none), {}), handleBackgroundPush none) final →
        completion final.2 = some totals → Exact totals final.1.2 := by
  intro exact
  have counted : completion (fetched none 19).2 = some (1, false) := by decide +kernel
  have claimed := (exact _ _ (fetched_reaches none 19) counted).1
  exact absurd claimed (by decide +kernel)

theorem fetch_accounted_session : Exact (1, false) (fetched (some ⟨[], []⟩) 20).1.2 := by
  have accounted (final : (batchMachine RehearsalCore (rehearsalConfig [] none)).Configuration Unit)
      (reached : Reaches (Promise.any (batchMachine RehearsalCore (rehearsalConfig [] none)))
        ((startWorld (Engine.fresh (rehearsalConfig [] none) (some ⟨[], []⟩)), {}), handleBackgroundPush none)
        final) (complete : completion final.2 = some (1, false)) (accountable : Accountable final.1.2) :
      Exact (1, false) final.1.2 := by
    obtain ⟨state, later⟩ := final
    exact (fetch_accounted reached complete).mpr accountable
  have opened : (fetched (some ⟨[], []⟩) 20).1.2.established = 1 ∧ (fetched (some ⟨[], []⟩) 20).1.2.decrypted = 0 ∧
      (fetched (some ⟨[], []⟩) 20).1.2.inits = 1 := by decide +kernel
  obtain ⟨established, decrypted, inits⟩ := opened
  refine accounted _ (fetched_reaches _ _) (by decide +kernel) ⟨?_, .inl (established.trans inits.symm)⟩
  rw [established, decrypted]
  decide

end ConstructEngine
