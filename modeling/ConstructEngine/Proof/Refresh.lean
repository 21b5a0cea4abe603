import ConstructEngine.Interaction.Monitor
import ConstructEngine.Proof.Rehearsal
import ConstructEngine.Proof.Timer

namespace ConstructEngine

open Interaction Program Machine

/-- The loop takes note of a token state, or the timer branch sends a refresh request while the
engine holds this state. -/
inductive TimerNote where
  | noted (state : Option TokenRefreshState) (clock : Nat)
  | issued (request : Bytes) (held : Option TokenRefreshState) (clock : Nat)

/-- This is when the note was written. -/
def TimerNote.clock : TimerNote → Nat
  | .noted _ clock | .issued _ _ clock => clock

/-- This is when the timer branch sent a request. -/
def TimerNote.issuedAt : TimerNote → Option Nat
  | .issued _ _ clock => some clock
  | .noted .. => none

section
variable [Prost] (config : EngineConfig)

/-- The request carries the refresh token and the configured device. -/
def refreshRequest (refreshToken : String) : Bytes :=
  Prost.encodeToVec .refreshTokenRequest ⟨refreshToken, config.myDeviceId⟩

/-- A request of the timer branch carries the held token, which is also the last one that the loop
took note of, ten seconds earlier or more. -/
def timerLaw (before : List TimerNote) : TimerNote → Prop
  | .issued request held clock => ∃ state noted, held = some state ∧
      request = refreshRequest config state.refreshToken ∧
      before.getLast? = some (.noted (some state) noted) ∧ noted + 10000 ≤ clock
  | .noted .. => True

end

variable {Core A : Type}

/-- The ledger notes the states that the loop reads and the requests of its timer branch. -/
def Op.timerNotes : {A : Type} → Op Core A → World Core → A → List TimerNote → List TimerNote
  | _, .tokenHasChanged, world, some state, notes => notes ++ [.noted state world.net.clock]
  | _, .exchange _ servicePath request _, world, _, notes =>
      if servicePath = authRefresh ∧ timerRuns world.engine.log then
        notes ++ [.issued request world.engine.tokenState.value world.net.clock]
      else notes
  | _, _, _, _, notes => notes

/-- Two requests of the timer branch are ten seconds apart, since the loop takes note of a token
between them. -/
theorem timerLaw_apart [Prost] {config : EngineConfig} {notes : List TimerNote}
    (lawful : AtEach (timerLaw config) notes) (ordered : notes.Pairwise (·.clock ≤ ·.clock)) :
    (notes.filterMap TimerNote.issuedAt).Pairwise fun first second => first + 10000 ≤ second := by
  induction notes using List.reverseRecOn with
  | nil => simp
  | append_singleton before last ih =>
      obtain ⟨earlier, now⟩ := atEach_snoc.mp lawful
      have sorted := (List.pairwise_append.mp ordered).1
      rw [List.filterMap_append]
      cases last with
      | noted state clock =>
          have silent : [TimerNote.noted state clock].filterMap TimerNote.issuedAt = [] := by
            simp [TimerNote.issuedAt]
          rw [silent, List.append_nil]
          exact ih earlier sorted
      | issued request held clock =>
          obtain ⟨state, noted, -, -, last, waited⟩ := now
          obtain ⟨front, rfl⟩ := List.getLast?_eq_some_iff.mp last
          refine List.pairwise_append.mpr ⟨ih earlier sorted, List.pairwise_singleton _ _, ?_⟩
          intro first member second single
          obtain rfl : second = clock := by simpa [TimerNote.issuedAt] using single
          obtain ⟨note, listed, issued⟩ := List.mem_filterMap.mp member
          have before : first ≤ noted := by
            cases note with
            | noted => cases issued
            | issued request held clock =>
                cases issued
                rcases List.mem_append.mp listed with front | single
                · exact (List.pairwise_append.mp sorted).2.2 _ front _ (List.mem_singleton_self _)
                · simp at single
          omega

variable [ConstructCore Core] {config : EngineConfig}

/-- The notes follow the operations. -/
def timerLedger (Core : Type) [ConstructCore Core] (config : EngineConfig) :
    (engineMachine Core config).Ledger (List TimerNote) := ⟨Op.timerNotes⟩

/-- This is the engine with the notes next to its state. -/
abbrev timerMachine (Core : Type) [ConstructCore Core] (config : EngineConfig) : Machine (Op Core) :=
  (engineMachine Core config).monitored (timerLedger Core config)

/-- Nothing that was written down lies in the future. -/
structure Clocked (state : World Core × List TimerNote) : Prop where
  past : ∀ note ∈ state.2, note.clock ≤ state.1.net.clock
  ordered : state.2.Pairwise (·.clock ≤ ·.clock)
  dues : ∀ due, .refreshDue due ∈ state.1.engine.log → due ≤ state.1.net.clock

omit [ConstructCore Core] in
/-- What is written down now lies after everything written before. -/
theorem Clocked.note {state : World Core × List TimerNote} (clocked : Clocked state) (note : TimerNote)
    (now : note.clock = state.1.net.clock) : Clocked (state.1, state.2 ++ [note]) where
  past other member := by
    rcases List.mem_append.mp member with earlier | last
    · exact clocked.past other earlier
    · rw [List.mem_singleton.mp last]
      exact Nat.le_of_eq now
  ordered := List.pairwise_append.mpr ⟨clocked.ordered, List.pairwise_singleton _ _, fun other member
    last single => by
      rw [List.mem_singleton.mp single, now]
      exact clocked.past other member⟩
  dues := clocked.dues

omit [ConstructCore Core] in
/-- An operation leaves the notes alone or adds one about this moment. -/
theorem timerNotes_grow (op : Op Core A) (world : World Core) (value : A) (notes : List TimerNote) :
    op.timerNotes world value notes = notes ∨ ∃ note, note.clock = world.net.clock ∧
      op.timerNotes world value notes = notes ++ [note] := by
  cases op with
  | tokenHasChanged =>
      cases value with
      | none => exact .inl rfl
      | some state => exact .inr ⟨_, rfl, rfl⟩
  | exchange conn servicePath request token =>
      unfold Op.timerNotes
      dsimp only
      split
      · exact .inr ⟨.issued .., rfl, rfl⟩
      · exact .inl rfl
  | _ => exact .inl rfl

/-- The engine does not move the clock. -/
theorem exec_clock {op : Op Core A} {choice : Choice} {world after : World Core} {value : A}
    (answered : exec config op choice world = some (value, after)) :
    after.net.clock = world.net.clock := by
  exact (exec_surrounds answered).clock

/-- A due refresh is recorded with the clock of its selection. -/
theorem exec_dues {op : Op Core A} {choice : Choice} {world after : World Core} {value : A}
    (answered : exec config op choice world = some (value, after)) {due : Nat}
    (member : .refreshDue due ∈ after.engine.log) :
    .refreshDue due ∈ world.engine.log ∨ due = world.net.clock := by
  obtain ⟨more, grown, -, traces⟩ := exec_traces answered
  rw [grown] at member
  rcases List.mem_append.mp member with earlier | fresh
  · exact .inl earlier
  have traced := traces _ fresh
  cases op with
  | select refreshArmed =>
      have same {event : Event} (recorded : world.engine.log ++ more = world.engine.log ++ [event]) :
          .refreshDue due = event := by
        rw [List.append_cancel_left recorded] at fresh
        exact List.mem_singleton.mp fresh
      rw [← grown] at member
      obtain ⟨-, -, rfl⟩ | ⟨-, -, rfl⟩ | ⟨-, ⟨event, rest, -, -, rfl⟩ | ⟨-, ⟨frame, rest, -, -, rfl⟩ |
        ⟨-, -, rfl⟩⟩⟩ := select_effect answered
      · cases same grown.symm
        exact .inr rfl
      · exact .inl member
      · cases same grown.symm
      · cases same grown.symm
      · exact .inl member
  | _ => simp [Op.Traces] at traced

/-- No move turns the clock back. -/
theorem clock_moves {recorded : Nat} {move : Move} {net after : Net}
    (moved : moveNet config recorded move net = some after) : net.clock ≤ after.clock := by
  cases move with
  | driverExits conn =>
      simp only [moveNet, Net.driverExits] at moved
      split at moved <;> cases moved
      exact Nat.le_refl _
  | pump number input =>
      simp only [moveNet, Net.movePump, Option.bind_eq_bind, Option.bind_eq_some_iff,
        Option.pure_def, Option.some.injEq] at moved
      obtain ⟨pump, _, ⟨stepped, frames⟩, _, rfl⟩ := moved
      exact Nat.le_refl _
  | dispatch event =>
      simp only [moveNet, Net.dispatch, Option.some.injEq] at moved
      subst moved
      split <;> exact Nat.le_refl _
  | retryDue index =>
      obtain ⟨frame, rfl⟩ := retryDue_some moved
      exact Nat.le_refl _
  | tick millis =>
      cases moved
      exact Nat.le_add_right _ _

/-- The environment may do anything, and the notes are in order of time. -/
abbrev timerPromise (Core : Type) [ConstructCore Core] (config : EngineConfig) :
    (timerMachine Core config).Promise :=
  ((Promise.any (engineMachine Core config)).monitored (timerLedger Core config)).given Clocked

/-- While time passes, the notes stay in the past. -/
theorem clocked_stable {promise : (timerMachine Core config).Promise} : Stable promise Clocked := by
  intro move state after clocked _ moved
  obtain ⟨done, same⟩ := monitored_move moved
  obtain ⟨net, stepped, world⟩ := moveWorld_some done
  have later : state.1.net.clock ≤ after.1.net.clock := by
    rw [world]
    exact clock_moves stepped
  constructor
  · rw [same]
    exact fun note member => Nat.le_trans (clocked.past note member) later
  · rw [same]
    exact clocked.ordered
  · intro due member
    rw [world] at member
    exact Nat.le_trans (clocked.dues due member) later

/-- What an operation writes down, it writes down now. -/
theorem clocked_exec {op : Op Core A} {choice : Choice} {state after : World Core × List TimerNote}
    {value : A} (clocked : Clocked state)
    (answered : (timerMachine Core config).exec op choice state = some (value, after)) :
    Clocked after := by
  obtain ⟨done, written⟩ := monitored_exec answered
  have same : after.1.net.clock = state.1.net.clock := exec_clock done
  have noted : Clocked (state.1, after.2) := by
    change after.2 = op.timerNotes state.1 value state.2 at written
    rcases timerNotes_grow op state.1 value state.2 with still | ⟨note, now, grown⟩
    · rw [written, still]
      exact clocked
    · rw [written, grown]
      exact clocked.note note now
  constructor
  · rw [same]
    exact noted.past
  · exact noted.ordered
  · intro due member
    rw [same]
    rcases exec_dues done member with earlier | now
    · exact clocked.dues due earlier
    · exact Nat.le_of_eq now

/-- The engine and the notes belong to the program. -/
def timerOwned (Core : Type) [ConstructCore Core] (config : EngineConfig) :
    (timerMachine Core config).Owned (Engine Core × List TimerNote) :=
  (engineOwned Core config).monitored (timerLedger Core config)

/-- An armed timer waits ten seconds or more after the loop took note of the held token. -/
def Armed (notes : List TimerNote) (armed : Bool) (timer : Timer) : Prop :=
  armed = true → ∃ state noted, timer.tokenState.value = some state ∧
    notes.getLast? = some (.noted (some state) noted) ∧ noted + 10000 ≤ timer.deadline

/-- The timer branch may ask for a refresh with this token. -/
def Due (view : Engine Core × List TimerNote) (state : TokenRefreshState) : Prop :=
  view.1.tokenState.value = some state ∧ ∃ noted due,
    view.2.getLast? = some (.noted (some state) noted) ∧
    currentTask view.1.log = some (.refreshDue due) ∧ noted + 10000 ≤ due

/-- Between two turns an armed timer waits for the state that the loop took note of. -/
def Resting (armed : Bool) (view : Engine Core × List TimerNote) : Prop :=
  view.1.timer.Noted (Armed view.2 armed)

omit [ConstructCore Core] in
/-- What a handler does to the timer keeps it so. -/
theorem Resting.still {armed : Bool} {view after : Engine Core × List TimerNote} {topic : Topic}
    (resting : Resting armed view) (handled : view.1.timer.Handled topic after.1.timer)
    (notes : after.2 = view.2) : Resting armed after := by
  unfold Resting
  rw [notes]
  exact Timer.Noted.handled resting handled

/-- A refresh request of the timer branch is due and carries the held token. -/
def refreshGuard [Prost] (Core : Type) [ConstructCore Core] (config : EngineConfig) :
    (timerMachine Core config).Guard := fun op state =>
  match op with
  | .exchange _ servicePath request _ => servicePath = authRefresh →
      timerRuns (World.engine state.1).log = true → ∃ held, Due (World.engine state.1, state.2) held ∧
        request = refreshRequest config held.refreshToken
  | _ => True

omit [ConstructCore Core] in
/-- Only the timer branch and the loop write notes. -/
theorem timerNotes_kept {op : Op Core A} (handles : op.steers = false) {world : World Core}
    (apart : op.topic = .rpc authRefresh → timerRuns world.engine.log = false) (value : A)
    (notes : List TimerNote) : op.timerNotes world value notes = notes := by
  cases op with
  | tokenHasChanged => cases handles
  | exchange conn servicePath request token =>
      unfold Op.timerNotes
      dsimp only
      rw [if_neg]
      rintro ⟨rfl, runs⟩
      rw [apart rfl] at runs
      cases runs
  | _ => rfl

/-- The delay is ten seconds or more, whatever the server says and however it wraps. -/
theorem secsUntilRefresh_ten (now expiresAt : Int) : 10 ≤ secsUntilRefresh now expiresAt := by
  have least : 10 ≤ max (wrapI64 (wrapI64 (expiresAt - now) - 300)) 10 := Int.le_max_right _ _
  exact Int.toNat_le_toNat least

section
variable [Prost]

/-- The program, begun with this engine and notes, sends only timer requests that are due. -/
abbrev TimerSafe (config : EngineConfig) (program : EngineM Core A)
    (result : A → Engine Core × List TimerNote → Prop) (view : Engine Core × List TimerNote) : Prop :=
  (timerOwned Core config).Safe (timerPromise Core config) (refreshGuard Core config) program result view

/-- An operation of a handler keeps the notes, what the loop works on and what a resting loop needs. -/
theorem timer_work {op : Op Core A} (handles : op.steers = false) (unselected : op.topic ≠ .selection)
    {view : Engine Core × List TimerNote}
    (apart : op.topic = .rpc authRefresh → timerRuns view.1.log = false) :
    TimerSafe config (perform op) (fun _ after => view.1.timer.Handled op.topic after.1.timer ∧
      currentTask after.1.log = currentTask view.1.log ∧ after.2 = view.2) view := by
  refine Owned.safe_perform (fun state same => ?_) fun state choice value after same _ answered => ?_
  · cases same
    cases op with
    | exchange conn servicePath request token =>
        rintro rfl runs
        have idle : timerRuns state.1.engine.log = false := apart rfl
        rw [idle] at runs
        cases runs
    | _ => trivial
  · cases same
    obtain ⟨done, written⟩ := monitored_exec answered
    exact ⟨exec_timer handles done, exec_task unselected done,
      written.trans (timerNotes_kept handles apart value state.2)⟩

/-- A state that the loop takes note of arms the timer ten seconds or more ahead. -/
theorem updateRefreshTimer_arms {armed : Bool} {view : Engine Core × List TimerNote}
    (resting : Resting armed view) :
    TimerSafe config (updateRefreshTimer armed) (fun armed after =>
      after.1.tokenSeen = after.1.tokenState.version ∧ Armed after.2 armed after.1.timer) view := by
  unfold updateRefreshTimer
  have looks : TimerSafe config (perform .tokenHasChanged) (fun changed after =>
      after.1.tokenSeen = after.1.tokenState.version ∧
        ((changed = none ∧ Armed after.2 armed after.1.timer) ∨
          ∃ state noted, changed = some state ∧ after.1.tokenState.value = state ∧
            after.2.getLast? = some (.noted state noted))) view := by
    refine Owned.safe_perform (fun _ _ => trivial) fun state choice changed after same _ answered => ?_
    cases same
    obtain ⟨done, written⟩ := monitored_exec answered
    obtain ⟨⟨engine, net⟩, notes⟩ := state
    obtain ⟨world, later⟩ := after
    change later = _ at written
    simp only [exec] at done
    split at done
    next seen =>
      cases done
      cases written
      exact ⟨seen, .inl ⟨rfl, resting.2 seen⟩⟩
    next =>
      cases done
      cases written
      exact ⟨rfl, .inr ⟨_, net.clock, rfl, rfl, List.getLast?_concat⟩⟩
  refine looks.andThen fun changed middle now => ?_
  obtain ⟨seen, ⟨rfl, armed⟩ | ⟨state, noted, rfl, held, last⟩⟩ := now
  · exact Owned.safe_done ⟨seen, armed⟩
  cases state with
  | none => exact Owned.safe_done ⟨seen, fun armed => absurd armed Bool.false_ne_true⟩
  | some state =>
  refine Owned.safe_step (fun _ _ => trivial) fun before read time after same _ answered => ?_
  obtain ⟨done, written⟩ := monitored_exec answered
  obtain ⟨world, notes⟩ := after
  change notes = before.2 at written
  cases same
  cases done
  cases written
  refine Owned.safe_step (fun _ _ => trivial) fun before choice _ after same kept answered => ?_
  obtain ⟨done, written⟩ := monitored_exec answered
  obtain ⟨world, notes⟩ := after
  change notes = before.2 at written
  have ten := secsUntilRefresh_ten read.time state.expiresAt
  have past : noted ≤ before.1.net.clock := by
    refine kept.2.past (.noted (some state) noted) (List.mem_of_getLast? ?_)
    exact (congrArg (fun view : Engine Core × List TimerNote => view.2.getLast?) same).trans last
  cases done
  cases written
  have engine : before.1.engine = _ := congrArg Prod.fst same
  refine Owned.safe_done ⟨?_, fun _ => ⟨state, noted, ?_, ?_, ?_⟩⟩
  · change before.1.engine.tokenSeen = before.1.engine.tokenState.version
    rw [engine]
    exact seen
  · change before.1.engine.tokenState.value = some state
    rw [engine]
    exact held
  · exact (congrArg (fun view : Engine Core × List TimerNote => view.2.getLast?) same).trans last
  · change noted + 10000 ≤ before.1.net.clock + secsUntilRefresh read.time state.expiresAt * 1000
    omega

/-- The timer branch is taken only when an armed timer is due. -/
theorem select_timer {armed : Bool} {view : Engine Core × List TimerNote}
    (now : view.1.tokenSeen = view.1.tokenState.version ∧ Armed view.2 armed view.1.timer) :
    TimerSafe config (perform (.select armed)) (TimerSelected (Resting armed)
      (fun after => Resting armed after ∧ timerRuns after.1.log = false)
      (fun after => Resting false after ∧ ∃ held, Due after held)) view := by
  refine Owned.safe_perform (fun _ _ => trivial) fun state choice branch after same _ answered => ?_
  cases same
  obtain ⟨done, written⟩ := monitored_exec answered
  obtain ⟨⟨engine, net⟩, notes⟩ := after
  change notes = state.2 at written
  cases written
  have taken : exec config (.select armed) choice state.1 = some (branch, ⟨engine, net⟩) := done
  have selected : state.1.engine.Selected branch engine := select_engine taken
  have seen : state.1.engine.tokenSeen ≤ state.1.engine.tokenState.version := Nat.le_of_eq now.1
  have rested : Resting armed (state.1.engine, state.2) := ⟨seen, fun _ => now.2⟩
  have marked (mark : Event) (topic : mark.topic = .selection) (idle : ∀ due, mark ≠ .refreshDue due) :
      timerRuns (state.1.engine.log ++ [mark]) = false := by
    unfold timerRuns
    rw [currentTask_mark _ topic]
    cases mark <;> first | rfl | exact absurd rfl (idle _)
  cases branch with
  | refresh =>
      obtain ⟨runs, passed, after⟩ := select_due taken
      cases after
      obtain ⟨held, noted, current, last, waits⟩ := now.2 runs
      have waits : noted + 10000 ≤ state.1.engine.deadline := waits
      exact ⟨⟨seen, fun _ armed => absurd armed Bool.false_ne_true⟩, held, current, noted,
        state.1.net.clock, last, currentTask_mark _ rfl, Nat.le_trans waits passed⟩
  | changed =>
      obtain ⟨connectedSeen, rfl⟩ := selected
      exact rested
  | event event =>
      cases event with
      | none => exact selected.elim
      | some ui =>
          cases selected
          exact ⟨rested, marked _ rfl fun _ => Event.noConfusion⟩
  | frame received =>
      cases selected
      exact ⟨rested, marked _ rfl fun _ => Event.noConfusion⟩
  | tokenChanged =>
      obtain ⟨impossible, -⟩ | ⟨impossible, -⟩ | ⟨-, ⟨_, _, -, impossible, -⟩ |
        ⟨-, ⟨_, _, -, impossible, -⟩ | ⟨-, -, after⟩⟩⟩ := select_effect taken
      · cases impossible
      · cases impossible
      · cases impossible
      · cases impossible
      · cases after
        exact ⟨Nat.le_refl _, fun _ => now.2⟩

/-- After the request, the rest of the refresh keeps an unarmed timer. -/
theorem timer_spent {program : EngineM Core A} (concerns : Concerns (· ∈ loginTopics) program)
    {view : Engine Core × List TimerNote} (now : Resting false view) :
    TimerSafe config program (fun _ => Resting false) view := by
  refine safe_uses (fun op view engages now => ?_) concerns now
  have listed : Working op.topic ∧ op.topic ≠ .rpc authRefresh := by
    rcases engages with same | same | same | own
    · simp [same, Working]
    · simp [same, Working]
    · simp [same, Working]
    · simp only [loginTopics, List.mem_cons, List.not_mem_nil, or_false] at own
      rcases own with same | same | same <;> simp [same, Working]
  refine (timer_work (steers_of_topic listed.1.1 listed.1.2) listed.1.2
    fun same => absurd same listed.2).weaken fun _ after kept => ?_
  obtain ⟨handled, -, notes⟩ := kept
  exact (now.handled handled).mono fun _ armed => absurd armed Bool.false_ne_true

theorem handleRefreshToken_issues {held : TokenRefreshState} {view : Engine Core × List TimerNote}
    (now : Resting false view ∧ Due view held) :
    TimerSafe config (handleRefreshToken config held.refreshToken) (fun _ => Resting false) view := by
  unfold handleRefreshToken
  have call : TimerSafe config (unaryCall authRefresh (refreshRequest config held.refreshToken))
      (fun answer after => (∃ error, answer = .error error ∧ Resting false after ∧ Due after held) ∨
        Resting false after) view := by
    refine unaryCall_split (fun op view linking now => ?_) (fun conn token view now => ?_)
      (fun answer view now => timer_spent (concerns_connection rfl) now) now
    · have working : Working op.topic ∧ op.topic ≠ .rpc authRefresh ∧ op.topic ≠ .token := by
        rcases linking with same | same <;> simp [same, Working]
      refine (timer_work (steers_of_topic working.1.1 working.1.2) working.1.2
        fun same => absurd same working.2.1).weaken fun _ after kept => ?_
      obtain ⟨same | ⟨token, -⟩, task, notes⟩ := kept
      · obtain ⟨resting, value, noted, due, last, current, waits⟩ := now
        have state : after.1.tokenState = view.1.tokenState := congrArg Timer.tokenState same
        refine ⟨?_, by rw [state]; exact value, noted, due, by rw [notes]; exact last,
          task.trans current, waits⟩
        unfold Resting
        rw [same]
        exact resting.mono fun _ armed => absurd armed Bool.false_ne_true
      · exact absurd token working.2.2
    · refine Owned.safe_perform (fun state same => ?_) fun state choice exchange after same _ answered => ?_
      · cases same
        exact fun _ _ => ⟨held, now.2, rfl⟩
      · cases same
        obtain ⟨done, written⟩ := monitored_exec answered
        obtain ⟨world, notes⟩ := after
        cases done
        exact ⟨now.1.1, fun _ armed => absurd armed Bool.false_ne_true⟩
  refine call.andThen fun answer after known => ?_
  have rested : Resting false after := by
    rcases known with ⟨-, -, rested, -⟩ | rested <;> exact rested
  have token {B : Type} (op : Op Core B) (topic : op.topic = .token) :
      Concerns (· ∈ loginTopics) (perform op) := concerns_own (by simp [topic, loginTopics])
  have report (action : PlatformAction) (topic : action.topic = .login) :
      Concerns (· ∈ loginTopics) (onAction action : EngineM Core Unit) :=
    concerns_own (by simp [Op.topic, topic, loginTopics])
  split
  · exact timer_spent (uses_bind (token _ rfl) fun _ => report _ rfl) rested
  · exact Owned.safe_done rested
  split
  · exact Owned.safe_done rested
  · refine timer_spent (uses_bind (token _ rfl) fun _ => uses_bind (token _ rfl) fun _ =>
      uses_bind (report _ rfl) fun _ => concerns_reopenStreamIfNeeded ?_) rested
    simp [loginTopics]

/-- Before the first turn no timer is armed, and each turn leaves a resting one. -/
theorem eventLoop_refresh {state : World Core × List TimerNote}
    (start : state.1.engine.tokenSeen ≤ state.1.engine.tokenState.version ∧
      timerRuns state.1.engine.log = false) :
    Holds (timerPromise Core config) (refreshGuard Core config) (eventLoop config) (fun _ _ => True)
      state := by
  have unarmed {view after : Engine Core × List TimerNote} {topic : Topic} (resting : Resting false view)
      (handled : view.1.timer.Handled topic after.1.timer) : Resting false after :=
    (resting.handled handled).mono fun _ armed => absurd armed Bool.false_ne_true
  refine eventLoop_timer (fun view => Resting false view ∧ timerRuns view.1.log = false)
    (fun view => Resting false view ∧ ∃ held, Due view held) Resting
    (fun armed view => Resting armed view ∧ timerRuns view.1.log = false)
    (fun armed view => view.1.tokenSeen = view.1.tokenState.version ∧ Armed view.2 armed view.1.timer)
    ?_ ?_ (fun armed view resting => updateRefreshTimer_arms resting)
    (fun armed view ready => select_timer ready) ?_ ?_ ?_ ?_ (fun armed view now => now.1) ?_
    ⟨⟨start.1, fun _ armed => absurd armed Bool.false_ne_true⟩, start.2⟩
  · intro A op view handles unselected _ now
    refine (timer_work handles unselected fun _ => now.2).weaken fun _ after kept => ?_
    exact ⟨unarmed now.1 kept.1, by rw [timerRuns, kept.2.1]; exact now.2⟩
  · intro view now
    refine Owned.safe_perform (fun _ _ => trivial) fun state choice value after same _ answered => ?_
    cases same
    obtain ⟨done, written⟩ := monitored_exec answered
    obtain ⟨world, notes⟩ := after
    cases done
    exact ⟨Nat.le_refl _, fun _ armed => absurd armed Bool.false_ne_true⟩
  · rintro view ⟨resting, held, due⟩
    refine Owned.safe_step (fun _ _ => trivial) fun state choice value after same _ answered => ?_
    cases same
    obtain ⟨done, written⟩ := monitored_exec answered
    obtain ⟨world, notes⟩ := after
    change notes = state.2 at written
    cases done
    cases written
    have current : state.1.engine.tokenState.value = some held := due.1
    rw [current]
    exact handleRefreshToken_issues ⟨resting, due⟩
  · intro armed view resting
    refine (timer_work rfl (by simp [Op.topic]) fun same => by cases same).weaken fun _ after kept => ?_
    exact resting.still kept.1 kept.2.2
  · intro armed view resting
    refine Owned.safe_perform (fun _ _ => trivial) fun state choice value after same _ answered => ?_
    cases same
    obtain ⟨done, written⟩ := monitored_exec answered
    obtain ⟨world, notes⟩ := after
    change notes = state.2 at written
    cases done
    cases written
    refine ⟨resting, ?_⟩
    change timerRuns (state.1.engine.log ++ [_]) = false
    rw [timerRuns, currentTask_mark _ rfl]
  · intro A armed op view working now
    refine (timer_work (steers_of_topic working.1 working.2) working.2 fun _ => now.2).weaken
      fun _ after kept => ?_
    exact ⟨now.1.still kept.1 kept.2.2, by rw [timerRuns, kept.2.1]; exact now.2⟩
  · exact fun view => Owned.safe_perform (fun _ _ => trivial) fun _ _ _ _ _ _ _ => trivial

/-- The law of the notes follows from the guard, since nothing that is due lies in the future. -/
theorem timerLaw_exec {op : Op Core A} {choice : Choice} {state after : World Core × List TimerNote}
    {value : A} (clocked : Clocked state) (guarded : refreshGuard Core config op state)
    (lawful : AtEach (timerLaw config) state.2)
    (answered : (timerMachine Core config).exec op choice state = some (value, after)) :
    AtEach (timerLaw config) after.2 := by
  obtain ⟨done, written⟩ := monitored_exec answered
  change after.2 = op.timerNotes state.1 value state.2 at written
  rw [written]
  cases op with
  | tokenHasChanged =>
      cases value with
      | none => exact lawful
      | some noted => exact atEach_snoc.mpr ⟨lawful, trivial⟩
  | exchange conn servicePath request token =>
      unfold Op.timerNotes
      dsimp only
      split
      next runs =>
        obtain ⟨held, ⟨current, noted, due, last, task, waits⟩, same⟩ := guarded runs.1 runs.2
        have passed := clocked.dues due (currentTask_mem task)
        exact atEach_snoc.mpr ⟨lawful, held, noted, current, same, last, Nat.le_trans waits passed⟩
      · exact lawful
  | _ => exact lawful

/-- In every run, each refresh of the timer branch carries the token that the engine holds and that
the loop took note of at least ten seconds before, and two of them are at least ten seconds apart. -/
theorem refresh_timely {engine : Engine Core} (created : Engine.new config = .ok engine)
    {world : World Core} {notes : List TimerNote} {later : EngineM Core Unit}
    (reached : Reaches ((Promise.any (engineMachine Core config)).monitored (timerLedger Core config))
      ((startWorld engine, []), eventLoop config) ((world, notes), later)) :
    AtEach (timerLaw config) notes ∧
      (notes.filterMap TimerNote.issuedAt).Pairwise fun first second => first + 10000 ≤ second := by
  obtain ⟨core, rfl⟩ := Engine.new_fresh created
  have start : Clocked (startWorld (Engine.fresh config core), []) :=
    ⟨by simp, List.Pairwise.nil, by simp [startWorld, Engine.fresh]⟩
  have kept {B : Type} (op : Op Core B) choice state value after (clocked : Clocked state) (_ : True)
      (answered : (timerMachine Core config).exec op choice state = some (value, after)) :
      Clocked after := clocked_exec clocked answered
  have clocked := reaches_invariant Clocked clocked_stable kept start reached
  have lawful : AtEach (timerLaw config) notes := by
    have holds : Holds (timerPromise Core config) (refreshGuard Core config) (eventLoop config) _
        (startWorld (Engine.fresh config core), []) := eventLoop_refresh ⟨Nat.le_refl _, rfl⟩
    refine holds.invariant (fun state => AtEach (timerLaw config) state.2) ?_ ?_ (atEach_nil _)
      (Reaches.given Clocked clocked_stable kept start reached)
    · intro move state after lawful _ moved
      rw [(monitored_move moved).2]
      exact lawful
    · exact fun op choice state value after guarded lawful permitted answered =>
        timerLaw_exec permitted.2 guarded lawful answered
  exact ⟨lawful, timerLaw_apart lawful clocked.ordered⟩

end

/-- The login is accepted with a token that expires after 1000 seconds, and time passes. -/
def timelyRun : (timerMachine RehearsalCore (rehearsalConfig [] none)).Configuration Unit :=
  run ((startWorld (Engine.fresh (rehearsalConfig [] none) none), []), eventLoop (rehearsalConfig [] none))
    ([.move (Move.dispatch (.authenticate "d" [] []))] ++
      List.replicate 40 (.answer servedChoice) ++
      [.move (Move.tick 700000)] ++ List.replicate 12 (.answer ({} : Choice)))

theorem refresh_timely_due : timelyRun.1.2.filterMap TimerNote.issuedAt = [700000] ∧
    AtEach (timerLaw (rehearsalConfig [] none)) timelyRun.1.2 :=
  ⟨by decide +kernel, (refresh_timely (rehearsal_without_core none)
    (run_reaches (allAllowed_any _ _))).1⟩

end ConstructEngine
