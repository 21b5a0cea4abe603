import ConstructEngine.Interaction.Monitor
import ConstructEngine.Proof.Rehearsal
import ConstructEngine.Proof.Turn

namespace ConstructEngine

open Interaction Program Machine

variable {Core A : Type}

section
variable [Prost]

/-- The refresh token in an accepted answer of a login service, where a refresh may leave it out. -/
def tokenOf (servicePath : String) : Except EngineError Bytes → Option (Option String)
  | .error _ => none
  | .ok bytes =>
      if servicePath = authRegister then
        ((Prost.decode .registerDeviceResponse bytes).toOption.bind RegisterDeviceResponse.tokens).map
          fun tokens => some tokens.refreshToken
      else if servicePath = authAuthenticate then
        ((Prost.decode .authenticateDeviceResponse bytes).toOption.bind
          AuthenticateDeviceResponse.tokens).map fun tokens => some tokens.refreshToken
      else if servicePath = authRefresh then
        (Prost.decode .refreshTokenResponse bytes).toOption.map RefreshTokenResponse.refreshToken
      else none

/-- The latest refresh token that an answer carried, and whether an accepted answer has not been
reported to the platform yet. -/
structure TokenNote where
  latest : Option String
  reporting : Bool

def Op.tokenNote : {A : Type} → Op Core A → A → TokenNote → TokenNote
  | _, .exchange _ servicePath _ _, answers, note =>
      match tokenOf servicePath (doUnaryCall servicePath answers) with
      | some carried => ⟨carried.or note.latest, true⟩
      | none => note
  | _, .onAction (.setAuthToken ..), _, note => { note with reporting := false }
  | _, _, _, note => note

end

def reportedToken : Event → Option String
  | .action (.setAuthToken _ _ refreshToken _) => some refreshToken
  | _ => none

/-- This is the refresh token that the platform was told last. -/
def lastToken (log : List Event) : Option String := (log.filterMap reportedToken).getLast?

/-- The engine and the platform hold the latest refresh token that an answer carried. -/
def Retains (engine : Engine Core) (note : TokenNote) : Prop :=
  ∀ state token, engine.tokenState.value = some state → note.latest = some token →
    state.refreshToken = token ∧ lastToken engine.log = some token

section
variable [ConstructCore Core] [Prost] {config : EngineConfig}

/-- The note follows the answers of the login services and the reports. -/
def tokenLedger (Core : Type) [ConstructCore Core] (config : EngineConfig) :
    (engineMachine Core config).Ledger TokenNote := ⟨fun op _ => op.tokenNote⟩

/-- This is the engine with the note next to its state. -/
abbrev tokenMachine (Core : Type) [ConstructCore Core] (config : EngineConfig) :
    Machine (Op Core) :=
  (engineMachine Core config).monitored (tokenLedger Core config)

/-- An answer without a token is accepted only while none has carried one. -/
def Op.carries : {A : Type} → Op Core A → Choice → TokenNote → Bool
  | _, .exchange _ servicePath _ _, choice, note =>
      tokenOf servicePath (doUnaryCall servicePath choice.http) != some none || note.latest.isNone
  | _, _, _, _ => true

/-- In these runs a refresh leaves out its token only while none was ever carried. -/
def carryingPromise (Core : Type) [ConstructCore Core] (config : EngineConfig) :
    (tokenMachine Core config).Promise where
  answers op choice state := op.carries choice state.2 = true
  moves _ _ := True

instance (A : Type) (op : Op Core A) (choice : (tokenMachine Core config).Choice)
    (state : (tokenMachine Core config).State) :
    Decidable ((carryingPromise Core config).answers op choice state) :=
  inferInstanceAs (Decidable (op.carries choice state.2 = true))

instance (move : (tokenMachine Core config).Move) (state : (tokenMachine Core config).State) :
    Decidable ((carryingPromise Core config).moves move state) := isTrue trivial

/-- A token is stored for an answer that has not been reported, the report names the stored token and
the latest one, and the loop waits when nothing is left to report. -/
def retainGuard (Core : Type) [ConstructCore Core] (config : EngineConfig) :
    (tokenMachine Core config).Guard := fun op state =>
  match op with
  | .tokenStateSend (some _) => TokenNote.reporting state.2 = true
  | .onAction (.setAuthToken _ _ refreshToken expiresAt) =>
      (World.engine state.1).tokenState.value = some ⟨refreshToken, expiresAt⟩ ∧
        ∀ token, TokenNote.latest state.2 = some token → refreshToken = token
  | .select _ => TokenNote.reporting state.2 = false
  | _ => True

/-- These topics are about something else than tokens. -/
def Tokenless (topic : Topic) : Prop :=
  topic ≠ .token ∧ topic ≠ .login ∧ topic ≠ .selection ∧ topic ≠ .rpc authRegister ∧
    topic ≠ .rpc authAuthenticate ∧ topic ≠ .rpc authRefresh

/-- Other services carry no refresh token. -/
theorem tokenOf_other {servicePath : String} (other : Tokenless (.rpc servicePath))
    (answer : Except EngineError Bytes) : tokenOf servicePath answer = none := by
  obtain ⟨-, -, -, register, authenticate, refresh⟩ := other
  have paths : servicePath ≠ authRegister ∧ servicePath ≠ authAuthenticate ∧ servicePath ≠ authRefresh :=
    ⟨fun same => register (by rw [same]), fun same => authenticate (by rw [same]),
      fun same => refresh (by rw [same])⟩
  cases answer with
  | error error => rfl
  | ok bytes => simp [tokenOf, paths]

omit [ConstructCore Core] in
/-- Outside of the tokens nothing is noted. -/
theorem tokenNote_kept {op : Op Core A} (tokenless : Tokenless op.topic) (value : A) (note : TokenNote) :
    op.tokenNote value note = note := by
  cases op with
  | exchange conn servicePath request token =>
      unfold Op.tokenNote
      dsimp only
      rw [tokenOf_other tokenless]
  | onAction action =>
      cases action <;> first | rfl | exact absurd rfl tokenless.2.1
  | _ => rfl

omit [Prost] in
/-- Only the operations of the timer write the stored token. -/
theorem exec_tokenState {op : Op Core A} (other : op.topic ≠ .token) {choice : Choice}
    {world after : World Core} {value : A}
    (answered : exec config op choice world = some (value, after)) :
    after.engine.tokenState = world.engine.tokenState := by
  have unwritten : op.writes .tokenState = false := by cases op <;> first | rfl | exact absurd rfl other
  exact (exec_frame answered).tokenState unwritten

omit [Prost] in
theorem lastToken_snoc {log : List Event} {event : Event} (other : event.topic ≠ .login) :
    lastToken (log ++ [event]) = lastToken log := by
  have silent : reportedToken event = none := by
    cases event with
    | action action => cases action <;> first | rfl | exact absurd rfl other
    | _ => rfl
  simp [lastToken, silent]

omit [Prost] in
/-- Only a report of a login changes the token that the platform was told last. -/
theorem exec_lastToken {op : Op Core A} (other : op.topic ≠ .login) {choice : Choice}
    {world after : World Core} {value : A}
    (answered : exec config op choice world = some (value, after)) :
    lastToken after.engine.log = lastToken world.engine.log := by
  exact exec_unrelated lastToken (by simp) (fun log event => lastToken_snoc) other answered

/-- Outside of a report the latest token stays where it is. -/
theorem retains_exec {op : Op Core A} {choice : Choice} {state after : World Core × TokenNote} {value : A}
    (guarded : retainGuard Core config op state)
    (retains : state.2.reporting = false → Retains state.1.engine state.2)
    (answered : (tokenMachine Core config).exec op choice state = some (value, after)) :
    after.2.reporting = false → Retains after.1.engine after.2 := by
  obtain ⟨done, written⟩ := monitored_exec answered
  change after.2 = op.tokenNote value state.2 at written
  rw [written]
  have kept (tokenState : after.1.engine.tokenState = state.1.engine.tokenState)
      (last : lastToken after.1.engine.log = lastToken state.1.engine.log)
      (note : op.tokenNote value state.2 = state.2) :
      (op.tokenNote value state.2).reporting = false → Retains after.1.engine (op.tokenNote value state.2) := by
    rw [note]
    intro settled
    unfold Retains
    rw [tokenState, last]
    exact retains settled
  have apart (tokenless : op.topic ≠ .token ∧ op.topic ≠ .login) (note : op.tokenNote value state.2 = state.2) :=
    kept (exec_tokenState tokenless.1 done) (exec_lastToken tokenless.2 done) note
  cases op with
  | tokenStateSend sent =>
      cases sent with
      | none =>
          obtain ⟨world, note⟩ := after
          cases done
          exact fun _ token _ current => absurd current (Option.some_ne_none token).symm
      | some token =>
          intro settled
          have reporting : state.2.reporting = true := guarded
          rw [show state.2.reporting = false from settled] at reporting
          cases reporting
  | tokenWrite token =>
      obtain ⟨world, note⟩ := after
      cases done
      exact kept rfl rfl rfl
  | onAction action =>
      obtain ⟨world, note⟩ := after
      cases done
      cases action with
      | setAuthToken userId accessToken refreshToken expiresAt =>
          rintro - token latest current carried
          obtain ⟨stored, agrees⟩ := guarded
          obtain rfl : ⟨refreshToken, expiresAt⟩ = token := Option.some.inj (stored.symm.trans current)
          obtain rfl : refreshToken = latest := agrees latest carried
          exact ⟨rfl, by simp [Engine.record, lastToken, reportedToken]⟩
      | _ => exact kept rfl (by simp [Engine.record, lastToken, reportedToken]) rfl
  | exchange conn servicePath request token =>
      cases carried : tokenOf servicePath (doUnaryCall servicePath value) with
      | none => exact apart ⟨by simp [Op.topic], by simp [Op.topic]⟩ (by simp only [Op.tokenNote, carried])
      | some token =>
          simp only [Op.tokenNote, carried]
          exact fun settled => by cases settled
  | core region => exact apart ⟨by cases region <;> simp [Op.topic, CoreSection.topic], by
      cases region <;> simp [Op.topic, CoreSection.topic]⟩ rfl
  | streamWrite stream => exact apart ⟨by cases stream <;> simp [Op.topic], by
      cases stream <;> simp [Op.topic]⟩ rfl
  | _ => exact apart ⟨by simp [Op.topic], by simp [Op.topic]⟩ rfl

/-- The engine and the note belong to the program. -/
def tokenOwned (Core : Type) [ConstructCore Core] (config : EngineConfig) :
    (tokenMachine Core config).Owned (Engine Core × TokenNote) :=
  (engineOwned Core config).monitored (tokenLedger Core config)

/-- The program, begun with this engine and note, stores and reports only the latest token. -/
abbrev RetainSafe (config : EngineConfig) (program : EngineM Core A)
    (result : A → Engine Core × TokenNote → Prop) (view : Engine Core × TokenNote) : Prop :=
  (tokenOwned Core config).Safe (carryingPromise Core config) (retainGuard Core config) program result view

/-- Every accepted answer has been reported. -/
def Reported (view : Engine Core × TokenNote) : Prop := view.2.reporting = false

/-- An operation outside of the tokens leaves the note alone. -/
theorem note_step {op : Op Core A} (free : ∀ state, retainGuard Core config op state)
    (still : ∀ value note, op.tokenNote value note = note) {view : Engine Core × TokenNote} :
    RetainSafe config (perform op) (fun _ after => after.2 = view.2) view := by
  refine Owned.safe_perform (fun state _ => free state) fun state choice value after same _ answered => ?_
  cases same
  obtain ⟨-, written⟩ := monitored_exec answered
  exact written.trans (still value state.2)

/-- An operation outside of the tokens may always be answered and leaves the note alone. -/
theorem tokenless_step {op : Op Core A} (tokenless : Tokenless op.topic) (view : Engine Core × TokenNote) :
    RetainSafe config (perform op) (fun _ after => after.2 = view.2) view := by
  refine note_step (fun state => ?_) (tokenNote_kept tokenless)
  cases op with
  | tokenStateSend => exact absurd rfl tokenless.1
  | onAction action =>
      cases action <;> first | trivial | exact absurd rfl tokenless.2.1
  | select => exact absurd rfl tokenless.2.2.1
  | _ => trivial

/-- A program outside of the tokens leaves nothing to report. -/
theorem tokenless_concerns {program : EngineM Core A} (concerns : Concerns Tokenless program)
    {view : Engine Core × TokenNote} (now : Reported view) :
    RetainSafe config program (fun _ => Reported) view := by
  refine safe_uses (fun op view engages now => ?_) concerns now
  refine (tokenless_step ?_ view).weaken fun _ after same => by unfold Reported; rw [same]; exact now
  rcases engages with same | same | same | own
  · simp [same, Tokenless]
  · simp [same, Tokenless]
  · simp [same, Tokenless]
  · exact own

/-- The note after an answer in which a token may be. -/
def TokenNote.answered (note : TokenNote) : Option (Option String) → TokenNote
  | some carried => ⟨carried.or note.latest, true⟩
  | none => note

/-- A call leaves a note of the token in its answer. -/
theorem unaryCall_notes (servicePath : String) (request : Bytes) (view : Engine Core × TokenNote) :
    RetainSafe config (unaryCall servicePath request) (fun answer after =>
      after.2 = view.2.answered (tokenOf servicePath answer) ∧
        (tokenOf servicePath answer = some none → view.2.latest = none)) view := by
  have linked {B : Type} (op : Op Core B) (linking : Linking op.topic) : Tokenless op.topic := by
    rcases linking with same | same <;> simp [same, Tokenless]
  have split : RetainSafe config (unaryCall servicePath request) (fun answer after =>
      (∃ error, answer = .error error ∧ after.2 = view.2) ∨
        after.2 = view.2.answered (tokenOf servicePath answer) ∧
          (tokenOf servicePath answer = some none → view.2.latest = none)) view := by
    refine unaryCall_split (fun op middle linking same => ?_) (fun conn token middle same => ?_)
      (fun answer middle known => ?_) rfl
    · exact (tokenless_step (linked op linking) middle).weaken fun _ after now => now.trans same
    · refine Owned.safe_perform (fun _ _ => trivial) fun state choice exchange after now kept answered => ?_
      cases now
      obtain ⟨done, written⟩ := monitored_exec answered
      obtain ⟨world, note⟩ := after
      cases done
      cases written
      have carries : (tokenOf servicePath (doUnaryCall servicePath choice.http) != some none ||
        state.2.latest.isNone) = true := kept
      have same : state.2 = view.2 := same
      refine ⟨?_, fun missing => ?_⟩
      · change (match tokenOf servicePath (doUnaryCall servicePath choice.http) with
          | some carried => (⟨carried.or state.2.latest, true⟩ : TokenNote)
          | none => state.2) = _
        rw [same]
        cases tokenOf servicePath (doUnaryCall servicePath choice.http) <;> rfl
      · rw [missing, same] at carries
        simpa using carries
    · have connection : Tokenless (Op.topic (.h3Drop : Op Core Unit)) := by simp [Tokenless, Op.topic]
      exact (tokenless_step connection middle).weaken fun _ after now => by rw [now]; exact known
  refine split.weaken fun answer after known => ?_
  obtain ⟨error, rfl, same⟩ | known := known
  · exact ⟨same, fun missing => by cases missing⟩
  · exact known

/-- The access token is not noted. -/
theorem tokenWrite_notes (token : Option String) (view : Engine Core × TokenNote) :
    RetainSafe config (perform (.tokenWrite token)) (fun _ after => after.2 = view.2) view := by
  apply note_step
  · exact fun _ => trivial
  · exact fun _ _ => rfl

/-- A cleared timer carries no token. -/
theorem tokenStateSend_clears (view : Engine Core × TokenNote) :
    RetainSafe config (perform (.tokenStateSend none)) (fun _ after => after.2 = view.2) view := by
  apply note_step
  · exact fun _ => trivial
  · exact fun _ _ => rfl

/-- A reported rejection carries no token. -/
theorem clearAuth_notes (view : Engine Core × TokenNote) :
    RetainSafe config (onAction .clearAuth) (fun _ after => after.2 = view.2) view := by
  apply note_step
  · exact fun _ => trivial
  · exact fun _ _ => rfl

/-- The writes of a login report the latest token. -/
theorem login_retains (userId accessToken refreshToken : String) (expiresAt : Int) {rest : EngineM Core A}
    (continues : ∀ view : Engine Core × TokenNote, Reported view →
      RetainSafe config rest (fun _ => Reported) view)
    {view : Engine Core × TokenNote} (reporting : view.2.reporting = true)
    (agrees : ∀ token, view.2.latest = some token → refreshToken = token) :
    RetainSafe config (do
        perform (.tokenWrite (some accessToken))
        perform (.tokenStateSend (some ⟨refreshToken, expiresAt⟩))
        onAction (.setAuthToken userId accessToken refreshToken expiresAt)
        rest) (fun _ => Reported) view := by
  refine (tokenWrite_notes _ view).andThen fun _ written same => ?_
  rw [← same] at reporting agrees
  have sends : RetainSafe config (perform (.tokenStateSend (some ⟨refreshToken, expiresAt⟩))) (fun _ after =>
      after.1.tokenState.value = some ⟨refreshToken, expiresAt⟩ ∧ after.2 = written.2) written := by
    refine Owned.safe_perform (fun state same => ?_) fun state choice value after same _ answered => ?_
    · cases same
      exact reporting
    · cases same
      obtain ⟨done, note⟩ := monitored_exec answered
      obtain ⟨world, later⟩ := after
      cases done
      exact ⟨rfl, note⟩
  refine sends.andThen fun _ sent known => ?_
  obtain ⟨stored, same⟩ := known
  have reports : RetainSafe config (onAction (.setAuthToken userId accessToken refreshToken expiresAt))
      (fun _ => Reported) sent := by
    refine Owned.safe_perform (fun state now => ?_) fun state choice value after now _ answered => ?_
    · cases now
      exact ⟨stored, fun token latest => agrees token (by rw [← same]; exact latest)⟩
    · obtain ⟨-, note⟩ := monitored_exec answered
      change after.2.reporting = false
      rw [note]
      rfl
  exact reports.andThen fun _ after reported => continues after reported

omit [ConstructCore Core] [Prost] in
/-- With the same note nothing is left to report either. -/
theorem Reported.still {view after : Engine Core × TokenNote} (now : Reported view)
    (same : after.2 = view.2) : Reported after := by
  unfold Reported
  rw [same]
  exact now

omit [ConstructCore Core] in
/-- An answer without tokens leaves nothing to report. -/
theorem Reported.unanswered {view after : Engine Core × TokenNote} {servicePath : String}
    {answer : Except EngineError Bytes} (now : Reported view)
    (note : after.2 = view.2.answered (tokenOf servicePath answer))
    (nothing : tokenOf servicePath answer = none) : Reported after :=
  now.still (by rw [note, nothing]; rfl)

/-- A refresh may answer without a refresh token. -/
theorem tokenOf_refresh (bytes : Bytes) : tokenOf authRefresh (.ok bytes) =
    (Prost.decode .refreshTokenResponse bytes).toOption.map RefreshTokenResponse.refreshToken := by
  unfold tokenOf
  dsimp only
  rw [if_neg (by simp [authRefresh, authRegister]), if_neg (by simp [authRefresh, authAuthenticate]),
    if_pos rfl]

/-- An authentication answers with its tokens or with a refusal. -/
theorem tokenOf_authenticate (bytes : Bytes) : tokenOf authAuthenticate (.ok bytes) =
    ((Prost.decode .authenticateDeviceResponse bytes).toOption.bind AuthenticateDeviceResponse.tokens).map
      fun tokens => some tokens.refreshToken := by
  unfold tokenOf
  dsimp only
  rw [if_neg (by simp [authAuthenticate, authRegister]), if_pos rfl]

/-- A registration answers with its tokens or with a refusal. -/
theorem tokenOf_register (bytes : Bytes) : tokenOf authRegister (.ok bytes) =
    ((Prost.decode .registerDeviceResponse bytes).toOption.bind RegisterDeviceResponse.tokens).map
      fun tokens => some tokens.refreshToken := rfl

theorem handleLogout_reported {view : Engine Core × TokenNote} (now : Reported view) :
    RetainSafe config (handleLogout config) (fun _ => Reported) view := by
  have other : Tokenless (.rpc authLogout) := by
    refine ⟨?_, ?_, ?_, ?_, ?_, ?_⟩ <;> simp [authLogout, authRegister, authAuthenticate, authRefresh]
  unfold handleLogout
  refine Owned.Safe.andThen (tokenless_concerns
    (built_unaryCall other : Built Tokenless (anyRequest Tokenless) _).concerns now) fun _ view now => ?_
  refine (tokenWrite_notes none view).andThen fun _ middle same => ?_
  have now := now.still same
  refine (tokenStateSend_clears middle).andThen fun _ last same => ?_
  have now := now.still same
  exact (clearAuth_notes last).weaken fun _ after same => now.still same

/-- An accepted refresh stores and reports the token that it brought, or none was known before. -/
theorem handleRefreshToken_reported (refreshToken : String) {view : Engine Core × TokenNote}
    (now : Reported view) :
    RetainSafe config (handleRefreshToken config refreshToken) (fun _ => Reported) view := by
  unfold handleRefreshToken
  refine (unaryCall_notes _ _ view).andThen fun answer middle known => ?_
  obtain ⟨note, missing⟩ := known
  split
  · have now := now.unanswered note rfl
    refine (tokenStateSend_clears middle).andThen fun _ last same => ?_
    have now := now.still same
    exact (clearAuth_notes last).weaken fun _ after same => now.still same
  · exact Owned.safe_done (now.unanswered note rfl)
  next bytes =>
    split
    next failed =>
      exact Owned.safe_done (now.unanswered note (by rw [tokenOf_refresh, failed]; rfl))
    next resp decoded =>
      have carried : tokenOf authRefresh (.ok bytes) = some resp.refreshToken := by
        rw [tokenOf_refresh, decoded]
        rfl
      rw [carried] at note missing
      refine login_retains _ _ _ _ (fun view now => tokenless_concerns
        (concerns_reopenStreamIfNeeded (by simp [Tokenless])) now) ?_ ?_
      · rw [note]
        rfl
      · intro token latest
        rw [note] at latest
        cases refreshed : resp.refreshToken with
        | some fresh =>
            rw [refreshed] at latest
            exact Option.some.inj latest
        | none =>
            rw [refreshed] at latest missing
            have latest : view.2.latest = some token := latest
            rw [missing rfl] at latest
            cases latest

omit [ConstructCore Core] in
/-- What follows a login is about the stream and the one-time keys. -/
theorem afterLogin_tokenless : Concerns Tokenless (do
    reopenStreamIfNeeded
    handleGetPreKeyCount config.myDeviceId : EngineM Core Unit) := by
  have other (servicePath : String) (apart : servicePath ∉ [authRegister, authAuthenticate, authRefresh]) :
      Tokenless (.rpc servicePath) := by
    simp only [List.mem_cons, List.not_mem_nil, or_false, not_or] at apart
    exact ⟨by simp, by simp, by simp, by simp [apart], by simp [apart], by simp [apart]⟩
  refine uses_bind (concerns_reopenStreamIfNeeded (by simp [Tokenless])) fun _ => ?_
  refine (built_handleGetPreKeyCount ?_ ?_ (fun _ => ?_) ?_ :
    Built Tokenless (anyRequest Tokenless) _).concerns
  · simp [Tokenless]
  · simp [Tokenless]
  · exact other keyUpload (by simp [keyUpload, authRegister, authAuthenticate, authRefresh])
  · exact other keyCount (by simp [keyCount, authRegister, authAuthenticate, authRefresh])

theorem handleAuthenticate_reported (deviceId : String) (challengeResponse signingKey : Bytes)
    {view : Engine Core × TokenNote} (now : Reported view) :
    RetainSafe config (handleAuthenticate config deviceId challengeResponse signingKey)
      (fun _ => Reported) view := by
  unfold handleAuthenticate
  have reads : Concerns Tokenless (perform .systemTime : EngineM Core Int) := concerns_reading rfl
  refine (tokenless_concerns reads now).andThen fun timestamp view now => ?_
  refine (unaryCall_notes _ _ view).andThen fun answer middle known => ?_
  obtain ⟨note, -⟩ := known
  split
  · have now := now.unanswered note rfl
    exact (clearAuth_notes middle).weaken fun _ after same => now.still same
  · exact Owned.safe_done (now.unanswered note rfl)
  next bytes =>
    split
    next failed =>
      exact Owned.safe_done (now.unanswered note (by rw [tokenOf_authenticate, failed]; rfl))
    next resp decoded =>
      split
      next absent =>
        refine Owned.safe_done (now.unanswered note ?_)
        rw [tokenOf_authenticate, decoded]
        change resp.tokens.map _ = none
        rw [absent]
        rfl
      next tokens present =>
        have carried : tokenOf authAuthenticate (.ok bytes) = some (some tokens.refreshToken) := by
          rw [tokenOf_authenticate, decoded]
          change resp.tokens.map _ = _
          rw [present]
          rfl
        rw [carried] at note
        refine login_retains _ _ _ _ (fun view now => tokenless_concerns afterLogin_tokenless now) ?_ ?_
        · rw [note]
          rfl
        · intro token latest
          rw [note] at latest
          exact Option.some.inj latest

theorem handleRegisterDevice_reported (username : Option String) (deviceId : String)
    {view : Engine Core × TokenNote} (now : Reported view) :
    RetainSafe config (handleRegisterDevice config username deviceId) (fun _ => Reported) view := by
  have challenge : Tokenless (.rpc authPowChallenge) := by
    refine ⟨?_, ?_, ?_, ?_, ?_, ?_⟩ <;> simp [authPowChallenge, authRegister, authAuthenticate, authRefresh]
  unfold handleRegisterDevice
  refine Owned.Safe.andThen (tokenless_concerns
    (built_unaryCall challenge : Built Tokenless (anyRequest Tokenless) _).concerns now) fun answer view now => ?_
  rcases answer with error | challengeBytes
  · exact Owned.safe_done now
  dsimp only
  split
  · exact Owned.safe_done now
  next challengeResp _ =>
  have solves : Concerns Tokenless (perform (.computePow challengeResp.challenge challengeResp.difficulty) :
      EngineM Core (Option PowSolution)) := concerns_reading rfl
  refine (tokenless_concerns solves now).andThen fun solved view now => ?_
  cases solved with
  | none => exact Owned.safe_done now
  | some powSolution =>
  have keys : Concerns Tokenless (perform (.core .registrationKeys) :
      EngineM Core (Except String DevicePublicKeys)) :=
    concerns_own (by simp [Tokenless, Op.topic, CoreSection.topic])
  refine (tokenless_concerns keys now).andThen fun exported view now => ?_
  rcases exported with error | publicKeys
  · exact Owned.safe_done now
  refine (unaryCall_notes _ _ view).andThen fun answer middle known => ?_
  obtain ⟨note, -⟩ := known
  split
  · have now := now.unanswered note rfl
    exact (clearAuth_notes middle).weaken fun _ after same => now.still same
  · exact Owned.safe_done (now.unanswered note rfl)
  next bytes =>
    split
    next failed =>
      exact Owned.safe_done (now.unanswered note (by rw [tokenOf_register, failed]; rfl))
    next resp decoded =>
      split
      next absent =>
        refine Owned.safe_done (now.unanswered note ?_)
        rw [tokenOf_register, decoded]
        change resp.tokens.map _ = none
        rw [absent]
        rfl
      next tokens present =>
        have carried : tokenOf authRegister (.ok bytes) = some (some tokens.refreshToken) := by
          rw [tokenOf_register, decoded]
          change resp.tokens.map _ = _
          rw [present]
          rfl
        rw [carried] at note
        refine login_retains _ _ _ _ (fun view now => ?_) ?_ ?_
        · refine Owned.Safe.andThen ?_ fun _ after same =>
            tokenless_concerns afterLogin_tokenless (now.still same)
          apply note_step
          · exact fun _ => trivial
          · exact fun _ _ => rfl
        · rw [note]
          rfl
        · intro token latest
          rw [note] at latest
          exact Option.some.inj latest

/-- Between two events every accepted answer has been reported. -/
theorem handleEvent_reported (event : UiEvent) {view : Engine Core × TokenNote} (now : Reported view) :
    RetainSafe config (handleEvent config event) (fun _ => Reported) view := by
  cases event
  case registerDevice username deviceId => exact handleRegisterDevice_reported username deviceId now
  case authenticate deviceId challengeResponse signingKey =>
      exact handleAuthenticate_reported deviceId challengeResponse signingKey now
  case refreshToken refreshToken => exact handleRefreshToken_reported refreshToken now
  case logout => exact handleLogout_reported now
  all_goals
    refine tokenless_concerns (built_handleEvent config _ ?_).concerns now
    simp [UiEvent.topics, keyCountTopics, receiveTopics, Tokenless, authRegister, authAuthenticate,
      authRefresh, keyGetBundle, keyUpload, keyCount, keyRotateSpk, userFind, notificationRegister,
      messagingGetPending]

/-- Only the login handlers and the timer concern tokens, so every turn leaves nothing to report. -/
theorem eventLoop_reported :
    Keeps (carryingPromise Core config) (retainGuard Core config)
      (fun state => Reported ((tokenOwned Core config).view state)) (eventLoop config) := by
  have kept {A : Type} {op : Op Core A} (tokenless : Tokenless op.topic) {view : Engine Core × TokenNote}
      (now : Reported view) : RetainSafe config (perform op) (fun _ => Reported) view :=
    (tokenless_step tokenless view).weaken fun _ after same => now.still same
  refine eventLoop_owned (fun _ => Reported) ?_ ?_ ?_ (fun view now => now) ?_
    (fun event view now => handleEvent_reported event now) ?_ (fun view now => now.elim id id)
  · intro A op view own now
    refine kept ?_ now
    rcases own with same | same | same | same <;> simp [same, Tokenless]
  · intro armed view now
    refine Owned.safe_perform (fun state same => ?_) fun state choice branch after same _ answered => ?_
    · cases same
      exact now
    · cases same
      obtain ⟨-, written⟩ := monitored_exec answered
      exact now.still written
  · intro view now
    have reads : Concerns Tokenless (perform .tokenStateRead :
        EngineM Core (Option TokenRefreshState)) := concerns_reading rfl
    refine (tokenless_concerns reads now).andThen fun due after now => ?_
    cases due with
    | none => exact Owned.safe_done now
    | some due => exact handleRefreshToken_reported due.refreshToken now
  · intro view now
    refine Owned.Safe.andThen ?_ fun _ after same =>
      tokenless_concerns (concerns_mono concerns_reconnect (by simp [Tokenless])) (now.still same)
    apply note_step
    · exact fun _ => trivial
    · exact fun _ _ => rfl
  · intro received view now
    refine tokenless_concerns (built_handleIncomingFrame ?_ ?_ ?_ ?_ ?_ ?_ ?_ (fun _ => ?_) ?_ received).concerns
      now <;> simp [anyRequest, Tokenless, keyGetBundle, authRegister, authAuthenticate, authRefresh]

/-- In these runs the engine and the platform hold the latest refresh token that an answer carried,
except while the answer is being reported. -/
theorem refreshToken_retained {engine : Engine Core} (created : Engine.new config = .ok engine)
    {world : World Core} {note : TokenNote} {later : EngineM Core Unit}
    (reached : Reaches (carryingPromise Core config)
      ((startWorld engine, ⟨none, false⟩), eventLoop config) ((world, note), later)) :
    (note.reporting = false → Retains world.engine note) ∧
      (isWaiting later = true → note.reporting = false) := by
  obtain ⟨core, rfl⟩ := Engine.new_fresh created
  have holds : Holds (carryingPromise Core config) (retainGuard Core config) (eventLoop config) _
    (startWorld (Engine.fresh config core), ⟨none, false⟩) := eventLoop_reported _ rfl
  constructor
  · refine holds.invariant (fun state => state.2.reporting = false → Retains state.1.engine state.2)
      ?_ ?_ (fun _ _ _ held => by cases held) reached
    · intro move state after retains _ moved
      obtain ⟨done, same⟩ := monitored_move moved
      obtain ⟨net, -, world⟩ := moveWorld_some done
      rw [same, world]
      exact retains
    · exact fun op choice state value after guarded retains _ answered => retains_exec guarded retains answered
  · intro waiting
    obtain ⟨armed, next, rfl⟩ := isWaiting_shape waiting
    exact (holds _ _ reached).1 _ _ _ rfl

end

/-- This server leaves the refresh token out of its refresh. -/
def briefDecode : {M : Type} → Schema M → Bytes → Except String M
  | _, .refreshTokenResponse, _ => .ok ⟨"b", none, 2000⟩
  | _, schema, bytes => rehearsalDecode schema bytes

/-- It decodes everything else as the rehearsal does. -/
abbrev briefProst : Prost := { rehearsalProst with decode := briefDecode }

/-- The login carries a token, and the refresh after it does not. -/
def briefRefresh : (@tokenMachine briefProst RehearsalCore _ (rehearsalConfig [] none)).Configuration Unit :=
  run ((startWorld (Engine.fresh (rehearsalConfig [] none) none), ⟨none, false⟩),
      @eventLoop RehearsalCore _ briefProst (rehearsalConfig [] none))
    ([UiEvent.authenticate "d" [] [], .refreshToken "r"].map (fun event => .move (Move.dispatch event)) ++
      List.replicate 60 (.answer servedChoice))

/-- The engine holds the empty token instead of the one that it was given. -/
theorem refreshToken_retained_fails :
    ¬ ∀ state later, Reaches (Promise.any (@tokenMachine briefProst RehearsalCore _ (rehearsalConfig [] none)))
      ((startWorld (Engine.fresh (rehearsalConfig [] none) none), ⟨none, false⟩),
        @eventLoop RehearsalCore _ briefProst (rehearsalConfig [] none)) (state, later) →
      isWaiting later = true → Retains state.1.engine state.2 := by
  intro retained
  have claimed := retained _ _ (run_reaches (allAllowed_any _ _) : Reaches _ _ briefRefresh)
    (by decide +kernel) ⟨"", 2000⟩ "r" (by decide +kernel) (by decide +kernel)
  exact absurd claimed.1 (by decide)

/-- The token of an accepted login. -/
def servedLogin : (tokenMachine RehearsalCore (rehearsalConfig [] none)).Configuration Unit :=
  run ((startWorld (Engine.fresh (rehearsalConfig [] none) none), ⟨none, false⟩),
      eventLoop (rehearsalConfig [] none))
    (.move (Move.dispatch (.authenticate "d" [] [])) :: List.replicate 40 (.answer servedChoice))

theorem refreshToken_retained_login : servedLogin.1.2.latest = some "r" ∧
    Retains servedLogin.1.1.engine servedLogin.1.2 := by
  have reached : Reaches (carryingPromise RehearsalCore (rehearsalConfig [] none))
      ((startWorld (Engine.fresh (rehearsalConfig [] none) none), ⟨none, false⟩),
        eventLoop (rehearsalConfig [] none))
      ((servedLogin.1.1, servedLogin.1.2), servedLogin.2) := run_reaches (by decide +kernel)
  exact ⟨by decide +kernel,
    (refreshToken_retained (rehearsal_without_core none) reached).1 (by decide +kernel)⟩

end ConstructEngine
