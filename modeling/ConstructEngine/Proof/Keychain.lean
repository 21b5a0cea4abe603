import Mathlib.Data.List.Basic
import ConstructEngine.Interaction.Evaluation
import ConstructEngine.Proof.Rehearsal

namespace ConstructEngine

open Interaction Program Machine

/-- The platform answers a keychain request with the stored blob or without one. -/
structure KeychainResult where
  key : String
  data : Option Bytes
  deriving DecidableEq

variable {Core : Type} [ConstructCore Core] {config : EngineConfig}

/-- This is what one keychain result makes of the core. -/
def restoredCore (config : EngineConfig) (core : Option Core) (result : KeychainResult) :
    Option Core :=
  match result.data with
  | none => core
  | some blob =>
      if result.key = "private_keys" then
        match buildCore Core blob config.myUserId with
        | .ok newCore => newCore
        | .error _ => core
      else if result.key = "orchestrator_state" then
        core.map fun core => (ConstructCore.importOrchestratorStateCfe blob core).2
      else core

/-- An action is recorded. -/
theorem evaluates_onAction (action : PlatformAction) (before : Engine Core) :
    (engineOwned Core config).Evaluates (onAction action) before () (before.record (.action action)) :=
  Owned.evaluates_perform fun _ state same => ⟨_, rfl, by rw [← same]; rfl⟩

/-- A section runs on the core that is there. -/
theorem evaluates_section {A : Type} (region : CoreSection Core A) (before : Engine Core) :
    (engineOwned Core config).Evaluates (perform (.core region)) before (region.run before.core).1
      (({ before with core := (region.run before.core).2.1 }).recordCalls
        (region.run before.core).2.2) :=
  Owned.evaluates_perform fun _ state same => by subst same; exact ⟨_, rfl, rfl⟩

/-- The core is built from its keys, or it stays as it was. -/
theorem evaluates_initCoreFromKeys (config : EngineConfig) (blob : Bytes) (userId : String) (before : Engine Core) :
    ∃ outcome after,
      (engineOwned Core config).Evaluates (initCoreFromKeys blob userId) before outcome after ∧
      after.core = match buildCore Core blob userId with
        | .ok newCore => newCore
        | .error _ => before.core := by
  unfold initCoreFromKeys
  cases built : buildCore Core blob userId with
  | error error => exact ⟨_, before, .done _ _, rfl⟩
  | ok newCore => exact ⟨_, _, (evaluates_section (.replace newCore) before).bind (.done _ _), rfl⟩

/-- A restored state goes into the core that is there. -/
theorem restore_core (blob : Bytes) (core : Option Core) :
    ((CoreSection.restore blob).run core).2.1 =
      core.map fun core => (ConstructCore.importOrchestratorStateCfe blob core).2 := by
  cases core with
  | none => rfl
  | some core =>
      cases answered : ConstructCore.importOrchestratorStateCfe blob core with
      | mk answer after =>
      rcases answer with message | ⟨⟩ <;>
        simp only [CoreSection.run, CoreSection.locked, CoreSection.restoreBody,
          LockedM.importOrchestratorStateCfe, LockedM.getAllSessionContactIds, LockedM.bind_run,
          LockedM.pure_run, answered, Option.map_some]

/-- The handler does to the core what the result says, and it always comes to its end. -/
theorem evaluates_handleKeychainResult (result : KeychainResult) (before : Engine Core) :
    ∃ after,
      (engineOwned Core config).Evaluates (handleKeychainResult config result.key result.data)
        before () after ∧
      after.core = restoredCore config before.core result := by
  rcases result with ⟨key, data⟩
  unfold handleKeychainResult restoredCore
  cases data with
  | none =>
      refine ⟨before, ?_, rfl⟩
      split_ifs <;> exact .done _ _
  | some blob =>
      dsimp only
      split_ifs with isKeys isState
      · obtain ⟨outcome, after, evaluates, core⟩ :=
          evaluates_initCoreFromKeys config blob config.myUserId before
        exact ⟨after, evaluates.bind (.done _ _), core⟩
      · have announced (restored : List String) (middle : Engine Core) :=
          (engineOwned Core config).evaluates_forM Engine.core (fun core _ => core)
            (fun contactId (_ : contactId ∈ restored) before =>
              ⟨_, evaluates_onAction (.sessionEstablished contactId "") before, rfl⟩) middle
        obtain ⟨after, established, same⟩ := announced _ _
        refine ⟨after, (evaluates_section (.restore blob) before).bind established, ?_⟩
        rw [same, List.foldl_fixed]
        exact restore_core blob before.core
      · exact ⟨before, .done _ _, rfl⟩

section
variable [Prost]

/-- The engine handles the keychain results one after the other. -/
def handleKeychainResults (config : EngineConfig) (results : List KeychainResult) :
    EngineM Core Unit :=
  results.forM fun result => handleEvent config (.keychainResult result.key result.data)

/-- A sequence of keychain results always comes to its end, and the core is what the results make
of it one after the other. -/
theorem handleKeychainResults_ends (results : List KeychainResult) (world : World Core) :
    (engineMachine Core config).Ends (handleKeychainResults config results)
      (fun _ after => after.engine.core = results.foldl (restoredCore config) world.engine.core)
      world := by
  obtain ⟨after, evaluates, folded⟩ :=
    (engineOwned Core config).evaluates_forM Engine.core (restoredCore config)
      (fun result (_ : result ∈ results) before => evaluates_handleKeychainResult result before)
      world.engine
  apply (evaluates.ends world rfl).weaken
  rintro _ final ⟨-, rfl⟩
  exact folded

end

/-- The blobs are valid for the crypto core: the keys build a core, the state gives its sessions
to every core that is built from the keys, and a failed import leaves the core as it is. -/
structure RestorableKeychain (Core : Type) [ConstructCore Core] (config : EngineConfig) where
  privateKeys : Bytes
  orchestratorState : Bytes
  fresh : Core
  BuiltFromKeys : Core → Prop
  HoldsSessions : Core → Prop
  keys_build : buildCore Core privateKeys config.myUserId = .ok (some fresh)
  fresh_built : BuiltFromKeys fresh
  state_restores : ∀ core, BuiltFromKeys core → ∃ restored,
    ConstructCore.importOrchestratorStateCfe orchestratorState core = (.ok (), restored) ∧
      BuiltFromKeys restored ∧ HoldsSessions restored
  import_refused : ∀ (blob : Bytes) (core : Core) message after,
    ConstructCore.importOrchestratorStateCfe blob core = (.error message, after) → after = core

/-- The result carries no blob, or one that the crypto core refuses. -/
def KeychainResult.Unusable (Core : Type) [ConstructCore Core] (config : EngineConfig)
    (result : KeychainResult) : Prop :=
  ∀ blob, result.data = some blob →
    (result.key = "private_keys" → ∃ error, buildCore Core blob config.myUserId = .error error) ∧
    (result.key = "orchestrator_state" → ∀ core : Core,
      ∃ message after, ConstructCore.importOrchestratorStateCfe blob core = (.error message, after))

namespace RestorableKeychain

variable (keychain : RestorableKeychain Core config)

/-- The keychain answers with the private keys. -/
def keysResult : KeychainResult := ⟨"private_keys", some keychain.privateKeys⟩

/-- The keychain answers with the state of the orchestrator. -/
def stateResult : KeychainResult := ⟨"orchestrator_state", some keychain.orchestratorState⟩

/-- The keys give a new core. -/
theorem restoredCore_keys (core : Option Core) :
    restoredCore config core keychain.keysResult = some keychain.fresh := by
  simp only [restoredCore, keysResult, if_true, keychain.keys_build]

/-- The state gives the core its sessions. -/
theorem restoredCore_state {core : Core} (built : keychain.BuiltFromKeys core) :
    ∃ restored, restoredCore config (some core) keychain.stateResult = some restored ∧
      keychain.BuiltFromKeys restored ∧ keychain.HoldsSessions restored := by
  obtain ⟨restored, imported, stillBuilt, holds⟩ := keychain.state_restores core built
  refine ⟨restored, ?_, stillBuilt, holds⟩
  simp only [restoredCore, stateResult, String.reduceEq, if_false, if_true, Option.map_some, imported]

/-- What cannot be used changes nothing. -/
theorem restoredCore_unusable (keychain : RestorableKeychain Core config)
    {result : KeychainResult} (unusable : result.Unusable Core config) (core : Option Core) :
    restoredCore config core result = core := by
  rcases result with ⟨key, _ | blob⟩
  · rfl
  obtain ⟨noKeys, noState⟩ := unusable blob rfl
  dsimp only [restoredCore]
  split_ifs with isKeys isState
  · obtain ⟨error, refused⟩ := noKeys isKeys
    rw [refused]
  · cases core with
    | none => rfl
    | some core =>
        obtain ⟨message, after, refused⟩ := noState isState core
        rw [Option.map_some, refused, keychain.import_refused blob core message after refused]
  · rfl

/-- After its private keys the core stays built from them. It stays fresh until the state arrives,
and from then on it holds the sessions. -/
theorem foldl_restoredCore {later : List KeychainResult}
    (following : ∀ result ∈ later,
      result = keychain.stateResult ∨ result.Unusable Core config)
    {core : Core} (built : keychain.BuiltFromKeys core) :
    ∃ after, later.foldl (restoredCore config) (some core) = some after ∧
      keychain.BuiltFromKeys after ∧
      (keychain.HoldsSessions core ∨ keychain.stateResult ∈ later → keychain.HoldsSessions after) ∧
      (keychain.stateResult ∉ later → after = core) := by
  induction later generalizing core with
  | nil =>
      refine ⟨core, rfl, built, fun holds => ?_, fun _ => rfl⟩
      exact holds.resolve_right List.not_mem_nil
  | cons result rest ih =>
      have remaining := fun later member => following later (List.mem_cons_of_mem result member)
      rw [List.foldl_cons]
      by_cases isState : result = keychain.stateResult
      · subst isState
        obtain ⟨restored, step, stillBuilt, holds⟩ := keychain.restoredCore_state built
        obtain ⟨after, folded, builtAfter, holdsAfter, -⟩ := ih remaining stillBuilt
        rw [step]
        exact ⟨after, folded, builtAfter, fun _ => holdsAfter (.inl holds),
          fun absent => absurd (List.mem_cons_self ..) absent⟩
      · have unusable := (following result (List.mem_cons_self ..)).resolve_left isState
        have sameMember : keychain.stateResult ∈ result :: rest ↔ keychain.stateResult ∈ rest :=
          List.mem_cons.trans (or_iff_right (Ne.symm isState))
        rw [keychain.restoredCore_unusable unusable, sameMember]
        exact ih remaining built

end RestorableKeychain

section
variable [Prost]

/-- The order in which the results arrive would not matter to the core. -/
def RestorableKeychain.RestoresInAnyOrder (keychain : RestorableKeychain Core config) : Prop :=
  ∀ results, keychain.keysResult ∈ results → keychain.stateResult ∈ results →
    (∀ result ∈ results, result = keychain.keysResult ∨ result = keychain.stateResult ∨
      result.Unusable Core config) →
    ∀ world : World Core, (engineMachine Core config).Ends
      (handleKeychainResults config results)
      (fun _ after => ∃ core, after.engine.core = some core ∧
        keychain.BuiltFromKeys core ∧ keychain.HoldsSessions core) world

/-- The last private keys decide the core: it holds the sessions of the state that comes after
them, and without such a state it is fresh. A result that is not usable changes nothing. -/
theorem keychainResults_restore (keychain : RestorableKeychain Core config) :
    (∀ earlier later,
      (∀ result ∈ later, result = keychain.stateResult ∨ result.Unusable Core config) →
      ∀ world : World Core, (engineMachine Core config).Ends
        (handleKeychainResults config (earlier ++ keychain.keysResult :: later))
        (fun _ after => ∃ core, after.engine.core = some core ∧ keychain.BuiltFromKeys core ∧
          (keychain.stateResult ∈ later → keychain.HoldsSessions core) ∧
          (keychain.stateResult ∉ later → core = keychain.fresh)) world) ∧
    (∀ result : KeychainResult, result.Unusable Core config →
      ∀ world : World Core, (engineMachine Core config).Ends
        (handleEvent config (.keychainResult result.key result.data))
        (fun _ after => after.engine.core = world.engine.core) world) := by
  refine ⟨fun earlier later following world => ?_, fun result unusable world => ?_⟩
  · obtain ⟨after, folded, built, holds, same⟩ :=
      keychain.foldl_restoredCore following keychain.fresh_built
    apply (handleKeychainResults_ends _ world).weaken
    rintro _ final core
    rw [List.foldl_append, List.foldl_cons, keychain.restoredCore_keys, folded] at core
    exact ⟨after, core, built, fun member => holds (.inr member), same⟩
  · obtain ⟨after, evaluates, core⟩ := evaluates_handleKeychainResult result world.engine
    apply (evaluates.ends world rfl).weaken
    rintro _ final ⟨-, rfl⟩
    exact core.trans (keychain.restoredCore_unusable unusable _)

end

/-- The rehearsal core refuses every blob that does not begin with its tag. -/
def rehearsalKeychain : RestorableKeychain RehearsalCore (rehearsalConfig [] none) where
  privateKeys := [1, 5]
  orchestratorState := [7, 9]
  fresh := ⟨[5], []⟩
  BuiltFromKeys core := core.identity = [5]
  HoldsSessions core := core.sessions = [9]
  keys_build := rfl
  fresh_built := rfl
  state_restores core built := ⟨{ core with sessions := [9] }, rfl, built, rfl⟩
  import_refused blob core message after refused := by
    dsimp only [ConstructCore.importOrchestratorStateCfe] at refused
    split at refused <;> cases refused
    rfl

/-- The state is restored although both blobs come twice, with refused ones between them. -/
theorem keychainResults_restore_replayed :
    (rehearsalMachine (rehearsalConfig [] none)).Ends
      (handleKeychainResults (rehearsalConfig [] none)
        ([rehearsalKeychain.stateResult, rehearsalKeychain.keysResult] ++
          rehearsalKeychain.keysResult :: [⟨"orchestrator_state", some [0]⟩,
            rehearsalKeychain.stateResult, ⟨"private_keys", none⟩]))
      (fun _ after => ∃ core, after.engine.core = some core ∧
        core.identity = [5] ∧ core.sessions = [9])
      (startWorld (Engine.fresh (rehearsalConfig [] none) none)) := by
  refine ((keychainResults_restore rehearsalKeychain).1 _ _ ?_ _).weaken ?_
  · intro result member
    simp only [List.mem_cons, List.not_mem_nil, or_false] at member
    rcases member with rfl | rfl | rfl
    · exact .inr fun blob same => by cases same; exact ⟨nofun, fun _ core => ⟨_, _, rfl⟩⟩
    · exact .inl rfl
    · exact .inr nofun
  · rintro _ after ⟨core, present, built, holds, -⟩
    exact ⟨core, present, built, holds (by decide)⟩

/-- The state arrives before the keys, and its sessions are lost. -/
theorem keychainResults_restore_fails : ¬ rehearsalKeychain.RestoresInAnyOrder := by
  intro anyOrder
  let results := [rehearsalKeychain.stateResult, rehearsalKeychain.keysResult]
  let start := startWorld (Engine.fresh (rehearsalConfig [] none) (none : Option RehearsalCore))
  have restored := anyOrder results (by simp [results]) (by simp [results])
    (by simp [results]) start
  obtain ⟨_, after, ⟨core, present, -, holds⟩, ended⟩ :=
    Ends.meet ({} : Choice) restored (handleKeychainResults_ends results start)
  rw [present] at ended
  cases ended
  cases holds

end ConstructEngine
