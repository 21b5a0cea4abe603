import ConstructEngine.Proof.Trail

namespace ConstructEngine.CoreSection

open LockedM

variable {Core : Type} [ConstructCore Core]

/-- The section seals and exports, or it fails before the export. -/
theorem encryptAndExport_calls (contactId : String) (plaintext : Bytes) (core : Option Core) :
    (∃ message after calls,
      run (.encryptAndExport contactId plaintext) core = (.error message, after, calls) ∧
      ∀ call ∈ calls, ∃ error, call = .encrypt contactId plaintext (.error error)) ∨
    ∃ wirePayload stateBytes after answer,
      run (.encryptAndExport contactId plaintext) core = (.ok (wirePayload, stateBytes), after,
        [.encrypt contactId plaintext (.ok wirePayload), .exportState answer]) := by
  cases core with
  | none => exact .inl ⟨_, none, [], rfl, nofun⟩
  | some core =>
  cases answered : ConstructCore.encryptBytesFor contactId plaintext core with
  | mk answer after =>
  rcases answer with message | wirePayload
  · refine .inl ⟨s!"encrypt: {message}", some after, [.encrypt contactId plaintext (.error message)],
      ?_, fun call member => ⟨message, List.mem_singleton.mp member⟩⟩
    simp only [run, locked, encryptBody, encryptBytesFor, answered, bind_run, pure_run]
    rfl
  · refine .inr ⟨wirePayload, unwrapOrDefault (ConstructCore.exportOrchestratorStateCfe after), some after,
      ConstructCore.exportOrchestratorStateCfe after, ?_⟩
    simp only [run, locked, encryptBody, encryptBytesFor, exportOrchestratorStateCfe, answered,
      bind_run, pure_run]
    rfl

/-- The section initiates, seals and exports, or one of its first two calls fails. -/
theorem initiateAndExport_calls (contactId : String) (bundle : X3DHPublicKeyBundle)
    (kyber : KyberKeys) (core : Option Core) :
    (∃ message after calls,
      run (.initiateAndExport contactId bundle kyber) core = (.error message, after, calls) ∧
      (calls = [] ∨ (∃ error, calls = [.initSession contactId (.error error)]) ∨
        ∃ error, calls = [.initSession contactId (.ok ()), .encrypt contactId [] (.error error)])) ∨
    ∃ wirePayload stateBytes after answer,
      run (.initiateAndExport contactId bundle kyber) core = (.ok (wirePayload, stateBytes), after,
        [.initSession contactId (.ok ()), .encrypt contactId [] (.ok wirePayload),
          .exportState answer]) := by
  cases core with
  | none => exact .inl ⟨_, none, [], rfl, .inl rfl⟩
  | some core =>
  cases started : ConstructCore.initSessionWithBundle contactId bundle kyber core with
  | mk answer middle =>
  rcases answer with message | ⟨⟩
  · refine .inl ⟨s!"init_session_with_bundle: {message}", some middle, _, ?_,
      .inr (.inl ⟨message, rfl⟩)⟩
    simp only [run, locked, initiateBody, initSessionWithBundle, started, bind_run, pure_run]
    rfl
  cases answered : ConstructCore.encryptBytesFor contactId [] middle with
  | mk answer after =>
  rcases answer with message | wirePayload
  · refine .inl ⟨s!"encrypt first message: {message}", some after, _, ?_, .inr (.inr ⟨message, rfl⟩)⟩
    simp only [run, locked, initiateBody, initSessionWithBundle, encryptBytesFor, started, answered,
      bind_run, pure_run]
    rfl
  · refine .inr ⟨wirePayload, unwrapOrDefault (ConstructCore.exportOrchestratorStateCfe after), some after,
      ConstructCore.exportOrchestratorStateCfe after, ?_⟩
    simp only [run, locked, initiateBody, initSessionWithBundle, encryptBytesFor,
      exportOrchestratorStateCfe, started, answered, bind_run, pure_run]
    rfl

/-- The section accepts the session and exports, or the core refuses the first message. -/
theorem receiveAndExport_calls (senderId : String) (bundle : X3DHPublicKeyBundle)
    (first : IncomingFirstMessage) (core : Core) :
    (∃ error message after,
      ConstructCore.initReceivingSessionWithMsg senderId bundle first core = (.error error, after) ∧
      run (.receiveAndExport senderId bundle first) (some core) = (.error message, some after,
        [.initReceivingSession senderId (.error error)])) ∨
    ∃ sessionId plaintext stateBytes after answer,
      ConstructCore.initReceivingSessionWithMsg senderId bundle first core =
        (.ok (sessionId, plaintext), after) ∧
      run (.receiveAndExport senderId bundle first) (some core) = (.ok (plaintext, stateBytes),
        some after, [.initReceivingSession senderId (.ok (sessionId, plaintext)), .exportState answer]) := by
  cases started : ConstructCore.initReceivingSessionWithMsg senderId bundle first core with
  | mk answer after =>
  rcases answer with error | ⟨sessionId, plaintext⟩
  · refine .inl ⟨error, s!"init_receiving_session: {error}", after, rfl, ?_⟩
    simp only [run, locked, receiveBody, initReceivingSessionWithMsg, started, bind_run, pure_run]
    rfl
  · refine .inr ⟨sessionId, plaintext, unwrapOrDefault (ConstructCore.exportOrchestratorStateCfe after),
      after, ConstructCore.exportOrchestratorStateCfe after, rfl, ?_⟩
    simp only [run, locked, receiveBody, initReceivingSessionWithMsg, exportOrchestratorStateCfe, started,
      bind_run, pure_run]
    rfl

/-- The section decrypts and exports, or the core refuses the message. -/
theorem decryptAndExport_calls (senderId : String) (wirePayload : Bytes) (core : Core) :
    (∃ error message after,
      ConstructCore.decryptBytesFor senderId wirePayload core = (.error error, after) ∧
      run (.decryptAndExport senderId wirePayload) (some core) = (.error message, some after,
        [.decrypt senderId wirePayload (.error error)])) ∨
    ∃ plaintext stateBytes after answer,
      ConstructCore.decryptBytesFor senderId wirePayload core = (.ok plaintext, after) ∧
      run (.decryptAndExport senderId wirePayload) (some core) = (.ok (plaintext, stateBytes),
        some after, [.decrypt senderId wirePayload (.ok plaintext), .exportState answer]) := by
  cases started : ConstructCore.decryptBytesFor senderId wirePayload core with
  | mk answer after =>
  rcases answer with error | plaintext
  · refine .inl ⟨error, s!"decrypt: {error}", after, rfl, ?_⟩
    simp only [run, locked, decryptAndExportBody, decryptBytesFor, started, bind_run, pure_run]
    rfl
  · refine .inr ⟨plaintext, unwrapOrDefault (ConstructCore.exportOrchestratorStateCfe after), after,
      ConstructCore.exportOrchestratorStateCfe after, rfl, ?_⟩
    simp only [run, locked, decryptAndExportBody, decryptBytesFor, exportOrchestratorStateCfe, started,
      bind_run, pure_run]
    rfl

/-- The section hands out new keys and an export that follows them, or it fails. -/
theorem generateAndExport_calls (count : Nat) (core : Option Core) :
    (∃ message, (run (.generateAndExport count) core).1 = .error message) ∨
    ∃ before pairs after blob, core = some before ∧
      ConstructCore.generateOtpks count before = (.ok pairs, after) ∧
      ConstructCore.exportOrchestratorStateCfe after = .ok blob ∧
      run (.generateAndExport count) core = (.ok (pairs.map fun (keyId, publicKey) => ⟨keyId, publicKey⟩, blob),
        some after, [.generateOtpks count (.ok pairs), .exportState (.ok blob)]) := by
  cases core with
  | none => exact .inl ⟨_, rfl⟩
  | some core =>
  cases generated : ConstructCore.generateOtpks count core with
  | mk answer after =>
  rcases answer with message | pairs
  · refine .inl ⟨message, ?_⟩
    simp only [run, locked, generateBody, LockedM.generateOtpks, generated, bind_run, pure_run]
  cases exported : ConstructCore.exportOrchestratorStateCfe after with
  | error message =>
      refine .inl ⟨message, ?_⟩
      simp only [run, locked, generateBody, LockedM.generateOtpks, LockedM.exportOrchestratorStateCfe,
        generated, exported, bind_run, pure_run]
  | ok blob =>
      refine .inr ⟨core, pairs, after, blob, rfl, generated, exported, ?_⟩
      simp only [run, locked, generateBody, LockedM.generateOtpks, LockedM.exportOrchestratorStateCfe,
        generated, exported, bind_run, pure_run]
      rfl

/-- A core that is there is asked for exactly this many keys. -/
theorem generateAndExport_asks (count : Nat) (core : Core) :
    ∃ answer, .generateOtpks count answer ∈ (run (.generateAndExport count) (some core)).2.2 := by
  cases generated : ConstructCore.generateOtpks count core with
  | mk answer after =>
  refine ⟨answer, ?_⟩
  rcases answer with message | pairs
  · simp [run, locked, generateBody, LockedM.generateOtpks, generated]
  · cases exported : ConstructCore.exportOrchestratorStateCfe after <;>
      simp [run, locked, generateBody, LockedM.generateOtpks, LockedM.exportOrchestratorStateCfe,
        generated, exported]

theorem rotateAndExport_calls (core : Option Core) :
    (∃ message, (run .rotateAndExport core).1 = .error message) ∨
    ∃ before keyId publicKey signature after blob, core = some before ∧
      ConstructCore.rotateSpk before = (.ok (keyId, publicKey, signature), after) ∧
      ConstructCore.exportOrchestratorStateCfe after = .ok blob ∧
      run .rotateAndExport core = (.ok (keyId, publicKey, signature, blob), some after,
        [.rotateSpk (.ok (keyId, publicKey, signature)), .exportState (.ok blob)]) := by
  cases core with
  | none => exact .inl ⟨_, rfl⟩
  | some core =>
  cases rotated : ConstructCore.rotateSpk core with
  | mk answer after =>
  rcases answer with message | ⟨keyId, publicKey, signature⟩
  · refine .inl ⟨message, ?_⟩
    simp only [run, locked, rotateBody, LockedM.rotateSpk, rotated, bind_run, pure_run]
  cases exported : ConstructCore.exportOrchestratorStateCfe after with
  | error message =>
      refine .inl ⟨message, ?_⟩
      simp only [run, locked, rotateBody, LockedM.rotateSpk, LockedM.exportOrchestratorStateCfe,
        rotated, exported, bind_run, pure_run]
  | ok blob =>
      refine .inr ⟨core, keyId, publicKey, signature, after, blob, rfl, rotated, exported, ?_⟩
      simp only [run, locked, rotateBody, LockedM.rotateSpk, LockedM.exportOrchestratorStateCfe,
        rotated, exported, bind_run, pure_run]
      rfl

/-- The section enqueues the payload and asks for the next attempt. -/
theorem heal_calls (senderId : String) (wirePayload : Bytes) (core : Core) :
    ∃ decision after,
      ConstructCore.recordHealAttempt senderId (ConstructCore.enqueueHeal senderId wirePayload core) =
        (decision, after) ∧
      run (.heal senderId wirePayload) (some core) = (decision, some after,
        [.enqueueHeal senderId wirePayload, .recordHealAttempt senderId decision]) :=
  ⟨_, _, rfl, rfl⟩

end ConstructEngine.CoreSection
