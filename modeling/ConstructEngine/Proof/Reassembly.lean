import ConstructEngine.Construction.Pump
import ConstructEngine.Interaction.Framing

namespace ConstructEngine

open Interaction

theorem fromBeBytes_lt (b1 b2 b3 b4 : UInt8) : fromBeBytes b1 b2 b3 b4 < 2 ^ 32 := by
  have h1 := b1.toNat_lt
  have h2 := b2.toNat_lt
  have h3 := b3.toNat_lt
  have h4 := b4.toNat_lt
  unfold fromBeBytes
  omega

/-- Reading back the four bytes gives every 32-bit length. -/
theorem putU32_fromBeBytes {length : Nat} (fits : length < 2 ^ 32) :
    ∃ b1 b2 b3 b4, putU32 length = [b1, b2, b3, b4] ∧ fromBeBytes b1 b2 b3 b4 = length := by
  refine ⟨_, _, _, _, rfl, ?_⟩
  simp only [fromBeBytes, UInt8.toNat_ofNat']
  omega

/-- Writing the length of a header gives back its four bytes. -/
theorem putU32_ofBytes (b1 b2 b3 b4 : UInt8) :
    putU32 (fromBeBytes b1 b2 b3 b4) = [b1, b2, b3, b4] := by
  have h1 := b1.toNat_lt
  have h2 := b2.toNat_lt
  have h3 := b3.toNat_lt
  have h4 := b4.toNat_lt
  have byte {value : Nat} {b : UInt8} (same : value % 2 ^ 8 = b.toNat) : UInt8.ofNat value = b :=
    UInt8.toNat_inj.mp (by rw [UInt8.toNat_ofNat', same])
  simp only [putU32, List.cons.injEq, and_true]
  refine ⟨byte ?_, byte ?_, byte ?_, byte ?_⟩ <;> simp only [fromBeBytes] <;> omega

/-- The encoding of a short message is a header that measures the message. -/
theorem encodeGrpcFrame_shape {message : Bytes} (fits : message.length < 2 ^ 32) :
    ∃ b1 b2 b3 b4, encodeGrpcFrame message = 0 :: b1 :: b2 :: b3 :: b4 :: message ∧
      fromBeBytes b1 b2 b3 b4 = message.length := by
  obtain ⟨b1, b2, b3, b4, bytes, value⟩ := putU32_fromBeBytes fits
  refine ⟨b1, b2, b3, b4, ?_, value⟩
  rw [encodeGrpcFrame, Nat.mod_eq_of_lt fits, bytes]
  rfl

/-- The decoder returns the encoded message and the bytes after it. -/
theorem decode_encode {message : Bytes} (fits : message.length < 2 ^ 32) (more : Bytes) :
    decodeGrpcFrame (encodeGrpcFrame message ++ more) = .ok (message, more) := by
  obtain ⟨b1, b2, b3, b4, bytes, value⟩ := encodeGrpcFrame_shape fits
  rw [bytes]
  simp [decodeGrpcFrame, value]

theorem frameSize_encode {message : Bytes} (fits : message.length < 2 ^ 32) :
    frameSize (encodeGrpcFrame message) = some (encodeGrpcFrame message).length := by
  obtain ⟨b1, b2, b3, b4, bytes, value⟩ := encodeGrpcFrame_shape fits
  rw [bytes]
  simp only [frameSize, value, List.length_cons]
  rw [if_neg (by omega)]
  congr 1
  omega

/-- More bytes after a complete frame do not change its measure. -/
theorem frameSize_append {buffer : Bytes} {length : Nat} (more : Bytes)
    (measured : frameSize buffer = some length) : frameSize (buffer ++ more) = some length := by
  match buffer, measured with
  | _ :: b1 :: b2 :: b3 :: b4 :: body, measured =>
      simp only [frameSize, List.cons_append, List.length_cons, List.length_append] at measured ⊢
      split at measured
      · cases measured
      · cases measured
        rw [if_neg (by omega)]

def grpcCutter : Cutter UInt8 where
  size := frameSize
  positive _ _ measured := by
    have := frameSize_bounds measured
    omega
  inside _ _ measured := (frameSize_bounds measured).2
  settled _ _ more measured := frameSize_append more measured

/-- Taking the measured bytes gives a frame that is complete on its own. -/
theorem frameSize_take {recvBuf : Bytes} {size : Nat} (measured : frameSize recvBuf = some size) :
    frameSize (recvBuf.take size) = some (recvBuf.take size).length := by
  have bounds := frameSize_bounds measured
  match recvBuf, measured with
  | first :: b1 :: b2 :: b3 :: b4 :: body, measured =>
      obtain ⟨rest, rfl⟩ : ∃ rest, size = rest + 5 := ⟨size - 5, by omega⟩
      simp only [frameSize, List.take_succ_cons, List.length_cons, List.length_take] at measured ⊢
      simp only [List.length_cons] at bounds
      split at measured
      · cases measured
      · simp only [Option.some.injEq] at measured
        rw [if_neg (by omega)]
        congr 1
        omega

/-- Draining a buffer cuts it into complete frames and an incomplete rest. -/
def drained (recvBuf : Bytes) : grpcCutter.Cutting recvBuf where
  frames := (drainFrames recvBuf).1
  rest := (drainFrames recvBuf).2
  joined := by
    fun_induction drainFrames recvBuf with
    | case1 => rfl
    | case2 recvBuf size measured frames kept drained ih =>
        rw [drained] at ih
        simp only [List.flatten_cons, List.append_assoc]
        rw [ih, List.take_append_drop]
  whole := by
    fun_induction drainFrames recvBuf with
    | case1 => simp
    | case2 recvBuf size measured frames kept drained ih =>
        rw [drained] at ih
        intro frame member
        rcases List.mem_cons.mp member with rfl | later
        · exact frameSize_take measured
        · exact ih frame later
  stuck := by
    fun_induction drainFrames recvBuf with
    | case1 recvBuf stuck => exact stuck
    | case2 recvBuf size measured frames kept drained ih =>
        rw [drained] at ih
        exact ih

/-- The pump takes its inputs one by one and passes frames on. -/
def Pump.run (pump : Pump) : List PumpInput → Option (Pump × List Bytes)
  | [] => some (pump, [])
  | input :: rest => do
      let (middle, frames) ← pump.step input
      let (after, later) ← middle.run rest
      return (after, frames ++ later)

/-- These are the bytes that the inputs bring, whatever the chunks are. -/
def received (inputs : List PumpInput) : Bytes :=
  inputs.flatMap fun input =>
    match input with
    | .chunk data => data
    | _ => []

/-- One step extends the cutting of what was received before. -/
theorem Pump.step_cutting {pump after : Pump} {input : PumpInput} {frames : List Bytes}
    {stream : Bytes} (stepped : pump.step input = some (after, frames))
    (before : grpcCutter.Cutting stream) (kept : before.rest = pump.recvBuf) :
    ∃ cutting : grpcCutter.Cutting (stream ++ received [input]),
      cutting.frames = before.frames ++ frames ∧ cutting.rest = after.recvBuf := by
  have idle (quiet : received [input] = []) (none : frames = [])
      (same : after.recvBuf = pump.recvBuf) :
      ∃ cutting : grpcCutter.Cutting (stream ++ received [input]),
        cutting.frames = before.frames ++ frames ∧ cutting.rest = after.recvBuf := by
    rw [quiet, List.append_nil, none, same]
    exact ⟨before, (List.append_nil _).symm, kept⟩
  unfold Pump.step at stepped
  split at stepped
  · cases stepped
  · split at stepped
    · cases stepped; exact idle rfl rfl rfl
    · cases stepped
  · split at stepped
    · cases stepped; exact idle rfl rfl rfl
    · cases stepped
  · cases stepped; exact idle rfl rfl rfl
  · cases stepped; exact idle rfl rfl rfl
  · split at stepped
    · split at stepped <;> cases stepped <;> exact idle rfl rfl rfl
    · cases stepped
  · next data _ =>
      cases stepped
      rw [show received [PumpInput.chunk data] = data by simp [received]]
      rw [← kept]
      exact ⟨before.extend data (drained _), rfl, rfl⟩
  · cases stepped; exact idle rfl rfl rfl
  · cases stepped; exact idle rfl rfl rfl
  · cases stepped; exact idle rfl rfl rfl
  · cases stepped

/-- A polling pump takes every chunk. -/
theorem Pump.step_chunk {pump : Pump} (polls : pump.location = .polling) (data : Bytes) :
    pump.step (.chunk data) = some ({ pump with
      recvBuf := (drainFrames (pump.recvBuf ++ data)).2, location := .draining },
      (drainFrames (pump.recvBuf ++ data)).1) := by
  unfold Pump.step
  rw [polls]

/-- Between two chunks a pump with an empty queue comes back to its poll. -/
def polled (chunks : List Bytes) : List PumpInput := chunks.flatMap fun data => [.queueEmpty, .chunk data]

theorem received_polled (chunks : List Bytes) : received (polled chunks) = chunks.flatten := by
  induction chunks with
  | nil => rfl
  | cons data rest inductionHypothesis =>
      rw [List.flatten_cons, ← inductionHypothesis]
      simp [received, polled]

/-- Whatever chunks the server sends, a pump that has nothing to write receives all of them. -/
theorem Pump.run_polled {pump : Pump} (drains : pump.location = .draining) (none : pump.outgoing = [])
    (held : pump.handleDropped = false) (chunks : List Bytes) :
    ∃ after frames, pump.run (polled chunks) = some (after, frames) := by
  induction chunks generalizing pump with
  | nil => exact ⟨pump, [], rfl⟩
  | cons data rest inductionHypothesis =>
      have empties : pump.step .queueEmpty = some ({ pump with location := .polling }, []) := by
        unfold Pump.step
        simp [drains, none, held]
      have takes : ({ pump with location := .polling } : Pump).step (.chunk data) = _ :=
        Pump.step_chunk rfl data
      have again : ∃ after frames, ({ pump with
          recvBuf := (drainFrames (pump.recvBuf ++ data)).2, location := .draining } : Pump).run
            (polled rest) = some (after, frames) := inductionHypothesis rfl none held
      obtain ⟨after, frames, ran⟩ := again
      refine ⟨after, [] ++ ((drainFrames (pump.recvBuf ++ data)).1 ++ frames), ?_⟩
      simp only [polled, List.flatMap_cons, List.cons_append, List.nil_append, Pump.run, empties, takes,
        Option.bind_eq_bind, Option.bind_some, Option.pure_def]
      rw [show List.flatMap _ rest = polled rest from rfl, ran]
      rfl

theorem Pump.run_cutting {pump after : Pump} {inputs : List PumpInput} {frames : List Bytes}
    {stream : Bytes} (ran : pump.run inputs = some (after, frames))
    (before : grpcCutter.Cutting stream) (kept : before.rest = pump.recvBuf) :
    ∃ cutting : grpcCutter.Cutting (stream ++ received inputs),
      cutting.frames = before.frames ++ frames ∧ cutting.rest = after.recvBuf := by
  induction inputs generalizing pump frames stream with
  | nil =>
      cases ran
      rw [show received [] = [] from rfl, List.append_nil]
      exact ⟨before, (List.append_nil _).symm, kept⟩
  | cons input rest ih =>
      simp only [Pump.run, Option.bind_eq_bind, Option.bind_eq_some_iff, Option.pure_def,
        Option.some.injEq] at ran
      obtain ⟨⟨middle, first⟩, stepped, ⟨last, later⟩, ran, equal⟩ := ran
      cases equal
      obtain ⟨one, framesOne, restOne⟩ := step_cutting stepped before kept
      obtain ⟨all, framesAll, restAll⟩ := ih ran one restOne
      have joined : stream ++ received [input] ++ received rest =
          stream ++ received (input :: rest) := by
        simp [received, List.append_assoc]
      rw [← joined]
      exact ⟨all, by rw [framesAll, framesOne, List.append_assoc], restAll⟩

/-- A buffer holds no complete frame when its body is shorter than its header says. -/
def Incomplete (kept : Bytes) : Prop :=
  ∀ b0 b1 b2 b3 b4 body, kept = b0 :: b1 :: b2 :: b3 :: b4 :: body →
    body.length < fromBeBytes b1 b2 b3 b4

theorem incomplete_of_stuck {kept : Bytes} (stuck : frameSize kept = none) : Incomplete kept := by
  rintro b0 b1 b2 b3 b4 body rfl
  simp only [frameSize, List.length_cons] at stuck
  split at stuck
  · omega
  · cases stuck

/-- A new pump splits what it received in the one possible way. -/
theorem Pump.run_drained {conn : Nat} {inputs : List PumpInput} {pump : Pump}
    {frames : List Bytes} (ran : ({ conn } : Pump).run inputs = some (pump, frames)) :
    (drained (received inputs)).frames = frames ∧ (drained (received inputs)).rest = pump.recvBuf := by
  have start : grpcCutter.Cutting ([] : Bytes) := Cutter.Cutting.ofFrames [] rfl (by simp)
  have empty : start = Cutter.Cutting.ofFrames [] rfl (by simp) := Subsingleton.elim _ _
  obtain ⟨cutting, framesEq, restEq⟩ := run_cutting ran start (by rw [empty]; rfl)
  have same : cutting = drained (received inputs) := Subsingleton.elim _ _
  rw [same] at framesEq restEq
  refine ⟨?_, restEq⟩
  rw [framesEq, empty]
  rfl

/-- Every stream, in whatever chunks it arrives, is taken to its end and cut into its frames. -/
theorem Pump.run_chunks (conn : Nat) (chunks : List Bytes) :
    ∃ after, ({ conn } : Pump).run (polled chunks) = some (after, (drained chunks.flatten).frames) ∧
      after.recvBuf = (drained chunks.flatten).rest := by
  obtain ⟨after, frames, ran⟩ := Pump.run_polled (rfl : ({ conn } : Pump).location = .draining) rfl rfl chunks
  obtain ⟨framesEq, restEq⟩ := run_drained ran
  rw [received_polled] at framesEq restEq
  rw [framesEq]
  exact ⟨after, ran, restEq.symm⟩

/-- The frames and the kept bytes depend only on the received stream, and a stream of encoded
messages gives back exactly these messages. -/
theorem pump_reassembly (conn : Nat) (inputs : List PumpInput) (pump : Pump) (frames : List Bytes)
    (ran : ({ conn } : Pump).run inputs = some (pump, frames)) :
    (∀ other inputs' pump' frames', ({ conn := other } : Pump).run inputs' = some (pump', frames') →
      received inputs' = received inputs → frames' = frames ∧ pump'.recvBuf = pump.recvBuf) ∧
    frames.flatten ++ pump.recvBuf = received inputs ∧
    Incomplete pump.recvBuf ∧
    ∀ messages : List Bytes, (∀ message ∈ messages, message.length < 2 ^ 32) →
      received inputs = (messages.map encodeGrpcFrame).flatten →
      frames = messages.map encodeGrpcFrame ∧ pump.recvBuf = [] ∧
        ∀ message ∈ messages, decodeGrpcFrame (encodeGrpcFrame message) = .ok (message, []) := by
  obtain ⟨framesEq, restEq⟩ := Pump.run_drained ran
  refine ⟨?_, ?_, ?_, ?_⟩
  · intro other inputs' pump' frames' ran' same
    obtain ⟨framesEq', restEq'⟩ := Pump.run_drained ran'
    rw [same] at framesEq' restEq'
    exact ⟨framesEq'.symm.trans framesEq, restEq'.symm.trans restEq⟩
  · rw [← framesEq, ← restEq]
    exact (drained (received inputs)).joined
  · rw [← restEq]
    exact incomplete_of_stuck (drained (received inputs)).stuck
  · intro messages short encoded
    have whole : ∀ frame ∈ messages.map encodeGrpcFrame,
        grpcCutter.size frame = some frame.length := by
      intro frame member
      obtain ⟨message, inside, rfl⟩ := List.mem_map.mp member
      exact frameSize_encode (short message inside)
    have joined : (drained (received inputs)).frames.flatten ++ (drained (received inputs)).rest =
        (messages.map encodeGrpcFrame).flatten ++ [] := by
      rw [(drained (received inputs)).joined, encoded, List.append_nil]
    have unique := Cutter.Cutting.unique_of_joined joined (drained (received inputs)).whole whole
      (drained (received inputs)).stuck rfl
    refine ⟨framesEq.symm.trans unique.1, restEq.symm.trans unique.2, ?_⟩
    intro message inside
    simpa using decode_encode (short message inside) []

/-- One message arrives in two chunks that split its header. -/
theorem pump_reassembly_split_header :
    frameSize [0, 0] = none ∧ ∃ pump frames,
      ({ conn := 0 } : Pump).run
        [.queueEmpty, .chunk [0, 0], .queueEmpty, .chunk [0, 0, 1, 7]] = some (pump, frames) ∧
      frames = [encodeGrpcFrame [7]] := by
  obtain ⟨pump, ran, -⟩ := Pump.run_chunks 0 [[0, 0], [0, 0, 1, 7]]
  refine ⟨rfl, pump, _, ran, ?_⟩
  exact ((pump_reassembly 0 _ pump _ ran).2.2.2 [[7]] (by decide) (by decide)).1

end ConstructEngine
