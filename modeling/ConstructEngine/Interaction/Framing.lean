import Mathlib.Data.List.Induction

namespace Interaction

/-- A cutter measures the first complete frame of a buffer, if the buffer has one. -/
structure Cutter (B : Type) where
  size : List B → Option Nat
  positive : ∀ buffer length, size buffer = some length → 0 < length
  inside : ∀ buffer length, size buffer = some length → length ≤ buffer.length
  settled : ∀ buffer length more, size buffer = some length → size (buffer ++ more) = some length

namespace Cutter

variable {B : Type} (cutter : Cutter B)

/-- A cutting splits a stream into complete frames and a rest without a complete frame. -/
structure Cutting (stream : List B) where
  frames : List (List B)
  rest : List B
  joined : frames.flatten ++ rest = stream
  whole : ∀ frame ∈ frames, cutter.size frame = some frame.length
  stuck : cutter.size rest = none

variable {cutter}

/-- A complete frame at the front of a buffer is the first frame that the cutter measures. -/
theorem size_front {frame : List B} (more : List B) (whole : cutter.size frame = some frame.length) :
    cutter.size (frame ++ more) = some frame.length := cutter.settled frame frame.length more whole

theorem Cutting.unique_of_joined {first second : List (List B)} {rest final : List B}
    (joined : first.flatten ++ rest = second.flatten ++ final)
    (wholeFirst : ∀ frame ∈ first, cutter.size frame = some frame.length)
    (wholeSecond : ∀ frame ∈ second, cutter.size frame = some frame.length)
    (stuckFirst : cutter.size rest = none) (stuckSecond : cutter.size final = none) :
    first = second ∧ rest = final := by
  induction first generalizing second with
  | nil =>
      cases second with
      | nil => exact ⟨rfl, by simpa using joined⟩
      | cons frame frames =>
          have measured := size_front (frames.flatten ++ final)
            (wholeSecond frame (List.mem_cons_self ..))
          have same : rest = frame ++ (frames.flatten ++ final) := by simpa using joined
          rw [← same, stuckFirst] at measured
          cases measured
  | cons head tail ih =>
      have measured := size_front (tail.flatten ++ rest)
        (wholeFirst head (List.mem_cons_self ..))
      cases second with
      | nil =>
          have same : head ++ (tail.flatten ++ rest) = final := by simpa using joined
          rw [same, stuckSecond] at measured
          cases measured
      | cons frame frames =>
          have other := size_front (frames.flatten ++ final)
            (wholeSecond frame (List.mem_cons_self ..))
          have same : head ++ (tail.flatten ++ rest) = frame ++ (frames.flatten ++ final) := by
            simpa using joined
          rw [same] at measured
          have length : frame.length = head.length := by
            simpa using other.symm.trans measured
          obtain ⟨rfl, tails⟩ := List.append_inj same length.symm
          obtain ⟨rfl, rfl⟩ := ih tails
            (fun frame member => wholeFirst frame (List.mem_cons_of_mem _ member))
            (fun frame member => wholeSecond frame (List.mem_cons_of_mem _ member))
          exact ⟨rfl, rfl⟩

/-- A stream has at most one cutting, so no cutting depends on how the stream arrived. -/
instance (stream : List B) : Subsingleton (cutter.Cutting stream) where
  allEq first second := by
    rcases first with ⟨frames, rest, joined, whole, stuck⟩
    rcases second with ⟨frames', rest', joined', whole', stuck'⟩
    obtain ⟨rfl, rfl⟩ := Cutting.unique_of_joined (joined.trans joined'.symm) whole whole' stuck stuck'
    rfl

/-- The rest of a cutting meets the next chunk, and the two cuttings join. -/
def Cutting.extend {stream : List B} (first : cutter.Cutting stream) (chunk : List B)
    (second : cutter.Cutting (first.rest ++ chunk)) : cutter.Cutting (stream ++ chunk) where
  frames := first.frames ++ second.frames
  rest := second.rest
  joined := by
    rw [List.flatten_append, List.append_assoc, second.joined, ← List.append_assoc, first.joined]
  whole frame member := by
    rcases List.mem_append.mp member with earlier | later
    · exact first.whole frame earlier
    · exact second.whole frame later
  stuck := second.stuck

/-- The complete frames of a list of frames are the list itself. -/
def Cutting.ofFrames (frames : List (List B)) (empty : cutter.size [] = none)
    (whole : ∀ frame ∈ frames, cutter.size frame = some frame.length) :
    cutter.Cutting frames.flatten := ⟨frames, [], by simp, whole, empty⟩

end Cutter

end Interaction
