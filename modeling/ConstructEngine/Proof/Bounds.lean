import ConstructEngine.Proof.Transaction

namespace ConstructEngine.Stun

/-- The release profile aborts at each of these. -/
inductive Panic where
  | index
  | slice
  | copy
  | overflow

/-- A checked program is the parser with every check that the compiler adds to it. -/
abbrev Checked := Except Panic

namespace Checked

/-- The narrowest platform has addresses of 32 bits. -/
def usizeLimit : Nat := 2 ^ 32

/-- An addition may overflow. -/
def add (first second : Nat) : Checked Nat :=
  if first + second < usizeLimit then .ok (first + second) else .error .overflow

/-- A subtraction may underflow. -/
def sub (first second : Nat) : Checked Nat :=
  if second ≤ first then .ok (first - second) else .error .overflow

/-- An index must lie inside. -/
def index (bytes : Bytes) (position : Nat) : Checked UInt8 :=
  if position < bytes.length then .ok (bytes.getD position 0) else .error .index

/-- A slice must lie inside, with its bounds in order. -/
def range (bytes : Bytes) (start stop : Nat) : Checked Bytes :=
  if start ≤ stop ∧ stop ≤ bytes.length then .ok (slice bytes start stop) else .error .slice

/-- A slice is copied into an array of the same length. -/
def copyFromSlice (size : Nat) (source : Bytes) : Checked Bytes :=
  if source.length = size then .ok source else .error .copy

/-- Both bytes of a number must lie inside. -/
def u16At (bytes : Bytes) (first second : Nat) : Checked Nat := do
  let high ← index bytes first
  let low ← index bytes second
  return u16FromBeBytes high low

/-- The loop combines one byte of the address with one byte of the cookie. -/
def xorMagic (ipBytes : Bytes) : List Nat → Checked Bytes
  | [] => return ipBytes
  | position :: rest => do
      let byte ← index ipBytes position
      let key ← index magicCookie position
      xorMagic (ipBytes.set position (byte ^^^ key)) rest

/-- The address is copied and then combined with the cookie. -/
def ipBytes (data : Bytes) (size stop : Nat) (isXored : Bool) : Checked Bytes := do
  let bytes ← copyFromSlice size (← range data 4 stop)
  if isXored then xorMagic bytes (List.range 4) else return bytes

def parseMappedAddress (data : Bytes) (isXored : Bool) : Checked (Except String String) := do
  if data.length < 4 then return .error "Mapped address too short"
  else
    let family ← index data 1
    let port ← u16At data 2 3
    let port := if isXored then port ^^^ 0x2112 else port
    if family = 0x01 then
      if data.length < 8 then return .error "IPv4 address too short"
      else
        let bytes ← ipBytes data 4 8 isXored
        return .ok s!"{ipv4Text bytes}:{port}"
    else if family = 0x02 then
      if data.length < 20 then return .error "IPv6 address too short"
      else
        let bytes ← ipBytes data 16 20 isXored
        return .ok s!"[{ipv6Text bytes}]:{port}"
    else return .error s!"Unknown address family: 0x{hexUpper 2 family.toNat}"

/-- One turn of the loop ends with a result or with the offset of the next attribute. -/
def attributeTurn (response : Bytes) (offset : Nat) : Checked (Except String String ⊕ Nat) := do
  let header ← add offset 4
  if response.length < header then return .inl noMappedAddress
  else
    let attrType ← u16At response offset (← add offset 1)
    let attrLength ← u16At response (← add offset 2) (← add offset 3)
    let offset ← add offset 4
    let stop ← add offset attrLength
    if response.length < stop then return .inl noMappedAddress
    else if attrType = 0x0020 ∨ attrType = 0x0001 then
      let value ← range response offset stop
      return .inl (← parseMappedAddress value (attrType = 0x0020))
    else
      let offset ← add offset attrLength
      let padding ← sub 4 (attrLength % 4)
      return .inr (← add offset (padding % 4))

/-- The loop gives nothing when it needs more turns than it is given. -/
def attributeLoop (response : Bytes) (msgLength : Nat) : Nat → Nat →
    Checked (Option (Except String String))
  | 0, offset => do
      let stop ← add 20 msgLength
      return if offset < stop then none else some noMappedAddress
  | turns + 1, offset => do
      let stop ← add 20 msgLength
      if offset < stop then
        match ← attributeTurn response offset with
        | .inl result => return some result
        | .inr next => attributeLoop response msgLength turns next
      else return some noMappedAddress

def parseBindingResponse (turns : Nat) (response : Bytes) (expectedTid : TransactionId) :
    Checked (Option (Except String String)) := do
  if response.length < 20 then return some (.error "STUN response too short")
  else
    let msgType ← u16At response 0 1
    if msgType ≠ 0x0101 then
      return some (.error s!"Unexpected STUN message type: 0x{hexUpper 4 msgType}")
    else
      let transaction ← range response 4 16
      if transaction ≠ expectedTid.toList then return some (.error "Transaction ID mismatch")
      else
        let msgLength ← u16At response 2 3
        attributeLoop response msgLength turns 20

section
variable {bytes : Bytes} {first second : Nat}

/-- A small sum does not overflow. -/
theorem add_ok (small : first + second < usizeLimit) : add first second = .ok (first + second) :=
  if_pos small

/-- A smaller number can be subtracted. -/
theorem sub_ok (fits : second ≤ first) : sub first second = .ok (first - second) := if_pos fits

/-- An index inside reads the byte. -/
theorem index_ok (inside : first < bytes.length) : index bytes first = .ok (bytes.getD first 0) :=
  if_pos inside

/-- A range inside reads the slice. -/
theorem range_ok (ordered : first ≤ second) (inside : second ≤ bytes.length) :
    range bytes first second = .ok (slice bytes first second) := if_pos ⟨ordered, inside⟩

/-- A number inside is read. -/
theorem u16At_ok (inside : first + 1 < bytes.length) :
    u16At bytes first (first + 1) = .ok (Stun.u16At bytes first) := by
  unfold u16At
  rw [index_ok (by omega), index_ok inside]
  rfl

/-- A slice inside has its length. -/
theorem slice_length (inside : second ≤ bytes.length) : (slice bytes first second).length = second - first := by
  rw [slice, List.length_take, List.length_drop]
  omega

end

/-- The four turns of the loop combine the first four bytes with the cookie. -/
theorem xorMagic_ok {bytes : Bytes} (long : 4 ≤ bytes.length) :
    xorMagic bytes (List.range 4) = .ok (Stun.xorMagic bytes) := by
  match bytes, long with
  | b1 :: b2 :: b3 :: b4 :: rest, _ => rfl

/-- An address inside is read as the parser reads it. -/
theorem ipBytes_ok {data : Bytes} {size stop : Nat} (isXored : Bool) (inside : stop ≤ data.length)
    (large : 4 ≤ size) (fits : stop = 4 + size) :
    ipBytes data size stop isXored =
      .ok (if isXored then Stun.xorMagic (slice data 4 stop) else slice data 4 stop) := by
  have length : (slice data 4 stop).length = size := by
    rw [slice_length inside]
    omega
  unfold ipBytes
  rw [range_ok (by omega) inside]
  change copyFromSlice size (slice data 4 stop) >>= _ = _
  rw [copyFromSlice, if_pos length]
  change (if isXored then xorMagic (slice data 4 stop) (List.range 4) else _) = _
  cases isXored with
  | false => rfl
  | true => exact xorMagic_ok (by omega)

/-- No access to the value of an attribute leaves the value. -/
theorem parseMappedAddress_ok (data : Bytes) (isXored : Bool) :
    parseMappedAddress data isXored = .ok (Stun.parseMappedAddress data isXored) := by
  unfold parseMappedAddress Stun.parseMappedAddress
  by_cases short : data.length < 4
  · rw [if_pos short, if_pos short]
    rfl
  rw [if_neg short, if_neg short, index_ok (by omega)]
  change u16At data 2 (2 + 1) >>= _ = _
  rw [u16At_ok (by omega)]
  change (if _ then _ else _) = _
  by_cases four : data.getD 1 0 = 0x01
  · rw [if_pos four]
    dsimp only
    rw [if_pos four]
    by_cases cut : data.length < 8
    · rw [if_pos cut, if_pos cut]
      rfl
    · rw [if_neg cut, if_neg cut, ipBytes_ok isXored (by omega) (by decide) rfl]
      rfl
  rw [if_neg four]
  dsimp only
  rw [if_neg four]
  by_cases six : data.getD 1 0 = 0x02
  · rw [if_pos six, if_pos six]
    by_cases cut : data.length < 20
    · rw [if_pos cut, if_pos cut]
      rfl
    · rw [if_neg cut, if_neg cut, ipBytes_ok isXored (by omega) (by decide) rfl]
      rfl
  · rw [if_neg six, if_neg six]
    rfl

/-- Two bytes give a number of 16 bits. -/
theorem u16At_lt (bytes : Bytes) (offset : Nat) : Stun.u16At bytes offset < 2 ^ 16 := by
  have high := (bytes.getD offset 0).toNat_lt
  have low := (bytes.getD (offset + 1) 0).toNat_lt
  unfold Stun.u16At u16FromBeBytes
  omega

/-- What one turn of the loop leaves to the next one. -/
def turnResult (response : Bytes) (offset : Nat) : Except String String ⊕ Nat :=
  let attrType := Stun.u16At response offset
  let attrLength := Stun.u16At response (offset + 2)
  let value := offset + 4
  if response.length < offset + 4 then .inl noMappedAddress
  else if response.length < value + attrLength then .inl noMappedAddress
  else if attrType = 0x0020 ∨ attrType = 0x0001 then
    .inl (Stun.parseMappedAddress (slice response value (value + attrLength)) (attrType = 0x0020))
  else .inr (value + attrLength + (4 - attrLength % 4) % 4)

/-- A turn of the loop stays in the response, wherever the offset stands before the stop. -/
theorem attributeTurn_ok {response : Bytes} {offset : Nat} (early : offset < 20 + 2 ^ 16) :
    attributeTurn response offset = .ok (turnResult response offset) := by
  have small {size : Nat} (bounded : size < 2 ^ 18) : offset + size < usizeLimit := by
    unfold usizeLimit
    omega
  unfold attributeTurn turnResult
  rw [add_ok (small (by decide))]
  change (if response.length < offset + 4 then _ else _) = _
  dsimp only
  by_cases short : response.length < offset + 4
  · rw [if_pos short, if_pos short]
    rfl
  rw [if_neg short, if_neg short, add_ok (small (by decide))]
  change u16At response offset (offset + 1) >>= _ = _
  rw [u16At_ok (by omega), add_ok (small (by decide)), add_ok (small (by decide))]
  change u16At response (offset + 2) (offset + 2 + 1) >>= _ = _
  rw [u16At_ok (by omega)]
  change add (offset + 4) (Stun.u16At response (offset + 2)) >>= _ = _
  have length := u16At_lt response (offset + 2)
  have stop : offset + 4 + Stun.u16At response (offset + 2) < usizeLimit := by
    unfold usizeLimit
    omega
  rw [add_ok stop]
  change (if response.length < offset + 4 + Stun.u16At response (offset + 2) then _ else _) = _
  by_cases cut : response.length < offset + 4 + Stun.u16At response (offset + 2)
  · rw [if_pos cut, if_pos cut]
    rfl
  rw [if_neg cut, if_neg cut]
  by_cases mapped : Stun.u16At response offset = 0x0020 ∨ Stun.u16At response offset = 0x0001
  · rw [if_pos mapped, if_pos mapped, range_ok (by omega) (by omega)]
    change parseMappedAddress (slice response (offset + 4) _) _ >>= _ = _
    rw [parseMappedAddress_ok]
    rfl
  · rw [if_neg mapped, if_neg mapped, sub_ok (by omega)]
    change add (offset + 4 + Stun.u16At response (offset + 2)) _ >>= _ = _
    rw [add_ok (by unfold usizeLimit; omega)]
    rfl

/-- The parser goes through the same turns. -/
theorem parseAttributes_turn (response : Bytes) (stop offset : Nat) :
    parseAttributes response stop offset =
      if offset < stop then
        (turnResult response offset).elim id fun next => parseAttributes response stop next
      else noMappedAddress := by
  rw [parseAttributes]
  unfold turnResult
  dsimp only
  split
  · split
    · rfl
    · split
      · rfl
      · split <;> rfl
  · rfl

/-- Every turn but the last one moves over the four bytes of a header that is in the response. -/
theorem turnResult_next {response : Bytes} {offset next : Nat} (again : turnResult response offset = .inr next) :
    offset + 4 ≤ response.length ∧ offset + 4 ≤ next := by
  unfold turnResult at again
  dsimp only at again
  split at again
  · cases again
  · next long =>
    split at again
    · cases again
    · split at again
      · cases again
      · cases again
        omega

/-- The turns that are left cover the bytes that are left, and so the last turn ends the loop. -/
theorem attributeLoop_ok {response : Bytes} {msgLength : Nat} (small : msgLength < 2 ^ 16) (turns : Nat) :
    ∀ offset, response.length < offset + 4 * (turns + 1) →
      attributeLoop response msgLength (turns + 1) offset =
        .ok (some (parseAttributes response (20 + msgLength) offset)) := by
  have stop : add 20 msgLength = .ok (20 + msgLength) := add_ok (by unfold usizeLimit; omega)
  induction turns with
  | zero =>
      intro offset covered
      rw [attributeLoop, stop, parseAttributes_turn]
      change (if offset < 20 + msgLength then _ else _) = _
      split
      · rw [attributeTurn_ok (by omega)]
        cases turned : turnResult response offset with
        | inl result => rfl
        | inr next =>
            have inside := (turnResult_next turned).1
            omega
      · rfl
  | succ turns inductionHypothesis =>
      intro offset covered
      rw [attributeLoop, stop, parseAttributes_turn]
      change (if offset < 20 + msgLength then _ else _) = _
      split
      · rw [attributeTurn_ok (by omega)]
        cases turned : turnResult response offset with
        | inl result => rfl
        | inr next =>
            have moved := (turnResult_next turned).2
            exact inductionHypothesis next (by omega)
      · rfl

/-- A response without a whole header has no turn. -/
def turnLimit (response : Bytes) : Nat :=
  if response.length < 20 then 0 else (response.length - 20) / 4 + 1

/-- For every response, no check of the compiler fails in either parser, and the loop ends within
its turns with the result of the parser. -/
theorem parseBindingResponse_checked (response : Bytes) (expectedTid : TransactionId) :
    parseBindingResponse (turnLimit response) response expectedTid =
        .ok (some (Stun.parseBindingResponse response expectedTid)) ∧
      ∀ data isXored, parseMappedAddress data isXored = .ok (Stun.parseMappedAddress data isXored) := by
  refine ⟨?_, parseMappedAddress_ok⟩
  unfold parseBindingResponse Stun.parseBindingResponse turnLimit
  by_cases short : response.length < 20
  · rw [if_pos short, if_pos short]
    rfl
  rw [if_neg short, if_neg short, if_neg short]
  change u16At response 0 (0 + 1) >>= _ = _
  rw [u16At_ok (by omega)]
  change (if Stun.u16At response 0 ≠ 0x0101 then _ else _) = _
  dsimp only
  split
  · rfl
  rw [range_ok (by decide) (by omega)]
  change (if slice response 4 16 ≠ expectedTid.toList then _ else _) = _
  split
  · rfl
  change u16At response 2 (2 + 1) >>= _ = _
  rw [u16At_ok (by omega)]
  exact attributeLoop_ok (u16At_lt response 2) _ 20 (by omega)

end Checked

end ConstructEngine.Stun
