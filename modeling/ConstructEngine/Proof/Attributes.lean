import ConstructEngine.Proof.Transaction

namespace ConstructEngine.Stun

/-- The padding fills the value up to a multiple of four bytes, and its bytes are free. -/
structure Attribute where
  type : UInt16
  value : Bytes
  padding : Bytes
  aligned : padding.length = (4 - value.length % 4) % 4

/-- The high byte comes first. -/
def putU16 (value : Nat) : Bytes := [UInt8.ofNat (value / 2 ^ 8), UInt8.ofNat value]

namespace Attribute

/-- The type and the length come before the value and its padding. -/
def encode (attr : Attribute) : Bytes :=
  putU16 attr.type.toNat ++ putU16 attr.value.length ++ attr.value ++ attr.padding

/-- Only these two types carry a mapped address. -/
def isMapped (attr : Attribute) : Bool := attr.type = 0x0020 ∨ attr.type = 0x0001

/-- This is what the parser makes of the value. -/
def mapped (attr : Attribute) : Except String String :=
  parseMappedAddress attr.value (attr.type = 0x0020)

/-- The header has four bytes. -/
theorem encode_length (attr : Attribute) : attr.encode.length =
    4 + attr.value.length + attr.padding.length := by
  simp only [encode, putU16, List.length_append, List.length_cons, List.length_nil]

/-- A type is known by its number. -/
theorem type_toNat (attr : Attribute) {number : Nat} (small : number < 2 ^ 16) :
    attr.type.toNat = number ↔ attr.type = UInt16.ofNat number := by
  constructor
  · intro same
    apply UInt16.toNat_inj.mp
    rw [same, UInt16.toNat_ofNat', Nat.mod_eq_of_lt small]
  · intro same
    rw [same, UInt16.toNat_ofNat', Nat.mod_eq_of_lt small]

end Attribute

/-- A written number is read back. -/
theorem u16At_put {value : Nat} (small : value < 2 ^ 16) (rest : Bytes) :
    u16At (putU16 value ++ rest) 0 = value := u16_roundtrip small

/-- What lies in the front is read there. -/
theorem u16At_front {front : Bytes} (rest : Bytes) {offset : Nat} (inside : offset + 1 < front.length) :
    u16At (front ++ rest) offset = u16At front offset := by
  unfold u16At
  simp only [List.getD_eq_getElem?_getD]
  rw [List.getElem?_append_left (by omega), List.getElem?_append_left inside]

/-- The attributes follow one another without a gap. -/
def encodeAttributes (attributes : List Attribute) : Bytes := attributes.flatMap Attribute.encode

/-- The first mapped attribute decides the result of the walk. -/
def firstMapped (attributes : List Attribute) : Except String String :=
  match attributes.find? Attribute.isMapped with
  | some attr => attr.mapped
  | none => noMappedAddress

section
variable (front : Bytes) (attr : Attribute) (rest : Bytes)

/-- The walk reads the type of the attribute. -/
theorem type_at :
    u16At (front ++ (attr.encode ++ rest)) front.length = attr.type.toNat := by
  have moved := u16At_append front (attr.encode ++ rest) 0
  rw [Nat.add_zero] at moved
  rw [moved]
  simp only [Attribute.encode, List.append_assoc]
  exact u16At_put attr.type.toNat_lt _

/-- The walk reads the length of the value. -/
theorem length_at (small : attr.value.length < 2 ^ 16) :
    u16At (front ++ (attr.encode ++ rest)) (front.length + 2) = attr.value.length := by
  rw [u16At_append]
  simp only [Attribute.encode, List.append_assoc]
  exact (u16At_append (putU16 attr.type.toNat) _ 0).trans (u16At_put small _)

/-- The walk reads the value without its padding. -/
theorem value_at : slice (front ++ (attr.encode ++ rest)) (front.length + 4)
    (front.length + 4 + attr.value.length) = attr.value := by
  rw [Nat.add_assoc, slice_append]
  simp only [Attribute.encode, List.append_assoc]
  have header := slice_append (putU16 attr.type.toNat ++ putU16 attr.value.length)
    (attr.value ++ (attr.padding ++ rest)) 0 attr.value.length
  simp only [List.append_assoc] at header
  apply header.trans
  simp [slice]

end

/-- At each attribute the walk stands behind a front of any bytes. The induction moves the attribute
that it skips to the front. -/
theorem parseAttributes_walk (attributes : List Attribute)
    (small : ∀ attr ∈ attributes, attr.value.length < 2 ^ 16) (front : Bytes) :
    parseAttributes (front ++ encodeAttributes attributes)
      (front.length + (encodeAttributes attributes).length) front.length = firstMapped attributes := by
  induction attributes generalizing front with
  | nil =>
      rw [parseAttributes, if_neg]
      · rfl
      · simp [encodeAttributes]
  | cons attr rest inductionHypothesis =>
      have short := small attr List.mem_cons_self
      have shape : encodeAttributes (attr :: rest) = attr.encode ++ encodeAttributes rest := rfl
      have length := attr.encode_length
      rw [shape, parseAttributes, if_pos (by rw [List.length_append]; omega),
        if_neg (by simp only [List.length_append]; omega)]
      dsimp only
      rw [type_at, length_at _ _ _ short,
        if_neg (by simp only [List.length_append]; omega), value_at]
      by_cases mapped : attr.isMapped = true
      · have listed : attr.type.toNat = 0x0020 ∨ attr.type.toNat = 0x0001 := by
          rw [attr.type_toNat (by decide), attr.type_toNat (by decide)]
          exact of_decide_eq_true mapped
        rw [if_pos listed]
        simp only [firstMapped, List.find?_cons_of_pos mapped, Attribute.mapped,
          attr.type_toNat (by decide : 0x0020 < 2 ^ 16)]
        rfl
      · have skipped : ¬ (attr.type.toNat = 0x0020 ∨ attr.type.toNat = 0x0001) := by
          rw [attr.type_toNat (by decide), attr.type_toNat (by decide)]
          intro listed
          exact mapped (decide_eq_true listed)
        have later := inductionHypothesis
          (fun other member => small other (List.mem_cons_of_mem attr member))
          (front ++ attr.encode)
        rw [if_neg skipped, firstMapped, List.find?_cons_of_neg mapped]
        rw [List.append_assoc, List.length_append] at later
        rw [List.length_append, ← Nat.add_assoc front.length]
        have behind : front.length + 4 + attr.value.length +
            (4 - attr.value.length % 4) % 4 = front.length + attr.encode.length := by
          rw [length, attr.aligned]
          omega
        rw [behind]
        exact later

/-- Whatever a mapped attribute holds, it ends the walk with its own answer. -/
theorem parseMappedAddress_found (data : Bytes) (isXored : Bool) :
    parseMappedAddress data isXored ≠ noMappedAddress := by
  unfold parseMappedAddress noMappedAddress
  intro equal
  split at equal
  · simp at equal
  · dsimp only at equal
    split at equal
    · split at equal <;> simp at equal
    · split at equal
      · split at equal <;> simp at equal
      · have first := congrArg List.head? (congrArg String.toList (Except.error.inj equal))
        simp only [String.toList_append] at first
        have letters : some 'U' = some 'N' := first
        exact absurd letters (by decide)

/-- The walk reports a missing address exactly when no attribute carries one. -/
theorem firstMapped_missing (attributes : List Attribute) :
    firstMapped attributes = noMappedAddress ↔
      ∀ attr ∈ attributes, attr.isMapped = false := by
  have absent : attributes.find? Attribute.isMapped = none ↔
      ∀ attr ∈ attributes, attr.isMapped = false := by
    simp only [List.find?_eq_none, Bool.not_eq_true]
  rw [← absent, firstMapped]
  cases found : attributes.find? Attribute.isMapped with
  | none => simp
  | some attr =>
      simp only [reduceCtorEq, iff_false]
      exact parseMappedAddress_found _ _

/-- After a header that passes the checks, the parser gives the first mapped address of the list, and
it misses an address only where the list has none. -/
theorem parseBindingResponse_attributes (tid : TransactionId) (header : Bytes)
    (attributes : List Attribute) (whole : header.length = 20) (success : u16At header 0 = 0x0101)
    (transaction : slice header 4 16 = tid.toList)
    (bounded : (encodeAttributes attributes).length ≤ 65535)
    (measured : u16At header 2 = (encodeAttributes attributes).length) :
    parseBindingResponse (header ++ encodeAttributes attributes) tid = firstMapped attributes ∧
      (parseBindingResponse (header ++ encodeAttributes attributes) tid = noMappedAddress ↔
        ∀ attr ∈ attributes, attr.isMapped = false) := by
  have first : u16At (header ++ encodeAttributes attributes) 0 = 0x0101 := by
    rw [u16At_front _ (by omega), success]
  have length : u16At (header ++ encodeAttributes attributes) 2 =
      (encodeAttributes attributes).length := by
    rw [u16At_front _ (by omega), measured]
  have same : slice (header ++ encodeAttributes attributes) 4 16 = tid.toList := by
    rw [← transaction, slice, slice, List.drop_append_of_le_length (by omega),
      List.take_append_of_le_length (by rw [List.length_drop]; omega)]
  have small (attr : Attribute) (member : attr ∈ attributes) : attr.value.length < 2 ^ 16 := by
    have inside : attr.encode.length ≤ (encodeAttributes attributes).length :=
      (List.sublist_flatten_of_mem (List.mem_map_of_mem member)).length_le
    have length := attr.encode_length
    omega
  have walked := parseAttributes_walk attributes small header
  rw [whole] at walked
  have result : parseBindingResponse (header ++ encodeAttributes attributes) tid =
      firstMapped attributes := by
    unfold parseBindingResponse
    rw [if_neg (by rw [List.length_append]; omega)]
    dsimp only
    rw [if_neg (by simpa using first), if_neg (by simpa using same), length]
    exact walked
  exact ⟨result, by rw [result, firstMapped_missing]⟩

/-- An attribute with an odd length stands before the address. -/
theorem parseBindingResponse_attributes_software :
    parseBindingResponse ([0x01, 0x01, 0x00, 0x14] ++ List.replicate 16 7 ++ encodeAttributes
      [⟨0x8022, [0x61, 0x62, 0x63], [0], rfl⟩, ⟨0x0001, [0, 1, 0x22, 0x3d, 192, 168, 1, 100], [], rfl⟩])
        ⟨List.replicate 12 7, rfl⟩ = .ok "192.168.1.100:8765" := by
  have walked := (parseBindingResponse_attributes ⟨List.replicate 12 7, rfl⟩
    ([0x01, 0x01, 0x00, 0x14] ++ List.replicate 16 7)
    [⟨0x8022, [0x61, 0x62, 0x63], [0], rfl⟩, ⟨0x0001, [0, 1, 0x22, 0x3d, 192, 168, 1, 100], [], rfl⟩]
    (by decide) (by decide) (by decide) (by decide) (by decide)).1
  rw [walked]
  decide

end ConstructEngine.Stun
