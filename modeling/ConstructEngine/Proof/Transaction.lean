import ConstructEngine.Construction.Stun
import Mathlib.Data.LawfulXor.Basic

namespace ConstructEngine.Stun

theorem u16At_append (header rest : Bytes) (offset : Nat) :
    u16At (header ++ rest) (header.length + offset) = u16At rest offset := by
  unfold u16At
  simp only [List.getD_eq_getElem?_getD]
  rw [Nat.add_assoc, List.getElem?_append_right (Nat.le_add_right ..),
    List.getElem?_append_right (Nat.le_add_right ..), Nat.add_sub_cancel_left,
    Nat.add_sub_cancel_left]

theorem slice_append (header rest : Bytes) (start stop : Nat) :
    slice (header ++ rest) (header.length + start) (header.length + stop) =
      slice rest start stop := by
  unfold slice
  rw [List.drop_append, List.drop_eq_nil_of_le (Nat.le_add_right ..), List.nil_append,
    Nat.add_sub_cancel_left, Nat.add_sub_add_left]

/-- The response carries the cookie and the transaction where the request puts them. -/
def Carries (response : Bytes) (tid : TransactionId) : Prop :=
  slice response 4 8 = magicCookie ∧ slice response 8 20 = tid.toList

theorem parseMappedAddress_ne_mismatch (data : Bytes) (isXored : Bool) :
    parseMappedAddress data isXored ≠ .error "Transaction ID mismatch" := by
  unfold parseMappedAddress
  intro equal
  split at equal
  · simp at equal
  · dsimp only at equal
    split at equal
    · split at equal <;> simp at equal
    · split at equal
      · split at equal <;> simp at equal
      · have first := congrArg List.head? (congrArg String.toList (Except.error.inj equal))
        simp only [String.toList_append] at first
        have letters : some 'U' = some 'T' := first
        exact absurd letters (by decide)

/-- No later error repeats the text of the transaction check. -/
theorem parseAttributes_ne_mismatch (response : Bytes) (stop offset : Nat) :
    parseAttributes response stop offset ≠ .error "Transaction ID mismatch" := by
  fun_induction parseAttributes response stop offset with
  | case1 => simp [noMappedAddress]
  | case2 => simp [noMappedAddress]
  | case3 => exact parseMappedAddress_ne_mismatch _ _
  | case4 _ _ _ _ _ _ _ _ _ ih => exact ih
  | case5 => simp [noMappedAddress]

/-- The check compares the transaction with the bytes that start at the cookie. -/
theorem parse_passes_iff {response : Bytes} {tid : TransactionId} (long : 20 ≤ response.length)
    (success : u16At response 0 = 0x0101) :
    parseBindingResponse response tid ≠ .error "Transaction ID mismatch" ↔
      slice response 4 16 = tid.toList := by
  unfold parseBindingResponse
  rw [if_neg (by omega)]
  dsimp only
  rw [if_neg (by simpa using success)]
  split
  · next mismatch => simp [mismatch]
  · next same => simpa [parseAttributes_ne_mismatch] using same

/-- The cookie is repeated until it fills the transaction. -/
def cookieTransaction : TransactionId := ⟨magicCookie ++ magicCookie ++ magicCookie, rfl⟩

/-- These are the responses on which the check gives the right answer. -/
def TransactionCondition (response : Bytes) (tid : TransactionId) : Prop :=
  slice response 4 16 ≠ tid.toList ∧ ¬ Carries response tid ∨
    tid = cookieTransaction ∧ slice response 4 20 = magicCookie ++ cookieTransaction.toList

/-- Two slices that meet are one. -/
theorem slice_join (bytes : Bytes) {start middle stop : Nat} (first : start ≤ middle)
    (second : middle ≤ stop) :
    slice bytes start stop = slice bytes start middle ++ slice bytes middle stop := by
  unfold slice
  have length : stop - start = (middle - start) + (stop - middle) := by omega
  rw [length, List.take_add, List.drop_drop]
  congr 3
  omega

/-- Both readings of one response agree only when the cookie fills the whole header. -/
theorem readings_agree {response : Bytes} {tid : TransactionId}
    (shifted : slice response 4 16 = tid.toList) (carries : Carries response tid) :
    tid = cookieTransaction ∧ slice response 4 20 = magicCookie ++ cookieTransaction.toList := by
  obtain ⟨cookie, transaction⟩ := carries
  have whole : slice response 4 20 = magicCookie ++ tid.toList := by
    rw [slice_join response (by decide : 4 ≤ 8) (by decide : 8 ≤ 20), cookie, transaction]
  have split : magicCookie ++ tid.toList = tid.toList ++ slice response 16 20 := by
    rw [← whole, slice_join response (by decide : 4 ≤ 16) (by decide : 16 ≤ 20), shifted]
  have same : tid = cookieTransaction := by
    obtain ⟨bytes, twelve⟩ := tid
    apply Subtype.ext
    change bytes = magicCookie ++ magicCookie ++ magicCookie
    change magicCookie ++ bytes = bytes ++ slice response 16 20 at split
    match bytes, twelve with
    | [t1, t2, t3, t4, t5, t6, t7, t8, t9, t10, t11, t12], _ =>
        simp only [magicCookie, List.cons_append, List.nil_append, List.cons.injEq] at split ⊢
        obtain ⟨h1, h2, h3, h4, h5, h6, h7, h8, h9, h10, h11, h12, -⟩ := split
        subst h1 h2 h3 h4 h5 h6 h7 h8 h9 h10 h11 h12
        simp
  exact ⟨same, by rw [whole, same]⟩

/-- The two checks agree exactly under the condition. -/
theorem transactionCondition_iff {response : Bytes} {tid : TransactionId} :
    (slice response 4 16 = tid.toList ↔ Carries response tid) ↔
      TransactionCondition response tid := by
  constructor
  · intro agree
    by_cases shifted : slice response 4 16 = tid.toList
    · exact .inr (readings_agree shifted (agree.mp shifted))
    · exact .inl ⟨shifted, fun carries => shifted (agree.mpr carries)⟩
  · rintro (⟨different, foreign⟩ | ⟨rfl, whole⟩)
    · exact iff_of_false different foreign
    · have four : slice response 4 16 = (slice response 4 20).take 12 := by
        simp [slice, List.take_take]
      have cookie : slice response 4 8 = (slice response 4 20).take 4 := by
        simp [slice, List.take_take]
      have transaction : slice response 8 20 = (slice response 4 20).drop 4 := by
        simp [slice, List.drop_take]
      refine iff_of_true ?_ ⟨?_, ?_⟩
      · rw [four, whole]; rfl
      · rw [cookie, whole]; rfl
      · rw [transaction, whole]; rfl

/-- The server writes the mapped address of a client in this attribute. -/
def ipv4Attribute (isXored : Bool) (ip : List.Vector UInt8 4) (port : UInt16) : Bytes :=
  let wirePort := if isXored then port.toNat ^^^ 0x2112 else port.toNat
  let wireIp := if isXored then xorMagic ip.toList else ip.toList
  [0x00, if isXored then 0x20 else 0x01] ++ [0x00, 0x08] ++ [0x00, 0x01] ++
    [UInt8.ofNat (wirePort / 2 ^ 8), UInt8.ofNat wirePort] ++ wireIp

/-- The success response echoes the header of the request before its only attribute. -/
def successResponse (tid : TransactionId) (mapped : Bytes) : Bytes :=
  [0x01, 0x01] ++ [0x00, UInt8.ofNat mapped.length] ++ slice (buildBindingRequest tid) 4 20 ++ mapped

/-- A written number is read back. -/
theorem u16_roundtrip {value : Nat} (fits : value < 2 ^ 16) :
    u16FromBeBytes (UInt8.ofNat (value / 2 ^ 8)) (UInt8.ofNat value) = value := by
  simp only [u16FromBeBytes, UInt8.toNat_ofNat']
  omega

/-- Two combinations with the cookie cancel. -/
theorem xorMagic_xorMagic (ip : List.Vector UInt8 4) : xorMagic (xorMagic ip.toList) = ip.toList := by
  obtain ⟨bytes, four⟩ := ip
  match bytes, four with
  | [b1, b2, b3, b4], _ => simp [xorMagic, magicCookie, List.Vector.toList]

/-- An address keeps its length. -/
theorem xorMagic_length (ip : List.Vector UInt8 4) : (xorMagic ip.toList).length = 4 := by
  obtain ⟨bytes, four⟩ := ip
  simp [xorMagic, magicCookie, List.Vector.toList, four]

/-- A value with the IPv4 family gives the text of its address and port. -/
theorem parseMappedAddress_value (isXored : Bool) (p1 p2 : UInt8) {ip : Bytes}
    (four : ip.length = 4) :
    parseMappedAddress ([0x00, 0x01, p1, p2] ++ ip) isXored =
      .ok s!"{ipv4Text (if isXored then xorMagic ip else ip)}:{
        if isXored then u16FromBeBytes p1 p2 ^^^ 0x2112 else u16FromBeBytes p1 p2}" := by
  have whole : ip.take 4 = ip := List.take_of_length_le (by omega)
  simp [parseMappedAddress, u16At, slice, four, whole]

/-- The parser of the attribute value undoes what the server wrote. -/
theorem parseMappedAddress_ipv4 (isXored : Bool) (ip : List.Vector UInt8 4) (port : UInt16) :
    parseMappedAddress ((ipv4Attribute isXored ip port).drop 4) isXored =
      .ok s!"{ipv4Text ip.toList}:{port.toNat}" := by
  have fits : port.toNat < 2 ^ 16 := port.toNat_lt
  cases isXored with
  | false =>
      apply (parseMappedAddress_value false _ _ ip.toList_length).trans
      simp only [Bool.false_eq_true, if_false]
      rw [u16_roundtrip fits]
  | true =>
      have xored : port.toNat ^^^ 0x2112 < 2 ^ 16 := Nat.xor_lt_two_pow fits (by decide)
      apply (parseMappedAddress_value true _ _ (xorMagic_length ip)).trans
      simp only [if_true]
      rw [u16_roundtrip xored, xorMagic_xorMagic, Nat.xor_assoc, Nat.xor_self, Nat.xor_zero]

/-- Such an attribute has twelve bytes. -/
theorem ipv4Attribute_length (isXored : Bool) (ip : List.Vector UInt8 4) (port : UInt16) :
    (ipv4Attribute isXored ip port).length = 12 := by
  cases isXored with
  | false => simp [ipv4Attribute]
  | true => simp [ipv4Attribute, xorMagic_length]

/-- These are the first twenty bytes of the response. -/
def successHeader (tid : TransactionId) : Bytes :=
  [0x01, 0x01, 0x00, 0x0c] ++ slice (buildBindingRequest tid) 4 20

/-- A header has twenty bytes. -/
theorem successHeader_length (tid : TransactionId) : (successHeader tid).length = 20 := by
  simp [successHeader, slice, buildBindingRequest, magicCookie]

theorem successResponse_split (tid : TransactionId) (isXored : Bool) (ip : List.Vector UInt8 4)
    (port : UInt16) :
    successResponse tid (ipv4Attribute isXored ip port) =
      successHeader tid ++ ipv4Attribute isXored ip port := by
  rw [successResponse, ipv4Attribute_length]
  rfl

/-- The only attribute of the response is found at once. -/
theorem parseAttributes_successResponse (tid : TransactionId) (isXored : Bool)
    (ip : List.Vector UInt8 4) (port : UInt16) :
    parseAttributes (successHeader tid ++ ipv4Attribute isXored ip port) 32 20 =
      .ok s!"{ipv4Text ip.toList}:{port.toNat}" := by
  have header := successHeader_length tid
  have twelve := ipv4Attribute_length isXored ip port
  have kind : u16At (successHeader tid ++ ipv4Attribute isXored ip port) 20 =
      if isXored then 0x0020 else 0x0001 := by
    have moved := u16At_append (successHeader tid) (ipv4Attribute isXored ip port) 0
    rw [header] at moved
    rw [moved]
    cases isXored with
    | false => simp [ipv4Attribute, u16At, u16FromBeBytes]
    | true => simp [ipv4Attribute, u16At, u16FromBeBytes]
  have length : u16At (successHeader tid ++ ipv4Attribute isXored ip port) 22 = 8 := by
    have moved := u16At_append (successHeader tid) (ipv4Attribute isXored ip port) 2
    rw [header] at moved
    rw [moved]
    simp [ipv4Attribute, u16At, u16FromBeBytes]
  have value : slice (successHeader tid ++ ipv4Attribute isXored ip port) 24 32 =
      (ipv4Attribute isXored ip port).drop 4 := by
    have moved := slice_append (successHeader tid) (ipv4Attribute isXored ip port) 4 12
    rw [header] at moved
    rw [moved]
    exact List.take_of_length_le (by rw [List.length_drop, twelve])
  have whole : (successHeader tid ++ ipv4Attribute isXored ip port).length = 32 := by
    rw [List.length_append, header, twelve]
  rw [parseAttributes, if_pos (by decide), if_neg (by rw [whole]; decide)]
  simp only [kind, length]
  rw [if_neg (by rw [whole]; decide), value]
  cases isXored with
  | false => exact parseMappedAddress_ipv4 false ip port
  | true => exact parseMappedAddress_ipv4 true ip port

/-- A genuine response that passes the check yields the address of its attribute. -/
theorem parse_successResponse {tid : TransactionId} (isXored : Bool) (ip : List.Vector UInt8 4)
    (port : UInt16)
    (passes : slice (successResponse tid (ipv4Attribute isXored ip port)) 4 16 = tid.toList) :
    parseBindingResponse (successResponse tid (ipv4Attribute isXored ip port)) tid =
      .ok s!"{ipv4Text ip.toList}:{port.toNat}" := by
  rw [successResponse_split] at passes ⊢
  have long : (successHeader tid ++ ipv4Attribute isXored ip port).length = 32 := by
    rw [List.length_append, successHeader_length, ipv4Attribute_length]
  unfold parseBindingResponse
  rw [if_neg (by rw [long]; decide)]
  dsimp only
  have msgLength : u16At (successHeader tid ++ ipv4Attribute isXored ip port) 2 = 12 := by
    simp [successHeader, u16At, u16FromBeBytes]
  rw [if_neg (by simp [successHeader, u16At, u16FromBeBytes]), if_neg (by simpa using passes),
    msgLength]
  exact parseAttributes_successResponse tid isXored ip port

/-- Every genuine response is a success response with a whole header. -/
theorem successResponse_header (tid : TransactionId) (isXored : Bool) (ip : List.Vector UInt8 4)
    (port : UInt16) :
    20 ≤ (successResponse tid (ipv4Attribute isXored ip port)).length ∧
      u16At (successResponse tid (ipv4Attribute isXored ip port)) 0 = 0x0101 := by
  rw [successResponse_split]
  constructor
  · rw [List.length_append, successHeader_length]
    omega
  · simp [successHeader, u16At, u16FromBeBytes]

theorem successResponse_carries (tid : TransactionId) (isXored : Bool) (ip : List.Vector UInt8 4)
    (port : UInt16) : Carries (successResponse tid (ipv4Attribute isXored ip port)) tid := by
  rw [successResponse_split]
  constructor
  · rfl
  · have drop : slice (successHeader tid ++ ipv4Attribute isXored ip port) 8 20 =
        (tid.toList ++ ipv4Attribute isXored ip port).take 12 := by
      simp [slice, successHeader, buildBindingRequest, magicCookie]
    rw [drop, List.take_left' tid.toList_length]

/-- A response passes the check exactly when it carries the transaction, a genuine response
yields its address, and no response to another transaction is accepted. -/
structure TransactionContract (response : Bytes) (tid : TransactionId) : Prop where
  checked : parseBindingResponse response tid ≠ .error "Transaction ID mismatch" ↔
    Carries response tid
  echoed : ∀ isXored ip port, response = successResponse tid (ipv4Attribute isXored ip port) →
    parseBindingResponse response tid = .ok s!"{ipv4Text ip.toList}:{port.toNat}"
  foreign : slice response 8 20 ≠ tid.toList →
    ∀ address, parseBindingResponse response tid ≠ .ok address

/-- The agreement holds exactly on the responses of the condition. -/
theorem transactionContract_iff (response : Bytes) (tid : TransactionId)
    (long : 20 ≤ response.length) (success : u16At response 0 = 0x0101) :
    TransactionContract response tid ↔ TransactionCondition response tid := by
  rw [← transactionCondition_iff, ← parse_passes_iff long success]
  constructor
  · exact TransactionContract.checked
  · intro agree
    refine ⟨agree, ?_, ?_⟩
    · rintro isXored ip port rfl
      have passes := agree.mpr (successResponse_carries tid isXored ip port)
      exact parse_successResponse isXored ip port ((parse_passes_iff long success).mp passes)
    · intro different address accepted
      have passes : parseBindingResponse response tid ≠ .error "Transaction ID mismatch" := by
        rw [accepted]; simp
      exact different (agree.mp passes).2

/-- The clock gives this transaction, and the genuine response to it is rejected. -/
theorem transactionContract_fails :
    ¬ TransactionContract
      (successResponse (generateTransactionId 1) (ipv4Attribute true ⟨[192, 168, 1, 100], rfl⟩ 8765))
      (generateTransactionId 1) := by
  intro contract
  have carries := successResponse_carries (generateTransactionId 1) true
    ⟨[192, 168, 1, 100], rfl⟩ 8765
  exact contract.checked.mpr carries (by decide)

/-- The contract holds for a response to another transaction. -/
theorem transactionContract_foreign :
    TransactionContract ([0x01, 0x01, 0x00, 0x00] ++ List.replicate 16 7) (generateTransactionId 1) :=
  (transactionContract_iff _ _ (by decide) (by decide)).mpr
    (.inl ⟨by decide, fun carries => absurd carries.1 (by decide)⟩)

theorem generateTransactionId_ne (timestamp : UInt64) :
    generateTransactionId timestamp ≠ cookieTransaction := by
  intro same
  have bytes := congrArg List.Vector.toList same
  simp only [generateTransactionId, cookieTransaction, magicCookie, List.Vector.toList,
    List.cons_append, List.nil_append, List.cons.injEq] at bytes
  obtain ⟨-, -, -, -, -, -, -, eighth, ninth, -⟩ := bytes
  exact absurd (eighth.symm.trans ninth) (by decide)

/-- No clock gives the one transaction on which both readings agree, so every genuine response
to a query is rejected. -/
theorem query_rejects_response (timestamp : UInt64) (isXored : Bool) (ip : List.Vector UInt8 4)
    (port : UInt16) :
    parseBindingResponse
      (successResponse (generateTransactionId timestamp) (ipv4Attribute isXored ip port))
      (generateTransactionId timestamp) = .error "Transaction ID mismatch" := by
  by_contra passes
  have carries := successResponse_carries (generateTransactionId timestamp) isXored ip port
  obtain ⟨long, success⟩ :=
    successResponse_header (generateTransactionId timestamp) isXored ip port
  have shifted := (parse_passes_iff long success).mp passes
  exact generateTransactionId_ne timestamp (readings_agree shifted carries).1

end ConstructEngine.Stun
