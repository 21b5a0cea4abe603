import ConstructEngine.Proof.AddressText

namespace ConstructEngine.Stun

/-- A mapped address has four or sixteen bytes. -/
inductive MappedIp where
  | v4 (ip : List.Vector UInt8 4)
  | v6 (ip : List.Vector UInt8 16)

namespace MappedIp

def bytes : MappedIp → Bytes
  | v4 ip => ip.toList
  | v6 ip => ip.toList

def family : MappedIp → UInt8
  | v4 _ => 0x01
  | v6 _ => 0x02

/-- The text of an address is followed by its port. -/
def text (port : UInt16) : MappedIp → String
  | v4 ip => s!"{ipv4Text ip.toList}:{port.toNat}"
  | v6 ip => s!"[{ipv6Text ip.toList}]:{port.toNat}"

def isV4 : MappedIp → Bool
  | v4 _ => true
  | v6 _ => false

end MappedIp

/-- Bytes are combined with the first bytes of the key. -/
def xorBytes (bytes key : Bytes) : Bytes := List.zipWith (· ^^^ ·) bytes key

/-- The standard combines the port with the first half of the cookie, and the address with the cookie
and then the transaction. -/
def mappedValue (isXored : Bool) (ip : MappedIp) (port : UInt16) (tid : TransactionId) : Bytes :=
  let wirePort := if isXored then port.toNat ^^^ 0x2112 else port.toNat
  let wireIp := if isXored then xorBytes ip.bytes (magicCookie ++ tid.toList) else ip.bytes
  [0x00, ip.family] ++ putU16 wirePort ++ wireIp

/-- The parser gives the text of the address and the port that the value encodes. -/
def Decodes (isXored : Bool) (ip : MappedIp) (port : UInt16) (tid : TransactionId) : Prop :=
  parseMappedAddress (mappedValue isXored ip port tid) isXored = .ok (ip.text port)

def zeroTransaction : TransactionId := ⟨List.replicate 12 0, rfl⟩

/-- The parser knows the cookie but not the transaction. -/
def DecodingCondition (isXored : Bool) (ip : MappedIp) (tid : TransactionId) : Prop :=
  isXored = false ∨ ip.isV4 = true ∨ tid = zeroTransaction

theorem xorBytes_length {bytes key : Bytes} (covered : bytes.length ≤ key.length) :
    (xorBytes bytes key).length = bytes.length := by
  rw [xorBytes, List.length_zipWith, Nat.min_eq_left covered]

/-- The same key gives the bytes back. -/
theorem xorBytes_xorBytes {bytes key : Bytes} (covered : bytes.length ≤ key.length) :
    xorBytes (xorBytes bytes key) key = bytes := by
  induction bytes generalizing key with
  | nil => rfl
  | cons byte rest inductionHypothesis =>
      match key, covered with
      | first :: key, covered =>
          have tail : xorBytes (xorBytes rest key) key = rest :=
            inductionHypothesis (Nat.le_of_succ_le_succ covered)
          simp only [xorBytes, List.zipWith_cons_cons] at tail ⊢
          rw [tail, UInt8.xor_assoc, UInt8.xor_self, UInt8.xor_zero]

/-- Only zeroes leave all bytes as they are. -/
theorem xorBytes_eq_self {bytes key : Bytes} (same : bytes.length = key.length) :
    xorBytes bytes key = bytes ↔ key = List.replicate key.length 0 := by
  induction bytes generalizing key with
  | nil =>
      have empty : key = [] := List.length_eq_zero_iff.mp same.symm
      subst empty
      exact iff_of_true rfl rfl
  | cons byte rest inductionHypothesis =>
      match key, same with
      | first :: key, same =>
          have tail : xorBytes rest key = rest ↔ key = List.replicate key.length 0 :=
            inductionHypothesis (Nat.succ.inj same)
          have head : byte ^^^ first = byte ↔ first = 0 := by
            have zero := UInt8.xor_right_inj (a := first) (b := 0) byte
            rwa [UInt8.xor_zero] at zero
          simp only [xorBytes, List.zipWith_cons_cons] at tail ⊢
          rw [List.length_cons, List.replicate_succ, List.cons.injEq, List.cons.injEq, head, tail]

/-- The parser takes the cookie off again and leaves the transaction on the later bytes. -/
theorem xorMagic_xorBytes {bytes : Bytes} (tid : TransactionId) (long : 4 ≤ bytes.length) :
    xorMagic (xorBytes bytes (magicCookie ++ tid.toList)) =
      bytes.take 4 ++ xorBytes (bytes.drop 4) tid.toList := by
  have four : (bytes.take 4).length = magicCookie.length := by
    rw [List.length_take, Nat.min_eq_left long]
    rfl
  have split : xorBytes bytes (magicCookie ++ tid.toList) =
      xorBytes (bytes.take 4) magicCookie ++ xorBytes (bytes.drop 4) tid.toList := by
    unfold xorBytes
    rw [← List.zipWith_append four, List.take_append_drop]
  have front : (xorBytes (bytes.take 4) magicCookie).length = 4 := by
    rw [xorBytes_length (Nat.le_of_eq four), four]
    rfl
  rw [split, xorMagic, List.take_left' front, List.drop_left' front]
  change xorBytes (xorBytes (bytes.take 4) magicCookie) magicCookie ++ _ = _
  rw [xorBytes_xorBytes (Nat.le_of_eq four)]

/-- A value with the IPv6 family gives the text of its address and port. -/
theorem parseMappedAddress_valueV6 (isXored : Bool) (p1 p2 : UInt8) {ip : Bytes}
    (sixteen : ip.length = 16) :
    parseMappedAddress ([0x00, 0x02, p1, p2] ++ ip) isXored =
      .ok s!"[{ipv6Text (if isXored then xorMagic ip else ip)}]:{
        if isXored then u16FromBeBytes p1 p2 ^^^ 0x2112 else u16FromBeBytes p1 p2}" := by
  have whole : ip.take 16 = ip := List.take_of_length_le (by omega)
  simp [parseMappedAddress, u16At, slice, sixteen, whole]

section
variable (isXored : Bool) (port : UInt16) (tid : TransactionId)

/-- The port is read back in both kinds of attributes. -/
theorem port_read : (if isXored then
      u16FromBeBytes (UInt8.ofNat ((if isXored then port.toNat ^^^ 0x2112 else port.toNat) / 2 ^ 8))
        (UInt8.ofNat (if isXored then port.toNat ^^^ 0x2112 else port.toNat)) ^^^ 0x2112
    else u16FromBeBytes (UInt8.ofNat ((if isXored then port.toNat ^^^ 0x2112 else port.toNat) / 2 ^ 8))
        (UInt8.ofNat (if isXored then port.toNat ^^^ 0x2112 else port.toNat))) = port.toNat := by
  have fits : port.toNat < 2 ^ 16 := port.toNat_lt
  cases isXored with
  | false => exact u16_roundtrip fits
  | true =>
      have xored : port.toNat ^^^ 0x2112 < 2 ^ 16 := Nat.xor_lt_two_pow fits (by decide)
      simp only [if_true]
      rw [u16_roundtrip xored, Nat.xor_assoc, Nat.xor_self, Nat.xor_zero]

/-- An IPv4 address is decoded in both kinds of attributes. -/
theorem decodes_v4 (ip : List.Vector UInt8 4) : Decodes isXored (.v4 ip) port tid := by
  have four : ip.toList.length = 4 := ip.toList_length
  have wire : (if isXored then xorBytes ip.toList (magicCookie ++ tid.toList) else ip.toList).length = 4 := by
    split
    · rw [xorBytes_length (by rw [four, List.length_append]; exact Nat.le_add_right 4 _), four]
    · exact four
  have read : (if isXored then
      xorMagic (if isXored then xorBytes ip.toList (magicCookie ++ tid.toList) else ip.toList)
        else if isXored then xorBytes ip.toList (magicCookie ++ tid.toList) else ip.toList) = ip.toList := by
    cases isXored with
    | false => rfl
    | true =>
        simp only [if_true]
        rw [xorMagic_xorBytes tid (Nat.le_of_eq four.symm), List.take_of_length_le (Nat.le_of_eq four),
          List.drop_eq_nil_of_le (Nat.le_of_eq four)]
        exact List.append_nil _
  refine (parseMappedAddress_value isXored _ _ wire).trans ?_
  rw [read, port_read]
  rfl

/-- An IPv6 address is decoded up to the transaction that the parser leaves on it. -/
theorem parseMappedAddress_v6 (ip : List.Vector UInt8 16) :
    parseMappedAddress (mappedValue isXored (.v6 ip) port tid) isXored =
      .ok s!"[{ipv6Text (if isXored then ip.toList.take 4 ++ xorBytes (ip.toList.drop 4) tid.toList
        else ip.toList)}]:{port.toNat}" := by
  have sixteen : ip.toList.length = 16 := ip.toList_length
  have wire : (if isXored then xorBytes ip.toList (magicCookie ++ tid.toList) else ip.toList).length = 16 := by
    split
    · rw [xorBytes_length (by rw [sixteen, List.length_append, tid.toList_length]; decide), sixteen]
    · exact sixteen
  have read : (if isXored then
      xorMagic (if isXored then xorBytes ip.toList (magicCookie ++ tid.toList) else ip.toList)
        else if isXored then xorBytes ip.toList (magicCookie ++ tid.toList) else ip.toList) =
      if isXored then ip.toList.take 4 ++ xorBytes (ip.toList.drop 4) tid.toList else ip.toList := by
    cases isXored with
    | false => rfl
    | true => exact xorMagic_xorBytes tid (by rw [sixteen]; decide)
  refine (parseMappedAddress_valueV6 isXored _ _ wire).trans ?_
  rw [read, port_read]

theorem decodes_v6_iff (ip : List.Vector UInt8 16) :
    Decodes isXored (.v6 ip) port tid ↔ isXored = false ∨ tid = zeroTransaction := by
  unfold Decodes
  rw [parseMappedAddress_v6]
  cases isXored with
  | false => exact iff_of_true rfl (.inl rfl)
  | true =>
      have rest : (ip.toList.drop 4).length = tid.toList.length := by
        rw [List.length_drop, ip.toList_length, tid.toList_length]
      have length : (ip.toList.take 4 ++ xorBytes (ip.toList.drop 4) tid.toList).length = 16 := by
        rw [List.length_append, xorBytes_length (Nat.le_of_eq rest), ← List.length_append,
          List.take_append_drop, ip.toList_length]
      -- the brackets and the port are the same, so the texts of the two addresses are compared
      have texts : (Except.ok s!"[{ipv6Text (ip.toList.take 4 ++ xorBytes (ip.toList.drop 4) tid.toList)}]:{
          port.toNat}" : Except String String) = .ok ((MappedIp.v6 ip).text port) ↔
            ip.toList.take 4 ++ xorBytes (ip.toList.drop 4) tid.toList = ip.toList := by
        constructor
        · intro same
          have inner := (String.append_left_inj _).mp ((String.append_left_inj _).mp (Except.ok.inj same))
          exact ipv6Text_injective length ip.toList_length ((String.append_right_inj _).mp inner)
        · intro same
          rw [same]
          rfl
      have bytes : ip.toList.take 4 ++ xorBytes (ip.toList.drop 4) tid.toList = ip.toList ↔
          xorBytes (ip.toList.drop 4) tid.toList = ip.toList.drop 4 := by
        have joined (rest : Bytes) : ip.toList.take 4 ++ rest = ip.toList.take 4 ++ ip.toList.drop 4 ↔
            rest = ip.toList.drop 4 := List.append_right_inj _
        rw [← joined, List.take_append_drop]
      have zero : tid.toList = List.replicate tid.toList.length 0 ↔ tid = zeroTransaction := by
        rw [tid.toList_length]
        exact ⟨fun same => Subtype.ext same, fun same => by rw [same]; rfl⟩
      simp only [if_true]
      rw [texts, bytes, xorBytes_eq_self rest, zero]
      simp

/-- The parser undoes the encoding exactly where the transaction does not touch the address. -/
theorem decodes_iff (ip : MappedIp) :
    Decodes isXored ip port tid ↔ DecodingCondition isXored ip tid := by
  unfold DecodingCondition
  cases ip with
  | v4 ip => exact iff_of_true (decodes_v4 isXored port tid ip) (.inr (.inl rfl))
  | v6 ip =>
      rw [decodes_v6_iff]
      simp [MappedIp.isV4]

end

/-- The transaction stays on the later bytes of this address. -/
theorem decodes_fails : ¬ ∀ isXored ip port tid, Decodes isXored ip port tid := by
  intro each
  have condition := (decodes_iff true 8765 ⟨[1, 2, 3, 4, 5, 6, 7, 8, 9, 10, 11, 12], rfl⟩
    (.v6 ⟨[0x20, 0x01, 0x0d, 0xb8, 0, 0, 0, 0, 0, 0, 0, 0, 0, 0, 0, 1], rfl⟩)).mp (each _ _ _ _)
  rcases condition with plain | four | zero
  · cases plain
  · cases four
  · exact absurd (congrArg List.Vector.toList zero) (by decide)

end ConstructEngine.Stun
