import ConstructEngine.Construction.Error
import Mathlib.Data.Vector.Basic

namespace ConstructEngine.Stun

/-- A transaction has twelve bytes. -/
abbrev TransactionId := List.Vector UInt8 12

/-- Every message of the protocol carries this constant. -/
def magicCookie : Bytes := [0x21, 0x12, 0xA4, 0x42]

/-- Positions beyond the end are cut off. -/
def slice (bytes : Bytes) (start stop : Nat) : Bytes := (bytes.drop start).take (stop - start)

/-- Two bytes in network order give a 16-bit integer. -/
def u16FromBeBytes (b1 b2 : UInt8) : Nat := b1.toNat * 2 ^ 8 + b2.toNat

/-- The integer at this offset is read after its bounds are checked. -/
def u16At (bytes : Bytes) (offset : Nat) : Nat :=
  u16FromBeBytes (bytes.getD offset 0) (bytes.getD (offset + 1) 0)

/-- The identifier is the clock in network order, and then its lowest bytes again in reverse. -/
def generateTransactionId (timestamp : UInt64) : TransactionId :=
  let byte (index : Nat) : UInt8 := UInt8.ofNat (timestamp.toNat / 2 ^ (8 * index))
  ⟨[byte 7, byte 6, byte 5, byte 4, byte 3, byte 2, byte 1, byte 0,
    byte 0, byte 1, byte 2, byte 3], rfl⟩

/-- The request is the message type, an empty length, the cookie and the transaction. -/
def buildBindingRequest (transactionId : TransactionId) : Bytes :=
  [0x00, 0x01] ++ [0x00, 0x00] ++ magicCookie ++ transactionId.toList

def hexLower (value : Nat) : String := String.ofList (Nat.toDigits 16 value)

def hexUpper (width value : Nat) : String :=
  let digits := (Nat.toDigits 16 value).map Char.toUpper
  String.ofList (List.replicate (width - digits.length) '0' ++ digits)

def ipv4Text (ip : Bytes) : String := ".".intercalate (ip.map fun byte => toString byte.toNat)

/-- A run of zero segments has a start and a length. -/
structure Span where
  start : Nat := 0
  length : Nat := 0

/-- The first longest run of zero segments is written as two colons. -/
def longestZeroes (segments : List Nat) : Span :=
  let step (spans : Span × Span) (segment : Nat × Nat) : Span × Span :=
    let (longest, current) := spans
    if segment.1 = 0 then
      let start := if current.length = 0 then segment.2 else current.start
      let current : Span := ⟨start, current.length + 1⟩
      (if longest.length < current.length then current else longest, current)
    else (longest, {})
  (segments.zipIdx.foldl step ({}, {})).1

def segmentsText (segments : List Nat) : String := ":".intercalate (segments.map hexLower)

def ipv6Segments : Bytes → List Nat
  | b1 :: b2 :: rest => u16FromBeBytes b1 b2 :: ipv6Segments rest
  | _ => []

/-- This is the display text of the standard library for an address of sixteen bytes. -/
def ipv6Text (ip : Bytes) : String :=
  if ip.take 12 = List.replicate 10 0 ++ [0xff, 0xff] then s!"::ffff:{ipv4Text (ip.drop 12)}"
  else
    let segments := ipv6Segments ip
    let zeroes := longestZeroes segments
    if 1 < zeroes.length then
      segmentsText (segments.take zeroes.start) ++ "::" ++
        segmentsText (segments.drop (zeroes.start + zeroes.length))
    else segmentsText segments

/-- The first four bytes of an address are combined with the cookie. -/
def xorMagic (ip : Bytes) : Bytes := List.zipWith (· ^^^ ·) (ip.take 4) magicCookie ++ ip.drop 4

def parseMappedAddress (data : Bytes) (isXored : Bool) : Except String String :=
  if data.length < 4 then .error "Mapped address too short"
  else
    let family := data.getD 1 0
    let port := u16At data 2
    let port := if isXored then port ^^^ 0x2112 else port
    if family = 0x01 then
      if data.length < 8 then .error "IPv4 address too short"
      else
        let ipBytes := slice data 4 8
        let ipBytes := if isXored then xorMagic ipBytes else ipBytes
        .ok s!"{ipv4Text ipBytes}:{port}"
    else if family = 0x02 then
      if data.length < 20 then .error "IPv6 address too short"
      else
        let ipBytes := slice data 4 20
        let ipBytes := if isXored then xorMagic ipBytes else ipBytes
        .ok s!"[{ipv6Text ipBytes}]:{port}"
    else .error s!"Unknown address family: 0x{hexUpper 2 family.toNat}"

def noMappedAddress : Except String String := .error "No mapped address found in STUN response"

/-- The first address attribute decides, and every other attribute is skipped with its padding. -/
def parseAttributes (response : Bytes) (stop offset : Nat) : Except String String :=
  if offset < stop then
    if response.length < offset + 4 then noMappedAddress
    else
      let attrType := u16At response offset
      let attrLength := u16At response (offset + 2)
      let value := offset + 4
      if response.length < value + attrLength then noMappedAddress
      else if attrType = 0x0020 ∨ attrType = 0x0001 then
        parseMappedAddress (slice response value (value + attrLength)) (attrType = 0x0020)
      else
        let padding := (4 - attrLength % 4) % 4
        parseAttributes response stop (value + attrLength + padding)
  else noMappedAddress
  termination_by stop - offset

/-- The transaction is compared with the bytes from the fourth on. -/
def parseBindingResponse (response : Bytes) (expectedTid : TransactionId) :
    Except String String :=
  if response.length < 20 then .error "STUN response too short"
  else
    let msgType := u16At response 0
    if msgType ≠ 0x0101 then .error s!"Unexpected STUN message type: 0x{hexUpper 4 msgType}"
    else if slice response 4 16 ≠ expectedTid.toList then .error "Transaction ID mismatch"
    else
      let msgLength := u16At response 2
      parseAttributes response (20 + msgLength) 20

end ConstructEngine.Stun
