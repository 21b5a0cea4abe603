import Mathlib.Data.Prod.Basic

namespace Interaction

/-- A wire format writes a value so that a reader takes exactly its bytes back. -/
structure Wire (A : Type) where
  put : A → List UInt8
  take : List UInt8 → Option (A × List UInt8)
  taken : ∀ value rest, take (put value ++ rest) = some (value, rest)

namespace Wire

variable {A B : Type}

/-- A value that is alone on the wire is read back. -/
theorem taken_all (wire : Wire A) (value : A) : wire.take (wire.put value) = some (value, []) := by
  simpa using wire.taken value []

/-- A byte is written as it is. -/
def byte : Wire UInt8 where
  put value := [value]
  take
    | value :: rest => some (value, rest)
    | [] => none
  taken _ _ := rfl

/-- The ones are counted up to the zero. -/
def takeNat : List UInt8 → Option (Nat × List UInt8)
  | [] => none
  | byte :: rest => if byte = 0 then some (0, rest) else (takeNat rest).map fun (value, rest) => (value + 1, rest)

/-- A number is written in unary. -/
def nat : Wire Nat where
  put value := List.replicate value 1 ++ [0]
  take := takeNat
  taken value rest := by
    induction value with
    | zero => rfl
    | succ value ih =>
        rw [List.replicate_succ, List.cons_append, List.cons_append, takeNat, if_neg (by decide), ih]
        rfl

/-- The second value comes after the first. -/
def pair (first : Wire A) (second : Wire B) : Wire (A × B) where
  put value := first.put value.1 ++ second.put value.2
  take bytes := do
    let (left, rest) ← first.take bytes
    let (right, rest) ← second.take rest
    return ((left, right), rest)
  taken value rest := by simp [first.taken, second.taken]

/-- A value goes through another format when it can be recovered from what it is sent as. -/
def via (wire : Wire B) (send : A → B) (receive : B → A)
    (recovered : ∀ value, receive (send value) = value) : Wire A where
  put value := wire.put (send value)
  take bytes := (wire.take bytes).map fun (value, rest) => (receive value, rest)
  taken value rest := by simp [wire.taken, recovered]

/-- A byte says whether there is a value. -/
def option (wire : Wire A) : Wire (Option A) where
  put
    | none => [0]
    | some value => 1 :: wire.put value
  take
    | [] => none
    | tag :: rest =>
        if tag = 0 then some (none, rest) else (wire.take rest).map fun (value, rest) => (some value, rest)
  taken value rest := by cases value <;> simp [wire.taken]

/-- The values are read one after the other. -/
def takeMany (wire : Wire A) : Nat → List UInt8 → Option (List A × List UInt8)
  | 0, bytes => some ([], bytes)
  | count + 1, bytes => do
      let (value, rest) ← wire.take bytes
      let (values, rest) ← takeMany wire count rest
      return (value :: values, rest)

/-- As many values are read as were written. -/
theorem takeMany_put (wire : Wire A) (values : List A) (rest : List UInt8) :
    wire.takeMany values.length (values.flatMap wire.put ++ rest) = some (values, rest) := by
  induction values with
  | nil => rfl
  | cons value values ih => simp [takeMany, wire.taken, ih]

/-- A list is written after its length. -/
def list (wire : Wire A) : Wire (List A) where
  put values := nat.put values.length ++ values.flatMap wire.put
  take bytes := do
    let (count, rest) ← nat.take bytes
    wire.takeMany count rest
  taken values rest := by simp [nat.taken, wire.takeMany_put]

/-- Bytes are a list. -/
def bytes : Wire (List UInt8) := byte.list

def text : Wire String :=
  (nat.via Char.toNat Char.ofNat Char.ofNat_toNat).list.via String.toList String.ofList
    fun _ => String.ofList_toList

def int : Wire Int :=
  (pair nat nat).via (fun value => (value.toNat, (-value).toNat)) (fun (up, down) => up - down)
    fun value => by dsimp only; omega

def bool : Wire Bool :=
  nat.via (fun value => if value then 1 else 0) (fun value => value = 1) fun value => by
    cases value <;> rfl

end Wire

end Interaction
