import ScalingMetrics.Collections.SortedMap
import ScalingMetrics.Double.Basic

/-!
# JSON documents

An object keeps its members in the order of the text. A number without fraction and exponent that
fits into 64 bits is an integer, any other number is a double-precision one.
-/

namespace ScalingMetrics

/-- A JSON document. -/
inductive Json where
  | null
  | bool (b : Bool)
  | int (i : Int)
  | real (x : Double)
  | str (s : String)
  | arr (items : List Json)
  | obj (members : List (String × Json))

namespace Json

instance : Inhabited Json := ⟨null⟩

/-- The member of a name; of several the last one counts. -/
def member? (name : String) : Json → Option Json
  | obj members => (members.reverse.find? fun m => m.1 == name).map (·.2)
  | _ => none

/-- The text of a string. -/
def asString? : Json → Option String
  | str s => some s
  | _ => none

/-- A truth value. -/
def asBool? : Json → Option Bool
  | bool b => some b
  | _ => none

/-- An integer. -/
def asInt? : Json → Option Int
  | int i => some i
  | _ => none

/-- An integer that fits into a signed word of a number of bits. -/
def asSigned? (bits : Nat) : Json → Option Int
  | int i =>
    let bound : Nat := Nat.pow 2 (bits - 1)
    if -(bound : Int) ≤ i ∧ i < bound then some i else none
  | _ => none

/-- A natural number that fits into a word of a number of bits. -/
def asUnsigned? (bits : Nat) : Json → Option Nat
  | int i => if 0 ≤ i ∧ i.toNat < Nat.pow 2 bits then some i.toNat else none
  | _ => none

/-- A number, integers included. -/
def asDouble? : Json → Option Double
  | int i => some (.ofInt i)
  | real x => some x
  | _ => none

/-- The items of an array. -/
def asArray? : Json → Option (List Json)
  | arr items => some items
  | _ => none

/-- Reads every item of an array. -/
def asListOf? {α : Type} (read : Json → Option α) (j : Json) : Option (List α) :=
  j.asArray?.bind fun items => items.mapM read

/-- Reads every member of an object as a binding of its name. -/
def asMapOf? {α : Type} (read : Json → Option α) : Json → Option (SortedMap String α)
  | obj members => (members.mapM fun m => (read m.2).map (m.1, ·)).map .ofList
  | _ => none

/-- The name of a variant without content: alone, or as the one member of an object with the value
`null`. -/
def asVariant? : Json → Option String
  | str s => some s
  | obj [(s, null)] => some s
  | _ => none

/-- A value, or `null` for none. -/
def ofOption {α : Type} (write : α → Json) : Option α → Json
  | none => null
  | some a => write a

/-- A member that is left out if there is no text. -/
def presentMember (name : String) (value : Option String) : List (String × Json) :=
  value.toList.map fun s => (name, str s)

/-- The object of a map with string keys. -/
def ofMap {α : Type} (write : α → Json) (m : SortedMap String α) : Json :=
  obj (m.entries.map fun e => (e.1, write e.2))

/-- The array of a list. -/
def ofList {α : Type} (write : α → Json) (items : List α) : Json := arr (items.map write)

end Json

end ScalingMetrics
