import ScalingMetrics.Json.Basic

/-!
# Records in JSON documents

A record is an object with its fields as members, where unknown members are ignored, or the array of
its fields in their order. Only fields with a default may be missing from the end of an array, and
an array has no further items.
-/

namespace ScalingMetrics

namespace Json

/-- The fields of a record by name. -/
abbrev Fields := String → Option Json

/-- The fields of an object; a record with named content admits no array. -/
def objectFields? : Json → Option Fields
  | obj members => some fun name => (obj members).member? name
  | _ => none

/-- The fields of a record with the given field names, the last `defaulted` of which have a
default. -/
def fields? (names : List String) (defaulted : Nat) : Json → Option Fields
  | obj members => (obj members).objectFields?
  | arr items =>
    if names.length - defaulted ≤ items.length ∧ items.length ≤ names.length then
      some fun name => (obj (names.zip items)).member? name
    else none
  | _ => none

/-- A field that must be present. -/
def Fields.required {α : Type} (fields : Fields) (name : String) (read : Json → Option α) :
    Option α :=
  (fields name).bind read

/-- A field that may be absent or `null`. -/
def Fields.optional {α : Type} (fields : Fields) (name : String) (read : Json → Option α) :
    Option (Option α) :=
  match fields name with
  | none => some none
  | some null => some none
  | some j => (read j).map some

/-- A field with a default for its absence. -/
def Fields.defaulted {α : Type} (fields : Fields) (name : String) (read : Json → Option α)
    (default : α) : Option α :=
  match fields name with
  | none => some default
  | some j => read j

/-! ### Form alone -/

/-- Whether a document is an object with fields of some form. Each field passes a test unless it is
absent or `null`. -/
def hasFields (tests : List (String × (Json → Bool))) : Json → Bool
  | obj members =>
    tests.all fun t =>
      match (obj members).member? t.1 with
      | none => true
      | some null => true
      | some j => t.2 j
  | _ => false

/-- Whether a document is an array of items that pass a test. -/
def isListOf (test : Json → Bool) : Json → Bool
  | arr items => items.all test
  | _ => false

/-- Whether a document can be read. -/
def isReadable {α : Type} (read : Json → Option α) (j : Json) : Bool := (read j).isSome

/-- Whether a document is a string. -/
def isText : Json → Bool := isReadable asString?

/-- Whether a document is an integer that fits into a signed word of a number of bits. -/
def isSigned (bits : Nat) : Json → Bool := isReadable (asSigned? bits)

end Json

end ScalingMetrics
