import ScalingMetrics.Selector.Basic
import ScalingMetrics.Text.Blank
import ScalingMetrics.Text.Pieces

/-!
# Reading selectors

A selector string is a list of terms between commas. A comma inside parentheses does not separate
terms, and a blank term is skipped. The terms are `key`, `!key`, `key=value`, `key==value`,
`key!=value`, `key in (values)` and `key notin (values)`.

## Implementation notes

The string is cut into terms before any term is read, so an open parenthesis is reported whatever
else is wrong. Of several bad terms the leftmost is reported.
-/

namespace ScalingMetrics

/-- Why a selector string is refused. -/
inductive SelectorError where
  | emptyKey (term : String)
  | unterminatedValues (term : String)
  | unknownOperator (term operator : String)
deriving DecidableEq

/-- The refusal as shown to a client. -/
def SelectorError.message : SelectorError → String
  | emptyKey term => "selector term '" ++ term ++ "' has an empty key"
  | unterminatedValues term => "selector term '" ++ term ++ "' has an unterminated value set"
  | unknownOperator term operator =>
    "selector term '" ++ term ++ "' uses unknown operator '" ++ operator ++ "'"

namespace Selector

open Text

/-- Cuts the rest of a string at the commas outside parentheses, at nesting depth `depth` and with
the characters since the last such comma in reverse. An open parenthesis at the end gives these
characters back as the fault. -/
def splitTermsFrom (depth : Nat) (term : List Char) :
    List Char → Except (List Char) (List (List Char))
  | [] => if depth = 0 then .ok [term.reverse] else .error term.reverse
  | c :: cs =>
    if c = '(' then splitTermsFrom (depth + 1) (c :: term) cs
    else if c = ')' then splitTermsFrom (depth - 1) (c :: term) cs
    else if c = ',' ∧ depth = 0 then (splitTermsFrom 0 [] cs).map (term.reverse :: ·)
    else splitTermsFrom depth (c :: term) cs

/-- The texts between the commas outside parentheses. -/
def splitTerms (cs : List Char) : Except (List Char) (List (List Char)) := splitTermsFrom 0 [] cs

/-- What one term of a selector string asks for. -/
inductive Term where
  | equal (key value : String)
  | requires (requirement : Requirement)
deriving DecidableEq

/-- The key of a term, which must not be blank. -/
def readKey (term key : List Char) : Except SelectorError String :=
  match trim key with
  | [] => .error (.emptyKey (.ofList term))
  | c :: cs => .ok (.ofList (c :: cs))

/-- The operator of a value set. -/
def setOperator? (word : List Char) : Option Operator :=
  if word = "in".toList then some .isIn
  else if word = "notin".toList then some .notIn
  else none

/-- The values of a value set; blank ones are dropped. -/
def readValues (inside : List Char) : List String :=
  (((splitOn ',' inside).map trim).filter (!·.isEmpty)).map .ofList

/-- Reads a term from what stands before and after its first opening parenthesis. -/
def readSetTerm (term before after : List Char) : Except SelectorError Term :=
  match beforeLast? ')' after with
  | none => .error (.unterminatedValues (.ofList term))
  | some inside =>
    match words before with
    | [] => .error (.emptyKey (.ofList term))
    | key :: rest =>
      let word := rest.headD []
      match setOperator? word with
      | some operator => .ok (.requires ⟨.ofList key, operator, readValues inside⟩)
      | none => .error (.unknownOperator (.ofList term) (.ofList word))

/-- Reads a term without parentheses. -/
def readPlainTerm (term : List Char) : Except SelectorError Term :=
  match term with
  | '!' :: key => (readKey term key).map fun k => .requires ⟨k, .doesNotExist, []⟩
  | _ =>
    match cutPair? '!' '=' term with
    | some (key, value) =>
      (readKey term key).map fun k => .requires ⟨k, .notIn, [.ofList (trim value)]⟩
    | none =>
      match cut? '=' term with
      | some (key, value) =>
        (readKey term key).map fun k => .equal k (.ofList (trim (dropLeading '=' value)))
      | none => (readKey term term).map fun k => .requires ⟨k, .exists, []⟩

/-- Reads one trimmed term. -/
def readTerm (term : List Char) : Except SelectorError Term :=
  match cut? '(' term with
  | some (before, after) => readSetTerm term before after
  | none => readPlainTerm term

/-- Reads terms from left to right, up to the first bad one. -/
def readTerms : List (List Char) → Except SelectorError (List Term)
  | [] => .ok []
  | term :: rest =>
    match readTerm term with
    | .error e => .error e
    | .ok t => (readTerms rest).map (t :: ·)

/-- The label that a term binds. -/
def Term.label? : Term → Option (String × String)
  | .equal key value => some (key, value)
  | .requires _ => none

/-- The requirement that a term states. -/
def Term.requirement? : Term → Option Requirement
  | .equal _ _ => none
  | .requires r => some r

/-- The conjunction of terms. Of two equalities on one key the later is kept. -/
def ofTerms (terms : List Term) : Selector where
  matchLabels := .ofList (terms.filterMap Term.label?)
  matchExpressions := terms.filterMap Term.requirement?

/-- Reads a selector from its characters. -/
def parseChars (cs : List Char) : Except SelectorError Selector :=
  match splitTerms cs with
  | .error rest => .error (.unterminatedValues (.ofList rest))
  | .ok pieces => (readTerms ((pieces.map trim).filter (!·.isEmpty))).map ofTerms

/-- Reads a selector such as `app=web,tier!=db,env in (prod,staging),!canary`. -/
def parse (s : String) : Except SelectorError Selector := parseChars s.toList

end Selector

end ScalingMetrics
