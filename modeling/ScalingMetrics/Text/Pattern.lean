import ScalingMetrics.Text.Alphanumeric
import ScalingMetrics.Text.Hex
import ScalingMetrics.Text.Pieces

/-!
# Well-formed patterns

A pattern describes texts. It is made of characters, classes such as `[a-z]`, positions, groups,
alternatives between bars, and repetitions by `*`, `+` and `?`. Only its form matters here: a
pattern is well-formed if every group and class is closed and every repetition has something to
repeat.

## Implementation notes

Patterns stand inside of braces, so none of them has a closing brace. A repetition with a count and
an escape with a name in braces are therefore never complete. Word boundaries are refused.
-/

namespace ScalingMetrics.Text

namespace Pattern

/-- What an escape stands for. -/
inductive Escape where
  | literal (c : Char)
  | charClass
  | position
deriving DecidableEq

/-- The characters that letters behind a backslash stand for. -/
def controlLetters : List (Char × Char) :=
  [('a', '\x07'), ('f', '\x0c'), ('t', '\t'), ('n', '\n'), ('r', '\r'), ('v', '\x0b')]

/-- Reads the number of a character in a number of hexadecimal digits. -/
def readCode? (count : Nat) (cs : List Char) : Option (Escape × List Char) :=
  if cs.length < count then none
  else
    ((cs.take count).mapM hexDigit?).bind fun digits =>
      let n := digits.foldl (fun n d => n * 16 + d) 0
      if n.isValidChar then some (.literal (.ofNat n), cs.drop count) else none

/-- Reads the letter of a category of characters. -/
def readCategory? : List Char → Option (Escape × List Char)
  | [] => none
  | c :: cs => if "clmnpsz".toList.contains c.toLower then some (.charClass, cs) else none

/-- Reads an escape from behind its backslash. -/
def readEscape? : List Char → Option (Escape × List Char)
  | [] => none
  | c :: cs =>
    if c = 'x' then readCode? 2 cs
    else if c = 'u' then readCode? 4 cs
    else if c = 'U' then readCode? 8 cs
    else if c = 'p' ∨ c = 'P' then readCategory? cs
    else if "dswDSW".toList.contains c then some (.charClass, cs)
    else if c = 'A' ∨ c = 'z' then some (.position, cs)
    else
      match controlLetters.lookup c with
      | some control => some (.literal control, cs)
      | none =>
        if c.toNat < 128 ∧ !c.isAlphanum ∧ c ≠ '<' ∧ c ≠ '>' then some (.literal c, cs) else none

/-! ### Classes -/

/-- The names of classes between colons. -/
def classNames : List (List Char) :=
  ["alnum", "alpha", "ascii", "blank", "cntrl", "digit", "graph", "lower", "print", "punct",
    "space", "upper", "word", "xdigit"].map String.toList

/-- What follows a named class, from behind its opening bracket. -/
def afterNamedClass? : List Char → Option (List Char)
  | ':' :: cs =>
    match cut? ':' (dropLeading '^' cs) with
    | some (name, ']' :: rest) => if classNames.contains name then some rest else none
    | _ => none
  | _ => none

/-- Reads an item of a class: a character, or none for a class of its own. -/
def readClassItem? : List Char → Option (Option Char × List Char)
  | [] => none
  | '\\' :: cs =>
    match readEscape? cs with
    | some (.literal c, rest) => some (some c, rest)
    | some (.charClass, rest) => some (none, rest)
    | _ => none
  | c :: cs => some (some c, cs)

/-- What follows an item of a class or a range of characters. -/
def afterClassRange? (cs : List Char) : Option (List Char) :=
  match readClassItem? cs with
  | none => none
  | some (first, rest) =>
    match rest with
    | '-' :: upper =>
      if upper.head? = some ']' ∨ upper.head? = some '-' then some rest
      else
        match first, readClassItem? upper with
        | some low, some (some high, rest) => if low ≤ high then some rest else none
        | _, _ => none
    | _ => some rest

/-- What follows the start of a class: a negation, and then hyphens or a bracket that stand for
themselves. -/
def afterClassStart (cs : List Char) : List Char :=
  let cs := dropLeading '^' cs
  if cs.head? = some '-' then cs.dropWhile (· = '-') else dropLeading ']' cs

/-- What follows a class, from inside of it and of a number of classes around it. -/
def afterClass? : Nat → Nat → List Char → Option (List Char)
  | 0, _, _ => none
  | _, _, [] => none
  | fuel + 1, depth, c :: cs =>
    if c = ']' then
      match depth with
      | 0 => some cs
      | depth + 1 => afterClass? fuel depth cs
    else if c = '[' then
      match afterNamedClass? cs with
      | some rest => afterClass? fuel depth rest
      | none => afterClass? fuel (depth + 1) (afterClassStart cs)
    else if (c = '&' ∨ c = '-' ∨ c = '~') ∧ cs.head? = some c then afterClass? fuel depth cs.tail
    else (afterClassRange? (c :: cs)).bind (afterClass? fuel depth)

/-! ### Groups -/

/-- The start of a group. -/
inductive GroupStart where
  /-- Options for the rest of the pattern; no group begins. -/
  | options
  | unnamed
  | named (name : List Char)
deriving DecidableEq

/-- Whether a text is the name of a group. -/
def isGroupName : List Char → Bool
  | [] => false
  | c :: cs =>
    (c == '_' || isAlphanumeric c && !c.isDigit) &&
      cs.all fun c => isAlphanumeric c || "_.[]".toList.contains c

/-- Whether letters are options: each once, and none missing behind a hyphen. -/
def areOptions (cs : List Char) : Bool :=
  cs.all "imsUuxR-".toList.contains && cs.eraseDups.length == cs.length && cs.getLast? != some '-'

/-- Reads the name of a group from behind its opening bracket. -/
def readGroupName? (cs : List Char) : Option (GroupStart × List Char) :=
  match cut? '>' cs with
  | some (name, rest) => if isGroupName name then some (.named name, rest) else none
  | none => none

/-- Reads the start of a group from behind its parenthesis. -/
def readGroupStart? : List Char → Option (GroupStart × List Char)
  | '?' :: 'P' :: '<' :: cs => readGroupName? cs
  | '?' :: '<' :: cs => readGroupName? cs
  | '?' :: cs =>
    let letters := cs.takeWhile fun c => c ≠ ':' ∧ c ≠ ')'
    if !areOptions letters then none
    else
      match cs.drop letters.length with
      | ':' :: rest => some (.unnamed, rest)
      | ')' :: rest => if letters.isEmpty then none else some (.options, rest)
      | _ => none
  | cs => some (.unnamed, cs)

/-! ### Patterns -/

/-- How far a pattern has been read. -/
structure Progress where
  /-- The number of open groups. -/
  depth : Nat
  /-- What comes last can be repeated. -/
  repeatable : Bool
  /-- The names of groups so far. -/
  names : List (List Char)

/-- The progress with something behind that can be repeated or not. -/
def Progress.past (p : Progress) (repeatable : Bool) : Progress := { p with repeatable }

/-- The progress with an open group. -/
def Progress.enter (p : Progress) : Progress := ⟨p.depth + 1, false, p.names⟩

/-- The progress behind the start of a group; no two groups have one name. -/
def Progress.start? (p : Progress) : GroupStart → Option Progress
  | .options => some (p.past false)
  | .unnamed => some p.enter
  | .named name =>
    if p.names.contains name then none else some { p.enter with names := name :: p.names }

/-- Reads one part of a pattern. -/
def readPart? (p : Progress) (c : Char) (cs : List Char) : Option (Progress × List Char) :=
  if c = '(' then
    (readGroupStart? cs).bind fun (start, rest) => (p.start? start).map (·, rest)
  else if c = ')' then
    match p.depth with
    | 0 => none
    | depth + 1 => some (⟨depth, true, p.names⟩, cs)
  else if c = '|' then some (p.past false, cs)
  else if c = '*' ∨ c = '+' ∨ c = '?' then
    if p.repeatable then some (p, dropLeading '?' cs) else none
  else if c = '\x7b' then none
  else if c = '[' then
    (afterClass? (cs.length + 1) 0 (afterClassStart cs)).map (p.past true, ·)
  else if c = '\\' then (readEscape? cs).map fun (_, rest) => (p.past true, rest)
  else some (p.past true, cs)

/-- Whether the rest of a pattern is well-formed. -/
def isWellFormedFrom : Nat → Progress → List Char → Bool
  | _, p, [] => p.depth == 0
  | 0, _, _ :: _ => false
  | fuel + 1, p, c :: cs =>
    match readPart? p c cs with
    | none => false
    | some (p, rest) => isWellFormedFrom fuel p rest

/-- Whether a text is a well-formed pattern. -/
def isWellFormed (cs : List Char) : Bool := isWellFormedFrom cs.length ⟨0, false, []⟩ cs

end Pattern

end ScalingMetrics.Text
