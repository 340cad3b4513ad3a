import Reconciler.Selector.Glob
import Reconciler.SortedMap
import Reconciler.Text.Blank
/-!
Label selectors: requirements set apart by commas, all of which must hold of a label
map. A requirement compares a key with a value, compares numbers, or asks that a key be
there or not; keys and values with a `*` are patterns.
-/

set_option autoImplicit false

namespace Reconciler

inductive Matcher where
  | exact (text : String)
  | glob (tokens : List Glob.Token)
  deriving DecidableEq, Repr

namespace Matcher

def covers : Matcher → String → Bool
  | .exact t, s => t = s
  | .glob tokens, s => Glob.covers tokens s.toList

def plainText? : Matcher → Option String
  | .exact t => some t
  | .glob _ => none

end Matcher

inductive Comparison where
  | greater
  | less
  | atLeast
  | atMost
  deriving DecidableEq, Repr

def Comparison.holds : Comparison → Binary64 → Binary64 → Bool
  | .greater, a, b => b.lt a
  | .less, a, b => a.lt b
  | .atLeast, a, b => b.le a
  | .atMost, a, b => a.le b

inductive Requirement where
  | equals (key value : Matcher)
  | notEquals (key : Matcher) (value : String)
  | compares (key : Matcher) (comparison : Comparison) (bound : Binary64)
  | present (key : Matcher)
  | absent (key : Matcher)
  deriving DecidableEq, Repr

abbrev Selector := List Requirement

namespace Selector

inductive Fault where
  | unknownOperator (part : String)
  | invalidKey (part key : String)
  | missingValue (part : String)
  | notANumber (part : String)
  | badPattern (pattern : String) (fault : Glob.Fault)
  deriving DecidableEq, Repr

def Fault.message : Fault → String
  | .unknownOperator part => "'" ++ part ++ "': unknown operator"
  | .invalidKey part key => "'" ++ part ++ "': invalid key '" ++ key ++ "'"
  | .missingValue part => "'" ++ part ++ "': missing value"
  | .notANumber part => "'" ++ part ++ "': numeric comparison needs a number"
  | .badPattern pattern fault => "bad pattern '" ++ pattern ++ "': " ++ fault.message

end Selector

namespace Matcher

def compile (text : String) : Except Selector.Fault Matcher :=
  if text.toList.contains '*' then
    match Glob.compile text with
    | .ok tokens => .ok (.glob tokens)
    | .error fault => .error (.badPattern text fault)
  else .ok (.exact text)

end Matcher

/-- The operators, longer ones before those they begin with. -/
inductive Operator where
  | doubleEquals
  | notEquals
  | atLeast
  | atMost
  | equals
  | greater
  | less
  deriving DecidableEq, Repr

namespace Operator

def all : List Operator :=
  [.doubleEquals, .notEquals, .atLeast, .atMost, .equals, .greater, .less]

def symbol : Operator → List Char
  | .doubleEquals => ['=', '=']
  | .notEquals => ['!', '=']
  | .atLeast => ['>', '=']
  | .atMost => ['<', '=']
  | .equals => ['=']
  | .greater => ['>']
  | .less => ['<']

def split? (cs : List Char) : Option (Operator × List Char) :=
  (all.find? fun op => op.symbol.isPrefixOf cs).map fun op => (op, cs.drop op.symbol.length)

def comparison? : Operator → Option Comparison
  | .greater => some .greater
  | .less => some .less
  | .atLeast => some .atLeast
  | .atMost => some .atMost
  | .doubleEquals | .notEquals | .equals => none

end Operator

namespace Requirement

def isOperatorChar (c : Char) : Bool := c = '=' || c = '!' || c = '<' || c = '>'

def isKeyChar (c : Char) : Bool :=
  ('a' ≤ c && c ≤ 'z') || ('A' ≤ c && c ≤ 'Z') || isDigit c ||
    c = '_' || c = '.' || c = '*' || c = '/' || c = '-'

def readKey (part : String) (cs : List Char) : Except Selector.Fault Matcher :=
  let key := Text.trim cs
  if key ≠ [] ∧ key.all isKeyChar then Matcher.compile (String.ofList key)
  else .error (.invalidKey part (String.ofList key))

def relate (part : String) (key : Matcher) (op : Operator) (value : String) :
    Except Selector.Fault Requirement :=
  match op.comparison? with
  | some comparison =>
    match Binary64.read? value with
    | some bound => .ok (.compares key comparison bound)
    | none => .error (.notANumber part)
  | none =>
    if op = .notEquals then .ok (.notEquals key value)
    else (Matcher.compile value).map (.equals key)

def read (cs : List Char) : Except Selector.Fault Requirement :=
  let part := String.ofList cs
  let before := cs.takeWhile (!isOperatorChar ·)
  match cs.dropWhile (!isOperatorChar ·) with
  | [] => (readKey part cs).map .present
  | c :: rest =>
    if before = [] ∧ c = '!' ∧ rest.head? ≠ some '=' then (readKey part rest).map .absent
    else
      match Operator.split? (c :: rest) with
      | none => .error (.unknownOperator part)
      | some (op, after) => do
        let key ← readKey part before
        let value := Text.trim after
        if value = [] then .error (.missingValue part)
        else relate part key op (String.ofList value)

def valuesOf (key : Matcher) (labels : TextMap) : List String :=
  (labels.entries.filter fun e => key.covers e.1).map (·.2)

def holds (labels : TextMap) : Requirement → Bool
  | .equals key value => (valuesOf key labels).any value.covers
  | .notEquals key value => (valuesOf key labels).all fun v => v ≠ value
  | .compares key comparison bound =>
    (valuesOf key labels).any fun v =>
      match Binary64.read? v with
      | some n => comparison.holds n bound
      | none => false
  | .present key => !(valuesOf key labels).isEmpty
  | .absent key => (valuesOf key labels).isEmpty

/-- The requirement as the API server understands it; it knows neither patterns nor
numbers. -/
def serverText? : Requirement → Option String
  | .equals key value => do some ((← key.plainText?) ++ "=" ++ (← value.plainText?))
  | .notEquals key value => do some ((← key.plainText?) ++ "!=" ++ value)
  | .present key => key.plainText?
  | .absent key => do some ("!" ++ (← key.plainText?))
  | .compares .. => none

end Requirement

namespace Selector

def splitCommas : List Char → List (List Char)
  | [] => [[]]
  | c :: rest =>
    match splitCommas rest with
    | part :: parts => if c = ',' then [] :: part :: parts else (c :: part) :: parts
    | [] => [[c]]

/-- Reads a selector; blank parts do not count. -/
def parse (text : String) : Except Fault Selector :=
  (((splitCommas text.toList).map Text.trim).filter (· ≠ [])).mapM Requirement.read

/-- The selector of an optional text; without one everything is selected. -/
def parseOptional : Option String → Except Fault Selector
  | some text => parse text
  | none => .ok []

def selects (s : Selector) (labels : TextMap) : Bool := s.all (·.holds labels)

/-- The requirements that the API server can decide, if there are any. -/
def serverText? (s : Selector) : Option String :=
  match s.filterMap Requirement.serverText? with
  | [] => none
  | parts => some (String.intercalate "," parts)

end Selector

end Reconciler
