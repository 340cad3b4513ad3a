import Reconciler.Json
/-!
The written form of `Json` values: a reader that refuses anything but one value
between blanks, and a printer without blanks.
-/

set_option autoImplicit false

namespace Reconciler.Json

def hexDigit (n : Nat) : Char := (Nat.digitChar (n % 16))

/-- Quotes and backslashes are escaped, and so are the control characters. -/
def escapeChar (c : Char) : List Char :=
  if c = '"' then ['\\', '"']
  else if c = '\\' then ['\\', '\\']
  else if c = '\n' then ['\\', 'n']
  else if c = '\r' then ['\\', 'r']
  else if c = '\t' then ['\\', 't']
  else if c.toNat = 8 then ['\\', 'b']
  else if c.toNat = 12 then ['\\', 'f']
  else if c.toNat < 32 then
    ['\\', 'u', '0', '0', hexDigit (c.toNat / 16), hexDigit c.toNat]
  else [c]

def quote (s : String) : String :=
  String.ofList ('"' :: s.toList.flatMap escapeChar ++ ['"'])

mutual

def print : Json → String
  | .null => "null"
  | .bool b => if b then "true" else "false"
  | .int n => intText n
  | .decimal d => d.toText
  | .text s => quote s
  | .list items => "[" ++ String.intercalate "," (printItems items) ++ "]"
  | .record fields => "\x7b" ++ String.intercalate "," (printFields fields) ++ "\x7d"

def printItems : List Json → List String
  | [] => []
  | j :: rest => print j :: printItems rest

def printFields : List (String × Json) → List String
  | [] => []
  | (k, j) :: rest => (quote k ++ ":" ++ print j) :: printFields rest

end

mutual

def sortFields : Json → Json
  | .list items => .list (sortItems items)
  | .record fields =>
    .record ((sortRecord fields).mergeSort fun a b => decide (a.1 ≤ b.1))
  | j => j

def sortItems : List Json → List Json
  | [] => []
  | j :: rest => sortFields j :: sortItems rest

def sortRecord : List (String × Json) → List (String × Json)
  | [] => []
  | (k, j) :: rest => (k, sortFields j) :: sortRecord rest

end

def isBlank (c : Char) : Bool := c = ' ' || c = '\n' || c = '\r' || c = '\t'

def skipBlanks (cs : List Char) : List Char := cs.dropWhile isBlank

def hexValue? (c : Char) : Option Nat :=
  if '0' ≤ c ∧ c ≤ '9' then some (c.toNat - '0'.toNat)
  else if 'a' ≤ c ∧ c ≤ 'f' then some (c.toNat - 'a'.toNat + 10)
  else if 'A' ≤ c ∧ c ≤ 'F' then some (c.toNat - 'A'.toNat + 10)
  else none

def readUnit : List Char → Option (Nat × List Char)
  | a :: b :: c :: d :: rest => do
    let a ← hexValue? a
    let b ← hexValue? b
    let c ← hexValue? c
    let d ← hexValue? d
    some (((a * 16 + b) * 16 + c) * 16 + d, rest)
  | _ => none

/-- The character of an escape after `\u`: a unit of its own or a pair of surrogates. -/
def readEscapedUnit (cs : List Char) : Option (Char × List Char) := do
  let (u, rest) ← readUnit cs
  if 0xD800 ≤ u ∧ u < 0xDC00 then
    match rest with
    | '\\' :: 'u' :: more =>
      let (v, rest) ← readUnit more
      if 0xDC00 ≤ v ∧ v < 0xE000 then
        some (Char.ofNat (0x10000 + (u - 0xD800) * 0x400 + (v - 0xDC00)), rest)
      else none
    | _ => none
  else if 0xDC00 ≤ u ∧ u < 0xE000 then none
  else some (Char.ofNat u, rest)

def simpleEscape? : Char → Option Char
  | '"' => some '"'
  | '\\' => some '\\'
  | '/' => some '/'
  | 'b' => some (Char.ofNat 8)
  | 'f' => some (Char.ofNat 12)
  | 'n' => some '\n'
  | 'r' => some '\r'
  | 't' => some '\t'
  | _ => none

/-- The rest of a quoted text; `seen` holds what was read, last first. -/
def readQuoted : Nat → List Char → List Char → Option (String × List Char)
  | 0, _, _ => none
  | _ + 1, _, [] => none
  | _ + 1, seen, '"' :: rest => some (String.ofList seen.reverse, rest)
  | fuel + 1, seen, '\\' :: 'u' :: rest => do
    let (c, rest) ← readEscapedUnit rest
    readQuoted fuel (c :: seen) rest
  | fuel + 1, seen, '\\' :: e :: rest => do
    let c ← simpleEscape? e
    readQuoted fuel (c :: seen) rest
  | _ + 1, _, ['\\'] => none
  | fuel + 1, seen, c :: rest =>
    if c.toNat < 32 then none else readQuoted fuel (c :: seen) rest

def isNumberChar (c : Char) : Bool :=
  isDigit c || c = '-' || c = '+' || c = '.' || c = 'e' || c = 'E'

/-- No digits after a leading zero, and digits on both sides of a point. -/
def wellFormedNumber (cs : List Char) : Bool :=
  let body := match cs with | '-' :: rest => rest | _ => cs
  let whole := body.takeWhile isDigit
  let rest := body.dropWhile isDigit
  let wholeOk := whole ≠ [] && (whole.length = 1 || whole.head? ≠ some '0')
  let fractionOk := match rest with
    | '.' :: more => more.takeWhile isDigit ≠ []
    | _ => true
  wholeOk && fractionOk

def readNumber (cs : List Char) : Option Json :=
  if !wellFormedNumber cs then none
  else if cs.all (fun c => isDigit c || c = '-') then
    match cs with
    | ['-', '0'] => some (.decimal ⟨true, 0, 0⟩)
    | '-' :: ds => if ds.all isDigit then some (.int (-(digitsValue ds : Int))) else none
    | ds => if ds.all isDigit then some (.int (digitsValue ds)) else none
  else (Decimal.read? cs).map .decimal

def expectWord (word : String) (value : Json) (cs : List Char) : Option (Json × List Char) :=
  if word.toList.isPrefixOf cs then some (value, cs.drop word.length) else none

mutual

def readValue : Nat → List Char → Option (Json × List Char)
  | 0, _ => none
  | fuel + 1, cs =>
    match skipBlanks cs with
    | [] => none
    | 'n' :: rest => expectWord "ull" .null rest
    | 't' :: rest => expectWord "rue" (.bool true) rest
    | 'f' :: rest => expectWord "alse" (.bool false) rest
    | '"' :: rest => (readQuoted (rest.length + 1) [] rest).map fun (s, r) => (.text s, r)
    | '[' :: rest =>
      match skipBlanks rest with
      | ']' :: rest => some (.list [], rest)
      | rest => (readItems fuel rest).map fun (items, r) => (.list items, r)
    | '\x7b' :: rest =>
      match skipBlanks rest with
      | '\x7d' :: rest => some (.record [], rest)
      | rest => (readFields fuel rest).map fun (fields, r) => (.record fields, r)
    | cs =>
      (readNumber (cs.takeWhile isNumberChar)).map fun j => (j, cs.dropWhile isNumberChar)

def readItems : Nat → List Char → Option (List Json × List Char)
  | 0, _ => none
  | fuel + 1, cs => do
    let (j, rest) ← readValue fuel cs
    match skipBlanks rest with
    | ',' :: rest =>
      let (js, rest) ← readItems fuel rest
      some (j :: js, rest)
    | ']' :: rest => some ([j], rest)
    | _ => none

def readFields : Nat → List Char → Option (List (String × Json) × List Char)
  | 0, _ => none
  | fuel + 1, cs =>
    match skipBlanks cs with
    | '"' :: rest => do
      let (k, rest) ← readQuoted (rest.length + 1) [] rest
      match skipBlanks rest with
      | ':' :: rest =>
        let (j, rest) ← readValue fuel rest
        match skipBlanks rest with
        | ',' :: rest =>
          let (more, rest) ← readFields fuel rest
          some ((k, j) :: more, rest)
        | '\x7d' :: rest => some ([(k, j)], rest)
        | _ => none
      | _ => none
    | _ => none

end

def parse? (text : String) : Option Json :=
  let cs := text.toList
  match readValue (cs.length + 1) cs with
  | some (j, rest) => if skipBlanks rest = [] then some j else none
  | none => none

end Reconciler.Json
