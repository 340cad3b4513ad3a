import Reconciler.Time.Instant
import Reconciler.Text.Blank
/-!
Two readers of written points in time. `strict?` takes the exact form and says what is
wrong with any other text; `relaxed?` also takes blanks between the parts, short numbers
and signed years.
-/

set_option autoImplicit false

namespace Reconciler.Rfc3339

inductive Fault where
  | tooShort
  | invalid
  | outOfRange
  | trailing
  deriving DecidableEq, Repr

def Fault.message : Fault → String
  | .tooShort => "premature end of input"
  | .invalid => "input contains invalid characters"
  | .outOfRange => "input is out of range"
  | .trailing => "trailing input"

def expect (c : Char) : List Char → Except Fault (List Char)
  | d :: rest => if c = d then .ok rest else .error .invalid
  | [] => .error .tooShort

def fixedNumber : Nat → Nat → List Char → Except Fault (Nat × List Char)
  | 0, n, cs => .ok (n, cs)
  | _ + 1, _, [] => .error .tooShort
  | width + 1, n, c :: rest =>
    match digit? c with
    | some d => fixedNumber width (10 * n + d) rest
    | none => .error .invalid

/-- The nanoseconds of the digits after a point; digits after the ninth do not count. -/
def fraction (cs : List Char) : Except Fault (Nat × List Char) :=
  let ds := cs.takeWhile isDigit
  if cs = [] then .error .tooShort
  else if ds = [] then .error .invalid
  else
    let kept := ds.take 9
    .ok (digitsValue kept * Nat.pow 10 (9 - kept.length), cs.dropWhile isDigit)

/-- Two digits of an offset; fewer than two bytes end the text too early. -/
def offsetDigits (cs : List Char) : Except Fault (Char × Char × List Char) :=
  match cs with
  | [] => .error .tooShort
  | [c] => if c.utf8Size < 2 then .error .tooShort else .error .invalid
  | c :: d :: rest => .ok (c, d, rest)

/-- The seconds of `hh:mm` with something between the two that `separator` skips. -/
def offsetSeconds (separator : List Char → Except Fault (List Char)) (cs : List Char) :
    Except Fault (Nat × List Char) := do
  let (h, h', rest) ← offsetDigits cs
  if isDigit h && isDigit h' then
    let rest ← separator rest
    let (m, m', rest) ← offsetDigits rest
    if isDigit m && isDigit m' then
      if digitsValue [m] < 6 then
        .ok (digitsValue [h, h'] * 3600 + digitsValue [m, m'] * 60, rest)
      else .error .outOfRange
    else .error .invalid
  else .error .invalid

/-- An offset from UTC in seconds: `Z`, or a sign and `hh:mm`. -/
def offset (separator : List Char → Except Fault (List Char)) :
    List Char → Except Fault (Int × List Char)
  | [] => .error .tooShort
  | c :: rest =>
    if c = 'Z' ∨ c = 'z' then .ok (0, rest)
    else if c = '+' then (offsetSeconds separator rest).map fun (n, r) => ((n : Int), r)
    else if c = '-' ∨ c = '−' then
      (offsetSeconds separator rest).map fun (n, r) => (-(n : Int), r)
    else .error .invalid

def readStrict (cs : List Char) : Except Fault Instant := do
  let (year, rest) ← fixedNumber 4 0 cs
  let rest ← expect '-' rest
  let (month, rest) ← fixedNumber 2 0 rest
  let rest ← expect '-' rest
  let (day, rest) ← fixedNumber 2 0 rest
  let date : Date := ⟨year, month, day⟩
  if !date.isValid then .error .outOfRange
  else
    let rest ← match rest with
      | c :: rest => if c = 'T' ∨ c = 't' ∨ c = ' ' then .ok rest else .error .invalid
      | [] => .error .tooShort
    let (hour, rest) ← fixedNumber 2 0 rest
    let rest ← expect ':' rest
    let (minute, rest) ← fixedNumber 2 0 rest
    let rest ← expect ':' rest
    let (second, rest) ← fixedNumber 2 0 rest
    let (nanos, rest) ← match rest with
      | '.' :: rest => fraction rest
      | rest => .ok (0, rest)
    if 24 ≤ hour ∨ 60 ≤ minute ∨ 60 < second then .error .outOfRange
    else
      let (ahead, rest) ← offset (expect ':') rest
      if rest ≠ [] then .error .trailing
      else if 86400 ≤ ahead.natAbs then .error .outOfRange
      else
        match Instant.ofClock? date hour minute second nanos ahead with
        | some t => .ok t
        | none => .error .outOfRange

/-- Reads the exact form; a text of fewer than 19 bytes is too short whatever it holds. -/
def strict? (text : String) : Except Fault Instant :=
  if text.utf8ByteSize < 19 then .error .tooShort else readStrict text.toList

def shortNumber (width : Nat) (cs : List Char) : Option (Nat × List Char) :=
  let cs := Text.trimStart cs
  let ds := (cs.takeWhile isDigit).take width
  if ds = [] then none else some (digitsValue ds, cs.drop ds.length)

/-- A year of at most four digits, or with a sign of any number of them. -/
def signedYear (cs : List Char) : Option (Int × List Char) :=
  match Text.trimStart cs with
  | '-' :: rest =>
    let ds := rest.takeWhile isDigit
    if ds = [] then none else some (-(digitsValue ds : Int), rest.dropWhile isDigit)
  | '+' :: rest =>
    let ds := rest.takeWhile isDigit
    if ds = [] then none else some (digitsValue ds, rest.dropWhile isDigit)
  | cs => (shortNumber 4 cs).map fun (n, r) => ((n : Int), r)

def mark (c : Char) (cs : List Char) : Option (List Char) :=
  (expect c (Text.trimStart cs)).toOption

/-- Colons and blanks between the hours and the minutes of an offset. -/
def skipSeparators (cs : List Char) : Except Fault (List Char) :=
  .ok (cs.dropWhile fun c => c = ':' || Text.isBlank c)

def readRelaxed (cs : List Char) : Option Instant := do
  let (year, rest) ← signedYear cs
  let rest ← mark '-' rest
  let (month, rest) ← shortNumber 2 rest
  let rest ← mark '-' rest
  let (day, rest) ← shortNumber 2 rest
  let rest ← match rest with
    | c :: rest => if c = 'T' ∨ c = 't' ∨ c = ' ' then some rest else none
    | [] => none
  let (hour, rest) ← shortNumber 2 rest
  let rest ← mark ':' rest
  let (minute, rest) ← shortNumber 2 rest
  let rest ← mark ':' rest
  let (second, rest) ← shortNumber 2 rest
  let (nanos, rest) ← match rest with
    | '.' :: rest => (fraction rest).toOption
    | rest => some (0, rest)
  let rest := Text.trimStart rest
  let (ahead, rest) ←
    if (rest.take 3).map Char.toUpper = "UTC".toList then some (0, rest.drop 3)
    else (offset skipSeparators rest).toOption
  if Text.trimStart rest ≠ [] ∨ 86400 ≤ ahead.natAbs then none
  else if year < -262143 ∨ 262142 < year then none
  else Instant.ofClock? ⟨year, month, day⟩ hour minute second nanos ahead

def relaxed? (text : String) : Option Instant := readRelaxed text.toList

end Reconciler.Rfc3339
