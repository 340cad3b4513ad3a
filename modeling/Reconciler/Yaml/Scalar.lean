import Reconciler.Json.Text
import Reconciler.Yaml.Cursor
/-!
Scalars: plain ones, quoted ones and blocks. A line end within a scalar is folded to a space,
further ones are kept; blocks after a bar keep them all.
-/

set_option autoImplicit false

namespace Reconciler.Yaml

structure Gap where
  /-- Blanks before the first line end. -/
  blanks : List Char
  /-- Was there a line end? -/
  broken : Bool
  /-- What the first line end stands for; nothing if it was escaped. -/
  first : List Char
  /-- What the further ones stand for. -/
  further : List Char

namespace Gap

def empty : Gap := ⟨[], false, [], []⟩

def escaped : Gap := ⟨[], true, [], []⟩

def fold (g : Gap) : List Char :=
  if !g.broken then g.blanks
  else if g.first = ['\n'] then (if g.further = [] then [' '] else g.further)
  else g.first ++ g.further

/-- Reads on through white space; tabs are not allowed before column `floor` of further lines. -/
def read (floor : Nat) : Nat → Gap → Cursor → Option (Gap × Cursor)
  | 0, g, c => some (g, c)
  | fuel + 1, g, c =>
    match c.peek? with
    | none => some (g, c)
    | some ch =>
      if isBlank ch then
        if g.broken then
          if ch = '\t' ∧ c.column < floor then none else read floor fuel g (c.skip 1)
        else read floor fuel { g with blanks := g.blanks ++ [ch] } (c.skip 1)
      else if isBreak ch then
        let (end', c) := c.skipBreak
        if g.broken then read floor fuel { g with further := g.further ++ end' } c
        else read floor fuel { g with broken := true, first := end' } c
      else some (g, c)

end Gap

def isFlowMark (c : Char) : Bool :=
  c = ',' || c = '[' || c = ']' || c = '\x7b' || c = '\x7d'

/-- The stretch of a plain scalar up to white space or to what ends the scalar. Between
brackets a colon must not stand before one of their marks. -/
def plainStretch (inFlow : Bool) : List Char → Option (List Char)
  | [] => some []
  | c :: rest =>
    if isGap c then some []
    else if inFlow && c = ':' && rest.head?.any (fun d => isFlowMark d || d = '?') then none
    else if c = ':' && endsWord rest then some []
    else if inFlow && isFlowMark c then some []
    else (plainStretch inFlow rest).map (c :: ·)

/-- The stretches of a plain scalar after what was read and the gap behind it; a line that is
indented less than `floor` ends it outside brackets. -/
def plainStretches (inFlow : Bool) (floor : Nat) :
    Nat → List Char → Gap → Cursor → Option (List Char × Gap × Cursor)
  | 0, text, gap, c => some (text, gap, c)
  | fuel + 1, text, gap, c =>
    if c.seesDocumentMark || c.sees '#' then some (text, gap, c)
    else
      match plainStretch inFlow c.rest with
      | none => none
      | some [] => some (text, gap, c)
      | some stretch =>
        let text := text ++ gap.fold ++ stretch
        let c := c.skip stretch.length
        if !c.seesAny isGap then some (text, .empty, c)
        else
          match Gap.read floor (c.rest.length + 1) .empty c with
          | none => none
          | some (gap, c) =>
            if !inFlow && c.column < floor then some (text, gap, c)
            else plainStretches inFlow floor fuel text gap c

/-- A plain scalar, and whether a line end follows it. -/
def readPlain (inFlow : Bool) (floor : Nat) (c : Cursor) : Option (String × Bool × Cursor) :=
  (plainStretches inFlow floor (c.rest.length + 1) [] .empty c).map fun (text, gap, c) =>
    (String.ofList text, gap.broken, c)

def letterEscape? : Char → Option Char
  | '0' => some (Char.ofNat 0)
  | 'a' => some (Char.ofNat 7)
  | 'b' => some (Char.ofNat 8)
  | 't' => some '\t'
  | '\t' => some '\t'
  | 'n' => some '\n'
  | 'v' => some (Char.ofNat 11)
  | 'f' => some (Char.ofNat 12)
  | 'r' => some '\r'
  | 'e' => some (Char.ofNat 27)
  | ' ' => some ' '
  | '"' => some '"'
  | '/' => some '/'
  | '\\' => some '\\'
  | 'N' => some (Char.ofNat 0x85)
  | '_' => some (Char.ofNat 0xA0)
  | 'L' => some (Char.ofNat 0x2028)
  | 'P' => some (Char.ofNat 0x2029)
  | _ => none

def codeWidth? : Char → Option Nat
  | 'x' => some 2
  | 'u' => some 4
  | 'U' => some 8
  | _ => none

def hexNumber? (ds : List Char) : Option Nat :=
  ds.foldlM (fun n d => (Json.hexValue? d).map (16 * n + ·)) 0

/-- The character with a code point; surrogates have none. -/
def charOfCode? (n : Nat) : Option Char :=
  if h : n.isValidChar then some (Char.ofNatAux n h) else none

def readEscape? : List Char → Option (Char × Nat)
  | [] => none
  | letter :: rest =>
    match codeWidth? letter with
    | some width => do
      let digits := rest.take width
      if digits.length < width then none
      let ch ← charOfCode? (← hexNumber? digits)
      some (ch, width + 1)
    | none => (letterEscape? letter).map (·, 1)

/-- The stretch of a quoted scalar up to white space, a quote, or an escaped line end, which
is passed: what it stands for, and the gap that begins behind it. -/
def quotedStretch (quote : Char) : Nat → List Char → Cursor → Option (List Char × Gap × Cursor)
  | 0, seen, c => some (seen.reverse, .empty, c)
  | fuel + 1, seen, c =>
    match c.rest with
    | [] => some (seen.reverse, .empty, c)
    | ch :: rest =>
      if isGap ch then some (seen.reverse, .empty, c)
      else if ch = quote then
        if quote = '\'' ∧ rest.head? = some '\'' then
          quotedStretch quote fuel ('\'' :: seen) (c.skip 2)
        else some (seen.reverse, .empty, c)
      else if quote = '"' ∧ ch = '\\' then
        if rest.head?.any isBreak then some (seen.reverse, .escaped, (c.skip 1).skipBreak.2)
        else
          match readEscape? rest with
          | none => none
          | some (ch, width) => quotedStretch quote fuel (ch :: seen) (c.skip (width + 1))
      else quotedStretch quote fuel (ch :: seen) (c.skip 1)

def quotedStretches (quote : Char) : Nat → List Char → Cursor → Option (String × Cursor)
  | 0, _, _ => none
  | fuel + 1, text, c =>
    if c.seesDocumentMark || c.atEnd then none
    else
      match quotedStretch quote (c.rest.length + 1) [] c with
      | none => none
      | some (stretch, gap, c) =>
        let text := text ++ stretch
        if c.sees quote then some (String.ofList text, c.skip 1)
        else
          match Gap.read 0 (c.rest.length + 1) gap c with
          | none => none
          | some (gap, c) => quotedStretches quote fuel (text ++ gap.fold) c

/-- A scalar between quotes; the cursor stands before the first. -/
def readQuoted (quote : Char) (c : Cursor) : Option (String × Cursor) :=
  quotedStretches quote (c.rest.length + 1) [] (c.skip 1)

/-- What becomes of the line ends after the last line of a block. -/
inductive Chomping where
  | strip
  | clip
  | keep
  deriving DecidableEq, Repr

def chomping? (c : Cursor) : Option Chomping :=
  if c.sees '+' then some .keep else if c.sees '-' then some .strip else none

/-- The digit that tells how far a block is indented; none is zero. -/
def indentDigit? (c : Cursor) : Option (Option Nat) :=
  match c.peek?.bind digit? with
  | none => some none
  | some 0 => none
  | some n => some (some n)

/-- The signs after the bar or the angle: a digit and a sign, in either order. -/
def readBlockHeader (c : Cursor) : Option (Chomping × Option Nat × Cursor) := do
  match chomping? c with
  | some chomping =>
    let c := c.skip 1
    let digit ← indentDigit? c
    some (chomping, digit, if digit.isSome then c.skip 1 else c)
  | none =>
    let digit ← indentDigit? c
    let c := if digit.isSome then c.skip 1 else c
    match chomping? c with
    | some chomping => some (chomping, digit, c.skip 1)
    | none => some (.clip, digit, c)

/-- Empty lines of a block: the line ends they stand for, and the largest column met. Where the
indentation is not known yet, all spaces belong to it; a tab must not stand within it. -/
def readEmptyLines (indent : Option Nat) :
    Nat → List Char → Nat → Cursor → Option (List Char × Nat × Cursor)
  | 0, ends, widest, c => some (ends, widest, c)
  | fuel + 1, ends, widest, c =>
    let run := c.rest.takeWhile (· = ' ')
    let width := match indent with
      | none => run.length
      | some n => min run.length (n - c.column)
    let c := c.skip width
    let widest := max widest c.column
    let within := match indent with
      | none => true
      | some n => c.column < n
    if within && c.sees '\t' then none
    else if c.seesAny isBreak then
      let (end', c) := c.skipBreak
      readEmptyLines indent fuel (ends ++ end') widest c
    else some (ends, widest, c)

/-- The lines of a block that are indented as its first one. `pending` is the end of the line
before, `ends` are those of the empty lines after it, and `indented` tells whether it began
with a blank: only between lines that do not is a line end folded. -/
def readBlockLines (folded : Bool) (indent : Nat) :
    Nat → List Char → List Char → List Char → Bool → Cursor →
      Option (List Char × List Char × List Char × Cursor)
  | 0, text, pending, ends, _, c => some (text, pending, ends, c)
  | fuel + 1, text, pending, ends, indented, c =>
    if c.column ≠ indent || c.atEnd then some (text, pending, ends, c)
    else
      let blank := c.seesAny isBlank
      let joint :=
        if folded && pending = ['\n'] && !indented && !blank then
          (if ends = [] then [' '] else [])
        else pending
      let (line, c) := c.span fun ch => !isBreak ch
      let (pending, c) := c.skipBreak
      match readEmptyLines (some indent) (c.rest.length + 1) [] 0 c with
      | none => none
      | some (ends', _, c) =>
        readBlockLines folded indent fuel (text ++ joint ++ ends ++ line) pending ends' blank c

/-- A block under a node of the given indentation, if there is one around it; the cursor stands
before the bar or the angle. -/
def readBlock (folded : Bool) (parent : Option Nat) (c : Cursor) : Option (String × Cursor) := do
  let (chomping, digit, c) ← readBlockHeader (c.skip 1)
  let c := c.skipWhile isBlank
  let c := if c.sees '#' then c.skipLine else c
  if !c.atEnd && !c.seesAny isBreak then none
  let c := c.skipBreak.2
  let given := digit.map (parent.getD 0 + ·)
  let (ends, widest, c) ← readEmptyLines given (c.rest.length + 1) [] 0 c
  let least := match parent with
    | some n => n + 1
    | none => 1
  let indent := given.getD (max widest least)
  let (text, pending, ends, c) ← readBlockLines folded indent (c.rest.length + 1) [] [] ends false c
  let tail := match chomping with
    | .strip => []
    | .clip => pending
    | .keep => pending ++ ends
  some (String.ofList (text ++ tail), c)

end Reconciler.Yaml
