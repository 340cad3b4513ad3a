import Reconciler.Yaml.Scalar
import Reconciler.Yaml.Token
/-!
Tokens of a text. Indentation opens and closes the collections of blocks, and a key without a
question mark is found out by the colon behind it: until then its place among the tokens is
kept.
-/

set_option autoImplicit false

namespace Reconciler.Yaml

/-- The place of a token that a colon may turn into a key. -/
structure KeyCandidate where
  /-- How many tokens come before it. -/
  place : Nat
  start : Cursor
  /-- It stands where only a key may stand. -/
  required : Bool

structure Lexer where
  cursor : Cursor
  tokens : Array Token
  /-- The key candidate outside brackets and then those within each open bracket, innermost
  first. -/
  candidates : List (Option KeyCandidate)
  /-- The column of the innermost collection of a block. -/
  indent : Option Nat
  /-- The columns of the collections around it. -/
  outer : List (Option Nat)
  /-- A key may start here. -/
  keyAllowed : Bool

namespace Lexer

def start (cs : List Char) : Lexer :=
  { cursor := .ofText cs, tokens := #[], candidates := [none], indent := none, outer := [],
    keyAllowed := true }

def inFlow (x : Lexer) : Bool := 1 < x.candidates.length

def column (x : Lexer) : Nat := x.cursor.column

def push (x : Lexer) (t : Token) : Lexer := { x with tokens := x.tokens.push t }

def move (x : Lexer) (c : Cursor) : Lexer := { x with cursor := c }

def mark (x : Lexer) (t : Token) (width : Nat) : Lexer :=
  { x with tokens := x.tokens.push t, cursor := x.cursor.skip width }

def isLeftOf (x : Lexer) (column : Nat) : Bool :=
  match x.indent with
  | none => true
  | some n => n < column

/-- Closes the collections of blocks right of a column, or all of them. -/
def closeBlocks (x : Lexer) (column : Option Nat) : Lexer :=
  if x.inFlow then x else go x x.outer
where
  go (x : Lexer) : List (Option Nat) → Lexer
    | [] => x
    | outer :: rest =>
      let inside := match x.indent, column with
        | none, _ => false
        | some _, none => true
        | some n, some column => column < n
      if inside then go { x.push .blockEnd with indent := outer, outer := rest } rest else x

/-- Opens a collection of a block at a column right of the one at hand; its token goes to a
place among the tokens. -/
def openBlock (x : Lexer) (column place : Nat) (t : Token) : Lexer :=
  if x.inFlow || !x.isLeftOf column then x
  else { x with tokens := x.tokens.insertIdxIfInBounds place t,
                indent := some column, outer := x.indent :: x.outer }

/-- Gives up the key candidate at hand, unless nothing else may stand there. -/
def dropCandidate (x : Lexer) : Option Lexer :=
  match x.candidates with
  | some k :: rest => if k.required then none else some { x with candidates := none :: rest }
  | _ => some x

def saveCandidate (x : Lexer) : Option Lexer :=
  if x.keyAllowed then do
    let x ← x.dropCandidate
    let k : KeyCandidate :=
      { place := x.tokens.size, start := x.cursor,
        required := !x.inFlow && x.indent = some x.column }
    some { x with candidates := some k :: x.candidates.drop 1 }
  else some x

/-- A key stands on one line and has at most 1024 characters. -/
def isStale (x : Lexer) (k : KeyCandidate) : Bool :=
  k.start.line < x.cursor.line || k.start.index + 1024 < x.cursor.index

def dropStale (x : Lexer) : Option Lexer := do
  let candidates ← x.candidates.mapM fun
    | none => some none
    | some k => if !x.isStale k then some (some k) else if k.required then none else some none
  some { x with candidates }

/-- Past white space, comments and empty lines. Tabs may not indent what could be a key; a byte
order mark at the start of a line has the width of a blank. -/
def skipGaps : Nat → Lexer → Lexer
  | 0, x => x
  | fuel + 1, x =>
    let tabs := x.inFlow || !x.keyAllowed
    let c := if x.column = 0 && x.cursor.seesAny isByteOrderMark then x.cursor.skip 1 else x.cursor
    let c := c.skipWhile fun ch => ch = ' ' || (tabs && ch = '\t')
    let c := if c.sees '#' then c.skipLine else c
    if c.seesAny isBreak then
      skipGaps fuel { x with cursor := c.skipBreak.2, keyAllowed := x.keyAllowed || !x.inFlow }
    else x.move c

def readVersionPart (c : Cursor) : Option (Nat × Cursor) :=
  let (ds, c) := c.span isDigit
  if ds = [] ∨ 9 < ds.length then none else some (digitsValue ds, c)

/-- The handle of a tag: exclamation marks around a name, or one of them before it. -/
def readHandle (shorthand : Bool) (c : Cursor) : Option (String × Cursor) :=
  if !c.sees '!' then none
  else
    let (name, c) := (c.skip 1).span isNameChar
    if c.sees '!' then some (String.ofList ('!' :: name ++ ['!']), c.skip 1)
    else if shorthand && name ≠ [] then none
    else some (String.ofList ('!' :: name), c)

/-- The characters of tags; commas and square brackets only where the tag is delimited. -/
def isTagChar (delimited : Bool) (c : Char) : Bool :=
  isNameChar c || [';', '/', '?', ':', '@', '&', '=', '+', '$', '.', '%', '!', '~', '*', '\'',
    '(', ')'].contains c || (delimited && (c = ',' || c = '[' || c = ']'))

/-- The octets of a character, from its first: how many, and the bits that the first holds. -/
def octetShape? (n : Nat) : Option (Nat × Nat) :=
  if n < 0x80 then some (1, n)
  else if 0xC0 ≤ n ∧ n < 0xE0 then some (2, n - 0xC0)
  else if 0xE0 ≤ n ∧ n < 0xF0 then some (3, n - 0xE0)
  else if 0xF0 ≤ n ∧ n < 0xF8 then some (4, n - 0xF0)
  else none

def readOctet : List Char → Option (Nat × List Char)
  | '%' :: a :: b :: rest => do some (16 * (← Json.hexValue? a) + (← Json.hexValue? b), rest)
  | _ => none

/-- The further octets of a character, each with six bits of it. -/
def readOctets : Nat → Nat → List Char → Option (Nat × List Char)
  | 0, bits, cs => some (bits, cs)
  | n + 1, bits, cs => do
    let (octet, rest) ← readOctet cs
    if octet / 64 = 2 then readOctets n (bits * 64 + octet % 64) rest else none

def unescapeTag : Nat → List Char → Option (List Char)
  | 0, _ => some []
  | _ + 1, [] => some []
  | fuel + 1, '%' :: cs => do
    let (octet, rest) ← readOctet ('%' :: cs)
    let (count, bits) ← octetShape? octet
    let (code, rest) ← readOctets (count - 1) bits rest
    let ch ← charOfCode? code
    (unescapeTag fuel rest).map (ch :: ·)
  | fuel + 1, c :: cs => (unescapeTag fuel cs).map (c :: ·)

def readTagText (delimited : Bool) (head : List Char) (c : Cursor) : Option (String × Cursor) := do
  let (text, c) := c.span (isTagChar delimited)
  if head = [] ∧ text = [] then none
  let text ← unescapeTag (text.length + 1) text
  some (String.ofList (head.drop 1 ++ text), c)

/-- A tag: between angle brackets as it is, or a handle and what stands for the rest. A single
exclamation mark has no handle. -/
def readTag (inFlow : Bool) (c : Cursor) : Option (Token × Cursor) := do
  let (t, c) ←
    if (c.skip 1).sees '<' then do
      let (uri, c) ← readTagText true [] (c.skip 2)
      if c.sees '>' then some (Token.tag "" uri, c.skip 1) else none
    else do
      let (handle, after) ← readHandle false c
      let cs := handle.toList
      if 1 < cs.length ∧ cs.getLast? = some '!' then
        let (suffix, c) ← readTagText false [] after
        some (.tag handle suffix, c)
      else
        let (suffix, c) ← readTagText false cs after
        some (if suffix = "" then .tag "" "!" else .tag "!" suffix, c)
  if endsWord c.rest || (inFlow && c.sees ',') then some (t, c) else none

def finishDirective (t : Token) (c : Cursor) : Option (Token × Cursor) :=
  let c := c.skipWhile isBlank
  let c := if c.sees '#' then c.skipLine else c
  if c.atEnd || c.seesAny isBreak then some (t, c.skipBreak.2) else none

def readDirective (c : Cursor) : Option (Token × Cursor) := do
  let (name, c) := (c.skip 1).span isNameChar
  if name = [] ∨ !endsWord c.rest then none
  let c := c.skipWhile isBlank
  if name = "YAML".toList then
    let (major, c) ← readVersionPart c
    if !c.sees '.' then none
    let (minor, c) ← readVersionPart (c.skip 1)
    finishDirective (.version major minor) c
  else if name = "TAG".toList then
    let (handle, c) ← readHandle true c
    if !c.seesAny isBlank then none
    let (uri, c) ← readTagText true [] (c.skipWhile isBlank)
    if !endsWord c.rest then none
    finishDirective (.tagShorthand handle uri) c
  else none

def readName (c : Cursor) : Option (String × Cursor) :=
  let (name, c) := (c.skip 1).span isNameChar
  let ends := endsWord c.rest ||
    c.seesAny (['?', ':', ',', ']', '\x7d', '%', '@', '\x60'].contains ·)
  if name = [] ∨ !ends then none else some (String.ofList name, c)

def content (x : Lexer) (read : Cursor → Option (Token × Cursor)) : Option Lexer := do
  let x ← x.saveCandidate
  let (t, c) ← read x.cursor
  some { x.push t with cursor := c, keyAllowed := false }

def betweenDocuments (x : Lexer) (read : Cursor → Option (Token × Cursor)) : Option Lexer := do
  let x ← (x.closeBlocks none).dropCandidate
  let (t, c) ← read x.cursor
  some { x.push t with cursor := c, keyAllowed := false }

def openFlow (x : Lexer) (t : Token) : Option Lexer := do
  let x ← x.saveCandidate
  some { x.mark t 1 with candidates := none :: x.candidates, keyAllowed := true }

def closeFlow (x : Lexer) (t : Token) : Option Lexer := do
  let x ← x.dropCandidate
  some { x.mark t 1 with
    candidates := if x.inFlow then x.candidates.drop 1 else x.candidates, keyAllowed := false }

def comma (x : Lexer) : Option Lexer := do
  let x ← x.dropCandidate
  some { x.mark .comma 1 with keyAllowed := true }

def item (x : Lexer) : Option Lexer := do
  if !x.inFlow && !x.keyAllowed then none
  let x ← (x.openBlock x.column x.tokens.size .blockSequenceStart).dropCandidate
  some { x.mark .item 1 with keyAllowed := true }

def key (x : Lexer) : Option Lexer := do
  if !x.inFlow && !x.keyAllowed then none
  let x ← (x.openBlock x.column x.tokens.size .blockMappingStart).dropCandidate
  some { x.mark .key 1 with keyAllowed := !x.inFlow }

/-- A colon makes a key of the candidate before it; without one it opens a mapping whose key
is empty. -/
def value (x : Lexer) : Option Lexer :=
  match x.candidates with
  | some k :: rest =>
    let x := { x with tokens := x.tokens.insertIdxIfInBounds k.place .key,
                      candidates := none :: rest }
    let x := x.openBlock k.start.column k.place .blockMappingStart
    some { x.mark .value 1 with keyAllowed := false }
  | _ =>
    if !x.inFlow && !x.keyAllowed then none
    else
      let x := x.openBlock x.column x.tokens.size .blockMappingStart
      some { x.mark .value 1 with keyAllowed := !x.inFlow }

def block (x : Lexer) (folded : Bool) : Option Lexer := do
  let x ← x.dropCandidate
  let (text, c) ← readBlock folded x.indent x.cursor
  some { x.push (.scalar text (if folded then .quoted else .block)) with cursor := c, keyAllowed := true }

def quoted (x : Lexer) (quote : Char) : Option Lexer :=
  x.content fun c => (readQuoted quote c).map fun (text, c) => (.scalar text .quoted, c)

/-- A plain scalar; after a line end behind it a key may follow. -/
def plain (x : Lexer) : Option Lexer := do
  let x ← x.saveCandidate
  let floor := match x.indent with
    | some n => n + 1
    | none => 0
  let (text, broken, c) ← readPlain x.inFlow floor x.cursor
  some { x.push (.scalar text .plain) with cursor := c, keyAllowed := broken }

/-- The characters that no plain scalar starts with; a hyphen, a question mark and a colon may
start one before other characters. -/
def isReserved (c : Char) : Bool :=
  ['-', '?', ':', ',', '[', ']', '\x7b', '\x7d', '#', '&', '*', '!', '|', '>', '\'', '"', '%',
    '@', '\x60'].contains c

/-- Reads the next token, and what it brings with it, at a character that no blank is. -/
def next (x : Lexer) (ch : Char) (rest : List Char) : Option Lexer :=
  let alone := endsWord rest
  if x.column = 0 ∧ ch = '%' then x.betweenDocuments readDirective
  else if x.cursor.seesMark '-' then x.betweenDocuments fun c => some (.documentStart, c.skip 3)
  else if x.cursor.seesMark '.' then x.betweenDocuments fun c => some (.documentEnd, c.skip 3)
  else if ch = '[' then x.openFlow .flowSequenceStart
  else if ch = '\x7b' then x.openFlow .flowMappingStart
  else if ch = ']' then x.closeFlow .flowSequenceEnd
  else if ch = '\x7d' then x.closeFlow .flowMappingEnd
  else if ch = ',' then x.comma
  else if ch = '-' ∧ alone then x.item
  else if ch = '?' ∧ (x.inFlow ∨ alone) then x.key
  else if ch = ':' ∧ (x.inFlow ∨ alone) then x.value
  else if ch = '*' then x.content fun c => (readName c).map fun (n, c) => (.alias n, c)
  else if ch = '&' then x.content fun c => (readName c).map fun (n, c) => (.anchor n, c)
  else if ch = '!' then x.content (readTag x.inFlow)
  else if ch = '|' ∧ !x.inFlow then x.block false
  else if ch = '>' ∧ !x.inFlow then x.block true
  else if ch = '\'' ∨ ch = '"' then x.quoted ch
  else if !isGap ch ∧ !isReserved ch then x.plain
  else if ch = '-' ∨ (!x.inFlow ∧ (ch = '?' ∨ ch = ':')) then x.plain
  else none

def finish (x : Lexer) : Option Lexer :=
  ((x.closeBlocks none).dropCandidate).map (·.push .streamEnd)

/-- Stops before what is malformed: what could still have become a key is no token yet. -/
def halt (x : Lexer) : Lexer :=
  let open' := x.candidates.filterMap fun candidate => candidate.bind fun k =>
    if x.isStale k && !k.required then none else some k.place
  { x with tokens := x.tokens.take (open'.foldl min x.tokens.size) }

/-- Reads on past white space to the next token; `none` where the text is malformed, and
otherwise whether the text goes on. -/
def step (x : Lexer) : Option (Bool × Lexer) := do
  let x ← (skipGaps (x.cursor.rest.length + 1) x).dropStale
  let x := x.closeBlocks (some x.column)
  match x.cursor.rest with
  | [] => x.finish.map (false, ·)
  | ch :: rest => (x.next ch rest).map (true, ·)

def run : Nat → Lexer → Lexer
  | 0, x => x
  | fuel + 1, x =>
    match x.step with
    | none => x.halt
    | some (false, x) => x
    | some (true, x) => run fuel x

end Lexer

/-- The tokens of a text. One that holds a character it must not hold has none. -/
def tokensOf (text : String) : List Token :=
  let cs := text.toList
  if cs.all isAllowed then (Lexer.run (cs.length + 1) (.start cs)).tokens.toList else []

end Reconciler.Yaml
