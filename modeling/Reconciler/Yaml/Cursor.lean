/-!
A place in a text of YAML: what follows it, and how far it is from the start of the text and
of its line.
-/

set_option autoImplicit false

namespace Reconciler.Yaml

def isBlank (c : Char) : Bool := c = ' ' || c = '\t'

/-- Ends a line: carriage return, line feed, or one of the line ends of Unicode. -/
def isBreak (c : Char) : Bool :=
  c = '\n' || c = '\r' || c.toNat = 0x85 || c.toNat = 0x2028 || c.toNat = 0x2029

def isGap (c : Char) : Bool := isBlank c || isBreak c

/-- A word is over: the text goes on with white space, or not at all. -/
def endsWord : List Char → Bool
  | [] => true
  | c :: _ => isGap c

def isNameChar (c : Char) : Bool := c.isAlphanum || c = '_' || c = '-'

def isAllowed (c : Char) : Bool :=
  let n := c.toNat
  n = 0x09 || n = 0x0A || n = 0x0D || (0x20 ≤ n && n ≤ 0x7E) || n = 0x85 ||
    (0xA0 ≤ n && n ≤ 0xD7FF) || (0xE000 ≤ n && n ≤ 0xFFFD) || 0x10000 ≤ n

def isByteOrderMark (c : Char) : Bool := c.toNat = 0xFEFF

structure Cursor where
  rest : List Char
  /-- Characters since the start of the text. -/
  index : Nat
  line : Nat
  /-- Characters since the start of the line. -/
  column : Nat
  deriving Repr

namespace Cursor

def ofText (cs : List Char) : Cursor := ⟨cs, 0, 0, 0⟩

def peek? (c : Cursor) : Option Char := c.rest.head?

def atEnd (c : Cursor) : Bool := c.rest.isEmpty

def sees (c : Cursor) (ch : Char) : Bool := c.rest.head? = some ch

def seesAny (c : Cursor) (test : Char → Bool) : Bool := c.rest.head?.any test

def skip (c : Cursor) (n : Nat) : Cursor :=
  { c with rest := c.rest.drop n, index := c.index + n, column := c.column + n }

/-- Past the end of the line, which a carriage return and a line feed form together. What it
stands for in a scalar is a line feed; only the separators of Unicode stand for themselves. -/
def skipBreak (c : Cursor) : List Char × Cursor :=
  match c.rest with
  | '\r' :: '\n' :: rest => (['\n'], ⟨rest, c.index + 2, c.line + 1, 0⟩)
  | b :: rest =>
    let next : Cursor := ⟨rest, c.index + 1, c.line + 1, 0⟩
    if !isBreak b then ([], c)
    else if b.toNat = 0x2028 ∨ b.toNat = 0x2029 then ([b], next)
    else (['\n'], next)
  | [] => ([], c)

/-- The characters ahead that pass a test, and the place after them; no line ends pass. -/
def span (c : Cursor) (test : Char → Bool) : List Char × Cursor :=
  let run := c.rest.takeWhile test
  (run, c.skip run.length)

def skipWhile (c : Cursor) (test : Char → Bool) : Cursor := (c.span test).2

def skipLine (c : Cursor) : Cursor := c.skipWhile fun ch => !isBreak ch

/-- A mark that stands alone at the start of a line. -/
def seesMark (c : Cursor) (mark : Char) : Bool :=
  c.column = 0 && c.rest.take 3 = [mark, mark, mark] && endsWord (c.rest.drop 3)

def seesDocumentMark (c : Cursor) : Bool := c.seesMark '-' || c.seesMark '.'

end Cursor

end Reconciler.Yaml
