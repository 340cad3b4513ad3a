import Reconciler.Json.Text
/-!
Addresses on an API server: a path and, behind a question mark, a query of named values. An
address is written from a text, of which not every character is taken, and a query is read
back with what `encode` escaped.
-/

set_option autoImplicit false

namespace Reconciler

/-- A path and the text of the query, if there is one. -/
structure Address where
  path : String
  query : Option String
  deriving DecidableEq, Repr

namespace Address

def isPathChar (c : Char) : Bool :=
  let n := c.toNat
  0x21 ≤ n && n ≤ 0x7E && c ≠ '#' && c ≠ '<' && c ≠ '>' && c ≠ '?' && n ≠ 0x60

def isQueryChar (c : Char) : Bool :=
  let n := c.toNat
  0x21 ≤ n && n ≤ 0x7E && c ≠ '"' && c ≠ '#' && c ≠ '<' && c ≠ '>'

/-- The address a text names; what follows a `#` does not belong to it. -/
def ofText? (text : String) : Option Address :=
  let cs := text.toList.takeWhile (· ≠ '#')
  let path := cs.takeWhile (· ≠ '?')
  match cs.dropWhile (· ≠ '?') with
  | [] => if path.all isPathChar then some ⟨String.ofList path, none⟩ else none
  | _ :: query =>
    if path.all isPathChar ∧ query.all isQueryChar then
      some ⟨String.ofList path, some (String.ofList query)⟩
    else none

def encodeByte (b : UInt8) : List Char :=
  let c := Char.ofNat b.toNat
  if c.isAlphanum ∨ c = '*' ∨ c = '-' ∨ c = '.' ∨ c = '_' then [c]
  else if c = ' ' then ['+']
  else ['%', (Json.hexDigit (b.toNat / 16)).toUpper, (Json.hexDigit b.toNat).toUpper]

def encode (s : String) : String := String.ofList (s.toUTF8.toList.flatMap encodeByte)

def queryText (values : List (String × String)) : String :=
  String.join (values.map fun (k, v) => "&" ++ encode k ++ "=" ++ encode v)

def decodeBytes : List Char → List UInt8
  | '%' :: a :: b :: rest =>
    match Json.hexValue? a, Json.hexValue? b with
    | some x, some y => UInt8.ofNat (16 * x + y) :: decodeBytes rest
    | _, _ => UInt8.ofNat '%'.toNat :: decodeBytes (a :: b :: rest)
  | c :: rest => (if c = '+' then [32] else (String.ofList [c]).toUTF8.toList) ++ decodeBytes rest
  | [] => []
termination_by cs => cs.length

/-- The text of some bytes; one by one where they spell none. -/
def bytesText (bytes : List UInt8) : String :=
  match String.fromUTF8? ⟨bytes.toArray⟩ with
  | some s => s
  | none => String.ofList (bytes.map fun b => if b < 128 then Char.ofNat b.toNat else Char.ofNat 0xFFFD)

def decode (cs : List Char) : String := bytesText (decodeBytes cs)

def decodePart (part : String) : String × String :=
  let cs := part.toList
  (decode (cs.takeWhile (· ≠ '=')), decode ((cs.dropWhile (· ≠ '=')).drop 1))

/-- The named values of a query; empty parts do not count. -/
def values (a : Address) : List (String × String) :=
  match a.query with
  | some q => ((q.splitOn "&").filter (· ≠ "")).map decodePart
  | none => []

end Address

end Reconciler
