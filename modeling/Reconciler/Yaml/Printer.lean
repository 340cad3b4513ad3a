import Reconciler.Json.Text
import Reconciler.Yaml.Value
/-!
Values as documents, one entry or item a line. Lists start in the column of their key, and
empty collections stay on its line.
-/

set_option autoImplicit false

namespace Reconciler.Yaml

/-- A colon at the end of a word or a number sign at the start of one: what follows would not
belong to the scalar. -/
def breaksOff : List Char → Bool
  | [] => false
  | [c] => c = ':'
  | c :: d :: rest =>
    (c = ':' && isBlank d) || (isBlank c && d = '#') || breaksOff (d :: rest)

/-- A plain scalar may start so: with no character that has a meaning of its own, or with one
that has none before the next. -/
def startsPlain : List Char → Bool
  | [] => false
  | c :: rest =>
    if c = '-' ∨ c = '?' ∨ c = ':' then !endsWord rest
    else !isBlank c && !Lexer.isReserved c

/-- The text reads back as itself without quotes: it spells no other value, and nothing in it
has a meaning of its own. -/
def isPlainText (s : String) : Bool :=
  let cs := s.toList
  startsPlain cs && !(cs.getLast?.any isBlank) && !breaksOff cs &&
    !cs.any (fun c => c.toNat < 0x20 || c.toNat = 0x7F || isBreak c) &&
    ["---", "..."].all (fun mark => !mark.toList.isPrefixOf cs) &&
    match Plain.value? s with
    | some (.text t) => t == s
    | _ => false

/-- A text between single quotes, which are written twice within it. -/
def singleQuoted (s : String) : String :=
  String.ofList ('\'' :: s.toList.flatMap (fun c => if c = '\'' then ['\'', '\''] else [c]) ++ ['\''])

/-- A text with control characters is written with escapes. -/
def textToken (s : String) : String :=
  if isPlainText s then s
  else if s.toList.any fun c => c.toNat < 0x20 || c.toNat = 0x7F then Json.quote s
  else singleQuoted s

def token : Json → String
  | .null => "null"
  | .bool b => if b then "true" else "false"
  | .int n => intText n
  | .decimal d => d.toText
  | .text s => textToken s
  | .list _ => "[]"
  | .record _ => "\x7b\x7d"

def indentLines (lines : List String) : List String := lines.map ("  " ++ ·)

/-- A hyphen before the first line, and the others indented as far. -/
def hang : List String → List String
  | [] => []
  | first :: rest => ("- " ++ first) :: indentLines rest

mutual

def lines : Json → List String
  | .list (item :: items) => itemLines (item :: items)
  | .record (entry :: entries) => entryLines (entry :: entries)
  | j => [token j]

def itemLines : List Json → List String
  | [] => []
  | j :: rest => hang (lines j) ++ itemLines rest

def entryLines : List (String × Json) → List String
  | [] => []
  | (k, j) :: rest =>
    let key := textToken k ++ ":"
    let own := lines j
    let own := match j with
      | .list (_ :: _) => key :: own
      | .record (_ :: _) => key :: indentLines own
      | _ => own.map fun l => key ++ " " ++ l
    own ++ entryLines rest

end

def print (j : Json) : String := String.join ((lines j).map (· ++ "\n"))

end Reconciler.Yaml
