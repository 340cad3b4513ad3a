import Reconciler.Decimal
/-!
Patterns with wildcards: `?` for a character, `*` for any run of characters, `**` for
any number of whole path components, and sets of characters in brackets.
-/

set_option autoImplicit false

namespace Reconciler.Glob

inductive CharSet where
  | one (c : Char)
  | range (low high : Char)
  deriving DecidableEq, Repr

def CharSet.contains : CharSet → Char → Bool
  | .one a, c => a = c
  | .range low high, c => low ≤ c && c ≤ high

inductive Token where
  | literal (c : Char)
  | anyChar
  | anySequence
  /-- Any number of components, each with its slash. -/
  | anyComponents
  | within (set : List CharSet)
  | except (set : List CharSet)
  deriving DecidableEq, Repr

inductive Fault where
  | tooManyStars (position : Nat)
  | partialComponent (position : Nat)
  | invalidRange (position : Nat)
  deriving DecidableEq, Repr

def Fault.message (f : Fault) : String :=
  let near (position : Nat) (text : String) :=
    "Pattern syntax error near position " ++ natText position ++ ": " ++ text
  match f with
  | .tooManyStars p => near p "wildcards are either regular `*` or recursive `**`"
  | .partialComponent p => near p "recursive wildcards must form a single path component"
  | .invalidRange p => near p "invalid range pattern"

/-- The members of a bracket: a hyphen between two characters makes a range. -/
def charSets : List Char → List CharSet
  | a :: '-' :: b :: rest => .range a b :: charSets rest
  | a :: rest => .one a :: charSets rest
  | [] => []

/-- The first member of a bracket may be a closing bracket itself. -/
def bracket? : List Char → Option (Token × List Char)
  | '!' :: c :: rest =>
    let inside := rest.takeWhile (· ≠ ']')
    match rest.dropWhile (· ≠ ']') with
    | _ :: after => some (.except (charSets (c :: inside)), after)
    | [] => none
  | c :: rest =>
    let inside := rest.takeWhile (· ≠ ']')
    if c = '!' then none
    else
      match rest.dropWhile (· ≠ ']') with
      | _ :: after => some (.within (charSets (c :: inside)), after)
      | [] => none
  | [] => none

/-- Reads the tokens from a position on; `atStart` says that a component begins there. The
fuel is the count of characters. -/
def tokensFrom : Nat → Nat → Bool → List Char → Except Fault (List Token)
  | 0, _, _, _ => .ok []
  | _ + 1, _, _, [] => .ok []
  | fuel + 1, position, _, '?' :: rest => do
    .ok (.anyChar :: (← tokensFrom fuel (position + 1) false rest))
  | fuel + 1, position, atStart, '*' :: rest =>
    let stars := 1 + (rest.takeWhile (· = '*')).length
    let rest := rest.dropWhile (· = '*')
    if 2 < stars then .error (.tooManyStars (position + 2))
    else if stars = 1 then do
      .ok (.anySequence :: (← tokensFrom fuel (position + 1) false rest))
    else if !atStart then .error (.partialComponent (position - 1))
    else
      match rest with
      | [] => .ok [.anyComponents]
      | '/' :: more => do
        .ok (.anyComponents :: (← tokensFrom fuel (position + 3) true more))
      | _ => .error (.partialComponent (position + 2))
  | fuel + 1, position, _, '[' :: rest =>
    match bracket? rest with
    | some (token, after) => do
      .ok (token :: (← tokensFrom fuel (position + 1 + (rest.length - after.length)) false after))
    | none => .error (.invalidRange position)
  | fuel + 1, position, _, c :: rest => do
    .ok (.literal c :: (← tokensFrom fuel (position + 1) (c = '/') rest))

def compile (pattern : String) : Except Fault (List Token) :=
  let cs := pattern.toList
  tokensFrom cs.length 0 true cs

def tails : List Char → List (List Char)
  | [] => [[]]
  | c :: rest => (c :: rest) :: tails rest

/-- The ends of a text that begin after a slash, and the empty end. -/
def componentTails : List Char → List (List Char)
  | [] => [[]]
  | c :: rest => if c = '/' then rest :: componentTails rest else componentTails rest

def covers : List Token → List Char → Bool
  | [], cs => cs = []
  | .anySequence :: rest, cs => (tails cs).any (covers rest)
  | .anyComponents :: rest, cs => (cs :: componentTails cs).any (covers rest)
  | .literal a :: rest, c :: cs => a = c && covers rest cs
  | .anyChar :: rest, _ :: cs => covers rest cs
  | .within set :: rest, c :: cs => set.any (·.contains c) && covers rest cs
  | .except set :: rest, c :: cs => !set.any (·.contains c) && covers rest cs
  | _ :: _, [] => false

end Reconciler.Glob
