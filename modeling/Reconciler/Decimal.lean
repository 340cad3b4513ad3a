/-!
Numbers written in decimal: a sign, digits and a power of ten, kept as they were
written and rounded only by `Binary64.ofDecimal`.
-/

set_option autoImplicit false

namespace Reconciler

/-- The number `± digits · 10 ^ exponent`. -/
structure Decimal where
  negative : Bool
  digits : Nat
  exponent : Int
  deriving DecidableEq, Repr, Inhabited

def digit? (c : Char) : Option Nat :=
  if '0' ≤ c ∧ c ≤ '9' then some (c.toNat - '0'.toNat) else none

def isDigit (c : Char) : Bool := (digit? c).isSome

def digitsValue (cs : List Char) : Nat :=
  cs.foldl (fun n c => 10 * n + (c.toNat - '0'.toNat)) 0

def digitsOf (n : Nat) : List Char := Nat.toDigits 10 n

def natText (n : Nat) : String := String.ofList (digitsOf n)

/-- One more than the largest natural number of so many bits. -/
def wordBound (bits : Nat) : Nat := Nat.pow 2 bits

def intText (n : Int) : String :=
  if n < 0 then "-" ++ natText n.natAbs else natText n.natAbs

/-- A number of at least `width` digits, filled up with zeros. -/
def paddedText (width n : Nat) : String :=
  let ds := digitsOf n
  String.ofList (List.replicate (width - ds.length) '0' ++ ds)

namespace Decimal

/-- The part after `e` or `E`: an optional sign and at least one digit. -/
def readExponent : List Char → Option Int
  | '-' :: cs => if cs ≠ [] ∧ cs.all isDigit then some (-(digitsValue cs : Int)) else none
  | '+' :: cs => if cs ≠ [] ∧ cs.all isDigit then some (digitsValue cs) else none
  | cs => if cs ≠ [] ∧ cs.all isDigit then some (digitsValue cs) else none

/-- Reads digits around an optional point, at least one of them, and an optional
exponent; a sign stands before if `negative` says so. -/
def readUnsigned (negative : Bool) (cs : List Char) : Option Decimal :=
  let whole := cs.takeWhile isDigit
  let rest := cs.dropWhile isDigit
  let (fraction, rest) :=
    match rest with
    | '.' :: more => (more.takeWhile isDigit, more.dropWhile isDigit)
    | _ => ([], rest)
  if whole = [] ∧ fraction = [] then none
  else
    let exponent :=
      match rest with
      | [] => some 0
      | c :: more => if c = 'e' ∨ c = 'E' then readExponent more else none
    exponent.map fun e =>
      ⟨negative, digitsValue (whole ++ fraction), e - fraction.length⟩

def read? : List Char → Option Decimal
  | '-' :: cs => readUnsigned true cs
  | '+' :: cs => readUnsigned false cs
  | cs => readUnsigned false cs

/-- The same number without zeros at the end of its digits; the fuel is the count of digits. -/
def stripZeros : Nat → Nat → Int → Nat × Int
  | 0, d, e => (d, e)
  | fuel + 1, d, e => if d ≠ 0 ∧ d % 10 = 0 then stripZeros fuel (d / 10) (e + 1) else (d, e)

/-- Digits without a power of ten for magnitudes from 10 ^ -5 to 10 ^ 16, with a point always;
otherwise one digit before the point and an exponent. -/
def toText (d : Decimal) : String :=
  let sign := if d.negative then "-" else ""
  if d.digits = 0 then sign ++ "0.0"
  else
    let (digits, exponent) := stripZeros (digitsOf d.digits).length d.digits d.exponent
    let ds := digitsOf digits
    let point : Int := ds.length + exponent
    let zeros (n : Nat) : List Char := List.replicate n '0'
    if 0 ≤ exponent ∧ point ≤ 16 then
      sign ++ String.ofList (ds ++ zeros exponent.toNat) ++ ".0"
    else if 0 < point ∧ point ≤ 16 then
      sign ++ String.ofList (ds.take point.toNat) ++ "." ++ String.ofList (ds.drop point.toNat)
    else if -5 < point ∧ point ≤ 0 then
      sign ++ "0." ++ String.ofList (zeros (-point).toNat ++ ds)
    else
      let fraction := if ds.length = 1 then "" else "." ++ String.ofList (ds.drop 1)
      sign ++ String.ofList (ds.take 1) ++ fraction ++ "e" ++ intText (point - 1)

end Decimal

/-- A number in binary floating point of 53 significant bits: finite ones count
units of 2 ^ -1074, the least of them. -/
inductive Binary64 where
  | nan
  | infinite (negative : Bool)
  | finite (units : Int)
  deriving DecidableEq, Repr

namespace Binary64

/-- The nearest integer to `num / den`; a half goes to the even neighbour. -/
def roundHalfEven (num den : Nat) : Nat :=
  let q := num / den
  let twice := 2 * (num % den)
  if twice < den then q
  else if den < twice then q + 1
  else if q % 2 = 0 then q else q + 1

/-- The nearest count of units to `num / den` that has at most 53 significant bits. -/
def roundUnits (num den : Nat) : Nat :=
  let shift := (Nat.log2 (num / den) + 1) - 53
  roundHalfEven num (den * Nat.pow 2 shift) * Nat.pow 2 shift

/-- The nearest number to a decimal. What reaches 2 ^ 1024 is infinite; magnitudes
far outside the range are decided by their size alone. -/
def ofDecimal (d : Decimal) : Binary64 :=
  let size : Int := (digitsOf d.digits).length + d.exponent
  if d.digits = 0 then .finite 0
  else if 400 < size then .infinite d.negative
  else if size < -400 then .finite 0
  else
    let num := d.digits * Nat.pow 10 d.exponent.toNat * Nat.pow 2 1074
    let den := Nat.pow 10 (-d.exponent).toNat
    let units := roundUnits num den
    if Nat.pow 2 (1024 + 1074) ≤ units then .infinite d.negative
    else .finite (if d.negative then -(units : Int) else units)

def folded (cs : List Char) : List Char := cs.map Char.toLower

def unsignedSpecial? (negative : Bool) (cs : List Char) : Option Binary64 :=
  let cs := folded cs
  if cs = "inf".toList ∨ cs = "infinity".toList then some (.infinite negative)
  else if cs = "nan".toList then some .nan
  else none

/-- Reads a decimal number, or `inf`, `infinity` or `nan` in any case, with an optional sign. -/
def read? (text : String) : Option Binary64 :=
  let cs := text.toList
  match Decimal.read? cs with
  | some d => some (ofDecimal d)
  | none =>
    match cs with
    | '-' :: rest => unsignedSpecial? true rest
    | '+' :: rest => unsignedSpecial? false rest
    | _ => unsignedSpecial? false cs

/-- Strictly less; nothing is less than, or greater than, `nan`. -/
def lt : Binary64 → Binary64 → Bool
  | .nan, _ => false
  | _, .nan => false
  | .infinite a, .infinite b => a && !b
  | .infinite a, .finite _ => a
  | .finite _, .infinite b => !b
  | .finite m, .finite n => m < n

/-- Less or equal; `nan` is not even equal to itself. -/
def le : Binary64 → Binary64 → Bool
  | .nan, _ => false
  | _, .nan => false
  | .infinite a, .infinite b => a || !b
  | .infinite a, .finite _ => a
  | .finite _, .infinite b => !b
  | .finite m, .finite n => m ≤ n

end Binary64

end Reconciler
