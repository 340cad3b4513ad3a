import Reconciler.Decimal
import Reconciler.Text.Printable
/-!
Texts in double quotes, as diagnostics show them: what does not print is spelled by
its code point.
-/

set_option autoImplicit false

namespace Reconciler.Text

def quotedChar (c : Char) : String :=
  if c = '"' then "\\\"" else if c = '\\' then "\\\\" else if c = '\n' then "\\n"
  else if c = '\r' then "\\r" else if c = '\t' then "\\t" else if c.toNat = 0 then "\\0"
  else if prints c then String.ofList [c]
  else "\\u\x7b" ++ String.ofList (Nat.toDigits 16 c.toNat) ++ "\x7d"

def quoted (s : String) : String :=
  "\"" ++ String.join (s.toList.map quotedChar) ++ "\""

end Reconciler.Text
