/-!
The tokens that a text of YAML is made of. The end of the text is a token as well, so that a
list without it comes from a text that is malformed after its last token.
-/

set_option autoImplicit false

namespace Reconciler.Yaml

inductive Style where
  | plain
  /-- Between quotes, or as a folded block. -/
  | quoted
  /-- As a block that keeps its line ends. -/
  | block
  deriving DecidableEq, Repr

inductive Token where
  | version (major minor : Nat)
  /-- A shorthand for the beginning of tags. -/
  | tagShorthand (handle start : String)
  | documentStart
  | documentEnd
  | blockSequenceStart
  | blockMappingStart
  | blockEnd
  | flowSequenceStart
  | flowSequenceEnd
  | flowMappingStart
  | flowMappingEnd
  /-- The hyphen before an item of a sequence. -/
  | item
  | comma
  | key
  | value
  | alias (name : String)
  | anchor (name : String)
  | tag (handle suffix : String)
  | scalar (text : String) (style : Style)
  | streamEnd
  deriving DecidableEq, Repr

end Reconciler.Yaml
