/-!
What can be wrong with a YAML text, from single characters to the shape of the data, and the
wording of each fault.
-/

namespace Tether.Yaml

/-- Why a text is no YAML, or not the data that was wanted. -/
inductive Fault
  /-- A character that no text may hold. -/
  | controlChar
  /-- A character that begins no token. -/
  | badStart
  /-- A key that its line does not complete. -/
  | lostKey
  /-- An indicator of block structure where none may stand. -/
  | misplaced
  /-- A directive that is unknown or badly written. -/
  | badDirective
  /-- An anchor or alias without a name. -/
  | badAnchor
  /-- A badly written tag. -/
  | badTag
  /-- A quoted text without an end. -/
  | openQuote
  /-- An unknown escape. -/
  | badEscape
  /-- The header of a block scalar says something else than it may. -/
  | badHeader
  /-- A tab where only spaces indent. -/
  | tabIndent
  /-- A colon that neither ends a key nor belongs to a text. -/
  | strayColon
  /-- A token that its surroundings do not allow. -/
  | unexpected
  /-- A tag by an undeclared handle. -/
  | unknownHandle
  /-- An alias of nothing. -/
  | unknownAnchor
  /-- More than one document. -/
  | manyDocuments
  /-- Data of another shape than wanted. -/
  | wrongShape (wanted : String)
  /-- A field that is given twice. -/
  | repeated (name : String)
  deriving DecidableEq, Repr

/-- The wording of a fault. -/
def Fault.message : Fault → String
  | .controlChar => "control characters are not allowed"
  | .badStart => "found character that cannot start any token"
  | .lostKey => "could not find expected ':'"
  | .misplaced => "mapping values are not allowed in this context"
  | .badDirective => "found unknown directive name"
  | .badAnchor => "did not find expected alphabetic or numeric character"
  | .badTag => "did not find expected tag URI"
  | .openQuote => "found unexpected end of stream"
  | .badEscape => "found unknown escape character"
  | .badHeader => "did not find expected comment or line break"
  | .tabIndent => "found a tab character that violates indentation"
  | .strayColon => "found unexpected ':'"
  | .unexpected => "did not find expected node content"
  | .unknownHandle => "found undefined tag handle"
  | .unknownAnchor => "unknown anchor"
  | .manyDocuments => "deserializing from YAML containing more than one document is not supported"
  | .wrongShape wanted => "invalid type: expected " ++ wanted
  | .repeated name => "duplicate field `" ++ name ++ "`"

end Tether.Yaml
