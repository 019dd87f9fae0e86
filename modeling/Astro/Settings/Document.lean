import Astro.Text.Lines

/-!
# Settings documents

Settings are written in a small part of YAML: mappings and sequences by
indentation or in brackets, and scalars that are plain or in quotes, with
comments. What is kept of a document is what settings need: the text of scalars
and whether they were quoted, the parts of collections, and the line where
everything starts.
-/

namespace Astro

/-- A scalar of a settings document, with the line where it starts. -/
structure Scalar where
  line : Nat
  text : Text
  quoted : Bool
deriving DecidableEq, Repr

/-- A node of a settings document. Collections have the line where they start. -/
inductive Document where
  | scalar (scalar : Scalar)
  | sequence (line : Nat) (items : List Document)
  | mapping (line : Nat) (entries : List (Scalar × Document))

namespace Document

/-- Why a file is not a settings document, with the line where that shows. -/
inductive Malformed where
  | controlCharacter
  | unexpectedMapping (line : Nat)
  | missingColon (line : Nat)
  | unclosedQuote (line : Nat)
  | unclosedFlow (line : Nat)
  | trailingText (line : Nat)
deriving DecidableEq, Repr

namespace Malformed

/-- The line where a document stops making sense. A control character is found
before there are lines. -/
def line : Malformed → Nat
  | controlCharacter => 0
  | unexpectedMapping line => line
  | missingColon line => line
  | unclosedQuote line => line
  | unclosedFlow line => line
  | trailingText line => line

/-- What is wrong there. The wording is what is reported behind the line. -/
def problem : Malformed → Text
  | controlCharacter => Text.ofString "control characters are not allowed"
  | unexpectedMapping _ => Text.ofString "mapping values are not allowed in this context"
  | missingColon _ => Text.ofString "could not find expected ':'"
  | unclosedQuote _ => Text.ofString "found unexpected end of stream"
  | unclosedFlow _ => Text.ofString "did not find expected ',' or '\x7d'"
  | trailingText _ => Text.ofString "did not find expected key"

/-- The cause with its line. The first line is not named. -/
def text (malformed : Malformed) : Text :=
  let place :=
    if malformed.line ≤ 1 then []
    else Text.ofString "line " ++ Text.ofNat malformed.line ++ Text.ofString ": "
  place ++ malformed.problem

end Malformed

end Document

end Astro
