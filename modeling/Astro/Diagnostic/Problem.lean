import Astro.Diagnostic
import Astro.Token

/-!
# What can be wrong with a program's text

Each cause has a stable code, one wording and, for two of them, a hint. Codes
starting with `E1` are about characters, codes starting with `E2` about tokens.
-/

namespace Astro

/-- Why a text is not a program. Each has a code, a wording and perhaps advice. -/
inductive Problem where
  /-- A character that starts no token. -/
  | unexpectedCharacter (spelling : Text)
  /-- A token of another kind was wanted. -/
  | expected (wanted : Token.Kind) (found : Token)
  /-- No statement starts with this token. -/
  | expectedStatement (found : Token)
  /-- No expression starts with this token. -/
  | expectedExpression (found : Token)
  /-- A name at the start of a statement that is neither assigned nor called. -/
  | expectedAssignOrCall (name : Text) (found : Token)
  /-- There is no statement at all. -/
  | emptyProgram
  /-- A minus sign before an operand, in a dialect without negation. -/
  | negationDisabled
  /-- A numeral that denotes no number. -/
  | malformedNumeral (lexeme : Text)
deriving DecidableEq, Repr

namespace Problem

/-- The stable code of a cause. Scripts may rely on it, whatever happens to the wording. -/
def code : Problem → Text
  | unexpectedCharacter _ => Text.ofString "E1001"
  | expected _ _ => Text.ofString "E2001"
  | expectedStatement _ => Text.ofString "E2002"
  | expectedExpression _ => Text.ofString "E2002"
  | expectedAssignOrCall _ _ => Text.ofString "E2003"
  | emptyProgram => Text.ofString "E2004"
  | negationDisabled => Text.ofString "E2005"
  | malformedNumeral _ => Text.ofString "E2006"

/-- The wording of a cause. It quotes what was found, so that the line can be understood without
the source. -/
def message : Problem → Text
  | unexpectedCharacter spelling =>
    Text.ofString "unexpected character: '" ++ spelling ++ Text.ofString "'"
  | expected wanted found =>
    Text.ofString "expected '" ++ wanted.text ++ Text.ofString "', got " ++ found.describe
  | expectedStatement found => Text.ofString "expected a statement, got " ++ found.describe
  | expectedExpression found => Text.ofString "expected an expression, got " ++ found.describe
  | expectedAssignOrCall name found =>
    Text.ofString "expected '=' or '(' after '" ++ name ++ Text.ofString "', got " ++ found.describe
  | emptyProgram => Text.ofString "expected at least one statement"
  | negationDisabled => Text.ofString "unary '-' is not enabled in this dialect"
  | malformedNumeral lexeme =>
    Text.ofString "malformed numeral '" ++ lexeme ++ Text.ofString "'"

/-- The advice that goes with a cause. Most causes have none. -/
def hint : Problem → Option Text
  | expectedExpression found =>
    if found.kind.isKeyword then
      some (Text.ofString "'" ++ found.lexeme ++ Text.ofString "' is a keyword")
    else none
  | negationDisabled => some (Text.ofString "write 0 - x instead")
  | _ => none

/-- The diagnostic for a cause found at a span. Code, wording and advice are all determined by the
cause. -/
def diagnostic (problem : Problem) (span : Span) : Diagnostic :=
  ⟨problem.code, problem.message, span, problem.hint⟩

end Problem

namespace Token

/-- What is wrong with the characters of a token list: one diagnostic for every
illegal token, in order. -/
def problems (tokens : List Token) : List Diagnostic :=
  tokens.filterMap fun token =>
    if token.kind = .illegal then
      some ((Problem.unexpectedCharacter token.lexeme).diagnostic token.span)
    else none

end Token

end Astro
