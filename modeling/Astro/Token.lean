import Astro.Position
import Astro.Text.Quoted

/-!
# Tokens

A token is a word of a program with its kind, its spelling (the lexeme) and the
place where it stands. Kinds have fixed code numbers. A token list may come from
elsewhere, so a kind can also be a number that means nothing in the language;
such a kind keeps its number, and no known kind is ever written that way
(`Kind.ofCode_code`).
-/

namespace Astro

/-- What sort of word a token is. There are sixteen known ones, and any other code number is a
kind of its own. -/
inductive Token.Kind where
  | illegal
  | endOfInput
  | name
  | number
  | assign
  | plus
  | minus
  | star
  | slash
  | percent
  | power
  | leftParen
  | rightParen
  | comma
  | semicolon
  | printWord
  | other (code : Int) (unknown : ¬ (0 ≤ code ∧ code ≤ 15))
deriving DecidableEq, Repr

namespace Token.Kind

/-- The code number of a kind. Kinds without a name are told apart by their code alone. -/
def code : Kind → Int
  | illegal => 0
  | endOfInput => 1
  | name => 2
  | number => 3
  | assign => 4
  | plus => 5
  | minus => 6
  | star => 7
  | slash => 8
  | percent => 9
  | power => 10
  | leftParen => 11
  | rightParen => 12
  | comma => 13
  | semicolon => 14
  | printWord => 15
  | other code _ => code

/-- The known kinds, in the order of their code numbers. -/
def known : List Kind :=
  [illegal, endOfInput, name, number, assign, plus, minus, star, slash, percent, power, leftParen,
   rightParen, comma, semicolon, printWord]

/-- The kind with a given code number. Every number is the code of exactly one kind. -/
def ofCode (code : Int) : Kind :=
  if small : 0 ≤ code ∧ code ≤ 15 then
    known.get ⟨code.toNat, by simp only [known, List.length_cons, List.length_nil]; omega⟩
  else other code small

/-- The name of a kind; punctuation is named by its spelling. -/
def text : Kind → Text
  | illegal => Text.ofString "ILLEGAL"
  | endOfInput => Text.ofString "EOF"
  | name => Text.ofString "IDENT"
  | number => Text.ofString "NUMBER"
  | assign => Text.ofString "="
  | plus => Text.ofString "+"
  | minus => Text.ofString "-"
  | star => Text.ofString "*"
  | slash => Text.ofString "/"
  | percent => Text.ofString "%"
  | power => Text.ofString "**"
  | leftParen => Text.ofString "("
  | rightParen => Text.ofString ")"
  | comma => Text.ofString ","
  | semicolon => Text.ofString ";"
  | printWord => Text.ofString "print"
  | other code _ => Text.ofString "Kind(" ++ Text.ofInt code ++ Text.ofString ")"

/-- Whether a kind is that of a reserved word. There is one such word. In dialects that print by a
procedure it can be used as a name. -/
def isKeyword (kind : Kind) : Bool := kind = printWord

/-- The kind of a word: the one reserved word has its own, any other is a name. -/
def ofWord (word : Text) : Kind := if word = Text.ofString "print" then printWord else name

/-- The kind of a punctuation character that is a token by itself. -/
def ofSymbol? : Char → Option Kind
  | '(' => some leftParen
  | ')' => some rightParen
  | ',' => some comma
  | ';' => some semicolon
  | '=' => some assign
  | '+' => some plus
  | '-' => some minus
  | '*' => some star
  | '/' => some slash
  | '%' => some percent
  | _ => none

/-- The code number of a kind names it. -/
theorem ofCode_code (kind : Kind) : ofCode kind.code = kind := by
  cases kind with
  | other code unknown => simp [ofCode, Kind.code, unknown]
  | _ => rfl

/-- Every number is the code number of the kind that it names. -/
theorem code_ofCode (code : Int) : (ofCode code).code = code := by
  by_cases small : 0 ≤ code ∧ code ≤ 15
  · obtain ⟨index, rfl⟩ := Int.eq_ofNat_of_zero_le small.1
    have bounded : index < 16 := by omega
    clear small
    decide +revert
  · simp [ofCode, small, Kind.code]

end Token.Kind

/-- A word of a program. It keeps the spelling and the place at which it was read. -/
structure Token where
  kind : Token.Kind
  lexeme : Text
  span : Span
deriving DecidableEq, Repr

namespace Token

/-- What is seen behind the last token of a list that does not end properly. -/
def missing : Token := ⟨.endOfInput, [], .nowhere⟩

/-- The first token of a list. Where there is none, a token stands in that ends the input nowhere.
-/
def next (tokens : List Token) : Token := tokens.headD missing

/-- Kind, quoted lexeme and place, as in `IDENT "x" 1:5`. -/
def text (token : Token) : Text :=
  token.kind.text ++ Text.ofString " " ++ token.lexeme.quote ++ Text.ofString " " ++
    token.span.start.text

/-- How a message refers to a token. It is quoted as it is spelled, and the end of the input is
named. -/
def describe (token : Token) : Text :=
  if token.kind = .endOfInput then Text.ofString "end of input"
  else Text.ofString "'" ++ token.lexeme ++ Text.ofString "'"

end Token

end Astro
