import Astro.Proofs.Parsing
import Astro.Proofs.Pieces
import Astro.Proofs.Sessions

/-!
# Names in programs are words

A word starts with a letter and goes on with letters, digits and underscores. The
tokens that can stand for names are spelled by words, and the one reserved word has
a kind of its own. So whatever a program that is read from a text assigns to is
called by a word, and by the reserved one only where the dialect gives it up.
-/

namespace Astro

/-- A letter, and behind it letters, digits and underscores. -/
def Text.IsWord (word : Text) : Prop :=
  ∃ first rest, word = ofChars (first :: rest) ∧ isLetter first = true ∧
    ∀ c ∈ rest, isLetter c = true ∨ c.isDigit = true ∨ c = '_'

namespace Piece

/-- No punctuation character is a word. -/
theorem ofSymbol?_not_word (c : Char) :
    (Token.Kind.ofSymbol? c).getD .illegal ≠ .name ∧
      (Token.Kind.ofSymbol? c).getD .illegal ≠ .printWord := by
  unfold Token.Kind.ofSymbol?
  split <;> decide

/-- A piece that is a name or the reserved word is spelled by a word, and which of
the two it is depends on its spelling. -/
theorem Cut.isWord {first : Glyph} {rest : List Glyph} {kind : Token.Kind} {length : Nat}
    (decided : Cut first rest (some kind) length) (named : kind = .name ∨ kind = .printWord) :
    Text.IsWord (lexeme ⟨some kind, first :: rest.take length⟩) ∧
      kind = .ofWord (lexeme ⟨some kind, first :: rest.take length⟩) := by
  cases first with
  | stray byte =>
    obtain ⟨illegal, -⟩ := decided.stray
    cases illegal
    rcases named with same | same <;> cases same
  | char c =>
    have spelled := @lexeme_eq_ofGlyphs ⟨some kind, .char c :: rest.take length⟩ decided.whole
    rw [spelled]
    cases decided with
    | number digit => rcases named with same | same <;> cases same
    | power star again => rcases named with same | same <;> cases same
    | symbol noBlank noComment noDigit noWord =>
      obtain ⟨noName, noPrint⟩ := ofSymbol?_not_word (Glyph.char c).value
      rcases named with same | same
      · exact absurd same noName
      · exact absurd same noPrint
    | word starts =>
      refine ⟨⟨c, (rest.take (countWhile continuesWord rest)).map Glyph.value, ?_, starts, ?_⟩, rfl⟩
      · exact spelled.symm
      · intro inner member
        obtain ⟨glyph, taken, rfl⟩ := List.mem_map.mp member
        rw [take_countWhile] at taken
        have continues := List.mem_takeWhile_imp taken
        simpa [continuesWord, startsWord, isDigit, or_assoc] using continues

end Piece

namespace Token

/-- Each token that is placed stands for a piece, or ends the input.

Proof: induction on the pieces. Layout gives no token, and any other piece one with its kind and
its lexeme. -/
theorem exists_piece_of_mem {start : Position} {pieces : List Piece} {token : Token}
    (member : token ∈ place start pieces) :
    token.kind = .endOfInput ∨
      ∃ piece ∈ pieces, piece.kind = some token.kind ∧ token.lexeme = piece.lexeme := by
  induction pieces generalizing start with
  | nil =>
    rw [place, List.mem_singleton] at member
    exact .inl (member ▸ rfl)
  | cons piece rest others =>
    have later (behind : token ∈ place (start.after piece.glyphs) rest) :=
      (others behind).imp_right fun ⟨found, among, same⟩ =>
        (⟨found, List.mem_cons_of_mem piece among, same⟩ :
          ∃ found ∈ piece :: rest, found.kind = some token.kind ∧ token.lexeme = found.lexeme)
    rw [place] at member
    cases sort : piece.kind with
    | none =>
      rw [sort] at member
      exact later member
    | some kind =>
      rw [sort] at member
      rcases List.mem_cons.mp member with rfl | behind
      · exact .inr ⟨piece, List.mem_cons_self, sort, rfl⟩
      · exact later behind

/-- The tokens of a text that can be names are spelled by words. Such a token was cut off as a
word, and its kind was chosen by its lexeme. -/
theorem isWord_of_mem {text : Text} {token : Token} (member : token ∈ ofText text)
    (named : token.kind = .name ∨ token.kind = .printWord) :
    token.lexeme.IsWord ∧ token.kind = .ofWord token.lexeme := by
  rcases exists_piece_of_mem member with ends | ⟨piece, among, sort, spelled⟩
  · rw [ends] at named
    rcases named with same | same <;> cases same
  · obtain ⟨first, rest, length, decided, glyphs⟩ := Piece.exists_cut_of_mem among
    rw [sort] at decided
    have shown := decided.isWord named
    have same : piece = ⟨some token.kind, first :: rest.take length⟩ := by
      cases piece
      cases sort
      cases glyphs
      rfl
    rwa [← same, ← spelled] at shown

end Token

/-- What a program may assign to: a word, and the reserved one only where `print` is a
procedure. -/
def Stmt.Worded (dialect : Dialect) : Stmt → Prop
  | .assign _ target _ =>
    target.text.IsWord ∧ (target.text = Text.ofString "print" → dialect.print = .procedure)
  | _ => True

/-- Each statement of a derived program is derived from a stretch of its tokens. -/
theorem Grammar.Body.exists_statement {dialect : Dialect} {tokens : List Token} {body : List Stmt}
    (derived : Body dialect tokens body) {stmt : Stmt} (member : stmt ∈ body) :
    ∃ part, part <:+: tokens ∧ Statement dialect part stmt := by
  induction derived with
  | @last tokens only derivation =>
    rw [List.mem_singleton] at member
    exact ⟨tokens, List.infix_rfl, member ▸ derivation⟩
  | @more first rest earlier body before behind others =>
    rcases List.mem_cons.mp member with rfl | later
    · exact ⟨first, (List.prefix_append first rest).isInfix, before⟩
    · obtain ⟨part, within, derivation⟩ := others later
      exact ⟨part, within.trans (List.suffix_append first rest).isInfix, derivation⟩

/-- A statement that is derived from tokens of a text assigns to a word. The target is a name
token. If it is the reserved word, the dialect has that as the name of a procedure. -/
theorem Grammar.Statement.worded {dialect : Dialect} {text : Text} {part : List Token} {stmt : Stmt}
    (derived : Statement dialect part stmt) (within : part ⊆ Token.ofText text) :
    stmt.Worded dialect := by
  cases derived with
  | @assign name sign ending inner value named assigns assigned ends =>
    have member : name ∈ Token.ofText text := within List.mem_cons_self
    obtain ⟨word, sort⟩ := Token.isWord_of_mem member (named.imp_right And.left)
    refine ⟨word, fun reserved => ?_⟩
    rcases named with ordinary | ⟨-, procedure⟩
    · have same : name.lexeme = Text.ofString "print" := reserved
      rw [ordinary, same] at sort
      cases sort
    · exact procedure
  | call => trivial
  | print => trivial

/-- A text that is parsed has its program derived from its tokens. -/
theorem Session.body_of_parse {dialect : Dialect} {source : Text} {program : Program}
    (parsed : parse dialect source = .ok program) :
    Grammar.Body dialect (Token.beforeEnd (Token.ofText source)) program.body := by
  refine (Program.ofTokens_iff_body dialect _ program.body).mp ?_
  rw [ofTokens_of_parse parsed]
  exact ⟨rfl, rfl⟩

/-- Each statement of a program that is read from a text is derived from a stretch of the
tokens of that text. -/
theorem Session.exists_statement {dialect : Dialect} {source : Text} {program : Program}
    (parsed : parse dialect source = .ok program) {stmt : Stmt} (member : stmt ∈ program.body) :
    ∃ part, part <:+: Token.ofText source ∧ Grammar.Statement dialect part stmt := by
  obtain ⟨part, within, derived⟩ := (body_of_parse parsed).exists_statement member
  exact ⟨part, within.trans (List.takeWhile_prefix _).isInfix, derived⟩

/-- A program that is read from a text assigns to words only. -/
theorem Session.worded_of_parse {dialect : Dialect} {source : Text} {program : Program}
    (parsed : parse dialect source = .ok program) : ∀ stmt ∈ program.body, stmt.Worded dialect := by
  intro stmt member
  obtain ⟨part, within, derived⟩ := exists_statement parsed member
  exact derived.worded within.subset

end Astro
