import Astro.Proofs.ErrorPlaces
import Astro.Proofs.LongestMatch
import Astro.Proofs.Recovery
import Mathlib.Data.List.Flatten

/-!
# Spans of trees

Parentheses and layout leave no trace in a tree, but the spans of its nodes still follow
it: the span of a node holds those of its parts, which stand one behind another. Names and
numerals are what the text has under their spans, the span of a call's arguments lies
between the parentheses of the call, and a statement reaches from its first token to its
semicolon (`Program.Anchored`). All of this holds of the statements that are read even when
others are refused.

Every span of a derived tree starts where one of its tokens does and ends where one of them
does (`Span.Along`). The tokens of a text stand one behind another, so spans along two
stretches of them stand like the stretches.
-/

namespace Astro

namespace Span

/-- A span ends before another one starts. The second may start where the first one ends. -/
def Before (first second : Span) : Prop := first.stop.offset ≤ second.start.offset

/-- The span of a node with those of its parts: it is not empty, they lie within it, and
they stand one behind another. -/
structure Holds (span : Span) (parts : List Span) : Prop where
  proper : span.start.offset < span.stop.offset
  within : ∀ part ∈ parts, part.Within span
  inOrder : parts.Pairwise Before

/-- A span starts where one of some tokens does, and ends where one of them does. -/
structure Along (span : Span) (tokens : List Token) : Prop where
  start : ∃ token ∈ tokens, span.start = token.span.start
  stop : ∃ token ∈ tokens, span.stop = token.span.stop

end Span

/-- A name is what the text has under its span. -/
structure Name.Anchored (text : Text) (name : Name) : Prop where
  holds : name.span.Holds []
  spelled : text.under name.span = name.text

/-- A call in a text by its tokens: the callee, the parentheses and what they enclose. The
span of the arguments lies between the parentheses and holds every argument. -/
structure Call.Enclosed (dialect : Dialect) (text : Text) (called : Call) (name opening : Token)
    (within : List Token) (closing : Token) : Prop where
  written : name :: opening :: (within ++ [closing]) <:+: Token.ofText text
  callee : called.callee = Name.ofToken name
  opens : opening.kind = .leftParen
  listed : Grammar.Arguments dialect within called.args
  closes : closing.kind = .rightParen
  reaches : called.span = ⟨name.span.start, closing.span.stop⟩
  opened : opening.span.Before called.argsSpan
  ordered : called.argsSpan.start.offset ≤ called.argsSpan.stop.offset
  closed : called.argsSpan.Before closing.span
  holds : ∀ arg ∈ called.args, arg.span.Within called.argsSpan

/-- The spans of an expression follow the expression and the text. -/
inductive Expr.Anchored (dialect : Dialect) (text : Text) : Expr → Prop where
  | name {occurrence : Name} (named : occurrence.Anchored text) :
      Anchored dialect text (.name occurrence)
  | numeral {span : Span} {raw : Text} {value : Float} (holds : span.Holds [])
      (spelled : text.under span = raw) : Anchored dialect text (.numeral span raw value)
  | unary {span : Span} {op : Token.Kind} {operand : Expr} (holds : span.Holds [operand.span])
      (below : Anchored dialect text operand) : Anchored dialect text (.unary span op operand)
  | binary {span : Span} {op : Token.Kind} {left right : Expr}
      (holds : span.Holds [left.span, right.span])
      (reaches : span = ⟨left.span.start, right.span.stop⟩)
      (before : Anchored dialect text left) (behind : Anchored dialect text right) :
      Anchored dialect text (.binary span op left right)
  | call {span argsSpan : Span} {callee : Name} {args : List Expr}
      (holds : span.Holds (callee.span :: args.map Expr.span)) (named : callee.Anchored text)
      (enclosed : ∃ name opening within closing,
        Call.Enclosed dialect text ⟨span, callee, args, argsSpan⟩ name opening within closing)
      (below : ∀ arg ∈ args, Anchored dialect text arg) :
      Anchored dialect text (.call span callee args argsSpan)

/-- The spans of a statement follow the statement and the text. -/
inductive Stmt.Anchored (dialect : Dialect) (text : Text) : Stmt → Prop where
  | assign {span : Span} {target : Name} {value : Expr}
      (holds : span.Holds [target.span, value.span]) (named : target.Anchored text)
      (below : value.Anchored dialect text) : Anchored dialect text (.assign span target value)
  | call {span : Span} {called : Call} (holds : span.Holds [called.span])
      (below : called.toExpr.Anchored dialect text) : Anchored dialect text (.call span called)
  | print {span : Span} {value : Expr} (holds : span.Holds [value.span])
      (below : value.Anchored dialect text) : Anchored dialect text (.print span value)

/-- A statement reaches from the first of its tokens to its semicolon. -/
structure Stmt.Delimited (dialect : Dialect) (tokens : List Token) (stmt : Stmt)
    (first : Token) (within : List Token) (ending : Token) : Prop where
  derived : Grammar.Statement dialect tokens stmt
  split : tokens = first :: (within ++ [ending])
  ends : ending.kind = .semicolon
  reaches : stmt.span = ⟨first.span.start, ending.span.stop⟩

/-- The spans of a program follow the program and the text. Its own span may be empty. -/
structure Program.Anchored (dialect : Dialect) (text : Text) (program : Program) : Prop where
  start : program.span.start = (Token.next (Token.ofText text)).span.start
  stop : program.span.stop.offset = text.length
  within : ∀ stmt ∈ program.body, stmt.span.Within program.span
  inOrder : (program.body.map Stmt.span).Pairwise Span.Before
  below : ∀ stmt ∈ program.body, stmt.Anchored dialect text
  /-- Each statement has a segment of the tokens for itself. -/
  delimited : ∀ stmt ∈ program.body,
    ∃ segment ∈ Token.segments (Token.beforeEnd (Token.ofText text)),
      ∃ first within ending, stmt.Delimited dialect segment first within ending

/-! ### Spans along tokens of a text -/

/-- A token that does not end the input covers a byte, so that its span is not empty. -/
theorem Token.proper_of_mem {text : Text} {token : Token} (member : token ∈ ofText text)
    (going : token.kind ≠ .endOfInput) : token.span.start.offset < token.span.stop.offset := by
  obtain ⟨first, rest, scanned⟩ := exists_scannedFrom member going
  have width : 0 < first.bytes.length := List.length_pos_iff.mpr first.bytes_ne_nil
  have bytes : Text.ofGlyphs ((first :: rest).take (Piece.extent first rest + 1)) =
      first.bytes ++ Text.ofGlyphs (rest.take (Piece.extent first rest)) := rfl
  rw [scanned.width, bytes, List.length_append]
  omega

namespace Span

variable {text : Text} {span : Span} {tokens : List Token}

/-- A span along some tokens is along more of them as well. -/
theorem Along.wider {more : List Token} (along : span.Along tokens) (subset : tokens ⊆ more) :
    span.Along more := by
  obtain ⟨⟨first, among, start⟩, ⟨last, alsoAmong, stop⟩⟩ := along
  exact ⟨⟨first, subset among, start⟩, ⟨last, subset alsoAmong, stop⟩⟩

/-- The span of a token is along any tokens that it is one of. -/
theorem along_of_mem {token : Token} (member : token ∈ tokens) : token.span.Along tokens :=
  ⟨⟨token, member, rfl⟩, ⟨token, member, rfl⟩⟩

/-- Spans along tokens in two stretches stand like the stretches: the first ends before the second
starts. -/
theorem Along.before {other : Span} {front back : List Token}
    (written : (front ++ back).Sublist (Token.ofText text)) (first : span.Along front)
    (second : other.Along back) : span.Before other := by
  obtain ⟨earlier, inFront, stop⟩ := first.stop
  obtain ⟨later, inBack, start⟩ := second.start
  have inOrder := (Token.inOrder_place .start text.glyphs).sublist written
  have before := (List.pairwise_append.mp inOrder).2.2 earlier inFront later inBack
  rw [Before, stop, start]
  exact before

/-- A span along tokens starts no earlier than the first of them. -/
theorem Along.start_le {first : Token} {rest : List Token}
    (written : first :: rest <:+: Token.ofText text) (along : span.Along (first :: rest)) :
    first.span.start.offset ≤ span.start.offset := by
  obtain ⟨token, member, start⟩ := along.start
  rw [start]
  exact Token.first_start_le written member

/-- A span along tokens ends no later than the last of them. -/
theorem Along.le_stop {front : List Token} {last : Token}
    (written : front ++ [last] <:+: Token.ofText text) (along : span.Along (front ++ [last])) :
    span.stop.offset ≤ last.span.stop.offset := by
  obtain ⟨token, member, stop⟩ := along.stop
  rw [stop]
  exact Token.stop_le_last written member

/-- A span along the tokens between two others lies within those. -/
theorem Along.within {first last : Token} {inner : List Token}
    (written : first :: (inner ++ [last]) <:+: Token.ofText text)
    (along : span.Along (first :: (inner ++ [last]))) :
    span.Within ⟨first.span.start, last.span.stop⟩ := by
  constructor
  · exact along.start_le written
  · rw [← List.cons_append] at written along
    exact along.le_stop written

/-- The join of two spans, the first of which ends before the second starts, reaches from the
start of the one to the end of the other. No case of the join but this one occurs in a program. -/
theorem join_of_before {first second : Span} (before : first.Before second)
    (firstProper : first.start.offset < first.stop.offset)
    (secondProper : second.start.offset < second.stop.offset) :
    first.join second = ⟨first.start, second.stop⟩ := by
  unfold Before at before
  have start : ¬ second.start.offset < first.start.offset := by omega
  have stop : first.stop.offset < second.stop.offset := by omega
  rw [join, if_neg start, if_pos stop]

/-- The span of tokens in a row holds spans along them that stand one behind another. -/
theorem holds_between {first last : Token} {inner : List Token} {parts : List Span}
    (written : first :: (inner ++ [last]) <:+: Token.ofText text)
    (going : first.kind ≠ .endOfInput)
    (along : ∀ part ∈ parts, part.Along (first :: (inner ++ [last])))
    (inOrder : parts.Pairwise Before) : Holds ⟨first.span.start, last.span.stop⟩ parts := by
  constructor
  · have proper := Token.proper_of_mem (written.subset List.mem_cons_self) going
    have inside := (along_of_mem List.mem_cons_self).within written
    exact Int.lt_of_lt_of_le proper inside.2
  · intro part member
    exact (along part member).within written
  · exact inOrder

/-- A span without parts holds them when it is not empty, as that of a numeral and of a name. -/
theorem holds_nil (proper : span.start.offset < span.stop.offset) : span.Holds [] :=
  ⟨proper, List.forall_mem_nil _, List.Pairwise.nil⟩

end Span

/-- The span of an anchored expression is not empty, whatever node it is. -/
theorem Expr.Anchored.proper {dialect : Dialect} {text : Text} {tree : Expr}
    (anchored : tree.Anchored dialect text) : tree.span.start.offset < tree.span.stop.offset := by
  cases anchored with
  | name named => exact named.holds.proper
  | numeral holds spelled => exact holds.proper
  | unary holds below => exact holds.proper
  | binary holds reaches before behind => exact holds.proper
  | call holds named enclosed below => exact holds.proper

/-! ### Derived trees -/

namespace Grammar

variable {dialect : Dialect} {text : Text} {tokens : List Token}

/-- An expression stands along some tokens, and its spans follow it. -/
structure Stands (dialect : Dialect) (text : Text) (tokens : List Token) (tree : Expr) : Prop where
  along : tree.span.Along tokens
  anchored : tree.Anchored dialect text

/-- Expressions stand along some tokens, one behind another. Their order is that in which they are
written. -/
structure StandAll (dialect : Dialect) (text : Text) (tokens : List Token) (args : List Expr) :
    Prop where
  each : ∀ arg ∈ args, Stands dialect text tokens arg
  inOrder : (args.map Expr.span).Pairwise Span.Before

/-- An expression that stands along some tokens stands along more of them as well. -/
theorem Stands.wider {more : List Token} {tree : Expr} (stands : Stands dialect text tokens tree)
    (subset : tokens ⊆ more) : Stands dialect text more tree :=
  ⟨stands.along.wider subset, stands.anchored⟩

/-- A name among the tokens of a text is anchored: the bytes under its span are its own, and they
are a word. -/
theorem IsName.anchored {token : Token} (named : IsName dialect token)
    (member : token ∈ Token.ofText text) : (Name.ofToken token).Anchored text := by
  have going : token.kind ≠ .endOfInput := (Reading.inside_of_isName named).2
  constructor
  · exact Span.holds_nil (Token.proper_of_mem member going)
  · exact Token.under_of_mem member named.legal

/-- What stands before and behind a token of a text stands in the text, in one stretch each. -/
theorem written_around {first last : List Token} {op : Token}
    (written : first ++ op :: last <:+: Token.ofText text) :
    first <:+: Token.ofText text ∧ last <:+: Token.ofText text := by
  constructor
  · exact (List.prefix_append first (op :: last)).isInfix.trans written
  · have behind : last <:+ first ++ op :: last :=
      (List.suffix_cons op last).trans (List.suffix_append first (op :: last))
    exact behind.isInfix.trans written

/-- Two operands that stand along the tokens before and behind an operator are joined along all of
them. The operator's token is part of what the join stands along, and it keeps the two operands
apart. -/
theorem Stands.join {first last : List Token} {op : Token} {left right : Expr}
    (written : first ++ op :: last <:+: Token.ofText text)
    (before : Stands dialect text first left) (behind : Stands dialect text last right)
    (kind : Token.Kind) :
    Stands dialect text (first ++ op :: last) (Expr.join kind left right) := by
  have apart : left.span.Before right.span :=
    before.along.before written.sublist (behind.along.wider (List.subset_cons_self op last))
  have leftProper := before.anchored.proper
  have rightProper := behind.anchored.proper
  have reaches := Span.join_of_before apart leftProper rightProper
  have forward : left.span.stop.offset ≤ right.span.start.offset := apart
  have startsFirst : left.span.start.offset ≤ right.span.start.offset := by omega
  have stopsLast : left.span.stop.offset ≤ right.span.stop.offset := by omega
  constructor
  · rw [Expr.join, Expr.span, reaches]
    constructor
    · exact (before.along.wider (List.subset_append_left first (op :: last))).start
    · exact (behind.along.wider (List.subset_append_of_subset_right first
        (List.subset_cons_self op last))).stop
  · rw [Expr.join, reaches]
    refine .binary ⟨?_, ?_, ?_⟩ rfl before.anchored behind.anchored
    · exact Int.lt_of_lt_of_le leftProper stopsLast
    · intro part member
      rcases List.mem_pair.mp member with rfl | rfl
      · exact ⟨Int.le_refl _, stopsLast⟩
      · exact ⟨startsFirst, Int.le_refl _⟩
    · exact List.pairwise_pair.mpr apart

/-- The negation of an operand stands along its sign and the operand. Its span starts at the sign,
which is in front of the operand and not part of it. -/
theorem Stands.negate {sign : Token} {operand : Expr}
    (written : sign :: tokens <:+: Token.ofText text) (minus : sign.kind = .minus)
    (behind : Stands dialect text tokens operand) :
    Stands dialect text (sign :: tokens)
      (.unary ⟨sign.span.start, operand.span.stop⟩ .minus operand) := by
  have apart : sign.span.Before operand.span :=
    (Span.along_of_mem (List.mem_singleton_self sign)).before written.sublist behind.along
  have forward : sign.span.stop.offset ≤ operand.span.start.offset := apart
  have signProper : sign.span.start.offset < sign.span.stop.offset :=
    Token.proper_of_mem (written.subset List.mem_cons_self) (by simp [minus])
  have startsFirst : sign.span.start.offset < operand.span.start.offset := by omega
  constructor
  · constructor
    · exact ⟨sign, List.mem_cons_self, rfl⟩
    · exact (behind.along.wider (List.subset_cons_self sign tokens)).stop
  · refine .unary ⟨?_, ?_, List.pairwise_singleton _ _⟩ behind.anchored
    · exact Int.lt_trans startsFirst behind.anchored.proper
    · intro part member
      rw [List.mem_singleton.mp member]
      exact ⟨Int.le_of_lt startsFirst, Int.le_refl _⟩

/-- What stands along the tokens between the parentheses of a call stands within their
stretch. -/
theorem within_stretch_of_along {span : Span} {within : List Token} {closing : Token}
    (written : within ++ [closing] <:+: Token.ofText text) (along : span.Along within) :
    span.Within (Token.stretch closing within) := by
  cases within with
  | nil =>
    obtain ⟨token, member, -⟩ := along.start
    cases member
  | cons first rest =>
    have inside := (List.prefix_append (first :: rest) [closing]).isInfix.trans written
    constructor
    · exact along.start_le inside
    · have split := List.dropLast_append_getLast (List.cons_ne_nil first rest)
      rw [← split] at inside along
      exact along.le_stop inside

/-- The stretch of the arguments of a call lies between its parentheses, also when it is empty. An
empty stretch lies at the closing parenthesis. Any other one reaches from the first argument's
first token to the last one's last. -/
theorem stretch_between {opening closing : Token} {within : List Token}
    (written : opening :: (within ++ [closing]) <:+: Token.ofText text) :
    opening.span.Before (Token.stretch closing within) ∧
      (Token.stretch closing within).Before closing.span := by
  have alongOpening := Span.along_of_mem (List.mem_singleton_self opening)
  have alongClosing := Span.along_of_mem (List.mem_singleton_self closing)
  cases within with
  | nil =>
    have apart : opening.span.Before closing.span := alongOpening.before written.sublist alongClosing
    exact ⟨apart, Int.le_refl _⟩
  | cons first rest =>
    have alongArguments : (Token.stretch closing (first :: rest)).Along (first :: rest) := by
      constructor
      · exact ⟨first, List.mem_cons_self, rfl⟩
      · exact ⟨_, List.getLast_mem (List.cons_ne_nil first rest), rfl⟩
    constructor
    · exact alongOpening.before written.sublist (alongArguments.wider (List.subset_append_left _ _))
    · have among := (List.suffix_cons opening _).isInfix.trans written
      exact alongArguments.before among.sublist alongClosing

/-- A call is anchored when its arguments stand between its parentheses. Its span reaches from the
name to the closing parenthesis. The name comes first in it, and the arguments follow in their
order, all of them within the stretch between the parentheses. -/
theorem anchored_call {name opening closing : Token} {within : List Token} {args : List Expr}
    (written : name :: opening :: (within ++ [closing]) <:+: Token.ofText text)
    (named : IsName dialect name) (opens : opening.kind = .leftParen)
    (listed : Arguments dialect within args) (closes : closing.kind = .rightParen)
    (all : StandAll dialect text within args) :
    (Call.between (Name.ofToken name) within closing args).toExpr.Anchored dialect text := by
  have member : name ∈ Token.ofText text := written.subset List.mem_cons_self
  have behindName : opening :: (within ++ [closing]) <:+: Token.ofText text :=
    (List.suffix_cons name _).isInfix.trans written
  have behindOpening : within ++ [closing] <:+: Token.ofText text :=
    (List.suffix_cons opening _).isInfix.trans behindName
  have argsSpan := Call.argsSpan_between (Name.ofToken name) within closing args
  have anchored := named.anchored member
  have going : name.kind ≠ .endOfInput := (Reading.inside_of_isName named).2
  have inside : within ⊆ opening :: (within ++ [closing]) :=
    List.subset_cons_of_subset opening (List.subset_append_left within [closing])
  obtain ⟨opened, closed⟩ := stretch_between behindName
  refine .call ?_ anchored ⟨name, opening, within, closing, ?_⟩ ?_
  · refine @Span.holds_between text name closing (opening :: within) _ written going ?_ ?_
    · intro part among
      rcases List.mem_cons.mp among with rfl | behind
      · exact Span.along_of_mem List.mem_cons_self
      · obtain ⟨arg, listed, rfl⟩ := List.mem_map.mp behind
        exact (all.each arg listed).along.wider (List.subset_cons_of_subset name inside)
    · refine List.pairwise_cons.mpr ⟨?_, all.inOrder⟩
      intro part behind
      obtain ⟨arg, listed, rfl⟩ := List.mem_map.mp behind
      exact (Span.along_of_mem (List.mem_singleton_self name)).before written.sublist
        ((all.each arg listed).along.wider inside)
  · refine ⟨written, rfl, opens, listed, closes, rfl, ?_, ?_, ?_, ?_⟩
    · rw [argsSpan]
      exact opened
    · rw [argsSpan]
      exact (Token.liesIn_stretch behindOpening).ordered
    · rw [argsSpan]
      exact closed
    · intro arg among
      rw [argsSpan]
      exact within_stretch_of_along behindOpening (all.each arg among).along
  · intro arg among
    exact (all.each arg among).anchored

mutual

/-- A derived expression stands along its tokens.

Proof: induction on derivations, with one lemma for each form of phrase. The span of each node is
known from its first and last token, and its parts stand along the tokens between those. -/
theorem Expression.stands {tokens : List Token} {tree : Expr}
    (derived : Expression dialect tokens tree) (written : tokens <:+: Token.ofText text) :
    Stands dialect text tokens tree := by
  match derived with
  | .term only => exact only.stands written
  | @Expression.sum _ first last op left right before joins behind =>
    obtain ⟨front, back⟩ := written_around written
    exact (before.stands front).join written (behind.stands back) op.kind

/-- A derived term stands along its tokens. So do the factors in it, each along its own tokens. -/
theorem Term.stands {tokens : List Token} {tree : Expr} (derived : Term dialect tokens tree)
    (written : tokens <:+: Token.ofText text) : Stands dialect text tokens tree := by
  match derived with
  | .factor only => exact only.stands written
  | @Term.product _ first last op left right before joins behind =>
    obtain ⟨front, back⟩ := written_around written
    exact (before.stands front).join written (behind.stands back) op.kind

/-- A derived factor stands along its tokens, with its sign if it has one. -/
theorem Factor.stands {tokens : List Token} {tree : Expr} (derived : Factor dialect tokens tree)
    (written : tokens <:+: Token.ofText text) : Stands dialect text tokens tree := by
  match derived with
  | .primary only => exact only.stands written
  | @Factor.power _ first last op base exponent before joins behind =>
    obtain ⟨front, back⟩ := written_around written
    exact (before.stands front).join written (behind.stands back) .power
  | @Factor.negation _ sign tokens operand enabled minus behind =>
    have back := (List.suffix_cons sign tokens).isInfix.trans written
    exact (behind.stands back).negate written minus

/-- A derived primary stands along its tokens. The parentheses of a group belong to its tokens,
but not to the span of the tree. -/
theorem Primary.stands {tokens : List Token} {tree : Expr} (derived : Primary dialect tokens tree)
    (written : tokens <:+: Token.ofText text) : Stands dialect text tokens tree := by
  match derived with
  | @Primary.call _ name opening closing within args named opens listed closes =>
    have inside : within <:+: Token.ofText text :=
      List.IsInfix.trans ⟨[name, opening], [closing], rfl⟩ written
    constructor
    · constructor
      · exact ⟨name, List.mem_cons_self, rfl⟩
      · exact ⟨closing, by simp, rfl⟩
    · exact anchored_call written named opens listed closes (listed.stand inside)
  | @Primary.number _ token value numeric denotes =>
    have member : token ∈ Token.ofText text := written.subset List.mem_cons_self
    constructor
    · exact Span.along_of_mem List.mem_cons_self
    · refine .numeral (Span.holds_nil (Token.proper_of_mem member ?_)) ?_
      · simp [numeric]
      · exact Token.under_of_mem member (by simp [numeric])
  | @Primary.name _ token named =>
    constructor
    · exact Span.along_of_mem List.mem_cons_self
    · exact .name (named.anchored (written.subset List.mem_cons_self))
  | @Primary.group _ opening closing within tree opens grouped closes =>
    have inside : within <:+: Token.ofText text :=
      List.IsInfix.trans ⟨[opening], [closing], rfl⟩ written
    exact (grouped.stands inside).wider
      (List.subset_cons_of_subset opening (List.subset_append_left within [closing]))

/-- The derived arguments of a call stand along its tokens, of which there may be none. -/
theorem Arguments.stand {tokens : List Token} {args : List Expr}
    (derived : Arguments dialect tokens args) (written : tokens <:+: Token.ofText text) :
    StandAll dialect text tokens args := by
  match derived with
  | .none => exact ⟨List.forall_mem_nil _, List.Pairwise.nil⟩
  | .some listed => exact listed.stand written

/-- Derived arguments stand along their tokens, one behind another, with commas between them.

Proof: induction on the list. The first argument stands along the tokens before the comma, and the
others along those behind it. -/
theorem ArgumentList.stand {tokens : List Token} {args : List Expr}
    (derived : ArgumentList dialect tokens args) (written : tokens <:+: Token.ofText text) :
    StandAll dialect text tokens args := by
  match derived with
  | .last only =>
    exact ⟨List.forall_mem_singleton.mpr (only.stands written), List.pairwise_singleton _ _⟩
  | @ArgumentList.more _ first rest comma tree args before separates behind =>
    obtain ⟨front, back⟩ := written_around written
    have earlier := before.stands front
    have later := behind.stand back
    have beyond : rest ⊆ comma :: rest := List.subset_cons_self comma rest
    constructor
    · refine List.forall_mem_cons.mpr ⟨earlier.wider (List.subset_append_left _ _), ?_⟩
      intro arg among
      exact (later.each arg among).wider (List.subset_append_of_subset_right first beyond)
    · refine List.pairwise_cons.mpr ⟨?_, later.inOrder⟩
      intro part among
      obtain ⟨arg, listed, rfl⟩ := List.mem_map.mp among
      exact earlier.along.before written.sublist ((later.each arg listed).along.wider beyond)

end

/-- A derived statement is anchored in its text, with all expressions in it. Its span reaches from
its first token to its semicolon, and its parts lie between the two in the order in which they are
written. -/
theorem Statement.anchored {stmt : Stmt} (derived : Statement dialect tokens stmt)
    (written : tokens <:+: Token.ofText text) : stmt.Anchored dialect text := by
  cases derived with
  | @assign name sign ending within value named assigns assigned ends =>
    have stands := assigned.stands (List.IsInfix.trans ⟨[name, sign], [ending], rfl⟩ written)
    have inside : within ⊆ sign :: (within ++ [ending]) :=
      List.subset_cons_of_subset sign (List.subset_append_left within [ending])
    refine .assign ?_ (named.anchored (written.subset List.mem_cons_self)) stands.anchored
    refine @Span.holds_between text name ending (sign :: within) _ written
      (Reading.inside_of_isName named).2 ?_ ?_
    · refine List.forall_mem_cons.mpr ⟨Span.along_of_mem List.mem_cons_self, ?_⟩
      exact List.forall_mem_singleton.mpr
        (stands.along.wider (List.subset_cons_of_subset name inside))
    · have alongName := Span.along_of_mem (List.mem_singleton_self name)
      exact List.pairwise_pair.mpr (alongName.before written.sublist (stands.along.wider inside))
  | @call name opening closing ending within args named opens listed closes ends =>
    have inner : name :: opening :: (within ++ [closing]) <:+: Token.ofText text :=
      List.IsInfix.trans ⟨[], [ending], rfl⟩ written
    have stand := listed.stand (List.IsInfix.trans ⟨[name, opening], [closing], rfl⟩ inner)
    refine .call ?_ (anchored_call inner named opens listed closes stand)
    refine @Span.holds_between text name ending (opening :: (within ++ [closing])) _ written
      (Reading.inside_of_isName named).2 ?_ (List.pairwise_singleton _ _)
    refine List.forall_mem_singleton.mpr ⟨⟨name, List.mem_cons_self, rfl⟩, ⟨closing, ?_, rfl⟩⟩
    simp
  | @print word ending within value keyword prints printed ends =>
    have stands := printed.stands (List.IsInfix.trans ⟨[word], [ending], rfl⟩ written)
    refine .print ?_ stands.anchored
    refine Span.holds_between written (by simp [prints]) ?_ (List.pairwise_singleton _ _)
    exact List.forall_mem_singleton.mpr (stands.along.wider
      (List.subset_cons_of_subset word (List.subset_append_left within [ending])))

/-- A derived statement reaches from its first token to its semicolon. Its span covers both. -/
theorem Statement.delimited {stmt : Stmt} (derived : Statement dialect tokens stmt) :
    ∃ first within ending, stmt.Delimited dialect tokens first within ending := by
  cases derived with
  | @assign name sign ending within value named assigns assigned ends =>
    exact ⟨name, sign :: within, ending, .assign named assigns assigned ends, rfl, ends, rfl⟩
  | @call name opening closing ending within args named opens listed closes ends =>
    exact ⟨name, opening :: (within ++ [closing]), ending,
      .call named opens listed closes ends, rfl, ends, rfl⟩
  | @print word ending within value keyword prints printed ends =>
    exact ⟨word, within, ending, .print keyword prints printed ends, rfl, ends, rfl⟩

/-- The span of a derived statement is along its tokens. -/
theorem Statement.along {stmt : Stmt} (derived : Statement dialect tokens stmt) :
    stmt.span.Along tokens := by
  obtain ⟨first, within, ending, delimited⟩ := derived.delimited
  rw [delimited.reaches, delimited.split]
  exact ⟨⟨first, List.mem_cons_self, rfl⟩, ⟨ending, by simp, rfl⟩⟩

/-- Statements derived from parts of a text stand one behind another, like the parts. -/
theorem inOrder_of_derived {parts : List (List Token)} {body : List Stmt}
    (derived : List.Forall₂ (Statement dialect) parts body)
    (written : parts.flatten.Sublist (Token.ofText text)) :
    (body.map Stmt.span).Pairwise Span.Before := by
  induction derived with
  | nil => exact List.Pairwise.nil
  | @cons part stmt parts body first others behind =>
    rw [List.flatten_cons] at written
    refine List.pairwise_cons.mpr ⟨?_, behind ((List.sublist_append_right _ _).trans written)⟩
    intro span among
    obtain ⟨later, member, rfl⟩ := List.mem_map.mp among
    obtain ⟨segment, listed, last⟩ := Reading.exists_part others member
    exact first.along.before written
      (last.along.wider fun token inside => List.mem_flatten_of_mem listed inside)

end Grammar

/-- The end of the input stands at the end of the text, behind whatever layout is last. -/
theorem Token.stop_ending (text : Text) : (ending (ofText text)).span.stop.offset = text.length := by
  obtain ⟨words, kinds, placed⟩ := exists_words .start text.pieces
  have tokens := placed []
  rw [List.append_nil, Text.pieces, Piece.cut_glyphs] at tokens
  rw [ofText, Text.pieces, tokens, ending_append (going_of_kinds kinds)]
  change (Position.start.after text.glyphs).offset = text.length
  rw [Position.offset_after, Text.glyphs_bytes]
  exact Int.zero_add _

/-- A segment of the tokens of a text stands in the text, in one stretch. -/
theorem Token.written_of_mem_segments {text : Text} {segment : List Token}
    (member : segment ∈ segments (beforeEnd (ofText text))) : segment <:+: ofText text := by
  have inside := List.infix_of_mem_flatten member
  rw [flatten_segments] at inside
  exact inside.trans (List.takeWhile_prefix _).isInfix

namespace Program

/-- The program that is read from the tokens of a text is anchored there, whether or not some of
its statements were refused.

Proof: the trees are derived from some of the segments, in their order, and each segment stands in
the text. -/
theorem anchored_ofTokens (dialect : Dialect) (text : Text) :
    (ofTokens dialect (Token.ofText text)).1.Anchored dialect text := by
  have body := body_ofTokens dialect (Token.ofText text)
  have derived (stmt : Stmt) (member : stmt ∈ (ofTokens dialect (Token.ofText text)).1.body) :
      ∃ segment ∈ Token.segments (Token.beforeEnd (Token.ofText text)),
        Grammar.Statement dialect segment stmt := by
    rw [body] at member
    exact Reading.exists_segment_of_tree member
  have span : (ofTokens dialect (Token.ofText text)).1.span =
      ⟨(Token.next (Token.ofText text)).span.start,
        (Token.ending (Token.ofText text)).span.stop⟩ := by
    rw [ofTokens]
    split <;> rfl
  constructor
  · rw [span]
  · rw [span]
    exact Token.stop_ending text
  · intro stmt member
    obtain ⟨segment, listed, derivation⟩ := derived stmt member
    have written := Token.written_of_mem_segments listed
    have along := derivation.along.wider written.subset
    rw [span]
    constructor
    · obtain ⟨token, among, start⟩ := along.start
      obtain ⟨first, rest, tokens⟩ := List.exists_cons_of_ne_nil (List.ne_nil_of_mem among)
      rw [tokens] at along
      rw [tokens, Token.next_cons]
      have whole : first :: rest <:+: Token.ofText text := tokens ▸ List.infix_rfl
      exact along.start_le whole
    · obtain ⟨token, among, stop⟩ := along.stop
      rw [stop, Token.stop_ending]
      exact (Token.liesIn_of_mem among).stop.bounded.2
  · rw [body]
    obtain ⟨parts, among, all⟩ := Reading.exists_derived_segments dialect (Token.ofText text)
    have written : parts.flatten.Sublist (Token.ofText text) := by
      have before := among.flatten
      rw [Token.flatten_segments] at before
      exact before.trans (List.takeWhile_sublist _)
    exact Grammar.inOrder_of_derived all written
  · intro stmt member
    obtain ⟨segment, listed, derivation⟩ := derived stmt member
    exact derivation.anchored (Token.written_of_mem_segments listed)
  · intro stmt member
    obtain ⟨segment, listed, derivation⟩ := derived stmt member
    exact ⟨segment, listed, derivation.delimited⟩

/-- The spans of a program are well nested and anchored in its text. A text without illegal
characters is read as a program whose spans follow the program and the text, whatever is
wrong with some of its statements. -/
theorem ofText_anchored (dialect : Dialect) (text : Text)
    (legal : Token.problems (Token.ofText text) = []) :
    ∃ program, (ofText dialect text).1 = some program ∧ program.Anchored dialect text := by
  refine ⟨(ofTokens dialect (Token.ofText text)).1, ?_, anchored_ofTokens dialect text⟩
  rw [ofText, legal]

/-- Behind a statement that is refused, the next one is anchored. -/
theorem ofText_anchored_recovered :
    ∃ text : Text, text = Text.ofString "x y; π=f( (2), -z );" ∧
      Token.problems (Token.ofText text) = [] ∧
      ∃ program, (ofText .full text).1 = some program ∧ program.Anchored .full text := by
  have legal : Token.problems (Token.ofText (Text.ofString "x y; π=f( (2), -z );")) = [] := by
    decide +kernel
  exact ⟨_, rfl, legal, ofText_anchored .full _ legal⟩

end Program

end Astro
