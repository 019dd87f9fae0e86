import Astro.Proofs.Bindings
import Astro.Proofs.Outputs
import Mathlib.Data.List.Forall2

/-!
# Printing by keyword and by procedure

Where `print` is a keyword, an expression stands behind it; where it is a procedure,
arguments in parentheses do. A text that is a program either way only ever prints what
stands in one pair of parentheses, so that the one argument of the call is the expression
that the keyword prints. Everything else in such a text is read in the same way, and
nowhere does it mention `print`.

So the two ways do the same when they run on outputs that behave the same: they write the
same, fail in the same way at the same place, and keep the same names bound, apart from
`print` itself. The outputs need not be of one kind. The trace is left out of account,
because it tells calls from other statements.
-/

namespace Astro

namespace Grammar

/-- A dialect has all the names and operators of another one. -/
structure Widens (narrow wide : Dialect) : Prop where
  names : ∀ token, IsName narrow token → IsName wide token
  modulo : narrow.modulo = true → wide.modulo = true
  negation : narrow.negation = true → wide.negation = true

section Widening

variable {narrow wide : Dialect}

mutual

/-- What a dialect derives as an expression, a wider one derives with the same tree.

Proof: induction on derivations, with one lemma for each form of phrase. A rule asks no more of a
dialect than the names and the features that the wider one has as well. -/
theorem Expression.widen (widens : Widens narrow wide) {tokens : List Token} {tree : Expr}
    (derived : Expression narrow tokens tree) : Expression wide tokens tree := by
  match derived with
  | .term only => exact .term (only.widen widens)
  | .sum before joins behind => exact .sum (before.widen widens) joins (behind.widen widens)

/-- What a dialect derives as a term, a wider one derives with the same tree. -/
theorem Term.widen (widens : Widens narrow wide) {tokens : List Token} {tree : Expr}
    (derived : Term narrow tokens tree) : Term wide tokens tree := by
  match derived with
  | .factor only => exact .factor (only.widen widens)
  | .product before joins behind =>
    refine .product (before.widen widens) ?_ (behind.widen widens)
    exact joins.imp_right (Or.imp_right (And.imp_right widens.modulo))

/-- What a dialect derives as a factor, a wider one derives with the same tree. -/
theorem Factor.widen (widens : Widens narrow wide) {tokens : List Token} {tree : Expr}
    (derived : Factor narrow tokens tree) : Factor wide tokens tree := by
  match derived with
  | .power before joins behind => exact .power (before.widen widens) joins (behind.widen widens)
  | .negation enabled minus behind =>
    exact .negation (widens.negation enabled) minus (behind.widen widens)
  | .primary only => exact .primary (only.widen widens)

/-- What a dialect derives as a primary, a wider one derives with the same tree. A name may be one
more name there, but it is no less one. -/
theorem Primary.widen (widens : Widens narrow wide) {tokens : List Token} {tree : Expr}
    (derived : Primary narrow tokens tree) : Primary wide tokens tree := by
  match derived with
  | .call named opens listed closes =>
    exact .call (widens.names _ named) opens (listed.widen widens) closes
  | .number numeric denotes => exact .number numeric denotes
  | .name named => exact .name (widens.names _ named)
  | .group opens grouped closes => exact .group opens (grouped.widen widens) closes

/-- What a dialect derives as the arguments of a call, a wider one derives with the same trees. -/
theorem Arguments.widen (widens : Widens narrow wide) {tokens : List Token} {args : List Expr}
    (derived : Arguments narrow tokens args) : Arguments wide tokens args := by
  match derived with
  | .none => exact .none
  | .some listed => exact .some (listed.widen widens)

/-- What a dialect derives as a list of arguments, a wider one derives with the same trees. -/
theorem ArgumentList.widen (widens : Widens narrow wide) {tokens : List Token} {args : List Expr}
    (derived : ArgumentList narrow tokens args) : ArgumentList wide tokens args := by
  match derived with
  | .last only => exact .last (only.widen widens)
  | .more before separates behind =>
    exact .more (before.widen widens) separates (behind.widen widens)

end

end Widening

/-- Two tables bind the names among some tokens in the same way. -/
def BindAlike (dialect : Dialect) (first second : Table) (tokens : List Token) : Prop :=
  ∀ token ∈ tokens, IsName dialect token →
    second.lookup? token.lexeme = first.lookup? token.lexeme

/-- Tables that bind some tokens alike do so with fewer of them, as the parts of a phrase are. -/
theorem BindAlike.subset {dialect : Dialect} {first second : Table} {tokens fewer : List Token}
    (alike : BindAlike dialect first second tokens) (among : fewer ⊆ tokens) :
    BindAlike dialect first second fewer :=
  fun token member named => alike token (among member) named

section Evaluation

variable {dialect : Dialect} {first second : Table}

/-- A name among the tokens is resolved alike, or is unbound in both tables and fails alike. -/
theorem BindAlike.resolve_eq {tokens : List Token}
    (alike : BindAlike dialect first second tokens) {token : Token} (member : token ∈ tokens)
    (named : IsName dialect token) :
    second.resolve (Name.ofToken token) = first.resolve (Name.ofToken token) := by
  simp only [Table.resolve, Name.ofToken, alike token member named]

/-- Two operands that have the same value have it also when they are joined, whatever the operator
does with them. -/
theorem BindAlike.join_eq {front back : List Token} {op : Token} {kind : Token.Kind}
    {left right : Expr} (alike : BindAlike dialect first second (front ++ op :: back))
    (before : BindAlike dialect first second front → left.evaluate second = left.evaluate first)
    (behind : BindAlike dialect first second back → right.evaluate second = right.evaluate first) :
    (Expr.join kind left right).evaluate second = (Expr.join kind left right).evaluate first := by
  rw [Expr.join, Expr.evaluate, Expr.evaluate, before (alike.subset (by simp)),
    behind (alike.subset (by simp))]

mutual

/-- The value of an expression depends only on what the names in it are bound to.

Proof: induction on derivations rather than on trees, because the names of a tree are known to be
among the tokens only through its derivation. -/
theorem Expression.evaluate_eq {tokens : List Token} {tree : Expr}
    (derived : Expression dialect tokens tree) (alike : BindAlike dialect first second tokens) :
    tree.evaluate second = tree.evaluate first := by
  match derived with
  | .term only => exact only.evaluate_eq alike
  | .sum before joins behind =>
    exact alike.join_eq before.evaluate_eq behind.evaluate_eq

/-- The value of a term depends only on what the names in it are bound to. -/
theorem Term.evaluate_eq {tokens : List Token} {tree : Expr}
    (derived : Term dialect tokens tree) (alike : BindAlike dialect first second tokens) :
    tree.evaluate second = tree.evaluate first := by
  match derived with
  | .factor only => exact only.evaluate_eq alike
  | .product before joins behind =>
    exact alike.join_eq before.evaluate_eq behind.evaluate_eq

/-- The value of a factor depends only on what the names in it are bound to. -/
theorem Factor.evaluate_eq {tokens : List Token} {tree : Expr}
    (derived : Factor dialect tokens tree) (alike : BindAlike dialect first second tokens) :
    tree.evaluate second = tree.evaluate first := by
  match derived with
  | .power before joins behind =>
    exact alike.join_eq before.evaluate_eq behind.evaluate_eq
  | .negation enabled minus behind =>
    rw [Expr.evaluate, Expr.evaluate, behind.evaluate_eq (alike.subset (by simp))]
  | .primary only => exact only.evaluate_eq alike

/-- The value of a primary depends only on what the names in it are bound to. Only here is a table
looked at, for a name and for a callee. -/
theorem Primary.evaluate_eq {tokens : List Token} {tree : Expr}
    (derived : Primary dialect tokens tree) (alike : BindAlike dialect first second tokens) :
    tree.evaluate second = tree.evaluate first := by
  match derived with
  | .call named opens listed closes =>
    have inside := listed.evaluateAll_eq (alike.subset (by grind))
    have callee := alike.resolve_eq List.mem_cons_self named
    simp only [Call.toExpr, Call.between, Expr.evaluate, inside, Table.applyFunction, callee]
  | .number numeric denotes => rfl
  | .name named =>
    have callee := alike.resolve_eq List.mem_cons_self named
    simp only [Expr.evaluate, Table.valueOf, callee]
  | .group opens grouped closes => exact grouped.evaluate_eq (alike.subset (by grind))

/-- The values of the arguments of a call depend only on what the names in them are bound to. -/
theorem Arguments.evaluateAll_eq {tokens : List Token} {args : List Expr}
    (derived : Arguments dialect tokens args) (alike : BindAlike dialect first second tokens) :
    Expr.evaluateAll second args = Expr.evaluateAll first args := by
  match derived with
  | .none => rfl
  | .some listed => exact listed.evaluateAll_eq alike

/-- The values of a list of arguments depend only on what the names in them are bound to. -/
theorem ArgumentList.evaluateAll_eq {tokens : List Token} {args : List Expr}
    (derived : ArgumentList dialect tokens args) (alike : BindAlike dialect first second tokens) :
    Expr.evaluateAll second args = Expr.evaluateAll first args := by
  match derived with
  | .last only =>
    rw [Expr.evaluateAll, Expr.evaluateAll, only.evaluate_eq alike]
    rfl
  | .more before separates behind =>
    rw [Expr.evaluateAll, Expr.evaluateAll, before.evaluate_eq (alike.subset (by simp)),
      behind.evaluateAll_eq (alike.subset (by simp))]

end

/-- What a statement does depends only on what the names in it are bound to, its target and its
callee among them. -/
theorem Statement.action_eq {tokens : List Token} {stmt : Stmt}
    (derived : Statement dialect tokens stmt) (alike : BindAlike dialect first second tokens) :
    stmt.action second = stmt.action first := by
  cases derived with
  | @assign name sign ending within value named assigns assigned ends =>
    have inside := assigned.evaluate_eq (alike.subset (by grind))
    have target := alike name List.mem_cons_self named
    simp only [Stmt.action, inside, Table.checkAssignable, Name.ofToken, target]
  | call named opens listed closes ends =>
    have inside := listed.evaluateAll_eq (alike.subset (by grind))
    have callee := alike.resolve_eq List.mem_cons_self named
    simp only [Stmt.action, Call.between, inside, Table.performProcedure, callee]
  | print keyword prints printed ends =>
    have inside := printed.evaluate_eq (alike.subset (by grind))
    simp only [Stmt.action, inside]

end Evaluation

end Grammar

namespace Reading

/-- Two walks over the same tokens come to the same, although each of them knows only the tokens
that it uses. -/
theorem Walk.result_eq {dialect : Dialect} {phrase : Phrase} {used other : List Token}
    {result another : Except Diagnostic phrase.Tree} (rest behind : List Token)
    (first : Walk dialect phrase used (Token.next rest) result)
    (second : Walk dialect phrase other (Token.next behind) another)
    (split : used ++ rest = other ++ behind) : result = another := by
  have outcome := first.outcome_eq .nowhere rest rfl
  rw [split, second.outcome_eq .nowhere behind rfl] at outcome
  cases result with
  | ok tree =>
    cases another with
    | ok other =>
      injection outcome with same
      rw [same]
    | error problem => cases outcome
  | error problem =>
    cases another with
    | ok other => cases outcome
    | error reason =>
      injection outcome with same
      rw [same]

/-- An expression is refused with its first primary, at every level, if it does not start with a
sign. -/
theorem Walk.refused_of_primary {dialect : Dialect} {used : List Token} {ahead : Token}
    {problem : Diagnostic} (unsigned : (Token.next (used ++ [ahead])).kind ≠ .minus)
    (primary : Walk dialect .primary used ahead (.error problem)) :
    Walk dialect (.level .expression) used ahead (.error problem) := by
  have factor := Walk.baseRefused unsigned primary
  have term : Walk dialect (.level .term) used ahead (.error problem) :=
    @Walk.operandRefused dialect .product _ _ _ factor
  exact @Walk.operandRefused dialect .sum _ _ _ term

end Reading

namespace Grammar

open Reading

/-- What is both an expression and a list of arguments in parentheses has one argument, which is
that expression.

Proof: by cases on the arguments. Two walks over the same tokens come to the same. Without an
argument, and with a comma behind the first one, there is a walk that is refused, but that of the
expression is not. A single argument in parentheses is an expression over the same tokens. -/
theorem Expression.arguments_eq {dialect : Dialect} {opening closing : Token} {within : List Token}
    {value : Expr} {args : List Expr} (opens : opening.kind = .leftParen)
    (closes : closing.kind = .rightParen)
    (whole : Expression dialect (opening :: (within ++ [closing])) value)
    (listed : Arguments dialect within args) : args = [value] := by
  have read := whole.extends.walkTo (.inl closes)
  have unsigned (used : List Token) (ahead : Token) :
      (Token.next (opening :: used ++ [ahead])).kind ≠ .minus := by
    simp [opens]
  cases listed with
  | none =>
    have nothing : Walk dialect .primary [] closing _ :=
      .noPrimary (by simp [closes]) (by simp [IsName, closes]) (by simp [closes])
    have inside := Walk.refused_of_primary (by simp [closes]) nothing
    have refused := Walk.refused_of_primary (unsigned _ _) (.groupRefused opens inside)
    cases Walk.result_eq [closing] [closing, closing] read refused rfl
  | some listed =>
    cases listed with
    | @last tokens tree only =>
      have group : Expression dialect (opening :: (within ++ [closing])) tree :=
        .term (.factor (.primary (.group opens only closes)))
      have again := group.extends.walkTo (.inl closes)
      cases Walk.result_eq [closing] [closing] read again rfl
      rfl
    | @more first rest comma tree args before separates behind =>
      have inside := before.extends.walkTo (.inr (.inl separates))
      have unclosed : comma.kind ≠ .rightParen := by simp [separates]
      have refused := Walk.refused_of_primary (unsigned _ _) (.groupOpen opens inside unclosed)
      have split : opening :: (first ++ comma :: rest ++ [closing]) ++ [closing] =
          opening :: first ++ (comma :: rest ++ [closing, closing]) := by simp
      cases Walk.result_eq [closing] (comma :: rest ++ [closing, closing]) read refused split

/-- Derived tokens make one statement, because a walk over them comes to one result. -/
theorem Statement.unique {dialect : Dialect} {tokens : List Token} {first second : Stmt}
    (left : Statement dialect tokens first) (right : Statement dialect tokens second) :
    first = second := by
  have same := (Body.last left).unique (Body.last right)
  exact List.singleton_inj.mp same

/-- A statement reaches as far as the first semicolon, which is its last token and stands nowhere
else in it. -/
theorem Statement.exists_semicolon {dialect : Dialect} {tokens : List Token} {stmt : Stmt}
    (derived : Statement dialect tokens stmt) (rest : List Token) :
    ∃ within ending, tokens = within ++ [ending] ∧
      (tokens ++ rest).takeWhile (fun token => token.kind ≠ .semicolon) = within := by
  obtain ⟨within, ending, rfl, inside, ends⟩ := (derived.walk .missing).confined
  refine ⟨within, ending, rfl, ?_⟩
  rw [List.append_assoc, List.takeWhile_append_of_pos]
  · simp [ends]
  · exact fun token member => decide_eq_true (inside token member).1

/-- Two statements at the front of the same tokens take the same of them, in whatever dialects
they are derived: both end at the first semicolon. -/
theorem Statement.tokens_eq {dialect other : Dialect} {first second rest behind : List Token}
    {left right : Stmt} (derived : Statement dialect first left)
    (another : Statement other second right) (split : first ++ rest = second ++ behind) :
    first = second ∧ rest = behind := by
  obtain ⟨within, ending, rfl, before⟩ := derived.exists_semicolon rest
  obtain ⟨among, last, rfl, same⟩ := another.exists_semicolon behind
  obtain rfl : within = among := by rw [← before, ← same, split]
  simpa using split

/-- No statement is made of nothing, so that a program has tokens. -/
theorem Body.tokens_ne_nil {dialect : Dialect} {tokens : List Token} {body : List Stmt}
    (derived : Body dialect tokens body) : tokens ≠ [] := by
  cases derived with
  | last only =>
    obtain ⟨within, ending, rfl, -⟩ := only.exists_semicolon []
    simp
  | more before behind =>
    obtain ⟨within, ending, rfl, -⟩ := before.exists_semicolon []
    simp

/-- Two statements are derived from the same part of some tokens, each in a dialect of its
own. -/
def Paired (dialect other : Dialect) (tokens : List Token) (left right : Stmt) : Prop :=
  ∃ part, part ⊆ tokens ∧ Statement dialect part left ∧ Statement other part right

/-- Two programs derived from the same tokens have their statements in pairs, each derived from
the same part of the tokens. -/
theorem Body.paired {dialect other : Dialect} {tokens : List Token} {body another : List Stmt}
    (derived : Body dialect tokens body) (again : Body other tokens another) :
    List.Forall₂ (Paired dialect other tokens) body another := by
  induction derived generalizing another with
  | @last tokens stmt only =>
    cases again with
    | last right => exact .cons ⟨tokens, List.Subset.refl _, only, right⟩ .nil
    | @more first rest right others before behind =>
      obtain ⟨-, rfl⟩ := only.tokens_eq before (List.append_nil (first ++ rest))
      exact absurd rfl behind.tokens_ne_nil
  | @more first rest stmt body before behind onward =>
    generalize whole : first ++ rest = tokens at again
    cases again with
    | last right =>
      obtain ⟨-, rfl⟩ := before.tokens_eq right (whole.trans (List.append_nil tokens).symm)
      exact absurd rfl behind.tokens_ne_nil
    | @more start more right others left later =>
      obtain ⟨rfl, rfl⟩ := before.tokens_eq left whole
      refine .cons ⟨first, List.subset_append_left first rest, before, left⟩ ?_
      refine (onward later).imp ?_
      rintro left right ⟨part, among, both⟩
      exact ⟨part, List.Subset.trans among (List.subset_append_right first rest), both⟩

/-- The procedure style has all the names of the keyword style, and `print` besides. -/
theorem widens_printing (modulo negation : Bool) :
    Widens ⟨modulo, negation, .keyword⟩ ⟨modulo, negation, .procedure⟩ := by
  refine ⟨?_, id, id⟩
  rintro token (plain | ⟨-, procedure⟩)
  · exact .inl plain
  · cases procedure

/-- A statement as it is read where `print` is a keyword, and where it is a procedure. -/
inductive Twin : Stmt → Stmt → Prop where
  | same (stmt : Stmt) : Twin stmt stmt
  | printed {span : Span} {value : Expr} {call : Call}
      (named : call.callee.text = Table.printProcedure.name) (only : call.args = [value]) :
      Twin (.print span value) (.call span call)

/-- A statement in both styles is the same, or prints what stands in its parentheses.

Proof: by the rule that derives it in the keyword style. Assignments and calls are derived in the
procedure style as well, and derived tokens make one statement. Behind the keyword stands an
expression, so that no sign of an assignment follows it; the statement of the procedure style is a
call, and the same tokens are the expression of the one and the arguments of the other. -/
theorem Statement.twin {modulo negation : Bool} {text : Text} {tokens : List Token}
    {left right : Stmt} (keyword : Statement ⟨modulo, negation, .keyword⟩ tokens left)
    (procedure : Statement ⟨modulo, negation, .procedure⟩ tokens right)
    (written : tokens ⊆ Token.ofText text) : Twin left right := by
  have widens := widens_printing modulo negation
  cases keyword with
  | assign named assigns assigned ends =>
    have wider := Statement.assign (widens.names _ named) assigns (assigned.widen widens) ends
    exact wider.unique procedure ▸ .same _
  | call named opens listed closes ends =>
    have wider := Statement.call (widens.names _ named) opens (listed.widen widens) closes ends
    exact wider.unique procedure ▸ .same _
  | @print word ending within value keyword prints printed ends =>
    generalize whole : word :: (within ++ [ending]) = tokens at procedure written
    cases procedure with
    | @assign name sign last others assigned named assigns =>
      obtain ⟨first, rest, rfl, starts⟩ := printed.starts
      obtain ⟨-, tail⟩ := List.cons.inj whole
      obtain ⟨rfl, -⟩ := List.cons.inj tail
      simp [Starts, IsName, assigns] at starts
    | @call name opening closing last others args named opens listed closes ends =>
      obtain ⟨rfl, tail⟩ := List.cons.inj whole
      rw [← List.cons_append] at tail
      obtain ⟨rfl, same⟩ := List.append_inj' tail rfl
      obtain rfl := List.singleton_inj.mp same
      refine .printed ?_ ((printed.widen widens).arguments_eq opens closes listed)
      have spelled := (Token.isWord_of_mem (written List.mem_cons_self) (.inr prints)).2
      rw [prints, Token.Kind.ofWord] at spelled
      split at spelled
      · assumption
      · cases spelled
    | print keyword => cases keyword

end Grammar

namespace Stmt

/-- The call of the procedure `print` with one argument does what printing that does. -/
theorem action_printed {table : Table}
    (bound : table.lookup? Table.printProcedure.name = some (.procedure Table.printProcedure))
    {span : Span} {value : Expr} {called : Call}
    (named : called.callee.text = Table.printProcedure.name) (only : called.args = [value]) :
    (Stmt.call span called).action table = (Stmt.print span value).action table := by
  have resolved : table.resolve called.callee = .ok (.procedure Table.printProcedure) := by
    rw [Table.resolve, named, bound]
  simp only [Stmt.action, only, Expr.evaluateAll, Table.performProcedure, resolved]
  cases value.evaluate table with
  | error failure => rfl
  | ok result => rfl

end Stmt

/-- The machine where `print` is a keyword and the one where it is a procedure have
outputs in related states, and the same names bound to the same things, except that only
the latter binds `print`. -/
structure Machine.SameButPrint {σ τ : Type} (related : σ → τ → Prop) (keyword : Machine σ)
    (procedure : Machine τ) : Prop where
  console : related keyword.console procedure.console
  table : procedure.table = keyword.table.define Table.printProcedure.name
    (.procedure Table.printProcedure)
  unbound : keyword.table.lookup? Table.printProcedure.name = none

namespace Machine.SameButPrint

variable {σ τ : Type} {related : σ → τ → Prop} {keyword : Machine σ} {procedure : Machine τ}

/-- Tracing makes no difference to names and outputs, although the two machines record different
statements. -/
theorem record (same : SameButPrint related keyword procedure) (first second : Event) :
    SameButPrint related (keyword.record first) (procedure.record second) := by
  have left := agrees_record keyword first
  have right := agrees_record procedure second
  constructor
  · rw [left.console, right.console]
    exact same.console
  · rw [left.table, right.table, same.table]
  · rw [left.table, same.unbound]

/-- The same definition on both machines makes no difference, if it does not define `print`. -/
theorem define (same : SameButPrint related keyword procedure) {name : Text}
    (different : name ≠ Table.printProcedure.name) (value : Float) :
    SameButPrint related
      { keyword with table := keyword.table.define name (.number value true) }
      { procedure with table := procedure.table.define name (.number value true) } := by
  constructor
  · exact same.console
  · rw [same.table]
    exact Table.define_comm _ different.symm _ _
  · rw [Table.lookup?_define, if_neg different.symm, same.unbound]

/-- The names of a text in which `print` is a keyword are bound alike on both machines, since none
of them is `print`. -/
theorem bindAlike (same : SameButPrint related keyword procedure) {modulo negation : Bool}
    {text : Text} {tokens : List Token} (written : tokens ⊆ Token.ofText text) :
    Grammar.BindAlike ⟨modulo, negation, .keyword⟩ keyword.table procedure.table tokens := by
  rintro token member (plain | ⟨-, procedure⟩)
  · have spelled := (Token.isWord_of_mem (written member) (.inl plain)).2
    have different : token.lexeme ≠ Table.printProcedure.name := by
      intro reserved
      rw [plain, reserved] at spelled
      cases spelled
    rw [same.table, Table.lookup?_define, if_neg different]
  · cases procedure

/-- A statement that is read in both styles has the same to do on both machines. -/
theorem action_eq (same : SameButPrint related keyword procedure) {modulo negation : Bool}
    {text : Text} {tokens : List Token} {left right : Stmt} (written : tokens ⊆ Token.ofText text)
    (reads : Grammar.Statement ⟨modulo, negation, .keyword⟩ tokens left)
    (calls : Grammar.Statement ⟨modulo, negation, .procedure⟩ tokens right) :
    right.action procedure.table = left.action keyword.table := by
  have bound : procedure.table.lookup? Table.printProcedure.name =
      some (.procedure Table.printProcedure) := by
    rw [same.table, Table.lookup?_define, if_pos rfl]
  rw [← reads.action_eq (same.bindAlike written)]
  cases reads.twin calls written with
  | same => rfl
  | printed named only => exact Stmt.action_printed bound named only

variable [Output σ] [Output τ]

/-- A statement that is read in both styles does the same on both machines, and the outputs
take the same of it.

Proof: both machines have the same to do, once they have recorded that they start. If that is
to define a name, it is not `print`, which is no word of the dialect where it is a procedure.
If it is to perform something, the outputs behave the same. -/
theorem step (alike : Output.BehaveAlike related) (same : SameButPrint related keyword procedure)
    {modulo negation : Bool} {text : Text} {tokens : List Token} {left right : Stmt}
    (written : tokens ⊆ Token.ofText text)
    (reads : Grammar.Statement ⟨modulo, negation, .keyword⟩ tokens left)
    (calls : Grammar.Statement ⟨modulo, negation, .procedure⟩ tokens right) :
    SameButPrint related (keyword.step left).1 (procedure.step right).1 ∧
      (procedure.step right).2 = (keyword.step left).2 ∧
      procedure.wroteBy right = keyword.wroteBy left := by
  have started := same.record (.started left.typeName left.span.start)
    (.started right.typeName right.span.start)
  have acts := started.action_eq written reads calls
  have starts := same.action_eq written reads calls
  rw [Machine.step, Machine.step, Machine.wroteBy, Machine.wroteBy, acts, starts,
    (agrees_record keyword _).table]
  cases action : left.action keyword.table with
  | error failure => exact ⟨started, rfl, rfl⟩
  | ok action =>
    rcases Stmt.action_cases action with
      ⟨span, target, assigned, result, rfl, -, -, rfl⟩ | ⟨⟨performance, rfl⟩, -⟩
    · have different : target.text ≠ Table.printProcedure.name := by
        intro reserved
        cases (reads.worded written).2 reserved
      exact ⟨(started.define different result).record _ _, rfl, rfl⟩
    · obtain ⟨ends, fails, -⟩ := performance.run_alike alike started.console
      have wrote := (performance.run_alike alike same.console).2.2
      exact ⟨⟨ends, started.table, started.unbound⟩, fails.symm, wrote.symm⟩

/-- A program that is read in both styles does the same on both machines, and the outputs take
the same of it. -/
theorem run (alike : Output.BehaveAlike related) (same : SameButPrint related keyword procedure)
    {modulo negation : Bool} {text : Text} {tokens : List Token} {body calling : List Stmt}
    (written : tokens ⊆ Token.ofText text)
    (paired : List.Forall₂ (Grammar.Paired ⟨modulo, negation, .keyword⟩
      ⟨modulo, negation, .procedure⟩ tokens) body calling) :
    SameButPrint related (keyword.run body).1 (procedure.run calling).1 ∧
      (procedure.run calling).2 = (keyword.run body).2 ∧
      procedure.wrote calling = keyword.wrote body := by
  induction paired generalizing keyword procedure with
  | nil => exact ⟨same, rfl, rfl⟩
  | @cons left right body calling first rest onward =>
    obtain ⟨part, among, reads, calls⟩ := first
    have stepped := same.step alike (List.Subset.trans among written) reads calls
    rw [Machine.run, Machine.run, Machine.wrote, Machine.wrote]
    cases here : keyword.step left with
    | mk after failure =>
      cases there : procedure.step right with
      | mk calledAfter calledFailure =>
        rw [here, there] at stepped
        obtain ⟨still, rfl, writes⟩ := stepped
        cases calledFailure with
        | none =>
          obtain ⟨ends, fails, more⟩ := onward still
          simp only [writes, more]
          exact ⟨ends, fails, trivial⟩
        | some failure => exact ⟨still, rfl, writes⟩

end Machine.SameButPrint

namespace Session

/-- What comes of running a text: the output before it, the session behind it, what the output
took of it, and how it failed if it did. -/
structure Run (σ : Type) [Output σ] where
  before : σ
  after : Session σ
  wrote : Text
  failure : Option Failure
  /-- Any view of the output shows what was written. -/
  shown : ∀ shown : σ → Text, Output.Shows shown →
    shown after.machine.console = shown before ++ wrote

section History

variable {σ : Type} [Output σ]

/-- What the output takes of all that running a text writes. A text that is not a program
writes nothing. -/
def wrote (session : Session σ) (source : Text) : Text :=
  match parse session.dialect source with
  | .error _ => []
  | .ok program => session.machine.wrote program.body

/-- A view of an output shows what running a text writes. Where the text is not a program, the
output is left as it was. -/
theorem shown_exec {shown : σ → Text} (shows : Output.Shows shown) (session : Session σ)
    (source : Text) :
    shown (session.exec source).1.machine.console =
      shown session.machine.console ++ session.wrote source := by
  rw [exec, wrote]
  cases parse session.dialect source with
  | error failure => exact (List.append_nil _).symm
  | ok program => exact Machine.shown_run shows session.machine program.body

/-- Run a text, and keep what the output took of it. -/
def ran (session : Session σ) (source : Text) : Run σ where
  before := session.machine.console
  after := (session.exec source).1
  wrote := session.wrote source
  failure := (session.exec source).2
  shown := fun _ shows => shown_exec shows session source

/-- What comes of running texts one after another. Each runs on what the one before has left. -/
def history (session : Session σ) : List Text → List (Run σ)
  | [] => []
  | source :: rest => session.ran source :: (session.ran source).after.history rest

end History

variable {σ τ : Type} {related : σ → τ → Prop}

/-- At the start, two sessions differ in `print` alone. No other name that is given depends on the
print style. -/
theorem sameButPrint_new {first : σ} {second : τ} (same : related first second)
    (modulo negation : Bool) (level other : TraceLevel) :
    (new ⟨modulo, negation, .keyword⟩ first level).machine.SameButPrint related
      (new ⟨modulo, negation, .procedure⟩ second other).machine := by
  constructor
  · exact same
  · rfl
  · refine Option.eq_none_iff_forall_ne_some.mpr fun binding bound => ?_
    have given := (Table.lookup?_initial_iff _ _ binding).mp bound
    have absent : Table.printProcedure.name ∉ Table.builtins.map Prod.fst := by
      decide +kernel
    exact absent (List.mem_map_of_mem given)

variable [Output σ] [Output τ]

/-- A text leaves two sessions the same but for `print`, the outputs took the same of it, and
it failed in the same way in both or in neither. -/
structure SameButPrint (related : σ → τ → Prop) (keyword : Run σ) (procedure : Run τ) : Prop where
  machine : keyword.after.machine.SameButPrint related procedure.after.machine
  wrote : procedure.wrote = keyword.wrote
  failure : procedure.failure = keyword.failure

variable {keyword : Session σ} {procedure : Session τ}

/-- A text that is a program in both styles does the same in both sessions. -/
theorem sameButPrint_ran (alike : Output.BehaveAlike related) {modulo negation : Bool}
    (reserved : keyword.dialect = ⟨modulo, negation, .keyword⟩)
    (named : procedure.dialect = ⟨modulo, negation, .procedure⟩)
    (same : keyword.machine.SameButPrint related procedure.machine) {source : Text}
    (reads : (Program.ofText ⟨modulo, negation, .keyword⟩ source).2 = [])
    (calls : (Program.ofText ⟨modulo, negation, .procedure⟩ source).2 = []) :
    SameButPrint related (keyword.ran source) (procedure.ran source) := by
  obtain ⟨program, parsed⟩ := exists_parse reads
  obtain ⟨calling, alsoParsed⟩ := exists_parse calls
  have paired := (body_of_parse parsed).paired (body_of_parse alsoParsed)
  rw [← reserved] at parsed
  rw [← named] at alsoParsed
  obtain ⟨ends, fails, writes⟩ := same.run alike (List.takeWhile_subset _) paired
  have here := exec_of_parse parsed
  have there := exec_of_parse alsoParsed
  constructor
  · change Machine.SameButPrint related (keyword.exec source).1.machine
      (procedure.exec source).1.machine
    rw [here, there]
    exact ends
  · change procedure.wrote source = keyword.wrote source
    rw [wrote, wrote, parsed, alsoParsed]
    exact writes
  · change (procedure.exec source).2 = (keyword.exec source).2
    rw [here, there]
    exact fails

/-- Texts that are programs in both styles do the same in both sessions, one after another.

Proof: induction on the texts. A text leaves the sessions the same but for `print`, whether it
fails or not, so that the next one finds them so. -/
theorem sameButPrint_history (alike : Output.BehaveAlike related) {modulo negation : Bool}
    (reserved : keyword.dialect = ⟨modulo, negation, .keyword⟩)
    (named : procedure.dialect = ⟨modulo, negation, .procedure⟩)
    (same : keyword.machine.SameButPrint related procedure.machine) {sources : List Text}
    (clean : ∀ source ∈ sources, (Program.ofText ⟨modulo, negation, .keyword⟩ source).2 = [] ∧
      (Program.ofText ⟨modulo, negation, .procedure⟩ source).2 = []) :
    List.Forall₂ (SameButPrint related) (keyword.history sources) (procedure.history sources) := by
  induction sources generalizing keyword procedure with
  | nil => exact .nil
  | cons source rest others =>
    obtain ⟨⟨reads, calls⟩, later⟩ := List.forall_mem_cons.mp clean
    have here := sameButPrint_ran alike reserved named same reads calls
    refine .cons here (others ?_ ?_ here.machine later)
    · rw [ran, exec_dialect, reserved]
    · rw [ran, exec_dialect, named]

/-- The two print styles agree where both apply. For any switches of the dialect and any
texts that are programs in either style, run two new sessions over outputs that behave the
same, one of each style. Every text writes the same in both and fails in the same way in
both or in neither, and behind it they bind the same names to the same things, except that
one of them also binds `print`. What a text writes is what any view of the output shows. -/
theorem printStyles_agree {first : σ} {second : τ} (alike : Output.BehaveAlike related)
    (same : related first second) (modulo negation : Bool) (level other : TraceLevel)
    (sources : List Text)
    (clean : ∀ source ∈ sources, (Program.ofText ⟨modulo, negation, .keyword⟩ source).2 = [] ∧
      (Program.ofText ⟨modulo, negation, .procedure⟩ source).2 = []) :
    List.Forall₂ (SameButPrint related)
      ((new ⟨modulo, negation, .keyword⟩ first level).history sources)
      ((new ⟨modulo, negation, .procedure⟩ second other).history sources) :=
  sameButPrint_history alike rfl rfl (sameButPrint_new same modulo negation level other) clean

/-- A program that assigns, prints and then fails, run twice, on an empty console and on one
that has something written on it. Both have room for one line, so that the second run stops
at the first line that it prints. -/
theorem printStyles_agree_undefined :
    let source := Text.ofString "x=π;print(x);print(y);"
    let related : Console → Console → Prop := fun first second =>
      first.room = second.room ∧ first.refusal = second.refusal
    let first := Console.limited 1 (Text.ofString "full")
    let second : Console := { first with written := [source] }
    Output.BehaveAlike related ∧ related first second ∧
      (∀ text ∈ [source, source], (Program.ofText ⟨true, true, .keyword⟩ text).2 = [] ∧
        (Program.ofText ⟨true, true, .procedure⟩ text).2 = []) ∧
      List.Forall₂ (SameButPrint related)
        ((new ⟨true, true, .keyword⟩ first .silent).history [source, source])
        ((new ⟨true, true, .procedure⟩ second .debug).history [source, source]) := by
  intro source related first second
  have tokens : Token.ofText (Text.ofString "x=π;print(x);print(y);") =
      [⟨.name, [120], ⟨⟨0, 1, 1⟩, ⟨1, 1, 2⟩⟩⟩, ⟨.assign, [61], ⟨⟨1, 1, 2⟩, ⟨2, 1, 3⟩⟩⟩,
        ⟨.name, [207, 128], ⟨⟨2, 1, 3⟩, ⟨4, 1, 4⟩⟩⟩, ⟨.semicolon, [59], ⟨⟨4, 1, 4⟩, ⟨5, 1, 5⟩⟩⟩,
        ⟨.printWord, Text.ofString "print", ⟨⟨5, 1, 5⟩, ⟨10, 1, 10⟩⟩⟩,
        ⟨.leftParen, [40], ⟨⟨10, 1, 10⟩, ⟨11, 1, 11⟩⟩⟩,
        ⟨.name, [120], ⟨⟨11, 1, 11⟩, ⟨12, 1, 12⟩⟩⟩,
        ⟨.rightParen, [41], ⟨⟨12, 1, 12⟩, ⟨13, 1, 13⟩⟩⟩,
        ⟨.semicolon, [59], ⟨⟨13, 1, 13⟩, ⟨14, 1, 14⟩⟩⟩,
        ⟨.printWord, Text.ofString "print", ⟨⟨14, 1, 14⟩, ⟨19, 1, 19⟩⟩⟩,
        ⟨.leftParen, [40], ⟨⟨19, 1, 19⟩, ⟨20, 1, 20⟩⟩⟩,
        ⟨.name, [121], ⟨⟨20, 1, 20⟩, ⟨21, 1, 21⟩⟩⟩,
        ⟨.rightParen, [41], ⟨⟨21, 1, 21⟩, ⟨22, 1, 22⟩⟩⟩,
        ⟨.semicolon, [59], ⟨⟨22, 1, 22⟩, ⟨23, 1, 23⟩⟩⟩,
        ⟨.endOfInput, [], ⟨⟨23, 1, 23⟩, ⟨23, 1, 23⟩⟩⟩] := by
    decide +kernel
  have clean : ∀ text ∈ List.replicate 2 (Text.ofString "x=π;print(x);print(y);"),
      (Program.ofText ⟨true, true, .keyword⟩ text).2 = [] ∧
        (Program.ofText ⟨true, true, .procedure⟩ text).2 = [] := by
    intro text member
    rw [List.eq_of_mem_replicate member, Program.ofText, Program.ofText, tokens]
    constructor
    · change Reading.diagnostics _ = []
      cbv
    · change Reading.diagnostics _ = []
      cbv
  have same : related first second := ⟨rfl, rfl⟩
  exact ⟨Console.behaveAlike, same, clean,
    printStyles_agree Console.behaveAlike same true true .silent .debug _ clean⟩

end Session

end Astro
