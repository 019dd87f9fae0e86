import Astro.Proofs.Offenders

/-!
# The checks of a program, in order

What can go wrong with an expression is a list of checks, which is read off the tree
without looking at any table: those of the operands before that of the operator, those
of all arguments before those of the callee, and each name is bound before it is of the
right sort. A statement has the checks of its expressions and then its own.

Main statement: whatever the table, evaluation succeeds exactly when every check
passes, and otherwise fails as the first check that does not pass says. The same holds
of statements, and a statement has an effect only when every check passes
(`first_failing_decides`). Trees that no text spells are covered, with operators that
denote no operation and nodes of foreign types.
-/

namespace Astro

/-- A check of an expression or a statement. Checks of a binding name the place where it
is asked for; nodes of foreign types never pass theirs. -/
inductive Check where
  | bound (name : Name)
  | isNumber (name : Name)
  | isFunction (callee : Name)
  | isProcedure (callee : Name)
  | fits (callee : Name) (count : Nat) (argsSpan : Span)
  | knownOperator (place : Position) (op : Token.Kind)
  | newOrNumber (target : Name)
  | newOrMutable (target : Name)
  | knownExpression (place : Position) (typeName : Text)
  | knownStatement (place : Position) (typeName : Text)

namespace Check

/-- The kinds of token that denote an operation. No other kind of token does. -/
def operators : List Token.Kind := [.plus, .minus, .star, .slash, .percent, .power]

/-- How many arguments a binding takes. Numbers take none and cannot be called. -/
def arity? : Binding → Option Int
  | .number _ _ => none
  | .function routine => some routine.arity
  | .procedure routine => some routine.arity

/-- What a check asks of a table. A check of a name asks what it is bound to, and the check of an
operator or a node asks nothing of the table. -/
def Passes (table : Table) : Check → Prop
  | bound name => ∃ binding, table.lookup? name.text = some binding
  | isNumber name => ∃ value mutable, table.lookup? name.text = some (.number value mutable)
  | isFunction callee => ∃ routine, table.lookup? callee.text = some (.function routine)
  | isProcedure callee => ∃ routine, table.lookup? callee.text = some (.procedure routine)
  | fits callee count _ => (table.lookup? callee.text).bind arity? = some (count : Int)
  | knownOperator _ op => op ∈ operators
  | newOrNumber target =>
    table.lookup? target.text = none ∨
      ∃ value mutable, table.lookup? target.text = some (.number value mutable)
  | newOrMutable target =>
    table.lookup? target.text = none ∨
      ∃ value, table.lookup? target.text = some (.number value true)
  | knownExpression _ _ => False
  | knownStatement _ _ => False

/-- How a check fails. Each check has one failure, at the place of what it is about. -/
def failure : Check → Failure
  | bound name => Fault.Cause.failure (.undefined name.text) name.span
  | isNumber name => Fault.Cause.numberExpected.failure name.span
  | isFunction callee => Fault.Cause.functionExpected.failure callee.span
  | isProcedure callee => Fault.Cause.procedureExpected.failure callee.span
  | fits _ _ argsSpan => Fault.Cause.argumentCount.failure argsSpan
  | knownOperator place op => .unknownOperator place op
  | newOrNumber target => Fault.Cause.cannotAssign.failure target.span
  | newOrMutable target => Fault.Cause.failure (.notWritable target.text) target.span
  | knownExpression place typeName => .foreignExpression place typeName
  | knownStatement place typeName => .foreignStatement place typeName

/-- A check that does not pass, while every check before it does. -/
def FirstFailing (table : Table) (checks : List Check) (check : Check) : Prop :=
  ∃ before after, checks = before ++ check :: after ∧
    (∀ earlier ∈ before, earlier.Passes table) ∧ ¬ check.Passes table

/-- There is one first check that fails at most.

Proof: induction on the checks. The first one either fails, and then it is both, or is passed, and
then both are among the rest. -/
theorem FirstFailing.unique {table : Table} {checks : List Check} {first second : Check}
    (one : FirstFailing table checks first) (other : FirstFailing table checks second) :
    first = second := by
  induction checks with
  | nil =>
    obtain ⟨before, after, split, -, -⟩ := one
    simp at split
  | cons head rest shorter =>
    obtain ⟨before, after, split, passed, fails⟩ := one
    obtain ⟨before', after', split', passed', fails'⟩ := other
    cases before with
    | nil =>
      obtain ⟨rfl, -⟩ := List.cons.inj split
      cases before' with
      | nil => exact (List.cons.inj split').1
      | cons earlier before' =>
        obtain ⟨rfl, -⟩ := List.cons.inj split'
        exact absurd (passed' head List.mem_cons_self) fails
    | cons earlier before =>
      obtain ⟨rfl, tail⟩ := List.cons.inj split
      cases before' with
      | nil =>
        obtain ⟨rfl, -⟩ := List.cons.inj split'
        exact absurd (passed head List.mem_cons_self) fails'
      | cons earlier' before' =>
        obtain ⟨-, tail'⟩ := List.cons.inj split'
        apply shorter
        · exact ⟨before, after, tail, fun check member => passed check (.tail _ member), fails⟩
        · exact ⟨before', after', tail', fun check member => passed' check (.tail _ member), fails'⟩

/-- A result that a list of checks decides: it is there when all of them pass, and else
it is the failure of the first that does not. -/
inductive Decides {α : Type} (table : Table) : List Check → Except Failure α → Prop where
  | passed {checks : List Check} (value : α) (all : ∀ check ∈ checks, check.Passes table) :
      Decides table checks (.ok value)
  | failed {checks : List Check} {check : Check} (first : FirstFailing table checks check) :
      Decides table checks (.error check.failure)

namespace Decides

variable {α β : Type} {table : Table}

/-- A result without checks is there. -/
theorem free (value : α) : Decides table [] (.ok value) :=
  .passed value fun _ none => absurd none List.not_mem_nil

/-- A single check that passes leaves the result as it is. -/
theorem pass (check : Check) (value : α) (passes : check.Passes table) :
    Decides table [check] (.ok value) := by
  apply Decides.passed
  simpa using passes

/-- A check that fails decides, whatever stands behind it. It is the first one, so that the
failure is its own. -/
theorem fail (check : Check) (fails : ¬ check.Passes table) (after : List Check) :
    Decides (α := α) table (check :: after) (.error check.failure) :=
  .failed ⟨[], after, rfl, fun _ none => absurd none List.not_mem_nil, fails⟩

/-- What is computed in two steps is decided by the checks of the one and then those of the other.
Where the first step fails, its failing check is the first one of both lists, and otherwise all
its checks are passed and those of the second step decide. -/
theorem bind {checks more : List Check} {first : Except Failure α} {next : α → Except Failure β}
    (here : Decides table checks first)
    (behind : ∀ value, first = .ok value → Decides table more (next value)) :
    Decides table (checks ++ more) (first >>= next) := by
  cases here with
  | passed value all =>
    change Decides table (checks ++ more) (next value)
    generalize result : next value = outcome
    have later := behind value rfl
    rw [result] at later
    cases later with
    | passed value' others =>
      apply Decides.passed
      simpa only [List.forall_mem_append] using And.intro all others
    | failed failing =>
      obtain ⟨before, after, rfl, passed, fails⟩ := failing
      apply Decides.failed
      refine ⟨checks ++ before, after, (List.append_assoc _ _ _).symm, ?_, fails⟩
      simpa only [List.forall_mem_append] using And.intro all passed
  | @failed check failing =>
    obtain ⟨before, after, rfl, passed, fails⟩ := failing
    exact .failed ⟨before, after ++ more, by simp, passed, fails⟩

/-- A check that was passed before the others. They decide then, since the first that fails is
among them. -/
theorem behind {check : Check} {checks : List Check} {result : Except Failure α}
    (passes : check.Passes table) (others : Decides table checks result) :
    Decides table (check :: checks) result := by
  exact bind (pass check () passes) fun _ _ => others

/-- Decided results are there exactly when all checks pass. The value comes about in exactly those
tables. -/
theorem exists_iff {checks : List Check} {result : Except Failure α}
    (decided : Decides table checks result) :
    (∃ value, result = .ok value) ↔ ∀ check ∈ checks, check.Passes table := by
  cases decided with
  | passed value all => exact ⟨fun _ => all, fun _ => ⟨value, rfl⟩⟩
  | failed failing =>
    obtain ⟨before, after, rfl, -, fails⟩ := failing
    constructor
    · rintro ⟨value, same⟩
      cases same
    · intro all
      exact absurd (all _ (List.mem_append_right _ List.mem_cons_self)) fails

/-- Decided results fail exactly as the first failing check does. A result that is a value has
passed all checks, so that none of them fails. -/
theorem error_iff {checks : List Check} {result : Except Failure α}
    (decided : Decides table checks result) (failure : Failure) :
    result = .error failure ↔
      ∃ check, FirstFailing table checks check ∧ check.failure = failure := by
  cases decided with
  | passed value all =>
    constructor
    · intro same
      cases same
    · rintro ⟨check, ⟨before, after, rfl, -, fails⟩, -⟩
      exact absurd (all _ (List.mem_append_right _ List.mem_cons_self)) fails
  | @failed check failing =>
    constructor
    · intro same
      cases same
      exact ⟨check, failing, rfl⟩
    · rintro ⟨other, first, rfl⟩
      rw [failing.unique first]

end Decides

end Check

mutual

/-- The checks of an expression, in the order in which they are made. -/
def Expr.checks : Expr → List Check
  | .numeral _ _ _ => []
  | .name occurrence => [.bound occurrence, .isNumber occurrence]
  | .unary _ _ operand => operand.checks
  | .binary span op left right => left.checks ++ right.checks ++ [.knownOperator span.start op]
  | .call _ callee args argsSpan =>
    Expr.checksOf args ++ [.bound callee, .isFunction callee, .fits callee args.length argsSpan]
  | .foreign span typeName => [.knownExpression span.start typeName]

/-- The checks of expressions, from left to right. Those of each expression stand before those of
the next. -/
def Expr.checksOf : List Expr → List Check
  | [] => []
  | first :: rest => first.checks ++ Expr.checksOf rest

end

/-- The checks of a statement, in the order in which they are made. -/
def Stmt.checks : Stmt → List Check
  | .assign _ target value => value.checks ++ [.newOrNumber target, .newOrMutable target]
  | .call _ called =>
    Expr.checksOf called.args ++
      [.bound called.callee, .isProcedure called.callee,
        .fits called.callee called.args.length called.argsSpan]
  | .print _ value => value.checks
  | .foreign span typeName => [.knownStatement span.start typeName]

/-- A kind of token denotes an operation exactly when it is one of the six operators. -/
theorem operation?_isSome (op : Token.Kind) :
    (operation? op).isSome = true ↔ op ∈ Check.operators := by
  cases op <;> simp [operation?, Check.operators]

namespace Table

open Check

variable (table : Table)

/-- A name is resolved when it is bound. What it is bound to does not matter yet. -/
theorem resolve_decided (name : Name) : Decides table [.bound name] (table.resolve name) := by
  rcases table.resolve_cases name with ⟨unbound, fails⟩ | ⟨binding, bound, resolved⟩
  · rw [fails]
    apply Decides.fail (.bound name)
    simp [Passes, unbound]
  · rw [resolved]
    exact .pass (.bound name) binding ⟨binding, bound⟩

/-- Checks that look at what a name is bound to are made once it is resolved. -/
theorem resolved_decided {α : Type} {name : Name} {checks : List Check}
    {next : Binding → Except Failure α}
    (behind : ∀ binding, table.lookup? name.text = some binding →
      Decides table checks (next binding)) :
    Decides table (.bound name :: checks) (table.resolve name >>= next) := by
  apply Decides.bind (table.resolve_decided name)
  intro binding resolved
  apply behind
  rcases table.resolve_cases name with ⟨-, fails⟩ | ⟨other, bound, same⟩
  · rw [fails] at resolved
    cases resolved
  · rw [same] at resolved
    cases resolved
    exact bound

/-- A name has a value when it is bound to a number. -/
theorem valueOf_decided (name : Name) :
    Decides table [.bound name, .isNumber name] (table.valueOf name) := by
  apply table.resolved_decided
  intro binding bound
  cases binding with
  | number value mutable => exact .pass (.isNumber name) value ⟨value, mutable, bound⟩
  | function routine =>
    apply Decides.fail (.isNumber name)
    simp [Passes, bound]
  | procedure routine =>
    apply Decides.fail (.isNumber name)
    simp [Passes, bound]

/-- Arguments are passed on when there are as many as the callee takes. Otherwise the check of
their number fails. The callee's binding is known here, and so is what it takes. -/
theorem fitting_decided {α : Type} {callee : Name} (args : List Float) (argsSpan : Span)
    {binding : Binding} {arity : Int} (bound : table.lookup? callee.text = some binding)
    (takes : arity? binding = some arity) (apply : Vector Float arity.toNat → α) :
    Decides table [.fits callee args.length argsSpan]
      (match fitArguments? arity args with
        | some fitting => .ok (apply fitting)
        | none => .error (Fault.Cause.argumentCount.failure argsSpan)) := by
  have asked : (table.lookup? callee.text).bind arity? = some arity := by
    rw [bound, Option.bind_some, takes]
  cases fits : fitArguments? arity args with
  | some fitting =>
    apply Decides.pass
    have count := (fitArguments_isSome arity args).mp (by rw [fits, Option.isSome_some])
    rw [Passes, asked, count]
  | none =>
    apply Decides.fail (.fits callee args.length argsSpan)
    have differs := ne_arity_of_fitArguments? fits
    rw [Passes, asked]
    intro same
    exact differs (Option.some.inj same).symm

/-- A function is applied when its name is bound to one that takes as many arguments. An unbound
name fails the first check, a number or a procedure the second, and a wrong number of arguments
the third. -/
theorem applyFunction_decided (callee : Name) (args : List Float) (argsSpan : Span) :
    Decides table [.bound callee, .isFunction callee, .fits callee args.length argsSpan]
      (table.applyFunction callee args argsSpan) := by
  apply table.resolved_decided
  intro binding bound
  cases binding with
  | function routine =>
    apply Decides.behind
    · exact ⟨routine, bound⟩
    · have decided := table.fitting_decided args argsSpan bound rfl routine.apply
      cases fits : fitArguments? routine.arity args with
      | none => simpa only [fits] using decided
      | some fitting => simpa only [fits] using decided
  | number value mutable =>
    apply Decides.fail (.isFunction callee)
    simp [Passes, bound]
  | procedure routine =>
    apply Decides.fail (.isFunction callee)
    simp [Passes, bound]

/-- A procedure is performed when its name is bound to one that takes as many arguments. An
unbound name fails the first check, a number or a function the second, and a wrong number of
arguments the third. -/
theorem performProcedure_decided (callee : Name) (args : List Float) (argsSpan : Span) :
    Decides table [.bound callee, .isProcedure callee, .fits callee args.length argsSpan]
      (table.performProcedure callee args argsSpan) := by
  apply table.resolved_decided
  intro binding bound
  cases binding with
  | procedure routine =>
    apply Decides.behind
    · exact ⟨routine, bound⟩
    · have decided := table.fitting_decided args argsSpan bound rfl routine.perform
      cases fits : fitArguments? routine.arity args with
      | none => simpa only [fits] using decided
      | some fitting => simpa only [fits] using decided
  | number value mutable =>
    apply Decides.fail (.isProcedure callee)
    simp [Passes, bound]
  | function routine =>
    apply Decides.fail (.isProcedure callee)
    simp [Passes, bound]

/-- A name can be assigned to when it is new, or a number that can be changed. A function or a
procedure fails the first of the two checks, and a number that cannot be changed the second. -/
theorem checkAssignable_decided (target : Name) :
    Decides table [.newOrNumber target, .newOrMutable target] (table.checkAssignable target) := by
  unfold checkAssignable
  cases bound : table.lookup? target.text with
  | none =>
    apply Decides.passed
    simp [Passes, bound]
  | some binding =>
    cases binding with
    | number value mutable =>
      apply Decides.behind
      · exact .inr ⟨value, mutable, bound⟩
      · cases mutable with
        | true => exact .pass (.newOrMutable target) () (.inr ⟨value, bound⟩)
        | false =>
          apply Decides.fail (.newOrMutable target)
          simp [Passes, bound]
    | function routine =>
      apply Decides.fail (.newOrNumber target)
      simp [Passes, bound]
    | procedure routine =>
      apply Decides.fail (.newOrNumber target)
      simp [Passes, bound]

end Table

section Trees

open Check

variable (table : Table)

mutual

/-- The value of an expression is decided by its checks.

Proof: by the form of the expression. Operands and arguments come first, from left to right, and
then the check of the operator, the callee or the name itself. A numeral has no check, and an
unknown node fails its only one. -/
theorem Expr.evaluate_decided : ∀ expr : Expr, Decides table expr.checks (expr.evaluate table)
  | .numeral _ _ value => by
    rw [Expr.checks, Expr.evaluate]
    exact .free value
  | .name occurrence => by
    rw [Expr.checks, Expr.evaluate]
    exact table.valueOf_decided occurrence
  | .unary _ _ operand => by
    rw [Expr.checks, Expr.evaluate, ← List.append_nil operand.checks]
    apply (Expr.evaluate_decided operand).bind
    intro value _
    exact .free (-value)
  | .binary span op left right => by
    rw [Expr.checks, Expr.evaluate, List.append_assoc]
    apply (Expr.evaluate_decided left).bind
    intro first _
    apply (Expr.evaluate_decided right).bind
    intro second _
    have known := operation?_isSome op
    cases denoted : operation? op with
    | some operation =>
      rw [denoted] at known
      exact .pass (.knownOperator span.start op) _ (known.mp rfl)
    | none =>
      rw [denoted] at known
      exact .fail (.knownOperator span.start op) (fun listed => nomatch known.mpr listed) []
  | .call _ callee args argsSpan => by
    rw [Expr.checks, Expr.evaluate]
    apply (Expr.evaluateAll_decided args).bind
    intro values evaluated
    rw [← Expr.length_evaluateAll evaluated]
    exact table.applyFunction_decided callee values argsSpan
  | .foreign span typeName => by
    rw [Expr.checks, Expr.evaluate]
    exact .fail (.knownExpression span.start typeName) id []

/-- The values of expressions are decided by the checks of one after another. -/
theorem Expr.evaluateAll_decided :
    ∀ args : List Expr, Decides table (Expr.checksOf args) (Expr.evaluateAll table args)
  | [] => by
    rw [Expr.checksOf, Expr.evaluateAll]
    exact .free []
  | first :: rest => by
    rw [Expr.checksOf, Expr.evaluateAll]
    apply (Expr.evaluate_decided first).bind
    intro value _
    rw [← List.append_nil (Expr.checksOf rest)]
    apply (Expr.evaluateAll_decided rest).bind
    intro values _
    exact .free (value :: values)

end

/-- What a statement does is decided by its checks.

Proof: by the form of the statement. Its expressions come first, and then the target or the
procedure. Nothing that a statement performs is a check. -/
theorem Stmt.action_decided (stmt : Stmt) : Decides table stmt.checks (stmt.action table) := by
  cases stmt with
  | assign span target value =>
    apply (Expr.evaluate_decided table value).bind
    intro result _
    rw [← List.append_nil [Check.newOrNumber target, Check.newOrMutable target]]
    apply (table.checkAssignable_decided target).bind
    intro _ _
    exact .free (Action.define target.text result)
  | call span called =>
    apply (Expr.evaluateAll_decided table called.args).bind
    intro values evaluated
    rw [← Expr.length_evaluateAll evaluated, ← List.append_nil [_, _, _]]
    apply (table.performProcedure_decided called.callee values called.argsSpan).bind
    intro performance _
    exact .free (Action.perform performance)
  | print span value =>
    rw [Stmt.checks, ← List.append_nil value.checks]
    apply (Expr.evaluate_decided table value).bind
    intro result _
    exact .free (Action.perform (.script [Table.printedLine result] none))
  | foreign span typeName => exact .fail (.knownStatement span.start typeName) id []

end Trees

namespace Machine

/-- An action fails only in writing. It is the output that has refused, or the procedure itself
that has failed. -/
theorem act_failure {σ : Type} [Output σ] (machine : Machine σ) (action : Action)
    {failure : Failure} (fails : (machine.act action).2 = some failure) :
    ∃ message, failure = .refusedWrite message ∨ failure = .procedure message := by
  cases action with
  | define name value => cases fails
  | perform performance =>
    have failed : (performance.run machine.console).2 = some failure := fails
    obtain ⟨message, own⟩ | ⟨refusal, refused⟩ := Performance.failure_cases failed
    · exact ⟨message, .inr own⟩
    · exact ⟨refusal, .inl refused⟩

end Machine

/-- The first failing check decides. An expression has a value exactly when all of its
checks pass, and fails exactly as the first that does not says. A statement whose checks
all pass does what it does, and can only fail in writing; one whose checks do not all
pass fails as the first that does not says, and neither defines nor writes anything. -/
theorem first_failing_decides :
    (∀ (table : Table) (expr : Expr),
      ((∃ value, expr.evaluate table = .ok value) ↔ ∀ check ∈ expr.checks, check.Passes table) ∧
      ∀ failure, expr.evaluate table = .error failure ↔
        ∃ check, Check.FirstFailing table expr.checks check ∧ check.failure = failure) ∧
    ∀ {σ : Type} [Output σ] (machine : Machine σ) (stmt : Stmt),
      ((∀ check ∈ stmt.checks, check.Passes machine.table) →
        ∃ action, stmt.action machine.table = .ok action ∧
          machine.step stmt =
            (machine.record (.started stmt.typeName stmt.span.start)).act action ∧
          ∀ failure, (machine.step stmt).2 = some failure →
            ∃ message, failure = .refusedWrite message ∨ failure = .procedure message) ∧
      ∀ check, Check.FirstFailing machine.table stmt.checks check →
        ∃ after, machine.step stmt = (after, some check.failure) ∧
          after.table = machine.table ∧ after.console = machine.console := by
  constructor
  · intro table expr
    have decided := expr.evaluate_decided table
    exact ⟨decided.exists_iff, decided.error_iff⟩
  · intro σ _ machine stmt
    have decided := stmt.action_decided machine.table
    have started := Machine.agrees_record machine (.started stmt.typeName stmt.span.start)
    constructor
    · intro all
      obtain ⟨action, acts⟩ := decided.exists_iff.mpr all
      have stepped : machine.step stmt =
          (machine.record (.started stmt.typeName stmt.span.start)).act action := by
        rw [Machine.step, started.table, acts]
      refine ⟨action, acts, stepped, ?_⟩
      intro failure fails
      rw [stepped] at fails
      exact Machine.act_failure _ action fails
    · intro check first
      have fails := (decided.error_iff check.failure).mpr ⟨check, first, rfl⟩
      refine ⟨machine.record (.started stmt.typeName stmt.span.start), ?_, started.table,
        started.console⟩
      rw [Machine.step, started.table, fails]

end Astro
