import Astro.Proofs.Bindings

/-!
# What a failed check is about

Evaluation goes from left to right and stops at the first name or call that does not fit
what it is bound to. That is the offender, and where it stands is where the failure is
reported: a name at its own span, and a call with a wrong number of arguments at the span
of those. A statement is checked in the same way.

In a derived statement every offender comes from tokens of the statement. Nothing else
can go wrong there, because the operators of derived trees denote operations and no node
is foreign.
-/

namespace Astro

/-- What a failed check is about: an occurrence of a name, or a call. -/
inductive Offender where
  | name (occurrence : Name)
  | call (called : Call)

/-- Where an offender is reported. A name is reported where it occurs, and a call at its
arguments. -/
def Offender.span : Offender → Span
  | name occurrence => occurrence.span
  | call called => called.argsSpan

/-- The first check that fails when an expression is evaluated, and what it is about.
Everything that is evaluated before has a value. -/
inductive Expr.Offends (table : Table) : Expr → Fault.Cause → Offender → Prop where
  | unbound {name : Name} (missing : table.lookup? name.text = none) :
      Offends table (.name name) (.undefined name.text) (.name name)
  | noNumber {name : Name} {binding : Binding} (bound : table.lookup? name.text = some binding)
      (other : ∀ value mutable, binding ≠ .number value mutable) :
      Offends table (.name name) .numberExpected (.name name)
  | operand {span : Span} {op : Token.Kind} {operand : Expr} {cause : Fault.Cause}
      {offender : Offender} (inside : Offends table operand cause offender) :
      Offends table (.unary span op operand) cause offender
  | left {span : Span} {op : Token.Kind} {left right : Expr} {cause : Fault.Cause}
      {offender : Offender} (inside : Offends table left cause offender) :
      Offends table (.binary span op left right) cause offender
  | right {span : Span} {op : Token.Kind} {left right : Expr} {cause : Fault.Cause}
      {offender : Offender} {value : Float} (before : left.evaluate table = .ok value)
      (inside : Offends table right cause offender) :
      Offends table (.binary span op left right) cause offender
  | argument {span argsSpan : Span} {callee : Name} {earlier later : List Expr} {argument : Expr}
      {cause : Fault.Cause} {offender : Offender} {values : List Float}
      (before : Expr.evaluateAll table earlier = .ok values)
      (inside : Offends table argument cause offender) :
      Offends table (.call span callee (earlier ++ argument :: later) argsSpan) cause offender
  | unboundCallee {span argsSpan : Span} {callee : Name} {args : List Expr} {values : List Float}
      (before : Expr.evaluateAll table args = .ok values)
      (missing : table.lookup? callee.text = none) :
      Offends table (.call span callee args argsSpan) (.undefined callee.text) (.name callee)
  | noFunction {span argsSpan : Span} {callee : Name} {args : List Expr} {values : List Float}
      {binding : Binding} (before : Expr.evaluateAll table args = .ok values)
      (bound : table.lookup? callee.text = some binding)
      (other : ∀ routine, binding ≠ .function routine) :
      Offends table (.call span callee args argsSpan) .functionExpected (.name callee)
  | count {span argsSpan : Span} {callee : Name} {args : List Expr} {values : List Float}
      {routine : NativeFunction} (before : Expr.evaluateAll table args = .ok values)
      (bound : table.lookup? callee.text = some (.function routine))
      (differs : (args.length : Int) ≠ routine.arity) :
      Offends table (.call span callee args argsSpan) .argumentCount
        (.call ⟨span, callee, args, argsSpan⟩)

/-- The first check of a statement that fails, and what it is about. -/
inductive Stmt.Offends (table : Table) : Stmt → Fault.Cause → Offender → Prop where
  | assigned {span : Span} {target : Name} {value : Expr} {cause : Fault.Cause}
      {offender : Offender} (inside : value.Offends table cause offender) :
      Offends table (.assign span target value) cause offender
  | notWritable {span : Span} {target : Name} {value : Expr} {result number : Float}
      (before : value.evaluate table = .ok result)
      (bound : table.lookup? target.text = some (.number number false)) :
      Offends table (.assign span target value) (.notWritable target.text) (.name target)
  | cannotAssign {span : Span} {target : Name} {value : Expr} {result : Float} {binding : Binding}
      (before : value.evaluate table = .ok result)
      (bound : table.lookup? target.text = some binding)
      (other : ∀ value mutable, binding ≠ .number value mutable) :
      Offends table (.assign span target value) .cannotAssign (.name target)
  | argument {span : Span} {called : Call} {earlier later : List Expr} {argument : Expr}
      {cause : Fault.Cause} {offender : Offender} {values : List Float}
      (listed : called.args = earlier ++ argument :: later)
      (before : Expr.evaluateAll table earlier = .ok values)
      (inside : argument.Offends table cause offender) :
      Offends table (.call span called) cause offender
  | unboundCallee {span : Span} {called : Call} {values : List Float}
      (before : Expr.evaluateAll table called.args = .ok values)
      (missing : table.lookup? called.callee.text = none) :
      Offends table (.call span called) (.undefined called.callee.text) (.name called.callee)
  | noProcedure {span : Span} {called : Call} {values : List Float} {binding : Binding}
      (before : Expr.evaluateAll table called.args = .ok values)
      (bound : table.lookup? called.callee.text = some binding)
      (other : ∀ routine, binding ≠ .procedure routine) :
      Offends table (.call span called) .procedureExpected (.name called.callee)
  | count {span : Span} {called : Call} {values : List Float} {routine : NativeProcedure}
      (before : Expr.evaluateAll table called.args = .ok values)
      (bound : table.lookup? called.callee.text = some (.procedure routine))
      (differs : (called.args.length : Int) ≠ routine.arity) :
      Offends table (.call span called) .argumentCount (.call called)
  | printed {span : Span} {value : Expr} {cause : Fault.Cause} {offender : Offender}
      (inside : value.Offends table cause offender) :
      Offends table (.print span value) cause offender

/-- There are as many values as expressions. -/
theorem Expr.length_evaluateAll {table : Table} {args : List Expr} {values : List Float}
    (evaluated : Expr.evaluateAll table args = .ok values) : values.length = args.length := by
  induction args generalizing values with
  | nil =>
    cases evaluated
    rfl
  | cons first rest others =>
    obtain ⟨value, -, evaluated⟩ := exists_of_bind evaluated
    obtain ⟨more, behind, evaluated⟩ := exists_of_bind evaluated
    cases evaluated
    rw [List.length_cons, List.length_cons, others behind]

/-- Arguments that do not fit are too few or too many. -/
theorem ne_arity_of_fitArguments? {arity : Int} {args : List Float}
    (misfit : fitArguments? arity args = none) : (args.length : Int) ≠ arity := by
  intro fits
  have some := (fitArguments_isSome arity args).mpr fits
  rw [misfit] at some
  cases some

namespace Table

variable {table : Table} {failure : Failure}

/-- A name that has no value is to blame for that. It is unbound, or it is bound to a function or
a procedure. -/
theorem valueOf_failed {name : Name} (fails : table.valueOf name = .error failure) :
    ∃ cause, (Expr.name name).Offends table cause (.name name) ∧
      failure = cause.failure name.span := by
  rw [valueOf] at fails
  rcases table.resolve_cases name with ⟨missing, resolved⟩ | ⟨binding, bound, resolved⟩
  · rw [resolved] at fails
    cases fails
    exact ⟨_, .unbound missing, rfl⟩
  · rw [resolved] at fails
    cases binding with
    | number value mutable => cases fails
    | function routine =>
      cases fails
      exact ⟨_, .noNumber bound (by simp), rfl⟩
    | procedure routine =>
      cases fails
      exact ⟨_, .noNumber bound (by simp), rfl⟩

/-- When a function cannot be applied, its name or the number of arguments is to blame. The name
is unbound or bound to something else than a function, or else the call is to blame. This comes up
only when all arguments have values. -/
theorem applyFunction_failed {called : Call} {values : List Float}
    (before : Expr.evaluateAll table called.args = .ok values)
    (fails : table.applyFunction called.callee values called.argsSpan = .error failure) :
    ∃ cause offender, called.toExpr.Offends table cause offender ∧
      (offender = .name called.callee ∨ offender = .call called) ∧
      failure = cause.failure offender.span := by
  rw [applyFunction] at fails
  rcases table.resolve_cases called.callee with ⟨missing, resolved⟩ | ⟨binding, bound, resolved⟩
  · rw [resolved] at fails
    cases fails
    exact ⟨_, _, .unboundCallee before missing, .inl rfl, rfl⟩
  · rw [resolved] at fails
    cases binding with
    | number value mutable =>
      cases fails
      exact ⟨_, _, .noFunction before bound (by simp), .inl rfl, rfl⟩
    | procedure routine =>
      cases fails
      exact ⟨_, _, .noFunction before bound (by simp), .inl rfl, rfl⟩
    | function routine =>
      cases misfit : fitArguments? routine.arity values with
      | some fitting => simp [Bind.bind, Except.bind, misfit] at fails
      | none =>
        have differs := ne_arity_of_fitArguments? misfit
        rw [Expr.length_evaluateAll before] at differs
        obtain rfl : Fault.Cause.argumentCount.failure called.argsSpan = failure := by
          simpa [Bind.bind, Except.bind, misfit] using fails
        exact ⟨_, _, .count before bound differs, .inr rfl, rfl⟩

/-- When a procedure cannot be performed, its name or the number of arguments is to blame. The
name is unbound or bound to something else than a procedure, or else the call is to blame, as it
is for a function. -/
theorem performProcedure_failed {span : Span} {called : Call} {values : List Float}
    (before : Expr.evaluateAll table called.args = .ok values)
    (fails : table.performProcedure called.callee values called.argsSpan = .error failure) :
    ∃ cause offender, (Stmt.call span called).Offends table cause offender ∧
      (offender = .name called.callee ∨ offender = .call called) ∧
      failure = cause.failure offender.span := by
  rw [performProcedure] at fails
  rcases table.resolve_cases called.callee with ⟨missing, resolved⟩ | ⟨binding, bound, resolved⟩
  · rw [resolved] at fails
    cases fails
    exact ⟨_, _, .unboundCallee before missing, .inl rfl, rfl⟩
  · rw [resolved] at fails
    cases binding with
    | number value mutable =>
      cases fails
      exact ⟨_, _, .noProcedure before bound (by simp), .inl rfl, rfl⟩
    | function routine =>
      cases fails
      exact ⟨_, _, .noProcedure before bound (by simp), .inl rfl, rfl⟩
    | procedure routine =>
      cases misfit : fitArguments? routine.arity values with
      | some fitting => simp [Bind.bind, Except.bind, misfit] at fails
      | none =>
        have differs := ne_arity_of_fitArguments? misfit
        rw [Expr.length_evaluateAll before] at differs
        obtain rfl : Fault.Cause.argumentCount.failure called.argsSpan = failure := by
          simpa [Bind.bind, Except.bind, misfit] using fails
        exact ⟨_, _, .count before bound differs, .inr rfl, rfl⟩

/-- A target that cannot be assigned to is to blame for that. It is a number that cannot be
changed, a function or a procedure. A name that is not bound yet can be assigned to. -/
theorem checkAssignable_failed {span : Span} {target : Name} {value : Expr} {result : Float}
    (before : value.evaluate table = .ok result)
    (fails : table.checkAssignable target = .error failure) :
    ∃ cause, (Stmt.assign span target value).Offends table cause (.name target) ∧
      failure = cause.failure target.span := by
  unfold checkAssignable at fails
  cases bound : table.lookup? target.text with
  | none =>
    rw [bound] at fails
    cases fails
  | some binding =>
    rw [bound] at fails
    cases binding with
    | number value mutable =>
      cases mutable with
      | true => cases fails
      | false =>
        cases fails
        exact ⟨_, .notWritable before bound, rfl⟩
    | function routine =>
      cases fails
      exact ⟨_, .cannotAssign before bound (by simp), rfl⟩
    | procedure routine =>
      cases fails
      exact ⟨_, .cannotAssign before bound (by simp), rfl⟩

end Table

namespace Grammar

variable {dialect : Dialect} {table : Table} {failure : Failure}

/-- An offender comes from some tokens: a name is one of them, and a call stands among them
as a name with arguments in parentheses. -/
def StandsAmong (dialect : Dialect) (tokens : List Token) : Offender → Prop
  | .name occurrence => ∃ token ∈ tokens, IsName dialect token ∧ occurrence = Name.ofToken token
  | .call called => ∃ name opening within closing,
      name :: opening :: (within ++ [closing]) <:+: tokens ∧ opening.kind = .leftParen ∧
      Arguments dialect within called.args ∧ closing.kind = .rightParen ∧
      called = Call.between (Name.ofToken name) within closing called.args

/-- What comes from some tokens comes from more of them. -/
theorem StandsAmong.wider {tokens more : List Token} {offender : Offender}
    (stands : StandsAmong dialect tokens offender) (inside : tokens <:+: more) :
    StandsAmong dialect more offender := by
  cases offender with
  | name occurrence =>
    obtain ⟨token, member, named⟩ := stands
    exact ⟨token, inside.subset member, named⟩
  | call called =>
    obtain ⟨name, opening, within, closing, among, call⟩ := stands
    exact ⟨name, opening, within, closing, among.trans inside, call⟩

/-- The name of a call, and the call itself, come from its tokens. -/
theorem standsAmong_call {name opening closing : Token} {within : List Token} {args : List Expr}
    (named : IsName dialect name) (opens : opening.kind = .leftParen)
    (listed : Arguments dialect within args) (closes : closing.kind = .rightParen)
    {offender : Offender}
    (either : offender = .name (Name.ofToken name) ∨
      offender = .call (Call.between (Name.ofToken name) within closing args)) :
    StandsAmong dialect (name :: opening :: (within ++ [closing])) offender := by
  rcases either with rfl | rfl
  · exact ⟨name, List.mem_cons_self, named, rfl⟩
  · exact ⟨name, opening, within, closing, List.infix_rfl, opens, listed, closes, rfl⟩

/-- A failure is about an offender of an expression, which comes from some tokens. -/
def Blames (dialect : Dialect) (table : Table) (tokens : List Token) (tree : Expr)
    (failure : Failure) : Prop :=
  ∃ cause offender, tree.Offends table cause offender ∧ StandsAmong dialect tokens offender ∧
    failure = cause.failure offender.span

/-- The same for the first of some expressions that fails. -/
def BlamesOne (dialect : Dialect) (table : Table) (tokens : List Token) (args : List Expr)
    (failure : Failure) : Prop :=
  ∃ earlier argument later values, args = earlier ++ argument :: later ∧
    Expr.evaluateAll table earlier = .ok values ∧ Blames dialect table tokens argument failure

/-- A failure that is about an offender among some tokens is about one among more of them. -/
theorem Blames.wider {tokens more : List Token} {tree : Expr}
    (blames : Blames dialect table tokens tree failure) (inside : tokens <:+: more) :
    Blames dialect table more tree failure := by
  obtain ⟨cause, offender, offends, stands, same⟩ := blames
  exact ⟨cause, offender, offends, stands.wider inside, same⟩

/-- When an operation fails, one of its operands has failed: the left one, or the right one with a
value on the left. With two values, only an operator without an operation could fail. -/
theorem Blames.join {first last : List Token} {op : Token} {kind : Token.Kind} {left right : Expr}
    (denotes : (operation? kind).isSome = true)
    (before : left.evaluate table = .error failure → Blames dialect table first left failure)
    (behind : right.evaluate table = .error failure → Blames dialect table last right failure)
    (fails : (Expr.join kind left right).evaluate table = .error failure) :
    Blames dialect table (first ++ op :: last) (Expr.join kind left right) failure := by
  rw [Expr.join, Expr.evaluate] at fails
  rcases failed_of_bind fails with fails | ⟨value, evaluated, fails⟩
  · obtain ⟨cause, offender, offends, stands, same⟩ := before fails
    exact ⟨cause, offender, .left offends, stands.wider ⟨[], op :: last, rfl⟩, same⟩
  rcases failed_of_bind fails with fails | ⟨other, alsoEvaluated, fails⟩
  · obtain ⟨cause, offender, offends, stands, same⟩ := behind fails
    refine ⟨cause, offender, .right evaluated offends, stands.wider ⟨first ++ [op], [], ?_⟩, same⟩
    simp
  · obtain ⟨operation, known⟩ := Option.isSome_iff_exists.mp denotes
    rw [known] at fails
    cases fails

mutual

/-- When an expression fails, that is about an offender in it. -/
theorem Expression.blames {tokens : List Token} {tree : Expr}
    (derived : Expression dialect tokens tree) (fails : tree.evaluate table = .error failure) :
    Blames dialect table tokens tree failure := by
  match derived with
  | .term only => exact only.blames fails
  | .sum before joins behind =>
    refine Blames.join ?_ before.blames behind.blames fails
    rcases joins with kind | kind <;> rw [kind] <;> rfl

/-- When a term fails, that is about an offender in it. -/
theorem Term.blames {tokens : List Token} {tree : Expr}
    (derived : Term dialect tokens tree) (fails : tree.evaluate table = .error failure) :
    Blames dialect table tokens tree failure := by
  match derived with
  | .factor only => exact only.blames fails
  | .product before joins behind =>
    refine Blames.join ?_ before.blames behind.blames fails
    rcases joins with kind | kind | ⟨kind, _⟩ <;> rw [kind] <;> rfl

/-- When a factor fails, that is about an offender in it. Negating a value cannot fail. -/
theorem Factor.blames {tokens : List Token} {tree : Expr}
    (derived : Factor dialect tokens tree) (fails : tree.evaluate table = .error failure) :
    Blames dialect table tokens tree failure := by
  match derived with
  | .power before joins behind => exact Blames.join rfl before.blames behind.blames fails
  | .negation enabled minus behind =>
    rcases failed_of_bind fails with fails | ⟨value, -, fails⟩
    · obtain ⟨cause, offender, offends, stands, same⟩ := behind.blames fails
      exact ⟨cause, offender, .operand offends, stands.wider (List.infix_cons List.infix_rfl),
        same⟩
    · cases fails
  | .primary only => exact only.blames fails

/-- When a primary fails, that is about an offender in it. A call is to blame itself only when all
its arguments have values, because its callee is looked at behind them. A numeral never fails. -/
theorem Primary.blames {tokens : List Token} {tree : Expr}
    (derived : Primary dialect tokens tree) (fails : tree.evaluate table = .error failure) :
    Blames dialect table tokens tree failure := by
  match derived with
  | @Primary.call _ name opening closing within args named opens listed closes =>
    rw [Call.toExpr, Expr.evaluate] at fails
    rcases failed_of_bind fails with fails | ⟨values, before, fails⟩
    · obtain ⟨earlier, argument, later, values, split, before, cause, offender, offends, stands,
        same⟩ := listed.blames fails
      refine ⟨cause, offender, ?_, stands.wider ⟨[name, opening], [closing], rfl⟩, same⟩
      obtain rfl : args = earlier ++ argument :: later := split
      exact .argument before offends
    · obtain ⟨cause, offender, offends, either, same⟩ := Table.applyFunction_failed before fails
      exact ⟨cause, offender, offends, standsAmong_call named opens listed closes either, same⟩
  | .number numeric denotes => cases fails
  | @Primary.name _ token named =>
    obtain ⟨cause, offends, same⟩ := Table.valueOf_failed fails
    exact ⟨cause, _, offends, ⟨token, List.mem_cons_self, named, rfl⟩, same⟩
  | @Primary.group _ opening closing within tree opens grouped closes =>
    exact (grouped.blames fails).wider ⟨[opening], [closing], rfl⟩

/-- When arguments of a call fail, that is about an offender in the first of them that fails. -/
theorem Arguments.blames {tokens : List Token} {args : List Expr}
    (derived : Arguments dialect tokens args)
    (fails : Expr.evaluateAll table args = .error failure) :
    BlamesOne dialect table tokens args failure := by
  match derived with
  | .none => cases fails
  | .some listed => exact listed.blames fails

/-- When one of some arguments fails, those before it have values, and the failure is about an
offender in it.

Proof: induction on the list. When the first one has a value, the failure is one of the others,
with that value before theirs. -/
theorem ArgumentList.blames {tokens : List Token} {args : List Expr}
    (derived : ArgumentList dialect tokens args)
    (fails : Expr.evaluateAll table args = .error failure) :
    BlamesOne dialect table tokens args failure := by
  match derived with
  | @ArgumentList.last _ _ tree only =>
    rcases failed_of_bind fails with fails | ⟨value, -, fails⟩
    · exact ⟨[], tree, [], [], rfl, rfl, only.blames fails⟩
    · cases fails
  | @ArgumentList.more _ first rest comma tree args before separates behind =>
    rcases failed_of_bind fails with fails | ⟨value, evaluated, fails⟩
    · exact ⟨[], tree, args, [], rfl, rfl, (before.blames fails).wider ⟨[], comma :: rest, rfl⟩⟩
    rcases failed_of_bind fails with fails | ⟨others, -, fails⟩
    · obtain ⟨earlier, argument, later, values, rfl, found, blames⟩ := behind.blames fails
      refine ⟨tree :: earlier, argument, later, value :: values, rfl, ?_, blames.wider ?_⟩
      · rw [Expr.evaluateAll, evaluated, found]
        rfl
      · exact ⟨first ++ [comma], [], by simp⟩
    · cases fails

end

/-- When a check of a statement fails, that is about an offender in it. Its expressions are
evaluated first, and only behind them is the target or the procedure looked at. -/
theorem Statement.blames {tokens : List Token} {stmt : Stmt}
    (derived : Statement dialect tokens stmt) (fails : stmt.action table = .error failure) :
    ∃ cause offender, stmt.Offends table cause offender ∧ StandsAmong dialect tokens offender ∧
      failure = cause.failure offender.span := by
  cases derived with
  | @assign name sign ending within value named assigns assigned ends =>
    rcases failed_of_bind fails with fails | ⟨result, before, fails⟩
    · obtain ⟨cause, offender, offends, stands, same⟩ := assigned.blames fails
      exact ⟨cause, offender, .assigned offends, stands.wider ⟨[name, sign], [ending], rfl⟩, same⟩
    rcases failed_of_bind fails with fails | ⟨_, -, fails⟩
    · obtain ⟨cause, offends, same⟩ := Table.checkAssignable_failed before fails
      exact ⟨cause, _, offends, ⟨name, List.mem_cons_self, named, rfl⟩, same⟩
    · cases fails
  | @call name opening closing ending within args named opens listed closes ends =>
    have front : name :: opening :: (within ++ [closing]) <:+:
        name :: opening :: (within ++ [closing] ++ [ending]) := ⟨[], [ending], rfl⟩
    rcases failed_of_bind fails with fails | ⟨values, before, fails⟩
    · obtain ⟨earlier, argument, later, values, split, before, cause, offender, offends, stands,
        same⟩ := listed.blames fails
      refine ⟨cause, offender, .argument split before offends, ?_, same⟩
      exact (stands.wider ⟨[name, opening], [closing], rfl⟩).wider front
    rcases failed_of_bind fails with fails | ⟨performance, -, fails⟩
    · obtain ⟨cause, offender, offends, either, same⟩ := Table.performProcedure_failed before fails
      have stands := standsAmong_call named opens listed closes either
      exact ⟨cause, offender, offends, stands.wider front, same⟩
    · cases fails
  | @print word ending within value keyword prints printed ends =>
    rcases failed_of_bind fails with fails | ⟨result, -, fails⟩
    · obtain ⟨cause, offender, offends, stands, same⟩ := printed.blames fails
      exact ⟨cause, offender, .printed offends, stands.wider ⟨[word], [ending], rfl⟩, same⟩
    · cases fails

end Grammar

end Astro
