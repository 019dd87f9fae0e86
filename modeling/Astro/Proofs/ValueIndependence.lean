import Astro.Proofs.FailedRuns

/-!
# Failures do not depend on numbers

Programs that differ only in their numerals, on tables that differ only in the values of
numbers, run alike: the same statements are executed, as many lines are written, and
both runs succeed or fail in the same way. No value is ever looked at to decide what to
do next, so what an operation gives, be it infinite or no number at all, cannot matter.

Programs and tables are compared by leaving the values out. One computation is compared
with another by forgetting what it gives and keeping how it fails. The output is any that
takes or refuses a write by the number of writes before it.
-/

namespace Astro

mutual

/-- An expression without the values of its numerals and how they are written. -/
def Expr.valueless : Expr → Expr
  | .name occurrence => .name occurrence
  | .numeral span _ _ => .numeral span [] 0
  | .unary span op operand => .unary span op operand.valueless
  | .binary span op left right => .binary span op left.valueless right.valueless
  | .call span callee args argsSpan => .call span callee (Expr.valuelessAll args) argsSpan
  | .foreign span typeName => .foreign span typeName

/-- Expressions without the values of their numerals. Their number stays the same. -/
def Expr.valuelessAll : List Expr → List Expr
  | [] => []
  | first :: rest => first.valueless :: Expr.valuelessAll rest

end

/-- A statement without the values of its numerals. Names, operators and places stay as they are. -/
def Stmt.valueless : Stmt → Stmt
  | .assign span target value => .assign span target value.valueless
  | .call span ⟨outer, callee, args, argsSpan⟩ =>
    .call span ⟨outer, callee, Expr.valuelessAll args, argsSpan⟩
  | .print span value => .print span value.valueless
  | .foreign span typeName => .foreign span typeName

/-- A program without the values of its numerals. Two programs that differ only in these values
are the same without them. -/
def Program.valueless (program : Program) : Program :=
  { program with body := program.body.map Stmt.valueless }

/-- A binding without its value, if it is a number. -/
def Binding.valueless : Binding → Binding
  | .number _ mutable => .number 0 mutable
  | other => other

namespace Table

/-- Two tables bind the same names, and differ at most in the values of numbers. -/
def SameButValues (first second : Table) : Prop :=
  ∀ name, (first.lookup? name).map Binding.valueless = (second.lookup? name).map Binding.valueless

/-- The only procedure that a table binds is the one that prints. -/
def PrintsOnly (table : Table) : Prop :=
  ∀ name routine, table.lookup? name = some (.procedure routine) → routine = printProcedure

end Table

/-- Two computations in two steps fail alike, and give the same as far as it is seen, when
the first steps do and the second ones do behind what those give. -/
theorem map_bind_congr {α β γ δ : Type} {kept : α → γ} {seen : β → δ}
    {first second : Except Failure α} {left right : α → Except Failure β}
    (same : first.map kept = second.map kept)
    (behind : ∀ value other, kept value = kept other →
      (left value).map seen = (right other).map seen) :
    (first >>= left).map seen = (second >>= right).map seen := by
  cases first with
  | error failure =>
    cases second with
    | error other =>
      cases same
      rfl
    | ok other => cases same
  | ok value =>
    cases second with
    | error failure => cases same
    | ok other => exact behind value other (Except.ok.inj same)

/-- Nothing, in place of a number. It makes results comparable whose values are not. -/
def unseen (_ : Float) : Unit := ()

/-- What is not seen of two numbers is the same. -/
theorem ok_unseen (value other : Float) :
    (Except.ok value : Except Failure Float).map unseen = (Except.ok other).map unseen :=
  congrArg Except.ok (Subsingleton.elim _ _)

namespace Table

variable {first second : Table}

/-- A table is the same as itself, values included. Programs are compared on one machine in this
way. -/
theorem SameButValues.refl (table : Table) : SameButValues table table := fun _ => rfl

/-- Names are resolved alike. Both tables bind the name, to bindings that differ in values at
most, or neither does. -/
theorem SameButValues.resolve (same : SameButValues first second) (name : Name) :
    (first.resolve name).map Binding.valueless = (second.resolve name).map Binding.valueless := by
  have bound := same name.text
  rw [Table.resolve, Table.resolve]
  cases left : first.lookup? name.text with
  | none =>
    cases right : second.lookup? name.text with
    | none => rfl
    | some binding =>
      rw [left, right] at bound
      cases bound
  | some binding =>
    cases right : second.lookup? name.text with
    | none =>
      rw [left, right] at bound
      cases bound
    | some other =>
      rw [left, right] at bound
      exact congrArg Except.ok (Option.some.inj bound)

/-- Bindings that differ in their values are numbers. A function and a procedure have no value to
leave out, so that they are the same on both sides. -/
theorem valueless_cases {binding other : Binding} (same : binding.valueless = other.valueless) :
    (∃ value another mutable, binding = .number value mutable ∧ other = .number another mutable) ∨
      binding = other := by
  cases binding with
  | number value mutable =>
    cases other with
    | number another changeable =>
      cases same
      exact .inl ⟨value, another, _, rfl, rfl⟩
    | function routine => cases same
    | procedure routine => cases same
  | function routine =>
    cases other <;> cases same
    exact .inr rfl
  | procedure routine =>
    cases other <;> cases same
    exact .inr rfl

/-- Names stand for numbers alike. Or they fail alike, at the same place. -/
theorem SameButValues.valueOf (same : SameButValues first second) (name : Name) :
    (first.valueOf name).map unseen = (second.valueOf name).map unseen := by
  refine map_bind_congr (same.resolve name) ?_
  intro binding other alike
  rcases valueless_cases alike with ⟨value, another, mutable, rfl, rfl⟩ | rfl
  · rfl
  · rfl

/-- As many arguments fit alike. Whether they fit is a matter of their number. -/
theorem fitArguments?_alike {values others : List Float} (count : values.length = others.length)
    (arity : Int) :
    (fitArguments? arity values = none ∧ fitArguments? arity others = none) ∨
      ∃ fitting another, fitArguments? arity values = some fitting ∧
        fitArguments? arity others = some another := by
  by_cases fits : (values.length : Int) = arity
  · have also : (others.length : Int) = arity := by rw [← count, fits]
    exact .inr ⟨_, _, dif_pos fits, dif_pos also⟩
  · have neither : (others.length : Int) ≠ arity := by rwa [← count]
    exact .inl ⟨dif_neg fits, dif_neg neither⟩

/-- Functions are applied alike to as many arguments. The callee is the same routine in both
tables unless it is a number, and whether the arguments fit depends on their number. -/
theorem SameButValues.applyFunction (same : SameButValues first second) (callee : Name)
    {values others : List Float} (count : values.length = others.length) (argsSpan : Span) :
    (first.applyFunction callee values argsSpan).map unseen =
      (second.applyFunction callee others argsSpan).map unseen := by
  refine map_bind_congr (same.resolve callee) ?_
  intro binding other alike
  rcases valueless_cases alike with ⟨value, another, mutable, rfl, rfl⟩ | rfl
  · rfl
  · cases binding with
    | number value mutable => rfl
    | procedure routine => rfl
    | function routine =>
      rcases fitArguments?_alike count routine.arity with ⟨left, right⟩ | ⟨_, _, left, right⟩
      · simp only [left, right]
      · simp only [left, right]
        rfl

/-- Procedures are performed alike on as many arguments. The callee is the same routine in both
tables unless it is a number. What it performs may depend on the arguments, but not whether it is
performed. -/
theorem SameButValues.performProcedure (same : SameButValues first second) (callee : Name)
    {values others : List Float} (count : values.length = others.length) (argsSpan : Span) :
    (first.performProcedure callee values argsSpan).map (fun _ => ()) =
      (second.performProcedure callee others argsSpan).map (fun _ => ()) := by
  refine map_bind_congr (same.resolve callee) ?_
  intro binding other alike
  rcases valueless_cases alike with ⟨value, another, mutable, rfl, rfl⟩ | rfl
  · rfl
  · cases binding with
    | number value mutable => rfl
    | function routine => rfl
    | procedure routine =>
      rcases fitArguments?_alike count routine.arity with ⟨left, right⟩ | ⟨_, _, left, right⟩
      · simp only [left, right]
      · simp only [left, right]
        rfl

/-- The same names can be assigned to. Whether a name is bound, to what and whether that can be
changed is no matter of values. -/
theorem SameButValues.checkAssignable (same : SameButValues first second) (target : Name) :
    first.checkAssignable target = second.checkAssignable target := by
  have bound := same target.text
  rw [Table.checkAssignable, Table.checkAssignable]
  cases left : first.lookup? target.text with
  | none =>
    rw [left, Option.map_none, eq_comm, Option.map_eq_none_iff] at bound
    rw [bound]
  | some binding =>
    rw [left, Option.map_some, eq_comm, Option.map_eq_some_iff] at bound
    obtain ⟨other, right, alike⟩ := bound
    rw [right]
    rcases valueless_cases alike with ⟨value, another, mutable, rfl, rfl⟩ | rfl
    · cases mutable <;> rfl
    · rfl

/-- Tables stay the same but for values when a number is defined in both. -/
theorem SameButValues.define (same : SameButValues first second) (name : Text)
    (value other : Float) :
    SameButValues (first.define name (.number value true))
      (second.define name (.number other true)) := by
  intro asked
  rw [lookup?_define, lookup?_define]
  by_cases here : asked = name
  · rw [if_pos here, if_pos here]
    rfl
  · rw [if_neg here, if_neg here]
    exact same asked

/-- Procedures are the same in tables that are the same but for values. -/
theorem PrintsOnly.transfer (prints : PrintsOnly first) (same : SameButValues first second) :
    PrintsOnly second := by
  intro name routine found
  have bound := same name
  rw [found, Option.map_some, Option.map_eq_some_iff] at bound
  obtain ⟨binding, before, alike⟩ := bound
  rcases valueless_cases alike with ⟨_, _, _, _, impossible⟩ | rfl
  · cases impossible
  · exact prints name routine before

/-- The tables that programs start with bind no other procedure. -/
theorem printsOnly_initial (dialect : Dialect) : PrintsOnly (initial dialect) := by
  intro name routine found
  have member := (lookup?_initial_iff dialect name _).mp found
  unfold given at member
  split at member
  · simp only [builtins, unary, List.mem_append, List.mem_cons, List.not_mem_nil, Prod.mk.injEq,
      reduceCtorEq, and_false, or_false, false_or, Binding.procedure.injEq] at member
    exact member.2
  · simp [builtins, unary] at member

/-- Defining a number adds no procedure. Nor does it change the procedure that is there. -/
theorem PrintsOnly.define (prints : PrintsOnly first) (name : Text) (value : Float) :
    PrintsOnly (first.define name (.number value true)) := by
  intro asked routine found
  rw [lookup?_define] at found
  split at found
  · cases found
  · exact prints asked routine found

end Table

section Evaluation

variable {first second : Table}

mutual

/-- Expressions are evaluated alike when values are left out.

Proof: induction on expressions and lists of them together. Every step of an evaluation
looks only at how the one before it ended. -/
theorem Expr.evaluate_valueless (same : first.SameButValues second) :
    (expr : Expr) → (expr.evaluate first).map unseen = (expr.valueless.evaluate second).map unseen
  | .name occurrence => by
    rw [valueless, evaluate, evaluate]
    exact same.valueOf occurrence
  | .numeral span raw value => by
    rw [valueless, evaluate, evaluate]
    exact ok_unseen _ _
  | .unary span op operand => by
    rw [valueless, evaluate, evaluate]
    refine map_bind_congr (operand.evaluate_valueless same) ?_
    intro value other _
    exact ok_unseen _ _
  | .binary span op left right => by
    rw [valueless, evaluate, evaluate]
    refine map_bind_congr (left.evaluate_valueless same) ?_
    intro value other _
    refine map_bind_congr (right.evaluate_valueless same) ?_
    intro value other _
    cases operation? op with
    | none => rfl
    | some operation => exact ok_unseen _ _
  | .call span callee args argsSpan => by
    rw [valueless, evaluate, evaluate]
    refine map_bind_congr (Expr.evaluateAll_valueless same args) ?_
    intro values others count
    exact same.applyFunction callee count argsSpan
  | .foreign span typeName => by
    rw [valueless, evaluate, evaluate]

/-- So are lists of expressions, to as many values. Or the first that fails does so in both. -/
theorem Expr.evaluateAll_valueless (same : first.SameButValues second) :
    (args : List Expr) → (Expr.evaluateAll first args).map List.length =
      (Expr.evaluateAll second (Expr.valuelessAll args)).map List.length
  | [] => by
    rw [valuelessAll, evaluateAll, evaluateAll]
  | arg :: rest => by
    rw [valuelessAll, evaluateAll, evaluateAll]
    refine map_bind_congr (arg.evaluate_valueless same) ?_
    intro value other _
    refine map_bind_congr (Expr.evaluateAll_valueless same rest) ?_
    intro values others count
    exact congrArg (fun length => Except.ok (length + 1)) count

end

/-- The name that an action defines, if it defines one. -/
def Action.target? : Action → Option Text
  | .define name _ => some name
  | .perform _ => none

/-- Nothing is defined by what is performed, whatever it is. -/
theorem Action.ok_perform (performance other : Performance) :
    (Except.ok (.perform performance) : Except Failure Action).map target? =
      (Except.ok (.perform other) : Except Failure Action).map target? := rfl

/-- Statements are checked alike when values are left out. The checks of both fail in the same
way, and otherwise both define the same name or both perform something. -/
theorem Stmt.action_valueless (same : first.SameButValues second) (stmt : Stmt) :
    (stmt.action first).map Action.target? = (stmt.valueless.action second).map Action.target? := by
  cases stmt with
  | assign span target value =>
    refine map_bind_congr (value.evaluate_valueless same) ?_
    intro result other _
    rw [same.checkAssignable]
    cases second.checkAssignable target <;> rfl
  | call span called =>
    refine map_bind_congr (Expr.evaluateAll_valueless same called.args) ?_
    intro values others count
    refine map_bind_congr (same.performProcedure called.callee count called.argsSpan) ?_
    intro performance other _
    exact Action.ok_perform _ _
  | print span value =>
    refine map_bind_congr (value.evaluate_valueless same) ?_
    intro result other _
    exact Action.ok_perform _ _
  | foreign span typeName => rfl

/-- Statements that differ only in values are checked alike. Leaving the values out makes them the
same statement. -/
theorem Stmt.action_alike (same : first.SameButValues second) {stmt other : Stmt}
    (alike : stmt.valueless = other.valueless) :
    (stmt.action first).map Action.target? = (other.action second).map Action.target? := by
  rw [stmt.action_valueless same, alike]
  exact (other.action_valueless (Table.SameButValues.refl second)).symm

/-- Where only printing is a procedure, a statement that performs something prints one
line. -/
theorem Stmt.exists_line {table : Table} (prints : table.PrintsOnly) {stmt : Stmt}
    {performance : Performance} (acts : stmt.action table = .ok (.perform performance)) :
    ∃ value, performance = .script [Table.printedLine value] none := by
  rcases Stmt.perform_cases acts with
    ⟨span, value, result, rfl, -, rfl⟩ | ⟨routine, args, calls, rfl⟩
  · exact ⟨result, rfl⟩
  · obtain ⟨span, called, values, rfl, -, bound, -⟩ := calls
    obtain rfl := prints _ routine bound
    exact ⟨_, rfl⟩

end Evaluation

namespace Console

/-- A console behaves as an output that decides by the number of writes before. The output
is given by the error of the write behind so many others, or none when that is taken. As
long as the console has room, the output takes what comes; and what the console has no
room for, the output refuses with the same error. -/
def Follows (output : Nat → Option Text) (console : Console) : Prop :=
  match console.room with
  | none => ∀ more, output (console.written.length + more) = none
  | some room =>
    (∀ more < room, output (console.written.length + more) = none) ∧
      output (console.written.length + room) = some console.refusal

/-- There is a console for every such output. -/
theorem exists_follows (output : Nat → Option Text) :
    ∃ console : Console, console.written = [] ∧ console.Follows output := by
  by_cases ever : ∃ count, output count ≠ none
  · classical
    obtain ⟨refusal, refuses⟩ := Option.ne_none_iff_exists'.mp (Nat.find_spec ever)
    refine ⟨⟨[], some (Nat.find ever), refusal⟩, rfl, ?_, ?_⟩
    · intro more before
      have taken := Nat.find_min ever before
      simpa using taken
    · simpa using refuses
  · refine ⟨.unlimited, rfl, ?_⟩
    intro more
    simpa [unlimited] using not_exists.mp ever more

/-- A printed line ends a line. The newline is its last byte. -/
theorem endsLine_printedLine (value : Float) : endsLine (Table.printedLine value) = true := by
  have ending : Text.ofString "\n" = [Text.newline] := by decide
  rw [endsLine, Table.printedLine, ending, List.getLast?_concat, decide_eq_true rfl]

/-- A console that follows an output writes a line or refuses it as the output does. The number of
lines written so far decides which of the two happens. Behind a line that is written the console
follows the output further. -/
theorem Follows.write {output : Nat → Option Text} {console : Console}
    (follows : console.Follows output) {line : Text} (ends : endsLine line = true) :
    (output console.written.length = none ∧ ∃ after, console.write? line = some after ∧
      after.Follows output ∧ after.written = console.written ++ [line]) ∨
    (output console.written.length = some console.refusal ∧ console.write? line = none) := by
  obtain ⟨written, room, refusal⟩ := console
  simp only [write?, ends, if_true]
  cases room with
  | none =>
    refine .inl ⟨follows 0, _, rfl, ?_, rfl⟩
    intro more
    have onward := follows (1 + more)
    simpa [Nat.add_assoc] using onward
  | some room =>
    obtain ⟨takes, refuses⟩ := follows
    cases room with
    | zero => exact .inr ⟨refuses, rfl⟩
    | succ room =>
      refine .inl ⟨takes 0 (Nat.succ_pos room), _, rfl, ⟨?_, ?_⟩, rfl⟩
      · intro more before
        have onward := takes (1 + more) (by omega)
        simpa [Nat.add_assoc] using onward
      · simpa [Nat.add_assoc, Nat.add_comm 1 room] using refuses

end Console

namespace Machine

/-- How many statements are executed: all up to the first that fails, and that one. -/
def executed {σ : Type} [Output σ] (machine : Machine σ) : List Stmt → Nat
  | [] => 0
  | stmt :: rest =>
    match machine.step stmt with
    | (_, some _) => 1
    | (after, none) => 1 + after.executed rest

/-- Two machines are the same but for values, and have written as much to the same
output. -/
structure Parallel (output : Nat → Option Text) (first second : Machine Console) : Prop where
  table : first.table.SameButValues second.table
  prints : first.table.PrintsOnly
  left : first.console.Follows output
  right : second.console.Follows output
  writes : first.console.written.length = second.console.written.length

variable {output : Nat → Option Text} {first second : Machine Console}

/-- Tracing does not matter. -/
theorem Parallel.record (parallel : Parallel output first second) (event other : Event) :
    Parallel output (first.record event) (second.record other) := by
  have before := agrees_record first event
  have behind := agrees_record second other
  obtain ⟨table, prints, left, right, writes⟩ := parallel
  constructor
  · rwa [before.table, behind.table]
  · rwa [before.table]
  · rwa [before.console]
  · rwa [behind.console]
  · rwa [before.console, behind.console]

/-- Defining the same name, to whatever values. The tables stay the same but for values, and
nothing is written. -/
theorem Parallel.define (parallel : Parallel output first second) (name : Text)
    (value other : Float) :
    Parallel output (first.act (.define name value)).1 (second.act (.define name other)).1 := by
  obtain ⟨table, prints, left, right, writes⟩ := parallel
  have defined : Parallel output
      { first with table := first.table.define name (.number value true) }
      { second with table := second.table.define name (.number other true) } :=
    ⟨table.define name value other, prints.define name value, left, right, writes⟩
  exact defined.record (.assigned name value) (.assigned name other)

/-- Printing a line each: both are written, or both are refused with the same error. Both consoles
have written the same number of lines, so that the output takes both lines or refuses both. -/
theorem Parallel.print (parallel : Parallel output first second) (value other : Float) :
    (first.act (.perform (.script [Table.printedLine value] none))).2 =
        (second.act (.perform (.script [Table.printedLine other] none))).2 ∧
      Parallel output (first.act (.perform (.script [Table.printedLine value] none))).1
        (second.act (.perform (.script [Table.printedLine other] none))).1 := by
  obtain ⟨table, prints, left, right, writes⟩ := parallel
  have ahead := left.write (Console.endsLine_printedLine value)
  have behind := right.write (Console.endsLine_printedLine other)
  rw [← writes] at behind
  rcases ahead with ⟨takes, after, wrote, onward, written⟩ | ⟨refuses, full⟩
  · rcases behind with ⟨-, later, also, further, more⟩ | ⟨refuses, -⟩
    · simp only [act, Performance.run_line, Output.write, wrote, also]
      refine ⟨trivial, table, prints, onward, further, ?_⟩
      simp only [written, more, List.length_append, writes, List.length_singleton]
    · rw [takes] at refuses
      cases refuses
  · rcases behind with ⟨takes, -⟩ | ⟨again, also⟩
    · rw [takes] at refuses
      cases refuses
    · simp only [act, Performance.run_line, Output.write, full, also]
      rw [refuses] at again
      rw [Option.some.inj again]
      exact ⟨rfl, table, prints, left, right, writes⟩

/-- Statements that differ only in values do the same, but for values.

Proof: both are recorded as started, and their checks fail alike. What they do otherwise is a
definition of the same name or the printing of a line, since no other procedure is bound. -/
theorem Parallel.step (parallel : Parallel output first second) {stmt other : Stmt}
    (alike : stmt.valueless = other.valueless) :
    (first.step stmt).2 = (second.step other).2 ∧
      Parallel output (first.step stmt).1 (second.step other).1 := by
  have started := parallel.record (.started stmt.typeName stmt.span.start)
    (.started other.typeName other.span.start)
  have checked := Stmt.action_alike started.table alike
  simp only [Machine.step]
  cases acts : stmt.action (first.record (.started stmt.typeName stmt.span.start)).table with
  | error failure =>
    rw [acts] at checked
    cases also : other.action (second.record (.started other.typeName other.span.start)).table with
    | error another =>
      rw [also] at checked
      cases checked
      exact ⟨rfl, started⟩
    | ok action =>
      rw [also] at checked
      cases checked
  | ok action =>
    rw [acts] at checked
    cases also : other.action (second.record (.started other.typeName other.span.start)).table with
    | error another =>
      rw [also] at checked
      cases checked
    | ok counterpart =>
      rw [also] at checked
      have target : action.target? = counterpart.target? := Except.ok.inj checked
      cases action with
      | define name value =>
        cases counterpart with
        | perform performance => cases target
        | define another result =>
          cases target
          exact ⟨rfl, started.define name value result⟩
      | perform performance =>
        cases counterpart with
        | define another result => cases target
        | perform counterpart =>
          obtain ⟨value, rfl⟩ := Stmt.exists_line started.prints acts
          obtain ⟨result, rfl⟩ := Stmt.exists_line (started.prints.transfer started.table) also
          exact started.print value result

/-- Programs that differ only in values do the same, but for values.

Proof: induction on the statements. Those before the first that fails keep the machines
the same but for values, and then both fail or neither does. -/
theorem Parallel.run (parallel : Parallel output first second) {left right : List Stmt}
    (alike : left.map Stmt.valueless = right.map Stmt.valueless) :
    first.executed left = second.executed right ∧
      (first.run left).2 = (second.run right).2 ∧
      Parallel output (first.run left).1 (second.run right).1 := by
  induction left generalizing first second right with
  | nil =>
    obtain rfl : right = [] := List.map_eq_nil_iff.mp alike.symm
    exact ⟨rfl, rfl, parallel⟩
  | cons stmt rest others =>
    cases right with
    | nil => cases alike
    | cons other more =>
      obtain ⟨here, later⟩ := List.cons.inj alike
      obtain ⟨same, after⟩ := parallel.step here
      simp only [executed, Machine.run]
      cases stepped : first.step stmt with
      | mk reached failure =>
        cases also : second.step other with
        | mk counterpart another =>
          rw [stepped, also] at same after
          obtain rfl : failure = another := same
          cases failure with
          | some failure => exact ⟨rfl, rfl, after⟩
          | none =>
            obtain ⟨count, fails, ends⟩ := others after later
            exact ⟨congrArg (1 + ·) count, fails, ends⟩

/-- Whether and how a program fails does not depend on numbers. Two programs that differ
only in the values and spellings of numerals, run on tables that differ only in the values
of numbers and bind no procedure but printing, with outputs that decide alike by the number
of writes, execute as many statements, write as often, fail in the same way or not at all,
and leave tables that differ only in values. -/
theorem run_valueless (output : Nat → Option Text) (first second : Machine Console)
    (left right : Program) (programs : left.valueless = right.valueless)
    (tables : first.table.SameButValues second.table)
    (printsOnly : first.table.PrintsOnly)
    (outputs : first.console.Follows output ∧ second.console.Follows output)
    (writes : first.console.written.length = second.console.written.length) :
    first.executed left.body = second.executed right.body ∧
      (first.run left.body).1.console.written.length =
        (second.run right.body).1.console.written.length ∧
      (first.run left.body).2 = (second.run right.body).2 ∧
      (first.run left.body).1.table.SameButValues (second.run right.body).1.table := by
  have alike : left.body.map Stmt.valueless = right.body.map Stmt.valueless :=
    congrArg Program.body programs
  have parallel : Parallel output first second :=
    ⟨tables, printsOnly, outputs.1, outputs.2, writes⟩
  obtain ⟨count, fails, ends⟩ := parallel.run alike
  exact ⟨count, ends.writes, fails, ends.table⟩

/-- Two programs that differ in every number, on an output that refuses the second write
and no other, both stop there. -/
theorem run_valueless_refused :
    let output : Nat → Option Text := fun count =>
      if count = 1 then some (Text.ofString "full") else none
    let machine (value : Float) : Machine Console :=
      ⟨(Table.initial Dialect.full).define (Text.ofString "x") (.number value true),
        .limited 1 (Text.ofString "full"), .silent, []⟩
    let program (raw : Text) (value : Float) : Program :=
      ⟨.nowhere, [.print .nowhere (.binary .nowhere .slash (.name ⟨.nowhere, Text.ofString "x"⟩)
          (.numeral .nowhere raw value)),
        .print .nowhere (.numeral .nowhere raw value),
        .assign .nowhere ⟨.nowhere, Text.ofString "x"⟩ (.numeral .nowhere raw value)]⟩
    (program (Text.ofString "0") 0).valueless = (program (Text.ofString "7") 7).valueless ∧
      (machine 1).table.SameButValues (machine 2).table ∧ (machine 1).table.PrintsOnly ∧
      ((machine 1).console.Follows output ∧ (machine 2).console.Follows output) ∧
      (machine 1).console.written.length = (machine 2).console.written.length ∧
      ((machine 1).executed (program (Text.ofString "0") 0).body =
          (machine 2).executed (program (Text.ofString "7") 7).body ∧
        ((machine 1).run (program (Text.ofString "0") 0).body).1.console.written.length =
          ((machine 2).run (program (Text.ofString "7") 7).body).1.console.written.length ∧
        ((machine 1).run (program (Text.ofString "0") 0).body).2 =
          ((machine 2).run (program (Text.ofString "7") 7).body).2 ∧
        ((machine 1).run (program (Text.ofString "0") 0).body).1.table.SameButValues
          ((machine 2).run (program (Text.ofString "7") 7).body).1.table) := by
  intro output machine program
  have programs : (program (Text.ofString "0") 0).valueless =
      (program (Text.ofString "7") 7).valueless := by
    simp only [program, Program.valueless, List.map_cons, List.map_nil, Stmt.valueless,
      Expr.valueless]
  have tables : (machine 1).table.SameButValues (machine 2).table :=
    (Table.SameButValues.refl _).define _ 1 2
  have printsOnly : (machine 1).table.PrintsOnly := (Table.printsOnly_initial _).define _ 1
  have follows : (Console.limited 1 (Text.ofString "full")).Follows output := by
    refine ⟨?_, rfl⟩
    intro more before
    obtain rfl : more = 0 := by omega
    rfl
  exact ⟨programs, tables, printsOnly, ⟨follows, follows⟩, rfl,
    run_valueless output (machine 1) (machine 2) _ _ programs tables printsOnly ⟨follows, follows⟩ rfl⟩

end Machine

end Astro
