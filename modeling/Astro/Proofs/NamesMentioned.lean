import Astro.Proofs.Engines

/-!
# Runs are confined to the names that they mention

What a program does depends only on what the names that occur in it stand for: its operands,
its callees and the names that it assigns to. On tables that agree on those, and outputs that
answer alike, it writes the same, fails in the same way, makes the same definitions in the
same order, and leaves tables that still agree.

It changes only the names that it assigns to. Every other name refers to the binding that it
referred to before, and that binding is as it was. This does not follow from the table alone
when names share a binding: it holds because a definition never changes a binding.
-/

namespace Astro

mutual

/-- The names that occur in an expression, callees among them. -/
def Expr.names : Expr → List Text
  | .name occurrence => [occurrence.text]
  | .numeral _ _ _ => []
  | .unary _ _ operand => operand.names
  | .binary _ _ left right => left.names ++ right.names
  | .call _ callee args _ => callee.text :: Expr.namesOf args
  | .foreign _ _ => []

/-- The names that occur in a list of expressions. -/
def Expr.namesOf : List Expr → List Text
  | [] => []
  | first :: rest => first.names ++ Expr.namesOf rest

end

/-- The name that a statement assigns to. Only an assignment has one. -/
def Stmt.target? : Stmt → Option Text
  | .assign _ target _ => some target.text
  | _ => none

/-- The names that occur in a statement, what it assigns to and what it calls among them. -/
def Stmt.names : Stmt → List Text
  | .assign _ target value => target.text :: value.names
  | .call _ called => called.toExpr.names
  | .print _ value => value.names
  | .foreign _ _ => []

/-- The names that occur in a program. They are those of its statements, one after another. -/
def Program.names (program : Program) : List Text := program.body.flatMap Stmt.names

/-- The names that a program assigns to. They are among the names that occur in it. -/
def Program.targets (program : Program) : List Text := program.body.filterMap Stmt.target?

/-- Two tables agree on some names: they bind them to the same, or not at all. -/
def Table.AgreeOn (first second : Table) (names : List Text) : Prop :=
  ∀ name ∈ names, first.lookup? name = second.lookup? name

section Evaluation

variable {first second : Table} {names : List Text}

namespace Table.AgreeOn

/-- Tables that agree on some names agree on fewer of them. -/
theorem fewer {few : List Text} (agree : first.AgreeOn second names) (among : few ⊆ names) :
    first.AgreeOn second few :=
  fun name member => agree name (among member)

/-- A name on which two tables agree is resolved alike, or is unbound in both. -/
theorem resolve (agree : first.AgreeOn second names) {name : Name} (member : name.text ∈ names) :
    first.resolve name = second.resolve name := by
  rw [Table.resolve, Table.resolve, agree name.text member]

/-- A name on which two tables agree can be assigned to in both, or the check fails alike. -/
theorem checkAssignable (agree : first.AgreeOn second names) {target : Name}
    (member : target.text ∈ names) :
    first.checkAssignable target = second.checkAssignable target := by
  rw [Table.checkAssignable, Table.checkAssignable, agree target.text member]

/-- Tables that agree on some names do so after the same definition, whichever name it defines. -/
theorem define (agree : first.AgreeOn second names) (defined : Text) (binding : Binding) :
    (first.define defined binding).AgreeOn (second.define defined binding) names := by
  intro name member
  rw [lookup?_define, lookup?_define, agree name member]

end Table.AgreeOn

mutual

/-- The value of an expression depends only on the names that occur in it.

Proof: induction on expressions and lists of them together. The table is looked at only for an
operand and for a callee. -/
theorem Expr.evaluate_of_agree :
    (expr : Expr) → first.AgreeOn second expr.names → expr.evaluate first = expr.evaluate second
  | .name occurrence, agree => by
    rw [evaluate, evaluate, Table.valueOf, Table.valueOf, agree.resolve (by simp [names])]
  | .numeral span raw value, _ => by
    rw [evaluate, evaluate]
  | .unary span op operand, agree => by
    rw [evaluate, evaluate, operand.evaluate_of_agree (agree.fewer (by simp [names]))]
  | .binary span op left right, agree => by
    rw [evaluate, evaluate, left.evaluate_of_agree (agree.fewer (by simp [names])),
      right.evaluate_of_agree (agree.fewer (by simp [names]))]
  | .call span callee args argsSpan, agree => by
    have called : first.resolve callee = second.resolve callee :=
      agree.resolve (by simp [names])
    rw [evaluate, evaluate, Expr.evaluateAll_of_agree args (agree.fewer (by simp [names]))]
    simp only [Table.applyFunction, called]
  | .foreign span typeName, _ => by
    rw [evaluate, evaluate]

/-- The values of a list of expressions depend only on the names that occur in it. -/
theorem Expr.evaluateAll_of_agree :
    (args : List Expr) → first.AgreeOn second (Expr.namesOf args) →
      Expr.evaluateAll first args = Expr.evaluateAll second args
  | [], _ => by
    rw [evaluateAll, evaluateAll]
  | arg :: rest, agree => by
    rw [evaluateAll, evaluateAll, arg.evaluate_of_agree (agree.fewer (by simp [namesOf])),
      Expr.evaluateAll_of_agree rest (agree.fewer (by simp [namesOf]))]

end

/-- What a statement does depends only on the names that occur in it, its target and its callee
among them. Names that occur nowhere in the statement are never looked up. -/
theorem Stmt.action_of_agree {stmt : Stmt} (agree : first.AgreeOn second stmt.names) :
    stmt.action first = stmt.action second := by
  cases stmt with
  | assign span target value =>
    have assignable : first.checkAssignable target = second.checkAssignable target :=
      agree.checkAssignable List.mem_cons_self
    rw [action, action, value.evaluate_of_agree (agree.fewer (List.subset_cons_self _ _)),
      assignable]
  | call span called =>
    have performed : first.resolve called.callee = second.resolve called.callee :=
      agree.resolve (by simp [names, Call.toExpr, Expr.names])
    have values : Expr.evaluateAll first called.args = Expr.evaluateAll second called.args :=
      Expr.evaluateAll_of_agree _ (agree.fewer (by simp [names, Call.toExpr, Expr.names]))
    rw [action, action, values]
    simp only [Table.performProcedure, performed]
  | print span value =>
    rw [action, action, value.evaluate_of_agree agree]
  | foreign span typeName => rfl

/-- What a statement assigns depends only on the names that occur in it. -/
theorem Stmt.assigned_of_agree {stmt : Stmt} (agree : first.AgreeOn second stmt.names) :
    stmt.assigned first = stmt.assigned second := by
  cases stmt with
  | assign span target value =>
    rw [assigned, assigned, value.evaluate_of_agree (agree.fewer (List.subset_cons_self _ _))]
  | call span called => rfl
  | print span value => rfl
  | foreign span typeName => rfl

end Evaluation

/-- A statement assigns to nothing but its target, if it assigns at all. -/
theorem Stmt.target?_of_assigned {table : Table} {stmt : Stmt} {entry : Text × Float}
    (member : entry ∈ stmt.assigned table) : stmt.target? = some entry.1 := by
  cases stmt with
  | assign span target value =>
    cases evaluated : value.evaluate table with
    | error failure => simp [assigned, evaluated] at member
    | ok result =>
      obtain rfl : entry = (target.text, result) := by simpa [assigned, evaluated] using member
      rfl
  | call span called => cases member
  | print span value => cases member
  | foreign span typeName => cases member

namespace References

/-- Names outside a list refer to the bindings that they referred to before, and no binding
has changed. -/
structure KeptBut (names : List Text) (before after : References) : Prop where
  places : ∀ name ∉ names, after.place? name = before.place? name
  meanings : ∀ name ∉ names, after.lookup? name = before.lookup? name
  bindings : before.bindings <+: after.bindings

/-- Nothing has changed where nothing was done. -/
theorem KeptBut.refl (names : List Text) (references : References) :
    KeptBut names references references :=
  ⟨fun _ _ => rfl, fun _ _ => rfl, List.prefix_rfl⟩

/-- A definition keeps all but the name that it defines. The binding that this name referred to is
kept as well. -/
theorem KeptBut.define {names : List Text} {before references : References}
    (kept : KeptBut names before references) {name : Text} (among : name ∈ names)
    (binding : Binding) : KeptBut names before (references.define name binding) := by
  have other {asked : Text} (outside : asked ∉ names) : asked ≠ name :=
    fun same => outside (same ▸ among)
  constructor
  case places =>
    intro asked outside
    rw [define_place?, if_neg (other outside), kept.places asked outside]
  case meanings =>
    intro asked outside
    rw [define_lookup?, if_neg (other outside), kept.meanings asked outside]
  case bindings => exact kept.bindings.trans (List.prefix_append _ _)

/-- Definitions keep all but the names that they define.

Proof: induction on the definitions, each of which keeps what the others kept. -/
theorem KeptBut.defineAll {names : List Text} {before references : References}
    (kept : KeptBut names before references) {definitions : List (Text × Float)}
    (among : ∀ entry ∈ definitions, entry.1 ∈ names) :
    KeptBut names before (references.defineAll definitions) := by
  induction definitions generalizing references with
  | nil => exact kept
  | cons entry rest others =>
    obtain ⟨here, later⟩ := List.forall_mem_cons.mp among
    exact others (kept.define here _) later

/-- Names that are bound alike are so after the same definitions, made one after another. -/
theorem agreeOn_defineAll {first second : References} {names : List Text}
    (agree : first.table.AgreeOn second.table names) (definitions : List (Text × Float)) :
    (first.defineAll definitions).table.AgreeOn (second.defineAll definitions).table names := by
  induction definitions generalizing first second with
  | nil => exact agree
  | cons entry rest others =>
    refine others ?_
    rw [define_table, define_table]
    exact agree.define _ _

end References

namespace Engine

variable {σ : Type} [Output σ]

/-- Two engines are alike as far as some names go: these are bound alike, and the outputs are
in the same state. The trace does not matter. -/
structure Alike (names : List Text) (first second : Engine σ) : Prop where
  agree : first.names.table.AgreeOn second.names.table names
  state : first.state = second.state

namespace Alike

variable {names : List Text} {first second : Engine σ}

/-- An action does the same to outputs in the same state, and fails in the same way. -/
theorem act (same : first.state = second.state) (action : Action) :
    (first.act action).1.state = (second.act action).1.state ∧
      (first.act action).2 = (second.act action).2 := by
  cases action with
  | define name value => simp [Engine.act, same]
  | perform performance => simp [Engine.act, same]

/-- A statement that mentions only names on which the engines are alike fails on both in the
same way, and leaves them alike. -/
theorem step (alike : Alike names first second) {stmt : Stmt} (mentioned : stmt.names ⊆ names) :
    Alike names (first.step stmt).1 (second.step stmt).1 ∧
      (first.step stmt).2 = (second.step stmt).2 := by
  have agree := alike.agree.fewer mentioned
  have same : (first.step stmt).1.state = (second.step stmt).1.state ∧
      (first.step stmt).2 = (second.step stmt).2 := by
    simp only [Engine.step, record_names, Stmt.action_of_agree agree]
    cases stmt.action second.names.table with
    | error failure => simp [alike.state]
    | ok action => exact act (by simp [alike.state]) action
  refine ⟨⟨?_, same.1⟩, same.2⟩
  rw [step_names, step_names, same.2, Stmt.assigned_of_agree agree]
  cases (second.step stmt).2 with
  | none => exact References.agreeOn_defineAll alike.agree _
  | some failure => exact alike.agree

/-- Statements that mention only such names do the same on both engines, up to the end or to the
same failure.

Proof: induction on the statements. Each leaves the engines alike, so that the next one finds them
so. -/
theorem run (alike : Alike names first second) {body : List Stmt}
    (mentioned : ∀ stmt ∈ body, stmt.names ⊆ names) :
    Alike names (first.run body).1 (second.run body).1 ∧
      (first.run body).2 = (second.run body).2 ∧
      first.definitions body = second.definitions body := by
  induction body generalizing first second with
  | nil => exact ⟨alike, rfl, rfl⟩
  | cons stmt rest others =>
    obtain ⟨here, later⟩ := List.forall_mem_cons.mp mentioned
    have assigned := Stmt.assigned_of_agree (alike.agree.fewer here)
    obtain ⟨onward, fails⟩ := @step σ _ names first second alike stmt here
    rw [Engine.run, Engine.run, definitions, definitions, assigned]
    cases left : first.step stmt with
    | mk after failure =>
      cases right : second.step stmt with
      | mk behind reason =>
        rw [left, right] at onward fails
        obtain rfl : failure = reason := fails
        cases failure with
        | some failure => exact ⟨onward, rfl, rfl⟩
        | none =>
          obtain ⟨ends, fails, definitions⟩ := others onward later
          exact ⟨ends, fails, congrArg _ definitions⟩

/-- Engines that are alike on all names in some statements run them alike. -/
theorem runAll {body : List Stmt} (alike : Alike (body.flatMap Stmt.names) first second) :
    Alike (body.flatMap Stmt.names) (first.run body).1 (second.run body).1 ∧
      (first.run body).2 = (second.run body).2 ∧
      first.definitions body = second.definitions body :=
  alike.run fun stmt member _ occurs => List.mem_flatMap.mpr ⟨stmt, member, occurs⟩

end Alike

/-- A program defines nothing but the names that it assigns to, however far it runs.

Proof: induction on the statements, each of which defines its target or nothing. -/
theorem target_of_definitions (engine : Engine σ) (body : List Stmt) :
    ∀ entry ∈ engine.definitions body, entry.1 ∈ body.filterMap Stmt.target? := by
  induction body generalizing engine with
  | nil => nofun
  | cons stmt rest others =>
    intro entry member
    rw [definitions] at member
    cases stepped : engine.step stmt with
    | mk after failure =>
      rw [stepped] at member
      cases failure with
      | some failure => cases member
      | none =>
        rcases List.mem_append.mp member with here | later
        · have target := Stmt.target?_of_assigned here
          exact List.mem_filterMap.mpr ⟨stmt, List.mem_cons_self, target⟩
        · obtain ⟨other, among, target⟩ := List.mem_filterMap.mp (others after entry later)
          exact List.mem_filterMap.mpr ⟨other, List.mem_cons_of_mem _ among, target⟩

/-- A program keeps all but the names that it assigns to, however far it runs. -/
theorem keptBut_targets (engine : Engine σ) (program : Program) :
    engine.names.KeptBut program.targets (engine.run program.body).1.names := by
  rw [run_names]
  exact (References.KeptBut.refl _ _).defineAll (target_of_definitions engine program.body)

/-- A program does the same on two engines, as far as its names go, and changes nothing on
either but the names that it assigns to. -/
structure Confined (program : Program) (first second : Engine σ) : Prop where
  /-- The outputs end in the same state. -/
  state : (first.run program.body).1.state = (second.run program.body).1.state
  failure : (first.run program.body).2 = (second.run program.body).2
  definitions : first.definitions program.body = second.definitions program.body
  /-- The definitions are all that happens to the names. -/
  performed : ∀ engine ∈ [first, second], (engine.run program.body).1.names =
    engine.names.defineAll (engine.definitions program.body)
  agree : (first.run program.body).1.names.table.AgreeOn
    (second.run program.body).1.names.table program.names
  kept : ∀ engine ∈ [first, second],
    engine.names.KeptBut program.targets (engine.run program.body).1.names

/-- A run depends only on the names that it mentions, and changes only those that it assigns
to. On two engines that agree on the names in a program, with outputs that answer alike, the
program does the same, wherever it fails. The output is any: one that keeps all that it is
given ends in the same state only if it was given the same texts in the same order. Names may
share bindings. Every machine runs as an engine. -/
theorem run_confined (program : Program) :
    (∀ {σ : Type} [Output σ] (machine : Machine σ), machine.run program.body =
      ((machine.engine.run program.body).1.machine, (machine.engine.run program.body).2)) ∧
    ∀ {σ : Type} [Output σ] (first second : Engine σ),
      first.names.table.AgreeOn second.names.table program.names → first.state = second.state →
        Confined program first second := by
  refine ⟨fun machine => machine.run_engine program.body, ?_⟩
  intro σ _ first second agree same
  have alike : Alike program.names first second := ⟨agree, same⟩
  obtain ⟨ends, failure, definitions⟩ := @Alike.runAll σ _ _ _ program.body alike
  constructor
  case state => exact ends.state
  case failure => exact failure
  case definitions => exact definitions
  case performed => exact fun engine _ => run_names engine program.body
  case agree => exact ends.agree
  case kept => exact fun engine _ => keptBut_targets engine program

/-- On one engine `x` and `z` refer to the same number, on the other `w` to a number of its
own. The program `x = y; print x;` does the same on both, and `z` refers to what it did. -/
theorem run_confined_shared :
    let name (text : String) : Name := ⟨.nowhere, Text.ofString text⟩
    let program : Program :=
      ⟨.nowhere, [.assign .nowhere (name "x") (.name (name "y")), .print .nowhere (.name (name "x"))]⟩
    let given (number : Float) : Binding := .number number true
    let first : References :=
      ⟨[given 1, given 5], [(Text.ofString "x", 0), (Text.ofString "z", 0), (Text.ofString "y", 1)],
        by decide⟩
    let second : References :=
      ⟨[given 5, given 1, given 7],
        [(Text.ofString "y", 0), (Text.ofString "x", 1), (Text.ofString "w", 2)], by decide⟩
    first.place? (Text.ofString "x") = first.place? (Text.ofString "z") ∧
      first.table.AgreeOn second.table program.names ∧
      Confined program ⟨first, Console.unlimited, .silent, []⟩
        ⟨second, Console.unlimited, .silent, []⟩ := by
  intro name program given first second
  have mentioned : program.names =
      [Text.ofString "x", Text.ofString "y", Text.ofString "x"] := by
    simp [program, name, Program.names, Stmt.names, Expr.names]
  have xy : Text.ofString "x" ≠ Text.ofString "y" := by decide
  have xz : Text.ofString "x" ≠ Text.ofString "z" := by decide
  have zy : Text.ofString "z" ≠ Text.ofString "y" := by decide
  have shared : first.place? (Text.ofString "x") = first.place? (Text.ofString "z") := by
    simp [first, References.place?, xz]
  have agree : first.table.AgreeOn second.table program.names := by
    rw [mentioned]
    intro asked member
    rw [References.lookup?_table, References.lookup?_table]
    simp only [List.mem_cons, List.not_mem_nil, or_false] at member
    rcases member with rfl | rfl | rfl
    all_goals simp [first, second, References.lookup?, References.place?, xy, xy.symm, zy]
  exact ⟨shared, agree, (run_confined program).2 _ _ agree rfl⟩

end Engine

end Astro
