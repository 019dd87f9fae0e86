import Astro.Proofs.RelocatedRun
import Astro.Proofs.Tables
import Astro.Proofs.Words

/-!
# What names are bound to during a session

The table of a session is accounted for by the assignments that were executed: a
name that was assigned is bound to the value that it was given last, as a number
that can be changed, and every other name is bound as it was when the session
started. What is given at the start is never replaced, because none of it is a
number that can be changed, and nothing is ever unbound. This holds between any two
texts, whether they were programs or not and wherever they failed.

The assignments are read off the statements themselves and the values of their
expressions, not off the table.
-/

namespace Astro

/-- The value that a name was given last. There is none for a name that was never assigned to. -/
def lastValue? (log : List (Text × Float)) (name : Text) : Option Float :=
  (log.reverse.find? fun entry => entry.1 = name).map Prod.snd

/-- The name and the value of a statement that is an assignment. -/
def Stmt.assigned (table : Table) : Stmt → List (Text × Float)
  | .assign _ target value =>
    match value.evaluate table with
    | .ok result => [(target.text, result)]
    | .error _ => []
  | _ => []

/-- The assignments that running statements executes with success, in order. -/
def Machine.assignments {σ : Type} [Output σ] (machine : Machine σ) :
    List Stmt → List (Text × Float)
  | [] => []
  | stmt :: rest =>
    match machine.step stmt with
    | (_, some _) => []
    | (after, none) => stmt.assigned machine.table ++ after.assignments rest

namespace Session

variable {σ : Type} [Output σ]

/-- The session after running texts one after another, failing or not. -/
def execAll (session : Session σ) (sources : List Text) : Session σ :=
  sources.foldl (fun session source => (session.exec source).1) session

/-- The assignments that running a text executes with success, in order. -/
def assignmentsOf (session : Session σ) (source : Text) : List (Text × Float) :=
  match parse session.dialect source with
  | .error _ => []
  | .ok program => session.machine.assignments program.body

/-- The assignments that running texts executes with success, in order. -/
def assignments (session : Session σ) : List Text → List (Text × Float)
  | [] => []
  | source :: rest => session.assignmentsOf source ++ (session.exec source).1.assignments rest

end Session

/-- A value that was given later is the last one. -/
theorem lastValue?_append (log later : List (Text × Float)) (name : Text) :
    lastValue? (log ++ later) name = (lastValue? later name).or (lastValue? log name) := by
  rw [lastValue?, List.reverse_append, List.find?_append, Option.map_or]
  rfl

/-- A name has a last value exactly when it was assigned. -/
theorem lastValue?_isSome (log : List (Text × Float)) (name : Text) :
    (lastValue? log name).isSome = true ↔ name ∈ log.map Prod.fst := by
  rw [lastValue?, Option.isSome_map, List.find?_isSome, List.mem_map]
  simp

/-- What is computed in two steps has a value only when both have one. -/
theorem exists_of_bind {α β : Type} {first : Except Failure α} {second : α → Except Failure β}
    {result : β} (succeeds : first >>= second = .ok result) :
    ∃ value, first = .ok value ∧ second value = .ok result := by
  cases first with
  | error failure => cases succeeds
  | ok value => exact ⟨value, rfl, succeeds⟩

/-- What is computed in two steps fails in the first, or in the second behind a value. -/
theorem failed_of_bind {α β : Type} {first : Except Failure α} {second : α → Except Failure β}
    {failure : Failure} (fails : first >>= second = .error failure) :
    first = .error failure ∨ ∃ value, first = .ok value ∧ second value = .error failure := by
  cases first with
  | error reason =>
    cases fails
    exact .inl rfl
  | ok value => exact .inr ⟨value, rfl, fails⟩

/-- A name is resolved exactly when it is bound. Otherwise the failure names it and is placed at
its occurrence. -/
theorem Table.resolve_cases (table : Table) (name : Name) :
    (table.lookup? name.text = none ∧
      table.resolve name = .error (Fault.Cause.failure (.undefined name.text) name.span)) ∨
    ∃ binding, table.lookup? name.text = some binding ∧ table.resolve name = .ok binding := by
  cases found : table.lookup? name.text with
  | none =>
    refine .inl ⟨rfl, ?_⟩
    rw [Table.resolve, found]
  | some binding =>
    refine .inr ⟨binding, rfl, ?_⟩
    rw [Table.resolve, found]

/-- A statement that passes its checks is an assignment that defines its target, or it only
writes. No other action is there, and a statement that only writes assigns nothing. -/
theorem Stmt.action_cases {table : Table} {stmt : Stmt} {action : Action}
    (acts : stmt.action table = .ok action) :
    (∃ span target value result, stmt = .assign span target value ∧
      value.evaluate table = .ok result ∧ table.checkAssignable target = .ok () ∧
      action = .define target.text result) ∨
    ((∃ performance, action = .perform performance) ∧ stmt.assigned table = []) := by
  cases stmt with
  | assign span target value =>
    obtain ⟨result, evaluated, acts⟩ := exists_of_bind acts
    obtain ⟨_, checked, acts⟩ := exists_of_bind acts
    cases acts
    exact .inl ⟨span, target, value, result, rfl, evaluated, checked, rfl⟩
  | call span called =>
    obtain ⟨values, -, acts⟩ := exists_of_bind acts
    obtain ⟨performance, -, acts⟩ := exists_of_bind acts
    cases acts
    exact .inr ⟨⟨performance, rfl⟩, rfl⟩
  | print span value =>
    obtain ⟨result, -, acts⟩ := exists_of_bind acts
    cases acts
    exact .inr ⟨⟨_, rfl⟩, rfl⟩
  | foreign span typeName => cases acts

namespace Machine

variable {σ : Type} [Output σ]

/-- Defining a name binds it to a number that can be changed. -/
theorem act_define_table (machine : Machine σ) (name : Text) (value : Float) :
    (machine.act (.define name value)).1.table = machine.table.define name (.number value true) :=
  (agrees_record _ _).table

/-- What one statement does to the table: an assignment that succeeds defines its
target, and anything else leaves the table as it was. -/
theorem step_cases (machine : Machine σ) (stmt : Stmt) :
    (∃ span target value result, stmt = .assign span target value ∧
      value.evaluate machine.table = .ok result ∧
      machine.table.checkAssignable target = .ok () ∧ (machine.step stmt).2 = none ∧
      (machine.step stmt).1.table = machine.table.define target.text (.number result true)) ∨
    ((machine.step stmt).1.table = machine.table ∧
      ((machine.step stmt).2 = none → stmt.assigned machine.table = [])) := by
  have started := agrees_record machine (.started stmt.typeName stmt.span.start)
  simp only [step, started.table]
  cases acts : stmt.action machine.table with
  | error failure =>
    refine .inr ⟨started.table, fun none => ?_⟩
    cases none
  | ok action =>
    rcases Stmt.action_cases acts with
      ⟨span, target, value, result, rfl, evaluated, checked, rfl⟩ | ⟨⟨performance, rfl⟩, silent⟩
    · refine .inl ⟨span, target, value, result, rfl, evaluated, checked, rfl, ?_⟩
      rw [act_define_table, started.table]
    · exact .inr ⟨started.table, fun _ => silent⟩

/-- A statement that fails leaves the table as it was. -/
theorem table_of_failed {machine : Machine σ} {stmt : Stmt} {failure : Failure}
    (failed : (machine.step stmt).2 = some failure) :
    (machine.step stmt).1.table = machine.table := by
  rcases machine.step_cases stmt with ⟨_, _, _, _, _, _, _, succeeds, _⟩ | ⟨same, _⟩
  · rw [failed] at succeeds
    cases succeeds
  · exact same

end Machine

/-- Only a new name and a number that can be changed are assigned to. -/
theorem Table.assignable {table : Table} {target : Name}
    (checked : table.checkAssignable target = .ok ()) :
    table.lookup? target.text = none ∨
      ∃ value, table.lookup? target.text = some (.number value true) := by
  unfold checkAssignable at checked
  split at checked
  · exact .inl ‹_›
  · exact .inr ⟨_, ‹_›⟩
  · cases checked
  · cases checked

/-- A table is accounted for by a log of assignments: names in the log are bound to
their last values, all others as at the start, and the names in the log are words
that were not given. -/
structure Table.Follows (dialect : Dialect) (log : List (Text × Float)) (table : Table) : Prop where
  bindings : ∀ name, table.lookup? name =
    ((lastValue? log name).map fun value => .number value true).or ((initial dialect).lookup? name)
  targets : ∀ name ∈ log.map Prod.fst, name.IsWord ∧ name ≠ Text.ofString "print" ∧
    (initial dialect).lookup? name = none

namespace Table.Follows

variable {dialect : Dialect} {log : List (Text × Float)} {table : Table}

/-- What is assigned to was not given. -/
theorem fresh (follows : Follows dialect log table) {target : Name}
    (checked : table.checkAssignable target = .ok ()) :
    (initial dialect).lookup? target.text = none := by
  have bound := follows.bindings target.text
  cases last : lastValue? log target.text with
  | some value =>
    have logged := (lastValue?_isSome log target.text).mp (last ▸ rfl)
    exact (follows.targets target.text logged).2.2
  | none =>
    rw [last, Option.map_none, Option.none_or] at bound
    rcases assignable checked with free | ⟨value, number⟩
    · exact bound ▸ free
    · have given := (lookup?_initial_iff dialect target.text _).mp (bound ▸ number)
      exact absurd given (number_not_mem_given dialect target.text value)

/-- An assignment that succeeds is one more in the log. Its target is not a name that was given,
since these cannot be assigned to, and it is no reserved word of the dialect. -/
theorem define (follows : Follows dialect log table) {span : Span} {target : Name} {value : Expr}
    (worded : (Stmt.assign span target value).Worded dialect)
    (checked : table.checkAssignable target = .ok ()) (result : Float) :
    Follows dialect (log ++ [(target.text, result)])
      (table.define target.text (.number result true)) := by
  have fresh := follows.fresh checked
  obtain ⟨word, reserved⟩ := worded
  constructor
  · intro name
    rw [lookup?_define, lastValue?_append, follows.bindings name]
    by_cases same : name = target.text
    · simp [lastValue?, same]
    · simp [lastValue?, same, Ne.symm same]
  · intro name member
    rw [List.map_append, List.mem_append] at member
    rcases member with earlier | now
    · exact follows.targets name earlier
    · obtain rfl := List.mem_singleton.mp now
      refine ⟨word, fun print => ?_, fresh⟩
      have procedure := reserved print
      have given : (Text.ofString "print", .procedure printProcedure) ∈ given dialect := by
        rw [Table.given, if_pos procedure]
        exact List.mem_append_right _ List.mem_cons_self
      rw [← print] at given
      have bound := (lookup?_initial_iff dialect _ _).mpr given
      rw [fresh] at bound
      cases bound

/-- At the start nothing has been assigned. The table binds what is given, and nothing else. -/
theorem start (dialect : Dialect) : Follows dialect [] (initial dialect) := by
  constructor
  · intro name
    rfl
  · intro name member
    cases member

variable {σ : Type} [Output σ]

/-- A statement that succeeds adds what it assigns to the log. -/
theorem step {machine : Machine σ} (follows : Follows dialect log machine.table) {stmt : Stmt}
    (worded : stmt.Worded dialect) (succeeds : (machine.step stmt).2 = none) :
    Follows dialect (log ++ stmt.assigned machine.table) (machine.step stmt).1.table := by
  rcases machine.step_cases stmt with
    ⟨span, target, value, result, rfl, evaluated, checked, -, defined⟩ | ⟨same, silent⟩
  · rw [defined, Stmt.assigned, evaluated]
    exact follows.define worded checked result
  · rw [same, silent succeeds, List.append_nil]
    exact follows

/-- Running statements adds what they assign to the log, up to the first that fails.

Proof: induction on the statements. One that fails leaves the table as it was and ends the run, so
that the log ends with the assignments before it. -/
theorem run {machine : Machine σ} (follows : Follows dialect log machine.table) {body : List Stmt}
    (worded : ∀ stmt ∈ body, stmt.Worded dialect) :
    Follows dialect (log ++ machine.assignments body) (machine.run body).1.table := by
  induction body generalizing machine log with
  | nil =>
    rw [Machine.assignments, List.append_nil]
    exact follows
  | cons stmt rest others =>
    obtain ⟨here, later⟩ := List.forall_mem_cons.mp worded
    rw [Machine.assignments, Machine.run]
    cases stepped : machine.step stmt with
    | mk after failure =>
      cases failure with
      | some failure =>
        have same : after.table = machine.table := by
          have kept := @Machine.table_of_failed σ _ machine stmt failure (stepped ▸ rfl)
          rwa [stepped] at kept
        simp only [List.append_nil]
        rw [same]
        exact follows
      | none =>
        have onward := follows.step here (stepped ▸ rfl)
        rw [stepped] at onward
        simp only [← List.append_assoc]
        exact others onward later

end Table.Follows

/-- A name stands for a function with a given arity. -/
def Table.Calls (table : Table) (name : String) (arity : Int)
    (apply : Vector Float arity.toNat → Float) : Prop :=
  table.lookup? (Text.ofString name) = some (.function ⟨Text.ofString name, arity, apply⟩)

/-- The names that have a meaning from the start in some dialect. -/
def Table.reserved : List Text :=
  ["π", "sin", "cos", "sqrt", "hypot", "print"].map Text.ofString

/-- Only those names are given. -/
theorem Table.given_subset_reserved (dialect : Dialect) :
    (given dialect).map Prod.fst ⊆ reserved := by
  unfold given
  split
  · decide +kernel
  · decide +kernel

/-- Everything that a table binds is accounted for: what was given is unchanged, and the
rest are numbers with the values that were assigned last. -/
structure Table.Accounted (dialect : Dialect) (log : List (Text × Float)) (table : Table) :
    Prop where
  constant : table.lookup? (Text.ofString "π") = some (.number (.ofBits 0x400921fb54442d18) false)
  sine : table.Calls "sin" 1 fun args => Number.sine (args.get ⟨0, by decide⟩)
  cosine : table.Calls "cos" 1 fun args => Number.cosine (args.get ⟨0, by decide⟩)
  root : table.Calls "sqrt" 1 fun args => Float.sqrt (args.get ⟨0, by decide⟩)
  hypotenuse : table.Calls "hypot" 2 fun args =>
    Number.hypotenuse (args.get ⟨0, by decide⟩) (args.get ⟨1, by decide⟩)
  /-- Only a dialect where `print` is a procedure binds it, to that one. -/
  print : table.lookup? (Text.ofString "print") =
    if dialect.print = .procedure then some (.procedure printProcedure) else none
  /-- Any other name is bound if it was assigned, to a number that can be changed. -/
  numbers : ∀ name ∉ reserved, table.lookup? name =
    (lastValue? log name).map fun value => .number value true
  bound : ∀ name, (table.lookup? name).isSome = true ↔
    name ∈ (initial dialect).names ∨ name ∈ log.map Prod.fst
  targets : ∀ name ∈ log.map Prod.fst, name.IsWord ∧ name ≠ Text.ofString "print"
  ascending : table.names.Pairwise (· < ·)
  listed : ∀ name, name ∈ table.names ↔ (table.lookup? name).isSome = true

namespace Table.Follows

variable {dialect : Dialect} {log : List (Text × Float)} {table : Table}

/-- What was given is never replaced. -/
theorem lookup?_of_given (follows : Follows dialect log table) {name : Text} {binding : Binding}
    (member : (name, binding) ∈ given dialect) : table.lookup? name = some binding := by
  have start := (lookup?_initial_iff dialect name binding).mpr member
  have bound := follows.bindings name
  cases last : lastValue? log name with
  | none =>
    rw [last, Option.map_none, Option.none_or] at bound
    exact bound.trans start
  | some value =>
    have logged := (lastValue?_isSome log name).mp (last ▸ rfl)
    have fresh := (follows.targets name logged).2.2
    rw [start] at fresh
    cases fresh

/-- What was not given is bound as it was assigned. -/
theorem lookup?_of_not_given (follows : Follows dialect log table) {name : Text}
    (free : name ∉ (given dialect).map Prod.fst) :
    table.lookup? name = (lastValue? log name).map fun value => .number value true := by
  have unbound : (initial dialect).lookup? name = none := by
    refine Option.eq_none_iff_forall_ne_some.mpr fun binding found => free ?_
    have member := (lookup?_initial_iff dialect name binding).mp found
    exact List.mem_map.mpr ⟨(name, binding), member, rfl⟩
  rw [follows.bindings name, unbound, Option.or_none]

/-- A table that follows a log is accounted for by it. Each clause reads a part of the log: what
is given at first stays bound, and every other name is bound to the last value that was assigned
to it. -/
theorem accounted (follows : Follows dialect log table) : Accounted dialect log table := by
  have given {name : Text} {binding : Binding} (member : (name, binding) ∈ builtins) :
      table.lookup? name = some binding := by
    refine follows.lookup?_of_given ?_
    rw [Table.given]
    split
    · exact List.mem_append_left _ member
    · exact member
  constructor
  case constant => exact given (by simp [builtins])
  case sine => exact given (by simp [builtins, unary])
  case cosine => exact given (by simp [builtins, unary])
  case root => exact given (by simp [builtins, unary])
  case hypotenuse => exact given (by simp [builtins])
  case print =>
    by_cases procedure : dialect.print = .procedure
    · rw [if_pos procedure]
      refine follows.lookup?_of_given ?_
      rw [Table.given, if_pos procedure]
      exact List.mem_append_right _ List.mem_cons_self
    · have free : Text.ofString "print" ∉ (Table.given dialect).map Prod.fst := by
        rw [Table.given, if_neg procedure]
        decide +kernel
      have unassigned : lastValue? log (Text.ofString "print") = none := by
        refine Option.not_isSome_iff_eq_none.mp fun assigned => ?_
        have logged := (lastValue?_isSome log _).mp assigned
        exact (follows.targets _ logged).2.1 rfl
      rw [if_neg procedure, follows.lookup?_of_not_given free, unassigned, Option.map_none]
  case numbers =>
    intro name free
    exact follows.lookup?_of_not_given fun member => free (given_subset_reserved dialect member)
  case bound =>
    intro name
    rw [follows.bindings name, mem_names_iff, ← lastValue?_isSome, Option.isSome_or,
      Option.isSome_map, Bool.or_eq_true, or_comm]
  case targets =>
    intro name member
    obtain ⟨word, ordinary, -⟩ := follows.targets name member
    exact ⟨word, ordinary⟩
  case ascending => exact table.names_ascending
  case listed => exact table.mem_names_iff

end Table.Follows

namespace Session

variable {σ : Type} [Output σ]

/-- Running a text adds what it assigns to the log, whether it fails or not. -/
theorem follows_exec {session : Session σ} {log : List (Text × Float)}
    (follows : Table.Follows session.dialect log session.machine.table) (source : Text) :
    Table.Follows session.dialect (log ++ session.assignmentsOf source)
      (session.exec source).1.machine.table := by
  rw [assignmentsOf]
  cases parsed : parse session.dialect source with
  | error failure =>
    rw [exec_of_refused parsed, List.append_nil]
    exact follows
  | ok program =>
    rw [exec_of_parse parsed]
    exact follows.run (worded_of_parse parsed)

/-- Running texts adds what they assign to the log.

Proof: induction on the texts. A text that is refused assigns nothing. -/
theorem follows_execAll {session : Session σ} {log : List (Text × Float)}
    (follows : Table.Follows session.dialect log session.machine.table) (sources : List Text) :
    Table.Follows session.dialect (log ++ session.assignments sources)
      (session.execAll sources).machine.table := by
  induction sources generalizing session log with
  | nil =>
    rw [assignments, List.append_nil]
    exact follows
  | cons source rest others =>
    have here := follows_exec follows source
    have kept := exec_dialect session source
    rw [← kept] at here
    have onward := others here
    rwa [kept, List.append_assoc] at onward

/-- What is assigned by some texts and then by others. -/
theorem assignments_append (session : Session σ) (earlier later : List Text) :
    session.assignments (earlier ++ later) =
      session.assignments earlier ++ (session.execAll earlier).assignments later := by
  induction earlier generalizing session with
  | nil => rfl
  | cons source rest others =>
    rw [List.cons_append, assignments, assignments, others, List.append_assoc]
    rfl

/-- In a session that starts with the names of its dialect, all bindings are accounted
for by the assignments that were executed, after any texts; and no later text unbinds
a name. -/
theorem execAll_accounted (dialect : Dialect) (console : σ) (level : TraceLevel)
    (sources : List Text) :
    ((new dialect console level).execAll sources).machine.table.Accounted dialect
        ((new dialect console level).assignments sources) ∧
      ∀ more, ((new dialect console level).execAll sources).machine.table.names ⊆
        ((new dialect console level).execAll (sources ++ more)).machine.table.names := by
  have accounted (sources : List Text) :=
    (@follows_execAll σ _ (new dialect console level) [] (.start dialect) sources).accounted
  refine ⟨accounted sources, fun more name member => ?_⟩
  have before := accounted sources
  have behind := accounted (sources ++ more)
  refine (behind.listed name).mpr ((behind.bound name).mpr ?_)
  have bound := (before.bound name).mp ((before.listed name).mp member)
  rw [List.nil_append, assignments_append, List.map_append]
  exact bound.imp_right fun logged => List.mem_append_left _ logged

end Session

end Astro
