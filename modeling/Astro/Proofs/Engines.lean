import Astro.Proofs.Bindings

/-!
# Machines in full detail

A machine keeps what its names stand for in a table. An engine leaves less out. Its names
refer to bindings, and several names may refer to one binding. Defining a name never changes
a binding: it makes a new one, which the name refers to from then on.

An engine does what a machine does on the same output, whatever that is
(`Engine.run_machine`), and every machine is such an engine (`Machine.run_engine`). So what is
shown of all engines holds of machines.
-/

namespace Astro

/-- Names that refer to bindings. Two names may refer to one binding, and every place that is
referred to exists. -/
structure References where
  /-- The bindings, in the order in which they were made. -/
  bindings : List Binding
  /-- Names with the places of their bindings, the latest first. An earlier entry of the same
  name does not count. -/
  places : List (Text × Nat)
  inside : ∀ entry ∈ places, entry.2 < bindings.length

namespace References

/-- No names and no bindings. Every place that a name refers to exists, as there are none. -/
def empty : References := ⟨[], [], nofun⟩

/-- The place of the binding that a name refers to. -/
def place? (references : References) (name : Text) : Option Nat :=
  (references.places.find? fun entry => entry.1 = name).map Prod.snd

/-- The binding that a name refers to. The name leads to a place, and the place to the binding. -/
def lookup? (references : References) (name : Text) : Option Binding :=
  (references.place? name).bind fun place => references.bindings[place]?

/-- Make a new binding, which a name refers to from now on. -/
def define (references : References) (name : Text) (binding : Binding) : References where
  bindings := references.bindings ++ [binding]
  places := (name, references.bindings.length) :: references.places
  inside := by
    intro entry member
    rw [List.length_append, List.length_singleton]
    rcases List.mem_cons.mp member with rfl | earlier
    · exact Nat.lt_succ_self _
    · exact Nat.lt_succ_of_lt (references.inside entry earlier)

/-- The table that names and their places give. The latest place that a name was given counts. -/
def tableOf (bindings : List Binding) : List (Text × Nat) → Table
  | [] => .empty
  | entry :: earlier =>
    match bindings[entry.2]? with
    | some binding => (tableOf bindings earlier).define entry.1 binding
    | none => tableOf bindings earlier

/-- What the names stand for. Which of them share a binding does not show in it. -/
def table (references : References) : Table := tableOf references.bindings references.places

/-- Define names one after another, each as a number that can be changed. -/
def defineAll (references : References) (definitions : List (Text × Float)) : References :=
  definitions.foldl (fun references entry => references.define entry.1 (.number entry.2 true))
    references

/-- References for a table, to a binding for each of its names. -/
def ofTable (table : Table) : References :=
  table.entries.reverse.foldl (fun references entry => references.define entry.1 entry.2) empty

/-- The table binds what the names refer to.

Proof: induction on the entries, of which the latest with a name counts on both sides. -/
theorem lookup?_table (references : References) (name : Text) :
    references.table.lookup? name = references.lookup? name := by
  obtain ⟨bindings, places, inside⟩ := references
  rw [table, lookup?, place?]
  induction places with
  | nil => rfl
  | cons entry earlier others =>
    obtain ⟨bounded, later⟩ := List.forall_mem_cons.mp inside
    rw [tableOf, List.getElem?_eq_getElem bounded]
    rw [Table.lookup?_define, List.find?_cons]
    by_cases same : name = entry.1
    · simp [same, bounded]
    · simpa [same, Ne.symm same] using others later

/-- A definition makes its name refer to the place behind all others. Every other name refers to
where it did, also when it shared a binding with the first. -/
theorem define_place? (references : References) (name other : Text) (binding : Binding) :
    (references.define name binding).place? other =
      if other = name then some references.bindings.length else references.place? other := by
  rw [place?, define, List.find?_cons]
  by_cases same : other = name
  · simp [same]
  · simp [same, Ne.symm same, place?]

/-- After a definition its name stands for the new binding, and every other name for what it did,
since no binding is ever changed. -/
theorem define_lookup? (references : References) (name other : Text) (binding : Binding) :
    (references.define name binding).lookup? other =
      if other = name then some binding else references.lookup? other := by
  rw [lookup?, define_place?]
  by_cases same : other = name
  · simp [same, define]
  · rw [if_neg same, if_neg same, lookup?]
    cases found : references.places.find? fun entry => entry.1 = other with
    | none => simp [place?, found]
    | some entry =>
      have bounded := references.inside entry (List.mem_of_find?_eq_some found)
      simp [place?, found, define, List.getElem?_append_left bounded]

/-- The table that the names give after a definition is the one before it with that definition
made. -/
theorem define_table (references : References) (name : Text) (binding : Binding) :
    (references.define name binding).table = references.table.define name binding := by
  refine Table.eq_of_lookup? fun other => ?_
  rw [lookup?_table, define_lookup?, Table.lookup?_define, lookup?_table]

/-- To make definitions and then others is to make all of them in a row. -/
theorem defineAll_append (references : References) (earlier later : List (Text × Float)) :
    references.defineAll (earlier ++ later) = (references.defineAll earlier).defineAll later :=
  List.foldl_append

/-- Every table is given by references, so that nothing is lost by looking at these. -/
theorem ofTable_table (table : Table) : (ofTable table).table = table := by
  have defined (entries : List (Text × Binding)) (references : References) :
      (entries.foldl (fun references entry => references.define entry.1 entry.2) references).table =
        entries.foldl (fun table entry => table.define entry.1 entry.2) references.table := by
    induction entries generalizing references with
    | nil => rfl
    | cons entry rest others => rw [List.foldl_cons, List.foldl_cons, others, define_table]
  refine Table.eq_of_lookup? fun name => ?_
  have nothing : empty.table.lookup? name = none := rfl
  rw [ofTable, defined, Table.lookup?_defineAll, List.reverse_reverse, nothing, Option.or_none]
  rfl

end References

/-- What a running program can change: what names refer to, the state of its output and the
trace. -/
structure Engine (σ : Type) where
  names : References
  state : σ
  level : TraceLevel
  trace : List Event

namespace Engine

variable {σ : Type}

/-- The engine with one more trace record, if it traces. -/
def record (engine : Engine σ) (event : Event) : Engine σ :=
  if engine.level = .debug then { engine with trace := engine.trace ++ [event] } else engine

/-- The machine that an engine is. It has forgotten which names share bindings. -/
def machine (engine : Engine σ) : Machine σ :=
  ⟨engine.names.table, engine.state, engine.level, engine.trace⟩

variable [Output σ]

/-- The engine after an action, and how the action failed if it did. -/
def act (engine : Engine σ) : Action → Engine σ × Option Failure
  | .define name value =>
    let defined := { engine with names := engine.names.define name (.number value true) }
    (defined.record (.assigned name value), none)
  | .perform performance =>
    let (state, failure) := performance.run engine.state
    ({ engine with state }, failure)

/-- The engine after one statement, and how it failed if it did. -/
def step (engine : Engine σ) (stmt : Stmt) : Engine σ × Option Failure :=
  let started := engine.record (.started stmt.typeName stmt.span.start)
  match stmt.action started.names.table with
  | .error failure => (started, some failure)
  | .ok action => started.act action

/-- The engine after statements up to the first that fails, and that failure. -/
def run (engine : Engine σ) : List Stmt → Engine σ × Option Failure
  | [] => (engine, none)
  | stmt :: rest =>
    match engine.step stmt with
    | (after, some failure) => (after, some failure)
    | (after, none) => after.run rest

/-- The definitions that running statements makes, in order. A statement that fails makes
none. -/
def definitions (engine : Engine σ) : List Stmt → List (Text × Float)
  | [] => []
  | stmt :: rest =>
    match engine.step stmt with
    | (_, some _) => []
    | (after, none) => stmt.assigned engine.names.table ++ after.definitions rest

end Engine

/-- A machine as an engine, with a binding for each of its names. -/
def Machine.engine {σ : Type} (machine : Machine σ) : Engine σ :=
  ⟨.ofTable machine.table, machine.console, machine.level, machine.trace⟩

namespace Engine

variable {σ : Type}

/-- A record in the trace is the same for an engine as for the machine that it is. -/
theorem record_machine (engine : Engine σ) (event : Event) :
    (engine.record event).machine = engine.machine.record event := by
  by_cases traced : engine.level = .debug
  · have same : engine.machine.level = .debug := traced
    rw [record, Machine.record, if_pos traced, if_pos same]
    rfl
  · have same : engine.machine.level ≠ .debug := traced
    rw [record, Machine.record, if_neg traced, if_neg same]

variable [Output σ]

/-- An action does the same on an engine as on the machine that it is. A definition makes a new
binding on the one and changes the table of the other, which comes to the same table. -/
theorem act_machine (engine : Engine σ) (action : Action) :
    engine.machine.act action = ((engine.act action).1.machine, (engine.act action).2) := by
  cases action with
  | define name value =>
    simp only [act, Machine.act, record_machine]
    simp only [machine, References.define_table]
  | perform performance => rfl

/-- One statement does the same on an engine as on the machine that it is, checks and failures
included. -/
theorem step_machine (engine : Engine σ) (stmt : Stmt) :
    engine.machine.step stmt =
      ((engine.step stmt).1.machine, (engine.step stmt).2) := by
  simp only [step, Machine.step, ← record_machine]
  cases acts : stmt.action (engine.record (.started stmt.typeName stmt.span.start)).names.table with
  | error failure => simp only [machine, acts]
  | ok action =>
    rw [← act_machine]
    simp only [machine, acts]

/-- A program does the same on an engine as on the machine that it is, on any output. -/
theorem run_machine (engine : Engine σ) (body : List Stmt) :
    engine.machine.run body =
      ((engine.run body).1.machine, (engine.run body).2) := by
  induction body generalizing engine with
  | nil => rfl
  | cons stmt rest others =>
    rw [Machine.run, run, step_machine]
    cases stepped : engine.step stmt with
    | mk after failure =>
      cases failure with
      | some failure => rfl
      | none => exact others after

end Engine

namespace Engine

variable {σ : Type}

/-- A record in the trace changes no names. Nor does it change what they refer to. -/
@[simp]
theorem record_names (engine : Engine σ) (event : Event) :
    (engine.record event).names = engine.names := by
  unfold record
  split <;> rfl

/-- A record in the trace writes nothing to the output. -/
@[simp]
theorem record_state (engine : Engine σ) (event : Event) :
    (engine.record event).state = engine.state := by
  unfold record
  split <;> rfl

/-- A record in the trace does not change how much is traced. -/
@[simp]
theorem record_level (engine : Engine σ) (event : Event) :
    (engine.record event).level = engine.level := by
  unfold record
  split <;> rfl

variable [Output σ]

/-- All that one statement can do, once its start is recorded: one of its checks fails, or it
defines what it assigns, or it writes and assigns nothing. -/
theorem step_cases (engine : Engine σ) (stmt : Stmt) :
    let started := engine.record (.started stmt.typeName stmt.span.start)
    (∃ failure, engine.step stmt = (started, some failure)) ∨
    (∃ name value, stmt.assigned engine.names.table = [(name, value)] ∧
      engine.step stmt = started.act (.define name value)) ∨
    ∃ performance, stmt.assigned engine.names.table = [] ∧
      engine.step stmt = started.act (.perform performance) := by
  intro started
  have same : started.names = engine.names := engine.record_names _
  have steps : engine.step stmt =
      match stmt.action engine.names.table with
      | .error failure => (started, some failure)
      | .ok action => started.act action := by
    rw [← same]
    rfl
  rw [steps]
  cases acts : stmt.action engine.names.table with
  | error failure => exact .inl ⟨failure, rfl⟩
  | ok action =>
    rcases Stmt.action_cases acts with
      ⟨span, target, value, result, rfl, evaluated, -, rfl⟩ | ⟨⟨performance, rfl⟩, silent⟩
    · refine .inr (.inl ⟨target.text, result, ?_, rfl⟩)
      rw [Stmt.assigned, evaluated]
    · exact .inr (.inr ⟨performance, silent, rfl⟩)

/-- What one statement does to the names: if it succeeds, it makes the definition that it
assigns, and if it fails, it makes none. -/
theorem step_names (engine : Engine σ) (stmt : Stmt) :
    (engine.step stmt).1.names =
      match (engine.step stmt).2 with
      | none => engine.names.defineAll (stmt.assigned engine.names.table)
      | some _ => engine.names := by
  rcases engine.step_cases stmt with
    ⟨failure, steps⟩ | ⟨name, value, assigned, steps⟩ | ⟨performance, assigned, steps⟩
  · simp [steps]
  · simp [steps, assigned, act, References.defineAll]
  · simp only [steps, assigned, act, record_names]
    split <;> rfl

/-- A program changes the names by its definitions, one after another, and in no other way.

Proof: induction on the statements. A statement that fails makes no definition, and those behind
it are not run. -/
theorem run_names (engine : Engine σ) (body : List Stmt) :
    (engine.run body).1.names =
      engine.names.defineAll (engine.definitions body) := by
  induction body generalizing engine with
  | nil => rfl
  | cons stmt rest others =>
    have here := @step_names σ _ engine stmt
    rw [run, definitions]
    cases stepped : engine.step stmt with
    | mk after failure =>
      rw [stepped] at here
      cases failure with
      | some failure => exact here
      | none =>
        simp only at here ⊢
        rw [others, here, References.defineAll_append]

end Engine

/-- Every machine runs as an engine, with a binding of its own for each of its names. -/
theorem Machine.run_engine {σ : Type} [Output σ] (machine : Machine σ) (body : List Stmt) :
    machine.run body =
      ((machine.engine.run body).1.machine,
        (machine.engine.run body).2) := by
  have same : machine.engine.machine = machine := by
    rw [Engine.machine, engine, References.ofTable_table]
  rw [← Engine.run_machine, same]

end Astro
