import Astro.Proofs.ValueIndependence

/-!
# Where an output without room cuts a run

The same program runs once on an output that takes everything and once on an output that
takes so many lines and refuses all others. The two runs are compared for every number of
lines. If the first writes no more lines than there is room for, the second does the same.
Otherwise the second stops at the statement of the first line too many: it has written the
lines before that one, whole, and it keeps the names as they were bound at that moment. It
makes no difference whether lines are printed by statements or by calls.

Printing must be the only procedure, because any other could write several texts or fail
behind them.
-/

namespace Astro.Machine

/-- The machine on an output with room for so many lines, or for any number. -/
def withRoom (machine : Machine Console) (room : Option Nat) : Machine Console :=
  { machine with console := { machine.console with room } }

/-- A record in the trace takes no room. -/
theorem record_withRoom (machine : Machine Console) (room : Option Nat) (event : Event) :
    (machine.withRoom room).record event = (machine.record event).withRoom room := by
  by_cases traced : machine.level = .debug
  · have same : (machine.withRoom room).level = .debug := traced
    rw [record, record, if_pos traced, if_pos same]
    rfl
  · have same : (machine.withRoom room).level ≠ .debug := traced
    rw [record, record, if_neg traced, if_neg same]

/-- The machine behind one more line. -/
def printing (machine : Machine Console) (value : Float) : Machine Console :=
  { machine with console :=
      { machine.console with written := machine.console.written ++ [Table.printedLine value] } }

/-- Printing a line takes one line of the room, and is refused where there is none. -/
def printStep (machine : Machine Console) (value : Float) :
    Option Nat → Machine Console × Option Failure
  | none => ((machine.printing value).withRoom none, none)
  | some 0 => (machine.withRoom (some 0), some (.refusedWrite machine.console.refusal))
  | some (left + 1) => ((machine.printing value).withRoom (some left), none)

/-- To print a value takes one line of the room, and it is refused where no room is left. -/
theorem act_withRoom_print (machine : Machine Console) (value : Float) (room : Option Nat) :
    (machine.withRoom room).act (.perform (.script [Table.printedLine value] none)) =
      machine.printStep value room := by
  have ends := Console.endsLine_printedLine value
  match room with
  | none =>
    simp [act, withRoom, printing, printStep, Performance.run_line, Output.write, Console.write?,
      ends]
  | some 0 =>
    simp [act, withRoom, printStep, Performance.run_line, Output.write, Console.write?, ends]
  | some (left + 1) =>
    simp [act, withRoom, printing, printStep, Performance.run_line, Output.write, Console.write?,
      ends]

/-- A definition needs no room. Nothing is written, and the definition is recorded all the same. -/
theorem act_withRoom_define (machine : Machine Console) (name : Text) (value : Float)
    (room : Option Nat) :
    (machine.withRoom room).act (.define name value) =
      ((machine.act (.define name value)).1.withRoom room, none) := by
  rw [act, act, ← record_withRoom]
  rfl

/-- All that one statement can do where printing is the only procedure: it writes nothing, and
the room does not matter, or it prints one line, and nothing else but the trace changes. -/
theorem step_withRoom {machine : Machine Console} (prints : machine.table.PrintsOnly)
    (stmt : Stmt) :
    (∃ after : Machine Console, ∃ failure, after.table.PrintsOnly ∧
      after.console = machine.console ∧
      ∀ room, (machine.withRoom room).step stmt = (after.withRoom room, failure)) ∨
    ∃ started : Machine Console, ∃ value, started.table = machine.table ∧
      started.console = machine.console ∧
      ∀ room, (machine.withRoom room).step stmt = started.printStep value room := by
  have started := agrees_record machine (.started stmt.typeName stmt.span.start)
  have same (room : Option Nat) :
      ((machine.record (.started stmt.typeName stmt.span.start)).withRoom room).table =
        machine.table := started.table
  simp only [step, record_withRoom, same]
  cases acts : stmt.action machine.table with
  | error failure => exact .inl ⟨_, _, started.table ▸ prints, started.console, fun _ => rfl⟩
  | ok action =>
    rcases Stmt.action_cases acts with
      ⟨span, target, value, result, rfl, -, -, rfl⟩ | ⟨⟨performance, rfl⟩, -⟩
    · refine .inl ⟨_, _, ?_, ?_, act_withRoom_define _ target.text result⟩
      · rw [act_define_table, started.table]
        exact prints.define target.text result
      · exact (agrees_record _ _).console.trans started.console
    · obtain ⟨value, rfl⟩ := Stmt.exists_line prints acts
      exact .inr ⟨_, value, started.table, started.console, act_withRoom_print _ value⟩

/-- The run of statements with room for so many lines is cut at a statement. The lines are
those of the run with room for any number. -/
structure CutAt (machine : Machine Console) (body : List Stmt) (room : Nat) (printed : List Float)
    (before : List Stmt) (stmt : Stmt) (later : List Stmt) (reached : Machine Console) : Prop where
  place : body = before ++ stmt :: later
  /-- With room for any number of lines, the statements before this one succeed. -/
  earlier : (machine.withRoom none).run before = (reached, none)
  /-- They write as many lines as there is room for. -/
  written : reached.console.written =
    machine.console.written ++ (printed.take room).map Table.printedLine
  /-- The statement writes the next line. -/
  next : ∃ value, printed[room]? = some value ∧
    (reached.step stmt).1.console.written =
      reached.console.written ++ [Table.printedLine value]
  /-- With room for only so many, the run ends here with the error of the output. -/
  failure : ((machine.withRoom (some room)).run body).2 =
    some (.refusedWrite machine.console.refusal)
  output : ((machine.withRoom (some room)).run body).1.console.written = reached.console.written
  table : ((machine.withRoom (some room)).run body).1.table = reached.table
  /-- It would end in the same way whatever came behind. -/
  unread : ∀ others, (machine.withRoom (some room)).run (before ++ stmt :: others) =
    (machine.withRoom (some room)).run body

/-- How room for so many lines cuts a run that prints some numbers with room for any number
of lines. -/
structure Cut (machine : Machine Console) (body : List Stmt) (room : Nat) (printed : List Float) :
    Prop where
  /-- All that is written are the lines of the numbers. -/
  written : ((machine.withRoom none).run body).1.console.written =
    machine.console.written ++ printed.map Table.printedLine
  /-- A run whose lines all have room is the same, apart from the room that is left. -/
  whole : printed.length ≤ room →
    (machine.withRoom (some room)).run body =
      (((machine.withRoom none).run body).1.withRoom (some (room - printed.length)),
        ((machine.withRoom none).run body).2)
  short : room < printed.length →
    ∃ before stmt later reached, CutAt machine body room printed before stmt later reached

/-- Behind a statement that succeeds, the rest is run. -/
theorem run_of_step {machine after : Machine Console} {stmt : Stmt}
    (stepped : machine.step stmt = (after, none)) (rest : List Stmt) :
    machine.run (stmt :: rest) = after.run rest := by
  rw [run, stepped]

/-- A statement that succeeds with room and without, and prints some lines, stands in front of
what is cut behind it with as many lines less. -/
theorem Cut.behind {machine after : Machine Console} {stmt : Stmt} {rest : List Stmt}
    {left room : Nat} {printed : List Float} (cut : Cut after rest left printed) (lines : List Float)
    (uses : lines.length + left = room)
    (free : (machine.withRoom none).step stmt = (after.withRoom none, none))
    (taken : (machine.withRoom (some room)).step stmt = (after.withRoom (some left), none))
    (wrote : after.console.written = machine.console.written ++ lines.map Table.printedLine)
    (refusal : after.console.refusal = machine.console.refusal) :
    Cut machine (stmt :: rest) room (lines ++ printed) := by
  subst uses
  have unlimited (others : List Stmt) := run_of_step free others
  have limited (others : List Stmt) := run_of_step taken others
  constructor
  case written =>
    rw [unlimited, cut.written, wrote, List.map_append, List.append_assoc]
  case whole =>
    intro fits
    have within : printed.length ≤ left := by
      rw [List.length_append] at fits
      omega
    have remaining : lines.length + left - (lines ++ printed).length = left - printed.length := by
      rw [List.length_append]
      omega
    rw [limited, unlimited, cut.whole within, remaining]
  case short =>
    intro exceeds
    have beyond : left < printed.length := by
      rw [List.length_append] at exceeds
      omega
    obtain ⟨before, here, later, reached, cutAt⟩ := cut.short beyond
    refine ⟨stmt :: before, here, later, reached, ?_⟩
    constructor
    case place => rw [cutAt.place, List.cons_append]
    case earlier => rw [unlimited, cutAt.earlier]
    case written =>
      rw [cutAt.written, wrote, List.take_length_add_append, List.map_append, List.append_assoc]
    case next =>
      rw [List.getElem?_append_right (Nat.le_add_right _ _), Nat.add_sub_cancel_left]
      exact cutAt.next
    case failure => rw [limited, cutAt.failure, refusal]
    case output => rw [limited, cutAt.output]
    case table => rw [limited, cutAt.table]
    case unread =>
      intro others
      rw [List.cons_append, limited, limited, cutAt.unread]

/-- A run without room is cut at the first statement that prints. Its line is the first one that
is refused, so that nothing has been written before it and no statement behind it is read. -/
theorem Cut.here {machine started : Machine Console} {stmt : Stmt} {rest : List Stmt}
    {value : Float} {printed : List Float} (table : started.table = machine.table)
    (console : started.console = machine.console)
    (steps : ∀ room, (machine.withRoom room).step stmt = started.printStep value room)
    (written : ((machine.withRoom none).run (stmt :: rest)).1.console.written =
      machine.console.written ++ (value :: printed).map Table.printedLine) :
    Cut machine (stmt :: rest) 0 (value :: printed) := by
  have same : started.console.written = machine.console.written := by rw [console]
  have refused (others : List Stmt) : (machine.withRoom (some 0)).run (stmt :: others) =
      (started.withRoom (some 0), some (.refusedWrite machine.console.refusal)) := by
    rw [run, steps, printStep, console]
  refine ⟨written, fun fits => absurd fits (Nat.not_succ_le_zero _), fun _ => ?_⟩
  refine ⟨[], stmt, rest, machine.withRoom none, ?_⟩
  constructor
  case place => rfl
  case earlier => rfl
  case written => exact (List.append_nil _).symm
  case next =>
    refine ⟨value, rfl, ?_⟩
    rw [steps]
    exact congrArg (· ++ [Table.printedLine value]) same
  case failure => rw [refused]
  case output =>
    rw [refused]
    exact same
  case table =>
    rw [refused]
    exact table
  case unread =>
    intro others
    rw [List.nil_append, refused, refused]

/-- A run that prints nothing is the same whatever the room. -/
theorem Cut.nothing {machine after : Machine Console} {body : List Stmt} {failure : Option Failure}
    (console : after.console = machine.console)
    (ends : ∀ room, (machine.withRoom room).run body = (after.withRoom room, failure))
    (room : Nat) : Cut machine body room [] := by
  have same : after.console.written = machine.console.written := by rw [console]
  constructor
  case written =>
    rw [ends, List.map_nil, List.append_nil]
    exact same
  case whole =>
    intro _
    rw [ends, ends]
    rfl
  case short => exact fun beyond => absurd beyond (Nat.not_lt_zero room)

/-- An output without room cuts a run at a clean point. Where printing is the only procedure,
a run on an output that takes everything prints some numbers, each on a line of its own. With
room for at least as many lines, the run is the same. With less, it writes as many whole lines
as there is room for, fails with the error of the output, keeps the table of the moment when
the next line would have been written, and runs no later statement.

Proof: induction on the statements. A statement that writes nothing does the same whatever the
room; one that prints takes one line of it, or is where the run is cut. -/
theorem run_cut {machine : Machine Console} (prints : machine.table.PrintsOnly) (body : List Stmt) :
    ∃ printed, ∀ room, Cut machine body room printed := by
  induction body generalizing machine with
  | nil =>
    have ends (room : Option Nat) :
        (machine.withRoom room).run [] = (machine.withRoom room, none) :=
      rfl
    exact ⟨[], Cut.nothing rfl ends⟩
  | cons stmt rest others =>
    rcases step_withRoom prints stmt with
      ⟨after, failure, still, console, steps⟩ | ⟨started, value, table, console, steps⟩
    · cases failure with
      | some failure =>
        have ends (room : Option Nat) : (machine.withRoom room).run (stmt :: rest) =
            (after.withRoom room, some failure) := by
          rw [run, steps]
        exact ⟨[], Cut.nothing console ends⟩
      | none =>
        obtain ⟨printed, cuts⟩ := others still
        refine ⟨printed, fun room => ?_⟩
        refine (cuts room).behind [] (Nat.zero_add room) (steps _) (steps _) ?_ ?_
        · rw [console, List.map_nil, List.append_nil]
        · rw [console]
    · have still : (started.printing value).table.PrintsOnly :=
        (table ▸ prints : started.table.PrintsOnly)
      have wrote : (started.printing value).console.written =
          machine.console.written ++ [value].map Table.printedLine := by
        rw [printing, console]
        rfl
      obtain ⟨printed, cuts⟩ := others still
      refine ⟨value :: printed, fun room => ?_⟩
      cases room with
      | zero =>
        refine Cut.here table console steps ?_
        rw [run_of_step (steps none), (cuts 0).written, wrote, List.append_assoc]
        rfl
      | succ left =>
        refine (cuts left).behind [value] (Nat.add_comm 1 left) (steps _) (steps _) wrote ?_
        rw [printing, console]

/-- A program that prints by a call, assigns, prints by a statement and assigns again, on the
table where printing is a procedure. -/
theorem run_cut_mixed :
    let machine : Machine Console :=
      ⟨Table.initial ⟨false, false, .procedure⟩, .limited 1 (Text.ofString "full"), .silent, []⟩
    let number (value : Float) : Expr := .numeral .nowhere [] value
    let body : List Stmt :=
      [.call .nowhere ⟨.nowhere, ⟨.nowhere, Text.ofString "print"⟩, [number 1], .nowhere⟩,
        .assign .nowhere ⟨.nowhere, Text.ofString "x"⟩ (number 2),
        .print .nowhere (.name ⟨.nowhere, Text.ofString "x"⟩),
        .assign .nowhere ⟨.nowhere, Text.ofString "x"⟩ (number 3)]
    machine.table.PrintsOnly ∧ ∃ printed, ∀ room, Cut machine body room printed := by
  intro machine number body
  have prints : machine.table.PrintsOnly := Table.printsOnly_initial _
  exact ⟨prints, run_cut prints body⟩

end Astro.Machine
