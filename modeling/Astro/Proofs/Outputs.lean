import Astro.Proofs.RelocatedRun

/-!
# What outputs take

What a program has written is what its output has taken, by the output's own account: for
every write, as many bytes as the receipt says. Any view of an output that goes by this
account shows the same (`Output.Shows`); what a console has written is one.

An output that refuses a text may have taken a part of it. Those that never do are a kind of
their own (`Output.AllOrNothing`). Two outputs need not be of one type to behave the same:
it is enough that they answer alike, whatever is written (`Output.BehaveAlike`).
-/

namespace Astro

/-- A view of an output shows what the output takes: with every write, it grows by as much
of the text as the output says that it took. -/
def Output.Shows {σ : Type} [Output σ] (shown : σ → Text) : Prop :=
  ∀ state text, shown (Output.write state text).1 =
    shown state ++ text.take (Output.write state text).2.taken

/-- The outputs that take a text whole or not at all: they take no part of a text that they
refuse. -/
def Output.AllOrNothing (σ : Type) [Output σ] : Prop :=
  ∀ (state : σ) (text refusal : Text),
    (Output.write state text).2.refusal = some refusal → (Output.write state text).2.taken = 0

/-- Two outputs behave the same as long as they are in states that are related: they answer
every text in the same way, and are in related states behind it. -/
def Output.BehaveAlike {σ τ : Type} [Output σ] [Output τ] (related : σ → τ → Prop) : Prop :=
  ∀ first second, related first second → ∀ text,
    (Output.write first text).2 = (Output.write second text).2 ∧
      related (Output.write first text).1 (Output.write second text).1

/-- An output refuses a text with an error, and takes only a front of it. -/
def Output.Refuses {σ : Type} [Output σ] (state : σ) (text : Text) (after : σ)
    (refusal wrote : Text) : Prop :=
  ∃ taken, Output.write state text = (after, ⟨taken, some refusal⟩) ∧ wrote = text.take taken

/-- An output that takes texts whole or not at all has taken nothing of what it refuses. -/
theorem Output.Refuses.nothing {σ : Type} [Output σ] (whole : Output.AllOrNothing σ)
    {state after : σ} {text refusal wrote : Text}
    (refuses : Output.Refuses state text after refusal wrote) : wrote = [] := by
  obtain ⟨taken, answers, rfl⟩ := refuses
  have none := whole state text refusal
  rw [answers] at none
  obtain rfl : taken = 0 := none rfl
  rfl

/-- All that a console has taken is its output. A text that is refused leaves no bytes behind, and
one that is taken is put behind the others. -/
theorem Console.shows_output : Output.Shows Console.output := by
  intro console text
  simp only [Output.write]
  cases wrote : console.write? text with
  | none => simp
  | some after =>
    have written : after.written = console.written ++ [text] := by
      unfold write? at wrote
      split at wrote
      · split at wrote <;> cases wrote <;> rfl
      · cases wrote
        rfl
    simp [output, written]

/-- A console takes a text whole or not at all. -/
theorem Console.allOrNothing : Output.AllOrNothing Console := by
  intro console text refusal refused
  simp only [Output.write] at refused ⊢
  cases wrote : console.write? text with
  | none => rfl
  | some after => simp [wrote] at refused

/-- Consoles with the same room and the same error behave the same, whatever was written on
them before. -/
theorem Console.behaveAlike : Output.BehaveAlike fun first second : Console =>
    first.room = second.room ∧ first.refusal = second.refusal := by
  rintro ⟨written, room, refusal⟩ ⟨others, _, _⟩ ⟨rfl, rfl⟩ text
  by_cases ends : endsLine text = true
  · match room with
    | none => simp [Output.write, write?, ends]
    | some 0 => simp [Output.write, write?, ends]
    | some (left + 1) => simp [Output.write, write?, ends]
  · simp [Output.write, write?, ends]

namespace Performance

variable {σ : Type} [Output σ]

/-- What an output takes of all that a performance writes on it. -/
def wrote : Performance → σ → Text
  | done, _ => []
  | fail _, _ => []
  | giveUp _, _ => []
  | write text next, state =>
    let (after, receipt) := Output.write state text
    text.take receipt.taken ++ (next receipt).wrote after

/-- A view of an output shows what a performance writes on it. -/
theorem shown_run {shown : σ → Text} (shows : Output.Shows shown) (performance : Performance)
    (state : σ) : shown (performance.run state).1 = shown state ++ performance.wrote state := by
  induction performance generalizing state with
  | done => exact (List.append_nil _).symm
  | fail message => exact (List.append_nil _).symm
  | giveUp refusal => exact (List.append_nil _).symm
  | write text next behind =>
    rw [run, wrote, behind, shows, List.append_assoc]

/-- A performance fails in the same way on outputs that behave the same, they take the same of
it, and they still behave the same behind it.

Proof: induction on the performance. It only ever learns what comes of its writes, so it goes on
in the same way on both outputs. -/
theorem run_alike {τ : Type} [Output τ] {related : σ → τ → Prop}
    (alike : Output.BehaveAlike related) (performance : Performance) {first : σ} {second : τ}
    (same : related first second) :
    related (performance.run first).1 (performance.run second).1 ∧
      (performance.run first).2 = (performance.run second).2 ∧
      performance.wrote first = performance.wrote second := by
  induction performance generalizing first second with
  | done => exact ⟨same, rfl, rfl⟩
  | fail message => exact ⟨same, rfl, rfl⟩
  | giveUp refusal => exact ⟨same, rfl, rfl⟩
  | write text next behind =>
    obtain ⟨answer, still⟩ := alike first second same text
    obtain ⟨ends, fails, written⟩ := behind (Output.write first text).2 still
    simp only [run, wrote, ← answer]
    exact ⟨ends, fails, congrArg _ written⟩

/-- To print a line writes what the output takes of the line, and no more. -/
theorem wrote_line (line : Text) (state : σ) :
    (script [line] none).wrote state = line.take (Output.write state line).2.taken := by
  simp only [script, wrote]
  cases (Output.write state line).2.refusal <;> exact List.append_nil _

/-- Where printing a line fails, the output has refused the line. -/
theorem refuses_of_line {line : Text} {state after : σ} {failure : Failure}
    (fails : (script [line] none).run state = (after, some failure)) :
    ∃ refusal, failure = .refusedWrite refusal ∧
      Output.Refuses state line after refusal ((script [line] none).wrote state) := by
  rw [run_line] at fails
  obtain ⟨rfl, refused⟩ := Prod.mk.inj fails
  obtain ⟨refusal, given, rfl⟩ := Option.map_eq_some_iff.mp refused
  refine ⟨refusal, rfl, (Output.write state line).2.taken, ?_, wrote_line line state⟩
  rw [← given]

end Performance

namespace Machine

variable {σ : Type} [Output σ]

/-- What the output of a machine takes of all that a statement writes. -/
def wroteBy (machine : Machine σ) (stmt : Stmt) : Text :=
  match stmt.action machine.table with
  | .ok (.perform performance) => performance.wrote machine.console
  | _ => []

/-- What the output of a machine takes of all that statements write, up to the first that
fails, and of what that one writes. -/
def wrote (machine : Machine σ) : List Stmt → Text
  | [] => []
  | stmt :: rest =>
    match machine.step stmt with
    | (_, some _) => machine.wroteBy stmt
    | (after, none) => machine.wroteBy stmt ++ after.wrote rest

/-- A view of an output shows what a statement writes. -/
theorem shown_step {shown : σ → Text} (shows : Output.Shows shown) (machine : Machine σ)
    (stmt : Stmt) :
    shown (machine.step stmt).1.console = shown machine.console ++ machine.wroteBy stmt := by
  have started := agrees_record machine (.started stmt.typeName stmt.span.start)
  simp only [step, wroteBy, started.table]
  cases stmt.action machine.table with
  | error failure => rw [started.console, List.append_nil]
  | ok action =>
    cases action with
    | define name value =>
      simp only [act, (agrees_record _ _).console, List.append_nil]
    | perform performance =>
      simp only [act, started.console]
      exact Performance.shown_run shows performance machine.console

/-- A view of an output shows what statements write.

Proof: induction on the statements, the first of which shows what it writes. Behind one that fails
nothing is written. -/
theorem shown_run {shown : σ → Text} (shows : Output.Shows shown) (machine : Machine σ)
    (body : List Stmt) :
    shown (machine.run body).1.console = shown machine.console ++ machine.wrote body := by
  induction body generalizing machine with
  | nil => exact (List.append_nil _).symm
  | cons stmt rest others =>
    have here := shown_step shows machine stmt
    rw [run, wrote]
    cases stepped : machine.step stmt with
    | mk after failure =>
      rw [stepped] at here
      cases failure with
      | some failure => exact here
      | none =>
        simp only at here ⊢
        rw [others, here, List.append_assoc]

/-- Statements behind others write what they do on the machine that those leave, if those
succeed. Otherwise they write nothing. -/
theorem wrote_append (machine : Machine σ) (first second : List Stmt) :
    machine.wrote (first ++ second) =
      match machine.run first with
      | (_, some _) => machine.wrote first
      | (after, none) => machine.wrote first ++ after.wrote second := by
  induction first generalizing machine with
  | nil => rfl
  | cons stmt rest others =>
    rw [List.cons_append, wrote, run, wrote]
    cases machine.step stmt with
    | mk after failure =>
      cases failure with
      | some failure => rfl
      | none =>
        simp only [others]
        cases after.run rest with
        | mk ended outcome =>
          cases outcome with
          | some failure => rfl
          | none => exact (List.append_assoc _ _ _).symm

end Machine

end Astro
