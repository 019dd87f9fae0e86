import Astro.Session

/-!
# What sessions do with a text

A text runs when it spells a program and nothing is wrong with it. Then the session
does what its machine does with the statements of that program, and otherwise it
stays as it was.
-/

namespace Astro.Session

/-- A text is parsed exactly when it spells a program and nothing is wrong with it. The parser
stops at illegal characters, and otherwise at the first diagnostic of reading the tokens. -/
theorem parse_eq_ok_iff {dialect : Dialect} {source : Text} {program : Program} :
    parse dialect source = .ok program ↔ Program.ofText dialect source = (some program, []) := by
  rw [parse, Program.ofText]
  cases legal : Token.problems (Token.ofText source) with
  | cons problem others =>
    constructor
    · intro parsed
      cases parsed
    · intro reads
      cases reads
  | nil =>
    cases outcome : Program.ofTokens dialect (Token.ofText source) with
    | mk found diagnostics =>
      cases diagnostics with
      | cons problem others =>
        constructor
        · intro parsed
          cases parsed
        · intro reads
          cases reads
      | nil => simp

/-- A text without diagnostics is parsed. Such a text has no illegal characters, so that its
tokens are read to a program. -/
theorem exists_parse {dialect : Dialect} {source : Text}
    (clean : (Program.ofText dialect source).2 = []) :
    ∃ program, parse dialect source = .ok program := by
  cases read : Program.ofText dialect source with
  | mk found diagnostics =>
    obtain rfl : diagnostics = [] := by rwa [read] at clean
    cases found with
    | some program => exact ⟨program, parse_eq_ok_iff.mpr read⟩
    | none =>
      rw [Program.ofText] at read
      cases legal : Token.problems (Token.ofText source) with
      | nil =>
        rw [legal] at read
        cases read
      | cons problem others =>
        rw [legal] at read
        cases read

/-- A text that is parsed has tokens that spell its program. -/
theorem ofTokens_of_parse {dialect : Dialect} {source : Text} {program : Program}
    (parsed : parse dialect source = .ok program) :
    Program.ofTokens dialect (Token.ofText source) = (program, []) := by
  rw [parse] at parsed
  split at parsed
  · cases parsed
  · split at parsed
    · cases parsed
    · rename_i found outcome
      cases parsed
      exact outcome

variable {σ : Type} [Output σ]

/-- A text that is parsed runs as its program. What the machine is behind it, and how that ends,
is what the session is and how it ends. -/
theorem exec_of_parse {session : Session σ} {source : Text} {program : Program}
    (parsed : parse session.dialect source = .ok program) :
    session.exec source =
      ({ session with machine := (session.machine.run program.body).1 },
        (session.machine.run program.body).2) := by
  rw [exec, parsed]

/-- A text that is not parsed leaves the session as it was. -/
theorem exec_of_refused {session : Session σ} {source : Text} {failure : Failure}
    (refused : parse session.dialect source = .error failure) :
    session.exec source = (session, some failure) := by
  rw [exec, refused]

/-- A session keeps its dialect. It keeps it also when the text is refused or fails. -/
theorem exec_dialect (session : Session σ) (source : Text) :
    (session.exec source).1.dialect = session.dialect := by
  cases parsed : parse session.dialect source with
  | error failure => rw [exec_of_refused parsed]
  | ok program => rw [exec_of_parse parsed]

end Astro.Session
