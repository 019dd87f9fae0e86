import Astro.Proofs.Relocation
import Astro.Proofs.StatementWalk

/-!
# Programs are what the grammar derives

A list of tokens is read without a diagnostic exactly when the tokens before the
end of the input are derived as a program, and the statements that are read are
then those of the derivation. In particular there is only one derivation: the
grammar leaves no choice of a tree.
-/

namespace Astro

namespace Token

/-- The tokens of a list before the first that ends the input; all of them when
none does. -/
def beforeEnd (tokens : List Token) : List Token :=
  tokens.takeWhile fun token => token.kind ≠ .endOfInput

/-- Nothing stands before the end of the input. -/
theorem beforeEnd_of_ends {tokens : List Token} (ends : (next tokens).kind = .endOfInput) :
    beforeEnd tokens = [] := by
  cases tokens with
  | nil => rfl
  | cons first rest =>
    have atEnd : first.kind = .endOfInput := ends
    simp [beforeEnd, atEnd]

/-- Tokens that do not end the input stand before what ends it behind them. -/
theorem beforeEnd_append {tokens : List Token} (going : ∀ token ∈ tokens, token.kind ≠ .endOfInput)
    (rest : List Token) : beforeEnd (tokens ++ rest) = tokens ++ beforeEnd rest := by
  exact List.takeWhile_append_of_pos fun token member => decide_eq_true (going token member)

/-- Behind the tokens before the end of the input stands that end. -/
theorem exists_beforeEnd (tokens : List Token) :
    ∃ rest, tokens = beforeEnd tokens ++ rest ∧ (next rest).kind = .endOfInput := by
  induction tokens with
  | nil => exact ⟨[], rfl, rfl⟩
  | cons first rest behind =>
    by_cases ends : first.kind = .endOfInput
    · exact ⟨first :: rest, by simp [beforeEnd, ends], ends⟩
    · obtain ⟨last, split, atEnd⟩ := behind
      have single : ∀ token ∈ [first], token.kind ≠ .endOfInput := by simpa using ends
      refine ⟨last, ?_, atEnd⟩
      rw [← List.singleton_append, beforeEnd_append single, List.append_assoc, ← split]

end Token

namespace Reading

open Grammar

/-- Outcomes without a diagnostic are those of some trees.

Proof: induction on the outcomes, each of which is a tree or a diagnostic. -/
theorem diagnostics_eq_nil_iff (outcomes : List (Except Diagnostic Stmt)) :
    diagnostics outcomes = [] ↔ outcomes = (trees outcomes).map .ok := by
  induction outcomes with
  | nil => exact ⟨fun _ => rfl, fun _ => rfl⟩
  | cons first rest others =>
    cases first with
    | error problem =>
      refine ⟨fun none => absurd none (by simp [diagnostics]), fun same => ?_⟩
      have member : Except.error problem ∈ (trees (.error problem :: rest)).map Except.ok :=
        same ▸ List.mem_cons_self
      simp at member
    | ok stmt => simpa [diagnostics, trees, Except.toOption] using others

/-- What is read of trees alone is those trees. None of them is a diagnostic, and their order is
kept. -/
theorem trees_map_ok (body : List Stmt) : trees (body.map .ok) = body := by
  induction body with
  | nil => rfl
  | cons first rest others => simpa [trees, Except.toOption] using others

/-- A derived statement does not start at the end of the input. -/
theorem going_of_statement {dialect : Dialect} {tokens : List Token} {stmt : Stmt}
    (derived : Statement dialect tokens stmt) (rest : List Token) :
    (Token.next (tokens ++ rest)).kind ≠ .endOfInput := by
  cases derived with
  | assign named assigns assigned ends => exact (inside_of_isName named).2
  | call named opens listed closes ends => exact (inside_of_isName named).2
  | print keyword prints printed ends => simp [prints]

/-- A derived program is read statement by statement.

Proof: induction on the derivation. Each statement is read to its semicolon, and the rest behind
that. -/
theorem statements_of_body {dialect : Dialect} {tokens : List Token} {body : List Stmt}
    (derived : Body dialect tokens body) {rest : List Token}
    (ends : (Token.next rest).kind = .endOfInput) :
    statements dialect (tokens ++ rest) = body.map .ok := by
  induction derived with
  | last only =>
    have walk := only.walk (Token.next rest)
    rw [walk.statements_eq rfl (going_of_statement only rest)]
    exact congrArg _ (statements_end dialect ends)
  | @more first others stmt body before behind remaining =>
    have walk := before.walk (Token.next (others ++ rest))
    rw [List.append_assoc, walk.statements_eq rfl (going_of_statement before _)]
    exact congrArg _ remaining

/-- A first statement that is read is derived from the tokens before what is left behind it. -/
theorem exists_statement_of_reads {dialect : Dialect} {tokens : List Token} {stmt : Stmt}
    {others : List (Except Diagnostic Stmt)}
    (reads : statements dialect tokens = .ok stmt :: others) :
    ∃ used rest, Statement dialect used stmt ∧
      Token.beforeEnd tokens = used ++ Token.beforeEnd rest ∧ statements dialect rest = others := by
  obtain ⟨used, rest, result, rfl, walk⟩ := exists_statementWalk dialect tokens
  have going : (Token.next (used ++ rest)).kind ≠ .endOfInput := by
    intro ends
    rw [statements_end dialect ends] at reads
    cases reads
  rw [walk.statements_eq rfl going] at reads
  obtain ⟨rfl, rfl⟩ := List.cons.inj reads
  exact ⟨used, rest, walk.derived, Token.beforeEnd_append walk.confined.going rest, rfl⟩

/-- Statements that are all read come from a derived program.

Proof: induction on the statements. The first of them ends with its semicolon, so
the tokens before the end of the input are its own and those before the end of
what is left behind it. -/
theorem body_of_statements {dialect : Dialect} {tokens : List Token} {stmt : Stmt}
    {body : List Stmt} (reads : statements dialect tokens = (stmt :: body).map .ok) :
    Body dialect (Token.beforeEnd tokens) (stmt :: body) := by
  induction body generalizing tokens stmt with
  | nil =>
    obtain ⟨used, rest, derived, before, others⟩ := exists_statement_of_reads reads
    have ends := (statements_eq_nil_iff dialect rest).mp others
    rw [before, Token.beforeEnd_of_ends ends, List.append_nil]
    exact .last derived
  | cons second body remaining =>
    obtain ⟨used, rest, derived, before, others⟩ := exists_statement_of_reads reads
    rw [before]
    exact .more derived (remaining others)

end Reading

/-- A program has a statement. The empty text is no program in any dialect. -/
theorem Grammar.Body.ne_nil {dialect : Dialect} {tokens : List Token} {body : List Stmt}
    (derived : Body dialect tokens body) : body ≠ [] := by
  cases derived <;> exact List.cons_ne_nil _ _

/-- The grammar is unambiguous: derived tokens have one tree. Both trees are what the parser
reads. -/
theorem Grammar.Body.unique {dialect : Dialect} {tokens : List Token} {first second : List Stmt}
    (left : Body dialect tokens first) (right : Body dialect tokens second) : first = second := by
  have same := (Reading.statements_of_body left rfl).symm.trans
    (@Reading.statements_of_body dialect tokens second right [] rfl)
  simpa [Reading.trees_map_ok] using congrArg Reading.trees same

namespace Program

open Grammar

/-- The diagnostics of a program are those of its statements, of which there has to be at least
one. If the input ends at once, the program is empty and there is a diagnostic. Otherwise the
statements are all read, as trees and without a diagnostic, or one of them is reported. -/
theorem ofTokens_eq_iff (dialect : Dialect) (tokens : List Token) (body : List Stmt) :
    (ofTokens dialect tokens).2 = [] ∧ (ofTokens dialect tokens).1.body = body ↔
      body ≠ [] ∧ Reading.statements dialect tokens = body.map .ok := by
  by_cases ends : (Token.next tokens).kind = .endOfInput
  · have nothing := Reading.statements_end dialect ends
    simp [ofTokens, ends, nothing]
  · have some : Reading.statements dialect tokens ≠ [] := fun nothing =>
      ends ((Reading.statements_eq_nil_iff dialect tokens).mp nothing)
    simp only [ofTokens, if_neg ends, Reading.diagnostics_eq_nil_iff]
    constructor
    · rintro ⟨clean, rfl⟩
      refine ⟨fun none => some ?_, clean⟩
      rw [clean, none, List.map_nil]
    · rintro ⟨_, reads⟩
      rw [reads, Reading.trees_map_ok]
      exact ⟨rfl, rfl⟩

/-- Reading a program without a diagnostic is deriving it. The tokens behind the end of the input
do not matter to either. -/
theorem ofTokens_iff_body (dialect : Dialect) (tokens : List Token) (body : List Stmt) :
    (ofTokens dialect tokens).2 = [] ∧ (ofTokens dialect tokens).1.body = body ↔
      Body dialect (Token.beforeEnd tokens) body := by
  rw [ofTokens_eq_iff]
  constructor
  · rintro ⟨some, reads⟩
    obtain ⟨stmt, rest, rfl⟩ := List.exists_cons_of_ne_nil some
    exact Reading.body_of_statements reads
  · intro derived
    obtain ⟨rest, split, ends⟩ := Token.exists_beforeEnd tokens
    refine ⟨derived.ne_nil, ?_⟩
    rw [split]
    exact Reading.statements_of_body derived ends

/-- A token list is read without a diagnostic, as a program of the shape of `body`,
exactly when its tokens before the end of the input have one derivation, and that is
of this shape. -/
theorem read_iff_derived (dialect : Dialect) (tokens : List Token) (body : List Stmt) :
    (ofTokens dialect tokens).2 = [] ∧
        (ofTokens dialect tokens).1.body.map Stmt.shape = body.map Stmt.shape ↔
      ∃ tree, (∀ other, Body dialect (Token.beforeEnd tokens) other ↔ other = tree) ∧
        tree.map Stmt.shape = body.map Stmt.shape := by
  constructor
  · rintro ⟨clean, same⟩
    have derived := (ofTokens_iff_body dialect tokens _).mp ⟨clean, rfl⟩
    refine ⟨_, fun other => ⟨fun another => another.unique derived, ?_⟩, same⟩
    rintro rfl
    exact derived
  · rintro ⟨tree, only, same⟩
    obtain ⟨clean, rfl⟩ := (ofTokens_iff_body dialect tokens tree).mpr ((only tree).mpr rfl)
    exact ⟨clean, same⟩

end Program

end Astro
