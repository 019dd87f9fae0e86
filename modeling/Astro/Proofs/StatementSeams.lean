import Astro.Proofs.StatementWalk

/-!
# Cutting programs behind semicolons

A statement is read up to its semicolon, and a refused one is left behind through
its semicolon. So nothing that stands before a semicolon depends on what stands
behind it, and the statements of two lists of tokens, the first of which ends
with a semicolon, are those of the one and then those of the other.
-/

namespace Astro.Reading

/-- Tokens that go on to a last semicolon without ending the input. -/
structure Sealed (tokens : List Token) : Prop where
  goes : ∀ token ∈ tokens, token.kind ≠ .endOfInput
  ends : ∀ last ∈ tokens.getLast?, last.kind = .semicolon

/-- What is left of sealed tokens is sealed. -/
theorem Sealed.of_append {front back : List Token} (whole : Sealed (front ++ back)) :
    Sealed back := by
  constructor
  · intro token member
    exact whole.goes token (List.mem_append_right front member)
  · intro last atEnd
    refine whole.ends last ?_
    rw [List.getLast?_append, Option.mem_def.mp atEnd]
    rfl

/-- Recovery ends inside sealed tokens, unless there are none. They end with a semicolon, which
recovery never passes without stopping behind it. -/
theorem recover_append {tokens : List Token} (whole : Sealed tokens) (some : tokens ≠ [])
    (rest : List Token) : recover (tokens ++ rest) = recover tokens ++ rest := by
  induction tokens with
  | nil => exact absurd rfl some
  | cons first others shorter =>
    have going : first.kind ≠ .endOfInput := whole.goes first List.mem_cons_self
    by_cases semicolon : first.kind = .semicolon
    · simp [recover, semicolon]
    · have more : others ≠ [] := by
        rintro rfl
        exact semicolon (whole.ends first rfl)
      have behind := shorter (@Sealed.of_append [first] others whole) more
      simp [recover, going, semicolon, behind]

/-- Recovery leaves a part of the tokens behind. It drops tokens from the front only. -/
theorem exists_recover (tokens : List Token) : ∃ dropped, tokens = dropped ++ recover tokens := by
  induction tokens with
  | nil => exact ⟨[], rfl⟩
  | cons first others shorter =>
    obtain ⟨dropped, split⟩ := shorter
    unfold recover
    split
    · exact ⟨[], rfl⟩
    · split
      · exact ⟨[first], rfl⟩
      · exact ⟨first :: dropped, congrArg _ split⟩

/-- Sealed tokens are not used up by a statement that is refused. -/
theorem Confined.more {used rest : List Token} {problem : Diagnostic}
    (confined : Confined used (.error problem)) (whole : Sealed (used ++ rest))
    (some : used ++ rest ≠ []) : rest ≠ [] := by
  rintro rfl
  rw [List.append_nil] at whole some
  obtain ⟨last, atEnd⟩ := Option.isSome_iff_exists.mp (List.getLast?_isSome.mpr some)
  have member : last ∈ used := List.mem_of_getLast? atEnd
  exact (confined last member).1 (whole.ends last atEnd)

/-- A walk over a statement that is read, or before more tokens, does not see what
stands behind the list. -/
theorem StatementWalk.onward {dialect : Dialect} {used rest : List Token}
    {result : Except Diagnostic Stmt}
    (walk : StatementWalk dialect used (Token.next rest) result) (whole : Sealed (used ++ rest))
    (some : used ++ rest ≠ []) (behind : List Token) :
    StatementWalk dialect used (Token.next (rest ++ behind)) result := by
  cases result with
  | ok stmt => exact walk.derived.walk _
  | error problem =>
    have more := walk.confined.more whole some
    cases rest with
    | nil => exact absurd rfl more
    | cons first others => exact walk

/-- What is left behind a statement in sealed tokens is sealed, and what stands behind
them stands behind it. -/
theorem leftBehind_append {dialect : Dialect} {used rest : List Token} {ahead : Token}
    {result : Except Diagnostic Stmt} (walk : StatementWalk dialect used ahead result)
    (whole : Sealed (used ++ rest)) (some : used ++ rest ≠ []) (behind : List Token) :
    leftBehind result (rest ++ behind) = leftBehind result rest ++ behind ∧
      Sealed (leftBehind result rest) := by
  have remaining : Sealed rest := whole.of_append
  cases result with
  | ok stmt => exact ⟨rfl, remaining⟩
  | error problem =>
    have more := walk.confined.more whole some
    obtain ⟨dropped, split⟩ := exists_recover rest
    refine ⟨recover_append remaining more behind, ?_⟩
    rw [split] at remaining
    exact remaining.of_append

/-- The statements before a semicolon do not depend on the tokens behind it.

Proof: one statement after another. A statement that is read does not depend on what
stands behind it at all, and a refused one stops before a semicolon that is still to
come. -/
theorem statements_append (dialect : Dialect) {tokens : List Token} (whole : Sealed tokens)
    (behind : List Token) :
    statements dialect (tokens ++ behind) =
      statements dialect tokens ++ statements dialect behind := by
  induction tokens using statements_induction dialect with
  | ended tokens atEnd =>
    have none : tokens = [] := by
      cases tokens with
      | nil => rfl
      | cons first others => exact absurd atEnd (whole.goes first List.mem_cons_self)
    rw [none, @statements_end dialect [] rfl, List.nil_append, List.nil_append]
  | statement used rest result walk going later =>
    have some : used ++ rest ≠ [] := fun none => going (none ▸ rfl)
    obtain ⟨left, remaining⟩ := leftBehind_append walk whole some behind
    have goingOn : (Token.next (used ++ (rest ++ behind))).kind ≠ .endOfInput := by
      obtain ⟨first, others, split⟩ := List.exists_cons_of_ne_nil some
      rw [← List.append_assoc, split]
      exact whole.goes first (split ▸ List.mem_cons_self)
    have onward := (walk.onward whole some behind).statements_eq rfl goingOn
    rw [List.append_assoc, onward, walk.statements_eq rfl going, left, later remaining,
      List.cons_append]

end Astro.Reading
