import Astro.Diagnostic
import Astro.Token

/-!
# How running a program can fail

A fault is a failed check of the running program. It has one of four kinds, a
message and the place of the culprit, and can be shown like a diagnostic of the
program's text. Other failures have no place in the source to show: the tree is
not one that a program can have, or the world outside gave an error.
-/

namespace Astro

/-- The sort of a fault. A fault from elsewhere may have a number of its own. -/
inductive Fault.Kind where
  | undefinedSymbol
  | typeMismatch
  | notWritable
  | arityMismatch
  | other (number : Int) (unknown : ¬ (1 ≤ number ∧ number ≤ 4))
deriving DecidableEq, Repr

namespace Fault.Kind

/-- The number of a sort of fault. Any other number is a sort of its own, which no check makes. -/
def number : Kind → Int
  | undefinedSymbol => 1
  | typeMismatch => 2
  | notWritable => 3
  | arityMismatch => 4
  | other number _ => number

/-- The sort of fault with a given number. Every number is that of exactly one sort. -/
def ofNumber (number : Int) : Kind :=
  if known : 1 ≤ number ∧ number ≤ 4 then
    if number = 1 then undefinedSymbol
    else if number = 2 then typeMismatch
    else if number = 3 then notWritable
    else arityMismatch
  else other number known

/-- The name of a sort of fault. An unknown one is named by its number. -/
def text : Kind → Text
  | undefinedSymbol => Text.ofString "UndefinedSymbol"
  | typeMismatch => Text.ofString "TypeMismatch"
  | notWritable => Text.ofString "NotWritable"
  | arityMismatch => Text.ofString "ArityMismatch"
  | other number _ => Text.ofString "ErrorKind(" ++ Text.ofInt number ++ Text.ofString ")"

/-- What a known sort of fault is called among errors that can be told apart. -/
def label? : Kind → Option Text
  | undefinedSymbol => some (Text.ofString "undefined symbol")
  | typeMismatch => some (Text.ofString "type mismatch")
  | notWritable => some (Text.ofString "not writable")
  | arityMismatch => some (Text.ofString "arity mismatch")
  | other _ _ => none

/-- The stable code: `E3` and the number, in at least three columns. Zeros fill
them up behind a sign. -/
def code (kind : Kind) : Text :=
  let digits := Text.ofNat kind.number.natAbs
  let sign := if kind.number < 0 then Text.ofString "-" else []
  let zeros := List.replicate (3 - sign.length - digits.length) '0'
  Text.ofString "E3" ++ sign ++ Text.ofChars zeros ++ digits

/-- The number of a sort names it. -/
theorem ofNumber_number (kind : Kind) : ofNumber kind.number = kind := by
  cases kind with
  | other number unknown => simp [ofNumber, Kind.number, unknown]
  | _ => rfl

end Fault.Kind

/-- A failed check of a running program. It says of what sort it is, in which words, and where. -/
structure Fault where
  kind : Fault.Kind
  message : Text
  span : Span
deriving DecidableEq, Repr

/-- Why a check failed. The names that the words quote come with it. -/
inductive Fault.Cause where
  | undefined (name : Text)
  | numberExpected
  | functionExpected
  | procedureExpected
  | cannotAssign
  | notWritable (name : Text)
  | argumentCount
deriving DecidableEq, Repr

namespace Fault.Cause

/-- The sort of fault that a cause makes. Several causes are of one sort: using a name as what it
is not bound to is always a mismatch of types. -/
def kind : Cause → Fault.Kind
  | undefined _ => .undefinedSymbol
  | numberExpected => .typeMismatch
  | functionExpected => .typeMismatch
  | procedureExpected => .typeMismatch
  | cannotAssign => .typeMismatch
  | notWritable _ => .notWritable
  | argumentCount => .arityMismatch

/-- The wording of a cause. The names are quoted as they are spelled in the source. -/
def message : Cause → Text
  | undefined name => name ++ Text.ofString " not defined"
  | numberExpected => Text.ofString "expected type number"
  | functionExpected => Text.ofString "Function expected"
  | procedureExpected => Text.ofString "Procedure expected"
  | cannotAssign => Text.ofString "cannot assign"
  | notWritable name => name ++ Text.ofString " not writable"
  | argumentCount => Text.ofString "wrong number of arguments"

/-- The fault for a cause found at a span. Its sort and its wording are determined by the cause. -/
def fault (cause : Cause) (span : Span) : Fault := ⟨cause.kind, cause.message, span⟩

end Fault.Cause

/-- A fault as a diagnostic. It has a code like those of syntax errors and no advice. -/
def Fault.diagnostic (fault : Fault) : Diagnostic :=
  ⟨fault.kind.code, fault.message, fault.span, none⟩

/-- Why a text could not be run to its end. -/
inductive Failure where
  /-- The text is not a program. -/
  | notAProgram (diagnostic : Diagnostic)
  /-- A check failed. -/
  | checkFailed (fault : Fault)
  /-- A kind of token that denotes no operation stands as an operator. -/
  | unknownOperator (place : Position) (op : Token.Kind)
  /-- A statement of a foreign type. -/
  | foreignStatement (place : Position) (typeName : Text)
  /-- An expression of a foreign type. -/
  | foreignExpression (place : Position) (typeName : Text)
  /-- What receives the output gave an error. -/
  | refusedWrite (message : Text)
  /-- A procedure gave an error. -/
  | procedure (message : Text)
deriving DecidableEq, Repr

/-- The failure for a cause found at a span. All failing checks make failures of this form. -/
def Fault.Cause.failure (cause : Fault.Cause) (span : Span) : Failure :=
  .checkFailed (cause.fault span)

namespace Failure

/-- The diagnostic behind a failure, if it has a place in the source. -/
def diagnostic? : Failure → Option Diagnostic
  | notAProgram diagnostic => some diagnostic
  | checkFailed fault => some fault.diagnostic
  | _ => none

/-- A failure on one line. It starts with the place, unless the output or a procedure has failed,
whose own words are all that is known. -/
def text : Failure → Text
  | notAProgram diagnostic => diagnostic.text
  | checkFailed fault => fault.diagnostic.text
  | unknownOperator place op =>
    place.text ++ Text.ofString ": unknown operator '" ++ op.text ++ Text.ofString "'"
  | foreignStatement place typeName =>
    place.text ++ Text.ofString ": unhandled statement type: " ++ typeName
  | foreignExpression place typeName =>
    place.text ++ Text.ofString ": unhandled expression type: " ++ typeName
  | refusedWrite message => message
  | procedure message => message

/-- The sort of a failure. Syntax errors and failing checks have their own names, and everything
else has a common one. -/
def kindText : Failure → Text
  | notAProgram _ => Text.ofString "SyntaxError"
  | checkFailed fault => fault.kind.text
  | _ => Text.ofString "Other"

/-- What a failure is called among errors that can be told apart. -/
def label? : Failure → Option Text
  | checkFailed fault => fault.kind.label?
  | _ => none

/-- What is reported about a failure, ending with a newline: the failure on one
line, or an excerpt of the source when the context is wanted. In color it is red. -/
def report (failure : Failure) (source name : Text) (context color : Bool) : Text :=
  match failure.diagnostic? with
  | none => Text.ofString "error: " ++ failure.text ++ Text.ofString "\n"
  | some diagnostic =>
    let shown := if context then diagnostic.excerpt name source color else diagnostic.text
    let painted :=
      if color then Text.ofString "\x1b[31m" ++ shown ++ Text.ofString "\x1b[0m" else shown
    painted ++ Text.ofString "\n"

end Failure

end Astro
