import Astro.Number.Arithmetic
import Astro.Number.Layout
import Astro.Output

/-!
# What names stand for

A name is bound to a number, to a function or to a procedure. Functions give one
number and are called in expressions; procedures write to the output of the
program, and are called as statements. A native routine takes exactly as many
arguments as its arity says, so it cannot be applied to too few. An arity that is
negative fits no call.
-/

namespace Astro

/-- A function from a fixed number of arguments to a number. -/
structure NativeFunction where
  name : Text
  arity : Int
  apply : Vector Float arity.toNat → Float

/-- A procedure of a fixed number of arguments. What it performs may depend on its arguments, and
its writing on what the output says to each write. -/
structure NativeProcedure where
  name : Text
  arity : Int
  perform : Vector Float arity.toNat → Performance

/-- What a name stands for. Only numbers can be changed, and not all of them. -/
inductive Binding where
  | number (value : Float) (mutable : Bool)
  | function (routine : NativeFunction)
  | procedure (routine : NativeProcedure)

/-- Arguments for a routine of a given arity, when their number fits. -/
def fitArguments? (arity : Int) (args : List Float) : Option (Vector Float arity.toNat) :=
  if fits : (args.length : Int) = arity then
    some ⟨args.toArray, by simp only [List.size_toArray]; omega⟩
  else none

/-- Arguments fit a routine exactly when there are as many as its arity says. -/
theorem fitArguments_isSome (arity : Int) (args : List Float) :
    (fitArguments? arity args).isSome = true ↔ (args.length : Int) = arity := by
  unfold fitArguments?
  split <;> simp_all

namespace Binding

/-- The sorts of bindings, in the order of their code numbers. -/
def kindNames : List Text :=
  [Text.ofString "number", Text.ofString "function", Text.ofString "procedure"]

/-- The name of the sort of binding with a given code number. Numbers past the
known ones name themselves; there are no negative ones. -/
def kindName? (code : Int) : Option Text :=
  if code < 0 then none
  else
    some (kindNames.getD code.toNat (Text.ofString "Kind(" ++ Text.ofInt code ++ Text.ofString ")"))

/-- The name of the sort of a binding. It is the one that belongs to the sort's code number. -/
def kindName : Binding → Text
  | number _ _ => Text.ofString "number"
  | function _ => Text.ofString "function"
  | procedure _ => Text.ofString "procedure"

/-- Name and arity of a routine. Both sorts of routines are shown in the same way. -/
def routineText (sort name : Text) (arity : Int) : Text :=
  Text.ofString "<" ++ sort ++ Text.ofString " " ++ name ++ Text.ofString "/" ++ Text.ofInt arity ++
    Text.ofString ">"

/-- A binding as it is listed: the value of a number and whether it can be
changed, or the name and arity of a routine. -/
def text : Binding → Text
  | number value mutable =>
    Text.ofString "number " ++ Number.format value ++
      Text.ofString (if mutable then " (RW)" else " (RO)")
  | function routine => routineText (Text.ofString "function") routine.name routine.arity
  | procedure routine => routineText (Text.ofString "procedure") routine.name routine.arity

end Binding

end Astro
