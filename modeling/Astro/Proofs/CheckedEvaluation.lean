import Astro.Evaluation
import Astro.Proofs.Accesses
import Astro.Proofs.Tables

/-!
# Evaluation over accesses that can fail

Native routines read their arguments by index, and a call that does not give a routine
exactly as many arguments as it reads fails. The values of arguments are stored into a list
by index.

Nothing of this fails: every statement does what it does (`action?_eq`). The check that
makes calls safe is made before the call, and it is about the arity that a routine was
registered with. So the proofs keep along, from the first table on, that every routine
reads as many arguments as its arity says, and gives what its plain form gives.
-/

namespace Astro.Checked

variable {α β : Type}

/-! ### Bindings -/

/-- A native routine. Its body reads arguments by index; `reads` is how many it needs. -/
structure Native (α : Type) where
  name : Text
  arity : Int
  reads : Nat
  body : List Float → Option α
  exact : ∀ args, (body args).isSome = true ↔ reads ≤ args.length

/-- Call a routine. It must be given exactly as many arguments as it reads. -/
def Native.call? (native : Native α) (args : List Float) : Option α :=
  if args.length = native.reads then native.body args else none

/-- What a name stands for. Routines read their arguments by index here. -/
inductive Binding where
  | number (value : Float) (mutable : Bool)
  | function (native : Native Float)
  | procedure (native : Native Performance)

/-- What names stand for. A name that is not bound has none. -/
abbrev Bindings := Text → Option Binding

/-- Bind a name, whatever it was bound to before. -/
def Bindings.define (table : Bindings) (name : Text) (binding : Binding) : Bindings := fun other =>
  if other = name then some binding else table other

/-- A function of its first argument. Its body reads the argument at index zero, which has to be
there. -/
def unary (name : String) (apply : Float → Float) : Text × Binding :=
  (Text.ofString name, .function {
    name := Text.ofString name
    arity := 1
    reads := 1
    body := fun args => do
      let value ← element? args 0
      some (apply value)
    exact := by
      intro args
      cases args <;> simp [element?] })

/-- The length of the hypotenuse over its first two arguments. -/
def hypot : Native Float where
  name := Text.ofString "hypot"
  arity := 2
  reads := 2
  body := fun args => do
    let first ← element? args 0
    let second ← element? args 1
    some (Number.hypotenuse first second)
  exact := by
    intro args
    rcases args with _ | ⟨first, _ | ⟨second, others⟩⟩ <;> simp [element?]

/-- The procedure that prints its first argument on a line. -/
def print : Native Performance where
  name := Text.ofString "print"
  arity := 1
  reads := 1
  body := fun args => do
    let value ← element? args 0
    let text ← format? value
    some (.script [text ++ Text.ofString "\n"] none)
  exact := by
    intro args
    cases args <;> simp [element?, format?_eq]

/-- The bindings that every program starts with. They are those of the table, with bodies that
read their arguments by index. -/
def builtins : List (Text × Binding) :=
  [(Text.ofString "π", .number (.ofBits 0x400921fb54442d18) false),
   unary "sin" Number.sine,
   unary "cos" Number.cosine,
   unary "sqrt" Float.sqrt,
   (Text.ofString "hypot", .function hypot)]

/-- The table that programs of a dialect start with. -/
def Bindings.initial (dialect : Dialect) : Bindings :=
  let table : Bindings :=
    builtins.foldl (fun table entry => Bindings.define table entry.1 entry.2) fun _ => none
  if dialect.print = .procedure then
    Bindings.define table (Text.ofString "print") (.procedure print)
  else table

/-! ### Evaluation -/

/-- What can fail as a program may, and gives nothing when an access fails. -/
abbrev Run (α : Type) := ExceptT Failure Option α

/-- An access. It has no value where the access is out of range. -/
def access (result : Option α) : Run α := ExceptT.mk (result.map Except.ok)

/-- Store a value at an index. An index out of range is no place to store anything. -/
def store? (values : List Float) (index : Int) (value : Float) : Option (List Float) :=
  if 0 ≤ index ∧ index < values.length then some (values.set index.toNat value) else none

section Evaluation

variable (table : Bindings)

/-- The binding of a name that occurs in a program. -/
def resolve? (name : Name) : Run Binding :=
  match table name.text with
  | some binding => pure binding
  | none => throw (Fault.Cause.failure (.undefined name.text) name.span)

/-- The number that a name stands for. Resolving it reads no list. -/
def valueOf? (name : Name) : Run Float := do
  match ← resolve? table name with
  | .number value _ => pure value
  | _ => throw (Fault.Cause.numberExpected.failure name.span)

/-- Call a routine once the number of arguments fits its arity. -/
def callChecked? (native : Native α) (args : List Float) (argsSpan : Span) : Run α :=
  if (args.length : Int) = native.arity then access (native.call? args)
  else throw (Fault.Cause.argumentCount.failure argsSpan)

/-- The result of calling a function by name. It goes through the check of the arguments to the
body of the function. -/
def applyFunction? (callee : Name) (args : List Float) (argsSpan : Span) : Run Float := do
  match ← resolve? table callee with
  | .function native => callChecked? native args argsSpan
  | _ => throw (Fault.Cause.functionExpected.failure callee.span)

/-- What calling a procedure by name does. It goes the same way as calling a function. -/
def performProcedure? (callee : Name) (args : List Float) (argsSpan : Span) : Run Performance := do
  match ← resolve? table callee with
  | .procedure native => callChecked? native args argsSpan
  | _ => throw (Fault.Cause.procedureExpected.failure callee.span)

/-- Check that a name can be assigned to. It makes no access. -/
def checkAssignable? (target : Name) : Run Unit :=
  match table target.text with
  | none => pure ()
  | some (.number _ true) => pure ()
  | some (.number _ false) => throw (Fault.Cause.failure (.notWritable target.text) target.span)
  | some _ => throw (Fault.Cause.cannotAssign.failure target.span)

mutual

/-- The value of an expression. Arguments are evaluated into a list of their number, which is
filled place by place. -/
def evaluate? : Expr → Run Float
  | .numeral _ _ value => pure value
  | .name occurrence => valueOf? table occurrence
  | .unary _ _ operand => do
    let value ← evaluate? operand
    pure (-value)
  | .binary span op left right => do
    let first ← evaluate? left
    let second ← evaluate? right
    match operation? op with
    | some operation => pure (operation first second)
    | none => throw (.unknownOperator span.start op)
  | .call _ callee args argsSpan => do
    let values ← evaluateFrom? args 0 (List.replicate args.length 0)
    applyFunction? table callee values argsSpan
  | .foreign span typeName => throw (.foreignExpression span.start typeName)

/-- The values of expressions, from left to right, stored from an index on. -/
def evaluateFrom? : List Expr → Int → List Float → Run (List Float)
  | [], _, values => pure values
  | first :: rest, index, values => do
    let value ← evaluate? first
    let values ← access (store? values index value)
    evaluateFrom? rest (index + 1) values

end

/-- What a statement does, or the first of its checks that fails. -/
def action? : Stmt → Run Action
  | .assign _ target value => do
    let result ← evaluate? table value
    checkAssignable? table target
    pure (.define target.text result)
  | .call _ called => do
    let values ← evaluateFrom? table called.args 0 (List.replicate called.args.length 0)
    let performance ← performProcedure? table called.callee values called.argsSpan
    pure (.perform performance)
  | .print _ value => do
    let result ← evaluate? table value
    let text ← access (format? result)
    pure (.perform (.script [text ++ Text.ofString "\n"] none))
  | .foreign span typeName => throw (.foreignStatement span.start typeName)

end Evaluation

/-! ### Tables that serve -/

/-- A routine gives what a plain one gives, and reads as many arguments as its arity says. -/
structure Serves (native : Native α) (arity : Int) (result : Vector Float arity.toNat → α) :
    Prop where
  registered : native.arity = arity
  reads : arity = native.reads
  gives : ∀ args fitting, fitArguments? arity args = some fitting →
    native.body args = some (result fitting)

/-- A binding stands for the same as a plain one. -/
inductive Agrees : Option Binding → Option Astro.Binding → Prop where
  | unbound : Agrees none none
  | number (value : Float) (mutable : Bool) :
      Agrees (some (.number value mutable)) (some (.number value mutable))
  | function {native : Native Float} {routine : NativeFunction}
      (serves : Serves native routine.arity routine.apply) :
      Agrees (some (.function native)) (some (.function routine))
  | procedure {native : Native Performance} {routine : NativeProcedure}
      (serves : Serves native routine.arity routine.perform) :
      Agrees (some (.procedure native)) (some (.procedure routine))

/-- Names stand for the same as in a plain table. -/
def Bindings.Implements (bindings : Bindings) (table : Table) : Prop :=
  ∀ name, Agrees (bindings name) (table.lookup? name)

/-- Defining a name on both sides, to what agrees, keeps them the same for every name. -/
theorem Bindings.Implements.define {bindings : Bindings} {table : Table}
    (implements : bindings.Implements table) (name : Text) {binding : Binding}
    {plain : Astro.Binding} (agrees : Agrees (some binding) (some plain)) :
    (bindings.define name binding).Implements (table.define name plain) := by
  intro other
  rw [Table.lookup?_define, Bindings.define]
  split
  · exact agrees
  · exact implements other

/-- Defining several names on both sides keeps them the same. -/
theorem Bindings.Implements.defineAll {entries : List (Text × Binding)}
    {plain : List (Text × Astro.Binding)}
    (agree : List.Forall₂ (fun first second => first.1 = second.1 ∧
      Agrees (some first.2) (some second.2)) entries plain)
    {bindings : Bindings} {table : Table} (implements : bindings.Implements table) :
    Bindings.Implements
      (entries.foldl (fun table entry => Bindings.define table entry.1 entry.2) bindings)
      (plain.foldl (fun table entry => table.define entry.1 entry.2) table) := by
  induction agree generalizing bindings table with
  | nil => exact implements
  | @cons first second others more same _ behind =>
    obtain ⟨name, agrees⟩ := same
    rw [List.foldl_cons, List.foldl_cons, name]
    exact behind (implements.define second.1 agrees)

/-- A routine of one argument serves when it gives the right result for one. With any other number
of arguments it is not called. -/
theorem serves_one {native : Native α} {result : Vector Float 1 → α} (registered : native.arity = 1)
    (reads : native.reads = 1)
    (gives : ∀ value, native.body [value] = some (result ⟨#[value], rfl⟩)) :
    Serves native 1 result := by
  refine ⟨registered, by rw [reads]; rfl, fun args fitting fits => ?_⟩
  rcases args with _ | ⟨value, _ | ⟨second, others⟩⟩
  · cases fits
  · cases fits
    exact gives value
  · have some := (fitArguments_isSome 1 (value :: second :: others)).mp (by rw [fits]; rfl)
    simp only [List.length_cons] at some
    omega

/-- The hypotenuse serves: it reads two arguments, and it is called with two. -/
theorem serves_hypot :
    Serves hypot 2 fun args =>
      Number.hypotenuse (args.get ⟨0, by decide⟩) (args.get ⟨1, by decide⟩) := by
  refine ⟨rfl, rfl, fun args fitting fits => ?_⟩
  rcases args with _ | ⟨first, _ | ⟨second, _ | ⟨third, others⟩⟩⟩
  · cases fits
  · cases fits
  · cases fits
    rfl
  · have some := (fitArguments_isSome 2 (first :: second :: third :: others)).mp (by rw [fits]; rfl)
    simp only [List.length_cons] at some
    omega

/-- The procedure that prints serves: it reads one argument, and it is called with one. -/
theorem serves_print : Serves print 1 Table.printProcedure.perform := by
  refine serves_one rfl rfl fun value => ?_
  change (do
    let text ← format? value
    some (.script [text ++ Text.ofString "\n"] none) : Option Performance) = _
  rw [format?_eq]
  rfl

/-- The tables that programs start with are the same, in every dialect. The built-in bindings
agree one by one, and the procedure is added to both in the same dialects. -/
theorem Bindings.initial_implements (dialect : Dialect) :
    (initial dialect).Implements (Table.initial dialect) := by
  have agree : List.Forall₂ (fun first second => first.1 = second.1 ∧
      Agrees (some first.2) (some second.2)) builtins Table.builtins := by
    refine .cons ⟨rfl, .number _ _⟩ (.cons ⟨rfl, ?_⟩ (.cons ⟨rfl, ?_⟩ (.cons ⟨rfl, ?_⟩
      (.cons ⟨rfl, .function serves_hypot⟩ .nil))))
    all_goals exact .function (serves_one rfl rfl fun value => rfl)
  have builtin := @Implements.defineAll builtins Table.builtins agree (fun _ => none) .empty
    fun name => .unbound
  unfold initial Table.initial
  by_cases procedure : dialect.print = .procedure
  · simp only [if_pos procedure]
    exact builtin.define _ (.procedure serves_print)
  · simp only [if_neg procedure]
    exact builtin

/-! ### Evaluation gives what it gave -/

/-- Two computations in a row give what their plain forms give: a failure of the first, or what
the second makes of its value. -/
theorem run_then {first : Run α} {next : α → Run β} {plain : Except Failure α}
    {plainNext : α → Except Failure β} (given : first.run = some plain)
    (behind : ∀ value, (next value).run = some (plainNext value)) :
    (first >>= next).run = some (plain >>= plainNext) := by
  change Option.bind first.run _ = _
  rw [given]
  cases plain with
  | error failure => rfl
  | ok value => exact behind value

/-- A call that is checked gives a result, whether the number of arguments fits or not.

The check compares the number of arguments with the arity; that it is also the number of
arguments read is what serving says. -/
theorem callChecked?_eq {native : Native α} {arity : Int} {result : Vector Float arity.toNat → α}
    (serves : Serves native arity result) (args : List Float) (argsSpan : Span) :
    (callChecked? native args argsSpan).run =
      some (match fitArguments? arity args with
        | some fitting => .ok (result fitting)
        | none => .error (Fault.Cause.argumentCount.failure argsSpan)) := by
  have fits := fitArguments_isSome arity args
  rw [callChecked?, serves.registered]
  cases fitting : fitArguments? arity args with
  | none =>
    rw [fitting] at fits
    rw [if_neg fun same => Bool.false_ne_true (fits.mpr same)]
    rfl
  | some fitted =>
    rw [fitting] at fits
    have count := fits.mp rfl
    have exact : args.length = native.reads := by
      have reads := serves.reads
      omega
    rw [if_pos count, Native.call?, if_pos exact, serves.gives args fitted fitting]
    rfl

/-- A value can be stored where one stands. Behind it the values stay as they were. -/
theorem store?_append (front : List Float) (old : Float) (rest : List Float) (value : Float) :
    store? (front ++ old :: rest) front.length value = some (front ++ [value] ++ rest) := by
  have inside : (0 : Int) ≤ front.length ∧
      (front.length : Int) < (front ++ old :: rest).length := by
    rw [List.length_append, List.length_cons]
    omega
  rw [store?, if_pos inside, Int.toNat_natCast, List.set_append_right _ _ (Nat.le_refl _),
    Nat.sub_self, List.set_cons_zero, List.append_assoc, List.singleton_append]

/-- The values of some expressions behind others are those of the first one and of the rest behind
it. -/
theorem evaluateAll_cons (table : Table) (first : Expr) (rest : List Expr) (front : List Float) :
    (Expr.evaluateAll table (first :: rest)).map (front ++ ·) =
      first.evaluate table >>= fun value =>
        (Expr.evaluateAll table rest).map (front ++ [value] ++ ·) := by
  rw [Expr.evaluateAll]
  cases first.evaluate table with
  | error failure => rfl
  | ok value =>
    cases Expr.evaluateAll table rest with
    | error failure => rfl
    | ok others =>
      simp only [bind, Except.bind, Except.map, List.append_assoc, List.singleton_append]

section

variable {bindings : Bindings} {table : Table} (implements : bindings.Implements table)

include implements

/-- What is done with the binding of a name gives the same, if it does so for bindings
that are the same. -/
theorem run_resolve {next : Binding → Run β} {plainNext : Astro.Binding → Except Failure β}
    (name : Name)
    (behind : ∀ binding plain, Agrees (some binding) (some plain) →
      (next binding).run = some (plainNext plain)) :
    (resolve? bindings name >>= next).run = some (table.resolve name >>= plainNext) := by
  have agrees := implements name.text
  unfold resolve? Table.resolve
  generalize bindings name.text = bound at agrees
  generalize table.lookup? name.text = plain at agrees
  cases agrees with
  | unbound => rfl
  | number value mutable => exact behind _ _ (.number value mutable)
  | function serves => exact behind _ _ (.function serves)
  | procedure serves => exact behind _ _ (.procedure serves)

/-- A name has the value that it has in the table, or fails as it does there. -/
theorem valueOf?_eq (name : Name) : (valueOf? bindings name).run = some (table.valueOf name) := by
  refine run_resolve implements name fun binding plain agrees => ?_
  cases agrees <;> rfl

/-- A function is called with as many arguments as it reads, and gives what the table's gives.
Otherwise the call fails as it does there. -/
theorem applyFunction?_eq (callee : Name) (args : List Float) (argsSpan : Span) :
    (applyFunction? bindings callee args argsSpan).run =
      some (table.applyFunction callee args argsSpan) := by
  refine run_resolve implements callee fun binding plain agrees => ?_
  cases agrees with
  | number value mutable => rfl
  | procedure serves => rfl
  | @function native routine serves =>
    refine (callChecked?_eq serves args argsSpan).trans ?_
    dsimp only
    cases fitArguments? routine.arity args <;> rfl

/-- A procedure is called with as many arguments as it reads, and does what the table's does.
Otherwise the call fails as it does there. -/
theorem performProcedure?_eq (callee : Name) (args : List Float) (argsSpan : Span) :
    (performProcedure? bindings callee args argsSpan).run =
      some (table.performProcedure callee args argsSpan) := by
  refine run_resolve implements callee fun binding plain agrees => ?_
  cases agrees with
  | number value mutable => rfl
  | function serves => rfl
  | @procedure native routine serves =>
    refine (callChecked?_eq serves args argsSpan).trans ?_
    dsimp only
    cases fitArguments? routine.arity args <;> rfl

/-- A name can be assigned to when it can in the table, and else the check fails as it does there.
-/
theorem checkAssignable?_eq (target : Name) :
    (checkAssignable? bindings target).run = some (table.checkAssignable target) := by
  have agrees := implements target.text
  unfold checkAssignable? Table.checkAssignable
  generalize bindings target.text = bound at agrees
  generalize table.lookup? target.text = plain at agrees
  cases agrees with
  | unbound => rfl
  | number value mutable => cases mutable <;> rfl
  | function serves => rfl
  | procedure serves => rfl

end

mutual

/-- Expressions have the same values. No operand is missing and no list is read out of range, so
that the checked evaluation has the same result in every case. Proof: by the form of the
expression. -/
theorem evaluate?_eq {bindings : Bindings} {table : Table} (implements : bindings.Implements table)
    (expr : Expr) : (evaluate? bindings expr).run = some (expr.evaluate table) := by
  match expr with
  | .numeral span raw value =>
    rw [evaluate?, Expr.evaluate]
    rfl
  | .name occurrence =>
    rw [evaluate?, Expr.evaluate]
    exact valueOf?_eq implements occurrence
  | .unary span op operand =>
    rw [evaluate?, Expr.evaluate]
    exact run_then (evaluate?_eq implements operand) fun value => rfl
  | .binary span op left right =>
    rw [evaluate?, Expr.evaluate]
    refine run_then (evaluate?_eq implements left) fun first => ?_
    refine run_then (evaluate?_eq implements right) fun second => ?_
    cases operation? op <;> rfl
  | .call span callee args argsSpan =>
    rw [evaluate?, Expr.evaluate]
    refine run_then ?_ fun values => applyFunction?_eq implements callee values argsSpan
    refine (evaluateFrom?_eq implements args []).trans ?_
    cases Expr.evaluateAll table args <;> rfl
  | .foreign span typeName =>
    rw [evaluate?, Expr.evaluate]
    rfl

/-- Values are stored one behind another, each at an index that is there. -/
theorem evaluateFrom?_eq {bindings : Bindings} {table : Table}
    (implements : bindings.Implements table) (exprs : List Expr) (front : List Float) :
    (evaluateFrom? bindings exprs front.length (front ++ List.replicate exprs.length 0)).run =
      some ((Expr.evaluateAll table exprs).map (front ++ ·)) := by
  match exprs with
  | [] =>
    rw [evaluateFrom?, Expr.evaluateAll]
    rfl
  | first :: rest =>
    rw [evaluateFrom?, evaluateAll_cons]
    refine run_then (evaluate?_eq implements first) fun value => ?_
    have others := evaluateFrom?_eq implements rest (front ++ [value])
    rw [List.length_append, Int.natCast_add] at others
    rw [List.length_cons, List.replicate_succ, store?_append]
    exact others

end

/-- The values of arguments are stored in a list as long as they are many. -/
theorem evaluateArguments?_eq {bindings : Bindings} {table : Table}
    (implements : bindings.Implements table) (args : List Expr) :
    (evaluateFrom? bindings args 0 (List.replicate args.length 0)).run =
      some (Expr.evaluateAll table args) := by
  refine (evaluateFrom?_eq implements args []).trans ?_
  cases Expr.evaluateAll table args <;> rfl

/-- What a statement does is found without an access out of range or a nil dereference, and it is
what the statement's action on the table says. -/
theorem action?_eq {bindings : Bindings} {table : Table} (implements : bindings.Implements table)
    (stmt : Stmt) : (action? bindings stmt).run = some (stmt.action table) := by
  cases stmt with
  | assign span target value =>
    refine run_then (evaluate?_eq implements value) fun result => ?_
    exact run_then (checkAssignable?_eq implements target) fun _ => rfl
  | call span called =>
    refine run_then (evaluateArguments?_eq implements called.args) fun values => ?_
    exact run_then (performProcedure?_eq implements called.callee values called.argsSpan)
      fun performance => rfl
  | print span value =>
    refine run_then (evaluate?_eq implements value) fun result => ?_
    rw [format?_eq]
    rfl
  | foreign span typeName => rfl

end Astro.Checked
