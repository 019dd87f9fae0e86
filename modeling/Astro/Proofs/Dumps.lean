import Astro.Proofs.NodeMaps

/-!
# Dumps of trees

A decoder that only looks up keys rebuilds a tree from its dump (`Node.ofJson?_toJson`), but
for the spans of arguments, which no dump holds. Every node of a known type has a map of its
own, at each of the three levels of programs, statements and expressions. Numbers are compared
by their bits, where there is just one that is not a number.
-/

namespace Astro

/-! ### Parts of objects -/

namespace Json

/-- What stands in an object is smaller than the object. This is what makes it admissible to read
a dump by recursion on its parts. -/
theorem sizeOf_field? {key : String} {json part : Json} (found : json.field? key = some part) :
    sizeOf part < sizeOf json := by
  cases json with
  | object fields =>
    have member : (key, part) ∈ fields := by
      induction fields with
      | nil => cases found
      | cons first rest behind =>
        obtain ⟨other, held⟩ := first
        rw [field?, List.lookup_cons] at found
        cases same : key == other with
        | true =>
          rw [same] at found
          obtain rfl := eq_of_beq same
          obtain rfl := Option.some.inj found
          exact List.mem_cons_self
        | false =>
          rw [same] at found
          exact List.mem_cons_of_mem _ (behind found)
    have inside := List.sizeOf_lt_of_mem member
    simp only [Prod.mk.sizeOf_spec, object.sizeOf_spec] at inside ⊢
    omega
  | _ => cases found

/-- What an object holds at a key, which is smaller than the object. -/
def part? (key : String) (json : Json) : Option { part : Json // sizeOf part < sizeOf json } :=
  (json.field? key).attach.map fun part => ⟨part.val, sizeOf_field? part.property⟩

/-- The text that an object holds at a key. -/
def text? (key : String) (json : Json) : Option Text :=
  match json.field? key with
  | some (.string text) => some text
  | _ => none

/-- The whole number that an object holds at a key. -/
def integer? (key : String) (json : Json) : Option Int :=
  match json.field? key with
  | some (.integer value) => some value
  | _ => none

/-- The number that an object holds at a key. -/
def number? (key : String) (json : Json) : Option Float :=
  match json.field? key with
  | some (.number value) => some value
  | _ => none

/-- The items of an array are smaller than the array, so that reading may go on with them. -/
theorem sizeOf_lt_array (items : List Json) : sizeOf items < sizeOf (array items) := by
  rw [array.sizeOf_spec]
  omega

/-- The items of the array that an object holds at a key, which are smaller than the
object. -/
def items? (key : String) (json : Json) :
    Option { items : List Json // sizeOf items < sizeOf json } :=
  match json.part? key with
  | some ⟨.array items, smaller⟩ => some ⟨items, Nat.lt_trans (sizeOf_lt_array items) smaller⟩
  | _ => none

/-- An object holds at a key what can be looked up there. The bound on the size comes with it. -/
theorem part?_of_field? {key : String} {json part : Json} (found : json.field? key = some part) :
    json.part? key = some ⟨part, sizeOf_field? found⟩ := by
  rw [part?, Option.map_eq_some_iff]
  exact ⟨⟨part, found⟩, Option.attach_eq_some_iff.mpr found, rfl⟩

/-- An object holds the items of an array at a key where that array can be looked up. -/
theorem items?_of_field? {key : String} {json : Json} {items : List Json}
    (found : json.field? key = some (.array items)) :
    json.items? key = some ⟨items, Nat.lt_trans (sizeOf_lt_array items) (sizeOf_field? found)⟩ := by
  rw [items?, part?_of_field? found]

end Json

/-! ### The decoder -/

/-- The place that a dump shows. All three of its numbers have to be there. -/
def Position.ofJson? (json : Json) : Option Position := do
  let offset ← json.integer? "offset"
  let line ← json.integer? "line"
  let column ← json.integer? "column"
  return ⟨offset, line, column⟩

/-- The span that a dump shows. Both of its ends have to be there. -/
def Span.ofJson? (json : Json) : Option Span := do
  let start ← json.field? "start"
  let stop ← json.field? "end"
  let start ← Position.ofJson? start
  let stop ← Position.ofJson? stop
  return ⟨start, stop⟩

/-- The span of a node. Every kind of node has one. -/
def Json.span? (json : Json) : Option Span := do
  let span ← json.field? "span"
  Span.ofJson? span

/-- The kind of operator that a node shows. It is named by the spelling of its kind. -/
def Json.operator? (json : Json) : Option Token.Kind := do
  let text ← json.text? "op"
  Token.Kind.ofText? text

/-- The occurrence of a name that a dump shows. -/
def Name.ofJson? (json : Json) : Option Name := do
  let span ← json.span?
  let text ← json.text? "name"
  return ⟨span, text⟩

mutual

/-- The expression that a dump shows, with the spans of arguments left open. -/
def Expr.ofJson? (json : Json) : Option Expr := do
  let kind ← json.text? "kind"
  let span ← json.span?
  if kind = Text.ofString "IdentExpr" then do
    let name ← Name.ofJson? json
    return .name name
  else if kind = Text.ofString "NumberLiteral" then do
    let raw ← json.text? "raw"
    let value ← json.number? "value"
    return .numeral span raw value
  else if kind = Text.ofString "UnaryExpr" then do
    let op ← json.operator?
    let operand ← json.part? "operand"
    let operand ← Expr.ofJson? operand.val
    return .unary span op operand
  else if kind = Text.ofString "BinaryExpr" then do
    let op ← json.operator?
    let left ← json.part? "left"
    let right ← json.part? "right"
    let left ← Expr.ofJson? left.val
    let right ← Expr.ofJson? right.val
    return .binary span op left right
  else if kind = Text.ofString "CallExpr" then do
    let callee ← json.field? "callee"
    let callee ← Name.ofJson? callee
    let args ← json.items? "args"
    let args ← Expr.ofJsonAll? args.val
    return .call span callee args .nowhere
  else none
termination_by sizeOf json
decreasing_by
  · exact operand.property
  · exact left.property
  · exact right.property
  · exact args.property

/-- The expressions that dumps show. All of them have to show one. -/
def Expr.ofJsonAll? (items : List Json) : Option (List Expr) :=
  match items with
  | [] => some []
  | first :: rest => do
    let expr ← Expr.ofJson? first
    let exprs ← Expr.ofJsonAll? rest
    return expr :: exprs
termination_by sizeOf items

end

/-- The statement that a dump shows. Its kind decides which fields are read. -/
def Stmt.ofJson? (json : Json) : Option Stmt := do
  let kind ← json.text? "kind"
  let span ← json.span?
  if kind = Text.ofString "AssignStmt" then do
    let target ← json.field? "target"
    let target ← Name.ofJson? target
    let value ← json.field? "value"
    let value ← Expr.ofJson? value
    return .assign span target value
  else if kind = Text.ofString "CallStmt" then do
    let called ← json.field? "call"
    match ← Expr.ofJson? called with
    | .call place callee args argsSpan => return .call span ⟨place, callee, args, argsSpan⟩
    | _ => none
  else if kind = Text.ofString "PrintStmt" then do
    let value ← json.field? "value"
    let value ← Expr.ofJson? value
    return .print span value
  else none

/-- The program that a dump shows. Its body is read statement by statement. -/
def Program.ofJson? (json : Json) : Option Program := do
  let kind ← json.text? "kind"
  let span ← json.span?
  if kind = Text.ofString "File" then do
    let body ← json.items? "body"
    let body ← body.val.mapM Stmt.ofJson?
    return ⟨span, body⟩
  else none

/-! ### Trees -/

mutual

/-- Whether an expression has nodes of known types only. -/
def Expr.isKnown : Expr → Bool
  | .name _ => true
  | .numeral _ _ _ => true
  | .unary _ _ operand => operand.isKnown
  | .binary _ _ left right => left.isKnown && right.isKnown
  | .call _ _ args _ => Expr.allKnown args
  | .foreign _ _ => false

/-- Whether expressions have nodes of known types only. Operators may be of any kind. -/
def Expr.allKnown : List Expr → Bool
  | [] => true
  | first :: rest => first.isKnown && Expr.allKnown rest

end

mutual

/-- An expression without the spans of arguments. These are the only spans that a dump does not
hold. -/
def Expr.withoutArgsSpans : Expr → Expr
  | .name occurrence => .name occurrence
  | .numeral span raw value => .numeral span raw value
  | .unary span op operand => .unary span op operand.withoutArgsSpans
  | .binary span op left right => .binary span op left.withoutArgsSpans right.withoutArgsSpans
  | .call span callee args _ => .call span callee (Expr.allWithoutArgsSpans args) .nowhere
  | .foreign span typeName => .foreign span typeName

/-- Expressions without the spans of arguments. Each of them is taken by itself. -/
def Expr.allWithoutArgsSpans : List Expr → List Expr
  | [] => []
  | first :: rest => first.withoutArgsSpans :: Expr.allWithoutArgsSpans rest

end

/-- Whether a statement has nodes of known types only. -/
def Stmt.isKnown : Stmt → Bool
  | .assign _ _ value => value.isKnown
  | .call _ called => called.toExpr.isKnown
  | .print _ value => value.isKnown
  | .foreign _ _ => false

/-- A statement without the spans of arguments. Its own span stays. -/
def Stmt.withoutArgsSpans : Stmt → Stmt
  | .assign span target value => .assign span target value.withoutArgsSpans
  | .call span called =>
    .call span ⟨called.span, called.callee, Expr.allWithoutArgsSpans called.args, .nowhere⟩
  | .print span value => .print span value.withoutArgsSpans
  | .foreign span typeName => .foreign span typeName

/-- A node of a tree, at any level. Dumps are made of programs, statements and expressions. -/
inductive Node where
  | program (program : Program)
  | stmt (stmt : Stmt)
  | expr (expr : Expr)

namespace Node

/-- The dump of a node. Trees of all three sorts are dumped by one function. -/
def toJson : Node → Json
  | .program tree => tree.toJson
  | .stmt tree => tree.toJson
  | .expr tree => tree.toJson

/-- Whether everything from a node on is of known types. -/
def isKnown : Node → Bool
  | .program tree => tree.body.all Stmt.isKnown
  | .stmt tree => tree.isKnown
  | .expr tree => tree.isKnown

/-- A node without the spans of arguments. It is all that a dump tells of the node. -/
def withoutArgsSpans : Node → Node
  | .program tree => .program ⟨tree.span, tree.body.map Stmt.withoutArgsSpans⟩
  | .stmt tree => .stmt tree.withoutArgsSpans
  | .expr tree => .expr tree.withoutArgsSpans

/-- The node that a dump shows. Its kind is that of one level only. -/
def ofJson? (json : Json) : Option Node :=
  match Program.ofJson? json, Stmt.ofJson? json, Expr.ofJson? json with
  | some tree, _, _ => some (.program tree)
  | none, some tree, _ => some (.stmt tree)
  | none, none, some tree => some (.expr tree)
  | none, none, none => none

end Node

/-! ### Dumps are read again -/

/-- A span is read from its dump, with offsets, lines and columns of any size and sign. -/
theorem Span.ofJson?_toJson (span : Span) : Span.ofJson? span.toJson = some span := rfl

namespace Json.Shows

variable {json : Json} {kind : String} {span : Span} {parts : List (String × Json)}
  (dump : json.Shows kind span parts)

include dump

/-- Each part is found at its key. No two parts share one, and none has the key of the kind or of
the span. -/
theorem field {key : String} {value : Json} (member : (key, value) ∈ parts) :
    json.field? key = some value := by
  rw [dump.made]
  exact field?_node dump.distinct (.tail _ (.tail _ member))

/-- The kind of a node is found in its dump. -/
theorem kind_eq : json.text? "kind" = some (Text.ofString kind) := by
  rw [text?, dump.made, field?_node dump.distinct (.head _)]

/-- The span of a node is found in its dump and can be read from it. -/
theorem span_eq : json.span? = some span := by
  rw [span?, dump.made, field?_node dump.distinct (.tail _ (.head _))]
  exact span.ofJson?_toJson

/-- A part that is a text is found at its key as a text. -/
theorem text {key : String} {text : Text} (member : (key, .string text) ∈ parts) :
    json.text? key = some text := by
  rw [text?, dump.field member]

/-- A part that is a number is found at its key with the same bits. -/
theorem number {key : String} {value : Float} (member : (key, .number value) ∈ parts) :
    json.number? key = some value := by
  rw [number?, dump.field member]

/-- A part that names the kind of an operator is found at its key and read as that kind, also when
the kind means nothing. -/
theorem operator {op : Token.Kind} (member : ("op", .string op.text) ∈ parts) :
    json.operator? = some op := by
  rw [operator?, dump.text member]
  exact op.ofText?_text

/-- A part is found at its key as a smaller value, from which reading goes on. -/
theorem part {key : String} {value : Json} (member : (key, value) ∈ parts) :
    ∃ smaller, json.part? key = some ⟨value, smaller⟩ :=
  ⟨_, part?_of_field? (dump.field member)⟩

/-- The items of a part that is an array are found at its key as smaller values, from which
reading goes on. -/
theorem items {key : String} {items : List Json} (member : (key, .array items) ∈ parts) :
    ∃ smaller, json.items? key = some ⟨items, smaller⟩ :=
  ⟨_, items?_of_field? (dump.field member)⟩

end Json.Shows

/-- An occurrence of a name is read from its dump, with its span and its text. -/
theorem Name.ofJson?_toJson (name : Name) : Name.ofJson? name.toJson = some name := by
  have dump := name.shows
  rw [Name.ofJson?, dump.span_eq, dump.text (.head _)]
  rfl

mutual

/-- An expression of known types is read from its dump, but for the spans of arguments.

Proof: induction on expressions and lists of them together. Each node shows its kind and its
parts, and reading looks those up at the same keys. -/
theorem Expr.ofJson?_toJson (expr : Expr) (known : expr.isKnown = true) :
    Expr.ofJson? expr.toJson = some expr.withoutArgsSpans := by
  cases expr with
  | name occurrence =>
    have dump := occurrence.shows
    have whole : (Expr.name occurrence).toJson = occurrence.toJson := by rw [Expr.toJson]
    rw [whole, Expr.ofJson?, dump.kind_eq, dump.span_eq, occurrence.ofJson?_toJson]
    rfl
  | numeral span raw value =>
    have dump := Expr.shows_numeral span raw value
    rw [Expr.ofJson?, dump.kind_eq, dump.span_eq, dump.text (.head _),
      dump.number (.tail _ (.head _))]
    rfl
  | unary span op operand =>
    have dump := Expr.shows_unary span op operand
    obtain ⟨smaller, part⟩ := dump.part (.tail _ (.head _))
    have read := operand.ofJson?_toJson known
    rw [Expr.ofJson?, dump.kind_eq, dump.span_eq, dump.operator (.head _), part]
    simp only [Option.bind_eq_bind, Option.bind_some, read]
    rfl
  | binary span op left right =>
    have dump := Expr.shows_binary span op left right
    obtain ⟨smaller, leftPart⟩ := dump.part (.tail _ (.head _))
    obtain ⟨smaller', rightPart⟩ := dump.part (.tail _ (.tail _ (.head _)))
    obtain ⟨leftKnown, rightKnown⟩ := Bool.and_eq_true_iff.mp known
    have readLeft := left.ofJson?_toJson leftKnown
    have readRight := right.ofJson?_toJson rightKnown
    rw [Expr.ofJson?, dump.kind_eq, dump.span_eq, dump.operator (.head _), leftPart, rightPart]
    simp only [Option.bind_eq_bind, Option.bind_some, readLeft, readRight]
    rfl
  | call span callee args argsSpan =>
    have dump := Expr.shows_call span callee args argsSpan
    obtain ⟨smaller, items⟩ := dump.items (.tail _ (.head _))
    have read := Expr.ofJsonAll?_toJsonAll args known
    rw [Expr.ofJson?, dump.kind_eq, dump.span_eq, dump.field (.head _), items]
    simp only [Option.bind_eq_bind, Option.bind_some, callee.ofJson?_toJson, read]
    rfl
  | foreign span typeName => cases known

/-- Expressions of known types are read from their dumps one after another, but for the spans of
arguments. -/
theorem Expr.ofJsonAll?_toJsonAll (args : List Expr) (known : Expr.allKnown args = true) :
    Expr.ofJsonAll? (Expr.toJsonAll args) = some (Expr.allWithoutArgsSpans args) := by
  cases args with
  | nil =>
    rw [Expr.toJsonAll, Expr.ofJsonAll?]
    rfl
  | cons first rest =>
    obtain ⟨firstKnown, restKnown⟩ := Bool.and_eq_true_iff.mp known
    rw [Expr.toJsonAll, Expr.ofJsonAll?, first.ofJson?_toJson firstKnown,
      Expr.ofJsonAll?_toJsonAll rest restKnown]
    rfl

end

/-- A statement of known types is read from its dump, but for the spans of arguments in it. Only
calls lose something, the stretch of their arguments, because the dump does not hold it. -/
theorem Stmt.ofJson?_toJson (stmt : Stmt) (known : stmt.isKnown = true) :
    Stmt.ofJson? stmt.toJson = some stmt.withoutArgsSpans := by
  cases stmt with
  | assign span target value =>
    have dump := Stmt.shows_assign span target value
    rw [Stmt.ofJson?, dump.kind_eq, dump.span_eq, dump.field (.head _),
      dump.field (.tail _ (.head _))]
    simp only [Option.bind_eq_bind, Option.bind_some, target.ofJson?_toJson,
      value.ofJson?_toJson known]
    rfl
  | call span called =>
    have dump := Stmt.shows_call span called
    rw [Stmt.ofJson?, dump.kind_eq, dump.span_eq, dump.field (.head _)]
    simp only [Option.bind_eq_bind, Option.bind_some, called.toExpr.ofJson?_toJson known]
    rfl
  | print span value =>
    have dump := Stmt.shows_print span value
    rw [Stmt.ofJson?, dump.kind_eq, dump.span_eq, dump.field (.head _)]
    simp only [Option.bind_eq_bind, Option.bind_some, value.ofJson?_toJson known]
    rfl
  | foreign span typeName => cases known

/-- Statements of known types are read from their dumps one after another, and none of them is
refused. -/
theorem mapM_ofJson?_toJson (body : List Stmt) (known : body.all Stmt.isKnown = true) :
    (body.map Stmt.toJson).mapM Stmt.ofJson? = some (body.map Stmt.withoutArgsSpans) := by
  induction body with
  | nil => rfl
  | cons stmt rest behind =>
    obtain ⟨here, later⟩ := Bool.and_eq_true_iff.mp known
    rw [List.map_cons, List.mapM_cons, stmt.ofJson?_toJson here, behind later]
    rfl

/-- A program of known types is read from its dump, but for the spans of arguments in it. -/
theorem Program.ofJson?_toJson (program : Program)
    (known : program.body.all Stmt.isKnown = true) :
    Program.ofJson? program.toJson =
      some ⟨program.span, program.body.map Stmt.withoutArgsSpans⟩ := by
  have dump := program.shows
  obtain ⟨smaller, items⟩ := dump.items (.head _)
  rw [Program.ofJson?, dump.kind_eq, dump.span_eq, items]
  simp only [Option.bind_eq_bind, Option.bind_some, mapM_ofJson?_toJson program.body known]
  rfl

/-- The kinds of the nodes of expressions. Statements and programs have others. -/
def Expr.kindNames : List String :=
  ["IdentExpr", "NumberLiteral", "UnaryExpr", "BinaryExpr", "CallExpr"]

/-- The kinds of the nodes of statements. They are told apart from those of expressions. -/
def Stmt.kindNames : List String := ["AssignStmt", "CallStmt", "PrintStmt"]

/-- An expression of known types is dumped as a node, of one of the kinds that expressions have. A
name is dumped as a node of its own, and so is every other form of expression, with its span and
its parts. -/
theorem Expr.exists_shows (expr : Expr) (known : expr.isKnown = true) :
    ∃ kind ∈ kindNames, ∃ parts, expr.toJson.Shows kind expr.span parts := by
  cases expr with
  | name occurrence =>
    refine ⟨_, .head _, [("name", .string occurrence.text)], ?_⟩
    rw [Expr.toJson]
    exact occurrence.shows
  | numeral span raw value => exact ⟨_, .tail _ (.head _), _, Expr.shows_numeral span raw value⟩
  | unary span op operand =>
    exact ⟨_, .tail _ (.tail _ (.head _)), _, Expr.shows_unary span op operand⟩
  | binary span op left right =>
    exact ⟨_, .tail _ (.tail _ (.tail _ (.head _))), _, Expr.shows_binary span op left right⟩
  | call span callee args argsSpan =>
    exact ⟨_, .tail _ (.tail _ (.tail _ (.tail _ (.head _)))), _,
      Expr.shows_call span callee args argsSpan⟩
  | foreign span typeName => cases known

/-- A statement of known types is dumped as a node, of one of the kinds that statements have. -/
theorem Stmt.exists_shows (stmt : Stmt) (known : stmt.isKnown = true) :
    ∃ kind ∈ kindNames, ∃ parts, stmt.toJson.Shows kind stmt.span parts := by
  cases stmt with
  | assign span target value => exact ⟨_, .head _, _, Stmt.shows_assign span target value⟩
  | call span called => exact ⟨_, .tail _ (.head _), _, Stmt.shows_call span called⟩
  | print span value => exact ⟨_, .tail _ (.tail _ (.head _)), _, Stmt.shows_print span value⟩
  | foreign span typeName => cases known

section Levels

variable {json : Json} {kind : String} {span : Span} {parts : List (String × Json)}
  (dump : json.Shows kind span parts)

include dump

/-- The dump of an expression is that of no statement, because the kinds of nodes are different. -/
theorem Stmt.ofJson?_of_expr (among : kind ∈ Expr.kindNames) : Stmt.ofJson? json = none := by
  have others : ∀ kind ∈ Expr.kindNames, ∀ other ∈ kindNames,
      Text.ofString kind ≠ Text.ofString other := by
    decide +kernel
  have noAssign := others kind among "AssignStmt" (by decide)
  have noCall := others kind among "CallStmt" (by decide)
  have noPrint := others kind among "PrintStmt" (by decide)
  rw [Stmt.ofJson?, dump.kind_eq, dump.span_eq]
  simp only [Option.bind_eq_bind, Option.bind_some, if_neg noAssign, if_neg noCall, if_neg noPrint]

/-- The dump of a statement or an expression is that of no program, because only a program is
dumped as a file. -/
theorem Program.ofJson?_of_part (among : kind ∈ Stmt.kindNames ++ Expr.kindNames) :
    Program.ofJson? json = none := by
  have others : ∀ kind ∈ Stmt.kindNames ++ Expr.kindNames,
      Text.ofString kind ≠ Text.ofString "File" := by
    decide +kernel
  rw [Program.ofJson?, dump.kind_eq, dump.span_eq]
  simp only [Option.bind_eq_bind, Option.bind_some, if_neg (others kind among)]

end Levels

namespace Node

/-- A tree of known types is read from its dump, but for the spans of arguments. At which level
the tree starts is read off the kind of its first node. -/
theorem ofJson?_toJson (node : Node) (known : node.isKnown = true) :
    ofJson? node.toJson = some node.withoutArgsSpans := by
  cases node with
  | program tree =>
    rw [ofJson?, toJson, tree.ofJson?_toJson known]
    rfl
  | stmt tree =>
    obtain ⟨kind, among, parts, dump⟩ := tree.exists_shows known
    have noProgram := Program.ofJson?_of_part dump (List.mem_append_left _ among)
    rw [ofJson?, toJson, noProgram, tree.ofJson?_toJson known]
    rfl
  | expr tree =>
    obtain ⟨kind, among, parts, dump⟩ := tree.exists_shows known
    have noProgram := Program.ofJson?_of_part dump (List.mem_append_right _ among)
    rw [ofJson?, toJson, noProgram, Stmt.ofJson?_of_expr dump among, tree.ofJson?_toJson known]
    rfl

end Node

/-! ### What dumps leave out -/

mutual

/-- The dump of an expression does not change when the spans of arguments are left out. So dumps
cannot tell what the decoder does not give back. -/
theorem Expr.toJson_withoutArgsSpans (expr : Expr) :
    expr.withoutArgsSpans.toJson = expr.toJson := by
  cases expr with
  | name occurrence => rfl
  | numeral span raw value => rfl
  | unary span op operand =>
    rw [withoutArgsSpans, Expr.toJson, Expr.toJson, operand.toJson_withoutArgsSpans]
  | binary span op left right =>
    rw [withoutArgsSpans, Expr.toJson, Expr.toJson, left.toJson_withoutArgsSpans,
      right.toJson_withoutArgsSpans]
  | call span callee args argsSpan =>
    rw [withoutArgsSpans, Expr.toJson, Expr.toJson, Expr.toJsonAll_withoutArgsSpans args]
  | foreign span typeName => rfl

/-- The dumps of expressions do not change when the spans of arguments are left out. -/
theorem Expr.toJsonAll_withoutArgsSpans (args : List Expr) :
    Expr.toJsonAll (Expr.allWithoutArgsSpans args) = Expr.toJsonAll args := by
  cases args with
  | nil => rfl
  | cons first rest =>
    rw [Expr.allWithoutArgsSpans, Expr.toJsonAll, Expr.toJsonAll, first.toJson_withoutArgsSpans,
      Expr.toJsonAll_withoutArgsSpans rest]

end

/-- The dump of a statement does not change when the spans of arguments are left out. -/
theorem Stmt.toJson_withoutArgsSpans (stmt : Stmt) :
    stmt.withoutArgsSpans.toJson = stmt.toJson := by
  cases stmt with
  | assign span target value =>
    rw [withoutArgsSpans, Stmt.toJson, Stmt.toJson, value.toJson_withoutArgsSpans]
  | call span called =>
    have same := called.toExpr.toJson_withoutArgsSpans
    exact congrArg
      (fun call => Json.object [("call", call), ("kind", _), ("span", span.toJson)]) same
  | print span value =>
    rw [withoutArgsSpans, Stmt.toJson, Stmt.toJson, value.toJson_withoutArgsSpans]
  | foreign span typeName => rfl

namespace Node

/-- The spans of arguments are not in a dump, at whatever level the tree starts. -/
theorem toJson_withoutArgsSpans (node : Node) : node.withoutArgsSpans.toJson = node.toJson := by
  cases node with
  | program tree =>
    have same : (tree.body.map Stmt.withoutArgsSpans).map Stmt.toJson =
        tree.body.map Stmt.toJson := by
      rw [List.map_map]
      exact List.map_congr_left fun stmt _ => stmt.toJson_withoutArgsSpans
    rw [withoutArgsSpans, toJson, toJson, Program.toJson, Program.toJson, same]
  | stmt tree => exact tree.toJson_withoutArgsSpans
  | expr tree => exact tree.toJson_withoutArgsSpans

/-- Dumps lose the spans of arguments and nothing else. A tree of nodes of known types is
rebuilt from its dump by looking up keys, whatever its spans, names, numbers and kinds of
operators are, and two of them have the same dump just when they differ in the spans of
arguments alone. -/
theorem dump_lossless :
    (∀ node : Node, node.isKnown = true →
      ofJson? node.toJson = some node.withoutArgsSpans) ∧
    ∀ first second : Node, first.isKnown = true → second.isKnown = true →
      (first.toJson = second.toJson ↔ first.withoutArgsSpans = second.withoutArgsSpans) := by
  constructor
  · intro node known
    exact node.ofJson?_toJson known
  · intro first second firstKnown secondKnown
    constructor
    · intro same
      have read := first.ofJson?_toJson firstKnown
      rw [same, second.ofJson?_toJson secondKnown] at read
      exact (Option.some.inj read).symm
    · intro same
      rw [← first.toJson_withoutArgsSpans, same, second.toJson_withoutArgsSpans]

/-- A tree with an operator that means nothing, a number that is none and arguments that
are said to stand somewhere else. -/
theorem dump_lossless_unknown_operator :
    ∃ first second : Node,
      first = .expr (.call .nowhere ⟨.nowhere, Text.ofString "f"⟩
        [.unary .nowhere (.ofCode 99) (.numeral .nowhere [] (0 / 0))] .nowhere) ∧
      second = .expr (.call .nowhere ⟨.nowhere, Text.ofString "f"⟩
        [.unary .nowhere (.ofCode 99) (.numeral .nowhere [] (0 / 0))] ⟨.start, .start⟩) ∧
      first.isKnown = true ∧ second.isKnown = true ∧
      ofJson? first.toJson = some first.withoutArgsSpans ∧ first.toJson = second.toJson := by
  refine ⟨_, _, rfl, rfl, rfl, rfl, ?_, ?_⟩
  · exact dump_lossless.1 _ rfl
  · exact (dump_lossless.2 _ _ rfl rfl).mpr rfl

end Node

end Astro
