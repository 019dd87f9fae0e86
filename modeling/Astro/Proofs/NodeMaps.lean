import Astro.Proofs.NumeralReading
import Astro.Syntax.Outline

/-!
# Nodes as maps

The dump of a tree is a map for every node: its kind, its span and its parts, set one after
another (`Json.node`). No two of them have the same key, so that each can be looked up again,
and kinds of operators are told apart by their texts, those of no known kind included. The
fields of an object stand in the order of their keys, so equal maps are equal objects.
-/

namespace Astro

/-! ### Kinds of operators -/

namespace Text

/-- The characters that spell a whole number. A negative one has its sign before the digits. -/
def intChars : Int → List Char
  | .ofNat n => Nat.toDigits 10 n
  | .negSucc n => '-' :: Nat.toDigits 10 (n + 1)

/-- A whole number is spelled by its characters: its digits, behind a minus if it is negative. -/
theorem ofInt_eq (number : Int) : ofInt number = ofChars (intChars number) := by
  cases number with
  | ofNat n => rfl
  | negSucc n => rfl

/-- The whole number that characters spell. It is the inverse of spelling one. -/
def readInt (chars : List Char) : Int :=
  let (negative, digits) := Number.readSign chars
  if negative then -(Number.ofDigits 10 digits : Int) else Number.ofDigits 10 digits

/-- A number is spelled so that it can be read. The sign is told from the digits by the first
character, and a spelling has no superfluous zeros. -/
theorem readInt_intChars (number : Int) : readInt (intChars number) = number := by
  cases number with
  | ofNat n =>
    obtain ⟨first, rest, split⟩ := List.exists_cons_of_ne_nil
      (List.ne_nil_of_length_pos (Nat.length_toDigits_pos (b := 10) (n := n)))
    have digit : first.isDigit = true := by
      apply Nat.isDigit_of_mem_toDigits (b := 10) (n := n) (by decide) (by decide)
      rw [split]
      exact List.mem_cons_self
    have value := Number.ofDigits_toDigits n
    rw [split] at value
    rw [intChars, split, readInt, Number.readSign_of_digit digit]
    exact congrArg Int.ofNat value
  | negSucc n =>
    have value := Number.ofDigits_toDigits (n + 1)
    exact congrArg (fun size : Nat => -(size : Int)) value

end Text

namespace Token.Kind

/-- The beginning of the text of a kind that means nothing. -/
def mark : List Char := "Kind(".toList

/-- The kind that a text names. Kinds with a name are looked up, and any other one is spelled with
its code number. -/
def ofText? (text : Text) : Option Kind :=
  match known.find? fun kind => kind.text = text with
  | some kind => some kind
  | none =>
    if text.chars.take mark.length = mark then
      some (ofCode (Text.readInt (text.chars.drop mark.length).dropLast))
    else none

/-- No known kind is named like one that means nothing. The names of the latter start with a mark
of their own. -/
theorem known_unmarked : ∀ kind ∈ known, kind.text.take mark.length ≠ Text.ofChars mark := by
  decide +kernel

/-- A kind that means nothing is named by the mark, its number and a parenthesis. -/
theorem text_other (code : Int) (unknown : ¬ (0 ≤ code ∧ code ≤ 15)) :
    (other code unknown).text = Text.ofChars (mark ++ (Text.intChars code ++ [')'])) := by
  rw [text, Text.ofInt_eq]
  simp only [Text.ofString, Text.ofChars, mark, List.flatMap_append, List.append_assoc]
  rfl

/-- Every kind is named so that its name can be read, whether it is known or not. A name with the
mark stands for the number in it, and any other name is looked up among the known ones. -/
theorem ofText?_text (kind : Kind) : ofText? kind.text = some kind := by
  cases kind with
  | other code unknown =>
    have unnamed : known.find? (fun kind => kind.text = (other code unknown).text) = none := by
      rw [List.find?_eq_none]
      intro kind member same
      apply known_unmarked kind member
      rw [of_decide_eq_true same, text_other, Text.ofChars, List.flatMap_append]
      exact List.take_left' rfl
    have code_eq : ofCode code = other code unknown := ofCode_code (other code unknown)
    unfold ofText?
    rw [unnamed, text_other, Text.chars_ofChars]
    simp only
    rw [List.take_left' rfl, if_pos rfl, List.drop_left' rfl, List.dropLast_concat,
      Text.readInt_intChars, code_eq]
  | _ => decide +kernel

end Token.Kind

/-! ### Maps -/

namespace Json

/-- What an object holds at a key. Of two fields with one key the first one counts. -/
def field? (key : String) : Json → Option Json
  | .object fields => fields.lookup key
  | _ => none

/-- The fields of an object, in the order of their keys, with one of them set to a value,
whatever it was before. -/
def setField (key : String) (value : Json) : List (String × Json) → List (String × Json)
  | [] => [(key, value)]
  | (other, held) :: rest =>
    if key.toList < other.toList then (key, value) :: (other, held) :: rest
    else if key = other then (key, value) :: rest
    else (other, held) :: setField key value rest

/-- The object of a node: its kind, its span, and then its parts, each set over what was
there before. -/
def node (kind : String) (span : Span) (parts : List (String × Json)) : Json :=
  .object (parts.foldl (fun fields part => setField part.1 part.2 fields)
    (setField "span" span.toJson (setField "kind" (.string (Text.ofString kind)) [])))

/-- After a field is set, its key is found with the new value, and every other key with what it
had. This is the one fact about objects that the dumps of nodes rest on. -/
theorem lookup_setField (key other : String) (value : Json) (fields : List (String × Json)) :
    (setField key value fields).lookup other =
      if other = key then some value else fields.lookup other := by
  induction fields with
  | nil =>
    by_cases same : other = key
    · rw [if_pos same, same]
      exact List.lookup_cons_self
    · rw [if_neg same, setField, List.lookup_cons, beq_false_of_ne same]
  | cons field rest behind =>
    obtain ⟨first, held⟩ := field
    by_cases same : other = key
    · subst same
      rw [if_pos rfl] at behind ⊢
      unfold setField
      split
      · exact List.lookup_cons_self
      split
      · exact List.lookup_cons_self
      · next different =>
        rw [List.lookup_cons, beq_false_of_ne different]
        exact behind
    · rw [if_neg same] at behind ⊢
      unfold setField
      split
      · rw [List.lookup_cons, beq_false_of_ne same]
      split
      · next replaced =>
        subst replaced
        rw [List.lookup_cons, List.lookup_cons, beq_false_of_ne same]
      · rw [List.lookup_cons, List.lookup_cons, behind]

/-- Fields that are set one after another leave all others alone. -/
theorem lookup_foldl_of_not_mem (parts : List (String × Json)) (fields : List (String × Json))
    {key : String} (fresh : key ∉ parts.map Prod.fst) :
    (parts.foldl (fun fields part => setField part.1 part.2 fields) fields).lookup key =
      fields.lookup key := by
  induction parts generalizing fields with
  | nil => rfl
  | cons part rest behind =>
    rw [List.map_cons, List.mem_cons, not_or] at fresh
    rw [List.foldl_cons, behind _ fresh.2, lookup_setField, if_neg fresh.1]

/-- Each of several fields with different keys can be looked up once all are set. None of the
later ones is set over it. -/
theorem lookup_foldl_of_mem {parts : List (String × Json)} (fields : List (String × Json))
    (distinct : (parts.map Prod.fst).Nodup) {key : String} {value : Json}
    (member : (key, value) ∈ parts) :
    (parts.foldl (fun fields part => setField part.1 part.2 fields) fields).lookup key =
      some value := by
  induction parts generalizing fields with
  | nil => cases member
  | cons part rest behind =>
    obtain ⟨fresh, others⟩ := List.nodup_cons.mp distinct
    rw [List.foldl_cons]
    rcases List.mem_cons.mp member with rfl | later
    · rw [lookup_foldl_of_not_mem rest _ fresh, lookup_setField, if_pos rfl]
    · exact behind _ others later

/-- What is set in the object of a node is found there: no part stands in the place of
another, of the kind or of the span. -/
theorem field?_node {kind : String} {span : Span} {parts : List (String × Json)}
    (distinct : ("kind" :: "span" :: parts.map Prod.fst).Nodup) {key : String} {value : Json}
    (member : (key, value) ∈
      ("kind", .string (Text.ofString kind)) :: ("span", span.toJson) :: parts) :
    (node kind span parts).field? key = some value := by
  have keys : ((("kind", .string (Text.ofString kind)) :: ("span", span.toJson) :: parts :
      List (String × Json)).map Prod.fst).Nodup := distinct
  exact lookup_foldl_of_mem [] keys member

end Json

/-! ### The maps of a dump -/

/-- A value is the object of a node with some parts, and no part has the key of another,
of the kind or of the span. -/
structure Json.Shows (json : Json) (kind : String) (span : Span) (parts : List (String × Json)) :
    Prop where
  made : json = node kind span parts
  distinct : ("kind" :: "span" :: parts.map Prod.fst).Nodup

section Shapes

variable (span : Span)

/-- An occurrence of a name is dumped with its text. -/
theorem Name.shows (name : Name) :
    name.toJson.Shows "IdentExpr" name.span [("name", .string name.text)] := by
  refine ⟨?_, by simp⟩
  simp only [Name.toJson, Json.node, List.foldl]
  rfl

/-- A numeral is dumped with its spelling and its value. -/
theorem Expr.shows_numeral (raw : Text) (value : Float) :
    (Expr.numeral span raw value).toJson.Shows "NumberLiteral" span
      [("raw", .string raw), ("value", .number value)] := by
  refine ⟨?_, by simp⟩
  simp only [Expr.toJson, Json.node, List.foldl]
  rfl

/-- A sign is dumped with the name of its kind, whatever kind that is, and with its operand. -/
theorem Expr.shows_unary (op : Token.Kind) (operand : Expr) :
    (Expr.unary span op operand).toJson.Shows "UnaryExpr" span
      [("op", .string op.text), ("operand", operand.toJson)] := by
  refine ⟨?_, by simp⟩
  simp only [Expr.toJson, Json.node, List.foldl]
  rfl

/-- An operation is dumped with the name of its operator and with both operands. -/
theorem Expr.shows_binary (op : Token.Kind) (left right : Expr) :
    (Expr.binary span op left right).toJson.Shows "BinaryExpr" span
      [("op", .string op.text), ("left", left.toJson), ("right", right.toJson)] := by
  refine ⟨?_, by simp⟩
  simp only [Expr.toJson, Json.node, List.foldl]
  rfl

/-- A call is dumped with its callee and its arguments. The span of the arguments is the only
thing about it that is left out. -/
theorem Expr.shows_call (callee : Name) (args : List Expr) (argsSpan : Span) :
    (Expr.call span callee args argsSpan).toJson.Shows "CallExpr" span
      [("callee", callee.toJson), ("args", .array (Expr.toJsonAll args))] := by
  refine ⟨?_, by simp⟩
  simp only [Expr.toJson, Json.node, List.foldl]
  rfl

/-- An assignment is dumped with its target and its value. -/
theorem Stmt.shows_assign (target : Name) (value : Expr) :
    (Stmt.assign span target value).toJson.Shows "AssignStmt" span
      [("target", target.toJson), ("value", value.toJson)] := by
  refine ⟨?_, by simp⟩
  simp only [Stmt.toJson, Json.node, List.foldl]
  rfl

/-- A call that is a statement is dumped with the call as an expression. -/
theorem Stmt.shows_call (called : Call) :
    (Stmt.call span called).toJson.Shows "CallStmt" span
      [("call", called.toExpr.toJson)] := by
  refine ⟨?_, by simp⟩
  simp only [Stmt.toJson, Json.node, List.foldl]
  rfl

/-- A print statement is dumped with the expression that it prints. -/
theorem Stmt.shows_print (value : Expr) :
    (Stmt.print span value).toJson.Shows "PrintStmt" span [("value", value.toJson)] := by
  refine ⟨?_, by simp⟩
  simp only [Stmt.toJson, Json.node, List.foldl]
  rfl

/-- A program is dumped as a file with its statements. -/
theorem Program.shows (program : Program) :
    program.toJson.Shows "File" program.span
      [("body", .array (program.body.map Stmt.toJson))] := by
  refine ⟨?_, by simp⟩
  simp only [Program.toJson, Json.node, List.foldl]
  rfl

end Shapes

end Astro
