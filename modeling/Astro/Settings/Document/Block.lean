import Astro.Settings.Document.Inline

/-!
# Nodes by indentation

A file is read line by line, without the lines that say nothing. The lines of a
mapping or a sequence have the same indentation, and the lines of a value are
indented further than its key. Reading ends because every part of a block is
written with less than the block (`weight`). Only the first document of a file
counts.
-/

namespace Astro.Document

/-- A line of a document that says something: its number, its indentation and what
stands behind that. -/
structure Line where
  number : Nat
  indent : Nat
  content : List Char
deriving DecidableEq, Repr

/-- The text of a plain scalar on one of its lines. A comment ends the scalar, so only
its last line may have one. -/
def readPlainLine (number : Nat) (chars : List Char) (isLast : Bool) :
    Except Malformed (List Char) :=
  let (text, left) := readPlain true chars
  if left.head? = some ':' then .error (.unexpectedMapping number)
  else if left ≠ [] ∧ !isLast then .error (.missingColon number)
  else .ok (trimGap text)

/-- The text of a plain scalar that goes on behind its line `last`. The end of a line
is a space in the text, and empty lines are newlines. -/
def foldPlain (last : Nat) (text : List Char) : List Line → Except Malformed (List Char)
  | [] => .ok text
  | next :: rest => do
    let more ← readPlainLine next.number next.content rest.isEmpty
    let between :=
      if next.number = last + 1 then [' '] else List.replicate (next.number - last - 1) '\n'
    foldPlain next.number (text ++ between ++ more) rest

/-- A node in brackets or quotes, to the end of its line. -/
def readEnclosed (line : Nat) (chars : List Char) : Except Malformed Document := do
  let (node, left) ← readFlow (2 * chars.length) line chars
  if isEnd left then .ok node
  else if left.head? = some ':' then .error (.unexpectedMapping line)
  else .error (.trailingText line)

/-- Whether a character opens a node in brackets or quotes. -/
def opensNode (c : Char) : Bool := c == '\x7b' || c == '[' || c == '"' || c == '\''

/-- The node that starts on a line, with the further lines that belong to it. Only
plain scalars go on over several lines. -/
def readInline (line : Nat) (chars : List Char) (more : List Line) :
    Except Malformed Document := do
  let opened := skipGap chars
  if opened.head?.any opensNode then
    let node ← readEnclosed line opened
    match more with
    | [] => .ok node
    | next :: _ => .error (.trailingText next.number)
  else
    let text ← readPlainLine line opened more.isEmpty
    let folded ← foldPlain line text more
    .ok (.scalar ⟨line, Text.ofChars folded, false⟩)

/-- The key at the start of a line, and what follows its colon. -/
def readKey? (line : Nat) (chars : List Char) : Option (Scalar × List Char) :=
  let afterKey (quoted : Bool) (key left : List Char) : Option (Scalar × List Char) :=
    match left with
    | ':' :: rest => if endsKey rest then some (⟨line, Text.ofChars key, quoted⟩, rest) else none
    | _ => none
  match chars with
  | '"' :: rest => (readDoubleQuoted rest).bind fun (key, left) => afterKey true key (skipGap left)
  | '\'' :: rest => (readSingleQuoted rest).bind fun (key, left) => afterKey true key (skipGap left)
  | '\x7b' :: _ => none
  | '[' :: _ => none
  | _ =>
    let (key, left) := readPlain true chars
    afterKey false (trimGap key) left

namespace Line

/-- Whether a line starts an item of a sequence. Such a line has a dash before a gap or alone. -/
def isItem (line : Line) : Bool :=
  match line.content with
  | '-' :: rest => endsKey rest
  | _ => false

/-- Whether a line is a mark between documents. A mark is three characters at the start of a line,
with a gap or nothing behind them. -/
def isMark (mark : String) (line : Line) : Bool :=
  line.indent == 0 && mark.toList.isPrefixOf line.content && endsKey (line.content.drop 3)

/-- Whether a line belongs to the value of a key that is indented by `indent`. The
items of a sequence need not be indented further than its key. -/
def isInside (indent : Nat) (line : Line) : Bool :=
  indent < line.indent || (line.indent == indent && line.isItem)

/-- What stands behind the mark of an item, as a line of its own if it says something. -/
def behindMark (line : Line) : List Line :=
  match line.content with
  | [] => []
  | _ :: rest =>
    let left := skipGap rest
    if isEnd left then []
    else [⟨line.number, line.indent + (line.content.length - left.length), left⟩]

end Line

/-- How much is written on lines. Every reader of a block leaves less of it behind, which is why
reading ends. -/
def weight : List Line → Nat
  | [] => 0
  | first :: rest => first.content.length + 1 + weight rest

/-- Lines that are left out weigh nothing. -/
theorem weight_le_of_sublist {kept all : List Line} (part : kept.Sublist all) :
    weight kept ≤ weight all := by
  induction part with
  | slnil => exact Nat.le_refl _
  | cons _ _ inductionHypothesis => simp only [weight]; omega
  | cons_cons _ _ inductionHypothesis => simp only [weight]; omega

/-- The lines before a point weigh no more than all of them. -/
theorem weight_takeWhile_le (keep : Line → Bool) (lines : List Line) :
    weight (lines.takeWhile keep) ≤ weight lines :=
  weight_le_of_sublist (List.takeWhile_sublist keep)

/-- The lines behind a point weigh no more than all of them. -/
theorem weight_dropWhile_le (leave : Line → Bool) (lines : List Line) :
    weight (lines.dropWhile leave) ≤ weight lines :=
  weight_le_of_sublist (List.dropWhile_sublist leave)

/-- Weights add up. Lines that are left behind therefore weigh less. -/
theorem weight_append (before after : List Line) :
    weight (before ++ after) = weight before + weight after := by
  induction before with
  | nil => simp [weight]
  | cons first rest inductionHypothesis =>
    simp only [List.cons_append, weight, inductionHypothesis]; omega

/-- The mark of an item is taken off its line. -/
theorem weight_behindMark (line : Line) : weight line.behindMark < line.content.length + 1 := by
  unfold Line.behindMark
  split
  · simp [weight]
  · next first rest shape =>
    have shorter : (skipGap rest).length ≤ rest.length :=
      (List.dropWhile_sublist isGap).length_le
    dsimp only
    split
    · simp [weight]
    · simp only [weight, shape, List.length_cons]; omega

/-- Whether a character ends a line. These are the line feed, the carriage return and the three
other ones of Unicode. -/
def isBreak (c : Char) : Bool :=
  c == '\n' || c == '\r' || c.toNat == 0x85 || c.toNat == 0x2028 || c.toNat == 0x2029

/-- The lines of a text. A carriage return and a newline together end one line. -/
def breakLines : List Char → List (List Char)
  | [] => [[]]
  | '\r' :: '\n' :: rest => [] :: breakLines rest
  | c :: rest =>
    if isBreak c then [] :: breakLines rest
    else
      match breakLines rest with
      | [] => [[c]]
      | first :: more => (c :: first) :: more

/-- The lines of a text that say something. Empty lines and those with only a comment are left
out, but they are counted in the line numbers. -/
def linesOf (chars : List Char) : List Line :=
  let numbered := (breakLines chars).zipIdx 1
  let read := numbered.map fun (line, number) =>
    let indented := line.dropWhile (· == ' ')
    (⟨number, line.length - indented.length, indented⟩ : Line)
  read.filter fun line => !isEnd line.content

mutual

/-- The node that a block of lines spells. Without lines it is an empty scalar. -/
def readBlock (lines : List Line) : Except Malformed Document :=
  match lines with
  | [] => .ok (.scalar ⟨1, [], false⟩)
  | first :: rest =>
    if first.isItem then do
      let items ← readItems first.indent (first :: rest)
      .ok (.sequence first.number items)
    else if (readKey? first.number first.content).isSome then do
      let entries ← readEntries first.indent (first :: rest)
      .ok (.mapping first.number entries)
    else readInline first.number first.content rest
termination_by (weight lines, 1)

/-- The items of a sequence whose marks are indented by `indent`. -/
def readItems (indent : Nat) (lines : List Line) : Except Malformed (List Document) :=
  match lines with
  | [] => .ok []
  | first :: rest =>
    if first.indent ≠ indent ∨ !first.isItem then .error (.trailingText first.number)
    else do
      let item ← readBlock (first.behindMark ++ rest.takeWhile fun line => indent < line.indent)
      let items ← readItems indent (rest.dropWhile fun line => indent < line.indent)
      .ok (item :: items)
termination_by (weight lines, 0)
decreasing_by
  · have kept := weight_takeWhile_le (fun line => indent < line.indent) rest
    have behind := weight_behindMark first
    apply Prod.Lex.left
    rw [weight_append, weight]
    omega
  · have left := weight_dropWhile_le (fun line => indent < line.indent) rest
    apply Prod.Lex.left
    rw [weight]
    omega

/-- The entries of a mapping whose keys are indented by `indent`. -/
def readEntries (indent : Nat) (lines : List Line) :
    Except Malformed (List (Scalar × Document)) :=
  match lines with
  | [] => .ok []
  | first :: rest =>
    if first.indent ≠ indent then
      .error (if indent < first.indent then .unexpectedMapping first.number
        else .trailingText first.number)
    else
      match readKey? first.number first.content with
      | none => .error (.missingColon first.number)
      | some (key, inline) =>
        if isEnd inline then do
          let value ← readBlock (rest.takeWhile (Line.isInside indent))
          let entries ← readEntries indent (rest.dropWhile (Line.isInside indent))
          .ok ((key, value) :: entries)
        else do
          let value ← readInline first.number inline (rest.takeWhile fun line => indent < line.indent)
          let entries ← readEntries indent (rest.dropWhile fun line => indent < line.indent)
          .ok ((key, value) :: entries)
termination_by (weight lines, 0)
decreasing_by
  · have kept := weight_takeWhile_le (Line.isInside indent) rest
    apply Prod.Lex.left
    rw [weight]
    omega
  · have left := weight_dropWhile_le (Line.isInside indent) rest
    apply Prod.Lex.left
    rw [weight]
    omega
  · have left := weight_dropWhile_le (fun line => indent < line.indent) rest
    apply Prod.Lex.left
    rw [weight]
    omega

end

/-- Whether a character may stand in a document. Control characters may not, except for those that
end lines and the tab, and neither may the codes that are no characters. -/
def isAllowed (c : Char) : Bool :=
  let code := c.toNat
  isBreak c || isGap c || (0x20 ≤ code && code ≤ 0x7E) ||
    (0xA0 ≤ code && code ≤ 0xFFFD) || 0x10000 ≤ code

/-- The node at the root of a document that starts on a line. What follows a node in
brackets or quotes, or is indented less than the first line of a block, is no
longer part of the document. -/
def readRoot (first : Line) (rest : List Line) (inBlock : Bool) : Except Malformed Document :=
  if inBlock && (first.isItem || (readKey? first.number first.content).isSome) then
    readBlock (first :: rest.takeWhile fun line => first.indent ≤ line.indent)
  else if first.content.head?.any opensNode then readEnclosed first.number first.content
  else readInline first.number first.content rest

/-- The document at the start of lines, up to a mark. On the line of the mark before a
document no block can start. -/
def readDocument (lines : List Line) : Except Malformed Document :=
  let untilMark (lines : List Line) : List Line :=
    lines.takeWhile fun line => !(line.isMark "---" || line.isMark "...")
  let opened (lines : List Line) : Except Malformed Document :=
    match untilMark lines with
    | [] => .ok (.scalar ⟨1, [], false⟩)
    | first :: rest => readRoot first rest true
  match lines with
  | [] => opened []
  | first :: rest =>
    if first.isMark "---" then
      let left := skipGap (first.content.drop 3)
      if isEnd left then opened rest
      else readRoot ⟨first.number, first.content.length - left.length, left⟩ (untilMark rest) false
    else opened (first :: rest)

/-- The first document of a file. A byte order mark before it does not count. -/
def ofText (text : Text) : Except Malformed Document :=
  let chars := text.chars
  let said := if chars.head? = some (Char.ofNat 0xFEFF) then chars.drop 1 else chars
  if said.all isAllowed then readDocument (linesOf said) else .error .controlCharacter

end Astro.Document
