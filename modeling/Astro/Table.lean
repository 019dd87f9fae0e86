import Astro.Binding
import Astro.Dialect

/-!
# The table of names

One flat table maps names to bindings. It is kept in ascending order of the
bytes of the names, each name once, so that two tables with the same bindings
are the same table. Defining a name replaces whatever it was bound to; checking
first whether that is allowed is up to the caller.
-/

namespace Astro

/-- The names that are bound, in ascending order, with their bindings. -/
structure Table where
  entries : List (Text × Binding)
  ascending : entries.Pairwise fun first second => first.1 < second.1

namespace Table

/-- The table without any name. Its entries are in order, as there are none. -/
def empty : Table := ⟨[], .nil⟩

/-- Put an entry in its place, over an entry with the same name. -/
def insertEntry (name : Text) (binding : Binding) :
    List (Text × Binding) → List (Text × Binding)
  | [] => [(name, binding)]
  | entry :: rest =>
    if name < entry.1 then (name, binding) :: entry :: rest
    else if name = entry.1 then (name, binding) :: rest
    else entry :: insertEntry name binding rest

/-- The names after an insertion are the new one and those before. -/
theorem mem_insertEntry {name : Text} {binding : Binding} {entries : List (Text × Binding)}
    {entry : Text × Binding} (present : entry ∈ insertEntry name binding entries) :
    entry = (name, binding) ∨ entry ∈ entries := by
  induction entries with
  | nil => simpa [insertEntry] using present
  | cons first rest within =>
    unfold insertEntry at present
    split at present
    · simpa using present
    · split at present
      · rcases List.mem_cons.mp present with here | there
        · exact .inl here
        · exact .inr (List.mem_cons_of_mem _ there)
      · rcases List.mem_cons.mp present with here | there
        · exact .inr (here ▸ List.mem_cons_self)
        · exact (within there).imp_right (List.mem_cons_of_mem _)

/-- Insertion keeps the names in order.

Proof: induction on the entries. The new one is put before the first with a greater name, or in
place of the one with its own. -/
theorem insertEntry_ascending (name : Text) (binding : Binding) (entries : List (Text × Binding))
    (ascending : entries.Pairwise fun first second => first.1 < second.1) :
    (insertEntry name binding entries).Pairwise fun first second => first.1 < second.1 := by
  induction entries with
  | nil => simp [insertEntry]
  | cons first rest within =>
    obtain ⟨before, restAscending⟩ := List.pairwise_cons.mp ascending
    unfold insertEntry
    split
    · rename_i smaller
      refine List.pairwise_cons.mpr ⟨fun entry member => ?_, ascending⟩
      rcases List.mem_cons.mp member with rfl | later
      · exact smaller
      · exact List.lt_trans smaller (before entry later)
    · rename_i notSmaller
      split
      · rename_i same
        exact List.pairwise_cons.mpr ⟨fun entry member => same ▸ before entry member, restAscending⟩
      · rename_i different
        refine List.pairwise_cons.mpr ⟨fun entry member => ?_, within restAscending⟩
        rcases mem_insertEntry member with rfl | later
        · exact Std.lt_of_le_of_ne (List.not_lt.mp notSmaller) (Ne.symm different)
        · exact before entry later

/-- Bind a name, whatever it was bound to before. The entries stay in order, so that a table is
determined by its bindings. -/
def define (table : Table) (name : Text) (binding : Binding) : Table :=
  ⟨insertEntry name binding table.entries,
    insertEntry_ascending name binding table.entries table.ascending⟩

/-- The binding of a name. There is at most one, as names do not have two entries. -/
def lookup? (table : Table) (name : Text) : Option Binding :=
  (table.entries.find? fun entry => entry.1 = name).map Prod.snd

/-- The names that are bound, in ascending order. They are compared by their bytes. -/
def names (table : Table) : List Text := table.entries.map Prod.fst

/-- One line for every binding, as in `x: number 5 (RW)`. -/
def symbols (table : Table) : List Text :=
  table.entries.map fun entry => entry.1 ++ Text.ofString ": " ++ entry.2.text

/-- All bindings for a person to read, one on a line, with the names padded to
eight columns. -/
def listing (table : Table) : Text :=
  table.entries.flatMap fun entry =>
    Text.ofString "  " ++ entry.1.padRight 8 ++ Text.ofString " " ++ entry.2.text ++ Text.ofString "\n"

/-- The line that prints a number. The newline belongs to it, so that printing is a single write. -/
def printedLine (value : Float) : Text := Number.format value ++ Text.ofString "\n"

/-- A function of one argument. It applies what is given to that argument. -/
def unary (name : String) (apply : Float → Float) : Text × Binding :=
  (Text.ofString name, .function ⟨Text.ofString name, 1, fun args => apply (args.get ⟨0, by decide⟩)⟩)

/-- The bindings that every program starts with. There are one constant and four functions, and
none of them can be assigned to. -/
def builtins : List (Text × Binding) :=
  [(Text.ofString "π", .number (.ofBits 0x400921fb54442d18) false),
   unary "sin" Number.sine,
   unary "cos" Number.cosine,
   unary "sqrt" Float.sqrt,
   (Text.ofString "hypot", .function ⟨Text.ofString "hypot", 2, fun args =>
     Number.hypotenuse (args.get ⟨0, by decide⟩) (args.get ⟨1, by decide⟩)⟩)]

/-- The procedure that prints its argument on a line. It takes one argument, makes one write and
ends as the write does. -/
def printProcedure : NativeProcedure :=
  ⟨Text.ofString "print", 1, fun args => .script [printedLine (args.get ⟨0, by decide⟩)] none⟩

/-- The table that programs of a dialect start with. Only a dialect that spells
`print` as a procedure binds it. -/
def initial (dialect : Dialect) : Table :=
  let table := builtins.foldl (fun table entry => table.define entry.1 entry.2) empty
  if dialect.print = .procedure then table.define printProcedure.name (.procedure printProcedure)
  else table

end Table

end Astro
