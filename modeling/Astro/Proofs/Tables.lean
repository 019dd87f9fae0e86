import Astro.Table
import Mathlib.Data.List.Sort

/-!
# Tables as functions from names to bindings

A table is determined by what it binds: defining a name changes the binding of that
name and of no other, and the names of a table are those that it binds, in strictly
ascending order. The tables that programs start with bind the built-in names, and
none of them to a number that can be changed.
-/

namespace Astro.Table

/-- The names of a table are in strictly ascending order, so each is listed once. -/
theorem names_ascending (table : Table) : table.names.Pairwise (· < ·) :=
  List.pairwise_map.mpr table.ascending

/-- The names of a table are those that it binds. -/
theorem mem_names_iff (table : Table) (name : Text) :
    name ∈ table.names ↔ (table.lookup? name).isSome = true := by
  rw [names, lookup?, Option.isSome_map, List.find?_isSome, List.mem_map]
  simp

/-- What is found among entries after one was put in.

Proof: induction on the entries. The new one is put before the first with a greater name, or in
the place of the one with its own name. -/
theorem find?_insertEntry (name other : Text) (binding : Binding)
    (entries : List (Text × Binding)) :
    (insertEntry name binding entries).find? (fun entry => entry.1 = other) =
      if other = name then some (name, binding)
      else entries.find? fun entry => entry.1 = other := by
  induction entries with
  | nil =>
    by_cases same : other = name
    · simp [insertEntry, same]
    · simp [insertEntry, same, Ne.symm same]
  | cons first rest behind =>
    unfold insertEntry
    by_cases smaller : name < first.1
    · rw [if_pos smaller]
      by_cases same : other = name
      · simp [same]
      · simp [same, Ne.symm same]
    · rw [if_neg smaller]
      by_cases here : name = first.1
      · rw [if_pos here]
        by_cases same : other = name
        · simp [same]
        · have different : first.1 ≠ other := here ▸ Ne.symm same
          simp [same, Ne.symm same, different]
      · rw [if_neg here, List.find?_cons, List.find?_cons, behind]
        by_cases found : first.1 = other
        · have different : other ≠ name := fun same => here (same.symm.trans found.symm)
          simp [found, different]
        · simp [found]

/-- Defining a name binds it, and leaves every other name as it was. -/
theorem lookup?_define (table : Table) (name other : Text) (binding : Binding) :
    (table.define name binding).lookup? other =
      if other = name then some binding else table.lookup? other := by
  rw [lookup?, define, find?_insertEntry]
  by_cases same : other = name
  · rw [if_pos same, if_pos same]
    rfl
  · rw [if_neg same, if_neg same, lookup?]

/-- The entries of a table are its bindings. No name has two entries, because the names ascend, so
that looking one up finds its only entry. -/
theorem mem_entries_iff (table : Table) (name : Text) (binding : Binding) :
    (name, binding) ∈ table.entries ↔ table.lookup? name = some binding := by
  rw [lookup?, Option.map_eq_some_iff]
  constructor
  · intro member
    obtain ⟨front, back, split⟩ := List.append_of_mem member
    have ascending := table.ascending
    rw [split] at ascending
    have earlier := (List.pairwise_append.mp ascending).2.2
    have none : front.find? (fun entry => entry.1 = name) = none := by
      refine List.find?_eq_none.mpr fun entry before same => ?_
      have smaller := earlier entry before (name, binding) List.mem_cons_self
      rw [of_decide_eq_true same] at smaller
      exact List.lt_irrefl name smaller
    refine ⟨(name, binding), ?_, rfl⟩
    rw [split, List.find?_append, none, Option.none_or, List.find?_cons, decide_eq_true rfl]
  · rintro ⟨entry, found, rfl⟩
    have same : entry.1 = name := by simpa using List.find?_some found
    exact same ▸ List.mem_of_find?_eq_some found

/-- Tables that bind the same names to the same things are equal. -/
theorem eq_of_lookup? {first second : Table}
    (same : ∀ name, first.lookup? name = second.lookup? name) : first = second := by
  have members (entry : Text × Binding) : entry ∈ first.entries ↔ entry ∈ second.entries := by
    rw [mem_entries_iff first entry.1 entry.2, mem_entries_iff second entry.1 entry.2, same]
  have irreflexive : Std.Irrefl fun first second : Text × Binding => first.1 < second.1 :=
    ⟨fun entry => List.lt_irrefl entry.1⟩
  have antisymmetric : Std.Antisymm fun first second : Text × Binding => first.1 < second.1 :=
    ⟨fun first second before behind => absurd (List.lt_trans before behind) (List.lt_irrefl first.1)⟩
  have entries := List.Pairwise.eq_of_mem_iff first.ascending second.ascending members
  cases first
  cases second
  cases entries
  rfl

/-- Two names can be defined in either order. Tables with the same bindings are equal, as their
entries are in order. -/
theorem define_comm (table : Table) {name other : Text} (different : name ≠ other)
    (binding another : Binding) :
    (table.define name binding).define other another =
      (table.define other another).define name binding := by
  refine eq_of_lookup? fun asked => ?_
  simp only [lookup?_define]
  by_cases first : asked = name
  · rw [if_neg (first ▸ different), if_pos first, if_pos first]
  · rw [if_neg first, if_neg first]

/-- Defining the entries of a list one after another binds each name to the last of its
entries. -/
theorem lookup?_defineAll (entries : List (Text × Binding)) (table : Table) (name : Text) :
    (entries.foldl (fun table entry => table.define entry.1 entry.2) table).lookup? name =
      ((entries.reverse.find? fun entry => entry.1 = name).map Prod.snd).or (table.lookup? name) := by
  induction entries generalizing table with
  | nil => rfl
  | cons first rest others =>
    rw [List.foldl_cons, others, lookup?_define, List.reverse_cons, List.find?_append]
    cases later : rest.reverse.find? fun entry => entry.1 = name with
    | some entry => simp
    | none =>
      by_cases same : name = first.1
      · simp [same]
      · simp [same, Ne.symm same]

/-- The bindings that programs of a dialect start with. -/
def given (dialect : Dialect) : List (Text × Binding) :=
  if dialect.print = .procedure then
    builtins ++ [(printProcedure.name, .procedure printProcedure)]
  else builtins

/-- No name is given twice. -/
theorem given_distinct (dialect : Dialect) :
    (given dialect).Pairwise fun first second => first.1 ≠ second.1 := by
  refine List.pairwise_map.mp (?_ : ((given dialect).map Prod.fst).Pairwise (· ≠ ·))
  unfold given
  split
  · decide +kernel
  · decide +kernel

/-- A table of a dialect binds at first what is given, and nothing else. The names given are
distinct, so that none of the definitions which make up the table hides another. -/
theorem lookup?_initial_iff (dialect : Dialect) (name : Text) (binding : Binding) :
    (initial dialect).lookup? name = some binding ↔ (name, binding) ∈ given dialect := by
  have defined : initial dialect =
      (given dialect).foldl (fun table entry => table.define entry.1 entry.2) empty := by
    rw [initial, given]
    split
    · rw [List.foldl_append]
      rfl
    · rfl
  rw [defined, lookup?_defineAll]
  constructor
  · intro found
    have nothing : empty.lookup? name = none := rfl
    rw [nothing, Option.or_none, Option.map_eq_some_iff] at found
    obtain ⟨entry, found, rfl⟩ := found
    have same : entry.1 = name := by simpa using List.find?_some found
    have member := List.mem_reverse.mp (List.mem_of_find?_eq_some found)
    rwa [← same]
  · intro member
    obtain ⟨front, back, split⟩ := List.append_of_mem member
    have distinct := given_distinct dialect
    rw [split] at distinct ⊢
    have later := (List.pairwise_append.mp distinct).2.1
    have none : back.reverse.find? (fun entry => entry.1 = name) = none := by
      refine List.find?_eq_none.mpr fun entry behind => ?_
      have different := (List.pairwise_cons.mp later).1 entry (List.mem_reverse.mp behind)
      simpa using Ne.symm different
    simp [none]

/-- Nothing that is given can be changed. The one constant is not to be changed, and the others
are no numbers. -/
theorem number_not_mem_given (dialect : Dialect) (name : Text) (value : Float) :
    (name, .number value true) ∉ given dialect := by
  unfold given
  split
  · simp [builtins, unary]
  · simp [builtins, unary]

end Astro.Table
