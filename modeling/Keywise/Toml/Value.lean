/-
# TOML values and tables

A table comes into being in one of four ways, and this decides what may be
added to it later: a header defines it, it lies on the way to one that a
header defines, it lies on the way of a dotted key, or it is written between
braces.

Key definitions: `Toml.Value`, `Toml.assign`, `Toml.openTable`,
`Toml.openElement`.
Key theorems: `Toml.lookup_insertNew`.
-/
namespace Keywise
namespace Toml

/-- How a table came into being. -/
inductive TableKind where
  /-- By its own header. -/
  | header
  /-- On the way to a table that has a header. -/
  | implicit
  /-- On the way of a dotted key. -/
  | dotted
  /-- Between braces. -/
  | inline
  deriving DecidableEq, Repr

/-- A value. -/
inductive Value where
  | string (s : String)
  | integer (n : Int)
  /-- A number with a fraction or an exponent, as it is written. -/
  | float (written : List Char)
  | boolean (b : Bool)
  /-- A date, a time or both, as it is written. -/
  | moment (written : List Char)
  | array (values : List Value)
  | table (kind : TableKind) (entries : List (String × Value))
  /-- The tables that have headers in double brackets. -/
  | tables (elements : List (List (String × Value)))

/-- The keys of a table and their values. -/
abbrev Entries := List (String × Value)

/-- Changes the value of a key, or gives it one, unless `f` refuses. -/
def modify? (key : String) (f : Option Value → Option Value) : Entries → Option Entries
  | [] => (f none).map fun v => [(key, v)]
  | (k, v) :: es =>
    if k = key then (f (some v)).map fun v => (k, v) :: es
    else (modify? key f es).map ((k, v) :: ·)

/-- Gives a key its value, if it has none. -/
def insertNew (key : String) (v : Value) : Entries → Option Entries :=
  modify? key fun
    | none => some v
    | some _ => none

/-- Changes the entries of the table that a path leads to. What `f` is told of
the table is how it came into being. Tables that are missing on the way come
into being. A dotted key leads through no table that has a header, and no path
through one between braces. -/
def within (dotted : Bool) (f : TableKind → Entries → Option Entries) :
    List String → TableKind → Entries → Option Entries
  | [], kind, es => f kind es
  | key :: path, _, es =>
    modify? key (fun
      | none =>
        let kind := if dotted then .dotted else .implicit
        (within dotted f path kind []).map (.table kind)
      | some (.table kind es) =>
        if kind = .inline ∨ (dotted ∧ kind = .header) then none
        else (within dotted f path kind es).map (.table kind)
      | some (.tables ts) =>
        ts.getLast?.bind fun es =>
          (within dotted f path .header es).map fun es => .tables (ts.dropLast ++ [es])
      | some _ => none) es

/-- Gives the key at the end of a path its value, in a table of the kind
given. Behind a dot the key goes into a table that dotted keys have made. -/
def assign (path : List String) (key : String) (v : Value) :
    TableKind → Entries → Option Entries :=
  within true (fun kind es =>
    if (kind = .dotted) = path.isEmpty then none else insertNew key v es) path

/-- Opens the table that a header defines. -/
def openTable (path : List String) (key : String) : Entries → Option Entries :=
  within false (fun _ => modify? key fun
    | none => some (.table .header [])
    | some (.table .implicit es) => some (.table .header es)
    | some _ => none) path .header

/-- Opens another table of those that a header in double brackets names. -/
def openElement (path : List String) (key : String) : Entries → Option Entries :=
  within false (fun _ => modify? key fun
    | none => some (.tables [[]])
    | some (.tables ts) => some (.tables (ts ++ [[]]))
    | some _ => none) path .header

theorem lookup_insertNew {key : String} {v : Value} : ∀ {es es' : Entries},
    insertNew key v es = some es' → es'.lookup key = some v
  | [], es', h => by
    simp only [insertNew, modify?, Option.map_some, Option.some.injEq] at h
    subst h
    simp
  | (k, w) :: es, es', h => by
    by_cases hk : k = key
    · simp [insertNew, modify?, hk] at h
    · simp only [insertNew, modify?, hk, if_false, Option.map_eq_some_iff] at h
      obtain ⟨fs, hfs, rfl⟩ := h
      have hb : (key == k) = false := by simpa using fun e => hk e.symm
      simp only [List.lookup_cons, hb]
      exact lookup_insertNew hfs

end Toml
end Keywise
