/-
# Sets of characters with a property

A property is known by its name, or by its name and that of a value. Names are
told apart by their letters only: case does not count, nor do blanks, hyphens
and underscores, nor `is` before the name.

The values known are those of the general category and the scripts. They go by
their own name too, as do the properties of `Unicode.properties`; names of other
properties are refused.

Key definitions: `PropertyName.plain`, `CharSet.ofProperty?`.
-/
import Keywise.Pattern.CharSet
import Keywise.Unicode.Script

namespace Keywise

namespace PropertyName

/-- Whether the name begins with `is`, in any case. -/
def hasIs : List Char → Bool
  | i :: s :: _ => i.toLower == 'i' && s.toLower == 's'
  | _ => false

/-- The letters by which a name is told apart. The name `isc` is one of its own,
and not that of the category `c`. -/
def plain (name : List Char) : String :=
  let rest := if hasIs name then name.drop 2 else name
  let letters := rest.filter fun c => c.toNat < 128 && c != ' ' && c != '_' && c != '-'
  let small := letters.map Char.toLower
  if hasIs name && small == ['c'] then "isc" else String.ofList small

/-- What is before and behind the first place where `sign` stands. -/
def cut? (sign : List Char) : List Char → Option (List Char × List Char)
  | [] => none
  | c :: s =>
    if sign.isPrefixOf (c :: s) then some ([], (c :: s).drop sign.length)
    else (cut? sign s).map fun (before, behind) => (c :: before, behind)

/-- The names of a property and of its value. -/
def pair? (name : List Char) : Option (List Char × List Char) :=
  (cut? ['!', '='] name).or ((cut? [':'] name).or (cut? ['='] name))

end PropertyName

namespace CharSet

/-- The members of any of several classes. -/
def ofClasses (bss : List (List Nat)) : CharSet := ofRanges (bss.flatMap ofBoundaries)

/-- The set of a name. -/
def ofName? (table : Unicode.NamedClasses) (name : String) : Option CharSet :=
  (table.find? (·.1.contains name)).map fun (_, bss) => ofClasses bss

/-- The characters that are assigned. -/
def assigned : CharSet := ofClasses (Unicode.categories.flatMap (·.2))

/-- The characters of a general category, of a group of them, or of all. -/
def ofCategory? (name : String) : Option CharSet :=
  match name with
  | "any" => some (range 0 lastCode)
  | "ascii" => some (range 0 0x7F)
  | "assigned" => some assigned
  | "cn" | "unassigned" => some assigned.compl
  | "c" | "other" =>
    some (assigned.compl.union (ofClasses [Unicode.control, Unicode.format, Unicode.privateUse]))
  | name => (ofName? Unicode.categories name).or (ofName? Unicode.categoryGroups name)

/-- The characters with the property named, which may have its value with it.
The sign between them does not tell whether they are equal or not. -/
def ofProperty? (name : List Char) : Option CharSet :=
  match PropertyName.pair? name with
  | some (property, value) =>
    let value := PropertyName.plain value
    match PropertyName.plain property with
    | "gc" | "generalcategory" => ofCategory? value
    | "sc" | "script" => ofName? Unicode.scripts value
    | _ => none
  | none =>
    let name := PropertyName.plain name
    (ofName? Unicode.properties name).or
      ((ofCategory? name).or (ofName? Unicode.scripts name))

end CharSet
end Keywise
