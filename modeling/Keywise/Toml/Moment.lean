/-
# TOML dates and times

A date, a time of day, or both with or without the distance from universal
time. The seconds of a time may be left out.

Key definitions: `Toml.Moment.isMoment`, `Toml.Moment.isDate`.
-/
namespace Keywise
namespace Toml
namespace Moment

/-- The number that exactly `n` decimal digits write, and what follows them. -/
def digits? (n : Nat) (s : List Char) : Option (Nat × List Char) :=
  if (s.take n).length = n ∧ (s.take n).all Char.isDigit then
    some ((s.take n).foldl (fun a c => 10 * a + (c.toNat - '0'.toNat)) 0, s.drop n)
  else none

/-- The rest of a text after a character that it has to begin with. -/
def after? (c : Char) : List Char → Option (List Char)
  | d :: s => if d = c then some s else none
  | [] => none

/-- How many days a month has. -/
def daysIn (year month : Nat) : Nat :=
  if month = 2 then
    if year % 4 = 0 ∧ (year % 100 ≠ 0 ∨ year % 400 = 0) then 29 else 28
  else if month = 4 ∨ month = 6 ∨ month = 9 ∨ month = 11 then 30
  else 31

/-- The rest of a text after the date it begins with. -/
def date? (s : List Char) : Option (List Char) := do
  let (year, s) ← digits? 4 s
  let s ← after? '-' s
  let (month, s) ← digits? 2 s
  let s ← after? '-' s
  let (day, s) ← digits? 2 s
  if 1 ≤ month ∧ month ≤ 12 ∧ 1 ≤ day ∧ day ≤ daysIn year month then some s else none

/-- The rest of a text after the fraction it may begin with. -/
def fraction? : List Char → Option (List Char)
  | '.' :: c :: s => if c.isDigit then some (s.dropWhile Char.isDigit) else none
  | '.' :: [] => none
  | s => some s

/-- The rest of a text after the time of day it begins with. -/
def time? (s : List Char) : Option (List Char) := do
  let (hour, s) ← digits? 2 s
  let s ← after? ':' s
  let (minute, s) ← digits? 2 s
  if hour ≤ 23 ∧ minute ≤ 59 then
    match s with
    | ':' :: s =>
      let (second, s) ← digits? 2 s
      if second ≤ 60 then fraction? s else none
    | s => some s
  else none

/-- Whether a text is a distance from universal time, or nothing. -/
def isZone : List Char → Bool
  | [] => true
  | [c] => c == 'Z' || c == 'z'
  | c :: s =>
    (c == '+' || c == '-') &&
      match time? s with
      | some [] => s.length == 5
      | _ => false

/-- Whether a text is a date. -/
def isDate (s : List Char) : Bool := date? s == some []

/-- Whether a text is a date, a time, or both. -/
def isMoment (s : List Char) : Bool :=
  match date? s with
  | some [] => true
  | some (c :: s) => (c == 'T' || c == 't' || c == ' ') && (time? s).any isZone
  | none => time? s == some []

end Moment
end Toml
end Keywise
