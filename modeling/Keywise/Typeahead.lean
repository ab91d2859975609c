/-
# Keys typed ahead of what they mean

Keys that may still grow into a left-hand side of the key map in use are held
back. Once they cannot, they are settled from the front: the longest
left-hand side that begins them is replaced by its expansion, and if there is
none the first key passes as it is. The strokes produced wait in a queue
until they are taken.

Key definitions: `Typeahead.settle`, `Typeahead.press`,
`Typeahead.literal`, `Typeahead.flush`.
Key theorems: `Typeahead.settle_force`, `Typeahead.settleOn_fst`.
-/
import Keywise.KeyMap.Basic

namespace Keywise

/-- What became of a key. -/
inductive KeyFate where
  /-- Nothing was held back and the key starts no mapping: it is left to the
  caller. -/
  | free
  /-- The key is held back with those before it. -/
  | held
  /-- All keys held back were settled. -/
  | settled
  deriving DecidableEq, Repr

/-- The keys held back, the map they were matched against, and the strokes
produced so far. -/
structure Typeahead where
  held : List Key := []
  map : Option MapName := none
  output : List Stroke := []
  deriving DecidableEq, Repr

namespace Typeahead

/-- The result of settling what follows, with strokes put in front. -/
def ahead (out : List Stroke) (r : List Key × List Stroke) : List Key × List Stroke :=
  (r.1, out ++ r.2)

theorem length_drop_lt (k : Key) (ks : List Key) (n : Nat) :
    (ks.drop n).length < (k :: ks).length := by
  rw [List.length_drop, List.length_cons]
  omega

/-- Settles keys from the front: what stays held back, and the strokes
produced. Unless it is forced, it stops where the keys left may still grow
into a left-hand side. -/
def settle (m : KeyMap) (force : Bool) : List Key → List Key × List Stroke
  | [] => ([], [])
  | k :: ks =>
    match m.matching (k :: ks) with
    | .growing soFar =>
      if force then
        match soFar with
        | some (n, e) => ahead e.strokes (settle m force (ks.drop (n - 1)))
        | none => ahead [.literal k] (settle m force ks)
      else (k :: ks, [])
    | .complete n e => ahead e.strokes (settle m force (ks.drop (n - 1)))
    | .nothing => ahead [.literal k] (settle m force ks)
  termination_by ks => ks.length
  decreasing_by
    · exact length_drop_lt k ks _
    · exact Nat.lt_succ_self _
    · exact length_drop_lt k ks _
    · exact Nat.lt_succ_self _

/-- Forced, it holds nothing back. -/
theorem settle_force (m : KeyMap) (ks : List Key) : (settle m true ks).1 = [] := by
  fun_induction settle m true ks <;> simp_all [ahead]

/-- Settles the keys held back against the map `m`. -/
def settleOn (t : Typeahead) (m : KeyMap) (force : Bool) : Typeahead × KeyFate :=
  match settle m force t.held with
  | ([], out) => ({ held := [], map := none, output := t.output ++ out }, .settled)
  | (ks, out) => ({ held := ks, map := t.map, output := t.output ++ out }, .held)

theorem settleOn_fst (t : Typeahead) (m : KeyMap) (force : Bool) :
    (t.settleOn m force).1 =
      { held := (settle m force t.held).1
        map := if (settle m force t.held).1 = [] then none else t.map
        output := t.output ++ (settle m force t.held).2 } := by
  unfold settleOn
  cases h : settle m force t.held with
  | mk held out => cases held <;> rfl

theorem settleOn_ne_free (t : Typeahead) (m : KeyMap) (force : Bool) :
    (t.settleOn m force).2 ≠ .free := by
  unfold settleOn
  cases h : settle m force t.held with
  | mk held out => cases held <;> simp

/-- Lets all keys held back pass as they are. -/
def release (t : Typeahead) : Typeahead :=
  { held := [], map := none, output := t.output ++ t.held.map .literal }

/-- Whether keys held back were matched against another map than `name`. -/
def strandedFrom (t : Typeahead) (name : MapName) : Bool :=
  match t.map with
  | some n => n != name
  | none => false

/-- A key is typed while map `m` is in use. -/
def press (t : Typeahead) (m : KeyMap) (k : Key) : Typeahead × KeyFate :=
  let t := if t.strandedFrom m.name then t.release else t
  if t.held.isEmpty && t.output.isEmpty && (m.matching [k] == .nothing) then (t, .free)
  else settleOn { t with held := t.held ++ [k], map := some m.name } m false

/-- A key that is not to be mapped. It ends the keys held back, which are
settled as if no more were to come, and follows them. -/
def literal (t : Typeahead) (m : KeyMap) (k : Key) : Typeahead × KeyFate :=
  if t.held.isEmpty then (t, .free)
  else
    let t := if t.strandedFrom m.name then t.release else (t.settleOn m true).1
    ({ t with output := t.output ++ [.literal k] }, .settled)

/-- No more keys are to come for now: settles those held back. -/
def flush (t : Typeahead) (m : KeyMap) : Typeahead × KeyFate :=
  if t.held.isEmpty then (t, .free) else t.settleOn m true

/-- Takes the strokes produced out of the queue. -/
def take (t : Typeahead) : Typeahead × List Stroke := ({ t with output := [] }, t.output)

/-- Whether keys are held back. -/
def isHolding (t : Typeahead) : Bool := !t.held.isEmpty

theorem isHolding_release (t : Typeahead) : t.release.isHolding = false := rfl

end Typeahead
end Keywise
