/-
# Tries of keys

A trie holds an expansion for each of several sequences of keys. It is the
list of the edges that leave a node; an edge carries a key, the expansion of
the sequence that ends with it, if there is one, and the edges that go on
from it.

Key definitions: `Trie.insert`, `Trie.step`, `Trie.walk`.
Key theorems: `Trie.step_insert_of_ne`.
-/
import Keywise.Key.Basic

namespace Keywise

/-- What a mapping puts in place of the keys typed. -/
structure Expansion where
  keys : List Key
  recursive : Bool
  deriving DecidableEq, Repr

namespace Expansion

/-- The strokes the expansion produces. -/
def strokes (e : Expansion) : List Stroke := e.keys.map fun k => ⟨k, e.recursive⟩

theorem length_strokes (e : Expansion) : e.strokes.length = e.keys.length := by
  simp [strokes]

end Expansion

/-- The edges that leave a node, one after the other. -/
inductive Trie where
  | leaf
  | edge (key : Key) (value : Option Expansion) (below : Trie) (next : Trie)
  deriving DecidableEq, Repr

namespace Trie

/-- The trie of the one sequence `k :: ks`. -/
def chain (v : Expansion) (k : Key) : List Key → Trie
  | [] => edge k (some v) leaf leaf
  | k' :: ks => edge k none (chain v k' ks) leaf

/-- Gives the sequence the expansion `v`, in place of any it had. The empty
sequence gets none. -/
def insert (v : Expansion) : Trie → List Key → Trie
  | t, [] => t
  | leaf, k :: ks => chain v k ks
  | edge key value below next, k :: ks =>
    if k = key then
      edge key (if ks = [] then some v else value) (insert v below ks) next
    else edge key value below (insert v next (k :: ks))

/-- Follows the edge of key `k`: the expansion found there and the edges that
go on. -/
def step : Trie → Key → Option (Option Expansion × Trie)
  | leaf, _ => none
  | edge key value below next, k => if k = key then some (value, below) else step next k

/-- How far a sequence of keys leads into a trie. -/
structure Walk where
  /-- The edges at the place reached, if every key had its edge. -/
  reached : Option Trie
  /-- The longest sequence passed that has an expansion, and its length. -/
  longest : Option (Nat × Expansion)

/-- Follows the keys for as long as they have edges. `depth` keys have been
followed so far, and `best` is the longest sequence seen. -/
def walkFrom (t : Trie) (depth : Nat) (best : Option (Nat × Expansion)) : List Key → Walk
  | [] => ⟨some t, best⟩
  | k :: ks =>
    match t.step k with
    | none => ⟨none, best⟩
    | some (value, below) =>
      walkFrom below (depth + 1) ((value.map fun v => (depth + 1, v)).or best) ks

/-- Follows the keys from the root. -/
def walk (t : Trie) (ks : List Key) : Walk := walkFrom t 0 none ks

/-- The trie of a list of sequences and their expansions. A later entry takes
the place of an earlier one for the same sequence. -/
def ofEntries (es : List (List Key × Expansion)) : Trie :=
  es.foldl (fun t e => t.insert e.2 e.1) leaf

theorem step_chain (v : Expansion) (k j : Key) (ks : List Key) :
    (chain v k ks).step j = if j = k then
      some (match ks with
        | [] => (some v, leaf)
        | k' :: ks' => (none, chain v k' ks'))
    else none := by
  cases ks <;> simp [chain, step]

/-- An insertion does not touch the edges of other keys. -/
theorem step_insert_of_ne (v : Expansion) {j k : Key} (h : j ≠ k) (ks : List Key) :
    ∀ t : Trie, (t.insert v (k :: ks)).step j = t.step j
  | leaf => by simp [insert, step_chain, h, step]
  | edge key value below next => by
    unfold insert
    by_cases hk : k = key
    · subst hk; simp [step, h]
    · simp [step, hk, step_insert_of_ne v h ks next]

end Trie
end Keywise
