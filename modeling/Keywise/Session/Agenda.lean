/-
# Typing keys in a session

A key that is typed is mapped by the key map of the current mode. The
strokes this produces are worked off in order; one that is recursive is
mapped again, one level deeper, and all it leads to comes before the
strokes that follow. A stroke that is not recursive goes behind keys that
are still held back.

A piece of work is a task, which may lead to further tasks; they are all
worked off before the task that follows it, on a stack that has room for so
many tasks within tasks. Mappings that lead deeper than the session allows
end the work at once. Where tasks lead to tasks without an end the key has no
result, however large the stack is.

Key definitions: `Task`, `Run.perform`, `Run.carryOut?`, `Run.work?`,
`Session.press?`, `Session.timeout?`.
Key theorems: `Run.work?_cons`, `Run.work?_append`, `Run.work?_of_le`.
-/
import Keywise.Session.Basic

namespace Keywise

/-- A piece of work. -/
inductive Task where
  /-- A stroke that a mapping has led to, so many levels deep. -/
  | stroke (s : Stroke) (depth : Nat)
  /-- A key to be given to the current mode. -/
  | give (k : Key)
  deriving DecidableEq, Repr

namespace Session

/-- The map of a name, which is empty if there is none. -/
def keyMap (s : Session) (name : MapName) : KeyMap :=
  (s.editor.keyMaps.find? name).getD (.empty name)

/-- Gives up on the keys typed ahead, and reports why. -/
def abort (s : Session) : Session :=
  { s with typeahead := {}, editor := s.editor.report .recursiveMapping }

/-- Takes the strokes produced so far, as tasks of a level. -/
def takeStrokes (s : Session) (depth : Nat) : Session × List Task :=
  let (t, strokes) := s.typeahead.take
  ({ s with typeahead := t }, strokes.map (.stroke · depth))

/-- What a key leads to at once. -/
structure Onset where
  session : Session
  tasks : List Task
  /-- Whether all work is to be given up. -/
  aborted : Bool := false

/-- A key arrives at a level, as typed or as a stroke. -/
def arrive (s : Session) (k : Key) (depth : Nat) : Onset :=
  if depth > s.maxDepth then { session := s.abort, tasks := [], aborted := true }
  else match s.currentMode? with
    | none => { session := s, tasks := [] }
    | some m =>
      match m.keyMap? with
      | none =>
        if s.typeahead.isHolding then
          let t := (s.typeahead.flush (.empty (.other ""))).1
          let (s, tasks) := takeStrokes { s with typeahead := t } depth
          { session := s, tasks := tasks ++ [.give k] }
        else { session := s, tasks := [.give k] }
      | some name =>
        match s.typeahead.press (s.keyMap name) k with
        | (t, .free) => { session := { s with typeahead := t }, tasks := [.give k] }
        | (t, _) =>
          let (s, tasks) := takeStrokes { s with typeahead := t } depth
          { session := s, tasks }

/-- A stroke that is not recursive is worked off. -/
def pass (s : Session) (k : Key) (depth : Nat) : Onset :=
  if s.typeahead.isHolding then
    match s.typeahead.literal (s.keyMap (s.typeahead.map.getD (.other ""))) k with
    | (t, .free) => { session := { s with typeahead := t }, tasks := [.give k] }
    | (t, _) =>
      let (s, tasks) := takeStrokes { s with typeahead := t } depth
      { session := s, tasks }
  else { session := s, tasks := [.give k] }

end Session

/-- A session in which work is done. -/
structure Run where
  session : Session
  /-- Whether strokes are dropped because mappings lead too deep. -/
  aborted : Bool := false
  /-- Whether the last key given to a mode was of use. -/
  used : Bool := true

namespace Run

/-- Does a task: the run after it, and the tasks it leads to. -/
def perform (r : Run) : Task → Run × List Task
  | .give k =>
    let (s, used) := r.session.give k
    ({ r with session := s, used }, [])
  | .stroke st depth =>
    if r.aborted then (r, [])
    else
      let o := if st.recursive then r.session.arrive st.key (depth + 1)
        else r.session.pass st.key depth
      ({ r with session := o.session, aborted := o.aborted }, o.tasks)

/-- Carries a task out, with all that it leads to, on a stack with room for
so many tasks within tasks. There is no result if the stack overflows. -/
def carryOut? : Nat → Run → Task → Option Run
  | 0, _, _ => none
  | room + 1, r, t => (r.perform t).2.foldlM (carryOut? room) (r.perform t).1

/-- Works off tasks in order. -/
def work? (r : Run) (room : Nat) (ts : List Task) : Option Run := ts.foldlM (carryOut? room) r

theorem carryOut?_succ (r : Run) (room : Nat) (t : Task) :
    r.carryOut? (room + 1) t = (r.perform t).1.work? room (r.perform t).2 := rfl

theorem work?_cons (r : Run) (room : Nat) (t : Task) (ts : List Task) :
    r.work? room (t :: ts) = (r.carryOut? room t).bind (·.work? room ts) := rfl

theorem work?_append (r : Run) (room : Nat) (ts us : List Task) :
    r.work? room (ts ++ us) = (r.work? room ts).bind (·.work? room us) :=
  List.foldlM_append

theorem work?_of_forall {room room' : Nat}
    (h : ∀ r r' t, carryOut? room r t = some r' → carryOut? room' r t = some r') :
    ∀ {ts : List Task} {r r' : Run}, r.work? room ts = some r' → r.work? room' ts = some r'
  | [], _, _, hr => hr
  | t :: ts, r, r', hr => by
    obtain ⟨r₁, h₁, h₂⟩ := Option.bind_eq_some_iff.mp hr
    rw [work?_cons, h r r₁ t h₁]
    exact work?_of_forall h h₂

/-- What a stack has room for comes to the same on a larger one. -/
theorem carryOut?_of_le {room room' : Nat} (hle : room ≤ room') :
    ∀ r r' t, carryOut? room r t = some r' → carryOut? room' r t = some r' := by
  induction room generalizing room' with
  | zero => intro r r' t h; cases h
  | succ room ih =>
    intro r r' t h
    obtain ⟨room', rfl⟩ : ∃ n, room' = n + 1 := ⟨room' - 1, by omega⟩
    rw [carryOut?_succ] at h ⊢
    exact work?_of_forall (ih (Nat.le_of_succ_le_succ hle)) h

theorem work?_of_le {room room' : Nat} (hle : room ≤ room') {ts : List Task} {r r' : Run}
    (h : r.work? room ts = some r') : r.work? room' ts = some r' :=
  work?_of_forall (carryOut?_of_le hle) h

end Run

/-- The room on the stack where nothing else is said. -/
def stackRoom : Nat := 0xFFFFFFFF

namespace Session

/-- The outcome of an onset, if its work ends: the session, and whether the
key was of use. A key that is not given to a mode itself is. -/
def complete? (o : Onset) (room : Nat) : Option (Session × Bool) :=
  (Run.work? { session := o.session, aborted := o.aborted } room o.tasks).map fun r =>
    match o.tasks.getLast? with
    | some (.give _) => (r.session, r.used)
    | _ => (r.session, true)

/-- A key is typed: the session after it, and whether it was of use. There is
no result if its work does not end. -/
def press? (s : Session) (k : Key) (room : Nat := stackRoom) : Option (Session × Bool) :=
  match s.current with
  | none => some (s, false)
  | some _ => complete? (s.arrive k 0) room

/-- What it leads to that no key is typed for a while: keys held back are
settled against the map they were typed for. -/
def lapse (s : Session) (name : MapName) : Onset :=
  let (s, tasks) := takeStrokes { s with typeahead := (s.typeahead.flush (s.keyMap name)).1 } 0
  { session := s, tasks }

/-- No key is typed for a while. The flag tells whether keys were held back.
There is no result if the work this leads to does not end. -/
def timeout? (s : Session) (room : Nat := stackRoom) : Option (Session × Bool) :=
  match s.typeahead.map with
  | none => some (s, false)
  | some name => (complete? (s.lapse name) room).map fun r => (r.1, true)

/-- Keys are typed one after the other: for each, whether it was of use. -/
def pressAll? (s : Session) (ks : List Key) (room : Nat := stackRoom) :
    Option (Session × List Bool) :=
  match ks with
  | [] => some (s, [])
  | k :: ks => do
    let (s, used) ← s.press? k room
    let (s, rest) ← s.pressAll? ks room
    return (s, used :: rest)

/-- Keys are typed, and then none for a while: keys still held back are
settled, unless they are to wait for ever. -/
def burst? (s : Session) (settles : Bool) (ks : List Key) : Option (Session × List Bool) := do
  let (s, used) ← s.pressAll? ks
  if s.typeahead.isHolding && settles then
    let (s, _) ← s.timeout?
    return (s, used)
  else return (s, used)

end Session
end Keywise
