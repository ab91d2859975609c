/-
# A scope with registers of its own

A host can begin a scope, in which the registers are empty at first and its
own, and end it again. What is called in between, be it keys, waiting,
changes of mode or command lines, leaves the shared registers as they are,
with their ring and the last searches; and what becomes of the session does
not depend on them at all: with other shared registers the same calls come to
the same session, or to none (`Session.scope_isolated`).

The reason is that a scope makes no difference to what is done. All a session
does it does in a scope just as well, to the scope's registers in the place
of the shared ones (`Session.inScope`). This is followed from what a mode does
with one key up to a whole list of calls.

Key definitions: `Session.inScope`, `Session.HostCall`,
`Session.hostCalls?`, `Session.enterScope`, `Session.leaveScope`.
Key theorems: `Session.give_inScope`, `Run.work?_inScope`,
`Session.hostCalls?_inScope`, `Session.scope_isolated`.
-/
import Keywise.Proofs.Mode.Scope
import Keywise.Session.Agenda

namespace Keywise
namespace Session

/-- The same session in a scope: the registers in use are those of the scope,
and `r` are the shared ones. -/
def inScope (s : Session) (r : Registers) : Session := { s with editor := s.editor.inScope r }

variable (s : Session) (r : Registers)

theorem current_inScope : (s.inScope r).current = s.current := rfl

theorem mode?_inScope (name : ModeName) : (s.inScope r).mode? name = s.mode? name := rfl

theorem currentMode?_inScope : (s.inScope r).currentMode? = s.currentMode? := rfl

theorem keyMap_inScope : (s.inScope r).keyMap = s.keyMap := rfl

theorem typeahead_inScope : (s.inScope r).typeahead = s.typeahead := rfl

theorem maxDepth_inScope : (s.inScope r).maxDepth = s.maxDepth := rfl

/-! ### Modes -/

theorem note_inScope (m : Mode) (n : Notice) : (s.inScope r).note m n = (s.note m n).inScope r := by
  cases m <;> rfl

theorem leaveCurrent_inScope : (s.inScope r).leaveCurrent = s.leaveCurrent.inScope r := by
  unfold leaveCurrent
  rw [currentMode?_inScope]
  cases s.currentMode? with
  | none => rfl
  | some m =>
    have hleave : m.leave (s.inScope r).editor =
        ((m.leave s.editor).1, (m.leave s.editor).2.inScope r) := Mode.leave_inScope s.editor r m
    simp only [hleave]
    let s₁ : Session := { s with editor := (m.leave s.editor).2 }
    exact note_inScope (s₁.putMode (m.leave s.editor).1) r _ _

theorem enterMode_inScope (m : Mode) (args : List ModeArg) :
    (s.inScope r).enterMode m args = (s.enterMode m args).inScope r := by
  have henter : m.enter (s.inScope r).editor args = Editor.replyInScope r (m.enter s.editor args) :=
    Mode.enter_inScope s.editor r m args
  unfold enterMode
  rw [henter]
  obtain ⟨m', e, failure⟩ := m.enter s.editor args
  cases failure with
  | none => exact note_inScope ({ s with editor := e, current := some m.name }.putMode m') r _ _
  | some err =>
    exact note_inScope ({ s with editor := e.report err, current := some m.name }.putMode m') r _ _

theorem changeMode_inScope (request : ModeRequest) :
    (s.inScope r).changeMode request = (s.changeMode request).inScope r := by
  unfold changeMode
  rw [mode?_inScope, current_inScope, leaveCurrent_inScope]
  cases s.mode? request.name with
  | none => rfl
  | some m =>
    simp only [enterMode_inScope]
    split <;> rfl

theorem applyRequests_inScope : (s.inScope r).applyRequests = s.applyRequests.inScope r := by
  have hall : ∀ (rs : List ModeRequest) (s : Session),
      rs.foldl changeMode (s.inScope r) = (rs.foldl changeMode s).inScope r := by
    intro rs
    induction rs with
    | nil => exact fun _ => rfl
    | cons request rs ih =>
      intro s
      rw [List.foldl_cons, List.foldl_cons, changeMode_inScope, ih]
  exact hall s.editor.requests { s with editor := { s.editor with requests := [] } }

theorem hand_inScope (k : Key) :
    (s.inScope r).hand k = ((s.hand k).1.inScope r, (s.hand k).2) := by
  unfold hand
  rw [currentMode?_inScope]
  cases s.currentMode? with
  | none => rfl
  | some m =>
    have hhandle : m.handle (s.inScope r).editor k =
        Editor.replyInScope r (m.handle s.editor k) := Mode.handle_inScope s.editor r m k
    simp only [hhandle]
    obtain ⟨m', e, used⟩ := m.handle s.editor k
    let s₁ : Session := { s with editor := e }
    have hnote : ((s₁.putMode m').inScope r).note m (.key m.name k) =
        ((s₁.putMode m').note m (.key m.name k)).inScope r := note_inScope _ r _ _
    exact Prod.ext hnote rfl

theorem serve_inScope : ∀ (n : Nat) (s : Session),
    (s.inScope r).serve n = (s.serve n).inScope r
  | 0, s => s.applyRequests_inScope r
  | n + 1, s => by
    have hreplays : (s.applyRequests.inScope r).editor.replays = s.applyRequests.editor.replays :=
      rfl
    simp only [serve]
    rw [applyRequests_inScope, hreplays]
    cases s.applyRequests.editor.replays with
    | nil => rfl
    | cons k ks =>
      let s₁ : Session :=
        { s.applyRequests with editor := { s.applyRequests.editor with replays := ks } }
      have hhand : (s₁.inScope r).hand k = ((s₁.hand k).1.inScope r, (s₁.hand k).2) :=
        s₁.hand_inScope r k
      show serve n ((s₁.inScope r).hand k).1 = (serve n (s₁.hand k).1).inScope r
      rw [hhand, serve_inScope n]

/-- **A key is given to a mode** in a scope as outside of one. -/
theorem give_inScope (k : Key) :
    (s.inScope r).give k = ((s.give k).1.inScope r, (s.give k).2) := by
  unfold give
  rw [current_inScope, hand_inScope]
  cases s.current with
  | none => rfl
  | some name => exact Prod.ext (serve_inScope r _ _) rfl

/-! ### Strokes -/

/-- What a key leads to, in a scope. -/
def Onset.inScope (o : Onset) (r : Registers) : Onset := { o with session := o.session.inScope r }

theorem arrive_inScope (k : Key) (depth : Nat) :
    (s.inScope r).arrive k depth = (s.arrive k depth).inScope r := by
  unfold arrive
  rw [currentMode?_inScope, keyMap_inScope, typeahead_inScope, maxDepth_inScope]
  split
  · rfl
  · split
    · rfl
    · split
      · split <;> rfl
      · split <;> rfl

theorem pass_inScope (k : Key) (depth : Nat) :
    (s.inScope r).pass k depth = (s.pass k depth).inScope r := by
  unfold pass
  rw [keyMap_inScope, typeahead_inScope]
  split
  · split <;> rfl
  · rfl

end Session

namespace Run

/-- A run in a scope. -/
def inScope (run : Run) (r : Registers) : Run := { run with session := run.session.inScope r }

variable (r : Registers)

theorem perform_inScope (run : Run) (t : Task) :
    (run.inScope r).perform t = ((run.perform t).1.inScope r, (run.perform t).2) := by
  cases t with
  | give k =>
    have hgive : (run.inScope r).session.give k =
        ((run.session.give k).1.inScope r, (run.session.give k).2) := run.session.give_inScope r k
    simp only [perform, hgive]
    rfl
  | stroke st depth =>
    have haborted : (run.inScope r).aborted = run.aborted := rfl
    have harrive : (run.inScope r).session.arrive st.key (depth + 1) =
        (run.session.arrive st.key (depth + 1)).inScope r := run.session.arrive_inScope r _ _
    have hpass : (run.inScope r).session.pass st.key depth =
        (run.session.pass st.key depth).inScope r := run.session.pass_inScope r _ _
    unfold perform
    simp only [haborted, harrive, hpass]
    split
    · rfl
    · split <;> rfl

/-- **Work comes to the same in a scope**, on a stack of the same size. -/
theorem work?_inScope : ∀ (room : Nat) (ts : List Task) (run : Run),
    (run.inScope r).work? room ts = (run.work? room ts).map (·.inScope r)
  | _, [], _ => rfl
  | 0, _ :: _, _ => rfl
  | room + 1, t :: ts, run => by
    have hone : (run.inScope r).carryOut? (room + 1) t =
        (run.carryOut? (room + 1) t).map (·.inScope r) := by
      rw [carryOut?_succ, carryOut?_succ, perform_inScope]
      exact work?_inScope room _ _
    rw [work?_cons, work?_cons, hone, Option.bind_map, Option.map_bind]
    exact congrArg (Option.bind _) (funext fun run' => work?_inScope (room + 1) ts run')

end Run

namespace Session

variable (s : Session) (r : Registers)

theorem complete?_inScope (o : Onset) (room : Nat) :
    complete? (o.inScope r) room = (complete? o room).map fun x => (x.1.inScope r, x.2) := by
  have hwork : Run.work? { session := (o.inScope r).session, aborted := (o.inScope r).aborted }
      room (o.inScope r).tasks =
        (Run.work? { session := o.session, aborted := o.aborted } room o.tasks).map (·.inScope r) :=
    Run.work?_inScope r room o.tasks { session := o.session, aborted := o.aborted }
  have htasks : (o.inScope r).tasks = o.tasks := rfl
  unfold complete?
  rw [hwork, htasks, Option.map_map, Option.map_map]
  refine congrArg (Option.map · _) (funext fun run => ?_)
  simp only [Function.comp_apply]
  split <;> rfl

theorem press?_inScope (k : Key) (room : Nat) :
    (s.inScope r).press? k room = (s.press? k room).map fun x => (x.1.inScope r, x.2) := by
  unfold press?
  rw [current_inScope]
  cases s.current with
  | none => rfl
  | some name =>
    simp only [arrive_inScope]
    exact complete?_inScope r _ room

theorem timeout?_inScope (room : Nat) :
    (s.inScope r).timeout? room = (s.timeout? room).map fun x => (x.1.inScope r, x.2) := by
  unfold timeout?
  rw [typeahead_inScope]
  cases s.typeahead.map with
  | none => rfl
  | some name =>
    have hcomplete : complete? ((s.inScope r).lapse name) room =
        (complete? (s.lapse name) room).map fun x => (x.1.inScope r, x.2) :=
      complete?_inScope r (s.lapse name) room
    simp only [hcomplete, Option.map_map]
    rfl

/-! ### What a host calls in a scope -/

/-- What a host can do in a scope: have a key typed, let time pass without
one, go over to a mode, or have a command line carried out. -/
inductive HostCall where
  | key (k : Key)
  | timeout
  | mode (request : ModeRequest)
  | command (line : List Char)
  deriving DecidableEq, Repr

/-- The session after a call, if its work ends. -/
def hostCall? (s : Session) (c : HostCall) (room : Nat) : Option Session :=
  match c with
  | .key k => (s.press? k room).map (·.1)
  | .timeout => (s.timeout? room).map (·.1)
  | .mode request => some (s.changeMode request)
  | .command line => some { s with editor := (ExCommand.run s.editor line).1 }

/-- The session after calls one after the other. -/
def hostCalls? (s : Session) (cs : List HostCall) (room : Nat := stackRoom) : Option Session :=
  cs.foldlM (fun s c => s.hostCall? c room) s

theorem hostCall?_inScope (c : HostCall) (room : Nat) :
    (s.inScope r).hostCall? c room = (s.hostCall? c room).map (·.inScope r) := by
  cases c with
  | key k =>
    simp only [hostCall?, press?_inScope, Option.map_map]
    rfl
  | timeout =>
    simp only [hostCall?, timeout?_inScope, Option.map_map]
    rfl
  | mode request => exact congrArg some (s.changeMode_inScope r request)
  | command line =>
    have hrun : ExCommand.run (s.inScope r).editor line =
        Editor.outcomeInScope r (ExCommand.run s.editor line) :=
      ExCommand.run_inScope s.editor r line
    simp only [hostCall?, hrun]
    rfl

/-- **Calls come to the same in a scope**, to the registers of the scope in
the place of the shared ones. -/
theorem hostCalls?_inScope (room : Nat) : ∀ (cs : List HostCall) (s : Session),
    (s.inScope r).hostCalls? cs room = (s.hostCalls? cs room).map (·.inScope r)
  | [], _ => rfl
  | c :: cs, s => by
    have hcons : ∀ s : Session, s.hostCalls? (c :: cs) room =
        (s.hostCall? c room).bind fun s => s.hostCalls? cs room := fun _ => rfl
    rw [hcons, hcons, hostCall?_inScope, Option.bind_map, Option.map_bind]
    exact congrArg (Option.bind _) (funext fun s' => hostCalls?_inScope room cs s')

/-- Begins a scope with registers of its own, all empty. -/
def enterScope (s : Session) : Session := { s with editor := s.editor.enterScope }

/-- Ends the scope: the shared registers are in use again. -/
def leaveScope (s : Session) : Session := { s with editor := s.editor.leaveScope }

/-- The session with other shared registers. -/
def withShared (s : Session) (r : Registers) : Session :=
  { s with editor := { s.editor with shared := r } }

/-- A session without a scope, and nothing in its registers. -/
def withoutRegisters (s : Session) : Session :=
  { s with editor := { s.editor with own := none, shared := {} } }

/-- A scope begins as if there had been nothing in the registers. -/
theorem enterScope_withShared :
    (s.withShared r).enterScope = s.withoutRegisters.inScope r := rfl

theorem enterScope_eq : s.enterScope = s.withoutRegisters.inScope s.editor.shared := rfl

/-- **A scope is isolated.** The shared registers are the same after any calls
made in it, and are in use again when it ends. The calls come to the same
session whatever the shared registers hold, but for these. -/
theorem scope_isolated (cs : List HostCall) (room : Nat) :
    (∀ s', s.enterScope.hostCalls? cs room = some s' →
      s'.editor.shared = s.editor.shared ∧ s'.leaveScope.editor.registers = s.editor.shared) ∧
    (s.withShared r).enterScope.hostCalls? cs room =
      (s.enterScope.hostCalls? cs room).map (·.withShared r) := by
  constructor
  · intro s' hcalls
    rw [enterScope_eq, hostCalls?_inScope] at hcalls
    obtain ⟨s₁, -, rfl⟩ := Option.map_eq_some_iff.mp hcalls
    exact ⟨rfl, rfl⟩
  · rw [enterScope_withShared, enterScope_eq, hostCalls?_inScope, hostCalls?_inScope,
      Option.map_map]
    rfl

/-- A session in which the unnamed register holds `S`. -/
def sharing : Session :=
  standard { text := ['a', 'b'], shared := { unnamed := some ⟨['S'], .text⟩ } }

/-- What is deleted in a scope goes to its own register. -/
theorem scope_isolated_deleting :
    ∃ s', sharing.enterScope.hostCalls? [.key (.char 'x')] = some s' ∧
      s'.editor.registers.unnamed = some ⟨['a'], .text⟩ ∧
      s'.leaveScope.editor.registers.unnamed = some ⟨['S'], .text⟩ := by
  have hcalls : (sharing.enterScope.hostCalls? [.key (.char 'x')]).map
      (·.editor.registers.unnamed) = some (some ⟨['a'], .text⟩) := by decide +kernel
  obtain ⟨s', hs', hunnamed⟩ := Option.map_eq_some_iff.mp hcalls
  refine ⟨s', hs', hunnamed, ?_⟩
  rw [((scope_isolated sharing {} _ _).1 s' hs').2]
  rfl

end Session
end Keywise
