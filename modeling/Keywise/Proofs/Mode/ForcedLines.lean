/-
# Whole lines, by an operator or by the mode

In Visual mode an operator takes whole lines if its key says so, or if lines
are selected. Both come to the same for a selection of characters that ends on
the line of the cursor (`Visual.operate_forced`): the lines are those of its
ends (`Visual.selected_forced`), and an operator looks at the selection only
to find what it applies to, and at nothing that is shown
(`Editor.presenting`).

Key definitions: `Editor.presenting`, `Key.registerPrefix`, `Visual.naming`,
`Visual.nameRead`.
Key theorems: `Operator.apply_presenting`, `Visual.selected_forced`,
`Visual.operate_forced`.
-/
import Keywise.Proofs.Mode.Asking
import Keywise.Proofs.Text.Ranges

namespace Keywise

/-! ### What is selected and what is shown -/

namespace Editor

/-- The editor with another selection and something else shown. -/
def presenting (e : Editor) (selection : Option Selection) (screen : Screen) : Editor :=
  { e with selection, screen }

variable (e : Editor) (selection : Option Selection) (screen : Screen)

@[simp]
theorem text_presenting : (e.presenting selection screen).text = e.text := rfl

@[simp]
theorem sameColumn_presenting (p : Nat) :
    Operator.sameColumn (e.presenting selection screen) p = Operator.sameColumn e p := rfl

@[simp]
theorem modifyRegisters_presenting (f : Registers → Registers) :
    (e.presenting selection screen).modifyRegisters f =
      (e.modifyRegisters f).presenting selection screen := by
  unfold presenting modifyRegisters
  cases e.own <;> rfl

@[simp]
theorem moveTo_presenting (p : Nat) (s : Stickiness) :
    (e.presenting selection screen).moveTo p s = (e.moveTo p s).presenting selection screen := by
  cases s <;> rfl

@[simp]
theorem settle_presenting (s : Stickiness) :
    (e.presenting selection screen).settle s = (e.settle s).presenting selection screen :=
  e.moveTo_presenting selection screen _ s

@[simp]
theorem replace_presenting (start len : Nat) (new : Text) :
    (e.presenting selection screen).replace start len new =
      (e.replace start len new).presenting selection screen := rfl

@[simp]
theorem request_presenting (name : ModeName) (args : List ModeArg) :
    (e.presenting selection screen).request name args =
      (e.request name args).presenting selection screen := rfl

end Editor

/-- **What an operator does to a range** it does whatever is selected and
shown. -/
@[simp]
theorem Operator.apply_presenting (op : Operator) (e : Editor) (selection : Option Selection)
    (screen : Screen) (r : Range) (kind : TextKind) (register : Option Char) :
    op.apply (e.presenting selection screen) r kind register =
      (op.apply e r kind register).presenting selection screen := by
  unfold apply
  cases op <;> simp

namespace Visual

/-! ### The lines that are selected -/

section

variable {e : Editor} {anchor head : Nat} {kind : SelectionKind}

/-- **Characters that are selected**, or lines, are widened to the lines from
one end of the selection to the other. -/
theorem selected_forced (hsel : e.selection = some ⟨anchor, head, kind⟩)
    (hlen : e.text.length ≤ Offset.max)
    (hplaced : e.text = [] ∨ anchor < e.text.length ∧ head < e.text.length) :
    selected e true = (.lines e.text anchor head, .lines) := by
  cases kind with
  | lines => simp [selected, Editor.selectionKind, hsel, Selection.range]
  | characters =>
    have hlines := Range.lines_through hlen hplaced
    simp [selected, Editor.selectionKind, hsel, Selection.range, hlines]

theorem selected_of_lines (hsel : e.selection = some ⟨anchor, head, .lines⟩)
    (wholeLines : Bool) : selected e wholeLines = (.lines e.text anchor head, .lines) := by
  simp [selected, Editor.selectionKind, hsel, Selection.range]

/-- **An operator that takes whole lines** does to a selection what it would do
to the selection of the lines from its anchor to the cursor, if it ends on the
line of the cursor. -/
theorem operate_forced (hsel : e.selection = some ⟨anchor, head, kind⟩)
    (hlen : e.text.length ≤ Offset.max)
    (hplaced : e.text = [] ∨ anchor < e.text.length ∧ head < e.text.length)
    (hline : e.text.lineAt head = e.text.lineAt e.cursor) (op : Operator) (screen : Screen)
    (register : Option Char) :
    operate (e.presenting (some ⟨anchor, e.cursor, .lines⟩) screen) op false register =
      (operate e op true register).presenting (some ⟨anchor, e.cursor, .lines⟩) screen := by
  have hsame : selected (e.presenting (some ⟨anchor, e.cursor, .lines⟩) screen) false =
      selected e true := by
    rw [selected_forced hsel hlen hplaced, selected_of_lines rfl, Editor.text_presenting,
      Range.lines_congr rfl hline]
  unfold operate
  simp only [hsame, Operator.apply_presenting, Editor.settle_presenting, Editor.request_presenting]
  split <;> rfl

end

/-! ### Keys -/

/-- Nothing of a command has been typed but, perhaps, the name of a register. -/
def naming (kind : SelectionKind) (register : Option Char) : Visual := { kind, register }

/-- The register that is named when `c` has been typed for a name. -/
def nameRead (register : Option Char) (c : Char) : Option Char :=
  if isRegisterName c then some c else register

variable (kind : SelectionKind) (register : Option Char) (e : Editor)

theorem handle_quote : (naming kind register).handle e (.char '"') =
    ({ naming kind register with awaitsName := true }, e, true) := rfl

theorem handle_name (c : Char) :
    Visual.handle { naming kind register with awaitsName := true } e (.char c) =
      (naming kind (nameRead register c), e, true) := rfl

theorem handle_switch : (idle .characters).handle e (.char 'V') =
    (idle .characters,
      e.request .linewiseVisual [.anchor ((e.selection.map (·.anchor)).getD e.cursor)], true) :=
  rfl

theorem operatorOf?_char (op : Operator) : operatorOf? op.char = some (op, false) := by
  cases op <;> rfl

end Visual

/-- The keys that name registers, one after the other. -/
def Key.registerPrefix (names : List Char) : List Key :=
  names.flatMap fun c => [.char '"', .char c]

end Keywise
