/-
# Edits within a row, in a session

The commands on characters change the row of the cursor and no other, whatever
their count and however long the row is (`Session.edits_own_row`). They are
given to Normal mode, with a register and a count typed before if there are any;
it has done all there is to do to the text and the registers when another mode
is gone over to (`Session.At.give_normal`).

Key definitions: `Session.TookColumns`.
Key theorems: `Session.At.give_normal`, `Session.At.give_charCommand`,
`Session.At.give_replacement`, `Session.edits_own_row`.
-/
import Keywise.Proofs.Mode.CharCommands
import Keywise.Proofs.Session.Unfinished
import Keywise.Proofs.Session.WholeLines

namespace Keywise
namespace Session

variable {s : Session} {n : Normal} {e : Editor}

/-- **What Normal mode has done with a key** is all there is, if it asks for no
other mode; and if it asks for one, text and registers stay as they are then. -/
theorem At.give_normal (h : s.At (.normal n) e) (he : e.Served) {k : Key} {n' : Normal}
    {e' : Editor} {used : Bool} (hhandle : n.handle e k = (n', e', used)) :
    (e'.requests = [] → (s.give k).1.At (.normal n') e') ∧
      ∀ r, e'.requests = [r] → (s.give k).1.current = some r.name ∧
        (s.give k).1.editor.text = e'.text ∧ (s.give k).1.editor.registers = e'.registers := by
  have hmode : Mode.handle (.normal n) e k = (.normal n', e', used) :=
    congrArg (fun p : Normal × Editor × Bool => (Mode.normal p.1, p.2)) hhandle
  obtain ⟨m', e'', hsettles, hat⟩ := h.give_of_asks he (Mode.asks_normal n e k)
  rw [hmode] at hsettles
  cases hsettles with
  | stays hserved =>
    refine ⟨fun _ => hat, fun r hr => ?_⟩
    have hone := hserved.requests.symm.trans hr
    cases hone
  | @goes r' m' hrequests _ _ hname _ =>
    refine ⟨fun hnone => ?_, fun r hr => ⟨?_, ?_, ?_⟩⟩
    · have hone := hnone.symm.trans hrequests
      cases hone
    · obtain rfl := (List.cons.inj (hrequests.symm.trans hr)).1
      rw [(current_of_currentMode? hat.current).1, ← hname]
      exact congrArg some (Mode.name_enter m' _ _)
    · rw [hat.editor]
      exact Mode.text_goTo _ _ _
    · rw [hat.editor]
      exact Mode.registers_goTo _ _ _ _

/-- The columns from `a` to `b` of row `i` have been removed, and the mode is the
one to go on in. -/
structure TookColumns (s : Session) (e : Editor) (op : Operator) (i a b : Nat)
    (register : Option Char) : Prop where
  took : e.TookColumns s.editor i a b register
  current : s.current = some (if op = .change then .insert else .normal)

theorem At.tookColumns_give (h : s.At (.normal n) e) (he : e.Served) {k : Key} {op : Operator}
    {g : Range} {register : Option Char} {i a b : Nat}
    (hhandle : n.handle e k = (.idle, Normal.operate op e g .text register, true))
    (hop : op ≠ .yank)
    (htook : e.TookColumns (Normal.operate op e g .text register) i a b register) :
    (s.give k).1.TookColumns e op i a b register := by
  obtain ⟨hstays, hgoes⟩ := h.give_normal he hhandle
  have hrequests := (Normal.edited_operate op e g .text register).requests
  rw [he.requests, List.nil_append] at hrequests
  cases op with
  | yank => exact absurd rfl hop
  | delete =>
    have hat := hstays hrequests
    exact ⟨hat.editor ▸ htook, (current_of_currentMode? hat.current).1⟩
  | change =>
    obtain ⟨hcurrent, htext, hregisters⟩ := hgoes _ hrequests
    exact ⟨htook.of_eq htext hregisters, hcurrent⟩

variable {A B : List Text} {r : Text} {c : Nat}

theorem At.give_charCommand (h : s.At (.normal n) e) (he : e.Served) (hstands : e.Stands A r B c)
    (hlen : e.text.length ≤ Offset.max) (hs : n.awaiting = .command) (hop : n.operator = none)
    (k : CharCommand) (hcount : k.counts = false → n.total = none) :
    let s' := (s.give (.char k.char)).1
    let a := k.first c (n.total.getD 1)
    let b := k.stop c (n.total.getD 1) r.length
    if a = b ∧ k.spares = true then s'.editor = e ∧ s'.current = some .normal
    else s'.TookColumns e k.operator A.length a b n.register := by
  intro s' a b
  obtain ⟨g, hspans, hhandle⟩ := Normal.handle_charCommand k hs hop hcount hstands hlen
  have hnothing : g.length = 0 ↔ a = b := by
    have hle : a ≤ b := hspans.le
    have hwidth : g.length = b - a := hspans.length_eq
    omega
  by_cases hspared : a = b ∧ k.spares = true
  · rw [if_pos ⟨hnothing.mpr hspared.1, hspared.2⟩] at hhandle
    have hat := (h.give_normal he hhandle).1 he.requests
    rw [if_pos hspared]
    exact ⟨hat.editor, (current_of_currentMode? hat.current).1⟩
  · rw [if_neg fun hn => hspared ⟨hnothing.mp hn.1, hn.2⟩] at hhandle
    rw [if_neg hspared]
    exact h.tookColumns_give he hhandle k.operator_ne_yank
      (Normal.tookColumns_operate k.operator_ne_yank hspans hstands.whole n.register)

theorem At.give_replacement (h : s.At (.normal n) e) (he : e.Served) (hstands : e.Stands A r B c)
    (hs : n.awaiting = .command) (hop : n.operator = none) {ch : Char}
    (hch : Text.isBreak ch = false) :
    let s' := ((s.give (.char 'r')).1.give (.char ch)).1
    let count := n.total.getD 1
    s'.current = some .normal ∧
      if c + count ≤ r.length then
        s'.editor.text.rows =
            Rows.withColumns e.text.rows A.length c (c + count) (List.replicate count ch) ∧
          s'.editor.registers = e.registers
      else s'.editor = e.report (.pastLineEnd "replace") := by
  intro s' count
  -- the character is waited for with the count and the register kept
  have hat := h.give_of_extends he (.replacement (Key.char?_char 'r') hs hop)
  have hreplaced := Normal.handle_replacement rfl hstands hch
    (s := { count := n.total, register := n.register, awaiting := .replacement })
  rw [Normal.total_waiting] at hreplaced
  by_cases hin : c + count ≤ r.length
  · rw [if_pos hin] at hreplaced ⊢
    obtain ⟨e', hhandle, hrows, hregisters, hrequests⟩ := hreplaced
    have hat' := (hat.give_normal he hhandle).1 (hrequests.trans he.requests)
    exact ⟨(current_of_currentMode? hat'.current).1, hat'.editor ▸ hrows,
      hat'.editor ▸ hregisters⟩
  · rw [if_neg hin] at hreplaced ⊢
    have hat' := (hat.give_normal he hreplaced).1 he.requests
    exact ⟨(current_of_currentMode? hat'.current).1, hat'.editor⟩

/-- **Commands on characters edit their own row.** Wherever the line feed is the
only break, what a key removes with count `count` from column `c` of row `i` is the
columns from `CharCommand.first` to `CharCommand.stop` of that row. The other rows
are as before, their number is, and the register that is named gets what stood
at these columns. The keys that delete counted characters do nothing at all if
there are none. Characters are replaced if as many as are counted are there;
otherwise nothing changes and an error is reported. -/
theorem edits_own_row (h : s.At (.normal n) e) (he : e.Served) (hfeeds : e.text.FeedsOnly)
    (hlen : e.text.length ≤ Offset.max) (hrests : e.Rests) (hs : n.awaiting = .command)
    (hop : n.operator = none) :
    let i := e.text.rowAt e.cursor
    let c := e.text.columnAt e.cursor
    let len := (e.text.rows.getD i []).length
    let count := n.total.getD 1
    (∀ k : CharCommand, (k.counts = false → n.total = none) →
      let s' := (s.give (.char k.char)).1
      let a := k.first c count
      let b := k.stop c count len
      if a = b ∧ k.spares = true then s'.editor = e ∧ s'.current = some .normal
      else s'.TookColumns e k.operator i a b n.register) ∧
    ∀ ch, Text.isBreak ch = false →
      let s' := ((s.give (.char 'r')).1.give (.char ch)).1
      s'.current = some .normal ∧
        if c + count ≤ len then
          s'.editor.text.rows =
              Rows.withColumns e.text.rows i c (c + count) (List.replicate count ch) ∧
            s'.editor.registers = e.registers
        else s'.editor = e.report (.pastLineEnd "replace") := by
  intro i c len count
  obtain ⟨A, r, B, hrow, hstands⟩ := hrests.exists_stands hfeeds
  have hlength : len = r.length := by
    show (e.text.rows.getD (e.text.rowAt e.cursor) []).length = r.length
    rw [← hrow, hstands.rows]
    simp
  refine ⟨fun k hcount => ?_, fun ch hch => ?_⟩
  · have hremoved := h.give_charCommand he hstands hlen hs hop k hcount
    rw [← hlength, hrow] at hremoved
    exact hremoved
  · have hreplaced := h.give_replacement he hstands hs hop hch
    rw [← hlength, hrow] at hreplaced
    exact hreplaced

/-- Of three rows the second is edited: more characters than it has are deleted
from its second one on, and more than it has cannot be replaced. -/
theorem edits_own_row_of_three :
    let s := configured { text := ['a', '\n', 'b', 'c', 'd', '\n', 'e'], cursor := 3 } {}
    let deleted := ((s.give (.char '9')).1.give (.char 'x')).1
    let replaced := (((s.give (.char '3')).1.give (.char 'r')).1.give (.char 'z')).1
    deleted.editor.text.rows = [['a'], ['b'], ['e']] ∧
      deleted.editor.registers.read none = some ⟨['c', 'd'], .text⟩ ∧
      replaced.editor.text.rows = [['a'], ['b', 'c', 'd'], ['e']] := by
  intro s deleted replaced
  let s₉ := (s.give (.char '9')).1
  let s₃ := (s.give (.char '3')).1
  have hat₉ : s₉.At (.normal { count := some 9 }) s.editor := ⟨rfl, rfl, rfl⟩
  have hat₃ : s₃.At (.normal { count := some 3 }) s.editor := ⟨rfl, rfl, rfl⟩
  have hfeeds : s.editor.text.FeedsOnly := by decide
  have hlen : s.editor.text.length ≤ Offset.max := by decide
  have hrests : s.editor.Rests := by
    unfold Editor.Rests
    decide
  have hcolumn : s.editor.text.columnAt s.editor.cursor = 1 := by decide
  have hrow : s.editor.text.rowAt s.editor.cursor = 1 := by decide
  have hnine : Normal.total { count := some 9 } = some 9 := by decide
  have hthree : Normal.total { count := some 3 } = some 3 := by decide
  have hlength : (s.editor.text.rows.getD 1 []).length = 3 := by decide
  have hdeleted := (edits_own_row hat₉ ⟨rfl, rfl⟩ hfeeds hlen hrests rfl rfl).1 .delete nofun
  have hreplaced := ((edits_own_row hat₃ ⟨rfl, rfl⟩ hfeeds hlen hrests rfl rfl).2 'z' rfl).2
  simp only [hcolumn, hrow, hnine, hlength] at hdeleted
  simp only [hcolumn, hrow, hthree, hlength] at hreplaced
  rw [if_neg (by decide)] at hdeleted hreplaced
  have htook : deleted.TookColumns s.editor .delete 1 1 3 none := hdeleted
  refine ⟨?_, ?_, ?_⟩
  · rw [htook.took.rows]
    decide
  · rw [htook.took.registers]
    decide
  · have hlast : ((s₃.give (.char 'r')).1.give (.char 'z')).1 = replaced := rfl
    rw [← hlast, hreplaced]
    decide

end Session
end Keywise
