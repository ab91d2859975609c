/-
# Typing vertical motions

In an idle Normal mode in which no key is mapped, `j` and `k` and the counts
before them are typed one after the other. Each of them is a vertical motion
(`Session.InNormal.exists_calls?_vertical`), so wherever they lead, the column
that was aimed at first is kept (`Session.vertical_motions_keep_column`).

Key definitions: `VerticalMove.keys`.
Key theorems: `Normal.handle_vertical`, `Session.InNormal.exists_calls?_verticals`,
`Session.vertical_motions_keep_column`.
-/
import Keywise.Proofs.Motion.Columns
import Keywise.Proofs.Session.Counts

namespace Keywise

namespace VerticalMove

variable (v : VerticalMove)

/-- The number typed before the motion, if there is one. -/
def countKeys : List Key := (v.count.map Key.decimal).getD []

def key : Key := .char (if v.down then 'j' else 'k')

def keys : List Key := v.countKeys ++ [v.key]

end VerticalMove

namespace Normal

theorem reads_countKeys (v : VerticalMove) : idle.Reads v.countKeys { count := v.count } := by
  unfold VerticalMove.countKeys
  cases hcount : v.count with
  | none => exact .nil idle
  | some n =>
    obtain ⟨hone, hlimit⟩ := v.count_mem n hcount
    have hreads := reads_number hone
    rwa [Nat.min_eq_left hlimit] at hreads

theorem total_count {v : VerticalMove} : total { count := v.count } = v.count := by
  cases hcount : v.count with
  | none => rfl
  | some n =>
    show some (min (n * 1) Count.limit) = some n
    rw [Nat.mul_one, Nat.min_eq_left (v.count_mem n hcount).2]

theorem handle_vertical {v : VerticalMove} {e e' : Editor}
    (h : e.follow v.motion v.count = (e', none)) :
    handle { count := v.count } e v.key = (idle, e', true) := by
  have hattempt : attempt { count := v.count } e v.key =
      finish (e.follow v.motion (total { count := v.count })) := by
    unfold VerticalMove.key VerticalMove.motion
    cases v.down <;> exact attempt_of_motion rfl rfl rfl (by decide) (fun _ => rfl) rfl fun _ => rfl
  unfold handle
  rw [hattempt, total_count, h]
  rfl

end Normal

namespace Session

variable {s : Session} {room : Nat}

theorem InNormal.exists_calls?_vertical (h : s.InNormal .idle) (hroom : 0 < room)
    (hbreaks : s.editor.text.ReturnsOnly) (hlen : s.editor.text.length ≤ Offset.max)
    (hrests : s.editor.Rests) (v : VerticalMove) :
    ∃ s' : Session, s'.InNormal .idle ∧ s'.editor = s.editor.stride v ∧
      ∀ cs, s.calls? (v.keys.map .key ++ cs) room = s'.calls? cs room := by
  obtain ⟨s₁, h₁, heditor, hcalls⟩ : ∃ s₁ : Session, s₁.InNormal { count := v.count } ∧
      s₁.editor = s.editor ∧
        ∀ cs, s.calls? (v.countKeys.map .key ++ cs) room = s₁.calls? cs room := by
    have hreads := Normal.reads_countKeys v
    cases hkeys : v.countKeys with
    | nil =>
      rw [hkeys] at hreads
      cases hcount : v.count
      · exact ⟨s, h, rfl, fun _ => rfl⟩
      · rw [hcount] at hreads
        cases hreads
    | cons k ks =>
      rw [hkeys] at hreads
      exact ⟨s.withNormal _, h.withNormal _, rfl,
        fun cs => InNormal.calls?_reads hroom cs hreads (List.cons_ne_nil _ _) h⟩
  have hfollow := Editor.follow_vertical hbreaks hlen hrests v
  have hhandle := Normal.handle_vertical hfollow
  have hgive : (s₁.give v.key).1 =
      Session.withNormal { s₁ with editor := s.editor.stride v } .idle := by
    rw [give_of_normal h₁.current, heditor, hhandle]
    exact serve_of_nil
      (s := Session.withNormal { s₁ with editor := s.editor.stride v } .idle)
      h.served.requests h.served.replays _
  have hnormal : InNormal { s₁ with editor := s.editor.stride v } { count := v.count } :=
    { current := h₁.current
      served := ⟨h.served.requests, h.served.replays⟩
      untyped := h₁.untyped
      unmapped := h.unmapped }
  refine ⟨(s₁.give v.key).1, hgive ▸ hnormal.withNormal .idle, hgive ▸ rfl, fun cs => ?_⟩
  rw [VerticalMove.keys, List.map_append, List.append_assoc, hcalls]
  exact h₁.calls?_key hroom v.key cs

theorem InNormal.exists_calls?_verticals (hroom : 0 < room) (vs : List VerticalMove) :
    ∀ {s : Session}, s.InNormal .idle → s.editor.text.ReturnsOnly →
      s.editor.text.length ≤ Offset.max → s.editor.Rests →
        ∃ s' : Session, s.calls? ((vs.flatMap VerticalMove.keys).map .key) room = some s' ∧
          s'.InNormal .idle ∧ s'.editor = vs.foldl Editor.stride s.editor := by
  induction vs with
  | nil => exact fun h _ _ _ => ⟨_, rfl, h, rfl⟩
  | cons v vs ih =>
    intro s h hbreaks hlen hrests
    obtain ⟨s₁, h₁, heditor, hcalls⟩ := h.exists_calls?_vertical hroom hbreaks hlen hrests v
    have hrests₁ : s₁.editor.Rests := heditor ▸ Editor.rests_stride hbreaks hrests v
    have htext : s₁.editor.text = s.editor.text := heditor ▸ rfl
    obtain ⟨s', hs', h', heditor'⟩ := ih h₁ (htext ▸ hbreaks) (htext ▸ hlen) hrests₁
    refine ⟨s', ?_, h', ?_⟩
    · rw [List.flatMap_cons, List.map_append, hcalls, hs']
    · rw [heditor', heditor, List.foldl_cons]

/-- **Vertical motions remember their column.** In an idle Normal mode in which
no key is mapped, any sequence of `j` and `k` with their counts leads to the
line that the counts add up to, each sum clamped to the lines there are. There
the cursor is at the column that was kept, or else at that from which it
started, or on the last character if the line is shorter; and that column is
kept from then on. So `j` and then `k` by as many lines lead back where there
are so many lines and no column was kept. -/
theorem vertical_motions_keep_column (h : s.InNormal .idle)
    (hbreaks : s.editor.text.ReturnsOnly) (hlen : s.editor.text.length ≤ Offset.max)
    (hrests : s.editor.Rests) (hroom : 0 < room) :
    let e := s.editor
    let typed (vs : List VerticalMove) := s.calls? ((vs.flatMap VerticalMove.keys).map .key) room
    (∀ vs, vs ≠ [] → ∃ s' : Session, typed vs = some s' ∧ s'.InNormal .idle ∧
      s'.editor.text = e.text ∧
        s'.editor.OnColumn (vs.foldl (fun n v => v.target e.text.lastLine n) e.line.number)
          (e.sticky.getD (.column (e.cursor - e.line.start)))) ∧
      ∀ down up : VerticalMove, down.down = true → up.down = false → up.lines = down.lines →
        e.sticky = none → e.line.number + down.lines ≤ e.text.lastLine →
          ∃ s' : Session, typed [down, up] = some s' ∧ s'.editor.cursor = e.cursor := by
  intro e typed
  refine ⟨fun vs hne => ?_, fun down up hdown hup hlines hsticky hlast => ?_⟩
  · obtain ⟨s', hs', h', heditor⟩ :=
      InNormal.exists_calls?_verticals hroom vs h hbreaks hlen hrests
    refine ⟨s', hs', h', ?_, ?_⟩
    · rw [heditor, Editor.text_foldl_stride]
    · rw [heditor]
      exact Editor.onColumn_foldl_stride hbreaks hrests hne
  · obtain ⟨s', hs', -, heditor⟩ :=
      InNormal.exists_calls?_verticals hroom [down, up] h hbreaks hlen hrests
    refine ⟨s', hs', ?_⟩
    rw [heditor]
    exact Editor.cursor_stride_stride hbreaks hrests hsticky hdown hup hlines hlast

/-- A short line and an empty one between two long ones. -/
def uneven : Session := standard
  { text := ['o', 'n', 'e', '\n', 'a', '\r', '\n', '\n', 't', 'w', 'o', '\n'], cursor := 2 }

/-- Down through the short lines, and up again to where it started. -/
theorem vertical_motions_keep_column_uneven :
    let typed (cs : List Char) := uneven.calls? (cs.map fun c => .key (.char c))
    (∃ s', typed ['2', 'j', 'j'] = some s' ∧ s'.editor.OnColumn 3 (.column 2)) ∧
      (typed ['3', 'j', '3', 'k']).map (·.editor.cursor) = some 2 := by
  intro typed
  have hidle : uneven.InNormal .idle := ⟨rfl, ⟨rfl, rfl⟩, rfl, by decide⟩
  let move (down : Bool) (n : Nat) (h : 1 ≤ n ∧ n ≤ Count.limit) : VerticalMove :=
    ⟨down, some n, fun _ hn => Option.some.inj hn ▸ h⟩
  have hrests : uneven.editor.Rests := by
    show uneven.editor.text.rest uneven.editor.cursor = uneven.editor.cursor
    decide
  have hroom : 0 < stackRoom := by decide
  obtain ⟨hcolumn, hback⟩ :=
    vertical_motions_keep_column hidle (by decide) (by decide) hrests hroom
  obtain ⟨s₁, hs₁, -, -, hon⟩ := hcolumn [move true 2 (by decide), ⟨true, none, nofun⟩]
    (List.cons_ne_nil _ _)
  obtain ⟨s₂, hs₂, hcursor⟩ := hback (move true 3 (by decide)) (move false 3 (by decide))
    rfl rfl rfl rfl (by decide)
  exact ⟨⟨s₁, hs₁, hon⟩, congrArg (Option.map _) hs₂ |>.trans (congrArg some hcursor)⟩

end Session
end Keywise
