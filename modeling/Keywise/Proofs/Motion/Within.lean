/-
# Motions and text objects stay within the text

No motion leads past the end of the text from an offset that is not past it
(`Motion.destination_le`), whatever its count and the column aimed at, and the
range of a text object that starts on a character ends within the text
(`TextObject.stays_within`). One step of a motion that repeats a step stays
within, and so do all. A motion on a line ends at a place of that line, and the
line within the text.

The ranges are up to a motion's end, through it or over its lines, and take in
no more than is there (`Motion.span_right_le`); those over lines are in order
since no line ends before an earlier one starts
(`Text.start_lineAt_le_nextStart`). The objects that add one to an
end do so to that of a run or of a sub-word, which is before the end of the text
if they start on a character (`Words.runEndAfter_le`, `climbSubwords_le`).

Key theorems: `Motion.destination_le`, `Motion.span_right_le`,
`TextObject.stays_within`.
-/
import Mathlib.Data.Set.Function
import Keywise.TextObject
import Keywise.Proofs.Motion.LineCounts
import Keywise.Proofs.Motion.Searches
import Keywise.Proofs.Motion.SubwordObject
import Keywise.Proofs.Motion.Targets
import Keywise.Proofs.Text.Splices

namespace Keywise

variable {t : Text} {p : Nat}

theorem repeated_le {step : Nat → Nat} {len : Nat} (hstep : ∀ p ≤ len, step p ≤ len) (n : Nat)
    (hp : p ≤ len) : repeated step n p ≤ len := by
  rw [repeated_eq_iterate]
  exact Set.MapsTo.iterate (s := Set.Iic len) hstep n hp

/-! ### Lines -/

namespace LineMotion

theorem onLine_le (sticky : Option Sticky) (column : Nat) (l : Line) :
    Sticky.onLine sticky column l ≤ l.stop := by
  unfold Sticky.onLine Line.stop
  split
  · exact Nat.le_refl _
  · exact Nat.add_le_add_left (Nat.min_le_right _ _) _
  · exact Nat.add_le_add_left (Nat.min_le_right _ _) _

theorem lineAway_stop_le (t : Text) (l : Line) (delta : Int) :
    (lineAway t l delta).stop ≤ t.length :=
  Text.stop_line_le (Nat.lt_of_le_of_lt (Nat.min_le_right _ _) t.lastLine_lt)

theorem namedLine_stop_le (t : Text) (count : Option Nat) (default : Nat) :
    (namedLine t count default).stop ≤ t.length :=
  Text.stop_line_le (Nat.lt_of_le_of_lt (Nat.min_le_right _ _) t.lastLine_lt)

theorem firstNonBlank_le_stop (t : Text) (l : Line) : t.firstNonBlank l ≤ l.stop :=
  Nat.le_trans (t.firstNonBlank_bounds l).2 l.last_le_stop

theorem destination_le (m : LineMotion) (sticky : Option Sticky) (count : Option Nat)
    (hp : p ≤ t.length) : m.destination t sticky count p ≤ t.length := by
  have hline := t.stop_lineAt_le_length p
  have hstart := t.start_lineAt_le p
  have haway := lineAway_stop_le t (t.lineAt p)
  have hnamed := namedLine_stop_le t count
  by_cases hm : m = currentLines
  · rw [(destination_of_lineAway rfl rfl sticky).2.2 hm]
    exact Nat.le_trans (Line.start_le_stop _) (haway _)
  · unfold destination
    cases m
    case currentLines => exact absurd rfl hm
    all_goals simp only
    case left | right | lineStart => omega
    case up | down => exact Nat.le_trans (onLine_le ..) (haway _)
    case firstNonBlank => exact Nat.le_trans (firstNonBlank_le_stop ..) hline
    case lineEnd => exact Nat.le_trans (Line.last_le_stop _) (haway _)
    case firstLine | lastLine => exact Nat.le_trans (firstNonBlank_le_stop ..) (hnamed _)

end LineMotion

/-! ### Words and runs -/

namespace Words

variable {big : Bool}

theorem forward_le (big : Bool) (t : Text) (p : Nat) : forward big t p ≤ t.length := by
  rcases forward_spec big t p with ⟨⟨hstop, -⟩, -⟩ | ⟨-, heq⟩
  · exact Nat.le_of_lt hstop.1
  · exact Nat.le_of_eq heq

theorem wordEnd_le (big : Bool) (t : Text) (p : Nat) : wordEnd big t p ≤ t.length := by
  rcases wordEnd_spec big t p with ⟨⟨hend, -⟩, -⟩ | ⟨-, heq⟩
  · exact Nat.le_of_lt hend.1
  · exact Nat.le_trans (Nat.le_of_eq heq) (Nat.sub_le _ _)

theorem runStartFrom_le : ∀ p, runStartFrom big t p ≤ p
  | 0 => Nat.le_refl 0
  | p + 1 => by
    rw [runStartFrom]
    split
    · exact Nat.le_succ_of_le (runStartFrom_le p)
    · exact Nat.le_refl _

theorem runStart_le (big : Bool) (t : Text) (p : Nat) : runStart big t p ≤ p :=
  Nat.le_trans (runStartFrom_le _) (Nat.min_le_left _ _)

theorem runEndFrom_le : ∀ n p, runEndFrom big t p n ≤ p + n
  | 0, p => Nat.le_refl p
  | n + 1, p => by
    have ih := runEndFrom_le n (p + 1)
    rw [runEndFrom]
    split <;> omega

theorem runEnd_le (big : Bool) (t : Text) (p : Nat) : runEnd big t p ≤ max p (t.length - 1) := by
  have hle : runEndFrom big t p (t.length - 1 - p) ≤ p + (t.length - 1 - p) := runEndFrom_le _ p
  unfold runEnd
  omega

theorem runEndAfter_le (big : Bool) (t : Text) : ∀ n p,
    runEndAfter big t p n ≤ max p (t.length - 1)
  | 0, p => Nat.le_max_left _ _
  | n + 1, p => by
    have hrun := runEnd_le big t (p + 1)
    have ih := runEndAfter_le big t n (runEnd big t (p + 1))
    rw [runEndAfter]
    split <;> omega

end Words

namespace WordStep

theorem destination_le (s : WordStep) (big : Bool) (n : Nat) (hp : p ≤ t.length) :
    s.destination big t n p ≤ t.length := by
  cases s with
  | forward => exact repeated_le (fun q _ => Words.forward_le big t q) n hp
  | backward => exact repeated_le (fun q hq => Nat.le_trans Words.backward_le hq) n hp
  | wordEnd => exact repeated_le (fun q _ => Words.wordEnd_le big t q) n hp
  | runStart => exact Nat.le_trans (Words.runStart_le big t p) hp
  | runEnd =>
    have hrun := Words.runEnd_le big t p
    have hafter := Words.runEndAfter_le big t (n - 1) (Words.runEnd big t p)
    show Words.runEndAfter big t (Words.runEnd big t p) (n - 1) ≤ t.length
    omega

theorem destination_runEnd_lt (big : Bool) (n : Nat) (hp : p < t.length) :
    runEnd.destination big t n p < t.length := by
  have hrun := Words.runEnd_le big t p
  have hafter := Words.runEndAfter_le big t (n - 1) (Words.runEnd big t p)
  show Words.runEndAfter big t (Words.runEnd big t p) (n - 1) < t.length
  omega

end WordStep

/-! ### Sub-words -/

namespace SubwordStep

theorem locate_le (s : SubwordStep) (origin : Nat) (hp : p ≤ t.length) :
    s.locate t origin p ≤ t.length := by
  have hlen := length_window t origin s hp
  have hright : (s.window t origin p).right ≤ t.length :=
    Nat.max_le.mpr ⟨once_wordStep_le t origin s, hp⟩
  have hle := (s.window t origin p).left_le_right
  cases s with
  | backward =>
    rcases lastIn_locate_backward t origin p with ⟨q, hq, heq⟩ | ⟨-, heq⟩
    · have hlt := hq.1.bounds.2
      omega
    · omega
  | wordEnd =>
    rcases firstIn_locate_wordEnd t origin hp with ⟨q, hq, heq⟩ | ⟨-, heq⟩
    · have hlt := hq.1.lt_length
      omega
    · omega
  | forward =>
    rcases firstIn_locate_forward t origin hp with ⟨q, hq, heq⟩ | ⟨-, heq⟩
    · have hlt := hq.1.bounds.2
      omega
    · omega

theorem once_le (s : SubwordStep) (origin : Nat) (hp : p ≤ t.length) :
    s.once t origin p ≤ t.length := by
  unfold once
  simp only
  split
  · next hstill => exact locate_le s origin hstill.2.2
  · exact locate_le s origin hp

theorem destination_le (s : SubwordStep) (n : Nat) (hp : p ≤ t.length) :
    s.destination t n p ≤ t.length :=
  repeated_le (fun _ => once_le s p) n hp

end SubwordStep

/-! ### Searches -/

namespace CharSearch

theorem stopBeside_le {s : CharSearch} {q : Nat} (hq : q < t.length) :
    s.stopBeside q ≤ t.length := by
  unfold stopBeside
  split
  · split <;> omega
  · exact Nat.le_of_lt hq

theorem destination_le {s : CharSearch} {again : Bool} {n q : Nat} (hn : 1 ≤ n)
    (h : s.destination again t n p = some q) : q ≤ t.length := by
  have hlists := lists_candidates s t p
  rw [destination_eq hlists again hn, Option.map_eq_some_iff] at h
  obtain ⟨r, hr, rfl⟩ := h
  obtain ⟨⟨htarget, -⟩, -⟩ := wanted_spec hlists hr
  exact stopBeside_le (List.getElem?_eq_some_iff.mp htarget).1

end CharSearch

namespace PatternSearch

theorem next?_mem {backward : Bool} {starts : List Nat} {q : Nat}
    (h : next? backward starts p = some q) : q ∈ starts := by
  unfold next? at h
  split at h <;> rw [Option.or_eq_some_iff] at h <;> rcases h with h | ⟨-, h⟩
  · exact List.mem_reverse.mp (List.mem_of_find?_eq_some h)
  · exact List.mem_of_getLast? h
  · exact List.mem_of_find?_eq_some h
  · exact List.mem_of_head? h

/-- **Whichever engine has found the starts**, a search stays within the text if
they are. -/
theorem landing_le {s : PatternSearch} {starts : List Nat} {n q : Nat}
    (hstarts : ∀ r ∈ starts, r ≤ t.length) (hp : p ≤ t.length)
    (h : s.landing starts n p = .ok q) : q ≤ t.length := by
  unfold landing at h
  split at h
  · cases h
  · obtain rfl := Except.ok.inj h
    refine repeated_le (fun r hr => ?_) n hp
    cases hnext : next? s.backward starts r with
    | none => exact hr
    | some r' => exact hstarts r' (next?_mem hnext)

theorem destination_le {s : PatternSearch} {n q : Nat} (hp : p ≤ t.length)
    (h : s.destination t n p = .ok q) : q ≤ t.length := by
  unfold destination at h
  cases hcompile : s.compile with
  | error e =>
    rw [hcompile] at h
    cases h
  | ok a =>
    rw [hcompile] at h
    have hstarts : ∀ r ∈ a.starts t, r ≤ t.length := fun _ => Automaton.le_length_of_mem_starts
    exact landing_le hstarts hp h

end PatternSearch

/-! ### All motions, and the ranges taken for them -/

namespace Motion

/-- **No motion leads past the end of the text.** -/
theorem destination_le (m : Motion) {sticky : Option Sticky} {count : Option Nat} {q : Nat}
    (hp : p ≤ t.length) (h : m.destination t sticky count p = .ok q) : q ≤ t.length := by
  cases m with
  | line m => exact Except.ok.inj h ▸ m.destination_le sticky count hp
  | word s big => exact Except.ok.inj h ▸ s.destination_le big (countOf count) hp
  | subword s => exact Except.ok.inj h ▸ s.destination_le (countOf count) hp
  | find s again recorded =>
    simp only [destination] at h
    split at h
    · next r hr => exact Except.ok.inj h ▸ CharSearch.destination_le (one_le_countOf count) hr
    · cases h
  | search s => exact PatternSearch.destination_le hp h

/-- **The range taken for a motion** is within the text if its ends are. -/
theorem span_right_le (m : Motion) {q : Nat} (hp : p ≤ t.length) (hq : q ≤ t.length) :
    (m.span t p q).right ≤ t.length := by
  have hmax : max p q ≤ t.length := Nat.max_le.mpr ⟨hp, hq⟩
  unfold span
  split
  · exact hmax
  · split
    · exact hmax
    · exact Nat.max_le.mpr ⟨Nat.min_le_right _ _, hmax⟩
  · exact (t.lineAt_bounds (max p q)).2

end Motion

/-! ### Text objects -/

theorem stopAt_le (limit q : Nat) : (stopAt limit q).1 ≤ limit := by
  unfold stopAt
  split
  · exact Nat.le_refl _
  · omega

theorem climbSubwords_le (t : Text) (cursor limit : Nat) (last : SubwordStep) : ∀ n p,
    (climbSubwords t cursor limit last n p).1 ≤ limit
  | 0, p => stopAt_le limit _
  | n + 1, p => by
    rw [climbSubwords]
    split
    · exact Nat.le_refl _
    · split
      · exact stopAt_le limit _
      · exact climbSubwords_le t cursor limit last n _

theorem subwordObject_right_le (outer : Bool) (count : Option Nat) (hp : p < t.length) :
    (subwordObject outer t count p).right ≤ t.length := by
  have hback := (locate_backward_bounds hp).2
  have hword : Words.wordEnd false t p < t.length := Words.wordEnd_lt_length hp
  have hreached := climbSubwords_le t p (Words.wordEnd false t p)
    (if outer then .forward else .wordEnd) (countOf count - 1) p
  unfold subwordObject
  refine Nat.max_le.mpr ⟨?_, ?_⟩
  · split <;> omega
  · generalize climbSubwords t p _ _ _ p = reached at hreached
    split <;> omega

namespace TextObject

/-- The objects made of words, of runs or of a part of a word. -/
def IsWordObject (o : TextObject) : Prop :=
  (∃ big, o = innerWord big ∨ o = outerWord big) ∨ ∃ outer, o = subword outer

variable {e : Editor} {count : Option Nat}

/-- The range of a motion is what it takes of the text, if it leads anywhere. -/
theorem region_motion (m : Motion) (e : Editor) (count : Option Nat) :
    ((motion m).region e count).2 =
      (m.destination e.text e.sticky count e.cursor).map (m.span e.text e.cursor) := by
  have hkept : (e.recording m).text = e.text ∧ (e.recording m).sticky = e.sticky ∧
      (e.recording m).cursor = e.cursor := by
    unfold Editor.recording Editor.modifyRegisters
    cases m.recording? with
    | none => exact ⟨rfl, rfl, rfl⟩
    | some s => cases e.own <;> exact ⟨rfl, rfl, rfl⟩
  obtain ⟨htext, hsticky, hcursor⟩ := hkept
  show (m.destination (e.recording m).text (e.recording m).sticky count (e.recording m).cursor).map
    (m.span (e.recording m).text (e.recording m).cursor) = _
  rw [htext, hsticky, hcursor]

theorem region_motion_right_le {m : Motion} {r : Range} (hcursor : e.cursor ≤ e.text.length)
    (h : ((motion m).region e count).2 = .ok r) : r.right ≤ e.text.length := by
  rw [region_motion] at h
  cases hdest : m.destination e.text e.sticky count e.cursor with
  | error err =>
    rw [hdest] at h
    cases h
  | ok q =>
    rw [hdest] at h
    exact Except.ok.inj h ▸ m.span_right_le hcursor (m.destination_le hcursor hdest)

theorem region_innerWord_right_le (big : Bool) (hcursor : e.cursor < e.text.length) :
    ∃ r, ((innerWord big).region e count).2 = .ok r ∧ r.right ≤ e.text.length := by
  have hstart := Words.runStart_le big e.text e.cursor
  have hend := WordStep.destination_runEnd_lt big (countOf count) hcursor
  have hshift : ∀ q, Offset.shift q 1 ≤ q + 1 := fun q => by
    unfold Offset.shift
    omega
  refine ⟨_, rfl, Nat.max_le.mpr ⟨?_, ?_⟩⟩
  · exact Nat.le_trans hstart (Nat.le_of_lt hcursor)
  · exact Nat.le_trans (hshift _) hend

theorem region_outerWord_right_le (big : Bool) (hcursor : e.cursor < e.text.length) :
    ∃ r, ((outerWord big).region e count).2 = .ok r ∧ r.right ≤ e.text.length := by
  have hstart := Words.runStart_le big e.text e.cursor
  have hend := WordStep.destination_le .forward big (countOf count) (Nat.le_of_lt hcursor)
  exact ⟨_, rfl, Nat.max_le.mpr ⟨Nat.le_trans hstart (Nat.le_of_lt hcursor), hend⟩⟩

/-- **Motions and text objects stay within the text.** From an offset that is
not past the end, no motion leads past it, and no search around starts of matches
that are not. From a cursor on a character there is a range for each motion that
leads anywhere and for each object made of words, and the two ends of the range
are in order and not past the end. -/
theorem stays_within :
    (∀ (m : Motion) (t : Text) sticky count p q, p ≤ t.length →
      m.destination t sticky count p = .ok q → q ≤ t.length) ∧
    (∀ (s : PatternSearch) (t : Text) (starts : List Nat) n p q, (∀ r ∈ starts, r ≤ t.length) →
      p ≤ t.length → s.landing starts n p = .ok q → q ≤ t.length) ∧
    ∀ (e : Editor) (count : Option Nat), e.cursor < e.text.length →
      (∀ m q, m.destination e.text e.sticky count e.cursor = .ok q →
        ∃ r, ((motion m).region e count).2 = .ok r) ∧
      (∀ m r, ((motion m).region e count).2 = .ok r →
        r.left ≤ r.right ∧ r.right ≤ e.text.length) ∧
      ∀ o : TextObject, o.IsWordObject →
        ∃ r, (o.region e count).2 = .ok r ∧ r.left ≤ r.right ∧ r.right ≤ e.text.length := by
  refine ⟨fun m t sticky count p q => m.destination_le,
    fun s t starts n p q => PatternSearch.landing_le, fun e count hcursor => ⟨fun m q hq => ?_,
      fun m r hr => ⟨r.left_le_right, region_motion_right_le (Nat.le_of_lt hcursor) hr⟩,
      fun o ho => ?_⟩⟩
  · refine ⟨m.span e.text e.cursor q, ?_⟩
    rw [region_motion, hq]
    rfl
  · suffices h : ∃ r, (o.region e count).2 = .ok r ∧ r.right ≤ e.text.length by
      obtain ⟨r, hr, hright⟩ := h
      exact ⟨r, hr, r.left_le_right, hright⟩
    rcases ho with ⟨big, rfl | rfl⟩ | ⟨outer, rfl⟩
    · exact region_innerWord_right_le big hcursor
    · exact region_outerWord_right_le big hcursor
    · exact ⟨_, rfl, subwordObject_right_le outer count hcursor⟩

/-- From the last character: to the end of the line, to a match of the empty text
at the end, over the end of a word, and two runs of which there is one. -/
theorem stays_within_at_last :
    let e : Editor := { text := ['a', ' ', 'b'], cursor := 2 }
    (Motion.line .right).destination e.text none (some 5) 2 = .ok 3 ∧ 3 ≤ e.text.length ∧
      (⟨"$", false⟩ : PatternSearch).landing [3] 1 2 = .ok 3 ∧ 3 ≤ e.text.length ∧
      (∃ r, ((motion (.word .wordEnd false)).region e none).2 = .ok r ∧
        r.left ≤ r.right ∧ r.right ≤ e.text.length) ∧
      ∃ r, ((innerWord false).region e (some 2)).2 = .ok r ∧
        r.left ≤ r.right ∧ r.right ≤ e.text.length := by
  intro e
  obtain ⟨hmotion, hlanding, hobject⟩ := stays_within
  have hcursor : e.cursor < e.text.length := by decide
  obtain ⟨hregion, hrange, -⟩ := hobject e none hcursor
  obtain ⟨-, -, hword⟩ := hobject e (some 2) hcursor
  have hend : (Motion.word .wordEnd false).destination e.text e.sticky none e.cursor = .ok 2 := by
    decide
  obtain ⟨r, hr⟩ := hregion _ 2 hend
  have hstarts : ∀ r ∈ [3], r ≤ e.text.length := by decide
  have hright := hmotion (.line .right) e.text none (some 5) 2 3 (by decide) rfl
  have hfound := hlanding ⟨"$", false⟩ e.text [3] 1 2 3 hstarts (by decide) rfl
  exact ⟨rfl, hright, rfl, hfound, ⟨r, hr, hrange _ r hr⟩,
    hword (innerWord false) (.inl ⟨false, .inl rfl⟩)⟩

end TextObject
end Keywise
