/-
# Inner words take whole runs of a text

A line feed is a run, and so are neighbouring characters of one class among
which there is none. A text has one cut into runs of which no two neighbours
are a run together (`Words.cutIntoRuns_iff`). In it two neighbouring characters
are of one run exactly if the scans over a run go from one to the other
(`Words.CutIntoRuns.sameRun_of_within`, `Words.CutIntoRuns.not_sameRun_between`),
so the scans halt at the ends of the runs, and an inner word is as many of them
as its count says.

Key definitions: `Words.IsRun`, `Words.CutIntoRuns`, `Words.runPlace`.
Key theorems: `Words.cutIntoRuns_iff`, `Words.CutIntoRuns.runStart_eq`,
`Words.CutIntoRuns.runEndAfter_eq`, `TextObject.innerWord_takes_runs`.
-/
import Mathlib.Data.List.SplitBy
import Keywise.TextObject

namespace Keywise
namespace Words

variable (big : Bool)

/-- A run: a line feed, or characters of one class and no line feed. -/
def IsRun (r : Text) : Prop :=
  r = ['\n'] ∨ r ≠ [] ∧ '\n' ∉ r ∧ ∀ a ∈ r, ∀ b ∈ r, CharClass.of big a = CharClass.of big b

/-- A cut of a text into runs, none of which can be made longer. -/
structure CutIntoRuns (t : Text) (rs : List Text) : Prop where
  flatten : rs.flatten = t
  isRun : ∀ r ∈ rs, IsRun big r
  maximal : rs.IsChain fun r r' => ¬ IsRun big (r ++ r')

/-- Where the `k`-th run of a cut starts; behind the last one the text ends. -/
def runPlace (rs : List Text) (k : Nat) : Nat := (rs.take k).flatten.length

variable {big}

/-! ### Runs and their neighbouring characters -/

theorem sameRun_iff {a b : Char} : sameRun big a b = true ↔
    a ≠ '\n' ∧ b ≠ '\n' ∧ CharClass.of big a = CharClass.of big b := by
  simp [sameRun, and_assoc]

/-- Where each character is of one run with the next, all are of the class of
the first one. -/
theorem of_isChain : ∀ {r : Text} {c : Char}, c ≠ '\n' →
    (c :: r).IsChain (fun a b => sameRun big a b = true) →
      ∀ a ∈ c :: r, a ≠ '\n' ∧ CharClass.of big a = CharClass.of big c
  | [], c, hc, _, a, ha => by
    obtain rfl := List.mem_singleton.mp ha
    exact ⟨hc, rfl⟩
  | d :: r, c, hc, hchain, a, ha => by
    obtain ⟨hcd, hrest⟩ := List.isChain_cons_cons.mp hchain
    obtain ⟨-, hd, hclass⟩ := sameRun_iff.mp hcd
    rcases List.mem_cons.mp ha with rfl | ha
    · exact ⟨hc, rfl⟩
    · obtain ⟨hnl, heq⟩ := of_isChain hd hrest a ha
      exact ⟨hnl, heq.trans hclass.symm⟩

/-- **A run by its neighbours**: each character is of one run with the next. -/
theorem isRun_iff {r : Text} :
    IsRun big r ↔ r ≠ [] ∧ r.IsChain (fun a b => sameRun big a b = true) := by
  constructor
  · rintro (rfl | ⟨hne, hnl, hclass⟩)
    · exact ⟨by simp, List.isChain_singleton _⟩
    · refine ⟨hne, (List.pairwise_of_forall_mem_list fun a ha b hb => ?_).isChain⟩
      exact sameRun_iff.mpr ⟨fun h => hnl (h ▸ ha), fun h => hnl (h ▸ hb), hclass a ha b hb⟩
  · rintro ⟨hne, hchain⟩
    obtain ⟨c, r, rfl⟩ := List.exists_cons_of_ne_nil hne
    by_cases hc : c = '\n'
    · cases r with
      | nil => exact .inl (by rw [hc])
      | cons d r => exact absurd hc (sameRun_iff.mp (List.isChain_cons_cons.mp hchain).1).1
    · have hall := of_isChain hc hchain
      refine .inr ⟨hne, fun hnl => (hall _ hnl).1 rfl, fun a ha b hb => ?_⟩
      exact (hall a ha).2.trans (hall b hb).2.symm

theorem isRun_append_iff {r r' : Text} (hr : IsRun big r) (hr' : IsRun big r') :
    IsRun big (r ++ r') ↔ ∃ hne hne', sameRun big (r.getLast hne) (r'.head hne') = true := by
  obtain ⟨hne, hchain⟩ := isRun_iff.mp hr
  obtain ⟨hne', hchain'⟩ := isRun_iff.mp hr'
  rw [isRun_iff, List.isChain_append]
  constructor
  · rintro ⟨-, -, -, hborder⟩
    exact ⟨hne, hne', hborder _ (List.getLast_mem_getLast? hne) _ (List.head_mem_head? hne')⟩
  · rintro ⟨_, _, hborder⟩
    refine ⟨List.append_ne_nil_of_left_ne_nil hne _, hchain, hchain', fun x hx y hy => ?_⟩
    rw [← List.getLast_of_mem_getLast? hx, ← List.head_of_mem_head? hy]
    exact hborder

/-- **The cut into runs**: there is one, and no other. -/
theorem cutIntoRuns_iff {t : Text} {rs : List Text} :
    CutIntoRuns big t rs ↔ t.splitBy (sameRun big) = rs := by
  have hborder : ∀ r r', IsRun big r → IsRun big r' →
      (¬ IsRun big (r ++ r') ↔ ∃ hne hne', sameRun big (r.getLast hne) (r'.head hne') = false) := by
    intro r r' hr hr'
    rw [isRun_append_iff hr hr']
    have hne := (isRun_iff.mp hr).1
    have hne' := (isRun_iff.mp hr').1
    simp [hne, hne']
  rw [List.splitBy_eq_iff]
  constructor
  · rintro ⟨rfl, hrun, hmax⟩
    refine ⟨rfl, fun hnil => (isRun_iff.mp (hrun _ hnil)).1 rfl,
      fun r hr => (isRun_iff.mp (hrun r hr)).2, ?_⟩
    exact hmax.imp_of_mem_imp fun r r' hr hr' => (hborder r r' (hrun r hr) (hrun r' hr')).mp
  · rintro ⟨rfl, hnil, hchain, hmax⟩
    have hrun : ∀ r ∈ rs, IsRun big r := fun r hr =>
      isRun_iff.mpr ⟨fun heq => hnil (heq ▸ hr), hchain r hr⟩
    refine ⟨rfl, hrun, ?_⟩
    exact hmax.imp_of_mem_imp fun r r' hr hr' => (hborder r r' (hrun r hr) (hrun r' hr')).mpr

instance (t : Text) (rs : List Text) : Decidable (CutIntoRuns big t rs) :=
  decidable_of_iff _ cutIntoRuns_iff.symm

/-! ### Where the runs are -/

theorem runPlace_zero (rs : List Text) : runPlace rs 0 = 0 := rfl

theorem runPlace_succ {rs : List Text} {k : Nat} (hk : k < rs.length) :
    runPlace rs (k + 1) = runPlace rs k + rs[k].length := by
  unfold runPlace
  rw [List.take_succ_eq_append_getElem hk, List.flatten_append, List.length_append,
    List.flatten_singleton]

theorem runPlace_of_length_le {rs : List Text} {k : Nat} (hk : rs.length ≤ k) :
    runPlace rs k = rs.flatten.length := by
  unfold runPlace
  rw [List.take_of_length_le hk]

namespace CutIntoRuns

variable {t : Text} {rs : List Text}

theorem runPlace_le (h : CutIntoRuns big t rs) (k : Nat) : runPlace rs k ≤ t.length := by
  rw [← h.flatten]
  exact ((List.take_sublist k rs).flatten).length_le

theorem runPlace_lt (h : CutIntoRuns big t rs) {k : Nat} (hk : k < rs.length) :
    runPlace rs k < runPlace rs (k + 1) := by
  have hne := (isRun_iff.mp (h.isRun _ (List.getElem_mem hk))).1
  have hpos := List.length_pos_iff.mpr hne
  rw [runPlace_succ hk]
  omega

theorem exists_run (h : CutIntoRuns big t rs) {p : Nat} (hp : p < t.length) :
    ∃ k, runPlace rs k ≤ p ∧ p < runPlace rs (k + 1) := by
  have hlast : p < runPlace rs rs.length := by
    rwa [runPlace_of_length_le (Nat.le_refl _), h.flatten]
  generalize rs.length = n at hlast
  induction n with
  | zero => exact absurd hlast (Nat.not_lt_zero p)
  | succ n ih =>
    rcases Nat.lt_or_ge p (runPlace rs n) with hlt | hge
    · exact ih hlt
    · exact ⟨n, hge, hlast⟩

theorem lt_length (h : CutIntoRuns big t rs) {k p : Nat} (hle : runPlace rs k ≤ p)
    (hlt : p < runPlace rs (k + 1)) : k < rs.length := by
  by_contra hk
  have hlen := runPlace_of_length_le (Nat.le_of_not_lt hk)
  have hend := h.runPlace_le (k + 1)
  rw [h.flatten] at hlen
  omega

theorem charAt_eq (h : CutIntoRuns big t rs) {k i : Nat} (hk : k < rs.length)
    (hi : i < rs[k].length) : charAt t (runPlace rs k + i) = rs[k][i] := by
  have ht : t = (rs.take k).flatten ++ (rs[k] ++ (rs.drop (k + 1)).flatten) := by
    rw [← h.flatten, ← List.flatten_cons, ← List.drop_eq_getElem_cons hk, ← List.flatten_append,
      List.take_append_drop]
  unfold charAt runPlace
  rw [ht, List.getD_eq_getElem?_getD, List.getElem?_append_right (Nat.le_add_right ..),
    Nat.add_sub_cancel_left, List.getElem?_append_left hi, List.getElem?_eq_getElem hi,
    Option.getD_some]

theorem sameRun_of_within (h : CutIntoRuns big t rs) {k i : Nat} (hle : runPlace rs k ≤ i)
    (hlt : i + 1 < runPlace rs (k + 1)) :
    sameRun big (charAt t i) (charAt t (i + 1)) = true := by
  have hk := h.lt_length hle (Nat.lt_of_succ_lt hlt)
  obtain ⟨j, rfl⟩ := Nat.exists_eq_add_of_le hle
  have hj : j + 1 < rs[k].length := by
    rw [runPlace_succ hk] at hlt
    omega
  rw [h.charAt_eq hk (Nat.lt_of_succ_lt hj), Nat.add_assoc, h.charAt_eq hk hj]
  exact List.isChain_iff_getElem.mp (isRun_iff.mp (h.isRun _ (List.getElem_mem hk))).2 j hj

theorem not_sameRun_between (h : CutIntoRuns big t rs) {k p : Nat} (hk : k + 1 < rs.length)
    (hp : p + 1 = runPlace rs (k + 1)) :
    sameRun big (charAt t p) (charAt t (p + 1)) = false := by
  have hk' : k < rs.length := Nat.lt_of_succ_lt hk
  have hrun := h.isRun _ (List.getElem_mem hk')
  have hrun' := h.isRun _ (List.getElem_mem hk)
  have hpos := List.length_pos_iff.mpr (isRun_iff.mp hrun).1
  have hpos' := List.length_pos_iff.mpr (isRun_iff.mp hrun').1
  have hlast : charAt t p = rs[k].getLast (isRun_iff.mp hrun).1 := by
    rw [List.getLast_eq_getElem, ← h.charAt_eq hk' (by omega)]
    rw [runPlace_succ hk'] at hp
    congr 1
    omega
  have hfirst : charAt t (p + 1) = rs[k + 1].head (isRun_iff.mp hrun').1 := by
    rw [List.head_eq_getElem, ← h.charAt_eq hk hpos', hp]
    rfl
  have hborder := List.isChain_iff_getElem.mp h.maximal k hk
  rw [isRun_append_iff hrun hrun'] at hborder
  rw [hlast, hfirst]
  simpa [(isRun_iff.mp hrun).1, (isRun_iff.mp hrun').1] using hborder

end CutIntoRuns

/-! ### The scans over a run -/

variable (big) (t : Text)

/-- Going back, the scan halts where a neighbour before is not of one run. -/
theorem runStartFrom_eq {s : Nat} (hborder : s = 0 ∨
    sameRun big (charAt t (s - 1)) (charAt t s) = false) : ∀ p : Nat, s ≤ p →
      (∀ i, s ≤ i → i < p → sameRun big (charAt t i) (charAt t (i + 1)) = true) →
        runStartFrom big t p = s
  | 0, hle, _ => (Nat.le_zero.mp hle).symm
  | p + 1, hle, hsame => by
    rw [runStartFrom]
    rcases Nat.eq_or_lt_of_le hle with rfl | hlt
    · rcases hborder with hzero | hborder
      · cases hzero
      · rw [Nat.add_sub_cancel] at hborder
        rw [hborder, if_neg Bool.false_ne_true]
    · have hsp := Nat.le_of_lt_succ hlt
      rw [if_pos (hsame p hsp (Nat.lt_succ_self p))]
      exact runStartFrom_eq hborder p hsp fun i hsi hip => hsame i hsi (Nat.lt_succ_of_lt hip)

/-- Going on, the scan halts where the next neighbour is not of one run, or at
the end of the distance. -/
theorem runEndFrom_eq {e : Nat} : ∀ n p : Nat, p ≤ e → e ≤ p + n →
    (e = p + n ∨ sameRun big (charAt t e) (charAt t (e + 1)) = false) →
      (∀ i, p ≤ i → i < e → sameRun big (charAt t i) (charAt t (i + 1)) = true) →
        runEndFrom big t p n = e
  | 0, p, hle, hge, _, _ => Nat.le_antisymm hle hge
  | n + 1, p, hle, hge, hborder, hsame => by
    rw [runEndFrom]
    rcases Nat.eq_or_lt_of_le hle with rfl | hlt
    · rcases hborder with hend | hborder
      · omega
      · rw [hborder, if_neg Bool.false_ne_true]
    · rw [if_pos (hsame p (Nat.le_refl p) hlt)]
      exact runEndFrom_eq n (p + 1) hlt (by omega) (hborder.imp_left fun hend => by omega)
        fun i hpi hie => hsame i (Nat.le_of_succ_le hpi) hie

namespace CutIntoRuns

variable {big t} {rs : List Text}

/-- **The start of the run** that holds an offset. -/
theorem runStart_eq (h : CutIntoRuns big t rs) {k p : Nat} (hle : runPlace rs k ≤ p)
    (hlt : p < runPlace rs (k + 1)) : runStart big t p = runPlace rs k := by
  have hend := h.runPlace_le (k + 1)
  unfold runStart
  rw [Nat.min_eq_left (by omega)]
  refine runStartFrom_eq big t ?_ p hle fun i hki hip => h.sameRun_of_within hki (by omega)
  cases k with
  | zero => exact .inl (runPlace_zero rs)
  | succ k =>
    have hk := h.lt_length hle hlt
    have hpos := h.runPlace_lt (Nat.lt_of_succ_lt hk)
    obtain ⟨q, hq⟩ : ∃ q, runPlace rs (k + 1) = q + 1 :=
      ⟨runPlace rs (k + 1) - 1, by omega⟩
    have hborder := h.not_sameRun_between hk hq.symm
    rw [hq, Nat.add_sub_cancel]
    exact .inr hborder

/-- **The end of the run** that holds an offset: its last character. -/
theorem runEnd_eq (h : CutIntoRuns big t rs) {k p : Nat} (hle : runPlace rs k ≤ p)
    (hlt : p < runPlace rs (k + 1)) : runEnd big t p + 1 = runPlace rs (k + 1) := by
  have hend := h.runPlace_le (k + 1)
  have hk := h.lt_length hle hlt
  obtain ⟨e, he⟩ : ∃ e, runPlace rs (k + 1) = e + 1 := ⟨runPlace rs (k + 1) - 1, by omega⟩
  have hborder : e = p + (t.length - 1 - p) ∨
      sameRun big (charAt t e) (charAt t (e + 1)) = false := by
    rcases Nat.lt_or_ge (k + 1) rs.length with hnext | hlast
    · exact .inr (h.not_sameRun_between hnext he.symm)
    · have hlen := runPlace_of_length_le hlast
      rw [h.flatten] at hlen
      exact .inl (by omega)
  rw [he]
  refine congrArg (· + 1) (runEndFrom_eq big t _ p (by omega) (by omega) hborder ?_)
  exact fun i hpi hie => h.sameRun_of_within (Nat.le_trans hle hpi) (by omega)

theorem runEndAfter_eq (h : CutIntoRuns big t rs) : ∀ (n : Nat) {k p : Nat}, k < rs.length →
    p + 1 = runPlace rs (k + 1) → runEndAfter big t p n + 1 = runPlace rs (k + 1 + n)
  | 0, _, _, _, hp => hp
  | n + 1, k, p, hk, hp => by
    rw [runEndAfter]
    rcases Nat.lt_or_ge (k + 1) rs.length with hnext | hlast
    · have hlt := h.runPlace_lt hnext
      have hend := h.runPlace_le (k + 1 + 1)
      have hrun := h.runEnd_eq (Nat.le_of_eq hp.symm) (hp ▸ hlt)
      rw [if_neg (by omega), h.runEndAfter_eq n hnext hrun]
      congr 1
      omega
    · have hlen := runPlace_of_length_le hlast
      have hlen' : runPlace rs (k + 1 + (n + 1)) = rs.flatten.length :=
        runPlace_of_length_le (by omega)
      rw [h.flatten] at hlen hlen'
      rw [if_pos (by omega), hp, hlen, hlen']

end CutIntoRuns
end Words

namespace TextObject

open Words

/-- **An inner word takes whole runs.** The text has exactly one cut into runs,
and one of them holds the cursor. The object starts where that run does and
ends behind the last of as many runs as the count says, or at the end of the
text if there are fewer. (No text is longer than an offset can say.) -/
theorem innerWord_takes_runs (big : Bool) (e : Editor) (hlen : e.text.length ≤ Offset.max)
    (hcursor : e.cursor < e.text.length) :
    ∃ rs, (∀ rs', CutIntoRuns big e.text rs' ↔ rs' = rs) ∧
      (∃ k, runPlace rs k ≤ e.cursor ∧ e.cursor < runPlace rs (k + 1)) ∧
      ∀ k, runPlace rs k ≤ e.cursor → e.cursor < runPlace rs (k + 1) → ∀ count,
        (innerWord big).region e count =
          (e, .ok (.between (runPlace rs k) (runPlace rs (k + countOf count)))) := by
  have hcut : CutIntoRuns big e.text (e.text.splitBy (sameRun big)) := cutIntoRuns_iff.mpr rfl
  refine ⟨e.text.splitBy (sameRun big), fun rs' => cutIntoRuns_iff.trans eq_comm,
    hcut.exists_run hcursor, fun k hle hlt count => ?_⟩
  generalize e.text.splitBy (sameRun big) = rs at *
  have hone := one_le_countOf count
  have hright : runEndAfter big e.text (runEnd big e.text e.cursor) (countOf count - 1) + 1 =
      runPlace rs (k + countOf count) := by
    rw [hcut.runEndAfter_eq _ (hcut.lt_length hle hlt) (hcut.runEnd_eq hle hlt)]
    congr 1
    omega
  have hshift : Offset.shift
      (runEndAfter big e.text (runEnd big e.text e.cursor) (countOf count - 1)) 1 =
        runPlace rs (k + countOf count) := by
    have hend := hcut.runPlace_le (k + countOf count)
    rw [Offset.shift_of_mem (by omega)]
    omega
  show (e, Except.ok (Range.between (runStart big e.text e.cursor) _)) = _
  rw [hcut.runStart_eq hle hlt]
  exact congrArg (fun q => (e, Except.ok (Range.between (runPlace rs k) q))) hshift

/-- Blanks and the word behind them, and as many runs as there are. -/
theorem innerWord_takes_runs_of_lines :
    let e : Editor := { text := ['a', 'b', ' ', ' ', 'c', '\n', '\n', 'd'], cursor := 3 }
    (innerWord false).region e (some 2) = (e, .ok (.between 2 5)) ∧
      (innerWord false).region e (some 9) = (e, .ok (.between 2 8)) := by
  intro e
  obtain ⟨rs, hcut, -, hregion⟩ := innerWord_takes_runs false e (by decide) (by decide)
  have hrs : [['a', 'b'], [' ', ' '], ['c'], ['\n'], ['\n'], ['d']] = rs :=
    (hcut _).mp (by decide)
  subst hrs
  exact ⟨hregion 1 (by decide) (by decide) (some 2), hregion 1 (by decide) (by decide) (some 9)⟩

end TextObject
end Keywise
