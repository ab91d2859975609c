/-
# Completing a line goes around

A line is parted into its indent, what is before the cursor, and what is
behind it (`Completion.Parted`). The candidates for the middle one are that
itself and the lines of the text, without their indents, that begin with it
and are longer, each once (`Completion.lineMatches`).

While the line is completed, the text is the one there was with this line
changed, and the completion is the one of that text with another candidate
chosen (`Completion.Standing`). At the first candidate it may be begun anew,
but then the text is as it was, and so are the candidates; at any other one it
goes on (`Completion.Standing.ready`). So the candidate is told by how often
it was gone forward and back (`Completion.standing_completeAll`).

Key definitions: `Completion.Parted`, `Completion.lineMatches`,
`Completion.place`, `Completion.Ready`, `Completion.Standing`.
Key theorems: `Completion.exists_parted`, `Completion.candidates_eq`,
`Completion.Ready.complete`, `Completion.Standing.ready`,
`Completion.standing_completeAll`.
-/
import Keywise.Mode.Completion
import Keywise.Proofs.Text.Splices
import Mathlib.Data.List.Induction

namespace Keywise
namespace Completion

variable {t : Text} {p : Nat} {indent stem suffix : List Char}

/-! ### The line in its parts -/

/-- The line of offset `p` is its indent, what is before the offset, and what
is behind it. Before an offset in the indent there is nothing else. -/
structure Parted (t : Text) (p : Nat) (indent stem suffix : List Char) : Prop where
  content : t.content (t.lineAt p) = indent ++ stem ++ suffix
  blank : ∀ c ∈ indent, Unicode.isWhitespace c = true
  indented : ∀ c ∈ (stem ++ suffix).head?, Unicode.isWhitespace c = false
  upTo : stem.length =
    min (p - (t.lineAt p).start) (indent ++ stem ++ suffix).length - indent.length

/-- **Every line has its parts**, wherever the cursor is. -/
theorem exists_parted (t : Text) (p : Nat) : ∃ indent stem suffix, Parted t p indent stem suffix := by
  let line := t.content (t.lineAt p)
  let indent := line.takeWhile Unicode.isWhitespace
  let rest := line.dropWhile Unicode.isWhitespace
  let n := p - (t.lineAt p).start - indent.length
  have hline : indent ++ (rest.take n ++ rest.drop n) = line := by
    rw [List.take_append_drop]
    exact List.takeWhile_append_dropWhile
  refine ⟨indent, rest.take n, rest.drop n, ?_, ?_, ?_, ?_⟩
  · rw [List.append_assoc, hline]
  · exact fun c hc => List.all_eq_true.mp List.all_takeWhile c hc
  · intro c hc
    rw [List.take_append_drop] at hc
    have hhead := List.head?_dropWhile_not Unicode.isWhitespace line
    rw [hc] at hhead
    exact hhead
  · have hlen : (indent ++ rest.take n ++ rest.drop n).length = indent.length + rest.length := by
      simp only [List.length_append, List.length_take, List.length_drop]
      omega
    rw [hlen, List.length_take]
    omega

/-! ### The candidates -/

/-- What was typed, and the lines that begin with it and are not it, without
their indents, each once. -/
def lineMatches (t : Text) (stem : List Char) : List (List Char) :=
  stem :: (((contents t).map Unicode.trimStart).filter
    fun c => stem <+: c ∧ c ≠ [] ∧ c ≠ stem).eraseDups

theorem candidates_eq (stem : List Char) (ls : List (List Char)) : ∀ seen : List (List Char),
    candidates stem seen ls =
      ((ls.map Unicode.trimStart).filter fun c => stem <+: c ∧ c ∉ seen).eraseDups := by
  induction ls with
  | nil => exact fun _ => rfl
  | cons l ls ih =>
    intro seen
    have hiff : (stem.isPrefixOf (Unicode.trimStart l) && !seen.contains (Unicode.trimStart l)) =
        decide (stem <+: Unicode.trimStart l ∧ Unicode.trimStart l ∉ seen) := by
      rw [Bool.eq_iff_iff]
      simp
    rw [candidates, List.map_cons, List.filter_cons]
    simp only [hiff]
    split
    · have hagain : ∀ c, (decide (stem <+: c ∧ c ∉ seen) && !(c == Unicode.trimStart l)) =
          decide (stem <+: c ∧ c ∉ Unicode.trimStart l :: seen) := by
        intro c
        by_cases hc : c = Unicode.trimStart l <;> simp [hc]
      rw [List.eraseDups_cons, List.filter_filter, ih]
      simp only [Bool.and_comm, hagain]
    · exact ih seen

/-- The completion of the line in its parts, with candidate `d` chosen. -/
def ofParts (t : Text) (p : Nat) (indent stem suffix : List Char) (d : Nat) : Completion :=
  { indent, stem, suffix
    matching := lineMatches t stem
    index := d
    line := some (t.lineAt p).number }

/-- **A completion that is begun** is the one of the line in its parts. -/
theorem Parted.ofLine (h : Parted t p indent stem suffix) :
    ofLine t (t.lineAt p).number (t.content (t.lineAt p)) (p - (t.lineAt p).start) =
      ofParts t p indent stem suffix 0 := by
  have hindent : (indent ++ (stem ++ suffix)).takeWhile Unicode.isWhitespace = indent := by
    rw [List.takeWhile_append_of_pos h.blank]
    cases hrest : stem ++ suffix with
    | nil => simp
    | cons c cs =>
      have hc : Unicode.isWhitespace c = false := h.indented c (by rw [hrest]; rfl)
      simp [hc]
  have hupTo := h.upTo
  simp only [List.length_append] at hupTo
  let n := p - (t.lineAt p).start - indent.length
  have hn : max (p - (t.lineAt p).start) indent.length = indent.length + n := by omega
  have hstem : (stem ++ suffix).take n = stem := by
    by_cases hle : n ≤ stem.length
    · rw [show n = stem.length by omega, List.take_left]
    · have hsuffix : suffix = [] := List.length_eq_zero_iff.mp (by omega)
      rw [hsuffix, List.append_nil, List.take_of_length_le (by omega)]
  have hsuffix : (stem ++ suffix).drop n = suffix := by
    have hboth := List.take_append_drop n (stem ++ suffix)
    rw [hstem] at hboth
    exact List.append_cancel_left hboth
  have hseen : ∀ c : List Char, decide (stem <+: c ∧ c ∉ [stem, []]) =
      decide (stem <+: c ∧ c ≠ [] ∧ c ≠ stem) := by
    intro c
    by_cases hc : c = [] <;> by_cases hc' : c = stem <;> simp [hc, hc']
  unfold Completion.ofLine ofParts lineMatches
  simp only [h.content, List.append_assoc, hindent, hn, List.drop_left, Nat.add_sub_cancel_left,
    hstem, ← List.drop_drop, hsuffix, candidates_eq, hseen]

/-! ### The line with another candidate -/

/-- The line with candidate `d`. -/
def lineWith (t : Text) (indent stem suffix : List Char) (d : Nat) : List Char :=
  indent ++ (lineMatches t stem).getD d [] ++ suffix

theorem Parted.lineWith_zero (h : Parted t p indent stem suffix) :
    lineWith t indent stem suffix 0 = t.content (t.lineAt p) :=
  h.content.symm

theorem Parted.splice_lineWith_zero (h : Parted t p indent stem suffix) :
    t.splice (t.lineAt p).start (t.lineAt p).length (lineWith t indent stem suffix 0) = t := by
  rw [h.lineWith_zero]
  exact t.splice_slice _ _

/-- Every candidate but the first is a line of the text without its indent,
and not empty. -/
theorem mem_lineMatches {c : List Char} (hc : c ∈ lineMatches t stem) :
    c = stem ∨ c ≠ [] ∧ ∃ line ∈ contents t, c = Unicode.trimStart line := by
  rcases List.mem_cons.mp hc with rfl | hc
  · exact Or.inl rfl
  · rw [List.mem_eraseDups, List.mem_filter, List.mem_map, decide_eq_true_eq] at hc
    obtain ⟨⟨line, hline, rfl⟩, -, hne, -⟩ := hc
    exact Or.inr ⟨hne, line, hline, rfl⟩

theorem getElem?_lineMatches {d : Nat} (hd : d < (lineMatches t stem).length) :
    (lineMatches t stem)[d]? = some ((lineMatches t stem).getD d []) := by
  rw [List.getD_eq_getElem?_getD, List.getElem?_eq_getElem hd]
  rfl

theorem getD_mem_lineMatches {d : Nat} (hd : d < (lineMatches t stem).length) :
    (lineMatches t stem).getD d [] ∈ lineMatches t stem :=
  List.mem_of_getElem? (getElem?_lineMatches hd)

theorem Parted.isBreak_lineWith (h : Parted t p indent stem suffix) (hbreaks : t.ReturnsOnly)
    {d : Nat} (hd : d < (lineMatches t stem).length) :
    ∀ c ∈ lineWith t indent stem suffix d, Text.isBreak c = false := by
  have hline : ∀ c ∈ indent ++ stem ++ suffix, Text.isBreak c = false := by
    rw [← h.content]
    exact fun c hc => hbreaks.isBreak_of_mem_content hc
  intro c hc
  simp only [lineWith, List.mem_append] at hc hline
  rcases hc with (hc | hc) | hc
  · exact hline c (Or.inl (Or.inl hc))
  · rcases mem_lineMatches (getD_mem_lineMatches hd) with hstem | ⟨-, line, hmem, hcand⟩
    · exact hline c (Or.inl (Or.inr (hstem ▸ hc)))
    · obtain ⟨l, hl, rfl⟩ := List.mem_map.mp hmem
      rw [hcand] at hc
      exact hbreaks.isBreak_of_mem_line hl (List.dropWhile_subset _ hc)
  · exact hline c (Or.inr hc)

theorem Parted.lineWith_ne_nil (h : Parted t p indent stem suffix) {d : Nat}
    (hd : d < (lineMatches t stem).length) :
    lineWith t indent stem suffix d ≠ [] ∨ (t.lineAt p).length = 0 := by
  rcases mem_lineMatches (getD_mem_lineMatches hd) with hstem | ⟨hne, -⟩
  · rw [lineWith, hstem, ← h.content, ← Text.length_content_lineAt]
    cases t.content (t.lineAt p) with
    | nil => exact Or.inr rfl
    | cons c cs => exact Or.inl (List.cons_ne_nil c cs)
  · refine Or.inl fun hnil => hne ?_
    rw [lineWith, List.append_eq_nil_iff, List.append_eq_nil_iff] at hnil
    exact hnil.1.2

/-! ### One step -/

/-- The completion that goes on: one that is stale is begun anew. -/
def refreshed (s : Completion) (e : Editor) : Completion :=
  if s.isStale e.line.number (e.text.content e.line) then
    Completion.ofLine e.text e.line.number (e.text.content e.line) (e.cursor - e.line.start)
  else s

/-- The text is the one there was with candidate `d` in the line, and what
goes on is the completion of that line. -/
structure Ready (t : Text) (p : Nat) (indent stem suffix : List Char) (d : Nat) (s : Completion)
    (e : Editor) : Prop where
  text : e.text =
    t.splice (t.lineAt p).start (t.lineAt p).length (lineWith t indent stem suffix d)
  line : e.line =
    ⟨(t.lineAt p).number, (t.lineAt p).start, (lineWith t indent stem suffix d).length⟩
  refreshed : s.refreshed e = ofParts t p indent stem suffix d

/-- The completion has come to candidate `d`, and the cursor is behind it. -/
structure Standing (t : Text) (p : Nat) (indent stem suffix : List Char) (d : Nat)
    (s : Completion) (e : Editor) : Prop where
  lt : d < (lineMatches t stem).length
  text : e.text =
    t.splice (t.lineAt p).start (t.lineAt p).length (lineWith t indent stem suffix d)
  cursor : e.cursor =
    (t.lineAt p).start + indent.length + ((lineMatches t stem).getD d []).length
  completion : s = ofParts t p indent stem suffix d

/-- The candidate one step on or back. -/
def turned (n d : Nat) (forward : Bool) : Nat :=
  if forward then (d + 1) % n else (d + (n - 1)) % n

theorem turned_lt {n : Nat} (hn : 0 < n) (d : Nat) (forward : Bool) : turned n d forward < n := by
  unfold turned
  split <;> exact Nat.mod_lt _ hn

theorem complete_of_one {s : Completion} {e : Editor}
    (h : (s.refreshed e).matching.length ≤ 1) (forward : Bool) :
    s.complete e forward = (s.refreshed e, e.showError "Pattern not found") :=
  if_pos h

/-- **The next candidate** is put into the line. -/
theorem Ready.complete {d : Nat} {s : Completion} {e : Editor}
    (h : Ready t p indent stem suffix d s e) (hm : 1 < (lineMatches t stem).length)
    (forward : Bool) :
    Standing t p indent stem suffix (turned (lineMatches t stem).length d forward)
      (s.complete e forward).1 (s.complete e forward).2 := by
  let d' := turned (lineMatches t stem).length d forward
  have hstart : (t.lineAt p).start ≤ t.length :=
    Nat.le_trans (t.lineAt p).start_le_stop (t.stop_lineAt_le_length p)
  have hcomplete : s.complete e forward =
      (ofParts t p indent stem suffix d',
        (((e.replace e.line.start e.line.length (lineWith t indent stem suffix d')).moveTo
          (e.line.start + indent.length + ((lineMatches t stem).getD d' []).length)
            .column).showInfo (ofParts t p indent stem suffix d').message)) := by
    have hlarge : ¬ (s.refreshed e).matching.length ≤ 1 := by
      rw [h.refreshed]
      exact Nat.not_le.mpr hm
    have hunfold : s.complete e forward =
        if (s.refreshed e).matching.length ≤ 1 then
          (s.refreshed e, e.showError "Pattern not found")
        else
          let s' := (s.refreshed e).turn forward
          (s', ((e.replace e.line.start e.line.length (s'.indent ++ s'.chosen ++ s'.suffix)).moveTo
            (e.line.start + s'.indent.length + s'.chosen.length) .column).showInfo s'.message) :=
      rfl
    rw [hunfold, if_neg hlarge, h.refreshed]
    rfl
  have htext : e.text.splice (t.lineAt p).start (lineWith t indent stem suffix d).length
      (lineWith t indent stem suffix d') = t.splice (t.lineAt p).start (t.lineAt p).length
        (lineWith t indent stem suffix d') := by
    rw [h.text]
    exact Text.splice_splice hstart _ _ _
  rw [hcomplete, h.line]
  refine ⟨turned_lt (by omega) d forward, ?_, ?_, rfl⟩
  · show ((e.replace _ _ _).moveTo _ _).text = _
    rw [Editor.text_moveTo]
    exact htext
  · show ((e.replace _ _ _).moveTo _ _).cursor = _
    rw [Editor.cursor_moveTo]
    show min _ (e.text.splice (t.lineAt p).start (lineWith t indent stem suffix d).length
      (lineWith t indent stem suffix d')).length = _
    rw [htext]
    refine Nat.min_eq_left ?_
    simp only [Text.splice, lineWith, List.length_append, List.length_take, List.length_drop]
    omega

/-- **At the first candidate** the completion may be begun anew or go on, and it
is the same one. -/
theorem Parted.refreshed {s : Completion} {e : Editor}
    (h : Parted t e.cursor indent stem suffix)
    (hs : s = {} ∨ s = ofParts t p indent stem suffix 0) (htext : e.text = t)
    (hline : t.lineAt e.cursor = t.lineAt p) :
    s.refreshed e = ofParts t p indent stem suffix 0 := by
  have hat : e.line = t.lineAt e.cursor := by rw [Editor.line, htext]
  have hanew : Completion.ofLine e.text e.line.number (e.text.content e.line)
      (e.cursor - e.line.start) = ofParts t p indent stem suffix 0 := by
    rw [hat, htext, h.ofLine, ofParts, hline]
    rfl
  unfold Completion.refreshed
  split
  · exact hanew
  · next hfresh =>
    refine hs.resolve_left ?_
    rintro rfl
    exact hfresh rfl

theorem Parted.ready (h : Parted t p indent stem suffix) {s : Completion} {e : Editor}
    (hs : s = {} ∨ s = ofParts t p indent stem suffix 0) (htext : e.text = t)
    (hcursor : e.cursor = p) : Ready t p indent stem suffix 0 s e := by
  have hline : e.line = t.lineAt p := by rw [Editor.line, htext, hcursor]
  have hparted : Parted t e.cursor indent stem suffix := hcursor ▸ h
  refine ⟨?_, ?_, hparted.refreshed hs htext (hcursor ▸ rfl)⟩
  · rw [htext, h.splice_lineWith_zero]
  · rw [hline, h.lineWith_zero, Text.length_content_lineAt]

/-- **From any candidate** the completion goes on. -/
theorem Standing.ready (h : Parted t p indent stem suffix) (hbreaks : t.ReturnsOnly) {d : Nat}
    {s : Completion} {e : Editor} (hstanding : Standing t p indent stem suffix d s e) :
    Ready t p indent stem suffix d s e := by
  have hle : e.cursor ≤ (t.lineAt p).start + (lineWith t indent stem suffix d).length := by
    rw [hstanding.cursor]
    simp only [lineWith, List.length_append]
    omega
  have hge : (t.lineAt p).start ≤ e.cursor := by
    rw [hstanding.cursor]
    omega
  have hline : e.line =
      ⟨(t.lineAt p).number, (t.lineAt p).start, (lineWith t indent stem suffix d).length⟩ := by
    rw [Editor.line, hstanding.text]
    exact hbreaks.lineAt_splice (h.isBreak_lineWith hbreaks hstanding.lt)
      (h.lineWith_ne_nil hstanding.lt) hge hle
  refine ⟨hstanding.text, hline, ?_⟩
  by_cases hd : d = 0
  · -- the line is as it was, and the cursor behind what was before it
    subst hd
    have htext : e.text = t := hstanding.text.trans h.splice_lineWith_zero
    have hat : t.lineAt e.cursor = t.lineAt p := by
      have hsame : t.lineAt e.cursor = e.line := by rw [Editor.line, htext]
      rw [hsame, hline, h.lineWith_zero, Text.length_content_lineAt]
    have hcursor : e.cursor = (t.lineAt p).start + indent.length + stem.length :=
      hstanding.cursor
    have hparted : Parted t e.cursor indent stem suffix := by
      refine ⟨hat ▸ h.content, h.blank, h.indented, ?_⟩
      rw [hat, hcursor]
      simp only [List.length_append]
      omega
    exact hparted.refreshed (Or.inr hstanding.completion) htext hat
  · -- another candidate is chosen, and the line is still the one completed
    have hgoes : s.isStale e.line.number (e.text.content e.line) = false := by
      rw [hstanding.completion, hline]
      simp [isStale, ofParts, lineMatches, hd]
    unfold Completion.refreshed
    rw [hgoes]
    exact hstanding.completion

/-! ### Any number of steps -/

/-- The key goes forward. -/
def forward (k : Key) : Bool := k == ⟨.char 'l', .control⟩ || k == ⟨.char 'n', .control⟩

/-- The key goes back. -/
def back (k : Key) : Bool := k == ⟨.char 'p', .control⟩

theorem handle_eq (s : Completion) (e : Editor) {k : Key} (h : forward k || back k) :
    s.handle e k = ((s.complete e (forward k)).1, (s.complete e (forward k)).2, true) := by
  unfold forward back at *
  simp only [Bool.or_eq_true, beq_iff_eq] at h
  unfold handle
  rcases h with (rfl | rfl) | rfl <;> rfl

theorem handle_of_other (s : Completion) (e : Editor) {k : Key}
    (h : (forward k || back k) = false) :
    s.handle e k = ({}, (e.request .insert [.resume]).replay k, true) := by
  unfold forward back at h
  simp only [Bool.or_eq_false_iff, beq_eq_false_iff_ne] at h
  unfold handle
  rw [if_neg (not_or.mpr h.1), if_neg h.2]

/-- Goes forward and back as the keys say. -/
def completeAll (s : Completion) (e : Editor) (ks : List Key) : Completion × Editor :=
  ks.foldl (fun r k => r.1.complete r.2 (forward k)) (s, e)

theorem completeAll_concat (s : Completion) (e : Editor) (ks : List Key) (k : Key) :
    completeAll s e (ks ++ [k]) =
      (completeAll s e ks).1.complete (completeAll s e ks).2 (forward k) :=
  List.foldl_append

/-- The candidate that keys lead to: as often forward as the keys go forward
and not back, around `n` candidates. -/
def place (n : Nat) (ks : List Key) : Nat :=
  (((ks.countP forward : Int) - ks.countP back) % n).toNat

theorem place_concat {n : Nat} (hn : 0 < n) {ks : List Key} {k : Key} (hk : forward k || back k) :
    place n (ks ++ [k]) = turned n (place n ks) (forward k) := by
  have hne : (n : Int) ≠ 0 := by omega
  let x : Int := (ks.countP forward : Int) - ks.countP back
  have hplace : ((place n ks : Nat) : Int) = x % n := Int.toNat_of_nonneg (Int.emod_nonneg x hne)
  have hturned : (turned n (place n ks) (forward k) : Int) =
      (x + if forward k then 1 else -1) % n := by
    unfold turned
    cases forward k with
    | true =>
      show (((place n ks + 1) % n : Nat) : Int) = _
      rw [Int.natCast_emod, Int.natCast_add, hplace, Int.emod_add_emod]
      rfl
    | false =>
      have hback : x + ((n - 1 : Nat) : Int) = x + -1 + n := by omega
      show (((place n ks + (n - 1)) % n : Nat) : Int) = _
      rw [Int.natCast_emod, Int.natCast_add, hplace, Int.emod_add_emod, hback,
        Int.add_emod_right]
      rfl
  have hcount : (((ks ++ [k]).countP forward : Int) - (ks ++ [k]).countP back) =
      x + if forward k then 1 else -1 := by
    have hboth : forward k = true → back k = false := by
      intro hf
      by_contra hb
      simp only [forward, back, Bool.or_eq_true, beq_iff_eq, Bool.not_eq_false] at hf hb
      rcases hf with rfl | rfl <;> cases hb
    rw [List.countP_append, List.countP_append, List.countP_singleton, List.countP_singleton]
    cases hf : forward k with
    | true =>
      rw [hboth hf]
      simp only [if_true, Bool.false_eq_true, if_false]
      omega
    | false =>
      rw [hf, Bool.false_or] at hk
      rw [hk]
      simp only [if_true, Bool.false_eq_true, if_false]
      omega
  unfold place
  rw [hcount, ← hturned, Int.toNat_natCast]
  rfl

/-- **What keys lead to** if there are other candidates. -/
theorem standing_completeAll (h : Parted t p indent stem suffix) (hbreaks : t.ReturnsOnly)
    {e : Editor} (htext : e.text = t) (hcursor : e.cursor = p)
    (hm : 1 < (lineMatches t stem).length) {ks : List Key} (hks : ∀ k ∈ ks, forward k || back k)
    (hne : ks ≠ []) :
    Standing t p indent stem suffix (place (lineMatches t stem).length ks)
      (completeAll {} e ks).1 (completeAll {} e ks).2 := by
  induction ks using List.reverseRecOn with
  | nil => exact absurd rfl hne
  | append_singleton ks k ih =>
    have hready : Ready t p indent stem suffix (place (lineMatches t stem).length ks)
        (completeAll {} e ks).1 (completeAll {} e ks).2 := by
      by_cases hnil : ks = []
      · subst hnil
        have hzero : place (lineMatches t stem).length [] = 0 := by simp [place]
        rw [hzero]
        exact h.ready (Or.inl rfl) htext hcursor
      · exact (ih (fun k' hk' => hks k' (List.mem_append_left _ hk')) hnil).ready h hbreaks
    rw [completeAll_concat, place_concat (by omega) (hks k (by simp))]
    exact hready.complete hm (forward k)

/-- If there are none, nothing is changed. -/
theorem same_completeAll (h : Parted t p indent stem suffix) {e : Editor} (htext : e.text = t)
    (hcursor : e.cursor = p) (hm : (lineMatches t stem).length ≤ 1) (ks : List Key) :
    (completeAll {} e ks).2.text = t ∧ (completeAll {} e ks).2.cursor = p := by
  have hall : ((completeAll {} e ks).1 = {} ∨
      (completeAll {} e ks).1 = ofParts t p indent stem suffix 0) ∧
      (completeAll {} e ks).2.text = t ∧ (completeAll {} e ks).2.cursor = p := by
    induction ks using List.reverseRecOn with
    | nil => exact ⟨Or.inl rfl, htext, hcursor⟩
    | append_singleton ks k ih =>
      obtain ⟨hs, htext', hcursor'⟩ := ih
      have hrefreshed := (h.ready hs htext' hcursor').refreshed
      have hone : ((completeAll {} e ks).1.refreshed (completeAll {} e ks).2).matching.length ≤
          1 := by
        rw [hrefreshed]
        exact hm
      rw [completeAll_concat, complete_of_one hone, hrefreshed]
      exact ⟨Or.inr rfl, htext', hcursor'⟩
  exact hall.2

end Completion
end Keywise
