/-
# What writing an untouched file back does to it

A file is read with its pairs of carriage return and line feed made single
line feeds, and written with every line feed made a pair, if there was a pair.
So a file comes back as it was if and only if it has no pair, or has no line
feed but in pairs (`FileText.contents_text_eq_iff`): a single line feed beside
pairs is made a pair. That is what a run without keys does to a file it writes
(`Program.writes_back`), since without keys the text stays as it is.

Key definitions: `Endings.AllPaired`.
Key theorems: `Endings.hasPair_iff`, `Endings.split_join_iff`,
`FileText.contents_text_eq_iff`, `Folder.exists_write_of_read`,
`Program.writes_back`.
-/
import Mathlib.Data.List.Infix
import Keywise.Program.Run

namespace Keywise

/-! ### Pairs -/

namespace Endings

/-- Every line feed stands behind a carriage return. -/
def AllPaired (s : List Char) : Prop :=
  ∀ pre post, s = pre ++ '\n' :: post → pre.getLast? = some '\r'

theorem hasPair_iff (s : List Char) : hasPair s = true ↔ ['\r', '\n'] <:+: s := by
  fun_induction hasPair s with
  | case1 => simp
  | case2 s => exact iff_of_true rfl ⟨[], s, rfl⟩
  | case3 c s hno ih =>
    have hfront : ¬ ['\r', '\n'] <+: c :: s := by
      rintro ⟨u, hu⟩
      obtain ⟨hc, hs⟩ := List.cons.inj hu
      exact hno u hc.symm hs.symm
    rw [ih, List.infix_cons_iff, or_iff_right hfront]

theorem getLast?_cons_eq_iff {c : Char} (hc : c ≠ '\r') (s : List Char) :
    (c :: s).getLast? = some '\r' ↔ s.getLast? = some '\r' := by
  cases s with
  | nil => simp [hc]
  | cons d s => rw [List.getLast?_cons_cons]

theorem not_allPaired_feed (s : List Char) : ¬ AllPaired ('\n' :: s) := fun h =>
  nomatch h [] s rfl

theorem allPaired_pair (s : List Char) : AllPaired ('\r' :: '\n' :: s) ↔ AllPaired s := by
  have hnl : '\n' ≠ '\r' := by decide
  constructor
  · rintro h pre post rfl
    have hlast := h ('\r' :: '\n' :: pre) post rfl
    rwa [List.getLast?_cons_cons, getLast?_cons_eq_iff hnl] at hlast
  · intro h pre post heq
    match pre, heq with
    | [], heq => exact absurd (List.cons.inj heq).1.symm hnl
    | [c], heq => rw [(List.cons.inj heq).1.symm]; rfl
    | c :: d :: pre, heq =>
      obtain ⟨-, heq⟩ := List.cons.inj heq
      obtain ⟨hd, heq⟩ := List.cons.inj heq
      rw [List.getLast?_cons_cons, ← hd, getLast?_cons_eq_iff hnl]
      exact h pre post heq

theorem allPaired_cons {c : Char} {s : List Char}
    (hno : ∀ u, c = '\r' → s = '\n' :: u → False) (hc : c ≠ '\n') :
    AllPaired (c :: s) ↔ AllPaired s := by
  constructor
  · rintro h pre post rfl
    have hlast := h (c :: pre) post rfl
    cases pre with
    | nil => exact absurd rfl (hno post (by simpa using hlast))
    | cons d pre => rwa [List.getLast?_cons_cons] at hlast
  · intro h pre post heq
    cases pre with
    | nil => exact absurd (List.cons.inj heq).1 hc
    | cons d pre =>
      have hlast := h pre post (List.cons.inj heq).2
      obtain ⟨d', pre, rfl⟩ : ∃ d' pre', pre = d' :: pre' := by
        cases pre with
        | nil => cases hlast
        | cons d' pre' => exact ⟨d', pre', rfl⟩
      rwa [List.getLast?_cons_cons]

/-- **Joined pairs come back** from the line feeds if and only if there are no
others. -/
theorem split_join_iff (s : List Char) : split (join s) = s ↔ AllPaired s := by
  fun_induction join s with
  | case1 =>
    refine iff_of_true rfl fun pre post h => ?_
    exact absurd h.symm (by simp)
  | case2 s ih => rw [allPaired_pair, ← ih, split, if_pos rfl, List.cons_inj_right,
      List.cons_inj_right]
  | case3 c s hno ih =>
    rw [split]
    by_cases hc : c = '\n'
    · subst hc
      rw [if_pos rfl]
      exact iff_of_false (by simp) (not_allPaired_feed s)
    · rw [if_neg hc, List.cons_inj_right, ih, allPaired_cons hno hc]

end Endings

/-- **A file that is written back untouched** is as it was if and only if it
has no pairs, or has no line feeds but in pairs. -/
theorem FileText.contents_text_eq_iff (raw : List Char) :
    (ofContents raw).contents (ofContents raw).text = raw ↔
      ¬ ['\r', '\n'] <:+: raw ∨ Endings.AllPaired raw := by
  rw [← Endings.hasPair_iff]
  unfold ofContents
  by_cases hpair : Endings.hasPair raw = true
  · rw [if_pos hpair, or_iff_right (not_not_intro hpair), ← Endings.split_join_iff]
    rfl
  · rw [if_neg hpair]
    exact iff_of_true rfl (.inl hpair)

/-! ### Files that are written -/

namespace Folder

theorem read_eq_ok_iff {d : Folder} {path : String} {c : List Char} :
    d.read path = .ok c ↔ d.isFolder (resolve path) = false ∧
      d.isBlocked (resolve path) = false ∧ d.file? (resolve path) = some c ∧
        meansFolder path = false := by
  simp only [read]
  cases d.isFolder (resolve path) <;> cases d.isBlocked (resolve path) <;>
    cases d.file? (resolve path) <;> cases meansFolder path <;> simp

theorem map_fst_put {way : List (List Char)} (c : List Char) :
    ∀ {fs : List (String × List Char)}, (∃ f ∈ fs, resolve f.1 = way) →
      (put way c fs).map (·.1) = fs.map (·.1)
  | [], h => by simp at h
  | f :: fs, h => by
    rw [put]
    by_cases hf : resolve f.1 = way
    · rw [if_pos hf]
      rfl
    · have hfs : ∃ f ∈ fs, resolve f.1 = way := by simpa [hf] using h
      rw [if_neg hf, List.map_cons, map_fst_put c hfs]
      rfl

theorem find?_put {way : List (List Char)} (c : List Char) :
    ∀ {fs : List (String × List Char)}, (∃ f ∈ fs, resolve f.1 = way) →
      ((put way c fs).find? fun f => resolve f.1 == way).map (·.2) = some c
  | [], h => by simp at h
  | f :: fs, h => by
    rw [put]
    by_cases hf : resolve f.1 = way
    · simp [hf]
    · have hfs : ∃ f ∈ fs, resolve f.1 = way := by simpa [hf] using h
      have hne : (resolve f.1 == way) = false := beq_false_of_ne hf
      rw [if_neg hf, List.find?_cons_of_neg (by rw [hne]; exact Bool.false_ne_true),
        find?_put c hfs]

theorem find?_put_of_ne {way way' : List (List Char)} (hne : way' ≠ way) (c : List Char) :
    ∀ {fs : List (String × List Char)}, (∃ f ∈ fs, resolve f.1 = way) →
      ((put way c fs).find? fun f => resolve f.1 == way').map (·.2) =
        (fs.find? fun f => resolve f.1 == way').map (·.2)
  | [], h => by simp at h
  | f :: fs, h => by
    rw [put]
    by_cases hf : resolve f.1 = way
    · have hother : (resolve f.1 == way') = false := beq_false_of_ne (hf ▸ hne.symm)
      rw [if_pos hf, List.find?_cons_of_neg (by simpa using hother),
        List.find?_cons_of_neg (by simpa using hother)]
    · have hfs : ∃ f ∈ fs, resolve f.1 = way := by simpa [hf] using h
      rw [if_neg hf, List.find?_cons, List.find?_cons]
      cases resolve f.1 == way' with
      | true => rfl
      | false => exact find?_put_of_ne hne c hfs

theorem isFolder_congr {d : Folder} {fs : List (String × List Char)}
    (h : fs.map (·.1) = d.files.map (·.1)) (way : List (List Char)) :
    isFolder { d with files := fs } way = d.isFolder way := by
  have hany : ∀ gs : List (String × List Char),
      (gs.any fun f => way.isPrefixOf (resolve f.1) && resolve f.1 != way) =
        (gs.map (·.1)).any fun path => way.isPrefixOf (resolve path) && resolve path != way :=
    fun gs => by rw [List.any_map]; rfl
  simp only [isFolder]
  rw [hany, hany, h]

theorem isBlocked_congr {d : Folder} {fs : List (String × List Char)}
    (h : fs.map (·.1) = d.files.map (·.1)) (way : List (List Char)) :
    isBlocked { d with files := fs } way = d.isBlocked way := by
  have hany : ∀ gs : List (String × List Char),
      (gs.any fun f => (resolve f.1).isPrefixOf way && resolve f.1 != way) =
        (gs.map (·.1)).any fun path => (resolve path).isPrefixOf way && resolve path != way :=
    fun gs => by rw [List.any_map]; rfl
  simp only [isBlocked]
  rw [hany, hany, h]

/-- **A file that can be read can be written**: it reads as it was written
then, and what is read at other paths is what it was. -/
theorem exists_write_of_read {d : Folder} {path : String} {raw : List Char}
    (h : d.read path = .ok raw) (c : List Char) :
    ∃ d', d.write path c = .ok d' ∧ d'.read path = .ok c ∧
      ∀ path', resolve path' ≠ resolve path → d'.read path' = d.read path' := by
  obtain ⟨hfolder, hblocked, hfile, hmeans⟩ := read_eq_ok_iff.mp h
  obtain ⟨f, hfind, -⟩ := Option.map_eq_some_iff.mp hfile
  have hresolve : resolve f.1 = resolve path := by simpa using List.find?_some hfind
  have hmem : ∃ f ∈ d.files, resolve f.1 = resolve path :=
    ⟨f, List.mem_of_find?_eq_some hfind, hresolve⟩
  have hpaths := map_fst_put c hmem
  have hparent : d.isFolder (resolve path).dropLast = true := by
    have hne : resolve path ≠ [] := by
      intro hnil
      rw [hnil] at hfolder
      exact absurd hfolder (by simp [isFolder])
    have hother : resolve path ≠ (resolve path).dropLast := by
      intro heq
      have hlen := congrArg List.length heq
      have hpos := List.length_pos_iff.mpr hne
      rw [List.length_dropLast] at hlen
      omega
    unfold isFolder
    simp only [Bool.or_eq_true, List.any_eq_true]
    refine .inr ⟨f, List.mem_of_find?_eq_some hfind, ?_⟩
    rw [hresolve, Bool.and_eq_true, List.isPrefixOf_iff_prefix, bne_iff_ne]
    exact ⟨List.dropLast_prefix _, hother⟩
  refine ⟨{ d with files := put (resolve path) c d.files }, ?_, ?_, fun path' hne => ?_⟩
  · unfold write
    simp only [hfolder, hblocked, hparent, hmeans]
    rfl
  · rw [read_eq_ok_iff, isFolder_congr hpaths, isBlocked_congr hpaths]
    exact ⟨hfolder, hblocked, find?_put c hmem, hmeans⟩
  · have hfile' : file? { d with files := put (resolve path) c d.files } (resolve path') =
        d.file? (resolve path') := find?_put_of_ne hne c hmem
    simp only [read]
    rw [isFolder_congr hpaths, isBlocked_congr hpaths, hfile']

end Folder

/-! ### Runs without keys -/

namespace Program

/-- Without keys the file is written as it was read. -/
theorem exists_run?_of_no_keys {d : Folder} {a : Arguments} {path : String} {raw : List Char}
    (hpath : a.path = some path) (hwrite : a.write = true) (hkeys : a.keys = [])
    (hfile : a.keysFile = none) (hread : d.read path = .ok raw) :
    ∃ r, run? d a = some (.ok r) ∧
      r.folder.read path = .ok ((FileText.ofContents raw).contents (FileText.ofContents raw).text) ∧
        ∀ path', Folder.resolve path' ≠ Folder.resolve path →
          r.folder.read path' = d.read path' := by
  let f := FileText.ofContents raw
  have hsource : source d a = .ok f := by
    unfold source
    rw [hpath]
    simp only [hread]
    rfl
  have hbursts : bursts d a = .ok [] := by
    unfold bursts
    rw [hfile, hkeys]
  have htext : (Session.configured { text := f.text } (config d a)).editor.text = f.text := rfl
  obtain ⟨d', hd', hread', hother⟩ := Folder.exists_write_of_read hread (f.contents f.text)
  refine ⟨{ code := 0, err := status (Session.configured { text := f.text }
    (config d a)).editor.screen, folder := d' }, ?_, hread', hother⟩
  unfold run?
  simp only [hsource, hbursts, typeAll?, Option.map_some]
  show some (deliver d a f (Session.configured { text := f.text } (config d a))) = _
  unfold deliver
  rw [hwrite, hpath, htext]
  simp only [hd']

/-- **A run without keys** that writes its file back leaves it as it was if and
only if it has no pairs of carriage return and line feed, or has no line feeds
but in pairs. Other files stay as they are. -/
theorem writes_back (raw : List Char) :
    ((FileText.ofContents raw).contents (FileText.ofContents raw).text = raw ↔
        ¬ ['\r', '\n'] <:+: raw ∨ Endings.AllPaired raw) ∧
      ∀ (d : Folder) (a : Arguments) (path : String), a.path = some path → a.write = true →
        a.keys = [] → a.keysFile = none → d.read path = .ok raw →
          ∃ r, run? d a = some (.ok r) ∧
            r.folder.read path =
              .ok ((FileText.ofContents raw).contents (FileText.ofContents raw).text) ∧
            (r.folder.read path = .ok raw ↔
              ¬ ['\r', '\n'] <:+: raw ∨ Endings.AllPaired raw) ∧
            ∀ path', Folder.resolve path' ≠ Folder.resolve path →
              r.folder.read path' = d.read path' := by
  have hiff := FileText.contents_text_eq_iff raw
  refine ⟨hiff, fun d a path hpath hwrite hkeys hfile hread => ?_⟩
  obtain ⟨r, hrun, hback, hother⟩ := exists_run?_of_no_keys hpath hwrite hkeys hfile hread
  refine ⟨r, hrun, hback, ?_, hother⟩
  rw [hback, Except.ok.injEq]
  exact hiff

/-- Carriage returns of their own beside pairs stay, and a line feed of its own
beside a pair does not. -/
theorem writes_back_mixed :
    let raw := ['a', '\r', '\r', '\n', 'b', '\r', '\n']
    let raw' := ['a', '\r', '\n', 'b', '\n']
    let d : Folder := { files := [("f", raw), ("g", raw')] }
    d.read "f" = .ok raw ∧ d.read "g" = .ok raw' ∧
      (∃ r, run? d { path := some "f", write := true } = some (.ok r) ∧
        r.folder.read "f" = .ok raw) ∧
      ∃ r, run? d { path := some "g", write := true } = some (.ok r) ∧
        r.folder.read "g" ≠ .ok raw' := by
  intro raw raw' d
  have hread : d.read "f" = .ok raw := by decide
  have hread' : d.read "g" = .ok raw' := by decide
  obtain ⟨-, hrun⟩ := writes_back raw
  obtain ⟨-, hrun'⟩ := writes_back raw'
  obtain ⟨r, hr, hback, -⟩ := hrun d { path := some "f", write := true } "f" rfl rfl rfl rfl hread
  obtain ⟨r', hr', hback', -⟩ :=
    hrun' d { path := some "g", write := true } "g" rfl rfl rfl rfl hread'
  exact ⟨hread, hread', ⟨r, hr, hback⟩, r', hr', by rw [hback']; decide⟩

end Program
end Keywise
