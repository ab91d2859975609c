/-
# Replace mode takes back what was typed

What a key wrote over is kept, and the key that deletes puts it back: after
both the editor is as it was, but for the column aimed at
(`Replace.handle_handle_takesBack`). So keys that are typed and then taken back
might as well not have been typed (`Replace.alike_handleAll_kept`), whether
they write over a character, go in before a break, or break the line.

Key definitions: `Key.Types`, `Key.kept`, `Key.Covered`, `Replace.handleAll`.
Key theorems: `Replace.handle_handle_takesBack`, `Replace.alike_handleAll_kept`,
`Replace.takes_back`.
-/
import Keywise.Proofs.Mode.Asking
import Keywise.Proofs.Text.Splices
import Mathlib.Data.List.Induction
import Mathlib.Data.List.Infix

namespace Keywise

/-! ### Keys that are typed and taken back -/

namespace Key

/-- The key types a character or breaks the line. -/
def Types (k : Key) : Prop := k.char?.isSome ∨ k = .plain .enter

instance (k : Key) : Decidable k.Types := inferInstanceAs (Decidable (_ ∨ _))

/-- The key takes back the one typed before. -/
def TakesBack (k : Key) : Prop := k.code = .backspace

instance (k : Key) : Decidable k.TakesBack := inferInstanceAs (Decidable (_ = _))

theorem Types.not_takesBack {k : Key} (h : k.Types) : ¬ k.TakesBack := by
  rintro hback
  rcases h with h | rfl
  · rw [char?, show k.code = .backspace from hback] at h
    cases h
  · cases hback

/-- The keys typed once the next key has been pressed. -/
def keep (typed : List Key) (k : Key) : List Key :=
  if k.TakesBack then typed.dropLast else typed ++ [k]

/-- The keys that are not taken back. -/
def kept (ks : List Key) : List Key := ks.foldl keep []

/-- Keys are typed and taken back, and no more are taken back than were typed
before. -/
structure Covered (ks : List Key) : Prop where
  keys : ∀ k ∈ ks, k.Types ∨ k.TakesBack
  start : ∀ p, p <+: ks → p.countP (·.TakesBack) ≤ p.countP (·.Types)

instance (ks : List Key) : Decidable (Covered ks) :=
  decidable_of_iff ((∀ k ∈ ks, k.Types ∨ k.TakesBack) ∧
    ∀ p ∈ ks.inits, p.countP (·.TakesBack) ≤ p.countP (·.Types))
    ⟨fun h => ⟨h.1, fun p hp => h.2 p ((List.mem_inits p ks).mpr hp)⟩,
      fun h => ⟨h.keys, fun p hp => h.start p ((List.mem_inits p ks).mp hp)⟩⟩

theorem kept_concat (ks : List Key) (k : Key) : kept (ks ++ [k]) = keep (kept ks) k := by
  rw [kept, List.foldl_append]
  rfl

namespace Covered

variable {ks : List Key} {k : Key}

theorem of_concat (h : Covered (ks ++ [k])) : Covered ks :=
  ⟨fun k' hk' => h.keys k' (List.mem_append_left _ hk'),
    fun p hp => h.start p (hp.trans (List.prefix_append ks [k]))⟩

/-- **As many keys are kept** as there are more typed than taken back, and each
of them was typed. -/
theorem kept_spec (h : Covered ks) : (∀ k ∈ kept ks, k.Types) ∧
    (kept ks).length + ks.countP (·.TakesBack) = ks.countP (·.Types) := by
  induction ks using List.reverseRecOn with
  | nil => exact ⟨nofun, rfl⟩
  | append_singleton ks k ih =>
    obtain ⟨htypes, hlen⟩ := ih h.of_concat
    have hcount := h.start _ (List.prefix_refl _)
    rw [kept_concat, keep]
    simp only [List.countP_append, List.countP_singleton, decide_eq_true_eq] at hcount ⊢
    by_cases hback : k.TakesBack
    · have hk : ¬ k.Types := fun ht => ht.not_takesBack hback
      rw [if_pos hback, if_pos hback, if_neg hk] at *
      refine ⟨fun k' hk' => htypes k' (List.dropLast_subset _ hk'), ?_⟩
      rw [List.length_dropLast]
      omega
    · have hk : k.Types := (h.keys k (by simp)).resolve_right hback
      rw [if_neg hback, if_neg hback, if_pos hk]
      refine ⟨fun k' hk' => ?_, ?_⟩
      · rcases List.mem_append.mp hk' with hk' | hk'
        · exact htypes k' hk'
        · exact List.mem_singleton.mp hk' ▸ hk
      · rw [List.length_append, List.length_singleton]
        omega

theorem exists_kept_eq_concat (h : Covered (ks ++ [k])) (hback : k.TakesBack) :
    ∃ qs q, kept ks = qs ++ [q] ∧ q.Types := by
  have hcount := h.start _ (List.prefix_refl _)
  have hk : ¬ k.Types := fun ht => ht.not_takesBack hback
  simp only [List.countP_append, List.countP_singleton, decide_eq_true_eq, if_pos hback,
    if_neg hk] at hcount
  obtain ⟨htypes, hlen⟩ := h.of_concat.kept_spec
  rcases List.eq_nil_or_concat (kept ks) with hnil | ⟨qs, q, hconcat⟩
  · rw [hnil, List.length_nil] at hlen
    omega
  · rw [List.concat_eq_append] at hconcat
    exact ⟨qs, q, hconcat, htypes q (by rw [hconcat]; simp)⟩

end Covered
end Key

namespace Editor

/-- The same editor, but for the column aimed at. -/
def Alike (e e' : Editor) : Prop := ∃ sticky, e' = { e with sticky }

variable {e e' : Editor}

theorem Alike.refl (e : Editor) : e.Alike e := ⟨e.sticky, rfl⟩

theorem Alike.symm : e.Alike e' → e'.Alike e := by
  rintro ⟨_, rfl⟩
  exact ⟨e.sticky, rfl⟩

theorem Alike.text : e.Alike e' → e'.text = e.text := by
  rintro ⟨_, rfl⟩
  rfl

theorem Alike.cursor : e.Alike e' → e'.cursor = e.cursor := by
  rintro ⟨_, rfl⟩
  rfl

theorem alike_moveTo_cursor (h : e.cursor ≤ e.text.length) (s : Stickiness) :
    e.Alike (e.moveTo e.cursor s) := by
  refine ⟨(e.moveTo e.cursor s).sticky, ?_⟩
  cases s <;> simp only [moveTo, Nat.min_eq_left h]

end Editor

namespace Replace

variable {s : Replace} {e e' : Editor} {k : Key}

/-! ### A key, and the one that takes it back -/

/-- Writes `c` over `under`, or inserts it if there is nothing to write over. -/
def write (s : Replace) (e : Editor) (c : Char) (under : Option Char) : Replace × Editor × Bool :=
  ({ s with replaced := under :: s.replaced },
    (e.replace e.cursor under.toList.length [c]).moveTo (e.cursor + 1) .column, true)

theorem slice_under? (e : Editor) :
    e.text.slice e.cursor (under? e).toList.length = (under? e).toList := by
  unfold under? Text.slice
  cases hchar : e.text[e.cursor]? with
  | none => rfl
  | some c =>
    obtain ⟨hlt, hget⟩ := List.getElem?_eq_some_iff.mp hchar
    rw [Option.filter_some]
    split
    · rw [List.drop_eq_getElem_cons hlt, hget]
      rfl
    · rfl

theorem cursor_write (hle : e.cursor ≤ e.text.length) (c : Char) (under : Option Char) :
    (s.write e c under).2.1.cursor = e.cursor + 1 := by
  refine Nat.min_eq_left ?_
  show e.cursor + 1 ≤ (e.text.splice e.cursor under.toList.length [c]).length
  simp only [Text.splice, List.length_append, List.length_take, List.length_singleton]
  omega

/-- **A key that types** writes over what is under the cursor, or inserts. -/
theorem handle_types (hk : k.Types) : ∃ c, ∃ under : Editor → Option Char,
    (∀ e, e.text.slice e.cursor (under e).toList.length = (under e).toList) ∧
      (∀ e e', e.Alike e' → under e' = under e) ∧ ∀ s e, handle s e k = s.write e c (under e) := by
  rcases hk with hk | rfl
  · obtain ⟨c, hc⟩ := Option.isSome_iff_exists.mp hk
    refine ⟨c, under?, slice_under?, ?_, fun s e => ?_⟩
    · rintro e _ ⟨_, rfl⟩
      rfl
    · have hback : k.code ≠ .backspace := Key.Types.not_takesBack (Or.inl hk)
      have henter : k ≠ .plain .enter := by
        rintro rfl
        cases hc
      have hlen : (under? e).toList.length = if (under? e).isSome then 1 else 0 := by
        cases under? e <;> rfl
      unfold handle write
      rw [if_neg hback, if_neg henter, Typing.control?_of_char? e hc, hlen]
      simp only [hc]
      rfl
  · exact ⟨'\n', fun _ => none, fun _ => rfl, fun _ _ _ => rfl, fun _ _ => rfl⟩

/-- The key that takes back puts what was written over in its place. -/
theorem handle_takesBack (hk : k.TakesBack) (hcursor : 0 < e.cursor) {under : Option Char}
    {rest : List (Option Char)} (hs : s.replaced = under :: rest) :
    handle s e k = ({ s with replaced := rest },
      (e.replace (e.cursor - 1) 1 under.toList).moveTo (e.cursor - 1) .column, true) := by
  unfold handle restore
  have hcode : k.code = .backspace := hk
  rw [if_pos hcode, if_neg (Nat.ne_of_gt hcursor), hs]
  cases under <;> rfl

/-- **A key is taken back.** -/
theorem handle_handle_takesBack (hle : e.cursor ≤ e.text.length) (hk : k.Types) {b : Key}
    (hb : b.TakesBack) : handle (handle s e k).1 (handle s e k).2.1 b =
      (s, e.moveTo e.cursor .column, true) := by
  obtain ⟨c, under, hslice, -, hhandle⟩ := handle_types hk
  have hback : (e.text.splice e.cursor (under e).toList.length [c]).splice e.cursor 1
      (under e).toList = e.text := by
    have hput := Text.splice_splice_slice hle (under e).toList.length [c]
    rwa [hslice] at hput
  have hcursor := cursor_write (s := s) hle c (under e)
  have htwice : ((s.write e c (under e)).2.1.replace e.cursor 1 (under e).toList).moveTo
      e.cursor .column = e.moveTo e.cursor .column := by
    show Editor.moveTo { e with
      text := (e.text.splice e.cursor (under e).toList.length [c]).splice e.cursor 1
        (under e).toList } e.cursor .column = _
    rw [hback]
  have hs : (s.write e c (under e)).1.replaced = under e :: s.replaced := rfl
  rw [hhandle, handle_takesBack hb (hcursor ▸ Nat.succ_pos _) hs, hcursor, Nat.add_sub_cancel,
    htwice]
  rfl

/-! ### The column makes no difference -/

theorem handle_of_alike_types (h : e.Alike e') (hk : k.Types) : handle s e k = handle s e' k := by
  obtain ⟨c, under, -, hunder, hhandle⟩ := handle_types hk
  rw [hhandle, hhandle, hunder e e' h]
  obtain ⟨x, rfl⟩ := h
  rfl

theorem handle_of_alike_takesBack (h : e.Alike e') (hk : k.TakesBack) (hcursor : 0 < e.cursor) :
    handle s e k = handle s e' k := by
  obtain ⟨x, rfl⟩ := h
  have hcode : k.code = .backspace := hk
  have hne := Nat.ne_of_gt hcursor
  unfold handle restore
  rw [if_pos hcode, if_pos hcode, if_neg hne, if_neg hne]
  cases s.replaced with
  | nil => rfl
  | cons under rest => cases under <;> rfl

/-! ### Any keys -/

/-- Handles keys one after the other. -/
def handleAll (s : Replace) (e : Editor) (ks : List Key) : Replace × Editor :=
  ks.foldl (fun r k => ((r.1.handle r.2 k).1, (r.1.handle r.2 k).2.1)) (s, e)

theorem handleAll_concat (ks : List Key) (k : Key) : handleAll s e (ks ++ [k]) =
    ((handle (handleAll s e ks).1 (handleAll s e ks).2 k).1,
      (handle (handleAll s e ks).1 (handleAll s e ks).2 k).2.1) :=
  List.foldl_append

theorem cursor_handleAll_le (hle : e.cursor ≤ e.text.length) (ks : List Key) :
    (handleAll s e ks).2.cursor ≤ (handleAll s e ks).2.text.length := by
  induction ks using List.reverseRecOn with
  | nil => exact hle
  | append_singleton ks k ih =>
    obtain ⟨rs, -, hedited⟩ := edited_handle (handleAll s e ks).1 (handleAll s e ks).2 k
    rw [handleAll_concat]
    exact hedited.cursor_le ih

/-- **Keys that are taken back** might as well not have been typed. -/
theorem alike_handleAll_kept (hle : e.cursor ≤ e.text.length) {ks : List Key}
    (h : Key.Covered ks) : (handleAll s e ks).1 = (handleAll s e (Key.kept ks)).1 ∧
      (handleAll s e ks).2.Alike (handleAll s e (Key.kept ks)).2 := by
  induction ks using List.reverseRecOn with
  | nil => exact ⟨rfl, .refl e⟩
  | append_singleton ks k ih =>
    obtain ⟨hstate, halike⟩ := ih h.of_concat
    rw [Key.kept_concat, Key.keep, handleAll_concat, hstate]
    by_cases hback : k.TakesBack
    · obtain ⟨qs, q, hkept, hq⟩ := h.exists_kept_eq_concat hback
      have hle' := cursor_handleAll_le (s := s) hle qs
      rw [if_pos hback, hkept, List.dropLast_concat]
      have hcursor : 0 < (handleAll s e ks).2.cursor := by
        obtain ⟨c, under, -, -, hhandle⟩ := Replace.handle_types hq
        rw [← halike.cursor, hkept, handleAll_concat, hhandle, cursor_write hle']
        exact Nat.succ_pos _
      rw [handle_of_alike_takesBack halike hback hcursor, hkept, handleAll_concat,
        handle_handle_takesBack hle' hq hback]
      exact ⟨rfl, (Editor.alike_moveTo_cursor hle' _).symm⟩
    · have hk : k.Types := (h.keys k (by simp)).resolve_right hback
      rw [if_neg hback, handleAll_concat, handle_of_alike_types halike hk]
      exact ⟨rfl, .refl _⟩

/-- **Replace mode takes back what was typed.** Entered anywhere in a text, it
is given keys that type and keys that take back, of which there are never more
than was typed. The text and the cursor are then the same as if only the keys
had been typed that were not taken back. So as many keys that take back as were
typed lead back to the text and the cursor there were. -/
theorem takes_back {e : Editor} (hle : e.cursor ≤ e.text.length) {ks : List Key}
    (h : Key.Covered ks) :
    let typed (ks : List Key) := (handleAll (enter e) e ks).2
    ((typed ks).text = (typed (Key.kept ks)).text ∧
        (typed ks).cursor = (typed (Key.kept ks)).cursor) ∧
      (ks.countP (·.TakesBack) = ks.countP (·.Types) →
        (typed ks).text = e.text ∧ (typed ks).cursor = e.cursor) := by
  intro typed
  obtain ⟨-, halike⟩ := alike_handleAll_kept (s := enter e) hle h
  refine ⟨⟨halike.text.symm, halike.cursor.symm⟩, fun hcount => ?_⟩
  have hkept : Key.kept ks = [] := by
    obtain ⟨-, hlen⟩ := h.kept_spec
    exact List.length_eq_zero_iff.mp (by omega)
  rw [hkept] at halike
  exact ⟨halike.text.symm, halike.cursor.symm⟩

/-- A character is written over, another one is put in before the break, and
the line is broken; all but the first is taken back. -/
theorem takes_back_at_break :
    let e : Editor := { text := ['a', 'b', '\n', 'c'], cursor := 1 }
    let back : Key := .plain .backspace
    let typed (ks : List Key) := (handleAll (enter e) e ks).2
    (typed [.char 'x', .char 'y', .plain .enter, back, back]).text = ['a', 'x', '\n', 'c'] ∧
      (typed [.char 'x', .char 'y', back, back]).text = e.text := by
  intro e back typed
  have hle : e.cursor ≤ e.text.length := by decide
  have hsome : Key.Covered [.char 'x', .char 'y', .plain .enter, back, back] := by decide
  have hall : Key.Covered [.char 'x', .char 'y', back, back] := by decide
  exact ⟨(takes_back hle hsome).1.1, ((takes_back hle hall).2 rfl).1⟩

end Replace
end Keywise
