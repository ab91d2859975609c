/-
# The inner sub-word and the word it is in

To the left an inner sub-word never leaves the word at the cursor: it begins at
the cursor, if the word does, and else where a step back from behind the cursor
leads to, and between two stops there is one word
(`Words.hasWordChar_of_backward_le`). To the right it ends where a step to an
end leads to, at most at the end of a word. This is the word at the cursor if
the cursor is before its last character (`Words.hasWordChar_of_le_wordEnd`). On
the last character it is the end of the next word, if there is one, and then
the object goes on behind the word at the cursor: it is within it only if the
text ends there (`TextObject.innerSubword_in_word_iff`).

Key definitions: `Unicode.members`, `Words.HasWordChar`, `subwordStart`.
Key theorems: `CharClass.of_eq_word_iff`, `Words.hasWordChar_of_backward_le`,
`Words.hasWordChar_of_le_wordEnd`, `subwordObject_eq`,
`TextObject.innerSubword_in_word_iff`.
-/
import Keywise.Proofs.Motion.SubwordSteps
import Keywise.TextObject

namespace Keywise

/-! ### Classes of characters -/

namespace Unicode

/-- The code points between the boundaries that enter a class and those that
leave it. -/
def members : List Nat → List Nat
  | a :: b :: bs => List.range' a (b - a) ++ members bs
  | _ => []

theorem mem_members : ∀ {bs : List Nat} {n : Nat}, bs.length % 2 = 0 →
    withinFrom false bs n = true → n ∈ members bs
  | [], _, _, h => by cases h
  | [_], _, heven, _ => by cases heven
  | a :: b :: bs, n, heven, h => by
    rw [withinFrom] at h
    split at h
    · cases h
    · rw [Bool.not_false, withinFrom] at h
      rw [members, List.mem_append, List.mem_range'_1]
      split at h
      · exact .inl ⟨by omega, by omega⟩
      · rw [List.length_cons, List.length_cons] at heven
        exact .inr (mem_members (by omega) h)

end Unicode

namespace CharClass

theorem isWordChar_eq_false_of_isWhitespace {c : Char} (h : Unicode.isWhitespace c = true) :
    isWordChar c = false := by
  have hmem : c.toNat ∈ Unicode.members Unicode.whitespace := Unicode.mem_members rfl h
  have hblanks : ∀ n ∈ Unicode.members Unicode.whitespace, isWordChar (.ofNat n) = false := by
    decide +kernel
  exact Char.ofNat_toNat c ▸ hblanks _ hmem

theorem of_eq_word_iff {c : Char} : CharClass.of false c = .word ↔ isWordChar c = true := by
  unfold CharClass.of
  by_cases hblank : Unicode.isWhitespace c = true
  · simp [hblank, isWordChar_eq_false_of_isWhitespace hblank]
  · by_cases hword : isWordChar c = true <;> simp [hblank, hword]

theorem isWordChar_of_isUpper {c : Char} (h : c.isUpper = true) : isWordChar c = true := by
  have hbounds : 65 ≤ c.toNat ∧ c.toNat ≤ 90 := decide_eq_true_iff.mp h
  have hor : c.isAlphanum = (c.isUpper || c.isLower || c.isDigit) := rfl
  have halnum : c.isAlphanum = true := by rw [hor, h, Bool.true_or, Bool.true_or]
  rw [isWordChar, Unicode.isAlphanumeric, if_pos (by omega), halnum, Bool.true_or]

end CharClass

/-! ### Where the characters of a word are -/

namespace Words

variable {big : Bool} {t : Text} {p q : Nat}

/-- Whether there is a word character at `p`. -/
def HasWordChar (t : Text) (p : Nat) : Prop := t[p]?.any CharClass.isWordChar = true

instance (t : Text) (p : Nat) : Decidable (HasWordChar t p) :=
  inferInstanceAs (Decidable (_ = true))

theorem hasWordChar_iff : HasWordChar t p ↔ p < t.length ∧ classAt false t p = .word := by
  unfold HasWordChar classAt charAt
  rw [CharClass.of_eq_word_iff, List.getD_eq_getElem?_getD]
  by_cases hp : p < t.length
  · simp [hp]
  · simp [hp]

/-- Where no stop is passed on the way back from a word, the word goes on. -/
theorem classAt_eq_of_no_stop {a : Nat} : ∀ {q : Nat}, q < t.length →
    classAt big t q ≠ .whitespace → (∀ i, a < i → i ≤ q → ¬ IsStop big t i) →
      ∀ i, a ≤ i → i ≤ q → classAt big t i = classAt big t q
  | 0, _, _, _, i, _, hi => by rw [Nat.le_zero.mp hi]
  | q + 1, hq, hword, hnone, i, hai, hiq => by
    rcases Nat.eq_or_lt_of_le hiq with rfl | hlt
    · rfl
    · have hsame : classAt big t q = classAt big t (q + 1) := by
        by_contra hne
        exact hnone (q + 1) (by omega) (Nat.le_refl _) ⟨hq, .inl ⟨hword, .inr hne⟩⟩
      rw [← hsame] at hword ⊢
      exact classAt_eq_of_no_stop (Nat.lt_of_succ_lt hq) hword
        (fun j haj hjq => hnone j haj (Nat.le_succ_of_le hjq)) i hai (Nat.le_of_lt_succ hlt)

/-- Where no word end is passed on the way on in a word, the word goes on. -/
theorem classAt_eq_of_no_wordEnd {a q : Nat} (hq : q < t.length)
    (hword : classAt big t a ≠ .whitespace) (hnone : ∀ i, a ≤ i → i < q → ¬ IsWordEnd big t i)
    {i : Nat} (hai : a ≤ i) (hiq : i ≤ q) : classAt big t i = classAt big t a := by
  induction hai with
  | refl => rfl
  | @step i hai ih =>
    have hsame := ih (Nat.le_of_succ_le hiq)
    by_contra hne
    exact hnone i hai hiq ⟨by omega, hsame ▸ hword, .inr fun heq => hne (heq.trans hsame)⟩

theorem wordEnd_lt_length (hp : p < t.length) : wordEnd big t p < t.length := by
  rcases wordEnd_spec big t p with ⟨⟨hend, -⟩, -⟩ | ⟨-, heq⟩
  · exact hend.1
  · omega

/-- Where a word goes on, or the text starts, there are word characters only back
to the place a step back leads to. -/
theorem hasWordChar_of_backward_le (hword : HasWordChar t p)
    (hbefore : p = 0 ∨ HasWordChar t (p - 1)) {i : Nat} (hi : backward false t p ≤ i)
    (hip : i ≤ p) : HasWordChar t i := by
  rcases Nat.eq_or_lt_of_le hip with rfl | hlt
  · exact hword
  rcases hbefore with rfl | hbefore
  · exact absurd hlt (Nat.not_lt_zero i)
  obtain ⟨hp, hclass⟩ := hasWordChar_iff.mp hbefore
  have hnone : ∀ j, backward false t p < j → j ≤ p - 1 → ¬ IsStop false t j := by
    intro j hj hjp hstop
    rcases backward_spec false t p with ⟨-, hlast⟩ | ⟨hnone, -⟩
    · exact absurd (hlast ⟨hstop, by omega⟩) (Nat.not_le.mpr hj)
    · have hle := hnone j hstop
      omega
  have hsame := classAt_eq_of_no_stop hp (by rw [hclass]; decide) hnone i hi (by omega)
  exact hasWordChar_iff.mpr ⟨by omega, hsame.trans hclass⟩

/-- From a word character on to the place a step to the end leads to from the
offset before it there are word characters only. -/
theorem hasWordChar_of_le_wordEnd (hword : HasWordChar t (p + 1)) {i : Nat} (hpi : p < i)
    (hi : i ≤ wordEnd false t p) : HasWordChar t i := by
  obtain ⟨hp, hclass⟩ := hasWordChar_iff.mp hword
  have hlen : wordEnd false t p < t.length := wordEnd_lt_length (Nat.lt_of_succ_lt hp)
  have hnone : ∀ j, p + 1 ≤ j → j < wordEnd false t p → ¬ IsWordEnd false t j := by
    intro j hpj hj hend
    rcases wordEnd_spec false t p with ⟨-, hleast⟩ | ⟨hnone, -⟩
    · exact absurd (hleast ⟨hend, hpj⟩) (Nat.not_le.mpr hj)
    · exact absurd (hnone j hend) (Nat.not_le.mpr hpj)
  have hsame := classAt_eq_of_no_wordEnd hlen (by rw [hclass]; decide) hnone hpi hi
  exact hasWordChar_iff.mpr ⟨Nat.lt_of_le_of_lt hi hlen, hsame.trans hclass⟩

end Words

open Words Subword

variable {t : Text} {p : Nat}

/-! ### The edges of the object -/

/-- Where a sub-word at `p` begins: at `p`, if a word does, and else at the last
boundary up to it. -/
def subwordStart (t : Text) (p : Nat) : Nat :=
  if decide (0 < p) && (t[p - 1]?.any fun c => !CharClass.isWordChar c) &&
    t[p]?.any CharClass.isWordChar then p
  else SubwordStep.backward.locate t p (p + 1)

/-- A step back from behind a character leads to it or before it, and not past
where the word motion leads. -/
theorem locate_backward_bounds (hp : p < t.length) :
    Words.backward false t p ≤ SubwordStep.backward.locate t p (p + 1) ∧
      SubwordStep.backward.locate t p (p + 1) ≤ p := by
  have hword : Words.backward false t p ≤ p := Words.backward_le
  have hleft : (SubwordStep.backward.window t p (p + 1)).left = Words.backward false t p :=
    Nat.min_eq_left (Nat.le_succ_of_le hword)
  have hright : (SubwordStep.backward.window t p (p + 1)).right = p + 1 :=
    Nat.max_eq_right (Nat.le_succ_of_le hword)
  have hlen := SubwordStep.length_window t p .backward (show p + 1 ≤ t.length from hp)
  rcases SubwordStep.lastIn_locate_backward t p (p + 1) with ⟨q, hq, heq⟩ | ⟨-, heq⟩
  · have hlt := hq.1.bounds.2
    omega
  · omega

/-- The object begins at the cursor or before it, and up to the cursor there are
word characters only. -/
theorem subwordStart_bounds (hword : HasWordChar t p) :
    subwordStart t p ≤ p ∧ ∀ i, subwordStart t p ≤ i → i ≤ p → HasWordChar t i := by
  have hp := (hasWordChar_iff.mp hword).1
  unfold subwordStart
  split
  · exact ⟨Nat.le_refl p, fun i hpi hip => Nat.le_antisymm hip hpi ▸ hword⟩
  next hstart =>
    obtain ⟨hge, hle⟩ := locate_backward_bounds hp
    have hbefore : p = 0 ∨ HasWordChar t (p - 1) := by
      refine (Nat.eq_zero_or_pos p).imp_right fun hpos => ?_
      by_contra hno
      refine hstart ?_
      unfold HasWordChar at hno hword
      rw [List.getElem?_eq_getElem (Nat.lt_of_le_of_lt (Nat.sub_le p 1) hp)] at hno ⊢
      simpa [hword, hpos] using hno
    exact ⟨hle, fun i hi => hasWordChar_of_backward_le hword hbefore (Nat.le_trans hge hi)⟩

/-- A step to an end from a character of the text does not lead past the end of
a word. -/
theorem locate_wordEnd_le (hp : p < t.length) : p ≤ SubwordStep.wordEnd.locate t p p ∧
    SubwordStep.wordEnd.locate t p p ≤ Words.wordEnd false t p := by
  have hword : p ≤ Words.wordEnd false t p := Words.le_wordEnd hp
  obtain ⟨hleft, hright⟩ := SubwordStep.wordEnd_window_of_le hword
  obtain ⟨hge, hend⟩ := SubwordStep.locate_wordEnd_bounds p (Nat.le_of_lt hp)
  omega

/-- **The inner sub-word** without a count, by its edges. -/
theorem subwordObject_eq (hp : p < t.length) : subwordObject false t none p =
    .between (subwordStart t p) (SubwordStep.wordEnd.locate t p p + 1) := by
  have hstop : stopAt (Words.wordEnd false t p) (SubwordStep.wordEnd.locate t p p) =
      (SubwordStep.wordEnd.locate t p p, false) :=
    if_neg (Nat.not_lt.mpr (locate_wordEnd_le hp).2)
  show Range.between (subwordStart t p)
    ((stopAt (Words.wordEnd false t p) (SubwordStep.wordEnd.locate t p p)).1 + 1) = _
  rw [hstop]

theorem Subword.IsEnd.isWordChar_next {w : Text} {q : Nat} (h : IsEnd w q) :
    w[q + 1]?.any CharClass.isWordChar = true := by
  rcases h with ⟨-, hnext⟩ | ⟨-, -, -, capitals, rest, hw, hne, hupper, -⟩
  · rw [hnext]
    decide
  · obtain ⟨c, capitals, rfl⟩ := List.exists_cons_of_ne_nil hne
    rw [← List.head?_drop, hw]
    exact CharClass.isWordChar_of_isUpper (hupper c List.mem_cons_self)

theorem Text.getElem?_within {t : Text} {r : Range} {i : Nat} (h : i < (t.within r).length) :
    (t.within r)[i]? = t[r.left + i]? := by
  have hi : i < r.length := Nat.lt_of_lt_of_le h (List.length_take_le _ _)
  unfold within slice
  rw [List.getElem?_take_of_lt hi, List.getElem?_drop]

/-- On the last character of a word a step to an end leads behind it, if the
text goes on. -/
theorem lt_locate_wordEnd (hp : p + 1 < t.length) (hno : ¬ HasWordChar t (p + 1)) :
    p < SubwordStep.wordEnd.locate t p p := by
  have hlt := Nat.lt_of_succ_lt hp
  have hword : p < Words.wordEnd false t p := by
    rcases Words.wordEnd_spec false t p with ⟨⟨-, habove⟩, -⟩ | ⟨-, heq⟩
    · exact habove
    · omega
  obtain ⟨hleft, hright⟩ := SubwordStep.wordEnd_window_of_le (Nat.le_of_lt hword)
  refine Nat.lt_of_le_of_ne (locate_wordEnd_le hlt).1 fun hstill => ?_
  rcases SubwordStep.firstIn_locate_wordEnd t p (Nat.le_of_lt hlt) with ⟨i, hi, heq⟩ | ⟨-, heq⟩
  · obtain rfl : i = 0 := by omega
    have hnext := hi.1.isWordChar_next
    rw [Text.getElem?_within hi.1.lt_length, hleft] at hnext
    exact hno hnext
  · omega

namespace TextObject

/-- **When an inner sub-word stays in the word at the cursor.** With the cursor
on a word character, the object holds the cursor, and up to the cursor only word
characters. All of them are, so that it is within the word, exactly if the
cursor is not on the last character of the word, or on the last one of the
text. -/
theorem innerSubword_in_word_iff (e : Editor) (hword : HasWordChar e.text e.cursor) :
    ∃ r, (TextObject.subword false).region e none = (e, .ok r) ∧ r.contains e.cursor = true ∧
      (∀ i, r.left ≤ i → i ≤ e.cursor → HasWordChar e.text i) ∧
      ((∀ i, r.contains i = true → HasWordChar e.text i) ↔
        HasWordChar e.text (e.cursor + 1) ∨ e.cursor + 1 = e.text.length) := by
  have hp := (hasWordChar_iff.mp hword).1
  obtain ⟨hstart, hbefore⟩ := subwordStart_bounds hword
  obtain ⟨hge, hle⟩ := locate_wordEnd_le hp
  have hleft : (Range.between (subwordStart e.text e.cursor)
      (SubwordStep.wordEnd.locate e.text e.cursor e.cursor + 1)).left =
        subwordStart e.text e.cursor := Nat.min_eq_left (by omega)
  have hright : (Range.between (subwordStart e.text e.cursor)
      (SubwordStep.wordEnd.locate e.text e.cursor e.cursor + 1)).right =
        SubwordStep.wordEnd.locate e.text e.cursor e.cursor + 1 := Nat.max_eq_right (by omega)
  refine ⟨_, rfl, ?_⟩
  rw [subwordObject_eq hp]
  simp only [Range.contains, hleft, hright, Bool.and_eq_true, decide_eq_true_eq]
  refine ⟨⟨hstart, by omega⟩, hbefore, fun hall => ?_, fun hgoes i hi => ?_⟩
  · rcases Nat.eq_or_lt_of_le (Nat.succ_le_of_lt hp) with hlast | hnext
    · exact .inr hlast
    · refine .inl ?_
      by_contra hno
      have hbehind := lt_locate_wordEnd hnext hno
      exact hno (hall (e.cursor + 1) ⟨by omega, by omega⟩)
  · rcases Nat.lt_or_ge e.cursor i with hlt | hge'
    · rcases hgoes with hnext | hlast
      · exact hasWordChar_of_le_wordEnd hnext hlt (by omega)
      · have hend : wordEnd false e.text e.cursor < e.text.length := wordEnd_lt_length hp
        omega
    · exact hbefore i hi.1 hge'

/-- Within a word, and on the last character of one with another behind it. -/
theorem innerSubword_in_word_of_words :
    let e : Editor := { text := ['f', 'o', 'o', 'B', 'a', 'r', ' ', 'b'], cursor := 4 }
    let last : Editor := { e with cursor := 5 }
    (TextObject.subword false).region e none = (e, .ok (.between 3 6)) ∧
      (∀ i, (Range.between 3 6).contains i = true → HasWordChar e.text i) ∧
      (TextObject.subword false).region last none = (last, .ok (.between 3 8)) ∧
      ¬ ∀ i, (Range.between 3 8).contains i = true → HasWordChar e.text i := by
  intro e last
  obtain ⟨r, hr, -, -, hiff⟩ := innerSubword_in_word_iff e (by decide)
  obtain ⟨r', hr', -, -, hiff'⟩ := innerSubword_in_word_iff last (by decide)
  have heq : subwordObject false e.text none 4 = .between 3 6 := by decide
  have heq' : subwordObject false e.text none 5 = .between 3 8 := by decide
  obtain rfl : Range.between 3 6 = r := heq.symm.trans (Except.ok.inj (Prod.mk.inj hr).2)
  obtain rfl : Range.between 3 8 = r' := heq'.symm.trans (Except.ok.inj (Prod.mk.inj hr').2)
  exact ⟨hr, hiff.mpr (.inl (by decide)), hr', fun hall => absurd (hiff'.mp hall) (by decide)⟩

/-- On the last character of a word the object takes the blank behind it and the
next word. -/
theorem not_innerSubword_in_word_of_last :
    let e : Editor := { text := ['f', 'o', 'o', ' ', 'b', 'a', 'r'], cursor := 2 }
    HasWordChar e.text e.cursor ∧
      ¬ ∃ r, (TextObject.subword false).region e none = (e, .ok r) ∧
        ∀ i, r.contains i = true → HasWordChar e.text i := by
  intro e
  refine ⟨by decide, ?_⟩
  rintro ⟨r, hr, hall⟩
  have heq : subwordObject false e.text none 2 = .between 0 7 := by decide
  obtain rfl : Range.between 0 7 = r := heq.symm.trans (Except.ok.inj (Prod.mk.inj hr).2)
  exact absurd (hall 3 (by decide)) (by decide)

end TextObject
end Keywise
