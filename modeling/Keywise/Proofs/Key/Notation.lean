/-
# Written keys are read back

A key is canonical if the notation has a name for it and the modifiers are
written as the notation reads them: Shift beside a character only together
with Control, no capital letter under Control, and no closing bracket under
any modifier, since that would end the name. Reading produces canonical keys
only (`Key.isCanonical_of_read`).

Written one after the other, keys need nothing between them. An opening
bracket is never written but to begin a name, and a name holds neither
bracket, so it is read up to its own end whatever follows
(`Key.readFrom_write1`). Hence exactly the canonical keys are read back.

Key definitions: `KeyCode.HasName`, `Key.IsCanonical`.
Key theorems: `Key.isCanonical_of_read`, `Key.readFrom_write1`,
`Key.read_write_eq_ok_iff`.
-/
import Mathlib
import Keywise.Key.Written

namespace Keywise

/-! ### Canonical keys -/

/-- There is a name for the code: of the function keys, one to twelve have
one. -/
def KeyCode.HasName : KeyCode → Prop
  | function n => 1 ≤ n ∧ n ≤ 12
  | _ => True

/-- The modifiers go with the character as the notation reads them. -/
def Modifiers.GoWith (m : Modifiers) (c : Char) : Prop :=
  (m.shift = true → m.ctrl = true) ∧ (m.ctrl = true → c.isUpper = false) ∧ (m ≠ .none → c ≠ '>')

namespace Key

/-- A key that the notation can write. -/
def IsCanonical (k : Key) : Prop :=
  match k.code with
  | .char c => k.mods.GoWith c
  | code => code.HasName

theorem isCanonical_char (c : Char) : (char c).IsCanonical := by
  refine ⟨fun h => ?_, fun h => ?_, fun h => absurd rfl h⟩ <;> cases h

/-! ### What is read is canonical -/

theorem toLower_ne_close {c : Char} (h : c ≠ '>') : c.toLower ≠ '>' := by
  intro hc
  have halpha : c.isAlpha = false := by
    rw [← Char.isAlpha_toLower_eq_isAlpha, hc]
    rfl
  have hupper : ¬ c.isUpper := by
    simp only [Char.isAlpha, Bool.or_eq_false_iff] at halpha
    simp [halpha.1]
  exact h (Char.toLower_eq_of_not_isUpper hupper ▸ hc)

theorem toUpper_ne_close {c : Char} (h : c ≠ '>') : c.toUpper ≠ '>' := by
  intro hc
  have halpha : c.isAlpha = false := by
    rw [← Char.isAlpha_toUpper_eq_isAlpha, hc]
    rfl
  have hlower : ¬ c.isLower := by
    simp only [Char.isAlpha, Bool.or_eq_false_iff] at halpha
    simp [halpha.2]
  exact h (Char.toUpper_eq_of_not_isLower hlower ▸ hc)

/-- Control and Shift put a character in the form that goes with them. -/
theorem isCanonical_normal (m : Modifiers) {code : KeyCode} (hname : code.HasName)
    (hclose : code ≠ .char '>') : (normal m code).IsCanonical := by
  cases code with
  | char c =>
    have hc : c ≠ '>' := fun h => hclose (h ▸ rfl)
    unfold normal
    simp only
    split
    · next hctrl =>
      exact ⟨fun _ => hctrl, fun _ => Char.isUpper_toLower_eq_false c,
        fun _ => toLower_ne_close hc⟩
    · next hctrl =>
      split
      · exact ⟨fun h => (Bool.false_ne_true h).elim, fun h => absurd h hctrl,
          fun _ => toUpper_ne_close hc⟩
      · next hshift => exact ⟨fun h => absurd h hshift, fun h => absurd h hctrl, fun _ => hc⟩
  | _ => exact hname

theorem hasName_of_ofName? {name : List Char} {code : KeyCode}
    (h : KeyCode.ofName? name = some code) : code.HasName ∧ code ≠ .char '>' := by
  have hall : ∀ p ∈ KeyCode.names, p.2.HasName ∧ p.2 ≠ .char '>' := by
    simp [KeyCode.names, KeyCode.HasName]
  unfold KeyCode.ofName? at h
  simp only at h
  split at h
  · next code' hlook =>
    cases h
    obtain ⟨l₁, l₂, hl, -⟩ := List.lookup_eq_some_iff.mp hlook
    have hmem : (name.map Char.toLower, code) ∈ KeyCode.names := by
      rw [hl]
      exact List.mem_append_right _ List.mem_cons_self
    exact hall _ hmem
  · split at h
    · unfold KeyCode.functionKey? at h
      split at h
      · split at h
        · next hn => cases h; exact ⟨hn, by simp⟩
        · cases h
      · cases h
    · cases h

theorem readModifiers_suffix (m : Modifiers) (s : List Char) : (readModifiers m s).2 <:+ s := by
  fun_induction readModifiers m s with
  | case1 m c d s m' h ih => exact ih.trans ⟨[c, '-'], rfl⟩
  | case2 m c d s h => exact List.suffix_refl _
  | case3 m s h => exact List.suffix_refl _

theorem isCanonical_of_readName {inner : List Char} {k : Key} (hclose : '>' ∉ inner)
    (h : readName inner = .ok k) : k.IsCanonical := by
  unfold readName at h
  split at h
  · next m c hr =>
    cases h
    have hmem : c ∈ inner := by
      have hsuf := readModifiers_suffix .none inner
      rw [hr] at hsuf
      exact hsuf.subset (List.mem_singleton_self c)
    exact isCanonical_normal m trivial fun hc => hclose (KeyCode.char.inj hc ▸ hmem)
  · split at h
    · next hn =>
      cases h
      exact isCanonical_normal _ (hasName_of_ofName? hn).1 (hasName_of_ofName? hn).2
    · cases h

theorem bracketed?_eq_some_iff (s inner : List Char) :
    bracketed? s = some inner ↔
      '>' ∈ s ∧ s.takeWhile (· != '>') = inner ∧ inner ≠ [] ∧ '<' ∉ inner := by
  unfold bracketed?
  simp only [Option.ite_none_right_eq_some, Bool.and_eq_true, Bool.not_eq_true', List.contains_eq_mem,
    decide_eq_true_eq, decide_eq_false_iff_not, Option.some.injEq, List.isEmpty_eq_false_iff]
  constructor
  · rintro ⟨⟨⟨hs, hne⟩, hlt⟩, rfl⟩
    exact ⟨hs, rfl, hne, hlt⟩
  · rintro ⟨hs, rfl, hne, hlt⟩
    exact ⟨⟨⟨hs, hne⟩, hlt⟩, rfl⟩

theorem isCanonical_of_readFrom {n : Nat} {s : List Char} {ks : List Key}
    (h : readFrom n s = .ok ks) : ∀ k ∈ ks, k.IsCanonical := by
  fun_induction readFrom n s generalizing ks with
  | case1 n =>
    cases h
    simp
  | case2 n c s ih => exact ih h
  | case3 c s inner hb ih =>
    have hb : bracketed? s = some inner := by
      by_cases hc : c = '<' <;> simp_all
    obtain ⟨-, rfl, -, -⟩ := (bracketed?_eq_some_iff s inner).mp hb
    cases hk : readName (s.takeWhile (· != '>')) with
    | error e => simp [hk, bind, Except.bind] at h
    | ok k =>
      cases hks : readFrom ((s.takeWhile (· != '>')).length + 1) s with
      | error e => simp [hk, hks, bind, Except.bind] at h
      | ok ks' =>
        simp only [hk, hks, bind, Except.bind, pure, Except.pure] at h
        cases h
        have hclose : '>' ∉ s.takeWhile (· != '>') := fun hmem => by
          simpa using List.mem_takeWhile_imp hmem
        intro k' hk'
        rcases List.mem_cons.mp hk' with rfl | hk'
        · exact isCanonical_of_readName hclose hk
        · exact ih hks k' hk'
  | case4 c s hb ih =>
    cases hks : readFrom 0 s with
    | error e => simp [hks, bind, Except.bind] at h
    | ok ks' =>
      simp only [hks, bind, Except.bind, pure, Except.pure] at h
      cases h
      intro k' hk'
      rcases List.mem_cons.mp hk' with rfl | hk'
      · exact isCanonical_char c
      · exact ih hks k' hk'

/-- **What is read is canonical**, and there is something. -/
theorem isCanonical_of_read {s : List Char} {ks : List Key} (h : read s = .ok ks) :
    ks ≠ [] ∧ ∀ k ∈ ks, k.IsCanonical := by
  unfold read at h
  split at h
  · cases h
  · next hne => exact ⟨fun hks => hne (hks ▸ h), isCanonical_of_readFrom h⟩

/-! ### What is written is read -/

theorem writeModifiers_eq_nil_iff (m : Modifiers) : writeModifiers m = [] ↔ m = .none := by
  obtain ⟨ctrl, alt, shift⟩ := m
  cases ctrl <;> cases alt <;> cases shift <;> decide

/-- Modifiers are read back from in front of a name, unless its second
character is a hyphen. -/
theorem readModifiers_writeModifiers (m : Modifiers) {name : List Char} (hne : name ≠ [])
    (hhyphen : name[1]? ≠ some '-') :
    readModifiers .none (writeModifiers m ++ name) = (m, name) := by
  have hname : ∀ m' : Modifiers, readModifiers m' name = (m', name) := by
    intro m'
    match name, hne with
    | [c], _ => simp [readModifiers]
    | c :: d :: s, _ =>
      have hd : d ≠ '-' := by simpa using hhyphen
      simp [readModifiers, hd]
  obtain ⟨c, s, rfl⟩ := List.exists_cons_of_ne_nil hne
  obtain ⟨ctrl, alt, shift⟩ := m
  cases ctrl <;> cases alt <;> cases shift <;>
    simp [writeModifiers, readModifiers, addModifier, Modifiers.none, hname]

/-- A name that stands for a code wherever the notation has it: it is the
character itself or one of the names, and it holds no bracket and no hyphen
that would make its first character a modifier. -/
structure Names (name : List Char) (code : KeyCode) : Prop where
  stands : (∃ c, name = [c] ∧ code = .char c) ∨
    2 ≤ name.length ∧ KeyCode.ofName? name = some code
  hyphen : name[1]? ≠ some '-'
  opening : '<' ∉ name
  closing : '>' ∉ name

theorem Names.ne_nil {name : List Char} {code : KeyCode} (h : Names name code) : name ≠ [] := by
  rintro rfl
  rcases h.stands with ⟨c, hc, -⟩ | ⟨hlen, -⟩
  · cases hc
  · simp at hlen

theorem names_writeCode {code : KeyCode} (hname : code.HasName) (hchar : ∀ c, code ≠ .char c) :
    Names (writeCode code) code := by
  have hall : 2 ≤ (writeCode code).length ∧ KeyCode.ofName? (writeCode code) = some code ∧
      (writeCode code)[1]? ≠ some '-' ∧ '<' ∉ writeCode code ∧ '>' ∉ writeCode code := by
    cases code with
    | char c => exact absurd rfl (hchar c)
    | function n =>
      obtain ⟨h1, h12⟩ := hname
      interval_cases n <;> decide
    | _ => decide
  obtain ⟨hlen, hread, hhyphen, hopen, hclose⟩ := hall
  exact ⟨Or.inr ⟨hlen, hread⟩, hhyphen, hopen, hclose⟩

theorem names_singleton {c : Char} (hopen : c ≠ '<') (hclose : c ≠ '>') : Names [c] (.char c) :=
  ⟨Or.inl ⟨c, rfl, rfl⟩, by simp, by simpa using hopen.symm, by simpa using hclose.symm⟩

theorem names_lt : Names ['l', 't'] (.char '<') :=
  ⟨Or.inr (by decide), by decide, by decide, by decide⟩

theorem names_space : Names ['S', 'p', 'a', 'c', 'e'] (.char ' ') :=
  ⟨Or.inr (by decide), by decide, by decide, by decide⟩

theorem names_of_writeName? {k : Key} (hk : k.IsCanonical) {inner : List Char}
    (h : k.writeName? = some inner) :
    ∃ name, inner = writeModifiers k.mods ++ name ∧ Names name k.code := by
  obtain ⟨code, m⟩ := k
  cases code with
  | char c =>
    by_cases hlt : c = '<'
    · subst hlt
      refine ⟨['l', 't'], ?_, names_lt⟩
      simpa [writeName?] using h.symm
    · have hmods : writeModifiers m ≠ [] := by
        intro hm
        simp [writeName?, hm] at h
      have hgt : c ≠ '>' := hk.2.2 fun hm => hmods ((writeModifiers_eq_nil_iff m).mpr hm)
      by_cases hsp : c = ' '
      · subst hsp
        refine ⟨['S', 'p', 'a', 'c', 'e'], ?_, names_space⟩
        simpa [writeName?, hmods] using h.symm
      · refine ⟨[c], ?_, names_singleton hlt hgt⟩
        simpa [writeName?, hlt, hmods, hsp] using h.symm
  | _ => exact ⟨_, (Option.some.inj h).symm, names_writeCode hk (by simp)⟩

theorem normal_of_isCanonical {k : Key} (hk : k.IsCanonical) : normal k.mods k.code = k := by
  obtain ⟨code, m⟩ := k
  cases code with
  | char c =>
    obtain ⟨hshift, hupper, -⟩ := hk
    unfold normal
    simp only
    by_cases hctrl : m.ctrl = true
    · have hlower : c.toLower = c := Char.toLower_eq_of_not_isUpper (by simp [hupper hctrl])
      rw [if_pos hctrl, hlower]
    · rw [if_neg hctrl, if_neg fun h => hctrl (hshift h)]
  | _ => rfl

theorem readName_of_writeName? {k : Key} (hk : k.IsCanonical) {inner : List Char}
    (h : k.writeName? = some inner) : readName inner = .ok k := by
  obtain ⟨name, rfl, hname⟩ := names_of_writeName? hk h
  unfold readName
  rw [readModifiers_writeModifiers k.mods hname.ne_nil hname.hyphen]
  rcases hname.stands with ⟨c, rfl, hc⟩ | ⟨hlen, hread⟩
  · simp only
    rw [← hc, normal_of_isCanonical hk]
  · match name, hlen with
    | a :: b :: s, _ =>
      simp only [hread]
      rw [normal_of_isCanonical hk]

theorem bracket_not_mem_writeModifiers (m : Modifiers) :
    '<' ∉ writeModifiers m ∧ '>' ∉ writeModifiers m := by
  obtain ⟨ctrl, alt, shift⟩ := m
  cases ctrl <;> cases alt <;> cases shift <;> decide

/-- What stands between the brackets is found again, whatever follows. -/
theorem bracketed?_of_writeName? {k : Key} (hk : k.IsCanonical) {inner : List Char}
    (h : k.writeName? = some inner) (rest : List Char) :
    bracketed? (inner ++ '>' :: rest) = some inner := by
  obtain ⟨name, rfl, hname⟩ := names_of_writeName? hk h
  obtain ⟨hopen, hclose⟩ := bracket_not_mem_writeModifiers k.mods
  have hall : ∀ c ∈ writeModifiers k.mods ++ name, (c != '>') = true := by
    intro c hc
    rw [bne_iff_ne]
    rintro rfl
    rcases List.mem_append.mp hc with hc | hc
    · exact hclose hc
    · exact hname.closing hc
  rw [bracketed?_eq_some_iff]
  refine ⟨by simp, ?_, by simp [hname.ne_nil], by simp [hopen, hname.opening]⟩
  rw [List.takeWhile_append_of_pos hall]
  simp

/-- A key that is written without brackets is a character, and no opening
bracket. -/
theorem eq_char_of_writeName? {k : Key} (h : k.writeName? = none) :
    ∃ c, k = char c ∧ c ≠ '<' := by
  obtain ⟨code, m⟩ := k
  cases code with
  | char c =>
    have hlt : c ≠ '<' := by
      rintro rfl
      simp [writeName?] at h
    have hm : m = .none := by
      rw [← writeModifiers_eq_nil_iff]
      by_contra hmods
      by_cases hsp : c = ' ' <;> simp [writeName?, hmods, hsp] at h
    exact ⟨c, by rw [hm, char], hlt⟩
  | _ => cases h

/-- **A written key is read back, whatever follows.** -/
theorem readFrom_write1 {k : Key} (hk : k.IsCanonical) (rest : List Char) :
    readFrom 0 (k.write1 ++ rest) = (readFrom 0 rest).map (k :: ·) := by
  unfold write1
  cases h : k.writeName? with
  | some inner =>
    have hb := bracketed?_of_writeName? hk h rest
    have hdrop : (inner ++ '>' :: rest).drop (inner.length + 1) = rest := by
      simp [List.drop_append]
    simp only [List.cons_append, List.append_assoc, List.nil_append]
    rw [readFrom, if_pos rfl, hb]
    simp only [readName_of_writeName? hk h]
    rw [readFrom_skip, hdrop]
    cases readFrom 0 rest <;> rfl
  | none =>
    obtain ⟨c, rfl, hc⟩ := eq_char_of_writeName? h
    show readFrom 0 (c :: rest) = _
    rw [readFrom, if_neg hc]
    cases readFrom 0 rest <;> rfl

theorem readFrom_write : ∀ {ks : List Key}, (∀ k ∈ ks, k.IsCanonical) →
    readFrom 0 (write ks) = .ok ks
  | [], _ => rfl
  | k :: ks, h => by
    have ih : readFrom 0 (write ks) = .ok ks :=
      readFrom_write fun k' hk' => h k' (List.mem_cons_of_mem _ hk')
    show readFrom 0 (k.write1 ++ write ks) = .ok (k :: ks)
    rw [readFrom_write1 (h k List.mem_cons_self), ih]
    rfl

/-- **Keys are read back from what they are written as if and only if they
are canonical** and there is at least one; and whatever is read is so. -/
theorem read_write_eq_ok_iff :
    (∀ s ks, read s = .ok ks → ks ≠ [] ∧ ∀ k ∈ ks, k.IsCanonical) ∧
    ∀ ks, read (write ks) = .ok ks ↔ ks ≠ [] ∧ ∀ k ∈ ks, k.IsCanonical := by
  refine ⟨fun s ks h => isCanonical_of_read h, fun ks => ⟨isCanonical_of_read, ?_⟩⟩
  rintro ⟨hne, hcan⟩
  unfold read
  rw [readFrom_write hcan]
  cases ks with
  | nil => exact absurd rfl hne
  | cons k ks => rfl

/-- Neighbours that could be taken for parts of one name are kept apart. -/
theorem read_write_neighbours :
    write [⟨.char '-', .control⟩, .char '>', .char '<', ⟨.function 12, { shift := true }⟩] =
        "<C-->><lt><S-F12>".toList ∧
      read "<C-->><lt><S-F12>".toList =
        .ok [⟨.char '-', .control⟩, .char '>', .char '<', ⟨.function 12, { shift := true }⟩] ∧
      ∀ k ∈ [⟨.char '-', .control⟩, .char '>', .char '<', ⟨.function 12, { shift := true }⟩],
        IsCanonical k := by
  have hwrite : write [⟨.char '-', .control⟩, .char '>', .char '<',
      ⟨.function 12, { shift := true }⟩] = "<C-->><lt><S-F12>".toList := by decide +kernel
  have hread : read "<C-->><lt><S-F12>".toList =
      .ok [⟨.char '-', .control⟩, .char '>', .char '<', ⟨.function 12, { shift := true }⟩] := by
    decide +kernel
  exact ⟨hwrite, hread, (read_write_eq_ok_iff.1 _ _ hread).2⟩

end Key
end Keywise
