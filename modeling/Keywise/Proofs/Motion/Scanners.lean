/-
# What the scanners of a window find

A scanner looks at one offset of the window after the other, and behind a place
that it finds it goes on where it has passed over all that belongs to the place
(`Subword.placesFrom_of_some`). So the places ascend, and one that is not found
has been passed over (`Subword.exists_passed`).

Where sub-words start nothing is lost in this way: between capitals that start
one and the place where the scanner goes on there is no small letter but the
last character, and from underscores on the same place is found as from any of
them (`Subword.mem_camelStarts`, `Subword.mem_snakeStarts`). Where sub-words end
something may be lost, but the first place never is (`Subword.ListsFirst`).

Key definitions: `Subword.foundAt`, `Subword.placesFrom`, `Subword.BeginsSubword`,
`Subword.IsHump`, `Subword.ListsFirst`.
Key theorems: `Subword.exists_foundAt`, `Subword.exists_passed`,
`Subword.pairwise_placesFrom`, `Subword.mem_camelStarts`,
`Subword.mem_snakeStarts`, `Subword.listsFirst_camelEnds`,
`Subword.listsFirst_snakeEnds`.
-/
import Mathlib.Order.Bounds.Basic
import Keywise.Motion.Subword

namespace Keywise
namespace Subword

theorem lt_length_of_any {w : Text} {q : Nat} {P : Char → Bool} (h : w[q]?.any P = true) :
    q < w.length := by
  refine Nat.lt_of_not_le fun hq => ?_
  rw [List.getElem?_eq_none hq] at h
  cases h

/-! ### The way of a scanner -/

/-- What a scanner finds at offset `i` of a window. -/
def foundAt (find : Option Char → Text → Option Found) (w : Text) (i : Nat) : Option Found :=
  find (w.take i).getLast? (w.drop i)

/-- The places that a scanner finds from offset `i` of a window on. -/
def placesFrom (find : Option Char → Text → Option Found) (w : Text) (i : Nat) : List Nat :=
  scan find (w.take i).getLast? i 0 (w.drop i)

section Scan

variable {find : Option Char → Text → Option Found} {w : Text} {i j x : Nat} {f : Found}

theorem placesFrom_of_le (h : w.length ≤ i) : placesFrom find w i = [] := by
  rw [placesFrom, List.drop_eq_nil_of_le h, scan]

theorem getLast?_take_succ (h : i < w.length) : (w.take (i + 1)).getLast? = some w[i] := by
  rw [List.take_succ_eq_append_getElem h, List.getLast?_concat]

/-- To pass over characters is to go on behind them. -/
theorem scan_skip (find : Option Char → Text → Option Found) (w : Text) (skip : Nat) :
    ∀ i, scan find (w.take i).getLast? i skip (w.drop i) = placesFrom find w (i + skip) := by
  induction skip with
  | zero => exact fun i => rfl
  | succ skip ih =>
    intro i
    by_cases h : i < w.length
    · rw [List.drop_eq_getElem_cons h, scan, ← getLast?_take_succ h, ih (i + 1)]
      exact congrArg _ (by omega)
    · rw [List.drop_eq_nil_of_le (Nat.not_lt.mp h), placesFrom_of_le (by omega), scan]

/-- The steps of a scanner: from a place that it finds it goes on behind it. -/
theorem placesFrom_of_some (h : i < w.length) (hf : foundAt find w i = some f) :
    placesFrom find w i = (i + f.ahead) :: placesFrom find w (i + f.passed) := by
  have hskip := scan_skip find w (f.passed - 1) (i + 1)
  have hpassed := f.ahead_lt_passed
  rw [show i + 1 + (f.passed - 1) = i + f.passed by omega, getLast?_take_succ h] at hskip
  rw [foundAt, List.drop_eq_getElem_cons h] at hf
  rw [placesFrom, List.drop_eq_getElem_cons h, scan, hf, ← hskip]

theorem placesFrom_of_none (h : i < w.length) (hf : foundAt find w i = none) :
    placesFrom find w i = placesFrom find w (i + 1) := by
  rw [foundAt, List.drop_eq_getElem_cons h] at hf
  rw [placesFrom, List.drop_eq_getElem_cons h, scan, hf, ← getLast?_take_succ h]
  rfl

/-- **The places of a scanner** are found where it looks. -/
theorem exists_foundAt (hx : x ∈ placesFrom find w i) :
    ∃ j f, i ≤ j ∧ foundAt find w j = some f ∧ x = j + f.ahead := by
  induction hn : w.length - i using Nat.strong_induction_on generalizing i with
  | _ n ih =>
    by_cases h : i < w.length
    · cases hf : foundAt find w i with
      | none =>
        rw [placesFrom_of_none h hf] at hx
        obtain ⟨j, f, hj, hplace⟩ := ih _ (by omega) hx rfl
        exact ⟨j, f, Nat.le_of_succ_le hj, hplace⟩
      | some f =>
        have hpassed := f.ahead_lt_passed
        rw [placesFrom_of_some h hf] at hx
        rcases List.mem_cons.mp hx with rfl | hx
        · exact ⟨i, f, Nat.le_refl i, hf, rfl⟩
        · obtain ⟨j, f, hj, hplace⟩ := ih _ (by omega) hx rfl
          exact ⟨j, f, by omega, hplace⟩
    · rw [placesFrom_of_le (Nat.not_lt.mp h)] at hx
      cases hx

/-- What might be found is found or passed over. -/
theorem exists_passed (hij : i ≤ j) (hj : j < w.length) (hf : foundAt find w j = some f) :
    ∃ k g, foundAt find w k = some g ∧ k + g.ahead ∈ placesFrom find w i ∧ k ≤ j ∧
      j < k + g.passed := by
  induction hn : w.length - i using Nat.strong_induction_on generalizing i with
  | _ n ih =>
    have h : i < w.length := Nat.lt_of_le_of_lt hij hj
    cases hg : foundAt find w i with
    | none =>
      have hne : i ≠ j := fun heq => by rw [heq, hf] at hg; cases hg
      rw [placesFrom_of_none h hg]
      exact ih _ (by omega) (Nat.lt_of_le_of_ne hij hne) rfl
    | some g =>
      have hpassed := g.ahead_lt_passed
      rw [placesFrom_of_some h hg]
      by_cases hbehind : i + g.passed ≤ j
      · obtain ⟨k, g', hk, hmem, hrest⟩ := ih _ (by omega) hbehind rfl
        exact ⟨k, g', hk, List.mem_cons_of_mem _ hmem, hrest⟩
      · exact ⟨i, g, hg, List.mem_cons_self, hij, Nat.not_le.mp hbehind⟩

/-- **The places ascend.** -/
theorem pairwise_placesFrom (i : Nat) : (placesFrom find w i).Pairwise (· < ·) := by
  induction hn : w.length - i using Nat.strong_induction_on generalizing i with
  | _ n ih =>
    by_cases h : i < w.length
    · cases hf : foundAt find w i with
      | none =>
        rw [placesFrom_of_none h hf]
        exact ih _ (by omega) _ rfl
      | some f =>
        have hpassed := f.ahead_lt_passed
        rw [placesFrom_of_some h hf]
        refine List.pairwise_cons.mpr ⟨fun x hx => ?_, ih _ (by omega) _ rfl⟩
        obtain ⟨j, g, hj, -, rfl⟩ := exists_foundAt hx
        omega
    · rw [placesFrom_of_le (Nat.not_lt.mp h)]
      exact List.Pairwise.nil

end Scan

/-! ### Capitals that start a sub-word -/

/-- Whether capitals with `rest` behind them may begin a sub-word: there the
window ends, but for a line break, or a small letter or a digit follows. -/
def EndsCapitals (rest : Text) : Prop :=
  rest ∈ ([[], ['\n'], ['\r'], ['\r', '\n']] : List Text) ∨
    ∃ c ds, rest = c :: ds ∧ isSmall c = true

/-- Whether `w` begins with capitals that may begin a sub-word. -/
def BeginsSubword (w : Text) : Prop :=
  ∃ capitals rest, w = capitals ++ rest ∧ capitals ≠ [] ∧ (∀ c ∈ capitals, c.isUpper = true) ∧
    EndsCapitals rest

/-- Whether capitals that begin a sub-word follow a small letter or a digit. -/
def IsHump (w : Text) (q : Nat) : Prop :=
  0 < q ∧ w[q - 1]?.any isSmall = true ∧ BeginsSubword (w.drop q)

theorem IsHump.lt_length {w : Text} {q : Nat} (h : IsHump w q) : q < w.length := by
  obtain ⟨-, -, capitals, rest, hw, hne, -⟩ := h
  refine Nat.lt_of_not_le fun hq => ?_
  rw [List.drop_eq_nil_of_le hq] at hw
  exact hne (List.append_eq_nil_iff.mp hw.symm).1

theorem atEnd_iff {w : Text} :
    atEnd w = true ↔ w ∈ ([[], ['\n'], ['\r'], ['\r', '\n']] : List Text) := by
  unfold atEnd
  split <;> simp_all

theorem isUpper_of_isSmall {c : Char} (h : isSmall c = true) : c.isUpper = false := by
  have hlower : c.isLower = true ↔ 97 ≤ c.val.toNat ∧ c.val.toNat ≤ 122 :=
    Bool.and_eq_true_iff.trans (and_congr decide_eq_true_iff decide_eq_true_iff)
  have hdigit : c.isDigit = true ↔ 48 ≤ c.val.toNat ∧ c.val.toNat ≤ 57 :=
    Bool.and_eq_true_iff.trans (and_congr decide_eq_true_iff decide_eq_true_iff)
  have hupper : c.isUpper = true ↔ 65 ≤ c.val.toNat ∧ c.val.toNat ≤ 90 := decide_eq_true_iff
  rw [isSmall, Bool.or_eq_true, hlower, hdigit] at h
  rw [Bool.eq_false_iff, ne_eq, hupper]
  omega

theorem EndsCapitals.dropWhile_isUpper {rest : Text} (h : EndsCapitals rest) :
    rest.dropWhile Char.isUpper = rest := by
  rcases h with h | ⟨c, ds, rfl, hc⟩
  · simp only [List.mem_cons, List.not_mem_nil, or_false] at h
    rcases h with rfl | rfl | rfl | rfl <;> rfl
  · rw [List.dropWhile_cons_of_neg (by simp [isUpper_of_isSmall hc])]

theorem beginsSubword_cons_iff {c : Char} {w : Text} : BeginsSubword (c :: w) ↔
    c.isUpper = true ∧ EndsCapitals (w.dropWhile Char.isUpper) := by
  constructor
  · rintro ⟨capitals, rest, hw, hne, hall, hrest⟩
    cases capitals with
    | nil => exact absurd rfl hne
    | cons d capitals =>
      rw [List.cons_append] at hw
      obtain ⟨rfl, rfl⟩ := List.cons.inj hw
      have hcapitals : ∀ d ∈ capitals, d.isUpper = true :=
        fun d hd => hall d (List.mem_cons_of_mem _ hd)
      refine ⟨hall c List.mem_cons_self, ?_⟩
      rwa [List.dropWhile_append_of_pos hcapitals, hrest.dropWhile_isUpper]
  · rintro ⟨hc, hrest⟩
    have hsplit : w = w.takeWhile Char.isUpper ++ w.dropWhile Char.isUpper :=
      List.takeWhile_append_dropWhile.symm
    refine ⟨c :: w.takeWhile Char.isUpper, _, congrArg (c :: ·) hsplit, nofun, ?_, hrest⟩
    intro d hd
    rcases List.mem_cons.mp hd with rfl | hd
    · exact hc
    · exact List.all_eq_true.mp List.all_takeWhile d hd

theorem not_beginsSubword_nil : ¬ BeginsSubword [] := by
  rintro ⟨capitals, rest, hw, hne, -⟩
  exact hne (List.append_eq_nil_iff.mp hw.symm).1

theorem isSome_passedWithCapital? {w : Text} :
    (passedWithCapital? w).isSome = true ↔ EndsCapitals (w.dropWhile Char.isUpper) := by
  unfold passedWithCapital? EndsCapitals
  rw [← atEnd_iff]
  cases w.dropWhile Char.isUpper with
  | nil => simp [atEnd]
  | cons c rest =>
    by_cases hend : atEnd (c :: rest) = true
    · simp [hend]
    · by_cases hc : isSmall c = true <;> simp [hend, hc]

theorem any_of_lt_takeWhile {P : Char → Bool} {w : Text} {m : Nat}
    (h : m < (w.takeWhile P).length) : w[m]?.any P = true := by
  have hpre := List.takeWhile_prefix P (l := w)
  have hmem := List.getElem_mem h
  rw [hpre.getElem h] at hmem
  rw [List.getElem?_eq_getElem (Nat.lt_of_lt_of_le h hpre.length_le), Option.any_some]
  exact List.all_eq_true.mp List.all_takeWhile _ hmem

/-- What is passed over behind a capital is capitals but for the last character. -/
theorem isUpper_of_passedWithCapital? {w : Text} {n m : Nat} (h : passedWithCapital? w = some n)
    (hm : m + 1 < n) : w[m]?.any Char.isUpper = true := by
  refine any_of_lt_takeWhile ?_
  unfold passedWithCapital? at h
  simp only at h
  split at h
  · cases h
    omega
  · split at h
    · cases h
      omega
    · cases h

section Capitals

variable {before : Option Char} {w : Text} {q : Nat} {f : Found}

theorem isSome_ite_map {α β : Type} {b : Bool} {o : Option α} {g : α → β} :
    (if b = true then o.map g else none).isSome = true ↔ b = true ∧ o.isSome = true := by
  cases b <;> simp

theorem isSome_camelStart? : (camelStart? before w).isSome = true ↔
    before.any isSmall = true ∧ BeginsSubword w := by
  cases w with
  | nil => simp [camelStart?, not_beginsSubword_nil]
  | cons c w =>
    rw [camelStart?, isSome_ite_map, Bool.and_eq_true, isSome_passedWithCapital?, and_assoc,
      beginsSubword_cons_iff]

theorem isSome_camelEnd? : (camelEnd? w).isSome = true ↔
    w.head?.any isSmall = true ∧ BeginsSubword w.tail := by
  match w with
  | [] => simp [camelEnd?]
  | [b] => simp [camelEnd?, not_beginsSubword_nil]
  | b :: c :: w =>
    rw [camelEnd?, isSome_ite_map, Bool.and_eq_true, isSome_passedWithCapital?, and_assoc,
      List.tail_cons, beginsSubword_cons_iff]
    rfl

theorem ahead_camelStart? (h : camelStart? before w = some f) : f.ahead = 0 := by
  cases w with
  | nil => cases h
  | cons c w =>
    rw [camelStart?] at h
    split at h
    · obtain ⟨n, -, rfl⟩ := Option.map_eq_some_iff.mp h
      rfl
    · cases h

theorem ahead_camelEnd? (h : camelEnd? w = some f) : f.ahead = 0 := by
  unfold camelEnd? at h
  split at h
  · split at h
    · obtain ⟨n, -, rfl⟩ := Option.map_eq_some_iff.mp h
      rfl
    · cases h
  · cases h

theorem isUpper_of_camelStart? (h : camelStart? before w = some f) {m : Nat}
    (hm : m + 1 < f.passed) : w[m]?.any Char.isUpper = true := by
  cases w with
  | nil => cases h
  | cons c w =>
    rw [camelStart?] at h
    split at h
    · next hc =>
      obtain ⟨n, hn, rfl⟩ := Option.map_eq_some_iff.mp h
      cases m with
      | zero => exact (Bool.and_eq_true_iff.mp hc).2
      | succ m =>
        rw [List.getElem?_cons_succ]
        exact isUpper_of_passedWithCapital? hn (Nat.lt_of_succ_lt_succ hm)
    · cases h

theorem foundAt_camelStart : (foundAt camelStart? w q).isSome = true ↔ IsHump w q := by
  rw [foundAt, isSome_camelStart?, IsHump, List.getLast?_take]
  by_cases hq : q ≤ w.length
  · cases q with
    | zero => simp
    | succ q =>
      rw [Nat.add_sub_cancel, List.getElem?_eq_getElem hq]
      simp
  · have hnil : w.drop q = [] := List.drop_eq_nil_of_le (by omega)
    rw [hnil]
    exact ⟨fun h => absurd h.2 not_beginsSubword_nil, fun h => absurd h.2.2 not_beginsSubword_nil⟩

theorem foundAt_camelEnd : (foundAt (fun _ => camelEnd?) w q).isSome = true ↔ IsHump w (q + 1) := by
  rw [foundAt, isSome_camelEnd?, IsHump, List.head?_drop, List.tail_drop, Nat.add_sub_cancel]
  exact ⟨fun h => ⟨Nat.succ_pos q, h⟩, fun h => h.2⟩

theorem placesFrom_zero (find : Option Char → Text → Option Found) (w : Text) :
    scan find none 0 0 w = placesFrom find w 0 := rfl

/-- **All starts of capitals** are found. A place that was passed over would have
a small letter before it, but there is a capital. -/
theorem mem_camelStarts : q ∈ camelStarts w ↔ IsHump w q := by
  rw [camelStarts, placesFrom_zero]
  constructor
  · intro hq
    obtain ⟨i, f, -, hf, rfl⟩ := exists_foundAt hq
    rw [ahead_camelStart? hf, Nat.add_zero]
    exact foundAt_camelStart.mp (hf ▸ rfl)
  · intro h
    obtain ⟨f, hf⟩ := Option.isSome_iff_exists.mp (foundAt_camelStart.mpr h)
    obtain ⟨k, g, hg, hmem, hkq, hpassed⟩ := exists_passed (Nat.zero_le q) h.lt_length hf
    rw [ahead_camelStart? hg, Nat.add_zero] at hmem
    rcases Nat.eq_or_lt_of_le hkq with rfl | hlt
    · exact hmem
    · have hupper := isUpper_of_camelStart? hg (m := q - 1 - k) (by omega)
      rw [List.getElem?_drop, show k + (q - 1 - k) = q - 1 by omega] at hupper
      obtain ⟨c, hc, hcupper⟩ := (Option.any_eq_true _ _).mp hupper
      have hsmall := h.2.1
      rw [hc, Option.any_some] at hsmall
      rw [isUpper_of_isSmall hsmall] at hcupper
      cases hcupper

end Capitals

/-! ### Underscores -/

section Underscores

variable {w : Text} {q : Nat} {f : Found}

theorem head?_dropWhile (P : Char → Bool) (w : Text) :
    (w.dropWhile P).head? = w[(w.takeWhile P).length]? := by
  have hsplit : w.takeWhile P ++ w.dropWhile P = w := List.takeWhile_append_dropWhile
  calc (w.dropWhile P).head?
      = (w.dropWhile P)[(w.takeWhile P).length - (w.takeWhile P).length]? := by
        rw [Nat.sub_self, List.head?_eq_getElem?]
    _ = (w.takeWhile P ++ w.dropWhile P)[(w.takeWhile P).length]? :=
        (List.getElem?_append_right (Nat.le_refl _)).symm
    _ = w[(w.takeWhile P).length]? := by rw [hsplit]

/-- From an underscore on there are underscores up to the place that is found,
which is the last character passed over. -/
theorem snakeStart?_eq_some (h : snakeStart? w = some f) :
    0 < f.ahead ∧ f.passed = f.ahead + 1 ∧ (∀ m < f.ahead, w[m]? = some '_') ∧
      w[f.ahead]?.any Char.isAlphanum = true := by
  unfold snakeStart? at h
  split at h
  · next w =>
    simp only at h
    split at h
    · next hrest =>
      cases h
      refine ⟨Nat.succ_pos _, rfl, fun m hm => ?_, ?_⟩
      · cases m with
        | zero => rfl
        | succ m =>
          have hany := any_of_lt_takeWhile (Nat.lt_of_succ_lt_succ hm)
          obtain ⟨c, hc, heq⟩ := (Option.any_eq_true _ _).mp hany
          rw [List.getElem?_cons_succ, hc, eq_of_beq heq]
      · rwa [List.getElem?_cons_succ, ← head?_dropWhile]
    · cases h
  · cases h

theorem snakeStart?_cons (h : w.head?.any Char.isAlphanum = true) :
    snakeStart? ('_' :: w) = some ⟨1, 2, Nat.lt_succ_self 1⟩ := by
  cases w with
  | nil => cases h
  | cons c w =>
    have hc : (c == '_') = false := by
      by_contra hne
      obtain rfl : c = '_' := eq_of_beq (Bool.not_eq_false _ ▸ hne)
      cases h
    have hrest : ((c :: w).dropWhile (· == '_')).head?.any Char.isAlphanum = true := by
      rwa [List.dropWhile_cons_of_neg (by simp [hc])]
    have hrun : (c :: w).takeWhile (· == '_') = [] := List.takeWhile_cons_of_neg (by simp [hc])
    unfold snakeStart?
    simp only [hrest, hrun]
    rfl

theorem ne_underscore (h : w[q]?.any Char.isAlphanum = true) : w[q]? ≠ some '_' := by
  intro heq
  rw [heq] at h
  cases h

/-- **All starts behind underscores** are found: from each of the underscores
before it a start is the first letter or digit. -/
theorem mem_snakeStarts : q ∈ snakeStarts w ↔
    0 < q ∧ w[q - 1]? = some '_' ∧ w[q]?.any Char.isAlphanum = true := by
  rw [snakeStarts, placesFrom_zero]
  constructor
  · intro hq
    obtain ⟨i, f, -, hf, rfl⟩ := exists_foundAt hq
    obtain ⟨hpos, -, hunder, hend⟩ := snakeStart?_eq_some hf
    have hlast := hunder (f.ahead - 1) (by omega)
    rw [List.getElem?_drop] at hend hlast
    rw [← Nat.add_sub_assoc hpos] at hlast
    exact ⟨Nat.add_pos_right i hpos, hlast, hend⟩
  · rintro ⟨hpos, hunder, hend⟩
    have hlt : q - 1 < w.length := Nat.lt_of_le_of_lt (Nat.sub_le q 1) (lt_length_of_any hend)
    have hdrop : w.drop (q - 1) = '_' :: w.drop q := by
      rw [List.drop_eq_getElem_cons hlt, Nat.sub_add_cancel hpos]
      rw [List.getElem?_eq_getElem hlt] at hunder
      rw [Option.some.inj hunder]
    have hf : foundAt (fun _ => snakeStart?) w (q - 1) = some ⟨1, 2, Nat.lt_succ_self 1⟩ := by
      rw [foundAt, hdrop]
      exact snakeStart?_cons (by rwa [List.head?_drop])
    obtain ⟨k, g, hg, hmem, hkq, hpassed⟩ := exists_passed (Nat.zero_le _) hlt hf
    obtain ⟨-, hnext, hrun, hplace⟩ := snakeStart?_eq_some hg
    rw [List.getElem?_drop] at hplace
    -- both places end the same underscores
    have hle : ¬ k + g.ahead < q := fun hltq => by
      have hbefore : k + g.ahead = q - 1 := by omega
      rw [hbefore] at hplace
      exact ne_underscore hplace hunder
    have hge : ¬ q < k + g.ahead := fun hltq => by
      have hq := hrun (q - k) (by omega)
      rw [List.getElem?_drop, show k + (q - k) = q by omega] at hq
      exact ne_underscore hend hq
    rwa [show k + g.ahead = q by omega] at hmem

end Underscores

/-! ### The first of the places -/

/-- Whether places of a kind are listed, the first of all among them. -/
structure ListsFirst (P : Nat → Prop) (l : List Nat) : Prop where
  sound : ∀ q ∈ l, P q
  first : ∀ q, P q → ∃ x ∈ l, x ≤ q

namespace ListsFirst

variable {P Q : Nat → Prop} {l l' : List Nat}

theorem append (h : ListsFirst P l) (h' : ListsFirst Q l') :
    ListsFirst (fun q => P q ∨ Q q) (l ++ l') where
  sound q hq := (List.mem_append.mp hq).imp (h.sound q) (h'.sound q)
  first q hq := by
    rcases hq with hq | hq
    · obtain ⟨x, hx, hle⟩ := h.first q hq
      exact ⟨x, List.mem_append_left _ hx, hle⟩
    · obtain ⟨x, hx, hle⟩ := h'.first q hq
      exact ⟨x, List.mem_append_right _ hx, hle⟩

theorem of_mem_iff (h : ListsFirst P l) (hmem : ∀ q, q ∈ l' ↔ q ∈ l) : ListsFirst P l' where
  sound q hq := h.sound q ((hmem q).mp hq)
  first q hq := by
    obtain ⟨x, hx, hle⟩ := h.first q hq
    exact ⟨x, (hmem x).mpr hx, hle⟩

end ListsFirst

/-- A scanner that finds places where it looks does not pass over the first one. -/
theorem listsFirst_scan {find : Option Char → Text → Option Found} {w : Text} {P : Nat → Prop}
    (hP : ∀ q, (foundAt find w q).isSome = true ↔ P q) (hlt : ∀ q, P q → q < w.length)
    (hahead : ∀ q f, foundAt find w q = some f → f.ahead = 0) :
    ListsFirst P (scan find none 0 0 w) where
  sound q hq := by
    rw [placesFrom_zero] at hq
    obtain ⟨i, f, -, hf, rfl⟩ := exists_foundAt hq
    rw [hahead i f hf, Nat.add_zero]
    exact (hP i).mp (hf ▸ rfl)
  first q hq := by
    obtain ⟨f, hf⟩ := Option.isSome_iff_exists.mp ((hP q).mpr hq)
    obtain ⟨k, g, hg, hmem, hkq, -⟩ := exists_passed (Nat.zero_le q) (hlt q hq) hf
    exact ⟨_, hmem, by rwa [hahead k g hg]⟩

theorem listsFirst_camelEnds (w : Text) : ListsFirst (fun q => IsHump w (q + 1)) (camelEnds w) :=
  listsFirst_scan (fun _ => foundAt_camelEnd) (fun _ h => Nat.lt_of_succ_lt h.lt_length)
    fun _ _ h => ahead_camelEnd? h

theorem listsFirst_snakeEnds (w : Text) :
    ListsFirst (fun q => w[q]?.any Char.isAlphanum = true ∧ w[q + 1]? = some '_') (snakeEnds w) := by
  refine listsFirst_scan (fun q => ?_) (fun q h => lt_length_of_any h.1) fun q f hf => ?_
  · rw [foundAt, ← List.head?_drop, ← List.head?_drop, ← List.tail_drop]
    match w.drop q with
    | [] => simp [snakeEnd?]
    | [c] => simp [snakeEnd?]
    | c :: d :: u => by_cases hd : d = '_' <;> simp [snakeEnd?, hd]
  · have hfound : snakeEnd? (w.drop q) = some f := hf
    unfold snakeEnd? at hfound
    split at hfound
    · split at hfound
      · cases hfound
        rfl
      · cases hfound
    · cases hfound

/-- Something is passed over where sub-words end, and nothing where they start. -/
example : camelEnds ['a', 'B', 'c', 'D'] = [0] ∧ camelStarts ['a', 'B', 'c', 'D'] = [1, 3] := by
  decide

end Subword
end Keywise
