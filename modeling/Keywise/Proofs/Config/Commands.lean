/-
# A configuration and the commands that define its mappings

The mappings of a configuration can be typed as commands: the letter of the
mode, the verb, an exclamation mark if the mode is one, and the two sides. Such
a command line is read as the command to define the mapping
(`ExCommand.parse_commandLine`), in the maps that the configuration means by
the mode. So the commands of its entries, one after the other, lead to the key
maps that the configuration leads to, and an entry with a side that is not well
written changes nothing either way (`ExCommand.typed_eq_install`).

Key definitions: `Unicode.Trimmed`, `MappingEntry.commandLine`,
`MappingEntry.Typable`.
Key theorems: `ExCommand.parse_commandLine`, `ExCommand.run_commandLine`,
`ExCommand.typed_eq_install`.
-/
import Mathlib.Data.List.Basic
import Keywise.Config.Install

namespace Keywise

/-! ### Texts without white space at their ends -/

namespace Unicode

/-- Neither the first nor the last character is white space. -/
structure Trimmed (s : List Char) : Prop where
  head : ∀ c ∈ s.head?, isWhitespace c = false
  last : ∀ c ∈ s.getLast?, isWhitespace c = false

instance (s : List Char) : Decidable (Trimmed s) :=
  decidable_of_iff ((s.head?.all fun c => !isWhitespace c) = true ∧
      (s.getLast?.all fun c => !isWhitespace c) = true)
    ⟨fun h => ⟨by simpa [Option.all_eq_true] using h.1, by simpa [Option.all_eq_true] using h.2⟩,
      fun h => by simpa [Option.all_eq_true] using And.intro h.head h.last⟩

theorem dropWhile_isWhitespace {s : List Char} (h : ∀ c ∈ s.head?, isWhitespace c = false) :
    s.dropWhile isWhitespace = s := by
  cases s with
  | nil => rfl
  | cons c s => exact trimStart_cons_of_not_blank (h c rfl) s

theorem Trimmed.trim {s : List Char} (h : Trimmed s) : Unicode.trim s = s := by
  have hlast : ∀ c ∈ s.reverse.head?, isWhitespace c = false := by
    rw [List.head?_reverse]
    exact h.last
  rw [Unicode.trim, trimStart, dropWhile_isWhitespace h.head, dropWhile_isWhitespace hlast,
    List.reverse_reverse]

theorem Trimmed.trim_blank {s : List Char} (h : Trimmed s) : Unicode.trim (' ' :: s) = s := by
  have hblank : isWhitespace ' ' = true := by decide
  have htrim := h.trim
  rw [Unicode.trim] at htrim ⊢
  rw [trimStart_cons_blank hblank, htrim]

theorem Trimmed.append {w s : List Char} (h : Trimmed s) (hs : s ≠ []) (hw : w ≠ [])
    (hblank : ∀ c ∈ w, isWhitespace c = false) : Trimmed (w ++ ' ' :: s) := by
  constructor
  · intro c hc
    rw [List.head?_append_of_ne_nil w hw] at hc
    exact hblank c (List.mem_of_mem_head? hc)
  · rw [List.getLast?_append_of_ne_nil w (List.cons_ne_nil _ _), List.getLast?_cons_of_ne_nil hs]
    exact h.last

end Unicode

open Unicode

namespace Decimal

theorem read_cons {c : Char} (hplus : c ≠ '+') (limit : Nat) (s : List Char) :
    read limit (c :: s) = ofDigits limit (c :: s) := by
  unfold read
  split
  · next heq => exact absurd (List.cons.inj heq).1 hplus
  · rfl

theorem read_cons_eq_none {c : Char} (hplus : c ≠ '+') (hdigit : c.isDigit = false)
    (limit : Nat) (s : List Char) : read limit (c :: s) = none := by
  rw [read_cons hplus, ofDigits, value, hdigit]
  rfl

end Decimal

/-! ### The command of an entry -/

namespace MappingEntry

/-- The modes that have a letter, that of Normal and Visual mode together, and
that of the modes in which text is typed. -/
def modes : List String := ["n", "v", "x", "i", "c", "", "!"]

/-- The verb of a mapping. -/
def verb (recursive : Bool) : MapVerb := if recursive then .map else .noremap

/-- The name of the command that defines mappings of a mode. -/
def commandName (mode : String) (recursive : Bool) : List Char :=
  let name := if recursive then ['m', 'a', 'p'] else ['n', 'o', 'r', 'e', 'm', 'a', 'p']
  if mode = "!" then name ++ ['!'] else mode.toList ++ name

/-- The command line that defines the mapping of an entry. -/
def commandLine (m : MappingEntry) : List Char :=
  commandName m.mode m.recursive ++ ' ' :: (m.lhs.toList ++ ' ' :: m.rhs.toList)

/-- An entry that can be typed: its mode has a command, its left-hand side is
one word, and its right-hand side begins and ends without white space. -/
structure Typable (m : MappingEntry) : Prop where
  mode : m.mode ∈ modes
  lhs_ne_nil : m.lhs.toList ≠ []
  lhs_word : ∀ c ∈ m.lhs.toList, isWhitespace c = false
  rhs_ne_nil : m.rhs.toList ≠ []
  rhs_trimmed : Trimmed m.rhs.toList

instance (m : MappingEntry) : Decidable m.Typable :=
  decidable_of_iff (m.mode ∈ modes ∧ m.lhs.toList ≠ [] ∧
      (m.lhs.toList.all fun c => !isWhitespace c) = true ∧ m.rhs.toList ≠ [] ∧
      Trimmed m.rhs.toList)
    ⟨fun ⟨hmode, hlhs, hword, hrhs, htrimmed⟩ =>
        ⟨hmode, hlhs, by simpa [List.all_eq_true] using hword, hrhs, htrimmed⟩,
      fun h => ⟨h.mode, h.lhs_ne_nil, by simpa [List.all_eq_true] using h.lhs_word,
        h.rhs_ne_nil, h.rhs_trimmed⟩⟩

/-- **The name of a command** means the maps that a configuration means by the
mode. -/
theorem mapCommand?_commandName : ∀ mode ∈ modes, ∀ recursive : Bool,
    (MapName.ofMode? mode).isSome = true ∧
      ExCommand.mapCommand? (commandName mode recursive) =
        (MapName.ofMode? mode).map (·, verb recursive) := by
  decide

theorem commandName_word : ∀ mode ∈ modes, ∀ recursive : Bool,
    (∀ c ∈ commandName mode recursive, isWhitespace c = false) ∧
      ∀ c ∈ (commandName mode recursive).head?, c ≠ ':' ∧ c ≠ '+' ∧ c.isDigit = false := by
  have hall : ∀ mode ∈ modes, ∀ recursive : Bool,
      ((commandName mode recursive).all fun c => !isWhitespace c) = true ∧
        ((commandName mode recursive).head?.all fun c => c != ':' && c != '+' && !c.isDigit) =
          true := by
    decide
  intro mode hmode recursive
  obtain ⟨hword, hhead⟩ := hall mode hmode recursive
  exact ⟨by simpa [List.all_eq_true] using hword,
    by simpa [Option.all_eq_true, and_assoc] using hhead⟩

theorem commandName_ne_nil (mode : String) (recursive : Bool) :
    commandName mode recursive ≠ [] := by
  unfold commandName
  by_cases hmode : mode = "!" <;> cases recursive <;> simp [hmode]

theorem Typable.trimmed {m : MappingEntry} (h : m.Typable) : Trimmed m.commandLine :=
  (h.rhs_trimmed.append h.rhs_ne_nil h.lhs_ne_nil h.lhs_word).append (by simp)
    (commandName_ne_nil _ _) (commandName_word _ h.mode _).1

end MappingEntry

namespace ExCommand

theorem splitWord_append {w s : List Char} (hw : ∀ c ∈ w, isWhitespace c = false)
    (hs : Trimmed s) : splitWord (w ++ ' ' :: s) = (w, s) := by
  have hblank : isWhitespace ' ' = true := by decide
  have hword : ∀ c ∈ w, (!isWhitespace c) = true := fun c hc => by rw [hw c hc]; rfl
  unfold splitWord
  rw [List.takeWhile_append_of_pos hword, List.dropWhile_append_of_pos hword,
    List.takeWhile_cons_of_neg (by simp [hblank]), List.dropWhile_cons_of_neg (by simp [hblank]),
    List.append_nil, hs.trim_blank]

/-- A line without white space at its ends and without a colon is as it is. -/
theorem body_of_trimmed {s : List Char} (h : Trimmed s) (hcolon : ∀ c ∈ s.head?, c ≠ ':') :
    body s = s := by
  unfold body
  rw [h.trim]
  split
  · exact absurd rfl (hcolon ':' rfl)
  · rfl

variable {m : MappingEntry}

/-- **The command line of an entry** is read as the command that defines its
mapping. -/
theorem parse_commandLine (h : m.Typable) : ∃ maps, MapName.ofMode? m.mode = some maps ∧
    parse m.commandLine = map maps m.recursive m.lhs.toList m.rhs.toList := by
  obtain ⟨hsome, hname⟩ := MappingEntry.mapCommand?_commandName _ h.mode m.recursive
  obtain ⟨hword, hhead⟩ := MappingEntry.commandName_word _ h.mode m.recursive
  obtain ⟨maps, hmaps⟩ := Option.isSome_iff_exists.mp hsome
  rw [hmaps, Option.map_some] at hname
  obtain ⟨c, name, hcons⟩ := List.exists_cons_of_ne_nil
    (MappingEntry.commandName_ne_nil m.mode m.recursive)
  obtain ⟨hcolon, hplus, hdigit⟩ := hhead c (by rw [hcons]; rfl)
  have hline : m.commandLine =
      c :: (name ++ ' ' :: (m.lhs.toList ++ ' ' :: m.rhs.toList)) := by
    rw [MappingEntry.commandLine, hcons, List.cons_append]
  have hbody : body m.commandLine = m.commandLine := by
    refine body_of_trimmed h.trimmed fun c' hc' => ?_
    rw [hline] at hc'
    exact Option.some.inj hc' ▸ hcolon
  have hnumber : Decimal.read Offset.max m.commandLine = none := by
    rw [hline]
    exact Decimal.read_cons_eq_none hplus hdigit _ _
  have hsides : Trimmed (m.lhs.toList ++ ' ' :: m.rhs.toList) :=
    h.rhs_trimmed.append h.rhs_ne_nil h.lhs_ne_nil h.lhs_word
  have hne : m.commandLine.isEmpty = false := by rw [hline]; rfl
  have hsplit : splitWord m.commandLine =
      (MappingEntry.commandName m.mode m.recursive, m.lhs.toList ++ ' ' :: m.rhs.toList) :=
    splitWord_append hword hsides
  have hrhs : m.rhs.toList.isEmpty = false := by
    rw [List.isEmpty_eq_false_iff]
    exact h.rhs_ne_nil
  refine ⟨maps, hmaps, ?_⟩
  unfold parse
  simp only [hbody, hne, hnumber, hsplit, hname, splitWord_append h.lhs_word h.rhs_trimmed]
  cases m.recursive <;> simp [MappingEntry.verb, ofVerb, hrhs]

theorem keys_toList (s : String) : keys s.toList =
    match Key.read s.toList with
    | .ok ks => .ok ks
    | .error err => .error (.badKeys err) := rfl

/-- **Its command does** what the entry does, and fails if it has no
mapping. -/
theorem run_commandLine (h : m.Typable) (e : Editor) :
    (∃ ms, e.keyMaps.installEntry? m = some ms ∧
        run e m.commandLine = ({ e with keyMaps := ms }, none)) ∨
      e.keyMaps.installEntry? m = none ∧
        ∃ err, run e m.commandLine = (e, some (.badKeys err)) := by
  obtain ⟨maps, hmaps, hparse⟩ := parse_commandLine h
  unfold run
  rw [hparse, apply, keys_toList, keys_toList, KeyMaps.installEntry?, hmaps, KeyMaps.sideOf?,
    KeyMaps.sideOf?]
  cases Key.read m.lhs.toList with
  | error err => exact .inr ⟨rfl, err, rfl⟩
  | ok lhs =>
    cases Key.read m.rhs.toList with
    | error err => exact .inr ⟨rfl, err, rfl⟩
    | ok rhs => exact .inl ⟨_, rfl, rfl⟩

/-- An entry with a side that is not well written has no mapping. -/
theorem installEntry?_eq_none (ms : KeyMaps)
    (h : KeyMaps.sideOf? m.lhs = none ∨ KeyMaps.sideOf? m.rhs = none) :
    ms.installEntry? m = none := by
  unfold KeyMaps.installEntry?
  cases MapName.ofMode? m.mode with
  | none => rfl
  | some maps =>
    rcases h with h | h
    · rw [h]
      rfl
    · rw [h]
      cases KeyMaps.sideOf? m.lhs <;> rfl

/-- **The mappings of a configuration** are those that the commands of its
entries define, one after the other; nothing else is changed. An entry with a
side that is not well written changes nothing either way. -/
theorem typed_eq_install (e : Editor) (entries : List MappingEntry)
    (h : ∀ m ∈ entries, m.Typable) :
    entries.foldl (fun e m => (run e m.commandLine).1) e =
        { e with keyMaps := (e.keyMaps.install entries).1 } ∧
      ∀ m ∈ entries, ∀ e' : Editor,
        (KeyMaps.sideOf? m.lhs = none ∨ KeyMaps.sideOf? m.rhs = none) →
          e'.keyMaps.install [m] = (e'.keyMaps, 0) ∧
            ∃ err, run e' m.commandLine = (e', some (.badKeys err)) := by
  constructor
  · induction entries generalizing e with
    | nil => rfl
    | cons m entries ih =>
      have hrest : ∀ m ∈ entries, m.Typable := fun m' hm' => h m' (List.mem_cons_of_mem m hm')
      rw [List.foldl_cons, KeyMaps.install]
      rcases run_commandLine (h m List.mem_cons_self) e with ⟨ms, hms, hrun⟩ | ⟨hnone, err, hrun⟩
      · rw [hms, hrun]
        exact ih _ hrest
      · rw [hnone, hrun]
        exact ih _ hrest
  · intro m hm e' hside
    have hnone := installEntry?_eq_none e'.keyMaps hside
    refine ⟨by rw [KeyMaps.install, hnone]; rfl, ?_⟩
    rcases run_commandLine (h m hm) e' with ⟨ms, hms, -⟩ | ⟨-, hfails⟩
    · rw [hnone] at hms
      cases hms
    · exact hfails

/-- Two mappings, and between them an entry that is not well written. -/
theorem typed_eq_install_mixed :
    let bad : MappingEntry := ⟨"!", "<Nope>", "x", true⟩
    let entries : List MappingEntry := [⟨"", "Q", "d w", true⟩, bad, ⟨"x", "é", "<Esc>", false⟩]
    let e : Editor := { text := [] }
    let typed := entries.foldl (fun e m => (run e m.commandLine).1) e
    (∀ m ∈ entries, m.Typable) ∧ bad.commandLine = "map! <Nope> x".toList ∧
      (∃ err, run e bad.commandLine = (e, some (.badKeys err))) ∧
      (typed.keyMaps.mappings .visual).map (·.1) = [[.char 'Q'], [.char 'é']] ∧
      typed.keyMaps.mappings .insert = [] := by
  intro bad entries e typed
  have htypable : ∀ m ∈ entries, m.Typable := by decide +kernel
  obtain ⟨heq, hfails⟩ := typed_eq_install e entries htypable
  have hnone : KeyMaps.sideOf? bad.lhs = none := by decide
  refine ⟨htypable, by decide, (hfails bad (by decide) e (.inl hnone)).2, ?_, ?_⟩
  · rw [show typed.keyMaps = _ from congrArg Editor.keyMaps heq]
    decide
  · rw [show typed.keyMaps = _ from congrArg Editor.keyMaps heq]
    decide

end ExCommand
end Keywise
