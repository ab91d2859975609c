/-
# Counts are multiplied

A number typed before an operator and one typed behind it have the same effect
as their product in either place (`Session.counts_multiply`). As long as an
operator waits for what it applies to, sessions that differ in the counts
alone have the same editor and the same mode; the key that ends the command
makes them the same session, and so they stay (`Session.InNormal.calls?_agrees`).

Key definitions: `Session.withNormal`, `Session.InNormal`.
Key theorems: `Session.give_withNormal`, `Session.InNormal.calls?_reads`,
`Session.InNormal.calls?_agrees`, `Session.counts_multiply`.
-/
import Keywise.Proofs.Mode.Counts
import Keywise.Proofs.Session.Calls
import Keywise.Proofs.Session.Expansion
import Keywise.Proofs.Session.Turn

namespace Keywise
namespace Session

/-- The session with another state of Normal mode. -/
def withNormal (s : Session) (n : Normal) : Session := s.putMode (.normal n)

theorem withNormal_withNormal (s : Session) (n n' : Normal) :
    (s.withNormal n).withNormal n' = s.withNormal n' :=
  s.putMode_putMode rfl

/-- **Where no key is mapped** and nothing is typed ahead, a key is given to the
current mode. -/
theorem arrive_of_unmapped {s : Session} {m : Mode} (hcur : s.currentMode? = some m)
    (huntyped : s.typeahead = {}) (hunmapped : ∀ m ∈ s.editor.keyMaps, m.entries = []) (k : Key) :
    s.arrive k 0 = { session := s, tasks := [.give k] } := by
  have hsingle : s.SingleKeys := by
    intro m hm p hp
    rw [hunmapped m hm] at hp
    cases hp
  have hmode : s.currentMode? ≠ none := by
    rw [hcur]
    exact nofun
  have hmapping : s.mapping? k = none := by
    have hget : ∀ name, (s.keyMap name).get? [k] = none := by
      intro name
      unfold keyMap
      cases hfind : s.editor.keyMaps.find? name with
      | none => rfl
      | some m =>
        rw [Option.getD_some, KeyMap.get?, hunmapped m (List.mem_of_find?_eq_some hfind)]
        rfl
    unfold mapping?
    cases s.currentMode?.bind Mode.keyMap? with
    | none => rfl
    | some name => exact hget name
  exact arrive_of_mapping?_eq_none hsingle huntyped (Nat.zero_le _) hmode hmapping

theorem calls?_key_of_unmapped {s : Session} {m : Mode} (hcur : s.currentMode? = some m)
    (huntyped : s.typeahead = {}) (hunmapped : ∀ m ∈ s.editor.keyMaps, m.entries = [])
    {room : Nat} (hroom : 0 < room) (k : Key) (cs : List Call) :
    s.calls? (.key k :: cs) room = (s.give k).1.calls? cs room := by
  have harrive := arrive_of_unmapped hcur huntyped hunmapped k
  exact calls?_key (isSome_current_of_currentMode? hcur) harrive hroom cs

/-- Normal mode is the current one and has read `n` of a command. Nothing was
asked for that is still to be done, nothing is typed ahead, and no key is
mapped. -/
structure InNormal (s : Session) (n : Normal) : Prop where
  current : s.currentMode? = some (.normal n)
  served : s.editor.Served
  untyped : s.typeahead = {}
  unmapped : ∀ m ∈ s.editor.keyMaps, m.entries = []

theorem give_of_normal {s : Session} {n : Normal} (h : s.currentMode? = some (.normal n))
    (k : Key) : (s.give k).1 =
      serve (2 * (n.handle s.editor k).2.1.replays.length + 1)
        (withNormal { s with editor := (n.handle s.editor k).2.1 } (n.handle s.editor k).1) := by
  have hcur := (current_of_currentMode? h).1
  have hhand : (s.hand k).1 =
      withNormal { s with editor := (n.handle s.editor k).2.1 } (n.handle s.editor k).1 := by
    unfold hand
    rw [h]
    rfl
  have hgive : (s.give k).1 =
      serve (2 * (s.hand k).1.editor.replays.length + 1) (s.hand k).1 := by
    unfold give
    rw [hcur]
  rw [hgive, hhand]
  rfl

namespace InNormal

variable {s : Session} {n n' : Normal} {room : Nat}

theorem withNormal (h : s.InNormal n) (n' : Normal) : (s.withNormal n').InNormal n' := by
  have hcurrent : (s.withNormal n').currentMode? = some (.normal n') :=
    currentMode?_putMode h.current rfl
  exact ⟨hcurrent, h.served, h.untyped, h.unmapped⟩

/-- **A key is given to Normal mode**: it is not mapped. -/
theorem arrive (h : s.InNormal n) (k : Key) :
    s.arrive k 0 = { session := s, tasks := [.give k] } :=
  arrive_of_unmapped h.current h.untyped h.unmapped k

theorem calls?_key (h : s.InNormal n) (hroom : 0 < room) (k : Key) (cs : List Call) :
    s.calls? (.key k :: cs) room = (s.give k).1.calls? cs room :=
  calls?_key_of_unmapped h.current h.untyped h.unmapped hroom k cs

theorem calls?_zero (h : s.InNormal n) (k : Key) (cs : List Call) :
    s.calls? (.key k :: cs) 0 = none := by
  have hcall : s.call? (.key k) 0 = none := by
    rw [call?, press?, (current_of_currentMode? h.current).1, h.arrive k]
    rfl
  rw [calls?, hcall]
  rfl

theorem give_of_handle (h : s.InNormal n) {k : Key}
    (hk : n.handle s.editor k = (n', s.editor, true)) : (s.give k).1 = s.withNormal n' := by
  rw [give_of_normal h.current, hk]
  exact serve_of_nil (s := s.withNormal n') h.served.requests h.served.replays _

/-- **Keys that are read** change Normal mode alone. -/
theorem calls?_reads (hroom : 0 < room) (cs : List Call) {ks : List Key} (hks : n.Reads ks n')
    (hne : ks ≠ []) : ∀ {s : Session}, s.InNormal n →
      s.calls? (ks.map .key ++ cs) room = (s.withNormal n').calls? cs room := by
  induction hks with
  | nil => exact absurd rfl hne
  | @cons n n₁ n' k ks hk hks ih =>
    intro s h
    rw [List.map_cons, List.cons_append, h.calls?_key hroom, h.give_of_handle (hk.handle s.editor)]
    by_cases hnil : ks = []
    · subst hnil
      cases hks
      rfl
    · rw [ih hnil (h.withNormal n₁), withNormal_withNormal]

/-- **As long as the counts agree** the editor and the mode are the same,
whatever keys are typed, unless the first one is a digit that goes on with a
count. -/
theorem calls?_agrees {n₀ : Normal} (h : s.InNormal n₀) (hroom : 0 < room) {op : Operator} :
    ∀ {ks : List Key} {n n' : Normal}, Normal.Agrees op n n' →
      (n.awaiting = .command → ∀ k ∈ ks.head?, ∀ c, k.char? = some c → c.isDigit = false) →
      ((s.withNormal n').calls? (ks.map .key) room).map (fun s => (s.editor, s.current)) =
        ((s.withNormal n).calls? (ks.map .key) room).map fun s => (s.editor, s.current)
  | [], _, _, _, _ => rfl
  | k :: ks, n, n', hagrees, hk => by
    have hn := h.withNormal n
    have hn' := h.withNormal n'
    rw [List.map_cons, hn.calls?_key hroom, hn'.calls?_key hroom]
    rcases hagrees.handle s.editor (fun hcommand => hk hcommand k rfl) with
      hsame | ⟨n₁, n₁', hagrees₁, hcommand, hread, hread'⟩
    · -- the command has been ended: from here on the sessions are the same
      have hgive : ((s.withNormal n').give k).1 = ((s.withNormal n).give k).1 := by
        rw [give_of_normal hn.current, give_of_normal hn'.current]
        show serve (2 * (n'.handle s.editor k).2.1.replays.length + 1)
          ((Session.withNormal { s with editor := (n'.handle s.editor k).2.1 } n').withNormal
            (n'.handle s.editor k).1) =
          serve (2 * (n.handle s.editor k).2.1.replays.length + 1)
          ((Session.withNormal { s with editor := (n.handle s.editor k).2.1 } n).withNormal
            (n.handle s.editor k).1)
        rw [withNormal_withNormal, withNormal_withNormal, hsame]
      rw [hgive]
    · rw [hn.give_of_handle hread, hn'.give_of_handle hread', withNormal_withNormal,
        withNormal_withNormal]
      exact h.calls?_agrees hroom hagrees₁ fun hn => absurd hn hcommand

end InNormal

/-- **Counts are multiplied.** In an idle Normal mode in which no key is
mapped, the number `a` before an operator and `b` behind it have the same
effect as their product, be it behind the operator or before it, whatever keys
are typed then, if the first one is no digit: the editor and the mode are the
same. -/
theorem counts_multiply {s : Session} (h : s.InNormal .idle) (op : Operator) {a b : Nat}
    (ha : 1 ≤ a) (hb : 1 ≤ b) {k : Key} (hk : ∀ c, k.char? = some c → c.isDigit = false)
    (ks : List Key) (room : Nat) :
    let typed (command : List Key) :=
      (s.calls? ((command ++ k :: ks).map .key) room).map fun s => (s.editor, s.current)
    typed (.char op.char :: Key.decimal (Count.times a b)) =
        typed (Key.decimal a ++ .char op.char :: Key.decimal b) ∧
      typed (Key.decimal (Count.times a b) ++ [.char op.char]) =
        typed (Key.decimal a ++ .char op.char :: Key.decimal b) := by
  intro typed
  have hn : 1 ≤ Count.times a b := Count.one_le_times ha hb
  have hboth := (Normal.reads_count op ha).append (Normal.reads_operandCount _ op hb)
  rw [List.append_assoc, List.singleton_append] at hboth
  have hbehind : Normal.idle.Reads (.char op.char :: Key.decimal (Count.times a b)) _ :=
    .cons (.operator op.char op rfl rfl rfl op.ofChar?_char) (Normal.reads_operandCount none op hn)
  have hbefore := Normal.reads_count op hn
  cases room with
  | zero =>
    have hzero : ∀ ks' n, Normal.idle.Reads ks' n → typed ks' = none := by
      intro ks' n hreads
      have hnone : s.calls? ((ks' ++ k :: ks).map .key) 0 = none := by
        cases ks' with
        | nil => exact h.calls?_zero k _
        | cons k' ks' => exact h.calls?_zero k' _
      exact congrArg (Option.map _) hnone
    rw [hzero _ _ hboth, hzero _ _ hbehind, hzero _ _ hbefore]
    exact ⟨rfl, rfl⟩
  | succ room =>
    have hread : ∀ ks' n, ks' ≠ [] → Normal.idle.Reads ks' n → typed ks' =
        ((s.withNormal n).calls? ((k :: ks).map .key) (room + 1)).map
          fun s => (s.editor, s.current) := by
      intro ks' n hne hreads
      show Option.map _ (s.calls? _ (room + 1)) = _
      rw [List.map_append, InNormal.calls?_reads (Nat.succ_pos room) _ hreads hne h]
    have hfirst : ∀ k' ∈ (k :: ks).head?, ∀ c, k'.char? = some c → c.isDigit = false := by
      intro k' hk'
      rw [← Option.some.inj hk']
      exact hk
    rw [hread _ _ (by simp) hboth, hread _ _ (by simp) hbehind, hread _ _ (by simp) hbefore]
    exact ⟨h.calls?_agrees (Nat.succ_pos room) (Normal.agrees_behind op a b) fun _ => hfirst,
      h.calls?_agrees (Nat.succ_pos room) (Normal.agrees_before op a b) fun _ => hfirst⟩

/-- Six words are deleted, in each of the three ways. -/
theorem counts_multiply_deleting :
    let s := standard
      { text := ['a', ' ', 'b', ' ', 'c', ' ', 'd', ' ', 'e', ' ', 'f', ' ', 'g'] }
    let typed (cs : List Char) := (s.calls? (cs.map fun c => .key (.char c))).map (·.editor.text)
    typed ['2', 'd', '3', 'w'] = some ['g'] ∧ typed ['d', '6', 'w'] = some ['g'] ∧
      typed ['6', 'd', 'w'] = some ['g'] := by
  intro s typed
  have hidle : s.InNormal .idle := ⟨rfl, ⟨rfl, rfl⟩, rfl, by decide⟩
  have htwice : typed ['2', 'd', '3', 'w'] = some ['g'] := by decide +kernel
  have hmotion : ∀ c, (Key.char 'w').char? = some c → c.isDigit = false := by
    intro c hc
    rw [← Option.some.inj hc]
    rfl
  obtain ⟨hbehind, hbefore⟩ :=
    counts_multiply hidle .delete (a := 2) (b := 3) (by decide) (by decide) hmotion [] stackRoom
  have htext : ∀ {x y : Option Session}, x.map (fun s => (s.editor, s.current)) =
      y.map (fun s => (s.editor, s.current)) → x.map (·.editor.text) = y.map (·.editor.text) := by
    intro x y hxy
    have hmap := congrArg (Option.map fun p : Editor × Option ModeName => p.1.text) hxy
    rwa [Option.map_map, Option.map_map] at hmap
  exact ⟨htwice, (htext hbehind).trans htwice, (htext hbefore).trans htwice⟩

end Session
end Keywise
