import CodeAtlas.Symbols.Basic
import Mathlib.Data.List.TakeWhile

/-!
The names in a text. A text can be cut in one way only into names, each as long as it can be, and
pieces between them in which no name starts; looking for names from the left finds that cut.
-/
namespace CodeAtlas.Symbols

/-- A text is cut into names, with the text that follows each, and what stands between them. -/
inductive Cut : Line → List Token → Prop
  | last {gap : Line} (quiet : ∀ c ∈ gap, startsName c = false) : Cut gap []
  | next {gap more rest : Line} {first : Char} {found : List Token}
      (quiet : ∀ c ∈ gap, startsName c = false) (starts : startsName first = true)
      (goesOn : ∀ c ∈ more, continuesName c = true)
      (ends : ∀ c ∈ rest.head?, continuesName c = false) (others : Cut rest found) :
      Cut (gap ++ (first :: more ++ rest)) (⟨first :: more, rest⟩ :: found)

theorem Cut.behind {c : Char} {s : Line} {found : List Token} (quiet : startsName c = false)
    (cut : Cut s found) : Cut (c :: s) found := by
  cases cut with
  | last others => exact .last (List.forall_mem_cons.mpr ⟨quiet, others⟩)
  | next others starts goesOn ends cut =>
    exact .next (List.forall_mem_cons.mpr ⟨quiet, others⟩) starts goesOn ends cut

theorem head_dropWhile_continues (s : Line) :
    ∀ c ∈ (s.dropWhile continuesName).head?, continuesName c = false := by
  intro c first
  have stopped := List.head?_dropWhile_not continuesName s
  rw [Option.mem_def.mp first] at stopped
  exact stopped

theorem tokens_cut (s : Line) : Cut s (tokens s) := by
  fun_induction tokens s with
  | case1 => exact .last fun _ member => nomatch member
  | case2 c cs starts ih =>
    have whole : c :: cs = [] ++ (c :: cs.takeWhile continuesName ++ cs.dropWhile continuesName) := by
      rw [List.nil_append, List.cons_append, List.takeWhile_append_dropWhile]
    rw [whole]
    exact .next (fun _ member => nomatch member) starts (fun _ => List.mem_takeWhile_imp)
      (head_dropWhile_continues cs) ih
  | case3 c cs quiet ih => exact ih.behind (by simpa using quiet)

theorem tokens_past_gap {gap : Line} (quiet : ∀ c ∈ gap, startsName c = false) (s : Line) :
    tokens (gap ++ s) = tokens s := by
  induction gap with
  | nil => rfl
  | cons c gap ih =>
    obtain ⟨first, others⟩ := List.forall_mem_cons.mp quiet
    rw [List.cons_append, tokens, if_neg (by simp [first]), ih others]

theorem tokens_name {first : Char} {more rest : Line} (starts : startsName first = true)
    (goesOn : ∀ c ∈ more, continuesName c = true)
    (ends : ∀ c ∈ rest.head?, continuesName c = false) :
    tokens (first :: more ++ rest) = ⟨first :: more, rest⟩ :: tokens rest := by
  have none_more : rest.takeWhile continuesName = [] ∧ rest.dropWhile continuesName = rest := by
    cases rest with
    | nil => exact ⟨rfl, rfl⟩
    | cons c rest => simp [ends c rfl]
  have taken : (more ++ rest).takeWhile continuesName = more := by
    rw [List.takeWhile_append_of_pos goesOn, none_more.1, List.append_nil]
  have left : (more ++ rest).dropWhile continuesName = rest := by
    rw [List.dropWhile_append_of_pos goesOn, none_more.2]
  rw [List.cons_append, tokens, if_pos starts, taken, left]

theorem Cut.eq_tokens {s : Line} {found : List Token} (cut : Cut s found) : found = tokens s := by
  induction cut with
  | @last gap quiet =>
    have past := tokens_past_gap quiet []
    rw [List.append_nil] at past
    rw [past, tokens]
  | next quiet starts goesOn ends _ ih =>
    rw [tokens_past_gap quiet, tokens_name starts goesOn ends, ← ih]

theorem cut_iff {s : Line} {found : List Token} : Cut s found ↔ found = tokens s :=
  ⟨Cut.eq_tokens, fun same => same ▸ tokens_cut s⟩

end CodeAtlas.Symbols
