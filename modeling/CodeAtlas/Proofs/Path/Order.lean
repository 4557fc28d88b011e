import CodeAtlas.Discovery.Resolve
import Mathlib.Data.Char
import Mathlib.Data.List.Lex
import Mathlib.Data.List.Sort
import Mathlib.Data.Prod.Lex
import Mathlib.Order.RelClasses

/-!
Paths in the order of their components. Components stand in a linear order, and so do lists of them;
sorting paths puts them into increasing order, keeps their components and adds none.
-/
namespace CodeAtlas.Path

/-! The order of components -/

def componentPlace (c : Component) : ℕ ×ₗ Line := toLex (componentRank c, componentText c)

theorem componentPlace_injective : Function.Injective componentPlace := by
  intro a b same
  obtain ⟨rank, text⟩ := Prod.mk.inj (toLex.injective same)
  cases a <;> cases b <;> simp_all [componentRank, componentText]

theorem componentPrecedes_iff (a b : Component) :
    componentPrecedes a b = true ↔ componentPlace a < componentPlace b := by
  simp [componentPrecedes, componentPlace, Prod.Lex.toLex_lt_toLex]

def place (p : Path) : List (ℕ ×ₗ Line) := p.components.map componentPlace

theorem place_inj {p q : Path} : p.place = q.place ↔ p.components = q.components :=
  (List.map_injective_iff.mpr componentPlace_injective).eq_iff

theorem precedesIn_iff (as bs : List Component) :
    precedesIn as bs = true ↔ as.map componentPlace < bs.map componentPlace := by
  induction as generalizing bs with
  | nil => cases bs <;> simp [precedesIn]
  | cons a as ih =>
    cases bs with
    | nil => simp [precedesIn]
    | cons b bs =>
      simp only [precedesIn, Bool.or_eq_true, Bool.and_eq_true, beq_iff_eq, componentPrecedes_iff,
        ih, List.map_cons, List.cons_lt_cons_iff, componentPlace_injective.eq_iff]

theorem precedes_iff (p q : Path) : p.precedes q = true ↔ p.place < q.place :=
  precedesIn_iff p.components q.components

def Increasing (paths : List Path) : Prop := paths.Pairwise fun p q => p.precedes q = true

/-! Sorting -/

theorem mem_of_mem_insertSorted {p q : Path} {paths : List Path}
    (member : q ∈ insertSorted p paths) : q = p ∨ q ∈ paths := by
  induction paths with
  | nil => exact .inl (List.mem_singleton.mp member)
  | cons first rest ih =>
    unfold insertSorted at member
    split at member
    · exact List.mem_cons.mp member
    · split at member
      · exact .inr member
      · rcases List.mem_cons.mp member with here | later
        · exact .inr (here ▸ List.mem_cons_self)
        · exact (ih later).imp_right (List.mem_cons_of_mem first)

theorem components_insertSorted (p : Path) (paths : List Path) (components : List Component) :
    components ∈ (insertSorted p paths).map Path.components ↔
      components = p.components ∨ components ∈ paths.map Path.components := by
  induction paths with
  | nil => simp [insertSorted]
  | cons first rest ih =>
    unfold insertSorted
    split
    · simp
    · split
      · rename_i same
        simp [same]
      · simp only [List.map_cons, List.mem_cons, ih]
        exact or_left_comm

theorem insertSorted_increasing (p : Path) {paths : List Path} (increasing : Increasing paths) :
    Increasing (insertSorted p paths) := by
  induction paths with
  | nil => exact List.pairwise_singleton _ p
  | cons first rest ih =>
    obtain ⟨before, later⟩ := List.pairwise_cons.mp increasing
    unfold insertSorted
    split
    · rename_i precedes
      refine List.pairwise_cons.mpr ⟨?_, increasing⟩
      intro q member
      rcases List.mem_cons.mp member with rfl | further
      · exact precedes
      · rw [precedes_iff] at precedes ⊢
        exact precedes.trans ((precedes_iff _ _).mp (before q further))
    · split
      · exact increasing
      · rename_i follows differs
        have above : first.precedes p = true := by
          rw [precedes_iff] at follows ⊢
          exact lt_of_le_of_ne (not_lt.mp follows) fun same => differs (place_inj.mp same).symm
        refine List.pairwise_cons.mpr ⟨?_, ih later⟩
        intro q member
        rcases mem_of_mem_insertSorted member with rfl | further
        · exact above
        · exact before q further

theorem sorted_increasing (paths : List Path) : Increasing (sorted paths) := by
  induction paths with
  | nil => exact List.Pairwise.nil
  | cons p rest ih => exact insertSorted_increasing p ih

theorem mem_of_mem_sorted {p : Path} {paths : List Path} (member : p ∈ sorted paths) :
    p ∈ paths := by
  induction paths with
  | nil => exact member
  | cons first rest ih =>
    rcases mem_of_mem_insertSorted member with here | later
    · exact here ▸ List.mem_cons_self
    · exact List.mem_cons_of_mem first (ih later)

theorem components_sorted (paths : List Path) (components : List Component) :
    components ∈ (sorted paths).map Path.components ↔
      components ∈ paths.map Path.components := by
  induction paths with
  | nil => rfl
  | cons p rest ih =>
    calc components ∈ (sorted (p :: rest)).map Path.components
      _ ↔ components = p.components ∨ components ∈ (sorted rest).map Path.components :=
        components_insertSorted p (sorted rest) components
      _ ↔ components ∈ (p :: rest).map Path.components := by
        rw [ih, List.map_cons, List.mem_cons]

/-- No path is lost where paths with the same components are the same. -/
theorem mem_sorted {paths : List Path}
    (apart : ∀ p ∈ paths, ∀ q ∈ paths, p.components = q.components → p = q) (p : Path) :
    p ∈ sorted paths ↔ p ∈ paths := by
  constructor
  · exact mem_of_mem_sorted
  · intro member
    have kept := (components_sorted paths p.components).mpr (List.mem_map_of_mem member)
    obtain ⟨q, present, same⟩ := List.mem_map.mp kept
    exact apart q (mem_of_mem_sorted present) p member same ▸ present

/-- Increasing lists of the same paths are the same list. -/
theorem Increasing.eq {paths others : List Path} (first : Increasing paths)
    (second : Increasing others) (same : ∀ p, p ∈ paths ↔ p ∈ others) : paths = others := by
  have irreflexive : Std.Irrefl fun p q : Path => p.precedes q = true :=
    ⟨fun p precedes => lt_irrefl p.place ((precedes_iff p p).mp precedes)⟩
  have asymmetric : Std.Asymm fun p q : Path => p.precedes q = true := by
    constructor
    intro p q precedes
    rw [precedes_iff] at precedes ⊢
    exact lt_asymm precedes
  exact List.Pairwise.eq_of_mem_iff first second (fun {p} => same p)

theorem Increasing.filter_eq {paths others : List Path} (first : Increasing paths)
    (second : Increasing others) (changed : List Path)
    (same : ∀ path ∉ changed, (path ∈ paths ↔ path ∈ others)) :
    others.filter (· ∉ changed) = paths.filter (· ∉ changed) := by
  apply Increasing.eq (List.Pairwise.filter _ second) (List.Pairwise.filter _ first)
  intro path
  simp only [List.mem_filter, decide_eq_true_eq]
  exact and_congr_left fun unchanged => (same path unchanged).symm

end CodeAtlas.Path
