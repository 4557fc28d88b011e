import CodeAtlas.Proofs.Symbols.Resolution

/-!
Declarations that share a name and an id. Where names are looked up only the first of them stands,
with its own language, for all of them. So every declaration an item's code names is found in every
order of the collection exactly if none of these groups mixes languages the item may use with
languages it may not use.
-/
namespace CodeAtlas.Symbols

variable {item : Item} {all : List Item}

def Names (item : Item) (name : String) : Prop :=
  ∃ found, Cut item.code.toList found ∧ ∃ t ∈ found, String.ofList t.name = name

theorem names_iff {name : String} :
    Names item name ↔ ∃ t ∈ tokens item.code.toList, String.ofList t.name = name := by
  constructor
  · rintro ⟨found, cut, named⟩
    rwa [cut.eq_tokens] at named
  · exact fun named => ⟨_, tokens_cut _, named⟩

def MayUse (item other : Item) : Prop :=
  item.language = other.language ∨
    item.language ∈ scriptDialects ∧ other.language ∈ scriptDialects

structure Uses (item other : Item) : Prop where
  named : Names item other.name
  apart : other.id ≠ item.id
  fits : MayUse item other

def Complete (item : Item) (all : List Item) (found : List Dependency) : Prop :=
  ∀ other ∈ all, Uses item other → ∃ d ∈ found, d.name = other.name ∧ d.target = some other.id

/-- Of the members of a collection that share a name and an id the item uses all or none. -/
def Unmixed (item : Item) (all : List Item) : Prop :=
  ∀ a ∈ all, ∀ b ∈ all, a.name = b.name → a.id = b.id → Uses item a → Uses item b

theorem Unmixed.perm {other : List Item} (unmixed : Unmixed item all) (same : other.Perm all) :
    Unmixed item other :=
  fun a first b second => unmixed a (same.mem_iff.mp first) b (same.mem_iff.mp second)

theorem firstNamed_eq_some {name id : String} {other : Item}
    (first : firstNamed? all name id = some other) :
    other ∈ all ∧ other.name = name ∧ other.id = id := by
  have both := List.find?_some first
  simp only [Bool.and_eq_true, beq_iff_eq] at both
  exact ⟨List.mem_of_find?_eq_some first, both⟩

theorem exists_firstNamed {other : Item} (member : other ∈ all) :
    ∃ first, firstNamed? all other.name other.id = some first :=
  (exists_find? member (by simp)).imp fun _ => And.left

/-- A name and an id lead to the first item that has both, if the item uses that one. -/
theorem resolves_iff {name id : String} :
    (∃ d ∈ dependencies (symbolsOf all) item, d.name = name ∧ d.target = some id) ↔
      ∃ first, firstNamed? all name id = some first ∧ Uses item first := by
  constructor
  · rintro ⟨d, member, rfl, target⟩
    obtain ⟨named, ⟨first, found, leads, apart, fits⟩, -⟩ := resolved_iff.mp member
    obtain rfl : first.id = id := Option.some_inj.mp (leads.symm.trans target)
    refine ⟨first, found, ?_, apart, fits⟩
    rw [(firstNamed_eq_some found).2.1]
    exact names_iff.mpr named
  · rintro ⟨first, found, named, apart, fits⟩
    obtain ⟨-, rfl, rfl⟩ := firstNamed_eq_some found
    obtain ⟨t, among, same⟩ := names_iff.mp named
    exact ⟨⟨first.name, kindOf (supertypeNames item) (tokens item.code.toList) first.name,
      some first.id⟩, resolved_iff.mpr ⟨⟨t, among, same⟩, ⟨first, found, rfl, apart, fits⟩,
      use_kindOf among same⟩, rfl, rfl⟩

theorem resolves_first_iff {first : Item} :
    (∃ d ∈ dependencies (symbolsOf (first :: all)) item, d.name = first.name ∧
      d.target = some first.id) ↔ Uses item first := by
  have leads : firstNamed? (first :: all) first.name first.id = some first := by
    simp [firstNamed?]
  rw [resolves_iff, leads]
  constructor
  · rintro ⟨_, same, uses⟩
    cases same
    exact uses
  · exact fun uses => ⟨first, rfl, uses⟩

/-! Collections that do not mix -/

theorem Unmixed.complete (unmixed : Unmixed item all) :
    Complete item all (dependencies (symbolsOf all) item) := by
  intro other member uses
  obtain ⟨first, found⟩ := exists_firstNamed member
  obtain ⟨inside, name, id⟩ := firstNamed_eq_some found
  exact resolves_iff.mpr
    ⟨first, found, unmixed other member first inside name.symm id.symm uses⟩

/-- Without regard to the order: the dependencies are those on what the item uses. -/
theorem Unmixed.mem_dependencies_iff (unmixed : Unmixed item all) {d : Dependency} :
    d ∈ dependencies (symbolsOf all) item ↔
      Use item (tokens item.code.toList) d.name d.kind ∧
        ∃ other ∈ all, Uses item other ∧ d.name = other.name ∧ d.target = some other.id := by
  constructor
  · intro member
    obtain ⟨named, ⟨first, found, leads, apart, fits⟩, use⟩ := resolved_iff.mp member
    obtain ⟨inside, name, -⟩ := firstNamed_eq_some found
    exact ⟨use, first, inside, ⟨name ▸ names_iff.mpr named, apart, fits⟩, name.symm, leads⟩
  · rintro ⟨use, other, inside, uses, name, target⟩
    obtain ⟨e, member, sameName, sameTarget⟩ := unmixed.complete other inside uses
    have strongest := (resolved_iff.mp member).use
    have same : e = d := by
      obtain ⟨eName, eKind, eTarget⟩ := e
      obtain ⟨dName, dKind, dTarget⟩ := d
      subst name target sameName sameTarget
      exact congrArg (Dependency.mk _ · _) (strongest.unique use)
    exact same ▸ member

/-! Orders that show a mixture -/

theorem unmixed_of_complete
    (complete : ∀ other : List Item, other.Perm all →
      Complete item other (dependencies (symbolsOf other) item)) : Unmixed item all := by
  intro a first b second name id uses
  have moved := List.perm_cons_erase second
  obtain ⟨d, found, sameName, sameTarget⟩ :=
    complete _ moved.symm a (moved.mem_iff.mp first) uses
  exact resolves_first_iff.mp ⟨d, found, sameName.trans name, id ▸ sameTarget⟩

theorem unmixed_of_same
    (same : ∀ other : List Item, other.Perm all → ∀ d,
      d ∈ dependencies (symbolsOf other) item ↔ d ∈ dependencies (symbolsOf all) item) :
    Unmixed item all := by
  intro a first b second name id uses
  obtain ⟨d, found, sameName, sameTarget⟩ :=
    (@resolves_first_iff item (all.erase a) a).mpr uses
  have inAll := (same _ (List.perm_cons_erase first).symm d).mp found
  have moved := (same _ (List.perm_cons_erase second).symm d).mpr inAll
  exact resolves_first_iff.mp ⟨d, moved, sameName.trans name, id ▸ sameTarget⟩

/-- What a collection offers an item, asked for after it was prepared or without that. -/
def asked (prepared : Bool) (all : List Item) (item : Item) : List Dependency :=
  Analyzer.dependencies (if prepared then .prepare all else {}) item all

theorem asked_eq (prepared : Bool) (all : List Item) (item : Item) :
    asked prepared all item = dependencies (symbolsOf all) item := by
  cases prepared <;> rfl

/-- In every order of a collection all that an item uses is found, and always with the same
dependencies, exactly if the items that share a name and an id are all used by it or none. -/
theorem every_order_resolves_all_iff_unmixed (prepared : Bool) (item : Item) (all : List Item) :
    (Unmixed item all ↔
      ∀ other : List Item, other.Perm all → Complete item other (asked prepared other item)) ∧
    (Unmixed item all ↔
      ∀ other : List Item, other.Perm all →
        ∀ d, d ∈ asked prepared other item ↔ d ∈ asked prepared all item) := by
  simp only [asked_eq]
  refine ⟨⟨fun unmixed other moved => (unmixed.perm moved).complete, unmixed_of_complete⟩,
    fun unmixed other moved d => ?_, unmixed_of_same⟩
  rw [(unmixed.perm moved).mem_dependencies_iff, unmixed.mem_dependencies_iff]
  simp only [moved.mem_iff]

/-- Two files of one stem, in Python and in Go, declare a function on the same line. A call in Go
means the second one, and is resolved only where it is the first of the two. -/
theorem first_language_hides_second :
    let python : Item :=
      { id := "util.load_L3", kind := .function, name := "load", language := .python
        filePath := "util.py", code := "def load():" }
    let go : Item :=
      { id := "util.load_L3", kind := .function, name := "load", language := .go
        filePath := "util.go", code := "func load() {}" }
    let main : Item :=
      { id := "main.main_L3", kind := .function, name := "main", language := .go
        filePath := "main.go", code := "load()" }
    Uses main go ∧ ∀ prepared,
      ¬ Complete main [python, go, main] (asked prepared [python, go, main] main) ∧
        [go, python, main].Perm [python, go, main] ∧
        ∃ d ∈ asked prepared [go, python, main] main,
          d ∉ asked prepared [python, go, main] main := by
  intro python go main
  have code : main.code.toList = [] ++ ('l' :: ['o', 'a', 'd'] ++ ['(', ')']) := by decide
  have cut : Cut main.code.toList [⟨['l', 'o', 'a', 'd'], ['(', ')']⟩] := by
    rw [code]
    refine .next (fun _ member => nomatch member) (by decide) (List.all_eq_true.mp (by decide))
      (fun _ same => by cases same; decide) (.last fun c member => ?_)
    rcases List.mem_pair.mp member with rfl | rfl <;> decide
  have named : Names main "load" := ⟨_, cut, _, List.mem_cons_self, rfl⟩
  have uses : Uses main go := ⟨named, by decide, .inl rfl⟩
  have hidden : ∀ d ∈ dependencies (symbolsOf [python, go, main]) main,
      ¬ (d.name = go.name ∧ d.target = some go.id) := by
    intro d member both
    have used : Uses main python := resolves_first_iff.mp ⟨d, member, both⟩
    exact absurd used.fits (by unfold MayUse; decide)
  refine ⟨uses, fun prepared => ?_⟩
  simp only [asked_eq]
  refine ⟨?_, .swap _ _ _, ?_⟩
  · intro complete
    obtain ⟨d, member, both⟩ := complete go (by simp) uses
    exact hidden d member both
  · obtain ⟨d, member, both⟩ := resolves_first_iff.mpr uses
    exact ⟨d, member, fun again => hidden d again both⟩

end CodeAtlas.Symbols
