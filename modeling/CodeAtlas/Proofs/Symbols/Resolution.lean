import CodeAtlas.Proofs.Symbols.Names
import CodeAtlas.Symbols.Dependencies
import Mathlib.Data.List.Sort
import Mathlib.Data.Prod.Lex

/-!
Resolving the names in an item's code. The dependencies found are those of the names some other item
of a compatible language has: one for each name and id, in the order in which the names first occur
in the code and the ids first occur in the collection, and of the strongest use of the name.
-/
namespace CodeAtlas.Symbols

/-! First occurrences -/

section FirstOccurrences

variable {α β : Type} [DecidableEq β] {key : α → β}

theorem exists_find? {p : α → Bool} {a : α} {l : List α} (member : a ∈ l) (holds : p a = true) :
    ∃ b, l.find? p = some b ∧ p b = true := by
  obtain ⟨b, found⟩ := Option.isSome_iff_exists.mp (List.find?_isSome.mpr ⟨a, member, holds⟩)
  exact ⟨b, found, List.find?_some found⟩

theorem mem_distinctBy {a : α} {l : List α} :
    a ∈ distinctBy key l ↔ l.find? (fun b => key b == key a) = some a := by
  induction l with
  | nil => simp [distinctBy]
  | cons b l ih =>
    rw [distinctBy, List.mem_cons, List.mem_filter, ih, List.find?_cons]
    by_cases same : key b = key a
    · simp [same, eq_comm]
    · have other : a ≠ b := fun equal => same (congrArg key equal.symm)
      simp [beq_false_of_ne same, other, Ne.symm same]

/-- Those kept of the elements that satisfy `p` stand in the order of their first occurrences. -/
theorem distinctBy_filter_ordered (key : α → β) (p : α → Bool) (l : List α) :
    (distinctBy key (l.filter p)).Pairwise fun a b =>
      l.findIdx (fun c => p c && key c == key a) < l.findIdx (fun c => p c && key c == key b) := by
  induction l with
  | nil => exact .nil
  | cons c l ih =>
    cases kept : p c with
    | false =>
      rw [List.filter_cons_of_neg (by simp [kept])]
      refine ih.imp fun {a b} before => ?_
      simp only [List.findIdx_cons, kept, Bool.false_and, cond_false]
      exact Nat.succ_lt_succ before
    | true =>
      rw [List.filter_cons_of_pos kept, distinctBy, List.pairwise_cons]
      have apart : ∀ a ∈ (distinctBy key (l.filter p)).filter fun b => key b ≠ key c,
          (key c == key a) = false := by
        intro a member
        have other : key a ≠ key c := by simpa using (List.mem_filter.mp member).2
        exact beq_false_of_ne other.symm
      constructor
      · intro b member
        simp only [List.findIdx_cons, kept, apart b member, BEq.rfl, Bool.and_self, Bool.and_false,
          cond_true, cond_false]
        exact Nat.succ_pos _
      · refine (ih.filter _).imp_of_mem fun {a b} first second before => ?_
        simp only [List.findIdx_cons, apart a first, apart b second, Bool.and_false, cond_false]
        exact Nat.succ_lt_succ before

theorem mem_distinctBy_id {a : β} {l : List β} : a ∈ distinctBy id l ↔ a ∈ l := by
  rw [mem_distinctBy]
  constructor
  · exact List.mem_of_find?_eq_some
  · intro member
    obtain ⟨b, found, same⟩ := exists_find? (p := fun b => id b == id a) member BEq.rfl
    obtain rfl : b = a := eq_of_beq same
    exact found

end FirstOccurrences

def firstNamed? (all : List Item) (name id : String) : Option Item :=
  all.find? fun other => other.name == name && other.id == id

theorem mem_knownNames {all : List Item} {found : List Token} {name : String} :
    name ∈ knownNames (symbolsOf all) found ↔
      (∃ t ∈ found, String.ofList t.name = name) ∧ ∃ other ∈ all, other.name = name := by
  simp only [knownNames, mem_distinctBy_id, List.mem_filter, List.mem_map, List.any_eq_true,
    symbolsOf, beq_iff_eq, exists_exists_and_eq_and]
  rfl

theorem mem_targets {all : List Item} {name : String} {s : Symbol} :
    s ∈ targets (symbolsOf all) name ↔ ∃ other, firstNamed? all name s.id = some other ∧
      Symbol.ofItem other = s := by
  have same : ((fun a : Symbol => decide ((a.name == name) = true ∧ (a.id == s.id) = true)) ∘
      Symbol.ofItem) = fun other => other.name == name && other.id == s.id := by
    funext other
    simp only [Function.comp_apply, Symbol.ofItem, Bool.decide_and, Bool.decide_eq_true]
  rw [targets, mem_distinctBy, List.find?_filter, symbolsOf, List.find?_map, same,
    Option.map_eq_some_iff]
  rfl

/-! Uses of a name -/

def Token.Called (t : Token) : Prop :=
  ∃ blanks after, t.rest = blanks ++ '(' :: after ∧ ∀ c ∈ blanks, Text.isBlank c = true

theorem isCall_iff {t : Token} : isCall t = true ↔ t.Called := by
  rw [isCall, beq_iff_eq, Text.trimStart]
  constructor
  · intro opens
    obtain ⟨after, rest⟩ := List.head?_eq_some_iff.mp opens
    refine ⟨t.rest.takeWhile Text.isBlank, after, ?_, fun _ => List.mem_takeWhile_imp⟩
    rw [← rest, List.takeWhile_append_dropWhile]
  · rintro ⟨blanks, after, rest, blank⟩
    rw [rest, List.dropWhile_append_of_pos blank]
    rfl

inductive Use (item : Item) (found : List Token) (name : String) : DependencyKind → Prop
  | supertype (listed : name ∈ supertypeNames item) : Use item found name .inheritance
  | called (unlisted : name ∉ supertypeNames item) (t : Token) (among : t ∈ found)
      (named : String.ofList t.name = name) (called : t.Called) : Use item found name .call
  | only (unlisted : name ∉ supertypeNames item)
      (never : ∀ t ∈ found, String.ofList t.name = name → ¬ t.Called) :
      Use item found name .reference

theorem Use.unique {item : Item} {found : List Token} {name : String} {kind other : DependencyKind}
    (use : Use item found name kind) (again : Use item found name other) : kind = other := by
  cases use with
  | supertype listed =>
    cases again with
    | supertype => rfl
    | called unlisted | only unlisted => exact absurd listed unlisted
  | called unlisted t among named called =>
    cases again with
    | supertype listed => exact absurd listed unlisted
    | called => rfl
    | only _ never => exact absurd called (never t among named)
  | only unlisted never =>
    cases again with
    | supertype listed => exact absurd listed unlisted
    | called _ t among named called => exact absurd called (never t among named)
    | only => rfl

/-- The strongest of some uses is one of them, and none of them is stronger. -/
theorem strongest_of_uses (use : Token → DependencyKind) (found : List Token)
    (kind : DependencyKind) :
    let strongest := found.foldl (fun kind t => stronger kind (use t)) kind
    (strongest = kind ∨ ∃ t ∈ found, strongest = use t) ∧ rank kind ≤ rank strongest ∧
      ∀ t ∈ found, rank (use t) ≤ rank strongest := by
  induction found generalizing kind with
  | nil => exact ⟨.inl rfl, Nat.le_refl _, fun _ member => nomatch member⟩
  | cons t found ih =>
    obtain ⟨one, least, most⟩ := ih (stronger kind (use t))
    have step : (stronger kind (use t) = kind ∨ stronger kind (use t) = use t) ∧
        rank kind ≤ rank (stronger kind (use t)) ∧
        rank (use t) ≤ rank (stronger kind (use t)) := by
      unfold stronger
      split
      · exact ⟨.inr rfl, by omega, Nat.le_refl _⟩
      · exact ⟨.inl rfl, Nat.le_refl _, by omega⟩
    obtain ⟨either, above, aboveUse⟩ := step
    refine ⟨?_, Nat.le_trans above least, ?_⟩
    · rcases one with same | ⟨u, member, same⟩
      · rcases either with first | first
        · exact .inl (same.trans first)
        · exact .inr ⟨t, List.mem_cons_self, same.trans first⟩
      · exact .inr ⟨u, List.mem_cons_of_mem _ member, same⟩
    · intro u member
      rcases List.mem_cons.mp member with rfl | member
      · exact Nat.le_trans aboveUse least
      · exact most u member

theorem kindOf_strongest (supertypes : List String) (found : List Token) (name : String) :
    (kindOf supertypes found name = .reference ∨ ∃ t ∈ found, String.ofList t.name = name ∧
      kindOf supertypes found name = useOf supertypes t) ∧
    ∀ t ∈ found, String.ofList t.name = name →
      rank (useOf supertypes t) ≤ rank (kindOf supertypes found name) := by
  obtain ⟨one, -, most⟩ := strongest_of_uses (useOf supertypes)
    (found.filter fun t => String.ofList t.name == name) .reference
  simp only [List.mem_filter, beq_iff_eq, and_imp, and_assoc] at one most
  exact ⟨one, most⟩

theorem use_kindOf {item : Item} {found : List Token} {name : String} {t : Token} (among : t ∈ found)
    (named : String.ofList t.name = name) :
    Use item found name (kindOf (supertypeNames item) found name) := by
  obtain ⟨one, most⟩ := kindOf_strongest (supertypeNames item) found name
  generalize kindOf (supertypeNames item) found name = kind at one most
  by_cases listed : name ∈ supertypeNames item
  · have strong := most t among named
    rw [useOf, named, if_pos (by simpa using listed)] at strong
    cases kind with
    | inheritance => exact .supertype listed
    | call | reference => exact absurd strong (by decide)
  · have use : ∀ u, String.ofList u.name = name →
        useOf (supertypeNames item) u = if isCall u then .call else .reference := by
      intro u same
      rw [useOf, same, if_neg (by simpa using listed)]
    by_cases called : ∃ u ∈ found, String.ofList u.name = name ∧ u.Called
    · obtain ⟨u, inside, same, called⟩ := called
      have strong := most u inside same
      rw [use u same, if_pos (isCall_iff.mpr called)] at strong
      have call : kind = .call := by
        rcases one with none_found | ⟨v, -, vName, found⟩
        · exact absurd strong (by rw [none_found]; decide)
        · rw [found, use v vName] at strong ⊢
          split at strong
          · rename_i opens
            rw [if_pos opens]
          · exact absurd strong (by decide)
      rw [call]
      exact .called listed u inside same called
    · have never : ∀ u ∈ found, String.ofList u.name = name → ¬ u.Called :=
        fun u inside same calls => called ⟨u, inside, same, calls⟩
      have only : kind = .reference := by
        rcases one with none_found | ⟨u, inside, uName, found⟩
        · exact none_found
        · rw [found, use u uName, if_neg fun opens => never u inside uName (isCall_iff.mp opens)]
      rw [only]
      exact .only listed never

/-! The dependencies of an item -/

def scriptDialects : List Language := [.typeScript, .javaScript]

/-- What a dependency of an item stands for: another item of the collection, whose name occurs in
the code and whose language, as first declared under this name and id, is compatible. -/
structure Resolved (item : Item) (all : List Item) (found : List Token) (d : Dependency) : Prop where
  named : ∃ t ∈ found, String.ofList t.name = d.name
  target : ∃ other, firstNamed? all d.name other.id = some other ∧ d.target = some other.id ∧
    other.id ≠ item.id ∧
    (item.language = other.language ∨
      item.language ∈ scriptDialects ∧ other.language ∈ scriptDialects)
  use : Use item found d.name d.kind

/-- Where a dependency comes from: the first occurrence of its name in the code, then the first item
of that name and id in the collection. -/
def origin (all : List Item) (found : List Token) (d : Dependency) : Nat ×ₗ Nat :=
  toLex (found.findIdx fun t => String.ofList t.name == d.name,
    all.findIdx fun other => other.name == d.name && some other.id == d.target)

structure AllResolved (item : Item) (all : List Item) (found : List Token)
    (dependencies : List Dependency) : Prop where
  exactly : ∀ d, d ∈ dependencies ↔ Resolved item all found d
  ordered : dependencies.Pairwise fun d e => origin all found d < origin all found e

theorem AllResolved.unique {item : Item} {all : List Item} {found : List Token}
    {ds es : List Dependency} (first : AllResolved item all found ds)
    (second : AllResolved item all found es) : ds = es := by
  have asymm : ∀ d e, origin all found d < origin all found e →
      origin all found e < origin all found d → d = e :=
    fun d e before after => absurd before (lt_asymm after)
  have : Std.Antisymm fun d e => origin all found d < origin all found e := ⟨asymm⟩
  have : Std.Irrefl fun d e => origin all found d < origin all found e := ⟨fun d => lt_irrefl _⟩
  exact first.ordered.eq_of_mem_iff second.ordered fun d =>
    (first.exactly d).trans (second.exactly d).symm

theorem mem_dependencies {symbols : List Symbol} {item : Item} {d : Dependency} :
    d ∈ dependencies symbols item ↔ ∃ name ∈ knownNames symbols (tokens item.code.toList),
      ∃ target ∈ targets symbols name, target.id ≠ item.id ∧
        compatible item.language target.language = true ∧
        d = ⟨name, kindOf (supertypeNames item) (tokens item.code.toList) name, some target.id⟩ := by
  simp only [dependencies, List.mem_flatMap, List.mem_map, List.mem_filter, Bool.and_eq_true,
    bne_iff_ne, and_assoc, @eq_comm _ _ d]

theorem compatible_iff {a b : Language} :
    compatible a b = true ↔ a = b ∨ a ∈ scriptDialects ∧ b ∈ scriptDialects := by
  have script : ∀ l : Language, l.isScript = true ↔ l ∈ scriptDialects := by
    intro l
    cases l <;> decide
  rw [compatible, Bool.or_eq_true, Bool.and_eq_true, beq_iff_eq, script, script]

theorem resolved_iff {item : Item} {all : List Item} {d : Dependency} :
    d ∈ dependencies (symbolsOf all) item ↔ Resolved item all (tokens item.code.toList) d := by
  rw [mem_dependencies]
  constructor
  · rintro ⟨name, known, target, offered, apart, fits, rfl⟩
    obtain ⟨⟨t, among, named⟩, -⟩ := mem_knownNames.mp known
    obtain ⟨other, first, rfl⟩ := mem_targets.mp offered
    exact ⟨⟨t, among, named⟩, ⟨other, first, rfl, apart, compatible_iff.mp fits⟩,
      use_kindOf among named⟩
  · rintro ⟨⟨t, among, named⟩, ⟨other, first, target, apart, fits⟩, use⟩
    have declared : other.name = d.name := by
      have both := List.find?_some first
      simpa using (Bool.and_eq_true _ _).mp both |>.1
    refine ⟨d.name, mem_knownNames.mpr ⟨⟨t, among, named⟩, other, List.mem_of_find?_eq_some first,
      declared⟩, .ofItem other, mem_targets.mpr ⟨other, first, rfl⟩, apart,
      compatible_iff.mpr fits, ?_⟩
    obtain ⟨name, kind, id⟩ := d
    cases target
    exact congrArg (Dependency.mk name · (some other.id)) (use.unique (use_kindOf among named))

theorem knownNames_ordered (symbols : List Symbol) (found : List Token) :
    (knownNames symbols found).Pairwise fun a b =>
      found.findIdx (fun t => String.ofList t.name == a) <
        found.findIdx fun t => String.ofList t.name == b := by
  let known (name : String) : Bool := symbols.any fun s => s.name == name
  have place : ∀ a ∈ knownNames symbols found,
      (found.map fun t => String.ofList t.name).findIdx (fun c => known c && id c == id a) =
        found.findIdx fun t => String.ofList t.name == a := by
    intro a member
    have knows : known a = true := (List.mem_filter.mp (mem_distinctBy_id.mp member)).2
    rw [List.findIdx_map]
    congr 1
    funext t
    by_cases same : String.ofList t.name = a
    · simp [same, knows]
    · simp [same]
  refine (distinctBy_filter_ordered id known _).imp_of_mem fun {a b} first second before => ?_
  rwa [place a first, place b second] at before

theorem targets_ordered (all : List Item) (name : String) :
    (targets (symbolsOf all) name).Pairwise fun a b =>
      all.findIdx (fun other => other.name == name && some other.id == some a.id) <
        all.findIdx fun other => other.name == name && some other.id == some b.id := by
  have ordered := distinctBy_filter_ordered Symbol.id (fun s => s.name == name)
    (symbolsOf all)
  simp only [symbolsOf, List.findIdx_map] at ordered
  exact ordered

theorem dependencies_ordered (item : Item) (all : List Item) :
    (dependencies (symbolsOf all) item).Pairwise fun d e =>
      origin all (tokens item.code.toList) d < origin all (tokens item.code.toList) e := by
  rw [dependencies, List.pairwise_flatMap]
  constructor
  · intro name _
    rw [List.pairwise_map]
    refine ((targets_ordered all name).filter _).imp fun {a b} before => ?_
    exact Prod.Lex.toLex_lt_toLex.mpr (.inr ⟨rfl, before⟩)
  · refine (knownNames_ordered (symbolsOf all) (tokens item.code.toList)).imp ?_
    intro a b before d first e second
    obtain ⟨_, -, rfl⟩ := List.mem_map.mp first
    obtain ⟨_, -, rfl⟩ := List.mem_map.mp second
    exact Prod.Lex.toLex_lt_toLex.mpr (.inl before)

/-- The dependencies of an item, asked for without preparation or after preparing with the same
collection, are in order those that the collection offers for the names its code is cut into. -/
theorem dependencies_resolve_names (item : Item) (all : List Item) :
    ∃ found, (∀ cut, Cut item.code.toList cut ↔ cut = found) ∧
      ∀ a ∈ [({} : Analyzer), .prepare all], ∀ ds,
        a.dependencies item all = ds ↔ AllResolved item all found ds := by
  refine ⟨tokens item.code.toList, fun cut => cut_iff, ?_⟩
  have resolves : AllResolved item all (tokens item.code.toList)
      (dependencies (symbolsOf all) item) :=
    ⟨fun d => resolved_iff, dependencies_ordered item all⟩
  intro a either ds
  have same : a.dependencies item all = dependencies (symbolsOf all) item := by
    simp only [List.mem_cons, List.not_mem_nil, or_false] at either
    rcases either with rfl | rfl <;> rfl
  rw [same]
  exact ⟨fun equal => equal ▸ resolves, fun offered => resolves.unique offered⟩

end CodeAtlas.Symbols
