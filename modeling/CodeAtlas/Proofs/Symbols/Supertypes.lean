import CodeAtlas.Proofs.Symbols.Collisions
import Mathlib.Data.List.Permutation
import Mathlib.Data.String.Basic

/-!
Supertypes as they are written: a name behind pointer marks and qualifiers and in front of arguments.
The name is found, and what the item's code calls by it counts as inherited, exactly where no space
stands behind the name. Other blanks there are trimmed, but a space is taken for the end of a
qualifier before that, and no name stands behind it.
-/
namespace CodeAtlas

namespace Text

theorem trim_blanks {blanks : Line} (blank : ∀ c ∈ blanks, isBlank c = true) :
    trim blanks = [] := by
  rw [trim, trimStart, List.dropWhile_eq_nil_iff.mpr blank]
  rfl

theorem trim_append_blanks {name blanks : Line} (some_name : name ≠ [])
    (solid : ∀ c ∈ name, isBlank c = false) (blank : ∀ c ∈ blanks, isBlank c = true) :
    trim (name ++ blanks) = name := by
  have start : trimStart (name ++ blanks) = name ++ blanks := by
    obtain ⟨c, rest, rfl⟩ := List.exists_cons_of_ne_nil some_name
    exact List.dropWhile_cons_of_neg (by simp [solid c List.mem_cons_self])
  have stop : name.reverse.dropWhile isBlank = name.reverse := by
    cases last : name.reverse with
    | nil => rfl
    | cons c others =>
      have solid_last := solid c (List.mem_reverse.mp (last ▸ List.mem_cons_self))
      exact List.dropWhile_cons_of_neg (by simp [solid_last])
  rw [trim, start, trimEnd, dropEndWhile, List.reverse_append,
    List.dropWhile_append_of_pos fun c member => blank c (List.mem_reverse.mp member), stop,
    List.reverse_reverse]

end Text

namespace Symbols

def openings : List Char := ['<', '[', '(']

def separators : List Char := ['.', '*', '=']

def Unopened (s : Line) : Prop := ∀ c ∈ s, c ∉ openings

def IsName (s : Line) : Prop :=
  s ≠ [] ∧ Unopened s ∧ ∀ c ∈ s, Text.isBlank c = false ∧ c ∉ separators

instance (s : Line) : Decidable (Unopened s) := List.decidableBAll _ s

instance (s : Line) : Decidable (IsName s) :=
  have := List.decidableBAll (fun c => Text.isBlank c = false ∧ c ∉ separators) s
  inferInstanceAs (Decidable (_ ∧ _ ∧ _))

structure Spelling where
  stars : Nat
  qualifiers : List Line
  name : Line
  gap : Line
  arguments : Line
  qualified : ∀ part ∈ qualifiers, Unopened part := by decide
  named : IsName name := by decide
  blank : Text.allBlank gap = true := by decide
  opened : arguments.head? ∈ none :: openings.map some := by decide

namespace Spelling

def lead (s : Spelling) : Line :=
  List.replicate s.stars '*' ++ s.qualifiers.flatMap fun part => part ++ ['.']

def text (s : Spelling) : Line := s.lead ++ s.name ++ s.gap ++ s.arguments

end Spelling

def Lists (item : Item) (entry : String) : Prop :=
  ∃ key ∈ supertypeKeys, item.metadata.get? key = some (.string entry) ∨
    ∃ elements, item.metadata.get? key = some (.array elements) ∧ Json.string entry ∈ elements

/-! The bare name -/

theorem opensArguments_iff {c : Char} : opensArguments c = true ↔ c ∈ openings := by
  simp [opensArguments, openings, or_assoc]

theorem endsQualifier_iff {c : Char} : endsQualifier c = true ↔ c = ' ' ∨ c ∈ separators := by
  simp only [endsQualifier, separators, Bool.or_eq_true, beq_iff_eq, List.mem_cons,
    List.not_mem_nil, or_false]
  tauto

theorem mark_not_blank {c : Char} (mark : c ∈ separators ++ openings) : Text.isBlank c = false := by
  have solid : (separators ++ openings).all fun d => !Text.isBlank d := by decide
  simpa using List.all_eq_true.mp solid c mark

/-- Of the blanks, only the space ends a qualifier. -/
theorem blank_quiet {c : Char} (blank : Text.isBlank c = true) (other : c ≠ ' ') :
    endsQualifier c = false := by
  rw [Bool.eq_false_iff, Ne, endsQualifier_iff, not_or]
  refine ⟨other, fun mark => ?_⟩
  have solid := mark_not_blank (List.mem_append_left openings mark)
  exact Bool.false_ne_true (solid.symm.trans blank)

theorem afterLastOf_append {p : Char → Bool} {front rest : Line}
    (ends : ∀ c ∈ front.getLast?, p c = true) (quiet : ∀ c ∈ rest, p c = false) :
    afterLastOf p (front ++ rest) = rest := by
  have kept : ∀ c ∈ rest.reverse, (!p c) = true := fun c member => by
    rw [quiet c (List.mem_reverse.mp member), Bool.not_false]
  have stopped : front.reverse.takeWhile (fun c => !p c) = [] := by
    cases last : front.reverse with
    | nil => rfl
    | cons c others =>
      have closing : p c = true := ends c (by rw [List.getLast?_eq_head?_reverse, last]; rfl)
      rw [List.takeWhile_cons_of_neg (by rw [closing]; decide)]
  rw [afterLastOf, List.reverse_append, List.takeWhile_append_of_pos kept, stopped,
    List.append_nil, List.reverse_reverse]

namespace Spelling

theorem blank_of_gap (s : Spelling) : ∀ c ∈ s.gap, Text.isBlank c = true :=
  List.all_eq_true.mp s.blank

theorem unopened (s : Spelling) : Unopened (s.lead ++ s.name ++ s.gap) := by
  intro c member
  simp only [lead, List.mem_append, List.mem_replicate, List.mem_flatMap, List.mem_singleton] at member
  rcases member with ((⟨-, rfl⟩ | ⟨part, among, inside | rfl⟩) | inside) | inside
  · decide
  · exact s.qualified part among c inside
  · decide
  · exact s.named.2.1 c inside
  · intro opening
    have solid := mark_not_blank (List.mem_append_right separators opening)
    exact Bool.false_ne_true (solid.symm.trans (s.blank_of_gap c inside))

theorem before_arguments (s : Spelling) :
    Text.before opensArguments s.text = s.lead ++ s.name ++ s.gap := by
  have kept : ∀ c ∈ s.lead ++ s.name ++ s.gap, (!opensArguments c) = true := by
    intro c member
    have none_open := s.unopened c member
    rw [← opensArguments_iff] at none_open
    simpa using none_open
  have stopped : s.arguments.takeWhile (fun c => !opensArguments c) = [] := by
    have first := s.opened
    cases arguments : s.arguments with
    | nil => rfl
    | cons c inner =>
      have opening : opensArguments c = true := by
        simpa [arguments, ← opensArguments_iff] using first
      rw [List.takeWhile_cons_of_neg (by simp [opening])]
  rw [Text.before, text, List.takeWhile_append_of_pos kept, stopped, List.append_nil]

theorem lead_ends (s : Spelling) : ∀ c ∈ s.lead.getLast?, endsQualifier c = true := by
  intro c last
  rw [lead] at last
  rcases List.eq_nil_or_concat s.qualifiers with none_there | ⟨parts, part, qualifiers⟩
  · rw [none_there, List.flatMap_nil, List.append_nil] at last
    obtain ⟨-, rfl⟩ := List.mem_replicate.mp (List.mem_of_getLast? last)
    rfl
  · rw [qualifiers, List.concat_eq_append, List.flatMap_append, List.flatMap_singleton,
      ← List.append_assoc, ← List.append_assoc, List.getLast?_concat] at last
    obtain rfl := Option.some.inj last
    rfl

theorem name_quiet (s : Spelling) : ∀ c ∈ s.name, endsQualifier c = false := by
  intro c member
  obtain ⟨solid, unmarked⟩ := s.named.2.2 c member
  rw [Bool.eq_false_iff, Ne, endsQualifier_iff, not_or]
  refine ⟨?_, unmarked⟩
  rintro rfl
  exact absurd solid (by decide)

/-- A space behind the name leaves nothing of it; other blanks there leave it whole. -/
theorem bareName_text (s : Spelling) :
    bareName s.text = if ' ' ∈ s.gap then [] else s.name := by
  rw [bareName, s.before_arguments]
  split
  · rename_i spaced
    obtain ⟨after, before, reversed, last⟩ :=
      List.eq_append_cons_of_mem (List.mem_reverse.mpr spaced)
    have gap : s.gap = before.reverse ++ [' '] ++ after.reverse := by
      rw [← List.reverse_reverse s.gap, reversed]
      simp
    have blank : ∀ c ∈ after.reverse, Text.isBlank c = true := fun c member =>
      s.blank_of_gap c (gap ▸ List.mem_append_right _ member)
    have quiet : ∀ c ∈ after.reverse, endsQualifier c = false := fun c member =>
      blank_quiet (blank c member) fun space => last (List.mem_reverse.mp (space ▸ member))
    have ends : ∀ c ∈ (s.lead ++ s.name ++ before.reverse ++ [' ']).getLast?,
        endsQualifier c = true := by
      rw [List.getLast?_concat]
      rintro c ⟨⟩
      rfl
    rw [gap, ← List.append_assoc, ← List.append_assoc, afterLastOf_append ends quiet,
      Text.trim_blanks blank]
  · rename_i unspaced
    have quiet : ∀ c ∈ s.name ++ s.gap, endsQualifier c = false := by
      intro c member
      rcases List.mem_append.mp member with inside | inside
      · exact s.name_quiet c inside
      · exact blank_quiet (s.blank_of_gap c inside) fun space => unspaced (space ▸ inside)
    rw [List.append_assoc, afterLastOf_append s.lead_ends quiet]
    exact Text.trim_append_blanks s.named.1 (fun c member => (s.named.2.2 c member).1)
      s.blank_of_gap

end Spelling

/-! Listed supertypes -/

theorem mem_textsOf {value : Json} {entry : String} :
    entry ∈ textsOf value ↔
      value = .string entry ∨ ∃ elements, value = .array elements ∧ Json.string entry ∈ elements := by
  cases value with
  | string text => simp [textsOf, eq_comm]
  | array elements =>
    simp only [textsOf, List.mem_filterMap, reduceCtorEq, false_or, Json.array.injEq,
      exists_eq_left']
    constructor
    · rintro ⟨element, member, text⟩
      cases element with
      | string other =>
        cases text
        exact member
      | _ => cases text
    · exact fun member => ⟨_, member, rfl⟩
  | _ => simp [textsOf]

theorem mem_entries {item : Item} {entry : String} :
    (entry ∈ supertypeKeys.flatMap fun key => ((item.metadata.get? key).map textsOf).getD []) ↔
      Lists item entry := by
  rw [List.mem_flatMap]
  refine exists_congr fun key => and_congr_right fun _ => ?_
  cases item.metadata.get? key with
  | none => simp
  | some value => simp [mem_textsOf]

theorem mem_supertypeNames {item : Item} {name : String} :
    name ∈ supertypeNames item ↔
      name ≠ "" ∧ ∃ entry, Lists item entry ∧ String.ofList (bareName entry.toList) = name := by
  simp only [supertypeNames, List.mem_filter, List.mem_map, mem_entries, decide_eq_true_eq]
  exact and_comm

/-- What the item's code calls by this name counts as inherited: no dependency of the name is of any
other kind, and there is one on every item that it leads to. -/
structure Inherits (item : Item) (name : String) (all : List Item) (found : List Dependency) :
    Prop where
  only : ∀ d ∈ found, d.name = name → d.kind = .inheritance
  each : ∀ first, firstNamed? all name first.id = some first → Uses item first →
    ⟨name, .inheritance, some first.id⟩ ∈ found

theorem inherits_of_listed {item : Item} {name : String} (listed : name ∈ supertypeNames item)
    (prepared : Bool) (all : List Item) : Inherits item name all (asked prepared all item) := by
  rw [asked_eq]
  have only : ∀ d ∈ dependencies (symbolsOf all) item, d.name = name → d.kind = .inheritance := by
    rintro d member rfl
    exact (resolved_iff.mp member).use.unique (.supertype listed)
  refine ⟨only, fun first found uses => ?_⟩
  obtain ⟨d, member, sameName, sameTarget⟩ := resolves_iff.mpr ⟨first, found, uses⟩
  obtain ⟨_, kind, _⟩ := d
  obtain rfl : kind = .inheritance := only _ member sameName
  subst sameName sameTarget
  exact member

def derivedClass (id name code entry : String) : Item :=
  { id := id, kind := .class, name := name, language := .java, filePath := name ++ ".java"
    code := code, metadata := [("extends", .string entry)] }

theorem lists_derivedClass {id name code entry other : String} :
    Lists (derivedClass id name code entry) other ↔ other = entry := by
  have values : ∀ key, (derivedClass id name code entry).metadata.get? key =
      if "extends" = key then some (.string entry) else none := by
    intro key
    by_cases same : "extends" = key <;> simp [derivedClass, Metadata.get?, same]
  simp only [Lists, values]
  constructor
  · rintro ⟨key, -, text | ⟨elements, array, -⟩⟩
    · split at text <;> simp_all
    · split at array <;> simp_all
  · rintro rfl
    exact ⟨"extends", by decide, .inl rfl⟩

/-- A supertype is found by its name, and what the code calls by that name is inherited, exactly if
no space stands behind the name where it is listed. -/
theorem listed_supertype_inherited_iff_unspaced (s : Spelling) :
    ' ' ∉ s.gap ↔ ∀ item, Lists item (String.ofList s.text) →
      String.ofList s.name ∈ supertypeNames item ∧
        ∀ prepared all, Inherits item (String.ofList s.name) all (asked prepared all item) := by
  have some_name : String.ofList s.name ≠ "" := fun none_there =>
    s.named.1 (by simpa using congrArg String.toList none_there)
  constructor
  · intro unspaced item lists
    have listed : String.ofList s.name ∈ supertypeNames item := by
      refine mem_supertypeNames.mpr ⟨some_name, _, lists, ?_⟩
      rw [String.toList_ofList, s.bareName_text, if_neg unspaced]
    exact ⟨listed, fun prepared all => inherits_of_listed listed prepared all⟩
  · intro found spaced
    have listed := (found (derivedClass "" "" "" _) (lists_derivedClass.mpr rfl)).1
    obtain ⟨-, entry, lists, bare⟩ := mem_supertypeNames.mp listed
    rw [lists_derivedClass.mp lists, String.toList_ofList, s.bareName_text, if_pos spaced] at bare
    exact some_name bare.symm

theorem line_break_keeps_supertype :
    let entry : Spelling :=
      { stars := 0, qualifiers := ["org".toList, "core".toList], name := "Base".toList
        gap := ['\n'], arguments := "<List<String>>".toList }
    let base : Item :=
      { id := "Base.Base_L1", kind := .class, name := "Base", language := .java
        filePath := "Base.java", code := "class Base<T> \x7b\x7d" }
    let svc := derivedClass "Svc.Svc_L1" "Svc"
      "class Svc extends org.core.Base\n<List<String>> \x7b\x7d" "org.core.Base\n<List<String>>"
    ' ' ∉ entry.gap ∧ Lists svc (String.ofList entry.text) ∧ Uses svc base ∧
      "Base" ∈ supertypeNames svc ∧
      ⟨"Base", .inheritance, some "Base.Base_L1"⟩ ∈ asked true [base, svc] svc := by
  intro entry base svc
  have unspaced : ' ' ∉ entry.gap := by decide
  have lists : Lists svc (String.ofList entry.text) := lists_derivedClass.mpr (by decide)
  have found : (tokens svc.code.toList).map (fun t => String.ofList t.name) =
      ["class", "Svc", "extends", "org", "core", "Base", "List", "String"] := by decide +kernel
  have named : Names svc base.name := by
    rw [names_iff, ← List.mem_map, found]
    decide
  have uses : Uses svc base := ⟨named, by decide, .inl rfl⟩
  obtain ⟨listed, inherits⟩ :=
    (listed_supertype_inherited_iff_unspaced entry).mp unspaced svc lists
  exact ⟨unspaced, lists, uses, listed, (inherits true [base, svc]).each base (by decide) uses⟩

/-- With a space in front of its type arguments a name is taken for a qualifier. -/
theorem space_hides_supertype :
    let entry : Spelling :=
      { stars := 0, qualifiers := [], name := "Base".toList, gap := [' ']
        arguments := "<String>".toList }
    let base : Item :=
      { id := "Base.Base_L1", kind := .class, name := "Base", language := .java
        filePath := "Base.java", code := "public class Base<T> \x7b\n\x7d" }
    let svc := derivedClass "Svc.Svc_L1" "Svc"
      "public class Svc extends Base <String> \x7b\n\x7d" "Base <String>"
    Lists svc (String.ofList entry.text) ∧ Uses svc base ∧ supertypeNames svc = [] ∧
      ∀ prepared, asked prepared [base, svc] svc = [⟨"Base", .reference, some "Base.Base_L1"⟩] := by
  intro entry base svc
  have lists : Lists svc (String.ofList entry.text) := lists_derivedClass.mpr (by decide)
  have found : dependencies (symbolsOf [base, svc]) svc =
      [⟨"Base", .reference, some "Base.Base_L1"⟩] := by decide +kernel
  have uses : Uses svc base := by
    obtain ⟨first, same, uses⟩ := resolves_iff.mp ⟨_, found ▸ List.mem_cons_self, rfl, rfl⟩
    cases same
    exact uses
  exact ⟨lists, uses, by decide, fun prepared => (asked_eq prepared _ svc).trans found⟩

end Symbols
end CodeAtlas
