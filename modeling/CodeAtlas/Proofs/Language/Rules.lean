import CodeAtlas.RuleBook
import Mathlib.Data.List.Induction
import Mathlib.Data.List.Nodup

/-!
The rules for an extension. A book that is made of a table gives each extension the rules of the family
it was registered with last. The table of the rules agrees with the table that tells languages, so a
file has rules exactly when its language is known, and they are those of the language's family.
-/
namespace CodeAtlas

theorem Language.family_family (l : Language) : l.family.family = l.family := by
  cases l <;> rfl

namespace RuleBook

structure WellFormed (book : RuleBook) : Prop where
  within : ∀ entry ∈ book.places, entry.2 < book.languages.length
  families : ∀ l ∈ book.languages, l.family = l

theorem wellFormed_empty : WellFormed {} :=
  ⟨(fun _ member => nomatch member), (fun _ member => nomatch member)⟩

theorem register_cases {book : RuleBook} (wellFormed : book.WellFormed)
    (entry : String × Language) :
    ∃ more place, book.register entry =
        { languages := book.languages ++ more, places := (entry.1, place) :: book.places } ∧
      (book.languages ++ more)[place]? = some entry.2.family ∧ ∀ l ∈ more, l.family = l := by
  unfold register
  split
  · rename_i place found
    obtain ⟨within, same, -⟩ := List.findIdx?_eq_some_iff_getElem.mp found
    have here : book.languages[place] = entry.2 := beq_iff_eq.mp same
    have family := wellFormed.families _ (List.getElem_mem within)
    refine ⟨[], place, by rw [List.append_nil], ?_, fun _ member => nomatch member⟩
    rw [List.append_nil, List.getElem?_eq_getElem within, ← here, family]
  · refine ⟨[entry.2.family], book.languages.length, rfl, List.getElem?_concat_length, ?_⟩
    intro l member
    rw [List.mem_singleton.mp member]
    exact entry.2.family_family

variable {book : RuleBook}

theorem WellFormed.register (wellFormed : book.WellFormed) (entry : String × Language) :
    (book.register entry).WellFormed := by
  obtain ⟨more, place, same, found, families⟩ := register_cases wellFormed entry
  rw [same]
  constructor
  · intro other member
    rcases List.mem_cons.mp member with rfl | earlier
    · exact (List.getElem?_eq_some_iff.mp found).1
    · rw [List.length_append]
      exact Nat.lt_add_right _ (wellFormed.within other earlier)
  · intro l member
    rcases List.mem_append.mp member with earlier | later
    · exact wellFormed.families l earlier
    · exact families l later

/-- An entry decides for its own extension and changes nothing for others. -/
theorem language_register (wellFormed : book.WellFormed) (entry : String × Language)
    (extension : String) :
    (book.register entry).language? extension =
      if entry.1 == extension then some entry.2.family else book.language? extension := by
  obtain ⟨more, place, same, found, -⟩ := register_cases wellFormed entry
  rw [same, language?, List.find?_cons]
  cases decided : entry.1 == extension with
  | true => exact found
  | false =>
    rw [if_neg Bool.false_ne_true, language?]
    apply Option.bind_congr
    intro other member
    exact List.getElem?_append_left (wellFormed.within other (List.mem_of_find?_eq_some member))

theorem ofEntries_concat (entries : List (String × Language)) (entry : String × Language) :
    ofEntries (entries ++ [entry]) = (ofEntries entries).register entry := by
  rw [ofEntries, List.foldl_concat]
  rfl

theorem wellFormed_ofEntries (entries : List (String × Language)) :
    (ofEntries entries).WellFormed :=
  List.foldlRecOn entries _ wellFormed_empty fun _ wellFormed entry _ => wellFormed.register entry

theorem language_ofEntries (entries : List (String × Language)) (extension : String) :
    (ofEntries entries).language? extension =
      (entries.reverse.find? (·.1 == extension)).map (·.2.family) := by
  induction entries using List.reverseRecOn with
  | nil => rfl
  | append_singleton earlier entry ih =>
    rw [ofEntries_concat, language_register (wellFormed_ofEntries earlier), ih,
      List.reverse_concat, List.find?_cons]
    cases entry.1 == extension <;> rfl

end RuleBook

section Keys

variable {α β : Type} [BEq α] [LawfulBEq α] {entries : List (α × β)}

theorem find?_key_iff (nodup : (entries.map Prod.fst).Nodup) (key : α) (entry : α × β) :
    entries.find? (·.1 == key) = some entry ↔ entry ∈ entries ∧ entry.1 = key := by
  constructor
  · intro found
    have same := List.find?_some found
    exact ⟨List.mem_of_find?_eq_some found, beq_iff_eq.mp same⟩
  · rintro ⟨member, rfl⟩
    obtain ⟨other, found⟩ : ∃ other, entries.find? (·.1 == entry.1) = some other :=
      Option.isSome_iff_exists.mp (List.find?_isSome.mpr ⟨entry, member, BEq.rfl⟩)
    have same := List.find?_some found
    have among := List.mem_of_find?_eq_some found
    rw [found, List.inj_on_of_nodup_map nodup among member (beq_iff_eq.mp same)]

theorem find?_reverse (nodup : (entries.map Prod.fst).Nodup) (key : α) :
    entries.reverse.find? (·.1 == key) = entries.find? (·.1 == key) := by
  have back : (entries.reverse.map Prod.fst).Nodup := by
    rw [List.map_reverse]
    exact List.nodup_reverse.mpr nodup
  apply Option.ext
  intro entry
  rw [find?_key_iff back, find?_key_iff nodup, List.mem_reverse]

end Keys

/-! The two tables -/

/-- Both tables list the same extensions, each with a language and its family. -/
theorem RuleBook.entries_eq :
    RuleBook.entries = Language.extensions.map fun entry => (entry.1, entry.2.family) := rfl

theorem Language.nodup_extensions : (extensions.map Prod.fst).Nodup := by decide

theorem RuleBook.language_standard (extension : String) :
    standard.language? extension = (Language.ofExtension? extension).map Language.family := by
  have nodup : (entries.map Prod.fst).Nodup := by
    rw [entries_eq, List.map_map]
    exact Language.nodup_extensions
  rw [standard, language_ofEntries, find?_reverse nodup, entries_eq, List.find?_map,
    Language.ofExtension?, Option.map_map, Option.map_map]
  exact congrArg (Option.map · _) (funext fun entry => entry.2.family_family)

theorem rulesFor_eq (path : Path) : rulesFor? path = (Language.ofPath? path).map Language.family := by
  rw [rulesFor?, RuleBook.language_standard, Language.ofPath?]
  cases Language.extensionOf? path <;> rfl

theorem isSupported_iff (path : Path) :
    isSupported path = true ↔ ∃ l, Language.ofPath? path = some l := by
  rw [isSupported, rulesFor_eq, Option.isSome_map, Option.isSome_iff_exists]

end CodeAtlas
