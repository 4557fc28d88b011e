import CodeAtlas.Outline.Go
import CodeAtlas.Outline.Java
import CodeAtlas.Outline.Python
import CodeAtlas.Outline.TypeScript

/-!
What a line that declares something looks like to each language: the header it matches, what is still
open around it, and the declaration that is made of both.
-/
namespace CodeAtlas.Outline

variable {lines : List Line} {i : Nat} {line : Line} {c : Construct}

theorem Go.declaration_cases (found : Go.declaration? lines i line = some c) :
    (∃ groups, functionHeader.match? line = some groups ∧ c = function lines i groups) ∨
    ∃ groups, functionHeader.match? line = none ∧
      typeHeader.match? (Text.trimStart line) = some groups ∧ c = type lines i groups := by
  unfold declaration? at found
  split at found
  · rename_i groups header
    exact .inl ⟨groups, header, (Option.some.inj found).symm⟩
  · rename_i other
    obtain ⟨groups, header, rfl⟩ := Option.map_eq_some_iff.mp found
    exact .inr ⟨groups, other, header, rfl⟩

namespace Java

variable {depths : List Int32} {types : List OpenType}

theorem step_cases (found : (step lines depths types i line).1 = some c) :
    isAnnotation (Text.trim line) = false ∧
      ((∃ groups, typeHeader.match? line = some groups ∧
        c = type lines i (stillOpen i types) groups) ∨
      ∃ enclosing outer kind groups, typeHeader.match? line = none ∧
        stillOpen i types = enclosing :: outer ∧ depths[i]?.getD 0 = enclosing.bodyDepth ∧
        memberGroups? enclosing line = some (kind, groups) ∧
        c = member lines i enclosing kind groups) := by
  unfold step at found
  dsimp only at found
  split at found
  · cases found
  · rename_i read
    have plain : isAnnotation (Text.trim line) = false := by
      simpa using (not_or.mp (mt (Bool.or_eq_true _ _).mpr read)).2
    refine ⟨plain, ?_⟩
    split at found
    · rename_i groups header
      exact .inl ⟨groups, header, (Option.some.inj found).symm⟩
    · rename_i other
      split at found
      · cases found
      · rename_i enclosing outer opened
        split at found
        · rename_i inside
          obtain ⟨⟨kind, groups⟩, header, rfl⟩ := Option.map_eq_some_iff.mp found
          exact .inr ⟨enclosing, outer, kind, groups, other, opened, inside.1, header, rfl⟩
        · cases found

theorem step_types (lines : List Line) (depths : List Int32) (types : List OpenType) (i : Nat)
    (line : Line) :
    (step lines depths types i line).2 = stillOpen i types ∨
      ∃ groups, step lines depths types i line = (some (type lines i (stillOpen i types) groups),
        ⟨groups.get "name", depths[i]?.getD 0 + 1, braceBlockEnd lines i⟩ :: stillOpen i types) := by
  unfold step
  dsimp only
  split
  · exact .inl rfl
  · split
    · exact .inr ⟨_, rfl⟩
    · split
      · exact .inl rfl
      · split <;> exact .inl rfl

end Java

theorem Python.step_cases {scopes : List Python.Scope}
    (found : (Python.step lines scopes i line).1 = some c) :
    ∃ isClass groups, Python.header? line = some (isClass, groups) ∧
      c = Python.declaration lines i (Python.enclosing (indentOf line) scopes) isClass groups := by
  unfold step at found
  dsimp only at found
  split at found
  · cases found
  · split at found
    · cases found
    · rename_i isClass groups header
      exact ⟨isClass, groups, header, (Option.some.inj found).symm⟩

namespace TypeScript

variable {depths : List Int32} {types : List OpenType}

theorem member_cases {className : Line} (found : member? lines i line className = some c) :
    ∃ groups, (fieldHeader.match? line = some groups ∧
        c = (arrowField lines i (String.ofList className) groups).setOption "jsDoc"
          (commentAbove lines i true)) ∨
      fieldHeader.match? line = none ∧ methodGroups? line (Text.trim line) = some groups ∧
        c = (method lines i (String.ofList className) groups).setOption "jsDoc"
          (commentAbove lines i true) := by
  unfold member? at found
  obtain ⟨made, among, rfl⟩ := Option.map_eq_some_iff.mp found
  split at among
  · rename_i groups header
    cases among
    exact ⟨groups, .inl ⟨header, rfl⟩⟩
  · rename_i other
    obtain ⟨groups, header, rfl⟩ := Option.map_eq_some_iff.mp among
    exact ⟨groups, .inr ⟨other, header, rfl⟩⟩

theorem other_cases (found : other? lines i line = some c) :
    ∃ make ∈ otherHeaders.map Prod.snd, ∃ groups, c = exported lines i groups (make lines i groups) := by
  obtain ⟨⟨header, make⟩, among, made⟩ := List.exists_of_findSome?_eq_some found
  obtain ⟨groups, -, rfl⟩ := Option.map_eq_some_iff.mp made
  exact ⟨make, List.mem_map_of_mem among, groups, rfl⟩

theorem step_cases (found : (step lines depths types i line).1 = some c) :
    (∃ t ∈ (stillOpen i types).head?, t.bodyDepth = depths[i]?.getD 0 ∧
      member? lines i line t.name = some c) ∨
    (∃ groups, classHeader.match? line = some groups ∧
      c = exported lines i groups (classConstruct lines i (stillOpen i types) groups)) ∨
    other? lines i line = some c := by
  unfold step at found
  dsimp only at found
  split at found
  · cases found
  · split at found
    · rename_i t opened
      obtain ⟨innermost, inside⟩ := Option.filter_eq_some_iff.mp opened
      exact .inl ⟨t, innermost, of_decide_eq_true inside, found⟩
    · split at found
      · rename_i groups header
        exact .inr (.inl ⟨groups, header, (Option.some.inj found).symm⟩)
      · exact .inr (.inr found)

theorem step_types (lines : List Line) (depths : List Int32) (types : List OpenType) (i : Nat)
    (line : Line) :
    (step lines depths types i line).2 = stillOpen i types ∨
      ∃ groups, step lines depths types i line =
        (some (exported lines i groups (classConstruct lines i (stillOpen i types) groups)),
          ⟨groups.get "name", depths[i]?.getD 0 + 1, braceBlockEnd lines i⟩ ::
            stillOpen i types) := by
  unfold step
  dsimp only
  split
  · exact .inl rfl
  · split
    · exact .inl rfl
    · split
      · exact .inr ⟨_, rfl⟩
      · exact .inl rfl

end TypeScript
end CodeAtlas.Outline
