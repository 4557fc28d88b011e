import CodeAtlas.Extraction
import CodeAtlas.Proofs.Item.Attributes
import CodeAtlas.Proofs.Outline.Block
import CodeAtlas.Proofs.Outline.Steps

/-!
Declarations that take whole lines of a file. The lines a declaration was found on stay with it
through all attributes it is given.
-/
namespace CodeAtlas

structure Construct.Covers (lines : List Line) (c : Construct) : Prop where
  first : 1 ≤ c.startLine
  ordered : c.startLine ≤ c.endLine
  last : c.endLine ≤ lines.length
  code : c.code =
    String.ofList (Text.joinLines ((lines.take c.endLine).drop (c.startLine - 1)))

namespace Construct

variable {lines : List Line} {c : Construct} (key : String)

theorem Covers.of_extent {d : Construct} (covers : c.Covers lines) (same : c.extent = d.extent) :
    d.Covers lines := by
  obtain ⟨startLine, endLine, code⟩ := Extent.mk.inj same
  exact ⟨startLine ▸ covers.first, startLine ▸ endLine ▸ covers.ordered, endLine ▸ covers.last,
    startLine ▸ endLine ▸ code ▸ covers.code⟩

theorem covers_congr {d : Construct} (same : c.extent = d.extent) :
    c.Covers lines ↔ d.Covers lines :=
  ⟨fun covers => covers.of_extent same, fun covers => covers.of_extent same.symm⟩

@[simp]
theorem covers_set (value : Json) : (c.set key value).Covers lines ↔ c.Covers lines :=
  covers_congr (c.extent_set key value)

@[simp]
theorem covers_setFlag (value : Bool) : (c.setFlag key value).Covers lines ↔ c.Covers lines :=
  covers_congr (c.extent_setFlag key value)

@[simp]
theorem covers_setOption (value : Option String) :
    (c.setOption key value).Covers lines ↔ c.Covers lines :=
  covers_congr (c.extent_setOption key value)

@[simp]
theorem covers_setList (values : List String) :
    (c.setList key values).Covers lines ↔ c.Covers lines :=
  covers_congr (c.extent_setList key values)

end Construct

namespace Outline

variable {lines : List Line}

theorem construct_covers (kind : ItemKind) (name : Line) {first last : Nat} (ordered : first ≤ last)
    (inside : last < lines.length) : (construct kind name lines first last).Covers lines where
  first := Nat.le_add_left 1 first
  ordered := Nat.succ_le_succ ordered
  last := inside
  code := rfl

/-- What every line of a file declares, the whole scan declares. -/
theorem scan_forall {σ : Type} (P : Construct → Prop)
    (step : σ → Nat → Line → Option Construct × σ) (lines : List Line)
    (each : ∀ state i line c, i < lines.length → (step state i line).1 = some c → P c)
    (state : σ) : ∀ c ∈ scan step state 0 lines, P c := by
  have from_any : ∀ (rest : List Line) (i : Nat) (state : σ), i + rest.length = lines.length →
      ∀ c ∈ scan step state i rest, P c := by
    intro rest
    induction rest with
    | nil =>
      intro i state _ c member
      cases member
    | cons line rest ih =>
      intro i state whole c member
      rw [List.length_cons] at whole
      have inside : i < lines.length := by omega
      have later := ih (i + 1) (step state i line).2 (by omega)
      have own := each state i line
      unfold scan at member
      split at member
      · rename_i next stepped
        rw [stepped] at later
        exact later c member
      · rename_i found next stepped
        rw [stepped] at later own
        rcases List.mem_cons.mp member with rfl | among
        · exact own _ inside rfl
        · exact later c among
  exact from_any lines 0 state (Nat.zero_add _)

/-! Every declaration of every language takes whole lines -/

variable {i : Nat} (inside : i < lines.length)

include inside

theorem braceBlock_covers (kind : ItemKind) (name : Line) {first : Nat} (above : first ≤ i) :
    (construct kind name lines first (braceBlockEnd lines i)).Covers lines :=
  construct_covers kind name (Nat.le_trans above (le_braceBlockEnd lines i))
    (braceBlockEnd_lt inside)

namespace Go

theorem function_covers (groups : Pattern.Groups) : (function lines i groups).Covers lines := by
  simp [function, braceBlock_covers inside]

theorem type_covers (groups : Pattern.Groups) : (type lines i groups).Covers lines := by
  unfold type
  dsimp only
  split <;> simp [braceBlock_covers inside]

theorem declaration_covers {line : Line} {c : Construct}
    (found : declaration? lines i line = some c) : c.Covers lines := by
  rcases declaration_cases found with ⟨groups, -, rfl⟩ | ⟨groups, -, -, rfl⟩
  · exact function_covers inside groups
  · exact type_covers inside groups

omit inside in
theorem outline_covers (source : Line) :
    ∀ c ∈ outline source, c.Covers (Text.lines source) :=
  scan_forall _ _ _ (fun _ _ _ _ inside found => declaration_covers inside found) ()

end Go

namespace Java

theorem headed_covers (kind : ItemKind) (groups : Pattern.Groups) :
    (headed kind lines i groups).Covers lines := by
  simp [headed, braceBlock_covers inside, runAbove_le]

theorem type_covers (enclosing : List OpenType) (groups : Pattern.Groups) :
    (type lines i enclosing groups).Covers lines := by
  unfold type
  dsimp only
  split <;> simp [headed_covers inside]

theorem member_covers (enclosing : OpenType) (kind : ItemKind) (groups : Pattern.Groups) :
    (member lines i enclosing kind groups).Covers lines := by
  simp [member, headed_covers inside]

theorem step_covers {depths : List Int32} {types : List OpenType} {line : Line} {c : Construct}
    (found : (step lines depths types i line).1 = some c) : c.Covers lines := by
  obtain ⟨-, ⟨groups, -, rfl⟩ | ⟨enclosing, _, kind, groups, -, -, -, -, rfl⟩⟩ := step_cases found
  · exact type_covers inside _ groups
  · exact member_covers inside enclosing kind groups

omit inside in
theorem outline_covers (source : Line) :
    ∀ c ∈ outline source, c.Covers (Text.lines source) :=
  scan_forall _ _ _ (fun _ _ _ _ inside found => step_covers inside found) []

end Java

namespace Python

theorem declaration_covers (scopes : List Scope) (isClass : Bool) (groups : Pattern.Groups) :
    (declaration lines i scopes isClass groups).Covers lines := by
  have block : ∀ kind name, (construct kind name lines
      (runAbove lines i fun l => l.head? == some '@') (indentBlockEnd lines i)).Covers lines :=
    fun kind name => construct_covers kind name
      (Nat.le_trans (runAbove_le lines i _) (le_indentBlockEnd lines i)) (indentBlockEnd_lt inside)
  unfold declaration
  dsimp only
  split
  · simp [classConstruct, block]
  · simp [functionConstruct, block]

theorem step_covers {scopes : List Scope} {line : Line} {c : Construct}
    (found : (step lines scopes i line).1 = some c) : c.Covers lines := by
  obtain ⟨isClass, groups, -, rfl⟩ := step_cases found
  exact declaration_covers inside _ isClass groups

omit inside in
theorem outline_covers (source : Line) :
    ∀ c ∈ outline source, c.Covers (Text.lines source) :=
  scan_forall _ _ _ (fun _ _ _ _ inside found => step_covers inside found) []

end Python

namespace TypeScript

theorem headed_covers (kind : ItemKind) (groups : Pattern.Groups) :
    (headed kind lines i groups).Covers lines :=
  braceBlock_covers inside kind _ (Nat.le_refl i)

theorem member_covers {line className : Line} {c : Construct}
    (found : member? lines i line className = some c) : c.Covers lines := by
  obtain ⟨groups, ⟨-, rfl⟩ | ⟨-, -, rfl⟩⟩ := member_cases found
  · simp [arrowField, headed_covers inside]
  · simp [method, headed_covers inside]

omit inside in
theorem exported_covers (groups : Pattern.Groups) (found : Construct) :
    (exported lines i groups found).Covers lines ↔ found.Covers lines := by
  simp [exported]

theorem other_covers {line : Line} {c : Construct} (found : other? lines i line = some c) :
    c.Covers lines := by
  obtain ⟨make, among, groups, rfl⟩ := other_cases found
  rw [exported_covers]
  simp only [otherHeaders, List.map_cons, List.map_nil, List.mem_cons, List.not_mem_nil,
    or_false] at among
  rcases among with rfl | rfl | rfl | rfl
  · simp [functionConstruct, headed_covers inside]
  · simp [interfaceConstruct, headed_covers inside]
  · simp [typeConstruct, headed_covers inside]
  · simp [arrowConstruct, headed_covers inside]

theorem step_covers {depths : List Int32} {types : List OpenType} {line : Line} {c : Construct}
    (found : (step lines depths types i line).1 = some c) : c.Covers lines := by
  rcases step_cases found with ⟨t, -, -, declared⟩ | ⟨groups, -, rfl⟩ | declared
  · exact member_covers inside declared
  · rw [exported_covers]
    simp [classConstruct, headed_covers inside]
  · exact other_covers inside declared

omit inside in
theorem outline_covers (source : Line) :
    ∀ c ∈ outline source, c.Covers (Text.lines source) :=
  scan_forall _ _ _ (fun _ _ _ _ inside found => step_covers inside found) []

end TypeScript
end Outline

theorem Language.outline_covers (language : Language) (source : Line) :
    ∀ c ∈ language.outline source, c.Covers (Text.lines source) := by
  cases language with
  | go => exact Outline.Go.outline_covers source
  | java => exact Outline.Java.outline_covers source
  | python => exact Outline.Python.outline_covers source
  | typeScript | javaScript => exact Outline.TypeScript.outline_covers source

end CodeAtlas
