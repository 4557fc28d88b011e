import CodeAtlas.Json.Record
import CodeAtlas.Proofs.Decimal.Surviving
import CodeAtlas.Proofs.Json.Legible

/-!
Numbers in single precision, read back. A finite one is read as itself; what is written for any
other is read as no number at all, so a list that holds one does not decode.
-/
namespace CodeAtlas.Json

open List (Forall₂)

variable {s : Spacing} {levels : Nat}

theorem legible_double {text : Line} {n : Nat} {e : Int} {y : Float} (reads : ReadsAs text n e)
    (scaled : scaled? 8 (Decimal.doubleOfNat n) e = some y) :
    Legible levels text (.number (.double y)) := by
  obtain ⟨d, more, rfl, digit⟩ := reads.starts
  refine ⟨⟨d, more, rfl, ?_, ?_⟩, ?_⟩
  · rintro (rfl | rfl | rfl | rfl) <;> cases digit
  · rintro rfl
    cases digit
  · intro limit depth line column rest _ ends _
    obtain ⟨after, found⟩ := reads.reads false rest line column ends
    refine ⟨line, after, ?_⟩
    rw [List.cons_append] at found ⊢
    rw [readValue_digit _ _ _ _ _ digit, found, finishDouble, scaled]
    rfl

theorem legible_negative_double {text : Line} {n : Nat} {e : Int} {y : Float}
    (reads : ReadsAs text n e) (scaled : scaled? 8 (Decimal.doubleOfNat n) e = some y) :
    Legible levels ('-' :: text) (.number (.double (-y))) := by
  refine ⟨⟨'-', text, rfl, by decide, by decide⟩, ?_⟩
  intro limit depth line column rest _ ends _
  obtain ⟨after, found⟩ := reads.reads true rest line (column + 1) ends
  refine ⟨line, after, ?_⟩
  rw [List.cons_append, readValue_negative, found, finishDouble, scaled]
  rfl

theorem write_single (depth : Nat) (x : Float32) :
    write s depth (.number (.single x)) = (Decimal.singleText? x).getD "null".toList := rfl

/-- A good value decodes to something like it, any other does not decode. -/
inductive Recovers {β : Type} (good : Prop) (like : β → Prop) : Option β → Prop where
  | decoded {y : β} (holds : good) (alike : like y) : Recovers good like (some y)
  | refused (fails : ¬ good) : Recovers good like none

theorem Recovers.map {β γ : Type} {good : Prop} {like : β → Prop} {like' : γ → Prop}
    {found : Option β} (recovered : Recovers good like found) (f : β → γ)
    (alike : ∀ y, like y → like' (f y)) : Recovers good like' (found.map f) := by
  cases recovered with
  | decoded holds same => exact .decoded holds (alike _ same)
  | refused fails => exact .refused fails

def Restores {β : Type} (s : Spacing) (levels : Nat) (value : Json) (decode? : Json → Option β)
    (good : Prop) (like : β → Prop) : Prop :=
  ∃ w, Rereads s levels value w ∧ Recovers good like (decode? w)

theorem restores_single (x : Float32) :
    Restores s levels (.number (.single x)) single? (x.isFinite = true) (x = ·) := by
  rcases Decimal.singleText_cases x with ⟨finite, m, q, magnitude⟩ | ⟨finite, written⟩
  · have written := Decimal.singleText_finite magnitude
    obtain ⟨n, e, y, reads, scaled, rounded⟩ := Decimal.readsBack_write magnitude
    refine ⟨.number (.double (if Decimal.single.isNegative x.toBits.toNat then -y else y)), ?_,
      .decoded finite rounded.symm⟩
    intro depth
    rw [write_single, written]
    split
    · exact legible_negative_double reads scaled
    · exact legible_double reads scaled
  · refine ⟨.null, ?_, .refused (by simp [finite])⟩
    intro depth
    rw [write_single, written]
    exact rereads_null (s := s) depth

section Lists

variable {α β : Type} {encode : α → Json} {decode? : Json → Option β} {good : α → Prop}
  {like : α → β → Prop}

theorem mapM_recovers {xs : List α} {ws : List Json}
    (each : Forall₂ (fun x w => Recovers (good x) (like x) (decode? w)) xs ws) :
    Recovers (∀ x ∈ xs, good x) (Forall₂ like xs) (ws.mapM decode?) := by
  induction each with
  | nil => exact .decoded (by simp) .nil
  | @cons x w xs ws head tail ih =>
    rw [List.mapM_cons]
    cases found : decode? w with
    | none =>
      rw [found] at head
      cases head with
      | refused fails => exact .refused fun all => fails (all x List.mem_cons_self)
    | some y =>
      rw [found] at head
      cases head with
      | decoded holds alike =>
        cases rest : ws.mapM decode? with
        | none =>
          rw [rest] at ih
          cases ih with
          | refused fails =>
            exact .refused fun all => fails fun x member => all x (List.mem_cons_of_mem _ member)
        | some ys =>
          rw [rest] at ih
          cases ih with
          | decoded later others =>
            exact .decoded (by simpa using ⟨holds, later⟩) (.cons alike others)

theorem restores_list (blank : s.Blank)
    (each : ∀ x, Restores s levels (encode x) decode? (good x) (like x)) (xs : List α) :
    Restores s (levels + 1) (.array (xs.map encode)) (listOf? decode?) (∀ x ∈ xs, good x)
      (Forall₂ like xs) := by
  have chosen : ∃ ws, Forall₂ (Rereads s levels) (xs.map encode) ws ∧
      Forall₂ (fun x w => Recovers (good x) (like x) (decode? w)) xs ws := by
    induction xs with
    | nil => exact ⟨[], .nil, .nil⟩
    | cons x xs ih =>
      obtain ⟨w, read, recovered⟩ := each x
      obtain ⟨ws, reads, all⟩ := ih
      exact ⟨w :: ws, .cons read reads, .cons recovered all⟩
  obtain ⟨ws, reads, all⟩ := chosen
  exact ⟨.array ws, rereads_array blank reads, mapM_recovers all⟩

end Lists

end CodeAtlas.Json
