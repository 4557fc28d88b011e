import CodeAtlas.Text.Octets
import Mathlib.Data.String.Basic

/-!
Text cut between characters. Where a number of octets ends with a character, taking and dropping that
many octets cuts the text in two and loses nothing.
-/
namespace CodeAtlas.Text

/-- Some characters from the beginning of the text on take this many octets. -/
def IsBoundary (n : Nat) (s : Line) : Prop := ∃ front back, s = front ++ back ∧ octets front = n

theorem octets_append (s t : Line) : octets (s ++ t) = octets s + octets t := by
  induction s with
  | nil => exact (Nat.zero_add _).symm
  | cons c rest ih => simp only [List.cons_append, octets, ih, Nat.add_assoc]

theorem octets_pos (c : Char) (s : Line) : 0 < octets (c :: s) :=
  Nat.add_pos_left c.utf8Size_pos _

theorem takeOctets_append (front back : Line) :
    takeOctets (octets front) (front ++ back) = front := by
  induction front with
  | nil =>
    cases back with
    | nil => rfl
    | cons c rest => exact if_neg (Nat.not_le.mpr c.utf8Size_pos)
  | cons c front ih =>
    rw [List.cons_append, takeOctets, octets, if_pos (Nat.le_add_right _ _),
      Nat.add_sub_cancel_left, ih]

theorem dropOctets_append (front back : Line) :
    dropOctets (octets front) (front ++ back) = back := by
  induction front with
  | nil => cases back <;> rfl
  | cons c front ih =>
    rw [List.cons_append, dropOctets, if_neg (Nat.ne_of_gt (octets_pos c front)),
      octets, Nat.add_sub_cancel_left, ih]

theorem slice_append (front middle back : Line) :
    slice (octets front) (octets (front ++ middle)) (front ++ middle ++ back) = middle := by
  rw [slice, octets_append, Nat.add_sub_cancel_left, List.append_assoc, dropOctets_append,
    takeOctets_append]

theorem rowAt_append (front back : Line) :
    rowAt (octets front) (front ++ back) = front.count '\n' := by
  rw [rowAt, takeOctets_append]

theorem takeOctets_prefix (n : Nat) (s : Line) : takeOctets n s <+: s := by
  induction s generalizing n with
  | nil => exact List.prefix_rfl
  | cons c rest ih =>
    rw [takeOctets]
    split
    · exact List.cons_prefix_cons.mpr ⟨rfl, ih _⟩
    · exact List.nil_prefix

theorem isBoundary_iff {n : Nat} {s : Line} : IsBoundary n s ↔ octets (takeOctets n s) = n := by
  constructor
  · rintro ⟨front, back, rfl, rfl⟩
    rw [takeOctets_append]
  · intro exactly
    obtain ⟨back, whole⟩ := takeOctets_prefix n s
    exact ⟨_, back, whole.symm, exactly⟩

instance (n : Nat) (s : Line) : Decidable (IsBoundary n s) :=
  decidable_of_iff _ isBoundary_iff.symm

theorem IsBoundary.between {first last : Nat} {s : Line} (start : IsBoundary first s)
    (stop : IsBoundary last s) (ordered : first ≤ last) :
    ∃ front middle back, s = front ++ middle ++ back ∧ octets front = first ∧
      octets (front ++ middle) = last := by
  obtain ⟨front, behind, rfl, rfl⟩ := start
  obtain ⟨whole, back, same, rfl⟩ := stop
  rcases List.append_eq_append_iff.mp same with ⟨middle, rfl, rfl⟩ | ⟨more, rfl, rfl⟩
  · exact ⟨front, middle, back, (List.append_assoc ..).symm, rfl, rfl⟩
  · cases more with
    | nil => exact ⟨whole, [], behind, by simp, by simp, by simp⟩
    | cons c rest =>
      rw [octets_append] at ordered
      have := octets_pos c rest
      omega

theorem utf8ByteSize_ofList (s : Line) : (String.ofList s).utf8ByteSize = octets s := by
  rw [String.utf8ByteSize_ofList]
  induction s with
  | nil => rfl
  | cons c rest ih => rw [String.utf8Len_cons, ih, octets, Nat.add_comm]

end CodeAtlas.Text
