import CodeAtlas.Outline.Python

/-!
The text a match takes. Whatever alternatives and rounds were tried on the way, a match ends behind a
text of the pattern's language, and goes on from there.
-/
namespace CodeAtlas.Pattern

/-- The texts a pattern can take, apart from what it asks of the text around them. -/
inductive Takes : Pattern → Line → Prop
  | empty : Takes .empty []
  | single {accepts : Char → Bool} {c : Char} (accepted : accepts c = true) :
      Takes (.single accepts) [c]
  | seq {first second : Pattern} {s t : Line} (early : Takes first s) (late : Takes second t) :
      Takes (.seq first second) (s ++ t)
  | first {first second : Pattern} {s : Line} (one : Takes first s) : Takes (.alt first second) s
  | second {first second : Pattern} {s : Line} (other : Takes second s) :
      Takes (.alt first second) s
  | stop {greedy : Bool} {body : Pattern} : Takes (.star greedy body) []
  | round {greedy : Bool} {body : Pattern} {s t : Line} (once : Takes body s)
      (again : Takes (.star greedy body) t) : Takes (.star greedy body) (s ++ t)
  | group {name : String} {body : Pattern} {s : Line} (inside : Takes body s) :
      Takes (.group name body) s
  | wordEdge : Takes .wordEdge []
  | textEnd : Takes .textEnd []

def Between (taken : Line) (start reached : Place) : Prop := start.rest = taken ++ reached.rest

theorem rounds_takes {greedy : Bool} {p : Pattern}
    (each : ∀ next start stop, p.run next start = some stop →
      ∃ taken reached, p.Takes taken ∧ Between taken start reached ∧ next reached = some stop)
    (n : Nat) (next : Place → Option Place) (start stop : Place)
    (matched : rounds p.run greedy n next start = some stop) :
    ∃ taken reached, (star greedy p).Takes taken ∧ Between taken start reached ∧
      next reached = some stop := by
  have at_once (now : next start = some stop) : ∃ taken reached, (star greedy p).Takes taken ∧
      Between taken start reached ∧ next reached = some stop := ⟨[], start, .stop, rfl, now⟩
  induction n generalizing start with
  | zero => exact at_once matched
  | succ n ih =>
    have around (once : p.run (rounds p.run greedy n next) start = some stop) :
        ∃ taken reached, (star greedy p).Takes taken ∧ Between taken start reached ∧
          next reached = some stop := by
      obtain ⟨s, between, took, apart, goesOn⟩ := each _ start stop once
      obtain ⟨t, reached, others, apart', ends⟩ := ih between goesOn fun now =>
        ⟨[], between, .stop, rfl, now⟩
      refine ⟨s ++ t, reached, .round took others, ?_, ends⟩
      rw [Between, apart, apart', List.append_assoc]
    unfold rounds at matched
    split at matched
    · split at matched
      · rename_i once
        exact around (once.trans matched)
      · exact at_once matched
    · split at matched
      · rename_i now
        exact at_once (now.trans matched)
      · exact around matched

theorem run_takes (p : Pattern) (next : Place → Option Place) (start stop : Place)
    (matched : p.run next start = some stop) :
    ∃ taken reached, p.Takes taken ∧ Between taken start reached ∧ next reached = some stop := by
  induction p generalizing next start stop with
  | empty => exact ⟨[], start, .empty, rfl, matched⟩
  | single accepts =>
    unfold run at matched
    split at matched
    · cases matched
    · rename_i c rest begins
      split at matched
      · rename_i accepted
        exact ⟨[c], ⟨some c, rest, start.found⟩, .single accepted, begins, matched⟩
      · cases matched
  | seq first second ihFirst ihSecond =>
    obtain ⟨s, between, early, apart, goesOn⟩ := ihFirst (second.run next) start stop matched
    obtain ⟨t, reached, late, apart', ends⟩ := ihSecond next between stop goesOn
    refine ⟨s ++ t, reached, .seq early late, ?_, ends⟩
    rw [Between, apart, apart', List.append_assoc]
  | alt first second ihFirst ihSecond =>
    unfold run at matched
    split at matched
    · rename_i early
      obtain ⟨s, reached, one, apart, ends⟩ := ihFirst next start stop (early.trans matched)
      exact ⟨s, reached, .first one, apart, ends⟩
    · obtain ⟨s, reached, other, apart, ends⟩ := ihSecond next start stop matched
      exact ⟨s, reached, .second other, apart, ends⟩
  | star greedy body ih => exact rounds_takes ih _ next start stop matched
  | group name body ih =>
    obtain ⟨s, inside, took, apart, ends⟩ := ih _ start stop matched
    exact ⟨s, { inside with found := (name, _) :: inside.found }, .group took, apart, ends⟩
  | wordEdge =>
    unfold run at matched
    split at matched
    · exact ⟨[], start, .wordEdge, rfl, matched⟩
    · cases matched
  | textEnd =>
    unfold run at matched
    split at matched
    · exact ⟨[], start, .textEnd, rfl, matched⟩
    · cases matched

/-- A text with a match at its beginning begins with a text that the pattern takes. -/
theorem takes_of_match {p : Pattern} {text : Line} {groups : Groups}
    (matched : p.match? text = some groups) : ∃ taken rest, p.Takes taken ∧ text = taken ++ rest := by
  obtain ⟨stop, reached, -⟩ := Option.map_eq_some_iff.mp matched
  obtain ⟨taken, place, takes, apart, -⟩ := run_takes p some (.atStart text) stop reached
  exact ⟨taken, place.rest, takes, apart⟩

/-! Texts of common patterns -/

theorem takes_seq {first second : Pattern} {s : Line} (taken : (seq first second).Takes s) :
    ∃ t u, first.Takes t ∧ second.Takes u ∧ s = t ++ u := by
  cases taken with
  | seq early late => exact ⟨_, _, early, late, rfl⟩

theorem takes_optional {p : Pattern} {s : Line} (taken : p.optional.Takes s) :
    s = [] ∨ p.Takes s := by
  cases taken with
  | first one => exact .inr one
  | second other =>
    cases other
    exact .inl rfl

theorem takes_word {text : String} {s : Line} (taken : (word text).Takes s) : s = text.toList := by
  unfold word at taken
  generalize text.toList = chars at taken
  induction chars generalizing s with
  | nil =>
    cases taken
    rfl
  | cons c chars ih =>
    cases chars with
    | nil =>
      cases taken with
      | single same => rw [eq_of_beq same]
    | cons next chars =>
      obtain ⟨t, u, first, others, rfl⟩ := takes_seq taken
      cases first with
      | single same => rw [eq_of_beq same, ih others, List.singleton_append]

theorem takes_many_single {accepts : Char → Bool} {p : Pattern} {s : Line} (taken : p.Takes s)
    (many_single : p = many (single accepts)) : ∀ c ∈ s, accepts c = true := by
  induction taken with
  | round once again _ ih =>
    cases many_single
    cases once with
    | single accepted =>
      intro c member
      rcases List.mem_cons.mp member with rfl | member
      · exact accepted
      · exact ih rfl c member
  | stop => exact fun _ member => nomatch member
  | _ => cases many_single

theorem takes_blanks {s : Line} (taken : blanks.Takes s) : ∀ c ∈ s, Text.isBlank c = true :=
  takes_many_single taken rfl

end CodeAtlas.Pattern

namespace CodeAtlas.Outline.Python

open Pattern

theorem functionHeader_takes {s : Line} (taken : functionHeader.Takes s) :
    ∃ b c rest, s = b ++ c :: rest ∧ (∀ d ∈ b, Text.isBlank d = true) ∧ c ∈ ['a', 'd'] := by
  obtain ⟨b, t, blank, header, rfl⟩ := takes_seq taken
  obtain ⟨o, u, async, named, rfl⟩ := takes_seq header
  obtain ⟨d, _, keyword, -, rfl⟩ := takes_seq named
  rw [takes_word keyword]
  rcases takes_optional async with rfl | grouped
  · exact ⟨b, 'd', _, rfl, takes_blanks blank, by decide⟩
  · cases grouped with
    | group inside =>
      obtain ⟨a, _, early, -, rfl⟩ := takes_seq inside
      rw [takes_word early]
      exact ⟨b, 'a', _, rfl, takes_blanks blank, by decide⟩

theorem classHeader_takes {s : Line} (taken : classHeader.Takes s) :
    ∃ b rest, s = b ++ 'c' :: rest ∧ ∀ d ∈ b, Text.isBlank d = true := by
  obtain ⟨b, t, blank, header, rfl⟩ := takes_seq taken
  obtain ⟨c, _, keyword, -, rfl⟩ := takes_seq header
  rw [takes_word keyword]
  exact ⟨b, _, rfl, takes_blanks blank⟩

end CodeAtlas.Outline.Python
