import CodeAtlas.Pattern

/-!
Groups of a match. Each is a piece of the text, and some of them every match of the pattern has:
alternatives only promise what both sides have, and a repetition, which may take no round at all,
promises nothing.
-/
namespace CodeAtlas.Pattern

def sets (name : String) : Pattern → Bool
  | empty | single _ | star _ _ | wordEdge | textEnd => false
  | seq first second => first.sets name || second.sets name
  | alt first second => first.sets name && second.sets name
  | group own body => own == name || body.sets name

structure Place.Reaches (start reached : Place) (more : Groups) : Prop where
  rest : reached.rest <:+ start.rest
  found : reached.found = more ++ start.found
  pieces : ∀ entry ∈ more, entry.2 <:+: start.rest

namespace Place.Reaches

variable {start between reached : Place} {early late : Groups}

theorem refl (start : Place) : start.Reaches start [] :=
  ⟨List.suffix_refl _, rfl, fun _ none => nomatch none⟩

theorem trans (first : start.Reaches between early) (second : between.Reaches reached late) :
    start.Reaches reached (late ++ early) where
  rest := second.rest.trans first.rest
  found := by rw [second.found, first.found, List.append_assoc]
  pieces := by
    intro entry member
    rcases List.mem_append.mp member with later | before
    · exact (second.pieces entry later).trans first.rest.isInfix
    · exact first.pieces entry before

end Place.Reaches

theorem rounds_reaches {body : (Place → Option Place) → Place → Option Place}
    (each : ∀ next start stop, body next start = some stop →
      ∃ reached more, next reached = some stop ∧ start.Reaches reached more)
    (greedy : Bool) (n : Nat) (next : Place → Option Place) (start stop : Place)
    (matched : rounds body greedy n next start = some stop) :
    ∃ reached more, next reached = some stop ∧ start.Reaches reached more := by
  induction n generalizing start with
  | zero => exact ⟨start, [], matched, .refl start⟩
  | succ n ih =>
    have around : body (rounds body greedy n next) start = some stop →
        ∃ reached more, next reached = some stop ∧ start.Reaches reached more := by
      intro once
      obtain ⟨between, first, goesOn, early⟩ := each _ start stop once
      obtain ⟨reached, more, ends, late⟩ := ih between goesOn
      exact ⟨reached, more ++ first, ends, early.trans late⟩
    unfold rounds at matched
    split at matched
    · split at matched
      · rename_i once
        exact around (once.trans matched)
      · exact ⟨start, [], matched, .refl start⟩
    · split at matched
      · rename_i at_once
        exact ⟨start, [], at_once.trans matched, .refl start⟩
      · exact around matched

/-- A match hands some place over to what comes after it, with the groups it promises. -/
theorem run_reaches (p : Pattern) (next : Place → Option Place) (start stop : Place)
    (matched : p.run next start = some stop) :
    ∃ reached more, next reached = some stop ∧ start.Reaches reached more ∧
      ∀ name, p.sets name = true → ∃ text, (name, text) ∈ more := by
  -- What comes after varies: in a sequence the first pattern hands over to a run of the second.
  induction p generalizing next start stop with
  | empty => exact ⟨start, [], matched, .refl start, fun _ promised => nomatch promised⟩
  | single accepts =>
    unfold run at matched
    split at matched
    · cases matched
    · rename_i c rest here
      split at matched
      · have further : start.Reaches ⟨some c, rest, start.found⟩ [] :=
          ⟨here ▸ List.suffix_cons c rest, rfl, fun _ none => nomatch none⟩
        exact ⟨_, [], matched, further, fun _ promised => nomatch promised⟩
      · cases matched
  | seq first second ihFirst ihSecond =>
    obtain ⟨between, early, goesOn, before, promised⟩ := ihFirst (second.run next) start stop matched
    obtain ⟨reached, late, ends, later, promisedLater⟩ := ihSecond next between stop goesOn
    refine ⟨reached, late ++ early, ends, before.trans later, ?_⟩
    intro name either
    rcases (Bool.or_eq_true _ _).mp either with own | own
    · obtain ⟨text, member⟩ := promised name own
      exact ⟨text, List.mem_append_right _ member⟩
    · obtain ⟨text, member⟩ := promisedLater name own
      exact ⟨text, List.mem_append_left _ member⟩
  | alt first second ihFirst ihSecond =>
    unfold run at matched
    split at matched
    · rename_i early
      obtain ⟨reached, more, ends, further, promised⟩ := ihFirst next start stop (early.trans matched)
      exact ⟨reached, more, ends, further, fun name both =>
        promised name ((Bool.and_eq_true _ _).mp both).1⟩
    · obtain ⟨reached, more, ends, further, promised⟩ := ihSecond next start stop matched
      exact ⟨reached, more, ends, further, fun name both =>
        promised name ((Bool.and_eq_true _ _).mp both).2⟩
  | star greedy body ih =>
    obtain ⟨reached, more, ends, further⟩ := rounds_reaches
      (fun next start stop once =>
        have ⟨reached, more, ends, further, _⟩ := ih next start stop once
        ⟨reached, more, ends, further⟩)
      greedy _ next start stop matched
    exact ⟨reached, more, ends, further, fun _ promised => nomatch promised⟩
  | group own body ih =>
    obtain ⟨inside, more, ends, further, promised⟩ := ih _ start stop matched
    let taken := start.rest.take (start.rest.length - inside.rest.length)
    refine ⟨_, (own, taken) :: more, ends, ⟨further.rest, ?_, ?_⟩, ?_⟩
    · rw [further.found]
      rfl
    · intro entry member
      rcases List.mem_cons.mp member with rfl | within
      · exact (List.take_prefix _ _).isInfix
      · exact further.pieces entry within
    · intro name either
      rcases (Bool.or_eq_true _ _).mp either with same | within
      · exact ⟨_, by rw [← eq_of_beq same]; exact List.mem_cons_self⟩
      · obtain ⟨text, member⟩ := promised name within
        exact ⟨text, List.mem_cons_of_mem _ member⟩
  | wordEdge =>
    unfold run at matched
    split at matched
    · exact ⟨start, [], matched, .refl start, fun _ promised => nomatch promised⟩
    · cases matched
  | textEnd =>
    unfold run at matched
    split at matched
    · exact ⟨start, [], matched, .refl start, fun _ promised => nomatch promised⟩
    · cases matched

structure Matched (p : Pattern) (text : Line) (groups : Groups) : Prop where
  promised : ∀ name, p.sets name = true → groups.has name = true
  pieces : ∀ entry ∈ groups, entry.2 <:+: text

variable {p : Pattern} {text : Line} {groups : Groups}

theorem matched_of_run {before : Option Char} {stop : Place}
    (reached : p.run some ⟨before, text, []⟩ = some stop) : p.Matched text stop.found := by
  obtain ⟨last, more, ends, further, promises⟩ := run_reaches p some _ stop reached
  cases ends
  have found : stop.found = more := further.found.trans (List.append_nil more)
  rw [found]
  refine ⟨fun name own => ?_, further.pieces⟩
  obtain ⟨taken, member⟩ := promises name own
  rw [Groups.has, Groups.get?, Option.isSome_map, List.find?_isSome]
  exact ⟨(name, taken), member, BEq.rfl⟩

theorem matched_of_match (found : p.match? text = some groups) : p.Matched text groups := by
  obtain ⟨stop, reached, rfl⟩ := Option.map_eq_some_iff.mp found
  exact matched_of_run reached

theorem matched_of_searchFrom (before : Option Char)
    (found : p.searchFrom before text = some groups) : p.Matched text groups := by
  induction text generalizing before with
  | nil =>
    obtain ⟨stop, reached, rfl⟩ := Option.map_eq_some_iff.mp found
    exact matched_of_run reached
  | cons c rest ih =>
    unfold searchFrom at found
    split at found
    · rename_i stop reached
      cases found
      exact matched_of_run reached
    · obtain ⟨promised, pieces⟩ := ih (some c) found
      exact ⟨promised, fun entry member =>
        (pieces entry member).trans (List.suffix_cons c rest).isInfix⟩

theorem matched_of_search (found : p.search? text = some groups) : p.Matched text groups :=
  matched_of_searchFrom none found

end CodeAtlas.Pattern
