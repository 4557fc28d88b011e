import CodeAtlas.Outline.Go
import CodeAtlas.Proofs.Outline.Counting
import Mathlib.Data.List.Infix
import Mathlib.Data.List.TakeDrop
import Mathlib.Tactic.SplitIfs
import Mathlib.Tactic.Tauto

/-!
Lists of parts that are cut at commas outside all brackets. The text is cut exactly where the depth
is zero, so parts that are put together with commas are found again exactly if none of them but the
last leaves the depth changed, and none comes back to depth zero before a comma of its own. Since
angle brackets count as well, the nesting of the other three kinds does not decide that.
-/
namespace CodeAtlas

namespace Text

theorem join_cons_cons (separator piece next : Line) (rest : List Line) :
    join separator (piece :: next :: rest) = piece ++ separator ++ join separator (next :: rest) :=
  rfl

theorem count_dropWhile {p : Char → Bool} {c : Char} (kept : p c = false) (s : Line) :
    (s.dropWhile p).count c = s.count c := by
  induction s with
  | nil => rfl
  | cons d rest ih =>
    rw [List.dropWhile_cons]
    split
    · rename_i dropped
      have other : d ≠ c := by
        rintro rfl
        simp [kept] at dropped
      rw [ih, List.count_cons_of_ne other]
    · rfl

theorem count_trim {c : Char} (kept : isBlank c = false) (s : Line) :
    (trim s).count c = s.count c := by
  rw [trim, trimEnd, dropEndWhile, List.count_reverse, count_dropWhile kept, List.count_reverse,
    trimStart, count_dropWhile kept]

theorem trim_blank_cons {c : Char} (blank : isBlank c = true) (s : Line) :
    trim (c :: s) = trim s := by
  rw [trim, trim, trimStart, trimStart, List.dropWhile_cons_of_pos blank]

end Text

namespace Outline

variable {depth : Int32} {piece part : Line} {pieces parts : List Line}

def bracketDepth (s : Line) : Int32 := (s.map bracketShift).sum

def Uncut (depth : Int32) (piece : Line) : Prop :=
  ∀ before after, piece = before ++ ',' :: after → depth + bracketDepth before ≠ 0

def CutAtTop (depth : Int32) : List Line → Prop
  | [] => False
  | [piece] => Uncut depth piece
  | piece :: next :: rest =>
    Uncut depth piece ∧ depth + bracketDepth piece = 0 ∧ CutAtTop 0 (next :: rest)

theorem bracketDepth_cons (c : Char) (s : Line) :
    bracketDepth (c :: s) = bracketShift c + bracketDepth s := by
  rw [bracketDepth, List.map_cons, List.sum_cons, bracketDepth]

theorem bracketDepth_eq_zero_iff (s : Line) :
    bracketDepth s = 0 ↔ (2 : Int) ^ 32 ∣ total bracketShift s := by
  rw [bracketDepth, ofInt_total, ofInt_eq_zero_iff]

/-! Cutting -/

theorem uncut_nil : Uncut depth [] := by
  intro before after whole
  cases before <;> cases whole

theorem uncut_cons {c : Char} {rest : Line} :
    Uncut depth (c :: rest) ↔ ¬ (c = ',' ∧ depth = 0) ∧ Uncut (depth + bracketShift c) rest := by
  constructor
  · intro uncut
    refine ⟨?_, ?_⟩
    · rintro ⟨rfl, rfl⟩
      exact uncut [] rest rfl rfl
    · intro before after whole
      have outside := uncut (c :: before) after (by rw [whole, List.cons_append])
      rwa [bracketDepth_cons, ← Int32.add_assoc] at outside
  · rintro ⟨inside, uncut⟩ before after whole
    cases before with
    | nil =>
      obtain ⟨comma, -⟩ := List.cons.inj whole
      intro zero
      exact inside ⟨comma, by simpa [bracketDepth] using zero⟩
    | cons first before =>
      obtain ⟨rfl, rest⟩ := List.cons.inj whole
      rw [bracketDepth_cons, ← Int32.add_assoc]
      exact uncut before after rest

theorem topLevelPieces_of_uncut (uncut : Uncut depth piece) :
    topLevelPieces depth piece = [piece] := by
  induction piece generalizing depth with
  | nil => rfl
  | cons c rest ih =>
    obtain ⟨inside, uncut⟩ := uncut_cons.mp uncut
    rw [topLevelPieces, if_neg inside, ih uncut]

theorem topLevelPieces_append (uncut : Uncut depth piece) (closed : depth + bracketDepth piece = 0)
    (rest : Line) :
    topLevelPieces depth (piece ++ ',' :: rest) = piece :: topLevelPieces 0 rest := by
  induction piece generalizing depth with
  | nil =>
    obtain rfl : depth = 0 := by simpa [bracketDepth] using closed
    rw [List.nil_append, topLevelPieces, if_pos ⟨rfl, rfl⟩]
  | cons c piece ih =>
    obtain ⟨inside, uncut⟩ := uncut_cons.mp uncut
    rw [bracketDepth_cons, ← Int32.add_assoc] at closed
    rw [List.cons_append, topLevelPieces, if_neg inside, ih uncut closed]

theorem topLevelPieces_join (cut : CutAtTop depth pieces) :
    topLevelPieces depth (Text.join [','] pieces) = pieces := by
  induction pieces generalizing depth with
  | nil => exact cut.elim
  | cons piece rest ih =>
    cases rest with
    | nil => exact topLevelPieces_of_uncut cut
    | cons next rest =>
      obtain ⟨uncut, closed, others⟩ := cut
      rw [Text.join_cons_cons, List.append_assoc, List.singleton_append,
        topLevelPieces_append uncut closed, ih others]

/-- Every text is cut like that. -/
theorem topLevelPieces_spec (depth : Int32) (s : Line) :
    CutAtTop depth (topLevelPieces depth s) ∧ Text.join [','] (topLevelPieces depth s) = s := by
  induction s generalizing depth with
  | nil => exact ⟨uncut_nil, rfl⟩
  | cons c rest ih =>
    rw [topLevelPieces]
    split
    · rename_i comma
      obtain ⟨rfl, rfl⟩ := comma
      obtain ⟨cut, whole⟩ := ih 0
      cases pieces : topLevelPieces 0 rest with
      | nil => simp [pieces, CutAtTop] at cut
      | cons next others =>
        rw [pieces] at cut whole
        exact ⟨⟨uncut_nil, rfl, cut⟩, by rw [Text.join_cons_cons, whole]; rfl⟩
    · rename_i inside
      obtain ⟨cut, whole⟩ := ih (depth + bracketShift c)
      cases pieces : topLevelPieces (depth + bracketShift c) rest with
      | nil => simp [pieces, CutAtTop] at cut
      | cons piece others =>
        rw [pieces] at cut whole
        cases others with
        | nil => exact ⟨uncut_cons.mpr ⟨inside, cut⟩, congrArg (c :: ·) whole⟩
        | cons next others =>
          obtain ⟨uncut, closed, cut⟩ := cut
          refine ⟨⟨uncut_cons.mpr ⟨inside, uncut⟩, ?_, cut⟩, congrArg (c :: ·) whole⟩
          rwa [bracketDepth_cons, ← Int32.add_assoc]

/-! Parts and pieces -/

/-- The pieces between the commas that join parts: all but the first begin with a blank. -/
def spaced : List Line → List Line
  | [] => []
  | part :: rest => part :: rest.map (' ' :: ·)

theorem join_spaced (parts : List Line) :
    Text.join [','] (spaced parts) = Text.join [',', ' '] parts := by
  cases parts with
  | nil => rfl
  | cons part rest =>
    induction rest generalizing part with
    | nil => rfl
    | cons next rest ih =>
      have others := ih next
      rw [spaced, List.map_cons, Text.join_cons_cons, Text.join_cons_cons, ← others]
      cases rest <;> simp [spaced, Text.join]

theorem trim_spaced (trimmed : ∀ part ∈ parts, Text.trim part = part) :
    (spaced parts).map Text.trim = parts := by
  cases parts with
  | nil => rfl
  | cons part rest =>
    have others : (rest.map (' ' :: ·)).map Text.trim = rest := by
      rw [List.map_map]
      refine (List.map_congr_left fun other member => ?_).trans (List.map_id rest)
      rw [Function.comp, Text.trim_blank_cons (by decide)]
      exact trimmed other (List.mem_cons_of_mem part member)
    rw [spaced, List.map_cons, others, trimmed part List.mem_cons_self]

theorem comma_append_inj {front front' back back' : Line}
    (same : front ++ ',' :: back = front' ++ ',' :: back')
    (count : front.count ',' = front'.count ',') : front = front' ∧ back = back' := by
  induction front generalizing front' with
  | nil =>
    cases front' with
    | nil => exact ⟨rfl, (List.cons.inj same).2⟩
    | cons c front' =>
      obtain ⟨rfl, -⟩ := List.cons.inj same
      simp at count
  | cons c front ih =>
    cases front' with
    | nil =>
      obtain ⟨rfl, -⟩ := List.cons.inj same
      simp at count
    | cons d front' =>
      obtain ⟨rfl, rest⟩ := List.cons.inj same
      have fewer : front.count ',' = front'.count ',' := by
        simpa [List.count_cons] using count
      obtain ⟨rfl, rfl⟩ := ih rest fewer
      exact ⟨rfl, rfl⟩

/-- Pieces with the same numbers of commas that make the same text are the same. -/
theorem pieces_eq {others : List Line} (same : Text.join [','] pieces = Text.join [','] others)
    (counts : pieces.map (·.count ',') = others.map (·.count ',')) : pieces = others := by
  induction pieces generalizing others with
  | nil => exact (List.map_eq_nil_iff.mp counts.symm).symm
  | cons piece rest ih =>
    cases others with
    | nil => cases counts
    | cons other others =>
      obtain ⟨first, later⟩ := List.cons.inj counts
      cases rest with
      | nil =>
        obtain rfl := List.map_eq_nil_iff.mp later.symm
        exact congrArg (fun s => [s]) same
      | cons next rest =>
        cases others with
        | nil => cases later
        | cons next' others =>
          rw [Text.join_cons_cons, Text.join_cons_cons, List.append_assoc, List.append_assoc,
            List.singleton_append, List.singleton_append] at same
          obtain ⟨rfl, behind⟩ := comma_append_inj same first
          rw [ih behind later]

theorem count_join (some_piece : pieces ≠ []) :
    (Text.join [','] pieces).count ',' + 1 = (pieces.map (·.count ',')).sum + pieces.length := by
  induction pieces with
  | nil => exact absurd rfl some_piece
  | cons piece rest ih =>
    cases rest with
    | nil => simp [Text.join]
    | cons next rest =>
      have others := ih (List.cons_ne_nil next rest)
      rw [Text.join_cons_cons, List.count_append, List.count_append, List.count_singleton_self,
        List.map_cons, List.sum_cons, List.length_cons]
      omega

theorem count_spaced (parts : List Line) :
    (spaced parts).map (·.count ',') = parts.map (·.count ',') := by
  cases parts with
  | nil => rfl
  | cons part rest => simp [spaced]

theorem sum_count_filter (pieces : List Line) :
    ((pieces.filter fun piece => !piece.isEmpty).map (·.count ',')).sum =
      (pieces.map (·.count ',')).sum := by
  induction pieces with
  | nil => rfl
  | cons piece rest ih => cases piece <;> simpa using ih

/-- Parts are found again exactly if the text is to be cut where they were joined. -/
theorem splitTopLevel_join_iff (some_part : parts ≠ []) (texts : ∀ part ∈ parts, part ≠ [])
    (trimmed : ∀ part ∈ parts, Text.trim part = part) :
    splitTopLevel (Text.join [',', ' '] parts) = parts ↔ CutAtTop 0 (spaced parts) := by
  rw [← join_spaced]
  constructor
  · intro found
    obtain ⟨cut, whole⟩ := topLevelPieces_spec 0 (Text.join [','] (spaced parts))
    unfold splitTopLevel at found
    generalize topLevelPieces 0 (Text.join [','] (spaced parts)) = pieces at found cut whole
    -- There are as many commas as in the joined parts, so no piece was left out.
    have some_piece : pieces ≠ [] := by
      rintro rfl
      exact cut
    have some_spaced : spaced parts ≠ [] := by
      cases parts <;> simp_all [spaced]
    have trims : (pieces.map Text.trim).map (·.count ',') = pieces.map (·.count ',') := by
      rw [List.map_map]
      exact List.map_congr_left fun piece _ => Text.count_trim (by decide) piece
    have commas : (pieces.map (·.count ',')).sum = (parts.map (·.count ',')).sum := by
      rw [← trims, ← sum_count_filter, found]
    have lengths : pieces.length = parts.length := by
      have counted := count_join some_piece
      have joined := count_join some_spaced
      have spaced_length : (spaced parts).length = parts.length := by cases parts <;> simp [spaced]
      rw [whole] at counted
      rw [count_spaced, spaced_length] at joined
      omega
    have kept : pieces.map Text.trim = parts := by
      rw [← found, eq_comm, List.filter_eq_self, ← List.length_filter_eq_length_iff, found,
        List.length_map, lengths]
    have counts : pieces.map (·.count ',') = (spaced parts).map (·.count ',') := by
      rw [count_spaced, ← kept, trims]
    rwa [← pieces_eq whole counts]
  · intro cut
    rw [splitTopLevel, topLevelPieces_join cut, trim_spaced trimmed, List.filter_eq_self]
    intro part member
    simpa using texts part member

/-! Nested brackets -/

def closer? (c : Char) : Option Char :=
  if c = '(' then some ')' else if c = '[' then some ']'
  else if c = Char.ofNat 0x7B then some (Char.ofNat 0x7D) else none

def isCloser (c : Char) : Bool := c == ')' || c == ']' || c == Char.ofNat 0x7D

/-- How a character changes what closes the open brackets, the innermost first. A bracket that is not
the innermost cannot be closed. -/
def nest? (opened : List Char) (c : Char) : Option (List Char) :=
  match closer? c with
  | some close => some (close :: opened)
  | none =>
    if isCloser c then
      match opened with
      | [] => none
      | close :: others => if close = c then some others else none
    else some opened

def openBehind? (s : Line) : Option (List Char) := s.foldlM nest? []

/-- One of the parts of a list: round, square and curly brackets are nested in it, and every comma is
inside some of them. -/
structure IsPart (part : Line) : Prop where
  some_text : part ≠ []
  trimmed : Text.trim part = part
  nested : openBehind? part = some []
  commas : ∀ before after, part = before ++ ',' :: after → openBehind? before ≠ some []

instance (part : Line) : Decidable (IsPart part) :=
  decidable_of_iff ((part ≠ [] ∧ Text.trim part = part ∧ openBehind? part = some []) ∧
      ∀ n < part.length, part[n]? = some ',' → openBehind? (part.take n) ≠ some []) (by
    constructor
    · rintro ⟨⟨some_text, trimmed, nested⟩, commas⟩
      refine ⟨some_text, trimmed, nested, fun before after whole => ?_⟩
      have inside := commas before.length (by simp [whole]) (by simp [whole])
      rwa [whole, List.take_left] at inside
    · rintro ⟨some_text, trimmed, nested, commas⟩
      refine ⟨⟨some_text, trimmed, nested⟩, fun n inside comma => ?_⟩
      apply commas _ (part.drop (n + 1))
      have next := List.getElem_of_getElem? comma
      rw [← next.choose_spec, List.cons_getElem_drop_succ, List.take_append_drop])

theorem bracketShift_of_closer {c close : Char} (opens : closer? c = some close) :
    bracketShift c = 1 ∧ c ≠ '<' ∧ c ≠ '>' := by
  unfold closer? at opens
  split at opens
  · rename_i same
    subst same
    decide
  · split at opens
    · rename_i same
      subst same
      decide
    · split at opens
      · rename_i same
        subst same
        decide
      · cases opens

theorem bracketShift_of_isCloser {c : Char} (closes : isCloser c = true) :
    bracketShift c = -1 ∧ c ≠ '<' ∧ c ≠ '>' := by
  have which : (c = ')' ∨ c = ']') ∨ c = Char.ofNat 0x7D := by simpa [isCloser] using closes
  rcases which with (rfl | rfl) | rfl <;> decide

theorem bracketShift_of_other {c : Char} (opens : closer? c = none) (closes : isCloser c = false) :
    (bracketShift c).toInt = (if c = '<' then 1 else 0) - (if c = '>' then 1 else 0) := by
  have no_open : c ≠ '(' ∧ c ≠ '[' ∧ c ≠ Char.ofNat 0x7B := by
    refine ⟨?_, ?_, ?_⟩ <;> (rintro rfl; simp [closer?] at opens)
  have no_close : (c ≠ ')' ∧ c ≠ ']') ∧ c ≠ Char.ofNat 0x7D := by
    simpa [isCloser] using closes
  by_cases less : c = '<'
  · subst less
    decide
  · by_cases greater : c = '>'
    · subst greater
      decide
    · simp [bracketShift, no_open, no_close, less, greater]

theorem bracketShift_of_nest {opened next : List Char} {c : Char}
    (nested : nest? opened c = some next) :
    opened.length + (bracketShift c).toInt =
      next.length + (if c = '<' then 1 else 0) - (if c = '>' then 1 else 0) := by
  unfold nest? at nested
  cases opens : closer? c with
  | some close =>
    obtain ⟨shift, less, greater⟩ := bracketShift_of_closer opens
    rw [opens] at nested
    cases nested
    rw [shift, Int32.toInt_one, if_neg less, if_neg greater, List.length_cons]
    omega
  | none =>
    rw [opens] at nested
    dsimp only at nested
    cases closes : isCloser c with
    | true =>
      obtain ⟨shift, less, greater⟩ := bracketShift_of_isCloser closes
      rw [if_pos closes] at nested
      cases opened with
      | nil => cases nested
      | cons close others =>
        dsimp only at nested
        split at nested <;> cases nested
        have down : (-1 : Int32).toInt = -1 := rfl
        rw [shift, down, if_neg less, if_neg greater, List.length_cons]
        omega
    | false =>
      rw [if_neg (by simp [closes])] at nested
      cases nested
      rw [bracketShift_of_other opens closes]
      omega

/-- The depth counts the brackets that are open, and angle brackets however they stand. -/
theorem total_of_foldlM {opened left : List Char} {s : Line}
    (nested : s.foldlM nest? opened = some left) :
    opened.length + total bracketShift s = left.length + s.count '<' - s.count '>' := by
  induction s generalizing opened with
  | nil =>
    cases nested
    simp [total]
  | cons c rest ih =>
    obtain ⟨next, step, others⟩ := Option.bind_eq_some_iff.mp nested
    have here := bracketShift_of_nest step
    have later := ih others
    rw [total_cons, List.count_cons, List.count_cons]
    simp only [beq_iff_eq]
    split_ifs at here ⊢ <;> omega

theorem total_of_openBehind {left : List Char} {s : Line} (nested : openBehind? s = some left) :
    total bracketShift s = left.length + s.count '<' - s.count '>' := by
  simpa using total_of_foldlM nested

namespace IsPart

variable {before after : Line}

theorem total_eq (is_part : IsPart part) :
    total bracketShift part = part.count '<' - part.count '>' := by
  simpa using total_of_openBehind is_part.nested

theorem open_before_comma (is_part : IsPart part) (whole : part = before ++ ',' :: after) :
    ∃ opened, openBehind? before = some opened ∧ opened ≠ [] := by
  have nested := is_part.nested
  rw [whole, openBehind?, List.foldlM_append] at nested
  obtain ⟨opened, here, -⟩ := Option.bind_eq_some_iff.mp nested
  refine ⟨opened, here, ?_⟩
  rintro rfl
  exact is_part.commas before after whole here

end IsPart

theorem uncut_spaced (part : Line) : Uncut 0 (' ' :: part) ↔ Uncut 0 part := by
  rw [uncut_cons]
  exact and_iff_right (by decide)

/-- The places to cut, in terms of the parts alone. -/
theorem cutAtTop_spaced (some_part : parts ≠ []) :
    CutAtTop 0 (spaced parts) ↔
      (∀ part ∈ parts.dropLast, bracketDepth part = 0) ∧ ∀ part ∈ parts, Uncut 0 part := by
  have blank (part : Line) : bracketDepth (' ' :: part) = bracketDepth part := by
    rw [bracketDepth_cons]
    exact Int32.zero_add _
  have later (part : Line) (rest : List Line) :
      CutAtTop 0 ((part :: rest).map (' ' :: ·)) ↔ CutAtTop 0 (spaced (part :: rest)) := by
    cases rest with
    | nil => exact uncut_spaced part
    | cons next rest => simp only [spaced, List.map_cons, CutAtTop, uncut_spaced, blank]
  induction parts with
  | nil => exact absurd rfl some_part
  | cons part rest ih =>
    cases rest with
    | nil => simp [spaced, CutAtTop]
    | cons next rest =>
      have others := (later next rest).trans (ih (List.cons_ne_nil next rest))
      have unfolded : CutAtTop 0 (spaced (part :: next :: rest)) ↔
          Uncut 0 part ∧ 0 + bracketDepth part = 0 ∧ CutAtTop 0 ((next :: rest).map (' ' :: ·)) :=
        Iff.rfl
      rw [unfolded, Int32.zero_add, List.dropLast_cons_cons, List.forall_mem_cons,
        List.forall_mem_cons]
      tauto

theorem splitTopLevel_join_iff_total (some_part : parts ≠ [])
    (each : ∀ part ∈ parts, IsPart part) :
    splitTopLevel (Text.join [',', ' '] parts) = parts ↔
      (∀ part ∈ parts.dropLast, (2 : Int) ^ 32 ∣ part.count '<' - part.count '>') ∧
      ∀ part ∈ parts, ∀ before after opened, part = before ++ ',' :: after →
        openBehind? before = some opened →
        ¬ (2 : Int) ^ 32 ∣ opened.length + before.count '<' - before.count '>' := by
  rw [splitTopLevel_join_iff some_part (fun part member => (each part member).some_text)
    fun part member => (each part member).trimmed, cutAtTop_spaced some_part]
  apply and_congr
  · refine forall₂_congr fun part member => ?_
    rw [bracketDepth_eq_zero_iff, (each part (List.dropLast_subset _ member)).total_eq]
  · refine forall₂_congr fun part member => ?_
    constructor
    · intro uncut before after opened whole here
      rw [← total_of_openBehind here, ← bracketDepth_eq_zero_iff, ← Int32.zero_add (bracketDepth _)]
      exact uncut before after whole
    · intro apart before after whole
      obtain ⟨opened, here, -⟩ := (each part member).open_before_comma whole
      rw [Int32.zero_add, ne_eq, bracketDepth_eq_zero_iff, total_of_openBehind here]
      exact apart before after opened whole here

theorem piece_of_join (separator : Line) (member : part ∈ parts) :
    part <:+: Text.join separator parts := by
  induction parts with
  | nil => cases member
  | cons first rest ih =>
    cases rest with
    | nil =>
      obtain rfl := List.mem_singleton.mp member
      exact List.infix_refl part
    | cons next rest =>
      rw [Text.join_cons_cons]
      rcases List.mem_cons.mp member with rfl | later
      · exact ((List.prefix_append _ _).trans (List.prefix_append _ _)).isInfix
      · exact (ih later).trans (List.suffix_append _ _).isInfix

/-- Parts that are joined with commas are found again exactly if the counter comes back to zero at
the end of every part but the last, and at no comma inside a part. In a list with few brackets that
is so if every part but the last has as many opening as closing angle brackets, and no comma inside a
part has just so many more closing than opening ones before it as there are other brackets open, so in
particular where no angle bracket closes that has not been opened. -/
theorem parts_found_iff_angles_even (parts : List Line) (some_part : parts ≠ [])
    (each : ∀ part ∈ parts, IsPart part) :
    let list := Text.join [',', ' '] parts
    (splitTopLevel list = parts ↔
      (∀ part ∈ parts.dropLast, (2 : Int) ^ 32 ∣ part.count '<' - part.count '>') ∧
      ∀ part ∈ parts, ∀ before after opened, part = before ++ ',' :: after →
        openBehind? before = some opened →
        ¬ (2 : Int) ^ 32 ∣ opened.length + before.count '<' - before.count '>') ∧
    (FewBrackets list →
      (splitTopLevel list = parts ↔
        (∀ part ∈ parts.dropLast, part.count '<' = part.count '>') ∧
        ∀ part ∈ parts, ∀ before after opened, part = before ++ ',' :: after →
          openBehind? before = some opened →
          opened.length + before.count '<' ≠ before.count '>') ∧
      ((∀ part ∈ parts, part.count '<' = part.count '>' ∧
          ∀ before, before <+: part → before.count '>' ≤ before.count '<') →
        splitTopLevel list = parts)) := by
  intro list
  have counted := splitTopLevel_join_iff_total some_part each
  refine ⟨counted, fun few => ?_⟩
  have exactly : splitTopLevel list = parts ↔
      (∀ part ∈ parts.dropLast, part.count '<' = part.count '>') ∧
      ∀ part ∈ parts, ∀ before after opened, part = before ++ ',' :: after →
        openBehind? before = some opened →
        opened.length + before.count '<' ≠ before.count '>' := by
    rw [counted]
    apply and_congr
    · refine forall₂_congr fun part member => ?_
      have among := List.dropLast_subset _ member
      rw [← (each part among).total_eq,
        counts_bracketShift.dvd_total_iff few (piece_of_join _ among), (each part among).total_eq]
      omega
    · refine forall₂_congr fun part member => ?_
      refine forall₃_congr fun before after opened => forall₂_congr fun whole here => ?_
      have piece : before <:+: list :=
        (whole ▸ (List.prefix_append _ _).isInfix).trans (piece_of_join _ member)
      rw [← total_of_openBehind here, counts_bracketShift.dvd_total_iff few piece,
        total_of_openBehind here]
      omega
  refine ⟨exactly, fun even => exactly.mpr ⟨?_, ?_⟩⟩
  · exact fun part member => (even part (List.dropLast_subset _ member)).1
  · intro part member before after opened whole here
    obtain ⟨left, same, some_open⟩ := (each part member).open_before_comma whole
    obtain rfl := Option.some.inj (here.symm.trans same)
    have fewer := (even part member).2 before ⟨',' :: after, whole.symm⟩
    have positive := List.length_pos_iff.mpr some_open
    omega

theorem generic_parts_found :
    let parts := ["s Set<Integer>".toList, "f func(int, Set<int>) error".toList]
    parts ≠ [] ∧ (∀ part ∈ parts, IsPart part) ∧ FewBrackets (Text.join [',', ' '] parts) ∧
      (∀ part ∈ parts, part.count '<' = part.count '>' ∧
        ∀ before, before <+: part → before.count '>' ≤ before.count '<') ∧
      splitTopLevel (Text.join [',', ' '] parts) = parts := by
  intro parts
  have some_part : parts ≠ [] := by decide
  have each : ∀ part ∈ parts, IsPart part := by decide
  have even : ∀ part ∈ parts, part.count '<' = part.count '>' ∧
      ∀ before, before <+: part → before.count '>' ≤ before.count '<' := by
    have initial : ∀ part ∈ parts, part.count '<' = part.count '>' ∧
        ∀ before ∈ part.inits, before.count '>' ≤ before.count '<' := by
      decide
    simpa only [List.mem_inits] using initial
  have few : FewBrackets (Text.join [',', ' '] parts) := by decide +kernel
  obtain ⟨-, found⟩ := (parts_found_iff_angles_even parts some_part each).2 few
  exact ⟨some_part, each, few, even, found even⟩

/-- The direction of a channel opens a bracket that nothing closes. -/
theorem channel_direction_hides_comma :
    let parts := ["c <-chan int".toList, "d int".toList]
    parts ≠ [] ∧ (∀ part ∈ parts, IsPart part) ∧
      splitTopLevel (Text.join [',', ' '] parts) = ["c <-chan int, d int".toList] ∧
      (Go.functionHeader.match? "func f(c <-chan int, d int) \x7b\x7d".toList).map parametersOf =
        some ["c <-chan int, d int"] := by
  decide

end Outline
end CodeAtlas
