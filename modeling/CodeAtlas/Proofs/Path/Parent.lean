import CodeAtlas.Proofs.FileTree.Locating

/-!
Components of paths that are put together and taken apart. A name put after a path is one more
component, and the parent of a path has all components but the last.
-/
namespace CodeAtlas.Path

open FileTree (Names)

variable {p q : Path} {name : Line}

def leading (p : Path) : List Component :=
  if p.isAbsolute then [.root]
  else if (Text.splitOn '/' p.text).head? = some ['.'] then [.here] else []

theorem pieces_of_absolute (absolute : p.isAbsolute = true) :
    ∃ rest, p.text = '/' :: rest ∧ Text.splitOn '/' p.text = [] :: Text.splitOn '/' rest := by
  obtain ⟨rest, text⟩ : ∃ rest, p.text = '/' :: rest := by
    apply List.head?_eq_some_iff.mp
    simpa [isAbsolute] using absolute
  refine ⟨rest, text, ?_⟩
  rw [text]
  exact Text.splitOn_append '/' [] rest

theorem text_of_first_empty {rest : List Line} (pieces : Text.splitOn '/' p.text = [] :: rest)
    (relative : p.isAbsolute = false) : p.text = [] := by
  have whole := Text.intercalate_splitOn '/' p.text
  rw [pieces] at whole
  cases rest with
  | nil => simpa using whole.symm
  | cons next others =>
    rw [isAbsolute, ← whole] at relative
    simp at relative

theorem isAbsolute_of_first {first : Line} {rest : List Line}
    (pieces : Text.splitOn '/' p.text = first :: rest) (some_first : first ≠ []) :
    p.isAbsolute = false := by
  by_contra absolute
  obtain ⟨later, -, others⟩ := pieces_of_absolute (Bool.not_eq_false _ ▸ absolute)
  exact some_first (List.cons.inj (pieces.symm.trans others)).1

theorem components_eq (p : Path) :
    p.components = p.leading ++ (Text.splitOn '/' p.text).filterMap classify := by
  unfold leading
  cases absolute : p.isAbsolute with
  | true =>
    obtain ⟨rest, -, pieces⟩ := pieces_of_absolute absolute
    rw [components_of_absolute absolute pieces, pieces]
    rfl
  | false =>
    unfold components segments
    split
    · rename_i rest pieces
      simp only [List.map_cons, components_segmentsFrom, pieces]
      rfl
    · rename_i rest pieces
      rw [text_of_first_empty pieces absolute, absolute]
      rfl
    · rename_i no_dot _
      have other : (Text.splitOn '/' p.text).head? ≠ some ['.'] := by
        intro dot
        obtain ⟨rest, pieces⟩ := List.head?_eq_some_iff.mp dot
        exact no_dot rest pieces
      rw [components_segmentsFrom, if_neg Bool.false_ne_true, if_neg other, List.nil_append]

/-! A name put after a path -/

theorem isAbsolute_join (p : Path) (names : Names name) :
    (p.join ⟨name⟩).isAbsolute = p.isAbsolute := by
  obtain ⟨⟨some_name, -⟩, no_slash⟩ := names
  obtain ⟨text⟩ := p
  cases name with
  | nil => exact absurd rfl some_name
  | cons c rest =>
    have differs : c ≠ '/' := fun same => no_slash (by simp [same])
    cases text with
    | nil => simp [join, isAbsolute, differs]
    | cons d others =>
      simp only [join, isAbsolute, List.head?_cons, Option.some_beq_some, beq_iff_eq, differs,
        if_false, List.isEmpty_cons, Bool.false_or]
      split <;> rfl

theorem components_join (p : Path) (names : Names name) :
    (p.join ⟨name⟩).components = p.components ++ [.name name] := by
  obtain ⟨before, pieces, same, empty⟩ := p.splitOn_join names.isName.1 names.no_slash
  have first : (Text.splitOn '/' (p.join ⟨name⟩).text).head? = some ['.'] ↔
      (Text.splitOn '/' p.text).head? = some ['.'] := by
    rw [pieces]
    cases before with
    | nil => simp [empty rfl, Text.splitOn_nil, names.isName.2.1]
    | cons piece rest =>
      rcases same with same | same
      · rw [← same]
        rfl
      · rw [same]
        rfl
  have stands : before.filterMap classify = (Text.splitOn '/' p.text).filterMap classify := by
    rcases same with same | same <;> rw [same]
    simp [classify]
  rw [components_eq, components_eq p, leading, leading, isAbsolute_join p names, pieces,
    List.filterMap_append, stands, ← pieces, List.append_assoc]
  simp only [first, List.filterMap_cons, classify_name names.isName, List.filterMap_nil]

/-! Paths cut off behind a segment -/

theorem segmentsFrom_prefix {start : Nat} {pieces : List Line} {front back : List Segment}
    {last : Segment} (cut : segmentsFrom start pieces = front ++ last :: back) :
    ∃ kept dropped, kept ≠ [] ∧ pieces = kept ++ dropped ∧
      last.stop = start + (['/'].intercalate kept).length ∧
      (front ++ [last]).map (·.component) = kept.filterMap classify := by
  induction pieces generalizing start front with
  | nil => simp [segmentsFrom] at cut
  | cons piece rest ih =>
    have further : ∀ {front}, segmentsFrom (start + piece.length + 1) rest = front ++ last :: back →
        ∃ kept dropped, kept ≠ [] ∧ rest = kept ++ dropped ∧
          last.stop = start + (['/'].intercalate (piece :: kept)).length ∧
          (front ++ [last]).map (·.component) = kept.filterMap classify := by
      intro front later
      obtain ⟨kept, dropped, some_kept, parted, stop, same⟩ := ih later
      refine ⟨kept, dropped, some_kept, parted, ?_, same⟩
      obtain ⟨next, others, rfl⟩ := List.exists_cons_of_ne_nil some_kept
      rw [stop, List.intercalate_cons_cons]
      simp only [List.length_append, List.length_singleton]
      omega
    rw [segmentsFrom] at cut
    cases component : classify piece with
    | none =>
      rw [component] at cut
      obtain ⟨kept, dropped, -, parted, stop, same⟩ := further cut
      refine ⟨piece :: kept, dropped, List.cons_ne_nil _ _, congrArg (piece :: ·) parted, stop, ?_⟩
      rw [same, List.filterMap_cons_none component]
    | some c =>
      rw [component] at cut
      cases front with
      | nil =>
        obtain ⟨rfl, -⟩ := List.cons.inj cut
        refine ⟨[piece], rest, List.cons_ne_nil _ _, rfl, by simp, ?_⟩
        simp [component]
      | cons first front =>
        obtain ⟨rfl, later⟩ := List.cons.inj cut
        obtain ⟨kept, dropped, -, parted, stop, same⟩ := further later
        refine ⟨piece :: kept, dropped, List.cons_ne_nil _ _, congrArg (piece :: ·) parted, stop, ?_⟩
        rw [List.cons_append, List.map_cons, same, List.filterMap_cons_some component]

theorem intercalate_starts {kept : List Line} (some_kept : kept ≠ []) (dropped : List Line) :
    ['/'].intercalate kept <+: ['/'].intercalate (kept ++ dropped) := by
  induction kept with
  | nil => exact absurd rfl some_kept
  | cons piece rest ih =>
    cases rest with
    | nil => cases dropped <;> simp
    | cons next others =>
      have later := ih (List.cons_ne_nil next others)
      simp only [List.cons_append, List.intercalate_cons_cons] at later ⊢
      exact (List.prefix_append_right_inj _).mpr later

theorem components_intercalate {kept dropped : List Line}
    (pieces : Text.splitOn '/' p.text = kept ++ dropped) (some_kept : kept ≠ [])
    (some_text : ['/'].intercalate kept ≠ []) :
    (⟨['/'].intercalate kept⟩ : Path).components = p.leading ++ kept.filterMap classify := by
  have no_slash : ∀ piece ∈ kept, '/' ∉ piece := fun piece member =>
    Text.not_mem_of_splitOn '/' p.text piece (by simp [pieces, member])
  have cut : Text.splitOn '/' (['/'].intercalate kept) = kept := by
    rw [Text.splitOn_eq]
    exact List.splitOn_intercalate '/' no_slash some_kept
  have same : (⟨['/'].intercalate kept⟩ : Path).isAbsolute = p.isAbsolute := by
    obtain ⟨rest, whole⟩ := intercalate_starts some_kept dropped
    rw [← pieces, Text.intercalate_splitOn] at whole
    obtain ⟨c, others, text⟩ := List.exists_cons_of_ne_nil some_text
    rw [isAbsolute, isAbsolute, ← whole, text]
    rfl
  obtain ⟨first, others, rfl⟩ := List.exists_cons_of_ne_nil some_kept
  rw [components_eq, leading, leading, same, cut, pieces]
  rfl

theorem components_take (kept : List Line) {dropped : List Line} {stop : Nat}
    (pieces : Text.splitOn '/' p.text = kept ++ dropped) (some_kept : kept ≠ [])
    (some_text : ['/'].intercalate kept ≠ []) (ends : stop = (['/'].intercalate kept).length) :
    (⟨p.text.take stop⟩ : Path).components = p.leading ++ kept.filterMap classify := by
  have text := List.prefix_iff_eq_take.mp (intercalate_starts some_kept dropped)
  rw [← pieces, Text.intercalate_splitOn, ← ends] at text
  rw [← text, components_intercalate pieces some_kept some_text]

theorem length_intercalate_cons (first : Line) {kept : List Line} (some_kept : kept ≠ []) :
    (['/'].intercalate (first :: kept)).length =
      first.length + 1 + (['/'].intercalate kept).length := by
  obtain ⟨next, others, rfl⟩ := List.exists_cons_of_ne_nil some_kept
  simp only [List.intercalate_cons_cons, List.length_append, List.length_singleton]

theorem components_cut_later {first : Line} {rest : List Line} {front back : List Segment}
    {last : Segment} (pieces : Text.splitOn '/' p.text = first :: rest)
    (silent : classify first = none)
    (later : segmentsFrom (first.length + 1) rest = front ++ last :: back) :
    (⟨p.text.take last.stop⟩ : Path).components =
      p.leading ++ (front ++ [last]).map (·.component) := by
  obtain ⟨kept, dropped, some_kept, rfl, stop, same⟩ := segmentsFrom_prefix later
  have some_text : ['/'].intercalate (first :: kept) ≠ [] := by
    apply List.ne_nil_of_length_pos
    rw [length_intercalate_cons first some_kept]
    omega
  rw [components_take (first :: kept) pieces (List.cons_ne_nil _ _) some_text
    (stop.trans (length_intercalate_cons first some_kept).symm), List.filterMap_cons_none silent,
    ← same]

theorem components_cut {front back : List Segment} {last : Segment}
    (cut : p.segments = front ++ last :: back) :
    (⟨p.text.take last.stop⟩ : Path).components = (front ++ [last]).map (·.component) := by
  unfold segments at cut
  -- The path begins with a dot, with the root, or with a name like any further one.
  split at cut
  · rename_i rest pieces
    have leads : p.leading = [.here] := by
      simp [leading, isAbsolute_of_first pieces, pieces]
    cases front with
    | nil =>
      obtain ⟨rfl, -⟩ := List.cons.inj cut
      have ends : 1 = (['/'].intercalate [['.']]).length := by simp
      have here := components_take [['.']] pieces (by simp) (by simp) ends
      rwa [leads] at here
    | cons first front =>
      obtain ⟨rfl, later⟩ := List.cons.inj cut
      rw [components_cut_later pieces rfl later, leads]
      rfl
  · rename_i rest pieces
    split at cut
    · rename_i absolute
      have leads : p.leading = [.root] := by simp [leading, absolute]
      cases front with
      | nil =>
        obtain ⟨rfl, -⟩ := List.cons.inj cut
        obtain ⟨others, text, -⟩ := pieces_of_absolute absolute
        rw [text]
        rfl
      | cons first front =>
        obtain ⟨rfl, later⟩ := List.cons.inj cut
        rw [components_cut_later pieces rfl later, leads]
        rfl
    · simp at cut
  · rename_i no_dot no_slash
    obtain ⟨kept, dropped, some_kept, pieces, stop, same⟩ := segmentsFrom_prefix cut
    obtain ⟨first, others, rfl⟩ := List.exists_cons_of_ne_nil some_kept
    have some_first : first ≠ [] := fun empty => no_slash _ (empty ▸ pieces)
    have leads : p.leading = [] := by
      have other : first ≠ ['.'] := fun dot => no_dot _ (dot ▸ pieces)
      simp [leading, isAbsolute_of_first pieces some_first, pieces, other]
    rw [components_take _ pieces some_kept _ (stop.trans (Nat.zero_add _)), leads, ← same,
      List.nil_append]
    cases others <;> simp [some_first]

theorem segments_start {first : Segment} {rest : List Segment}
    (segments : p.segments = first :: rest) : first.start = 0 := by
  unfold Path.segments at segments
  split at segments
  · exact (List.cons.inj segments).1 ▸ rfl
  · split at segments
    · exact (List.cons.inj segments).1 ▸ rfl
    · cases segments
  · rename_i no_dot no_slash
    obtain ⟨piece, others, pieces⟩ := List.exists_cons_of_ne_nil (Text.splitOn_ne_nil '/' p.text)
    rw [pieces, segmentsFrom] at segments
    cases component : classify piece with
    | none =>
      rcases blank_of_classify component with rfl | rfl
      · exact absurd pieces (no_slash others)
      · exact absurd pieces (no_dot others)
    | some c =>
      rw [component] at segments
      exact (List.cons.inj segments).1 ▸ rfl

/-- The parent has all components but the last. -/
theorem components_parent {parent : Path} (up : p.parent? = some parent) :
    parent.components = p.components.dropLast := by
  have same : parent = p.spanning p.segments.dropLast := by
    unfold parent? at up
    split at up <;> cases up
    rfl
  have init : p.components.dropLast = p.segments.dropLast.map (·.component) := by
    simp [components]
  rw [same, init]
  unfold spanning
  rcases List.eq_nil_or_concat' p.segments.dropLast with none_left | ⟨front, last, kept⟩
  · rw [none_left]
    rfl
  · obtain ⟨first, rest, begins⟩ : ∃ first rest, front ++ [last] = first :: rest := by
      cases front <;> exact ⟨_, _, rfl⟩
    obtain ⟨others, final, whole⟩ : ∃ others final, p.segments = others ++ [final] := by
      apply (List.eq_nil_or_concat' p.segments).resolve_left
      intro empty
      simp [empty] at kept
    rw [whole, List.dropLast_concat] at kept
    have start : first.start = 0 := by
      apply segments_start (p := p)
      change p.segments = first :: (rest ++ [final])
      rw [whole, kept, begins, List.cons_append]
    have cut : p.segments = front ++ last :: [final] := by
      rw [whole, kept, List.append_assoc, List.singleton_append]
    rw [whole, List.dropLast_concat, kept, List.getLast?_concat, begins, List.head?_cons, ← begins]
    dsimp only
    rw [start, List.drop_zero, components_cut cut]

theorem parent_join (p : Path) (names : Names name) :
    (p.join ⟨name⟩).parent?.map components = some p.components := by
  obtain ⟨before, pieces, -⟩ := p.splitOn_join names.isName.1 names.no_slash
  obtain ⟨parent, up⟩ := parent_of_pieces pieces names.isName
  rw [up, Option.map_some, components_parent up, components_join p names, List.dropLast_concat]

theorem fileName_join (p : Path) (names : Names name) : (p.join ⟨name⟩).fileName? = some name := by
  obtain ⟨before, pieces, -⟩ := p.splitOn_join names.isName.1 names.no_slash
  exact fileName_of_pieces pieces names.isName

theorem names_of_fileName (named : p.fileName? = some name) : Names name := by
  rw [fileName_components] at named
  split at named
  · rename_i text last
    cases named
    have member := List.mem_of_getLast? last
    rw [components_eq, List.mem_append] at member
    rcases member with leads | spelled
    · unfold leading at leads
      split at leads
      · simp at leads
      · split at leads <;> simp at leads
    · obtain ⟨piece, among, component⟩ := List.mem_filterMap.mp spelled
      obtain rfl := name_of_classify component
      refine ⟨⟨?_, ?_, ?_⟩, Text.not_mem_of_splitOn '/' p.text piece among⟩ <;>
        (rintro rfl; simp [classify] at component)
  · cases named

end CodeAtlas.Path
