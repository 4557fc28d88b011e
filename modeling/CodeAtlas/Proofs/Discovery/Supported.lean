import CodeAtlas.ParseFile
import CodeAtlas.Proofs.Discovery.Resolve
import CodeAtlas.Proofs.Language.Rules
import CodeAtlas.Proofs.Path.FileName

/-!
The files found by the default patterns. A pattern asks for a dot and an extension at the end of the
file name and for nothing before them, while a dot that begins a name sets off no extension. So the
files found have rules, except for those whose name is a dot and an extension; such files are hidden,
and found only where a rule of an ignore file or of the global excludes keeps them.
-/
namespace CodeAtlas

/-! What patterns match -/

namespace Glob

theorem isMatch_chars (expected text : Line) :
    isMatch (expected.map .char) text = true ↔ text = expected := by
  induction expected generalizing text with
  | nil => simp [isMatch]
  | cons c rest ih => cases text <;> simp [isMatch, accepts, ih]

theorem afterRun_iff (next : Line → Bool) (text : Line) :
    afterRun next text = true ↔
      ∃ run rest, text = run ++ rest ∧ '/' ∉ run ∧ next rest = true := by
  induction text with
  | nil => simp [afterRun]
  | cons c rest ih =>
    rw [afterRun, Bool.or_eq_true, Bool.and_eq_true, ih]
    constructor
    · rintro (here | ⟨other, run, later, rfl, no_slash, found⟩)
      · exact ⟨[], c :: rest, rfl, List.not_mem_nil, here⟩
      · have differs : '/' ≠ c := (bne_iff_ne.mp other).symm
        exact ⟨c :: run, later, rfl, List.not_mem_cons_of_ne_of_not_mem differs no_slash, found⟩
    · rintro ⟨_ | ⟨d, run⟩, later, whole, no_slash, found⟩
      · exact .inl (by rw [whole]; exact found)
      · obtain ⟨rfl, rest_eq⟩ := List.cons.inj whole
        rw [List.mem_cons, not_or] at no_slash
        exact .inr ⟨bne_iff_ne.mpr (Ne.symm no_slash.1), run, later, rest_eq, no_slash.2, found⟩

theorem isMatch_directories {later : Glob} {text : Line}
    (found : isMatch (.directories :: later) text = true) :
    ∃ before rest, text = before ++ rest ∧ isMatch later rest = true ∧
      (before = [] ∨ rest = [] ∨ ∃ above, before = above ++ ['/']) := by
  have behind (text : Line) (found : afterSlash (isMatch later) text = true) :
      ∃ before rest, text = before ++ rest ∧ isMatch later rest = true ∧
        (rest = [] ∨ ∃ above, before = above ++ ['/']) := by
    induction text with
    | nil => exact ⟨[], [], rfl, found, .inl rfl⟩
    | cons c rest ih =>
      rw [afterSlash, Bool.or_eq_true, Bool.and_eq_true, beq_iff_eq] at found
      rcases found with ⟨rfl, here⟩ | further
      · exact ⟨['/'], rest, rfl, here, .inr ⟨[], rfl⟩⟩
      · obtain ⟨before, last, rfl, matched, ends⟩ := ih further
        refine ⟨c :: before, last, rfl, matched, ends.imp_right ?_⟩
        rintro ⟨above, rfl⟩
        exact ⟨c :: above, rfl⟩
  rw [isMatch, Bool.or_eq_true] at found
  rcases found with here | further
  · exact ⟨[], text, rfl, here, .inl rfl⟩
  · obtain ⟨before, rest, whole, matched, ends⟩ := behind text further
    exact ⟨before, rest, whole, matched, .inr ends⟩

def ofExtension (extension : String) : Glob :=
  .directories :: .anyRun :: ('.' :: extension.toList).map .char

/-- The last piece of a path that matches ends with a dot and the extension. -/
theorem last_of_isMatch {extension : String} (no_slash : '/' ∉ extension.toList) {text : Line}
    (found : isMatch (ofExtension extension) text = true) :
    ∃ stem, (Text.splitOn '/' text).getLast? = some (stem ++ '.' :: extension.toList) := by
  obtain ⟨before, rest, rfl, matched, ends⟩ := isMatch_directories found
  rw [isMatch, afterRun_iff] at matched
  obtain ⟨stem, last, rfl, plain, expected⟩ := matched
  obtain rfl := (isMatch_chars _ _).mp expected
  have alone : Text.splitOn '/' (stem ++ '.' :: extension.toList) =
      [stem ++ '.' :: extension.toList] := by
    apply Text.splitOn_of_not_mem
    simp [plain, no_slash]
  refine ⟨stem, ?_⟩
  rcases ends with rfl | empty | ⟨above, rfl⟩
  · rw [List.nil_append, alone]
    rfl
  · simp at empty
  · rw [List.append_assoc, List.singleton_append, Text.splitOn_append, alone,
      List.getLast?_concat]

end Glob

theorem compileAll_defaultPatterns :
    Discovery.compileAll defaultPatterns =
      .ok (Language.extensions.map fun entry => Glob.ofExtension entry.1) := by
  decide +kernel

/-! Names that end with an extension -/

namespace Path

theorem splitAtDot_concat (stem : Line) {extension : Line} (no_dot : '.' ∉ extension) :
    splitAtDot (stem ++ '.' :: extension) =
      if stem = [] then ('.' :: extension, none) else (stem, some extension) := by
  have back : (stem ++ '.' :: extension).reverse = extension.reverse ++ '.' :: stem.reverse := by
    simp
  have cut : (stem ++ '.' :: extension).reverse.span (· != '.') =
      (extension.reverse, '.' :: stem.reverse) := by
    have letters : ∀ c ∈ extension.reverse, (c != '.') = true := by
      intro c member
      rw [bne_iff_ne]
      rintro rfl
      exact no_dot (List.mem_reverse.mp member)
    rw [back, List.span_eq_takeWhile_dropWhile, List.takeWhile_append_of_pos letters,
      List.dropWhile_append_of_pos letters]
    simp
  rw [splitAtDot, cut]
  cases stem using List.reverseRecOn with
  | nil => rfl
  | append_singleton before c => simp

/-- The file name is a dot and an extension that tells a language, with nothing before them. -/
def IsBare (p : Path) : Prop :=
  ∃ entry ∈ Language.extensions, p.fileName? = some ('.' :: entry.1.toList)

end Path

namespace Language

theorem extension_plain : ∀ entry ∈ extensions,
    '/' ∉ entry.1.toList ∧ '.' ∉ entry.1.toList ∧
      String.ofList ((entry.1.toList.dropWhile (· == '.')).map Char.toLower) = entry.1 ∧
      (ofExtension? entry.1).isSome := by
  decide +kernel

/-- A file whose name ends with an extension has rules unless nothing stands before the extension. -/
theorem isSupported_of_name {p : Path} {stem : Line} {entry : String × Language}
    (known : entry ∈ extensions) (named : p.fileName? = some (stem ++ '.' :: entry.1.toList)) :
    isSupported p = true ↔ stem ≠ [] := by
  obtain ⟨-, no_dot, normal, language⟩ := extension_plain entry known
  obtain ⟨l, found⟩ := Option.isSome_iff_exists.mp language
  have cut : p.extension? = if stem = [] then none else some entry.1.toList := by
    rw [Path.extension?, named, Option.bind_some, Path.splitAtDot_concat stem no_dot]
    split <;> rfl
  rw [isSupported_iff, ofPath?, extensionOf?, cut]
  by_cases empty : stem = []
  · simp [empty]
  · simp only [if_neg empty, Option.map_some, normal, Option.bind_some, found]
    simp [empty]

theorem isBare_iff_of_name {p : Path} {stem : Line} {entry : String × Language}
    (known : entry ∈ extensions) (named : p.fileName? = some (stem ++ '.' :: entry.1.toList)) :
    p.IsBare ↔ stem = [] := by
  constructor
  · rintro ⟨other, among, bare⟩
    have same : stem ++ '.' :: entry.1.toList = '.' :: other.1.toList :=
      Option.some.inj (named.symm.trans bare)
    cases stem with
    | nil => rfl
    | cons c rest =>
      have dotted : '.' ∈ other.1.toList := by
        rw [← (List.cons.inj same).2]
        simp
      exact absurd dotted (extension_plain other among).2.1
  · rintro rfl
    exact ⟨entry, known, named⟩

end Language

/-! What the walk finds -/

def FileTree.Keeps (files : FileTree) (location : Location) : Prop :=
  files.verdict location = .kept

namespace FileTree

variable {files : FileTree} {location : Location}

theorem keeps_of_hidden (reached : files.isPassedOver location = false)
    (hidden : isHidden location = true) : files.Keeps location := by
  unfold isPassedOver at reached
  split at reached
  · cases reached
  · assumption
  · rw [hidden] at reached
    cases reached

theorem reached_of_below {root : Location} (reached : files.isReached root location = true)
    (below : root.length < location.length) : files.isPassedOver location = false := by
  have own := List.all_eq_true.mp reached (location.length - root.length - 1)
    (List.mem_range.mpr (by omega))
  have whole : root.length + (location.length - root.length - 1) + 1 = location.length := by omega
  rw [whole, List.take_length] at own
  simpa using own

end FileTree

namespace Discovery

variable {files : FileTree} {root p : Path}

/-- A file that the default patterns find: its name ends with an extension, and if there is nothing
before the extension, a rule keeps it. -/
theorem walk_defaults (proper : files.Proper) {d : Discovery} (defaults : d.patterns = defaultPatterns)
    {start : Location} {found : List Path} (walked : d.walk files start = .ok found) :
    ∀ p ∈ found, ∃ entry ∈ Language.extensions, ∃ stem,
      p.fileName? = some (stem ++ '.' :: entry.1.toList) ∧
        (stem = [] → ∃ location, files.locate p = .ok location ∧ files.Keeps location) := by
  unfold walk at walked
  rw [defaults, compileAll_defaultPatterns] at walked
  dsimp only at walked
  split at walked
  · cases walked
  · cases walked
    intro p member
    obtain ⟨location, filtered, rfl⟩ := List.mem_map.mp member
    obtain ⟨below, matched⟩ := List.mem_filter.mp filtered
    obtain ⟨file, reached⟩ : files.isFile location = true ∧
        files.isReached start location = true := by
      simp only [FileTree.filesBelow, List.mem_filter, Bool.and_eq_true] at below
      exact ⟨below.2.1.1, below.2.2⟩
    have stands := FileTree.stands_of_file file
    have names := proper.names stands
    obtain ⟨entry, known, matched⟩ : ∃ entry ∈ Language.extensions,
        (Glob.ofExtension entry.1).isMatch (Text.join ['/'] (location.drop start.length)) = true := by
      simp only [matches?, Bool.and_eq_true, List.any_eq_true, List.mem_map] at matched
      obtain ⟨⟨_, ⟨entry, known, rfl⟩, matched⟩, -⟩ := matched
      exact ⟨entry, known, matched⟩
    obtain ⟨stem, last⟩ := Glob.last_of_isMatch (Language.extension_plain entry known).1 matched
    have longer : start.length < location.length := by
      by_contra short
      rw [List.drop_of_length_le (Nat.le_of_not_lt short)] at last
      simp [Text.join, Text.splitOn_nil] at last
    have below_root : location.drop start.length ≠ [] := by
      simpa [List.drop_eq_nil_iff] using longer
    have named : location.getLast? = some (stem ++ '.' :: entry.1.toList) := by
      rw [FileTree.splitOn_join (fun name member => names name (List.mem_of_mem_drop member))
        below_root, List.getLast?_drop, if_neg (Nat.not_le_of_lt longer)] at last
      exact last
    obtain ⟨above, rfl⟩ := List.getLast?_eq_some_iff.mp named
    have pieces := FileTree.splitOn_pathOf names
    rw [if_neg (List.concat_ne_nil _ _), ← List.cons_append] at pieces
    refine ⟨entry, known, stem,
      Path.fileName_of_pieces pieces (names _ (by simp)).isName, ?_⟩
    rintro rfl
    have hidden : FileTree.isHidden (above ++ [[] ++ '.' :: entry.1.toList]) = true := by
      simp [FileTree.isHidden]
    exact ⟨_, proper.locate_pathOf stands,
      FileTree.keeps_of_hidden (FileTree.reached_of_below reached longer) hidden⟩

theorem mem_resolve_defaults {d : Discovery} (nothing : d.selected = []) {paths : List Path}
    (resolved : d.resolve files = .ok paths) :
    ∃ start found, d.walk files start = .ok found ∧ ∀ p ∈ paths, p ∈ found := by
  unfold resolve at resolved
  split at resolved
  · cases resolved
  · rename_i start located
    dsimp only at resolved
    split at resolved
    · cases resolved
    · rename_i found candidates
      cases resolved
      refine ⟨start, found, by simpa [Discovery.candidates, nothing] using candidates, ?_⟩
      intro p member
      exact (List.mem_filter.mp (Path.mem_of_mem_sorted member)).1

end Discovery

theorem parseFile_unsupported_iff (files : FileTree) (trees : TreeSource) (time : Timestamp)
    (root path : Path) :
    parseFile files trees time root path = .error (.unsupported path) ↔
      isSupported path = false := by
  unfold parseFile Parsers.parse isSupported
  cases rulesFor? path with
  | none => simp
  | some language => cases files.readText path <;> simp

/-- With the default patterns and no selection, whatever is ignored and excluded: a file that is found
has rules unless its name is a dot and an extension with nothing before them. Such a file is found only
where a rule of an ignore file or of the global excludes keeps it, and is the only kind that cannot be
parsed for want of rules. Any path has rules exactly when its language is known, and they are those of
the language's family. -/
theorem default_files_supported_unless_bare (d : Discovery) (files : FileTree) :
    (d.patterns = defaultPatterns → d.selected = [] → files.Proper →
      ∀ paths, d.resolve files = .ok paths → ∀ p ∈ paths,
        (isSupported p = true ↔ ¬ p.IsBare) ∧
          (p.IsBare → ∃ location, files.locate p = .ok location ∧ files.Keeps location) ∧
          ∀ (trees : TreeSource) (time : Timestamp) (root : Path),
            parseFile files trees time root p = .error (.unsupported p) ↔ p.IsBare) ∧
      ∀ p : Path, (isSupported p = true ↔ ∃ l, Language.ofPath? p = some l) ∧
        ∀ l, Language.ofPath? p = some l → rulesFor? p = some l.family := by
  constructor
  · intro defaults nothing proper paths resolved p member
    obtain ⟨start, found, walked, inside⟩ := Discovery.mem_resolve_defaults nothing resolved
    obtain ⟨entry, known, stem, named, kept⟩ :=
      Discovery.walk_defaults proper defaults walked p (inside p member)
    have bare := Language.isBare_iff_of_name known named
    have supported : isSupported p = true ↔ ¬ p.IsBare := by
      rw [bare]
      exact Language.isSupported_of_name known named
    refine ⟨supported, fun isBare => kept (bare.mp isBare), ?_⟩
    intro trees time root
    rw [parseFile_unsupported_iff, ← Bool.not_eq_true, supported, not_not]
  · intro p
    refine ⟨isSupported_iff p, ?_⟩
    intro l spoken
    rw [rulesFor_eq, spoken, Option.map_some]

theorem kept_hidden_file_is_supported :
    let files : FileTree :=
      { entries := [(["main.go".toList], .file .empty), ([".setup.py".toList], .file .empty),
          ([".tool.java".toList], .file .empty), ([".cache.js".toList], .file .empty),
          (["notes.txt".toList], .file .empty),
          ([".gitignore".toList], .file "!.setup.py\n".toUTF8),
          (["excludes".toList], .file "!.tool.java\n.setup.*\n".toUTF8)]
        globalExcludes := some { file := ["excludes".toList] } }
    let d : Discovery := { root := .ofString "/" }
    let paths := [Path.ofString "/.setup.py", .ofString "/.tool.java", .ofString "/main.go"]
    d.patterns = defaultPatterns ∧ d.selected = [] ∧ files.Proper ∧ d.resolve files = .ok paths ∧
      ∀ p ∈ paths, ¬ p.IsBare ∧
        parseFile files noTrees ⟨0, 0⟩ d.root p ≠ .error (.unsupported p) := by
  intro files d paths
  have proper : files.Proper := by decide
  have resolved : d.resolve files = .ok paths := by decide +kernel
  have rules : ∀ p ∈ paths, isSupported p = true := by decide +kernel
  have found := (default_files_supported_unless_bare d files).1 rfl rfl proper
  refine ⟨rfl, rfl, proper, resolved, ?_⟩
  intro p member
  obtain ⟨supported, -, unsupported⟩ := found paths resolved p member
  have named := supported.mp (rules p member)
  exact ⟨named, fun refused => named ((unsupported noTrees ⟨0, 0⟩ d.root).mp refused)⟩

/-- A kept file whose name is nothing but a dot and an extension is found, but has no rules. -/
theorem bare_extension_found_without_rules :
    let files : FileTree :=
      { entries := [(["main.go".toList], .file "package main\n".toUTF8),
          ([".go".toList], .file "package x\n".toUTF8),
          ([".gitignore".toList], .file "!.go\n".toUTF8)] }
    let d : Discovery := { root := .ofString "/" }
    let bare := Path.ofString "/.go"
    d.patterns = defaultPatterns ∧ d.selected = [] ∧ files.Proper ∧
      d.resolve files = .ok [bare, .ofString "/main.go"] ∧ isSupported bare = false ∧
      parseFile files noTrees ⟨0, 0⟩ d.root bare = .error (.unsupported bare) := by
  intro files d bare
  have rules : isSupported bare = false := by decide +kernel
  exact ⟨rfl, rfl, by decide, by decide +kernel, rules,
    (parseFile_unsupported_iff files noTrees ⟨0, 0⟩ d.root bare).mpr rules⟩

end CodeAtlas
