import CodeAtlas.Index.Builder
import CodeAtlas.Proofs.Path.FileName

/-!
Filling a flat index and saving it. Vectors that fit are appended, only a file can stop a builder
that was started from being saved, and the table next to an index does not overwrite it.
-/
namespace CodeAtlas

theorem misfit_none {dimension : Nat} {vectors : List Embedding}
    (fit : ∀ v ∈ vectors, v.length = dimension) : FlatIndex.misfit? dimension vectors = none := by
  simp only [FlatIndex.misfit?, Option.map_eq_none_iff, List.find?_eq_none]
  intro v member
  simp [fit v member]

theorem fit_of_misfit {dimension : Nat} {vectors : List Embedding}
    (none_unfit : FlatIndex.misfit? dimension vectors = none) :
    ∀ v ∈ vectors, v.length = dimension := by
  simp only [FlatIndex.misfit?, Option.map_eq_none_iff, List.find?_eq_none] at none_unfit
  intro v member
  simpa using none_unfit v member

theorem IndexBuilder.add_fitting {dimension : Nat} {vectors : List Embedding}
    (prior : List Embedding) (normalized : Bool) (fit : ∀ v ∈ vectors, v.length = dimension) :
    IndexBuilder.add ⟨some dimension, prior, normalized⟩ prior.length vectors =
      .ok ⟨some dimension, prior ++ vectors, false⟩ := by
  simp [add, misfit_none fit]

/-- A builder with a dimension can only fail to be saved for a file's sake. -/
theorem IndexBuilder.save_cases (b : IndexBuilder) {dimension : Nat} (path : Path)
    (files : FileTree) (started : b.dimension = some dimension) :
    (∃ fault left, b.save path files = (.error (.file fault), left)) ∨
      ∃ made written : FileTree, b.save path files = (.ok (), written) ∧
        made.write path (FlatIndex.toText ⟨dimension, b.normalized, b.vectors⟩).toUTF8 =
          .ok written := by
  unfold save index
  rw [started]
  dsimp only
  cases files.makeParent path with
  | error fault => exact .inl ⟨fault, files, rfl⟩
  | ok made =>
    dsimp only
    cases write : made.write path
        (FlatIndex.toText ⟨dimension, b.normalized, b.vectors⟩).toUTF8 with
    | error fault => exact .inl ⟨fault, made, rfl⟩
    | ok written => exact .inr ⟨made, written, rfl, write⟩

/-- An index and its table are two files: writing the second leaves the first as it was. -/
theorem read_index_and_table {made written after : FileTree} {path : Path}
    {index table : ByteArray} (first : made.write path index = .ok written)
    (second : written.write (entriesPath path) table = .ok after) :
    after.read path = .ok index ∧ after.read (entriesPath path) = .ok table ∧
      (entriesPath path).components ≠ path.components := by
  obtain ⟨d, rfl⟩ := FileTree.destination_of_write first
  obtain ⟨d', rfl⟩ := FileTree.destination_of_write second
  obtain ⟨others, pieces⟩ := Path.splitOn_entriesPath d.pieces d.names
  have last : d'.name = Path.tableName d.name := by
    have same := d'.pieces.symm.trans pieces
    have names := (List.append_inj' same rfl).2
    exact (List.cons.inj names).1
  have apart : d'.location ≠ d.location := by
    intro same
    have names := (List.append_inj' same rfl).2
    rw [last] at names
    exact Path.tableName_ne d.name (List.cons.inj names).1
  refine ⟨?_, d'.read_written table, Path.entriesPath_components d.pieces d.names⟩
  exact d'.read_other table (d.locate_written index) (d.read_written index) apart

end CodeAtlas
