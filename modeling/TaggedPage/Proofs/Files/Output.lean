import TaggedPage.Output
import TaggedPage.Proofs.Files.Path
import TaggedPage.Proofs.Text.Raw
import TaggedPage.Proofs.Text.Slug

/-! # Written documents

A document is written under a plain name, so it stands directly in its directory
(`isPlain_fileName`). `Wrote` says all that has changed where a file was written: the file is
there under its path, and besides it there are at most new directories. The writing of a document
ends with the whole of it there, with a part, or with nothing but new directories
(`writeDocument_ends`).
-/

namespace TaggedPage

/-! ## Names of files -/

namespace Output

theorem isJoined_stem (name : String) : Slug.IsJoined (stem name).toList := by
  unfold stem
  split
  · refine ⟨[Config.defaultName.toList], List.cons_ne_nil _ _, ?_, ?_⟩
    · simp [Config.defaultName, Slug.isWordChar]
    · simp
  · next hslug =>
    rw [String.toList_ofList]
    exact Slug.isJoined_of_ne_nil hslug

/-- A stem is made of the characters of slugs. -/
theorem stem_chars {name : String} {c : Char} (h : c ∈ (stem name).toList) :
    Slug.isWordChar c = true ∨ c = '-' :=
  (isJoined_stem name).chars c h

/-- A time is written with its sign if it is negative, and then in decimal digits. -/
theorem toString_time (time : Int) :
    toString time = (if time < 0 then "-" else "") ++ toString time.natAbs := by
  rw [Int.toString_eq_repr, Int.repr_eq_if]
  by_cases h : time < 0
  · have habs : (-time).toNat = time.natAbs := by omega
    rw [if_neg (by omega), if_pos h, habs]
    rfl
  · have habs : time.toNat = time.natAbs := by omega
    rw [if_pos (by omega), if_neg h, habs, String.empty_append]
    rfl

theorem toString_int_chars {time : Int} {c : Char} (h : c ∈ (toString time).toList) :
    c.isDigit = true ∨ c = '-' := by
  rw [toString_time, String.toList_append, List.mem_append] at h
  rcases h with h | h
  · split at h
    · exact .inr (List.mem_singleton.mp h)
    · cases h
  · rw [Nat.toString_eq_repr, Nat.toList_repr] at h
    exact .inl (Nat.isDigit_of_mem_toDigits (by decide) (by decide) h)

theorem fileName_chars (name : String) (time : Int) : (fileName name time).toList =
    (stem name).toList ++ "-".toList ++ (toString time).toList ++ ".pdf".toList := by
  simp only [fileName, String.toList_append]

theorem slash_not_mem_fileName (name : String) (time : Int) :
    '/' ∉ (fileName name time).toList := by
  rw [fileName_chars]
  simp only [List.mem_append, not_or]
  refine ⟨⟨⟨fun h => ?_, by decide⟩, fun h => ?_⟩, by decide⟩
  · exact absurd (stem_chars h) (by decide)
  · exact absurd (toString_int_chars h) (by decide)

/-- A document is written under a name that stands directly in a directory. -/
theorem isPlain_fileName (name : String) (time : Int) : Path.IsPlain (fileName name time) := by
  have hlength : 4 ≤ (fileName name time).toList.length := by
    rw [fileName_chars, List.length_append]
    exact Nat.le_add_left 4 _
  have hne (short : String) (hshort : short.toList.length < 4) :
      RawText.ofText (fileName name time) ≠ short := by
    intro heq
    rw [RawText.ofText_inj.mp heq] at hlength
    omega
  have hbyte : Path.slash = '/'.toUInt8 := rfl
  refine ⟨?_, hne "" (by decide), hne "." (by decide), hne ".." (by decide)⟩
  rw [hbyte]
  exact mt (RawText.mem_bytes_ofText (by decide)).mp (slash_not_mem_fileName name time)

end Output

namespace Tree

variable {t u v : Tree} {dir name path : RawText} {data : ByteArray} {place around : Location}

/-- Directories were made, if there were any to make, and then a file was written under a path. -/
def Fills (t u : Tree) (path : RawText) (place : Location) (data : ByteArray) : Prop :=
  ∃ v, t.Grows v ∧ v.locate path = .ok place ∧ v.Puts u place data

theorem Fills.locate (h : t.Fills u path place data) : u.locate path = .ok place := by
  obtain ⟨v, -, hlocate, hputs⟩ := h
  exact hputs.spares.locate hlocate

theorem Fills.spares (h : t.Fills u path place data) : Spares (· = place) t u := by
  obtain ⟨v, hgrows, -, hputs⟩ := h
  exact (hgrows.spares _).trans hputs.spares

/-- What has changed where a file was written: the file stands in its directory under its
path, and elsewhere there are at most new directories. -/
structure Wrote (t u : Tree) (dir name : RawText) (data : ByteArray) (around : Location) :
    Prop where
  directory : u.IsDirectoryAt dir around
  path : u.locate (Path.join dir name) = .ok (around ++ [name])
  content : u.read (Path.join dir name) = .ok data
  others : ∀ place, place ≠ around ++ [name] → u.file? place = t.file? place
  entries : ∀ place, place ≠ around ++ [name] → u.get? place = t.get? place ∨
    (t.get? place = none ∧ u.get? place = some .directory)

/-- A file that is written under a plain name stands directly in the directory. -/
theorem Fills.wrote (h : t.Fills u (Path.join dir name) place data) (hname : Path.IsPlain name) :
    ∃ around, t.Wrote u dir name data around := by
  have hpath := h.locate
  have hothers := h.spares.file
  obtain ⟨v, hgrows, hlocate, hputs⟩ := h
  obtain ⟨around, hdirectory, rfl⟩ := locate_join hname hlocate
  refine ⟨around, ⟨?_, hputs.spares.directory around hdirectory.directory⟩, hpath,
    read_of_locate hpath hputs.entry, hothers, fun other hother => ?_⟩
  · have hdir := hdirectory.path
    split at hdir
    · rw [if_pos ‹_›, hputs.current]
      exact hdir
    · rw [if_neg ‹_›]
      exact hputs.spares.locate hdir
  · rw [hputs.others other hother]
    exact hgrows.entry other

end Tree

/-! ## Writing a document -/

namespace Output

def ensureDirectory (dir : RawText) : ExceptT IoError (StateM Tree) Unit := do
  unless ← Tree.disk.isDirectory dir do Tree.disk.makeDirectories dir

theorem keeps_ensureDirectory (dir : RawText) : Keeps Tree.Grows (ensureDirectory dir) := by
  refine (Keeps.lift fun t => Std.Refl.refl t).bind fun isDirectory => ?_
  split
  · exact .pure ()
  · exact Tree.keeps_makeDirectories dir

theorem writeDocument_eq (time : Int) (dir : RawText) (name : String) (data : List UInt8) :
    writeDocument Tree.disk (pure time) dir name data =
      ensureDirectory dir >>= fun _ =>
        Tree.disk.write (Output.path dir name time) ⟨data.toArray⟩ >>= fun _ =>
          pure (Output.path dir name time) := by
  rw [writeDocument, ensureDirectory, bind_assoc]
  refine bind_congr fun isDirectory => ?_
  cases isDirectory with
  | true => simp [liftM_pure]
  | false => simp [liftM_pure]

theorem extract_eq_take (data : List UInt8) (count : Nat) :
    (⟨data.toArray⟩ : ByteArray).extract 0 count = ⟨(data.take count).toArray⟩ := by
  apply ByteArray.ext
  simp

/-- How the writing of a document can end. -/
inductive WriteEnds (time : Int) (dir : RawText) (name : String) (data : List UInt8) (t : Tree) :
    Except IoError RawText → Tree → Prop
  /-- The directory cannot be made, or the file cannot be opened. -/
  | refused (cause : IoError) {u : Tree} (hgrows : t.Grows u) :
      WriteEnds time dir name data t (.error cause) u
  /-- The file is opened, and not all of the document can be written. -/
  | brokeOff (cause : IoError) (count : Nat) {place : Location} {u : Tree}
      (hcount : count < data.length)
      (hfills : t.Fills u (path dir name time) place ⟨(data.take count).toArray⟩) :
      WriteEnds time dir name data t (.error cause) u
  | written {place : Location} {u : Tree}
      (hfills : t.Fills u (path dir name time) place ⟨data.toArray⟩) :
      WriteEnds time dir name data t (.ok (path dir name time)) u

theorem writeDocument_ends (time : Int) (dir : RawText) (name : String) (data : List UInt8)
    (t : Tree) : WriteEnds time dir name data t
      ((writeDocument Tree.disk (pure time) dir name data).run.run t).1
      ((writeDocument Tree.disk (pure time) dir name data).run.run t).2 := by
  have hgrows := keeps_ensureDirectory dir t
  rw [writeDocument_eq]
  cases hensure : (ensureDirectory dir).run.run t with
  | mk ensured v =>
    rw [hensure] at hgrows
    cases ensured with
    | error cause =>
      rw [run_bind_of_error hensure]
      exact .refused cause hgrows
    | ok _ =>
      rw [run_bind_of_ok hensure]
      have hends := v.write_ends (Output.path dir name time) ⟨data.toArray⟩
      cases hwrite : (Tree.disk.write (Output.path dir name time) ⟨data.toArray⟩).run.run v with
      | mk answer u =>
        rw [hwrite] at hends
        cases hends with
        | refused cause hmore =>
          rw [run_bind_of_error hwrite]
          exact .refused cause (IsTrans.trans _ _ _ hgrows hmore)
        | brokeOff cause count hcount hlocate hputs =>
          rw [run_bind_of_error hwrite]
          rw [extract_eq_take] at hputs
          exact .brokeOff cause count hcount ⟨v, hgrows, hlocate, hputs⟩
        | done hlocate hputs =>
          rw [run_bind_of_ok hwrite]
          exact .written ⟨v, hgrows, hlocate, hputs⟩

end Output

end TaggedPage
