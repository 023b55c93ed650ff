import TaggedPage.Proofs.Files.Directory
import TaggedPage.Proofs.Files.Output

/-! # Names of documents

The stem of a file name ends in a letter or a digit, so a hyphen at the end of what stands before
the digits of the time is its sign: a file name tells its stem and its time (`fileName_eq_iff`).
In every tree the file stands directly in the directory that was asked for (`isIn_join`).
-/

namespace TaggedPage

/-! ## File names -/

namespace Output

theorem append_hyphen_inj {a b s t : List Char} (hs : '-' ∉ s) (ht : '-' ∉ t)
    (h : a ++ '-' :: s = b ++ '-' :: t) : a = b ∧ s = t := by
  have hpieces := congrArg (pieces '-') h
  rw [pieces_append_separator, pieces_append_separator, pieces_of_not_mem hs,
    pieces_of_not_mem ht] at hpieces
  obtain rfl := List.singleton_inj.mp (List.append_inj' hpieces rfl).2
  exact ⟨List.append_cancel_right h, rfl⟩

/-- What stands before the last hyphen of a file name. -/
def front (name : String) (time : Int) : List Char :=
  if time < 0 then (stem name).toList ++ ['-'] else (stem name).toList

theorem fileName_toList (name : String) (time : Int) :
    (fileName name time).toList =
      front name time ++ '-' :: Nat.toDigits 10 time.natAbs ++ ".pdf".toList := by
  rw [fileName, toString_time, front]
  split <;> simp

/-- The front of a file name is a stem exactly if the time is not negative. -/
theorem front_inj {a b : String} {s t : Int} (h : front a s = front b t) :
    stem a = stem b ∧ (s < 0 ↔ t < 0) := by
  have ha := (isJoined_stem a).ne_concat_hyphen (stem b).toList
  have hb := (isJoined_stem b).ne_concat_hyphen (stem a).toList
  rw [front, front] at h
  by_cases hs : s < 0 <;> by_cases ht : t < 0
  · rw [if_pos hs, if_pos ht] at h
    exact ⟨String.toList_inj.mp (List.append_cancel_right h), by simp [hs, ht]⟩
  · rw [if_pos hs, if_neg ht] at h
    exact absurd h.symm hb
  · rw [if_neg hs, if_pos ht] at h
    exact absurd h ha
  · rw [if_neg hs, if_neg ht] at h
    exact ⟨String.toList_inj.mp h, by simp [hs, ht]⟩

theorem hyphen_not_mem_toDigits (n : Nat) : '-' ∉ Nat.toDigits 10 n := by
  intro h
  exact absurd (Nat.isDigit_of_mem_toDigits (by decide) (by decide) h) (by decide)

/-- A file name tells its stem and its time. -/
theorem fileName_eq_iff {a b : String} {s t : Int} :
    fileName a s = fileName b t ↔ stem a = stem b ∧ s = t := by
  constructor
  · intro h
    have hlist := congrArg String.toList h
    rw [fileName_toList, fileName_toList] at hlist
    obtain ⟨hfront, hdigits⟩ := append_hyphen_inj (hyphen_not_mem_toDigits _)
      (hyphen_not_mem_toDigits _) (List.append_cancel_right hlist)
    obtain ⟨hstem, hsign⟩ := front_inj hfront
    have habs : s.natAbs = t.natAbs := by
      simpa using congrArg (Nat.ofDigitChars 10 · 0) hdigits
    exact ⟨hstem, by omega⟩
  · rintro ⟨hstem, rfl⟩
    rw [fileName, fileName, hstem]

/-- The only dot of a file name is the one of its ending. -/
theorem not_dots_infix_fileName (name : String) (time : Int) :
    ¬"..".toList <:+: (fileName name time).toList := by
  intro h
  have hstem : '.' ∉ (stem name).toList := fun hmem => absurd (stem_chars hmem) (by decide)
  have htime : '.' ∉ (toString time).toList :=
    fun hmem => absurd (toString_int_chars hmem) (by decide)
  have hcount := h.count_le '.'
  have hone : (fileName name time).toList.count '.' = 1 := by
    rw [fileName, String.toList_append, String.toList_append, String.toList_append,
      List.count_append, List.count_append, List.count_append,
      List.count_eq_zero_of_not_mem hstem, List.count_eq_zero_of_not_mem htime]
    rfl
  rw [hone] at hcount
  exact absurd hcount (by decide)

end Output

/-! ## Paths of documents -/

/-- The path of a file directly in a directory. It has the names of the directory, without the
empty one behind a last slash, and then that of the file. In every tree it leads to the file in
the place of the directory, unless a limit of names and paths is passed. -/
structure Path.IsIn (path dir file : RawText) : Prop where
  names : ∃ before last : List RawText, Path.names dir = before ++ last ∧
    (last = [] ∨ last = [("" : RawText)]) ∧ Path.names path = before ++ [file]
  place : ∀ (t : Tree) (place : Location), t.locate path = .ok place ↔
    Tree.checkPath path = .ok () ∧ file.bytes.length ≤ Tree.nameLimit ∧
      ∃ around, t.IsDirectoryAt dir around ∧ place = around ++ [file]

namespace Tree

variable {t : Tree} {dir name : RawText} {around : Location}

theorem next_plain (h : Path.IsPlain name) (around : Location) :
    next around name =
      if nameLimit < name.bytes.length then .error .nameTooLong else .ok (around ++ [name]) := by
  rw [next, if_neg (not_or_intro h.ne_empty h.ne_dot), if_neg h.ne_dots]

/-- The path of a file in a directory is followed up to the limits of names and paths. -/
theorem locate_join_plain (h : Path.IsPlain name) (hdir : t.IsDirectoryAt dir around)
    (hcheck : checkPath (Path.join dir name) = .ok ()) :
    t.locate (Path.join dir name) =
      if nameLimit < name.bytes.length then .error (.system .nameTooLong)
      else .ok (around ++ [name]) := by
  rw [locate_join_of_isDirectoryAt hdir h.isAbsolute hcheck, h.names, follow_cons,
    enter_eq_ok.mpr hdir.directory, next_plain h]
  split <;> rfl

end Tree

namespace Path

theorem isIn_join {file : RawText} (h : IsPlain file) (dir : RawText) :
    IsIn (join dir file) dir file where
  names := by
    by_cases hdir : dir = ""
    · subst hdir
      rw [join_empty h.isAbsolute, h.names]
      exact ⟨[], [("" : RawText)], rfl, .inr rfl, rfl⟩
    · obtain ⟨before, last, hnames, hlast, hjoin⟩ := names_join hdir h.isAbsolute
      exact ⟨before, last, hnames, hlast, h.names ▸ hjoin⟩
  place t place := by
    constructor
    · intro hlocate
      obtain ⟨_, hcheck, -⟩ := bind_eq_ok hlocate
      obtain ⟨around, hdir, rfl⟩ := Tree.locate_join h hlocate
      rw [Tree.locate_join_plain h hdir hcheck] at hlocate
      split at hlocate
      · cases hlocate
      · next hlimit => exact ⟨hcheck, Nat.le_of_not_lt hlimit, around, hdir, rfl⟩
    · rintro ⟨hcheck, hlimit, around, hdir, rfl⟩
      rw [Tree.locate_join_plain h hdir hcheck, if_neg (Nat.not_lt_of_le hlimit)]

theorem join_inj {dir a b : RawText} (ha : isAbsolute a = false) (hb : isAbsolute b = false) :
    join dir a = join dir b ↔ a = b := by
  rw [join, join, ha, hb]
  split
  · rfl
  · split
    · exact RawText.append_right_inj dir
    · exact RawText.append_right_inj (dir ++ "/")

end Path

namespace Output

/-- The path of a document leads to a file directly in the directory that was asked for. The
name of the file is a stem of lower-case letters, digits and single hyphens between them, a
hyphen, the time with its sign, and the ending; no part of it is a separator or leads upwards.
In one directory only documents of the same stem and the same time have the same path. -/
theorem path_in_directory (dir : RawText) (name : String) (time : Int) :
    ∃ file : String, path dir name time = Path.join dir file ∧
      file = stem name ++ "-" ++ ((if time < 0 then "-" else "") ++ toString time.natAbs) ++
        ".pdf" ∧
      Slug.IsJoined (stem name).toList ∧
      '/' ∉ file.toList ∧ ¬"..".toList <:+: file.toList ∧
      Path.IsIn (path dir name time) dir file ∧
      ∀ (other : String) (otherTime : Int),
        path dir name time = path dir other otherTime ↔
          stem name = stem other ∧ time = otherTime := by
  have hplain := isPlain_fileName
  refine ⟨fileName name time, rfl, ?_, isJoined_stem name, slash_not_mem_fileName name time,
    not_dots_infix_fileName name time, Path.isIn_join (hplain name time) dir, ?_⟩
  · rw [fileName, toString_time]
  · intro other otherTime
    rw [path, path, Path.join_inj (hplain name time).isAbsolute (hplain other otherTime).isAbsolute,
      RawText.ofText_inj, fileName_eq_iff]

example : path "out/" "Quarterly Report/Draft" (-5) = "out/quarterly-report-draft--5.pdf" := by
  decide +kernel

end Output

end TaggedPage
