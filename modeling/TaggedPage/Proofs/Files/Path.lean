import TaggedPage.Proofs.Files.Tree
import TaggedPage.Proofs.Text.Pieces

/-! # Paths of files in a directory

A relative path behind the path of a directory adds its names to those of the directory, whether
or not a slash ends the latter (`names_join`).

A plain name has no slash and is none of the names that stay or go up. Where a path that ends in
one names a place, what stands before it names a directory, and the place is directly in it
(`locate_join`).
-/

namespace TaggedPage

namespace Path

/-- A name that leads one step down. -/
structure IsPlain (name : RawText) : Prop where
  noSlash : slash ∉ name.bytes
  ne_empty : name ≠ ""
  ne_dot : name ≠ "."
  ne_dots : name ≠ ".."

variable {name : RawText}

theorem bytes_ne_nil : name.bytes ≠ [] ↔ name ≠ "" := by
  have hempty : ("" : RawText) = ⟨[]⟩ := rfl
  rw [hempty, ne_eq, ne_eq, RawText.mk.injEq]

theorem IsPlain.isAbsolute (h : IsPlain name) : isAbsolute name = false := by
  rw [Path.isAbsolute, beq_eq_false_iff_ne]
  intro hhead
  exact h.noSlash (List.mem_of_mem_head? hhead)

theorem IsPlain.names (h : IsPlain name) : names name = [name] := by
  rw [Path.names, pieces_of_not_mem h.noSlash]
  simp

theorem isAbsolute_append {dir : RawText} (h : dir ≠ "") (text : RawText) :
    isAbsolute (dir ++ text) = isAbsolute dir := by
  rw [isAbsolute, isAbsolute, RawText.bytes_append]
  cases hlist : dir.bytes with
  | nil => exact absurd hlist (bytes_ne_nil.mpr h)
  | cons c rest => rfl

theorem join_of_isAbsolute {dir : RawText} (h : isAbsolute name = true) : join dir name = name := by
  rw [join, h]
  rfl

theorem join_empty (h : isAbsolute name = false) : join "" name = name := by
  rw [join, h]
  rfl

/-- A slash is put in front of a relative name, unless the path of the directory ends with one. -/
theorem join_of_relative {dir : RawText} (hdir : dir ≠ "") (h : isAbsolute name = false) :
    join dir name =
      if dir.bytes.getLast? == some slash then dir ++ name else dir ++ "/" ++ name := by
  have hempty : dir.bytes.isEmpty = false := List.isEmpty_eq_false_iff.mpr (bytes_ne_nil.mpr hdir)
  rw [join, h, hempty]
  rfl

theorem exists_join_eq_append {dir : RawText} (hdir : dir ≠ "") (h : isAbsolute name = false) :
    ∃ text, join dir name = dir ++ text := by
  rw [join_of_relative hdir h]
  split
  · exact ⟨name, rfl⟩
  · exact ⟨"/" ++ name, RawText.append_assoc dir "/" name⟩

/-- The names on the way to a file are those on the way to its directory and then those of
its relative path. -/
theorem names_join {dir : RawText} (hdir : dir ≠ "") (h : isAbsolute name = false) :
    ∃ before last : List RawText, names dir = before ++ last ∧
      (last = [] ∨ last = [("" : RawText)]) ∧
      names (join dir name) = before ++ names name := by
  rw [join_of_relative hdir h]
  split
  · next hlast =>
    obtain ⟨before, hbefore⟩ := List.getLast?_eq_some_iff.mp (by simpa using hlast)
    have hbytes : (dir ++ name).bytes = before ++ slash :: name.bytes := by simp [hbefore]
    refine ⟨names ⟨before⟩, [""], ?_, .inr rfl, ?_⟩
    · rw [names, hbefore, pieces_append_separator, List.map_append]
      rfl
    · rw [names, hbytes, pieces_append_separator, List.map_append]
      rfl
  · refine ⟨names dir, [], (List.append_nil _).symm, .inl rfl, ?_⟩
    have hbytes : (dir ++ "/" ++ name).bytes = dir.bytes ++ slash :: name.bytes :=
      List.append_assoc dir.bytes [slash] name.bytes
    rw [names, hbytes, pieces_append_separator, List.map_append, ← names, ← names]

end Path

namespace Tree

variable {t : Tree}

theorem checkPath_eq_ok {path : RawText} :
    checkPath path = .ok () ↔
      0 ∉ path.bytes ∧ path ≠ "" ∧ path.bytes.length ≤ pathLimit := by
  rw [checkPath, ← Path.bytes_ne_nil]
  by_cases hzero : 0 ∈ path.bytes
  · simp [hzero]
  · by_cases hempty : path.bytes = []
    · simp [hempty]
    · by_cases hlong : pathLimit < path.bytes.length
      · simp [hzero, hempty, hlong]
      · simp [hzero, hempty, hlong, Nat.le_of_not_lt hlong]

/-- What starts a path that may name something may do so itself. -/
theorem checkPath_of_append {path text : RawText} (hpath : path ≠ "")
    (h : checkPath (path ++ text) = .ok ()) : checkPath path = .ok () := by
  obtain ⟨hzero, -, hlimit⟩ := checkPath_eq_ok.mp h
  refine checkPath_eq_ok.mpr ⟨fun hmem => hzero (List.mem_append_left _ hmem), hpath, ?_⟩
  rw [RawText.bytes_append, List.length_append] at hlimit
  omega

/-- A directory by its path. The empty path stands for the current one. -/
structure IsDirectoryAt (t : Tree) (dir : RawText) (place : Location) : Prop where
  path : if dir = "" then place = t.current else t.locate dir = .ok place
  directory : t.get? place = some .directory

theorem start_append {dir : RawText} (hdir : dir ≠ "") (text : RawText) :
    t.start (dir ++ text) = t.start dir := by
  rw [start, start, Path.isAbsolute_append hdir]

/-- An empty name, as it stands behind a last slash, stays in a directory. -/
theorem follow_empty {place : Location} (h : t.get? place = some .directory) :
    t.follow place [""] = .ok place := by
  rw [follow_cons, enter_eq_ok.mpr h]
  rfl

/-- A plain name leads one step down from a directory. -/
theorem follow_plain {name : RawText} (h : Path.IsPlain name) {first place : Location}
    {before : List RawText} (hfollow : t.follow first (before ++ [name]) = .ok place) :
    ∃ around, t.follow first before = .ok around ∧ t.get? around = some .directory ∧
      place = around ++ [name] := by
  rw [follow_append] at hfollow
  obtain ⟨around, hbefore, hfollow⟩ := bind_eq_ok hfollow
  rw [follow_cons] at hfollow
  obtain ⟨_, henter, hfollow⟩ := bind_eq_ok hfollow
  obtain ⟨target, hnext, hfollow⟩ := bind_eq_ok hfollow
  rw [next, if_neg (not_or_intro h.ne_empty h.ne_dot), if_neg h.ne_dots] at hnext
  refine ⟨around, hbefore, enter_eq_ok.mp henter, ?_⟩
  split at hnext
  · cases hnext
  · exact (Except.ok.inj hfollow).symm.trans (Except.ok.inj hnext).symm

/-- The path of a file in a directory names the place directly in it. -/
theorem locate_join {dir name : RawText} (h : Path.IsPlain name) {place : Location}
    (hlocate : t.locate (Path.join dir name) = .ok place) :
    ∃ around, t.IsDirectoryAt dir around ∧ place = around ++ [name] := by
  obtain ⟨_, hcheck, hfollow⟩ := bind_eq_ok hlocate
  have hfollow := mapError_eq_ok hfollow
  by_cases hdir : dir = ""
  · subst hdir
    rw [Path.join_empty h.isAbsolute, h.names, start, h.isAbsolute] at hfollow
    have hfollow : t.follow t.current ([] ++ [name]) = .ok place := hfollow
    obtain ⟨around, hcurrent, hdirectory, hplace⟩ := follow_plain h hfollow
    exact ⟨around, ⟨by rw [if_pos rfl]; exact (Except.ok.inj hcurrent).symm, hdirectory⟩, hplace⟩
  · obtain ⟨text, htext⟩ := Path.exists_join_eq_append hdir h.isAbsolute
    obtain ⟨before, last, hnames, hlast, hjoin⟩ := Path.names_join hdir h.isAbsolute
    rw [hjoin, h.names, htext, start_append hdir] at hfollow
    obtain ⟨around, hbefore, hdirectory, hplace⟩ := follow_plain h hfollow
    refine ⟨around, ⟨?_, hdirectory⟩, hplace⟩
    have hdirFollow : t.follow (t.start dir) (Path.names dir) = .ok around := by
      rw [hnames, follow_append, hbefore]
      rcases hlast with rfl | rfl
      · rfl
      · exact follow_empty hdirectory
    rw [if_neg hdir, locate, checkPath_of_append hdir (htext ▸ hcheck), hdirFollow]
    rfl

end Tree

end TaggedPage
