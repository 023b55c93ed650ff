import TaggedPage.Proofs.Files.Path

/-! # Directories of files

In a tree in which everything stands in a directory the path of a file ends in a plain name
(`exists_plain_of_file`). The directory part of the path is what stands before that name, without
what names nothing at its end, and it names the directory of the file
(`isDirectoryAt_directory`). A relative path that is joined to it leads on from there
(`locate_join_of_isDirectoryAt`), and if the path of the file is absolute, the working directory
plays no part in that.
-/

namespace TaggedPage

namespace Path

variable {name : RawText}

theorem isAbsolute_join {dir : RawText} (h : isAbsolute dir = true) (name : RawText) :
    isAbsolute (join dir name) = true := by
  by_cases hname : isAbsolute name = true
  · rw [join_of_isAbsolute hname]
    exact hname
  · have hdir : dir ≠ "" := by
      rintro rfl
      cases h
    obtain ⟨text, htext⟩ := exists_join_eq_append hdir (Bool.eq_false_iff.mpr hname)
    rw [htext, isAbsolute_append hdir, h]

theorem trimReversed_suffix (path : List UInt8) : trimReversed path <:+ path := by
  fun_induction trimReversed path with
  | case1 => exact List.suffix_rfl
  | case2 rest _ ih => exact ih.trans (List.suffix_cons _ _)
  | case3 => exact List.suffix_cons _ _
  | case4 rest _ ih => exact ih.trans ((List.suffix_cons _ _).trans (List.suffix_cons _ _))
  | case5 => exact List.suffix_rfl

theorem trimReversed_ne_nil {path : List UInt8} (h : path ≠ []) : trimReversed path ≠ [] := by
  fun_induction trimReversed path with
  | case1 => exact List.cons_ne_nil _ _
  | case2 rest hrest ih => exact ih hrest
  | case3 => exact List.cons_ne_nil _ _
  | case4 rest hrest ih => exact ih hrest
  | case5 => exact h

theorem IsPlain.ne_slash (h : IsPlain name) : ∀ c ∈ name.bytes.reverse, c ≠ slash := by
  rintro c hc rfl
  exact h.noSlash (List.mem_reverse.mp hc)

theorem IsPlain.reverse_ne_nil (h : IsPlain name) : name.bytes.reverse ≠ [] :=
  fun hreverse => bytes_ne_nil.mpr h.ne_empty (List.reverse_eq_nil_iff.mp hreverse)

/-- Nothing is trimmed behind a plain name. -/
theorem trimReversed_of_plain (h : IsPlain name) (before : List UInt8) :
    trimReversed (name.bytes.reverse ++ before) = name.bytes.reverse ++ before := by
  have hslash := h.ne_slash
  have hempty := h.reverse_ne_nil
  have hdot : name.bytes.reverse ≠ [dot] := by
    intro hrev
    exact h.ne_dot (congrArg RawText.mk (List.reverse_eq_iff.mp hrev))
  generalize name.bytes.reverse = reversed at hslash hempty hdot
  obtain ⟨c, rest, rfl⟩ := List.exists_cons_of_ne_nil hempty
  obtain ⟨hc, hrest⟩ := List.forall_mem_cons.mp hslash
  have hbehind : ∀ more, c = dot → rest ++ before ≠ slash :: more := by
    rintro more rfl heq
    cases rest with
    | nil => exact hdot rfl
    | cons d rest => exact hrest d List.mem_cons_self (List.cons.inj heq).1
  rw [List.cons_append]
  generalize rest ++ before = tail at hbehind
  unfold trimReversed
  split
  · next heq => exact absurd (List.cons.inj heq).1 hc
  · next heq => exact absurd (List.cons.inj heq).1 hc
  · next heq => exact absurd (List.cons.inj heq).2 (hbehind _ (List.cons.inj heq).1)
  · next heq => exact absurd (List.cons.inj heq).2 (hbehind _ (List.cons.inj heq).1)
  · rfl

/-- The directory part of a path, empty where there is none. -/
def directory (path : RawText) : RawText := (parent? path).getD ""

/-- The last name of a path stands behind its last slash. -/
theorem exists_last_name (path : RawText) : ∃ front name : RawText, path = front ++ name ∧
    slash ∉ name.bytes ∧ (front = "" ∨ ∃ outer : RawText, front = outer ++ "/") := by
  by_cases hslash : slash ∈ path.bytes.reverse
  · obtain ⟨before, after, hsplit, hbefore⟩ := List.eq_append_cons_of_mem hslash
    refine ⟨⟨after.reverse⟩ ++ "/", ⟨before.reverse⟩, ?_, ?_, .inr ⟨_, rfl⟩⟩
    · refine congrArg RawText.mk ?_
      rw [List.reverse_eq_iff.mp hsplit, List.reverse_append, List.reverse_cons]
      rfl
    · simpa using hbefore
  · exact ⟨"", path, rfl, by simpa using hslash, .inl rfl⟩

/-- The directory of a path that ends in a plain name is what stands before the name, trimmed. -/
theorem directory_append {front : RawText} (h : IsPlain name)
    (hfront : front = "" ∨ ∃ outer : RawText, front = outer ++ "/") :
    directory (front ++ name) = ⟨(trimReversed front.bytes.reverse).reverse⟩ := by
  have hslash := h.ne_slash
  have hdrop : (name.bytes.reverse ++ front.bytes.reverse).dropWhile (· ≠ slash) =
      front.bytes.reverse := by
    rw [List.dropWhile_append_of_pos (by simpa using hslash)]
    rcases hfront with rfl | ⟨outer, rfl⟩
    · rfl
    · rw [RawText.bytes_append, List.reverse_append]
      rfl
  have hparent : parentReversed? (front ++ name).bytes.reverse =
      some (trimReversed front.bytes.reverse) := by
    rw [RawText.bytes_append, List.reverse_append, parentReversed?, trimReversed_of_plain h]
    obtain ⟨c, rest, hname⟩ := List.exists_cons_of_ne_nil h.reverse_ne_nil
    rw [hname] at hslash hdrop ⊢
    split
    · next heq => cases heq
    · next heq => exact absurd (List.cons.inj heq).1 (hslash c List.mem_cons_self)
    · rw [hdrop]
  rw [directory, parent?, hparent]
  rfl

/-- A path with a slash before its plain name begins with its directory. -/
theorem exists_directory_append {front : RawText} (h : IsPlain name)
    (hfront : ∃ outer : RawText, front = outer ++ "/") : directory (front ++ name) ≠ "" ∧
      ∃ text, front ++ name = directory (front ++ name) ++ text := by
  have hne : front.bytes.reverse ≠ [] := by
    obtain ⟨outer, rfl⟩ := hfront
    rw [RawText.bytes_append, List.reverse_append]
    exact List.cons_ne_nil _ _
  obtain ⟨text, htext⟩ := (trimReversed_suffix front.bytes.reverse).reverse
  rw [List.reverse_reverse] at htext
  rw [directory_append h (.inr hfront)]
  constructor
  · refine bytes_ne_nil.mp fun hempty => ?_
    exact trimReversed_ne_nil hne (List.reverse_eq_nil_iff.mp hempty)
  · refine ⟨⟨text⟩ ++ name, ?_⟩
    rw [← RawText.append_assoc]
    exact congrArg (· ++ name) (congrArg RawText.mk htext.symm)

/-- The directory of an absolute path is absolute. -/
theorem isAbsolute_directory {front : RawText} (h : IsPlain name)
    (hfront : front = "" ∨ ∃ outer : RawText, front = outer ++ "/") :
    isAbsolute (directory (front ++ name)) = isAbsolute (front ++ name) := by
  rcases hfront with rfl | hfront
  · rw [directory_append h (.inl rfl), RawText.empty_append, h.isAbsolute]
    rfl
  · obtain ⟨hdir, text, htext⟩ := exists_directory_append h hfront
    generalize directory (front ++ name) = dir at hdir htext ⊢
    rw [htext, isAbsolute_append hdir]

/-- A last name that a slash parts from the other ones. -/
theorem names_append_slash (outer : List UInt8) {name : List UInt8} (h : slash ∉ name) :
    names ⟨outer ++ slash :: name⟩ = names ⟨outer⟩ ++ [⟨name⟩] := by
  rw [names, pieces_append_separator, pieces_of_not_mem h, List.map_append]
  rfl

/-- The names of a path are those before its last slash, and then its last name. -/
theorem names_append {front : RawText} (h : slash ∉ name.bytes)
    (hfront : front = "" ∨ ∃ outer : RawText, front = outer ++ "/") :
    ∃ before, names (front ++ name) = before ++ [name] ∧
      (front = "" ∧ before = [] ∨
        (∃ outer : RawText, front = outer ++ "/") ∧ names front = before ++ [("" : RawText)]) := by
  rcases hfront with rfl | ⟨outer, rfl⟩
  · refine ⟨[], ?_, .inl ⟨rfl, rfl⟩⟩
    rw [RawText.empty_append, names, pieces_of_not_mem h]
    rfl
  · have hname : outer ++ "/" ++ name = ⟨outer.bytes ++ slash :: name.bytes⟩ :=
      RawText.append_assoc outer "/" name
    have hempty : outer ++ "/" = ⟨outer.bytes ++ [slash]⟩ := rfl
    refine ⟨names outer, ?_, .inr ⟨⟨outer, rfl⟩, ?_⟩⟩
    · rw [hname, names_append_slash _ h]
    · rw [hempty, names_append_slash _ List.not_mem_nil]
      rfl

end Path

namespace Tree

variable {t : Tree} {first around : Location}

/-- Names that stay where they are may be left out at the end. -/
theorem follow_of_append_stay {before : List RawText} {name : RawText}
    (hname : name = "" ∨ name = ".") (h : t.follow first (before ++ [name]) = .ok around) :
    t.follow first before = .ok around := by
  rw [follow_append] at h
  obtain ⟨middle, hbefore, h⟩ := bind_eq_ok h
  rw [follow_cons] at h
  obtain ⟨_, -, h⟩ := bind_eq_ok h
  rw [next, if_pos hname] at h
  exact hbefore.trans h

/-- What is trimmed at the end of a path leads nowhere else. -/
theorem follow_trimReversed {path : List UInt8}
    (h : t.follow first (Path.names ⟨path.reverse⟩) = .ok around) :
    t.follow first (Path.names ⟨(Path.trimReversed path).reverse⟩) = .ok around := by
  fun_induction Path.trimReversed path with
  | case1 => exact h
  | case2 rest _ ih =>
    have hnames := Path.names_append_slash rest.reverse List.not_mem_nil
    rw [List.reverse_cons] at h
    exact ih (follow_of_append_stay (.inl rfl) ((congrArg (t.follow first) hnames).symm.trans h))
  | case3 =>
    -- behind the slash of the root both names stay
    exact h
  | case4 rest _ ih =>
    have hdot : Path.slash ∉ [Path.dot] := by decide
    have hnames := Path.names_append_slash rest.reverse hdot
    rw [List.reverse_cons, List.reverse_cons, List.append_assoc, List.singleton_append] at h
    exact ih (follow_of_append_stay (.inr rfl) ((congrArg (t.follow first) hnames).symm.trans h))
  | case5 => exact h

/-- Everything in the tree stands in a directory, and so does whoever works in it. -/
structure IsRooted (t : Tree) : Prop where
  current : t.get? t.current = some .directory
  parent : ∀ place, (t.get? place).isSome → t.get? place.dropLast = some .directory

/-- A single dot is the path of the working directory. -/
theorem IsRooted.isDirectoryAt_dot (h : t.IsRooted) : t.IsDirectoryAt "." t.current := by
  refine ⟨?_, h.current⟩
  have hfollow : t.follow (t.start ".") (Path.names ".") = .ok t.current := by
    show t.follow t.current [("." : RawText)] = _
    rw [follow_cons, enter_eq_ok.mpr h.current]
    rfl
  rw [if_neg (by decide), locate, checkPath_eq_ok.mpr ⟨by decide, by decide, by decide⟩, hfollow]
  rfl

/-- A tree is rooted if its entries stand in directories. -/
theorem isRooted_of_entries (hcurrent : t.get? t.current = some .directory)
    (h : ∀ entry ∈ t.entries, t.get? entry.1.dropLast = some .directory) : t.IsRooted := by
  refine ⟨hcurrent, fun place hplace => ?_⟩
  by_cases hroot : place = []
  · rw [hroot]
    rfl
  · rw [get?_of_ne_nil t hroot, List.lookup_isSome_iff] at hplace
    obtain ⟨entry, hentry, hkey⟩ := hplace
    rw [eq_of_beq hkey]
    exact h entry hentry

theorem get?_of_file? {place : Location} {data : ByteArray} (h : t.file? place = some data) :
    t.get? place = some (.file data) := by
  rw [file?] at h
  split at h
  · next known hget => rw [hget, Option.some.inj h]
  · cases h

/-- The path of a file ends in a plain name, since the other ones lead to directories. -/
theorem exists_plain_of_file (ht : t.IsRooted) {path : RawText} {place : Location}
    {data : ByteArray} (hlocate : t.locate path = .ok place) (hfile : t.file? place = some data) :
    ∃ front name : RawText, path = front ++ name ∧ Path.IsPlain name ∧
      (front = "" ∨ ∃ outer : RawText, front = outer ++ "/") := by
  have hget := get?_of_file? hfile
  obtain ⟨_, -, hfollow⟩ := bind_eq_ok hlocate
  have hfollow := mapError_eq_ok hfollow
  obtain ⟨front, name, rfl, hslash, hfront⟩ := Path.exists_last_name path
  refine ⟨front, name, rfl, ?_, hfront⟩
  obtain ⟨before, hnames, -⟩ := Path.names_append hslash hfront
  rw [hnames, follow_append] at hfollow
  obtain ⟨around, -, hfollow⟩ := bind_eq_ok hfollow
  rw [follow_cons] at hfollow
  obtain ⟨_, henter, hfollow⟩ := bind_eq_ok hfollow
  have hdirectory := enter_eq_ok.mp henter
  obtain ⟨target, hnext, hfollow⟩ := bind_eq_ok hfollow
  obtain rfl := Except.ok.inj hfollow
  have hstay : ¬(name = "" ∨ name = ".") := by
    intro hname
    rw [next, if_pos hname] at hnext
    obtain rfl := Except.ok.inj hnext
    cases hdirectory.symm.trans hget
  refine ⟨hslash, fun h => hstay (.inl h), fun h => hstay (.inr h), ?_⟩
  rintro rfl
  obtain rfl := Except.ok.inj hnext
  have hparent := ht.parent around (by rw [hdirectory]; rfl)
  cases hparent.symm.trans hget

/-- The directory of the path of a file is the directory in which the file is. -/
theorem isDirectoryAt_directory (ht : t.IsRooted) {path : RawText} {place : Location}
    {data : ByteArray} (hlocate : t.locate path = .ok place) (hfile : t.file? place = some data) :
    t.IsDirectoryAt (Path.directory path) place.dropLast := by
  obtain ⟨front, name, rfl, hplain, hfront⟩ := exists_plain_of_file ht hlocate hfile
  obtain ⟨before, hnames, hbefore⟩ := Path.names_append hplain.noSlash hfront
  obtain ⟨_, hcheck, hfollow⟩ := bind_eq_ok hlocate
  have hfollow := mapError_eq_ok hfollow
  rw [hnames] at hfollow
  obtain ⟨around, haround, hdirectory, rfl⟩ := follow_plain hplain hfollow
  rw [List.dropLast_concat]
  refine ⟨?_, hdirectory⟩
  rcases hbefore with ⟨rfl, rfl⟩ | ⟨hslash, hfrontNames⟩
  · have hempty : Path.directory ("" ++ name) = "" := Path.directory_append hplain (.inl rfl)
    rw [RawText.empty_append, start, hplain.isAbsolute] at haround
    rw [if_pos hempty]
    exact (Except.ok.inj haround).symm
  · have hfrontFollow : t.follow (t.start (front ++ name)) (Path.names front) = .ok around := by
      rw [hfrontNames, follow_append, haround]
      exact follow_empty hdirectory
    have hdirFollow : t.follow (t.start (front ++ name))
        (Path.names (Path.directory (front ++ name))) = .ok around := by
      rw [Path.directory_append hplain hfront]
      apply follow_trimReversed
      rwa [List.reverse_reverse]
    obtain ⟨hdir, text, htext⟩ := Path.exists_directory_append hplain hslash
    generalize Path.directory (front ++ name) = dir at hdir htext hdirFollow ⊢
    rw [htext] at hcheck hdirFollow
    rw [start_append hdir] at hdirFollow
    rw [if_neg hdir, locate, checkPath_of_append hdir hcheck, hdirFollow]
    rfl

/-- A relative path that is joined to a directory leads on from there. -/
theorem locate_join_of_isDirectoryAt {dir name : RawText} {around : Location}
    (h : t.IsDirectoryAt dir around) (hname : Path.isAbsolute name = false)
    (hcheck : checkPath (Path.join dir name) = .ok ()) :
    t.locate (Path.join dir name) = (t.follow around (Path.names name)).mapError .system := by
  have hpath := h.path
  rw [locate, hcheck]
  by_cases hdir : dir = ""
  · subst hdir
    rw [if_pos rfl] at hpath
    rw [Path.join_empty hname, start, hname, hpath]
    rfl
  · rw [if_neg hdir] at hpath
    obtain ⟨_, -, hfollow⟩ := bind_eq_ok hpath
    have hfollow := mapError_eq_ok hfollow
    obtain ⟨text, htext⟩ := Path.exists_join_eq_append hdir hname
    obtain ⟨before, last, hnames, hlast, hjoin⟩ := Path.names_join hdir hname
    have hbefore : t.follow (t.start dir) before = .ok around := by
      rw [hnames] at hfollow
      rcases hlast with rfl | rfl
      · rwa [List.append_nil] at hfollow
      · exact follow_of_append_stay (.inl rfl) hfollow
    rw [hjoin, htext, start_append hdir, follow_append, hbefore]
    rfl

/-! ## Other working directories -/

theorem follow_congr {u : Tree} (h : ∀ place, u.get? place = t.get? place) (first : Location)
    (names : List RawText) : u.follow first names = t.follow first names := by
  induction names generalizing first with
  | nil => rfl
  | cons name names ih =>
    have henter : u.enter first = t.enter first := by rw [enter, enter, h]
    rw [follow_cons, follow_cons, henter]
    refine bind_congr fun _ => bind_congr fun place => ih place

/-- An absolute path leads to the same place from every working directory. -/
theorem locate_of_isAbsolute {path : RawText} (h : Path.isAbsolute path = true) (t : Tree)
    (current : Location) : { t with current }.locate path = t.locate path := by
  have hsame : ∀ place, Tree.get? { t with current } place = t.get? place := fun _ => rfl
  rw [locate, locate, start, start, h, if_pos rfl, if_pos rfl, follow_congr hsame]

end Tree

end TaggedPage
