import TaggedPage.Files.Tree
import TaggedPage.Proofs.Outcome

/-! # Trees under file operations

Of the operations of a disk that is a tree only two change anything. A new directory fills a
place that was free (`Grows`), and this is all that happens while the directories of a path are
made (`keeps_makeDirectories`). A file is written at one place, at which there was no directory
(`Puts`), and either all of it is there in the end or, if the writing broke off, a part
(`write_ends`). Neither moves a directory, and a tree that keeps its directories `Spares` all but
some of the files, so what a path named before it still names (`Spares.locate`).
-/

namespace TaggedPage.Tree

variable {t u v : Tree} {P Q : Location → Prop} {place : Location}

/-! ## Entries -/

theorem get?_of_ne_nil (t : Tree) (h : place ≠ []) : t.get? place = t.entries.lookup place := by
  rw [get?, List.isEmpty_eq_false_iff.mpr h]
  rfl

theorem lookup_filter_of_ne {other : Location} (h : other ≠ place)
    (entries : List (Location × Entry)) :
    (entries.filter (·.1 != place)).lookup other = entries.lookup other := by
  induction entries with
  | nil => rfl
  | cons entry entries ih =>
    obtain ⟨known, value⟩ := entry
    by_cases hknown : known = place
    · have hne : (other == known) = false := by simpa [hknown] using h
      rw [List.filter_cons_of_neg (by simp [hknown]), ih, List.lookup_cons, hne]
    · rw [List.filter_cons_of_pos (by simpa using hknown), List.lookup_cons, List.lookup_cons, ih]

theorem get?_set_self (t : Tree) (h : place ≠ []) (entry : Entry) :
    (t.set place entry).get? place = some entry := by
  rw [get?_of_ne_nil _ h, set, List.lookup_cons, beq_self_eq_true]

theorem get?_set_of_ne (t : Tree) (entry : Entry) {other : Location} (h : other ≠ place) :
    (t.set place entry).get? other = t.get? other := by
  by_cases hnil : other = []
  · subst hnil
    rfl
  · rw [get?_of_ne_nil _ hnil, get?_of_ne_nil _ hnil, set, List.lookup_cons,
      beq_eq_false_iff_ne.mpr h]
    exact lookup_filter_of_ne h t.entries

/-! ## Trees that only get new directories -/

/-- The second tree has all that is in the first one, and perhaps new directories. -/
structure Grows (t u : Tree) : Prop where
  current : u.current = t.current
  entry : ∀ place, u.get? place = t.get? place ∨
    (t.get? place = none ∧ u.get? place = some .directory)

instance : IsPreorder Tree Grows where
  refl _ := ⟨rfl, fun _ => .inl rfl⟩
  trans t u v htu huv := by
    refine ⟨huv.current.trans htu.current, fun place => ?_⟩
    rcases huv.entry place with hsame | ⟨hfree, hnew⟩
    · rw [hsame]
      exact htu.entry place
    · rcases htu.entry place with hsame | ⟨-, htaken⟩
      · exact .inr ⟨hsame ▸ hfree, hnew⟩
      · rw [hfree] at htaken
        cases htaken

/-- No file is made, changed or removed by new directories. -/
theorem Grows.file? (h : t.Grows u) (place : Location) : u.file? place = t.file? place := by
  rcases h.entry place with hsame | ⟨hfree, hnew⟩
  · rw [Tree.file?, Tree.file?, hsame]
  · rw [Tree.file?, Tree.file?, hfree, hnew]

/-! ## Trees that keep their directories -/

/-- The second tree has the directories of the first one and the same files, but perhaps for
those at the places in `P`. -/
structure Spares (P : Location → Prop) (t u : Tree) : Prop where
  current : u.current = t.current
  directory : ∀ place, t.get? place = some .directory → u.get? place = some .directory
  file : ∀ place, ¬P place → u.file? place = t.file? place

theorem Spares.refl (P : Location → Prop) (t : Tree) : Spares P t t :=
  ⟨rfl, fun _ h => h, fun _ _ => rfl⟩

theorem Spares.trans (htu : Spares P t u) (huv : Spares P u v) : Spares P t v where
  current := huv.current.trans htu.current
  directory place h := huv.directory place (htu.directory place h)
  file place h := (huv.file place h).trans (htu.file place h)

theorem Spares.mono (h : Spares P t u) (hPQ : ∀ place, P place → Q place) : Spares Q t u where
  current := h.current
  directory := h.directory
  file place hplace := h.file place fun hP => hplace (hPQ place hP)

theorem Grows.spares (h : t.Grows u) (P : Location → Prop) : Spares P t u where
  current := h.current
  directory place hplace := by
    rcases h.entry place with hsame | ⟨hfree, -⟩
    · rw [hsame, hplace]
    · rw [hplace] at hfree
      cases hfree
  file place _ := h.file? place

/-! ## Trees with one file written -/

/-- The second tree has a file at a place at which the first one had no directory, and elsewhere
the same. -/
structure Puts (t u : Tree) (place : Location) (data : ByteArray) : Prop where
  current : u.current = t.current
  free : t.get? place ≠ some .directory
  entry : u.get? place = some (.file data)
  others : ∀ other, other ≠ place → u.get? other = t.get? other

theorem Puts.spares {data : ByteArray} (h : t.Puts u place data) : Spares (· = place) t u where
  current := h.current
  directory other hother := by
    rwa [h.others]
    rintro rfl
    exact h.free hother
  file other hother := by rw [file?, file?, h.others other hother]

theorem Puts.file? {data : ByteArray} (h : t.Puts u place data) : u.file? place = some data := by
  rw [Tree.file?, h.entry]

theorem Puts.trans {before data : ByteArray} (htu : t.Puts u place before)
    (huv : u.Puts v place data) : t.Puts v place data where
  current := huv.current.trans htu.current
  free := htu.free
  entry := huv.entry
  others other hother := (huv.others other hother).trans (htu.others other hother)

theorem puts_set (h : t.get? place ≠ some .directory) (data : ByteArray) :
    t.Puts (t.set place (.file data)) place data where
  current := rfl
  free := h
  entry := by
    refine get?_set_self t ?_ _
    rintro rfl
    exact h rfl
  others _ hother := get?_set_of_ne t _ hother

/-! ## Trees with faults -/

theorem grows_settled (t : Tree) : t.Grows t.settled := ⟨rfl, fun _ => .inl rfl⟩

theorem settled_grows (t : Tree) : t.settled.Grows t := ⟨rfl, fun _ => .inl rfl⟩

/-- The next fault of a tree is nothing that stands in it. -/
theorem Puts.of_settled {data : ByteArray} (h : t.settled.Puts u place data) :
    t.Puts u place data :=
  ⟨h.current, h.free, h.entry, h.others⟩

/-! ## Following names -/

theorem enter_eq_ok : t.enter place = .ok () ↔ t.get? place = some .directory := by
  unfold enter
  split <;> simp_all

/-- Where a name leads from a directory. -/
def next (place : Location) (name : RawText) : Except SystemError Location :=
  if name = "" ∨ name = "." then .ok place
  else if name = ".." then .ok place.dropLast
  else if nameLimit < name.bytes.length then .error .nameTooLong
  else .ok (place ++ [name])

theorem follow_cons (t : Tree) (place : Location) (name : RawText) (rest : List RawText) :
    t.follow place (name :: rest) =
      t.enter place >>= fun _ => next place name >>= fun place => t.follow place rest := by
  rw [follow]
  cases t.enter place with
  | error cause => rfl
  | ok _ =>
    show (if _ then _ else _) = next place name >>= _
    unfold next
    split
    · rfl
    · split
      · rfl
      · split <;> rfl

theorem follow_append (t : Tree) (place : Location) (before after : List RawText) :
    t.follow place (before ++ after) =
      t.follow place before >>= fun middle => t.follow middle after := by
  induction before generalizing place with
  | nil => rfl
  | cons name before ih =>
    rw [List.cons_append, follow_cons, follow_cons]
    cases t.enter place with
    | error cause => rfl
    | ok _ =>
      cases hnext : next place name with
      | error cause => rfl
      | ok place => exact ih place

/-- Names are followed through directories alone, so they lead where they led while these
stay. -/
theorem Spares.follow (h : Spares P t u) {names : List RawText} {target : Location}
    (hfollow : t.follow place names = .ok target) : u.follow place names = .ok target := by
  induction names generalizing place with
  | nil => exact hfollow
  | cons name names ih =>
    rw [follow_cons] at hfollow ⊢
    obtain ⟨_, henter, hfollow⟩ := bind_eq_ok hfollow
    obtain ⟨middle, hnext, hfollow⟩ := bind_eq_ok hfollow
    rw [enter_eq_ok.mpr (h.directory place (enter_eq_ok.mp henter)), hnext]
    exact ih hfollow

/-- A path goes on naming its place. -/
theorem Spares.locate (h : Spares P t u) {path : RawText} (hlocate : t.locate path = .ok place) :
    u.locate path = .ok place := by
  obtain ⟨_, hcheck, hfollow⟩ := bind_eq_ok hlocate
  have hstart : u.start path = t.start path := by rw [start, start, h.current]
  rw [Tree.locate, hcheck, hstart, h.follow (mapError_eq_ok hfollow)]
  rfl

/-! ## Operations -/

theorem makeDirectory_grows {path : RawText} (h : t.makeDirectory path = .ok u) : t.Grows u := by
  unfold makeDirectory at h
  obtain ⟨_, -, h⟩ := bind_eq_ok h
  split at h
  · cases h
  next name before _ =>
  obtain ⟨around, -, h⟩ := bind_eq_ok h
  obtain ⟨_, -, h⟩ := bind_eq_ok h
  split at h
  · cases h
  split at h
  · cases h
  split at h
  · cases h
  next hfree =>
  obtain rfl := Except.ok.inj h
  refine ⟨rfl, fun place => ?_⟩
  by_cases hplace : place = around ++ [name]
  · subst hplace
    exact .inr ⟨Option.not_isSome_iff_eq_none.mp hfree, get?_set_self t (by simp) _⟩
  · exact .inl (get?_set_of_ne t _ hplace)

theorem read_of_locate {path : RawText} {data : ByteArray} (hlocate : t.locate path = .ok place)
    (hfile : t.get? place = some (.file data)) : t.read path = .ok data := by
  have hfind : t.find path = .ok (.file data) := by
    simp only [find, hlocate, bind, Except.bind, hfile]
    rfl
  rw [read, hfind]
  rfl

theorem file?_of_read {path : RawText} {data : ByteArray} (h : t.read path = .ok data) :
    ∃ place, t.locate path = .ok place ∧ t.file? place = some data := by
  obtain ⟨entry, hfind, h⟩ := bind_eq_ok h
  obtain ⟨place, hlocate, hfind⟩ := bind_eq_ok hfind
  refine ⟨place, hlocate, ?_⟩
  split at hfind
  · next known hget =>
    obtain rfl := Except.ok.inj hfind
    cases known with
    | directory => cases h
    | file bytes =>
      rw [file?, hget]
      exact congrArg some (Except.ok.inj h)
  · cases hfind

theorem create_eq_ok {path : RawText} (h : t.create path = .ok (place, u)) :
    t.locate path = .ok place ∧ t.Puts u place .empty := by
  obtain ⟨target, hlocate, h⟩ := bind_eq_ok h
  split at h
  · cases h
  · next hplace =>
    obtain ⟨rfl, rfl⟩ := Prod.mk.inj (Except.ok.inj h)
    exact ⟨hlocate, puts_set hplace .empty⟩

/-! ## The disk of a tree -/

variable {R : Tree → Tree → Prop} [IsPreorder Tree R]

/-- A change is made, or else only a fault may be over. -/
theorem run_change {α : Type} (f : Tree → Except IoError (α × Tree)) (t : Tree) :
    (∃ cause, (change f).run.run t = (.error cause, t.settled)) ∨
      ∃ result u, f t.settled = .ok (result, u) ∧ (change f).run.run t = (.ok result, u) := by
  have hrun : (change f).run.run t = change f t := rfl
  rw [hrun, change]
  split
  · exact .inl ⟨_, rfl⟩
  · split
    · next hchanged => exact .inr ⟨_, _, hchanged, rfl⟩
    · exact .inl ⟨_, rfl⟩

/-- Bytes are written, or some of the first ones if that breaks off. -/
theorem run_fill (place : Location) (data : ByteArray) (t : Tree) :
    (fill place data).run.run t = (.ok (), t.settled.set place (.file data)) ∨
      ∃ cause count, count < data.size ∧ (fill place data).run.run t =
        (.error cause, t.settled.set place (.file (data.extract 0 count))) := by
  have hrun : (fill place data).run.run t = fill place data t := rfl
  rw [hrun, fill]
  split
  · next fault hfault =>
    obtain ⟨-, hcount⟩ := Option.filter_eq_some_iff.mp hfault
    exact .inr ⟨fault.cause, fault.written, of_decide_eq_true hcount, rfl⟩
  · exact .inl rfl

/-- How the writing of a file can end. -/
inductive WriteEnds (t : Tree) (path : RawText) (data : ByteArray) :
    Except IoError Unit → Tree → Prop
  /-- The file cannot be opened. -/
  | refused (cause : IoError) {u : Tree} (hgrows : t.Grows u) :
      WriteEnds t path data (.error cause) u
  /-- The file is opened, and not all bytes can be written. -/
  | brokeOff (cause : IoError) (count : Nat) {place : Location} {u : Tree}
      (hcount : count < data.size) (hlocate : t.locate path = .ok place)
      (hputs : t.Puts u place (data.extract 0 count)) :
      WriteEnds t path data (.error cause) u
  | done {place : Location} {u : Tree} (hlocate : t.locate path = .ok place)
      (hputs : t.Puts u place data) : WriteEnds t path data (.ok ()) u

theorem write_ends (t : Tree) (path : RawText) (data : ByteArray) :
    t.WriteEnds path data ((disk.write path data).run.run t).1
      ((disk.write path data).run.run t).2 := by
  have hwrite : disk.write path data = change (·.create path) >>= (fill · data) := rfl
  rw [hwrite]
  rcases run_change (·.create path) t with ⟨cause, hopen⟩ | ⟨place, v, hcreate, hopen⟩
  · rw [run_bind_of_error hopen]
    exact .refused cause t.grows_settled
  obtain ⟨hlocate, hempty⟩ := create_eq_ok hcreate
  have hlocate := (t.settled_grows.spares fun _ => False).locate hlocate
  have hempty := hempty.of_settled
  have hv : v.settled.get? place ≠ some .directory := by
    have hentry : v.settled.get? place = some (.file .empty) := hempty.entry
    rw [hentry]
    nofun
  rw [run_bind_of_ok hopen]
  rcases run_fill place data v with hfill | ⟨cause, count, hcount, hfill⟩
  · rw [hfill]
    exact .done hlocate (hempty.trans (puts_set hv data).of_settled)
  · rw [hfill]
    exact .brokeOff cause count hcount hlocate (hempty.trans (puts_set hv _).of_settled)

theorem keeps_read (path : RawText) : Keeps R (disk.read path) := fun t => Std.Refl.refl t

theorem keeps_makeDirectory (path : RawText) : Keeps Grows (disk.makeDirectory path) := by
  intro t
  rcases run_change (fun t => (t.makeDirectory path).map fun made => ((), made)) t with
    ⟨cause, hmake⟩ | ⟨_, u, hmap, hmake⟩
  · have hrun : (disk.makeDirectory path).run.run t = (.error cause, t.settled) := hmake
    rw [hrun]
    exact t.grows_settled
  · have hrun : (disk.makeDirectory path).run.run t = (.ok (), u) := hmake
    obtain ⟨made, hmade, heq⟩ := map_eq_ok hmap
    obtain ⟨-, rfl⟩ := Prod.mk.inj heq
    rw [hrun]
    exact IsTrans.trans _ _ _ t.grows_settled (makeDirectory_grows hmade)

theorem keeps_unlessDirectory (path : RawText) (failure : IoError) :
    Keeps R (disk.unlessDirectory path failure) := by
  refine (Keeps.lift fun t => Std.Refl.refl t).bind fun isDirectory => ?_
  split
  · exact .pure ()
  · exact .throw failure

theorem keeps_makeFirst (paths : List RawText) : Keeps Grows (disk.makeFirst paths) := by
  induction paths with
  | nil => exact .throw _
  | cons path outer ih =>
    unfold Disk.makeFirst
    split
    · exact .pure ()
    · refine (keeps_makeDirectory path).tryCatch fun failure => ?_
      split
      · refine ih.bind fun _ => ?_
        refine (keeps_makeDirectory path).tryCatch fun failure => ?_
        exact keeps_unlessDirectory path failure
      · exact keeps_unlessDirectory path _

/-- All that happens while the directories of a path are made is that there are more
directories, also when not all of them can be made. -/
theorem keeps_makeDirectories (path : RawText) : Keeps Grows (disk.makeDirectories path) :=
  keeps_makeFirst _

end TaggedPage.Tree
