import TaggedPage.Proofs.Command.Written
import TaggedPage.Proofs.Files.FileName

/-! # Documents in the place of others

A document is written whether or not its place is free, so a second document of the same stem and
the same time takes the place of the first one (`second_document_replaces_first`). This is all
that can happen to a file. A document that is written, or of which the writing breaks off, changes
the file at its own place alone (`WroteOnly`), a run of jobs changes files only at the places of
its documents (`spares_after`), and the place of a document tells its stem and its time. So a
document stays until there is another one of its stem and its time (`documents_last_until_twin`).
-/

namespace TaggedPage

/-! ## Trees with one file more -/

namespace Tree

variable {t u v : Tree} {place : Location} {path : RawText} {data : ByteArray}

/-- A file has been written under a path. It stands at the place that the path names, where no
directory was, and all other files are as they were. -/
structure WroteOnly (t u : Tree) (path : RawText) (place : Location) (data : ByteArray) : Prop where
  path : u.locate path = .ok place
  content : u.file? place = some data
  free : t.get? place ≠ some .directory
  others : Spares (· = place) t u

theorem Fills.wroteOnly (h : t.Fills u path place data) : t.WroteOnly u path place data := by
  have hpath := h.locate
  have hothers := h.spares
  obtain ⟨v, hgrows, -, hputs⟩ := h
  refine ⟨hpath, hputs.file?, fun hdirectory => hputs.free ?_, hothers⟩
  exact (hgrows.spares fun _ => False).directory place hdirectory

/-- No file is lost to one that is written exactly if its place was free, or held the same. -/
theorem WroteOnly.keeps_all_iff (h : t.WroteOnly u path place data) :
    (∀ other old, t.file? other = some old → u.file? other = some old) ↔
      ∀ old, t.file? place = some old → old = data := by
  constructor
  · intro hkeeps old hold
    exact Option.some.inj ((hkeeps place old hold).symm.trans h.content)
  · intro hsame other old hold
    by_cases hother : other = place
    · subst hother
      rw [h.content, hsame old hold]
    · rw [h.others.file other hother, hold]

end Tree

/-! ## Runs of jobs -/

/-- A text for a pipeline, with the time at which its document is written. -/
structure Job where
  pipeline : Pipeline
  text : List Char
  time : Int

namespace Job

variable (world : Surroundings)

def path (job : Job) : RawText :=
  Output.path job.pipeline.config.outputDir job.pipeline.config.documentName job.time

/-- Draws the text and writes its document. -/
def run (job : Job) : ExceptT Failure (StateM Tree) RawText :=
  job.pipeline.renderToFile (Tree.host { world with time := job.time }) job.text

/-- The first part of the file name. -/
def stem (job : Job) : String := Output.stem job.pipeline.config.documentName

/-- The tree behind a job, which may have failed. -/
def behind (job : Job) (t : Tree) : Tree := ((job.run world).run.run t).2

/-- The tree behind all jobs, those that fail included. -/
def after (jobs : List Job) (t : Tree) : Tree := jobs.foldl (fun t job => job.behind world t) t

/-- The document of a job is written at a place, or the first bytes of it are, if the job fails
then. -/
def WritesAt (job : Job) (t : Tree) (place : Location) : Prop :=
  ∃ bytes count, job.pipeline.render job.text = .ok bytes ∧
    t.WroteOnly (job.behind world t) job.path place ⟨(bytes.take count).toArray⟩

/-- Among the jobs is one that writes at a place. -/
def Writes (t : Tree) (jobs : List Job) (place : Location) (job : Job) : Prop :=
  ∃ before rest, jobs = before ++ job :: rest ∧ job.WritesAt world (after world before t) place

variable {world} {t u : Tree} {job : Job} {jobs : List Job} {path : RawText} {place : Location}

/-- How a job can end. -/
inductive Ends (job : Job) (t : Tree) : Except Failure RawText → Tree → Prop
  | refused (failure : Failure) {u : Tree} (hgrows : t.Grows u) : Ends job t (.error failure) u
  | brokeOff (failure : Failure) (count : Nat) {place : Location} {u : Tree} {bytes : List UInt8}
      (hrender : job.pipeline.render job.text = .ok bytes) (hcount : count < bytes.length)
      (hwrote : t.WroteOnly u job.path place ⟨(bytes.take count).toArray⟩) :
      Ends job t (.error failure) u
  | written {place : Location} {u : Tree} {bytes : List UInt8}
      (hrender : job.pipeline.render job.text = .ok bytes)
      (hwrote : t.WroteOnly u job.path place ⟨bytes.toArray⟩) : Ends job t (.ok job.path) u

theorem ends_run (world : Surroundings) (job : Job) (t : Tree) :
    job.Ends t ((job.run world).run.run t).1 (job.behind world t) := by
  have hends := Output.writeDocument_ends job.time job.pipeline.config.outputDir
    job.pipeline.config.documentName (job.pipeline.document job.text).write t
  have hrun := Command.renderToFile_eq_writeDocument { world with time := job.time } job.pipeline
    job.text
  rw [behind, run, hrun, run_adapt]
  generalize (Output.writeDocument Tree.disk (pure job.time) job.pipeline.config.outputDir
    job.pipeline.config.documentName (job.pipeline.document job.text).write).run.run t =
      written at hends
  obtain ⟨answer, u⟩ := written
  have hrender := job.pipeline.render_eq job.text
  cases hends with
  | refused cause hgrows => exact .refused _ hgrows
  | brokeOff cause count hcount hfills => exact .brokeOff _ count hrender hcount hfills.wroteOnly
  | written hfills => exact .written hrender hfills.wroteOnly

theorem of_run (h : (job.run world).run.run t = (.ok path, u)) :
    path = job.path ∧ ∃ bytes place, job.pipeline.render job.text = .ok bytes ∧
      t.WroteOnly u path place ⟨bytes.toArray⟩ := by
  have hends := ends_run world job t
  rw [behind, h] at hends
  cases hends with
  | written hrender hwrote => exact ⟨rfl, _, _, hrender, hwrote⟩

/-- One job writes at the place of its document alone. -/
theorem spares_run (job : Job) (t : Tree) :
    Tree.Spares (job.WritesAt world t) t (job.behind world t) := by
  have hends := ends_run world job t
  generalize hanswer : ((job.run world).run.run t).1 = answer at hends
  generalize hbehind : job.behind world t = u at hends ⊢
  cases hends with
  | refused _ hgrows => exact hgrows.spares _
  | brokeOff _ count hrender _ hwrote =>
    refine hwrote.others.mono ?_
    rintro _ rfl
    exact ⟨_, count, hrender, hbehind ▸ hwrote⟩
  | @written _ _ bytes hrender hwrote =>
    refine hwrote.others.mono ?_
    rintro _ rfl
    refine ⟨bytes, bytes.length, hrender, ?_⟩
    rwa [hbehind, List.take_length]

theorem Writes.cons {later : Job} (h : Writes world (job.behind world t) jobs place later) :
    Writes world t (job :: jobs) place later := by
  obtain ⟨before, rest, rfl, hwrites⟩ := h
  exact ⟨job :: before, rest, rfl, hwrites⟩

/-- Jobs write at the places of their documents alone. -/
theorem spares_after (jobs : List Job) (t : Tree) :
    Tree.Spares (fun place => ∃ job, Writes world t jobs place job) t (after world jobs t) := by
  induction jobs generalizing t with
  | nil => exact .refl _ t
  | cons job jobs ih =>
    refine ((spares_run job t).mono ?_).trans ((ih _).mono ?_)
    · intro place hwrites
      exact ⟨job, [], jobs, rfl, hwrites⟩
    · rintro place ⟨later, hlater⟩
      exact ⟨later, hlater.cons⟩

/-- A path leads where it led before the jobs. -/
theorem locate_after (jobs : List Job) (h : t.locate path = .ok place) :
    (after world jobs t).locate path = .ok place :=
  (spares_after jobs t).locate h

/-- A file is still there after all jobs, unless one of them has written in its place. -/
theorem file_after (jobs : List Job) {data : ByteArray} (h : t.file? place = some data) :
    (after world jobs t).file? place = some data ∨ ∃ job, Writes world t jobs place job := by
  by_cases hwrites : ∃ job, Writes world t jobs place job
  · exact .inr hwrites
  · exact .inl (((spares_after jobs t).file place hwrites).trans h)

/-- The last name on the way to a document is its file name. -/
theorem place_of_locate (h : t.locate job.path = .ok place) : ∃ around,
    place = around ++ [.ofText (Output.fileName job.pipeline.config.documentName job.time)] := by
  obtain ⟨around, -, hplace⟩ := Tree.locate_join (Output.isPlain_fileName _ _) h
  exact ⟨around, hplace⟩

/-- Two documents at one place have the same stem and the same time. -/
theorem twins_of_place {twin : Job} (h : t.locate job.path = .ok place)
    (h' : u.locate twin.path = .ok place) : twin.stem = job.stem ∧ twin.time = job.time := by
  obtain ⟨around, hplace⟩ := place_of_locate h
  obtain ⟨around', hplace'⟩ := place_of_locate h'
  have hname := List.append_inj' (hplace'.symm.trans hplace) rfl
  exact Output.fileName_eq_iff.mp (RawText.ofText_inj.mp (List.singleton_inj.mp hname.2))

/-- A document that is written changes the file at its own place alone; so no earlier file is lost
exactly if that place was free, or held the same. In a run of jobs, of which any may fail at any
point, every file stays, unless a job writes its own document at this place, or begins to, and a
document stays as it is drawn, unless a later job does so whose document is of the same stem and
the same time. -/
theorem documents_last_until_twin (world : Surroundings) :
    (∀ (t u : Tree) (dir path : RawText) (name : String) (data : List UInt8) (time : Int),
      (Output.writeDocument Tree.disk (pure time) dir name data).run.run t = (.ok path, u) →
      path = Output.path dir name time ∧ ∃ place, t.WroteOnly u path place ⟨data.toArray⟩ ∧
        ((∀ other old, t.file? other = some old → u.file? other = some old) ↔
          ∀ old, t.file? place = some old → old = ⟨data.toArray⟩)) ∧
    (∀ (t : Tree) (jobs : List Job) (place : Location) (data : ByteArray),
      t.file? place = some data →
      (after world jobs t).file? place = some data ∨ ∃ job, Writes world t jobs place job) ∧
    (∀ (t u : Tree) (job : Job) (path : RawText),
      (job.run world).run.run t = (.ok path, u) →
      ∃ bytes place, job.pipeline.render job.text = .ok bytes ∧
        t.WroteOnly u path place ⟨bytes.toArray⟩ ∧
        ∀ later, (after world later u).read path = .ok ⟨bytes.toArray⟩ ∨
          ∃ twin, Writes world u later place twin ∧
            twin.stem = job.stem ∧ twin.time = job.time) := by
  refine ⟨?_, fun t jobs place data => file_after jobs, ?_⟩
  · intro t u dir path name data time h
    have hends := Output.writeDocument_ends time dir name data t
    rw [h] at hends
    cases hends with
    | @written place _ hfills =>
      exact ⟨rfl, place, hfills.wroteOnly, hfills.wroteOnly.keeps_all_iff⟩
  · intro t u job path h
    obtain ⟨rfl, bytes, place, hrender, hwrote⟩ := of_run h
    refine ⟨bytes, place, hrender, hwrote, fun later => ?_⟩
    rcases file_after later hwrote.content with hkept | ⟨twin, hwrites⟩
    · exact .inl (Tree.read_of_locate (locate_after later hwrote.path) (Tree.get?_of_file? hkept))
    · refine .inr ⟨twin, hwrites, ?_⟩
      obtain ⟨_, _, -, _, _, -, htwin⟩ := hwrites
      exact twins_of_place hwrote.path htwin.path

/-- A text of one letter for the standard fonts and the directory `out`. -/
def letter (c : Char) (time : Int) : Job :=
  ⟨⟨.combine { outputDir := some "out" } {} .standard, .standard⟩, [c], time⟩

/-- The document of a letter outlasts that of the next millisecond. -/
theorem documents_last_until_next_millisecond : ∃ bytes u path,
    (letter 'a' 5).pipeline.render ['a'] = .ok bytes ∧
      ((letter 'a' 5).run { time := 0 }).run.run {} = (.ok path, u) ∧
      (after { time := 0 } [letter 'b' 6] u).read path = .ok ⟨bytes.toArray⟩ := by
  obtain ⟨-, -, hlast⟩ := documents_last_until_twin { time := 0 }
  have hwritten : (((letter 'a' 5).run { time := 0 }).run.run {}).1.toBool = true := by
    decide +kernel
  cases hrun : ((letter 'a' 5).run { time := 0 }).run.run {} with
  | mk answer u =>
    rw [hrun] at hwritten
    obtain ⟨path, rfl⟩ : ∃ path, answer = .ok path := by
      cases answer with
      | error failure => cases hwritten
      | ok path => exact ⟨path, rfl⟩
    obtain ⟨bytes, place, hrender, -, hlater⟩ := hlast _ _ _ _ hrun
    refine ⟨bytes, u, _, hrender, rfl, ?_⟩
    rcases hlater [letter 'b' 6] with hread | ⟨twin, hwrites, -, htime⟩
    · exact hread
    · obtain ⟨before, rest, hjobs, -⟩ := hwrites
      have htwin : twin ∈ [letter 'b' 6] := hjobs ▸ by simp
      rw [List.mem_singleton.mp htwin] at htime
      cases htime

end Job

namespace Output

/-- Two names that have one stem, and one reading of the clock. -/
theorem second_document_replaces_first :
    let t : Tree := { entries := [(["out"], .directory)] }
    ∃ u v, (writeDocument Tree.disk (pure 5) "out" "Report" [1]).run.run t =
        (.ok "out/report-5.pdf", u) ∧
      u.file? ["out", "report-5.pdf"] = some ⟨#[1]⟩ ∧
      (writeDocument Tree.disk (pure 5) "out" "report!" [2]).run.run u =
        (.ok "out/report-5.pdf", v) ∧
      v.file? ["out", "report-5.pdf"] = some ⟨#[2]⟩ := by
  intro t
  refine ⟨_, _, rfl, rfl, rfl, rfl⟩

end Output

end TaggedPage
