import TaggedPage.Proofs.Font.Requests
import TaggedPage.Proofs.Pdf.Registered

/-! # Readable faces

Which files are read as a face. The file has to begin with a font, or with a collection whose
list leads to one, and the directory of the font has to be complete (`exists_ofFile_iff`). Of
the tables three are needed: the general header, the header of the metrics and the number of
glyphs, which must not be zero (`FaceTables.exists_read_iff`). Five more are looked at if they are
there.

Nobody asks for the outlines of the glyphs: a face is read from a file whether or not it has any
(`read_regardless_of_outlines`, `read_without_outlines`). As long as the face has no axes to vary
along, which `fvar` would list, no other table has a say in its metrics either.
-/

namespace TaggedPage.Font

variable {data : ByteArray} {i index : Nat}

/-! ## Numbers within their data -/

theorem isSome_u8? : (u8? data i).isSome ↔ i < data.size := by
  simp [u8?]

theorem isSome_u16? : (u16? data i).isSome ↔ i + 2 ≤ data.size := by
  have hboth : (u16? data i).isSome ↔ (u8? data i).isSome ∧ (u8? data (i + 1)).isSome := by
    cases hhigh : u8? data i <;> cases hlow : u8? data (i + 1) <;> simp [u16?, hhigh, hlow]
  rw [hboth, isSome_u8?, isSome_u8?]
  omega

theorem isSome_u32? : (u32? data i).isSome ↔ i + 4 ≤ data.size := by
  have hboth : (u32? data i).isSome ↔ (u16? data i).isSome ∧ (u16? data (i + 2)).isSome := by
    cases hhigh : u16? data i <;> cases hlow : u16? data (i + 2) <;> simp [u32?, hhigh, hlow]
  rw [hboth, isSome_u16?, isSome_u16?]
  omega

theorem isSome_tableRecord? : (tableRecord? data i).isSome ↔ i + 16 ≤ data.size := by
  have hall : (tableRecord? data i).isSome ↔
      (u32? data i).isSome ∧ (u32? data (i + 8)).isSome ∧ (u32? data (i + 12)).isSome := by
    cases htag : u32? data i <;> cases hstart : u32? data (i + 8) <;>
      cases hlength : u32? data (i + 12) <;> simp [tableRecord?, htag, hstart, hlength]
  rw [hall, isSome_u32?, isSome_u32?, isSome_u32?]
  omega

/-- A list is read as a whole exactly if each of its members is. -/
theorem isSome_mapM {α β : Type} (f : α → Option β) (as : List α) :
    (as.mapM f).isSome ↔ ∀ a ∈ as, (f a).isSome := by
  induction as with
  | nil => simp
  | cons a as ih =>
    rw [List.forall_mem_cons, ← ih, List.mapM_cons]
    cases f a <;> cases as.mapM f <;> simp

/-! ## Files that hold a font -/

/-- A font with a complete directory begins at the offset. -/
structure BeginsAt (data : ByteArray) (offset : Nat) : Prop where
  magic : magic? data offset = some .single
  directory : ∃ count, u16? data (offset + 4) = some count ∧ offset + 12 + 16 * count ≤ data.size

/-- Where a file says that the face with an index begins. A single font is the face with index
zero. The offsets of a collection stand in a list and lead behind it. -/
inductive Announces (data : ByteArray) (index : Nat) : Nat → Prop
  | single (magic : magic? data 0 = some .single) (first : index = 0) : Announces data index 0
  | collection {count offset : Nat} (magic : magic? data 0 = some .collection)
      (size : u32? data 8 = some count) (list : 12 + 4 * count ≤ data.size)
      (listed : index < count) (entry : u32? data (12 + 4 * index) = some offset)
      (behind : 12 + 4 * count ≤ offset) (inside : offset ≤ data.size) :
      Announces data index offset

def HasFont (data : ByteArray) (index : Nat) : Prop :=
  ∃ offset, Announces data index offset ∧ BeginsAt data offset

theorem Directory.exists_readAt_iff : (∃ d, Directory.readAt data i = .ok d) ↔
    ∃ count, u16? data i = some count ∧ i + 8 + 16 * count ≤ data.size := by
  rw [Directory.readAt]
  cases hcount : u16? data i with
  | none => simp
  | some count =>
    by_cases hshort : data.size < i + 8 + 16 * count
    · simp [hshort]
    · have hrecords : ((List.range count).mapM fun k =>
          tableRecord? data (i + 8 + 16 * k)).isSome := by
        rw [isSome_mapM]
        intro k hk
        rw [isSome_tableRecord?]
        have := List.mem_range.mp hk
        omega
      obtain ⟨records, hrecords⟩ := Option.isSome_iff_exists.mp hrecords
      simp [hshort, hrecords, Nat.le_of_not_lt hshort]

theorem collectionSize?_eq_some_iff {count : Nat} : collectionSize? data = some count ↔
    u32? data 8 = some count ∧ 12 + 4 * count ≤ data.size := by
  cases hsize : u32? data 8 with
  | none => simp [collectionSize?, hsize]
  | some n => simp [collectionSize?, hsize]; grind

/-- A font begins where its magic number stands and its directory is read behind it. -/
theorem beginsAt_iff {offset : Nat} : BeginsAt data offset ↔
    magic? data offset = some .single ∧ ∃ d, Directory.readAt data (offset + 4) = .ok d := by
  rw [Directory.exists_readAt_iff]
  constructor
  · rintro ⟨magic, directory⟩
    exact ⟨magic, directory⟩
  · rintro ⟨magic, directory⟩
    exact ⟨magic, directory⟩

theorem exists_ofCollection_iff : (∃ d, Directory.ofCollection data index = .ok d) ↔
    ∃ count offset, collectionSize? data = some count ∧ index < count ∧
      u32? data (12 + 4 * index) = some offset ∧ 12 + 4 * count ≤ offset ∧ offset ≤ data.size ∧
      BeginsAt data offset := by
  simp only [beginsAt_iff]
  constructor
  · rintro ⟨d, hd⟩
    rw [Directory.ofCollection] at hd
    split at hd
    · cases hd
    next count hsize =>
    split at hd
    · cases hd
    next hlisted =>
    split at hd
    · cases hd
    next offset hentry =>
    split at hd
    · cases hd
    next hplace =>
    split at hd
    · next hmagic =>
      exact ⟨count, offset, hsize, by omega, hentry, by omega, by omega, hmagic, d, hd⟩
    · cases hd
  · rintro ⟨count, offset, hsize, hlisted, hentry, hbehind, hinside, hmagic, d, hd⟩
    refine ⟨d, ?_⟩
    rw [Directory.ofCollection, hsize]
    simp only [hentry]
    rw [if_neg (by omega), if_neg (by omega)]
    simp only [hmagic, hd]

/-- The directory of a face is found exactly if there is a font for the face. -/
theorem exists_ofFile_iff : (∃ d, Directory.ofFile data index = .ok d) ↔ HasFont data index := by
  constructor
  · rintro ⟨d, hd⟩
    rw [Directory.ofFile] at hd
    split at hd
    · cases hd
    · next hmagic =>
      split at hd
      · next hfirst => exact ⟨0, .single hmagic hfirst, beginsAt_iff.mpr ⟨hmagic, d, hd⟩⟩
      · cases hd
    · next hmagic =>
      obtain ⟨count, offset, hsize, hlisted, hentry, hbehind, hinside, hbegins⟩ :=
        exists_ofCollection_iff.mp ⟨d, hd⟩
      obtain ⟨hsize, hlist⟩ := collectionSize?_eq_some_iff.mp hsize
      exact ⟨offset, .collection hmagic hsize hlist hlisted hentry hbehind hinside, hbegins⟩
  · rintro ⟨offset, announced, begins⟩
    cases announced with
    | single magic first =>
      obtain ⟨-, d, hd⟩ := beginsAt_iff.mp begins
      refine ⟨d, ?_⟩
      rw [Directory.ofFile, magic]
      exact (if_pos first).trans hd
    | @collection count _ magic size list listed entry behind inside =>
      rw [Directory.ofFile, magic]
      exact exists_ofCollection_iff.mpr ⟨count, offset, collectionSize?_eq_some_iff.mpr
        ⟨size, list⟩, listed, entry, behind, inside, begins⟩

/-! ## Tables that a face needs -/

namespace Directory

variable (d : Directory)

/-- The general header: 54 bytes, of 16 to 16384 units to the em and with glyph locations in one
of two formats. -/
def HasHead : Prop :=
  ∃ head units locations, d.table? "head" = some head ∧ 54 ≤ head.size ∧
    u16? head 18 = some units ∧ 16 ≤ units ∧ units ≤ 16384 ∧
    u16? head 50 = some locations ∧ locations ≤ 1

/-- The header of the metrics, of which 36 bytes are looked at. -/
def HasHhea : Prop := ∃ hhea, d.table? "hhea" = some hhea ∧ 36 ≤ hhea.size

/-- The number of glyphs, in a table of one of two versions. -/
def HasGlyphs : Prop :=
  ∃ maxp version glyphs, d.table? "maxp" = some maxp ∧ u32? maxp 0 = some version ∧
    (version = 0x5000 ∨ version = 0x10000) ∧ u16? maxp 4 = some glyphs ∧ glyphs ≠ 0

end Directory

theorem isSome_i16? : (i16? data i).isSome ↔ i + 2 ≤ data.size := by
  rw [i16?, Option.isSome_map, isSome_u16?]

theorem isSome_readHead? : (Head.read? data).isSome ↔
    54 ≤ data.size ∧ ∃ units locations, u16? data 18 = some units ∧ 16 ≤ units ∧ units ≤ 16384 ∧
      u16? data 50 = some locations ∧ locations ≤ 1 := by
  by_cases hsize : data.size < 54
  · simp [Head.read?, hsize]
  have hsome (at_ : Nat) (h : at_ + 2 ≤ 54) : ∃ n, i16? data at_ = some n :=
    Option.isSome_iff_exists.mp (isSome_i16?.mpr (by omega))
  obtain ⟨xMin, hxMin⟩ := hsome 36 (by omega)
  obtain ⟨yMin, hyMin⟩ := hsome 38 (by omega)
  obtain ⟨xMax, hxMax⟩ := hsome 40 (by omega)
  obtain ⟨yMax, hyMax⟩ := hsome 42 (by omega)
  cases hunits : u16? data 18 with
  | none => simp [Head.read?, hunits]
  | some units =>
    cases hlocations : u16? data 50 with
    | none => simp [Head.read?, hlocations]
    | some locations =>
      by_cases hbad : units < 16 ∨ 16384 < units ∨ 1 < locations
      · simp [Head.read?, hunits, hlocations, hbad]
        omega
      · simp [Head.read?, hsize, hunits, hlocations, hbad, hxMin, hyMin, hxMax, hyMax]
        omega

theorem isSome_readHhea? : (Hhea.read? data).isSome ↔ 36 ≤ data.size := by
  have hall : (Hhea.read? data).isSome ↔
      (i16? data 4).isSome ∧ (i16? data 6).isSome ∧ (u16? data 34).isSome := by
    cases hascender : i16? data 4 <;> cases hdescender : i16? data 6 <;>
      cases hcount : u16? data 34 <;> simp [Hhea.read?, hascender, hdescender, hcount]
  rw [hall, isSome_i16?, isSome_i16?, isSome_u16?]
  omega

theorem isSome_glyphCount? : (glyphCount? data).isSome ↔
    ∃ version glyphs, u32? data 0 = some version ∧ (version = 0x5000 ∨ version = 0x10000) ∧
      u16? data 4 = some glyphs ∧ glyphs ≠ 0 := by
  cases hversion : u32? data 0 with
  | none => simp [glyphCount?, hversion]
  | some version =>
    cases hglyphs : u16? data 4 with
    | none => simp [glyphCount?, hglyphs]
    | some glyphs =>
      by_cases hvalid : (version = 0x5000 ∨ version = 0x10000) ∧ glyphs ≠ 0
      · simp [glyphCount?, hversion, hglyphs, hvalid]
      · simp [glyphCount?, hversion, hglyphs, hvalid]

namespace Directory

variable {d : Directory}

theorem isSome_head : ((d.table? "head").bind Head.read?).isSome ↔ d.HasHead := by
  cases htable : d.table? "head" with
  | none => simp [HasHead, htable]
  | some head => simp [HasHead, htable, isSome_readHead?]

theorem isSome_hhea : ((d.table? "hhea").bind Hhea.read?).isSome ↔ d.HasHhea := by
  cases htable : d.table? "hhea" with
  | none => simp [HasHhea, htable]
  | some hhea => simp [HasHhea, htable, isSome_readHhea?]

theorem isSome_maxp : ((d.table? "maxp").bind glyphCount?).isSome ↔ d.HasGlyphs := by
  cases htable : d.table? "maxp" with
  | none => simp [HasGlyphs, htable]
  | some maxp => simp [HasGlyphs, htable, isSome_glyphCount?]

end Directory

namespace FaceTables

/-- A face needs three tables and no more. -/
theorem exists_read_iff {d : Directory} :
    (∃ t, FaceTables.read d = .ok t) ↔ d.HasHead ∧ d.HasHhea ∧ d.HasGlyphs := by
  rw [← Directory.isSome_head, ← Directory.isSome_hhea, ← Directory.isSome_maxp, FaceTables.read]
  cases (d.table? "head").bind Head.read? with
  | none => simp
  | some head =>
    cases (d.table? "hhea").bind Hhea.read? with
    | none => simp
    | some hhea =>
      cases (d.table? "maxp").bind glyphCount? with
      | none => simp
      | some glyphs => simp

/-- The tables that are looked at. -/
def tags : List String := ["head", "hhea", "maxp", "hmtx", "cmap", "OS/2", "name", "post"]

/-- Two directories with the same tables under these tags are read alike. -/
theorem read_congr {d d' : Directory} (h : ∀ tag ∈ tags, d'.table? tag = d.table? tag) :
    FaceTables.read d' = FaceTables.read d := by
  simp only [tags, List.forall_mem_cons] at h
  obtain ⟨hhead, hhhea, hmaxp, hhmtx, hcmap, hos2, hname, hpost, -⟩ := h
  simp only [FaceTables.read, hhead, hhhea, hmaxp, hhmtx, hcmap, hos2, hname, hpost]

def readAt (data : ByteArray) (index : Nat) : Except FaceError FaceTables :=
  Directory.ofFile data index >>= read

end FaceTables

/-! ## Faces of files -/

namespace TrueType

def readAt (v : Variant) (data : ByteArray) (index : Nat) : Except FaceError TrueType :=
  (FaceTables.readAt data index).map (ofTables v data)

theorem read_eq_readAt (v : Variant) (data : ByteArray) : read v data = readAt v data 0 := by
  rw [read, readAt, FaceTables.readAt]
  cases Directory.ofFile data 0 with
  | error cause => rfl
  | ok d =>
    show (FaceTables.read d >>= _) = (FaceTables.read d).map _
    cases FaceTables.read d <;> rfl

/-- The face with an index is read exactly if the file has a font for it and this has the three
tables. -/
theorem exists_readAt_iff {v : Variant} : (∃ font, readAt v data index = .ok font) ↔
    ∃ d, Directory.ofFile data index = .ok d ∧ d.HasHead ∧ d.HasHhea ∧ d.HasGlyphs := by
  simp only [← FaceTables.exists_read_iff]
  constructor
  · rintro ⟨font, hfont⟩
    obtain ⟨t, ht, -⟩ := map_eq_ok hfont
    obtain ⟨d, hd, ht⟩ := bind_eq_ok ht
    exact ⟨d, hd, t, ht⟩
  · rintro ⟨d, hd, t, ht⟩
    refine ⟨ofTables v data t, ?_⟩
    rw [readAt, FaceTables.readAt, hd]
    show (FaceTables.read d).map _ = _
    rw [ht]
    rfl

/-- Bytes are read as a face exactly if they are a font with the three tables. Bytes that are no
font are refused as unreadable by whoever loads them. The face keeps its file as it is, and its
metrics depend on the tables that are looked at alone unless it varies: two files without axes in
which these are the same give the same face, whatever other tables they have. -/
theorem read_regardless_of_outlines (v : Variant) (data : ByteArray) :
    ((∃ font, read v data = .ok font) ↔
      ∃ d, Directory.ofFile data 0 = .ok d ∧ d.HasHead ∧ d.HasHhea ∧ d.HasGlyphs) ∧
    (¬ HasFont data 0 → ∃ cause, read v data = .error cause ∧
      ∀ (m : Type → Type) [Monad m] [LawfulMonad m] (p : Provider m) (path : String),
        p.load path = pure (.ok data) →
          (loadFace p v path).run = pure (.error (.unreadable v cause))) ∧
    (∀ font, read v data = .ok font → font.data = data) ∧
    ∀ data' d d', Directory.ofFile data 0 = .ok d → Directory.ofFile data' 0 = .ok d' →
      d.table? "fvar" = none → d'.table? "fvar" = none →
      (∀ tag ∈ FaceTables.tags, d'.table? tag = d.table? tag) →
        read v data' = (read v data).map fun font => { font with data := data' } := by
  rw [read_eq_readAt]
  refine ⟨exists_readAt_iff, ?_, ?_, ?_⟩
  · intro hfont
    cases hread : readAt v data 0 with
    | ok font =>
      obtain ⟨d, hd, -⟩ := exists_readAt_iff.mp ⟨font, hread⟩
      exact absurd (exists_ofFile_iff.mp ⟨d, hd⟩) hfont
    | error cause =>
      refine ⟨cause, rfl, ?_⟩
      intro m _ _ p path hload
      rw [run_loadFace, hload, map_pure, outcomeOf, read_eq_readAt, hread]
  · intro font hfont
    obtain ⟨t, -, rfl⟩ := map_eq_ok hfont
    rfl
  · intro data' d d' hd hd' _ _ htables
    rw [read_eq_readAt, readAt, readAt, FaceTables.readAt, FaceTables.readAt, hd, hd']
    show (FaceTables.read d').map _ = ((FaceTables.read d).map _).map _
    rw [FaceTables.read_congr htables]
    cases FaceTables.read d with
    | error cause => rfl
    | ok t => rfl

/-- A code above the first one has the advance that the tables give it. -/
theorem codeWidth_ofTables (v : Variant) (data : ByteArray) (t : FaceTables) {code : UInt8}
    (h : firstCode ≤ code.toNat) : (ofTables v data t).codeWidth code = t.codeAdvance code := by
  have hlt : code.toNat - firstCode < lastCode + 1 - firstCode := by
    have := code.toNat_lt
    simp only [firstCode, lastCode] at h ⊢
    omega
  have hcode : UInt8.ofNat (firstCode + (code.toNat - firstCode)) = code := by
    rw [Nat.add_sub_cancel' h, UInt8.ofNat_toNat]
  rw [codeWidth, if_neg (Nat.not_lt.mpr h), ofTables, List.getD_eq_getElem?_getD,
    List.getElem?_map, List.getElem?_range hlt]
  exact congrArg t.codeAdvance hcode

end TrueType

/-! ## Files written from tables -/

def bigEndian : (width n : Nat) → List UInt8
  | 0, _ => []
  | width + 1, n => bigEndian width (n / 256) ++ [UInt8.ofNat n]

/-- The records of tables that lie one behind the other from an offset on. -/
def recordsOf (offset : Nat) : List (String × List UInt8) → List UInt8
  | [] => []
  | (tag, bytes) :: rest =>
    bigEndian 4 (tagOf tag) ++ bigEndian 4 0 ++ bigEndian 4 offset ++ bigEndian 4 bytes.length ++
      recordsOf (offset + bytes.length) rest

/-- A font that is written from an offset of its file on: its directory, then its tables. -/
def fontBytes (start magic : Nat) (tables : List (String × List UInt8)) : List UInt8 :=
  bigEndian 4 magic ++ bigEndian 2 tables.length ++ List.replicate 6 0 ++
    recordsOf (start + 12 + 16 * tables.length) tables ++ tables.flatMap (·.2)

/-- The tables of a face with one glyph, of the given advance and ascent and with 1000 units to
the em. -/
def plainTables (advance ascent : Nat) : List (String × List UInt8) :=
  [("head", List.replicate 18 0 ++ bigEndian 2 1000 ++ List.replicate 34 0),
   ("hhea", List.replicate 4 0 ++ bigEndian 2 ascent ++ List.replicate 28 0 ++ bigEndian 2 1),
   ("hmtx", bigEndian 2 advance ++ bigEndian 2 0),
   ("maxp", bigEndian 4 0x5000 ++ bigEndian 2 1)]

/-- A font with outlines of another kind. -/
def curvesFile : ByteArray :=
  ⟨(fontBytes 0 0x4F54544F (("CFF ", [1, 0, 4, 1]) :: plainTables 500 800)).toArray⟩

/-- The font with a table of glyphs instead. -/
def glyphsFile : ByteArray :=
  ⟨(fontBytes 0 0x00010000 (("glyf", [0, 0, 0, 0]) :: plainTables 500 800)).toArray⟩

namespace TrueType

/-- What stands in the directory of the font with outlines of another kind. -/
theorem exists_curvesFile : ∃ d, Directory.ofFile curvesFile 0 = .ok d ∧
    d.table? "glyf" = none ∧ (d.table? "CFF ").isSome ∧ d.HasHead ∧ d.HasHhea ∧ d.HasGlyphs := by
  have htables : (match Directory.ofFile curvesFile 0 with
      | .ok d => (d.table? "glyf").isNone && (d.table? "CFF ").isSome &&
          ((d.table? "head").bind Head.read?).isSome &&
          ((d.table? "hhea").bind Hhea.read?).isSome &&
          ((d.table? "maxp").bind glyphCount?).isSome
      | .error _ => false) = true := by
    decide +kernel
  cases hd : Directory.ofFile curvesFile 0 with
  | error cause =>
    rw [hd] at htables
    cases htables
  | ok d =>
    simp only [hd, Bool.and_eq_true, Option.isNone_iff_eq_none, Directory.isSome_head,
      Directory.isSome_hhea, Directory.isSome_maxp] at htables
    obtain ⟨⟨⟨⟨hglyphs, hcurves⟩, hhead⟩, hhhea⟩, hmaxp⟩ := htables
    exact ⟨d, rfl, hglyphs, hcurves, hhead, hhhea, hmaxp⟩

/-- Two fonts that differ in their outlines give the same face, and three bytes are refused. -/
theorem read_regardless_of_outlines_in_curves :
    (∃ font, read .bold curvesFile = .ok font) ∧
      read .bold glyphsFile =
        (read .bold curvesFile).map (fun font => { font with data := glyphsFile }) ∧
      ¬ HasFont ⟨#[1, 2, 3]⟩ 0 ∧ ∃ cause, read .bold ⟨#[1, 2, 3]⟩ = .error cause := by
  obtain ⟨d, hd, -, -, htables⟩ := exists_curvesFile
  obtain ⟨hread, -, -, hsame⟩ := read_regardless_of_outlines .bold curvesFile
  obtain ⟨-, hrefused, -⟩ := read_regardless_of_outlines .bold ⟨#[1, 2, 3]⟩
  have hboth :
      (Directory.ofFile glyphsFile 0).toOption.map (("fvar" :: FaceTables.tags).map ·.table?) =
        (Directory.ofFile curvesFile 0).toOption.map
          (("fvar" :: FaceTables.tags).map ·.table?) := by
    decide +kernel
  have hfixed : (Directory.ofFile curvesFile 0).toOption.bind (·.table? "fvar") = none := by
    decide +kernel
  rw [hd] at hboth hfixed
  have hnone : ¬ HasFont ⟨#[1, 2, 3]⟩ 0 := by
    rw [← exists_ofFile_iff]
    rintro ⟨d, hd⟩
    cases hd
  cases hd' : Directory.ofFile glyphsFile 0 with
  | error cause =>
    rw [hd'] at hboth
    cases hboth
  | ok d' =>
    rw [hd'] at hboth
    have hagree := List.map_inj_left.mp (Option.some.inj hboth)
    have hfixed' : d'.table? "fvar" = none := (hagree "fvar" List.mem_cons_self).trans hfixed
    obtain ⟨cause, hcause, -⟩ := hrefused hnone
    refine ⟨hread.mpr ⟨d, hd, htables⟩, ?_, hnone, cause, hcause⟩
    exact hsame glyphsFile d d' hd hd' hfixed hfixed' fun tag htag =>
      hagree tag (List.mem_cons_of_mem _ htag)

/-- A file without glyphs is read as a face, and put into a document as the file of a font of
this kind. -/
theorem read_without_outlines :
    ∃ d font, Directory.ofFile curvesFile 0 = .ok d ∧ d.table? "glyf" = none ∧
      (d.table? "CFF ").isSome ∧ read .normal curvesFile = .ok font ∧
      ∃ id, (Pdf.Canvas.new (.shared (.trueType font))).table.Registers id (.trueType font) := by
  obtain ⟨d, hd, hglyphs, hcurves, htables⟩ := exists_curvesFile
  obtain ⟨font, hfont⟩ := exists_readAt_iff.mpr ⟨d, hd, htables⟩
  obtain ⟨u, -, hbehind, -⟩ := Pdf.stored_face (.shared (.trueType font)) .normal
  exact ⟨d, font, hd, hglyphs, hcurves, (read_eq_readAt .normal curvesFile).trans hfont,
    _, Pdf.registers_addFace hbehind⟩

end TrueType

end TaggedPage.Font
