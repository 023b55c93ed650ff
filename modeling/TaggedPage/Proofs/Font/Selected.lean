import TaggedPage.Font.Installed
import TaggedPage.Proofs.Font.Readable

/-! # Selected faces

A query by family selects one of the installed faces for each variant: a file, and the index of
a face in it (`of_query?`). What is read then is the first face of that file. So a variant has
the face that was selected for it as long as this is the first one of its file, which it always
is unless the file is a collection (`family_reads_first_faces`). Of a collection a later face
may be selected; its variant has the name, the advances and the metrics of the first one, even
where that is of another family (`family_reads_another_face`).
-/

namespace TaggedPage.Font

variable {installed : List Installed} {family : List Char} {v : Variant} {found : Installed}

/-! ## Selecting -/

theorem bestMatch?_mem {wish : Wish} (h : bestMatch? wish installed = some found) :
    found ∈ installed := by
  obtain ⟨width, -, h⟩ := Option.bind_eq_some_iff.mp h
  obtain ⟨slant, -, h⟩ := Option.bind_eq_some_iff.mp h
  obtain ⟨weight, -, h⟩ := Option.bind_eq_some_iff.mp h
  have hslant := List.mem_of_find?_eq_some h
  have hwidth := List.mem_of_mem_filter hslant
  exact List.mem_of_mem_filter hwidth

/-- The selected face is an installed one of the family. -/
theorem of_query? (h : query? installed family v = some found) :
    found ∈ installed ∧ family ∈ found.families := by
  obtain ⟨hmem, hfamily⟩ := List.mem_filter.mp (bestMatch?_mem h)
  exact ⟨hmem, List.contains_iff_mem.mp hfamily⟩

/-- The only face of a family is selected for every wish. -/
theorem bestMatch?_singleton (wish : Wish) (face : Installed) :
    bestMatch? wish [face] = some face := by
  have hnearest (preferred : Nat → Bool) (wanted n : Nat) :
      nearest? preferred wanted [n] = some n := by
    by_cases h : preferred n <;> simp [nearest?, least?, h]
  have hwidth : chosenWidth? [face.width] = some face.width := hnearest _ _ _
  have hslant : wish.slant.preferences.find? (fun s => decide (face.slant = s)) =
      some face.slant := by
    cases wish.slant <;> cases face.slant <;> decide
  have hweight : chosenWeight? wish.weight [face.weight] = some face.weight := by
    rw [chosenWeight?]
    split
    · next h => simpa using h
    split
    · split
      · next h => simpa using h
      · exact hnearest _ _ _
    · exact hnearest _ _ _
  simp [bestMatch?, hwidth, hslant, hweight]

namespace Installed

theorem of_describe? {data : ByteArray} {index : Nat} (h : describe? data index = some found) :
    found.data = data ∧ found.index = index := by
  obtain ⟨d, -, h⟩ := Option.bind_eq_some_iff.mp h
  obtain ⟨table, -, h⟩ := Option.bind_eq_some_iff.mp h
  obtain ⟨names, -, h⟩ := Option.bind_eq_some_iff.mp h
  dsimp only at h
  split at h
  · cases h
  · obtain rfl := Option.some.inj h
    exact ⟨rfl, rfl⟩

/-- An installed face is described by a file and the index of a face in it. -/
theorem of_mem_ofFiles {files : List ByteArray} (h : found ∈ ofFiles files) :
    found.data ∈ files ∧ found.index < faceCount found.data ∧
      describe? found.data found.index = some found := by
  obtain ⟨data, hdata, h⟩ := List.mem_flatMap.mp h
  obtain ⟨index, hindex, h⟩ := List.mem_filterMap.mp h
  obtain ⟨rfl, rfl⟩ := of_describe? h
  exact ⟨hdata, List.mem_range.mp hindex, h⟩

end Installed

/-! ## Reading -/

theorem familyFace_eq_ok_iff {face : Face} : familyFace installed family v = .ok face ↔
    ∃ found font, query? installed family v = some found ∧
      TrueType.readAt v found.data 0 = .ok font ∧ face = .trueType font := by
  simp only [← TrueType.read_eq_readAt]
  rw [familyFace]
  cases hquery : query? installed family v with
  | none => simp
  | some found =>
    cases hread : TrueType.read v found.data with
    | error cause => simp [hread]
    | ok font => simp [hread, eq_comm]

/-- A library of a family is made of the faces that are read for the variants. -/
theorem Library.ofFamily_eq_ok_iff {l : Library} : Library.ofFamily installed family = .ok l ↔
    ∃ faceOf, (∀ v, familyFace installed family v = .ok (faceOf v)) ∧
      l = Library.ofFaces faceOf := by
  constructor
  · intro h
    obtain ⟨normal, hnormal, h⟩ := bind_eq_ok h
    obtain ⟨bold, hbold, h⟩ := bind_eq_ok h
    obtain ⟨italic, hitalic, h⟩ := bind_eq_ok h
    obtain ⟨boldItalic, hboldItalic, h⟩ := bind_eq_ok h
    refine ⟨_, fun v => ?_, (Except.ok.inj h).symm⟩
    cases v with
    | normal => exact hnormal
    | bold => exact hbold
    | italic => exact hitalic
    | boldItalic => exact hboldItalic
  · rintro ⟨faceOf, hfaces, rfl⟩
    rw [Library.ofFamily, hfaces, hfaces, hfaces, hfaces]
    rfl

/-- A library of a family is made exactly if a face is selected for every variant and the first
face of its file can be read; that is the face of the variant. It is the selected face itself if
that is the first one, and so whenever the file holds a single font. -/
theorem family_reads_first_faces (files : List ByteArray) (family : List Char) :
    let installed := Installed.ofFiles files
    ((∃ l, Library.ofFamily installed family = .ok l) ↔
      ∀ v, ∃ found font, query? installed family v = some found ∧
        TrueType.readAt v found.data 0 = .ok font) ∧
    ∀ l, Library.ofFamily installed family = .ok l → ∀ v, ∃ found font,
      query? installed family v = some found ∧ found.data ∈ files ∧
      Installed.describe? found.data found.index = some found ∧ family ∈ found.families ∧
      l.face v = .trueType font ∧ TrueType.readAt v found.data 0 = .ok font ∧
      (found.index = 0 ∨ magic? found.data 0 = some .single →
        TrueType.readAt v found.data found.index = .ok font) := by
  intro installed
  constructor
  · simp only [Library.ofFamily_eq_ok_iff, familyFace_eq_ok_iff]
    constructor
    · rintro ⟨l, faceOf, hfaces, -⟩ v
      obtain ⟨found, font, hquery, hread, -⟩ := hfaces v
      exact ⟨found, font, hquery, hread⟩
    · intro h
      choose found font hfound using h
      exact ⟨_, fun v => .trueType (font v), fun v => ⟨found v, font v, (hfound v).1,
        (hfound v).2, rfl⟩, rfl⟩
  · intro l hl v
    obtain ⟨faceOf, hfaces, rfl⟩ := Library.ofFamily_eq_ok_iff.mp hl
    obtain ⟨found, font, hquery, hread, hface⟩ := familyFace_eq_ok_iff.mp (hfaces v)
    obtain ⟨hmem, hfamily⟩ := of_query? hquery
    obtain ⟨hdata, hindex, hdescribed⟩ := Installed.of_mem_ofFiles hmem
    refine ⟨found, font, hquery, hdata, hdescribed, hfamily, ?_, hread, ?_⟩
    · rw [Library.face_ofFaces, hface]
    · intro hfirst
      have hzero : found.index = 0 := by
        rcases hfirst with hzero | hsingle
        · exact hzero
        · rw [faceCount, hsingle] at hindex
          exact Nat.lt_one_iff.mp hindex
      rw [hzero]
      exact hread

/-! ## A collection of two families -/

/-- A table of names in which the family and the face have one letter for a name. -/
def lettersTable (letter : Char) : List UInt8 :=
  let record (purpose : Nat) : List UInt8 := [3, 1, 0x409, purpose, 2, 0].flatMap (bigEndian 2)
  [0, 2, 30].flatMap (bigEndian 2) ++ record familyName ++ record postScriptName ++
    bigEndian 2 letter.toNat

/-- A file of two fonts, of the families `A` and `B`. The second is narrower and lower. -/
def pairFile : ByteArray :=
  let first := fontBytes 20 0x00010000 (plainTables 500 800 ++ [("name", lettersTable 'A')])
  let behind := 20 + first.length
  let second := fontBytes behind 0x00010000 (plainTables 250 700 ++ [("name", lettersTable 'B')])
  ⟨([0x74746366, 0x00010000, 2, 20, behind].flatMap (bigEndian 4) ++ first ++ second).toArray⟩

/-- The two faces of the file. -/
theorem ofFiles_pairFile : ∃ first second, Installed.ofFiles [pairFile] = [first, second] ∧
    first.index = 0 ∧ first.families = [['A']] ∧
    second.index = 1 ∧ second.families = [['B']] := by
  have hfaces : (Installed.ofFiles [pairFile]).map (fun face => (face.index, face.families)) =
      [(0, [['A']]), (1, [['B']])] := by
    decide +kernel
  obtain ⟨first, rest, hofFiles, hfirst, hrest⟩ := List.map_eq_cons_iff.mp hfaces
  obtain ⟨second, last, rfl, hsecond, hlast⟩ := List.map_eq_cons_iff.mp hrest
  obtain rfl := List.map_eq_nil_iff.mp hlast
  obtain ⟨hindex, hfamilies⟩ := Prod.mk.inj hfirst
  obtain ⟨hindex', hfamilies'⟩ := Prod.mk.inj hsecond
  exact ⟨first, second, hofFiles, hindex, hfamilies, hindex', hfamilies'⟩

/-- A query for either family selects its own font of the file. -/
theorem query?_pairFile (v : Variant) :
    (∃ found, query? (Installed.ofFiles [pairFile]) ['A'] v = some found ∧
      found.data = pairFile ∧ found.index = 0) ∧
    ∃ found, query? (Installed.ofFiles [pairFile]) ['B'] v = some found ∧
      found.data = pairFile ∧ found.index = 1 := by
  obtain ⟨first, second, hfaces, hfirst, hA, hsecond, hB⟩ := ofFiles_pairFile
  have hdata (face : Installed) (h : face ∈ Installed.ofFiles [pairFile]) :
      face.data = pairFile :=
    List.mem_singleton.mp (Installed.of_mem_ofFiles h).1
  rw [hfaces] at hdata ⊢
  refine ⟨⟨first, ?_, hdata first (by simp), hfirst⟩, second, ?_, hdata second (by simp), hsecond⟩
  · have honly : [first, second].filter (·.families.contains ['A']) = [first] := by simp [hA, hB]
    rw [query?, honly, bestMatch?_singleton]
  · have honly : [first, second].filter (·.families.contains ['B']) = [second] := by simp [hA, hB]
    rw [query?, honly, bestMatch?_singleton]

/-- The tables of the two fonts, as far as they are told apart. -/
theorem readAt_tables_pairFile : ∃ first second,
    FaceTables.readAt pairFile 0 = .ok first ∧ FaceTables.readAt pairFile 1 = .ok second ∧
      (∀ v, embeddedName first.names v = "A" ∧ embeddedName second.names v = "B") ∧
      first.codeAdvance 65 = 500 ∧ second.codeAdvance 65 = 250 ∧
      second.thousandths second.ascender < first.thousandths first.ascender := by
  have hboth : ((FaceTables.readAt pairFile 0).toOption.bind fun first =>
      (FaceTables.readAt pairFile 1).toOption.map fun second =>
        (Variant.all.map fun v => (embeddedName first.names v, embeddedName second.names v),
          first.codeAdvance 65, second.codeAdvance 65,
          decide (second.thousandths second.ascender < first.thousandths first.ascender))) =
      some (Variant.all.map fun _ => ("A", "B"), 500, 250, true) := by
    decide +kernel
  cases hfirst : FaceTables.readAt pairFile 0 with
  | error cause =>
    rw [hfirst] at hboth
    cases hboth
  | ok first =>
    cases hsecond : FaceTables.readAt pairFile 1 with
    | error cause =>
      rw [hfirst, hsecond] at hboth
      cases hboth
    | ok second =>
      rw [hfirst, hsecond] at hboth
      obtain ⟨hnames, hadvances⟩ := Prod.mk.inj (Option.some.inj hboth)
      obtain ⟨hwide, hnarrow, hlower⟩ : _ ∧ _ ∧ _ := by simpa using hadvances
      refine ⟨first, second, rfl, rfl, fun v => ?_, hwide, hnarrow, hlower⟩
      exact Prod.mk.inj (List.map_inj_left.mp hnames v v.mem_all)

/-- The two fonts of the file as faces. -/
theorem readAt_pairFile (v : Variant) : ∃ first second,
    TrueType.readAt v pairFile 0 = .ok first ∧ TrueType.readAt v pairFile 1 = .ok second ∧
      first.name = "A" ∧ second.name = "B" ∧ first.codeWidth 65 = 500 ∧
      second.codeWidth 65 = 250 ∧ second.ascent < first.ascent := by
  obtain ⟨first, second, hfirst, hsecond, hnames, hwide, hnarrow, hlower⟩ := readAt_tables_pairFile
  refine ⟨.ofTables v pairFile first, .ofTables v pairFile second, ?_, ?_, (hnames v).1,
    (hnames v).2, ?_, ?_, hlower⟩
  · rw [TrueType.readAt, hfirst]
    rfl
  · rw [TrueType.readAt, hsecond]
    rfl
  · rw [TrueType.codeWidth_ofTables _ _ _ (by decide), hwide]
  · rw [TrueType.codeWidth_ofTables _ _ _ (by decide), hnarrow]

/-- The family of the first font of a collection has the faces that were selected for it. -/
theorem family_reads_first_faces_of_pair : ∃ l,
    Library.ofFamily (Installed.ofFiles [pairFile]) ['A'] = .ok l ∧ ∀ v, ∃ found font,
      query? (Installed.ofFiles [pairFile]) ['A'] v = some found ∧ found.index = 0 ∧
        l.face v = .trueType font ∧ TrueType.readAt v found.data found.index = .ok font := by
  obtain ⟨hloads, hfaces⟩ := family_reads_first_faces [pairFile] ['A']
  obtain ⟨l, hl⟩ := hloads.mpr fun v => by
    obtain ⟨⟨found, hfound, hdata, -⟩, -⟩ := query?_pairFile v
    obtain ⟨first, -, hfirst, -⟩ := readAt_pairFile v
    exact ⟨found, first, hfound, hdata ▸ hfirst⟩
  refine ⟨l, hl, fun v => ?_⟩
  obtain ⟨⟨found, hfound, -, hindex⟩, -⟩ := query?_pairFile v
  obtain ⟨selected, font, hselected, -, -, -, hface, -, hread⟩ := hfaces l hl v
  obtain rfl := Option.some.inj (hfound.symm.trans hselected)
  exact ⟨found, font, hfound, hindex, hface, hread (.inl hindex)⟩

/-- Every variant of the other family has a face of the first one, although its own is another
one in name, advances and ascent. -/
theorem family_reads_another_face : ∃ l,
    Library.ofFamily (Installed.ofFiles [pairFile]) ['B'] = .ok l ∧ ∀ v, ∃ found font selected,
      query? (Installed.ofFiles [pairFile]) ['B'] v = some found ∧ found.index = 1 ∧
        l.face v = .trueType font ∧
        TrueType.readAt v found.data found.index = .ok selected ∧
        font.name = "A" ∧ selected.name = "B" ∧
        font.codeWidth 65 = 500 ∧ selected.codeWidth 65 = 250 ∧
        selected.ascent < font.ascent := by
  choose found hfound hdata hindex using fun v => (query?_pairFile v).2
  choose first second hfirst hsecond hmetrics using readAt_pairFile
  have hfaces (v : Variant) : familyFace (Installed.ofFiles [pairFile]) ['B'] v =
      .ok (.trueType (first v)) :=
    familyFace_eq_ok_iff.mpr ⟨found v, first v, hfound v, (hdata v).symm ▸ hfirst v, rfl⟩
  refine ⟨_, Library.ofFamily_eq_ok_iff.mpr ⟨_, hfaces, rfl⟩, fun v => ?_⟩
  refine ⟨found v, first v, second v, hfound v, hindex v, Library.face_ofFaces _ v, ?_, hmetrics v⟩
  rw [hdata, hindex]
  exact hsecond v

end TaggedPage.Font
