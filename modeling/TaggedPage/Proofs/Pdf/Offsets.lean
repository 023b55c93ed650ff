import TaggedPage.Proofs.Pdf.Graph
import TaggedPage.Proofs.Pipeline.Render

/-! # The offsets of a written document

A reader of a written document begins at its end. There stands the offset of a stream that has an
entry for every object, itself included: seven bytes, of which the first one says that the object
is in use and the next four are its offset. At this offset the written form of the object begins.

Objects are written and their offsets are noted in one walk (`exists_offset_of_writeAll`). Entries
are found by the numbers of their objects, which for this have to run from one on without a gap,
as those of every canvas do (`Canvas.document_indexed`).
-/

namespace TaggedPage

namespace Pdf

/-! ## Places in a file -/

/-- The bytes stand in a file from an offset on. -/
def StandsAt (file : List UInt8) (offset : Nat) (bytes : List UInt8) : Prop :=
  bytes <+: file.drop offset

namespace StandsAt

variable {file bytes : List UInt8} {offset : Nat}

theorem prefix_append (before bytes after : List UInt8) :
    StandsAt (before ++ bytes ++ after) before.length bytes := by
  rw [StandsAt, List.append_assoc, List.drop_left]
  exact List.prefix_append bytes after

theorem append_right (h : StandsAt file offset bytes) (after : List UInt8) :
    StandsAt (file ++ after) offset bytes := by
  rw [StandsAt, List.drop_append]
  exact h.trans (List.prefix_append _ _)

theorem lt_length (h : StandsAt file offset bytes) (hbytes : bytes ≠ []) :
    offset < file.length := by
  by_contra hle
  rw [StandsAt, List.drop_eq_nil_of_le (Nat.not_lt.mp hle)] at h
  exact hbytes (List.prefix_nil.mp h)

end StandsAt

/-! ## Objects behind each other -/

theorem writeNumbered_ne_nil (id : Nat) (object : Object) : writeNumbered id object ≠ [] := by
  simp [writeNumbered, ascii]

theorem length_writeAll (offset : Nat) (objects : Numbered) :
    (writeAll offset objects).2.length = objects.length := by
  induction objects generalizing offset with
  | nil => rfl
  | cons entry rest ih => exact congrArg (· + 1) (ih _)

/-- Each object stands at the offset that was noted for it. -/
theorem exists_offset_of_writeAll (before : List UInt8) {objects : Numbered} {i id : Nat}
    {object : Object} (h : objects[i]? = some (id, object)) :
    ∃ offset, (writeAll before.length objects).2[i]? = some offset ∧
      StandsAt (before ++ (writeAll before.length objects).1) offset
        (writeNumbered id object) := by
  induction objects generalizing before i with
  | nil => cases h
  | cons entry rest ih =>
    obtain ⟨n, first⟩ := entry
    rw [writeAll, ← List.append_assoc]
    cases i with
    | zero =>
      obtain ⟨rfl, rfl⟩ := Prod.mk.inj (Option.some.inj h)
      exact ⟨before.length, rfl, .prefix_append before _ _⟩
    | succ i =>
      rw [← List.length_append]
      exact ih (before ++ writeNumbered n first) h

/-! ## Entries -/

/-- The number that bytes spell, the most significant one first. -/
def ofBigEndian (bytes : List UInt8) : Nat := bytes.foldl (fun n b => n * 256 + b.toNat) 0

def entrySize : Nat := 7

/-- The offset of an object in use, from the entries of all objects in the order of their
numbers. -/
def offset? (entries : List UInt8) (id : Nat) : Option Nat :=
  match (entries.drop (entrySize * (id - 1))).take entrySize with
  | 1 :: rest => some (ofBigEndian (rest.take 4))
  | _ => none

@[simp] theorem length_bigEndian (n count : Nat) : (bigEndian n count).length = count := by
  induction count with
  | zero => rfl
  | succ count ih => rw [bigEndian, List.length_cons, ih]

theorem foldl_bigEndian (start n count : Nat) :
    (bigEndian n count).foldl (fun n b => n * 256 + b.toNat) start =
      start * 256 ^ count + n % 256 ^ count := by
  induction count generalizing start with
  | zero => simp [bigEndian, Nat.mod_one]
  | succ count ih =>
    have hdigit : (UInt8.ofNat (n / 256 ^ count % 256)).toNat = n / 256 ^ count % 256 :=
      UInt8.toNat_ofNat_of_lt' (Nat.mod_lt _ (by decide))
    rw [bigEndian, List.foldl_cons, ih, Nat.pow_eq, hdigit, Nat.mod_pow_succ]
    ring

theorem ofBigEndian_bigEndian {n count : Nat} (h : n < 256 ^ count) :
    ofBigEndian (bigEndian n count) = n := by
  rw [ofBigEndian, foldl_bigEndian, Nat.mod_eq_of_lt h]
  omega

@[simp] theorem length_offsetEntry (offset : Nat) : (offsetEntry offset).length = entrySize := by
  simp [offsetEntry, entrySize]

theorem take_drop_entries {offsets : List Nat} {i offset : Nat} (h : offsets[i]? = some offset) :
    ((offsets.flatMap offsetEntry).drop (entrySize * i)).take entrySize = offsetEntry offset := by
  induction offsets generalizing i with
  | nil => cases h
  | cons first rest ih =>
    rw [List.flatMap_cons]
    cases i with
    | zero =>
      obtain rfl := Option.some.inj h
      exact List.take_left' (length_offsetEntry first)
    | succ i =>
      rw [Nat.mul_succ, Nat.add_comm, ← List.drop_drop,
        List.drop_left' (length_offsetEntry first)]
      exact ih h

/-- The offset is read that was written. -/
theorem offset?_flatMap {offsets : List Nat} {i offset : Nat} (h : offsets[i]? = some offset)
    (hsmall : offset < 256 ^ 4) : offset? (offsets.flatMap offsetEntry) (i + 1) = some offset := by
  have htake : (bigEndian offset 4 ++ bigEndian 0 2).take 4 = bigEndian offset 4 :=
    List.take_left' (length_bigEndian offset 4)
  rw [offset?, Nat.add_sub_cancel, take_drop_entries h]
  change some (ofBigEndian ((bigEndian offset 4 ++ bigEndian 0 2).take 4)) = some offset
  rw [htake, ofBigEndian_bigEndian hsmall]

/-! ## Numbers without a gap -/

/-- Where numbers run from one on without a gap, an object stands in the place of its number. -/
theorem Numbered.exists_of_object? {objects : Numbered} {first count id : Nat} {object : Object}
    (hids : objects.ids = List.range' first count) (h : objects.object? id = some object) :
    ∃ i, id = first + i ∧ objects[i]? = some (id, object) := by
  obtain ⟨before, after, rfl, -⟩ := List.lookup_eq_some_iff.mp h
  have hplace : (before ++ (id, object) :: after)[before.length]? = some (id, object) := by
    rw [List.getElem?_append_right le_rfl, Nat.sub_self, List.getElem?_cons_zero]
  refine ⟨before.length, ?_, hplace⟩
  have hid := congrArg (·[before.length]?) hids
  simp only [ids, List.getElem?_map, hplace] at hid
  obtain ⟨hlt, hid⟩ := List.getElem?_eq_some_iff.mp hid.symm
  rw [List.getElem_range', Nat.one_mul] at hid
  exact hid.symm

theorem getD_max?_range' (count : Nat) : (List.range' 1 count).max?.getD 0 = count := by
  cases count with
  | zero => rfl
  | succ count =>
    have hlast : (List.range' 1 (count + 1)).max? = some (count + 1) := by
      simp only [List.max?_eq_some_iff, List.mem_range'_1]
      constructor
      · omega
      · intro n hn
        omega
    rw [hlast, Option.getD_some]

theorem Document.lastId_eq {d : Document} {count : Nat}
    (hids : d.objects.ids = List.range' 1 count) : d.lastId = count := by
  have hmax := getD_max?_range' count
  rwa [← hids] at hmax

/-! ## Written documents -/

/-- What a reader finds in a file, from its end on: the offset of the stream of entries, the
stream, and by its entries every object of the document and the stream again. -/
structure Document.Indexed (d : Document) (file : List UInt8) (start : Nat)
    (offsets : List Nat) : Prop where
  ending : ascii "\nstartxref\n" ++ ascii (toString start) ++ ascii "\n%%EOF" <:+ file
  stream : StandsAt file start
    (writeNumbered (d.lastId + 1) (crossReference d (d.lastId + 1) offsets))
  length : offsets.length = d.lastId + 1
  last : offset? (offsets.flatMap offsetEntry) (d.lastId + 1) = some start
  objects : ∀ id object, d.objects.object? id = some object →
    ∃ offset, offset? (offsets.flatMap offsetEntry) id = some offset ∧
      StandsAt file offset (writeNumbered id object)

/-- The file of a document ends with the stream of the offsets that were noted, and its own. -/
theorem Document.write_eq (d : Document) :
    let body := header ++ (writeAll header.length d.objects).1
    let offsets := (writeAll header.length d.objects).2 ++ [body.length]
    d.write = body ++
      writeNumbered (d.lastId + 1) (crossReference d (d.lastId + 1) offsets) ++
        (ascii "\nstartxref\n" ++ ascii (toString body.length) ++ ascii "\n%%EOF") := by
  simp only [write, List.length_append, List.append_assoc]

/-- A file with offsets of at most four bytes leads to all objects of its document. -/
theorem Document.write_indexed {d : Document} {count : Nat}
    (hids : d.objects.ids = List.range' 1 count) (hsize : d.write.length ≤ 256 ^ 4) :
    ∃ start offsets, d.Indexed d.write start offsets := by
  have hfile := d.write_eq
  generalize hbody : header ++ (writeAll header.length d.objects).1 = body at hfile
  generalize hnoted : (writeAll header.length d.objects).2 = noted at hfile
  have hlength : noted.length = d.lastId := by
    rw [← hnoted, length_writeAll, lastId_eq hids, ← List.length_map, ← Numbered.ids, hids,
      List.length_range']
  have hstream := StandsAt.prefix_append body
    (writeNumbered (d.lastId + 1) (crossReference d (d.lastId + 1) (noted ++ [body.length])))
    (ascii "\nstartxref\n" ++ ascii (toString body.length) ++ ascii "\n%%EOF")
  rw [← hfile] at hstream
  have hread {i offset : Nat} {bytes : List UInt8} (hstands : StandsAt d.write offset bytes)
      (hbytes : bytes ≠ []) (hoffset : (noted ++ [body.length])[i]? = some offset) :
      offset? ((noted ++ [body.length]).flatMap offsetEntry) (i + 1) = some offset :=
    offset?_flatMap hoffset (Nat.lt_of_lt_of_le (hstands.lt_length hbytes) hsize)
  refine ⟨body.length, noted ++ [body.length], ?_, hstream, ?_, ?_, ?_⟩
  · rw [hfile]
    exact List.suffix_append _ _
  · rw [List.length_append, hlength, List.length_singleton]
  · rw [← hlength]
    exact hread hstream (writeNumbered_ne_nil _ _) List.getElem?_concat_length
  · intro id object hobject
    obtain ⟨i, rfl, hplace⟩ := Numbered.exists_of_object? hids hobject
    obtain ⟨offset, hoffset, hstands⟩ := exists_offset_of_writeAll header hplace
    rw [hbody] at hstands
    rw [hnoted] at hoffset
    have hstands : StandsAt d.write offset (writeNumbered (1 + i) object) := by
      rw [hfile, List.append_assoc]
      exact hstands.append_right _
    refine ⟨offset, ?_, hstands⟩
    rw [Nat.add_comm]
    refine hread hstands (writeNumbered_ne_nil _ _) ?_
    rw [List.getElem?_append_left (List.getElem?_eq_some_iff.mp hoffset).1]
    exact hoffset

/-- The numbers of every canvas run from one on, so all objects of its document are found. -/
theorem Canvas.document_indexed (l : Font.Library) (steps : List Step)
    (hsize : ((new l).run steps).document.write.length ≤ 256 ^ 4) :
    ∃ start offsets, ((new l).run steps).document.Indexed
      ((new l).run steps).document.write start offsets :=
  Document.write_indexed (ids_document ((paged_new l).run steps).dense) hsize

end Pdf

/-- Every rendered document of at most four gigabytes leads to all objects of its document. -/
theorem Pipeline.render_indexed (p : Pipeline) (text : List Char) :
    ∃ bytes, p.render text = .ok bytes ∧
      (bytes.length ≤ 256 ^ 4 → ∃ start offsets,
        (p.document text).Indexed bytes start offsets) :=
  ⟨_, p.render_eq text, Pdf.Canvas.document_indexed p.fonts _⟩

end TaggedPage
