import TaggedPage.Proofs.Pdf.Fonts
import TaggedPage.Proofs.Pdf.Operations

/-! # The graph of a document

Objects name each other by their numbers. The numbers of the resources, of the list of pages
and of the catalog are given out before anything refers to them, and filled when the document
is finished. Until then every reference in a table leads either to one of these three or to an
object that is stored already (`Table.Dense`). A page takes two numbers when it is closed, one
for its content and the next one for itself, so the pages of a run can be counted off behind
the faces (`Canvas.Paged`).
-/

namespace TaggedPage.Pdf

open Font (Library Face)
open Layout (Placement)
open Table (Extends)

/-! ## References -/

namespace Object

mutual

/-- The numbers that an object refers to. -/
def references : Object → List Nat
  | .array items => itemReferences items
  | .dictionary entries => entryReferences entries
  | .stream entries _ => entryReferences entries
  | .reference id => [id]
  | _ => []

def itemReferences : List Object → List Nat
  | [] => []
  | item :: rest => references item ++ itemReferences rest

def entryReferences : List (String × Object) → List Nat
  | [] => []
  | (_, value) :: rest => references value ++ entryReferences rest

end

theorem itemReferences_eq (items : List Object) :
    itemReferences items = items.flatMap references := by
  induction items with
  | nil => rfl
  | cons item rest ih => rw [itemReferences, ih, List.flatMap_cons]

theorem entryReferences_append (entries others : Entries) :
    entryReferences (entries ++ others) = entryReferences entries ++ entryReferences others := by
  induction entries with
  | nil => rfl
  | cons entry rest ih =>
    rw [List.cons_append, entryReferences, entryReferences, ih, List.append_assoc]

/-- The length behind the entries of a stream refers to nothing. -/
theorem references_ofData (entries : Entries) (data : List UInt8) :
    (ofData entries data).references = entryReferences entries := by
  rw [ofData, references, entryReferences_append]
  simp [entryReferences, references]

end Object

open Object (references itemReferences itemReferences_eq entryReferences references_ofData)

/-! ## Numbers -/

namespace Numbered

def ids (objects : Numbered) : List Nat := objects.map (·.1)

theorem isSome_object? {objects : Numbered} {id : Nat} :
    (objects.object? id).isSome = true ↔ id ∈ objects.ids := by
  induction objects with
  | nil => simp [object?, ids]
  | cons entry rest ih =>
    obtain ⟨n, object⟩ := entry
    rw [object?_cons, ids, List.map_cons, List.mem_cons]
    split
    · next h => simp [h]
    · next h => exact ⟨fun hs => .inr (ih.mp hs), fun hm => ih.mpr (hm.resolve_left h)⟩

theorem insert_cons_of_gt {n id : Nat} (object known : Object) (rest : Numbered) (h : n < id) :
    insert id object ((n, known) :: rest) = (n, known) :: rest.insert id object := by
  rw [insert, if_neg (by omega), if_neg (by omega)]

/-- An object goes behind those with lower numbers. -/
theorem insert_of_gt {objects : Numbered} {id : Nat} (object : Object)
    (h : ∀ n ∈ objects.ids, n < id) : objects.insert id object = objects ++ [(id, object)] := by
  induction objects with
  | nil => rfl
  | cons entry rest ih =>
    obtain ⟨n, known⟩ := entry
    rw [insert_cons_of_gt object known rest (h n List.mem_cons_self),
      ih fun m hm => h m (List.mem_cons_of_mem n hm), List.cons_append]

/-- An object goes in front of those with higher numbers. -/
theorem insert_of_lt {objects : Numbered} {id : Nat} (object : Object)
    (h : ∀ n ∈ objects.ids, id < n) : objects.insert id object = (id, object) :: objects := by
  cases objects with
  | nil => rfl
  | cons entry rest => exact if_pos (h entry.1 List.mem_cons_self)

/-- The three objects kept for the end go to the front. -/
theorem insert_reserved {objects : Numbered} (h : ∀ n ∈ objects.ids, catalogId < n)
    (resources tree catalog : Object) :
    ((objects.insert resourcesId resources).insert pagesId tree).insert catalogId catalog =
      (resourcesId, resources) :: (pagesId, tree) :: (catalogId, catalog) :: objects := by
  have hpages : pagesId < catalogId := by decide
  have hresources : resourcesId < pagesId := by decide
  rw [insert_of_lt resources fun n hn => (hresources.trans hpages).trans (h n hn),
    insert_cons_of_gt tree resources objects hresources,
    insert_of_lt tree fun n hn => hpages.trans (h n hn),
    insert_cons_of_gt catalog resources _ (hresources.trans hpages),
    insert_cons_of_gt catalog tree objects hpages, insert_of_lt catalog h]

end Numbered

namespace Table

/-- A table in which all numbers given out have an object, except for the first three, and
whose objects refer to no other numbers than these. -/
structure Dense (t : Table) : Prop where
  reserved : catalogId < t.next
  ids : t.objects.ids = List.range' (catalogId + 1) (t.next - (catalogId + 1))
  references : ∀ entry ∈ t.objects, ∀ id ∈ entry.2.references, 0 < id ∧ id < t.next

theorem Dense.mem_ids {t : Table} (h : t.Dense) {id : Nat} :
    id ∈ t.objects.ids ↔ catalogId < id ∧ id < t.next := by
  have hreserved := h.reserved
  rw [h.ids, List.mem_range'_1]
  omega

theorem Dense.objects_add {t : Table} (h : t.Dense) (object : Object) :
    (t.add object).2.objects = t.objects ++ [(t.next, object)] :=
  Numbered.insert_of_gt object fun _ hn => (h.mem_ids.mp hn).2

/-- A further object may refer to everything that has a number already. -/
theorem Dense.add {t : Table} (h : t.Dense) {object : Object}
    (hobject : ∀ id ∈ object.references, 0 < id ∧ id < t.next) : (t.add object).2.Dense := by
  have hreserved := h.reserved
  refine ⟨Nat.lt_succ_of_lt hreserved, ?_, ?_⟩
  · have hnext : t.next + 1 - (catalogId + 1) = t.next - (catalogId + 1) + 1 := by omega
    have hlast : catalogId + 1 + (t.next - (catalogId + 1)) = t.next := by omega
    have hids := h.ids
    unfold Numbered.ids at hids ⊢
    rw [h.objects_add, List.map_append, hids, next_add, hnext, List.range'_1_concat, hlast]
    rfl
  · intro entry hentry id hid
    rw [next_add]
    rw [h.objects_add, List.mem_append, List.mem_singleton] at hentry
    rcases hentry with hentry | rfl
    · have := h.references entry hentry id hid
      omega
    · have := hobject id hid
      omega

end Table

/-! ## Faces -/

theorem addFace_dense {t : Table} (h : t.Dense) (face : Face) : (addFace t face).2.Dense := by
  cases face with
  | standard font =>
    refine h.add fun id hid => ?_
    simp [standardDictionary, references, entryReferences] at hid
  | trueType font =>
    have hreserved := h.reserved
    have hfile : (t.add (fontFile font)).2.Dense := by
      refine h.add fun id hid => ?_
      rw [fontFile, references_ofData] at hid
      simp [references, entryReferences] at hid
    have hdescriptor : ((t.add (fontFile font)).2.add (fontDescriptor font t.next)).2.Dense := by
      refine hfile.add fun id hid => ?_
      have heq : id = t.next := by
        simpa [fontDescriptor, references, entryReferences, itemReferences] using hid
      rw [heq, Table.next_add]
      omega
    refine hdescriptor.add fun id hid => ?_
    have heq : id = t.next + 1 := by
      simpa [trueTypeDictionary, references, entryReferences, itemReferences_eq] using hid
    rw [heq]
    simp only [Table.next_add]
    omega

theorem addFaces_dense {t : Table} (h : t.Dense) (index : Nat) (faces : List Face) :
    (addFaces t index faces).2.Dense ∧
      ∀ id ∈ entryReferences (addFaces t index faces).1,
        0 < id ∧ id < (addFaces t index faces).2.next := by
  induction faces generalizing t index with
  | nil => exact ⟨h, fun id hid => nomatch hid⟩
  | cons face faces ih =>
    obtain ⟨hdense, hentries⟩ := ih (addFace_dense h face) (index + 1)
    obtain ⟨hle, hlt, -⟩ := object?_addFace t face
    have hext := addFaces_extends (addFace t face).2 (index + 1) faces
    refine ⟨hdense, fun id hid => ?_⟩
    simp only [addFaces, entryReferences, references, List.mem_append, List.mem_singleton] at hid
    rcases hid with rfl | hid
    · have hreserved := h.reserved
      exact ⟨by omega, Nat.lt_of_lt_of_le hlt hext.le⟩
    · exact hentries id hid

/-! ## Pages -/

/-- The table with a page that is closed: its content, and then the page itself. -/
def storePage (t : Table) (page : OpenPage) : Table :=
  ((t.add (.ofData [] (writeContent page.operations))).2.add (pageObject page.size t.next)).2

@[simp] theorem next_storePage (t : Table) (page : OpenPage) :
    (storePage t page).next = t.next + 2 := rfl

theorem storePage_extends (t : Table) (page : OpenPage) : Extends t (storePage t page) :=
  (t.add_extends _).trans (Table.add_extends _ _)

theorem object?_storePage (t : Table) (page : OpenPage) :
    (storePage t page).object? t.next = some (.ofData [] (writeContent page.operations)) ∧
      (storePage t page).object? (t.next + 1) = some (pageObject page.size t.next) := by
  unfold storePage
  constructor
  · rw [Table.object?_add, Table.object?_add, Table.next_add, if_neg (by omega), if_pos rfl]
  · rw [Table.object?_add, Table.next_add, if_pos rfl]

/-- A page refers to its content, to the list of pages and to the resources. -/
theorem storePage_dense {t : Table} (h : t.Dense) (page : OpenPage) :
    (storePage t page).Dense := by
  have hreserved := h.reserved
  have hcontent : (t.add (.ofData [] (writeContent page.operations))).2.Dense := by
    refine h.add fun id hid => ?_
    rw [references_ofData] at hid
    cases hid
  refine hcontent.add fun id hid => ?_
  have hcases : id = pagesId ∨ id = t.next ∨ id = resourcesId := by
    simpa [pageObject, references, entryReferences, itemReferences] using hid
  unfold catalogId at hreserved
  unfold pagesId resourcesId at hcases
  rw [Table.next_add]
  omega

namespace Canvas

/-- The closed pages of a canvas stand behind the objects before number `first`, each as its
content and, under the next number, the page itself. -/
structure Paged (c : Canvas) (first : Nat) (closed : List OpenPage) : Prop where
  dense : c.table.Dense
  fonts : ∀ id ∈ entryReferences c.fonts, 0 < id ∧ id < c.table.next
  next : c.table.next = first + 2 * closed.length
  pageIds : c.pageIds = (List.range closed.length).map fun i => first + 2 * i + 1
  stored : ∀ i page, closed[i]? = some page →
    c.table.object? (first + 2 * i) = some (.ofData [] (writeContent page.operations)) ∧
      c.table.object? (first + 2 * i + 1) = some (pageObject page.size (first + 2 * i))

theorem paged_new (l : Library) : (Canvas.new l).Paged (Canvas.new l).table.next [] := by
  have hempty : (⟨4, []⟩ : Table).Dense := ⟨by decide, rfl, List.forall_mem_nil _⟩
  obtain ⟨hdense, hfonts⟩ := addFaces_dense hempty 0 ((usedSlots l).map fun slot => l.faces[slot])
  refine ⟨hdense, hfonts, rfl, rfl, fun i page hpage => ?_⟩
  cases hpage

variable {c : Canvas} {first : Nat} {closed : List OpenPage}

/-- The pages are stored when one more is closed: the earlier ones stay where they are, and
the new one takes the next two numbers. -/
theorem Paged.stored_storePage (h : c.Paged first closed) (page : OpenPage) (i : Nat)
    (p : OpenPage) (hp : (closed ++ [page])[i]? = some p) :
    (storePage c.table page).object? (first + 2 * i) =
        some (.ofData [] (writeContent p.operations)) ∧
      (storePage c.table page).object? (first + 2 * i + 1) =
        some (pageObject p.size (first + 2 * i)) := by
  have hnext := h.next
  by_cases hold : i < closed.length
  · rw [List.getElem?_append_left hold] at hp
    have hext := storePage_extends c.table page
    rw [hext.keeps _ (by omega), hext.keeps _ (by omega)]
    exact h.stored i p hp
  · have hlength := (List.getElem?_eq_some_iff.mp hp).1
    rw [List.length_append, List.length_singleton] at hlength
    obtain rfl : i = closed.length := by omega
    rw [List.getElem?_concat_length] at hp
    obtain rfl := Option.some.inj hp
    rw [← hnext]
    exact object?_storePage c.table page

theorem Paged.closePage (h : c.Paged first closed) :
    c.closePage.Paged first (closed ++ c.page.toList) := by
  cases hpage : c.page with
  | none =>
    have hclose : c.closePage = c := by simp [Canvas.closePage, hpage]
    simpa [hclose] using h
  | some page =>
    have hclose : c.closePage =
        { c with
          table := storePage c.table page
          page := none
          pageIds := c.pageIds ++ [c.table.next + 1] } := by
      simp [Canvas.closePage, hpage, storePage]
    rw [hclose, Option.toList_some]
    refine ⟨storePage_dense h.dense page, fun id hid => ?_, ?_, ?_, h.stored_storePage page⟩
    · have := h.fonts id hid
      simp only [next_storePage]
      omega
    · rw [List.length_append, List.length_singleton, next_storePage, h.next]
      omega
    · rw [List.length_append, List.length_singleton, List.range_succ, List.map_append, h.pageIds,
        h.next]
      rfl

/-- The open page has no part in what is stored. -/
theorem Paged.withPage (h : c.Paged first closed) (page : Option OpenPage) :
    ({ c with page } : Canvas).Paged first closed :=
  ⟨h.dense, h.fonts, h.next, h.pageIds, h.stored⟩

/-- Behind a run, the pages that were closed in it stand behind the earlier ones. -/
theorem Paged.run (h : c.Paged first closed) (steps : List Step) :
    (c.run steps).closePage.Paged first (closed ++ c.closedPages steps) := by
  induction steps generalizing c closed with
  | nil => exact h.closePage
  | cons s steps ih =>
    cases s with
    | page size =>
      rw [closedPages, ← List.append_assoc]
      exact ih (h.closePage.withPage (some { size }))
    | draw p =>
      refine ih ?_
      cases hpage : c.page with
      | none => rwa [step_draw_of_no_page hpage]
      | some page =>
        rw [step_draw_of_page hpage]
        exact h.withPage _

/-! ## The finished document -/

/-- The objects of the finished document in order. -/
theorem objects_document (hdense : c.closePage.table.Dense) :
    c.document.objects =
      (resourcesId, .dictionary [("Font", .dictionary c.closePage.fonts)]) ::
      (pagesId, .dictionary
        [("Type", .name "Pages"),
         ("Kids", .array (c.closePage.pageIds.map .reference)),
         ("Count", .integer c.closePage.pageIds.length)]) ::
      (catalogId, .dictionary [("Type", .name "Catalog"), ("Pages", .reference pagesId)]) ::
      c.closePage.table.objects ++
        [(c.closePage.table.next, .dictionary [("Producer", .string (ascii "tagpress"))])] := by
  have hmem : ∀ n ∈ c.closePage.table.objects.ids, catalogId < n ∧ n < c.closePage.table.next :=
    fun n hn => hdense.mem_ids.mp hn
  change Numbered.insert c.closePage.table.next _ (Numbered.insert catalogId _
    (Numbered.insert pagesId _ (Numbered.insert resourcesId _ c.closePage.table.objects))) = _
  rw [Numbered.insert_reserved fun n hn => (hmem n hn).1]
  refine Numbered.insert_of_gt _ fun n hn => ?_
  simp only [Numbered.ids, List.map_cons, List.mem_cons] at hn
  rcases hn with rfl | rfl | rfl | hn
  · exact Nat.lt_trans (by decide) hdense.reserved
  · exact Nat.lt_trans (by decide) hdense.reserved
  · exact hdense.reserved
  · exact (hmem n hn).2

/-- The numbers of the finished document run from one on without a gap. -/
theorem ids_document (hdense : c.closePage.table.Dense) :
    c.document.objects.ids = List.range' 1 c.closePage.table.next := by
  have hreserved := hdense.reserved
  obtain ⟨count, hnext⟩ : ∃ count, c.closePage.table.next = 3 + (count + 1) :=
    ⟨c.closePage.table.next - 4, by unfold catalogId at hreserved; omega⟩
  have hids : c.closePage.table.objects.ids = List.range' 4 count := by
    have hcount : 3 + (count + 1) - (catalogId + 1) = count := by
      unfold catalogId
      omega
    rw [hdense.ids, hnext, hcount]
    rfl
  have hsplit : List.range' 1 (3 + (count + 1)) =
      List.range' 1 3 ++ (List.range' 4 count ++ [3 + (count + 1)]) := by
    have hlast : 4 + count = 3 + (count + 1) := by omega
    rw [← List.range'_append_1, ← hlast]
    exact congrArg (List.range' 1 3 ++ ·) List.range'_1_concat
  rw [objects_document hdense, hnext, hsplit, ← hids]
  simp only [Numbered.ids, List.cons_append, List.map_cons, List.map_append, List.map_nil]
  rfl

theorem isSome_object?_document (hdense : c.closePage.table.Dense) {id : Nat} (hpos : 0 < id)
    (hle : id ≤ c.closePage.table.next) : (c.document.objects.object? id).isSome := by
  rw [Numbered.isSome_object?, ids_document hdense, List.mem_range'_1]
  omega

/-- Every reference of the finished document leads to an object. -/
theorem isSome_of_mem_references (h : c.closePage.Paged first closed) :
    ∀ entry ∈ c.document.objects, ∀ id ∈ entry.2.references,
      (c.document.objects.object? id).isSome := by
  have hreserved := h.dense.reserved
  intro entry hentry id hid
  rw [objects_document h.dense] at hentry
  simp only [List.mem_append, List.mem_cons, List.not_mem_nil, or_false] at hentry
  have hbound : 0 < id ∧ id ≤ c.closePage.table.next := by
    rcases hentry with (rfl | rfl | rfl | hentry) | rfl
    · have := h.fonts id (by simpa [references, entryReferences] using hid)
      omega
    · have hkid : id ∈ c.closePage.pageIds := by
        simpa [references, entryReferences, itemReferences_eq] using hid
      rw [h.pageIds] at hkid
      obtain ⟨i, hi, rfl⟩ := List.mem_map.mp hkid
      have hnext := h.next
      rw [List.mem_range] at hi
      omega
    · have heq : id = pagesId := by simpa [references, entryReferences] using hid
      unfold catalogId at hreserved
      unfold pagesId at heq
      omega
    · have := h.dense.references entry hentry id hid
      omega
    · simp [references, entryReferences] at hid
  exact isSome_object?_document h.dense hbound.1 hbound.2

theorem catalog_document (hdense : c.closePage.table.Dense) :
    c.document.objects.object? catalogId =
      some (.dictionary [("Type", .name "Catalog"), ("Pages", .reference pagesId)]) := by
  rw [object?_document, if_neg hdense.reserved.ne, if_pos rfl]

/-- The list of pages names the closed ones in order. -/
theorem Paged.tree_document (h : c.closePage.Paged first closed) :
    c.document.objects.object? pagesId =
      some (.dictionary
        [("Type", .name "Pages"),
         ("Kids", .array ((List.range closed.length).map fun i => .reference (first + 2 * i + 1))),
         ("Count", .integer closed.length)]) := by
  have hlt : pagesId < c.closePage.table.next := Nat.lt_trans (by decide) h.dense.reserved
  rw [object?_document, if_neg hlt.ne, if_neg (by decide), if_pos rfl, h.pageIds, List.length_map,
    List.length_range, List.map_map]
  rfl

/-- A closed page and its content are objects of the document. -/
theorem Paged.page_document (h : c.closePage.Paged first closed) (hfirst : catalogId < first)
    {i : Nat} {page : OpenPage} (hpage : closed[i]? = some page) :
    c.document.objects.object? (first + 2 * i) =
        some (.ofData [] (writeContent page.operations)) ∧
      c.document.objects.object? (first + 2 * i + 1) =
        some (pageObject page.size (first + 2 * i)) := by
  have hi := (List.getElem?_eq_some_iff.mp hpage).1
  have hnext := h.next
  rw [object?_document_of_stored (by omega) (by omega),
    object?_document_of_stored (by omega) (by omega)]
  exact h.stored i page hpage

/-- The trailer refers to the catalog and to the information about the document. -/
theorem references_crossReference (d : Document) (id : Nat) (offsets : List Nat) :
    (crossReference d id offsets).references = [d.catalog, d.info] := by
  rw [crossReference, references_ofData]
  simp [references, entryReferences, itemReferences]

end Canvas

/-! ## The calls -/

def Step.size? : Step → Option PageSize
  | .page size => some size
  | .draw _ => none

/-- There is one sheet for every page begun. -/
theorem sizes_sheets (steps : List Step) :
    (sheets steps).map (·.1) = steps.filterMap Step.size? := by
  induction steps with
  | nil => rfl
  | cons s steps ih =>
    cases s with
    | page size => exact congrArg (size :: ·) ih
    | draw p => exact ih

namespace OpenPage

/-- The fonts selected on a page are those of variants. -/
theorem exists_variant_of_setFont (nameOf : Variant → String) (size : PageSize)
    (texts : List Placement) :
    ∀ o ∈ (OpenPage.drawAll nameOf { size } texts).operations, o.operator = "Tf" →
      ∀ name, .name name ∈ o.operands → ∃ v, name = nameOf v := by
  refine forall_mem_drawAll_new nameOf size fun p _ o ho htf name hname => ?_
  rcases mem_textObject.mp ho with rfl | rfl | rfl | rfl | rfl | rfl
  · simp [Operation.beginText] at htf
  · exact ⟨p.variant, by simpa [Operation.setFont] using hname⟩
  · simp [Operation.setFill] at htf
  · simp [Operation.moveTo] at htf
  · simp [Operation.showString] at htf
  · simp [Operation.endText] at htf

end OpenPage

/-- The document of a run is a graph without loose ends. Its numbers are distinct, the three
that were kept for the end are filled, and every reference of an object or of the trailer leads
to an object. The list of pages has one page for every page begun, in the order of the calls;
each of them has the size of the call and a content of its own, made of the texts that were
drawn while the page was open. Every font selected in a content is one of the shared
resources. -/
theorem document_graph (l : Library) (steps : List Step) :
    let d := ((Canvas.new l).run steps).document
    (Canvas.sink.finish ((Canvas.new l).run steps)).1 = .ok d.write ∧
    d.objects.ids.Nodup ∧
    (∀ id ∈ [resourcesId, pagesId, catalogId], (d.objects.object? id).isSome) ∧
    (∀ entry ∈ d.objects, ∀ id ∈ entry.2.references, (d.objects.object? id).isSome) ∧
    (∀ own offsets, ∀ id ∈ (crossReference d own offsets).references,
      (d.objects.object? id).isSome) ∧
    (sheets steps).map (·.1) = steps.filterMap Step.size? ∧
    ∃ first fonts,
      d.objects.object? d.catalog =
        some (.dictionary [("Type", .name "Catalog"), ("Pages", .reference pagesId)]) ∧
      d.objects.object? pagesId =
        some (.dictionary
          [("Type", .name "Pages"),
           ("Kids", .array
             ((List.range (sheets steps).length).map fun i => .reference (first + 2 * i + 1))),
           ("Count", .integer (sheets steps).length)]) ∧
      d.objects.object? resourcesId = some (.dictionary [("Font", .dictionary fonts)]) ∧
      ∀ i size texts, (sheets steps)[i]? = some (size, texts) →
        let operations := (OpenPage.drawAll (fontName l) { size } texts).operations
        d.objects.object? (first + 2 * i) = some (.ofData [] (writeContent operations)) ∧
        d.objects.object? (first + 2 * i + 1) =
          some (.dictionary
            [("Type", .name "Page"),
             ("Parent", .reference pagesId),
             ("MediaBox", .array [.real 0.0, .real 0.0, .real size.width, .real size.height]),
             ("Contents", .reference (first + 2 * i)),
             ("Resources", .reference resourcesId)]) ∧
        ∀ o ∈ operations, o.operator = "Tf" → ∀ name, .name name ∈ o.operands →
          ∃ id, fonts.lookup name = some (.reference id) := by
  intro d
  have hpaged := (Canvas.paged_new l).run steps
  rw [List.nil_append, Canvas.closedPages_new] at hpaged
  have hreserved := hpaged.dense.reserved
  have hsome : ∀ id, 0 < id → id ≤ ((Canvas.new l).run steps).closePage.table.next →
      (d.objects.object? id).isSome := fun _ => Canvas.isSome_object?_document hpaged.dense
  have htree := hpaged.tree_document
  rw [List.length_map] at htree
  refine ⟨rfl, ?_, fun id hid => ?_, Canvas.isSome_of_mem_references hpaged,
    fun own offsets id hid => ?_, sizes_sheets steps, (Canvas.new l).table.next,
    (Canvas.new l).fonts, Canvas.catalog_document hpaged.dense, htree,
    Canvas.resources_document l steps, fun i size texts hsheet => ?_⟩
  · rw [Canvas.ids_document hpaged.dense]
    exact List.nodup_range' 1
  · have hbound : 0 < id ∧ id ≤ catalogId := by
      simp only [List.mem_cons, List.not_mem_nil, or_false] at hid
      rcases hid with rfl | rfl | rfl <;> decide
    exact hsome id hbound.1 (hbound.2.trans hreserved.le)
  · rw [Canvas.references_crossReference, List.mem_pair] at hid
    rcases hid with rfl | rfl
    · exact hsome catalogId (by decide) hreserved.le
    · exact hsome _ (Nat.zero_lt_of_lt hreserved) le_rfl
  · have hclosed := congrArg (Option.map fun sheet : PageSize × List Placement =>
      OpenPage.drawAll (fontName l) { size := sheet.1 } sheet.2) hsheet
    rw [← List.getElem?_map, Option.map_some] at hclosed
    obtain ⟨hcontent, hobject⟩ :=
      hpaged.page_document (Canvas.paged_new l).dense.reserved hclosed
    rw [OpenPage.size_drawAll] at hobject
    refine ⟨hcontent, hobject, fun o ho htf name hname => ?_⟩
    obtain ⟨v, rfl⟩ :=
      OpenPage.exists_variant_of_setFont (fontName l) size texts o ho htf name hname
    obtain ⟨id, -, hlookup, -⟩ := Canvas.font?_document l steps v
    exact ⟨id, hlookup⟩

/-- A text drawn before the first page leaves nothing behind, and the font of the one drawn on
that page is found. -/
theorem document_graph_two_pages :
    let text : Placement := ⟨['a'], 0.0, 0.0, .normal, 12.0, .black⟩
    let size : PageSize := ⟨100.0, 50.0⟩
    let d := ((Canvas.new .standard).run
      [.draw text, .page .a4, .draw text, .page size]).document
    ∃ first fonts id,
      d.objects.object? pagesId =
        some (.dictionary
          [("Type", .name "Pages"),
           ("Kids", .array [.reference (first + 1), .reference (first + 3)]),
           ("Count", .integer 2)]) ∧
      d.objects.object? (first + 2) = some (.ofData [] []) ∧
      d.objects.object? resourcesId = some (.dictionary [("Font", .dictionary fonts)]) ∧
      fonts.lookup "F1" = some (.reference id) := by
  intro text size d
  obtain ⟨-, -, -, -, -, -, first, fonts, -, hpages, hfonts, hsheets⟩ :=
    document_graph .standard [.draw text, .page .a4, .draw text, .page size]
  obtain ⟨-, -, hselected⟩ := hsheets 0 .a4 [text] rfl
  obtain ⟨hcontent, -⟩ := hsheets 1 size [] rfl
  have hname : fontName .standard .normal = "F1" := by decide +kernel
  have hmem : Operation.setFont (fontName .standard .normal) 12.0 ∈
      (OpenPage.drawAll (fontName .standard) { size := .a4 } [text]).operations :=
    List.mem_cons_of_mem _ List.mem_cons_self
  rw [hname] at hmem
  obtain ⟨id, hid⟩ := hselected _ hmem rfl "F1" List.mem_cons_self
  exact ⟨first, fonts, id, hpages, hcontent, hfonts, hid⟩

end TaggedPage.Pdf
