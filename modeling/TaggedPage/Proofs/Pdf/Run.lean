import TaggedPage.Pdf.Canvas
import TaggedPage.Proofs.Pdf.Table
import Mathlib.Data.List.Forall2

/-! # Runs of a canvas

A canvas is driven by calls of its sink: a page is begun, or a text is drawn. A drawing
call that fails leaves the canvas as it was, so a run goes on behind it.

`Canvas.closedPages` collects the pages of a run as they are closed. They can be told from
the calls alone: each page holds the texts drawn between its beginning and that of the
next page (`closedPages_new`), and the finished document has just these pages, each with
its operations as its content (`contents?_document`).
-/

namespace TaggedPage.Pdf

open Font (Library)
open Layout (Placement)

/-- A call that begins a page or draws a text. -/
inductive Step where
  | page (size : PageSize)
  | draw (p : Placement)

def Step.call : Step → ExceptT RenderError (StateM Canvas) Unit
  | .page size => Canvas.sink.beginPage size
  | .draw p => Canvas.sink.drawText p

namespace Canvas

/-- The canvas behind a call, which may have failed. -/
def step (c : Canvas) (s : Step) : Canvas := (s.call c).2

def run (c : Canvas) (steps : List Step) : Canvas := steps.foldl step c

@[simp] theorem run_nil (c : Canvas) : c.run [] = c := rfl

@[simp] theorem run_cons (c : Canvas) (s : Step) (steps : List Step) :
    c.run (s :: steps) = (c.step s).run steps := rfl

@[simp] theorem step_page (c : Canvas) (size : PageSize) :
    c.step (.page size) = c.beginPage size := rfl

theorem step_draw_of_page {c : Canvas} {page : OpenPage} (h : c.page = some page)
    (p : Placement) :
    c.step (.draw p) = { c with page := some (page.draw (c.fontName p.variant) p) } := by
  simp [step, Step.call, sink, drawText, h]

/-- A text drawn before any page leaves no trace. -/
theorem step_draw_of_no_page {c : Canvas} (h : c.page = none) (p : Placement) :
    c.step (.draw p) = c := by
  simp [step, Step.call, sink, drawText, h]

/-- The pages that are closed in a run, the last one at its end. -/
def closedPages (c : Canvas) : List Step → List OpenPage
  | [] => c.page.toList
  | .page size :: rest => c.page.toList ++ (c.step (.page size)).closedPages rest
  | .draw p :: rest => (c.step (.draw p)).closedPages rest

end Canvas

/-! ## Pages by their calls -/

/-- The texts drawn before the next page is begun. -/
def drawnFirst : List Step → List Placement
  | .draw p :: rest => p :: drawnFirst rest
  | _ => []

/-- The size of every page begun in a run, with the texts drawn on it. -/
def sheets : List Step → List (PageSize × List Placement)
  | [] => []
  | .page size :: rest => (size, drawnFirst rest) :: sheets rest
  | .draw _ :: rest => sheets rest

/-- A page with texts drawn on it one after the other. -/
def OpenPage.drawAll (nameOf : Variant → String) (page : OpenPage) (ps : List Placement) :
    OpenPage :=
  ps.foldl (fun page p => page.draw (nameOf p.variant) p) page

namespace Canvas

@[simp] theorem fontName_closePage (c : Canvas) : c.closePage.fontName = c.fontName := by
  unfold closePage
  split <;> rfl

@[simp] theorem fontName_beginPage (c : Canvas) (size : PageSize) :
    (c.beginPage size).fontName = c.fontName :=
  c.fontName_closePage

theorem closedPages_eq (c : Canvas) (steps : List Step) :
    c.closedPages steps =
      (c.page.map (·.drawAll c.fontName (drawnFirst steps))).toList ++
        (sheets steps).map fun sheet =>
          OpenPage.drawAll c.fontName { size := sheet.1 } sheet.2 := by
  induction steps generalizing c with
  | nil => cases hpage : c.page <;> simp [closedPages, hpage, drawnFirst, sheets, OpenPage.drawAll]
  | cons s steps ih =>
    cases s with
    | page size =>
      rw [closedPages, ih, step_page, fontName_beginPage]
      cases hpage : c.page <;> simp [beginPage, drawnFirst, sheets, OpenPage.drawAll]
    | draw p =>
      rw [closedPages]
      cases hpage : c.page with
      | none =>
        rw [step_draw_of_no_page hpage, ih, hpage]
        rfl
      | some page =>
        rw [step_draw_of_page hpage, ih]
        rfl

/-- The pages of a new canvas are those that the calls describe. -/
theorem closedPages_new (l : Library) (steps : List Step) :
    (Canvas.new l).closedPages steps =
      (sheets steps).map fun sheet =>
        OpenPage.drawAll (Pdf.fontName l) { size := sheet.1 } sheet.2 :=
  closedPages_eq (Canvas.new l) steps

end Canvas

/-! ## Pages in the document -/

open Table (Extends)

theorem addFace_extends (t : Table) (face : Font.Face) : Extends t (addFace t face).2 := by
  cases face with
  | standard font => exact t.add_extends _
  | trueType font =>
    refine Extends.trans (t.add_extends (fontFile font)) ?_
    refine Extends.trans (Table.add_extends _ (fontDescriptor font t.next)) ?_
    exact Table.add_extends _ _

theorem addFaces_extends (t : Table) (index : Nat) (faces : List Font.Face) :
    Extends t (addFaces t index faces).2 := by
  induction faces generalizing t index with
  | nil => exact Extends.refl t
  | cons face faces ih => exact (addFace_extends t face).trans (ih _ (index + 1))

theorem mapM_bind_mapM {α β γ : Type} {f : α → Option β} {g : β → Option γ} {as : List α}
    {cs : List γ} (h : List.Forall₂ (fun a c => ∃ b, f a = some b ∧ g b = some c) as cs) :
    ((as.mapM f).bind fun bs => bs.mapM g) = some cs := by
  induction h with
  | nil => rfl
  | @cons a c as cs hhead htail ih =>
    obtain ⟨b, hf, hg⟩ := hhead
    obtain ⟨bs, hbs, hcs⟩ := Option.bind_eq_some_iff.mp ih
    simp [List.mapM_cons, hf, hg, hbs, hcs]

/-- A page stands in a table under a number, and its content under another one. The
numbers of the catalog and of what it names directly are used for neither. -/
def Stored (t : Table) (id : Nat) (page : OpenPage) : Prop :=
  ∃ content, catalogId < content ∧ content < t.next ∧ catalogId < id ∧ id < t.next ∧
    t.object? content = some (.ofData [] (writeContent page.operations)) ∧
    t.object? id = some (pageObject page.size content)

theorem Stored.extends {t u : Table} {id : Nat} {page : OpenPage} (h : Stored t id page)
    (hext : Extends t u) : Stored u id page := by
  obtain ⟨content, hcontent, hlt, hid, hidlt, hdata, hpage⟩ := h
  refine ⟨content, hcontent, Nat.lt_of_lt_of_le hlt hext.le, hid,
    Nat.lt_of_lt_of_le hidlt hext.le, ?_, ?_⟩
  · rw [hext.keeps content hlt, hdata]
  · rw [hext.keeps id hidlt, hpage]

namespace Canvas

/-- The closed pages of a canvas are these, and they are stored under its numbers of
pages. -/
structure Filed (c : Canvas) (closed : List OpenPage) : Prop where
  reserved : catalogId < c.table.next
  pages : List.Forall₂ (Stored c.table) c.pageIds closed

theorem filed_new (l : Library) : (Canvas.new l).Filed [] := by
  have hext := addFaces_extends ⟨4, []⟩ 0 ((usedSlots l).map fun slot => l.faces[slot])
  exact ⟨Nat.lt_of_lt_of_le (by decide) hext.le, .nil⟩

theorem Filed.closePage {c : Canvas} {closed : List OpenPage} (h : c.Filed closed) :
    c.closePage.Filed (closed ++ c.page.toList) := by
  cases hpage : c.page with
  | none =>
    have hclose : c.closePage = c := by simp [Canvas.closePage, hpage]
    simpa [hclose] using h
  | some page =>
    let content : Object := .ofData [] (writeContent page.operations)
    let object := pageObject page.size c.table.next
    have hclose : c.closePage =
        { c with
          table := ((c.table.add content).2.add object).2
          page := none
          pageIds := c.pageIds ++ [c.table.next + 1] } := by
      simp [Canvas.closePage, hpage, content, object]
    have hext : Extends c.table ((c.table.add content).2.add object).2 :=
      (c.table.add_extends content).trans (Table.add_extends _ object)
    have hreserved := h.reserved
    rw [hclose]
    refine ⟨Nat.lt_of_lt_of_le hreserved hext.le, ?_⟩
    refine List.rel_append (h.pages.imp fun id p hstored => hstored.extends hext) ?_
    refine .cons ⟨c.table.next, hreserved, ?_, Nat.lt_succ_of_lt hreserved, ?_, ?_, ?_⟩ .nil
    · simp only [Table.next_add]
      omega
    · simp only [Table.next_add]
      omega
    · rw [Table.object?_add, Table.object?_add, Table.next_add, if_neg (by omega), if_pos rfl]
    · rw [Table.object?_add, Table.next_add, if_pos rfl]

theorem Filed.beginPage {c : Canvas} {closed : List OpenPage} (h : c.Filed closed)
    (size : PageSize) : (c.beginPage size).Filed (closed ++ c.page.toList) :=
  ⟨h.closePage.reserved, h.closePage.pages⟩

theorem Filed.draw {c : Canvas} {closed : List OpenPage} (h : c.Filed closed)
    (p : Placement) : (c.step (.draw p)).Filed closed := by
  cases hpage : c.page with
  | none => rwa [step_draw_of_no_page hpage]
  | some page =>
    rw [step_draw_of_page hpage]
    exact ⟨h.reserved, h.pages⟩

/-- Behind a run, the pages that were closed in it are filed behind the earlier ones. -/
theorem Filed.run {c : Canvas} {closed : List OpenPage} (h : c.Filed closed)
    (steps : List Step) : (c.run steps).closePage.Filed (closed ++ c.closedPages steps) := by
  induction steps generalizing c closed with
  | nil => exact h.closePage
  | cons s steps ih =>
    cases s with
    | page size =>
      rw [closedPages, ← List.append_assoc]
      exact ih (h.beginPage size)
    | draw p => exact ih (h.draw p)

/-- The objects of a finished document: its four own ones, and those of the table. -/
theorem object?_document (c : Canvas) (id : Nat) :
    c.document.objects.object? id =
      if id = c.closePage.table.next then
        some (.dictionary [("Producer", .string (ascii "tagpress"))])
      else if id = catalogId then
        some (.dictionary [("Type", .name "Catalog"), ("Pages", .reference pagesId)])
      else if id = pagesId then
        some (.dictionary
          [("Type", .name "Pages"),
           ("Kids", .array (c.closePage.pageIds.map .reference)),
           ("Count", .integer c.closePage.pageIds.length)])
      else if id = resourcesId then
        some (.dictionary [("Font", .dictionary c.closePage.fonts)])
      else c.closePage.table.object? id := by
  unfold document
  dsimp only
  refine (Table.object?_add _ _ _).trans ?_
  rw [Table.object?_put, Table.object?_put, Table.object?_put]
  rfl

theorem object?_document_of_stored {c : Canvas} {id : Nat} (hid : catalogId < id)
    (hlt : id < c.closePage.table.next) :
    c.document.objects.object? id = c.closePage.table.object? id := by
  unfold catalogId at hid
  rw [object?_document, if_neg (by omega), if_neg (by unfold catalogId; omega),
    if_neg (by unfold pagesId; omega), if_neg (by unfold resourcesId; omega)]

/-- The pages of the finished document are the closed ones, in order. -/
theorem pages?_document {c : Canvas} (hreserved : catalogId < c.closePage.table.next) :
    c.document.pages? =
      (c.closePage.pageIds.map Object.reference).mapM c.document.objects.follow? := by
  have hcatalog : c.document.objects.object? c.document.catalog =
      some (.dictionary [("Type", .name "Catalog"), ("Pages", .reference pagesId)]) := by
    rw [show c.document.catalog = catalogId from rfl, object?_document,
      if_neg (Nat.ne_of_lt hreserved), if_pos rfl]
  have htree : c.document.objects.object? pagesId =
      some (.dictionary
        [("Type", .name "Pages"),
         ("Kids", .array (c.closePage.pageIds.map .reference)),
         ("Count", .integer c.closePage.pageIds.length)]) := by
    have hlt : pagesId < c.closePage.table.next := Nat.lt_trans (by decide) hreserved
    rw [object?_document, if_neg (Nat.ne_of_lt hlt), if_neg (by decide), if_pos rfl]
  simp [Document.pages?, hcatalog, htree]

/-- The pages of the finished document have the operations of the filed pages as their
contents. -/
theorem contents?_document {c : Canvas} {closed : List OpenPage} (h : c.closePage.Filed closed) :
    c.document.contents? = some (closed.map fun page => writeContent page.operations) := by
  rw [Document.contents?, pages?_document h.reserved]
  refine mapM_bind_mapM ?_
  rw [List.forall₂_map_left_iff, List.forall₂_map_right_iff]
  refine h.pages.imp fun id page hstored => ?_
  obtain ⟨content, hcontent, hlt, hid, hidlt, hdata, hpage⟩ := hstored
  refine ⟨pageObject page.size content, ?_, ?_⟩
  · rw [Numbered.follow?, object?_document_of_stored hid hidlt, hpage]
  · have hfound := (object?_document_of_stored hcontent hlt).trans hdata
    simp [Document.content?, pageObject, hfound]

end Canvas

end TaggedPage.Pdf
