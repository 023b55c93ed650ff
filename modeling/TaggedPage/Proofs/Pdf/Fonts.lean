import Mathlib
import TaggedPage.Proofs.Pdf.Run

/-! # Fonts of a document

The distinct faces of a library are stored first and registered as `F1`, `F2`, and so on: they
are the faces of the variants, each where it appears for the first time (`usedSlots_eq`). The
name of a variant leads from the shared resources to the font dictionary of its own face,
whatever is drawn afterwards (`font?_document`).
-/

namespace TaggedPage.Pdf

open Font (Library Face)
open Table (Extends)

/-! ## Names -/

theorem resourceName_injective {i j : Nat} (h : resourceName i = resourceName j) : i = j := by
  have hdigits : Nat.repr (i + 1) = Nat.repr (j + 1) := (String.append_right_inj "F").mp h
  exact Nat.succ.inj (Nat.repr_injective hdigits)

/-- Values that are collected as long as they are new are those without repetition. -/
theorem collect_eq {α β : Type} [DecidableEq β] (f : α → β) (as : List α)
    (known : List β) :
    as.foldl (fun known a => if f a ∈ known then known else known ++ [f a]) known =
      known ++ ((as.map f).filter fun b => b ∉ known).eraseDups := by
  induction as generalizing known with
  | nil => simp
  | cons a as ih =>
    rw [List.foldl_cons, ih, List.map_cons, List.filter_cons]
    by_cases h : f a ∈ known
    · simp [h]
    · have hfilter : (as.map f).filter (fun b => b ∉ known ++ [f a]) =
          ((as.map f).filter fun b => b ∉ known).filter fun b => !b == f a := by
        rw [List.filter_filter]
        congr 1
        funext b
        simp [and_comm, Bool.beq_eq_decide_eq]
      simp only [h, if_false, not_false_eq_true, decide_true, if_true]
      rw [hfilter, List.eraseDups_cons, List.append_assoc, List.singleton_append]

/-- The registered faces are those of the variants, by their first appearance. -/
theorem usedSlots_eq (l : Library) : usedSlots l = (Variant.all.map l.slot).eraseDups := by
  rw [usedSlots, collect_eq]
  simp

/-- The face of every variant is among the distinct ones. -/
theorem slot_mem_usedSlots (l : Library) (v : Variant) : l.slot v ∈ usedSlots l := by
  rw [usedSlots_eq, List.mem_eraseDups]
  exact List.mem_map_of_mem v.mem_all

/-! ## Font dictionaries -/

/-- The font dictionaries of a face, which differ in where its description is stored. -/
def IsDictionaryOf (o : Object) : Face → Prop
  | .standard font => o = standardDictionary font
  | .trueType font => ∃ descriptor, o = trueTypeDictionary font descriptor

theorem object?_addFace (t : Table) (face : Face) :
    t.next ≤ (addFace t face).1 ∧ (addFace t face).1 < (addFace t face).2.next ∧
      ∃ o, (addFace t face).2.object? (addFace t face).1 = some o ∧ IsDictionaryOf o face := by
  cases face with
  | standard font =>
    refine ⟨Nat.le_refl _, Nat.lt_succ_self _, standardDictionary font, ?_, rfl⟩
    exact (Table.object?_add _ _ _).trans (if_pos rfl)
  | trueType font =>
    refine ⟨Nat.le_add_right t.next 2, Nat.lt_succ_self _, trueTypeDictionary font (t.next + 1), ?_,
      _, rfl⟩
    exact (Table.object?_add _ _ _).trans (if_pos rfl)

/-- Every face is stored in its turn, behind the objects of those before it, and the number of
its font dictionary is found under its name. -/
theorem stored_addFaces (t : Table) (index : Nat) (faces : List Face) (i : Fin faces.length) :
    ∃ u, Extends t u ∧ Extends (addFace u faces[i]).2 (addFaces t index faces).2 ∧
      (addFaces t index faces).1.lookup (resourceName (index + i)) =
        some (.reference (addFace u faces[i]).1) := by
  induction faces generalizing t index with
  | nil => exact i.elim0
  | cons face faces ih =>
    cases i using Fin.cases with
    | zero =>
      refine ⟨t, .refl t, addFaces_extends (addFace t face).2 (index + 1) faces, ?_⟩
      simp [addFaces]
    | succ i =>
      obtain ⟨u, hbefore, hbehind, hlookup⟩ := ih (addFace t face).2 (index + 1) i
      refine ⟨u, (addFace_extends t face).trans hbefore, hbehind, ?_⟩
      have hname : index + 1 + (i : Nat) = index + (i.succ : Fin (faces.length + 1)) := by
        simp only [Fin.val_succ]
        omega
      have hne : resourceName (index + 1 + i) ≠ resourceName index := by
        intro heq
        have := resourceName_injective heq
        omega
      rw [← hname, addFaces, List.lookup_cons, beq_eq_false_iff_ne.mpr hne]
      exact hlookup

/-- The face of a variant is stored when a canvas is made, behind the three numbers that are
kept, and found under the name of the variant. -/
theorem stored_face (l : Library) (v : Variant) :
    ∃ u, Extends ⟨4, []⟩ u ∧ Extends (addFace u (l.face v)).2 (Canvas.new l).table ∧
      (Canvas.new l).fonts.lookup (fontName l v) =
        some (.reference (addFace u (l.face v)).1) := by
  let faces := (usedSlots l).map fun slot => l.faces[slot]
  have hlt : (usedSlots l).idxOf (l.slot v) < faces.length := by
    rw [List.length_map]
    exact List.idxOf_lt_length_of_mem (slot_mem_usedSlots l v)
  have hface : faces[(usedSlots l).idxOf (l.slot v)] = l.face v := by
    simp [faces, Library.face]
  have hstored := stored_addFaces ⟨4, []⟩ 0 faces ⟨_, hlt⟩
  rw [Nat.zero_add, show faces[(⟨_, hlt⟩ : Fin faces.length)] = l.face v from hface] at hstored
  exact hstored

/-! ## Reading a document -/

/-- The font dictionary that the shared resources have under a name. -/
def Document.font? (d : Document) (name : String) : Option Object := do
  let resources ← d.objects.object? resourcesId
  let fonts ← resources.valueOf? "Font"
  d.objects.follow? (← fonts.valueOf? name)

namespace Canvas

@[simp] theorem fonts_closePage (c : Canvas) : c.closePage.fonts = c.fonts := by
  unfold closePage
  split <;> rfl

theorem closePage_extends (c : Canvas) : Extends c.table c.closePage.table := by
  unfold closePage
  split
  · exact .refl c.table
  · exact (c.table.add_extends _).trans (Table.add_extends _ _)

/-- What no call changes: the fonts and their names, and what is stored. -/
structure Continues (c d : Canvas) : Prop where
  fonts : d.fonts = c.fonts
  fontName : d.fontName = c.fontName
  table : Extends c.table d.table

theorem step_continues (c : Canvas) (s : Step) : c.Continues (c.step s) := by
  cases s with
  | page size => exact ⟨fonts_closePage c, fontName_closePage c, closePage_extends c⟩
  | draw p =>
    cases hpage : c.page with
    | none =>
      rw [step_draw_of_no_page hpage]
      exact ⟨rfl, rfl, .refl c.table⟩
    | some page =>
      rw [step_draw_of_page hpage]
      exact ⟨rfl, rfl, .refl c.table⟩

theorem run_continues (c : Canvas) (steps : List Step) : c.Continues (c.run steps) := by
  induction steps generalizing c with
  | nil => exact ⟨rfl, rfl, .refl c.table⟩
  | cons s steps ih =>
    have hstep := step_continues c s
    have hrun := ih (c.step s)
    exact ⟨hrun.fonts.trans hstep.fonts, hrun.fontName.trans hstep.fontName,
      hstep.table.trans hrun.table⟩

/-- The resources of a finished document. -/
theorem resources_document (l : Library) (steps : List Step) :
    ((Canvas.new l).run steps).document.objects.object? resourcesId =
      some (.dictionary [("Font", .dictionary (Canvas.new l).fonts)]) := by
  have hrun := run_continues (Canvas.new l) steps
  have hreserved := ((filed_new l).run steps).reserved
  rw [object?_document, if_neg (by unfold catalogId at hreserved; unfold resourcesId; omega),
    if_neg (by decide), if_neg (by decide), if_pos rfl, fonts_closePage, hrun.fonts]

/-- The name of every variant is that of a font dictionary of its face. -/
theorem font?_document (l : Library) (steps : List Step) (v : Variant) :
    ∃ id o, (Canvas.new l).fonts.lookup (Pdf.fontName l v) = some (.reference id) ∧
      ((Canvas.new l).run steps).document.objects.object? id = some o ∧
      ((Canvas.new l).run steps).document.font? (Pdf.fontName l v) = some o ∧
      IsDictionaryOf o (l.face v) := by
  obtain ⟨u, hbefore, hbehind, hlookup⟩ := stored_face l v
  obtain ⟨hle, hlt, o, hobject, hdictionary⟩ := object?_addFace u (l.face v)
  have hext : Extends (addFace u (l.face v)).2
      ((Canvas.new l).run steps).closePage.table :=
    hbehind.trans ((run_continues (Canvas.new l) steps).table.trans (closePage_extends _))
  have hreserved : catalogId < (addFace u (l.face v)).1 :=
    Nat.lt_of_lt_of_le (by decide) (Nat.le_trans hbefore.le hle)
  have hdocument : ((Canvas.new l).run steps).document.objects.object? (addFace u (l.face v)).1 =
      some o := by
    rw [object?_document_of_stored hreserved (Nat.lt_of_lt_of_le hlt hext.le)]
    exact (hext.keeps _ hlt).trans hobject
  refine ⟨_, o, hlookup, hdocument, ?_, hdictionary⟩
  rw [Document.font?, resources_document]
  simp [Object.valueOf?, hlookup, hdocument]

end Canvas

end TaggedPage.Pdf
