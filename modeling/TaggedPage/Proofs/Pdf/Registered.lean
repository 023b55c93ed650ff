import TaggedPage.Proofs.Pdf.Fonts

/-! # Registered faces

The variants are gone through in order, and a face is registered when it appears for the first
time. The registered faces are thus the faces of the variants without repetition, in the order
of their first appearance (`usedSlots_eq`), and their names count them from one on. Variants
have one name in common exactly if they share a face, and the font dictionary has one entry for
each name, which leads to the objects of that face (`names_by_first_appearance`).
-/

namespace TaggedPage.Pdf

open Font (Library Face)
open Table (Extends)

/-! ## First appearances -/

section FirstAppearance

variable {α β : Type} [DecidableEq α] [DecidableEq β]

omit [DecidableEq β] in
theorem nodup_eraseDups (as : List α) : as.eraseDups.Nodup := by
  induction hlength : as.length using Nat.strong_induction_on generalizing as with
  | _ n ih =>
    cases as with
    | nil => exact List.nodup_nil
    | cons a as =>
      rw [List.eraseDups_cons, List.nodup_cons]
      refine ⟨fun hmem => ?_, ih _ ?_ _ rfl⟩
      · simpa using List.mem_eraseDups.mp hmem
      · rw [← hlength]
        exact Nat.lt_succ_of_le (List.length_filter_le _ as)

/-- Values that are told apart by their images appear for the first time together with these. -/
theorem eraseDups_map {f : α → β} {as : List α}
    (hf : ∀ a ∈ as, ∀ b ∈ as, f a = f b → a = b) :
    (as.map f).eraseDups = as.eraseDups.map f := by
  induction hlength : as.length using Nat.strong_induction_on generalizing as with
  | _ n ih =>
    cases as with
    | nil => rfl
    | cons a as =>
      have hfilter : (as.map f).filter (fun b => !b == f a) =
          (as.filter fun b => !b == a).map f := by
        rw [List.filter_map]
        congr 1
        refine List.filter_congr fun b hb => ?_
        have hiff : f b = f a ↔ b = a :=
          ⟨hf b (List.mem_cons_of_mem a hb) a List.mem_cons_self, congrArg f⟩
        simp [hiff]
      rw [List.map_cons, List.eraseDups_cons, List.eraseDups_cons, List.map_cons, hfilter]
      congr 1
      refine ih _ ?_ ?_ rfl
      · rw [← hlength]
        exact Nat.lt_succ_of_le (List.length_filter_le _ as)
      · intro b hb c hc
        exact hf b (List.mem_cons_of_mem a (List.mem_of_mem_filter hb)) c
          (List.mem_cons_of_mem a (List.mem_of_mem_filter hc))

end FirstAppearance

/-! ## Names -/

/-- Variants have the same name exactly if they share a face. -/
theorem fontName_eq_iff (l : Library) (v w : Variant) :
    fontName l v = fontName l w ↔ l.Shares v w := by
  constructor
  · intro h
    exact (List.idxOf_inj (slot_mem_usedSlots l v)).mp (resourceName_injective h)
  · intro h
    rw [fontName, fontName, show l.slot v = l.slot w from h]

/-- The names in use, by their first appearance, count the registered faces. -/
theorem eraseDups_fontName (l : Library) :
    (Variant.all.map (fontName l)).eraseDups =
      (List.range (usedSlots l).length).map resourceName := by
  have hnodup : (usedSlots l).Nodup := by
    rw [usedSlots_eq]
    exact nodup_eraseDups _
  have hinjective : ∀ s ∈ Variant.all.map l.slot, ∀ t ∈ Variant.all.map l.slot,
      resourceName ((usedSlots l).idxOf s) = resourceName ((usedSlots l).idxOf t) → s = t := by
    intro s hs t _ h
    rw [← List.mem_eraseDups, ← usedSlots_eq] at hs
    exact (List.idxOf_inj hs).mp (resourceName_injective h)
  have hnames := eraseDups_map hinjective
  rw [List.map_map, ← usedSlots_eq] at hnames
  refine hnames.trans (List.ext_getElem (by simp) fun i hi _ => ?_)
  rw [List.length_map] at hi
  simp [hnodup.idxOf_getElem i hi]

/-! ## Entries of the font dictionary -/

theorem keys_addFaces (t : Table) (index : Nat) (faces : List Face) :
    (addFaces t index faces).1.map (·.1) =
      (List.range' index faces.length).map resourceName := by
  induction faces generalizing t index with
  | nil => rfl
  | cons face faces ih =>
    exact congrArg (resourceName index :: ·) (ih (addFace t face).2 (index + 1))

/-- The object with a number is the font dictionary of a face, under the name of the face. That
of a font file has a description of the same name, with the file and its length. -/
def Table.Registers (t : Table) (id : Nat) (face : Face) : Prop :=
  ∃ dictionary, t.object? id = some dictionary ∧
    dictionary.valueOf? "BaseFont" = some (.name face.name) ∧
    match face with
    | .standard font => dictionary = standardDictionary font
    | .trueType font =>
      ∃ descriptor description file,
        dictionary = trueTypeDictionary font descriptor ∧
        dictionary.valueOf? "FontDescriptor" = some (.reference descriptor) ∧
        t.object? descriptor = some description ∧
        description.valueOf? "FontName" = some (.name face.name) ∧
        description.valueOf? "FontFile2" = some (.reference file) ∧
        t.object? file =
          some (.stream
            [("Length1", .integer font.data.size),
             ("Length", .integer font.data.data.toList.length)]
            font.data.data.toList)

/-- A stored face is registered, and stays so in a table that is filled further on. -/
theorem registers_addFace {t u : Table} {face : Face} (h : Extends (addFace t face).2 u) :
    u.Registers (addFace t face).1 face := by
  cases face with
  | standard font => exact ⟨standardDictionary font, h.object?_add, rfl, rfl⟩
  | trueType font =>
    -- the file, the description and the dictionary take three numbers in this order
    have hdescription : Extends ((t.add (fontFile font)).2.add (fontDescriptor font t.next)).2 u :=
      (Table.add_extends _ _).trans h
    have hfile : Extends (t.add (fontFile font)).2 u :=
      (Table.add_extends _ _).trans hdescription
    exact ⟨_, h.object?_add, rfl, _, _, _, rfl, rfl, hdescription.object?_add, rfl, rfl,
      hfile.object?_add⟩

/-- Every variant has a name, the same one as another variant exactly if the two share a face.
The names count the faces from one on, in the order in which they appear among the variants.
They are the keys of the font dictionary, and the entry of each leads to the objects of the
variant's own face. -/
theorem names_by_first_appearance (l : Library) :
    let c := Canvas.new l
    let names := (List.range (Variant.all.map l.slot).eraseDups.length).map fun i =>
      "F" ++ toString (i + 1)
    (∀ v w, c.fontName v = c.fontName w ↔ l.Shares v w) ∧
    (Variant.all.map c.fontName).eraseDups = names ∧
    c.fonts.map (·.1) = names ∧
    ∀ v, ∃ id, c.fonts.lookup (c.fontName v) = some (.reference id) ∧
      c.table.Registers id (l.face v) := by
  intro c names
  have hnames : names = (List.range (usedSlots l).length).map resourceName := by
    rw [usedSlots_eq]
    rfl
  refine ⟨fontName_eq_iff l, (eraseDups_fontName l).trans hnames.symm, ?_, fun v => ?_⟩
  · have hkeys := keys_addFaces ⟨4, []⟩ 0 ((usedSlots l).map fun slot => l.faces[slot])
    rw [List.length_map, ← List.range_eq_range'] at hkeys
    exact hkeys.trans hnames.symm
  · obtain ⟨u, -, hbehind, hlookup⟩ := stored_face l v
    exact ⟨_, hlookup, registers_addFace hbehind⟩

end TaggedPage.Pdf
