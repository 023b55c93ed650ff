import TaggedPage.Pdf.Document

/-! # Tables of objects

What is stored under one number is found there, and nothing else changes. A table that
is filled further on therefore keeps the objects it has, which is how the objects of one
page survive those of the next.

`Document.contents?` is what a reader of the finished document sees of its pages: it
follows the references from the catalog to the tree of pages, and from each page to its
content.
-/

namespace TaggedPage.Pdf

def Numbered.object? (objects : Numbered) (id : Nat) : Option Object := objects.lookup id

namespace Numbered

theorem object?_cons (n id : Nat) (object : Object) (rest : Numbered) :
    object? ((n, object) :: rest) id = if id = n then some object else object? rest id := by
  rw [object?, List.lookup_cons]
  by_cases h : id = n
  · simp [h]
  · rw [beq_eq_false_iff_ne.mpr h, if_neg h]
    rfl

theorem object?_insert (objects : Numbered) (n id : Nat) (object : Object) :
    (objects.insert n object).object? id = if id = n then some object else objects.object? id := by
  induction objects with
  | nil => rw [insert, object?_cons]
  | cons entry rest ih =>
    obtain ⟨other, known⟩ := entry
    rw [insert]
    split
    · rw [object?_cons]
    · split
      · next heq =>
        subst heq
        rw [object?_cons, object?_cons]
        split <;> rfl
      · next hne =>
        rw [object?_cons, object?_cons, ih]
        by_cases h : id = other
        · rw [if_pos h, if_pos h, if_neg (fun hn => hne (hn.symm.trans h))]
        · rw [if_neg h, if_neg h]

end Numbered

namespace Table

def object? (t : Table) (id : Nat) : Option Object := t.objects.object? id

theorem object?_put (t : Table) (n id : Nat) (object : Object) :
    (t.put n object).object? id = if id = n then some object else t.object? id :=
  Numbered.object?_insert t.objects n id object

theorem object?_add (t : Table) (id : Nat) (object : Object) :
    (t.add object).2.object? id = if id = t.next then some object else t.object? id :=
  Numbered.object?_insert t.objects t.next id object

@[simp] theorem fst_add (t : Table) (object : Object) : (t.add object).1 = t.next := rfl

@[simp] theorem next_add (t : Table) (object : Object) :
    (t.add object).2.next = t.next + 1 := rfl

/-- A table that gives out further numbers and keeps the objects under those it has given
out. -/
structure Extends (t u : Table) : Prop where
  le : t.next ≤ u.next
  keeps : ∀ id, id < t.next → u.object? id = t.object? id

theorem Extends.refl (t : Table) : Extends t t := ⟨Nat.le_refl _, fun _ _ => rfl⟩

theorem Extends.trans {t u w : Table} (h₁ : Extends t u) (h₂ : Extends u w) : Extends t w := by
  refine ⟨Nat.le_trans h₁.le h₂.le, fun id hid => ?_⟩
  rw [h₂.keeps id (Nat.lt_of_lt_of_le hid h₁.le), h₁.keeps id hid]

theorem add_extends (t : Table) (object : Object) : Extends t (t.add object).2 := by
  refine ⟨Nat.le_succ _, fun id hid => ?_⟩
  rw [object?_add, if_neg (Nat.ne_of_lt hid)]

/-- An object that was added stays where it is in a table that is filled further on. -/
theorem Extends.object?_add {t u : Table} {object : Object} (h : Extends (t.add object).2 u) :
    u.object? t.next = some object := by
  rw [h.keeps t.next (Nat.lt_succ_self _), Table.object?_add, if_pos rfl]

end Table

/-! ## Reading a document -/

def Object.valueOf? (key : String) : Object → Option Object
  | .dictionary entries => entries.lookup key
  | _ => none

@[simp] theorem Object.valueOf?_cons (key k : String) (value : Object) (rest : Entries) :
    valueOf? key (.dictionary ((k, value) :: rest)) =
      if key = k then some value else valueOf? key (.dictionary rest) := by
  rw [valueOf?, List.lookup_cons]
  by_cases h : key = k
  · simp [h]
  · rw [beq_eq_false_iff_ne.mpr h, if_neg h]
    rfl

def Numbered.follow? (objects : Numbered) : Object → Option Object
  | .reference id => objects.object? id
  | _ => none

@[simp] theorem Numbered.follow?_reference (objects : Numbered) (id : Nat) :
    objects.follow? (.reference id) = objects.object? id := rfl

def Object.items? : Object → Option (List Object)
  | .array items => some items
  | _ => none

@[simp] theorem Object.items?_array (items : List Object) :
    items? (.array items) = some items := rfl

def Object.data? : Object → Option (List UInt8)
  | .stream _ data => some data
  | _ => none

@[simp] theorem Object.data?_ofData (entries : Entries) (data : List UInt8) :
    data? (.ofData entries data) = some data := rfl

namespace Document

/-- The pages of a document, found from its catalog. -/
def pages? (d : Document) : Option (List Object) := do
  let catalog ← d.objects.object? d.catalog
  let tree ← d.objects.follow? (← catalog.valueOf? "Pages")
  let kids ← (← tree.valueOf? "Kids").items?
  kids.mapM d.objects.follow?

def content? (d : Document) (page : Object) : Option (List UInt8) := do
  let content ← d.objects.follow? (← page.valueOf? "Contents")
  content.data?

def contents? (d : Document) : Option (List (List UInt8)) := do
  (← d.pages?).mapM d.content?

end Document

end TaggedPage.Pdf
