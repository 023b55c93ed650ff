import TaggedPage.Proofs.Json.Scanning

/-! # Values read from a JSON text

A value that is read without a fault has the shape of the tree whose text it was read from
(`shape_ofText`): the same keys in the same order, each with the value that stands behind it.
The readers call each other with one unit of fuel less, so `Faithful` states of all of them
what they do with the same fuel, and each step lemma adds one unit.
-/

namespace TaggedPage.Json

open Grammar (Blank Document Tree spellBlanks)

mutual

/-- The shape of a value up to its first fault. -/
def Node.shape : Node → Shape
  | .array _ items => .array items.shapes
  | .object _ members => .object members.shapes
  | _ => .scalar

def Items.shapes : Items → List Shape
  | .item _ value _ rest => value.shape :: rest.shapes
  | _ => []

def Members.shapes : Members → List (List Char × Shape)
  | .member key _ value _ rest => (key, value.shape) :: rest.shapes
  | _ => []

end

/-- Unless there is a fault in what was found, it has a shape, and reading stopped in front of
`rest`. -/
def FindsValue (found : Node × Option Cursor) (shape : Shape) (rest : List Char) : Prop :=
  found.1.firstFault? = none → found.1.shape = shape ∧ ∃ c, found.2 = some c ∧ c.rest = rest

@[inherit_doc FindsValue]
def FindsItems (found : Items × Option Cursor) (shapes : List Shape) (rest : List Char) : Prop :=
  found.1.firstFault? = none → found.1.shapes = shapes ∧ ∃ c, found.2 = some c ∧ c.rest = rest

@[inherit_doc FindsValue]
def FindsMembers (found : Members × Option Cursor) (shapes : List (List Char × Shape))
    (rest : List Char) : Prop :=
  found.1.firstFault? = none → found.1.shapes = shapes ∧ ∃ c, found.2 = some c ∧ c.rest = rest

/-- What the readers make of spelled texts with the given fuel. -/
structure Faithful (fuel : Nat) : Prop where
  value {depth : Nat} {c : Cursor} {blanks : List Blank} {tree : Tree} {rest : List Char} :
    c.rest = spellBlanks blanks (tree.spell rest) → EndsNumber rest →
    FindsValue (readValue fuel depth c) tree.shape rest
  noItem {depth : Nat} {c : Cursor} {inside : List Blank} {rest : List Char} :
    c.rest = spellBlanks inside (']' :: rest) → FindsItems (readFirstItem fuel depth c) [] rest
  firstItem {depth : Nat} {c : Cursor} {before : List Blank} {first : Tree}
    {others : Grammar.Items} {rest : List Char} :
    c.rest = spellBlanks before (first.spell (others.spell rest)) →
    FindsItems (readFirstItem fuel depth c) (first.shape :: others.shapes) rest
  item {depth : Nat} {c : Cursor} {value : Tree} {others : Grammar.Items} {rest : List Char} :
    c.rest = value.spell (others.spell rest) →
    FindsItems (readItem fuel depth c) (value.shape :: others.shapes) rest
  moreItems {depth : Nat} {c : Cursor} {others : Grammar.Items} {rest : List Char} :
    c.rest = others.spell rest → FindsItems (readMoreItems fuel depth c) others.shapes rest
  noMember {depth : Nat} {c : Cursor} {inside : List Blank} {rest : List Char} :
    c.rest = spellBlanks inside ('\x7d' :: rest) →
    FindsMembers (readFirstMember fuel depth c) [] rest
  firstMember {depth : Nat} {c : Cursor} {key : Grammar.Key} {first : Tree}
    {others : Grammar.Members} {rest : List Char} :
    c.rest = key.spell (first.spell (others.spell rest)) →
    FindsMembers (readFirstMember fuel depth c) ((key.chars, first.shape) :: others.shapes) rest
  member {depth : Nat} {c : Cursor} {key : Grammar.Key} {value : Tree} {others : Grammar.Members}
    {rest : List Char} :
    c.rest = key.spellChars (value.spell (others.spell rest)) →
    FindsMembers (readMember fuel depth c) ((key.chars, value.shape) :: others.shapes) rest
  moreMembers {depth : Nat} {c : Cursor} {others : Grammar.Members} {rest : List Char} :
    c.rest = others.spell rest → FindsMembers (readMoreMembers fuel depth c) others.shapes rest

section Texts

theorem solid_cons {x : Char} (h : x ∉ [' ', '\t', '\n', '\r']) (text : List Char) :
    Solid (x :: text) := by
  intro b heq
  obtain rfl : x = b.char := Option.some.inj heq
  cases b <;> exact h (by decide)

/-- A value begins with a character that is neither white space nor the end of an array. -/
theorem Grammar.Tree.exists_first (tree : Tree) (rest : List Char) :
    ∃ first more, tree.spell rest = first :: more ∧
      first ∉ [' ', '\t', '\n', '\r', ']'] := by
  match tree with
  | .null => exact ⟨_, _, rfl, by decide⟩
  | .bool true => exact ⟨_, _, rfl, by decide⟩
  | .bool false => exact ⟨_, _, rfl, by decide⟩
  | .number n =>
    simp only [Tree.spell, Grammar.Number.spell]
    split
    · exact ⟨_, _, rfl, by decide⟩
    · obtain ⟨d, more, hwhole, hd⟩ := n.whole.exists_cons
      refine ⟨d, _, by rw [Grammar.Number.spellUnsigned, hwhole, List.cons_append], ?_⟩
      intro hmem
      simp only [List.mem_cons, List.not_mem_nil, or_false] at hmem
      rcases hmem with rfl | rfl | rfl | rfl | rfl <;> cases hd
  | .string pieces => exact ⟨_, _, rfl, by decide⟩
  | .emptyArray inside => exact ⟨_, _, rfl, by decide⟩
  | .array before first others => exact ⟨_, _, rfl, by decide⟩
  | .emptyObject inside => exact ⟨_, _, rfl, by decide⟩
  | .object key first others => exact ⟨_, _, rfl, by decide⟩

theorem Grammar.Tree.solid_spell (tree : Tree) (rest : List Char) : Solid (tree.spell rest) := by
  obtain ⟨first, more, heq, hfirst⟩ := tree.exists_first rest
  rw [heq]
  exact solid_cons (fun hmem => hfirst (List.mem_append_left [']'] hmem)) more

theorem Grammar.Tree.spell_ne_nil (tree : Tree) (rest : List Char) : tree.spell rest ≠ [] := by
  obtain ⟨first, more, heq, -⟩ := tree.exists_first rest
  rw [heq]
  exact List.cons_ne_nil first more

theorem Grammar.Tree.spell_ne_close (tree : Tree) (rest text : List Char) :
    tree.spell rest ≠ ']' :: text := by
  obtain ⟨first, more, heq, hfirst⟩ := tree.exists_first rest
  intro hclose
  obtain ⟨rfl, -⟩ := List.cons.inj (heq.symm.trans hclose)
  exact hfirst (by decide)

theorem endsNumber_nil : EndsNumber [] :=
  fun x hx => absurd hx (Option.not_mem_none x)

theorem endsNumber_cons {x : Char} (h : x.isDigit = false ∧ x ≠ '.' ∧ x ≠ 'e' ∧ x ≠ 'E')
    (text : List Char) : EndsNumber (x :: text) :=
  fun _ heq => Option.some.inj heq ▸ h

theorem endsNumber_spellBlanks {text : List Char} (h : EndsNumber text) (blanks : List Blank) :
    EndsNumber (spellBlanks blanks text) := by
  cases blanks with
  | nil => exact h
  | cons b blanks => exact endsNumber_cons (by cases b <;> decide) _

theorem Grammar.Items.endsNumber_spell (items : Grammar.Items) (rest : List Char) :
    EndsNumber (items.spell rest) := by
  cases items with
  | close before => exact endsNumber_spellBlanks (endsNumber_cons (by decide) _) before
  | item before start value others =>
    exact endsNumber_spellBlanks (endsNumber_cons (by decide) _) before

theorem Grammar.Members.endsNumber_spell (members : Grammar.Members) (rest : List Char) :
    EndsNumber (members.spell rest) := by
  cases members with
  | close before => exact endsNumber_spellBlanks (endsNumber_cons (by decide) _) before
  | member before key value others =>
    exact endsNumber_spellBlanks (endsNumber_cons (by decide) _) before

end Texts

theorem Items.firstFault?_item {start settled : Nat} {value : Node} {rest : Items} :
    (Items.item start value settled rest).firstFault? = none ↔
      value.firstFault? = none ∧ rest.firstFault? = none :=
  Option.or_eq_none_iff

theorem Members.firstFault?_member {key : List Char} {keySettled settled : Nat} {value : Node}
    {rest : Members} :
    (Members.member key keySettled value settled rest).firstFault? = none ↔
      value.firstFault? = none ∧ rest.firstFault? = none :=
  Option.or_eq_none_iff

section Steps

variable {fuel depth : Nat} {c : Cursor} {rest : List Char}

/-- A scalar that was read is what stands in the text. -/
theorem findsValue_scalar {α : Type} {node : α → Nat → Node} {result : Except Fault (α × Cursor)}
    (hnode : ∀ a stop, (node a stop).shape = .scalar) (h : EndsAt rest result) :
    FindsValue (scalar node result) .scalar rest := by
  intro hnone
  match result, h with
  | .error fault, _ => cases hnone
  | .ok (a, behind), h => exact ⟨hnode a _, behind, rfl, h a behind rfl⟩

theorem EndsAt.map_word {α : Type} (letters : List Char) (h : c.rest = letters ++ rest) (a : α) :
    EndsAt rest ((c.word letters).map ((a, ·))) := by
  obtain ⟨behind, hword, hrest⟩ := Cursor.word_spelled h
  rw [hword]
  exact .ok hrest

theorem readValue_digit {d : Char} {more : List Char} (h : c.skipBlank.rest = d :: more)
    (hd : d.isDigit = true) :
    readValue (fuel + 1) depth c = scalar .number (readNumeral false c.skipBlank) := by
  rw [readValue.eq_def]
  simp only [h]
  split <;> simp_all

theorem readValue_array {more : List Char} (h : c.skipBlank.rest = '[' :: more)
    {shapes : List Shape}
    (hitems : ∀ depth, FindsItems (readFirstItem fuel depth c.skipBlank.next) shapes rest) :
    FindsValue (readValue (fuel + 1) depth c) (.array shapes) rest := by
  rw [readValue.eq_def]
  simp only [h]
  cases depth with
  | zero =>
    intro hnone
    cases hnone
  | succ depth =>
    intro hnone
    obtain ⟨hshapes, hbehind⟩ := hitems depth hnone
    exact ⟨congrArg Shape.array hshapes, hbehind⟩

theorem readValue_object {more : List Char} (h : c.skipBlank.rest = '\x7b' :: more)
    {shapes : List (List Char × Shape)}
    (hmembers : ∀ depth, FindsMembers (readFirstMember fuel depth c.skipBlank.next) shapes rest) :
    FindsValue (readValue (fuel + 1) depth c) (.object shapes) rest := by
  rw [readValue.eq_def]
  simp only [h]
  cases depth with
  | zero =>
    intro hnone
    cases hnone
  | succ depth =>
    intro hnone
    obtain ⟨hshapes, hbehind⟩ := hmembers depth hnone
    exact ⟨congrArg Shape.object hshapes, hbehind⟩

theorem readValue_step (hf : Faithful fuel) {blanks : List Blank} {tree : Tree}
    (h : c.rest = spellBlanks blanks (tree.spell rest)) (hrest : EndsNumber rest) :
    FindsValue (readValue (fuel + 1) depth c) tree.shape rest := by
  have hskip := Cursor.rest_skipBlank h (tree.solid_spell rest)
  match tree with
  | .null =>
    simp only [Tree.spell] at hskip
    rw [readValue.eq_def]
    simp only [hskip]
    exact findsValue_scalar (fun _ _ => rfl) (.map_word ['n', 'u', 'l', 'l'] hskip _)
  | .bool true =>
    simp only [Tree.spell] at hskip
    rw [readValue.eq_def]
    simp only [hskip]
    exact findsValue_scalar (fun _ _ => rfl) (.map_word ['t', 'r', 'u', 'e'] hskip _)
  | .bool false =>
    simp only [Tree.spell] at hskip
    rw [readValue.eq_def]
    simp only [hskip]
    exact findsValue_scalar (fun _ _ => rfl)
      (.map_word ['f', 'a', 'l', 's', 'e'] hskip _)
  | .number n =>
    simp only [Tree.spell, Grammar.Number.spell] at hskip
    split at hskip
    · rw [readValue.eq_def]
      simp only [hskip]
      exact findsValue_scalar (fun _ _ => rfl)
        (readNumeral_endsAt (Cursor.rest_next hskip) hrest true)
    · obtain ⟨d, more, hwhole, hd⟩ := n.whole.exists_cons
      have hfirst := hskip
      rw [Grammar.Number.spellUnsigned, hwhole, List.cons_append] at hfirst
      rw [readValue_digit hfirst hd]
      exact findsValue_scalar (fun _ _ => rfl) (readNumeral_endsAt hskip hrest false)
  | .string pieces =>
    simp only [Tree.spell] at hskip
    rw [readValue.eq_def]
    simp only [hskip]
    refine findsValue_scalar (fun _ _ => rfl) fun chars behind hok => ?_
    exact (readString_spelled (Cursor.rest_next hskip) hok).2
  | .emptyArray inside =>
    exact readValue_array hskip fun _ => hf.noItem (Cursor.rest_next hskip)
  | .array before first others =>
    exact readValue_array hskip fun _ => hf.firstItem (Cursor.rest_next hskip)
  | .emptyObject inside =>
    exact readValue_object hskip fun _ => hf.noMember (Cursor.rest_next hskip)
  | .object key first others =>
    exact readValue_object hskip fun _ => hf.firstMember (Cursor.rest_next hskip)

theorem readFirstItem_close_step {inside : List Blank}
    (h : c.rest = spellBlanks inside (']' :: rest)) :
    FindsItems (readFirstItem (fuel + 1) depth c) [] rest := by
  have hskip := Cursor.rest_skipBlank h (solid_cons (by decide) rest)
  simp only [readFirstItem, hskip]
  exact fun _ => ⟨rfl, _, rfl, Cursor.rest_next hskip⟩

theorem readFirstItem_step (hf : Faithful fuel) {before : List Blank} {first : Tree}
    {others : Grammar.Items} (h : c.rest = spellBlanks before (first.spell (others.spell rest))) :
    FindsItems (readFirstItem (fuel + 1) depth c) (first.shape :: others.shapes) rest := by
  have hskip := Cursor.rest_skipBlank h (first.solid_spell _)
  rw [readFirstItem]
  split
  · next hnil => exact absurd (hskip.symm.trans hnil) (first.spell_ne_nil _)
  · next hclose => exact absurd (hskip.symm.trans hclose) (first.spell_ne_close _ _)
  · exact hf.item hskip

theorem readItem_step (hf : Faithful fuel) {value : Tree} {others : Grammar.Items}
    (h : c.rest = value.spell (others.spell rest)) :
    FindsItems (readItem (fuel + 1) depth c) (value.shape :: others.shapes) rest := by
  have hvalue : FindsValue (readValue fuel depth c) value.shape (others.spell rest) :=
    hf.value (show c.rest = spellBlanks [] _ from h) (others.endsNumber_spell rest)
  rw [readItem]
  split
  · next node hread =>
    intro hnone
    rw [hread] at hvalue
    obtain ⟨-, behind, hbehind, -⟩ := hvalue (Items.firstFault?_item.mp hnone).1
    cases hbehind
  · next node behind hread =>
    intro hnone
    rw [hread] at hvalue
    obtain ⟨hnode, hrest⟩ := Items.firstFault?_item.mp hnone
    obtain ⟨hshape, c', hsome, hc'⟩ := hvalue hnode
    obtain rfl := Option.some.inj hsome
    obtain ⟨hshapes, hend⟩ := hf.moreItems hc' hrest
    exact ⟨congrArg₂ List.cons hshape hshapes, hend⟩

theorem readMoreItems_step (hf : Faithful fuel) {others : Grammar.Items}
    (h : c.rest = others.spell rest) :
    FindsItems (readMoreItems (fuel + 1) depth c) others.shapes rest := by
  rw [readMoreItems]
  cases others with
  | close before =>
    have hskip := Cursor.rest_skipBlank h (solid_cons (by decide) rest)
    simp only [hskip]
    exact fun _ => ⟨rfl, _, rfl, Cursor.rest_next hskip⟩
  | item before start value others =>
    have hcomma := Cursor.rest_skipBlank h (solid_cons (by decide) _)
    have hskip := Cursor.rest_skipBlank (Cursor.rest_next hcomma) (value.solid_spell _)
    simp only [hcomma]
    split
    · next hnil => exact absurd (hskip.symm.trans hnil) (value.spell_ne_nil _)
    · next hclose => exact absurd (hskip.symm.trans hclose) (value.spell_ne_close _ _)
    · exact hf.item hskip

theorem readFirstMember_close_step {inside : List Blank}
    (h : c.rest = spellBlanks inside ('\x7d' :: rest)) :
    FindsMembers (readFirstMember (fuel + 1) depth c) [] rest := by
  have hskip := Cursor.rest_skipBlank h (solid_cons (by decide) rest)
  simp only [readFirstMember, hskip]
  exact fun _ => ⟨rfl, _, rfl, Cursor.rest_next hskip⟩

theorem readFirstMember_step (hf : Faithful fuel) {key : Grammar.Key} {first : Tree}
    {others : Grammar.Members} (h : c.rest = key.spell (first.spell (others.spell rest))) :
    FindsMembers (readFirstMember (fuel + 1) depth c)
      ((key.chars, first.shape) :: others.shapes) rest := by
  have hskip := Cursor.rest_skipBlank h (solid_cons (by decide) _)
  simp only [readFirstMember, hskip]
  exact hf.member (Cursor.rest_next hskip)

theorem colon_spelled {blanks : List Blank} {text : List Char}
    (h : c.rest = spellBlanks blanks (':' :: text)) :
    ∃ behind, c.colon = .ok behind ∧ behind.rest = text := by
  have hskip := Cursor.rest_skipBlank h (solid_cons (by decide) text)
  refine ⟨c.skipBlank.next, ?_, Cursor.rest_next hskip⟩
  simp only [Cursor.colon, hskip]

theorem readMember_step (hf : Faithful fuel) {key : Grammar.Key} {value : Tree}
    {others : Grammar.Members} (h : c.rest = key.spellChars (value.spell (others.spell rest))) :
    FindsMembers (readMember (fuel + 1) depth c)
      ((key.chars, value.shape) :: others.shapes) rest := by
  rw [readMember]
  split
  · intro hnone
    cases hnone
  · next chars behindKey hkey =>
    obtain ⟨rfl, hbehindKey⟩ := readString_spelled h hkey
    obtain ⟨start, hcolon, hstart⟩ := colon_spelled hbehindKey
    have hvalue : FindsValue (readValue fuel depth start) value.shape (others.spell rest) :=
      hf.value hstart (others.endsNumber_spell rest)
    simp only [hcolon]
    split
    · next node behind hread =>
      intro hnone
      rw [hread] at hvalue
      obtain ⟨hnode, hrest⟩ := Members.firstFault?_member.mp hnone
      obtain ⟨hshape, c', hsome, hc'⟩ := hvalue hnode
      obtain rfl := Option.some.inj hsome
      obtain ⟨hshapes, hend⟩ := hf.moreMembers hc' hrest
      exact ⟨congrArg₂ List.cons (congrArg (Prod.mk key.chars) hshape) hshapes, hend⟩
    · next node hread =>
      -- a value that reading does not get behind has a fault
      rw [hread] at hvalue
      have hfault : ¬ node.firstFault? = none := by
        intro hnode
        obtain ⟨-, behind, hbehind, -⟩ := hvalue hnode
        cases hbehind
      split
      · exact fun hnone => absurd (Members.firstFault?_member.mp hnone).1 hfault
      · exact fun hnone => absurd (Members.firstFault?_member.mp hnone).1 hfault

theorem readMoreMembers_step (hf : Faithful fuel) {others : Grammar.Members}
    (h : c.rest = others.spell rest) :
    FindsMembers (readMoreMembers (fuel + 1) depth c) others.shapes rest := by
  rw [readMoreMembers]
  cases others with
  | close before =>
    have hskip := Cursor.rest_skipBlank h (solid_cons (by decide) rest)
    simp only [hskip]
    exact fun _ => ⟨rfl, _, rfl, Cursor.rest_next hskip⟩
  | member before key value others =>
    have hcomma := Cursor.rest_skipBlank h (solid_cons (by decide) _)
    have hskip := Cursor.rest_skipBlank (Cursor.rest_next hcomma)
      (solid_cons (by decide) _)
    simp only [hcomma, hskip]
    exact hf.member (Cursor.rest_next hskip)

end Steps

/-- The readers are faithful with any fuel; without it they find a fault. -/
theorem faithful (fuel : Nat) : Faithful fuel := by
  induction fuel with
  | zero =>
    constructor <;> intros <;> intro hnone <;>
      simp [readValue, readFirstItem, readItem, readMoreItems, readFirstMember, readMember,
        readMoreMembers, Node.firstFault?, Items.firstFault?, Members.firstFault?] at hnone
  | succ fuel ih =>
    exact
      { value := readValue_step ih
        noItem := readFirstItem_close_step
        firstItem := readFirstItem_step ih
        item := readItem_step ih
        moreItems := readMoreItems_step ih
        noMember := readFirstMember_close_step
        firstMember := readFirstMember_step ih
        member := readMember_step ih
        moreMembers := readMoreMembers_step ih }

/-- What is read of a spelled text has the shape of its value, unless it has a fault. -/
theorem shape_ofText (d : Document) (h : (Contents.ofText d.text.toList).root.firstFault? = none) :
    (Contents.ofText d.text.toList).root.shape = d.value.shape := by
  have hstart : (Cursor.ofText d.text.toList).rest =
      spellBlanks d.before (d.value.spell (spellBlanks d.after [])) := String.toList_ofList
  have hend : EndsNumber (spellBlanks d.after []) :=
    endsNumber_spellBlanks endsNumber_nil d.after
  exact ((faithful _).value hstart hend h).1

end TaggedPage.Json
