import Mathlib.Data.List.DropRight
import TaggedPage.Markup.Style

/-! # The last tag decides

A style has eight attributes, the margins at the four edges among them, and a tag overwrites
those that it concerns, whatever they were (`agreeAt_apply_of_mem`), and no other
(`agreeAt_apply_of_not_mem`). So after any sequence of tags each attribute has the value that
the last tag concerning it has given. Nothing is counted and nothing is restored.

A reset concerns the margins at all edges. It does not say what they are but takes back what
was said before, so the margin at an edge is looked for behind the last reset.
-/

namespace TaggedPage.Markup

/-! ## What a tag says -/

namespace Tag

def bold? : Tag → Option Bool
  | .bold opens => some opens
  | _ => none

def italic? : Tag → Option Bool
  | .italic opens => some opens
  | _ => none

/-- The number of a font-size tag, and whether the tag opens. -/
def size? : Tag → Option (UInt32 × Bool)
  | .fontSize points opens => some (points, opens)
  | _ => none

/-- The value of a colour tag, none for a closing one. -/
def color? : Tag → Option (Option Color)
  | .color rgb => some rgb
  | _ => none

def margin? (edge : Edge) : Tag → Option UInt32
  | .margin other value => if other = edge then some value else none
  | _ => none

end Tag

/-- The last value among those that the tags of a sequence give. -/
def lastOf {α : Type} (value? : Tag → Option α) (tags : List Tag) : Option α :=
  (tags.filterMap value?).getLast?

/-- The tags behind the last reset of the margins. -/
def sinceReset (tags : List Tag) : List Tag := tags.rtakeWhile (· ≠ .marginReset)

section

variable {α β : Type} (value? : Tag → Option α) (tags : List Tag) (t : Tag)

theorem lastOf_append_singleton :
    lastOf value? (tags ++ [t]) = (value? t).or (lastOf value? tags) := by
  rw [lastOf, lastOf, List.filterMap_append]
  cases h : value? t with
  | none => rw [List.filterMap_cons_none h, List.filterMap_nil, List.append_nil, Option.none_or]
  | some v =>
    rw [List.filterMap_cons_some h, List.filterMap_nil, List.getLast?_concat, Option.some_or]

theorem lastOf_map (f : α → β) :
    lastOf (fun t => (value? t).map f) tags = (lastOf value? tags).map f := by
  rw [lastOf, lastOf, ← List.getLast?_map, List.map_filterMap]

theorem sinceReset_append_reset : sinceReset (tags ++ [.marginReset]) = [] :=
  List.rtakeWhile_concat_neg _ _ _ (by simp)

theorem sinceReset_append_singleton (h : t ≠ .marginReset) :
    sinceReset (tags ++ [t]) = sinceReset tags ++ [t] :=
  List.rtakeWhile_concat_pos _ _ _ (by simpa using h)

end

namespace Style

/-! ## A sequence of tags -/

theorem applyAll_append_singleton (s : Style) (tags : List Tag) (t : Tag) :
    s.applyAll (tags ++ [t]) = (s.applyAll tags).apply t := by
  simp

/-- What each tag overwrites or leaves alone has the last value that a tag gives it. -/
theorem eq_lastOf {β : Type} (get : Style → β) (value? : Tag → Option β)
    (h : ∀ s t, get (apply s t) = (value? t).getD (get s)) (s : Style) (tags : List Tag) :
    get (s.applyAll tags) = (lastOf value? tags).getD (get s) := by
  induction tags using List.reverseRecOn with
  | nil => rfl
  | append_singleton tags t ih =>
    rw [applyAll_append_singleton, h, ih, lastOf_append_singleton]
    cases value? t <;> rfl

theorem bold_applyAll (s : Style) (tags : List Tag) :
    (s.applyAll tags).bold = (lastOf Tag.bold? tags).getD s.bold :=
  eq_lastOf (·.bold) Tag.bold? (by intro s t; cases t <;> rfl) s tags

theorem italic_applyAll (s : Style) (tags : List Tag) :
    (s.applyAll tags).italic = (lastOf Tag.italic? tags).getD s.italic :=
  eq_lastOf (·.italic) Tag.italic? (by intro s t; cases t <;> rfl) s tags

theorem color_applyAll (s : Style) (tags : List Tag) :
    (s.applyAll tags).color = (lastOf Tag.color? tags).getD s.color :=
  eq_lastOf (·.color) Tag.color? (by intro s t; cases t <;> rfl) s tags

def sizeBehind (said : UInt32 × Bool) : Option Float32 :=
  if said.2 then some said.1.toFloat32 else none

theorem fontSize_applyAll (s : Style) (tags : List Tag) :
    (s.applyAll tags).fontSize = ((lastOf Tag.size? tags).map sizeBehind).getD s.fontSize := by
  rw [← lastOf_map]
  exact eq_lastOf (·.fontSize) _ (by intro s t; cases t <;> rfl) s tags

/-- The margin at an edge is that of the last tag for it behind the last reset. -/
theorem margin_applyAll (tags : List Tag) (edge : Edge) :
    (plain.applyAll tags).margins.get edge =
      (lastOf (Tag.margin? edge) (sinceReset tags)).map UInt32.toFloat32 := by
  induction tags using List.reverseRecOn with
  | nil => exact Margins.get_unset edge
  | append_singleton tags t ih =>
    rw [applyAll_append_singleton]
    by_cases hreset : t = .marginReset
    · subst hreset
      rw [sinceReset_append_reset]
      exact Margins.get_unset edge
    · rw [sinceReset_append_singleton _ _ hreset, lastOf_append_singleton]
      cases t with
      | margin other value =>
        by_cases hedge : other = edge
        · subst hedge
          simp [apply, Tag.margin?]
        · rw [Tag.margin?, if_neg hedge, Option.none_or, ← ih]
          exact Margins.get_set_of_ne _ _ (Ne.symm hedge)
      | marginReset => exact absurd rfl hreset
      | bold | italic | fontSize | color => exact ih

/-! ## Tags of different attributes -/

end Style

/-- What a tag can change of a style. -/
inductive Attribute where
  | bold
  | italic
  | fontSize
  | color
  | margin (edge : Edge)
  deriving DecidableEq, Repr

def Tag.attributes : Tag → List Attribute
  | .bold _ => [.bold]
  | .italic _ => [.italic]
  | .fontSize _ _ => [.fontSize]
  | .color _ => [.color]
  | .margin edge _ => [.margin edge]
  | .marginReset => [.margin .top, .margin .bottom, .margin .left, .margin .right]

namespace Style

def AgreeAt (s s' : Style) : Attribute → Prop
  | .bold => s.bold = s'.bold
  | .italic => s.italic = s'.italic
  | .fontSize => s.fontSize = s'.fontSize
  | .color => s.color = s'.color
  | .margin edge => s.margins.get edge = s'.margins.get edge

theorem AgreeAt.symm {s s' : Style} {a : Attribute} (h : AgreeAt s s' a) : AgreeAt s' s a := by
  cases a <;> exact Eq.symm h

theorem AgreeAt.trans {s s' s'' : Style} {a : Attribute} (h : AgreeAt s s' a)
    (h' : AgreeAt s' s'' a) : AgreeAt s s'' a := by
  cases a <;> exact Eq.trans h h'

/-- A style has no more than its attributes. -/
theorem eq_of_agreeAt {s s' : Style} (h : ∀ a, AgreeAt s s' a) : s = s' := by
  obtain ⟨bold, italic, fontSize, color, ⟨top, bottom, left, right⟩⟩ := s
  obtain ⟨bold', italic', fontSize', color', ⟨top', bottom', left', right'⟩⟩ := s'
  obtain rfl : bold = bold' := h .bold
  obtain rfl : italic = italic' := h .italic
  obtain rfl : fontSize = fontSize' := h .fontSize
  obtain rfl : color = color' := h .color
  obtain rfl : top = top' := h (.margin .top)
  obtain rfl : bottom = bottom' := h (.margin .bottom)
  obtain rfl : left = left' := h (.margin .left)
  obtain rfl : right = right' := h (.margin .right)
  rfl

/-- A tag leaves alone what it does not concern. -/
theorem agreeAt_apply_of_not_mem {t : Tag} {a : Attribute} (h : a ∉ t.attributes) (s : Style) :
    AgreeAt (s.apply t) s a := by
  cases t with
  | bold | italic | fontSize | color =>
    cases a <;> first | rfl | exact absurd List.mem_cons_self h
  | margin edge value =>
    cases a with
    | margin other =>
      have hne : other ≠ edge := by
        rintro rfl
        exact h List.mem_cons_self
      exact Margins.get_set_of_ne _ _ hne
    | bold | italic | fontSize | color => rfl
  | marginReset =>
    cases a with
    | margin edge => exact absurd (by cases edge <;> decide) h
    | bold | italic | fontSize | color => rfl

/-- A tag overwrites what it concerns, whatever that was before. -/
theorem agreeAt_apply_of_mem {t : Tag} {a : Attribute} (h : a ∈ t.attributes) (s s' : Style) :
    AgreeAt (s.apply t) (s'.apply t) a := by
  cases t with
  | bold | italic | fontSize | color =>
    obtain rfl := List.mem_singleton.mp h
    rfl
  | margin edge value =>
    obtain rfl := List.mem_singleton.mp h
    exact (Margins.get_set_self _ _ _).trans (Margins.get_set_self _ _ _).symm
  | marginReset =>
    cases a with
    | margin edge => rfl
    | bold | italic | fontSize | color => exact absurd h (by decide)

theorem agreeAt_applyAll_of_not_mem {tags : List Tag} {a : Attribute}
    (h : ∀ t ∈ tags, a ∉ t.attributes) (s : Style) : AgreeAt (s.applyAll tags) s a := by
  induction tags generalizing s with
  | nil => cases a <;> rfl
  | cons t tags ih =>
    obtain ⟨hfirst, hrest⟩ := List.forall_mem_cons.mp h
    exact (ih hrest (s.apply t)).trans (agreeAt_apply_of_not_mem hfirst s)

/-- Tags that concern different attributes commute. -/
theorem apply_comm_of_disjoint {t u : Tag} (h : t.attributes.Disjoint u.attributes) (s : Style) :
    (s.apply t).apply u = (s.apply u).apply t := by
  refine eq_of_agreeAt fun a => ?_
  by_cases ht : a ∈ t.attributes
  · have hu : a ∉ u.attributes := fun hu => h ht hu
    exact (agreeAt_apply_of_not_mem hu _).trans (agreeAt_apply_of_mem ht _ _)
  · by_cases hu : a ∈ u.attributes
    · exact (agreeAt_apply_of_mem hu _ _).trans (agreeAt_apply_of_not_mem ht _).symm
    · have hfirst := (agreeAt_apply_of_not_mem hu (s.apply t)).trans (agreeAt_apply_of_not_mem ht s)
      have hsecond :=
        (agreeAt_apply_of_not_mem ht (s.apply u)).trans (agreeAt_apply_of_not_mem hu s)
      exact hfirst.trans hsecond.symm

/-- A tag that is repeated has no further effect, as long as the tags in between concern other
attributes. -/
theorem apply_applyAll_apply {t : Tag} {between : List Tag}
    (h : ∀ u ∈ between, t.attributes.Disjoint u.attributes) (s : Style) :
    ((s.apply t).applyAll between).apply t = (s.apply t).applyAll between := by
  refine eq_of_agreeAt fun a => ?_
  by_cases ht : a ∈ t.attributes
  · have hbetween : ∀ u ∈ between, a ∉ u.attributes := fun u hu hmem => h u hu ht hmem
    exact (agreeAt_apply_of_mem ht _ s).trans (agreeAt_applyAll_of_not_mem hbetween _).symm
  · exact agreeAt_apply_of_not_mem ht _

/-- Each attribute is decided by the last tag that concerns it, and by nothing else. Bold and
italic are the flags of the last tags for them, and off without one. The font size is the
number of the last tag for it, in single precision, if that tag opens; it is unset if the tag
closes, whatever its number, and without a tag. The colour is that of the last colour tag. The
margin at an edge is that of the last margin tag for it, if it comes after the last reset, and
else unset. So tags of different attributes commute, the margins at different edges being
different attributes, and a tag that is repeated has no further effect, even where tags of
other attributes stand between. -/
theorem applyAll_by_last_tags (tags : List Tag) :
    let s := plain.applyAll tags
    s.bold = (lastOf Tag.bold? tags).getD false ∧
      s.italic = (lastOf Tag.italic? tags).getD false ∧
      s.fontSize = ((lastOf Tag.size? tags).bind fun (points, opens) =>
        if opens then some points.toFloat32 else none) ∧
      s.color = (lastOf Tag.color? tags).getD none ∧
      (∀ edge, s.margins.get edge =
        (lastOf (Tag.margin? edge) (sinceReset tags)).map UInt32.toFloat32) ∧
      (∀ (style : Style) (t u : Tag), t.attributes.Disjoint u.attributes →
        (style.apply t).apply u = (style.apply u).apply t) ∧
      ∀ (style : Style) (t : Tag) (between : List Tag),
        (∀ u ∈ between, t.attributes.Disjoint u.attributes) →
          ((style.apply t).applyAll between).apply t = (style.apply t).applyAll between := by
  refine ⟨bold_applyAll plain tags, italic_applyAll plain tags, ?_, color_applyAll plain tags,
    margin_applyAll tags, ?_, ?_⟩
  · rw [fontSize_applyAll]
    cases lastOf Tag.size? tags <;> rfl
  · intro style t u h
    exact apply_comm_of_disjoint h style
  · intro style t between h
    exact apply_applyAll_apply h style

/-- Margins at two edges commute, and a margin set before a reset is gone. -/
theorem applyAll_by_last_tags_at_edges :
    let top := Tag.margin .top 4
    let left := Tag.margin .left 10
    top.attributes.Disjoint left.attributes ∧
      (plain.apply top).apply left = (plain.apply left).apply top ∧
      ((plain.apply top).applyAll [left]).apply top = (plain.apply top).applyAll [left] ∧
      (plain.applyAll [top, .marginReset, left]).margins.get .top = none := by
  intro top left
  have hedges : top.attributes.Disjoint left.attributes := by
    intro a htop hleft
    rw [List.mem_singleton.mp htop] at hleft
    exact absurd hleft (by decide)
  obtain ⟨-, -, -, -, hmargin, hcomm, hrepeat⟩ := applyAll_by_last_tags [top, .marginReset, left]
  exact ⟨hedges, hcomm plain top left hedges, hrepeat plain top [left] (by simpa using hedges),
    hmargin .top⟩

end Style

end TaggedPage.Markup
