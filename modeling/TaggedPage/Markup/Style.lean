import TaggedPage.Markup.Tag
import TaggedPage.Variant

/-! # Running style

The style of a line is changed tag by tag from left to right. Tags are
independent switches and do not nest: a closing tag clears its attribute outright,
however often it was opened.
-/

namespace TaggedPage.Markup

/-- The style in force at one point of a line. An unset attribute is left to the
defaults of the document. -/
structure Style where
  bold : Bool := false
  italic : Bool := false
  fontSize : Option Float32 := none
  color : Option Color := none
  margins : Margins := .unset
  deriving Inhabited

namespace Style

/-- The style at the start of a line. -/
def plain : Style := {}

def apply (s : Style) : Tag → Style
  | .bold opens => { s with bold := opens }
  | .italic opens => { s with italic := opens }
  | .fontSize points opens =>
    { s with fontSize := if opens then some points.toFloat32 else none }
  | .color rgb => { s with color := rgb }
  | .margin edge value => { s with margins := s.margins.set value.toFloat32 edge }
  | .marginReset => { s with margins := .unset }

def applyAll (s : Style) (tags : List Tag) : Style := tags.foldl apply s

@[simp] theorem applyAll_nil (s : Style) : s.applyAll [] = s := rfl

@[simp] theorem applyAll_cons (s : Style) (tag : Tag) (tags : List Tag) :
    s.applyAll (tag :: tags) = (s.apply tag).applyAll tags := rfl

@[simp] theorem applyAll_append (s : Style) (tags more : List Tag) :
    s.applyAll (tags ++ more) = (s.applyAll tags).applyAll more := by
  simp [applyAll]

def variant (s : Style) : Variant := Variant.ofFlags s.bold s.italic

end Style

end TaggedPage.Markup
