/-! # Variants

The four faces of a font family, selected by the bold and italic flags together.
-/

namespace TaggedPage

/-- One of the four faces of a family. -/
inductive Variant where
  | normal
  | bold
  | italic
  | boldItalic
  deriving DecidableEq, Repr, Inhabited

namespace Variant

/-- The variants in the order in which faces are loaded and registered. -/
def all : List Variant := [normal, bold, italic, boldItalic]

theorem mem_all (v : Variant) : v ∈ all := by cases v <;> decide

def ofFlags : (isBold isItalic : Bool) → Variant
  | false, false => normal
  | true, false => bold
  | false, true => italic
  | true, true => boldItalic

def isBold : Variant → Bool
  | normal | italic => false
  | bold | boldItalic => true

def isItalic : Variant → Bool
  | normal | bold => false
  | italic | boldItalic => true

@[simp] theorem ofFlags_flags (v : Variant) : ofFlags v.isBold v.isItalic = v := by
  cases v <;> rfl

/-- The position of a variant in `all`. -/
def index : Variant → Fin 4
  | normal => 0
  | bold => 1
  | italic => 2
  | boldItalic => 3

/-- The name of a face in messages. -/
def name : Variant → String
  | normal => "regular"
  | bold => "bold"
  | italic => "italic"
  | boldItalic => "boldItalic"

/-- The key that stands for a variant in data files. -/
def key : Variant → String
  | normal => "normal"
  | bold => "bold"
  | italic => "italic"
  | boldItalic => "boldItalic"

/-- The name of a variant in reports for developers. -/
def label : Variant → String
  | normal => "Normal"
  | bold => "Bold"
  | italic => "Italic"
  | boldItalic => "BoldItalic"

end Variant

end TaggedPage
