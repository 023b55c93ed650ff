/-! # Page geometry

Page dimensions and margins, in points.
-/

namespace TaggedPage

/-- The dimensions of a page. -/
structure PageSize where
  width : Float32
  height : Float32
  deriving Inhabited

/-- The sheet of 210 by 297 millimetres in whole points. -/
def PageSize.a4 : PageSize := ⟨595.0, 842.0⟩

/-- One side of a piece of text. -/
inductive Edge where
  | top
  | bottom
  | left
  | right
  deriving DecidableEq, Repr

/-- Spacing at each edge, where any edge may be left unset. -/
structure Margins where
  top : Option Float32 := none
  bottom : Option Float32 := none
  left : Option Float32 := none
  right : Option Float32 := none
  deriving Inhabited

namespace Margins

def unset : Margins := {}

def get (m : Margins) : Edge → Option Float32
  | .top => m.top
  | .bottom => m.bottom
  | .left => m.left
  | .right => m.right

def set (m : Margins) (value : Float32) : Edge → Margins
  | .top => { m with top := some value }
  | .bottom => { m with bottom := some value }
  | .left => { m with left := some value }
  | .right => { m with right := some value }

def isEmpty (m : Margins) : Bool :=
  m.top.isNone && m.bottom.isNone && m.left.isNone && m.right.isNone

def orZero (m : Margins) (edge : Edge) : Float32 := (m.get edge).getD 0

@[simp] theorem get_unset (edge : Edge) : unset.get edge = none := by cases edge <;> rfl

@[simp] theorem get_set_self (m : Margins) (value : Float32) (edge : Edge) :
    (m.set value edge).get edge = some value := by cases edge <;> rfl

theorem get_set_of_ne (m : Margins) (value : Float32) {edge other : Edge} (h : other ≠ edge) :
    (m.set value edge).get other = m.get other := by
  cases edge <;> cases other <;> simp_all [get, set]

end Margins

end TaggedPage
