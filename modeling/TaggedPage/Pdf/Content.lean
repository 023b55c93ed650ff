import TaggedPage.Pdf.Object

/-! # Content of a page

A page is drawn by a sequence of operations, each written as its operands with the
operator behind them.
-/

namespace TaggedPage.Pdf

/-- One operation of a page's content. -/
structure Operation where
  operator : String
  operands : List Object := []
  deriving Inhabited

namespace Operation

def beginText : Operation := ⟨"BT", []⟩

def endText : Operation := ⟨"ET", []⟩

def setFont (name : String) (size : Float32) : Operation := ⟨"Tf", [.name name, .real size]⟩

/-- Sets the colour in which text is filled. -/
def setFill (red green blue : Float32) : Operation :=
  ⟨"rg", [.real red, .real green, .real blue]⟩

def moveTo (x y : Float32) : Operation := ⟨"Td", [.real x, .real y]⟩

def showString (bytes : List UInt8) : Operation := ⟨"Tj", [.string bytes]⟩

def write (o : Operation) : List UInt8 :=
  (o.operands.flatMap fun operand => operand.write ++ [32]) ++ ascii o.operator

end Operation

/-- The written form of a page's content, one operation a line. -/
def writeContent : List Operation → List UInt8
  | [] => []
  | [o] => o.write
  | o :: rest => o.write ++ 10 :: writeContent rest

end TaggedPage.Pdf
