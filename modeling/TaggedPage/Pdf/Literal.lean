/-! # Literal strings

A literal string stands between parentheses. Parentheses inside it need no mark as
long as they are balanced; one without a partner is written behind a backslash, as
is a backslash itself, and a carriage return as the letter `r` behind one. All
other bytes stand for themselves.
-/

namespace TaggedPage.Pdf.Literal

def openParen : UInt8 := 40
def closeParen : UInt8 := 41
def backslash : UInt8 := 92
def carriageReturn : UInt8 := 13

/-- The written form of bytes behind which `depth` opening parentheses stand that
may still find a partner, with the number of these that do. -/
def body (depth : Nat) : List UInt8 → List UInt8 × Nat
  | [] => ([], 0)
  | b :: rest =>
    if b = openParen then
      match body (depth + 1) rest with
      | (written, 0) => (backslash :: b :: written, 0)
      | (written, partners + 1) => (b :: written, partners)
    else if b = closeParen then
      match depth with
      | 0 =>
        let (written, partners) := body 0 rest
        (backslash :: b :: written, partners)
      | depth + 1 =>
        let (written, partners) := body depth rest
        (b :: written, partners + 1)
    else
      let (written, partners) := body depth rest
      if b = backslash then (backslash :: b :: written, partners)
      else if b = carriageReturn then (backslash :: 114 :: written, partners)
      else (b :: written, partners)

def write (bytes : List UInt8) : List UInt8 :=
  openParen :: (body 0 bytes).1 ++ [closeParen]

end TaggedPage.Pdf.Literal
