import TaggedPage.Text.ShownByNumber

/-! # Quoted text

A text between double quotes, in which quotes, backslashes and the common control
characters are written with a backslash, and characters that could not be seen
with their number.
-/

namespace TaggedPage.Quoted

def escape (c : Char) : List Char :=
  match c with
  | '\x00' => ['\\', '0']
  | '\t' => ['\\', 't']
  | '\r' => ['\\', 'r']
  | '\n' => ['\\', 'n']
  | '"' => ['\\', '"']
  | '\\' => ['\\', '\\']
  | c =>
    if isShownByNumber c then
      ['\\', 'u', '\x7b'] ++ Nat.toDigits 16 c.toNat ++ ['\x7d']
    else [c]

def quoteChars (text : List Char) : List Char := '"' :: text.flatMap escape ++ ['"']

def quote (text : String) : String := String.ofList (quoteChars text.toList)

end TaggedPage.Quoted
