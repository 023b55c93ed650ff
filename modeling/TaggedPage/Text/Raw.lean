/-! # Raw texts

The texts that the system hands over, such as paths and arguments: bytes, as a rule in UTF-8, but
they need not be. Every text is a raw text. A raw text can always be shown, with a replacement
character for each part that is no character.
-/

namespace TaggedPage

/-- A text in bytes that need not be UTF-8. -/
structure RawText where
  bytes : List UInt8
  deriving DecidableEq, Repr

namespace RawText

def ofText (text : String) : RawText := ⟨text.toByteArray.data.toList⟩

instance : Coe String RawText := ⟨ofText⟩

instance : Append RawText := ⟨fun a b => ⟨a.bytes ++ b.bytes⟩⟩

/-- The text, if there is one with these bytes. -/
def text? (raw : RawText) : Option String := String.fromUTF8? ⟨raw.bytes.toArray⟩

/-- Whether a byte may follow the first byte of a character of three or four bytes. -/
def goesOn (first second : UInt8) : Bool :=
  if first = 0xE0 then 0xA0 ≤ second && second ≤ 0xBF
  else if first = 0xED then 0x80 ≤ second && second ≤ 0x9F
  else if first = 0xF0 then 0x90 ≤ second && second ≤ 0xBF
  else if first = 0xF4 then 0x80 ≤ second && second ≤ 0x8F
  else 0xE1 ≤ first && first ≤ 0xF3 && 0x80 ≤ second && second ≤ 0xBF

/-- The number of bytes, behind the first one, with which what is no character might still have
become one. -/
def brokenTail (first : UInt8) : List UInt8 → Nat
  | [] => 0
  | second :: rest =>
    if goesOn first second then
      if 0xF0 ≤ first && rest.head?.any (fun third => 0x80 ≤ third && third ≤ 0xBF) then 2 else 1
    else 0

/-- The character with which bytes begin. It has at most four of them. -/
def firstChar? (bytes : List UInt8) : Option Char :=
  ByteArray.utf8DecodeChar? ⟨(bytes.take 4).toArray⟩ 0

/-- What is shown of bytes, of which the first `skipped` ones belong to something shown before. -/
def shownFrom : (skipped : Nat) → List UInt8 → List Char
  | _, [] => []
  | skipped + 1, _ :: rest => shownFrom skipped rest
  | 0, first :: rest =>
    match firstChar? (first :: rest) with
    | some c => c :: shownFrom (c.utf8Size - 1) rest
    | none => '\uFFFD' :: shownFrom (brokenTail first rest) rest

/-- The text, with a replacement character for every part that is no character. -/
def shown (raw : RawText) : String := String.ofList (shownFrom 0 raw.bytes)

/-! ## Texts -/

@[simp] theorem bytes_append (a b : RawText) : (a ++ b).bytes = a.bytes ++ b.bytes := rfl

theorem empty_append (a : RawText) : ("" : RawText) ++ a = a := rfl

theorem append_assoc (a b c : RawText) : a ++ b ++ c = a ++ (b ++ c) :=
  congrArg RawText.mk (List.append_assoc a.bytes b.bytes c.bytes)

theorem append_right_inj {b c : RawText} (a : RawText) : a ++ b = a ++ c ↔ b = c := by
  refine ⟨fun h => congrArg RawText.mk (List.append_cancel_left (RawText.mk.inj h)), ?_⟩
  rintro rfl
  rfl

theorem ofText_inj {a b : String} : ofText a = ofText b ↔ a = b := by
  refine ⟨fun h => String.toByteArray_inj.mp (ByteArray.ext (Array.toList_inj.mp ?_)), ?_⟩
  · exact RawText.mk.inj h
  · rintro rfl
    rfl

end RawText

end TaggedPage
