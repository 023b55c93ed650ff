/-! # Reading font data

Font files hold big-endian numbers at byte offsets. Every reader answers nothing
when the bytes it needs are not all there.
-/

namespace TaggedPage.Font

def u8? (data : ByteArray) (at_ : Nat) : Option Nat := (data[at_]?).map UInt8.toNat

def u16? (data : ByteArray) (at_ : Nat) : Option Nat := do
  let high ← u8? data at_
  let low ← u8? data (at_ + 1)
  return 256 * high + low

def u32? (data : ByteArray) (at_ : Nat) : Option Nat := do
  let high ← u16? data at_
  let low ← u16? data (at_ + 2)
  return 65536 * high + low

/-- The number below 2¹⁶ read as a signed one in two's complement. -/
def signed16 (n : Nat) : Int := if n < 0x8000 then n else (n : Int) - 0x10000

def i16? (data : ByteArray) (at_ : Nat) : Option Int := (u16? data at_).map signed16

/-- The bytes from an offset on, if the data reaches that far. -/
def from? (data : ByteArray) (offset : Nat) : Option ByteArray :=
  if offset ≤ data.size then some (data.extract offset data.size) else none

def slice? (data : ByteArray) (offset length : Nat) : Option ByteArray :=
  if offset + length ≤ data.size then some (data.extract offset (offset + length)) else none

/-- Four characters as the number that tags a table. -/
def tagOf (name : String) : Nat := name.toList.foldl (fun n c => 256 * n + c.toNat) 0

/-- The position, among `count` entries in ascending order, of the one that `order`
finds equal; `order` compares an entry with what is sought. The search keeps a
base and halves the number of entries behind it. -/
def bisect (order : Nat → Option Ordering) (count : Nat) : Option Nat :=
  if count = 0 then none
  else do
    let base ← narrow count 0 count
    if (← order base) = .eq then some base else none
where
  narrow : (fuel base size : Nat) → Option Nat
    | 0, base, _ => some base
    | fuel + 1, base, size =>
      if size ≤ 1 then some base
      else do
        let half := size / 2
        let middle := base + half
        let next := if (← order middle) = .gt then base else middle
        narrow fuel next (size - half)

end TaggedPage.Font
