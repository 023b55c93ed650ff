import TaggedPage.Pdf.Literal

/-! # Literal strings read back

A reader of a literal string counts the parentheses that are open inside it, so that the
string ends with the first closing one that has no partner there. A backslash changes what
comes behind it: a letter may stand for a control character, up to three octal digits for a
code, the end of a line for nothing, and every other byte for itself. The end of a line
without a backslash is read as a line feed, however it was written.

What the writer leaves unescaped is read as it stands: the parentheses that it found partners
for are those that the reader counts. So a written string is read back as it was, up to its
own closing parenthesis, whatever follows it (`read?_write`).
-/

namespace TaggedPage.Pdf.Literal

def lineFeed : UInt8 := 10

/-- The control character that a letter behind a backslash stands for. -/
def control? : UInt8 → Option UInt8
  | 110 => some lineFeed
  | 114 => some carriageReturn
  | 116 => some 9
  | 98 => some 8
  | 102 => some 12
  | _ => none

def isOctal (b : UInt8) : Bool := 48 ≤ b && b ≤ 55

/-- The code that octal digits stand for. A carry out of the highest bit is lost. -/
def octalCode (digits : List UInt8) : UInt8 := digits.foldl (fun n d => n * 8 + (d - 48)) 0

/-- What is left behind a carriage return: a line feed belongs to the same end of a line. -/
def afterReturn : List UInt8 → List UInt8
  | [] => []
  | b :: rest => if b = lineFeed then rest else b :: rest

/-- What the bytes behind a backslash stand for, and those that are left. -/
def escape : List UInt8 → List UInt8 × List UInt8
  | [] => ([], [])
  | b :: rest =>
    if isOctal b then
      let digits := b :: (rest.take 2).takeWhile isOctal
      ([octalCode digits], rest.drop (digits.length - 1))
    else if b = carriageReturn then ([], afterReturn rest)
    else if b = lineFeed then ([], rest)
    else ([(control? b).getD b], rest)

theorem length_afterReturn_le (rest : List UInt8) : (afterReturn rest).length ≤ rest.length := by
  cases rest with
  | nil => exact Nat.le_refl 0
  | cons b rest =>
    rw [afterReturn]
    split
    · exact Nat.le_succ _
    · exact Nat.le_refl _

theorem length_escape_le (rest : List UInt8) : (escape rest).2.length ≤ rest.length := by
  cases rest with
  | nil => exact Nat.le_refl 0
  | cons b rest =>
    have hreturn := length_afterReturn_le rest
    rw [escape, List.length_cons]
    split
    · rw [List.length_drop]
      omega
    · split
      · exact Nat.le_succ_of_le hreturn
      · split <;> exact Nat.le_succ _

/-- A string that begins with further bytes, with what is left behind it. -/
def prepend (bytes : List UInt8) (r : List UInt8 × List UInt8) : List UInt8 × List UInt8 :=
  (bytes ++ r.1, r.2)

/-- Reads on in a string in which `depth` parentheses are open. Gives its bytes and what is
left behind its closing parenthesis, if it has one. -/
def readFrom (depth : Nat) : List UInt8 → Option (List UInt8 × List UInt8)
  | [] => none
  | b :: rest =>
    if b = openParen then (readFrom (depth + 1) rest).map (prepend [b])
    else if b = closeParen then
      if depth = 0 then some ([], rest) else (readFrom (depth - 1) rest).map (prepend [b])
    else if b = backslash then (readFrom depth (escape rest).2).map (prepend (escape rest).1)
    else if b = carriageReturn then (readFrom depth (afterReturn rest)).map (prepend [lineFeed])
    else (readFrom depth rest).map (prepend [b])
termination_by input => input.length
decreasing_by
  all_goals
    have hescape := length_escape_le rest
    have hreturn := length_afterReturn_le rest
    simp only [List.length_cons]
    omega

/-- Reads a string from its opening parenthesis on. -/
def read? : List UInt8 → Option (List UInt8 × List UInt8)
  | [] => none
  | b :: rest => if b = openParen then readFrom 0 rest else none

/-! ## Steps of the reader -/

section Steps

variable (depth : Nat) (rest : List UInt8)

theorem readFrom_open :
    readFrom depth (openParen :: rest) = (readFrom (depth + 1) rest).map (prepend [openParen]) := by
  rw [readFrom, if_pos rfl]

theorem readFrom_close_inner :
    readFrom (depth + 1) (closeParen :: rest) =
      (readFrom depth rest).map (prepend [closeParen]) := by
  rw [readFrom, if_neg (by decide), if_pos rfl, if_neg (Nat.succ_ne_zero depth),
    Nat.add_sub_cancel]

theorem readFrom_close_outer : readFrom 0 (closeParen :: rest) = some ([], rest) := by
  rw [readFrom, if_neg (by decide), if_pos rfl, if_pos rfl]

/-- Two bytes of which the first is a backslash may stand for one. -/
theorem readFrom_escaped {rest : List UInt8} (b code : UInt8)
    (h : escape (b :: rest) = ([code], rest)) :
    readFrom depth (backslash :: b :: rest) = (readFrom depth rest).map (prepend [code]) := by
  rw [readFrom, if_neg (by decide), if_neg (by decide), if_pos rfl, h]

theorem readFrom_plain {b : UInt8} (hopen : b ≠ openParen) (hclose : b ≠ closeParen)
    (hbackslash : b ≠ backslash) (hreturn : b ≠ carriageReturn) :
    readFrom depth (b :: rest) = (readFrom depth rest).map (prepend [b]) := by
  rw [readFrom, if_neg hopen, if_neg hclose, if_neg hbackslash, if_neg hreturn]

end Steps

theorem eq_some_of_map_prepend {r : Option (List UInt8 × List UInt8)}
    {first bytes rest : List UInt8} (h : r.map (prepend first) = some (bytes, rest)) :
    ∃ others, r = some (others, rest) := by
  obtain ⟨⟨others, left⟩, rfl, heq⟩ := Option.map_eq_some_iff.mp h
  obtain ⟨-, rfl⟩ := Prod.mk.inj heq
  exact ⟨others, rfl⟩

/-- What is left behind a string is shorter than what it was read from. -/
theorem length_lt_of_readFrom {depth : Nat} {input bytes rest : List UInt8}
    (h : readFrom depth input = some (bytes, rest)) : rest.length < input.length := by
  fun_induction readFrom depth input generalizing bytes with
  | case1 => cases h
  | case3 tail =>
    obtain ⟨-, rfl⟩ := Prod.mk.inj (Option.some.inj h)
    exact Nat.lt_succ_self _
  | case5 depth tail _ _ ih =>
    obtain ⟨others, hread⟩ := eq_some_of_map_prepend h
    exact Nat.lt_succ_of_le (Nat.le_trans (Nat.le_of_lt (ih hread)) (length_escape_le tail))
  | case6 depth tail _ _ _ ih =>
    obtain ⟨others, hread⟩ := eq_some_of_map_prepend h
    exact Nat.lt_succ_of_le (Nat.le_trans (Nat.le_of_lt (ih hread)) (length_afterReturn_le tail))
  | case2 _ _ ih | case4 _ _ _ _ ih | case7 _ _ _ _ _ _ _ ih =>
    obtain ⟨others, hread⟩ := eq_some_of_map_prepend h
    exact Nat.lt_succ_of_lt (ih hread)

/-! ## Written strings -/

theorem map_prepend_cons (r : Option (List UInt8 × List UInt8)) (b : UInt8)
    (bytes : List UInt8) :
    (r.map (prepend bytes)).map (prepend [b]) = r.map (prepend (b :: bytes)) :=
  Option.map_map _ _ r

/-- Bytes are read back from their written form. Of the parentheses that are open in front of
them, the reader has counted those that find a partner among them, and none of the others,
which were escaped. -/
theorem readFrom_body (depth outer : Nat) (bytes tail : List UInt8) :
    readFrom ((body depth bytes).2 + outer) ((body depth bytes).1 ++ tail) =
      (readFrom outer tail).map (prepend bytes) := by
  fun_induction body depth bytes generalizing outer with
  | case1 depth =>
    rw [Nat.zero_add, List.nil_append]
    exact Option.map_id'.symm
  | case2 depth rest written hbody ih =>
    -- an opening parenthesis without a partner: escaped, and not counted
    have hread := ih outer
    rw [hbody, Nat.zero_add] at hread
    rw [Nat.zero_add, List.cons_append, List.cons_append,
      readFrom_escaped _ openParen openParen rfl, hread, map_prepend_cons]
  | case3 depth rest written partners hbody ih =>
    -- one with a partner: written as it is, and counted from here on
    have hread := ih outer
    rw [hbody, Nat.succ_eq_add_one, Nat.add_right_comm] at hread
    rw [List.cons_append, readFrom_open, hread, map_prepend_cons]
  | case4 rest written partners hbody _ ih =>
    have hread := ih outer
    rw [hbody] at hread
    rw [List.cons_append, List.cons_append, readFrom_escaped _ closeParen closeParen rfl, hread,
      map_prepend_cons]
  | case5 rest depth written partners hbody _ ih =>
    have hread := ih outer
    rw [hbody] at hread
    rw [Nat.add_right_comm, List.cons_append, readFrom_close_inner, hread, map_prepend_cons]
  | case6 depth rest written partners hbody _ _ ih =>
    have hread := ih outer
    rw [hbody] at hread
    rw [List.cons_append, List.cons_append, readFrom_escaped _ backslash backslash rfl, hread,
      map_prepend_cons]
  | case7 depth rest written partners hbody _ _ _ ih =>
    have hread := ih outer
    rw [hbody] at hread
    rw [List.cons_append, List.cons_append, readFrom_escaped _ 114 carriageReturn rfl, hread,
      map_prepend_cons]
  | case8 depth b rest hopen hclose written partners hbody hbackslash hreturn ih =>
    have hread := ih outer
    rw [hbody] at hread
    rw [List.cons_append, readFrom_plain _ _ hopen hclose hbackslash hreturn, hread,
      map_prepend_cons]

/-- Only as many parentheses find a partner as are open. -/
theorem partners_le (depth : Nat) (bytes : List UInt8) : (body depth bytes).2 ≤ depth := by
  fun_induction body depth bytes with
  | case1 depth | case2 depth => exact Nat.zero_le depth
  | case3 depth rest written partners hbody ih =>
    rw [hbody] at ih
    exact Nat.le_of_succ_le_succ ih
  | case5 rest depth written partners hbody _ ih =>
    rw [hbody] at ih
    exact Nat.succ_le_succ ih
  | case4 _ _ _ hbody _ ih | case6 _ _ _ _ hbody _ _ ih | case7 _ _ _ _ hbody _ _ _ ih
  | case8 _ _ _ _ _ _ _ hbody _ _ ih =>
    -- all other bytes leave the parentheses alone
    rw [hbody] at ih
    exact ih

/-- Behind its opening parenthesis a written string is read back up to its own closing one. -/
theorem readFrom_write (bytes rest : List UInt8) :
    readFrom 0 ((body 0 bytes).1 ++ closeParen :: rest) = some (bytes, rest) := by
  have hbody := readFrom_body 0 0 bytes (closeParen :: rest)
  rw [Nat.le_zero.mp (partners_le 0 bytes), readFrom_close_outer] at hbody
  rw [hbody, Option.map_some, prepend, List.append_nil]

theorem write_append (bytes rest : List UInt8) :
    write bytes ++ rest = openParen :: ((body 0 bytes).1 ++ closeParen :: rest) := by
  rw [write, List.append_assoc, List.cons_append, List.singleton_append]

/-- A written string is read back as it was, whatever follows it. -/
theorem read?_write (bytes rest : List UInt8) :
    read? (write bytes ++ rest) = some (bytes, rest) := by
  rw [write_append, read?, if_pos rfl, readFrom_write]

end TaggedPage.Pdf.Literal
