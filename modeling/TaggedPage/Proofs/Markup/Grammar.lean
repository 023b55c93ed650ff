import Mathlib.Data.List.Induction
import Mathlib.Tactic.IntervalCases
import TaggedPage.Markup.Tag

/-! # The grammar of tags

`Word` lists the words of the tag language with the tags they denote, apart from
the functions that read them, and `Spells` puts a word between angle brackets. A
digit is given by its place in an alphabet, and a number by what appending a digit
does to its value.

Reading agrees with the grammar: `read?` succeeds exactly on the texts that begin
with a spelling. The proof has two halves. The reader of words follows the grammar
word by word, and no word contains a bracket, so the first one behind the opening
bracket ends the tag.
-/

namespace TaggedPage.Markup

/-- The decimal digits in ascending order of their values. -/
def decimalAlphabet : List Char := ['0', '1', '2', '3', '4', '5', '6', '7', '8', '9']

def smallHexAlphabet : List Char := decimalAlphabet ++ ['a', 'b', 'c', 'd', 'e', 'f']

def capitalHexAlphabet : List Char := decimalAlphabet ++ ['A', 'B', 'C', 'D', 'E', 'F']

def DecimalDigit (c : Char) (v : Nat) : Prop := decimalAlphabet[v]? = some c

def HexDigit (c : Char) (v : Nat) : Prop :=
  smallHexAlphabet[v]? = some c ∨ capitalHexAlphabet[v]? = some c

/-- A non-empty run of decimal digits and its value. Leading zeros are allowed. -/
inductive Digits : List Char → Nat → Prop where
  | one {c : Char} {v : Nat} : DecimalDigit c v → Digits [c] v
  | snoc {run : List Char} {n : Nat} {c : Char} {v : Nat} :
      Digits run n → DecimalDigit c v → Digits (run ++ [c]) (10 * n + v)

def HexByte (c d : Char) (byte : UInt8) : Prop :=
  ∃ x y, HexDigit c x ∧ HexDigit d y ∧ byte.toNat = 16 * x + y

/-- The letter that names an edge in a margin tag. -/
def edgeLetter : Edge → Char
  | .top => 't'
  | .bottom => 'b'
  | .left => 'l'
  | .right => 'r'

/-- A word of the tag language and the tag it denotes. -/
inductive Word : List Char → Tag → Prop where
  | boldOn : Word ['b'] (.bold true)
  | boldOff : Word ['/', 'b'] (.bold false)
  | italicOn : Word ['i'] (.italic true)
  | italicOff : Word ['/', 'i'] (.italic false)
  | sizeOn {run : List Char} {n : UInt32} :
      Digits run n.toNat → Word run (.fontSize n true)
  | sizeOff {run : List Char} {n : UInt32} :
      Digits run n.toNat → Word ('/' :: run) (.fontSize n false)
  | colorOn {r₁ r₂ g₁ g₂ b₁ b₂ : Char} {r g b : UInt8} :
      HexByte r₁ r₂ r → HexByte g₁ g₂ g → HexByte b₁ b₂ b →
        Word ['#', r₁, r₂, g₁, g₂, b₁, b₂] (.color (some ⟨r, g, b⟩))
  | colorOff : Word ['/', '#'] (.color none)
  | margin (edge : Edge) {run : List Char} {n : UInt32} :
      Digits run n.toNat → Word ('m' :: edgeLetter edge :: run) (.margin edge n)
  | marginsOff : Word ['/', 'm'] .marginReset

/-- A complete tag: a word between angle brackets. -/
def Spells (s : List Char) (tag : Tag) : Prop :=
  ∃ word, s = '<' :: (word ++ ['>']) ∧ Word word tag

/-! ## Digits and numbers -/

theorem decimalDigit_iff {c : Char} {v : Nat} :
    DecimalDigit c v ↔ c.isDigit = true ∧ c.toNat - '0'.toNat = v := by
  constructor
  · intro h
    obtain ⟨hv, rfl⟩ := List.getElem?_eq_some_iff.mp h
    change v < 10 at hv
    interval_cases v <;> exact ⟨rfl, rfl⟩
  · rintro ⟨hdigit, rfl⟩
    obtain ⟨hlow, hhigh⟩ := Char.isDigit_iff_toNat.mp hdigit
    rw [← Char.ofNat_toNat c]
    generalize c.toNat = n at hlow hhigh
    change 48 ≤ n at hlow
    change n ≤ 57 at hhigh
    interval_cases n <;> rfl

/-- Between two characters there are only the characters of the codes between theirs. -/
theorem eq_ofNat_of_between {c low high : Char} (h : low ≤ c ∧ c ≤ high) :
    ∃ n, low.toNat ≤ n ∧ n ≤ high.toNat ∧ c = Char.ofNat n :=
  ⟨c.toNat, h.1, h.2, (Char.ofNat_toNat c).symm⟩

theorem hexDigit_iff {c : Char} {v : Nat} : HexDigit c v ↔ hexValue? c = some v := by
  constructor
  · rintro (h | h)
    all_goals
      obtain ⟨hv, rfl⟩ := List.getElem?_eq_some_iff.mp h
      change v < 16 at hv
      interval_cases v <;> rfl
  · intro h
    unfold hexValue? at h
    split_ifs at h with hdecimal hsmall hcapital
    · obtain rfl := Option.some.inj h
      obtain ⟨n, hlow, hhigh, rfl⟩ := eq_ofNat_of_between hdecimal
      change 48 ≤ n at hlow
      change n ≤ 57 at hhigh
      interval_cases n <;> exact .inl rfl
    · obtain rfl := Option.some.inj h
      obtain ⟨n, hlow, hhigh, rfl⟩ := eq_ofNat_of_between hsmall
      change 97 ≤ n at hlow
      change n ≤ 102 at hhigh
      interval_cases n <;> exact .inl rfl
    · obtain rfl := Option.some.inj h
      obtain ⟨n, hlow, hhigh, rfl⟩ := eq_ofNat_of_between hcapital
      change 65 ≤ n at hlow
      change n ≤ 70 at hhigh
      interval_cases n <;> exact .inr rfl

theorem digitsValue_concat (start : Nat) (run : List Char) (c : Char) :
    Number.digitsValue start (run ++ [c]) =
      10 * Number.digitsValue start run + (c.toNat - '0'.toNat) := by
  simp [Number.digitsValue]

theorem digits_iff {run : List Char} {n : Nat} :
    Digits run n ↔
      run ≠ [] ∧ (∀ c ∈ run, c.isDigit = true) ∧ Number.digitsValue 0 run = n := by
  constructor
  · intro h
    induction h with
    | one hc =>
      obtain ⟨hdigit, hvalue⟩ := decimalDigit_iff.mp hc
      exact ⟨by simp, by simpa using hdigit, by simpa [Number.digitsValue] using hvalue⟩
    | snoc _ hc ih =>
      obtain ⟨hdigit, hvalue⟩ := decimalDigit_iff.mp hc
      obtain ⟨_, hrun, hn⟩ := ih
      refine ⟨by simp, ?_, ?_⟩
      · intro d hd
        rcases List.mem_append.mp hd with hd | hd
        · exact hrun d hd
        · rwa [List.mem_singleton.mp hd]
      · rw [digitsValue_concat, hn, hvalue]
  · rintro ⟨hne, hdigits, rfl⟩
    induction run using List.reverseRecOn with
    | nil => exact absurd rfl hne
    | append_singleton run c ih =>
      have hc : DecimalDigit c (c.toNat - '0'.toNat) :=
        decimalDigit_iff.mpr ⟨hdigits c (by simp), rfl⟩
      by_cases hrun : run = []
      · subst hrun
        simpa [Number.digitsValue] using Digits.one hc
      · rw [digitsValue_concat]
        exact .snoc (ih hrun fun d hd => hdigits d (List.mem_append_left _ hd)) hc

theorem Digits.isDigit {run : List Char} {n : Nat} (h : Digits run n) :
    ∀ c ∈ run, c.isDigit = true := (digits_iff.mp h).2.1

theorem Digits.ne_cons {run : List Char} {n : Nat} (h : Digits run n) {c : Char}
    (hc : c.isDigit = false) (rest : List Char) : run ≠ c :: rest := by
  rintro rfl
  simp [h.isDigit c (by simp)] at hc

/-- A number is read from a run of digits whose value fits in 32 bits, and from nothing else. -/
theorem number?_eq_some_iff {run : List Char} {n : UInt32} :
    number? run = some n ↔ Digits run n.toNat := by
  rw [digits_iff]
  unfold number?
  constructor
  · intro h
    split at h
    · simp at h
    · next hrun =>
      simp only [Bool.or_eq_true, List.isEmpty_iff, Bool.not_eq_true', not_or,
        Bool.not_eq_false, List.all_eq_true] at hrun
      dsimp only at h
      split at h
      · next hlt =>
        obtain rfl := Option.some.inj h
        exact ⟨hrun.1, hrun.2, (UInt32.toNat_ofNat_of_lt' hlt).symm⟩
      · simp at h
  · rintro ⟨hne, hdigits, hvalue⟩
    have hlt : n.toNat < 4294967296 := n.toNat_lt
    have hall : run.all Char.isDigit = true := List.all_eq_true.mpr hdigits
    simp [hne, hall, hvalue, hlt]

theorem number?_eq_none_of_digits {run : List Char} {n : Nat} (h : Digits run n)
    (hn : 2 ^ 32 ≤ n) : number? run = none := by
  obtain ⟨_, _, hvalue⟩ := digits_iff.mp h
  have hlarge : ¬ n < Nat.pow 2 32 := Nat.not_lt.mpr hn
  simp only [number?, hvalue, if_neg hlarge, ite_self]

/-! ## Colours -/

theorem hexValue?_lt {c : Char} {v : Nat} (h : hexValue? c = some v) : v < 16 := by
  rcases hexDigit_iff.mpr h with h | h <;> exact (List.getElem?_eq_some_iff.mp h).1

theorem channelValue?_of_hexValue? {c d : Char} {x y : Nat} (hx : hexValue? c = some x)
    (hy : hexValue? d = some y) : channelValue? c d = some (UInt8.ofNat (16 * x + y)) := by
  have hplus : c ≠ '+' := by
    rintro rfl
    simp [show hexValue? '+' = none from rfl] at hx
  simp [channelValue?, hplus, hx, hy]

theorem hexByte_iff {c d : Char} {byte : UInt8} :
    HexByte c d byte ↔
      isHexDigit c = true ∧ isHexDigit d = true ∧ channelValue? c d = some byte := by
  unfold HexByte
  simp only [hexDigit_iff, isHexDigit, Option.isSome_iff_exists]
  constructor
  · rintro ⟨x, y, hx, hy, hbyte⟩
    refine ⟨⟨x, hx⟩, ⟨y, hy⟩, ?_⟩
    rw [channelValue?_of_hexValue? hx hy, ← hbyte, UInt8.ofNat_toNat]
  · rintro ⟨⟨x, hx⟩, ⟨y, hy⟩, hvalue⟩
    have hxlt := hexValue?_lt hx
    have hylt := hexValue?_lt hy
    rw [channelValue?_of_hexValue? hx hy, Option.some.injEq] at hvalue
    refine ⟨x, y, hx, hy, ?_⟩
    rw [← hvalue, UInt8.toNat_ofNat_of_lt' (by change _ < 256; omega)]

theorem isAscii_of_isHexDigit {c : Char} (h : isHexDigit c = true) : isAscii c = true := by
  obtain ⟨v, hv⟩ := Option.isSome_iff_exists.mp h
  have hlt := hexValue?_lt hv
  rcases hexDigit_iff.mpr hv with h | h
  all_goals
    obtain ⟨_, rfl⟩ := List.getElem?_eq_some_iff.mp h
    interval_cases v <;> rfl

theorem ofPairs_eq_ok_iff {r₁ r₂ g₁ g₂ b₁ b₂ : Char} {color : Color} :
    Color.ofPairs r₁ r₂ g₁ g₂ b₁ b₂ = .ok color ↔
      channelValue? r₁ r₂ = some color.red ∧ channelValue? g₁ g₂ = some color.green ∧
        channelValue? b₁ b₂ = some color.blue := by
  obtain ⟨r, g, b⟩ := color
  simp only [Color.ofPairs, Color.readChannel]
  cases channelValue? r₁ r₂ <;> cases channelValue? g₁ g₂ <;> cases channelValue? b₁ b₂ <;>
    simp [bind, Except.bind, pure, Except.pure]

theorem sixDigits?_eq_some_iff {text : List Char} {color : Color} :
    sixDigits? text = some color ↔
      ∃ r₁ r₂ g₁ g₂ b₁ b₂, text = [r₁, r₂, g₁, g₂, b₁, b₂] ∧
        HexByte r₁ r₂ color.red ∧ HexByte g₁ g₂ color.green ∧ HexByte b₁ b₂ color.blue := by
  simp only [hexByte_iff]
  constructor
  · intro h
    unfold sixDigits? at h
    split at h
    · next hhex =>
      unfold Color.readSixDigits at h
      split at h
      · next r₁ r₂ g₁ g₂ b₁ b₂ =>
        split at h
        · have hok : Color.ofPairs r₁ r₂ g₁ g₂ b₁ b₂ = .ok color := by
            cases hpairs : Color.ofPairs r₁ r₂ g₁ g₂ b₁ b₂ <;>
              simp_all [Except.toOption]
          obtain ⟨hr, hg, hb⟩ := ofPairs_eq_ok_iff.mp hok
          simp only [List.all_cons, List.all_nil, Bool.and_eq_true, and_true] at hhex
          obtain ⟨hr₁, hr₂, hg₁, hg₂, hb₁, hb₂⟩ := hhex
          exact ⟨r₁, r₂, g₁, g₂, b₁, b₂, rfl, ⟨hr₁, hr₂, hr⟩, ⟨hg₁, hg₂, hg⟩, hb₁, hb₂, hb⟩
        · simp [Except.toOption] at h
      · simp [Except.toOption] at h
    · simp at h
  · rintro ⟨r₁, r₂, g₁, g₂, b₁, b₂, rfl, ⟨hr₁, hr₂, hr⟩, ⟨hg₁, hg₂, hg⟩, hb₁, hb₂, hb⟩
    have hok := ofPairs_eq_ok_iff.mpr ⟨hr, hg, hb⟩
    simp [sixDigits?, Color.readSixDigits, *, isAscii_of_isHexDigit, Except.toOption]

/-! ## Words -/

theorem edge?_eq_some_iff {c : Char} {edge : Edge} : edge? c = some edge ↔ c = edgeLetter edge := by
  constructor
  · intro h
    unfold edge? at h
    split at h <;> cases h <;> rfl
  · rintro rfl
    cases edge <;> rfl

theorem ofCloseBody?_of_digits {run : List Char} {n : Nat} (h : Digits run n) :
    Tag.ofCloseBody? run = (number? run).map (.fontSize · false) := by
  unfold Tag.ofCloseBody?
  split
  · exact absurd rfl (h.ne_cons (by decide) [])
  · exact absurd rfl (h.ne_cons (by decide) [])
  · exact absurd rfl (h.ne_cons (by decide) [])
  · exact absurd rfl (h.ne_cons (by decide) [])
  · rfl

theorem ofBody?_of_digits {run : List Char} {n : Nat} (h : Digits run n) :
    Tag.ofBody? run = (number? run).map (.fontSize · true) := by
  unfold Tag.ofBody?
  split
  · exact absurd rfl (h.ne_cons (by decide) _)
  · exact absurd rfl (h.ne_cons (by decide) [])
  · exact absurd rfl (h.ne_cons (by decide) [])
  · exact absurd rfl (h.ne_cons (by decide) _)
  · exact absurd rfl (h.ne_cons (by decide) _)
  · rfl

theorem word_of_ofCloseBody? {word : List Char} {tag : Tag}
    (h : Tag.ofCloseBody? word = some tag) : Word ('/' :: word) tag := by
  unfold Tag.ofCloseBody? at h
  split at h
  · cases h; exact .boldOff
  · cases h; exact .italicOff
  · cases h; exact .colorOff
  · cases h; exact .marginsOff
  · obtain ⟨n, hn, rfl⟩ := Option.map_eq_some_iff.mp h
    exact .sizeOff (number?_eq_some_iff.mp hn)

/-- The reader of words agrees with the grammar. -/
theorem ofBody?_eq_some_iff {word : List Char} {tag : Tag} :
    Tag.ofBody? word = some tag ↔ Word word tag := by
  constructor
  · intro h
    unfold Tag.ofBody? at h
    split at h
    · exact word_of_ofCloseBody? h
    · cases h; exact .boldOn
    · cases h; exact .italicOn
    · obtain ⟨color, hcolor, rfl⟩ := Option.map_eq_some_iff.mp h
      obtain ⟨r₁, r₂, g₁, g₂, b₁, b₂, rfl, hr, hg, hb⟩ := sixDigits?_eq_some_iff.mp hcolor
      exact .colorOn hr hg hb
    · obtain ⟨edge, hedge, h⟩ := Option.bind_eq_some_iff.mp h
      obtain ⟨n, hn, h⟩ := Option.bind_eq_some_iff.mp h
      cases h
      rw [edge?_eq_some_iff.mp hedge]
      exact .margin edge (number?_eq_some_iff.mp hn)
    · obtain ⟨n, hn, rfl⟩ := Option.map_eq_some_iff.mp h
      exact .sizeOn (number?_eq_some_iff.mp hn)
  · intro h
    cases h with
    | boldOn => rfl
    | boldOff => rfl
    | italicOn => rfl
    | italicOff => rfl
    | sizeOn hrun => rw [ofBody?_of_digits hrun, number?_eq_some_iff.mpr hrun, Option.map_some]
    | sizeOff hrun =>
      rw [Tag.ofBody?, ofCloseBody?_of_digits hrun, number?_eq_some_iff.mpr hrun, Option.map_some]
    | @colorOn r₁ r₂ g₁ g₂ b₁ b₂ r g b hr hg hb =>
      have hcolor : sixDigits? [r₁, r₂, g₁, g₂, b₁, b₂] = some ⟨r, g, b⟩ :=
        sixDigits?_eq_some_iff.mpr ⟨r₁, r₂, g₁, g₂, b₁, b₂, rfl, hr, hg, hb⟩
      simp [Tag.ofBody?, hcolor]
    | colorOff => rfl
    | margin edge hrun =>
      simp [Tag.ofBody?, edge?_eq_some_iff.mpr rfl, number?_eq_some_iff.mpr hrun]
    | marginsOff => rfl

/-! ## Characters -/

/-- The characters of which the words of the tag language consist. -/
def wordCharacters : List Char :=
  ['/', '#', 'i', 'm', 't', 'l', 'r'] ++ (smallHexAlphabet ++ capitalHexAlphabet)

theorem forall_mem_of_all {P : Char → Prop} [DecidablePred P] {s : List Char}
    (h : s.all (P ·) = true) : ∀ c ∈ s, P c :=
  fun c hc => of_decide_eq_true (List.all_eq_true.mp h c hc)

theorem mem_wordCharacters_of_isHexDigit {c : Char} (h : isHexDigit c = true) :
    c ∈ wordCharacters := by
  obtain ⟨v, hv⟩ := Option.isSome_iff_exists.mp h
  apply List.mem_append_right
  obtain hsmall | hcapital := hexDigit_iff.mpr hv
  · exact List.mem_append_left _ (List.mem_of_getElem? hsmall)
  · exact List.mem_append_right _ (List.mem_of_getElem? hcapital)

theorem mem_wordCharacters_of_isDigit {c : Char} (h : c.isDigit = true) :
    c ∈ wordCharacters := by
  apply mem_wordCharacters_of_isHexDigit
  have hbetween : '0' ≤ c ∧ c ≤ '9' := by simpa [Char.isDigit, Char.le_def] using h
  rw [isHexDigit, hexValue?, if_pos hbetween]
  rfl

theorem Word.mem_wordCharacters {word : List Char} {tag : Tag} (h : Word word tag) :
    ∀ c ∈ word, c ∈ wordCharacters := by
  cases h with
  | boldOn | boldOff | italicOn | italicOff | colorOff | marginsOff =>
    exact forall_mem_of_all (by decide)
  | sizeOn hrun => exact fun c hc => mem_wordCharacters_of_isDigit (hrun.isDigit c hc)
  | sizeOff hrun =>
    refine List.forall_mem_cons.mpr ⟨by decide, ?_⟩
    exact fun c hc => mem_wordCharacters_of_isDigit (hrun.isDigit c hc)
  | colorOn hr hg hb =>
    obtain ⟨hr₁, hr₂, -⟩ := hexByte_iff.mp hr
    obtain ⟨hg₁, hg₂, -⟩ := hexByte_iff.mp hg
    obtain ⟨hb₁, hb₂, -⟩ := hexByte_iff.mp hb
    simp only [List.mem_cons, List.not_mem_nil, or_false, forall_eq_or_imp, forall_eq]
    refine ⟨by decide, ?_, ?_, ?_, ?_, ?_, ?_⟩ <;> exact mem_wordCharacters_of_isHexDigit ‹_›
  | margin edge hrun =>
    refine List.forall_mem_cons.mpr ⟨by decide, List.forall_mem_cons.mpr ⟨?_, ?_⟩⟩
    · cases edge <;> decide
    · exact fun c hc => mem_wordCharacters_of_isDigit (hrun.isDigit c hc)

theorem isBracket_of_mem_wordCharacters : ∀ c ∈ wordCharacters, isBracket c = false :=
  forall_mem_of_all (by decide)

theorem isBracket_of_isDigit {c : Char} (h : c.isDigit = true) : isBracket c = false :=
  isBracket_of_mem_wordCharacters c (mem_wordCharacters_of_isDigit h)

/-- No word contains an angle bracket. -/
theorem Word.isBracket_eq_false {word : List Char} {tag : Tag} (h : Word word tag) :
    ∀ c ∈ word, isBracket c = false :=
  fun c hc => isBracket_of_mem_wordCharacters c (h.mem_wordCharacters c hc)

/-- A spelling consists of the characters of words and of the two brackets. -/
theorem Spells.not_mem {s : List Char} {t : Tag} (h : Spells s t) {c : Char}
    (hc : isBracket c = false) (hword : c ∉ wordCharacters) : c ∉ s := by
  obtain ⟨word, rfl, hspelt⟩ := h
  intro hmem
  obtain rfl | hmem := List.mem_cons.mp hmem
  · cases hc
  · obtain hmem | hmem := List.mem_append.mp hmem
    · exact hword (hspelt.mem_wordCharacters c hmem)
    · obtain rfl := List.mem_singleton.mp hmem
      cases hc

/-! ## Brackets -/

theorem takeWhile_and_dropWhile_not_isBracket {word : List Char} {c : Char}
    (hword : ∀ d ∈ word, isBracket d = false) (hc : isBracket c = true) (rest : List Char) :
    (word ++ c :: rest).takeWhile (!isBracket ·) = word ∧
      (word ++ c :: rest).dropWhile (!isBracket ·) = c :: rest := by
  have hpos : ∀ d ∈ word, (!isBracket d) = true := fun d hd => by simp [hword d hd]
  rw [List.takeWhile_append_of_pos hpos, List.dropWhile_append_of_pos hpos]
  simp [hc]

theorem read?_bracketed {word : List Char} (hword : ∀ c ∈ word, isBracket c = false)
    (rest : List Char) :
    read? ('<' :: (word ++ '>' :: rest)) =
      (Tag.ofBody? word).map fun tag => ⟨word, tag, rest⟩ := by
  obtain ⟨htake, hdrop⟩ := takeWhile_and_dropWhile_not_isBracket (c := '>') hword rfl rest
  simp only [read?, htake, hdrop]

/-- A tag is read exactly where a word stands between two brackets. -/
theorem read?_eq_some_iff {text : List Char} {r : Reading} :
    read? text = some r ↔ text = '<' :: (r.body ++ '>' :: r.rest) ∧ Word r.body r.tag := by
  constructor
  · intro h
    unfold read? at h
    split at h
    · next text =>
      dsimp only at h
      split at h
      · next rest hrest =>
        obtain ⟨tag, htag, rfl⟩ := Option.map_eq_some_iff.mp h
        refine ⟨?_, ofBody?_eq_some_iff.mp htag⟩
        rw [← hrest, List.takeWhile_append_dropWhile]
      · simp at h
    · simp at h
  · obtain ⟨body, tag, rest⟩ := r
    rintro ⟨rfl, hword⟩
    rw [read?_bracketed hword.isBracket_eq_false, ofBody?_eq_some_iff.mpr hword, Option.map_some]

def Reading.source (r : Reading) : List Char := '<' :: (r.body ++ ['>'])

theorem eq_source_append_of_read? {text : List Char} {r : Reading} (h : read? text = some r) :
    text = r.source ++ r.rest := by
  simpa [Reading.source] using (read?_eq_some_iff.mp h).1

theorem spells_source_of_read? {text : List Char} {r : Reading} (h : read? text = some r) :
    Spells r.source r.tag :=
  ⟨r.body, rfl, (read?_eq_some_iff.mp h).2⟩

/-- A spelling is read as its tag, whatever follows it. -/
theorem Spells.read? {s : List Char} {tag : Tag} (h : Spells s tag) (rest : List Char) :
    ∃ r, read? (s ++ rest) = some r ∧ r.source = s ∧ r.tag = tag ∧ r.rest = rest := by
  obtain ⟨word, rfl, hword⟩ := h
  exact ⟨⟨word, tag, rest⟩, read?_eq_some_iff.mpr ⟨by simp, hword⟩, rfl, rfl, rfl⟩

/-- A run of digits whose value does not fit in 32 bits makes no tag of any form. -/
theorem read?_eq_none_of_oversized {run : List Char} {n : Nat} (h : Digits run n)
    (hn : 2 ^ 32 ≤ n) (rest : List Char) :
    read? ('<' :: (run ++ '>' :: rest)) = none ∧
      read? ('<' :: '/' :: (run ++ '>' :: rest)) = none ∧
      ∀ edge, read? ('<' :: 'm' :: edgeLetter edge :: (run ++ '>' :: rest)) = none := by
  have hrun : ∀ c ∈ run, isBracket c = false := fun c hc => isBracket_of_isDigit (h.isDigit c hc)
  have hnone := number?_eq_none_of_digits h hn
  refine ⟨?_, ?_, fun edge => ?_⟩
  · rw [read?_bracketed hrun, ofBody?_of_digits h, hnone]
    rfl
  · have hword : ∀ c ∈ '/' :: run, isBracket c = false := List.forall_mem_cons.mpr ⟨rfl, hrun⟩
    have hread := read?_bracketed hword rest
    rw [Tag.ofBody?, ofCloseBody?_of_digits h, hnone] at hread
    exact hread
  · have hword : ∀ c ∈ 'm' :: edgeLetter edge :: run, isBracket c = false :=
      List.forall_mem_cons.mpr ⟨rfl, List.forall_mem_cons.mpr ⟨by cases edge <;> rfl, hrun⟩⟩
    have hread := read?_bracketed hword rest
    simpa [Tag.ofBody?, edge?_eq_some_iff.mpr rfl, hnone] using hread

/-- The reader accepts exactly the grammar: a tag is read with a rest behind it if and
only if the text is a spelling of the tag followed by that rest. A text begins with at
most one spelling, and a number above 32 bits is part of none. -/
theorem read?_accepts_grammar :
    (∀ text rest tag,
      (∃ body, read? text = some ⟨body, tag, rest⟩) ↔ ∃ s, text = s ++ rest ∧ Spells s tag) ∧
    (∀ s₁ s₂ rest₁ rest₂ tag₁ tag₂, Spells s₁ tag₁ → Spells s₂ tag₂ →
      s₁ ++ rest₁ = s₂ ++ rest₂ → s₁ = s₂ ∧ tag₁ = tag₂ ∧ rest₁ = rest₂) ∧
    (∀ run n rest, Digits run n → 2 ^ 32 ≤ n →
      read? ('<' :: (run ++ '>' :: rest)) = none ∧
      read? ('<' :: '/' :: (run ++ '>' :: rest)) = none ∧
      ∀ edge, read? ('<' :: 'm' :: edgeLetter edge :: (run ++ '>' :: rest)) = none) := by
  refine ⟨fun text rest tag => ⟨?_, ?_⟩, ?_, ?_⟩
  · rintro ⟨body, h⟩
    exact ⟨_, eq_source_append_of_read? h, spells_source_of_read? h⟩
  · rintro ⟨s, rfl, hs⟩
    obtain ⟨r, hr, _, rfl, rfl⟩ := hs.read? rest
    exact ⟨r.body, hr⟩
  · intro s₁ s₂ rest₁ rest₂ tag₁ tag₂ h₁ h₂ heq
    obtain ⟨r₁, hr₁, rfl, rfl, rfl⟩ := h₁.read? rest₁
    obtain ⟨r₂, hr₂, rfl, rfl, rfl⟩ := h₂.read? rest₂
    rw [heq, hr₂] at hr₁
    obtain rfl := Option.some.inj hr₁
    exact ⟨rfl, rfl, rfl⟩
  · intro run n rest hrun hn
    exact read?_eq_none_of_oversized hrun hn rest

/-- The least number above 32 bits is no tag. -/
theorem read?_least_oversized :
    Digits "4294967296".toList 4294967296 ∧
      read? ('<' :: ("4294967296".toList ++ '>' :: [])) = none := by
  have hrun : Digits "4294967296".toList 4294967296 :=
    digits_iff.mpr ⟨by simp, by simp, rfl⟩
  exact ⟨hrun, (read?_accepts_grammar.2.2 _ _ [] hrun (by decide)).1⟩

end TaggedPage.Markup
