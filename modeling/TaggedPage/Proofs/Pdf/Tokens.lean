import TaggedPage.Proofs.Number.Written
import TaggedPage.Proofs.Pdf.Literal
import TaggedPage.Proofs.Pdf.Operations

/-! # Tokens of a content

The content of a page is a row of bytes. A viewer that is to carry it out first cuts it into
tokens: strings, names behind a slash, and words, which are numbers and operators. White space
and a few delimiters end a name or a word, while a string ends with its own closing parenthesis
alone. Within a string nothing is an operator, so all depends on where the strings end.

A content is cut into the tokens of the operations it was written from (`readsAs_writeContent`),
and nothing of a text on the page is ever found outside its string (`texts_stay_in_strings`).
-/

namespace TaggedPage.Pdf

open Font (Library)
open Layout (Placement)

/-- A token of a content: a number or an operator, a name without its slash, or the bytes that
a string stands for. -/
inductive Token where
  | word (bytes : List UInt8)
  | name (bytes : List UInt8)
  | string (bytes : List UInt8)
  deriving DecidableEq

def slash : UInt8 := 47

def isWhite (b : UInt8) : Bool := b ∈ ([0, 9, 10, 12, 13, 32] : List UInt8)

/-- Whether a byte ends what stands before it: brackets of all kinds, the slash of a name and
the per cent sign of a comment. -/
def isDelimiter (b : UInt8) : Bool :=
  b ∈ ([40, 41, 60, 62, 91, 93, 123, 125, 47, 37] : List UInt8)

/-- Whether a byte may stand in a name or a word. -/
def isRegular (b : UInt8) : Bool := !isWhite b && !isDelimiter b

/-- The tokens of a content. There are none if a string is not closed or if there is a
delimiter that belongs to no string and no name. -/
def tokens? : List UInt8 → Option (List Token)
  | [] => some []
  | b :: rest =>
    if isWhite b then tokens? rest
    else if b = Literal.openParen then
      match h : Literal.readFrom 0 rest with
      | none => none
      | some (bytes, left) =>
        have := Literal.length_lt_of_readFrom h
        (tokens? left).map (.string bytes :: ·)
    else if b = slash then
      have := rest.length_dropWhile_le isRegular
      (tokens? (rest.dropWhile isRegular)).map (.name (rest.takeWhile isRegular) :: ·)
    else if isRegular b then
      have := rest.length_dropWhile_le isRegular
      (tokens? (rest.dropWhile isRegular)).map (.word (b :: rest.takeWhile isRegular) :: ·)
    else none
termination_by input => input.length

/-! ## Steps -/

/-- Bytes are cut into these tokens if that is what follows them. -/
def ReadsAs (bytes : List UInt8) (tokens : List Token) (rest : List UInt8) : Prop :=
  tokens? (bytes ++ rest) = (tokens? rest).map (tokens ++ ·)

theorem ReadsAs.append {first second rest : List UInt8} {tokens others : List Token}
    (hfirst : ReadsAs first tokens (second ++ rest)) (hsecond : ReadsAs second others rest) :
    ReadsAs (first ++ second) (tokens ++ others) rest := by
  unfold ReadsAs at hfirst hsecond ⊢
  rw [List.append_assoc, hfirst, hsecond, Option.map_map]
  congr 1
  funext tail
  rw [Function.comp_apply, List.append_assoc]

theorem readsAs_white {b : UInt8} (hb : isWhite b = true) (rest : List UInt8) :
    ReadsAs [b] [] rest := by
  rw [ReadsAs, List.singleton_append, tokens?, if_pos hb]
  exact Option.map_id'.symm

/-- The bytes do not go on with one that may stand in a name or a word. -/
def Ends (rest : List UInt8) : Prop := ∀ b ∈ rest.head?, isRegular b = false

theorem Ends.takeWhile {rest : List UInt8} (h : Ends rest) : rest.takeWhile isRegular = [] := by
  cases rest with
  | nil => rfl
  | cons b rest => rw [List.takeWhile_cons, h b rfl, if_neg Bool.false_ne_true]

theorem Ends.dropWhile {rest : List UInt8} (h : Ends rest) : rest.dropWhile isRegular = rest := by
  cases rest with
  | nil => rfl
  | cons b rest => rw [List.dropWhile_cons, h b rfl, if_neg Bool.false_ne_true]

theorem readsAs_name {bytes : List UInt8} (hbytes : ∀ b ∈ bytes, isRegular b = true)
    {rest : List UInt8} (hrest : Ends rest) : ReadsAs (slash :: bytes) [.name bytes] rest := by
  rw [ReadsAs, List.cons_append, tokens?, if_neg (by decide), if_neg (by decide), if_pos rfl,
    List.takeWhile_append_of_pos hbytes, List.dropWhile_append_of_pos hbytes, hrest.takeWhile,
    hrest.dropWhile, List.append_nil]
  rfl

/-- A word has at least one byte, and all its bytes are regular. -/
def IsWord (bytes : List UInt8) : Prop := bytes ≠ [] ∧ bytes.all isRegular = true

instance (bytes : List UInt8) : Decidable (IsWord bytes) := inferInstanceAs (Decidable (_ ∧ _))

theorem readsAs_word {bytes : List UInt8} (hbytes : IsWord bytes) {rest : List UInt8}
    (hrest : Ends rest) : ReadsAs bytes [.word bytes] rest := by
  obtain ⟨hne, hregular⟩ := hbytes
  obtain ⟨b, others, rfl⟩ := List.exists_cons_of_ne_nil hne
  obtain ⟨hb, hothers⟩ := List.forall_mem_cons.mp (List.all_eq_true.mp hregular)
  have hwhite : isWhite b ≠ true := by
    intro h
    simp [isRegular, h] at hb
  have hopen : b ≠ Literal.openParen := by
    rintro rfl
    cases hb
  have hslash : b ≠ slash := by
    rintro rfl
    cases hb
  rw [ReadsAs, List.cons_append, tokens?, if_neg hwhite, if_neg hopen, if_neg hslash, if_pos hb,
    List.takeWhile_append_of_pos hothers, List.dropWhile_append_of_pos hothers, hrest.takeWhile,
    hrest.dropWhile, List.append_nil]
  rfl

/-- A string ends by itself, whatever follows it. -/
theorem readsAs_string (bytes rest : List UInt8) :
    ReadsAs (Literal.write bytes) [.string bytes] rest := by
  have hread := Literal.readFrom_write bytes rest
  rw [ReadsAs, Literal.write_append, tokens?, if_neg (by decide), if_pos rfl]
  split
  · next h =>
    rw [hread] at h
    cases h
  · next found left h =>
    rw [hread] at h
    obtain ⟨rfl, rfl⟩ := Prod.mk.inj (Option.some.inj h)
    rfl

/-! ## Operations -/

/-- The token of an operand that is written as a single one. -/
def Object.token? : Object → Option Token
  | .real value => some (.word (ascii (Number.plain value)))
  | .name value => some (.name (ascii value))
  | .string bytes => some (.string bytes)
  | _ => none

/-- The tokens of an operation, the operator last. -/
def Operation.tokens (o : Operation) : List Token :=
  o.operands.filterMap Object.token? ++ [.word (ascii o.operator)]

/-- An operand that is written as a single token. Its bytes may not end it too early. -/
def Object.IsPlain : Object → Prop
  | .real _ => True
  | .name value => ∀ b ∈ ascii value, isRegular b = true
  | .string _ => True
  | _ => False

/-- An operation whose operands are written as single tokens and whose operator is a word. -/
structure Operation.IsPlain (o : Operation) : Prop where
  operands : ∀ operand ∈ o.operands, operand.IsPlain
  operator : IsWord (ascii o.operator)

theorem isRegular_of_isDigit {c : Char} (h : c.isDigit = true) :
    isRegular (UInt8.ofNat c.toNat) = true := by
  rw [Char.isDigit, Bool.and_eq_true, decide_eq_true_eq, decide_eq_true_eq] at h
  have hlow : 48 ≤ c.toNat := h.1
  have hhigh : c.toNat ≤ 57 := h.2
  generalize c.toNat = n at hlow hhigh ⊢
  interval_cases n <;> rfl

/-- The text of a number is one word, whatever the number is. -/
theorem isWord_plain (x : Float32) : IsWord (ascii (Number.plain x)) := by
  constructor
  · intro h
    exact Number.plain_ne_nil x (List.map_eq_nil_iff.mp h)
  · refine List.all_eq_true.mpr fun b hb => ?_
    obtain ⟨c, hc, rfl⟩ := List.mem_map.mp hb
    have hletters : Number.wordLetters.all (fun c => isRegular (UInt8.ofNat c.toNat)) = true := by
      decide
    rcases Number.isNumeral_or_mem_wordLetters x c hc with (hdigit | rfl | rfl) | hletter
    · exact isRegular_of_isDigit hdigit
    · rfl
    · rfl
    · exact List.all_eq_true.mp hletters c hletter

theorem readsAs_operand {operand : Object} (h : operand.IsPlain) (rest : List UInt8) :
    ReadsAs (operand.write ++ [32]) operand.token?.toList rest := by
  have hspace : ReadsAs [32] [] rest := readsAs_white rfl rest
  have hends : Ends ([32] ++ rest) := by
    intro b hb
    obtain rfl := Option.some.inj hb
    rfl
  cases operand with
  | real value => exact (readsAs_word (isWord_plain value) hends).append hspace
  | name value => exact (readsAs_name h hends).append hspace
  | string bytes => exact (readsAs_string bytes _).append hspace
  | integer | array | dictionary | stream | reference => exact h.elim

theorem readsAs_operands {operands : List Object} (h : ∀ operand ∈ operands, operand.IsPlain)
    (rest : List UInt8) :
    ReadsAs (operands.flatMap fun operand => operand.write ++ [32])
      (operands.filterMap Object.token?) rest := by
  induction operands with
  | nil => exact Option.map_id'.symm
  | cons operand operands ih =>
    have hfirst := readsAs_operand (h operand List.mem_cons_self)
      ((operands.flatMap fun operand => operand.write ++ [32]) ++ rest)
    have hothers := ih fun o ho => h o (List.mem_cons_of_mem operand ho)
    have htokens : (operand :: operands).filterMap Object.token? =
        operand.token?.toList ++ operands.filterMap Object.token? := by
      rw [List.filterMap_cons]
      cases operand.token? <;> rfl
    rw [List.flatMap_cons, htokens]
    exact hfirst.append hothers

/-- An operation is cut into its tokens, if no more letters follow its operator. -/
theorem readsAs_operation {o : Operation} (h : o.IsPlain) {rest : List UInt8}
    (hrest : Ends rest) : ReadsAs o.write o.tokens rest :=
  (readsAs_operands h.operands _).append (readsAs_word h.operator hrest)

theorem tokens?_of_readsAs {bytes : List UInt8} {tokens : List Token}
    (h : ReadsAs bytes tokens []) : tokens? bytes = some tokens := by
  rw [ReadsAs, List.append_nil, tokens?, Option.map_some, List.append_nil] at h
  exact h

/-- A content is cut into the tokens of its operations. -/
theorem readsAs_writeContent {operations : List Operation} (h : ∀ o ∈ operations, o.IsPlain) :
    ReadsAs (writeContent operations) (operations.flatMap (·.tokens)) [] := by
  have hnil : Ends [] := fun b hb => nomatch hb
  fun_induction writeContent operations with
  | case1 => exact Option.map_id'.symm
  | case2 o =>
    rw [List.flatMap_singleton]
    exact readsAs_operation (h o List.mem_cons_self) hnil
  | case3 o rest _ ih =>
    have hends : Ends ([10] ++ writeContent rest ++ []) := by
      intro b hb
      obtain rfl := Option.some.inj hb
      rfl
    have hfirst := readsAs_operation (h o List.mem_cons_self) hends
    have hothers := ih fun p hp => h p (List.mem_cons_of_mem o hp)
    rw [List.flatMap_cons]
    exact hfirst.append ((readsAs_white rfl _).append hothers)

/-! ## Pages -/

def Token.string? : Token → Option (List UInt8)
  | .string bytes => some bytes
  | _ => none

theorem isRegular_fontName (l : Library) (v : Variant) :
    ∀ b ∈ ascii (fontName l v), isRegular b = true := by
  intro b hb
  obtain ⟨c, hc, rfl⟩ := List.mem_map.mp hb
  rw [fontName, resourceName, String.toList_append] at hc
  rcases List.mem_append.mp hc with hletter | hdigit
  · obtain rfl := List.mem_singleton.mp hletter
    rfl
  · rw [Nat.toString_eq_repr, Nat.toList_repr] at hdigit
    exact isRegular_of_isDigit (Nat.isDigit_of_mem_toDigits (by decide) (by decide) hdigit)

/-- All operations of a page are written as plain tokens. -/
theorem isPlain_of_mem_drawAll (l : Library) (size : PageSize) (ps : List Placement) :
    ∀ o ∈ (OpenPage.drawAll (fontName l) { size } ps).operations, o.IsPlain := by
  refine OpenPage.forall_mem_drawAll_new (fontName l) size fun p _ o ho => ?_
  rcases mem_textObject.mp ho with rfl | rfl | rfl | rfl | rfl | rfl
  · exact ⟨List.forall_mem_nil _, (by decide : IsWord (ascii "BT"))⟩
  · refine ⟨?_, (by decide : IsWord (ascii "Tf"))⟩
    exact List.forall_mem_cons.mpr
      ⟨isRegular_fontName l p.variant, List.forall_mem_singleton.mpr trivial⟩
  · refine ⟨?_, (by decide : IsWord (ascii "rg"))⟩
    exact List.forall_mem_cons.mpr
      ⟨trivial, List.forall_mem_cons.mpr ⟨trivial, List.forall_mem_singleton.mpr trivial⟩⟩
  · refine ⟨?_, (by decide : IsWord (ascii "Td"))⟩
    exact List.forall_mem_cons.mpr ⟨trivial, List.forall_mem_singleton.mpr trivial⟩
  · exact ⟨List.forall_mem_singleton.mpr trivial, (by decide : IsWord (ascii "Tj"))⟩
  · exact ⟨List.forall_mem_nil _, (by decide : IsWord (ascii "ET"))⟩

/-- The strings of the text objects are the encoded texts in order. -/
theorem strings_elided (nameOf : Variant → String) (previous : Option Placement)
    (ps : List Placement) :
    ((elided nameOf previous ps).flatMap (·.tokens)).filterMap Token.string? =
      ps.map fun p => WinAnsi.encode p.text := by
  induction ps generalizing previous with
  | nil => rfl
  | cons p ps ih =>
    rw [elided, List.flatMap_append, List.filterMap_append, ih, List.map_cons]
    cases fontDiffers nameOf previous p <;> cases fillDiffers previous p <;> rfl

/-- No text leaves its string. The content of every page of a run is cut into the tokens of the
operations of its texts, in which each text that is not empty is one string, of just the codes
with which it is encoded. Wherever an encoded text is written, it ends for a reader with its own
closing parenthesis, whatever follows it. -/
theorem texts_stay_in_strings (l : Library) (steps : List Step) :
    (∀ (text : List Char) (rest : List UInt8),
      Literal.read? (Literal.write (WinAnsi.encode text) ++ rest) =
        some (WinAnsi.encode text, rest)) ∧
    ∃ contents, ((Canvas.new l).run steps).document.contents? = some contents ∧
      List.Forall₂ (fun content (sheet : PageSize × List Placement) =>
        ∃ tokens, tokens? content = some tokens ∧
          tokens = (elided (fontName l) none (drawn sheet.2)).flatMap (·.tokens) ∧
          tokens.filterMap Token.string? = (drawn sheet.2).map fun p => WinAnsi.encode p.text)
        contents (sheets steps) := by
  refine ⟨fun text rest => Literal.read?_write _ rest, ?_⟩
  refine ⟨_, Canvas.contents?_document ((Canvas.filed_new l).run steps), ?_⟩
  rw [List.nil_append, Canvas.closedPages_new, List.forall₂_map_left_iff,
    List.forall₂_map_left_iff, List.forall₂_same]
  intro sheet _
  have hread := tokens?_of_readsAs
    (readsAs_writeContent (isPlain_of_mem_drawAll l sheet.1 sheet.2))
  have hempty : Remembers (fontName l) ({ size := sheet.1 } : OpenPage).state none := ⟨rfl, rfl⟩
  rw [hempty.operations_drawAll] at hread ⊢
  exact ⟨_, hread, rfl, strings_elided (fontName l) none (drawn sheet.2)⟩

end TaggedPage.Pdf
