import TaggedPage.Markup.Fragment
import TaggedPage.Proofs.Markup.Stretches
import TaggedPage.Proofs.Text.Pieces

/-! # Texts with replaced characters

Only some characters mean more than themselves: those of the tag language, and the two that
end a line. A replacement of characters that leaves these in place and does not bring in any
of them (`KeepsMarkup`) changes nothing but the characters it replaces. A text has the same
tags in the same order, and its lines the same fragments in the same styles, with their
characters replaced.

The texts before and after may differ in length of bytes. The proofs therefore never speak of
positions; they follow the scan, which sees a spelling or a literal character at the same
place of both texts.
-/

namespace TaggedPage

namespace Markup

/-- The characters that can mean more than themselves: in a tag, or at the end of a line. -/
def activeCharacters : List Char :=
  ['<', '>', '/', '#', 'i', 'm', 't', 'l', 'r', '\n', '\r'] ++
    (smallHexAlphabet ++ capitalHexAlphabet)

/-- A replacement of characters under which every active character stays what it is, and
no other character becomes active. -/
def KeepsMarkup (φ : Char → Char) : Prop := ∀ d ∈ activeCharacters, ∀ c, φ c = d ↔ c = d

/-! ## Spellings -/

theorem mem_active_of_mem_wordCharacters : ∀ c ∈ wordCharacters, c ∈ activeCharacters :=
  forall_mem_of_all (by decide)

theorem Spells.mem_active {s : List Char} {t : Tag} (h : Spells s t) :
    ∀ c ∈ s, c ∈ activeCharacters := by
  obtain ⟨word, rfl, hword⟩ := h
  intro c hc
  rcases List.mem_cons.mp hc with rfl | hc
  · decide
  · rcases List.mem_append.mp hc with hc | hc
    · exact mem_active_of_mem_wordCharacters c (hword.mem_wordCharacters c hc)
    · obtain rfl := List.mem_singleton.mp hc
      decide

section

variable {φ : Char → Char} (hφ : KeepsMarkup φ)

include hφ

theorem KeepsMarkup.map_eq_iff {s : List Char} (hs : ∀ c ∈ s, c ∈ activeCharacters)
    (text : List Char) : text.map φ = s ↔ text = s := by
  induction s generalizing text with
  | nil => exact List.map_eq_nil_iff
  | cons d s ih =>
    obtain ⟨hd, hs⟩ := List.forall_mem_cons.mp hs
    cases text with
    | nil => exact iff_of_false (List.cons_ne_nil _ _).symm (List.cons_ne_nil _ _).symm
    | cons c text => rw [List.map_cons, List.cons.injEq, List.cons.injEq, hφ d hd c, ih hs]

theorem KeepsMarkup.map_spells {s : List Char} {t : Tag} (h : Spells s t) : s.map φ = s :=
  (hφ.map_eq_iff h.mem_active s).mpr rfl

/-- Where no tag begins, none begins behind the replacement. -/
theorem KeepsMarkup.read?_map_eq_none {text : List Char} (h : read? text = none) :
    read? (text.map φ) = none := by
  cases hread : read? (text.map φ) with
  | none => rfl
  | some r =>
    have hspells := spells_source_of_read? hread
    obtain ⟨s, rest, rfl, hs, -⟩ :=
      List.map_eq_append_iff.mp (eq_source_append_of_read? hread)
    obtain rfl := (hφ.map_eq_iff hspells.mem_active s).mp hs
    obtain ⟨r', hr', -⟩ := hspells.read? rest
    rw [h] at hr'
    cases hr'

/-- The tags of a text are those of the replaced text, in the same order. -/
theorem KeepsMarkup.tokensFrom_map (start before : Nat) (text : List Char) :
    (tokensFrom start (text.map φ)).map (·.tag) = (tokensFrom before text).map (·.tag) := by
  induction text using scan_induction generalizing start before with
  | done => simp
  | tag s t rest hs ih =>
    rw [List.map_append, hφ.map_spells hs, tokensFrom_spells_append hs,
      tokensFrom_spells_append hs, List.map_cons, List.map_cons, ih _ (before + byteLength s)]
  | literal c rest hread ih =>
    have hmapped := hφ.read?_map_eq_none hread
    rw [List.map_cons] at hmapped ⊢
    rw [tokensFrom_cons_of_read?_eq_none hmapped, tokensFrom_cons_of_read?_eq_none hread,
      ih _ (before + c.utf8Size)]

end

/-! ## Fragments -/

def Fragment.mapText (φ : Char → Char) (f : Fragment) : Fragment := { f with text := f.text.map φ }

theorem Fragment.ofText_map (φ : Char → Char) (style : Style) (text : List Char) :
    Fragment.ofText style (text.map φ) = (Fragment.ofText style text).map (·.mapText φ) := by
  cases text <;> rfl

section

variable {φ : Char → Char} (hφ : KeepsMarkup φ)

include hφ

theorem KeepsMarkup.compileFrom_map (style : Style) (before text : List Char) :
    compileFrom style (before.map φ) (text.map φ) =
      (compileFrom style before text).map (·.mapText φ) := by
  induction text using scan_induction generalizing style before with
  | done =>
    rw [List.map_nil, compileFrom_nil, compileFrom_nil, ← List.map_reverse, Fragment.ofText_map]
  | tag s t rest hs ih =>
    have hrest := ih (style.apply t) []
    rw [List.map_nil] at hrest
    rw [List.map_append, hφ.map_spells hs, compileFrom_spells_append hs,
      compileFrom_spells_append hs, List.map_append, ← List.map_reverse, Fragment.ofText_map, hrest]
  | literal c rest hread ih =>
    have hmapped := hφ.read?_map_eq_none hread
    rw [List.map_cons] at hmapped ⊢
    rw [compileFrom_cons_of_read?_eq_none hmapped, compileFrom_cons_of_read?_eq_none hread]
    exact ih style (c :: before)

theorem KeepsMarkup.dropReturn_map (line : List Char) :
    dropReturn (line.map φ) = (dropReturn line).map φ := by
  have hlast : (line.map φ).getLast? = some '\r' ↔ line.getLast? = some '\r' := by
    rw [List.getLast?_map, Option.map_eq_some_iff]
    constructor
    · rintro ⟨c, hc, heq⟩
      rw [hc, (hφ '\r' (by decide) c).mp heq]
    · intro h
      exact ⟨'\r', h, (hφ '\r' (by decide) '\r').mpr rfl⟩
  rw [dropReturn, dropReturn]
  by_cases h : line.getLast? = some '\r'
  · rw [if_pos h, if_pos (hlast.mpr h), List.map_dropLast]
  · rw [if_neg h, if_neg (fun heq => h (hlast.mp heq))]

/-- The fragments of the replaced text are those of the text with their characters
replaced. -/
theorem KeepsMarkup.compileDocument_map (text : List Char) :
    compileDocument (text.map φ) =
      (compileDocument text).map (List.map (·.mapText φ)) := by
  rw [compileDocument, compileDocument, splitLines, pieces_map (hφ '\n' (by decide)),
    List.map_map, List.map_map]
  apply List.map_congr_left
  intro line _
  have hline := hφ.compileFrom_map .plain [] (dropReturn line)
  rw [List.map_nil, ← hφ.dropReturn_map] at hline
  exact hline

end

end Markup

end TaggedPage
