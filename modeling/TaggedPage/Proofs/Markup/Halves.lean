import TaggedPage.Proofs.Markup.Cut

/-! # The halves of a stretch

What the compiler does with a line depends on what stands before it in two ways only: through
the style that the tags have left, and through the stretch of text behind the last of them,
which is still open (`exists_compileFrom_append`). In the same way it needs of what follows no
more than the text before the first tag to close that stretch (`exists_compileFrom_eq`).

A place outside all tags therefore lies in one stretch, the two halves of which are the text
behind the last tag and the text before the next one. A tag that changes nothing, put there,
leaves all other fragments as they are and makes a fragment of each half.
-/

namespace TaggedPage.Markup

/-- The text of a line behind its last tag. -/
def lastStretch (line : List Char) : List Char :=
  slice line (((tokens line).getLast?.map (·.stop)).getD 0) (byteLength line)

/-- The text of a line before its first tag. -/
def firstStretch (line : List Char) : List Char :=
  slice line 0 (((tokens line).head?.map (·.start)).getD (byteLength line))

/-- The style in force at byte `i` of a line. -/
def styleAt (line : List Char) (i : Nat) : Style :=
  Style.plain.applyAll (tagsBefore i (tokens line))

def closeBold : List Char := ['<', '/', 'b', '>']

theorem spells_closeBold : Spells closeBold (.bold false) := ⟨['/', 'b'], rfl, .boldOff⟩

/-- Closing bold changes nothing where bold is not set. -/
theorem Style.apply_closeBold {s : Style} (h : s.bold = false) : s.apply (.bold false) = s := by
  obtain ⟨bold, italic, fontSize, color, margins⟩ := s
  obtain rfl : bold = false := h
  rfl

/-! ## The first and the last tag -/

theorem tokens_cons_of_read?_eq_none {c : Char} {rest : List Char}
    (h : read? (c :: rest) = none) :
    tokens (c :: rest) = (tokens rest).map (Token.shift c.utf8Size) := by
  rw [tokens, tokensFrom_cons_of_read?_eq_none h, Nat.zero_add, tokensFrom_eq_map_shift]

/-- A line has no tag, or a last one. -/
theorem exists_last_tag (line : List Char) :
    tokens line = [] ∨ ∃ before s t after, line = before ++ s ++ after ∧ Spells s t ∧
      tokens after = [] := by
  induction line using scan_induction with
  | done => exact .inl (tokensFrom_nil 0)
  | tag s t rest hs ih =>
    right
    rcases ih with hnone | ⟨before, s', t', after, rfl, hs', hafter⟩
    · exact ⟨[], s, t, rest, rfl, hs, hnone⟩
    · exact ⟨s ++ before, s', t', after, by simp only [List.append_assoc], hs', hafter⟩
  | literal c rest hread ih =>
    rcases ih with hnone | ⟨before, s, t, after, rfl, hs, hafter⟩
    · left
      rw [tokens_cons_of_read?_eq_none hread, hnone, List.map_nil]
    · exact .inr ⟨c :: before, s, t, after, rfl, hs, hafter⟩

/-- Where no tag can be read from a text, none can be read from its beginning. -/
theorem read?_eq_none_of_append {text more : List Char} (h : read? (text ++ more) = none) :
    read? text = none := by
  cases hread : read? text with
  | none => rfl
  | some r =>
    have hspells := spells_source_of_read? hread
    obtain ⟨r', hr', -⟩ := hspells.read? (r.rest ++ more)
    rw [← List.append_assoc, ← eq_source_append_of_read? hread, h] at hr'
    cases hr'

/-- A line has no tag, or a first one. -/
theorem exists_first_tag (line : List Char) :
    tokens line = [] ∨ ∃ before s t after, line = before ++ s ++ after ∧ Spells s t ∧
      tokens before = [] := by
  induction line using scan_induction with
  | done => exact .inl (tokensFrom_nil 0)
  | tag s t rest hs ih => exact .inr ⟨[], s, t, rest, rfl, hs, tokensFrom_nil 0⟩
  | literal c rest hread ih =>
    rcases ih with hnone | ⟨before, s, t, after, rfl, hs, hbefore⟩
    · left
      rw [tokens_cons_of_read?_eq_none hread, hnone, List.map_nil]
    · refine .inr ⟨c :: before, s, t, after, rfl, hs, ?_⟩
      have hfirst : read? (c :: before) = none :=
        @read?_eq_none_of_append (c :: before) (s ++ after) (by rwa [List.append_assoc] at hread)
      rw [tokens_cons_of_read?_eq_none hfirst, hbefore, List.map_nil]

theorem slice_all (line : List Char) : slice line 0 (byteLength line) = line := by
  have h := slice_append [] line []
  rwa [List.append_nil] at h

theorem lastStretch_of_tokens_eq_nil {line : List Char} (h : tokens line = []) :
    lastStretch line = line := by
  rw [lastStretch, h]
  exact slice_all line

theorem firstStretch_of_tokens_eq_nil {line : List Char} (h : tokens line = []) :
    firstStretch line = line := by
  rw [firstStretch, h]
  exact slice_all line

theorem lastStretch_append_spells {s : List Char} {t : Tag} (hs : Spells s t)
    (before : List Char) {after : List Char} (h : tokens after = []) :
    lastStretch (before ++ s ++ after) = after := by
  have hslice := slice_append (before ++ s) after []
  rw [List.append_nil] at hslice
  rw [lastStretch, tokens_append_spells hs, h, List.map_nil, List.getLast?_concat]
  rwa [byteLength_append before s] at hslice

theorem firstStretch_append_spells {s : List Char} {t : Tag} (hs : Spells s t)
    {before : List Char} (after : List Char) (h : tokens before = []) :
    firstStretch (before ++ s ++ after) = before := by
  have hslice := slice_append [] before (s ++ after)
  rw [firstStretch, tokens_append_spells hs, h, List.append_assoc]
  exact hslice

/-! ## The compiler at a place outside the tags -/

theorem stop_le_of_mem_tokens {line : List Char} {k : Token} (h : k ∈ tokens line) :
    k.stop ≤ byteLength line := by
  obtain ⟨before, s, after, rfl, -, -, hstop⟩ := mem_tokens_iff.mp h
  rw [← hstop, byteLength_append _ after]
  exact Nat.le_add_right _ _

theorem apart_nil (line : List Char) : Apart line [] := by
  intro k hk
  rw [List.append_nil] at hk
  exact .inl (stop_le_of_mem_tokens hk)

theorem tokens_cons_eq_nil_iff {c : Char} {rest : List Char} (h : read? (c :: rest) = none) :
    tokens (c :: rest) = [] ↔ tokens rest = [] := by
  rw [tokens_cons_of_read?_eq_none h, List.map_eq_nil_iff]

/-- Text without a tag belongs to the open stretch. -/
theorem compileFrom_append_of_tokens_eq_nil {line rest : List Char} (h : tokens line = [])
    (hapart : Apart line rest) (style : Style) (stretch : List Char) :
    compileFrom style stretch (line ++ rest) =
      compileFrom style (line.reverse ++ stretch) rest := by
  induction line using scan_induction generalizing stretch with
  | done => rfl
  | tag s t tail hs ih =>
    rw [tokens_spells_append hs] at h
    cases h
  | literal c tail hread ih =>
    have hwhole := hapart.read?_eq_none hread
    rw [List.cons_append] at hwhole ⊢
    rw [compileFrom_cons_of_read?_eq_none hwhole,
      ih ((tokens_cons_eq_nil_iff hread).mp h) (@Apart.of_append [c] tail rest hapart),
      List.reverse_cons, List.append_assoc, List.singleton_append]

/-- Behind a part of a line the compiler goes on with the style that the tags of the part have
left, and with the text behind the last of them in the open stretch. -/
theorem exists_compileFrom_append (line : List Char) (style : Style) :
    ∃ head, ∀ rest, Apart line rest →
      compileFrom style [] (line ++ rest) =
        head ++ compileFrom (style.applyAll (tagsOf line)) (lastStretch line).reverse rest := by
  rcases exists_last_tag line with hnone | ⟨before, s, t, after, rfl, hs, hafter⟩
  · refine ⟨[], fun rest hapart => ?_⟩
    rw [compileFrom_append_of_tokens_eq_nil hnone hapart, lastStretch_of_tokens_eq_nil hnone,
      tagsOf, hnone, List.append_nil]
    rfl
  · refine ⟨compileFrom style [] before, fun rest hapart => ?_⟩
    have htags : tagsOf (before ++ s ++ after) = tagsOf before ++ [t] := by
      rw [tagsOf, tokens_append_spells hs, hafter, List.map_append]
      rfl
    have hrest : Apart after rest := hapart.of_append
    rw [lastStretch_append_spells hs before hafter, htags, Style.applyAll_append, List.append_assoc,
      List.append_assoc, compileFrom_append_spells hs,
      compileFrom_append_of_tokens_eq_nil hafter hrest, List.append_nil]
    rfl

/-- The open stretch is closed by the text before the first tag, and has no further effect. -/
theorem exists_compileFrom_eq (line : List Char) (style : Style) :
    ∃ tail, ∀ stretch, compileFrom style stretch line =
      Fragment.ofText style (stretch.reverse ++ firstStretch line) ++ tail := by
  have hfree {text : List Char} (h : tokens text = []) (stretch : List Char) :
      compileFrom style stretch text = Fragment.ofText style (stretch.reverse ++ text) := by
    have hall := compileFrom_append_of_tokens_eq_nil h (apart_nil text) style stretch
    rw [List.append_nil, compileFrom_nil, List.reverse_append, List.reverse_reverse] at hall
    exact hall
  rcases exists_first_tag line with hnone | ⟨before, s, t, after, rfl, hs, hbefore⟩
  · refine ⟨[], fun stretch => ?_⟩
    rw [hfree hnone, firstStretch_of_tokens_eq_nil hnone, List.append_nil]
  · refine ⟨compileFrom ((style.applyAll (tagsOf before)).apply t) [] after, fun stretch => ?_⟩
    rw [firstStretch_append_spells hs after hbefore, List.append_assoc,
      compileFrom_append_spells hs, hfree hbefore]

/-- The tags of a line that end at or before a place outside the tags are those of the part
before it. -/
theorem styleAt_of_apart {before after : List Char} (h : Apart before after) :
    styleAt (before ++ after) (byteLength before) = Style.plain.applyAll (tagsOf before) := by
  have hfirst : (tokens before).filter (·.stop ≤ byteLength before) = tokens before := by
    refine List.filter_eq_self.mpr fun k hk => ?_
    exact decide_eq_true (stop_le_of_mem_tokens hk)
  have hsecond : ((tokens after).map (Token.shift (byteLength before))).filter
      (·.stop ≤ byteLength before) = [] := by
    refine List.filter_eq_nil_iff.mpr fun k hk hle => ?_
    obtain ⟨l, hl, rfl⟩ := List.mem_map.mp hk
    have hlt := start_lt_stop_of_mem_tokens hl
    have hstop : byteLength before + l.stop ≤ byteLength before := of_decide_eq_true hle
    omega
  rw [styleAt, tagsBefore, tokens_append_of_apart h, List.filter_append, hfirst, hsecond,
    List.append_nil, tagsOf]

/-- A place outside the tags lies in one stretch, in the style in force there. Closing bold
there, where it is not set, makes a fragment of each half of the stretch that has text, and
leaves the other fragments as they are. -/
theorem exists_halves {before after : List Char} (h : Apart before after)
    (hbold : (styleAt (before ++ after) (byteLength before)).bold = false) :
    ∃ head tail,
      compileLine (before ++ after) =
        head ++ Fragment.ofText (styleAt (before ++ after) (byteLength before))
          (lastStretch before ++ firstStretch after) ++ tail ∧
      compileLine (before ++ closeBold ++ after) =
        head ++ (Fragment.ofText (styleAt (before ++ after) (byteLength before))
            (lastStretch before) ++
          Fragment.ofText (styleAt (before ++ after) (byteLength before))
            (firstStretch after)) ++ tail := by
  rw [styleAt_of_apart h] at hbold ⊢
  obtain ⟨head, hhead⟩ := exists_compileFrom_append before .plain
  obtain ⟨tail, htail⟩ :=
    exists_compileFrom_eq after (Style.plain.applyAll (tagsOf before))
  refine ⟨head, tail, ?_, ?_⟩
  · rw [compileLine, hhead after h, htail, List.reverse_reverse, List.append_assoc]
  · have hbefore := hhead [] (apart_nil before)
    rw [List.append_nil, compileFrom_nil, List.reverse_reverse] at hbefore
    rw [compileLine, List.append_assoc, compileFrom_append_spells spells_closeBold,
      Style.apply_closeBold hbold, hbefore, htail []]
    simp only [List.reverse_nil, List.nil_append, List.append_assoc]

end TaggedPage.Markup
