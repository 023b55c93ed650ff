import TaggedPage.Proofs.Markup.Stretches

/-! # Cutting a line

A place in a line that lies inside no tag cuts the line into two parts, and neither the scan
nor the compiler sees more of one part from the other than the style that its tags leave
(`Apart`). In front of a tag there is always such a place. A bracket that is left open before
it cannot reach over it, because the only opening bracket of a tag is its first character.

A line can thus be read part by part. What stands before a tag keeps its tokens and fragments,
and what stands behind it is compiled as a line of its own, in another style.
-/

namespace TaggedPage.Markup

def tagsOf (line : List Char) : List Tag := (tokens line).map (·.tag)

/-- The place between two parts of a line lies inside no tag of the line. -/
def Apart (before after : List Char) : Prop :=
  ∀ k ∈ tokens (before ++ after), k.stop ≤ byteLength before ∨ byteLength before ≤ k.start

instance (before after : List Char) : Decidable (Apart before after) :=
  inferInstanceAs (Decidable (∀ k ∈ tokens (before ++ after), _))

theorem map_tag_tokensFrom (start : Nat) (text : List Char) :
    (tokensFrom start text).map (·.tag) = tagsOf text := by
  rw [tokensFrom_eq_map_shift, List.map_map]
  rfl

@[simp] theorem tagsOf_nil : tagsOf [] = [] := by
  simp [tagsOf, tokens]

theorem tagsOf_spells_append {s : List Char} {t : Tag} (h : Spells s t) (rest : List Char) :
    tagsOf (s ++ rest) = t :: tagsOf rest := by
  rw [tagsOf, tokens, tokensFrom_spells_append h, List.map_cons, map_tag_tokensFrom]

theorem tagsOf_cons_of_read?_eq_none {c : Char} {rest : List Char}
    (h : read? (c :: rest) = none) : tagsOf (c :: rest) = tagsOf rest := by
  rw [tagsOf, tokens, tokensFrom_cons_of_read?_eq_none h, map_tag_tokensFrom]

/-! ## Places outside the tags -/

/-- Of two beginnings of a text the one of fewer bytes is a beginning of the other. -/
theorem prefix_of_byteLength_le {s before text : List Char} (hs : s <+: text)
    (hbefore : before <+: text) (h : byteLength s ≤ byteLength before) : s <+: before := by
  rcases List.prefix_or_prefix_of_prefix hs hbefore with hprefix | ⟨more, rfl⟩
  · exact hprefix
  · rw [byteLength_append] at h
    obtain rfl : more = [] := byteLength_eq_zero_iff.mp (by omega)
    exact ⟨[], by rw [List.append_nil, List.append_nil]⟩

/-- A token is still found when more text stands before it. -/
theorem shift_mem_tokens {line : List Char} {k : Token} (h : k ∈ tokens line)
    (before : List Char) : k.shift (byteLength before) ∈ tokens (before ++ line) := by
  obtain ⟨head, s, tail, rfl, hs, hstart, hstop⟩ := mem_tokens_iff.mp h
  refine mem_tokens_iff.mpr ⟨before ++ head, s, tail, ?_, hs, ?_, ?_⟩
  · simp only [List.append_assoc]
  · rw [byteLength_append, hstart]
    rfl
  · rw [List.append_assoc, byteLength_append, hstop]
    rfl

/-- What no tag stretches over still lies in no tag when the beginning of the line is gone. -/
theorem Apart.of_append {head before after : List Char} (h : Apart (head ++ before) after) :
    Apart before after := by
  intro k hk
  have hshift := shift_mem_tokens hk head
  rw [← List.append_assoc] at hshift
  have hplace := h _ hshift
  simp only [Token.shift, byteLength_append] at hplace
  omega

/-- Where no tag begins in the first part, none begins in the whole line. -/
theorem Apart.read?_eq_none {c : Char} {before after : List Char} (h : Apart (c :: before) after)
    (hread : read? (c :: before) = none) : read? (c :: before ++ after) = none := by
  cases hwhole : read? (c :: before ++ after) with
  | none => rfl
  | some r =>
    have hsource := eq_source_append_of_read? hwhole
    have hspells := spells_source_of_read? hwhole
    have htoken : ⟨r.tag, 0, byteLength r.source⟩ ∈ tokens (c :: before ++ after) :=
      mem_tokens_iff.mpr ⟨[], r.source, r.rest, hsource, hspells, rfl, rfl⟩
    rcases h _ htoken with hstop | hstart
    · obtain ⟨more, hmore⟩ := prefix_of_byteLength_le ⟨r.rest, hsource.symm⟩
        (List.prefix_append (c :: before) after) hstop
      obtain ⟨r', hr', -⟩ := hspells.read? more
      rw [hmore, hread] at hr'
      cases hr'
    · have hpos := c.utf8Size_pos
      simp only [byteLength_cons] at hstart
      omega

/-- In front of a tag is a place outside all tags, whatever stands before it. -/
theorem Spells.apart {s : List Char} {t : Tag} (h : Spells s t) (before after : List Char) :
    Apart before (s ++ after) := by
  intro k hk
  obtain ⟨head, s', tail, hline, hs', hstart, hstop⟩ := mem_tokens_iff.mp hk
  by_contra hinside
  rw [← hstart, ← hstop, not_or, not_le, not_le] at hinside
  obtain ⟨hbehind, hbefore⟩ := hinside
  have hhead : head <+: before ++ (s ++ after) := ⟨s' ++ tail, by rw [hline, List.append_assoc]⟩
  obtain ⟨x, rfl⟩ :=
    prefix_of_byteLength_le hhead (List.prefix_append before (s ++ after)) hbefore.le
  obtain ⟨y, hy⟩ := prefix_of_byteLength_le (List.prefix_append _ (s ++ after))
    ⟨tail, hline.symm⟩ hbehind.le
  rw [List.append_assoc, List.append_cancel_left_eq] at hy
  subst hy
  -- the spelling that begins with `x` goes on with the opening bracket of the tag
  have hrest : s ++ after = y ++ tail := by simpa using hline
  obtain ⟨c, x, rfl⟩ : ∃ c x', x = c :: x' := by
    cases x with
    | nil => simp at hbefore
    | cons c x => exact ⟨c, x, rfl⟩
  obtain ⟨d, y, rfl⟩ : ∃ d y', y = d :: y' := by
    cases y with
    | nil => simp at hbehind
    | cons d y => exact ⟨d, y, rfl⟩
  obtain ⟨inner, rfl, -⟩ := h.exists_cons
  obtain ⟨tail', heq, hnone⟩ := hs'.exists_cons
  have hd : '<' = d := (List.cons.inj hrest).1
  have htail : x ++ d :: y = tail' := (List.cons.inj heq).2
  exact hnone (by rw [← htail, ← hd]; simp)

/-! ## Both parts -/

/-- The tokens of a line are those of its parts. -/
theorem Apart.tokensFrom {before after : List Char} (h : Apart before after) (start : Nat) :
    tokensFrom start (before ++ after) =
      tokensFrom start before ++ tokensFrom (start + byteLength before) after := by
  induction before using scan_induction generalizing start with
  | done => simp
  | tag s t rest hs ih =>
    rw [List.append_assoc, tokensFrom_spells_append hs, tokensFrom_spells_append hs,
      ih h.of_append, byteLength_append, Nat.add_assoc]
    rfl
  | literal c rest hread ih =>
    have hwhole := h.read?_eq_none hread
    rw [List.cons_append] at hwhole ⊢
    rw [tokensFrom_cons_of_read?_eq_none hwhole, tokensFrom_cons_of_read?_eq_none hread,
      ih (@Apart.of_append [c] rest after h), byteLength_cons, Nat.add_assoc]

theorem tokens_append_of_apart {before after : List Char} (h : Apart before after) :
    tokens (before ++ after) =
      tokens before ++ (tokens after).map (Token.shift (byteLength before)) := by
  rw [tokens, h.tokensFrom, Nat.zero_add, tokensFrom_eq_map_shift (byteLength before)]
  rfl

theorem tokens_spells_append {s : List Char} {t : Tag} (h : Spells s t) (rest : List Char) :
    tokens (s ++ rest) =
      ⟨t, 0, byteLength s⟩ :: (tokens rest).map (Token.shift (byteLength s)) := by
  rw [tokens, tokensFrom_spells_append h, Nat.zero_add, tokensFrom_eq_map_shift]

theorem shift_shift (m n : Nat) (k : Token) : (k.shift n).shift m = k.shift (m + n) := by
  simp only [Token.shift, Nat.add_assoc]

/-- The tokens of a line with a tag in it: those before the tag, the tag, and those behind
it. -/
theorem tokens_append_spells {s : List Char} {t : Tag} (h : Spells s t)
    (before after : List Char) :
    tokens (before ++ s ++ after) =
      tokens before ++ ⟨t, byteLength before, byteLength before + byteLength s⟩ ::
        (tokens after).map (Token.shift (byteLength before + byteLength s)) := by
  rw [List.append_assoc, tokens_append_of_apart (h.apart before after), tokens_spells_append h,
    List.map_cons, List.map_map]
  simp only [Function.comp_def, shift_shift]
  rfl

/-- The fragments of a line with a tag in it, where an open stretch stands before the line:
those up to the tag, and those behind it in the style that the tags have left. -/
theorem compileFrom_append_spells {s : List Char} {t : Tag} (h : Spells s t) (style : Style)
    (stretch before after : List Char) :
    compileFrom style stretch (before ++ (s ++ after)) =
      compileFrom style stretch before ++
        compileFrom ((style.applyAll (tagsOf before)).apply t) [] after := by
  induction before using scan_induction generalizing style stretch with
  | done =>
    rw [List.nil_append, compileFrom_spells_append h, compileFrom_nil, tagsOf_nil,
      Style.applyAll_nil]
  | tag s' t' rest hs' ih =>
    rw [List.append_assoc, compileFrom_spells_append hs', compileFrom_spells_append hs', ih,
      tagsOf_spells_append hs', Style.applyAll_cons, List.append_assoc]
  | literal c rest hread ih =>
    have hwhole := (h.apart (c :: rest) after).read?_eq_none hread
    rw [List.cons_append] at hwhole ⊢
    rw [compileFrom_cons_of_read?_eq_none hwhole, compileFrom_cons_of_read?_eq_none hread, ih,
      tagsOf_cons_of_read?_eq_none hread]

/-! ## Closing tags -/

/-- Whether a tag unsets what it concerns. -/
def Tag.closes : Tag → Bool
  | .bold opens => !opens
  | .italic opens => !opens
  | .fontSize _ opens => !opens
  | .color rgb => rgb.isNone
  | .margin _ _ => false
  | .marginReset => true

/-- A closing tag leaves the plain style as it is. -/
theorem Style.plain_apply_of_closes {t : Tag} (h : t.closes = true) :
    Style.plain.apply t = Style.plain := by
  cases t with
  | bold opens | italic opens | fontSize points opens =>
    obtain rfl : opens = false := by simpa [Tag.closes] using h
    rfl
  | color rgb =>
    obtain rfl : rgb = none := by simpa [Tag.closes] using h
    rfl
  | margin edge value => cases h
  | marginReset => rfl

theorem compileLine_closes_append {spellings : List (List Char)}
    (h : ∀ s ∈ spellings, ∃ t, Spells s t ∧ t.closes = true) (line : List Char) :
    compileLine (spellings.flatten ++ line) = compileLine line := by
  induction spellings with
  | nil => rfl
  | cons s rest ih =>
    obtain ⟨⟨t, hs, hclose⟩, hrest⟩ := List.forall_mem_cons.mp h
    rw [List.flatten_cons, List.append_assoc, compileLine, compileFrom_spells_append hs,
      Style.plain_apply_of_closes hclose, ← compileLine, ih hrest]
    rfl

/-- A tag cuts the line it stands in. The tokens of the line are those of the part before the
tag, the tag itself, and those of the part behind it, moved by as many bytes as stand before
them. The fragments are those of the part before the tag, and those of the part behind it,
compiled from the style that the tags of the first part and then the tag have left. Closing
tags at the beginning of a line, however many, change nothing. -/
theorem tag_cuts_line (before after : List Char) :
    (∀ s t, Spells s t →
      tokens (before ++ s ++ after) =
          tokens before ++ ⟨t, byteLength before, byteLength before + byteLength s⟩ ::
            (tokens after).map (Token.shift (byteLength before + byteLength s)) ∧
        compileLine (before ++ s ++ after) =
          compileLine before ++
            compileFrom ((Style.plain.applyAll (tagsOf before)).apply t) [] after) ∧
      ∀ spellings : List (List Char), (∀ s ∈ spellings, ∃ t, Spells s t ∧ t.closes = true) →
        compileLine (spellings.flatten ++ after) = compileLine after := by
  refine ⟨?_, ?_⟩
  · intro s t hs
    refine ⟨tokens_append_spells hs before after, ?_⟩
    rw [compileLine, List.append_assoc]
    exact compileFrom_append_spells hs .plain [] before after
  · intro spellings hspellings
    exact compileLine_closes_append hspellings after

/-- A tag behind an open bracket, and closing tags before a line. -/
theorem tag_cuts_line_behind_open_bracket :
    tokens ['<', 'b', '<', 'i', '>', 'x'] = [⟨.italic true, 2, 5⟩] ∧
      compileLine ['<', 'b', '<', 'i', '>', 'x'] =
        [⟨['<', 'b'], .plain⟩, ⟨['x'], Style.plain.apply (.italic true)⟩] ∧
      compileLine ['<', '/', 'b', '>', '<', '/', '7', '>', 'x'] = compileLine ['x'] := by
  have hitalic : Spells ['<', 'i', '>'] (.italic true) := ⟨['i'], rfl, .italicOn⟩
  have hbold : Spells ['<', '/', 'b', '>'] (.bold false) := ⟨['/', 'b'], rfl, .boldOff⟩
  have hsize : Spells ['<', '/', '7', '>'] (.fontSize 7 false) :=
    ⟨['/', '7'], rfl, .sizeOff (.one rfl)⟩
  obtain ⟨htokens, hfragments⟩ := (tag_cuts_line ['<', 'b'] ['x']).1 _ _ hitalic
  refine ⟨?_, ?_, ?_⟩
  · rw [tokens_eq_tagsByPosition ['<', 'b'], tokens_eq_tagsByPosition ['x']] at htokens
    exact htokens
  · have hread : read? ['<', 'b'] = none := rfl
    have hread' : read? ['b'] = none := rfl
    refine hfragments.trans ?_
    rw [compileLine, compileFrom_cons_of_read?_eq_none hread,
      compileFrom_cons_of_read?_eq_none hread', compileFrom_nil,
      tagsOf_cons_of_read?_eq_none hread, tagsOf_cons_of_read?_eq_none hread', tagsOf_nil,
      compileFrom_cons_of_read?_eq_none rfl, compileFrom_nil]
    rfl
  · refine (tag_cuts_line [] ['x']).2 [['<', '/', 'b', '>'], ['<', '/', '7', '>']] ?_
    refine List.forall_mem_cons.mpr ⟨⟨_, hbold, rfl⟩, ?_⟩
    exact List.forall_mem_cons.mpr ⟨⟨_, hsize, rfl⟩, List.forall_mem_nil _⟩

end TaggedPage.Markup
