import TaggedPage.Markup.Fragment
import TaggedPage.Proofs.Markup.Scan

/-! # The stretches of a line

The tags of a line cut it into stretches. `compileLine` is compared with the list of
the stretches before, between and after the tokens: the ones with text in them are the
fragments, each in the style that the tags behind it have left.

`compileFrom` carries the open stretch in reverse. The proofs therefore see a line in
three parts, what is done, the open stretch, and the text still to be read, and go by
induction on the last of them.
-/

namespace TaggedPage.Markup

/-! ## One step of the compiler -/

@[simp] theorem compileFrom_nil (style : Style) (before : List Char) :
    compileFrom style before [] = Fragment.ofText style before.reverse := by
  rw [compileFrom]

theorem compileFrom_spells_append {s : List Char} {t : Tag} (h : Spells s t) (style : Style)
    (before rest : List Char) :
    compileFrom style before (s ++ rest) =
      Fragment.ofText style before.reverse ++ compileFrom (style.apply t) [] rest := by
  obtain ⟨r, hr, _, rfl, rfl⟩ := h.read? rest
  obtain ⟨tail, rfl, _⟩ := h.exists_cons
  rw [List.cons_append] at hr ⊢
  rw [compileFrom]
  split
  · next r' hr' =>
    obtain rfl := Option.some.inj (hr.symm.trans hr')
    rfl
  · next hnone => simp [hr] at hnone

theorem compileFrom_cons_of_read?_eq_none {c : Char} {rest : List Char}
    (h : read? (c :: rest) = none) (style : Style) (before : List Char) :
    compileFrom style before (c :: rest) = compileFrom style (c :: before) rest := by
  rw [compileFrom]
  split
  · next r hr => simp [h] at hr
  · rfl

/-! ## Slices -/

/-- The first characters of a text, as many as fit in `n` bytes. -/
def takeBytes : Nat → List Char → List Char
  | _, [] => []
  | n, c :: rest => if c.utf8Size ≤ n then c :: takeBytes (n - c.utf8Size) rest else []

/-- The characters of a line from byte `start` to byte `stop`. -/
def slice (line : List Char) (start stop : Nat) : List Char :=
  takeBytes (stop - start) ((restAt? line start).getD [])

theorem takeBytes_append (s after : List Char) : takeBytes (byteLength s) (s ++ after) = s := by
  induction s with
  | nil =>
    cases after with
    | nil => rfl
    | cons c after =>
      have hpos := c.utf8Size_pos
      rw [byteLength_nil, List.nil_append, takeBytes, if_neg (by omega)]
  | cons c s ih =>
    rw [byteLength_cons, List.cons_append, takeBytes, if_pos (Nat.le_add_right _ _),
      Nat.add_sub_cancel_left, ih]

theorem slice_append (before s after : List Char) :
    slice (before ++ s ++ after) (byteLength before) (byteLength (before ++ s)) = s := by
  have hrest : restAt? (before ++ s ++ after) (byteLength before) = some (s ++ after) :=
    restAt?_eq_some_iff.mpr ⟨before, List.append_assoc _ _ _, rfl⟩
  rw [slice, hrest, byteLength_append, Nat.add_sub_cancel_left]
  exact takeBytes_append s after

theorem byteLength_eq_zero_iff {text : List Char} : byteLength text = 0 ↔ text = [] := by
  cases text with
  | nil => simp
  | cons c text =>
    have hpos := c.utf8Size_pos
    simp only [byteLength_cons, reduceCtorEq, iff_false]
    omega

/-- The open stretch grows by the bytes of a literal character. -/
theorem byteLength_append_reverse_cons (done before : List Char) (c : Char) :
    byteLength (done ++ (c :: before).reverse) =
      byteLength (done ++ before.reverse) + c.utf8Size := by
  simp only [List.reverse_cons, byteLength_append, byteLength_cons, byteLength_nil]
  omega

/-! ## Stretches -/

/-- The stretches of a line of `size` bytes before, between and after tokens, as pairs of
byte positions. The first one begins at byte `start`. -/
def stretches (size start : Nat) : List Token → List (Nat × Nat)
  | [] => [(start, size)]
  | k :: rest => (start, k.start) :: stretches size k.stop rest

/-- The tags of the tokens that end at or before byte `i`. -/
def tagsBefore (i : Nat) (tokens : List Token) : List Tag :=
  (tokens.filter (·.stop ≤ i)).map (·.tag)

/-- The fragments that stretches of a line make in a style that tokens change. A stretch
without text makes none. -/
def fragmentsOf (line : List Char) (style : Style) (tokens : List Token)
    (cuts : List (Nat × Nat)) : List Fragment :=
  (cuts.filter fun cut => cut.1 < cut.2).map fun cut =>
    ⟨slice line cut.1 cut.2, style.applyAll (tagsBefore cut.1 tokens)⟩

theorem fst_of_mem_stretches {size start : Nat} {tokens : List Token} {cut : Nat × Nat}
    (h : cut ∈ stretches size start tokens) : cut.1 = start ∨ ∃ k ∈ tokens, cut.1 = k.stop := by
  induction tokens generalizing start with
  | nil =>
    obtain rfl := List.mem_singleton.mp h
    exact .inl rfl
  | cons k tokens ih =>
    rcases List.mem_cons.mp h with rfl | h
    · exact .inl rfl
    · rcases ih h with hk | ⟨l, hl, heq⟩
      · exact .inr ⟨k, List.mem_cons_self, hk⟩
      · exact .inr ⟨l, List.mem_cons_of_mem _ hl, heq⟩

theorem tagsBefore_eq_nil {i : Nat} {tokens : List Token} (h : ∀ k ∈ tokens, i < k.stop) :
    tagsBefore i tokens = [] := by
  rw [tagsBefore, List.map_eq_nil_iff, List.filter_eq_nil_iff]
  intro k hk
  simpa using h k hk

theorem tagsBefore_cons {i : Nat} {k : Token} (h : k.stop ≤ i) (tokens : List Token) :
    tagsBefore i (k :: tokens) = k.tag :: tagsBefore i tokens := by
  simp [tagsBefore, h]

theorem fragmentsOf_cons (line : List Char) (style : Style) (tokens : List Token)
    (cut : Nat × Nat) (cuts : List (Nat × Nat)) :
    fragmentsOf line style tokens (cut :: cuts) =
      fragmentsOf line style tokens [cut] ++ fragmentsOf line style tokens cuts := by
  rw [← List.singleton_append]
  simp only [fragmentsOf, List.filter_append, List.map_append]

/-- A stretch makes the fragment of its text, in the style of the tags before it. -/
theorem fragmentsOf_singleton (before s after : List Char) (style : Style)
    (tokens : List Token) :
    fragmentsOf (before ++ s ++ after) style tokens
        [(byteLength before, byteLength (before ++ s))] =
      Fragment.ofText (style.applyAll (tagsBefore (byteLength before) tokens)) s := by
  by_cases hs : s = []
  · subst hs
    simp [fragmentsOf, Fragment.ofText]
  · have hpos : 0 < byteLength s :=
      Nat.pos_of_ne_zero fun hzero => hs (byteLength_eq_zero_iff.mp hzero)
    have hlt : byteLength before < byteLength (before ++ s) := by
      rw [byteLength_append]
      omega
    simp [fragmentsOf, Fragment.ofText, hs, hlt, -byteLength_append, -List.append_assoc,
      slice_append]

/-- A token before all the stretches acts on the style they start from. -/
theorem fragmentsOf_cons_token {line : List Char} {style : Style} {k : Token}
    {tokens : List Token} {cuts : List (Nat × Nat)} (h : ∀ cut ∈ cuts, k.stop ≤ cut.1) :
    fragmentsOf line style (k :: tokens) cuts =
      fragmentsOf line (style.apply k.tag) tokens cuts := by
  refine List.map_congr_left fun cut hcut => ?_
  rw [tagsBefore_cons (h cut (List.mem_filter.mp hcut).1), Style.applyAll_cons]

theorem start_lt_stop_of_mem_tokensFrom {start : Nat} {text : List Char} {k : Token}
    (h : k ∈ tokensFrom start text) : k.start < k.stop := by
  rw [tokensFrom_eq_map_shift] at h
  obtain ⟨l, hl, rfl⟩ := List.mem_map.mp h
  exact Nat.add_lt_add_left (start_lt_stop_of_mem_tokens hl) start

/-- The compiler, met with an open stretch behind what is done of the line, yields the
fragments of the stretches from there on. -/
theorem compileFrom_eq_fragmentsOf (done before text : List Char) (style : Style) :
    compileFrom style before text =
      fragmentsOf (done ++ before.reverse ++ text) style
        (tokensFrom (byteLength (done ++ before.reverse)) text)
        (stretches (byteLength (done ++ before.reverse ++ text)) (byteLength done)
          (tokensFrom (byteLength (done ++ before.reverse)) text)) := by
  induction text using scan_induction generalizing done before style with
  | done =>
    have hstretch := fragmentsOf_singleton done before.reverse [] style []
    rw [tokensFrom_nil, stretches, compileFrom_nil]
    simp only [List.append_nil] at hstretch ⊢
    rw [hstretch]
    rfl
  | tag s t rest hs ih =>
    have hpos := hs.byteLength_pos
    rw [compileFrom_spells_append hs, ih (done ++ before.reverse ++ s) [],
      tokensFrom_spells_append hs, stretches, fragmentsOf_cons,
      ← List.append_assoc (done ++ before.reverse)]
    simp only [List.reverse_nil, List.append_nil, ← byteLength_append]
    congr 1
    · -- no tag ends before the open stretch begins
      rw [List.append_assoc (done ++ before.reverse), fragmentsOf_singleton, tagsBefore_eq_nil,
        Style.applyAll_nil]
      intro k hk
      rcases List.mem_cons.mp hk with rfl | hk
      · simp only [byteLength_append]
        omega
      · have hle := le_start_of_mem_tokensFrom hk
        have hlt := start_lt_stop_of_mem_tokensFrom hk
        simp only [byteLength_append] at hle
        omega
    · rw [fragmentsOf_cons_token]
      intro cut hcut
      rcases fst_of_mem_stretches hcut with heq | ⟨k, hk, heq⟩
      · exact Nat.le_of_eq heq.symm
      · have hle := le_start_of_mem_tokensFrom hk
        have hlt := start_lt_stop_of_mem_tokensFrom hk
        rw [heq]
        exact Nat.le_of_lt (Nat.lt_of_le_of_lt hle hlt)
  | literal c rest hread ih =>
    have hline : done ++ before.reverse ++ c :: rest = done ++ (c :: before).reverse ++ rest := by
      simp
    rw [compileFrom_cons_of_read?_eq_none hread, tokensFrom_cons_of_read?_eq_none hread, hline,
      ← byteLength_append_reverse_cons]
    exact ih done (c :: before) style

/-! ## Pieces -/

/-- The characters of a line that a fragment or a token stands for. -/
def pieceText (line : List Char) : Fragment ⊕ Token → List Char
  | .inl f => f.text
  | .inr k => slice line k.start k.stop

theorem flatMap_text_ofText (style : Style) (text : List Char) :
    (Fragment.ofText style text).flatMap (·.text) = text := by
  unfold Fragment.ofText
  split
  · next h => exact (List.isEmpty_iff.mp h).symm
  · simp

theorem flatMap_pieceText_ofText (line : List Char) (style : Style) (text : List Char) :
    ((Fragment.ofText style text).map Sum.inl).flatMap (pieceText line) = text := by
  rw [List.flatMap_map]
  exact flatMap_text_ofText style text

/-- Fragments and tokens can be put into one order in which they spell the text. -/
theorem exists_pieces (done before text : List Char) (style : Style) :
    ∃ pieces : List (Fragment ⊕ Token),
      pieces.filterMap Sum.getLeft? = compileFrom style before text ∧
      pieces.filterMap Sum.getRight? =
        tokensFrom (byteLength (done ++ before.reverse)) text ∧
      pieces.flatMap (pieceText (done ++ before.reverse ++ text)) = before.reverse ++ text := by
  have lefts (fragments : List Fragment) :
      (fragments.map (Sum.inl (β := Token))).filterMap Sum.getLeft? = fragments := by
    simp [List.filterMap_map, Function.comp_def]
  have rights (fragments : List Fragment) :
      (fragments.map (Sum.inl (β := Token))).filterMap Sum.getRight? = [] := by
    simp [List.filterMap_map, Function.comp_def]
  induction text using scan_induction generalizing done before style with
  | done =>
    refine ⟨(Fragment.ofText style before.reverse).map .inl, ?_, ?_, ?_⟩
    · rw [compileFrom_nil, lefts]
    · rw [tokensFrom_nil, rights]
    · rw [flatMap_pieceText_ofText, List.append_nil]
  | tag s t rest hs ih =>
    obtain ⟨pieces, hleft, hright, htext⟩ :=
      ih (done ++ before.reverse ++ s) [] (style.apply t)
    simp only [List.reverse_nil, List.append_nil, List.nil_append] at hright htext
    let k : Token := ⟨t, byteLength (done ++ before.reverse),
      byteLength (done ++ before.reverse ++ s)⟩
    refine ⟨(Fragment.ofText style before.reverse).map .inl ++ .inr k :: pieces, ?_, ?_, ?_⟩
    · rw [List.filterMap_append, lefts, compileFrom_spells_append hs, ← hleft]
      rfl
    · rw [List.filterMap_append, rights, tokensFrom_spells_append hs, ← byteLength_append,
        ← hright]
      rfl
    · have hslice : pieceText (done ++ before.reverse ++ s ++ rest) (.inr k) = s :=
        slice_append (done ++ before.reverse) s rest
      rw [← List.append_assoc (done ++ before.reverse), List.flatMap_append,
        flatMap_pieceText_ofText, List.flatMap_cons, hslice, htext]
  | literal c rest hread ih =>
    have hline : before.reverse ++ c :: rest = (c :: before).reverse ++ rest := by simp
    rw [compileFrom_cons_of_read?_eq_none hread, tokensFrom_cons_of_read?_eq_none hread,
      List.append_assoc, hline, ← List.append_assoc, ← byteLength_append_reverse_cons]
    exact ih done (c :: before) style

/-! ## Text between tags -/

def NoTagWithin (n : Nat) (text : List Char) : Prop :=
  ∀ before s after t, text = before ++ s ++ after → Spells s t → n ≤ before.length

/-- A tag in a stretch in which none begins would have to be empty. -/
theorem NoTagWithin.not_spells {text after b s a : List Char}
    (h : NoTagWithin text.length (text ++ after)) (heq : text = b ++ s ++ a) {t : Tag} :
    ¬ Spells s t := by
  intro hs
  have hle := h b s (a ++ after) t (by rw [heq]; simp) hs
  have hlen := congrArg List.length heq
  have hpos := List.length_pos_iff.mpr hs.ne_nil
  simp only [List.length_append] at hlen
  omega

theorem NoTagWithin.cons {before rest : List Char} {c : Char}
    (h : NoTagWithin before.length (before.reverse ++ c :: rest))
    (hread : read? (c :: rest) = none) :
    NoTagWithin (c :: before).length ((c :: before).reverse ++ rest) := by
  intro b s a t heq hs
  rw [List.reverse_cons, List.append_assoc, List.singleton_append] at heq
  refine Nat.lt_of_le_of_ne (h b s a t heq hs) fun hlen => ?_
  -- a tag that begins at `c` could be read there
  rw [List.append_assoc] at heq
  have hrest := (List.append_inj heq (by rw [List.length_reverse, hlen])).2
  obtain ⟨r, hr, _⟩ := hs.read? a
  rw [← hrest, hread] at hr
  simp at hr

/-- The fragment of a stretch in which no tag begins has text, and no tag can be read
anywhere in it. -/
theorem NoTagWithin.of_mem_ofText {text after : List Char} {style : Style} {f : Fragment}
    (h : NoTagWithin text.length (text ++ after)) (hf : f ∈ Fragment.ofText style text) :
    f.text ≠ [] ∧ ∀ b s a t, f.text = b ++ s ++ a → ¬ Spells s t := by
  unfold Fragment.ofText at hf
  split at hf
  · simp at hf
  · next hne =>
    obtain rfl := List.mem_singleton.mp hf
    exact ⟨fun heq => hne (List.isEmpty_iff.mpr heq), fun b s a t heq => h.not_spells heq⟩

theorem compileFrom_text {before text : List Char} {style : Style}
    (hopen : NoTagWithin before.length (before.reverse ++ text)) :
    ∀ f ∈ compileFrom style before text, f.text ≠ [] ∧
      ∀ b s a t, f.text = b ++ s ++ a → ¬ Spells s t := by
  have hstretch : NoTagWithin before.reverse.length (before.reverse ++ text) := by
    rwa [List.length_reverse]
  induction text using scan_induction generalizing before style with
  | done =>
    intro f hf
    rw [compileFrom_nil] at hf
    exact hstretch.of_mem_ofText hf
  | tag s t rest hs ih =>
    intro f hf
    rw [compileFrom_spells_append hs] at hf
    rcases List.mem_append.mp hf with hf | hf
    · exact hstretch.of_mem_ofText hf
    · exact ih (fun b s a t _ _ => Nat.zero_le _) (fun b s a t _ _ => Nat.zero_le _) f hf
  | literal c rest hread ih =>
    have hnext := hopen.cons hread
    rw [compileFrom_cons_of_read?_eq_none hread]
    exact ih hnext (by rwa [List.length_reverse])

/-! ## The text without its tags -/

theorem flatMap_text_compileFrom (style : Style) (before text : List Char) :
    (compileFrom style before text).flatMap (·.text) = before.reverse ++ stripTags text := by
  unfold stripTags compileLine
  induction text using scan_induction generalizing style before with
  | done => simp [flatMap_text_ofText]
  | tag s t rest hs ih =>
    rw [compileFrom_spells_append hs, compileFrom_spells_append hs, List.flatMap_append,
      List.flatMap_append, flatMap_text_ofText, flatMap_text_ofText, ih (style.apply t) [],
      ih (Style.plain.apply t) []]
    rfl
  | literal c rest hread ih =>
    rw [compileFrom_cons_of_read?_eq_none hread, compileFrom_cons_of_read?_eq_none hread,
      ih style (c :: before), ih .plain [c]]
    simp

@[simp] theorem stripTags_nil : stripTags [] = [] := by
  simp [stripTags, compileLine, Fragment.ofText]

theorem stripTags_spells_append {s : List Char} {t : Tag} (h : Spells s t)
    (rest : List Char) : stripTags (s ++ rest) = stripTags rest := by
  rw [stripTags, compileLine, compileFrom_spells_append h, List.flatMap_append,
    flatMap_text_ofText, flatMap_text_compileFrom]
  rfl

theorem stripTags_cons_of_read?_eq_none {c : Char} {rest : List Char}
    (h : read? (c :: rest) = none) : stripTags (c :: rest) = c :: stripTags rest := by
  rw [stripTags, compileLine, compileFrom_cons_of_read?_eq_none h, flatMap_text_compileFrom]
  rfl

/-- Without its tags a line loses characters and gets none. -/
theorem stripTags_sublist (line : List Char) : (stripTags line).Sublist line := by
  induction line using scan_induction with
  | done => simp
  | tag s t rest hs ih =>
    rw [stripTags_spells_append hs]
    exact List.sublist_append_of_sublist_right ih
  | literal c rest hread ih =>
    rw [stripTags_cons_of_read?_eq_none hread]
    exact ih.cons_cons c

/-- A line keeps all its text exactly if it has no tag. -/
theorem stripTags_eq_self_iff {line : List Char} : stripTags line = line ↔ tokens line = [] := by
  induction line using scan_induction with
  | done => simp [tokens]
  | tag s t rest hs ih =>
    rw [stripTags_spells_append hs, tokens, tokensFrom_spells_append hs]
    refine iff_of_false (fun heq => ?_) (List.cons_ne_nil _ _)
    have hle := (stripTags_sublist rest).length_le
    have hpos := List.length_pos_iff.mpr hs.ne_nil
    rw [heq, List.length_append] at hle
    omega
  | literal c rest hread ih =>
    rw [stripTags_cons_of_read?_eq_none hread, tokens, tokensFrom_cons_of_read?_eq_none hread,
      tokensFrom_eq_map_shift, List.map_eq_nil_iff]
    simpa using ih

/-- The fragments of a line are the stretches with text in them before, between and
after its tokens, each in the style of the tags that end before it. Fragments and tokens
together spell the line, no fragment is empty or contains a tag, and nothing is lost
without the tags exactly if there are none. -/
theorem compileLine_stretches (line : List Char) :
    compileLine line =
      fragmentsOf line .plain (tokens line) (stretches (byteLength line) 0 (tokens line)) ∧
    (∃ pieces : List (Fragment ⊕ Token),
      pieces.filterMap Sum.getLeft? = compileLine line ∧
      pieces.filterMap Sum.getRight? = tokens line ∧
      pieces.flatMap (pieceText line) = line) ∧
    (∀ f ∈ compileLine line, f.text ≠ [] ∧
      ∀ before s after t, f.text = before ++ s ++ after → ¬ Spells s t) ∧
    (stripTags line = line ↔ tokens line = []) := by
  refine ⟨compileFrom_eq_fragmentsOf [] [] line .plain, exists_pieces [] [] line .plain, ?_,
    stripTags_eq_self_iff⟩
  exact compileFrom_text fun b s a t _ _ => Nat.zero_le _

/-- The stretches around a tag, the first one a character of two bytes. -/
theorem compileLine_around_tag :
    compileLine ['é', '<', 'b', '>', 'x'] =
      [⟨['é'], .plain⟩, ⟨['x'], Style.plain.apply (.bold true)⟩] := by
  rw [(compileLine_stretches _).1, tokens_eq_tagsByPosition]
  rfl

end TaggedPage.Markup
