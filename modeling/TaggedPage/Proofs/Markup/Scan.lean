import TaggedPage.Markup.Token
import TaggedPage.Proofs.Markup.Grammar

/-! # Scanning a line

A line is empty, begins with a tag, or begins with a character at which no tag
begins. `scan_induction` is the induction over these three cases, and `tokensFrom`
has an equation for each.

The main statement compares the scan, which goes on at the end of a tag and one
character behind a failed bracket, with a search that tries every byte position of
the line. Both find the same tags in the same order: inside a tag no second one can
begin, since its only opening bracket is its first character.
-/

namespace TaggedPage.Markup

/-- A line is empty, begins with a tag, or begins with a literal character. -/
@[elab_as_elim]
theorem scan_induction {motive : List Char → Prop} (done : motive [])
    (tag : ∀ s t rest, Spells s t → motive rest → motive (s ++ rest))
    (literal : ∀ c rest, read? (c :: rest) = none → motive rest → motive (c :: rest))
    (line : List Char) : motive line := by
  have below : ∀ n (line : List Char), line.length ≤ n → motive line := by
    intro n
    induction n with
    | zero =>
      intro line hlen
      rw [List.length_eq_zero_iff.mp (Nat.le_zero.mp hlen)]
      exact done
    | succ n ih =>
      intro line hlen
      cases line with
      | nil => exact done
      | cons c rest =>
        cases hread : read? (c :: rest) with
        | none =>
          exact literal c rest hread (ih rest (by simpa using hlen))
        | some r =>
          have hlt := length_rest_lt_of_read? hread
          rw [eq_source_append_of_read? hread]
          exact tag r.source r.tag r.rest (spells_source_of_read? hread) (ih r.rest (by omega))
  exact below line.length line (Nat.le_refl _)

theorem Spells.ne_nil {s : List Char} {t : Tag} (h : Spells s t) : s ≠ [] := by
  obtain ⟨word, rfl, _⟩ := h
  simp

/-- A spelling opens with a bracket and has no further opening bracket. -/
theorem Spells.exists_cons {s : List Char} {t : Tag} (h : Spells s t) :
    ∃ tail, s = '<' :: tail ∧ '<' ∉ tail := by
  obtain ⟨word, rfl, hword⟩ := h
  refine ⟨word ++ ['>'], rfl, fun hmem => ?_⟩
  rcases List.mem_append.mp hmem with hmem | hmem
  · exact absurd (hword.isBracket_eq_false _ hmem) (by decide)
  · exact absurd (List.mem_singleton.mp hmem) (by decide)

theorem read?_cons_of_ne {c : Char} (h : c ≠ '<') (rest : List Char) :
    read? (c :: rest) = none := by
  cases hread : read? (c :: rest) with
  | none => rfl
  | some r =>
    have heq := (read?_eq_some_iff.mp hread).1
    exact absurd (List.cons.inj heq).1 h

/-! ## One step of the scan -/

@[simp] theorem tokensFrom_nil (start : Nat) : tokensFrom start [] = [] := by
  rw [tokensFrom]

theorem tokensFrom_spells_append {s : List Char} {t : Tag} (h : Spells s t) (start : Nat)
    (rest : List Char) :
    tokensFrom start (s ++ rest) =
      ⟨t, start, start + byteLength s⟩ :: tokensFrom (start + byteLength s) rest := by
  obtain ⟨r, hr, hs, rfl, rfl⟩ := h.read? rest
  have hbytes : start + byteLength r.body + 2 = start + byteLength s := by
    have htwo : Char.utf8Size '<' + Char.utf8Size '>' = 2 := by decide
    rw [← hs]
    simp only [Reading.source, byteLength_cons, byteLength_append, byteLength_nil]
    omega
  obtain ⟨tail, rfl, _⟩ := h.exists_cons
  rw [List.cons_append] at hr ⊢
  rw [tokensFrom]
  split
  · next r' hr' =>
    obtain rfl := Option.some.inj (hr.symm.trans hr')
    simp only [hbytes]
  · next hnone => simp [hr] at hnone

theorem tokensFrom_cons_of_read?_eq_none {c : Char} {rest : List Char}
    (h : read? (c :: rest) = none) (start : Nat) :
    tokensFrom start (c :: rest) = tokensFrom (start + c.utf8Size) rest := by
  rw [tokensFrom]
  split
  · next r hr => simp [h] at hr
  · rfl

/-! ## Positions -/

/-- What stands behind the first `i` bytes of a line, unless these end inside a
character or the line is shorter. -/
def restAt? : List Char → Nat → Option (List Char)
  | text, 0 => some text
  | [], _ + 1 => none
  | c :: rest, i + 1 => if c.utf8Size ≤ i + 1 then restAt? rest (i + 1 - c.utf8Size) else none

/-- The tag that begins at byte `i` of a line, if one does. -/
def tagAt? (line : List Char) (i : Nat) : Option Token :=
  (restAt? line i).bind fun rest =>
    (read? rest).map fun r => ⟨r.tag, i, byteLength line - byteLength r.rest⟩

def Token.shift (n : Nat) (k : Token) : Token := ⟨k.tag, n + k.start, n + k.stop⟩

@[simp] theorem restAt?_zero (text : List Char) : restAt? text 0 = some text := by
  cases text <;> rfl

theorem restAt?_append_add (before rest : List Char) (i : Nat) :
    restAt? (before ++ rest) (byteLength before + i) = restAt? rest i := by
  induction before with
  | nil => simp
  | cons c before ih =>
    have hpos := c.utf8Size_pos
    obtain ⟨k, hk⟩ : ∃ k, byteLength (c :: before) + i = k + 1 :=
      ⟨byteLength (c :: before) + i - 1, by simp only [byteLength_cons]; omega⟩
    have hsize : c.utf8Size ≤ k + 1 := by
      simp only [byteLength_cons] at hk
      omega
    rw [hk, List.cons_append, restAt?, if_pos hsize, ← hk, byteLength_cons]
    rw [show c.utf8Size + byteLength before + i - c.utf8Size = byteLength before + i by omega, ih]

theorem restAt?_eq_some_iff {line rest : List Char} {i : Nat} :
    restAt? line i = some rest ↔ ∃ before, line = before ++ rest ∧ byteLength before = i := by
  constructor
  · intro h
    induction line generalizing i with
    | nil =>
      cases i with
      | zero => exact ⟨[], by simpa using h, rfl⟩
      | succ i => simp [restAt?] at h
    | cons c line ih =>
      cases i with
      | zero => exact ⟨[], by simpa using h, rfl⟩
      | succ i =>
        rw [restAt?] at h
        split at h
        · obtain ⟨before, rfl, hbefore⟩ := ih h
          exact ⟨c :: before, rfl, by rw [byteLength_cons]; omega⟩
        · simp at h
  · rintro ⟨before, rfl, rfl⟩
    simpa using restAt?_append_add before rest 0

theorem byteLength_le_of_restAt? {line rest : List Char} {i : Nat}
    (h : restAt? line i = some rest) : byteLength rest ≤ byteLength line := by
  obtain ⟨before, rfl, _⟩ := restAt?_eq_some_iff.mp h
  simp

theorem byteLength_rest_le_of_read? {text : List Char} {r : Reading} (h : read? text = some r) :
    byteLength r.rest ≤ byteLength text := by
  rw [eq_source_append_of_read? h]
  simp

theorem tagAt?_eq_none {line : List Char} {i : Nat}
    (h : ∀ rest, restAt? line i = some rest → read? rest = none) : tagAt? line i = none := by
  unfold tagAt?
  cases hrest : restAt? line i with
  | none => rfl
  | some rest => simp [h rest hrest]

theorem tagAt?_append_add (before rest : List Char) (i : Nat) :
    tagAt? (before ++ rest) (byteLength before + i) =
      (tagAt? rest i).map (Token.shift (byteLength before)) := by
  unfold tagAt?
  rw [restAt?_append_add]
  cases hrest : restAt? rest i with
  | none => rfl
  | some text =>
    cases hread : read? text with
    | none => simp [hread]
    | some r =>
      have hle := Nat.le_trans (byteLength_rest_le_of_read? hread) (byteLength_le_of_restAt? hrest)
      have hstop : byteLength before + byteLength rest - byteLength r.rest =
          byteLength before + (byteLength rest - byteLength r.rest) := by omega
      simp [hread, hstop, Token.shift]

/-- No tag begins behind the first character of a stretch without a further opening
bracket. -/
theorem tagAt?_eq_none_inside {c : Char} {tail : List Char} (htail : '<' ∉ tail)
    (rest : List Char) {i : Nat} (hpos : 0 < i) (hlt : i < byteLength (c :: tail)) :
    tagAt? (c :: tail ++ rest) i = none := by
  refine tagAt?_eq_none fun text hrest => ?_
  obtain ⟨before, heq, rfl⟩ := restAt?_eq_some_iff.mp hrest
  obtain ⟨b, rfl⟩ : ∃ b, before = c :: b := by
    cases before with
    | nil => simp at hpos
    | cons d b => exact ⟨b, by rw [(List.cons.inj heq).1]⟩
  have htext : tail ++ rest = b ++ text := by simpa using heq
  rcases List.append_eq_append_iff.mp htext with ⟨more, rfl, _⟩ | ⟨more, rfl, rfl⟩
  · simp at hlt
  · cases more with
    | nil => simp at hlt
    | cons d more =>
      have hd : d ≠ '<' := by
        rintro rfl
        simp at htail
      exact read?_cons_of_ne hd (more ++ rest)

/-- The tags of a line, found by trying every byte position. -/
def tagsByPosition (line : List Char) : List Token :=
  (List.range (byteLength line + 1)).filterMap (tagAt? line)

theorem tagsByPosition_append {c : Char} {tail : List Char} (htail : '<' ∉ tail)
    (rest : List Char) :
    tagsByPosition (c :: tail ++ rest) =
      (tagAt? (c :: tail ++ rest) 0).toList ++
        (tagsByPosition rest).map (Token.shift (byteLength (c :: tail))) := by
  have hpos := c.utf8Size_pos
  obtain ⟨n, hn⟩ : ∃ n, byteLength (c :: tail) = n + 1 :=
    ⟨byteLength (c :: tail) - 1, by simp only [byteLength_cons]; omega⟩
  have hinside : (List.range n).filterMap (fun i => tagAt? (c :: tail ++ rest) (i + 1)) = [] := by
    refine List.filterMap_eq_nil_iff.mpr fun i hi => ?_
    exact tagAt?_eq_none_inside htail rest (Nat.succ_pos i)
      (by rw [hn]; exact Nat.succ_lt_succ (List.mem_range.mp hi))
  have hbehind : (List.range (byteLength rest + 1)).filterMap
      (fun i => tagAt? (c :: tail ++ rest) (byteLength (c :: tail) + i)) =
        (tagsByPosition rest).map (Token.shift (byteLength (c :: tail))) := by
    simp only [tagAt?_append_add, tagsByPosition, List.map_filterMap]
  rw [← hbehind]
  unfold tagsByPosition
  rw [byteLength_append, Nat.add_assoc, List.range_add, List.filterMap_append, List.filterMap_map]
  congr 1
  rw [hn, List.range_succ_eq_map, List.filterMap_cons, List.filterMap_map]
  simp only [Function.comp_def, Nat.succ_eq_add_one, hinside]
  cases tagAt? (c :: tail ++ rest) 0 <;> rfl

theorem tokensFrom_add (n start : Nat) (text : List Char) :
    tokensFrom (n + start) text = (tokensFrom start text).map (Token.shift n) := by
  induction text using scan_induction generalizing start with
  | done => simp
  | tag s t rest hs ih =>
    rw [tokensFrom_spells_append hs, tokensFrom_spells_append hs, List.map_cons, ← ih]
    simp only [Token.shift, Nat.add_assoc]
  | literal c rest hread ih =>
    rw [tokensFrom_cons_of_read?_eq_none hread, tokensFrom_cons_of_read?_eq_none hread, ← ih,
      Nat.add_assoc]

theorem tokensFrom_eq_map_shift (n : Nat) (text : List Char) :
    tokensFrom n text = (tokens text).map (Token.shift n) :=
  tokensFrom_add n 0 text

/-- Scanning finds what trying every position finds. -/
theorem tokens_eq_tagsByPosition (line : List Char) : tokens line = tagsByPosition line := by
  induction line using scan_induction with
  | done =>
    rw [tokens, tokensFrom_nil]
    rfl
  | tag s t rest hs ih =>
    obtain ⟨r, hr, _, rfl, rfl⟩ := hs.read? rest
    have hfirst : tagAt? (s ++ r.rest) 0 = some ⟨r.tag, 0, byteLength s⟩ := by
      simp [tagAt?, hr]
    rw [tokens, tokensFrom_spells_append hs, tokensFrom_eq_map_shift, Nat.zero_add, ih]
    obtain ⟨tail, rfl, htail⟩ := hs.exists_cons
    rw [tagsByPosition_append htail, hfirst]
    rfl
  | literal c rest hread ih =>
    have hfirst : tagAt? (c :: rest) 0 = none := tagAt?_eq_none (by simp [hread])
    rw [tokens, tokensFrom_cons_of_read?_eq_none hread, tokensFrom_eq_map_shift, Nat.zero_add, ih]
    have hstep := tagsByPosition_append (c := c) (List.not_mem_nil (a := '<')) rest
    simp only [List.singleton_append] at hstep
    rw [hstep, hfirst]
    simp

/-! ## Spans -/

theorem tagAt?_eq_some_iff {line : List Char} {i : Nat} {k : Token} :
    tagAt? line i = some k ↔
      k.start = i ∧ ∃ before s after, line = before ++ s ++ after ∧ Spells s k.tag ∧
        byteLength before = k.start ∧ byteLength (before ++ s) = k.stop := by
  constructor
  · intro h
    obtain ⟨rest, hrest, h⟩ := Option.bind_eq_some_iff.mp h
    obtain ⟨r, hr, rfl⟩ := Option.map_eq_some_iff.mp h
    obtain ⟨before, rfl, rfl⟩ := restAt?_eq_some_iff.mp hrest
    refine ⟨rfl, before, r.source, r.rest, ?_, spells_source_of_read? hr, rfl, ?_⟩
    · rw [List.append_assoc, ← eq_source_append_of_read? hr]
    · conv => rhs; rw [eq_source_append_of_read? hr]
      simp only [byteLength_append]
      omega
  · obtain ⟨t, start, stop⟩ := k
    rintro ⟨rfl, before, s, after, rfl, hs, rfl, rfl⟩
    obtain ⟨r, hr, _, rfl, rfl⟩ := hs.read? after
    have hrest : restAt? (before ++ s ++ r.rest) (byteLength before) = some (s ++ r.rest) :=
      restAt?_eq_some_iff.mpr ⟨before, List.append_assoc _ _ _, rfl⟩
    simp only [tagAt?, hrest, Option.bind_some, hr, Option.map_some, byteLength_append,
      Nat.add_sub_cancel]

theorem mem_tokens_iff {line : List Char} {k : Token} :
    k ∈ tokens line ↔ ∃ before s after, line = before ++ s ++ after ∧ Spells s k.tag ∧
      byteLength before = k.start ∧ byteLength (before ++ s) = k.stop := by
  rw [tokens_eq_tagsByPosition, tagsByPosition, List.mem_filterMap]
  constructor
  · rintro ⟨i, _, hk⟩
    exact (tagAt?_eq_some_iff.mp hk).2
  · rintro ⟨before, s, after, rfl, hs, hstart, hstop⟩
    refine ⟨k.start, List.mem_range.mpr ?_, ?_⟩
    · simp only [← hstart, byteLength_append]
      omega
    · exact tagAt?_eq_some_iff.mpr ⟨rfl, before, s, after, rfl, hs, hstart, hstop⟩

theorem Spells.byteLength_pos {s : List Char} {t : Tag} (h : Spells s t) : 0 < byteLength s := by
  obtain ⟨tail, rfl, _⟩ := h.exists_cons
  have hpos := Char.utf8Size_pos '<'
  rw [byteLength_cons]
  omega

theorem start_lt_stop_of_mem_tokens {line : List Char} {k : Token} (h : k ∈ tokens line) :
    k.start < k.stop := by
  obtain ⟨before, s, after, _, hs, hstart, hstop⟩ := mem_tokens_iff.mp h
  have hpos := hs.byteLength_pos
  rw [byteLength_append] at hstop
  omega

theorem le_start_of_mem_tokensFrom {start : Nat} {text : List Char} {k : Token}
    (h : k ∈ tokensFrom start text) : start ≤ k.start := by
  rw [tokensFrom_eq_map_shift] at h
  obtain ⟨l, _, rfl⟩ := List.mem_map.mp h
  exact Nat.le_add_right _ _

/-- Each token ends before the next one starts. -/
theorem tokensFrom_pairwise (start : Nat) (text : List Char) :
    (tokensFrom start text).Pairwise fun k l => k.stop ≤ l.start := by
  induction text using scan_induction generalizing start with
  | done => simp
  | tag s t rest hs ih =>
    rw [tokensFrom_spells_append hs]
    exact List.pairwise_cons.mpr ⟨fun k hk => le_start_of_mem_tokensFrom hk, ih _⟩
  | literal c rest hread ih =>
    rw [tokensFrom_cons_of_read?_eq_none hread]
    exact ih _

/-! ## Bytes -/

theorem utf8ByteSize_ofList (text : List Char) :
    (String.ofList text).utf8ByteSize = byteLength text := by
  induction text with
  | nil => rfl
  | cons c text ih =>
    have hsplit : String.ofList (c :: text) = String.singleton c ++ String.ofList text := by
      rw [String.singleton_eq_ofList, ← String.ofList_append]
      rfl
    rw [hsplit, String.utf8ByteSize_append, String.utf8ByteSize_singleton, ih, byteLength_cons]

theorem isValid_ofList_append (before rest : List Char) :
    String.Pos.Raw.IsValid (String.ofList (before ++ rest)) ⟨byteLength before⟩ := by
  refine String.Pos.Raw.isValid_iff_exists_append.mpr
    ⟨String.ofList before, String.ofList rest, String.ofList_append, ?_⟩
  rw [← utf8ByteSize_ofList]
  rfl

theorem extract_toByteArray_ofList (before s after : List Char) :
    (String.ofList (before ++ s ++ after)).toByteArray.extract (byteLength before)
      (byteLength (before ++ s)) = (String.ofList s).toByteArray := by
  have hsize (text : List Char) : (String.ofList text).toByteArray.size = byteLength text := by
    rw [String.size_toByteArray, utf8ByteSize_ofList]
  have hbehind := ByteArray.extract_append_size_add (a := (String.ofList before).toByteArray)
    (b := (String.ofList (s ++ after)).toByteArray) (i := 0) (j := byteLength s)
  rw [hsize before, Nat.add_zero, ← hsize s] at hbehind
  rw [List.append_assoc, String.ofList_append, String.toByteArray_append, byteLength_append,
    ← hsize s, hbehind, String.ofList_append, String.toByteArray_append,
    ByteArray.extract_append_eq_left rfl]

/-- The scan of a line finds every tag once. Its tokens are, in ascending order, the
byte positions at which a tag can be read from the rest of the line; each begins and
ends between two characters, the bytes between are a complete spelling of its tag, and
no two of them overlap. -/
theorem tokens_find_every_tag (line : List Char) :
    tokens line = (List.range (byteLength line + 1)).filterMap (tagAt? line) ∧
    (∀ k ∈ tokens line,
      String.Pos.Raw.IsValid (String.ofList line) ⟨k.start⟩ ∧
      String.Pos.Raw.IsValid (String.ofList line) ⟨k.stop⟩ ∧
      ∃ s, Spells s k.tag ∧
        (String.ofList line).toByteArray.extract k.start k.stop =
          (String.ofList s).toByteArray) ∧
    (tokens line).Pairwise (fun k l => k.start < k.stop ∧ k.stop ≤ l.start) ∧
    (∀ i, (∃ rest, restAt? line i = some rest ∧ (read? rest).isSome = true) ↔
      ∃ k ∈ tokens line, k.start = i) := by
  refine ⟨tokens_eq_tagsByPosition line, ?_, ?_, fun i => ⟨?_, ?_⟩⟩
  · intro k hk
    obtain ⟨before, s, after, rfl, hs, hstart, hstop⟩ := mem_tokens_iff.mp hk
    rw [← hstart, ← hstop]
    refine ⟨?_, isValid_ofList_append _ _, s, hs, extract_toByteArray_ofList before s after⟩
    rw [List.append_assoc]
    exact isValid_ofList_append _ _
  · refine (tokensFrom_pairwise 0 line).imp_of_mem fun hk _ h => ?_
    exact ⟨start_lt_stop_of_mem_tokens hk, h⟩
  · rintro ⟨rest, hrest, hread⟩
    obtain ⟨r, hr⟩ := Option.isSome_iff_exists.mp hread
    obtain ⟨before, rfl, rfl⟩ := restAt?_eq_some_iff.mp hrest
    refine ⟨⟨r.tag, byteLength before, byteLength (before ++ r.source)⟩, ?_, rfl⟩
    refine mem_tokens_iff.mpr ⟨before, r.source, r.rest, ?_, spells_source_of_read? hr, rfl, rfl⟩
    rw [List.append_assoc, ← eq_source_append_of_read? hr]
  · rintro ⟨k, hk, rfl⟩
    obtain ⟨before, s, after, rfl, hs, hstart, _⟩ := mem_tokens_iff.mp hk
    obtain ⟨r, hr, _⟩ := hs.read? after
    refine ⟨s ++ after, restAt?_eq_some_iff.mpr ⟨before, ?_, hstart⟩, by rw [hr]; rfl⟩
    rw [List.append_assoc]

/-- Behind a broken bracket, and behind a character of two bytes, a tag is found. -/
theorem tokens_behind_broken_bracket :
    tokens ['é', '<', '<', 'b', '>', '>'] = [⟨.bold true, 3, 6⟩] :=
  (tokens_find_every_tag _).1.trans (by decide)

end TaggedPage.Markup
