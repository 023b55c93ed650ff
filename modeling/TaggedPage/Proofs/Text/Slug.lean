import Mathlib.Data.List.Basic
import TaggedPage.Text.Slug

/-! # Words of slugs

A slug is made of the words of a text, in lower case and joined by single hyphens, however its
characters are spelled (`joinWords_eq_intercalate`). So one that is not empty ends in a letter or
a digit.
-/

namespace TaggedPage.Slug

/-- One or more words of lower-case letters and digits, joined by single hyphens. -/
def IsJoined (text : List Char) : Prop :=
  ∃ words ≠ [], (∀ word ∈ words, word ≠ [] ∧ ∀ c ∈ word, isWordChar c = true) ∧
    text = ['-'].intercalate words

/-- What stands between the characters of a text that cannot stand in a word, in lower case. -/
def stretches (text : List Char) : List (List Char) :=
  (text.map Char.toLower).splitOnP (!isWordChar ·)

def words (text : List Char) : List (List Char) := (stretches text).filter (· ≠ [])

variable {text first : List Char} {others : List (List Char)} {c : Char}

theorem exists_stretches (text : List Char) : ∃ first others, stretches text = first :: others :=
  List.exists_cons_of_ne_nil (List.splitOnP_ne_nil _ _)

theorem stretches_cons_of_word (hc : isWordChar c.toLower = true)
    (h : stretches text = first :: others) :
    stretches (c :: text) = (c.toLower :: first) :: others := by
  rw [stretches, List.map_cons, List.splitOnP_cons_eq_if_modifyHead, if_neg (by simp [hc]),
    ← stretches, h, List.modifyHead_cons]

theorem stretches_cons_of_not_word (hc : ¬isWordChar c.toLower = true) (text : List Char) :
    stretches (c :: text) = [] :: stretches text := by
  rw [stretches, List.map_cons, List.splitOnP_cons_eq_if_modifyHead, if_pos (by simp [hc]),
    ← stretches]

theorem stretches_chars (text : List Char) :
    ∀ stretch ∈ stretches text, ∀ c ∈ stretch, isWordChar c = true := by
  induction text with
  | nil => simp [stretches]
  | cons d text ih =>
    obtain ⟨first, others, h⟩ := exists_stretches text
    rw [h] at ih
    obtain ⟨hfirst, hothers⟩ := List.forall_mem_cons.mp ih
    by_cases hd : isWordChar d.toLower = true
    · rw [stretches_cons_of_word hd h]
      exact List.forall_mem_cons.mpr ⟨List.forall_mem_cons.mpr ⟨hd, hfirst⟩, hothers⟩
    · rw [stretches_cons_of_not_word hd, h]
      exact List.forall_mem_cons.mpr ⟨by simp, ih⟩

theorem words_chars (text : List Char) :
    ∀ word ∈ words text, word ≠ [] ∧ ∀ c ∈ word, isWordChar c = true := by
  intro word hword
  obtain ⟨hmem, hne⟩ := List.mem_filter.mp hword
  exact ⟨by simpa using hne, stretches_chars text word hmem⟩

theorem intercalate_hyphen (word : List Char) (words : List (List Char)) :
    ['-'].intercalate (word :: words) = word ++ words.flatMap ('-' :: ·) := by
  induction words generalizing word with
  | nil => simp
  | cons next words ih =>
    rw [List.intercalate_cons_cons, ih]
    simp

/-- Behind a word that was begun, its rest follows, and then the other words, each behind a
hyphen. If something was left out, the rest is a word of its own. -/
theorem joinWords_of_started (pending : Bool) (h : stretches text = first :: others) :
    joinWords true pending text =
      (if pending = true ∧ first ≠ [] then '-' :: first else first) ++
        (others.filter (· ≠ [])).flatMap ('-' :: ·) := by
  induction text generalizing pending first others with
  | nil =>
    obtain ⟨rfl, rfl⟩ := List.cons.inj h
    simp [joinWords]
  | cons c text ih =>
    obtain ⟨next, rest, hrest⟩ := exists_stretches text
    by_cases hc : isWordChar c.toLower = true
    · rw [stretches_cons_of_word hc hrest] at h
      obtain ⟨rfl, rfl⟩ := List.cons.inj h
      cases pending <;> simp [joinWords, hc, ih false hrest]
    · rw [stretches_cons_of_not_word hc, hrest] at h
      obtain ⟨rfl, rfl⟩ := List.cons.inj h
      by_cases hnext : next = [] <;> simp [joinWords, hc, ih true hrest, hnext]

/-- A slug is the words of its text, joined by single hyphens. -/
theorem joinWords_eq_intercalate (pending : Bool) (text : List Char) :
    joinWords false pending text = ['-'].intercalate (words text) := by
  induction text generalizing pending with
  | nil => rfl
  | cons c text ih =>
    obtain ⟨first, others, h⟩ := exists_stretches text
    by_cases hc : isWordChar c.toLower = true
    · have hwords : words (c :: text) =
          (c.toLower :: first) :: others.filter (· ≠ []) := by
        rw [words, stretches_cons_of_word hc h, List.filter_cons_of_pos (by simp)]
      rw [hwords, intercalate_hyphen]
      simp [joinWords, hc, joinWords_of_started false h]
    · have hwords : words (c :: text) = words text := by
        rw [words, stretches_cons_of_not_word hc, List.filter_cons_of_neg (by simp), ← words]
      simp [joinWords, hc, ih true, hwords]

theorem isJoined_of_ne_nil (h : joinWords false false text ≠ []) :
    IsJoined (joinWords false false text) := by
  rw [joinWords_eq_intercalate] at h ⊢
  refine ⟨words text, ?_, words_chars text, rfl⟩
  intro hwords
  rw [hwords] at h
  exact h rfl

theorem IsJoined.chars (h : IsJoined text) : ∀ c ∈ text, isWordChar c = true ∨ c = '-' := by
  obtain ⟨words, hne, hwords, rfl⟩ := h
  obtain ⟨word, words, rfl⟩ := List.exists_cons_of_ne_nil hne
  obtain ⟨hword, hwords⟩ := List.forall_mem_cons.mp hwords
  intro c hc
  rw [intercalate_hyphen, List.mem_append, List.mem_flatMap] at hc
  rcases hc with hc | ⟨next, hnext, hc⟩
  · exact .inl (hword.2 c hc)
  · rcases List.mem_cons.mp hc with rfl | hc
    · exact .inr rfl
    · exact .inl ((hwords next hnext).2 c hc)

/-- The last character belongs to a word. -/
theorem IsJoined.ne_concat_hyphen (h : IsJoined text) (front : List Char) :
    text ≠ front ++ ['-'] := by
  have hlast (word before : List Char) (hword : word ≠ [] ∧ ∀ c ∈ word, isWordChar c = true) :
      before ++ word ≠ front ++ ['-'] := by
    intro heq
    have hhyphen := congrArg List.getLast? heq
    rw [List.getLast?_append_of_ne_nil _ hword.1, List.getLast?_concat] at hhyphen
    exact absurd (hword.2 _ (List.mem_of_getLast? hhyphen)) (by decide)
  obtain ⟨words, hne, hwords, rfl⟩ := h
  obtain ⟨word, words, rfl⟩ := List.exists_cons_of_ne_nil hne
  rw [intercalate_hyphen]
  rcases List.eq_nil_or_concat words with rfl | ⟨before, last, rfl⟩
  · simpa using hlast word [] (hwords word List.mem_cons_self)
  · have hmem : last ∈ word :: before.concat last := by simp
    simpa using hlast last (word ++ (before.flatMap ('-' :: ·) ++ ['-'])) (hwords last hmem)

end TaggedPage.Slug
