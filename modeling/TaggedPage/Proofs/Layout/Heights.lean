import TaggedPage.Pipeline
import TaggedPage.Proofs.Layout.Amounts

/-! # Heights of lines

A line begins where the one before it ends. Going down from the start of a line to its base
line and on to the start of the next one, the height never rises, and what it passes is
always a number. It falls strictly as long as it is not too large for the line height: at
heights where single precision has a coarser spacing, taking away the line height alone can
leave the height as it is, and a large margin in the text leads there.
-/

namespace TaggedPage.Layout

open Markup (Fragment)
open Number

/-- The height at which the line with the given number begins. -/
def startOf (s : Settings) (lines : List (List Fragment)) (i : ℕ) : Float32 :=
  (lines.take i).foldl (nextHeight s) (start s).y

theorem startOf_succ (s : Settings) (lines : List (List Fragment)) (i : Fin lines.length) :
    startOf s lines (i + 1) = nextHeight s (startOf s lines i) lines[i] := by
  unfold startOf
  rw [List.take_succ_eq_append_getElem i.isLt, List.foldl_append]
  rfl

theorem placeLines_eq (s : Settings) (measure : Measure) (y : Float32)
    (lines : List (List Fragment)) :
    placeLines s measure y lines =
      (List.finRange lines.length).flatMap fun i : Fin lines.length =>
        placeLine s measure ((lines.take i).foldl (nextHeight s) y) lines[i] := by
  induction lines generalizing y with
  | nil => rfl
  | cons line rest ih =>
    have hrange : List.finRange (line :: rest).length =
        0 :: (List.finRange rest.length).map Fin.succ := List.finRange_succ
    rw [placeLines, ih, hrange, List.flatMap_cons, List.flatMap_map]
    rfl

/-- A document is placed line by line, each from the height at which it begins. -/
theorem placeDocument_eq (s : Settings) (measure : Measure) (lines : List (List Fragment)) :
    placeDocument s measure lines =
      (List.finRange lines.length).flatMap fun i : Fin lines.length =>
        placeLine s measure (startOf s lines i) lines[i] :=
  placeLines_eq s measure _ lines

/-! ## One line -/

section

variable {s : Settings} (hs : Accepted s) {y : Float32} {line : List Fragment}

include hs

theorem baseline_le (hy : y ≤ s.pageHeight) (h : ∀ f ∈ line, f.style.Whole) :
    baseline y line ≤ y :=
  sub_le hs.pageHeight.isFinite hy (isWhole_lineMargin h .top).isAmount.nonneg

/-- The next line begins at least the line height below the base line. -/
theorem nextHeight_le (hy : y ≤ s.pageHeight) (h : ∀ f ∈ line, f.style.Whole) :
    nextHeight s y line ≤ baseline y line - s.lineHeight := by
  refine sub_antitone hs.pageHeight.isFinite (le_le_trans (baseline_le hs hy h) hy)
    hs.lineHeight.nonneg ?_
  exact le_add hs.lineHeight.nonneg (isWhole_lineMargin h .bottom).isAmount.nonneg

theorem nextHeight_le_baseline (hy : y ≤ s.pageHeight) (h : ∀ f ∈ line, f.style.Whole) :
    nextHeight s y line ≤ baseline y line :=
  le_le_trans (nextHeight_le hs hy h)
    (sub_le hs.pageHeight.isFinite (le_le_trans (baseline_le hs hy h) hy) hs.lineHeight.nonneg)

end

/-! ## A whole document -/

/-- No line begins above the page. -/
theorem startOf_le_pageHeight {s : Settings} (hs : Accepted s) {lines : List (List Fragment)}
    (h : ∀ line ∈ lines, ∀ f ∈ line, f.style.Whole) (i : ℕ) (hi : i ≤ lines.length) :
    startOf s lines i ≤ s.pageHeight := by
  induction i with
  | zero =>
    have hself : s.pageHeight ≤ s.pageHeight :=
      (isRounded_exact hs.pageHeight.isFinite).mono (isRounded_exact hs.pageHeight.isFinite) le_rfl
    exact sub_le hs.pageHeight.isFinite hself hs.topMargin.nonneg
  | succ i ih =>
    have hbefore := ih (Nat.le_of_lt hi)
    have hline := h _ (List.getElem_mem hi)
    rw [startOf_succ s lines ⟨i, hi⟩]
    exact le_le_trans (nextHeight_le_baseline hs hbefore hline)
      (le_le_trans (baseline_le hs hbefore hline) hbefore)

/-- From one line to the next the height never rises: the base line is not above the start
of its line, and the next line does not begin above the base line. It falls while it is at
most `2 ^ 23` line heights away from zero. -/
theorem startOf_descends {options : Config.Options} {file : Option Config.File} {config : Config}
    (h : Config.resolve options file = .ok config) (text : List Char)
    (i : Fin (Markup.compileDocument text).length) :
    let s := config.settings
    let lines := Markup.compileDocument text
    startOf s lines (i + 1) ≤ baseline (startOf s lines i) lines[i] ∧
      baseline (startOf s lines i) lines[i] ≤ startOf s lines i ∧
      ((startOf s lines i).isFinite = true →
        |exact (startOf s lines i)| ≤ 2 ^ 23 * exact s.lineHeight →
          startOf s lines (i + 1) < startOf s lines i) := by
  intro s lines
  have hs : Accepted s := Config.accepted_of_resolve h
  have hwhole : ∀ line ∈ lines, ∀ f ∈ line, f.style.Whole :=
    fun line hline => Markup.whole_of_mem_compileDocument hline
  have hline : ∀ f ∈ lines[i], f.style.Whole := hwhole _ (List.getElem_mem i.isLt)
  have hy := startOf_le_pageHeight hs hwhole i i.isLt.le
  refine ⟨?_, baseline_le hs hy hline, fun hfinite hbound => ?_⟩
  · rw [startOf_succ]
    exact nextHeight_le_baseline hs hy hline
  · have hlt : startOf s lines i - s.lineHeight < startOf s lines i :=
      sub_lt hfinite hs.lineHeight.isFinite
        (exact_pos hs.lineHeight.isFinite hs.lineHeight_pos) hbound
    have hbaseline : baseline (startOf s lines i) lines[i] - s.lineHeight ≤
        startOf s lines i - s.lineHeight :=
      sub_mono hs.pageHeight.isFinite hy (baseline_le hs hy hline) hs.lineHeight.isFinite
        hs.lineHeight.nonneg
    rw [startOf_succ]
    exact le_lt_trans (le_le_trans (nextHeight_le hs hy hline) hbaseline) hlt

/-- A text whose first line begins with the largest margin. -/
def steepText : List Char := "<mt4294967295>a\nb\nc".toList

/-- With no options at all the second line of a text begins below the first one. -/
theorem startOf_descends_first : ∃ config, Config.resolve {} none = .ok config ∧
    let lines := Markup.compileDocument steepText
    startOf config.settings lines 1 < startOf config.settings lines 0 := by
  refine ⟨Config.combine {} {} .standard, rfl, ?_⟩
  have hdescends := @startOf_descends {} none _ rfl steepText ⟨0, by decide +kernel⟩
  exact hdescends.2.2 (by decide +kernel) (by decide +kernel)

/-- The second and the third line of that text begin at one height. -/
theorem startOf_not_strict :
    ∃ config, Config.resolve {} none = .ok config ∧
      let lines := Markup.compileDocument steepText
      ¬ startOf config.settings lines 2 < startOf config.settings lines 1 ∧
      ((placeDocument config.settings Font.Library.standard.widthOf lines).map (·.y.toBits)) =
        [0xCF7FFFFD, 0xCF7FFFFD, 0xCF7FFFFD] := by
  refine ⟨Config.combine {} {} .standard, rfl, ?_⟩
  decide +kernel

end TaggedPage.Layout
