import Mathlib.Data.List.Basic
import Mathlib.Data.List.TakeWhile
import TaggedPage.Text.Blank

/-! # Trimmed texts

Trimming a text takes white space away from its two ends and nothing else (`padded_trim`), and
it takes all of it: an inner text that neither begins nor ends in white space is what is left
of every text that has it between white space (`Padded.trim_eq`).
-/

namespace TaggedPage

/-- A text that is an inner text with nothing but white space around it. -/
def Padded (text inner : List Char) : Prop :=
  ∃ before after, text = before ++ inner ++ after ∧ ∀ c ∈ before ++ after, isBlank c = true

theorem padded_trim (text : List Char) : Padded text (trim text) := by
  let front := text.dropWhile isBlank
  refine ⟨text.takeWhile isBlank, (front.reverse.takeWhile isBlank).reverse, ?_, ?_⟩
  · have hfront : trim text ++ (front.reverse.takeWhile isBlank).reverse = front := by
      rw [trim, ← List.reverse_append, List.takeWhile_append_dropWhile, List.reverse_reverse]
    rw [List.append_assoc, hfront, List.takeWhile_append_dropWhile]
  · refine List.forall_mem_append.mpr ⟨fun c hc => List.mem_takeWhile_imp hc, fun c hc => ?_⟩
    exact List.mem_takeWhile_imp (List.mem_reverse.mp hc)

/-- Trimming leaves nothing of a text exactly if it is all white space. -/
theorem trim_eq_nil_iff {text : List Char} : trim text = [] ↔ ∀ c ∈ text, isBlank c = true := by
  constructor
  · intro h
    obtain ⟨before, after, htext, hblank⟩ := padded_trim text
    rw [h, List.append_nil] at htext
    exact htext ▸ hblank
  · intro h
    rw [trim, List.dropWhile_eq_nil_iff.mpr h]
    rfl

theorem dropWhile_isBlank_append {blank rest : List Char} (h : ∀ c ∈ blank, isBlank c = true)
    (hfirst : ∃ c ∈ rest.head?, isBlank c = false) :
    (blank ++ rest).dropWhile isBlank = rest := by
  obtain ⟨c, hc, hcblank⟩ := hfirst
  obtain ⟨tail, rfl⟩ := List.head?_eq_some_iff.mp hc
  rw [List.dropWhile_append_of_pos h, List.dropWhile_cons_of_neg (by rw [hcblank]; decide)]

/-- Trimming gives back an inner text that has no white space at its ends. -/
theorem Padded.trim_eq {text inner : List Char} (h : Padded text inner)
    (hfirst : ∃ c ∈ inner.head?, isBlank c = false)
    (hlast : ∃ c ∈ inner.getLast?, isBlank c = false) : trim text = inner := by
  obtain ⟨before, after, rfl, hblank⟩ := h
  obtain ⟨hbefore, hafter⟩ := List.forall_mem_append.mp hblank
  have hdrop : (before ++ (inner ++ after)).dropWhile isBlank = inner ++ after := by
    obtain ⟨c, hc, hcblank⟩ := hfirst
    exact dropWhile_isBlank_append hbefore ⟨c, List.mem_head?_append_of_mem_head? hc, hcblank⟩
  have hback : (after.reverse ++ inner.reverse).dropWhile isBlank = inner.reverse := by
    rw [← List.head?_reverse] at hlast
    exact dropWhile_isBlank_append (fun c hc => hafter c (List.mem_reverse.mp hc)) hlast
  rw [trim, List.append_assoc, hdrop, List.reverse_append, hback, List.reverse_reverse]

end TaggedPage
