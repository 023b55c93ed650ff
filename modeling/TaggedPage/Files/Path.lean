import TaggedPage.Text.Pieces
import TaggedPage.Text.Raw

/-! # Paths

Paths are raw texts. Joining and cutting them goes by the bytes alone: nothing is
looked up and nothing is made shorter than it was written.
-/

namespace TaggedPage.Path

@[match_pattern] abbrev slash : UInt8 := 0x2F

@[match_pattern] abbrev dot : UInt8 := 0x2E

def isAbsolute (path : RawText) : Bool := path.bytes.head? == some slash

/-- The path of `name` in the directory `dir`. An absolute name stays as it is. -/
def join (dir name : RawText) : RawText :=
  if isAbsolute name || dir.bytes.isEmpty then name
  else if dir.bytes.getLast? == some slash then dir ++ name
  else dir ++ "/" ++ name

/-- A path in reverse without what names nothing at its end: slashes, and single dots
behind a slash. -/
def trimReversed : List UInt8 → List UInt8
  | [slash] => [slash]
  | slash :: rest => trimReversed rest
  | [dot, slash] => [slash]
  | dot :: slash :: rest => trimReversed rest
  | path => path

theorem length_trimReversed_le (path : List UInt8) :
    (trimReversed path).length ≤ path.length := by
  fun_induction trimReversed path <;> simp_all <;> omega

theorem head_trimReversed (path : List UInt8) :
    trimReversed path = [slash] ∨ (trimReversed path).head? ≠ some slash := by
  fun_induction trimReversed path with
  | case1 => exact .inl rfl
  | case2 _ _ ih => exact ih
  | case3 => exact .inl rfl
  | case4 _ _ ih => exact ih
  | case5 path _ other =>
    cases path with
    | nil => simp
    | cons c rest =>
      refine .inr fun head => other rest ?_
      simpa using head

/-- The directory part of a path in reverse; the root and the empty path have none. -/
def parentReversed? (path : List UInt8) : Option (List UInt8) :=
  match trimReversed path with
  | [] => none
  | [slash] => none
  | path => some (trimReversed (path.dropWhile (· ≠ slash)))

theorem length_lt_of_parentReversed? {path parent : List UInt8}
    (h : parentReversed? path = some parent) : parent.length < path.length := by
  have shorter := length_trimReversed_le path
  have head := head_trimReversed path
  unfold parentReversed? at h
  split at h
  · cases h
  · cases h
  · next nonempty notRoot =>
    injection h with h
    subst h
    refine Nat.lt_of_le_of_lt (length_trimReversed_le _) (Nat.lt_of_lt_of_le ?_ shorter)
    cases trimmed : trimReversed path with
    | nil => exact absurd trimmed nonempty
    | cons c rest =>
      have other : c ≠ slash := by
        rintro rfl
        cases head with
        | inl root => exact notRoot root
        | inr head => simp [trimmed] at head
      have dropped := List.IsSuffix.length_le (List.dropWhile_suffix (l := rest) (· ≠ slash))
      simp only [List.dropWhile_cons, ne_eq, other, not_false_eq_true, decide_true, if_true,
        List.length_cons]
      exact Nat.lt_succ_of_le dropped

/-- The directory part of a path, which is empty for a bare name. -/
def parent? (path : RawText) : Option RawText :=
  (parentReversed? path.bytes.reverse).map fun parent => ⟨parent.reverse⟩

/-- The directories around a path in reverse, the innermost one first. -/
def ancestorsReversed (path : List UInt8) : List (List UInt8) :=
  match _h : parentReversed? path with
  | none => []
  | some parent => parent :: ancestorsReversed parent
termination_by path.length
decreasing_by exact length_lt_of_parentReversed? _h

/-- The directories around a path, the innermost one first. -/
def ancestors (path : RawText) : List RawText :=
  (ancestorsReversed path.bytes.reverse).map fun ancestor => ⟨ancestor.reverse⟩

/-- The names between the slashes of a path. -/
def names (path : RawText) : List RawText := (pieces slash path.bytes).map RawText.mk

end TaggedPage.Path
