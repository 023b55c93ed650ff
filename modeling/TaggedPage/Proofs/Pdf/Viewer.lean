import TaggedPage.Pdf.Content

/-! # What a page shows

A viewer carries out the operations of a page one after the other. The font, its size
and the fill colour stay in force until they are set again, also behind the end of a text
object. The position does not: each text object begins at the origin, so that the first
move in it is absolute.

The viewer is strict. It gives up on operations that it does not know, on text outside of
a text object or without a font, and on text objects that are nested or left open.
-/

namespace TaggedPage.Pdf

/-- The three channels of a colour, from zero to one. -/
abbrev Channels := Float32 × Float32 × Float32

/-- A string as it is shown on a page. -/
structure Shown where
  font : String
  size : Float32
  fill : Channels
  x : Float32
  y : Float32
  string : List UInt8

/-- The position of a viewer: outside of text objects, at the beginning of one, or where
the moves in it have led. -/
inductive Pen where
  | outside
  | origin
  | at (x y : Float32)

/-- The state of a viewer. It begins a page without a font and with black. -/
structure Viewer where
  font : Option (String × Float32) := none
  fill : Channels := (0.0, 0.0, 0.0)
  pen : Pen := .outside

namespace Viewer

def beginText (v : Viewer) : Option Viewer :=
  match v.pen with
  | .outside => some { v with pen := .origin }
  | _ => none

def endText (v : Viewer) : Option Viewer :=
  match v.pen with
  | .outside => none
  | _ => some { v with pen := .outside }

def move (v : Viewer) (x y : Float32) : Option Viewer :=
  match v.pen with
  | .outside => none
  | .origin => some { v with pen := .at x y }
  | .at x₀ y₀ => some { v with pen := .at (x₀ + x) (y₀ + y) }

def show? (v : Viewer) (bytes : List UInt8) : Option Shown :=
  match v.font, v.pen with
  | some (font, size), .origin => some ⟨font, size, v.fill, 0.0, 0.0, bytes⟩
  | some (font, size), .at x y => some ⟨font, size, v.fill, x, y, bytes⟩
  | _, _ => none

def step (v : Viewer) (o : Operation) : Option (Viewer × List Shown) :=
  match o.operator, o.operands with
  | "BT", [] => v.beginText.map (·, [])
  | "ET", [] => v.endText.map (·, [])
  | "Tf", [.name font, .real size] => some ({ v with font := some (font, size) }, [])
  | "rg", [.real red, .real green, .real blue] => some ({ v with fill := (red, green, blue) }, [])
  | "Td", [.real x, .real y] => (v.move x y).map (·, [])
  | "Tj", [.string bytes] => (v.show? bytes).map fun shown => (v, [shown])
  | _, _ => none

def run (v : Viewer) : List Operation → Option (Viewer × List Shown)
  | [] => some (v, [])
  | o :: rest => do
    let (v, first) ← v.step o
    let (v, others) ← v.run rest
    return (v, first ++ others)

@[simp] theorem step_beginText (v : Viewer) :
    v.step .beginText = v.beginText.map (·, []) := rfl

@[simp] theorem step_endText (v : Viewer) : v.step .endText = v.endText.map (·, []) := rfl

@[simp] theorem step_setFont (v : Viewer) (font : String) (size : Float32) :
    v.step (.setFont font size) = some ({ v with font := some (font, size) }, []) := rfl

@[simp] theorem step_setFill (v : Viewer) (red green blue : Float32) :
    v.step (.setFill red green blue) = some ({ v with fill := (red, green, blue) }, []) := rfl

@[simp] theorem step_moveTo (v : Viewer) (x y : Float32) :
    v.step (.moveTo x y) = (v.move x y).map (·, []) := rfl

@[simp] theorem step_showString (v : Viewer) (bytes : List UInt8) :
    v.step (.showString bytes) = (v.show? bytes).map fun shown => (v, [shown]) := rfl

@[simp] theorem run_nil (v : Viewer) : v.run [] = some (v, []) := rfl

theorem run_cons (v : Viewer) (o : Operation) (rest : List Operation) :
    v.run (o :: rest) =
      (v.step o).bind fun r => (r.1.run rest).map fun q => (q.1, r.2 ++ q.2) := by
  rw [run]
  cases v.step o with
  | none => rfl
  | some r =>
    obtain ⟨w, first⟩ := r
    cases hrest : w.run rest <;> simp [hrest]

theorem run_append (v : Viewer) (before after : List Operation) :
    v.run (before ++ after) =
      (v.run before).bind fun r => (r.1.run after).map fun q => (q.1, r.2 ++ q.2) := by
  induction before generalizing v with
  | nil => cases h : v.run after <;> simp [h]
  | cons o before ih =>
    rw [List.cons_append, run_cons, run_cons]
    cases hstep : v.step o with
    | none => rfl
    | some r =>
      rw [Option.bind_some, Option.bind_some, ih, Option.map_bind, Option.bind_map]
      congr 1
      funext q
      simp [Function.comp_def]

/-- A run that shows something can be continued. -/
theorem run_append_of_run {v w u : Viewer} {before after : List Operation}
    {first others : List Shown} (hbefore : v.run before = some (w, first))
    (hafter : w.run after = some (u, others)) :
    v.run (before ++ after) = some (u, first ++ others) := by
  rw [run_append, hbefore, Option.bind_some, hafter, Option.map_some]

end Viewer

/-- What a page with the given operations shows, if a viewer can carry them all out. -/
def shown? (operations : List Operation) : Option (List Shown) :=
  match ({} : Viewer).run operations with
  | some (⟨_, _, .outside⟩, shown) => some shown
  | _ => none

end TaggedPage.Pdf
