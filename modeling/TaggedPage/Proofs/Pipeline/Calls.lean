import TaggedPage.Pipeline
import TaggedPage.Proofs.Outcome

/-! # Calls on a sink

A document of one page is drawn by a fixed sequence of calls: the page is begun, the
placements are drawn in order, the document is finished. What a sink answers to a call may
depend on all calls before it, and it may refuse any of them.

`Sink.makeAll` makes calls one after the other up to the first one that is refused, and
`Sink.Accepts` says that none of them is. What a recorded sink notes is told for one call
(`answer_recorded`), from that for a sequence of calls (`makeAll_recorded`), and from that
for a text, which is drawn by making all the calls of its placements (`drawInto_makes_calls`).
-/

namespace TaggedPage

open Layout (Placement)

namespace Sink

variable {σ : Type}

def quietly (act : ExceptT RenderError (StateM σ) Unit) :
    ExceptT RenderError (StateM σ) (List UInt8) := do
  act
  return []

/-- A call as it is made on a sink. Only the end of a document gives bytes. -/
def make (sink : Sink σ) : DrawingCall → ExceptT RenderError (StateM σ) (List UInt8)
  | .page size => quietly (sink.beginPage size)
  | .draw p => quietly (sink.drawText p)
  | .finish => sink.finish

/-- What a sink in a state answers to a call, and the state behind the call. -/
def answer (sink : Sink σ) (s : σ) (call : DrawingCall) : Except RenderError (List UInt8) × σ :=
  (sink.make call).run.run s

/-- A sink in the first state accepts the calls one after the other, which leaves it in the
last state. -/
inductive Accepts (sink : Sink σ) : σ → List DrawingCall → σ → Prop
  | nil (s : σ) : Accepts sink s [] s
  | cons {s t u : σ} {call : DrawingCall} {calls : List DrawingCall} {bytes : List UInt8}
      (first : sink.answer s call = (.ok bytes, t)) (rest : Accepts sink t calls u) :
      Accepts sink s (call :: calls) u

/-- Makes calls one after the other and gives the bytes of the last one. -/
def makeAll (sink : Sink σ) (bytes : List UInt8) (calls : List DrawingCall) :
    ExceptT RenderError (StateM σ) (List UInt8) :=
  calls.foldlM (fun _ call => sink.make call) bytes

theorem makeAll_cons (sink : Sink σ) (bytes : List UInt8) (call : DrawingCall)
    (calls : List DrawingCall) :
    sink.makeAll bytes (call :: calls) = sink.make call >>= fun bytes => sink.makeAll bytes calls :=
  List.foldlM_cons

/-! ## Drawing as a sequence of calls -/

/-- Drawing texts one after the other makes a call for each of them. -/
theorem forM_drawText_bind (sink : Sink σ) (ps : List Placement) (bytes : List UInt8)
    (next : ExceptT RenderError (StateM σ) (List UInt8)) :
    (ps.forM sink.drawText >>= fun _ => next) =
      sink.makeAll bytes (ps.map .draw) >>= fun _ => next := by
  induction ps generalizing bytes with
  | nil => simp [makeAll]
  | cons p ps ih =>
    rw [List.map_cons, makeAll_cons, bind_assoc]
    simp only [← ih]
    simp [make, quietly]

/-- A page is drawn by making its calls and then the last one. -/
theorem drawPage_eq_makeAll (sink : Sink σ) (size : PageSize) (ps : List Placement) :
    sink.drawPage size ps =
      sink.makeAll [] (.page size :: ps.map .draw) >>= fun _ => sink.make .finish := by
  rw [makeAll_cons, bind_assoc]
  simp only [← forM_drawText_bind]
  simp [drawPage, make, quietly]

/-! ## Recorded sinks -/

theorem run_noting {α : Type} (call : DrawingCall) (act : ExceptT RenderError (StateM σ) α)
    (s : σ) (noted : List DrawingCall) :
    (noting call act).run.run (s, noted) =
      ((act.run.run s).1, (act.run.run s).2, noted ++ [call]) := rfl

theorem run_quietly_noting (call : DrawingCall) (act : ExceptT RenderError (StateM σ) Unit)
    (s : σ) (noted : List DrawingCall) :
    (quietly (noting call act)).run.run (s, noted) =
      (((quietly act).run.run s).1, ((quietly act).run.run s).2, noted ++ [call]) := by
  have hnoting := run_noting call act s noted
  cases hact : act.run.run s with
  | mk result t =>
    rw [hact] at hnoting
    cases result with
    | ok u =>
      rw [quietly, run_bind_of_ok hnoting, quietly, run_bind_of_ok hact]
      rfl
    | error e => rw [quietly, run_bind_of_error hnoting, quietly, run_bind_of_error hact]

/-- Whatever the sink answers, the call is noted. -/
theorem answer_recorded (sink : Sink σ) (s : σ) (noted : List DrawingCall) (call : DrawingCall) :
    sink.recorded.answer (s, noted) call =
      ((sink.answer s call).1, (sink.answer s call).2, noted ++ [call]) := by
  cases call with
  | page size => exact run_quietly_noting (.page size) (sink.beginPage size) s noted
  | draw p => exact run_quietly_noting (.draw p) (sink.drawText p) s noted
  | finish => exact run_noting .finish sink.finish s noted

/-- Calls on a recorded sink end as they do on the sink itself. If the sink accepts all of
them, all are noted; else those up to the first refused one, whose error is the answer. -/
theorem makeAll_recorded (sink : Sink σ) (bytes : List UInt8) (calls : List DrawingCall) (s : σ)
    (noted : List DrawingCall) :
    ∃ made answer last,
      (sink.makeAll bytes calls).run.run s = (answer, last) ∧
      (sink.recorded.makeAll bytes calls).run.run (s, noted) = (answer, last, noted ++ made) ∧
      ((made = calls ∧ sink.Accepts s calls last ∧ ∃ bytes, answer = .ok bytes) ∨
        ∃ before call after t cause, calls = before ++ call :: after ∧
          made = before ++ [call] ∧ sink.Accepts s before t ∧
          sink.answer t call = (.error cause, last) ∧ answer = .error cause) := by
  induction calls generalizing bytes s noted with
  | nil =>
    refine ⟨[], .ok bytes, s, rfl, ?_, .inl ⟨rfl, .nil s, bytes, rfl⟩⟩
    rw [List.append_nil]
    rfl
  | cons call calls ih =>
    have hnoted := sink.answer_recorded s noted call
    cases hcall : sink.answer s call with
    | mk result t =>
      rw [hcall] at hnoted
      rw [makeAll_cons, makeAll_cons]
      cases result with
      | error cause =>
        refine ⟨[call], .error cause, t, run_bind_of_error hcall _, run_bind_of_error hnoted _, ?_⟩
        exact .inr ⟨[], call, calls, s, cause, rfl, rfl, .nil s, hcall, rfl⟩
      | ok given =>
        rw [run_bind_of_ok hcall, run_bind_of_ok hnoted]
        obtain ⟨made, answer, last, hplain, hrecorded, hmade⟩ := ih given t (noted ++ [call])
        refine ⟨call :: made, answer, last, hplain, ?_, ?_⟩
        · rw [hrecorded, List.append_assoc]
          rfl
        · rcases hmade with ⟨rfl, haccepts, hok⟩ | ⟨before, refused, after, u, cause, rfl, rfl,
            haccepts, hrefused, herror⟩
          · exact .inl ⟨rfl, .cons hcall haccepts, hok⟩
          · exact .inr ⟨call :: before, refused, after, u, cause, rfl, rfl,
              .cons hcall haccepts, hrefused, herror⟩

end Sink

namespace Pipeline

/-- A text is drawn by the calls of its placements, whatever the sink answers: the page is
begun, the placements are drawn in order, the document is finished. If the sink accepts all
of them, its last answer is the document. Otherwise the calls end with the first one that is
refused, and its cause is the failure. -/
theorem drawInto_makes_calls {σ : Type} (p : Pipeline) (text : List Char) (sink : Sink σ)
    (s : σ) :
    let drawing : List DrawingCall := .page p.config.page :: (p.layout text).map .draw
    ∃ made result last,
      (p.drawInto text sink).run.run s = (result, last) ∧
      (p.drawInto text sink.recorded).run.run (s, []) = (result, last, made) ∧
      ((∃ t bytes, made = drawing ++ [.finish] ∧ sink.Accepts s drawing t ∧
          sink.answer t .finish = (.ok bytes, last) ∧ result = .ok bytes) ∨
        ∃ before call after t cause, drawing ++ [.finish] = before ++ call :: after ∧
          made = before ++ [call] ∧ sink.Accepts s before t ∧
          sink.answer t call = (.error cause, last) ∧ result = .error (.render cause)) := by
  intro drawing
  obtain ⟨made, answer, t, hplain, hrecorded, hmade⟩ :=
    sink.makeAll_recorded [] drawing s []
  rw [List.nil_append] at hrecorded
  rw [drawInto, drawInto, run_adapt, run_adapt, Sink.drawPage_eq_makeAll,
    Sink.drawPage_eq_makeAll]
  rcases hmade with ⟨rfl, haccepts, given, rfl⟩ |
    ⟨before, call, after, u, cause, hcalls, rfl, haccepts, hrefused, rfl⟩
  · -- everything before the end was accepted, so the end decides
    rw [run_bind_of_ok hplain, run_bind_of_ok hrecorded]
    rw [← Sink.answer, ← Sink.answer, Sink.answer_recorded]
    cases hfinish : sink.answer t .finish with
    | mk result last =>
      refine ⟨drawing ++ [.finish], result.mapError .render, last, rfl, rfl, ?_⟩
      cases result with
      | ok bytes => exact .inl ⟨t, bytes, rfl, haccepts, hfinish, rfl⟩
      | error cause =>
        exact .inr ⟨drawing, .finish, [], t, cause, rfl, rfl, haccepts, hfinish, rfl⟩
  · refine ⟨before ++ [call], .error (.render cause), t, ?_, ?_, ?_⟩
    · rw [run_bind_of_error hplain]
      rfl
    · rw [run_bind_of_error hrecorded]
      rfl
    · refine .inr ⟨before, call, after ++ [.finish], u, cause, ?_, rfl, haccepts, hrefused, rfl⟩
      rw [hcalls, List.append_assoc]
      rfl

end Pipeline

end TaggedPage
