import Pgml.Proofs.HistoryIndependence
import Pgml.Proofs.LedgerReading
import Pgml.Proofs.PairedElements

/-! Documents at paired desks. Two machines that read, with the same elements open and with handlers that are
counterparts, come to the same at every event and at the end of a document. -/
namespace Pgml

open Machine Vocabulary
open Work (Any Lockstep Results Alike)

/-! ## Machines at paired desks -/

section

variable (p : Pairing)

def Frame.Paired (f g : Frame Handler) : Prop := g.element = f.element ∧ f.handler.Paired p g.handler

/-- Machines that read, with the same elements open, at paired desks. -/
structure Machine.Paired (m t : Machine Handler Desk) : Prop where
  left : m.reading = true
  right : t.reading = true
  frames : List.Forall₂ (Frame.Paired p) m.frames t.frames
  work : m.work.Paired p t.work

end

namespace Machine

variable {p q : Pairing} {α β : Type}

theorem frames_mono {fs gs : List (Frame Handler)} (le : p ≤ q) (frames : List.Forall₂ (Frame.Paired p) fs gs) :
    List.Forall₂ (Frame.Paired q) fs gs :=
  frames.imp fun _ _ both => ⟨both.1, both.2.mono le⟩

theorem onWork_lockstep {answers : Pairing → α → β → Prop} {v : Work Desk α} {w : Work Desk β}
    (step : Lockstep Desk.Paired p answers v w) :
    Lockstep Machine.Paired p answers (onWork v : Step Handler Desk α) (onWork w) := by
  intro m t paired
  obtain ⟨q, le, there, results⟩ := step m.work t.work paired.work
  exact ⟨q, le, ⟨paired.left, paired.right, frames_mono le paired.frames, there⟩, results⟩

theorem onWork_abreast {v w : Work Desk α} (abreast : Desk.Abreast p v w) :
    Alike (Machine.Paired p) Any (onWork v : Step Handler Desk α) (onWork w) := by
  intro m t paired
  obtain ⟨same, there, fits⟩ := abreast m.work t.work paired.work
  exact ⟨same, { paired with work := there }, fits⟩

theorem push_lockstep (element : Option String) {h k : Handler} (handlers : h.Paired p k) :
    Lockstep Machine.Paired p (fun _ _ _ => True) (push element h : Step Handler Desk Unit) (push element k) :=
  fun _ _ paired => ⟨p, le_rfl, { paired with frames := .cons ⟨rfl, handlers⟩ paired.frames }, .ok trivial⟩

theorem pop_lockstep : Lockstep Machine.Paired p Handler.Paired (pop : Step Handler Desk Handler) pop := by
  intro m t paired
  have frames := paired.frames
  unfold pop
  generalize left : m.frames = fs, right : t.frames = gs at frames
  cases frames with
  | nil => exact ⟨p, le_rfl, paired, .error _⟩
  | cons top rest => exact ⟨p, le_rfl, { paired with frames := rest }, .ok top.2⟩

end Machine

namespace Handler

variable {p : Pairing} (setup : Setup)

theorem startRoot_abreast (name : String) (as : Attributes) :
    Alike (Desk.Paired p) (· = .diagram) (startRoot setup name as) (startRoot setup name as) := by
  unfold startRoot
  split
  · cases read : rootDiagram setup.config.hintAttribute as with
    | error e => exact .fail e
    | ok g =>
      have shapes := shapes_of_rootDiagram read
      have paired : g.Paired p g := ⟨[], by rw [shapes]; exact .nil, by rw [← shapes]⟩
      refine (Desk.note_abreast _).bind fun _ _ => (Desk.setDiagram_abreast paired).bind fun _ _ => .pure ?_
      rfl
  · exact .fail _

/-- What a handler does at a start tag goes in step with what its counterpart does there. -/
theorem startElement_lockstep (closed : setup.types.Closed) {h k : Handler} (handlers : h.Paired p k)
    (name : String) (as : Attributes) :
    Lockstep Machine.Paired p (fun q => Option.Rel (Handler.Paired q)) ((behaviour setup).startElement h name as)
      ((behaviour setup).startElement k name as) := by
  have dispatched {c c' : Container} (containers : c.Paired p c') :
      Lockstep Machine.Paired p (fun q => Option.Rel (Handler.Paired q))
        (onWork (dispatch setup c name as)) (onWork (dispatch setup c' name as)) :=
    onWork_lockstep (dispatch_lockstep setup as containers closed name)
  cases handlers with
  | root =>
    refine onWork_lockstep (.behind (startRoot_abreast setup name as) ?_)
    rintro _ rfl
    exact .pure (.some .diagram)
  | ignore => exact .pure .none
  | text => exact .pure .none
  | diagram => exact dispatched .diagram
  | group _ pair => exact dispatched (.group pair)
  | edge pair => exact dispatched (.edge pair)
  | wrapper _ containers => exact dispatched containers
  | line pair => exact onWork_lockstep (.behind (startInLine_abreast as pair name) fun _ _ => .pure .none)
  | polygon pair => exact onWork_lockstep (.behind (startInPath_abreast as pair name) fun _ _ => .pure .none)

theorem endElement_abreast {h k : Handler} (handlers : h.Paired p k) (name : String) :
    Alike (Machine.Paired p) Any ((behaviour setup).endElement h name) ((behaviour setup).endElement k name) := by
  cases handlers with
  | group derive pair =>
    cases derive with
    | true => exact onWork_abreast (Desk.calcBounds_abreast pair)
    | false => exact .pure trivial
  | text buffer pair => exact onWork_abreast (setContent_abreast pair _)
  | wrapper buffer containers => exact onWork_abreast (endWrapper_abreast containers buffer)
  | root | diagram | ignore | edge | line | polygon => exact .pure trivial

theorem absorb_paired {h k : Handler} (handlers : h.Paired p k) (text : String) :
    (h.absorb text).Paired p (k.absorb text) := by
  cases handlers with
  | text buffer pair => exact .text _ pair
  | wrapper buffer containers => exact .wrapper _ containers
  | root => exact .root
  | diagram => exact .diagram
  | ignore => exact .ignore
  | group derive pair => exact .group derive pair
  | edge pair => exact .edge pair
  | line pair => exact .line pair
  | polygon pair => exact .polygon pair

theorem characters_paired {h k : Handler} (handlers : h.Paired p k) (text : String) :
    (behaviour setup).characters h text = pure () ∧ (behaviour setup).characters k text = pure () := by
  cases handlers <;> exact ⟨rfl, rfl⟩

end Handler

namespace Behaviour

variable {p : Pairing} {setup : Setup}

/-- Every event comes to the same on both sides. -/
theorem dispatch_lockstep (closed : setup.types.Closed) (e : Event) :
    Lockstep Machine.Paired p (fun _ _ _ => True) ((Handler.behaviour setup).dispatch e)
      ((Handler.behaviour setup).dispatch e) := by
  cases e with
  | alien => exact .fail _
  | start name as =>
    refine .current fun m t paired => ?_
    have frames := paired.frames
    generalize m.frames = fs, t.frames = gs at frames
    cases frames with
    | nil => exact .fail _
    | cons top rest =>
      refine (Handler.startElement_lockstep setup closed top.2 name as).bind fun q le h k handlers => ?_
      cases handlers with
      | none => exact push_lockstep _ .ignore
      | some both => exact push_lockstep _ both
  | characters text =>
    refine .current fun m t paired => ?_
    have frames := paired.frames
    generalize m.frames = fs, t.frames = gs at frames
    cases frames with
    | nil => exact .pure trivial
    | @cons f g _ _ top rest =>
      obtain ⟨left, right⟩ := Handler.characters_paired setup top.2 text
      simp only [left, right]
      have absorbed : Alike (Machine.Paired p) Any
          (Work.update fun m => { m with frames := ⟨f.element, f.handler.absorb text⟩ :: _ })
          (Work.update fun t => { t with frames := ⟨g.element, g.handler.absorb text⟩ :: _ }) :=
        .update fun _ _ paired =>
          { paired with frames := .cons ⟨top.1, Handler.absorb_paired top.2 text⟩ rest }
      exact .behind absorbed fun _ _ => .pure trivial
  | finish name =>
    refine .current fun m t paired => ?_
    have frames := paired.frames
    generalize m.frames = fs, t.frames = gs at frames
    cases frames with
    | nil => exact .fail _
    | @cons f g _ _ top rest =>
      cases rest with
      | nil => exact .fail _
      | cons below rest =>
        dsimp only
        rw [top.1]
        split
        · exact .behind (Handler.endElement_abreast setup top.2 name) fun _ _ =>
            pop_lockstep.bind fun _ _ _ _ _ => .pure trivial
        · exact .fail _

/-- The end of a document. -/
theorem finish_lockstep (ending : Option Fault) :
    Lockstep Machine.Paired p Diagram.Paired (finish ending : Step Handler Desk Diagram) (finish ending) := by
  cases ending with
  | some e => exact .fail e
  | none =>
    refine .current fun m t paired => ?_
    have depth : t.depth = m.depth := paired.frames.length_eq.symm
    rw [depth]
    split
    · refine pop_lockstep.bind fun q _ _ _ _ => .current fun m t paired => ?_
      have diagrams : Option.Rel (Diagram.Paired q) (Workspace.diagram m.work) (Workspace.diagram t.work) :=
        paired.work.diagram
      generalize Workspace.diagram m.work = g, Workspace.diagram t.work = h at diagrams
      cases diagrams with
      | none => exact .fail _
      | some both =>
        obtain ⟨shapes, objects, rfl⟩ := both
        dsimp only
        rw [← objects.length_eq]
        exact .behind (onWork_abreast (Desk.note_abreast _)) fun _ _ => .pure ⟨shapes, objects, rfl⟩
    · exact .fail _

/-- Results, and machines that are done. -/
theorem leave_paired {v w : Except Fault Diagram} {m t : Machine Handler Desk} (paired : Machine.Paired p m t)
    (results : Results (Diagram.Paired p) v w) :
    Results (Diagram.Paired p) (leave (v, m)).1 (leave (w, t)).1 ∧
      (leave (v, m)).2.work.Paired p (leave (w, t)).2.work ∧ (leave (w, t)).2.depth = (leave (v, m)).2.depth := by
  cases results with
  | ok both => exact ⟨.ok both, paired.work, paired.frames.length_eq.symm⟩
  | error e =>
    refine ⟨.error e, ?_⟩
    rcases e.isInterrupt_cases with own | ⟨cause, rfl⟩
    · simp only [leave, stopped_of_fault _ own]
      exact ⟨{ paired.work with diagram := .none }, rfl⟩
    · exact ⟨paired.work, paired.frames.length_eq.symm⟩

end Behaviour

end Pgml
