import Pgml.Proofs.PairedDesks
import Pgml.Proofs.Work

/-! Works at paired desks. A work goes in step with another one if from paired desks the two come to the
same fault, or to answers that go together, and leave desks that are paired, with more objects perhaps. What
is done to the objects and containers of one desk goes in step with what is done to their counterparts. -/
namespace Pgml

open Work (Any)

namespace Work

variable {σ τ α β γ δ : Type}

/-- The same fault, or answers that go together. -/
inductive Results (answers : α → β → Prop) : Except Fault α → Except Fault β → Prop where
  | ok {a : α} {b : β} : answers a b → Results answers (.ok a) (.ok b)
  | error (e : Fault) : Results answers (.error e) (.error e)

/-- Two ends: results of a kind, in related states. On the way the pairing may have grown. -/
def Outcomes (R : Pairing → σ → τ → Prop) (p : Pairing) (answers : Pairing → α → β → Prop)
    (x : Except Fault α × σ) (y : Except Fault β × τ) : Prop :=
  ∃ q, p ≤ q ∧ R q x.2 y.2 ∧ Results (answers q) x.1 y.1

def Lockstep (R : Pairing → σ → τ → Prop) (p : Pairing) (answers : Pairing → α → β → Prop) (v : Work σ α)
    (w : Work τ β) : Prop :=
  ∀ s t, R p s t → Outcomes R p answers (v s) (w t)

/-- The second parts matter only where both first parts succeed. -/
theorem Outcomes.bind {R : Pairing → σ → τ → Prop} {p : Pairing} {answers : Pairing → α → β → Prop}
    {final : Pairing → γ → δ → Prop} {v : Work σ α} {w : Work τ β} {f : α → Work σ γ} {g : β → Work τ δ} {s : σ}
    {t : τ} (first : Outcomes R p answers (v s) (w t))
    (next : ∀ q a b s' t', p ≤ q → v s = (.ok a, s') → w t = (.ok b, t') → R q s' t' → answers q a b →
      Outcomes R q final (f a s') (g b t')) : Outcomes R p final ((v >>= f) s) ((w >>= g) t) := by
  obtain ⟨q, le, there, results⟩ := first
  rw [bind_apply, bind_apply]
  rcases left : v s with ⟨_ | a, s'⟩ <;> rcases right : w t with ⟨_ | b, t'⟩ <;>
    rw [left, right] at results there
  · cases results
    exact ⟨q, le, there, .error _⟩
  · cases results
  · cases results
  · cases results with
    | ok together =>
      obtain ⟨q', le', there', results'⟩ := next q a b s' t' le left right there together
      exact ⟨q', le.trans le', there', results'⟩

namespace Lockstep

variable {R : Pairing → σ → τ → Prop} {p : Pairing} {answers : Pairing → α → β → Prop}
  {final : Pairing → γ → δ → Prop}

theorem pure {a : α} {b : β} (together : answers p a b) :
    Lockstep R p answers (Pure.pure a) (Pure.pure b) :=
  fun _ _ related => ⟨p, le_rfl, related, .ok together⟩

theorem fail (e : Fault) : Lockstep R p answers (Work.fail e) (Work.fail e) :=
  fun _ _ related => ⟨p, le_rfl, related, .error e⟩

theorem bind {v : Work σ α} {w : Work τ β} {f : α → Work σ γ} {g : β → Work τ δ}
    (first : Lockstep R p answers v w)
    (next : ∀ q, p ≤ q → ∀ a b, answers q a b → Lockstep R q final (f a) (g b)) :
    Lockstep R p final (v >>= f) (w >>= g) :=
  fun s t related => (first s t related).bind fun q a b s' t' le _ _ there together =>
    next q le a b together s' t' there

/-- Work that runs alike needs no other pairing. -/
theorem behind {v : Work σ α} {w : Work τ α} {answer : α → Prop} {f : α → Work σ γ} {g : α → Work τ δ}
    (first : Alike (R p) answer v w) (next : ∀ a, answer a → Lockstep R p final (f a) (g a)) :
    Lockstep R p final (v >>= f) (w >>= g) := by
  intro s t related
  obtain ⟨same, there, fits⟩ := first s t related
  rw [bind_apply, bind_apply]
  rcases left : v s with ⟨_ | a, s'⟩ <;> rcases right : w t with ⟨_ | b, t'⟩ <;>
    simp only [left, right, reduceCtorEq, Except.ok.injEq, Except.error.injEq] at same there fits
  · exact ⟨p, le_rfl, there, same ▸ .error _⟩
  · subst same
    exact next a (fits a rfl) s' t' there

theorem current {f : σ → Work σ γ} {g : τ → Work τ δ}
    (next : ∀ s t, R p s t → Lockstep R p final (f s) (g t)) :
    Lockstep R p final (Work.current >>= f) (Work.current >>= g) :=
  fun s t related => next s t related s t related

end Lockstep

end Work

/-! ## Containers and handlers -/

section

variable (p : Pairing)

inductive Container.Paired : Container → Container → Prop where
  | diagram : Paired .diagram .diagram
  | group {i j : ItemId} : p i j → Paired (.group i) (.group j)
  | edge {i j : ItemId} : p i j → Paired (.edge i) (.edge j)
  | tray (kind : TrayKind) : Paired (.tray kind) (.tray kind)

/-- Handlers of documents with counterparts in them. -/
inductive Handler.Paired : Handler → Handler → Prop where
  | root : Paired .root .root
  | diagram : Paired .diagram .diagram
  | ignore : Paired .ignore .ignore
  | group {i j : ItemId} (derive : Bool) : p i j → Paired (.group i derive) (.group j derive)
  | edge {i j : ItemId} : p i j → Paired (.edge i) (.edge j)
  | text {i j : ItemId} (buffer : String) : p i j → Paired (.text i buffer) (.text j buffer)
  | line {i j : ItemId} : p i j → Paired (.line i) (.line j)
  | polygon {i j : ItemId} : p i j → Paired (.polygon i) (.polygon j)
  | wrapper {c c' : Container} (buffer : String) : c.Paired p c' → Paired (.wrapper c buffer) (.wrapper c' buffer)

inductive Hinted.Paired : Hinted → Hinted → Prop where
  | mk {i j : ItemId} {a b : Item} : p i j → a.Paired p b → Paired ⟨i, a⟩ ⟨j, b⟩

inductive Verdict.Paired : Verdict → Verdict → Prop where
  | handled {h k : Option Handler} : Option.Rel (Handler.Paired p) h k → Paired (.handled h) (.handled k)
  | declined : Paired .declined .declined

end

section

variable {p q : Pairing} {c c' : Container}

theorem Container.Paired.mono (le : p ≤ q) (paired : c.Paired p c') : c.Paired q c' := by
  cases paired with
  | diagram => exact .diagram
  | group pair => exact .group (le _ _ pair)
  | edge pair => exact .edge (le _ _ pair)
  | tray kind => exact .tray kind

theorem Container.Paired.takesObjects (paired : c.Paired p c') : c'.takesObjects = c.takesObjects := by
  cases paired <;> rfl

theorem Container.Paired.takesData (paired : c.Paired p c') : c'.takesData = c.takesData := by
  cases paired <;> rfl

theorem Handler.Paired.mono {h k : Handler} (le : p ≤ q) (paired : h.Paired p k) : h.Paired q k := by
  cases paired with
  | root => exact .root
  | diagram => exact .diagram
  | ignore => exact .ignore
  | group derive pair => exact .group derive (le _ _ pair)
  | edge pair => exact .edge (le _ _ pair)
  | text buffer pair => exact .text buffer (le _ _ pair)
  | line pair => exact .line (le _ _ pair)
  | polygon pair => exact .polygon (le _ _ pair)
  | wrapper buffer containers => exact .wrapper buffer (containers.mono le)

theorem Hinted.Paired.mono {h k : Hinted} (le : p ≤ q) : h.Paired p k → h.Paired q k := by
  rintro ⟨pair, items⟩
  exact ⟨le _ _ pair, items.mono le⟩

theorem Hinted.Paired.plan? {h k : Hinted} (paired : h.Paired p k) :
    Vocabulary.Hinted.plan? k = Vocabulary.Hinted.plan? h := by
  obtain ⟨_, items⟩ := paired
  cases items with
  | thing => rfl
  | shape shapes =>
    obtain ⟨variants⟩ := shapes
    cases variants <;> rfl

end

namespace Desk

variable {p : Pairing} {i j : ItemId}

/-! ## Boxes and names -/

theorem boundsOf_abreast {ids others : List ItemId} (pairs : List.Forall₂ p ids others) :
    Abreast p (boundsOf ids) (boundsOf others) := by
  have box {i j : ItemId} (pair : p i j) :
      Abreast p (do return (← needShape i).bounds) (do return (← needShape j).bounds) := by
    refine needShape_abreast pair fun s t both => ?_
    obtain ⟨_⟩ := both
    exact .pure trivial
  unfold boundsOf
  induction pairs with
  | nil => exact .pure trivial
  | cons pair _ ih =>
    rw [List.mapM_cons, List.mapM_cons]
    exact (box pair).bind fun _ _ => ih.bind fun _ _ => .pure trivial

theorem setBounds_abreast (pair : p i j) (b : Bounds) : Abreast p (setBounds i b) (setBounds j b) := by
  refine updateShape_abreast pair ?_
  rintro _ _ ⟨variants⟩
  exact ⟨variants⟩

theorem calcBounds_abreast (pair : p i j) : Abreast p (calcBounds i) (calcBounds j) := by
  refine needShape_abreast pair fun s t both => ?_
  obtain ⟨variants⟩ := both
  cases variants with
  | group plan children =>
    refine (boundsOf_abreast children).bind fun boxes _ => ?_
    split
    · exact setBounds_abreast pair _
    · exact .pure trivial
  | polygon points =>
    cases points with
    | nil => exact .fail _
    | cons first rest => exact setBounds_abreast pair _
  | line x1 y1 x2 y2 => exact setBounds_abreast pair _
  | _ => exact .fail _

theorem registerName_abreast (name : String) (pair : p i j) :
    Abreast p (registerName name i) (registerName name j) :=
  .update fun _ _ paired => { paired with names := paired.names.insert name pair }

theorem setDiagram_abreast {g h : Diagram} (diagrams : g.Paired p h) :
    Abreast p (setDiagram g) (setDiagram h) := by
  intro d e paired
  have both := paired.diagram
  simp only [setDiagram]
  generalize left : d.diagram = a, right : e.diagram = b at both
  cases both with
  | none => exact ⟨rfl, { paired with diagram := .some diagrams }, fun _ _ => trivial⟩
  | some _ => exact ⟨rfl, paired, fun _ _ => trivial⟩

theorem updateDiagram_abreast {f g : Diagram → Diagram} (diagrams : ∀ x y, x.Paired p y → (f x).Paired p (g y)) :
    Abreast p (.update (updateDiagram f)) (.update (updateDiagram g)) := by
  refine .update fun d e paired => ?_
  have both := paired.diagram
  refine { paired with diagram := ?_ }
  simp only [updateDiagram]
  generalize d.diagram = a, e.diagram = b at both
  cases both with
  | none => exact .none
  | some related => exact .some (diagrams _ _ related)

/-- Attributes look at no parts and at no connections. -/
def pairedLink (p : Pairing) : Styling.Link where
  shapes s t := s.Paired p t
  journals j k := k = j
  style := by
    rintro f _ _ ⟨variants⟩
    exact ⟨variants⟩
  bounds := by
    rintro b _ _ ⟨variants⟩
    exact ⟨variants⟩
  unknown := by
    rintro value used j _ rfl
    rfl

theorem style_abreast (pair : p i j) (defaults : ColorDefaults) (as : Attributes) :
    Abreast p (style i (Styling.setCommon defaults as)) (style j (Styling.setCommon defaults as)) := by
  intro d e paired
  have shapes := paired.shape? pair
  unfold style
  generalize d.shape? i = left, e.shape? j = right at shapes
  cases shapes with
  | none => exact ⟨rfl, paired, fun _ _ => trivial⟩
  | @some s t both =>
    have alike : Work.Alike (Styling.Linked (pairedLink p) d.colors.palette) Any (Styling.setCommon defaults as)
        (Styling.setCommon defaults as) := Styling.setCommon_linked as defaults
    obtain ⟨same, ⟨changed, journal, colors, _⟩, _⟩ := alike ⟨s, d.colors, d.journal⟩ ⟨t, e.colors, e.journal⟩
      ⟨both, paired.journal, paired.colors, rfl⟩
    exact ⟨same, { paired.setShape pair changed with colors := colors, journal := journal }, fun _ _ => trivial⟩

/-! ## Containers -/

theorem addChild_abreast (pair : p i j) {child other : ItemId} (children : p child other) :
    Abreast p (addChild i child) (addChild j other) := by
  refine tryShape_abreast pair ?_
  rintro _ _ ⟨variants⟩
  cases variants with
  | group plan before =>
    exact .some ⟨.group plan (List.rel_append before (.cons children .nil))⟩
  | _ => exact .none

theorem addToEdge_abreast (pair : p i j) {child other : ItemId} (children : p child other) :
    Abreast p (addToEdge i child) (addToEdge j other) := by
  refine needShape_abreast pair fun s t both => .current fun d e paired => ?_
  obtain ⟨variants⟩ := both
  dsimp only
  rw [paired.kindOf children, paired.isPath children]
  cases variants with
  | edge path connections =>
    cases path with
    | none =>
      dsimp only
      split
      · refine updateShape_abreast pair ?_
        rintro _ _ ⟨_⟩
        exact ⟨.edge (.some children) connections⟩
      · exact note_abreast _
    | some _ => exact note_abreast _
  | _ => exact note_abreast _

theorem addObject_abreast {c c' : Container} (containers : c.Paired p c') (pair : p i j) :
    Abreast p (addObject c i) (addObject c' j) := by
  cases containers with
  | diagram =>
    refine updateDiagram_abreast ?_
    rintro g _ ⟨shapes, objects, rfl⟩
    exact ⟨_, List.rel_append objects (.cons pair .nil), rfl⟩
  | group group => exact addChild_abreast group pair
  | edge edge => exact addToEdge_abreast edge pair
  | tray kind =>
    cases kind with
    | inert => exact .fail _
    | collector | dataCollector | handler => exact .update fun _ _ paired => { paired with }

theorem set_paired {c e : Connections} (paired : c.Paired p e) (joint : Joint) {target other : Option ItemId}
    (targets : Option.Rel p target other) : (joint.set target c).Paired p (joint.set other e) := by
  cases joint with
  | sourcePort => exact { paired with sourcePort := targets }
  | destPort => exact { paired with destPort := targets }
  | sourceNode => exact { paired with sourceNode := targets }
  | destNode => exact { paired with destNode := targets }

theorem connect_abreast (pair : p i j) (joint : Joint) {target other : Option ItemId}
    (targets : Option.Rel p target other) :
    Abreast p (updateShape i (connect joint target)) (updateShape j (connect joint other)) := by
  refine updateShape_abreast pair ?_
  rintro _ _ ⟨variants⟩
  have whole := variants
  cases variants with
  | edge path connections => exact ⟨.edge path (set_paired connections joint targets)⟩
  | _ => exact ⟨whole⟩

theorem addPrivate_abreast (pair : p i j) (data : List (String × String)) :
    Abreast p (updateShape i (addPrivate data)) (updateShape j (addPrivate data)) := by
  refine updateShape_abreast pair ?_
  rintro _ _ ⟨variants⟩
  exact ⟨variants⟩

theorem setEdgeEntry_abreast (pair : p i j) (key value : String) :
    Abreast p (setEdgeEntry i key value) (setEdgeEntry j key value) := by
  unfold setEdgeEntry
  cases Joint.ofKey? key with
  | none => exact addPrivate_abreast pair _
  | some joint =>
    refine .current fun d e paired => ?_
    have targets := paired.names.get? value
    dsimp only
    generalize d.names.get? value = target, e.names.get? value = other at targets
    cases targets with
    | none =>
      refine needShape_abreast pair fun s t both => ?_
      obtain ⟨_⟩ := both
      exact (note_abreast _).bind fun _ _ => connect_abreast pair joint .none
    | some target => exact connect_abreast pair joint (.some target)

theorem setEdgeData_abreast (pair : p i j) (data : List (String × String)) :
    Abreast p (setEdgeData i data) (setEdgeData j data) := by
  induction data with
  | nil => exact .pure trivial
  | cons entry rest ih => exact (setEdgeEntry_abreast pair _ _).bind fun _ _ => ih

theorem setPrivateData_abreast (data : Table String) {c c' : Container} (containers : c.Paired p c') :
    Abreast p (setPrivateData data c) (setPrivateData data c') := by
  cases containers with
  | diagram =>
    refine updateDiagram_abreast ?_
    rintro g _ ⟨shapes, objects, rfl⟩
    exact ⟨shapes, objects, rfl⟩
  | group group => exact addPrivate_abreast group _
  | edge edge => exact setEdgeData_abreast edge _
  | tray kind =>
    cases kind with
    | dataCollector => exact .update fun _ _ paired => { paired with }
    | handler => exact .pure trivial
    | collector | inert => exact .fail _

end Desk

end Pgml
