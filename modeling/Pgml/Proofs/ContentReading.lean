import Pgml.Proofs.ShapeFilling

/-! What content does to a stock. `Reads` tells it by the structure of content, one rule for each role
that an element can have; a document that is read without fault is read by these rules. -/
namespace Pgml

open Desk Vocabulary Machine
open Work (Ends Ensures)

/-- The character data directly in content, joined. -/
def Content.ownString (content : Content) : String := content.ownText.foldl (· ++ ·) ""

/-- Content inside a container, a stock before it and the stock after it. -/
inductive Reads (setup : Setup) (p : Palette) : Content → Container → Stock → Stock → Prop where
  | empty (c : Container) (k : Stock) : Reads setup p .empty c k k
  | text {rest : Content} {c : Container} {k l : Stock} (data : String) :
      Reads setup p rest c k l → Reads setup p (.text data rest) c k l
  | nothing {name : String} {as : Attributes} {inner rest : Content} {c : Container} {k l : Stock} :
      setup.role name as = .nothing → Reads setup p rest c k l →
      Reads setup p (.element name as inner rest) c k l
  | relay {name : String} {as : Attributes} {lost : Option Shape} {inner rest : Content} {c : Container}
      {k m l : Stock} : setup.role name as = .relay lost →
      Reads setup p inner c (lost.elim k k.make) m →
      Reads setup p rest c (m.deliver (PrivateData.parse inner.ownString) c) l →
      Reads setup p (.element name as inner rest) c k l
  | closed {name : String} {as : Attributes} {s t u : Shape} {inner rest : Content} {c : Container}
      {k l : Stock} : setup.role name as = .shape s .closed → s.finish setup p as name = .ok t →
      t.fill (s.content? setup as name k.next) inner = .ok u → Reads setup p rest c (k.receive c as u) l →
      Reads setup p (.element name as inner rest) c k l
  | group {name : String} {as : Attributes} {s t : Shape} {derive : Bool} {inner rest : Content}
      {c : Container} {k m l : Stock} : setup.role name as = .shape s .group →
      s.finish setup p as name = .ok t →
      s.content? setup as name k.next = some (.group k.next derive) →
      Reads setup p inner (.group k.next) (k.receive c as t) m →
      Reads setup p rest c (if derive then m.derive k.next else m) l →
      Reads setup p (.element name as inner rest) c k l
  | edge {name : String} {as : Attributes} {s t : Shape} {inner rest : Content} {c : Container}
      {k m l : Stock} : setup.role name as = .shape s .edge → s.finish setup p as name = .ok t →
      Reads setup p inner (.edge k.next) (k.receive c as t) m → Reads setup p rest c m l →
      Reads setup p (.element name as inner rest) c k l

/-! ## What stays in a stock -/

/-- A stock that came from another one: it is sound, its shapes are still there and of the same kinds,
and so is a diagram. -/
structure Stock.Grown (k l : Stock) : Prop where
  sound : l.Sound
  has : ∀ id kind, k.Has id kind → l.Has id kind
  set : k.diagram.isSome = true → l.diagram.isSome = true

namespace Stock

variable {k l m : Stock} {t : Shape}

theorem set_setEntry (edge : ItemId) (key value : String) :
    (k.setEntry edge key value).diagram = k.diagram := by
  unfold setEntry
  split
  · rfl
  · dsimp only
    split <;> rfl

theorem set_deliver (data : Table String) (c : Container) :
    (k.deliver data c).diagram.isSome = k.diagram.isSome := by
  cases c with
  | diagram => simp [deliver]
  | group | tray => rfl
  | edge id =>
    simp only [deliver, setEntries]
    induction data.entries generalizing k with
    | nil => rfl
    | cons entry rest ih => rw [List.foldl_cons, ih, set_setEntry]

theorem set_receive (c : Container) (as : Attributes) : (k.receive c as t).diagram.isSome = k.diagram.isSome := by
  cases c <;> simp [receive, offer, make, call, modify]

namespace Grown

theorem refl (sound : k.Sound) : k.Grown k := ⟨sound, fun _ _ has => has, id⟩

theorem trans (first : k.Grown l) (second : l.Grown m) : k.Grown m where
  sound := second.sound
  has id kind there := second.has id kind (first.has id kind there)
  set given := second.set (first.set given)

theorem fits (grown : k.Grown l) (c : Container) (fits : k.Fits c) : l.Fits c := fits_of_has grown.has fits

theorem same (sound : k.Sound) (same : l.skeleton = k.skeleton)
    (set : l.diagram.isSome = k.diagram.isSome) : k.Grown l where
  sound := sound_of_skeleton same sound
  has _ _ there := has_of_skeleton same there
  set := set.trans

theorem deliver (grown : k.Grown l) (data : Table String) (c : Container) : k.Grown (l.deliver data c) :=
  grown.trans (.same grown.sound (skeleton_deliver data c) (set_deliver data c))

theorem derive (grown : k.Grown l) (id : ItemId) (derive : Bool) :
    k.Grown (if derive then l.derive id else l) := by
  split
  · exact grown.trans (.same grown.sound (skeleton_derive id) rfl)
  · exact grown

theorem receive (sound : k.Sound) (leaf : t.variant.parts = []) (c : Container) (as : Attributes) :
    k.Grown (k.receive c as t) where
  sound := sound_offer_make (k := k.call _ _) sound leaf c t.isPath
  has _ _ there := has_make (has_offer (k := k.call _ _) there c k.next t.isPath) t
  set := (set_receive c as).trans

theorem lost (sound : k.Sound) {lost : Option Shape} (leaf : ∀ s, lost = some s → s.variant.parts = []) :
    k.Grown (lost.elim k k.make) := by
  cases lost with
  | none => exact refl sound
  | some s => exact ⟨sound_make sound (leaf s rfl), fun _ _ there => has_make there s, id⟩

end Grown

end Stock

section

variable {setup : Setup} {p : Palette} {c : Container} {k l : Stock} {s t : Shape} {as : Attributes}
  {name : String}

theorem leaf_of_kin (fresh : s.Fresh) (kin : s.Kin t) : t.variant.parts = [] :=
  kin.variant.parts.trans fresh.plain.parts

theorem kind_of_group (types : setup.types = .builtin) (role : setup.role name as = .shape s .group) :
    s.kind = "Group" := by
  obtain ⟨fresh, interior⟩ := fresh_of_role types role
  unfold Setup.interior at interior
  split at interior
  · split at interior
    next children plan variant =>
      obtain rfl := fresh.undispatched children plan variant
      simp [Shape.kind, variant, Variant.kind]
    · contradiction
    · contradiction
  · contradiction

theorem has_receive {kind : String} (kin : s.Kin t) (same : s.kind = kind) :
    (k.receive c as t).Has k.next kind := by
  have kept : t.kind = s.kind := kin.variant.kind
  simp [Stock.Has, Stock.receive_next, kept, same]

theorem room_of_group (types : setup.types = .builtin) (role : setup.role name as = .shape s .group)
    (kin : s.Kin t) : (k.receive c as t).Fits (.group k.next) :=
  has_receive kin (kind_of_group types role)

theorem room_of_edge (role : setup.role name as = .shape s .edge) (kin : s.Kin t) :
    (k.receive c as t).Fits (.edge k.next) := has_receive kin (kind_of_role role)

theorem grown_receive (types : setup.types = .builtin) {interior : Interior}
    (role : setup.role name as = .shape s interior) (kin : s.Kin t) (sound : k.Sound) (c : Container) :
    k.Grown (k.receive c as t) :=
  .receive sound (leaf_of_kin (fresh_of_role types role).1 kin) c as

theorem grown_lost (types : setup.types = .builtin) {lost : Option Shape}
    (role : setup.role name as = .relay lost) (sound : k.Sound) : k.Grown (lost.elim k k.make) := by
  refine .lost sound fun s same => ?_
  rw [same] at role
  exact (fresh_of_lost types role).plain.parts

/-- Reading leaves a sound stock with all containers that were there. -/
theorem Reads.grown (types : setup.types = .builtin) {content : Content}
    (reads : Reads setup p content c k l) (sound : k.Sound) : k.Grown l := by
  induction reads with
  | empty => exact .refl sound
  | text _ _ ih => exact ih sound
  | nothing _ _ ih => exact ih sound
  | relay role _ _ inside ih =>
    have first := grown_lost types role sound
    have second := first.trans (inside first.sound)
    exact (second.deliver _ _).trans (ih (second.deliver _ _).sound)
  | @closed _ _ _ _ _ _ _ c _ _ role finished filled _ ih =>
    have kin := (Shape.finish_kin finished).1.trans (Shape.fill_tuned filled).kin
    have first := grown_receive types role kin sound c
    exact first.trans (ih first.sound)
  | @group _ _ _ _ derive _ _ c _ _ _ role finished _ _ _ inside ih =>
    have first := grown_receive types role (Shape.finish_kin finished).1 sound c
    have second := first.trans (inside first.sound)
    exact (second.derive _ derive).trans (ih (second.derive _ derive).sound)
  | @edge _ _ _ _ _ _ c _ _ _ role finished _ _ inside ih =>
    have first := grown_receive types role (Shape.finish_kin finished).1 sound c
    have second := first.trans (inside first.sound)
    exact second.trans (ih second.sound)

theorem reads_element {inner rest : Content} {m : Stock}
    (first : Reads setup p (.element name as inner .empty) c k m) (others : Reads setup p rest c m l) :
    Reads setup p (.element name as inner rest) c k l := by
  cases first with
  | nothing role last =>
    cases last
    exact .nothing role others
  | relay role inside last =>
    cases last
    exact .relay role inside others
  | closed role finished filled last =>
    cases last
    exact .closed role finished filled others
  | group role finished content inside last =>
    cases last
    exact .group role finished content inside others
  | edge role finished inside last =>
    cases last
    exact .edge role finished inside others

theorem element_of_reads {inner rest : Content} (reads : Reads setup p (.element name as inner rest) c k l) :
    ∃ m, Reads setup p (.element name as inner .empty) c k m ∧ Reads setup p rest c m l := by
  cases reads with
  | nothing role others => exact ⟨_, .nothing role (.empty ..), others⟩
  | relay role inside others => exact ⟨_, .relay role inside (.empty ..), others⟩
  | closed role finished filled others => exact ⟨_, .closed role finished filled (.empty ..), others⟩
  | group role finished content inside others =>
    exact ⟨_, .group role finished content inside (.empty ..), others⟩
  | edge role finished inside others => exact ⟨_, .edge role finished inside (.empty ..), others⟩

section

variable {inner rest : Content} (reads : Reads setup p (.element name as inner rest) c k l)
include reads

theorem Reads.of_nothing (role : setup.role name as = .nothing) : Reads setup p rest c k l := by
  cases reads with
  | nothing _ others => exact others
  | relay other | closed other | group other | edge other => simp [role] at other

theorem Reads.of_relay {lost : Option Shape} (role : setup.role name as = .relay lost) :
    ∃ m, Reads setup p inner c (lost.elim k k.make) m ∧
      Reads setup p rest c (m.deliver (PrivateData.parse inner.ownString) c) l := by
  cases reads with
  | relay other inside others =>
    obtain rfl : lost = _ := by simpa [role] using other
    exact ⟨_, inside, others⟩
  | nothing other | closed other | group other | edge other => simp [role] at other

theorem Reads.of_closed (role : setup.role name as = .shape s .closed) :
    ∃ t u, s.finish setup p as name = .ok t ∧ t.fill (s.content? setup as name k.next) inner = .ok u ∧
      Reads setup p rest c (k.receive c as u) l := by
  cases reads with
  | closed other finished filled others =>
    obtain rfl : s = _ := by simpa [role] using other
    exact ⟨_, _, finished, filled, others⟩
  | nothing other | relay other | group other | edge other => simp [role] at other

theorem Reads.of_group (role : setup.role name as = .shape s .group) :
    ∃ t derive m, s.finish setup p as name = .ok t ∧
      s.content? setup as name k.next = some (.group k.next derive) ∧
      Reads setup p inner (.group k.next) (k.receive c as t) m ∧
      Reads setup p rest c (if derive then m.derive k.next else m) l := by
  cases reads with
  | group other finished content inside others =>
    obtain rfl : s = _ := by simpa [role] using other
    exact ⟨_, _, _, finished, content, inside, others⟩
  | nothing other | relay other | closed other | edge other => simp [role] at other

theorem Reads.of_edge (role : setup.role name as = .shape s .edge) :
    ∃ t m, s.finish setup p as name = .ok t ∧
      Reads setup p inner (.edge k.next) (k.receive c as t) m ∧ Reads setup p rest c m l := by
  cases reads with
  | edge other finished inside others =>
    obtain rfl : s = _ := by simpa [role] using other
    exact ⟨_, _, finished, inside, others⟩
  | nothing other | relay other | closed other | group other => simp [role] at other

end

/-! ## What handlers do is told -/

theorem after_onWork {w : Work Desk Unit} {pre post : Desk → Prop} {m v : Machine Handler Desk}
    (ends : Ends pre (fun _ _ => True) w fun _ => post) (start : pre m.work)
    (ran : onWork w m = (.ok (), v)) : post v.work :=
  ensures_onWork ends.ensures m () v start ran

theorem absorb_wrapper (texts : List String) (buffer : String) :
    texts.foldl Handler.absorb (.wrapper c buffer) = .wrapper c (texts.foldl (· ++ ·) buffer) := by
  induction texts generalizing buffer with
  | nil => rfl
  | cons text rest ih => exact ih (buffer ++ text)

theorem absorb_container (texts : List String) {h : Handler} (same : ∀ text, h.absorb text = h) :
    texts.foldl Handler.absorb h = h := by
  induction texts with
  | nil => rfl
  | cons text rest ih => rw [List.foldl_cons, same, ih]

variable {inner : Content}

/-- Content without room for shapes fills the shape around it. -/
theorem visit_filled {next : Option Handler} (kin : s.Kin t) (opens : s.Opens k.next next .closed) :
    Ensures (fun m => Holds p (k.receive c as t) m.work) (visit setup inner name next) fun _ m =>
      ∃ u, t.fill next inner = .ok u ∧ Holds p (k.receive c as u) m.work := by
  have traced {h : Handler} (traced : s.Traced k.next h)
      (ended : (Handler.behaviour setup).endElement h name = pure ()) :
      Ensures (fun m => Holds p (k.receive c as t) m.work) (visit setup inner name (some h)) fun _ m =>
        ∃ u, t.trace inner = .ok u ∧ Holds p (k.receive c as u) m.work := by
    refine (eval_traced (traced.kin kin) (Stock.receive_next t) inner).bind fun done => ?_
    intro m _ v start ran
    obtain ⟨rfl, u, filled, holds⟩ := start
    rw [ended] at ran
    obtain rfl : m = v := congrArg Prod.snd ran
    refine ⟨u, filled, ?_⟩
    rw [← Stock.receive_modify (k := k) (c := c) (f := fun _ => u) (Shape.trace_tuned filled).kin.isPath]
    exact holds
  cases opens with
  | nothing =>
    intro m _ v holds ran
    have passed : inner.eval (Handler.behaviour setup) (Option.getD none .ignore) m = (.ok .ignore, m) :=
      eval_ignored setup inner m
    obtain rfl : m = v := congrArg Prod.snd ((Work.bind_ok passed).symm.trans ran)
    exact ⟨t, rfl, holds⟩
  | text =>
    intro m _ v holds ran
    have read : inner.eval (Handler.behaviour setup) (Option.getD (some (.text k.next "")) .ignore) m =
        (.ok (.text k.next inner.ownString), m) := eval_text setup inner k.next "" m
    replace ran := (Work.bind_ok read).symm.trans ran
    have path : (setContent (textContent inner.ownString) t).isPath = t.isPath := by
      unfold setContent
      split
      next variant => simp [Shape.isPath, Item.isPath, variant]
      next => rfl
    exact ⟨_, rfl, after_onWork (updateReceived_ends _ path) holds ran⟩
  | line variant => exact traced (.line variant) rfl
  | polygon variant => exact traced (.polygon variant) rfl

/-- Content that is read without fault does what is told of it. -/
def Tells (setup : Setup) (p : Palette) (content : Content) : Prop :=
  ∀ h c k, h.room? = some c → k.Fits c → k.Sound →
    Ensures (fun m => Holds p k m.work) (content.eval (Handler.behaviour setup) h) fun done m =>
      done = content.ownText.foldl Handler.absorb h ∧ ∃ l, Reads setup p content c k l ∧ Holds p l m.work

theorem visit_reads (types : setup.types = .builtin) (inside : Tells setup p inner) (fits : k.Fits c)
    (sound : k.Sound) {next : Option Handler} :
    Ensures (fun m => Dispatches setup p k c name as next m.work) (visit setup inner name next) fun _ m =>
      ∃ l, Reads setup p (.element name as inner .empty) c k l ∧ Holds p l m.work := by
  intro m _ v dispatches ran
  unfold Dispatches at dispatches
  cases role : setup.role name as with
  | nothing =>
    rw [role] at dispatches
    obtain ⟨⟨rfl, _⟩, holds⟩ := dispatches
    have passed : inner.eval (Handler.behaviour setup) (Option.getD none .ignore) m = (.ok .ignore, m) :=
      eval_ignored setup inner m
    obtain rfl : m = v := congrArg Prod.snd ((Work.bind_ok passed).symm.trans ran)
    exact ⟨k, .nothing role (.empty c k), holds⟩
  | relay lost =>
    rw [role] at dispatches
    obtain ⟨rfl, holds⟩ := dispatches
    have first := grown_lost types role sound
    obtain ⟨done, u, read, ended⟩ := Work.bind_eq_ok ran
    obtain ⟨rfl, l, reads, holds⟩ := inside _ c _ rfl (first.fits c fits) first.sound m done u holds read
    rw [Option.getD_some, absorb_wrapper] at ended
    have there : l.Fits c := (reads.grown types first.sound).fits c (first.fits c fits)
    exact ⟨_, .relay role reads (.empty c _), after_onWork (endWrapper_ends there _) holds ended⟩
  | shape s interior =>
    rw [role] at dispatches
    obtain ⟨rfl, t, finished, holds⟩ := dispatches
    have kin := (Shape.finish_kin finished).1
    have grown := grown_receive types role kin sound c
    have opens := content_opens setup as name k.next s
    rw [← (fresh_of_role types role).2] at opens
    cases interior with
    | closed =>
      obtain ⟨u, filled, holds⟩ := visit_filled kin opens m () v holds ran
      exact ⟨_, .closed role finished filled (.empty c _), holds⟩
    | group =>
      generalize content : s.content? setup as name k.next = next at opens ran
      cases opens with
      | group derive variant =>
        have room : (k.receive c as t).Fits (.group k.next) := room_of_group types role kin
        obtain ⟨done, u, read, ended⟩ := Work.bind_eq_ok ran
        obtain ⟨rfl, l, reads, holds⟩ := inside _ _ _ rfl room grown.sound m done u holds read
        rw [absorb_container _ fun _ => rfl] at ended
        refine ⟨_, .group role finished content reads (.empty c _), ?_⟩
        have there := reads.grown types grown.sound
        cases derive with
        | false =>
          obtain rfl : u = v := congrArg Prod.snd ended
          exact holds
        | true => exact after_onWork (calcBounds_ends (there.fits _ room) there.sound) holds ended
    | edge =>
      generalize content : s.content? setup as name k.next = next at opens ran
      cases opens with
      | edge variant =>
        have room : (k.receive c as t).Fits (.edge k.next) := room_of_edge role kin
        obtain ⟨done, u, read, ended⟩ := Work.bind_eq_ok ran
        obtain ⟨rfl, l, reads, holds⟩ := inside _ _ _ rfl room grown.sound m done u holds read
        rw [absorb_container _ fun _ => rfl] at ended
        obtain rfl : u = v := congrArg Prod.snd ended
        exact ⟨_, .edge role finished reads (.empty c _), holds⟩

theorem content_tells (types : setup.types = .builtin) (content : Content) : Tells setup p content := by
  induction content with
  | empty =>
    intro h c k room fits sound
    exact .pure fun m holds => ⟨rfl, k, .empty c k, holds⟩
  | text data rest ih =>
    intro h c k room fits sound
    obtain ⟨nothing, still⟩ := Handler.characters_room setup room data
    simp only [Content.eval, nothing]
    refine (ih _ c k still fits sound).mono fun done m told => ?_
    obtain ⟨rfl, l, reads, holds⟩ := told
    exact ⟨rfl, l, .text data reads, holds⟩
  | element name as inner rest inside ih =>
    intro h c k room fits sound
    rw [eval_element room]
    refine (ensures_onWork (dispatch_ends fits types name).ensures).bind fun next => ?_
    refine (visit_reads types inside fits sound).bind fun _ => ?_
    intro m done v first ran
    obtain ⟨l, reads, holds⟩ := first
    have grown := reads.grown types sound
    obtain ⟨rfl, n, others, holds⟩ := ih h c l room (grown.fits c fits) grown.sound m done v holds ran
    exact ⟨rfl, n, reads_element reads others, holds⟩

end

/-! ## Documents -/

namespace Stock

/-- The stock with a diagram. -/
def crown (k : Stock) (g : Diagram) : Stock := { k with diagram := some g }

/-- The stock when a root element opened. -/
def rooted (setup : Setup) (k : Stock) (name : String) (as : Attributes) : Except Fault Stock :=
  if name = setup.config.rootElement then do
    let g ← rootDiagram setup.config.hintAttribute as
    if k.diagram.isSome then .error (.misuse .diagramSet) else return k.crown g
  else .error (.malformed (.wrongRoot setup.config.rootElement name))

variable {setup : Setup} {k l : Stock} {name : String} {as : Attributes} {e : Fault}

/-- A root element opens a diagram where there is none. -/
theorem rooted_eq_ok (rooted : k.rooted setup name as = .ok l) :
    k.diagram = none ∧ ∃ g, rootDiagram setup.config.hintAttribute as = .ok g ∧ l = k.crown g := by
  unfold Stock.rooted at rooted
  split at rooted
  · obtain ⟨g, made, rooted⟩ := except_bind_eq_ok rooted
    split at rooted
    · contradiction
    next unset =>
      obtain rfl := Except.ok.inj rooted
      exact ⟨Option.not_isSome_iff_eq_none.mp unset, g, made, rfl⟩
  · contradiction

theorem rooted_eq_error (refused : k.rooted setup name as = .error e) :
    (∃ cause, e = .malformed cause) ∨ e = .misuse .diagramSet := by
  unfold rooted at refused
  split at refused
  · rcases except_bind_eq_error refused with failed | ⟨g, _, refused⟩
    · obtain ⟨_, rfl⟩ := rootDiagram_bad failed
      exact .inl ⟨_, rfl⟩
    · split at refused
      · exact .inr (Except.error.inj refused).symm
      · contradiction
  · exact .inl ⟨_, (Except.error.inj refused).symm⟩

end Stock

theorem startRoot_ends {p : Palette} {k : Stock} (setup : Setup) (name : String) (as : Attributes) :
    Ends (Holds p k) (fun e d => k.rooted setup name as = .error e ∧ Holds p k d) (startRoot setup name as)
      fun h d => h = .diagram ∧ ∃ l, k.rooted setup name as = .ok l ∧ Holds p l d := by
  unfold startRoot Stock.rooted
  split
  · refine (Ends.settle fun e d holds failed => ?_).bind fun g => .given fun made => ?_
    · exact ⟨by simp [failed], holds⟩
    refine (note_ends rfl).bind fun _ => ?_
    intro d holds
    have same : d.diagram = k.diagram := holds.diagram
    rw [Work.bind_apply]
    cases set : d.diagram with
    | some other => simp [setDiagram, set, ← same, made, holds]
    | none =>
      simp only [setDiagram, set]
      refine ⟨rfl, k.crown g, ?_, { holds with diagram := rfl }⟩
      simp [made, ← same, set]
  · exact .fail fun d holds => ⟨rfl, holds⟩

theorem startElement_opens {p : Palette} {k : Stock} (setup : Setup) (name : String) (as : Attributes) :
    Ends (fun m => Holds p k m.work) (fun e m => k.rooted setup name as = .error e ∧ Holds p k m.work)
      ((Handler.behaviour setup).startElement .root name as) fun next m =>
        next = some .diagram ∧ ∃ l, k.rooted setup name as = .ok l ∧ Holds p l m.work := by
  have opened : Ends (Holds p k) (fun e d => k.rooted setup name as = .error e ∧ Holds p k d)
      (do return some (← startRoot setup name as)) fun next d =>
        next = some .diagram ∧ ∃ l, k.rooted setup name as = .ok l ∧ Holds p l d := by
    refine (startRoot_ends setup name as).bind fun h => .given ?_
    rintro rfl
    exact .pure fun _ opened => ⟨rfl, opened⟩
  exact ends_onWork opened

section

variable {setup : Setup} {p : Palette} {k : Stock}

theorem rest_reads (set : k.diagram.isSome = true) (content : Content) :
    Ensures (fun m => Holds p k m.work) (content.eval (Handler.behaviour setup) .root) fun _ m =>
      Holds p k m.work ∧ ∃ texts : List String, content.events = texts.map .characters := by
  induction content with
  | empty => exact .pure fun m holds => ⟨holds, [], rfl⟩
  | text data rest ih =>
    intro m done v holds ran
    obtain ⟨holds, texts, word⟩ := ih m done v holds ran
    exact ⟨holds, data :: texts, by simp [Content.events, word]⟩
  | element name as inner rest =>
    intro m done v holds ran
    obtain ⟨next, u, asked, _⟩ := Work.bind_eq_ok ran
    obtain ⟨_, l, rooted, _⟩ := (startElement_opens setup name as).ensures m next u holds asked
    simp [(Stock.rooted_eq_ok rooted).1] at set

/-- What the initial handler reads without fault opens no diagram or is a document, and then the
content of its root element is read with the root's diagram. -/
theorem root_reads (types : setup.types = .builtin) (sound : k.Sound) (content : Content) :
    Ensures (fun m => Holds p k m.work) (content.eval (Handler.behaviour setup) .root) fun _ m =>
      Holds p k m.work ∨
      ∃ before root as inner rest g l, content.events = document before root as inner rest ∧
        rootDiagram setup.config.hintAttribute as = .ok g ∧
        Reads setup p inner .diagram (k.crown g) l ∧ Holds p l m.work := by
  induction content with
  | empty => exact .pure fun m holds => .inl holds
  | text data rest ih =>
    intro m done v holds ran
    rcases ih m done v holds ran with holds | ⟨before, root, as, inner, after, g, l, word, told⟩
    · exact .inl holds
    · refine .inr ⟨data :: before, root, as, inner, after, g, l, ?_, told⟩
      simp [Content.events, word, document]
  | element root as inner rest =>
    intro m done v holds ran
    obtain ⟨next, u, asked, ran⟩ := Work.bind_eq_ok ran
    obtain ⟨rfl, _, rooted, holds⟩ := (startElement_opens setup root as).ensures m next u holds asked
    obtain ⟨_, g, made, rfl⟩ := Stock.rooted_eq_ok rooted
    obtain ⟨closed, w, read, ran⟩ := Work.bind_eq_ok ran
    have crowned : (k.crown g).Sound := sound
    obtain ⟨rfl, l, reads, holds⟩ := content_tells types inner .diagram .diagram (k.crown g) rfl trivial
      crowned u closed w holds read
    rw [absorb_container _ fun _ => rfl] at ran
    have set : l.diagram.isSome = true := (reads.grown types crowned).set rfl
    obtain ⟨holds, after, word⟩ := rest_reads set rest w done v holds ran
    refine .inr ⟨[], root, as, inner, after, g, l, ?_, made, reads, holds⟩
    simp [Content.events, word, document]

end

namespace Reader

variable {feed : Feed} {r after : Reader} {diagram : Diagram}

/-- The stock of a reader when a document is opened. -/
def opening (r : Reader) (feed : Feed) : Stock :=
  ⟨[], .empty, none, (r.notices ++ feed.opening).filter Notice.isUnknown⟩

theorem holds_opening (r : Reader) (feed : Feed) :
    Holds r.desk.colors.palette (r.opening feed) (r.machine.opened .root feed).work := by
  rw [opened_work]
  refine ⟨rfl, rfl, rfl, ?_, rfl, ?_⟩
  · simp [opening, cleared, addNotices, Desk.notices, Reader.notices, desk]
  · intro value color absurd
    simp [cleared, addNotices, Resolver.reset] at absurd

/-- What a reader reads is what its machine reads. -/
theorem machine_of_parse {initial : Handler} {result : Except Fault Diagram}
    (ran : parse initial feed r = (result, after)) :
    (Handler.behaviour r.setup).parse initial feed r.machine = (result, after.machine) := by
  rcases inside : (Handler.behaviour r.setup).parse initial feed r.machine with ⟨outcome, machine⟩
  obtain ⟨rfl, rfl⟩ : outcome = result ∧ { r with machine := machine } = after := by
    simpa [parse, onMachine, Work.within, inside] using ran
  rfl

/-- A document of built-in types that was read without fault opens a diagram, does to its stock what is told of
the content, and gives the diagram that is there in the end. -/
theorem told_of_parse (types : r.setup.types = .builtin) (read : parse .root feed r = (.ok diagram, after)) :
    ∃ before root as inner rest g l, feed.events = document before root as inner rest ∧
      rootDiagram r.setup.config.hintAttribute as = .ok g ∧
      Reads r.setup r.desk.colors.palette inner .diagram ((r.opening feed).crown g) l ∧
      Holds r.desk.colors.palette l after.desk ∧ l.diagram = some diagram := by
  obtain ⟨content, done, t, word, finished, set, closed⟩ := Content.eval_of_parse
    (Handler.leavesFrames r.setup) (Handler.blind r.setup) (by simp) (machine_of_parse read)
  have there : t.work.diagram = some diagram := set
  have sound : (r.opening feed).Sound := by simp [Stock.Sound, opening]
  rcases root_reads types sound content ⟨[], true, _⟩ done t (holds_opening r feed) finished with
    holds | told
  · have unset : t.work.diagram = none := holds.diagram
    rw [unset] at there
    contradiction
  · obtain ⟨before, root, as, inner, rest, g, l, whole, made, reads, holds⟩ := told
    refine ⟨before, root, as, inner, rest, g, l, word.trans whole, made, reads, ?_, ?_⟩
    · have noted : Ends (Holds r.desk.colors.palette l) (fun _ _ => True)
          (note (.readDiagram diagram.name diagram.shapes.length)) fun _ =>
            Holds r.desk.colors.palette l := note_ends rfl
      exact noted.ensures t.work () after.desk holds (by rw [desk, closed]; rfl)
    · exact holds.diagram.symm.trans there

theorem reads_of_parse (types : r.setup.types = .builtin) (read : parse .root feed r = (.ok diagram, after)) :
    ∃ before root as inner rest g l, feed.events = document before root as inner rest ∧
      Reads r.setup r.desk.colors.palette inner .diagram ((r.opening feed).crown g) l ∧
      Holds r.desk.colors.palette l after.desk := by
  obtain ⟨before, root, as, inner, rest, g, l, word, _, reads, holds, _⟩ := told_of_parse types read
  exact ⟨before, root, as, inner, rest, g, l, word, reads, holds⟩

end Reader

end Pgml
