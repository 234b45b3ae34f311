import Pgml.Proofs.GroupBoxes

/-! Where private data goes. Private elements hand their texts to the container around them, each when it closes,
so a nested one before the one around it; what lies in other elements stays there. The data of a diagram or of a
group is what its container was handed, read text by text, later values over earlier ones. -/
namespace Pgml

open Desk Vocabulary

/-! ## What content hands over -/

/-- Private data after some more texts. -/
def PrivateData.merge (data : Table String) (texts : List String) : Table String :=
  texts.foldl (fun data text => data.insertAll (parse text).entries) data

theorem PrivateData.merge_append (data : Table String) (texts more : List String) :
    merge data (texts ++ more) = merge (merge data texts) more :=
  List.foldl_append

theorem PrivateData.merge_eq_insertAll (data : Table String) (texts : List String) :
    merge data texts = data.insertAll (texts.flatMap fun text => (parse text).entries) :=
  (List.foldl_flatMap ..).symm

namespace Content

/-- The texts of the private elements whose data goes to the container around the content, in the order in which
these elements close. Only private elements are looked into. -/
def parcels : Content → List String
  | .empty => []
  | .text _ rest => rest.parcels
  | .element name _ inner rest =>
    (if name = "private" then inner.parcels ++ [inner.ownString] else []) ++ rest.parcels

/-- The private data of a container with the content. -/
def gathered (content : Content) : Table String := PrivateData.merge .empty content.parcels

end Content

/-! ## Groups -/

section

variable {setup : Setup} {p : Palette} {as : Attributes} {name : String} {within : Content} {s t u : Shape}
  {lost : Option Shape} {interior : Interior} {parts : Forest}

theorem private_of_relay (role : setup.role name as = .relay lost) : name = "private" := by
  unfold Setup.role at role
  split at role
  next same => exact same
  next => split at role <;> contradiction

theorem parcels_of_relay (role : setup.role name as = .relay lost) (inner rest : Content) :
    (Content.element name as inner rest).parcels = inner.parcels ++ inner.ownString :: rest.parcels := by
  rw [Content.parcels, if_pos (private_of_relay role), List.append_assoc, List.singleton_append]

theorem parcels_of_other {role : Role} (here : setup.role name as = role) (other : ∀ lost, role ≠ .relay lost)
    (inner rest : Content) : (Content.element name as inner rest).parcels = rest.parcels := by
  have unlike : name ≠ "private" := by
    rintro rfl
    exact other _ here.symm
  rw [Content.parcels, if_neg unlike, List.nil_append]

/-- What content leaves to the container around it is what its private elements hand over. -/
theorem data_of_figures {content : Content} {figures : Figures} (drawn : setup.figures p content = .ok figures) :
    figures.data = content.parcels.flatMap fun text => (PrivateData.parse text).entries := by
  induction content generalizing figures with
  | empty =>
    obtain rfl := Except.ok.inj drawn
    rfl
  | text data rest ih => exact ih drawn
  | element name as inner rest inside ih =>
    obtain ⟨here, portrayed, drawn⟩ := except_bind_eq_ok drawn
    obtain ⟨others, later, drawn⟩ := except_bind_eq_ok drawn
    obtain rfl := Except.ok.inj drawn
    unfold Setup.portray at portrayed
    cases role : setup.role name as with
    | nothing =>
      rw [role] at portrayed
      obtain rfl := Except.ok.inj portrayed
      rw [parcels_of_other role (by simp)]
      exact (List.nil_append _).trans (ih later)
    | relay lost =>
      rw [role] at portrayed
      obtain ⟨figures, within, portrayed⟩ := except_bind_eq_ok portrayed
      obtain rfl := Except.ok.inj portrayed
      simp [parcels_of_relay role, inside within, ih later]
    | shape s interior =>
      rw [role] at portrayed
      obtain ⟨t, _, portrayed⟩ := except_bind_eq_ok portrayed
      obtain ⟨forest, _, portrayed⟩ := except_bind_eq_ok portrayed
      obtain rfl := Except.ok.inj portrayed
      rw [parcels_of_other role (by simp)]
      exact (List.nil_append _).trans (ih later)

theorem Shape.privateData_around (boxes : List Bounds) (s : Shape) :
    (s.around boxes).privateData = s.privateData := by
  unfold Shape.around
  split <;> rfl

theorem Shape.privateData_supply {children : List ItemId} {plan : Option Plan} (data : List (String × String))
    (variant : s.variant = .group children plan) : (s.supply data).privateData = s.privateData.insertAll data := by
  simp only [Shape.supply, variant, addPrivate]

theorem empty_of_finished (types : setup.types = .builtin) (role : setup.role name as = .shape s interior)
    (finished : s.finish setup p as name = .ok t) : t.privateData = .empty :=
  (Shape.finish_kin finished).1.privateData.trans (fresh_of_role types role).1.privateData

/-- A group has what its content hands over. -/
theorem gathered_of_portrayed (types : setup.types = .builtin) (role : setup.role "group" as = .shape s .group)
    (drawn : setup.portray p "group" as within (setup.figures p within) = .ok ⟨.cons u parts .nil, []⟩) :
    u.privateData = within.gathered := by
  have kind := kind_of_group types role
  obtain ⟨children, variant⟩ := kind_group kind
  obtain ⟨t, finished, closed⟩ := finished_of_portrayed role drawn
  obtain ⟨others, same⟩ := kind_group ((Shape.finish_kin finished).1.variant.kind.trans kind)
  simp only [Shape.content?, variant, Shape.close] at closed
  obtain ⟨figures, inside, closed⟩ := except_bind_eq_ok closed
  obtain ⟨rfl, _⟩ := Forest.cons.inj (Except.ok.inj closed)
  have supplied : (t.supply figures.data).privateData = within.gathered := by
    rw [Shape.privateData_supply _ same, empty_of_finished types role finished, data_of_figures inside,
      Content.gathered, PrivateData.merge_eq_insertAll]
  split
  · rw [Shape.privateData_around, supplied]
  · exact supplied

/-- What has no room for other shapes has no private data. -/
theorem empty_of_portrayed (types : setup.types = .builtin) (role : setup.role name as = .shape s .closed)
    {inner : Except Fault Figures}
    (drawn : setup.portray p name as within inner = .ok ⟨.cons u parts .nil, []⟩) : u.privateData = .empty := by
  obtain ⟨t, finished, closed⟩ := finished_of_portrayed role drawn
  have opens := content_opens setup as name ⟨0⟩ s
  rw [← (fresh_of_role types role).2] at opens
  have filled : t.fill (s.content? setup as name ⟨0⟩) within = .ok u := by
    generalize s.content? setup as name ⟨0⟩ = handler at opens closed
    cases opens with
    | nothing | text | line | polygon =>
      obtain ⟨v, filled, closed⟩ := except_bind_eq_ok closed
      obtain ⟨rfl, _⟩ := Forest.cons.inj (Except.ok.inj closed)
      exact filled
  exact (Shape.fill_tuned filled).kin.privateData.trans (empty_of_finished types role finished)

end

/-! ## Diagrams -/

namespace Stock

variable {k : Stock} {c : Container} {t : Shape}

/-- The private data of the diagram. -/
def data? (k : Stock) : Option (Table String) := k.diagram.map (·.privateData)

theorem data?_receive (as : Attributes) : (k.receive c as t).data? = k.data? := by
  cases c <;> simp [data?, receive, offer, make, call, modify, Function.comp_def]

theorem data?_setEntries (edge : ItemId) (entries : List (String × String)) :
    (k.setEntries edge entries).data? = k.data? := by
  induction entries generalizing k with
  | nil => rfl
  | cons entry rest ih =>
    refine (ih (k := k.setEntry edge entry.1 entry.2)).trans ?_
    rw [data?, set_setEntry, data?]

end Stock

/-- What a container's content hands over goes to the diagram if the diagram is the container. -/
def Container.passes (c : Container) (texts : List String) (data : Table String) : Table String :=
  match c with
  | .diagram => PrivateData.merge data texts
  | _ => data

theorem Container.passes_append (c : Container) (texts more : List String) (data : Table String) :
    c.passes (texts ++ more) data = c.passes more (c.passes texts data) := by
  cases c with
  | diagram => exact PrivateData.merge_append ..
  | group | edge | tray => rfl

theorem Stock.data?_deliver {k : Stock} {c : Container} (text : String) :
    (k.deliver (PrivateData.parse text) c).data? = k.data?.map (c.passes [text]) := by
  cases c with
  | diagram => simp [data?, deliver, Container.passes, PrivateData.merge, Function.comp_def]
  | edge id => exact (data?_setEntries ..).trans Option.map_id'.symm
  | group id => exact Option.map_id'.symm
  | tray kind => exact Option.map_id'.symm

/-- Content changes the diagram's data by what it hands over, if the diagram is its container. -/
theorem Reads.data? {setup : Setup} {p : Palette} {content : Content} {c : Container} {k l : Stock}
    (reads : Reads setup p content c k l) : l.data? = k.data?.map (c.passes content.parcels) := by
  induction reads with
  | empty c k => cases c <;> exact Option.map_id'.symm
  | text _ _ ih => exact ih
  | nothing role _ ih => rw [ih, parcels_of_other role (by simp)]
  | @relay name as lost inner rest c k m l role _ _ inside ih =>
    have made : (lost.elim k k.make).data? = k.data? := by cases lost <;> rfl
    -- A private element hands over its own text when it closes, after what its content handed over.
    rw [ih, Stock.data?_deliver, inside, made, parcels_of_relay role, Option.map_map, Option.map_map]
    congr 1
    funext data
    rw [Container.passes_append]
    exact (Container.passes_append c [inner.ownString] rest.parcels _).symm
  | closed role _ _ _ ih => rw [ih, Stock.data?_receive, parcels_of_other role (by simp)]
  | @group name as s t derive inner rest c k m l role _ _ _ _ inside ih =>
    have same : (if derive then m.derive k.next else m).data? = m.data? := by split <;> rfl
    have kept : m.data? = (k.receive c as t).data? := inside.trans Option.map_id'
    rw [ih, same, kept, Stock.data?_receive, parcels_of_other role (by simp)]
  | @edge name as s t inner rest c k m l role _ _ _ inside ih =>
    have kept : m.data? = (k.receive c as t).data? := inside.trans Option.map_id'
    rw [ih, kept, Stock.data?_receive, parcels_of_other role (by simp)]

theorem privateData_of_rootDiagram {hintAttribute : String} {as : Attributes} {diagram : Diagram}
    (made : rootDiagram hintAttribute as = .ok diagram) : diagram.privateData = .empty := by
  obtain ⟨_, _, made⟩ := except_bind_eq_ok made
  obtain rfl := Except.ok.inj made
  rfl

namespace Reader

/-- The diagram of a document has what the content of the root element hands over. -/
theorem diagram_gathers {feed : Feed} {r after : Reader} {diagram : Diagram}
    (types : r.setup.types = .builtin) (read : parse .root feed r = (.ok diagram, after)) :
    ∃ before root as inner rest, feed.events = document before root as inner rest ∧
      diagram.privateData = inner.gathered := by
  obtain ⟨before, root, as, inner, rest, g, l, word, made, reads, _, set⟩ := told_of_parse types read
  refine ⟨before, root, as, inner, rest, word, ?_⟩
  have told : l.data? = some (PrivateData.merge g.privateData inner.parcels) := reads.data?
  rw [Stock.data?, set, privateData_of_rootDiagram made] at told
  exact Option.some.inj told

/-- A group has what the content of its element hands over, if that is a group element; the content of others
is passed over. -/
theorem group_gathers {r after : Reader} {inner within : Content} {name : String} {as : Attributes} {s g : Shape}
    {place : Nat} (types : r.setup.types = .builtin) (stems : r.Stems inner after)
    (occurs : Occurs r.setup name as within inner 0 place) (made : (r.setup.role name as).made? = some s)
    (found : after.desk.shape? ⟨place⟩ = some g) (kind : g.kind = "Group") :
    g.privateData = if name = "group" then within.gathered else .empty := by
  by_cases relay : name = "private"
  · subst relay
    have role : r.setup.role "private" as = .relay (some s) := congrArg Role.relay made
    obtain ⟨t, there, same⟩ := Option.map_eq_some_iff.mp (stems.lost _ as within s place occurs role)
    obtain rfl : t = g := Option.some.inj (there.symm.trans found)
    exact (congrArg Shape.privateData same).trans (fresh_of_lost types role).privateData
  · have role := role_of_made made relay
    obtain ⟨u, parts, v, drawn, there, rfl, _⟩ := stems.drawn name as within s _ place occurs role
    obtain rfl : v = g := Option.some.inj (there.symm.trans found)
    have same : v.kind = s.kind := by rw [← Shape.kind_loose, kind_of_portrayed role drawn]
    obtain ⟨children, variant⟩ := kind_group (same.symm.trans kind)
    by_cases named : name = "group"
    · subst named
      rw [variant] at role
      have gathered : v.loose.privateData = within.gathered := gathered_of_portrayed types role drawn
      exact gathered
    · have closed : Setup.interior name s.variant = .closed := if_neg named
      rw [closed] at role
      have empty : v.loose.privateData = .empty := empty_of_portrayed types role drawn
      rw [if_neg named]
      exact empty

/-- Private data reaches its container, all of it and in order. The diagram of a document has what its content hands
over, text by text in the order in which private elements close; so has each group of a group element; and a group
of any other element, whose content is passed over, has none. -/
theorem parse_parcels {feed : Feed} {r after : Reader} {diagram : Diagram}
    (types : r.setup.types = .builtin) (read : parse .root feed r = (.ok diagram, after)) :
    ∃ before root as inner rest, feed.events = document before root as inner rest ∧
      diagram.privateData = inner.gathered ∧
      (∀ p ∈ Outline.ofObjects after.desk.items diagram.shapes, ∃ name as within s g,
        Occurs r.setup name as within inner 0 p.id.index ∧ (r.setup.role name as).made? = some s ∧
        p.item = .shape g ∧ after.desk.shape? p.id = some g) ∧
      ∀ name as within s place g, Occurs r.setup name as within inner 0 place →
        (r.setup.role name as).made? = some s → after.desk.shape? ⟨place⟩ = some g → g.kind = "Group" →
        g.privateData = if name = "group" then within.gathered else .empty := by
  obtain ⟨before, root, as, inner, rest, word, stems⟩ := stems_of_parse types read
  obtain ⟨_, _, _, _, _, same, gathered⟩ := diagram_gathers types read
  obtain rfl := document_inj (word.symm.trans same)
  exact ⟨before, root, as, inner, rest, word, gathered, fun p member => stems.maker_of_place member,
    fun name as within s place g occurs made found kind => group_gathers types stems occurs made found kind⟩

/-- A private element whose text is cut by another one and by a group, a caption with data nobody asks for, and a
private element that comes later. -/
def satchel : Content :=
  .element "private" []
    (.text "a=\"1" (.element "private" [] (.text "a=\"2\" b=\"x\"" .empty)
      (.element "group" [("description", "group")]
        (.element "private" [] (.text "a=\"g\"" .empty)
          (.element "group" [("description", "edge")] (.element "private" [] (.text "a=\"e\"" .empty) .empty) .empty))
        (.text "\" c=\"3\"" .empty))))
    (.element "text" [] (.element "private" [] (.text "d=\"4\"" .empty) .empty)
      (.element "private" [] (.text "b=\"y\"" .empty) .empty))

theorem parse_parcels_of_satchel :
    let r : Reader := ⟨.plain, ⟨[], false, Desk.fresh .builtin⟩⟩
    let feed : Feed := .ofEvents (document [] "pgml" [] satchel [])
    satchel.parcels = ["a=\"2\" b=\"x\"", "a=\"1\" c=\"3\"", "b=\"y\""] ∧
    ∃ diagram after g, parse .root feed r = (.ok diagram, after) ∧
      diagram.privateData.entries = [("a", "1"), ("b", "y"), ("c", "3")] ∧
      after.desk.shape? ⟨0⟩ = some g ∧ g.privateData.entries = [("a", "g")] := by
  intro r feed
  have shown : (parse .root feed r).1.isOk = true ∧
      ((parse .root feed r).2.desk.shape? ⟨0⟩).map (·.kind) = some "Group" ∧
      satchel.parcels = ["a=\"2\" b=\"x\"", "a=\"1\" c=\"3\"", "b=\"y\""] ∧
      satchel.gathered.entries = [("a", "1"), ("b", "y"), ("c", "3")] := by
    decide +kernel
  obtain ⟨fine, kind, parcels, gathered⟩ := shown
  rcases ran : parse .root feed r with ⟨_ | diagram, after⟩
  · simp [ran, Except.isOk, Except.toBool] at fine
  obtain ⟨_, _, _, inner, _, word, whole, _, groups⟩ := parse_parcels rfl ran
  obtain rfl := document_inj word
  rw [ran] at kind
  obtain ⟨g, found, kind⟩ := Option.map_eq_some_iff.mp kind
  refine ⟨parcels, diagram, after, g, rfl, whole ▸ gathered, found, ?_⟩
  have occurs : Occurs r.setup "group" [("description", "group")] _ satchel 0 0 :=
    .relay _ rfl (.text _ (.after _ _ (.here _ _)))
  rw [groups _ _ _ (.ofVariant .emptyGroup) 0 g occurs rfl found kind]
  decide +kernel

end Reader

end Pgml
