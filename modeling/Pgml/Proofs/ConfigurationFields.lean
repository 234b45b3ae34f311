import Pgml.Proofs.Work
import Pgml.Settings

/-! What a file of settings says on the fields of a configuration. Every field has a name, values that it
accepts, and a place in a configuration that no other field shares. A mapping describes the configuration in
which the fields that it names have their values as accepted, and all others are as usual. A file is taken for
a configuration exactly if it holds such a mapping, or a value that counts as nothing. -/
namespace Pgml

/-! ## Mappings of files -/

/-- Entries of which no two have the same key. -/
def Value.Distinct (entries : List (Scalar × Value)) : Prop := entries.Pairwise fun a b => a.1.same b.1 = false

/-- A value that is no mapping with a key that comes twice. -/
def Value.IsKeyed : Value → Prop
  | .mapping entries => Distinct entries
  | _ => True

namespace Value

theorem mem_putEntry {key : Scalar} {value : Value} {entries : List (Scalar × Value)} {e : Scalar × Value}
    (member : e ∈ putEntry key value entries) : e.1 = key ∨ ∃ v, (e.1, v) ∈ entries := by
  induction entries with
  | nil =>
    obtain rfl := List.mem_singleton.mp member
    exact .inl rfl
  | cons entry rest ih =>
    obtain ⟨k, v⟩ := entry
    simp only [putEntry] at member
    split at member
    · rcases List.mem_cons.mp member with rfl | member
      · exact .inr ⟨v, by simp⟩
      · exact .inr ⟨e.2, by simp [member]⟩
    · rcases List.mem_cons.mp member with rfl | member
      · exact .inr ⟨v, by simp⟩
      · exact (ih member).imp_right fun ⟨w, there⟩ => ⟨w, by simp [there]⟩

/-- An entry that is put into a mapping replaces the one of its key. -/
theorem distinct_putEntry {entries : List (Scalar × Value)} (distinct : Distinct entries) (key : Scalar)
    (value : Value) : Distinct (putEntry key value entries) := by
  induction entries with
  | nil => exact List.pairwise_singleton ..
  | cons entry rest ih =>
    obtain ⟨k, v⟩ := entry
    obtain ⟨apart, others⟩ := List.pairwise_cons.mp distinct
    simp only [putEntry]
    split
    · exact List.pairwise_cons.mpr ⟨apart, others⟩
    next other =>
      refine List.pairwise_cons.mpr ⟨fun e member => ?_, ih others⟩
      rcases mem_putEntry member with same | ⟨w, there⟩
      · simpa [same] using other
      · exact apart (e.1, w) there

theorem distinct_putEntries {entries : List (Scalar × Value)} (distinct : Distinct entries)
    (more : List (Scalar × Value)) : Distinct (more.foldl (fun es e => putEntry e.1 e.2 es) entries) := by
  induction more generalizing entries with
  | nil => exact distinct
  | cons e more ih => exact ih (distinct_putEntry distinct e.1 e.2)

theorem distinct_text {entries : List (Scalar × Value)} {e : Scalar × Value} (distinct : Distinct (e :: entries))
    {name : String} (key : e.1 = .text name) (v : Value) : (.text name, v) ∉ entries := by
  intro member
  have apart := (List.pairwise_cons.mp distinct).1 _ member
  simp [key, Scalar.same, Scalar.toInt?] at apart

end Value

namespace Json

/-- The parts of a value that is being read, none with a key that comes twice. -/
def Partial.IsKeyed : Partial → Prop
  | .list _ => True
  | .mapping entries _ => Value.Distinct entries

def State.IsKeyed : State → Prop
  | .value around | .firstItem around | .afterItem _ around | .firstKey around => ∀ p ∈ around, p.IsKeyed
  | .key entries around | .colon entries _ around | .afterEntry entries around =>
    Value.Distinct entries ∧ ∀ p ∈ around, p.IsKeyed
  | .finished v => v.IsKeyed

theorem keyed_cons {p : Partial} {around : List Partial} (keyed : p.IsKeyed) (outer : ∀ q ∈ around, q.IsKeyed) :
    ∀ q ∈ p :: around, q.IsKeyed :=
  List.forall_mem_cons.mpr ⟨keyed, outer⟩

theorem complete_keyed {v : Value} {around : List Partial} (keyed : v.IsKeyed) (outer : ∀ p ∈ around, p.IsKeyed) :
    (complete v around).IsKeyed := by
  rcases around with _ | ⟨_ | ⟨entries, key⟩, around⟩
  · exact keyed
  · exact fun p member => outer p (by simp [member])
  · exact ⟨Value.distinct_putEntry (outer (.mapping entries key) (by simp)) key v,
      fun p member => outer p (by simp [member])⟩

theorem beginValue_keyed {around : List Partial} {token : Token} {next : State}
    (outer : ∀ p ∈ around, p.IsKeyed) (stepped : beginValue around token = .ok next) : next.IsKeyed := by
  unfold beginValue at stepped
  split at stepped
  · obtain rfl := Except.ok.inj stepped
    exact complete_keyed trivial outer
  · obtain rfl := Except.ok.inj stepped
    exact outer
  · obtain rfl := Except.ok.inj stepped
    exact outer
  · contradiction
  · contradiction

/-- No token brings a key twice. -/
theorem step_keyed {state next : State} {token : Token} (keyed : state.IsKeyed)
    (stepped : step state token = .ok next) : next.IsKeyed := by
  unfold step at stepped
  split at stepped
  · exact beginValue_keyed keyed stepped
  · obtain rfl := Except.ok.inj stepped
    exact complete_keyed trivial keyed
  · exact beginValue_keyed (keyed_cons (p := .list []) trivial keyed) stepped
  · obtain rfl := Except.ok.inj stepped
    exact keyed_cons (p := .list _) trivial keyed
  · obtain rfl := Except.ok.inj stepped
    exact complete_keyed trivial keyed
  · obtain rfl := Except.ok.inj stepped
    exact complete_keyed List.Pairwise.nil keyed
  · obtain rfl := Except.ok.inj stepped
    exact ⟨List.Pairwise.nil, keyed⟩
  · obtain rfl := Except.ok.inj stepped
    exact keyed
  · obtain rfl := Except.ok.inj stepped
    exact keyed_cons (p := .mapping ..) keyed.1 keyed.2
  · obtain rfl := Except.ok.inj stepped
    exact keyed
  · obtain rfl := Except.ok.inj stepped
    exact complete_keyed keyed.1 keyed.2
  · contradiction

theorem run_keyed {state : State} {ts : List Token} {v : Value} (keyed : state.IsKeyed)
    (read : run state ts = .ok v) : v.IsKeyed := by
  induction ts generalizing state with
  | nil =>
    cases state with
    | finished w =>
      obtain rfl := Except.ok.inj read
      exact keyed
    | _ => contradiction
  | cons token rest ih =>
    cases stepped : step state token with
    | ok next => exact ih (step_keyed keyed stepped) (by simpa [run, stepped] using read)
    | error e => simp [run, stepped] at read

theorem parse_keyed {text : String} {v : Value} (read : parse text = .ok v) : v.IsKeyed :=
  have keyed : (State.value []).IsKeyed := by simp [State.IsKeyed]
  run_keyed keyed read

end Json

namespace Yaml

/-- The value of a node, as soon as that of its mapping is known. -/
theorem value_keyed {node : Node} {v : Value} (read : node.value = .ok v) : v.IsKeyed := by
  cases node with
  | scalar isPlain cs =>
    cases isPlain with
    | false =>
      obtain rfl := Except.ok.inj read
      trivial
    | true =>
      rw [Node.value] at read
      split at read
      · contradiction
      · cases resolved : plainScalar cs with
        | error e => simp [resolved, Except.map] at read
        | ok s =>
          obtain rfl : .scalar s = v := by simpa [resolved, Except.map] using read
          trivial
  | list items =>
    rw [Node.value] at read
    cases all : values items with
    | error e => simp [all, Except.map] at read
    | ok vs =>
      obtain rfl : .list vs = v := by simpa [all, Except.map] using read
      trivial
  | mapping entries =>
    rw [Node.value] at read
    obtain ⟨found, _, made⟩ := except_bind_eq_ok read
    obtain rfl := Except.ok.inj made
    exact Value.distinct_putEntries List.Pairwise.nil _

theorem parse_keyed {text : String} {v : Value} (read : parse text = .ok v) : v.IsKeyed := by
  unfold parse at read
  split at read
  · obtain ⟨node, _, made⟩ := except_bind_eq_ok read
    exact value_keyed made
  · contradiction

end Yaml

/-- A mapping in a file does not name anything twice. -/
theorem Settings.load_keyed {files : Files} {path : String} {v : Value} (loaded : load files path = .ok v) :
    v.IsKeyed := by
  unfold load at loaded
  split at loaded
  · cases loaded
  · split at loaded
    · cases loaded
    · split at loaded
      · unfold readYaml at loaded
        split at loaded
        next read =>
          obtain rfl := Except.ok.inj loaded
          exact Yaml.parse_keyed read
        · cases loaded
        · cases loaded
      · unfold readJson at loaded
        split at loaded
        next read =>
          obtain rfl := Except.ok.inj loaded
          exact Json.parse_keyed read
        · cases loaded
        · cases loaded

/-! ## Fields -/

namespace Configuration

/-- A field of a configuration: its name, what it accepts, and its place. -/
structure Field where
  name : String
  α : Type
  accept : Value → Option α
  get : Configuration → α
  put : α → Configuration → Configuration

/-- All fields there are. -/
def Field.all : List Field := [
  ⟨"root_element", String, text?, rootElement, fun a c => { c with rootElement := a }⟩,
  ⟨"type_hint_attribute", String, text?, hintAttribute, fun a c => { c with hintAttribute := a }⟩,
  ⟨"translations", Table String, texts?, translations, fun a c => { c with translations := a }⟩,
  ⟨"colors", Table String, texts?, colors, fun a c => { c with colors := a }⟩,
  ⟨"default_stroke_color", String, text?, strokeColor, fun a c => { c with strokeColor := a }⟩,
  ⟨"default_fill_color", String, text?, fillColor, fun a c => { c with fillColor := a }⟩,
  ⟨"ellipse_radius", Int, int?, ellipseRadius, fun a c => { c with ellipseRadius := a }⟩,
  ⟨"chunk_size", Int, blockSize?, blockSize, fun a c => { c with blockSize := a }⟩]

namespace Field

variable {f g : Field} {c d : Configuration}

/-- A field that has a name and a place to itself. -/
structure Own (f : Field) : Prop where
  set? : ∀ v c, c.set? f.name v = (f.accept v).map (f.put · c)
  get_put : ∀ a c, f.get (f.put a c) = a
  get_put_other : ∀ g ∈ all, g.name ≠ f.name → ∀ a c, g.get (f.put a c) = g.get c
  unique : ∀ g ∈ all, g.name = f.name → g = f

theorem own_of_mem (member : f ∈ all) : f.Own := by
  have each : ∀ f ∈ all, f.Own := by
    simp only [all, List.forall_mem_cons, List.not_mem_nil, false_implies, implies_true, and_true]
    refine ⟨?_, ?_, ?_, ?_, ?_, ?_, ?_, ?_⟩
    all_goals
      refine ⟨fun _ _ => rfl, fun _ _ => rfl, ?_, ?_⟩
      · simp [all]
      · simp [all]
  exact each f member

theorem eq_of_get (same : ∀ f ∈ all, f.get c = f.get d) : c = d := by
  obtain ⟨_, _, _, _, _, _, _, _⟩ := c
  simp only [all, List.forall_mem_cons] at same
  obtain ⟨rfl, rfl, rfl, rfl, rfl, rfl, rfl, rfl, _⟩ := same
  rfl

/-- A value is set under the name of a field that accepts it. -/
theorem set?_eq_some_iff {name : String} {v : Value} :
    c.set? name v = some d ↔ ∃ f ∈ all, f.name = name ∧ ∃ a, f.accept v = some a ∧ f.put a c = d := by
  constructor
  · intro set
    have known : ∃ f ∈ all, f.name = name := by
      unfold Configuration.set? at set
      split at set
      all_goals first
        | simp [all]; done
        | contradiction
    obtain ⟨f, member, rfl⟩ := known
    rw [(own_of_mem member).set?, Option.map_eq_some_iff] at set
    exact ⟨f, member, rfl, set⟩
  · rintro ⟨f, member, rfl, accepted⟩
    rw [(own_of_mem member).set?, Option.map_eq_some_iff]
    exact accepted

/-- What entries say on a field: the value under its name as accepted, or else that it is as it was. -/
def Says (f : Field) (entries : List (Scalar × Value)) (c d : Configuration) : Prop :=
  (∀ v, (.text f.name, v) ∈ entries → f.accept v = some (f.get d)) ∧
    ((∀ v, (.text f.name, v) ∉ entries) → f.get d = f.get c)

end Field

/-- The configuration that comes of another one by some entries, all of which name fields. -/
structure Follows (entries : List (Scalar × Value)) (c d : Configuration) : Prop where
  known : ∀ e ∈ entries, ∃ f ∈ Field.all, e.1 = .text f.name
  fields : ∀ f ∈ Field.all, f.Says entries c d

theorem follows_nil {c d : Configuration} : Follows [] c d ↔ c = d := by
  constructor
  · rintro ⟨_, fields⟩
    exact Field.eq_of_get fun f member => ((fields f member).2 (by simp)).symm
  · rintro rfl
    exact ⟨by simp, fun f _ => ⟨by simp, fun _ => rfl⟩⟩

/-- The first entry names a field and is accepted there, and the others do the rest. -/
theorem follows_cons {key : Scalar} {v : Value} {rest : List (Scalar × Value)} {c d : Configuration}
    (distinct : Value.Distinct ((key, v) :: rest)) :
    Follows ((key, v) :: rest) c d ↔
      ∃ f ∈ Field.all, key = .text f.name ∧ ∃ a, f.accept v = some a ∧ Follows rest (f.put a c) d := by
  constructor
  · rintro ⟨known, fields⟩
    obtain ⟨f, member, rfl⟩ := known (key, v) (by simp)
    have own := Field.own_of_mem member
    refine ⟨f, member, rfl, f.get d, (fields f member).1 v (by simp),
      fun e there => known e (by simp [there]), fun g there => ?_⟩
    refine ⟨fun w named => (fields g there).1 w (by simp [named]), fun unnamed => ?_⟩
    by_cases same : g.name = f.name
    · obtain rfl := own.unique g there same
      rw [own.get_put]
    · rw [own.get_put_other g there same]
      exact (fields g there).2 fun w => by simp [same, unnamed w]
  · rintro ⟨f, member, rfl, a, accepted, known, fields⟩
    have own := Field.own_of_mem member
    have absent := Value.distinct_text distinct rfl
    refine ⟨List.forall_mem_cons.mpr ⟨⟨f, member, rfl⟩, known⟩, fun g there => ?_⟩
    by_cases same : g.name = f.name
    · obtain rfl := own.unique g there same
      have kept : g.get d = a := ((fields g there).2 absent).trans (own.get_put a c)
      refine ⟨fun w named => ?_, fun unnamed => absurd (List.mem_cons_self ..) (unnamed v)⟩
      rcases List.mem_cons.mp named with first | later
      · rw [(Prod.mk.inj first).2, accepted, kept]
      · exact absurd later (absent w)
    · rw [Field.Says, ← own.get_put_other g there same a c]
      simpa [same, Field.Says] using fields g there

/-- Entries are taken exactly if they describe a configuration. -/
theorem setAll?_eq_some_iff {entries : List (Scalar × Value)} (distinct : Value.Distinct entries)
    {c d : Configuration} : c.setAll? entries = some d ↔ Follows entries c d := by
  induction entries generalizing c with
  | nil => simp [setAll?, follows_nil]
  | cons e rest ih =>
    obtain ⟨key, v⟩ := e
    have others : Value.Distinct rest := (List.pairwise_cons.mp distinct).2
    rw [follows_cons distinct]
    cases key with
    | text name =>
      simp only [setAll?, Option.bind_eq_some_iff, Field.set?_eq_some_iff, Scalar.text.injEq]
      constructor
      · rintro ⟨_, ⟨f, member, rfl, a, accepted, rfl⟩, rest⟩
        exact ⟨f, member, rfl, a, accepted, (ih others).mp rest⟩
      · rintro ⟨f, member, rfl, a, accepted, rest⟩
        exact ⟨_, ⟨f, member, rfl, a, accepted, rfl⟩, (ih others).mpr rest⟩
    | _ => simp [setAll?]

end Configuration

/-! ## Files -/

/-- Values that count as nothing, but are neither null nor mappings. -/
inductive Value.Slight : Value → Prop where
  | false : Slight (.bool false)
  | zero : Slight (.int 0)
  | fraction (x : Number.Binary64) : x.isZero = true → Slight (.scalar (.float x))
  | text : Slight (.text "")
  | list : Slight (.list [])

theorem Value.isVoid_iff (v : Value) : v.isVoid = true ↔ v = .null ∨ v = .mapping [] ∨ v.Slight := by
  constructor
  · intro void
    rcases v with (_ | _ | i | x | s) | items | entries
    · exact .inl rfl
    · rename_i b
      cases b with
      | false => exact .inr (.inr .false)
      | true => contradiction
    · obtain rfl : i = 0 := by simpa [isVoid, Scalar.isVoid] using void
      exact .inr (.inr .zero)
    · exact .inr (.inr (.fraction x void))
    · obtain rfl : s = "" := by simpa [isVoid, Scalar.isVoid] using void
      exact .inr (.inr .text)
    · obtain rfl : items = [] := by simpa [isVoid] using void
      exact .inr (.inr .list)
    · obtain rfl : entries = [] := by simpa [isVoid] using void
      exact .inr (.inl rfl)
  · rintro (rfl | rfl | slight)
    · rfl
    · rfl
    · cases slight with
      | fraction x zero => exact zero
      | _ => rfl

namespace Settings

open Pgml.Configuration (Follows)

theorem eq_ok_of_toOption {ε α : Type} {r : Except ε α} {a : α} (read : r.toOption = some a) : r = .ok a := by
  cases r with
  | ok b => exact congrArg Except.ok (Option.some.inj read)
  | error e => contradiction

variable {v : Value}

theorem configurationOf_eq_ok_iff (keyed : v.IsKeyed) (c : Configuration) :
    configurationOf v = .ok c ↔ v = .null ∧ c = .initial ∨
      (∃ entries, v = .mapping entries ∧ Follows entries .initial c) ∨ v.Slight ∧ c = .initial := by
  constructor
  · intro read
    unfold configurationOf at read
    split at read
    next void =>
      obtain rfl := Except.ok.inj read
      rcases v.isVoid_iff.mp void with rfl | rfl | slight
      · exact .inl ⟨rfl, rfl⟩
      · exact .inr (.inl ⟨[], rfl, Configuration.follows_nil.mpr rfl⟩)
      · exact .inr (.inr ⟨slight, rfl⟩)
    · cases v with
      | mapping entries =>
        split at read
        next taken =>
          obtain rfl := Except.ok.inj read
          exact .inr (.inl ⟨entries, rfl, (Configuration.setAll?_eq_some_iff keyed).mp taken⟩)
        · contradiction
      | _ => contradiction
  · rintro (⟨rfl, rfl⟩ | ⟨entries, rfl, follows⟩ | ⟨slight, rfl⟩)
    · rfl
    · have taken : Configuration.ofValue? (.mapping entries) = some c :=
        (Configuration.setAll?_eq_some_iff keyed).mpr follows
      cases entries with
      | nil =>
        obtain rfl := Option.some.inj taken
        rfl
      | cons => simp [configurationOf, Value.isVoid, taken]
    · simp [configurationOf, (v.isVoid_iff).mpr (.inr (.inr slight))]

theorem configurationOf_eq_error {f : LoadFault} (failed : configurationOf v = .error f) :
    f = .badConfiguration := by
  unfold configurationOf at failed
  split at failed
  · contradiction
  · split at failed
    · contradiction
    · exact (Except.error.inj failed).symm

/-- A file is taken for a configuration exactly if it holds nothing, or a mapping all of whose names are those of
fields that accept their values. Then every field that the mapping names has its value as accepted, and all others
are as usual. There is an exception: a false, a zero, an empty text and an empty list are no mappings, but
are taken for the usual configuration as well. Everything else is refused as one and the same fault. -/
theorem configuration_of_file {files : Files} {path : String} (loaded : load files path = .ok v) :
    (∀ c, loadConfiguration files (some path) = .ok c ↔ v = .null ∧ c = .initial ∨
      (∃ entries, v = .mapping entries ∧ Follows entries .initial c) ∨ v.Slight ∧ c = .initial) ∧
    ∀ f, loadConfiguration files (some path) = .error f →
      f = .badConfiguration ∧ f.message = "Error parsing configuration file" := by
  have read : loadConfiguration files (some path) = configurationOf v := by
    simp [loadConfiguration, loaded, Except.bind]
  rw [read]
  refine ⟨configurationOf_eq_ok_iff (load_keyed loaded), fun f failed => ?_⟩
  obtain rfl := configurationOf_eq_error failed
  exact ⟨rfl, rfl⟩

/-- A size of blocks that is written as text, and a colour. -/
theorem configuration_of_file_of_brand :
    let text := "\x7b\"chunk_size\": \" +064.0\", \"colors\": \x7b\"brand\": \"#336699\"\x7d\x7d"
    let files : Files := fun name => if name = "c.json" then some text.toUTF8 else none
    let entries : List (Scalar × Value) :=
      [(.text "chunk_size", .text " +064.0"), (.text "colors", .mapping [(.text "brand", .text "#336699")])]
    let c : Configuration := { Configuration.initial with blockSize := 64, colors := ⟨[("brand", "#336699")]⟩ }
    load files "c.json" = .ok (.mapping entries) ∧ loadConfiguration files (some "c.json") = .ok c ∧
      Follows entries .initial c := by
  intro text files entries c
  have loaded : load files "c.json" = .ok (.mapping entries) := eq_ok_of_toOption (by decide +kernel)
  have read : loadConfiguration files (some "c.json") = .ok c := eq_ok_of_toOption (by decide +kernel)
  rcases ((configuration_of_file loaded).1 c).mp read with ⟨absurd, _⟩ | ⟨_, same, follows⟩ | ⟨slight, _⟩
  · contradiction
  · obtain rfl := Value.mapping.inj same
    exact ⟨loaded, read, follows⟩
  · contradiction

/-- An empty list is neither nothing nor a mapping, and taken for a configuration. -/
theorem configuration_of_empty_list :
    let files : Files := fun name => if name = "c.json" then some "[]".toUTF8 else none
    let v : Value := .list []
    load files "c.json" = .ok v ∧ v ≠ .null ∧ (∀ entries, v ≠ .mapping entries) ∧
      loadConfiguration files (some "c.json") = .ok .initial := by
  intro files v
  exact ⟨by rfl, by decide, fun _ => nofun, by rfl⟩

end Settings

end Pgml
