import Pgml.Color.Resolver

/-! The memory of a resolver. What a description means does not depend on what was asked before: it is the
colour of the last extra name that equals it but for the case, else that of a built-in name, else the one that
it denotes. A resolver answers just that, or the default of the question; its memory holds what was understood
since it was reset, and nobody can tell from the answers that there is one. -/
namespace Pgml

/-! ## Meanings -/

namespace Palette

variable {extra : List (String × String)} {p q : Palette} {bad : BadColor}

/-- The last of some extra names that equals a description but for the case, with its colour as written. -/
def last? (extra : List (String × String)) (value : String) : Option (String × String) :=
  extra.reverse.find? fun entry => Text.lower entry.1 == Text.lower value

/-- What a description means where some names are extra. -/
def meaning? (extra : List (String × String)) (value : String) : Option Color :=
  match last? extra value with
  | some entry => Color.parse? entry.2
  | none => (builtinNames.lookup (Text.lower value)).or (Color.parse? value)

theorem lookup_eq {α : Type} (name : String) (entries : List (String × α)) :
    Table.lookup name entries = entries.lookup name := by
  induction entries with
  | nil => rfl
  | cons entry rest ih =>
    obtain ⟨key, value⟩ := entry
    by_cases same : key = name
    · simp [Table.lookup, same]
    · have other : (name == key) = false := by simpa using Ne.symm same
      rw [Table.lookup, if_neg same, ih, List.lookup_cons, other]

theorem get?_builtin (name : String) : builtin.names.get? name = builtinNames.lookup name := by
  have names : builtin.names = ⟨builtinNames⟩ := rfl
  rw [names]
  exact lookup_eq name builtinNames

/-- Later names hide earlier ones, and extra names hide those that were there before. -/
theorem get?_addAll (added : p.addAll extra = .ok q) (value : String) :
    q.names.get? (Text.lower value) =
      match last? extra value with
      | some entry => Color.parse? entry.2
      | none => p.names.get? (Text.lower value) := by
  induction extra generalizing p with
  | nil =>
    obtain rfl := Except.ok.inj added
    rfl
  | cons entry rest ih =>
    obtain ⟨name, text⟩ := entry
    simp only [addAll] at added
    cases understood : Color.parse? text with
    | none => simp [understood] at added
    | some color =>
      rw [understood] at added
      rw [ih added]
      simp only [last?, List.reverse_cons, List.find?_append]
      cases rest.reverse.find? fun entry => Text.lower entry.1 == Text.lower value with
      | some later => rfl
      | none =>
        by_cases same : Text.lower name = Text.lower value
        · simp [same, understood]
        · simp [same, Table.get?_insert]

/-- A palette is built unless a colour is not understood, and then the first of these is to blame. -/
theorem addAll_eq_error : p.addAll extra = .error bad ↔
    ∃ before after, extra = before ++ (bad.name, bad.value) :: after ∧ Color.parse? bad.value = none ∧
      ∀ entry ∈ before, Color.parse? entry.2 ≠ none := by
  induction extra generalizing p with
  | nil => simp [addAll]
  | cons entry rest ih =>
    obtain ⟨name, text⟩ := entry
    cases understood : Color.parse? text with
    | none =>
      simp only [addAll, understood, Except.error.injEq]
      constructor
      · rintro rfl
        exact ⟨[], rest, rfl, understood, by simp⟩
      · rintro ⟨before, after, word, none, fine⟩
        cases before with
        | nil =>
          obtain ⟨rfl, rfl⟩ := Prod.mk.inj (List.cons.inj word).1
          rfl
        | cons first before =>
          obtain ⟨rfl, _⟩ := List.cons.inj word
          exact absurd understood (fine (name, text) (List.mem_cons_self ..))
    | some color =>
      simp only [addAll, understood, ih]
      constructor
      · rintro ⟨before, after, rfl, none, fine⟩
        refine ⟨(name, text) :: before, after, rfl, none, ?_⟩
        intro entry member
        rcases List.mem_cons.mp member with rfl | member
        · simp [understood]
        · exact fine entry member
      · rintro ⟨before, after, word, none, fine⟩
        cases before with
        | nil =>
          obtain ⟨rfl, rfl⟩ := Prod.mk.inj (List.cons.inj word).1
          simp [understood] at none
        | cons first before =>
          obtain ⟨rfl, rfl⟩ := List.cons.inj word
          exact ⟨before, after, rfl, none, fun entry member => fine entry (List.mem_cons_of_mem _ member)⟩

theorem understood_of_addAll (added : p.addAll extra = .ok q) :
    ∀ entry ∈ extra, Color.parse? entry.2 ≠ none := by
  induction extra generalizing p with
  | nil => simp
  | cons entry rest ih =>
    cases understood : Color.parse? entry.2 with
    | none => simp [addAll, understood] at added
    | some color =>
      simp only [addAll, understood] at added
      intro other member
      rcases List.mem_cons.mp member with rfl | member
      · simp [understood]
      · exact ih added other member

theorem withExtra_fails_iff :
    (∃ bad, withExtra extra = .error bad) ↔ ∃ entry ∈ extra, Color.parse? entry.2 = none := by
  constructor
  · rintro ⟨bad, failed⟩
    obtain ⟨before, after, rfl, none, _⟩ := addAll_eq_error.mp failed
    exact ⟨(bad.name, bad.value), by simp, none⟩
  · rintro ⟨entry, member, none⟩
    cases built : withExtra extra with
    | error bad => exact ⟨bad, rfl⟩
    | ok p => exact absurd none (understood_of_addAll built entry member)

theorem describe?_withExtra (built : withExtra extra = .ok p) (value : String) :
    p.describe? value = meaning? extra value := by
  unfold describe? meaning?
  rw [get?_addAll built, get?_builtin]
  cases found : last? extra value with
  | none => cases builtinNames.lookup (Text.lower value) <;> rfl
  | some entry =>
    have member : entry ∈ extra := by simpa using List.mem_of_find?_eq_some found
    obtain ⟨color, colored⟩ := Option.ne_none_iff_exists'.mp (understood_of_addAll built entry member)
    simp [colored]

end Palette

/-! ## Memory -/

/-- A resolver that remembers nothing but what its palette says. -/
structure Resolver.Honest (p : Palette) (r : Resolver) : Prop where
  palette : r.palette = p
  used : ∀ value color, r.used.get? value = some color → p.describe? value = some color

namespace Resolver

variable {p : Palette} {r : Resolver}

theorem honest_ofPalette (p : Palette) : (ofPalette p).Honest p :=
  ⟨rfl, fun value color absurd => by simp [ofPalette] at absurd⟩

theorem honest_reset (honest : r.Honest p) : r.reset.Honest p :=
  ⟨honest.palette, fun value color absurd => by simp [reset] at absurd⟩

/-- The answer to a question and what there is to report about it, if nothing is remembered. -/
def answer (meaning : Option Color) (value : String) (default : Color) : Color × List Notice :=
  match meaning with
  | some color => (color, [])
  | none => (default, [.unknownColor value default])

/-- Whether it is remembered or not, the answer is the same, and it is remembered from then on. -/
theorem Honest.answers (honest : r.Honest p) (value : String) (default : Color) :
    ∃ next, r.resolve value default =
        ((answer (p.describe? value) value default).1, next, (answer (p.describe? value) value default).2) ∧
      next.palette = p ∧ (r.used.names.Nodup → next.used.names.Nodup) ∧
      ∀ other, next.used.get? other = if value = other then p.describe? value else r.used.get? other := by
  obtain ⟨rfl, used⟩ := honest
  unfold resolve
  cases known : r.used.get? value with
  | some color =>
    have described := used value color known
    refine ⟨r, by simp [described, answer], rfl, id, fun other => ?_⟩
    by_cases same : value = other
    · rw [if_pos same, ← same, known, described]
    · rw [if_neg same]
  | none =>
    cases described : r.palette.describe? value with
    | none =>
      refine ⟨r, rfl, rfl, id, fun other => ?_⟩
      by_cases same : value = other
      · rw [if_pos same, ← same, known]
      · rw [if_neg same]
    | some color =>
      refine ⟨{ r with used := r.used.insert value color }, rfl, rfl, ?_, fun other => ?_⟩
      · exact fun distinct => Table.nodup_insert distinct value color
      · exact Table.get?_insert r.used value other color

theorem Honest.next {next : Resolver} (honest : r.Honest p) {value : String} (palette : next.palette = p)
    (used : ∀ other, next.used.get? other = if value = other then p.describe? value else r.used.get? other) :
    next.Honest p := by
  refine ⟨palette, fun other color found => ?_⟩
  rw [used] at found
  by_cases same : value = other
  · rwa [if_pos same, same] at found
  · rw [if_neg same] at found
    exact honest.used other color found

end Resolver

/-! ## Sequences of requests -/

/-- What a resolver can be asked for. -/
inductive Request where
  | resolve (value : String) (default : Color)
  | reset
  deriving DecidableEq, Repr

namespace Request

/-- What is asked in a request, if it is a question. -/
def question? : Request → Option (String × Color)
  | resolve value default => some (value, default)
  | reset => none

/-- A description that was asked for since the last reset. -/
def Recent (value : String) (requests : List Request) : Prop :=
  ∃ before default after, requests = before ++ resolve value default :: after ∧ reset ∉ after

theorem recent_reset (value : String) (requests : List Request) :
    Recent value (reset :: requests) ↔ Recent value requests := by
  constructor
  · rintro ⟨before, default, after, word, since⟩
    cases before with
    | nil => simp at word
    | cons first before => exact ⟨before, default, after, (List.cons.inj word).2, since⟩
  · rintro ⟨before, default, after, rfl, since⟩
    exact ⟨reset :: before, default, after, rfl, since⟩

theorem recent_resolve (value other : String) (default : Color) (requests : List Request) :
    Recent value (resolve other default :: requests) ↔
      Recent value requests ∨ other = value ∧ reset ∉ requests := by
  constructor
  · rintro ⟨before, asked, after, word, since⟩
    cases before with
    | nil =>
      simp only [List.nil_append, List.cons.injEq, resolve.injEq] at word
      obtain ⟨⟨same, _⟩, rfl⟩ := word
      exact .inr ⟨same, since⟩
    | cons first before => exact .inl ⟨before, asked, after, (List.cons.inj word).2, since⟩
  · rintro (⟨before, asked, after, rfl, since⟩ | ⟨rfl, since⟩)
    · exact ⟨resolve other default :: before, asked, after, rfl, since⟩
    · exact ⟨[], default, requests, rfl, since⟩

end Request

namespace Resolver

variable {p : Palette} {r : Resolver}

/-- The answers to the questions among some requests, with what there is to report, and the resolver then. -/
def run (r : Resolver) : List Request → List (Color × List Notice) × Resolver
  | [] => ([], r)
  | .reset :: rest => r.reset.run rest
  | .resolve value default :: rest =>
    let (color, next, notices) := r.resolve value default
    let (answers, last) := next.run rest
    ((color, notices) :: answers, last)

theorem run_resolve {value : String} {default color : Color} {next : Resolver} {notices : List Notice}
    (resolved : r.resolve value default = (color, next, notices)) (rest : List Request) :
    r.run (.resolve value default :: rest) = ((color, notices) :: (next.run rest).1, (next.run rest).2) := by
  simp only [run, resolved]

theorem run_answers (honest : r.Honest p) (requests : List Request) :
    (r.run requests).1 =
      (requests.filterMap Request.question?).map fun q => answer (p.describe? q.1) q.1 q.2 := by
  induction requests generalizing r with
  | nil => rfl
  | cons request rest ih =>
    cases request with
    | reset => exact ih (honest_reset honest)
    | resolve value default =>
      obtain ⟨next, resolved, palette, _, used⟩ := honest.answers value default
      have later := ih (honest.next palette used)
      simp [run_resolve resolved, Request.question?, later]

theorem run_distinct (honest : r.Honest p) (distinct : r.used.names.Nodup) (requests : List Request) :
    (r.run requests).2.used.names.Nodup := by
  induction requests generalizing r with
  | nil => exact distinct
  | cons request rest ih =>
    cases request with
    | reset => exact ih (honest_reset honest) .nil
    | resolve value default =>
      obtain ⟨next, resolved, palette, still, used⟩ := honest.answers value default
      rw [run_resolve resolved]
      exact ih (honest.next palette used) (still distinct)

/-- What is remembered in the end was asked for since the last reset, or it was there before and there was none. -/
theorem run_used (honest : r.Honest p) (requests : List Request) (value : String) (color : Color) :
    (r.run requests).2.used.get? value = some color ↔
      p.describe? value = some color ∧
        (Request.Recent value requests ∨ .reset ∉ requests ∧ (r.used.get? value).isSome = true) := by
  induction requests generalizing r with
  | nil =>
    have none : ¬ Request.Recent value [] := by
      rintro ⟨before, _, _, word, _⟩
      simp at word
    simp only [run, none, List.not_mem_nil, not_false_eq_true, true_and, false_or]
    constructor
    · intro found
      exact ⟨honest.used value color found, by simp [found]⟩
    · rintro ⟨described, there⟩
      obtain ⟨other, found⟩ := Option.isSome_iff_exists.mp there
      rw [found, ← described, honest.used value other found]
  | cons request rest ih =>
    cases request with
    | reset =>
      have forgotten : r.reset.used.get? value = none := rfl
      have after := ih (honest_reset honest)
      rw [forgotten] at after
      simpa [run, Request.recent_reset] using after
    | resolve other default =>
      obtain ⟨next, resolved, palette, _, used⟩ := honest.answers other default
      have after := ih (honest.next palette used)
      rw [run_resolve resolved, Request.recent_resolve, after, used]
      refine and_congr_right fun described => ?_
      by_cases same : other = value
      · subst same
        simp only [↓reduceIte, described, Option.isSome_some, and_true, true_and, List.mem_cons,
          reduceCtorEq, false_or, or_assoc, or_iff_left_of_imp And.left]
      · simp [same]

/-- A resolver's memory cannot be told from its answers. The extra names are accepted if and only if all of them
have a colour, and the first that has none is the one that is blamed. Then, whatever was asked for and reset
before, each question is answered by what the description means, and by the default of that very question if it
means nothing, which is reported. What is remembered in the end is what the descriptions that were asked for since
the last reset mean, as far as they mean anything. -/
theorem run_recalls (extra : List (String × String)) :
    ((∃ bad, Palette.withExtra extra = .error bad) ↔ ∃ entry ∈ extra, Color.parse? entry.2 = none) ∧
    (∀ bad, Palette.withExtra extra = .error bad ↔
      ∃ before after, extra = before ++ (bad.name, bad.value) :: after ∧ Color.parse? bad.value = none ∧
        ∀ entry ∈ before, Color.parse? entry.2 ≠ none) ∧
    ∀ p, Palette.withExtra extra = .ok p → ∀ requests,
      let done := (ofPalette p).run requests
      done.1 = (requests.filterMap Request.question?).map
        (fun q => answer (Palette.meaning? extra q.1) q.1 q.2) ∧
      done.2.used.names.Nodup ∧
      ∀ value color, done.2.used.get? value = some color ↔
        Palette.meaning? extra value = some color ∧ Request.Recent value requests := by
  refine ⟨Palette.withExtra_fails_iff, fun _ => Palette.addAll_eq_error, ?_⟩
  intro p built requests
  have meaning := Palette.describe?_withExtra built
  have honest := honest_ofPalette p
  refine ⟨?_, run_distinct honest .nil requests, fun value color => ?_⟩
  · rw [run_answers honest]
    simp only [meaning]
  · rw [run_used honest, meaning]
    simp [ofPalette]

/-- The same word asked with two defaults, before and after a reset, and a name in three spellings. -/
theorem run_recalls_of_sky :
    let extra := [("Sky", "#000001"), ("red", "0x0000ff"), ("SKY", "1, 2, 3")]
    let requests : List Request := [.resolve "fog" .white, .resolve "RED" .black, .reset, .resolve "fog" .black,
      .resolve "Sky" .black, .resolve "skY" .white]
    ∃ p, Palette.withExtra extra = .ok p ∧
      let done := (ofPalette p).run requests
      done.1 = [(.white, [.unknownColor "fog" .white]), (.pureBlue, []), (.black, [.unknownColor "fog" .black]),
        (⟨1, 2, 3⟩, []), (⟨1, 2, 3⟩, [])] ∧
      done.2.used.get? "Sky" = some ⟨1, 2, 3⟩ ∧ done.2.used.get? "fog" = none := by
  intro extra requests
  obtain ⟨fails, _, answers⟩ := run_recalls extra
  cases built : Palette.withExtra extra with
  | error bad =>
    have wrong := fails.mp ⟨bad, built⟩
    exact absurd wrong (by decide +kernel)
  | ok p =>
    obtain ⟨given, _, used⟩ := answers p built requests
    refine ⟨p, rfl, ?_, ?_, ?_⟩
    · rw [given]
      decide +kernel
    · have meant : Palette.meaning? extra "Sky" = some ⟨1, 2, 3⟩ := by decide +kernel
      refine (used "Sky" ⟨1, 2, 3⟩).mpr ⟨meant, ?_⟩
      exact ⟨requests.take 4, .black, [.resolve "skY" .white], rfl, by decide⟩
    · have nothing : Palette.meaning? extra "fog" = none := by decide +kernel
      cases found : ((ofPalette p).run requests).2.used.get? "fog" with
      | none => rfl
      | some color =>
        obtain ⟨meant, _⟩ := (used "fog" color).mp found
        simp [nothing] at meant

end Resolver

end Pgml
