import Pgml.Work

/-! What works answer and which of them run alike. A work yields answers of a kind while it keeps
an invariant, whether it fails or not; it ensures what holds whenever it succeeds; it ends well if,
besides, its faults and what they leave are of a kind; two works run alike if, started in related
states, they give the same answer, which is of a kind, or the same fault, and leave related states. -/
namespace Pgml

/-! ## Results -/

section

variable {ε α β : Type} {r : Except ε α} {f : α → Except ε β} {e : ε} {b : β}

@[simp] theorem except_ok_bind (a : α) (f : α → Except ε β) : (Except.ok a >>= f) = f a := rfl

@[simp] theorem except_error_bind (e : ε) (f : α → Except ε β) : (Except.error e >>= f) = .error e := rfl

@[simp] theorem except_pure (a : α) : (pure a : Except ε α) = .ok a := rfl

theorem except_bind_eq_ok (done : (r >>= f) = .ok b) : ∃ a, r = .ok a ∧ f a = .ok b := by
  cases r with
  | error e => contradiction
  | ok a => exact ⟨a, rfl, done⟩

theorem except_bind_eq_error (failed : (r >>= f) = .error e) :
    r = .error e ∨ ∃ a, r = .ok a ∧ f a = .error e := by
  cases r with
  | error other => exact .inl (congrArg Except.error (Except.error.inj failed))
  | ok a => exact .inr ⟨a, rfl, failed⟩

end

/-! ## Works -/

namespace Work

variable {σ τ α β : Type}

abbrev Any : α → Prop := fun _ => True

theorem bind_congr {w v : Work σ α} {f g : α → Work σ β} {s t : σ} (first : w s = v t)
    (next : ∀ a u, w s = (.ok a, u) → f a u = g a u) : (w >>= f) s = (v >>= g) t := by
  simp only [bind_apply, ← first]
  rcases ran : w s with ⟨_ | a, u⟩
  · rfl
  · exact next a u ran

def Yields (invariant : σ → Prop) (answer : α → Prop) (w : Work σ α) : Prop :=
  ∀ s, invariant s → invariant (w s).2 ∧ ∀ a, (w s).1 = .ok a → answer a

namespace Yields

variable {invariant : σ → Prop} {answer : α → Prop} {final : β → Prop}

theorem pure {a : α} (fits : answer a) : Yields invariant answer (Pure.pure a) := by
  intro s start
  refine ⟨start, ?_⟩
  intro a' same
  obtain rfl : a = a' := Except.ok.inj same
  exact fits

theorem bind {w : Work σ α} {f : α → Work σ β} (first : Yields invariant answer w)
    (next : ∀ a, answer a → Yields invariant final (f a)) : Yields invariant final (w >>= f) := by
  intro s start
  obtain ⟨kept, fits⟩ := first s start
  simp only [bind_apply]
  rcases ran : w s with ⟨_ | a, t⟩
  · exact ⟨by simpa [ran] using kept, by simp⟩
  · exact next a (fits a (by simp [ran])) t (by simpa [ran] using kept)

end Yields

/-- What holds after work that succeeds. -/
def Ensures (pre : σ → Prop) (w : Work σ α) (post : α → σ → Prop) : Prop :=
  ∀ s a t, pre s → w s = (.ok a, t) → post a t

namespace Ensures

variable {pre : σ → Prop} {middle : α → σ → Prop} {post : β → σ → Prop}

theorem pure {a : α} (holds : ∀ s, pre s → middle a s) : Ensures pre (Pure.pure a) middle := by
  rintro s _ _ start ⟨⟩
  exact holds s start

theorem fail (e : Fault) : Ensures pre (Work.fail e : Work σ α) middle := by
  rintro s a t _ ⟨⟩

theorem bind {w : Work σ α} {f : α → Work σ β} (first : Ensures pre w middle)
    (next : ∀ a, Ensures (middle a) (f a) post) : Ensures pre (w >>= f) post := by
  intro s b t start ran
  obtain ⟨a, u, begun, ended⟩ := bind_eq_ok ran
  exact next a u b t (first s a u start begun) ended

theorem mono {more : α → σ → Prop} {w : Work σ α} (ensures : Ensures pre w middle)
    (weaker : ∀ a t, middle a t → more a t) : Ensures pre w more :=
  fun s a t start ran => weaker a t (ensures s a t start ran)

end Ensures

/-- Work that keeps a property when it succeeds, and answers of a kind. -/
abbrev Keeps (kept : σ → Prop) (answer : α → Prop) (w : Work σ α) : Prop :=
  Ensures kept w fun a t => kept t ∧ answer a

theorem Keeps.pure {kept : σ → Prop} {answer : α → Prop} {a : α} (fits : answer a) :
    Keeps kept answer (Pure.pure a) :=
  Ensures.pure fun _ start => ⟨start, fits⟩

theorem Keeps.bind {kept : σ → Prop} {answer : α → Prop} {final : β → Prop} {w : Work σ α}
    {f : α → Work σ β} (first : Keeps kept answer w) (next : ∀ a, answer a → Keeps kept final (f a)) :
    Keeps kept final (w >>= f) := by
  refine Ensures.bind first fun a s b t start ran => ?_
  obtain ⟨there, fits⟩ := start
  exact next a fits s b t there ran

/-- How work ends: with an answer and a state of a kind, or with a fault that may be blamed, in the state
that it is left in. -/
def Ends (pre : σ → Prop) (blame : Fault → σ → Prop) (w : Work σ α) (post : α → σ → Prop) : Prop :=
  ∀ s, pre s →
    match w s with
    | (.ok a, t) => post a t
    | (.error e, t) => blame e t

namespace Ends

variable {pre : σ → Prop} {blame : Fault → σ → Prop} {middle : α → σ → Prop} {post : β → σ → Prop}

theorem ensures {w : Work σ α} (ends : Ends pre blame w middle) : Ensures pre w middle := by
  intro s a t start ran
  simpa [ran] using ends s start

theorem fault {w : Work σ α} (ends : Ends pre blame w middle) {s t : σ} {e : Fault} (start : pre s)
    (ran : w s = (.error e, t)) : blame e t := by
  simpa [ran] using ends s start

theorem pure {a : α} (holds : ∀ s, pre s → middle a s) : Ends pre blame (Pure.pure a) middle := by
  intro s start
  simpa using holds s start

theorem fail {e : Fault} (blamed : ∀ s, pre s → blame e s) :
    Ends pre blame (Work.fail e : Work σ α) middle := by
  intro s start
  simpa using blamed s start

theorem update {f : σ → σ} {after : Unit → σ → Prop} (holds : ∀ s, pre s → after () (f s)) :
    Ends pre blame (Work.update f) after := by
  intro s start
  simpa using holds s start

theorem settle {r : Except Fault α} (blamed : ∀ e s, pre s → r = .error e → blame e s) :
    Ends pre blame (Work.settle r) fun a s => r = .ok a ∧ pre s := by
  intro s start
  rw [Work.settle_apply]
  cases r with
  | ok a => exact ⟨rfl, start⟩
  | error e => exact blamed e s start rfl

theorem bind {w : Work σ α} {f : α → Work σ β} (first : Ends pre blame w middle)
    (next : ∀ a, Ends (middle a) blame (f a) post) : Ends pre blame (w >>= f) post := by
  intro s start
  have begun := first s start
  rw [bind_apply]
  rcases ran : w s with ⟨e | a, t⟩
  · simpa [ran] using begun
  · rw [ran] at begun
    exact next a t begun

theorem current {f : σ → Work σ β} (next : ∀ s, pre s → Ends pre blame (f s) post) :
    Ends pre blame (Work.current >>= f) post :=
  fun s start => next s start s start

theorem mono {more : α → σ → Prop} {w : Work σ α} (ends : Ends pre blame w middle)
    (weaker : ∀ a t, middle a t → more a t) : Ends pre blame w more := by
  intro s start
  have ended := ends s start
  rcases ran : w s with ⟨e | a, t⟩
  · simpa [ran] using ended
  · rw [ran] at ended
    exact weaker a t ended

theorem excuse {others : Fault → σ → Prop} {w : Work σ α} (ends : Ends pre blame w middle)
    (weaker : ∀ e t, blame e t → others e t) : Ends pre others w middle := by
  intro s start
  have ended := ends s start
  rcases ran : w s with ⟨e | a, t⟩
  · rw [ran] at ended
    exact weaker e t ended
  · simpa [ran] using ended

/-- What is known of the start may be used in the proof. -/
theorem given {fact : Prop} {w : Work σ α} (ends : fact → Ends pre blame w middle) :
    Ends (fun s => fact ∧ pre s) blame w middle :=
  fun s start => ends start.1 s start.2

theorem exists_pre {ι : Type} {starts : ι → σ → Prop} {w : Work σ α}
    (ends : ∀ i, Ends (starts i) blame w middle) : Ends (fun s => ∃ i, starts i s) blame w middle := by
  rintro s ⟨i, start⟩
  exact ends i s start

end Ends

def Alike (R : σ → τ → Prop) (answer : α → Prop) (w : Work σ α) (v : Work τ α) : Prop :=
  ∀ s t, R s t → (w s).1 = (v t).1 ∧ R (w s).2 (v t).2 ∧ ∀ a, (w s).1 = .ok a → answer a

namespace Alike

variable {R : σ → τ → Prop} {answer : α → Prop} {final : β → Prop}

theorem pure {a : α} (fits : answer a) : Alike R answer (Pure.pure a) (Pure.pure a) := by
  intro s t related
  refine ⟨rfl, related, ?_⟩
  rintro _ ⟨⟩
  exact fits

theorem fail (e : Fault) : Alike R answer (Work.fail e : Work σ α) (Work.fail e) :=
  fun _ _ related => ⟨rfl, related, by simp⟩

theorem settle (r : Except Fault α) : Alike R Any (Work.settle r) (Work.settle r) := by
  intro s t related
  simpa using related

theorem update {f : σ → σ} {g : τ → τ} (kept : ∀ s t, R s t → R (f s) (g t)) :
    Alike R Any (Work.update f) (Work.update g) :=
  fun s t related => ⟨rfl, kept s t related, fun _ _ => trivial⟩

/-- The second parts need to run alike only for answers that the first part gives. -/
theorem bind {w : Work σ α} {v : Work τ α} {f : α → Work σ β} {g : α → Work τ β}
    (first : Alike R answer w v) (next : ∀ a, answer a → Alike R final (f a) (g a)) :
    Alike R final (w >>= f) (v >>= g) := by
  intro s t related
  obtain ⟨same, there, fits⟩ := first s t related
  simp only [bind_apply]
  rcases ws : w s with ⟨_ | a, s'⟩ <;> rcases vt : v t with ⟨_ | a', t'⟩ <;>
    simp only [ws, vt, reduceCtorEq, Except.ok.injEq, Except.error.injEq] at same there fits
  · exact ⟨congrArg Except.error same, there, by simp⟩
  · subst same
    exact next a (fits a rfl) s' t' there

theorem current {f : σ → Work σ β} {g : τ → Work τ β}
    (next : ∀ s t, R s t → Alike R final (f s) (g t)) :
    Alike R final (Work.current >>= f) (Work.current >>= g) :=
  fun s t related => next s t related s t related

theorem mono {more : α → Prop} {w : Work σ α} {v : Work τ α} (alike : Alike R answer w v)
    (weaker : ∀ a, answer a → more a) : Alike R more w v := by
  intro s t related
  obtain ⟨same, there, fits⟩ := alike s t related
  exact ⟨same, there, fun a ran => weaker a (fits a ran)⟩

end Alike

/-- Works that run alike and whose faults may be blamed. -/
structure Twins (R : σ → τ → Prop) (blame : Fault → Prop) (answer : α → Prop) (w : Work σ α)
    (v : Work τ α) : Prop where
  alike : Alike R answer w v
  blamed : ∀ s t e, R s t → (w s).1 = .error e → blame e

namespace Twins

variable {R : σ → τ → Prop} {blame : Fault → Prop} {answer : α → Prop} {final : β → Prop}

theorem pure {a : α} (fits : answer a) : Twins R blame answer (Pure.pure a) (Pure.pure a) :=
  ⟨.pure fits, fun _ _ _ _ absurd => by simp at absurd⟩

theorem settle {r : Except Fault α} (blamed : ∀ e, r = .error e → blame e) :
    Twins R blame Any (Work.settle r) (Work.settle r) := by
  refine ⟨.settle r, fun s t e related failed => blamed e ?_⟩
  simpa using failed

theorem update {f : σ → σ} {g : τ → τ} (kept : ∀ s t, R s t → R (f s) (g t)) :
    Twins R blame Any (Work.update f) (Work.update g) :=
  ⟨.update kept, fun _ _ _ _ absurd => by simp at absurd⟩

theorem bind {w : Work σ α} {v : Work τ α} {f : α → Work σ β} {g : α → Work τ β}
    (first : Twins R blame answer w v) (next : ∀ a, answer a → Twins R blame final (f a) (g a)) :
    Twins R blame final (w >>= f) (v >>= g) := by
  refine ⟨first.alike.bind fun a fits => (next a fits).alike, fun s t e related failed => ?_⟩
  obtain ⟨_, there, fits⟩ := first.alike s t related
  rw [bind_apply] at failed
  rcases ran : w s with ⟨other | a, u⟩
  · simp only [ran] at failed
    exact first.blamed s t e related (by simpa [ran] using failed)
  · rw [ran] at failed there fits
    exact (next a (fits a rfl)).blamed u _ e there failed

end Twins

end Work

end Pgml
