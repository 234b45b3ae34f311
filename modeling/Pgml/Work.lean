import Pgml.Fault

/-! Work on a state that may fail. Unlike a transaction it leaves the state as it is when it
fails: what was done before the failure stays done. -/
namespace Pgml

def Work (σ α : Type) : Type := σ → Except Fault α × σ

namespace Work

variable {σ τ α β : Type}

protected def pure (a : α) : Work σ α := fun s => (.ok a, s)

protected def bind (w : Work σ α) (f : α → Work σ β) : Work σ β := fun s =>
  match w s with
  | (.ok a, t) => f a t
  | (.error e, t) => (.error e, t)

instance : Monad (Work σ) where
  pure := Work.pure
  bind := Work.bind

def fail (e : Fault) : Work σ α := fun s => (.error e, s)

def current : Work σ σ := fun s => (.ok s, s)

def update (f : σ → σ) : Work σ Unit := fun s => (.ok (), f s)

/-- The result of a computation that does not touch the state. -/
def settle : Except Fault α → Work σ α
  | .ok a => Work.pure a
  | .error e => fail e

/-- Work on a part of a state. -/
def within (part : τ → σ) (replace : σ → τ → τ) (w : Work σ α) : Work τ α := fun t =>
  let (result, s) := w (part t)
  (result, replace s t)

@[simp] theorem pure_apply (a : α) (s : σ) : (pure a : Work σ α) s = (.ok a, s) := rfl

theorem bind_apply (w : Work σ α) (f : α → Work σ β) (s : σ) :
    (w >>= f) s = match w s with
      | (.ok a, t) => f a t
      | (.error e, t) => (.error e, t) := rfl

theorem bind_ok {w : Work σ α} {f : α → Work σ β} {s t : σ} {a : α} (h : w s = (.ok a, t)) :
    (w >>= f) s = f a t := by simp [bind_apply, h]

theorem bind_error {w : Work σ α} {f : α → Work σ β} {s t : σ} {e : Fault}
    (h : w s = (.error e, t)) : (w >>= f) s = (.error e, t) := by simp [bind_apply, h]

/-- What comes after a success was a success of both parts. -/
theorem bind_eq_ok {w : Work σ α} {f : α → Work σ β} {s t : σ} {b : β}
    (done : (w >>= f) s = (.ok b, t)) : ∃ a u, w s = (.ok a, u) ∧ f a u = (.ok b, t) := by
  rw [bind_apply] at done
  rcases first : w s with ⟨_ | a, u⟩
  · simp [first] at done
  · exact ⟨a, u, rfl, by simpa [first] using done⟩

theorem bind_error_iff {w : Work σ α} {f : α → Work σ β} {s : σ} {e : Fault} :
    ((w >>= f) s).1 = .error e ↔ (w s).1 = .error e ∨ ∃ a t, w s = (.ok a, t) ∧ (f a t).1 = .error e := by
  rw [bind_apply]
  rcases w s with ⟨fault | a, t⟩
  · simp
  · constructor
    · exact fun failed => .inr ⟨a, t, rfl, failed⟩
    · rintro (failed | ⟨_, _, ⟨⟩, failed⟩)
      · simp at failed
      · exact failed

@[simp] theorem fail_apply (e : Fault) (s : σ) : (fail e : Work σ α) s = (.error e, s) := rfl
@[simp] theorem current_apply (s : σ) : (current : Work σ σ) s = (.ok s, s) := rfl
@[simp] theorem update_apply (f : σ → σ) (s : σ) : update f s = (.ok (), f s) := rfl
@[simp] theorem settle_apply (r : Except Fault α) (s : σ) : (settle r : Work σ α) s = (r, s) := by
  cases r <;> rfl

instance : LawfulMonad (Work σ) := LawfulMonad.mk' _
  (fun w => by
    funext s
    change (Work.bind w fun a => Work.pure a) s = w s
    unfold Work.bind
    rcases h : w s with ⟨_ | a, t⟩ <;> rfl)
  (fun _ _ => rfl)
  (fun w f g => by
    funext s
    change Work.bind (Work.bind w f) g s = Work.bind w (fun a => Work.bind (f a) g) s
    unfold Work.bind
    rcases h : w s with ⟨_ | a, t⟩ <;> rfl)

end Work

end Pgml
