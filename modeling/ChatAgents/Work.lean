set_option autoImplicit false

/-!
# Work

A computation that works in a world of type `σ` and may fail. What it has done to the world stays
done when it fails.
-/

namespace ChatAgents

@[simp] theorem mapError_ok {ε δ α : Type} (f : ε → δ) (a : α) :
    (Except.ok a : Except ε α).mapError f = .ok a := rfl

@[simp] theorem mapError_error {ε δ α : Type} (f : ε → δ) (e : ε) :
    (Except.error e : Except ε α).mapError f = .error (f e) := rfl

def Work (σ ε α : Type) : Type := σ → Except ε α × σ

namespace Work

variable {σ τ ε δ α β : Type}

def pure (a : α) : Work σ ε α := fun w => (.ok a, w)

def bind (x : Work σ ε α) (f : α → Work σ ε β) : Work σ ε β := fun w =>
  match x w with
  | (.ok a, w') => f a w'
  | (.error e, w') => (.error e, w')

instance : Monad (Work σ ε) where
  pure := Work.pure
  bind := Work.bind

def fail (e : ε) : Work σ ε α := fun w => (.error e, w)

def ofExcept (x : Except ε α) : Work σ ε α := fun w => (x, w)

def world : Work σ ε σ := fun w => (.ok w, w)

def modify (f : σ → σ) : Work σ ε Unit := fun w => (.ok (), f w)

/-- Work and a change of the world after it, whether it succeeds or not. -/
def closing (close : σ → σ) (x : Work σ ε α) : Work σ ε α := fun w =>
  let (result, w') := x w
  (result, close w')

/-- Work in a part of a larger world, with its failures seen as failures there. -/
def within (get : τ → σ) (set : τ → σ → τ) (wrap : ε → δ) (x : Work σ ε α) : Work τ δ α := fun w =>
  let (result, part) := x (get w)
  (result.mapError wrap, set w part)

theorem pure_run (a : α) (w : σ) : (Pure.pure a : Work σ ε α) w = (.ok a, w) := rfl

theorem bind_run (x : Work σ ε α) (f : α → Work σ ε β) (w : σ) :
    (x >>= f) w =
      match x w with
      | (.ok a, w') => f a w'
      | (.error e, w') => (.error e, w') := rfl

theorem ok_of_bind {x : Work σ ε α} {f : α → Work σ ε β} {w u : σ} {b : β}
    (h : (x >>= f) w = (.ok b, u)) : ∃ a w', x w = (.ok a, w') ∧ f a w' = (.ok b, u) := by
  rw [bind_run] at h
  rcases run : x w with ⟨e | a, w'⟩
  · rw [run] at h
    cases h
  · rw [run] at h
    exact ⟨a, w', rfl, h⟩

theorem ok_of_within {get : τ → σ} {set : τ → σ → τ} {wrap : ε → δ} {x : Work σ ε α} {w u : τ}
    {a : α} (h : x.within get set wrap w = (.ok a, u)) :
    ∃ part, x (get w) = (.ok a, part) ∧ u = set w part := by
  obtain ⟨result, rfl⟩ := Prod.mk.inj h
  rcases run : x (get w) with ⟨e | a', part⟩
  · rw [run] at result
    cases result
  · rw [run] at result
    obtain rfl := Except.ok.inj result
    exact ⟨part, rfl, rfl⟩

instance : LawfulMonad (Work σ ε) :=
  LawfulMonad.mk' _
    (fun x => by
      funext w
      simp only [Functor.map, Function.comp_def, Work.bind, Work.pure, id]
      rcases x w with ⟨_ | _, _⟩ <;> rfl)
    (fun _ _ => rfl)
    (fun x _ _ => by
      funext w
      simp only [Bind.bind, Work.bind]
      rcases x w with ⟨_ | _, _⟩ <;> rfl)

end Work
end ChatAgents
