import ChatAgents.Work
set_option autoImplicit false

/-!
# Producers

A producer works in a world of type `σ` and hands over items while it runs. Every item comes with
the world at that moment, so what the producer has done when its consumer walks away is the world of
the last item taken.
-/

namespace ChatAgents

/-- A finished run of a producer: the items with their worlds, the result and the final world. -/
structure Progress (ι σ ε α : Type) where
  delivered : List (ι × σ)
  result : Except ε α
  world : σ

namespace Progress

variable {ι σ ε α : Type}

def items (p : Progress ι σ ε α) : List ι := p.delivered.map (·.1)

def prepend (p : Progress ι σ ε α) (delivered : List (ι × σ)) : Progress ι σ ε α :=
  { p with delivered := delivered ++ p.delivered }

/-- What a consumer that stops after `n` items has seen: the world at its last item, or, if the run
ends before, the final world and the result. From a world in which nothing was done yet. -/
def takeFrom (start : σ) (n : Nat) (p : Progress ι σ ε α) : List ι × Option (Except ε α) × σ :=
  match n with
  | 0 => ([], none, start)
  | n + 1 =>
    match p.delivered[n]? with
    | some (_, world) => ((p.items).take (n + 1), none, world)
    | none => (p.items, some p.result, p.world)

@[simp] theorem items_prepend (p : Progress ι σ ε α) (d : List (ι × σ)) :
    (p.prepend d).items = d.map (·.1) ++ p.items := by
  simp [items, prepend]

@[simp] theorem result_prepend (p : Progress ι σ ε α) (d : List (ι × σ)) :
    (p.prepend d).result = p.result := rfl

@[simp] theorem world_prepend (p : Progress ι σ ε α) (d : List (ι × σ)) :
    (p.prepend d).world = p.world := rfl

end Progress

def Producer (ι σ ε α : Type) : Type := σ → Progress ι σ ε α

namespace Producer

variable {ι σ ε α β : Type}

def pure (a : α) : Producer ι σ ε α := fun w => ⟨[], .ok a, w⟩

def bind (p : Producer ι σ ε α) (f : α → Producer ι σ ε β) : Producer ι σ ε β := fun w =>
  let first := p w
  match first.result with
  | .error e => ⟨first.delivered, .error e, first.world⟩
  | .ok a => (f a first.world).prepend first.delivered

instance : Monad (Producer ι σ ε) where
  pure := Producer.pure
  bind := Producer.bind

def fail (e : ε) : Producer ι σ ε α := fun w => ⟨[], .error e, w⟩

def yield (i : ι) : Producer ι σ ε Unit := fun w => ⟨[(i, w)], .ok (), w⟩

def lift (x : Work σ ε α) : Producer ι σ ε α := fun w =>
  let (result, w') := x w
  ⟨[], result, w'⟩

def ofExcept (x : Except ε α) : Producer ι σ ε α := fun w => ⟨[], x, w⟩

def yieldAll : List ι → Producer ι σ ε Unit
  | [] => Producer.pure ()
  | i :: rest => (yield i).bind fun _ => yieldAll rest

instance : LawfulMonad (Producer ι σ ε) :=
  LawfulMonad.mk' _
    (fun p => by
      funext w
      simp only [Functor.map, Function.comp_def, Producer.bind, Producer.pure, id]
      rcases p w with ⟨_, _ | _, _⟩ <;> simp [Progress.prepend])
    (fun _ _ => rfl)
    (fun p f _ => by
      funext w
      simp only [Bind.bind, Producer.bind]
      rcases p w with ⟨_, _ | a, w'⟩
      · rfl
      · rcases h : f a w' with ⟨_, _ | _, _⟩ <;> simp [h, Progress.prepend])

theorem bind_run (p : Producer ι σ ε α) (f : α → Producer ι σ ε β) (w : σ) :
    (p >>= f) w =
      match (p w).result with
      | .error e => ⟨(p w).delivered, .error e, (p w).world⟩
      | .ok a => (f a (p w).world).prepend (p w).delivered := rfl

theorem yieldAll_run (is : List ι) (w : σ) :
    (yieldAll is : Producer ι σ ε Unit) w = ⟨is.map fun i => (i, w), .ok (), w⟩ := by
  induction is with
  | nil => rfl
  | cons i rest ih => simp [yieldAll, bind, yield, ih, Progress.prepend]

end Producer
end ChatAgents
