import KeySlots.Command.Session

namespace KeySlots.Session

variable {α β : Type} {s : Session} {Q : α → Session → Prop} {E : Failure → Session → Prop}

def Ensures (x : Step α) (s : Session) (Q : α → Session → Prop) (E : Failure → Session → Prop) :
    Prop :=
  match x.run s with
  | .ok a s => Q a s
  | .error f s => E f s

@[simp]
theorem ensures_pure (a : α) : Ensures (pure a) s Q E ↔ Q a s :=
  .rfl

@[simp]
theorem ensures_throw (f : Failure) : Ensures (throw f : Step α) s Q E ↔ E f s :=
  .rfl

@[simp]
theorem ensures_bind {x : Step α} {g : α → Step β} {Q : β → Session → Prop} :
    Ensures (x >>= g) s Q E ↔ Ensures x s (fun a s => Ensures (g a) s Q E) E := by
  simp only [Ensures, EStateM.run_bind]
  cases x.run s <;> rfl

@[simp]
theorem ensures_get {Q : Session → Session → Prop} : Ensures get s Q E ↔ Q s s :=
  .rfl

@[simp]
theorem ensures_modify {g : Session → Session} {Q : Unit → Session → Prop} :
    Ensures (modify g) s Q E ↔ Q () (g s) :=
  .rfl

@[simp]
theorem ensures_report {g : Outcome → Outcome} {Q : Unit → Session → Prop} :
    Ensures (report g) s Q E ↔ Q () { s with outcome := g s.outcome } :=
  .rfl

@[simp]
theorem ensures_advance {stage : Stage} {Q : Unit → Session → Prop} :
    Ensures (advance stage) s Q E ↔ Q () { s with outcome := { s.outcome with stage } } :=
  .rfl

@[simp]
theorem ensures_attempt {x : Except Failure α} :
    Ensures (attempt x) s Q E ↔ (∀ a, x = .ok a → Q a s) ∧ ∀ f, x = .error f → E f s := by
  cases x <;> simp [attempt]

theorem Ensures.run_bind_eq {x : Step α} {g h : α → Step β}
    (hx : Ensures x s (fun a s => (g a).run s = (h a).run s) fun _ _ => True) :
    (x >>= g).run s = (x >>= h).run s := by
  simp only [Ensures] at hx
  rw [EStateM.run_bind, EStateM.run_bind]
  cases hr : x.run s <;> simp only [hr] at hx ⊢
  case ok => exact hx

theorem Ensures.mono {x : Step α} {Q' : α → Session → Prop} {E' : Failure → Session → Prop}
    (h : Ensures x s Q E) (hQ : ∀ a s, Q a s → Q' a s) (hE : ∀ f s, E f s → E' f s) :
    Ensures x s Q' E' := by
  simp only [Ensures] at h ⊢
  split at h
  case h_1 => exact hQ _ _ h
  case h_2 => exact hE _ _ h

-- From here on the lemmas stand for the definition, which would run the steps on sight.
attribute [irreducible] Ensures

end KeySlots.Session
