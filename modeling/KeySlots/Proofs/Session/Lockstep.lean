import KeySlots.Command.Session

namespace KeySlots.Session

variable {α β γ δ : Type} {s t : Session} {Q : α → β → Session → Session → Prop}
  {E : Session → Session → Prop}

def Agree (x : Step α) (y : Step β) (s t : Session) (Q : α → β → Session → Session → Prop)
    (E : Session → Session → Prop) : Prop :=
  match x.run s, y.run t with
  | .ok a s, .ok b t => Q a b s t
  | .error f s, .error g t => f = g ∧ E s t
  | _, _ => False

@[simp]
theorem agree_pure (a : α) (b : β) : Agree (pure a) (pure b) s t Q E ↔ Q a b s t :=
  .rfl

@[simp]
theorem agree_throw (f : Failure) : Agree (throw f : Step α) (throw f : Step β) s t Q E ↔ E s t :=
  and_iff_right rfl

@[simp]
theorem agree_get {Q : Session → Session → Session → Session → Prop} :
    Agree get get s t Q E ↔ Q s t s t :=
  .rfl

@[simp]
theorem agree_modify {g h : Session → Session} {Q : Unit → Unit → Session → Session → Prop} :
    Agree (modify g) (modify h) s t Q E ↔ Q () () (g s) (h t) :=
  .rfl

@[simp]
theorem agree_report {g h : Outcome → Outcome} {Q : Unit → Unit → Session → Session → Prop} :
    Agree (report g) (report h) s t Q E ↔
      Q () () { s with outcome := g s.outcome } { t with outcome := h t.outcome } :=
  .rfl

@[simp]
theorem agree_attempt {x : Except Failure α} {Q : α → α → Session → Session → Prop} :
    Agree (attempt x) (attempt x) s t Q E ↔
      (∀ a, x = .ok a → Q a a s t) ∧ ∀ f, x = .error f → E s t := by
  cases x <;> simp [attempt]

theorem agree_bind {x : Step α} {y : Step β} {g : α → Step γ} {h : β → Step δ}
    {Q : γ → δ → Session → Session → Prop}
    (hxy : Agree x y s t (fun a b s t => Agree (g a) (h b) s t Q E) E) :
    Agree (x >>= g) (y >>= h) s t Q E := by
  simp only [Agree, EStateM.run_bind] at hxy ⊢
  cases hx : x.run s <;> cases hy : y.run t <;> simp only [hx, hy] at hxy ⊢ <;> exact hxy

theorem Agree.mono {x : Step α} {y : Step β} {Q' : α → β → Session → Session → Prop}
    {E' : Session → Session → Prop} (h : Agree x y s t Q E) (hQ : ∀ a b s t, Q a b s t → Q' a b s t)
    (hE : ∀ s t, E s t → E' s t) : Agree x y s t Q' E' := by
  simp only [Agree] at h ⊢
  split at h
  case h_1 => exact hQ _ _ _ _ h
  case h_2 => exact ⟨h.left, hE _ _ h.right⟩
  case h_3 => exact h.elim

-- What holds between two pairs of steps is all that the second pair needs to know.
theorem Agree.bind {x : Step α} {y : Step β} {g : α → Step γ} {h : β → Step δ}
    {R : γ → δ → Session → Session → Prop} (hxy : Agree x y s t Q E)
    (hgh : ∀ a b s t, Q a b s t → Agree (g a) (h b) s t R E) : Agree (x >>= g) (y >>= h) s t R E :=
  agree_bind (hxy.mono hgh fun _ _ he => he)

-- Calls stop both sessions or neither, whatever the traces of calls are.
theorem agree_call {P : Session → Session → Prop} {name other : Call} {error : Option String}
    (h : ∀ calls more, P { s with calls } { t with calls := more }) :
    Agree (call name error) (call other error) s t (fun _ _ => P) P := by
  refine agree_bind ?_
  rw [agree_modify]
  cases error
  case none      => exact h _ _
  case some text => exact agree_attempt.mpr ⟨nofun, fun _ _ => h _ _⟩

-- From here on the lemmas stand for the definition, which would run the steps on sight.
attribute [irreducible] Agree

end KeySlots.Session
