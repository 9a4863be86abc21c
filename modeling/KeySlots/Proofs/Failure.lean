import KeySlots.Failure

namespace KeySlots

variable {α β : Type} {P Q : Failure → Prop}

theorem bind_ok_iff {x : Except Failure α} {g : α → Except Failure β} {b : β} :
    x >>= g = .ok b ↔ ∃ a, x = .ok a ∧ g a = .ok b := by
  cases x <;> simp [bind, Except.bind]

theorem map_ok_iff {x : Except Failure α} {g : α → β} {b : β} :
    x.map g = .ok b ↔ ∃ a, x = .ok a ∧ g a = b := by
  cases x <;> simp [Except.map]

theorem ok_of_toOption {ε : Type} {x : Except ε α} {a : α} (h : x.toOption = some a) : x = .ok a := by
  cases x
  case error => cases h
  case ok    => exact congrArg _ (Option.some_inj.mp h)

def FailsOnly (P : Failure → Prop) (x : Except Failure α) : Prop :=
  ∀ f, x = .error f → P f

@[simp]
theorem failsOnly_ok (a : α) : FailsOnly P (.ok a) :=
  nofun

@[simp]
theorem failsOnly_pure (a : α) : FailsOnly P (pure a) :=
  nofun

@[simp]
theorem failsOnly_error {f : Failure} : FailsOnly P (.error f : Except Failure α) ↔ P f :=
  ⟨(· f rfl), fun h _ he => by cases he; exact h⟩

@[simp]
theorem failsOnly_refuse {r : Refusal} : FailsOnly P (refuse r : Except Failure α) ↔ P r.failure :=
  failsOnly_error

@[simp]
theorem failsOnly_refuseDefinition {e : DefinitionError} :
    FailsOnly P (refuseDefinition e : Except Failure α) ↔ P (Refusal.definition e).failure :=
  failsOnly_error

@[simp]
theorem failsOnly_fault {f : Fault} : FailsOnly P (fault f : Except Failure α) ↔ P (.faulted f) :=
  failsOnly_error

theorem FailsOnly.mono {x : Except Failure α} (h : FailsOnly P x) (hq : ∀ f, P f → Q f) :
    FailsOnly Q x :=
  fun f hf => hq f (h f hf)

theorem FailsOnly.bind {x : Except Failure α} {g : α → Except Failure β}
    (hx : FailsOnly P x) (hg : ∀ a, x = .ok a → FailsOnly P (g a)) : FailsOnly P (x >>= g) := by
  cases x
  case error f => exact failsOnly_error.mpr (hx f rfl)
  case ok a => exact hg a rfl

theorem FailsOnly.map {x : Except Failure α} (hx : FailsOnly P x) (g : α → β) :
    FailsOnly P (x.map g) := by
  cases x
  case error f => exact failsOnly_error.mpr (hx f rfl)
  case ok a => exact failsOnly_ok _

theorem FailsOnly.mapM {g : α → Except Failure β} {as : List α}
    (h : ∀ a ∈ as, FailsOnly P (g a)) : FailsOnly P (as.mapM g) := by
  induction as
  case nil => exact failsOnly_pure _
  case cons a as hi =>
    have ⟨ha, hs⟩ := List.forall_mem_cons.mp h
    rw [List.mapM_cons]
    exact ha.bind fun _ _ => (hi hs).bind fun _ _ => failsOnly_pure _

def Failure.Local (f : Failure) : Prop :=
  ∀ text, f ≠ .refused (.callFailed text)

@[simp]
theorem Failure.local_faulted (f : Fault) : (Failure.faulted f).Local :=
  nofun

theorem Refusal.failure_local {r : Refusal} (h : ∀ text, r ≠ .callFailed text) : r.failure.Local := by
  intro text he
  rw [Refusal.failure] at he
  split at he
  case isTrue =>
    cases he
    exact h text rfl
  case isFalse => cases he

@[simp]
theorem Refusal.failure_local_definition (e : DefinitionError) : (definition e).failure.Local :=
  failure_local nofun

@[simp]
theorem Refusal.failure_local_invalidKey (use : KeyUse) (token : String) :
    (invalidKey use token).failure.Local :=
  failure_local nofun

theorem Refusal.failure_of_writable {r : Refusal} (h : ∀ n ∈ r.numbers, Numeral.isWritable n) :
    r.failure = .refused r :=
  if_pos (List.all_eq_true.mpr h)

theorem Refusal.failure_of_overlong {r : Refusal} {n : Int} (hm : n ∈ r.numbers)
    (hn : ¬Numeral.isWritable n) : r.failure = .faulted .unwritableNumber :=
  if_neg fun h => hn (List.all_eq_true.mp h n hm)

-- The least number that is too long to be reported.
def Numeral.overlong : Nat :=
  10 ^ maxDigits

theorem Numeral.not_isWritable_overlong : ¬isWritable overlong := by
  rw [isWritable, decide_eq_true_eq, Int.natAbs_natCast]
  exact Nat.lt_irrefl _

theorem Numeral.isWritable_of_le {m n : Int} (h₀ : 0 ≤ m) (h : m ≤ n) (hn : isWritable n) :
    isWritable m := by
  simp only [isWritable, decide_eq_true_eq] at hn ⊢
  omega

-- A failure that a command comes to by itself and not by a call: a refusal, or the fault that comes of
-- reporting a number that is too long, which must be one of the given ones.
inductive Failure.Own (numbers : List Int) : Failure → Prop
  | refused {r} : (∀ text, r ≠ .callFailed text) → Own numbers (.refused r)
  | unwritable {n} : n ∈ numbers → ¬Numeral.isWritable n → Own numbers (.faulted .unwritableNumber)

theorem Failure.Own.isLocal {numbers : List Int} {f : Failure} : Own numbers f → f.Local
  | .refused hr     => fun text he => hr text (by cases he; rfl)
  | .unwritable _ _ => local_faulted _

theorem Refusal.failure_own {numbers : List Int} {r : Refusal} (h : ∀ text, r ≠ .callFailed text)
    (hn : ∀ n ∈ r.numbers, ¬Numeral.isWritable n → ∃ m ∈ numbers, ¬Numeral.isWritable m) :
    r.failure.Own numbers := by
  rw [Refusal.failure]
  split
  case isTrue => exact .refused h
  case isFalse hw =>
    simp only [List.all_eq_true, Classical.not_forall] at hw
    have ⟨n, hm, hw⟩ := hw
    have ⟨m, hm, hw⟩ := hn n hm hw
    exact .unwritable hm hw

end KeySlots
