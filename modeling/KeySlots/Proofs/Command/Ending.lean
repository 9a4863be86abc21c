import KeySlots.Proofs.Command.Outcome

namespace KeySlots

open Session

def Breakdowns.passing (broken : Breakdowns) (plan : List Record) : List Record :=
  plan.takeWhile fun r => (broken.push r.id).isNone

namespace Session

-- The run ends with this failure: it is reported, or there is no outcome if it is a fault.
inductive Ending.FailsWith (e : Ending) : Failure → Prop
  | refused {refusal o} :
    e.result = .ok o → o.ok = false → o.stage = .validationFailed → o.error = some refusal.name →
    o.message = refusal.message →
    FailsWith e (.refused refusal)
  | faulted {f} : e.result = .error f → FailsWith e (.faulted f)

variable {broken : Breakdowns} {kind : Kind} {k : Keyboard} {plan written : List Record}
  {reported : List Int} {failure : Option Failure} {f : Failure} {s : Session}

theorem failsWith_conclude (hf : f.Local) (hc : broken.close = none) :
    (conclude broken (some f) s).FailsWith f := by
  cases f
  case faulted => exact .faulted rfl
  case refused refusal =>
    have hr : (conclude broken (some (.refused refusal)) s).result = .ok (s.outcome.fail refusal) := by
      simp [conclude, close, hc, Except.map]
    refine .refused hr (ok_fail _ _) ?_ (Outcome.error_fail _ _) ?_
    case refine_1 =>
      obtain ⟨_, text, rfl⟩ | ⟨hs, _⟩ := s.outcome.stage_fail refusal
      case inl => exact (hf text rfl).elim
      case inr => exact hs
    case refine_2 =>
      cases refusal
      case callFailed text => exact (hf text rfl).elim
      all_goals rfl

theorem passing_append (h : ∀ r ∈ written, broken.push r.id = none) (rest : List Record) :
    broken.passing (written ++ rest) = written ++ broken.passing rest :=
  List.takeWhile_append_of_pos fun r hr => by simp [h r hr]

theorem passing_eq_self (h : ∀ r ∈ plan, broken.push r.id = none) : broken.passing plan = plan := by
  simpa [Breakdowns.passing] using passing_append h []

theorem passing_append_cons {r : Record} {rest : List Record} {text : String}
    (h : ∀ w ∈ written, broken.push w.id = none) (hr : broken.push r.id = some text) :
    broken.passing (written ++ r :: rest) = written := by
  rw [passing_append h]
  simp [Breakdowns.passing, hr]

def attempts (k : Keyboard) (kind : Kind) (shown : List Nat) (plan passed : List Record) : List Call :=
  pushes kind shown (plan.take (passed.length + 1)) ++
    if passed = plan ∧ plan ≠ [] then (k.saveCall? kind).toList else []

theorem attempts_self (k : Keyboard) (kind : Kind) (shown : List Nat) (plan : List Record) :
    attempts k kind shown plan plan = commits k kind shown plan := by
  rw [attempts, commits, List.take_of_length_le (Nat.le_succ _)]
  by_cases h : plan = [] <;> simp [h, pushes]

-- The records of a plan are written up to the first push that fails, and this push is tried.
theorem Course.did_of_write (h : Course broken kind k (.write plan reported) failure s)
    (ho : broken.Opens) :
    (∃ shown, s.Did k kind (opening ++ attempts k kind shown plan (broken.passing plan))
      (broken.passing plan)) ∧
    ∀ fault, failure = some (.faulted fault) →
      broken.passing plan = plan ∧ ∃ n ∈ reported, ¬Numeral.isWritable n := by
  cases h
  case initFailed hi _ => simp [ho.init] at hi
  case loadFailed hl _ => simp [ho.load] at hl
  case unread hd _ => cases hd
  case refused hd _ => cases hd
  case pushFailed written r rest _ shown text _ hd hw hr hs =>
    cases hd
    rw [passing_append_cons hw hr]
    refine ⟨⟨shown, ?_⟩, by simp⟩
    have ha : attempts k kind shown (written ++ r :: rest) written =
        pushes kind shown (written ++ [r]) := by
      have ht : (written ++ r :: rest).take (written.length + 1) = written ++ [r] := by
        simp [List.take_append]
      simp [attempts, ht]
    exact ha ▸ hs
  case saveFailed shown call _ _ hd hp hw hc _ hs =>
    cases hd
    refine ⟨⟨shown, ?_⟩, by simp⟩
    rw [passing_eq_self hw, attempts_self]
    simpa [commits, hp, hc] using hs
  case overlong shown n _ hd hc hn hl hs =>
    cases hd
    refine ⟨⟨shown, ?_⟩, fun _ _ => ⟨passing_eq_self hc.push, n, hn, hl⟩⟩
    rwa [passing_eq_self hc.push, attempts_self]
  case done shown _ hd hc _ _ hs =>
    cases hd
    refine ⟨⟨shown, ?_⟩, by simp⟩
    rw [passing_eq_self hc.push, attempts_self]
    exact hs.toDid

theorem Course.did_of_unread (h : Course broken kind k (.unread f) failure s) : s.Did k kind [] [] := by
  cases h
  case unread _ hs                             => exact hs
  case initFailed hn _ _ | loadFailed hn _ _ _ => exact (hn _ rfl).elim
  all_goals contradiction

theorem Course.failure_of_refused (h : Course broken kind k (.refused f) failure s)
    (ho : broken.Opens) : failure = some f ∧ s.Did k kind opening [] := by
  cases h
  case initFailed hi _ => simp [ho.init] at hi
  case loadFailed hl _ => simp [ho.load] at hl
  case refused hd hs =>
    cases hd
    exact ⟨rfl, hs⟩
  all_goals contradiction

end Session

namespace Command

variable {κ : Type} [KeyCodec κ] {keys : κ} {settings : Settings} {broken : Breakdowns}
  {k : Keyboard} {c : Command}
  {f : Failure} {plan : List Record} {reported : List Int}

theorem local_of_decide (h : c.decide keys settings k = .unread f ∨ c.decide keys settings k = .refused f) :
    f.Local := by
  cases h
  case inl h => exact local_of_unread h
  case inr h =>
    have ho := own_of_refused h
    exact ho.isLocal

theorem run_of_refused (h : c.decide keys settings k = .refused f) (ho : broken.Opens) :
    (c.run keys settings broken k).calls = opening ++ [.close] ∧
      (c.run keys settings broken k).keyboard = k ∧
      (broken.close = none → (c.run keys settings broken k).FailsWith f) := by
  have ⟨failure, s, hc, he⟩ := run_course keys settings broken k c
  rw [h] at hc
  obtain ⟨rfl, hs⟩ := hc.failure_of_refused ho
  rw [he, calls_conclude, keyboard_conclude, hs.calls, hs.keyboard]
  exact ⟨rfl, rfl, fun hcl => failsWith_conclude (local_of_decide (.inr h)) hcl⟩

theorem run_unbroken (keys : κ) (settings : Settings) (k : Keyboard) (c : Command) :
    (c.run keys settings {} k).keyboard = k.writeAll c.kind (c.plan keys settings k) := by
  have ⟨failure, s, hc, he⟩ := run_course keys settings {} k c
  have ⟨_, written, hd, _, hw⟩ := hc.did
  have hn : ¬∃ text, failure = some (.refused (.callFailed text)) := by
    rw [← hc.breaks_iff fun _ => local_of_decide]
    rintro ⟨call, -, hb⟩
    cases call <;> simp [Breaks, Breakdowns.error?] at hb
  rw [he, keyboard_conclude, hd.keyboard, hw.resolve_right hn]
  rfl

end Command
end KeySlots
