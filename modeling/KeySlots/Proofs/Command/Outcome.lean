import KeySlots.Proofs.Command.Calls
import KeySlots.Proofs.Command.Reach

namespace KeySlots

open Session

namespace Outcome

theorem error_fail (o : Outcome) (refusal : Refusal) : (o.fail refusal).error = some refusal.name := by
  cases refusal <;> rfl

theorem stage_fail (o : Outcome) (refusal : Refusal) :
    ((o.fail refusal).stage = .deviceIoFailed ∧ ∃ text, refusal = .callFailed text) ∨
      ((o.fail refusal).stage = .validationFailed ∧ ∀ text, refusal ≠ .callFailed text) := by
  cases refusal
  case callFailed text => exact .inl ⟨rfl, text, rfl⟩
  all_goals exact .inr ⟨rfl, nofun⟩

end Outcome

namespace Session

def Breaks (broken : Breakdowns) (call : Call) : Prop :=
  (broken.error? call).isSome

def writtenSlot? (broken : Breakdowns) : Call → Option Int
  | .push _ id _ => if (broken.push id).isNone then some id else none
  | _            => none

def writtenSlots (broken : Breakdowns) (calls : List Call) : List Int :=
  calls.filterMap (writtenSlot? broken)

variable {broken : Breakdowns} {kind : Kind} {k : Keyboard} {d : Decision} {failure : Option Failure}
  {s : Session} {o : Outcome} {plan written : List Record} {shown : List Nat} {calls : List Call}

theorem writtenSlots_append (calls more : List Call) :
    writtenSlots broken (calls ++ more) = writtenSlots broken calls ++ writtenSlots broken more :=
  List.filterMap_append

theorem writtenSlots_pushes (h : ∀ r ∈ written, broken.push r.id = none) :
    writtenSlots broken (pushes kind shown written) = slotsOf written := by
  induction written
  case nil => rfl
  case cons r written hi =>
    have ⟨hr, hw⟩ := List.forall_mem_cons.mp h
    have hs : writtenSlot? broken (.push kind r.id shown) = some (r.id : Int) := by
      simp [writtenSlot?, hr]
    exact (List.filterMap_cons_some hs).trans (congrArg _ (hi hw))

theorem writtenSlots_commits (h : ∀ r ∈ plan, broken.push r.id = none) :
    writtenSlots broken (commits k kind shown plan) = slotsOf plan := by
  rw [commits]
  split
  case isTrue hp => rw [hp]; rfl
  case isFalse =>
    have hs : writtenSlots broken (k.saveCall? kind).toList = [] := by
      cases hc : k.saveCall? kind
      case none => rfl
      case some =>
        obtain ⟨_, he⟩ := saveCall?_eq hc
        rw [he]
        rfl
    rw [writtenSlots_append, writtenSlots_pushes h, hs, List.append_nil]

namespace Course

theorem committed_eq (h : Course broken kind k d failure s) :
    s.outcome.committed = writtenSlots broken s.calls := by
  have ho : writtenSlots broken opening = [] := rfl
  cases h
  case unread hs     => rw [hs.committed, hs.calls]; rfl
  case initFailed hs => rw [hs.committed, hs.calls]; rfl
  case loadFailed hs => rw [hs.committed, hs.calls]; rfl
  case refused hs    => rw [hs.committed, hs.calls]; rfl
  case pushFailed written r _ _ shown _ _ _ hp hr hs =>
    have hf : writtenSlots broken (pushes kind shown [r]) = [] := by
      simp [writtenSlots, pushes, writtenSlot?, hr]
    rw [hs.committed, hs.calls, writtenSlots_append, pushes_append, writtenSlots_append, ho, hf,
      writtenSlots_pushes hp, List.nil_append, List.append_nil]
  case saveFailed hp hc _ hs =>
    obtain ⟨_, he⟩ := saveCall?_eq hc
    rw [hs.committed, hs.calls, he, writtenSlots_append, writtenSlots_append, ho,
      writtenSlots_pushes hp, List.nil_append]
    exact (List.append_nil _).symm
  case overlong hc _ _ hs =>
    rw [hs.committed, hs.calls, writtenSlots_append, ho, writtenSlots_commits hc.push,
      List.nil_append]
  case done hc _ _ hs =>
    rw [hs.committed, hs.calls, writtenSlots_append, ho, writtenSlots_commits hc.push,
      List.nil_append]

theorem breaks_iff (h : Course broken kind k d failure s)
    (hd : ∀ f, d = .unread f ∨ d = .refused f → f.Local) :
    (∃ call ∈ s.calls, Breaks broken call) ↔ ∃ text, failure = some (.refused (.callFailed text)) := by
  have hn (calls : List Call) (hs : ∀ call ∈ calls, broken.error? call = none) :
      ¬∃ call ∈ calls, Breaks broken call := by
    rintro ⟨call, hm, hb⟩
    simp [Breaks, hs call hm] at hb
  cases h
  case unread f hf hs =>
    have := hd f (.inl hf)
    simp [hs.calls, this _]
  case initFailed text _ hi hs =>
    exact iff_of_true ⟨.init, by simp [hs.calls], by simp [Breaks, Breakdowns.error?, hi]⟩ ⟨text, rfl⟩
  case loadFailed text _ _ hl hs =>
    refine iff_of_true ⟨.load, ?_, by simp [Breaks, Breakdowns.error?, hl]⟩ ⟨text, rfl⟩
    simp [hs.calls, opening]
  case refused f ho hf hs =>
    have := hd f (.inr hf)
    refine iff_of_false (hs.calls ▸ hn _ fun _ => error?_opening ho) ?_
    simp [this _]
  case pushFailed written r _ _ shown text _ _ _ hr hs =>
    refine iff_of_true ⟨.push kind r.id shown, ?_, by simp [Breaks, Breakdowns.error?, hr]⟩ ⟨text, rfl⟩
    simp [hs.calls, pushes]
  case saveFailed call text _ _ _ _ hc hf hs =>
    obtain ⟨saved, rfl⟩ := saveCall?_eq hc
    refine iff_of_true ⟨.save saved, ?_, by simp [Breaks, Breakdowns.error?, hf]⟩ ⟨text, rfl⟩
    simp [hs.calls]
  case overlong ho _ hc _ _ hs =>
    refine iff_of_false (hs.calls ▸ hn _ fun call hm => ?_) (by simp)
    exact (List.mem_append.mp hm).elim (error?_opening ho) (error?_commits hc)
  case done ho _ hc _ _ hs =>
    refine iff_of_false (hs.calls ▸ hn _ fun call hm => ?_) (by simp)
    exact (List.mem_append.mp hm).elim (error?_opening ho) (error?_commits hc)

end Course

-- An outcome is that of the session, or it tells of a refusal. That is one of a call exactly if the
-- keyboard was not closed or a call failed before.
theorem outcome_of_conclude (h : (conclude broken failure s).result = .ok o) :
    (failure = none ∧ broken.close = none ∧ o = s.outcome) ∨
      ∃ o' refusal, o = Outcome.fail o' refusal ∧
        ((∃ text, refusal = .callFailed text) ↔
          broken.close.isSome ∨ ∃ text, failure = some (.refused (.callFailed text))) := by
  unfold conclude at h
  split at h
  case h_1 =>
    cases hc : broken.close <;> simp only [close, hc, Except.map, Except.ok.injEq] at h
    case none      => exact .inl ⟨rfl, rfl, h.symm⟩
    case some text => exact .inr ⟨_, _, h.symm, by simp⟩
  case h_2 =>
    cases hc : broken.close <;> simp only [close, hc, Except.map, Except.ok.injEq] at h
    case none      => exact .inr ⟨_, _, h.symm, by simp⟩
    case some text => exact .inr ⟨_, _, h.symm, by simp⟩
  case h_3 => simp [close, Except.map] at h

theorem finalStage_cases (k : Keyboard) (kind : Kind) (shown : List Nat) (plan : List Record) :
    (finalStage k kind plan = .loaded ∧ commits k kind shown plan = []) ∨
    (∃ r rest saved, finalStage k kind plan = .saved ∧
      commits k kind shown plan = pushes kind shown (r :: rest) ++ [.save saved]) ∨
    ∃ r rest, finalStage k kind plan = .saveSkipped ∧
      finalWarnings k kind plan = [unsavedWarning kind] ∧
      commits k kind shown plan = pushes kind shown (r :: rest) := by
  cases plan
  case nil => exact .inl ⟨rfl, rfl⟩
  case cons r rest =>
    cases hc : k.saveCall? kind
    case none =>
      exact .inr <| .inr ⟨r, rest, by simp [finalStage, hc], by simp [finalWarnings, hc],
        by simp [commits, hc]⟩
    case some =>
      obtain ⟨saved, rfl⟩ := saveCall?_eq hc
      exact .inr <| .inl ⟨r, rest, saved, by simp [finalStage, hc], by simp [commits, hc]⟩

theorem finalStage_ends (k : Keyboard) (kind : Kind) (plan : List Record) :
    finalStage k kind plan ≠ .unloaded ∧ finalStage k kind plan ≠ .mutated ∧
      finalStage k kind plan ≠ .pushed ∧ finalStage k kind plan ≠ .validationFailed ∧
      finalStage k kind plan ≠ .deviceIoFailed := by
  obtain ⟨h, _⟩ | ⟨_, _, _, h, _⟩ | ⟨_, _, h, _⟩ := finalStage_cases k kind [] plan <;> simp [h]

end Session

namespace Outcome

-- What a true outcome tells of the calls of a run.
structure Tells (broken : Breakdowns) (calls : List Call) (o : Outcome) : Prop where
  error     : o.ok = true ↔ o.error = none
  exitCode  : o.ok = true ↔ o.exitCode = 0
  failed    : o.ok = true ↔ o.stage ≠ .validationFailed ∧ o.stage ≠ .deviceIoFailed
  ended     : o.stage ≠ .unloaded ∧ o.stage ≠ .mutated ∧ o.stage ≠ .pushed
  broke     : o.stage = .deviceIoFailed ↔ ∃ call ∈ calls, Breaks broken call
  ioError   : o.stage = .deviceIoFailed → o.error = some "DeviceIOError"
  committed : o.committed = writtenSlots broken calls
  saved     : o.ok = true → (o.stage = .saved ↔ ∃ kind, .save kind ∈ calls)
  unsaved   : o.ok = true →
    (o.stage = .saveSkipped ↔
      (∃ kind id shown, .push kind id shown ∈ calls) ∧ ∀ kind, .save kind ∉ calls)
  warned    : o.stage = .saveSkipped → o.warnings.length = 1
  loaded    : o.ok = true → (o.stage = .loaded ↔ calls = [.init, .load, .close])

variable {broken : Breakdowns} {calls : List Call} {o : Outcome}

theorem exitCode_eq_zero_iff : o.exitCode = 0 ↔ o.ok = true := by
  cases ho : o.ok <;> simp [exitCode, ho]

theorem Tells.fail {refusal : Refusal}
    (hb : (∃ text, refusal = .callFailed text) ↔ ∃ call ∈ calls, Breaks broken call)
    (hc : o.committed = writtenSlots broken calls) : Tells broken calls (o.fail refusal) := by
  have ho : (o.fail refusal).ok = false := ok_fail o refusal
  have he := error_fail o refusal
  constructor
  case committed => rw [committed_fail, hc]
  case exitCode  => exact exitCode_eq_zero_iff.symm
  case broke =>
    rw [← hb]
    obtain ⟨hs, hr⟩ | ⟨hs, hr⟩ := stage_fail o refusal
    · simpa [hs] using hr
    · simpa [hs] using hr
  case ioError =>
    intro hs
    obtain ⟨_, text, rfl⟩ | ⟨hv, _⟩ := stage_fail o refusal
    · exact he
    · simp [hv] at hs
  all_goals
    obtain ⟨hs, _⟩ | ⟨hs, _⟩ := stage_fail o refusal <;> simp [ho, he, hs]

end Outcome

namespace Session

variable {broken : Breakdowns} {kind : Kind} {k : Keyboard} {d : Decision} {s : Session}

theorem Course.tells (h : Course broken kind k d none s) (hc : broken.close = none)
    (hd : ∀ f, d = .unread f ∨ d = .refused f → f.Local) :
    s.outcome.Tells broken (s.calls ++ [.close]) := by
  have hn : ¬∃ call ∈ s.calls, Breaks broken call := fun hb => by simpa using (h.breaks_iff hd).mp hb
  have hb : ¬∃ call ∈ s.calls ++ [.close], Breaks broken call := by
    simpa [or_and_right, exists_or, Breaks, Breakdowns.error?, hc] using hn
  have hw : s.outcome.committed = writtenSlots broken (s.calls ++ [.close]) := by
    rw [h.committed_eq, writtenSlots_append]
    exact (List.append_nil _).symm
  cases h
  case done plan _ shown _ _ _ _ hok hs =>
    obtain ⟨hu, hm, hp, hv, hf⟩ := finalStage_ends k kind plan
    rw [← hs.stage] at hu hm hp hv hf
    have he := finalStage_cases k kind shown plan
    rw [← hs.stage, ← hs.warnings] at he
    constructor
    case error     => exact iff_of_true hok hs.error
    case exitCode  => exact Outcome.exitCode_eq_zero_iff.symm
    case failed    => exact iff_of_true hok ⟨hv, hf⟩
    case ended     => exact ⟨hu, hm, hp⟩
    case broke     => exact iff_of_false hf hb
    case ioError   => exact fun h => (hf h).elim
    case committed => exact hw
    case saved =>
      intro _
      obtain ⟨hst, hcm⟩ | ⟨_, _, _, hst, hcm⟩ | ⟨_, _, hst, _, hcm⟩ := he <;>
        simp [hst, hs.calls, hcm, opening, pushes]
    case unsaved =>
      intro _
      obtain ⟨hst, hcm⟩ | ⟨_, _, _, hst, hcm⟩ | ⟨r, _, hst, _, hcm⟩ := he <;>
        simp [hst, hs.calls, hcm, opening, pushes]
      exact ⟨kind, r.id, shown, .inl ⟨rfl, rfl, rfl⟩⟩
    case warned =>
      intro h
      obtain ⟨hst, _⟩ | ⟨_, _, _, hst, _⟩ | ⟨_, _, _, hwn, _⟩ := he
      · simp [hst] at h
      · simp [hst] at h
      · rw [hwn, List.length_singleton]
    case loaded =>
      intro _
      obtain ⟨hst, hcm⟩ | ⟨_, _, _, hst, hcm⟩ | ⟨_, _, hst, _, hcm⟩ := he <;>
        simp [hst, hs.calls, hcm, opening, pushes]

end Session

namespace Command

variable {κ : Type} [KeyCodec κ] {keys : κ} {settings : Settings} {broken : Breakdowns}
  {k : Keyboard} {c : Command}
  {o : Outcome}

-- Every outcome tells the truth about the calls of its run.
theorem outcome_tells (h : (c.run keys settings broken k).result = .ok o) :
    o.Tells broken (c.run keys settings broken k).calls := by
  have ⟨failure, s, hc, he⟩ := run_course keys settings broken k c
  have hd (f : Failure)
      (hf : c.decide keys settings k = .unread f ∨ c.decide keys settings k = .refused f) : f.Local := by
    cases hf
    case inl hf => exact local_of_unread hf
    case inr hf =>
      have ho := own_of_refused hf
      exact ho.isLocal
  have hw : o.committed = writtenSlots broken (s.calls ++ [.close]) := by
    rw [committed_of_conclude (he ▸ h), hc.committed_eq, writtenSlots_append]
    exact (List.append_nil _).symm
  rw [he, calls_conclude]
  obtain ⟨rfl, hcl, rfl⟩ | ⟨o', refusal, rfl, hr⟩ := outcome_of_conclude (he ▸ h)
  case inl => exact hc.tells hcl hd
  case inr =>
    refine .fail (hr.trans ?_) (committed_fail o' refusal ▸ hw)
    rw [← hc.breaks_iff hd]
    simp only [List.mem_append, List.mem_singleton, or_and_right, exists_or, exists_eq_left]
    exact or_comm

def unclosing : Breakdowns where
  close := some "gone"

theorem unclosing_tells :
    ∃ o, ((list .keyMacro).run KeyTable.blank {} unclosing .single).result = .ok o ∧
      o.stage = .deviceIoFailed ∧
      o.Tells unclosing ((list .keyMacro).run KeyTable.blank {} unclosing .single).calls := by
  have hd : (list .keyMacro).decide KeyTable.blank {} .single = .write [] [2] := rfl
  have hb : unclosing.Opens := ⟨rfl, rfl⟩
  have ⟨_, s, hr, _⟩ := run_of_write hd hb ⟨nofun, nofun⟩ (by decide +kernel)
  have h : ((list .keyMacro).run KeyTable.blank {} unclosing .single).result =
      .ok (s.outcome.fail (.callFailed "gone")) := by
    rw [hr]
    rfl
  exact ⟨_, h, rfl, outcome_tells h⟩

end Command
end KeySlots
