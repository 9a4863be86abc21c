import KeySlots.Proofs.Command.Run

namespace KeySlots

open Session
open scoped List

variable {κ : Type} [KeyCodec κ]

def Breakdowns.error? (broken : Breakdowns) : Call → Option String
  | .init        => broken.init
  | .load        => broken.load
  | .push _ id _ => broken.push id
  | .save _      => broken.save
  | .close       => broken.close

namespace Session

variable {broken : Breakdowns} {kind : Kind} {k : Keyboard} {d : Decision} {failure : Option Failure}
  {s : Session} {plan written : List Record} {shown : List Nat} {call : Call}

theorem error?_opening (h : broken.Opens) (hc : call ∈ opening) : broken.error? call = none := by
  simp only [opening, List.mem_cons, List.not_mem_nil, or_false] at hc
  obtain rfl | rfl := hc
  · exact h.init
  · exact h.load

theorem error?_pushes (h : ∀ r ∈ written, broken.push r.id = none)
    (hc : call ∈ pushes kind shown written) : broken.error? call = none := by
  have ⟨r, hr, he⟩ := List.mem_map.mp hc
  exact he ▸ h r hr

theorem saveCall?_eq (h : k.saveCall? kind = some call) : ∃ saved, call = .save saved := by
  rw [Keyboard.saveCall?] at h
  split at h
  case isTrue => exact ⟨_, (Option.some_inj.mp h).symm⟩
  case isFalse =>
    split at h
    case isTrue => exact ⟨_, (Option.some_inj.mp h).symm⟩
    case isFalse => cases h

theorem error?_commits (h : broken.Commits (k.saveCall? kind).isSome plan)
    (hc : call ∈ commits k kind shown plan) : broken.error? call = none := by
  rw [commits] at hc
  split at hc
  case isTrue => cases hc
  case isFalse hp =>
    cases List.mem_append.mp hc
    case inl hc => exact error?_pushes h.push hc
    case inr hc =>
      have hs := Option.mem_toList.mp hc
      obtain ⟨_, he⟩ := saveCall?_eq hs
      exact he ▸ h.save hp (by simp [Option.mem_def.mp hs])

theorem close_not_mem (k : Keyboard) (kind : Kind) (shown : List Nat) (plan : List Record) :
    Call.close ∉ opening ++ commits k kind shown plan := by
  intro h
  cases List.mem_append.mp h
  case inl h => simp [opening] at h
  case inr h =>
    rw [commits] at h
    split at h
    case isTrue => cases h
    case isFalse =>
      cases List.mem_append.mp h
      case inl h => simp [pushes] at h
      case inr h =>
        obtain ⟨_, he⟩ := saveCall?_eq (Option.mem_toList.mp h)
        cases he

namespace Course

-- The calls of a course come first among those of its plan. All of them go through but perhaps the
-- last, and if none fails they are complete.
theorem calls (h : Course broken kind k d failure s) :
    ∃ shown, s.calls <+: opening ++ commits k kind shown d.plan ∧
      (∀ call ∈ s.calls.dropLast, broken.error? call = none) ∧
      (failure = none → s.calls = opening ++ commits k kind shown d.plan) := by
  cases h
  case unread hd hs => exact ⟨[], by simp [hs.calls], by simp [hs.calls], by simp⟩
  case initFailed hi hs => exact ⟨[], by simp [hs.calls, opening], by simp [hs.calls], by simp⟩
  case loadFailed hi hl hs =>
    exact ⟨[], by simp [hs.calls], by simp [hs.calls, opening, Breakdowns.error?, hi], by simp⟩
  case refused hb hd hs =>
    exact ⟨[], by simp [hs.calls], by simp [hs.calls, opening, Breakdowns.error?, hb.init], by simp⟩
  case pushFailed written r rest _ shown _ hb hd hp hr hs =>
    refine ⟨shown, ?_, ?_, by simp⟩
    case refine_1 =>
      refine ⟨pushes kind shown rest ++ (k.saveCall? kind).toList, ?_⟩
      simp [hs.calls, hd, Decision.plan, commits, pushes]
    case refine_2 =>
      intro call hm
      have he : s.calls = opening ++ pushes kind shown written ++ [.push kind r.id shown] := by
        rw [hs.calls, pushes_append, List.append_assoc]
        rfl
      rw [he, List.dropLast_concat] at hm
      exact (List.mem_append.mp hm).elim (error?_opening hb) (error?_pushes hp)
  case saveFailed plan _ shown call _ hb hd hp hw hc hf hs =>
    refine ⟨shown, ?_, ?_, by simp⟩
    case refine_1 => simp [hs.calls, hd, Decision.plan, commits, hp, hc]
    case refine_2 =>
      intro call hm
      rw [hs.calls, List.dropLast_concat] at hm
      exact (List.mem_append.mp hm).elim (error?_opening hb) (error?_pushes hw)
  case overlong shown _ hb hd hc _ _ hs =>
    refine ⟨shown, by rw [hs.calls, hd]; exact List.prefix_rfl, fun call hm => ?_, by simp⟩
    rw [hs.calls] at hm
    exact (List.mem_append.mp (List.dropLast_subset _ hm)).elim (error?_opening hb) (error?_commits hc)
  case done shown hb hd hc _ _ hs =>
    refine ⟨shown, by rw [hs.calls, hd]; exact List.prefix_rfl, fun call hm => ?_, fun _ => ?_⟩
    case refine_1 =>
      rw [hs.calls] at hm
      exact (List.mem_append.mp (List.dropLast_subset _ hm)).elim (error?_opening hb) (error?_commits hc)
    case refine_2 =>
      rw [hs.calls, hd]
      rfl

end Course
end Session

theorem nodup_eraseDups (ids : List Int) : ids.eraseDups.Nodup := by
  induction hn : ids.length using Nat.strongRecOn generalizing ids
  case ind n hi =>
    cases ids
    case nil => simp
    case cons id ids =>
      have hl := List.length_filter_le (fun other => !other == id) ids
      rw [List.eraseDups_cons, List.nodup_cons]
      exact ⟨by simp [List.mem_eraseDups], hi _ (by simp at hn; omega) _ rfl⟩

theorem pairwise_mergeSort (ids : List Int) : (ids.mergeSort (· ≤ ·)).Pairwise (· ≤ ·) := by
  have h : (ids.mergeSort (· ≤ ·)).Pairwise fun a b => decide (a ≤ b) = true :=
    List.pairwise_mergeSort (by simp; omega) (by simp; omega) ids
  exact h.imp of_decide_eq_true

theorem strict_mergeSort_iff (ids : List Int) :
    (ids.mergeSort (· ≤ ·)).Pairwise (· < ·) ↔ ids.Nodup := by
  have hp := List.mergeSort_perm ids (· ≤ ·)
  constructor
  case mp => exact fun h => hp.nodup_iff.mp (h.imp Int.ne_of_lt)
  case mpr =>
    intro h
    refine ((pairwise_mergeSort ids).and (hp.nodup_iff.mpr h)).imp fun ⟨hl, hn⟩ => ?_
    exact Int.lt_iff_le_and_ne.mpr ⟨hl, hn⟩

-- A plan clears the slots of the records that a predicate holds of, one push for each of the records
-- in ascending order, and so one for each slot if the records are in slots of their own.
def Sweeps (predicate : Record → Bool) (stored plan : List Record) : Prop :=
  let found := slotsOf (stored.filter predicate)
  slotsOf plan ~ found ∧ (slotsOf plan).Pairwise (· ≤ ·) ∧
    ((slotsOf plan).Pairwise (· < ·) ↔ found.Nodup)

namespace Command

-- How many records a command plans to write if it is not refused, and in which order.
def Schedules (c : Command) (k : Keyboard) (plan : List Record) : Prop :=
  match c with
  | add _ _ | addKeyOverride _ | addCombo _ _ | addRecord _ _
  | edit _ _ _ | editDefinition _ _ _ | editKeyOverride _ _ | editCombo _ _ => plan.length = 1
  | delete _ ids => (slotsOf plan).Pairwise (· < ·) ∧ ∀ id, id ∈ slotsOf plan ↔ id ∈ ids
  | deleteMatching kind predicate _ => ∀ stored ∈ k.records? kind, Sweeps predicate stored plan
  | deleteAllEmpty kind => ∀ stored ∈ k.records? kind, Sweeps (·.isEmpty) stored plan
  | deleteAllDisabled => ∀ stored ∈ k.records? .keyOverride, Sweeps (·.isDisabled) stored plan
  | list _ | get _ _ => plan = []

theorem sweeps_of_plan {kind : Kind} {predicate : Record → Bool} {records plan : List Record}
    {capacity : Int} (h : (Request.clearWhere predicate).plan kind records capacity = .ok plan) :
    Sweeps predicate records plan := by
  have ⟨⟨_, ho⟩, hp⟩ := Request.plan_clear <| (Request.plan_clearWhere predicate).symm.trans h
  have hs : slotsOf plan = matching predicate records := hp ▸ ids_sentinels (clearAll_nonneg ho)
  rw [Sweeps, hs, matching]
  exact ⟨List.mergeSort_perm _ _, pairwise_mergeSort _, strict_mergeSort_iff _⟩

variable {keys : κ} {settings : Settings} {k : Keyboard} {c : Command}

theorem schedules_of_write {plan : List Record} {reported : List Int}
    (h : c.decide keys settings k = .write plan reported) : c.Schedules k plan := by
  have ⟨request, records, capacity, hr, hs, _, hp, _⟩ := decide_write h
  have ha := asks_of_request hr
  cases c
  case add | addKeyOverride | addCombo | addRecord =>
    obtain ⟨r, rfl, _⟩ := ha
    have ⟨_, _, he⟩ := Request.plan_add hp
    rw [Schedules, he, List.length_singleton]
  case edit | editDefinition | editKeyOverride | editCombo =>
    obtain ⟨patch, rfl, _⟩ := ha
    have ⟨_, _, _, _, he⟩ := Request.plan_edit hp
    rw [Schedules, he, List.length_singleton]
  case delete kind ids =>
    cases ha
    have ⟨⟨_, ho⟩, he⟩ := Request.plan_clear hp
    rw [Schedules, he, ids_sentinels (clearAll_nonneg ho)]
    exact ⟨(strict_mergeSort_iff _).mpr (nodup_eraseDups _), by simp [List.mem_eraseDups]⟩
  case deleteMatching | deleteAllEmpty | deleteAllDisabled =>
    cases ha
    intro stored hm
    cases hs.symm.trans hm
    exact sweeps_of_plan hp
  case list => cases ha; cases hp; rfl
  case get =>
    cases ha
    exact Request.plan_get hp

variable (keys : κ) (settings : Settings) (broken : Breakdowns) (k : Keyboard) (c : Command)

-- The calls of a run are some of those of its plan, from the first on, and closing. A call that fails
-- is the last of them, a run that succeeds has made them all, and a run that ends without an outcome
-- has made none, unless it was to report the number of a slot or of all slots and this is too long.
theorem run_calls :
    (∃ made shown, (c.run keys settings broken k).calls = made ++ [.close] ∧ .close ∉ made ∧
      made <+: opening ++ commits k c.kind shown (c.plan keys settings k) ∧
      (∀ call ∈ made.dropLast, broken.error? call = none) ∧
      (∀ o, (c.run keys settings broken k).result = .ok o → o.ok = true →
        made = opening ++ commits k c.kind shown (c.plan keys settings k)) ∧
      ((∃ f, (c.run keys settings broken k).result = .error f) ∧ made ≠ [] ↔
        c.Overlong keys settings broken k) ∧
      (c.Overlong keys settings broken k → ∃ n ∈ c.numbers k, ¬Numeral.isWritable n)) ∧
    ∀ plan reported, c.decide keys settings k = .write plan reported → c.Schedules k plan := by
  have ⟨failure, s, hc, he⟩ := run_course keys settings broken k c
  have ⟨shown, hp, hf, hn⟩ := hc.calls
  refine ⟨⟨s.calls, shown, ?_, ?_, hp, hf, ?_, ?_, number_of_overlong⟩, fun _ _ => schedules_of_write⟩
  case refine_1 => rw [he, calls_conclude]
  case refine_2 => exact fun hm => close_not_mem _ _ _ _ (hp.subset hm)
  case refine_3 =>
    intro o ho hok
    exact hn (succeeded_of_conclude (he ▸ ho) hok)
  case refine_4 =>
    rw [Overlong, hc.overlong_iff fun _ => own_of_refused, he]
    simp only [conclude_error_iff]

-- Two records in one slot make a command that clears by a predicate push that slot twice.
theorem sweep_pushes_twice :
    ∃ shown,
      ((deleteMatching .keyMacro (fun _ => true) "").run KeyTable.blank {} {} .doubled).calls =
        [.init, .load, .push .keyMacro 0 shown, .push .keyMacro 0 shown, .save (some .keyMacro),
          .close] := by
  have hm : matching (fun _ => true) [.keyMacro { actions := [.tap 4] }, .keyMacro {}] = [0, 0] := by
    simp [matching, List.mergeSort, Record.id]
  have hd : (deleteMatching .keyMacro (fun _ => true) "").decide KeyTable.blank {} .doubled =
      .write [.keyMacro {}, .keyMacro {}] [0, 0] := by
    have hr : Keyboard.doubled.records? .keyMacro =
        some [.keyMacro { actions := [.tap 4] }, .keyMacro {}] := rfl
    refine (Request.decide_clearWhere hr _).trans ?_
    rw [hm]
    rfl
  have hb : Breakdowns.Opens {} := ⟨rfl, rfl⟩
  obtain ⟨shown, s, hr, _, hb⟩ := run_of_write hd hb ⟨fun _ _ => rfl, fun _ _ => rfl⟩ (by decide +kernel)
  exact ⟨shown, by rw [hr, calls_conclude, hb.calls]; rfl⟩

end Command
end KeySlots
