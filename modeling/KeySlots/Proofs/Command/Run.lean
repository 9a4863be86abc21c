import KeySlots.Proofs.Command.Course

namespace KeySlots

open Session

def Keyboard.doubled : Keyboard where
  counts := [(.keyMacro, some 2)]
  stored := [(.keyMacro, [.keyMacro { actions := [.tap 4] }, .keyMacro {}])]

namespace Session

def conclude (broken : Breakdowns) : Option Failure → Session → Ending
  | none, s => close broken (.ok s.outcome) s
  | some (.refused refusal), s => close broken (.ok (s.outcome.fail refusal)) s
  | some (.faulted f), s => close broken (.error f) s

variable {broken : Breakdowns} {failure : Option Failure} {s : Session} {o : Outcome}

@[simp]
theorem keyboard_conclude : (conclude broken failure s).keyboard = s.keyboard := by
  unfold conclude
  split <;> rfl

@[simp]
theorem calls_conclude : (conclude broken failure s).calls = s.calls ++ [.close] := by
  unfold conclude
  split <;> rfl

theorem conclude_error_iff {f : Fault} :
    (conclude broken failure s).result = .error f ↔ failure = some (.faulted f) := by
  unfold conclude
  split <;> simp [close, Except.map]

theorem committed_fail (o : Outcome) (refusal : Refusal) : (o.fail refusal).committed = o.committed := by
  cases refusal <;> rfl

theorem committed_of_conclude (h : (conclude broken failure s).result = .ok o) :
    o.committed = s.outcome.committed := by
  have hc (o' : Outcome) (h : (close broken (.ok o') s).result = .ok o) :
      o.committed = o'.committed := by
    simp only [close, Except.map, Except.ok.injEq] at h
    subst h
    split
    case h_1 => exact committed_fail _ _
    case h_2 => rfl
  unfold conclude at h
  split at h
  case h_1 => exact hc _ h
  case h_2 => exact (hc _ h).trans (committed_fail _ _)
  case h_3 => simp [close, Except.map] at h

theorem ok_fail (o : Outcome) (refusal : Refusal) : (o.fail refusal).ok = false := by
  cases refusal <;> rfl

theorem succeeded_of_conclude (h : (conclude broken failure s).result = .ok o) (ho : o.ok = true) :
    failure = none := by
  have hc (o' : Outcome) (h : (close broken (.ok o') s).result = .ok o) : o'.ok = true := by
    simp only [close, Except.map, Except.ok.injEq] at h
    subst h
    split at ho
    case h_1 => rw [ok_fail] at ho; cases ho
    case h_2 => exact ho
  unfold conclude at h
  split at h
  case h_1 => rfl
  case h_2 =>
    have := hc _ h
    rw [ok_fail] at this
    cases this
  case h_3 => simp [close, Except.map] at h

end Session

-- All calls go through, but in the end there is a number to report that is too long.
def Decision.Overlong (broken : Breakdowns) (saves : Prop) : Decision → Prop
  | unread _ => False
  | refused f => broken.Opens ∧ f = .faulted .unwritableNumber
  | write plan reported =>
    broken.Opens ∧ broken.Commits saves plan ∧ ∃ n ∈ reported, ¬Numeral.isWritable n

theorem Decision.Overlong.opens {broken : Breakdowns} {saves : Prop} {d : Decision}
    (h : d.Overlong broken saves) : broken.Opens := by
  cases d
  case unread  => exact h.elim
  case refused => exact h.left
  case write   => exact h.left

namespace Session.Course

variable {broken : Breakdowns} {kind : Kind} {k : Keyboard} {d : Decision} {failure : Option Failure}
  {s : Session}

theorem did (h : Course broken kind k d failure s) :
    ∃ calls written, s.Did k kind calls written ∧ written <+: d.plan ∧
      (written = d.plan ∨ ∃ text, failure = some (.refused (.callFailed text))) := by
  cases h
  case unread hd hs => exact ⟨_, _, hs, List.nil_prefix, .inl (by rw [hd]; rfl)⟩
  case initFailed text _ _ hs => exact ⟨_, _, hs, List.nil_prefix, .inr ⟨text, rfl⟩⟩
  case loadFailed text _ _ _ hs => exact ⟨_, _, hs, List.nil_prefix, .inr ⟨text, rfl⟩⟩
  case refused _ hd hs => exact ⟨_, _, hs, List.nil_prefix, .inl (by rw [hd]; rfl)⟩
  case pushFailed text _ hd _ _ hs =>
    exact ⟨_, _, hs, hd ▸ List.prefix_append _ _, .inr ⟨text, rfl⟩⟩
  case saveFailed text _ hd _ _ _ _ hs => exact ⟨_, _, hs, hd ▸ List.prefix_rfl, .inr ⟨text, rfl⟩⟩
  case overlong _ hd _ _ _ hs => exact ⟨_, _, hs, hd ▸ List.prefix_rfl, .inl (by rw [hd]; rfl)⟩
  case done _ hd _ _ _ hs => exact ⟨_, _, hs.toDid, hd ▸ List.prefix_rfl, .inl (by rw [hd]; rfl)⟩

theorem write_of_none (h : Course broken kind k d none s) :
    ∃ plan reported, d = .write plan reported := by
  cases h
  case done hd _ _ _ _ => exact ⟨_, _, hd⟩

theorem failure_of_unread {f : Failure} (h : Course broken kind k (.unread f) failure s) :
    failure = some f := by
  cases h
  case unread hd _                             => cases hd; rfl
  case initFailed hn _ _ | loadFailed hn _ _ _ => exact (hn _ rfl).elim
  all_goals contradiction

theorem faulted_cases {f : Fault} (h : Course broken kind k d (some (.faulted f)) s) :
    d = .unread (.faulted f) ∨ d = .refused (.faulted f) ∨
      f = .unwritableNumber ∧ ∃ plan reported n, d = .write plan reported ∧ n ∈ reported ∧
        ¬Numeral.isWritable n := by
  cases h
  case unread hd _           => exact .inl hd
  case refused hd _          => exact .inr <| .inl hd
  case overlong hd _ hn hw _ => exact .inr <| .inr ⟨rfl, _, _, _, hd, hn, hw⟩

theorem overlong_iff (h : Course broken kind k d failure s)
    {numbers : List Int} (ho : ∀ f, d = .refused f → f.Own numbers) :
    d.Overlong broken (k.saveCall? kind).isSome ↔
      (∃ f, failure = some (.faulted f)) ∧ s.calls ≠ [] := by
  cases h
  case unread hd hs => simp [hd, Decision.Overlong, hs.calls]
  case refused f hb hd hs =>
    have ho := ho f hd
    simp only [hd, Decision.Overlong, hb, true_and, hs.calls, opening]
    cases ho <;> simp
  case overlong n hb hd hc hm hw hs =>
    have ho : d.Overlong broken (k.saveCall? kind).isSome := hd ▸ ⟨hb, hc, n, hm, hw⟩
    simp [ho, hs.calls, opening]
  case done hb hd hc hw _ hs => simpa [hd, Decision.Overlong] using fun _ _ => hw
  all_goals
    simp only [Option.some.injEq, reduceCtorEq, exists_false, false_and, iff_false]
    intro ho
  case initFailed hi hs => simp [ho.opens.init] at hi
  case loadFailed hl hs => simp [ho.opens.load] at hl
  case pushFailed r _ _ _ _ hb hd _ hr hs =>
    have ⟨_, hc, _⟩ := hd ▸ ho
    simp [hc.push r (by simp)] at hr
  case saveFailed hb hd hp _ hc hs _ =>
    have ⟨_, ht, _⟩ := hd ▸ ho
    simp [ht.save hp (by simp [hc])] at hs

-- On a course on which no call fails, all of the plan is written. What is left is to report it.
theorem committed_of_write {plan : List Record} {reported : List Int}
    (h : Course broken kind k d failure s) (hd : d = .write plan reported) (ho : broken.Opens)
    (hc : broken.Commits (k.saveCall? kind).isSome plan) :
    ((∀ n ∈ reported, Numeral.isWritable n) ∧ failure = none ∧ s.outcome.ok = true ∧
      ∃ shown, s.Busy k kind (opening ++ commits k kind shown plan) plan (finalStage k kind plan)
        (finalWarnings k kind plan)) ∨
    ((∃ n ∈ reported, ¬Numeral.isWritable n) ∧ failure = some (.faulted .unwritableNumber) ∧
      s.keyboard = k.writeAll kind plan) := by
  subst hd
  cases h
  case unread hd _ => cases hd
  case refused hd _ => cases hd
  case initFailed hi _ => simp [ho.init] at hi
  case loadFailed hl _ => simp [ho.load] at hl
  case pushFailed hd _ hr _ =>
    cases hd
    simp [hc.push _ (List.mem_append_right _ List.mem_cons_self)] at hr
  case saveFailed hd hp _ hs hf _ =>
    cases hd
    simp [hc.save hp (by simp [hs])] at hf
  case overlong hd _ hn hl hs =>
    cases hd
    exact .inr ⟨⟨_, hn, hl⟩, rfl, hs.keyboard⟩
  case done shown _ hd _ hw hok hb =>
    cases hd
    exact .inl ⟨hw, rfl, hok, shown, hb⟩

end Session.Course

namespace Command

variable {κ : Type} [KeyCodec κ] (keys : κ) (settings : Settings) (broken : Breakdowns)
  (k : Keyboard) (c : Command)

theorem run_course :
    ∃ failure s, Course broken c.kind k (c.decide keys settings k) failure s ∧
      c.run keys settings broken k = conclude broken failure s := by
  have h : Follows broken c.kind k (c.decide keys settings k) (c.steps keys settings broken)
      { keyboard := k, outcome := .start c.verb c.kind } :=
    steps_follows c ⟨⟨rfl, rfl, rfl⟩, rfl, rfl, rfl⟩
  simp only [Follows, Ensures] at h
  simp only [run, Session.run]
  split at h
  case h_1 s hs => exact ⟨none, s, h, by rw [hs]; rfl⟩
  case h_2 f s hs =>
    refine ⟨some f, s, h, ?_⟩
    rw [hs]
    cases f <;> rfl

theorem run_keyboard :
    ∃ written, written <+: c.plan keys settings k ∧
      (c.run keys settings broken k).keyboard = k.writeAll c.kind written := by
  have ⟨_, s, hc, he⟩ := run_course keys settings broken k c
  have ⟨_, written, hd, hp, _⟩ := hc.did
  exact ⟨written, hp, by rw [he, keyboard_conclude, hd.keyboard]⟩

variable {keys settings broken k c} in
theorem run_of_write {plan : List Record} {reported : List Int}
    (h : c.decide keys settings k = .write plan reported) (ho : broken.Opens)
    (hc : broken.Commits (k.saveCall? c.kind).isSome plan) (hw : ∀ n ∈ reported, Numeral.isWritable n) :
    ∃ shown s, c.run keys settings broken k = conclude broken none s ∧ s.outcome.ok = true ∧
      s.Busy k c.kind (opening ++ commits k c.kind shown plan) plan (finalStage k c.kind plan)
        (finalWarnings k c.kind plan) := by
  have ⟨failure, s, hr, he⟩ := run_course keys settings broken k c
  obtain ⟨_, rfl, hok, shown, hb⟩ | ⟨⟨n, hn, hl⟩, _⟩ := hr.committed_of_write h ho hc
  case inl => exact ⟨shown, s, he, hok, hb⟩
  case inr => exact (hl (hw n hn)).elim

variable {keys settings broken k c} in
theorem run_of_write_overlong {plan : List Record} {reported : List Int}
    (h : c.decide keys settings k = .write plan reported) (ho : broken.Opens)
    (hc : broken.Commits (k.saveCall? c.kind).isSome plan) (hw : ∃ n ∈ reported, ¬Numeral.isWritable n) :
    (c.run keys settings broken k).result = .error .unwritableNumber ∧
      (c.run keys settings broken k).keyboard = k.writeAll c.kind plan := by
  have ⟨failure, s, hr, he⟩ := run_course keys settings broken k c
  obtain ⟨hn, _⟩ | ⟨_, rfl, hs⟩ := hr.committed_of_write h ho hc
  case inl =>
    obtain ⟨n, hm, hl⟩ := hw
    exact (hl (hn n hm)).elim
  case inr => exact ⟨by rw [he]; exact conclude_error_iff.mpr rfl, by rw [he, keyboard_conclude, hs]⟩

variable {keys settings broken k c} in
theorem write_of_ok {o : Outcome} (h : (c.run keys settings broken k).result = .ok o)
    (ho : o.ok = true) :
    ∃ plan reported, c.decide keys settings k = .write plan reported ∧
      (c.run keys settings broken k).keyboard = k.writeAll c.kind plan ∧
      o.committed = slotsOf plan := by
  have ⟨failure, s, hc, he⟩ := run_course keys settings broken k c
  rw [he] at h
  cases succeeded_of_conclude h ho
  have ⟨plan, reported, hd⟩ := hc.write_of_none
  have ⟨_, written, hs, _, hw⟩ := hc.did
  have hw : written = plan := by simpa [hd, Decision.plan] using hw
  subst hw
  refine ⟨written, reported, hd, ?_, ?_⟩
  case refine_1 => rw [he, keyboard_conclude, hs.keyboard]
  case refine_2 => rw [committed_of_conclude h, hs.committed]

def Overlong : Prop :=
  (c.decide keys settings k).Overlong broken (k.saveCall? c.kind).isSome

variable {keys settings broken k c} in
-- The number that is too long to report is that of a slot, or of all slots.
theorem number_of_overlong (h : c.Overlong keys settings broken k) :
    ∃ n ∈ c.numbers k, ¬Numeral.isWritable n := by
  rw [Overlong] at h
  cases hd : c.decide keys settings k <;> rw [hd] at h
  case unread => exact h.elim
  case refused f =>
    obtain ⟨_, rfl⟩ := h
    cases own_of_refused hd
    case unwritable n hm hw => exact ⟨n, hm, hw⟩
  case write plan reported =>
    obtain ⟨_, _, n, hn, hw⟩ := h
    obtain ⟨request, records, capacity, hq, _, hk, hp, rfl⟩ := decide_write hd
    have hc : capacity ∈ c.numbers k := by simp [numbers, hk]
    -- The number of a slot that is written is below the number of slots, so that this is too long as well.
    by_cases hl : ∃ r ∈ plan, (r.id : Int) = n
    case pos =>
      obtain ⟨r, hr, rfl⟩ := hl
      have hlt := (planned_of_asks (asks_of_request hq) hp).inRange r hr
      exact ⟨capacity, hc, fun hc => hw (Numeral.isWritable_of_le (by omega) (by omega) hc)⟩
    case neg =>
      have hs : n ∉ slotsOf plan := fun hm => hl (List.mem_map.mp hm)
      cases request
      case add  => cases hn
      case list => exact ⟨n, List.mem_singleton.mp hn ▸ hc, hw⟩
      case get  =>
        have hm : n ∈ c.slots := slots_of_asks (asks_of_request hq) hn
        exact ⟨n, by simp [numbers, hm], hw⟩
      all_goals exact (hs hn).elim

end Command

def Keyboard.topped (last : Nat) : Keyboard where
  counts := [(.keyMacro, some (last + 1))]
  stored := [(.keyMacro, [.keyMacro { id := last, actions := [.tap 4] }])]

namespace Command

theorem decide_delete_topped (last : Nat) :
    (delete .keyMacro [last]).decide KeyTable.blank {} (.topped last) =
      .write [.sentinel .keyMacro last] [last] := by
  have hq : (delete .keyMacro [last]).request KeyTable.blank {} = .ok (.clear [last]) := by
    simp [request, List.eraseDups_cons]
  have hf : (Slot.find? [.keyMacro { id := last, actions := [.tap 4] }] last).isSome :=
    Slot.find?_isSome_iff.mpr ⟨_, List.mem_singleton_self _, rfl⟩
  have hc : Slot.clear .keyMacro [.keyMacro { id := last, actions := [.tap 4] }] (last + 1) last =
      .ok _ :=
    Slot.clear_ok_iff.mpr ⟨Int.natCast_nonneg last, Int.lt_succ last, hf, rfl⟩
  have hp : (Request.clear [last]).plan .keyMacro [.keyMacro { id := last, actions := [.tap 4] }]
      (last + 1) = .ok [.sentinel .keyMacro last] := by
    simp [Request.plan, clearAll, hc, sentinels, Except.map]
  have hk : (Keyboard.topped last).Reports .keyMacro _ (last + 1) := ⟨rfl, rfl⟩
  rw [decide, hq]
  exact Request.decide_ok hk.records hk.count hp

-- The exception is real: the macro in the last slot is deleted, and if the number of this slot is too long
-- there is no outcome that tells of it.
theorem delete_topped {last : Nat} (h : ¬Numeral.isWritable last) :
    ((delete .keyMacro [last]).run KeyTable.blank {} {} (.topped last)).result =
        .error .unwritableNumber ∧
      ((delete .keyMacro [last]).run KeyTable.blank {} {} (.topped last)).keyboard.records? .keyMacro =
        some [.sentinel .keyMacro last] := by
  have ho : Breakdowns.Opens {} := ⟨rfl, rfl⟩
  have ⟨he, hk⟩ := run_of_write_overlong (decide_delete_topped last) ho
    ⟨fun _ _ => rfl, fun _ _ => rfl⟩ ⟨_, List.mem_singleton_self _, h⟩
  have hr : (Keyboard.topped last).records? .keyMacro =
      some [.keyMacro { id := last, actions := [.tap 4] }] := rfl
  have hw := Keyboard.records?_writeAll_self hr [.sentinel .keyMacro last]
  refine ⟨he, ?_⟩
  rw [hk, kind, hw]
  simp [Slot.putAll, Slot.put, Record.sentinel, Record.id]

end Command
end KeySlots
