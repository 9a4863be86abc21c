import KeySlots.Proofs.Command.Add
import KeySlots.Proofs.Command.Outcome
import KeySlots.Proofs.Session.Lockstep

namespace KeySlots

open Session

namespace Session

variable {broken : Breakdowns} {k : Keyboard} {kind : Kind} {records : List Record} {capacity : Int}
  {s : Session} {E : Failure → Session → Prop}

-- The steps leave the slot as it is that the outcome is about.
def LeavesSlot (x : Step Unit) : Prop :=
  ∀ slot s, s.outcome.slotId = slot → Ensures x s (fun _ s => s.outcome.slotId = slot) (fun _ _ => True)

theorem LeavesSlot.bind {x : Step Unit} {g : Unit → Step Unit} (hx : LeavesSlot x)
    (hg : LeavesSlot (g ())) : LeavesSlot (x >>= g) := by
  intro slot s h
  rw [ensures_bind]
  exact (hx slot s h).mono (fun _ s hs => hg slot s hs) fun _ _ _ => trivial

theorem leavesSlot_call (name : Call) (error : Option String) : LeavesSlot (call name error) := by
  intro slot s h
  cases error <;> simp [call, h]

theorem leavesSlot_advance (stage : Stage) : LeavesSlot (advance stage) := by
  intro slot s h
  simpa using h

theorem leavesSlot_push (id : Nat) (records : List Record) :
    LeavesSlot (push broken kind id records) := by
  refine (leavesSlot_advance _).bind <| (leavesSlot_call _ _).bind ?_
  intro slot s h
  dsimp only
  split <;> simp [h]

theorem leavesSlot_save : LeavesSlot (save broken kind) := by
  intro slot s h
  rw [save, ensures_bind, ensures_get]
  dsimp only
  split
  case isTrue => exact (leavesSlot_call _ _).bind (leavesSlot_advance _) slot s h
  case isFalse =>
    split
    case isTrue => exact (leavesSlot_call _ _).bind (leavesSlot_advance _) slot s h
    case isFalse => simpa using h

theorem leavesSlot_succeed (numbers : List Int) (message : String) :
    LeavesSlot (succeed numbers message) := by
  intro slot s h
  rw [succeed]
  split <;> simp [h]

theorem ensures_load {Q : List Record × Int → Session → Prop} (h : s.keyboard = k)
    (hk : k.Reports kind records capacity) :
    Ensures (load {} kind) s Q E ↔
      Q (records, capacity) { s with
        calls   := s.calls ++ opening
        outcome := { s.outcome with capacity := some capacity, stage := .loaded } } := by
  subst h
  simp only [load, call, ensures_bind, ensures_modify, ensures_get, ensures_pure, hk.records, hk.count,
    ensures_report, List.append_assoc]
  rfl

end Session

def Outcome.TakesFirst (k : Keyboard) (kind : Kind) (o : Outcome) : Prop :=
  ∃ records capacity id, k.Reports kind records capacity ∧
    Slot.firstEmpty kind records capacity = .ok id ∧ o.slotId = some (id : Int)

namespace Command

variable {κ : Type} [KeyCodec κ] {keys : κ} {settings : Settings} {broken : Breakdowns}
  {k : Keyboard} {c : Command}
  {kind : Kind} {records : List Record} {record r : Record} {capacity id : Int} {o : Outcome}
  {Q : Outcome → Prop} {E : Failure → Session → Prop}

abbrev start (k : Keyboard) (c : Command) : Session where
  keyboard := k
  outcome  := .start c.verb c.kind

theorem run_of_ensures {P : Session → Prop}
    (h : Ensures (c.steps keys settings broken) (c.start k) (fun _ s => P s) E) :
    ∃ failure s, c.run keys settings broken k = conclude broken failure s ∧
      (failure = none → P s) ∧ ∀ f, failure = some f → E f s := by
  simp only [Ensures] at h
  simp only [run, Session.run]
  split at h
  case h_1 s hs => exact ⟨none, s, by rw [hs]; rfl, fun _ => h, by simp⟩
  case h_2 f s hs =>
    refine ⟨some f, s, ?_, by simp, fun _ he => Option.some.inj he ▸ h⟩
    rw [hs]
    cases f <;> rfl

theorem run_of_agree {l : Keyboard} {P : Session → Session → Prop}
    (h : Agree (c.steps keys settings broken) (c.steps keys settings broken) (c.start k) (c.start l)
      (fun _ _ => P) P) :
    ∃ failure s t, c.run keys settings broken k = conclude broken failure s ∧
      c.run keys settings broken l = conclude broken failure t ∧ P s t := by
  simp only [Agree] at h
  simp only [run, Session.run]
  split at h
  case h_1 _ s _ t hs ht => exact ⟨none, s, t, by rw [hs]; rfl, by rw [ht]; rfl, h⟩
  case h_2 f s g t hs ht =>
    obtain ⟨rfl, h⟩ := h
    refine ⟨some f, s, t, ?_, ?_, h⟩
    case refine_1 => rw [hs]; cases f <;> rfl
    case refine_2 => rw [ht]; cases f <;> rfl
  case h_3 => exact h.elim

theorem outcome_of_ensures
    (hs : Ensures (c.steps keys settings broken) (c.start k) (fun _ s => Q s.outcome) E)
    (h : (c.run keys settings broken k).result = .ok o) (ho : o.ok = true) : Q o := by
  have ⟨failure, s, he, hq, _⟩ := run_of_ensures hs
  rw [he] at h
  cases succeeded_of_conclude h ho
  obtain ⟨_, _, rfl⟩ | ⟨_, _, rfl, _⟩ := outcome_of_conclude h
  · exact hq rfl
  · simp [ok_fail] at ho

theorem result_of_ensures
    (hs : Ensures (c.steps keys settings {}) (c.start k) (fun _ s => s.outcome = o) fun _ _ => False) :
    (c.run keys settings {} k).result = .ok o := by
  have ⟨failure, s, he, ho, hf⟩ := run_of_ensures hs
  cases failure
  case none   => rw [he, ← ho rfl]; rfl
  case some f => exact (hf f rfl).elim

theorem addStep_takesFirst {s : Session} (h : s.Begun k kind) :
    Ensures (addStep broken kind record) s (fun _ s => s.outcome.TakesFirst k kind)
      fun _ _ => True := by
  rw [addStep]
  split
  case isTrue => simp
  case isFalse =>
    have hd : ∀ f, Request.list.decide k kind ≠ .unread f := fun _ => Request.decide_ne_unread
    rw [ensures_bind]
    refine (h.load hd Request.decide_not_reported).mono (fun loaded s hl => ?_) fun _ _ _ => trivial
    rw [ensures_bind, ensures_attempt]
    refine ⟨fun id hid => ?_, fun _ _ => trivial⟩
    rw [ensures_bind, ensures_attempt]
    refine ⟨fun out _ => ?_, fun _ _ => trivial⟩
    rw [ensures_bind, ensures_report]
    refine ((leavesSlot_push id out).bind (leavesSlot_save.bind (leavesSlot_succeed _ _))
      (some (id : Int)) _ rfl).mono (fun _ s hs => ?_) fun _ _ _ => trivial
    exact ⟨_, _, id, ⟨hl.records, hl.count⟩, hid, hs⟩

theorem run_get (hk : k.Reports kind records capacity)
    (hl : Slot.lookup kind records capacity id = .ok r) (he : r.isEmpty = false)
    (hw : Numeral.isWritable id) :
    ((get kind id).run keys settings {} k).result = .ok {
      ok := true, command := "get", kind, stage := .loaded, slotId := some id, slotIds := [id],
      capacity := some capacity, records := [r],
      message := kind.label ++ " " ++ Numeral.decimalText id ++ " found." } := by
  refine result_of_ensures ?_
  rw [steps, ensures_bind, ensures_report, ensures_bind, ensures_load rfl hk]
  simp [hl, he, hw, attempt, succeed, Outcome.start, verb, Command.kind]

theorem run_list (hk : k.Reports kind records capacity) (hw : Numeral.isWritable capacity) :
    ((list kind).run keys settings {} k).result = .ok {
      ok := true, command := "list", kind, stage := .loaded, capacity := some capacity,
      slotIds := slotsOf (records.filter (!·.isEmpty)), records := records.filter (!·.isEmpty),
      message := "Found " ++ Numeral.decimalText (records.filter (!·.isEmpty)).length ++
        s!" active {kind.lowerLabel}(s) (total slots: " ++ Numeral.decimalText capacity ++ ")." } := by
  refine result_of_ensures ?_
  rw [steps, ensures_bind, ensures_load rfl hk]
  simp [hw, succeed, Outcome.start, verb, Command.kind]

theorem takesFirst_of_add (hc : c.verb = "add") (h : (c.run keys settings broken k).result = .ok o)
    (ho : o.ok = true) : o.TakesFirst k c.kind := by
  have hb : (c.start k).Begun k c.kind := ⟨⟨rfl, rfl, rfl⟩, rfl, rfl, rfl⟩
  have hs : Ensures (c.steps keys settings broken) (c.start k)
      (fun _ s => s.outcome.TakesFirst k c.kind) fun _ _ => True := by
    cases c
    case add | addKeyOverride | addCombo =>
      rw [steps, ensures_bind, ensures_attempt]
      exact ⟨fun _ _ => addStep_takesFirst hb, fun _ _ => trivial⟩
    case addRecord => exact addStep_takesFirst hb
    all_goals simp [verb] at hc
  exact outcome_of_ensures hs h ho

theorem write_of_add (hc : c.verb = "add") (h : (c.run keys settings broken k).result = .ok o)
    (ho : o.ok = true) :
    ∃ record records capacity, ∃ slot : Nat, c.request keys settings = .ok (.add record) ∧
      k.Reports c.kind records capacity ∧ Slot.firstEmpty c.kind records capacity = .ok slot ∧
      o.slotId = some (slot : Int) ∧
      (c.run keys settings broken k).keyboard = k.write c.kind (record.withId slot) := by
  have ⟨plan, _, hd, hk, _⟩ := write_of_ok h ho
  have ⟨request, records, capacity, hq, hr, hn, hp, _⟩ := decide_write hd
  obtain ⟨record, rfl, _⟩ := asks_add hc (asks_of_request hq)
  have ⟨slot, hf, hw⟩ := Request.plan_add hp
  have ⟨_, _, slot', hk', hf', hs⟩ := takesFirst_of_add hc h ho
  cases hr.symm.trans hk'.records
  cases hn.symm.trans hk'.count
  cases hf.symm.trans hf'
  subst hw
  exact ⟨record, records, capacity, slot, hq, ⟨hr, hn⟩, hf, hs, hk⟩

theorem run_add {slot : Nat} (hq : c.request keys settings = .ok (.add record))
    (hk : k.Reports c.kind records capacity) (hf : Slot.firstEmpty c.kind records capacity = .ok slot) :
    ∃ o, (c.run keys settings {} k).result = .ok o ∧ o.ok = true ∧ o.slotId = some (slot : Int) ∧
      (c.run keys settings {} k).keyboard.records? c.kind =
        some (Slot.put (record.withId slot) records) := by
  have hp : (Request.add record).plan c.kind records capacity = .ok [record.withId slot] := by
    rw [Request.plan, hf]
    rfl
  have hd : c.decide keys settings k = .write [record.withId slot] [] := by
    rw [decide, hq]
    exact Request.decide_ok hk.records hk.count hp
  obtain ⟨o, hr, ho, he⟩ := ok_of_write hd
  obtain ⟨_, _, id, hk', hf', hs⟩ := takesFirst_of_add (verb_of_add hq) hr ho
  cases hk.records.symm.trans hk'.records
  cases hk.count.symm.trans hk'.count
  cases hf.symm.trans hf'
  exact ⟨o, hr, ho, hs, by rw [he]; exact Keyboard.records?_write_self hk.records _⟩

theorem run_vacant (hq : c.request keys settings = .ok (.add record)) :
    ∃ o, (c.run keys settings {} (.vacant c.kind)).result = .ok o ∧ o.ok = true ∧ o.slotId = some 0 ∧
      (c.run keys settings {} (.vacant c.kind)).keyboard.Reports c.kind [record.withId 0] 1 := by
  have hk := Keyboard.reports_vacant c.kind
  have hf : Slot.firstEmpty c.kind [] 1 = .ok 0 := rfl
  have ⟨o, h, ho, hs, hr⟩ := run_add hq hk hf
  exact ⟨o, h, ho, hs, hr, (count?_run ..).trans hk.count⟩

end Command
end KeySlots
