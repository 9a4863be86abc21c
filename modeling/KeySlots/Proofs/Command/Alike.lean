import KeySlots.Proofs.Command.Clear
import KeySlots.Proofs.Command.Report
import KeySlots.Proofs.Session.Mirrors

namespace KeySlots

open Session
open scoped List

variable {κ : Type} [KeyCodec κ]

inductive Command.SameOutcome (c : Command) (o : Outcome) : Outcome → Prop
  | refl : SameOutcome c o o
  | listed {records} :
    c.verb = "list" → o.slotIds = slotsOf o.records → o.records ~ records →
    SameOutcome c o { o with records, slotIds := slotsOf records }

inductive Command.SameResult (c : Command) : Except Fault Outcome → Except Fault Outcome → Prop
  | error f : SameResult c (.error f) (.error f)
  | ok {o p} : c.SameOutcome o p → SameResult c (.ok o) (.ok p)

-- Commands that pass over empty records: they add or read a record, or delete some that are not empty.
def Command.PassesOver : Command → Prop
  | add _ _ | addKeyOverride _ | addCombo _ _ | addRecord _ _ => True
  | deleteAllDisabled | list _ | get _ _ => True
  | deleteMatching _ predicate _ => ∀ r, predicate r → r.isEmpty = false
  | edit _ _ _ | editDefinition _ _ _ | editKeyOverride _ _ | editCombo _ _ => False
  | delete _ _ | deleteAllEmpty _ => False

variable {keys : κ} {settings : Settings} {broken : Breakdowns} {k l : Keyboard} {c : Command}
  {kind : Kind} {record r : Record} {records more : List Record} {capacity : Int} {ids : List Int}
  {s t : Session} {id : Nat}

theorem matching_eq_of_perm {predicate : Record → Bool}
    (h : records.filter predicate ~ more.filter predicate) :
    matching predicate records = matching predicate more := by
  have hp : matching predicate records ~ matching predicate more :=
    (List.mergeSort_perm _ _).trans ((h.map _).trans (List.mergeSort_perm _ _).symm)
  exact hp.eq_of_pairwise (fun a b _ _ hab hba => by omega) (pairwise_mergeSort _) (pairwise_mergeSort _)

namespace Command

structure Parallel (c : Command) (s t : Session) : Prop where
  keyboard : s.keyboard.Alike t.keyboard
  outcome  : c.SameOutcome s.outcome t.outcome

theorem parallel_of_mirrors (h : Mirrors s t) : c.Parallel s t :=
  ⟨h.keyboard, h.outcome ▸ .refl⟩

theorem SameOutcome.map {o p : Outcome} (g : Outcome → Outcome) (h : c.SameOutcome o p)
    (hg : ∀ o records slotIds, g { o with records, slotIds } = { g o with records, slotIds }) :
    c.SameOutcome (g o) (g p) := by
  cases h
  case refl => exact .refl
  case listed records hl hc hp =>
    have ho := hg o o.records o.slotIds
    have hr : (g o).records = o.records := (congrArg Outcome.records ho :)
    have hi : (g o).slotIds = o.slotIds := (congrArg Outcome.slotIds ho :)
    rw [hg o records]
    exact .listed hl (by rw [hr, hi, hc]) (by rwa [hr])

theorem SameOutcome.fail {o p : Outcome} (h : c.SameOutcome o p) (refusal : Refusal) :
    c.SameOutcome (o.fail refusal) (p.fail refusal) :=
  h.map (·.fail refusal) fun _ _ _ => by cases refusal <;> rfl

theorem Parallel.succeed (h : c.Parallel s t) (numbers : List Int) (message : String) :
    Agree (succeed numbers message) (succeed numbers message) s t (fun _ _ => c.Parallel) c.Parallel := by
  rw [Session.succeed]
  split
  case isTrue =>
    exact agree_report.mpr ⟨h.keyboard, h.outcome.map ({ · with ok := true, message }) fun _ _ _ => rfl⟩
  case isFalse => exact (agree_throw _).mpr h

theorem Parallel.result (h : c.Parallel s t) (failure : Option Failure) :
    c.SameResult (conclude broken failure s).result (conclude broken failure t).result := by
  have hc {o p : Outcome} (h : c.SameOutcome o p) :
      c.SameResult (close broken (.ok o) s).result (close broken (.ok p) t).result := by
    cases hb : broken.close
    case none      => simpa [close, hb, Except.map] using .ok h
    case some text => simpa [close, hb, Except.map] using .ok (h.fail _)
  cases failure
  case none => exact hc h.outcome
  case some f =>
    cases f
    case refused refusal => exact hc (h.outcome.fail refusal)
    case faulted fault   => exact .error fault

theorem addStep_agree (record : Record) (h : Mirrors s t) :
    Agree (addStep broken kind record) (addStep broken kind record) s t (fun _ _ => Mirrors) Mirrors := by
  rw [addStep]
  split
  case isTrue => exact agree_bind <| (agree_throw _).mpr h
  case isFalse =>
    refine h.load.bind fun a b s t h => ?_
    obtain ⟨ha, hl, hr⟩ := h.alike
    dsimp only
    rw [← h.count, ← ha.firstEmpty hl.distinct hr.distinct]
    refine agree_bind <| agree_attempt.mpr ⟨fun id hid => ?_, fun _ _ => h.toMirrors⟩
    have hlt := (Slot.firstEmpty_ok hid).left
    obtain ⟨out, ho⟩ := Slot.allocate_of_lt kind a.1 record hlt
    obtain ⟨out', ho'⟩ := Slot.allocate_of_lt kind b.1 record hlt
    rw [ho, ho']
    refine agree_bind <| (agree_pure out out').mpr ?_
    refine (h.on.report _).bind fun _ _ s t h => ?_
    refine (h.push (Slot.allocate_ok ho).right (Slot.allocate_ok ho').right hlt).bind fun _ _ s t h => ?_
    exact h.save.bind fun _ _ s t h => h.succeed _ _

theorem pushCleared_agree (h : MirrorsOn kind capacity s t)
    (hr : ∀ id ∈ ids, Slot.objection? kind records capacity id = none)
    (hm : ∀ id ∈ ids, Slot.objection? kind more capacity id = none) :
    Agree (pushCleared broken kind capacity records ids) (pushCleared broken kind capacity more ids) s t
      (fun _ _ => Mirrors) Mirrors := by
  induction ids generalizing records more s t
  case nil => exact (agree_pure () ()).mpr h.toMirrors
  case cons id ids hi =>
    obtain ⟨out, hc, hs⟩ := Slot.exists_clear hr
    obtain ⟨out', hc', hs'⟩ := Slot.exists_clear hm
    have ⟨h₀, hl, _⟩ := Slot.objection?_eq_none_iff.mp (hr id List.mem_cons_self)
    rw [pushCleared, pushCleared, hc, hc']
    refine agree_bind <| (agree_pure out out').mpr ?_
    have hlt : (id.toNat : Int) < capacity := by omega
    exact (h.push (Slot.find?_of_clear hc) (Slot.find?_of_clear hc') hlt).bind fun _ _ s t h => hi h hs hs'

theorem clearStep_agree (nothing : String) (h : MirrorsOn kind capacity s t)
    (hr : ∀ id ∈ ids, Slot.objection? kind records capacity id = none)
    (hm : ∀ id ∈ ids, Slot.objection? kind more capacity id = none) :
    Agree (clearStep broken kind records capacity ids nothing)
      (clearStep broken kind more capacity ids nothing) s t (fun _ _ => Mirrors) Mirrors := by
  rw [clearStep, clearStep, clearAll_eq, clearAll_eq, List.findSome?_eq_none_iff.mpr hr,
    List.findSome?_eq_none_iff.mpr hm]
  refine (h.report _).bind fun _ _ s t h => ?_
  split
  case isTrue => exact h.succeed _ _
  case isFalse =>
    refine agree_bind <| (agree_pure _ _).mpr ?_
    refine (pushCleared_agree h hr hm).bind fun _ _ s t h => h.save.bind fun _ _ s t h => ?_
    split
    case isTrue  => exact (h.report _).bind fun _ _ s t h => h.succeed _ _
    case isFalse => exact h.succeed _ _

theorem deleteWhere_agree {predicate : Record → Bool} (hp : ∀ r, predicate r → r.isEmpty = false)
    (description : String) (h : Mirrors s t) :
    Agree (deleteWhere broken kind predicate description) (deleteWhere broken kind predicate description)
      s t (fun _ _ => Mirrors) Mirrors := by
  refine h.load.bind fun a b s t h => ?_
  have ⟨ha, hl, hr⟩ := h.alike
  have hm : matching predicate a.1 = matching predicate b.1 :=
    matching_eq_of_perm (ha.filter_perm hl.distinct hr.distinct hp)
  have hob : ∀ id ∈ matching predicate a.1, Slot.objection? kind a.1 a.2 id = none :=
    Slot.objection?_of_matching hl
  have hob' : ∀ id ∈ matching predicate b.1, Slot.objection? kind b.1 a.2 id = none :=
    Slot.objection?_of_matching hr
  dsimp only
  rw [← h.count]
  change Agree (clearStep broken kind a.1 a.2 (matching predicate a.1) _)
    (clearStep broken kind b.1 a.2 (matching predicate b.1) _) s t _ _
  rw [← hm] at hob' ⊢
  exact clearStep_agree _ h.on hob hob'

theorem reading_eq (g : Record → Step Unit) (records : List Record) (capacity id : Int) :
    (do
      let record ← attempt (Slot.lookup kind records capacity id)
      if record.isEmpty then attempt (refuse (.notFound kind id))
      g record) =
    (do
      let _ ← attempt (Slot.checkRange kind id capacity)
      match Slot.occupant? records id with
      | some record => g record
      | none => attempt (refuse (.notFound kind id))) := by
  rw [Slot.lookup, Slot.occupant?]
  cases Slot.checkRange kind id capacity
  case error f => rfl
  case ok slot =>
    cases Slot.find? records id
    case none => rfl
    case some r =>
      change (attempt (.ok r) >>= _) = (attempt (.ok slot) >>= _)
      simp only [attempt, pure_bind]
      cases h : r.isEmpty <;> simp [Option.filter, h, refuse]
      rfl

theorem get_agree (id : Int) (h : Mirrors s t) :
    Agree ((get kind id).steps keys settings broken) ((get kind id).steps keys settings broken) s t
      (fun _ _ => Mirrors) Mirrors := by
  refine (h.report _).bind fun _ _ s t h => h.load.bind fun a b s t h => ?_
  have ⟨ha, hl, hr⟩ := h.alike
  dsimp only
  rw [reading_eq, reading_eq, ← h.count, ← ha.occupant? hl.distinct hr.distinct]
  refine agree_bind <| agree_attempt.mpr ⟨fun slot _ => ?_, fun _ _ => h.toMirrors⟩
  cases Slot.occupant? a.1 id
  case none   => exact agree_attempt.mpr ⟨nofun, fun _ _ => h.toMirrors⟩
  case some r => exact (h.on.report _).bind fun _ _ s t h => h.succeed _ _

theorem list_agree (h : Mirrors s t) :
    Agree ((list kind).steps keys settings broken) ((list kind).steps keys settings broken) s t
      (fun _ _ => (list kind).Parallel) (list kind).Parallel := by
  refine (h.load.mono (fun _ _ _ _ h => h) fun _ _ => parallel_of_mirrors).bind fun a b s t h => ?_
  have ⟨ha, hl, hr⟩ := h.alike
  have hp : a.1.filter (!·.isEmpty) ~ b.1.filter (!·.isEmpty) :=
    ha.filter_perm hl.distinct hr.distinct (by simp)
  dsimp only
  rw [← h.count, ← hp.length_eq]
  refine agree_bind <| agree_report.mpr <| Parallel.succeed ?_ _ _
  refine ⟨h.keyboard, ?_⟩
  rw [← h.outcome]
  exact .listed rfl rfl hp

theorem steps_agree (keys : κ) (settings : Settings) (broken : Breakdowns) (hc : c.PassesOver)
    (h : Mirrors s t) :
    Agree (c.steps keys settings broken) (c.steps keys settings broken) s t (fun _ _ => c.Parallel)
      c.Parallel := by
  have hm {x : Step Unit} (hx : Agree x x s t (fun _ _ => Mirrors) Mirrors) :
      Agree x x s t (fun _ _ => c.Parallel) c.Parallel :=
    hx.mono (fun _ _ _ _ => parallel_of_mirrors) fun _ _ => parallel_of_mirrors
  have ha {α : Type} (x : Except Failure α) (g : α → Record) :
      Agree (do addStep broken c.kind (g (← attempt x))) (do addStep broken c.kind (g (← attempt x))) s t
        (fun _ _ => Mirrors) Mirrors :=
    agree_bind <| agree_attempt.mpr ⟨fun a _ => addStep_agree (g a) h, fun _ _ => h⟩
  cases c
  case add | addKeyOverride | addCombo => exact hm (ha _ _)
  case addRecord r                     => exact hm (addStep_agree r h)
  case deleteMatching description      => exact hm (deleteWhere_agree hc description h)
  case get id                          => exact hm (get_agree id h)
  case list                            => exact list_agree h
  case deleteAllDisabled =>
    refine hm (deleteWhere_agree (fun r hr => ?_) _ h)
    cases r <;> simp [Record.isDisabled] at hr
    exact hr.left
  all_goals exact hc.elim

theorem run_alike (keys : κ) (settings : Settings) (broken : Breakdowns) (hc : c.PassesOver)
    (h : k.Alike l) :
    c.SameResult (c.run keys settings broken k).result (c.run keys settings broken l).result ∧
      (c.run keys settings broken k).keyboard.Alike (c.run keys settings broken l).keyboard := by
  obtain ⟨failure, s, t, hk, hl, hs⟩ := run_of_agree (steps_agree keys settings broken hc ⟨h, rfl⟩)
  rw [hk, hl]
  exact ⟨hs.result failure, by simpa using hs.keyboard⟩

-- Whatever such commands are run on both keyboards, and whichever calls fail, every command comes to the
-- same on both and leaves them alike.
theorem runs_alike {turns : List (Breakdowns × Command)} (h : k.Alike l)
    (ht : ∀ turn ∈ turns, turn.2.PassesOver) (hc : c.PassesOver) :
    c.SameResult (c.run keys settings broken (k.after keys settings turns)).result
        (c.run keys settings broken (l.after keys settings turns)).result ∧
      (c.run keys settings broken (k.after keys settings turns)).keyboard.Alike
        (c.run keys settings broken (l.after keys settings turns)).keyboard := by
  induction turns generalizing k l
  case nil => exact run_alike keys settings broken hc h
  case cons turn turns hi =>
    have ⟨hp, ht⟩ := List.forall_mem_cons.mp ht
    exact hi (run_alike keys settings turn.1 hp h).right ht

end Command

namespace Keyboard

def sparse : Keyboard where
  counts := [(.keyMacro, some 3)]
  stored := [(.keyMacro,
    [.keyMacro { id := 2, actions := [.tap 4] }, .keyMacro { actions := [.tap 5] }])]

def padded : Keyboard where
  counts := [(.keyMacro, some 3)]
  stored := [(.keyMacro,
    [.keyMacro { actions := [.tap 5] }, .keyMacro { id := 1 },
      .keyMacro { id := 2, actions := [.tap 4] }])]

theorem sparse_alike_padded : sparse.Alike padded where
  sound := by
    constructor
    all_goals
      rintro kind records capacity ⟨hr, hc⟩
      cases kind <;> cases hr
      cases hc
      constructor <;> simp [Record.id]
  capabilities := rfl
  count _      := rfl
  records kind := by
    cases kind
    case keyMacro =>
      refine .some fun r he => ?_
      simp only [List.mem_cons, List.not_mem_nil, or_false]
      grind [Record.isEmpty]
    all_goals exact .none

end Keyboard

theorem Command.runs_alike_padded :
    (list .keyMacro).SameResult
        ((list .keyMacro).run KeyTable.blank {} {} (Keyboard.sparse.after KeyTable.blank {}
          [({}, addRecord .keyMacro (.keyMacro { actions := [.tap 6] }))])).result
        ((list .keyMacro).run KeyTable.blank {} {} (Keyboard.padded.after KeyTable.blank {}
          [({}, addRecord .keyMacro (.keyMacro { actions := [.tap 6] }))])).result := by
  have hc : (list .keyMacro).PassesOver := trivial
  exact (runs_alike Keyboard.sparse_alike_padded (by simp [PassesOver]) hc).left

end KeySlots
