import KeySlots.Command.Basic
import KeySlots.Proofs.Definition.Failure
import KeySlots.Proofs.Session.Course
import KeySlots.Proofs.Slot.Failure

namespace KeySlots

open Session
open Failure (Own Local)

def KeyTable.blank : KeyTable := ofNames []

variable {κ : Type} [KeyCodec κ]

inductive Request where
  | add (record : Record)
  | edit (id : Int) (patch : Slot.Patch)
  | clear (ids : List Int)
  | clearWhere (predicate : Record → Bool)
  | list
  | get (id : Int)

def sentinels (kind : Kind) (ids : List Int) : List Record :=
  ids.map fun id => .sentinel kind id.toNat

abbrev slotsOf (records : List Record) : List Int :=
  records.map fun r => (r.id : Int)

def matching (predicate : Record → Bool) (records : List Record) : List Int :=
  (slotsOf (records.filter predicate)).mergeSort (· ≤ ·)

namespace Request

def plan (kind : Kind) (records : List Record) (capacity : Int) :
    Request → Except Failure (List Record)
  | add record => (Slot.firstEmpty kind records capacity).map fun id => [record.withId id]
  | edit id patch => do
    let r ← Slot.lookup kind records capacity id
    let patched ← Slot.merge r patch
    .ok [patched]
  | clear ids => (Command.clearAll kind records capacity ids).map fun _ => sentinels kind ids
  | clearWhere predicate =>
    let ids := matching predicate records
    (Command.clearAll kind records capacity ids).map fun _ => sentinels kind ids
  | list => .ok []
  | get id => do
    let r ← Slot.lookup kind records capacity id
    if r.isEmpty then refuse (.notFound kind id) else .ok []

def reported (capacity : Int) (plan : List Record) : Request → List Int
  | edit _ _ | clear _ | clearWhere _ => slotsOf plan
  | list => [capacity]
  | get id => [id]
  | add _ => []

-- The decision on a request for a keyboard.
def decide (k : Keyboard) (kind : Kind) (request : Request) : Decision :=
  match k.records? kind, k.count? kind with
  | some records, some capacity =>
    match request.plan kind records capacity with
    | .ok plan => .write plan (request.reported capacity plan)
    | .error f => .refused f
  | records, count => .refused (Refusal.notPopulated kind (missingFields kind count records)).failure

def decided (k : Keyboard) (kind : Kind) : Except Failure Request → Decision
  | .ok request => request.decide k kind
  | .error f => .unread f

variable {k : Keyboard} {kind : Kind} {request : Request} {records plan : List Record}
  {capacity : Int} {f : Failure}

theorem decide_not_reported (h : k.records? kind = none ∨ k.count? kind = none) :
    request.decide k kind = .refused (Refusal.notPopulated kind
      (missingFields kind (k.count? kind) (k.records? kind))).failure := by
  rw [decide]
  split
  case h_1 hr hc => simp [hr, hc] at h
  case h_2 => rfl

theorem decide_ok (hr : k.records? kind = some records) (hc : k.count? kind = some capacity)
    (h : request.plan kind records capacity = .ok plan) :
    request.decide k kind = .write plan (request.reported capacity plan) := by
  simp [decide, hr, hc, h]

theorem decide_error (hr : k.records? kind = some records) (hc : k.count? kind = some capacity)
    (h : request.plan kind records capacity = .error f) : request.decide k kind = .refused f := by
  simp [decide, hr, hc, h]

theorem decide_cases (k : Keyboard) (kind : Kind) (request : Request) :
    ((k.records? kind = none ∨ k.count? kind = none) ∧
      request.decide k kind = .refused (Refusal.notPopulated kind
        (missingFields kind (k.count? kind) (k.records? kind))).failure) ∨
    ∃ records capacity, k.records? kind = some records ∧ k.count? kind = some capacity ∧
      ((∃ f, request.plan kind records capacity = .error f ∧ request.decide k kind = .refused f) ∨
        ∃ plan, request.plan kind records capacity = .ok plan ∧
          request.decide k kind = .write plan (request.reported capacity plan)) := by
  cases hr : k.records? kind
  case none => exact .inl ⟨.inl rfl, hr ▸ decide_not_reported (.inl hr)⟩
  case some records =>
    cases hc : k.count? kind
    case none => exact .inl ⟨.inr rfl, hr ▸ hc ▸ decide_not_reported (.inr hc)⟩
    case some capacity =>
      refine .inr ⟨records, capacity, rfl, rfl, ?_⟩
      cases hp : request.plan kind records capacity
      case error f => exact .inl ⟨f, rfl, decide_error hr hc hp⟩
      case ok plan => exact .inr ⟨plan, rfl, decide_ok hr hc hp⟩

theorem decide_ne_unread : request.decide k kind ≠ .unread f := by
  obtain ⟨_, h⟩ | ⟨_, _, _, _, ⟨_, _, h⟩ | ⟨_, _, h⟩⟩ := decide_cases k kind request <;> simp [h]

theorem plan_clearWhere (predicate : Record → Bool) :
    (clearWhere predicate).plan kind records capacity =
      (clear (matching predicate records)).plan kind records capacity :=
  rfl

theorem decide_clearWhere (hr : k.records? kind = some records) (predicate : Record → Bool) :
    (clearWhere predicate).decide k kind = (clear (matching predicate records)).decide k kind := by
  simp only [decide, hr]
  cases k.count? kind <;> rfl

theorem plan_add {record : Record} (h : (add record).plan kind records capacity = .ok plan) :
    ∃ id, Slot.firstEmpty kind records capacity = .ok id ∧ plan = [record.withId id] := by
  have ⟨id, hid, he⟩ := map_ok_iff.mp h
  exact ⟨id, hid, he.symm⟩

theorem plan_edit {id : Int} {patch : Slot.Patch}
    (h : (edit id patch).plan kind records capacity = .ok plan) :
    ∃ r patched, Slot.lookup kind records capacity id = .ok r ∧ Slot.merge r patch = .ok patched ∧
      plan = [patched] := by
  have ⟨r, hr, h⟩ := bind_ok_iff.mp h
  have ⟨patched, hp, he⟩ := bind_ok_iff.mp h
  cases he
  exact ⟨r, patched, hr, hp, rfl⟩

theorem plan_clear {ids : List Int} (h : (clear ids).plan kind records capacity = .ok plan) :
    (∃ out, Command.clearAll kind records capacity ids = .ok out) ∧ plan = sentinels kind ids := by
  have ⟨out, ho, he⟩ := map_ok_iff.mp h
  exact ⟨⟨out, ho⟩, he.symm⟩

theorem plan_get {id : Int} (h : (get id).plan kind records capacity = .ok plan) : plan = [] := by
  have ⟨r, _, h⟩ := bind_ok_iff.mp h
  split at h
  case isTrue  => simp [refuse] at h
  case isFalse => simpa [eq_comm] using h

def slots : Request → List Int
  | edit id _ | get id => [id]
  | clear ids => ids
  | _ => []

variable {numbers : List Int}

theorem plan_failsOnly (hs : request.slots ⊆ numbers)
    (hr : (∃ predicate, request = clearWhere predicate) → slotsOf records ⊆ numbers)
    (hc : capacity ∈ numbers) :
    FailsOnly (Own numbers) (request.plan kind records capacity) := by
  cases request
  case add record => exact (Slot.firstEmpty_failsOnly hc).map _
  case edit id patch =>
    refine (Slot.lookup_failsOnly (hs (by simp [slots])) hc).bind fun r _ => ?_
    exact (Slot.merge_failsOnly r patch).bind fun _ _ => failsOnly_ok _
  case clear ids => exact (Command.clearAll_failsOnly hs hc).map _
  case clearWhere predicate =>
    refine (Command.clearAll_failsOnly (fun id hi => hr ⟨predicate, rfl⟩ ?_) hc).map _
    have ⟨r, hr, he⟩ := List.mem_map.mp (List.mem_mergeSort.mp hi)
    exact List.mem_map.mpr ⟨r, (List.mem_filter.mp hr).left, he⟩
  case list => exact failsOnly_ok _
  case get id =>
    have hi : id ∈ numbers := hs (by simp [slots])
    refine (Slot.lookup_failsOnly hi hc).bind fun r _ => ?_
    split
    case isTrue =>
      refine failsOnly_refuse.mpr <| Refusal.failure_own nofun fun n hn hw => ⟨id, hi, ?_⟩
      exact List.mem_singleton.mp hn ▸ hw
    case isFalse => exact failsOnly_ok _

end Request

namespace Command

def editRequest (kind : Kind) (id : Int) (patch : Slot.Patch) : Except Failure Request := do
  Slot.checkPatch kind id patch
  .ok (.edit id patch)

def editSomeRequest (kind : Kind) (id : Int) (patch : Slot.Patch) : Except Failure Request :=
  if patch.isEmpty then refuseDefinition .noChange else editRequest kind id patch

-- What a command asks for, if its arguments are accepted.
def request (keys : κ) (settings : Settings) : Command → Except Failure Request
  | add kind definition => (Definition.readRecord keys settings.context kind definition).map .add
  | addKeyOverride request =>
    (Definition.readKeyOverride keys (request.definition settings)).map (.add ∘ .keyOverride)
  | addCombo definition term =>
    (Definition.readCombo keys definition (.int settings.maxTriggers)
      (term.getD (.int settings.comboTerm))).map (.add ∘ .combo)
  | addRecord kind record =>
    if record.kind = kind then .ok (.add record) else fault (.wrongKind kind record.kind)
  | edit kind id patch => editSomeRequest kind id patch
  | editDefinition kind id definition =>
    if kind = .keyOverride then
      fault .overrideRedefinition
    else do
      let record ← Definition.readRecord keys { settings.context with comboTerm := .int 50 } kind
        definition
      editRequest kind id (redefinition record)
  | editKeyOverride id change => do
    let patch ← change.patch keys
    editSomeRequest .keyOverride id patch
  | editCombo id change => do
    let patch ← change.patch keys settings
    editSomeRequest .combo id patch
  | delete _ ids =>
    let ids := ids.eraseDups.mergeSort (· ≤ ·)
    if ids.isEmpty then refuseDefinition .noSlot else .ok (.clear ids)
  | deleteMatching _ predicate _ => .ok (.clearWhere predicate)
  | deleteAllEmpty _ => .ok (.clearWhere (·.isEmpty))
  | deleteAllDisabled => .ok (.clearWhere (·.isDisabled))
  | list _ => .ok .list
  | get _ id => .ok (.get id)

def Asks (c : Command) (request : Request) : Prop :=
  match c with
  | add _ _ | addKeyOverride _ | addCombo _ _ | addRecord _ _ =>
    ∃ record, request = .add record ∧ record.kind = c.kind
  | edit _ id _ | editDefinition _ id _ | editKeyOverride id _ | editCombo id _ =>
    ∃ patch, request = .edit id patch ∧ Slot.checkPatch c.kind id patch = .ok ()
  | delete _ ids => request = .clear (ids.eraseDups.mergeSort (· ≤ ·))
  | deleteMatching _ predicate _ => request = .clearWhere predicate
  | deleteAllEmpty _ => request = .clearWhere (·.isEmpty)
  | deleteAllDisabled => request = .clearWhere (·.isDisabled)
  | list _ => request = .list
  | get _ id => request = .get id

def decide (keys : κ) (settings : Settings) (k : Keyboard) (c : Command) : Decision :=
  Request.decided k c.kind (c.request keys settings)

def plan (keys : κ) (settings : Settings) (k : Keyboard) (c : Command) : List Record :=
  (c.decide keys settings k).plan

variable {keys : κ} {settings : Settings} {k : Keyboard} {c : Command} {f : Failure}

theorem editRequest_ok {kind : Kind} {id : Int} {patch : Slot.Patch} {request : Request}
    (h : editRequest kind id patch = .ok request) :
    request = .edit id patch ∧ Slot.checkPatch kind id patch = .ok () := by
  have ⟨_, hc, he⟩ := bind_ok_iff.mp h
  cases he
  exact ⟨rfl, hc⟩

theorem editSomeRequest_ok {kind : Kind} {id : Int} {patch : Slot.Patch} {request : Request}
    (h : editSomeRequest kind id patch = .ok request) :
    request = .edit id patch ∧ Slot.checkPatch kind id patch = .ok () := by
  rw [editSomeRequest] at h
  split at h
  case isTrue  => cases h
  case isFalse => exact editRequest_ok h

theorem asks_of_request {request : Request} (h : c.request keys settings = .ok request) :
    c.Asks request := by
  cases c <;> simp only [Command.request] at h
  case add =>
    have ⟨r, hr, he⟩ := map_ok_iff.mp h
    exact ⟨r, he.symm, Definition.kind_of_readRecord hr⟩
  case addKeyOverride | addCombo =>
    have ⟨_, _, he⟩ := map_ok_iff.mp h
    exact ⟨_, he.symm, rfl⟩
  case addRecord =>
    split at h
    case isTrue hk => cases h; exact ⟨_, rfl, hk⟩
    case isFalse => cases h
  case edit => exact ⟨_, editSomeRequest_ok h⟩
  case editDefinition =>
    split at h
    case isTrue => cases h
    case isFalse =>
      have ⟨_, _, h⟩ := bind_ok_iff.mp h
      exact ⟨_, editRequest_ok h⟩
  case editKeyOverride | editCombo =>
    have ⟨_, _, h⟩ := bind_ok_iff.mp h
    exact ⟨_, editSomeRequest_ok h⟩
  case delete =>
    split at h
    case isTrue => cases h
    case isFalse => cases h; rfl
  all_goals
    cases h
    rfl

theorem editRequest_failsOnly (kind : Kind) (id : Int) (patch : Slot.Patch) :
    FailsOnly (Own []) (editRequest kind id patch) :=
  (Slot.checkPatch_failsOnly kind id patch).bind fun _ _ => failsOnly_ok _

theorem editSomeRequest_failsOnly (kind : Kind) (id : Int) (patch : Slot.Patch) :
    FailsOnly (Own []) (editSomeRequest kind id patch) := by
  rw [editSomeRequest]
  split
  case isTrue  => exact failsOnly_refuseDefinition.mpr (Refusal.definition_own rfl)
  case isFalse => exact editRequest_failsOnly _ _ _

theorem request_failsOnly (keys : κ) (settings : Settings) (c : Command) :
    FailsOnly Local (c.request keys settings) := by
  have hm := settings.maxTriggers_le
  have he {kind id patch} : FailsOnly Local (editRequest kind id patch) :=
    (editRequest_failsOnly _ _ _).mono fun _ => Own.isLocal
  have hs {kind id patch} : FailsOnly Local (editSomeRequest kind id patch) :=
    (editSomeRequest_failsOnly _ _ _).mono fun _ => Own.isLocal
  cases c <;> simp only [request]
  case add => exact (Definition.readRecord_admits Failure.admits_local hm).map _
  case addKeyOverride => exact (Definition.readKeyOverride_local _).map _
  case addCombo definition _ =>
    have ha : Failure.Admits Local definition.toList := Failure.admits_local
    exact (Definition.readCombo_admits ha hm (Definition.readTerm_local _)).map _
  case addRecord => split <;> simp
  case edit => exact hs
  case editDefinition =>
    split
    case isTrue => simp
    case isFalse => exact (Definition.readRecord_admits Failure.admits_local hm).bind fun _ _ => he
  case editKeyOverride _ change => exact (change.patch_failsOnly keys).bind fun _ _ => hs
  case editCombo _ change =>
    refine (ComboChange.patch_failsOnly (fun definition _ => ?_) fun _ _ => ?_).bind fun _ _ => hs
    case refine_1 =>
      have ha : Failure.Admits Local definition.toList := Failure.admits_local
      exact Definition.readCombo_admits ha hm (Definition.readTerm_natural 50)
    case refine_2 => exact Definition.readTerm_local _
  case delete => split <;> simp
  all_goals simp

theorem decide_write {plan : List Record} {reported : List Int}
    (h : c.decide keys settings k = .write plan reported) :
    ∃ request records capacity, c.request keys settings = .ok request ∧
      k.records? c.kind = some records ∧ k.count? c.kind = some capacity ∧
      request.plan c.kind records capacity = .ok plan ∧ reported = request.reported capacity plan := by
  rw [decide] at h
  cases hr : c.request keys settings
  case error =>
    rw [hr] at h
    cases h
  case ok request =>
    rw [hr, Request.decided] at h
    obtain ⟨_, hd⟩ | ⟨records, capacity, hs, hc, ⟨_, _, hd⟩ | ⟨_, hp, hd⟩⟩ :=
      Request.decide_cases k c.kind request <;> rw [hd] at h <;> cases h
    exact ⟨request, records, capacity, rfl, hs, hc, hp, rfl⟩

theorem plan_of_request {request : Request} {records plan : List Record} {capacity : Int}
    (hq : c.request keys settings = .ok request) (hk : k.Reports c.kind records capacity)
    (hp : request.plan c.kind records capacity = .ok plan) : c.plan keys settings k = plan := by
  rw [Command.plan, decide, hq, Request.decided, Request.decide_ok hk.records hk.count hp]
  rfl

theorem write_of_plan (h : c.plan keys settings k ≠ []) :
    ∃ reported, c.decide keys settings k = .write (c.plan keys settings k) reported := by
  cases hd : c.decide keys settings k
  case write _ reported => exact ⟨reported, by rw [plan, hd]; rfl⟩
  all_goals exact (h (by rw [plan, hd]; rfl)).elim

theorem decide_unread (h : c.decide keys settings k = .unread f) :
    c.request keys settings = .error f := by
  rw [decide] at h
  cases hr : c.request keys settings <;> rw [hr] at h
  case error => cases h; rfl
  case ok => exact (Request.decide_ne_unread h).elim

theorem decide_refused (h : c.decide keys settings k = .refused f) :
    ∃ request, c.request keys settings = .ok request ∧
      ((∃ missing, f = .refused (.notPopulated c.kind missing)) ∨
        ∃ records capacity, k.Reports c.kind records capacity ∧
          request.plan c.kind records capacity = .error f) := by
  rw [decide] at h
  cases hr : c.request keys settings <;> rw [hr] at h
  case error => cases h
  case ok request =>
    rw [Request.decided] at h
    obtain ⟨_, hd⟩ | ⟨records, capacity, hs, hc, ⟨_, hp, hd⟩ | ⟨_, _, hd⟩⟩ :=
      Request.decide_cases k c.kind request <;> rw [hd] at h <;> cases h
    case inl => exact ⟨request, rfl, .inl ⟨_, rfl⟩⟩
    case inr => exact ⟨request, rfl, .inr ⟨records, capacity, ⟨hs, hc⟩, hp⟩⟩

theorem local_of_unread (h : c.decide keys settings k = .unread f) : f.Local :=
  request_failsOnly keys settings c f (decide_unread h)

def slot? : Command → Option Int
  | edit _ id _ | editDefinition _ id _ | editKeyOverride id _ | editCombo id _ | get _ id => some id
  | _ => none

def slots : Command → List Int
  | delete _ ids => ids
  | c => c.slot?.toList

-- The numbers that a command may have to report: those of the slots that it names and of the records
-- that it finds, and the number of slots.
def numbers (k : Keyboard) (c : Command) : List Int :=
  c.slots ++ slotsOf ((k.records? c.kind).getD []) ++ (k.count? c.kind).toList

theorem slots_of_asks {request : Request} (h : c.Asks request) : request.slots ⊆ c.slots := by
  cases c
  case add | addKeyOverride | addCombo | addRecord =>
    obtain ⟨r, rfl, _⟩ := h
    exact List.nil_subset _
  case edit | editDefinition | editKeyOverride | editCombo =>
    obtain ⟨patch, rfl, _⟩ := h
    exact List.Subset.refl _
  case delete kind ids =>
    cases h
    exact fun id hi => List.mem_eraseDups.mp (List.mem_mergeSort.mp hi)
  case deleteMatching | deleteAllEmpty | deleteAllDisabled | list =>
    cases h
    exact List.nil_subset _
  case get =>
    cases h
    exact List.Subset.refl _

theorem own_of_refused (h : c.decide keys settings k = .refused f) : f.Own (c.numbers k) := by
  obtain ⟨request, hq, ⟨_, rfl⟩ | ⟨records, capacity, hk, hp⟩⟩ := decide_refused h
  case inl => exact .refused nofun
  case inr =>
    have hs : request.slots ⊆ c.numbers k := by
      rw [numbers, List.append_assoc]
      exact List.Subset.trans (slots_of_asks (asks_of_request hq)) (List.subset_append_left _ _)
    have hr : slotsOf records ⊆ c.numbers k := by
      rw [numbers, hk.records, Option.getD_some]
      exact List.Subset.trans (List.subset_append_right _ _) (List.subset_append_left _ _)
    exact Request.plan_failsOnly hs (fun _ => hr) (by simp [numbers, hk.count]) f hp

end Command
end KeySlots
