import KeySlots.Proofs.Command.Run
import KeySlots.Proofs.Record.Patched

namespace KeySlots

open Session

variable {κ : Type} [KeyCodec κ]

namespace Command

variable (keys : κ) (settings : Settings) (broken : Breakdowns) (k : Keyboard) (c : Command)

theorem run_planned :
    (c.run keys settings broken k).keyboard = k ∨
      ∃ written records capacity, k.Reports c.kind records capacity ∧
        Planned c.kind records capacity written ∧
        (c.run keys settings broken k).keyboard = k.writeAll c.kind written := by
  have ⟨written, hp, he⟩ := run_keyboard keys settings broken k c
  cases written
  case nil => exact .inl he
  case cons r written =>
    have ⟨_, hd⟩ := write_of_plan (hp.ne_nil nofun)
    have ⟨records, capacity, hr, hw⟩ := planned_of_write hd
    exact .inr ⟨_, records, capacity, hr, hw.mono hp.subset, he⟩

theorem count?_run (kind : Kind) :
    (c.run keys settings broken k).keyboard.count? kind = k.count? kind := by
  have ⟨_, _, he⟩ := run_keyboard keys settings broken k c
  rw [he, Keyboard.count?_writeAll]

theorem isSome_records?_run (kind : Kind) :
    ((c.run keys settings broken k).keyboard.records? kind).isSome = (k.records? kind).isSome := by
  obtain he | ⟨_, _, _, hr, _, he⟩ := run_planned keys settings broken k c
  case inl => rw [he]
  case inr => rw [he, Keyboard.isSome_records?_writeAll hr.records]

theorem slots_subset_run (kind : Kind) :
    k.slots kind ⊆ (c.run keys settings broken k).keyboard.slots kind := by
  obtain he | ⟨_, _, _, hr, _, he⟩ := run_planned keys settings broken k c
  case inl => rw [he]; exact fun _ hi => hi
  case inr => rw [he]; exact fun _ hi => (Keyboard.mem_slots_writeAll hr.records kind).mpr (.inl hi)

theorem slots_of_run :
    ∃ new, ∀ kind, ∀ id ∈ (c.run keys settings broken k).keyboard.slots kind,
      id ∈ k.slots kind ∨ kind = c.kind ∧ id = new := by
  obtain he | ⟨written, records, _, hr, hw, he⟩ := run_planned keys settings broken k c
  case inl => exact ⟨0, fun kind id hi => .inl (he ▸ hi)⟩
  case inr =>
    have ⟨new, hn⟩ := hw.known
    refine ⟨new, fun kind id hi => ?_⟩
    rw [he, Keyboard.mem_slots_writeAll hr.records] at hi
    obtain hi | ⟨rfl, hi⟩ := hi
    case inl => exact .inl hi
    case inr =>
      have ⟨r, hm, hid⟩ := List.mem_map.mp hi
      subst hid
      refine (hn r hm).imp (fun hs => ?_) fun he => ⟨rfl, he⟩
      rwa [Keyboard.slots, hr.records]

variable {keys settings broken k c}

theorem sound_run (h : k.Sound) : (c.run keys settings broken k).keyboard.Sound := by
  obtain he | ⟨_, _, _, hr, hw, he⟩ := run_planned keys settings broken k c
  case inl => rwa [he]
  case inr => rw [he]; exact h.writeAll hr hw.inRange

theorem typed_run (h : k.Typed) : (c.run keys settings broken k).keyboard.Typed := by
  obtain he | ⟨_, _, _, hr, hw, he⟩ := run_planned keys settings broken k c
  case inl => rwa [he]
  case inr => rw [he]; exact h.writeAll hr.records (hw.typed (h _ _ hr.records))

end Command

-- The keyboards that commands lead to, whatever each of them works with and whichever calls fail.
inductive Keyboard.Reaches (k : Keyboard) : Keyboard → Prop
  | refl : Reaches k k
  | run {κ : Type} [KeyCodec κ] {keys : κ} {k' settings broken c} :
    Reaches k k' →
    Reaches k (Command.run keys settings broken k' c).keyboard

def Keyboard.after (keys : κ) (settings : Settings) :
    Keyboard → List (Breakdowns × Command) → Keyboard
  | k, [] => k
  | k, (broken, c) :: turns => after keys settings (c.run keys settings broken k).keyboard turns

namespace Keyboard

variable {k k' : Keyboard}

theorem Reaches.sound (hr : k.Reaches k') (h : k.Sound) : k'.Sound := by
  induction hr
  case refl     => exact h
  case run _ hi => exact Command.sound_run hi

theorem Reaches.typed (hr : k.Reaches k') (h : k.Typed) : k'.Typed := by
  induction hr
  case refl     => exact h
  case run _ hi => exact Command.typed_run hi

theorem Reaches.slots_subset (hr : k.Reaches k') (kind : Kind) : k.slots kind ⊆ k'.slots kind := by
  induction hr
  case refl     => exact fun _ hi => hi
  case run _ hi => exact List.Subset.trans hi (Command.slots_subset_run ..)

theorem Reaches.reports (hr : k.Reaches k') (kind : Kind) :
    k'.count? kind = k.count? kind ∧ (k'.records? kind).isSome = (k.records? kind).isSome := by
  induction hr
  case refl     => exact ⟨rfl, rfl⟩
  case run _ hi =>
    exact ⟨(Command.count?_run ..).trans hi.left, (Command.isSome_records?_run ..).trans hi.right⟩

-- A keyboard whose slots are in order stays so: no slot is lost, every command adds one at most, and
-- every record passes the check of its kind.
theorem Reaches.keeps (h : k.Sound) (hr : k.Reaches k') :
    k'.Sound ∧
    (∀ kind, k'.count? kind = k.count? kind ∧
      (k'.records? kind).isSome = (k.records? kind).isSome) ∧
    (∀ kind records, k'.records? kind = some records → ∀ r ∈ records,
      r.Bounded ∧ Record.check r.kind r.toJson = .accepted r ∧ (k.Typed → r.kind = kind)) ∧
    (∀ k'', k'.Reaches k'' → ∀ kind, k'.slots kind ⊆ k''.slots kind) ∧
    ∀ {κ : Type} [KeyCodec κ] (keys : κ) settings broken c, ∃ new, ∀ kind,
      ∀ id ∈ (Command.run keys settings broken k' c).keyboard.slots kind,
        id ∈ k'.slots kind ∨ kind = c.kind ∧ id = new :=
  ⟨hr.sound h, hr.reports,
    fun _ _ hs r hm => ⟨r.bounded, r.check_toJson, fun ht => hr.typed ht _ _ hs r hm⟩,
    fun _ => Reaches.slots_subset, fun keys _ _ _ => Command.slots_of_run keys ..⟩

def single : Keyboard where
  counts := [(.keyMacro, some 2)]
  stored := [(.keyMacro, [.keyMacro {}])]

theorem single_keeps :
    single.Sound ∧ ((Command.deleteAllEmpty .keyMacro).run KeyTable.blank {} {} single).keyboard.Sound := by
  have h : single.Sound := by
    intro kind records capacity ⟨hr, hc⟩
    cases kind <;> cases hr
    cases hc
    constructor <;> simp [Record.id]
  have hr : single.Reaches ((Command.deleteAllEmpty .keyMacro).run KeyTable.blank {} {} single).keyboard :=
    .run .refl
  exact ⟨h, (Reaches.keeps h hr).left⟩

end Keyboard
end KeySlots
