import KeySlots.Proofs.Command.Report
import KeySlots.Proofs.Session.Frame

namespace KeySlots

open Session

variable {κ : Type} [KeyCodec κ] {keys : κ} {settings : Settings} {broken broken' : Breakdowns}
  {kind : Kind}
  {k l : Keyboard} {c d : Command}

namespace Command

theorem keepsTo_addStep (record : Record) : KeepsTo kind (addStep broken kind record) := by
  rw [addStep]
  split
  case isTrue => exact fun _ _ h => agree_bind <| (agree_throw _).mpr h
  case isFalse =>
    refine keepsTo_load.bind fun _ => (keepsTo_attempt _).bind fun _ => (keepsTo_attempt _).bind fun _ => ?_
    refine (keepsTo_report _).bind fun _ => (keepsTo_push _ _).bind fun _ => ?_
    exact keepsTo_save.bind fun _ => keepsTo_succeed _ _

theorem keepsTo_editStep (id : Int) (patch : Slot.Patch) :
    KeepsTo kind (editStep broken kind id patch) := by
  refine (keepsTo_report _).bind fun _ => (keepsTo_attempt _).bind fun _ => ?_
  refine keepsTo_load.bind fun _ => (keepsTo_attempt _).bind fun _ => (keepsTo_push _ _).bind fun _ => ?_
  exact keepsTo_save.bind fun _ => keepsTo_succeed _ _

theorem keepsTo_editSome (id : Int) (patch : Slot.Patch) :
    KeepsTo kind (editSome broken kind id patch) := by
  rw [editSome]
  split
  case isTrue  => exact (keepsTo_attempt _).bind fun _ => keepsTo_editStep id patch
  case isFalse => exact keepsTo_editStep id patch

theorem keepsTo_pushCleared (capacity : Int) (records : List Record) (ids : List Int) :
    KeepsTo kind (pushCleared broken kind capacity records ids) := by
  induction ids generalizing records
  case nil => exact keepsTo_pure ()
  case cons id ids hi =>
    exact (keepsTo_attempt _).bind fun records => (keepsTo_push _ _).bind fun _ => hi records

theorem keepsTo_clearStep (records : List Record) (capacity : Int) (ids : List Int) (nothing : String) :
    KeepsTo kind (clearStep broken kind records capacity ids nothing) := by
  refine (keepsTo_report _).bind fun _ => ?_
  split
  case isTrue => exact keepsTo_succeed _ _
  case isFalse =>
    refine (keepsTo_attempt _).bind fun _ => (keepsTo_pushCleared _ _ _).bind fun _ => ?_
    refine keepsTo_save.bind fun _ => ?_
    split
    case isTrue  => exact (keepsTo_report _).bind fun _ => keepsTo_succeed _ _
    case isFalse => exact keepsTo_succeed _ _

theorem keepsTo_deleteWhere (predicate : Record → Bool) (description : String) :
    KeepsTo kind (deleteWhere broken kind predicate description) :=
  keepsTo_load.bind fun _ => keepsTo_clearStep _ _ _ _

-- A command keeps to the slots that it is about.
theorem steps_keepsTo (c : Command) : KeepsTo c.kind (c.steps keys settings broken) := by
  cases c
  case add | addKeyOverride | addCombo =>
    exact (keepsTo_attempt _).bind fun _ => keepsTo_addStep _
  case addRecord record => exact keepsTo_addStep record
  case edit id patch    => exact keepsTo_editSome id patch
  case editDefinition =>
    rw [steps]
    split
    case isTrue  => exact fun _ _ h => agree_bind <| (agree_throw _).mpr h
    case isFalse => exact (keepsTo_attempt _).bind fun _ => keepsTo_editStep _ _
  case editKeyOverride | editCombo =>
    exact (keepsTo_attempt _).bind fun _ => keepsTo_editSome _ _
  case delete =>
    rw [steps]
    dsimp only
    split
    case isTrue =>
      exact (keepsTo_attempt _).bind fun _ => keepsTo_load.bind fun _ => keepsTo_clearStep _ _ _ _
    case isFalse => exact keepsTo_load.bind fun _ => keepsTo_clearStep _ _ _ _
  case deleteMatching predicate description => exact keepsTo_deleteWhere predicate description
  case deleteAllEmpty                       => exact keepsTo_deleteWhere _ _
  case deleteAllDisabled                    => exact keepsTo_deleteWhere _ _
  case list => exact keepsTo_load.bind fun _ => (keepsTo_report _).bind fun _ => keepsTo_succeed _ _
  case get =>
    refine (keepsTo_report _).bind fun _ => keepsTo_load.bind fun _ => (keepsTo_attempt _).bind fun _ => ?_
    dsimp only
    split
    case isTrue =>
      refine (keepsTo_attempt _).bind fun _ => (keepsTo_report _).bind fun _ => keepsTo_succeed _ _
    case isFalse => exact (keepsTo_report _).bind fun _ => keepsTo_succeed _ _

end Command

namespace Session

structure Ending.SameOn (kind : Kind) (e f : Ending) : Prop where
  result   : e.result = f.result
  calls    : e.calls = f.calls
  keyboard : e.keyboard.SameOn kind f.keyboard

theorem sameOn_conclude {s t : Session} (failure : Option Failure) (h : SameOn kind s t) :
    (conclude broken failure s).SameOn kind (conclude broken failure t) := by
  have hr : (conclude broken failure s).result = (conclude broken failure t).result := by
    rcases failure with _ | refusal | fault <;> simp [conclude, close, h.outcome]
  exact ⟨hr, by simp [h.calls], by simpa using h.keyboard⟩

end Session

namespace Command

theorem run_congr (h : k.SameOn c.kind l) :
    (c.run keys settings broken k).SameOn c.kind (c.run keys settings broken l) := by
  have hc : KeepsTo c.kind (c.steps keys settings broken) := steps_keepsTo c
  have ha := (hc (c.start k) (c.start l) ⟨h, rfl, rfl⟩).mono (fun _ _ _ _ => And.right) fun _ _ h => h
  have ⟨failure, s, t, hk, hl, hs⟩ := run_of_agree ha
  rw [hk, hl]
  exact sameOn_conclude failure hs

theorem run_frame (h : kind ≠ c.kind) : (c.run keys settings broken k).keyboard.SameOn kind k := by
  have ⟨written, _, he⟩ := run_keyboard keys settings broken k c
  rw [he]
  exact .writeAll_of_ne h k written

-- Commands about different kinds of slot do not get in each other's way. Whichever comes first and
-- whichever calls of either fail, each one ends the same, makes the same calls, and the same is left on
-- the keyboard.
theorem run_comm (keys : κ) (settings : Settings) (h : c.kind ≠ d.kind) :
    let c₁ := c.run keys settings broken k
    let d₂ := d.run keys settings broken' c₁.keyboard
    let d₁ := d.run keys settings broken' k
    let c₂ := c.run keys settings broken d₁.keyboard
    (c₁.result = c₂.result ∧ c₁.calls = c₂.calls) ∧ (d₁.result = d₂.result ∧ d₁.calls = d₂.calls) ∧
      ∀ kind, d₂.keyboard.SameOn kind c₂.keyboard := by
  intro c₁ d₂ d₁ c₂
  have hc : c₁.SameOn c.kind c₂ := run_congr (run_frame h).symm
  have hd : d₁.SameOn d.kind d₂ := run_congr (run_frame h.symm).symm
  refine ⟨⟨hc.result, hc.calls⟩, ⟨hd.result, hd.calls⟩, fun kind => ?_⟩
  by_cases hk : kind = d.kind
  case pos =>
    -- `c` comes in between in one of the orders, and leaves the slots of `d` alone.
    have hf : c₂.keyboard.SameOn d.kind d₁.keyboard := run_frame h.symm
    exact hk ▸ (hf.trans hd.keyboard).symm
  case neg =>
    have hd₂ : d₂.keyboard.SameOn kind c₁.keyboard := run_frame hk
    by_cases hk' : kind = c.kind
    case pos => exact hd₂.trans (hk' ▸ hc.keyboard)
    case neg =>
      have hc₁ : c₁.keyboard.SameOn kind k := run_frame hk'
      have hc₂ : c₂.keyboard.SameOn kind d₁.keyboard := run_frame hk'
      have hd₁ : d₁.keyboard.SameOn kind k := run_frame hk
      exact (hd₂.trans hc₁).trans (hc₂.trans hd₁).symm

end Command

def Keyboard.paired : Keyboard where
  counts := [(.keyMacro, some 1), (.tapDance, some 1)]
  stored := [(.keyMacro, [.keyMacro { actions := [.tap 4] }]), (.tapDance, [])]

theorem Command.run_comm_paired :
    let broken : Breakdowns := { save := some "busy" }
    let deletion := delete .keyMacro [0]
    let addition := addRecord .tapDance (.tapDance { tap := 4 })
    let first := (deletion.run KeyTable.blank {} broken .paired).keyboard
    let second := (addition.run KeyTable.blank {} {} .paired).keyboard
    deletion.kind ≠ addition.kind ∧
      (addition.run KeyTable.blank {} {} .paired).result = (addition.run KeyTable.blank {} {} first).result ∧
      (∀ kind, (addition.run KeyTable.blank {} {} first).keyboard.SameOn kind
        (deletion.run KeyTable.blank {} broken second).keyboard) ∧
      (addition.run KeyTable.blank {} {} first).keyboard.stored =
        [(.keyMacro, [.keyMacro {}]), (.tapDance, [.tapDance { tap := 4 }])] := by
  intro broken deletion addition first second
  have h : deletion.kind ≠ addition.kind := by decide
  obtain ⟨-, ⟨hr, -⟩, hk⟩ := run_comm KeyTable.blank {} h
  exact ⟨h, hr, hk, by decide +kernel⟩

end KeySlots
