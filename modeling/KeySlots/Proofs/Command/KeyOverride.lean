import KeySlots.Proofs.Command.Report
import KeySlots.Proofs.Definition.KeyOverride

namespace KeySlots

open Definition

variable {κ : Type} [KeyCodec κ]

namespace Command

variable {keys : κ} {settings : Settings} {broken : Breakdowns} {k : Keyboard}
  {definition : String} {request : OverrideRequest}

theorem run_add_json
    (h : readKeyOverrideJson keys definition = readKeyOverride keys (request.definition settings)) :
    (add .keyOverride definition).run keys settings broken k =
      (addKeyOverride request).run keys settings broken k := by
  have hs : (add .keyOverride definition).steps keys settings broken =
      (addKeyOverride request).steps keys settings broken := by
    rw [steps, steps, readRecord, h]
    cases readKeyOverride keys (request.definition settings) <;> rfl
  rw [run, run, hs]
  rfl

theorem run_addKeyOverride_vacant {o : KeyOverride}
    (h : readKeyOverride keys (request.definition settings) = .ok o) :
    ((addKeyOverride request).run keys settings {} (.vacant .keyOverride)).keyboard.records?
      .keyOverride = some [(Record.keyOverride o).withId 0] := by
  have hr : Command.request keys settings (addKeyOverride request) = .ok (.add (.keyOverride o)) := by
    rw [Command.request, h]
    rfl
  obtain ⟨_, _, _, _, hk⟩ := run_vacant hr
  exact hk.records

end Command

namespace OverrideParts

variable {parts : OverrideParts} {settings : Settings}

theorem onEveryLayer_of_some (h : parts.layers.isSome) : parts.onEveryLayer = parts := by
  obtain ⟨m, hm⟩ := Option.isSome_iff_exists.mp h
  cases parts
  cases hm
  rfl

theorem definition_of_none (h : parts.layers = none) (settings : Settings) :
    parts.request.definition settings =
        { parts.onEveryLayer.request.definition settings with layers := .int settings.layers.toNat } ∧
      parts.onEveryLayer.request.definition settings =
        { parts.onEveryLayer.request.definition settings with layers := .int Layers.all.toNat } := by
  cases parts
  cases h
  exact ⟨rfl, rfl⟩

theorem readKeyOverride_of_none (h : parts.layers = none) (keys : κ) (settings : Settings) :
    readKeyOverride keys (parts.request.definition settings) =
        (readKeyOverride keys (parts.onEveryLayer.request.definition settings)).map
          (fun o => { o with layers := settings.layers }) ∧
      ∀ o, readKeyOverride keys (parts.onEveryLayer.request.definition settings) = .ok o →
        o.layers = Layers.all := by
  have ⟨hp, he⟩ := definition_of_none h settings
  constructor
  case left =>
    rw [hp, he]
    exact readKeyOverride_layers ..
  case right =>
    intro o ho
    have ho' := ho
    rw [he, readKeyOverride_layers keys _ Layers.all, ← he, ho] at ho'
    exact congrArg KeyOverride.layers (Except.ok.inj ho').symm

end OverrideParts

namespace Command

variable {keys : κ} {settings : Settings} {parts : OverrideParts} {fields : Fields}
  {definition : String}

-- A key override that is added by its JSON text and one that is added by its parts leave all the same
-- behind, the outcome, the calls and the keyboard, if the parts are for every layer. For the parts as they
-- are, it is so just if that makes no difference or they are refused.
theorem run_add_json_iff (hd : readObject definition = .ok fields) (hg : parts.GivenBy fields)
    (ht : parts.trigger ≠ "") (hr : parts.replacement ≠ "") :
    (∀ broken k, (add .keyOverride definition).run keys settings broken k =
      (addKeyOverride parts.onEveryLayer.request).run keys settings broken k) ∧
    ((∀ broken k, (add .keyOverride definition).run keys settings broken k =
        (addKeyOverride parts.request).run keys settings broken k) ↔
      parts.layers.isSome ∨ settings.layers = Layers.all ∨
        ∀ o, readKeyOverride keys (parts.request.definition settings) ≠ .ok o) := by
  have hj := hg.readKeyOverrideJson hd ht hr keys settings
  refine ⟨fun _ _ => run_add_json hj, ?_⟩
  cases hl : parts.layers
  case some m =>
    have he : parts.onEveryLayer = parts := OverrideParts.onEveryLayer_of_some (by simp [hl])
    exact iff_of_true (fun _ _ => run_add_json (he ▸ hj)) (.inl rfl)
  case none =>
    have ⟨hm, ha⟩ := OverrideParts.readKeyOverride_of_none hl keys settings
    cases ho : readKeyOverride keys (parts.onEveryLayer.request.definition settings)
    case error f =>
      rw [ho] at hj hm
      have hn : ∀ o, readKeyOverride keys (parts.request.definition settings) ≠ .ok o := by
        simp [hm, Except.map]
      exact iff_of_true (fun _ _ => run_add_json (hj.trans hm.symm)) (.inr (.inr hn))
    case ok o =>
      have hall : o.layers = Layers.all := ha o ho
      rw [ho, Except.map] at hm
      constructor
      case mp =>
        intro h
        -- What both ways store tells the layers of the settings from every layer.
        have hv := (run_add_json hj).symm.trans (h {} (.vacant .keyOverride))
        have hk := congrArg (fun e => e.keyboard.records? .keyOverride) hv
        simp only [run_addKeyOverride_vacant ho, run_addKeyOverride_vacant hm] at hk
        have hs : o.layers = settings.layers := by simpa [Record.withId] using hk
        exact .inr (.inl (hs.symm.trans hall))
      case mpr =>
        rintro (hs | hs | hn)
        · simp at hs
        · have he : { o with layers := settings.layers } = o := by rw [hs, ← hall]
          rw [he] at hm
          exact fun _ _ => run_add_json (hj.trans (ho.trans hm.symm))
        · exact absurd hm (hn _)

end Command

def OverrideParts.bare : OverrideParts where
  trigger        := "A"
  replacement    := "B"
  layers         := none
  triggerMods    := none
  negativeMods   := none
  suppressedMods := none
  enabled        := none

def OverrideParts.bareFields : Fields :=
  [("trigger_key", .text "A"), ("override_key", .text "B")]

def OverrideParts.bareText : String :=
  "\x7b\"trigger_key\":\"A\",\"override_key\":\"B\"\x7d"

def KeyTable.pair : KeyTable where
  codes := [("A", 4), ("B", 5)]
  names := [(4, "A"), (5, "B")]

def Settings.lowest : Settings where
  layers := 1

namespace OverrideParts

theorem bare_givenBy : bare.GivenBy bareFields := by
  constructor <;> rfl

theorem readObject_bareText : readObject bareText = .ok bareFields := by
  have hc : bareText.toList = ['\x7b', '"', 't', 'r', 'i', 'g', 'g', 'e', 'r', '_', 'k', 'e', 'y', '"',
      ':', '"', 'A', '"', ',', '"', 'o', 'v', 'e', 'r', 'r', 'i', 'd', 'e', '_', 'k', 'e', 'y', '"', ':',
      '"', 'B', '"', '\x7d'] := by
    decide
  rw [readObject, hc]
  rfl

theorem readKeyOverride_bare : readKeyOverride KeyTable.pair (bare.request.definition .lowest) =
    .ok { trigger := 4, replacement := 5, layers := 1 } := by
  rfl

theorem readKeyOverride_bare_all :
    readKeyOverride KeyTable.pair (bare.onEveryLayer.request.definition .lowest) =
      .ok { trigger := 4, replacement := 5, layers := Layers.all } := by
  have hl : bare.layers = none := rfl
  have ⟨hp, he⟩ := definition_of_none hl .lowest
  have h := readKeyOverride_bare
  rw [hp] at h
  rw [he, readKeyOverride_layers KeyTable.pair _ Settings.lowest.layers Layers.all, h]
  rfl

end OverrideParts

namespace Command

theorem run_add_json_bare :
    ¬∀ broken k, (add .keyOverride OverrideParts.bareText).run KeyTable.pair .lowest broken k =
      (addKeyOverride OverrideParts.bare.request).run KeyTable.pair .lowest broken k := by
  intro h
  have hi := (run_add_json_iff OverrideParts.readObject_bareText OverrideParts.bare_givenBy (by decide)
    (by decide)).right.mp h
  obtain hs | hl | hr := hi
  · exact absurd hs (by decide)
  · exact absurd hl (by decide)
  · exact hr _ OverrideParts.readKeyOverride_bare

-- By its parts a key override gets the layers of the settings, and by its JSON text it gets all of them.
theorem add_json_on_every_layer :
    ((addKeyOverride OverrideParts.bare.request).run KeyTable.pair .lowest {}
        (.vacant .keyOverride)).keyboard.records? .keyOverride =
          some [.keyOverride { trigger := 4, replacement := 5, layers := 1 }] ∧
      ((add .keyOverride OverrideParts.bareText).run KeyTable.pair .lowest {}
        (.vacant .keyOverride)).keyboard.records? .keyOverride =
          some [.keyOverride { trigger := 4, replacement := 5, layers := Layers.all }] := by
  have hj := OverrideParts.bare_givenBy.readKeyOverrideJson OverrideParts.readObject_bareText (by decide)
    (by decide) KeyTable.pair .lowest
  rw [run_add_json hj]
  exact ⟨run_addKeyOverride_vacant OverrideParts.readKeyOverride_bare,
    run_addKeyOverride_vacant OverrideParts.readKeyOverride_bare_all⟩

end Command
end KeySlots
