import KeySlots.Proofs.Command.KeyOverride
import KeySlots.Proofs.Slot.Update

namespace KeySlots

open Session Slot

namespace Session

variable {broken : Breakdowns} {failure : Option Failure} {s : Session} {o : Outcome}

theorem error_of_conclude (h : (conclude broken failure s).result = .ok o) :
    (failure = none ∧ o = s.outcome) ∨
      (∃ refusal, failure = some (.refused refusal) ∧ o.error = some refusal.name) ∨
      o.error = some "DeviceIOError" := by
  unfold conclude at h
  split at h
  case h_1 =>
    cases hc : broken.close <;> simp only [close, hc, Except.map, Except.ok.injEq] at h <;> subst h
    case none      => exact .inl ⟨rfl, rfl⟩
    case some text => exact .inr <| .inr (Outcome.error_fail _ _)
  case h_2 refusal =>
    cases hc : broken.close <;> simp only [close, hc, Except.map, Except.ok.injEq] at h <;> subst h
    case none      => exact .inr <| .inl ⟨refusal, rfl, Outcome.error_fail _ _⟩
    case some text => exact .inr <| .inr (Outcome.error_fail _ _)
  case h_3 => simp [close, Except.map] at h

theorem Course.definition_cases {kind : Kind} {k : Keyboard} {d : Decision} {e : DefinitionError}
    (h : Course broken kind k d (some (.refused (.definition e))) s) :
    s.calls = [] ∨ d = .refused (.refused (.definition e)) := by
  cases h
  case unread hs    => exact .inl hs.calls
  case refused hd _ => exact .inr hd

end Session

theorem Refusal.name_eq_parseError_iff {refusal : Refusal} :
    refusal.name = "ParseError" ↔ ∃ e, refusal = .definition e := by
  cases refusal <;> simp [name]

def Failure.Unrelated (f : Failure) : Prop :=
  ∀ e, f ≠ .refused (.definition e)

theorem Refusal.failure_unrelated {refusal : Refusal} (h : ∀ e, refusal ≠ .definition e) :
    refusal.failure.Unrelated := by
  intro e he
  rw [failure] at he
  split at he
  case isTrue =>
    cases he
    exact h e rfl
  case isFalse => cases he

theorem Slot.lookup_unrelated (kind : Kind) (records : List Record) (capacity id : Int) :
    FailsOnly Failure.Unrelated (lookup kind records capacity id) := by
  refine FailsOnly.bind ?_ fun _ _ => ?_
  case refine_1 =>
    rw [checkRange]
    split
    case isTrue  => exact failsOnly_ok _
    case isFalse => exact failsOnly_refuse.mpr (Refusal.failure_unrelated (by simp))
  case refine_2 =>
    split
    case h_1 => exact failsOnly_ok _
    case h_2 => exact failsOnly_refuse.mpr (Refusal.failure_unrelated (by simp))

namespace Command

variable {κ : Type} [KeyCodec κ] {keys : κ} {settings : Settings} {broken : Breakdowns}
  {k : Keyboard} {c : Command}
  {kind : Kind} {id : Int} {patch : Patch} {o : Outcome}

theorem plan_edit_unrelated {records : List Record} {capacity : Int}
    (ht : ∀ r ∈ records, r.kind = kind) (hn : patch.NumbersSlot) (hc : checkPatch kind id patch = .ok ()) :
    FailsOnly Failure.Unrelated ((Request.edit id patch).plan kind records capacity) := by
  refine (lookup_unrelated kind records capacity id).bind fun r hl => ?_
  obtain ⟨-, -, hf⟩ := lookup_ok_iff.mp hl
  obtain ⟨new, hm⟩ := merge_of_checkPatch (ht r (mem_of_find?_some hf)) (find?_some_id hf) hn hc
  rw [hm]
  exact failsOnly_ok _

theorem decide_edit_unrelated {f : Failure} (ht : k.Typed) (hn : patch.NumbersSlot)
    (h : (edit kind id patch).decide keys settings k = .refused f) : f.Unrelated := by
  obtain ⟨request, hq, ⟨missing, rfl⟩ | ⟨records, capacity, hk, hp⟩⟩ := decide_refused h
  case inl => exact nofun
  case inr =>
    obtain ⟨rfl, hc⟩ := editSomeRequest_ok hq
    exact plan_edit_unrelated (ht _ _ hk.records) hn hc f hp

theorem calls_of_parseError (ht : k.Typed) (hn : patch.NumbersSlot)
    (h : ((edit kind id patch).run keys settings broken k).result = .ok o)
    (he : o.error = some "ParseError") :
    ((edit kind id patch).run keys settings broken k).calls = [.close] := by
  obtain ⟨failure, s, hc, hr⟩ := run_course keys settings broken k (edit kind id patch)
  rw [hr] at h ⊢
  rw [calls_conclude]
  obtain ⟨rfl, rfl⟩ | ⟨refusal, rfl, hf⟩ | hf := error_of_conclude h
  case inl =>
    cases hc
    case done hb => simp [hb.error] at he
  case inr.inl =>
    obtain ⟨e, rfl⟩ := Refusal.name_eq_parseError_iff.mp (Option.some_inj.mp (hf.symm.trans he))
    cases hc.definition_cases
    case inl hs => rw [hs]; rfl
    case inr hd => exact (decide_edit_unrelated ht hn hd e rfl).elim
  case inr.inr => simp [hf] at he

-- What is wrong with a patch for a slot is known before any record is at hand: the check of the patch
-- says whether an update succeeds, and how it fails. So an edit is not refused for its patch any more
-- once it has called the keyboard.
theorem edit_checks_first (keys : κ) (settings : Settings) :
    (∀ kind records capacity id (patch : Patch), (∀ r ∈ records, r.kind = kind) → patch.NumbersSlot →
      0 ≤ id → id < capacity → (∃ r ∈ records, (r.id : Int) = id) →
      (checkPatch kind id patch = .ok () →
        ∃ out, update kind records capacity id patch = .ok out) ∧
      ∀ f, checkPatch kind id patch = .error f → update kind records capacity id patch = .error f) ∧
    ∀ broken (k : Keyboard) kind id (patch : Patch) o, k.Typed → patch.NumbersSlot →
      ((edit kind id patch).run keys settings broken k).result = .ok o →
      (o.error = some "ParseError" →
        ((edit kind id patch).run keys settings broken k).calls = [.close]) ∧
      (.init ∈ ((edit kind id patch).run keys settings broken k).calls → o.error ≠ some "ParseError") := by
  refine ⟨fun kind records capacity id patch ht hn h₀ hc hm => ⟨fun h => ?_, fun f h => ?_⟩,
    fun broken k kind id patch o ht hn h => ⟨calls_of_parseError ht hn h, fun hi he => ?_⟩⟩
  case refine_1 =>
    obtain ⟨r, hf⟩ := Option.isSome_iff_exists.mp (find?_isSome_iff.mpr hm)
    exact update_of_checkPatch ht hn (lookup_ok_iff.mpr ⟨h₀, hc, hf⟩) h
  case refine_2 => exact update_of_checkPatch_error h
  case refine_3 => simp [calls_of_parseError ht hn h he] at hi

end Command

def Keyboard.chorded : Keyboard where
  counts := [(.combo, some 2)]
  stored := [(.combo, [.combo { action := 4 }, .combo { id := 1, action := 5, term := 30 }])]

def Slot.Patch.muting : Patch :=
  [("id", .bool true), ("enabled", .text "off"), ("trigger_keys", .array [.text "4"])]

def Slot.Patch.rushing : Patch :=
  [("id", .bool true), ("term", .int (-1))]

theorem Keyboard.typed_chorded : Keyboard.chorded.Typed := by
  intro kind records h
  cases kind <;> cases h
  decide

theorem Slot.Patch.numbersSlot_muting : Patch.muting.NumbersSlot := by
  intro v hv
  have hv : v = .bool true := by simpa [muting] using hv
  exact .inr ⟨true, hv⟩

theorem Slot.Patch.numbersSlot_rushing : Patch.rushing.NumbersSlot := by
  intro v hv
  have hv : v = .bool true := by simpa [rushing] using hv
  exact .inr ⟨true, hv⟩

namespace Command

theorem edit_checks_first_chorded :
    let broken : Breakdowns := { save := some "busy" }
    let muted := (edit .combo 1 .muting).run KeyTable.pair .lowest broken .chorded
    let rushed := (edit .combo 1 .rushing).run KeyTable.pair .lowest broken .chorded
    (∃ out, update .combo [.combo { action := 4 }, .combo { id := 1, action := 5, term := 30 }] 2 1
      .muting = .ok out) ∧
    (∃ o, muted.result = .ok o ∧ .init ∈ muted.calls ∧ o.error ≠ some "ParseError") ∧
    ∃ o, rushed.result = .ok o ∧ o.error = some "ParseError" ∧ rushed.calls = [.close] := by
  intro broken muted rushed
  obtain ⟨hu, hr⟩ := edit_checks_first KeyTable.pair .lowest
  have ht := Keyboard.typed_chorded
  have hm := Patch.numbersSlot_muting
  refine ⟨?_, ?_, ?_⟩
  case refine_1 =>
    exact (hu .combo _ 2 1 .muting (by decide) hm (by decide) (by decide) (by decide)).left
      (ok_of_toOption (by decide +kernel))
  case refine_2 =>
    have hi : .init ∈ muted.calls := by decide +kernel
    have h : muted.result.toOption.isSome := by decide +kernel
    obtain ⟨o, h⟩ := Option.isSome_iff_exists.mp h
    exact ⟨o, ok_of_toOption h, hi, (hr _ _ _ _ _ o ht hm (ok_of_toOption h)).right hi⟩
  case refine_3 =>
    have h : rushed.result.toOption.map (·.error) = some (some "ParseError") := by decide +kernel
    obtain ⟨o, h, he⟩ := Option.map_eq_some_iff.mp h
    exact ⟨o, ok_of_toOption h, he,
      (hr _ _ _ _ _ o ht Patch.numbersSlot_rushing (ok_of_toOption h)).left he⟩

end Command
end KeySlots
