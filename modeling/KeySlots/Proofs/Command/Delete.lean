import KeySlots.Proofs.Command.Clear
import KeySlots.Proofs.Command.Ending

namespace KeySlots

open Session Slot

def Keyboard.crowded : Keyboard where
  counts := [(.keyMacro, some 3)]
  stored := [(.keyMacro,
    [.keyMacro { id := 2, actions := [.tap 4] }, .keyMacro { id := 0, actions := [.tap 5] },
      .keyMacro { id := 1, actions := [.tap 6] }])]

def Keyboard.unsaving : Keyboard where
  capabilities := {}
  counts       := [(.keyMacro, some 1)]
  stored       := [(.keyMacro, [.keyMacro { actions := [.tap 4] }])]

def Breakdowns.jammed : Breakdowns where
  push id := if id = 1 then some "jammed" else none

theorem Keyboard.sound_crowded : Keyboard.crowded.Sound := by
  intro kind records capacity ⟨hr, hc⟩
  cases kind <;> cases hr
  cases hc
  constructor <;> simp [Record.id]

namespace Request

variable {kind : Kind} {records : List Record} {capacity : Int} {ids : List Int}

theorem plan_clear_eq (kind : Kind) (records : List Record) (capacity : Int) (ids : List Int) :
    (clear ids).plan kind records capacity =
      (ids.findSome? (objection? kind records capacity)).elim (.ok (sentinels kind ids)) refuse := by
  rw [plan, Command.clearAll_eq]
  cases ids.findSome? (objection? kind records capacity) <;> rfl

theorem plan_clear_ok (h : ∀ id ∈ ids, objection? kind records capacity id = none) :
    (clear ids).plan kind records capacity = .ok (sentinels kind ids) := by
  rw [plan_clear_eq, List.findSome?_eq_none_iff.mpr h, Option.elim_none]

end Request

theorem mergeSort_eraseDups_eq {order ids : List Int} (hp : order.Pairwise (· < ·))
    (hm : ∀ id, id ∈ order ↔ id ∈ ids) : ids.eraseDups.mergeSort (· ≤ ·) = order := by
  have hs := (strict_mergeSort_iff _).mpr (nodup_eraseDups ids)
  have hn {xs : List Int} (h : xs.Pairwise (· < ·)) : xs.Nodup := h.imp Int.ne_of_lt
  have he : (ids.eraseDups.mergeSort (· ≤ ·)).Perm order := by
    rw [List.perm_ext_iff_of_nodup (hn hs) (hn hp)]
    simp [List.mem_eraseDups, hm]
  exact he.eq_of_pairwise (fun a b _ _ hab hba => by omega) hs hp

-- What is left of a run that is to clear slots in order: those before the first push that fails are
-- cleared, and the slots are saved if none fails and there is a way to.
structure Session.Ending.Clears (e : Ending) (broken : Breakdowns) (k : Keyboard) (kind : Kind)
    (records : List Record) (order : List Int) (done : List Int) : Prop where
  calls     : ∃ shown, e.calls =
    (if order = [] then [] else
      opening ++ ((order.take (done.length + 1)).map (fun id => .push kind id.toNat shown) ++
        if done = order then (k.saveCall? kind).toList else [])) ++ [.close]
  stored    : e.keyboard.records? kind = some (emptied kind done records)
  others    : ∀ other, other ≠ kind → e.keyboard.records? other = k.records? other
  committed : ∀ o, e.result = .ok o → o.committed = done
  reported  : (∃ o, e.result = .ok o) ∨ done = order ∧ ∃ id ∈ order, ¬Numeral.isWritable id

namespace Command

variable {κ : Type} [KeyCodec κ] {keys : κ} {settings : Settings} {broken : Breakdowns}
  {k : Keyboard} {kind : Kind}
  {records : List Record} {capacity : Int} {order ids : List Int} {c : Command}

theorem request_delete (hp : order.Pairwise (· < ·)) (hm : ∀ id, id ∈ order ↔ id ∈ ids) :
    (delete kind ids).request keys settings =
      if order = [] then refuseDefinition .noSlot else .ok (.clear order) := by
  simp only [request, mergeSort_eraseDups_eq hp hm, List.isEmpty_iff]

theorem passing_sentinels (broken : Breakdowns) (kind : Kind) (order : List Int) :
    broken.passing (sentinels kind order) =
      sentinels kind (order.takeWhile fun id => (broken.push id.toNat).isNone) := by
  rw [Breakdowns.passing, sentinels, List.takeWhile_map]
  congr 2
  funext id
  simp

theorem attempts_sentinels {done : List Int} (h : ∀ id ∈ order, 0 ≤ id) (hd : done <+: order)
    (hn : order ≠ []) (shown : List Nat) :
    attempts k kind shown (sentinels kind order) (sentinels kind done) =
      (order.take (done.length + 1)).map (fun id => .push kind id.toNat shown) ++
        if done = order then (k.saveCall? kind).toList else [] := by
  have hl : (sentinels kind done).length = done.length := List.length_map _
  have he : sentinels kind done = sentinels kind order ↔ done = order := by
    refine ⟨fun he => ?_, fun he => he ▸ rfl⟩
    rw [← ids_sentinels h, ← he, ids_sentinels fun id hi => h id (hd.subset hi)]
  have hp : sentinels kind order ≠ [] := by simpa [sentinels] using hn
  have ht : pushes kind shown ((sentinels kind order).take (done.length + 1)) =
      (order.take (done.length + 1)).map fun id => .push kind id.toNat shown := by
    rw [pushes, sentinels, ← List.map_take, List.map_map]
    exact List.map_congr_left fun id _ => by simp
  rw [attempts, hl, ht]
  simp [he, hp]

theorem clears_of_write (hs : k.Sound) (hk : k.Reports kind records capacity) (ho : broken.Opens)
    (hn : order ≠ []) (hc : c.kind = kind)
    (hd : c.decide keys settings k = .write (sentinels kind order) order)
    (hm : ∀ id ∈ order, objection? kind records capacity id = none) :
    (c.run keys settings broken k).Clears broken k kind records order
      (order.takeWhile fun id => (broken.push id.toNat).isNone) := by
  subst hc
  have hp := List.takeWhile_prefix (l := order) fun id => (broken.push id.toNat).isNone
  have h₀ : ∀ id ∈ order, 0 ≤ id := fun id hi => (objection?_eq_none_iff.mp (hm id hi)).left
  have hm' := fun id hi => hm id (hp.subset hi)
  have ⟨failure, s, hr, he⟩ := run_course keys settings broken k c
  rw [hd] at hr
  obtain ⟨⟨shown, hs'⟩, hf⟩ := hr.did_of_write ho
  rw [passing_sentinels, attempts_sentinels h₀ hp hn] at hs'
  have hdn := (hs _ _ _ hk).distinct
  constructor
  case calls => exact ⟨shown, by rw [he, calls_conclude, hs'.calls, if_neg hn]⟩
  case stored =>
    rw [he, keyboard_conclude, hs'.keyboard, Keyboard.records?_writeAll_self hk.records,
      putAll_sentinels hdn hm']
  case others =>
    intro other hne
    rw [he, keyboard_conclude, hs'.keyboard, Keyboard.records?_writeAll_of_ne hne]
  case committed =>
    intro o hr
    rw [committed_of_conclude (he ▸ hr), hs'.committed]
    exact ids_sentinels fun id hi => h₀ id (hp.subset hi)
  case reported =>
    rw [he]
    cases hcl : (conclude broken failure s).result
    case ok o => exact .inl ⟨o, rfl⟩
    case error fault =>
      obtain ⟨hps, n, hn, hw⟩ := hf fault (conclude_error_iff.mp hcl)
      rw [passing_sentinels] at hps
      refine .inr ⟨?_, n, hn, hw⟩
      have hsl := congrArg slotsOf hps
      rwa [ids_sentinels h₀, ids_sentinels fun id hi => h₀ id (hp.subset hi)] at hsl

theorem clears_of_unread {refusal : Refusal} (hr : k.records? c.kind = some records)
    (hd : c.decide keys settings k = .unread (.refused refusal)) :
    (c.run keys settings broken k).Clears broken k c.kind records [] [] := by
  have ⟨failure, s, hc, he⟩ := run_course keys settings broken k c
  rw [hd] at hc
  have hf := hc.failure_of_unread
  have hs := hc.did_of_unread
  constructor
  case calls     => exact ⟨[], by rw [he, calls_conclude, hs.calls, if_pos rfl]⟩
  case stored    => rw [he, keyboard_conclude, hs.keyboard, emptied_nil, Keyboard.writeAll, hr]
  case others    => exact fun _ _ => by rw [he, keyboard_conclude, hs.keyboard]; rfl
  case committed => exact fun o ho => by rw [committed_of_conclude (he ▸ ho), hs.committed]; rfl
  case reported  =>
    cases hcl : (c.run keys settings broken k).result
    case ok o => exact .inl ⟨o, rfl⟩
    case error fault =>
      have := conclude_error_iff.mp (he ▸ hcl)
      simp [hf] at this

theorem decide_clear (hk : k.Reports kind records capacity)
    (hm : ∀ id ∈ order, objection? kind records capacity id = none) :
    (Request.clear order).decide k kind = .write (sentinels kind order) order := by
  have h₀ : ∀ id ∈ order, 0 ≤ id := fun id hi => (objection?_eq_none_iff.mp (hm id hi)).left
  rw [Request.decide_ok hk.records hk.count (Request.plan_clear_ok hm), Request.reported,
    ids_sentinels h₀]

-- The smallest slot that something stands against decides.
theorem decide_clear_refused (hk : k.Reports kind records capacity) (hp : order.Pairwise (· < ·))
    (hb : ∃ id ∈ order, objection? kind records capacity id ≠ none) :
    ∃ id ∈ order, ∃ refusal, objection? kind records capacity id = some refusal ∧
      (∀ other ∈ order, other < id → objection? kind records capacity other = none) ∧
      (Request.clear order).decide k kind = .refused refusal.failure := by
  cases hf : order.findSome? (objection? kind records capacity)
  case none =>
    obtain ⟨id, hi, hn⟩ := hb
    exact (hn (List.findSome?_eq_none_iff.mp hf id hi)).elim
  case some refusal =>
    obtain ⟨before, id, after, rfl, ho, hn⟩ := List.findSome?_eq_some_iff.mp hf
    refine ⟨id, by simp, refusal, ho, fun other hm hl => ?_, ?_⟩
    case refine_1 =>
      have ⟨_, hpa, _⟩ := List.pairwise_append.mp hp
      cases List.mem_append.mp hm
      case inl hm => exact hn other hm
      case inr hm =>
        cases hm
        case head => omega
        case tail hm =>
          have := List.rel_of_pairwise_cons hpa hm
          omega
    case refine_2 =>
      refine Request.decide_error hk.records hk.count ?_
      rw [Request.plan_clear_eq, hf]
      rfl

-- A deletion is refused for the smallest slot that does not exist or has no record, and then nothing is
-- written. A refusal is reported only if the number of that slot can be written out. If all slots have
-- records, they are cleared in ascending order up to the first push that fails. The order in which the
-- slots are given and how often makes no difference.
theorem run_delete (keys : κ) (settings : Settings) (broken : Breakdowns) (hs : k.Sound)
    (hk : k.Reports kind records capacity) (ho : broken.Opens) (hp : order.Pairwise (· < ·))
    (hm : ∀ id, id ∈ order ↔ id ∈ ids) :
    ((∃ id ∈ ids, objection? kind records capacity id ≠ none) →
      ∃ id ∈ ids, ∃ refusal, objection? kind records capacity id = some refusal ∧
        (∀ other ∈ ids, other < id → objection? kind records capacity other = none) ∧
        ((delete kind ids).run keys settings broken k).calls = opening ++ [.close] ∧
        ((delete kind ids).run keys settings broken k).keyboard = k ∧
        (broken.close = none →
          (Numeral.isWritable capacity → Numeral.isWritable id →
            ((delete kind ids).run keys settings broken k).FailsWith (.refused refusal)) ∧
          (¬Numeral.isWritable id →
            ((delete kind ids).run keys settings broken k).FailsWith (.faulted .unwritableNumber)))) ∧
    ((∀ id ∈ ids, objection? kind records capacity id = none) →
      ((delete kind ids).run keys settings broken k).Clears broken k kind records order
        (order.takeWhile fun id => (broken.push id.toNat).isNone)) ∧
    ∀ more, (∀ id, id ∈ more ↔ id ∈ ids) →
      (delete kind more).run keys settings broken k = (delete kind ids).run keys settings broken k := by
  have hq : order ≠ [] →
      (delete kind ids).decide keys settings k = (Request.clear order).decide k kind := by
    intro hn
    rw [decide, request_delete hp hm, if_neg hn]
    rfl
  refine ⟨fun hb => ?_, fun ha => ?_, fun more hmore => ?_⟩
  case refine_1 =>
    simp only [← hm] at hb ⊢
    obtain ⟨id, hi, refusal, hob, hl, hd⟩ := decide_clear_refused hk hp hb
    have hd := (hq (List.ne_nil_of_mem hi)).trans hd
    obtain ⟨hc, hk, hf⟩ := run_of_refused hd ho
    refine ⟨id, hi, refusal, hob, hl, hc, hk, fun hcl => ⟨fun hw hi => ?_, fun hi => ?_⟩⟩
    · exact failure_of_objection hob hw hi ▸ hf hcl
    · exact failure_of_objection_overlong hob hi ▸ hf hcl
  case refine_2 =>
    simp only [← hm] at ha
    by_cases hn : order = []
    case neg =>
      exact clears_of_write hs hk ho hn rfl ((hq hn).trans (decide_clear hk ha)) ha
    case pos =>
      subst hn
      refine clears_of_unread hk.records (?_ : _ = Decision.unread (.refused (.definition .noSlot)))
      rw [decide, request_delete hp hm, if_pos rfl]
      rfl
  case refine_3 =>
    have hsteps : (delete kind more).steps keys settings broken =
        (delete kind ids).steps keys settings broken := by
      have he := mergeSort_eraseDups_eq hp hm
      have he' := mergeSort_eraseDups_eq hp fun id => (hm id).trans (hmore id).symm
      simp only [steps, he, he']
    rw [run, run, hsteps]
    rfl

theorem run_delete_crowded :
    (∃ shown, ((delete .keyMacro [1, 0, 1, 2]).run KeyTable.blank {} .jammed .crowded).calls =
        [.init, .load, .push .keyMacro 0 shown, .push .keyMacro 1 shown, .close]) ∧
      ((delete .keyMacro [1, 0, 1, 2]).run KeyTable.blank {} .jammed .crowded).keyboard.records? .keyMacro =
        some [.keyMacro { id := 2, actions := [.tap 4] }, .keyMacro {},
          .keyMacro { id := 1, actions := [.tap 6] }] ∧
      ((delete .keyMacro [7, 0, 5]).run KeyTable.blank {} .jammed .crowded).FailsWith
        (.refused (.outOfRange .keyMacro 5 3)) := by
  have hk : Keyboard.crowded.Reports .keyMacro _ 3 := ⟨rfl, rfl⟩
  have ho : Breakdowns.jammed.Opens := ⟨rfl, rfl⟩
  have hs := Keyboard.sound_crowded
  have hm : ∀ id : Int, id ∈ [0, 1, 2] ↔ id ∈ [1, 0, 1, 2] := by grind
  have hm' : ∀ id : Int, id ∈ [0, 5, 7] ↔ id ∈ [7, 0, 5] := by grind
  obtain ⟨⟨shown, hc⟩, hst, -⟩ :=
    (run_delete KeyTable.blank {} _ hs hk ho (by decide) hm).right.left (by decide)
  obtain ⟨id, hi, refusal, hob, hl, -, -, hf⟩ :=
    (run_delete KeyTable.blank {} _ hs hk ho (by decide) hm').left (by decide)
  refine ⟨⟨shown, hc⟩, hst, ?_⟩
  have he : id = 5 := by
    simp only [List.mem_cons, List.not_mem_nil, or_false] at hi
    obtain rfl | rfl | rfl := hi
    · exact absurd (hl 5 (by decide) (by decide)) (by decide)
    · cases hob
    · rfl
  subst he
  cases hob
  exact (hf rfl).left (by decide +kernel) (by decide +kernel)

-- Where there is no way to save, nothing is saved though no push failed. Nor is it if there is no slot to
-- clear, and so no push to fail.
theorem run_delete_unsaved :
    (∃ shown o, ((delete .keyMacro [0]).run KeyTable.blank {} {} .unsaving).calls =
        [.init, .load, .push .keyMacro 0 shown, .close] ∧
      ((delete .keyMacro [0]).run KeyTable.blank {} {} .unsaving).result = .ok o ∧ o.ok = true ∧
      o.committed = [0]) ∧
    ((delete .keyMacro []).run KeyTable.blank {} {} .unsaving).calls = [.close] := by
  have hk : Keyboard.unsaving.Reports .keyMacro _ 1 := ⟨rfl, rfl⟩
  have ho : Breakdowns.Opens {} := ⟨rfl, rfl⟩
  constructor
  case left =>
    have hq : (delete .keyMacro [0]).request KeyTable.blank {} = .ok (.clear [0]) :=
      request_delete (by simp) fun _ => .rfl
    have hd : (delete .keyMacro [0]).decide KeyTable.blank {} .unsaving = .write [.keyMacro {}] [0] := by
      have hm : ∀ id ∈ [(0 : Int)],
          objection? .keyMacro [.keyMacro { actions := [.tap 4] }] 1 id = none := by decide
      rw [decide, hq]
      exact decide_clear hk hm
    obtain ⟨shown, s, hr, hok, hb⟩ :=
      run_of_write hd ho ⟨fun _ _ => rfl, fun _ _ => rfl⟩ (by decide +kernel)
    exact ⟨shown, s.outcome, by rw [hr, calls_conclude, hb.calls]; rfl, by rw [hr]; rfl, hok,
      hb.committed⟩
  case right =>
    have hd : (delete .keyMacro []).decide KeyTable.blank {} .unsaving =
        .unread (.refused (.definition .noSlot)) := by
      rw [decide, request_delete .nil fun _ => .rfl]
      rfl
    obtain ⟨_, hc⟩ := (clears_of_unread hk.records hd).calls
    exact hc

end Command
end KeySlots
