import KeySlots.Proofs.Command.Delete

namespace KeySlots

open Session Slot

variable {kind : Kind} {records : List Record} {capacity : Int} {ids more done : List Int}
  {request : Request}

namespace Request

inductive Clearing : Request → Prop
  | clear ids : Clearing (.clear ids)
  | clearWhere predicate : Clearing (.clearWhere predicate)

def targets (records : List Record) : Request → List Int
  | clear ids            => ids
  | clearWhere predicate => matching predicate records
  | _                    => []

theorem Clearing.plan_ok_iff {plan : List Record} (h : request.Clearing) :
    request.plan kind records capacity = .ok plan ↔
      (∀ id ∈ request.targets records, objection? kind records capacity id = none) ∧
        plan = sentinels kind (request.targets records) := by
  have hp : request.plan kind records capacity =
      (Request.clear (request.targets records)).plan kind records capacity := by
    cases h <;> rfl
  rw [hp, plan_clear_eq]
  cases hf : (request.targets records).findSome? (objection? kind records capacity)
  case none =>
    have hm := List.findSome?_eq_none_iff.mp hf
    simpa [eq_comm] using fun _ => hm
  case some refusal =>
    obtain ⟨id, hi, ho⟩ := List.exists_of_findSome?_eq_some hf
    refine iff_of_false (by simp [refuse]) fun ⟨hm, _⟩ => ?_
    simp [hm id hi] at ho

-- Once some of the slots that a request names are empty, clearing what it names then clears the rest.
theorem Clearing.emptied_targets (h : request.Clearing) (hd : done ⊆ request.targets records) :
    emptied kind (request.targets (emptied kind done records)) (emptied kind done records) =
      emptied kind (request.targets records) records := by
  rw [emptied_emptied]
  refine emptied_congr fun r _ => ?_
  rw [List.mem_append]
  cases h
  case clear ids => exact ⟨fun h => h.elim (fun h => hd h) fun h => h, .inr⟩
  case clearWhere predicate =>
    by_cases hm : (r.id : Int) ∈ done
    case pos => exact iff_of_true (.inl hm) (hd hm)
    case neg =>
      simp only [hm, false_or, targets, mem_matching]
      constructor
      case mp =>
        rintro ⟨s, hs, hp, he⟩
        obtain ⟨s, hs', rfl⟩ := List.mem_map.mp hs
        by_cases hsd : (s.id : Int) ∈ done
        case pos =>
          simp only [if_pos hsd, Record.id_sentinel] at he
          exact (hm (he ▸ hsd)).elim
        case neg =>
          rw [if_neg hsd] at hp he
          exact ⟨s, hs', hp, he⟩
      case mpr =>
        rintro ⟨s, hs, hp, he⟩
        have hsd : (s.id : Int) ∉ done := he ▸ hm
        exact ⟨s, List.mem_map.mpr ⟨s, hs, if_neg hsd⟩, hp, he⟩

theorem Clearing.objection?_emptied (h : request.Clearing) (ho : Orderly records capacity)
    (hm : ∀ id ∈ request.targets records, objection? kind records capacity id = none) (done : List Int) :
    ∀ id ∈ request.targets (emptied kind done records),
      objection? kind (emptied kind done records) capacity id = none := by
  have hi : (emptied kind done records).map (·.id) = records.map (·.id) := ids_emptied
  intro id hid
  cases h
  case clear                => exact (objection?_congr hi).trans (hm id hid)
  case clearWhere predicate => exact objection?_of_matching (ho.of_ids hi) id hid

-- What a request to clear has written in part, it completes if it is made again.
theorem Clearing.writeAll_again {k : Keyboard} {plan : List Record} (h : request.Clearing)
    (hk : k.Reports kind records capacity) (ho : Orderly records capacity)
    (hp : request.plan kind records capacity = .ok plan) (n : Nat) :
    ∃ rest plan', (k.writeAll kind (plan.take n)).Reports kind rest capacity ∧
      request.plan kind rest capacity = .ok plan' ∧
      (k.writeAll kind (plan.take n)).writeAll kind plan' = k.writeAll kind plan := by
  obtain ⟨hm, rfl⟩ := h.plan_ok_iff.mp hp
  have hsub : (request.targets records).take n ⊆ request.targets records := List.take_subset _ _
  have hm' := h.objection?_emptied ho hm ((request.targets records).take n)
  have hd : putAll records ((sentinels kind (request.targets records)).take n) =
      emptied kind ((request.targets records).take n) records := by
    rw [sentinels, ← List.map_take]
    exact putAll_sentinels ho.distinct fun id hi => hm id (hsub hi)
  have hr := Keyboard.records?_writeAll_self hk.records
    ((sentinels kind (request.targets records)).take n)
  rw [hd] at hr
  refine ⟨_, _, ⟨hr, ?_⟩, h.plan_ok_iff.mpr ⟨hm', rfl⟩, ?_⟩
  case refine_1 => rw [Keyboard.count?_writeAll, hk.count]
  case refine_2 =>
    have hi : (emptied kind ((request.targets records).take n) records).map (·.id) =
        records.map (·.id) := ids_emptied
    have hdn := hi ▸ ho.distinct
    rw [Keyboard.writeAll_eq hr, Keyboard.writeAll_eq hk.records, Keyboard.writeAll_eq hk.records,
      Entries.put_put, putAll_sentinels hdn hm', putAll_sentinels ho.distinct hm, h.emptied_targets hsub]

end Request

namespace Command

variable {κ : Type} [KeyCodec κ] {keys : κ} {settings : Settings} {broken : Breakdowns}
  {k : Keyboard} {c : Command}

theorem clearing_of_asks (hc : c.verb = "delete") (ha : c.Asks request) : request.Clearing := by
  cases c
  case delete =>
    cases ha
    exact .clear _
  case deleteMatching | deleteAllEmpty | deleteAllDisabled =>
    cases ha
    exact .clearWhere _
  all_goals simp [verb] at hc

-- A deletion in which calls have failed comes to the same, if it is run again, as if none had failed.
theorem run_delete_again (hs : k.Sound) (hc : c.verb = "delete") :
    (c.run keys settings {} (c.run keys settings broken k).keyboard).keyboard =
      (c.run keys settings {} k).keyboard := by
  obtain ⟨written, hw, he⟩ := run_keyboard keys settings broken k c
  rw [he]
  by_cases hn : written = []
  case pos => rw [hn]; rfl
  case neg =>
    obtain ⟨reported, hd⟩ := write_of_plan fun hp => hn (List.prefix_nil.mp (hp ▸ hw))
    obtain ⟨request, records, capacity, hq, hr, hct, hp, -⟩ := decide_write hd
    have hk : k.Reports c.kind records capacity := ⟨hr, hct⟩
    have hcl := clearing_of_asks hc (asks_of_request hq)
    obtain ⟨rest, plan', hk', hp', hwr⟩ := hcl.writeAll_again hk (hs _ _ _ hk) hp written.length
    rw [List.prefix_iff_eq_take.mp hw, run_unbroken, run_unbroken, plan_of_request hq hk' hp', hwr]

theorem run_delete_again_crowded :
    ((deleteMatching .keyMacro (·.id < 2) "low").run KeyTable.blank {} {}
      ((deleteMatching .keyMacro (·.id < 2) "low").run KeyTable.blank {} .jammed .crowded).keyboard).keyboard =
        ((deleteMatching .keyMacro (·.id < 2) "low").run KeyTable.blank {} {} .crowded).keyboard :=
  run_delete_again Keyboard.sound_crowded rfl

end Command
end KeySlots
