import KeySlots.Proofs.Command.Commute
import KeySlots.Proofs.Command.Occupancy
import KeySlots.Proofs.Command.Repeat

namespace KeySlots

open Session Slot

variable {κ : Type} [KeyCodec κ] {keys : κ} {settings : Settings} {broken : Breakdowns}
  {k : Keyboard} {c d : Command}
  {kind : Kind} {record r : Record} {records : List Record} {capacity : Int} {ids : List Int}
  {predicate : Record → Bool} {description : String}

def Record.isSwitchedOff : Record → Bool
  | keyOverride o => !o.enabled
  | _ => false

theorem Record.isDisabled_eq (r : Record) : r.isDisabled = (!r.isEmpty && r.isSwitchedOff) := by
  cases r <;> simp [isDisabled, isSwitchedOff]

theorem Record.isDisabled_sentinel (kind : Kind) (id : Nat) :
    (Record.sentinel kind id).isDisabled = false := by
  rw [Record.isDisabled_eq, Record.isEmpty_sentinel]
  rfl

namespace Slot

def emptiedWhere (kind : Kind) (predicate : Record → Bool) (records : List Record) : List Record :=
  records.map fun r => if predicate r then .sentinel kind r.id else r

theorem pairwise_matching (hd : (records.map (·.id)).Nodup) (predicate : Record → Bool) :
    (matching predicate records).Pairwise (· < ·) := by
  have hn : records.Pairwise fun r s => (r.id : Int) ≠ s.id :=
    (List.pairwise_map.mp hd).imp fun hne he => hne (Int.ofNat_inj.mp he)
  exact (strict_mergeSort_iff _).mpr (List.pairwise_map.mpr (hn.filter _))

theorem mem_matching_iff (hd : (records.map (·.id)).Nodup) (hm : r ∈ records) :
    (r.id : Int) ∈ matching predicate records ↔ predicate r := by
  rw [mem_matching]
  constructor
  case mp =>
    rintro ⟨s, hs, hp, he⟩
    cases (find?_of_mem hd hs).symm.trans (he ▸ find?_of_mem hd hm)
    exact hp
  case mpr => exact fun hp => ⟨r, hm, hp, rfl⟩

theorem emptied_matching (hd : (records.map (·.id)).Nodup) :
    emptied kind (matching predicate records) records = emptiedWhere kind predicate records :=
  List.map_congr_left fun r hr => by simp only [mem_matching_iff hd hr]

theorem isDisabled_of_mem (h : r ∈ emptiedWhere kind (·.isDisabled) records) : r.isDisabled = false := by
  obtain ⟨s, -, rfl⟩ := List.mem_map.mp h
  split
  case isTrue    => exact Record.isDisabled_sentinel _ _
  case isFalse h => simpa using h

theorem filter_emptiedWhere (kind : Kind) (records : List Record) :
    (emptiedWhere kind (·.isDisabled) records).filter (!·.isEmpty) =
      records.filter fun r => !r.isEmpty && !r.isSwitchedOff := by
  rw [emptiedWhere]
  induction records
  case nil => rfl
  case cons r records hi =>
    rw [List.map_cons, List.filter_cons, List.filter_cons, hi, Record.isDisabled_eq]
    cases he : r.isEmpty <;> cases hs : r.isSwitchedOff <;> simp [he]

end Slot

namespace Command

theorem run_eq_of_run (hv : c.verb = d.verb) (hk : c.kind = d.kind)
    (hs : (c.steps keys settings broken).run (c.start k) = (d.steps keys settings broken).run (c.start k)) :
    c.run keys settings broken k = d.run keys settings broken k := by
  rw [run, run, Session.run, Session.run, ← hv, ← hk, hs]

theorem load_ensures (broken : Breakdowns) (k : Keyboard) (c : Command) :
    Ensures (load broken c.kind) (c.start k)
      (fun loaded _ => k.Reports c.kind loaded.1 loaded.2) fun _ _ => True := by
  have hb : (c.start k).Begun k c.kind := ⟨⟨rfl, rfl, rfl⟩, rfl, rfl, rfl⟩
  have hd : ∀ f, Request.list.decide k c.kind ≠ .unread f := fun _ => Request.decide_ne_unread
  exact (hb.load hd Request.decide_not_reported).mono (fun _ _ h => ⟨h.records, h.count⟩)
    fun _ _ _ => trivial

theorem clearStep_eq (h : ids ≠ []) (nothing other : String) :
    clearStep broken kind records capacity ids nothing =
      clearStep broken kind records capacity ids other := by
  simp only [clearStep, List.isEmpty_iff, if_neg h]

theorem run_deleteMatching_eq (hd : (records.map (·.id)).Nodup) (hk : k.Reports kind records capacity)
    (hp : ∃ r ∈ records, predicate r) (hi : ∀ id, id ∈ ids ↔ id ∈ matching predicate records) :
    (deleteMatching kind predicate description).run keys settings broken k =
      (delete kind ids).run keys settings broken k := by
  have ho := mergeSort_eraseDups_eq (pairwise_matching hd predicate) fun id => (hi id).symm
  have hne : matching predicate records ≠ [] := by
    obtain ⟨r, hr, hp⟩ := hp
    exact List.ne_nil_of_mem (mem_matching.mpr ⟨r, hr, hp, rfl⟩)
  refine run_eq_of_run rfl rfl ?_
  have hs : (delete kind ids).steps keys settings broken = (do
      let loaded ← load broken kind
      clearStep broken kind loaded.1 loaded.2 (matching predicate records) "") := by
    rw [steps, ho, if_neg (by simpa using hne)]
  rw [hs]
  refine Ensures.run_bind_eq ((load_ensures broken k (delete kind ids)).mono ?_ fun _ _ _ => trivial)
  rintro ⟨_, _⟩ s ⟨hr, hc⟩
  cases hk.records.symm.trans hr
  cases hk.count.symm.trans hc
  exact congrArg (·.run s) (clearStep_eq hne _ _)

theorem decide_clearWhere_ok (hs : k.Sound) (hk : k.Reports kind records capacity)
    (predicate : Record → Bool) :
    (Request.clearWhere predicate).decide k kind =
      .write (sentinels kind (matching predicate records)) (matching predicate records) := by
  rw [Request.decide_clearWhere hk.records]
  exact decide_clear hk (objection?_of_matching (hs _ _ _ hk))

theorem matching_eq_nil_iff : matching predicate records = [] ↔ ∀ r ∈ records, predicate r = false := by
  rw [List.eq_nil_iff_forall_not_mem]
  constructor
  case mp  => exact fun h r hr => by simpa using fun hp => h r.id (mem_matching.mpr ⟨r, hr, hp, rfl⟩)
  case mpr =>
    intro h id hi
    obtain ⟨r, hr, hp, -⟩ := mem_matching.mp hi
    simp [h r hr] at hp

theorem run_of_nothing (hd : c.decide keys settings k = .write [] []) (ho : broken.Opens)
    (hc : broken.close = none) :
    (c.run keys settings broken k).Succeeds (fun _ => True) ∧
      (c.run keys settings broken k).calls = [.init, .load, .close] ∧
      (c.run keys settings broken k).keyboard = k := by
  obtain ⟨shown, s, hr, hok, hb⟩ := run_of_write hd ho ⟨nofun, nofun⟩ nofun
  rw [hr, calls_conclude, keyboard_conclude, hb.calls, hb.keyboard]
  refine ⟨⟨s.outcome, ?_, hok, trivial⟩, rfl, rfl⟩
  simp [conclude, close, hc, Except.map]

theorem calls_of_nothing (h : c.plan keys settings k = []) :
    ∀ call ∈ (c.run keys settings broken k).calls, call ∈ [.init, .load, .close] := by
  have ⟨failure, s, hc, he⟩ := run_course keys settings broken k c
  obtain ⟨shown, hp, -⟩ := hc.calls
  have hp : s.calls <+: [.init, .load] := by
    rwa [show (c.decide keys settings k).plan = [] from h] at hp
  intro call hm
  rw [he, calls_conclude] at hm
  have := List.mem_append.mp hm |>.imp_left (hp.subset ·)
  grind

end Command

-- What is left once the key overrides that are switched off were deleted.
structure Session.Ending.Tidies (e : Ending) (keys : κ) (settings : Settings) (k : Keyboard)
    (records : List Record) (capacity : Int) : Prop where
  stored   : e.keyboard.records? .keyOverride =
    some (emptiedWhere .keyOverride (·.isDisabled) records)
  none     : ∀ r ∈ (e.keyboard.records? .keyOverride).getD [], r.isDisabled = false
  others   : ∀ kind, kind ≠ .keyOverride → e.keyboard.records? kind = k.records? kind
  listable : (∃ o, ((Command.list .keyOverride).run keys settings {} e.keyboard).result = .ok o) ↔
    Numeral.isWritable capacity
  listed   : ∀ o, ((Command.list .keyOverride).run keys settings {} e.keyboard).result = .ok o →
    o.ok = true ∧ o.records = records.filter fun r => !r.isEmpty && !r.isSwitchedOff
  again    : ∀ broken, ∀ kind id shown, .push kind id shown ∉
    (Command.deleteAllDisabled.run keys settings broken e.keyboard).calls

namespace Command

theorem result_list (keys : κ) (settings : Settings) (hk : k.Reports kind records capacity) :
    ((∃ o, ((list kind).run keys settings {} k).result = .ok o) ↔ Numeral.isWritable capacity) ∧
      ∀ o, ((list kind).run keys settings {} k).result = .ok o →
        o.ok = true ∧ o.records = records.filter (!·.isEmpty) := by
  by_cases hw : Numeral.isWritable capacity
  case pos =>
    have hl : ((list kind).run keys settings {} k).result = _ := run_list hk hw
    refine ⟨iff_of_true ⟨_, hl⟩ hw, fun o ho => ?_⟩
    cases ho.symm.trans hl
    exact ⟨rfl, rfl⟩
  case neg =>
    have hl : ((list kind).run keys settings {} k).result = _ := run_list_overlong hk hw
    simp [hl, hw]

theorem tidies_of_ok {o : Outcome} (hs : k.Sound) (hk : k.Reports .keyOverride records capacity)
    (h : (deleteAllDisabled.run keys settings broken k).result = .ok o) (ho : o.ok = true) :
    (deleteAllDisabled.run keys settings broken k).Tidies keys settings k records capacity := by
  obtain ⟨plan, _, hd, he, -⟩ := write_of_ok h ho
  cases (decide_clearWhere_ok hs hk (·.isDisabled)).symm.trans hd
  have hn := (hs _ _ _ hk).distinct
  have hst : (deleteAllDisabled.run keys settings broken k).keyboard.records? .keyOverride =
      some (emptiedWhere .keyOverride (·.isDisabled) records) := by
    rw [he, Command.kind, Keyboard.records?_writeAll_self hk.records,
      putAll_sentinels hn (objection?_of_matching (hs _ _ _ hk)), emptied_matching hn]
  have hk' : (deleteAllDisabled.run keys settings broken k).keyboard.Reports .keyOverride _ capacity :=
    ⟨hst, (count?_run ..).trans hk.count⟩
  have hl := result_list keys settings hk'
  constructor
  case stored   => exact hst
  case none     => rw [hst]; exact fun _ => isDisabled_of_mem
  case others   => exact fun kind hne => (run_frame hne).records
  case listable => exact hl.left
  case listed =>
    intro o ho
    rw [(hl.right o ho).right, filter_emptiedWhere]
    exact ⟨(hl.right o ho).left, rfl⟩
  case again =>
    intro broken' kind id shown hm
    have hp : (Request.clearWhere (·.isDisabled)).plan .keyOverride
        (emptiedWhere .keyOverride (·.isDisabled) records) capacity = .ok [] := by
      rw [Request.plan_clearWhere, matching_eq_nil_iff.mpr fun _ => isDisabled_of_mem]
      rfl
    have hp : deleteAllDisabled.plan keys settings
        (deleteAllDisabled.run keys settings broken k).keyboard = [] := plan_of_request rfl hk' hp
    simpa using calls_of_nothing hp _ hm

-- Deleting by a predicate comes to deleting the slots of the records that it holds of, whichever calls
-- fail. If it holds of none, nothing is written. So once the key overrides that are switched off are
-- deleted, they are gone, and everything else is as it was.
theorem run_deleteMatching (keys : κ) (settings : Settings) (broken : Breakdowns) (hs : k.Sound) :
    (∀ kind records capacity predicate description, k.Reports kind records capacity →
      ((∃ r ∈ records, predicate r) → ∀ ids : List Int,
        (∀ id, id ∈ ids ↔ ∃ r ∈ records, predicate r ∧ (r.id : Int) = id) →
        (deleteMatching kind predicate description).run keys settings broken k =
          (delete kind ids).run keys settings broken k) ∧
      ((∀ r ∈ records, predicate r = false) → broken.Opens → broken.close = none →
        let e := (deleteMatching kind predicate description).run keys settings broken k
        e.Succeeds (fun _ => True) ∧ e.calls = [.init, .load, .close] ∧ e.keyboard = k)) ∧
    ∀ records capacity, k.Reports .keyOverride records capacity →
      (deleteAllDisabled.run keys settings broken k).Succeeds (fun _ => True) →
      (deleteAllDisabled.run keys settings broken k).Tidies keys settings k records capacity := by
  refine ⟨fun kind records capacity predicate description hk => ⟨fun hp ids hi => ?_, fun hp ho hc => ?_⟩,
    fun records capacity hk ⟨o, h, ho, _⟩ => tidies_of_ok hs hk h ho⟩
  case refine_1 =>
    exact run_deleteMatching_eq (hs _ _ _ hk).distinct hk hp fun id => (hi id).trans mem_matching.symm
  case refine_2 =>
    have hd := decide_clearWhere_ok hs hk predicate
    rw [matching_eq_nil_iff.mpr hp] at hd
    exact run_of_nothing hd ho hc

end Command

def Keyboard.switched : Keyboard where
  counts := [(.keyOverride, some 3)]
  stored := [(.keyOverride, [.keyOverride { id := 1, trigger := 4, enabled := false },
    .keyOverride { trigger := 5 }, .sentinel .keyOverride 2])]

theorem Keyboard.sound_switched : Keyboard.switched.Sound := by
  rintro kind records capacity ⟨hr, hc⟩
  cases kind <;> cases hr
  cases hc
  exact ⟨by decide, by decide⟩

namespace Command

theorem run_deleteMatching_switched :
    (deleteMatching .keyOverride (·.isDisabled) "odd").run KeyTable.blank {} {} .switched =
        (delete .keyOverride [1]).run KeyTable.blank {} {} .switched ∧
      ((deleteMatching .keyOverride (fun _ => false) "odd").run KeyTable.blank {} {} .switched).calls =
        [.init, .load, .close] ∧
      (deleteAllDisabled.run KeyTable.blank {} {} .switched).keyboard.records? .keyOverride =
        some [.sentinel .keyOverride 1, .keyOverride { trigger := 5 }, .sentinel .keyOverride 2] := by
  have hk : Keyboard.switched.Reports .keyOverride _ 3 := ⟨rfl, rfl⟩
  obtain ⟨hm, hd⟩ := run_deleteMatching KeyTable.blank {} {} Keyboard.sound_switched
  refine ⟨?_, ?_, ?_⟩
  case refine_1 =>
    refine (hm _ _ _ (·.isDisabled) "odd" hk).left (by decide) [1] fun id => ?_
    simpa [Record.isDisabled, Record.isEmpty, Record.sentinel, Record.id, KeyCode.none] using eq_comm
  case refine_2 => exact ((hm _ _ _ (fun _ => false) "odd" hk).right (by simp) ⟨rfl, rfl⟩ rfl).right.left
  case refine_3 =>
    have h : (deleteAllDisabled.run KeyTable.blank {} {} .switched).result.toOption.map (·.ok) = some true := by
      decide +kernel
    obtain ⟨o, h, ho⟩ := Option.map_eq_some_iff.mp h
    exact (hd _ _ hk ⟨o, ok_of_toOption h, ho, trivial⟩).stored

end Command
end KeySlots
