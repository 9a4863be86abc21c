import KeySlots.Proofs.Command.Fill

namespace KeySlots

open Session Slot

variable {κ : Type} [KeyCodec κ]

namespace Session.Ending

variable {e : Ending} {o : Outcome} {f : Failure} {Q : Outcome → Prop}

def Succeeds (e : Ending) (Q : Outcome → Prop) : Prop :=
  ∃ o, e.result = .ok o ∧ o.ok = true ∧ Q o

theorem succeeds_iff (ho : e.result = .ok o) (hok : o.ok = true) : e.Succeeds Q ↔ Q o := by
  simp [Succeeds, ho, hok]

theorem FailsWith.not_succeeds (h : e.FailsWith f) : ¬e.Succeeds Q := by
  rintro ⟨o, ho, hok, _⟩
  cases h
  case refused ho' hn _ _ _ =>
    cases ho.symm.trans ho'
    simp [hok] at hn
  case faulted hf => cases ho.symm.trans hf

theorem FailsWith.name_eq {r r' : Refusal} (h : e.FailsWith (.refused r))
    (h' : e.FailsWith (.refused r')) : r.name = r'.name := by
  cases h
  case refused ho _ _ he _ =>
    cases h'
    case refused ho' _ _ he' _ =>
      cases ho.symm.trans ho'
      exact Option.some.inj (he.symm.trans he')

theorem FailsWith.not_faulted {r : Refusal} {fault : Fault} (h : e.FailsWith (.refused r)) :
    ¬e.FailsWith (.faulted fault) := by
  intro h'
  cases h
  case refused ho _ _ _ _ =>
    cases h'
    case faulted hf => cases ho.symm.trans hf

end Session.Ending

variable {keys : κ} {settings : Settings} {k : Keyboard} {c : Command} {kind : Kind}
  {record r : Record} {records : List Record} {capacity id : Int} {o : Outcome}

namespace Command

theorem plan_get_eq (kind : Kind) (records : List Record) (capacity id : Int) :
    (Request.get id).plan kind records capacity = (do
      let _ ← checkRange kind id capacity
      (occupant? records id).elim (refuse (.notFound kind id)) fun _ => .ok []) := by
  rw [Request.plan, lookup, occupant?]
  cases checkRange kind id capacity
  case error => rfl
  case ok =>
    cases find? records id
    case none   => rfl
    case some r => cases h : r.isEmpty <;> simp [bind, Except.bind, Option.filter, h]

-- All that the look-up of a slot can come to, if the number of slots can be reported.
inductive LooksUp (kind : Kind) (records : List Record) (capacity id : Int) (e : Ending) : Prop
  | found (r : Record) :
    0 ≤ id → id < capacity → occupant? records id = some r → e.Succeeds (·.records = [r]) →
    LooksUp kind records capacity id e
  | free :
    0 ≤ id → id < capacity → occupant? records id = none →
    e.FailsWith (.refused (.notFound kind id)) →
    LooksUp kind records capacity id e
  | outside :
    ¬(0 ≤ id ∧ id < capacity) → occupant? records id = none → Numeral.isWritable id →
    e.FailsWith (.refused (.outOfRange kind id capacity)) →
    LooksUp kind records capacity id e
  | overlong :
    ¬(0 ≤ id ∧ id < capacity) → occupant? records id = none → ¬Numeral.isWritable id →
    e.FailsWith (.faulted .unwritableNumber) →
    LooksUp kind records capacity id e

namespace LooksUp

variable {e : Ending} (h : LooksUp kind records capacity id e)
include h

theorem succeeds_iff : e.Succeeds (fun _ => True) ↔ (occupant? records id).isSome := by
  cases h
  case found r _ _ hr hx =>
    obtain ⟨o, ho, hok, _⟩ := hx
    simp [Ending.succeeds_iff ho hok, hr]
  case free hf hn                         => simpa [hf] using hn.not_succeeds
  case outside hf _ hn | overlong hf _ hn => simpa [hf] using hn.not_succeeds

theorem read_iff : e.Succeeds (·.records = [r]) ↔ occupant? records id = some r := by
  cases h
  case found s _ _ hs hx =>
    obtain ⟨o, ho, hok, hr⟩ := hx
    simp [Ending.succeeds_iff ho hok, hs, hr]
  case free hf hn                         => simpa [hf] using hn.not_succeeds
  case outside hf _ hn | overlong hf _ hn => simpa [hf] using hn.not_succeeds

theorem outOfRange_iff :
    e.FailsWith (.refused (.outOfRange kind id capacity)) ↔
      ¬(0 ≤ id ∧ id < capacity) ∧ Numeral.isWritable id := by
  cases h
  case found h₀ hl _ hx => exact iff_of_false (fun h => h.not_succeeds hx) (by simp [h₀, hl])
  case free h₀ hl _ hn =>
    refine iff_of_false (fun h => ?_) (by simp [h₀, hl])
    have he := h.name_eq hn
    simp [Refusal.name] at he
  case outside hr _ hi hn  => exact iff_of_true hn ⟨hr, hi⟩
  case overlong hr _ hi hn => exact iff_of_false (fun h => h.not_faulted hn) fun h => hi h.right

theorem notFound_iff :
    e.FailsWith (.refused (.notFound kind id)) ↔
      0 ≤ id ∧ id < capacity ∧ ¬(occupant? records id).isSome := by
  cases h
  case found hr hx      => exact iff_of_false (fun h => h.not_succeeds hx) (by simp [hr])
  case free h₀ hl hf hn => exact iff_of_true hn ⟨h₀, hl, by simp [hf]⟩
  case outside hr _ _ hn =>
    refine iff_of_false (fun h => ?_) fun ⟨h₀, hl, _⟩ => hr ⟨h₀, hl⟩
    have he := hn.name_eq h
    simp [Refusal.name] at he
  case overlong hr _ _ hn => exact iff_of_false (fun h => h.not_faulted hn) fun ⟨h₀, hl, _⟩ => hr ⟨h₀, hl⟩

theorem overlong_iff (hw : Numeral.isWritable capacity) :
    e.FailsWith (.faulted .unwritableNumber) ↔ ¬Numeral.isWritable id := by
  have hi (h₀ : 0 ≤ id) (hl : id < capacity) : Numeral.isWritable id :=
    Numeral.isWritable_of_le h₀ (by omega) hw
  cases h
  case found h₀ hl _ hx    => exact iff_of_false (fun h => h.not_succeeds hx) (by simp [hi h₀ hl])
  case free h₀ hl _ hn     => exact iff_of_false hn.not_faulted (by simp [hi h₀ hl])
  case outside hi hn       => exact iff_of_false hn.not_faulted (by simp [hi])
  case overlong hi hn      => exact iff_of_true hn hi

end LooksUp

theorem run_get_looksUp (hk : k.Reports kind records capacity) (hs : Orderly records capacity)
    (hw : Numeral.isWritable capacity) (id : Int) :
    LooksUp kind records capacity id ((get kind id).run keys settings {} k) := by
  have hp := plan_get_eq kind records capacity id
  have hf {f} (h : (Request.get id).plan kind records capacity = .error f) :
      ((get kind id).run keys settings {} k).FailsWith f := by
    have hd : (get kind id).decide keys settings k = .refused f :=
      Request.decide_error hk.records hk.count h
    exact (run_of_refused hd ⟨rfl, rfl⟩).right.right rfl
  by_cases hr : 0 ≤ id ∧ id < capacity
  case neg =>
    have ho : occupant? records id = none := by
      rw [Option.eq_none_iff_forall_ne_some]
      intro r h
      obtain ⟨hm, hi, _⟩ := (occupant?_eq_some_iff hs.distinct).mp h
      have := hs.inRange r hm
      omega
    rw [checkRange, if_neg (by simpa using hr)] at hp
    by_cases hi : Numeral.isWritable id
    case pos => exact .outside hr ho hi (failure_outOfRange hw hi ▸ hf hp)
    case neg => exact .overlong hr ho hi (failure_outOfRange_overlong hi ▸ hf hp)
  case pos =>
    have h₀ := hr.left
    have hl := hr.right
    have hi : Numeral.isWritable id := Numeral.isWritable_of_le h₀ (by omega) hw
    rw [checkRange, if_pos (by simpa using hr)] at hp
    cases ho : occupant? records id
    case none =>
      rw [ho] at hp
      have he : (Refusal.notFound kind id).failure = .refused (.notFound kind id) :=
        Refusal.failure_of_writable (by simpa [Refusal.numbers] using hi)
      exact .free h₀ hl ho (he ▸ hf hp)
    case some r =>
      obtain ⟨hfd, he⟩ := Option.filter_eq_some_iff.mp ho
      have hlk : lookup kind records capacity id = .ok r := lookup_ok_iff.mpr ⟨h₀, hl, hfd⟩
      exact .found r h₀ hl ho ⟨_, run_get hk hlk (by simpa using he) hi, rfl, rfl⟩

theorem add_succeeds_iff (hk : k.Reports c.kind records capacity) (hs : Orderly records capacity)
    (hq : c.request keys settings = .ok (.add record)) (id : Int) :
    (c.run keys settings {} k).Succeeds (·.slotId = some id) ↔
      0 ≤ id ∧ id < capacity ∧ occupant? records id = none ∧
        ∀ i, 0 ≤ i → i < id → (occupant? records i).isSome := by
  have hh : (c.run keys settings {} k).Succeeds (·.slotId = some id) ↔
      ∃ slot : Nat, id = slot ∧ (freeSlots records capacity).head? = some slot := by
    cases hf : freeSlots records capacity
    case nil => simpa using (run_full hs.distinct hk hq hf).left.not_succeeds
    case cons slot rest =>
      obtain ⟨o, ho, hok, hsl, _⟩ := run_add hq hk (firstEmpty_of_cons hs.distinct hf)
      rw [Ending.succeeds_iff ho hok, hsl]
      simp [eq_comm]
  simp only [hh, head?_freeSlots_eq_some_iff]
  constructor
  case mp =>
    rintro ⟨slot, rfl, hl, ho, ha⟩
    refine ⟨by omega, hl, ho, fun i h₀ hi => ?_⟩
    have := ha i.toNat (by omega)
    rwa [Int.toNat_of_nonneg h₀] at this
  case mpr =>
    intro ⟨h₀, hl, ho, ha⟩
    refine ⟨id.toNat, by omega, by omega, ?_, fun i hi => ha i (by omega) (by omega)⟩
    rwa [Int.toNat_of_nonneg h₀]

theorem add_exhausted_iff (hk : k.Reports c.kind records capacity) (hs : Orderly records capacity)
    (hw : Numeral.isWritable capacity) (hq : c.request keys settings = .ok (.add record)) :
    (c.run keys settings {} k).FailsWith (.refused (.slotsExhausted c.kind capacity)) ↔
      ∀ id, 0 ≤ id → id < capacity → (occupant? records id).isSome := by
  have hi : (∀ id, 0 ≤ id → id < capacity → (occupant? records id).isSome) ↔
      freeSlots records capacity = [] := by
    rw [freeSlots_eq_nil_iff]
    constructor
    case mp => exact fun h id hl => h id (by omega) hl
    case mpr =>
      intro h id h₀ hl
      have := h id.toNat (by omega)
      rwa [Int.toNat_of_nonneg h₀] at this
  rw [hi]
  cases hf : freeSlots records capacity
  case nil =>
    have he : (Refusal.slotsExhausted c.kind capacity).failure =
        .refused (.slotsExhausted c.kind capacity) := by
      rw [failure_slotsExhausted_eq, if_pos]
      simp only [Numeral.isWritable, decide_eq_true_eq] at hw ⊢
      omega
    simpa [he] using (run_full hs.distinct hk hq hf).left
  case cons slot rest =>
    obtain ⟨o, ho, hok, _⟩ := run_add hq hk (firstEmpty_of_cons hs.distinct hf)
    simpa using fun h : Ending.FailsWith _ _ => h.not_succeeds (Q := fun _ => True) ⟨o, ho, hok, trivial⟩

end Command

-- What a list of the records in the slots of a keyboard is good for: it tells of every slot what its
-- look-up comes to, and where the next record is added.
structure Outcome.Charts (o : Outcome) (keys : κ) (settings : Settings) (k : Keyboard)
    (kind : Kind) (capacity : Int) : Prop where
  ok         : o.ok = true
  slots      : o.slotIds = slotsOf o.records
  readable   : ∀ id, ((Command.get kind id).run keys settings {} k).Succeeds (fun _ => True) ↔
    id ∈ o.slotIds
  read       : ∀ id r, ((Command.get kind id).run keys settings {} k).Succeeds (·.records = [r]) ↔
    r ∈ o.records ∧ (r.id : Int) = id
  outOfRange : ∀ id, ((Command.get kind id).run keys settings {} k).FailsWith
    (.refused (.outOfRange kind id capacity)) ↔ ¬(0 ≤ id ∧ id < capacity) ∧ Numeral.isWritable id
  overlong   : ∀ id, ((Command.get kind id).run keys settings {} k).FailsWith
    (.faulted .unwritableNumber) ↔ ¬Numeral.isWritable id
  notFound   : ∀ id, ((Command.get kind id).run keys settings {} k).FailsWith
    (.refused (.notFound kind id)) ↔ 0 ≤ id ∧ id < capacity ∧ id ∉ o.slotIds
  added      : ∀ (c : Command) record, c.kind = kind → c.request keys settings = .ok (.add record) →
    ∀ id, (c.run keys settings {} k).Succeeds (·.slotId = some id) ↔
      0 ≤ id ∧ id < capacity ∧ id ∉ o.slotIds ∧ ∀ i, 0 ≤ i → i < id → i ∈ o.slotIds
  exhausted  : ∀ (c : Command) record, c.kind = kind → c.request keys settings = .ok (.add record) →
    ((c.run keys settings {} k).FailsWith (.refused (.slotsExhausted kind capacity)) ↔
      ∀ id, 0 ≤ id → id < capacity → id ∈ o.slotIds)

namespace Command

theorem run_list_overlong (hk : k.Reports kind records capacity) (hw : ¬Numeral.isWritable capacity) :
    ((list kind).run keys settings {} k).result = .error .unwritableNumber := by
  have hs : Ensures ((list kind).steps keys settings {}) ((list kind).start k) (fun _ _ => False)
      fun f _ => f = .faulted .unwritableNumber := by
    rw [steps, ensures_bind, ensures_load rfl hk]
    simp [hw, succeed]
  obtain ⟨failure, s, he, hn, hf⟩ := run_of_ensures hs
  cases failure
  case none => exact (hn rfl).elim
  case some f =>
    cases hf f rfl
    rw [he]
    rfl

-- Where slots are distinct and in range, the records are listed unless their number of slots is too long
-- to be reported. Whatever slots are listed, those can be looked up, and no others; and the next record
-- is added in the least of the others. That a slot is out of range is reported only if its number can be
-- written out.
theorem list_charts (hk : k.Reports kind records capacity) (hs : Orderly records capacity) :
    ((∃ o, ((list kind).run keys settings {} k).result = .ok o) ↔ Numeral.isWritable capacity) ∧
      ∀ o, ((list kind).run keys settings {} k).result = .ok o →
        o.Charts keys settings k kind capacity := by
  by_cases hw : Numeral.isWritable capacity
  case neg =>
    have hl : ((list kind).run keys settings {} k).result = _ := run_list_overlong hk hw
    simp [hl, hw]
  case pos =>
    have hl : ((list kind).run keys settings {} k).result = _ := run_list hk hw
    refine ⟨iff_of_true ⟨_, hl⟩ hw, fun o ho => ?_⟩
    cases ho.symm.trans hl
    have hm (id : Int) :
        id ∈ slotsOf (records.filter (!·.isEmpty)) ↔ (occupant? records id).isSome := by
      rw [isSome_occupant?_iff hs.distinct, slotsOf, List.mem_map]
    have hg (id : Int) : LooksUp kind records capacity id ((get kind id).run keys settings {} k) :=
      run_get_looksUp hk hs hw id
    constructor
    case ok         => rfl
    case slots      => rfl
    case readable   => exact fun id => (hg id).succeeds_iff.trans (hm id).symm
    case outOfRange => exact fun id => (hg id).outOfRange_iff
    case overlong   => exact fun id => (hg id).overlong_iff hw
    case notFound   => exact fun id => by rw [hm, (hg id).notFound_iff]
    case read =>
      intro id r
      rw [(hg id).read_iff, occupant?_eq_some_iff hs.distinct, List.mem_filter]
      grind
    case added =>
      rintro c record rfl hq id
      simp [hm, add_succeeds_iff hk hs hq]
    case exhausted =>
      rintro c record rfl hq
      simp only [hm, add_exhausted_iff hk hs hw hq]

theorem list_charts_patchy :
    ∃ o, ((list .keyMacro).run KeyTable.blank {} {} .patchy).result = .ok o ∧ o.slotIds = [2, 0] ∧
      ((get .keyMacro 2).run KeyTable.blank {} {} .patchy).Succeeds (fun _ => True) ∧
      ((get .keyMacro 3).run KeyTable.blank {} {} .patchy).FailsWith (.refused (.notFound .keyMacro 3)) ∧
      ((get .keyMacro 4).run KeyTable.blank {} {} .patchy).FailsWith (.refused (.outOfRange .keyMacro 4 4)) ∧
      (addTap.run KeyTable.blank {} {} .patchy).Succeeds (·.slotId = some 1) := by
  have hk : Keyboard.patchy.Reports .keyMacro _ 4 := ⟨rfl, rfl⟩
  have hw : Numeral.isWritable 4 := by decide +kernel
  have hl : ((list .keyMacro).run KeyTable.blank {} {} .patchy).result = _ := run_list hk hw
  have ho := (list_charts hk (Keyboard.sound_patchy _ _ _ hk)).right _ hl
  have hs : slotsOf (List.filter (!·.isEmpty) [.keyMacro { id := 3 },
      .keyMacro { id := 2, actions := [.tap 4] }, .keyMacro { actions := [.tap 5] }]) = [2, 0] := by decide
  refine ⟨_, hl, hs, (ho.readable 2).mpr ?_, (ho.notFound 3).mpr ?_, ?_, ?_⟩
  case refine_1 => simp [hs]
  case refine_2 => simp [hs]
  case refine_3 => exact (ho.outOfRange 4).mpr ⟨by decide, hw⟩
  case refine_4 =>
    refine (ho.added addTap _ rfl rfl 1).mpr ⟨by decide, by decide, by simp [hs], fun i h₀ hi => ?_⟩
    have : i = 0 := by omega
    simp [hs, this]

-- A slot that does not exist is not reported as out of range if its number is too long.
theorem get_overlong :
    ¬(((get .keyMacro Numeral.overlong).run KeyTable.blank {} {} .patchy).FailsWith
          (.refused (.outOfRange .keyMacro Numeral.overlong 4)) ↔
        ¬(0 ≤ (Numeral.overlong : Int) ∧ (Numeral.overlong : Int) < 4)) ∧
      ((get .keyMacro Numeral.overlong).run KeyTable.blank {} {} .patchy).FailsWith
        (.faulted .unwritableNumber) := by
  have hk : Keyboard.patchy.Reports .keyMacro _ 4 := ⟨rfl, rfl⟩
  have hw : Numeral.isWritable 4 := by decide +kernel
  have hn := Numeral.not_isWritable_overlong
  have hg : LooksUp .keyMacro _ 4 Numeral.overlong
      ((get .keyMacro Numeral.overlong).run KeyTable.blank {} {} .patchy) :=
    run_get_looksUp hk (Keyboard.sound_patchy _ _ _ hk) hw _
  refine ⟨fun h => ?_, (hg.overlong_iff hw).mpr hn⟩
  refine hn (hg.outOfRange_iff.mp (h.mpr fun ⟨_, hl⟩ => hn ?_)).right
  exact Numeral.isWritable_of_le (by omega) (Int.le_of_lt hl) hw

end Command
end KeySlots
