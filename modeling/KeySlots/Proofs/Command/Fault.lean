import KeySlots.Proofs.Command.Outcome
import KeySlots.Proofs.Definition.Numeral

namespace KeySlots

open Session
open Failure (Own Admits)
open Text (HasDigits)

-- The command reads definitions and terms from the texts.
inductive Command.Defines : Command → List String → Prop
  | add {kind definition} : Defines (.add kind definition) [definition]
  | addCombo {definition} {term : Option String} :
    Defines (.addCombo definition (term.map .text)) (definition :: term.toList)
  | editDefinition {kind id definition} :
    kind ≠ .keyOverride → Defines (.editDefinition kind id definition) [definition]
  | editCombo {id enabled} {definition term : Option String} :
    Defines (.editCombo id ⟨definition, term.map .text, enabled⟩) (definition.toList ++ term.toList)

-- The fault comes of a number with too many digits, which is read from a text or to be reported.
inductive Fault.TooLong (texts : List String) (numbers : List Int) : Fault → Prop
  | numeral {digits text} :
    text ∈ texts → Numeral.maxDigits < digits → HasDigits digits text.toList →
    TooLong texts numbers (.overlongNumeral digits)
  | number {n} : n ∈ numbers → ¬Numeral.isWritable n → TooLong texts numbers .unwritableNumber

def Failure.TooLong (texts : List String) (numbers : List Int) (f : Failure) : Prop :=
  ∀ fault, f = .faulted fault → fault.TooLong texts numbers

variable {texts : List String} {text : String} {numbers more : List Int} {f : Failure}

theorem Failure.admits_tooLong (ht : text ∈ texts) :
    Admits (Failure.TooLong texts numbers) text.toList where
  refused _ _           := nofun
  numeral _ hl hd _ he  := by
    cases he
    exact .numeral ht hl hd

theorem Failure.Own.tooLong (hn : more ⊆ numbers) (h : Own more f) : f.TooLong texts numbers := by
  intro _ he
  cases h <;> cases he
  case unwritable hm hw => exact .number (hn hm) hw

namespace Command

variable {κ : Type} [KeyCodec κ] {keys : κ} {settings : Settings} {broken : Breakdowns}
  {k : Keyboard} {c : Command}
  {request : Request} {fault : Fault} {o : Outcome}

theorem request_tooLong (h : c.Defines texts) :
    FailsOnly (Failure.TooLong texts numbers) (c.request keys settings) := by
  have hm := settings.maxTriggers_le
  have ha {text : String} (ht : text ∈ texts) :
    Admits (Failure.TooLong texts numbers) text.toList := Failure.admits_tooLong ht
  cases h <;> simp only [Command.request]
  case add => exact (Definition.readRecord_admits (ha List.mem_cons_self) hm).map _
  case addCombo definition term =>
    refine FailsOnly.map (Definition.readCombo_admits (ha List.mem_cons_self) hm ?_) _
    cases term
    case none      => exact Definition.readTerm_natural settings.comboTerm
    case some term => exact Definition.readTerm_text (ha (by simp))
  case editDefinition hk =>
    rw [if_neg hk]
    refine (Definition.readRecord_admits (ha List.mem_cons_self) hm).bind fun _ _ => ?_
    exact (editRequest_failsOnly _ _ _).mono fun _ => Own.tooLong (List.nil_subset _)
  case editCombo definition term =>
    refine FailsOnly.bind (ComboChange.patch_failsOnly (fun text hd => ?_) fun given hg => ?_)
      fun _ _ => ?_
    case refine_1 =>
      have ht : text ∈ definition.toList ++ term.toList := List.mem_append_left _ (by simpa using hd)
      exact Definition.readCombo_admits (ha ht) hm (Definition.readTerm_natural 50)
    case refine_2 =>
      obtain ⟨text, ht, he⟩ := Option.map_eq_some_iff.mp hg
      have ht : text ∈ definition.toList ++ term.toList := List.mem_append_right _ (by simp [ht])
      exact he ▸ Definition.readTerm_text (ha ht)
    case refine_3 =>
      exact (editSomeRequest_failsOnly _ _ _).mono fun _ => Own.tooLong (List.nil_subset _)

theorem slots_of_defines (h : c.Defines texts) (ha : c.Asks request) :
    request.slots ⊆ c.slot?.toList ∧ (∀ predicate, request ≠ .clearWhere predicate) ∧
      ∀ capacity plan, request.reported capacity plan ⊆ slotsOf plan := by
  cases h
  case add | addCombo =>
    have ⟨_, he, _⟩ := ha
    subst he
    exact ⟨List.nil_subset _, nofun, fun _ _ => List.nil_subset _⟩
  case editDefinition | editCombo =>
    have ⟨_, he, _⟩ := ha
    subst he
    exact ⟨List.Subset.refl _, nofun, fun _ _ => List.Subset.refl _⟩

theorem stage_of_result (h : (c.run keys settings broken k).result = .ok o) :
    o.ok = true ∨ o.stage = .validationFailed ∨ o.stage = .deviceIoFailed := by
  have ⟨failure, s, hc, he⟩ := run_course keys settings broken k c
  rw [he] at h
  obtain ⟨rfl, _, rfl⟩ | ⟨o', refusal, rfl, _⟩ := outcome_of_conclude h
  case inl =>
    cases hc
    case done hok _ => exact .inl hok
  case inr =>
    obtain ⟨hs, _⟩ | ⟨hs, _⟩ := o'.stage_fail refusal
    case inl => exact .inr <| .inr hs
    case inr => exact .inr <| .inl hs

theorem tooLong_of_result (h : c.Defines texts)
    (hr : (c.run keys settings broken k).result = .error fault) :
    fault.TooLong texts (c.slot?.toList ++ (k.count? c.kind).toList) := by
  have ⟨failure, s, hc, he⟩ := run_course keys settings broken k c
  rw [he] at hr
  cases conclude_error_iff.mp hr
  obtain hd | hd | ⟨rfl, plan, reported, n, hd, hn, hw⟩ := hc.faulted_cases
  case inl => exact request_tooLong h _ (decide_unread hd) _ rfl
  case inr.inl =>
    obtain ⟨request, hq, ⟨_, hm⟩ | ⟨records, capacity, hk, hp⟩⟩ := decide_refused hd
    case inl => cases hm
    case inr =>
      have ⟨hs, hn, _⟩ := slots_of_defines h (asks_of_request hq)
      have ho : (Failure.faulted fault).Own (c.slot?.toList ++ (k.count? c.kind).toList) := by
        refine Request.plan_failsOnly ?_ (fun ⟨_, he⟩ => (hn _ he).elim) ?_ _ hp
        · exact List.Subset.trans hs (List.subset_append_left _ _)
        · simp [hk.count]
      exact ho.tooLong (List.Subset.refl _) _ rfl
  case inr.inr =>
    -- A slot whose number is too long is below a number of slots that is too long, too.
    have ⟨request, _, _, hq, _, _, _, he⟩ := decide_write hd
    have ⟨_, _, hs⟩ := slots_of_defines h (asks_of_request hq)
    have ⟨r, hr, he⟩ := List.mem_map.mp (hs _ _ (he ▸ hn))
    have ⟨_, capacity, hk, hp⟩ := planned_of_write hd
    have hl := hp.inRange r hr
    refine .number (n := capacity) (by simp [hk.count]) fun hc => hw ?_
    exact Numeral.isWritable_of_le (by omega) (by omega) hc

-- A command that reads definitions ends with success or with a report of what failed, unless there is a
-- number that is too long: a numeral in one of the texts, or the number of the slot or of all slots.
theorem run_reports (h : c.Defines texts) :
    (∃ o, (c.run keys settings broken k).result = .ok o ∧
      (o.ok = true ∨ o.stage = .validationFailed ∨ o.stage = .deviceIoFailed)) ∨
    ∃ fault, (c.run keys settings broken k).result = .error fault ∧
      fault.TooLong texts (c.slot?.toList ++ (k.count? c.kind).toList) := by
  cases hr : (c.run keys settings broken k).result
  case ok o        => exact .inl ⟨o, rfl, stage_of_result hr⟩
  case error fault => exact .inr ⟨fault, rfl, tooLong_of_result h hr⟩

theorem add_reports :
    ∃ o, ((add .keyMacro "A").run KeyTable.blank {} {} (.vacant .keyMacro)).result = .ok o ∧
      (o.ok = true ∨ o.stage = .validationFailed ∨ o.stage = .deviceIoFailed) := by
  refine (run_reports .add).resolve_right ?_
  rintro ⟨_, -, hf⟩
  cases hf
  case numeral text ht hl hd =>
    cases List.mem_singleton.mp ht
    have := hd.le_length
    have : "A".toList.length ≤ Numeral.maxDigits := by decide
    omega
  case number hn hw =>
    cases List.mem_singleton.mp hn
    exact hw (Numeral.isWritable_of_word (by decide))

theorem run_of_fault (h : c.request keys settings = .error (.faulted fault)) :
    (c.run keys settings broken k).result = .error fault := by
  have ⟨failure, s, hc, he⟩ := run_course keys settings broken k c
  rw [decide, h] at hc
  rw [he, conclude_error_iff]
  exact hc.failure_of_unread

-- A macro that is to wait for too long is not refused. Adding it ends without an outcome.
theorem run_add_delay {digits : List Char} (hd : digits.all Char.isDigit)
    (hl : Numeral.maxDigits < digits.length) :
    ((add .keyMacro (Definition.delay digits)).run keys settings broken k).result =
      .error (.overlongNumeral digits.length) := by
  have hr : Definition.readMacro keys (Definition.delay digits) =
      .error (.faulted (.overlongNumeral digits.length)) := Definition.readMacro_delay hd hl
  refine run_of_fault ?_
  rw [request, Definition.readRecord, hr]
  rfl

theorem add_delay_faults :
    ((add .keyMacro (Definition.delay (.replicate 4301 '1'))).run KeyTable.blank {} {}
      (.vacant .keyMacro)).result = .error (.overlongNumeral 4301) := by
  have hd : (List.replicate 4301 '1').all Char.isDigit :=
    List.all_eq_true.mpr fun c hc => List.eq_of_mem_replicate hc ▸ rfl
  have hl : Numeral.maxDigits < (List.replicate 4301 '1').length := by
    rw [List.length_replicate]
    decide
  exact (run_add_delay hd hl).trans (by rw [List.length_replicate])

end Command
end KeySlots
