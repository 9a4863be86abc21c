import KeySlots.Proofs.Command.Planned

namespace KeySlots.Command

open Session Request

variable {κ : Type} [KeyCodec κ] {keys : κ} {settings : Settings} {broken : Breakdowns}
  {kind : Kind} {k : Keyboard}
  {d : Decision} {s : Session}

theorem follows_load {request : Request} {x : List Record × Int → Step Unit} (h : s.Begun k kind)
    (hx : ∀ records capacity s, Loaded broken kind k records capacity s →
      Follows broken kind k (request.decide k kind) (x (records, capacity)) s) :
    Follows broken kind k (request.decide k kind) (Session.load broken kind >>= x) s := by
  rw [Follows, ensures_bind]
  refine (h.load (fun _ => decide_ne_unread) decide_not_reported).mono ?_ fun _ _ hc => hc
  exact fun loaded s hl => hx loaded.1 loaded.2 s hl

theorem addStep_follows (record : Record) (hk : record.kind = kind) (h : s.Begun k kind) :
    Follows broken kind k ((Request.add record).decide k kind) (addStep broken kind record) s := by
  rw [addStep, if_neg (fun hn => hn hk)]
  refine follows_load h fun records capacity s hl => ?_
  refine hl.follows_attempt (fun f hf => ?_) fun id hid => ?_
  case refine_1 => exact decide_error hl.records hl.count (by simp [Request.plan, hf, Except.map])
  case refine_2 =>
    have hd : (Request.add record).decide k kind = .write [record.withId id] [] :=
      decide_ok hl.records hl.count (by simp [Request.plan, hid, Except.map])
    have ⟨out, ho⟩ := Slot.allocate_of_lt kind records record (Slot.firstEmpty_ok hid).left
    have hr := (Slot.allocate_ok ho).right
    refine hl.follows_attempt (by simp [ho]) fun out' ho' => ?_
    cases ho.symm.trans ho'
    rw [follows_report]
    exact Loaded.follows_write { hl with busy := { hl.busy with } } hd (Record.id_withId _ _) hr

theorem update_cases {id : Int} {patch : Slot.Patch} (records : List Record) (capacity : Int)
    (h : Slot.checkPatch kind id patch = .ok ()) :
    (∃ f, Slot.update kind records capacity id patch = .error f ∧
      Request.plan kind records capacity (.edit id patch) = .error f) ∨
    ∃ r patched, Slot.lookup kind records capacity id = .ok r ∧ Slot.merge r patch = .ok patched ∧
      Slot.update kind records capacity id patch = .ok (Slot.put patched records) ∧
      Request.plan kind records capacity (.edit id patch) = .ok [patched] := by
  simp only [Slot.update, h, Request.plan, bind, Except.bind]
  cases hl : Slot.lookup kind records capacity id
  case error f => exact .inl ⟨f, rfl, rfl⟩
  case ok r =>
    cases hm : Slot.merge r patch
    case error f => exact .inl ⟨f, by simp [hm], by simp [hm]⟩
    case ok patched => exact .inr ⟨r, patched, rfl, hm, by simp [hm], by simp [hm]⟩

theorem editStep_follows (id : Int) (patch : Slot.Patch) (h : s.Begun k kind) :
    Follows broken kind k (decided k kind (editRequest kind id patch)) (editStep broken kind id patch)
      s := by
  rw [editRequest, editStep, follows_report]
  cases hc : Slot.checkPatch kind id patch
  case error f => exact Begun.follows_error { h with } rfl
  case ok =>
    refine Begun.follows_attempt { h with } (by simp) fun _ _ => ?_
    refine follows_load { h with } fun records capacity s hl => ?_
    dsimp only
    cases update_cases records capacity hc
    case inl hu =>
      obtain ⟨f, hu, hp⟩ := hu
      rw [hu]
      exact hl.follows_error (decide_error hl.records hl.count hp)
    case inr hu =>
      obtain ⟨r, patched, hr, hm, hu, hp⟩ := hu
      obtain ⟨h₀, _, hr⟩ := Slot.lookup_ok_iff.mp hr
      have hid := Slot.find?_some_id hr
      have hi : patched.id = id.toNat := by
        have := Slot.id_of_merge hm (hid ▸ Slot.keepsSlot_of_checkPatch hc)
        omega
      have hd := decide_ok hl.records hl.count hp
      rw [show Request.reported capacity [patched] (.edit id patch) = [id] by
        simp [Request.reported]; omega] at hd
      rw [hu]
      refine hl.follows_attempt (by simp) fun _ ho => ?_
      cases ho
      refine hl.follows_write hd hi ?_
      rw [← hi]
      exact Slot.find?_put_self _ _

theorem editSome_follows (id : Int) (patch : Slot.Patch) (h : s.Begun k kind) :
    Follows broken kind k (decided k kind (editSomeRequest kind id patch))
      (editSome broken kind id patch) s := by
  rw [editSomeRequest, editSome]
  split
  case isTrue => exact h.follows_error rfl
  case isFalse => exact editStep_follows id patch h

-- While slots are cleared and written in turn, the records written so far and the slots still to clear
-- make up the plan.
theorem pushCleared_ensures {records written plan out : List Record} {reported : List Int}
    {shown : List Nat} {capacity : Int} {ids : List Int} {stage : Stage}
    (h : Pushing broken kind k shown written stage s) (hs : shown = records.map (·.id))
    (hd : d = .write plan reported) (hp : plan = written ++ sentinels kind ids)
    (hc : clearAll kind records capacity ids = .ok out) :
    Ensures (pushCleared broken kind capacity records ids) s
      (fun _ s => ∃ stage, Pushing broken kind k shown plan stage s)
      (fun f s => Course broken kind k d (some f) s) := by
  induction ids generalizing records written stage s
  case nil =>
    rw [pushCleared, ensures_pure, hp]
    exact ⟨stage, by simpa [sentinels] using h⟩
  case cons id ids hi =>
    obtain ⟨cleared, hcl, hc⟩ := clearAll_cons_ok hc
    rw [pushCleared, hcl, attempt, ensures_bind, ensures_pure, ensures_bind]
    rw [hs, ← Slot.ids_of_clear hcl] at h ⊢
    have hf := Slot.find?_of_clear hcl
    refine (h.push (hp ▸ hd) (Record.id_sentinel _ _) hf).mono ?_ fun _ _ hc => hc
    intro _ s hw
    rw [← Slot.ids_of_clear hcl] at hs
    rw [← hs] at hw ⊢
    exact hi hw hs (by simp [hp, sentinels]) hc

theorem clearStep_follows {records : List Record} {capacity : Int} (ids : List Int)
    (nothing : String) (h : Loaded broken kind k records capacity s) :
    Follows broken kind k ((clear ids).decide k kind)
      (clearStep broken kind records capacity ids nothing) s := by
  have h' : Loaded broken kind k records capacity
      { s with outcome := { s.outcome with slotIds := ids } } := { h with busy := { h.busy with } }
  rw [clearStep, follows_report]
  split
  case isTrue he =>
    cases List.isEmpty_iff.mp he
    exact h'.follows_succeed (decide_ok h.records h.count rfl)
  case isFalse he =>
    refine h'.follows_attempt (fun f hf => ?_) fun out ho => ?_
    case refine_1 => exact decide_error h.records h.count (by simp [Request.plan, hf, Except.map])
    case refine_2 =>
      have hd : (clear ids).decide k kind = .write (sentinels kind ids) ids := by
        have hp : Request.plan kind records capacity (.clear ids) = .ok (sentinels kind ids) := by
          simp [Request.plan, ho, Except.map]
        rw [decide_ok h.records h.count hp, Request.reported, ids_sentinels (clearAll_nonneg ho)]
      have hne : sentinels kind ids ≠ [] := by simpa [sentinels] using he
      rw [Follows, ensures_bind]
      refine (pushCleared_ensures (h'.pushing _) rfl hd rfl ho).mono ?_ fun _ _ hc => hc
      rintro _ s ⟨_, hw⟩
      rw [ensures_bind]
      refine (hw.save hd hne).mono (fun _ s hs => ?_) fun _ _ hc => hc
      split
      case isTrue =>
        rw [ensures_bind, ensures_report]
        exact Saved.succeed { hs with busy := { hs.busy with } } hd
      case isFalse => exact hs.succeed hd

theorem deleteWhere_follows (predicate : Record → Bool) (description : String) (h : s.Begun k kind) :
    Follows broken kind k ((clearWhere predicate).decide k kind)
      (deleteWhere broken kind predicate description) s := by
  refine follows_load h fun records capacity s hl => ?_
  rw [decide_clearWhere hl.records]
  exact clearStep_follows _ _ hl

theorem list_follows (h : s.Begun k kind) :
    Follows broken kind k (Request.list.decide k kind) ((list kind).steps keys settings broken) s := by
  refine follows_load h fun records capacity s hl => ?_
  rw [follows_report]
  have hd : Request.list.decide k kind = .write [] [capacity] := decide_ok hl.records hl.count rfl
  exact Loaded.follows_succeed { hl with busy := { hl.busy with } } hd

theorem get_follows (id : Int) (h : s.Begun k kind) :
    Follows broken kind k ((Request.get id).decide k kind) ((get kind id).steps keys settings broken)
      s := by
  rw [steps, follows_report]
  refine follows_load { h with } fun records capacity s hl => ?_
  refine hl.follows_attempt (fun f hf => ?_) fun r hr => ?_
  case refine_1 => exact decide_error hl.records hl.count (by rw [Request.plan, hf]; rfl)
  case refine_2 =>
    split
    case isTrue he =>
      refine hl.follows_error (decide_error hl.records hl.count ?_)
      rw [Request.plan, hr]
      exact if_pos he
    case isFalse he =>
      have hl' : Loaded broken kind k records capacity
          { s with outcome := { s.outcome with records := [r], slotIds := [id] } } :=
        { hl with busy := { hl.busy with } }
      dsimp only
      rw [follows_report]
      refine hl'.follows_succeed (decide_ok hl.records hl.count ?_)
      rw [Request.plan, hr]
      exact if_neg he

theorem follows_reading {α : Type} {x : Except Failure α} {g : α → Except Failure Request}
    {y : α → Step Unit} (h : s.Begun k kind)
    (hy : ∀ a, x = .ok a → Follows broken kind k (decided k kind (g a)) (y a) s) :
    Follows broken kind k (decided k kind (x >>= g)) (attempt x >>= y) s := by
  refine h.follows_attempt (fun f hf => ?_) fun a ha => ?_
  case refine_1 => rw [hf]; rfl
  case refine_2 => rw [ha]; exact hy a ha

theorem follows_adding {α : Type} {x : Except Failure α} {g : α → Record} (h : s.Begun k kind)
    (hk : ∀ a, x = .ok a → (g a).kind = kind) :
    Follows broken kind k (decided k kind (x.map fun a => .add (g a)))
      (do addStep broken kind (g (← attempt x))) s := by
  refine h.follows_attempt (fun f hf => ?_) fun a ha => ?_
  case refine_1 => rw [hf]; rfl
  case refine_2 => rw [ha]; exact addStep_follows (g a) (hk a ha) h

theorem steps_follows (c : Command) (h : s.Begun k c.kind) :
    Follows broken c.kind k (c.decide keys settings k) (c.steps keys settings broken) s := by
  cases c <;> simp only [Command.decide, request] <;> simp only [Command.kind] at h ⊢
  case add kind definition => exact follows_adding h fun _ => Definition.kind_of_readRecord
  case addKeyOverride request => exact follows_adding h fun _ _ => rfl
  case addCombo definition term => exact follows_adding h fun _ _ => rfl
  case addRecord kind record =>
    rw [steps]
    split
    case isTrue hk => exact addStep_follows record hk h
    case isFalse hk =>
      rw [addStep, if_pos hk, follows_throw]
      exact .unread rfl h.toDid
  case edit kind id patch => exact editSome_follows id patch h
  case editDefinition kind id definition =>
    rw [steps]
    split
    case isTrue =>
      rw [follows_throw]
      exact .unread rfl h.toDid
    case isFalse => exact follows_reading h fun r _ => editStep_follows id _ h
  case editKeyOverride id change => exact follows_reading h fun patch _ => editSome_follows id patch h
  case editCombo id change => exact follows_reading h fun patch _ => editSome_follows id patch h
  case delete kind ids =>
    rw [steps]
    split
    case isTrue => exact h.follows_error rfl
    case isFalse => exact follows_load h fun records capacity s hl => clearStep_follows _ _ hl
  case deleteMatching kind predicate description => exact deleteWhere_follows predicate description h
  case deleteAllEmpty kind => exact deleteWhere_follows _ _ h
  case deleteAllDisabled => exact deleteWhere_follows _ _ h
  case list kind => exact list_follows h
  case get kind id => exact get_follows id h

end KeySlots.Command
