import KeySlots.Proofs.Keyboard
import KeySlots.Proofs.Session.Lockstep
import KeySlots.Proofs.Slot.Occupied

namespace KeySlots

-- The slots of both keyboards are in order. They report the same kinds of slot, of the same number, and
-- hold the same records but for empty ones.
structure Keyboard.Alike (k l : Keyboard) : Prop where
  sound        : k.Sound ∧ l.Sound
  capabilities : k.capabilities = l.capabilities
  count        : ∀ kind, k.count? kind = l.count? kind
  records      : ∀ kind, Option.Rel Slot.Alike (k.records? kind) (l.records? kind)

variable {broken : Breakdowns} {k l : Keyboard} {kind : Kind} {record r : Record}
  {records more : List Record} {capacity : Int} {s t : Session} {id : Nat}

namespace Keyboard.Alike

theorem of_reports (h : k.Alike l) (hk : k.Reports kind records capacity)
    (hl : l.Reports kind more capacity) : Slot.Alike records more := by
  have hr := h.records kind
  rw [hk.records, hl.records] at hr
  cases hr
  assumption

theorem reports (h : k.Alike l) (hk : k.Reports kind records capacity) :
    ∃ more, l.Reports kind more capacity := by
  have hr := h.records kind
  rw [hk.records] at hr
  generalize hm : l.records? kind = found at hr
  cases hr
  exact ⟨_, hm, h.count kind ▸ hk.count⟩

theorem write (h : k.Alike l) (hk : k.Reports kind records capacity) (hr : (record.id : Int) < capacity) :
    (k.write kind record).Alike (l.write kind record) := by
  have ⟨more, hl⟩ := h.reports hk
  have hw : ∀ r ∈ [record], (r.id : Int) < capacity := by simpa using hr
  constructor
  case sound        => exact ⟨h.sound.left.writeAll hk hw, h.sound.right.writeAll hl hw⟩
  case capabilities => exact h.capabilities
  case count        => exact h.count
  case records =>
    intro other
    by_cases ho : other = kind
    case neg =>
      rw [records?_write_of_ne ho, records?_write_of_ne ho]
      exact h.records other
    case pos =>
      subst ho
      rw [records?_write_self hk.records, records?_write_self hl.records]
      have hd := (h.sound.left _ _ _ hk).distinct
      have hd' := (h.sound.right _ _ _ hl).distinct
      exact .some ((h.of_reports hk hl).put hd hd' record)

end Keyboard.Alike

namespace Session

structure Mirrors (s t : Session) : Prop where
  keyboard : s.keyboard.Alike t.keyboard
  outcome  : s.outcome = t.outcome

structure MirrorsOn (kind : Kind) (capacity : Int) (s t : Session) : Prop extends Mirrors s t where
  reports : ∃ records, s.keyboard.Reports kind records capacity

structure LoadedBoth (kind : Kind) (a b : List Record × Int) (s t : Session) : Prop
    extends Mirrors s t where
  left  : s.keyboard.Reports kind a.1 a.2
  right : t.keyboard.Reports kind b.1 a.2
  count : a.2 = b.2

theorem LoadedBoth.on {a b : List Record × Int} (h : LoadedBoth kind a b s t) :
    MirrorsOn kind a.2 s t :=
  { h with reports := ⟨_, h.left⟩ }

theorem LoadedBoth.alike {a b : List Record × Int} (h : LoadedBoth kind a b s t) :
    Slot.Alike a.1 b.1 ∧ Slot.Orderly a.1 a.2 ∧ Slot.Orderly b.1 a.2 :=
  ⟨h.keyboard.of_reports h.left h.right, h.keyboard.sound.left _ _ _ h.left,
    h.keyboard.sound.right _ _ _ h.right⟩

theorem Mirrors.report (h : Mirrors s t) (g : Outcome → Outcome) :
    Agree (report g) (report g) s t (fun _ _ => Mirrors) Mirrors :=
  agree_report.mpr ⟨h.keyboard, congrArg g h.outcome⟩

theorem MirrorsOn.report (h : MirrorsOn kind capacity s t) (g : Outcome → Outcome) :
    Agree (report g) (report g) s t (fun _ _ => MirrorsOn kind capacity) Mirrors :=
  agree_report.mpr { h with outcome := congrArg g h.outcome }

theorem Mirrors.call (h : Mirrors s t) (name : Call) (error : Option String) :
    Agree (call name error) (call name error) s t (fun _ _ => Mirrors) Mirrors :=
  agree_call fun _ _ => { h with }

theorem Mirrors.load (h : Mirrors s t) :
    Agree (load broken kind) (load broken kind) s t (LoadedBoth kind) Mirrors := by
  refine (h.call _ _).bind fun _ _ s t h => (h.call _ _).bind fun _ _ s t h => agree_bind ?_
  rw [agree_get]
  dsimp only
  have hc := h.keyboard.count kind
  have hr := h.keyboard.records kind
  generalize hk : s.keyboard.records? kind = found, hl : t.keyboard.records? kind = found' at hr ⊢
  rw [← hc]
  cases hr
  case none =>
    rw [agree_attempt]
    exact ⟨nofun, fun _ _ => h⟩
  case some records more hr =>
    cases hn : s.keyboard.count? kind
    case none =>
      have hm : missingFields kind none (some more) = missingFields kind none (some records) := rfl
      dsimp only
      rw [hm, agree_attempt]
      exact ⟨nofun, fun _ _ => h⟩
    case some capacity =>
      refine agree_bind <| agree_report.mpr <| (agree_pure _ _).mpr ?_
      exact { h with
        outcome := by rw [h.outcome]
        left    := ⟨hk, hn⟩
        right   := ⟨hl, hc ▸ hn⟩
        count   := rfl }

theorem MirrorsOn.push (h : MirrorsOn kind capacity s t) (hr : Slot.find? records id = some r)
    (hm : Slot.find? more id = some r) (hl : (id : Int) < capacity) :
    Agree (push broken kind id records) (push broken kind id more) s t
      (fun _ _ => MirrorsOn kind capacity) Mirrors := by
  have hid := Slot.find?_some_id hr
  rw [Session.push, Session.push, hr, hm]
  refine (h.report _).bind fun _ _ s t h => ?_
  have hc : ∀ calls more, MirrorsOn kind capacity { s with calls } { t with calls := more } :=
    fun _ _ => { h with }
  refine ((agree_call hc).mono (fun _ _ _ _ h => h) fun _ _ h => h.toMirrors).bind fun _ _ s t h => ?_
  obtain ⟨stored, hs⟩ := h.reports
  have hw : MirrorsOn kind capacity { s with keyboard := s.keyboard.write kind r }
      { t with keyboard := t.keyboard.write kind r } := {
    keyboard := h.keyboard.write hs (hid ▸ hl)
    outcome  := h.outcome
    reports  := ⟨_, Keyboard.records?_write_self hs.records r, hs.count⟩ }
  exact agree_bind <| agree_modify.mpr <| hw.report _

theorem Mirrors.save (h : Mirrors s t) :
    Agree (save broken kind) (save broken kind) s t (fun _ _ => Mirrors) Mirrors := by
  refine agree_bind ?_
  rw [agree_get]
  dsimp only
  rw [h.keyboard.capabilities]
  split
  case isTrue => exact (h.call _ _).bind fun _ _ s t h => h.report _
  case isFalse =>
    split
    case isTrue  => exact (h.call _ _).bind fun _ _ s t h => h.report _
    case isFalse => exact h.report _

theorem Mirrors.succeed (h : Mirrors s t) (numbers : List Int) (message : String) :
    Agree (succeed numbers message) (succeed numbers message) s t (fun _ _ => Mirrors) Mirrors := by
  rw [Session.succeed]
  split
  case isTrue  => exact h.report _
  case isFalse => exact (agree_throw _).mpr h

end Session
end KeySlots
