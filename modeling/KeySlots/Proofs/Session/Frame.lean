import KeySlots.Proofs.Keyboard
import KeySlots.Proofs.Session.Lockstep

namespace KeySlots

structure Keyboard.SameOn (kind : Kind) (k l : Keyboard) : Prop where
  capabilities : k.capabilities = l.capabilities
  count        : k.count? kind = l.count? kind
  records      : k.records? kind = l.records? kind

namespace Keyboard.SameOn

variable {kind : Kind} {k l m : Keyboard}

theorem symm (h : k.SameOn kind l) : l.SameOn kind k :=
  ⟨h.capabilities.symm, h.count.symm, h.records.symm⟩

theorem trans (h : k.SameOn kind l) (h' : l.SameOn kind m) : k.SameOn kind m :=
  ⟨h.capabilities.trans h'.capabilities, h.count.trans h'.count, h.records.trans h'.records⟩

theorem write (h : k.SameOn kind l) (record : Record) :
    (k.write kind record).SameOn kind (l.write kind record) where
  capabilities := h.capabilities
  count        := h.count
  records      := by simp only [Keyboard.write, h.records]; simp [records?]

theorem writeAll_of_ne {other : Kind} (h : kind ≠ other) (k : Keyboard) (written : List Record) :
    (k.writeAll other written).SameOn kind k :=
  ⟨capabilities_writeAll k other written, count?_writeAll k other kind written,
    records?_writeAll_of_ne h written⟩

end Keyboard.SameOn

namespace Session

variable {α β : Type} {broken : Breakdowns} {kind : Kind} {s t : Session}

structure SameOn (kind : Kind) (s t : Session) : Prop where
  keyboard : s.keyboard.SameOn kind t.keyboard
  calls    : s.calls = t.calls
  outcome  : s.outcome = t.outcome

-- The steps keep to a kind: they do the same in sessions that are the same as far as the kind goes.
def KeepsTo (kind : Kind) (x : Step α) : Prop :=
  ∀ s t, SameOn kind s t → Agree x x s t (fun a b s t => a = b ∧ SameOn kind s t) (SameOn kind)

theorem KeepsTo.bind {x : Step α} {g : α → Step β} (hx : KeepsTo kind x)
    (hg : ∀ a, KeepsTo kind (g a)) : KeepsTo kind (x >>= g) := by
  intro s t h
  refine (hx s t h).bind ?_
  rintro a _ s t ⟨rfl, h⟩
  exact hg a s t h

theorem keepsTo_pure (a : α) : KeepsTo kind (pure a) :=
  fun _ _ h => (agree_pure a a).mpr ⟨rfl, h⟩

theorem keepsTo_throw (f : Failure) : KeepsTo kind (throw f : Step α) :=
  fun _ _ h => (agree_throw f).mpr h

theorem keepsTo_attempt (x : Except Failure α) : KeepsTo kind (attempt x) :=
  fun _ _ h => agree_attempt.mpr ⟨fun _ _ => ⟨rfl, h⟩, fun _ _ => h⟩

theorem keepsTo_report (g : Outcome → Outcome) : KeepsTo kind (report g) :=
  fun _ _ h => agree_report.mpr ⟨rfl, h.keyboard, h.calls, congrArg g h.outcome⟩

theorem keepsTo_call (name : Call) (error : Option String) : KeepsTo kind (call name error) := by
  refine KeepsTo.bind (fun s t h => agree_modify.mpr ⟨rfl, ?_⟩) fun _ => ?_
  case refine_1 => exact { h with calls := congrArg (· ++ [name]) h.calls }
  case refine_2 =>
    cases error
    case none      => exact keepsTo_pure ()
    case some text => exact keepsTo_attempt _

theorem keepsTo_load : KeepsTo kind (load broken kind) := by
  refine (keepsTo_call _ _).bind fun _ => (keepsTo_call _ _).bind fun _ s t h => ?_
  refine agree_bind ?_
  rw [agree_get]
  dsimp only
  rw [h.keyboard.records, h.keyboard.count]
  split
  case h_1 => exact (keepsTo_report _).bind (fun _ => keepsTo_pure _) s t h
  case h_2 => exact keepsTo_attempt _ s t h

theorem keepsTo_push (id : Nat) (records : List Record) : KeepsTo kind (push broken kind id records) := by
  refine (keepsTo_report _).bind fun _ => (keepsTo_call _ _).bind fun _ => ?_
  dsimp only
  split
  case h_1 record _ =>
    refine KeepsTo.bind (fun s t h => ?_) fun _ => keepsTo_report _
    exact agree_modify.mpr ⟨rfl, { h with keyboard := h.keyboard.write record }⟩
  case h_2 => exact keepsTo_report _

theorem keepsTo_save : KeepsTo kind (save broken kind) := by
  intro s t h
  refine agree_bind ?_
  rw [agree_get]
  dsimp only
  rw [h.keyboard.capabilities]
  split
  case isTrue => exact (keepsTo_call _ _).bind (fun _ => keepsTo_report _) s t h
  case isFalse =>
    split
    case isTrue  => exact (keepsTo_call _ _).bind (fun _ => keepsTo_report _) s t h
    case isFalse => exact keepsTo_report _ s t h

theorem keepsTo_succeed (numbers : List Int) (message : String) :
    KeepsTo kind (succeed numbers message) := by
  rw [succeed]
  split
  case isTrue  => exact keepsTo_report _
  case isFalse => exact keepsTo_throw _

end Session
end KeySlots
