import Mathlib.Data.List.Forall2
import KeySlots.Proofs.Failure

namespace KeySlots

variable {α β : Type} {g : α → Except Failure β} {as : List α} {bs : List β} {f : Failure}

theorem mapM_ok_iff : as.mapM g = .ok bs ↔ List.Forall₂ (fun a b => g a = .ok b) as bs := by
  induction as generalizing bs
  case nil => simp [pure, Except.pure, eq_comm]
  case cons a as hi =>
    rw [List.mapM_cons, bind_ok_iff, List.forall₂_cons_left_iff]
    constructor
    case mp =>
      rintro ⟨b, ha, h⟩
      obtain ⟨rest, hr, h⟩ := bind_ok_iff.mp h
      exact ⟨b, rest, ha, hi.mp hr, (Except.ok.inj h).symm⟩
    case mpr =>
      rintro ⟨b, rest, ha, hr, rfl⟩
      exact ⟨b, ha, bind_ok_iff.mpr ⟨rest, hi.mpr hr, rfl⟩⟩

theorem exists_of_forall₂ {R : α → β → Prop} (h : List.Forall₂ R as bs) : ∀ b ∈ bs, ∃ a ∈ as, R a b := by
  induction h
  case nil => simp
  case cons a b as bs hr _ hi =>
    refine List.forall_mem_cons.mpr ⟨⟨a, List.mem_cons_self, hr⟩, fun c hc => ?_⟩
    obtain ⟨d, hd, hr⟩ := hi c hc
    exact ⟨d, List.mem_cons_of_mem a hd, hr⟩

theorem exists_mapM_iff : (∃ bs, as.mapM g = .ok bs) ↔ ∀ a ∈ as, ∃ b, g a = .ok b := by
  simp only [mapM_ok_iff]
  induction as
  case nil => simp
  case cons a as hi =>
    rw [List.forall_mem_cons, ← hi]
    simp [List.forall₂_cons_left_iff]

-- The first item that cannot be read decides how the reading fails.
theorem mapM_error_iff :
    as.mapM g = .error f ↔
      ∃ before a after, as = before ++ a :: after ∧ (∀ b ∈ before, ∃ c, g b = .ok c) ∧
        g a = .error f := by
  constructor
  case mp =>
    intro h
    induction as
    case nil => cases h
    case cons a as hi =>
      rw [List.mapM_cons] at h
      cases ha : g a
      case error e =>
        rw [ha] at h
        cases h
        exact ⟨[], a, as, rfl, by simp, ha⟩
      case ok b =>
        cases hr : as.mapM g
        case ok rest =>
          rw [ha, hr] at h
          cases h
        case error e =>
          rw [ha, hr] at h
          cases h
          obtain ⟨before, item, after, rfl, hb, he⟩ := hi hr
          exact ⟨a :: before, item, after, rfl, List.forall_mem_cons.mpr ⟨⟨b, ha⟩, hb⟩, he⟩
  case mpr =>
    rintro ⟨before, a, after, rfl, hb, ha⟩
    obtain ⟨bs, hb⟩ := exists_mapM_iff.mpr hb
    rw [List.mapM_append, hb, List.mapM_cons, ha]
    rfl

theorem forall₂_swap {R : α → β → Prop} {before after : List α} {p q : α}
    (h : List.Forall₂ R (before ++ p :: q :: after) bs) :
    ∃ first c d rest, bs = first ++ c :: d :: rest ∧ R p c ∧ R q d ∧
      List.Forall₂ R (before ++ q :: p :: after) (first ++ d :: c :: rest) := by
  induction before generalizing bs
  case nil =>
    obtain ⟨c, more, hc, hm, rfl⟩ := List.forall₂_cons_left_iff.mp h
    obtain ⟨d, rest, hd, hr, rfl⟩ := List.forall₂_cons_left_iff.mp hm
    exact ⟨[], c, d, rest, rfl, hc, hd, .cons hd (.cons hc hr)⟩
  case cons a before hi =>
    obtain ⟨b, more, hb, hm, rfl⟩ := List.forall₂_cons_left_iff.mp h
    obtain ⟨first, c, d, rest, rfl, hc, hd, hs⟩ := hi hm
    exact ⟨b :: first, c, d, rest, rfl, hc, hd, .cons hb hs⟩

end KeySlots
