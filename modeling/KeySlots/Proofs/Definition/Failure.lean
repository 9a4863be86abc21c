import KeySlots.Command.Change
import KeySlots.Proofs.Definition.Numeral
import KeySlots.Proofs.Failure

namespace KeySlots

open Failure (Local)
open Text (HasDigits)

variable {κ : Type} [KeyCodec κ]

-- Among the failures are those that reading a text comes to: refusals that are not of calls, and faults
-- for the numerals in the text that are too long.
structure Failure.Admits (P : Failure → Prop) (cs : List Char) : Prop where
  refused : ∀ r, (∀ text, r ≠ .callFailed text) → P (.refused r)
  numeral : ∀ digits, Numeral.maxDigits < digits → HasDigits digits cs →
    P (.faulted (.overlongNumeral digits))

def Failure.Fits (P : Failure → Prop) (numbers : List Int) : Prop :=
  (∀ n ∈ numbers, Numeral.isWritable n) ∨ P (.faulted .unwritableNumber)

-- What is given for a mask has a text and can be reported, or the faults that come of it are among the
-- failures, too.
structure Failure.Takes (P : Failure → Prop) (given : Given) : Prop where
  number   : Fits P given.numbers
  fraction : ∀ x, given = .float x → P (.faulted .fractionAsText)

open Failure (Admits Fits Takes)

variable {P : Failure → Prop} {cs part : List Char}

theorem Failure.admits_local : Admits Local cs where
  refused _ h text he := h text (Failure.refused.inj he)
  numeral _ _ _       := local_faulted _

theorem Failure.fits_local (numbers : List Int) : Fits Local numbers :=
  .inr (local_faulted _)

theorem Failure.takes_local (given : Given) : Takes Local given where
  number       := fits_local _
  fraction _ _ := local_faulted _

theorem Failure.takes_of_plain {given : Given} (h : Definition.Plain given) : Takes P given where
  number        := .inl h.writable
  fraction x he := (h.whole x he).elim

theorem Failure.fits_nil : Fits P [] :=
  .inl (List.forall_mem_nil _)

theorem Failure.Admits.refuse {α : Type} {r : Refusal} (h : Admits P cs)
    (hc : ∀ text, r ≠ .callFailed text) (hn : Fits P r.numbers) :
    FailsOnly P (KeySlots.refuse r : Except Failure α) := by
  rw [failsOnly_refuse, Refusal.failure]
  split
  case isTrue => exact h.refused r hc
  case isFalse hw => exact hn.resolve_left fun hn => hw (List.all_eq_true.mpr hn)

theorem Failure.Admits.refuseDefinition {α : Type} {e : DefinitionError} (h : Admits P cs)
    (hn : Fits P e.numbers) : FailsOnly P (KeySlots.refuseDefinition e : Except Failure α) :=
  h.refuse nofun hn

namespace Definition

variable {keys : κ} {definition : String} {given term : Given} {maxTriggers : Nat}

theorem readNatural_admits {e : DefinitionError} (h : Admits P cs) (hp : part <:+: cs)
    (he : e.numbers = []) : FailsOnly P (readNatural part e) := by
  simp only [readNatural]
  split
  case isTrue => exact h.refuseDefinition (.inl (by simp [he]))
  case isFalse hn =>
    have hd : (Text.trim part).all Char.isDigit := by
      simp [Numeral.isNatural] at hn
      simpa using hn.right
    split
    case isTrue hl =>
      refine failsOnly_fault.mpr (h.numeral _ hl ?_)
      exact (Text.hasDigits_self hd).of_part ((Text.infix_trim part).trans hp)
    case isFalse => exact failsOnly_ok _

theorem resolve_admits (h : Admits P cs) (use : KeyUse) (token : String) :
    FailsOnly P (resolve keys use token) := by
  rw [resolve]
  split
  case h_1 => exact failsOnly_ok _
  case h_2 => exact h.refuse (by simp) Failure.fits_nil

theorem infix_body {call : Call} (h : Call.ofText? part = some call) : call.body <:+: part := by
  unfold Call.ofText? at h
  dsimp only at h
  split at h
  case h_2 => contradiction
  case h_1 rest _ hr =>
    split at h
    case isFalse => contradiction
    case isTrue =>
      cases h
      have hs : rest <:+ part := (List.suffix_cons _ _).trans (hr ▸ List.dropWhile_suffix _)
      exact (List.dropLast_prefix rest).isInfix.trans hs.isInfix

theorem readMacro_admits (h : Admits P definition.toList) : FailsOnly P (readMacro keys definition) := by
  refine FailsOnly.bind (.mapM fun piece hp => ?_) fun actions _ => ?_
  case refine_2 =>
    split
    case isTrue  => exact h.refuseDefinition Failure.fits_nil
    case isFalse => exact failsOnly_ok _
  case refine_1 =>
    have hi : piece <:+: definition.toList := Text.infix_of_mem_pieces hp
    have ht : FailsOnly P (tapOfPiece keys piece) := (resolve_admits h _ _).map _
    rw [readAction]
    split
    case h_1 => exact ht
    case h_2 call hc =>
      split
      case isTrue => exact (readNatural_admits h ((infix_body hc).trans hi) rfl).map _
      case isFalse =>
        split
        case isTrue => exact failsOnly_ok _
        case isFalse =>
          split
          case h_1 => exact (resolve_admits h _ _).map _
          case h_2 => exact ht

theorem readTapDance_admits {term : Nat} (h : Admits P definition.toList) :
    FailsOnly P (readTapDance keys definition (.int term)) := by
  refine FailsOnly.bind (.mapM fun piece hp => ?_) fun clauses _ => ?_
  case refine_1 =>
    have hi : piece <:+: definition.toList := Text.infix_of_mem_pieces hp
    rw [readTapDanceClause]
    split
    case h_1 => exact h.refuseDefinition Failure.fits_nil
    case h_2 call hc =>
      split
      case isTrue => exact (readNatural_admits h ((infix_body hc).trans hi) rfl).map _
      case isFalse =>
        split
        case h_1 => exact (resolve_admits h _ _).map _
        case h_2 => exact h.refuseDefinition Failure.fits_nil
  case refine_2 =>
    split
    case isTrue => exact h.refuseDefinition Failure.fits_nil
    case isFalse =>
      split
      case isTrue => exact failsOnly_ok _
      case isFalse =>
        have ht : Schema.natural (.int term) = .accepted term := Schema.natural_int term
        rw [ht]
        exact failsOnly_ok _

theorem readTerm_text {s : String} (h : Admits P s.toList) : FailsOnly P (readTerm (.text s)) :=
  readNatural_admits h List.infix_rfl rfl

theorem readTerm_natural (term : Nat) : FailsOnly P (readTerm (.int term)) := by
  rw [readTerm_ok]
  exact failsOnly_ok _

theorem readTerm_local (term : Given) : FailsOnly Local (readTerm term) := by
  cases term
  case text s => exact readTerm_text Failure.admits_local
  case int n =>
    rw [readTerm]
    split <;> simp
  all_goals simp [readTerm]

theorem readTrigger_admits (h : Admits P cs) (name : List Char) :
    FailsOnly P (readTrigger keys name) := by
  simp only [readTrigger]
  split
  case h_1 =>
    split
    case isTrue  => exact h.refuse nofun Failure.fits_nil
    case isFalse => exact failsOnly_ok _
  case h_2 => exact h.refuse nofun Failure.fits_nil

theorem length_of_mapM {α β : Type} {g : α → Except Failure β} {as : List α} {bs : List β}
    (h : as.mapM g = .ok bs) : bs.length = as.length := by
  induction as generalizing bs
  case nil =>
    cases h
    rfl
  case cons a as hi =>
    rw [List.mapM_cons] at h
    have ⟨b, _, h⟩ := bind_ok_iff.mp h
    have ⟨rest, hr, h⟩ := bind_ok_iff.mp h
    cases h
    exact congrArg (· + 1) (hi hr)

theorem readCombo_admits (h : Admits P cs) (hm : maxTriggers ≤ Combo.maxTriggers)
    (ht : FailsOnly P (readTerm term)) :
    FailsOnly P (readCombo keys definition (.int maxTriggers) term) := by
  rw [readCombo]
  split
  case h_2 => exact h.refuseDefinition Failure.fits_nil
  case h_1 group action _ =>
    dsimp only
    split
    case isTrue => exact h.refuseDefinition Failure.fits_nil
    case isFalse =>
      rw [Given.isBelow]
      dsimp only [bind, Except.bind]
      split
      case isTrue =>
        refine h.refuseDefinition (.inl fun n hn => Numeral.isWritable_of_word ?_)
        have hw : Combo.maxTriggers < 0x10000000000000000 := by decide
        cases List.mem_singleton.mp hn
        omega
      case isFalse hl =>
        refine .bind (.mapM fun name _ => readTrigger_admits h name) fun codes hc => ?_
        refine (resolve_admits h _ _).bind fun _ _ => ht.bind fun _ _ => ?_
        have hlen : codes.length ≤ Combo.maxTriggers := by
          rw [length_of_mapM hc]
          simp at hl
          omega
        rw [Combo.Triggers.ofList?, dif_pos hlen]
        exact failsOnly_ok _

theorem readMask_admits {width : Nat} {name : String} (h : Admits P cs) (hg : Takes P given) :
    FailsOnly P (readMask width name given) := by
  refine .bind ?_ fun n _ => ?_
  case refine_1 =>
    cases given <;> simp only [readMaskNumber]
    case int n => exact failsOnly_ok _
    case bool b  => exact h.refuseDefinition hg.number
    case float x => exact failsOnly_fault.mpr (hg.fraction x rfl)
    case text s =>
      split
      case h_1 => exact failsOnly_ok _
      case h_2 => exact h.refuseDefinition hg.number
  case refine_2 =>
    split
    case isTrue => exact h.refuseDefinition hg.number
    case isFalse =>
      rw [if_neg (by omega)]
      split
      case isTrue  => exact failsOnly_ok _
      case isFalse => exact h.refuseDefinition hg.number

theorem readKeyOverride_admits {override : OverrideText} (h : Admits P cs)
    (hl : Takes P override.layers) (ht : Takes P override.triggerMods)
    (hn : Takes P override.negativeMods) (hs : Takes P override.suppressedMods)
    (he : FailsOnly P (valid ((Schema.boolean override.enabled).under "enabled"))) :
    FailsOnly P (readKeyOverride keys override) := by
  refine (resolve_admits h _ _).bind fun _ _ => (resolve_admits h _ _).bind fun _ _ => ?_
  refine (readMask_admits h hl).bind fun _ _ => (readMask_admits h ht).bind fun _ _ => ?_
  refine (readMask_admits h hn).bind fun _ _ => (readMask_admits h hs).bind fun _ _ => ?_
  exact he.bind fun _ _ => failsOnly_ok _

theorem readKeyOverride_local (override : OverrideText) :
    FailsOnly Local (readKeyOverride keys override) := by
  have ha : Admits Local [] := Failure.admits_local
  have ht (given : Given) : Takes Local given := Failure.takes_local given
  refine readKeyOverride_admits ha (ht _) (ht _) (ht _) (ht _) ?_
  cases (Schema.boolean override.enabled).under "enabled" <;> simp [valid]

theorem readKeyOverrideJson_admits (h : Admits P definition.toList) :
    FailsOnly P (readKeyOverrideJson keys definition) := by
  refine .bind ?_ fun fields hf => .bind ?_ fun given hg => ?_
  case refine_1 =>
    rw [readObject]
    split
    case h_1 => exact failsOnly_ok _
    case h_2 => exact h.refuseDefinition Failure.fits_nil
    case h_3 digits hd =>
      obtain ⟨hl, hd⟩ := Json.read_overlong hd
      exact failsOnly_fault.mpr (h.numeral digits hl hd)
    case h_4 => exact h.refuseDefinition Failure.fits_nil
  case refine_2 =>
    rw [readOverrideFields]
    split
    case h_1 => exact failsOnly_ok _
    case h_2 => exact h.refuseDefinition Failure.fits_nil
  case refine_3 =>
    split
    case h_1 => exact h.refuseDefinition Failure.fits_nil
    case h_2 =>
      split
      case h_1 => exact h.refuseDefinition Failure.fits_nil
      case h_2 =>
        have hc : OverrideFields.check fields = .accepted given :=
          check_eq_accepted_iff.mpr (readOverrideFields_ok_iff.mp hg)
        obtain ⟨hl, ht, hn, hs⟩ := masks_of_check (within_readObject hf) hc
        have hm {given : Given} (h : Plain given) : Takes P given := Failure.takes_of_plain h
        exact readKeyOverride_admits h (hm hl) (hm ht) (hm hn) (hm hs) (failsOnly_ok _)

theorem readRecord_admits {kind : Kind} {tappingTerm comboTerm : Nat} (h : Admits P definition.toList)
    (hm : maxTriggers ≤ Combo.maxTriggers) :
    FailsOnly P
      (readRecord keys ⟨.int tappingTerm, .int maxTriggers, .int comboTerm⟩ kind definition) := by
  cases kind
  case keyMacro    => exact (readMacro_admits h).map _
  case tapDance    => exact (readTapDance_admits h).map _
  case keyOverride => exact (readKeyOverrideJson_admits h).map _
  case combo       => exact (readCombo_admits h hm (readTerm_natural comboTerm)).map _

theorem kind_of_readRecord {keys : κ} {context : Context} {kind : Kind}
    {definition : String} {r : Record} (h : readRecord keys context kind definition = .ok r) : r.kind = kind := by
  have hm {α : Type} {x : Except Failure α} {g : α → Record} (hg : ∀ a, (g a).kind = kind)
      (h : x.map g = .ok r) : r.kind = kind := by
    cases x <;> cases h
    exact hg _
  cases kind <;> exact hm (fun _ => rfl) h

end Definition

open Definition

theorem changedKey_failsOnly (keys : κ) (field : String) (token : Option String) :
    FailsOnly Local (changedKey keys field token) := by
  cases token
  case none => simp [changedKey]
  case some token =>
    rw [changedKey]
    split <;> simp

theorem changedMask_failsOnly (width : Nat) (field : String) (given : Option Given) :
    FailsOnly Local (changedMask width field given) := by
  cases given
  case none => simp [changedMask]
  case some given =>
    have ha : Admits Local [] := Failure.admits_local
    exact (readMask_admits ha (Failure.takes_local _)).bind fun _ _ => by simp

theorem OverrideChange.patch_failsOnly (keys : κ) (change : OverrideChange) :
    FailsOnly Local (change.patch keys) := by
  refine (changedKey_failsOnly _ _ _).bind fun _ _ => ?_
  refine (changedKey_failsOnly _ _ _).bind fun _ _ => ?_
  refine (changedMask_failsOnly 16 _ _).bind fun _ _ => ?_
  refine (changedMask_failsOnly 8 _ _).bind fun _ _ => ?_
  refine (changedMask_failsOnly 8 _ _).bind fun _ _ => ?_
  exact (changedMask_failsOnly 8 _ _).bind fun _ _ => by simp

theorem ComboChange.patch_failsOnly {keys : κ} {settings : Settings} {change : ComboChange}
    (hd : ∀ definition ∈ change.definition,
      FailsOnly P (readCombo keys definition (.int settings.maxTriggers) (.int 50)))
    (ht : ∀ term ∈ change.term, FailsOnly P (readTerm term)) :
    FailsOnly P (change.patch keys settings) := by
  rw [patch]
  split
  case h_1 =>
    dsimp only
    split
    case h_1 => exact failsOnly_ok _
    case h_2 term he => exact (ht term he).bind fun _ _ => failsOnly_ok _
  case h_2 definition he =>
    refine (hd definition he).bind fun _ _ => ?_
    dsimp only
    split
    case h_1 => exact failsOnly_ok _
    case h_2 term he => exact (ht term he).bind fun _ _ => failsOnly_ok _

end KeySlots
