import KeySlots.Outcome.Text
import KeySlots.Proofs.Json.Printer
import KeySlots.Proofs.Record.Canonical
import Mathlib.Data.List.Forall2

namespace KeySlots

open Json (IsExact)

theorem Json.isExact_map {α : Type} {g : α → Json} (h : ∀ a, IsExact (g a)) (as : List α) :
    IsExact (.array (as.map g)) :=
  .array (List.forall_mem_map.mpr fun a _ => h a)

theorem Action.isExact_fields (a : Action) : IsExact (.object a.fields) := by
  cases a <;> exact .object (by simp [fields]) (by simp [fields, IsExact.text, IsExact.int])

theorem Record.isExact_toJson (r : Record) : IsExact r.toJson := by
  have hn (kind : Kind) : (fieldNames kind).Nodup := by cases kind <;> decide
  refine .object (r.map_fst_fields ▸ hn r.kind) ?_
  cases r
  case keyMacro m => simp [fields, IsExact.int, Json.isExact_map Action.isExact_fields]
  case combo c => simp [fields, IsExact.int, IsExact.bool, Json.isExact_map IsExact.int]
  all_goals simp [fields, IsExact.int, IsExact.bool]

theorem Record.toJson_injective {r s : Record} (h : r.toJson = s.toJson) : r = s := by
  have hf : r.fields = s.fields := Json.object.inj h
  have hk : r.kind = s.kind := by
    have hn : fieldNames r.kind = fieldNames s.kind := by
      rw [← map_fst_fields, ← map_fst_fields, hf]
    revert hn
    cases r.kind <;> cases s.kind <;> decide
  have hc := s.check_toJson
  rw [← h, ← hk, r.check_toJson] at hc
  exact Schema.Checked.accepted.inj hc

namespace Outcome

open Schema

variable {κ : Type} [KeyCodec κ] {o : Outcome}

theorem check_toJson (o : Outcome) : check o.records o.toJson = .accepted o := by
  have hk : oneOf Kind.all Kind.name (.text o.kind.name) = .accepted o.kind := by cases o.kind <;> rfl
  have hs : oneOf Stage.all Stage.name (.text o.stage.name) = .accepted o.stage := by
    cases o.stage <;> rfl
  have hx (s : String) : Schema.text (.text s) = .accepted s := rfl
  have hi (ns : List Int) : array integer (.array (ns.map .int)) = .accepted ns :=
    items_map (g := Json.int) (fun _ => rfl) 0 ns
  have ht (ss : List String) : array Schema.text (.array (ss.map .text)) = .accepted ss :=
    items_map (g := Json.text) (fun _ => rfl) 0 ss
  have hn (n : Option Int) : nullable integer (numberOrNull n) = .accepted n := by cases n <;> rfl
  have he (s : Option String) : nullable Schema.text (textOrNull s) = .accepted s := by cases s <;> rfl
  simp only [check, toJson, model]
  rw [required_accepted rfl (boolean_bool o.ok), required_accepted rfl (hx o.command),
    required_accepted rfl hk,
    required_accepted rfl hs, optional_accepted rfl (hn o.slotId), optional_accepted rfl (hi o.slotIds),
    optional_accepted rfl (hi o.committed), optional_accepted rfl (hn o.capacity),
    optional_accepted rfl (he o.error), optional_accepted rfl (hx o.message),
    optional_accepted rfl (ht o.warnings)]
  rfl

theorem toJson_injective {other : Outcome} (h : other.toJson = o.toJson) : other = o := by
  have hr : other.records = o.records := by
    have hm : other.records.map Record.toJson = o.records.map Record.toJson := by
      simp only [toJson, Json.object.injEq, List.cons.injEq, Prod.mk.injEq, Json.array.injEq] at h
      exact h.right.right.right.right.right.right.right.right.left.right
    exact (List.map_inj_right fun _ _ => Record.toJson_injective).mp hm
  have hc := o.check_toJson
  rw [← h, ← hr, other.check_toJson] at hc
  exact Checked.accepted.inj hc

-- The fields of a dump say all of an outcome, each under its name and each record by a dump of its own.
structure Dump (o : Outcome) (fields : Fields) : Prop where
  names     : fields.map (·.1) = ["ok", "command", "kind", "state", "slot_id", "slot_ids", "committed",
    "capacity", "records", "error", "message", "warnings"]
  ok        : fields.get? "ok" = some (.bool o.ok)
  command   : fields.get? "command" = some (.text o.command)
  kind      : fields.get? "kind" = some (.text o.kind.name)
  stage     : fields.get? "state" = some (.text o.stage.name)
  slotId    : fields.get? "slot_id" = some (o.slotId.elim .null .int)
  slotIds   : fields.get? "slot_ids" = some (.array (o.slotIds.map .int))
  committed : fields.get? "committed" = some (.array (o.committed.map .int))
  capacity  : fields.get? "capacity" = some (o.capacity.elim .null .int)
  records   : ∃ dumps, fields.get? "records" = some (.array dumps) ∧
    List.Forall₂ (fun r v => Record.Canonical r.kind v ∧ Record.check r.kind v = .accepted r)
      o.records dumps
  error     : fields.get? "error" = some (o.error.elim .null .text)
  message   : fields.get? "message" = some (.text o.message)
  warnings  : fields.get? "warnings" = some (.array (o.warnings.map .text))

theorem exists_dump (o : Outcome) : ∃ fields, o.toJson = .object fields ∧ o.Dump fields := by
  refine ⟨_, rfl, ?_⟩
  have hn (n : Option Int) : numberOrNull n = n.elim .null .int := by cases n <;> rfl
  constructor
  case slotId   => exact congrArg some (hn o.slotId)
  case capacity => exact congrArg some (hn o.capacity)
  case error    => cases o.error <;> rfl
  case records  =>
    refine ⟨o.records.map Record.toJson, rfl, List.forall₂_map_right_iff.mpr ?_⟩
    exact List.forall₂_same.mpr fun r _ => ⟨r.canonical_toJson, r.check_toJson⟩
  all_goals rfl

theorem isExact_numberOrNull (n : Option Int) : IsExact (numberOrNull n) := by
  cases n
  case none   => exact .null
  case some n => exact .int n

theorem isExact_textOrNull (s : Option String) : IsExact (textOrNull s) := by
  cases s
  case none   => exact .null
  case some s => exact .text s

theorem isExact_toJson (o : Outcome) : IsExact o.toJson := by
  refine .object (by simp) ?_
  simp only [List.forall_mem_cons, IsExact.bool, IsExact.text, Json.isExact_map IsExact.int,
    Json.isExact_map IsExact.text, Json.isExact_map Record.isExact_toJson, isExact_numberOrNull,
    isExact_textOrNull, List.not_mem_nil, false_implies, implies_true, and_true]

theorem render_eq_jsonText (keys : κ) (verbose : Bool) (o : Outcome) :
    o.render keys "json" verbose = o.jsonText :=
  if_pos (by decide)

theorem jsonText_ok_iff {text : String} :
    o.jsonText = .ok text ↔
      (∀ n ∈ o.toJson.integers, Numeral.isWritable n) ∧ text = o.toJson.print := by
  rw [jsonText, writing, ← List.all_eq_true]
  split
  case isTrue h  => simp [h, eq_comm]
  case isFalse h => simp [h, fault]

theorem read_of_jsonText {text : String} (h : o.jsonText = .ok text) :
    Json.read (some Numeral.maxDigits) text.toList = .ok o.toJson := by
  obtain ⟨hw, rfl⟩ := jsonText_ok_iff.mp h
  refine o.isExact_toJson.read_print (by decide) ?_
  intro n hn
  simpa [Numeral.isWritable] using hw n hn

-- The JSON text of an outcome is ASCII and is read as fields that say all of the outcome. So another outcome
-- has another text, whatever it is rendered with.
theorem render_json (keys : κ) (verbose : Bool) {o : Outcome}
    (h : ∀ n ∈ o.toJson.integers, Numeral.isWritable n) :
    ∃ text fields, o.render keys "json" verbose = .ok text ∧ (∀ c ∈ text.toList, c.toNat < 0x80) ∧
      Json.read (some Numeral.maxDigits) text.toList = .ok (.object fields) ∧
      o.toJson = .object fields ∧ o.Dump fields ∧
      ∀ (others : κ) (terse : Bool) (other : Outcome), other ≠ o →
        other.render others "json" terse ≠ .ok text := by
  have ht : o.jsonText = .ok o.toJson.print := jsonText_ok_iff.mpr ⟨h, rfl⟩
  have hr := read_of_jsonText ht
  obtain ⟨fields, hf, hd⟩ := o.exists_dump
  refine ⟨o.toJson.print, fields, ?_, ?_, hf ▸ hr, hf, hd, ?_⟩
  case refine_1 => rw [render_eq_jsonText, ht]
  case refine_2 =>
    rw [Json.print, String.toList_ofList]
    exact o.isExact_toJson.ascii 0
  case refine_3 =>
    intro others terse other hne ho
    rw [render_eq_jsonText] at ho
    have hs := (read_of_jsonText ho).symm.trans hr
    exact hne (toJson_injective (Except.ok.inj hs))

def escaping : Outcome where
  ok       := false
  command  := "edit \\ \"é\""
  kind     := .keyMacro
  stage    := .deviceIoFailed
  slotId   := some (-7)
  slotIds  := [3, 1]
  records  := [.keyMacro { id := 3, actions := [.text "\x00\n/\x7f😀", .delay 5, .tap (-4)] }, .combo {}]
  error    := some "DeviceIOError"
  warnings := ["", "\u2028"]

theorem render_json_escaping :
    (∀ n ∈ escaping.toJson.integers, Numeral.isWritable n) ∧
      ∃ text fields, escaping.render (KeyTable.ofNames []) "json" false = .ok text ∧
        (∀ c ∈ text.toList, c.toNat < 0x80) ∧
        Json.read (some Numeral.maxDigits) text.toList = .ok (.object fields) ∧
        escaping.toJson = .object fields ∧ escaping.Dump fields ∧
        ∀ (others : KeyTable) (terse : Bool) (other : Outcome), other ≠ escaping →
          other.render others "json" terse ≠ .ok text := by
  have h : ∀ n ∈ escaping.toJson.integers, Numeral.isWritable n := by decide +kernel
  exact ⟨h, render_json (KeyTable.ofNames []) false h⟩

end Outcome
end KeySlots
