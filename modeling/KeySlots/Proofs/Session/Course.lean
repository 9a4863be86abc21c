import KeySlots.Proofs.Keyboard
import KeySlots.Proofs.Session.Logic

namespace KeySlots

structure Breakdowns.Opens (broken : Breakdowns) : Prop where
  init : broken.init = none
  load : broken.load = none

structure Breakdowns.Commits (broken : Breakdowns) (saves : Prop) (plan : List Record) : Prop where
  push : ∀ r ∈ plan, broken.push r.id = none
  save : plan ≠ [] → saves → broken.save = none

def Keyboard.saveCall? (k : Keyboard) (kind : Kind) : Option Call :=
  if k.capabilities.saves.contains kind then some (.save (some kind))
  else if k.capabilities.genericSave then some (.save none)
  else none

-- What a command decides on before it writes anything.
inductive Decision where
  -- Its arguments are refused, and the keyboard is not called.
  | unread (f : Failure)
  -- What the keyboard reports is refused.
  | refused (f : Failure)
  -- There are records to write, in order, and numbers to report in the end.
  | write (plan : List Record) (reported : List Int)

def Decision.plan : Decision → List Record
  | write plan _ => plan
  | _ => []

namespace Session

def opening : List Call :=
  [.init, .load]

def pushes (kind : Kind) (shown : List Nat) (written : List Record) : List Call :=
  written.map fun r => .push kind r.id shown

theorem pushes_append (kind : Kind) (shown : List Nat) (written more : List Record) :
    pushes kind shown (written ++ more) = pushes kind shown written ++ pushes kind shown more :=
  List.map_append

def commits (k : Keyboard) (kind : Kind) (shown : List Nat) (plan : List Record) : List Call :=
  if plan = [] then [] else pushes kind shown plan ++ (k.saveCall? kind).toList

def finalStage (k : Keyboard) (kind : Kind) (plan : List Record) : Stage :=
  if plan = [] then .loaded else if (k.saveCall? kind).isSome then .saved else .saveSkipped

def finalWarnings (k : Keyboard) (kind : Kind) (plan : List Record) : List String :=
  if plan = [] ∨ (k.saveCall? kind).isSome then [] else [unsavedWarning kind]

-- What has happened since the keyboard was `k`.
structure Did (k : Keyboard) (kind : Kind) (calls : List Call) (written : List Record) (s : Session) :
    Prop where
  keyboard  : s.keyboard = k.writeAll kind written
  calls     : s.calls = calls
  committed : s.outcome.committed = written.map fun r => (r.id : Int)

-- A session that has not failed so far.
structure Busy (k : Keyboard) (kind : Kind) (calls : List Call) (written : List Record)
    (stage : Stage) (warnings : List String) (s : Session) : Prop
    extends Did k kind calls written s where
  stage    : s.outcome.stage = stage
  error    : s.outcome.error = none
  warnings : s.outcome.warnings = warnings

-- The courses of a command on the keyboard `k`, each with the failure it ends with.
inductive Course (broken : Breakdowns) (kind : Kind) (k : Keyboard) (d : Decision) :
    Option Failure → Session → Prop
  | unread {f s} :
    d = .unread f →
    s.Did k kind [] [] →
    Course broken kind k d (some f) s
  | initFailed {text s} :
    (∀ f, d ≠ .unread f) → broken.init = some text →
    s.Did k kind [.init] [] →
    Course broken kind k d (some (.refused (.callFailed text))) s
  | loadFailed {text s} :
    (∀ f, d ≠ .unread f) → broken.init = none → broken.load = some text →
    s.Did k kind opening [] →
    Course broken kind k d (some (.refused (.callFailed text))) s
  | refused {f s} :
    broken.Opens → d = .refused f →
    s.Did k kind opening [] →
    Course broken kind k d (some f) s
  | pushFailed {written r rest reported shown text s} :
    broken.Opens → d = .write (written ++ r :: rest) reported →
    (∀ w ∈ written, broken.push w.id = none) → broken.push r.id = some text →
    s.Did k kind (opening ++ pushes kind shown (written ++ [r])) written →
    Course broken kind k d (some (.refused (.callFailed text))) s
  | saveFailed {plan reported shown call text s} :
    broken.Opens → d = .write plan reported → plan ≠ [] →
    (∀ r ∈ plan, broken.push r.id = none) →
    k.saveCall? kind = some call → broken.save = some text →
    s.Did k kind (opening ++ pushes kind shown plan ++ [call]) plan →
    Course broken kind k d (some (.refused (.callFailed text))) s
  | overlong {plan reported shown n s} :
    broken.Opens → d = .write plan reported →
    broken.Commits (k.saveCall? kind).isSome plan →
    n ∈ reported → ¬Numeral.isWritable n →
    s.Did k kind (opening ++ commits k kind shown plan) plan →
    Course broken kind k d (some (.faulted .unwritableNumber)) s
  | done {plan reported shown s} :
    broken.Opens → d = .write plan reported →
    broken.Commits (k.saveCall? kind).isSome plan →
    (∀ n ∈ reported, Numeral.isWritable n) →
    s.outcome.ok = true →
    s.Busy k kind (opening ++ commits k kind shown plan) plan (finalStage k kind plan)
      (finalWarnings k kind plan) →
    Course broken kind k d none s

-- From a session on, the steps take the course of a decision to its end.
def Follows (broken : Breakdowns) (kind : Kind) (k : Keyboard) (d : Decision) (x : Step Unit)
    (s : Session) : Prop :=
  Ensures x s
    (fun _ s => Course broken kind k d none s)
    (fun f s => Course broken kind k d (some f) s)

abbrev Begun (k : Keyboard) (kind : Kind) (s : Session) : Prop :=
  s.Busy k kind [] [] .unloaded []

structure Loaded (broken : Breakdowns) (kind : Kind) (k : Keyboard) (records : List Record)
    (capacity : Int) (s : Session) : Prop where
  opens   : broken.Opens
  records : k.records? kind = some records
  count   : k.count? kind = some capacity
  busy    : s.Busy k kind opening [] .loaded []

structure Pushing (broken : Breakdowns) (kind : Kind) (k : Keyboard) (shown : List Nat)
    (written : List Record) (stage : Stage) (s : Session) : Prop where
  opens  : broken.Opens
  pushed : ∀ r ∈ written, broken.push r.id = none
  busy   : s.Busy k kind (opening ++ pushes kind shown written) written stage []

structure Saved (broken : Breakdowns) (kind : Kind) (k : Keyboard) (shown : List Nat)
    (plan : List Record) (s : Session) : Prop where
  opens   : broken.Opens
  through : broken.Commits (k.saveCall? kind).isSome plan
  busy    :
    s.Busy k kind (opening ++ commits k kind shown plan) plan (finalStage k kind plan)
      (finalWarnings k kind plan)

variable {broken : Breakdowns} {kind : Kind} {k : Keyboard} {d : Decision}
  {plan written records : List Record} {reported : List Int} {capacity : Int} {shown : List Nat}
  {s : Session} {calls : List Call} {stage : Stage} {warnings : List String}

theorem Busy.call {name : Call} {error : Option String}
    (h : s.Busy k kind calls written stage warnings) :
    Ensures (call name error) s
      (fun _ s => error = none ∧ s.Busy k kind (calls ++ [name]) written stage warnings)
      (fun f s => ∃ text, error = some text ∧ f = .refused (.callFailed text) ∧
        s.Did k kind (calls ++ [name]) written) := by
  cases error
  case none =>
    simp only [Session.call, ensures_bind, ensures_modify, ensures_pure, true_and]
    exact { h with calls := by simp [h.calls] }
  case some text =>
    simp only [Session.call, ensures_bind, ensures_modify, ensures_attempt]
    refine ⟨by simp [refuse], fun f hf => ⟨text, rfl, ?_, { h.toDid with calls := by simp [h.calls] }⟩⟩
    cases hf
    rfl

theorem Begun.load (h : s.Begun k kind) (hd : ∀ f, d ≠ .unread f)
    (hn : k.records? kind = none ∨ k.count? kind = none →
      d = .refused (Refusal.notPopulated kind
        (missingFields kind (k.count? kind) (k.records? kind))).failure) :
    Ensures (load broken kind) s
      (fun loaded s => Loaded broken kind k loaded.1 loaded.2 s)
      (fun f s => Course broken kind k d (some f) s) := by
  simp only [Session.load, ensures_bind, ensures_get]
  refine (Busy.call h).mono ?_ ?_
  case refine_2 =>
    rintro _ _ ⟨_, hi, rfl, hs⟩
    exact .initFailed hd hi hs
  rintro _ s₁ ⟨hi, h₁⟩
  refine h₁.call.mono ?_ ?_
  case refine_2 =>
    rintro _ _ ⟨_, hl, rfl, hs⟩
    exact .loadFailed hd hi hl hs
  rintro _ s₂ ⟨hl, h₂⟩
  rw [h₂.keyboard]
  simp only [Keyboard.writeAll]
  split
  case h_1 records capacity hr hc =>
    simp only [ensures_bind, ensures_report, ensures_pure]
    exact ⟨⟨hi, hl⟩, hr, hc, { h₂ with stage := rfl }⟩
  case h_2 records count hm =>
    simp only [ensures_attempt]
    refine ⟨by simp [refuse], fun f hf => .refused ⟨hi, hl⟩ ?_ h₂.toDid⟩
    cases hf
    refine hn ?_
    cases hr : k.records? kind <;> cases hc : k.count? kind <;> simp_all

theorem Loaded.pushing (h : Loaded broken kind k records capacity s) (shown : List Nat) :
    Pushing broken kind k shown [] .loaded s where
  opens  := h.opens
  pushed := by simp
  busy   := by simpa [pushes] using h.busy

theorem Pushing.push {id : Nat} {r : Record} {rest : List Record}
    (h : Pushing broken kind k (records.map (·.id)) written stage s)
    (hd : d = .write (written ++ r :: rest) reported) (hi : r.id = id)
    (hr : Slot.find? records id = some r) :
    Ensures (push broken kind id records) s
      (fun _ s => Pushing broken kind k (records.map (·.id)) (written ++ [r]) .pushed s)
      (fun f s => Course broken kind k d (some f) s) := by
  subst hi
  simp only [Session.push, ensures_bind, ensures_advance, hr, ensures_modify, ensures_report]
  have hb : Busy k kind _ written .mutated []
      { s with outcome := { s.outcome with stage := .mutated } } :=
    { h.busy with stage := rfl }
  refine hb.call.mono ?_ ?_
  case refine_1 =>
    rintro _ s' ⟨hn, hb⟩
    exact {
      opens  := h.opens
      pushed := by simpa [or_imp, forall_and, hn] using h.pushed
      busy   := { hb with
        keyboard  := by rw [hb.keyboard, Keyboard.writeAll_append]; rfl
        calls     := by rw [hb.calls, pushes_append, List.append_assoc]; rfl
        committed := by simp [hb.committed]
        stage     := rfl } }
  case refine_2 =>
    rintro _ s' ⟨text, ht, rfl, hs⟩
    rw [List.append_assoc] at hs
    exact .pushFailed h.opens hd h.pushed ht (by rwa [pushes_append])

theorem Pushing.save (h : Pushing broken kind k shown plan stage s) (hd : d = .write plan reported)
    (hp : plan ≠ []) :
    Ensures (save broken kind) s
      (fun _ s => Saved broken kind k shown plan s)
      (fun f s => Course broken kind k d (some f) s) := by
  have hs (call : Call) (hc : k.saveCall? kind = some call) :
      Ensures (do Session.call call broken.save; advance .saved) s
        (fun _ s => Saved broken kind k shown plan s)
        (fun f s => Course broken kind k d (some f) s) := by
    simp only [ensures_bind, ensures_advance]
    refine h.busy.call.mono ?_ ?_
    case refine_1 =>
      rintro _ s' ⟨hn, hb⟩
      refine ⟨h.opens, ⟨h.pushed, fun _ _ => hn⟩, ?_⟩
      exact { hb with
        calls    := by simp [hb.calls, commits, hp, hc]
        stage    := by simp [finalStage, hp, hc]
        warnings := by simp [finalWarnings, hc, hb.warnings] }
    case refine_2 =>
      rintro _ s' ⟨text, ht, rfl, hs⟩
      exact .saveFailed h.opens hd hp h.pushed hc ht hs
  simp only [Session.save, ensures_bind, ensures_get]
  rw [h.busy.keyboard, Keyboard.capabilities_writeAll]
  split
  case isTrue hk => exact hs _ <| if_pos hk
  case isFalse hk =>
    split
    case isTrue hg => exact hs _ <| (if_neg hk).trans <| if_pos hg
    case isFalse hg =>
      have hn : k.saveCall? kind = none := (if_neg hk).trans <| if_neg hg
      simp only [ensures_report]
      refine ⟨h.opens, ⟨h.pushed, by simp [hn]⟩, ?_⟩
      have hb := h.busy
      exact { hb with
        calls    := by simp [commits, hp, hn, hb.calls]
        stage    := by simp [finalStage, hp, hn]
        warnings := by simp [finalWarnings, hp, hn, hb.warnings] }

-- After saving, only the report of success can fail, which a number may be too long for.
theorem Saved.succeed {message : String} (h : Saved broken kind k shown plan s)
    (hd : d = .write plan reported) :
    Follows broken kind k d (succeed reported message) s := by
  rw [Follows, Session.succeed]
  split
  case isTrue hw =>
    simp only [ensures_report]
    exact .done h.opens hd h.through (List.all_eq_true.mp hw) rfl { h.busy with }
  case isFalse hw =>
    simp only [List.all_eq_true, Classical.not_forall] at hw
    obtain ⟨n, hm, hw⟩ := hw
    rw [ensures_throw]
    exact .overlong h.opens hd h.through hm hw h.busy.toDid

theorem follows_report {g : Outcome → Outcome} {x : Unit → Step Unit} :
    Follows broken kind k d (report g >>= x) s ↔
      Follows broken kind k d (x ()) { s with outcome := g s.outcome } := by
  simp only [Follows, ensures_bind, ensures_report]

theorem follows_throw {α : Type} {f : Failure} {g : α → Step Unit} :
    Follows broken kind k d (throw f >>= g) s ↔ Course broken kind k d (some f) s := by
  simp only [Follows, ensures_bind, ensures_throw]

theorem Begun.follows_attempt {α : Type} {x : Except Failure α} {g : α → Step Unit}
    (h : s.Begun k kind) (hf : ∀ f, x = .error f → d = .unread f)
    (hg : ∀ a, x = .ok a → Follows broken kind k d (g a) s) :
    Follows broken kind k d (attempt x >>= g) s := by
  rw [Follows, ensures_bind, ensures_attempt]
  exact ⟨hg, fun f he => .unread (hf f he) h.toDid⟩

theorem Loaded.follows_attempt {α : Type} {x : Except Failure α} {g : α → Step Unit}
    (h : Loaded broken kind k records capacity s) (hf : ∀ f, x = .error f → d = .refused f)
    (hg : ∀ a, x = .ok a → Follows broken kind k d (g a) s) :
    Follows broken kind k d (attempt x >>= g) s := by
  rw [Follows, ensures_bind, ensures_attempt]
  exact ⟨hg, fun f he => .refused h.opens (hf f he) h.busy.toDid⟩

theorem Begun.follows_error {α : Type} {f : Failure} {g : α → Step Unit} (h : s.Begun k kind)
    (hd : d = .unread f) : Follows broken kind k d (attempt (.error f) >>= g) s :=
  h.follows_attempt (fun _ he => by cases he; exact hd) fun _ he => by cases he

theorem Loaded.follows_error {α : Type} {f : Failure} {g : α → Step Unit}
    (h : Loaded broken kind k records capacity s) (hd : d = .refused f) :
    Follows broken kind k d (attempt (.error f) >>= g) s :=
  h.follows_attempt (fun _ he => by cases he; exact hd) fun _ he => by cases he

theorem Loaded.follows_succeed {message : String} (h : Loaded broken kind k records capacity s)
    (hd : d = .write [] reported) : Follows broken kind k d (succeed reported message) s := by
  have hs : Saved broken kind k [] [] s := ⟨h.opens, ⟨by simp, by simp⟩, h.busy⟩
  exact hs.succeed hd

theorem Loaded.follows_write {id : Nat} {r : Record} {out : List Record} {message : String}
    (h : Loaded broken kind k records capacity s) (hd : d = .write [r] reported) (hi : r.id = id)
    (hr : Slot.find? out id = some r) :
    Follows broken kind k d
      (do push broken kind id out; save broken kind; succeed reported message) s := by
  simp only [Follows, ensures_bind]
  refine ((h.pushing (out.map (·.id))).push hd hi hr).mono (fun _ s hp => ?_) fun _ _ hc => hc
  exact (hp.save hd (by simp)).mono (fun _ s hs => hs.succeed hd) fun _ _ hc => hc

end Session
end KeySlots
