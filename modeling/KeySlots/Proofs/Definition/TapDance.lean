import KeySlots.Definition.Record
import KeySlots.Proofs.Definition.Call
import KeySlots.Proofs.Definition.Sequence
import KeySlots.Proofs.Record.Schema
import KeySlots.Proofs.Text.Part

namespace KeySlots.Definition

variable {κ : Type} [KeyCodec κ] {keys : κ} {definition name : String} {piece body : List Char}
  {press : Press} {clause : TapDanceClause} {clauses : List TapDanceClause} {t old mid new : TapDance}
  {r : Refusal}

def Press.word : Press → String
  | tap       => "TAP"
  | hold      => "HOLD"
  | doubleTap => "DOUBLE"
  | tapHold   => "TAPHOLD"

theorem Press.ofName?_eq_some_iff : Press.ofName? name = some press ↔ name = press.word := by
  constructor
  case mp =>
    intro h
    unfold Press.ofName? at h
    split at h <;> cases h <;> rfl
  case mpr =>
    rintro rfl
    cases press <;> rfl

theorem Press.word_ne_term (press : Press) : press.word ≠ "TERM" := by
  cases press <;> decide

-- What a piece gives: a call of a way to press gives it a key, and a call of the term gives it a number.
inductive Gives (keys : κ) (piece : List Char) : TapDanceClause → Prop
  | key {press : Press} {body : List Char} {code : KeyCode} (call : Calls press.word body piece)
    (given : body ≠ []) (known : KeyCodec.parse keys (String.ofList (Text.trim body)) = some code) :
    Gives keys piece (.key press code)
  | term {body : List Char} (call : Calls "TERM" body piece)
    (digits : Numeral.isNatural (Text.trim body)) :
    Gives keys piece (.term (Numeral.naturalValue (Text.trim body)))

-- Why a piece that gives nothing is refused: its key is unknown, its term is no number, or it is neither.
inductive Refuses (keys : κ) (piece : List Char) : Refusal → Prop
  | key {press : Press} {body : List Char} (call : Calls press.word body piece) (given : body ≠ [])
    (unknown : KeyCodec.parse keys (String.ofList (Text.trim body)) = none) :
    Refuses keys piece (.invalidKey (.tapDance press.word) (String.ofList (Text.trim body)))
  | term {body : List Char} (call : Calls "TERM" body piece)
    (digits : ¬Numeral.isNatural (Text.trim body)) :
    Refuses keys piece (.definition (.tapDanceTerm (String.ofList piece)))
  | neither (key : ∀ (press : Press) body, Calls press.word body piece → body = [])
    (term : ∀ body, ¬Calls "TERM" body piece) :
    Refuses keys piece (.definition (.tapDanceAction (String.ofList piece)))

def TermFits (piece : List Char) : Prop :=
  ∀ body, Calls "TERM" body piece → Numeral.isNatural (Text.trim body) →
    (Text.trim body).length ≤ Numeral.maxDigits

theorem readTapDanceClause_key (h : Calls press.word body piece) (hb : body ≠ []) :
    readTapDanceClause keys piece =
      (resolve keys (.tapDance press.word) (String.ofList (Text.trim body))).map (.key press) := by
  have hc : Call.ofText? piece = some ⟨press.word, body⟩ :=
    ofText?_of_calls (by cases press <;> decide) h
  have hp : Press.ofName? press.word = some press := Press.ofName?_eq_some_iff.mpr rfl
  obtain ⟨first, rest, rfl⟩ := List.exists_cons_of_ne_nil hb
  simp only [readTapDanceClause, hc, press.word_ne_term, hp, if_false]

theorem readTapDanceClause_term (h : Calls "TERM" body piece) :
    readTapDanceClause keys piece =
      (readNatural body (.tapDanceTerm (String.ofList piece))).map .term := by
  have hc : Call.ofText? piece = some ⟨"TERM", body⟩ := ofText?_of_calls (by decide) h
  simp only [readTapDanceClause, hc, if_true]

theorem readTapDanceClause_neither (hk : ∀ (press : Press) body, Calls press.word body piece → body = [])
    (ht : ∀ body, ¬Calls "TERM" body piece) :
    readTapDanceClause keys piece = refuseDefinition (.tapDanceAction (String.ofList piece)) := by
  rw [readTapDanceClause]
  split
  case h_1 => rfl
  case h_2 call hc =>
    obtain ⟨-, hc⟩ := ofText?_eq_some_iff.mp hc
    split
    case isTrue hn => exact absurd (hn ▸ hc) (ht call.body)
    case isFalse =>
      split
      case h_2 => rfl
      case h_1 press _ _ hp hb =>
        rw [Press.ofName?_eq_some_iff.mp hp] at hc
        simp [hk press _ hc] at hb

theorem piece_cases (piece : List Char) :
    (∃ press : Press, ∃ body, Calls press.word body piece ∧ body ≠ []) ∨
      (∃ body, Calls "TERM" body piece) ∨
      ((∀ (press : Press) body, Calls press.word body piece → body = []) ∧
        ∀ body, ¬Calls "TERM" body piece) := by
  by_cases hk : ∃ press : Press, ∃ body, Calls press.word body piece ∧ body ≠ []
  case pos => exact .inl hk
  case neg =>
    by_cases ht : ∃ body, Calls "TERM" body piece
    case pos => exact .inr (.inl ht)
    case neg => exact .inr (.inr ⟨by simpa using hk, by simpa using ht⟩)

theorem readTapDanceClause_ok_iff (h : TermFits piece) :
    readTapDanceClause keys piece = .ok clause ↔ Gives keys piece clause := by
  constructor
  case mp =>
    intro hr
    obtain ⟨press, body, hc, hb⟩ | ⟨body, hc⟩ | ⟨hk, ht⟩ := piece_cases piece
    case inl =>
      rw [readTapDanceClause_key hc hb] at hr
      obtain ⟨code, hp, rfl⟩ := map_ok_iff.mp hr
      exact .key hc hb (resolve_ok_iff.mp hp)
    case inr.inl =>
      rw [readTapDanceClause_term hc] at hr
      obtain ⟨ms, hm, rfl⟩ := map_ok_iff.mp hr
      obtain ⟨hn, -, rfl⟩ := readNatural_ok_iff.mp hm
      exact .term hc hn
    case inr.inr =>
      rw [readTapDanceClause_neither hk ht] at hr
      cases hr
  case mpr =>
    intro hg
    cases hg
    case key press body code hc hb hp =>
      rw [readTapDanceClause_key hc hb]
      exact map_ok_iff.mpr ⟨code, resolve_ok_iff.mpr hp, rfl⟩
    case term body hc hn =>
      rw [readTapDanceClause_term hc]
      exact map_ok_iff.mpr ⟨_, readNatural_ok_iff.mpr ⟨hn, h body hc hn, rfl⟩, rfl⟩

theorem readTapDanceClause_of_refuses (h : Refuses keys piece r) :
    readTapDanceClause keys piece = .error (.refused r) := by
  cases h
  case key hc hb hp =>
    rw [readTapDanceClause_key hc hb, resolve_of_none hp]
    rfl
  case term hc hn =>
    rw [readTapDanceClause_term hc, readNatural_of_not hn]
    rfl
  case neither hk ht => exact readTapDanceClause_neither hk ht

theorem gives_or_refuses (keys : κ) (piece : List Char) :
    (∃ clause, Gives keys piece clause) ∨ ∃ r, Refuses keys piece r := by
  obtain ⟨press, body, hc, hb⟩ | ⟨body, hc⟩ | ⟨hk, ht⟩ := piece_cases piece
  case inl =>
    cases hp : KeyCodec.parse keys (String.ofList (Text.trim body))
    case some code => exact .inl ⟨_, .key hc hb hp⟩
    case none      => exact .inr ⟨_, .key hc hb hp⟩
  case inr.inl =>
    by_cases hn : Numeral.isNatural (Text.trim body)
    case pos => exact .inl ⟨_, .term hc hn⟩
    case neg => exact .inr ⟨_, .term hc hn⟩
  case inr.inr => exact .inr ⟨_, .neither hk ht⟩

namespace TapDanceClause

def press? : TapDanceClause → Option Press
  | key press _ => some press
  | term _      => none

def code? (press : Press) : TapDanceClause → Option KeyCode
  | key other code => if other = press then some code else none
  | term _         => none

def lastCode (press : Press) (clauses : List TapDanceClause) : Option KeyCode :=
  (clauses.filterMap (code? press)).getLast?

def lastTerm (clauses : List TapDanceClause) : Option Nat :=
  (clauses.filterMap term?).getLast?

end TapDanceClause

open TapDanceClause

-- A tap-dance is changed by what pieces give: the last of them counts for each of its keys and for its
-- term, and what none of them gives stays as it is.
structure ChangedBy (old : TapDance) (clauses : List TapDanceClause) (new : TapDance) : Prop where
  id        : new.id = old.id
  tap       : new.tap = (lastCode .tap clauses).getD old.tap
  hold      : new.hold = (lastCode .hold clauses).getD old.hold
  doubleTap : new.doubleTap = (lastCode .doubleTap clauses).getD old.doubleTap
  tapHold   : new.tapHold = (lastCode .tapHold clauses).getD old.tapHold
  term      : new.term = (lastTerm clauses).getD old.term

theorem getD_getLast?_filterMap_cons {α β : Type} (g : α → Option β) (a : α) (as : List α) (own : β) :
    ((a :: as).filterMap g).getLast?.getD own =
      (as.filterMap g).getLast?.getD (([a].filterMap g).getLast?.getD own) := by
  cases h : g a <;> simp [h, List.getLast?_cons]

theorem changedBy_apply (t : TapDance) (clause : TapDanceClause) : ChangedBy t [clause] (apply t clause) := by
  constructor <;> obtain ⟨_ | _ | _ | _, _⟩ | _ := clause <;> rfl

theorem ChangedBy.cons (hc : ChangedBy old [clause] mid) (h : ChangedBy mid clauses new) :
    ChangedBy old (clause :: clauses) new := by
  have hg {α : Type} (g : TapDanceClause → Option α) := getD_getLast?_filterMap_cons g clause clauses
  constructor
  case id        => rw [h.id, hc.id]
  case tap       => rw [h.tap, hc.tap]; exact (hg _ _).symm
  case hold      => rw [h.hold, hc.hold]; exact (hg _ _).symm
  case doubleTap => rw [h.doubleTap, hc.doubleTap]; exact (hg _ _).symm
  case tapHold   => rw [h.tapHold, hc.tapHold]; exact (hg _ _).symm
  case term      => rw [h.term, hc.term]; exact (hg _ _).symm

theorem changedBy_foldl (clauses : List TapDanceClause) (t : TapDance) :
    ChangedBy t clauses (clauses.foldl apply t) := by
  induction clauses generalizing t
  case nil => constructor <;> rfl
  case cons clause clauses hi => exact (changedBy_apply t clause).cons (hi (apply t clause))

theorem ChangedBy.eq {other : TapDance} (h : ChangedBy old clauses new)
    (ho : ChangedBy old clauses other) : new = other := by
  cases new
  cases other
  simp only [TapDance.mk.injEq]
  exact ⟨h.id.trans ho.id.symm, h.tap.trans ho.tap.symm, h.hold.trans ho.hold.symm,
    h.doubleTap.trans ho.doubleTap.symm, h.tapHold.trans ho.tapHold.symm, h.term.trans ho.term.symm⟩

def readClauses (keys : κ) (pieces : List (List Char)) : Except Failure (List TapDanceClause) :=
  pieces.mapM (readTapDanceClause keys)

theorem foldl_apply_of_term (h : clauses.any (·.term?.isSome)) (term : Nat) :
    clauses.foldl apply {} = clauses.foldl apply { term } := by
  have hc := changedBy_foldl clauses { term }
  have hl : (lastTerm clauses).isSome := by
    rw [lastTerm, List.getLast?_isSome, ne_eq, List.filterMap_eq_nil_iff]
    simpa [Option.ne_none_iff_isSome] using h
  obtain ⟨ms, hm⟩ := Option.isSome_iff_exists.mp hl
  refine (changedBy_foldl clauses {}).eq ⟨hc.id, hc.tap, hc.hold, hc.doubleTap, hc.tapHold, ?_⟩
  rw [hc.term, hm]
  rfl

theorem readTapDance_eq (keys : κ) (definition : String) (term : Nat) :
    readTapDance keys definition (.int term) =
      readClauses keys (Text.pieces ',' definition.toList) >>= fun clauses =>
        if clauses.any (·.isKey) then .ok (clauses.foldl apply { term })
        else .error (.refused (.definition (.tapDanceEmpty definition))) := by
  rw [readTapDance, readClauses]
  congr 1
  funext clauses
  cases clauses.any (·.isKey)
  case false => rfl
  case true =>
    cases ht : clauses.any (·.term?.isSome)
    case true  => simp [foldl_apply_of_term ht term]
    case false => simp [Schema.natural_int, Schema.Checked.under, valid, bind, Except.bind]

def TermsFit (definition : String) : Prop :=
  ∀ piece ∈ Text.pieces ',' definition.toList, TermFits piece

theorem termsFit_of_length (h : definition.toList.length ≤ Numeral.maxDigits) : TermsFit definition := by
  rintro _ hp body ⟨letters, -, rfl⟩ -
  have hb : body <:+: definition.toList :=
    (List.infix_append' (letters ++ ['(']) body [')']).trans (by simpa using Text.infix_of_mem_pieces hp)
  exact Nat.le_trans ((Text.infix_trim body).trans hb).length_le h

variable {pieces : List (List Char)}

theorem Gives.eq {c d : TapDanceClause} (h : TermFits piece) (hc : Gives keys piece c)
    (hd : Gives keys piece d) : c = d := by
  rw [← readTapDanceClause_ok_iff h] at hc hd
  exact Except.ok.inj (hc.symm.trans hd)

theorem readClauses_ok_iff (h : ∀ piece ∈ pieces, TermFits piece) :
    readClauses keys pieces = .ok clauses ↔ List.Forall₂ (Gives keys) pieces clauses := by
  rw [readClauses, mapM_ok_iff]
  constructor
  case mp =>
    intro hr
    refine ((List.forall₂_and_left _ _).mpr ⟨h, hr⟩).imp ?_
    exact fun _ _ hp => (readTapDanceClause_ok_iff hp.left).mp hp.right
  case mpr =>
    intro hg
    refine ((List.forall₂_and_left _ _).mpr ⟨h, hg⟩).imp ?_
    exact fun _ _ hp => (readTapDanceClause_ok_iff hp.left).mpr hp.right

theorem exists_clauses_iff (h : ∀ piece ∈ pieces, TermFits piece) :
    (∃ clauses, List.Forall₂ (Gives keys) pieces clauses) ↔
      ∀ piece ∈ pieces, ∃ clause, Gives keys piece clause := by
  simp only [← readClauses_ok_iff h, readClauses, exists_mapM_iff]
  exact forall₂_congr fun piece hp => exists_congr fun _ => readTapDanceClause_ok_iff (h piece hp)

theorem any_isKey_iff (h : ∀ piece ∈ pieces, TermFits piece)
    (hg : List.Forall₂ (Gives keys) pieces clauses) :
    clauses.any (·.isKey) ↔ ∃ piece ∈ pieces, ∃ press code, Gives keys piece (.key press code) := by
  induction hg
  case nil => simp
  case cons piece clause pieces clauses hc hs hi =>
    obtain ⟨hf, h⟩ := List.forall_mem_cons.mp h
    have hk : clause.isKey ↔ ∃ press code, Gives keys piece (.key press code) := by
      constructor
      case mp =>
        intro hk
        cases clause
        case key press code => exact ⟨press, code, hc⟩
        case term           => cases hk
      case mpr =>
        rintro ⟨press, code, hg⟩
        rw [hc.eq hf hg]
        rfl
    simp [hk, ← hi h]

theorem readTapDance_ok_iff (h : TermsFit definition) {term : Nat} :
    readTapDance keys definition (.int term) = .ok t ↔
      ∃ clauses, List.Forall₂ (Gives keys) (Text.pieces ',' definition.toList) clauses ∧
        clauses.any (·.isKey) ∧ ChangedBy { term } clauses t := by
  rw [readTapDance_eq, bind_ok_iff]
  refine exists_congr fun clauses => ?_
  rw [readClauses_ok_iff h]
  refine and_congr_right fun _ => ?_
  cases clauses.any (·.isKey)
  case false => simp
  case true =>
    have hf := changedBy_foldl clauses { term }
    simpa using ⟨fun he => he ▸ hf, fun hc => hf.eq hc⟩

theorem exists_readTapDance_iff (h : TermsFit definition) {term : Nat} :
    (∃ t, readTapDance keys definition (.int term) = .ok t) ↔
      (∀ piece ∈ Text.pieces ',' definition.toList, ∃ clause, Gives keys piece clause) ∧
        ∃ piece ∈ Text.pieces ',' definition.toList, ∃ press code,
          Gives keys piece (.key press code) := by
  simp only [readTapDance_ok_iff h]
  constructor
  case mp =>
    rintro ⟨t, clauses, hg, hk, -⟩
    exact ⟨(exists_clauses_iff h).mp ⟨clauses, hg⟩, (any_isKey_iff h hg).mp hk⟩
  case mpr =>
    rintro ⟨hg, hk⟩
    obtain ⟨clauses, hg⟩ := (exists_clauses_iff h).mpr hg
    exact ⟨_, clauses, hg, (any_isKey_iff h hg).mpr hk, changedBy_foldl clauses { term }⟩

-- Pieces that give something else can be applied in either order.
theorem apply_comm {c d : TapDanceClause} (h : c.press? ≠ d.press?) (t : TapDance) :
    apply (apply t c) d = apply (apply t d) c := by
  obtain ⟨_ | _ | _ | _, _⟩ | _ := c <;> obtain ⟨_ | _ | _ | _, _⟩ | _ := d <;>
    first | rfl | exact absurd rfl h

theorem readTapDance_swap {other : String} {before after : List (List Char)} {p q : List Char}
    {c d : TapDanceClause} {term : Nat} (h : TermsFit definition)
    (hd : Text.pieces ',' definition.toList = before ++ p :: q :: after)
    (ho : Text.pieces ',' other.toList = before ++ q :: p :: after) (hp : Gives keys p c)
    (hq : Gives keys q d) (hn : c.press? ≠ d.press?)
    (ht : readTapDance keys definition (.int term) = .ok t) :
    readTapDance keys other (.int term) = .ok t := by
  have hs : (before ++ q :: p :: after).Perm (before ++ p :: q :: after) :=
    (List.Perm.swap p q after).append_left before
  have hf : TermsFit other := fun piece hm => h piece (hd ▸ hs.subset (ho ▸ hm))
  obtain ⟨clauses, hg, hk, hc⟩ := (readTapDance_ok_iff h).mp ht
  obtain ⟨first, c', d', rest, rfl, hpc, hqd, hg⟩ := forall₂_swap (hd ▸ hg)
  cases hp.eq (h p (by simp [hd])) hpc
  cases hq.eq (h q (by simp [hd])) hqd
  refine (readTapDance_ok_iff hf).mpr ⟨_, ho ▸ hg, ?_, ?_⟩
  case refine_1 => simpa [or_left_comm] using hk
  case refine_2 =>
    rw [hc.eq (changedBy_foldl ..), List.foldl_append, List.foldl_cons, List.foldl_cons, apply_comm hn]
    simpa using changedBy_foldl (first ++ d :: c :: rest) { term }

theorem readTapDance_refused {term : Nat} (h : TermsFit definition)
    (hp : piece ∈ Text.pieces ',' definition.toList) (hn : ∀ clause, ¬Gives keys piece clause) :
    ∃ before first after r, Text.pieces ',' definition.toList = before ++ first :: after ∧
      (∀ p ∈ before, ∃ clause, Gives keys p clause) ∧ Refuses keys first r ∧
      readTapDance keys definition (.int term) = .error (.refused r) := by
  cases hr : readClauses keys (Text.pieces ',' definition.toList)
  case ok clauses =>
    obtain ⟨clause, hc⟩ := (exists_clauses_iff h).mp ⟨clauses, (readClauses_ok_iff h).mp hr⟩ piece hp
    exact absurd hc (hn clause)
  case error f =>
    obtain ⟨before, first, after, he, hb, hf⟩ := mapM_error_iff.mp hr
    obtain ⟨clause, hg⟩ | ⟨r, hg⟩ := gives_or_refuses keys first
    case inl =>
      rw [(readTapDanceClause_ok_iff (h first (by simp [he]))).mpr hg] at hf
      cases hf
    case inr =>
      refine ⟨before, first, after, r, he, ?_, hg, ?_⟩
      case refine_1 =>
        intro p hm
        obtain ⟨clause, hc⟩ := hb p hm
        exact ⟨clause, (readTapDanceClause_ok_iff (h p (by simp [he, hm]))).mp hc⟩
      case refine_2 =>
        rw [readTapDanceClause_of_refuses hg] at hf
        cases hf
        rw [readTapDance_eq, hr]
        rfl

-- A definition is read exactly if each of its pieces gives something and one of them a key. The last piece
-- that gives a key for a way to press, and the last one that gives a term, count, so that neighbours of
-- which each gives something else can change places. Of the pieces that give nothing the first one counts.
theorem readTapDance_by_pieces (keys : κ) (term : Nat) (h : TermsFit definition) :
    ((∃ t, readTapDance keys definition (.int term) = .ok t) ↔
        (∀ piece ∈ Text.pieces ',' definition.toList, ∃ clause, Gives keys piece clause) ∧
          ∃ piece ∈ Text.pieces ',' definition.toList, ∃ press code,
            Gives keys piece (.key press code)) ∧
      (∀ t, readTapDance keys definition (.int term) = .ok t →
        ∃ clauses, List.Forall₂ (Gives keys) (Text.pieces ',' definition.toList) clauses ∧
          ChangedBy { term } clauses t) ∧
      (∀ other before p q after c d t, Text.pieces ',' definition.toList = before ++ p :: q :: after →
        Text.pieces ',' other.toList = before ++ q :: p :: after → Gives keys p c → Gives keys q d →
        c.press? ≠ d.press? → readTapDance keys definition (.int term) = .ok t →
        readTapDance keys other (.int term) = .ok t) ∧
      ∀ piece ∈ Text.pieces ',' definition.toList, (∀ clause, ¬Gives keys piece clause) →
        ∃ before first after r, Text.pieces ',' definition.toList = before ++ first :: after ∧
          (∀ p ∈ before, ∃ clause, Gives keys p clause) ∧ Refuses keys first r ∧
          readTapDance keys definition (.int term) = .error (.refused r) := by
  refine ⟨exists_readTapDance_iff h, ?changed, ?swap, fun _ hp => readTapDance_refused h hp⟩
  case changed =>
    intro t ht
    obtain ⟨clauses, hg, -, hc⟩ := (readTapDance_ok_iff h).mp ht
    exact ⟨clauses, hg, hc⟩
  case swap =>
    intro other before p q after c d t hd ho hp hq hn
    exact readTapDance_swap h hd ho hp hq hn

theorem readTapDance_by_pieces_repeated :
    let keys : KeyTable := .ofNames [("A", 4), ("B", 5)]
    let first := "Tap(A),HOLD( b ), ,TERM(180),TAP(B),term(90)"
    let second := "TAP(A),TERM(x),HOLD()"
    (∃ clauses, List.Forall₂ (Gives keys) (Text.pieces ',' first.toList) clauses ∧
        ChangedBy { term := 200 } clauses { tap := 5, hold := 5, term := 90 }) ∧
      readTapDance keys "Tap(A),TERM(180),HOLD( b ),TAP(B),term(90)" (.int (200 : Nat)) =
        .ok { tap := 5, hold := 5, term := 90 } ∧
      ∃ before piece after r, Text.pieces ',' second.toList = before ++ piece :: after ∧
        (∀ p ∈ before, ∃ clause, Gives keys p clause) ∧ Refuses keys piece r ∧
        readTapDance keys second (.int (200 : Nat)) = .error (.refused r) := by
  intro keys first second
  have hf : TermsFit first := termsFit_of_length (by decide)
  have hs : TermsFit second := termsFit_of_length (by decide)
  have ht : readTapDance keys first (.int (200 : Nat)) = .ok { tap := 5, hold := 5, term := 90 } := by
    decide +kernel
  have hg (piece) (clause) (hp : piece ∈ Text.pieces ',' first.toList)
      (hc : readTapDanceClause keys piece = .ok clause) : Gives keys piece clause :=
    (readTapDanceClause_ok_iff (hf piece hp)).mp hc
  obtain ⟨-, hc, hw, -⟩ := readTapDance_by_pieces keys 200 hf
  obtain ⟨-, -, -, hr⟩ := readTapDance_by_pieces keys 200 hs
  refine ⟨hc _ ht, ?swap, ?refused⟩
  case swap =>
    refine hw _ ["Tap(A)".toList] "HOLD( b )".toList "TERM(180)".toList
      ["TAP(B)".toList, "term(90)".toList] (.key .hold 5) (.term 180) _ (by decide +kernel)
      (by decide +kernel) (hg _ _ ?_ ?_) (hg _ _ ?_ ?_) (by decide) ht <;> decide +kernel
  case refused =>
    have hm : "TERM(x)".toList ∈ Text.pieces ',' second.toList := by decide +kernel
    refine hr _ hm ?_
    intro clause hg
    have he : readTapDanceClause keys "TERM(x)".toList =
        .error (.refused (.definition (.tapDanceTerm "TERM(x)"))) := by
      decide +kernel
    cases he.symm.trans ((readTapDanceClause_ok_iff (hs _ hm)).mpr hg)

end KeySlots.Definition
