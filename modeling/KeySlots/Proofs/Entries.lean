import KeySlots.Entries

namespace KeySlots.Entries

open scoped List

variable {κ υ : Type} [DecidableEq κ] {entries others : Entries κ υ} {key : κ} {value : υ}

@[simp]
theorem get?_nil (key : κ) : get? ([] : Entries κ υ) key = none :=
  rfl

theorem get?_append (entries others : Entries κ υ) (key : κ) :
    get? (entries ++ others) key = (entries.get? key).or (others.get? key) := by
  induction entries
  case nil => rfl
  case cons entry entries hi =>
    rw [List.cons_append, get?_cons, get?_cons]
    split
    case isTrue  => rfl
    case isFalse => exact hi

theorem get?_eq_none_iff : entries.get? key = none ↔ key ∉ entries.map (·.1) := by
  induction entries
  case nil => simp
  case cons entry entries hi =>
    rw [get?_cons, List.map_cons, List.mem_cons]
    split
    case isTrue h  => simp [h]
    case isFalse h => simp [h, hi]

theorem mem_of_get? (h : entries.get? key = some value) : (key, value) ∈ entries := by
  induction entries
  case nil => cases h
  case cons entry entries hi =>
    rw [get?_cons] at h
    split at h
    case isTrue hk =>
      cases h
      exact hk ▸ List.mem_cons_self
    case isFalse => exact List.mem_cons_of_mem _ (hi h)

theorem mem_iff_get? (h : (entries.map (·.1)).Nodup) :
    (key, value) ∈ entries ↔ entries.get? key = some value := by
  induction entries
  case nil => simp
  case cons entry entries hi =>
    obtain ⟨other, first⟩ := entry
    obtain ⟨hn, h⟩ := List.nodup_cons.mp h
    rw [get?_cons, List.mem_cons, hi h]
    split
    case isTrue hk =>
      subst hk
      simp [get?_eq_none_iff.mpr hn, eq_comm]
    case isFalse hk => simp [hk]

omit [DecidableEq κ] in
theorem nodup_of_keys (h : (entries.map (·.1)).Nodup) : entries.Nodup :=
  List.Pairwise.of_map _ (fun _ _ hne he => hne (congrArg _ he)) h

theorem perm_iff_get? (h : (entries.map (·.1)).Nodup) (h' : (others.map (·.1)).Nodup) :
    entries ~ others ↔ ∀ key, entries.get? key = others.get? key := by
  rw [List.perm_ext_iff_of_nodup (nodup_of_keys h) (nodup_of_keys h')]
  constructor
  case mp =>
    intro hm key
    ext value
    rw [← mem_iff_get? h, ← mem_iff_get? h']
    exact hm (key, value)
  case mpr =>
    rintro hg ⟨key, value⟩
    rw [mem_iff_get? h, mem_iff_get? h', hg]

theorem get?_reverse (h : (entries.map (·.1)).Nodup) (key : κ) :
    get? entries.reverse key = entries.get? key := by
  have hp : entries.reverse ~ entries := List.reverse_perm entries
  exact (perm_iff_get? ((hp.map _).nodup_iff.mpr h) h).mp hp key

theorem get?_put (entries : Entries κ υ) (key other : κ) (value : υ) :
    (entries.put key value).get? other = if other = key then some value else entries.get? other := by
  split
  case isTrue h  => rw [h, get?_put_self]
  case isFalse h => exact get?_put_of_ne _ _ h

theorem put_of_get? (h : entries.get? key = some value) : put key value entries = entries := by
  induction entries
  case nil => cases h
  case cons entry entries hi =>
    rw [get?_cons] at h
    rw [put]
    split at h
    case isTrue hk =>
      cases h
      exact if_pos hk.symm
    case isFalse hk => rw [if_neg (Ne.symm hk), hi h]

theorem put_put (key : κ) (first value : υ) (entries : Entries κ υ) :
    put key value (put key first entries) = put key value entries := by
  induction entries
  case nil => simp [put]
  case cons entry entries hi =>
    by_cases hk : entry.fst = key
    case pos => simp [put, hk]
    case neg => simp [put, hk, hi]

-- What stands under a key after a merge is the last of the values put under it, or what was there before.
theorem get?_merge (entries others : Entries κ υ) (key : κ) :
    (entries.merge others).get? key = (get? others.reverse key).or (entries.get? key) := by
  induction others generalizing entries
  case nil => rfl
  case cons entry others hi =>
    have hm : entries.merge (entry :: others) = (entries.put entry.1 entry.2).merge others := rfl
    rw [hm, hi, List.reverse_cons, get?_append, get?_cons, get?_put, Option.or_assoc]
    congr 1
    split <;> simp

theorem get?_merge_of_nodup (entries : Entries κ υ) (h : (others.map (·.1)).Nodup) (key : κ) :
    (entries.merge others).get? key = (others.get? key).or (entries.get? key) := by
  rw [get?_merge, get?_reverse h]

theorem get?_ofPairs (pairs : List (κ × υ)) (key : κ) :
    (ofPairs pairs).get? key = get? pairs.reverse key := by
  rw [ofPairs, get?_merge, get?_nil, Option.or_none]

theorem nodup_put (h : (entries.map (·.1)).Nodup) : ((put key value entries).map (·.1)).Nodup := by
  induction entries
  case nil => simp [put]
  case cons entry entries hi =>
    obtain ⟨hn, h⟩ := List.nodup_cons.mp h
    rw [put]
    split
    case isTrue  => exact List.nodup_cons.mpr ⟨hn, h⟩
    case isFalse hk =>
      refine List.nodup_cons.mpr ⟨?_, hi h⟩
      rw [← get?_eq_none_iff, get?_put_of_ne _ _ hk, get?_eq_none_iff]
      exact hn

theorem nodup_merge (h : (entries.map (·.1)).Nodup) (others : Entries κ υ) :
    ((entries.merge others).map (·.1)).Nodup := by
  induction others generalizing entries
  case nil => exact h
  case cons entry others hi => exact hi (nodup_put h)

theorem nodup_ofPairs (pairs : List (κ × υ)) : ((ofPairs pairs).map (·.1)).Nodup := by
  have hn : (([] : Entries κ υ).map (·.1)).Nodup := List.nodup_nil
  exact nodup_merge hn pairs

theorem get?_ofPairs_ofPairs (pairs : List (κ × υ)) (key : κ) :
    (ofPairs (ofPairs pairs)).get? key = (ofPairs pairs).get? key := by
  rw [get?_ofPairs, get?_reverse (nodup_ofPairs pairs)]

theorem put_of_not_mem (h : key ∉ entries.map (·.1)) : put key value entries = entries ++ [(key, value)] := by
  induction entries
  case nil => rfl
  case cons entry entries hi =>
    obtain ⟨hk, h⟩ : key ≠ entry.1 ∧ key ∉ entries.map (·.1) := by simpa using h
    rw [put, if_neg (Ne.symm hk), hi h, List.cons_append]

theorem merge_of_nodup (h : ((entries ++ others).map (·.1)).Nodup) :
    entries.merge others = entries ++ others := by
  induction others generalizing entries
  case nil => exact (List.append_nil entries).symm
  case cons entry others hi =>
    have hs : entries ++ entry :: others = entries ++ [entry] ++ others := by simp
    have hm : entries.merge (entry :: others) = (entries.put entry.1 entry.2).merge others := rfl
    have hk : entry.1 ∉ entries.map (·.1) := by
      rw [List.map_append, List.nodup_append] at h
      exact fun hk => h.right.right _ hk _ List.mem_cons_self rfl
    rw [hm, put_of_not_mem hk, hs]
    exact hi (hs ▸ h)

theorem ofPairs_of_nodup (h : (entries.map (·.1)).Nodup) : ofPairs entries = entries :=
  merge_of_nodup h

theorem mem_of_mem_ofPairs {pairs : List (κ × υ)} (h : (key, value) ∈ ofPairs pairs) :
    (key, value) ∈ pairs := by
  rw [mem_iff_get? (nodup_ofPairs pairs), get?_ofPairs] at h
  exact List.mem_reverse.mp (mem_of_get? h)

theorem get?_ofPairs_append (first second : List (κ × υ)) (key : κ) :
    (ofPairs (first ++ second)).get? key =
      ((ofPairs second).get? key).or ((ofPairs first).get? key) := by
  simp only [get?_ofPairs, List.reverse_append, get?_append]

theorem get?_erase (entries : Entries κ υ) (key other : κ) :
    (entries.erase key).get? other = if other = key then none else entries.get? other := by
  induction entries
  case nil => simp [erase]
  case cons entry entries hi =>
    have he : erase (entry :: entries) key =
        if entry.1 = key then erase entries key else entry :: erase entries key := by
      by_cases hk : entry.1 = key <;> simp [erase, hk]
    rw [he, get?_cons]
    split
    case isTrue => grind
    case isFalse =>
      rw [get?_cons, hi]
      grind

theorem get?_ofPairs_erase (pairs : List (κ × υ)) (key other : κ) :
    (ofPairs (erase pairs key)).get? other = if other = key then none else (ofPairs pairs).get? other := by
  have he : (erase pairs key).reverse = erase pairs.reverse key := by simp [erase]
  rw [get?_ofPairs, he, get?_erase, get?_ofPairs]

end KeySlots.Entries
