

namespace KeySlots

-- A finite map as a list of pairs, each key once.
abbrev Entries (κ υ : Type) := List (κ × υ)

namespace Entries

variable {κ υ : Type} [DecidableEq κ]

def get? (entries : Entries κ υ) (key : κ) : Option υ :=
  entries.lookup key

def put (key : κ) (value : υ) : Entries κ υ → Entries κ υ
  | [] => [(key, value)]
  | (k, v) :: entries => if k = key then (k, value) :: entries else (k, v) :: put key value entries

theorem get?_cons (k key : κ) (value : υ) (entries : Entries κ υ) :
    get? ((k, value) :: entries) key = if key = k then some value else get? entries key := by
  by_cases h : key = k
  · simp [get?, h]
  · have : (key == k) = false := by simp [h]
    simp [get?, List.lookup_cons, h, this]

@[simp]
theorem get?_put_self (entries : Entries κ υ) (key : κ) (value : υ) :
    (put key value entries).get? key = some value := by
  induction entries with
  | nil => simp [put, get?_cons]
  | cons entry entries ih =>
    obtain ⟨k, v⟩ := entry
    by_cases h : k = key
    · simp [put, h, get?_cons]
    · simp [put, h, get?_cons, Ne.symm h, ih]

theorem get?_put_of_ne {key other : κ} (entries : Entries κ υ) (value : υ) (h : other ≠ key) :
    (put key value entries).get? other = entries.get? other := by
  induction entries with
  | nil => simp [put, get?_cons, h]
  | cons entry entries ih =>
    obtain ⟨k, v⟩ := entry
    by_cases hk : k = key
    · simp [put, hk, get?_cons, h]
    · simp [put, hk, get?_cons, ih]

def merge (entries others : Entries κ υ) : Entries κ υ :=
  others.foldl (fun merged (key, value) => put key value merged) entries

-- The entries of pairs in which a key may come up again: its last value counts.
def ofPairs (pairs : List (κ × υ)) : Entries κ υ :=
  merge [] pairs

def erase (entries : Entries κ υ) (key : κ) : Entries κ υ :=
  entries.filter (·.1 ≠ key)

end Entries
end KeySlots
