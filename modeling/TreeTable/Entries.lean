namespace TreeTable

abbrev Entries (κ α : Type) := List (κ × α)

namespace Entries

variable {κ α : Type}

def keys (entries : Entries κ α) : List κ := entries.map Prod.fst

variable [BEq κ]

def value? : Entries κ α → κ → Option α
  | [], _ => none
  | (known, value) :: rest, key => if known == key then some value else value? rest key

def has (entries : Entries κ α) (key : κ) : Bool := (value? entries key).isSome

def put : Entries κ α → κ → α → Entries κ α
  | [], key, value => [(key, value)]
  | (known, old) :: rest, key, value =>
    if known == key then (known, value) :: rest else (known, old) :: put rest key value

def ofPairs (pairs : List (κ × α)) : Entries κ α :=
  pairs.foldl (fun entries (key, value) => entries.put key value) []

def alter (entries : Entries κ α) (key : κ) (f : α → α) : Entries κ α :=
  entries.map fun (known, value) => if known == key then (known, f value) else (known, value)

@[simp] theorem keys_alter (entries : Entries κ α) (key : κ) (f : α → α) :
    keys (alter entries key f) = keys entries := by
  induction entries with
  | nil => rfl
  | cons entry rest ih =>
    simp only [keys, alter, List.map_cons] at ih ⊢
    rw [ih]
    split <;> rfl

variable [LawfulBEq κ]

@[simp] theorem value?_put_self (entries : Entries κ α) (key : κ) (value : α) :
    value? (put entries key value) key = some value := by
  induction entries with
  | nil => simp [put, value?]
  | cons entry rest ih =>
    obtain ⟨known, old⟩ := entry
    by_cases same : known == key <;> simp [put, value?, same, ih]

@[simp] theorem value?_put_of_ne (entries : Entries κ α) {key other : κ} (value : α)
    (different : other ≠ key) : value? (put entries key value) other = value? entries other := by
  induction entries with
  | nil => simp [put, value?, different.symm]
  | cons entry rest ih =>
    obtain ⟨known, old⟩ := entry
    by_cases same : known = key
    · subst same
      simp [put, value?, different.symm]
    · have unequal : (known == key) = false := by simpa using same
      by_cases found : known == other <;> simp [put, value?, unequal, found, ih]

theorem keys_put (entries : Entries κ α) (key : κ) (value : α) :
    keys (put entries key value) =
      if entries.has key then keys entries else keys entries ++ [key] := by
  induction entries with
  | nil => simp [put, keys, has, value?]
  | cons entry rest ih =>
    obtain ⟨known, old⟩ := entry
    simp only [keys, has] at ih
    by_cases same : known = key
    · simp [put, keys, has, value?, same]
    · have unequal : (known == key) = false := by simpa using same
      simp only [put, keys, has, value?, unequal, List.map_cons, ih, Bool.false_eq_true, if_false]
      split <;> simp_all

theorem value?_alter (entries : Entries κ α) (key other : κ) (f : α → α) :
    value? (alter entries key f) other =
      (value? entries other).map fun value => if other == key then f value else value := by
  induction entries with
  | nil => rfl
  | cons entry rest ih =>
    obtain ⟨known, old⟩ := entry
    simp only [alter, List.map_cons] at ih ⊢
    by_cases found : known = other
    · subst found
      by_cases same : known == key <;> simp [value?, same]
    · have unequal : (known == other) = false := by simpa using found
      by_cases same : known == key <;> simp [value?, same, unequal, ih]

end Entries

end TreeTable
