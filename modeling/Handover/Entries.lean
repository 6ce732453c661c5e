/-!
Lists of keys and values in order of first appearance. Putting a value under a key that is present
keeps the place of the key and replaces its value.
-/

namespace Handover.Entries

variable {κ ν : Type}

def put (same : κ → κ → Bool) (key : κ) (value : ν) : List (κ × ν) → List (κ × ν)
  | [] => [(key, value)]
  | (k, v) :: rest => if same k key then (k, value) :: rest else (k, v) :: put same key value rest

def get? (same : κ → κ → Bool) (key : κ) : List (κ × ν) → Option ν
  | [] => none
  | (k, v) :: rest => if same k key then some v else get? same key rest

/-- Puts the pairs one after the other, so that the last value of a key stands. -/
def ofList (same : κ → κ → Bool) (pairs : List (κ × ν)) : List (κ × ν) :=
  pairs.foldl (fun entries (key, value) => put same key value entries) []

theorem get?_put_self [BEq κ] [LawfulBEq κ] (key : κ) (value : ν) (entries : List (κ × ν)) :
    get? (· == ·) key (put (· == ·) key value entries) = some value := by
  induction entries with
  | nil => simp [put, get?]
  | cons entry rest ih => by_cases same : entry.1 = key <;> simp [put, get?, same, ih]

theorem get?_put_of_ne [BEq κ] [LawfulBEq κ] {key other : κ} (different : other ≠ key) (value : ν)
    (entries : List (κ × ν)) :
    get? (· == ·) other (put (· == ·) key value entries) = get? (· == ·) other entries := by
  induction entries with
  | nil => simp [put, get?, Ne.symm different]
  | cons entry rest ih =>
    by_cases same : entry.1 = key
    · simp [put, get?, same, Ne.symm different]
    · simp [put, get?, same, ih]

theorem mem_of_get? [BEq κ] [LawfulBEq κ] {key : κ} {value : ν} {entries : List (κ × ν)}
    (found : get? (· == ·) key entries = some value) : (key, value) ∈ entries := by
  induction entries with
  | nil => cases found
  | cons entry rest ih =>
    by_cases same : entry.1 = key
    · simp only [get?, same, beq_self_eq_true, if_true, Option.some.injEq] at found
      rw [← same, ← found]
      exact List.mem_cons_self
    · simp only [get?, beq_iff_eq, same, if_false] at found
      exact List.mem_cons_of_mem entry (ih found)

end Handover.Entries
