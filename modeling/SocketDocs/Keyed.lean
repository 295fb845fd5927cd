/-!
# Maps as sorted lists

A finite map is a list of key and value pairs whose keys ascend. An insertion keeps the order and
replaces the value of a key that is there.
-/

namespace SocketDocs.Keyed

variable {κ : Type} {α : Type} [LT κ] [DecidableLT κ] [DecidableEq κ]

def insert (key : κ) (value : α) : List (κ × α) → List (κ × α)
  | [] => [(key, value)]
  | (k, v) :: rest =>
    if key < k then (key, value) :: (k, v) :: rest
    else if key = k then (key, value) :: rest
    else (k, v) :: insert key value rest

def find? (key : κ) (entries : List (κ × α)) : Option α :=
  entries.lookup key

/-- The map of a list of bindings: of two bindings of one key the later holds. -/
def ofList (bindings : List (κ × α)) : List (κ × α) :=
  bindings.foldl (fun entries binding => insert binding.1 binding.2 entries) []

theorem find?_insert_self (key : κ) (value : α) (entries : List (κ × α)) :
    find? key (insert key value entries) = some value := by
  induction entries with
  | nil => simp [insert, find?]
  | cons entry rest ih =>
    obtain ⟨k, v⟩ := entry
    unfold insert
    split
    · simp [find?]
    · split
      · simp [find?]
      · rename_i hne
        have hbeq : (key == k) = false := by simpa using hne
        simpa [find?, List.lookup_cons, hbeq] using ih

end SocketDocs.Keyed
