/-! Entries by key, each key once: in ascending order, or in the order in which they came. -/

namespace SchemaGen.Entries

set_option autoImplicit false

variable {α : Type}

/-- Puts a value under a key, in place of an earlier one. -/
def insert (key : String) (value : α) : List (String × α) → List (String × α)
  | [] => [(key, value)]
  | (k, v) :: rest =>
    if key < k then (key, value) :: (k, v) :: rest
    else if key = k then (key, value) :: rest
    else (k, v) :: insert key value rest

/-- Entries in the order of writing made into ascending ones: later ones replace earlier ones. -/
def ofWritten (written : List (String × α)) : List (String × α) :=
  written.foldl (fun entries (k, v) => insert k v entries) []

/-- Puts a value under a key where it stands first, and else at the end. The order of the others
stays. -/
def replace {κ : Type} [DecidableEq κ] (key : κ) (value : α) : List (κ × α) → List (κ × α)
  | [] => [(key, value)]
  | (k, v) :: rest => if k = key then (key, value) :: rest else (k, v) :: replace key value rest

end SchemaGen.Entries
