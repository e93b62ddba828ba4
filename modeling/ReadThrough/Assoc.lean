/-! Mappings that keep their order of arrival: a key that is written again keeps its place. -/
namespace ReadThrough

structure Assoc (κ α : Type) where
  entries : List (κ × α)
  deriving Repr

namespace Assoc
variable {κ α : Type} [DecidableEq κ]

def empty : Assoc κ α := ⟨[]⟩

instance : Inhabited (Assoc κ α) := ⟨⟨[]⟩⟩

def find (key : κ) : List (κ × α) → Option α
  | [] => none
  | (k, v) :: rest => if k = key then some v else find key rest

def place (key : κ) (value : α) : List (κ × α) → List (κ × α)
  | [] => [(key, value)]
  | (k, v) :: rest => if k = key then (k, value) :: rest else (k, v) :: place key value rest

def get? (m : Assoc κ α) (key : κ) : Option α := find key m.entries

def put (m : Assoc κ α) (key : κ) (value : α) : Assoc κ α := ⟨place key value m.entries⟩

def erase (m : Assoc κ α) (key : κ) : Assoc κ α := ⟨m.entries.filter (fun e => e.1 ≠ key)⟩

def has (m : Assoc κ α) (key : κ) : Bool := (m.get? key).isSome

omit [DecidableEq κ] in
def keys (m : Assoc κ α) : List κ := m.entries.map (·.1)

omit [DecidableEq κ] in
def values (m : Assoc κ α) : List α := m.entries.map (·.2)

omit [DecidableEq κ] in
def size (m : Assoc κ α) : Nat := m.entries.length

def adjust (m : Assoc κ α) (key : κ) (f : α → α) : Assoc κ α :=
  ⟨m.entries.map (fun e => if e.1 = key then (e.1, f e.2) else e)⟩

theorem find_place (key k : κ) (value : α) (entries : List (κ × α)) :
    find k (place key value entries) = if key = k then some value else find k entries := by
  induction entries with
  | nil => simp [find, place]
  | cons e rest ih =>
    obtain ⟨k', v'⟩ := e
    by_cases same : k' = key
    · subst same
      by_cases hit : k' = k <;> simp [place, find, hit]
    · by_cases hit : k' = k
      · subst hit
        simp [place, find, same, Ne.symm same]
      · simp [place, find, same, hit, ih]

theorem get?_put (m : Assoc κ α) (key k : κ) (value : α) :
    (m.put key value).get? k = if key = k then some value else m.get? k :=
  find_place key k value m.entries

theorem find_filter (key k : κ) (entries : List (κ × α)) :
    find k (entries.filter (fun e => e.1 ≠ key)) = if key = k then none else find k entries := by
  induction entries with
  | nil => simp [find]
  | cons e rest ih =>
    obtain ⟨k', v'⟩ := e
    by_cases same : k' = key
    · subst same
      by_cases hit : k' = k
      · subst hit; simpa using ih
      · simpa [find, hit] using ih
    · by_cases hit : k' = k
      · subst hit
        simp [find, same, Ne.symm same]
      · simpa [find, same, hit] using ih

theorem get?_erase (m : Assoc κ α) (key k : κ) :
    (m.erase key).get? k = if key = k then none else m.get? k :=
  find_filter key k m.entries

end Assoc

end ReadThrough
