import Mathlib.Data.List.Induction
import ReadThrough.Proofs.Errands

/-! What a store holds, told from its history alone. A history is a list of pieces; a key is present if the
last piece that affects it is a write. Which pieces an errand adds follows from the pieces before it and from
what of a store never changes: its room, its times to live and its gate. -/
namespace ReadThrough.Store
variable {τ : Type}

namespace Piece

def affects (key : String) : Piece τ → Bool
  | .removed k | .written k _ => decide (k = key)
  | .emptied => true
  | .unlabelled _ => false

def touches (key : String) : Piece τ → Bool
  | .unlabelled k => decide (k = key)
  | p => p.affects key

def entry? : Piece τ → Option (Entry τ)
  | .written _ e => some e
  | _ => none

end Piece

def lastWrite (past : List (Piece τ)) (key : String) : Option (Entry τ) :=
  (past.filter (·.affects key)).getLast?.bind Piece.entry?

def lastLabel (past : List (Piece τ)) (key : String) : Option (Entry τ) :=
  (past.filter (·.touches key)).getLast?.bind Piece.entry?

def replay (held : Assoc String (Entry τ)) : Piece τ → Assoc String (Entry τ)
  | .removed key => held.erase key
  | .emptied => .empty
  | .unlabelled _ => held
  | .written key e => held.put key e

def present (past : List (Piece τ)) : Assoc String (Entry τ) := past.foldl replay .empty

def carries (past : List (Piece τ)) (tags : List Tag) (key : String) : Bool :=
  (lastLabel past key).any fun e => tags.any fun tag => decide (tag ∈ e.tags)

def swept (past : List (Piece τ)) (hit : String → Bool) : List (Piece τ) :=
  ((present past).keys.filter hit).map .removed

structure Terms (τ : Type) where
  capacity : Nat
  ttlFor : String → τ
  gate : Gate

namespace Terms
variable [Quantity τ]

def asked (t : Terms τ) (raw : Value) : Except Fault String := (t.gate.admitKey raw).mapError Fault.of

def pushed (past : List (Piece τ)) : List (Piece τ) :=
  match oldest (present past).entries with
  | none => []
  | some (key, _) => [.removed key]

def room (t : Terms τ) (past : List (Piece τ)) (key : String) : List (Piece τ) :=
  if lastWrite past key = none ∧ t.capacity ≤ (present past).size then pushed past else []

def write (t : Terms τ) (now : τ) (past : List (Piece τ)) (raw data : Value) (o : Options τ) :
    Except Failure String × List (Piece τ) :=
  match t.gate.admitKey raw, t.gate.measure data with
  | .error why, _ => (.error why, [])
  | _, .error why => (.error why, [])
  | .ok key, .ok _ =>
    let ttl := o.ttl.getD (t.ttlFor key)
    if ttl ≤ Quantity.ofInt 0 then (.error .nonPositiveTtl, [])
    else match o.tags with
      | .error why => (.error why, t.room past key ++ [.unlabelled key])
      | .ok tags => (.ok key, t.room past key ++ [.written key ⟨data, now, ttl, tags, o.version, o.etag⟩])

def writeAll (t : Terms τ) (now : τ) (past : List (Piece τ)) :
    List (Item τ) → Except Failure (List String) × List (Piece τ)
  | [] => (.ok [], [])
  | item :: rest =>
    match item.key, item.data with
    | none, _ => (.error (.missingField "key"), [])
    | _, none => (.error (.missingField "data"), [])
    | some raw, some data =>
      match t.write now past raw data item.options with
      | (.error why, pieces) => (.error why, pieces)
      | (.ok key, pieces) =>
        let (stored, later) := t.writeAll now (past ++ pieces) rest
        (stored.map (key :: ·), pieces ++ later)

def drop (t : Terms τ) : List Value → List (Piece τ)
  | [] => []
  | raw :: rest =>
    match t.gate.admitKey raw with
    | .error _ => []
    | .ok key => .removed key :: t.drop rest

def pieces (t : Terms τ) (now : τ) (past : List (Piece τ)) : Errand τ → List (Piece τ)
  | .get _ | .getEntry _ | .getStale _ | .has _ | .getBatch _ => []
  | .set raw data o => (t.write now past raw data o).2
  | .setBatch items => (t.writeAll now past items).2
  | .delete raw => t.drop [raw]
  | .deleteAll raws => t.drop raws
  | .removeMany keys _ => keys.map .removed
  | .clear => [.emptied]
  | .evict => pushed past
  | .sweepTag tag => swept past (carries past [tag])
  | .sweepKeys matching => swept past matching
  | .sweepVersion current => swept past fun key =>
      (lastWrite past key).any fun e => decide (e.version ≠ none ∧ e.version ≠ current)
  | .sweepTags tags => swept past (carries past tags)
  | .sweepEntity kind id =>
    match Ledger.tagsForEntity kind id with
    | .error _ => []
    | .ok names => swept past (carries past (names.map Tag.text))

def history (t : Terms τ) (run : List (τ × Errand τ)) : List (Piece τ) :=
  run.foldl (fun past m => past ++ t.pieces m.1 past m.2) []

end Terms

/-! Laws of histories. -/

theorem lastWriteAppend (past : List (Piece τ)) (p : Piece τ) (key : String) :
    lastWrite (past ++ [p]) key = if p.affects key then p.entry? else lastWrite past key := by
  unfold lastWrite
  cases affected : p.affects key <;> simp [List.filter_append,affected]

theorem lastLabelAppend (past : List (Piece τ)) (p : Piece τ) (key : String) :
    lastLabel (past ++ [p]) key = if p.touches key then p.entry? else lastLabel past key := by
  unfold lastLabel
  cases touched : p.touches key <;> simp [List.filter_append,touched]

theorem presentAppend (past later : List (Piece τ)) :
    present (past ++ later) = later.foldl replay (present past) := List.foldl_append

theorem replayGet (held : Assoc String (Entry τ)) (p : Piece τ) (key : String) :
    (replay held p).get? key = if p.affects key then p.entry? else held.get? key := by
  cases p with
  | removed k => simp [replay,Piece.affects,Piece.entry?,Assoc.get?_erase]
  | emptied => rfl
  | unlabelled k => rfl
  | written k e => simp [replay,Piece.affects,Piece.entry?,Assoc.get?_put]

theorem presentGet (past : List (Piece τ)) (key : String) : (present past).get? key = lastWrite past key := by
  induction past using List.reverseRecOn with
  | nil => rfl
  | append_singleton past p ih =>
    rw [presentAppend,List.foldl_cons,List.foldl_nil,replayGet,lastWriteAppend,ih]

theorem labelWrites {past : List (Piece τ)} {key : String} {e : Entry τ} (known : lastLabel past key = some e) :
    lastWrite past key = some e := by
  obtain ⟨p,last,entry⟩ := Option.bind_eq_some_iff.mp known
  obtain ⟨before,same⟩ := List.getLast?_eq_some_iff.mp last
  have touched : p.touches key = true := by
    have mem : p ∈ past.filter (·.touches key) := same ▸ List.mem_append_right _ List.mem_cons_self
    exact (List.mem_filter.mp mem).2
  have affected : p.affects key = true := by
    cases p with
    | written k e => exact touched
    | _ => cases entry
  -- the pieces that affect the key are among those that touch it, and the last of these affects it
  have among : past.filter (·.affects key) = (past.filter (·.touches key)).filter (·.affects key) := by
    rw [List.filter_filter]
    refine List.filter_congr fun q _ => ?_
    cases q <;> simp [Piece.touches,Piece.affects]
  rw [lastWrite,among,same,List.filter_append,List.filter_cons_of_pos affected,List.filter_nil,
    List.getLast?_concat]
  exact entry

theorem Terms.roomRemoves [Quantity τ] {t : Terms τ} {past : List (Piece τ)} {key : String} {p : Piece τ}
    (mem : p ∈ t.room past key) : ∃ k, p = .removed k := by
  unfold room pushed at mem
  split at mem
  · split at mem
    · cases mem
    · exact ⟨_,List.mem_singleton.mp mem⟩
  · cases mem

theorem Terms.writeStores [Quantity τ] (t : Terms τ) (now : τ) (past : List (Piece τ)) (raw data : Value)
    (o : Options τ) (key : String) (e : Entry τ) :
    .written key e ∈ (t.write now past raw data o).2 ↔ (t.write now past raw data o).1 = .ok key ∧
      ∃ tags, o.tags = .ok tags ∧ e = ⟨data,now,o.ttl.getD (t.ttlFor key),tags,o.version,o.etag⟩ := by
  have apart (k : String) : Piece.written key e ∉ t.room past k := fun mem => by
    obtain ⟨k',same⟩ := roomRemoves mem
    cases same
  unfold write
  split
  · simp
  · simp
  · rename_i k size admitted weighed
    dsimp only
    split
    · simp
    · cases o.tags with
      | error why => simp [apart]
      | ok tags =>
        simp only [List.mem_append,apart,false_or,List.mem_singleton,Piece.written.injEq,Except.ok.injEq,
          exists_eq_left']
        exact ⟨fun ⟨same,entry⟩ => ⟨same.symm,same ▸ entry⟩,fun ⟨same,entry⟩ => ⟨same.symm,same ▸ entry⟩⟩

theorem lastLabelRemoved (past : List (Piece τ)) (keys : List String) (key : String) :
    lastLabel (past ++ keys.map .removed) key = if key ∈ keys then none else lastLabel past key := by
  induction keys generalizing past with
  | nil => simp
  | cons k rest ih =>
    rw [List.map_cons,List.append_cons,ih,lastLabelAppend]
    by_cases same : k = key
    · simp [Piece.touches,Piece.affects,Piece.entry?,same]
    · simp [Piece.touches,Piece.affects,same,Ne.symm same]

theorem presentRemoved (past : List (Piece τ)) (keys : List String) :
    present (past ++ keys.map .removed) = ⟨(present past).entries.filter fun e => e.1 ∉ keys⟩ := by
  rw [presentAppend]
  generalize present past = held
  induction keys generalizing held with
  | nil =>
    have all : held.entries.filter (fun e => e.1 ∉ ([] : List String)) = held.entries :=
      List.filter_eq_self.mpr fun e _ => by simp
    rw [all]
    rfl
  | cons k rest ih =>
    rw [List.map_cons,List.foldl_cons,ih,replay,Assoc.erase,List.filter_filter]
    congr 1
    refine List.filter_congr fun e _ => ?_
    simp [Bool.and_comm]

end ReadThrough.Store
