import ReadThrough.Proofs.Outcome

/-! Runs of a store by itself: reads, writes, removals and sweeps, each at its moment and in any order. What
an errand does to the store is a chain of pieces, whatever it answers and wherever it fails; only a write
whose tags are no tags takes a key out of the index without an entry that follows. -/
namespace ReadThrough
open Relation
variable {τ : Type}

def Options.Labelled (o : Options τ) : Prop := ∃ tags, o.tags = .ok tags

namespace Store

inductive Errand (τ : Type) where
  | get (raw : Value)
  | getEntry (raw : Value)
  | getStale (raw : Value)
  | has (raw : Value)
  | getBatch (raws : List Value)
  | set (raw data : Value) (o : Options τ)
  | setBatch (items : List (Item τ))
  | delete (raw : Value)
  | deleteAll (raws : List Value)
  | removeMany (keys : List String) (reason : String)
  | clear
  | evict
  | sweepTag (tag : Tag)
  | sweepKeys (matching : String → Bool)
  | sweepVersion (current : Option String)
  | sweepTags (tags : List Tag)
  | sweepEntity (kind : String) (id : Option Value)

def Errand.Labelled : Errand τ → Prop
  | .set _ _ o => o.Labelled
  | .setBatch items => ∀ item ∈ items, item.options.Labelled
  | _ => True

def Errand.Reads : Errand τ → Prop
  | .get _ | .getEntry _ | .getStale _ | .has _ | .getBatch _ => True
  | _ => False

def Faithful : Piece τ → Prop
  | .unlabelled _ => False
  | _ => True

variable [Quantity τ]

def step (s : Store τ) (now : τ) : Errand τ → Store τ
  | .get raw => (get now raw s).2
  | .getEntry raw => (getEntry now raw s).2
  | .getStale raw => (getStale now raw s).2
  | .has raw => (has raw s).2
  | .getBatch raws => (getBatch now raws s).2
  | .set raw data o => (set now raw data o s).2
  | .setBatch items => (setBatch now items s).2
  | .delete raw => (delete now raw s).2
  | .deleteAll raws => (deleteAll now raws s).2
  | .removeMany keys reason => (removeMany now keys reason s).2
  | .clear => (clear now s).2
  | .evict => (evict now s).2
  | .sweepTag tag => (sweepTag now tag s).2
  | .sweepKeys matching => (sweepKeys now matching s).2
  | .sweepVersion current => (sweepVersion now current s).2
  | .sweepTags tags => (sweepTags now tags s).2
  | .sweepEntity kind id => (sweepEntity now kind id s).2

def after (s : Store τ) (run : List (τ × Errand τ)) : Store τ := run.foldl (fun s m => s.step m.1 m.2) s

/-! The chains of errands. -/

variable {may : Piece τ → Prop}

omit [Quantity τ] in
theorem hasChain (raw : Value) : Op.Moves (Change may) (has raw) :=
  Op.movesBind (admitChain raw) fun _ => Op.movesBind Op.movesRead fun _ => Op.movesPure _

theorem getBatchChain (now : τ) (raws : List Value) : Op.Moves (Change may) (getBatch now raws) := by
  induction raws with
  | nil => exact Op.movesPure _
  | cons raw rest ih =>
    exact Op.movesBind (getChain now raw) fun _ => Op.movesBind ih fun _ => Op.movesPure _

theorem readsChain (s : Store τ) (now : τ) {a : Errand τ} (reads : a.Reads) :
    ReflTransGen (Change may) s (s.step now a) := by
  cases a with
  | get raw => exact getChain now raw s
  | getEntry raw => exact getEntryChain now raw s
  | getStale raw => exact getStaleChain now raw s
  | has raw => exact hasChain raw s
  | getBatch raws => exact getBatchChain now raws s
  | _ => exact reads.elim

theorem readsStill (s : Store τ) (now : τ) {a : Errand τ} (reads : a.Reads) :
    (s.step now a).entries = s.entries := by
  obtain ⟨l,m,after⟩ := chainStill (readsChain s now reads)
  rw [after]

omit [Quantity τ] in
theorem removalsFaithful {α : Type} {x : Op (Store τ) α} (moves : Op.Moves (Change Removals) x) :
    Op.Moves (Change Faithful) x := fun s => by
  refine chainMono ?_ (moves s)
  intro p removal
  cases p with
  | removed key => trivial
  | _ => exact removal.elim

theorem setFaithful (now : τ) (raw data : Value) {o : Options τ} (labelled : o.Labelled) :
    Op.Moves (Change Faithful) (set now raw data o) := fun s => by
  refine chainMono ?_ (setChain now raw data o s)
  intro p writes
  cases p with
  | unlabelled key =>
    obtain ⟨tags,given⟩ := labelled
    obtain ⟨why,failed⟩ := writes
    cases given.symm.trans failed
  | emptied => exact writes.elim
  | _ => trivial

theorem setBatchFaithful (now : τ) (items : List (Item τ))
    (labelled : ∀ item ∈ items, item.options.Labelled) :
    Op.Moves (Change Faithful) (setBatch now items) := by
  induction items with
  | nil => exact Op.movesPure _
  | cons item rest ih =>
    rw [setBatch]
    split
    · exact Op.movesFail _
    · exact Op.movesFail _
    · refine Op.movesBind (setFaithful now _ _ (labelled item List.mem_cons_self)) fun _ => ?_
      exact Op.movesBind (ih fun item later => labelled item (List.mem_cons_of_mem _ later)) fun _ =>
        Op.movesPure _

theorem deleteAllChain (now : τ) (raws : List Value) :
    Op.Moves (Change Removals) (deleteAll now raws) := by
  induction raws with
  | nil => exact Op.movesPure _
  | cons raw rest ih =>
    exact Op.movesBind (deleteChain now raw) fun _ => Op.movesBind ih fun _ => Op.movesPure _

theorem clearChain (now : τ) : Op.Moves (Change (Faithful (τ := τ))) (clear now) := fun s =>
  .head (.emptied trivial) (clearAfter now s)

theorem sweepTagChain (now : τ) (tag : Tag) : Op.Moves (Change Removals) (sweepTag now tag) :=
  Op.movesBind Op.movesRead fun _ => removeManyChain now _ _

theorem sweepEntityChain (now : τ) (kind : String) (id : Option Value) :
    Op.Moves (Change Removals) (sweepEntity (τ := τ) now kind id) :=
  Op.movesBind (Op.movesLift _) fun _ => sweepTagsChain now _

theorem stepFaithful (s : Store τ) (now : τ) {a : Errand τ} (labelled : a.Labelled) :
    ReflTransGen (Change Faithful) s (s.step now a) := by
  cases a with
  | set raw data o => exact setFaithful now raw data labelled s
  | setBatch items => exact setBatchFaithful now items labelled s
  | delete raw => exact removalsFaithful (deleteChain now raw) s
  | deleteAll raws => exact removalsFaithful (deleteAllChain now raws) s
  | removeMany keys reason => exact removalsFaithful (removeManyChain now keys reason) s
  | clear => exact clearChain now s
  | evict => exact removalsFaithful (evictChain now) s
  | sweepTag tag => exact removalsFaithful (sweepTagChain now tag) s
  | sweepKeys matching => exact removalsFaithful (sweepKeysChain now matching) s
  | sweepVersion current => exact removalsFaithful (sweepVersionChain now current) s
  | sweepTags tags => exact removalsFaithful (sweepTagsChain now tags) s
  | sweepEntity kind id => exact removalsFaithful (sweepEntityChain now kind id) s
  | _ => exact readsChain s now trivial

theorem afterFaithful (s : Store τ) (run : List (τ × Errand τ)) (labelled : ∀ m ∈ run, m.2.Labelled) :
    ReflTransGen (Change Faithful) s (s.after run) := by
  induction run generalizing s with
  | nil => exact .refl
  | cons m rest ih =>
    exact (stepFaithful s m.1 (labelled m List.mem_cons_self)).trans
      (ih _ fun m later => labelled m (List.mem_cons_of_mem _ later))

/-! A store with room for one entry. -/

def narrowStore : Store Number :=
  ⟨1,fun _ => .whole 60,⟨[],8,100⟩,.create 0 (.whole 60),
    .create 1 (.whole 60) ⟨.whole 0,.whole 1,.whole 100,.whole 100,0⟩ .journal,.empty,.empty⟩

def tagging (tags : List String) : Options Number :=
  { Options.none Number with tags := .ok (tags.map Tag.text) }

def crowded : List (Number × Errand Number) := [
  (.whole 1000,.set (.str "a b") (.int 1) (tagging ["x","y"])),
  (.whole 1001,.set (.str "a_b") (.int 2) (tagging ["y"])),
  (.whole 1002,.delete (.str "far too long")),
  (.whole 1003,.setBatch [⟨some (.str "c"),some (.int 3),{ tagging ["x"] with ttl := some (.whole 1) }⟩,
    ⟨some (.str "d"),none,tagging []⟩])]

end Store

end ReadThrough
