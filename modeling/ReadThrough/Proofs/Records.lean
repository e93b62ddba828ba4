import ReadThrough.Proofs.Inventory

/-! What a meter is told by its store. Removals and calls of set count what they remove and tell the size that
the store has then, and nothing else, wherever they fail. -/
namespace ReadThrough
open Relation
variable {τ : Type} [Quantity τ]

structure Meter.Storing (fits : Nat → Prop) (r : Meter τ → Meter τ → Prop) : Prop where
  evicted : ∀ now key m, r m (recordEviction now key m).2
  removed : ∀ now (n : Nat) reason m, r m (recordInvalidation now n reason m).2
  sized : ∀ {n : Nat}, fits n → ∀ m, r m (setSize n m).2

namespace Store
variable {fits : Nat → Prop} {r r' : Meter τ → Meter τ → Prop} {s s' : Store τ}

omit [Quantity τ] in
def Records (fits : Nat → Prop) (r : Meter τ → Meter τ → Prop) (s s' : Store τ) : Prop :=
  fits s.entries.size → fits s'.entries.size ∧ ReflTransGen r s.meter s'.meter

omit [Quantity τ] in
theorem recordsChain (chain : ReflTransGen (Records fits r) s s') : Records fits r s s' := by
  intro start
  induction chain with
  | refl => exact ⟨start,.refl⟩
  | tail _ last ih =>
    obtain ⟨still,told⟩ := last ih.1
    exact ⟨still,ih.2.trans told⟩

omit [Quantity τ] in
theorem stillRecords (entries : s'.entries = s.entries) (meter : s'.meter = s.meter) : Records fits r s s' := by
  intro start
  rw [entries,meter]
  exact ⟨start,.refl⟩

omit [Quantity τ] in
theorem meteredRecords {α : Type} {x : Op (Meter τ) α} (records : ∀ m, r m (x m).2) :
    Op.Moves (Records fits r) (metered x) := Op.movesSmall fun s start => ⟨start,.single (records s.meter)⟩

omit [Quantity τ] in
theorem removeAllFewer (s : Store τ) (keys : List String) : (s.removeAll keys).2.entries.size ≤ s.entries.size := by
  induction keys generalizing s with
  | nil => exact Nat.le_refl _
  | cons key rest ih =>
    rw [removeAllCons]
    exact Nat.le_trans (ih _) (removeSize key)

section
variable (storing : Meter.Storing fits r) (closed : ∀ {n n' : Nat}, n' ≤ n → fits n → fits n')
include storing

theorem reportSizeRecords : Op.Moves (Records fits r) reportSize := fun s =>
  .single fun start => ⟨start,.single (storing.sized start s.meter)⟩

include closed

theorem removeManyRecords (now : τ) (keys : List String) (reason : String) :
    Op.Moves (Records fits r) (removeMany now keys reason) := by
  refine Op.movesBind (Op.movesStep fun s start => ?_) fun removed => ?_
  · rw [(removeAllLeft s keys).2.2]
    exact ⟨closed (removeAllFewer s keys) start,.refl⟩
  · dsimp only
    split
    · refine Op.movesBind (meteredRecords (storing.removed now removed reason)) fun _ => ?_
      exact Op.movesBind (reportSizeRecords storing) fun _ => Op.movesPure _
    · exact Op.movesPure _

theorem clearRecords (now : τ) : Op.Moves (Records fits r) (clear now) := by
  refine Op.movesBind Op.movesRead fun s => Op.movesBind (Op.movesChange fun s start => ?_) fun _ => ?_
  · exact ⟨closed (Nat.zero_le _) start,.refl⟩
  · refine Op.movesBind (meteredRecords (storing.removed now s.entries.size "clear")) fun _ => ?_
    refine Op.movesBind (Op.movesSmall fun s start => ?_) fun _ => Op.movesPure _
    exact ⟨start,.single (storing.sized (closed (Nat.zero_le _) start) s.meter)⟩

theorem evictRecords (now : τ) : Op.Moves (Records fits r) (evict now) := by
  refine Op.movesBind Op.movesRead fun s => ?_
  split
  · exact Op.movesPure _
  · refine Op.movesBind (Op.movesStep fun s start => ?_) fun _ => ?_
    · rw [removeMeter]
      exact ⟨closed (removeSize _) start,.refl⟩
    · refine Op.movesBind (meteredRecords (storing.evicted now _)) fun _ => ?_
      exact Op.movesBind (reportSizeRecords storing) fun _ => Op.movesPure _

theorem makeRoomRecords (now : τ) (key : String) : Op.Moves (Records fits r) (makeRoom now key) := by
  refine Op.movesBind Op.movesRead fun s => ?_
  split
  · exact Op.movesBind (evictRecords storing closed now) fun _ => Op.movesPure _
  · exact Op.movesPure _

theorem landRecords (now : τ) (key : String) (ttl : τ) (data : Value) (o : Options τ)
    (room : ∀ s₁ e, makeRoom now key s = (.ok (),s₁) → fits s₁.entries.size → fits (s₁.entries.put key e).size) :
    Records fits r s (land now key ttl data o s).2 := by
  refine recordsChain (Op.chainBind (makeRoomRecords storing closed now key s) fun u s₁ made => ?_)
  have forgets : Op.Moves (Records fits r) (forgetTags key) := Op.movesSmall fun s =>
    stillRecords (forgottenEntries s key) (forgottenTerms key).2.2
  refine Op.chainBind (forgets s₁) fun u s₂ freed => ?_
  cases (show (.ok (),s₁.forgotten key) = (Except.ok u,s₂) from freed)
  refine Op.chainBind (Op.movesLift _ _) fun tags s₃ tagged => ?_
  obtain ⟨-,rfl⟩ := Op.liftOk tagged
  refine .head (b := (s₁.forgotten key).insert key ⟨data,now,ttl,tags,o.version,o.etag⟩) (fun start => ?_) ?_
  · rw [forgottenEntries] at start
    rw [insert,forgottenEntries]
    exact ⟨room s₁ _ made start,.refl⟩
  · exact Op.movesBind (reportSizeRecords storing) (fun _ => Op.movesPure key) _

theorem setRecords (now : τ) (raw data : Value) (o : Options τ)
    (room : ∀ l key s₁ e, makeRoom now key { s with limiter := l } = (.ok (),s₁) → fits s₁.entries.size →
      fits (s₁.entries.put key e).size) : Records fits r s (set now raw data o s).2 := by
  rcases setCases now raw data o s with ⟨f,l,refused⟩ | ⟨key,l,lands⟩
  · rw [refused]
    exact stillRecords rfl rfl
  · rw [lands]
    exact landRecords (s := { s with limiter := l }) storing closed now key _ data o (room l key)

theorem deedRecords (within : ∀ {m m'}, r' m m' → r m m') (done : Deed r' s s') : Records fits r s s' := by
  cases done with
  | limited l => exact stillRecords rfl rfl
  | noted noted => exact fun start => ⟨start,.single (within noted)⟩
  | removed now keys reason => exact recordsChain (removeManyRecords storing closed now keys reason s)
  | cleared now => exact recordsChain (clearRecords storing closed now s)
  | evicted now => exact recordsChain (evictRecords storing closed now s)

end

end Store

end ReadThrough
