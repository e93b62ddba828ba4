import ReadThrough.Proofs.Outcome
import ReadThrough.Proofs.Runs

/-! What counting leaves alone. A report changes the journal and what a sink has added up, never a
counter; calls only report, and a write counts evictions and the size, but no refresh. What a sink
fails with is told apart from every other failure. -/
namespace ReadThrough
variable {τ : Type} [Quantity τ]

/-! Counters. -/

def Sink.bare : Sink τ → Sink τ
  | .exposition _ => .exposition .empty
  | s => s

theorem Sink.takesBare {most : Nat} {s : Sink τ} : s.bare.Takes most ↔ s.Takes most := by
  cases s <;> exact Iff.rfl

namespace Meter

def bare (m : Meter τ) : Meter τ := { m with sink := m.sink.bare, journal := [] }

theorem reportBare (e : Event) (m : Meter τ) : (report e m).2.bare = m.bare := by
  unfold report
  cases kind : m.sink with
  | exposition x =>
    dsimp only
    split <;> simp [bare,note,kind,Sink.bare]
  | _ => simp [bare,note,kind,Sink.bare]

omit [Quantity τ] in
def renewed (m : Meter τ) : Int × Int := (m.revalidations,m.revalidationFailures)

theorem bareRenewed {m m' : Meter τ} (same : m'.bare = m.bare) : m'.renewed = m.renewed :=
  (congrArg renewed same : m'.bare.renewed = m.bare.renewed)

theorem reportRenewed (e : Event) (m : Meter τ) : (report e m).2.renewed = m.renewed :=
  bareRenewed (reportBare e m)

end Meter

namespace Line

def counters (l : Line τ) : Option (Meter τ) := l.meter.map Meter.bare

def Counted (l l' : Line τ) : Prop := l'.counters = l.counters

theorem reportCounted (e : Event) : Op.Moves Counted (metered (τ := τ) (Meter.report e)) := by
  refine Op.movesSmall fun l => ?_
  unfold Counted counters metered
  cases attached : l.meter with
  | none => simp [attached]
  | some m => simp [Meter.reportBare]

inductive Tells : Event → Prop
  | circuit (endpoint before after : String) : Tells (.circuit endpoint before after)
  | retry (endpoint : String) (attempt : Int) (error : String) (delay : Number) :
      Tells (.retry endpoint attempt error delay)

structure Keeps (r : Line τ → Line τ → Prop) : Prop where
  board : ∀ l b, r l { l with board := b }
  told : ∀ {e}, Tells e → Op.Moves r (metered (Meter.report e))

section
variable {r : Line τ → Line τ → Prop} (keeps : Keeps r)
include keeps

theorem announceKeeps (endpoint : String) (change : Option PhaseChange) : Op.Moves r (announce endpoint change) := by
  cases change with
  | none => exact Op.movesPure _
  | some change =>
    exact Op.movesBind (Op.movesChange fun l => keeps.board l _) fun _ => keeps.told (.circuit _ _ _)

theorem turnKeeps {α : Type} (endpoint : String) (f : Breaker τ → α × Breaker τ) : Op.Moves r (turn endpoint f) :=
  Op.movesStep fun l => keeps.board l _

theorem shiftKeeps (endpoint : String) (f : Breaker τ → Option PhaseChange × Breaker τ) :
    Op.Moves r (shift endpoint f) :=
  Op.movesBind (turnKeeps keeps endpoint f) fun _ => announceKeeps keeps endpoint _

theorem successKeeps (endpoint : String) : Op.Moves r (success endpoint) :=
  Op.movesBind (shiftKeeps keeps endpoint _) fun _ => turnKeeps keeps endpoint _

theorem endWithKeeps {α : Type} (now : τ) (endpoint : String) (error : Fault) :
    Op.Moves r (endWith (α := α) now endpoint error) := by
  unfold endWith
  split
  · exact Op.movesBind (turnKeeps keeps endpoint _) fun _ => Op.movesFail error
  · split
    · exact Op.movesBind (shiftKeeps keeps endpoint _) fun _ => Op.movesFail error
    · exact Op.movesBind (successKeeps keeps endpoint) fun _ => Op.movesFail error

theorem touchKeeps (endpoint : String) : Op.Moves r (touch endpoint) := Op.movesChange fun l => keeps.board l _

theorem phaseKeeps (now : τ) (endpoint : String) : Op.Moves r (phase now endpoint) :=
  Op.movesBind (shiftKeeps keeps endpoint _) fun _ => Op.movesBind Op.movesRead fun _ => Op.movesPure _

theorem describeKeeps (now : τ) (endpoint : String) : Op.Moves r (describe now endpoint) :=
  Op.movesBind (phaseKeeps keeps now endpoint) fun _ => Op.movesBind (turnKeeps keeps endpoint _) fun _ =>
    Op.movesBind Op.movesRead fun _ => Op.movesPure _

theorem enterKeeps (now : τ) (endpoint : String) : Op.Moves r (enter now endpoint) := by
  refine Op.movesBind (shiftKeeps keeps endpoint _) fun _ => Op.movesBind (turnKeeps keeps endpoint _) fun a => ?_
  cases a with
  | admitted => exact Op.movesPure _
  | rejected wait => exact Op.movesFail _

theorem beginKeeps (service : Service τ) (now : τ) (endpoint : String) :
    Op.Moves r (begin service now endpoint) :=
  Op.movesBind (touchKeeps keeps endpoint) fun _ => Op.movesBind (enterKeeps keeps now endpoint) fun _ =>
    Op.movesBind Op.movesRead fun _ => Op.movesPure _

theorem advanceKeeps (service : Service τ) (now : τ) (p : Pursuit) (a : Attempt) :
    Op.Moves r (advance service now p a) := by
  rw [advanceFollows]
  cases upshot service p a with
  | brought v => exact Op.movesBind (successKeeps keeps _) fun _ => Op.movesPure _
  | ended error => exact endWithKeeps keeps now _ _
  | again error delay =>
    refine Op.movesBind (fun l => keeps.told (.retry _ _ _ _) l) fun told => ?_
    cases told with
    | ok u => exact Op.movesPure _
    | error e => exact endWithKeeps keeps now _ _

end

theorem countedKeeps : Keeps (Counted (τ := τ)) := ⟨fun _ _ => rfl,fun _ => reportCounted _⟩

end Line

theorem Coordinator.onLineCounted {α : Type} {x : Op (Line τ) α} (counted : Op.Moves Line.Counted x)
    {c c' : Coordinator τ} {r : Except Fault α} (done : onLine x c = (r,c')) :
    ∃ b m, c' = { c with board := b, store := { c.store with meter := m } } ∧
      m.bare = c.store.meter.bare := by
  have same := Op.movesView Line.counters counted ⟨c.board,some c.store.meter⟩
  unfold onLine Op.within at done
  split at done
  rename_i result l ran
  rw [ran] at same
  cases done
  change l.meter.map Meter.bare = some c.store.meter.bare at same
  obtain ⟨m,attached,bare⟩ := Option.map_eq_some_iff.mp same
  exact ⟨l.board,m,by simp only [attached,Option.getD_some],bare⟩

theorem Coordinator.onLineTallied {α : Type} {x : Op (Line τ) α} (counted : Op.Moves Line.Counted x)
    {c c' : Coordinator τ} {r : Except Fault α} (done : onLine x c = (r,c')) :
    c'.store.meter.renewed = c.store.meter.renewed := by
  obtain ⟨b,m,rfl,same⟩ := onLineCounted counted done
  exact Meter.bareRenewed same

namespace Store

def Tallied (s s' : Store τ) : Prop := s'.meter.renewed = s.meter.renewed

omit [Quantity τ] in
theorem meteredTallied {α : Type} {x : Op (Meter τ) α} (keeps : ∀ m, (x m).2.renewed = m.renewed) :
    Op.Moves Tallied (metered x) := Op.movesSmall fun s => keeps s.meter

theorem reportTallied : Op.Moves Tallied (reportSize (τ := τ)) :=
  Op.movesBind Op.movesRead fun s => meteredTallied fun m =>
    Meter.reportRenewed (.size s.entries.size) { m with size := s.entries.size }

theorem evictTallied (now : τ) : Op.Moves Tallied (evict now) := by
  refine Op.movesBind Op.movesRead fun s => ?_
  split
  · exact Op.movesPure _
  · refine Op.movesBind (Op.movesStep fun s => congrArg Meter.renewed (removeMeter _)) fun _ => ?_
    refine Op.movesBind (meteredTallied fun m => ?_) fun _ =>
      Op.movesBind reportTallied fun _ => Op.movesPure _
    exact Meter.reportRenewed _ { m with evictions := m.evictions + 1, evicted := m.evicted ++ [(now,1)] }

theorem makeRoomTallied (now : τ) (key : String) : Op.Moves Tallied (makeRoom now key) := by
  refine Op.movesBind Op.movesRead fun s => ?_
  split
  · exact Op.movesBind (evictTallied now) fun _ => Op.movesPure _
  · exact Op.movesPure _

theorem setTallied (now : τ) (raw data : Value) (o : Options τ) : Op.Moves Tallied (set now raw data o) := by
  have limited (key : String) : Op.Moves Tallied (limit now key) := by
    refine Op.movesSmall fun s => ?_
    unfold limit
    split <;> rfl
  have weighed : Op.Moves Tallied (weigh (τ := τ) data) := by
    refine Op.movesSmall fun s => ?_
    unfold weigh
    split <;> rfl
  have accessed : Op.Moves Tallied (accessKey now raw) :=
    Op.movesBind (fun _ => .refl) fun key => Op.movesBind (limited key) fun _ => Op.movesPure _
  refine Op.movesBind accessed fun key => Op.movesBind weighed fun _ => Op.movesBind Op.movesRead fun s => ?_
  dsimp only
  split
  · exact Op.movesFail _
  · refine Op.movesBind (makeRoomTallied now key) fun _ => ?_
    refine Op.movesBind (Op.movesChange fun s => congrArg Meter.renewed (forgottenMeter key)) fun _ => ?_
    refine Op.movesBind (Op.movesLift _) fun tags => ?_
    refine Op.movesBind (Op.movesChange fun _ => rfl) fun _ => ?_
    exact Op.movesBind reportTallied fun _ => Op.movesPure _

end Store

/-! Blame. -/

def Failure.ofSink : Failure → Bool
  | .noDestination | .negativeCount | .unordered _ | .notSpelled _ | .notNumber _ | .arithmetic _ => true
  | _ => false

def Fault.OfSink (f : Fault) : Prop := f.failure.ofSink = true

theorem Fault.OfSink.alive {f : Fault} (own : f.OfSink) : f.isCancelled = false := by
  unfold OfSink at own
  unfold isCancelled
  cases kind : f.failure <;> simp_all [Failure.ofSink]

theorem Value.amountBlames {v : Value} {why : Failure} (failed : v.amount = .error why) :
    why.ofSink = true := by
  have read (o : Option Float) (failed : (o.elim (.error (.notSpelled v.inner)) .ok :
      Except Failure Float) = .error why) : why.ofSink = true := by
    cases o <;> cases failed
    rfl
  unfold amount at failed
  split at failed
  · exact read _ failed
  · exact read _ failed
  · exact read _ failed
  · split at failed
    · split at failed <;> cases failed
      rfl
    · cases failed
      rfl

namespace Exposition

theorem gaugeBlames {x : Exposition τ} {v : Value} {why : Failure} (failed : (x.gauge v).1 = .error why) :
    why.ofSink = true := by
  unfold gauge at failed
  split at failed
  · cases failed
  · rename_i read
    cases failed
    exact Value.amountBlames read

theorem countBlames {x : Exposition τ} {name : String} {amount : Value} {why : Failure}
    (failed : (x.count name amount).1 = .error why) : why.ofSink = true := by
  unfold count at failed
  dsimp only at failed
  split at failed
  · cases failed
    rfl
  · split at failed <;> cases failed
    rfl

theorem reportBlames {x : Exposition τ} {e : Event} {why : Failure} (failed : (x.report e).1 = .error why) :
    why.ofSink = true := by
  unfold report at failed
  split at failed
  · dsimp only at failed
    split at failed
    · exact gaugeBlames failed
    · cases failed
  · split at failed
    · exact gaugeBlames failed
    · split at failed
      · rename_i counted
        cases failed
        exact countBlames (congrArg Prod.fst counted)
      · split at failed
        · exact gaugeBlames failed
        · cases failed

end Exposition

theorem Meter.reportBlames (e : Event) : Op.Blames Fault.OfSink (report (τ := τ) e) := by
  intro m f failed
  unfold report at failed
  cases kind : m.sink with
  | journal => simp [kind] at failed
  | silent => simp [kind] at failed
  | refusing =>
    simp only [kind] at failed
    cases failed
    rfl
  | exposition x =>
    simp only [kind] at failed
    split at failed
    · cases failed
    · rename_i why x' told
      cases failed
      exact Exposition.reportBlames (congrArg Prod.fst told)

namespace Store

theorem reportSizeBlames : Op.Blames Fault.OfSink (reportSize (τ := τ)) := by
  refine Op.blamesBind Op.blamesRead fun s => Op.blamesWithin ?_
  exact Op.blamesBind (Op.blamesChange _) fun _ => Meter.reportBlames _

theorem evictBlames (now : τ) : Op.Blames Fault.OfSink (evict now) := by
  refine Op.blamesBind Op.blamesRead fun s => ?_
  split
  · exact Op.blamesPure _
  · refine Op.blamesBind (Op.blamesStep _) fun _ => Op.blamesBind (Op.blamesWithin ?_) fun _ =>
      Op.blamesBind reportSizeBlames fun _ => Op.blamesPure _
    exact Op.blamesBind (Op.blamesChange _) fun _ => Meter.reportBlames _

theorem makeRoomBlames (now : τ) (key : String) : Op.Blames Fault.OfSink (makeRoom now key) := by
  refine Op.blamesBind Op.blamesRead fun s => ?_
  split
  · exact Op.blamesBind (evictBlames now) fun _ => Op.blamesPure _
  · exact Op.blamesPure _

end Store

end ReadThrough
