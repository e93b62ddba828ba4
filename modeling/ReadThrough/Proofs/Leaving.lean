import ReadThrough.Proofs.Purge
import ReadThrough.Proofs.Twin

/-! Callers that stop waiting. A fetch belongs to its slot and to no caller, so who waits decides nothing
but who is told: two coordinators whose waiting callers differ only in some that leave do the same at every
step, tell the others the same, and still differ only in those that leave. -/
namespace ReadThrough
variable {τ : Type}

def Report.heard (leaving : String → Bool) : Report τ → Report τ
  | .finished results => .finished (results.filter (fun r => !leaving r.1))
  | report => report

namespace Coordinator

def awaited (c : Coordinator τ) (w : Assoc String Nat) : Coordinator τ := { c with waiting := w }

def staying (leaving : String → Bool) (w : Assoc String Nat) : List (String × Nat) :=
  w.entries.filter (fun e => !leaving e.1)

inductive Parted (leaving : String → Bool) : Coordinator τ → Coordinator τ → Prop where
  | of (c : Coordinator τ) {w w' : Assoc String Nat} (others : staying leaving w = staying leaving w') :
      Parted leaving (c.awaited w) (c.awaited w')

variable {leaving : String → Bool} {c c' : Coordinator τ}

theorem Parted.refl (c : Coordinator τ) : Parted leaving c c := .of c rfl

theorem stayingPut (w : Assoc String Nat) (caller : String) (n : Nat) :
    staying leaving (w.put caller n) =
      if leaving caller then staying leaving w else Assoc.place caller n (staying leaving w) := by
  obtain ⟨entries⟩ := w
  simp only [staying,Assoc.put]
  induction entries with
  | nil => cases gone : leaving caller <;> simp [Assoc.place,gone]
  | cons e rest ih =>
    obtain ⟨k,m⟩ := e
    by_cases same : k = caller
    · subst same
      cases gone : leaving k <;> simp [Assoc.place,gone]
    · simp only [Assoc.place,same,if_false]
      cases gone : leaving k
      · simp only [List.filter_cons,gone,Bool.not_false,if_true,ih]
        split <;> simp [Assoc.place,same]
      · simpa only [List.filter_cons,gone,Bool.not_true,Bool.false_eq_true,if_false] using ih

theorem stayingGet {caller : String} (stays : leaving caller = false) (w : Assoc String Nat) :
    w.get? caller = Assoc.find caller (staying leaving w) := by
  obtain ⟨entries⟩ := w
  simp only [staying,Assoc.get?]
  induction entries with
  | nil => rfl
  | cons e rest ih =>
    obtain ⟨k,m⟩ := e
    by_cases same : k = caller
    · subst same
      simp [Assoc.find,stays]
    · cases gone : leaving k <;> simp [Assoc.find,same,gone,ih]

theorem stayingFilter (w : Assoc String Nat) (p : String × Nat → Bool) :
    staying leaving ⟨w.entries.filter p⟩ = (staying leaving w).filter p := by
  simp only [staying,List.filter_filter]
  exact List.filter_congr fun _ _ => Bool.and_comm _ _

theorem Parted.same (parted : Parted leaving c c') : c = c'.awaited c.waiting := by
  cases parted with
  | of c others => rfl

theorem Parted.others (parted : Parted leaving c c') :
    staying leaving c.waiting = staying leaving c'.waiting := by
  cases parted with
  | of c others => exact others

theorem Parted.waiting (parted : Parted leaving c c') {caller : String} (stays : leaving caller = false) :
    c.waiting.get? caller = c'.waiting.get? caller := by
  rw [stayingGet stays,stayingGet stays,parted.others]

theorem Parted.left (parted : Parted leaving c c') {caller : String} (gone : leaving caller = true) :
    Parted leaving (c.leave caller).2 c' := by
  obtain ⟨c,others⟩ := parted
  refine .of c ?_
  rw [← others]
  refine (stayingFilter _ _).trans (List.filter_eq_self.mpr fun e stays => ?_)
  simp only [staying,List.mem_filter,Bool.not_eq_true'] at stays
  simp only [decide_eq_true_eq]
  rintro rfl
  cases gone.symm.trans stays.2

/-! Operations that ask nobody who waits. -/

theorem changeParts {f : Coordinator τ → Coordinator τ}
    (moves : ∀ c w, f (c.awaited w) = (f c).awaited w) : Op.Twin (Parted leaving) (Op.change f) := by
  refine Op.twinChange ?_
  rintro _ _ ⟨c,others⟩
  rw [moves,moves]
  exact .of (f c) others

theorem stepParts {α : Type} {f : Coordinator τ → α × Coordinator τ}
    (moves : ∀ c w, f (c.awaited w) = ((f c).1,(f c).2.awaited w)) :
    Op.Twin (Parted leaving) (Op.step f) := by
  refine Op.twinStep ?_
  rintro _ _ ⟨c,others⟩
  rw [moves,moves]
  exact ⟨rfl,.of (f c).2 others⟩

theorem readParts {α : Type} {f : Coordinator τ → Op (Coordinator τ) α}
    (blind : ∀ c w, f (c.awaited w) = f c) (each : ∀ c, Op.Twin (Parted leaving) (f c)) :
    Op.Twin (Parted leaving) (Op.read >>= f) := by
  refine Op.twinRead ?_ each
  rintro _ _ ⟨c,others⟩
  rw [blind,blind]

theorem inStoreParts {α : Type} (x : Op (Store τ) α) : Op.Twin (Parted leaving) (inStore x) := by
  rintro _ _ ⟨c,others⟩
  exact ⟨rfl,.of (inStore x c).2 others⟩

theorem onLineParts {α : Type} (x : Op (Line τ) α) : Op.Twin (Parted leaving) (onLine x) := by
  rintro _ _ ⟨c,others⟩
  exact ⟨rfl,.of (onLine x c).2 others⟩

theorem meteredParts {α : Type} (x : Op (Meter τ) α) : Op.Twin (Parted leaving) (metered x) :=
  inStoreParts (Store.metered x)

theorem detachFetchesAwaited (p : String → Task τ → Bool) (c : Coordinator τ) (w : Assoc String Nat) :
    (c.awaited w).detachFetches p = (c.detachFetches p).awaited w := by
  refine List.foldl_hom (fun c : Coordinator τ => c.awaited w) fun c key => ?_
  unfold detachFetch
  rw [show (c.awaited w).slots = c.slots from rfl]
  cases c.slots.get? key <;> rfl

theorem detachRefreshesAwaited (p : String → Task τ → Bool) (c : Coordinator τ) (w : Assoc String Nat) :
    (c.awaited w).detachRefreshes p = ((c.detachRefreshes p).1,(c.detachRefreshes p).2.awaited w) := by
  have detached : ∀ (c : Coordinator τ) key, (c.awaited w).detachRefresh key = (c.detachRefresh key).awaited w := by
    intro c key
    unfold detachRefresh
    rw [show (c.awaited w).refreshing = c.refreshing from rfl]
    cases c.refreshing.get? key <;> rfl
  refine congrArg (Prod.mk _) ?_
  exact (congrArg (List.foldl undue · _) (List.foldl_hom (fun c : Coordinator τ => c.awaited w) detached)).trans
    (List.foldl_hom (fun c : Coordinator τ => c.awaited w) fun _ _ => rfl)

theorem markStaleAwaited (now : τ) (key : String) (c : Coordinator τ) (w : Assoc String Nat) :
    (c.awaited w).markStale now key = (c.markStale now key).awaited w := by
  unfold markStale
  change (if c.queue.has key then _ else _) = _
  split <;> rfl

theorem detachedParts {α : Type} (p : String → Task τ → Bool)
    (q : Coordinator τ → String → Task τ → Bool) (blind : ∀ c w, q (c.awaited w) = q c)
    (x : Op (Store τ) α) : Op.Twin (Parted leaving) (do
      Op.change (·.detachFetches p)
      Op.change (fun c => (c.detachRefreshes (q c)).2)
      inStore x) := by
  refine Op.twinBind (changeParts (detachFetchesAwaited p)) fun _ => ?_
  refine Op.twinBind (changeParts fun c w => ?_) fun _ => inStoreParts x
  rw [blind,detachRefreshesAwaited]

variable [Quantity τ]

theorem bustParts (now : τ) (raw : Value) : Op.Twin (Parted leaving) (bust now raw) :=
  Op.twinBind (inStoreParts _) fun _ => detachedParts _ _ (fun _ _ => rfl) _

theorem clearParts (now : τ) : Op.Twin (Parted leaving) (clear now) := by
  refine Op.twinBind (changeParts (detachFetchesAwaited _)) fun _ => ?_
  refine Op.twinBind (changeParts fun c w => ?_) fun _ => inStoreParts _
  rw [detachRefreshesAwaited]
  rfl

theorem mutatedParts (now : τ) (tags : List Tag) : Op.Twin (Parted leaving) (mutated now tags) :=
  readParts (fun _ _ => rfl) fun _ => detachedParts _ _ (fun _ _ => rfl) _

theorem mutatedEntityParts (now : τ) (kind : String) (id : Option Value) :
    Op.Twin (Parted leaving) (mutatedEntity now kind id) :=
  Op.twinBind (Op.twinLift _) fun _ => mutatedParts now _

theorem mutatedKeysParts (now : τ) (matching : String → Bool) :
    Op.Twin (Parted leaving) (mutatedKeys now matching) := detachedParts _ _ (fun _ _ => rfl) _

theorem mutatedVersionParts (now : τ) (current : Option String) :
    Op.Twin (Parted leaving) (mutatedVersion now current) := detachedParts _ _ (fun _ _ => rfl) _

omit [Quantity τ] in
theorem scheduleParts (now : τ) (key supplier : String) (ttl : Option τ)
    (tags : Except Failure (List Tag)) (version : Option String) (endpoint : String) :
    Op.Twin (Parted leaving) (schedule now key supplier ttl tags version endpoint) := by
  refine Op.twinBind (changeParts (markStaleAwaited now key)) fun _ => ?_
  refine readParts (fun _ _ => rfl) fun c => ?_
  split
  · exact Op.twinPure _
  · refine Op.twinBind (Op.twinLift _) fun tags => Op.twinBind (stepParts fun _ _ => rfl) fun task => ?_
    exact Op.twinBind (changeParts fun _ _ => rfl) fun _ => Op.twinPure _

theorem setParts (now : τ) (raw data : Value) (o : Options τ) :
    Op.Twin (Parted leaving) (set now raw data o) := by
  refine readParts (fun _ _ => rfl) fun c => ?_
  dsimp only
  split
  · exact Op.twinBind (inStoreParts _) fun _ => Op.twinBind (Op.twinLift _) fun _ => inStoreParts _
  · exact inStoreParts _

/-! Reading through. -/

omit [Quantity τ] in
theorem waitParts (caller : String) (n : Nat) : Op.Twin (Parted leaving)
    (Op.change fun c : Coordinator τ => { c with waiting := c.waiting.put caller n }) := by
  refine Op.twinChange ?_
  rintro _ _ ⟨c,others⟩
  rename_i w w'
  refine .of c ?_
  change staying leaving (w.put caller n) = staying leaving (w'.put caller n)
  rw [stayingPut,stayingPut,others]

omit [Quantity τ] in
theorem shareParts (caller key : String) (r : Request τ) (tags : List Tag) :
    Op.Twin (Parted leaving) (share caller key r tags) := by
  refine readParts (fun _ _ => rfl) fun c => ?_
  split
  · exact Op.twinBind (waitParts caller _) fun _ => Op.twinPure _
  · refine Op.twinBind (stepParts fun _ _ => rfl) fun task => Op.twinBind ?_ fun _ => Op.twinPure _
    rintro c c' parted
    obtain ⟨-,waits⟩ := waitParts caller task c c' parted
    obtain ⟨-,opened⟩ := changeParts (f := fun c : Coordinator τ => { c with slots := c.slots.put key task })
      (fun _ _ => rfl) _ _ waits
    exact ⟨rfl,opened⟩

theorem readStaleParts (now : τ) (raw : Value) : Op.Twin (Parted leaving) (readStale now raw) := by
  refine Op.twinBind (inStoreParts _) fun found => ?_
  cases found with
  | none => exact Op.twinPure _
  | some l =>
    dsimp only
    split
    · exact Op.twinBind (changeParts (markStaleAwaited now l.key)) fun _ => Op.twinPure _
    · exact Op.twinPure _

theorem missParts (caller key : String) (r : Request τ) (tags : List Tag) :
    Op.Twin (Parted leaving) (do
      metered (Meter.recordMiss key)
      share caller key r tags) :=
  Op.twinBind (meteredParts _) fun _ => shareParts caller key r tags

theorem lookUpParts (now : τ) (caller key : String) (r : Request τ) (tags : Option (List Tag)) :
    Op.Twin (Parted leaving) (lookUpTolerant now caller key r tags) ∧
      Op.Twin (Parted leaving) (lookUpFresh now caller key r tags) := by
  constructor
  · refine Op.twinBind (readStaleParts now _) fun found => ?_
    cases found with
    | none => exact shareParts caller key r _
    | some l =>
      dsimp only
      split
      · exact Op.twinBind (scheduleParts now _ _ _ _ _ _) fun _ => Op.twinPure _
      · exact Op.twinPure _
  · refine Op.twinBind (inStoreParts _) fun found => ?_
    cases found with
    | none => exact missParts caller key r _
    | some e =>
      dsimp only
      split
      · exact missParts caller key r _
      · exact Op.twinBind (meteredParts _) fun _ => Op.twinPure _

theorem fetchParts (now : τ) (caller : String) (raw : Value) (r : Request τ) :
    Op.Twin (Parted leaving) (fetch now caller raw r) := by
  have tagged : Op.Twin (Parted leaving) (requestTags r) := by
    unfold requestTags
    split
    · exact Op.twinPure _
    · exact Op.twinBind (Op.twinLift _) fun _ => Op.twinPure _
  have looks (key : String) (tags : Option (List Tag)) : Op.Twin (Parted leaving) (do
      if (← Op.read).toleratesStale then lookUpTolerant now caller key r tags
      else lookUpFresh now caller key r tags : Op (Coordinator τ) Answer) := by
    refine readParts (fun _ _ => rfl) fun c => ?_
    split
    · exact (lookUpParts now caller key r tags).1
    · exact (lookUpParts now caller key r tags).2
  refine Op.twinBind (inStoreParts _) fun key => Op.twinBind tagged fun tags => ?_
  split <;> dsimp only <;> split
  · exact Op.twinBind (bustParts now _) fun _ => looks key tags
  · exact looks key tags
  · exact Op.twinBind (bustParts now _) fun _ => missParts caller key r _
  · exact missParts caller key r _

/-! Courses. -/

theorem writeResultParts (now : τ) (t : Task τ) (data : Value) :
    Op.Twin (Parted leaving) (writeResult now t data) := by
  refine readParts (fun _ _ => rfl) fun c => ?_
  dsimp only
  split
  · exact Op.twinBind (Op.twinLift _) fun _ => Op.twinBind (inStoreParts _) fun _ => Op.twinPure _
  · exact Op.twinBind (inStoreParts _) fun _ => Op.twinPure _

theorem completeFetchParts (now : τ) (t : Task τ) (data : Value) :
    Op.Twin (Parted leaving) (completeFetch now t data) := by
  unfold completeFetch
  split
  · exact Op.twinPure _
  · exact Op.twinBind (writeResultParts now t data) fun _ => Op.twinPure _

theorem completeRefreshParts (now : τ) (t : Task τ) (data : Value) :
    Op.Twin (Parted leaving) (completeRefresh now t data) := by
  unfold completeRefresh
  split
  · exact Op.twinPure _
  · refine Op.twinBind (Op.twinAttempt (writeResultParts now t data)) fun written => ?_
    cases written with
    | ok u => exact Op.twinBind (changeParts fun _ _ => rfl) fun _ => meteredParts _
    | error f => exact meteredParts _

theorem failRefreshParts (t : Task τ) (error : Fault) :
    Op.Twin (Parted leaving) (failRefresh t error) := by
  unfold failRefresh
  split
  · exact Op.twinPure _
  · exact meteredParts _

def Informs (leaving : String → Bool) (x : Coordinator τ → Report τ × Coordinator τ)
    (c c' : Coordinator τ) : Prop :=
  (x c).1.heard leaving = (x c').1.heard leaving ∧ Parted leaving (x c).2 (x c').2

omit [Quantity τ] in
theorem endFetchInforms (parted : Parted leaving c c') (n : Nat) (t : Task τ)
    (result : Except Fault Value) : Informs leaving (fun c => c.endFetch n t result) c c' := by
  obtain ⟨c,others⟩ := parted
  rename_i w w'
  constructor
  · have told (w : Assoc String Nat) :
        ((w.entries.filter (fun e => e.2 == n)).map (fun e => (e.1,result))).filter (fun r => !leaving r.1) =
          ((staying leaving w).filter (fun e => e.2 == n)).map (fun e => (e.1,result)) := by
      rw [List.filter_map,← stayingFilter]
      rfl
    simp only [endFetch,Report.heard,awaited,told,others]
  · refine .of (c.endFetch n t result).2 ?_
    change staying leaving ⟨w.entries.filter _⟩ = staying leaving ⟨w'.entries.filter _⟩
    rw [stayingFilter,stayingFilter,others]

omit [Quantity τ] in
theorem endRefreshInforms (parted : Parted leaving c c') (n : Nat) (t : Task τ) :
    Informs leaving (fun c => c.endRefresh n t) c c' := by
  obtain ⟨c,others⟩ := parted
  exact ⟨rfl,.of (c.endRefresh n t).2 others⟩

theorem concludeInforms (parted : Parted leaving c c') (now : τ) (n : Nat) (t : Task τ)
    (result : Except Fault Value) : Informs leaving (fun c => c.conclude now n t result) c c' := by
  unfold Informs conclude
  cases t.purpose with
  | fetch =>
    cases result with
    | error e => exact endFetchInforms parted n t _
    | ok data =>
      obtain ⟨same,after⟩ := completeFetchParts now t data c c' parted
      dsimp only
      rw [same]
      exact endFetchInforms after n t _
  | refresh =>
    cases result with
    | error e => exact endRefreshInforms (failRefreshParts t e c c' parted).2 n t
    | ok data => exact endRefreshInforms (completeRefreshParts now t data c c' parted).2 n t

omit [Quantity τ] in
theorem keepPursuitParted (parted : Parted leaving c c') (n : Nat) (p : Pursuit) :
    Parted leaving (c.keepPursuit n p) (c'.keepPursuit n p) := by
  obtain ⟨c,others⟩ := parted
  exact .of (c.keepPursuit n p) others

omit [Quantity τ] in
theorem Parted.tasks (parted : Parted leaving c c') : c.tasks = c'.tasks ∧ c.service = c'.service := by
  cases parted with
  | of c others => exact ⟨rfl,rfl⟩

theorem beginInforms (parted : Parted leaving c c') (now : τ) (n : Nat) :
    Informs leaving (fun c => c.begin now n) c c' := by
  obtain ⟨tasks,service⟩ := parted.tasks
  unfold Informs begin
  dsimp only
  rw [tasks,service]
  cases c'.tasks.get? n with
  | none => exact ⟨rfl,parted⟩
  | some t =>
    obtain ⟨same,after⟩ := onLineParts (Line.begin c'.service now t.endpoint) c c' parted
    dsimp only
    revert same after
    cases onLine (Line.begin c'.service now t.endpoint) c with
    | mk r c₁ =>
      cases onLine (Line.begin c'.service now t.endpoint) c' with
      | mk r' c₁' =>
        rintro rfl after
        cases r with
        | ok p => exact ⟨rfl,keepPursuitParted after n p⟩
        | error e => exact concludeInforms after now n t _

theorem advanceInforms (parted : Parted leaving c c') (now : τ) (n : Nat) (a : Attempt) :
    Informs leaving (fun c => c.advance now n a) c c' := by
  obtain ⟨tasks,service⟩ := parted.tasks
  unfold Informs advance
  dsimp only
  rw [tasks,service]
  cases c'.tasks.get? n with
  | none => exact ⟨rfl,parted⟩
  | some t =>
    dsimp only
    cases t.pursuit with
    | none => exact concludeInforms parted now n t _
    | some p =>
      obtain ⟨same,after⟩ := onLineParts (Line.advance c'.service now p a) c c' parted
      dsimp only
      revert same after
      cases onLine (Line.advance c'.service now p a) c with
      | mk r c₁ =>
        cases onLine (Line.advance c'.service now p a) c' with
        | mk r' c₁' =>
          rintro rfl after
          cases r with
          | error e => exact concludeInforms after now n t _
          | ok progress =>
            cases progress with
            | done v => exact concludeInforms after now n t _
            | pause delay next => exact ⟨rfl,keepPursuitParted after n next⟩

/-! Steps and runs. -/

inductive Response (τ : Type) where
  | answered (r : Except Fault Answer)
  | left (waited : Bool)
  | reported (r : Report τ)
  | got (r : Except Fault (Option Value))
  | stored (r : Except Fault String)
  | busted (r : Except Fault Bool)
  | dropped (r : Except Fault Nat)
  | scheduled (r : Except Fault (Option Nat))
  | superseded (count : Nat)
  | done (r : Except Fault Unit)

def respond (c : Coordinator τ) (now : τ) : Step τ → Response τ × Coordinator τ
  | .fetch caller raw r => (fetch now caller raw r c).map .answered id
  | .leave caller => (c.leave caller).map .left id
  | .begin n => (c.begin now n).map .reported id
  | .advance n a => (c.advance now n a).map .reported id
  | .get raw => (inStore (Store.get now raw) c).map .got id
  | .set raw data o => (set now raw data o c).map .stored id
  | .bust raw => (bust now raw c).map .busted id
  | .clear => (clear now c).map .dropped id
  | .mutated tags => (mutated now tags c).map .dropped id
  | .mutatedEntity kind named => (mutatedEntity now kind named c).map .dropped id
  | .mutatedKeys matching => (mutatedKeys now matching c).map .dropped id
  | .mutatedVersion current => (mutatedVersion now current c).map .dropped id
  | .schedule key supplier ttl tags version endpoint =>
    (schedule now key supplier ttl tags version endpoint c).map .scheduled id
  | .markStale key => (.done (.ok ()),c.markStale now key)
  | .clearQueue => (.done (.ok ()),c.clearQueue)
  | .supersede keys tags => (c.supersede keys tags).map .superseded id
  | .supersedeVersions current => (c.supersedeVersions current).map .superseded id
  | .forget key => (.done (.ok ()),c.forget key)
  | .onLine x => (onLine x c).map .done id
  | .metered x => (metered x c).map .done id

theorem respondStep (c : Coordinator τ) (now : τ) (s : Step τ) : (c.respond now s).2 = c.step now s := by
  cases s <;> rfl

def Response.heard (leaving : String → Bool) : Response τ → Response τ
  | .reported r => .reported (r.heard leaving)
  | r => r

def Step.cancels (leaving : String → Bool) : Step τ → Bool
  | .leave caller => leaving caller
  | _ => false

/-- The answers to the steps of a run as those who stay hear them; nobody hears a cancellation. -/
def heard (leaving : String → Bool) (c : Coordinator τ) : List (τ × Step τ) → List (Response τ)
  | [] => []
  | (now,s) :: rest =>
    if s.cancels leaving then heard leaving (c.step now s) rest
    else (c.respond now s).1.heard leaving :: heard leaving (c.step now s) rest

def uncancelled (leaving : String → Bool) (run : List (τ × Step τ)) : List (τ × Step τ) :=
  run.filter (fun m => !m.2.cancels leaving)

omit [Quantity τ] in
theorem agreesResponds {α : Type} {x : Op (Coordinator τ) α} (twin : Op.Twin (Parted leaving) x)
    (parted : Parted leaving c c') (f : Except Fault α → Response τ) :
    ((x c).map f id).1.heard leaving = ((x c').map f id).1.heard leaving ∧
      Parted leaving ((x c).map f id).2 ((x c').map f id).2 := by
  obtain ⟨same,after⟩ := twin c c' parted
  exact ⟨congrArg (fun r => (f r).heard leaving) same,after⟩

omit [Quantity τ] in
theorem leaveResponds (parted : Parted leaving c c') {caller : String} (stays : leaving caller = false) :
    (c.leave caller).1 = (c'.leave caller).1 ∧ Parted leaving (c.leave caller).2 (c'.leave caller).2 := by
  constructor
  · simp only [leave,Assoc.has,parted.waiting stays]
  · obtain ⟨c,others⟩ := parted
    rename_i w w'
    refine .of c ?_
    change staying leaving ⟨w.entries.filter _⟩ = staying leaving ⟨w'.entries.filter _⟩
    rw [stayingFilter,stayingFilter,others]

theorem respondParts (parted : Parted leaving c c') (now : τ) {s : Step τ} (kept : s.cancels leaving = false) :
    (c.respond now s).1.heard leaving = (c'.respond now s).1.heard leaving ∧
      Parted leaving (c.respond now s).2 (c'.respond now s).2 := by
  cases s with
  | fetch caller raw r => exact agreesResponds (fetchParts now caller raw r) parted _
  | leave caller =>
    obtain ⟨same,after⟩ := leaveResponds parted kept
    exact ⟨congrArg Response.left same,after⟩
  | begin n =>
    obtain ⟨same,after⟩ := beginInforms parted now n
    exact ⟨congrArg Response.reported same,after⟩
  | advance n a =>
    obtain ⟨same,after⟩ := advanceInforms parted now n a
    exact ⟨congrArg Response.reported same,after⟩
  | get raw => exact agreesResponds (inStoreParts _) parted _
  | set raw data o => exact agreesResponds (setParts now raw data o) parted _
  | bust raw => exact agreesResponds (bustParts now raw) parted _
  | clear => exact agreesResponds (clearParts now) parted _
  | mutated tags => exact agreesResponds (mutatedParts now tags) parted _
  | mutatedEntity kind id => exact agreesResponds (mutatedEntityParts now kind id) parted _
  | mutatedKeys matching => exact agreesResponds (mutatedKeysParts now matching) parted _
  | mutatedVersion current => exact agreesResponds (mutatedVersionParts now current) parted _
  | schedule key supplier ttl tags version endpoint =>
    exact agreesResponds (scheduleParts now key supplier ttl tags version endpoint) parted _
  | markStale key =>
    exact agreesResponds (changeParts (f := (·.markStale now key)) (markStaleAwaited now key)) parted .done
  | clearQueue => exact agreesResponds (changeParts (f := clearQueue) fun _ _ => rfl) parted .done
  | supersede keys tags =>
    obtain ⟨same,after⟩ := stepParts (f := (·.supersede keys tags)) (detachRefreshesAwaited _) c c' parted
    exact ⟨congrArg Response.superseded (Except.ok.inj same),after⟩
  | supersedeVersions current =>
    obtain ⟨same,after⟩ := stepParts (f := (·.supersedeVersions current)) (detachRefreshesAwaited _) c c' parted
    exact ⟨congrArg Response.superseded (Except.ok.inj same),after⟩
  | forget key => exact agreesResponds (changeParts (f := (·.forget key)) fun _ _ => rfl) parted .done
  | onLine x => exact agreesResponds (onLineParts x) parted _
  | metered x => exact agreesResponds (meteredParts x) parted _

theorem stepParted (parted : Parted leaving c c') (now : τ) {s : Step τ} (kept : s.cancels leaving = false) :
    Parted leaving (c.step now s) (c'.step now s) := by
  rw [← respondStep,← respondStep]
  exact (respondParts parted now kept).2

theorem runParts (parted : Parted leaving c c') (run : List (τ × Step τ)) :
    heard leaving c run = heard leaving c' (uncancelled leaving run) ∧
      Parted leaving (c.after run) (c'.after (uncancelled leaving run)) := by
  induction run generalizing c c' with
  | nil => exact ⟨rfl,parted⟩
  | cons m rest ih =>
    obtain ⟨now,s⟩ := m
    cases cancels : s.cancels leaving with
    | true =>
      cases s with
      | leave caller =>
        have skipped : uncancelled leaving ((now,.leave caller) :: rest) = uncancelled leaving rest :=
          List.filter_cons_of_neg (by simpa using cancels)
        rw [skipped,heard,if_pos cancels]
        exact ih (parted.left cancels)
      | _ => cases cancels
    | false =>
      have kept : uncancelled leaving ((now,s) :: rest) = (now,s) :: uncancelled leaving rest :=
        List.filter_cons_of_pos (by simpa using cancels)
      obtain ⟨same,after⟩ := ih (stepParted parted now cancels)
      rw [kept,heard,heard,if_neg (by simp [cancels]),if_neg (by simp [cancels]),same,
        (respondParts parted now cancels).1]
      exact ⟨rfl,after⟩

/-- Nothing in a run depends on who of some callers leaves: not what the others are told, which tasks
run, what is asked of the suppliers and when, nor what circuits, counters and store come to. -/
structure Isolated (leaving : String → Bool) (c : Coordinator τ) (run : List (τ × Step τ)) : Prop where
  heard : heard leaving c run = heard leaving c (uncancelled leaving run)
  state : c.after run = (c.after (uncancelled leaving run)).awaited (c.after run).waiting
  waiting : ∀ caller, leaving caller = false →
    (c.after run).waiting.get? caller = (c.after (uncancelled leaving run)).waiting.get? caller

theorem leavingIsolated (c : Coordinator τ) (leaving : String → Bool) (run : List (τ × Step τ)) :
    Isolated leaving c run := by
  obtain ⟨same,parted⟩ := runParts (.refl c) run
  exact ⟨same,parted.same,fun _ => parted.waiting⟩

example : let run := [(.whole 1000,.fetch "a" (.str "k") userRequest),(.whole 1000,.begin 0),
      (.whole 1001,.fetch "b" (.str "k") userRequest),(.whole 1001,.leave "a")]
    (smallCache.after run).told (.whole 1002) (.advance 0 (.returned (.int 7))) = [("b",.ok (.int 7))] := rfl

end Coordinator

end ReadThrough
