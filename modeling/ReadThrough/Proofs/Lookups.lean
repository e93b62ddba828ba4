import ReadThrough.Proofs.Reading
import ReadThrough.Proofs.Records

/-! Look-ups. Each read that gets as far as the entries is counted once, as a hit, a stale hit or a miss, by what
it meets there; nothing else that a cache does is counted so. -/
namespace ReadThrough
open Relation
variable {τ : Type}

inductive Look where
  | hit
  | staleHit
  | miss
  deriving DecidableEq

namespace Look

def count (m : Meter τ) : Look → Int
  | hit => m.hits
  | staleHit => m.staleHits
  | miss => m.misses

def record [Quantity τ] (key : String) : Look → Op (Meter τ) Unit
  | hit => Meter.recordHit key
  | staleHit => Meter.recordStaleHit key
  | miss => Meter.recordMiss key

end Look

namespace Meter

/-- Each class has grown by its look-ups among these. -/
def Saw (looks : List Look) (m m' : Meter τ) : Prop := ∀ k : Look, k.count m' = k.count m + looks.count k

variable {m m₁ m' : Meter τ} {looks later : List Look}

theorem sawNothing (same : ∀ k : Look, k.count m' = k.count m) : Saw [] m m' := fun k =>
  (same k).trans (Int.add_zero _).symm

theorem Saw.trans (first : Saw looks m m₁) (second : Saw later m₁ m') : Saw (looks ++ later) m m' := by
  intro k
  rw [second k,first k,List.count_append]
  omega

theorem sawChain (chain : ReflTransGen (Saw []) m m') : Saw [] m m' := by
  induction chain with
  | refl => exact sawNothing fun _ => rfl
  | tail _ last ih => exact ih.trans last

theorem Saw.lookups (saw : Saw looks m m') : m'.lookups = m.lookups + looks.length := by
  have hits : m'.hits = m.hits + looks.count .hit := saw .hit
  have staleHits : m'.staleHits = m.staleHits + looks.count .staleHit := saw .staleHit
  have misses : m'.misses = m.misses + looks.count .miss := saw .miss
  have length : looks.length = looks.count .hit + looks.count .staleHit + looks.count .miss := by
    clear saw hits staleHits misses
    induction looks with
    | nil => rfl
    | cons k rest ih => cases k <;> simp <;> omega
  unfold Meter.lookups
  omega

variable [Quantity τ]

theorem reportLooks (e : Event) (m : Meter τ) (k : Look) : k.count (report e m).2 = k.count m := by
  have same (m : Meter τ) : k.count m.bare = k.count m := by cases k <;> rfl
  rw [← same,reportBare,same]

theorem reportSaw (e : Event) {m₁ : Meter τ} (counts : Saw looks m m₁) : Saw looks m (report e m₁).2 := fun k =>
  (reportLooks e m₁ k).trans (counts k)

theorem recordSaw (k : Look) (key : String) (m : Meter τ) : Saw [k] m (k.record key m).2 := by
  cases k with
  | hit => exact reportSaw (.hit key) fun k => by cases k <;> simp [Look.count]
  | staleHit => exact reportSaw (.staleHit key) fun k => by cases k <;> simp [Look.count]
  | miss => exact reportSaw (.miss key) fun k => by cases k <;> simp [Look.count]

theorem recordTaken (k : Look) (key : String) {most : Nat} (takes : m.sink.Takes most) :
    (k.record key m).1 = .ok () := by
  have passes {x : Op (Meter τ) Unit} (taken : Taken most x) : (x m).1 = .ok () := by
    obtain ⟨m',ran,-⟩ := taken m takes
    rw [ran]
  cases k with
  | hit => exact passes (hitTaken key)
  | staleHit => exact passes (staleHitTaken key)
  | miss => exact passes (missTaken key)

theorem workingSaw : Working (Saw (τ := τ) []) := by
  refine ⟨fun _ m => reportSaw _ (sawNothing fun _ => rfl),fun key success m => ?_⟩
  cases success with
  | true => exact reportSaw (.revalidation key true) (sawNothing fun k => by cases k <;> rfl)
  | false => exact reportSaw (.revalidation key false) (sawNothing fun k => by cases k <;> rfl)

theorem storingSaw : Storing (fun _ => True) (Saw (τ := τ) []) := by
  refine ⟨fun now key m => ?_,fun now n reason m => ?_,fun _ m => ?_⟩
  · exact reportSaw (.eviction key) (sawNothing fun k => by cases k <;> rfl)
  · unfold recordInvalidation
    split
    · exact sawNothing fun _ => rfl
    · exact reportSaw (.invalidation n reason) (sawNothing fun k => by cases k <;> rfl)
  · exact reportSaw (.size _) (sawNothing fun k => by cases k <;> rfl)

end Meter

namespace Store
variable [Quantity τ] {s s' : Store τ} {now : τ} {raw : Value} {key : String}

theorem trailUnseen {calls : List (Call τ)} (trail : Trail (Meter.Saw []) s calls s') :
    Meter.Saw [] s.meter s'.meter := by
  induction trail with
  | start => exact Meter.sawNothing fun _ => rfl
  | deed _ done ih =>
    exact ih.trans (Meter.sawChain (deedRecords Meter.storingSaw (fun _ _ => trivial) id done trivial).2)
  | call _ now raw data o ih =>
    refine ih.trans (Meter.sawChain (setRecords Meter.storingSaw (fun _ _ => trivial) now raw data o ?_ trivial).2)
    exact fun _ _ _ _ _ _ => trivial

def reached (s : Store τ) (now : τ) (raw : Value) : Option String :=
  match s.gate.admitKey raw with
  | .ok key => if s.limiter.HasRoom now key then some key else none
  | .error _ => none

def freshLook (s : Store τ) (now : τ) (key : String) : Look :=
  match s.entries.get? key with
  | some e => if e.isExpired now then .miss else .hit
  | none => .miss

def staleLook (s : Store τ) (now : τ) (key : String) : Look :=
  match s.entries.get? key with
  | some e => if e.isExpired now then .staleHit else .hit
  | none => .miss

def getLooks (s : Store τ) (now : τ) (raw : Value) : List Look := (s.reached now raw).toList.map (s.freshLook now)

def batchLooks (s : Store τ) (now : τ) : List Value → List Look
  | [] => []
  | raw :: rest => s.getLooks now raw ++
    match get now raw s with
    | (.ok _, s') => s'.batchLooks now rest
    | (.error _, _) => []

def errandLooks (s : Store τ) (now : τ) : Errand τ → List Look
  | .get raw => s.getLooks now raw
  | .getStale raw => (s.reached now raw).toList.map (s.staleLook now)
  | .getBatch raws => s.batchLooks now raws
  | _ => []

theorem reachedSome (reached : s.reached now raw = some key) :
    s.gate.admitKey raw = .ok key ∧ s.limiter.HasRoom now key := by
  unfold Store.reached at reached
  split at reached
  · rename_i k admitted
    split at reached
    · cases reached
      exact ⟨admitted,by assumption⟩
    · cases reached
  · cases reached

theorem reachedNone (barred : s.reached now raw = none) :
    ∃ f l, accessKey now raw s = (.error f,{ s with limiter := l }) := by
  unfold reached at barred
  split at barred
  · rename_i k admitted
    split at barred
    · cases barred
    · exact ⟨_,_,accessRefused now admitted (by assumption)⟩
  · rename_i why refused
    exact ⟨.of why,s.limiter,Op.bind_error (admitKeyRefuses refused)⟩

theorem getEntryEnds (reached : s.reached now raw = some key) :
    ∃ l, getEntry now raw s = (.ok (s.entries.get? key),{ s with limiter := l }) := by
  obtain ⟨admitted,room⟩ := reachedSome reached
  refine ⟨(s.limiter.check now key).2,?_⟩
  rw [getEntry,Op.bind_ok (accessPasses now admitted room)]
  rfl

theorem getEnds (reached : s.reached now raw = some key) : ∃ l, get now raw s =
    (((s.freshLook now key).record key s.meter).1.map fun _ =>
      ((s.entries.get? key).filter fun e => !e.isExpired now).map (·.data),
      { s with limiter := l, meter := ((s.freshLook now key).record key s.meter).2 }) := by
  obtain ⟨admitted,room⟩ := reachedSome reached
  refine ⟨(s.limiter.check now key).2,?_⟩
  rw [get,Op.bind_ok (accessPasses now admitted room),Op.bind_ok (show Op.read _ = (.ok _,_) from rfl),freshLook]
  cases stored : s.entries.get? key with
  | none => exact meteredPure _ _ _
  | some e => cases expired : e.isExpired now <;> simp [expired,meteredPure,Look.record,Option.filter_some]

theorem getStaleEnds (reached : s.reached now raw = some key) : ∃ l, getStale now raw s =
    (((s.staleLook now key).record key s.meter).1.map fun _ =>
      (s.entries.get? key).map fun e => ⟨key,e.isExpired now,e⟩,
      { s with limiter := l, meter := ((s.staleLook now key).record key s.meter).2 }) := by
  obtain ⟨admitted,room⟩ := reachedSome reached
  refine ⟨(s.limiter.check now key).2,?_⟩
  rw [getStale,Op.bind_ok (accessPasses now admitted room),Op.bind_ok (show Op.read _ = (.ok _,_) from rfl),staleLook]
  cases stored : s.entries.get? key with
  | none => exact meteredPure _ _ _
  | some e => cases expired : e.isExpired now <;> simp [expired,meteredPure,Look.record]

theorem getSaw (s : Store τ) (now : τ) (raw : Value) :
    Meter.Saw (s.getLooks now raw) s.meter (get now raw s).2.meter := by
  unfold getLooks
  cases reached : s.reached now raw with
  | none =>
    obtain ⟨f,l,refused⟩ := reachedNone reached
    rw [get,Op.bind_error refused]
    exact Meter.sawNothing fun _ => rfl
  | some key =>
    obtain ⟨l,ends⟩ := getEnds reached
    rw [ends]
    exact Meter.recordSaw _ key s.meter

theorem getStaleSaw (s : Store τ) (now : τ) (raw : Value) :
    Meter.Saw ((s.reached now raw).toList.map (s.staleLook now)) s.meter (getStale now raw s).2.meter := by
  cases reached : s.reached now raw with
  | none =>
    obtain ⟨f,l,refused⟩ := reachedNone reached
    rw [getStale,Op.bind_error refused]
    exact Meter.sawNothing fun _ => rfl
  | some key =>
    obtain ⟨l,ends⟩ := getStaleEnds reached
    rw [ends]
    exact Meter.recordSaw _ key s.meter

theorem getBatchSaw (s : Store τ) (now : τ) (raws : List Value) :
    Meter.Saw (s.batchLooks now raws) s.meter (getBatch now raws s).2.meter := by
  induction raws generalizing s with
  | nil => exact Meter.sawNothing fun _ => rfl
  | cons raw rest ih =>
    have first := getSaw s now raw
    rw [getBatch,batchLooks,Op.bind_apply]
    rcases ran : get now raw s with ⟨f | found,s'⟩
    -- a read that fails ends the batch, counted or not
    · rw [ran] at first
      exact first.trans (Meter.sawNothing fun _ => rfl)
    · rw [ran] at first
      dsimp only
      rw [Op.pureState]
      exact first.trans (ih s')

theorem stepSaw (s : Store τ) (now : τ) (a : Errand τ) :
    Meter.Saw (s.errandLooks now a) s.meter (s.step now a).meter := by
  by_cases looks : a.Looks
  · cases a with
    | get raw => exact getSaw s now raw
    | getStale raw => exact getStaleSaw s now raw
    | getBatch raws => exact getBatchSaw s now raws
    | _ => exact looks.elim
  · have unseen : Meter.Saw [] s.meter (s.step now a).meter :=
      trailUnseen (stepTrail s now fun looks' => absurd looks' looks)
    cases a with
    | get raw | getStale raw | getBatch raws => exact absurd trivial looks
    | _ => exact unseen

end Store

def Request.labelled (r : Request τ) : Bool :=
  match r.tags with
  | some (.error _) => false
  | _ => true

namespace Coordinator
variable [Quantity τ] {c c' : Coordinator τ} {now : τ} {caller key : String} {r : Request τ}

def readLooks (c : Coordinator τ) (now : τ) (key : String) (r : Request τ) : List Look :=
  if r.useCache then
    (c.store.reached now (.str key)).toList.map
      (if c.toleratesStale then c.store.staleLook now else c.store.freshLook now)
  else [.miss]

def fetchLooks (c : Coordinator τ) (now : τ) (raw : Value) (r : Request τ) : List Look :=
  match c.store.gate.admitKey raw with
  | .error _ => []
  | .ok key =>
    if r.labelled then
      if r.bustCache then
        match bust now (.str key) c with
        | (.ok _, c') => c'.readLooks now key r
        | (.error _, _) => []
      else c.readLooks now key r
    else []

def stepLooks (c : Coordinator τ) (now : τ) : Step τ → List Look
  | .fetch _ raw r => c.fetchLooks now raw r
  | .get raw => c.store.getLooks now raw
  | _ => []

def looks (c : Coordinator τ) (now : τ) : Use τ → List Look
  | .errand a => c.store.errandLooks now a
  | .step s => c.stepLooks now s

def runLooks (c : Coordinator τ) : List (τ × Use τ) → List Look
  | [] => []
  | (now,u) :: rest => c.looks now u ++ (c.use now u).runLooks rest

def answer (now : τ) (caller key : String) (r : Request τ) (tags : Option (List Tag)) :
    Op (Coordinator τ) Answer := do
  if r.useCache then
    if (← Op.read).toleratesStale then lookUpTolerant now caller key r tags
    else lookUpFresh now caller key r tags
  else
    metered (Meter.recordMiss key)
    share caller key r (tags.getD [])

theorem quietUnseen (quiet : Quietly (Meter.Saw []) c c') : Meter.Saw [] c.store.meter c'.store.meter :=
  Store.trailUnseen quiet.trail

theorem bindSaw {α β : Type} {x : Op (Coordinator τ) α} {f : α → Op (Coordinator τ) β} {looks : List Look}
    (first : Meter.Saw looks c.store.meter (x c).2.store.meter)
    (rest : ∀ a, Op.Moves (Quietly (Meter.Saw [])) (f a)) :
    Meter.Saw looks c.store.meter ((x >>= f) c).2.store.meter := by
  rw [Op.bind_apply]
  generalize x c = ran at *
  rcases ran with ⟨e | a,c'⟩
  · exact first
  · rw [← List.append_nil looks]
    exact first.trans (quietUnseen (quietly (rest a c')))

theorem missSaw (c : Coordinator τ) (caller key : String) (r : Request τ) (tags : List Tag) :
    Meter.Saw [.miss] c.store.meter
      ((metered (Meter.recordMiss key) >>= fun _ => share caller key r tags) c).2.store.meter :=
  bindSaw (Meter.recordSaw .miss key c.store.meter) fun _ => shareQuiet caller key r tags

theorem tolerantSaw (c : Coordinator τ) (given : Option (List Tag)) :
    Meter.Saw ((c.store.reached now (.str key)).toList.map (c.store.staleLook now)) c.store.meter
      (lookUpTolerant now caller key r given c).2.store.meter := by
  refine bindSaw ?_ fun found => ?_
  · rw [readStaleStore]
    exact Store.getStaleSaw c.store now (.str key)
  · cases found with
    | none => exact shareQuiet caller key r _
    | some l =>
      dsimp only
      split
      · exact Op.movesBind (scheduleQuiet now _ _ _ _ _ _) fun _ => Op.movesPure _
      · exact Op.movesPure _

theorem freshBarred (barred : c.store.reached now (.str key) = none) (given : Option (List Tag)) :
    ∃ f l, lookUpFresh now caller key r given c = (.error f,c.counted l c.store.meter) := by
  obtain ⟨f,l,refused⟩ := Store.reachedNone barred
  have ran : inStore (Store.getEntry now (.str key)) c = (.error f,c.counted l c.store.meter) := by
    rw [inStore,Op.within,Store.getEntry,Op.bind_error refused]
    rfl
  exact ⟨f,l,Op.bind_error ran⟩

theorem freshCounts {k : String} (reached : c.store.reached now (.str key) = some k) (given : Option (List Tag)) :
    ∃ l, lookUpFresh now caller key r given c = (metered ((c.store.freshLook now k).record key) >>= fun _ =>
      match (c.store.entries.get? k).filter fun e => !e.isExpired now with
      | some e => pure (.served e.data none)
      | none => share caller key r (given.getD [])) (c.counted l c.store.meter) := by
  obtain ⟨l,found⟩ := Store.getEntryEnds reached
  have ran : inStore (Store.getEntry now (.str key)) c = (.ok (c.store.entries.get? k),c.counted l c.store.meter) := by
    rw [inStore,Op.within,found]
    rfl
  refine ⟨l,?_⟩
  rw [lookUpFresh,Op.bind_ok ran,Store.freshLook]
  cases c.store.entries.get? k with
  | none => rfl
  | some e => cases expired : e.isExpired now <;> simp [expired,Option.filter_some,Look.record]

theorem freshSaw (c : Coordinator τ) (given : Option (List Tag)) :
    Meter.Saw ((c.store.reached now (.str key)).toList.map (c.store.freshLook now)) c.store.meter
      (lookUpFresh now caller key r given c).2.store.meter := by
  cases reached : c.store.reached now (.str key) with
  | none =>
    obtain ⟨f,l,failed⟩ := @freshBarred τ _ c now caller key r reached given
    rw [failed]
    exact Meter.sawNothing fun _ => rfl
  | some k =>
    obtain ⟨l,counts⟩ := @freshCounts τ _ c now caller key r k reached given
    rw [counts]
    refine @bindSaw τ _ (c.counted l c.store.meter) _ _ _ _ _ (Meter.recordSaw _ key c.store.meter) fun _ => ?_
    split
    · exact Op.movesPure _
    · exact shareQuiet caller key r _

theorem answerSaw (c : Coordinator τ) (tags : Option (List Tag)) : Meter.Saw (c.readLooks now key r) c.store.meter
    (answer now caller key r tags c).2.store.meter := by
  unfold answer readLooks
  split
  · rw [Op.bind_ok (show Op.read c = (.ok c,c) from rfl)]
    split
    · exact tolerantSaw c tags
    · exact freshSaw c tags
  · exact missSaw c caller key r _

def dropped (c : Coordinator τ) (now : τ) (key : String) (r : Request τ) : Coordinator τ :=
  if r.bustCache then (bust now (.str key) c).2 else c

theorem fetchEnds (c : Coordinator τ) (now : τ) (caller : String) (raw : Value) (r : Request τ) :
    (c.fetchLooks now raw r = [] ∧
      (∃ f c', fetch now caller raw r c = (.error f,c') ∧ Quietly (Meter.Saw []) c c') ∧
      ∀ key, c.store.gate.admitKey raw = .ok key → r.labelled = true →
        ∃ f, (bust now (.str key) c).1 = .error f) ∨
      ∃ key tags, c.store.gate.admitKey raw = .ok key ∧ r.labelled = true ∧
        Quietly (Meter.Saw []) c (c.dropped now key r) ∧
        c.fetchLooks now raw r = (c.dropped now key r).readLooks now key r ∧
        fetch now caller raw r c = answer now caller key r tags (c.dropped now key r) := by
  unfold fetchLooks dropped
  cases admitted : c.store.gate.admitKey raw with
  | error why =>
    refine .inl ⟨rfl,⟨.of why,c,?_,.refl⟩,fun key other => by cases other⟩
    rw [fetch,Op.bind_error (admitKeyRefuses admitted)]
  | ok key =>
    rw [fetch,Op.bind_ok (admitKeyPasses admitted)]
    rcases requestTagsCases r c with ⟨why,f,given,failed⟩ | ⟨tags,passed⟩
    · have unlabelled : r.labelled = false := by rw [Request.labelled,given]
      rw [Op.bind_error failed,unlabelled]
      exact .inl ⟨rfl,⟨f,c,rfl,.refl⟩,fun key _ labelled => by cases labelled⟩
    · have labelled : r.labelled = true := by
        unfold Request.labelled
        split
        · rename_i given
          rw [requestTags,given] at passed
          cases passed
        · rfl
      rw [Op.bind_ok passed,labelled]
      -- from here on a request fails uncounted only if its key cannot be dropped
      cases busts : r.bustCache with
      | false => exact .inr ⟨key,tags,rfl,rfl,.refl,rfl,rfl⟩
      | true =>
        have quiet : Quietly (Meter.Saw []) c (bust now (.str key) c).2 := quietly (bustQuiet now (.str key) c)
        cases busted : bust now (.str key) c with
        | mk result c' =>
          rw [busted] at quiet
          cases result with
          | error f =>
            refine .inl ⟨by simp only [if_true,busted],⟨f,c',Op.bind_error busted,quiet⟩,fun k same _ => ?_⟩
            cases same
            exact ⟨f,congrArg Prod.fst busted⟩
          | ok removed =>
            refine .inr ⟨key,tags,rfl,rfl,?_,?_,?_⟩
            · rw [busted]
              exact quiet
            · simp only [if_true,busted]
            · rw [if_pos rfl,if_pos rfl,Op.bind_ok busted,busted]
              rfl

theorem fetchSaw (c : Coordinator τ) (now : τ) (caller : String) (raw : Value) (r : Request τ) :
    Meter.Saw (c.fetchLooks now raw r) c.store.meter (fetch now caller raw r c).2.store.meter := by
  rcases fetchEnds c now caller raw r with ⟨none,⟨f,c',failed,quiet⟩,-⟩ | ⟨key,tags,-,-,quiet,same,reads⟩
  · rw [none,failed]
    exact quietUnseen quiet
  · rw [same,reads]
    exact (quietUnseen quiet).trans (answerSaw _ tags)

/-! Runs. -/

theorem useSaw (c : Coordinator τ) (now : τ) {u : Use τ} (within : u.Within (Meter.Saw [])) :
    Meter.Saw (c.looks now u) c.store.meter (c.use now u).store.meter := by
  have unseen (none : ¬ u.Looks) : Meter.Saw [] c.store.meter (c.use now u).store.meter :=
    Store.trailUnseen (useTrail Meter.workingSaw c now (fun looks => absurd looks none) within)
  cases u with
  | errand a =>
    rw [errandStore]
    exact Store.stepSaw c.store now a
  | step s =>
    cases s with
    | fetch caller raw r => exact fetchSaw c now caller raw r
    | get raw => exact Store.getSaw c.store now raw
    | _ => exact unseen id

theorem usedSaw {run : List (τ × Use τ)} (c : Coordinator τ) (within : ∀ m ∈ run, m.2.Within (Meter.Saw [])) :
    Meter.Saw (c.runLooks run) c.store.meter (c.used run).store.meter := by
  induction run generalizing c with
  | nil => exact Meter.sawNothing fun _ => rfl
  | cons m rest ih =>
    have first := useSaw c m.1 (within m List.mem_cons_self)
    exact first.trans (ih (c.use m.1 m.2) fun m' later => within m' (List.mem_cons_of_mem _ later))

/-! What is answered to a read that is counted. -/

inductive Answered (c : Coordinator τ) (now : τ) (key : String) : List Look → Except Fault Answer → Prop where
  | barred (f : Fault) : Answered c now key [] (.error f)
  | refused (k : Look) (f : Fault) (refuses : ∀ most, ¬ c.store.meter.sink.Takes most) :
      Answered c now key [k] (.error f)
  | hit {e : Entry τ} (stored : c.store.entries.get? key = some e) (lasts : e.isExpired now = false) :
      Answered c now key [.hit] (.ok (.served e.data none))
  | staleHit {e : Entry τ} (refresh : Option Nat) (stored : c.store.entries.get? key = some e)
      (expired : e.isExpired now = true) : Answered c now key [.staleHit] (.ok (.served e.data refresh))
  | miss (task : Nat) (opened : Bool) : Answered c now key [.miss] (.ok (.waits task opened))

theorem recordRefused {k : Look} {m : Meter τ} {f : Fault} (failed : (k.record key m).1 = .error f) (most : Nat) :
    ¬ m.sink.Takes most := fun takes => by
  cases failed.symm.trans (Meter.recordTaken k key takes)

theorem shareAnswers (c₁ : Coordinator τ) (caller : String) (r : Request τ) (tags : List Tag) :
    Answered c now key [.miss] (share caller key r tags c₁).1 := by
  rw [share,Op.bind_ok (show Op.read c₁ = (.ok c₁,c₁) from rfl)]
  cases c₁.slots.get? key with
  | some task => exact .miss task false
  | none => exact .miss c₁.nextTask true

theorem serveStaleAnswers {e : Entry τ} (stored : c.store.entries.get? key = some e) (expired : e.isExpired now = true)
    (c₁ : Coordinator τ) (r : Request τ) (given : Option (List Tag)) :
    Answered c now key [.staleHit] (serveStale now r given ⟨key,true,e⟩ c₁).1 := by
  have marked : Op.change (fun c : Coordinator τ => c.markStale now key) c₁ = (.ok (),c₁.markStale now key) := rfl
  rw [serveStale,Op.bind_apply,schedule,Op.bind_ok marked,Op.bind_ok (show Op.read _ = (.ok _,_) from rfl)]
  by_cases registered : (c₁.markStale now key).isRefreshing key
  · rw [if_pos registered]
    exact .staleHit none stored expired
  · rw [if_neg registered]
    exact .staleHit (some _) stored expired

theorem countedAnswers {k : Look} (l : Limiter τ) {rest : Op (Coordinator τ) Answer}
    (answers : ∀ m, Answered c now key [k] (rest (c.counted l m)).1) : Answered c now key [k]
      ((metered (k.record key) >>= fun _ => rest) (c.counted l c.store.meter)).1 := by
  have ran : metered (k.record key) (c.counted l c.store.meter) =
    ((k.record key c.store.meter).1,c.counted l (k.record key c.store.meter).2) := rfl
  rw [Op.bind_apply,ran]
  cases told : (k.record key c.store.meter).1 with
  | error f => exact .refused k f (recordRefused told)
  | ok u => exact answers _

theorem freshAnswers (admitted : c.store.gate.admitKey (.str key) = .ok key) (given : Option (List Tag)) :
    Answered c now key ((c.store.reached now (.str key)).toList.map (c.store.freshLook now))
      (lookUpFresh now caller key r given c).1 := by
  cases reached : c.store.reached now (.str key) with
  | none =>
    obtain ⟨f,l,failed⟩ := @freshBarred τ _ c now caller key r reached given
    rw [failed]
    exact .barred f
  | some k =>
    cases admitted.symm.trans (Store.reachedSome reached).1
    obtain ⟨l,counts⟩ := @freshCounts τ _ c now caller key r key reached given
    rw [counts]
    refine countedAnswers l fun m => ?_
    unfold Store.freshLook
    cases stored : c.store.entries.get? key with
    | none => exact shareAnswers _ caller r _
    | some e =>
      cases expired : e.isExpired now with
      | true =>
        simp only [Option.filter_some,expired]
        exact shareAnswers _ caller r _
      | false =>
        simp only [Option.filter_some,expired]
        exact .hit stored expired

theorem tolerantAnswers (admitted : c.store.gate.admitKey (.str key) = .ok key) (given : Option (List Tag)) :
    Answered c now key ((c.store.reached now (.str key)).toList.map (c.store.staleLook now))
      (lookUpTolerant now caller key r given c).1 := by
  cases reached : c.store.reached now (.str key) with
  | none =>
    obtain ⟨f,l,refused⟩ := Store.reachedNone reached
    have ran : inStore (Store.getStale now (.str key)) c = (.error f,c.counted l c.store.meter) := by
      rw [inStore,Op.within,Store.getStale,Op.bind_error refused]
      rfl
    rw [lookUpTolerant,readStale,Op.bind_error (Op.bind_error ran)]
    exact .barred f
  | some k =>
    cases admitted.symm.trans (Store.reachedSome reached).1
    obtain ⟨l,found⟩ := Store.getStaleEnds reached
    have ran : inStore (Store.getStale now (.str key)) c =
        (((c.store.staleLook now key).record key c.store.meter).1.map fun _ =>
          (c.store.entries.get? key).map fun e => ⟨key,e.isExpired now,e⟩,
          c.counted l ((c.store.staleLook now key).record key c.store.meter).2) := by
      rw [inStore,Op.within,found]
      rfl
    rw [Option.toList_some,List.map_singleton]
    cases told : ((c.store.staleLook now key).record key c.store.meter).1 with
    | error f =>
      rw [told] at ran
      rw [lookUpTolerant,readStale,Op.bind_error (Op.bind_error ran)]
      exact .refused _ f (recordRefused told)
    | ok u =>
      rw [told] at ran
      generalize ((c.store.staleLook now key).record key c.store.meter).2 = m at ran
      rw [lookUpTolerant,Op.bind_apply,readStale,Op.bind_apply,ran,Store.staleLook]
      cases stored : c.store.entries.get? key with
      | none => exact shareAnswers (c.counted l m) caller r (given.getD [])
      | some e =>
        cases expired : e.isExpired now with
        | false =>
          simp only [Except.map,Option.map_some,expired]
          exact .hit stored expired
        | true =>
          simp only [Except.map,Option.map_some,expired]
          exact serveStaleAnswers stored expired ((c.counted l m).markStale now key) r given

theorem answerAnswers (admitted : c.store.gate.admitKey (.str key) = .ok key) (tags : Option (List Tag)) :
    Answered c now key (c.readLooks now key r) (answer now caller key r tags c).1 := by
  unfold answer readLooks
  split
  · rw [Op.bind_ok (show Op.read c = (.ok c,c) from rfl)]
    split
    · exact tolerantAnswers admitted tags
    · exact freshAnswers admitted tags
  · exact @countedAnswers τ _ c now key .miss c.store.limiter _ fun _ => shareAnswers _ caller r _

/-! How a request is counted where the sink takes what it is told. -/

theorem bustTaken (admitted : c.store.gate.admitKey (.str key) = .ok key)
    (takes : c.store.meter.sink.Takes c.store.entries.size) (now : τ) : ∃ removed c',
      bust now (.str key) c = (.ok removed,c') ∧ c'.store.meter.sink.Takes c.store.entries.size ∧
      c'.store.limiter = c.store.limiter ∧ c'.store.gate = c.store.gate := by
  obtain ⟨m,gone,still⟩ := Store.deleteTaken now admitted takes (Nat.le_refl _)
  obtain ⟨terms,limiter,-⟩ := Store.removeTerms (s := c.store) key
  have store : ((c.detachFetches fun k _ => k == key).supersede [key] []).2.store = c.store := detachedStore c _ _
  have ran : bust now (.str key) c = (.ok (c.store.remove key).1,
      { ((c.detachFetches fun k _ => k == key).supersede [key] []).2 with
        store := { (c.store.remove key).2 with meter := m } }) := by
    rw [bust,Op.bind_ok (admitKeyPasses admitted)]
    change inStore (Store.delete now (.str key)) ((c.detachFetches fun k _ => k == key).supersede [key] []).2 = _
    rw [inStore,Op.within,store,gone]
  exact ⟨_,_,ran,still,limiter,congrArg Store.Terms.gate terms⟩

/-- A request that may read is counted once: as a hit if unexpired data is answered, as a stale hit if expired data
is, as a miss if it goes on to the fetch. -/
structure Classed (c : Coordinator τ) (now : τ) (caller : String) (raw : Value) (r : Request τ) : Prop where
  counted : c.fetchLooks now raw r ≠ [] ↔ ∃ key, c.store.gate.admitKey raw = .ok key ∧ r.labelled = true ∧
    (r.useCache = true → c.store.limiter.HasRoom now key)
  once : (c.fetchLooks now raw r).length ≤ 1
  hit : c.fetchLooks now raw r = [.hit] ↔ ∃ key, c.store.gate.admitKey raw = .ok key ∧ ∃ e refresh,
    (c.dropped now key r).store.entries.get? key = some e ∧ e.isExpired now = false ∧
      (fetch now caller raw r c).1 = .ok (.served e.data refresh)
  staleHit : c.fetchLooks now raw r = [.staleHit] ↔ ∃ key, c.store.gate.admitKey raw = .ok key ∧ ∃ e refresh,
    (c.dropped now key r).store.entries.get? key = some e ∧ e.isExpired now = true ∧
      (fetch now caller raw r c).1 = .ok (.served e.data refresh)
  miss : c.fetchLooks now raw r = [.miss] ↔
    ∃ task opened, (fetch now caller raw r c).1 = .ok (.waits task opened)

section
variable {looks : List Look} {result : Except Fault Answer} {most : Nat} (answers : Answered c now key looks result)
  (takes : c.store.meter.sink.Takes most)
include answers

theorem Answered.once : looks.length ≤ 1 := by cases answers <;> simp

include takes

theorem Answered.hitIff : looks = [.hit] ↔ ∃ e refresh, c.store.entries.get? key = some e ∧
    e.isExpired now = false ∧ result = .ok (.served e.data refresh) := by
  cases answers with
  | barred f => simp
  | refused k f refuses => exact absurd takes (refuses most)
  | @hit e stored lasts => exact ⟨fun _ => ⟨e,none,stored,lasts,rfl⟩,fun _ => rfl⟩
  | @staleHit e refresh stored expired => simp [stored,expired]
  | miss task opened => simp

theorem Answered.staleHitIff : looks = [.staleHit] ↔ ∃ e refresh, c.store.entries.get? key = some e ∧
    e.isExpired now = true ∧ result = .ok (.served e.data refresh) := by
  cases answers with
  | barred f => simp
  | refused k f refuses => exact absurd takes (refuses most)
  | @hit e stored lasts => simp [stored,lasts]
  | @staleHit e refresh stored expired => exact ⟨fun _ => ⟨e,refresh,stored,expired,rfl⟩,fun _ => rfl⟩
  | miss task opened => simp

theorem Answered.missIff : looks = [.miss] ↔ ∃ task opened, result = .ok (.waits task opened) := by
  cases answers with
  | barred f => simp
  | refused k f refuses => exact absurd takes (refuses most)
  | hit stored lasts => simp
  | staleHit refresh stored expired => simp
  | miss task opened => simp

end

theorem readLooksIff (admitted : c.store.gate.admitKey (.str key) = .ok key) :
    c.readLooks now key r ≠ [] ↔ (r.useCache = true → c.store.limiter.HasRoom now key) := by
  unfold readLooks Store.reached
  rw [admitted]
  cases r.useCache with
  | false => simp
  | true => by_cases room : c.store.limiter.HasRoom now key <;> simp [room]

theorem droppedTaken (admitted : c.store.gate.admitKey (.str key) = .ok key)
    (takes : c.store.meter.sink.Takes c.store.entries.size) (now : τ) (r : Request τ) :
    (c.dropped now key r).store.meter.sink.Takes c.store.entries.size ∧
      (c.dropped now key r).store.limiter = c.store.limiter ∧ (c.dropped now key r).store.gate = c.store.gate := by
  unfold dropped
  split
  · obtain ⟨removed,c',busted,kept⟩ := bustTaken admitted takes now
    rw [busted]
    exact kept
  · exact ⟨takes,rfl,rfl⟩

theorem fetchClassed (c : Coordinator τ) (now : τ) (caller : String) (raw : Value) (r : Request τ)
    (takes : c.store.meter.sink.Takes c.store.entries.size) : c.Classed now caller raw r := by
  -- where the sink takes what it is told, dropping the key does not fail, so only its key or tags stop a request
  rcases fetchEnds c now caller raw r with
    ⟨none,⟨f,c',failed,-⟩,early⟩ | ⟨key,tags,admitted,labelled,-,same,reads⟩
  · have refused : (fetch now caller raw r c).1 = .error f := congrArg Prod.fst failed
    refine ⟨?_,?_,?_,?_,?_⟩
    · constructor
      · exact fun counted => absurd none counted
      · rintro ⟨key,admitted,labelled,-⟩
        obtain ⟨f,fails⟩ := early key admitted labelled
        obtain ⟨removed,c',busted,-⟩ := bustTaken (Key.sanitizeAgain admitted).2 takes now
        rw [busted] at fails
        cases fails
    · rw [none]
      exact Nat.zero_le _
    all_goals rw [none,refused]; simp
  · have again := (Key.sanitizeAgain admitted).2
    obtain ⟨taken,limiter,gate⟩ := droppedTaken again takes now r
    have answers := @answerAnswers τ _ (c.dropped now key r) now caller key r (gate.symm ▸ again) tags
    have counted := @readLooksIff τ _ (c.dropped now key r) now key r (gate.symm ▸ again)
    rw [limiter] at counted
    rw [← same] at counted
    rw [← same,← reads] at answers
    refine ⟨?_,answers.once,?_,?_,answers.missIff taken⟩
    · rw [counted]
      simp only [admitted,labelled,Except.ok.injEq,exists_eq_left',true_and]
    · rw [answers.hitIff taken]
      simp only [admitted,Except.ok.injEq,exists_eq_left']
    · rw [answers.staleHitIff taken]
      simp only [admitted,Except.ok.injEq,exists_eq_left']

/-- In every run the counts of look-ups grow by those of the run, each in its class, and by nothing else. Where the
sink takes what it is told, a request is counted by what it is answered. -/
theorem lookupsCounted (start : Coordinator τ) {run : List (τ × Use τ)}
    (within : ∀ m ∈ run, m.2.Within (Meter.Saw [])) :
    let c := start.used run
    (∀ k : Look, k.count c.store.meter = k.count start.store.meter + (start.runLooks run).count k) ∧
      c.store.meter.lookups = start.store.meter.lookups + (start.runLooks run).length ∧
      ∀ now caller raw r, c.store.meter.sink.Takes c.store.entries.size → c.Classed now caller raw r := by
  intro c
  have saw := usedSaw start within
  exact ⟨saw,saw.lookups,fetchClassed c⟩

def lookedDay : List (Number × Use Number) := [
  (.whole 1000,.step (.set (.str "k") (.int 1) (.none Number))),
  (.whole 1001,.step (.fetch "u" (.str "k") openRequest)),(.whole 1100,.step (.fetch "u" (.str "k") openRequest)),
  (.whole 1100,.errand (.getBatch [.str "k",.str "z",.str "far too long",.str "k"])),
  (.whole 1101,.errand (.getStale (.str "k"))),(.whole 1101,.step (.begin 0)),
  (.whole 1102,.step (.advance 0 (.returned (.int 2)))),(.whole 1103,.step (.get (.str "k"))),
  (.whole 1104,.step (.fetch "u" (.str "k") { openRequest with bustCache := true })),(.whole 1104,.step (.begin 1)),
  (.whole 1105,.step (.advance 1 (.returned (.int 3))))]

theorem lookedDayCounted :
    let c := narrowCache.used lookedDay
    (∀ m ∈ lookedDay, m.2.Within (Meter.Saw [])) ∧
      narrowCache.runLooks lookedDay = [.hit,.staleHit,.miss,.miss,.staleHit,.hit,.miss] ∧
      (∀ k : Look, k.count c.store.meter = k.count narrowCache.store.meter +
        [Look.hit,.staleHit,.miss,.miss,.staleHit,.hit,.miss].count k) ∧
      c.store.meter.lookups = narrowCache.store.meter.lookups + 7 ∧
      c.store.meter.sink.Takes c.store.entries.size ∧ c.Classed (.whole 1106) "v" (.str "k") openRequest := by
  intro c
  have within : ∀ m ∈ lookedDay, m.2.Within (Meter.Saw []) := by simp [lookedDay,Use.Within]
  have looks : narrowCache.runLooks lookedDay = [.hit,.staleHit,.miss,.miss,.staleHit,.hit,.miss] := rfl
  have sink : c.store.meter.sink = .journal := rfl
  have takes (most : Nat) : (Sink.journal : Sink Number).Takes most := trivial
  obtain ⟨counts,sum,classed⟩ := lookupsCounted narrowCache within
  rw [looks] at counts sum
  rw [← sink] at takes
  exact ⟨within,looks,counts,sum,takes _,classed (.whole 1106) "v" (.str "k") openRequest (takes _)⟩

/-! A sink that refuses what it is told. -/

def refusingCache : Coordinator Number :=
  create { Store.narrowStore with meter := { Store.narrowStore.meter with sink := .refusing } }
    ⟨1,.whole 60,.whole 10,.whole 40⟩ ⟨⟨0,.whole 0,.whole 0,.whole 0,none⟩,none,fun low _ => low⟩ true false

/-- A request that drops its key first fails there and is not counted; one that does not is counted as a hit and gets
nothing. -/
theorem refusedUncounted :
    let c := refusingCache.used [(.whole 1000,.step (.set (.str "k") (.int 1) (.none Number)))]
    let dropping : Request Number := { openRequest with bustCache := true }
    c.store.gate.admitKey (.str "k") = .ok "k" ∧ c.store.limiter.HasRoom (.whole 1001) "k" ∧
      c.store.meter.lookups = 0 ∧ (c.step (.whole 1001) (.fetch "u" (.str "k") dropping)).store.meter.lookups = 0 ∧
      (c.step (.whole 1001) (.fetch "u" (.str "k") openRequest)).store.meter.hits = 1 ∧
      (fetch (.whole 1001) "u" (.str "k") openRequest c).1 = .error (.of .noDestination) :=
  ⟨rfl,by decide,rfl,rfl,rfl,rfl⟩

end Coordinator

end ReadThrough
