import ReadThrough.Proofs.Purge
import ReadThrough.Proofs.Tally

/-! How a read through the cache ends: it fails, it is answered from an entry, fresh or stale, or it waits
for a fetch. Each ending names the entry, the refresh or the fetch it is about, and all that the read has
changed. -/
namespace ReadThrough
open Relation
variable {τ : Type}

namespace Meter

def answered (m : Meter τ) : Int × Int := (m.hits,m.staleHits)

variable [Quantity τ]

theorem reportAnswered (e : Event) (m : Meter τ) : (report e m).2.answered = m.answered :=
  (congrArg answered (reportBare e m) : (report e m).2.bare.answered = m.bare.answered)

theorem hitAnswered (key : String) (m : Meter τ) :
    (recordHit key m).2.answered = (m.hits + 1,m.staleHits) :=
  reportAnswered (.hit key) { m with hits := m.hits + 1 }

theorem staleHitAnswered (key : String) (m : Meter τ) :
    (recordStaleHit key m).2.answered = (m.hits,m.staleHits + 1) :=
  reportAnswered (.staleHit key) { m with staleHits := m.staleHits + 1 }

end Meter

namespace Store
variable [Quantity τ] {s : Store τ} {now : τ} {raw : Value} {key : String}

omit [Quantity τ] in
theorem meteredPure {α : Type} (x : Op (Meter τ) Unit) (a : α) (s : Store τ) :
    (metered x >>= fun _ => pure a) s = ((x s.meter).1.map fun _ => a,{ s with meter := (x s.meter).2 }) := by
  rw [Op.bind_apply,metered,Op.within]
  cases x s.meter with
  | mk r m => cases r <;> rfl

inductive Looked (s : Store τ) (now : τ) (key : String) :
    Except Fault (Option (Lookup τ)) × Store τ → Prop where
  | failed (f : Fault) (l : Limiter τ) (m : Meter τ) :
      Looked s now key (.error f,{ s with limiter := l, meter := m })
  | absent (l : Limiter τ) (m : Meter τ) (missing : s.entries.get? key = none) :
      Looked s now key (.ok none,{ s with limiter := l, meter := m })
  | fresh {e : Entry τ} (l : Limiter τ) (m : Meter τ) (stored : s.entries.get? key = some e)
      (lasts : e.isExpired now = false) (counted : m.answered = (s.meter.hits + 1,s.meter.staleHits)) :
      Looked s now key (.ok (some ⟨key,false,e⟩),{ s with limiter := l, meter := m })
  | stale {e : Entry τ} (l : Limiter τ) (m : Meter τ) (stored : s.entries.get? key = some e)
      (expired : e.isExpired now = true) (counted : m.answered = (s.meter.hits,s.meter.staleHits + 1)) :
      Looked s now key (.ok (some ⟨key,true,e⟩),{ s with limiter := l, meter := m })

theorem getStaleLooks (admitted : s.gate.admitKey raw = .ok key) : Looked s now key (getStale now raw s) := by
  rw [getStale,Op.bind_apply]
  obtain ⟨l,after⟩ := accessAfter now raw s
  cases accessed : accessKey now raw s with
  | mk result s₁ =>
    rw [accessed] at after
    dsimp only at after
    subst after
    cases result with
    | error f => exact .failed f l s.meter
    | ok k =>
      cases admitted.symm.trans (accessKeyOk accessed).1
      dsimp only
      rw [Op.bind_ok (show Op.read _ = (.ok _,_) from rfl)]
      cases stored : s.entries.get? key with
      | none =>
        simp only [meteredPure]
        cases (Meter.recordMiss key s.meter).1 with
        | error f => exact .failed f l _
        | ok u => exact .absent l _ stored
      | some e =>
        cases expired : e.isExpired now with
        | true =>
          simp only [expired,if_true,meteredPure]
          have counted := Meter.staleHitAnswered key s.meter
          cases (Meter.recordStaleHit key s.meter).1 with
          | error f => exact .failed f l _
          | ok u => exact .stale l _ stored expired counted
        | false =>
          simp only [expired,Bool.false_eq_true,if_false,meteredPure]
          have counted := Meter.hitAnswered key s.meter
          cases (Meter.recordHit key s.meter).1 with
          | error f => exact .failed f l _
          | ok u => exact .fresh l _ stored expired counted

theorem getEntryCases (now : τ) (admitted : s.gate.admitKey raw = .ok key) :
    ∃ l, (∃ f, getEntry now raw s = (.error f,{ s with limiter := l })) ∨
      getEntry now raw s = (.ok (s.entries.get? key),{ s with limiter := l }) := by
  obtain ⟨l,after⟩ := accessAfter now raw s
  refine ⟨l,?_⟩
  cases accessed : accessKey now raw s with
  | mk result s₁ =>
    rw [accessed] at after
    dsimp only at after
    subst after
    cases result with
    | error f => exact .inl ⟨f,Op.bind_error accessed⟩
    | ok k =>
      cases admitted.symm.trans (accessKeyOk accessed).1
      exact .inr (Op.bind_ok accessed)

theorem getServed {v : Value} {s' : Store τ} (done : get now raw s = (.ok (some v),s')) :
    ∃ key e l m, s.gate.admitKey raw = .ok key ∧ s.entries.get? key = some e ∧ e.data = v ∧
      e.isExpired now = false ∧ m.answered = (s.meter.hits + 1,s.meter.staleHits) ∧
      s' = { s with limiter := l, meter := m } := by
  obtain ⟨key,s₁,first,rest⟩ := Op.bindOk done
  obtain ⟨admitted,l,rfl⟩ := accessKeyOk first
  obtain ⟨s₂,s₃,read,rest⟩ := Op.bindOk rest
  cases read
  cases stored : s.entries.get? key with
  | none =>
    simp only [stored] at rest
    obtain ⟨_,_,-,last⟩ := Op.bindOk rest
    cases last
  | some e =>
    simp only [stored] at rest
    split at rest
    · obtain ⟨_,_,-,last⟩ := Op.bindOk rest
      cases last
    · rename_i lasts
      rw [meteredPure] at rest
      have counted := Meter.hitAnswered key s.meter
      cases told : (Meter.recordHit key s.meter).1 with
      | error f =>
        rw [told] at rest
        cases rest
      | ok u =>
        rw [told] at rest
        cases rest
        exact ⟨key,e,l,_,admitted,stored,rfl,by simpa using lasts,counted,rfl⟩

end Store

namespace Coordinator

def counted (c : Coordinator τ) (l : Limiter τ) (m : Meter τ) : Coordinator τ :=
  { c with store := { c.store with limiter := l, meter := m } }

theorem meteredThen {α : Type} (x : Op (Meter τ) Unit) (rest : Op (Coordinator τ) α) (c : Coordinator τ) :
    (∃ f m, (metered x >>= fun _ => rest) c = (.error f,c.counted c.store.limiter m)) ∨
      (metered x >>= fun _ => rest) c = rest (c.counted c.store.limiter (x c.store.meter).2) := by
  have ran : metered x c = ((x c.store.meter).1,c.counted c.store.limiter (x c.store.meter).2) := rfl
  rw [Op.bind_apply,ran]
  cases (x c.store.meter).1 with
  | error f => exact .inl ⟨f,_,rfl⟩
  | ok u => exact .inr rfl

theorem markStaleTwice (c : Coordinator τ) (now : τ) (key : String) :
    (c.markStale now key).markStale now key = c.markStale now key := by
  have queued : (c.markStale now key).queue.has key = true := by
    unfold markStale
    split
    · assumption
    · simp [Assoc.has,Assoc.get?_put]
  rw [markStale,if_pos queued]

theorem markStaleQueues (c : Coordinator τ) (now : τ) (key : String) :
    ∃ q, c.markStale now key = { c with queue := q } := by
  unfold markStale
  split <;> exact ⟨_,rfl⟩

def Request.renewal (r : Request τ) (key : String) (tags : List Tag) (e : Entry τ) : Task τ :=
  ⟨.refresh,key,r.supplier,some (r.ttl.getD e.ttl),tags,r.version.orElse fun _ => e.version,r.endpoint,
    false,none⟩

variable [Quantity τ]

/-- How a read of a key ends, once key and tags are in order and the key was dropped where the request
asks for it. A stale answer leaves a refresh registered: one that the read starts, or one that it finds. -/
inductive Reads (c : Coordinator τ) (now : τ) (caller key : String) (r : Request τ) :
    Except Fault Answer × Coordinator τ → Prop where
  | failed (f : Fault) (l : Limiter τ) (m : Meter τ) : Reads c now caller key r (.error f,c.counted l m)
  | fresh {e : Entry τ} (l : Limiter τ) (m : Meter τ) (stored : c.store.entries.get? key = some e)
      (lasts : e.isExpired now = false)
      (counted : m.answered = (c.store.meter.hits + 1,c.store.meter.staleHits)) :
      Reads c now caller key r (.ok (.served e.data none),c.counted l m)
  | behind {e : Entry τ} (l : Limiter τ) (m : Meter τ) (stored : c.store.entries.get? key = some e)
      (expired : e.isExpired now = true)
      (counted : m.answered = (c.store.meter.hits,c.store.meter.staleHits + 1))
      (tolerates : c.toleratesStale = true) (registered : c.isRefreshing key = true) :
      Reads c now caller key r (.ok (.served e.data none),(c.counted l m).markStale now key)
  | renewing {e : Entry τ} (l : Limiter τ) (m : Meter τ) (tags : List Tag)
      (stored : c.store.entries.get? key = some e) (expired : e.isExpired now = true)
      (counted : m.answered = (c.store.meter.hits,c.store.meter.staleHits + 1))
      (tolerates : c.toleratesStale = true) (free : c.isRefreshing key = false) :
      Reads c now caller key r (.ok (.served e.data (some c.nextTask)),
        { (c.counted l m).markStale now key with
          tasks := c.tasks.put c.nextTask (Request.renewal r key tags e), nextTask := c.nextTask + 1,
          refreshing := c.refreshing.put key c.nextTask })
  | joined {n : Nat} (l : Limiter τ) (m : Meter τ) (slot : c.slots.get? key = some n) :
      Reads c now caller key r
        (.ok (.waits n false),{ c.counted l m with waiting := c.waiting.put caller n })
  | opened (l : Limiter τ) (m : Meter τ) (tags : List Tag) (free : c.slots.get? key = none) :
      Reads c now caller key r (.ok (.waits c.nextTask true),
        { c.counted l m with
          tasks := c.tasks.put c.nextTask
            ⟨.fetch,key,r.supplier,r.ttl,tags,r.version,r.endpoint,false,none⟩,
          nextTask := c.nextTask + 1, slots := c.slots.put key c.nextTask,
          waiting := c.waiting.put caller c.nextTask })

variable {c c' : Coordinator τ} {now : τ} {caller key : String} {r : Request τ}

theorem shareReads (l : Limiter τ) (m : Meter τ) (tags : List Tag) :
    Reads c now caller key r (share caller key r tags (c.counted l m)) := by
  rw [share,Op.bind_ok (show Op.read _ = (.ok _,_) from rfl)]
  cases slot : (c.counted l m).slots.get? key with
  | some n => exact .joined l m slot
  | none => exact .opened l m tags slot

theorem missReads (l : Limiter τ) (m : Meter τ) (tags : List Tag) : Reads c now caller key r
    ((metered (Meter.recordMiss key) >>= fun _ => share caller key r tags) (c.counted l m)) := by
  rcases meteredThen (Meter.recordMiss key) (share caller key r tags) (c.counted l m) with ⟨f,m',failed⟩ | went
  · rw [failed]
    exact .failed f l m'
  · rw [went]
    exact shareReads l _ tags

theorem staleReads {e : Entry τ} (l : Limiter τ) (m : Meter τ) (given : Option (List Tag))
    (stored : c.store.entries.get? key = some e) (expired : e.isExpired now = true)
    (counted : m.answered = (c.store.meter.hits,c.store.meter.staleHits + 1))
    (tolerates : c.toleratesStale = true) :
    Reads c now caller key r (serveStale now r given ⟨key,true,e⟩ ((c.counted l m).markStale now key)) := by
  have marked : Op.change (fun c : Coordinator τ => c.markStale now key) ((c.counted l m).markStale now key) =
      (.ok (),(c.counted l m).markStale now key) := by
    rw [Op.change,markStaleTwice]
  have same : ((c.counted l m).markStale now key).isRefreshing key = c.isRefreshing key ∧
      ((c.counted l m).markStale now key).refreshing = c.refreshing ∧
      ((c.counted l m).markStale now key).tasks = c.tasks ∧
      ((c.counted l m).markStale now key).nextTask = c.nextTask := by
    obtain ⟨q,queued⟩ := (c.counted l m).markStaleQueues now key
    rw [queued]
    exact ⟨rfl,rfl,rfl,rfl⟩
  rw [serveStale,Op.bind_apply,schedule,Op.bind_ok marked,Op.bind_ok (show Op.read _ = (.ok _,_) from rfl)]
  obtain ⟨busy,refreshing,tasks,next⟩ := same
  cases free : c.isRefreshing key with
  | true =>
    rw [if_pos (busy.trans free)]
    exact .behind l m stored expired counted tolerates free
  | false =>
    rw [if_neg (by simp [busy,free])]
    have renewing : Reads c now caller key r _ :=
      .renewing l m (given.getD e.tags) stored expired counted tolerates free
    rw [← refreshing,← tasks,← next] at renewing
    exact renewing

theorem tolerantReads (admitted : c.store.gate.admitKey (.str key) = .ok key)
    (tolerates : c.toleratesStale = true) (given : Option (List Tag)) :
    Reads c now caller key r (lookUpTolerant now caller key r given c) := by
  have looked : Store.Looked c.store now key _ := Store.getStaleLooks admitted
  have ran : inStore (Store.getStale now (.str key)) c = ((Store.getStale now (.str key) c.store).1,
    { c with store := (Store.getStale now (.str key) c.store).2 }) := rfl
  rw [lookUpTolerant,Op.bind_apply,readStale,Op.bind_apply,ran]
  generalize Store.getStale now (.str key) c.store = x at looked
  cases looked with
  | failed f l m => exact .failed f l m
  | absent l m missing => exact shareReads l m _
  | fresh l m stored lasts counted => exact .fresh l m stored lasts counted
  | stale l m stored expired counted => exact staleReads l m given stored expired counted tolerates

theorem freshReads (admitted : c.store.gate.admitKey (.str key) = .ok key) (given : Option (List Tag)) :
    Reads c now caller key r (lookUpFresh now caller key r given c) := by
  obtain ⟨l,⟨f,failed⟩ | found⟩ := Store.getEntryCases now admitted
  · have ran : inStore (Store.getEntry now (.str key)) c = (.error f,c.counted l c.store.meter) := by
      rw [inStore,Op.within,failed]
      rfl
    rw [lookUpFresh,Op.bind_error ran]
    exact .failed f l _
  · have ran : inStore (Store.getEntry now (.str key)) c =
        (.ok (c.store.entries.get? key),c.counted l c.store.meter) := by
      rw [inStore,Op.within,found]
      rfl
    rw [lookUpFresh,Op.bind_ok ran]
    cases stored : c.store.entries.get? key with
    | none => exact missReads l _ _
    | some e =>
      dsimp only
      cases lasts : e.isExpired now with
      | true => exact missReads l _ _
      | false =>
        have counted := Meter.hitAnswered key c.store.meter
        rw [if_neg Bool.false_ne_true]
        rcases meteredThen (Meter.recordHit key) (pure (Answer.served e.data none))
          (c.counted l c.store.meter) with ⟨f,m,failed⟩ | went
        · rw [failed]
          exact .failed f l m
        · rw [went]
          exact .fresh l _ stored lasts counted

theorem fetchReads (now : τ) (caller : String) (raw : Value) (r : Request τ) (c : Coordinator τ) :
    (∃ f, fetch now caller raw r c = (.error f,c)) ∨
      ∃ key, c.store.gate.admitKey raw = .ok key ∧
        ((∃ f, fetch now caller raw r c = (.error f,(bust now (.str key) c).2) ∧ r.bustCache = true) ∨
          Reads (if r.bustCache then (bust now (.str key) c).2 else c) now caller key r
            (fetch now caller raw r c)) := by
  cases admitted : c.store.gate.admitKey raw with
  | error why =>
    rw [fetch,Op.bind_error (admitKeyRefuses admitted)]
    exact .inl ⟨_,rfl⟩
  | ok key =>
    have again := (Key.sanitizeAgain admitted).2
    rw [fetch,Op.bind_ok (admitKeyPasses admitted)]
    rcases requestTagsCases r c with ⟨why,f,given,failed⟩ | ⟨tags,passed⟩
    · rw [Op.bind_error failed]
      exact .inl ⟨_,rfl⟩
    refine .inr ⟨key,rfl,?_⟩
    rw [Op.bind_ok passed]
    -- the same read follows whether the key is dropped first or not
    have looks (c : Coordinator τ) (admitted : c.store.gate.admitKey (.str key) = .ok key) :
        Reads c now caller key r ((do
          if r.useCache then
            if (← Op.read).toleratesStale then lookUpTolerant now caller key r tags
            else lookUpFresh now caller key r tags
          else
            metered (Meter.recordMiss key)
            share caller key r (tags.getD []) : Op (Coordinator τ) Answer) c) := by
      split
      · rw [Op.bind_ok (show Op.read c = (.ok c,c) from rfl)]
        split
        · rename_i tolerates
          exact tolerantReads admitted tolerates tags
        · exact freshReads admitted tags
      · exact missReads c.store.limiter c.store.meter _
    dsimp only
    split
    · rename_i busts
      have gate := Store.chainGate (bustStore now (.str key) c)
      cases busted : bust now (.str key) c with
      | mk result c₁ =>
        rw [busted] at gate
        cases result with
        | error f =>
          rw [Op.bind_error busted]
          exact .inl ⟨f,rfl,busts⟩
        | ok removed =>
          rw [Op.bind_ok busted]
          exact .inr (looks c₁ (gate.symm ▸ again))
    · exact .inr (looks c again)

theorem bustAfter (now : τ) {raw : Value} (admitted : c.store.gate.admitKey raw = .ok key) :
    (bust now raw c).2 = (inStore (Store.delete now (.str key))
      ((c.detachFetches fun k _ => k == key).supersede [key] []).2).2 := by
  rw [bust,Op.bind_ok (admitKeyPasses admitted)]
  rfl

theorem bustGone (now : τ) {raw : Value} (admitted : c.store.gate.admitKey raw = .ok key) :
    (bust now raw c).2.store.entries.get? key = none := by
  refine Option.eq_none_iff_forall_ne_some.mpr fun e found => ?_
  rw [bustAfter now admitted,inStoreAfter] at found
  dsimp only at found
  rw [supersede,detachedStore] at found
  exact (Store.deleteGet (Key.sanitizeAgain admitted).2 found).1 rfl

theorem fetchServed {raw : Value} {v : Value} {refresh : Option Nat}
    (done : fetch now caller raw r c = (.ok (.served v refresh),c')) :
    ∃ key, c.store.gate.admitKey raw = .ok key ∧ Reads c now caller key r (.ok (.served v refresh),c') := by
  rcases fetchReads now caller raw r c with ⟨f,refused⟩ | ⟨key,admitted,⟨f,failed,-⟩ | reads⟩
  · cases refused.symm.trans done
  · cases failed.symm.trans done
  · rw [done] at reads
    refine ⟨key,admitted,?_⟩
    split at reads
    · have gone := bustGone (c := c) now (Key.sanitizeAgain admitted).2
      cases reads with
      | fresh l m stored => cases gone.symm.trans stored
      | behind l m stored => cases gone.symm.trans stored
      | renewing l m tags stored => cases gone.symm.trans stored
    · exact reads

def brief : Options Number := { Options.none Number with ttl := some (.whole 1) }

end Coordinator

end ReadThrough
