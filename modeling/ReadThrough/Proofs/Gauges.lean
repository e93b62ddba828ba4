import ReadThrough.Proofs.Records
import ReadThrough.Proofs.Wholes

/-! The exported samples and the counters. The two are kept by different code, but each record of a cache moves
them alike, so as long as amounts add up and are set exactly a monitoring system reads what the meter counts. -/
namespace ReadThrough
open Relation
variable {τ : Type}

structure Quantity.Tallies (τ : Type) [Quantity τ] (most : Nat) : Prop where
  zero : (Quantity.zero : τ) = Quantity.ofInt 0
  add : ∀ a b : Int, (Quantity.ofInt a + Quantity.ofInt b : τ) = Quantity.ofInt (a + b)
  whole : ∀ n : Int, (Quantity.ofNumber (.whole n) : τ) = Quantity.ofInt n
  gauge : ∀ n : Nat, n ≤ most →
    ∃ r, (Value.int n).amount = .ok r ∧ (Quantity.ofNumber (.real r) : τ) = Quantity.ofInt n

inductive Tally where
  | hits
  | staleHits
  | misses
  | evictions
  | invalidations
  | revalidations

namespace Tally

def name : Tally → String
  | hits => "hit"
  | staleHits => "stale_hit"
  | misses => "miss"
  | evictions => "eviction"
  | invalidations => "invalidation"
  | revalidations => "revalidation"

def count (m : Meter τ) : Tally → Int
  | hits => m.hits
  | staleHits => m.staleHits
  | misses => m.misses
  | evictions => m.evictions
  | invalidations => m.invalidations
  | revalidations => m.revalidations + m.revalidationFailures

def isLookup (t : Tally) : Prop := t.name ∈ Exposition.lookupNames

instance (t : Tally) : Decidable t.isLookup := inferInstanceAs (Decidable (_ ∈ _))

end Tally

namespace Exposition
variable [Quantity τ]

def reading (x : Exposition τ) (name : String) (labels : List (String × String)) : τ :=
  ((x.samples.find? fun s => s.name == name && s.labels == labels).map (·.value)).getD Quantity.zero

def tallyRead (x : Exposition τ) (t : Tally) : τ :=
  if t.isLookup then x.reading "ledger_cache_lookups_total" [("result",t.name)]
  else x.reading "ledger_cache_events_total" [("event",t.name)]

def entriesRead (x : Exposition τ) : τ := x.reading "ledger_cache_entries" []

def counter (counters : Assoc String τ) (name : String) : τ := (counters.get? name).getD Quantity.zero

def tally (x : Exposition τ) (t : Tally) : τ :=
  if t.isLookup then counter x.lookups t.name else counter x.events t.name

/-! Samples are the counters. -/

omit [Quantity τ] in
theorem readFamily (name label key : String) (entries : List (String × τ)) :
    ((entries.map fun (k,v) => (⟨name,[(label,k)],v⟩ : Sample τ)).find? fun s =>
      s.name == name && s.labels == [(label,key)]).map (·.value) = Assoc.find key entries := by
  induction entries with
  | nil => rfl
  | cons e rest ih =>
    obtain ⟨k,v⟩ := e
    by_cases same : k = key
    · subst same
      simp [Assoc.find]
    · simpa [Assoc.find,same] using ih

omit [Quantity τ] in
theorem readOther {name other : String} (apart : other ≠ name) (label : String) (labels : List (String × String))
    (entries : List (String × τ)) : ((entries.map fun (k,v) => (⟨other,[(label,k)],v⟩ : Sample τ)).find? fun s =>
      s.name == name && s.labels == labels) = none := by
  simp [apart]

theorem readTally (x : Exposition τ) (t : Tally) : x.tallyRead t = x.tally t := by
  have gauge {name : String} (apart : "ledger_cache_entries" ≠ name) (labels : List (String × String)) :
      ([⟨"ledger_cache_entries",[],x.entries⟩] : List (Sample τ)).find? (fun s =>
        s.name == name && s.labels == labels) = none := by simp [apart]
  unfold tallyRead tally reading samples
  rw [List.find?_append,List.find?_append,List.find?_append,List.find?_append,gauge (by decide),gauge (by decide),
    readOther (show "ledger_cache_events_total" ≠ "ledger_cache_lookups_total" by decide),
    readOther (show "ledger_cache_lookups_total" ≠ "ledger_cache_events_total" by decide),
    Option.or_none,Option.or_none,Option.none_or,Option.or_none,readFamily,readFamily]
  rfl

theorem readEntries (x : Exposition τ) : x.entriesRead = x.entries := by
  rw [entriesRead,reading,samples,List.find?_append,List.find?_append,
    readOther (show "ledger_cache_lookups_total" ≠ "ledger_cache_entries" by decide),
    readOther (show "ledger_cache_events_total" ≠ "ledger_cache_entries" by decide)]
  rfl

/-! What a report adds. -/

theorem counterBump (counters : Assoc String τ) (name key : String) (amount : τ) :
    counter (bump counters name amount) key =
      if name = key then counter counters key + amount else counter counters key := by
  rw [counter,bump,Assoc.get?_put]
  split
  · rename_i same
    rw [same]
    rfl
  · rfl

theorem reportTally (x : Exposition τ) {e : Event} {n : Int} (events : e.name ≠ "size")
    (count : (e.field? "count").getD (.int 1) = .int n) (least : 0 ≤ n) (one : e.name ∈ lookupNames → n = 1)
    (still : e.field? "size" = none) (whole : (Quantity.ofNumber (.whole n) : τ) = Quantity.ofInt n) :
    (x.report e).2.entries = x.entries ∧
      ∀ t, (x.report e).2.tally t = if e.name = t.name then x.tally t + Quantity.ofInt n else x.tally t := by
  unfold tally
  by_cases counted : e.name ∈ lookupNames
  · have told : (x.report e).2 = { x with lookups := bump x.lookups e.name (Quantity.ofInt n) } := by
      rw [report,if_pos counted,one counted]
      simp only [still]
    rw [told]
    refine ⟨rfl,fun t => ?_⟩
    by_cases lookup : t.isLookup
    · rw [if_pos lookup,if_pos lookup,counterBump]
    · have apart : e.name ≠ t.name := fun same => lookup (show t.name ∈ lookupNames from same ▸ counted)
      rw [if_neg lookup,if_neg lookup,if_neg apart]
  · have told : (x.report e).2 = { x with events := bump x.events e.name (Quantity.ofInt n) } := by
      rw [report,if_neg counted,if_neg events,count]
      simp only [x.countWhole e.name least,still,whole]
    rw [told]
    refine ⟨rfl,fun t => ?_⟩
    by_cases lookup : t.isLookup
    · have apart : e.name ≠ t.name := fun same => counted (same ▸ lookup)
      rw [if_pos lookup,if_pos lookup,if_neg apart]
    · rw [if_neg lookup,if_neg lookup,counterBump]

theorem reportSized (x : Exposition τ) {n : Int} {r : Float} (read : (Value.int n).amount = .ok r) :
    (x.report (.size n)).2 = { x with entries := Quantity.ofNumber (.real r) } := by
  have gauged : x.gauge (.int n) = (.ok (),{ x with entries := Quantity.ofNumber (.real r) }) := by
    rw [gauge,read]
  change (x.gauge (.int n)).2 = _
  rw [gauged]

end Exposition

namespace Meter
variable [Quantity τ] {most : Nat} {m m' : Meter τ} {x : Exposition τ}

/-- All that is recorded of a cache in use: what it does, what its calls and refreshes report, and the looks that
drop what has left the window. -/
inductive Recorded (most : Nat) (m : Meter τ) : Meter τ → Prop where
  | hit (key : String) : Recorded most m (recordHit key m).2
  | staleHit (key : String) : Recorded most m (recordStaleHit key m).2
  | miss (key : String) : Recorded most m (recordMiss key m).2
  | evicted (now : τ) (key : String) : Recorded most m (recordEviction now key m).2
  | removed (now : τ) (n : Int) (reason : String) : Recorded most m (recordInvalidation now n reason m).2
  | renewed (key : String) (success : Bool) : Recorded most m (recordRevalidation key success m).2
  | sized {n : Nat} (fits : n ≤ most) : Recorded most m (setSize n m).2
  | told {e : Event} (tells : Line.Tells e) : Recorded most m (report e m).2
  | aged (evicted removed : List (τ × Int)) : Recorded most m { m with evicted := evicted, removed := removed }
  | drained : Recorded most m m.drained.2

theorem lookingRecorded : Looking (Recorded (τ := τ) most) :=
  ⟨fun key _ => .hit key,fun key _ => .staleHit key,fun key _ => .miss key⟩

theorem workingRecorded : Working (Recorded (τ := τ) most) :=
  ⟨fun tells _ => .told tells,fun key success _ => .renewed key success⟩

theorem storingRecorded : Storing (· ≤ most) (Recorded (τ := τ) most) :=
  ⟨fun now key _ => .evicted now key,fun now n reason _ => .removed now n reason,fun fits _ => .sized fits⟩

structure Agrees (m : Meter τ) (x : Exposition τ) : Prop where
  tallies : ∀ t : Tally, x.tally t = Quantity.ofInt (t.count m)
  size : x.entries = Quantity.ofInt m.size

def Exported (m : Meter τ) : Prop := ∃ x, m.sink = .exposition x ∧ m.Agrees x

theorem reportExported {e : Event} (kind : m.sink = .exposition x) (agrees : m.Agrees (x.report e).2) :
    (report e m).2.Exported := by
  rw [reportExposed e kind]
  exact ⟨_,rfl,{ agrees with }⟩

variable (exact : Quantity.Tallies τ most)
include exact

theorem exportedTakes (exported : m.Exported) : m.sink.Takes most := by
  obtain ⟨x,kind,-⟩ := exported
  rw [kind]
  intro n fits
  obtain ⟨r,read,-⟩ := exact.gauge n fits
  exact ⟨r,read⟩

theorem countedExported (kind : m.sink = .exposition x) (agrees : m.Agrees x) (e : Event) {n : Int}
    (events : e.name ≠ "size") (count : (e.field? "count").getD (.int 1) = .int n) (least : 0 ≤ n)
    (one : e.name ∈ Exposition.lookupNames → n = 1) (still : e.field? "size" = none) {counted : Meter τ}
    (sink : counted.sink = m.sink) (size : counted.size = m.size)
    (counts : ∀ t : Tally, t.count counted = t.count m + if e.name = t.name then n else 0) :
    (report e counted).2.Exported := by
  obtain ⟨entries,tallies⟩ := x.reportTally events count least one still (exact.whole n)
  refine reportExported (sink.trans kind) ⟨fun t => ?_,?_⟩
  · rw [tallies,counts,agrees.tallies]
    split
    · exact exact.add _ _
    · rw [Int.add_zero]
  · rw [entries,size]
    exact agrees.size

theorem onceExported (kind : m.sink = .exposition x) (agrees : m.Agrees x) (e : Event) (events : e.name ≠ "size")
    (once : (e.field? "count").getD (.int 1) = .int 1) (still : e.field? "size" = none) {counted : Meter τ}
    (sink : counted.sink = m.sink) (size : counted.size = m.size)
    (counts : ∀ t : Tally, t.count counted = t.count m + if e.name = t.name then 1 else 0) :
    (report e counted).2.Exported :=
  countedExported exact kind agrees e events once Int.one_nonneg (fun _ => rfl) still sink size counts

theorem recordedExported (recorded : Recorded most m m') (exported : m.Exported) : m'.Exported := by
  obtain ⟨x,kind,agrees⟩ := exported
  -- each record adds the same to one count of the meter and to the sample of its event
  cases recorded with
  | hit key =>
    refine onceExported exact kind agrees (.hit key) (show "hit" ≠ "size" by decide) rfl rfl rfl rfl fun t => ?_
    cases t <;> simp [Tally.count,Tally.name,Event.name]
  | staleHit key =>
    refine onceExported exact kind agrees (.staleHit key) (show "stale_hit" ≠ "size" by decide) rfl rfl rfl rfl
      fun t => ?_
    cases t <;> simp [Tally.count,Tally.name,Event.name]
  | miss key =>
    refine onceExported exact kind agrees (.miss key) (show "miss" ≠ "size" by decide) rfl rfl rfl rfl fun t => ?_
    cases t <;> simp [Tally.count,Tally.name,Event.name]
  | evicted now key =>
    refine onceExported exact kind agrees (.eviction key) (show "eviction" ≠ "size" by decide) rfl rfl rfl rfl
      fun t => ?_
    cases t <;> simp [Tally.count,Tally.name,Event.name]
  | removed now n reason =>
    unfold recordInvalidation
    split
    · exact ⟨x,kind,agrees⟩
    · refine countedExported exact kind agrees (.invalidation n reason) (show "invalidation" ≠ "size" by decide) rfl
        (by omega) (fun listed => absurd listed (show "invalidation" ∉ Exposition.lookupNames by decide)) rfl rfl rfl
        fun t => ?_
      cases t <;> simp [Tally.count,Tally.name,Event.name]
  | renewed key success =>
    have events : "revalidation" ≠ "size" := by decide
    cases success with
    | true =>
      refine onceExported exact kind agrees (.revalidation key true) events rfl rfl rfl rfl fun t => ?_
      cases t <;> simp [Tally.count,Tally.name,Event.name,Int.add_right_comm]
    | false =>
      refine onceExported exact kind agrees (.revalidation key false) events rfl rfl rfl rfl fun t => ?_
      cases t <;> simp [Tally.count,Tally.name,Event.name,Int.add_assoc]
  | @sized n fits =>
    obtain ⟨r,read,set⟩ := exact.gauge n fits
    refine @reportExported τ _ { m with size := n } x (.size n) kind ?_
    rw [x.reportSized read]
    exact { agrees with size := set }
  | told tells =>
    cases tells with
    | circuit endpoint before after =>
      refine onceExported exact kind agrees (.circuit endpoint before after)
        (show "circuit_state_change" ≠ "size" by decide) rfl rfl rfl rfl fun t => ?_
      cases t <;> simp [Tally.name,Event.name]
    | retry endpoint attempt error delay =>
      refine onceExported exact kind agrees (.retry endpoint attempt error delay)
        (show "upstream_retry" ≠ "size" by decide) rfl rfl rfl rfl fun t => ?_
      cases t <;> simp [Tally.name,Event.name]
  | aged evicted removed => exact ⟨x,kind,{ agrees with }⟩
  | drained => exact ⟨x,kind,{ agrees with }⟩

theorem recordsExported (records : ReflTransGen (Recorded most) m m') (exported : m.Exported) : m'.Exported := by
  induction records with
  | refl => exact exported
  | tail _ last ih => exact recordedExported exact last ih

end Meter

namespace Store
variable [Quantity τ] {most : Nat} {s s' : Store τ}

structure Exports (most : Nat) (s : Store τ) : Prop where
  houses : s.Houses
  room : s.capacity = most
  exported : s.meter.Exported

variable (exact : Quantity.Tallies τ most)
include exact

theorem deedExports (exports : s.Exports most) (done : Deed (Meter.Recorded most) s s') : s'.Exports most := by
  obtain ⟨houses,room,exported⟩ := exports
  have takes : ∀ m, Meter.Recorded most s.meter m → m.sink.Takes s.capacity := fun m noted => by
    rw [room]
    exact Meter.exportedTakes exact (Meter.recordedExported exact noted exported)
  obtain ⟨houses',room'⟩ := deedHouses houses takes done
  obtain ⟨-,records⟩ := deedRecords Meter.storingRecorded Nat.le_trans id done (room ▸ houses.fits)
  exact ⟨houses',room'.trans room,Meter.recordsExported exact records exported⟩

theorem setExports (exports : s.Exports most) (now : τ) (raw data : Value) (o : Options τ) :
    (set now raw data o s).2.Exports most := by
  obtain ⟨houses,room,exported⟩ := exports
  have adds := setAdds houses now raw data o
  have free (l : Limiter τ) (key : String) (s₁ : Store τ) (e : Entry τ)
      (made : makeRoom now key { s with limiter := l } = (.ok (),s₁)) (fits : s₁.entries.size ≤ most) :
      (s₁.entries.put key e).size ≤ most := by
    have limited := (@Houses.still τ s { s with limiter := l } houses rfl rfl rfl).houses
    obtain ⟨s₂,made',adds,same,free⟩ := makeRoomAdds limited now key
    cases made.symm.trans made'
    have room : s₁.capacity = most := adds.room.trans room
    rw [Assoc.putSize,same]
    split
    · exact fits
    · rename_i absent
      exact room ▸ free.resolve_left absent
  obtain ⟨-,records⟩ := setRecords Meter.storingRecorded Nat.le_trans now raw data o free (room ▸ houses.fits)
  exact ⟨adds.houses,adds.room.trans room,Meter.recordsExported exact records exported⟩

theorem trailExports {calls : List (Call τ)} (exports : s.Exports most)
    (trail : Trail (Meter.Recorded most) s calls s') : s'.Exports most := by
  induction trail with
  | start => exact exports
  | deed _ done ih => exact deedExports exact ih done
  | call _ now raw data o ih => exact setExports exact ih now raw data o

end Store
namespace Coordinator
variable [Quantity τ]

/-- In every run of a cache whose meter was new and exported to an empty exposition, what is read there is what the
meter counts. -/
theorem samplesAgree {capacity shown : Int} {ttlFor : String → τ} {gate : Gate} {limiter : Limiter τ} {window : τ}
    {thresholds : Thresholds τ} {store : Store τ} (exact : Quantity.Tallies τ capacity.toNat)
    (made : Store.create capacity ttlFor gate limiter (.create shown window thresholds (.exposition .empty)) =
      .ok store)
    {c : Coordinator τ} (holds : c.store = store) {run : List (τ × Use τ)}
    (within : ∀ m ∈ run, m.2.Within (Meter.Recorded capacity.toNat)) :
    let m := (c.used run).store.meter
    ∃ x, m.sink = .exposition x ∧ (∀ t : Tally, x.tallyRead t = Quantity.ofInt (t.count m)) ∧
      x.entriesRead = Quantity.ofInt m.size := by
  intro m
  have trail := usedTrail Meter.workingRecorded Meter.lookingRecorded c within
  have exported : (Meter.create shown window thresholds (.exposition (.empty : Exposition τ))).Exported :=
    ⟨.empty,rfl,fun t => by cases t <;> exact exact.zero,exact.zero⟩
  have houses := Store.createHouses made (Meter.exportedTakes exact exported)
  obtain rfl := Store.createOk made
  rw [holds] at trail
  obtain ⟨-,-,x,kind,agrees⟩ := Store.trailExports exact ⟨houses,rfl,exported⟩ trail
  refine ⟨x,kind,fun t => ?_,?_⟩
  · rw [x.readTally]
    exact agrees.tallies t
  · rw [x.readEntries]
    exact agrees.size

end Coordinator

/-! Rationals add up exactly, and are set exactly as far as doubles hold whole numbers. -/

theorem Quantity.rationalTallies {most : Nat} (fits : most < 2 ^ 53) : Quantity.Tallies Rat most where
  zero := by decide +kernel
  add a b := (Rat.intCast_add a b).symm
  whole _ := rfl
  gauge n within := by
    have small : n < 2 ^ 53 := Nat.lt_of_le_of_lt within fits
    exact ⟨Decimal.ofWhole n,Value.wholeAmount small,Decimal.wholeRational n small⟩

namespace Coordinator

def exportedStore : Store Rat :=
  ⟨2,fun _ => 60,⟨[],8,100⟩,.create 0 60,.create 2 60 ⟨0,1,100,100,0⟩ (.exposition .empty),.empty,.empty⟩

def exportedCache : Coordinator Rat :=
  create exportedStore ⟨1,60,10,40⟩ ⟨⟨0,0,0,0,none⟩,none,fun low _ => low⟩ true false

def plainRequest : Request Rat := ⟨"load",none,none,none,true,false,"rpc"⟩

def exportedDay : List (Rat × Use Rat) := [
  (1000,.errand (.set (.str "k") (.int 1) (.none Rat))),(1001,.step (.fetch "u" (.str "k") plainRequest)),
  (1100,.step (.fetch "u" (.str "k") plainRequest)),(1100,.step (.begin 0)),(1101,.step (.advance 0 .timedOut)),
  (1101,.step (.forget "k")),(1102,.step (.fetch "u" (.str "k") plainRequest)),(1190,.step (.begin 1)),
  (1191,.step (.advance 1 (.returned (.int 2)))),(1192,.step (.fetch "u" (.str "x") plainRequest)),
  (1192,.step (.begin 2)),(1193,.step (.advance 2 (.returned (.int 3)))),
  (1194,.errand (.set (.str "y") (.int 4) (.none Rat))),(1195,.step (.mutatedKeys (· == "y")))]

theorem exportedAgrees :
    let m := (exportedCache.used exportedDay).store.meter
    Quantity.Tallies Rat 2 ∧
      Store.create 2 (fun _ => 60) ⟨[],8,100⟩ (.create 0 60) (.create 2 60 ⟨0,1,100,100,0⟩ (.exposition .empty)) =
        .ok exportedStore ∧
      exportedCache.store = exportedStore ∧ (∀ m ∈ exportedDay, m.2.Within (Meter.Recorded 2)) ∧
      [m.hits,m.staleHits,m.misses,m.evictions,m.invalidations,m.revalidations,m.revalidationFailures,m.size] =
        [1,2,1,1,1,1,1,1] ∧
      ∃ x, m.sink = .exposition x ∧ (∀ t : Tally, x.tallyRead t = Quantity.ofInt (t.count m)) ∧
        x.entriesRead = Quantity.ofInt m.size := by
  intro m
  have made : Store.create 2 (fun _ => 60) ⟨[],8,100⟩ (.create 0 60)
      (.create 2 60 ⟨0,1,100,100,0⟩ (.exposition .empty)) = .ok exportedStore := rfl
  have within : ∀ m ∈ exportedDay, m.2.Within (Meter.Recorded 2) := by simp [exportedDay,Use.Within]
  have exact : Quantity.Tallies Rat 2 := Quantity.rationalTallies (by decide)
  exact ⟨exact,made,rfl,within,by decide +kernel,samplesAgree exact made rfl within⟩

end Coordinator

end ReadThrough
