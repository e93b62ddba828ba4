import ReadThrough.Gate
import ReadThrough.Tag
import ReadThrough.Limiter
import ReadThrough.Meter

/-! The in-memory store: entries with a time to live, tags and a version, an index of the tags, and
eviction of the oldest entry when full. Nothing expires by itself: a reader that wants fresh data
takes an expired entry for absent, one that tolerates stale data is told that it is stale. Every
operation happens at one moment, which is its argument. -/
namespace ReadThrough

structure Entry (τ : Type) where
  data : Value
  stamp : τ
  ttl : τ
  tags : List Tag
  version : Option String
  etag : Option String
  deriving Repr

structure Lookup (τ : Type) where
  key : String
  stale : Bool
  entry : Entry τ
  deriving Repr

/-- `tagged` lists under each tag the keys of the entries that carry it. `ttlFor` gives the time to
live of a key that is written without one. -/
structure Store (τ : Type) where
  capacity : Nat
  ttlFor : String → τ
  gate : Gate
  limiter : Limiter τ
  meter : Meter τ
  entries : Assoc String (Entry τ)
  tagged : Assoc Tag (List String)

/-- What a write may set beside key and data. Tags that are no tags fail when they are needed. -/
structure Options (τ : Type) where
  ttl : Option τ
  tags : Except Failure (List Tag)
  version : Option String
  etag : Option String

structure Item (τ : Type) where
  key : Option Value
  data : Option Value
  options : Options τ

namespace Entry
variable {τ : Type} [Quantity τ]

def age (e : Entry τ) (now : τ) : τ := now - e.stamp

def isExpired (e : Entry τ) (now : τ) : Bool := decide (e.ttl < e.age now)

end Entry

namespace Options

def none (τ : Type) : Options τ := ⟨Option.none, .ok [], Option.none, Option.none⟩

end Options

namespace Store
variable {τ : Type} [Quantity τ]

def create (capacity : Int) (ttlFor : String → τ) (gate : Gate) (limiter : Limiter τ)
    (meter : Meter τ) : Except Failure (Store τ) :=
  if capacity ≤ 0 then .error .nonPositiveCapacity
  else .ok ⟨capacity.toNat, ttlFor, gate, limiter, meter, .empty, .empty⟩

omit [Quantity τ] in
def metered {α : Type} (x : Op (Meter τ) α) : Op (Store τ) α :=
  Op.within (·.meter) (fun m s => { s with meter := m }) x

omit [Quantity τ] in
def admitKey (raw : Value) : Op (Store τ) String := fun s =>
  ((s.gate.admitKey raw).mapError Fault.of, s)

def limit (now : τ) (key : String) : Op (Store τ) Unit := fun s =>
  match s.limiter.check now key with
  | (true, l) => (.ok (), { s with limiter := l })
  | (false, l) =>
    (.error (.of (.rateLimited key l.ceiling (Quantity.toNumber l.window))),
      { s with limiter := l })

def accessKey (now : τ) (raw : Value) : Op (Store τ) String := do
  let key ← admitKey raw
  limit now key
  pure key

omit [Quantity τ] in
def reportSize : Op (Store τ) Unit := do
  let s ← Op.read
  metered (Meter.setSize s.entries.size)

/-! Reads. -/

def get (now : τ) (raw : Value) : Op (Store τ) (Option Value) := do
  let key ← accessKey now raw
  let s ← Op.read
  match s.entries.get? key with
  | none =>
    metered (Meter.recordMiss key)
    pure none
  | some e =>
    if e.isExpired now then
      metered (Meter.recordMiss key)
      pure none
    else
      metered (Meter.recordHit key)
      pure (some e.data)

def getEntry (now : τ) (raw : Value) : Op (Store τ) (Option (Entry τ)) := do
  let key ← accessKey now raw
  let s ← Op.read
  pure (s.entries.get? key)

def getStale (now : τ) (raw : Value) : Op (Store τ) (Option (Lookup τ)) := do
  let key ← accessKey now raw
  let s ← Op.read
  match s.entries.get? key with
  | none =>
    metered (Meter.recordMiss key)
    pure none
  | some e =>
    if e.isExpired now then
      metered (Meter.recordStaleHit key)
      pure (some ⟨key, true, e⟩)
    else
      metered (Meter.recordHit key)
      pure (some ⟨key, false, e⟩)

omit [Quantity τ] in
def has (raw : Value) : Op (Store τ) Bool := do
  let key ← admitKey raw
  let s ← Op.read
  pure (s.entries.has key)

omit [Quantity τ] in
def keysForTag (s : Store τ) (tag : Tag) : List String := (s.tagged.get? tag).getD []

def getBatch (now : τ) : List Value → Op (Store τ) (List (Value × Value))
  | [] => pure []
  | raw :: rest => do
    let found ← get now raw
    let others ← getBatch now rest
    pure ((raw, found.getD .null) :: others)

/-! Removal. -/

omit [Quantity τ] in
def dropTag (key : String) (tagged : Assoc Tag (List String)) (tag : Tag) :
    Assoc Tag (List String) :=
  match tagged.get? tag with
  | none => tagged
  | some keys =>
    let left := keys.filter (· ≠ key)
    if left.isEmpty then tagged.erase tag else tagged.put tag left

omit [Quantity τ] in
def untag (s : Store τ) (key : String) (tags : List Tag) : Store τ :=
  { s with tagged := tags.foldl (dropTag key) s.tagged }

omit [Quantity τ] in
def remove (s : Store τ) (key : String) : Bool × Store τ :=
  match s.entries.get? key with
  | none => (false, s)
  | some e => (true, ({ s with entries := s.entries.erase key }).untag key e.tags)

omit [Quantity τ] in
def removeAll (s : Store τ) : List String → Nat × Store τ
  | [] => (0, s)
  | key :: rest =>
    match s.remove key with
    | (true, s) => let (n, s) := removeAll s rest; (n + 1, s)
    | (false, s) => removeAll s rest

def delete (now : τ) (raw : Value) : Op (Store τ) Bool := do
  let key ← admitKey raw
  let removed ← Op.step (·.remove key)
  if removed then
    metered (Meter.recordInvalidation now 1 "delete")
    reportSize
  pure removed

def deleteAll (now : τ) : List Value → Op (Store τ) Nat
  | [] => pure 0
  | raw :: rest => do
    let removed ← delete now raw
    let others ← deleteAll now rest
    pure (if removed then others + 1 else others)

def removeMany (now : τ) (keys : List String) (reason : String) : Op (Store τ) Nat := do
  let removed ← Op.step (·.removeAll keys)
  if 0 < removed then
    metered (Meter.recordInvalidation now removed reason)
    reportSize
  pure removed

def clear (now : τ) : Op (Store τ) Nat := do
  let s ← Op.read
  let count := s.entries.size
  Op.change (fun s => { s with entries := .empty, tagged := .empty })
  metered (Meter.recordInvalidation now count "clear")
  metered (Meter.setSize 0)
  pure count

def oldest : List (String × Entry τ) → Option (String × Entry τ)
  | [] => none
  | e :: rest => some (rest.foldl (fun best e => if e.2.stamp < best.2.stamp then e else best) e)

def evict (now : τ) : Op (Store τ) (Option String) := do
  let s ← Op.read
  match oldest s.entries.entries with
  | none => pure none
  | some (key, _) =>
    let _ ← Op.step (·.remove key)
    metered (Meter.recordEviction now key)
    reportSize
    pure (some key)

/-! Writes. -/

omit [Quantity τ] in
def addTag (key : String) (tagged : Assoc Tag (List String)) (tag : Tag) :
    Assoc Tag (List String) :=
  let keys := (tagged.get? tag).getD []
  tagged.put tag (if key ∈ keys then keys else keys ++ [key])

omit [Quantity τ] in
def insert (s : Store τ) (key : String) (e : Entry τ) : Store τ :=
  { s with entries := s.entries.put key e, tagged := e.tags.foldl (addTag key) s.tagged }

def makeRoom (now : τ) (key : String) : Op (Store τ) Unit := do
  let s ← Op.read
  if !s.entries.has key && decide (s.capacity ≤ s.entries.size) then
    let _ ← evict now
  else pure ()

omit [Quantity τ] in
def forgetTags (key : String) : Op (Store τ) Unit :=
  Op.change (fun s =>
    match s.entries.get? key with
    | some e => s.untag key e.tags
    | none => s)

omit [Quantity τ] in
def weigh (data : Value) : Op (Store τ) Unit := fun s =>
  match s.gate.measure data with
  | .ok _ => (.ok (), s)
  | .error why => (.error (.of why), s)

def set (now : τ) (raw data : Value) (o : Options τ) : Op (Store τ) String := do
  let key ← accessKey now raw
  weigh data
  let s ← Op.read
  let ttl := o.ttl.getD (s.ttlFor key)
  if ttl ≤ Quantity.ofInt 0 then Op.refuse .nonPositiveTtl
  else
    makeRoom now key
    forgetTags key
    let tags ← Op.liftFailure o.tags
    Op.change (·.insert key ⟨data, now, ttl, tags, o.version, o.etag⟩)
    reportSize
    pure key

def setBatch (now : τ) : List (Item τ) → Op (Store τ) (List String)
  | [] => pure []
  | item :: rest => do
    match item.key, item.data with
    | none, _ => Op.refuse (.missingField "key")
    | _, none => Op.refuse (.missingField "data")
    | some raw, some data =>
      let key ← set now raw data item.options
      let others ← setBatch now rest
      pure (key :: others)

end Store

end ReadThrough
