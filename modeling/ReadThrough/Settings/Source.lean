import ReadThrough.Settings
import ReadThrough.Value.Reader

/-! Where settings come from: what a caller forces, over what the process environment says, over the
profile of the deployment, over the usual values. Variables name a setting behind a common beginning,
in any case; two underscores lead into a section. -/
namespace ReadThrough.Settings.Source

abbrev Variable := String × String

def beginning : String := "ledger_cache_"

def isCompound (name : String) : Bool :=
  ["per_key_ttl_overrides", "security_rules", "retry", "breaker", "health"].contains name

inductive Reading where
  | asIs
  | asData
  | asDataIfPossible

/-- Amounts of a mapping are data where they can be; in sections only the list of patterns is. -/
def readingOf (name : String) (path : List String) : Reading :=
  if name = "per_key_ttl_overrides" then .asDataIfPossible
  else if name = "security_rules" ∧ path = ["sensitive_patterns"] then .asData
  else .asIs

def overlay : (fuel : Nat) → List (Value × Value) → List (Value × Value) → List (Value × Value)
  | _, under, [] => under
  | 0, under, _ => under
  | fuel + 1, under, (k, v) :: rest =>
    let merged :=
      match v, (under.find? (fun e => Value.sameKey e.1 k)).map (·.2) with
      | .dict upper, some (.dict lower) => .dict (overlay fuel lower upper)
      | v, _ => v
    overlay fuel (Value.putEntry k merged under) rest

mutual

def extent : Value → Nat
  | .dict entries => extents entries + 1
  | _ => 1

def extents : List (Value × Value) → Nat
  | [] => 0
  | (_, v) :: rest => extent v + extents rest + 1

end

def laidOver (lower upper : List (Value × Value)) : List (Value × Value) :=
  overlay (extents upper + 1) lower upper

def putPath : List String → Value → List (Value × Value) → List (Value × Value)
  | [], _, entries => entries
  | [name], v, entries => Value.putEntry (.str name) v entries
  | name :: rest, v, entries =>
    match (Value.dict entries).field? name with
    | none => Value.putEntry (.str name) (.dict (putPath rest v [])) entries
    | some (.dict inner) => Value.putEntry (.str name) (.dict (putPath rest v inner)) entries
    | some _ => entries

def lowered (s : String) : String := String.ofList (s.toList.map Text.lower)

def parts (name : String) : List String := name.splitOn "__"

def nestedValue (reading : Reading) (text : String) : Except Unit Value :=
  if text.isEmpty then .ok (.str text)
  else
    match reading, Value.read text with
    | .asIs, _ => .ok (.str text)
    | .asData, .ok v => .ok v
    | .asData, .error _ => .error ()
    | .asDataIfPossible, .ok v => .ok v
    | .asDataIfPossible, .error _ => .ok (.str text)

def nested (name : String) : List Variable → List (Value × Value) →
    Except Unit (List (Value × Value))
  | [], entries => .ok entries
  | (label, text) :: rest, entries =>
    let start := beginning ++ name ++ "__"
    if start.isPrefixOf label then do
      let path := parts (String.ofList (label.toList.drop start.length))
      let v ← nestedValue (readingOf name path) text
      nested name rest (putPath path v entries)
    else nested name rest entries

def setting (vars : List Variable) (name : String) : Except Unit (Option Value) :=
  let direct := (vars.find? (·.1 == beginning ++ name)).map (·.2)
  if isCompound name then do
    let inner ← nested name vars []
    match direct with
    | none => .ok (if inner.isEmpty then none else some (.dict inner))
    | some text =>
      match Value.read text with
      | .error _ => .error ()
      | .ok .null => .ok none
      | .ok (.dict entries) => .ok (some (.dict (laidOver entries inner)))
      | .ok v => .ok (some v)
  else .ok (direct.map Value.str)

def gather (vars : List Variable) : List String → Except Failure (List (Value × Value))
  | [] => .ok []
  | name :: rest =>
    match setting vars name with
    | .error () => .error (.unreadableSource name)
    | .ok found => do
      let others ← gather vars rest
      .ok ((found.map (fun v => (.str name, v))).toList ++ others)

/-- Names of variables count in any case; of two spellings the later one counts. -/
def normalized (vars : List Variable) : List Variable :=
  vars.foldl (fun acc v =>
    let name := lowered v.1
    acc.filter (fun u => u.1 != name) ++ [(name, v.2)]) []

end Source

variable {τ : Type} [Quantity τ]

def supplied (vars : List Source.Variable) (forced : List (Value × Value)) :
    Except Failure (List (Value × Value)) := do
  let fromProcess ← Source.gather (Source.normalized vars) names
  .ok (Source.laidOver fromProcess forced)

def plain (vars : List Source.Variable) (forced : List (Value × Value)) :
    Except Failure (Settings τ) := do
  let record ← supplied vars forced
  (check (.dict record)).toExcept

def forEnvironment (environment : Option Value) (vars : List Source.Variable)
    (forced : List (Value × Value)) : Except Failure (Settings τ) := do
  let forced ← match environment with
    | none => .ok forced
    | some v =>
      match v.text?.bind Environment.ofLabel? with
      | some e => .ok (Value.putEntry (.str "environment") (.str e.label) forced)
      | none => .error (.unknownProfile v.inner)
  let record ← supplied vars forced
  let s ← (check (τ := τ) (.dict record)).toExcept
  .ok (s.filled (profile s.environment) (record.map (fun e => e.1.display)))

end ReadThrough.Settings
