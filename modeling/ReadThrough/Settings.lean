import ReadThrough.Settings.Section

/-! The settings of a cache, the profiles of the deployment environments, and the time to live of a
key. -/
namespace ReadThrough

inductive Environment where
  | development
  | staging
  | production
  | test
  deriving DecidableEq, Repr

namespace Environment

def label : Environment → String
  | development => "development"
  | staging => "staging"
  | production => "production"
  | test => "test"

def all : List Environment := [development, staging, production, test]

def ofLabel? (s : String) : Option Environment := all.find? (·.label == s)

def check (v : Value) : Checked Environment :=
  match v with
  | .str s =>
    match ofLabel? s with
    | some e => .valid e
    | none => .bad "enum"
  | _ => .bad "enum"

end Environment

structure Settings (τ : Type) where
  environment : Environment
  defaultTtl : τ
  maxSize : Int
  toleratesStale : Bool
  ttlOverrides : List (String × τ)
  security : SecurityRules τ
  retry : RetryRules τ
  breaker : BreakerRules τ
  health : Thresholds τ
  logLevel : String
  jsonLogs : Bool
  host : String
  portNumber : Int
  deriving Repr

namespace Settings
variable {τ : Type} [Quantity τ]

def names : List String := [
  "environment", "default_ttl", "max_size", "stale_while_revalidate", "per_key_ttl_overrides",
  "security_rules", "retry", "breaker", "health", "log_level", "json_logs", "diagnostics_host",
  "diagnostics_port"]

def usual : Settings τ :=
  ⟨.development, Quantity.ratio 300 1, 100, true, [], .usual, .usual, .usual, .usual, "INFO", true,
    "127.0.0.1", 8090⟩

def strangers (record : Value) : Checked Unit :=
  match record with
  | .dict entries =>
    match (entries.map (fun e => e.1.display)).filter (fun name => !names.contains name) with
    | [] => .valid ()
    | found => .invalid (found.map (fun name => ⟨[name], "extra_forbidden"⟩))
  | _ => .valid ()

def check (v : Value) : Checked (Settings τ) :=
  (fun s (_ : Unit) => s) <$> (Settings.mk
    <$> Coercion.field v "environment" .development Environment.check
    <*> Coercion.field v "default_ttl" usual.defaultTtl (Coercion.amount [.positive])
    <*> Coercion.field v "max_size" 100 (Coercion.count [.above 0])
    <*> Coercion.field v "stale_while_revalidate" true Coercion.bool
    <*> Coercion.field v "per_key_ttl_overrides" [] Coercion.amounts
    <*> Coercion.field v "security_rules" .usual (Coercion.record SecurityRules.check)
    <*> Coercion.field v "retry" .usual (Coercion.record RetryRules.check)
    <*> Coercion.field v "breaker" .usual (Coercion.record BreakerRules.check)
    <*> Coercion.field v "health" .usual (Coercion.record Thresholds.check)
    <*> Coercion.field v "log_level" "INFO" Coercion.text
    <*> Coercion.field v "json_logs" true Coercion.bool
    <*> Coercion.field v "diagnostics_host" "127.0.0.1" Coercion.text
    <*> Coercion.field v "diagnostics_port" 8090 Coercion.int)
  <*> strangers v

def assign (s : Settings τ) (name : String) (v : Value) : Except Failure (Settings τ) :=
  let done {α : Type} (x : Checked α) (put : α → Settings τ) : Except Failure (Settings τ) :=
    ((x.under name).map put).toExcept
  match name with
  | "environment" => done (Environment.check v) (fun a => { s with environment := a })
  | "default_ttl" => done (Coercion.amount [.positive] v) (fun a => { s with defaultTtl := a })
  | "max_size" => done (Coercion.count [.above 0] v) (fun a => { s with maxSize := a })
  | "stale_while_revalidate" => done (Coercion.bool v) (fun a => { s with toleratesStale := a })
  | "per_key_ttl_overrides" => done (Coercion.amounts v) (fun a => { s with ttlOverrides := a })
  | "security_rules" =>
    done (Coercion.record SecurityRules.check v) (fun a => { s with security := a })
  | "retry" => done (Coercion.record RetryRules.check v) (fun a => { s with retry := a })
  | "breaker" => done (Coercion.record BreakerRules.check v) (fun a => { s with breaker := a })
  | "health" => done (Coercion.record Thresholds.check v) (fun a => { s with health := a })
  | "log_level" => done (Coercion.text v) (fun a => { s with logLevel := a })
  | "json_logs" => done (Coercion.bool v) (fun a => { s with jsonLogs := a })
  | "diagnostics_host" => done (Coercion.text v) (fun a => { s with host := a })
  | "diagnostics_port" => done (Coercion.int v) (fun a => { s with portNumber := a })
  | name => .error (.defects [⟨[name], "no_such_attribute"⟩])

/-! The time to live of a key. -/

def betterOverride (key : String) (best : Option (String × τ)) (o : String × τ) :
    Option (String × τ) :=
  if o.1.isPrefixOf key then
    match best with
    | none => some o
    | some b => if b.1.length < o.1.length then some o else best
  else best

def ttlFor (s : Settings τ) (key : String) : τ :=
  match s.ttlOverrides.foldl (betterOverride key) none with
  | some (_, ttl) => ttl
  | none => s.defaultTtl

/-! Profiles. -/

structure Profile (τ : Type) where
  defaultTtl : τ
  maxSize : Int
  ttlOverrides : Option (List (String × τ))
  security : Option (SecurityRules τ)
  retry : Option (RetryRules τ)
  breaker : Option (BreakerRules τ)
  logLevel : Option String
  jsonLogs : Option Bool
  deriving Repr

def usualOverrides : List (String × τ) :=
  [("group:", Quantity.ratio 30 1), ("groups:", Quantity.ratio 45 1),
    ("user:", Quantity.ratio 60 1)]

def profile : Environment → Profile τ
  | .development => ⟨Quantity.ratio 60 1, 100, none, none, none, none, some "DEBUG", some false⟩
  | .staging => ⟨Quantity.ratio 300 1, 500, some usualOverrides, none, none, none, none, none⟩
  | .production =>
    ⟨Quantity.ratio 300 1, 1000, some usualOverrides,
      some { SecurityRules.usual with rejectSensitive := true, rateLimit := 100 }, none, none,
      some "INFO", none⟩
  | .test =>
    ⟨Quantity.ratio 5 1, 50, none, none,
      some ⟨2, Quantity.zero, Quantity.ratio 2 1, Quantity.zero, Quantity.zero⟩,
      some ⟨3, Quantity.ratio 60 1, Quantity.ratio 1 1, Quantity.ratio 8 1,
        some (Quantity.ratio 1 1)⟩,
      some "WARNING", none⟩

def filled (s : Settings τ) (p : Profile τ) (supplied : List String) : Settings τ :=
  let or {α : Type} (name : String) (value : Option α) (current : α) : α :=
    if supplied.contains name then current else value.getD current
  { s with
    defaultTtl := or "default_ttl" (some p.defaultTtl) s.defaultTtl
    maxSize := or "max_size" (some p.maxSize) s.maxSize
    ttlOverrides := or "per_key_ttl_overrides" p.ttlOverrides s.ttlOverrides
    security := or "security_rules" p.security s.security
    retry := or "retry" p.retry s.retry
    breaker := or "breaker" p.breaker s.breaker
    logLevel := or "log_level" p.logLevel s.logLevel
    jsonLogs := or "json_logs" p.jsonLogs s.jsonLogs }

/-! Snapshots. -/

def amountShown (x : τ) : Value := .float (Quantity.toNumber x).toFloat

def shown (s : Settings τ) : Value := .record [
  ("environment", .str s.environment.label),
  ("default_ttl", amountShown s.defaultTtl),
  ("max_size", .int s.maxSize),
  ("stale_while_revalidate", .bool s.toleratesStale),
  ("per_key_ttl_overrides", .record (s.ttlOverrides.map (fun o => (o.1, amountShown o.2)))),
  ("security_rules", .record [
    ("sensitive_patterns", .list (s.security.patterns.map .str)),
    ("max_key_length", .int s.security.maxKeyLength),
    ("max_value_bytes", .int s.security.maxValueBytes),
    ("reject_sensitive", .bool s.security.rejectSensitive),
    ("rate_limit_per_key", .int s.security.rateLimit),
    ("rate_limit_window", amountShown s.security.rateWindow)]),
  ("retry", .record [
    ("max_retries", .int s.retry.maxRetries),
    ("base_delay", amountShown s.retry.baseDelay),
    ("multiplier", amountShown s.retry.multiplier),
    ("jitter_max", amountShown s.retry.jitterMax),
    ("max_delay", amountShown s.retry.maxDelay)]),
  ("breaker", .record [
    ("failure_threshold", .int s.breaker.threshold),
    ("failure_window", amountShown s.breaker.window),
    ("base_cooldown", amountShown s.breaker.baseCooldown),
    ("max_cooldown", amountShown s.breaker.maxCooldown),
    ("call_timeout", (s.breaker.callTimeout.map amountShown).getD .null)]),
  ("health", .record [
    ("min_hit_rate", amountShown s.health.minHitRate),
    ("max_size_fraction", amountShown s.health.maxFill),
    ("max_evictions_per_minute", amountShown s.health.maxEvictions),
    ("max_invalidations_per_minute", amountShown s.health.maxInvalidations),
    ("min_samples", .int s.health.minSamples)]),
  ("log_level", .str s.logLevel),
  ("json_logs", .bool s.jsonLogs),
  ("diagnostics_host", .str s.host),
  ("diagnostics_port", .int s.portNumber)]

end Settings

end ReadThrough
