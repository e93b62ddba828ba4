import ReadThrough.Pattern.Reader
import ReadThrough.Pattern.Matcher
import ReadThrough.Gate

/-! Patterns as screens for sensitive data, and the screens that are used when none are given. -/
namespace ReadThrough.Pattern

def compile (source : String) (ignoreCase : Bool) : Except Failure (String → Bool) :=
  match read? source { Flags.none with ignoreCase } with
  | some n => .ok n.finds
  | none => .error .badPattern

def screen (source : String) : Except Failure Screen := do
  let finds ← compile source false
  .ok ⟨source, finds⟩

def screens : List String → Except Failure (List Screen)
  | [] => .ok []
  | source :: rest => do
    let first ← screen source
    let others ← screens rest
    .ok (first :: others)

def sensitive : List String := [
  "(?i)passw(or)?d",
  "(?i)secret",
  "(?i)\\btoken\\b|access_token|refresh_token|auth_token",
  "(?i)private[_\\s-]?key",
  "(?i)api[_\\s-]?key",
  "(?i)mnemonic|seed[_\\s-]?phrase",
  "\\bS[A-Z2-7]\x7b55\x7d\\b"]

def screensOr (sources : List String) : Except Failure (List Screen) :=
  screens (if sources.isEmpty then sensitive else sources)

end ReadThrough.Pattern
