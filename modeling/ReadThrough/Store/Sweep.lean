import ReadThrough.Store
import ReadThrough.Ledger

/-! Invalidation of many entries at once: by tag, by key, by version, by ledger entity. A sweep is
one operation, so no reader sees it half done. -/
namespace ReadThrough.Store
variable {τ : Type} [Quantity τ]

def sweepTag (now : τ) (tag : Tag) : Op (Store τ) Nat := do
  let s ← Op.read
  removeMany now (s.keysForTag tag) "tag"

def sweepKeys (now : τ) (matching : String → Bool) : Op (Store τ) Nat := do
  let s ← Op.read
  removeMany now (s.entries.keys.filter matching) "pattern"

def isOutdated (current : Option String) (e : Entry τ) : Bool :=
  e.version.isSome && e.version != current

def sweepVersion (now : τ) (current : Option String) : Op (Store τ) Nat := do
  let s ← Op.read
  let outdated := s.entries.entries.filter (fun e => isOutdated current e.2)
  removeMany now (outdated.map (·.1)) "version"

omit [Quantity τ] in
def keysForTags (s : Store τ) (tags : List Tag) : List String :=
  (tags.flatMap s.keysForTag).eraseDups

def sweepTags (now : τ) (tags : List Tag) : Op (Store τ) Nat := do
  let s ← Op.read
  removeMany now (s.keysForTags tags) "tag"

def sweepEntity (now : τ) (kind : String) (id : Option Value) : Op (Store τ) Nat := do
  let tags ← Op.liftFailure (Ledger.tagsForEntity kind id)
  sweepTags now (tags.map Tag.text)

end ReadThrough.Store
