import ReadThrough.Proofs.Lasting

/-! The longest override. Overrides are found by their names, no two of which are the same, so at most one of those
that a key starts with is the longest; it decides about the key whatever the order the overrides came in. -/
namespace ReadThrough
variable {τ : Type}

namespace Settings
variable {s : Settings τ} {m m' : Assoc String τ} {key name : String} {o o' : String × τ} {ttl ttl' : τ}

def overriding (s : Settings τ) (m : Assoc String τ) : Settings τ := { s with ttlOverrides := m.entries }

structure Longest (m : Assoc String τ) (key : String) (o : String × τ) : Prop where
  listed : o ∈ m.entries
  starts : o.1.toList <+: key.toList
  longest : ∀ o' ∈ m.entries, o'.1.toList <+: key.toList → o'.1.length ≤ o.1.length

/-- What a key is due. The empty name starts every key. -/
inductive Due (s : Settings τ) (m : Assoc String τ) (key : String) : τ → Prop where
  | overridden {o : String × τ} (longest : Longest m key o) : Due s m key o.2
  | default (free : ∀ o ∈ m.entries, ¬ o.1.toList <+: key.toList) : Due s m key s.defaultTtl

theorem startsOnce {a b : String} (starts : a.toList <+: key.toList) (starts' : b.toList <+: key.toList)
    (long : a.length = b.length) : a = b := by
  rw [← String.length_toList,← String.length_toList] at long
  have within := List.prefix_of_prefix_length_le starts starts' long.le
  exact String.toList_inj.mp (within.eq_of_length long)

theorem Longest.unique (distinct : m.Distinct) (longest : Longest m key o) (longest' : Longest m key o') : o = o' := by
  have long : o.1.length = o'.1.length :=
    Nat.le_antisymm (longest'.longest o longest.listed longest.starts)
      (longest.longest o' longest'.listed longest'.starts)
  have same : o.1 = o'.1 := startsOnce longest.starts longest'.starts long
  have found := Assoc.memGet distinct longest.listed
  have found' := Assoc.memGet distinct longest'.listed
  rw [same,found',Option.some.injEq] at found
  exact Prod.ext same found.symm

theorem Due.unique (distinct : m.Distinct) (due : Due s m key ttl) (due' : Due s m key ttl') : ttl = ttl' := by
  cases due with
  | overridden longest =>
    cases due' with
    | overridden longest' => rw [longest.unique distinct longest']
    | default free => exact absurd longest.starts (free _ longest.listed)
  | default free =>
    cases due' with
    | overridden longest => exact absurd longest.starts (free _ longest.listed)
    | default => rfl

/-! What the settings answer. -/

theorem matchingMem : o ∈ (s.overriding m).matching key ↔ o ∈ m.entries ∧ o.1.toList <+: key.toList := by
  have starts : o.1.isPrefixOf key = true ↔ o.1.toList <+: key.toList := String.startsWith_string_iff
  simp [matching,overriding,starts]

theorem decidesLongest (decides : (s.overriding m).Decides key o) : Longest m key o := by
  obtain ⟨before,after,split,foremost⟩ := decides
  have mem (o' : String × τ) : o' ∈ m.entries ∧ o'.1.toList <+: key.toList ↔ o' ∈ before ++ o :: after := by
    rw [← split,matchingMem]
  obtain ⟨listed,starts⟩ := (mem o).mpr (by simp)
  refine ⟨listed,starts,fun o' listed' starts' => ?_⟩
  rcases List.mem_append.mp ((mem o').mp ⟨listed',starts'⟩) with earlier | later
  · exact (foremost.before o' earlier).le
  · rcases List.mem_cons.mp later with rfl | later
    · exact Nat.le_refl _
    · exact Nat.le_of_not_lt (foremost.after o' later)

theorem ttlDue (s : Settings τ) (m : Assoc String τ) (key : String) : Due s m key ((s.overriding m).ttlFor key) := by
  rcases ttlDecided (s.overriding m) key with ⟨o,decides,same⟩ | ⟨nobody,same⟩
  · rw [same]
    exact .overridden (decidesLongest decides)
  · rw [same]
    refine .default fun o listed starts => ?_
    have mem : o ∈ (s.overriding m).matching key := matchingMem.mpr ⟨listed,starts⟩
    simp [nobody] at mem

/-! Overrides that make no difference. -/

theorem Due.carried (kept : ∀ o, o.1.toList <+: key.toList → (o ∈ m.entries ↔ o ∈ m'.entries))
    (due : Due s m key ttl) : Due s m' key ttl := by
  cases due with
  | overridden longest =>
    refine .overridden ⟨(kept _ longest.starts).mp longest.listed,longest.starts,fun o' listed starts => ?_⟩
    exact longest.longest o' ((kept o' starts).mpr listed) starts
  | default free => exact .default fun o listed starts => free o ((kept o starts).mpr listed) starts

theorem Due.outranks (distinct : m.Distinct) (listed : o ∈ m.entries) (starts : o.1.toList <+: key.toList)
    (shorter : name.length < o.1.length) (due : Due s m key ttl) : Due s (m.put name ttl') key ttl := by
  cases due with
  | default free => exact absurd starts (free o listed)
  | @overridden best longest =>
    have long : name.length < best.1.length := Nat.lt_of_lt_of_le shorter (longest.longest o listed starts)
    have other : best.1 ≠ name := by
      rintro rfl
      exact Nat.lt_irrefl _ long
    refine .overridden ⟨(Assoc.putListed distinct).mpr (.inr ⟨other,longest.listed⟩),longest.starts,?_⟩
    intro o' listed' starts'
    rcases (Assoc.putListed distinct).mp listed' with rfl | ⟨-,before⟩
    · exact long.le
    · exact longest.longest o' before starts'

/-- A key gets what the longest override that it starts with leaves it, and the default if there is none. The order of
the overrides does not matter, nor does one more whose name does not start the key, or is shorter than one that does. -/
theorem longestDecides (s : Settings τ) {m : Assoc String τ} (distinct : m.Distinct) (key : String) :
    (∀ ttl, (s.overriding m).ttlFor key = ttl ↔ Due s m key ttl) ∧
      (∀ m' : Assoc String τ, m'.entries.Perm m.entries →
        (s.overriding m').ttlFor key = (s.overriding m).ttlFor key) ∧
      ∀ name ttl, ¬ name.toList <+: key.toList ∨
          (∃ o ∈ m.entries, o.1.toList <+: key.toList ∧ name.length < o.1.length) →
        (s.overriding (m.put name ttl)).ttlFor key = (s.overriding m).ttlFor key := by
  have due := ttlDue s m key
  refine ⟨fun ttl => ⟨fun same => same ▸ due,fun due' => due.unique distinct due'⟩,?_,?_⟩
  · intro m' order
    have distinct' : m'.Distinct := (order.map Prod.fst).nodup_iff.mpr distinct
    exact (ttlDue s m' key).unique distinct' (due.carried fun o _ => order.mem_iff.symm)
  · intro name ttl idle
    have distinct' := Assoc.putDistinct distinct name ttl
    refine (ttlDue s (m.put name ttl) key).unique distinct' ?_
    rcases idle with elsewhere | ⟨o,listed,starts,shorter⟩
    · refine due.carried fun o starts => ?_
      have other : o.1 ≠ name := by
        rintro rfl
        exact elsewhere starts
      have unlike : o ≠ (name,ttl) := fun same => other (congrArg Prod.fst same)
      simp [Assoc.putListed distinct,other,unlike]
    · exact due.outranks distinct listed starts shorter

/-! The overrides of accepted settings. -/

theorem byNameDistinct (found : List (String × τ)) : (Coercion.byName found).Distinct := by
  suffices ∀ m : Assoc String τ, m.Distinct → (found.foldl (fun m e => m.put e.1 e.2) m).Distinct from
    this .empty Assoc.emptyDistinct
  induction found with
  | nil => exact fun _ distinct => distinct
  | cons e rest ih => exact fun m distinct => ih _ (Assoc.putDistinct distinct e.1 e.2)

variable [Quantity τ]

theorem amountsDistinct {v : Value} {found : List (String × τ)} (valid : Coercion.amounts v = .valid found) :
    (⟨found⟩ : Assoc String τ).Distinct := by
  cases v with
  | dict entries =>
    obtain ⟨read,-,same⟩ := (Checked.validIff.trans (Checked.thenMap ..)).mp valid
    cases same
    exact byNameDistinct read
  | _ => cases valid

theorem Accepted.distinct (accepted : s.Accepted) : (⟨s.ttlOverrides⟩ : Assoc String τ).Distinct := by
  have top : (⟨["per_key_ttl_overrides"],Coercion.amounts,(·.ttlOverrides)⟩ : Leaf (Settings τ)) ∈ tops := by
    simp [tops,plainLeaves]
  refine accepted.always top (P := fun found => (⟨found⟩ : Assoc String τ).Distinct)
    (fun v found valid => amountsDistinct valid) Assoc.emptyDistinct ?_
  intro s e supplied distinct
  change (⟨if supplied.contains "per_key_ttl_overrides" then s.ttlOverrides
    else (profile e).ttlOverrides.getD s.ttlOverrides⟩ : Assoc String τ).Distinct
  have usual : (⟨usualOverrides⟩ : Assoc String τ).Distinct := by
    simp [Assoc.Distinct,Assoc.keys,usualOverrides]
  split
  · exact distinct
  · cases e with
    | development | test => exact distinct
    | staging | production => exact usual

def lasting (seconds : Int) : Number := .real (Decimal.ofWhole seconds)

def nested : Assoc String Number := ⟨[("",lasting 90),("group:",lasting 30),("group:1:",lasting 10)]⟩

def nestedTest : Settings Number := ({ layer .test with environment := .test }).overriding nested

theorem nestedRead : forEnvironment (some (.str "test")) []
    [(.str "per_key_ttl_overrides",.dict [(.str "",.int 90),(.str "group:",.int 30),(.str "group:1:",.int 10)])] =
      .ok nestedTest := rfl

theorem nestedDecides : nested.Distinct ∧ nestedTest.ttlFor "group:1:status" = lasting 10 ∧
    nestedTest.ttlFor "user:1" = lasting 90 ∧
    (nestedTest.overriding ⟨nested.entries.reverse⟩).ttlFor "group:1:status" = lasting 10 ∧
    (nestedTest.overriding (nested.put "user:" (lasting 60))).ttlFor "group:1:status" = lasting 10 := by
  have distinct : nested.Distinct := (environmentAccepted nestedRead).distinct
  obtain ⟨decides,ordered,idle⟩ := longestDecides nestedTest distinct "group:1:status"
  have ten : nestedTest.ttlFor "group:1:status" = lasting 10 :=
    (decides _).mpr (.overridden (o := ("group:1:",lasting 10)) ⟨by simp [nested],by decide,by decide⟩)
  have ninety : nestedTest.ttlFor "user:1" = lasting 90 :=
    ((longestDecides nestedTest distinct "user:1").1 _).mpr
      (.overridden (o := ("",lasting 90)) ⟨by simp [nested],by decide,by decide⟩)
  exact ⟨distinct,ten,ninety,(ordered ⟨_⟩ nested.entries.reverse_perm).trans ten,
    (idle "user:" (lasting 60) (.inl (by decide))).trans ten⟩

end Settings
end ReadThrough
