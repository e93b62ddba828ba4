import ReadThrough.Proofs.Judging

/-! What the wording of a raw error decides. A code that is recognised and a status of 429 go before the wording, but
a status of 4xx goes after it: where nothing else tells, a rejection that mentions a timeout or the network is tried
again. -/
namespace ReadThrough

theorem Remote.finalIff {kind : Remote} : kind.retryable = false ↔ kind = .contract ∨ kind = .rejected := by
  cases kind <;> simp [retryable]

namespace Fault
variable {f g : Fault}

def contractNames : List String := contractCodes.map (·.1)

def Coded (f : Fault) (codes : List String) : Prop := ∃ c ∈ codes, f.code? = some c

def Timed (f : Fault) : Prop := f.isTimeout = true ∨ f.label = "TimeoutError"

def Wired (f : Fault) : Prop := f.isSystem = true ∨ f.label = "NetworkError"

def Denied (f : Fault) : Prop := inRange f.status? 400 500 = true

def worded (f : Fault) : Bool := f.mentions "timeout" || f.mentions "network"

structure Bare (f : Fault) : Prop where
  untyped : f.failure.isRemote = false
  denied : f.Denied
  calm : ¬ f.Throttled
  settled : ¬ f.Coded pendingCodes
  untimed : ¬ f.Timed
  unwired : ¬ f.Wired

def retried (f : Fault) : Except ArithmeticFault Bool := f.classify.map isRetryable

theorem codedAny (codes : List String) : (f.code?.map codes.contains).getD false = true ↔ f.Coded codes := by
  cases coded : f.code? with
  | none => simp [Coded,coded]
  | some c => simp [Coded,coded]

theorem codedContract : (f.code?.bind fun c => contractCodes.find? (·.1 == c)).isSome ↔ f.Coded contractNames := by
  cases coded : f.code? with
  | none => simp [Coded,coded]
  | some c => simp [Coded,coded,contractNames,List.find?_isSome]

theorem deniedUp (denied : f.Denied) : ¬ inRange f.status? 500 600 = true := by
  unfold Denied at denied
  cases status : f.status? with
  | none => simp [inRange]
  | some n =>
    simp [status,inRange] at denied ⊢
    omega

structure Sorted (f : Fault) (kind : Remote) : Prop where
  classified : ∃ text severity, f.classify = .ok (.mk (kind.failure text) { Traits.none with severity } (some f))
  contract : kind = .contract ↔ f.Coded contractNames
  rejected : kind = .rejected ↔ ¬ f.Coded contractNames ∧ (f.Coded rejectionCodes ∨ f.Bare ∧ f.worded = false)

theorem calmSorted (untyped : f.failure.isRemote = false) (calm : ¬ f.Throttled) : ∃ kind, f.Sorted kind := by
  -- rule by rule; the status of 4xx comes last, when neither type nor wording has told anything
  have tail := classify.eq_def f
  rw [if_neg (untyped ▸ Bool.false_ne_true)] at tail
  dsimp only at tail
  rw [if_neg (show ¬ (f.status? = some 429 ∨ f.code? = some throttleCode) from calm)] at tail
  split at tail
  · rename_i found
    have contract : f.Coded contractNames := codedContract.mp (by rw [found]; rfl)
    exact ⟨.contract,⟨_,_,tail⟩,by simp [contract],by simp [contract]⟩
  · rename_i found
    have other : ¬ f.Coded contractNames := fun coded => by
      have some := codedContract.mpr coded
      rw [found] at some
      cases some
    split at tail
    · rename_i rejects
      have rejects := (codedAny _).mp rejects
      exact ⟨.rejected,⟨_,_,tail⟩,by simp [other],by simp [other,rejects]⟩
    · rename_i accepts
      have accepts : ¬ f.Coded rejectionCodes := fun coded => accepts ((codedAny _).mpr coded)
      have mended {kind : Remote} (same : f.classify = .ok (classified kind f)) (further : kind.retryable = true)
          (soft : f.Bare → f.worded = true) : ∃ kind, f.Sorted kind := by
        have unlike : kind ≠ .contract ∧ kind ≠ .rejected := by constructor <;> rintro rfl <;> cases further
        exact ⟨kind,⟨_,_,same⟩,by simp [unlike,other],by simpa [unlike,other,accepts] using soft⟩
      split at tail
      · rename_i late
        refine mended tail rfl fun bare => ?_
        simp only [Bool.or_eq_true,beq_iff_eq] at late
        simp [worded,late.resolve_left bare.untimed]
      · rename_i early
        split at tail
        · rename_i pending
          refine mended tail rfl fun bare => ?_
          rcases Bool.or_eq_true _ _ ▸ pending with coded | down
          · exact absurd ((codedAny _).mp coded) bare.settled
          · exact absurd down (deniedUp bare.denied)
        · rename_i final
          split at tail
          · rename_i down
            refine mended tail rfl fun bare => ?_
            simp only [Bool.or_eq_true,beq_iff_eq] at down
            simp [worded,down.resolve_left bare.unwired]
          · rename_i up
            split at tail
            · rename_i denied
              simp only [Bool.or_eq_true,beq_iff_eq,not_or] at early final up
              have bare : f.Bare := ⟨untyped,denied,calm,fun coded => final.1 ((codedAny _).mpr coded),
                not_or.mpr early.1,not_or.mpr up.1⟩
              have unsaid : f.worded = false := by simp [worded,early.2,up.2]
              exact ⟨.rejected,⟨_,_,tail⟩,by simp [other],by simp [other,bare,unsaid]⟩
            · rename_i denied
              exact mended tail rfl fun bare => absurd bare.denied denied

theorem Sorted.retried {kind : Remote} (sorted : f.Sorted kind) : f.retried = .ok kind.retryable := by
  obtain ⟨text,severity,same⟩ := sorted.classified
  rw [Fault.retried,same]
  rfl

theorem Sorted.final {kind : Remote} (sorted : f.Sorted kind) : kind.retryable = false ↔
    f.Coded contractNames ∨ f.Coded rejectionCodes ∨ f.Bare ∧ f.worded = false := by
  rw [Remote.finalIff,sorted.contract,sorted.rejected]
  by_cases contract : f.Coded contractNames <;> simp [contract]

/-! Errors that differ in their wording alone. -/

structure Akin (f g : Fault) : Prop where
  untyped : f.failure.isRemote = false ∧ g.failure.isRemote = false
  label : f.label = g.label
  timeout : f.isTimeout = g.isTimeout
  system : f.isSystem = g.isSystem
  status : f.traits.status = g.traits.status
  statusCode : f.traits.statusCode = g.traits.statusCode
  code : f.traits.code = g.traits.code
  headers : f.traits.headers = g.traits.headers
  retryAfter : f.traits.retryAfter = g.traits.retryAfter

theorem Akin.status? (akin : Akin f g) : f.status? = g.status? := by
  simp only [Fault.status?,akin.status,akin.statusCode]

theorem Akin.code? (akin : Akin f g) : f.code? = g.code? := by
  simp only [Fault.code?,akin.code]

theorem Akin.throttled (akin : Akin f g) : f.Throttled ↔ g.Throttled := by
  simp only [Throttled,akin.status?,akin.code?]

theorem Akin.coded (akin : Akin f g) (codes : List String) : f.Coded codes ↔ g.Coded codes := by
  simp only [Coded,akin.code?]

theorem Akin.wait (akin : Akin f g) : f.wait = g.wait := by
  simp only [Fault.wait,akin.retryAfter,akin.headers]

theorem Akin.symm (akin : Akin f g) : Akin g f :=
  ⟨akin.untyped.symm,akin.label.symm,akin.timeout.symm,akin.system.symm,akin.status.symm,akin.statusCode.symm,
    akin.code.symm,akin.headers.symm,akin.retryAfter.symm⟩

theorem Akin.bare (akin : Akin f g) (bare : f.Bare) : g.Bare := by
  obtain ⟨-,denied,calm,settled,untimed,unwired⟩ := bare
  simp only [Denied,Timed,Wired,akin.status?,akin.timeout,akin.system,akin.label] at denied untimed unwired
  exact ⟨akin.untyped.2,denied,mt akin.throttled.mpr calm,mt (akin.coded _).mpr settled,untimed,unwired⟩

theorem throttledRetried (untyped : f.failure.isRemote = false) (throttled : f.Throttled) :
    f.retried = f.wait.map fun _ => true := by
  rw [retried,classify,if_neg (untyped ▸ Bool.false_ne_true)]
  dsimp only
  rw [if_pos (show f.status? = some 429 ∨ f.code? = some throttleCode from throttled)]
  cases f.wait <;> rfl

structure Exposed (f : Fault) : Prop where
  bare : f.Bare
  uncontracted : ¬ f.Coded contractNames
  unrejected : ¬ f.Coded rejectionCodes

theorem codedUnlessExposed (unexposed : ¬ f.Exposed) :
    f.Coded contractNames ∨ f.Coded rejectionCodes ∨ ¬ f.Bare := by
  by_cases contract : f.Coded contractNames
  · exact .inl contract
  by_cases rejection : f.Coded rejectionCodes
  · exact .inr (.inl rejection)
  exact .inr (.inr fun bare => unexposed ⟨bare,contract,rejection⟩)

theorem Exposed.retried (exposed : f.Exposed) : f.retried = .ok f.worded := by
  obtain ⟨kind,sorted⟩ := calmSorted exposed.bare.untyped exposed.bare.calm
  have final := sorted.final
  simp only [exposed.uncontracted,exposed.unrejected,exposed.bare,false_or,true_and] at final
  have same : kind.retryable = f.worded := Bool.not_inj (Bool.coe_false_iff_false.mp final)
  rw [sorted.retried,same]

theorem Akin.exposed (akin : Akin f g) (exposed : f.Exposed) : g.Exposed :=
  ⟨akin.bare exposed.bare,mt (akin.coded _).mpr exposed.uncontracted,mt (akin.coded _).mpr exposed.unrejected⟩

theorem akinRetried (akin : Akin f g) : f.retried = g.retried ↔ ¬ (f.Exposed ∧ f.worded ≠ g.worded) := by
  by_cases exposed : f.Exposed
  · rw [exposed.retried,(akin.exposed exposed).retried]
    simp [exposed]
  simp only [exposed,false_and,not_false_eq_true,iff_true]
  by_cases throttled : f.Throttled
  · rw [throttledRetried akin.untyped.1 throttled,throttledRetried akin.untyped.2 (akin.throttled.mp throttled),
      akin.wait]
  · obtain ⟨kind,sorted⟩ := calmSorted akin.untyped.1 throttled
    obtain ⟨kind',sorted'⟩ := calmSorted akin.untyped.2 (mt akin.throttled.mpr throttled)
    have final := sorted.final
    have final' := sorted'.final
    have bare : g.Bare → f.Bare := akin.symm.bare
    rw [← akin.coded,← akin.coded] at final'
    have alike : kind.retryable = false ↔ kind'.retryable = false := by
      rw [final,final']
      rcases codedUnlessExposed exposed with told | told | told
      · simp [told]
      · simp [told]
      · simp [told,mt bare told]
    have same : kind.retryable = kind'.retryable := Bool.not_inj (Bool.coe_false_iff_false.mp alike)
    rw [sorted.retried,sorted'.retried,same]

structure Rejects (f error : Fault) : Prop where
  classified : f.classify = .ok error
  final : error.isRetryable = false
  named : ∃ kind text, error.failure = .remote kind text ∧
    (kind = .rejected ∨ kind = .contract ∧ f.Coded contractNames)

theorem bareRejects (bare : f.Bare) : (∃ error, f.Rejects error) ↔ ¬ (f.Exposed ∧ f.worded) := by
  obtain ⟨kind,sorted⟩ := calmSorted bare.untyped bare.calm
  obtain ⟨text,severity,classified⟩ := sorted.classified
  have rejects : (∃ error, f.Rejects error) ↔ kind.retryable = false := by
    constructor
    · rintro ⟨error,rejects⟩
      cases classified.symm.trans rejects.classified
      exact rejects.final
    · intro retryable
      refine ⟨_,classified,retryable,kind,_,rfl,?_⟩
      rcases Remote.finalIff.mp retryable with contract | rejected
      · exact .inr ⟨contract,sorted.contract.mp contract⟩
      · exact .inl rejected
  rw [rejects]
  by_cases exposed : f.Exposed
  · have same := sorted.retried.symm.trans exposed.retried
    simp only [Except.ok.injEq] at same
    simp [same,exposed]
  · rw [sorted.final]
    rcases codedUnlessExposed exposed with told | told | told
    · simp [exposed,told]
    · simp [exposed,told]
    · exact absurd bare told

/-- Two errors that differ in their wording alone are retried alike, unless their status of 4xx is all there is to tell
and one of them mentions a timeout or the network. What is denied is rejected for good, unless it is so worded. -/
theorem wordingDecidesIff (f : Fault) :
    (∀ g, Akin f g → (f.retried = g.retried ↔ ¬ (f.Exposed ∧ f.worded ≠ g.worded))) ∧
      (f.Bare → ((∃ error, f.Rejects error) ↔ ¬ (f.Exposed ∧ f.worded))) :=
  ⟨fun _ => akinRetried,bareRejects⟩

def missing (text : String) : Fault :=
  .mk (.foreign "RpcError" text ⟨false,false⟩) { Traits.none with status := some (.int 404) } none

theorem missingAkin (text text' : String) : Akin (missing text) (missing text') :=
  ⟨⟨rfl,rfl⟩,rfl,rfl,rfl,rfl,rfl,rfl,rfl,rfl⟩

theorem missingExposed (text : String) : (missing text).Exposed := by
  have uncoded (codes : List String) : ¬ (missing text).Coded codes := fun ⟨_,_,coded⟩ => nomatch coded
  have calm : ¬ (missing text).Throttled := by
    rintro (status | code)
    · cases status
    · cases code
  have label : (missing text).label = "RpcError" := rfl
  have plain : (missing text).isTimeout = false ∧ (missing text).isSystem = false := ⟨rfl,rfl⟩
  exact ⟨⟨rfl,rfl,calm,uncoded _,by simp [Timed,label,plain],by simp [Wired,label,plain]⟩,uncoded _,uncoded _⟩

theorem mentionsIs (word : String) : f.mentions word = Text.contains (f.message.toList.foldl (fun acc c =>
    if c = Char.ofNat 0x212a then acc.push 'k'
    else if c = Char.ofNat 0x130 then (acc.push 'i').push (Char.ofNat 0x307)
    else acc.push c.toLower) "").toList word.toList := by
  rw [mentions,Text.lowerLatin,String.foldl_eq_foldl_toList]

theorem missingWorded : (missing "unknown chain id").worded = false ∧ (missing "no such chain").worded = false ∧
    (missing "unknown network id").worded = true := by
  simp only [worded,mentionsIs]
  decide +kernel

theorem missingAlike : Akin (missing "unknown chain id") (missing "no such chain") ∧
    (missing "unknown chain id").retried = (missing "no such chain").retried ∧ (missing "unknown chain id").Bare ∧
    ∃ error, (missing "unknown chain id").Rejects error := by
  obtain ⟨unknown,none,-⟩ := missingWorded
  have akin := missingAkin "unknown chain id" "no such chain"
  have bare := (missingExposed "unknown chain id").bare
  obtain ⟨alike,rejects⟩ := wordingDecidesIff (missing "unknown chain id")
  exact ⟨akin,(alike _ akin).mpr (by simp [unknown,none]),bare,(rejects bare).mpr (by simp [unknown])⟩

/-- One of two answers of 404 that differ in their wording alone is tried again. -/
theorem networkRetried : Akin (missing "unknown chain id") (missing "unknown network id") ∧
    (missing "unknown network id").status? = some 404 ∧ (missing "unknown chain id").retried = .ok false ∧
    (missing "unknown network id").retried = .ok true := by
  obtain ⟨unworded,-,worded⟩ := missingWorded
  refine ⟨missingAkin _ _,rfl,?_,?_⟩
  · rw [(missingExposed _).retried,unworded]
  · rw [(missingExposed _).retried,worded]

end Fault
end ReadThrough
