import ReadThrough.Proofs.Verdict

/-! How the error of an attempt is judged. Errors carry data of any form, and reading it can go wrong in three
ways: a raw error asks for a wait that no double holds, a classified one for something that is no amount, or
the schedule leaves the numbers. All else is a failure of the ledger, which is given up or tried again. -/
namespace ReadThrough
variable {τ : Type} [Quantity τ]

def Promised : Except Fault Value → Prop
  | .ok _ => True
  | .error f => f.failure.isRemote ∨ f.isCancelled

namespace Value

def Beyond (v : Value) : Prop := ∃ n, v.number? = some (.whole n) ∧ (Decimal.ofWhole n).isInf

theorem amountNumber {v : Value} {n : Number} (numbered : v.number? = some n) :
    v.amount = n.toFloat?.mapError .arithmetic := by
  cases v with
  | bool | int | float =>
    cases numbered
    simp only [amount,number?]
    cases Number.toFloat? _ <;> rfl
  | null | str | bytes | decimal | tuple | list | dict | circular => cases numbered

theorem amountBeyond {v : Value} (beyond : v.Beyond) : v.amount = .error (.arithmetic .wholeTooLarge) := by
  obtain ⟨n,numbered,infinite⟩ := beyond
  rw [amountNumber numbered]
  simp only [Number.toFloat?,if_pos infinite]
  rfl

theorem amountFails {v : Value} {why : Failure} (fails : v.amount = .error why) :
    (why = .arithmetic .wholeTooLarge ∧ v.Beyond) ∨ (∃ shown, why = .notSpelled shown) ∨
      ∃ kind, why = .notNumber kind := by
  have spelled (x : Option Float) (shown : String)
      (fails : x.elim (.error (.notSpelled shown)) .ok = (.error why : Except Failure Float)) :
      ∃ shown, why = .notSpelled shown := by
    cases x with
    | none => cases fails; exact ⟨_,rfl⟩
    | some x => cases fails
  cases numbered : v.number? with
  | some n =>
    rw [amountNumber numbered] at fails
    cases n with
    | real x => cases fails
    | whole n =>
      simp only [Number.toFloat?] at fails
      split at fails
      · cases fails
        exact .inl ⟨rfl,n,numbered,‹_›⟩
      · cases fails
  | none =>
    cases v with
    | str s => exact .inr (.inl (spelled _ _ fails))
    | decimal s => exact .inr (.inl (spelled _ _ fails))
    | bytes bs => exact .inr (.inl (spelled _ _ fails))
    | null | tuple | list | dict | circular => cases fails; exact .inr (.inr ⟨_,rfl⟩)
    | bool | int | float => cases numbered

theorem amountOverflows {v : Value} : (∃ why, v.amount = .error (.arithmetic why)) ↔ v.Beyond := by
  refine ⟨fun ⟨why,fails⟩ => ?_,fun beyond => ⟨_,amountBeyond beyond⟩⟩
  rcases amountFails fails with ⟨-,beyond⟩ | ⟨shown,other⟩ | ⟨kind,other⟩
  · exact beyond
  · cases other
  · cases other

theorem amountUnpromised {v : Value} {why : Failure} (fails : v.amount = .error why) :
    ¬ Promised (.error (.of why)) := by
  rcases amountFails fails with ⟨rfl,-⟩ | ⟨shown,rfl⟩ | ⟨kind,rfl⟩ <;> nofun

end Value

namespace Fault

def asked (f : Fault) : Value :=
  match f.traits.retryAfter.getD .null with
  | .null => headerWait (f.traits.headers.getD .null)
  | v => v

def Throttled (f : Fault) : Prop := f.status? = some 429 ∨ f.code? = some throttleCode

theorem waitFails {raw : Fault} : (∃ why, raw.wait = .error why) ↔ raw.asked.Beyond := by
  rw [← Value.amountOverflows]
  unfold wait
  dsimp only
  split
  · rename_i silent
    change raw.asked = .null at silent
    rw [silent]
    exact ⟨nofun,nofun⟩
  · split
    · rename_i x reads
      change raw.asked.amount = .ok x at reads
      rw [reads]
      exact ⟨nofun,nofun⟩
    · rename_i why fails
      exact ⟨fun _ => ⟨why,fails⟩,fun _ => ⟨why,rfl⟩⟩
    · rename_i failure other fails
      change raw.asked.amount = .error failure at fails
      refine ⟨nofun,fun ⟨why,same⟩ => ?_⟩
      cases fails.symm.trans same
      exact absurd rfl (other why)

inductive Classified (raw : Fault) : Except ArithmeticFault Fault → Prop where
  | typed (typed : raw.failure.isRemote) : Classified raw (.ok raw)
  | throttled (untyped : raw.failure.isRemote = false) (throttled : raw.Throttled) (wait : Option Float)
      (asked : raw.wait = .ok wait) :
      Classified raw (.ok (.mk (Remote.throttled.failure "")
        { Traits.none with retryAfter := some ((wait.map Value.float).getD .null) } (some raw)))
  | beyond (untyped : raw.failure.isRemote = false) (throttled : raw.Throttled) (why : ArithmeticFault)
      (asked : raw.wait = .error why) : Classified raw (.error why)
  | other (untyped : raw.failure.isRemote = false) (calm : ¬ raw.Throttled) (kind : Remote) (text : String)
      (severity : Option Value) :
      Classified raw (.ok (.mk (kind.failure text) { Traits.none with severity } (some raw)))

theorem classifies (raw : Fault) : Classified raw raw.classify := by
  by_cases typed : raw.failure.isRemote
  · rw [classify,if_pos typed]
    exact .typed typed
  have untyped := Bool.eq_false_iff.mpr typed
  simp only [classify,if_neg typed]
  by_cases throttled : raw.status? = some 429 ∨ raw.code? = some throttleCode
  · rw [if_pos throttled]
    cases asked : raw.wait with
    | ok wait => exact .throttled untyped throttled wait asked
    | error why => exact .beyond untyped throttled why asked
  · rw [if_neg throttled]
    split
    · exact .other untyped throttled .contract _ _
    · repeat' split
      all_goals exact .other untyped throttled _ "" none

theorem classifyRemote {raw error : Fault} (classified : raw.classify = .ok error) : error.failure.isRemote := by
  have known := classifies raw
  rw [classified] at known
  cases known with
  | typed typed => exact typed
  | throttled | other => rfl

theorem classifyFails {raw : Fault} : (∃ why, raw.classify = .error why) ↔
    raw.failure.isRemote = false ∧ raw.Throttled ∧ raw.asked.Beyond := by
  rw [← waitFails]
  have known := classifies raw
  generalize raw.classify = result at known
  cases known with
  | typed typed => exact ⟨nofun,fun ⟨untyped,_⟩ => by cases typed.symm.trans untyped⟩
  | other untyped calm => exact ⟨nofun,fun ⟨_,throttled,_⟩ => absurd throttled calm⟩
  | throttled untyped throttled wait asked =>
    exact ⟨nofun,fun ⟨_,_,_,fails⟩ => by cases asked.symm.trans fails⟩
  | beyond untyped throttled why asked => exact ⟨fun _ => ⟨untyped,throttled,why,asked⟩,fun _ => ⟨why,rfl⟩⟩

theorem hintClassified {raw error : Fault} (untyped : raw.failure.isRemote = false)
    (classified : raw.classify = .ok error) : ∃ hint : Option τ, error.hint = .ok hint := by
  have known := classifies raw
  rw [classified] at known
  cases known with
  | typed typed => cases typed.symm.trans untyped
  | throttled _ _ wait =>
    cases wait with
    | none => exact ⟨none,rfl⟩
    | some x => exact ⟨_,rfl⟩
  | other _ _ kind =>
    cases kind <;> exact ⟨none,rfl⟩

theorem hintFails {f : Fault} : (∃ why, (f.hint : Except Failure (Option τ)) = .error why) ↔
    ∃ v, f.retryAfter? = some v ∧ v ≠ .null ∧ ∀ x, v.amount ≠ .ok x := by
  simp only [hint]
  split
  · rename_i nothing
    exact ⟨nofun,fun ⟨_,asks,_⟩ => nomatch nothing.symm.trans asks⟩
  · rename_i nothing
    refine ⟨nofun,fun ⟨v,asks,given,_⟩ => ?_⟩
    cases nothing.symm.trans asks
    exact absurd rfl given
  · rename_i v given asks
    split
    · rename_i x reads
      refine ⟨nofun,fun ⟨w,same,_,unread⟩ => ?_⟩
      cases asks.symm.trans same
      exact absurd reads (unread x)
    · rename_i why fails
      exact ⟨fun _ => ⟨v,asks,given,fun x reads => nomatch fails.symm.trans reads⟩,fun _ => ⟨why,rfl⟩⟩

theorem hintUnpromised {f : Fault} {why : Failure} (fails : (f.hint : Except Failure (Option τ)) = .error why) :
    ¬ Promised (.error (.of why)) := by
  simp only [hint] at fails
  split at fails
  · cases fails
  · cases fails
  · split at fails
    · cases fails
    · rename_i v given asks _ reads
      cases fails
      exact Value.amountUnpromised reads

end Fault

inductive Slips (service : Service τ) (retries : Int) (made : Nat) (raw : Fault) : Prop where
  /-- A raw error asks for a wait that no double holds. -/
  | beyond (untyped : raw.failure.isRemote = false) (inTime : ¬ (service.limit.isSome ∧ raw.isTimeout))
      (throttled : raw.Throttled) (asks : raw.asked.Beyond)
  /-- A classified error asks for a wait that is no amount, and there would be another attempt. -/
  | unreadable (typed : raw.failure.isRemote) (v : Value) (asks : raw.retryAfter? = some v) (given : v ≠ .null)
      (unread : ∀ x, v.amount ≠ .ok x) (retryable : raw.isRetryable) (more : (made : Int) < retries)
  /-- Nothing is asked for, and the schedule of the next attempt leaves the numbers. -/
  | unscheduled (error : Fault) (classified : Backoff.classify service.limit raw = .ok error)
      (silent : error.hint = .ok (none : Option τ)) (why : ArithmeticFault)
      (fails : service.backoff.scheduled made service.draw = .error why) (retryable : error.isRetryable)
      (more : (made : Int) < retries)

namespace Backoff

theorem limitClassifies (limit : Option τ) (raw : Fault) :
    (limit.isSome ∧ raw.isTimeout ∧
      ∃ text, classify limit raw = .ok (.mk (.remote .timeout text) Traits.none (some raw))) ∨
    (¬ (limit.isSome ∧ raw.isTimeout) ∧ classify limit raw = raw.classify) := by
  cases limit with
  | none => exact .inr ⟨nofun,rfl⟩
  | some t =>
    simp only [classify]
    split
    · exact .inl ⟨rfl,‹_›,_,rfl⟩
    · exact .inr ⟨fun ⟨_,timeout⟩ => absurd timeout ‹_›,rfl⟩

theorem classifiedRemote {limit : Option τ} {raw error : Fault} (classified : classify limit raw = .ok error) :
    error.failure.isRemote := by
  rcases limitClassifies limit raw with ⟨-,-,text,timeout⟩ | ⟨-,same⟩
  · cases timeout.symm.trans classified
    rfl
  · exact Fault.classifyRemote (same.symm.trans classified)

theorem classifyFails {limit : Option τ} {raw : Fault} : (∃ why, classify limit raw = .error why) ↔
    raw.failure.isRemote = false ∧ ¬ (limit.isSome ∧ raw.isTimeout) ∧ raw.Throttled ∧ raw.asked.Beyond := by
  rcases limitClassifies limit raw with ⟨limited,late,text,timeout⟩ | ⟨inTime,same⟩
  · rw [timeout]
    exact ⟨nofun,fun ⟨_,inTime,_⟩ => absurd ⟨limited,late⟩ inTime⟩
  · rw [same,Fault.classifyFails]
    exact ⟨fun ⟨untyped,rest⟩ => ⟨untyped,inTime,rest⟩,fun ⟨untyped,_,rest⟩ => ⟨untyped,rest⟩⟩

theorem classifyTyped (limit : Option τ) {raw : Fault} (typed : raw.failure.isRemote) :
    classify limit raw = .ok raw := by
  have timeless : ¬ raw.isTimeout := by
    rcases raw with ⟨failure,traits,cause⟩
    cases failure with
    | remote kind text => nofun
    | _ => cases typed
  rcases limitClassifies limit raw with ⟨-,late,-⟩ | ⟨-,same⟩
  · exact absurd late timeless
  · rw [same,Fault.classify,if_pos typed]

theorem hintTyped {limit : Option τ} {raw error : Fault} (classified : classify limit raw = .ok error)
    {why : Failure} (fails : (error.hint : Except Failure (Option τ)) = .error why) :
    raw.failure.isRemote ∧ error = raw := by
  cases typed : raw.failure.isRemote with
  | true =>
    cases (classifyTyped limit typed).symm.trans classified
    exact ⟨rfl,rfl⟩
  | false =>
    rcases limitClassifies limit raw with ⟨-,-,text,timeout⟩ | ⟨-,same⟩
    · cases timeout.symm.trans classified
      cases fails
    · obtain ⟨hint,reads⟩ := Fault.hintClassified (τ := τ) typed (same.symm.trans classified)
      cases reads.symm.trans fails

section
variable {service : Service τ} {retries : Int} {made : Nat} {raw error : Fault}

/-! What is made of an error: it cannot be classified, no attempt is left for it, or its wait is looked up. -/

theorem decideUnjudged {why : ArithmeticFault} (unjudged : classify service.limit raw = .error why) :
    (service.allowing retries).backoff.decide service.limit service.draw made raw = .error (.arithmetic why) := by
  rw [Backoff.decide,unjudged]

theorem decideSpent (classified : classify service.limit raw = .ok error)
    (spent : ¬ (error.isRetryable ∧ (made : Int) < retries)) :
    (service.allowing retries).backoff.decide service.limit service.draw made raw = .ok (.giveUp error) := by
  rw [Backoff.decide,classified]
  refine if_pos ?_
  by_cases retryable : error.isRetryable
  · have spent : retries ≤ made := Int.not_lt.mp fun more => spent ⟨retryable,more⟩
    simp [Service.allowing,spent]
  · simp [retryable]

theorem decideMore (classified : classify service.limit raw = .ok error) (retryable : error.isRetryable)
    (more : (made : Int) < retries) :
    (service.allowing retries).backoff.decide service.limit service.draw made raw =
      match (error.hint : Except Failure (Option τ)) with
      | .error why => .error why
      | .ok hint => match service.backoff.delay made hint service.draw with
        | .error why => .error (.arithmetic why)
        | .ok delay => .ok (.again error delay) := by
  have goes : ¬ (!error.isRetryable || Decidable.decide (retries ≤ made)) = true := by simp [retryable,more]
  rw [Backoff.decide,classified]
  exact if_neg goes

inductive Judged (service : Service τ) (retries : Int) (made : Nat) (raw : Fault) :
    Except Failure (Sequel τ) → Prop where
  | unjudged (why : ArithmeticFault) (fails : classify service.limit raw = .error why) :
      Judged service retries made raw (.error (.arithmetic why))
  | spent (error : Fault) (classified : classify service.limit raw = .ok error)
      (spent : ¬ (error.isRetryable ∧ (made : Int) < retries)) :
      Judged service retries made raw (.ok (.giveUp error))
  | unread (error : Fault) (classified : classify service.limit raw = .ok error) (retryable : error.isRetryable)
      (more : (made : Int) < retries) (why : Failure)
      (fails : (error.hint : Except Failure (Option τ)) = .error why) :
      Judged service retries made raw (.error why)
  | unscheduled (error : Fault) (classified : classify service.limit raw = .ok error)
      (retryable : error.isRetryable) (more : (made : Int) < retries) (silent : error.hint = .ok (none : Option τ))
      (why : ArithmeticFault) (fails : service.backoff.scheduled made service.draw = .error why) :
      Judged service retries made raw (.error (.arithmetic why))
  | again (error : Fault) (delay : τ) (more : (made : Int) < retries) :
      Judged service retries made raw (.ok (.again error delay))

theorem judges (service : Service τ) (retries : Int) (made : Nat) (raw : Fault) :
    Judged service retries made raw
      ((service.allowing retries).backoff.decide service.limit service.draw made raw) := by
  cases classified : classify service.limit raw with
  | error why =>
    rw [decideUnjudged classified]
    exact .unjudged why classified
  | ok error =>
    by_cases more : error.isRetryable ∧ (made : Int) < retries
    · obtain ⟨retryable,more⟩ := more
      rw [decideMore classified retryable more]
      cases reads : (error.hint : Except Failure (Option τ)) with
      | error why => exact .unread error classified retryable more why reads
      | ok hint =>
        cases waits : service.backoff.delay made hint service.draw with
        | ok delay =>
          simp only [waits]
          exact .again error delay more
        | error why =>
          simp only [waits]
          cases hint with
          | some wait => cases waits
          | none => exact .unscheduled error classified retryable more reads why waits
    · rw [decideSpent classified more]
      exact .spent error classified more

theorem decideFails :
    (∃ why, (service.allowing retries).backoff.decide service.limit service.draw made raw = .error why) ↔
      Slips service retries made raw := by
  constructor
  · rintro ⟨why,fails⟩
    have judged := judges service retries made raw
    rw [fails] at judged
    clear fails
    cases judged with
    | unjudged why fails =>
      obtain ⟨untyped,inTime,throttled,asks⟩ := classifyFails.mp ⟨why,fails⟩
      exact .beyond untyped inTime throttled asks
    | unread error classified retryable more _ fails =>
      obtain ⟨typed,rfl⟩ := hintTyped classified fails
      obtain ⟨v,asks,given,unread⟩ := Fault.hintFails.mp ⟨why,fails⟩
      exact .unreadable typed v asks given unread retryable more
    | unscheduled error classified retryable more silent why fails =>
      exact .unscheduled error classified silent why fails retryable more
  · rintro (⟨untyped,inTime,throttled,asks⟩ | ⟨typed,v,asks,given,unread,retryable,more⟩ |
      ⟨error,classified,silent,why,fails,retryable,more⟩)
    · obtain ⟨why,unjudged⟩ := classifyFails.mpr ⟨untyped,inTime,throttled,asks⟩
      exact ⟨_,decideUnjudged unjudged⟩
    · obtain ⟨why,unread⟩ := (Fault.hintFails (τ := τ)).mpr ⟨v,asks,given,unread⟩
      exact ⟨why,by rw [decideMore (classifyTyped service.limit typed) retryable more,unread]⟩
    · refine ⟨.arithmetic why,?_⟩
      rw [decideMore classified retryable more]
      simp only [silent,Backoff.delay,fails]

theorem decideUnpromised {why : Failure}
    (fails : (service.allowing retries).backoff.decide service.limit service.draw made raw = .error why) :
    ¬ Promised (.error (.of why)) := by
  have judged := judges service retries made raw
  rw [fails] at judged
  cases judged with
  | unjudged | unscheduled => nofun
  | unread error classified retryable more _ fails => exact Fault.hintUnpromised fails

theorem decideGivesUp
    (ends : (service.allowing retries).backoff.decide service.limit service.draw made raw = .ok (.giveUp error)) :
    error.failure.isRemote := by
  have judged := judges service retries made raw
  rw [ends] at judged
  cases judged with
  | spent _ classified spent => exact classifiedRemote classified

end

end Backoff

end ReadThrough
