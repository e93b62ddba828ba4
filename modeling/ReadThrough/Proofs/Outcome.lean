import ReadThrough.Proofs.Writes

/-! How a write ends. Where the sink takes the counts, a write of data that is small enough, with a
positive time to live, is stored exactly if the limiter has room for one more access to the key. -/
namespace ReadThrough
variable {τ : Type} [Quantity τ]

namespace Limiter

def HasRoom (l : Limiter τ) (now : τ) (key : String) : Prop :=
  0 < l.ceiling → ((l.recent now ((l.seen.get? key).getD [])).length : Int) < l.ceiling

instance (l : Limiter τ) (now : τ) (key : String) : Decidable (l.HasRoom now key) :=
  inferInstanceAs (Decidable (_ → _))

theorem checkIff (l : Limiter τ) (now : τ) (key : String) :
    (l.check now key).1 = true ↔ l.HasRoom now key := by
  unfold check isEnabled HasRoom
  by_cases limits : 0 < l.ceiling
  · simp only [limits,decide_true,if_true]
    split <;> simp_all
  · simp [limits]

theorem checkCeiling (l : Limiter τ) (now : τ) (key : String) :
    (l.check now key).2.ceiling = l.ceiling ∧ (l.check now key).2.window = l.window := by
  unfold check
  split
  · dsimp only
    split <;> exact ⟨rfl,rfl⟩
  · exact ⟨rfl,rfl⟩

end Limiter

/-! Counting that does not fail. -/

/-- The sink takes the sizes up to a bound. -/
def Sink.Takes (most : Nat) : Sink τ → Prop
  | .refusing => False
  | .exposition _ => ∀ n : Nat, n ≤ most → ∃ x, (Value.int n).amount = .ok x
  | .journal | .silent => True

inductive Event.Plain (most : Nat) : Event → Prop
  | eviction (key : String) : Plain most (.eviction key)
  | circuit (endpoint before after : String) : Plain most (.circuit endpoint before after)
  | size {n : Nat} (fits : n ≤ most) : Plain most (.size n)

namespace Meter
variable {most : Nat} {m : Meter τ}

theorem reportTakes (takes : m.sink.Takes most) {e : Event} (plain : e.Plain most) :
    ∃ m', report e m = (.ok (),m') ∧ m'.sink.Takes most := by
  unfold report
  cases kind : m.sink with
  | journal => exact ⟨m.note e,rfl,by rw [note,kind]; trivial⟩
  | silent => exact ⟨m,rfl,by rw [kind]; trivial⟩
  | refusing => rw [kind] at takes; exact takes.elim
  | exposition x =>
    rw [kind] at takes
    have passes : (x.report e).1 = .ok () := by
      cases plain with
      | eviction key => rfl
      | circuit endpoint before after => rfl
      | @size n fits =>
        obtain ⟨r,fair⟩ := takes n fits
        change (x.gauge (.int n)).1 = _
        rw [Exposition.gauge,fair]
    dsimp only
    cases reported : x.report e with
    | mk r x' =>
      rw [reported] at passes
      cases passes
      exact ⟨_,rfl,takes⟩

end Meter

namespace Store
variable {most : Nat} {s : Store τ}

theorem reportSizeTakes (takes : s.meter.sink.Takes most) (fits : s.entries.size ≤ most) :
    ∃ m, reportSize s = (.ok (),{ s with meter := m }) ∧ m.sink.Takes most := by
  obtain ⟨m,counted,still⟩ := @Meter.reportTakes τ _ most { s.meter with size := s.entries.size } takes _
    (.size fits)
  refine ⟨m,?_,still⟩
  have sized : Meter.setSize s.entries.size s.meter = (.ok (),m) := counted
  rw [reportSize,Op.bind_ok (show Op.read s = (.ok s,s) from rfl),metered,Op.within,sized]

omit [Quantity τ] in
theorem removeSize (key : String) : (s.remove key).2.entries.size ≤ s.entries.size := by
  unfold remove
  split
  · exact Nat.le_refl _
  · exact List.length_filter_le _ _

omit [Quantity τ] in
theorem removeMeter (key : String) : (s.remove key).2.meter = s.meter := by
  unfold remove
  split <;> rfl

theorem evictTakes (now : τ) (takes : s.meter.sink.Takes most) (fits : s.entries.size ≤ most) :
    ∃ gone s', evict now s = (.ok gone,s') ∧ s'.meter.sink.Takes most ∧
      s'.entries.size ≤ s.entries.size := by
  unfold evict
  rw [Op.bind_ok (show Op.read s = (.ok s,s) from rfl)]
  cases oldest s.entries.entries with
  | none => exact ⟨none,s,rfl,takes,Nat.le_refl _⟩
  | some victim =>
    obtain ⟨key,e⟩ := victim
    dsimp only
    have small := removeSize (s := s) key
    have removed : Op.step (·.remove key) s = (.ok (s.remove key).1,(s.remove key).2) := rfl
    rw [← removeMeter (s := s) key] at takes
    generalize (s.remove key).2 = s₁ at small takes removed
    obtain ⟨m,counted,still⟩ := @Meter.reportTakes τ _ most
      { s₁.meter with evictions := s₁.meter.evictions + 1,
                      evicted := s₁.meter.evicted ++ [(now,1)] } takes _ (.eviction key)
    have noted : metered (Meter.recordEviction now key) s₁ = (.ok (),{ s₁ with meter := m }) := by
      have told : Meter.recordEviction now key s₁.meter = (.ok (),m) := counted
      rw [metered,Op.within,told]
    obtain ⟨m',sized,last⟩ := @reportSizeTakes τ _ most { s₁ with meter := m } still (Nat.le_trans small fits)
    rw [Op.bind_ok removed,Op.bind_ok noted,Op.bind_ok sized]
    exact ⟨some key,_,rfl,last,small⟩

theorem makeRoomTakes (now : τ) (key : String) (takes : s.meter.sink.Takes most)
    (fits : s.entries.size ≤ most) : ∃ s', makeRoom now key s = (.ok (),s') ∧
      s'.meter.sink.Takes most ∧ s'.entries.size ≤ s.entries.size := by
  unfold makeRoom
  rw [Op.bind_ok (show Op.read s = (.ok s,s) from rfl)]
  split
  · obtain ⟨gone,s',evicted,still,small⟩ := evictTakes now takes fits
    rw [Op.bind_ok evicted]
    exact ⟨s',rfl,still,small⟩
  · exact ⟨s,rfl,takes,Nat.le_refl _⟩

omit [Quantity τ] in
theorem insertSize (key : String) (e : Entry τ) : (s.insert key e).entries.size ≤ s.entries.size + 1 := by
  have length (entries : List (String × Entry τ)) :
      (Assoc.place key e entries).length ≤ entries.length + 1 := by
    induction entries with
    | nil => exact Nat.le_refl _
    | cons x rest ih =>
      rw [Assoc.place]
      split
      · exact Nat.le_succ _
      · exact Nat.succ_le_succ ih
  exact length s.entries.entries

omit [Quantity τ] in
theorem forgottenMeter (key : String) : (s.forgotten key).meter = s.meter := by
  unfold forgotten
  split <;> rfl

/-! The part of a write that nothing but a sink stops. -/

def land (now : τ) (key : String) (ttl : τ) (data : Value) (o : Options τ) : Op (Store τ) String := do
  makeRoom now key
  forgetTags key
  let tags ← Op.liftFailure o.tags
  Op.change (·.insert key ⟨data,now,ttl,tags,o.version,o.etag⟩)
  reportSize
  pure key

theorem landTakes (now : τ) (key : String) (ttl : τ) (data : Value) {o : Options τ} {tags : List Tag}
    (tagged : o.tags = .ok tags) (takes : s.meter.sink.Takes (s.entries.size + 1)) :
    ∃ s', land now key ttl data o s = (.ok key,s') ∧
      s'.entries.get? key = some ⟨data,now,ttl,tags,o.version,o.etag⟩ := by
  -- making room only counts and drops entries, so it does not fail, and one more entry fits the bound
  obtain ⟨s₁,room,takes',small⟩ := makeRoomTakes now key takes (Nat.le_succ _)
  have freed : forgetTags key s₁ = (.ok (),s₁.forgotten key) := rfl
  rw [land,Op.bind_ok room,Op.bind_ok freed,tagged]
  generalize new : (⟨data,now,ttl,tags,o.version,o.etag⟩ : Entry τ) = e
  have written : Op.change (·.insert key e) (s₁.forgotten key) =
      (.ok (),(s₁.forgotten key).insert key e) := rfl
  have takes'' : ((s₁.forgotten key).insert key e).meter.sink.Takes (s.entries.size + 1) := by
    rw [insert,forgottenMeter]
    exact takes'
  have fits : ((s₁.forgotten key).insert key e).entries.size ≤ s.entries.size + 1 := by
    refine Nat.le_trans (insertSize key e) (Nat.succ_le_succ ?_)
    rwa [forgottenEntries]
  obtain ⟨m,sized,-⟩ := reportSizeTakes takes'' fits
  rw [Op.bind_ok (show Op.liftFailure (.ok tags) (s₁.forgotten key) = (.ok tags,s₁.forgotten key) from rfl),
    new,Op.bind_ok written,Op.bind_ok sized]
  refine ⟨_,rfl,?_⟩
  simp [insert,Assoc.get?_put]

theorem setOk {now : τ} {raw data : Value} {o : Options τ} {key : String} {s' : Store τ}
    (done : set now raw data o s = (.ok key,s')) : s.gate.admitKey raw = .ok key ∧ ∃ tags, o.tags = .ok tags ∧
      s'.entries.get? key = some ⟨data,now,o.ttl.getD (s.ttlFor key),tags,o.version,o.etag⟩ := by
  obtain ⟨k,s₁,accessed,rest⟩ := Op.bindOk done
  obtain ⟨admitted,l,rfl⟩ := accessKeyOk accessed
  obtain ⟨_,s₂,weighed,rest⟩ := Op.bindOk rest
  obtain ⟨-,rfl⟩ := weighOk weighed
  obtain ⟨s₃,s₄,read,rest⟩ := Op.bindOk rest
  cases read
  dsimp only at rest
  split at rest
  · cases rest
  obtain ⟨_,s₅,-,rest⟩ := Op.bindOk rest
  obtain ⟨_,s₆,-,rest⟩ := Op.bindOk rest
  cases given : o.tags with
  | error why =>
    rw [given] at rest
    obtain ⟨_,_,bad,-⟩ := Op.bindOk rest
    cases bad
  | ok tags =>
    rw [given] at rest
    obtain ⟨_,s₇,lifted,rest⟩ := Op.bindOk rest
    cases lifted
    obtain ⟨_,s₇,inserted,rest⟩ := Op.bindOk rest
    cases inserted
    obtain ⟨_,s₈,sized,last⟩ := Op.bindOk rest
    cases last
    -- the size is only reported
    obtain ⟨l',m,after⟩ := chainStill (@reportChain τ Still _ (s₆.insert key
      ⟨data,now,o.ttl.getD (s.ttlFor key),tags,o.version,o.etag⟩))
    rw [show reportSize (s₆.insert key _) = _ from sized] at after
    obtain (rfl : s' = _) := after
    refine ⟨admitted,tags,rfl,?_⟩
    exact Assoc.putSame _ _ _

theorem setCases (now : τ) (raw data : Value) (o : Options τ) (s : Store τ) :
    (∃ f l, set now raw data o s = (.error f,{ s with limiter := l })) ∨
    ∃ key l, set now raw data o s =
      land now key (o.ttl.getD (s.ttlFor key)) data o { s with limiter := l } := by
  rw [set,Op.bind_apply]
  obtain ⟨l,after⟩ := accessAfter now raw s
  cases accessed : accessKey now raw s with
  | mk result s₁ =>
    rw [accessed] at after
    dsimp only at after
    subst after
    cases result with
    | error f => exact .inl ⟨f,l,rfl⟩
    | ok key =>
      dsimp only
      rw [Op.bind_apply]
      have after := weighAfter data { s with limiter := l }
      cases weighed : weigh data { s with limiter := l } with
      | mk result s₂ =>
        rw [weighed] at after
        dsimp only at after
        subst after
        cases result with
        | error f => exact .inl ⟨f,l,rfl⟩
        | ok u =>
          dsimp only
          rw [Op.bind_ok (show Op.read _ = (.ok _,_) from rfl)]
          split
          · exact .inl ⟨_,l,rfl⟩
          · exact .inr ⟨key,l,rfl⟩

section
variable (now : τ) {raw : Value} {key : String} (admitted : s.gate.admitKey raw = .ok key)
include admitted

theorem accessPasses (room : s.limiter.HasRoom now key) :
    accessKey now raw s = (.ok key,{ s with limiter := (s.limiter.check now key).2 }) := by
  have passes := (Limiter.checkIff s.limiter now key).mpr room
  have limited : limit now key s = (.ok (),{ s with limiter := (s.limiter.check now key).2 }) := by
    unfold limit
    split
    · rename_i l checked
      rw [checked]
    · rename_i l checked
      rw [checked] at passes
      cases passes
  rw [accessKey,Op.bind_ok (admitKeyPasses admitted),Op.bind_ok limited]
  rfl

theorem accessRefused (full : ¬ s.limiter.HasRoom now key) : accessKey now raw s =
    (.error (.of (.rateLimited key s.limiter.ceiling (Quantity.toNumber s.limiter.window))),
      { s with limiter := (s.limiter.check now key).2 }) := by
  have refuses : (s.limiter.check now key).1 = false :=
    Bool.eq_false_iff.mpr fun passes => full ((Limiter.checkIff s.limiter now key).mp passes)
  have kept := Limiter.checkCeiling s.limiter now key
  have limited : limit now key s =
      (.error (.of (.rateLimited key s.limiter.ceiling (Quantity.toNumber s.limiter.window))),
        { s with limiter := (s.limiter.check now key).2 }) := by
    unfold limit
    split
    · rename_i l checked
      rw [checked] at refuses
      cases refuses
    · rename_i l checked
      rw [checked] at kept ⊢
      rw [kept.1,kept.2]
  rw [accessKey,Op.bind_ok (admitKeyPasses admitted),Op.bind_error limited]

theorem setLimited (data : Value) (o : Options τ) (full : ¬ s.limiter.HasRoom now key) : set now raw data o s =
    (.error (.of (.rateLimited key s.limiter.ceiling (Quantity.toNumber s.limiter.window))),
      { s with limiter := (s.limiter.check now key).2 }) := by
  rw [set,Op.bind_error (accessRefused now admitted full)]

theorem setStores {data : Value} {o : Options τ} {size : Nat} {tags : List Tag} (room : s.limiter.HasRoom now key)
    (weighed : s.gate.measure data = .ok size)
    (lasting : ¬ o.ttl.getD (s.ttlFor key) ≤ Quantity.ofInt 0) (tagged : o.tags = .ok tags)
    (takes : s.meter.sink.Takes (s.entries.size + 1)) :
    ∃ s', set now raw data o s = (.ok key,s') ∧ s'.entries.get? key =
      some ⟨data,now,o.ttl.getD (s.ttlFor key),tags,o.version,o.etag⟩ := by
  rw [set,Op.bind_ok (accessPasses now admitted room)]
  have passed : weigh data { s with limiter := (s.limiter.check now key).2 } =
      (.ok (),{ s with limiter := (s.limiter.check now key).2 }) := by
    unfold weigh
    dsimp only
    rw [weighed]
  rw [Op.bind_ok passed]
  generalize spent : ({ s with limiter := (s.limiter.check now key).2 } : Store τ) = s₁
  have same : s₁.ttlFor = s.ttlFor ∧ s₁.meter = s.meter ∧ s₁.entries = s.entries := by
    subst spent
    exact ⟨rfl,rfl,rfl⟩
  rw [← same.2.1,← same.2.2] at takes
  rw [← same.1] at lasting
  rw [Op.bind_ok (show Op.read s₁ = (.ok s₁,s₁) from rfl),if_neg lasting,same.1]
  exact landTakes now key _ data tagged takes

end

end Store

end ReadThrough
