import ReadThrough.Proofs.Outcome

/-! How a call of set goes. It passes its checks one after the other: the key, the limiter, the size of the data,
the time to live. The first that it does not pass ends it, and no more than the limiter has changed; else it comes
to the part that lands it. -/
namespace ReadThrough.Store
variable {τ : Type} [Quantity τ]

structure Lands (s : Store τ) (now : τ) (raw data : Value) (o : Options τ) (key : String) : Prop where
  admitted : s.gate.admitKey raw = .ok key
  room : s.limiter.HasRoom now key
  weighed : ∃ size, s.gate.measure data = .ok size
  lasting : ¬ o.ttl.getD (s.ttlFor key) ≤ Quantity.ofInt 0

def accessed (s : Store τ) (now : τ) (key : String) : Store τ :=
  { s with limiter := (s.limiter.check now key).2 }

inductive Stops (s : Store τ) (now : τ) (raw data : Value) (o : Options τ) : Failure → Store τ → Prop where
  | unnamed {why : Failure} (refused : s.gate.admitKey raw = .error why) : Stops s now raw data o why s
  | limited {key : String} (admitted : s.gate.admitKey raw = .ok key) (full : ¬ s.limiter.HasRoom now key) :
      Stops s now raw data o (.rateLimited key s.limiter.ceiling (Quantity.toNumber s.limiter.window))
        (s.accessed now key)
  | heavy {key : String} {why : Failure} (admitted : s.gate.admitKey raw = .ok key)
      (room : s.limiter.HasRoom now key) (refused : s.gate.measure data = .error why) :
      Stops s now raw data o why (s.accessed now key)
  | fleeting {key : String} {size : Nat} (admitted : s.gate.admitKey raw = .ok key)
      (room : s.limiter.HasRoom now key) (weighed : s.gate.measure data = .ok size)
      (spent : o.ttl.getD (s.ttlFor key) ≤ Quantity.ofInt 0) :
      Stops s now raw data o .nonPositiveTtl (s.accessed now key)

variable {s : Store τ} {now : τ} {raw data : Value} {o : Options τ}

theorem Stops.limiter {why : Failure} {s' : Store τ} (stops : s.Stops now raw data o why s') :
    ∃ l, s' = { s with limiter := l } := by
  cases stops with
  | unnamed => exact ⟨s.limiter,rfl⟩
  | _ => exact ⟨_,rfl⟩

omit [Quantity τ] in
theorem weighPasses {size : Nat} (weighed : s.gate.measure data = .ok size) : weigh data s = (.ok (),s) := by
  rw [weigh,weighed]

omit [Quantity τ] in
theorem weighRefuses {why : Failure} (refused : s.gate.measure data = .error why) :
    weigh data s = (.error (.of why),s) := by
  rw [weigh,refused]

theorem setWeighed {key : String} {size : Nat} (admitted : s.gate.admitKey raw = .ok key)
    (room : s.limiter.HasRoom now key) (weighed : s.gate.measure data = .ok size) : set now raw data o s =
      if o.ttl.getD (s.ttlFor key) ≤ Quantity.ofInt 0 then (.error (.of .nonPositiveTtl),s.accessed now key)
      else land now key (o.ttl.getD (s.ttlFor key)) data o (s.accessed now key) := by
  rw [set,Op.bind_ok (accessPasses now admitted room)]
  change (weigh data >>= _) (s.accessed now key) = _
  have weighed' : (s.accessed now key).gate.measure data = .ok size := weighed
  rw [Op.bind_ok (weighPasses weighed'),Op.bind_ok (show Op.read (s.accessed now key) = (.ok _,_) from rfl)]
  change (if o.ttl.getD (s.ttlFor key) ≤ Quantity.ofInt 0 then _ else _ : Op (Store τ) String) _ = _
  split <;> rfl

theorem setLands {key : String} (lands : s.Lands now raw data o key) : set now raw data o s =
    land now key (o.ttl.getD (s.ttlFor key)) data o (s.accessed now key) := by
  obtain ⟨admitted,room,⟨size,weighed⟩,lasting⟩ := lands
  rw [setWeighed admitted room weighed,if_neg lasting]

theorem setStops {why : Failure} {s' : Store τ} (stops : s.Stops now raw data o why s') :
    set now raw data o s = (.error (.of why),s') := by
  cases stops with
  | unnamed refused => rw [set,accessKey,Op.bind_error (Op.bind_error (admitKeyRefuses refused))]
  | limited admitted full => exact setLimited now admitted data o full
  | @heavy key why admitted room refused =>
    have refused' : (s.accessed now key).gate.measure data = .error why := refused
    rw [set,Op.bind_ok (accessPasses now admitted room)]
    exact Op.bind_error (weighRefuses refused')
  | fleeting admitted room weighed spent => rw [setWeighed admitted room weighed,if_pos spent]

theorem stopsOrLands (s : Store τ) (now : τ) (raw data : Value) (o : Options τ) :
    (∃ why s', s.Stops now raw data o why s') ∨ ∃ key, s.Lands now raw data o key := by
  cases admitted : s.gate.admitKey raw with
  | error why => exact .inl ⟨_,_,.unnamed admitted⟩
  | ok key =>
    by_cases room : s.limiter.HasRoom now key
    · cases weighed : s.gate.measure data with
      | error why => exact .inl ⟨_,_,.heavy admitted room weighed⟩
      | ok size =>
        by_cases spent : o.ttl.getD (s.ttlFor key) ≤ Quantity.ofInt 0
        · exact .inl ⟨_,_,.fleeting admitted room weighed spent⟩
        · exact .inr ⟨key,admitted,room,⟨size,weighed⟩,spent⟩
    · exact .inl ⟨_,_,.limited admitted room⟩

end ReadThrough.Store
