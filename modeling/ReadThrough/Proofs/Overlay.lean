import ReadThrough.Settings.Source

/-! Mappings laid over one another, read by name: where the upper one says something it counts, two
mappings under one name are merged in their turn, and what the upper one leaves out stays. -/
namespace ReadThrough.Value

theorem sameName {k : Value} {name : String} : k.sameKey (str name) = true ↔ k = str name := by
  cases k <;> simp [sameKey,number?]

theorem sameNamed {k l : Value} (same : k.sameKey l = true) (name : String) :
    k.sameKey (str name) = l.sameKey (str name) := by
  cases l with
  | str given => rw [sameName.mp same]
  | _ => cases k <;> simp_all [sameKey,number?]

@[simp] theorem fieldNil (name : String) : (dict []).field? name = none := rfl

theorem fieldCons (k v : Value) (rest : List (Value × Value)) (name : String) :
    (dict ((k, v) :: rest)).field? name =
      if k.sameKey (str name) then some v else (dict rest).field? name := by
  cases k <;> simp [field?,List.find?_cons,sameKey,number?]
  split <;> simp_all

theorem fieldPut (k v : Value) (entries : List (Value × Value)) (name : String) :
    (dict (putEntry k v entries)).field? name =
      if k.sameKey (str name) then some v else (dict entries).field? name := by
  induction entries with
  | nil => simp [putEntry,fieldCons]
  | cons e rest ih =>
    obtain ⟨l,w⟩ := e
    by_cases same : l.sameKey k = true
    · rw [putEntry,if_pos same,fieldCons,fieldCons,sameNamed same]
      split <;> rfl
    · rw [putEntry,if_neg same,fieldCons,fieldCons,ih]
      by_cases mine : l.sameKey (str name) = true
      · have other : k.sameKey (str name) ≠ true := by
          intro hers
          rw [sameName.mp mine,sameName.mp hers] at same
          simp [sameKey] at same
        rw [if_pos mine,if_pos mine,if_neg other]
      · rw [if_neg mine,if_neg mine]

theorem findName (entries : List (Value × Value)) (name : String) :
    (entries.find? (fun e => e.1.sameKey (str name))).map (·.2) = (dict entries).field? name := by
  induction entries with
  | nil => rfl
  | cons e rest ih =>
    rw [fieldCons,← ih,List.find?_cons]
    split <;> simp_all

def DistinctKeys (entries : List (Value × Value)) : Prop :=
  entries.Pairwise (fun a b => a.1.sameKey b.1 = false)

theorem fieldAbsent {k : Value} {rest : List (Value × Value)} {name : String}
    (distinct : ∀ e ∈ rest, k.sameKey e.1 = false) (same : k.sameKey (str name) = true) :
    (dict rest).field? name = none := by
  induction rest with
  | nil => rfl
  | cons e rest ih =>
    have other : e.1.sameKey (str name) ≠ true := by
      intro hers
      have apart := distinct e (List.mem_cons_self ..)
      rw [sameName.mp hers,same] at apart
      cases apart
    rw [fieldCons,if_neg other]
    exact ih fun e mem => distinct e (List.mem_cons_of_mem _ mem)

theorem putKey {k v : Value} {entries : List (Value × Value)} {e : Value × Value}
    (mem : e ∈ putEntry k v entries) : e.1 = k ∨ ∃ f ∈ entries, e.1 = f.1 := by
  induction entries with
  | nil => exact .inl (by simp_all [putEntry])
  | cons f rest ih =>
    obtain ⟨l,w⟩ := f
    rw [putEntry] at mem
    split at mem
    · rcases List.mem_cons.mp mem with rfl | old
      · exact .inr ⟨(l, w),List.mem_cons_self ..,rfl⟩
      · exact .inr ⟨e,List.mem_cons_of_mem _ old,rfl⟩
    · rcases List.mem_cons.mp mem with rfl | later
      · exact .inr ⟨_,List.mem_cons_self ..,rfl⟩
      · exact (ih later).imp id fun ⟨f,there,key⟩ => ⟨f,List.mem_cons_of_mem _ there,key⟩

theorem entryDistinct {k v : Value} {entries : List (Value × Value)} (distinct : DistinctKeys entries) :
    DistinctKeys (putEntry k v entries) := by
  induction entries with
  | nil => simp [putEntry,DistinctKeys]
  | cons e rest ih =>
    obtain ⟨l,w⟩ := e
    obtain ⟨apart,distinct⟩ := List.pairwise_cons.mp distinct
    rw [putEntry]
    split
    · exact List.pairwise_cons.mpr ⟨apart,distinct⟩
    · rename_i other
      refine List.pairwise_cons.mpr ⟨fun e mem => ?_,ih distinct⟩
      rcases putKey mem with same | old
      · rw [same]
        simpa using other
      · obtain ⟨f,there,key⟩ := old
        rw [key]
        exact apart f there

def at? : List String → Value → Option Value
  | [], v => some v
  | name :: path, v => (v.field? name).bind (at? path)

end ReadThrough.Value
namespace ReadThrough.Settings.Source
open Value

def merged (lower : Option Value) (v : Value) : Value :=
  match v, lower with
  | .dict upper, some (.dict lower) => .dict (laidOver lower upper)
  | v, _ => v

def layered (lower upper : Option Value) : Option Value :=
  match upper with
  | some v => some (merged lower v)
  | none => lower

theorem overlayFuel {f g : Nat} (lower : List (Value × Value)) {upper : List (Value × Value)}
    (enough : extents upper ≤ f) (plenty : extents upper ≤ g) :
    overlay f lower upper = overlay g lower upper := by
  -- each step spends one, on an entry of the upper mapping or on a mapping inside it
  induction f generalizing g lower upper with
  | zero =>
    cases upper with
    | nil => simp [overlay]
    | cons e rest => simp [extents] at enough
  | succ f ih =>
    match upper, g with
    | [], _ => simp [overlay]
    | (k, v) :: rest, 0 => simp [extents] at plenty
    | (k, v) :: rest, g + 1 =>
      simp only [extents] at enough plenty
      simp only [overlay]
      rw [ih (g := g) _ (by omega) (by omega)]
      congr 2
      split
      · simp only [extent] at enough plenty
        rw [ih (g := g) _ (by omega) (by omega)]
      · rfl

@[simp] theorem laidOverNil (lower : List (Value × Value)) : laidOver lower [] = lower := by
  simp [laidOver,overlay]

theorem laidOverCons (lower : List (Value × Value)) (k v : Value) (rest : List (Value × Value)) :
    laidOver lower ((k, v) :: rest) =
      laidOver (putEntry k (merged ((lower.find? (fun e => e.1.sameKey k)).map (·.2)) v) lower)
        rest := by
  simp only [laidOver,overlay,extents]
  generalize (lower.find? (fun e => e.1.sameKey k)).map (·.2) = found
  rw [overlayFuel (g := extents rest + 1) _ (by omega) (by omega)]
  congr 2
  cases v with
  | dict inner =>
    cases found with
    | none => rfl
    | some w =>
      cases w with
      | dict under =>
        simp only [merged,laidOver,extent]
        rw [overlayFuel (g := extents inner + 1) _ (by omega) (by omega)]
      | _ => rfl
  | _ => rfl

theorem laidOverField (lower : List (Value × Value)) {upper : List (Value × Value)}
    (distinct : DistinctKeys upper) (name : String) :
    (dict (laidOver lower upper)).field? name =
      layered ((dict lower).field? name) ((dict upper).field? name) := by
  induction upper generalizing lower with
  | nil => simp [layered]
  | cons e rest ih =>
    obtain ⟨k,v⟩ := e
    obtain ⟨apart,distinct⟩ := List.pairwise_cons.mp distinct
    rw [laidOverCons,ih _ distinct,fieldPut,fieldCons]
    by_cases same : k.sameKey (str name) = true
    · have absent := fieldAbsent apart same
      rw [sameName.mp same,findName]
      simp [absent,layered,sameKey]
    · simp [same]

@[simp] theorem layeredNone (upper : Option Value) : layered none upper = upper := by
  match upper with
  | none => rfl
  | some v => cases v <;> rfl

theorem layeredFlat {lower : Option Value} {v : Value} (flat : ∀ entries, v ≠ .dict entries) :
    layered lower (some v) = some v := by
  cases v with
  | dict entries => exact (flat entries rfl).elim
  | _ => rfl

theorem layeredField (lower : Option Value) {upper : List (Value × Value)}
    (distinct : DistinctKeys upper) (name : String) :
    (layered lower (some (.dict upper))).bind (·.field? name) =
      layered (lower.bind (·.field? name)) ((dict upper).field? name) := by
  cases lower with
  | none => simp
  | some w =>
    cases w with
    | dict under => exact laidOverField under distinct name
    | _ => exact (layeredNone _).symm

theorem mergedDict {lower : Option Value} {v : Value} {entries : List (Value × Value)}
    (whole : merged lower v = .dict entries) : ∃ upper, v = .dict upper := by
  cases v with
  | dict upper => exact ⟨upper,rfl⟩
  | _ => cases whole

end ReadThrough.Settings.Source
