import ReadThrough.Assoc

/-! Laws of mappings whose keys are distinct. Every operation keeps them so; an entry is then listed
exactly where it is found, and entries can be dropped by their value. -/
namespace ReadThrough.Assoc
variable {κ α : Type} [DecidableEq κ]

@[simp] theorem getEmpty (key : κ) : (empty : Assoc κ α).get? key = none := rfl

theorem findAdjust (key k : κ) (f : α → α) (entries : List (κ × α)) :
    find k (entries.map (fun e => if e.1 = key then (e.1,f e.2) else e)) =
      if key = k then (find k entries).map f else find k entries := by
  induction entries with
  | nil => simp [find]
  | cons e rest ih =>
    obtain ⟨k',v⟩ := e
    by_cases hit : k' = k
    · subst hit
      by_cases same : k' = key
      · subst same; simp [find]
      · simp [find,same,Ne.symm same]
    · by_cases same : k' = key
      · subst same; simpa [find,hit] using ih
      · simpa [find,same,hit] using ih

theorem eraseFound {m : Assoc κ α} {key k : κ} {value : α}
    (found : (m.erase key).get? k = some value) : m.get? k = some value := by
  rw [get?_erase] at found
  split at found
  · cases found
  · exact found

theorem getAdjust (m : Assoc κ α) (key k : κ) (f : α → α) :
    (m.adjust key f).get? k = if key = k then (m.get? k).map f else m.get? k :=
  findAdjust key k f m.entries

def Distinct (m : Assoc κ α) : Prop := m.keys.Nodup

omit [DecidableEq κ] in
theorem emptyDistinct : (empty : Assoc κ α).Distinct := List.nodup_nil

theorem placeKeys (key : κ) (value : α) (entries : List (κ × α)) :
    (place key value entries).map (·.1) =
      if key ∈ entries.map (·.1) then entries.map (·.1) else entries.map (·.1) ++ [key] := by
  induction entries with
  | nil => simp [place]
  | cons e rest ih =>
    obtain ⟨k',v⟩ := e
    by_cases same : k' = key
    · simp [place,same]
    · simp only [place,same,if_false,List.map_cons,ih,List.mem_cons,Ne.symm same,false_or]
      split <;> simp

theorem putDistinct {m : Assoc κ α} (distinct : m.Distinct) (key : κ) (value : α) :
    (m.put key value).Distinct := by
  simp only [Distinct,keys,put,placeKeys]
  split
  · exact distinct
  · rename_i absent
    refine List.nodup_append.mpr ⟨distinct,by simp,?_⟩
    intro a mem b last
    rw [List.mem_singleton.mp last]
    exact fun same => absent (same ▸ mem)

omit [DecidableEq κ] in
theorem filterDistinct {m : Assoc κ α} (distinct : m.Distinct) (p : κ × α → Bool) :
    (⟨m.entries.filter p⟩ : Assoc κ α).Distinct :=
  List.Nodup.sublist (List.Sublist.map Prod.fst List.filter_sublist) distinct

theorem eraseDistinct {m : Assoc κ α} (distinct : m.Distinct) (key : κ) : (m.erase key).Distinct :=
  filterDistinct distinct _

theorem getMem {m : Assoc κ α} {key : κ} {value : α} (found : m.get? key = some value) :
    (key,value) ∈ m.entries := by
  obtain ⟨entries⟩ := m
  simp only [get?] at found
  induction entries with
  | nil => simp [find] at found
  | cons e rest ih =>
    obtain ⟨k',v⟩ := e
    simp only [find] at found
    split at found
    · rename_i same
      cases found
      exact same ▸ List.mem_cons_self
    · exact List.mem_cons_of_mem _ (ih found)

theorem memGet {m : Assoc κ α} (distinct : m.Distinct) {key : κ} {value : α}
    (mem : (key,value) ∈ m.entries) : m.get? key = some value := by
  obtain ⟨entries⟩ := m
  simp only [get?]
  induction entries with
  | nil => cases mem
  | cons e rest ih =>
    obtain ⟨k',v⟩ := e
    obtain ⟨fresh,later⟩ := List.nodup_cons.mp distinct
    rcases List.mem_cons.mp mem with same | older
    · cases same; simp [find]
    · have other : k' ≠ key := by
        rintro rfl
        exact fresh (List.mem_map.mpr ⟨_,older,rfl⟩)
      simp only [find,other,if_false]
      exact ih later older

theorem putListed {m : Assoc κ α} (distinct : m.Distinct) {key : κ} {value : α} {e : κ × α} :
    e ∈ (m.put key value).entries ↔ e = (key,value) ∨ e.1 ≠ key ∧ e ∈ m.entries := by
  obtain ⟨k,v⟩ := e
  have before : (k,v) ∈ m.entries ↔ m.get? k = some v := ⟨memGet distinct,getMem⟩
  have after : (k,v) ∈ (m.put key value).entries ↔ (m.put key value).get? k = some v :=
    ⟨memGet (putDistinct distinct key value),getMem⟩
  rw [before,after,get?_put]
  by_cases same : key = k
  · simp [same,eq_comm]
  · simp [same,Ne.symm same]

theorem memKeys {m : Assoc κ α} {key : κ} : key ∈ m.keys ↔ ∃ value, m.get? key = some value := by
  obtain ⟨entries⟩ := m
  simp only [get?,keys]
  induction entries with
  | nil => simp [find]
  | cons e rest ih =>
    obtain ⟨k',v⟩ := e
    by_cases same : k' = key
    · simp [find,same]
    · simpa [find,same,Ne.symm same] using ih

theorem getFilter {m : Assoc κ α} (distinct : m.Distinct) (p : α → Bool) (key : κ) :
    (⟨m.entries.filter (fun e => p e.2)⟩ : Assoc κ α).get? key = (m.get? key).filter p := by
  cases found : (⟨m.entries.filter (fun e => p e.2)⟩ : Assoc κ α).get? key with
  | some value =>
    obtain ⟨mem,holds⟩ := List.mem_filter.mp (getMem found)
    rw [memGet distinct mem,Option.filter_some,if_pos holds]
  | none =>
    cases before : m.get? key with
    | none => rfl
    | some value =>
      cases holds : p value with
      | false => rw [Option.filter_some,if_neg (by simp [holds])]
      | true =>
        have kept := memGet (filterDistinct distinct (fun e => p e.2))
          (List.mem_filter.mpr ⟨getMem before,holds⟩)
        rw [found] at kept
        cases kept

theorem getEmptyIff {m : Assoc κ α} : (∀ key, m.get? key = none) ↔ m = empty := by
  constructor
  · intro absent
    obtain ⟨entries⟩ := m
    cases entries with
    | nil => rfl
    | cons e rest => simpa [get?,find] using absent e.1
  · rintro rfl key
    rfl

theorem putSame (m : Assoc κ α) (key : κ) (value : α) : (m.put key value).get? key = some value :=
  (get?_put m key key value).trans (if_pos rfl)

theorem eraseSame (m : Assoc κ α) (key : κ) : (m.erase key).get? key = none :=
  (get?_erase m key key).trans (if_pos rfl)

theorem putAgain (m : Assoc κ α) (key : κ) (first value : α) :
    (m.put key first).put key value = m.put key value := by
  obtain ⟨entries⟩ := m
  simp only [put,mk.injEq]
  induction entries with
  | nil => simp [place]
  | cons e rest ih =>
    obtain ⟨k,v⟩ := e
    by_cases same : k = key <;> simp [place,same,ih]

theorem putErase (m : Assoc κ α) (key : κ) (value : α) : (m.put key value).erase key = m.erase key := by
  obtain ⟨entries⟩ := m
  simp only [put,erase,mk.injEq]
  induction entries with
  | nil => simp [place]
  | cons e rest ih =>
    obtain ⟨k,v⟩ := e
    by_cases same : k = key
    · simp [place,same]
    · simpa [place,same] using ih

/-! A key that holds a value with a property. -/

def Holds (m : Assoc κ α) (key : κ) (P : α → Prop) : Prop :=
  ∃ value, m.get? key = some value ∧ P value

theorem holdsPut (m : Assoc κ α) (key k : κ) (value : α) (P : α → Prop) :
    (m.put key value).Holds k P ↔ key = k ∧ P value ∨ key ≠ k ∧ m.Holds k P := by
  unfold Holds
  rw [get?_put]
  by_cases same : key = k <;> simp [same]

theorem holdsErase (m : Assoc κ α) (key k : κ) (P : α → Prop) :
    (m.erase key).Holds k P ↔ k ≠ key ∧ m.Holds k P := by
  unfold Holds
  rw [get?_erase]
  by_cases same : key = k
  · simp [same]
  · simp [same,Ne.symm same]

theorem holdsAdjust (m : Assoc κ α) (key k : κ) (f : α → α) (P : α → Prop) :
    (m.adjust key f).Holds k P ↔ m.Holds k (fun v => P (if key = k then f v else v)) := by
  unfold Holds
  rw [getAdjust]
  by_cases same : key = k
  · cases m.get? k <;> simp [same]
  · simp [same]

theorem getCleared [DecidableEq α] {m : Assoc κ α} {key : κ} {gone : α}
    (under : ∀ k, m.get? k = some gone → k = key) (k : κ) (value : α) :
    (if m.get? key = some gone then m.erase key else m).get? k = some value ↔
      m.get? k = some value ∧ value ≠ gone := by
  by_cases mine : m.get? key = some gone
  · rw [if_pos mine,get?_erase]
    by_cases same : key = k
    · subst same
      simp only [if_true,mine,Option.some.injEq]
      exact ⟨fun bad => (by cases bad),fun h => absurd h.1.symm h.2⟩
    · rw [if_neg same]
      refine ⟨fun found => ⟨found,?_⟩,fun h => h.1⟩
      rintro rfl
      exact same (under k found).symm
  · rw [if_neg mine]
    refine ⟨fun found => ⟨found,?_⟩,fun h => h.1⟩
    rintro rfl
    exact mine (under k found ▸ found)

end ReadThrough.Assoc
