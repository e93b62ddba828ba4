import ReadThrough.Gate

/-! Stored keys are fixed points of the cleaning that made them: a key that was admitted once is
admitted again as it is. -/
namespace ReadThrough.Key

theorem cleanAllowed (c : Char) : isAllowed (clean c) = true := by
  unfold clean
  split
  · assumption
  · rfl

theorem cleanAgain (c : Char) : clean (clean c) = clean c := by
  have allowed := cleanAllowed c
  generalize clean c = d at allowed
  simp [clean,allowed]

theorem cleanedAgain (raw : String) : cleaned (cleaned raw) = cleaned raw := by
  have twice : clean ∘ clean = clean := funext cleanAgain
  simp [cleaned,twice]

theorem sanitizeOk {limit : Int} {raw : Value} {key : String} (done : sanitize limit raw = .ok key) :
    ∃ s, raw = .str s ∧ s.isEmpty = false ∧ key = cleaned s ∧ (key.length : Int) ≤ limit := by
  unfold sanitize at done
  split at done
  · rename_i s
    split at done
    · cases done
    · rename_i some
      dsimp only at done
      split at done
      · cases done
      · rename_i short
        cases done
        exact ⟨s,rfl,by simpa using some,rfl,by omega⟩
  · cases done

theorem sanitizeAgain {limit : Int} {raw : Value} {key : String} (done : sanitize limit raw = .ok key) :
    cleaned key = key ∧ sanitize limit (.str key) = .ok key := by
  obtain ⟨s,rfl,some,rfl,short⟩ := sanitizeOk done
  have again := cleanedAgain s
  have filled : (cleaned s).isEmpty = false := by
    rw [String.isEmpty_eq_false_iff] at some ⊢
    simpa [cleaned,String.ofList_eq_empty_iff] using some
  refine ⟨again,?_⟩
  simp only [sanitize,filled,again,Bool.false_eq_true,if_false]
  rw [if_neg (by omega)]

end ReadThrough.Key
