import Mathlib
import ReadThrough.Quantity

/-! The first of the best. A pass through a list that keeps the best so far, and gives it up only for a better
one, ends with the first of the best, if of any two the better one is better than a third, or the third better
than the worse one. Readings of a clock that are numbers compare like that. -/
namespace ReadThrough

section
variable {α : Type} (better : α → α → Prop)

structure Foremost (before : List α) (x : α) (after : List α) : Prop where
  before : ∀ y ∈ before, better x y
  after : ∀ y ∈ after, ¬ better y x

def Graded (xs : List α) : Prop :=
  ∀ a ∈ xs, ∀ b ∈ xs, better a b → ¬ better b a ∧ ∀ c ∈ xs, better a c ∨ better c b

instance (xs : List α) [DecidableRel better] : Decidable (Graded better xs) :=
  inferInstanceAs (Decidable (∀ a ∈ xs, _))

variable {better} {before after rest : List α} {x : α}

theorem Graded.sub {xs ys : List α} (graded : Graded better ys) (within : ∀ x ∈ xs, x ∈ ys) : Graded better xs :=
  fun a ha b hb best =>
    ⟨(graded a (within a ha) b (within b hb) best).1,
      fun c hc => (graded a (within a ha) b (within b hb) best).2 c (within c hc)⟩

theorem Foremost.overtaken (foremost : Foremost better before x after) {y : α}
    (graded : Graded better (before ++ x :: after ++ [y])) (best : better y x) :
    Foremost better (before ++ x :: after) y [] := by
  have listed : ∀ z ∈ before ++ x :: after, z ∈ before ++ x :: after ++ [y] := fun z => List.mem_append_left _
  have here : x ∈ before ++ x :: after := List.mem_append_right _ List.mem_cons_self
  refine ⟨fun z seen => ?_,nofun⟩
  have third := (graded y (by simp) x (listed x here) best).2 z (listed z seen)
  rcases List.mem_append.mp seen with earlier | later
  · refine third.resolve_right fun worse => ?_
    exact (graded x (listed x here) z (listed z seen) (foremost.before z earlier)).1 worse
  · rcases List.mem_cons.mp later with rfl | later
    · exact best
    · exact third.resolve_right (foremost.after z later)

theorem Foremost.unique {before' after' : List α} {x' : α} (foremost : Foremost better before x after)
    (foremost' : Foremost better before' x' after') (same : before ++ x :: after = before' ++ x' :: after') :
    x = x' := by
  -- of two, the later one is better than the earlier, and is not, as it comes after it
  rcases List.append_eq_append_iff.mp same with ⟨between,split,rest⟩ | ⟨between,split,rest⟩
  · cases between with
    | nil => exact (List.cons.inj rest).1
    | cons y between =>
      obtain ⟨rfl,rfl⟩ := List.cons.inj rest
      exact absurd (foremost'.before x (split ▸ by simp)) (foremost.after x' (by simp))
  · cases between with
    | nil => exact (List.cons.inj rest).1.symm
    | cons y between =>
      obtain ⟨rfl,rfl⟩ := List.cons.inj rest
      exact absurd (foremost.before x' (split ▸ by simp)) (foremost'.after x (by simp))

variable [DecidableRel better]

theorem passForemost (foremost : Foremost better before x after)
    (graded : Graded better (before ++ x :: after ++ rest)) : ∃ before' after',
      before ++ x :: after ++ rest =
        before' ++ rest.foldl (fun best y => if better y best then y else best) x :: after' ∧
      Foremost better before' (rest.foldl (fun best y => if better y best then y else best) x) after' := by
  induction rest generalizing before x after with
  | nil => exact ⟨before,after,List.append_nil _,foremost⟩
  | cons y rest ih =>
    rw [List.foldl_cons]
    split
    · rename_i best
      have overtaken := foremost.overtaken (graded.sub fun z => by simp; tauto) best
      have split : before ++ x :: after ++ y :: rest = (before ++ x :: after) ++ y :: [] ++ rest := by simp
      rw [split] at graded ⊢
      exact ih overtaken graded
    · rename_i worse
      have kept : Foremost better before x (after ++ [y]) := by
        refine ⟨foremost.before,fun z seen => ?_⟩
        rcases List.mem_append.mp seen with seen | seen
        · exact foremost.after z seen
        · rwa [List.mem_singleton.mp seen]
      have split : before ++ x :: after ++ y :: rest = before ++ x :: (after ++ [y]) ++ rest := by simp
      rw [split] at graded ⊢
      exact ih kept graded

theorem foldForemost (graded : Graded better (x :: rest)) : ∃ before' after',
    x :: rest = before' ++ rest.foldl (fun best y => if better y best then y else best) x :: after' ∧
      Foremost better before' (rest.foldl (fun best y => if better y best then y else best) x) after' :=
  @passForemost _ better [] [] rest x _ ⟨nofun,nofun⟩ graded

end

/-! Readings of a clock. -/

theorem gradedRank {α β : Type} [LinearOrder β] {better : α → α → Prop} (rank : α → β) {xs : List α}
    (ranked : ∀ a ∈ xs, ∀ b ∈ xs, better a b ↔ rank a < rank b) : Graded better xs := by
  intro a ha b hb best
  have less := (ranked a ha b hb).mp best
  refine ⟨fun back => lt_asymm less ((ranked b hb a ha).mp back),fun c hc => ?_⟩
  rw [ranked a ha c hc,ranked c hc b hb]
  exact (lt_or_ge (rank a) (rank c)).imp_right fun le => lt_of_le_of_lt le less

/-! Doubles that are numbers. -/

section
open Float.Model Float.Model.UnpackedFloat

def Decimal.rank : UnpackedFloat → Int ×ₗ Int ×ₗ Int
  | .infinity .negative => toLex (-2,toLex (0,0))
  | .finite .negative mantissa exponent _ => toLex (-1,toLex (-exponent,-mantissa))
  | .zero _ | .notANumber => toLex (0,toLex (0,0))
  | .finite .positive mantissa exponent _ => toLex (1,toLex (exponent,mantissa))
  | .infinity .positive => toLex (2,toLex (0,0))

theorem Decimal.rankLt {a b : UnpackedFloat} (given : a.isNaN = false) (given' : b.isNaN = false) :
    a.lt b = true ↔ rank a < rank b := by
  have below {m n : Nat} {d e : Int} : (compare d e).then (compare m n) = .lt ↔ d < e ∨ d = e ∧ m < n := by
    rw [Ordering.then_eq_lt,compare_lt_iff_lt,compare_eq_iff_eq,compare_lt_iff_lt]
  have above {m n : Nat} {d e : Int} : (compare d e).then (compare m n) = .gt ↔ e < d ∨ d = e ∧ n < m := by
    rw [Ordering.then_eq_gt,compare_gt_iff_gt,compare_eq_iff_eq,compare_gt_iff_gt]
  have signs : compare Sign.negative Sign.positive = .lt := rfl
  unfold UnpackedFloat.lt
  rcases a with (_ | _) | _ | _ | ⟨_ | _,m,d,_⟩ <;> rcases b with (_ | _) | _ | _ | ⟨_ | _,n,e,_⟩ <;>
    simp_all [UnpackedFloat.compare,rank,UnpackedFloat.isNaN,Prod.Lex.toLex_lt_toLex,Ordering.swap_eq_lt]

end

theorem Number.realGraded {readings : List Float} (given : ∀ x ∈ readings, x.isNaN = false) :
    Graded (· < ·) (readings.map Number.real) := by
  refine gradedRank (fun a => Decimal.rank a.toFloat.toModel.unpack) fun a ha b hb => ?_
  obtain ⟨x,hx,rfl⟩ := List.mem_map.mp ha
  obtain ⟨y,hy,rfl⟩ := List.mem_map.mp hb
  refine Iff.trans ?_ (Decimal.rankLt (given x hx) (given y hy))
  exact (decide_eq_true_iff (p := x < y)).trans (decide_eq_true_iff (p := x.toModel < y.toModel))

end ReadThrough
