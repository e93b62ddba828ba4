import ReadThrough.Pattern.Matcher

/-! Ways through a pattern. Plain patterns ask for single characters and for edges of words, and look
at nothing else; of such a pattern the matcher finds a way exactly if there is one. Where a way leads
depends only on the text around the cursor, so it can be followed in another text. -/
namespace ReadThrough.Pattern

def Node.isPlain : Node → Bool
  | .empty => true
  | .set _ => true
  | .anchor (.wordEdge _ negated) => !negated
  | .anchor _ => false
  | .cat a b => a.isPlain && b.isPlain
  | .alt a b => a.isPlain && b.isPlain
  | .repeated appetite least most body =>
    appetite == .greedy && body.isPlain &&
      (body.set?.isSome || (least == 0 && most == some 1))
  | .group _ body => body.isPlain
  | _ => false

def Node.sets : Node → List CharSet
  | .set s => [s]
  | .cat a b => a.sets ++ b.sets
  | .alt a b => a.sets ++ b.sets
  | .repeated _ _ _ body => body.sets
  | .group _ body => body.sets
  | _ => []

namespace Cursor

def Sound (c : Cursor) : Prop := c.left = c.after.length

def takeMany? (s : CharSet) : Nat → Cursor → Option Cursor
  | 0, c => some c
  | n + 1, c => (c.take? s).bind (takeMany? s n)

theorem takeOk {c d : Cursor} {s : CharSet} (took : c.take? s = some d) : ∃ x rest,
    c.after = x :: rest ∧ s.holds x = true ∧
      d = { c with before := x :: c.before, after := rest, left := c.left - 1 } := by
  unfold take? at took
  split at took
  · cases took
  · rename_i x rest after
    split at took
    · rename_i held
      cases took
      exact ⟨x,rest,after,held,rfl⟩
    · cases took

theorem takeSound {c d : Cursor} {s : CharSet} (sound : c.Sound) (took : c.take? s = some d) :
    d.Sound := by
  obtain ⟨x,rest,after,-,rfl⟩ := takeOk took
  simp only [Sound,after,List.length_cons] at sound ⊢
  omega

theorem takeManySound {s : CharSet} {n : Nat} {c d : Cursor} (sound : c.Sound)
    (took : takeMany? s n c = some d) : d.Sound ∧ n ≤ c.left := by
  induction n generalizing c with
  | zero => cases took; exact ⟨sound,Nat.zero_le _⟩
  | succ n ih =>
    obtain ⟨e,first,later⟩ := Option.bind_eq_some_iff.mp took
    obtain ⟨safe,fits⟩ := ih (takeSound sound first) later
    obtain ⟨x,rest,after,-,rfl⟩ := takeOk first
    simp only [Sound,after,List.length_cons] at sound
    exact ⟨safe,by simp only at fits; omega⟩

end Cursor

def trail (s : CharSet) : Nat → Cursor → List Cursor
  | 0, c => [c]
  | room + 1, c => c :: match c.take? s with
    | some d => trail s room d
    | none => []

theorem runsTrail (s : CharSet) (room : Nat) (c : Cursor) (acc : List Cursor) :
    runs s room c acc = (trail s room c).reverse ++ acc := by
  induction room generalizing c acc with
  | zero => rfl
  | succ room ih =>
    simp only [runs,trail]
    cases c.take? s with
    | none => rfl
    | some d => simp [ih]

theorem trailAt (s : CharSet) (room : Nat) (c d : Cursor) (k : Nat) :
    (trail s room c)[k]? = some d ↔ k ≤ room ∧ c.takeMany? s k = some d := by
  induction room generalizing c k with
  | zero => cases k <;> simp [trail,Cursor.takeMany?]
  | succ room ih =>
    cases k with
    | zero => simp [trail,Cursor.takeMany?]
    | succ k =>
      simp only [trail,List.getElem?_cons_succ,Cursor.takeMany?,Nat.add_le_add_iff_right]
      cases c.take? s with
      | none => simp
      | some e => simpa using ih e k

theorem repeatSetIff {s : CharSet} {least : Nat} {most : Option Nat} {c : Cursor} (sound : c.Sound)
    (next : Next) : (repeatSet .greedy least most s c next).isSome ↔
      ∃ k d, least ≤ k ∧ (∀ n, most = some n → k ≤ n) ∧ c.takeMany? s k = some d ∧ (next d).isSome := by
  have reached (room : Nat) : ((((runs s room c []).take ((runs s room c []).length - least))).findSome?
      next).isSome ↔ ∃ k d, least ≤ k ∧ k ≤ room ∧ c.takeMany? s k = some d ∧ (next d).isSome := by
    -- the longest run is tried first: the matcher walks the trail from its end down to the least run
    rw [runsTrail,List.append_nil,List.take_reverse,List.findSome?_isSome_iff]
    simp only [List.mem_reverse,List.length_reverse]
    have enough : (trail s room c).length - ((trail s room c).length - least) =
        min least (trail s room c).length := by omega
    have dropped : (trail s room c).drop (min least (trail s room c).length) =
        (trail s room c).drop least := by
      rcases Nat.le_total least (trail s room c).length with fits | beyond
      · rw [Nat.min_eq_left fits]
      · rw [Nat.min_eq_right beyond,List.drop_eq_nil_of_le beyond,List.drop_eq_nil_of_le (Nat.le_refl _)]
    rw [enough,dropped]
    constructor
    · rintro ⟨d,mem,found⟩
      obtain ⟨i,here⟩ := List.getElem?_of_mem mem
      rw [List.getElem?_drop,trailAt] at here
      exact ⟨least + i,d,Nat.le_add_right _ _,here.1,here.2,found⟩
    · rintro ⟨k,d,least',room',took,found⟩
      refine ⟨d,List.mem_of_getElem? (i := k - least) ?_,found⟩
      rw [List.getElem?_drop,trailAt,Nat.add_sub_cancel' least']
      exact ⟨room',took⟩
  have spare : ∀ k d, c.takeMany? s k = some d → k ≤ c.left := fun k d took =>
    (Cursor.takeManySound sound took).2
  cases most with
  | none =>
    refine (reached c.left).trans ⟨?_,?_⟩
    · rintro ⟨k,d,least',-,rest⟩
      exact ⟨k,d,least',fun _ bad => (by cases bad),rest⟩
    · rintro ⟨k,d,least',-,took,found⟩
      exact ⟨k,d,least',spare k d took,took,found⟩
  | some n =>
    refine (reached (min n c.left)).trans ⟨?_,?_⟩
    · rintro ⟨k,d,least',room,rest⟩
      refine ⟨k,d,least',fun m same => ?_,rest⟩
      cases same
      omega
    · rintro ⟨k,d,least',most,took,found⟩
      have := most n rfl
      have := spare k d took
      exact ⟨k,d,least',by omega,took,found⟩

inductive Reaches : Node → Cursor → Cursor → Prop
  | empty (c : Cursor) : Reaches .empty c c
  | set {s : CharSet} {c d : Cursor} (took : c.take? s = some d) : Reaches (.set s) c d
  | anchor {a : Anchor} {c : Cursor} (stands : c.isAt a = true) : Reaches (.anchor a) c c
  | cat {a b : Node} {c m d : Cursor} (first : Reaches a c m) (second : Reaches b m d) :
      Reaches (.cat a b) c d
  | altFirst {a b : Node} {c d : Cursor} (way : Reaches a c d) : Reaches (.alt a b) c d
  | altSecond {a b : Node} {c d : Cursor} (way : Reaches b c d) : Reaches (.alt a b) c d
  | many {least : Nat} {most : Option Nat} {s : CharSet} {c d : Cursor} (k : Nat) (enough : least ≤ k)
      (few : ∀ n, most = some n → k ≤ n) (took : c.takeMany? s k = some d) :
      Reaches (.repeated .greedy least most (.set s)) c d
  | skipped {body : Node} (c : Cursor) : Reaches (.repeated .greedy 0 (some 1) body) c c
  | once {body : Node} {c d : Cursor} (way : Reaches body c d) :
      Reaches (.repeated .greedy 0 (some 1) body) c d
  | group {body : Node} {c d : Cursor} (way : Reaches body c d) : Reaches (.group none body) c d
  | captured {body : Node} {c d : Cursor} (i : Nat) (way : Reaches body c d) :
      Reaches (.group (some i) body) c (d.capture c i)

theorem Reaches.sound {n : Node} {c d : Cursor} (way : Reaches n c d) (sound : c.Sound) : d.Sound := by
  induction way with
  | empty | anchor | skipped => exact sound
  | set took => exact Cursor.takeSound sound took
  | cat _ _ first second => exact second (first sound)
  | altFirst _ ih | altSecond _ ih | once _ ih | group _ ih | captured _ _ ih => exact ih sound
  | many k _ _ took => exact (Cursor.takeManySound sound took).1

theorem repeatOnce (body : Matcher) (fuel : Nat) (c : Cursor) (next : Next) :
    repeatGreedy body 0 (some 1) (fuel + 2) 0 none c next =
      match body c next with
      | some r => some r
      | none => next c := by
  have last (c' : Cursor) (l : Option Nat) : repeatGreedy body 0 (some 1) (fuel + 1) 1 l c' next = next c' := by
    simp [repeatGreedy]
  rw [repeatGreedy]
  simp only [last,Option.map_some,Option.getD_some,Nat.zero_lt_one,decide_true]
  rfl

/-- The run of a node succeeds exactly if what comes next succeeds from a place that the node reaches. -/
def Node.Walks (n : Node) : Prop :=
  ∀ c : Cursor, c.Sound → ∀ next : Next, (n.run c next).isSome ↔ ∃ d, Reaches n c d ∧ (next d).isSome

theorem emptyWalks : Node.empty.Walks := by
  intro c sound next
  refine ⟨fun found => ⟨c,.empty c,found⟩,?_⟩
  rintro ⟨d,way,found⟩
  cases way
  exact found

theorem setWalks (s : CharSet) : (Node.set s).Walks := by
  intro c sound next
  simp only [Node.run]
  refine ⟨fun found => ?_,?_⟩
  · obtain ⟨r,last⟩ := Option.isSome_iff_exists.mp found
    obtain ⟨d,took,goes⟩ := Option.bind_eq_some_iff.mp last
    exact ⟨d,.set took,Option.isSome_iff_exists.mpr ⟨r,goes⟩⟩
  · rintro ⟨d,way,found⟩
    cases way with
    | set took => simpa [took] using found

theorem anchorWalks (a : Anchor) : (Node.anchor a).Walks := by
  intro c sound next
  simp only [Node.run]
  refine ⟨fun found => ?_,?_⟩
  · split at found
    · rename_i stands
      exact ⟨c,.anchor stands,found⟩
    · cases found
  · rintro ⟨d,way,found⟩
    cases way with
    | anchor stands => rwa [if_pos stands]

theorem catWalks {a b : Node} (first : a.Walks) (second : b.Walks) : (Node.cat a b).Walks := by
  intro c sound next
  simp only [Node.run]
  refine (first c sound _).trans ⟨?_,?_⟩
  · rintro ⟨m,way,found⟩
    obtain ⟨d,rest,goes⟩ := (second m (way.sound sound) next).mp found
    exact ⟨d,.cat way rest,goes⟩
  · rintro ⟨d,way,found⟩
    cases way with
    | @cat _ _ _ m _ way rest => exact ⟨m,way,(second m (way.sound sound) next).mpr ⟨d,rest,found⟩⟩

theorem altWalks {a b : Node} (first : a.Walks) (second : b.Walks) : (Node.alt a b).Walks := by
  intro c sound next
  have either : ((Node.alt a b).run c next).isSome ↔ (a.run c next).isSome ∨ (b.run c next).isSome := by
    simp only [Node.run]
    cases a.run c next <;> simp
  rw [either,first c sound,second c sound]
  constructor
  · rintro (⟨d,way,found⟩ | ⟨d,way,found⟩)
    · exact ⟨d,.altFirst way,found⟩
    · exact ⟨d,.altSecond way,found⟩
  · rintro ⟨d,way,found⟩
    cases way with
    | altFirst way => exact .inl ⟨d,way,found⟩
    | altSecond way => exact .inr ⟨d,way,found⟩

/-! A set is repeated in one go, any other body is tried once at most. -/

theorem manyWalks (least : Nat) (most : Option Nat) (s : CharSet) :
    (Node.repeated .greedy least most (.set s)).Walks := by
  intro c sound next
  simp only [Node.run,Node.set?]
  refine (repeatSetIff sound next).trans ⟨?_,?_⟩
  · rintro ⟨k,d,enough,few,took,found⟩
    exact ⟨d,.many k enough few took,found⟩
  · rintro ⟨d,way,found⟩
    cases way with
    | many k enough few took => exact ⟨k,d,enough,few,took,found⟩
    | skipped => exact ⟨0,c,Nat.le_refl _,fun _ _ => Nat.zero_le _,rfl,found⟩
    | once way =>
      cases way with
      | set took =>
        refine ⟨1,d,Nat.zero_le _,fun n same => by cases same; exact Nat.le_refl _,?_,found⟩
        simp [Cursor.takeMany?,took]

theorem onceWalks {body : Node} (other : body.set? = none) (walks : body.Walks) :
    (Node.repeated .greedy 0 (some 1) body).Walks := by
  intro c sound next
  have either : ((Node.repeated .greedy 0 (some 1) body).run c next).isSome ↔
      (body.run c next).isSome ∨ (next c).isSome := by
    simp only [Node.run,other,Nat.zero_add,repeatOnce]
    cases body.run c next <;> simp
  rw [either,walks c sound]
  constructor
  · rintro (⟨d,way,found⟩ | found)
    · exact ⟨d,.once way,found⟩
    · exact ⟨c,.skipped c,found⟩
  · rintro ⟨d,way,found⟩
    cases way with
    | many => cases other
    | skipped => exact .inr found
    | once way => exact .inl ⟨d,way,found⟩

theorem groupWalks (index : Option Nat) {body : Node} (walks : body.Walks) : (Node.group index body).Walks := by
  intro c sound next
  cases index with
  | none =>
    simp only [Node.run]
    refine (walks c sound next).trans ⟨?_,?_⟩
    · rintro ⟨d,way,found⟩
      exact ⟨d,.group way,found⟩
    · rintro ⟨d,way,found⟩
      cases way with
      | group way => exact ⟨d,way,found⟩
  | some i =>
    simp only [Node.run]
    refine (walks c sound _).trans ⟨?_,?_⟩
    · rintro ⟨d,way,found⟩
      exact ⟨d.capture c i,.captured i way,found⟩
    · rintro ⟨d,way,found⟩
      cases way with
      | captured _ way => exact ⟨_,way,found⟩

theorem plainWalks {n : Node} (plain : n.isPlain = true) : n.Walks := by
  induction n with
  | empty => exact emptyWalks
  | set s => exact setWalks s
  | anchor a => exact anchorWalks a
  | cat a b iha ihb =>
    obtain ⟨first,second⟩ := (Bool.and_eq_true _ _).mp plain
    exact catWalks (iha first) (ihb second)
  | alt a b iha ihb =>
    obtain ⟨first,second⟩ := (Bool.and_eq_true _ _).mp plain
    exact altWalks (iha first) (ihb second)
  | repeated appetite least most body ih =>
    simp only [Node.isPlain,Bool.and_eq_true,beq_iff_eq,Bool.or_eq_true] at plain
    obtain ⟨⟨rfl,inner⟩,shape⟩ := plain
    cases isSet : body.set? with
    | some s =>
      obtain rfl : body = .set s := by
        cases body <;> simp_all [Node.set?]
      exact manyWalks least most s
    | none =>
      rw [isSet] at shape
      obtain ⟨rfl,rfl⟩ := shape.resolve_left (by simp)
      exact onceWalks isSet (ih inner)
  | group index body ih => exact groupWalks index (ih plain)
  | backref | ahead | behind | atomic | ifGroup => cases plain

end ReadThrough.Pattern
