import ReadThrough.Proofs.Reach
import ReadThrough.Pattern.Screen

/-! Fences. A character that no set of a pattern holds and that is no part of a word is a fence to this
pattern: what the pattern finds in a text it finds on one side of the fence. The usual patterns are
fenced by every character that gives data text its structure, and find nothing in what stands there
outside of strings. -/
namespace ReadThrough.Pattern

namespace Node

def isFencedBy (n : Node) (d : Char) : Bool := n.sets.all (!·.holds d) && !Text.isWord d

def demands (others : List Char) : Node → Bool
  | .set s => !others.any s.holds
  | .cat a b => a.demands others || b.demands others
  | .alt a b => a.demands others && b.demands others
  | .repeated _ least _ body => decide (0 < least) && body.demands others
  | .group _ body => body.demands others
  | _ => false

def findsIn (n : Node) (cs : List Char) : Bool := n.search cs.length (Cursor.start cs)

end Node

theorem findsText (n : Node) (text : String) : n.finds text = n.findsIn text.toList := rfl

/-! Ways followed in another text. -/

structure Mimics (sets : List CharSet) (related : Cursor → Cursor → Prop) : Prop where
  takes : ∀ {s c c' d}, s ∈ sets → related c c' → c.take? s = some d →
    ∃ d', c'.take? s = some d' ∧ related d d'
  edges : ∀ {ascii c c'}, related c c' →
    c.isAt (.wordEdge ascii false) = c'.isAt (.wordEdge ascii false)
  captures : ∀ {d d'} (c c' : Cursor) (i : Nat), related d d' →
    related (d.capture c i) (d'.capture c' i)

variable {related : Cursor → Cursor → Prop}

theorem Mimics.narrow {sets fewer : List CharSet} (mimics : Mimics sets related) (part : fewer ⊆ sets) :
    Mimics fewer related := ⟨fun mem => mimics.takes (part mem),mimics.edges,mimics.captures⟩

theorem Mimics.takesMany {sets : List CharSet} (mimics : Mimics sets related) {s : CharSet}
    (mem : s ∈ sets) {k : Nat} {c c' d : Cursor} (same : related c c')
    (took : c.takeMany? s k = some d) : ∃ d', c'.takeMany? s k = some d' ∧ related d d' := by
  induction k generalizing c c' with
  | zero => cases took; exact ⟨c',rfl,same⟩
  | succ k ih =>
    obtain ⟨e,first,later⟩ := Option.bind_eq_some_iff.mp took
    obtain ⟨e',first',same'⟩ := mimics.takes mem same first
    obtain ⟨d',later',last⟩ := ih same' later
    exact ⟨d',Option.bind_eq_some_iff.mpr ⟨e',first',later'⟩,last⟩

theorem Reaches.mimicked {n : Node} {c d : Cursor} (way : Reaches n c d) (plain : n.isPlain = true)
    (mimics : Mimics n.sets related) {c' : Cursor} (same : related c c') :
    ∃ d', Reaches n c' d' ∧ related d d' := by
  induction way generalizing c' with
  | empty c => exact ⟨c',.empty c',same⟩
  | set took =>
    obtain ⟨d',took',last⟩ := mimics.takes (List.mem_singleton.mpr rfl) same took
    exact ⟨d',.set took',last⟩
  | @anchor a c stands =>
    -- the only plain anchor is the edge of a word
    cases a with
    | wordEdge ascii negated =>
      cases negated with
      | false => exact ⟨c',.anchor ((mimics.edges same).symm.trans stands),same⟩
      | true => cases plain
    | _ => cases plain
  | cat _ _ ihFirst ihSecond =>
    obtain ⟨plainA,plainB⟩ := (Bool.and_eq_true _ _).mp plain
    obtain ⟨m',first,same'⟩ := ihFirst plainA (mimics.narrow (List.subset_append_left _ _)) same
    obtain ⟨d',second,last⟩ := ihSecond plainB (mimics.narrow (List.subset_append_right _ _)) same'
    exact ⟨d',.cat first second,last⟩
  | altFirst _ ih =>
    obtain ⟨plainA,-⟩ := (Bool.and_eq_true _ _).mp plain
    obtain ⟨d',way,last⟩ := ih plainA (mimics.narrow (List.subset_append_left _ _)) same
    exact ⟨d',.altFirst way,last⟩
  | altSecond _ ih =>
    obtain ⟨-,plainB⟩ := (Bool.and_eq_true _ _).mp plain
    obtain ⟨d',way,last⟩ := ih plainB (mimics.narrow (List.subset_append_right _ _)) same
    exact ⟨d',.altSecond way,last⟩
  | many k enough few took =>
    obtain ⟨d',took',last⟩ := mimics.takesMany (List.mem_singleton.mpr rfl) same took
    exact ⟨d',.many k enough few took',last⟩
  | skipped c => exact ⟨c',.skipped c',same⟩
  | once _ ih =>
    simp only [Node.isPlain,Bool.and_eq_true] at plain
    obtain ⟨d',way,last⟩ := ih plain.1.2 mimics same
    exact ⟨d',.once way,last⟩
  | group _ ih =>
    obtain ⟨d',way,last⟩ := ih plain mimics same
    exact ⟨d',.group way,last⟩
  | captured i _ ih =>
    obtain ⟨d',way,last⟩ := ih plain mimics same
    exact ⟨d'.capture c' i,.captured i way,mimics.captures _ _ i last⟩

/-! Cursors in a part of a text. -/

def Within (front back : List Char) (c c' : Cursor) : Prop :=
  c.before = c'.before ++ front ∧ c.after = c'.after ++ back

def Fenced (n : Node) (cs : List Char) : Prop := ∀ d ∈ cs.head?, n.isFencedBy d = true

theorem fencedHolds {n : Node} {d : Char} {s : CharSet} (fence : n.isFencedBy d = true)
    (mem : s ∈ n.sets) : s.holds d = false := by
  obtain ⟨strange,-⟩ := (Bool.and_eq_true _ _).mp fence
  simpa using List.all_eq_true.mp strange s mem

def startsWord (ascii : Bool) (cs : List Char) : Bool :=
  (cs.head?.map (Class.word.holds ascii)).getD false

theorem edgeAt (c : Cursor) (ascii : Bool) : c.isAt (.wordEdge ascii false) =
    (startsWord ascii c.before != startsWord ascii c.after) := by
  obtain ⟨before,after,left,captures⟩ := c
  cases before <;> cases after <;> simp [Cursor.isAt,startsWord]

theorem startsWordFenced {n : Node} {back : List Char} (fenced : Fenced n back) (ascii : Bool)
    (cs : List Char) : startsWord ascii (cs ++ back) = startsWord ascii cs := by
  cases cs with
  | cons x rest => rfl
  | nil =>
    cases back with
    | nil => rfl
    | cons d rest =>
      obtain ⟨-,silent⟩ := (Bool.and_eq_true _ _).mp (fenced d rfl)
      simp only [Bool.not_eq_true'] at silent
      simp [startsWord,Class.holds,silent]

section
variable {n : Node} {front back : List Char} (fencedFront : Fenced n front) (fencedBack : Fenced n back)
include fencedFront fencedBack

theorem withinEdges {ascii : Bool} {c c' : Cursor} (same : Within front back c c') :
    c.isAt (.wordEdge ascii false) = c'.isAt (.wordEdge ascii false) := by
  rw [edgeAt,edgeAt,same.1,same.2,startsWordFenced fencedFront,startsWordFenced fencedBack]

theorem withinMimics : Mimics n.sets (Within front back) where
  takes := by
    intro s c c' d mem same took
    obtain ⟨x,rest,after,held,rfl⟩ := Cursor.takeOk took
    have split := same.2.symm.trans after
    cases part : c'.after with
    | nil =>
      rw [part,List.nil_append] at split
      -- the part ends here, so what is taken would be the fence
      cases held.symm.trans (fencedHolds (fencedBack x (by rw [split]; rfl)) mem)
    | cons y rest' =>
      rw [part,List.cons_append] at split
      obtain ⟨rfl,tail⟩ := List.cons.inj split
      refine ⟨_,by rw [Cursor.take?,part]; exact if_pos held,?_,tail.symm⟩
      rw [same.1]
      rfl
  edges := withinEdges fencedFront fencedBack
  captures _ _ _ same := same

theorem aroundMimics : Mimics n.sets fun c' c => Within front back c c' where
  takes := by
    intro s c' c d' _ same took
    obtain ⟨x,rest,after,held,rfl⟩ := Cursor.takeOk took
    have whole : c.after = x :: (rest ++ back) := by rw [same.2,after,List.cons_append]
    refine ⟨_,by rw [Cursor.take?,whole]; exact if_pos held,?_,rfl⟩
    rw [same.1]
    rfl
  edges same := (withinEdges fencedFront fencedBack same).symm
  captures _ _ _ same := same

theorem reachesWithin (plain : n.isPlain = true) {c c' : Cursor} (same : Within front back c c') :
    (∃ d, Reaches n c d) ↔ ∃ d, Reaches n c' d := by
  constructor
  · rintro ⟨d,way⟩
    obtain ⟨d',way',-⟩ := way.mimicked plain (withinMimics fencedFront fencedBack) same
    exact ⟨d',way'⟩
  · rintro ⟨d,way⟩
    obtain ⟨d',way',-⟩ := way.mimicked plain (aroundMimics fencedFront fencedBack) same
    exact ⟨d',way'⟩

end

/-! Searches. -/

def Cursor.between (x y : List Char) : Cursor := ⟨x.reverse,y,y.length,[]⟩

theorem runSome {n : Node} (plain : n.isPlain = true) (x y : List Char) :
    (n.run (.between x y) some).isSome = true ↔ ∃ d, Reaches n (.between x y) d := by
  have sound : (Cursor.between x y).Sound := rfl
  simpa using plainWalks plain _ sound some

theorem searchIff {n : Node} (plain : n.isPlain = true) {fuel : Nat} (x y : List Char)
    (room : y.length ≤ fuel) : n.search fuel (.between x y) = true ↔
      ∃ u v, y = u ++ v ∧ ∃ d, Reaches n (.between (x ++ u) v) d := by
  induction fuel generalizing x y with
  | zero =>
    obtain rfl := List.eq_nil_of_length_eq_zero (Nat.le_zero.mp room)
    refine (runSome plain _ _).trans ⟨fun here => ⟨[],[],rfl,by rwa [List.append_nil]⟩,?_⟩
    rintro ⟨u,v,split,here⟩
    obtain ⟨rfl,rfl⟩ := List.append_eq_nil_iff.mp split.symm
    rwa [List.append_nil] at here
  | succ fuel ih =>
    rw [Node.search]
    split
    · rename_i found
      refine ⟨fun _ => ⟨[],y,rfl,?_⟩,fun _ => rfl⟩
      rw [List.append_nil]
      exact (runSome plain _ _).mp found
    · rename_i lost
      cases y with
      | nil =>
        refine ⟨fun bad => (by cases bad),?_⟩
        rintro ⟨u,v,split,here⟩
        obtain ⟨rfl,rfl⟩ := List.append_eq_nil_iff.mp split.symm
        rw [List.append_nil] at here
        exact absurd ((runSome plain _ _).mpr here) lost
      | cons a rest =>
        have moved : ({ Cursor.between x (a :: rest) with
            before := a :: (Cursor.between x (a :: rest)).before, after := rest,
            left := (Cursor.between x (a :: rest)).left - 1 } : Cursor) = .between (x ++ [a]) rest := by
          simp [Cursor.between]
        -- what is not found here is looked for behind the next character
        change n.search fuel _ = true ↔ _
        rw [moved,ih _ rest (Nat.le_of_succ_le_succ room)]
        constructor
        · rintro ⟨u,v,rfl,here⟩
          exact ⟨a :: u,v,rfl,by simpa using here⟩
        · rintro ⟨u,v,split,here⟩
          cases u with
          | nil =>
            rw [List.append_nil,← List.nil_append v,← split] at here
            exact absurd ((runSome plain _ _).mpr here) lost
          | cons b u =>
            obtain ⟨rfl,rfl⟩ := List.cons.inj split
            exact ⟨u,v,rfl,by simpa using here⟩

theorem findsIff {n : Node} (plain : n.isPlain = true) (cs : List Char) : n.findsIn cs = true ↔
    ∃ u v, cs = u ++ v ∧ ∃ d, Reaches n (.between u v) d := searchIff plain [] cs (Nat.le_refl _)

theorem findsFenced {n : Node} (plain : n.isPlain = true) {d : Char} (fence : n.isFencedBy d = true)
    (a b : List Char) : n.findsIn (a ++ d :: b) = (n.findsIn a || n.findsIn b) := by
  have fenced (cs : List Char) : Fenced n (d :: cs) := by
    rintro e ⟨⟩
    exact fence
  have bare : Fenced n [] := by rintro e ⟨⟩
  have left (u v : List Char) : (∃ e, Reaches n (.between u (v ++ d :: b)) e) ↔
      ∃ e, Reaches n (.between u v) e :=
    reachesWithin bare (fenced b) plain ⟨(List.append_nil _).symm,rfl⟩
  have right (u v : List Char) : (∃ e, Reaches n (.between (a ++ d :: u) v) e) ↔
      ∃ e, Reaches n (.between u v) e :=
    reachesWithin (fenced a.reverse) bare plain ⟨by simp [Cursor.between],(List.append_nil _).symm⟩
  rw [Bool.eq_iff_iff,Bool.or_eq_true,findsIff plain,findsIff plain,findsIff plain]
  constructor
  · rintro ⟨u,v,split,here⟩
    -- the way starts behind the fence or at it, or else in front of it
    rcases List.append_eq_append_iff.mp split with ⟨u',rfl,rest⟩ | ⟨v',rfl,rfl⟩
    · cases u' with
      | nil =>
        rw [List.nil_append] at rest
        subst rest
        rw [List.append_nil] at here
        exact .inl ⟨a,[],(List.append_nil a).symm,(left a []).mp here⟩
      | cons e u' =>
        obtain ⟨rfl,rfl⟩ := List.cons.inj rest
        exact .inr ⟨u',v,rfl,(right u' v).mp here⟩
    · exact .inl ⟨u,v',rfl,(left u v').mp here⟩
  · rintro (⟨u,v,rfl,here⟩ | ⟨u,v,rfl,here⟩)
    · exact ⟨u,v ++ d :: b,by simp,(left u v).mpr here⟩
    · exact ⟨a ++ d :: u,v,by simp,(right u v).mpr here⟩

/-! Texts without the demanded characters. -/

theorem takeManyRest {s : CharSet} {k : Nat} {c d : Cursor} (took : c.takeMany? s k = some d) :
    d.after ⊆ c.after := by
  induction k generalizing c with
  | zero => cases took; exact List.Subset.refl _
  | succ k ih =>
    obtain ⟨e,first,later⟩ := Option.bind_eq_some_iff.mp took
    obtain ⟨x,rest,after,-,rfl⟩ := Cursor.takeOk first
    rw [after]
    exact List.Subset.trans (ih later) (List.subset_cons_self x rest)

theorem Reaches.rest {n : Node} {c d : Cursor} (way : Reaches n c d) : d.after ⊆ c.after := by
  induction way with
  | empty | anchor | skipped => exact List.Subset.refl _
  | @set s c d took => exact takeManyRest (s := s) (k := 1) (by simp [Cursor.takeMany?,took])
  | cat _ _ first second => exact List.Subset.trans second first
  | altFirst _ ih | altSecond _ ih | once _ ih | group _ ih | captured _ _ ih => exact ih
  | many k _ _ took => exact takeManyRest took

theorem Reaches.demanded {n : Node} {others : List Char} {c d : Cursor} (way : Reaches n c d)
    (demands : n.demands others = true) : ¬ c.after ⊆ others := by
  intro poor
  have refused {s : CharSet} {c d : Cursor} (strange : (!others.any s.holds) = true)
      (took : c.take? s = some d) (poor : c.after ⊆ others) : False := by
    obtain ⟨x,rest,after,held,-⟩ := Cursor.takeOk took
    have mem := poor (by rw [after]; exact List.mem_cons_self)
    simp only [Bool.not_eq_true',List.any_eq_false] at strange
    exact strange x mem held
  induction way with
  | empty | anchor => cases demands
  | set took => exact refused demands took poor
  | cat first _ ihFirst ihSecond =>
    rcases (Bool.or_eq_true _ _).mp demands with demands | demands
    · exact ihFirst demands poor
    · exact ihSecond demands (List.Subset.trans first.rest poor)
  | altFirst _ ih => exact ih ((Bool.and_eq_true _ _).mp demands).1 poor
  | altSecond _ ih => exact ih ((Bool.and_eq_true _ _).mp demands).2 poor
  | @many least _ s c d k enough few took =>
    obtain ⟨some,strange⟩ := (Bool.and_eq_true _ _).mp demands
    have some := of_decide_eq_true some
    obtain ⟨j,rfl⟩ := Nat.exists_eq_succ_of_ne_zero (by omega : k ≠ 0)
    obtain ⟨e,first,-⟩ := Option.bind_eq_some_iff.mp took
    exact refused strange first poor
  | skipped | once => cases demands
  | group _ ih | captured _ _ ih => exact ih demands poor

theorem findsPoor {n : Node} (plain : n.isPlain = true) {others : List Char}
    (demands : n.demands others = true) {cs : List Char} (poor : cs ⊆ others) :
    n.findsIn cs = false := by
  refine Bool.eq_false_iff.mpr fun found => ?_
  obtain ⟨u,v,rfl,d,way⟩ := (findsIff plain cs).mp found
  exact way.demanded demands (List.Subset.trans (List.subset_append_right u v) poor)

/-! The usual patterns. -/

def fences : List Char := "\"\\[]\x7b\x7d,:".toList

def bare : List Char := " +-.0123456789EINaefilnrstuy".toList

structure Node.Fits (n : Node) : Prop where
  plain : n.isPlain = true
  fenced : fences.all n.isFencedBy = true
  demands : n.demands bare = true

instance (n : Node) : Decidable n.Fits :=
  decidable_of_iff (n.isPlain = true ∧ fences.all n.isFencedBy = true ∧ n.demands bare = true)
    ⟨fun ⟨plain,fenced,demands⟩ => ⟨plain,fenced,demands⟩,
      fun fits => ⟨fits.plain,fits.fenced,fits.demands⟩⟩

theorem sensitiveFits : ∀ source ∈ sensitive, ∃ n, read? source Flags.none = some n ∧ n.Fits := by
  have each : ∀ source ∈ sensitive,
      ((read? source Flags.none).map fun n => decide n.Fits) = some true := by decide +kernel
  intro source usual
  obtain ⟨n,read,fits⟩ := Option.map_eq_some_iff.mp (each source usual)
  exact ⟨n,read,of_decide_eq_true fits⟩

theorem findsEmpty {n : Node} (fits : n.Fits) : n.findsIn [] = false :=
  findsPoor fits.plain fits.demands (List.nil_subset _)

end ReadThrough.Pattern
