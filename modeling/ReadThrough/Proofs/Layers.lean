import Mathlib.Tactic.ByContra
import ReadThrough.Proofs.Leaves

/-! Where each value of the settings comes from. What a caller forces counts over what the variables
say, leaf by leaf; what neither names comes from the profile where nothing names its section, and else
from the usual values: a section that is named in part loses what the profile sets in it. -/
namespace ReadThrough
open Value
variable {τ : Type} [Quantity τ]

theorem atHere : at? [] = some := rfl

theorem Checked.toExceptIff {α : Type} {x : Checked α} {a : α} : x.toExcept = .ok a ↔ x = .valid a := by
  cases x <;> simp [Checked.toExcept]

namespace Branch
variable {b : Branch τ} {s : Settings τ}

theorem insideReads {leaf : Leaf b.Kind} {said : Option Value} :
    (b.inside leaf).Reads said .usual s ↔ leaf.Reads said b.usual (b.get s) := by
  cases said with
  | some v => rfl
  | none =>
    rw [← b.ofUsual]
    rfl

theorem stemIff {record : Value} {below : Settings τ} :
    b.stem.Reads (record.at? b.stem.path) below s ↔
      (∀ v, record.field? b.name = some v → ∃ entries, v = .dict entries) ∧
        ∀ leaf ∈ b.leaves, (b.inside leaf).Reads (record.at? (b.inside leaf).path)
          (if (record.field? b.name).isSome then .usual else below) s := by
  have within (leaf : Leaf b.Kind) : record.at? (b.inside leaf).path =
      (record.field? b.name).bind (at? leaf.path) := rfl
  rw [stem,atName]
  cases found : record.field? b.name with
  | none =>
    simp only [within,found]
    constructor
    · intro same
      exact ⟨by simp,fun leaf _ => congrArg leaf.get same⟩
    · rintro ⟨-,same⟩
      exact b.whole _ _ same
  | some v =>
    simp only [within,found,Option.isSome_some,if_true,insideReads]
    cases v with
    | dict entries =>
      exact (b.reads (.dict entries) (b.get s)).trans
        ⟨fun reads => ⟨by simp,reads⟩,fun reads => reads.2⟩
    | _ =>
      refine iff_of_false (fun bad => by cases bad) fun reads => ?_
      obtain ⟨entries,same⟩ := reads.1 _ rfl
      cases same

end Branch

namespace Settings
open Source (Variable layered merged heard setting gather laidOver)

structure Keywords (forced : List (Value × Value)) : Prop where
  named : Named forced
  distinct : DistinctKeys forced
  within : ∀ name entries, (dict forced).field? name = some (.dict entries) → DistinctKeys entries

def layer (e : Environment) : Settings τ := usual.filled (profile e) []

def said (vars : List Variable) (forced : List (Value × Value)) (path : List String) : Option Value :=
  layered (heard vars path) ((dict forced).at? path)

theorem readsOwn {σ : Type} {leaf : Leaf σ} {said : Option Value} {a b s : σ} :
    leaf.Reads said (if said.isSome then a else b) s ↔ leaf.Reads said b s := by
  cases said <;> rfl

theorem laidOverNamed {lower upper : List (Value × Value)} (below : Named lower) (above : Named upper) :
    Named (laidOver lower upper) := by
  induction upper generalizing lower with
  | nil => rwa [Source.laidOverNil]
  | cons e rest ih =>
    obtain ⟨k,v⟩ := e
    rw [Source.laidOverCons]
    refine ih (fun f mem => ?_) fun f mem => above f (List.mem_cons_of_mem _ mem)
    rcases putKey mem with key | ⟨g,old,key⟩
    · rw [key]
      exact above _ (List.mem_cons_self ..)
    · rw [key]
      exact below g old

section
variable {vars : List Variable} {env forced : List (Value × Value)} (heeded : gather vars names = .ok env)
  (keywords : Keywords forced)
include heeded keywords

theorem saidTop {name : String} (known : name ∈ names) :
    (dict (laidOver env forced)).field? name = said vars forced [name] := by
  have word := (Source.gathered heeded).1 name known
  rw [Source.laidOverField env keywords.distinct,said,heard,word,atName]
  simp [atHere]

theorem saidInside {name leaf : String} (known : name ∈ names)
    (mapping : ∀ v, said vars forced [name] = some v → ∃ entries, v = .dict entries) :
    (dict (laidOver env forced)).at? [name, leaf] = said vars forced [name, leaf] := by
  have word := (Source.gathered heeded).1 name known
  rw [at?,saidTop heeded keywords known]
  simp only [said,heard,word,at?,Option.bind_fun_some] at mapping ⊢
  cases given : (dict forced).field? name with
  | none => simp [layered]
  | some v =>
    rw [given] at mapping
    obtain ⟨entries,whole⟩ := mapping _ rfl
    obtain ⟨upper,rfl⟩ := Source.mergedDict whole
    simp [Source.layeredField _ (keywords.within name upper given)]

theorem branchIff {b : Branch τ} {below s : Settings τ} :
    b.stem.Reads ((dict (laidOver env forced)).at? b.stem.path) below s ↔
      (∀ v, said vars forced [b.name] = some v → ∃ entries, v = .dict entries) ∧
        ∀ leaf ∈ b.leaves, (b.inside leaf).Reads (said vars forced (b.inside leaf).path)
          (if (said vars forced ((b.inside leaf).path.take 1)).isSome then usual else below) s := by
  rw [Branch.stemIff,saidTop heeded keywords b.known]
  -- only below a mapping are the leaves of the record what is said of them
  refine and_congr_right fun mapping => forall₂_congr fun leaf mem => ?_
  obtain ⟨name,single⟩ := b.single leaf mem
  have path : (b.inside leaf).path = [b.name, name] := by rw [Branch.inside,single]
  rw [path,saidInside heeded keywords b.known mapping]
  rfl

theorem layersIff {below s : Settings τ} :
    (∀ leaf ∈ tops, leaf.Reads ((dict (laidOver env forced)).at? leaf.path) below s) ↔
      (∀ b ∈ (Branch.all : List (Branch τ)), ∀ v, said vars forced [b.name] = some v →
        ∃ entries, v = .dict entries) ∧
      ∀ leaf ∈ leaves, leaf.Reads (said vars forced leaf.path)
        (if (said vars forced (leaf.path.take 1)).isSome then usual else below) s := by
  have plain (leaf : Leaf (Settings τ)) (mem : leaf ∈ plainLeaves) :
      leaf.Reads ((dict (laidOver env forced)).at? leaf.path) below s ↔
        leaf.Reads (said vars forced leaf.path)
          (if (said vars forced (leaf.path.take 1)).isSome then usual else below) s := by
    obtain ⟨name,known,path⟩ := plainPath leaf mem
    rw [path,atName,saidTop heeded keywords known]
    exact readsOwn.symm
  simp only [tops,leaves,List.forall_mem_append,List.forall_mem_map,List.forall_mem_flatMap,
    branchIff heeded keywords]
  rw [forall₂_congr plain]
  constructor
  · rintro ⟨own,branches⟩
    exact ⟨fun b mem => (branches b mem).1,own,fun b mem => (branches b mem).2⟩
  · rintro ⟨mappings,own,branches⟩
    exact ⟨own,fun b mem => ⟨mappings b mem,branches b mem⟩⟩

theorem givenNamed : Named (laidOver env forced) :=
  laidOverNamed (fun e mem => ((Source.gathered heeded).2 e mem).imp fun _ key => key.2) keywords.named

theorem knownIff : strangers (.dict (laidOver env forced)) = .valid () ↔
    ∀ name, ((dict forced).field? name).isSome → name ∈ names := by
  rw [strangersIff (givenNamed heeded keywords)]
  refine forall_congr' fun name => ?_
  rw [Source.laidOverField env keywords.distinct]
  cases given : (dict forced).field? name with
  | some v => simp [layered]
  | none =>
    simp only [layered,Option.isSome_none,Bool.false_eq_true,false_imp_iff,iff_true]
    intro some
    by_contra out
    rw [Source.fieldUnnamed (Source.gathered heeded).2 out] at some
    cases some

end

def chosenBy (environment : Option Value) (forced : List (Value × Value)) :
    Except Failure (List (Value × Value)) :=
  match environment with
  | none => .ok forced
  | some v =>
    match v.text?.bind Environment.ofLabel? with
    | some e => .ok (putEntry (.str "environment") (.str e.label) forced)
    | none => .error (.unknownProfile v.inner)

structure Settled (vars : List Variable) (forced : List (Value × Value)) (s : Settings τ) : Prop where
  readable : ∀ name ∈ names, ∃ found, setting vars name = .ok found
  known : ∀ name, ((dict forced).field? name).isSome → name ∈ names
  mappings : ∀ b ∈ (Branch.all : List (Branch τ)), ∀ v, said vars forced [b.name] = some v →
    ∃ entries, v = .dict entries
  reads : ∀ leaf ∈ leaves, leaf.Reads (said vars forced leaf.path)
    (if (said vars forced (leaf.path.take 1)).isSome then usual else layer s.environment) s

theorem chosenKeywords {environment : Option Value} {forced chosen : List (Value × Value)}
    (keywords : Keywords forced) (chose : chosenBy environment forced = .ok chosen) :
    Keywords chosen := by
  cases environment with
  | none =>
    cases chose
    exact keywords
  | some v =>
    rw [chosenBy] at chose
    split at chose
    · cases chose
      refine ⟨fun e mem => ?_,entryDistinct keywords.distinct,fun name entries found => ?_⟩
      · rcases putKey mem with key | ⟨f,old,key⟩
        · exact ⟨_,key⟩
        · rw [key]
          exact keywords.named f old
      · rw [fieldPut] at found
        split at found
        · cases found
        · exact keywords.within name entries found
    · cases chose

theorem settledIff {vars : List Variable} {forced : List (Value × Value)} (keywords : Keywords forced)
    {s : Settings τ} :
    (∃ record, supplied vars forced = .ok record ∧ ∃ c, check (.dict record) = .valid c ∧
      c.filled (profile c.environment) (record.map (fun e => e.1.display)) = s) ↔
      Settled (Source.normalized vars) forced s := by
  constructor
  · rintro ⟨record,given,c,checked,rfl⟩
    obtain ⟨env,heeded,last⟩ := exceptBindIff.mp given
    cases last
    obtain ⟨reads,known⟩ := (filledIff (givenNamed heeded keywords)).mp ⟨c,checked,rfl⟩
    obtain ⟨mappings,reads⟩ := (layersIff heeded keywords).mp reads
    exact ⟨fun name mem => ⟨_,(Source.gathered heeded).1 name mem⟩,(knownIff heeded keywords).mp known,
      mappings,reads⟩
  · rintro ⟨readable,known,mappings,reads⟩
    obtain ⟨env,heeded⟩ := Source.gatherOk readable
    obtain ⟨c,checked,same⟩ := (filledIff (givenNamed heeded keywords)).mpr
      ⟨(layersIff heeded keywords).mpr ⟨mappings,reads⟩,(knownIff heeded keywords).mpr known⟩
    have kept : c.environment = s.environment := by
      rw [← same]
      rfl
    exact ⟨_,by rw [supplied,heeded]; rfl,c,checked,by rw [kept]; exact same⟩

theorem forEnvironmentOk {environment : Option Value} {vars : List Variable}
    {forced : List (Value × Value)} {s : Settings τ} :
    forEnvironment environment vars forced = .ok s ↔
      ∃ chosen, chosenBy environment forced = .ok chosen ∧
        ∃ record, supplied vars chosen = .ok record ∧ ∃ c, check (.dict record) = .valid c ∧
          c.filled (profile c.environment) (record.map (fun e => e.1.display)) = s := by
  have unfolded : forEnvironment environment vars forced = (do
      let chosen ← chosenBy environment forced
      let record ← supplied vars chosen
      let c ← (check (τ := τ) (.dict record)).toExcept
      .ok (c.filled (profile c.environment) (record.map (fun e => e.1.display)))) := by
    cases environment with
    | none => rfl
    | some v =>
      simp only [forEnvironment,chosenBy]
      cases v.text?.bind Environment.ofLabel? <;> rfl
  simp only [unfolded,exceptBindIff,Checked.toExceptIff,Except.ok.injEq]

/-- What neither a caller nor a variable names, the profile decides. -/
def LeafByLeaf (vars : List Variable) (forced : List (Value × Value)) (s : Settings τ) : Prop :=
  ∀ leaf ∈ leaves, leaf.Reads (said vars forced leaf.path) (layer s.environment) s

def PartsAgree (vars : List Variable) (forced : List (Value × Value)) (below : Settings τ) : Prop :=
  ∀ leaf ∈ leaves, said vars forced leaf.path = none → (said vars forced (leaf.path.take 1)).isSome →
    leaf.get usual = leaf.get below

theorem Settled.agree {vars : List Variable} {forced : List (Value × Value)} {s : Settings τ}
    (settled : Settled vars forced s) :
    LeafByLeaf vars forced s ↔ PartsAgree vars forced (layer s.environment : Settings τ) := by
  refine forall₂_congr fun leaf mem => ?_
  have read := settled.reads leaf mem
  cases word : said vars forced leaf.path with
  | some v =>
    rw [word] at read
    exact iff_of_true read (by simp)
  | none =>
    rw [word] at read
    simp only [Leaf.Reads,true_implies] at read ⊢
    split at read
    · rename_i named
      rw [read]
      exact ⟨fun same _ => same,fun agree => agree named⟩
    · rename_i unnamed
      exact iff_of_true read fun named => (unnamed named).elim

theorem leafByLeafIff {environment : Option Value} {vars : List Variable}
    {forced : List (Value × Value)} (keywords : Keywords forced) {s : Settings τ} :
    forEnvironment environment vars forced = .ok s ↔
      ∃ chosen, chosenBy environment forced = .ok chosen ∧
        Settled (Source.normalized vars) chosen s ∧
        (∀ path w, Source.Word (Source.normalized vars) path w →
          heard (Source.normalized vars) path = w) ∧
        (LeafByLeaf (Source.normalized vars) chosen s ↔
          PartsAgree (Source.normalized vars) chosen (layer s.environment : Settings τ)) := by
  rw [forEnvironmentOk]
  refine exists_congr fun chosen => and_congr_right fun chose => ?_
  rw [settledIff (chosenKeywords keywords chose)]
  constructor
  · intro settled
    exact ⟨settled,fun path w word => Source.heardWord settled.readable word,settled.agree⟩
  · intro given
    exact given.1

def narrowed : List (Value × Value) :=
  [(.str "security_rules", .dict [(.str "max_key_length", .int 100)])]

def narrowedProduction : Settings Number :=
  { layer .production with
    environment := .production
    security := { SecurityRules.usual with maxKeyLength := 100 } }

theorem narrowedKeywords : Keywords narrowed where
  named := by simp [Named,narrowed]
  distinct := List.pairwise_singleton ..
  within name entries found := by
    rw [narrowed,fieldCons] at found
    split at found
    · cases found
      exact List.pairwise_singleton ..
    · cases found

theorem narrowedSettled : Keywords narrowed ∧
    ∃ chosen, chosenBy (some (.str "production")) narrowed = .ok chosen ∧
      Settled (Source.normalized []) chosen narrowedProduction := by
  have resolved : forEnvironment (some (.str "production")) [] narrowed = .ok narrowedProduction := rfl
  obtain ⟨chosen,chose,settled,-⟩ := (leafByLeafIff narrowedKeywords).mp resolved
  exact ⟨narrowedKeywords,chosen,chose,settled⟩

/-- One leaf of a section is named, and two others lose what the profile of production sets. -/
theorem profileLost : ∃ chosen, chosenBy (some (.str "production")) narrowed = .ok chosen ∧
    ∃ s : Settings Number, forEnvironment (some (.str "production")) [] narrowed = .ok s ∧
      (s.security.maxKeyLength = 100 ∧ s.security.rejectSensitive = false ∧ s.security.rateLimit = 0) ∧
      (profile .production : Profile Number).security.map
        (fun r => (r.rejectSensitive, r.rateLimit)) = some (true, 100) ∧
      ¬ LeafByLeaf (Source.normalized []) chosen s := by
  refine ⟨_,rfl,narrowedProduction,rfl,⟨rfl,rfl,rfl⟩,rfl,fun kept => ?_⟩
  have lost := kept (Branch.security.inside ⟨["reject_sensitive"],Coercion.bool,(·.rejectSensitive)⟩)
    (by simp [leaves,Branch.all,Branch.security,SecurityRules.leaves])
  exact Bool.false_ne_true lost

end Settings
end ReadThrough
