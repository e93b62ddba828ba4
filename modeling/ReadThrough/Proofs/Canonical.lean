import Mathlib.Data.List.Forall2
import ReadThrough.Proofs.Delivery
import ReadThrough.Proofs.Gatekeeper

/-! Raw keys that are cleaned to the same key cannot be told apart: no operation of the store or of the
coordinator answers by the spelling of a key, nor leaves a trace of it. -/
namespace ReadThrough

namespace Key

/-- Two raw keys with one clean form, or one and the same thing that is no key. -/
inductive Alike : Value → Value → Prop where
  | same (raw : Value) : Alike raw raw
  | spelled {s t : String} (clean : cleaned s = cleaned t) : Alike (.str s) (.str t)

theorem cleanedAlike (s : String) : Alike (.str s) (.str (cleaned s)) := .spelled (cleanedAgain s).symm

theorem cleanedEmpty (s : String) : (cleaned s).isEmpty = s.isEmpty := by
  rw [Bool.eq_iff_iff,String.isEmpty_iff,String.isEmpty_iff]
  simp [cleaned,String.ofList_eq_empty_iff]

theorem cleanedLength (s : String) : (cleaned s).length = s.length := by
  rw [cleaned,String.length_ofList,List.length_map,String.length_toList]

theorem sanitizeAlike {raw raw' : Value} (alike : Alike raw raw') (limit : Int) :
    sanitize limit raw = sanitize limit raw' := by
  cases alike with
  | same => rfl
  | @spelled s t clean =>
    have empty : s.isEmpty = t.isEmpty := by rw [← cleanedEmpty s,clean,cleanedEmpty]
    simp only [sanitize,empty,clean]

theorem sanitizeIff (limit : Int) (s : String) :
    (∃ key, sanitize limit (.str s) = .ok key) ↔ 1 ≤ s.length ∧ (s.length : Int) ≤ limit := by
  have filled : s.isEmpty = false ↔ 1 ≤ s.length := by
    rw [String.isEmpty_eq_false_iff,Nat.one_le_iff_ne_zero,ne_eq,ne_eq,not_iff_not]
    exact String.length_eq_zero_iff.symm
  constructor
  · rintro ⟨key,done⟩
    obtain ⟨_,same,some,rfl,short⟩ := sanitizeOk done
    cases same
    exact ⟨filled.mp some,by rwa [← cleanedLength]⟩
  · rintro ⟨some,short⟩
    refine ⟨cleaned s,?_⟩
    rw [sanitize,if_neg (by simp [filled.mpr some])]
    exact if_neg (by rw [cleanedLength]; omega)

theorem listedClean {c : Char} (listed : Listed c) : clean c = c := by
  refine if_pos ?_
  unfold isAllowed Char.isAlphanum Char.isAlpha Char.isUpper Char.isLower Char.isDigit
  simp only [Bool.or_eq_true,Bool.and_eq_true,decide_eq_true_eq]
  rcases listed with lower | upper | digit | mark
  · exact .inl (.inl (.inl (.inl (.inl (.inl (.inr lower))))))
  · exact .inl (.inl (.inl (.inl (.inl (.inl (.inl upper))))))
  · exact .inl (.inl (.inl (.inl (.inl (.inr digit)))))
  · simp only [List.mem_cons,List.not_mem_nil,or_false] at mark
    rcases mark with rfl | rfl | rfl | rfl | rfl <;> simp

theorem cleanedPositions (s : String) :
    List.Forall₂ (fun c d => Listed d ∧ (Listed c → d = c)) s.toList (cleaned s).toList := by
  rw [cleaned,String.toList_ofList,List.forall₂_map_right_iff]
  exact List.forall₂_same.mpr fun c _ => ⟨allowedListed (cleanAllowed c),listedClean⟩

end Key

structure Item.Like {τ : Type} (i i' : Item τ) : Prop where
  key : Option.Rel Key.Alike i.key i'.key
  data : i.data = i'.data
  options : i.options = i'.options

namespace Store
variable {τ : Type} {raw raw' : Value}

theorem admitKeyAlike (alike : Key.Alike raw raw') : admitKey (τ := τ) raw = admitKey raw' := by
  funext s
  rw [admitKey,admitKey,Gate.admitKey,Gate.admitKey,Key.sanitizeAlike alike]

variable [Quantity τ]

theorem accessKeyAlike (alike : Key.Alike raw raw') (now : τ) : accessKey now raw = accessKey now raw' := by
  rw [accessKey,accessKey,admitKeyAlike alike]

theorem getAlike (alike : Key.Alike raw raw') (now : τ) : get now raw = get now raw' := by
  rw [get,get,accessKeyAlike alike]

theorem setAlike (alike : Key.Alike raw raw') (now : τ) (data : Value) (o : Options τ) :
    set now raw data o = set now raw' data o := by
  rw [set,set,accessKeyAlike alike]

theorem deleteAlike (alike : Key.Alike raw raw') (now : τ) : delete now raw = delete now raw' := by
  rw [delete,delete,admitKeyAlike alike]

theorem deleteAllAlike {raws raws' : List Value} (alike : List.Forall₂ Key.Alike raws raws') (now : τ) :
    deleteAll now raws = deleteAll now raws' := by
  induction alike with
  | nil => rfl
  | cons first _ ih => rw [deleteAll,deleteAll,deleteAlike first,ih]

theorem setBatchAlike {items items' : List (Item τ)} (alike : List.Forall₂ Item.Like items items') (now : τ) :
    setBatch now items = setBatch now items' := by
  induction alike with
  | nil => rfl
  | @cons i i' _ _ like _ ih =>
    obtain ⟨key,data,options⟩ := i
    obtain ⟨key',data',options'⟩ := i'
    obtain ⟨keys,rfl,rfl⟩ := like
    cases keys with
    | none => rw [setBatch,setBatch]
    | some keys =>
      cases data with
      | none => rw [setBatch,setBatch]
      | some data =>
        rw [setBatch,setBatch]
        dsimp only
        rw [setAlike keys,ih]

def getValues (now : τ) (raws : List Value) : Op (Store τ) (List Value) := do
  let pairs ← getBatch now raws
  pure (pairs.map (·.2))

theorem getValuesCons (now : τ) (raw : Value) (rest : List Value) : getValues now (raw :: rest) = (do
    let one ← get now raw
    let others ← getValues now rest
    pure (one.getD .null :: others)) := by
  funext s
  rw [getValues,getBatch,Op.bind_apply,Op.bind_apply,Op.bind_apply]
  rcases get now raw s with ⟨f | one,s₁⟩
  · rfl
  · dsimp only
    rw [Op.bind_apply,Op.bind_apply,getValues,Op.bind_apply]
    rcases getBatch now rest s₁ with ⟨f | others,s₂⟩ <;> rfl

theorem getValuesAlike {raws raws' : List Value} (alike : List.Forall₂ Key.Alike raws raws') (now : τ) :
    getValues now raws = getValues now raws' := by
  induction alike with
  | nil => rfl
  | cons first _ ih => rw [getValuesCons,getValuesCons,getAlike first,ih]

end Store

namespace Coordinator
variable {τ : Type} [Quantity τ] {raw raw' : Value}

theorem bustAlike (alike : Key.Alike raw raw') (now : τ) : bust now raw = bust now raw' := by
  rw [bust,bust,Store.admitKeyAlike alike]

theorem bustAllAlike {raws raws' : List Value} (alike : List.Forall₂ Key.Alike raws raws') (now : τ) :
    bustAll now raws = bustAll now raws' := by
  induction alike with
  | nil => rfl
  | cons first _ ih => rw [bustAll,bustAll,bustAlike first,ih]

omit [Quantity τ] in
/-- What may be asked of a cache, by what it answers: of its store, of the coordinator itself, and whatever takes no
raw key, such as a sweep, the removal of stored keys or a step of a task. -/
inductive Ask (τ : Type) : Type → Type 1 where
  | get (raw : Value) : Ask τ (Option Value)
  | getEntry (raw : Value) : Ask τ (Option (Entry τ))
  | getStale (raw : Value) : Ask τ (Option (Lookup τ))
  | has (raw : Value) : Ask τ Bool
  | getBatch (raws : List Value) : Ask τ (List Value)
  | store (raw data : Value) (o : Options τ) : Ask τ String
  | setBatch (items : List (Item τ)) : Ask τ (List String)
  | delete (raw : Value) : Ask τ Bool
  | deleteAll (raws : List Value) : Ask τ Nat
  | fetch (caller : String) (raw : Value) (r : Request τ) : Ask τ Answer
  | set (raw data : Value) (o : Options τ) : Ask τ String
  | bust (raw : Value) : Ask τ Bool
  | bustAll (raws : List Value) : Ask τ Nat
  | shouldCache (raw data : Value) : Ask τ Verdict
  | keyless {α : Type} (x : τ → Op (Coordinator τ) α) : Ask τ α

def perform (now : τ) {α : Type} : Ask τ α → Op (Coordinator τ) α
  | .get raw => inStore (Store.get now raw)
  | .getEntry raw => inStore (Store.getEntry now raw)
  | .getStale raw => readStale now raw
  | .has raw => inStore (Store.has raw)
  | .getBatch raws => inStore (Store.getValues now raws)
  | .store raw data o => inStore (Store.set now raw data o)
  | .setBatch items => inStore (Store.setBatch now items)
  | .delete raw => inStore (Store.delete now raw)
  | .deleteAll raws => inStore (Store.deleteAll now raws)
  | .fetch caller raw r => Coordinator.fetch now caller raw r
  | .set raw data o => Coordinator.set now raw data o
  | .bust raw => Coordinator.bust now raw
  | .bustAll raws => Coordinator.bustAll now raws
  | .shouldCache raw data => Coordinator.shouldCache raw data
  | .keyless x => x now

def results (c : Coordinator τ) :
    List (τ × Σ α, Ask τ α) → List (Σ α, Except Fault α) × Coordinator τ
  | [] => ([],c)
  | (now,⟨α,a⟩) :: rest => (results (perform now a c).2 rest).map (⟨α,(perform now a c).1⟩ :: ·) id

omit [Quantity τ] in
inductive Ask.Like : {α : Type} → Ask τ α → Ask τ α → Prop where
  | get {raw raw' : Value} (alike : Key.Alike raw raw') : Like (.get raw) (.get raw')
  | getEntry {raw raw' : Value} (alike : Key.Alike raw raw') : Like (.getEntry raw) (.getEntry raw')
  | getStale {raw raw' : Value} (alike : Key.Alike raw raw') : Like (.getStale raw) (.getStale raw')
  | has {raw raw' : Value} (alike : Key.Alike raw raw') : Like (.has raw) (.has raw')
  | getBatch {raws raws' : List Value} (alike : List.Forall₂ Key.Alike raws raws') :
      Like (.getBatch raws) (.getBatch raws')
  | store {raw raw' : Value} (alike : Key.Alike raw raw') (data : Value) (o : Options τ) :
      Like (.store raw data o) (.store raw' data o)
  | setBatch {items items' : List (Item τ)} (alike : List.Forall₂ Item.Like items items') :
      Like (.setBatch items) (.setBatch items')
  | delete {raw raw' : Value} (alike : Key.Alike raw raw') : Like (.delete raw) (.delete raw')
  | deleteAll {raws raws' : List Value} (alike : List.Forall₂ Key.Alike raws raws') :
      Like (.deleteAll raws) (.deleteAll raws')
  | fetch (caller : String) {raw raw' : Value} (alike : Key.Alike raw raw') (r : Request τ) :
      Like (.fetch caller raw r) (.fetch caller raw' r)
  | set {raw raw' : Value} (alike : Key.Alike raw raw') (data : Value) (o : Options τ) :
      Like (.set raw data o) (.set raw' data o)
  | bust {raw raw' : Value} (alike : Key.Alike raw raw') : Like (.bust raw) (.bust raw')
  | bustAll {raws raws' : List Value} (alike : List.Forall₂ Key.Alike raws raws') :
      Like (.bustAll raws) (.bustAll raws')
  | shouldCache {raw raw' : Value} (alike : Key.Alike raw raw') (data : Value) :
      Like (.shouldCache raw data) (.shouldCache raw' data)
  | keyless {α : Type} (x : τ → Op (Coordinator τ) α) : Like (.keyless x) (.keyless x)

theorem performAlike {α : Type} {a a' : Ask τ α} (like : a.Like a') (now : τ) : perform now a = perform now a' := by
  cases like with
  | get alike => rw [perform,perform,Store.getAlike alike]
  | getEntry alike => rw [perform,perform,Store.getEntry,Store.getEntry,Store.accessKeyAlike alike]
  | getStale alike =>
    rw [perform,perform,readStale,readStale,Store.getStale,Store.getStale,Store.accessKeyAlike alike]
  | has alike => rw [perform,perform,Store.has,Store.has,Store.admitKeyAlike alike]
  | getBatch alike => rw [perform,perform,Store.getValuesAlike alike]
  | store alike data o => rw [perform,perform,Store.setAlike alike]
  | setBatch alike => rw [perform,perform,Store.setBatchAlike alike]
  | delete alike => rw [perform,perform,Store.deleteAlike alike]
  | deleteAll alike => rw [perform,perform,Store.deleteAllAlike alike]
  | fetch caller alike r => rw [perform,perform,Coordinator.fetch,Coordinator.fetch,Store.admitKeyAlike alike]
  | set alike data o =>
    rw [perform,perform,Coordinator.set,Coordinator.set,Store.admitKeyAlike alike,Store.setAlike alike]
  | bust alike => rw [perform,perform,bustAlike alike]
  | bustAll alike => rw [perform,perform,bustAllAlike alike]
  | shouldCache alike data =>
    rw [perform,perform,Coordinator.shouldCache,Coordinator.shouldCache,Store.admitKeyAlike alike]
  | keyless x => rfl

omit [Quantity τ] in
/-- At one moment the same is asked, under alike keys. -/
inductive Likewise : (τ × Σ α, Ask τ α) → (τ × Σ α, Ask τ α) → Prop where
  | at (now : τ) {α : Type} {a a' : Ask τ α} (like : a.Like a') : Likewise (now,⟨α,a⟩) (now,⟨α,a'⟩)

theorem resultsAlike {run run' : List (τ × Σ α, Ask τ α)} (likewise : List.Forall₂ Likewise run run')
    (c : Coordinator τ) : c.results run = c.results run' := by
  induction likewise generalizing c with
  | nil => rfl
  | cons first _ ih =>
    obtain ⟨now,like⟩ := first
    rw [results,results,performAlike like,ih]

/-- A run answers and leaves the same whichever way its keys are spelled, and the clean form of a text is one of
its spellings: as long as the text, with its listed characters in their places, and clean already. -/
theorem keysCanonical (c : Coordinator τ) :
    (∀ run run', List.Forall₂ Likewise run run' → c.results run = c.results run') ∧
    (∀ limit s, (∃ key, Key.sanitize limit (.str s) = .ok key) ↔ 1 ≤ s.length ∧ (s.length : Int) ≤ limit) ∧
    ∀ limit s key, Key.sanitize limit (.str s) = .ok key →
      Key.Alike (.str s) (.str key) ∧ key.length = s.length ∧
      List.Forall₂ (fun a b => Key.Listed b ∧ (Key.Listed a → b = a)) s.toList key.toList ∧
      Key.sanitize limit (.str key) = .ok key := by
  refine ⟨fun run run' likewise => resultsAlike likewise c,Key.sanitizeIff,fun limit s key done => ?_⟩
  have again := (Key.sanitizeAgain done).2
  obtain ⟨_,same,-,rfl,-⟩ := Key.sanitizeOk done
  cases same
  exact ⟨Key.cleanedAlike s,Key.cleanedLength s,Key.cleanedPositions s,again⟩

def underKeys (spell : String → String) : List (Number × Σ α, Ask Number α) := [
  (.whole 1000,⟨_,.fetch "a" (.str (spell "my key")) openRequest⟩),
  (.whole 1000,⟨_,.keyless fun now => Op.step (·.begin now 0)⟩),
  (.whole 1001,⟨_,.keyless fun now => Op.step (·.advance now 0 (.returned (.int 7)))⟩),
  (.whole 1002,⟨_,.getBatch [.str (spell "my key"),.str (spell "k")]⟩),
  (.whole 1003,⟨_,.has (.str (spell "my key"))⟩),
  (.whole 1004,⟨_,.get (.str (spell "my key"))⟩)]

theorem spelledAlike :
    List.Forall₂ Likewise (underKeys id) (underKeys Key.cleaned) ∧
      (limitedCache 3).results (underKeys id) = (limitedCache 3).results (underKeys Key.cleaned) ∧
      ((limitedCache 3).results (underKeys id)).2.store.entries.keys = ["my_key"] ∧
      ((limitedCache 3).results (underKeys id)).1.drop 3 = [⟨List Value,.ok [.int 7,.null]⟩,⟨Bool,.ok true⟩,
        ⟨Option Value,.error (.of (.rateLimited "my_key" 3 (.whole 60)))⟩] ∧
      Key.sanitize 6 (.str "my key") = .ok "my_key" ∧ Key.Alike (.str "my key") (.str "my_key") := by
  have likewise : List.Forall₂ Likewise (underKeys id) (underKeys Key.cleaned) :=
    .cons (.at _ (.fetch _ (Key.cleanedAlike _) _)) <| .cons (.at _ (.keyless _)) <| .cons (.at _ (.keyless _)) <|
      .cons (.at _ (.getBatch (.cons (Key.cleanedAlike _) (.cons (Key.cleanedAlike _) .nil)))) <|
      .cons (.at _ (.has (Key.cleanedAlike _))) <| .cons (.at _ (.get (Key.cleanedAlike _))) .nil
  have done : Key.sanitize 6 (.str "my key") = .ok "my_key" := rfl
  obtain ⟨agree,-,clean⟩ := keysCanonical (limitedCache 3)
  exact ⟨likewise,agree _ _ likewise,rfl,rfl,done,(clean 6 "my key" "my_key" done).1⟩

end Coordinator

end ReadThrough
