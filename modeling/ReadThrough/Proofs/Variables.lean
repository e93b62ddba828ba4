import ReadThrough.Proofs.Moves
import ReadThrough.Proofs.Overlay

/-! What the variables of the process say of each setting. A plain setting has the text of its
variable. A leaf of a section has what the last variable of its own says, else what the data text of
the section's variable says. -/
namespace ReadThrough.Settings.Source
open Value

def heard (vars : List Variable) : List String → Option Value
  | [] => none
  | name :: path =>
    match setting vars name with
    | .ok found => found.bind (at? path)
    | .error () => none

def text? (vars : List Variable) (name : String) : Option String :=
  (vars.find? (·.1 == beginning ++ name)).map (·.2)

def aim? (branch label : String) : Option (List String) :=
  let start := beginning ++ branch ++ "__"
  if start.isPrefixOf label then
    some (parts (String.ofList (label.toList.drop start.length)))
  else none

theorem fieldUnnamed {entries : List (Value × Value)} {ns : List String} {name : String}
    (keys : ∀ e ∈ entries, ∃ n ∈ ns, e.1 = .str n) (out : name ∉ ns) :
    (dict entries).field? name = none := by
  induction entries with
  | nil => rfl
  | cons e rest ih =>
    obtain ⟨n,mem,key⟩ := keys e (List.mem_cons_self ..)
    have other : e.1.sameKey (str name) ≠ true := by
      intro same
      cases key.symm.trans (sameName.mp same)
      exact out mem
    rw [fieldCons,if_neg other]
    exact ih fun e mem => keys e (List.mem_cons_of_mem _ mem)

theorem fieldAppend (xs ys : List (Value × Value)) (name : String) :
    (dict (xs ++ ys)).field? name = ((dict xs).field? name).or ((dict ys).field? name) := by
  simp only [field?,List.find?_append]
  cases xs.find? _ <;> rfl

theorem gathered {vars : List Variable} {ns : List String} {env : List (Value × Value)}
    (ok : gather vars ns = .ok env) :
    (∀ name ∈ ns, setting vars name = .ok ((dict env).field? name)) ∧
      ∀ e ∈ env, ∃ name ∈ ns, e.1 = .str name := by
  induction ns generalizing env with
  | nil =>
    cases ok
    simp
  | cons name rest ih =>
    rw [gather] at ok
    split at ok
    · cases ok
    · rename_i found word
      obtain ⟨others,more,last⟩ := exceptBindIff.mp ok
      cases last
      obtain ⟨said,keys⟩ := ih more
      constructor
      · intro n mem
        rw [fieldAppend]
        by_cases same : n = name
        · subst same
          rw [word]
          cases found with
          | some v => simp [fieldCons,sameKey]
          | none =>
            -- a name that says nothing is not in what was gathered, wherever it stands again
            by_cases again : n ∈ rest
            · rw [← Except.ok.inj (word.symm.trans (said n again))]
              rfl
            · rw [fieldUnnamed keys again]
              rfl
        · have apart : (str name).sameKey (str n) ≠ true := by simp [sameKey,Ne.symm same]
          rw [said n ((List.mem_cons.mp mem).resolve_left same)]
          cases found <;> simp [fieldCons,apart]
      · intro e mem
        rcases List.mem_append.mp mem with own | later
        · cases found with
          | none => cases own
          | some v => exact ⟨name,List.mem_cons_self ..,by simp_all⟩
        · obtain ⟨n,known,key⟩ := keys e later
          exact ⟨n,List.mem_cons_of_mem _ known,key⟩

theorem gatherOk {vars : List Variable} {ns : List String}
    (readable : ∀ name ∈ ns, ∃ found, setting vars name = .ok found) :
    ∃ env, gather vars ns = .ok env := by
  induction ns with
  | nil => exact ⟨[],rfl⟩
  | cons name rest ih =>
    obtain ⟨found,ok⟩ := readable name (List.mem_cons_self ..)
    obtain ⟨env,done⟩ := ih fun n mem => readable n (List.mem_cons_of_mem _ mem)
    exact ⟨_,by simp only [gather,ok,done]; rfl⟩

/-! The variables of one section, put in one after the other. -/

theorem putDeep (first next : String) (rest : List String) (v : Value) (entries : List (Value × Value)) :
    putPath (first :: next :: rest) v entries =
      match (dict entries).field? first with
      | none => putEntry (.str first) (.dict (putPath (next :: rest) v [])) entries
      | some (.dict below) => putEntry (.str first) (.dict (putPath (next :: rest) v below)) entries
      | some _ => entries :=
  putPath.eq_def (first :: next :: rest) v entries

theorem putOther {path : List String} {name : String} (v : Value) (entries : List (Value × Value))
    (other : path.head? ≠ some name) :
    (dict (putPath path v entries)).field? name = (dict entries).field? name := by
  have apart (first : String) (rest : List String) (here : path = first :: rest) (w : Value) :
      (dict (putEntry (.str first) w entries)).field? name = (dict entries).field? name := by
    rw [fieldPut,if_neg]
    intro same
    cases sameName.mp same
    exact other (by rw [here]; rfl)
  match path with
  | [] => rfl
  | [first] => exact apart first [] rfl v
  | first :: next :: rest =>
    rw [putDeep]
    split
    · exact apart first _ rfl _
    · exact apart first _ rfl _
    · rfl

theorem putDistinct {path : List String} (v : Value) {entries : List (Value × Value)}
    (distinct : DistinctKeys entries) : DistinctKeys (putPath path v entries) := by
  match path with
  | [] => exact distinct
  | [first] => exact entryDistinct distinct
  | first :: next :: rest =>
    rw [putDeep]
    split
    · exact entryDistinct distinct
    · exact entryDistinct distinct
    · exact distinct

theorem nestedCons (branch label text : String) (rest : List Variable) (entries : List (Value × Value)) :
    nested branch ((label, text) :: rest) entries =
      match aim? branch label with
      | some path => do
        let v ← nestedValue (readingOf branch path) text
        nested branch rest (putPath path v entries)
      | none => nested branch rest entries := by
  simp only [nested,aim?]
  split <;> rfl

theorem nestedAppend (branch : String) (before after : List Variable) (entries : List (Value × Value)) :
    nested branch (before ++ after) entries =
      nested branch before entries >>= nested branch after := by
  induction before generalizing entries with
  | nil => rfl
  | cons u rest ih =>
    rw [List.cons_append,nestedCons,nestedCons]
    split
    · rw [bind_assoc]
      simp only [ih]
    · exact ih entries

theorem nestedKeeps {branch : String} {vars : List Variable} {entries inner : List (Value × Value)}
    {P : List (Value × Value) → Prop} (done : nested branch vars entries = .ok inner)
    (keeps : ∀ u ∈ vars, ∀ path, aim? branch u.1 = some path → ∀ v entries, P entries →
      P (putPath path v entries))
    (start : P entries) : P inner := by
  induction vars generalizing entries with
  | nil =>
    cases done
    exact start
  | cons u rest ih =>
    have later := fun w mem => keeps w (List.mem_cons_of_mem _ mem)
    rw [nestedCons] at done
    split at done
    · rename_i path aimed
      obtain ⟨v,-,more⟩ := exceptBindIff.mp done
      exact ih more later (keeps u (List.mem_cons_self ..) path aimed v entries start)
    · exact ih done later start

theorem nestedOwn {branch leaf label text : String} {before after : List Variable}
    {inner : List (Value × Value)} {v : Value}
    (done : nested branch (before ++ (label, text) :: after) [] = .ok inner)
    (own : aim? branch label = some [leaf]) (last : ∀ u ∈ after, aim? branch u.1 ≠ some [leaf])
    (value : nestedValue (readingOf branch [leaf]) text = .ok v) (plain : ∀ entries, v ≠ .dict entries) :
    (dict inner).field? leaf = some v := by
  rw [nestedAppend] at done
  obtain ⟨entries,-,rest⟩ := exceptBindIff.mp done
  rw [nestedCons,own] at rest
  obtain ⟨w,given,rest⟩ := exceptBindIff.mp rest
  cases value.symm.trans given
  refine nestedKeeps (P := fun e => (dict e).field? leaf = some v) rest ?_ ?_
  · intro u mem path aimed w e stands
    match path with
    | [] => exact stands
    | [first] =>
      rw [putOther _ _ ?_]
      · exact stands
      · rintro ⟨⟩
        exact last u mem aimed
    | first :: next :: more =>
      -- a path that leads on below the leaf ends at a plain value without effect
      by_cases same : first = leaf
      · subst same
        rw [putDeep,stands]
        cases v with
        | dict entries => exact (plain entries rfl).elim
        | _ => exact stands
      · rw [putOther _ _ (by simpa using same)]
        exact stands
  · rw [putPath,fieldPut]
    simp [sameKey]

theorem nestedNone {branch leaf : String} {vars : List Variable} {inner : List (Value × Value)}
    (done : nested branch vars [] = .ok inner)
    (none : ∀ u ∈ vars, ∀ path, aim? branch u.1 = some path → path.head? ≠ some leaf) :
    (dict inner).field? leaf = Option.none :=
  nestedKeeps (P := fun e => (dict e).field? leaf = Option.none) done
    (fun u mem path aimed v e absent => (putOther v e (none u mem path aimed)).trans absent) rfl

theorem nestedDistinct {branch : String} {vars : List Variable} {inner : List (Value × Value)}
    (done : nested branch vars [] = .ok inner) : DistinctKeys inner :=
  nestedKeeps done (fun _ _ _ _ v _ distinct => putDistinct v distinct) List.Pairwise.nil

theorem heardLeaf {vars : List Variable} {branch : String} (compound : isCompound branch = true)
    (readable : ∃ found, setting vars branch = .ok found) :
    ∃ inner, nested branch vars [] = .ok inner ∧ ∀ leaf, heard vars [branch, leaf] =
      match text? vars branch with
      | none => (dict inner).field? leaf
      | some text =>
        match Value.read text with
        | .ok (.dict entries) => layered ((dict entries).field? leaf) ((dict inner).field? leaf)
        | _ => none := by
  obtain ⟨found,ok⟩ := readable
  have taken := ok
  rw [setting,if_pos compound] at taken
  obtain ⟨inner,done,rest⟩ := exceptBindIff.mp taken
  refine ⟨inner,done,fun leaf => ?_⟩
  simp only [heard,ok,text?,at?]
  cases direct : (vars.find? (·.1 == beginning ++ branch)).map (·.2) with
  | none =>
    simp only [direct,Except.ok.injEq] at rest
    subst rest
    cases inner <;> simp
  | some text =>
    simp only [direct] at rest
    cases data : Value.read text with
    | error e => simp [data] at rest
    | ok v =>
      simp only [data] at rest ⊢
      cases v with
      | dict entries =>
        cases rest
        simp [laidOverField _ (nestedDistinct done)]
      | _ =>
        cases rest
        rfl

/-- What the variables say where they speak plainly: a plain setting takes the text of its variable; a
leaf of a section takes what the last variable of its own says, and what the data text of the section
says where no variable leads to it. -/
inductive Word (vars : List Variable) : List String → Option Value → Prop where
  | plain {name : String} (plain : isCompound name = false) :
      Word vars [name] ((text? vars name).map .str)
  | own {before after : List Variable} {branch leaf label text : String} {v : Value}
      (compound : isCompound branch = true)
      (whole : ∀ text, text? vars branch = some text →
        ∃ entries, Value.read text = .ok (.dict entries))
      (own : vars = before ++ (label, text) :: after) (aimed : aim? branch label = some [leaf])
      (last : ∀ u ∈ after, aim? branch u.1 ≠ some [leaf])
      (value : nestedValue (readingOf branch [leaf]) text = .ok v)
      (flat : ∀ entries, v ≠ .dict entries) :
      Word vars [branch, leaf] (some v)
  | whole {branch leaf : String} (compound : isCompound branch = true)
      (aside : ∀ u ∈ vars, ∀ path, aim? branch u.1 = some path → path.head? ≠ some leaf) :
      Word vars [branch, leaf]
        ((text? vars branch).bind fun text => (Value.read text).toOption.bind (·.field? leaf))

theorem compoundNamed {name : String} (compound : isCompound name = true) : name ∈ names := by
  simp only [isCompound,List.contains_iff_mem,List.mem_cons,List.not_mem_nil,or_false] at compound
  rcases compound with rfl | rfl | rfl | rfl | rfl <;> decide

theorem heardWord {vars : List Variable} {path : List String} {w : Option Value}
    (readable : ∀ name ∈ names, ∃ found, setting vars name = .ok found) (word : Word vars path w) :
    heard vars path = w := by
  cases word with
  | plain plain => simp [heard,setting,plain,text?,at?]
  | @own before after branch leaf label text v compound whole own aimed last value flat =>
    obtain ⟨inner,done,leaves⟩ := heardLeaf compound (readable _ (compoundNamed compound))
    rw [own] at done
    rw [leaves,nestedOwn done aimed last value flat]
    split
    · rfl
    · rename_i text direct
      obtain ⟨entries,data⟩ := whole text direct
      rw [data]
      exact layeredFlat flat
  | @whole branch leaf compound aside =>
    obtain ⟨inner,done,leaves⟩ := heardLeaf compound (readable _ (compoundNamed compound))
    rw [leaves,nestedNone done aside]
    cases text? vars branch with
    | none => rfl
    | some text =>
      cases data : Value.read text with
      | error e => simp [data,Except.toOption]
      | ok v => cases v <;> simp [data,Except.toOption,layered,field?]

end ReadThrough.Settings.Source
