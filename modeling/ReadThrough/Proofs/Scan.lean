import Mathlib.Tactic.SplitIfs
import ReadThrough.Proofs.Fence
import ReadThrough.Proofs.Moves
import ReadThrough.Settings.Section

/-! What a scan of data text sees of the data. Quotes and the marks of structure are fences, and the
text outside of strings holds nothing that a usual pattern asks for; inside a string every escape
begins with a fence too. So the scan sees the pieces of each string between its escapes, and of an
escaped control character the letters of its escape. -/
namespace ReadThrough
open Pattern (bare)

namespace Text

def isCut (c : Char) : Bool := c = '"' || c = '\\' || decide (c.toNat < 0x20)

def remnant (c : Char) : List Char :=
  if c = '"' ∨ c = '\\' then [] else (escapeData c).toList.tail

def pieces (piece : List Char) : List Char → List (List Char)
  | [] => [piece]
  | c :: rest =>
    if isCut c then piece :: pieces (remnant c) rest else pieces (piece ++ [c]) rest

def escaped (cs : List Char) : List Char := cs.flatMap fun c => (escapeData c).toList

theorem dataStringList (s : String) : (dataString s).toList = '"' :: (escaped s.toList ++ ['"']) := by
  -- the writer folds over the text, so the induction is over any text written before
  have grown (cs : List Char) (acc : String) :
      (cs.foldl (fun acc c => acc ++ escapeData c) acc).toList = acc.toList ++ escaped cs := by
    induction cs generalizing acc with
    | nil => simp [escaped]
    | cons c rest ih => simp [ih,escaped]
  rw [dataString,String.toList_push,String.foldl_eq_foldl_toList,grown]
  rfl

theorem escapePlain {c : Char} (plain : isCut c = false) : (escapeData c).toList = [c] := by
  simp only [isCut,Bool.or_eq_false_iff,decide_eq_false_iff_not] at plain
  obtain ⟨⟨quote,slash⟩,printed⟩ := plain
  have high (n : Nat) (low : n < 0x20) : c.toNat ≠ n := by omega
  have other (d : Char) (low : d.toNat < 0x20) : c ≠ d := by
    rintro rfl
    exact printed low
  simp [escapeData,quote,slash,printed,high 8,high 12,other '\n',other '\r',other '\t']

theorem escapeControl {c : Char} (cut : isCut c = true) (quote : c ≠ '"') (slash : c ≠ '\\') :
    (escapeData c).toList = '\\' :: remnant c := by
  have low : c.toNat < 0x20 := by simpa [isCut,quote,slash] using cut
  rw [remnant,if_neg (by simp [quote,slash])]
  unfold escapeData
  rw [if_neg quote,if_neg slash]
  split_ifs <;> simp

end Text

namespace Pattern
variable {n : Node}

theorem findsAfterFence (fits : n.Fits) {d : Char} (fence : d ∈ fences) (front back : List Char) :
    n.findsIn (front ++ d :: back) = (n.findsIn front || n.findsIn back) :=
  findsFenced fits.plain (List.all_eq_true.mp fits.fenced d fence) front back

theorem findsBehind (fits : n.Fits) {d : Char} (fence : d ∈ fences) (back : List Char) :
    n.findsIn (d :: back) = n.findsIn back := by
  rw [← List.nil_append (d :: back),findsAfterFence fits fence,findsEmpty fits,Bool.false_or]

theorem findsEscape (fits : n.Fits) {c : Char} (cut : Text.isCut c = true) (front back : List Char) :
    n.findsIn (front ++ ((Text.escapeData c).toList ++ back)) =
      (n.findsIn front || n.findsIn (Text.remnant c ++ back)) := by
  have slash : '\\' ∈ fences := by decide
  by_cases marked : c = '"' ∨ c = '\\'
  · have twice : (Text.escapeData c).toList = ['\\',c] := by rcases marked with rfl | rfl <;> rfl
    have fence : c ∈ fences := by rcases marked with rfl | rfl <;> decide
    rw [twice,Text.remnant,if_pos marked]
    change n.findsIn (front ++ '\\' :: c :: back) = _
    rw [findsAfterFence fits slash,findsBehind fits fence]
    rfl
  · obtain ⟨quote,other⟩ := not_or.mp marked
    rw [Text.escapeControl cut quote other]
    exact findsAfterFence fits slash front _

theorem findsEscaped (fits : n.Fits) (front cs : List Char) :
    n.findsIn (front ++ Text.escaped cs) = (Text.pieces front cs).any n.findsIn := by
  induction cs generalizing front with
  | nil => simp [Text.escaped,Text.pieces]
  | cons c rest ih =>
    have first : Text.escaped (c :: rest) = (Text.escapeData c).toList ++ Text.escaped rest := by
      simp [Text.escaped]
    rw [first,Text.pieces]
    cases cut : Text.isCut c with
    | true => rw [findsEscape fits cut,ih,if_pos rfl,List.any_cons]
    | false =>
      rw [Text.escapePlain cut,← List.append_assoc,ih]
      rfl

theorem findsString (fits : n.Fits) {front : List Char} (poor : front ⊆ bare) (s : String)
    (back : List Char) : n.findsIn (front ++ ((Text.dataString s).toList ++ back)) =
      ((Text.pieces [] s.toList).any n.findsIn || n.findsIn back) := by
  have quote : '"' ∈ fences := by decide
  have inner := findsEscaped fits [] s.toList
  rw [List.nil_append] at inner
  rw [Text.dataStringList,List.cons_append,List.append_assoc,findsAfterFence fits quote,
    List.singleton_append,findsAfterFence fits quote,inner,findsPoor fits.plain fits.demands poor,
    Bool.false_or]

end Pattern

/-! Numbers and words. -/

namespace Decimal

theorem naturalBare (k : Nat) : (toString k).toList ⊆ bare := by
  intro c mem
  have written : c ∈ Nat.toDigits 10 k := Nat.toList_repr ▸ mem
  have digit := Nat.isDigit_of_mem_toDigits (by decide) (by decide) written
  obtain ⟨low,high⟩ : 48 ≤ c.toNat ∧ c.toNat ≤ 57 := Char.isDigit_iff_toNat.mp digit
  have each : ∀ i ∈ List.range 10, Char.ofNat (48 + i) ∈ bare := by decide
  have here := each (c.toNat - 48) (List.mem_range.mpr (by omega))
  rwa [Nat.add_sub_cancel' low,Char.ofNat_toNat] at here

theorem wholeBare (k : Int) : (toString k).toList ⊆ bare := by
  cases k with
  | ofNat k => exact naturalBare k
  | negSucc k =>
    change ("-" ++ toString (k + 1)).toList ⊆ bare
    rw [String.toList_append]
    exact List.append_subset.mpr ⟨by decide,naturalBare _⟩

theorem zerosBare (k : Nat) : (zeros k).toList ⊆ bare := by
  rw [zeros,String.pushn_eq_repeat_push]
  induction k with
  | zero => decide
  | succ k ih =>
    rw [Nat.repeat,String.toList_push]
    exact List.append_subset.mpr ⟨ih,by decide⟩

theorem pointAfterBare (k : Nat) {text : String} (poor : text.toList ⊆ bare) :
    (pointAfter k text).toList ⊆ bare := by
  simp only [pointAfter,String.toList_append,String.toList_ofList,List.append_subset]
  exact ⟨⟨List.Subset.trans (List.take_subset _ _) poor,by decide⟩,
    List.Subset.trans (List.drop_subset _ _) poor⟩

theorem exponentBare (e : Int) : (exponentText e).toList ⊆ bare := by
  have digits := naturalBare e.natAbs
  simp only [exponentText,String.toList_append,List.append_subset]
  refine ⟨by split <;> decide,?_⟩
  split
  · rw [String.toList_append]
    exact List.append_subset.mpr ⟨by decide,digits⟩
  · exact digits

theorem magnitudeBare (l : Layout) (d : Digits) : (l.magnitude d).toList ⊆ bare := by
  unfold Layout.magnitude
  extract_lets text point
  have digits : text.toList ⊆ bare := naturalBare d.digits
  clear_value text point
  split
  · split
    · simp only [String.toList_append,List.append_subset]
      exact ⟨⟨digits,zerosBare _⟩,by split <;> decide⟩
    · split
      · exact pointAfterBare _ digits
      · simp only [String.toList_append,List.append_subset]
        exact ⟨⟨by decide,zerosBare _⟩,digits⟩
  · rw [String.toList_append]
    refine List.append_subset.mpr ⟨?_,exponentBare _⟩
    split
    · exact digits
    · exact pointAfterBare _ digits

theorem dataTextBare (x : Float) : (dataText x).toList ⊆ bare := by
  unfold dataText Layout.write
  split
  · rw [String.toList_append]
    exact List.append_subset.mpr ⟨by split <;> decide,magnitudeBare _ _⟩
  · split
    · decide
    · rw [String.toList_append]
      exact List.append_subset.mpr ⟨by split <;> decide,by decide⟩

end Decimal

/-! Values. -/

namespace Value

def keyTexts (k : Value) : List String :=
  match k.writtenKey with
  | .ok text => [text]
  | .error _ => []

mutual

def texts : Value → List String
  | str s => [s]
  | bytes bs => [Text.quotedBytes bs]
  | decimal text => [text]
  | tuple items => textsAll items
  | list items => textsAll items
  | dict entries => textsEntries entries
  | _ => []

def textsAll : List Value → List String
  | [] => []
  | x :: rest => texts x ++ textsAll rest

def textsEntries : List (Value × Value) → List String
  | [] => []
  | (k, v) :: rest => keyTexts k ++ texts v ++ textsEntries rest

end

end Value

namespace Pattern
variable {n : Node}

def Node.findsPiece (n : Node) (texts : List String) : Bool :=
  texts.any fun s => (Text.pieces [] s.toList).any n.findsIn

theorem findsPieceAppend (some others : List String) :
    n.findsPiece (some ++ others) = (n.findsPiece some || n.findsPiece others) := List.any_append

section
variable (fits : n.Fits)
include fits

theorem findsOnly {front : List Char} (poor : front ⊆ bare) (s : String) :
    n.findsIn (front ++ (Text.dataString s).toList) = n.findsPiece [s] := by
  simpa [findsEmpty fits,Node.findsPiece] using findsString fits poor s []

theorem findsEnclosed {front : List Char} (poor : front ⊆ bare) {opening closing : Char}
    (opens : opening ∈ fences) (closes : closing ∈ fences) (body : List Char) :
    n.findsIn (front ++ opening :: (body ++ [closing])) = n.findsIn body := by
  rw [findsAfterFence fits opens,findsAfterFence fits closes,findsPoor fits.plain fits.demands poor,
    findsEmpty fits,Bool.false_or,Bool.or_false]

theorem findsKey {front : List Char} (poor : front ⊆ bare) {k : Value} {name : String}
    (named : k.writtenKey = .ok name) (back : List Char) :
    n.findsIn (front ++ ((Text.dataString name).toList ++ ':' :: ' ' :: back)) =
      (n.findsPiece k.keyTexts || n.findsIn (' ' :: back)) := by
  rw [findsString fits poor,findsBehind fits (by decide),Value.keyTexts,named]
  simp [Node.findsPiece]

-- In front of a value stand only blanks, which no pattern demands; a comma, a colon or a bracket is a
-- fence, so each part is searched on its own.
mutual

theorem findsWritten {front : List Char} (poor : front ⊆ bare) : {v : Value} → {text : String} →
    v.written = .ok text → n.findsIn (front ++ text.toList) = n.findsPiece v.texts
  | .null, _, done => by
    cases done
    exact findsPoor fits.plain fits.demands (List.append_subset.mpr ⟨poor,by decide⟩)
  | .bool b, _, done => by
    cases done
    exact findsPoor fits.plain fits.demands (List.append_subset.mpr ⟨poor,by cases b <;> decide⟩)
  | .int k, _, done => by
    cases done
    exact findsPoor fits.plain fits.demands (List.append_subset.mpr ⟨poor,Decimal.wholeBare k⟩)
  | .float x, _, done => by
    cases done
    exact findsPoor fits.plain fits.demands (List.append_subset.mpr ⟨poor,Decimal.dataTextBare x⟩)
  | .str s, _, done => by
    cases done
    exact findsOnly fits poor s
  | .bytes bs, _, done => by
    cases done
    exact findsOnly fits poor (Text.quotedBytes bs)
  | .decimal s, _, done => by
    cases done
    exact findsOnly fits poor s
  -- what a container adds to its parts are fences, and no pattern leads over one
  | .tuple items, _, done => by
    obtain ⟨body,inner,last⟩ := exceptBindIff.mp done
    cases last
    have items := findsWrittenAll (List.nil_subset bare) inner
    rw [Value.texts,← items]
    simpa using findsEnclosed fits poor (by decide : '[' ∈ fences) (by decide : ']' ∈ fences) body.toList
  | .list items, _, done => by
    obtain ⟨body,inner,last⟩ := exceptBindIff.mp done
    cases last
    have items := findsWrittenAll (List.nil_subset bare) inner
    rw [Value.texts,← items]
    simpa using findsEnclosed fits poor (by decide : '[' ∈ fences) (by decide : ']' ∈ fences) body.toList
  | .dict entries, _, done => by
    obtain ⟨body,inner,last⟩ := exceptBindIff.mp done
    cases last
    have entries := findsWrittenEntries (List.nil_subset bare) inner
    rw [Value.texts,← entries]
    simpa using
      findsEnclosed fits poor (by decide : '\x7b' ∈ fences) (by decide : '\x7d' ∈ fences) body.toList
  | .circular, _, done => by cases done

theorem findsWrittenAll {front : List Char} (poor : front ⊆ bare) : {items : List Value} →
    {text : String} → Value.writtenAll items = .ok text →
    n.findsIn (front ++ text.toList) = n.findsPiece (Value.textsAll items)
  | [], _, done => by
    cases done
    exact findsPoor fits.plain fits.demands (List.append_subset.mpr ⟨poor,by decide⟩)
  | [x], _, done => by
    rw [findsWritten poor (v := x) done,Value.textsAll,Value.textsAll,List.append_nil]
  | x :: y :: rest, _, done => by
    obtain ⟨first,head,done⟩ := exceptBindIff.mp done
    obtain ⟨others,tail,last⟩ := exceptBindIff.mp done
    cases last
    have behind := findsAfterFence fits (by decide : ',' ∈ fences) (front ++ first.toList)
      (' ' :: others.toList)
    have blank : [' '] ⊆ bare := by decide
    rw [Value.textsAll,findsPieceAppend,← findsWritten poor head,← findsWrittenAll blank tail]
    simpa using behind

theorem findsWrittenEntries {front : List Char} (poor : front ⊆ bare) :
    {entries : List (Value × Value)} → {text : String} → Value.writtenEntries entries = .ok text →
    n.findsIn (front ++ text.toList) = n.findsPiece (Value.textsEntries entries)
  | [], _, done => by
    cases done
    exact findsPoor fits.plain fits.demands (List.append_subset.mpr ⟨poor,by decide⟩)
  | [(k,v)], _, done => by
    obtain ⟨name,named,done⟩ := exceptBindIff.mp done
    obtain ⟨body,inner,last⟩ := exceptBindIff.mp done
    cases last
    have blank : [' '] ⊆ bare := by decide
    have key := findsKey fits poor named body.toList
    rw [Value.textsEntries,Value.textsEntries,List.append_nil,findsPieceAppend,← findsWritten blank inner]
    simpa using key
  | (k,v) :: e :: rest, _, done => by
    obtain ⟨name,named,done⟩ := exceptBindIff.mp done
    obtain ⟨body,inner,done⟩ := exceptBindIff.mp done
    obtain ⟨others,tail,last⟩ := exceptBindIff.mp done
    cases last
    have blank : [' '] ⊆ bare := by decide
    have key := findsKey fits poor named (body.toList ++ ',' :: ' ' :: others.toList)
    have behind := findsAfterFence fits (by decide : ',' ∈ fences) (' ' :: body.toList)
      (' ' :: others.toList)
    rw [List.cons_append] at behind
    rw [behind] at key
    rw [Value.textsEntries,findsPieceAppend,findsPieceAppend,← findsWritten blank inner,
      ← findsWrittenEntries blank tail,Bool.or_assoc]
    simpa using key

end
end

end Pattern

end ReadThrough
