import Storefront.Proofs.Mold.Edit
import Storefront.Pattern.Replace
import Storefront.Proofs.Text.Spans
import Storefront.Proofs.Text.Strip

/-! # Molds on classes of characters

A pattern that asks for one character of a set or more matches the runs of its characters, each as long as it can be
made. To replace its matches is to replace those runs.

Molds that look at classes of characters only can be repeated, reordered and applied part by part. It makes no difference
whether they go through a text run by run, as patterns do, or character by character.
-/
namespace Storefront.Pattern
open Text
variable {S : CharSet} {a pos : Nat} {before : Option Char}

/-- One character of a set or more, as many as there are. Its program is
`#[.accept, .save 1 0, .split 3 1, .one S 2, .save 0 3]` and starts at 4. -/
def ofRun (S : CharSet) : Pattern := ⟨.rep (.set S) 1 none true, 0, []⟩

/-- The one way within a run that began at `a` and may end at `pos`. -/
def withinRun (S : CharSet) (a pos : Nat) : Ways :=
  ⟨#[(S, 2, #[some a, none])], some #[some a, some pos], #[true, true, true, true, false]⟩

theorem add_again (S : CharSet) (a pos : Nat) (before after : Option Char) :
    (Ways.none 5).add (ofRun S).program pos before after 2 #[some a, none] = withinRun S a pos := rfl

theorem add_start (S : CharSet) (pos : Nat) (before after : Option Char) :
    (Ways.none (ofRun S).program.code.size).add (ofRun S).program pos before after (ofRun S).program.start
        (Array.replicate (ofRun S).program.slots none) =
      ⟨#[(S, 2, #[some pos, none])], none, #[false, false, false, true, true]⟩ := rfl

theorem advance_of_found (S : CharSet) (pos : Nat) (before : Option Char) (rest : List Char) (found : Slots) :
    (ofRun S).program.advance pos before rest (Ways.none 5) (some found) = some found := by
  cases rest <;> simp [Program.advance, Ways.none]

theorem advance_withinRun_cons (S : CharSet) (a pos : Nat) (before : Option Char) (c : Char) (rest : List Char)
    (found : Option Slots) :
    (ofRun S).program.advance pos before (c :: rest) (withinRun S a pos) found =
      (ofRun S).program.advance (pos + 1) (some c) rest
        (if S.mem c then withinRun S a (pos + 1) else Ways.none 5) (some #[some a, some pos]) := by
  rw [Program.advance]
  simp only [← add_again S a (pos + 1) (some c) rest.head?]
  cases found <;> rfl

theorem advance_withinRun (S : CharSet) (a pos : Nat) (before : Option Char) (rest : List Char)
    (found : Option Slots) :
    (ofRun S).program.advance pos before rest (withinRun S a pos) found =
      some #[some a, some (pos + runLength S.mem rest)] := by
  induction rest generalizing pos before found with
  | nil => simp [Program.advance, withinRun, runLength]
  | cons c rest ih =>
    rw [advance_withinRun_cons]
    cases h : S.mem c with
    | true => rw [if_pos rfl, ih, runLength_of_pos h, Nat.add_assoc, Nat.add_comm 1]
    | false => rw [if_neg Bool.false_ne_true, advance_of_found, runLength_of_neg h, Nat.add_zero]

theorem find_cons (S : CharSet) (pos : Nat) (before : Option Char) (c : Char) (rest : List Char) :
    (ofRun S).program.find pos before (c :: rest) =
      (ofRun S).program.advance (pos + 1) (some c) rest
        (if S.mem c then withinRun S pos (pos + 1) else Ways.none 5) none := by
  rw [Program.find, Program.advance]
  simp only [add_start, ← add_again S pos (pos + 1) (some c) rest.head?]
  rfl

/-- The first match is the first run, if there is one. -/
theorem find_eq (S : CharSet) (pos : Nat) (before : Option Char) (rest : List Char) :
    (ofRun S).program.find pos before rest =
      match rest.dropWhile (!S.mem ·) with
      | [] => none
      | run =>
        let a := pos + runLength (!S.mem ·) rest
        some #[some a, some (a + runLength S.mem run)] := by
  induction rest generalizing pos before with
  | nil => rfl
  | cons c rest ih =>
    rw [find_cons]
    cases h : S.mem c with
    | true =>
      rw [if_pos rfl, advance_withinRun, List.dropWhile_cons_of_neg (by simp [h]), runLength_of_neg (by simp [h])]
      simp only [runLength_of_pos h, Nat.add_zero, Nat.add_assoc, Nat.add_comm 1]
    | false =>
      have hnext := ih (pos + 1) (some c)
      rw [Program.find] at hnext
      rw [if_neg Bool.false_ne_true, List.dropWhile_cons_of_pos (by simp [h]), runLength_of_pos (by simp [h])]
      refine Eq.trans hnext ?_
      simp only [Nat.add_assoc, Nat.add_comm 1]

theorem fillMatches_findAll {pieces : List Piece} {new : List Char} (hpieces : ∀ m, pieces.flatMap (·.fill [] m) = new)
    (text : List Char) {fuel : Nat} {rest : List Char} (hfuel : rest.length < fuel) (pos : Nat)
    (before : Option Char) (last : Option Nat) :
    fillMatches [] pieces pos rest (((ofRun S).program.findAll fuel pos before rest last).map (⟨·, text⟩)) =
      replaceRuns S.mem new rest := by
  induction fuel generalizing rest pos before last with
  | zero => exact absurd hfuel (Nat.not_lt_zero _)
  | succ fuel ih =>
    -- one match uses up its run, and the rest is shorter, so the fuel is not exhausted
    have hrest := List.takeWhile_append_dropWhile (p := (!S.mem ·)) (l := rest)
    rw [replaceRuns_eq]
    cases hrun : rest.dropWhile (!S.mem ·) with
    | nil =>
      rw [hrun, List.append_nil] at hrest
      simp [Program.findAll, find_eq, hrun, hrest, fillMatches]
    | cons c run =>
      have hc : S.mem c = true := by simpa using head?_dropWhile (!S.mem ·) rest c (by simp [hrun])
      have hpos : runLength S.mem (c :: run) ≠ 0 := by simp [runLength_of_pos hc]
      have hdrop : rest.drop (runLength (!S.mem ·) rest + runLength S.mem (c :: run)) = run.dropWhile S.mem := by
        rw [← List.drop_drop, drop_runLength, hrun, drop_runLength, List.dropWhile_cons_of_pos hc]
      have hshorter : (run.dropWhile S.mem).length < fuel := by
        have hle := List.length_dropWhile_le S.mem run
        have hlength := congrArg List.length hrest
        rw [hrun, List.length_append, List.length_cons] at hlength
        omega
      simp only [Program.findAll, find_eq, hrun, groupBounds]
      simp [fillMatches, Match.bounds, groupBounds, hpos, Nat.add_assoc, hdrop, take_runLength, hpieces, ih hshorter,
        replaceRuns_of_pos hc]

theorem readPieces_of_plain {new : List Char} (h : '$' ∉ new) : readPieces 0 new = new.map .text := by
  induction new with
  | nil => rfl
  | cons c new ih =>
    rw [List.mem_cons, not_or] at h
    have hc : c ≠ '$' := Ne.symm h.1
    simp [readPieces, hc, ih h.2]

/-- To replace the matches of a repeated set is to replace the runs of its characters. -/
theorem replaceMatches_ofRun (S : CharSet) (new : List Char) (h : '$' ∉ new) (s : List Char) :
    (ofRun S).replaceMatches new s = replaceRuns S.mem new s := by
  rw [replaceMatches, readPieces_of_plain h]
  refine fillMatches_findAll ?_ s (by omega) 0 none none
  intro m
  rw [List.flatMap_map]
  exact List.flatMap_singleton' new

end Storefront.Pattern

namespace Storefront.Mold
open Text
variable {ms ns : List Mold} {es fs : List Edit}

/-- Two pipelines do the same to every text, and neither fails. -/
def Agree (ms ns : List Mold) : Prop := ∀ s, ∃ t, applyAll ms s = .ok t ∧ applyAll ns s = .ok t

/-- Whether a mold can be applied to the parts of a text one by one. -/
def Distributes (m : Mold) : Prop :=
  ∀ front back, ∃ front' back', m.apply front = .ok front' ∧ m.apply back = .ok back' ∧
    m.apply (front ++ back) = .ok (front' ++ back')

def applyEdits (es : List Edit) (s : List Char) : List Char := es.foldl (fun s e => e.apply s) s

theorem run_of_edits (h : ms.map edit = es.map .ok) (s : List Char) : run ms s = (applyEdits es s, none) := by
  induction ms generalizing es s with
  | nil =>
    rw [List.map_nil, eq_comm, List.map_eq_nil_iff] at h
    rw [h]
    rfl
  | cons m ms ih =>
    obtain ⟨e, es, rfl, hm, hms⟩ := List.map_eq_cons_iff.mp h.symm
    rw [run, run_work_of_edit hm.symm]
    exact ih hms.symm (e.apply s)

theorem agree_of_edits (es fs : List Edit) (hm : ms.map edit = es.map .ok) (hn : ns.map edit = fs.map .ok)
    (h : ∀ s, applyEdits es s = applyEdits fs s) : Agree ms ns := by
  intro s
  refine ⟨applyEdits es s, ?_, ?_⟩
  · rw [applyAll, run_of_edits hm]
  · rw [applyAll, run_of_edits hn, h]

theorem distributes_of_edit {m : Mold} {e : Edit} (hm : m.edit = .ok e)
    (h : ∀ s t, e.apply (s ++ t) = e.apply s ++ e.apply t) : Distributes m := by
  intro s t
  exact ⟨e.apply s, e.apply t, apply_of_edit hm s, apply_of_edit hm t, by rw [apply_of_edit hm, h]⟩

theorem commaToPoint_idem (c : Char) : commaToPoint (commaToPoint c) = commaToPoint c := by
  by_cases h : c = ','
  · rw [h]
    rfl
  · simp [commaToPoint, h]

theorem isNumberChar_commaToPoint (c : Char) : isNumberChar (commaToPoint c) = isNumberChar c := by
  by_cases h : c = ','
  · rw [h]
    decide
  · simp [commaToPoint, h]

def nonNumber : Pattern.CharSet :=
  .compl (.union (.union (.union (.property .digit) (.single '-')) (.single '.')) (.single ','))

theorem mem_nonNumber (c : Char) : nonNumber.mem c = !isNumberChar c := by
  have hsingle (a : Char) : (Pattern.CharSet.single a).mem c = (c == a) := by
    simp only [Pattern.CharSet.single, Pattern.CharSet.mem]
    rw [Bool.eq_iff_iff, Bool.and_eq_true, decide_eq_true_eq, decide_eq_true_eq, beq_iff_eq]
    exact ⟨fun h => Char.le_antisymm h.2 h.1, fun h => h ▸ ⟨Char.le_refl _, Char.le_refl _⟩⟩
  simp only [nonNumber, Pattern.CharSet.mem, hsingle, Pattern.Property.mem, isNumberChar]

theorem ofText?_blanks : Pattern.ofText? "\\s+".toList = some (.ofRun (.property .blank)) := rfl

theorem ofText?_nonNumber : Pattern.ofText? "[^\\d\\-.,]+".toList = some (.ofRun nonNumber) := rfl

theorem edit_regexReplace {pattern : String} {p : Pattern} (h : Pattern.ofText? pattern.toList = some p)
    (replacement : String) :
    (⟨.regexReplace, [pattern, replacement]⟩ : Mold).edit = .ok (.replacePattern p replacement.toList) := by
  have hpattern : (⟨.regexReplace, [pattern, replacement]⟩ : Mold).textAttribute 0 = .ok pattern.toList := rfl
  have hreplacement : (⟨.regexReplace, [pattern, replacement]⟩ : Mold).textAttribute 1 = .ok replacement.toList := rfl
  simp [edit, hpattern, hreplacement, h, bind, Except.bind, pure, Except.pure]

theorem agree_spacer_pattern (as : List String) :
    Agree [⟨.spacer, as⟩] [⟨.regexReplace, ["\\s+", " "]⟩] := by
  have hpattern := edit_regexReplace ofText?_blanks " "
  refine agree_of_edits [.collapseBlanks] [.replacePattern (.ofRun (.property .blank)) [' ']] rfl
    (congrArg (· :: []) hpattern) ?_
  intro s
  have hruns := Pattern.replaceMatches_ofRun (.property .blank) [' '] (by decide) s
  exact (collapseBlanks_eq s).trans hruns.symm

theorem agree_onlyFloatChars_pattern (as : List String) :
    Agree [⟨.onlyFloatChars, as⟩] [⟨.regexReplace, ["[^\\d\\-.,]+", ""]⟩] := by
  have hpattern := edit_regexReplace ofText?_nonNumber ""
  refine agree_of_edits [.keepNumberChars] [.replacePattern (.ofRun nonNumber) []] rfl
    (congrArg (· :: []) hpattern) ?_
  intro s
  have hruns := (Pattern.replaceMatches_ofRun nonNumber [] (by decide) s).trans (replaceRuns_empty _ s)
  simp only [mem_nonNumber, Bool.not_not] at hruns
  exact hruns.symm

theorem agree_onlyFloatChars_commas2Points (as bs : List String) :
    Agree [⟨.onlyFloatChars, as⟩, ⟨.commas2Points, bs⟩] [⟨.commas2Points, bs⟩, ⟨.onlyFloatChars, as⟩] := by
  refine agree_of_edits [.keepNumberChars, .commasToPoints] [.commasToPoints, .keepNumberChars] rfl rfl ?_
  intro s
  simp only [applyEdits, List.foldl_cons, List.foldl_nil, Edit.apply, List.filter_map]
  congr 1
  exact List.filter_congr fun c _ => (isNumberChar_commaToPoint c).symm

/-- Molds on classes of characters change nothing when they are repeated. Blanks can be collapsed and trimmed in either
order, which makes no difference once they are removed, and commas can be made points before or after everything that
is no number is dropped. What a mold does to each character alone can be done part by part, and what it does to runs of
characters is what the pattern of such runs does. -/
theorem characterMolds_laws (attributes : Kind → List String) :
    let m (k : Kind) : Mold := ⟨k, attributes k⟩
    let idempotent (k : Kind) := Agree [m k, m k] [m k]
    (idempotent .spacer ∧ idempotent .deSpace ∧ idempotent .trim ∧ idempotent .onlyFloatChars ∧
      idempotent .commas2Points) ∧
    Agree [m .spacer, m .trim] [m .trim, m .spacer] ∧
    Agree [m .spacer, m .deSpace] [m .deSpace] ∧ Agree [m .trim, m .deSpace] [m .deSpace] ∧
    (∀ s, ∃ t, (m .spacer).apply s = .ok t ∧ Spaced t) ∧
    Agree [m .onlyFloatChars, m .commas2Points] [m .commas2Points, m .onlyFloatChars] ∧
    (Distributes (m .deSpace) ∧ Distributes (m .onlyFloatChars) ∧ Distributes (m .commas2Points)) ∧
    Agree [m .spacer] [⟨.regexReplace, ["\\s+", " "]⟩] ∧
    Agree [m .onlyFloatChars] [⟨.regexReplace, ["[^\\d\\-.,]+", ""]⟩] := by
  intro m idempotent
  refine ⟨⟨?_, ?_, ?_, ?_, ?_⟩, ?_, ?_, ?_, ?_, ?_, ⟨?_, ?_, ?_⟩, ?_, ?_⟩
  · exact agree_of_edits [.collapseBlanks, .collapseBlanks] [.collapseBlanks] rfl rfl collapseBlanks_idem
  · refine agree_of_edits [.removeBlanks, .removeBlanks] [.removeBlanks] rfl rfl ?_
    intro s
    simp [applyEdits, Edit.apply, removeBlanks]
  · exact agree_of_edits [.trim, .trim] [.trim] rfl rfl (strip_idem Unicode.isBlank)
  · refine agree_of_edits [.keepNumberChars, .keepNumberChars] [.keepNumberChars] rfl rfl ?_
    intro s
    simp [applyEdits, Edit.apply]
  · refine agree_of_edits [.commasToPoints, .commasToPoints] [.commasToPoints] rfl rfl ?_
    intro s
    simp [applyEdits, Edit.apply, commaToPoint_idem]
  · exact agree_of_edits [.collapseBlanks, .trim] [.trim, .collapseBlanks] rfl rfl trim_collapseBlanks
  · exact agree_of_edits [.collapseBlanks, .removeBlanks] [.removeBlanks] rfl rfl
      (removeBlanks_collapseFrom false)
  · exact agree_of_edits [.trim, .removeBlanks] [.removeBlanks] rfl rfl removeBlanks_trim
  · intro s
    exact ⟨collapseBlanks s, rfl, spaced_collapseBlanks s⟩
  · exact agree_onlyFloatChars_commas2Points (attributes .onlyFloatChars) (attributes .commas2Points)
  · exact distributes_of_edit (e := .removeBlanks) rfl removeBlanks_append
  · exact distributes_of_edit (e := .keepNumberChars) rfl fun s t => List.filter_append ..
  · exact distributes_of_edit (e := .commasToPoints) rfl fun s t => List.map_append
  · exact agree_spacer_pattern (attributes .spacer)
  · exact agree_onlyFloatChars_pattern (attributes .onlyFloatChars)

end Storefront.Mold
