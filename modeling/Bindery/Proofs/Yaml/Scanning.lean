import Bindery.Proofs.Keeping
import Bindery.Yaml.Token

/-!
# What scanning YAML ends with

A reader at a place in a text finds it malformed, or meets a version with more digits than are
converted or an escape without a code point (`Yaml.LexemeTrouble`). The tokens of a text that goes
wrong end with one of these (`Yaml.Token.scan_broken`).
-/

namespace Bindery

open Std.Do Outcome

set_option mvcgen.warning false

namespace Yaml

/-- Why a word is not read. -/
inductive LexemeTrouble : ReadProblem → Prop where
  | malformed : LexemeTrouble .malformed
  | digits {n : Nat} (many : Number.longestInteger < n) :
      LexemeTrouble (.fault (.unconvertible (.integerLength n)))
  | codePoint : LexemeTrouble (.fault (.unconvertible .codePoint))
  | tooLarge : LexemeTrouble (.fault .outOfRange)

/-! ## Words -/

/-- A reader that fails in these ways only. -/
abbrev Scan.Careful {α : Type} (x : Scan α) : Prop := Keeps (fun _ => True) LexemeTrouble x

namespace Scan

@[spec] theorem fail_careful {α : Type} : Careful (fail : Scan α) := keeps_throw .malformed

@[spec] theorem peek_careful : Careful peek := by mvcgen [peek]

@[spec] theorem peekAt_careful (n : Nat) : Careful (peekAt n) := by mvcgen [peekAt]

@[spec] theorem forward_careful (n : Nat) : Careful (forward n) := by mvcgen [forward]

@[spec] theorem skip_careful (p : Char → Bool) : Careful (skip p) := by mvcgen [skip]

@[spec] theorem take_careful (p : Char → Bool) : Careful (take p) := by mvcgen [take]

@[spec] theorem lineBreak_careful : Careful lineBreak := by mvcgen [lineBreak]

@[spec] theorem expect_careful (p : Char → Bool) : Careful (expect p) := by mvcgen [expect]

@[spec] theorem bound_careful : Careful bound := by mvcgen [bound]

end Scan

open Scan

@[spec] theorem hexNumber_careful (n : Nat) : Careful (hexNumber n) := by mvcgen [hexNumber]

@[spec] theorem percentBytes_careful (fuel : Nat) : Careful (percentBytes fuel) := by
  induction fuel with
  | zero => mvcgen [percentBytes]
  | succ fuel ih => mvcgen [percentBytes, ih]

@[spec] theorem tagText_careful (fuel : Nat) : Careful (tagText fuel) := by
  induction fuel with
  | zero => mvcgen [tagText]
  | succ fuel ih => mvcgen [tagText, ih]

@[spec] theorem tagSuffix_careful : Careful tagSuffix := by mvcgen [tagSuffix]

@[spec] theorem tagHandle_careful : Careful tagHandle := by mvcgen [tagHandle]

@[spec] theorem hasSecondMark_careful : Careful hasSecondMark := by mvcgen [hasSecondMark]

@[spec] theorem tag_careful : Careful tag := by mvcgen [tag]

@[spec] theorem anchorName_careful : Careful anchorName := by mvcgen [anchorName]

@[spec] theorem commentLine_careful : Careful commentLine := by mvcgen [commentLine]

@[spec] theorem versionNumber_careful : Careful versionNumber := by
  mvcgen [versionNumber]
  exact .digits ‹_›

@[spec] theorem directive_careful : Careful directive := by mvcgen [directive]

@[spec] theorem codePoint_careful (n : Nat) : Careful (codePoint n) := by
  mvcgen [codePoint]
  · exact .tooLarge
  · exact .codePoint

@[spec] theorem quotedBreaks_careful (fuel : Nat) : Careful (quotedBreaks fuel) := by
  induction fuel with
  | zero => mvcgen [quotedBreaks]
  | succ fuel ih => mvcgen [quotedBreaks, ih]

@[spec] theorem quotedBlanks_careful : Careful quotedBlanks := by mvcgen [quotedBlanks]

@[spec] theorem escape_careful : Careful escape := by mvcgen [escape]

@[spec] theorem quotedText_careful (double : Bool) (fuel : Nat) :
    Careful (quotedText double fuel) := by
  induction fuel with
  | zero => mvcgen [quotedText]
  | succ fuel ih => mvcgen [quotedText, ih]

@[spec] theorem quotedRest_careful (quote : Char) (fuel : Nat) :
    Careful (quotedRest quote fuel) := by
  induction fuel with
  | zero => mvcgen [quotedRest]
  | succ fuel ih => mvcgen [quotedRest, ih]

@[spec] theorem quoted_careful (quote : Char) : Careful (quoted quote) := by mvcgen [quoted]

@[spec] theorem indentation_careful : Careful indentation := by mvcgen [indentation]

@[spec] theorem chomping_careful : Careful chomping := by mvcgen [chomping]

@[spec] theorem blockIndicators_careful : Careful blockIndicators := by mvcgen [blockIndicators]

@[spec] theorem leadingLines_careful (fuel deepest : Nat) :
    Careful (leadingLines fuel deepest) := by
  induction fuel generalizing deepest with
  | zero => mvcgen [leadingLines]
  | succ fuel ih => mvcgen [leadingLines, ih]

@[spec] theorem skipIndent_careful (indent fuel : Nat) : Careful (skipIndent indent fuel) := by
  induction fuel with
  | zero => mvcgen [skipIndent]
  | succ fuel ih => mvcgen [skipIndent, ih]

@[spec] theorem blockBreaks_careful (indent fuel : Nat) : Careful (blockBreaks indent fuel) := by
  induction fuel with
  | zero => mvcgen [blockBreaks]
  | succ fuel ih => mvcgen [blockBreaks, ih]

@[spec] theorem atBlockLine_careful (indent : Nat) : Careful (atBlockLine indent) := by
  mvcgen [atBlockLine]

@[spec] theorem blockLines_careful (fold : Bool) (indent fuel : Nat) :
    Careful (blockLines fold indent fuel) := by
  induction fuel with
  | zero => mvcgen [blockLines]
  | succ fuel ih => mvcgen [blockLines, ih]

@[spec] theorem blockScalar_careful (parent : Int) : Careful (blockScalar parent) := by
  mvcgen [blockScalar]

@[spec] theorem plainWord_careful (inFlow : Bool) (fuel : Nat) :
    Careful (plainWord inFlow fuel) := by
  induction fuel with
  | zero => mvcgen [plainWord]
  | succ fuel ih => mvcgen [plainWord, ih]

@[spec] theorem plainBreaks_careful (fuel : Nat) : Careful (plainBreaks fuel) := by
  induction fuel with
  | zero => mvcgen [plainBreaks]
  | succ fuel ih => mvcgen [plainBreaks, ih]

@[spec] theorem plainBlanks_careful : Careful plainBlanks := by mvcgen [plainBlanks]

@[spec] theorem plainRest_careful (inFlow : Bool) (indent : Int) (blanks : List Char) (fuel : Nat) :
    Careful (plainRest inFlow indent blanks fuel) := by
  induction fuel generalizing blanks with
  | zero => mvcgen [plainRest]
  | succ fuel ih => mvcgen [plainRest, ih]

@[spec] theorem plain_careful (inFlow : Bool) (parent : Int) : Careful (plain inFlow parent) := by
  mvcgen [plain]

/-! ## Tokens -/

/-- A token that says that a text goes wrong. -/
def Token.IsBroken : Token → Prop
  | .broken _ => True
  | _ => False

namespace Scanner

/-- A scanner that has found nothing wrong. -/
def Unbroken (s : Scanner) : Prop := ∀ t ∈ s.tokens, ¬t.IsBroken

abbrev Careful {α : Type} (x : Step α) : Prop := Keeps Unbroken LexemeTrouble x

variable {α : Type} {t : Token}

@[spec] theorem fail_careful : Careful (fail : Step α) := keeps_throw .malformed

/-- A reader changes nothing but the place. -/
@[spec] theorem lexeme_careful {read : Scan α} (h : Scan.Careful read) : Careful (lexeme read) := by
  mvcgen [lexeme]
  rename_i s unbroken
  have ends := keeps_iff.1 h s.cursor trivial
  cases found : read s.cursor with
  | ok e => exact unbroken
  | error e => exact ends.fails e found

@[spec] theorem push_careful (sound : ¬t.IsBroken) : Careful (push t) := by
  mvcgen [push]
  rename_i s unbroken _
  intro t' ht'
  rcases Array.mem_push.1 ht' with ht' | rfl
  · exact unbroken t' ht'
  · exact sound

@[spec] theorem insert_careful (place : Nat) (sound : ¬t.IsBroken) : Careful (insert place t) := by
  mvcgen [insert]
  rename_i s unbroken _
  intro t' ht'
  have among : t' ∈ s.tokens.insertIdxIfInBounds place t := ht'
  unfold Array.insertIdxIfInBounds at among
  split at among
  · rcases Array.mem_insertIdx.1 among with rfl | among
    · exact sound
    · exact unbroken t' among
  · exact unbroken t' among

@[spec] theorem allowKeys_careful (allowed : Bool) : Careful (allowKeys allowed) := by
  mvcgen [allowKeys]

@[spec] theorem dropStale_careful : Careful dropStale := by
  mvcgen [dropStale]

@[spec] theorem dropCandidate_careful : Careful dropCandidate := by
  mvcgen [dropCandidate]

@[spec] theorem noteCandidate_careful : Careful noteCandidate := by
  mvcgen [noteCandidate]

@[spec] theorem unwind_careful (column : Int) : Careful (unwind column) := by
  mvcgen [unwind]
  rename_i s unbroken _
  intro t' ht'
  rcases Array.mem_append.1 ht' with ht' | ht'
  · exact unbroken t' ht'
  · rw [Array.eq_of_mem_replicate ht']
    exact id

@[spec] theorem indentTo_careful (column : Nat) : Careful (indentTo column) := by
  mvcgen [indentTo]
  rename_i s unbroken found
  show (if s.indent < (column : Int) then _ else _ : Bool × Scanner).2.Unbroken
  split <;> exact unbroken

@[spec] theorem skipToToken_careful (fuel : Nat) : Careful (skipToToken fuel) := by
  induction fuel with
  | zero => mvcgen [skipToToken]
  | succ fuel ih => mvcgen [skipToToken, ih]

@[spec] theorem mark_careful (width : Nat) (sound : ¬t.IsBroken) : Careful (mark width t) := by
  mvcgen [mark]
  all_goals simp [sound]

@[spec] theorem scanDirective_careful : Careful scanDirective := by
  mvcgen [scanDirective]
  simp [Token.IsBroken]

@[spec] theorem scanDocumentMark_careful (sound : ¬t.IsBroken) : Careful (scanDocumentMark t) := by
  mvcgen [scanDocumentMark]
  all_goals simp [sound]

@[spec] theorem openBracket_careful (sound : ¬t.IsBroken) : Careful (openBracket t) := by
  mvcgen [openBracket]
  all_goals simp [sound]

@[spec] theorem closeBracket_careful (sound : ¬t.IsBroken) : Careful (closeBracket t) := by
  mvcgen [closeBracket]
  all_goals simp [sound]

@[spec] theorem scanFlowEntry_careful : Careful scanFlowEntry := by
  mvcgen [scanFlowEntry]
  simp [Token.IsBroken]

@[spec] theorem openBlock_careful (sound : ¬t.IsBroken) : Careful (openBlock t) := by
  mvcgen [openBlock]
  all_goals simp [sound]

@[spec] theorem scanBlockEntry_careful : Careful scanBlockEntry := by
  mvcgen [scanBlockEntry]
  all_goals simp [Token.IsBroken]

@[spec] theorem scanKey_careful : Careful scanKey := by
  mvcgen [scanKey]
  all_goals simp [Token.IsBroken]

@[spec] theorem scanValue_careful : Careful scanValue := by
  mvcgen [scanValue]
  all_goals simp [Token.IsBroken]

theorem lexeme_map (f : α → Token) (read : Scan α) : lexeme (f <$> read) = f <$> lexeme read := by
  funext s
  simp [lexeme]

@[spec] theorem scanAtom_careful {f : α → Token} {read : Scan α} (h : Scan.Careful read)
    (sound : ∀ a, ¬(f a).IsBroken) : Careful (scanAtom (f <$> read)) := by
  unfold scanAtom
  rw [lexeme_map]
  mvcgen
  all_goals simp [sound]

@[spec] theorem scanBlockScalar_careful : Careful scanBlockScalar := by
  mvcgen [scanBlockScalar]
  all_goals simp [Token.IsBroken]

@[spec] theorem scanPlain_careful : Careful scanPlain := by
  mvcgen [scanPlain]
  all_goals simp [Token.IsBroken]

@[spec] theorem step_careful : Careful step := by
  mvcgen [step]
  all_goals simp [Token.IsBroken]

/-- A scanner that has found nothing wrong so far says what it finds wrong in the end. -/
theorem run_broken {fuel : Nat} {s : Scanner} (h : s.Unbroken) {problem : ReadProblem}
    (told : .broken problem ∈ run fuel s) : LexemeTrouble problem := by
  induction fuel generalizing s with
  | zero => exact absurd trivial (h _ told)
  | succ fuel ih =>
    have ends := keeps_iff.1 step_careful s h
    unfold run at told
    split at told
    · rename_i e failed
      rcases Array.mem_push.1 told with before | here
      · rw [← Array.mem_toList_iff, Array.toList_extract] at before
        have there := List.mem_of_mem_drop (List.mem_of_mem_take before)
        exact absurd trivial (h _ (Array.mem_toList_iff.1 there))
      · obtain rfl := Token.broken.inj here
        exact ends.fails _ failed
    · rename_i s' stepped
      exact ih (ends.finds _ stepped) told
    · rename_i s' stepped
      have settled : (Token.broken problem) ∈ s'.tokens := told
      exact absurd trivial (ends.finds _ stepped _ settled)

end Scanner

/-- What the tokens of a text say is wrong with it. -/
theorem Token.scan_broken {text : List Char} {problem : ReadProblem}
    (told : .broken problem ∈ Token.scan text) : LexemeTrouble problem :=
  Scanner.run_broken (by simp [Scanner.Unbroken]) (Array.mem_toList_iff.1 told)

end Yaml

end Bindery
