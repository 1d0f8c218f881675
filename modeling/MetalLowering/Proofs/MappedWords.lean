import MetalLowering.Proofs.RepeatedLowering
import MetalLowering.Proofs.WordPieces

/-!
# Mapping the words of a line at once

The vocabulary maps a line in two passes, or in three for the fragment stage, and the order of the
passes matters: `mat3` is a constructor in front of a bracket and a type elsewhere. Main statement:
the passes together look at each piece of the line once, and put there what `translate` says of the
piece and the text behind it (`mapLine_eq_mapPieces`).

A pass gives words for words and leaves the marks between them alone (`KeepsWords`). So the next
pass finds the same pieces as before, with the new words in the places of the old ones
(`WordWise.substitute_mapPieces`), and a bracket behind a word stays where it is
(`KeepsWords.opensBracket_mapPieces`). That a line is mapped only once follows from the same
equation, since no word is mapped to one that has a translation again (`translate_translate`).
-/

namespace MetalLowering

namespace Text

variable {rule : Rule} {f : Option Char → Text → Text → Text} {g : Text → Text → Text}

/-! ### Passes that give words for words -/

/-- A replacement of pieces that gives words for words and leaves the marks between them alone. -/
structure KeepsWords (f : Option Char → Text → Text → Text) : Prop where
  /-- A word is given for a word. -/
  word : ∀ (before : Option Char) {w : Text} (behind : Text), Word w → Word (f before w behind)
  /-- A mark stays as it is. -/
  mark : ∀ (before : Option Char) {c : Char} (behind : Text), isWordChar c = false →
    f before [c] behind = [c]

/-- Looking at the pieces of a line and changing none of them. -/
lemma keepsWords_id : KeepsWords fun _ piece _ => piece where
  word _ _ _ hw := hw
  mark _ _ _ _ := rfl

/-- Two translations that keep words keep them one after the other. -/
lemma KeepsWords.comp (hg : KeepsWords fun _ => g) (hf : KeepsWords f) :
    KeepsWords fun before piece behind => g (f before piece behind) behind where
  word before _ behind hw := hg.word before behind (hf.word before behind hw)
  mark before _ behind hc := by
    rw [hf.mark before behind hc]
    exact hg.mark before behind hc

/-- Pieces that are left as they are make the text again. -/
lemma mapPieces_id (before : Option Char) (cut : List Text) :
    mapPieces (fun _ piece _ => piece) before cut = cut.flatten := by
  induction cut generalizing before with
  | nil => rfl
  | cons piece rest ih => rw [mapPieces, ih, List.flatten_cons]

/-- The pieces of a line that starts with a mark, mapped. -/
lemma KeepsWords.mapPieces_mark (h : KeepsWords f) (before : Option Char) {c : Char}
    (hc : isWordChar c = false) (t : Text) :
    mapPieces f before (pieces (c :: t)) = c :: mapPieces f (some c) (pieces t) := by
  rw [pieces_mark hc, mapPieces, h.mark _ _ hc]
  rfl

/-- The pieces of a line that starts with a word, mapped. -/
lemma mapPieces_word (f : Option Char → Text → Text → Text) (before : Option Char) {w t : Text}
    (hw : Word w) (ht : Ends t) :
    mapPieces f before (pieces (w ++ t)) = f before w t ++ mapPieces f w.getLast? (pieces t) := by
  rw [pieces_word hw ht, mapPieces, (cut_pieces t).flatten_eq]

/-- A text that ends is still ended after its words are translated. -/
lemma KeepsWords.ends_mapPieces (h : KeepsWords f) {t : Text} (ht : Ends t)
    (before : Option Char) : Ends (mapPieces f before (pieces t)) := by
  cases t with
  | nil => exact ends_nil
  | cons c t =>
      rw [h.mapPieces_mark before (ht c rfl)]
      exact ends_cons (ht c rfl) _

/-- A pass over the words that another one gives: it is made at once, if it does not see the changes
behind a word. -/
theorem WordWise.substitute_mapPieces (h : WordWise rule fun _ => g) (hg : KeepsWords fun _ => g)
    (hf : KeepsWords f)
    (hbehind : ∀ (w : Text) (before : Option Char) (t : Text),
      g w (mapPieces f before (pieces t)) = g w t) (line : Text) :
    substitute rule (mapPieces f none (pieces line)) =
      mapPieces (fun before piece behind => g (f before piece behind) behind) none
        (pieces line) := by
  -- the characters before a place may differ in both lines, but no word goes on there
  have hfrom : ∀ before before' : Option Char, isWord? before' = false ∨ Ends line →
      substituteFrom rule before' 0 (mapPieces f before (pieces line)) =
        mapPieces (fun before piece behind => g (f before piece behind) behind) before
          (pieces line) := by
    induction wordsIn_true line with
    | nil =>
        intro before before' _
        rfl
    | @mark c t hc _ ih =>
        intro before before' _
        rw [hf.mapPieces_mark before hc, (hg.comp hf).mapPieces_mark before hc,
          h.substituteFrom_mark before' hc, ih (some c) (some c) (Or.inl hc)]
    | @word w t hw ht _ _ ih =>
        intro before before' hbefore
        have hstart := hbefore.resolve_right (hw.not_ends_append t)
        have hgiven := hf.word before t hw
        rw [mapPieces_word f before hw ht, mapPieces_word _ before hw ht,
          h.substituteFrom_word hstart hgiven (hf.ends_mapPieces ht _), hbehind,
          ih _ none (Or.inl rfl)]
  exact hfrom none none (Or.inl rfl)

/-- Whether a text goes on with an opening bracket, blanks before it allowed. -/
def OpensBracket (t : Text) : Prop := (trimLeft t).head? = some '('

instance (t : Text) : Decidable (OpensBracket t) := inferInstanceAs (Decidable (_ = _))

/-- A bracket opens at once, or behind a blank. -/
lemma opensBracket_cons {c : Char} (t : Text) :
    OpensBracket (c :: t) ↔ c = '(' ∨ isBlank c = true ∧ OpensBracket t := by
  unfold OpensBracket
  by_cases hc : isBlank c = true
  · have hbracket : c ≠ '(' := by
      rintro rfl
      exact absurd hc (by decide)
    have htrim : trimLeft (c :: t) = trimLeft t :=
      trimLeft_blanks_append (b := [c]) (by simpa [Blanks] using hc) t
    simp [htrim, hc, hbracket]
  · have hc' : isBlank c = false := by simpa using hc
    rw [trimLeft_of_flush (flush_cons hc' t)]
    simp [hc']

/-- No bracket opens before a word ends. -/
lemma Word.not_opensBracket {w : Text} (hw : Word w) (t : Text) : ¬OpensBracket (w ++ t) := by
  obtain ⟨c, v, rfl, hc⟩ := hw.exists_cons
  rw [List.cons_append, opensBracket_cons, isBlank_of_isWordChar hc]
  rintro (rfl | ⟨hblank, -⟩)
  · exact absurd hc (by decide)
  · cases hblank

/-- A bracket stays where it is. -/
lemma KeepsWords.opensBracket_mapPieces (h : KeepsWords f) (before : Option Char) (t : Text) :
    OpensBracket (mapPieces f before (pieces t)) ↔ OpensBracket t := by
  induction wordsIn_true t generalizing before with
  | nil => rfl
  | @mark c t hc _ ih => rw [h.mapPieces_mark before hc, opensBracket_cons, opensBracket_cons, ih]
  | @word w t hw ht _ _ _ =>
      rw [mapPieces_word f before hw ht]
      exact iff_of_false ((h.word before t hw).not_opensBracket _) (hw.not_opensBracket t)

end Text

open Text (Word Cut KeepsWords OpensBracket pieces mapPieces)

namespace Vocabulary

/-! ### The passes of the vocabulary -/

/-- What is no word has no other spelling. -/
lemma spell_of_not_word {names : List (Text × Text)} (hnames : ∀ entry ∈ names, Word entry.1)
    {w : Text} (hw : ¬Word w) : spell names w = w := by
  rcases spell_cases names w with hkeep | ⟨entry, hentry, rfl, -⟩
  · exact hkeep
  · exact absurd (hnames entry hentry) hw

/-- Spelling by a table of words gives words for words. -/
lemma keepsWords_spell {names : List (Text × Text)}
    (hnames : ∀ entry ∈ names, Word entry.1 ∧ Word entry.2) :
    KeepsWords fun _ w _ => spell names w where
  word _ w _ hw := by
    rcases spell_cases names w with hkeep | ⟨entry, hentry, -, hspelling⟩
    · rwa [hkeep]
    · rw [hspelling]
      exact (hnames entry hentry).2
  mark _ _ _ hc :=
    spell_of_not_word (fun entry hentry => (hnames entry hentry).1) (Text.not_word_singleton hc)

/-- Spelling a matrix constructor keeps words. -/
lemma keepsWords_spellMatrix : KeepsWords fun _ => spellMatrix where
  word _ w behind hw := by
    unfold spellMatrix
    split_ifs
    · decide
    · exact hw
  mark _ c behind hc := by
    refine if_neg ?_
    rintro ⟨hname, -⟩
    exact Text.not_word_singleton hc (hname ▸ by decide)

/-- The function names and what they are mapped to are words. -/
lemma word_functionNames : ∀ entry ∈ functionNames, Word entry.1 ∧ Word entry.2 := by decide

/-- The spelling of a word by one table and then by the next. -/
lemma spell_append {names more : List (Text × Text)}
    (h : ∀ entry ∈ names, spell more entry.2 = entry.2) (w : Text) :
    spell (names ++ more) w = spell more (spell names w) := by
  have hfind : Text.entryFor (names ++ more) w =
      (Text.entryFor names w).or (Text.entryFor more w) := List.find?_append
  rcases hentry : Text.entryFor names w with _ | entry
  · have hkeep : spell names w = w := by rw [spell, hentry]
    rw [hkeep, spell, hfind, hentry, Option.none_or, spell]
  · have hspelling : spell names w = entry.2 := by rw [spell, hentry]
    rw [hspelling, h entry (Text.entryFor_eq_some hentry).1, spell, hfind, hentry, Option.some_or]

/-- A pass over the names of a table, after another pass. -/
lemma substitute_wordRule_mapPieces {names : List (Text × Text)}
    (hnames : ∀ entry ∈ names, Word entry.1 ∧ Word entry.2) {f : Option Char → Text → Text → Text}
    (hf : KeepsWords f) (line : Text) :
    Text.substitute (wordRule names) (mapPieces f none (pieces line)) =
      mapPieces (fun before piece behind => spell names (f before piece behind)) none
        (pieces line) :=
  (wordWise_wordRule fun entry hentry => (hnames entry hentry).1).substitute_mapPieces
    (keepsWords_spell hnames) hf (fun _ _ _ => rfl) line

/-- Matrix constructors can be mapped after a translation or with it. -/
lemma mapMatrixConstructors_mapPieces {f : Option Char → Text → Text → Text} (hf : KeepsWords f)
    (line : Text) :
    mapMatrixConstructors (mapPieces f none (pieces line)) =
      mapPieces (fun before piece behind => spellMatrix (f before piece behind) behind) none
        (pieces line) := by
  refine wordWise_matrixRule.substitute_mapPieces keepsWords_spellMatrix hf ?_ line
  intro w before t
  exact if_congr (and_congr_right' (hf.opensBracket_mapPieces before t)) rfl rfl

/-- A pass over the names of a table changes nothing the second time, if no spelling is respelled.
-/
lemma substitute_wordRule_twice {names : List (Text × Text)}
    (hnames : ∀ entry ∈ names, Word entry.1 ∧ Word entry.2)
    (hsettled : ∀ entry ∈ names, spell names entry.2 = entry.2) (line : Text) :
    Text.substitute (wordRule names) (Text.substitute (wordRule names) line) =
      Text.substitute (wordRule names) line := by
  have hspell : ∀ w, spell names (spell names w) = spell names w := by
    intro w
    rcases spell_cases names w with hkeep | ⟨entry, hentry, -, hspelling⟩
    · rw [hkeep, hkeep]
    · rw [hspelling, hsettled entry hentry]
  have honce : Text.substitute (wordRule names) line =
      mapPieces (fun _ piece _ => spell names piece) none (pieces line) :=
    (wordWise_wordRule fun entry hentry => (hnames entry hentry).1).substitute_eq_mapPieces
      (fun before _ behind hc => (keepsWords_spell hnames).mark before behind hc) line
  rw [honce, substitute_wordRule_mapPieces hnames (keepsWords_spell hnames)]
  simp only [hspell]

/-! ### One pass for all -/

/-- The words with another spelling in a stage. -/
def stageNames : Stage → List (Text × Text)
  | .vertex => typeNames
  | .fragment => typeNames ++ functionNames

/-- What stands for a piece of a line in Metal: the matrix helper for the matrix type in front of a
bracket, the spelling of any other name, and the piece itself if it is no name. -/
def translate (stage : Stage) (piece behind : Text) : Text :=
  if piece = "mat3".toList ∧ OpensBracket behind then Metal.matrixHelper
  else spell (stageNames stage) piece

/-- The table of a stage respells neither its own spellings nor the helper, and gives nothing that
would be taken for a matrix constructor. -/
lemma settled_stageNames (stage : Stage) :
    spell (stageNames stage) Metal.matrixHelper = Metal.matrixHelper ∧
      ∀ entry ∈ stageNames stage, spell (stageNames stage) entry.2 = entry.2 ∧
        entry.2 ≠ "mat3".toList := by
  cases stage <;> decide

/-- What is translated has no translation of its own. -/
lemma translate_translate (stage : Stage) (piece behind : Text) :
    translate stage (translate stage piece behind) behind = translate stage piece behind := by
  obtain ⟨hhelper, hnames⟩ := settled_stageNames stage
  by_cases hmatrix : piece = "mat3".toList ∧ OpensBracket behind
  · have hgiven : translate stage piece behind = Metal.matrixHelper := if_pos hmatrix
    rw [hgiven, translate, if_neg fun h => absurd h.1 (by decide), hhelper]
  · have hgiven : translate stage piece behind = spell (stageNames stage) piece := if_neg hmatrix
    rw [hgiven]
    rcases spell_cases (stageNames stage) piece with hkeep | ⟨entry, hentry, -, hspelling⟩
    · rw [hkeep, hgiven, hkeep]
    · obtain ⟨hsettled, hother⟩ := hnames entry hentry
      rw [hspelling, translate, if_neg fun h => hother h.1, hsettled]

/-- A piece is translated by its matrix constructor, its type and, in the fragment stage, its
function. -/
lemma translate_eq (stage : Stage) (piece behind : Text) :
    translate stage piece behind =
      match stage with
      | .vertex => spell typeNames (spellMatrix piece behind)
      | .fragment => spell functionNames (spell typeNames (spellMatrix piece behind)) := by
  have happend : ∀ w, spell (typeNames ++ functionNames) w =
      spell functionNames (spell typeNames w) := spell_append (by decide)
  by_cases hmatrix : piece = "mat3".toList ∧ OpensBracket behind
  · have hgiven : spellMatrix piece behind = Metal.matrixHelper := if_pos hmatrix
    rw [translate, if_pos hmatrix, hgiven]
    cases stage <;> decide
  · have hgiven : spellMatrix piece behind = piece := if_neg hmatrix
    rw [translate, if_neg hmatrix, hgiven]
    cases stage with
    | vertex => rfl
    | fragment => exact happend piece

/-- Translating a piece keeps words. -/
lemma keepsWords_translate (stage : Stage) : KeepsWords fun _ => translate stage := by
  have htypes := (keepsWords_spell word_typeNames).comp keepsWords_spellMatrix
  change KeepsWords fun _ piece behind => translate stage piece behind
  simp only [translate_eq]
  cases stage with
  | vertex => exact htypes
  | fragment => exact (keepsWords_spell word_functionNames).comp htypes

/-- The passes of a stage, after another pass. -/
lemma mapLine_mapPieces (stage : Stage) {f : Option Char → Text → Text → Text} (hf : KeepsWords f)
    (line : Text) :
    mapLine stage (mapPieces f none (pieces line)) =
      mapPieces (fun before piece behind => translate stage (f before piece behind) behind) none
        (pieces line) := by
  have hmatrix := keepsWords_spellMatrix.comp hf
  have htypes : mapTypes (mapMatrixConstructors (mapPieces f none (pieces line))) =
      mapPieces (fun before piece behind =>
        spell typeNames (spellMatrix (f before piece behind) behind)) none (pieces line) := by
    rw [mapMatrixConstructors_mapPieces hf, mapTypes,
      substitute_wordRule_mapPieces word_typeNames hmatrix]
  cases stage with
  | vertex =>
      simp only [translate_eq]
      exact htypes
  | fragment =>
      simp only [translate_eq]
      rw [mapLine, htypes]
      exact substitute_wordRule_mapPieces word_functionNames
        ((keepsWords_spell word_typeNames).comp hmatrix) line

/-- A line is mapped by translating each of its pieces. -/
lemma mapLine_eq (stage : Stage) (line : Text) :
    mapLine stage line = mapPieces (fun _ => translate stage) none (pieces line) := by
  have hline : mapPieces (fun _ piece _ => piece) none (pieces line) = line := by
    rw [Text.mapPieces_id, (Text.cut_pieces line).flatten_eq]
  have hpasses := mapLine_mapPieces stage Text.keepsWords_id line
  rwa [hline] at hpasses

/-- Mapping matrix constructors again changes nothing. -/
lemma mapMatrixConstructors_twice (line : Text) :
    mapMatrixConstructors (mapMatrixConstructors line) = mapMatrixConstructors line := by
  have honce : mapMatrixConstructors line =
      mapPieces (fun _ => spellMatrix) none (pieces line) :=
    wordWise_matrixRule.substitute_eq_mapPieces
      (fun before _ behind hc => keepsWords_spellMatrix.mark before behind hc) line
  have hspell : ∀ piece behind,
      spellMatrix (spellMatrix piece behind) behind = spellMatrix piece behind := by
    intro piece behind
    by_cases hmatrix : piece = "mat3".toList ∧ OpensBracket behind
    · have hgiven : spellMatrix piece behind = Metal.matrixHelper := if_pos hmatrix
      rw [hgiven]
      exact if_neg fun h => absurd h.1 (by decide)
    · have hgiven : spellMatrix piece behind = piece := if_neg hmatrix
      rw [hgiven, hgiven]
  rw [honce, mapMatrixConstructors_mapPieces keepsWords_spellMatrix]
  simp only [hspell]

/-- The passes of a stage are one pass over the pieces of a line, which is cut in one way only: each
piece is translated by itself. So neither the passes nor all of them together change anything the
second time. -/
theorem mapLine_eq_mapPieces (stage : Stage) (line : Text) :
    (∀ cut, Cut line cut ↔ cut = pieces line) ∧
    mapLine stage line = mapPieces (fun _ => translate stage) none (pieces line) ∧
    mapMatrixConstructors (mapMatrixConstructors line) = mapMatrixConstructors line ∧
    mapTypes (mapTypes line) = mapTypes line ∧
    mapFunctions (mapFunctions line) = mapFunctions line ∧
    mapLine stage (mapLine stage line) = mapLine stage line := by
  refine ⟨fun cut => Text.cut_iff, mapLine_eq stage line, mapMatrixConstructors_twice line,
    substitute_wordRule_twice word_typeNames settled_typeNames line,
    substitute_wordRule_twice word_functionNames (by decide) line, ?_⟩
  rw [mapLine_eq stage line, mapLine_mapPieces stage (keepsWords_translate stage)]
  simp only [translate_translate]

/-- The matrix type in front of a bracket, inside another word, and by itself. -/
example : mapLine .fragment "mat3 (mat3x) * dFdx(mat3)" = "sm_to_m3 (mat3x) * dfdx(float3x3)" :=
  rfl

end Vocabulary

end MetalLowering
