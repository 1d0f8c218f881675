import Mathlib.Data.List.Find
import MetalLowering.Proofs.Passes

/-!
# Passes over the words of a line

A line is made of words, the longest runs of word characters in it, and of the marks between them
(`WordsIn`, `wordsIn_true`). The rules for names hit whole words only: what is put in the place of a
word depends on the word, the character before it and the text behind it (`WordWise`). A pass then
goes from word to word (`substituteFrom_word`) and copies the marks (`substituteFrom_mark`).

* A pass leaves a line alone if it leaves each of its words alone (`WordWise.substitute_eq_self`).
* Which words stand in a line after a pass follows from what the pass gives for the words before it
  (`WordWise.wordsIn_substitute`).
* A pass changes nothing the second time if it leaves alone what it gives for a single word
  (`WordWise.substitute_substitute`).

The passes of the vocabulary and of a field table are of this kind (`wordWise_wordRule`,
`wordWise_matrixRule`, `wordWise_rule`).
-/

namespace MetalLowering

namespace Text

/-! ### Words and marks -/

/-- A word: one word character or more, and nothing else. -/
def Word (w : Text) : Prop := w ≠ [] ∧ ∀ c ∈ w, isWordChar c = true

instance (w : Text) : Decidable (Word w) :=
  have : Decidable (∀ c ∈ w, isWordChar c = true) := List.decidableBAll _ w
  instDecidableAnd

/-- A text that does not go on with a word character. -/
def Ends (t : Text) : Prop := ∀ c, t.head? = some c → isWordChar c = false

/-- An identifier is a word. -/
lemma word_of_isIdentifier {t : Text} (h : isIdentifier t = true) : Word t := by
  refine ⟨ne_nil_of_isIdentifier h, ?_⟩
  intro c hc
  exact isWordChar_of_mem_identifier h hc

/-- A word ends at the end of a text. -/
lemma ends_nil : Ends [] := by
  intro c h
  cases h

/-- A word ends before a character that belongs to no word. -/
lemma ends_cons {c : Char} (h : isWordChar c = false) (t : Text) : Ends (c :: t) := by
  intro d hd
  rw [List.head?_cons, Option.some.injEq] at hd
  exact hd ▸ h

/-- A word that ends before each of two texts ends before both together. -/
lemma Ends.append {t u : Text} (ht : Ends t) (hu : Ends u) : Ends (t ++ u) := by
  cases t with
  | nil => exact hu
  | cons c t => exact ends_cons (ht c rfl) (t ++ u)

/-- A word has a first character. -/
lemma Word.exists_cons {w : Text} (h : Word w) : ∃ c v, w = c :: v ∧ isWordChar c = true := by
  obtain ⟨c, v, rfl⟩ := List.exists_cons_of_ne_nil h.1
  exact ⟨c, v, rfl, h.2 c List.mem_cons_self⟩

/-- A word does not end before another one. -/
lemma Word.not_ends_append {w : Text} (h : Word w) (t : Text) : ¬Ends (w ++ t) := by
  obtain ⟨c, v, rfl, hc⟩ := h.exists_cons
  intro hends
  rw [hends c rfl] at hc
  cases hc

/-- A word stands in front of what is no word character in one way only. -/
lemma word_append_inj {v w t u : Text} (hv : ∀ c ∈ v, isWordChar c = true)
    (hw : ∀ c ∈ w, isWordChar c = true) (ht : Ends t) (hu : Ends u) (h : v ++ t = w ++ u) :
    v = w ∧ t = u := by
  induction v generalizing w with
  | nil =>
      cases w with
      | nil => exact ⟨rfl, h⟩
      | cons c w =>
          have hhead : t.head? = some c := congrArg List.head? h
          have hc := hw c List.mem_cons_self
          rw [ht c hhead] at hc
          cases hc
  | cons c v ih =>
      obtain ⟨hc, hv⟩ := List.forall_mem_cons.mp hv
      cases w with
      | nil =>
          have hhead : u.head? = some c := congrArg List.head? h.symm
          rw [hu c hhead] at hc
          cases hc
      | cons d w =>
          obtain ⟨rfl, hrest⟩ := List.cons.inj h
          obtain ⟨rfl, rfl⟩ := ih hv (List.forall_mem_cons.mp hw).2 hrest
          exact ⟨rfl, rfl⟩

/-- A text of words and marks, each of its words being in the class `P`. -/
inductive WordsIn (P : Text → Prop) : Text → Prop
  /-- A text of nothing. -/
  | nil : WordsIn P []
  /-- A mark, and what follows it. -/
  | mark {c : Char} {t : Text} : isWordChar c = false → WordsIn P t → WordsIn P (c :: t)
  /-- A word up to its end, and what follows it. -/
  | word {w t : Text} : Word w → Ends t → P w → WordsIn P t → WordsIn P (w ++ t)

/-- Every text is made of words and marks. -/
theorem wordsIn_true (t : Text) : WordsIn (fun _ => True) t := by
  induction t with
  | nil => exact .nil
  | cons c t ih =>
      by_cases hc : isWordChar c = true
      · have hsingle : Word [c] := ⟨List.cons_ne_nil c [], by simpa using hc⟩
        cases ih with
        | nil => exact .word hsingle ends_nil trivial .nil
        | mark hd ht => exact .word hsingle (ends_cons hd _) trivial (.mark hd ht)
        | word hw ht _ hrest =>
            have hlonger : Word (c :: _) :=
              ⟨List.cons_ne_nil c _, List.forall_mem_cons.mpr ⟨hc, hw.2⟩⟩
            exact .word hlonger ht trivial hrest
      · exact .mark (by simpa using hc) ih

variable {P Q : Text → Prop}

/-- Words of one kind are words of a wider one. -/
lemma WordsIn.imp {t : Text} (ht : WordsIn P t) (h : ∀ w, P w → Q w) : WordsIn Q t := by
  induction ht with
  | nil => exact .nil
  | mark hc _ ih => exact .mark hc ih
  | word hw ht hp _ ih => exact .word hw ht (h _ hp) ih

/-- The words of two texts are theirs, if none goes on from the first into the second. -/
lemma WordsIn.append {t u : Text} (ht : WordsIn P t) (hu : WordsIn P u) (hends : Ends u) :
    WordsIn P (t ++ u) := by
  induction ht with
  | nil => exact hu
  | mark hc _ ih => exact .mark hc ih
  | word hw ht hp _ ih =>
      rw [List.append_assoc]
      exact .word hw (ht.append hends) hp ih

/-- A word is the only one in itself. -/
lemma WordsIn.of_word {w : Text} (hw : Word w) (hp : P w) : WordsIn P w := by
  have h : WordsIn P (w ++ []) := .word hw ends_nil hp .nil
  rwa [List.append_nil] at h

/-! ### Passes from word to word -/

/-- A rule whose hits start with a word. -/
structure StartsAtWords (rule : Rule) : Prop where
  /-- No hit starts at a mark. -/
  mark : ∀ (before : Option Char) {c : Char} (t : Text), isWordChar c = false →
    rule before (c :: t) = none
  /-- No hit starts inside a word. -/
  inside : ∀ {b c : Char} (t : Text), isWordChar b = true → isWordChar c = true →
    rule (some b) (c :: t) = none

/-- A rule that hits whole words: `f before w rest` is what it puts in the place of the word `w`
between the character `before` and the text `rest`. -/
structure WordWise (rule : Rule) (f : Option Char → Text → Text → Text) : Prop extends
    StartsAtWords rule where
  /-- A word is taken as a whole, or left as it is. -/
  word : ∀ {before : Option Char} {w t : Text}, isWord? before = false → Word w → Ends t →
    rule before (w ++ t) = some ⟨w.length, f before w t⟩ ∨
      rule before (w ++ t) = none ∧ f before w t = w

variable {rule : Rule} {f : Option Char → Text → Text → Text}

/-- A substitution that starts at words passes a mark. -/
lemma StartsAtWords.substituteFrom_mark (h : StartsAtWords rule) (before : Option Char) {c : Char}
    (hc : isWordChar c = false) (t : Text) :
    substituteFrom rule before 0 (c :: t) = c :: substituteFrom rule (some c) 0 t := by
  simp only [substituteFrom, h.mark before t hc]

/-- Where no word goes on, it does not matter what stands before. -/
lemma StartsAtWords.substituteFrom_of_ends (h : StartsAtWords rule) {t : Text} (ht : Ends t)
    (before : Option Char) :
    substituteFrom rule before 0 t = substituteFrom rule none 0 t := by
  cases t with
  | nil => rfl
  | cons c t => rw [h.substituteFrom_mark before (ht c rfl), h.substituteFrom_mark none (ht c rfl)]

/-- A substitution that starts at words keeps the first character of a text that starts with no
word. -/
lemma StartsAtWords.head?_substituteFrom (h : StartsAtWords rule) {t : Text} (ht : Ends t)
    (before : Option Char) : (substituteFrom rule before 0 t).head? = t.head? := by
  cases t with
  | nil => rfl
  | cons c t => rw [h.substituteFrom_mark before (ht c rfl), List.head?_cons, List.head?_cons]

/-- A text before which a word ends is still one after a substitution that starts at words. -/
lemma StartsAtWords.ends_substituteFrom (h : StartsAtWords rule) {t : Text} (ht : Ends t)
    (before : Option Char) : Ends (substituteFrom rule before 0 t) := by
  intro c hc
  rw [h.head?_substituteFrom ht] at hc
  exact ht c hc

/-- A word that is to be skipped is skipped. -/
lemma substituteFrom_skip (rule : Rule) (before : Option Char) (w t : Text) :
    substituteFrom rule before w.length (w ++ t) = substituteFrom rule (lastOr before w) 0 t := by
  induction w generalizing before with
  | nil => rfl
  | cons c w ih => rw [List.length_cons, List.cons_append, substituteFrom, ih, lastOr_cons]

/-- A substitution that starts at words passes the rest of a word that has begun. -/
lemma StartsAtWords.substituteFrom_inside (h : StartsAtWords rule) {b : Char}
    (hb : isWordChar b = true) {w : Text} (hw : ∀ c ∈ w, isWordChar c = true) (t : Text) :
    substituteFrom rule (some b) 0 (w ++ t) =
      w ++ substituteFrom rule (lastOr (some b) w) 0 t := by
  induction w generalizing b with
  | nil => rfl
  | cons c w ih =>
      obtain ⟨hc, hw⟩ := List.forall_mem_cons.mp hw
      have hnone : rule (some b) (c :: (w ++ t)) = none := h.inside (w ++ t) hb hc
      rw [List.cons_append, List.cons_append, lastOr_cons, ← ih hc hw]
      simp only [substituteFrom, hnone]

/-- A pass at the front of what it takes, up to the end of a word. -/
lemma StartsAtWords.substituteFrom_hit (h : StartsAtWords rule) {before : Option Char}
    {taken t replacement : Text} (htaken : taken ≠ []) (ht : Ends t)
    (hhit : rule before (taken ++ t) = some ⟨taken.length, replacement⟩) :
    substituteFrom rule before 0 (taken ++ t) = replacement ++ substituteFrom rule none 0 t := by
  obtain ⟨c, v, rfl⟩ := List.exists_cons_of_ne_nil htaken
  rw [← h.substituteFrom_of_ends ht (lastOr (some c) v), ← substituteFrom_skip]
  simp only [List.cons_append, List.length_cons] at hhit ⊢
  simp only [substituteFrom, hhit]

/-- A pass at the front of a word that it leaves alone. -/
lemma StartsAtWords.substituteFrom_miss (h : StartsAtWords rule) {before : Option Char} {w t : Text}
    (hw : Word w) (ht : Ends t) (hnone : rule before (w ++ t) = none) :
    substituteFrom rule before 0 (w ++ t) = w ++ substituteFrom rule none 0 t := by
  obtain ⟨c, v, rfl, hc⟩ := hw.exists_cons
  rw [← h.substituteFrom_of_ends ht (lastOr (some c) v), List.cons_append, List.cons_append,
    ← h.substituteFrom_inside hc (List.forall_mem_cons.mp hw.2).2]
  rw [List.cons_append] at hnone
  simp only [substituteFrom, hnone]

/-- A pass at the front of a word: what it gives for the word, and the pass over the rest. -/
lemma WordWise.substituteFrom_word (h : WordWise rule f) {before : Option Char} {w t : Text}
    (hbefore : isWord? before = false) (hw : Word w) (ht : Ends t) :
    substituteFrom rule before 0 (w ++ t) =
      f before w t ++ substituteFrom rule none 0 t := by
  rcases h.word hbefore hw ht with hhit | ⟨hnone, hf⟩
  · exact h.substituteFrom_hit hw.1 ht hhit
  · rw [hf]
    exact h.substituteFrom_miss hw ht hnone

/-! ### What a pass from word to word does to a line -/

/-- A pass leaves alone what holds only words that it leaves alone. -/
theorem WordWise.substitute_eq_self (h : WordWise rule f) {line : Text}
    (hline : WordsIn (fun w => ∀ before t, f before w t = w) line) :
    substitute rule line = line := by
  have hfrom : ∀ before, isWord? before = false ∨ Ends line →
      substituteFrom rule before 0 line = line := by
    induction hline with
    | nil =>
        intro before _
        rfl
    | mark hc _ ih =>
        intro before _
        rw [h.substituteFrom_mark before hc, ih (some _) (Or.inl hc)]
    | word hw ht hfix _ ih =>
        intro before hbefore
        rw [h.substituteFrom_word (hbefore.resolve_right (hw.not_ends_append _)) hw ht, hfix,
          ih none (Or.inl rfl)]
  exact hfrom none (Or.inl rfl)

/-- The words of a line after a pass are those that the pass gives for the words before it. -/
theorem WordWise.wordsIn_substitute (h : WordWise rule f) {line : Text} (hline : WordsIn P line)
    (hf : ∀ before w t, Word w → P w → WordsIn Q (f before w t)) :
    WordsIn Q (substitute rule line) := by
  have hfrom : ∀ before, isWord? before = false ∨ Ends line →
      WordsIn Q (substituteFrom rule before 0 line) := by
    induction hline with
    | nil =>
        intro before _
        exact .nil
    | mark hc _ ih =>
        intro before _
        rw [h.substituteFrom_mark before hc]
        exact .mark hc (ih (some _) (Or.inl hc))
    | word hw ht hp _ ih =>
        intro before hbefore
        rw [h.substituteFrom_word (hbefore.resolve_right (hw.not_ends_append _)) hw ht]
        exact (hf _ _ _ hw hp).append (ih none (Or.inl rfl)) (h.ends_substituteFrom ht none)
  exact hfrom none (Or.inl rfl)

/-- A pass changes nothing the second time, if it does not see its own changes behind a word and
leaves alone what it gives for a word. -/
theorem WordWise.substitute_substitute (h : WordWise rule f)
    (hbehind : ∀ before w t, Ends t → f before w (substituteFrom rule none 0 t) = f before w t)
    (hgiven : ∀ {before w t}, isWord? before = false → Word w → Ends t →
      substituteFrom rule before 0 (f before w t ++ t) =
        f before w t ++ substituteFrom rule none 0 t) (line : Text) :
    substitute rule (substitute rule line) = substitute rule line := by
  have hfrom : ∀ before, isWord? before = false ∨ Ends line →
      substituteFrom rule before 0 (substituteFrom rule before 0 line) =
        substituteFrom rule before 0 line := by
    induction wordsIn_true line with
    | nil =>
        intro before _
        rfl
    | mark hc _ ih =>
        intro before _
        rw [h.substituteFrom_mark before hc, h.substituteFrom_mark before hc, ih (some _) (Or.inl hc)]
    | word hw ht _ _ ih =>
        intro before hbefore
        have hstart := hbefore.resolve_right (hw.not_ends_append _)
        rw [h.substituteFrom_word hstart hw ht, ← hbehind _ _ _ ht,
          hgiven hstart hw (h.ends_substituteFrom ht none), ih none (Or.inl rfl)]
  exact hfrom none (Or.inl rfl)

/-! ### Names as whole words -/

/-- A word ends before a text exactly if its first character belongs to none. -/
lemma ends_iff {t : Text} : Ends t ↔ isWord? t.head? = false := by
  unfold Ends isWord?
  rcases t.head? with _ | c
  · simp
  · simp

/-- Behind a word the character before is one of a word. -/
lemma Word.isWord?_lastOr {w : Text} (h : Word w) (before : Option Char) :
    isWord? (lastOr before w) = true := by
  have hlast : lastOr before w = some (w.getLast h.1) := by
    rw [lastOr, List.getLast?_eq_some_getLast h.1, Option.some_or]
  rw [hlast]
  exact h.2 _ (List.getLast_mem h.1)

/-- A name is found at the front of a word exactly if it is the word. -/
lemma startsWithWord_word {name w t : Text} (hname : Word name) (hw : Word w) (ht : Ends t)
    (before : Option Char) : startsWithWord before name (w ++ t) = decide (name = w) := by
  rw [Bool.eq_iff_iff, startsWithWord_iff, decide_eq_true_eq]
  constructor
  · rintro ⟨rest, htext, hboundary⟩
    have hrest : Ends rest := by
      rw [isBoundary, hname.isWord?_lastOr] at hboundary
      exact ends_iff.mpr (by simpa using hboundary)
    exact (word_append_inj hw.2 hname.2 ht hrest htext).1.symm
  · rintro rfl
    refine ⟨t, rfl, ?_⟩
    rw [isBoundary, hname.isWord?_lastOr, ends_iff.mp ht]
    rfl

/-- No name is found at a mark. -/
lemma startsWithWord_mark {name : Text} (hname : Word name) {c : Char} (hc : isWordChar c = false)
    (before : Option Char) (t : Text) : startsWithWord before name (c :: t) = false := by
  rw [Bool.eq_false_iff]
  intro hstarts
  obtain ⟨rest, htext, -⟩ := startsWithWord_iff.mp hstarts
  obtain ⟨d, v, rfl, hd⟩ := hname.exists_cons
  obtain ⟨rfl, -⟩ := List.cons.inj htext
  rw [hd] at hc
  cases hc

/-- The entry of a word in a list of names. -/
def entryFor (entries : List (Text × Text)) (w : Text) : Option (Text × Text) :=
  entries.find? fun e => decide (e.1 = w)

/-- What is found for a word is an entry with it. -/
lemma entryFor_eq_some {entries : List (Text × Text)} {w : Text} {e : Text × Text}
    (h : entryFor entries w = some e) : e ∈ entries ∧ e.1 = w :=
  ⟨List.mem_of_find?_eq_some h, by simpa using List.find?_some h⟩

/-- Nothing is found for a word exactly if no entry has it. -/
lemma entryFor_eq_none_iff {entries : List (Text × Text)} {w : Text} :
    entryFor entries w = none ↔ ∀ e ∈ entries, e.1 ≠ w := by
  simp [entryFor]

/-- A search for a name at the front of a word is one for the word itself. -/
lemma find?_startsWithWord {entries : List (Text × Text)} (hnames : ∀ e ∈ entries, Word e.1)
    {w t : Text} (hw : Word w) (ht : Ends t) (before : Option Char) :
    (entries.find? fun e => startsWithWord before e.1 (w ++ t)) = entryFor entries w :=
  List.find?_congr fun e he => startsWithWord_word (hnames e he) hw ht before

/-- No word starts at a mark. -/
lemma find?_startsWithWord_mark {entries : List (Text × Text)} (hnames : ∀ e ∈ entries, Word e.1)
    {c : Char} (hc : isWordChar c = false) (before : Option Char) (t : Text) :
    (entries.find? fun e => startsWithWord before e.1 (c :: t)) = none := by
  rw [List.find?_eq_none]
  intro e he
  rw [startsWithWord_mark (hnames e he) hc]
  exact Bool.false_ne_true

/-- A boundary lies before a word, if none goes on there. -/
lemma isBoundary_word {before : Option Char} (hbefore : isWord? before = false) {w : Text}
    (hw : Word w) (t : Text) : isBoundary before (w ++ t).head? = true := by
  obtain ⟨c, v, rfl, hc⟩ := hw.exists_cons
  have hhead : isWord? ((c :: v) ++ t).head? = true := hc
  rw [isBoundary, hbefore, hhead]
  rfl

/-- Inside a word there is no boundary. -/
lemma isBoundary_inside {b c : Char} (hb : isWordChar b = true) (hc : isWordChar c = true) :
    isBoundary (some b) (some c) = false := by
  have hb : isWord? (some b) = true := hb
  have hc : isWord? (some c) = true := hc
  rw [isBoundary, hb, hc]
  rfl

end Text

open Text (Word Ends WordWise)

namespace Vocabulary

/-- The spelling of a word: that of the table, or its own. -/
def spell (names : List (Text × Text)) (w : Text) : Text :=
  match Text.entryFor names w with
  | some entry => entry.2
  | none => w

/-- The pass over the names of a table spells each word. -/
lemma wordWise_wordRule {names : List (Text × Text)} (hnames : ∀ entry ∈ names, Word entry.1) :
    WordWise (wordRule names) fun _ w _ => spell names w where
  mark before c t hc := by
    rw [wordRule, Text.find?_startsWithWord_mark hnames hc]
    exact ite_self none
  inside t hb hc := by
    rw [wordRule, List.head?_cons, Text.isBoundary_inside hb hc]
    rfl
  word {before w t} hbefore hw ht := by
    rw [wordRule, Text.isBoundary_word hbefore hw, if_pos rfl,
      Text.find?_startsWithWord hnames hw ht]
    unfold spell
    rcases hfind : Text.entryFor names w with _ | entry
    · exact Or.inr ⟨rfl, rfl⟩
    · left
      rw [Option.map_some, (Text.entryFor_eq_some hfind).2]

/-- The matrix type before an opening bracket is spelled as the helper. -/
def spellMatrix (w behind : Text) : Text :=
  if w = "mat3".toList ∧ (Text.trimLeft behind).head? = some '(' then Metal.matrixHelper else w

/-- A bracket behind blanks ends a word. -/
lemma ends_of_bracket {t : Text} (h : (Text.trimLeft t).head? = some '(') : Ends t := by
  obtain ⟨b, hb, ht⟩ := Text.exists_trimLeft t
  cases b with
  | nil =>
      rw [List.nil_append] at ht
      intro c hc
      rw [ht, h, Option.some.injEq] at hc
      subst hc
      decide
  | cons d b =>
      have hd : Text.isWordChar d = false := by
        by_contra hword
        have hblank := hb d List.mem_cons_self
        rw [Text.isBlank_of_isWordChar (by simpa using hword)] at hblank
        cases hblank
      rw [ht]
      exact Text.ends_cons hd _

/-- The pass over matrix constructors goes from word to word. -/
lemma wordWise_matrixRule : WordWise matrixRule fun _ w t => spellMatrix w t where
  mark before c t hc := by
    have hafter : Text.after? "mat3" (c :: t) = none := by
      refine Text.after?_cons_of_ne ?_ _ t
      rintro rfl
      exact absurd hc (by decide)
    rw [matrixRule, hafter]
  inside t hb hc := by
    unfold matrixRule
    split
    · rw [List.head?_cons, Text.isBoundary_inside hb hc]
      rfl
    · rfl
  word {before w t} hbefore hw ht := by
    have hmatrix : Word "mat3" := by decide
    unfold matrixRule spellMatrix
    rw [Text.isBoundary_word hbefore hw]
    by_cases hw3 : w = "mat3".toList
    · subst hw3
      rw [Text.after?_append]
      by_cases hbracket : (Text.trimLeft t).head? = some '('
      · left
        simp only [hbracket, and_self, if_true, decide_true, Bool.and_self]
        rfl
      · right
        refine ⟨?_, if_neg fun h => hbracket h.2⟩
        simp only [hbracket, decide_false, Bool.and_false, Bool.false_eq_true, if_false]
    · right
      refine ⟨?_, if_neg fun h => hw3 h.1⟩
      rcases hafter : Text.after? "mat3" (w ++ t) with _ | rest
      · rfl
      · -- a longer word than the type goes on where the bracket would have to stand
        have htext := Text.after?_eq_some_iff.mp hafter
        have hbracket : (Text.trimLeft rest).head? ≠ some '(' := by
          intro hopen
          have hends := ends_of_bracket hopen
          exact hw3 (Text.word_append_inj hw.2 hmatrix.2 ht hends htext).1
        simp only [hbracket, decide_false, Bool.and_false, Bool.false_eq_true, if_false]

end Vocabulary

namespace FieldTable

variable {pairs : List (Text × Text)}

/-- What a field table gives for a word between its neighbours. -/
def access (pairs : List (Text × Text)) (before : Option Char) (w behind : Text) : Text :=
  if mayStartAfter before then
    match Text.entryFor (longestFirst pairs) w with
    | some pair => if (owners pairs).contains w && behind.head? = some '.' then w else pair.2
    | none => w
  else w

/-- The pass of a field table whose names are words goes from word to word. -/
lemma wordWise_rule (hnames : ∀ pair ∈ pairs, Word pair.1) :
    WordWise (rule (longestFirst pairs) (owners pairs)) (access pairs) := by
  have hnames : ∀ pair ∈ longestFirst pairs, Word pair.1 := by
    intro pair hpair
    exact hnames pair (mem_longestFirst.mp hpair)
  refine ⟨⟨?mark, ?inside⟩, ?word⟩
  case mark =>
    intro before c t hc
    rw [rule, Text.find?_startsWithWord_mark hnames hc]
    exact ite_self none
  case inside =>
    intro b c t hb _
    have hstart : mayStartAfter (some b) = false := by simp [mayStartAfter, hb]
    rw [rule, hstart]
    rfl
  case word =>
    intro before w t _ hw ht
    rw [rule, Text.find?_startsWithWord hnames hw ht]
    unfold access
    by_cases hstart : mayStartAfter before = true
    · rw [if_pos hstart, if_pos hstart]
      rcases hfind : Text.entryFor (longestFirst pairs) w with _ | pair
      · exact Or.inr ⟨rfl, rfl⟩
      · left
        obtain ⟨-, rfl⟩ := Text.entryFor_eq_some hfind
        rw [Option.map_some]
        dsimp only
        rw [List.drop_left]
        split_ifs <;> rfl
    · rw [if_neg hstart, if_neg hstart]
      exact Or.inr ⟨rfl, rfl⟩

end FieldTable

end MetalLowering
