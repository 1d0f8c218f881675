import MetalLowering.Proofs.IdentifierStages
import MetalLowering.Proofs.SamplingCalls

/-!
# Indented lines

No pass sees how far a line is indented: every hit starts with a word, and a word behind a blank is
hit as one at the front of a line is (`StartsAtWords.keepsIndent_substitute`). So a line with blanks
in front of it is mapped and lowered to what becomes of the line, behind the same blanks
(`keepsIndent_mapLine`, `Named.keepsIndent_bodyLine`).
-/

namespace MetalLowering

namespace Text

variable {rule : Rule}

/-- A change of lines that leaves blanks at the front where they are, and does not look at them. -/
def KeepsIndent (f : Text → Text) : Prop := ∀ b : Text, Blanks b → ∀ t, f (b ++ t) = b ++ f t

/-- Two changes that keep the indentation keep it one after the other. -/
lemma KeepsIndent.comp {f g : Text → Text} (hg : KeepsIndent g) (hf : KeepsIndent f) :
    KeepsIndent (g ∘ f) := by
  intro b hb t
  rw [Function.comp_apply, hf b hb, hg b hb, Function.comp_apply]

/-- A pass whose hits start with words keeps the indent, if it hits behind a blank as it does at the
front of a line. -/
lemma StartsAtWords.keepsIndent_substitute (h : StartsAtWords rule)
    (hbehind : ∀ {c : Char}, isBlank c = true → ∀ t, rule (some c) t = rule none t) :
    KeepsIndent (substitute rule) := by
  have hfront : ∀ {c : Char}, isBlank c = true → ∀ t,
      substituteFrom rule (some c) 0 t = substituteFrom rule none 0 t := by
    intro c hc t
    cases t with
    | nil => rfl
    | cons d t => simp only [substituteFrom, hbehind hc (d :: t)]
  intro b hb t
  induction b with
  | nil => rfl
  | cons c b ih =>
      have hc : isBlank c = true := hb c List.mem_cons_self
      rw [List.cons_append, substitute,
        h.substituteFrom_mark none (Sampling.isWordChar_of_isBlank hc), hfront hc]
      exact congrArg (c :: ·) (ih hb.tail)

/-- A word can start behind a blank just as it can at the start. -/
lemma isBoundary_blank {c : Char} (h : isBlank c = true) (after : Option Char) :
    isBoundary (some c) after = isBoundary none after := by
  have hc : isWord? (some c) = false := Sampling.isWordChar_of_isBlank h
  rw [isBoundary, hc]
  rfl

/-- Where a name ends does not depend on what stands before it. -/
lemma startsWithWord_congr {name : Text} (h : name ≠ []) (before before' : Option Char)
    (text : Text) : startsWithWord before name text = startsWithWord before' name text := by
  have hlast : lastOr before name = lastOr before' name := by
    rw [lastOr, lastOr, List.getLast?_eq_some_getLast h, Option.some_or, Option.some_or]
  rw [startsWithWord, startsWithWord, hlast]

/-- Which of some words a text starts with does not depend on the character before it. -/
lemma find?_startsWithWord_congr {entries : List (Text × Text)} (h : ∀ e ∈ entries, e.1 ≠ [])
    (before before' : Option Char) (text : Text) :
    (entries.find? fun e => startsWithWord before e.1 text) =
      entries.find? fun e => startsWithWord before' e.1 text :=
  List.find?_congr fun e he => startsWithWord_congr (h e he) before before' text

end Text

open Text (KeepsIndent)

namespace Vocabulary

/-- Exchanging words keeps the indentation. -/
lemma keepsIndent_wordRule {names : List (Text × Text)} (h : ∀ entry ∈ names, Text.Word entry.1) :
    KeepsIndent (Text.substitute (wordRule names)) := by
  refine (wordWise_wordRule h).keepsIndent_substitute fun hc t => ?_
  rw [wordRule, wordRule, Text.isBoundary_blank hc,
    Text.find?_startsWithWord_congr fun entry hentry => (h entry hentry).1]

/-- Mapping matrix constructors keeps the indentation. -/
lemma keepsIndent_mapMatrixConstructors : KeepsIndent mapMatrixConstructors := by
  refine wordWise_matrixRule.keepsIndent_substitute fun hc t => ?_
  unfold matrixRule
  rw [Text.isBoundary_blank hc]

/-- Mapping a line keeps the indentation. -/
lemma keepsIndent_mapLine (stage : Stage) : KeepsIndent (mapLine stage) := by
  have htypes : KeepsIndent mapTypes := keepsIndent_wordRule (by decide)
  have hmapped := htypes.comp keepsIndent_mapMatrixConstructors
  cases stage with
  | vertex => exact hmapped
  | fragment =>
      have hfunctions : KeepsIndent mapFunctions := keepsIndent_wordRule (by decide)
      exact hfunctions.comp hmapped

end Vocabulary

namespace FieldTable

/-- A name can start behind a blank. -/
lemma mayStartAfter_blank {c : Char} (h : Text.isBlank c = true) :
    mayStartAfter (some c) = true := by
  have hpoint : c ≠ '.' := by
    rintro rfl
    exact absurd h (by decide)
  simp [mayStartAfter, Sampling.isWordChar_of_isBlank h, hpoint]

/-- Putting in accesses for names keeps the indentation. -/
lemma keepsIndent_lowerWith {pairs : List (Text × Text)} (h : ∀ pair ∈ pairs, Text.Word pair.1) :
    KeepsIndent (lowerWith pairs) := by
  refine (wordWise_rule h).keepsIndent_substitute fun hc t => ?_
  rw [rule, rule, mayStartAfter_blank hc, Text.find?_startsWithWord_congr
    (fun pair hpair => (h pair (mem_longestFirst.mp hpair)).1) (some _) none]
  rfl

end FieldTable

namespace Sampling

/-- Sampling one texture keeps the indentation. -/
lemma keepsIndent_plainRule (texture : Text) :
    KeepsIndent (Text.substitute (plainRule texture)) := by
  refine (startsAtWords_plainRule texture).keepsIndent_substitute fun hc t => ?_
  rw [plainRule, rule, rule, Text.isBoundary_blank hc]

end Sampling

namespace Lowering

variable {s : Lowering} {pairs : List (Text × Text)}

/-- Sampling all textures keeps the indentation. -/
lemma keepsIndent_samplingPasses (textures : List EntryPoint.BoundTexture) :
    KeepsIndent (samplingPasses textures) := by
  induction textures with
  | nil => exact fun _ _ _ => rfl
  | cons texture textures ih => exact ih.comp (Sampling.keepsIndent_plainRule texture.name)

/-- An indented line of the body is lowered as the line without its indent is. -/
theorem Named.keepsIndent_bodyLine (h : s.Named pairs) : KeepsIndent (s.bodyLine pairs) := by
  have hnames : ∀ pair ∈ pairs, Text.Word pair.1 := fun pair hpair =>
    Text.word_of_isIdentifier (h.name pair hpair)
  exact (keepsIndent_samplingPasses s.textures).comp
    ((FieldTable.keepsIndent_lowerWith hnames).comp (Vocabulary.keepsIndent_mapLine s.stage))

end Lowering

end MetalLowering
