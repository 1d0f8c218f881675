import Mathlib.Data.List.TakeWhile
import Mathlib.Tactic.Common
import MetalLowering.Text.Blank

/-!
# Cuts, blanks and words of a text

What the scanners of lines rest on, said about the text itself and not about the scan:

* a cut at a separator gives back the text (`cutAt_eq`), and the part before the cut is free of a
  separator that is a single character (`not_mem_cutAt_fst`);
* trimming takes blanks off both ends and nothing else (`exists_trim`, `trim_of_ends`);
* the words of a text are read off its front: blanks, then a word, then a blank or the end
  (`words_eq_cons_iff`), and a text of blanks only has none (`words_eq_nil_iff`).
-/

namespace MetalLowering.Text

/-! ### Cuts at a separator -/

/-- Behind the start of a text the rest stands. -/
@[simp] lemma after?_append (start rest : Text) : after? start (start ++ rest) = some rest :=
  after?_eq_some_iff.mpr rfl

/-- A text does not start with another character than its first one. -/
lemma after?_cons_of_ne {a c : Char} (h : a ≠ c) (start text : Text) :
    after? (a :: start) (c :: text) = none := by
  simp [after?, h]

/-- The two parts of a cut append to the text, with the separator between them if it occurs. -/
lemma cutAt_eq (separator t : Text) :
    t = (cutAt separator t).1 ++
      match (cutAt separator t).2 with
      | some rest => separator ++ rest
      | none => [] := by
  induction t with
  | nil =>
      unfold cutAt
      split_ifs with h <;> simp [h]
  | cons c t ih =>
      unfold cutAt
      rcases h : after? separator (c :: t) with _ | rest
      · simpa using ih
      · simpa using after?_eq_some_iff.mp h

/-- A text without the first character of a separator is not cut. -/
lemma cutAt_of_not_mem {a : Char} {t : Text} (h : a ∉ t) (separator : Text) :
    cutAt (a :: separator) t = (t, none) := by
  induction t with
  | nil => simp [cutAt]
  | cons c t ih =>
      obtain ⟨hc, ht⟩ := not_or.mp (mt List.mem_cons.mpr h)
      simp [cutAt, after?_cons_of_ne hc, ih ht]

/-- A cut is made at the first place where the separator can start. -/
lemma cutAt_append {a : Char} {t : Text} (h : a ∉ t) (separator rest : Text) :
    cutAt (a :: separator) (t ++ a :: (separator ++ rest)) = (t, some rest) := by
  induction t with
  | nil => simp [cutAt, after?]
  | cons c t ih =>
      obtain ⟨hc, ht⟩ := not_or.mp (mt List.mem_cons.mpr h)
      simp [cutAt, after?_cons_of_ne hc, ih ht]

/-- The part before a cut does not hold the separator. -/
lemma not_mem_cutAt_fst (a : Char) (t : Text) : a ∉ (cutAt [a] t).1 := by
  induction t with
  | nil => simp [cutAt]
  | cons c t ih =>
      by_cases h : a = c
      · subst h
        simp [cutAt, after?]
      · simpa [cutAt, after?_cons_of_ne h, h] using ih

/-! ### Blanks at the ends -/

/-- A text of blanks only. -/
def Blanks (t : Text) : Prop := ∀ c ∈ t, isBlank c = true

instance (t : Text) : Decidable (Blanks t) := List.decidableBAll _ t

/-- A text that does not start with a blank; it may be empty. -/
def Flush (t : Text) : Prop := ∀ c, t.head? = some c → isBlank c = false

/-- Blanks are blanks from behind. -/
lemma Blanks.reverse {t : Text} (h : Blanks t) : Blanks t.reverse := by
  intro c hc
  exact h c (List.mem_reverse.mp hc)

/-- Blanks without the first one are blanks. -/
lemma Blanks.tail {c : Char} {t : Text} (h : Blanks (c :: t)) : Blanks t := by
  intro d hd
  exact h d (List.mem_cons_of_mem c hd)

/-- Among blanks there is nothing else. -/
lemma Blanks.not_mem {t : Text} (h : Blanks t) {c : Char} (hc : isBlank c = false) : c ∉ t := by
  intro hm
  rw [h c hm] at hc
  cases hc

/-- A text that starts with no blank is flush. -/
lemma flush_cons {c : Char} (h : isBlank c = false) (t : Text) : Flush (c :: t) := by
  intro d hd
  obtain rfl : c = d := by simpa using hd
  exact h

/-- A flush text has no blanks to trim. -/
lemma trimLeft_of_flush {t : Text} (h : Flush t) : trimLeft t = t := by
  cases t with
  | nil => rfl
  | cons c t => simp [trimLeft, h c rfl]

/-- Blanks in front of a text are trimmed with its own. -/
lemma trimLeft_blanks_append {b : Text} (hb : Blanks b) (t : Text) :
    trimLeft (b ++ t) = trimLeft t :=
  List.dropWhile_append_of_pos hb

/-- A trimmed text is flush. -/
lemma flush_trimLeft (t : Text) : Flush (trimLeft t) := by
  intro c hc
  have h := List.head?_dropWhile_not isBlank t
  rw [trimLeft] at hc
  rwa [hc] at h

/-- A text is some blanks and the trimmed text. -/
lemma exists_trimLeft (t : Text) : ∃ b, Blanks b ∧ t = b ++ trimLeft t :=
  ⟨t.takeWhile isBlank, fun _ hc => List.mem_takeWhile_imp hc,
    List.takeWhile_append_dropWhile.symm⟩

/-- Trimming at the end is trimming at the start from behind. -/
lemma trimRight_eq (t : Text) : trimRight t = (trimLeft t.reverse).reverse := rfl

/-- A text is the text trimmed at the end and some blanks. -/
lemma exists_trimRight (t : Text) : ∃ b, Blanks b ∧ t = trimRight t ++ b := by
  obtain ⟨b, hb, h⟩ := exists_trimLeft t.reverse
  refine ⟨b.reverse, hb.reverse, ?_⟩
  rw [trimRight_eq, ← List.reverse_append, ← h, List.reverse_reverse]

/-- Trimming takes blanks off both ends and nothing else. -/
lemma exists_trim (t : Text) : ∃ b b', Blanks b ∧ Blanks b' ∧ t = b ++ trim t ++ b' := by
  obtain ⟨b, hb, h⟩ := exists_trimLeft t
  obtain ⟨b', hb', h'⟩ := exists_trimRight (trimLeft t)
  refine ⟨b, b', hb, hb', ?_⟩
  rw [List.append_assoc, trim, ← h', ← h]

/-- A text without blanks at its ends is what trimming leaves of it between blanks. -/
lemma trim_of_ends {b t b' : Text} (hb : Blanks b) (hb' : Blanks b') (hne : t ≠ [])
    (ht : Flush t) (ht' : Flush t.reverse) : trim (b ++ t ++ b') = t := by
  have hflush : Flush (t ++ b') := by
    obtain ⟨c, u, rfl⟩ := List.exists_cons_of_ne_nil hne
    exact flush_cons (ht c rfl) (u ++ b')
  rw [trim, List.append_assoc, trimLeft_blanks_append hb, trimLeft_of_flush hflush, trimRight_eq,
    List.reverse_append, trimLeft_blanks_append hb'.reverse, trimLeft_of_flush ht',
    List.reverse_reverse]

/-! ### Words -/

/-- A word: it is not empty and holds no blank. -/
def Solid (w : Text) : Prop := w ≠ [] ∧ ∀ c ∈ w, isBlank c = false

instance (w : Text) : Decidable (Solid w) :=
  have : Decidable (∀ c ∈ w, isBlank c = false) := List.decidableBAll _ w
  instDecidableAnd

/-- A text that a word can stand in front of: it is empty or starts with a blank. -/
def Apart (t : Text) : Prop := ∀ c, t.head? = some c → isBlank c = true

/-- The empty text has no words. -/
@[simp] lemma words_nil : words [] = [] := rfl

/-- A blank in front adds no word. -/
lemma words_cons_of_blank {c : Char} (h : isBlank c = true) (t : Text) :
    words (c :: t) = words t := by
  simp [words, blankParts, h]

/-- Blanks in front add no words. -/
lemma words_blanks_append {b : Text} (hb : Blanks b) (t : Text) : words (b ++ t) = words t := by
  induction b with
  | nil => rfl
  | cons c b ih =>
      rw [List.cons_append, words_cons_of_blank (hb c List.mem_cons_self), ih hb.tail]

/-- Blanks have no words. -/
lemma words_of_blanks {b : Text} (hb : Blanks b) : words b = [] := by
  simpa using words_blanks_append hb []

/-- The first part is cut off at the first blank. -/
lemma blankParts_append {w : Text} (hw : ∀ c ∈ w, isBlank c = false) {t : Text} (ht : Apart t) :
    blankParts (w ++ t) = w :: (blankParts t).tail := by
  induction w with
  | nil =>
      cases t with
      | nil => rfl
      | cons c t => simp [blankParts, ht c rfl]
  | cons c w ih =>
      have hc : isBlank c = false := hw c List.mem_cons_self
      rw [List.cons_append, blankParts, if_neg (by simp [hc]),
        ih fun d hd => hw d (List.mem_cons_of_mem c hd)]

/-- The words of a text that starts apart are its parts behind the first blank. -/
lemma words_eq_filter_tail {t : Text} (ht : Apart t) :
    words t = (blankParts t).tail.filter (!·.isEmpty) := by
  have h := blankParts_append (w := []) (by simp) ht
  simp only [List.nil_append] at h
  rw [words, h]
  simp

/-- A word at the front of a text is its first word, if a blank or the end follows it. -/
lemma words_solid_append {w : Text} (hw : Solid w) {t : Text} (ht : Apart t) :
    words (w ++ t) = w :: words t := by
  rw [words, blankParts_append hw.2 ht, words_eq_filter_tail ht]
  simp [hw.1]

/-- Every text is blanks only, or blanks, a word, and a rest that stands apart from it. -/
lemma blanks_or_solid (t : Text) :
    Blanks t ∨ ∃ b w rest, Blanks b ∧ Solid w ∧ Apart rest ∧ t = b ++ w ++ rest := by
  obtain ⟨b, hb, h⟩ := exists_trimLeft t
  have hflush := flush_trimLeft t
  rcases hu : trimLeft t with _ | ⟨c, u⟩
  · left
    rw [hu, List.append_nil] at h
    exact h ▸ hb
  · right
    rw [hu] at h hflush
    have hc : isBlank c = false := hflush c rfl
    refine ⟨b, c :: u.takeWhile (!isBlank ·), u.dropWhile (!isBlank ·), hb, ⟨by simp, ?_⟩, ?_, ?_⟩
    · intro d hd
      rcases List.mem_cons.mp hd with rfl | hd
      · exact hc
      · simpa using List.mem_takeWhile_imp hd
    · intro d hd
      have h := List.head?_dropWhile_not (!isBlank ·) u
      rw [hd] at h
      simpa using h
    · rw [h, List.append_assoc, List.cons_append, List.takeWhile_append_dropWhile]

/-- A text without words is blanks only. -/
lemma words_eq_nil_iff {t : Text} : words t = [] ↔ Blanks t := by
  refine ⟨fun h => ?_, words_of_blanks⟩
  rcases blanks_or_solid t with ht | ⟨b, w, rest, hb, hw, hrest, rfl⟩
  · exact ht
  · rw [List.append_assoc, words_blanks_append hb, words_solid_append hw hrest] at h
    cases h

/-- The first word of a text stands behind blanks, and a blank or the end behind it. -/
lemma words_eq_cons_iff {t w : Text} {ws : List Text} :
    words t = w :: ws ↔
      ∃ b rest, Blanks b ∧ Solid w ∧ Apart rest ∧ t = b ++ w ++ rest ∧ words rest = ws := by
  constructor
  · intro h
    rcases blanks_or_solid t with ht | ⟨b, u, rest, hb, hu, hrest, rfl⟩
    · rw [words_of_blanks ht] at h
      cases h
    · rw [List.append_assoc, words_blanks_append hb, words_solid_append hu hrest] at h
      obtain ⟨rfl, hws⟩ := List.cons_eq_cons.mp h
      exact ⟨b, rest, hb, hu, hrest, rfl, hws⟩
  · rintro ⟨b, rest, hb, hw, hrest, rfl, rfl⟩
    rw [List.append_assoc, words_blanks_append hb, words_solid_append hw hrest]

/-- What stands between two words: at least one blank, and blanks only. -/
def Gap (b : Text) : Prop := b ≠ [] ∧ Blanks b

/-- Blanks start apart. -/
lemma Blanks.apart {b : Text} (hb : Blanks b) : Apart b := by
  intro c hc
  exact hb c (List.mem_of_mem_head? hc)

/-- A text behind a gap starts apart. -/
lemma Gap.apart_append {b : Text} (hb : Gap b) (t : Text) : Apart (b ++ t) := by
  obtain ⟨c, u, rfl⟩ := List.exists_cons_of_ne_nil hb.1
  intro d hd
  obtain rfl : c = d := by simpa using hd
  exact hb.2 c List.mem_cons_self

/-- Blanks before a word that stands apart from what is before them are a gap. -/
lemma gap_of_apart {b w rest : Text} (hb : Blanks b) (hw : Solid w) (h : Apart (b ++ w ++ rest)) :
    Gap b := by
  refine ⟨?_, hb⟩
  rintro rfl
  obtain ⟨c, u, rfl⟩ := List.exists_cons_of_ne_nil hw.1
  have hblank := h c rfl
  rw [hw.2 c List.mem_cons_self] at hblank
  cases hblank

/-- A text of three words: gaps between them, and blanks at both ends. -/
lemma words_eq_three_iff {t u v w : Text} :
    words t = [u, v, w] ↔ Solid u ∧ Solid v ∧ Solid w ∧ ∃ b₀ b₁ b₂ b₃, Blanks b₀ ∧ Gap b₁ ∧ Gap b₂ ∧
      Blanks b₃ ∧ t = b₀ ++ u ++ (b₁ ++ v ++ (b₂ ++ w ++ b₃)) := by
  constructor
  · intro h
    obtain ⟨b₀, r₁, hb₀, hu, hr₁, rfl, h₁⟩ := words_eq_cons_iff.mp h
    obtain ⟨b₁, r₂, hb₁, hv, hr₂, rfl, h₂⟩ := words_eq_cons_iff.mp h₁
    obtain ⟨b₂, r₃, hb₂, hw, -, rfl, h₃⟩ := words_eq_cons_iff.mp h₂
    exact ⟨hu, hv, hw, b₀, b₁, b₂, r₃, hb₀, gap_of_apart hb₁ hv hr₁, gap_of_apart hb₂ hw hr₂,
      words_eq_nil_iff.mp h₃, rfl⟩
  · rintro ⟨hu, hv, hw, b₀, b₁, b₂, b₃, hb₀, hb₁, hb₂, hb₃, rfl⟩
    refine words_eq_cons_iff.mpr ⟨b₀, _, hb₀, hu, ?_, rfl, ?_⟩
    · rw [List.append_assoc b₁]
      exact hb₁.apart_append _
    · refine words_eq_cons_iff.mpr ⟨b₁, _, hb₁.2, hv, ?_, rfl, ?_⟩
      · rw [List.append_assoc b₂]
        exact hb₂.apart_append _
      · exact words_eq_cons_iff.mpr
          ⟨b₂, b₃, hb₂.2, hw, hb₃.apart, rfl, words_of_blanks hb₃⟩

end MetalLowering.Text
