import MetalLowering.Proofs.Texts
import MetalLowering.Text.Word

/-!
# Word characters and identifiers

Blanks, brackets and the other marks between words are no word characters, so an identifier is one
word of its line (`solid_of_isIdentifier`) and holds none of those marks
(`not_mem_of_isIdentifier`).
-/

namespace MetalLowering.Text

/-- The last character of a text is that of its rest, or its first one. -/
lemma lastOr_cons (before : Option Char) (c : Char) (t : Text) :
    lastOr before (c :: t) = lastOr (some c) t := by
  cases h : t.getLast? <;> simp [lastOr, List.getLast?_cons, h]

/-- A word at the front of a text, up to a boundary. -/
lemma startsWithWord_iff {before : Option Char} {name text : Text} :
    startsWithWord before name text = true ↔
      ∃ rest, text = name ++ rest ∧ isBoundary (lastOr before name) rest.head? = true := by
  unfold startsWithWord
  rcases h : after? name text with _ | rest
  · simp only [Bool.false_eq_true, false_iff]
    rintro ⟨rest, rfl, -⟩
    simp at h
  · obtain rfl := after?_eq_some_iff.mp h
    simp

/-- The blanks beyond ASCII. -/
def wideBlanks : List Nat :=
  [0x85, 0xa0, 0x1680, 0x2000, 0x2001, 0x2002, 0x2003, 0x2004, 0x2005, 0x2006, 0x2007, 0x2008,
    0x2009, 0x200a, 0x2028, 0x2029, 0x202f, 0x205f, 0x3000]

/-- A blank outside ASCII is one of the wide ones. -/
lemma mem_wideBlanks {c : Char} (hc : ¬c.toNat < 0x80) (h : isBlank c = true) :
    c.toNat ∈ wideBlanks := by
  simp only [isBlank, hc, if_false, Bool.or_eq_true, Bool.and_eq_true, decide_eq_true_eq] at h
  simp only [wideBlanks, List.mem_cons, List.not_mem_nil, or_false]
  omega

/-- No wide blank belongs to a word. -/
lemma inRanges_wordRanges_of_mem_wideBlanks :
    ∀ n ∈ wideBlanks, inRanges wordRanges n = false := by
  decide +kernel

/-- In ASCII no character of a word is a blank, and every letter belongs to a word. -/
lemma isWordChar_ascii : ∀ n < 0x80,
    (isWordChar (Char.ofNat n) = true → isBlank (Char.ofNat n) = false) ∧
      ((Char.ofNat n).isAlpha = true → isWordChar (Char.ofNat n) = true) := by
  decide +kernel

/-- A word character is no blank. -/
lemma isBlank_of_isWordChar {c : Char} (h : isWordChar c = true) : isBlank c = false := by
  by_cases hc : c.toNat < 0x80
  · have hascii := (isWordChar_ascii c.toNat hc).1
    rw [Char.ofNat_toNat] at hascii
    exact hascii h
  · by_contra hblank
    have hwide := mem_wideBlanks hc (by simpa using hblank)
    have hword : isWordChar c = inRanges wordRanges c.toNat := if_neg hc
    rw [hword, inRanges_wordRanges_of_mem_wideBlanks _ hwide] at h
    cases h

/-- An ASCII letter is a word character. -/
lemma isWordChar_of_isAlpha {c : Char} (h : c.isAlpha = true) : isWordChar c = true := by
  have hle : c.val ≤ 'z'.val := by
    rcases Bool.or_eq_true_iff.mp h with hupper | hlower
    · have hle : c.val ≤ 'Z'.val := (of_decide_eq_true hupper).2
      exact UInt32.le_trans hle (by decide)
    · exact of_decide_eq_true (Bool.and_eq_true_iff.mp hlower).2
  have hc : c.toNat < 0x80 := Nat.lt_of_le_of_lt (UInt32.le_iff_toNat_le.mp hle) (by decide)
  have hascii := (isWordChar_ascii c.toNat hc).2
  rw [Char.ofNat_toNat] at hascii
  exact hascii h

/-- A digit belongs to a word. -/
lemma isWordChar_of_isDigit {c : Char} (h : c.isDigit = true) : isWordChar c = true := by
  have hascii : c.toNat < 0x80 := by
    have hle : c.val ≤ '9'.val := of_decide_eq_true (Bool.and_eq_true_iff.mp h).2
    exact Nat.lt_of_le_of_lt (UInt32.le_iff_toNat_le.mp hle) (by decide)
  rw [isWordChar, if_pos hascii, Char.isAlphanum, h, Bool.or_true, Bool.true_or]

/-- The characters of an identifier belong to a word. -/
lemma isWordChar_of_mem_identifier {t : Text} (h : isIdentifier t = true) {c : Char}
    (hc : c ∈ t) : isWordChar c = true := by
  cases t with
  | nil => simp [isIdentifier] at h
  | cons d t =>
      simp only [isIdentifier, Bool.and_eq_true, Bool.or_eq_true, decide_eq_true_eq,
        List.all_eq_true] at h
      rcases List.mem_cons.mp hc with rfl | hc
      · rcases h.1 with ha | rfl
        · exact isWordChar_of_isAlpha ha
        · decide
      · exact h.2 c hc

/-- No identifier is empty. -/
lemma ne_nil_of_isIdentifier {t : Text} (h : isIdentifier t = true) : t ≠ [] := by
  rintro rfl
  simp [isIdentifier] at h

/-- An identifier is one word of its line. -/
lemma solid_of_isIdentifier {t : Text} (h : isIdentifier t = true) : Solid t := by
  refine ⟨ne_nil_of_isIdentifier h, ?_⟩
  intro c hc
  exact isBlank_of_isWordChar (isWordChar_of_mem_identifier h hc)

/-- No mark between words stands in an identifier. -/
lemma not_mem_of_isIdentifier {t : Text} (h : isIdentifier t = true) {c : Char}
    (hc : isWordChar c = false) : c ∉ t := by
  intro hm
  rw [isWordChar_of_mem_identifier h hm] at hc
  cases hc

end MetalLowering.Text
