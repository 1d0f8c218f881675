import MetalLowering.EntryPoint
import MetalLowering.Proofs.Identifiers

/-!
# Where a line marks the entry point

`Mark` is the written mark: `void`, a gap, `main`, an opening bracket, `void` or nothing, and a
closing bracket, with blanks between them. A line is marked exactly if it holds a mark that no word
character stands right before (`isMarked_iff`).
-/

namespace MetalLowering.EntryPoint

open Text (Blanks Gap Flush)

/-- A written mark. -/
def Mark (t : Text) : Prop :=
  ∃ b₁ b₂ b₃ b₄ inner : Text, Gap b₁ ∧ Blanks b₂ ∧ Blanks b₃ ∧ Blanks b₄ ∧
    (inner = [] ∨ inner = "void".toList) ∧
    t = "void" ++ (b₁ ++ ("main" ++ (b₂ ++ '(' :: (b₃ ++ (inner ++ (b₄ ++ [')']))))))

/-- A line with a mark in it, which does not go on a word before it. -/
def Marked (line : Text) : Prop :=
  ∃ front mark rest : Text, line = front ++ mark ++ rest ∧ Mark mark ∧
    ∀ c, front.getLast? = some c → Text.isWordChar c = false

/-! ### The end of the mark -/

/-- Behind the bracket: blanks, `void` or nothing, blanks, and the closing bracket. -/
lemma closes_iff (t : Text) :
    (Text.trimLeft ((Text.after? "void" (Text.trimLeft t)).getD (Text.trimLeft t))).head? = some ')' ↔
      ∃ b₃ b₄ inner rest : Text, Blanks b₃ ∧ Blanks b₄ ∧ (inner = [] ∨ inner = "void".toList) ∧
        t = b₃ ++ (inner ++ (b₄ ++ ')' :: rest)) := by
  constructor
  · intro h
    obtain ⟨b₃, hb₃, ht⟩ := Text.exists_trimLeft t
    rcases hvoid : Text.after? "void" (Text.trimLeft t) with _ | u
    · rw [hvoid, Option.getD_none] at h
      obtain ⟨b₄, hb₄, ht'⟩ := Text.exists_trimLeft (Text.trimLeft t)
      obtain ⟨rest, hrest⟩ := List.head?_eq_some_iff.mp h
      refine ⟨b₃, b₄, [], rest, hb₃, hb₄, Or.inl rfl, ?_⟩
      rw [List.nil_append, ← hrest, ← ht', ← ht]
    · rw [hvoid, Option.getD_some] at h
      obtain ⟨b₄, hb₄, ht'⟩ := Text.exists_trimLeft u
      obtain ⟨rest, hrest⟩ := List.head?_eq_some_iff.mp h
      refine ⟨b₃, b₄, "void", rest, hb₃, hb₄, Or.inr rfl, ?_⟩
      rw [← hrest, ← ht', ← Text.after?_eq_some_iff.mp hvoid, ← ht]
  · rintro ⟨b₃, b₄, inner, rest, hb₃, hb₄, rfl | rfl, rfl⟩
    · have hclose : Flush (')' :: rest) := Text.flush_cons (by decide) rest
      rw [Text.trimLeft_blanks_append hb₃, List.nil_append, Text.trimLeft_blanks_append hb₄,
        Text.trimLeft_of_flush hclose]
      simp [Text.after?, Text.trimLeft_of_flush hclose]
    · have hclose : Flush (')' :: rest) := Text.flush_cons (by decide) rest
      have hvoid : Flush ("void".toList ++ (b₄ ++ ')' :: rest)) := Text.flush_cons (by decide) _
      rw [Text.trimLeft_blanks_append hb₃, Text.trimLeft_of_flush hvoid, Text.after?_append,
        Option.getD_some, Text.trimLeft_blanks_append hb₄, Text.trimLeft_of_flush hclose,
        List.head?_cons]

/-! ### The whole mark -/

/-- A text that starts with a mark is found to start with one. -/
lemma startsWithMark_of_mark {mark : Text} (h : Mark mark) (rest : Text) :
    startsWithMark (mark ++ rest) = true := by
  obtain ⟨b₁, b₂, b₃, b₄, inner, hb₁, hb₂, hb₃, hb₄, hinner, rfl⟩ := h
  obtain ⟨c, b, rfl⟩ := List.exists_cons_of_ne_nil hb₁.1
  have hc : Text.isBlank c = true := hb₁.2 c List.mem_cons_self
  have hclose := (closes_iff (b₃ ++ (inner ++ (b₄ ++ ')' :: rest)))).mpr
    ⟨b₃, b₄, inner, rest, hb₃, hb₄, hinner, rfl⟩
  have hopen : Flush ('(' :: (b₃ ++ (inner ++ (b₄ ++ ')' :: rest)))) :=
    Text.flush_cons (by decide) _
  have hmain : Flush ("main".toList ++ (b₂ ++ '(' :: (b₃ ++ (inner ++ (b₄ ++ ')' :: rest))))) :=
    Text.flush_cons (by decide) _
  simp only [startsWithMark, List.append_assoc, List.cons_append, List.nil_append,
    Text.after?_append, hc, Text.trimLeft_blanks_append hb₁.2.tail, Text.trimLeft_of_flush hmain,
    Text.trimLeft_blanks_append hb₂, Text.trimLeft_of_flush hopen, hclose, decide_true]

/-- A text that is found to start with a mark starts with one. -/
lemma mark_of_startsWithMark {t : Text} (h : startsWithMark t = true) :
    ∃ mark rest, t = mark ++ rest ∧ Mark mark := by
  unfold startsWithMark at h
  split at h
  next c u hvoid =>
    split at h
    next w hblank hmain =>
      split at h
      next v hopen =>
        obtain ⟨b₃, b₄, inner, rest, hb₃, hb₄, hinner, rfl⟩ := (closes_iff v).mp (by simpa using h)
        obtain ⟨b₁, hb₁, hu⟩ := Text.exists_trimLeft u
        obtain ⟨b₂, hb₂, hw⟩ := Text.exists_trimLeft w
        refine ⟨"void" ++ ((c :: b₁) ++ ("main" ++ (b₂ ++ '(' :: (b₃ ++ (inner ++ (b₄ ++ [')'])))))),
          rest, ?_, c :: b₁, b₂, b₃, b₄, inner, ⟨by simp, List.forall_mem_cons.mpr ⟨hblank, hb₁⟩⟩,
          hb₂, hb₃, hb₄, hinner, rfl⟩
        rw [Text.after?_eq_some_iff.mp hvoid, hu, Text.after?_eq_some_iff.mp hmain, hw, hopen]
        simp
      next => cases h
    next => cases h
  next => cases h

/-- What is looked for at the start of a text is a mark. -/
lemma startsWithMark_iff {t : Text} :
    startsWithMark t = true ↔ ∃ mark rest, t = mark ++ rest ∧ Mark mark := by
  refine ⟨mark_of_startsWithMark, ?_⟩
  rintro ⟨mark, rest, rfl, hmark⟩
  exact startsWithMark_of_mark hmark rest

/-- A mark starts with a word character, so a boundary before it means that none stands there. -/
lemma isBoundary_mark {mark : Text} (h : Mark mark) (before : Option Char) (rest : Text) :
    Text.isBoundary before (mark ++ rest).head? = true ↔
      ∀ c, before = some c → Text.isWordChar c = false := by
  obtain ⟨b₁, b₂, b₃, b₄, inner, -, -, -, -, -, rfl⟩ := h
  have hv : Text.isWordChar 'v' = true := by decide
  cases before with
  | none => simp [Text.isBoundary, Text.isWord?, hv]
  | some c => simp [Text.isBoundary, Text.isWord?, hv]

/-- No mark is empty. -/
lemma mark_ne_nil {mark : Text} (h : Mark mark) : mark ≠ [] := by
  obtain ⟨b₁, b₂, b₃, b₄, inner, -, -, -, -, -, rfl⟩ := h
  simp

/-- The search, from the character before a position on. -/
lemma isMarkedFrom_iff {before : Option Char} {line : Text} :
    isMarkedFrom before line = true ↔
      ∃ front mark rest : Text, line = front ++ (mark ++ rest) ∧ Mark mark ∧
        ∀ c, Text.lastOr before front = some c → Text.isWordChar c = false := by
  induction line generalizing before with
  | nil =>
      simp only [isMarkedFrom, Bool.false_eq_true, false_iff]
      rintro ⟨front, mark, rest, h, hmark, -⟩
      exact mark_ne_nil hmark (List.append_eq_nil_iff.mp (List.append_eq_nil_iff.mp h.symm).2).1
  | cons c t ih =>
      rw [isMarkedFrom, Bool.or_eq_true, Bool.and_eq_true, ih, startsWithMark_iff]
      constructor
      · rintro (⟨hboundary, mark, rest, ht, hmark⟩ | ⟨front, mark, rest, rfl, hmark, hfront⟩)
        · refine ⟨[], mark, rest, ht, hmark, ?_⟩
          rwa [← List.head?_cons (l := t), ht, isBoundary_mark hmark] at hboundary
        · exact ⟨c :: front, mark, rest, rfl, hmark, by rwa [Text.lastOr_cons]⟩
      · rintro ⟨_ | ⟨d, front⟩, mark, rest, ht, hmark, hfront⟩
        · refine Or.inl ⟨?_, mark, rest, ht, hmark⟩
          rw [← List.head?_cons (l := t), ht]
          exact (isBoundary_mark hmark before rest).mpr hfront
        · obtain ⟨rfl, rfl⟩ := List.cons_eq_cons.mp ht
          exact Or.inr ⟨front, mark, rest, rfl, hmark, by rwa [Text.lastOr_cons] at hfront⟩

/-- A line is found to be marked exactly if a mark stands in it. -/
theorem isMarked_iff {line : Text} : isMarked line = true ↔ Marked line := by
  rw [isMarked, isMarkedFrom_iff]
  simp only [Marked, Text.lastOr, Option.or_none, List.append_assoc]

end MetalLowering.EntryPoint
