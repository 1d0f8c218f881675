import MetalLowering.Lowering
import MetalLowering.Proofs.Checks
import MetalLowering.Proofs.EntryMark

/-!
# A stage run that cannot fail in its lines

Where every body line can be lowered (`Total`), a run is stopped by nothing but the end of a source
without an entry point (`decides_lower`), and its lines are the blocks of the source lines, one
after the other (`lowerLines_cons_lines`). At the entry point a run comes apart: what is kept of the
lines before it, and what is put out from it on (`lowerLines_split`).
-/

namespace MetalLowering.Lowering

/-- Every line of a body can be lowered. -/
def Total (s : Lowering) : Prop := ∀ line, ∃ out, s.lowerBodyLine line = .ok out

/-! ### Which lines are dropped, and which is the entry point -/

/-- A line whose first word does not make it drop out before the entry point. -/
def Kept (line : Text) : Prop := ∀ w, (Text.words line).head? = some w → w ∉ droppedWords

/-- A line is kept exactly if it is not dropped. -/
lemma isDropped_eq_false_iff {line : Text} : isDropped line = false ↔ Kept line := by
  unfold isDropped Kept
  rcases (Text.words line).head? with _ | w
  · simp
  · simp

/-- The line that is taken as the entry point: one that is not dropped, with a mark in it. -/
lemma isEntryPoint_iff {line : Text} :
    isEntryPoint line = true ↔ Kept line ∧ EntryPoint.Marked line := by
  rw [isEntryPoint, Bool.and_eq_true, Bool.not_eq_true', isDropped_eq_false_iff,
    EntryPoint.isMarked_iff]

/-- Before the entry point a line is dropped or mapped. -/
lemma lowerLine_preamble_of_not_entry (s : Lowering) {line : Text}
    (h : isEntryPoint line = false) :
    s.lowerLine .preamble line =
      (⟨if isDropped line then [] else [s.mapLine line], none⟩, .preamble) := by
  by_cases hdrop : isDropped line = true
  · simp [lowerLine, hdrop]
  · have hmark : EntryPoint.isMarked line = false := by simpa [isEntryPoint, hdrop] using h
    simp [lowerLine, hdrop, hmark]

/-- An entry point with its opening brace on the line. -/
lemma lowerLine_entry_of_brace (s : Lowering) {line rest : Text} (h : isEntryPoint line = true)
    (hcut : (Text.cutAt "\x7b" line).2 = some rest) :
    s.lowerLine .preamble line =
      (⟨s.signature ++ (s.openingBlock rest).lines, (s.openingBlock rest).failure⟩, .body) := by
  rw [isEntryPoint, Bool.and_eq_true, Bool.not_eq_true'] at h
  simp only [lowerLine, h.1, h.2, hcut, Bool.false_eq_true, if_false, if_true]
  rfl

/-- An entry point whose opening brace is still to come. -/
lemma lowerLine_entry_of_no_brace (s : Lowering) {line : Text} (h : isEntryPoint line = true)
    (hcut : (Text.cutAt "\x7b" line).2 = none) :
    s.lowerLine .preamble line = (⟨s.signature, none⟩, .awaitingBrace) := by
  rw [isEntryPoint, Bool.and_eq_true, Bool.not_eq_true'] at h
  simp only [lowerLine, h.1, h.2, hcut, Bool.false_eq_true, if_false, if_true]

/-! ### Lines behind the mark -/

/-- While the brace is awaited, a blank line is one of the body. -/
lemma lowerLine_awaiting_of_blank (s : Lowering) {line : Text} (h : Text.trim line = []) :
    s.lowerLine .awaitingBrace line = (s.bodyBlock line, .awaitingBrace) := by
  simp only [lowerLine, h]

/-- While the brace is awaited, a line that starts with it opens the body. -/
lemma lowerLine_awaiting_of_brace (s : Lowering) {line rest : Text}
    (h : Text.trim line = '\x7b' :: rest) :
    s.lowerLine .awaitingBrace line = (s.openingBlock rest, .body) := by
  simp only [lowerLine, h, if_true]

/-- While the brace is awaited, any other line ends the waiting, as a line of the body. -/
lemma lowerLine_awaiting_of_other (s : Lowering) {line rest : Text} {c : Char}
    (h : Text.trim line = c :: rest) (hc : c ≠ '\x7b') :
    s.lowerLine .awaitingBrace line = (s.bodyBlock line, .body) := by
  simp only [lowerLine, h, hc, if_false]

/-- In the body a line stays in it. -/
@[simp] lemma lowerLine_body (s : Lowering) (line : Text) :
    s.lowerLine .body line = (s.bodyBlock line, .body) := rfl

/-! ### Emissions without a failure -/

/-- After an emission that did not fail the next lines follow. -/
lemma append_lines {a : Emission} (h : a.failure = none) (b : Emission) :
    (a.append b).lines = a.lines ++ b.lines := by
  simp [Emission.append, h]

/-- After an emission that did not fail the next one decides. -/
lemma append_failure {a : Emission} (h : a.failure = none) (b : Emission) :
    (a.append b).failure = b.failure := by
  simp [Emission.append, h]

variable {s : Lowering}

/-- A total lowering does not fail on a body line. -/
lemma Total.bodyBlock_failure (h : s.Total) (line : Text) : (s.bodyBlock line).failure = none := by
  obtain ⟨out, hout⟩ := h line
  simp [bodyBlock, Emission.ofLine, hout]

/-- A total lowering does not fail on a statement. -/
lemma Total.statementBlock_failure (h : s.Total) (t : Text) :
    (s.statementBlock t).failure = none := by
  obtain ⟨out, hout⟩ := h t
  unfold statementBlock
  split_ifs
  · rfl
  · rw [hout]
    rfl

/-- A total lowering does not fail behind the opening brace. -/
lemma Total.openingBlock_failure (h : s.Total) (text : Text) :
    (s.openingBlock text).failure = none := by
  unfold openingBlock
  dsimp only
  split_ifs
  · rw [append_failure (h.statementBlock_failure _)]
  · exact h.statementBlock_failure _

/-- A total lowering does not fail on a line anywhere. -/
lemma Total.lowerLine_failure (h : s.Total) (position : Position) (line : Text) :
    (s.lowerLine position line).1.failure = none := by
  cases position with
  | preamble =>
      by_cases hentry : isEntryPoint line = true
      · rcases hcut : (Text.cutAt "\x7b" line).2 with _ | rest
        · rw [lowerLine_entry_of_no_brace s hentry hcut]
        · rw [lowerLine_entry_of_brace s hentry hcut]
          exact h.openingBlock_failure rest
      · rw [lowerLine_preamble_of_not_entry s (by simpa using hentry)]
  | awaitingBrace =>
      rcases htrim : Text.trim line with _ | ⟨c, rest⟩
      · rw [lowerLine_awaiting_of_blank s htrim]
        exact h.bodyBlock_failure line
      · by_cases hc : c = '\x7b'
        · subst hc
          rw [lowerLine_awaiting_of_brace s htrim]
          exact h.openingBlock_failure rest
        · rw [lowerLine_awaiting_of_other s htrim hc]
          exact h.bodyBlock_failure line
  | body => exact h.bodyBlock_failure line

/-- Past the mark, a line never leads back before it. -/
lemma lowerLine_position (s : Lowering) {position : Position} (h : position ≠ .preamble)
    (line : Text) : (s.lowerLine position line).2 ≠ .preamble := by
  cases position with
  | preamble => exact absurd rfl h
  | awaitingBrace =>
      rcases htrim : Text.trim line with _ | ⟨c, rest⟩ <;> simp [lowerLine, htrim]
  | body => simp

/-- The preamble ends with the entry point. -/
lemma lowerLine_entry_position (s : Lowering) {line : Text} (h : isEntryPoint line = true) :
    (s.lowerLine .preamble line).2 ≠ .preamble := by
  rcases hcut : (Text.cutAt "\x7b" line).2 with _ | rest
  · simp [lowerLine_entry_of_no_brace s h hcut]
  · simp [lowerLine_entry_of_brace s h hcut]

/-! ### Whole runs -/

/-- One step of a run: the block of the first line, then the run of the others. -/
lemma Total.lowerLines_cons_lines (h : s.Total) (position : Position) (line : Text)
    (rest : List Text) :
    (s.lowerLines position (line :: rest)).lines =
      (s.lowerLine position line).1.lines ++
        (s.lowerLines (s.lowerLine position line).2 rest).lines := by
  rw [lowerLines]
  exact append_lines (h.lowerLine_failure position line) _

/-- In a total lowering the first line does not fail, so the rest decides. -/
lemma Total.lowerLines_cons_failure (h : s.Total) (position : Position) (line : Text)
    (rest : List Text) :
    (s.lowerLines position (line :: rest)).failure =
      (s.lowerLines (s.lowerLine position line).2 rest).failure := by
  rw [lowerLines]
  exact append_failure (h.lowerLine_failure position line) _

/-- Past the mark, a run is not stopped. -/
lemma Total.lowerLines_failure (h : s.Total) {position : Position} (hposition : position ≠ .preamble)
    (lines : List Text) : (s.lowerLines position lines).failure = none := by
  induction lines generalizing position with
  | nil =>
      cases position with
      | preamble => exact absurd rfl hposition
      | awaitingBrace => rfl
      | body => rfl
  | cons line rest ih =>
      rw [h.lowerLines_cons_failure]
      exact ih (lowerLine_position s hposition line)

/-- Before the entry point, a run keeps the lines that are not dropped, with their words mapped. -/
lemma Total.lowerLines_preamble (h : s.Total) {before : List Text}
    (hbefore : ∀ line ∈ before, isEntryPoint line = false) (rest : List Text) :
    (s.lowerLines .preamble (before ++ rest)).lines =
        (before.filter (!isDropped ·)).map s.mapLine ++ (s.lowerLines .preamble rest).lines ∧
      (s.lowerLines .preamble (before ++ rest)).failure =
        (s.lowerLines .preamble rest).failure := by
  induction before with
  | nil => simp
  | cons line before ih =>
      obtain ⟨hline, hbefore⟩ := List.forall_mem_cons.mp hbefore
      obtain ⟨hlines, hfailure⟩ := ih hbefore
      rw [List.cons_append, h.lowerLines_cons_lines, h.lowerLines_cons_failure,
        lowerLine_preamble_of_not_entry s hline, hlines, hfailure]
      by_cases hdrop : isDropped line = true <;> simp [hdrop]

/-- A source either has a first entry point, or none. -/
lemma exists_entry_or_none (lines : List Text) :
    (∃ before entry after, lines = before ++ entry :: after ∧
        (∀ line ∈ before, isEntryPoint line = false) ∧ isEntryPoint entry = true) ∨
      ∀ line ∈ lines, isEntryPoint line = false := by
  induction lines with
  | nil => simp
  | cons line rest ih =>
      by_cases hline : isEntryPoint line = true
      · exact Or.inl ⟨[], line, rest, rfl, by simp, hline⟩
      · have hline' : isEntryPoint line = false := by simpa using hline
        rcases ih with ⟨before, entry, after, rfl, hbefore, hentry⟩ | hnone
        · exact Or.inl ⟨line :: before, entry, after, rfl,
            List.forall_mem_cons.mpr ⟨hline', hbefore⟩, hentry⟩
        · exact Or.inr (List.forall_mem_cons.mpr ⟨hline', hnone⟩)

/-- At the entry point a run comes apart: the lines before it, its own block, and the rest. -/
theorem Total.lowerLines_split (h : s.Total) {before after : List Text} {entry : Text}
    (hbefore : ∀ line ∈ before, isEntryPoint line = false) (hentry : isEntryPoint entry = true) :
    s.lowerLines .preamble (before ++ entry :: after) =
      ⟨(before.filter (!isDropped ·)).map s.mapLine ++ (s.lowerLine .preamble entry).1.lines ++
        (s.lowerLines (s.lowerLine .preamble entry).2 after).lines, none⟩ := by
  obtain ⟨hlines, hfailure⟩ := h.lowerLines_preamble hbefore (entry :: after)
  rw [h.lowerLines_cons_lines, ← List.append_assoc] at hlines
  rw [h.lowerLines_cons_failure, h.lowerLines_failure (lowerLine_entry_position s hentry)] at hfailure
  rw [← hlines, ← hfailure]

/-- A run fails only for want of an entry point. -/
theorem Total.decides_lower (h : s.Total) (source : Text) :
    Decides (s.lower source).result (∃ line ∈ Text.lines source, isEntryPoint line = true)
      fun e => (¬∃ line ∈ Text.lines source, isEntryPoint line = true) ∧
        e = .shader (.missingEntryPoint s.stage) := by
  unfold lower
  rcases exists_entry_or_none (Text.lines source) with
    ⟨before, entry, after, hsource, hbefore, hentry⟩ | hnone
  · have hexists : ∃ line ∈ Text.lines source, isEntryPoint line = true :=
      ⟨entry, by simp [hsource], hentry⟩
    rw [hsource, h.lowerLines_split hbefore hentry, ← hsource]
    exact (Decides.of_ok rfl).congr (iff_of_true trivial hexists) fun e =>
      iff_of_false id fun hfault => hfault.1 hexists
  · have hfailure := (h.lowerLines_preamble hnone []).2
    rw [List.append_nil] at hfailure
    have hnot : ¬∃ line ∈ Text.lines source, isEntryPoint line = true := by
      rintro ⟨line, hline, hentry⟩
      rw [hnone line hline] at hentry
      cases hentry
    have hresult : (s.lowerLines .preamble (Text.lines source)).result =
        .error (.shader (.missingEntryPoint s.stage)) := by
      simp [Emission.result, hfailure, lowerLines]
    rw [hresult]
    refine ⟨iff_of_false (by simp) hnot, fun e => ?_⟩
    rw [Except.error.injEq, and_iff_right hnot, eq_comm]

/-- The lines before the entry point. -/
def preamble (source : Text) : List Text := (Text.lines source).takeWhile (!isEntryPoint ·)

/-- A source that is lowered comes apart at its entry point. -/
lemma Total.exists_entry (h : s.Total) {source : Text} {lines : List Text}
    (hrun : (s.lower source).result = .ok lines) :
    ∃ entry after, Text.lines source = preamble source ++ entry :: after ∧
      isEntryPoint entry = true ∧
      lines = ((preamble source).filter (!isDropped ·)).map s.mapLine ++
        ((s.lowerLine .preamble entry).1.lines ++
          (s.lowerLines (s.lowerLine .preamble entry).2 after).lines) := by
  rcases exists_entry_or_none (Text.lines source) with
    ⟨before, entry, after, hsource, hbefore, hentry⟩ | hnone
  · have hpreamble : preamble source = before := by
      have hskip : ∀ line ∈ before, (!isEntryPoint line) = true := by
        intro line hline
        rw [hbefore line hline]
        rfl
      rw [preamble, hsource, List.takeWhile_append_of_pos hskip]
      simp [hentry]
    refine ⟨entry, after, hpreamble ▸ hsource, hentry, ?_⟩
    rw [lower, hsource, h.lowerLines_split hbefore hentry] at hrun
    rw [hpreamble, ← List.append_assoc]
    exact (Except.ok.inj hrun).symm
  · obtain ⟨line, hline, hentry⟩ := (h.decides_lower source).ok_iff.mp ⟨lines, hrun⟩
    rw [hnone line hline] at hentry
    cases hentry

end MetalLowering.Lowering
