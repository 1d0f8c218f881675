import Mathlib.Data.List.Forall2
import MetalLowering.Proofs.BraceBalance
import MetalLowering.Proofs.ReturnLines

/-!
# The blocks of a lowered stage

Nothing of a source is lost, doubled or put elsewhere when it is lowered. Main statement: the lines
that are put out are those kept before the entry point, the signature, and one block for each line
from the entry point on, in the order of the source (`lower_blocks`).

`Blocks` says what these blocks are. The body is opened on the line of the entry point, or on the
first line below it that is not blank, or the run misses the brace; the text behind the brace has a
block of its own kind (`OpeningLines`), and every other line is lowered by itself (`BodyLines`). A
later mark or declaration is such a line.
-/

namespace MetalLowering.Lowering

variable {s : Lowering} {pairs : List (Text × Text)}

/-! ### What a line gives -/

/-- The block of a line behind the opening brace. -/
inductive BodyLines (s : Lowering) (line : Text) : List Text → Prop
  /-- The line is lowered. -/
  | plain {lowered : Text} (hhead : line.head? ≠ some '\x7d')
      (hlowered : s.lowerBodyLine line = .ok lowered) : BodyLines s line [lowered]
  /-- A line that starts with a closing brace has a return before it. -/
  | closing {lowered : Text} (hhead : line.head? = some '\x7d')
      (hlowered : s.lowerBodyLine line = .ok lowered) : BodyLines s line [s.returnLine, lowered]

/-- The block of a statement on the line of the opening brace. -/
inductive StatementLines (s : Lowering) (t : Text) : List Text → Prop
  /-- There is no statement. -/
  | none (hnil : t = []) : StatementLines s t []
  /-- The statement is lowered and indented. -/
  | some {lowered : Text} (hne : t ≠ []) (hlowered : s.lowerBodyLine t = .ok lowered) :
      StatementLines s t ["    " ++ lowered]

/-- The block of the text behind the opening brace. -/
inductive OpeningLines (s : Lowering) (text : Text) : List Text → Prop
  /-- The entry point goes on behind the line. -/
  | unclosed {block : List Text}
      (hcount : (Text.trim text).count '\x7d' ≤ (Text.trim text).count '\x7b')
      (hblock : StatementLines s (Text.trim text) block) : OpeningLines s text block
  /-- The last closing brace of the line ends the entry point. -/
  | closed {inner tail : Text} {block : List Text}
      (hcount : (Text.trim text).count '\x7b' < (Text.trim text).count '\x7d')
      (htext : Text.trim text = inner ++ '\x7d' :: tail) (htail : '\x7d' ∉ tail)
      (hblock : StatementLines s (Text.trimRight inner) block) :
      OpeningLines s text (block ++ [s.returnLine, '\x7d' :: tail])

/-- The blocks of the lines from the entry point on, one for each line. -/
inductive Blocks (s : Lowering) : List Text → List (List Text) → Prop
  /-- The body is opened on the line of the entry point. -/
  | onMark {front text : Text} {after opening : List Text} {blocks : List (List Text)}
      (hfront : '\x7b' ∉ front) (hopening : OpeningLines s text opening)
      (hafter : List.Forall₂ (BodyLines s) after blocks) :
      Blocks s ((front ++ '\x7b' :: text) :: after) (opening :: blocks)
  /-- The body is opened on the first line below that is not blank. -/
  | below {entry line text : Text} {blank after opening : List Text}
      {blankBlocks blocks : List (List Text)} (hentry : '\x7b' ∉ entry)
      (hblank : ∀ line ∈ blank, Text.trim line = []) (hline : Text.trim line = '\x7b' :: text)
      (hblanks : List.Forall₂ (BodyLines s) blank blankBlocks)
      (hopening : OpeningLines s text opening)
      (hafter : List.Forall₂ (BodyLines s) after blocks) :
      Blocks s (entry :: (blank ++ line :: after)) ([] :: (blankBlocks ++ opening :: blocks))
  /-- No brace is found, and the lines below are lowered as they are. -/
  | missed {entry : Text} {after : List Text} {blocks : List (List Text)} (hentry : '\x7b' ∉ entry)
      (hnone : opensNext after = false) (hafter : List.Forall₂ (BodyLines s) after blocks) :
      Blocks s (entry :: after) ([] :: blocks)

/-! ### At most three lines a block, and one block a line -/

/-- A body line becomes at most three lines. -/
lemma BodyLines.length_le {line : Text} {block : List Text} (h : BodyLines s line block) :
    block.length ≤ 3 := by
  cases h with
  | plain => exact Nat.le_add_left 1 2
  | closing => exact Nat.le_add_left 2 1

/-- The text behind the opening brace becomes at most three lines. -/
lemma OpeningLines.length_le {text : Text} {block : List Text} (h : OpeningLines s text block) :
    block.length ≤ 3 := by
  have hstatement : ∀ {t : Text} {block : List Text}, StatementLines s t block →
      block.length ≤ 1 := by
    intro t block hblock
    cases hblock with
    | none => exact Nat.zero_le 1
    | some => exact le_rfl
  cases h with
  | unclosed hcount hblock => exact (hstatement hblock).trans (Nat.le_add_left 1 2)
  | closed hcount htext htail hblock =>
      rw [List.length_append]
      exact Nat.add_le_add_right (hstatement hblock) 2

/-- Each of some body lines becomes at most three lines. -/
lemma length_le_of_forall₂ {lines : List Text} {blocks : List (List Text)}
    (h : List.Forall₂ (BodyLines s) lines blocks) : ∀ block ∈ blocks, block.length ≤ 3 := by
  induction h with
  | nil => exact List.forall_mem_nil _
  | cons hblock _ ih => exact List.forall_mem_cons.mpr ⟨hblock.length_le, ih⟩

/-- Each line of a source becomes at most three lines. -/
lemma Blocks.length_block_le {lines : List Text} {blocks : List (List Text)}
    (h : Blocks s lines blocks) : ∀ block ∈ blocks, block.length ≤ 3 := by
  cases h with
  | onMark _ hopening hafter =>
      exact List.forall_mem_cons.mpr ⟨hopening.length_le, length_le_of_forall₂ hafter⟩
  | below _ _ _ hblanks hopening hafter =>
      exact List.forall_mem_cons.mpr ⟨Nat.zero_le 3, List.forall_mem_append.mpr
        ⟨length_le_of_forall₂ hblanks,
          List.forall_mem_cons.mpr ⟨hopening.length_le, length_le_of_forall₂ hafter⟩⟩⟩
  | missed _ _ hafter =>
      exact List.forall_mem_cons.mpr ⟨Nat.zero_le 3, length_le_of_forall₂ hafter⟩

/-- There is one block for each line. -/
lemma Blocks.length_eq {lines : List Text} {blocks : List (List Text)} (h : Blocks s lines blocks) :
    blocks.length = lines.length := by
  cases h with
  | onMark _ _ hafter => simp [hafter.length_eq]
  | below _ _ _ hblanks _ hafter => simp [hblanks.length_eq, hafter.length_eq]
  | missed _ _ hafter => simp [hafter.length_eq]

/-! ### The blocks of single lines -/

/-- What is put out for a body line is as described. -/
lemma Named.bodyLines_bodyBlock (h : s.Named pairs) (line : Text) :
    BodyLines s line (s.bodyBlock line).lines := by
  have hlowered := h.plain.lowerBodyLine_eq line
  rw [h.bodyBlock_lines]
  by_cases hhead : line.head? = some '\x7d'
  · rw [if_pos hhead]
    exact .closing hhead hlowered
  · rw [if_neg hhead]
    exact .plain hhead hlowered

/-- What is put out for a statement is as described. -/
lemma Named.statementLines_statementBlock (h : s.Named pairs) (t : Text) :
    StatementLines s t (s.statementBlock t).lines := by
  have hlowered := h.plain.lowerBodyLine_eq t
  by_cases hnil : t = []
  · rw [statementBlock, if_pos hnil]
    exact .none hnil
  · rw [statementBlock, if_neg hnil, hlowered]
    exact .some hnil hlowered

/-- No closing brace stands behind the last one. -/
lemma not_mem_cutAtLastBrace_snd (t : Text) : '\x7d' ∉ (cutAtLastBrace t).2 := by
  intro hmem
  have htaken := List.mem_takeWhile_imp (List.mem_reverse.mp hmem)
  exact absurd rfl (of_decide_eq_true htaken)

/-- What is put out behind the opening brace is as described. -/
lemma Named.openingLines_openingBlock (h : s.Named pairs) (text : Text) :
    OpeningLines s text (s.openingBlock text).lines := by
  unfold openingBlock
  dsimp only
  by_cases hcount : (Text.trim text).count '\x7b' < (Text.trim text).count '\x7d'
  · have hmem : '\x7d' ∈ Text.trim text := List.count_pos_iff.mp (Nat.zero_lt_of_lt hcount)
    rw [if_pos hcount, append_lines (h.plain.total.statementBlock_failure _)]
    exact .closed hcount (cutAtLastBrace_eq hmem) (not_mem_cutAtLastBrace_snd _)
      (h.statementLines_statementBlock _)
  · rw [if_neg hcount]
    exact .unclosed (not_lt.mp hcount) (h.statementLines_statementBlock _)

/-! ### The blocks of a run -/

/-- Behind the opening brace, a run puts out one block for each line. -/
lemma Named.exists_blocks_body (h : s.Named pairs) (lines : List Text) :
    ∃ blocks, (s.lowerLines .body lines).lines = blocks.flatten ∧
      List.Forall₂ (BodyLines s) lines blocks := by
  induction lines with
  | nil => exact ⟨[], rfl, .nil⟩
  | cons line rest ih =>
      obtain ⟨blocks, hlines, hblocks⟩ := ih
      refine ⟨(s.bodyBlock line).lines :: blocks, ?_, .cons (h.bodyLines_bodyBlock line) hblocks⟩
      rw [h.plain.total.lowerLines_cons_lines, lowerLine_body, hlines, List.flatten_cons]

/-- Blank lines below the mark are lowered, and the brace is still to come. -/
lemma Total.lowerLines_awaiting_blank (h : s.Total) {blank : List Text}
    (hblank : ∀ line ∈ blank, Text.trim line = []) (rest : List Text) :
    (s.lowerLines .awaitingBrace (blank ++ rest)).lines =
      (s.lowerLines .body blank).lines ++ (s.lowerLines .awaitingBrace rest).lines := by
  induction blank with
  | nil => rfl
  | cons line blank ih =>
      obtain ⟨hline, hblank⟩ := List.forall_mem_cons.mp hblank
      rw [List.cons_append, h.lowerLines_cons_lines, lowerLine_awaiting_of_blank s hline, ih hblank,
        h.lowerLines_cons_lines, lowerLine_body, List.append_assoc]

/-- Where no brace comes first, the lines below the mark are lowered as lines of the body are. -/
lemma Total.lowerLines_awaiting_missed (h : s.Total) {lines : List Text}
    (hnone : opensNext lines = false) :
    (s.lowerLines .awaitingBrace lines).lines = (s.lowerLines .body lines).lines := by
  induction lines with
  | nil => rfl
  | cons line rest ih =>
      rw [h.lowerLines_cons_lines, h.lowerLines_cons_lines, lowerLine_body]
      rcases htrim : Text.trim line with _ | ⟨c, t⟩
      · have hrest : opensNext rest = false := by simpa [opensNext, htrim] using hnone
        rw [lowerLine_awaiting_of_blank s htrim, ih hrest]
      · have hc : c ≠ '\x7b' := by simpa [opensNext, htrim] using hnone
        rw [lowerLine_awaiting_of_other s htrim hc]

/-- The line that opens the body stands behind blank lines only. -/
lemma exists_opening_line {lines : List Text} (h : opensNext lines = true) :
    ∃ blank line text after, lines = blank ++ line :: after ∧
      (∀ line ∈ blank, Text.trim line = []) ∧ Text.trim line = '\x7b' :: text := by
  rw [opensNext, Option.any_eq_true] at h
  obtain ⟨line, hfind, hhead⟩ := h
  obtain ⟨-, blank, after, rfl, hblank⟩ := List.find?_eq_some_iff_append.mp hfind
  obtain ⟨text, htext⟩ := List.head?_eq_some_iff.mp (of_decide_eq_true hhead)
  exact ⟨blank, line, text, after, rfl, fun line hline => by simpa using hblank line hline, htext⟩

/-- From the entry point on, a run puts out the signature and one block for each line. -/
lemma Named.exists_blocks_entry (h : s.Named pairs) {entry : Text}
    (hentry : isEntryPoint entry = true) (after : List Text) :
    ∃ blocks, (s.lowerLine .preamble entry).1.lines ++
        (s.lowerLines (s.lowerLine .preamble entry).2 after).lines =
          s.signature ++ blocks.flatten ∧ Blocks s (entry :: after) blocks := by
  have hcutEq := Text.cutAt_eq "\x7b" entry
  rcases hcut : (Text.cutAt "\x7b" entry).2 with _ | text
  · have hmem : '\x7b' ∉ entry := by
      rw [hcut, List.append_nil] at hcutEq
      exact hcutEq ▸ Text.not_mem_cutAt_fst '\x7b' entry
    rw [lowerLine_entry_of_no_brace s hentry hcut]
    by_cases hopens : opensNext after = true
    · obtain ⟨blank, line, text, after, rfl, hblank, hline⟩ := exists_opening_line hopens
      obtain ⟨blankBlocks, hblankLines, hblanks⟩ := h.exists_blocks_body blank
      obtain ⟨blocks, hlines, hblocks⟩ := h.exists_blocks_body after
      refine ⟨_, ?_, .below hmem hblank hline hblanks (h.openingLines_openingBlock text) hblocks⟩
      rw [h.plain.total.lowerLines_awaiting_blank hblank, h.plain.total.lowerLines_cons_lines,
        lowerLine_awaiting_of_brace s hline, hblankLines, hlines]
      simp only [List.flatten_cons, List.flatten_append, List.nil_append]
    · have hnone : opensNext after = false := by simpa using hopens
      obtain ⟨blocks, hlines, hblocks⟩ := h.exists_blocks_body after
      refine ⟨_, ?_, .missed hmem hnone hblocks⟩
      rw [h.plain.total.lowerLines_awaiting_missed hnone, hlines]
      rfl
  · obtain ⟨blocks, hlines, hblocks⟩ := h.exists_blocks_body after
    rw [lowerLine_entry_of_brace s hentry hcut, hlines]
    refine ⟨(s.openingBlock text).lines :: blocks, by simp, ?_⟩
    rw [hcut] at hcutEq
    rw [hcutEq]
    exact .onMark (Text.not_mem_cutAt_fst '\x7b' entry) (h.openingLines_openingBlock text) hblocks

/-- A lowered source consists of the lines kept before its entry point, each with its words mapped,
of the signature, once, and of one block for each line from the entry point on, all in the order of
the source. The entry point is the first line that can be one. -/
theorem lower_blocks (s : Lowering) (source : Text) (lines : List Text) (hs : OfIdentifiers s)
    (hrun : (s.lower source).result = .ok lines) :
    ∃ entry after blocks, Text.lines source = preamble source ++ entry :: after ∧
      (∀ line ∈ preamble source, isEntryPoint line = false) ∧ isEntryPoint entry = true ∧
      lines = ((preamble source).filter (!isDropped ·)).map s.mapLine ++ s.signature ++
        blocks.flatten ∧
      Blocks s (entry :: after) blocks ∧ blocks.length = (entry :: after).length ∧
      ∀ block ∈ blocks, block.length ≤ 3 := by
  obtain ⟨pairs, h⟩ := hs.exists_named
  obtain ⟨entry, after, hsource, hentry, rfl⟩ := h.plain.total.exists_entry hrun
  obtain ⟨blocks, hlines, hblocks⟩ := h.exists_blocks_entry hentry after
  have hbefore : ∀ line ∈ preamble source, isEntryPoint line = false := by
    intro line hline
    simpa using List.mem_takeWhile_imp hline
  refine ⟨entry, after, blocks, hsource, hbefore, hentry, ?_, hblocks, hblocks.length_eq,
    hblocks.length_block_le⟩
  rw [hlines, List.append_assoc]

/-- A blank line between the mark and the brace, and a second mark behind the end. -/
theorem lower_blocks_second_mark :
    ∃ blocks : List (List Text),
      Blocks (ofVertex ⟨[], []⟩ [] ["u"])
        ["void main()", "", "\x7b u = a;", "\x7d", "void main() \x7b"] blocks ∧
      ((ofVertex ⟨[], []⟩ [] ["u"]).lower
        "varying vec2 u;\nint a;\nvoid main()\n\n\x7b u = a;\n\x7d\nvoid main() \x7b\n").result =
        .ok (["int a;".toList] ++ (ofVertex ⟨[], []⟩ [] ["u"]).signature ++ blocks.flatten) := by
  obtain ⟨entry, after, blocks, hsource, -, -, hlines, hblocks, -⟩ :=
    lower_blocks (ofVertex ⟨[], []⟩ [] ["u"])
      "varying vec2 u;\nint a;\nvoid main()\n\n\x7b u = a;\n\x7d\nvoid main() \x7b\n" _
      (.vertex ⟨[], []⟩ [] ["u"] (by simp) (by simp) (by decide) rfl) rfl
  obtain ⟨-, hrest⟩ := List.cons.inj hsource
  obtain ⟨-, hrest⟩ := List.cons.inj hrest
  obtain ⟨rfl, rfl⟩ := List.cons.inj hrest
  exact ⟨blocks, hblocks, congrArg _ hlines⟩

end MetalLowering.Lowering
