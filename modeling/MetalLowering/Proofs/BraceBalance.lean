import MetalLowering.Proofs.IdentifierStages

/-!
# The braces of a lowered stage

A stage whose names are identifiers keeps the braces of its lines, in their order; the only changes
are made where the body is opened. The signature brings one opening brace. Of the source, what is
closed on the line of the entry point before its first opening brace is lost, and one opening brace
is left out if the run finds it: on the line of the entry point, or at the front of the first line
behind it that is not blank (`opensBody`, `Named.exists_braces`).

The main theorem says what follows for opening braces less closing ones (`balance`): a lowered
source is balanced as the source is exactly if nothing is closed in front of the body and the run
finds the brace that opens it. A line with a comment between the mark and the brace is enough for
the run to miss it, and then the body is opened twice.
-/

namespace MetalLowering

/-! ### Lines of a source -/

namespace Text

/-- A character put in front of the first line comes in front of all of them. -/
lemma flatten_consFirst (c : Char) (ls : List Text) :
    (consFirst c ls).flatten = c :: ls.flatten := by
  cases ls with
  | nil => rfl
  | cons l ls => rfl

/-- Cutting a source into lines loses line breaks only. -/
lemma filter_flatten_lines {p : Char → Bool} (hp : ∀ c, isLineBreak c = true → p c = false)
    (source : Text) : (lines source).flatten.filter p = source.filter p := by
  fun_induction lines source with
  | case1 => rfl
  | case2 t ih => simp [ih, hp '\r' (by decide), hp '\n' (by decide)]
  | case3 c t _ hbreak ih => simp [ih, hp c hbreak]
  | case4 c t _ _ ih => rw [flatten_consFirst, List.filter_cons, List.filter_cons, ih]

/-- Opening braces less closing ones. -/
def balance (t : Text) : Int := t.count '\x7b' - t.count '\x7d'

/-- The balance of two texts is the sum of theirs. -/
lemma balance_append (t u : Text) : balance (t ++ u) = balance t + balance u := by
  simp only [balance, List.count_append]
  push_cast
  omega

/-- An opening brace adds one to the balance. -/
lemma balance_cons_open (t : Text) : balance ('\x7b' :: t) = 1 + balance t := by
  simp [balance]
  omega

/-- Only braces count. -/
lemma balance_filter (t : Text) : balance (t.filter isBrace) = balance t := by
  rw [balance, List.count_filter (by decide), List.count_filter (by decide), balance]

/-- Cutting the blanks at the end takes no brace away. -/
lemma filter_trimRight (t : Text) : (trimRight t).filter isBrace = t.filter isBrace := by
  obtain ⟨b, hb, ht⟩ := exists_trimRight t
  conv_rhs => rw [ht, List.filter_append, (free_of_blanks hb).filter_eq_nil, List.append_nil]

/-- Cutting the blanks at both ends takes no brace away. -/
lemma filter_trim (t : Text) : (trim t).filter isBrace = t.filter isBrace := by
  obtain ⟨b, hb, ht⟩ := exists_trimLeft t
  conv_rhs => rw [ht, List.filter_append, (free_of_blanks hb).filter_eq_nil, List.nil_append]
  exact filter_trimRight (trimLeft t)

end Text

namespace Lowering

variable {s : Lowering} {pairs : List (Text × Text)}

/-! ### The braces of a block -/

/-- The return statement has no brace. -/
lemma filter_returnLine (s : Lowering) : s.returnLine.filter isBrace = [] := by
  have h : ∀ stage, ("    return " ++ Metal.output stage ++ ";" : Text).filter isBrace = [] := by
    intro stage
    cases stage <;> decide
  exact h s.stage

/-- A line of the body keeps its braces; what may be put before it holds none. -/
lemma Named.filter_bodyBlock (h : s.Named pairs) (line : Text) :
    (s.bodyBlock line).lines.flatten.filter isBrace = line.filter isBrace := by
  rw [← h.keeps_bodyLine.filter_eq line]
  simp only [bodyBlock, h.plain.lowerBodyLine_eq, Emission.ofLine]
  split_ifs
  · simp only [List.flatten_cons, List.flatten_nil, List.filter_append, filter_returnLine,
      List.nil_append, List.append_nil]
  · simp only [List.flatten_cons, List.flatten_nil, List.append_nil]

/-- A statement keeps its braces. -/
lemma Named.filter_statementBlock (h : s.Named pairs) (t : Text) :
    (s.statementBlock t).lines.flatten.filter isBrace = t.filter isBrace := by
  unfold statementBlock
  split_ifs with hnil
  · subst hnil
    rfl
  · rw [← h.keeps_bodyLine.filter_eq t]
    simp only [h.plain.lowerBodyLine_eq, Emission.ofLine, List.flatten_cons, List.flatten_nil,
      List.append_nil, List.filter_append]
    rfl

/-- A text is cut at the last closing brace. -/
lemma cutAtLastBrace_append {tail : Text} (h : '\x7d' ∉ tail) (inner : Text) :
    cutAtLastBrace (inner ++ '\x7d' :: tail) = (inner, tail) := by
  have htake : (inner ++ '\x7d' :: tail).reverse.takeWhile (· ≠ '\x7d') = tail.reverse := by
    have htail : ∀ c ∈ tail.reverse, decide (c ≠ '\x7d') = true := by
      intro c hc
      rw [decide_eq_true_eq]
      rintro rfl
      exact h (List.mem_reverse.mp hc)
    rw [List.reverse_append, List.reverse_cons, List.append_assoc, List.takeWhile_append_of_pos htail]
    simp
  have hdrop : (inner ++ '\x7d' :: tail).reverse.drop (tail.reverse.length + 1) = inner.reverse := by
    rw [List.reverse_append, List.reverse_cons, ← List.length_singleton (a := '\x7d'),
      ← List.length_append, List.drop_left]
  rw [cutAtLastBrace, htake, hdrop, List.reverse_reverse, List.reverse_reverse]

/-- The cut at the last closing brace gives back a text that holds one. -/
lemma cutAtLastBrace_eq {t : Text} (h : '\x7d' ∈ t) :
    t = (cutAtLastBrace t).1 ++ '\x7d' :: (cutAtLastBrace t).2 := by
  obtain ⟨tail, inner, hreverse, htail⟩ := List.eq_append_cons_of_mem (List.mem_reverse.mpr h)
  have ht : t = inner.reverse ++ '\x7d' :: tail.reverse := by
    rw [← List.reverse_reverse t, hreverse]
    simp
  rw [ht, cutAtLastBrace_append (mt List.mem_reverse.mp htail)]

/-- The text behind the opening brace keeps its braces, whether it ends the entry point or not. -/
lemma Named.filter_openingBlock (h : s.Named pairs) (text : Text) :
    (s.openingBlock text).lines.flatten.filter isBrace = text.filter isBrace := by
  rw [← Text.filter_trim text]
  unfold openingBlock
  dsimp only
  split_ifs with hcount
  · have hmem : '\x7d' ∈ Text.trim text := List.count_pos_iff.mp (Nat.zero_lt_of_lt hcount)
    rw [append_lines (h.plain.total.statementBlock_failure _), List.flatten_append,
      List.filter_append, h.filter_statementBlock, Text.filter_trimRight]
    conv_rhs => rw [cutAtLastBrace_eq hmem, List.filter_append]
    simp only [List.flatten_cons, List.flatten_nil, List.filter_append, filter_returnLine,
      List.nil_append, List.append_nil]
  · exact h.filter_statementBlock _

/-! ### The braces of a run -/

/-- The lines of a body keep their braces. -/
lemma Named.filter_lowerLines_body (h : s.Named pairs) (lines : List Text) :
    (s.lowerLines .body lines).lines.flatten.filter isBrace = lines.flatten.filter isBrace := by
  induction lines with
  | nil => rfl
  | cons line rest ih =>
      rw [h.plain.total.lowerLines_cons_lines, lowerLine_body, List.flatten_append,
        List.filter_append, h.filter_bodyBlock, ih, List.flatten_cons, List.filter_append]

/-- Whether the first line that is not blank starts with an opening brace. -/
def opensNext (lines : List Text) : Bool :=
  (lines.find? (Text.trim · ≠ [])).any fun line => (Text.trim line).head? = some '\x7b'

/-- Whether the run finds the brace that opens the body: on the line of the entry point, or at the
front of the first line behind it that is not blank. -/
def opensBody (entry : Text) (after : List Text) : Bool := '\x7b' ∈ entry || opensNext after

/-- While the opening brace is still to come, it is the one brace that can be left out. -/
lemma Named.filter_lowerLines_awaiting (h : s.Named pairs) (lines : List Text) :
    lines.flatten.filter isBrace =
      (if opensNext lines then ['\x7b'] else []) ++
        (s.lowerLines .awaitingBrace lines).lines.flatten.filter isBrace := by
  induction lines with
  | nil => rfl
  | cons line rest ih =>
      rw [h.plain.total.lowerLines_cons_lines, List.flatten_cons, List.filter_append,
        List.flatten_append, List.filter_append]
      rcases htrim : Text.trim line with _ | ⟨c, t⟩
      · have hblank : line.filter isBrace = [] := by
          rw [← Text.filter_trim, htrim, List.filter_nil]
        have hopens : opensNext (line :: rest) = opensNext rest := by
          simp [opensNext, htrim]
        rw [lowerLine_awaiting_of_blank s htrim, h.filter_bodyBlock, hblank, hopens, ih]
        rfl
      · have hopens : opensNext (line :: rest) = decide (c = '\x7b') := by
          simp [opensNext, htrim]
        by_cases hc : c = '\x7b'
        · subst hc
          rw [lowerLine_awaiting_of_brace s htrim, h.filter_openingBlock, h.filter_lowerLines_body,
            hopens, ← Text.filter_trim line, htrim]
          rfl
        · rw [lowerLine_awaiting_of_other s htrim hc, h.filter_bodyBlock, h.filter_lowerLines_body,
            hopens, decide_eq_false hc]
          rfl

/-- What becomes of the braces from the line of the entry point on: those before its first opening
brace are lost, and the brace of the signature stands for the one that the run finds. -/
lemma Named.exists_braces (h : s.Named pairs) {entry : Text} (hentry : isEntryPoint entry = true)
    (after : List Text) :
    ∃ behind,
      ((s.lowerLine .preamble entry).1.lines ++
        (s.lowerLines (s.lowerLine .preamble entry).2 after).lines).flatten.filter isBrace =
          '\x7b' :: behind ∧
      (entry :: after).flatten.filter isBrace =
        (Text.cutAt "\x7b" entry).1.filter isBrace ++
          ((if opensBody entry after then ['\x7b'] else []) ++ behind) := by
  have hcutEq := Text.cutAt_eq "\x7b" entry
  rcases hcut : (Text.cutAt "\x7b" entry).2 with _ | rest
  · have hopens : opensBody entry after = opensNext after := by
      rw [hcut, List.append_nil] at hcutEq
      have hmem : '\x7b' ∉ entry := hcutEq ▸ Text.not_mem_cutAt_fst '\x7b' entry
      simp [opensBody, hmem]
    refine ⟨(s.lowerLines .awaitingBrace after).lines.flatten.filter isBrace, ?_, ?_⟩
    · rw [lowerLine_entry_of_no_brace s hentry hcut, List.flatten_append, List.filter_append,
        h.filter_signature]
      rfl
    · rw [List.flatten_cons, List.filter_append, h.filter_lowerLines_awaiting after, hopens]
      rw [hcut, List.append_nil] at hcutEq
      rw [← hcutEq]
  · have hopens : opensBody entry after = true := by
      have hmem : '\x7b' ∈ entry := by
        rw [hcutEq, hcut]
        simp
      simp [opensBody, hmem]
    refine ⟨rest.filter isBrace ++ after.flatten.filter isBrace, ?_, ?_⟩
    · rw [lowerLine_entry_of_brace s hentry hcut, List.flatten_append, List.filter_append,
        List.flatten_append, List.filter_append, h.filter_signature, h.filter_openingBlock,
        h.filter_lowerLines_body]
      rfl
    · rw [hcut] at hcutEq
      conv_lhs => rw [List.flatten_cons, List.filter_append, hcutEq, List.filter_append,
        List.filter_append]
      rw [hopens, List.append_assoc, List.append_assoc]
      rfl

/-- Where no dropped line holds a brace, the lines before the entry point keep theirs. -/
lemma filter_map_mapLine (s : Lowering) {before : List Text}
    (hdropped : ∀ line ∈ before, isDropped line = true → Text.Free isBrace line) :
    ((before.filter (!isDropped ·)).map s.mapLine).flatten.filter isBrace =
      before.flatten.filter isBrace := by
  induction before with
  | nil => rfl
  | cons line before ih =>
      obtain ⟨hline, hbefore⟩ := List.forall_mem_cons.mp hdropped
      rw [List.flatten_cons, List.filter_append, ← ih hbefore]
      by_cases hdrop : isDropped line = true
      · simp [hdrop, (hline hdrop).filter_eq_nil]
      · simp [hdrop, (keeps_mapLine s).filter_eq]

/-- What is closed before the first opening brace counts against the balance. -/
lemma balance_cutAt (entry : Text) :
    Text.balance (Text.cutAt "\x7b" entry).1 = -((Text.cutAt "\x7b" entry).1.count '\x7d' : Int) := by
  have hopen : (Text.cutAt "\x7b" entry).1.count '\x7b' = 0 :=
    List.count_eq_zero.mpr (Text.not_mem_cutAt_fst '\x7b' entry)
  rw [Text.balance, hopen]
  omega

/-- The balance of a lowered source: that of the source, and what is lost where the body is opened.
Both are the same exactly if no brace is closed before the first one that the line of the entry
point opens, and the run finds the brace that opens the body. -/
theorem balance_lower (s : Lowering) (source : Text) (lines : List Text) (hs : OfIdentifiers s)
    (hrun : (s.lower source).result = .ok lines)
    (hdropped : ∀ line ∈ preamble source, isDropped line = true → Text.Free isBrace line) :
    ∃ entry after, Text.lines source = preamble source ++ entry :: after ∧
      isEntryPoint entry = true ∧
      Text.balance lines.flatten = Text.balance source +
        ((Text.cutAt "\x7b" entry).1.count '\x7d' + if opensBody entry after then 0 else 1) ∧
      (Text.balance lines.flatten = Text.balance source ↔
        '\x7d' ∉ (Text.cutAt "\x7b" entry).1 ∧ opensBody entry after = true) := by
  obtain ⟨pairs, h⟩ := hs.exists_named
  obtain ⟨entry, after, hsource, hentry, rfl⟩ := h.plain.total.exists_entry hrun
  obtain ⟨behind, hout, hin⟩ := h.exists_braces hentry after
  have hlowered : Text.balance (((preamble source).filter (!isDropped ·)).map s.mapLine ++
      ((s.lowerLine .preamble entry).1.lines ++
        (s.lowerLines (s.lowerLine .preamble entry).2 after).lines)).flatten =
      Text.balance (preamble source).flatten + (1 + Text.balance behind) := by
    rw [← Text.balance_filter, List.flatten_append, List.filter_append,
      filter_map_mapLine s hdropped, hout, Text.balance_append, Text.balance_filter,
      Text.balance_cons_open]
  have hgiven : Text.balance source = Text.balance (preamble source).flatten +
      (-((Text.cutAt "\x7b" entry).1.count '\x7d' : Int) +
        ((if opensBody entry after then 1 else 0) + Text.balance behind)) := by
    have hbreak : ∀ c, Text.isLineBreak c = true → isBrace c = false := fun c =>
      isBrace_eq_false (by decide) (by decide)
    rw [← Text.balance_filter, ← Text.filter_flatten_lines hbreak, hsource, List.flatten_append,
      List.filter_append, hin, Text.balance_append, Text.balance_filter, Text.balance_append,
      Text.balance_filter, balance_cutAt, Text.balance_append]
    split_ifs <;> rfl
  have hclosed : '\x7d' ∉ (Text.cutAt "\x7b" entry).1 ↔
      (Text.cutAt "\x7b" entry).1.count '\x7d' = 0 := List.count_eq_zero.symm
  refine ⟨entry, after, hsource, hentry, ?_, ?_⟩
  · rw [hlowered, hgiven]
    split_ifs <;> omega
  · rw [hlowered, hgiven, hclosed]
    by_cases hopens : opensBody entry after = true
    · simp only [hopens, if_true, and_true]
      omega
    · simp only [hopens, Bool.false_eq_true, if_false, and_false, iff_false]
      omega

/-- Behind a blank line the run finds the brace, and a line of one statement keeps its balance. -/
theorem balance_lower_behind_blank :
    ∃ lines,
      ((ofVertex ⟨[], []⟩ [] ["uv"]).lower
        "varying vec2 uv;\nvoid main()\n \n \x7b uv = vec2(1.0); \x7d // end\n").result = .ok lines ∧
      Text.balance lines.flatten =
        Text.balance "varying vec2 uv;\nvoid main()\n \n \x7b uv = vec2(1.0); \x7d // end\n" := by
  obtain ⟨entry, after, hsource, hentry, -, hbalance⟩ :=
    balance_lower (ofVertex ⟨[], []⟩ [] ["uv"])
      "varying vec2 uv;\nvoid main()\n \n \x7b uv = vec2(1.0); \x7d // end\n" _
      (.vertex ⟨[], []⟩ [] ["uv"] (by simp) (by simp) (by decide) rfl) rfl (by decide)
  obtain ⟨-, hcons⟩ := List.cons.inj hsource
  obtain ⟨rfl, rfl⟩ := List.cons.inj hcons
  exact ⟨_, rfl, hbalance.mpr (by decide)⟩

/-- A comment between the mark and the brace is enough for the body to be opened twice. -/
theorem balance_lower_behind_comment :
    ¬∀ s source lines, OfIdentifiers s → (s.lower source).result = .ok lines →
      (∀ line ∈ preamble source, isDropped line = true → Text.Free isBrace line) →
      Text.balance lines.flatten = Text.balance source := by
  intro h
  have hbalance := h (ofVertex ⟨[], []⟩ [] []) "void main()\n// c\n\x7b\n\x7d\n" _
    (.vertex ⟨[], []⟩ [] [] (by simp) (by simp) (by simp) rfl) rfl (by decide)
  exact absurd hbalance (by decide)

end Lowering

end MetalLowering
