import MetalLowering.Proofs.StageBlocks

/-!
# Where the lines of a lowered stage come from

A stage puts out lines of the source with their words mapped or lowered, the signature, the returns,
and what stands behind a closing brace on the line of the opening one. `Origin` lists these cases
with what is known of each; every line of a run is one of them (`Named.origin_of_mem`), so a
property of all lines is proved case by case. The text behind the brace is put out as it is, and it
is put out whenever the entry point is closed on the line where it is opened
(`Total.mem_of_closedAtOnce`).
-/

namespace MetalLowering

namespace Text

/-- What is left of a text without its outer blanks was there before. -/
lemma mem_of_mem_trim {t : Text} {c : Char} (h : c ∈ trim t) : c ∈ t := by
  obtain ⟨b, b', -, -, ht⟩ := exists_trim t
  rw [ht]
  exact List.mem_append_left b' (List.mem_append_right b h)

/-- What is left of a text without the blanks at its end was there before. -/
lemma mem_of_mem_trimRight {t : Text} {c : Char} (h : c ∈ trimRight t) : c ∈ t := by
  obtain ⟨b, -, ht⟩ := exists_trimRight t
  rw [ht]
  exact List.mem_append_left b h

end Text

namespace Lowering

variable {s : Lowering} {pairs : List (Text × Text)} {source text tail : Text}

/-! ### Entry points that are closed where they are opened -/

/-- The text behind the opening brace of an entry point, on the line of the brace. The first line is
the entry point, and the brace stands there or at the front of the first line below that is not
blank. -/
inductive OpenedBy : List Text → Text → Prop
  /-- The brace stands on the line of the entry point. -/
  | onMark {front text : Text} (after : List Text) (hfront : '\x7b' ∉ front) :
      OpenedBy ((front ++ '\x7b' :: text) :: after) text
  /-- The brace stands below. -/
  | below {entry line text : Text} {blank : List Text} (after : List Text)
      (hentry : '\x7b' ∉ entry) (hblank : ∀ line ∈ blank, Text.trim line = [])
      (hline : Text.trim line = '\x7b' :: text) :
      OpenedBy (entry :: (blank ++ line :: after)) text

/-- A source with `text` behind the opening brace of its entry point. -/
def Opens (source text : Text) : Prop :=
  ∃ entry after, Text.lines source = preamble source ++ entry :: after ∧
    isEntryPoint entry = true ∧ OpenedBy (entry :: after) text

/-- A text behind an opening brace that closes more than it opens, with `tail` behind its last
closing brace. -/
structure Closes (text tail : Text) : Prop where
  /-- More braces are closed than opened. -/
  count_lt : (Text.trim text).count '\x7b' < (Text.trim text).count '\x7d'
  /-- The tail stands behind a closing brace. -/
  exists_inner : ∃ inner, Text.trim text = inner ++ '\x7d' :: tail
  /-- That brace is the last one. -/
  not_mem : '\x7d' ∉ tail

/-- A source whose entry point is closed on the line where it is opened, with `tail` behind it. -/
def ClosedAtOnce (source tail : Text) : Prop := ∃ text, Opens source text ∧ Closes text tail

/-- The text behind the brace is part of a line. -/
lemma Opens.exists_line (h : Opens source text) :
    ∃ line ∈ Text.lines source, ∀ c ∈ text, c ∈ line := by
  obtain ⟨entry, after, hsource, -, hopened⟩ := h
  rw [hsource]
  cases hopened with
  | onMark _ hfront =>
      refine ⟨_, List.mem_append_right _ List.mem_cons_self, fun c hc => ?_⟩
      exact List.mem_append_right _ (List.mem_cons_of_mem _ hc)
  | below after hentry hblank hline =>
      refine ⟨_, List.mem_append_right _ (List.mem_cons_of_mem _ (List.mem_append_right _
        List.mem_cons_self)), fun c hc => ?_⟩
      apply Text.mem_of_mem_trim
      rw [hline]
      exact List.mem_cons_of_mem _ hc

/-! ### The origin of a line -/

/-- Where a line that is put out for a source comes from. -/
inductive Origin (s : Lowering) (source : Text) : Text → Prop
  /-- A line before the entry point. -/
  | mapped {line : Text} (hline : line ∈ Text.lines source) : Origin s source (s.mapLine line)
  /-- A line of the signature. -/
  | signature {line : Text} (hline : line ∈ s.signature) : Origin s source line
  /-- A line behind the entry point. -/
  | lowered {line out : Text} (hline : line ∈ Text.lines source)
      (hout : s.lowerBodyLine line = .ok out) : Origin s source out
  /-- A statement on the line of the opening brace. -/
  | statement {line t out : Text} (hline : line ∈ Text.lines source) (hpart : ∀ c ∈ t, c ∈ line)
      (hout : s.lowerBodyLine t = .ok out) : Origin s source ("    " ++ out)
  /-- A return before a closing brace. -/
  | returned : Origin s source s.returnLine
  /-- The rest of the line that opens and closes the entry point. -/
  | rest {line tail : Text} (hline : line ∈ Text.lines source) (hpart : ∀ c ∈ tail, c ∈ line)
      (hclosed : ClosedAtOnce source tail) : Origin s source ('\x7d' :: tail)

/-- What is put out for a body line has an origin. -/
lemma BodyLines.origin {line out : Text} {block : List Text} (h : BodyLines s line block)
    (hline : line ∈ Text.lines source) (hout : out ∈ block) : Origin s source out := by
  cases h with
  | plain hhead hlowered =>
      obtain rfl := List.mem_singleton.mp hout
      exact .lowered hline hlowered
  | closing hhead hlowered =>
      rcases List.mem_pair.mp hout with rfl | rfl
      · exact .returned
      · exact .lowered hline hlowered

/-- What is put out for a statement in a line has an origin. -/
lemma StatementLines.origin {line t out : Text} {block : List Text} (h : StatementLines s t block)
    (hline : line ∈ Text.lines source) (hpart : ∀ c ∈ t, c ∈ line) (hout : out ∈ block) :
    Origin s source out := by
  cases h with
  | none => cases hout
  | some hne hlowered =>
      obtain rfl := List.mem_singleton.mp hout
      exact .statement hline hpart hlowered

/-- What is put out behind the opening brace has an origin. -/
lemma OpeningLines.origin {out : Text} {block : List Text} (h : OpeningLines s text block)
    (hopens : Opens source text) (hout : out ∈ block) : Origin s source out := by
  obtain ⟨line, hline, hpart⟩ := hopens.exists_line
  have htrim : ∀ c ∈ Text.trim text, c ∈ line := fun c hc => hpart c (Text.mem_of_mem_trim hc)
  cases h with
  | unclosed hcount hblock => exact hblock.origin hline htrim hout
  | closed hcount htext htail hblock =>
      rw [htext] at htrim
      rcases List.mem_append.mp hout with hout | hout
      · refine hblock.origin hline (fun c hc => htrim c ?_) hout
        exact List.mem_append_left _ (Text.mem_of_mem_trimRight hc)
      rcases List.mem_pair.mp hout with rfl | rfl
      · exact .returned
      · refine .rest hline (fun c hc => htrim c ?_) ⟨text, hopens, hcount, ⟨_, htext⟩, htail⟩
        exact List.mem_append_right _ (List.mem_cons_of_mem _ hc)

/-- What is put out for some body lines has an origin. -/
lemma origin_of_forall₂ {lines : List Text} {blocks : List (List Text)} {out : Text}
    (h : List.Forall₂ (BodyLines s) lines blocks)
    (hlines : ∀ line ∈ lines, line ∈ Text.lines source)
    (hout : out ∈ blocks.flatten) : Origin s source out := by
  induction h with
  | nil => cases hout
  | cons hblock _ ih =>
      obtain ⟨hline, hlines⟩ := List.forall_mem_cons.mp hlines
      rw [List.flatten_cons] at hout
      rcases List.mem_append.mp hout with hout | hout
      · exact hblock.origin hline hout
      · exact ih hlines hout

/-- What is put out from the entry point on. -/
lemma Blocks.origin {entry out : Text} {after : List Text} {blocks : List (List Text)}
    (h : Blocks s (entry :: after) blocks)
    (hsource : Text.lines source = preamble source ++ entry :: after)
    (hentry : isEntryPoint entry = true) (hout : out ∈ blocks.flatten) : Origin s source out := by
  have hlines : ∀ line ∈ after, line ∈ Text.lines source := by
    intro line hline
    rw [hsource]
    exact List.mem_append_right _ (List.mem_cons_of_mem _ hline)
  cases h with
  | onMark hfront hopening hafter =>
      rw [List.flatten_cons] at hout
      rcases List.mem_append.mp hout with hout | hout
      · exact hopening.origin ⟨_, _, hsource, hentry, .onMark _ hfront⟩ hout
      · exact origin_of_forall₂ hafter hlines hout
  | below hmark hblank hline hblanks hopening hafter =>
      obtain ⟨hblankLines, hlines⟩ := List.forall_mem_append.mp hlines
      obtain ⟨-, hafterLines⟩ := List.forall_mem_cons.mp hlines
      simp only [List.flatten_cons, List.flatten_append, List.nil_append, List.mem_append] at hout
      rcases hout with hout | hout | hout
      · exact origin_of_forall₂ hblanks hblankLines hout
      · exact hopening.origin ⟨_, _, hsource, hentry, .below _ hmark hblank hline⟩ hout
      · exact origin_of_forall₂ hafter hafterLines hout
  | missed hmark hnone hafter =>
      rw [List.flatten_cons, List.nil_append] at hout
      exact origin_of_forall₂ hafter hlines hout

/-- Every line of a run has an origin. -/
theorem Named.origin_of_mem {lines : List Text} {out : Text} (h : s.Named pairs)
    (hrun : (s.lower source).result = .ok lines) (hout : out ∈ lines) : Origin s source out := by
  obtain ⟨entry, after, hsource, hentry, rfl⟩ := h.plain.total.exists_entry hrun
  obtain ⟨blocks, hlines, hblocks⟩ := h.exists_blocks_entry hentry after
  rw [hlines] at hout
  rcases List.mem_append.mp hout with hout | hout
  · obtain ⟨line, hline, rfl⟩ := List.mem_map.mp hout
    refine .mapped ?_
    rw [hsource]
    exact List.mem_append_left _ (List.mem_of_mem_filter hline)
  rcases List.mem_append.mp hout with hout | hout
  · exact .signature hout
  · exact hblocks.origin hsource hentry hout

/-! ### The lines of the signature -/

/-- The parameters that a stage has whatever its textures are. -/
def fixedParameters : List Text :=
  EntryPoint.parameters .vertex [] ++ EntryPoint.parameters .fragment []

/-- The lines of a signature that do not depend on the textures. -/
def fixedLines : List Text :=
  EntryPoint.signature .vertex [] ++ EntryPoint.signature .fragment [] ++ fixedParameters ++
    fixedParameters.map fun line : Text => line ++ ","

/-- A parameter is one of the fixed ones or belongs to a texture. -/
lemma mem_parameters {stage : Stage} {textures : List EntryPoint.BoundTexture} {line : Text}
    (h : line ∈ EntryPoint.parameters stage textures) :
    line ∈ fixedParameters ∨ line ∈ EntryPoint.textureParameters 0 textures := by
  cases stage with
  | vertex => exact Or.inl (List.mem_append_left _ h)
  | fragment =>
      rcases List.mem_cons.mp h with rfl | h
      · exact Or.inl (List.mem_append_right _ List.mem_cons_self)
      rcases List.mem_cons.mp h with rfl | h
      · exact Or.inl (List.mem_append_right _ (List.mem_cons_of_mem _ List.mem_cons_self))
      · exact Or.inr h

/-- A line of the signature is a fixed one, or a parameter of a texture with a comma behind it or
without. -/
lemma signature_cases {line : Text} (h : line ∈ s.signature) :
    line ∈ fixedLines ∨ ∃ parameter ∈ EntryPoint.textureParameters 0 s.textures,
      line = parameter ∨ line = parameter ++ "," := by
  have hfixed : ∀ stage, ∀ line ∈ EntryPoint.signature stage [], line ∈ fixedLines := by
    intro stage line hline
    unfold fixedLines
    apply List.mem_append_left
    apply List.mem_append_left
    cases stage with
    | vertex => exact List.mem_append_left _ hline
    | fragment => exact List.mem_append_right _ hline
  unfold signature EntryPoint.signature at h
  rw [List.cons_append, List.mem_cons, List.mem_append] at h
  rcases h with rfl | h | h
  · exact Or.inl (hfixed s.stage _ List.mem_cons_self)
  · obtain ⟨parameter, hparameter, hline⟩ := mem_separated h
    rcases mem_parameters hparameter with hmem | hmem
    · left
      rcases hline with rfl | rfl
      · exact List.mem_append_left _ (List.mem_append_right _ hmem)
      · exact List.mem_append_right _ (List.mem_map.mpr ⟨parameter, hmem, rfl⟩)
    · exact Or.inr ⟨parameter, hmem, hline⟩
  · exact Or.inl (hfixed s.stage _ (List.mem_append_right _ h))

/-! ### The text behind the closing brace -/

/-- A text that closes the body on the opening line puts out its tail behind a brace. -/
lemma Closes.mem_openingBlock (h : Closes text tail) (htotal : s.Total) :
    '\x7d' :: tail ∈ (s.openingBlock text).lines := by
  obtain ⟨inner, hinner⟩ := h.exists_inner
  unfold openingBlock
  dsimp only
  rw [if_pos h.count_lt, hinner, cutAtLastBrace_append h.not_mem,
    append_lines (htotal.statementBlock_failure _)]
  exact List.mem_append_right _ (by simp)

/-- The block of the text behind the opening brace is put out. -/
lemma OpenedBy.subset_lines {entry : Text} {after : List Text} (h : OpenedBy (entry :: after) text)
    (htotal : s.Total) (hentry : isEntryPoint entry = true) {out : Text}
    (hout : out ∈ (s.openingBlock text).lines) :
    out ∈ (s.lowerLine .preamble entry).1.lines ++
      (s.lowerLines (s.lowerLine .preamble entry).2 after).lines := by
  cases h with
  | onMark _ hfront =>
      have hcut := Text.cutAt_append hfront [] text
      rw [List.nil_append] at hcut
      rw [lowerLine_entry_of_brace s hentry (congrArg Prod.snd hcut)]
      exact List.mem_append_left _ (List.mem_append_right _ hout)
  | below after hmark hblank hline =>
      have hcut : (Text.cutAt "\x7b" entry).2 = none :=
        congrArg Prod.snd (Text.cutAt_of_not_mem hmark [])
      rw [lowerLine_entry_of_no_brace s hentry hcut, htotal.lowerLines_awaiting_blank hblank,
        htotal.lowerLines_cons_lines, lowerLine_awaiting_of_brace s hline]
      exact List.mem_append_right _ (List.mem_append_right _ (List.mem_append_left _ hout))

/-- The text behind a closing brace on the line of the opening one is put out as it is. -/
theorem Total.mem_of_closedAtOnce {lines : List Text} (h : s.Total)
    (hrun : (s.lower source).result = .ok lines) (hclosed : ClosedAtOnce source tail) :
    '\x7d' :: tail ∈ lines := by
  obtain ⟨text, ⟨entry, after, hsource, hentry, hopened⟩, hcloses⟩ := hclosed
  obtain ⟨entry', after', hsource', -, rfl⟩ := h.exists_entry hrun
  obtain ⟨rfl, rfl⟩ := List.cons.inj (List.append_cancel_left (hsource.symm.trans hsource'))
  exact List.mem_append_right _
    (hopened.subset_lines h hentry (hcloses.mem_openingBlock h))

end Lowering

end MetalLowering
