import MetalLowering.Proofs.Conversions
import MetalLowering.Proofs.EmittedLines
import MetalLowering.Proofs.PrintedDeclarations

/-!
# Line breaks of sources, files and results

A source is cut at eleven different line ends, of which the carriage return with a line feed is one.
`Text.Layout` is a text by its lines and what ends them. Main statement: it makes no difference to
the result or the failure of a shader pair which line ends its sources have, nor that a file is read
with its line ends translated, and what is put out for identifiers has line feeds only
(`lowerPair_line_ends`).

All that is read of a source is its list of lines (`lowerPair_eq_of_lines`), and the list of lines
of a layout is that of its texts (`Layout.lines_text`). For the result, each line put out has no
break because no pass puts one into a line (`unbroken_substituteFrom`).
-/

namespace MetalLowering

namespace Text

/-! ### Texts by their lines -/

/-- What can end a line. -/
inductive LineEnd
  | lineFeed
  | carriageReturn
  | returnAndFeed
  | lineTabulation
  | formFeed
  | fileSeparator
  | groupSeparator
  | recordSeparator
  | nextLine
  | lineSeparator
  | paragraphSeparator
  deriving Repr, DecidableEq

/-- The characters of a line end. -/
def LineEnd.text : LineEnd → Text
  | .lineFeed => ['\n']
  | .carriageReturn => ['\r']
  | .returnAndFeed => ['\r', '\n']
  | .lineTabulation => ['\x0b']
  | .formFeed => ['\x0c']
  | .fileSeparator => ['\x1c']
  | .groupSeparator => ['\x1d']
  | .recordSeparator => ['\x1e']
  | .nextLine => ['\u0085']
  | .lineSeparator => ['\u2028']
  | .paragraphSeparator => ['\u2029']

/-- A line with what ends it. -/
structure EndedLine where
  /-- The line. -/
  text : Text
  /-- What ends it. -/
  ending : LineEnd
  /-- There is no line break in the line. -/
  unbroken : Unbroken text

/-- Two lines that stay apart when they are written one after the other: a carriage return and the
line feed of an empty line would be one line end. -/
def EndedLine.StaysApart (l m : EndedLine) : Prop :=
  ¬(l.ending = .carriageReturn ∧ m.text = [] ∧ m.ending = .lineFeed)

/-- A text by its lines. -/
structure Layout where
  /-- The lines with their ends. -/
  ended : List EndedLine
  /-- What stands behind the last line end. -/
  rest : Text
  /-- The line ends stay apart. -/
  apart : ended.IsChain EndedLine.StaysApart
  /-- There is no line break in the rest. -/
  unbroken : Unbroken rest

/-- Lines written with their ends, and the rest behind them. -/
def written (ended : List EndedLine) (rest : Text) : Text :=
  ended.flatMap (fun l => l.text ++ l.ending.text) ++ rest

/-- The text of a layout. -/
def Layout.text (l : Layout) : Text := written l.ended l.rest

/-- Two layouts with the same lines and perhaps different line ends. -/
def Layout.SameLines (l m : Layout) : Prop :=
  l.ended.map (·.text) = m.ended.map (·.text) ∧ l.rest = m.rest

/-- A written list of lines is the first one, what ends it, and the rest. -/
lemma written_cons (l : EndedLine) (ls : List EndedLine) (rest : Text) :
    written (l :: ls) rest = l.text ++ (l.ending.text ++ written ls rest) := by
  unfold written
  rw [List.flatMap_cons, List.append_assoc, List.append_assoc]

/-- A line end ends a line, unless it is a carriage return before a line feed. -/
lemma lines_ending_append (e : LineEnd) {t : Text}
    (h : ¬(e = .carriageReturn ∧ t.head? = some '\n')) : lines (e.text ++ t) = [] :: lines t := by
  cases e with
  | carriageReturn =>
      show lines ('\r' :: t) = [] :: lines t
      rw [lines]
      · rfl
      · rintro u - rfl
        exact h ⟨rfl, rfl⟩
  | _ => rfl

/-- A text without a line break comes before the first line of what follows. -/
lemma lines_unbroken_append {l : Text} (hl : Unbroken l) {t : Text} {ls : List Text}
    (ht : lines t = [] :: ls) : lines (l ++ t) = l :: ls := by
  induction l with
  | nil => exact ht
  | cons c l ih =>
      obtain ⟨hc, hl⟩ := List.forall_mem_cons.mp hl
      rw [List.cons_append, lines_cons_of_unbroken hc, ih hl]
      rfl

/-- A text without a line break is one line, or none if it is empty. -/
lemma lines_of_unbroken {t : Text} (h : Unbroken t) : lines t = if t = [] then [] else [t] := by
  induction t with
  | nil => rfl
  | cons c t ih =>
      obtain ⟨hc, ht⟩ := List.forall_mem_cons.mp h
      rw [lines_cons_of_unbroken hc, ih ht, if_neg (List.cons_ne_nil c t)]
      by_cases hnil : t = []
      · rw [if_pos hnil, hnil]
        rfl
      · rw [if_neg hnil]
        rfl

/-- Only the line feed starts with a line feed. -/
lemma LineEnd.eq_lineFeed {e : LineEnd} {t : Text} (h : (e.text ++ t).head? = some '\n') :
    e = .lineFeed := by
  cases e with
  | lineFeed => rfl
  | _ => cases h

/-- A text that starts with a line feed starts with an empty line that it ends. -/
lemma head?_written {ls : List EndedLine} {rest : Text} (hrest : Unbroken rest)
    (h : (written ls rest).head? = some '\n') :
    ∃ m ms, ls = m :: ms ∧ m.text = [] ∧ m.ending = .lineFeed := by
  have hbreak : ∀ c : Char, isLineBreak c = false → c ≠ '\n' := by
    rintro c hc rfl
    cases hc
  cases ls with
  | nil =>
      have hmem : '\n' ∈ rest := List.mem_of_head? h
      exact absurd rfl (hbreak '\n' (hrest '\n' hmem))
  | cons m ms =>
      refine ⟨m, ms, rfl, ?_⟩
      rw [written_cons] at h
      rcases htext : m.text with _ | ⟨c, t⟩
      · rw [htext, List.nil_append] at h
        exact ⟨rfl, LineEnd.eq_lineFeed h⟩
      · rw [htext] at h
        have hc : c ∈ m.text := htext ▸ List.mem_cons_self
        exact absurd (Option.some.inj h) (hbreak c (m.unbroken c hc))

/-- The lines of a written text are the texts it was written from. -/
lemma lines_written {ls : List EndedLine} (hls : ls.IsChain EndedLine.StaysApart) {rest : Text}
    (hrest : Unbroken rest) :
    lines (written ls rest) = ls.map (·.text) ++ if rest = [] then [] else [rest] := by
  induction ls with
  | nil => exact lines_of_unbroken hrest
  | cons l ls ih =>
      have happart : ¬(l.ending = .carriageReturn ∧ (written ls rest).head? = some '\n') := by
        rintro ⟨hending, hhead⟩
        obtain ⟨m, ms, rfl, htext, hfeed⟩ := head?_written hrest hhead
        exact hls.rel ⟨hending, htext, hfeed⟩
      rw [written_cons, lines_unbroken_append l.unbroken (lines_ending_append l.ending happart),
        ih hls.tail]
      rfl

/-- The lines of a text are those of its layout. -/
lemma Layout.lines_text (l : Layout) :
    lines l.text = l.ended.map (·.text) ++ if l.rest = [] then [] else [l.rest] :=
  lines_written l.apart l.unbroken

/-- Layouts with the same texts have the same lines. -/
lemma Layout.SameLines.lines_eq {l m : Layout} (h : l.SameLines m) :
    lines l.text = lines m.text := by
  rw [l.lines_text, m.lines_text, h.1, h.2]

/-! ### The layout of a text -/

/-- Each line break is a line end on its own. -/
lemma exists_lineEnd {c : Char} (h : isLineBreak c = true) : ∃ e : LineEnd, e.text = [c] := by
  have hcode : c.toNat = 0x0a ∨ c.toNat = 0x0b ∨ c.toNat = 0x0c ∨ c.toNat = 0x0d ∨
      c.toNat = 0x1c ∨ c.toNat = 0x1d ∨ c.toNat = 0x1e ∨ c.toNat = 0x85 ∨ c.toNat = 0x2028 ∨
      c.toNat = 0x2029 := by
    simp only [isLineBreak, Bool.or_eq_true, Bool.and_eq_true, decide_eq_true_iff] at h
    omega
  rw [← Char.ofNat_toNat c]
  rcases hcode with h | h | h | h | h | h | h | h | h | h <;> rw [h]
  · exact ⟨.lineFeed, rfl⟩
  · exact ⟨.lineTabulation, rfl⟩
  · exact ⟨.formFeed, rfl⟩
  · exact ⟨.carriageReturn, rfl⟩
  · exact ⟨.fileSeparator, rfl⟩
  · exact ⟨.groupSeparator, rfl⟩
  · exact ⟨.recordSeparator, rfl⟩
  · exact ⟨.nextLine, rfl⟩
  · exact ⟨.lineSeparator, rfl⟩
  · exact ⟨.paragraphSeparator, rfl⟩

/-- An empty line in front of a text with a layout. -/
lemma Layout.exists_ending_append (l : Layout) (e : LineEnd)
    (h : ¬(e = .carriageReturn ∧ l.text.head? = some '\n')) :
    ∃ m : Layout, m.text = e.text ++ l.text := by
  refine ⟨⟨⟨[], e, List.forall_mem_nil _⟩ :: l.ended, l.rest, ?_, l.unbroken⟩, ?_⟩
  · refine List.isChain_cons.mpr ⟨?_, l.apart⟩
    rintro m hm ⟨he, htext, hfeed⟩
    apply h
    refine ⟨he, ?_⟩
    obtain ⟨ms, hms⟩ := List.head?_eq_some_iff.mp hm
    rw [Layout.text, hms, written_cons, htext, hfeed]
    rfl
  · exact written_cons _ _ _

/-- A character that ends no line in front of a text with a layout. -/
lemma Layout.exists_cons (l : Layout) {c : Char} (h : isLineBreak c = false) :
    ∃ m : Layout, m.text = c :: l.text := by
  obtain ⟨ended, rest, apart, unbroken⟩ := l
  cases ended with
  | nil => exact ⟨⟨[], c :: rest, .nil, List.forall_mem_cons.mpr ⟨h, unbroken⟩⟩, rfl⟩
  | cons m ms =>
      have hunbroken : Unbroken (c :: m.text) := List.forall_mem_cons.mpr ⟨h, m.unbroken⟩
      obtain ⟨hfirst, hrest⟩ := List.isChain_cons.mp apart
      refine ⟨⟨⟨c :: m.text, m.ending, hunbroken⟩ :: ms, rest, ?_, unbroken⟩, ?_⟩
      · exact List.isChain_cons.mpr ⟨fun other hother => hfirst other hother, hrest⟩
      · rw [Layout.text, Layout.text, written_cons, written_cons]
        rfl

/-- Every text has a layout. -/
theorem exists_layout (t : Text) : ∃ l : Layout, l.text = t := by
  fun_induction lines t with
  | case1 => exact ⟨⟨[], [], .nil, List.forall_mem_nil _⟩, rfl⟩
  | case2 t ih =>
      obtain ⟨l, rfl⟩ := ih
      exact l.exists_ending_append .returnAndFeed (fun h => absurd h.1 (by decide))
  | case3 c t hne hbreak ih =>
      obtain ⟨l, rfl⟩ := ih
      obtain ⟨e, he⟩ := exists_lineEnd hbreak
      rw [← List.singleton_append, ← he]
      refine l.exists_ending_append e ?_
      rintro ⟨rfl, hhead⟩
      obtain ⟨u, hu⟩ := List.head?_eq_some_iff.mp hhead
      exact hne u (List.head_eq_of_cons_eq he).symm hu
  | case4 c t hne hbreak ih =>
      obtain ⟨l, rfl⟩ := ih
      exact l.exists_cons (by simpa using hbreak)

/-- The translation of line ends in a file leaves its lines as they are. -/
lemma lines_unifyBreaks (t : Text) : lines (unifyBreaks t) = lines t := by
  fun_induction unifyBreaks t with
  | case1 => rfl
  | case2 t ih =>
      show [] :: lines (unifyBreaks t) = [] :: lines t
      rw [ih]
  | case3 c t hne ih =>
      rw [lines.eq_3 c t hne]
      by_cases hc : c = '\r'
      · subst hc
        show [] :: lines (unifyBreaks t) = [] :: lines t
        rw [ih]
      · rw [if_neg hc, lines.eq_3 c _ (fun u h => absurd h hc), ih]

/-! ### Lines without breaks -/

/-- The lines of a text have no line breaks. -/
lemma unbroken_of_mem_lines (t : Text) : ∀ line ∈ lines t, Unbroken line := by
  fun_induction lines t with
  | case1 => exact List.forall_mem_nil _
  | case2 t ih => exact List.forall_mem_cons.mpr ⟨List.forall_mem_nil _, ih⟩
  | case3 c t hne hbreak ih => exact List.forall_mem_cons.mpr ⟨List.forall_mem_nil _, ih⟩
  | case4 c t hne hbreak ih =>
      have hc : isLineBreak c = false := by simpa using hbreak
      rcases hlines : lines t with _ | ⟨line, rest⟩
      · rintro _ (_ | ⟨_, ⟨⟩⟩)
        exact List.forall_mem_cons.mpr ⟨hc, List.forall_mem_nil _⟩
      · rw [hlines] at ih
        obtain ⟨hline, hrest⟩ := List.forall_mem_cons.mp ih
        exact List.forall_mem_cons.mpr ⟨List.forall_mem_cons.mpr ⟨hc, hline⟩, hrest⟩

/-- A pass that puts in no line break leaves a line one line. What it takes does not matter. -/
lemma unbroken_substituteFrom {rule : Rule}
    (h : ∀ {before text hit}, rule before text = some hit → Unbroken hit.replacement) {t : Text}
    (ht : Unbroken t) (before : Option Char) (skip : Nat) :
    Unbroken (substituteFrom rule before skip t) := by
  induction t generalizing before skip with
  | nil => exact List.forall_mem_nil _
  | cons c t ih =>
      obtain ⟨hc, ht⟩ := List.forall_mem_cons.mp ht
      cases skip with
      | succ skip => exact ih ht (some c) skip
      | zero =>
          rcases hhit : rule before (c :: t) with _ | ⟨_ | n, replacement⟩ <;>
            simp only [substituteFrom, hhit]
          · exact List.forall_mem_cons.mpr ⟨hc, ih ht (some c) 0⟩
          · exact (h hhit).append (List.forall_mem_cons.mpr ⟨hc, ih ht (some c) 0⟩)
          · exact (h hhit).append (ih ht (some c) n)

end Text

open Text (Unbroken)

/-! ### What is read of a source -/

/-- Of a source, nothing but its lines is read. -/
theorem lowerPair_eq_of_lines {fragment fragment' vertex vertex' : Text}
    (hfragment : Text.lines fragment' = Text.lines fragment)
    (hvertex : Text.lines vertex' = Text.lines vertex) (metadata : Metadata)
    (defines : List Text) :
    lowerPair fragment' vertex' metadata defines = lowerPair fragment vertex metadata defines := by
  have hcollect : ∀ kind stage, Declaration.collect vertex' kind stage =
      Declaration.collect vertex kind stage := by
    intro kind stage
    unfold Declaration.collect
    rw [hvertex]
  have hsamplers : Sampler.collect fragment' = Sampler.collect fragment := by
    unfold Sampler.collect
    rw [hfragment]
  have hrun : ∀ (s : Lowering) {source source' : Text}, Text.lines source' = Text.lines source →
      s.run source' = s.run source := by
    intro s source source' h
    unfold Lowering.run Lowering.entryNotes Lowering.lower
    rw [h]
  unfold lowerPair
  simp only [hcollect, hsamplers, hrun _ hvertex, hrun _ hfragment]

/-! ### The lines of a stage -/

namespace Vocabulary

/-- Exchanging words puts no line break in. -/
lemma unbroken_substitute_wordRule {names : List (Text × Text)}
    (hnames : ∀ entry ∈ names, Unbroken entry.2) {line : Text} (h : Unbroken line) :
    Unbroken (Text.substitute (wordRule names) line) := by
  apply Text.unbroken_substituteFrom _ h
  intro before text hit hhit
  obtain ⟨entry, hentry, rest, -, rfl⟩ := wordRule_hit hhit
  exact hnames entry hentry

/-- Mapping types puts no line break in. -/
lemma unbroken_mapTypes {line : Text} (h : Unbroken line) : Unbroken (mapTypes line) :=
  unbroken_substitute_wordRule (by decide) h

/-- Mapping a line puts no line break in. -/
lemma unbroken_mapLine (stage : Stage) {line : Text} (h : Unbroken line) :
    Unbroken (mapLine stage line) := by
  have hmatrix : Unbroken (mapMatrixConstructors line) := by
    apply Text.unbroken_substituteFrom _ h
    intro before text hit hhit
    obtain ⟨rest, -, rfl⟩ := matrixRule_hit hhit
    show Unbroken Metal.matrixHelper
    decide
  cases stage with
  | vertex => exact unbroken_mapTypes hmatrix
  | fragment => exact unbroken_substitute_wordRule (by decide) (unbroken_mapTypes hmatrix)

end Vocabulary

/-- An access has no line break. -/
lemma IsAccess.unbroken {access : Text} (h : IsAccess access) : Unbroken access := by
  rcases h with h | ⟨owner, field, howner, hfield, rfl⟩
  · exact Text.unbroken_of_isIdentifier h
  · have hpoint : Unbroken "." := by decide
    exact ((Text.unbroken_of_isIdentifier howner).append hpoint).append
      (Text.unbroken_of_isIdentifier hfield)

namespace Lowering

open EntryPoint (BoundTexture)

variable {s : Lowering} {pairs : List (Text × Text)} {source : Text}

/-- Sampling textures puts no line break in. -/
lemma unbroken_samplingPasses {textures : List BoundTexture}
    (h : ∀ texture ∈ textures, Text.isIdentifier texture.name = true) {line : Text}
    (hline : Unbroken line) : Unbroken (samplingPasses textures line) := by
  induction textures generalizing line with
  | nil => exact hline
  | cons texture textures ih =>
      obtain ⟨htexture, htextures⟩ := List.forall_mem_cons.mp h
      apply ih htextures
      apply Text.unbroken_substituteFrom _ hline
      intro before text hit hhit
      obtain ⟨function, -, call, rest, -, -, rfl, -⟩ := Sampling.plainRule_hit hhit
      have hname := Text.unbroken_of_isIdentifier htexture
      exact ((hname.append (by decide)).append hname).append (by decide)

/-- Lowering a body line puts no line break in. -/
lemma Named.unbroken_bodyLine (h : s.Named pairs) {line : Text} (hline : Unbroken line) :
    Unbroken (s.bodyLine pairs line) := by
  apply unbroken_samplingPasses h.texture
  apply Text.unbroken_substituteFrom _ (Vocabulary.unbroken_mapLine s.stage hline)
  intro before text hit hhit
  obtain ⟨pair, hpair, rest, -, -, hname | haccess⟩ := FieldTable.rule_hit hhit
  · exact hname ▸ Text.unbroken_of_isIdentifier (h.name pair (FieldTable.mem_longestFirst.mp hpair))
  · exact haccess ▸ (h.access pair (FieldTable.mem_longestFirst.mp hpair)).unbroken

/-- What is put out for a body line has no line break. -/
lemma Named.unbroken_of_lowerBodyLine (h : s.Named pairs) {line out : Text} (hline : Unbroken line)
    (hout : s.lowerBodyLine line = .ok out) : Unbroken out := by
  obtain rfl := h.plain.lowerBodyLine_eq_ok_iff.mp hout
  exact h.unbroken_bodyLine hline

/-- A written number has no line break. -/
lemma unbroken_ofNat (n : Nat) : Unbroken (Text.ofNat n) := by
  apply Text.unbroken_of_no_blank
  intro c hc
  exact Text.isBlank_of_isWordChar (Text.isWordChar_of_isDigit (Text.isDigit_of_mem_ofNat hc))

/-- The lines of a signature have no line breaks. -/
lemma Named.unbroken_signature (h : s.Named pairs) {line : Text} (hline : line ∈ s.signature) :
    Unbroken line := by
  rcases signature_cases hline with hfixed | ⟨parameter, hparameter, hline⟩
  · have hall : ∀ line ∈ fixedLines, Unbroken line := by decide
    exact hall line hfixed
  · have hparameter : Unbroken parameter := by
      obtain ⟨texture, htexture, n, rfl | rfl⟩ := mem_textureParameters hparameter
      · have hkind : Unbroken texture.kind.metalType := by cases texture.kind <;> decide
        have hname := Text.unbroken_of_isIdentifier (h.texture texture htexture)
        simp only [Text.unbroken_append, hkind, hname, unbroken_ofNat]
        decide
      · have hname := Text.unbroken_of_isIdentifier (h.texture texture htexture)
        simp only [Text.unbroken_append, hname, unbroken_ofNat]
        decide
    rcases hline with rfl | rfl
    · exact hparameter
    · exact hparameter.append (by decide)

/-- No line that a stage puts out has a break in it. -/
theorem Named.unbroken_of_origin (h : s.Named pairs) {out : Text} (horigin : Origin s source out) :
    Unbroken out := by
  cases horigin with
  | mapped hline =>
      exact Vocabulary.unbroken_mapLine s.stage (Text.unbroken_of_mem_lines source _ hline)
  | signature hline => exact h.unbroken_signature hline
  | lowered hline hout =>
      exact h.unbroken_of_lowerBodyLine (Text.unbroken_of_mem_lines source _ hline) hout
  | statement hline hpart hout =>
      have hline := Text.unbroken_of_mem_lines source _ hline
      refine Text.Unbroken.append (by decide) (h.unbroken_of_lowerBodyLine ?_ hout)
      exact fun c hc => hline c (hpart c hc)
  | returned =>
      unfold returnLine
      cases s.stage <;> decide
  | rest hline hpart hclosed =>
      have hline := Text.unbroken_of_mem_lines source _ hline
      exact List.forall_mem_cons.mpr ⟨rfl, fun c hc => hline c (hpart c hc)⟩

end Lowering

/-! ### The lines around the stages -/

namespace Metal

/-- The line of a field has no line break if its parts have none. -/
lemma Field.unbroken_line {f : Field} (htype : Unbroken f.type) (hname : Unbroken f.name)
    (htag : ∀ tag, f.tag = some tag → Unbroken tag) : Unbroken f.line := by
  have hfront : Unbroken ("    " ++ f.type ++ " " ++ f.name) := by
    simp only [Text.unbroken_append, htype, hname]
    decide
  unfold Field.line
  split
  · exact hfront.append (by decide)
  · exact hfront.append (by decide)
  next tag _ heq =>
    have hspace : Unbroken " " := by decide
    exact ((hfront.append hspace).append (htag tag heq)).append (by decide)

/-- The lines of a struct have no line breaks if its name and its fields have none. -/
lemma Struct.unbroken_lines {s : Struct} (hname : Unbroken s.name)
    (hfields : ∀ f ∈ s.fields, Unbroken f.line) : ∀ line ∈ s.lines, Unbroken line := by
  have hopening : Unbroken ("struct " ++ s.name ++ " \x7b") := by
    simp only [Text.unbroken_append, hname]
    decide
  refine List.forall_mem_append.mpr ⟨List.forall_mem_cons.mpr ⟨hopening, ?_⟩, by decide⟩
  intro line hline
  obtain ⟨f, hf, rfl⟩ := List.mem_map.mp hline
  exact hfields f hf

/-- The Metal types of uniforms have no line breaks. -/
lemma unbroken_metalType {u : Uniform} {type : Text} (h : u.metalType = .ok type) :
    Unbroken type := by
  unfold Uniform.metalType at h
  split at h
  next kind _ =>
    split at h
    next hkind =>
      obtain rfl := Except.ok.inj h
      cases kind <;> cases hkind <;> decide
    next => cases h
  next =>
    split at h <;> cases h

/-- The fields of uniforms are named and typed without line breaks. -/
lemma unbroken_uniforms {metadata : Metadata} {struct : Struct}
    (hnames : ∀ u ∈ metadata.uniforms, IsIdentifierName u.name)
    (h : uniforms metadata = .ok struct) : ∀ line ∈ struct.lines, Unbroken line := by
  obtain ⟨fields, hfields, hstruct⟩ := bind_eq_ok.mp h
  obtain rfl := Except.ok.inj hstruct
  have hname : Unbroken uniformsStruct := by decide
  refine Struct.unbroken_lines hname fun f hf => ?_
  obtain ⟨u, hu, hfield⟩ := mem_of_mapM_eq_ok hfields hf
  obtain ⟨t, ht, hidentifier⟩ := hnames u hu
  rcases htype : u.metalType with e | type
  · rw [htype] at hfield
    cases hfield
  · rw [htype, ht] at hfield
    obtain rfl := Except.ok.inj hfield
    exact Field.unbroken_line (unbroken_metalType htype) (Text.unbroken_of_isIdentifier hidentifier)
      (by rintro _ ⟨⟩)

/-- The line of a declared field has no line break. -/
lemma unbroken_ofDeclaration {source : Text} {kind : DeclarationKind} {stage : Stage}
    {ds : List Declaration} (h : (Declaration.collect source kind stage).result = .ok ds) :
    ∀ d ∈ ds, Unbroken (Field.ofDeclaration d).line := by
  intro d hd
  obtain ⟨line, i, -, hread⟩ :=
    Declaration.exists_reads_of_mem (Declaration.collectFrom_eq_ok_iff.mp h) hd
  obtain ⟨comment, hform, -⟩ := hread.exists_comment
  have htype := Vocabulary.unbroken_mapTypes (Text.unbroken_of_isIdentifier hform.type_identifier)
  exact Field.unbroken_line htype (Text.unbroken_of_isIdentifier hform.name_identifier)
    fun tag htag => hread.unbroken_tag htag

/-- The lines of the vertex struct have no line breaks. -/
lemma unbroken_vertexInputs {source : Text} {attributes : List Declaration}
    (h : (Declaration.collect source .attribute .vertex).result = .ok attributes) :
    ∀ line ∈ (vertexInputs attributes).lines, Unbroken line := by
  have hname : Unbroken vertexStruct := by decide
  refine Struct.unbroken_lines hname fun f hf => ?_
  obtain ⟨d, hd, rfl⟩ := List.mem_map.mp hf
  exact unbroken_ofDeclaration h d hd

/-- The lines of the rasterizer struct have no line breaks. -/
lemma unbroken_rasterizer {source : Text} {varyings : List Declaration}
    (h : (Declaration.collect source .varying .vertex).result = .ok varyings) :
    ∀ line ∈ (rasterizer varyings).lines, Unbroken line := by
  have hname : Unbroken rasterizerStruct := by decide
  refine Struct.unbroken_lines hname fun f hf => ?_
  rcases List.mem_cons.mp hf with rfl | hf
  · decide
  · obtain ⟨d, hd, rfl⟩ := List.mem_map.mp hf
    exact unbroken_ofDeclaration h d hd

/-- The lines before the structs have no line breaks if the definitions have none. -/
lemma unbroken_head {defines : List Text} (h : ∀ symbol ∈ defines, Unbroken symbol) :
    ∀ line ∈ head defines, Unbroken line := by
  have hdefinition : ∀ line ∈ defines.map definition, Unbroken line := by
    intro line hline
    obtain ⟨symbol, hsymbol, rfl⟩ := List.mem_map.mp hline
    unfold definition
    simp only [Text.unbroken_append, h symbol hsymbol]
    decide
  unfold head
  simp only [List.forall_mem_append]
  exact ⟨⟨⟨by decide, hdefinition⟩, by decide⟩, by decide⟩

end Metal

/-! ### The whole result -/

/-- Declared names are identifiers. -/
lemma isIdentifier_of_collect {source : Text} {kind : DeclarationKind} {stage : Stage}
    {ds : List Declaration} (h : (Declaration.collect source kind stage).result = .ok ds) :
    ∀ name ∈ ds.map (·.name), Text.isIdentifier name = true := by
  intro name hname
  obtain ⟨d, hd, rfl⟩ := List.mem_map.mp hname
  obtain ⟨line, i, -, hread⟩ :=
    Declaration.exists_reads_of_mem (Declaration.collectFrom_eq_ok_iff.mp h) hd
  obtain ⟨comment, hform, -⟩ := hread.exists_comment
  exact hform.name_identifier

/-- A result for identifiers is made of lines without breaks. -/
lemma exists_lines_of_lowerPair {fragment vertex : Text} {metadata : Metadata} {defines : List Text}
    {out : Text} (huniforms : ∀ u ∈ metadata.uniforms, IsIdentifierName u.name)
    (himages : ∀ image ∈ metadata.images, IsIdentifierName image)
    (hdefines : ∀ symbol ∈ defines, Unbroken symbol)
    (h : (lowerPair fragment vertex metadata defines).result = .ok out) :
    ∃ lines, out = code lines ∧ ∀ line ∈ lines, Unbroken line := by
  obtain ⟨attributes, varyings, types, uniforms, vertexStage, fragmentStage, vertexLines,
    fragmentLines, hattributes, hvaryings, hstruct, hvertexStage, hfragmentStage, hvertexLines,
    hfragmentLines, rfl⟩ := exists_parts_of_lowerPair h
  have hvaryingNames := isIdentifier_of_collect hvaryings
  obtain ⟨_, hvertexNamed⟩ := Lowering.OfIdentifiers.exists_named
    (.vertex metadata _ _ huniforms (isIdentifier_of_collect hattributes) hvaryingNames
      hvertexStage)
  obtain ⟨_, hfragmentNamed⟩ := Lowering.OfIdentifiers.exists_named
    (.fragment metadata _ types huniforms hvaryingNames himages hfragmentStage)
  refine ⟨_, rfl, ?_⟩
  simp only [List.forall_mem_append]
  exact ⟨⟨⟨⟨⟨Metal.unbroken_head hdefines, Metal.unbroken_uniforms huniforms hstruct⟩,
    Metal.unbroken_vertexInputs hattributes⟩, Metal.unbroken_rasterizer hvaryings⟩,
    fun line hline =>
      hvertexNamed.unbroken_of_origin (hvertexNamed.origin_of_mem hvertexLines hline)⟩,
    fun line hline =>
      hfragmentNamed.unbroken_of_origin (hfragmentNamed.origin_of_mem hfragmentLines hline)⟩

/-- **Line ends make no difference.** Both sources have layouts, and with any other line ends in
them the lowering gives the same result or fails in the same way. A job that reads the sources from
files, where line ends are translated, gives what the sources give as they are. The result for
identifiers and for definitions without line breaks has no line end but the line feed. -/
theorem lowerPair_line_ends (fragment vertex : Text) (metadata : Metadata) (defines : List Text) :
    ((∃ f : Text.Layout, f.text = fragment) ∧ (∃ v : Text.Layout, v.text = vertex) ∧
      ∀ f f' v v' : Text.Layout, f.text = fragment → v.text = vertex → f'.SameLines f →
        v'.SameLines v →
        lowerPair f'.text v'.text metadata defines = lowerPair fragment vertex metadata defines) ∧
    (∀ (job : Job) (room : Nat) (read : Job.Reader), job.defines = defines →
      job.givenMetadata room read = .ok metadata → read job.fragment = .ok (encodeText fragment) →
      read job.vertex = .ok (encodeText vertex) →
        (job.load room read).result =
          (lowerPair fragment vertex metadata defines).result.mapError .lowering) ∧
    ((∀ u ∈ metadata.uniforms, IsIdentifierName u.name) →
      (∀ image ∈ metadata.images, IsIdentifierName image) →
      (∀ symbol ∈ defines, Unbroken symbol) →
      ∀ out, (lowerPair fragment vertex metadata defines).result = .ok out →
        ∀ c ∈ out, Text.isLineBreak c = true → c = '\n') := by
  refine ⟨⟨Text.exists_layout fragment, Text.exists_layout vertex, ?_⟩, ?_, ?_⟩
  · rintro f f' v v' rfl rfl hfragment hvertex
    exact lowerPair_eq_of_lines hfragment.lines_eq hvertex.lines_eq metadata defines
  · rintro job room read rfl hmetadata hfragment hvertex
    have hread : ∀ {path : Path} {t : Text}, read path = .ok (encodeText t) →
        Job.readText read path = .ok (Text.unifyBreaks t) := by
      intro path t hpath
      simp only [Job.readText, hpath, decodeText_encodeText]
    rw [Job.load_result_of_reads hmetadata (hread hvertex) (hread hfragment),
      lowerPair_eq_of_lines (Text.lines_unifyBreaks fragment) (Text.lines_unifyBreaks vertex)]
  · intro huniforms himages hdefines out hout c hc hbreak
    obtain ⟨lines, rfl, hlines⟩ := exists_lines_of_lowerPair huniforms himages hdefines hout
    obtain ⟨line, hline, hc⟩ := List.mem_flatMap.mp hc
    rcases List.mem_append.mp hc with hc | hc
    · rw [hlines line hline c hc] at hbreak
      cases hbreak
    · exact List.mem_singleton.mp hc

/-- A carriage return, a line separator before an empty line, and a carriage return with a line feed
in place of line feeds. -/
theorem lowerPair_line_ends_mixed :
    ∃ out : Text,
      (lowerPair "void main() \x7b\n\x7d" "varying vec2 u;\n\nvoid main() \x7b\n\x7d" ⟨[], []⟩
        []).result = .ok out ∧
      (lowerPair "void main() \x7b\r\x7d" "varying vec2 u;\u2028\nvoid main() \x7b\r\n\x7d" ⟨[], []⟩
        []).result = .ok out ∧
      ∀ c ∈ out, Text.isLineBreak c = true → c = '\n' := by
  obtain ⟨⟨-, -, hends⟩, -, hfeeds⟩ := lowerPair_line_ends "void main() \x7b\n\x7d"
    "varying vec2 u;\n\nvoid main() \x7b\n\x7d" ⟨[], []⟩ []
  have hmain : Unbroken "void main() \x7b" := by decide
  have hvarying : Unbroken "varying vec2 u;" := by decide
  have hnil : Unbroken [] := List.forall_mem_nil _
  have hbrace : Unbroken "\x7d" := by decide
  have hsame := hends ⟨[⟨_, .lineFeed, hmain⟩], "\x7d", .singleton _, hbrace⟩
    ⟨[⟨_, .carriageReturn, hmain⟩], "\x7d", .singleton _, hbrace⟩
    ⟨[⟨_, .lineFeed, hvarying⟩, ⟨[], .lineFeed, hnil⟩, ⟨_, .lineFeed, hmain⟩], "\x7d",
      by simp [Text.EndedLine.StaysApart], hbrace⟩
    ⟨[⟨_, .lineSeparator, hvarying⟩, ⟨[], .lineFeed, hnil⟩, ⟨_, .returnAndFeed, hmain⟩], "\x7d",
      by simp [Text.EndedLine.StaysApart], hbrace⟩ rfl rfl ⟨rfl, rfl⟩ ⟨rfl, rfl⟩
  refine ⟨_, rfl, ?_, ?_⟩
  · exact (congrArg Traced.result hsame).trans rfl
  · exact hfeeds (by simp) (by simp) (by simp) _ rfl

end MetalLowering
