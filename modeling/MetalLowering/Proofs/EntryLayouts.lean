import MetalLowering.Proofs.BraceBalance
import MetalLowering.Proofs.Indentation
import MetalLowering.Proofs.ReturnLines

/-!
# The layouts of an entry point

An entry point with one statement in it can be written on one line, with the statement on a line of
its own, and in both ways with the opening brace on the line below the mark (`BodyLayout`). Main
statement: all four are lowered to the same lines (`lower_layouts`).

Where the statement shares a line with the braces, it is cut out of the text behind the opening
brace (`Named.openingBlock_statement`). On a line of its own it is lowered with its indent, which no
pass sees (`Named.lowerLines_statement`).
-/

namespace MetalLowering

namespace Text

/-! ### Lines written one below the other -/

/-- A text without line breaks. -/
def Unbroken (t : Text) : Prop := ∀ c ∈ t, isLineBreak c = false

instance (t : Text) : Decidable (Unbroken t) := List.decidableBAll _ t

/-- A line break is a blank. -/
lemma isBlank_of_isLineBreak {c : Char} (h : isLineBreak c = true) : isBlank c = true := by
  simp only [isLineBreak, Bool.or_eq_true, Bool.and_eq_true, decide_eq_true_iff] at h
  unfold isBlank
  by_cases hascii : c.toNat < 0x80
  · simp only [hascii, if_true, Bool.or_eq_true, Bool.and_eq_true, decide_eq_true_iff]
    omega
  · simp only [hascii, if_false, Bool.or_eq_true, Bool.and_eq_true, decide_eq_true_iff]
    omega

/-- A text without blanks has no line break. -/
lemma unbroken_of_no_blank {t : Text} (h : ∀ c ∈ t, isBlank c = false) : Unbroken t := by
  intro c hc
  by_contra hbreak
  have hblank := isBlank_of_isLineBreak (Bool.not_eq_false _ ▸ hbreak)
  rw [h c hc] at hblank
  cases hblank

/-- Two texts have no line break exactly if neither has one. -/
lemma unbroken_append {t u : Text} : Unbroken (t ++ u) ↔ Unbroken t ∧ Unbroken u :=
  List.forall_mem_append

/-- Texts without line breaks have none together. -/
lemma Unbroken.append {t u : Text} (ht : Unbroken t) (hu : Unbroken u) : Unbroken (t ++ u) :=
  unbroken_append.mpr ⟨ht, hu⟩

/-- An identifier has no line break. -/
lemma unbroken_of_isIdentifier {t : Text} (h : isIdentifier t = true) : Unbroken t :=
  unbroken_of_no_blank (solid_of_isIdentifier h).2

/-- The source with the given lines, each ended by a line feed. -/
def ofLines (ls : List Text) : Text := ls.flatMap (· ++ ['\n'])

/-- A character that breaks no line belongs to the first one. -/
lemma lines_cons_of_unbroken {c : Char} (h : isLineBreak c = false) (t : Text) :
    lines (c :: t) = consFirst c (lines t) := by
  rw [lines]
  · rw [if_neg (by simp [h])]
  · rintro u rfl
    exact absurd h (by decide)

/-- A line feed ends the line before it. -/
lemma lines_append_newline {l : Text} (h : Unbroken l) (rest : Text) :
    lines (l ++ '\n' :: rest) = l :: lines rest := by
  induction l with
  | nil => rfl
  | cons c l ih =>
      obtain ⟨hc, hl⟩ := List.forall_mem_cons.mp h
      rw [List.cons_append, lines_cons_of_unbroken hc, ih hl]
      rfl

/-- Lines written one below the other are the lines of what is written. -/
lemma lines_ofLines {ls : List Text} (h : ∀ l ∈ ls, Unbroken l) : lines (ofLines ls) = ls := by
  induction ls with
  | nil => rfl
  | cons l ls ih =>
      obtain ⟨hl, hls⟩ := List.forall_mem_cons.mp h
      rw [ofLines, List.flatMap_cons, List.append_assoc, List.singleton_append,
        lines_append_newline hl, ← ofLines, ih hls]

/-! ### Trimmed texts -/

/-- Blanks at the start are cut away. -/
lemma trim_blanks_append {b : Text} (hb : Blanks b) (t : Text) : trim (b ++ t) = trim t := by
  rw [trim, trimLeft_blanks_append hb, trim]

/-- A text without outer blanks is left as it is. -/
lemma trim_of_flush {t : Text} (hne : t ≠ []) (ht : Flush t) (ht' : Flush t.reverse) :
    trim t = t := by
  have hnil : Blanks [] := List.forall_mem_nil _
  have h := trim_of_ends hnil hnil hne ht ht'
  rwa [List.nil_append, List.append_nil] at h

end Text

namespace Lowering

open Text (Flush Unbroken)

variable {s : Lowering} {pairs : List (Text × Text)} {t : Text}

/-! ### One statement in four layouts -/

/-- A text that can be the body of an entry point: a line without blanks at its ends, in which as
many braces are closed as opened. -/
structure IsStatement (t : Text) : Prop where
  /-- There is something to put out. -/
  ne_nil : t ≠ []
  /-- The text is one line. -/
  unbroken : Unbroken t
  /-- It starts with no blank. -/
  front : Flush t
  /-- It ends with no blank. -/
  back : Flush t.reverse
  /-- As many braces are closed as opened. -/
  balanced : t.count '\x7b' = t.count '\x7d'

/-- Where the statement of an entry point and its braces stand. -/
inductive BodyLayout
  /-- All on the line of the mark. -/
  | oneLine
  /-- The opening brace on the line of the mark, the statement and the closing brace below. -/
  | block
  /-- The statement between its braces on the line below the mark. -/
  | oneLineBelow
  /-- All on lines of their own. -/
  | blockBelow
  deriving DecidableEq

/-- The lines of an entry point with one statement. -/
def BodyLayout.lines (t : Text) : BodyLayout → List Text
  | .oneLine => ["void main() \x7b " ++ t ++ " \x7d"]
  | .block => ["void main() \x7b", "    " ++ t, "\x7d"]
  | .oneLineBelow => ["void main()", "\x7b " ++ t ++ " \x7d"]
  | .blockBelow => ["void main()", "\x7b", "    " ++ t, "\x7d"]

/-- The lines of a layout of a statement have no line breaks. -/
lemma IsStatement.unbroken_lines (h : IsStatement t) (layout : BodyLayout) :
    ∀ line ∈ layout.lines t, Unbroken line := by
  have hfixed : ∀ before after : Text, Unbroken before → Unbroken after →
      Unbroken (before ++ t ++ after) := fun before after hbefore hafter =>
    List.forall_mem_append.mpr ⟨List.forall_mem_append.mpr ⟨hbefore, h.unbroken⟩, hafter⟩
  have hindent : Unbroken "    " := by decide
  have hindented : Unbroken ("    " ++ t) := List.forall_mem_append.mpr ⟨hindent, h.unbroken⟩
  cases layout with
  | oneLine => exact List.forall_mem_singleton.mpr (hfixed _ _ (by decide) (by decide))
  | block =>
      exact List.forall_mem_cons.mpr
        ⟨by decide, List.forall_mem_cons.mpr ⟨hindented, by decide⟩⟩
  | oneLineBelow =>
      exact List.forall_mem_cons.mpr
        ⟨by decide, List.forall_mem_singleton.mpr (hfixed _ _ (by decide) (by decide))⟩
  | blockBelow =>
      exact List.forall_mem_cons.mpr ⟨by decide, List.forall_mem_cons.mpr
        ⟨by decide, List.forall_mem_cons.mpr ⟨hindented, by decide⟩⟩⟩

/-! ### The statement between its braces -/

/-- What is put out for the body of an entry point with one statement. -/
def bodyWith (s : Lowering) (lowered : Text) : List Text :=
  ["    " ++ lowered, s.returnLine, "\x7d"]

/-- On the line of the opening brace, the statement is what stands before the last closing brace. -/
lemma Named.openingBlock_statement (h : s.Named pairs) (ht : IsStatement t) :
    (s.openingBlock (" " ++ t ++ " \x7d")).lines = s.bodyWith (s.bodyLine pairs t) := by
  have hclosing : t ++ " \x7d".toList = (t ++ [' ']) ++ '\x7d' :: [] := by simp
  have hflush : Flush (t ++ " \x7d".toList) := by
    obtain ⟨c, u, rfl⟩ := List.exists_cons_of_ne_nil ht.ne_nil
    exact Text.flush_cons (ht.front c rfl) _
  have hends : Flush (t ++ " \x7d".toList).reverse := by
    rw [List.reverse_append]
    exact Text.flush_cons (by decide) _
  have htrim : Text.trim (" " ++ t ++ " \x7d") = t ++ " \x7d".toList := by
    rw [List.append_assoc, Text.trim_blanks_append (by decide),
      Text.trim_of_flush (by simp) hflush hends]
  have hcount : (t ++ " \x7d".toList).count '\x7b' < (t ++ " \x7d".toList).count '\x7d' := by
    rw [List.count_append, List.count_append, ht.balanced]
    exact Nat.add_lt_add_left (by decide) _
  have hright : Text.trimRight (t ++ [' ']) = t := by
    rw [Text.trimRight_eq, List.reverse_append, Text.trimLeft_blanks_append (by decide),
      Text.trimLeft_of_flush ht.back, List.reverse_reverse]
  unfold openingBlock
  simp only [htrim, hcount, if_true]
  rw [hclosing, cutAtLastBrace_append List.not_mem_nil]
  simp only [hright]
  rw [append_lines (h.plain.total.statementBlock_failure t), statementBlock, if_neg ht.ne_nil,
    h.plain.lowerBodyLine_eq]
  rfl

/-- On a line of its own, the statement keeps its indent. -/
lemma Named.lowerLines_statement (h : s.Named pairs) (t : Text) :
    (s.lowerLines .body ["    " ++ t, "\x7d"]).lines =
      s.bodyWith (s.bodyLine pairs t) := by
  have hindent : s.bodyLine pairs ("    " ++ t) = "    " ++ s.bodyLine pairs t :=
    h.keepsIndent_bodyLine "    " (by decide) t
  rw [h.plain.total.lowerLines_cons_lines, lowerLine_body, h.bodyBlock_lines, hindent,
    h.lowerLines_closing]
  rfl

/-- From the mark on, each layout gives the signature and the statement. -/
lemma Named.exists_entry_layout (h : s.Named pairs) (ht : IsStatement t) (layout : BodyLayout) :
    ∃ entry after, layout.lines t = entry :: after ∧ isEntryPoint entry = true ∧
      (s.lowerLine .preamble entry).1.lines ++
          (s.lowerLines (s.lowerLine .preamble entry).2 after).lines =
        s.signature ++ s.bodyWith (s.bodyLine pairs t) := by
  have hopened : isEntryPoint "void main() \x7b" = true := by decide
  have hopenedCut : (Text.cutAt "\x7b" ("void main() \x7b" : Text)).2 = some [] := by decide
  have hmark : isEntryPoint "void main()" = true := by decide
  have hmarkCut : (Text.cutAt "\x7b" ("void main()" : Text)).2 = none := by decide
  have hnothing : s.openingBlock [] = ⟨[], none⟩ := rfl
  cases layout with
  | oneLine =>
      have hentry : isEntryPoint ("void main() \x7b " ++ t ++ " \x7d") = true := rfl
      have hcut : (Text.cutAt "\x7b" ("void main() \x7b " ++ t ++ " \x7d" : Text)).2 =
          some (" " ++ t ++ " \x7d") := rfl
      refine ⟨_, [], rfl, hentry, ?_⟩
      rw [lowerLine_entry_of_brace s hentry hcut, h.openingBlock_statement ht]
      exact List.append_nil _
  | block =>
      refine ⟨_, _, rfl, hopened, ?_⟩
      rw [lowerLine_entry_of_brace s hopened hopenedCut, hnothing, h.lowerLines_statement,
        List.append_nil]
  | oneLineBelow =>
      have htrim : Text.trim ("\x7b " ++ t ++ " \x7d" : Text) =
          '\x7b' :: (" " ++ t ++ " \x7d") := by
        have hends : Flush ("\x7b " ++ t ++ " \x7d" : Text).reverse := by
          rw [List.reverse_append]
          exact Text.flush_cons (by decide) _
        have hfront : Flush ("\x7b " ++ t ++ " \x7d") := Text.flush_cons (by decide) _
        rw [Text.trim_of_flush (by simp) hfront hends]
        rfl
      refine ⟨_, _, rfl, hmark, ?_⟩
      rw [lowerLine_entry_of_no_brace s hmark hmarkCut, h.plain.total.lowerLines_cons_lines,
        lowerLine_awaiting_of_brace s htrim, h.openingBlock_statement ht]
      exact congrArg _ (List.append_nil _)
  | blockBelow =>
      have htrim : Text.trim ("\x7b" : Text) = '\x7b' :: [] := by decide
      refine ⟨_, _, rfl, hmark, ?_⟩
      rw [lowerLine_entry_of_no_brace s hmark hmarkCut, h.plain.total.lowerLines_cons_lines,
        lowerLine_awaiting_of_brace s htrim, hnothing, h.lowerLines_statement]
      rfl

/-- A statement is lowered to the same lines in all four layouts of its entry point, whatever comes
before the mark; and for unbroken lines before it there is a source in each layout. -/
theorem lower_layouts (s : Lowering) (before : List Text) (t : Text) (hs : OfIdentifiers s)
    (hbefore : ∀ line ∈ before, isEntryPoint line = false) (ht : IsStatement t) :
    (∃ lowered, s.lowerBodyLine t = .ok lowered ∧
      ∀ (layout : BodyLayout) (source : Text), Text.lines source = before ++ layout.lines t →
        (s.lower source).result = .ok ((before.filter (!isDropped ·)).map s.mapLine ++
          s.signature ++ ["    " ++ lowered, s.returnLine, "\x7d"])) ∧
    ((∀ line ∈ before, Unbroken line) → ∀ layout : BodyLayout,
      Text.lines (Text.ofLines (before ++ layout.lines t)) = before ++ layout.lines t) := by
  obtain ⟨pairs, h⟩ := hs.exists_named
  refine ⟨⟨s.bodyLine pairs t, h.plain.lowerBodyLine_eq t, fun layout source hsource => ?_⟩,
    fun hunbroken layout => ?_⟩
  · obtain ⟨entry, after, hlayout, hentry, hlines⟩ := h.exists_entry_layout ht layout
    rw [lower, hsource, hlayout, h.plain.total.lowerLines_split hbefore hentry, List.append_assoc,
      hlines, List.append_assoc]
    rfl
  · exact Text.lines_ofLines (List.forall_mem_append.mpr ⟨hunbroken, ht.unbroken_lines layout⟩)

/-- A block with a sampling call in it, behind a line that is dropped and one that is kept. -/
theorem lower_layouts_nested_block :
    ∃ front : List Text, ∃ lowered : Text,
      lowered = "if (a) \x7b msl_out_color = t.sample(tSmplr, in.u); \x7d" ∧
      ((ofFragment ⟨[], [.text "t"]⟩ ["u"] [⟨"t", .plane⟩]).lower
        (.ofLines (["varying vec2 u;".toList, "vec2 f();".toList] ++ BodyLayout.oneLine.lines
          "if (a) \x7b gl_FragColor = texture2D(t, u); \x7d"))).result =
        .ok (front ++ ["    " ++ lowered, "    return msl_out_color;".toList, "\x7d".toList]) ∧
      ((ofFragment ⟨[], [.text "t"]⟩ ["u"] [⟨"t", .plane⟩]).lower
        (.ofLines (["varying vec2 u;".toList, "vec2 f();".toList] ++ BodyLayout.blockBelow.lines
          "if (a) \x7b gl_FragColor = texture2D(t, u); \x7d"))).result =
        .ok (front ++ ["    " ++ lowered, "    return msl_out_color;".toList, "\x7d".toList]) := by
  have himages : ∀ image ∈ [Json.Value.text "t"], IsIdentifierName image :=
    List.forall_mem_singleton.mpr ⟨"t", rfl, rfl⟩
  obtain ⟨⟨lowered, hlowered, hlayouts⟩, hsources⟩ :=
    lower_layouts (ofFragment ⟨[], [.text "t"]⟩ ["u"] [⟨"t", .plane⟩])
      ["varying vec2 u;", "vec2 f();"] "if (a) \x7b gl_FragColor = texture2D(t, u); \x7d"
      (.fragment ⟨[], [.text "t"]⟩ ["u"] [] (by simp) (by decide) himages rfl) (by decide)
      ⟨by decide, by decide, Text.flush_cons (by decide) _, Text.flush_cons (by decide) _,
        by decide⟩
  exact ⟨_, lowered, Except.ok.inj (hlowered.symm.trans rfl),
    hlayouts .oneLine _ (hsources (by decide) .oneLine),
    hlayouts .blockBelow _ (hsources (by decide) .blockBelow)⟩

end Lowering

end MetalLowering
