import MetalLowering.Declaration
import MetalLowering.Proofs.Checks
import MetalLowering.Proofs.Identifiers

/-!
# The form of a declaration line

`Form kind line type name comment` says how a declaration is written: the keyword, the type and the
name with blanks between them, a semicolon, and at most a comment. A line that starts with the
keyword is read exactly if it has this form (`parts?_of_form`, `form_of_parts?`), so the lines of a
kind in a source are read up to the first one that has not, or whose slot has too many digits
(`decides_collect`).
-/

namespace MetalLowering.Declaration

open Text (Blanks Gap Solid)

/-- What stands behind the semicolon of a declaration: nothing, or a comment. -/
def Trailer (comment tail : Text) : Prop := tail = [] ∧ comment = [] ∨ tail = "//" ++ comment

/-- A line that declares `name` with `type`. Without a comment, `comment` is empty. -/
structure Form (kind : DeclarationKind) (line type name comment : Text) : Prop where
  /-- The type is an identifier. -/
  type_identifier : Text.isIdentifier type = true
  /-- The name is an identifier. -/
  name_identifier : Text.isIdentifier name = true
  /-- The words of the line and what stands around them. -/
  exists_blanks : ∃ b₀ b₁ b₂ b₃ b₄ tail : Text, Blanks b₀ ∧ Gap b₁ ∧ Gap b₂ ∧ Blanks b₃ ∧
    Blanks b₄ ∧ Trailer comment tail ∧
    line = b₀ ++ kind.keyword ++ (b₁ ++ type ++ (b₂ ++ name ++ b₃)) ++ ';' :: (b₄ ++ tail)

/-! ### Reading a line -/

/-- The keywords are identifiers. -/
lemma isIdentifier_keyword (kind : DeclarationKind) : Text.isIdentifier kind.keyword = true := by
  cases kind <;> decide

/-- Reading a line, step by step: the code before a comment ends with a semicolon after three words,
of which the last two are identifiers. -/
lemma parts?_eq_some_iff_words {line type name : Text} {tag : Option Text} :
    parts? line = some (type, name, tag) ↔
      Text.isIdentifier type = true ∧ Text.isIdentifier name = true ∧
      tag = tagOf ((Text.cutAt "//" line).2.getD []) ∧
      ∃ core word, Text.trim (Text.cutAt "//" line).1 = core ++ [';'] ∧
        Text.words core = [word, type, name] := by
  rcases hcut : Text.cutAt "//" line with ⟨code, comment⟩
  constructor
  · intro h
    simp only [parts?, hcut] at h
    split at h
    next reversed hcode =>
      split at h
      next word type' name' hwords =>
        split_ifs at h with hid
        simp only [Option.some.injEq, Prod.mk.injEq] at h
        obtain ⟨rfl, rfl, rfl⟩ := h
        rw [Bool.and_eq_true] at hid
        refine ⟨hid.1, hid.2, rfl, reversed.reverse, word, ?_, hwords⟩
        rw [← List.reverse_reverse (Text.trim _), hcode, List.reverse_cons]
      next => cases h
    next => cases h
  · rintro ⟨htype, hname, rfl, core, word, hcode, hwords⟩
    have hreverse : (Text.trim code).reverse = ';' :: core.reverse := by
      rw [hcode, List.reverse_append, List.reverse_singleton, List.singleton_append]
    simp only [parts?, hcut, hreverse, List.reverse_reverse, hwords, htype, hname, Bool.and_self,
      if_true]

/-- The code of a declaration holds no slash, so a comment starts behind it. -/
lemma not_mem_code (kind : DeclarationKind) {type name b₀ b₁ b₂ b₃ b₄ : Text}
    (htype : Text.isIdentifier type = true) (hname : Text.isIdentifier name = true)
    (hb₀ : Blanks b₀) (hb₁ : Gap b₁) (hb₂ : Gap b₂) (hb₃ : Blanks b₃) (hb₄ : Blanks b₄) :
    '/' ∉ b₀ ++ kind.keyword ++ (b₁ ++ type ++ (b₂ ++ name ++ b₃)) ++ ';' :: b₄ := by
  have hblank : Text.isBlank '/' = false := by decide
  have hword : Text.isWordChar '/' = false := by decide
  simp [hb₀.not_mem hblank, hb₁.2.not_mem hblank, hb₂.2.not_mem hblank, hb₃.not_mem hblank,
    hb₄.not_mem hblank, Text.not_mem_of_isIdentifier htype hword,
    Text.not_mem_of_isIdentifier hname hword,
    Text.not_mem_of_isIdentifier (isIdentifier_keyword kind) hword]

/-- A line is cut at its comment, if it has one. -/
lemma cutAt_of_trailer {code comment tail : Text} (hcode : '/' ∉ code)
    (htail : Trailer comment tail) :
    (Text.cutAt "//" (code ++ tail)).1 = code ∧
      (Text.cutAt "//" (code ++ tail)).2.getD [] = comment := by
  have hslashes : ("//".toList : Text) = '/' :: ['/'] := rfl
  rcases htail with ⟨rfl, rfl⟩ | rfl
  · simp [hslashes, Text.cutAt_of_not_mem hcode]
  · have hcut := Text.cutAt_append hcode ['/'] comment
    simp only [hslashes, List.cons_append, List.nil_append] at hcut ⊢
    simp [hcut]

/-- A line of the form of a declaration is read as it says. -/
lemma parts?_of_form {kind : DeclarationKind} {line type name comment : Text}
    (h : Form kind line type name comment) : parts? line = some (type, name, tagOf comment) := by
  obtain ⟨htype, hname, b₀, b₁, b₂, b₃, b₄, tail, hb₀, hb₁, hb₂, hb₃, hb₄, htail, rfl⟩ := h
  have hcode := not_mem_code kind htype hname hb₀ hb₁ hb₂ hb₃ hb₄
  have hcut := cutAt_of_trailer hcode htail
  rw [List.append_assoc _ (';' :: b₄), List.cons_append] at hcut
  have hkeyword := Text.solid_of_isIdentifier (isIdentifier_keyword kind)
  refine parts?_eq_some_iff_words.mpr ⟨htype, hname, by rw [hcut.2],
    kind.keyword ++ (b₁ ++ type ++ (b₂ ++ name ++ b₃)), kind.keyword, ?_, ?_⟩
  · rw [hcut.1]
    obtain ⟨c, u, hcu⟩ := List.exists_cons_of_ne_nil hkeyword.1
    have hc : Text.isBlank c = false := hkeyword.2 c (hcu ▸ List.mem_cons_self)
    have htrim := Text.trim_of_ends hb₀ hb₄
      (t := kind.keyword ++ (b₁ ++ type ++ (b₂ ++ name ++ b₃)) ++ [';']) (by simp)
      (by rw [hcu]; exact Text.flush_cons hc _)
      (by rw [List.reverse_append]; exact Text.flush_cons (by decide) _)
    simpa using htrim
  · exact Text.words_eq_three_iff.mpr ⟨hkeyword, Text.solid_of_isIdentifier htype,
      Text.solid_of_isIdentifier hname, [], b₁, b₂, b₃, by simp [Blanks], hb₁, hb₂, hb₃, rfl⟩

/-- A line cut at a comment: its code and a trailer. -/
lemma exists_trailer (line : Text) : ∃ tail,
    Trailer ((Text.cutAt "//" line).2.getD []) tail ∧ line = (Text.cutAt "//" line).1 ++ tail := by
  have hcut := Text.cutAt_eq "//" line
  rcases hrest : (Text.cutAt "//" line).2 with _ | rest
  · rw [hrest] at hcut
    exact ⟨[], Or.inl ⟨rfl, rfl⟩, hcut⟩
  · rw [hrest] at hcut
    exact ⟨"//" ++ rest, Or.inr rfl, hcut⟩

/-- A line with the keyword that is read has the form of a declaration. -/
lemma form_of_parts? {kind : DeclarationKind} {line type name : Text} {tag : Option Text}
    (hstart : startsWith kind line = true) (h : parts? line = some (type, name, tag)) :
    ∃ comment, Form kind line type name comment ∧ tag = tagOf comment := by
  obtain ⟨htype, hname, rfl, core, word, hcode, hwords⟩ := parts?_eq_some_iff_words.mp h
  obtain ⟨hword, -, -, b₀, b₁, b₂, b₃, hb₀, hb₁, hb₂, hb₃, rfl⟩ :=
    Text.words_eq_three_iff.mp hwords
  obtain ⟨tail, htail, hline⟩ := exists_trailer line
  obtain ⟨b, b', hb, hb', htrim⟩ := Text.exists_trim (Text.cutAt "//" line).1
  have hlong : line = b ++ b₀ ++ word ++ (b₁ ++ type ++ (b₂ ++ name ++ b₃)) ++ ';' :: (b' ++ tail) := by
    rw [hcode] at htrim
    rw [hline, htrim]
    simp
  have hblanks : Blanks (b ++ b₀) := by
    intro c hc
    rcases List.mem_append.mp hc with hc | hc
    · exact hb c hc
    · exact hb₀ c hc
  -- the first word of the line is the first word of its code
  have hfirst : ∃ ws, Text.words line = word :: ws := by
    refine ⟨_, Text.words_eq_cons_iff.mpr ⟨b ++ b₀,
      b₁ ++ (type ++ (b₂ ++ name ++ b₃) ++ ';' :: (b' ++ tail)), hblanks, hword,
      hb₁.apart_append _, ?_, rfl⟩⟩
    rw [hlong]
    simp
  obtain ⟨ws, hws⟩ := hfirst
  have hkeyword : word = kind.keyword := by simpa [startsWith, hws] using hstart
  subst hkeyword
  exact ⟨_, ⟨htype, hname, b ++ b₀, b₁, b₂, b₃, b', tail, hblanks, hb₁, hb₂, hb₃, hb', htail,
    hlong⟩, rfl⟩

/-- A line with the keyword is refused exactly if it has not the form of a declaration. -/
lemma parts?_eq_none_iff {kind : DeclarationKind} {line : Text}
    (hstart : startsWith kind line = true) :
    parts? line = none ↔ ¬∃ type name comment, Form kind line type name comment := by
  constructor
  · rintro h ⟨type, name, comment, hform⟩
    rw [parts?_of_form hform] at h
    cases h
  · intro h
    rcases hparts : parts? line with _ | ⟨type, name, tag⟩
    · rfl
    · obtain ⟨comment, hform, -⟩ := form_of_parts? hstart hparts
      exact absurd ⟨type, name, comment, hform⟩ h

/-! ### Scanning a source -/

/-- The digits that give the slot of a declaration with the given comment. -/
def slotDigits (comment : Text) : Text := Text.firstDigits ((tagOf comment).getD [])

/-- A declaration that can be read: it has the form, and its slot is not too long. -/
def WellFormed (kind : DeclarationKind) (line : Text) : Prop :=
  ∃ type name comment, Form kind line type name comment ∧
    (slotDigits comment).length ≤ maxSlotDigits

/-- What is wrong with a declaration on a line. -/
inductive Fault (kind : DeclarationKind) (stage : Stage) (lineNumber : Nat) (line : Text) :
    Failure → Prop
  /-- The line has another form. -/
  | form (h : ¬∃ type name comment, Form kind line type name comment) :
      Fault kind stage lineNumber line (.shader (.malformed kind stage lineNumber line))
  /-- The slot has too many digits. -/
  | slot {type name comment : Text} (hform : Form kind line type name comment)
      (hdigits : maxSlotDigits < (slotDigits comment).length) :
      Fault kind stage lineNumber line (.tooManyDigits (slotDigits comment).length)

/-- There is no slot exactly if it has too many digits. -/
lemma slotOf_eq_error_iff {tag : Option Text} {ordinal : Nat} {e : Failure} :
    slotOf tag ordinal = .error e ↔
      maxSlotDigits < (Text.firstDigits (tag.getD [])).length ∧
        e = .tooManyDigits (Text.firstDigits (tag.getD [])).length := by
  unfold slotOf
  by_cases hnil : Text.firstDigits (tag.getD []) = []
  · simp [hnil]
  · by_cases hlong : maxSlotDigits < (Text.firstDigits (tag.getD [])).length
    · simp [hnil, hlong, eq_comm]
    · simp [hnil, hlong]

/-- A line is a declaration in one way only, as far as it is read. -/
lemma Form.parts_unique {kind : DeclarationKind}
    {line type name comment type' name' comment' : Text}
    (h : Form kind line type name comment) (h' : Form kind line type' name' comment') :
    type = type' ∧ name = name' ∧ tagOf comment = tagOf comment' := by
  have hsame := (parts?_of_form h).symm.trans (parts?_of_form h')
  simpa only [Option.some.injEq, Prod.mk.injEq] using hsame

/-- The comment of a declaration is what the line says, as far as the slot is concerned. -/
lemma slotDigits_eq_of_form {kind : DeclarationKind} {line type name comment type' name' comment' : Text}
    (h : Form kind line type name comment) (h' : Form kind line type' name' comment') :
    slotDigits comment = slotDigits comment' := by
  rw [slotDigits, (h.parts_unique h').2.2, slotDigits]

/-- A declaration can be read exactly if nothing is wrong with it. -/
lemma wellFormed_iff (kind : DeclarationKind) (stage : Stage) (lineNumber : Nat) (line : Text) :
    WellFormed kind line ↔ ∀ e, ¬Fault kind stage lineNumber line e := by
  constructor
  · rintro ⟨type, name, comment, hform, hshort⟩ e (hnone | ⟨hform', hlong⟩)
    · exact hnone ⟨type, name, comment, hform⟩
    · rw [slotDigits_eq_of_form hform' hform] at hlong
      omega
  · intro h
    by_cases hform : ∃ type name comment, Form kind line type name comment
    · obtain ⟨type, name, comment, hform⟩ := hform
      refine ⟨type, name, comment, hform, ?_⟩
      by_contra hlong
      exact h _ (.slot hform (not_le.mp hlong))
    · exact absurd (.form hform) (h _)

/-- A line with the keyword is refused for what is wrong with it. -/
lemma ofLine_eq_error_iff {kind : DeclarationKind} {line : Text}
    (hstart : startsWith kind line = true) (stage : Stage) (lineNumber ordinal : Nat) (e : Failure) :
    ofLine kind stage lineNumber ordinal line = .error e ↔ Fault kind stage lineNumber line e := by
  rcases hparts : parts? line with _ | ⟨type, name, tag⟩
  · have hnone := (parts?_eq_none_iff hstart).mp hparts
    simp only [ofLine, hparts, Except.error.injEq]
    constructor
    · rintro rfl
      exact .form hnone
    · rintro (- | ⟨hform, -⟩)
      · rfl
      · exact absurd ⟨_, _, _, hform⟩ hnone
  · obtain ⟨comment, hform, rfl⟩ := form_of_parts? hstart hparts
    have hslot : ofLine kind stage lineNumber ordinal line = .error e ↔
        slotOf (tagOf comment) ordinal = .error e := by
      simp only [ofLine, hparts]
      cases slotOf (tagOf comment) ordinal <;> simp
    rw [hslot, slotOf_eq_error_iff]
    constructor
    · rintro ⟨hlong, rfl⟩
      exact .slot hform hlong
    · rintro (hnone | ⟨hform', hlong⟩)
      · exact absurd ⟨_, _, _, hform⟩ hnone
      · rw [slotDigits_eq_of_form hform' hform] at hlong ⊢
        exact ⟨hlong, rfl⟩

/-- Reading the declarations of a kind on some lines: a line that starts with the keyword has to be
a declaration, and any other line is passed over. -/
lemma decides_collectFrom (kind : DeclarationKind) (stage : Stage) (lines : List Text)
    (lineNumber ordinal : Nat) :
    Decides (collectFrom kind stage lineNumber ordinal lines).result
      (∀ line ∈ lines, startsWith kind line = true → WellFormed kind line)
      (FirstFault (fun line => startsWith kind line = true → WellFormed kind line)
        (fun n line e => startsWith kind line = true ∧ Fault kind stage n line e)
        lineNumber lines) := by
  induction lines generalizing lineNumber ordinal with
  | nil => exact .scan_nil rfl lineNumber
  | cons line rest ih =>
      by_cases hstart : startsWith kind line = true
      · simp only [collectFrom, hstart, if_true, Traced.result_bind, Traced.result_ofExcept]
        refine .scan_cons (.of_error_iff (fun e => ?_) ?_) fun d _ => (ih _ _).map (d :: ·)
        · rw [ofLine_eq_error_iff hstart, and_iff_right hstart]
        · simpa [hstart] using wellFormed_iff kind stage lineNumber line
      · simp only [collectFrom, hstart]
        exact .scan_skip (fun h => absurd h hstart) (fun e h => hstart h.1) (ih _ _)

/-- Reading the declarations of a kind in a source. -/
lemma decides_collect (source : Text) (kind : DeclarationKind) (stage : Stage) :
    Decides (collect source kind stage).result
      (∀ line ∈ Text.lines source, startsWith kind line = true → WellFormed kind line)
      (FirstFault (fun line => startsWith kind line = true → WellFormed kind line)
        (fun n line e => startsWith kind line = true ∧ Fault kind stage n line e)
        1 (Text.lines source)) :=
  decides_collectFrom kind stage (Text.lines source) 1 0

end MetalLowering.Declaration
