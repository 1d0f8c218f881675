import MetalLowering.Proofs.IdleLines

/-!
# What is read off sampler lines

A sampler is declared on a line `uniform <sampler type> <name>;`, with precision qualifiers before
the type and at most a comment after the semicolon (`Form`). The scan of a fragment source does not
look for this form. It takes the first three words of a line that are no precision qualifiers, and
deletes the semicolons of the third. So it differs from the grammar in two places (`Records`):

* a line of the grammar is refused if its comment stands directly at the semicolon, and the
  semicolon directly at the name, for then the comment is taken for a part of the name;
* a line that is not of the grammar is recorded if the word behind the type is an identifier once
  its semicolons are deleted, whatever stands behind it.

The main theorem describes every outcome of the scan by what is recorded of each line.
-/

namespace MetalLowering.Sampler

open Declaration (Trailer)
open Text (Apart Blanks Gap Solid)

/-! ### Words behind precision qualifiers -/

/-- The words of a text that are no precision qualifiers. -/
def plainWords (t : Text) : List Text := (Text.words t).filter (!precisionQualifiers.contains ·)

/-- The first word of `t` that is no precision qualifier is `word`, and `after` stands behind it. -/
inductive NextWord : (t word after : Text) → Prop
  /-- The text starts with that word. -/
  | here {b word after : Text} (hb : Blanks b) (hword : Solid word)
      (hplain : word ∉ precisionQualifiers) (hafter : Apart after) :
      NextWord (b ++ word ++ after) word after
  /-- A precision qualifier is passed over. -/
  | skip {b qualifier rest word after : Text} (hb : Blanks b)
      (hqualifier : qualifier ∈ precisionQualifiers) (hrest : Apart rest)
      (hnext : NextWord rest word after) :
      NextWord (b ++ qualifier ++ rest) word after

/-- The precision qualifiers are identifiers. -/
lemma isIdentifier_of_mem_precisionQualifiers :
    ∀ word ∈ precisionQualifiers, Text.isIdentifier word = true := by
  decide

/-- A word that is no precision qualifier comes first. -/
lemma plainWords_of_plain {b word rest : Text} (hb : Blanks b) (hword : Solid word)
    (hplain : word ∉ precisionQualifiers) (hrest : Apart rest) :
    plainWords (b ++ word ++ rest) = word :: plainWords rest := by
  rw [plainWords, Text.words_eq_cons_iff.mpr ⟨b, rest, hb, hword, hrest, rfl, rfl⟩,
    List.filter_cons_of_pos (by simpa using hplain), ← plainWords]

/-- A precision qualifier is passed over. -/
lemma plainWords_of_qualifier {b word rest : Text} (hb : Blanks b)
    (hword : word ∈ precisionQualifiers) (hrest : Apart rest) :
    plainWords (b ++ word ++ rest) = plainWords rest := by
  have hsolid := Text.solid_of_isIdentifier (isIdentifier_of_mem_precisionQualifiers word hword)
  rw [plainWords, Text.words_eq_cons_iff.mpr ⟨b, rest, hb, hsolid, hrest, rfl, rfl⟩,
    List.filter_cons_of_neg (by simpa using hword), ← plainWords]

/-- The plain words are the next one and those behind it. -/
lemma NextWord.plainWords_eq {t word after : Text} (h : NextWord t word after) :
    plainWords t = word :: plainWords after := by
  induction h with
  | here hb hword hplain hafter => exact plainWords_of_plain hb hword hplain hafter
  | skip hb hqualifier hrest hnext ih => rw [plainWords_of_qualifier hb hqualifier hrest, ih]

/-- The first plain word is the next word. -/
lemma exists_nextWord {t word : Text} {ws : List Text} (h : plainWords t = word :: ws) :
    ∃ after, NextWord t word after := by
  -- along the words of the text: the first one that is no qualifier is the one looked for
  induction hwords : Text.words t generalizing t with
  | nil =>
      rw [plainWords, hwords] at h
      cases h
  | cons first rest ih =>
      obtain ⟨b, t', hb, hfirst, ht', rfl, hrest⟩ := Text.words_eq_cons_iff.mp hwords
      by_cases hqualifier : first ∈ precisionQualifiers
      · rw [plainWords_of_qualifier hb hqualifier ht'] at h
        obtain ⟨after, hnext⟩ := ih h hrest
        exact ⟨after, .skip hb hqualifier ht' hnext⟩
      · rw [plainWords_of_plain hb hfirst hqualifier ht'] at h
        obtain ⟨rfl, -⟩ := List.cons_eq_cons.mp h
        exact ⟨t', .here hb hfirst hqualifier ht'⟩

/-- The next word and what stands behind it are those of the text. -/
lemma plainWords_eq_cons_iff {t word : Text} {ws : List Text} :
    plainWords t = word :: ws ↔ ∃ after, NextWord t word after ∧ plainWords after = ws := by
  constructor
  · intro h
    obtain ⟨after, hnext⟩ := exists_nextWord h
    rw [hnext.plainWords_eq] at h
    exact ⟨after, hnext, (List.cons_eq_cons.mp h).2⟩
  · rintro ⟨after, hnext, rfl⟩
    exact hnext.plainWords_eq

/-! ### Lines with a sampler type -/

/-- A line that starts with `uniform` and, behind precision qualifiers, the sampler type `type`;
`after` stands behind it. -/
def Heads (line type after : Text) : Prop :=
  ∃ b rest more : Text, Blanks b ∧ Apart rest ∧ line = b ++ "uniform" ++ rest ∧
    NextWord rest type after ∧ type = "sampler" ++ more

/-- The text that is taken for a name behind a type. -/
def nameIn (after : Text) : Text := ((plainWords after).head?.getD []).filter (· ≠ ';')

/-- The name is the next word without its semicolons. -/
lemma NextWord.nameIn_eq {after word rest : Text} (h : NextWord after word rest) :
    nameIn after = word.filter (· ≠ ';') := by
  rw [nameIn, h.plainWords_eq]
  rfl

/-- A line is scanned as a sampler line exactly if it starts like one. -/
lemma parts?_eq_some_iff {line type name : Text} :
    parts? line = some (type, name) ↔ ∃ after, Heads line type after ∧ name = nameIn after := by
  constructor
  · intro h
    unfold parts? at h
    split at h
    next first words hwords =>
      split_ifs at h with hfirst
      subst hfirst
      obtain ⟨b, rest, hb, -, hrest, hline, rfl⟩ := Text.words_eq_cons_iff.mp hwords
      split at h
      next type' ws hplain =>
        obtain ⟨after, hnext, rfl⟩ := plainWords_eq_cons_iff.mp hplain
        split_ifs at h with hsampler
        obtain ⟨more, hmore⟩ := Option.isSome_iff_exists.mp hsampler
        simp only [Option.some.injEq, Prod.mk.injEq] at h
        obtain ⟨rfl, rfl⟩ := h
        exact ⟨after, ⟨b, rest, more, hb, hrest, hline, hnext, Text.after?_eq_some_iff.mp hmore⟩,
          rfl⟩
      next => cases h
    next => cases h
  · rintro ⟨after, ⟨b, rest, more, hb, hrest, rfl, hnext, rfl⟩, rfl⟩
    have huniform : Solid "uniform" := Text.solid_of_isIdentifier (by decide)
    have hplain := hnext.plainWords_eq
    rw [plainWords] at hplain
    simp only [parts?, Text.words_eq_cons_iff.mpr ⟨b, rest, hb, huniform, hrest, rfl, rfl⟩, hplain,
      Text.after?_append, if_true, Option.isSome_some, nameIn]

/-- A line declares at most one sampler. -/
lemma parts?_unique {line type name type' name' : Text} (h : parts? line = some (type, name))
    (h' : parts? line = some (type', name')) : type = type' ∧ name = name' := by
  rw [h] at h'
  simpa using h'

/-! ### The grammar -/

/-- A line of the grammar. Between its name and its semicolon stand the blanks `inner`, and `outer`
stands behind the semicolon: blanks, then a comment or nothing. -/
structure Form (line type name inner outer : Text) : Prop where
  /-- The type is a single word. -/
  type_identifier : Text.isIdentifier type = true
  /-- The name is an identifier. -/
  name_identifier : Text.isIdentifier name = true
  /-- The name is no precision qualifier. -/
  name_plain : name ∉ precisionQualifiers
  /-- Only blanks stand before the semicolon. -/
  inner_blanks : Blanks inner
  /-- Only a comment stands behind it. -/
  outer_comment : ∃ b comment tail, Blanks b ∧ Trailer comment tail ∧ outer = b ++ tail
  /-- The parts of the line. -/
  exists_gap : ∃ gap, Gap gap ∧ Heads line type (gap ++ name ++ inner ++ ';' :: outer)

/-- A line that is taken for the declaration of a sampler. -/
def IsSampler (line : Text) : Prop := ∃ type after, Heads line type after

/-- What is recorded of a line. -/
inductive Records (line type name : Text) : Prop
  /-- A line of the grammar, unless a comment follows its name with nothing but the semicolon
  between them. -/
  | declared {inner outer : Text} (hform : Form line type name inner outer)
      (hcomment : inner ≠ [] ∨ Apart outer)
  /-- A line that is not of the grammar, if an identifier is left of the next word behind the type
  when its semicolons are deleted. -/
  | misread {after word rest : Text}
      (hnone : ∀ type name inner outer, ¬Form line type name inner outer)
      (htype : Heads line type after) (hword : NextWord after word rest)
      (hname : name = word.filter (· ≠ ';')) (hidentifier : Text.isIdentifier name = true)

section form

variable {line type name inner outer : Text}

/-- An identifier has no semicolon. -/
lemma filter_semicolon_of_isIdentifier (h : Text.isIdentifier name = true) :
    name.filter (· ≠ ';') = name := by
  rw [List.filter_eq_self]
  intro c hc
  have hsemicolon : ';' ∉ name := Text.not_mem_of_isIdentifier h (by decide)
  simpa using ne_of_mem_of_not_mem hc hsemicolon

/-- An identifier with its semicolon and what is glued to it is one word. -/
lemma solid_semicolon (h : Text.isIdentifier name = true) (chunk : Text)
    (hchunk : ∀ c ∈ chunk, Text.isBlank c = false) : Solid (name ++ ';' :: chunk) := by
  refine ⟨by simp, fun c hc => ?_⟩
  rcases List.mem_append.mp hc with hc | hc
  · exact (Text.solid_of_isIdentifier h).2 c hc
  · rcases List.mem_cons.mp hc with rfl | hc
    · decide
    · exact hchunk c hc

/-- A text with a semicolon is no precision qualifier. -/
lemma semicolon_not_mem (chunk : Text) : name ++ ';' :: chunk ∉ precisionQualifiers := by
  intro h
  have hword := isIdentifier_of_mem_precisionQualifiers _ h
  exact Text.not_mem_of_isIdentifier hword (c := ';') (by decide) (by simp)

/-- A line of the grammar is read, if its comment keeps off the name. -/
lemma Form.parts?_eq (h : Form line type name inner outer) (hcomment : inner ≠ [] ∨ Apart outer) :
    parts? line = some (type, name) := by
  obtain ⟨gap, hgap, hheads⟩ := h.exists_gap
  refine parts?_eq_some_iff.mpr ⟨_, hheads, ?_⟩
  by_cases hinner : inner = []
  · subst hinner
    have houter : Apart outer := hcomment.resolve_left fun hne => hne rfl
    have hnext := NextWord.here hgap.2 (solid_semicolon h.name_identifier [] (by simp))
      (semicolon_not_mem []) houter
    have hsplit : gap ++ name ++ [] ++ ';' :: outer = gap ++ (name ++ [';']) ++ outer := by simp
    rw [hsplit, hnext.nameIn_eq, List.filter_append,
      filter_semicolon_of_isIdentifier h.name_identifier]
    simp
  · have hapart : Apart (inner ++ ';' :: outer) := Gap.apart_append ⟨hinner, h.inner_blanks⟩ _
    have hnext := NextWord.here hgap.2 (Text.solid_of_isIdentifier h.name_identifier) h.name_plain
      hapart
    rw [List.append_assoc _ inner, hnext.nameIn_eq,
      filter_semicolon_of_isIdentifier h.name_identifier]

/-- What stands directly behind the semicolon of a line of the grammar is a comment. -/
lemma Form.exists_chunk (h : Form line type name inner outer) (houter : ¬Apart outer) :
    ∃ chunk rest, '/' ∈ chunk ∧ (∀ c ∈ chunk, Text.isBlank c = false) ∧ Apart rest ∧
      outer = chunk ++ rest := by
  obtain ⟨b, comment, tail, hb, htail, rfl⟩ := h.outer_comment
  rcases htail with ⟨rfl, -⟩ | rfl
  · rw [List.append_nil] at houter
    exact absurd hb.apart houter
  · obtain rfl : b = [] := by
      by_contra hne
      exact houter (Gap.apart_append ⟨hne, hb⟩ _)
    have hslash : Text.isBlank '/' = false := by decide
    have hstart : ([] : Text) ++ ("//" ++ comment) = '/' :: '/' :: comment := rfl
    rw [hstart]
    rcases Text.blanks_or_solid ('/' :: '/' :: comment) with
      hblanks | ⟨b, w, rest, hb, hw, hrest, hcut⟩
    · exact absurd List.mem_cons_self (hblanks.not_mem hslash)
    · cases b with
      | nil =>
          refine ⟨w, rest, ?_, hw.2, hrest, hcut⟩
          obtain ⟨c, u, rfl⟩ := List.exists_cons_of_ne_nil hw.1
          obtain ⟨rfl, -⟩ := List.cons_eq_cons.mp hcut
          exact List.mem_cons_self
      | cons c b =>
          obtain ⟨rfl, -⟩ := List.cons_eq_cons.mp hcut
          exact absurd List.mem_cons_self (hb.not_mem hslash)

/-- A comment directly at the semicolon is taken for a part of the name. -/
lemma Form.parts?_of_glued (h : Form line type name inner outer) (hinner : inner = [])
    (houter : ¬Apart outer) :
    ∃ other, parts? line = some (type, other) ∧ Text.isIdentifier other = false := by
  obtain ⟨gap, hgap, hheads⟩ := h.exists_gap
  obtain ⟨chunk, rest, hslash, hchunk, hrest, rfl⟩ := h.exists_chunk houter
  subst hinner
  have hnext := NextWord.here hgap.2 (solid_semicolon h.name_identifier chunk hchunk)
    (semicolon_not_mem chunk) hrest
  have hsplit : gap ++ name ++ [] ++ ';' :: (chunk ++ rest) =
      gap ++ (name ++ ';' :: chunk) ++ rest := by simp
  rw [hsplit] at hheads
  refine ⟨_, parts?_eq_some_iff.mpr ⟨_, hheads, rfl⟩, ?_⟩
  rw [hnext.nameIn_eq]
  by_contra hidentifier
  have hmem : '/' ∈ (name ++ ';' :: chunk).filter (· ≠ ';') := by simp [hslash]
  exact Text.not_mem_of_isIdentifier (by simpa using hidentifier) (by decide) hmem

end form

/-- What the scan takes from a line is what is recorded of it. -/
lemma records_iff {line type name : Text} :
    Records line type name ↔ parts? line = some (type, name) ∧ Text.isIdentifier name = true := by
  constructor
  · rintro (⟨hform, hcomment⟩ | ⟨-, htype, hword, rfl, hidentifier⟩)
    · exact ⟨hform.parts?_eq hcomment, hform.name_identifier⟩
    · exact ⟨parts?_eq_some_iff.mpr ⟨_, htype, hword.nameIn_eq.symm⟩, hidentifier⟩
  · rintro ⟨hparts, hidentifier⟩
    by_cases hform : ∃ type' name' inner outer, Form line type' name' inner outer
    · obtain ⟨type', name', inner, outer, hform⟩ := hform
      by_cases hcomment : inner ≠ [] ∨ Apart outer
      · obtain ⟨rfl, rfl⟩ := parts?_unique hparts (hform.parts?_eq hcomment)
        exact .declared hform hcomment
      · obtain ⟨hinner, houter⟩ := not_or.mp hcomment
        obtain ⟨other, hother, hno⟩ := hform.parts?_of_glued (not_not.mp hinner) houter
        rw [(parts?_unique hparts hother).2, hno] at hidentifier
        cases hidentifier
    · obtain ⟨after, htype, rfl⟩ := parts?_eq_some_iff.mp hparts
      rcases hwords : plainWords after with _ | ⟨word, ws⟩
      · rw [nameIn, hwords] at hidentifier
        cases hidentifier
      · obtain ⟨rest, hword, -⟩ := plainWords_eq_cons_iff.mp hwords
        exact .misread (fun type name inner outer h => hform ⟨type, name, inner, outer, h⟩) htype
          hword hword.nameIn_eq hidentifier

/-! ### Sources -/

/-- A line is a sampler exactly if it is read as one. -/
lemma isSampler_iff {line : Text} :
    IsSampler line ↔ ∃ type name, parts? line = some (type, name) := by
  simp only [parts?_eq_some_iff, IsSampler]
  constructor
  · rintro ⟨type, after, h⟩
    exact ⟨type, _, after, h, rfl⟩
  · rintro ⟨type, _, after, h, -⟩
    exact ⟨type, after, h⟩

/-- A line can be read exactly if it records something in case it is a sampler. -/
lemma readable_iff {line : Text} :
    Readable line ↔ (IsSampler line → ∃ type name, Records line type name) := by
  simp only [isSampler_iff, records_iff, Readable]
  constructor
  · rintro h ⟨type, name, hparts⟩
    exact ⟨type, name, hparts, h type name hparts⟩
  · intro h type name hparts
    obtain ⟨type', name', hparts', hidentifier⟩ := h ⟨type, name, hparts⟩
    rw [(parts?_unique hparts hparts').2]
    exact hidentifier

/-- A line is at fault exactly if it is a sampler that records nothing. -/
lemma fault_iff {lineNumber : Nat} {line : Text} {e : Failure} :
    Fault lineNumber line e ↔ IsSampler line ∧ (∀ type name, ¬Records line type name) ∧
      e = .shader (.malformed .sampler .fragment lineNumber line) := by
  simp only [isSampler_iff, records_iff, Fault]
  constructor
  · rintro ⟨type, name, hparts, hno, rfl⟩
    refine ⟨⟨type, name, hparts⟩, ?_, rfl⟩
    rintro type' name' ⟨hparts', hidentifier⟩
    rw [← (parts?_unique hparts hparts').2, hno] at hidentifier
    cases hidentifier
  · rintro ⟨⟨type, name, hparts⟩, hnone, rfl⟩
    exact ⟨type, name, hparts, by simpa using fun h => hnone type name ⟨hparts, h⟩, rfl⟩

/-- The type of a name is that of its last declaration. -/
lemma declared_eq_findSome? (name : Text) (lines : List Text) :
    declared name lines = lines.reverse.findSome? (typeOn name) := by
  induction lines with
  | nil => rfl
  | cons line rest ih =>
      rw [declared, ih, List.reverse_cons, List.findSome?_append, List.findSome?_singleton]

/-- The last line that declares a name gives its type. -/
lemma declared_eq_some_iff {name type : Text} {lines : List Text} :
    declared name lines = some type ↔
      ∃ before line after, lines = before ++ line :: after ∧ parts? line = some (type, name) ∧
        ∀ later ∈ after, ∀ other, parts? later ≠ some (other, name) := by
  rw [declared_eq_findSome?, List.findSome?_eq_some_iff]
  simp only [Option.eq_none_iff_forall_ne_some, ne_eq, typeOn_eq_some_iff]
  constructor
  · rintro ⟨after, line, before, hsplit, hline, hafter⟩
    refine ⟨before.reverse, line, after.reverse, ?_, hline, by simpa using hafter⟩
    rw [← List.reverse_reverse lines, hsplit]
    simp
  · rintro ⟨before, line, after, rfl, hline, hafter⟩
    exact ⟨after.reverse, line, before.reverse, by simp, hline, by simpa using hafter⟩

/-- If the lines of a source can be read, a name has the type that is recorded last. -/
lemma get?_eq_some_iff {fragment : Text} {types : List (Text × Text)}
    (h : (collect fragment).result = .ok types) {name type : Text} :
    Table.get? name types = some type ↔
      ∃ before line after, Text.lines fragment = before ++ line :: after ∧
        Records line type name ∧ ∀ later ∈ after, ∀ other, ¬Records later other name := by
  have hreadable := (decides_collect fragment).ok_iff.mp ⟨types, h⟩
  have hrecords : ∀ line ∈ Text.lines fragment, ∀ other,
      Records line other name ↔ parts? line = some (other, name) := by
    intro line hline other
    rw [records_iff, and_iff_left_iff_imp]
    exact hreadable line hline other name
  rw [get?_of_collect h, declared_eq_some_iff]
  refine exists_congr fun before => exists_congr fun line => exists_congr fun after =>
    and_congr_right fun hsplit => and_congr ?_ (forall₂_congr fun later hlater => ?_)
  · rw [hrecords line (by simp [hsplit])]
  · have hmem : later ∈ Text.lines fragment := by simp [hsplit, hlater]
    exact forall_congr' fun other => not_congr (hrecords later hmem other).symm

/-- **The samplers of a fragment source are what is recorded of its lines.** They are read exactly
if something is recorded of every sampler line, and the last record of a name gives its type.
Otherwise the first sampler line of which nothing is recorded is named, with its number in the
source. -/
theorem collect_records (fragment : Text) :
    ((∃ types, (collect fragment).result = .ok types) ↔
      ∀ line ∈ Text.lines fragment, IsSampler line → ∃ type name, Records line type name) ∧
    (∀ types, (collect fragment).result = .ok types → ∀ name type,
      (Table.get? name types = some type ↔
        ∃ before line after, Text.lines fragment = before ++ line :: after ∧
          Records line type name ∧ ∀ later ∈ after, ∀ other, ¬Records later other name)) ∧
    ∀ e, (collect fragment).result = .error e ↔
      ∃ before line after, Text.lines fragment = before ++ line :: after ∧
        (∀ earlier ∈ before, IsSampler earlier → ∃ type name, Records earlier type name) ∧
        IsSampler line ∧ (∀ type name, ¬Records line type name) ∧
        e = .shader (.malformed .sampler .fragment (before.length + 1 : Nat) line) := by
  have h := decides_collect fragment
  refine ⟨?_, fun types htypes name type => get?_eq_some_iff htypes, fun e => ?_⟩
  · rw [h.ok_iff]
    simp only [readable_iff]
  · rw [h.error_iff]
    simp only [FirstFault, readable_iff, fault_iff, Nat.add_comm 1]

/-! ### Two lines on which the scan and the grammar differ -/

section mark

variable {c : Char}

/-- A character that is no blank does not occur among blanks. -/
lemma count_blanks (hblank : Text.isBlank c = false) {b : Text} (hb : Blanks b) : b.count c = 0 :=
  List.count_eq_zero.mpr (hb.not_mem hblank)

/-- A character that belongs to no word does not occur in an identifier. -/
lemma count_identifier (hword : Text.isWordChar c = false) {t : Text}
    (ht : Text.isIdentifier t = true) : t.count c = 0 :=
  List.count_eq_zero.mpr (Text.not_mem_of_isIdentifier ht hword)

/-- Blanks and qualifiers hold no mark between words. -/
lemma NextWord.count_eq (hblank : Text.isBlank c = false) (hword : Text.isWordChar c = false)
    {t word after : Text} (h : NextWord t word after) :
    t.count c = word.count c + after.count c := by
  induction h with
  | here hb => rw [List.count_append, List.count_append, count_blanks hblank hb, Nat.zero_add]
  | skip hb hqualifier _ _ ih =>
      have hidentifier := isIdentifier_of_mem_precisionQualifiers _ hqualifier
      rw [List.count_append, List.count_append, count_blanks hblank hb,
        count_identifier hword hidentifier, Nat.zero_add, ih]

/-- A mark in a sampler declaration stands behind the name. -/
lemma Form.count_eq (hblank : Text.isBlank c = false) (hword : Text.isWordChar c = false)
    {line type name inner outer : Text} (h : Form line type name inner outer) :
    line.count c = (';' :: outer).count c := by
  obtain ⟨gap, hgap, b, rest, more, hb, -, rfl, hnext, -⟩ := h.exists_gap
  have huniform : Text.isIdentifier "uniform" = true := by decide
  simp only [List.count_append, hnext.count_eq hblank hword, count_blanks hblank hb,
    count_blanks hblank hgap.2, count_blanks hblank h.inner_blanks, count_identifier hword huniform,
    count_identifier hword h.type_identifier, count_identifier hword h.name_identifier,
    Nat.zero_add]

end mark

/-- A line of the grammar without a comment holds one semicolon. -/
lemma Form.count_semicolon {line type name inner outer : Text} (h : Form line type name inner outer)
    (hslash : '/' ∉ line) : line.count ';' = 1 := by
  have hcount := h.count_eq (c := '/') (by decide) (by decide)
  rw [List.count_eq_zero.mpr hslash, eq_comm, List.count_eq_zero] at hcount
  obtain ⟨b, comment, tail, hb, htail, rfl⟩ := h.outer_comment
  rcases htail with ⟨rfl, -⟩ | rfl
  · rw [h.count_eq (by decide) (by decide), List.append_nil, List.count_cons_self,
      count_blanks (by decide) hb]
  · exact absurd (by simp) hcount

/-- A comment at the semicolon makes a line of the grammar fail. A second statement, on a line that
is not of the grammar, is dropped without a word, so that the cube it declares is bound as a plane.
-/
theorem collect_glued_comment_dropped_statement :
    (∃ inner outer, Form "uniform samplerCube env;// sky" "samplerCube" "env" inner outer) ∧
    (collect "uniform samplerCube env;// sky").result =
      .error (.shader (.malformed .sampler .fragment 1 "uniform samplerCube env;// sky")) ∧
    IsSampler "uniform sampler2D a; uniform samplerCube b;" ∧
    (∀ type name inner outer,
      ¬Form "uniform sampler2D a; uniform samplerCube b;" type name inner outer) ∧
    ∃ types, (collect "uniform sampler2D a; uniform samplerCube b;").result = .ok types ∧
      resolve "b" types = .ok .plane := by
  have hspace : Gap " " := by
    refine ⟨by decide, fun c hc => ?_⟩
    obtain rfl : c = ' ' := by simpa using hc
    decide
  refine ⟨⟨[], "// sky", ?_⟩, rfl, isSampler_iff.mpr ⟨_, _, rfl⟩, ?_, _, rfl, rfl⟩
  · have htype : Text.isIdentifier "samplerCube" = true := by decide
    have hnext : NextWord " samplerCube env;// sky" "samplerCube" " env;// sky" :=
      .here (b := " ") hspace.2 (Text.solid_of_isIdentifier htype) (by decide)
        (hspace.apart_append "env;// sky")
    exact {
      type_identifier := htype
      name_identifier := by decide
      name_plain := by decide
      inner_blanks := by simp [Blanks]
      outer_comment := ⟨[], " sky", "// sky", by simp [Blanks], .inr rfl, rfl⟩
      exists_gap := ⟨" ", hspace, [], " samplerCube env;// sky", "Cube", by simp [Blanks],
        hspace.apart_append "samplerCube env;// sky", rfl, hnext, rfl⟩ }
  · intro type name inner outer hform
    have hcount := hform.count_semicolon (by decide)
    revert hcount
    decide

end MetalLowering.Sampler
