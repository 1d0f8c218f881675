import Mathlib.Data.List.Forall2
import MetalLowering.Proofs.DeclarationForm

/-!
# What is read off declaration lines

The grammar of declaration lines with the meaning of each part. `Form` gives the words of a line and
its comment; here the comment is taken apart. A comment starts with a tag if its first word is in
double brackets (`StartsWithTag`), the first run of digits in the tag is the slot (`FirstRun`), and
what a declaration gets for its slot and tag follows from both (`Marking`).

The main theorem describes every outcome of reading the declarations of a kind. They are read
exactly if all lines with the keyword follow the grammar; then there is one declaration for each of
these lines, in order. Otherwise the first line that does not follow it is named.
-/

namespace MetalLowering

/-! ### The first number in a text -/

namespace Text

/-- The first run of digits in a text: no digit stands before it, and none right behind it. -/
structure FirstRun (t digits : Text) : Prop where
  /-- There is a digit. -/
  ne_nil : digits ≠ []
  /-- The run consists of digits. -/
  isDecimal : ∀ c ∈ digits, isDecimal c = true
  /-- The run stands in the text, and does not go on at either end. -/
  exists_split : ∃ before rest, t = before ++ digits ++ rest ∧
    (∀ c ∈ before, Text.isDecimal c = false) ∧ ∀ c, rest.head? = some c → Text.isDecimal c = false

/-- There are no first digits exactly if there is no digit at all. -/
lemma firstDigits_eq_nil_iff {t : Text} : firstDigits t = [] ↔ ∀ c ∈ t, isDecimal c = false := by
  have hhead := List.head?_dropWhile_not (!isDecimal ·) t
  rw [firstDigits]
  constructor
  · intro h
    have hnil : t.dropWhile (!isDecimal ·) = [] := by
      rcases hu : t.dropWhile (!isDecimal ·) with _ | ⟨c, u⟩
      · rfl
      · rw [hu] at h hhead
        have hc : isDecimal c = true := by simpa using hhead
        simp [hc] at h
    simpa using List.dropWhile_eq_nil_iff.mp hnil
  · intro h
    have hnil : t.dropWhile (!isDecimal ·) = [] := List.dropWhile_eq_nil_iff.mpr (by simpa using h)
    rw [hnil, List.takeWhile_nil]

/-- The digits taken from a text are its first run, if there is one. -/
lemma firstRun_iff {t digits : Text} :
    FirstRun t digits ↔ firstDigits t = digits ∧ digits ≠ [] := by
  constructor
  · rintro ⟨hne, hdigits, before, rest, rfl, hbefore, hrest⟩
    refine ⟨?_, hne⟩
    obtain ⟨c, u, rfl⟩ := List.exists_cons_of_ne_nil hne
    have hc : isDecimal c = true := hdigits c List.mem_cons_self
    have hdrop : (before ++ (c :: u) ++ rest).dropWhile (!isDecimal ·) = (c :: u) ++ rest := by
      rw [List.append_assoc, List.dropWhile_append_of_pos (by simpa using hbefore),
        List.cons_append, List.dropWhile_cons_of_neg (by simp [hc])]
    have htake : rest.takeWhile isDecimal = [] := by
      cases rest with
      | nil => rfl
      | cons d rest => simp [hrest d rfl]
    rw [firstDigits, hdrop, List.takeWhile_append_of_pos hdigits, htake, List.append_nil]
  · rintro ⟨rfl, hne⟩
    refine ⟨hne, fun c hc => List.mem_takeWhile_imp hc, t.takeWhile (!isDecimal ·),
      (t.dropWhile (!isDecimal ·)).dropWhile isDecimal, ?_, ?_, ?_⟩
    · rw [firstDigits, List.append_assoc, List.takeWhile_append_dropWhile,
        List.takeWhile_append_dropWhile]
    · intro c hc
      simpa using List.mem_takeWhile_imp hc
    · intro c hc
      have hhead := List.head?_dropWhile_not isDecimal (t.dropWhile (!isDecimal ·))
      rw [hc] at hhead
      simpa using hhead

/-- A number is written in ASCII digits. -/
lemma isDigit_of_mem_ofNat {n : Nat} {c : Char} (h : c ∈ ofNat n) : c.isDigit = true :=
  Nat.isDigit_of_mem_toDigits (by omega) (by omega) h

end Text

namespace Declaration

open Text (Apart Blanks FirstRun Solid)

/-! ### Tags -/

/-- A comment that starts with the tag `tag`: a word in double brackets, behind blanks at most. -/
def StartsWithTag (comment tag : Text) : Prop :=
  ∃ b inner rest : Text, Blanks b ∧ Apart rest ∧ inner ≠ [] ∧
    (∀ c ∈ inner, isTagChar c = true ∧ Text.isBlank c = false) ∧
    tag = "[[" ++ inner ++ "]]" ∧ comment = b ++ tag ++ rest

/-- A tag is two opening brackets, some tag characters and two closing brackets. -/
lemma isTag_iff {word : Text} :
    isTag word = true ↔
      ∃ inner : Text, inner ≠ [] ∧ (∀ c ∈ inner, isTagChar c = true) ∧
        word = "[[" ++ inner ++ "]]" := by
  constructor
  · intro h
    unfold isTag at h
    split at h
    next rest hrest =>
      obtain ⟨hne, hclose⟩ : rest.takeWhile isTagChar ≠ [] ∧
          rest.dropWhile isTagChar = "]]".toList := by simpa using h
      refine ⟨rest.takeWhile isTagChar, hne, fun c hc => List.mem_takeWhile_imp hc, ?_⟩
      rw [Text.after?_eq_some_iff.mp hrest, List.append_assoc, ← hclose,
        List.takeWhile_append_dropWhile]
    next => cases h
  · rintro ⟨inner, hne, hinner, rfl⟩
    have hclose : ("]]".toList).takeWhile isTagChar = [] ∧
        ("]]".toList).dropWhile isTagChar = "]]".toList := by decide
    rw [isTag, List.append_assoc, Text.after?_append]
    simp only [List.takeWhile_append_of_pos hinner, List.dropWhile_append_of_pos hinner, hclose.1,
      hclose.2, List.append_nil]
    simpa using hne

/-- The tag taken from a comment is the one that it starts with. -/
lemma tagOf_eq_some_iff {comment tag : Text} :
    tagOf comment = some tag ↔ StartsWithTag comment tag := by
  constructor
  · intro h
    unfold tagOf at h
    split at h
    next word words hwords =>
      split_ifs at h with htag
      obtain rfl := Option.some.inj h
      obtain ⟨inner, hne, hinner, rfl⟩ := isTag_iff.mp htag
      obtain ⟨b, rest, hb, hword, hrest, hcomment, -⟩ := Text.words_eq_cons_iff.mp hwords
      refine ⟨b, inner, rest, hb, hrest, hne, fun c hc => ⟨hinner c hc, hword.2 c ?_⟩, rfl,
        hcomment⟩
      exact List.mem_append_left _ (List.mem_append_right _ hc)
    next => cases h
  · rintro ⟨b, inner, rest, hb, hrest, hne, hinner, rfl, rfl⟩
    have hsolid : Solid ("[[" ++ inner ++ "]]") := by
      refine ⟨by simp, fun c hc => ?_⟩
      rcases List.mem_append.mp hc with hc | hc
      · rcases List.mem_append.mp hc with hc | hc
        · obtain rfl : c = '[' := by simpa using hc
          decide
        · exact (hinner c hc).2
      · obtain rfl : c = ']' := by simpa using hc
        decide
    have htag : isTag ("[[" ++ inner ++ "]]") = true :=
      isTag_iff.mpr ⟨inner, hne, fun c hc => (hinner c hc).1, rfl⟩
    rw [tagOf, Text.words_eq_cons_iff.mpr ⟨b, rest, hb, hsolid, hrest, rfl, rfl⟩]
    exact if_pos htag

/-- A comment has no tag exactly if it starts with none. -/
lemma tagOf_eq_none_iff {comment : Text} :
    tagOf comment = none ↔ ∀ tag, ¬StartsWithTag comment tag := by
  simp only [← tagOf_eq_some_iff]
  exact Option.eq_none_iff_forall_ne_some

/-! ### Slots -/

/-- The digits that a comment gives for the slot. -/
def GivesSlot (comment digits : Text) : Prop :=
  ∃ tag, StartsWithTag comment tag ∧ FirstRun tag digits

/-- What a comment gives for the slot are its digits, if there are any. -/
lemma givesSlot_iff {comment digits : Text} :
    GivesSlot comment digits ↔ slotDigits comment = digits ∧ digits ≠ [] := by
  simp only [GivesSlot, slotDigits, ← tagOf_eq_some_iff, Text.firstRun_iff]
  rcases tagOf comment with _ | tag
  · have hnil : Text.firstDigits [] = [] := rfl
    simp [hnil, eq_comm]
  · simp

/-- The slot is the number that the tag gives, or else the ordinal. -/
lemma slotOf_eq_ok_iff {tag : Option Text} {ordinal slot : Nat} :
    slotOf tag ordinal = .ok slot ↔
      Text.firstDigits (tag.getD []) = [] ∧ slot = ordinal ∨
      Text.firstDigits (tag.getD []) ≠ [] ∧
        (Text.firstDigits (tag.getD [])).length ≤ maxSlotDigits ∧
        slot = Text.numberOf (Text.firstDigits (tag.getD [])) := by
  unfold slotOf
  by_cases hnil : Text.firstDigits (tag.getD []) = []
  · simp [hnil, eq_comm]
  · by_cases hlong : maxSlotDigits < (Text.firstDigits (tag.getD [])).length
    · simp [hnil, hlong, not_le.mpr hlong]
    · simp [hnil, hlong, not_lt.mp hlong, eq_comm]

/-- Slot and tag of the `ordinal`-th declaration of a kind, by its comment. -/
inductive Marking (kind : DeclarationKind) (ordinal : Nat) (comment : Text) :
    Nat → Option Text → Prop
  /-- A tag with a number in it. -/
  | numbered {tag digits : Text} (htag : StartsWithTag comment tag) (hdigits : FirstRun tag digits)
      (hlength : digits.length ≤ 4300) :
      Marking kind ordinal comment (Text.numberOf digits) (some tag)
  /-- A tag without a number. -/
  | plain {tag : Text} (htag : StartsWithTag comment tag)
      (hnone : ∀ c ∈ tag, Text.isDecimal c = false) :
      Marking kind ordinal comment ordinal (some tag)
  /-- An attribute without a tag gets one. -/
  | supplied (hkind : kind = .attribute) (hnone : ∀ tag, ¬StartsWithTag comment tag) :
      Marking kind ordinal comment ordinal
        (some ("[[attribute(" ++ Text.ofNat ordinal ++ ")]]"))
  /-- Anything else without a tag stays without one. -/
  | bare (hkind : kind ≠ .attribute) (hnone : ∀ tag, ¬StartsWithTag comment tag) :
      Marking kind ordinal comment ordinal none

/-- Without a tag of its own, an attribute gets one with its slot, and nothing else gets one. -/
lemma finalTag_none (kind : DeclarationKind) (slot : Nat) :
    finalTag kind slot none = if kind = .attribute then some (attributeTag slot) else none := by
  cases kind <;> rfl

/-- The slot and the tag of a declaration are computed as they are described. -/
lemma marking_iff {kind : DeclarationKind} {ordinal slot : Nat} {comment : Text}
    {tag : Option Text} :
    Marking kind ordinal comment slot tag ↔
      slotOf (tagOf comment) ordinal = .ok slot ∧ finalTag kind slot (tagOf comment) = tag := by
  rw [slotOf_eq_ok_iff]
  constructor
  · rintro (⟨htag, hdigits, hlength⟩ | ⟨htag, hnone⟩ | ⟨hkind, hnone⟩ | ⟨hkind, hnone⟩)
    · obtain ⟨rfl, hne⟩ := Text.firstRun_iff.mp hdigits
      rw [tagOf_eq_some_iff.mpr htag]
      exact ⟨Or.inr ⟨hne, hlength, rfl⟩, rfl⟩
    · rw [tagOf_eq_some_iff.mpr htag]
      exact ⟨Or.inl ⟨Text.firstDigits_eq_nil_iff.mpr hnone, rfl⟩, rfl⟩
    · rw [tagOf_eq_none_iff.mpr hnone, finalTag_none, if_pos hkind]
      exact ⟨Or.inl ⟨rfl, rfl⟩, rfl⟩
    · rw [tagOf_eq_none_iff.mpr hnone, finalTag_none, if_neg hkind]
      exact ⟨Or.inl ⟨rfl, rfl⟩, rfl⟩
  · rintro ⟨hslot, rfl⟩
    rcases htag : tagOf comment with _ | tag
    · have hnone := tagOf_eq_none_iff.mp htag
      rw [htag] at hslot
      rw [finalTag_none]
      obtain ⟨-, rfl⟩ | ⟨hne, -⟩ := hslot
      · by_cases hkind : kind = .attribute
        · rw [if_pos hkind]
          exact .supplied hkind hnone
        · rw [if_neg hkind]
          exact .bare hkind hnone
      · exact absurd rfl hne
    · have hstart := tagOf_eq_some_iff.mp htag
      rw [htag] at hslot
      obtain ⟨hnil, rfl⟩ | ⟨hne, hlength, rfl⟩ := hslot
      · exact .plain hstart (Text.firstDigits_eq_nil_iff.mp hnil)
      · exact .numbered hstart (Text.firstRun_iff.mpr ⟨rfl, hne⟩) hlength

/-! ### Lines of the grammar -/

/-- A line of the grammar: it has the form of a declaration, and no slot that is too long. -/
def Grammatical (kind : DeclarationKind) (line : Text) : Prop :=
  ∃ type name comment, Form kind line type name comment ∧
    ∀ digits, GivesSlot comment digits → digits.length ≤ 4300

/-- The `ordinal`-th declaration of a kind is what its line says. -/
structure Reads (kind : DeclarationKind) (ordinal : Nat) (line : Text) (d : Declaration) :
    Prop where
  /-- The kind is the one of the keyword. -/
  kind_eq : d.kind = kind
  /-- Type and name are the words of the line; slot and tag follow from its comment. -/
  exists_comment : ∃ comment, Form kind line d.type d.name comment ∧
    Marking kind ordinal comment d.slot d.tag

/-- What is said of a line that is not of the grammar. -/
inductive Complaint (kind : DeclarationKind) (stage : Stage) (lineNumber : Nat) (line : Text) :
    Failure → Prop
  /-- The line has another form. -/
  | form (h : ∀ type name comment, ¬Form kind line type name comment) :
      Complaint kind stage lineNumber line (.shader (.malformed kind stage lineNumber line))
  /-- The slot has too many digits. -/
  | slot {type name comment digits : Text} (hform : Form kind line type name comment)
      (hdigits : GivesSlot comment digits) (hlong : 4300 < digits.length) :
      Complaint kind stage lineNumber line (.tooManyDigits digits.length)

/-- A line is grammatical exactly if it can be read. -/
lemma grammatical_iff {kind : DeclarationKind} {line : Text} :
    Grammatical kind line ↔ WellFormed kind line := by
  refine exists_congr fun type => exists_congr fun name => exists_congr fun comment =>
    and_congr_right fun _ => ?_
  simp only [givesSlot_iff]
  constructor
  · intro h
    by_cases hnil : slotDigits comment = []
    · simp [hnil]
    · exact h _ ⟨rfl, hnil⟩
  · rintro h _ ⟨rfl, -⟩
    exact h

/-- What is complained of is what is wrong with a declaration. -/
lemma complaint_iff {kind : DeclarationKind} {stage : Stage} {lineNumber : Nat} {line : Text}
    {e : Failure} :
    Complaint kind stage lineNumber line e ↔ Fault kind stage lineNumber line e := by
  constructor
  · rintro (hform | ⟨hform, hdigits, hlong⟩)
    · refine .form ?_
      rintro ⟨type, name, comment, h⟩
      exact hform type name comment h
    · obtain ⟨rfl, -⟩ := givesSlot_iff.mp hdigits
      exact .slot hform hlong
  · rintro (hform | ⟨hform, hlong⟩)
    · exact .form fun type name comment h => hform ⟨type, name, comment, h⟩
    · refine .slot hform (givesSlot_iff.mpr ⟨rfl, ?_⟩) hlong
      intro hnil
      rw [hnil] at hlong
      cases hlong

/-- A line with the keyword gives the declaration that it says. -/
lemma ofLine_eq_ok_iff_reads {kind : DeclarationKind} {line : Text}
    (hstart : startsWith kind line = true) {stage : Stage} {lineNumber ordinal : Nat}
    {d : Declaration} :
    ofLine kind stage lineNumber ordinal line = .ok d ↔ Reads kind ordinal line d := by
  constructor
  · intro h
    rcases hparts : parts? line with _ | ⟨type, name, tag⟩
    · simp [ofLine, hparts] at h
    · obtain ⟨comment, hform, rfl⟩ := form_of_parts? hstart hparts
      rcases hslot : slotOf (tagOf comment) ordinal with e | slot
      · simp [ofLine, hparts, hslot] at h
      · simp only [ofLine, hparts, hslot, Except.ok.injEq] at h
        subst h
        exact ⟨rfl, comment, hform, marking_iff.mpr ⟨hslot, rfl⟩⟩
  · rintro ⟨rfl, comment, hform, hmarking⟩
    obtain ⟨hslot, htag⟩ := marking_iff.mp hmarking
    simp only [ofLine, parts?_of_form hform, hslot, htag]

/-! ### Sources -/

/-- The lines of a source that start with the keyword of a kind. -/
def keywordLines (kind : DeclarationKind) (source : Text) : List Text :=
  (Text.lines source).filter (startsWith kind)

/-- Each declaration is read off the line with the keyword at its own place. -/
lemma collectFrom_eq_ok_iff {kind : DeclarationKind} {stage : Stage} {lineNumber ordinal : Nat}
    {lines : List Text} {ds : List Declaration} :
    (collectFrom kind stage lineNumber ordinal lines).result = .ok ds ↔
      List.Forall₂ (fun p d => Reads kind p.2 p.1 d)
        ((lines.filter (startsWith kind)).zipIdx ordinal) ds := by
  induction lines generalizing lineNumber ordinal ds with
  | nil => simp [collectFrom, List.forall₂_nil_left_iff, eq_comm]
  | cons line rest ih =>
      by_cases hstart : startsWith kind line = true
      · simp only [collectFrom, hstart, if_true, Traced.result_bind, Traced.result_ofExcept,
          Traced.result_note, ok_bind]
        rw [List.filter_cons_of_pos hstart, List.zipIdx_cons, List.forall₂_cons_left_iff]
        refine bind_eq_ok.trans (exists_congr fun d => ?_)
        rw [ofLine_eq_ok_iff_reads hstart]
        constructor
        · rintro ⟨hd, h⟩
          obtain ⟨ds', hds', h⟩ := bind_eq_ok.mp h
          exact ⟨ds', hd, ih.mp hds', (Except.ok.inj h).symm⟩
        · rintro ⟨ds', hd, hds', rfl⟩
          exact ⟨hd, bind_eq_ok.mpr ⟨ds', ih.mpr hds', rfl⟩⟩
      · rw [List.filter_cons_of_neg hstart]
        simp only [collectFrom, hstart]
        exact ih

/-- **The declarations of a kind are read exactly by the grammar.** They are read if every line with
the keyword is of the grammar, and then they are, in order, what these lines say. Otherwise the
first of these lines that is not of the grammar is complained of, with its number in the source. -/
theorem collect_outcome (source : Text) (kind : DeclarationKind) (stage : Stage) :
    ((∃ ds, (collect source kind stage).result = .ok ds) ↔
      ∀ line ∈ keywordLines kind source, Grammatical kind line) ∧
    (∀ ds, (collect source kind stage).result = .ok ds ↔
      List.Forall₂ (fun p d => Reads kind p.2 p.1 d) (keywordLines kind source).zipIdx ds) ∧
    ∀ e, (collect source kind stage).result = .error e ↔
      ∃ before line after, Text.lines source = before ++ line :: after ∧
        (∀ earlier ∈ before, startsWith kind earlier = true → Grammatical kind earlier) ∧
        startsWith kind line = true ∧ Complaint kind stage (before.length + 1) line e := by
  have h := decides_collect source kind stage
  refine ⟨?_, fun ds => collectFrom_eq_ok_iff, fun e => ?_⟩
  · rw [h.ok_iff]
    simp only [keywordLines, List.mem_filter, and_imp, grammatical_iff]
  · rw [h.error_iff]
    simp only [FirstFault, grammatical_iff, complaint_iff, Nat.add_comm 1]

/-- A line that is passed over, a tag with a number, and a slot by the place. -/
example :
    (collect "// c\nvarying vec2 uv;//[[user(locn3)]]\n varying vec4 c ;" .varying .vertex).result =
      .ok [⟨.varying, "vec2", "uv", 3, some "[[user(locn3)]]"⟩, ⟨.varying, "vec4", "c", 1, none⟩] :=
  rfl

end Declaration

end MetalLowering
