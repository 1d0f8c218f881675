import Mathlib.Data.Nat.Digits.Defs
import MetalLowering.Proofs.Annotations
import MetalLowering.Proofs.AttributeSlots
import MetalLowering.Proofs.EntryLayouts

/-!
# Declarations written out and read again

A declaration is written as one line, its words one space apart and its tag in a comment
(`Declaration.printed`). Main statement: the declarations read off a source, written one below the
other, are read back as they are (`collect_ofLines_printed`), with their slots and with the tags
made for attributes.

What carries it is that the comment of a written declaration starts with its tag and nothing else
(`Marking.tagOf_printedComment`), so slot and tag follow from it as they did from the source. The
one thing that can be in the way is a slot with more digits than are read, and only an attribute
behind `10 ^ maxSlotDigits` others has one.
-/

namespace MetalLowering.Declaration

open Text (Blanks FirstRun Gap Unbroken)

variable {kind : DeclarationKind} {stage : Stage} {ordinal slot : Nat} {comment line : Text}
  {tag : Option Text} {d : Declaration}

/-! ### The written form -/

/-- The comment of a written declaration: its tag, behind a space. -/
def printedComment : Option Text → Text
  | some tag => " " ++ tag
  | none => []

/-- What stands behind the semicolon of a written declaration. -/
def printedTrailer : Option Text → Text
  | some tag => " // " ++ tag
  | none => []

/-- A declaration written as one line. -/
def printed (d : Declaration) : Text :=
  d.kind.keyword ++ " " ++ d.type ++ " " ++ d.name ++ ";" ++ printedTrailer d.tag

example : printed ⟨.varying, "vec2", "uv", 3, some "[[user(locn3)]]"⟩ =
    "varying vec2 uv; // [[user(locn3)]]" := rfl

/-- The digits in the tag of a declaration that give its slot. -/
def tagDigits (d : Declaration) : Text := Text.firstDigits (d.tag.getD [])

/-- The written line has the form of a declaration, and its tag is the comment. -/
lemma form_printed (htype : Text.isIdentifier d.type = true)
    (hname : Text.isIdentifier d.name = true) :
    Form d.kind d.printed d.type d.name (printedComment d.tag) := by
  have hspace : Gap " " := ⟨by decide, by decide⟩
  have hnil : Blanks [] := List.forall_mem_nil _
  unfold printed printedTrailer printedComment
  rcases d.tag with _ | tag
  · exact ⟨htype, hname, [], " ", " ", [], [], [], hnil, hspace, hspace, hnil, hnil,
      Or.inl ⟨rfl, rfl⟩, by simp⟩
  · exact ⟨htype, hname, [], " ", " ", [], " ", "//" ++ (" " ++ tag), hnil, hspace, hspace, hnil,
      hspace.2, Or.inr rfl, by simp⟩

/-- A line of the form of a declaration starts with the keyword. -/
lemma startsWith_of_form {type name : Text} (h : Form kind line type name comment) :
    startsWith kind line = true := by
  obtain ⟨-, -, b₀, b₁, b₂, b₃, b₄, tail, hb₀, hb₁, -, -, -, -, rfl⟩ := h
  have hkeyword := Text.solid_of_isIdentifier (isIdentifier_keyword kind)
  have hwords : ∀ u : Text, (Text.words (b₀ ++ kind.keyword ++ (b₁ ++ u))).head? =
      some kind.keyword := by
    intro u
    rw [List.append_assoc, Text.words_blanks_append hb₀,
      Text.words_solid_append hkeyword (hb₁.apart_append u), List.head?_cons]
  unfold startsWith
  rw [decide_eq_true_iff]
  simpa using hwords (type ++ (b₂ ++ name ++ b₃) ++ ';' :: (b₄ ++ tail))

/-! ### The tag in the comment -/

/-- A tag that a comment starts with is one that it starts with alone. -/
lemma StartsWithTag.space_append {tag : Text} (h : StartsWithTag comment tag) :
    StartsWithTag (" " ++ tag) tag := by
  obtain ⟨b, inner, rest, -, -, hne, hinner, htag, -⟩ := h
  exact ⟨" ", inner, [], by decide, by rintro _ ⟨⟩, hne, hinner, htag, by simp⟩

/-- A character of a word can stand in a tag and is no blank. -/
lemma isTagChar_of_isWordChar {c : Char} (h : Text.isWordChar c = true) :
    isTagChar c = true ∧ Text.isBlank c = false := by
  refine ⟨?_, Text.isBlank_of_isWordChar h⟩
  unfold isTagChar
  simp only [h, Bool.true_or]

/-- The tag of an attribute is its word with the slot in brackets. -/
lemma attributeTag_eq (n : Nat) :
    attributeTag n = "[[" ++ ("attribute" ++ '(' :: (Text.ofNat n ++ ")")) ++ "]]" := by
  have hopen : ("[[attribute(".toList : Text) = "[[".toList ++ "attribute".toList ++ ['('] := rfl
  have hclose : (")]]".toList : Text) = ")".toList ++ "]]".toList := rfl
  unfold attributeTag
  rw [hopen, hclose]
  simp only [List.append_assoc, List.cons_append, List.nil_append]

/-- A comment that is printed for an attribute starts with its tag. -/
lemma startsWithTag_attributeTag (n : Nat) :
    StartsWithTag (" " ++ attributeTag n) (attributeTag n) := by
  refine ⟨" ", "attribute" ++ '(' :: (Text.ofNat n ++ ")"), [], by decide, by rintro _ ⟨⟩,
    by simp, ?_, attributeTag_eq n, (List.append_nil _).symm⟩
  intro c hc
  simp only [List.mem_append, List.mem_cons] at hc
  rcases hc with hc | rfl | hc | hc
  · exact isTagChar_of_isWordChar (Text.isWordChar_of_mem_identifier (by decide) hc)
  · decide
  · exact isTagChar_of_isWordChar (Text.isWordChar_of_isDigit (Text.isDigit_of_mem_ofNat hc))
  · obtain rfl : c = ')' := by simpa using hc
    decide

/-- The tag read off the comment of a written declaration is its own. -/
lemma Marking.tagOf_printedComment (h : Marking kind ordinal comment slot tag) :
    tagOf (printedComment tag) = tag := by
  cases h with
  | numbered htag => exact tagOf_eq_some_iff.mpr htag.space_append
  | plain htag => exact tagOf_eq_some_iff.mpr htag.space_append
  | supplied => exact tagOf_eq_some_iff.mpr (startsWithTag_attributeTag ordinal)
  | bare => rfl

/-- A tag that was completed once is complete. -/
lemma Marking.finalTag_eq (h : Marking kind ordinal comment slot tag) :
    finalTag kind slot tag = tag := by
  cases h with
  | bare hkind => rw [finalTag_none, if_neg hkind]
  | _ => cases kind <;> rfl

/-! ### The slot in the tag -/

/-- The digits in the tag that an attribute is given are those of its place. -/
lemma firstDigits_attributeTag (n : Nat) : Text.firstDigits (attributeTag n) = Text.ofNat n :=
  (Text.firstRun_iff.mp (firstRun_indexTag (Text.digits_ofNat n))).1

/-- The slot is the number in the tag, also in one made from the place, or else the place. -/
lemma Marking.slot_eq (h : Marking kind ordinal comment slot tag) :
    slot = if Text.firstDigits (tag.getD []) = [] then ordinal
      else Text.numberOf (Text.firstDigits (tag.getD [])) := by
  cases h with
  | numbered htag hdigits =>
      obtain ⟨rfl, hne⟩ := Text.firstRun_iff.mp hdigits
      exact (if_neg hne).symm
  | plain htag hnone => exact (if_pos (Text.firstDigits_eq_nil_iff.mpr hnone)).symm
  | supplied =>
      show ordinal = if Text.firstDigits (attributeTag ordinal) = [] then ordinal
        else Text.numberOf (Text.firstDigits (attributeTag ordinal))
      rw [firstDigits_attributeTag, Text.numberOf_ofNat, ite_self]
  | bare => rfl

/-- The slot is read off the tag unless it has too many digits. -/
lemma Marking.slotOf_tag_iff (h : Marking kind ordinal comment slot tag) :
    slotOf tag ordinal = .ok slot ↔
      (Text.firstDigits (tag.getD [])).length ≤ maxSlotDigits := by
  have hslot := h.slot_eq
  rw [slotOf_eq_ok_iff]
  by_cases hnil : Text.firstDigits (tag.getD []) = []
  · rw [if_pos hnil] at hslot
    simp [hnil, hslot]
  · rw [if_neg hnil] at hslot
    simp [hnil, hslot]

/-- Only a tag made from a place can have a slot with too many digits. -/
lemma Marking.length_firstDigits_le (h : Marking kind ordinal comment slot tag)
    (hordinal : ordinal < 10 ^ maxSlotDigits) :
    (Text.firstDigits (tag.getD [])).length ≤ maxSlotDigits := by
  cases h with
  | numbered htag hdigits hlength =>
      obtain ⟨rfl, -⟩ := Text.firstRun_iff.mp hdigits
      exact hlength
  | plain htag hnone =>
      have hnil := Text.firstDigits_eq_nil_iff.mpr hnone
      rw [Option.getD_some, hnil]
      exact Nat.zero_le _
  | supplied =>
      show (Text.firstDigits (attributeTag ordinal)).length ≤ maxSlotDigits
      rw [firstDigits_attributeTag]
      exact Nat.toDigits_length 10 ordinal maxSlotDigits (by decide) hordinal
  | bare => exact Nat.zero_le _

/-! ### Reading what is written -/

/-- A written declaration is read at its place unless its slot has too many digits. -/
lemma Reads.printed_iff (h : Reads kind ordinal line d) :
    Reads kind ordinal d.printed d ↔ d.tagDigits.length ≤ maxSlotDigits := by
  obtain ⟨rfl, comment, hform, hmarking⟩ := h
  have hprinted := form_printed hform.type_identifier hform.name_identifier
  have htag := hmarking.tagOf_printedComment
  rw [tagDigits, ← hmarking.slotOf_tag_iff]
  constructor
  · rintro ⟨-, comment', hform', hmarking'⟩
    have hslot := (marking_iff.mp hmarking').1
    rwa [(hform'.parts_unique hprinted).2.2, htag] at hslot
  · intro hslot
    refine ⟨rfl, _, hprinted, marking_iff.mpr ?_⟩
    rw [htag]
    exact ⟨hslot, hmarking.finalTag_eq⟩

/-- The digits in the tag of a declaration that was read are not too many. -/
lemma Reads.length_tagDigits_le (h : Reads kind ordinal line d)
    (hordinal : ordinal < 10 ^ maxSlotDigits) : d.tagDigits.length ≤ maxSlotDigits := by
  obtain ⟨-, comment, -, hmarking⟩ := h
  exact hmarking.length_firstDigits_le hordinal

/-- A tag has no line break. -/
lemma StartsWithTag.unbroken {tag : Text} (h : StartsWithTag comment tag) : Unbroken tag := by
  obtain ⟨b, inner, rest, -, -, -, hinner, rfl, -⟩ := h
  have hunbroken : Unbroken inner := Text.unbroken_of_no_blank fun c hc => (hinner c hc).2
  exact (Text.Unbroken.append (by decide) hunbroken).append (by decide)

/-- The tag of a declaration that was read has no line break. -/
lemma Reads.unbroken_tag {tag : Text} (h : Reads kind ordinal line d) (htag : d.tag = some tag) :
    Unbroken tag := by
  obtain ⟨-, comment, -, hmarking⟩ := h
  have hprinted := hmarking.tagOf_printedComment
  rw [htag] at hprinted
  exact (tagOf_eq_some_iff.mp hprinted).unbroken

/-- A written declaration is one line. -/
lemma Reads.unbroken_printed (h : Reads kind ordinal line d) : Unbroken d.printed := by
  have htrailer : Unbroken (printedTrailer d.tag) := by
    rcases hgiven : d.tag with _ | tag
    · exact List.forall_mem_nil _
    · exact Text.Unbroken.append (by decide) (h.unbroken_tag hgiven)
  obtain ⟨-, comment, hform, -⟩ := h
  have hkeyword := Text.unbroken_of_isIdentifier (isIdentifier_keyword d.kind)
  have htype := Text.unbroken_of_isIdentifier hform.type_identifier
  have hname := Text.unbroken_of_isIdentifier hform.name_identifier
  have hspace : Unbroken " " := by decide
  unfold printed
  exact (((((hkeyword.append hspace).append htype).append hspace).append hname).append
    (by decide)).append htrailer

/-- The declarations read off lines can be read off their written lines, at the same places. -/
lemma forall₂_printed_iff {lines : List Text} {ds : List Declaration}
    (h : List.Forall₂ (fun p d => Reads kind p.2 p.1 d) (lines.zipIdx ordinal) ds) :
    List.Forall₂ (fun p d => Reads kind p.2 p.1 d) ((ds.map printed).zipIdx ordinal) ds ↔
      ∀ d ∈ ds, d.tagDigits.length ≤ maxSlotDigits := by
  induction lines generalizing ordinal ds with
  | nil =>
      obtain rfl := List.forall₂_nil_left_iff.mp h
      simp
  | cons line lines ih =>
      rw [List.zipIdx_cons] at h
      obtain ⟨d, ds, hd, hds, rfl⟩ := List.forall₂_cons_left_iff.mp h
      rw [List.map_cons, List.zipIdx_cons, List.forall₂_cons, ih hds, List.forall_mem_cons,
        hd.printed_iff]

/-- What is read off lines numbered from `ordinal` is read off one of them. -/
lemma exists_reads_of_mem {lines : List Text} {ds : List Declaration}
    (h : List.Forall₂ (fun p d => Reads kind p.2 p.1 d) (lines.zipIdx ordinal) ds) (hd : d ∈ ds) :
    ∃ line i, i < ordinal + ds.length ∧ Reads kind i line d := by
  induction lines generalizing ordinal ds with
  | nil =>
      obtain rfl := List.forall₂_nil_left_iff.mp h
      cases hd
  | cons line lines ih =>
      rw [List.zipIdx_cons] at h
      obtain ⟨e, ds, he, hds, rfl⟩ := List.forall₂_cons_left_iff.mp h
      rcases List.mem_cons.mp hd with rfl | hd
      · exact ⟨line, ordinal, by simp, he⟩
      · obtain ⟨line', i, hi, hread⟩ := ih hds hd
        exact ⟨line', i, by rw [List.length_cons]; omega, hread⟩

/-- The lines of the written declarations are read one after the other. -/
lemma keywordLines_printed {ds : List Declaration}
    (h : ∀ d ∈ ds, ∃ line i, Reads kind i line d) :
    keywordLines kind (Text.ofLines (ds.map printed)) = ds.map printed := by
  have hlines : Text.lines (Text.ofLines (ds.map printed)) = ds.map printed := by
    apply Text.lines_ofLines
    intro line hline
    obtain ⟨d, hd, rfl⟩ := List.mem_map.mp hline
    obtain ⟨_, _, hread⟩ := h d hd
    exact hread.unbroken_printed
  rw [keywordLines, hlines, List.filter_eq_self]
  intro line hline
  obtain ⟨d, hd, rfl⟩ := List.mem_map.mp hline
  obtain ⟨_, _, rfl, comment, hform, -⟩ := h d hd
  exact startsWith_of_form (form_printed hform.type_identifier hform.name_identifier)

/-- **Declarations are read back from what is written of them.** What is read off a source, written
one declaration a line, is read again as the same declarations, in the same order. The one
exception is an attribute whose place has more digits than a slot may have, which takes more than
`10 ^ maxSlotDigits` declarations. -/
theorem collect_ofLines_printed {source : Text} {ds : List Declaration}
    (hcollect : (collect source kind stage).result = .ok ds) :
    (ds.length ≤ 10 ^ maxSlotDigits →
      (collect (Text.ofLines (ds.map printed)) kind stage).result = .ok ds) ∧
    ((collect (Text.ofLines (ds.map printed)) kind stage).result = .ok ds ↔
      ∀ d ∈ ds, d.tagDigits.length ≤ maxSlotDigits) := by
  have hreads := collectFrom_eq_ok_iff.mp hcollect
  have hiff : (collect (Text.ofLines (ds.map printed)) kind stage).result = .ok ds ↔
      ∀ d ∈ ds, d.tagDigits.length ≤ maxSlotDigits := by
    have hlines : keywordLines kind (Text.ofLines (ds.map printed)) = ds.map printed := by
      refine keywordLines_printed fun d hd => ?_
      obtain ⟨line, i, -, hread⟩ := exists_reads_of_mem hreads hd
      exact ⟨line, i, hread⟩
    rw [collect, collectFrom_eq_ok_iff, ← keywordLines, hlines, forall₂_printed_iff hreads]
  refine ⟨fun hlength => hiff.mpr fun d hd => ?_, hiff⟩
  obtain ⟨line, i, hi, hread⟩ := exists_reads_of_mem hreads hd
  exact hread.length_tagDigits_le (by omega)

/-- A tag made from a place, one with a digit of another script and one without a digit, below a
line that is passed over. -/
theorem collect_ofLines_printed_three_tags :
    ∃ ds : List Declaration,
      (collect (Text.ofLines ["vec3 l;", "attribute vec3 p;", " attribute  vec2 uv;//[[a٣]]  c",
        "attribute vec4 c ; // [[flat]]"]) .attribute .vertex).result = .ok ds ∧
      ds.map (·.slot) = [0, 3, 2] ∧
      ds.map (·.tag.getD []) = (["[[attribute(0)]]", "[[a٣]]", "[[flat]]"] : List Text) ∧
      (collect (Text.ofLines (ds.map printed)) .attribute .vertex).result = .ok ds := by
  have hcollect : (collect (Text.ofLines ["vec3 l;", "attribute vec3 p;",
      " attribute  vec2 uv;//[[a٣]]  c", "attribute vec4 c ; // [[flat]]"])
      .attribute .vertex).result =
      .ok [⟨.attribute, "vec3", "p", 0, some "[[attribute(0)]]"⟩,
        ⟨.attribute, "vec2", "uv", 3, some "[[a٣]]"⟩,
        ⟨.attribute, "vec4", "c", 2, some "[[flat]]"⟩] := rfl
  have hthree : 3 ≤ 10 ^ maxSlotDigits := by
    have hlt : maxSlotDigits < 10 ^ maxSlotDigits := Nat.lt_pow_self (by omega)
    have hle : 3 ≤ maxSlotDigits := by decide
    omega
  exact ⟨_, hcollect, rfl, rfl, (collect_ofLines_printed hcollect).1 hthree⟩

end MetalLowering.Declaration
