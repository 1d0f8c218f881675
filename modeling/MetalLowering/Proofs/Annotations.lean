import MetalLowering.Proofs.DeclarationReading
import MetalLowering.Proofs.StructLines

/-!
# Annotations with spaces in them

An annotation is what stands in double brackets at the front of a comment. Spaces are allowed
between the brackets, but a comment is read word by word, so an annotation with a space is cut apart
before its form is looked at. `kept_iff` says what becomes of the annotation of each declaration in
a source. It is kept, gives the slot and is written behind the field exactly if there is no space in
it. One with a space is lost, and the declaration is read as if it had none.

Two facts carry it. A comment starts with one annotation at most (`Annotated.unique`), and a tag is
an annotation without a space (`startsWithTag_iff`).
-/

namespace MetalLowering

namespace Declaration

open Text (Apart Blanks FirstRun)

variable {kind : DeclarationKind} {line type name comment tag : Text} {ordinal : Nat}
  {d : Declaration}

/-! ### Annotations -/

/-- A comment that starts with the annotation `tag`: double brackets with something between them,
spaces included, behind blanks at most. -/
def Annotated (comment tag : Text) : Prop :=
  ∃ b inner rest : Text, Blanks b ∧ Apart rest ∧ inner ≠ [] ∧ (∀ c ∈ inner, isTagChar c = true) ∧
    tag = "[[" ++ inner ++ "]]" ∧ comment = b ++ tag ++ rest

/-- An annotation goes from the first character of a comment that is no blank to the first closing
bracket. -/
lemma Annotated.eq_takeWhile (h : Annotated comment tag) :
    tag = (Text.trimLeft comment).takeWhile (· ≠ ']') ++ "]]" := by
  obtain ⟨b, inner, rest, hb, -, -, hinner, rfl, rfl⟩ := h
  have hopen : ∀ c ∈ "[[" ++ inner, decide (c ≠ ']') = true := by
    intro c hc
    rw [decide_eq_true_iff]
    rintro rfl
    rcases List.mem_append.mp hc with hc | hc
    · exact absurd hc (by decide)
    · exact absurd (hinner _ hc) (by decide)
  have htrim : Text.trimLeft (b ++ ("[[" ++ inner ++ "]]") ++ rest) =
      "[[" ++ inner ++ (']' :: ']' :: rest) := by
    rw [List.append_assoc b, Text.trimLeft_blanks_append hb, List.append_assoc _ "]]".toList]
    exact Text.trimLeft_of_flush (Text.flush_cons (by decide) _)
  rw [htrim, List.takeWhile_append_of_pos hopen, List.takeWhile_cons_of_neg (by simp),
    List.append_nil]

/-- A comment has one tag only. -/
lemma Annotated.unique {other : Text} (h : Annotated comment tag) (h' : Annotated comment other) :
    tag = other :=
  h.eq_takeWhile.trans h'.eq_takeWhile.symm

/-- No tag is empty. -/
lemma Annotated.ne_nil (h : Annotated comment tag) : tag ≠ [] := by
  rw [h.eq_takeWhile]
  exact List.append_ne_nil_of_right_ne_nil _ (by simp)

/-- The only blank that can stand in a tag is a space. -/
lemma isBlank_of_isTagChar {c : Char} (h : isTagChar c = true) :
    Text.isBlank c = false ↔ c ≠ ' ' := by
  constructor
  · rintro hblank rfl
    cases hblank
  · intro hspace
    simp only [isTagChar, Bool.or_eq_true, decide_eq_true_iff] at h
    rcases h with (((h | rfl) | rfl) | rfl) | rfl
    · exact Text.isBlank_of_isWordChar h
    · decide
    · decide
    · decide
    · exact absurd rfl hspace

/-- What is read as a tag is an annotation without a space. -/
lemma startsWithTag_iff : StartsWithTag comment tag ↔ Annotated comment tag ∧ ' ' ∉ tag := by
  have hbrackets : ∀ inner : Text, ' ' ∈ "[[" ++ inner ++ "]]" ↔ ' ' ∈ inner := by simp
  constructor
  · rintro ⟨b, inner, rest, hb, hrest, hne, hinner, rfl, rfl⟩
    refine ⟨⟨b, inner, rest, hb, hrest, hne, fun c hc => (hinner c hc).1, rfl, rfl⟩, ?_⟩
    rw [hbrackets]
    intro hspace
    exact (isBlank_of_isTagChar (hinner _ hspace).1).mp (hinner _ hspace).2 rfl
  · rintro ⟨⟨b, inner, rest, hb, hrest, hne, hinner, rfl, rfl⟩, hspace⟩
    rw [hbrackets] at hspace
    refine ⟨b, inner, rest, hb, hrest, hne, fun c hc => ⟨hinner c hc, ?_⟩, rfl, rfl⟩
    exact (isBlank_of_isTagChar (hinner c hc)).mpr fun h => hspace (h ▸ hc)

/-- The tag that is read off a comment with an annotation: none, if the annotation has a space. -/
lemma Annotated.tagOf_eq (h : Annotated comment tag) :
    tagOf comment = if ' ' ∈ tag then none else some tag := by
  split_ifs with hspace
  · rw [tagOf_eq_none_iff]
    intro other hother
    obtain ⟨hannotated, hnone⟩ := startsWithTag_iff.mp hother
    exact hnone (h.unique hannotated ▸ hspace)
  · exact tagOf_eq_some_iff.mpr (startsWithTag_iff.mpr ⟨h, hspace⟩)

/-! ### What becomes of an annotation -/

/-- The declaration `d` at the place `ordinal` keeps the annotation `tag`. -/
structure Keeps (ds : List Declaration) (ordinal : Nat) (d : Declaration) (tag : Text) : Prop where
  /-- The annotation is the tag. -/
  tag_eq : d.tag = some tag
  /-- The first number in the annotation is the slot. -/
  slot_eq : ∀ digits, FirstRun tag digits → d.slot = Text.numberOf digits
  /-- In the vertex struct the annotation stands behind the field. -/
  vertex_line : (Metal.vertexInputs ds).lines[ordinal + 1]? =
    some (Metal.taggedLine (Vocabulary.mapTypes d.type) d.name tag)
  /-- In the rasterizer struct, too, one line further down. -/
  rasterizer_line : (Metal.rasterizer ds).lines[ordinal + 2]? =
    some (Metal.taggedLine (Vocabulary.mapTypes d.type) d.name tag)

/-- The tag that an attribute is given has no space in it. -/
lemma not_mem_attributeTag (slot : Nat) : ' ' ∉ attributeTag slot := by
  intro hspace
  unfold attributeTag at hspace
  rcases List.mem_append.mp hspace with hspace | hspace
  · rcases List.mem_append.mp hspace with hspace | hspace
    · exact absurd hspace (by decide)
    · exact absurd (Text.isDigit_of_mem_ofNat hspace) (by decide)
  · exact absurd hspace (by decide)

/-- A tag that is read is kept in all it is for. -/
lemma keeps_of_tag_eq {ds : List Declaration} (hd : ds[ordinal]? = some d) (hne : tag ≠ [])
    (htag : d.tag = some tag) (hslot : slotOf (some tag) ordinal = .ok d.slot) :
    Keeps ds ordinal d tag := by
  have hline : (Metal.Field.ofDeclaration d).line =
      Metal.taggedLine (Vocabulary.mapTypes d.type) d.name tag :=
    Metal.Field.line_eq_taggedLine htag hne
  have hfield : (ds.map Metal.Field.ofDeclaration)[ordinal]? = some (.ofDeclaration d) := by
    rw [List.getElem?_map, hd, Option.map_some]
  refine ⟨htag, fun digits hrun => ?_, ?_, ?_⟩
  · obtain ⟨rfl, hdigits⟩ := Text.firstRun_iff.mp hrun
    obtain ⟨hnil, -⟩ | ⟨-, -, hnumber⟩ := slotOf_eq_ok_iff.mp hslot
    · exact absurd hnil hdigits
    · exact hnumber
  · rw [← hline]
    exact Metal.Struct.lines_getElem? hfield
  · rw [← hline]
    exact Metal.Struct.lines_getElem? (s := Metal.rasterizer ds) hfield

/-- What a declaration is read to be, by any way to see its line as one. -/
lemma Reads.of_form (h : Reads kind ordinal line d) (hform : Form kind line type name comment) :
    d.type = type ∧ d.name = name ∧ slotOf (tagOf comment) ordinal = .ok d.slot ∧
      finalTag kind d.slot (tagOf comment) = d.tag := by
  obtain ⟨-, comment', hform', hmarking⟩ := h
  obtain ⟨htype, hname, htag⟩ := hform'.parts_unique hform
  rw [marking_iff, htag] at hmarking
  exact ⟨htype, hname, hmarking⟩

/-- The declarations of a kind are read if all lines with the keyword are of the grammar. -/
lemma exists_collect_iff (source : Text) (kind : DeclarationKind) (stage : Stage) :
    (∃ ds, (collect source kind stage).result = .ok ds) ↔
      ∀ line ∈ keywordLines kind source, Grammatical kind line := by
  rw [(decides_collect source kind stage).ok_iff]
  simp only [keywordLines, List.mem_filter, and_imp, grammatical_iff]

/-- There is a declaration for each line with the keyword, at the same place. -/
lemma exists_reads {source : Text} {stage : Stage} {ds : List Declaration}
    (hcollect : (collect source kind stage).result = .ok ds)
    (hline : (keywordLines kind source)[ordinal]? = some line) :
    ∃ d, ds[ordinal]? = some d ∧ Reads kind ordinal line d := by
  obtain ⟨hlength, hget⟩ := List.forall₂_iff_get.mp (collectFrom_eq_ok_iff.mp hcollect)
  obtain ⟨hlt, rfl⟩ := List.getElem?_eq_some_iff.mp hline
  have hzip : ordinal < (keywordLines kind source).zipIdx.length := by rwa [List.length_zipIdx]
  have hds : ordinal < ds.length := hlength ▸ hzip
  refine ⟨ds[ordinal], List.getElem?_eq_getElem hds, ?_⟩
  simpa [keywordLines] using hget ordinal hzip hds

/-- The declarations of a source in which all lines with the keyword are of the grammar: a
declaration with an annotation keeps it exactly if there is no space in it. With a space, it has the
slot by its place, and the tag made from it or none. -/
theorem kept_iff (source : Text) (kind : DeclarationKind) (stage : Stage)
    (hgrammar : ∀ line ∈ keywordLines kind source, Grammatical kind line) :
    ∃ ds, (collect source kind stage).result = .ok ds ∧
      ∀ i line type name comment tag, (keywordLines kind source)[i]? = some line →
        Form kind line type name comment → Annotated comment tag →
        ∃ d, ds[i]? = some d ∧ d.type = type ∧ d.name = name ∧ (Keeps ds i d tag ↔ ' ' ∉ tag) ∧
          (' ' ∈ tag → d.slot = i ∧
            d.tag = if kind = .attribute then some (attributeTag i) else none) := by
  obtain ⟨ds, hcollect⟩ := (exists_collect_iff source kind stage).mpr hgrammar
  refine ⟨ds, hcollect, ?_⟩
  intro i line type name comment tag hline hform hannotated
  obtain ⟨d, hd, hreads⟩ := exists_reads hcollect hline
  obtain ⟨htype, hname, hslot, htag⟩ := hreads.of_form hform
  refine ⟨d, hd, htype, hname, ?_⟩
  rw [hannotated.tagOf_eq] at hslot htag
  by_cases hspace : ' ' ∈ tag
  · rw [if_pos hspace] at hslot htag
    obtain hplace : i = d.slot := Except.ok.inj hslot
    rw [finalTag_none, ← hplace] at htag
    refine ⟨⟨fun hkeeps => ?_, fun hnone => absurd hspace hnone⟩, fun _ => ⟨hplace.symm, htag.symm⟩⟩
    have hmade : attributeTag i = tag := by
      rw [hkeeps.tag_eq] at htag
      split_ifs at htag
      exact Option.some.inj htag
    rw [← hmade]
    exact not_mem_attributeTag i
  · rw [if_neg hspace] at hslot htag
    have hgiven : d.tag = some tag := htag.symm.trans (by cases kind <;> rfl)
    have hkeeps : Keeps ds i d tag := keeps_of_tag_eq hd hannotated.ne_nil hgiven hslot
    exact ⟨⟨fun _ => hspace, fun _ => hkeeps⟩, fun h => absurd h hspace⟩

/-- A declaration with one space between its words and a comment right behind it. -/
lemma form_single_spaced (kind : DeclarationKind) (type name comment : Text)
    (htype : Text.isIdentifier type = true) (hname : Text.isIdentifier name = true) :
    Form kind (kind.keyword ++ (" " ++ type ++ (" " ++ name)) ++ (";//" ++ comment)) type name
      comment := by
  have hspace : Text.Gap " " := ⟨by decide, by decide⟩
  have hnil : Blanks [] := by decide
  exact ⟨htype, hname, [], " ", " ", [], [], "//" ++ comment, hnil, hspace, hspace, hnil, hnil,
    Or.inr rfl, by simp⟩

/-- An annotation without a space is kept. -/
theorem kept_without_space :
    ∃ ds d, (collect "varying vec2 uv;// [[user(locn3)]] c" .varying .vertex).result = .ok ds ∧
      ds[0]? = some d ∧ Keeps ds 0 d "[[user(locn3)]]" := by
  have hgrammar := (exists_collect_iff "varying vec2 uv;// [[user(locn3)]] c" .varying .vertex).mp
    ⟨_, rfl⟩
  obtain ⟨ds, hcollect, hkept⟩ := kept_iff _ .varying .vertex hgrammar
  have hform : Form .varying "varying vec2 uv;// [[user(locn3)]] c" "vec2" "uv"
      " [[user(locn3)]] c" :=
    form_single_spaced .varying "vec2" "uv" _ (by decide) (by decide)
  have hannotated : Annotated " [[user(locn3)]] c" "[[user(locn3)]]" :=
    ⟨" ", "user(locn3)", " c", by decide, by rintro _ ⟨⟩; rfl, by decide,
      List.all_eq_true.mp rfl, rfl, rfl⟩
  obtain ⟨d, hd, -, -, hkeeps, -⟩ := hkept 0 _ _ _ _ _ (by decide) hform hannotated
  exact ⟨ds, d, hcollect, hd, hkeeps.mpr (by decide)⟩

/-- An annotation with a space is lost: the varying has no tag. -/
theorem lost_behind_space :
    ∃ comment ds d, Form .varying "varying vec2 uv;//[[user(locn0), flat]]" "vec2" "uv" comment ∧
      Annotated comment "[[user(locn0), flat]]" ∧
      (collect "varying vec2 uv;//[[user(locn0), flat]]" .varying .vertex).result = .ok ds ∧
      ds[0]? = some d ∧ d.tag = none ∧ ¬Keeps ds 0 d "[[user(locn0), flat]]" := by
  refine ⟨"[[user(locn0), flat]]", [⟨.varying, "vec2", "uv", 0, none⟩],
    ⟨.varying, "vec2", "uv", 0, none⟩, ?_, ?_, rfl, rfl, rfl, ?_⟩
  · exact form_single_spaced .varying "vec2" "uv" _ (by decide) (by decide)
  · exact ⟨[], "user(locn0), flat", [], by decide, by rintro _ ⟨⟩, by decide,
      List.all_eq_true.mp rfl, rfl, rfl⟩
  · rintro ⟨htag, -⟩
    cases htag

end Declaration

end MetalLowering
