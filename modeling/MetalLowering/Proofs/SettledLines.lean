import MetalLowering.Proofs.DeclarationReading
import MetalLowering.Proofs.EmittedLines
import MetalLowering.Proofs.MappedWords
import MetalLowering.Proofs.SampledParts

/-!
# Lines without words that Metal spells otherwise

The lines that the vocabulary leaves alone are those without a vector or matrix type and, in the
fragment stage, without a derivative (`mapLine_eq_self_iff`). Main statement: every line that a
stage puts out is one of these, but for the text behind a closing brace on the line of the opening
one, which is put out as it stands in the source (`mapLine_lower`).

A line is mapped before its names are replaced and its calls are lowered. Neither brings a word back
that is mapped: an access holds the name that it stands for and words of Metal
(`wordsIn_of_mem_fragmentPairs`), and a sample the name of its texture and that of the sampler
(`Sampling.wordsIn_substitute`).
-/

namespace MetalLowering

open Text (Word WordsIn KeepsWords pieces mapPieces)

namespace Text

variable {P : Text → Prop} {f : Option Char → Text → Text → Text}

/-- The words of a text are pieces of it. -/
lemma wordsIn_iff {t : Text} : WordsIn P t ↔ ∀ w ∈ pieces t, Word w → P w := by
  constructor
  · intro h
    induction h with
    | nil =>
        intro w hw
        cases hw
    | mark hc _ ih =>
        rw [pieces_mark hc]
        exact List.forall_mem_cons.mpr ⟨fun hword => absurd hword (not_word_singleton hc), ih⟩
    | word hw ht hp _ ih =>
        rw [pieces_word hw ht]
        exact List.forall_mem_cons.mpr ⟨fun _ => hp, ih⟩
  · intro h
    induction wordsIn_true t with
    | nil => exact .nil
    | mark hc _ ih =>
        rw [pieces_mark hc] at h
        exact .mark hc (ih (List.forall_mem_cons.mp h).2)
    | word hw ht _ _ ih =>
        rw [pieces_word hw ht] at h
        obtain ⟨hp, hrest⟩ := List.forall_mem_cons.mp h
        exact .word hw ht (hp hw) (ih hrest)

/-- The words that a replacement of pieces gives. -/
lemma KeepsWords.wordsIn_mapPieces (h : KeepsWords f)
    (hf : ∀ before w behind, Word w → P (f before w behind)) (before : Option Char) (t : Text) :
    WordsIn P (mapPieces f before (pieces t)) := by
  induction wordsIn_true t generalizing before with
  | nil => exact .nil
  | mark hc _ ih =>
      rw [h.mapPieces_mark before hc]
      exact .mark hc (ih _)
  | word hw ht _ _ ih =>
      rw [mapPieces_word f before hw ht]
      exact .word (h.word before _ hw) (h.ends_mapPieces ht _) (hf before _ _ hw) (ih _)

/-- A replacement that gives every word of a text for itself. -/
lemma KeepsWords.mapPieces_eq_self (h : KeepsWords f) {t : Text}
    (ht : WordsIn (fun w => ∀ before behind, f before w behind = w) t) (before : Option Char) :
    mapPieces f before (pieces t) = t := by
  induction ht generalizing before with
  | nil => rfl
  | mark hc _ ih => rw [h.mapPieces_mark before hc, ih]
  | word hw ht hp _ ih => rw [mapPieces_word f before hw ht, hp, ih]

end Text

namespace Vocabulary

variable {stage : Stage} {line w : Text}

/-! ### Lines that are left alone -/

/-- The types of vectors and matrices. -/
def compoundTypes : List Text :=
  ["vec2", "vec3", "vec4", "ivec2", "ivec3", "ivec4", "bvec2", "bvec3", "bvec4",
    "mat2", "mat3", "mat4"]

/-- The derivatives of a value between neighbouring fragments. -/
def derivatives : List Text := ["dFdx", "dFdy"]

/-- The words that a stage does not leave as they are. -/
def respelled : Stage → List Text
  | .vertex => compoundTypes
  | .fragment => compoundTypes ++ derivatives

/-- A line in which nothing is left to respell. -/
def Translated (stage : Stage) (line : Text) : Prop := ∀ w ∈ pieces line, w ∉ respelled stage

instance (stage : Stage) (line : Text) : Decidable (Translated stage line) :=
  inferInstanceAs (Decidable (∀ w ∈ pieces line, w ∉ respelled stage))

/-- The words that a stage respells are words. -/
lemma word_respelled (stage : Stage) : ∀ w ∈ respelled stage, Word w := by
  cases stage <;> decide

/-- Nothing is left to respell in a line exactly if none of its words is respelled. -/
lemma translated_iff : Translated stage line ↔ WordsIn (· ∉ respelled stage) line := by
  rw [Text.wordsIn_iff]
  constructor
  · intro h w hw _
    exact h w hw
  · intro h w hw hmem
    exact h w hw (word_respelled stage w hmem) hmem

/-- A mark at the front of a line changes nothing. -/
lemma translated_mark {c : Char} (hc : Text.isWordChar c = false) :
    Translated stage (c :: line) ↔ Translated stage line := by
  unfold Translated
  rw [Text.pieces_mark hc, List.forall_mem_cons]
  exact and_iff_right fun hmem => Text.not_word_singleton hc (word_respelled stage _ hmem)

/-- A word keeps its spelling exactly if its stage does not respell it. -/
lemma spell_eq_self_iff : spell (stageNames stage) w = w ↔ w ∉ respelled stage := by
  have hlisted : ∀ w ∈ respelled stage, spell (stageNames stage) w ≠ w := by
    cases stage <;> decide
  have hothers : ∀ entry ∈ stageNames stage, entry.1 ∉ respelled stage → entry.2 = entry.1 := by
    cases stage <;> decide
  constructor
  · intro h hmem
    exact hlisted w hmem h
  · intro hnot
    rcases spell_cases (stageNames stage) w with hkeep | ⟨entry, hentry, rfl, hspelling⟩
    · exact hkeep
    · rw [hspelling, hothers entry hentry hnot]

/-- A settled word is one that the vertex stage does not respell. -/
lemma settled_iff : Settled w ↔ w ∉ respelled .vertex := by
  rw [← spell_eq_self_iff]
  rfl

/-- A word that its stage does not respell is not translated. -/
lemma translate_of_not_mem (h : w ∉ respelled stage) (behind : Text) :
    translate stage w behind = w := by
  have hmatrix : "mat3".toList ∈ respelled stage := by cases stage <;> decide
  unfold translate
  rw [if_neg]
  · exact spell_eq_self_iff.mpr h
  · rintro ⟨rfl, -⟩
    exact h hmatrix

/-- What stands for a piece is not respelled. -/
lemma translate_not_mem (stage : Stage) (piece behind : Text) :
    translate stage piece behind ∉ respelled stage := by
  obtain ⟨hhelper, hnames⟩ := settled_stageNames stage
  unfold translate
  split_ifs
  · exact spell_eq_self_iff.mp hhelper
  · rcases spell_cases (stageNames stage) piece with hkeep | ⟨entry, hentry, -, hspelling⟩
    · rw [hkeep]
      exact spell_eq_self_iff.mp hkeep
    · rw [hspelling]
      exact spell_eq_self_iff.mp (hnames entry hentry).1

/-- No word of a mapped line is respelled again. -/
lemma wordsIn_mapLine (stage : Stage) (line : Text) :
    WordsIn (· ∉ respelled stage) (mapLine stage line) := by
  rw [mapLine_eq]
  exact (keepsWords_translate stage).wordsIn_mapPieces
    (fun _ w behind _ => translate_not_mem stage w behind) none line

/-- The lines that a stage leaves alone are those in which nothing is left to respell. -/
lemma mapLine_eq_self_iff : mapLine stage line = line ↔ Translated stage line := by
  rw [translated_iff]
  constructor
  · intro h
    exact h ▸ wordsIn_mapLine stage line
  · intro h
    rw [mapLine_eq]
    refine (keepsWords_translate stage).mapPieces_eq_self ?_ none
    exact h.imp fun w hw _ behind => translate_of_not_mem hw behind

end Vocabulary

/-! ### What the sampling passes put in -/

namespace Sampling

variable {P : Text → Prop} {t line : Text}

/-- The pass for a texture puts in its name, that of its sampler, and one more word. -/
lemma wordsIn_substitute (hword : Word t) (htexture : P t) (hsampler : P (t ++ Metal.samplerSuffix))
    (hsample : P "sample") (hline : WordsIn P line) :
    WordsIn P (Text.substitute (plainRule t) line) := by
  obtain ⟨parts, hparts, hsource, hgiven⟩ := exists_parts_substitute hword line
  rw [Text.wordsIn_iff] at hline ⊢
  rw [hgiven]
  intro w hw hwordPiece
  obtain ⟨part, hpart, hw⟩ := List.mem_flatMap.mp hw
  cases part with
  | piece p =>
      refine hline w ?_ hwordPiece
      rw [← hsource]
      exact List.mem_flatMap.mpr ⟨.piece p, hpart, hw⟩
  | call c =>
      obtain rfl : c.texture = t := List.mem_singleton.mp (hparts c hpart).texture_mem
      have hmarks : ¬Word (".".toList) ∧ ¬Word ("(".toList) := by decide
      simp only [Part.given, SampleCall.sample, List.mem_cons, List.not_mem_nil, or_false] at hw
      rcases hw with rfl | rfl | rfl | rfl | rfl
      · exact htexture
      · exact absurd hwordPiece hmarks.1
      · exact hsample
      · exact absurd hwordPiece hmarks.2
      · exact hsampler

end Sampling

namespace Lowering

open Vocabulary (Translated respelled)

variable {s : Lowering} {pairs : List (Text × Text)} {source line : Text} {stage : Stage}

/-! ### The words of both tables -/

/-- The structs of the fragment stage whose fields stand for names. -/
def fragmentOwners : List Text := [Metal.uniformsInput, Metal.fragmentInput]

/-- Every name of the fragment stage becomes a field of its own name, or the output variable. -/
lemma mem_fragmentPairs {metadata : Metadata} {varyings : List Text} {pair : Text × Text}
    (h : pair ∈ fragmentPairs metadata varyings) :
    (∃ owner ∈ fragmentOwners, pair.2 = Metal.member owner pair.1) ∨
      pair.2 = Metal.output .fragment := by
  obtain ⟨e, he, rfl⟩ := List.mem_map.mp h
  rcases mem_fragmentEntries.mp he with ⟨u, -, rfl⟩ | ⟨name, -, rfl⟩ | rfl
  · exact Or.inl ⟨Metal.uniformsInput, by simp [fragmentOwners], rfl⟩
  · exact Or.inl ⟨Metal.fragmentInput, by simp [fragmentOwners], rfl⟩
  · exact Or.inr rfl

/-- The accesses of the fragment stage hold no word that is respelled, if their names are none. -/
lemma wordsIn_of_mem_fragmentPairs {metadata : Metadata} {varyings : List Text} {pair : Text × Text}
    (h : pair ∈ fragmentPairs metadata varyings) (hname : Word pair.1)
    (hnot : pair.1 ∉ respelled .fragment) : WordsIn (· ∉ respelled .fragment) pair.2 := by
  have howners : ∀ owner ∈ fragmentOwners, Word owner ∧ owner ∉ respelled .fragment := by decide
  rcases mem_fragmentPairs h with ⟨owner, howner, haccess⟩ | haccess
  · obtain ⟨hword, howner⟩ := howners owner howner
    rw [haccess]
    exact wordsIn_member hword howner hname hnot
  · rw [haccess]
    exact .of_word (by decide) (by decide)

/-- A lowering whose table and textures bring no word into a line that is respelled. -/
structure Translates (s : Lowering) (pairs : List (Text × Text)) : Prop where
  /-- The names of the table and the textures are identifiers. -/
  named : s.Named pairs
  /-- An access brings no such word in the place of a name that is none. -/
  access : ∀ pair ∈ pairs, pair.1 ∉ respelled s.stage → WordsIn (· ∉ respelled s.stage) pair.2
  /-- No texture is called like this. -/
  texture : ∀ texture ∈ s.textures, texture.name ∉ respelled s.stage

/-- A lowering for identifiers translates its lines, if it respells no name of a texture. -/
lemma OfIdentifiers.exists_translates (h : OfIdentifiers s)
    (htextures : ∀ texture ∈ s.textures, texture.name ∉ respelled s.stage) :
    ∃ pairs, s.Translates pairs := by
  rcases h.cases_stage with ⟨metadata, attributes, varyings, rfl, hnamed⟩ |
    ⟨metadata, varyings, textures, rfl, hnamed⟩
  · refine ⟨_, hnamed, fun pair hpair hnot => ?_, htextures⟩
    have hsettled := wordsIn_of_mem_vertexPairs (FieldTable.mem_of_mem_kept hpair)
      (Text.word_of_isIdentifier (hnamed.name pair hpair)) (Vocabulary.settled_iff.mpr hnot)
    exact hsettled.imp fun w hw => Vocabulary.settled_iff.mp hw
  · refine ⟨_, hnamed, fun pair hpair hnot => ?_, htextures⟩
    exact wordsIn_of_mem_fragmentPairs (FieldTable.mem_of_mem_kept hpair)
      (Text.word_of_isIdentifier (hnamed.name pair hpair)) hnot

/-! ### The lines of a run -/

/-- A sampler is not called like a type or a function. -/
lemma sampler_not_mem (stage : Stage) (t : Text) : t ++ Metal.samplerSuffix ∉ respelled stage := by
  have hlast : ∀ w ∈ respelled stage, w.getLast? ≠ some 'r' := by cases stage <;> decide
  intro hmem
  refine hlast _ hmem ?_
  rw [List.getLast?_append]
  rfl

/-- Sampling textures puts no respelled word into a line. -/
lemma wordsIn_samplingPasses {textures : List EntryPoint.BoundTexture}
    (hwords : ∀ texture ∈ textures, Word texture.name)
    (hnot : ∀ texture ∈ textures, texture.name ∉ respelled stage)
    (hline : WordsIn (· ∉ respelled stage) line) :
    WordsIn (· ∉ respelled stage) (samplingPasses textures line) := by
  have hsample : "sample".toList ∉ respelled stage := by cases stage <;> decide
  induction textures generalizing line with
  | nil => exact hline
  | cons texture textures ih =>
      obtain ⟨hword, hwords⟩ := List.forall_mem_cons.mp hwords
      obtain ⟨htexture, hnot⟩ := List.forall_mem_cons.mp hnot
      exact ih hwords hnot (Sampling.wordsIn_substitute hword htexture
        (sampler_not_mem stage texture.name) hsample hline)

/-- In a body line nothing is left to respell. -/
lemma Translates.wordsIn_bodyLine (h : s.Translates pairs) (line : Text) :
    WordsIn (· ∉ respelled s.stage) (s.bodyLine pairs line) := by
  have hnames : ∀ pair ∈ pairs, Word pair.1 := fun pair hpair =>
    Text.word_of_isIdentifier (h.named.name pair hpair)
  have htextures : ∀ texture ∈ s.textures, Word texture.name := fun texture htexture =>
    Text.word_of_isIdentifier (h.named.texture texture htexture)
  have hmapped := Vocabulary.wordsIn_mapLine s.stage line
  exact wordsIn_samplingPasses htextures h.texture
    (FieldTable.wordsIn_lowerWith hnames h.access hmapped)

/-- A written number is a word. -/
lemma word_ofNat (n : Nat) : Word (Text.ofNat n) := by
  refine ⟨?_, fun c hc => Text.isWordChar_of_isDigit (Text.isDigit_of_mem_ofNat hc)⟩
  exact Nat.toDigits_ne_nil

/-- No written number is respelled. -/
lemma ofNat_not_mem (stage : Stage) (n : Nat) : Text.ofNat n ∉ respelled stage := by
  have hletters : ∀ w ∈ respelled stage, w.all (·.isDigit) = false := by
    cases stage <;> decide
  have hdigits : (Text.ofNat n).all (·.isDigit) = true :=
    List.all_eq_true.mpr fun c hc => Text.isDigit_of_mem_ofNat hc
  intro hmem
  rw [hletters _ hmem] at hdigits
  cases hdigits

/-- The words of the parameter for a texture or a sampler. -/
lemma wordsIn_parameter {front name opening : Text} (hfront : Translated stage front)
    (hname : Word name) (hnot : name ∉ respelled stage) (hopening : Translated stage opening)
    (n : Nat) :
    WordsIn (· ∉ respelled stage)
      (front ++ ' ' :: (name ++ ' ' :: (opening ++ '(' :: (Text.ofNat n ++ ")]]")))) := by
  have hblank : Text.isWordChar ' ' = false := by decide
  have hbracket : Text.isWordChar '(' = false := by decide
  have hclosing : WordsIn (· ∉ respelled stage) ")]]" :=
    .mark (by decide) (.mark (by decide) (.mark (by decide) .nil))
  have hnumber := (WordsIn.of_word (word_ofNat n) (ofNat_not_mem stage n)).append hclosing
    (Text.ends_cons (by decide) _)
  have hbinding := (Vocabulary.translated_iff.mp hopening).append (.mark hbracket hnumber)
    (Text.ends_cons hbracket _)
  have hnamed := (WordsIn.of_word hname hnot).append (.mark hblank hbinding)
    (Text.ends_cons hblank _)
  exact (Vocabulary.translated_iff.mp hfront).append (.mark hblank hnamed)
    (Text.ends_cons hblank _)

/-- No word of a texture parameter is respelled. -/
lemma Translates.wordsIn_textureParameters (h : s.Translates pairs) {slot : Nat} {parameter : Text}
    (hparameter : parameter ∈ EntryPoint.textureParameters slot s.textures) :
    WordsIn (· ∉ respelled s.stage) parameter := by
  obtain ⟨texture, htexture, n, hline⟩ := mem_textureParameters hparameter
  have hword := Text.word_of_isIdentifier (h.named.texture texture htexture)
  rcases hline with rfl | rfl
  · have hfront : Translated s.stage ("    " ++ texture.kind.metalType ++ "<float>") := by
      cases texture.kind <;> cases s.stage <;> decide
    have hopening : Translated s.stage "[[texture" := by cases s.stage <;> decide
    have hwords := wordsIn_parameter hfront hword (h.texture texture htexture) hopening n
    simpa using hwords
  · have hfront : Translated s.stage "    sampler" := by cases s.stage <;> decide
    have hopening : Translated s.stage "[[sampler" := by cases s.stage <;> decide
    have hwords := wordsIn_parameter hfront (Sampling.word_sampler hword)
      (sampler_not_mem s.stage texture.name) hopening n
    simpa using hwords

/-- Nothing is left to respell in the signature. -/
lemma Translates.wordsIn_signature (h : s.Translates pairs) (hline : line ∈ s.signature) :
    WordsIn (· ∉ respelled s.stage) line := by
  rcases signature_cases hline with hfixed | ⟨parameter, hparameter, rfl | rfl⟩
  · have hlines : ∀ line ∈ fixedLines, Translated s.stage line := by
      cases s.stage <;> decide
    exact Vocabulary.translated_iff.mp (hlines line hfixed)
  · exact h.wordsIn_textureParameters hparameter
  · exact (h.wordsIn_textureParameters hparameter).append (.mark (by decide) .nil)
      (Text.ends_cons (by decide) _)

/-- Nothing is left to respell in a line, unless it is the rest of the line that opens and closes
the entry point. -/
lemma Origin.translated (h : Origin s source line) (hs : s.Translates pairs) :
    Translated s.stage line ∨ ∃ tail, line = '\x7d' :: tail ∧ ClosedAtOnce source tail := by
  have hbody := hs.named.plain
  have hblank : Text.isWordChar ' ' = false := by decide
  rw [Vocabulary.translated_iff]
  cases h with
  | mapped _ => exact Or.inl (Vocabulary.wordsIn_mapLine s.stage _)
  | signature hline => exact Or.inl (hs.wordsIn_signature hline)
  | lowered _ hout =>
      obtain rfl := hbody.lowerBodyLine_eq_ok_iff.mp hout
      exact Or.inl (hs.wordsIn_bodyLine _)
  | @statement _ t _ _ _ hout =>
      obtain rfl := hbody.lowerBodyLine_eq_ok_iff.mp hout
      have hwords := hs.wordsIn_bodyLine t
      exact Or.inl (.mark hblank (.mark hblank (.mark hblank (.mark hblank hwords))))
  | returned =>
      have hreturn : Translated s.stage s.returnLine := by
        unfold returnLine
        cases s.stage <;> decide
      exact Or.inl (Vocabulary.translated_iff.mp hreturn)
  | rest _ _ hclosed => exact Or.inr ⟨_, rfl, hclosed⟩

/-- The lines that a stage leaves alone are those without words to respell. In a stage whose names
are identifiers, with no image called like such a word, every line that is put out is one of them,
unless it is the rest of the line that opens and closes the entry point. So all of them are, exactly
if no such word stands behind a closing brace there. -/
theorem mapLine_lower (s : Lowering) (source : Text) (lines : List Text) (hs : OfIdentifiers s)
    (himages : ∀ texture ∈ s.textures, texture.name ∉ respelled s.stage)
    (hrun : (s.lower source).result = .ok lines) :
    (∀ line, s.mapLine line = line ↔ Translated s.stage line) ∧
    (∀ line ∈ lines, s.mapLine line = line ∨
      ∃ tail, line = '\x7d' :: tail ∧ ClosedAtOnce source tail) ∧
    ((∀ line ∈ lines, s.mapLine line = line) ↔
      ∀ tail, ClosedAtOnce source tail → Translated s.stage tail) := by
  obtain ⟨pairs, h⟩ := hs.exists_translates himages
  have hbrace : Text.isWordChar '\x7d' = false := by decide
  have hfixed : ∀ line, s.mapLine line = line ↔ Translated s.stage line := fun line =>
    Vocabulary.mapLine_eq_self_iff
  have hcases : ∀ line ∈ lines, s.mapLine line = line ∨
      ∃ tail, line = '\x7d' :: tail ∧ ClosedAtOnce source tail := by
    intro line hline
    rw [hfixed]
    exact (h.named.origin_of_mem hrun hline).translated h
  refine ⟨hfixed, hcases, ?_, ?_⟩
  · intro hall tail hclosed
    have hmem := h.named.plain.total.mem_of_closedAtOnce hrun hclosed
    exact (Vocabulary.translated_mark hbrace).mp ((hfixed _).mp (hall _ hmem))
  · intro htails line hline
    rcases hcases line hline with hkeep | ⟨tail, rfl, hclosed⟩
    · exact hkeep
    · exact (hfixed _).mpr ((Vocabulary.translated_mark hbrace).mpr (htails tail hclosed))

/-- A constructor before the entry point, and one line for all of its body. -/
theorem mapLine_lower_one_line :
    ∃ lines,
      ((ofFragment ⟨[], [.text "t"]⟩ ["uv"] [⟨"t", .cube⟩]).lower
        "mat3 m = mat3(n);\nvoid main() \x7b textureCube(t, dFdx(uv)); \x7d // vec\n").result =
          .ok lines ∧
      (∀ line ∈ lines, Vocabulary.mapLine .fragment line = line) ∧
      ∀ tail, ClosedAtOnce
        "mat3 m = mat3(n);\nvoid main() \x7b textureCube(t, dFdx(uv)); \x7d // vec\n" tail →
          Translated .fragment tail := by
  have himages : ∀ image ∈ [Json.Value.text "t"], IsIdentifierName image :=
    List.forall_mem_singleton.mpr ⟨"t", rfl, by decide⟩
  obtain ⟨-, -, htails⟩ := mapLine_lower (ofFragment ⟨[], [.text "t"]⟩ ["uv"] [⟨"t", .cube⟩])
    "mat3 m = mat3(n);\nvoid main() \x7b textureCube(t, dFdx(uv)); \x7d // vec\n" _
    (.fragment ⟨[], [.text "t"]⟩ ["uv"] [("t", "samplerCube")] (by simp) (by decide) himages rfl)
    (by decide) rfl
  have hboth := fun hall => And.intro hall (htails.mp hall)
  exact ⟨_, rfl, hboth (by decide)⟩

/-- A declaration behind a closing brace keeps its type. -/
theorem mapLine_lower_behind_brace :
    ¬∀ s source lines, OfIdentifiers s →
      (∀ entry ∈ s.table.entries, ∀ known ∈ Vocabulary.typeNames ++ Vocabulary.functionNames,
        entry.1 ≠ .text known.1) →
      (∀ texture ∈ s.textures, ∀ known ∈ Vocabulary.typeNames ++ Vocabulary.functionNames,
        texture.name ≠ known.1) →
      (s.lower source).result = .ok lines → ∀ line ∈ lines, s.mapLine line = line := by
  intro h
  have hentries : (ofVertex ⟨[], []⟩ [] []).table.entries =
      [(.text "gl_Position", "msl_vertex_out.position".toList)] := rfl
  have hknown : ∀ known ∈ Vocabulary.typeNames ++ Vocabulary.functionNames,
      "gl_Position".toList ≠ known.1 := by decide
  have hfixed := h (ofVertex ⟨[], []⟩ [] []) "void main() \x7b \x7d vec3 x;\n" _
    (.vertex ⟨[], []⟩ [] [] (by simp) (by simp) (by simp) rfl)
    (by
      rw [hentries, List.forall_mem_singleton]
      intro known hmem heq
      exact hknown known hmem (Json.Value.text.inj heq))
    (by simp [ofVertex]) rfl "\x7d vec3 x;" (by decide)
  exact absurd hfixed (by decide)

end Lowering

end MetalLowering
