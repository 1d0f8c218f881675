import MetalLowering.Proofs.Passes

/-!
# Stages whose names are identifiers

`OfIdentifiers` are the lowerings that are made from attributes, uniforms, varyings and images with
identifiers for names. Their tables give identifiers, or fields of identifiers, for identifiers
(`Named`, `OfIdentifiers.exists_named`), so no body line fails, and every line keeps its braces
(`keeps_mapLine`, `Named.keeps_bodyLine`). The signature holds a single brace, the one that opens
the body (`Named.filter_signature`).
-/

namespace MetalLowering

open EntryPoint (BoundTexture)
open Json (Value)

/-- A metadata name that is an identifier. -/
def IsIdentifierName (name : Value) : Prop := ∃ t, name = .text t ∧ Text.isIdentifier t = true

/-- An opening or a closing brace. -/
def isBrace (c : Char) : Bool := c = '\x7b' || c = '\x7d'

/-- There are two braces. -/
lemma isBrace_iff {c : Char} : isBrace c = true ↔ c = '\x7b' ∨ c = '\x7d' := by
  simp [isBrace]

/-- A class of characters without the two braces. -/
lemma isBrace_eq_false {q : Char → Bool} (hopen : q '\x7b' = false) (hclose : q '\x7d' = false)
    {c : Char} (h : q c = true) : isBrace c = false := by
  by_contra hbrace
  rw [Bool.not_eq_false, isBrace_iff] at hbrace
  rcases hbrace with rfl | rfl
  · rw [h] at hopen
    cases hopen
  · rw [h] at hclose
    cases hclose

/-- No blank is a brace. -/
lemma isBrace_of_isBlank {c : Char} (h : Text.isBlank c = true) : isBrace c = false :=
  isBrace_eq_false (by decide) (by decide) h

/-- Blanks are free of braces. -/
lemma free_of_blanks {t : Text} (h : Text.Blanks t) : Text.Free isBrace t := by
  intro c hc
  exact isBrace_of_isBlank (h c hc)

/-- An identifier is free of braces. -/
lemma free_of_isIdentifier {t : Text} (h : Text.isIdentifier t = true) : Text.Free isBrace t := by
  intro c hc
  exact isBrace_eq_false (by decide) (by decide) (Text.isWordChar_of_mem_identifier h hc)

/-- A written number is free of braces. -/
lemma free_ofNat (n : Nat) : Text.Free isBrace (Text.ofNat n) := by
  intro c hc
  have hdigit : c.isDigit = true := Nat.isDigit_of_mem_toDigits (by omega) (by omega) hc
  exact isBrace_eq_false (by decide) (by decide) hdigit

/-- The access of a name: an identifier, or a field of one. -/
def IsAccess (access : Text) : Prop :=
  Text.isIdentifier access = true ∨ ∃ owner field, Text.isIdentifier owner = true ∧
    Text.isIdentifier field = true ∧ access = Metal.member owner field

/-- No access is empty. -/
lemma IsAccess.ne_nil {access : Text} (h : IsAccess access) : access ≠ [] := by
  rcases h with h | ⟨owner, field, -, -, rfl⟩
  · exact Text.ne_nil_of_isIdentifier h
  · simp [Metal.member]

/-- An access is free of braces. -/
lemma IsAccess.free {access : Text} (h : IsAccess access) : Text.Free isBrace access := by
  rcases h with h | ⟨owner, field, howner, hfield, rfl⟩
  · exact free_of_isIdentifier h
  · rw [Metal.member, Text.free_append, Text.free_append]
    exact ⟨⟨free_of_isIdentifier howner, by decide⟩, free_of_isIdentifier hfield⟩

namespace Lowering

/-- A lowering made from attributes, uniforms, varyings and images whose names are identifiers. -/
inductive OfIdentifiers : Lowering → Prop
  /-- The lowering of a vertex stage. -/
  | vertex {s : Lowering} (metadata : Metadata) (attributes varyings : List Text)
      (uniforms : ∀ u ∈ metadata.uniforms, IsIdentifierName u.name)
      (attributes_identifiers : ∀ name ∈ attributes, Text.isIdentifier name = true)
      (varyings_identifiers : ∀ name ∈ varyings, Text.isIdentifier name = true)
      (made : (Lowering.vertex metadata attributes varyings).result = .ok s) : OfIdentifiers s
  /-- The lowering of a fragment stage. -/
  | fragment {s : Lowering} (metadata : Metadata) (varyings : List Text)
      (types : List (Text × Text))
      (uniforms : ∀ u ∈ metadata.uniforms, IsIdentifierName u.name)
      (varyings_identifiers : ∀ name ∈ varyings, Text.isIdentifier name = true)
      (images : ∀ image ∈ metadata.images, IsIdentifierName image)
      (made : (Lowering.fragment metadata varyings types).result = .ok s) : OfIdentifiers s

/-- A lowering by a table of identifiers and their accesses, and textures with identifiers for
names. -/
structure Named (s : Lowering) (pairs : List (Text × Text)) : Prop where
  /-- The table is that of the pairs. -/
  table_eq : s.table = FieldTable.ofPairs pairs
  /-- The names are identifiers. -/
  name : ∀ pair ∈ pairs, Text.isIdentifier pair.1 = true
  /-- The accesses are identifiers or fields of identifiers. -/
  access : ∀ pair ∈ pairs, IsAccess pair.2
  /-- The textures have identifiers for names. -/
  texture : ∀ texture ∈ s.textures, Text.isIdentifier texture.name = true

variable {s : Lowering} {metadata : Metadata}

/-! ### The tables of both stages -/

/-- A pair that a table may hold: an identifier with a field, or with an identifier. -/
def IsEntry (pair : Text × Text) : Prop := Text.isIdentifier pair.1 = true ∧ IsAccess pair.2

/-- A field of an owner makes an entry for its name. -/
lemma isEntry_field {owner name : Text} (howner : Text.isIdentifier owner = true)
    (hname : Text.isIdentifier name = true) : IsEntry (name, Metal.member owner name) :=
  ⟨hname, Or.inr ⟨owner, name, howner, hname, rfl⟩⟩

/-- A uniform makes an entry for its name. -/
lemma isEntry_uniform {u : Uniform} (h : IsIdentifierName u.name) :
    IsEntry ((uniformEntry u).1.display, (uniformEntry u).2) := by
  obtain ⟨t, ht, hidentifier⟩ := h
  rw [uniformEntry, ht]
  exact isEntry_field (by decide) hidentifier

/-- The pairs of the vertex table are entries. -/
lemma isEntry_of_mem_vertexPairs {attributes varyings : List Text}
    (huniforms : ∀ u ∈ metadata.uniforms, IsIdentifierName u.name)
    (hattributes : ∀ name ∈ attributes, Text.isIdentifier name = true)
    (hvaryings : ∀ name ∈ varyings, Text.isIdentifier name = true) :
    ∀ pair ∈ vertexPairs metadata attributes varyings, IsEntry pair := by
  intro pair hpair
  obtain ⟨e, he, rfl⟩ := List.mem_map.mp hpair
  rcases mem_vertexEntries.mp he with ⟨name, hname, rfl⟩ | ⟨u, hu, rfl⟩ | ⟨name, hname, rfl⟩ | rfl
  · exact isEntry_field (by decide) (hattributes name hname)
  · exact isEntry_uniform (huniforms u hu)
  · exact isEntry_field (by decide) (hvaryings name hname)
  · exact ⟨by decide, Or.inr ⟨_, _, by decide, by decide, rfl⟩⟩

/-- The pairs of the fragment table are entries. -/
lemma isEntry_of_mem_fragmentPairs {varyings : List Text}
    (huniforms : ∀ u ∈ metadata.uniforms, IsIdentifierName u.name)
    (hvaryings : ∀ name ∈ varyings, Text.isIdentifier name = true) :
    ∀ pair ∈ fragmentPairs metadata varyings, IsEntry pair := by
  intro pair hpair
  obtain ⟨e, he, rfl⟩ := List.mem_map.mp hpair
  rcases mem_fragmentEntries.mp he with ⟨u, hu, rfl⟩ | ⟨name, hname, rfl⟩ | rfl
  · exact isEntry_uniform (huniforms u hu)
  · exact isEntry_field (by decide) (hvaryings name hname)
  · exact ⟨by decide, Or.inl (by decide)⟩

/-- For identifiers, the names of the vertex lowering are identifiers. -/
lemma named_ofVertex {attributes varyings : List Text}
    (huniforms : ∀ u ∈ metadata.uniforms, IsIdentifierName u.name)
    (hattributes : ∀ name ∈ attributes, Text.isIdentifier name = true)
    (hvaryings : ∀ name ∈ varyings, Text.isIdentifier name = true) :
    (ofVertex metadata attributes varyings).Named
      (FieldTable.kept (vertexPairs metadata attributes varyings)) := by
  have hpairs := isEntry_of_mem_vertexPairs huniforms hattributes hvaryings
  exact ⟨rfl, fun pair hpair => (hpairs pair (FieldTable.mem_of_mem_kept hpair)).1,
    fun pair hpair => (hpairs pair (FieldTable.mem_of_mem_kept hpair)).2,
    fun _ h => absurd h List.not_mem_nil⟩

/-- For identifiers, the names of the fragment lowering are identifiers. -/
lemma named_ofFragment {varyings : List Text} {textures : List BoundTexture}
    (huniforms : ∀ u ∈ metadata.uniforms, IsIdentifierName u.name)
    (hvaryings : ∀ name ∈ varyings, Text.isIdentifier name = true)
    (htextures : ∀ texture ∈ textures, Text.isIdentifier texture.name = true) :
    (ofFragment metadata varyings textures).Named
      (FieldTable.kept (fragmentPairs metadata varyings)) := by
  have hpairs := isEntry_of_mem_fragmentPairs huniforms hvaryings
  exact ⟨rfl, fun pair hpair => (hpairs pair (FieldTable.mem_of_mem_kept hpair)).1,
    fun pair hpair => (hpairs pair (FieldTable.mem_of_mem_kept hpair)).2, htextures⟩

/-- Images that are identifiers are texts. -/
lemma exists_image_names {images : List Value} (h : ∀ image ∈ images, IsIdentifierName image) :
    ∃ names : List Text, images = names.map .text ∧ ∀ name ∈ names, Text.isIdentifier name = true := by
  induction images with
  | nil => exact ⟨[], rfl, by simp⟩
  | cons image images ih =>
      obtain ⟨⟨t, rfl, ht⟩, himages⟩ := List.forall_mem_cons.mp h
      obtain ⟨names, rfl, hnames⟩ := ih himages
      exact ⟨t :: names, rfl, List.forall_mem_cons.mpr ⟨ht, hnames⟩⟩

/-- Such a lowering is that of a vertex or of a fragment stage. -/
lemma OfIdentifiers.cases_stage (h : OfIdentifiers s) :
    (∃ metadata attributes varyings, s = ofVertex metadata attributes varyings ∧
      s.Named (FieldTable.kept (vertexPairs metadata attributes varyings))) ∨
    ∃ metadata varyings textures, s = ofFragment metadata varyings textures ∧
      s.Named (FieldTable.kept (fragmentPairs metadata varyings)) := by
  cases h with
  | vertex metadata attributes varyings huniforms hattributes hvaryings made =>
      rw [vertex_result (fun u hu => (huniforms u hu).imp fun _ ht => ht.1)] at made
      obtain rfl := Except.ok.inj made
      exact Or.inl ⟨_, _, _, rfl, named_ofVertex huniforms hattributes hvaryings⟩
  | fragment metadata varyings types huniforms hvaryings himages made =>
      obtain ⟨names, himages, hnames⟩ := exists_image_names himages
      rw [fragment_result (fun u hu => (huniforms u hu).imp fun _ ht => ht.1), himages] at made
      obtain ⟨textures, htextures, made⟩ := bind_eq_ok.mp made
      obtain rfl := Except.ok.inj made
      refine Or.inr ⟨_, _, _, rfl,
        named_ofFragment huniforms hvaryings fun texture htexture => hnames _ ?_⟩
      rw [← names_of_boundTextures htextures]
      exact List.mem_map_of_mem htexture

/-- The table of such a lowering gives accesses for identifiers, and its textures are
identifiers. -/
theorem OfIdentifiers.exists_named (h : OfIdentifiers s) : ∃ pairs, s.Named pairs := by
  rcases h.cases_stage with ⟨_, _, _, -, hnamed⟩ | ⟨_, _, _, -, hnamed⟩
  · exact ⟨_, hnamed⟩
  · exact ⟨_, hnamed⟩

/-! ### Braces stay where they are -/

variable {pairs : List (Text × Text)}

/-- A lowering whose names are identifiers is plain. -/
lemma Named.plain (h : s.Named pairs) : s.Plain pairs :=
  ⟨h.table_eq, fun texture htexture =>
    Text.not_mem_of_isIdentifier (h.texture texture htexture) (by decide)⟩

/-- Mapping types keeps the braces. -/
lemma keeps_mapTypes : Text.Keeps isBrace Vocabulary.mapTypes :=
  (Vocabulary.spares_wordRule (by decide) (by decide)).keeps

/-- Mapping functions keeps the braces. -/
lemma keeps_mapFunctions : Text.Keeps isBrace Vocabulary.mapFunctions :=
  (Vocabulary.spares_wordRule (by decide) (by decide)).keeps

/-- Mapping the words of a line keeps its braces. -/
lemma keeps_mapLine (s : Lowering) : Text.Keeps isBrace s.mapLine := by
  have hmatrix : Text.Keeps isBrace Vocabulary.mapMatrixConstructors :=
    (Vocabulary.spares_matrixRule (by decide) (by decide)).keeps
  have hmapped := keeps_mapTypes.comp hmatrix
  rcases hstage : s.stage
  · have heq : s.mapLine = Vocabulary.mapTypes ∘ Vocabulary.mapMatrixConstructors := by
      funext line
      simp only [mapLine, hstage, Vocabulary.mapLine, Function.comp_apply]
    exact heq ▸ hmapped
  · have heq : s.mapLine =
        Vocabulary.mapFunctions ∘ (Vocabulary.mapTypes ∘ Vocabulary.mapMatrixConstructors) := by
      funext line
      simp only [mapLine, hstage, Vocabulary.mapLine, Function.comp_apply]
    exact heq ▸ keeps_mapFunctions.comp hmapped

/-- Sampling textures that are called by identifiers keeps the braces. -/
lemma keeps_samplingPasses {textures : List BoundTexture}
    (h : ∀ texture ∈ textures, Text.isIdentifier texture.name = true) :
    Text.Keeps isBrace (samplingPasses textures) := by
  induction textures with
  | nil => exact Text.Keeps.id isBrace
  | cons texture textures ih =>
      obtain ⟨htexture, htextures⟩ := List.forall_mem_cons.mp h
      have hpass : Text.Keeps isBrace (Text.substitute (Sampling.plainRule texture.name)) :=
        (Sampling.spares_plainRule (free_of_isIdentifier htexture)
          (fun _ => isBrace_of_isBlank) (by decide) (by decide) (by decide)).keeps
      exact (ih htextures).comp hpass

/-- Lowering a body line keeps its braces. -/
lemma Named.keeps_bodyLine (h : s.Named pairs) : Text.Keeps isBrace (s.bodyLine pairs) := by
  have htable : Text.Keeps isBrace (FieldTable.lowerWith pairs) :=
    (FieldTable.spares_rule
      (fun pair hpair => ⟨Text.ne_nil_of_isIdentifier (h.name pair hpair),
        free_of_isIdentifier (h.name pair hpair)⟩)
      (fun pair hpair => ⟨(h.access pair hpair).ne_nil,
        (h.access pair hpair).free⟩)).keeps
  exact (keeps_samplingPasses h.texture).comp (htable.comp (keeps_mapLine s))

/-! ### The lines of the signature -/

/-- A line of the parameter list is one of the parameters, with a comma behind it or without. -/
lemma mem_separated {lines : List Text} {line : Text} (h : line ∈ EntryPoint.separated lines) :
    ∃ parameter ∈ lines, line = parameter ∨ line = parameter ++ "," := by
  fun_induction EntryPoint.separated lines with
  | case1 => cases h
  | case2 p => exact ⟨p, List.mem_singleton_self p, Or.inl (List.mem_singleton.mp h)⟩
  | case3 p q rest ih =>
      rcases List.mem_cons.mp h with rfl | h
      · exact ⟨p, List.mem_cons_self, Or.inr rfl⟩
      · obtain ⟨parameter, hmem, hline⟩ := ih h
        exact ⟨parameter, List.mem_cons_of_mem p hmem, hline⟩

/-- The two parameters of a texture at a slot. -/
lemma mem_textureParameters {slot : Nat} {textures : List BoundTexture} {line : Text}
    (h : line ∈ EntryPoint.textureParameters slot textures) :
    ∃ texture ∈ textures, ∃ n,
      line = "    " ++ texture.kind.metalType ++ "<float> " ++ texture.name ++ " [[texture(" ++
          Text.ofNat n ++ ")]]" ∨
        line = "    sampler " ++ texture.name ++ Metal.samplerSuffix ++ " [[sampler(" ++
          Text.ofNat n ++ ")]]" := by
  induction textures generalizing slot with
  | nil => cases h
  | cons texture textures ih =>
      rcases List.mem_cons.mp h with rfl | h
      · exact ⟨texture, List.mem_cons_self, slot, Or.inl rfl⟩
      rcases List.mem_cons.mp h with rfl | h
      · exact ⟨texture, List.mem_cons_self, slot, Or.inr rfl⟩
      obtain ⟨other, hother, hline⟩ := ih h
      exact ⟨other, List.mem_cons_of_mem texture hother, hline⟩

/-- The parameters of an entry point are free of braces. -/
lemma Named.free_parameters (h : s.Named pairs) :
    ∀ line ∈ EntryPoint.parameters s.stage s.textures, Text.Free isBrace line := by
  intro line hline
  rcases hstage : s.stage
  · rw [hstage, EntryPoint.parameters, List.mem_pair] at hline
    rcases hline with rfl | rfl <;> decide
  · rw [hstage, EntryPoint.parameters, List.mem_cons, List.mem_cons] at hline
    rcases hline with rfl | rfl | hline
    · decide
    · decide
    obtain ⟨texture, htexture, n, rfl | rfl⟩ := mem_textureParameters hline
    · have hname := free_of_isIdentifier (h.texture texture htexture)
      have hkind : Text.Free isBrace texture.kind.metalType := by cases texture.kind <;> decide
      simp only [Text.free_append, hname, hkind, free_ofNat]
      decide
    · have hname := free_of_isIdentifier (h.texture texture htexture)
      simp only [Text.free_append, hname, free_ofNat]
      decide

/-- Lines that are free of braces have none together. -/
lemma filter_flatten_of_free {lines : List Text} (h : ∀ line ∈ lines, Text.Free isBrace line) :
    lines.flatten.filter isBrace = [] := by
  apply Text.Free.filter_eq_nil
  intro c hc
  obtain ⟨line, hline, hc⟩ := List.mem_flatten.mp hc
  exact h line hline c hc

/-- The signature opens one brace, and holds no other. -/
lemma Named.filter_signature (h : s.Named pairs) : s.signature.flatten.filter isBrace = ['\x7b'] := by
  have hparameters : (EntryPoint.separated (EntryPoint.parameters s.stage s.textures)).flatten.filter
      isBrace = [] := by
    refine filter_flatten_of_free fun line hline => ?_
    obtain ⟨parameter, hmem, rfl | rfl⟩ := mem_separated hline
    · exact h.free_parameters _ hmem
    · exact Text.free_append.mpr ⟨h.free_parameters _ hmem, by decide⟩
  have hopening : (EntryPoint.opening s.stage).filter isBrace = [] := by
    cases s.stage <;> decide
  have houtput : ("    " ++ EntryPoint.outputType s.stage ++ " " ++ Metal.output s.stage ++ ";" :
      Text).filter isBrace = [] := by
    cases s.stage <;> decide
  rw [signature, EntryPoint.signature, List.flatten_append, List.flatten_cons, List.filter_append,
    List.filter_append, hopening, hparameters, List.flatten_cons, List.flatten_singleton,
    List.filter_append, houtput]
  decide

end Lowering

end MetalLowering
