import MetalLowering.Proofs.Registrations
import MetalLowering.Proofs.StageRun

/-!
# Lowerings whose body lines cannot fail

The names of a field table are texts and no texture name holds a backslash: then every body line is
lowered (`Plain.lowerBodyLine_eq`), by the mapped words, the field table and one sampling pass for
each texture. The vertex stage always comes out like this (`vertex_result`), the fragment stage if
its textures can be bound (`fragment_result`, `decides_boundTextures`).
-/

namespace MetalLowering

open EntryPoint (BoundTexture)
open Json (Value)

/-! ### Sampling without escapes -/

namespace Sampling

/-- The rule for the calls on a texture whose name is no template with escapes. -/
def plainRule (texture : Text) : Text.Rule := rule texture ((template texture).map .char)

/-- Without a backslash in its name, a texture is sampled by the plain rule. -/
lemma lower_of_no_backslash {texture : Text} (h : '\\' ∉ texture) (line : Text) :
    lower texture line = .ok (Text.substitute (plainRule texture) line) := by
  have htemplate : '\\' ∉ template texture := by
    simp [template, Metal.samplerSuffix, h]
  simp only [lower, Template.parse_of_no_backslash htemplate, plainRule]

end Sampling

namespace Lowering

/-- A lowering whose table is that of the given pairs of texts, and whose texture names hold no
backslash. -/
structure Plain (s : Lowering) (pairs : List (Text × Text)) : Prop where
  /-- The names of the table are texts. -/
  table_eq : s.table = FieldTable.ofPairs pairs
  /-- No texture name is a template with escapes. -/
  no_backslash : ∀ texture ∈ s.textures, '\\' ∉ texture.name

/-- A line with the sampling calls on some textures replaced, one texture after the other. -/
def samplingPasses (textures : List BoundTexture) (line : Text) : Text :=
  textures.foldl (fun line texture => Text.substitute (Sampling.plainRule texture.name) line) line

/-- A body line of a lowering that is plain. -/
def bodyLine (s : Lowering) (pairs : List (Text × Text)) (line : Text) : Text :=
  samplingPasses s.textures (FieldTable.lowerWith pairs (s.mapLine line))

/-- Without backslashes in their names, the textures are sampled one after the other, and nothing
fails. -/
lemma foldlM_sampling {textures : List BoundTexture} (h : ∀ texture ∈ textures, '\\' ∉ texture.name)
    (line : Text) :
    textures.foldlM (fun line texture => Sampling.lower texture.name line) line =
      .ok (samplingPasses textures line) := by
  induction textures generalizing line with
  | nil => rfl
  | cons texture textures ih =>
      obtain ⟨htexture, htextures⟩ := List.forall_mem_cons.mp h
      rw [List.foldlM_cons, Sampling.lower_of_no_backslash htexture]
      exact ih htextures _

/-- Every body line of a plain lowering is lowered. -/
lemma Plain.lowerBodyLine_eq {s : Lowering} {pairs : List (Text × Text)} (h : s.Plain pairs)
    (line : Text) : s.lowerBodyLine line = .ok (s.bodyLine pairs line) := by
  simp only [lowerBodyLine, h.table_eq, FieldTable.lower_ofPairs]
  exact foldlM_sampling h.no_backslash _

/-- A plain lowering turns each line into its body line. -/
lemma Plain.lowerBodyLine_eq_ok_iff {s : Lowering} {pairs : List (Text × Text)} (h : s.Plain pairs)
    {line out : Text} : s.lowerBodyLine line = .ok out ↔ s.bodyLine pairs line = out := by
  rw [h.lowerBodyLine_eq, Except.ok.injEq]

/-- A plain lowering fails on no line. -/
lemma Plain.total {s : Lowering} {pairs : List (Text × Text)} (h : s.Plain pairs) : s.Total :=
  fun line => ⟨s.bodyLine pairs line, h.lowerBodyLine_eq line⟩

/-! ### The lowerings of both stages -/

/-- The vertex table is made for the attributes, the uniforms, the varyings and the built-in
output. -/
lemma mem_vertexEntries {metadata : Metadata} {attributes varyings : List Text} {e : Value × Text} :
    e ∈ vertexEntries metadata attributes varyings ↔
      (∃ name ∈ attributes, e = fieldEntry Metal.vertexInput name) ∨
      (∃ u ∈ metadata.uniforms, e = uniformEntry u) ∨
      (∃ name ∈ varyings, e = fieldEntry (Metal.output .vertex) name) ∨
      e = (.text (Metal.builtinOutput .vertex),
        Metal.member (Metal.output .vertex) Metal.positionField) := by
  simp only [vertexEntries, List.mem_append, List.mem_map, List.mem_singleton, or_assoc, eq_comm]

/-- The fragment table is made for the uniforms, the varyings and the built-in output. -/
lemma mem_fragmentEntries {metadata : Metadata} {varyings : List Text} {e : Value × Text} :
    e ∈ fragmentEntries metadata varyings ↔
      (∃ u ∈ metadata.uniforms, e = uniformEntry u) ∨
      (∃ name ∈ varyings, e = fieldEntry Metal.fragmentInput name) ∨
      e = (.text (Metal.builtinOutput .fragment), Metal.output .fragment) := by
  simp only [fragmentEntries, List.mem_append, List.mem_map, List.mem_singleton, or_assoc, eq_comm]

/-- What is registered for the vertex stage, as pairs of texts. -/
def vertexPairs (metadata : Metadata) (attributes varyings : List Text) : List (Text × Text) :=
  (vertexEntries metadata attributes varyings).map fun e => (e.1.display, e.2)

/-- What is registered for the fragment stage, as pairs of texts. -/
def fragmentPairs (metadata : Metadata) (varyings : List Text) : List (Text × Text) :=
  (fragmentEntries metadata varyings).map fun e => (e.1.display, e.2)

/-- The lowering of a vertex stage whose names are texts. -/
def ofVertex (metadata : Metadata) (attributes varyings : List Text) : Lowering where
  stage := .vertex
  table := .ofPairs (FieldTable.kept (vertexPairs metadata attributes varyings))

/-- The lowering of a fragment stage whose names are texts. -/
def ofFragment (metadata : Metadata) (varyings : List Text) (textures : List BoundTexture) :
    Lowering where
  stage := .fragment
  table := .ofPairs (FieldTable.kept (fragmentPairs metadata varyings))
  textures := textures

/-- The vertex lowering is plain. -/
lemma plain_ofVertex (metadata : Metadata) (attributes varyings : List Text) :
    (ofVertex metadata attributes varyings).Plain
      (FieldTable.kept (vertexPairs metadata attributes varyings)) :=
  ⟨rfl, fun _ h => absurd h List.not_mem_nil⟩

/-- The fragment lowering is plain if no texture has a backslash in its name. -/
lemma plain_ofFragment (metadata : Metadata) (varyings : List Text) {textures : List BoundTexture}
    (h : ∀ texture ∈ textures, '\\' ∉ texture.name) :
    (ofFragment metadata varyings textures).Plain
      (FieldTable.kept (fragmentPairs metadata varyings)) :=
  ⟨rfl, h⟩

variable {metadata : Metadata}

/-- For names that are texts, there is a vertex lowering. -/
lemma vertex_result (hnames : ∀ u ∈ metadata.uniforms, ∃ t, u.name = .text t)
    (attributes varyings : List Text) :
    (vertex metadata attributes varyings).result = .ok (ofVertex metadata attributes varyings) := by
  have hentries : ∀ e ∈ vertexEntries metadata attributes varyings, ∃ t, e.1 = .text t := by
    intro e he
    rcases mem_vertexEntries.mp he with ⟨name, -, rfl⟩ | ⟨u, hu, rfl⟩ | ⟨name, -, rfl⟩ | rfl
    · exact ⟨name, rfl⟩
    · exact hnames u hu
    · exact ⟨name, rfl⟩
    · exact ⟨_, rfl⟩
  simp only [vertex, Traced.result_bind, FieldTable.build_result hentries]
  rfl

/-- For names that are texts, there is a fragment lowering if the textures can be bound. -/
lemma fragment_result (hnames : ∀ u ∈ metadata.uniforms, ∃ t, u.name = .text t)
    (varyings : List Text) (types : List (Text × Text)) :
    (fragment metadata varyings types).result =
      (boundTextures metadata.images types).bind fun textures =>
        .ok (ofFragment metadata varyings textures) := by
  have hentries : ∀ e ∈ fragmentEntries metadata varyings, ∃ t, e.1 = .text t := by
    intro e he
    rcases mem_fragmentEntries.mp he with ⟨u, hu, rfl⟩ | ⟨name, -, rfl⟩ | rfl
    · exact hnames u hu
    · exact ⟨name, rfl⟩
    · exact ⟨_, rfl⟩
  simp only [fragment, Traced.result_bind, FieldTable.build_result hentries]
  rfl

/-! ### Binding textures -/

/-- A texture with its kind. -/
def bindTexture (types : List (Text × Text)) (name : Text) : Except Failure BoundTexture :=
  (Sampler.resolve name types).map fun kind => ⟨name, kind⟩

/-- The kinds of images that are texts are those that their names are bound with. -/
lemma imageKinds_texts (names : List Text) (types : List (Text × Text)) :
    imageKinds (names.map .text) types =
      (names.mapM (bindTexture types)).map (·.map fun t => (Value.text t.name, t.kind)) := by
  induction names with
  | nil => rfl
  | cons name names ih =>
      unfold imageKinds at ih ⊢
      rw [List.map_cons, List.mapM_cons, List.mapM_cons, ih, bindTexture]
      dsimp only
      rcases Sampler.resolve name types with e | kind
      · rfl
      · rcases names.mapM (bindTexture types) with e | textures <;> rfl

/-- Textures whose names are texts are bound one after the other. -/
lemma boundTextures_texts (names : List Text) (types : List (Text × Text)) :
    boundTextures (names.map .text) types = names.mapM (bindTexture types) := by
  unfold boundTextures
  rw [imageKinds_texts]
  rcases names.mapM (bindTexture types) with e | textures
  · rfl
  · show List.mapM _ (textures.map fun t => (Value.text t.name, t.kind)) = _
    apply mapM_map_ok
    intro t
    rfl

/-- A texture that is declared with another sampler than a plane or a cube. -/
def BadSpelling (types : List (Text × Text)) (name : Text) (e : Failure) : Prop :=
  ∃ spelling, Table.get? name types = some spelling ∧ spelling ≠ "sampler2D".toList ∧
    spelling ≠ "samplerCube".toList ∧ e = .shader (.samplerKind name spelling)

/-- A texture that is declared, if at all, with a sampler of a plane or of a cube. -/
def GoodSpelling (types : List (Text × Text)) (name : Text) : Prop :=
  ∀ spelling, Table.get? name types = some spelling →
    spelling = "sampler2D".toList ∨ spelling = "samplerCube".toList

/-- There is a texture kind for two spellings of sampler types only. -/
lemma kindOf?_eq_none_iff {spelling : Text} :
    Sampler.kindOf? spelling = none ↔
      spelling ≠ "sampler2D".toList ∧ spelling ≠ "samplerCube".toList := by
  unfold Sampler.kindOf?
  split_ifs with hplane hcube
  · simp [hplane]
  · simp [hcube]
  · exact iff_of_true rfl ⟨hplane, hcube⟩

/-- A texture is not bound exactly if its sampler type is misspelled. -/
lemma bindTexture_eq_error_iff {types : List (Text × Text)} {name : Text} {e : Failure} :
    bindTexture types name = .error e ↔ BadSpelling types name e := by
  unfold bindTexture Sampler.resolve BadSpelling
  rcases Table.get? name types with _ | spelling
  · simp [Except.map]
  · simp only [Option.some.injEq, ← and_assoc, ← kindOf?_eq_none_iff]
    rcases hkind : Sampler.kindOf? spelling with _ | kind
    · simp [Except.map, hkind, eq_comm]
    · simp [Except.map, hkind]

/-- A spelling is good exactly if it is not bad in any way. -/
lemma goodSpelling_iff {types : List (Text × Text)} {name : Text} :
    GoodSpelling types name ↔ ∀ e, ¬BadSpelling types name e := by
  constructor
  · rintro hgood e ⟨spelling, hget, hplane, hcube, -⟩
    exact (hgood spelling hget).elim hplane hcube
  · intro h spelling hget
    by_contra hbad
    obtain ⟨hplane, hcube⟩ := not_or.mp hbad
    exact h _ ⟨spelling, hget, hplane, hcube, rfl⟩

/-- Textures are bound up to the first one with a sampler that cannot be. -/
lemma decides_boundTextures (names : List Text) (types : List (Text × Text)) :
    Decides (boundTextures (names.map .text) types) (∀ name ∈ names, GoodSpelling types name)
      (FirstFault (GoodSpelling types) (fun _ => BadSpelling types) 0 names) := by
  rw [boundTextures_texts]
  exact .mapM (fun name => .of_error_iff (fun _ => bindTexture_eq_error_iff) goodSpelling_iff) 0 names

/-- Textures are bound under the names that are given, in their order. -/
lemma names_of_boundTextures {names : List Text} {types : List (Text × Text)}
    {textures : List BoundTexture} (h : boundTextures (names.map .text) types = .ok textures) :
    textures.map (·.name) = names := by
  rw [boundTextures_texts] at h
  induction names generalizing textures with
  | nil =>
      cases h
      rfl
  | cons name names ih =>
      rw [List.mapM_cons] at h
      obtain ⟨texture, htexture, h⟩ := bind_eq_ok.mp h
      obtain ⟨rest, hrest, h⟩ := bind_eq_ok.mp h
      obtain rfl : texture :: rest = textures := Except.ok.inj h
      have hname : texture.name = name := by
        unfold bindTexture at htexture
        rcases hkind : Sampler.resolve name types with e | kind
        · rw [hkind] at htexture
          cases htexture
        · rw [hkind] at htexture
          rw [← Except.ok.inj htexture]
      rw [List.map_cons, ih hrest, hname]

end Lowering

end MetalLowering
