import MetalLowering.Program
import MetalLowering.Proofs.BodyLines
import MetalLowering.Proofs.DeclarationForm

/-!
# When a shader pair is lowered

Seven conditions on the sources and the metadata decide whether a pair is lowered. They are checked
in the order of `Condition.inOrder`, and the first one that fails gives the failure, taken at the
first uniform, line or texture that breaks it.

The main theorem says both: a pair with all conditions is lowered, and otherwise the failure is that
of the first condition which does not hold. The checks stand in four places of the program, and
two of them come after lines have been put out; the proof is one step of a scan for each condition.
-/

namespace MetalLowering

/-! ### Uniform kinds -/

/-- The kinds of uniforms that have a Metal type. -/
def supportedKinds : List UniformKind := [.float1, .float2, .float3, .float4, .mat4]

/-- A uniform of a supported kind. -/
def Uniform.Supported (u : Uniform) : Prop := ∃ kind ∈ supportedKinds, u.kind = .known kind

/-- The failure for a uniform of another kind. A kind that is a list or an object cannot be looked
up at all. -/
def Uniform.kindFailure (u : Uniform) : Failure :=
  match u.kind with
  | .known _ => .shader (.uniformKind u.name u.kind.display)
  | .other value =>
    if value.isKey then .shader (.uniformKind u.name u.kind.display) else .shape

/-- What is wrong with a uniform of another kind. -/
def Uniform.Fault (u : Uniform) (e : Failure) : Prop := ¬u.Supported ∧ e = u.kindFailure

/-- A kind has no Metal type exactly if it is not supported. -/
lemma metalType?_eq_none_iff {kind : UniformKind} :
    kind.metalType? = none ↔ kind ∉ supportedKinds := by
  cases kind <;> decide

/-- A uniform of a known kind is supported exactly if the kind is. -/
lemma Uniform.supported_known {u : Uniform} {kind : UniformKind} (h : u.kind = .known kind) :
    u.Supported ↔ kind ∈ supportedKinds := by
  simp [Uniform.Supported, h]

/-- A uniform has no Metal type exactly where it is at fault. -/
lemma Uniform.metalType_eq_error_iff (u : Uniform) (e : Failure) :
    u.metalType = .error e ↔ u.Fault e := by
  unfold Uniform.Fault Uniform.metalType Uniform.kindFailure
  rcases hkind : u.kind with kind | value
  · rw [Uniform.supported_known hkind, ← metalType?_eq_none_iff]
    rcases htype : kind.metalType? with _ | type
    · simp [htype, eq_comm]
    · simp [htype]
  · have hnot : ¬u.Supported := by simp [Uniform.Supported, hkind]
    by_cases hkey : value.isKey = true
    · simp [hkey, hnot, eq_comm]
    · simp [hkey, hnot, eq_comm]

/-- The Metal type of a uniform tells whether it is supported. -/
lemma Uniform.decides_metalType (u : Uniform) : Decides u.metalType u.Supported u.Fault :=
  .of_error_iff u.metalType_eq_error_iff (by simp [Uniform.Fault])

/-- Uniforms are checked up to the first one without a Metal type. -/
lemma Metadata.decides_validate (m : Metadata) :
    Decides m.validate (∀ u ∈ m.uniforms, u.Supported)
      (FirstFault Uniform.Supported (fun _ => Uniform.Fault) 0 m.uniforms) :=
  .forM (fun u => u.decides_metalType.map fun _ => ()) 0 m.uniforms

/-- Validated uniforms have their struct. -/
lemma Metal.uniforms_of_validate {m : Metadata} (h : ∀ u ∈ m.uniforms, u.Supported) :
    ∃ struct, Metal.uniforms m = .ok struct := by
  have hfields := Decides.mapM
    (fun u : Uniform => u.decides_metalType.map fun type => Metal.Field.mk type u.name.display none)
    0 m.uniforms
  obtain ⟨fields, hfields⟩ := hfields.ok_iff.mpr h
  exact ⟨_, bind_eq_ok.mpr ⟨fields, hfields, rfl⟩⟩

/-! ### Sampler declarations -/

namespace Sampler

/-- A line that declares no sampler, or one whose name is an identifier. -/
def Readable (line : Text) : Prop :=
  ∀ type name, parts? line = some (type, name) → Text.isIdentifier name = true

/-- A line that declares a sampler by a name that is no identifier. -/
def Fault (lineNumber : Nat) (line : Text) (e : Failure) : Prop :=
  ∃ type name, parts? line = some (type, name) ∧ Text.isIdentifier name = false ∧
    e = .shader (.malformed .sampler .fragment lineNumber line)

/-- Reading the samplers of some lines stops at the first line that cannot be read. -/
lemma decides_collectFrom (lines : List Text) (lineNumber : Nat) (types : List (Text × Text)) :
    Decides (collectFrom lineNumber types lines).result (∀ line ∈ lines, Readable line)
      (FirstFault Readable Fault lineNumber lines) := by
  induction lines generalizing lineNumber types with
  | nil => exact .scan_nil rfl lineNumber
  | cons line rest ih =>
      rcases hparts : parts? line with _ | ⟨type, name⟩
      · simp only [collectFrom, hparts]
        exact .scan_skip (by simp [Readable, hparts]) (by simp [Fault, hparts]) (ih _ _)
      · by_cases hname : Text.isIdentifier name = true
        · simp only [collectFrom, hparts, hname, if_true, Traced.result_bind]
          exact .scan_skip (by simp [Readable, hparts, hname]) (by simp [Fault, hparts, hname])
            (ih _ _)
        · have hname' : Text.isIdentifier name = false := by simpa using hname
          simp only [collectFrom, hparts, hname', Bool.false_eq_true, if_false]
          refine (Decides.of_error rfl).congr ?_ fun e => ?_
          · simp [Readable, hparts, hname']
          · simp [firstFault_cons_iff, Readable, Fault, hparts, hname']

/-- Samplers are read up to the first line that has no name for one. -/
lemma decides_collect (fragment : Text) :
    Decides (collect fragment).result (∀ line ∈ Text.lines fragment, Readable line)
      (FirstFault Readable Fault 1 (Text.lines fragment)) :=
  decides_collectFrom (Text.lines fragment) 1 []

end Sampler

/-! ### The conditions in order -/

/-- What is asked of a shader pair. -/
inductive Condition
  /-- Every uniform is of a supported kind. -/
  | kinds
  /-- Every attribute line of the vertex source is a declaration. -/
  | attributes
  /-- Every varying line of the vertex source is a declaration. -/
  | varyings
  /-- The samplers of the fragment source can be read. -/
  | samplers
  /-- Every bound texture that is declared is a plane or a cube. -/
  | spellings
  /-- The vertex source has an entry point. -/
  | vertexEntry
  /-- The fragment source has an entry point. -/
  | fragmentEntry
  deriving DecidableEq

namespace Condition

/-- The conditions in the order in which they are checked. -/
def inOrder : List Condition :=
  [.kinds, .attributes, .varyings, .samplers, .spellings, .vertexEntry, .fragmentEntry]

/-- A source with a line that is not dropped and marks the entry point. -/
def HasEntry (source : Text) : Prop :=
  ∃ line ∈ Text.lines source, Lowering.Kept line ∧ EntryPoint.Marked line

variable (fragment vertex : Text) (metadata : Metadata) (images : List Text)

/-- When a condition holds of the sources, the metadata and the names of the bound textures. -/
def Holds : Condition → Prop
  | kinds => ∀ u ∈ metadata.uniforms, u.Supported
  | attributes => ∀ line ∈ Text.lines vertex,
      Declaration.startsWith .attribute line = true → Declaration.WellFormed .attribute line
  | varyings => ∀ line ∈ Text.lines vertex,
      Declaration.startsWith .varying line = true → Declaration.WellFormed .varying line
  | samplers => ∃ types, (Sampler.collect fragment).result = .ok types
  | spellings => ∀ types, (Sampler.collect fragment).result = .ok types →
      ∀ image ∈ images, Lowering.GoodSpelling types image
  | vertexEntry => HasEntry vertex
  | fragmentEntry => HasEntry fragment

/-- The failure of a condition, at the first place where it is broken. -/
def FailsWith : Condition → Failure → Prop
  | kinds, e => FirstFault Uniform.Supported (fun _ => Uniform.Fault) 0 metadata.uniforms e
  | attributes, e =>
      FirstFault
        (fun line => Declaration.startsWith .attribute line = true →
          Declaration.WellFormed .attribute line)
        (fun n line e => Declaration.startsWith .attribute line = true ∧
          Declaration.Fault .attribute .vertex n line e)
        1 (Text.lines vertex) e
  | varyings, e =>
      FirstFault
        (fun line => Declaration.startsWith .varying line = true →
          Declaration.WellFormed .varying line)
        (fun n line e => Declaration.startsWith .varying line = true ∧
          Declaration.Fault .varying .vertex n line e)
        1 (Text.lines vertex) e
  | samplers, e => FirstFault Sampler.Readable Sampler.Fault 1 (Text.lines fragment) e
  | spellings, e => ∃ types, (Sampler.collect fragment).result = .ok types ∧
      FirstFault (Lowering.GoodSpelling types) (fun _ => Lowering.BadSpelling types) 0 images e
  | vertexEntry, e => ¬HasEntry vertex ∧ e = .shader (.missingEntryPoint .vertex)
  | fragmentEntry, e => ¬HasEntry fragment ∧ e = .shader (.missingEntryPoint .fragment)

end Condition

/-- A run of a stage succeeds exactly if its source has an entry point. -/
lemma decides_entry {s : Lowering} (h : s.Total) (source : Text) :
    Decides (s.run source).result (Condition.HasEntry source) fun e =>
      ¬Condition.HasEntry source ∧ e = .shader (.missingEntryPoint s.stage) := by
  have hentry : (∃ line ∈ Text.lines source, Lowering.isEntryPoint line = true) ↔
      Condition.HasEntry source := by
    simp only [Condition.HasEntry, Lowering.isEntryPoint_iff]
  exact (h.decides_lower source).congr hentry fun e => by rw [hentry]

/-! ### Whole pairs -/

/-- What the result of a shader pair is put together from. -/
lemma exists_parts_of_lowerPair {fragment vertex : Text} {metadata : Metadata} {defines : List Text}
    {out : Text} (h : (lowerPair fragment vertex metadata defines).result = .ok out) :
    ∃ attributes varyings types uniforms vertexStage fragmentStage vertexLines fragmentLines,
      (Declaration.collect vertex .attribute .vertex).result = .ok attributes ∧
      (Declaration.collect vertex .varying .vertex).result = .ok varyings ∧
      Metal.uniforms metadata = .ok uniforms ∧
      (Lowering.vertex metadata (attributes.map (·.name)) (varyings.map (·.name))).result =
        .ok vertexStage ∧
      (Lowering.fragment metadata (varyings.map (·.name)) types).result = .ok fragmentStage ∧
      (vertexStage.lower vertex).result = .ok vertexLines ∧
      (fragmentStage.lower fragment).result = .ok fragmentLines ∧
      out = code (Metal.head defines ++ uniforms.lines ++ (Metal.vertexInputs attributes).lines ++
        (Metal.rasterizer varyings).lines ++ vertexLines ++ fragmentLines) := by
  simp only [lowerPair, Traced.result_bind, Traced.result_ofExcept, Traced.result_note, ok_bind]
    at h
  obtain ⟨_, -, h⟩ := bind_eq_ok.mp h
  obtain ⟨attributes, hattributes, h⟩ := bind_eq_ok.mp h
  obtain ⟨varyings, hvaryings, h⟩ := bind_eq_ok.mp h
  obtain ⟨types, -, h⟩ := bind_eq_ok.mp h
  obtain ⟨uniforms, huniforms, h⟩ := bind_eq_ok.mp h
  obtain ⟨_, huniformLines, h⟩ := bind_eq_ok.mp h
  obtain ⟨_, hvertexStruct, h⟩ := bind_eq_ok.mp h
  obtain ⟨_, hrasterizer, h⟩ := bind_eq_ok.mp h
  obtain ⟨vertexStage, hvertexStage, h⟩ := bind_eq_ok.mp h
  obtain ⟨fragmentStage, hfragmentStage, h⟩ := bind_eq_ok.mp h
  obtain ⟨vertexLines, hvertexLines, h⟩ := bind_eq_ok.mp h
  obtain ⟨fragmentLines, hfragmentLines, h⟩ := bind_eq_ok.mp h
  obtain rfl := Except.ok.inj huniformLines
  obtain rfl := Except.ok.inj hvertexStruct
  obtain rfl := Except.ok.inj hrasterizer
  exact ⟨attributes, varyings, types, uniforms, vertexStage, fragmentStage, vertexLines,
    fragmentLines, hattributes, hvaryings, huniforms, hvertexStage, hfragmentStage, hvertexLines,
    hfragmentLines, (Except.ok.inj h).symm⟩

/-- **A pair is lowered exactly if all seven conditions hold; otherwise it fails with the failure of
the first condition that does not**, at the first uniform, line or texture that breaks it. -/
theorem lowerPair_outcome (fragment vertex : Text) (metadata : Metadata) (images defines : List Text)
    (hnames : ∀ u ∈ metadata.uniforms, ∃ name, u.name = .text name)
    (himages : metadata.images = images.map .text) (hescape : ∀ image ∈ images, '\\' ∉ image) :
    ((∃ source, (lowerPair fragment vertex metadata defines).result = .ok source) ↔
      ∀ c ∈ Condition.inOrder, c.Holds fragment vertex metadata images) ∧
    ∀ e, (lowerPair fragment vertex metadata defines).result = .error e ↔
      ∃ before c after, Condition.inOrder = before ++ c :: after ∧
        (∀ earlier ∈ before, earlier.Holds fragment vertex metadata images) ∧
        c.FailsWith fragment vertex metadata images e := by
  have h : Decides (lowerPair fragment vertex metadata defines).result
      (∀ c ∈ Condition.inOrder, c.Holds fragment vertex metadata images)
      (FirstFault (Condition.Holds fragment vertex metadata images)
        (fun _ => Condition.FailsWith fragment vertex metadata images) 0 Condition.inOrder) := by
    simp only [lowerPair, Traced.result_bind, Traced.result_ofExcept]
    refine .scan_cons metadata.decides_validate fun _ hvalid => ?_
    refine .scan_cons (Declaration.decides_collect vertex .attribute .vertex) fun attributes _ => ?_
    refine .scan_cons (Declaration.decides_collect vertex .varying .vertex) fun varyings _ => ?_
    refine .scan_cons ((Sampler.decides_collect fragment).congr
      (Sampler.decides_collect fragment).ok_iff.symm fun _ => Iff.rfl) fun types htypes => ?_
    -- the structs and the vertex lowering are made without a further check
    obtain ⟨uniforms, huniforms⟩ :=
      Metal.uniforms_of_validate (metadata.decides_validate.ok_iff.mp ⟨_, hvalid⟩)
    simp only [huniforms, Lowering.vertex_result hnames, Lowering.fragment_result hnames, himages,
      Traced.result_note, Metal.Struct.emit, ok_bind]
    refine .scan_cons (((Lowering.decides_boundTextures images types).map _).congr ?_ fun e => ?_)
      fun fragmentStage hstage => ?_
    · exact ⟨fun h types' htypes' => Except.ok.inj (htypes.symm.trans htypes') ▸ h,
        fun h => h types htypes⟩
    · refine ⟨fun h => ⟨types, htypes, h⟩, ?_⟩
      rintro ⟨types', htypes', h⟩
      exact Except.ok.inj (htypes'.symm.trans htypes) ▸ h
    · obtain ⟨textures, htextures, hstage⟩ := bind_eq_ok.mp hstage
      obtain rfl := Except.ok.inj hstage
      have hescape' : ∀ texture ∈ textures, '\\' ∉ texture.name := by
        intro texture hmem
        apply hescape
        rw [← Lowering.names_of_boundTextures htextures]
        exact List.mem_map_of_mem hmem
      refine .scan_cons (decides_entry (Lowering.plain_ofVertex ..).total vertex)
        fun vertexLines _ => ?_
      refine .scan_cons (decides_entry (Lowering.plain_ofFragment _ _ hescape').total fragment)
        fun fragmentLines _ => ?_
      exact .scan_nil rfl _
  exact ⟨h.ok_iff, h.error_iff⟩

/-- A pair with a matrix, a cube, an explicit slot and a comment is lowered, so it fulfils all
conditions. -/
theorem lowerPair_outcome_cube :
    (∃ source,
      (lowerPair "uniform lowp samplerCube env; // sky\nvoid main( void )\n\x7b\n\x7d\n"
        "attribute vec3 pos; // [[attribute(2)]]\nvoid main() \x7b\n\x7d\n"
        ⟨[⟨.text "mvp", .known .mat4⟩], [.text "env"]⟩ []).result = .ok source) ∧
    ∀ c ∈ Condition.inOrder,
      c.Holds "uniform lowp samplerCube env; // sky\nvoid main( void )\n\x7b\n\x7d\n"
        "attribute vec3 pos; // [[attribute(2)]]\nvoid main() \x7b\n\x7d\n"
        ⟨[⟨.text "mvp", .known .mat4⟩], [.text "env"]⟩ ["env"] := by
  have houtcome := lowerPair_outcome
    "uniform lowp samplerCube env; // sky\nvoid main( void )\n\x7b\n\x7d\n"
    "attribute vec3 pos; // [[attribute(2)]]\nvoid main() \x7b\n\x7d\n"
    ⟨[⟨.text "mvp", .known .mat4⟩], [.text "env"]⟩ ["env"] [] (by simp) rfl (by decide)
  rw [← houtcome.1, and_self]
  exact ⟨_, rfl⟩

end MetalLowering
