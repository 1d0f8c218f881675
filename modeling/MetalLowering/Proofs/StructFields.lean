import MetalLowering.Proofs.Acceptance
import MetalLowering.Proofs.IdentifierStages
import MetalLowering.Proofs.StructLines
import MetalLowering.Proofs.WordPasses

/-!
# The fields that a table speaks of

The structs of a generated source and the field tables of its stages are made apart, from the same
declarations and uniforms. This file says that they fit: an access `owner.field` of a table has an
owner that the signature declares with one of the structs, and a field that is written into that
struct (`Lowering.NamesField`).

Both tables are read off one lemma each, which gives what is found for any name (`find?_ofVertex`,
`find?_ofFragment`): attributes come before uniforms, these before varyings, and the built-in
variable last. Two accesses are the same text only if owner and field are (`member_inj`), so two
names of the vertex stage can share an access only through the position, which is a field that no
declaration has asked for.
-/

namespace MetalLowering

open EntryPoint (BoundTexture)

namespace Metal

/-! ### Structs and the variables that hold them -/

/-- A line of a signature that declares the variable `name`, by value or by reference. -/
def Declares (line type name : Text) : Prop :=
  ∃ front mark back : Text, (front = "    ".toList ∨ front = "    constant ".toList) ∧
    (mark = " ".toList ∨ mark = "& ".toList) ∧ Text.Ends back ∧
    line = front ++ type ++ mark ++ name ++ back

/-- A comma behind the declaration of a parameter is no part of it. -/
lemma Declares.comma {line type name : Text} (h : Declares line type name) :
    Declares (line ++ ",") type name := by
  obtain ⟨front, mark, back, hfront, hmark, hback, rfl⟩ := h
  refine ⟨front, mark, back ++ ",", hfront, hmark, ?_, by simp⟩
  exact hback.append (Text.ends_cons (by decide) [])

/-- A parameter stands in the signature with a comma or without one. -/
lemma mem_separated_or {lines : List Text} {parameter : Text} (h : parameter ∈ lines) :
    parameter ∈ EntryPoint.separated lines ∨ parameter ++ "," ∈ EntryPoint.separated lines := by
  fun_induction EntryPoint.separated lines with
  | case1 => cases h
  | case2 p => exact Or.inl h
  | case3 p q rest ih =>
      rcases List.mem_cons.mp h with rfl | h
      · exact Or.inr List.mem_cons_self
      · exact (ih h).imp (List.mem_cons_of_mem _) (List.mem_cons_of_mem _)

/-- The signature declares what its parameters declare. -/
lemma declares_of_mem_parameters {stage : Stage} {textures : List BoundTexture}
    {parameter type name : Text} (hmem : parameter ∈ EntryPoint.parameters stage textures)
    (h : Declares parameter type name) :
    ∃ line ∈ EntryPoint.signature stage textures, Declares line type name := by
  have hsignature : ∀ line ∈ EntryPoint.separated (EntryPoint.parameters stage textures),
      line ∈ EntryPoint.signature stage textures := by
    intro line hline
    exact List.mem_append_left _ (List.mem_cons_of_mem _ hline)
  rcases mem_separated_or hmem with hplain | hcomma
  · exact ⟨_, hsignature _ hplain, h⟩
  · exact ⟨_, hsignature _ hcomma, h.comma⟩

/-- Both signatures declare the uniforms. -/
lemma declares_uniforms (stage : Stage) (textures : List BoundTexture) :
    ∃ line ∈ EntryPoint.signature stage textures, Declares line uniformsStruct uniformsInput := by
  have hmem : EntryPoint.uniformsParameter ∈ EntryPoint.parameters stage textures := by
    cases stage <;> simp [EntryPoint.parameters]
  exact declares_of_mem_parameters hmem
    ⟨"    constant ", "& ", " [[buffer(0)]]", Or.inr rfl, Or.inr rfl,
      Text.ends_cons (by decide) _, rfl⟩

/-- The vertex signature declares the vertex input. -/
lemma declares_vertexInput :
    ∃ line ∈ EntryPoint.signature .vertex [], Declares line vertexStruct vertexInput :=
  declares_of_mem_parameters List.mem_cons_self
    ⟨"    ", " ", " [[stage_in]]", Or.inl rfl, Or.inl rfl, Text.ends_cons (by decide) _, rfl⟩

/-- The fragment signature declares its input from the rasterizer. -/
lemma declares_fragmentInput (textures : List BoundTexture) :
    ∃ line ∈ EntryPoint.signature .fragment textures,
      Declares line rasterizerStruct fragmentInput :=
  declares_of_mem_parameters List.mem_cons_self
    ⟨"    ", " ", " [[stage_in]]", Or.inl rfl, Or.inl rfl, Text.ends_cons (by decide) _, rfl⟩

/-- The vertex function declares its output. -/
lemma declares_vertexOutput :
    ∃ line ∈ EntryPoint.signature .vertex [], Declares line rasterizerStruct (output .vertex) :=
  ⟨_, List.mem_append_right _ (List.mem_cons_of_mem _ (List.mem_singleton_self _)),
    "    ", " ", ";", Or.inl rfl, Or.inl rfl, Text.ends_cons (by decide) _, rfl⟩

/-- Accesses are the same text only if their owners and their fields are. -/
lemma member_inj {owner owner' field field' : Text} (h : Text.Word owner) (h' : Text.Word owner') :
    member owner field = member owner' field' ↔ owner = owner' ∧ field = field' := by
  have hpoint : ∀ f : Text, Text.Ends ('.' :: f) := Text.ends_cons (by decide)
  have hsplit : ∀ o f : Text, member o f = o ++ '.' :: f := by
    intro o f
    simp [member]
  rw [hsplit, hsplit]
  constructor
  · intro heq
    obtain ⟨howner, hfield⟩ := Text.word_append_inj h.2 h'.2 (hpoint field) (hpoint field') heq
    exact ⟨howner, List.tail_eq_of_cons_eq hfield⟩
  · rintro ⟨rfl, rfl⟩
    rfl

/-- The struct of the uniforms has a field for each of them. -/
lemma uniforms_eq_ok {metadata : Metadata} {struct : Struct} (h : uniforms metadata = .ok struct) :
    struct.name = uniformsStruct ∧
      struct.fields.map (·.name) = metadata.uniforms.map (·.name.display) := by
  obtain ⟨fields, hfields, hstruct⟩ := bind_eq_ok.mp h
  obtain rfl := Except.ok.inj hstruct
  refine ⟨rfl, ?_⟩
  show fields.map (·.name) = _
  clear h hstruct
  generalize metadata.uniforms = us at hfields
  induction us generalizing fields with
  | nil =>
      obtain rfl := Except.ok.inj hfields
      rfl
  | cons u us ih =>
      rw [List.mapM_cons] at hfields
      obtain ⟨field, hfield, hfields⟩ := bind_eq_ok.mp hfields
      obtain ⟨rest, hrest, hfields⟩ := bind_eq_ok.mp hfields
      obtain rfl := Except.ok.inj hfields
      have hname : field.name = u.name.display := by
        rcases htype : u.metalType with e | type
        · rw [htype] at hfield
          cases hfield
        · rw [htype] at hfield
          rw [← Except.ok.inj hfield]
      rw [List.map_cons, List.map_cons, hname, ih rest hrest]

/-- The fields of the vertex struct are named by the attributes. -/
lemma names_vertexInputs (attributes : List Declaration) :
    (vertexInputs attributes).fields.map (·.name) = attributes.map (·.name) := by
  simp [vertexInputs, Field.ofDeclaration]

/-- The fields of the rasterizer struct are the position and the varyings. -/
lemma names_rasterizer (varyings : List Declaration) :
    (rasterizer varyings).fields.map (·.name) = positionField :: varyings.map (·.name) := by
  simp [rasterizer, Field.ofDeclaration]

end Metal

namespace Lowering

/-- An access to a field: its owner is declared in the signature with one of the structs, and a line
of the struct declares the field. -/
def NamesField (s : Lowering) (structs : List Metal.Struct) (access : Text) : Prop :=
  ∃ owner, ∃ struct ∈ structs, ∃ i field, access = Metal.member owner field.name ∧
    (∃ line ∈ s.signature, Metal.Declares line struct.name owner) ∧
    struct.fields[i]? = some field ∧ struct.WritesField i field

/-- A struct with a field of the given name is written with it. -/
lemma namesField_of_mem {s : Lowering} {structs : List Metal.Struct} (struct : Metal.Struct)
    {owner name : Text} (hstruct : struct ∈ structs)
    (howner : ∃ line ∈ s.signature, Metal.Declares line struct.name owner)
    (hname : name ∈ struct.fields.map (·.name)) :
    s.NamesField structs (Metal.member owner name) := by
  obtain ⟨field, hfield, rfl⟩ := List.mem_map.mp hname
  obtain ⟨i, hi⟩ := List.mem_iff_getElem?.mp hfield
  exact ⟨owner, struct, hstruct, i, field, rfl, howner, hi, Metal.Struct.writesField hi⟩

/-! ### What is found for a name -/

/-- The names of the uniforms. -/
def uniformNames (metadata : Metadata) : List Text := metadata.uniforms.map (·.name.display)

/-- What is found for a name among the fields of one owner is its field. -/
lemma find?_map_member (owner : Text) (names : List Text) (name : Text) :
    (names.map fun n => (n, Metal.member owner n)).find? (·.1 = name) =
      if name ∈ names then some (name, Metal.member owner name) else none := by
  induction names with
  | nil => rfl
  | cons n names ih =>
      by_cases hn : n = name
      · subst hn
        simp
      · rw [List.map_cons, List.find?_cons_of_neg (by simpa using hn), ih]
        simp [Ne.symm hn]

/-- The vertex table is made for attributes, uniforms, varyings and the built-in output, in this
order. -/
lemma vertexPairs_eq (metadata : Metadata) (attributes varyings : List Text) :
    vertexPairs metadata attributes varyings =
      attributes.map (fun n => (n, Metal.member Metal.vertexInput n)) ++
        ((uniformNames metadata).map (fun n => (n, Metal.member Metal.uniformsInput n)) ++
          (varyings.map (fun n => (n, Metal.member (Metal.output .vertex) n)) ++
            [(Metal.builtinOutput .vertex,
              Metal.member (Metal.output .vertex) Metal.positionField)])) := by
  simp [vertexPairs, vertexEntries, uniformNames, uniformEntry, fieldEntry, Function.comp_def]

/-- The fragment table is made for uniforms, varyings and the built-in output, in this order. -/
lemma fragmentPairs_eq (metadata : Metadata) (varyings : List Text) :
    fragmentPairs metadata varyings =
      (uniformNames metadata).map (fun n => (n, Metal.member Metal.uniformsInput n)) ++
        (varyings.map (fun n => (n, Metal.member Metal.fragmentInput n)) ++
          [(Metal.builtinOutput .fragment, Metal.output .fragment)]) := by
  simp [fragmentPairs, fragmentEntries, uniformNames, uniformEntry, fieldEntry, Function.comp_def]

/-- The access of a name in the vertex stage. -/
lemma find?_ofVertex (metadata : Metadata) (attributes varyings : List Text) (name : Text) :
    (ofVertex metadata attributes varyings).table.find? (.text name) =
      if name ∈ attributes then some (Metal.member Metal.vertexInput name)
      else if name ∈ uniformNames metadata then some (Metal.member Metal.uniformsInput name)
      else if name ∈ varyings then some (Metal.member (Metal.output .vertex) name)
      else if name = Metal.builtinOutput .vertex then
        some (Metal.member (Metal.output .vertex) Metal.positionField)
      else none := by
  rw [ofVertex, FieldTable.find?_kept, vertexPairs_eq, List.find?_append, List.find?_append,
    List.find?_append, find?_map_member, find?_map_member, find?_map_member, List.find?_singleton]
  split_ifs <;> simp_all

/-- The access of a name in the fragment stage. -/
lemma find?_ofFragment (metadata : Metadata) (varyings : List Text) (textures : List BoundTexture)
    (name : Text) :
    (ofFragment metadata varyings textures).table.find? (.text name) =
      if name ∈ uniformNames metadata then some (Metal.member Metal.uniformsInput name)
      else if name ∈ varyings then some (Metal.member Metal.fragmentInput name)
      else if name = Metal.builtinOutput .fragment then some (Metal.output .fragment)
      else none := by
  rw [ofFragment, FieldTable.find?_kept, fragmentPairs_eq, List.find?_append, List.find?_append,
    find?_map_member, find?_map_member, List.find?_singleton]
  split_ifs <;> simp_all

/-! ### Tables and structs -/

variable {metadata : Metadata}

/-- Every entry of the vertex table is a field of a struct of the vertex function. -/
lemma namesField_ofVertex {uniforms : Metal.Struct}
    (huniforms : Metal.uniforms metadata = .ok uniforms)
    (attributes varyings : List Declaration) {entry : Json.Value × Text}
    (h : entry ∈ (ofVertex metadata (attributes.map (·.name)) (varyings.map (·.name))).table.entries) :
    (ofVertex metadata (attributes.map (·.name)) (varyings.map (·.name))).NamesField
      [Metal.vertexInputs attributes, uniforms, Metal.rasterizer varyings] entry.2 := by
  obtain ⟨hname, hfields⟩ := Metal.uniforms_eq_ok huniforms
  obtain ⟨pair, hpair, rfl⟩ := List.mem_map.mp h
  obtain ⟨e, he, rfl⟩ := List.mem_map.mp (FieldTable.mem_of_mem_kept hpair)
  rcases mem_vertexEntries.mp he with ⟨name, hmem, rfl⟩ | ⟨u, hu, rfl⟩ | ⟨name, hmem, rfl⟩ | rfl
  · refine namesField_of_mem (Metal.vertexInputs attributes) (by simp)
      Metal.declares_vertexInput ?_
    rwa [Metal.names_vertexInputs]
  · refine namesField_of_mem uniforms (by simp) ?_ ?_
    · rw [hname]
      exact Metal.declares_uniforms .vertex []
    · rw [hfields]
      exact List.mem_map_of_mem hu
  · refine namesField_of_mem (Metal.rasterizer varyings) (by simp)
      Metal.declares_vertexOutput ?_
    rw [Metal.names_rasterizer]
    exact List.mem_cons_of_mem _ hmem
  · refine namesField_of_mem (Metal.rasterizer varyings) (by simp)
      Metal.declares_vertexOutput ?_
    rw [Metal.names_rasterizer]
    exact List.mem_cons_self

/-- Every entry of the fragment table is the color, or a field of a struct of the fragment
function. -/
lemma namesField_ofFragment {uniforms : Metal.Struct}
    (huniforms : Metal.uniforms metadata = .ok uniforms) (varyings : List Declaration)
    (textures : List BoundTexture) {entry : Json.Value × Text}
    (h : entry ∈ (ofFragment metadata (varyings.map (·.name)) textures).table.entries) :
    entry.2 = Metal.output .fragment ∨
      (ofFragment metadata (varyings.map (·.name)) textures).NamesField
        [uniforms, Metal.rasterizer varyings] entry.2 := by
  obtain ⟨hname, hfields⟩ := Metal.uniforms_eq_ok huniforms
  obtain ⟨pair, hpair, rfl⟩ := List.mem_map.mp h
  obtain ⟨e, he, rfl⟩ := List.mem_map.mp (FieldTable.mem_of_mem_kept hpair)
  rcases mem_fragmentEntries.mp he with ⟨u, hu, rfl⟩ | ⟨name, hmem, rfl⟩ | rfl
  · refine Or.inr (namesField_of_mem uniforms (by simp) ?_ ?_)
    · rw [hname]
      exact Metal.declares_uniforms .fragment textures
    · rw [hfields]
      exact List.mem_map_of_mem hu
  · refine Or.inr (namesField_of_mem (Metal.rasterizer varyings) (by simp)
      (Metal.declares_fragmentInput textures) ?_)
    rw [Metal.names_rasterizer]
    exact List.mem_cons_of_mem _ hmem
  · exact Or.inl rfl

/-! ### Which names become fields of which struct -/

/-- The variables that own the fields of both stages. -/
def fieldOwners : List Text :=
  [Metal.vertexInput, Metal.uniformsInput, Metal.output .vertex, Metal.fragmentInput]

/-- The owners of fields are words. -/
lemma word_fieldOwners : ∀ owner ∈ fieldOwners, Text.Word owner := by decide

/-- Fields of different owners have different accesses. -/
lemma member_ne {owner owner' : Text} (hne : owner ≠ owner') (h : owner ∈ fieldOwners)
    (h' : owner' ∈ fieldOwners) (field field' : Text) :
    Metal.member owner field ≠ Metal.member owner' field' := by
  intro heq
  exact hne ((Metal.member_inj (word_fieldOwners owner h) (word_fieldOwners owner' h')).mp heq).1

variable {attributes varyings : List Text} {textures : List BoundTexture} {name : Text}

/-- The vertex table takes a name for a uniform exactly if it is one and no attribute. -/
lemma find?_vertex_uniform_iff :
    (ofVertex metadata attributes varyings).table.find? (.text name) =
        some (Metal.member Metal.uniformsInput name) ↔
      name ∉ attributes ∧ name ∈ uniformNames metadata := by
  have hattribute := member_ne (show Metal.vertexInput ≠ Metal.uniformsInput by decide)
    (by decide) (by decide) name name
  have houtput := member_ne (show Metal.output .vertex ≠ Metal.uniformsInput by decide)
    (by decide) (by decide)
  rw [find?_ofVertex]
  split_ifs <;> simp_all

/-- The vertex table takes a name for a varying exactly if it is one and neither an attribute nor a
uniform. -/
lemma find?_vertex_varying_iff :
    (ofVertex metadata attributes varyings).table.find? (.text name) =
        some (Metal.member (Metal.output .vertex) name) ↔
      name ∉ attributes ∧ name ∉ uniformNames metadata ∧ name ∈ varyings := by
  have hattribute := member_ne (show Metal.vertexInput ≠ Metal.output .vertex by decide)
    (by decide) (by decide) name name
  have huniform := member_ne (show Metal.uniformsInput ≠ Metal.output .vertex by decide)
    (by decide) (by decide) name name
  have hposition : Metal.member (Metal.output .vertex) Metal.positionField ≠
      Metal.member (Metal.output .vertex) (Metal.builtinOutput .vertex) := by decide
  rw [find?_ofVertex]
  split_ifs <;> simp_all

/-- The fragment table takes a name for a uniform exactly if it is one. -/
lemma find?_fragment_uniform_iff :
    (ofFragment metadata varyings textures).table.find? (.text name) =
        some (Metal.member Metal.uniformsInput name) ↔
      name ∈ uniformNames metadata := by
  have hinput := member_ne (show Metal.fragmentInput ≠ Metal.uniformsInput by decide)
    (by decide) (by decide) name name
  have hcolor : Metal.output .fragment ≠
      Metal.member Metal.uniformsInput (Metal.builtinOutput .fragment) := by decide
  rw [find?_ofFragment]
  split_ifs <;> simp_all

/-- The fragment table takes a name for a varying exactly if it is one and no uniform. -/
lemma find?_fragment_varying_iff :
    (ofFragment metadata varyings textures).table.find? (.text name) =
        some (Metal.member Metal.fragmentInput name) ↔
      name ∉ uniformNames metadata ∧ name ∈ varyings := by
  have huniform := member_ne (show Metal.uniformsInput ≠ Metal.fragmentInput by decide)
    (by decide) (by decide) name name
  have hcolor : Metal.output .fragment ≠
      Metal.member Metal.fragmentInput (Metal.builtinOutput .fragment) := by decide
  rw [find?_ofFragment]
  split_ifs <;> simp_all

/-- **Tables and structs fit.** Every entry of the vertex table is a field of a struct that the
vertex function declares, every entry of the fragment table with a point in it is one of the
fragment function, and a name that is no attribute is a field of the uniforms in both stages or in
none, and a field of the rasterizer struct in both or in none. -/
theorem tables_fit_structs (metadata : Metadata) (attributes varyings : List Declaration)
    (huniforms : ∀ u ∈ metadata.uniforms, IsIdentifierName u.name ∧ u.Supported) :
    ∃ uniforms vertexStage, Metal.uniforms metadata = .ok uniforms ∧
      (vertex metadata (attributes.map (·.name)) (varyings.map (·.name))).result = .ok vertexStage ∧
      (∀ entry ∈ vertexStage.table.entries, vertexStage.NamesField
        [Metal.vertexInputs attributes, uniforms, Metal.rasterizer varyings] entry.2) ∧
      ∀ types fragmentStage,
        (fragment metadata (varyings.map (·.name)) types).result = .ok fragmentStage →
        (∀ entry ∈ fragmentStage.table.entries, '.' ∈ entry.2 →
          fragmentStage.NamesField [uniforms, Metal.rasterizer varyings] entry.2) ∧
        ∀ name, name ∉ attributes.map (·.name) →
          (vertexStage.table.find? (.text name) = some (Metal.member Metal.uniformsInput name) ↔
            fragmentStage.table.find? (.text name) =
              some (Metal.member Metal.uniformsInput name)) ∧
          (vertexStage.table.find? (.text name) =
              some (Metal.member (Metal.output .vertex) name) ↔
            fragmentStage.table.find? (.text name) =
              some (Metal.member Metal.fragmentInput name)) := by
  have hnames : ∀ u ∈ metadata.uniforms, ∃ t, u.name = .text t := by
    intro u hu
    exact (huniforms u hu).1.imp fun _ h => h.1
  obtain ⟨uniforms, hstruct⟩ := Metal.uniforms_of_validate fun u hu => (huniforms u hu).2
  refine ⟨uniforms, _, hstruct, vertex_result hnames _ _, fun _ => namesField_ofVertex hstruct _ _,
    fun types fragmentStage hstage => ?_⟩
  rw [fragment_result hnames] at hstage
  obtain ⟨textures, -, hstage⟩ := bind_eq_ok.mp hstage
  obtain rfl := Except.ok.inj hstage
  refine ⟨fun entry hentry hpoint => ?_, fun name hname => ⟨?_, ?_⟩⟩
  · refine (namesField_ofFragment hstruct varyings textures hentry).resolve_left fun hcolor => ?_
    rw [hcolor] at hpoint
    exact absurd hpoint (by decide)
  · rw [find?_vertex_uniform_iff, find?_fragment_uniform_iff, and_iff_right hname]
  · rw [find?_vertex_varying_iff, find?_fragment_varying_iff, and_iff_right hname]

/-- A uniform and a varying of one name, and a varying called like the field of the position: both
stages read the first as a uniform, and the second as a field of the rasterizer struct. -/
theorem tables_fit_structs_shared_names :
    ∃ uniforms vertexStage fragmentStage,
      Metal.uniforms ⟨[⟨.text "color", .known .float4⟩], []⟩ = .ok uniforms ∧
      (vertex ⟨[⟨.text "color", .known .float4⟩], []⟩ ["pos"] ["color", "position"]).result =
        .ok vertexStage ∧
      (fragment ⟨[⟨.text "color", .known .float4⟩], []⟩ ["color", "position"] []).result =
        .ok fragmentStage ∧
      (∀ entry ∈ vertexStage.table.entries, vertexStage.NamesField
        [Metal.vertexInputs [⟨.attribute, "vec3", "pos", 0, none⟩], uniforms,
          Metal.rasterizer [⟨.varying, "vec4", "color", 0, none⟩,
            ⟨.varying, "vec3", "position", 1, none⟩]] entry.2) ∧
      (∀ entry ∈ fragmentStage.table.entries, '.' ∈ entry.2 → fragmentStage.NamesField
        [uniforms, Metal.rasterizer [⟨.varying, "vec4", "color", 0, none⟩,
          ⟨.varying, "vec3", "position", 1, none⟩]] entry.2) ∧
      (vertexStage.table.find? (.text "color") = some "uniforms.color".toList ∧
        fragmentStage.table.find? (.text "color") = some "uniforms.color".toList) ∧
      vertexStage.table.find? (.text "position") = some "msl_vertex_out.position".toList ∧
        fragmentStage.table.find? (.text "position") = some "in.position".toList := by
  have hfit := tables_fit_structs ⟨[⟨.text "color", .known .float4⟩], []⟩
    [⟨.attribute, "vec3", "pos", 0, none⟩]
    [⟨.varying, "vec4", "color", 0, none⟩, ⟨.varying, "vec3", "position", 1, none⟩]
    (List.forall_mem_singleton.mpr ⟨⟨"color", rfl, by decide⟩, .float4, by decide, rfl⟩)
  obtain ⟨uniforms, vertexStage, hstruct, hstage, hentries, hfragment⟩ := hfit
  obtain ⟨hfields, hboth⟩ := hfragment [] _ rfl
  obtain rfl := Except.ok.inj hstage
  have hcolor := (hboth "color" (by decide)).1
  have hposition := (hboth "position" (by decide)).2
  exact ⟨uniforms, _, _, hstruct, rfl, rfl, hentries, hfields, ⟨rfl, hcolor.mp rfl⟩, rfl,
    hposition.mp rfl⟩

end Lowering

/-! ### Different names with one access -/

/-- Different names have different accesses. -/
def FieldTable.Injective (table : FieldTable) : Prop :=
  ∀ m n access, table.find? (.text m) = some access → table.find? (.text n) = some access → m = n

namespace Lowering

variable {metadata : Metadata} {attributes varyings : List Text}

/-- A name of the vertex stage is the name of its field; only the built-in variable is not, and only
where it is not declared. -/
lemma find?_vertex_cases {name access : Text}
    (h : (ofVertex metadata attributes varyings).table.find? (.text name) = some access) :
    (∃ owner ∈ fieldOwners, access = Metal.member owner name ∧
        (owner = Metal.output .vertex → name ∈ varyings)) ∨
      name = Metal.builtinOutput .vertex ∧
        access = Metal.member (Metal.output .vertex) Metal.positionField ∧
        name ∉ attributes ++ uniformNames metadata ++ varyings := by
  rw [find?_ofVertex] at h
  split_ifs at h with hattribute huniform hvarying hbuiltin
  · exact Or.inl ⟨_, by decide, (Option.some.inj h).symm, fun heq => absurd heq (by decide)⟩
  · exact Or.inl ⟨_, by decide, (Option.some.inj h).symm, fun heq => absurd heq (by decide)⟩
  · exact Or.inl ⟨_, by decide, (Option.some.inj h).symm, fun _ => hvarying⟩
  · exact Or.inr ⟨hbuiltin, (Option.some.inj h).symm, by simp [hattribute, huniform, hvarying]⟩

/-- The access of the position belongs to a varying of that name, or to the built-in variable. -/
lemma eq_positionField {owner name : Text} (howner : owner ∈ fieldOwners)
    (h : Metal.member owner name = Metal.member (Metal.output .vertex) Metal.positionField) :
    owner = Metal.output .vertex ∧ name = Metal.positionField :=
  (Metal.member_inj (word_fieldOwners owner howner) (word_fieldOwners _ (by decide))).mp h

/-- No two names of the vertex table share an access, if no varying is called like the position, or
something is called like the built-in output. -/
lemma injective_ofVertex
    (h : Metal.positionField ∉ varyings ∨
      Metal.builtinOutput .vertex ∈ attributes ++ uniformNames metadata ++ varyings) :
    (ofVertex metadata attributes varyings).table.Injective := by
  intro m n access hm hn
  rcases find?_vertex_cases hm with ⟨owner, howner, rfl, hvarying⟩ | ⟨rfl, rfl, hundeclared⟩
  · rcases find?_vertex_cases hn with ⟨owner', howner', heq, -⟩ | ⟨rfl, heq, hundeclared⟩
    · exact ((Metal.member_inj (word_fieldOwners owner howner)
        (word_fieldOwners owner' howner')).mp heq).2
    · obtain ⟨hout, rfl⟩ := eq_positionField howner heq
      exact absurd (hvarying hout) (h.resolve_right hundeclared)
  · rcases find?_vertex_cases hn with ⟨owner', howner', heq, hvarying⟩ | ⟨rfl, -, -⟩
    · obtain ⟨hout, rfl⟩ := eq_positionField howner' heq.symm
      exact absurd (hvarying hout) (h.resolve_right hundeclared)
    · rfl

/-- A varying called like the field of the position shares its access with the built-in variable. -/
lemma not_injective_ofVertex (hposition : Metal.positionField ∈ varyings)
    (hattribute : Metal.positionField ∉ attributes)
    (huniform : Metal.positionField ∉ uniformNames metadata)
    (hundeclared : Metal.builtinOutput .vertex ∉ attributes ++ uniformNames metadata ++ varyings) :
    ¬(ofVertex metadata attributes varyings).table.Injective := by
  intro hinjective
  rw [List.mem_append, List.mem_append, not_or, not_or] at hundeclared
  have heq := hinjective Metal.positionField (Metal.builtinOutput .vertex)
    (Metal.member (Metal.output .vertex) Metal.positionField)
    (by rw [find?_ofVertex, if_neg hattribute, if_neg huniform, if_pos hposition])
    (by rw [find?_ofVertex, if_neg hundeclared.1.1, if_neg hundeclared.1.2, if_neg hundeclared.2,
      if_pos rfl])
  exact absurd heq (by decide)

/-- **The position is the only name that can clash.** The fields of the rasterizer struct, each of
which is written on a line of its own, are different exactly if no varying is called like its first
field, and the names of the vertex stage have different accesses exactly if none is, or if the
built-in variable is itself declared. -/
theorem distinct_fields_iff (metadata : Metadata) (attributes varyings : List Declaration)
    (huniforms : ∀ u ∈ metadata.uniforms, IsIdentifierName u.name)
    (hvaryings : (varyings.map (·.name)).Nodup)
    (hshared : ∀ name ∈ varyings.map (·.name),
      name ∉ attributes.map (·.name) ∧ name ∉ uniformNames metadata) :
    (∀ i field, (Metal.rasterizer varyings).fields[i]? = some field →
      (Metal.rasterizer varyings).WritesField i field) ∧
    (((Metal.rasterizer varyings).fields.map (·.name)).Nodup ↔
      Metal.positionField ∉ varyings.map (·.name)) ∧
    ∃ s, (vertex metadata (attributes.map (·.name)) (varyings.map (·.name))).result = .ok s ∧
      (s.table.Injective ↔ Metal.positionField ∉ varyings.map (·.name) ∨
        Metal.builtinOutput .vertex ∈
          attributes.map (·.name) ++ uniformNames metadata ++ varyings.map (·.name)) := by
  refine ⟨fun _ _ => Metal.Struct.writesField, ?_, _,
    vertex_result (fun u hu => (huniforms u hu).imp fun _ h => h.1) _ _, ?_, injective_ofVertex⟩
  · rw [Metal.names_rasterizer, List.nodup_cons, and_iff_left hvaryings]
  · intro hinjective
    by_contra hclash
    rw [not_or, not_not] at hclash
    obtain ⟨hattribute, huniform⟩ := hshared _ hclash.1
    exact not_injective_ofVertex hclash.1 hattribute huniform hclash.2 hinjective

/-- An attribute called like the field of the position is no clash. -/
theorem distinct_fields_position_attribute :
    (Metal.rasterizer [⟨.varying, "vec2", "uv", 0, none⟩]).WritesField 1 ⟨"float2", "uv", none⟩ ∧
    ((Metal.rasterizer [⟨.varying, "vec2", "uv", 0, none⟩]).fields.map (·.name)).Nodup ∧
    ∃ s, (vertex ⟨[⟨.text "mvp", .known .mat4⟩], []⟩ ["position"] ["uv"]).result = .ok s ∧
      s.table.Injective := by
  have hdistinct := distinct_fields_iff ⟨[⟨.text "mvp", .known .mat4⟩], []⟩
    [⟨.attribute, "vec3", "position", 0, none⟩] [⟨.varying, "vec2", "uv", 0, none⟩]
    (List.forall_mem_singleton.mpr ⟨"mvp", rfl, by decide⟩) (by decide) (by decide)
  obtain ⟨hlines, hfields, s, hstage, htable⟩ := hdistinct
  exact ⟨hlines 1 _ (by decide), hfields.mpr (by decide), s, hstage,
    htable.mpr (Or.inl (by decide))⟩

/-- A varying called like the field of the position: all declared names are different, the
rasterizer struct has two fields of one name, and the position and the varying one access. -/
theorem varying_position_clashes :
    ∃ varyings s,
      (Declaration.collect "varying vec3 position;\nvoid main() \x7b\n\x7d\n" .attribute .vertex).result =
        .ok [] ∧
      (Declaration.collect "varying vec3 position;\nvoid main() \x7b\n\x7d\n" .varying .vertex).result =
        .ok varyings ∧
      (varyings.map (·.name)).Nodup ∧
      (vertex {} [] (varyings.map (·.name))).result = .ok s ∧
      ¬((Metal.rasterizer varyings).fields.map (·.name)).Nodup ∧ ¬s.table.Injective := by
  refine ⟨[⟨.varying, "vec3", "position", 0, none⟩], _, rfl, rfl, by decide,
    vertex_result (fun _ hu => absurd hu List.not_mem_nil) _ _, by decide, ?_⟩
  exact not_injective_ofVertex (by decide) (by decide) (by decide) (by decide)

end Lowering

end MetalLowering
