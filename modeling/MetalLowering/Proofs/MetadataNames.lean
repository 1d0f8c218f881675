import MetalLowering.Proofs.CleanMetadata

/-!
# Metadata names that a lowering cannot work with

A pair of sources that is fine in all other respects ends with a failure that no command expects if
a name of its metadata is not clean (`lowerPair_stops`): a list or an object cannot be registered or
bound, any other name that is no text makes every body line fail, and so does an invalid template
(`Lowering.Fails`). The failure is reached at the latest at the brace that closes the entry point.
-/

namespace MetalLowering

open EntryPoint (BoundTexture)
open Json (Value)

/-! ### Failures that no command expects -/

/-- An outcome that is a failure no command expects. -/
def Stops {α : Type} (r : Except Failure α) : Prop := ∃ e, r = .error e ∧ ¬e.Expected

/-- A value of the wrong shape is not reported. -/
lemma not_expected_shape : ¬Failure.shape.Expected := by
  simp [Failure.Expected, JobFailure.Expected, JobFailure.cause]

/-- A template that cannot be made is not reported. -/
lemma not_expected_template (e : TemplateError) : ¬(Failure.template e).Expected := by
  simp [Failure.Expected, JobFailure.Expected, JobFailure.cause]

section outcomes

variable {α β : Type}

/-- What stops, stops whatever follows. -/
lemma Stops.bind {r : Except Failure α} (h : Stops r) (k : α → Except Failure β) :
    Stops (r.bind k) := by
  obtain ⟨e, rfl, he⟩ := h
  exact ⟨e, rfl, he⟩

/-- What follows a success stops the whole. -/
lemma stops_bind_of_ok {r : Except Failure α} {a : α} (hr : r = .ok a) {k : α → Except Failure β}
    (h : Stops (k a)) : Stops (r.bind k) := by
  rw [hr]
  exact h

end outcomes

/-! ### Names that cannot be registered or looked for -/

/-- A name that is the same key as a name which is no text is no text itself. -/
lemma text?_eq_none_of_sameKey {name other : Value} (h : name.text? = none)
    (hsame : other.sameKey name = true) : other.text? = none := by
  rcases other with _ | _ | _ | _ | t | _ | _
  case text =>
    rcases name with _ | _ | _ | _ | u | _ | _
    case text => cases h
    all_goals simp [Value.sameKey, Value.wholeNumber?] at hsame
  all_goals rfl

namespace FieldTable

/-- A table with a name that is no text. -/
def Odd (table : FieldTable) : Prop := ∃ entry ∈ table.entries, entry.1.text? = none

/-- A registration leaves a table with an odd name odd. -/
lemma Odd.register {table : FieldTable} (h : table.Odd) (name : Value) (access : Text) :
    (table.register name access).Odd := by
  obtain ⟨entry, hentry, hodd⟩ := h
  unfold FieldTable.register
  split
  · exact ⟨entry, hentry, hodd⟩
  · exact ⟨entry, List.mem_append_left _ hentry, hodd⟩

/-- Registering an odd name makes a table odd. -/
lemma odd_register {name : Value} (h : name.text? = none) (table : FieldTable) (access : Text) :
    (table.register name access).Odd := by
  unfold FieldTable.register
  split
  next found hfind =>
    obtain ⟨entry, hentry, -⟩ := Option.map_eq_some_iff.mp hfind
    have hsame : entry.1.sameKey name = true := by simpa using List.find?_some hentry
    exact ⟨entry, List.mem_of_find?_eq_some hentry, text?_eq_none_of_sameKey h hsame⟩
  next => exact ⟨(name, access), List.mem_append_right _ (List.mem_singleton_self _), h⟩

/-- A table with an odd name lowers no line. -/
lemma Odd.lower {table : FieldTable} (h : table.Odd) (line : Text) :
    table.lower line = .error .shape := by
  have hnone : table.texts? = none := by
    obtain ⟨entry, hentry, hodd⟩ := h
    unfold texts?
    generalize table.entries = entries at hentry
    induction entries with
    | nil => cases hentry
    | cons other rest ih =>
        rw [List.mapM_cons]
        rcases List.mem_cons.mp hentry with rfl | hrest
        · simp [hodd]
        · rw [ih hrest]
          cases other.1.text? <;> rfl
  simp only [FieldTable.lower, hnone]

/-- Names that can all be keys are registered, and one that is no text stays in the table. -/
lemma build_of_keys {entries : List (Value × Text)} (h : ∀ e ∈ entries, e.1.isKey = true)
    (table : FieldTable) :
    ∃ built, (build table entries).result = .ok built ∧
      (table.Odd ∨ (∃ e ∈ entries, e.1.text? = none) → built.Odd) := by
  induction entries generalizing table with
  | nil => exact ⟨table, rfl, by simp⟩
  | cons e entries ih =>
      obtain ⟨hkey, hkeys⟩ := List.forall_mem_cons.mp h
      obtain ⟨built, hbuilt, hodd⟩ := ih hkeys (table.register e.1 e.2)
      refine ⟨built, ?_, fun hsome => hodd ?_⟩
      · simp only [build, Traced.result_bind, registerTraced, hkey, if_true]
        exact hbuilt
      · rcases hsome with htable | ⟨e', he', hnone⟩
        · exact Or.inl (htable.register _ _)
        · rcases List.mem_cons.mp he' with rfl | he'
          · exact Or.inl (odd_register hnone table _)
          · exact Or.inr ⟨e', he', hnone⟩

/-- A list or an object cannot be registered. -/
lemma build_of_not_key {entries : List (Value × Text)} {e : Value × Text} (he : e ∈ entries)
    (h : e.1.isKey = false) (table : FieldTable) :
    (build table entries).result = .error .shape := by
  induction entries generalizing table with
  | nil => cases he
  | cons first entries ih =>
      by_cases hkey : first.1.isKey = true
      · simp only [build, Traced.result_bind, registerTraced, hkey, if_true]
        refine ih ((List.mem_cons.mp he).resolve_left ?_) _
        rintro rfl
        rw [hkey] at h
        cases h
      · simp only [build, Traced.result_bind, registerTraced, hkey]
        rfl

end FieldTable

namespace Lowering

/-! ### Lowerings that fail at every body line -/

/-- Every line of a body fails with `e`. -/
def Fails (s : Lowering) (e : Failure) : Prop := ∀ line, s.lowerBodyLine line = .error e

/-- A source whose entry point is closed: a brace stands in the first column of a later line. -/
def Closed (source : Text) : Prop :=
  ∃ before entry after, Text.lines source = before ++ entry :: after ∧
    (∀ line ∈ before, isEntryPoint line = false) ∧ isEntryPoint entry = true ∧
    ∃ line ∈ after, line.head? = some '\x7d'

variable {s : Lowering} {e : Failure}

/-- If the first emission fails like the second one or not at all, both together fail like it. -/
lemma append_failure_cases {a : Emission} (h : a.failure = none ∨ a.failure = some e) {b : Emission}
    (hb : b.failure = some e) : (a.append b).failure = some e := by
  rcases h with h | h
  · simpa [Emission.append, h] using hb
  · simp [Emission.append, h]

/-- A lowering that fails on every line fails on a body line. -/
lemma Fails.bodyBlock (h : s.Fails e) (line : Text) : (s.bodyBlock line).failure = some e := by
  simp [Lowering.bodyBlock, Emission.ofLine, h line]

/-- A lowering that fails on every line can fail behind the opening brace in this way only. -/
lemma Fails.openingBlock (h : s.Fails e) (text : Text) :
    (s.openingBlock text).failure = none ∨ (s.openingBlock text).failure = some e := by
  have hstatement : ∀ t, (s.statementBlock t).failure = none ∨
      (s.statementBlock t).failure = some e := by
    intro t
    unfold statementBlock
    split_ifs
    · exact Or.inl rfl
    · rw [h t]
      exact Or.inr rfl
  unfold Lowering.openingBlock
  dsimp only
  split_ifs
  · rcases hstatement (Text.trimRight (cutAtLastBrace (Text.trim text)).1) with hnone | hsome
    · exact Or.inl (by simp [Emission.append, hnone])
    · exact Or.inr (by simp [Emission.append, hsome])
  · exact hstatement _

/-- A lowering that fails on every line can fail on a line anywhere in this way only. -/
lemma Fails.lowerLine (h : s.Fails e) (position : Position) (line : Text) :
    (s.lowerLine position line).1.failure = none ∨
      (s.lowerLine position line).1.failure = some e := by
  cases position with
  | preamble =>
      by_cases hentry : isEntryPoint line = true
      · rcases hcut : (Text.cutAt "\x7b" line).2 with _ | rest
        · rw [lowerLine_entry_of_no_brace s hentry hcut]
          exact Or.inl rfl
        · rw [lowerLine_entry_of_brace s hentry hcut]
          exact h.openingBlock rest
      · rw [lowerLine_preamble_of_not_entry s (by simpa using hentry)]
        exact Or.inl rfl
  | awaitingBrace =>
      rcases htrim : Text.trim line with _ | ⟨c, rest⟩
      · rw [lowerLine_awaiting_of_blank s htrim]
        exact Or.inr (h.bodyBlock line)
      · by_cases hc : c = '\x7b'
        · subst hc
          rw [lowerLine_awaiting_of_brace s htrim]
          exact h.openingBlock rest
        · rw [lowerLine_awaiting_of_other s htrim hc]
          exact Or.inr (h.bodyBlock line)
  | body => exact Or.inr (h.bodyBlock line)

/-- A line that starts with no blank starts with the same character when it is trimmed. -/
lemma exists_trim_of_head? {line : Text} {c : Char} (h : line.head? = some c)
    (hc : Text.isBlank c = false) : ∃ rest, Text.trim line = c :: rest := by
  obtain ⟨b, b', hb, hb', hline⟩ := Text.exists_trim line
  rcases b with _ | ⟨d, b⟩
  · rcases htrim : Text.trim line with _ | ⟨d, rest⟩
    · rw [hline, htrim, List.append_nil, List.nil_append] at h
      have hblank := hb' c (List.mem_of_head? h)
      rw [hc] at hblank
      cases hblank
    · rw [hline, htrim] at h
      obtain rfl : d = c := Option.some.inj h
      exact ⟨rest, rfl⟩
  · rw [hline] at h
    obtain rfl : d = c := Option.some.inj h
    have hblank := hb d List.mem_cons_self
    rw [hc] at hblank
    cases hblank

/-- A line with a brace in its first column is a body line wherever it stands past the mark. -/
lemma Fails.lowerLine_brace (h : s.Fails e) {position : Position} (hposition : position ≠ .preamble)
    {line : Text} (hline : line.head? = some '\x7d') :
    (s.lowerLine position line).1.failure = some e := by
  cases position with
  | preamble => exact absurd rfl hposition
  | awaitingBrace =>
      obtain ⟨rest, htrim⟩ := exists_trim_of_head? hline (by decide)
      rw [lowerLine_awaiting_of_other s htrim (by decide)]
      exact h.bodyBlock line
  | body => exact h.bodyBlock line

/-- Past the mark, a run reaches the failure at a brace in the first column at the latest. -/
lemma Fails.lowerLines (h : s.Fails e) {position : Position} (hposition : position ≠ .preamble)
    {lines : List Text} (hlines : ∃ line ∈ lines, line.head? = some '\x7d') :
    (s.lowerLines position lines).failure = some e := by
  induction lines generalizing position with
  | nil =>
      obtain ⟨line, hline, -⟩ := hlines
      cases hline
  | cons line rest ih =>
      rw [Lowering.lowerLines]
      obtain ⟨closing, hmem, hclosing⟩ := hlines
      rcases List.mem_cons.mp hmem with rfl | hrest
      · simp [Emission.append, h.lowerLine_brace hposition hclosing]
      · exact append_failure_cases (h.lowerLine position line)
          (ih (lowerLine_position s hposition line) ⟨closing, hrest, hclosing⟩)

/-- A source with a closed entry point cannot be lowered if no body line can. -/
lemma Fails.run (h : s.Fails e) {source : Text} (hclosed : Closed source) :
    (s.run source).result = .error e := by
  obtain ⟨before, entry, after, hsource, hbefore, hentry, hclosing⟩ := hclosed
  have hfailure : (s.lower source).failure = some e := by
    rw [Lowering.lower, hsource]
    clear hsource
    induction before with
    | nil =>
        rw [List.nil_append, Lowering.lowerLines]
        exact append_failure_cases (h.lowerLine .preamble entry)
          (h.lowerLines (lowerLine_entry_position s hentry) hclosing)
    | cons line before ih =>
        obtain ⟨hline, hbefore⟩ := List.forall_mem_cons.mp hbefore
        rw [List.cons_append, Lowering.lowerLines, lowerLine_preamble_of_not_entry s hline]
        exact append_failure_cases (Or.inl rfl) (ih hbefore)
  simp [Lowering.run, Emission.result, hfailure]

/-- A source with a closed entry point has an entry point. -/
lemma hasEntry_of_closed {source : Text} (h : Closed source) : Condition.HasEntry source := by
  obtain ⟨before, entry, after, hsource, -, hentry, -⟩ := h
  exact ⟨entry, by simp [hsource], isEntryPoint_iff.mp hentry⟩

/-- A name that is no text makes every body line fail. -/
lemma fails_of_odd (h : s.table.Odd) : s.Fails .shape := by
  intro line
  simp only [lowerBodyLine, h.lower]

/-- A texture that makes no template fails the sampling of every line. -/
lemma exists_foldlM_error {textures : List BoundTexture}
    (h : ∃ texture ∈ textures, ¬Sampling.Usable texture.name) :
    ∃ e, ∀ line, textures.foldlM (fun line texture => Sampling.lower texture.name line) line =
      .error (.template e) := by
  induction textures with
  | nil =>
      obtain ⟨texture, hmem, -⟩ := h
      cases hmem
  | cons texture textures ih =>
      rcases hparse : Template.parse (Sampling.template texture.name) with e | parts
      · refine ⟨e, fun line => ?_⟩
        rw [List.foldlM_cons]
        simp only [Sampling.lower, hparse]
        rfl
      · obtain ⟨other, hmem, hother⟩ := h
        have hrest : other ∈ textures := by
          refine (List.mem_cons.mp hmem).resolve_left ?_
          rintro rfl
          exact hother ⟨parts, hparse⟩
        obtain ⟨e, he⟩ := ih ⟨other, hrest, hother⟩
        refine ⟨e, fun line => ?_⟩
        rw [List.foldlM_cons]
        simp only [Sampling.lower, hparse]
        exact he _

/-- A texture name that makes no template makes every body line fail. -/
lemma fails_of_unusable {pairs : List (Text × Text)} (htable : s.table = FieldTable.ofPairs pairs)
    (h : ∃ texture ∈ s.textures, ¬Sampling.Usable texture.name) :
    ∃ e, s.Fails (.template e) := by
  obtain ⟨e, he⟩ := exists_foldlM_error h
  refine ⟨e, fun line => ?_⟩
  simp only [lowerBodyLine, htable, FieldTable.lower_ofPairs]
  exact he _

/-! ### Images that cannot be bound -/

/-- Steps that fail in one way only fail so if one of them does. -/
lemma mapM_eq_error {α β : Type} {f : α → Except Failure β} {xs : List α}
    (h : ∀ x ∈ xs, (∃ b, f x = .ok b) ∨ f x = .error e) (hx : ∃ x ∈ xs, f x = .error e) :
    xs.mapM f = .error e := by
  induction xs with
  | nil =>
      obtain ⟨x, hx, -⟩ := hx
      cases hx
  | cons x xs ih =>
      obtain ⟨hfirst, hrest⟩ := List.forall_mem_cons.mp h
      rw [List.mapM_cons]
      rcases hfirst with ⟨b, hb⟩ | herror
      · obtain ⟨y, hy, hf⟩ := hx
        have hy' : y ∈ xs := by
          refine (List.mem_cons.mp hy).resolve_left ?_
          rintro rfl
          rw [hb] at hf
          cases hf
        rw [hb, ih hrest ⟨y, hy', hf⟩]
        rfl
      · rw [herror]
        rfl

/-- An image with its kind. -/
def kindOfImage (types : List (Text × Text)) (image : Value) : Except Failure (Value × TextureKind) :=
  match image with
  | .text name => (Sampler.resolve name types).map fun kind => (image, kind)
  | _ => if image.isKey then .ok (image, .plane) else .error .shape

/-- The kinds of some images are found one by one. -/
lemma imageKinds_eq (images : List Value) (types : List (Text × Text)) :
    imageKinds images types = images.mapM (kindOfImage types) := rfl

/-- An image has a kind, or it is a list or an object. -/
lemma kindOfImage_cases {types : List (Text × Text)} {image : Value}
    (h : ∀ name, image = .text name → GoodSpelling types name) :
    (∃ kind, kindOfImage types image = .ok (image, kind)) ∨
      kindOfImage types image = .error .shape := by
  rcases image with _ | _ | _ | _ | name | _ | _
  case text =>
    rcases hresolve : Sampler.resolve name types with e | kind
    · have hbind : bindTexture types name = .error e := by
        rw [bindTexture, hresolve]
        rfl
      exact absurd (bindTexture_eq_error_iff.mp hbind) (goodSpelling_iff.mp (h name rfl) e)
    · exact Or.inl ⟨kind, by simp only [kindOfImage, hresolve]; rfl⟩
  case list => exact Or.inr rfl
  case object => exact Or.inr rfl
  all_goals exact Or.inl ⟨.plane, rfl⟩

/-- Images that all have a kind are given back with their kinds. -/
lemma exists_imageKinds {types : List (Text × Text)} {images : List Value}
    (h : ∀ image ∈ images, ∃ kind, kindOfImage types image = .ok (image, kind)) :
    ∃ kinds, imageKinds images types = .ok kinds ∧ kinds.map (·.1) = images := by
  rw [imageKinds_eq]
  induction images with
  | nil => exact ⟨[], rfl, rfl⟩
  | cons image images ih =>
      obtain ⟨⟨kind, hkind⟩, himages⟩ := List.forall_mem_cons.mp h
      obtain ⟨kinds, hkinds, hnames⟩ := ih himages
      refine ⟨(image, kind) :: kinds, ?_, by rw [List.map_cons, hnames]⟩
      rw [List.mapM_cons, hkind, hkinds]
      rfl

/-- An image that is no text cannot be bound. -/
lemma boundTextures_of_not_text {types : List (Text × Text)} {images : List Value}
    (hspelling : ∀ name, .text name ∈ images → GoodSpelling types name)
    (h : ∃ image ∈ images, image.text? = none) : boundTextures images types = .error .shape := by
  have hcases : ∀ image ∈ images, (∃ kind, kindOfImage types image = .ok (image, kind)) ∨
      kindOfImage types image = .error .shape := by
    rintro image himage
    refine kindOfImage_cases ?_
    rintro name rfl
    exact hspelling name himage
  by_cases hshape : ∃ image ∈ images, kindOfImage types image = .error .shape
  · have hkinds : imageKinds images types = .error .shape := by
      rw [imageKinds_eq]
      refine mapM_eq_error (fun image himage => ?_) hshape
      exact (hcases image himage).imp_left fun ⟨kind, hkind⟩ => ⟨_, hkind⟩
    rw [boundTextures, hkinds]
    rfl
  · obtain ⟨kinds, hkinds, hnames⟩ := exists_imageKinds fun image himage =>
      (hcases image himage).resolve_right fun herror => hshape ⟨image, himage, herror⟩
    rw [boundTextures, hkinds]
    refine mapM_eq_error (fun pair _ => ?_) ?_
    · rcases htext : pair.1.text? with _ | name
      · exact Or.inr (by simp only [htext])
      · exact Or.inl ⟨⟨name, pair.2⟩, by simp only [htext]⟩
    · obtain ⟨image, himage, hnone⟩ := h
      rw [← hnames] at himage
      obtain ⟨pair, hpair, rfl⟩ := List.mem_map.mp himage
      exact ⟨pair, hpair, by simp only [hnone]⟩

/-! ### Pairs that stop at a name -/

variable {m : Metadata}

/-- Names that can be keys make a vertex lowering, with a name that is no text if there is one. -/
lemma exists_vertex_of_keys (hkeys : ∀ u ∈ m.uniforms, u.name.isKey = true)
    (attributes varyings : List Text) :
    ∃ s, (vertex m attributes varyings).result = .ok s ∧
      ((∃ u ∈ m.uniforms, u.name.text? = none) → s.table.Odd) := by
  have hentries : ∀ e ∈ vertexEntries m attributes varyings, e.1.isKey = true := by
    intro e he
    rcases mem_vertexEntries.mp he with ⟨name, -, rfl⟩ | ⟨u, hu, rfl⟩ | ⟨name, -, rfl⟩ | rfl
    · rfl
    · exact hkeys u hu
    · rfl
    · rfl
  obtain ⟨table, htable, hodd⟩ := FieldTable.build_of_keys hentries {}
  refine ⟨{ stage := .vertex, table }, ?_, ?_⟩
  · simp only [vertex, Traced.result_bind, htable]
    rfl
  · rintro ⟨u, hu, hnone⟩
    exact hodd (Or.inr ⟨uniformEntry u, mem_vertexEntries.mpr (Or.inr (Or.inl ⟨u, hu, rfl⟩)), hnone⟩)

/-- Names that can be keys make a fragment lowering, if the textures can be bound. -/
lemma exists_fragment_of_keys (hkeys : ∀ u ∈ m.uniforms, u.name.isKey = true)
    (varyings : List Text) (types : List (Text × Text)) :
    ∃ table, (fragment m varyings types).result =
      (boundTextures m.images types).bind fun textures =>
        .ok { stage := .fragment, table, textures } := by
  have hentries : ∀ e ∈ fragmentEntries m varyings, e.1.isKey = true := by
    intro e he
    rcases mem_fragmentEntries.mp he with ⟨u, hu, rfl⟩ | ⟨name, -, rfl⟩ | rfl
    · exact hkeys u hu
    · rfl
    · rfl
  obtain ⟨table, htable, -⟩ := FieldTable.build_of_keys hentries {}
  refine ⟨table, ?_⟩
  simp only [fragment, Traced.result_bind, htable]
  rfl

/-- A name that cannot be a key stops the vertex table. -/
lemma vertex_of_not_key {u : Uniform} (hu : u ∈ m.uniforms) (h : u.name.isKey = false)
    (attributes varyings : List Text) : (vertex m attributes varyings).result = .error .shape := by
  have hentry : uniformEntry u ∈ vertexEntries m attributes varyings :=
    mem_vertexEntries.mpr (Or.inr (Or.inl ⟨u, hu, rfl⟩))
  simp only [vertex, Traced.result_bind, FieldTable.build_of_not_key hentry h]
  rfl

/-- A value has no text exactly if it is none. -/
lemma text?_eq_none_iff {v : Value} : v.text? = none ↔ ∀ t, v ≠ .text t := by
  cases v <;> simp [Value.text?]

/-- Images that are bound, or one that is no text. -/
lemma boundTextures_cases {types : List (Text × Text)} {images : List Value}
    (hspelling : ∀ name ∈ images.filterMap Value.text?, GoodSpelling types name) :
    boundTextures images types = .error .shape ∨
      ∃ names textures, images = names.map .text ∧ boundTextures images types = .ok textures ∧
        textures.map (·.name) = names := by
  by_cases hodd : ∃ image ∈ images, image.text? = none
  · refine Or.inl (boundTextures_of_not_text (fun name hname => hspelling name ?_) hodd)
    exact List.mem_filterMap.mpr ⟨_, hname, rfl⟩
  · have htexts : ∃ names : List Text, images = names.map .text := by
      refine ⟨images.map Value.display, ?_⟩
      rw [List.map_map]
      refine (List.map_id images).symm.trans (List.map_congr_left fun image himage => ?_)
      cases image with
      | text t => rfl
      | _ => exact absurd ⟨_, himage, rfl⟩ hodd
    obtain ⟨names, rfl⟩ := htexts
    obtain ⟨textures, htextures⟩ := (decides_boundTextures names types).ok_iff.mpr fun name hname =>
      hspelling name (List.mem_filterMap.mpr ⟨_, List.mem_map_of_mem hname, rfl⟩)
    exact Or.inr ⟨names, textures, rfl, htextures, names_of_boundTextures htextures⟩

end Lowering

section conditions

variable {m : Metadata} {fragment vertex : Text}
  (hholds : ∀ c ∈ Condition.inOrder, c.Holds fragment vertex m (m.images.filterMap Value.text?))

include hholds

/-- A pair that fulfils all conditions comes to what its two stages come to. -/
lemma exists_stages_of_holds (defines : List Text) :
    ∃ attributes varyings types, ∃ out : List Text → List Text → Text,
      (∀ name ∈ m.images.filterMap Value.text?, Lowering.GoodSpelling types name) ∧
      (lowerPair fragment vertex m defines).result =
        (Lowering.vertex m attributes varyings).result.bind fun vertexStage =>
          (Lowering.fragment m varyings types).result.bind fun fragmentStage =>
            (vertexStage.run vertex).result.bind fun lines =>
              (fragmentStage.run fragment).result.bind fun lines' => .ok (out lines lines') := by
  obtain ⟨_, hvalid⟩ := m.decides_validate.ok_iff.mpr (hholds .kinds (by decide))
  obtain ⟨attributes, hattributes⟩ :=
    (Declaration.decides_collect vertex .attribute .vertex).ok_iff.mpr
      (hholds .attributes (by decide))
  obtain ⟨varyings, hvaryings⟩ :=
    (Declaration.decides_collect vertex .varying .vertex).ok_iff.mpr (hholds .varyings (by decide))
  obtain ⟨types, htypes⟩ := hholds .samplers (by decide)
  obtain ⟨uniforms, huniforms⟩ := Metal.uniforms_of_validate (hholds .kinds (by decide))
  refine ⟨attributes.map (·.name), varyings.map (·.name), types, fun lines lines' =>
    code (Metal.head defines ++ uniforms.lines ++ (Metal.vertexInputs attributes).lines ++
      (Metal.rasterizer varyings).lines ++ lines ++ lines'),
    hholds .spellings (by decide) types htypes, ?_⟩
  simp only [lowerPair, Traced.result_bind, Traced.result_ofExcept, hvalid, hattributes, hvaryings,
    htypes, huniforms, Traced.result_note, Metal.Struct.emit, ok_bind]
  rfl

/-- A pair that fulfils all conditions is lowered, if its names are clean. -/
lemma exists_lowerPair_of_clean (hclean : m.Clean) (defines : List Text) :
    ∃ source, (lowerPair fragment vertex m defines).result = .ok source := by
  obtain ⟨attributes, varyings, types, out, hspelling, h⟩ := exists_stages_of_holds hholds defines
  obtain ⟨names, himages, husable⟩ := exists_texts_of_clean hclean.images
  have hnames : ∀ name ∈ names, Lowering.GoodSpelling types name := by
    intro name hname
    refine hspelling name (List.mem_filterMap.mpr ⟨.text name, ?_, rfl⟩)
    rw [himages]
    exact List.mem_map_of_mem hname
  obtain ⟨textures, htextures⟩ := (Lowering.decides_boundTextures names types).ok_iff.mpr hnames
  have htotal : (Lowering.ofFragment m varyings textures).Total :=
    Lowering.total_of_usable rfl (Lowering.usable_of_boundTextures htextures husable)
  obtain ⟨lines, hlines⟩ := (decides_entry (Lowering.plain_ofVertex m attributes varyings).total
    vertex).ok_iff.mpr (hholds .vertexEntry (by decide))
  obtain ⟨lines', hlines'⟩ :=
    (decides_entry htotal fragment).ok_iff.mpr (hholds .fragmentEntry (by decide))
  refine ⟨out lines lines', ?_⟩
  rw [h, Lowering.vertex_result hclean.uniforms, Lowering.fragment_result hclean.uniforms, himages,
    htextures]
  simp only [ok_bind, hlines, hlines']

/-- A pair that fulfils all conditions, with closed entry points, stops at a name that cannot be
worked with. -/
lemma lowerPair_stops (hvertex : Lowering.Closed vertex) (hfragment : Lowering.Closed fragment)
    (hunclean : ¬m.Clean) (defines : List Text) :
    Stops (lowerPair fragment vertex m defines).result := by
  obtain ⟨attributes, varyings, types, out, hspelling, h⟩ := exists_stages_of_holds hholds defines
  rw [h]
  -- a list or an object stops the vertex table
  by_cases hkeys : ∀ u ∈ m.uniforms, u.name.isKey = true
  swap
  · push Not at hkeys
    obtain ⟨u, hu, hkey⟩ := hkeys
    exact Stops.bind ⟨_, Lowering.vertex_of_not_key hu (by simpa using hkey) _ _,
      not_expected_shape⟩ _
  obtain ⟨s, hs, hodd⟩ := Lowering.exists_vertex_of_keys hkeys attributes varyings
  obtain ⟨table, htable⟩ := Lowering.exists_fragment_of_keys hkeys varyings types
  rw [hs, htable, ok_bind]
  -- an image that is no text stops the fragment lowering
  rcases Lowering.boundTextures_cases hspelling with
    hshape | ⟨names, textures, himages, hbound, hnames⟩
  · rw [hshape]
    exact ⟨_, rfl, not_expected_shape⟩
  rw [hbound, ok_bind, ok_bind]
  -- any other name that is no text stops the vertex body
  by_cases htext : ∃ u ∈ m.uniforms, u.name.text? = none
  · exact Stops.bind ⟨_, (Lowering.fails_of_odd (hodd htext)).run hvertex, not_expected_shape⟩ _
  have htexts : ∀ u ∈ m.uniforms, ∃ t, u.name = .text t := by
    intro u hu
    by_contra hnone
    exact htext ⟨u, hu, Lowering.text?_eq_none_iff.mpr (not_exists.mp hnone)⟩
  obtain rfl := Except.ok.inj (hs.symm.trans (Lowering.vertex_result htexts _ _))
  obtain ⟨vertexLines, hvertexLines⟩ :=
    (decides_entry (Lowering.plain_ofVertex m _ _).total vertex).ok_iff.mpr
      (Lowering.hasEntry_of_closed hvertex)
  refine stops_bind_of_ok hvertexLines ?_
  -- what is left is an image that makes no template, and it stops the fragment body
  have hunusable : ∃ texture ∈ textures, ¬Sampling.Usable texture.name := by
    by_contra hall
    push Not at hall
    refine hunclean ⟨htexts, fun image himage => ?_⟩
    rw [himages, ← hnames] at himage
    obtain ⟨name, hname, rfl⟩ := List.mem_map.mp himage
    obtain ⟨texture, htexture, rfl⟩ := List.mem_map.mp hname
    exact ⟨_, rfl, hall texture htexture⟩
  have hstage := Lowering.fragment_result htexts varyings types
  rw [htable, hbound, ok_bind, ok_bind] at hstage
  rw [Except.ok.inj hstage]
  obtain ⟨e, hfails⟩ :=
    Lowering.fails_of_unusable (s := Lowering.ofFragment m _ textures) rfl hunusable
  exact Stops.bind ⟨_, hfails.run hfragment, not_expected_template e⟩ _

end conditions

end MetalLowering
