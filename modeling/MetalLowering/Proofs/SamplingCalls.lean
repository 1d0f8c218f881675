import MetalLowering.Proofs.CallGroups

/-!
# Lowering all sampling calls of a line at once

The fragment stage lowers the sampling calls of a body line one texture after the other. Main
statement: this is the same as looking at the names of all bound textures at once
(`lowerBodyLine_calls`). The line, after its names are replaced, is grouped into the calls on bound
textures and the pieces beside them, in the one way there is; each call becomes one sample of its
texture, and all else stays. So the order of the textures does not matter.

The pass for a texture is the grouping for this texture alone (`exists_groups_substitute`): a hit of
its rule is a call among the pieces of the line, and the other way round (`exists_call_of_hit`,
`plainRule_source`). `Groups.next` then adds the texture to those before it.
-/

namespace MetalLowering

namespace Text

/-- Each blank is a piece of its own. -/
lemma pieces_blanks {b : Text} (hb : Blanks b) (t : Text) :
    pieces (b ++ t) = b.map ([·]) ++ pieces t := by
  induction b with
  | nil => rfl
  | cons c b ih =>
      have hc := Sampling.isWordChar_of_isBlank (hb c List.mem_cons_self)
      rw [List.cons_append, pieces_mark hc, ih hb.tail]
      rfl

/-- A word that ends before a text ends before blanks and that text. -/
lemma ends_blanks {b t : Text} (hb : Blanks b) (ht : Ends t) : Ends (b ++ t) := by
  cases b with
  | nil => exact ht
  | cons c b => exact ends_cons (Sampling.isWordChar_of_isBlank (hb c List.mem_cons_self)) (b ++ t)

/-- The rest of a cut is a cut of the rest. -/
lemma Cut.suffix {line : Text} {front rest : List Text} (h : Cut line (front ++ rest)) :
    Cut rest.flatten rest :=
  ⟨rfl, fun piece hpiece => h.piece piece (List.mem_append_right front hpiece),
    h.apart.right_of_append⟩

end Text

open Text (Word Ends Blanks Cut)

namespace Sampling

variable {c : SampleCall} {textures : List Text} {t rest : Text}

/-! ### Calls as texts -/

/-- The text of a call. -/
def SampleCall.source (c : SampleCall) : Text :=
  c.function ++ (c.gap ++ '(' :: (c.indent ++ c.texture))

/-- The pieces of a call are its source. -/
lemma SampleCall.flatten_pieces (c : SampleCall) : c.pieces.flatten = c.source := by
  have hsingles : ∀ b : Text, (b.map ([·])).flatten = b := by
    intro b
    rw [← List.flatMap_def, List.flatMap_singleton']
  simp [pieces, arguments, source, hsingles]

/-- A word ends before a bracket. -/
lemma ends_bracket (t : Text) : Ends ('(' :: t) := Text.ends_cons (by decide) t

/-- A call in front of what does not go on with its texture is cut into its pieces. -/
lemma SampleCall.On.pieces_append (hc : c.On textures) (hword : Word c.texture)
    (hrest : Ends rest) :
    Text.pieces (c.source ++ rest) = c.pieces ++ Text.pieces rest := by
  have hends : Ends (c.gap ++ '(' :: (c.indent ++ (c.texture ++ rest))) :=
    Text.ends_blanks hc.gap_blanks (ends_bracket _)
  simp only [source, List.append_assoc, List.cons_append]
  rw [Text.pieces_word (word_functions _ hc.function_mem) hends, Text.pieces_blanks hc.gap_blanks,
    Text.pieces_mark (by decide), Text.pieces_blanks hc.indent_blanks, Text.pieces_word hword hrest]
  simp [pieces, arguments]

/-- The name of a sampler is a word. -/
lemma word_sampler (hword : Word t) : Word (t ++ Metal.samplerSuffix) := by
  have hsuffix : Word Metal.samplerSuffix := by decide
  refine ⟨List.append_ne_nil_of_left_ne_nil hword.1 _, ?_⟩
  intro d hd
  rcases List.mem_append.mp hd with hd | hd
  · exact hword.2 d hd
  · exact hsuffix.2 d hd

/-- So is the sample that it becomes. -/
lemma SampleCall.pieces_sample (hword : Word c.texture) (hrest : Ends rest) :
    Text.pieces (template c.texture ++ rest) = c.sample ++ Text.pieces rest := by
  have htext : template c.texture ++ rest =
      c.texture ++ '.' :: ("sample" ++ '(' :: ((c.texture ++ Metal.samplerSuffix) ++ rest)) := by
    simp [template]
  rw [htext, Text.pieces_word hword (Text.ends_cons (by decide) _), Text.pieces_mark (by decide),
    Text.pieces_word (by decide) (ends_bracket _), Text.pieces_mark (by decide),
    Text.pieces_word (word_sampler hword) hrest]
  rfl

/-! ### The hits of the rule for a texture -/

/-- A texture whose name is a word ends where the word does. -/
lemma TextureEnds.ends (hword : Word t) (h : TextureEnds t rest) : Ends rest := by
  obtain ⟨before, hboundary⟩ := h
  rw [Text.isBoundary, hword.isWord?_lastOr] at hboundary
  exact Text.ends_iff.mpr (by simpa using hboundary)

/-- A call that is given by its text. -/
lemma Call.exists_on {function call : Text} (h : Call function t call)
    (hfunction : function ∈ functions) : ∃ c : SampleCall, c.On [t] ∧ c.source = call := by
  obtain ⟨gap, indent, hgap, hindent, rfl⟩ := h
  exact ⟨⟨function, gap, indent, t⟩,
    ⟨hfunction, hgap, hindent, List.mem_singleton_self t⟩, rfl⟩

/-- What the rule for a texture takes is a call on it. -/
lemma exists_call_of_hit (hword : Word t) {before : Option Char} {text : Text} {hit : Text.Hit}
    (h : plainRule t before text = some hit) :
    ∃ (c : SampleCall) (rest : Text), c.On [t] ∧ Ends rest ∧ text = c.source ++ rest := by
  obtain ⟨function, hfunction, call, rest, hcall, htext, -, hends⟩ := plainRule_hit h
  obtain ⟨c, hc, rfl⟩ := hcall.exists_on hfunction
  exact ⟨c, rest, hc, hends.ends hword, htext⟩

/-- The rule for a texture hits at the start of a word only. -/
lemma startsAtWords_plainRule (t : Text) : Text.StartsAtWords (plainRule t) where
  mark before d u hd := by
    rcases hhit : plainRule t before (d :: u) with _ | hit
    · rfl
    · obtain ⟨function, hfunction, _, rest, ⟨b₁, b₂, -, -, rfl⟩, htext, -⟩ := plainRule_hit hhit
      obtain ⟨e, v, rfl, he⟩ := (word_functions function hfunction).exists_cons
      obtain rfl : d = e := (List.cons.inj htext).1
      rw [he] at hd
      cases hd
  inside u hb hc := by
    unfold plainRule rule
    rw [List.head?_cons, Text.isBoundary_inside hb hc]
    rfl

/-- The texture is found behind the blanks. -/
lemma argumentLength_blanks {indent : Text} (hblanks : Blanks indent) (hword : Word t)
    (hrest : Ends rest) :
    argumentLength t '(' (indent ++ (t ++ rest)) indent.length =
      some (indent.length + t.length) := by
  have hfound : ∀ before, Text.startsWithWord before t (t ++ rest) = true := by
    intro before
    rw [Text.startsWithWord_word hword hword hrest, decide_eq_true_eq]
  rcases hlength : indent.length with _ | n
  · obtain rfl := List.length_eq_zero_iff.mp hlength
    simp [argumentLength, hfound]
  · have hdrop : (indent ++ (t ++ rest)).drop (n + 1) = t ++ rest := by
      rw [← hlength, List.drop_left]
    simp only [argumentLength, hdrop, hfound, if_true]

/-- A call on a texture is found with its whole length. -/
lemma callLength_source (hc : c.On [t]) (hword : Word t) (hrest : Ends rest) :
    callLength t (c.source ++ rest) c.function = some c.source.length := by
  obtain ⟨function, gap, indent, texture⟩ := c
  obtain ⟨-, hgap, hindent, htexture⟩ := hc
  obtain rfl : texture = t := List.mem_singleton.mp htexture
  have hopen : Text.trimLeft (gap ++ '(' :: (indent ++ (texture ++ rest))) =
      '(' :: (indent ++ (texture ++ rest)) := by
    rw [Text.trimLeft_blanks_append hgap]
    exact Text.trimLeft_of_flush (Text.flush_cons (by decide) _)
  have hblanks : (indent ++ (texture ++ rest)).takeWhile Text.isBlank = indent := by
    obtain ⟨d, v, rfl, hd⟩ := hword.exists_cons
    rw [List.takeWhile_append_of_pos hindent]
    simp [Text.isBlank_of_isWordChar hd]
  simp only [callLength, SampleCall.source, List.append_assoc, List.cons_append,
    Text.after?_append, hopen, hblanks, argumentLength_blanks hindent hword hrest,
    Option.map_some, Option.some.injEq, List.length_append, List.length_cons]
  omega

/-- The rule for a texture takes every call on it. -/
lemma plainRule_source (hc : c.On [t]) (hnames : Bindable [t]) {before : Option Char}
    (hbefore : Text.isWord? before = false) (hrest : Ends rest) :
    plainRule t before (c.source ++ rest) = some ⟨c.source.length, template t⟩ := by
  have hword : Word t := (hnames t (List.mem_singleton_self t)).1
  have hboundary : Text.isBoundary before (c.source ++ rest).head? = true := by
    rw [SampleCall.source, List.append_assoc]
    exact Text.isBoundary_word hbefore (word_functions _ hc.function_mem) _
  unfold plainRule rule
  rw [if_pos hboundary]
  rcases hfind : functions.findSome? (callLength t (c.source ++ rest)) with _ | n
  · have hnone := List.findSome?_eq_none_iff.mp hfind c.function hc.function_mem
    rw [callLength_source hc hword hrest] at hnone
    cases hnone
  · -- another function is not found there, since a line starts with one call at most
    obtain ⟨function, hfunction, hn⟩ := List.exists_of_findSome?_eq_some hfind
    obtain ⟨call, rest', hcall, htext, rfl, hends⟩ := callLength_eq_some hn
    obtain ⟨c', hc', rfl⟩ := hcall.exists_on hfunction
    have hpieces := congrArg Text.pieces htext
    rw [hc.pieces_append (hnames _ hc.texture_mem).1 hrest,
      hc'.pieces_append (hnames _ hc'.texture_mem).1 (hends.ends hword)] at hpieces
    obtain ⟨rfl, -⟩ := hc.eq_of_append hc' hnames hpieces
    rw [Option.map_some, Template.expand_map_char]

/-! ### Passes as groupings -/

/-- A line that starts with a call, by its pieces and by its text. -/
lemma startsWithCall_iff {line : Text} (hnames : Bindable textures) :
    StartsWithCall textures (Text.pieces line) ↔
      ∃ c rest, SampleCall.On textures c ∧ Ends rest ∧ line = c.source ++ rest := by
  constructor
  · rintro ⟨c, ps, hc, hps⟩
    have hcut := Text.cut_pieces line
    rw [hps] at hcut
    have htail : Cut (c.texture :: ps).flatten (c.texture :: ps) := by
      have hsplit : c.pieces ++ ps =
          (c.function :: (c.gap.map ([·]) ++ ['('] :: c.indent.map ([·]))) ++ c.texture :: ps := by
        simp [SampleCall.pieces, SampleCall.arguments]
      rw [hsplit] at hcut
      exact hcut.suffix
    refine ⟨c, ps.flatten, hc, htail.ends (hnames _ hc.texture_mem).1, ?_⟩
    rw [← hcut.flatten_eq, List.flatten_append, c.flatten_pieces]
  · rintro ⟨c, rest, hc, hrest, rfl⟩
    exact ⟨c, _, hc, hc.pieces_append (hnames _ hc.texture_mem).1 hrest⟩

/-- The pass for a texture lowers the calls on it. -/
lemma exists_groups_substitute (hnames : Bindable [t]) (line : Text) :
    ∃ parts, Groups [t] (Text.pieces line) parts ∧
      Text.pieces (Text.substitute (plainRule t) line) = parts.flatMap Part.given := by
  have hword : Word t := (hnames t (List.mem_singleton_self t)).1
  have hpass := startsAtWords_plainRule t
  have hfrom : ∀ n line, line.length = n → ∀ before, Text.isWord? before = false ∨ Ends line →
      ∃ parts, Groups [t] (Text.pieces line) parts ∧
        Text.pieces (Text.substituteFrom (plainRule t) before 0 line) =
          parts.flatMap Part.given := by
    intro n
    induction n using Nat.strong_induction_on with
    | _ n ih =>
        intro line hn before hbefore
        cases Text.wordsIn_true line with
        | nil => exact ⟨[], .nil, rfl⟩
        | @mark d u hd _ =>
            obtain ⟨parts, hparts, hgiven⟩ :=
              ih u.length (by simp [← hn]) u rfl (some d) (Or.inl hd)
            refine ⟨.piece [d] :: parts, ?_, ?_⟩
            · rw [Text.pieces_mark hd]
              refine .piece (not_startsWithCall ?_ _) hparts
              intro hfunction
              exact Text.not_word_singleton hd (word_functions _ hfunction)
            · rw [hpass.substituteFrom_mark before hd, Text.pieces_mark hd, hgiven]
              rfl
        | @word w u hw hu _ _ =>
            have hstart := hbefore.resolve_right (hw.not_ends_append u)
            by_cases hcall : StartsWithCall [t] (Text.pieces (w ++ u))
            · obtain ⟨c, rest, hc, hrest, hline⟩ := (startsWithCall_iff hnames).mp hcall
              obtain rfl : c.texture = t := List.mem_singleton.mp hc.texture_mem
              have hne : c.source ≠ [] := by simp [SampleCall.source]
              have hshort : rest.length < n := by
                rw [← hn, hline, List.length_append]
                have := List.length_pos_of_ne_nil hne
                omega
              obtain ⟨parts, hparts, hgiven⟩ := ih rest.length hshort rest rfl none (Or.inl rfl)
              refine ⟨.call c :: parts, ?_, ?_⟩
              · rw [hline, hc.pieces_append hword hrest]
                exact .call hc hparts
              · have hhit := plainRule_source hc hnames hstart hrest
                rw [hline, hpass.substituteFrom_hit hne hrest hhit,
                  SampleCall.pieces_sample hword (hpass.ends_substituteFrom hrest none), hgiven]
                rfl
            · have hmiss : plainRule t before (w ++ u) = none := by
                rcases hhit : plainRule t before (w ++ u) with _ | hit
                · rfl
                · have hfound := (startsWithCall_iff hnames).mpr (exists_call_of_hit hword hhit)
                  exact absurd hfound hcall
              have hshort : u.length < n := by
                rw [← hn, List.length_append]
                have := List.length_pos_of_ne_nil hw.1
                omega
              obtain ⟨parts, hparts, hgiven⟩ := ih u.length hshort u rfl none (Or.inl rfl)
              refine ⟨.piece w :: parts, ?_, ?_⟩
              · rw [Text.pieces_word hw hu] at hcall ⊢
                exact .piece hcall hparts
              · rw [hpass.substituteFrom_miss hw hu hmiss,
                  Text.pieces_word hw (hpass.ends_substituteFrom hu none), hgiven]
                rfl
  exact hfrom line.length line rfl none (Or.inl rfl)

end Sampling

namespace Lowering

open EntryPoint (BoundTexture)
open Sampling (Bindable Groups Grouped)

/-- Passes for some more textures, after those for others. -/
lemma exists_groups_samplingPasses {textures : List BoundTexture} {done : List Text}
    {parts : List Sampling.Part} {line lowered : Text}
    (hnames : Bindable (textures.map (·.name) ++ done))
    (hnodup : (textures.map (·.name) ++ done).Nodup)
    (hdone : Groups done (Text.pieces line) parts)
    (hlowered : Text.pieces lowered = parts.flatMap Sampling.Part.given) :
    ∃ all, Groups (textures.map (·.name) ++ done) (Text.pieces line) all ∧
      Text.pieces (samplingPasses textures lowered) = all.flatMap Sampling.Part.given := by
  induction textures generalizing done parts lowered with
  | nil => exact ⟨parts, hdone, hlowered⟩
  | cons texture textures ih =>
      have hperm : (textures.map (·.name) ++ texture.name :: done).Perm
          ((texture :: textures).map (·.name) ++ done) := List.perm_middle
      have hnames' : Bindable (textures.map (·.name) ++ texture.name :: done) := fun t ht =>
        hnames t (hperm.mem_iff.mp ht)
      have hnodup' := hperm.nodup_iff.mpr hnodup
      have hfirst : Bindable (texture.name :: done) := fun t ht =>
        hnames' t (List.mem_append_right _ ht)
      have hnew : texture.name ∉ done :=
        (List.nodup_cons.mp (List.nodup_append.mp hnodup').2.1).1
      obtain ⟨parts', hparts', hgiven⟩ := Sampling.exists_groups_substitute
        (fun t ht => hfirst t (List.mem_cons.mpr (Or.inl (List.mem_singleton.mp ht)))) lowered
      rw [hlowered] at hparts'
      obtain ⟨both, hboth, hsame⟩ := hdone.next hfirst hnew hparts'
      obtain ⟨all, hall, hpieces⟩ := ih hnames' hnodup' hboth (hgiven.trans hsame.symm)
      exact ⟨all, hall.congr fun t => hperm.mem_iff, hpieces⟩

/-- The passes for all textures lower the calls of a line at once. -/
lemma exists_groups_of_samplingPasses {textures : List BoundTexture}
    (hnames : Bindable (textures.map (·.name))) (hnodup : (textures.map (·.name)).Nodup)
    (line : Text) :
    ∃ parts, Groups (textures.map (·.name)) (Text.pieces line) parts ∧
      samplingPasses textures line = parts.flatMap Sampling.Part.lowered := by
  obtain ⟨parts, hparts, hpieces⟩ := exists_groups_samplingPasses
    (by rwa [List.append_nil]) (by rwa [List.append_nil]) (Sampling.groups_nil (Text.pieces line))
    (Sampling.flatMap_given_piece (Text.pieces line)).symm
  rw [List.append_nil] at hparts
  refine ⟨parts, hparts, ?_⟩
  rw [← Sampling.flatten_flatMap_given, ← hpieces, (Text.cut_pieces _).flatten_eq]

/-- What a fragment stage is made of, if its images are texts. -/
lemma parts_of_fragment {metadata : Metadata} {names varyings : List Text}
    {types : List (Text × Text)} {s : Lowering} (himages : metadata.images = names.map .text)
    (hs : (fragment metadata varyings types).result = .ok s) :
    s.stage = .fragment ∧
      (FieldTable.build {} (fragmentEntries metadata varyings)).result = .ok s.table ∧
      boundTextures (names.map .text) types = .ok s.textures := by
  simp only [fragment, Traced.result_bind, Traced.result_ofExcept, himages] at hs
  obtain ⟨table, htable, hs⟩ := bind_eq_ok.mp hs
  obtain ⟨textures, htextures, hs⟩ := bind_eq_ok.mp hs
  obtain rfl := Except.ok.inj hs
  exact ⟨rfl, htable, htextures⟩

/-- The images of a fragment stage can be given in another order. -/
lemma exists_fragment_of_perm {metadata : Metadata} {names names' varyings : List Text}
    {types : List (Text × Text)} {s : Lowering} (himages : metadata.images = names.map .text)
    (hs : (fragment metadata varyings types).result = .ok s) (hperm : names'.Perm names) :
    ∃ s', (fragment { metadata with images := names'.map .text } varyings types).result = .ok s' ∧
      s'.stage = s.stage ∧ s'.table = s.table ∧ s'.textures.map (·.name) = names' := by
  obtain ⟨hstage, htable, htextures⟩ := parts_of_fragment himages hs
  have hgood := (decides_boundTextures names types).ok_iff.mp ⟨_, htextures⟩
  obtain ⟨textures, htextures'⟩ := (decides_boundTextures names' types).ok_iff.mpr
    fun name hname => hgood name (hperm.mem_iff.mp hname)
  refine ⟨⟨.fragment, s.table, textures⟩, ?_, hstage.symm, rfl, names_of_boundTextures htextures'⟩
  have htable' : (FieldTable.build {} (fragmentEntries { metadata with images := names'.map .text }
    varyings)).result = .ok s.table := htable
  simp only [fragment, Traced.result_bind, Traced.result_ofExcept, htable', htextures', ok_bind]
  rfl

/-- A body line has its names replaced and then its calls lowered. -/
lemma lowerBodyLine_eq_map {s : Lowering}
    (h : ∀ name ∈ s.textures.map (·.name), Text.isIdentifier name = true) (line : Text) :
    s.lowerBodyLine line = (s.table.lower (s.mapLine line)).map (samplingPasses s.textures) := by
  have hescape : ∀ texture ∈ s.textures, '\\' ∉ texture.name := by
    intro texture htexture
    exact Text.not_mem_of_isIdentifier (h _ (List.mem_map_of_mem htexture)) (by decide)
  unfold lowerBodyLine
  rcases s.table.lower (s.mapLine line) with e | named
  · rfl
  · exact foldlM_sampling hescape named

/-- In a fragment stage whose images are identifiers, different ones and no sampling functions, a
body line whose names are replaced is grouped into the calls on images and the pieces beside them,
which can be done in one way only. Each call becomes one sample, and all else stays. So the images
can be given in any order. -/
theorem lowerBodyLine_calls (metadata : Metadata) (names varyings : List Text)
    (types : List (Text × Text)) (s : Lowering) (himages : metadata.images = names.map .text)
    (hnodup : names.Nodup) (hidentifiers : ∀ name ∈ names, Text.isIdentifier name = true)
    (hfunctions : ∀ name ∈ names, name ∉ Sampling.functions)
    (hs : (fragment metadata varyings types).result = .ok s) (line : Text) :
    (∀ e, s.lowerBodyLine line = .error e ↔ s.table.lower (s.mapLine line) = .error e) ∧
    (∀ named, s.table.lower (s.mapLine line) = .ok named →
      (∀ cut, Cut named cut ↔ cut = Text.pieces named) ∧
      ∃ parts, (∀ grouping, Grouped names (Text.pieces named) grouping ↔ grouping = parts) ∧
        s.lowerBodyLine line = .ok (parts.flatMap Sampling.Part.lowered)) ∧
    ∀ names' : List Text, names'.Perm names →
      ∃ s', (fragment { metadata with images := names'.map .text } varyings types).result = .ok s' ∧
        s'.lowerBodyLine line = s.lowerBodyLine line := by
  have hbindable : Bindable names := fun name hname =>
    ⟨Text.word_of_isIdentifier (hidentifiers name hname), hfunctions name hname⟩
  have htextures := names_of_boundTextures (parts_of_fragment himages hs).2.2
  have hbody := lowerBodyLine_eq_map (htextures.symm ▸ hidentifiers) line
  have hgroups : ∀ named, ∃ parts, Groups names (Text.pieces named) parts ∧
      samplingPasses s.textures named = parts.flatMap Sampling.Part.lowered := by
    rw [← htextures] at hbindable hnodup ⊢
    exact exists_groups_of_samplingPasses hbindable hnodup
  refine ⟨fun e => ?_, fun named hnamed => ⟨fun cut => Text.cut_iff, ?_⟩, fun names' hperm => ?_⟩
  · rw [hbody]
    cases s.table.lower (s.mapLine line) <;> simp [Except.map]
  · obtain ⟨parts, hparts, hlowered⟩ := hgroups named
    refine ⟨parts, fun grouping => ?_, ?_⟩
    · rw [Sampling.grouped_iff hbindable]
      exact ⟨fun h => h.unique hbindable hparts, fun h => h ▸ hparts⟩
    · rw [hbody, hnamed, ← hlowered]
      rfl
  · obtain ⟨s', hs', hstage, htable, htextures'⟩ := exists_fragment_of_perm himages hs hperm
    have hbindable' : Bindable (s'.textures.map (·.name)) := by
      rw [htextures']
      exact fun name hname => hbindable name (hperm.mem_iff.mp hname)
    have hnodup' : (s'.textures.map (·.name)).Nodup := by
      rw [htextures']
      exact hperm.nodup_iff.mpr hnodup
    have hidentifiers' : ∀ name ∈ s'.textures.map (·.name), Text.isIdentifier name = true := by
      intro name hname
      rw [htextures'] at hname
      exact hidentifiers name (hperm.mem_iff.mp hname)
    have hpasses : samplingPasses s'.textures = samplingPasses s.textures := by
      funext named
      obtain ⟨parts, hparts, hlowered⟩ := hgroups named
      obtain ⟨parts', hparts', hlowered'⟩ :=
        exists_groups_of_samplingPasses hbindable' hnodup' named
      rw [htextures'] at hparts'
      rw [hlowered', hlowered,
        (hparts'.congr fun t => hperm.mem_iff).unique hbindable hparts]
    refine ⟨s', hs', ?_⟩
    rw [hbody, lowerBodyLine_eq_map hidentifiers', hpasses, htable, mapLine, mapLine, hstage]

/-- A call inside of another one, on images whose names start alike, beside a call on no image. -/
theorem lowerBodyLine_calls_nested :
    ∃ s s', (fragment ⟨[], [.text "tex", .text "texMap"]⟩ ["uv"] []).result = .ok s ∧
      (fragment ⟨[], [.text "texMap", .text "tex"]⟩ ["uv"] []).result = .ok s' ∧
      s.lowerBodyLine "textureCubeLod (texMap, texture2D( tex, uv)) + texture2D(tex2, uv)" =
        .ok "texMap.sample(texMapSmplr, tex.sample(texSmplr, in.uv)) + texture2D(tex2, in.uv)" ∧
      s'.lowerBodyLine "textureCubeLod (texMap, texture2D( tex, uv)) + texture2D(tex2, uv)" =
        s.lowerBodyLine "textureCubeLod (texMap, texture2D( tex, uv)) + texture2D(tex2, uv)" := by
  obtain ⟨s', hs', hsame⟩ := (lowerBodyLine_calls ⟨[], [.text "tex", .text "texMap"]⟩
    ["tex", "texMap"] ["uv"] [] _ rfl (by decide) (by decide) (by decide) rfl
    "textureCubeLod (texMap, texture2D( tex, uv)) + texture2D(tex2, uv)").2.2
    ["texMap", "tex"] (List.Perm.swap _ _ _)
  exact ⟨_, s', rfl, hs', rfl, hsame⟩

end Lowering

end MetalLowering
