import MetalLowering.Proofs.SamplingCalls

/-!
# What the sampling passes put into a line

A texture may be called like a sampling function, and then a line can be grouped into calls in more
than one way. Still the pass for a texture puts samples of this texture in the place of calls on it
and leaves all other pieces of the line (`exists_parts_substitute`), and the passes for different
textures do not touch what one of them has put in. Main statement: after all passes, a line consists
of samples in the place of calls on the textures, and of the pieces beside these calls
(`exists_parts_samplingPasses`).

One more texture is added by `CallsOn.exists_next`: a call on it neither starts in a sample nor
reaches into one.
-/

namespace MetalLowering

open Text (Word Ends)

namespace Sampling

variable {c : SampleCall} {textures done ps : List Text} {parts parts' : List Part} {t : Text}

/-- Parts whose calls are calls on the given textures. -/
def CallsOn (textures : List Text) (parts : List Part) : Prop :=
  ∀ c, .call c ∈ parts → c.On textures

/-- No parts have no calls. -/
lemma callsOn_nil (textures : List Text) : CallsOn textures [] := by
  rintro c ⟨⟩

/-- A piece that stands for itself adds no call. -/
lemma callsOn_piece_cons {p : Text} :
    CallsOn textures (.piece p :: parts) ↔ CallsOn textures parts := by
  constructor
  · intro h c hc
    exact h c (List.mem_cons_of_mem _ hc)
  · intro h c hc
    rcases List.mem_cons.mp hc with hc | hc
    · cases hc
    · exact h c hc

/-- A call in front adds one on its texture. -/
lemma callsOn_call_cons :
    CallsOn textures (.call c :: parts) ↔ c.On textures ∧ CallsOn textures parts := by
  constructor
  · intro h
    exact ⟨h c List.mem_cons_self, fun c hc => h c (List.mem_cons_of_mem _ hc)⟩
  · rintro ⟨hc, h⟩ d hd
    rcases List.mem_cons.mp hd with hd | hd
    · obtain rfl := Part.call.inj hd
      exact hc
    · exact h d hd

/-- Pieces that stand for themselves are their own source. -/
lemma flatMap_source_piece (ps : List Text) : (ps.map Part.piece).flatMap Part.source = ps := by
  simp [List.flatMap_map, Part.source]

/-! ### One pass -/

/-- What the rule for a texture takes is a call on it, and what it gives is its sample. -/
lemma exists_call_hit (hword : Word t) {before : Option Char} {text : Text} {hit : Text.Hit}
    (h : plainRule t before text = some hit) :
    ∃ (c : SampleCall) (rest : Text), c.On [t] ∧ Ends rest ∧ text = c.source ++ rest ∧
      hit = ⟨c.source.length, template t⟩ := by
  obtain ⟨function, hfunction, call, rest, hcall, htext, hhit, hends⟩ := plainRule_hit h
  obtain ⟨c, hc, rfl⟩ := hcall.exists_on hfunction
  exact ⟨c, rest, hc, hends.ends hword, htext, hhit⟩

/-- The pass for a texture puts samples in the place of calls, and leaves the other pieces. -/
lemma exists_parts_substitute (hword : Word t) (line : Text) :
    ∃ parts, CallsOn [t] parts ∧ parts.flatMap Part.source = Text.pieces line ∧
      Text.pieces (Text.substitute (plainRule t) line) = parts.flatMap Part.given := by
  have hpass := startsAtWords_plainRule t
  have hfrom : ∀ n line, line.length = n → ∀ before, Text.isWord? before = false ∨ Ends line →
      ∃ parts, CallsOn [t] parts ∧ parts.flatMap Part.source = Text.pieces line ∧
        Text.pieces (Text.substituteFrom (plainRule t) before 0 line) =
          parts.flatMap Part.given := by
    intro n
    -- a hit takes several pieces at once, so the induction is on the length of the line
    induction n using Nat.strong_induction_on with
    | _ n ih =>
        intro line hn before hbefore
        cases Text.wordsIn_true line with
        | nil => exact ⟨[], callsOn_nil [t], rfl, rfl⟩
        | @mark d u hd _ =>
            obtain ⟨parts, hparts, hsource, hgiven⟩ :=
              ih u.length (by simp [← hn]) u rfl (some d) (Or.inl hd)
            refine ⟨.piece [d] :: parts, callsOn_piece_cons.mpr hparts, ?_, ?_⟩
            · rw [Text.pieces_mark hd, List.flatMap_cons, hsource]
              rfl
            · rw [hpass.substituteFrom_mark before hd, Text.pieces_mark hd, hgiven]
              rfl
        | @word w u hw hu _ _ =>
            have hstart := hbefore.resolve_right (hw.not_ends_append u)
            rcases hhit : plainRule t before (w ++ u) with _ | hit
            · have hshort : u.length < n := by
                have := List.length_pos_of_ne_nil hw.1
                rw [← hn, List.length_append]
                omega
              obtain ⟨parts, hparts, hsource, hgiven⟩ := ih u.length hshort u rfl none (Or.inl rfl)
              refine ⟨.piece w :: parts, callsOn_piece_cons.mpr hparts, ?_, ?_⟩
              · rw [Text.pieces_word hw hu, List.flatMap_cons, hsource]
                rfl
              · rw [hpass.substituteFrom_miss hw hu hhit,
                  Text.pieces_word hw (hpass.ends_substituteFrom hu none), hgiven]
                rfl
            · obtain ⟨c, rest, hc, hrest, hline, rfl⟩ := exists_call_hit hword hhit
              obtain rfl : c.texture = t := List.mem_singleton.mp hc.texture_mem
              have hne : c.source ≠ [] := by simp [SampleCall.source]
              have hshort : rest.length < n := by
                have := List.length_pos_of_ne_nil hne
                rw [← hn, hline, List.length_append]
                omega
              obtain ⟨parts, hparts, hsource, hgiven⟩ :=
                ih rest.length hshort rest rfl none (Or.inl rfl)
              refine ⟨.call c :: parts, callsOn_call_cons.mpr ⟨hc, hparts⟩, ?_, ?_⟩
              · rw [hline, hc.pieces_append hword hrest, List.flatMap_cons, hsource]
                rfl
              · rw [hline] at hhit
                rw [hline, hpass.substituteFrom_hit hne hrest hhit,
                  SampleCall.pieces_sample hword (hpass.ends_substituteFrom hrest none), hgiven]
                rfl
  exact hfrom line.length line rfl none (Or.inl rfl)

/-! ### One pass after others -/

/-- A piece that starts no call is a part by itself. -/
lemma CallsOn.exists_piece {p : Text} (h : CallsOn textures parts)
    (hno : ¬StartsWithCall textures (p :: ps)) (hsource : parts.flatMap Part.source = p :: ps) :
    ∃ rest, parts = .piece p :: rest ∧ rest.flatMap Part.source = ps := by
  cases parts with
  | nil => cases hsource
  | cons part parts =>
      rw [List.flatMap_cons] at hsource
      cases part with
      | piece q =>
          obtain ⟨rfl, hps⟩ := List.cons.inj hsource
          exact ⟨parts, rfl, hps⟩
      | call c => exact absurd ⟨c, _, (callsOn_call_cons.mp h).1, hsource.symm⟩ hno

/-- No call starts with a word before a point. -/
lemma not_startsWithCall_point (w : Text) (ps : List Text) :
    ¬StartsWithCall textures (w :: "." :: ps) := by
  rintro ⟨⟨function, gap, indent, texture⟩, rest, hc, heq⟩
  obtain ⟨-, hsecond⟩ := List.cons.inj heq
  cases gap with
  | nil => exact absurd (List.cons.inj hsecond).1 (by decide)
  | cons d gap =>
      have hd : Text.isBlank d = true := hc.gap_blanks d List.mem_cons_self
      obtain rfl : '.' = d := List.singleton_inj.mp (List.cons.inj hsecond).1
      exact absurd hd (by decide)

/-- Pieces that start no call are parts by themselves. -/
lemma CallsOn.exists_idle {idle : List Text} (h : CallsOn textures parts)
    (hidle : ∀ p ∈ idle, p ∉ functions) (hsource : parts.flatMap Part.source = idle ++ ps) :
    ∃ rest, parts = idle.map .piece ++ rest ∧ rest.flatMap Part.source = ps := by
  induction idle generalizing parts with
  | nil => exact ⟨parts, rfl, hsource⟩
  | cons p idle ih =>
      obtain ⟨hp, hidle⟩ := List.forall_mem_cons.mp hidle
      obtain ⟨more, rfl, hmore⟩ := h.exists_piece (not_startsWithCall hp _) hsource
      obtain ⟨rest, rfl, hrest⟩ := ih (callsOn_piece_cons.mp h) hidle hmore
      exact ⟨rest, rfl, hrest⟩

/-- No call starts in a sample. -/
lemma CallsOn.exists_of_sample (h : CallsOn textures parts)
    (hsource : parts.flatMap Part.source = c.sample ++ ps) :
    ∃ rest, parts = c.sample.map .piece ++ rest ∧ rest.flatMap Part.source = ps := by
  obtain ⟨more, rfl, hmore⟩ := h.exists_piece (not_startsWithCall_point c.texture _) hsource
  have hidle : ∀ p ∈ c.sample.tail, p ∉ functions := by
    intro p hp
    simp only [SampleCall.sample, List.tail_cons, List.mem_cons, List.not_mem_nil, or_false] at hp
    rcases hp with rfl | rfl | rfl | rfl
    · decide
    · decide
    · decide
    · exact SampleCall.suffix_not_mem_functions c.texture
  obtain ⟨rest, rfl, hrest⟩ := (callsOn_piece_cons.mp h).exists_idle hidle hmore
  exact ⟨rest, rfl, hrest⟩

/-- Pieces of a lowered line that are no textures stood there before. -/
lemma CallsOn.exists_of_given {kept : List Text} (h : CallsOn textures parts)
    (hkept : ∀ p ∈ kept, p ∉ textures) (hgiven : parts.flatMap Part.given = kept ++ ps) :
    ∃ rest, parts = kept.map .piece ++ rest ∧ rest.flatMap Part.given = ps := by
  induction kept generalizing parts with
  | nil => exact ⟨parts, rfl, hgiven⟩
  | cons p kept ih =>
      obtain ⟨hp, hothers⟩ := List.forall_mem_cons.mp hkept
      cases parts with
      | nil => cases hgiven
      | cons part parts =>
          rw [List.flatMap_cons] at hgiven
          cases part with
          | piece q =>
              obtain ⟨rfl, hmore⟩ := List.cons.inj hgiven
              obtain ⟨rest, rfl, hrest⟩ := ih (callsOn_piece_cons.mp h) hothers hmore
              exact ⟨rest, rfl, hrest⟩
          | call c =>
              obtain ⟨rfl, -⟩ := List.cons.inj hgiven
              exact absurd (callsOn_call_cons.mp h).1.texture_mem hp

/-- The pass for one more texture leaves the samples of the others, and its calls are calls of the
line itself. -/
theorem CallsOn.exists_next (hwords : ∀ u ∈ done, Word u) (ht : t ∉ done) (h : CallsOn done parts)
    (h' : CallsOn [t] parts') (hsource : parts'.flatMap Part.source = parts.flatMap Part.given) :
    ∃ both, CallsOn (t :: done) both ∧ both.flatMap Part.source = parts.flatMap Part.source ∧
      both.flatMap Part.given = parts'.flatMap Part.given := by
  -- a call on the texture takes several of the parts before it
  induction hlength : parts.length using Nat.strong_induction_on generalizing parts parts' with
  | _ n ih =>
      rcases parts with _ | ⟨p | c, parts⟩
      · cases parts' with
        | nil => exact ⟨[], callsOn_nil _, rfl, rfl⟩
        | cons part parts' =>
            exact absurd (List.append_eq_nil_iff.mp hsource).1 part.source_ne_nil
      · replace h := callsOn_piece_cons.mp h
        rcases parts' with _ | ⟨q | c, parts'⟩
        · cases hsource
        · rw [List.flatMap_cons, List.flatMap_cons] at hsource
          obtain ⟨rfl, hmore⟩ := List.cons.inj hsource
          obtain ⟨both, hboth, hsame, hgiven⟩ := ih parts.length (by simp [← hlength]) h
            (callsOn_piece_cons.mp h') hmore rfl
          refine ⟨.piece q :: both, callsOn_piece_cons.mpr hboth, ?_, ?_⟩
          · rw [List.flatMap_cons, List.flatMap_cons, hsame]
          · rw [List.flatMap_cons, List.flatMap_cons, hgiven]
        · obtain ⟨hc, h'⟩ := callsOn_call_cons.mp h'
          rw [List.flatMap_cons, List.flatMap_cons] at hsource
          obtain ⟨rfl, hmore⟩ := List.cons.inj hsource
          have hkept : ∀ p ∈ c.arguments, p ∉ done := by
            intro p hp hmem
            obtain rfl := hc.eq_texture hp (hwords p hmem)
            exact ht (List.mem_singleton.mp hc.texture_mem ▸ hmem)
          obtain ⟨rest, rfl, hrest⟩ := h.exists_of_given hkept hmore.symm
          have hshort : rest.length < n := by
            rw [← hlength, List.length_cons, List.length_append]
            omega
          obtain ⟨both, hboth, hsame, hgiven⟩ := ih rest.length hshort
            (fun c hc => h c (List.mem_append_right _ hc)) h' hrest.symm rfl
          have hon : c.On (t :: done) :=
            hc.of_mem (List.mem_cons.mpr (Or.inl (List.mem_singleton.mp hc.texture_mem)))
          refine ⟨.call c :: both, callsOn_call_cons.mpr ⟨hon, hboth⟩, ?_, ?_⟩
          · rw [List.flatMap_cons, List.flatMap_cons, List.flatMap_append, flatMap_source_piece,
              hsame]
            rfl
          · rw [List.flatMap_cons, List.flatMap_cons, hgiven]
      · obtain ⟨hc, h⟩ := callsOn_call_cons.mp h
        obtain ⟨rest, rfl, hrest⟩ := h'.exists_of_sample hsource
        obtain ⟨both, hboth, hsame, hgiven⟩ := ih parts.length (by simp [← hlength]) h
          (fun c hc => h' c (List.mem_append_right _ hc)) hrest rfl
        have hon : c.On (t :: done) := hc.of_mem (List.mem_cons_of_mem t hc.texture_mem)
        refine ⟨.call c :: both, callsOn_call_cons.mpr ⟨hon, hboth⟩, ?_, ?_⟩
        · rw [List.flatMap_cons, List.flatMap_cons, hsame]
        · rw [List.flatMap_cons, List.flatMap_append, flatMap_given_piece, hgiven]
          rfl

end Sampling

/-! ### All passes -/

namespace Lowering

open EntryPoint (BoundTexture)
open Sampling (CallsOn Part)

/-- If a line is put together from parts, with the calls on some textures lowered, then it still is
after the calls on further textures are lowered. -/
lemma exists_parts_after {textures : List BoundTexture} {done : List Text} {parts : List Part}
    {lowered : Text} (hwords : ∀ t ∈ textures.map (·.name) ++ done, Word t)
    (hnodup : (textures.map (·.name) ++ done).Nodup) (hparts : CallsOn done parts)
    (hlowered : Text.pieces lowered = parts.flatMap Part.given) :
    ∃ all, CallsOn (textures.map (·.name) ++ done) all ∧
      all.flatMap Part.source = parts.flatMap Part.source ∧
      Text.pieces (samplingPasses textures lowered) = all.flatMap Part.given := by
  induction textures generalizing done parts lowered with
  | nil => exact ⟨parts, hparts, rfl, hlowered⟩
  | cons texture textures ih =>
      have hperm : (textures.map (·.name) ++ texture.name :: done).Perm
          ((texture :: textures).map (·.name) ++ done) := List.perm_middle
      have hwords' : ∀ t ∈ textures.map (·.name) ++ texture.name :: done, Word t := fun t ht =>
        hwords t (hperm.mem_iff.mp ht)
      have hnodup' := hperm.nodup_iff.mpr hnodup
      have hnew : texture.name ∉ done :=
        (List.nodup_cons.mp (List.nodup_append.mp hnodup').2.1).1
      obtain ⟨hname, hdone⟩ := List.forall_mem_cons.mp (List.forall_mem_append.mp hwords').2
      obtain ⟨parts', hparts', hsource, hgiven⟩ :=
        Sampling.exists_parts_substitute hname lowered
      rw [hlowered] at hsource
      obtain ⟨both, hboth, hsame, hbothGiven⟩ := hparts.exists_next hdone hnew hparts' hsource
      obtain ⟨all, hall, hallSource, hpieces⟩ :=
        ih hwords' hnodup' hboth (hgiven.trans hbothGiven.symm)
      exact ⟨all, fun c hc => (hall c hc).of_mem (hperm.mem_iff.mp (hall c hc).texture_mem),
        hallSource.trans hsame, hpieces⟩

/-- After all passes a line consists of samples in the place of calls, and of the other pieces. -/
theorem exists_parts_samplingPasses {textures : List BoundTexture}
    (hwords : ∀ t ∈ textures.map (·.name), Word t) (hnodup : (textures.map (·.name)).Nodup)
    (line : Text) :
    ∃ parts, CallsOn (textures.map (·.name)) parts ∧
      parts.flatMap Part.source = Text.pieces line ∧
      samplingPasses textures line = parts.flatMap Part.lowered := by
  have hnone : CallsOn [] ((Text.pieces line).map .piece) := by
    intro c hc
    obtain ⟨p, -, hp⟩ := List.mem_map.mp hc
    cases hp
  obtain ⟨parts, hparts, hsource, hpieces⟩ := exists_parts_after
    (by rwa [List.append_nil]) (by rwa [List.append_nil]) hnone
    (Sampling.flatMap_given_piece (Text.pieces line)).symm
  rw [List.append_nil] at hparts
  refine ⟨parts, hparts, hsource.trans (Sampling.flatMap_source_piece _), ?_⟩
  rw [← Sampling.flatten_flatMap_given, ← hpieces, (Text.cut_pieces _).flatten_eq]

end Lowering

end MetalLowering
