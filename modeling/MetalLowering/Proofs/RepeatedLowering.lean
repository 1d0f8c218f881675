import MetalLowering.Proofs.IdentifierStages
import MetalLowering.Proofs.WordPasses

/-!
# Lowering a line twice

A field table of words leaves a line alone that it has lowered already, if each of its accesses is a
field of a word, or a word that is no name of the table (`Lasting`). A field stays because no name
is looked for behind a point, and its owner because a name that owns a field stays in front of a
point (`access_owner`).

In the vertex stage a body line goes through the vocabulary first. No word that comes out of it is
changed by it again (`Settled`, `wordsIn_mapTypes`), and the table gives fields of settled owners
only (`wordsIn_lowerWith`), so the vocabulary finds nothing to do in a lowered line
(`bodyLine_bodyLine_vertex`).
-/

namespace MetalLowering

open Text (Word Ends WordsIn)

namespace FieldTable

variable {pairs : List (Text × Text)}

/-! ### Accesses that stay as they are -/

/-- An access that a table does not change: a field of a word, or a word that is no name of it. -/
def Lasting (table : FieldTable) (access : Text) : Prop :=
  (∃ owner field, Word owner ∧ Word field ∧ access = Metal.member owner field) ∨
    Word access ∧ ∀ entry ∈ table.entries, entry.1 ≠ .text access

/-- What is put for a word depends on the text behind it only by its first character. -/
lemma access_congr (pairs : List (Text × Text)) (before : Option Char) (w : Text) {t u : Text}
    (h : t.head? = u.head?) : access pairs before w t = access pairs before w u := by
  unfold access
  rw [h]

/-- What stands before the first point of an access is an owner. -/
lemma mem_owners {pair : Text × Text} (hpair : pair ∈ pairs) {owner field : Text}
    (howner : Word owner) (haccess : pair.2 = Metal.member owner field) : owner ∈ owners pairs := by
  have hpoint : '.' ∉ owner := by
    intro hmem
    exact absurd (howner.2 '.' hmem) (by decide)
  have hcut : (Metal.member owner field).takeWhile (· ≠ '.') = owner := by
    have hall : ∀ c ∈ owner, decide (c ≠ '.') = true := by
      intro c hc
      rw [decide_eq_true_eq]
      rintro rfl
      exact hpoint hc
    rw [Metal.member, List.append_assoc, List.takeWhile_append_of_pos hall]
    simp
  unfold owners
  rw [List.mem_filterMap]
  refine ⟨pair, hpair, ?_⟩
  rw [haccess, hcut]
  simp [Metal.member]

/-- An owner stays as it is in front of a point. -/
lemma access_owner {owner : Text} (howner : owner ∈ owners pairs) (before : Option Char) (t : Text) :
    access pairs before owner ('.' :: t) = owner := by
  have hpoint : ((owners pairs).contains owner && ('.' :: t).head? = some '.') = true := by
    rw [List.contains_iff_mem.mpr howner]
    rfl
  unfold access
  rcases Text.entryFor (longestFirst pairs) owner with _ | pair
  · exact ite_self owner
  · dsimp only
    rw [if_pos hpoint]
    exact ite_self owner

/-- A field stays as it is behind a point. -/
lemma access_field (pairs : List (Text × Text)) (w t : Text) : access pairs (some '.') w t = w := rfl

/-- A word that is no name stays. -/
lemma access_of_not_name {w : Text} (h : ∀ pair ∈ pairs, pair.1 ≠ w) (before : Option Char)
    (t : Text) : access pairs before w t = w := by
  have hnone : Text.entryFor (longestFirst pairs) w = none :=
    Text.entryFor_eq_none_iff.mpr fun pair hpair => h pair (mem_longestFirst.mp hpair)
  unfold access
  rw [hnone]
  exact ite_self w

/-- A word is left as it is, or it is a name and its access is given. -/
lemma access_cases (pairs : List (Text × Text)) (before : Option Char) (w t : Text) :
    access pairs before w t = w ∨ ∃ pair ∈ pairs, pair.1 = w ∧ access pairs before w t = pair.2 := by
  unfold access
  by_cases hstart : mayStartAfter before = true
  · rw [if_pos hstart]
    rcases hfind : Text.entryFor (longestFirst pairs) w with _ | pair
    · exact Or.inl rfl
    · obtain ⟨hpair, hname⟩ := Text.entryFor_eq_some hfind
      by_cases howner : ((owners pairs).contains w && t.head? = some '.') = true
      · exact Or.inl (if_pos howner)
      · exact Or.inr ⟨pair, mem_longestFirst.mp hpair, hname, if_neg howner⟩
  · exact Or.inl (if_neg hstart)

/-- An access of a table of pairs lasts if it is a field of a word, or a word that is no name. -/
lemma lasting_ofPairs {access : Text} :
    (ofPairs pairs).Lasting access ↔
      (∃ owner field, Word owner ∧ Word field ∧ access = Metal.member owner field) ∨
        Word access ∧ ∀ pair ∈ pairs, pair.1 ≠ access := by
  unfold Lasting ofPairs
  simp only [List.forall_mem_map, entry, ne_eq, Json.Value.text.injEq]

/-- What a table gives for a word, it leaves alone. -/
lemma substituteFrom_access (hnames : ∀ pair ∈ pairs, Word pair.1)
    (hlasting : ∀ pair ∈ pairs, (ofPairs pairs).Lasting pair.2) {before : Option Char} {w t : Text}
    (hbefore : Text.isWord? before = false) (hw : Word w) (ht : Ends t) :
    Text.substituteFrom (rule (longestFirst pairs) (owners pairs)) before 0
        (access pairs before w t ++ t) =
      access pairs before w t ++
        Text.substituteFrom (rule (longestFirst pairs) (owners pairs)) none 0 t := by
  have hpass := wordWise_rule hnames
  rcases access_cases pairs before w t with hkeep | ⟨pair, hpair, -, hgive⟩
  · rw [hkeep, hpass.substituteFrom_word hbefore hw ht, hkeep]
  · rw [hgive]
    rcases lasting_ofPairs.mp (hlasting pair hpair) with ⟨owner, field, howner, hfield, haccess⟩ |
      ⟨hword, hnot⟩
    · have hmark : Text.isWordChar '.' = false := by decide
      have hsplit : Metal.member owner field ++ t = owner ++ '.' :: (field ++ t) := by
        simp [Metal.member]
      rw [haccess, hsplit, hpass.substituteFrom_word hbefore howner (Text.ends_cons hmark _),
        access_owner (mem_owners hpair howner haccess), hpass.substituteFrom_mark none hmark,
        hpass.substituteFrom_word (show Text.isWord? (some '.') = false from hmark) hfield ht,
        access_field]
      simp [Metal.member]
    · rw [hpass.substituteFrom_word hbefore hword ht, access_of_not_name hnot]

/-- A table of words with lasting accesses leaves a lowered line alone. -/
lemma lowerWith_lowerWith (hnames : ∀ pair ∈ pairs, Word pair.1)
    (hlasting : ∀ pair ∈ pairs, (ofPairs pairs).Lasting pair.2) (line : Text) :
    lowerWith pairs (lowerWith pairs line) = lowerWith pairs line := by
  have hpass := wordWise_rule hnames
  apply hpass.substitute_substitute
  · intro before w t ht
    exact access_congr pairs before w (hpass.head?_substituteFrom ht none)
  · intro before w t hbefore hw ht
    exact substituteFrom_access hnames hlasting hbefore hw ht

/-- If a table gives texts of a class of words for names of that class, a lowered line stays in the
class. -/
lemma wordsIn_lowerWith {P : Text → Prop} (hnames : ∀ pair ∈ pairs, Word pair.1)
    (haccesses : ∀ pair ∈ pairs, P pair.1 → WordsIn P pair.2) {line : Text}
    (hline : WordsIn P line) : WordsIn P (lowerWith pairs line) := by
  apply (wordWise_rule hnames).wordsIn_substitute hline
  intro before w t hw hp
  rcases access_cases pairs before w t with hkeep | ⟨pair, hpair, rfl, hgive⟩
  · rw [hkeep]
    exact .of_word hw hp
  · rw [hgive]
    exact haccesses pair hpair hp

end FieldTable

namespace Vocabulary

/-! ### Words that the vocabulary leaves alone -/

/-- A word that the type names leave as it is. -/
def Settled (w : Text) : Prop := spell typeNames w = w

instance (w : Text) : Decidable (Settled w) := inferInstanceAs (Decidable (_ = _))

/-- A word stays or gets the spelling of an entry. -/
lemma spell_cases (names : List (Text × Text)) (w : Text) :
    spell names w = w ∨ ∃ entry ∈ names, entry.1 = w ∧ spell names w = entry.2 := by
  unfold spell
  rcases hfind : Text.entryFor names w with _ | entry
  · exact Or.inl rfl
  · obtain ⟨hentry, hname⟩ := Text.entryFor_eq_some hfind
    exact Or.inr ⟨entry, hentry, hname, rfl⟩

/-- The type names and what they are mapped to are words. -/
lemma word_typeNames : ∀ entry ∈ typeNames, Word entry.1 ∧ Word entry.2 := by decide

/-- No Metal spelling of a type is the name of another one. -/
lemma settled_typeNames : ∀ entry ∈ typeNames, Settled entry.2 := by decide

/-- What the type names give for a word is a settled word. -/
lemma settled_spell {w : Text} (hw : Word w) :
    Word (spell typeNames w) ∧ Settled (spell typeNames w) := by
  rcases spell_cases typeNames w with hkeep | ⟨entry, hentry, -, hspelling⟩
  · rw [hkeep]
    exact ⟨hw, hkeep⟩
  · rw [hspelling]
    exact ⟨(word_typeNames entry hentry).2, settled_typeNames entry hentry⟩

/-- Mapping types goes word by word. -/
lemma wordWise_mapTypes : Text.WordWise (wordRule typeNames) fun _ w _ => spell typeNames w :=
  wordWise_wordRule fun entry hentry => (word_typeNames entry hentry).1

/-- All words of a line whose types are mapped are settled. -/
lemma wordsIn_mapTypes (line : Text) : WordsIn Settled (mapTypes line) := by
  apply wordWise_mapTypes.wordsIn_substitute (Text.wordsIn_true line)
  intro before w t hw _
  obtain ⟨hword, hsettled⟩ := settled_spell hw
  exact .of_word hword hsettled

/-- A line of settled words has no type left to map. -/
lemma mapTypes_of_settled {line : Text} (h : WordsIn Settled line) : mapTypes line = line := by
  apply wordWise_mapTypes.substitute_eq_self
  exact h.imp fun w hw _ _ => hw

/-- A line of settled words has no matrix constructor left to map. -/
lemma mapMatrixConstructors_of_settled {line : Text} (h : WordsIn Settled line) :
    mapMatrixConstructors line = line := by
  have hmatrix : ¬Settled "mat3" := by decide
  apply wordWise_matrixRule.substitute_eq_self
  refine h.imp fun w hw before t => if_neg ?_
  rintro ⟨rfl, -⟩
  exact hmatrix hw

end Vocabulary

namespace Lowering

variable {metadata : Metadata} {attributes varyings : List Text}

/-! ### Body lines of the vertex stage -/

/-- The structs of the vertex stage whose fields stand for names. -/
def vertexOwners : List Text := [Metal.vertexInput, Metal.uniformsInput, Metal.output .vertex]

/-- Every name of the vertex stage becomes a field: of its own name, or the position. -/
lemma exists_member_of_mem_vertexPairs {pair : Text × Text}
    (h : pair ∈ vertexPairs metadata attributes varyings) :
    ∃ owner ∈ vertexOwners, ∃ field, (field = pair.1 ∨ field = Metal.positionField) ∧
      pair.2 = Metal.member owner field := by
  obtain ⟨e, he, rfl⟩ := List.mem_map.mp h
  rcases mem_vertexEntries.mp he with ⟨name, -, rfl⟩ | ⟨u, -, rfl⟩ | ⟨name, -, rfl⟩ | rfl
  · exact ⟨Metal.vertexInput, by simp [vertexOwners], name, Or.inl rfl, rfl⟩
  · exact ⟨Metal.uniformsInput, by simp [vertexOwners], _, Or.inl rfl, rfl⟩
  · exact ⟨Metal.output .vertex, by simp [vertexOwners], name, Or.inl rfl, rfl⟩
  · exact ⟨Metal.output .vertex, by simp [vertexOwners], _, Or.inr rfl, rfl⟩

/-- The owners of fields in the vertex stage are settled words. -/
lemma settled_vertexOwners : ∀ owner ∈ vertexOwners, Word owner ∧ Vocabulary.Settled owner := by
  decide

/-- The words of an access are its owner and its field. -/
lemma wordsIn_member {P : Text → Prop} {owner field : Text} (howner : Word owner) (hp : P owner)
    (hfield : Word field) (hq : P field) : WordsIn P (Metal.member owner field) := by
  have hpoint : Text.isWordChar '.' = false := by decide
  have hbehind : WordsIn P ('.' :: field) := .mark hpoint (.of_word hfield hq)
  rw [Metal.member, List.append_assoc]
  exact .word howner (Text.ends_cons hpoint field) hp hbehind

/-- The accesses of the vertex stage last, whatever the names are. -/
lemma lasting_of_mem_vertexPairs (table : FieldTable) {pair : Text × Text}
    (h : pair ∈ vertexPairs metadata attributes varyings) (hname : Word pair.1) :
    table.Lasting pair.2 := by
  obtain ⟨owner, howner, field, hfield, haccess⟩ := exists_member_of_mem_vertexPairs h
  have hword : Word field := by
    rcases hfield with rfl | rfl
    · exact hname
    · decide
  exact Or.inl ⟨owner, field, (settled_vertexOwners owner howner).1, hword, haccess⟩

/-- The accesses of the vertex stage are settled if their names are. -/
lemma wordsIn_of_mem_vertexPairs {pair : Text × Text}
    (h : pair ∈ vertexPairs metadata attributes varyings) (hname : Word pair.1)
    (hsettled : Vocabulary.Settled pair.1) : WordsIn Vocabulary.Settled pair.2 := by
  obtain ⟨owner, howner, field, hfield, haccess⟩ := exists_member_of_mem_vertexPairs h
  obtain ⟨hword, howner⟩ := settled_vertexOwners owner howner
  rw [haccess]
  rcases hfield with rfl | rfl
  · exact wordsIn_member hword howner hname hsettled
  · exact wordsIn_member hword howner (by decide) (by decide)

/-- A body line of the vertex stage: types, then the table; a lowered one is left alone by both. -/
lemma bodyLine_bodyLine_vertex
    (hnames : ∀ pair ∈ vertexPairs metadata attributes varyings, Word pair.1) (line : Text) :
    (ofVertex metadata attributes varyings).bodyLine
        (FieldTable.kept (vertexPairs metadata attributes varyings))
        ((ofVertex metadata attributes varyings).bodyLine
          (FieldTable.kept (vertexPairs metadata attributes varyings)) line) =
      (ofVertex metadata attributes varyings).bodyLine
        (FieldTable.kept (vertexPairs metadata attributes varyings)) line := by
  generalize hpairs : FieldTable.kept (vertexPairs metadata attributes varyings) = pairs
  have hmem : ∀ pair ∈ pairs, pair ∈ vertexPairs metadata attributes varyings := by
    intro pair hpair
    rw [← hpairs] at hpair
    exact FieldTable.mem_of_mem_kept hpair
  have hwords : ∀ pair ∈ pairs, Word pair.1 := by
    intro pair hpair
    exact hnames pair (hmem pair hpair)
  have hbody : ∀ line, (ofVertex metadata attributes varyings).bodyLine pairs line =
      FieldTable.lowerWith pairs
        (Vocabulary.mapTypes (Vocabulary.mapMatrixConstructors line)) := fun _ => rfl
  have hsettled : WordsIn Vocabulary.Settled (FieldTable.lowerWith pairs
      (Vocabulary.mapTypes (Vocabulary.mapMatrixConstructors line))) := by
    apply FieldTable.wordsIn_lowerWith hwords _ (Vocabulary.wordsIn_mapTypes _)
    intro pair hpair hname
    exact wordsIn_of_mem_vertexPairs (hmem pair hpair) (hwords pair hpair) hname
  rw [hbody, hbody, Vocabulary.mapMatrixConstructors_of_settled hsettled,
    Vocabulary.mapTypes_of_settled hsettled, FieldTable.lowerWith_lowerWith hwords]
  intro pair hpair
  exact lasting_of_mem_vertexPairs _ (hmem pair hpair) (hwords pair hpair)

/-- Lowering a line again changes nothing: neither with a table of words whose accesses last, after
any registrations, nor in a body line of a vertex stage whose names are identifiers. -/
theorem lower_lower :
    (∀ calls : List (Text × Text), (∀ call ∈ calls, Word call.1) →
      (∀ entry ∈ (FieldTable.ofCalls calls).entries, (FieldTable.ofCalls calls).Lasting entry.2) →
      ∀ line, ∃ out, (FieldTable.ofCalls calls).lower line = .ok out ∧
        (FieldTable.ofCalls calls).lower out = .ok out) ∧
    ∀ (metadata : Metadata) (attributes varyings : List Text),
      (∀ u ∈ metadata.uniforms, IsIdentifierName u.name) →
      (∀ name ∈ attributes, Text.isIdentifier name = true) →
      (∀ name ∈ varyings, Text.isIdentifier name = true) →
      ∃ s, (vertex metadata attributes varyings).result = .ok s ∧
        ∀ line, ∃ out, s.lowerBodyLine line = .ok out ∧ s.lowerBodyLine out = .ok out := by
  constructor
  · intro calls hnames hlasting line
    rw [FieldTable.ofCalls_eq] at hlasting ⊢
    have hwords : ∀ pair ∈ FieldTable.kept calls, Word pair.1 := by
      intro pair hpair
      exact hnames pair (FieldTable.mem_of_mem_kept hpair)
    have hpairs : ∀ pair ∈ FieldTable.kept calls,
        (FieldTable.ofPairs (FieldTable.kept calls)).Lasting pair.2 := by
      intro pair hpair
      exact hlasting (FieldTable.entry pair) (List.mem_map_of_mem hpair)
    refine ⟨_, FieldTable.lower_ofPairs _ line, ?_⟩
    rw [FieldTable.lower_ofPairs, FieldTable.lowerWith_lowerWith hwords hpairs]
  · intro metadata attributes varyings huniforms hattributes hvaryings
    have hnames : ∀ pair ∈ vertexPairs metadata attributes varyings, Word pair.1 := by
      intro pair hpair
      exact Text.word_of_isIdentifier
        (isEntry_of_mem_vertexPairs huniforms hattributes hvaryings pair hpair).1
    have hplain := plain_ofVertex metadata attributes varyings
    refine ⟨_, vertex_result (fun u hu => (huniforms u hu).imp fun _ h => h.1) attributes varyings,
      fun line => ⟨_, hplain.lowerBodyLine_eq line, ?_⟩⟩
    rw [hplain.lowerBodyLine_eq, bodyLine_bodyLine_vertex hnames]

/-- Names that are owners, that are registered twice, or that Metal spells a type like. -/
theorem lower_lower_shared_names :
    (∀ line, ∃ out,
      (FieldTable.ofCalls [("v", "v.v"), ("color", "out"), ("v", "w")]).lower line = .ok out ∧
      (FieldTable.ofCalls [("v", "v.v"), ("color", "out"), ("v", "w")]).lower out = .ok out) ∧
    ∃ s, (vertex ⟨[⟨.text "uniforms", .known .mat4⟩], []⟩ ["v", "float3"]
        ["msl_vertex_out", "vec2"]).result = .ok s ∧
      ∀ line, ∃ out, s.lowerBodyLine line = .ok out ∧ s.lowerBodyLine out = .ok out := by
  constructor
  · have hentries : (FieldTable.ofCalls [("v", "v.v"), ("color", "out"), ("v", "w")]).entries =
        [(Json.Value.text "v", "v.v".toList), (Json.Value.text "color", "out".toList)] := rfl
    apply lower_lower.1
    · decide
    · intro entry hentry
      rw [hentries, List.mem_pair] at hentry
      rcases hentry with rfl | rfl
      · exact Or.inl ⟨"v", "v", by decide, by decide, rfl⟩
      · refine Or.inr ⟨by decide, ?_⟩
        rw [hentries]
        simp
  · apply lower_lower.2
    · exact List.forall_mem_singleton.mpr ⟨"uniforms", rfl, by decide⟩
    · decide
    · decide

end Lowering

end MetalLowering
