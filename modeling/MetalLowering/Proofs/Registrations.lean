import Mathlib.Data.List.Nodup
import Mathlib.Tactic.Common
import MetalLowering.FieldTable

/-!
# What a field table holds after registrations

Names of shader sources are texts, and then a table is a list of pairs of texts (`ofPairs`). A
registration adds a pair unless the name is there already (`register_ofPairs`), so after any calls
the table holds the first call for each name: a pair is kept only if it was registered
(`mem_of_mem_kept`), and no name stands twice (`nodup_names_kept`). What is found for a name is what
its first call registered (`find?_kept`).
-/

namespace MetalLowering.FieldTable

open Json (Value)

/-- A name and its access, as they are registered. -/
def entry (pair : Text × Text) : Value × Text := (.text pair.1, pair.2)

/-- The table of some names that are texts. -/
def ofPairs (pairs : List (Text × Text)) : FieldTable := ⟨pairs.map entry⟩

/-- The pairs after one more registration. -/
def keep (pairs : List (Text × Text)) (call : Text × Text) : List (Text × Text) :=
  if call.1 ∈ pairs.map (·.1) then pairs else pairs ++ [call]

/-- The pairs that are left of some registrations. -/
def kept (calls : List (Text × Text)) : List (Text × Text) := calls.foldl keep []

/-- The table of some registrations, made one after the other. -/
def ofCalls (calls : List (Text × Text)) : FieldTable :=
  calls.foldl (fun table call => table.register (.text call.1) call.2) {}

/-! ### Tables of texts -/

/-- Nothing is found for a name exactly if no pair has it. -/
lemma find?_ofPairs_eq_none_iff {pairs : List (Text × Text)} {name : Text} :
    (ofPairs pairs).find? (.text name) = none ↔ name ∉ pairs.map (·.1) := by
  simp only [find?, ofPairs, entry, Option.map_eq_none_iff, List.find?_eq_none, List.mem_map,
    not_exists, not_and, forall_exists_index, and_imp, forall_apply_eq_imp_iff₂, Value.sameKey,
    decide_eq_true_eq]

/-- A registration keeps a pair, unless its name is there already. -/
lemma register_ofPairs (pairs : List (Text × Text)) (call : Text × Text) :
    (ofPairs pairs).register (.text call.1) call.2 = ofPairs (keep pairs call) := by
  unfold register
  rcases h : (ofPairs pairs).find? (.text call.1) with _ | access
  · have hnew := find?_ofPairs_eq_none_iff.mp h
    simp [keep, if_neg hnew, ofPairs, entry]
  · have hold : call.1 ∈ pairs.map (·.1) := by
      by_contra hnew
      rw [find?_ofPairs_eq_none_iff.mpr hnew] at h
      cases h
    simp only [keep, if_pos hold]

/-- Registrations one after the other keep the first pair for each name. -/
lemma foldl_register (calls pairs : List (Text × Text)) :
    calls.foldl (fun table call => table.register (.text call.1) call.2) (ofPairs pairs) =
      ofPairs (calls.foldl keep pairs) := by
  induction calls generalizing pairs with
  | nil => rfl
  | cons call calls ih => rw [List.foldl_cons, register_ofPairs, ih, List.foldl_cons]

/-- Registrations leave the table of the pairs that are kept of them. -/
lemma ofCalls_eq (calls : List (Text × Text)) : ofCalls calls = ofPairs (kept calls) :=
  foldl_register calls []

/-- A table that is made of calls keeps the first pair for each name. -/
lemma build_ofPairs (calls pairs : List (Text × Text)) :
    (build (ofPairs pairs) (calls.map entry)).result = .ok (ofPairs (calls.foldl keep pairs)) := by
  induction calls generalizing pairs with
  | nil => rfl
  | cons call calls ih =>
      rw [List.foldl_cons, ← ih, ← register_ofPairs]
      rfl

/-- The table of some entries whose names are texts. -/
lemma build_result {entries : List (Value × Text)} (h : ∀ e ∈ entries, ∃ t, e.1 = .text t) :
    (build {} entries).result =
      .ok (ofPairs (kept (entries.map fun e => (e.1.display, e.2)))) := by
  have hentries : (entries.map fun e => (e.1.display, e.2)).map entry = entries := by
    rw [List.map_map]
    refine (List.map_congr_left fun e he => ?_).trans (List.map_id entries)
    obtain ⟨t, ht⟩ := h e he
    simp [entry, ht, Prod.ext_iff]
  have hbuild := build_ofPairs (entries.map fun e => (e.1.display, e.2)) []
  rwa [hentries] at hbuild

/-- The names of a table of pairs are texts. -/
lemma texts?_ofPairs (pairs : List (Text × Text)) : (ofPairs pairs).texts? = some pairs := by
  have hread : ∀ pair : Text × Text,
      ((entry pair).1.text?.map fun name => (name, (entry pair).2)) = some pair := fun _ => rfl
  simp only [texts?, ofPairs, List.mapM_map, Function.comp_def, hread]
  simpa using List.mapM_pure (m := Option) (l := pairs) (f := id)

/-- A table of pairs lowers every line. -/
lemma lower_ofPairs (pairs : List (Text × Text)) (line : Text) :
    (ofPairs pairs).lower line = .ok (lowerWith pairs line) := by
  simp only [lower, texts?_ofPairs]

/-! ### Which pairs are kept -/

/-- A pair after a registration was there before or is the new one. -/
lemma mem_of_mem_keep {pairs : List (Text × Text)} {call p : Text × Text}
    (h : p ∈ keep pairs call) : p ∈ pairs ∨ p = call := by
  unfold keep at h
  split_ifs at h
  · exact Or.inl h
  · simpa using h

/-- A registration puts no name in twice. -/
lemma nodup_names_keep {pairs : List (Text × Text)} (h : (pairs.map (·.1)).Nodup)
    (call : Text × Text) : ((keep pairs call).map (·.1)).Nodup := by
  unfold keep
  split_ifs with hold
  · exact h
  · rw [List.map_append, List.map_singleton]
    exact List.nodup_append.mpr ⟨h, List.nodup_singleton _, by
      rintro a ha b hb rfl
      exact hold (List.mem_singleton.mp hb ▸ ha)⟩

/-- A pair after some registrations was there before or is one of them. -/
lemma mem_of_mem_foldl_keep {calls pairs : List (Text × Text)} {p : Text × Text}
    (h : p ∈ calls.foldl keep pairs) : p ∈ pairs ∨ p ∈ calls := by
  induction calls generalizing pairs with
  | nil => exact Or.inl h
  | cons call calls ih =>
      rcases ih h with hp | hp
      · rcases mem_of_mem_keep hp with hp | rfl
        · exact Or.inl hp
        · exact Or.inr List.mem_cons_self
      · exact Or.inr (List.mem_cons_of_mem call hp)

/-- A pair that is kept was registered. -/
lemma mem_of_mem_kept {calls : List (Text × Text)} {p : Text × Text} (h : p ∈ kept calls) :
    p ∈ calls :=
  (mem_of_mem_foldl_keep h).resolve_left List.not_mem_nil

/-- Some registrations put no name in twice. -/
lemma nodup_names_foldl_keep (calls : List (Text × Text)) {pairs : List (Text × Text)}
    (h : (pairs.map (·.1)).Nodup) : ((calls.foldl keep pairs).map (·.1)).Nodup := by
  induction calls generalizing pairs with
  | nil => exact h
  | cons call calls ih => exact ih (nodup_names_keep h call)

/-- No name stands twice in a table. -/
lemma nodup_names_kept (calls : List (Text × Text)) : ((kept calls).map (·.1)).Nodup :=
  nodup_names_foldl_keep calls List.nodup_nil

/-! ### What is found for a name -/

/-- What is found for a name is the access of the first pair with it. -/
lemma find?_ofPairs (pairs : List (Text × Text)) (name : Text) :
    (ofPairs pairs).find? (.text name) = (pairs.find? (·.1 = name)).map (·.2) := by
  simp only [find?, ofPairs, List.find?_map, Option.map_map, Function.comp_def, entry,
    Value.sameKey]

/-- Among pairs with distinct names, the one that is found for a name is the one that has it. -/
lemma find?_name_eq_some_iff {pairs : List (Text × Text)} (hnodup : (pairs.map (·.1)).Nodup)
    {name : Text} {pair : Text × Text} :
    pairs.find? (·.1 = name) = some pair ↔ pair ∈ pairs ∧ pair.1 = name := by
  constructor
  · intro hfind
    exact ⟨List.mem_of_find?_eq_some hfind, by simpa using List.find?_some hfind⟩
  · rintro ⟨hpair, rfl⟩
    rcases hfind : pairs.find? (·.1 = pair.1) with _ | found
    · exact absurd (decide_eq_true rfl) (List.find?_eq_none.mp hfind pair hpair)
    · have hname : found.1 = pair.1 := by simpa using List.find?_some hfind
      rw [hfind, List.inj_on_of_nodup_map hnodup (List.mem_of_find?_eq_some hfind) hpair hname]

/-- A registration is found only if no pair before it has its name. -/
lemma find?_keep (pairs : List (Text × Text)) (call : Text × Text) (name : Text) :
    (keep pairs call).find? (·.1 = name) = (pairs ++ [call]).find? (·.1 = name) := by
  unfold keep
  split_ifs with hold
  · rw [List.find?_append]
    rcases hfind : pairs.find? (·.1 = name) with _ | pair
    · have hne : call.1 ≠ name := by
        rintro rfl
        obtain ⟨pair, hpair, hname⟩ := List.mem_map.mp hold
        exact List.find?_eq_none.mp hfind pair hpair (decide_eq_true hname)
      simp [hne]
    · simp [hfind]
  · rfl

/-- The first pair for a name stays the first one when only such pairs are kept. -/
lemma find?_foldl_keep (calls pairs : List (Text × Text)) (name : Text) :
    (calls.foldl keep pairs).find? (·.1 = name) = (pairs ++ calls).find? (·.1 = name) := by
  induction calls generalizing pairs with
  | nil => rw [List.foldl_nil, List.append_nil]
  | cons call calls ih =>
      rw [List.foldl_cons, ih, List.find?_append, find?_keep, ← List.find?_append, List.append_assoc,
        List.singleton_append]

/-- The first registration of a name counts. -/
lemma find?_kept (calls : List (Text × Text)) (name : Text) :
    (ofPairs (kept calls)).find? (.text name) = (calls.find? (·.1 = name)).map (·.2) := by
  rw [find?_ofPairs, kept, find?_foldl_keep, List.nil_append]

end MetalLowering.FieldTable
