import Mathlib.Tactic.Common
import MetalLowering.Program

/-!
# What a lowering notes

A lowering notes details and warnings, and nothing that is more important than that
(`notesOnly_lowerPair`). The entries of a sequence are those of its steps, so this is a statement
about each step (`NotesOnly.bind`).
-/

namespace MetalLowering

namespace Traced

variable {ε ε' α β : Type} {P Q : Entry → Prop}

/-- All that is noted on the way is of one sort. -/
def NotesOnly (P : Entry → Prop) (x : Traced ε α) : Prop := ∀ e ∈ x.log, P e

/-- A result alone notes nothing. -/
lemma notesOnly_pure (a : α) : NotesOnly P (pure a : Traced ε α) := by
  intro e he
  cases he

/-- An outcome alone notes nothing. -/
lemma notesOnly_ofExcept (r : Except ε α) : NotesOnly P (ofExcept r) := by
  intro e he
  cases he

/-- Noting an entry notes only that one. -/
lemma notesOnly_note {level : Level} {message : Text} (h : P ⟨level, message⟩) :
    NotesOnly P (note level message : Traced ε Unit) := by
  intro e he
  rwa [List.mem_singleton.mp he]

/-- Two steps note only what each of them does. -/
lemma NotesOnly.bind {x : Traced ε α} {f : α → Traced ε β} (hx : NotesOnly P x)
    (hf : ∀ a, NotesOnly P (f a)) : NotesOnly P (x >>= f) := by
  intro e he
  change e ∈ (andThen x f).log at he
  unfold andThen at he
  split at he
  next => exact hx e he
  next a _ =>
    rcases List.mem_append.mp he with hfirst | hsecond
    · exact hx e hfirst
    · exact hf a e hsecond

/-- What notes only entries of one kind notes only those of a wider one. -/
lemma NotesOnly.imp {x : Traced ε α} (h : NotesOnly P x) (hPQ : ∀ e, P e → Q e) : NotesOnly Q x :=
  fun e he => hPQ e (h e he)

/-- Giving a failure another form notes nothing. -/
lemma NotesOnly.mapError {x : Traced ε α} (h : NotesOnly P x) (f : ε → ε') :
    NotesOnly P (x.mapError f) := h

end Traced

open Traced (NotesOnly)

/-- An entry below the important ones: a detail or a warning. -/
def Entry.IsMinor (e : Entry) : Prop := e.level = .debug ∨ e.level = .warning

/-- A debug entry is minor. -/
lemma isMinor_debug (message : Text) : Entry.IsMinor ⟨.debug, message⟩ := Or.inl rfl

/-- Reading declarations notes minor entries only. -/
lemma Declaration.notesOnly_collectFrom (kind : DeclarationKind) (stage : Stage)
    (lineNumber ordinal : Nat) (lines : List Text) :
    NotesOnly Entry.IsMinor (collectFrom kind stage lineNumber ordinal lines) := by
  induction lines generalizing lineNumber ordinal with
  | nil => exact Traced.notesOnly_pure _
  | cons line rest ih =>
      unfold collectFrom
      split_ifs
      · refine (Traced.notesOnly_ofExcept _).bind fun d => ?_
        refine (Traced.notesOnly_note (isMinor_debug _)).bind fun _ => ?_
        exact (ih _ _).bind fun _ => Traced.notesOnly_pure _
      · exact ih _ _

/-- Reading samplers notes minor entries only. -/
lemma Sampler.notesOnly_collectFrom (lineNumber : Nat) (types : List (Text × Text))
    (lines : List Text) : NotesOnly Entry.IsMinor (collectFrom lineNumber types lines) := by
  induction lines generalizing lineNumber types with
  | nil => exact Traced.notesOnly_pure _
  | cons line rest ih =>
      unfold collectFrom
      split
      next => exact ih _ _
      next =>
        split_ifs
        · exact (Traced.notesOnly_note (isMinor_debug _)).bind fun _ => ih _ _
        · exact Traced.notesOnly_ofExcept _

/-- Putting out a struct notes minor entries only. -/
lemma Metal.Struct.notesOnly_emit {ε : Type} (s : Metal.Struct) :
    NotesOnly Entry.IsMinor (s.emit : Traced ε (List Text)) := by
  intro e he
  rw [List.mem_singleton.mp he]
  exact isMinor_debug _

/-- A registration notes minor entries only. -/
lemma FieldTable.notesOnly_registerTraced (table : FieldTable) (name : Json.Value) (access : Text) :
    NotesOnly Entry.IsMinor (table.registerTraced name access) := by
  unfold registerTraced warnings
  split_ifs
  · intro e he
    dsimp only at he
    split at he
    next =>
      split_ifs at he
      · cases he
      · rw [List.mem_singleton.mp he]
        exact Or.inr rfl
    next => cases he
  · exact Traced.notesOnly_ofExcept _

/-- Making a table notes minor entries only. -/
lemma FieldTable.notesOnly_build (table : FieldTable) (entries : List (Json.Value × Text)) :
    NotesOnly Entry.IsMinor (build table entries) := by
  induction entries generalizing table with
  | nil => exact Traced.notesOnly_pure _
  | cons entry entries ih => exact (notesOnly_registerTraced table _ _).bind fun _ => ih _

/-- Lowering a source notes minor entries only. -/
lemma Lowering.notesOnly_run (s : Lowering) (source : Text) :
    NotesOnly Entry.IsMinor (s.run source) := by
  intro e he
  change e ∈ s.entryNotes source at he
  unfold entryNotes at he
  split_ifs at he
  · rw [List.mem_singleton.mp he]
    exact isMinor_debug _
  · cases he

/-- A lowering notes details and warnings only. -/
lemma notesOnly_lowerPair (fragment vertex : Text) (m : Metadata) (defines : List Text) :
    NotesOnly Entry.IsMinor (lowerPair fragment vertex m defines) := by
  unfold lowerPair
  refine (Traced.notesOnly_ofExcept _).bind fun _ => ?_
  refine (Declaration.notesOnly_collectFrom _ _ _ _ _).bind fun attributes => ?_
  refine (Declaration.notesOnly_collectFrom _ _ _ _ _).bind fun varyings => ?_
  refine (Sampler.notesOnly_collectFrom _ _ _).bind fun samplers => ?_
  refine (Traced.notesOnly_note (isMinor_debug _)).bind fun _ => ?_
  refine (Traced.notesOnly_ofExcept _).bind fun uniforms => ?_
  refine (Metal.Struct.notesOnly_emit _).bind fun uniformLines => ?_
  refine (Metal.Struct.notesOnly_emit _).bind fun vertexLines => ?_
  refine (Metal.Struct.notesOnly_emit _).bind fun rasterizerLines => ?_
  refine ((FieldTable.notesOnly_build _ _).bind fun _ => Traced.notesOnly_pure _).bind
    fun vertexStage => ?_
  refine ((FieldTable.notesOnly_build _ _).bind fun _ =>
    (Traced.notesOnly_ofExcept _).bind fun _ => Traced.notesOnly_pure _).bind fun fragmentStage => ?_
  refine (Lowering.notesOnly_run _ _).bind fun vertexFunction => ?_
  exact (Lowering.notesOnly_run _ _).bind fun _ => Traced.notesOnly_pure _

end MetalLowering
