import MetalLowering.Command.Job
import MetalLowering.Proofs.Checks

/-!
# Room for nested metadata

How deep metadata can be nested depends on who reads it. More room changes nothing for a document
that is read with less: the reader gives the same value or the same error, except where it ran out
of room (`Json.read_extends`). So two readers that both have room for the metadata of a job read the
same (`Job.Shallow.givenMetadata_eq`).
-/

namespace MetalLowering

namespace Json

/-! ### Outcomes that more room does not change -/

/-- The second outcome is the first one, unless the first one is that there is no room. -/
def Extends {α : Type} (r r' : Except ReadError α) : Prop :=
  (∀ container, r ≠ .error (.tooDeep container)) → r' = r

section outcomes

variable {α β : Type}

/-- An outcome extends itself. -/
lemma Extends.refl (r : Except ReadError α) : Extends r r := fun _ => rfl

/-- No outcome has to be matched where there is no room. -/
lemma extends_of_tooDeep (container : Container) (r : Except ReadError α) :
    Extends (.error (.tooDeep container)) r := by
  intro h
  exact absurd rfl (h container)

/-- What is made of a result extends with it. -/
lemma Extends.map {r r' : Except ReadError α} (h : Extends r r') (f : α → β) :
    Extends (r.map f) (r'.map f) := by
  intro hroom
  rw [h fun container hdeep => hroom container (by rw [hdeep]; rfl)]

/-- Two steps one after the other extend, if each of them does. -/
lemma Extends.bind {r r' : Except ReadError α} {k k' : α → Except ReadError β} (h : Extends r r')
    (h' : ∀ a, Extends (k a) (k' a)) : Extends (r >>= k) (r' >>= k') := by
  intro hroom
  rw [h fun container hdeep => hroom container (by rw [hdeep]; rfl)]
  cases r with
  | error e => rfl
  | ok a => exact h' a hroom

end outcomes

/-! ### The reader -/

section reader

variable {standIn : Nat → Char} {steps : Nat}

/-- More room extends what is read as items, if it does so for one value. -/
lemma readItems_extends {room more : Nat}
    (hvalue : ∀ t, Extends (readValue standIn steps room t)
      (readValue standIn steps (room + more) t))
    (hitems : ∀ t, Extends (readItems standIn steps room t)
      (readItems standIn steps (room + more) t))
    (t : Text) :
    Extends (readItems standIn (steps + 1) room t)
      (readItems standIn (steps + 1) (room + more) t) := by
  simp only [readItems]
  refine (hvalue t).bind fun (item, rest) => ?_
  dsimp only
  split
  next => exact (hitems _).bind fun _ => .refl _
  next => exact .refl _
  next => exact .refl _

/-- More room extends what is read as members, if it does so for one value. -/
lemma readMembers_extends {room more : Nat}
    (hvalue : ∀ t, Extends (readValue standIn steps room t)
      (readValue standIn steps (room + more) t))
    (hmembers : ∀ before t, Extends (readMembers standIn steps room before t)
      (readMembers standIn steps (room + more) before t))
    (before : List (Text × Value)) (t : Text) :
    Extends (readMembers standIn (steps + 1) room before t)
      (readMembers standIn (steps + 1) (room + more) before t) := by
  simp only [readMembers]
  split
  next t =>
    refine (Extends.refl _).bind fun (key, rest) => ?_
    dsimp only
    split
    next rest =>
      refine (hvalue _).bind fun (value, rest) => ?_
      dsimp only
      split
      next => exact hmembers _ _
      next => exact .refl _
      next => exact .refl _
    next => exact .refl _
  next => exact .refl _

/-- More room extends what is read as a value, if it does so one step deeper. -/
lemma readValue_extends
    (hitems : ∀ room more t, Extends (readItems standIn steps room t)
      (readItems standIn steps (room + more) t))
    (hmembers : ∀ room more before t, Extends (readMembers standIn steps room before t)
      (readMembers standIn steps (room + more) before t))
    (room more : Nat) (t : Text) :
    Extends (readValue standIn (steps + 1) room t)
      (readValue standIn (steps + 1) (room + more) t) := by
  simp only [readValue]
  split
  next => exact .refl _
  next t =>
    cases room with
    | zero => exact extends_of_tooDeep _ _
    | succ room =>
        rw [Nat.add_right_comm]
        split
        next => contradiction
        next hclose _ =>
          rw [hclose]
          exact .refl _
        next room' hroom _ =>
          obtain rfl := Nat.succ.inj hroom
          exact (hitems _ _ _).map _
  next t =>
    cases room with
    | zero => exact extends_of_tooDeep _ _
    | succ room =>
        rw [Nat.add_right_comm]
        split
        next => contradiction
        next hclose _ =>
          rw [hclose]
          exact .refl _
        next room' hroom _ =>
          obtain rfl := Nat.succ.inj hroom
          exact (hmembers _ _ _ _).map _
  next => exact .refl _

/-- More room extends whatever is read. -/
lemma readValue_extends_all (steps : Nat) :
    (∀ room more t, Extends (readValue standIn steps room t)
        (readValue standIn steps (room + more) t)) ∧
      (∀ room more t, Extends (readItems standIn steps room t)
        (readItems standIn steps (room + more) t)) ∧
      ∀ room more before t, Extends (readMembers standIn steps room before t)
        (readMembers standIn steps (room + more) before t) := by
  induction steps with
  | zero => exact ⟨fun _ _ _ => .refl _, fun _ _ _ => .refl _, fun _ _ _ _ => .refl _⟩
  | succ steps ih =>
      obtain ⟨hvalue, hitems, hmembers⟩ := ih
      refine ⟨readValue_extends hitems hmembers, fun room more => ?_, fun room more => ?_⟩
      · exact readItems_extends (hvalue room more) (hitems room more)
      · exact readMembers_extends (hvalue room more) (hmembers room more)

/-- A document that is read with some room reads the same with more. -/
lemma read_extends {room room' : Nat} (h : room ≤ room') (document : Text) :
    Extends (read standIn room document) (read standIn room' document) := by
  obtain ⟨more, rfl⟩ := Nat.exists_eq_add_of_le h
  exact ((readValue_extends_all _).1 _ _ _).bind fun _ => .refl _

end reader

end Json

namespace Job

variable {job : Job} {room room' : Nat} {read : Reader}

/-- There is room for the metadata of a job. -/
def Shallow (job : Job) (room : Nat) (read : Reader) : Prop :=
  ∀ container, job.givenMetadata room read ≠ .error (.document (.tooDeep container))

/-- Metadata of a file is too deep only if its document is. -/
lemma metadataOf_eq_tooDeep {file : Path} {r : Except Json.ReadError Json.Value}
    {container : Json.Container} :
    metadataOf file r = .error (.document (.tooDeep container)) ↔
      r = .error (.tooDeep container) := by
  rcases r with e | document
  · simp [metadataOf]
  · refine iff_of_false ?_ nofun
    simp only [metadataOf]
    split <;> simp

/-- With more room, metadata that there is room for is the same. -/
lemma Shallow.givenMetadata_of_le (hshallow : job.Shallow room read) (h : room ≤ room') :
    job.givenMetadata room' read = job.givenMetadata room read := by
  rcases hmetadata : job.metadata with _ | file
  · simp only [givenMetadata, hmetadata]
  simp only [Shallow, givenMetadata, hmetadata, readMetadata] at hshallow ⊢
  rcases htext : readText read file with e | text
  · rfl
  · rw [htext] at hshallow
    refine congrArg (metadataOf file) (Json.read_extends h text fun container hdeep => ?_)
    exact hshallow container (metadataOf_eq_tooDeep.mpr hdeep)

/-- Whoever has room for the metadata reads the same. -/
lemma Shallow.givenMetadata_eq (h : job.Shallow room read) (h' : job.Shallow room' read) :
    job.givenMetadata room read = job.givenMetadata room' read := by
  rcases Nat.le_total room room' with hle | hle
  · exact (h.givenMetadata_of_le hle).symm
  · exact h'.givenMetadata_of_le hle

end Job

end MetalLowering
