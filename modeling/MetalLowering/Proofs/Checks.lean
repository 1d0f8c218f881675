import Mathlib.Tactic.Common
import MetalLowering.Log

/-!
# Checks that stop at the first fault

A computation that can fail is described by when it succeeds and by which failure it ends with
otherwise (`Decides`). Both are carried through sequencing (`Decides.bind`): the second step is
reached only where the first one holds. For a scan of a list the failure is that of the first
element which is not good, at its place in the list (`FirstFault`, `Decides.scan_cons`).
-/

namespace MetalLowering

variable {ε α β : Type}

/-- A sequence succeeds exactly if its steps do, one after the other. -/
lemma bind_eq_ok {x : Except ε α} {f : α → Except ε β} {b : β} :
    x >>= f = .ok b ↔ ∃ a, x = .ok a ∧ f a = .ok b := by
  cases x <;> simp [bind, Except.bind]

/-- A sequence fails with its first step, or with its second on the result of the first. -/
lemma bind_eq_error {x : Except ε α} {f : α → Except ε β} {e : ε} :
    x >>= f = .error e ↔ x = .error e ∨ ∃ a, x = .ok a ∧ f a = .error e := by
  cases x <;> simp [bind, Except.bind]

/-- What follows a success goes on with its result. -/
@[simp] lemma ok_bind (a : α) (f : α → Except ε β) : (Except.ok a).bind f = f a := rfl

/-- Steps that give back what they are made from give back a list of it. -/
lemma mapM_map_ok {f : β → Except ε α} {g : α → β} (h : ∀ a, f (g a) = .ok a) (l : List α) :
    (l.map g).mapM f = .ok l := by
  induction l with
  | nil => rfl
  | cons a l ih =>
      rw [List.map_cons, List.mapM_cons, h, ih]
      rfl

/-- What steps give is given by one of them. -/
lemma mem_of_mapM_eq_ok {f : α → Except ε β} {xs : List α} {ys : List β} (h : xs.mapM f = .ok ys)
    {y : β} (hy : y ∈ ys) : ∃ x ∈ xs, f x = .ok y := by
  induction xs generalizing ys with
  | nil =>
      obtain rfl := Except.ok.inj h
      cases hy
  | cons x xs ih =>
      rw [List.mapM_cons] at h
      obtain ⟨first, hfirst, h⟩ := bind_eq_ok.mp h
      obtain ⟨rest, hrest, h⟩ := bind_eq_ok.mp h
      obtain rfl := Except.ok.inj h
      rcases List.mem_cons.mp hy with rfl | hy
      · exact ⟨x, List.mem_cons_self, hfirst⟩
      · obtain ⟨x', hx', hf⟩ := ih hrest hy
        exact ⟨x', List.mem_cons_of_mem x hx', hf⟩

/-- Steps that succeed give something for each of the elements. -/
lemma exists_mem_of_mapM_eq_ok {f : α → Except ε β} {xs : List α} {ys : List β}
    (h : xs.mapM f = .ok ys) {x : α} (hx : x ∈ xs) : ∃ y ∈ ys, f x = .ok y := by
  induction xs generalizing ys with
  | nil => cases hx
  | cons first xs ih =>
      rw [List.mapM_cons] at h
      obtain ⟨y, hy, h⟩ := bind_eq_ok.mp h
      obtain ⟨rest, hrest, h⟩ := bind_eq_ok.mp h
      obtain rfl := Except.ok.inj h
      rcases List.mem_cons.mp hx with rfl | hx
      · exact ⟨y, List.mem_cons_self, hy⟩
      · obtain ⟨y', hy', hf⟩ := ih hrest hx
        exact ⟨y', List.mem_cons_of_mem y hy', hf⟩

/-- Steps that give the same wherever the first ones give something. -/
lemma mapM_eq_ok_of_imp {f g : α → Except ε β} {xs : List α} {ys : List β}
    (h : ∀ x ∈ xs, ∀ y, f x = .ok y → g x = .ok y) (hf : xs.mapM f = .ok ys) :
    xs.mapM g = .ok ys := by
  induction xs generalizing ys with
  | nil => exact hf
  | cons x xs ih =>
      obtain ⟨hx, hxs⟩ := List.forall_mem_cons.mp h
      rw [List.mapM_cons] at hf ⊢
      obtain ⟨first, hfirst, hf⟩ := bind_eq_ok.mp hf
      obtain ⟨rest, hrest, hf⟩ := bind_eq_ok.mp hf
      rw [hx first hfirst, ih hxs hrest]
      exact hf

/-- Noting something succeeds. -/
@[simp] lemma Traced.result_note (level : Level) (message : Text) :
    (Traced.note level message : Traced ε Unit).result = .ok () := rfl

/-- The outcome `r` is a success exactly if `holds`, and the failure `e` exactly if `fault e`. -/
structure Decides (r : Except ε α) (holds : Prop) (fault : ε → Prop) : Prop where
  /-- When the outcome is a success. -/
  ok_iff : (∃ a, r = .ok a) ↔ holds
  /-- Which failure it is otherwise. -/
  error_iff : ∀ e, r = .error e ↔ fault e

namespace Decides

/-- An outcome that is a success, whatever it is checked for. -/
lemma of_ok {r : Except ε α} {a : α} (h : r = .ok a) : Decides r True fun _ => False :=
  ⟨by simp [h], by simp [h]⟩

/-- An outcome that is a failure. -/
lemma of_error {r : Except ε α} {e : ε} (h : r = .error e) : Decides r False fun e' => e' = e :=
  ⟨by simp [h], fun e' => by rw [h, Except.error.injEq, eq_comm]⟩

/-- An outcome is a success exactly if it is no failure. -/
lemma of_error_iff {r : Except ε α} {holds : Prop} {fault : ε → Prop}
    (herror : ∀ e, r = .error e ↔ fault e) (hholds : holds ↔ ∀ e, ¬fault e) :
    Decides r holds fault := by
  refine ⟨?_, herror⟩
  rw [hholds]
  rcases hr : r with e | a
  · have hfault : fault e := (herror e).mp hr
    simp only [reduceCtorEq, exists_false, false_iff]
    intro hnone
    exact hnone e hfault
  · have hnone : ∀ e, ¬fault e := by
      intro e hfault
      have he := (herror e).mpr hfault
      rw [hr] at he
      cases he
    simp [hnone]

/-- The same check, in other words. -/
lemma congr {r : Except ε α} {holds holds' : Prop} {fault fault' : ε → Prop}
    (h : Decides r holds fault) (hholds : holds ↔ holds') (hfault : ∀ e, fault e ↔ fault' e) :
    Decides r holds' fault' :=
  ⟨h.ok_iff.trans hholds, fun e => (h.error_iff e).trans (hfault e)⟩

/-- What is made of a success does not matter. -/
lemma map {r : Except ε α} {holds : Prop} {fault : ε → Prop} (h : Decides r holds fault)
    (f : α → β) : Decides (r.bind fun a => .ok (f a)) holds fault := by
  refine ⟨?_, fun e => ?_⟩
  · rw [← h.ok_iff]
    cases r <;> simp [Except.bind]
  · rw [← h.error_iff]
    cases r <;> simp [Except.bind]

/-- Two checks in sequence: the second counts only where the first one holds. -/
lemma bind {r : Except ε α} {k : α → Except ε β} {holds holds' : Prop} {fault fault' : ε → Prop}
    (h : Decides r holds fault) (h' : ∀ a, r = .ok a → Decides (k a) holds' fault') :
    Decides (r.bind k) (holds ∧ holds') fun e => fault e ∨ holds ∧ fault' e := by
  rcases hr : r with e | a
  · have hfault : fault e := (h.error_iff e).mp hr
    have hnot : ¬holds := by
      intro hh
      obtain ⟨a, ha⟩ := h.ok_iff.mpr hh
      rw [hr] at ha
      cases ha
    have hunique : ∀ e', fault e' ↔ e = e' := by
      intro e'
      rw [← h.error_iff, hr, Except.error.injEq]
    refine ⟨by simp [Except.bind, hnot], fun e' => ?_⟩
    simp [Except.bind, hnot, hunique e']
  · have hholds : holds := h.ok_iff.mp ⟨a, hr⟩
    have hnot : ∀ e, ¬fault e := by
      intro e hf
      have he := (h.error_iff e).mpr hf
      rw [hr] at he
      cases he
    have hk := h' a hr
    refine ⟨?_, fun e => ?_⟩
    · simpa [Except.bind, hholds] using hk.ok_iff
    · simpa [Except.bind, hholds, hnot e] using hk.error_iff e

end Decides

/-- The fault of a scan: elements up to some place are good, and the element there has the fault
`e`. Elements are numbered from `first` on. -/
def FirstFault (good : α → Prop) (fault : Nat → α → ε → Prop) (first : Nat) (xs : List α) (e : ε) :
    Prop :=
  ∃ before x after, xs = before ++ x :: after ∧ (∀ y ∈ before, good y) ∧
    fault (first + before.length) x e

section scan

variable {good : α → Prop} {fault : Nat → α → ε → Prop}

/-- There is no fault in an empty list. -/
lemma not_firstFault_nil (first : Nat) (e : ε) : ¬FirstFault good fault first [] e := by
  rintro ⟨before, x, after, h, -⟩
  simp at h

/-- The first fault of a list is that of its first element, or, if this is good, the first one of
the rest. -/
lemma firstFault_cons_iff {first : Nat} {x : α} {xs : List α} {e : ε} :
    FirstFault good fault first (x :: xs) e ↔
      fault first x e ∨ good x ∧ FirstFault good fault (first + 1) xs e := by
  constructor
  · rintro ⟨_ | ⟨y, before⟩, z, after, h, hgood, hfault⟩
    · obtain ⟨rfl, rfl⟩ := List.cons_eq_cons.mp h
      exact Or.inl hfault
    · obtain ⟨rfl, rfl⟩ := List.cons_eq_cons.mp h
      refine Or.inr ⟨hgood x List.mem_cons_self, before, z, after, rfl,
        fun w hw => hgood w (List.mem_cons_of_mem x hw), ?_⟩
      rwa [List.length_cons, Nat.add_comm before.length, ← Nat.add_assoc] at hfault
  · rintro (hfault | ⟨hx, before, z, after, rfl, hgood, hfault⟩)
    · exact ⟨[], x, xs, rfl, by simp, hfault⟩
    · refine ⟨x :: before, z, after, rfl, List.forall_mem_cons.mpr ⟨hx, hgood⟩, ?_⟩
      rwa [List.length_cons, Nat.add_comm before.length, ← Nat.add_assoc]

/-- A scan of no elements succeeds. -/
lemma Decides.scan_nil {r : Except ε β} {b : β} (h : r = .ok b) (first : Nat) :
    Decides r (∀ x ∈ ([] : List α), good x) (FirstFault good fault first []) :=
  (Decides.of_ok h).congr (by simp) fun e => by simp [not_firstFault_nil]

/-- One step of a scan: the check of the first element, then the scan of the others. -/
lemma Decides.scan_cons {γ : Type} {r : Except ε β} {k : β → Except ε γ} {first : Nat} {x : α}
    {xs : List α} (h : Decides r (good x) (fault first x))
    (h' : ∀ b, r = .ok b →
      Decides (k b) (∀ y ∈ xs, good y) (FirstFault good fault (first + 1) xs)) :
    Decides (r.bind k) (∀ y ∈ x :: xs, good y) (FirstFault good fault first (x :: xs)) :=
  (h.bind h').congr List.forall_mem_cons.symm fun _ => firstFault_cons_iff.symm

/-- An element without a check of its own is passed over. -/
lemma Decides.scan_skip {r : Except ε β} {first : Nat} {x : α} {xs : List α} (hgood : good x)
    (hfault : ∀ e, ¬fault first x e)
    (h : Decides r (∀ y ∈ xs, good y) (FirstFault good fault (first + 1) xs)) :
    Decides r (∀ y ∈ x :: xs, good y) (FirstFault good fault first (x :: xs)) :=
  h.congr (by simp [hgood]) fun e => by simp [firstFault_cons_iff, hgood, hfault]

/-- A list whose elements are checked in order, without a number. -/
lemma Decides.mapM {good : α → Prop} {fault : α → ε → Prop} {f : α → Except ε β}
    (h : ∀ x, Decides (f x) (good x) (fault x)) (first : Nat) (xs : List α) :
    Decides (xs.mapM f) (∀ x ∈ xs, good x) (FirstFault good (fun _ => fault) first xs) := by
  induction xs generalizing first with
  | nil => exact .scan_nil rfl first
  | cons x xs ih =>
      rw [List.mapM_cons]
      exact .scan_cons (h x) fun b _ => (ih (first + 1)).map (b :: ·)

/-- Checks made one after the other stop at the first fault. -/
lemma Decides.forM {good : α → Prop} {fault : α → ε → Prop} {f : α → Except ε Unit}
    (h : ∀ x, Decides (f x) (good x) (fault x)) (first : Nat) (xs : List α) :
    Decides (xs.forM f) (∀ x ∈ xs, good x) (FirstFault good (fun _ => fault) first xs) := by
  induction xs generalizing first with
  | nil => exact .scan_nil rfl first
  | cons x xs ih =>
      change Decides ((f x).bind fun _ => xs.forM f) _ _
      exact .scan_cons (h x) fun _ _ => ih (first + 1)

end scan

end MetalLowering
