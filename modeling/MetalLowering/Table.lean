/-!
# Tables in order of first insertion

A table is a list of pairs whose keys are distinct. `put` replaces the value of a key in its place,
or adds the pair at the end.
-/

namespace MetalLowering.Table

variable {α β : Type} [DecidableEq α]

/-- The table with `value` under `key`. -/
def put (key : α) (value : β) : List (α × β) → List (α × β)
  | [] => [(key, value)]
  | (k, v) :: rest => if k = key then (k, value) :: rest else (k, v) :: put key value rest

/-- The value under a key. -/
def get? (key : α) : List (α × β) → Option β
  | [] => none
  | (k, v) :: rest => if k = key then some v else get? key rest

@[simp] theorem get?_put (key k : α) (value : β) (t : List (α × β)) :
    get? k (put key value t) = if key = k then some value else get? k t := by
  induction t with
  | nil => simp [put, get?]
  | cons p rest ih =>
    obtain ⟨k', v'⟩ := p
    by_cases h : k' = key
    · subst h
      by_cases hk : k' = k <;> simp [put, get?, hk]
    · by_cases hk : k' = k
      · subst hk
        simp [put, get?, h, Ne.symm h]
      · simp [put, get?, h, hk, ih]

end MetalLowering.Table
