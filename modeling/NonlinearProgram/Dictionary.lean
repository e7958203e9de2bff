/-!
# Dictionaries

Lists of keys with values that keep the order in which keys first came. Writing to a key that is
there replaces its value in place.
-/

namespace NonlinearProgram

abbrev Dictionary (β : Type) := List (String × β)

namespace Dictionary

variable {β : Type}

def put (key : String) (value : β) : Dictionary β → Dictionary β
  | [] => [(key, value)]
  | (k, v) :: rest => if k = key then (key, value) :: rest else (k, v) :: put key value rest

def update (d : Dictionary β) (pairs : List (String × β)) : Dictionary β :=
  pairs.foldl (fun d p => put p.1 p.2 d) d

def ofPairs (pairs : List (String × β)) : Dictionary β := update [] pairs

def get? (d : Dictionary β) (key : String) : Option β := List.lookup key d

/-- The dictionary with its keys renamed; where keys become equal the later value counts. -/
def rename (d : Dictionary β) (name : String → String) : Dictionary β :=
  ofPairs (d.map fun p => (name p.1, p.2))

def without (d : Dictionary β) (keys : List String) : Dictionary β :=
  d.filter fun p => !keys.contains p.1

def keys (d : Dictionary β) : List String := d.map (·.1)

@[simp] theorem get?_nil (key : String) : get? ([] : Dictionary β) key = none := rfl

theorem get?_cons (key k : String) (v : β) (rest : Dictionary β) :
    get? ((k, v) :: rest) key = if key = k then some v else get? rest key := by
  change (match key == k with | true => some v | false => get? rest key) = _
  by_cases h : key = k
  · simp [h]
  · have : (key == k) = false := by simp [h]
    simp [this, h]

theorem get?_put (d : Dictionary β) (key k : String) (v : β) :
    get? (put key v d) k = if k = key then some v else get? d k := by
  induction d with
  | nil => simp [put, get?_cons]
  | cons p rest ih =>
    obtain ⟨k', v'⟩ := p
    unfold put
    split
    · rename_i same
      subst same
      simp only [get?_cons]
      split <;> rfl
    · simp only [get?_cons, ih]
      grind

end Dictionary

end NonlinearProgram
