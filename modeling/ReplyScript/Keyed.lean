/-! # Keyed lists

Lists of keys with their values. Looking up a key gives its first value.
-/

namespace ReplyScript.Keyed

variable {κ α : Type} [DecidableEq κ]

/-- Replace the value of a key, or add one at the end. -/
def put (key : κ) (value : α) : List (κ × α) → List (κ × α)
  | [] => [(key, value)]
  | (k, old) :: rest => if k = key then (k, value) :: rest else (k, old) :: put key value rest

theorem lookup_put [BEq κ] [LawfulBEq κ] (key : κ) (value : α) (entries : List (κ × α)) (k : κ) :
    (put key value entries).lookup k = if k = key then some value else entries.lookup k := by
  induction entries with
  | nil =>
      simp only [put, List.lookup_cons, List.lookup_nil]
      split <;> simp_all
  | cons head rest ih =>
      obtain ⟨first, old⟩ := head
      simp only [put]
      split
      · rename_i same
        subst same
        simp only [List.lookup_cons]
        split <;> simp_all
      · simp only [List.lookup_cons, ih]
        split <;> simp_all

theorem put_put (key : κ) (first second : α) (entries : List (κ × α)) :
    put key second (put key first entries) = put key second entries := by
  induction entries with
  | nil => simp only [put, if_true]
  | cons head rest ih =>
      obtain ⟨k, old⟩ := head
      simp only [put]
      split
      · simp_all [put]
      · simp_all [put]

end ReplyScript.Keyed
