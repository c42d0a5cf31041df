/-
# JSON values

A value as it was written keeps the members of an object in order, repeated
keys included. `Json.canonical` is the value it stands for: members sorted by
key, of a repeated key the last one.

Key definitions: `Json`, `Json.Number`, `Json.canonical`, `Json.get?`.
Key theorems: `Json.find?_put`, `Json.find?_collect`.
-/

namespace SessionWatch

/-- A number: an integer of 64 bits, signed or not, or a double. -/
inductive Json.Number where
  | int (z : Int)
  | double (x : Float)

/-- A JSON value; the members of an object stand in the order of the text. -/
inductive Json where
  | null
  | bool (b : Bool)
  | number (n : Json.Number)
  | string (s : String)
  | array (items : List Json)
  | object (members : List (String × Json))

namespace Json

instance : Inhabited Json := ⟨.null⟩

/-- Integers from `0` to `uintMax` are unsigned words. -/
def uintMax : Nat := Nat.pow 2 64 - 1

/-- The first value under a key. -/
def find? {α : Type} (k : String) : List (String × α) → Option α
  | [] => none
  | (k', v) :: ms => if k' = k then some v else find? k ms

/-- Puts a value under a key, in the order of the keys, in the place of one that is there. -/
def put {α : Type} (k : String) (v : α) : List (String × α) → List (String × α)
  | [] => [(k, v)]
  | (k', v') :: ms =>
    if k' = k then (k, v) :: ms
    else if k < k' then (k, v) :: (k', v') :: ms
    else (k', v') :: put k v ms

/-- Puts members into an object one after the other, so that the last of a key stays. -/
def collect {α : Type} (ms : List (String × α)) : List (String × α) :=
  ms.foldl (fun acc m => put m.1 m.2 acc) []

theorem find?_put {α : Type} (k k' : String) (v : α) (ms : List (String × α)) :
    find? k' (put k v ms) = if k = k' then some v else find? k' ms := by
  induction ms with
  | nil => simp [put, find?]
  | cons m ms ih =>
    obtain ⟨a, w⟩ := m
    unfold put
    split
    · next h => subst h; simp only [find?]; split <;> rfl
    · next h =>
      split
      · simp only [find?]
      · simp only [find?, ih]
        by_cases hk : k = k'
        · subst hk; simp [h]
        · simp [hk]

theorem find?_foldl_put {α : Type} (k : String) (ms acc : List (String × α)) :
    find? k (ms.foldl (fun acc m => put m.1 m.2 acc) acc)
      = (find? k ms.reverse).orElse fun _ => find? k acc := by
  induction ms generalizing acc with
  | nil => rfl
  | cons m ms ih =>
    have append : ∀ (xs : List (String × α)),
        find? k (xs ++ [m]) = (find? k xs).orElse fun _ => if m.1 = k then some m.2 else none := by
      intro xs
      induction xs with
      | nil => rfl
      | cons x xs ihx =>
        by_cases h : x.1 = k
        · simp only [List.cons_append, find?, h, ↓reduceIte]; rfl
        · simp only [List.cons_append, find?, h, ↓reduceIte, ihx]
    rw [List.foldl_cons, ih, find?_put, List.reverse_cons, append]
    cases find? k ms.reverse with
    | some v => rfl
    | none => by_cases h : m.1 = k <;> simp only [h, ↓reduceIte] <;> rfl

/-- Of the members under one key the last one counts. -/
theorem find?_collect {α : Type} (k : String) (ms : List (String × α)) :
    find? k (collect ms) = find? k ms.reverse := by
  rw [collect, find?_foldl_put]
  cases find? k ms.reverse <;> rfl

mutual

/-- The value that a written value stands for. -/
def canonical : Json → Json
  | .array items => .array (canonicalItems [] items)
  | .object members => .object (canonicalMembers [] members)
  | v => v
termination_by structural v => v

/-- The items of a list, after those of `acc`, which are in reverse. -/
def canonicalItems (acc : List Json) : List Json → List Json
  | [] => acc.reverse
  | v :: vs => canonicalItems (canonical v :: acc) vs
termination_by structural vs => vs

/-- The members of an object, put into those of `acc`. -/
def canonicalMembers (acc : List (String × Json)) : List (String × Json) → List (String × Json)
  | [] => acc
  | (k, v) :: ms => canonicalMembers (put k (canonical v) acc) ms
termination_by structural ms => ms

end

theorem canonicalItems_eq (acc vs : List Json) :
    canonicalItems acc vs = acc.reverse ++ vs.map canonical := by
  induction vs generalizing acc with
  | nil => simp [canonicalItems]
  | cons v vs ih => simp [canonicalItems, ih]

theorem canonicalMembers_eq (acc ms : List (String × Json)) :
    canonicalMembers acc ms
      = (ms.map fun m => (m.1, canonical m.2)).foldl (fun acc m => put m.1 m.2 acc) acc := by
  induction ms generalizing acc with
  | nil => rfl
  | cons m ms ih => simp [canonicalMembers, ih]

@[simp] theorem canonical_array (vs : List Json) :
    canonical (.array vs) = .array (vs.map canonical) := by
  simp [canonical, canonicalItems_eq]

@[simp] theorem canonical_object (ms : List (String × Json)) :
    canonical (.object ms) = .object (collect (ms.map fun m => (m.1, canonical m.2))) := by
  simp [canonical, canonicalMembers_eq, collect]

/-- The value of a member of an object; nothing for other values. -/
def get? (k : String) : Json → Option Json
  | .object members => find? k members
  | _ => none

def string? : Json → Option String
  | .string s => some s
  | _ => none

/-- The text of a member of an object, if that is a text. -/
def getString? (k : String) (v : Json) : Option String := (v.get? k).bind string?

end Json

end SessionWatch
