import BlockScript.Fault

/-!
Type keywords and their spelling in a target. Each keyword has one entry; a new spelling replaces
the old one in its place.
-/
namespace BlockScript

namespace TypeTable

def put (keyword spelling : Text) : List (Text × Text) → List (Text × Text)
  | [] => [(keyword, spelling)]
  | e :: rest =>
      if e.1 = keyword then (keyword, spelling) :: rest else e :: put keyword spelling rest

theorem keys_put (keyword spelling : Text) (entries : List (Text × Text)) :
    (put keyword spelling entries).map (·.1) =
      if keyword ∈ entries.map (·.1) then entries.map (·.1)
      else entries.map (·.1) ++ [keyword] := by
  induction entries with
  | nil => simp [put]
  | cons e rest ih =>
    by_cases h : e.1 = keyword
    · simp [put, h]
    · have h' : ¬ keyword = e.1 := fun eq => h eq.symm
      simp only [put, if_neg h, List.map_cons, ih, List.mem_cons, h', false_or]
      split <;> simp

theorem nodup_keys_put {keyword : Text} (spelling : Text) {entries : List (Text × Text)}
    (h : (entries.map (·.1)).Nodup) : ((put keyword spelling entries).map (·.1)).Nodup := by
  rw [keys_put]
  split
  · exact h
  · rename_i new
    rw [List.nodup_append]
    refine ⟨h, by simp, ?_⟩
    intro a ha b hb eq
    simp only [List.mem_singleton] at hb
    exact new (hb ▸ eq ▸ ha)

theorem lookup_put (keyword spelling key : Text) (entries : List (Text × Text)) :
    (put keyword spelling entries).lookup key =
      if key = keyword then some spelling else entries.lookup key := by
  induction entries with
  | nil =>
    by_cases hk : key = keyword
    · simp [put, hk]
    · have hb : (key == keyword) = false := by simpa using hk
      simp [put, List.lookup_cons, hb, hk]
  | cons e rest ih =>
    obtain ⟨k, v⟩ := e
    by_cases h : k = keyword
    · subst h
      by_cases hk : key = k
      · simp [put, hk]
      · have hb : (key == k) = false := by simpa using hk
        simp [put, List.lookup_cons, hb, hk]
    · by_cases hk : key = k
      · subst hk
        simp [put, h]
      · have hb : (key == k) = false := by simpa using hk
        simp [put, h, List.lookup_cons, hb, ih]

end TypeTable

structure TypeTable where
  entries : List (Text × Text)
  nodup : (entries.map (·.1)).Nodup := by decide

namespace TypeTable

def empty : TypeTable := { entries := [] }

def insert (t : TypeTable) (keyword spelling : Text) : TypeTable :=
  ⟨put keyword spelling t.entries, nodup_keys_put spelling t.nodup⟩

/-- Lays further entries over the table; of two with one keyword the later stays. -/
def extend (t : TypeTable) (entries : List (Text × Text)) : TypeTable :=
  entries.foldl (fun t e => t.insert e.1 e.2) t

def ofList (entries : List (Text × Text)) : TypeTable := empty.extend entries

def get? (t : TypeTable) (keyword : Text) : Option Text := t.entries.lookup keyword
def contains (t : TypeTable) (keyword : Text) : Bool := (t.get? keyword).isSome

def resolve (t : TypeTable) (keyword : Text) : Except Cause Text :=
  match t.get? keyword with
  | some spelling => .ok spelling
  | none => .error (.unknownType keyword)

def size (t : TypeTable) : Nat := t.entries.length

def agrees (t u : TypeTable) : Bool :=
  t.size == u.size && t.entries.all fun e => u.get? e.1 == some e.2

def french : TypeTable where
  entries := [("int", "Entier"), ("float", "Réel"), ("string", "Chaîne de caractères"),
    ("bool", "Booléen"), ("char", "Caractère")]

def cpp : TypeTable where
  entries := [("int", "int"), ("float", "float"), ("string", "std::string"), ("bool", "bool"),
    ("char", "char")]

theorem get?_insert (t : TypeTable) (keyword spelling key : Text) :
    (t.insert keyword spelling).get? key = if key = keyword then some spelling else t.get? key :=
  lookup_put keyword spelling key t.entries

end TypeTable
end BlockScript
