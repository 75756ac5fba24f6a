import TrainingPortal.Credentials

/-!
# Tables of profiles

Credentials under names, in the order of the names, every name at most once. Insertion replaces the
credentials of a name that is there already.
-/

namespace TrainingPortal

/-- Names with credentials, in the order of the names. -/
structure ProfileTable where
  entries : List (String × Credentials)
  /-- The names ascend. -/
  sorted : entries.Pairwise (·.1 < ·.1)
  deriving DecidableEq

namespace ProfileTable

/-- The entries with new credentials for a name. -/
def insertEntry (name : String) (c : Credentials) :
    List (String × Credentials) → List (String × Credentials)
  | [] => [(name, c)]
  | entry :: rest =>
    if name < entry.1 then (name, c) :: entry :: rest
    else if name = entry.1 then (name, c) :: rest
    else entry :: insertEntry name c rest

theorem mem_insertEntry {name : String} {c : Credentials} {x : String × Credentials}
    {entries : List (String × Credentials)} (h : x ∈ insertEntry name c entries) :
    x = (name, c) ∨ x ∈ entries := by
  induction entries with
  | nil => simpa [insertEntry] using h
  | cons entry rest ih =>
    rw [insertEntry] at h
    split at h
    · simpa using h
    · split at h
      · rcases List.mem_cons.1 h with h | h
        · exact .inl h
        · exact .inr (List.mem_cons_of_mem _ h)
      · rcases List.mem_cons.1 h with h | h
        · exact .inr (h ▸ List.mem_cons_self)
        · exact (ih h).imp_right (List.mem_cons_of_mem _)

theorem pairwise_insertEntry (name : String) (c : Credentials)
    {entries : List (String × Credentials)} (h : entries.Pairwise (·.1 < ·.1)) :
    (insertEntry name c entries).Pairwise (·.1 < ·.1) := by
  induction entries with
  | nil => simp [insertEntry]
  | cons entry rest ih =>
    obtain ⟨below, tail⟩ := List.pairwise_cons.1 h
    rw [insertEntry]
    split
    case isTrue lt =>
      refine List.pairwise_cons.2 ⟨fun x hx => ?_, h⟩
      rcases List.mem_cons.1 hx with rfl | hx
      · exact lt
      · exact String.lt_trans lt (below x hx)
    case isFalse nlt =>
      split
      case isTrue eq => exact List.pairwise_cons.2 ⟨fun x hx => eq ▸ below x hx, tail⟩
      case isFalse ne =>
        refine List.pairwise_cons.2 ⟨fun x hx => ?_, ih tail⟩
        rcases mem_insertEntry hx with rfl | hx
        · refine Classical.byContradiction fun ngt => ne ?_
          exact String.le_antisymm (String.not_lt.1 ngt) (String.not_lt.1 nlt)
        · exact below x hx

/-- The table without entries. -/
def empty : ProfileTable := ⟨[], .nil⟩

instance : Inhabited ProfileTable := ⟨empty⟩

/-- The table with new credentials for a name. -/
def insert (t : ProfileTable) (name : String) (c : Credentials) : ProfileTable :=
  ⟨insertEntry name c t.entries, pairwise_insertEntry name c t.sorted⟩

/-- The table without a name. -/
def erase (t : ProfileTable) (name : String) : ProfileTable :=
  ⟨t.entries.filter (·.1 != name), t.sorted.filter _⟩

/-- The credentials of a name. -/
def get? (t : ProfileTable) (name : String) : Option Credentials := t.entries.lookup name

/-- The names, in order. -/
def names (t : ProfileTable) : List String := t.entries.map (·.1)

/-- Whether a name is in the table. -/
def contains (t : ProfileTable) (name : String) : Bool := (t.get? name).isSome

/-- The table of named credentials in any order; of several under one name the last counts. -/
def ofList (entries : List (String × Credentials)) : ProfileTable :=
  entries.foldl (fun t (name, c) => t.insert name c) empty

end ProfileTable

end TrainingPortal
