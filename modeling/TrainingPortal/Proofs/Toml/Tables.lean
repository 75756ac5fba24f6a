import Mathlib.Data.List.Nodup
import TrainingPortal.Toml.Basic

/-!
# Tables of a document

What becomes of bindings and sections whose names are new: bindings make up a table in the order in
which they stand (`bindAll_fresh`), a section adds such a table (`update_fresh`), and sections of
tables within one that none of them states add to that one (`foldlM_within`).
-/

namespace TrainingPortal.Toml

/-! ## New names -/

theorem lookup_of_not_mem {name : String} {members : Members} (h : name ∉ members.map (·.1)) :
    members.lookup name = none := by
  refine List.lookup_eq_none_iff.2 fun member hm => bne_iff_ne.2 ?_
  rintro rfl
  exact h (List.mem_map_of_mem hm)

theorem put_fresh {name : String} {members : Members} (h : name ∉ members.map (·.1))
    (value : Toml) : put name value members = members ++ [(name, value)] := by
  induction members with
  | nil => rfl
  | cons member members ih =>
    obtain ⟨apart, h⟩ := not_or.1 (List.mem_cons.not.1 h)
    rw [put, if_neg (Ne.symm apart), ih h, List.cons_append]

theorem put_last {name : String} {members : Members} (h : name ∉ members.map (·.1))
    (old value : Toml) :
    put name value (members ++ [(name, old)]) = members ++ [(name, value)] := by
  induction members with
  | nil => simp [put]
  | cons member members ih =>
    obtain ⟨apart, h⟩ := not_or.1 (List.mem_cons.not.1 h)
    rw [List.cons_append, put, if_neg (Ne.symm apart), ih h, List.cons_append]

theorem lookup_last {name : String} {members : Members} (h : name ∉ members.map (·.1))
    (value : Toml) : (members ++ [(name, value)]).lookup name = some value := by
  rw [List.lookup_append, lookup_of_not_mem h]
  simp

/-! ## Bindings -/

/-- Members as the bindings of single names. -/
def Members.bindings (members : Members) : List (List String × Toml) :=
  members.map fun (name, value) => ([name], value)

theorem bindAll_fresh {members new : Members} (h : ((members ++ new).map (·.1)).Nodup) :
    bindAll members new.bindings = some (members ++ new) := by
  induction new generalizing members with
  | nil => simp [bindAll, Members.bindings]
  | cons member new ih =>
    obtain ⟨name, value⟩ := member
    have apart : name ∉ members.map (·.1) := by
      rw [List.map_append, List.nodup_append'] at h
      exact fun mem => h.2.2 mem List.mem_cons_self
    have bound : bind members [name] value = some (members ++ [(name, value)]) := by
      rw [bind, lookup_of_not_mem apart, put_fresh apart]
      rfl
    have next : bindAll members (Members.bindings ((name, value) :: new)) =
        bindAll (members ++ [(name, value)]) (Members.bindings new) := by
      simp only [bindAll, Members.bindings, List.map_cons, List.foldlM_cons, bound,
        Option.bind_eq_bind, Option.bind_some]
    have shifted : members ++ [(name, value)] ++ new = members ++ (name, value) :: new := by simp
    rw [next, ih (by rwa [shifted]), shifted]

/-! ## Sections -/

/-- The table that a section of these members states. -/
def statedTable (members : Members) : Toml := table .stated members

theorem openTable_none {members : Members} (h : (members.map (·.1)).Nodup) :
    openTable members.bindings none = some (statedTable members) := by
  rw [openTable, bindAll_fresh (by simpa using h)]
  rfl

/-- A section with a new name. -/
theorem update_fresh {root members : Members} {name : String} (h : name ∉ root.map (·.1))
    (distinct : (members.map (·.1)).Nodup) :
    update (openTable members.bindings) root [name] =
      some (root ++ [(name, statedTable members)]) := by
  rw [update, lookup_of_not_mem h, openTable_none distinct, Option.map_some, put_fresh h]

variable {root : Members} {outer : String}

/-- The first section within a table. -/
theorem update_within_fresh {members : Members} (h : outer ∉ root.map (·.1)) (name : String)
    (distinct : (members.map (·.1)).Nodup) :
    update (openTable members.bindings) root [outer, name] =
      some (root ++ [(outer, table .implied [(name, statedTable members)])]) := by
  have inner := @update_fresh [] members name (by simp) distinct
  rw [update, lookup_of_not_mem h]
  simp only [inner, Option.map_some, put_fresh h, List.nil_append]

/-- A further section within a table. -/
theorem update_within {within members : Members} {name : String} (h : outer ∉ root.map (·.1))
    (new : name ∉ within.map (·.1)) (distinct : (members.map (·.1)).Nodup) :
    update (openTable members.bindings) (root ++ [(outer, table .implied within)]) [outer, name] =
      some (root ++ [(outer, table .implied (within ++ [(name, statedTable members)]))]) := by
  rw [update, lookup_last h]
  simp only [update_fresh new distinct, Option.map_some, put_last h]

/-- Sections within one table, each with a name of its own. -/
theorem foldlM_within (groups : List (String × Members)) (within : Members)
    (h : outer ∉ root.map (·.1)) (names : (within.map (·.1) ++ groups.map (·.1)).Nodup)
    (distinct : ∀ group ∈ groups, (group.2.map (·.1)).Nodup) :
    groups.foldlM (fun root group => update (openTable group.2.bindings) root [outer, group.1])
        (root ++ [(outer, table .implied within)]) =
      some (root ++ [(outer, table .implied
        (within ++ groups.map fun group => (group.1, statedTable group.2)))]) := by
  induction groups generalizing within with
  | nil => simp
  | cons group groups ih =>
    obtain ⟨first, distinct⟩ := List.forall_mem_cons.1 distinct
    have new : group.1 ∉ within.map (·.1) := fun mem =>
      (List.nodup_append'.1 names).2.2 mem List.mem_cons_self
    rw [List.foldlM_cons, update_within h new first, Option.bind_eq_bind, Option.bind_some,
      ih _ (by simpa using names) distinct]
    simp

end TrainingPortal.Toml
