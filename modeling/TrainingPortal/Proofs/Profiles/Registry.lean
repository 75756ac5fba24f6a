import Mathlib.Data.Finmap
import TrainingPortal.CommandLine.Invocation
import TrainingPortal.Proofs.Profiles.Store

/-!
# Profiles as a finite map

What the commands on profiles mean, without lists, orders or files: a registry maps names to
credentials, may have a current name and has settings. `Registry.step?` says what a command makes
of a registry and when it fails.

`Profiles.registry` is the registry that profiles stand for. It forgets nothing but the order of the
names (`Profiles.registry_injective`), and a change to profiles is the command that makes it, on
their registry (`Profiles.step?_of_allowed`, `Profiles.step?_of_refused`).
-/

namespace TrainingPortal

/-! ## Tables as finite maps -/

namespace ProfileTable

variable {name other : String} {c : Credentials}

theorem lookup_cons (entry : String × Credentials) (entries : List (String × Credentials)) :
    (entry :: entries).lookup name =
      if name = entry.1 then some entry.2 else entries.lookup name := by
  rw [List.lookup_cons]
  by_cases same : name = entry.1
  · rw [if_pos same, beq_iff_eq.2 same]
  · rw [if_neg same, beq_eq_false_iff_ne.2 same]

theorem lookup_insertEntry (entries : List (String × Credentials)) :
    (insertEntry name c entries).lookup other =
      if other = name then some c else entries.lookup other := by
  induction entries with
  | nil => exact lookup_cons _ _
  | cons entry rest ih =>
    rw [insertEntry]
    by_cases before : name < entry.1
    · rw [if_pos before, lookup_cons]
    · rw [if_neg before]
      by_cases here : name = entry.1
      · rw [if_pos here, lookup_cons, lookup_cons, ← here]
        split_ifs <;> rfl
      · rw [if_neg here, lookup_cons, lookup_cons, ih]
        split_ifs with first same
        · exact absurd (same.symm.trans first) here
        · rfl
        · rfl
        · rfl

theorem get?_insert (t : ProfileTable) :
    (t.insert name c).get? other = if other = name then some c else t.get? other :=
  lookup_insertEntry t.entries

theorem get?_erase (t : ProfileTable) :
    (t.erase name).get? other = if other = name then none else t.get? other := by
  have filtered (entries : List (String × Credentials)) :
      (entries.filter (·.1 != name)).lookup other =
        if other = name then none else entries.lookup other := by
    induction entries with
    | nil => exact (ite_self _).symm
    | cons entry rest ih =>
      by_cases here : entry.1 = name
      · rw [List.filter_cons_of_neg (by simpa using here), ih, lookup_cons, here]
        split_ifs <;> rfl
      · rw [List.filter_cons_of_pos (by simpa using here), lookup_cons, lookup_cons, ih]
        split_ifs with first same
        · exact absurd (first.symm.trans same) here
        · rfl
        · rfl
        · rfl
  exact filtered t.entries

/-- A table as a finite map. -/
def toFinmap (t : ProfileTable) : Finmap fun _ : String => Credentials :=
  AList.toFinmap ⟨t.entries.map fun (name, c) => ⟨name, c⟩, by
    have names := t.nodup_names
    rwa [List.NodupKeys, List.keys, List.map_map]⟩

theorem lookup_toFinmap (t : ProfileTable) (name : String) :
    t.toFinmap.lookup name = t.get? name := by
  have same (entries : List (String × Credentials)) :
      List.dlookup name (entries.map fun (name, c) => (⟨name, c⟩ : Sigma fun _ => Credentials)) =
        entries.lookup name := by
    induction entries with
    | nil => rfl
    | cons entry rest ih =>
      rw [List.map_cons, lookup_cons, ← ih]
      split_ifs with here
      · subst here
        exact List.dlookup_cons_eq _ _ _
      · exact List.dlookup_cons_ne _ _ here
  exact same t.entries

theorem mem_toFinmap {t : ProfileTable} : name ∈ t.toFinmap ↔ t.contains name = true := by
  rw [← Finmap.lookup_isSome, lookup_toFinmap, contains]

theorem toFinmap_injective : Function.Injective toFinmap := by
  intro t t' eq
  have perm : List.Perm
      (t.entries.map fun (name, c) => (⟨name, c⟩ : Sigma fun _ : String => Credentials))
      (t'.entries.map fun (name, c) => ⟨name, c⟩) :=
    Quotient.exact (congrArg Finmap.entries eq)
  have perm : t.entries.Perm t'.entries := by
    simpa [Function.comp_def] using perm.map fun entry => (entry.1, entry.2)
  have entries : t.entries = t'.entries :=
    perm.eq_of_pairwise (fun a b _ _ below above => absurd (String.lt_trans below above)
      (String.lt_irrefl _)) t.sorted t'.sorted
  cases t
  cases t'
  cases entries
  rfl

theorem toFinmap_insert (t : ProfileTable) (name : String) (c : Credentials) :
    (t.insert name c).toFinmap = t.toFinmap.insert name c := by
  refine Finmap.ext_lookup fun other => ?_
  rw [lookup_toFinmap, get?_insert]
  split_ifs with same
  · rw [same, Finmap.lookup_insert]
  · rw [Finmap.lookup_insert_of_ne _ same, lookup_toFinmap]

theorem toFinmap_erase (t : ProfileTable) (name : String) :
    (t.erase name).toFinmap = t.toFinmap.erase name := by
  refine Finmap.ext_lookup fun other => ?_
  rw [lookup_toFinmap, get?_erase]
  split_ifs with same
  · rw [same, Finmap.lookup_erase]
  · rw [Finmap.lookup_erase_ne same, lookup_toFinmap]

end ProfileTable

/-! ## Registries -/

/-- Credentials by name, of which one may be current. -/
structure Registry where
  portals : Finmap fun _ : String => Credentials
  current : Option String
  settings : Settings

/-- A command on profiles. -/
inductive ProfileCommand
  /-- Adds credentials, and perhaps makes them current. -/
  | add (name : String) (c : Credentials) (makeCurrent : Bool)
  | select (name : String)
  | remove (name : String)
  | list

/-- The command as the program is asked for it. -/
def ProfileCommand.action : ProfileCommand → Action
  | add name c makeCurrent => .add name c makeCurrent
  | select name => .select name
  | remove name => .remove name
  | list => .list

/-- The command that makes a change. -/
def ProfileStore.Edit.command : ProfileStore.Edit → ProfileCommand
  | add name c => .add name c false
  | select name => .select name
  | remove name => .remove name

namespace Registry

/-- What a command makes of a registry, unless it fails. -/
def step? (r : Registry) : ProfileCommand → Option Registry
  | .add name c makeCurrent =>
    match c.validate with
    | .error _ => none
    | .ok () =>
      some { r with
        portals := r.portals.insert name c
        current := if makeCurrent ∨ r.current = none then some name else r.current }
  | .select name => if name ∈ r.portals then some { r with current := some name } else none
  | .remove name =>
    if name ∈ r.portals then
      some { r with
        portals := r.portals.erase name
        current := if r.current = some name then none else r.current }
    else none
  | .list => some r

/-- Whether the current name is one of a profile, if there is one. -/
def Coherent (r : Registry) : Prop := ∀ name, r.current = some name → name ∈ r.portals

/-- Which commands of a sequence succeed, and the registry after them. A command that fails leaves
the registry as it is. -/
def applyAll (r : Registry) : List ProfileCommand → List Bool × Registry
  | [] => ([], r)
  | command :: rest =>
    let (successes, final) := ((r.step? command).getD r).applyAll rest
    ((r.step? command).isSome :: successes, final)

variable {r r' : Registry} {command : ProfileCommand}

theorem settings_of_step? (h : r.step? command = some r') : r'.settings = r.settings := by
  cases command with
  | add name c makeCurrent =>
    rw [step?] at h
    split at h
    · cases h
    · cases h
      rfl
  | select name =>
    obtain ⟨-, made⟩ := Option.ite_none_right_eq_some.1 h
    cases made
    rfl
  | remove name =>
    obtain ⟨-, made⟩ := Option.ite_none_right_eq_some.1 h
    cases made
    rfl
  | list =>
    cases h
    rfl

theorem Coherent.step? (coherent : r.Coherent) (h : r.step? command = some r') : r'.Coherent := by
  intro current eq
  cases command with
  | add name c makeCurrent =>
    rw [Registry.step?] at h
    split at h
    · cases h
    · cases h
      dsimp only at eq ⊢
      rw [Finmap.mem_insert]
      split_ifs at eq
      · exact .inl (Option.some.inj eq).symm
      · exact .inr (coherent current eq)
  | select name =>
    obtain ⟨known, made⟩ := Option.ite_none_right_eq_some.1 h
    cases made
    cases eq
    exact known
  | remove name =>
    obtain ⟨-, made⟩ := Option.ite_none_right_eq_some.1 h
    cases made
    obtain ⟨apart, eq⟩ := Option.ite_none_left_eq_some.1 eq
    exact Finmap.mem_erase.2 ⟨fun here => apart (here ▸ eq), coherent current eq⟩
  | list =>
    cases h
    exact coherent current eq

end Registry

/-! ## The registry of profiles -/

namespace Profiles

/-- The registry that profiles stand for. -/
def registry (p : Profiles) : Registry := ⟨p.portals.toFinmap, p.current, p.settings⟩

theorem registry_injective : Function.Injective registry := by
  rintro ⟨current, portals, settings⟩ ⟨current', portals', settings'⟩ eq
  obtain ⟨portalsEq, currentEq, settingsEq⟩ := Registry.mk.inj eq
  obtain rfl := ProfileTable.toFinmap_injective portalsEq
  cases currentEq
  cases settingsEq
  rfl

variable {p : Profiles} {edit : ProfileStore.Edit} {name : String} {c : Credentials}

/-- **A change that may be made is the command on the registry.** -/
theorem step?_of_allowed (allowed : edit.Allowed p) :
    p.registry.step? edit.command = some (edit.apply p).registry := by
  cases edit with
  | add name c =>
    have valid : c.validate = .ok () := allowed
    rw [ProfileStore.Edit.command, Registry.step?, valid, registry, registry,
      ProfileStore.Edit.apply, add, ProfileTable.toFinmap_insert]
    simp only [Bool.false_eq_true, false_or]
    cases p.current <;> rfl
  | select name => exact if_pos (ProfileTable.mem_toFinmap.2 allowed)
  | remove name =>
    rw [ProfileStore.Edit.command, Registry.step?, registry, registry, ProfileStore.Edit.apply,
      remove, ProfileTable.toFinmap_erase]
    exact if_pos (ProfileTable.mem_toFinmap.2 allowed)

theorem step?_of_refused (refused : ¬ edit.Allowed p) :
    p.registry.step? edit.command = none := by
  cases edit with
  | add name c =>
    cases invalid : c.validate with
    | ok u => exact absurd invalid refused
    | error e => rw [ProfileStore.Edit.command, Registry.step?, invalid]
  | select name | remove name => exact if_neg (mt ProfileTable.mem_toFinmap.1 refused)

/-- Adding credentials and making them current is one command. -/
theorem step?_of_valid (valid : c.validate = .ok ()) :
    p.registry.step? (.add name c true) = some ((p.add name c).select name).registry := by
  rw [Registry.step?, valid, registry, registry, select, add, ProfileTable.toFinmap_insert]
  simp only [true_or, if_true]

theorem step?_of_invalid (invalid : c.validate ≠ .ok ()) :
    p.registry.step? (.add name c true) = none := by
  cases validate : c.validate with
  | ok u => exact absurd validate invalid
  | error e => rw [Registry.step?, validate]

end Profiles

end TrainingPortal
