import Mathlib.Data.Option.Basic
import Mathlib.Tactic.SplitIfs
import TrainingPortal.Toml.Reader

/-!
# The range of integers in a document

Every integer in a document that can be read is one of 64 bits (`ranged_parse`), wherever it stands:
the readers of numbers refuse any other, and neither nesting nor dotted names nor sections make new
integers.
-/

namespace TrainingPortal

open Text

namespace Toml

/-- A value all of whose integers are of 64 bits. -/
inductive Ranged : Toml → Prop
  | text (s : String) : Ranged (.text s)
  | integer {n : Int} (h : isInt64 n = true) : Ranged (.integer n)
  | real (digits : String) : Ranged (.real digits)
  | boolean (b : Bool) : Ranged (.boolean b)
  | datetime (digits : String) : Ranged (.datetime digits)
  | array {items : List Toml} (h : ∀ item ∈ items, Ranged item) : Ranged (.array items)
  | closed {members : Members} (h : ∀ member ∈ members, Ranged member.2) :
    Ranged (.closed members)
  | table {origin : TableOrigin} {members : Members} (h : ∀ member ∈ members, Ranged member.2) :
    Ranged (.table origin members)
  | series {last : Members} {before : List Members} (hlast : ∀ member ∈ last, Ranged member.2)
    (hbefore : ∀ members ∈ before, ∀ member ∈ members, Ranged member.2) :
    Ranged (.series last before)

/-- Members all of whose integers are of 64 bits. -/
def Members.Ranged (members : Members) : Prop := ∀ member ∈ members, Toml.Ranged member.2

/-! ## Numbers -/

variable {cs rest : List Char} {v : Toml}

theorem ranged_readBased {base : Nat} (h : readBased base cs = some (v, rest)) : Ranged v := by
  simp only [readBased, Option.bind_eq_bind, Option.bind_eq_some_iff, Option.guard_eq_some'] at h
  obtain ⟨_, -, _, fits, h⟩ := h
  cases h
  exact .integer fits

theorem ranged_readInteger (h : readInteger cs = some (v, rest)) : Ranged v := by
  unfold readInteger at h
  split at h
  case h_1 => exact ranged_readBased h
  case h_2 => exact ranged_readBased h
  case h_3 => exact ranged_readBased h
  case h_4 =>
    simp only [Option.bind_eq_bind, Option.bind_eq_some_iff, Option.guard_eq_some'] at h
    obtain ⟨_, -, _, fits, h⟩ := h
    cases h
    exact .integer fits

theorem ranged_readReal (h : readReal cs = some (v, rest)) : Ranged v := by
  unfold readReal at h
  dsimp only at h
  cases word : (afterWord? "inf" (readSign cs).2).or (afterWord? "nan" (readSign cs).2) with
  | some after =>
    rw [word] at h
    cases h
    exact .real _
  | none =>
    rw [word] at h
    simp only [Option.bind_eq_bind, Option.bind_eq_some_iff] at h
    obtain ⟨_, -, _, -, _, -, _, -, _, -, h⟩ := h
    cases h
    exact .real _

theorem ranged_readDatetime (h : readDatetime cs = some (v, rest)) : Ranged v := by
  have dated {after : Option (List Char)}
      (h : (after.bind fun rest =>
        pure (datetime (String.ofList (cs.take (cs.length - rest.length))), rest)) =
          some (v, rest)) : Ranged v := by
    obtain ⟨_, -, h⟩ := Option.bind_eq_some_iff.1 h
    cases h
    exact .datetime _
  unfold readDatetime at h
  repeat' split at h
  all_goals exact dated h

theorem ranged_readNumber (h : readNumber cs = some (v, rest)) : Ranged v := by
  rw [readNumber, Option.or_eq_some_iff, Option.or_eq_some_iff] at h
  rcases h with (h | ⟨-, h⟩) | ⟨-, h⟩
  · exact ranged_readDatetime h
  · exact ranged_readReal h
  · exact ranged_readInteger h

/-! ## Tables -/

variable {members new : Members}

theorem Members.Ranged.lookup (h : members.Ranged) {name : String}
    (found : members.lookup name = some v) : Toml.Ranged v := by
  obtain ⟨before, after, rfl, -⟩ := List.lookup_eq_some_iff.1 found
  exact h _ (List.mem_append_right _ List.mem_cons_self)

theorem Members.Ranged.put (h : members.Ranged) (hv : Toml.Ranged v) (name : String) :
    Members.Ranged (Toml.put name v members) := by
  induction members with
  | nil => simpa [Members.Ranged, Toml.put] using hv
  | cons member members ih =>
    obtain ⟨first, others⟩ := List.forall_mem_cons.1 h
    rw [Toml.put]
    split_ifs
    · exact List.forall_mem_cons.2 ⟨hv, others⟩
    · exact List.forall_mem_cons.2 ⟨first, ih others⟩

theorem Members.Ranged.bind {path : List String} (h : members.Ranged) (hv : Toml.Ranged v)
    (bound : Toml.bind members path v = some new) : new.Ranged := by
  induction path generalizing members new with
  | nil => cases bound
  | cons name path ih =>
    cases path with
    | nil =>
      rw [Toml.bind] at bound
      split_ifs at bound
      exact Option.some.inj bound ▸ h.put hv name
    | cons next path =>
      rw [Toml.bind] at bound
      split at bound
      case h_1 =>
        obtain ⟨inner, inside, rfl⟩ := Option.map_eq_some_iff.1 bound
        exact h.put (.table (ih (List.forall_mem_nil _) inside)) name
      case h_2 origin inner found =>
        split_ifs at bound
        obtain ⟨inner', inside, rfl⟩ := Option.map_eq_some_iff.1 bound
        cases h.lookup found with
        | table hinner => exact h.put (.table (ih hinner inside)) name
      case h_3 last before found =>
        split_ifs at bound
        obtain ⟨last', inside, rfl⟩ := Option.map_eq_some_iff.1 bound
        cases h.lookup found with
        | series hlast hbefore => exact h.put (.series (ih hlast inside) hbefore) name
      case h_4 => cases bound

theorem Members.Ranged.bindAll {bindings : List (List String × Toml)} (h : members.Ranged)
    (hbindings : ∀ binding ∈ bindings, Toml.Ranged binding.2)
    (bound : Toml.bindAll members bindings = some new) : new.Ranged := by
  induction bindings generalizing members with
  | nil => exact Option.some.inj bound ▸ h
  | cons binding bindings ih =>
    obtain ⟨hbinding, hbindings⟩ := List.forall_mem_cons.1 hbindings
    rw [Toml.bindAll, List.foldlM_cons, Option.bind_eq_bind, Option.bind_eq_some_iff] at bound
    obtain ⟨_, first, others⟩ := bound
    exact ih (h.bind hbinding first) hbindings others

theorem Members.Ranged.update {f : Option Toml → Option Toml} {path : List String}
    (hf : ∀ before after, (∀ v, before = some v → Toml.Ranged v) → f before = some after →
      Toml.Ranged after)
    (h : members.Ranged) (updated : Toml.update f members path = some new) : new.Ranged := by
  induction path generalizing members new with
  | nil => cases updated
  | cons name path ih =>
    cases path with
    | nil =>
      rw [Toml.update] at updated
      obtain ⟨after, changed, rfl⟩ := Option.map_eq_some_iff.1 updated
      exact h.put (hf _ _ (fun v found => h.lookup found) changed) name
    | cons next path =>
      rw [Toml.update] at updated
      split at updated
      case h_1 =>
        obtain ⟨inner, inside, rfl⟩ := Option.map_eq_some_iff.1 updated
        exact h.put (.table (ih (List.forall_mem_nil _) inside)) name
      case h_2 origin inner found =>
        obtain ⟨inner', inside, rfl⟩ := Option.map_eq_some_iff.1 updated
        cases h.lookup found with
        | table hinner => exact h.put (.table (ih hinner inside)) name
      case h_3 last before found =>
        obtain ⟨last', inside, rfl⟩ := Option.map_eq_some_iff.1 updated
        cases h.lookup found with
        | series hlast hbefore => exact h.put (.series (ih hlast inside) hbefore) name
      case h_4 => cases updated

section

variable {bindings : List (List String × Toml)} {before : Option Toml} {after : Toml}

theorem ranged_openTable (hbindings : ∀ binding ∈ bindings, Ranged binding.2)
    (hbefore : ∀ v, before = some v → Ranged v) (h : openTable bindings before = some after) :
    Ranged after := by
  unfold openTable at h
  split at h
  case h_1 =>
    obtain ⟨_, bound, rfl⟩ := Option.map_eq_some_iff.1 h
    exact .table (Members.Ranged.bindAll (List.forall_mem_nil _) hbindings bound)
  case h_2 members =>
    obtain ⟨_, bound, rfl⟩ := Option.map_eq_some_iff.1 h
    cases hbefore _ rfl with
    | table hmembers => exact .table (Members.Ranged.bindAll hmembers hbindings bound)
  case h_3 => cases h

theorem ranged_extendSeries (hbindings : ∀ binding ∈ bindings, Ranged binding.2)
    (hbefore : ∀ v, before = some v → Ranged v) (h : extendSeries bindings before = some after) :
    Ranged after := by
  unfold extendSeries at h
  split at h
  case h_1 =>
    obtain ⟨_, bound, rfl⟩ := Option.map_eq_some_iff.1 h
    exact .series (Members.Ranged.bindAll (List.forall_mem_nil _) hbindings bound)
      (List.forall_mem_nil _)
  case h_2 last earlier =>
    obtain ⟨_, bound, rfl⟩ := Option.map_eq_some_iff.1 h
    cases hbefore _ rfl with
    | series hlast hearlier =>
      exact .series (Members.Ranged.bindAll (List.forall_mem_nil _) hbindings bound)
        (List.forall_mem_cons.2 ⟨hlast, hearlier⟩)
  case h_3 => cases h

theorem ranged_assemble {sections : List Section}
    (hbindings : ∀ binding ∈ bindings, Ranged binding.2)
    (hsections : ∀ s ∈ sections, ∀ binding ∈ s.bindings, Ranged binding.2)
    (h : assemble bindings sections = some new) : new.Ranged := by
  rw [assemble, Option.bind_eq_bind, Option.bind_eq_some_iff] at h
  obtain ⟨root, bound, h⟩ := h
  have hroot := Members.Ranged.bindAll (List.forall_mem_nil _) hbindings bound
  clear bound
  induction sections generalizing root with
  | nil => exact Option.some.inj h ▸ hroot
  | cons s sections ih =>
    obtain ⟨hs, hsections⟩ := List.forall_mem_cons.1 hsections
    rw [List.foldlM_cons, Option.bind_eq_bind, Option.bind_eq_some_iff] at h
    obtain ⟨root', updated, h⟩ := h
    refine ih hsections root' h (hroot.update (fun before after hbefore changed => ?_) updated)
    split_ifs at changed
    · exact ranged_extendSeries hs hbefore changed
    · exact ranged_openTable hs hbefore changed

end

/-! ## Reading -/

/-- What the readers of values, of items and of bindings read with this fuel is in range. -/
structure ReadsRanged (fuel : Nat) : Prop where
  value {depth : Nat} {cs rest : List Char} {v : Toml}
    (h : readValue fuel depth cs = some (v, rest)) : Ranged v
  items {depth : Nat} {cs rest : List Char} {items : List Toml}
    (h : readItems fuel depth cs = some (items, rest)) : ∀ item ∈ items, Ranged item
  bindings {depth : Nat} {cs rest : List Char} {bindings : List (List String × Toml)}
    (h : readBindings fuel depth cs = some (bindings, rest)) :
    ∀ binding ∈ bindings, Ranged binding.2

namespace ReadsRanged

variable {fuel depth : Nat}

theorem readValue_succ (reads : ReadsRanged fuel)
    (h : readValue (fuel + 1) depth cs = some (v, rest)) : Ranged v := by
  unfold readValue at h
  split at h
  case h_1 => cases h
  case h_2 =>
    split_ifs at h
    obtain ⟨⟨items, after⟩, read, h⟩ := Option.map_eq_some_iff.1 h
    cases h
    exact .array (reads.items read)
  case h_3 =>
    split_ifs at h
    split at h
    case h_1 =>
      cases h
      exact .closed (List.forall_mem_nil _)
    case h_2 =>
      simp only [Option.bind_eq_bind, Option.bind_eq_some_iff] at h
      obtain ⟨⟨bindings, after⟩, read, members, bound, h⟩ := h
      cases h
      exact .closed (Members.Ranged.bindAll (List.forall_mem_nil _) (reads.bindings read) bound)
  case h_4 =>
    split_ifs at h
    · obtain ⟨_, -, h⟩ := Option.map_eq_some_iff.1 h
      cases h
      exact .text _
    · obtain ⟨_, -, h⟩ := Option.map_eq_some_iff.1 h
      cases h
      exact .boolean _
    · obtain ⟨_, -, h⟩ := Option.map_eq_some_iff.1 h
      cases h
      exact .boolean _
    · exact ranged_readReal h
    · exact ranged_readNumber h

theorem readItems_succ (reads : ReadsRanged fuel) {items : List Toml}
    (h : readItems (fuel + 1) depth cs = some (items, rest)) : ∀ item ∈ items, Ranged item := by
  unfold readItems at h
  split at h
  case h_1 =>
    cases h
    exact List.forall_mem_nil _
  case h_2 =>
    obtain ⟨⟨item, after⟩, read, h⟩ := Option.bind_eq_some_iff.1 h
    dsimp only at h
    split at h
    case h_1 =>
      obtain ⟨⟨items', after'⟩, more, h⟩ := Option.bind_eq_some_iff.1 h
      cases h
      exact List.forall_mem_cons.2 ⟨reads.value read, reads.items more⟩
    case h_2 =>
      cases h
      exact List.forall_mem_singleton.2 (reads.value read)
    case h_3 => cases h

theorem readBindings_succ (reads : ReadsRanged fuel) {bindings : List (List String × Toml)}
    (h : readBindings (fuel + 1) depth cs = some (bindings, rest)) :
    ∀ binding ∈ bindings, Ranged binding.2 := by
  unfold readBindings at h
  obtain ⟨⟨path, after⟩, -, h⟩ := Option.bind_eq_some_iff.1 h
  dsimp only at h
  split at h
  case h_2 => cases h
  case h_1 =>
    obtain ⟨⟨value, after'⟩, read, h⟩ := Option.bind_eq_some_iff.1 h
    dsimp only at h
    split at h
    case h_1 =>
      obtain ⟨⟨bindings', after''⟩, more, h⟩ := Option.bind_eq_some_iff.1 h
      cases h
      exact List.forall_mem_cons.2 ⟨reads.value read, reads.bindings more⟩
    case h_2 =>
      cases h
      exact List.forall_mem_singleton.2 (reads.value read)
    case h_3 => cases h

end ReadsRanged

theorem readsRanged (fuel : Nat) : ReadsRanged fuel := by
  induction fuel with
  | zero => exact ⟨nofun, nofun, nofun⟩
  | succ fuel reads => exact ⟨reads.readValue_succ, reads.readItems_succ, reads.readBindings_succ⟩

/-- A line all of whose integers are of 64 bits. -/
def Line.Ranged : Line → Prop
  | .binding _ value => Toml.Ranged value
  | .heading _ _ => True

theorem ranged_readLine {line : Line} (h : readLine cs = some (line, rest)) : line.Ranged := by
  unfold readLine at h
  split at h
  all_goals simp only [Option.bind_eq_bind, Option.bind_eq_some_iff] at h
  case h_1 =>
    obtain ⟨_, -, _, -, _, -, h⟩ := h
    cases h
    trivial
  case h_2 =>
    obtain ⟨_, -, _, -, _, -, h⟩ := h
    cases h
    trivial
  case h_3 =>
    obtain ⟨_, -, _, -, ⟨value, after⟩, read, _, -, h⟩ := h
    cases h
    exact (readsRanged _).value read

theorem ranged_readLines {fuel : Nat} {lines : List Line} (h : readLines fuel cs = some lines) :
    ∀ line ∈ lines, line.Ranged := by
  induction fuel generalizing cs lines with
  | zero => cases h
  | succ fuel ih =>
    unfold readLines at h
    split at h
    case h_1 =>
      cases h
      exact List.forall_mem_nil _
    case h_2 =>
      split_ifs at h
      cases h
      exact List.forall_mem_nil _
    case h_3 =>
      simp only [Option.bind_eq_bind, Option.bind_eq_some_iff] at h
      obtain ⟨⟨line, after⟩, read, lines', more, h⟩ := h
      cases h
      exact List.forall_mem_cons.2 ⟨ranged_readLine read, ih more⟩

theorem ranged_sections {lines : List Line} (h : ∀ line ∈ lines, line.Ranged) :
    (∀ binding ∈ (sections lines).1, Ranged binding.2) ∧
      ∀ s ∈ (sections lines).2, ∀ binding ∈ s.bindings, Ranged binding.2 := by
  induction lines with
  | nil => exact ⟨List.forall_mem_nil _, List.forall_mem_nil _⟩
  | cons line lines ih =>
    obtain ⟨hline, hlines⟩ := List.forall_mem_cons.1 h
    obtain ⟨hbindings, hsections⟩ := ih hlines
    cases line with
    | binding path value => exact ⟨List.forall_mem_cons.2 ⟨hline, hbindings⟩, hsections⟩
    | heading path inSeries =>
      exact ⟨List.forall_mem_nil _, List.forall_mem_cons.2 ⟨hbindings, hsections⟩⟩

/-- **The integers of a document are of 64 bits.** -/
theorem ranged_parse {document : String} (h : parse? document = some members) :
    members.Ranged := by
  unfold parse? at h
  simp only [Option.bind_eq_bind, Option.bind_eq_some_iff] at h
  obtain ⟨lines, read, h⟩ := h
  obtain ⟨hbindings, hsections⟩ := ranged_sections (ranged_readLines read)
  exact ranged_assemble hbindings hsections h

/-! ## Views -/

theorem Ranged.of_members? (h : Ranged v) (view : v.members? = some members) :
    members.Ranged := by
  cases h with
  | closed h | table h =>
    cases view
    exact h
  | _ => cases view

theorem Ranged.of_items? {items : List Toml} (h : Ranged v) (view : v.items? = some items) :
    ∀ item ∈ items, Ranged item := by
  cases h with
  | array h =>
    cases view
    exact h
  | @series last before hlast hbefore =>
    cases view
    intro item mem
    obtain ⟨members, written, rfl⟩ := List.mem_map.1 mem
    rcases List.mem_cons.1 (List.mem_reverse.1 written) with rfl | earlier
    · exact .table hlast
    · exact .table (hbefore members earlier)
  | _ => cases view

end Toml

end TrainingPortal
