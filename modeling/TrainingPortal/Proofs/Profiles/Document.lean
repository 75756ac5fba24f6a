import TrainingPortal.Profiles.Document
import TrainingPortal.Proofs.Toml.Lines
import TrainingPortal.Proofs.Toml.Range
import TrainingPortal.Proofs.Toml.Tables

/-!
# Profiles and their document

Reading the document of profiles gives the profiles back (`Profiles.ofDocument?_render`). The
document is a list of lines (`Profiles.writtenLines_parts`), the lines make up the members of a
table (`Profiles.assemble_sections`), and each part of the profiles is read from its member.
-/

namespace TrainingPortal

open Text Toml

/-! ## What the document holds -/

/-- Credentials as members. -/
def Credentials.members (c : Credentials) : Members :=
  [("url", .text c.url), ("client_id", .text c.clientId), ("client_secret", .text c.clientSecret),
    ("username", .text c.username), ("password", .text c.password)] ++
    if c.workshops.isEmpty then [] else [("workshops", .array (c.workshops.map .text))]

/-- Settings as members. -/
def Settings.members (s : Settings) : Members :=
  [("http_timeout_secs", .integer s.httpTimeout.toNat),
    ("connect_timeout_secs", .integer s.connectTimeout.toNat),
    ("activation_timeout_secs", .integer s.activationTimeout.toNat)]

/-- Whether the limits of calls are integers that a document can hold. -/
def Settings.Fits (s : Settings) : Prop :=
  s.httpTimeout.toNat < 2 ^ 63 ∧ s.connectTimeout.toNat < 2 ^ 63

instance (s : Settings) : Decidable s.Fits := inferInstanceAs (Decidable (_ ∧ _))

theorem Text.isInt64_natCast {n : Nat} : isInt64 n = true ↔ n < 2 ^ 63 := by
  simp only [isInt64, Bool.and_eq_true, decide_eq_true_eq]
  omega

namespace Profiles

/-- The members before the first section. -/
def selection (p : Profiles) : Members :=
  (p.current.map fun name => ("current_portal", .text name)).toList

/-- The section of one profile. -/
def portalSection (name : String) (c : Credentials) : Section :=
  ⟨["portals", name], false, Members.bindings c.members⟩

/-- The sections. -/
def sections (p : Profiles) : List Section :=
  (if p.portals.entries.isEmpty then [⟨["portals"], false, []⟩]
    else p.portals.entries.map fun (name, c) => portalSection name c) ++
    [⟨["settings"], false, Members.bindings p.settings.members⟩]

/-- The members of the document. -/
def members (p : Profiles) : Members :=
  p.selection ++ [("portals", .table (if p.portals.entries.isEmpty then .stated else .implied)
      (p.portals.entries.map fun (name, c) => (name, statedTable c.members))),
    ("settings", statedTable p.settings.members)]

end Profiles

/-! ## The lines of the document -/

namespace Toml

/-- Members as lines. -/
def Members.lines (members : Members) : List Line :=
  (Members.bindings members).map fun (path, value) => .binding path value

theorem writtenLines_cons {name : String} {value : Toml} {members : Members}
    {cs rest : List Char} (h : Written value cs) (hs : WrittenLines (Members.lines members) rest) :
    WrittenLines (Members.lines ((name, value) :: members)) (writeBinding name cs ++ rest) :=
  .cons (writtenLine_binding h name) hs

theorem writtenLines_last {name : String} {value : Toml} {cs : List Char} (h : Written value cs) :
    WrittenLines (Members.lines [(name, value)]) (writeBinding name cs) :=
  .single (writtenLine_binding h name)

theorem writtenLines_section {path : List String} {members : Members} {cs : List Char}
    (nonempty : path ≠ []) (h : path.length ≤ deepest)
    (hs : WrittenLines (Members.lines members) cs) :
    WrittenLines (Section.lines ⟨path, false, Members.bindings members⟩)
      (('[' :: writePath path ++ "]\n".toList) ++ cs) :=
  .cons (writtenLine_heading nonempty h) hs

end Toml

theorem Credentials.writtenLines_render (c : Credentials) :
    WrittenLines (Members.lines c.members) c.render := by
  simp only [render, members, List.append_assoc]
  refine writtenLines_cons (written_text _) (writtenLines_cons (written_text _)
    (writtenLines_cons (written_text _) (writtenLines_cons (written_text _)
      (writtenLines_cons (written_text _) ?_))))
  by_cases none : c.workshops.isEmpty
  · rw [if_pos none, if_pos none]
    exact .nil
  · rw [if_neg none, if_neg none]
    exact writtenLines_last (written_texts _)

namespace Profiles

theorem writtenLines_renderPortal (name : String) (c : Credentials) :
    WrittenLines (portalSection name c).lines (renderPortal name c) := by
  have heading : renderPortal name c =
      ('[' :: writePath ["portals", name] ++ "]\n".toList) ++ c.render := by
    have bare : writeName "portals" = "portals".toList := by decide +kernel
    delta renderPortal
    simp [writePath_cons, writePath_singleton, bare]
  rw [heading]
  exact writtenLines_section (List.cons_ne_nil _ _) (by simp [deepest]) c.writtenLines_render

theorem writtenLines_renderSettings {s : Settings} (fits : s.Fits) :
    WrittenLines (Section.lines ⟨["settings"], false, Members.bindings s.members⟩)
      (renderSettings s) := by
  have heading : renderSettings s = ('[' :: writePath ["settings"] ++ "]\n".toList) ++
      (writeBinding "http_timeout_secs" (decimal s.httpTimeout.toNat) ++
        (writeBinding "connect_timeout_secs" (decimal s.connectTimeout.toNat) ++
          writeBinding "activation_timeout_secs" (decimal s.activationTimeout.toNat))) := by
    have bare : writeName "settings" = "settings".toList := by decide +kernel
    delta renderSettings
    simp [writePath_singleton, bare]
  have small : s.activationTimeout.toNat < 2 ^ 63 :=
    Nat.lt_trans s.activationTimeout.toNat_lt (by decide)
  rw [heading]
  exact writtenLines_section (List.cons_ne_nil _ _) (by decide)
    (writtenLines_cons (written_decimal (isInt64_natCast.2 fits.1))
      (writtenLines_cons (written_decimal (isInt64_natCast.2 fits.2))
        (writtenLines_last (written_decimal (isInt64_natCast.2 small)))))

/-- The sections of the profiles, as lines and as they are written. -/
def portalPieces (p : Profiles) : List (List Line × List Char) :=
  if p.portals.entries.isEmpty then
    [(Section.lines ⟨["portals"], false, []⟩, '[' :: writePath ["portals"] ++ "]\n".toList)]
  else p.portals.entries.map fun (name, c) => ((portalSection name c).lines, renderPortal name c)

theorem writtenLines_portalPieces (p : Profiles) :
    ∀ piece ∈ p.portalPieces, WrittenLines piece.1 piece.2 := by
  unfold portalPieces
  split_ifs
  · rintro _ (_ | ⟨_, ⟨⟩⟩)
    exact .single (writtenLine_heading (List.cons_ne_nil _ _) (by simp [deepest]))
  · intro piece mem
    obtain ⟨⟨name, c⟩, -, rfl⟩ := List.mem_map.1 mem
    exact writtenLines_renderPortal name c

/-- The document is made of the lines of the selection and of the sections. -/
theorem writtenLines_parts {p : Profiles} (fits : p.settings.Fits) :
    WrittenLines (Members.lines p.selection ++ p.sections.flatMap Section.lines)
      (['\n'].intercalate p.parts) := by
  obtain ⟨pieces, eq⟩ : ∃ pieces : List (List Line × List Char), pieces =
      (p.current.map fun name => (Members.lines [("current_portal", .text name)],
        writeBinding "current_portal" (writeText name))).toList ++ p.portalPieces ++
        [(Section.lines ⟨["settings"], false, Members.bindings p.settings.members⟩,
          renderSettings p.settings)] := ⟨_, rfl⟩
  have chars : pieces.map (·.2) = p.parts := by
    have bare : "[portals]\n".toList = '[' :: writePath ["portals"] ++ "]\n".toList := by
      decide +kernel
    rw [eq, parts, portalPieces, bare]
    cases p.current <;> split_ifs <;> simp
  have lines : pieces.flatMap (·.1) =
      Members.lines p.selection ++ p.sections.flatMap Section.lines := by
    rw [eq, selection, sections, portalPieces]
    cases p.current <;> split_ifs <;> simp [Members.lines, Members.bindings, List.flatMap_map]
  rw [← chars, ← lines]
  refine WrittenLines.intercalate fun piece mem => ?_
  rw [eq, List.mem_append, List.mem_append] at mem
  rcases mem with (mem | mem) | mem
  · obtain ⟨name, -, rfl⟩ := Option.map_eq_some_iff.1 (Option.mem_toList.1 mem)
    exact writtenLines_last (written_text name)
  · exact p.writtenLines_portalPieces piece mem
  · obtain rfl := List.mem_singleton.1 mem
    exact writtenLines_renderSettings fits

end Profiles

/-! ## The members that the lines make up -/

theorem Credentials.nodup_members (c : Credentials) : (c.members.map (·.1)).Nodup := by
  unfold members
  split_ifs <;> simp

theorem Settings.nodup_members (s : Settings) : (s.members.map (·.1)).Nodup := by
  simp [members]

theorem ProfileTable.nodup_names (t : ProfileTable) : (t.entries.map (·.1)).Nodup := by
  refine List.pairwise_map.2 (t.sorted.imp fun {a b} lt => ?_)
  rintro eq
  exact String.lt_irrefl _ (eq ▸ lt)

namespace Profiles

theorem assemble_sections (p : Profiles) :
    assemble (Members.bindings p.selection) p.sections = some p.members := by
  have selected : bindAll [] (Members.bindings p.selection) = some p.selection := by
    have := @bindAll_fresh [] p.selection
    rw [List.nil_append] at this
    refine this ?_
    unfold selection
    cases p.current <;> simp
  have noPortals : "portals" ∉ p.selection.map (·.1) := by
    unfold selection
    cases p.current <;> simp
  have settings (portals : Toml) :
      update (openTable (Members.bindings p.settings.members))
          (p.selection ++ [("portals", portals)]) ["settings"] =
        some (p.selection ++
          [("portals", portals), ("settings", statedTable p.settings.members)]) := by
    rw [update_fresh ?_ p.settings.nodup_members, List.append_assoc]
    · rfl
    · unfold selection
      cases p.current <;> simp
  rw [assemble, selected, sections, members]
  simp only [Option.bind_eq_bind, Option.bind_some, List.foldlM_append]
  cases entries : p.portals.entries with
  | nil =>
    have opened : update (openTable []) p.selection ["portals"] =
        some (p.selection ++ [("portals", statedTable [])]) :=
      @update_fresh p.selection [] "portals" noPortals List.nodup_nil
    simp [opened, settings, statedTable]
  | cons first rest =>
    have names := p.portals.nodup_names
    rw [entries, List.map_cons] at names
    have opened := update_within_fresh noPortals first.1 first.2.nodup_members
    have filled := foldlM_within (rest.map fun (name, c) => (name, c.members))
      [(first.1, statedTable first.2.members)] noPortals
      (by simpa [Function.comp_def] using names) fun group mem => by
        obtain ⟨entry, -, rfl⟩ := List.mem_map.1 mem
        exact entry.2.nodup_members
    simp only [List.foldlM_map] at filled
    simp [portalSection, opened, filled, settings, List.foldlM_map]

end Profiles

/-! ## Reading the members -/

/-- What is read from every text of a list is read from the list. -/
theorem mapM_eq_some {α β : Type} (decode : β → Option α) (encode : α → β)
    (h : ∀ a, decode (encode a) = some a) (items : List α) :
    (items.map encode).mapM decode = some items := by
  induction items with
  | nil => rfl
  | cons a items ih => simp [List.mapM_cons, h, ih]

theorem Toml.toTexts?_texts (texts : List String) :
    toTexts? (array (texts.map text)) = some texts := by
  simpa [toTexts?, items?] using mapM_eq_some toText? text (fun _ => rfl) texts

theorem Credentials.ofToml?_members (c : Credentials) :
    Credentials.ofToml? (statedTable c.members) = some c := by
  have workshops : Toml.optional [] Toml.toTexts? (c.members.lookup "workshops") =
      some c.workshops := by
    unfold members
    split_ifs with none
    · simp [Toml.optional, List.lookup_cons, List.lookup_nil, List.isEmpty_iff.1 none]
    · simp [Toml.optional, List.lookup_cons, Toml.toTexts?_texts]
  have texts : fieldNames.map (fun name => c.members.lookup name) =
      [some (.text c.url), some (.text c.clientId), some (.text c.clientSecret),
        some (.text c.username), some (.text c.password), c.members.lookup "workshops"] := by
    simp [fieldNames, members, List.lookup_cons]
  simp only [ofToml?, Toml.fields?, statedTable, Toml.members?, texts, Option.bind_eq_bind,
    Option.bind_some, Toml.toText?, workshops]
  rfl

theorem Toml.optional_some {α : Type} (default : α) (decode : Toml → Option α) (value : Toml) :
    Toml.optional default decode (some value) = decode value := rfl

theorem Toml.toNat?_natCast {bound n : Nat} (h : n < bound) :
    Toml.toNat? bound (.integer n) = some n := by
  rw [toNat?, if_pos ⟨Int.natCast_nonneg n, Int.ofNat_lt.2 h⟩, Int.toNat_natCast]

theorem Toml.toUInt64?_toNat (n : UInt64) : Toml.toUInt64? (.integer n.toNat) = some n := by
  rw [toUInt64?, toNat?_natCast n.toNat_lt, Option.map_some, UInt64.ofNat_toNat]

theorem Toml.toUInt32?_toNat (n : UInt32) : Toml.toUInt32? (.integer n.toNat) = some n := by
  rw [toUInt32?, toNat?_natCast n.toNat_lt, Option.map_some, UInt32.ofNat_toNat]

theorem Settings.ofToml?_members (s : Settings) :
    Settings.ofToml? (statedTable s.members) = some s := by
  have fields : Toml.fields?
      ["http_timeout_secs", "connect_timeout_secs", "activation_timeout_secs"]
      (table .stated s.members) =
        some [some (.integer s.httpTimeout.toNat), some (.integer s.connectTimeout.toNat),
          some (.integer s.activationTimeout.toNat)] := by
    simp [Toml.fields?, Toml.members?, members, List.lookup_cons, List.lookup_nil]
  unfold Settings.ofToml? statedTable
  dsimp only
  rw [fields, Option.bind_eq_bind, Option.bind_some]
  dsimp only
  rw [Toml.optional_some, Toml.optional_some, Toml.optional_some, Toml.toUInt64?_toNat,
    Toml.toUInt64?_toNat, Toml.toUInt32?_toNat]
  rfl

namespace ProfileTable

theorem insertEntry_last {name : String} {entries : List (String × Credentials)}
    (h : ∀ entry ∈ entries, entry.1 < name) (c : Credentials) :
    insertEntry name c entries = entries ++ [(name, c)] := by
  induction entries with
  | nil => rfl
  | cons entry rest ih =>
    obtain ⟨below, h⟩ := List.forall_mem_cons.1 h
    have apart : name ≠ entry.1 := by
      rintro rfl
      exact String.lt_irrefl _ below
    rw [insertEntry, if_neg (fun above => String.lt_irrefl _ (String.lt_trans above below)),
      if_neg apart, ih h, List.cons_append]

/-- Entries that come in the order of their names are appended. -/
theorem entries_foldl (rest : List (String × Credentials)) (t : ProfileTable)
    (h : (t.entries ++ rest).Pairwise (·.1 < ·.1)) :
    (rest.foldl (fun t (name, c) => t.insert name c) t).entries = t.entries ++ rest := by
  induction rest generalizing t with
  | nil => simp
  | cons entry rest ih =>
    obtain ⟨name, c⟩ := entry
    have inserted : (t.insert name c).entries = t.entries ++ [(name, c)] :=
      insertEntry_last
        (fun entry mem => (List.pairwise_append.1 h).2.2 entry mem _ List.mem_cons_self) c
    have next := ih (t.insert name c) (by simpa [inserted] using h)
    simpa [inserted] using next

theorem ofList_entries (t : ProfileTable) : ofList t.entries = t := by
  have same := entries_foldl t.entries empty (by simpa [empty] using t.sorted)
  obtain ⟨entries, sorted⟩ := t
  simp only [ofList, empty, List.nil_append] at same ⊢
  generalize List.foldl _ _ entries = t' at same
  cases t'
  congr

theorem ofToml?_members (t : ProfileTable) (origin : TableOrigin) :
    ofToml? (.table origin (t.entries.map fun (name, c) => (name, statedTable c.members))) =
      some t := by
  have entries := mapM_eq_some
    (fun (name, value) => (Credentials.ofToml? value).map fun c => (name, c))
    (fun (name, c) => (name, statedTable c.members))
    (fun (name, c) => by simp [c.ofToml?_members]) t.entries
  simp only [ofToml?, Toml.members?, Option.bind_eq_bind, Option.bind_some, entries]
  rw [ofList_entries]
  rfl

end ProfileTable

namespace Profiles

/-- A document exists exactly if the limits fit. -/
theorem render?_isSome (p : Profiles) :
    (∃ document, p.render? = some document) ↔ p.settings.Fits := by
  rw [Settings.Fits, ← Text.isInt64_natCast, ← Text.isInt64_natCast, ← Bool.and_eq_true, render?]
  split_ifs with fits
  · exact ⟨fun _ => fits, fun _ => ⟨_, rfl⟩⟩
  · exact ⟨nofun, fun h => absurd h fits⟩

theorem render?_of_fits {p : Profiles} (fits : p.settings.Fits) :
    p.render? = some (String.ofList (['\n'].intercalate p.parts)) := by
  rw [render?, if_pos]
  rw [Bool.and_eq_true]
  exact ⟨Text.isInt64_natCast.2 fits.1, Text.isInt64_natCast.2 fits.2⟩

/-- **The document of profiles is read as these profiles.** -/
theorem ofDocument?_render {p : Profiles} {document : String} (h : p.render? = some document) :
    ofDocument? document = some p := by
  have fits := p.render?_isSome.1 ⟨document, h⟩
  have parsed : Toml.parse? document = some p.members := by
    obtain rfl := Option.some.inj ((render?_of_fits fits).symm.trans h)
    exact (parse_eq_assemble (writtenLines_parts fits)).trans p.assemble_sections
  have current : Toml.optional none (fun v => v.toText?.map some)
      (p.members.lookup "current_portal") = some p.current := by
    unfold members selection
    cases p.current <;> simp [List.lookup_cons, List.lookup_nil, Toml.optional, Toml.toText?]
  have portals : Toml.optional .empty ProfileTable.ofToml? (p.members.lookup "portals") =
      some p.portals := by
    have found : p.members.lookup "portals" =
        some (.table (if p.portals.entries.isEmpty then .stated else .implied)
          (p.portals.entries.map fun (name, c) => (name, statedTable c.members))) := by
      unfold members selection
      cases p.current <;> simp [List.lookup_cons]
    rw [found, Toml.optional_some, ProfileTable.ofToml?_members]
  have settings : Toml.optional {} Settings.ofToml? (p.members.lookup "settings") =
      some p.settings := by
    have found : p.members.lookup "settings" = some (statedTable p.settings.members) := by
      unfold members selection
      cases p.current <;> simp [List.lookup_cons]
    rw [found, Toml.optional_some, Settings.ofToml?_members]
  rw [ofDocument?, parsed, Option.bind_eq_bind, Option.bind_some, current, portals, settings]
  rfl

end Profiles

/-! ## Limits that were read -/

section

variable {v : Toml}

theorem Toml.Ranged.of_fields? {names : List String} {fields : List (Option Toml)} (h : Ranged v)
    (given : Toml.fields? names v = some fields) {value : Toml} (mem : some value ∈ fields) :
    Ranged value := by
  unfold Toml.fields? at given
  cases view : v.members? with
  | some members =>
    rw [view] at given
    cases given
    obtain ⟨name, -, found⟩ := List.mem_map.1 mem
    exact (h.of_members? view).lookup found
  | none =>
    rw [view] at given
    obtain ⟨items, view, rfl⟩ := Option.map_eq_some_iff.1 given
    obtain ⟨⟨name, i⟩, -, found⟩ := List.mem_map.1 mem
    exact h.of_items? view value (List.mem_of_getElem? found)

theorem Toml.lt_of_toUInt64? {n : UInt64} (h : Ranged v) (read : v.toUInt64? = some n) :
    n.toNat < 2 ^ 63 := by
  obtain ⟨m, natural, rfl⟩ := Option.map_eq_some_iff.1 read
  cases h with
  | integer fits =>
    rw [toNat?] at natural
    split_ifs at natural with bounded
    cases natural
    simp only [isInt64, Bool.and_eq_true, decide_eq_true_eq] at fits
    rw [UInt64.toNat_ofNat']
    omega
  | _ => cases natural

theorem Toml.lt_of_optional {default n : UInt64} {field : Option Toml}
    (h : ∀ value, field = some value → Ranged value) (small : default.toNat < 2 ^ 63)
    (read : Toml.optional default Toml.toUInt64? field = some n) : n.toNat < 2 ^ 63 := by
  cases field with
  | none => exact Option.some.inj read ▸ small
  | some value => exact lt_of_toUInt64? (h value rfl) read

theorem Settings.fits_of_toml {s : Settings} (h : v.Ranged) (read : Settings.ofToml? v = some s) :
    s.Fits := by
  have field (fields : List (Option Toml)) (given : Toml.fields?
      ["http_timeout_secs", "connect_timeout_secs", "activation_timeout_secs"] v = some fields)
      (value : Toml) (mem : some value ∈ fields) : value.Ranged := h.of_fields? given mem
  cases v with
  | text | integer | real | boolean => cases read
  | datetime chars =>
    cases read
    decide
  | _ =>
    obtain ⟨httpTimeout, http, read⟩ := Option.bind_eq_some_iff.1 read
    obtain ⟨connectTimeout, connect, read⟩ := Option.bind_eq_some_iff.1 read
    obtain ⟨activationTimeout, -, read⟩ := Option.bind_eq_some_iff.1 read
    cases read
    refine ⟨Toml.lt_of_optional (fun value eq => ?_) (by decide) http,
      Toml.lt_of_optional (fun value eq => ?_) (by decide) connect⟩
    all_goals exact field _ rfl value (by simp [← eq])

end

namespace Profiles

/-- **What was read can be written again.** -/
theorem fits_of_document {p : Profiles} {document : String} (h : ofDocument? document = some p) :
    p.settings.Fits := by
  simp only [ofDocument?, Option.bind_eq_bind, Option.bind_eq_some_iff] at h
  obtain ⟨members, parsed, current, -, portals, -, settings, read, h⟩ := h
  cases h
  cases found : members.lookup "settings" with
  | none =>
    rw [found] at read
    cases read
    exact (by decide : ({} : Settings).Fits)
  | some value =>
    rw [found] at read
    exact Settings.fits_of_toml ((ranged_parse parsed).lookup found) read

end Profiles

end TrainingPortal
