import TrainingPortal.Proofs.Credentials
import TrainingPortal.Proofs.Files
import TrainingPortal.Proofs.Segment

/-!
# Dotenv files with quoted values

A file in which every line binds a name to a value between single quotes gives these bindings back,
whatever the values hold other than single quotes and backslashes, and whatever variables are set
(`quoted_values_arrive`). The file is read in two passes, and both take the quotes alike: the scan
that puts physical lines together goes on to the closing quote, over line breaks and past what would
be a comment (`joinLines_quoted`), and the reading of the value keeps every character in between
(`readLine_quoted`).
-/

namespace TrainingPortal.Dotenv

open Text Encoding

/-! ## Lines with quoted values -/

/-- Whether text begins as a name does. -/
def BeginsName (cs : List Char) : Prop := ∃ c ∈ cs.head?, startsName c = true

/-- A binding that a line can make with the value between single quotes: a letter or an underscore,
then letters, digits, underscores and full stops, bound to a value without single quotes. It has no
backslashes either, which the scan takes for escapes even between single quotes. -/
structure Quotable (b : Binding) : Prop where
  begins : BeginsName b.1.toList
  continues : ∀ c ∈ b.1.toList, continuesName c = true
  quote : '\'' ∉ b.2.toList
  backslash : '\\' ∉ b.2.toList

instance (b : Binding) : Decidable (Quotable b) :=
  decidable_of_iff (b.1.toList.head?.any startsName = true ∧ b.1.toList.all continuesName = true ∧
      '\'' ∉ b.2.toList ∧ '\\' ∉ b.2.toList)
    ⟨fun ⟨begins, continues, quote, backslash⟩ =>
      ⟨(Option.any_eq_true _ _).1 begins, List.all_eq_true.1 continues, quote, backslash⟩,
      fun ⟨begins, continues, quote, backslash⟩ =>
      ⟨(Option.any_eq_true _ _).2 begins, List.all_eq_true.2 continues, quote, backslash⟩⟩

/-- The line that makes a binding. -/
def quoted (b : Binding) : List Char :=
  b.1.toList ++ '=' :: '\'' :: (b.2.toList ++ ['\''])

/-- The lines that make bindings, each with a line break. -/
def quotedLines (bindings : List Binding) : List Char :=
  bindings.flatMap fun b => quoted b ++ ['\n']

/-- What follows a line: a line break and the rest of the file, or nothing. -/
inductive EndsLine : List Char → List Char → Prop
  | lineBreak (rest : List Char) : EndsLine ('\n' :: rest) rest
  | file : EndsLine [] []

/-- Lines that make bindings, one after the other. -/
inductive Quotes : List Binding → List Char → Prop
  | nil : Quotes [] []
  | cons {b : Binding} {bindings : List Binding} {tail rest : List Char} (quotable : Quotable b)
    (ends : EndsLine tail rest) (lines : Quotes bindings rest) :
    Quotes (b :: bindings) (quoted b ++ tail)

theorem quotes_append {bindings more : List Binding} {cs : List Char}
    (h : ∀ b ∈ bindings, Quotable b) (lines : Quotes more cs) :
    Quotes (bindings ++ more) (quotedLines bindings ++ cs) := by
  induction bindings with
  | nil => exact lines
  | cons b bindings ih =>
    obtain ⟨first, rest⟩ := List.forall_mem_cons.1 h
    rw [quotedLines, List.flatMap_cons, List.append_assoc, List.append_assoc]
    exact .cons first (.lineBreak _) (ih rest)

/-- The last line may lack its line break. -/
theorem quotes_of_lines {bindings : List Binding} {cs : List Char}
    (h : ∀ b ∈ bindings, Quotable b)
    (lines : cs = quotedLines bindings ∨ cs ++ ['\n'] = quotedLines bindings) :
    Quotes bindings cs := by
  rcases lines with rfl | lines
  · simpa using quotes_append h .nil
  · rcases List.eq_nil_or_concat' bindings with rfl | ⟨init, last, rfl⟩
    · exact absurd lines (by simp [quotedLines])
    · rw [List.forall_mem_append, List.forall_mem_singleton] at h
      obtain rfl : cs = quotedLines init ++ (quoted last ++ []) := by
        simpa [quotedLines, ← List.append_assoc] using lines
      exact quotes_append h.1 (.cons h.2 .file .nil)

/-! ## Characters of names -/

section

variable {c : Char}

theorem continuesName_of_startsName (h : startsName c = true) : continuesName c = true := by
  simp only [startsName, continuesName, isWordChar, Bool.or_eq_true] at h ⊢
  tauto

/-- What holds of the characters of names among those of ASCII holds of every character of a
name. -/
theorem forall_continuesName {P : Char → Prop}
    (all : ∀ n < 128, continuesName (Char.ofNat n) = true → P (Char.ofNat n))
    (h : continuesName c = true) : P c := by
  have kept : Percent.isUnreserved c = true := by
    simp only [continuesName, Percent.isUnreserved, Bool.or_eq_true] at h ⊢
    tauto
  exact forall_ascii (P := fun c => continuesName c = true → P c) all
    (Percent.toNat_lt_of_isUnreserved kept) h

theorem isBlank_of_continuesName (h : continuesName c = true) : isBlank c = false :=
  forall_continuesName (P := fun c => isBlank c = false) (by decide) h

theorem next_of_continuesName (h : continuesName c = true) : Scan.complete.next c = .complete :=
  forall_continuesName (P := fun c => Scan.complete.next c = .complete) (by decide) h

theorem ne_of_continuesName {d : Char} (h : continuesName c = true)
    (hd : continuesName d = false) : c ≠ d := by
  rintro rfl
  exact absurd h (hd ▸ Bool.false_ne_true)

end

/-! ## Physical lines -/

/-- A character is its own byte, or its bytes are none of ASCII. -/
theorem toNat_of_mem_encodeChar {c : Char} {b : UInt8} (h : b ∈ Utf8.encodeChar c) :
    b.toNat = c.toNat ∨ 0x80 ≤ b.toNat := by
  have range : c.toNat < 0x110000 := by
    rcases c.valid with small | ⟨-, large⟩
    · exact Nat.lt_trans small (by decide)
    · exact large
  unfold Utf8.encodeChar at h
  generalize c.toNat = n at *
  have byte (m : Nat) : (UInt8.ofNat m).toNat = m % 256 := UInt8.toNat_ofNat'
  simp only at h
  split_ifs at h <;> simp only [List.mem_cons, List.not_mem_nil, or_false] at h <;>
    rcases h with rfl | rfl | rfl | rfl <;> rw [byte] <;> omega

theorem newline_not_mem_encodeChar {c : Char} (h : c ≠ '\n') :
    (0x0A : UInt8) ∉ Utf8.encodeChar c := by
  intro mem
  rcases toNat_of_mem_encodeChar mem with same | large
  · exact h ((Char.ofNat_toNat c).symm.trans (congrArg Char.ofNat same.symm))
  · exact absurd large (by decide)

theorem newline_not_mem_encode {cs : List Char} (h : '\n' ∉ cs) :
    (0x0A : UInt8) ∉ Utf8.encode cs := by
  rw [Utf8.encode, List.mem_flatMap]
  rintro ⟨c, hc, mem⟩
  exact newline_not_mem_encodeChar (fun eq => h (eq ▸ hc)) mem

theorem physicalLines_append {bs : List UInt8} (h : 0x0A ∉ bs) (rest : List UInt8) :
    physicalLines (bs ++ 0x0A :: rest) = (bs ++ [0x0A]) :: physicalLines rest := by
  induction bs with
  | nil => rfl
  | cons b bs ih =>
    obtain ⟨ne, h⟩ := List.ne_and_not_mem_of_not_mem_cons h
    rw [List.cons_append, physicalLines, if_neg (Ne.symm ne), ih h]
    rfl

theorem physicalLines_of_not_mem {bs : List UInt8} (h : 0x0A ∉ bs) (some : bs ≠ []) :
    physicalLines bs = [bs] := by
  induction bs with
  | nil => exact absurd rfl some
  | cons b bs ih =>
    obtain ⟨ne, h⟩ := List.ne_and_not_mem_of_not_mem_cons h
    rw [physicalLines, if_neg (Ne.symm ne)]
    cases bs with
    | nil => rfl
    | cons b' bs => rw [ih h (List.cons_ne_nil _ _)]

theorem encode_append (cs ds : List Char) :
    Utf8.encode (cs ++ ds) = Utf8.encode cs ++ Utf8.encode ds :=
  List.flatMap_append

/-- The first physical line of a text reaches to its first line break. -/
theorem physicalLines_encode_append {cs : List Char} (h : '\n' ∉ cs) (rest : List Char) :
    physicalLines (Utf8.encode (cs ++ '\n' :: rest)) =
      Utf8.encode (cs ++ ['\n']) :: physicalLines (Utf8.encode rest) := by
  rw [encode_append, encode_append]
  exact physicalLines_append (newline_not_mem_encode h) _

theorem physicalLines_encode {cs : List Char} (h : '\n' ∉ cs) (some : cs ≠ []) :
    physicalLines (Utf8.encode cs) = [Utf8.encode cs] := by
  refine physicalLines_of_not_mem (newline_not_mem_encode h) fun none => some ?_
  exact @Utf8.encode_injective cs [] none

/-! ## The scan over quotes -/

namespace Scan

/-- A scan that cuts nothing off goes on with what follows. -/
theorem run_append {scan last : Scan} {cs : List Char} (h : scan.run cs = (last, cs))
    (ds : List Char) : scan.run (cs ++ ds) = ((last.run ds).1, cs ++ (last.run ds).2) := by
  induction cs generalizing scan with
  | nil =>
    obtain rfl : scan = last := congrArg Prod.fst h
    rfl
  | cons c cs ih =>
    rw [run] at h
    rw [List.cons_append, run]
    split at h
    case h_1 => exact absurd (congrArg Prod.snd h) (List.cons_ne_nil c cs).symm
    case h_2 next comment =>
      obtain ⟨ends, kept⟩ := Prod.mk.inj h
      rw [ih (Prod.ext ends (List.cons.inj kept).2)]
      rfl

/-- Characters that leave a scan as it is are passed over. -/
theorem run_of_forall {scan : Scan} (inside : scan ≠ .comment) {cs : List Char}
    (h : ∀ c ∈ cs, scan.next c = scan) : scan.run cs = (scan, cs) := by
  induction cs with
  | nil => rfl
  | cons c cs ih =>
    obtain ⟨first, rest⟩ := List.forall_mem_cons.1 h
    rw [run]
    split
    case h_1 next => exact absurd (first.symm.trans next) inside
    case h_2 => rw [first, ih rest]

theorem next_of_ne {c : Char} (quote : c ≠ '\'') (backslash : c ≠ '\\') :
    Scan.strong.next c = .strong := by
  rw [next, if_neg backslash, if_neg quote]

end Scan

/-! ## Text that begins a name -/

section

variable {cs : List Char}

theorem BeginsName.append (h : BeginsName cs) (ds : List Char) : BeginsName (cs ++ ds) := by
  obtain ⟨c, first, starts⟩ := h
  exact ⟨c, by rw [List.head?_append, Option.mem_def.1 first]; rfl, starts⟩

/-- Nothing is trimmed before a name. -/
theorem BeginsName.trimStart (h : BeginsName cs) : trimStart cs = cs := by
  obtain ⟨c, first, starts⟩ := h
  obtain ⟨rest, rfl⟩ := List.head?_eq_some_iff.1 first
  have visible := isBlank_of_continuesName (continuesName_of_startsName starts)
  rw [Text.trimStart, List.dropWhile_cons_of_neg (by simp [visible])]

/-- A name is no comment. -/
theorem BeginsName.head?_ne (h : BeginsName cs) : cs.head? ≠ some '#' := by
  obtain ⟨c, first, starts⟩ := h
  rw [Option.mem_def.1 first, ne_eq, Option.some_inj]
  exact ne_of_continuesName (continuesName_of_startsName starts) (by decide)

end

/-! ## Joining lines -/

/-- A physical line within quotes is joined with the next one. -/
theorem joinLines_of_strong {scan : Scan} {pending : List Char} (line : List Char)
    (begins : BeginsName (pending ++ line)) (run : scan.run line = (.strong, line))
    (rest : List (List UInt8)) :
    joinLines scan pending (Utf8.encode line :: rest) =
      joinLines .strong (pending ++ line) rest := by
  simp only [joinLines, Utf8.decode?_encode, begins.trimStart, if_neg begins.head?_ne, run]

/-- A physical line with which the quotes are closed ends the logical line. -/
theorem joinLines_of_complete {scan : Scan} {pending : List Char} (line : List Char)
    (begins : BeginsName (pending ++ line)) (run : scan.run line = (.complete, line))
    (rest : List (List UInt8)) :
    joinLines scan pending (Utf8.encode line :: rest) =
      (chomp (pending ++ line) :: (joinLines .complete [] rest).1,
        (joinLines .complete [] rest).2) := by
  simp only [joinLines, Utf8.decode?_encode, begins.trimStart, if_neg begins.head?_ne, run]

theorem chomp_quote (cs : List Char) : chomp (cs ++ ['\'']) = cs ++ ['\''] := by
  simp [chomp]

theorem chomp_quote_newline (cs : List Char) : chomp (cs ++ ['\'', '\n']) = cs ++ ['\''] := by
  simp [chomp]

/-- **The scan goes on to the closing quote.** Whatever a value holds other than quotes and
backslashes, it belongs to one logical line with what stands before it. -/
theorem joinLines_quoted (scan : Scan) (pending opening : List Char)
    {value tail rest : List Char}
    (begins : BeginsName (pending ++ opening)) (run : scan.run opening = (.strong, opening))
    (single : '\n' ∉ opening) (quote : '\'' ∉ value) (backslash : '\\' ∉ value)
    (ends : EndsLine tail rest) :
    joinLines scan pending (physicalLines (Utf8.encode (opening ++ value ++ '\'' :: tail))) =
      ((pending ++ opening ++ value ++ ['\'']) ::
          (joinLines .complete [] (physicalLines (Utf8.encode rest))).1,
        (joinLines .complete [] (physicalLines (Utf8.encode rest))).2) := by
  induction value generalizing scan pending opening with
  | nil =>
    have closed : '\n' ∉ opening ++ ['\''] := by simpa using single
    rw [List.append_nil, List.append_nil]
    cases ends with
    | lineBreak rest =>
      have line := joinLines_of_complete (opening ++ ['\'', '\n'])
        (by simpa using begins.append ['\'', '\n']) (Scan.run_append run _)
      rw [List.append_cons, physicalLines_encode_append closed, List.append_assoc]
      simp only [List.cons_append, List.nil_append, line, ← List.append_assoc, chomp_quote_newline]
    | file =>
      have line := joinLines_of_complete (opening ++ ['\''])
        (by simpa using begins.append ['\'']) (Scan.run_append run _)
      rw [physicalLines_encode closed (by simp), line, ← List.append_assoc, chomp_quote]
      rfl
  | cons c value ih =>
    obtain ⟨noQuote, quotes⟩ := List.ne_and_not_mem_of_not_mem_cons quote
    obtain ⟨noBackslash, backslashes⟩ := List.ne_and_not_mem_of_not_mem_cons backslash
    have passes : Scan.strong.run [c] = (.strong, [c]) :=
      Scan.run_of_forall (by decide) (by
        simpa using Scan.next_of_ne (Ne.symm noQuote) (Ne.symm noBackslash))
    have further : scan.run (opening ++ [c]) = (.strong, opening ++ [c]) := by
      rw [Scan.run_append run, passes]
    have stays : BeginsName (pending ++ (opening ++ [c])) := by simpa using begins.append [c]
    by_cases newline : c = '\n'
    · subst newline
      have next := ih .strong (pending ++ (opening ++ ['\n'])) []
        (by simpa using stays) rfl (by simp) quotes backslashes
      rw [List.append_assoc opening, List.cons_append, physicalLines_encode_append single,
        joinLines_of_strong _ stays further]
      simpa using next
    · have next := ih scan pending (opening ++ [c]) stays further
        (by simpa [Ne.symm newline] using single) quotes backslashes
      simpa using next

theorem Quotable.single {b : Binding} (h : Quotable b) : '\n' ∉ b.1.toList :=
  fun mem => ne_of_continuesName (h.continues _ mem) (by decide) rfl

/-- Every binding has a logical line of its own. -/
theorem logicalLines_of_quotes {bindings : List Binding} {cs : List Char}
    (h : Quotes bindings cs) :
    logicalLines (Utf8.encode cs) = (bindings.map quoted, .complete) := by
  unfold logicalLines
  induction h with
  | nil => rfl
  | @cons b bindings tail rest quotable ends lines ih =>
    have name : Scan.complete.run b.1.toList = (.complete, b.1.toList) :=
      Scan.run_of_forall (by decide) fun c mem => next_of_continuesName (quotable.continues c mem)
    have line := joinLines_quoted .complete [] _ (quotable.begins.append ['=', '\''])
      (Scan.run_append name ['=', '\'']) (by simpa using quotable.single) quotable.quote
      quotable.backslash ends
    simpa [quoted, ih] using line

/-! ## Reading a line -/

section

variable {b : Binding} (vars : Variables) (bound : List Binding)

theorem trimEnd_quoted (b : Binding) : trimEnd (quoted b) = quoted b := by
  have ended : quoted b = (b.1.toList ++ '=' :: '\'' :: b.2.toList) ++ ['\''] := by simp [quoted]
  rw [ended, trimEnd, dropTailWhile_append_of_neg (by decide)]

theorem readName_append_equals (h : Quotable b) (rest : List Char) :
    readName (b.1.toList ++ '=' :: rest) = some (b.1.toList, '=' :: rest) := by
  obtain ⟨c, first, starts⟩ := h.begins
  obtain ⟨cs, whole⟩ := List.head?_eq_some_iff.1 first
  have continues := h.continues
  rw [whole] at continues ⊢
  have passed := (List.forall_mem_cons.1 continues).2
  rw [List.cons_append, readName, if_pos starts, List.takeWhile_append_of_pos passed,
    List.dropWhile_append_of_pos passed, List.takeWhile_cons_of_neg (by decide),
    List.dropWhile_cons_of_neg (by decide), List.append_nil]

theorem readBinder_quoted (h : Quotable b) :
    readBinder (quoted b) = .ok (b.1.toList, '\'' :: (b.2.toList ++ ['\''])) := by
  rw [readBinder, quoted, readName_append_equals h]
  rfl

/-- Between single quotes every character stands for itself. -/
theorem readValue_strong (valueOf : List Char → List Char) {value : List Char}
    (h : '\'' ∉ value) (index : Nat) :
    readValue valueOf .strong index (value ++ ['\'']) = .ok value := by
  induction value generalizing index with
  | nil => rfl
  | cons c value ih =>
    obtain ⟨ne, h⟩ := List.ne_and_not_mem_of_not_mem_cons h
    have stays : ValueMode.strong.step valueOf c = some (.strong, [c]) := by
      rw [ValueMode.step, if_neg ne.symm]
    rw [List.cons_append, readValue_cons_of_some stays, ih h]
    rfl

theorem readValue_quoted (valueOf : List Char → List Char) {value : List Char}
    (h : '\'' ∉ value) :
    readValue valueOf .plain 0 ('\'' :: (value ++ ['\''])) = .ok value := by
  have opens : ValueMode.plain.step valueOf '\'' = some (.strong, []) := rfl
  rw [readValue_cons_of_some opens, readValue_strong valueOf h]
  rfl

/-- A line makes its binding, whatever is bound before and whatever variables are set. -/
theorem readLine_quoted (h : Quotable b) :
    readLine vars bound (quoted b) = .ok (some b) := by
  have begins : BeginsName (quoted b) := h.begins.append _
  have some : (quoted b).isEmpty = false := by simp [quoted]
  have opened : trimStart ('\'' :: (b.2.toList ++ ['\''])) = '\'' :: (b.2.toList ++ ['\'']) :=
    List.dropWhile_cons_of_neg (by decide)
  rw [readLine]
  simp only [trimEnd_quoted, begins.trimStart, some, begins.head?_ne, readBinder_quoted h, opened,
    readValue_quoted _ h.quote]
  simp

end

/-! ## Files -/

theorem binds_quoted (vars : Variables) {bindings : List Binding}
    (h : ∀ b ∈ bindings, Quotable b) : Binds vars (bindings.map quoted) bindings := by
  induction bindings using List.reverseRecOn with
  | nil => exact .nil
  | append_singleton bindings b ih =>
    rw [List.forall_mem_append, List.forall_mem_singleton] at h
    rw [List.map_append]
    exact .binding (ih h.1) (readLine_quoted vars bindings h.2)

/-- If no name is bound twice, the only binding of a name is the last one. -/
theorem lookup_reverse_of_mem {bindings : List Binding} (nodup : (bindings.map (·.1)).Nodup)
    {b : Binding} (h : b ∈ bindings) : bindings.reverse.lookup b.1 = some b.2 := by
  obtain ⟨before, after, rfl⟩ := List.append_of_mem h
  rw [List.map_append, List.map_cons, List.nodup_middle, List.nodup_cons, List.mem_append,
    not_or] at nodup
  refine List.lookup_eq_some_iff.2 ⟨after.reverse, before.reverse, by simp, fun later mem => ?_⟩
  have apart : b.1 ≠ later.1 := fun same =>
    nodup.1.2 (List.mem_map.2 ⟨later, List.mem_reverse.1 mem, same.symm⟩)
  simpa using apart

end TrainingPortal.Dotenv

namespace TrainingPortal.Credentials

open Dotenv

/-- The bindings that give credentials. -/
def bindings (c : Credentials) : List Binding :=
  [(urlName, c.url), (clientIdName, c.clientId), (clientSecretName, c.clientSecret),
    (usernameName, c.username), (passwordName, c.password)]

/-- **Quoted values arrive.** A file whose lines bind names to values between single quotes sets
these values in order, whatever parameters are set before. If it binds no name twice and gives all
fields of credentials, among others or not and in whatever order, it gives these credentials. In
both cases it does not matter which variables are set. -/
theorem quoted_values_arrive (fs : Files) (vars : Variables) (path : String)
    (lines : List Binding) (text : List Char) (quotable : ∀ b ∈ lines, Quotable b)
    (written : text = quotedLines lines ∨ text ++ ['\n'] = quotedLines lines)
    (reads : fs.read path = .ok (Text.Utf8.encode text)) :
    (∀ ps : ParameterSet, (ParameterSet.applyEnvFiles fs vars [path] ps).value =
      (.ok (), ps.setAll lines)) ∧
    ∀ c : Credentials, c.workshops = [] → (lines.map (·.1)).Nodup → c.bindings ⊆ lines →
      (fromEnvFile fs vars path).run.value = .ok c := by
  have gives : Dotenv.read fs vars path = (lines, none) :=
    read_eq_none_iff.2 ⟨_, _, reads,
      logicalLines_of_quotes (quotes_of_lines quotable written), binds_quoted vars quotable⟩
  refine ⟨fun ps => ?_, fun c workshops nodup given => ?_⟩
  · rw [ParameterSet.applyEnvFiles_singleton, Source.value_apply_of_gives (.envFile gives)]
  · have found : ∀ b ∈ c.bindings, lines.reverse.lookup b.1 = some b.2 :=
      fun b mem => lookup_reverse_of_mem nodup (given mem)
    simp only [bindings, List.forall_mem_cons] at found
    obtain ⟨url, clientId, clientSecret, username, password, -⟩ := found
    rw [value_fromEnvFile_of_read (Files.exists?_of_read reads) gives]
    exact ofLookup_of_givenBy ⟨url, clientId, clientSecret, username, password, workshops⟩

/-- Lines with values that would mean something else without the quotes. -/
def guarded : List Binding :=
  [("export", "# no comment"), (passwordName, "a \"b\"\n#c\n$HOME =d "), (urlName, "http://p"),
    (usernameName, "$\x7bUSER\x7d"), (clientIdName, ""), (clientSecretName, "\t")]

/-- A tree with a file of these lines, the last one without a line break. -/
def guardedFile : Files where
  entries := [(["portal.env".toList], .file (Text.Utf8.encode (quotedLines guarded).dropLast))]

/-- The values arrive as they are, and parameters that were set before keep their places. -/
theorem quoted_values_arrive_guarded :
    (∀ b ∈ guarded, Quotable b) ∧
      guardedFile.read "/portal.env" = .ok (Text.Utf8.encode (quotedLines guarded).dropLast) ∧
      (ParameterSet.applyEnvFiles guardedFile [("HOME", "/root")] ["/portal.env"]
        [⟨"export", "x"⟩]).value.2.map (·.value) =
        ["# no comment", "a \"b\"\n#c\n$HOME =d ", "http://p", "$\x7bUSER\x7d", "", "\t"] ∧
      (fromEnvFile guardedFile [("HOME", "/root")] "/portal.env").run.value = .ok {
        url := "http://p", clientId := "", clientSecret := "\t", username := "$\x7bUSER\x7d",
        password := "a \"b\"\n#c\n$HOME =d " } := by
  have quotable : ∀ b ∈ guarded, Quotable b := by decide +kernel
  have reads : guardedFile.read "/portal.env" =
      .ok (Text.Utf8.encode (quotedLines guarded).dropLast) := by decide +kernel
  obtain ⟨parameters, credentials⟩ := quoted_values_arrive guardedFile [("HOME", "/root")]
    "/portal.env" guarded (quotedLines guarded).dropLast quotable (.inr (by decide +kernel)) reads
  exact ⟨quotable, reads, by rw [parameters]; decide,
    credentials _ rfl (by decide) (by decide)⟩

end TrainingPortal.Credentials
