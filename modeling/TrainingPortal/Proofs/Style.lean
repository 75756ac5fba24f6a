import TrainingPortal.Proofs.Digits
import TrainingPortal.Style
import TrainingPortal.Text.Quoted

/-!
# What styled text shows

A terminal takes the codes of styles out of what it shows. What remains is `Style.plain`. A text in
a style shows what the text does (`Style.plain_apply`), also within a line (`Style.plain_painted`),
and a quoted text, in which no code can be, is shown as it is (`Style.plain_quoted`).
-/

namespace TrainingPortal.Style

open Text

/-! ## Reading codes -/

/-- Where a terminal stands that looks out for codes. -/
inductive Watch
  /-- Outside of any code. -/
  | outside
  /-- After the character that starts a code. -/
  | escape
  /-- Within a code, of which these characters were seen after its start. -/
  | inside (seen : List Char)

/-- What was taken for the start of a code, and is shown if it is none. -/
def Watch.held : Watch → List Char
  | outside => []
  | escape => ['\x1b']
  | inside seen => '\x1b' :: '[' :: seen

/-- Whether a character may stand within a code. -/
def inCode (c : Char) : Bool := isDigit c || c == ';'

/-- What is shown of characters. -/
def plainFrom : Watch → List Char → List Char
  | w, [] => w.held
  | w, '\x1b' :: rest => w.held ++ plainFrom .escape rest
  | .outside, c :: rest => c :: plainFrom .outside rest
  | .escape, c :: rest =>
    if c = '[' then plainFrom (.inside []) rest else '\x1b' :: c :: plainFrom .outside rest
  | .inside seen, c :: rest =>
    if c = 'm' then plainFrom .outside rest
    else if inCode c then plainFrom (.inside (seen ++ [c])) rest
    else '\x1b' :: '[' :: seen ++ c :: plainFrom .outside rest

/-- What is shown of a text: the text without the codes of styles. -/
def plain (text : String) : String := String.ofList (plainFrom .outside text.toList)

theorem plainFrom_escape (w : Watch) (rest : List Char) :
    plainFrom w ('\x1b' :: rest) = w.held ++ plainFrom .escape rest := by
  cases w <;> rfl

theorem plainFrom_outside {c : Char} (h : c ≠ '\x1b') (rest : List Char) :
    plainFrom .outside (c :: rest) = c :: plainFrom .outside rest := by
  rw [plainFrom]
  exact h

theorem plainFrom_inside {c : Char} (h : inCode c = true) (seen rest : List Char) :
    plainFrom (.inside seen) (c :: rest) = plainFrom (.inside (seen ++ [c])) rest := by
  have notEscape : c ≠ '\x1b' := by
    rintro rfl
    revert h
    decide
  have notEnd : c ≠ 'm' := by
    rintro rfl
    revert h
    decide
  rw [plainFrom, if_neg notEnd, if_pos h]
  exact notEscape

/-- A code shows nothing. -/
theorem plainFrom_code {codes : List Char} (h : codes.all inCode = true) (seen rest : List Char) :
    plainFrom (.inside seen) (codes ++ 'm' :: rest) = plainFrom .outside rest := by
  induction codes generalizing seen with
  | nil => rfl
  | cons c codes ih =>
    obtain ⟨first, others⟩ := Bool.and_eq_true_iff.1 (List.all_cons.symm.trans h)
    rw [List.cons_append, plainFrom_inside first, ih others]

/-- Where no code starts, all is shown. -/
theorem plainFrom_of_not_mem {cs : List Char} (h : '\x1b' ∉ cs) (rest : List Char) :
    plainFrom .outside (cs ++ rest) = cs ++ plainFrom .outside rest := by
  induction cs with
  | nil => rfl
  | cons c cs ih =>
    obtain ⟨first, others⟩ := not_or.1 (List.mem_cons.not.1 h)
    rw [List.cons_append, plainFrom_outside (Ne.symm first), ih others, List.cons_append]

/-! ## Where codes break off -/

/-- Whether characters go on with no code that was begun before them. -/
def BreaksOff (cs : List Char) : Prop := ∀ w, plainFrom w cs = w.held ++ plainFrom .outside cs

theorem breaksOff_escape (rest : List Char) : BreaksOff ('\x1b' :: rest) := fun w => by
  rw [plainFrom_escape, plainFrom_escape]
  rfl

theorem breaksOff_nil : BreaksOff [] := fun w => (List.append_nil w.held).symm

/-- A character that can stand in no code breaks off a code. -/
theorem breaksOff_cons {c : Char} (opening : c ≠ '[') (ending : c ≠ 'm') (within : inCode c = false)
    (rest : List Char) : BreaksOff (c :: rest) := by
  by_cases escape : c = '\x1b'
  · exact escape ▸ breaksOff_escape rest
  · intro w
    rw [plainFrom_outside escape]
    cases w with
    | outside => rw [plainFrom_outside escape, Watch.held, List.nil_append]
    | escape =>
      rw [plainFrom, if_neg opening]
      · rfl
      · exact escape
    | inside seen =>
      rw [plainFrom, if_neg ending, if_neg (by simp [within])]
      · rfl
      · exact escape

/-- What stands before is shown as if nothing followed. -/
theorem plainFrom_append {rest : List Char} (h : BreaksOff rest) (w : Watch) (cs : List Char) :
    plainFrom w (cs ++ rest) = plainFrom w cs ++ plainFrom .outside rest := by
  fun_induction plainFrom w cs with
  | case1 w => exact h w
  | case2 w cs ih => rw [List.cons_append, plainFrom_escape, ih, List.append_assoc]
  | case3 c cs escape ih => rw [List.cons_append, plainFrom_outside escape, ih, List.cons_append]
  | case4 cs _ ih => exact ih
  | case5 c cs escape opening ih =>
    rw [List.cons_append, plainFrom, if_neg opening, ih]
    · rfl
    · exact escape
  | case6 seen cs _ ih => exact ih
  | case7 seen c cs _ _ within ih => rw [List.cons_append, plainFrom_inside within, ih]
  | case8 seen c cs escape ending within ih =>
    rw [List.cons_append, plainFrom, if_neg ending, if_neg within, ih]
    · simp
    · exact escape

/-! ## Styles -/

theorem toList_start (s : Style) :
    s.start.toList = '\x1b' :: '[' :: ((";".intercalate s.codes).toList ++ ['m']) := by
  simp [start]

theorem all_inCode_codes (s : Style) : (";".intercalate s.codes).toList.all inCode = true := by
  rcases s with ⟨bold, dimmed, colour⟩
  cases bold <;> cases dimmed <;> rcases colour with _ | ⟨_ | _⟩ <;> decide

/-- The start of a style shows nothing. -/
theorem plainFrom_start (s : Style) (rest : List Char) :
    plainFrom .outside (s.start.toList ++ rest) = plainFrom .outside rest := by
  rw [toList_start, List.cons_append, plainFrom_escape, List.cons_append, List.append_assoc]
  exact plainFrom_code s.all_inCode_codes [] rest

/-- Nor does what is put after resets, if it shows nothing itself. -/
theorem plainFrom_afterResets {again : List Char}
    (h : ∀ rest, plainFrom .outside (again ++ rest) = plainFrom .outside rest) (w : Watch)
    (cs : List Char) : plainFrom w (afterResets again cs) = plainFrom w cs := by
  fun_induction afterResets again cs generalizing w with
  | case1 rest ih =>
    have shows (rest : List Char) : plainFrom w (reset.toList ++ rest) =
        w.held ++ plainFrom .outside rest := plainFrom_escape w _
    rw [List.append_assoc, shows, h, ih]
    exact (shows rest).symm
  | case2 c rest _ ih =>
    by_cases escape : c = '\x1b'
    · subst escape
      rw [plainFrom_escape, plainFrom_escape, ih]
    · cases w <;> simp [plainFrom, ih]
  | case3 => rfl

theorem plainFrom_apply (s : Style) (colours : Bool) (text : String) {rest : List Char}
    (h : BreaksOff rest) :
    plainFrom .outside ((s.apply colours text).toList ++ rest) =
      plainFrom .outside text.toList ++ plainFrom .outside rest := by
  rw [apply]
  split
  · exact plainFrom_append h _ _
  · have breaks : BreaksOff (reset.toList ++ rest) := breaksOff_escape _
    have ends : plainFrom .outside (reset.toList ++ rest) = plainFrom .outside rest := rfl
    rw [String.toList_append, String.toList_append, String.toList_ofList, List.append_assoc,
      List.append_assoc, plainFrom_start, plainFrom_append breaks, ends,
      plainFrom_afterResets s.plainFrom_start]

/-- **A text in a style shows what the text does.** -/
@[simp] theorem plain_apply (s : Style) (colours : Bool) (text : String) :
    plain (s.apply colours text) = plain text := by
  have shows := plainFrom_apply s colours text breaksOff_nil
  rw [List.append_nil] at shows
  exact congrArg String.ofList (shows.trans (List.append_nil _))

theorem apply_uncoloured (s : Style) (text : String) : s.apply false text = text := rfl

/-! ## Styled texts within lines -/

/-- Whether words hold no code, and go on with none that was begun before them. -/
def isProse (words : String) : Bool :=
  !words.toList.contains '\x1b' &&
    words.toList.head?.any fun c => c != '[' && c != 'm' && !inCode c

theorem plain_prose {words : String} (h : isProse words = true) (rest : String) :
    plain (words ++ rest) = words ++ plain rest := by
  have uncoded : '\x1b' ∉ words.toList := by
    simpa using (Bool.and_eq_true_iff.1 h).1
  rw [plain, plain, String.toList_append, plainFrom_of_not_mem uncoded, String.ofList_append,
    String.ofList_toList]

/-- A text in a style shows the same if words follow it. -/
theorem plain_painted (s : Style) (colours : Bool) (text : String) {words : String}
    (h : isProse words = true) (rest : String) :
    plain (s.apply colours text ++ (words ++ rest)) = plain text ++ (words ++ plain rest) := by
  have breaks : BreaksOff (words ++ rest).toList := by
    rw [String.toList_append]
    cases letters : words.toList with
    | nil => simp [isProse, letters] at h
    | cons c cs =>
      simp only [isProse, letters, List.head?_cons, Option.any_some, Bool.and_eq_true, bne_iff_ne,
        Bool.not_eq_true'] at h
      exact breaksOff_cons h.2.1.1 h.2.1.2 h.2.2 _
  rw [← plain_prose h, plain, String.toList_append, plainFrom_apply s colours text breaks,
    String.ofList_append]
  rfl

/-! ## Quoted texts -/

theorem escape_not_mem_quotedChar (c : Char) : '\x1b' ∉ quotedChar c := by
  unfold quotedChar
  split
  case h_7 =>
    split
    case isTrue =>
      have digits : '\x1b' ∉ hexadecimal c.toNat := fun digit =>
        absurd (isHexDigit_of_mem_hexadecimal digit) (by decide)
      simp [digits]
    case isFalse seen =>
      rintro (_ | ⟨_, ⟨⟩⟩)
      exact seen (by decide +kernel)
  all_goals decide

/-- A quoted text is shown as it is. -/
theorem plain_quoted (s : String) : plain (quoted s) = quoted s := by
  have unstyled : '\x1b' ∉ (quoted s).toList := by
    simp only [quoted, String.toList_ofList, List.cons_append, List.mem_cons, List.mem_append,
      List.mem_flatMap, List.not_mem_nil, or_false, not_or, not_exists, not_and]
    exact ⟨by decide, fun c _ => escape_not_mem_quotedChar c, by decide⟩
  have shown := plainFrom_of_not_mem unstyled []
  rw [List.append_nil] at shown
  rw [plain, shown, plainFrom, Watch.held, List.append_nil, String.ofList_toList]

end TrainingPortal.Style
