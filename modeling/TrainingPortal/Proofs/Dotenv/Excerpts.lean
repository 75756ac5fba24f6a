import TrainingPortal.Proofs.Dotenv
import TrainingPortal.Proofs.Dotenv.References

/-!
# What a faulty dotenv file is shown with

A fault shows a piece of the file: a logical line, or the value in one (`excerpt_of_interrupted`).
A logical line goes on as long as a quote is open, so that a piece may hold line breaks.
-/

namespace TrainingPortal.Dotenv

open Text

variable {vars : Variables} {fs : Files} {path : String} {bound bindings : List Binding}
  {line : List Char} {fault : Fault}

/-- Whether a file has a logical line, which may be one that it does not finish. -/
def HasLine (content : List UInt8) (line : List Char) : Prop :=
  line ∈ (logicalLines content).1 ∨ (logicalLines content).2 = .unfinished line

/-- Whether a text stands within a logical line of a file. -/
def Excerpt (content : List UInt8) (text : String) : Prop :=
  ∃ line, HasLine content line ∧ text.toList <:+: line

theorem toList_ofList_isInfix (cs : List Char) : (String.ofList cs).toList <:+: cs :=
  ⟨[], [], by simp⟩

theorem trim_isInfix (line : List Char) : trimStart (trimEnd line) <:+: line :=
  (List.dropWhile_suffix isBlank).isInfix.trans (dropTailWhile_isPrefix isBlank line).isInfix

/-- A line that is at fault is shown itself, or the end of it from its value on. -/
theorem malformed_of_readLine (h : readLine vars bound line = .error fault) :
    ∃ text index, fault = .malformed text index ∧ text.toList <:+: line := by
  unfold readLine at h
  simp only at h
  split at h
  case isTrue => cases h
  case isFalse =>
    split at h
    case h_1 rest _ =>
      cases h
      exact ⟨_, _, rfl, toList_ofList_isInfix line⟩
    case h_2 name rest binder =>
      have inside : (String.ofList (trimStart rest)).toList <:+: line := by
        rw [String.toList_ofList]
        exact ((List.dropWhile_suffix isBlank).trans (readBinder_suffix binder)).isInfix.trans
          (trim_isInfix line)
      split at h
      case isTrue => cases h
      case isFalse =>
        split at h
        case h_1 => cases h
        case h_2 =>
          cases h
          exact ⟨_, _, rfl, inside⟩
        case h_3 =>
          cases h
          exact ⟨_, _, rfl, inside⟩

/-- **What a fault shows.** A dotenv file that is read up to a fault could not be opened or is not
UTF-8, or else the fault shows an excerpt of the file. -/
theorem excerpt_of_interrupted (h : Interrupted fs vars path bindings fault) :
    (∃ cause, fault = .unreadable cause) ∨
      ∃ content text index, fs.read path = .ok content ∧ fault = .malformed text index ∧
        Excerpt content text := by
  cases h with
  | file unreadable => exact .inl ⟨_, rfl⟩
  | @line content _ _ line _ _ _ reads whole _ faulty =>
    obtain ⟨text, index, shown, inside⟩ := malformed_of_readLine faulty
    have mem : line ∈ (logicalLines content).1 := by simp [whole]
    exact .inr ⟨content, text, index, reads, shown, line, .inl mem, inside⟩
  | @ending content _ ending _ _ reads whole _ ends =>
    cases ending with
    | complete => cases ends
    | notUtf8 => exact .inl ⟨_, (Option.some.inj ends).symm⟩
    | unfinished line =>
      refine .inr ⟨content, _, _, reads, (Option.some.inj ends).symm, line, .inr ?_,
        toList_ofList_isInfix line⟩
      rw [whole]

end TrainingPortal.Dotenv
