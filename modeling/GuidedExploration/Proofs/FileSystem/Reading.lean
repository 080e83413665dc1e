import GuidedExploration.FileSystem.Operation
import Mathlib.Tactic.SplitIfs

/-!
What is read at a path: the bytes of a file, the text that they spell, and the value of a type that
the text stands for. A directory has none of them.
-/

set_option autoImplicit false

namespace GuidedExploration.FileSystem

variable {fs : FileSystem} {p : Path}

theorem bytes_eq_ok_iff {contents : ByteArray} :
    fs.bytes p = .ok contents ↔ ∃ executable, fs.lookup p = .ok (.file contents executable) := by
  unfold bytes
  cases fs.lookup p with
  | error cause => simp [bind, Except.bind]
  | ok node => cases node <;> simp [bind, Except.bind]

theorem text_eq_ok_iff {s : String} :
    fs.text p = .ok s ↔
      ∃ contents, fs.bytes p = .ok contents ∧ String.fromUTF8? contents = some s := by
  unfold text
  cases fs.bytes p with
  | error cause => simp [bind, Except.bind]
  | ok contents => cases decoded : String.fromUTF8? contents <;> simp [bind, Except.bind, decoded]

theorem bytes_of_text {s : String} (found : fs.text p = .ok s) : fs.bytes p = .ok s.toUTF8 := by
  obtain ⟨contents, read, spelled⟩ := text_eq_ok_iff.1 found
  unfold String.fromUTF8? at spelled
  split_ifs at spelled with valid
  cases spelled
  exact read

/-- Only where there is nothing is nothing found: a directory and bytes that are no text are errors
of their own. -/
theorem text_eq_notFound_iff :
    fs.text p = .error .notFound ↔ fs.lookup p = .error .notFound := by
  unfold text bytes
  cases fs.lookup p with
  | error cause => simp [bind, Except.bind]
  | ok node =>
    cases node with
    | directory => simp [bind, Except.bind]
    | file contents executable =>
      cases decoded : String.fromUTF8? contents <;> simp [bind, Except.bind, decoded]

theorem readJson_eq_ok_iff {α : Type} {decode? : Json → Option α} {value : α} :
    readJson fs p decode? = .ok value ↔
      ∃ s, fs.text p = .ok s ∧ (Json.ofText? s).bind decode? = some value := by
  unfold readJson
  cases fs.text p with
  | error cause => simp
  | ok s => cases found : (Json.ofText? s).bind decode? <;> simp [found]

theorem readJson_error {α : Type} {decode? : Json → Option α} {fault : Fault}
    (unread : readJson fs p decode? = .error fault) :
    (∃ cause, fault = .io p cause) ∨ fault = .json p none := by
  unfold readJson at unread
  split at unread
  · next cause missing =>
    cases unread
    exact .inl ⟨cause, rfl⟩
  · split at unread
    · cases unread
    · cases unread
      exact .inr rfl

end GuidedExploration.FileSystem
