import GuidedExploration.Proofs.Report.Records

/-!
Files of outcomes. An outcome is read back from its JSON whatever its texts are, so a file that
holds a list of outcomes, or is not there yet, gains exactly what is appended to it, in order. Any
other file is left as it is.
-/

set_option autoImplicit false

namespace GuidedExploration

theorem Phase.ofJson?_toJson (phase : Phase) : ofJson? phase.toJson = some phase := by
  cases phase <;> rfl

theorem OutcomeStatus.ofName?_name (status : OutcomeStatus) :
    ofName? status.name = some status := by
  cases status <;> rfl

namespace ProgramOutcome

def members (o : ProgramOutcome) : List (String × Json) :=
  [("program", .text o.program), ("category", .text o.category),
    ("status", .text o.status.name)] ++
    (o.failedPhase.map fun phase => ("failed_phase", phase.toJson)).toList ++
    (o.error.map fun error => ("error", .text error)).toList

theorem fields?_toJson (o : ProgramOutcome) : o.toJson.fields? fields = some o.members := by
  obtain ⟨program, category, status, failedPhase, error⟩ := o
  apply Json.fields?_record_of_subset
  · cases failedPhase <;> cases error <;> simp [fields]
  · cases failedPhase <;> cases error <;> simp

theorem ofJson?_toJson (o : ProgramOutcome) : ofJson? o.toJson = some o := by
  have status : ((Json.text o.status.name).symbol?.bind OutcomeStatus.ofName?) = some o.status :=
    o.status.ofName?_name
  have phase (phase : Phase) : Json.optional? Phase.ofJson? phase.toJson = some (some phase) := by
    rw [Json.optional?_of_ne_null Json.noConfusion, phase.ofJson?_toJson, Option.map_some]
  have error (error : String) : Json.optional? Json.text? (.text error) = some (some error) := rfl
  simp only [ofJson?, o.fields?_toJson, Option.bind_eq_bind, Option.bind_some]
  obtain ⟨program, category, _, failedPhase, reason⟩ := o
  cases failedPhase <;> cases reason <;> simp [members, status, phase, error]

end ProgramOutcome

namespace Records

open FileSystem

/-- What a file of outcomes holds: none, if nothing is at its path, and otherwise those of the JSON
array that its bytes spell. -/
inductive HoldsOutcomes (fs : FileSystem) (p : Path) : List ProgramOutcome → Prop where
  | missing : fs.lookup p = .error .notFound → HoldsOutcomes fs p []
  | array {contents : ByteArray} {text : String} {items : List Json}
      {outcomes : List ProgramOutcome} :
      fs.bytes p = .ok contents → String.fromUTF8? contents = some text →
      Json.ofText? text = some (.array items) →
      items.mapM ProgramOutcome.ofJson? = some outcomes → HoldsOutcomes fs p outcomes

theorem readOutcomes_eq_ok_iff {fs : FileSystem} {p : Path} {outcomes : List ProgramOutcome} :
    readOutcomes fs p = .ok outcomes ↔ HoldsOutcomes fs p outcomes := by
  rw [readOutcomes, read_eq_ok_iff, text_eq_notFound_iff]
  constructor
  · rintro (⟨missing, rfl⟩ | ⟨text, found, decoded⟩)
    · exact .missing missing
    · obtain ⟨contents, read, spelled⟩ := text_eq_ok_iff.1 found
      obtain ⟨value, parsed, listed⟩ := Option.bind_eq_some_iff.1 decoded
      cases value with
      | array items => exact .array read spelled parsed listed
      | _ => cases listed
  · intro holds
    cases holds with
    | missing missing => exact .inl ⟨missing, rfl⟩
    | array read spelled parsed listed =>
      refine .inr ⟨_, text_eq_ok_iff.2 ⟨_, read, spelled⟩, ?_⟩
      rw [parsed]
      exact listed

def appendOutcomes (outcomes : List ProgramOutcome) (p : Path) : Operation Unit :=
  outcomes.forM fun outcome => appendOutcome outcome p

/-- To what a file holds, appends add their outcomes in order, and an append fails only if writing
fails. To a file that holds no outcomes nothing is appended, and nothing is changed. -/
theorem readOutcomes_of_appends (fs : FileSystem) (p : Path) :
    (∀ stored, HoldsOutcomes fs p stored →
      readOutcomes fs p = .ok stored ∧
      (∀ outcome, (appendOutcome outcome p).on fs =
        (write ProgramOutcome.toJson (stored ++ [outcome]) p).on fs) ∧
      (∀ outcomes after, (appendOutcomes outcomes p).on fs = (.ok (), after) →
        readOutcomes after p = .ok (stored ++ outcomes)) ∧
      (Writable fs p → ∀ outcomes, ∃ after, (appendOutcomes outcomes p).on fs = (.ok (), after))) ∧
    ((∀ stored, ¬HoldsOutcomes fs p stored) →
      ∃ fault, readOutcomes fs p = .error fault ∧
        ∀ outcome, (appendOutcome outcome p).on fs = (.error fault, fs)) := by
  constructor
  · intro stored holds
    have found := readOutcomes_eq_ok_iff.2 holds
    exact ⟨found, on_append found,
      fun outcomes after appended => read_appendAll ProgramOutcome.ofJson?_toJson found appended,
      on_appendAll ProgramOutcome.ofJson?_toJson found⟩
  · intro holdsNone
    cases found : readOutcomes fs p with
    | ok stored => exact absurd (readOutcomes_eq_ok_iff.1 found) (holdsNone stored)
    | error fault => exact ⟨fault, rfl, append_unreadable found⟩

def handwritten : String :=
  " [\x7b\"status\":\"failed\", \"category\":\"c\",\"error\":null,\"program\":\"l\\u0073\"\x7d]\n"

def wholeAndTorn : FileSystem where
  nodes := .ofList [(["whole.json"], .file handwritten.toUTF8 false),
    (["torn.json"], .file "[\x7b".toUTF8 false)]
  origin := []

def handwrittenOutcome : ProgramOutcome :=
  { program := "ls", category := "c", status := .failed }

def laterOutcomes : List ProgramOutcome :=
  [.success "" "\x00\"\\", .failedIn .profile "c" "é" "\n"]

theorem readOutcomes_of_appends_whole_and_torn :
    (∃ after, (appendOutcomes laterOutcomes ⟨"whole.json"⟩).on wholeAndTorn = (.ok (), after) ∧
      readOutcomes after ⟨"whole.json"⟩ = .ok (handwrittenOutcome :: laterOutcomes)) ∧
    ∃ fault, (appendOutcome (.success "c" "ls") ⟨"torn.json"⟩).on wholeAndTorn =
      (.error fault, wholeAndTorn) := by
  have whole : HoldsOutcomes wholeAndTorn ⟨"whole.json"⟩ [handwrittenOutcome] :=
    readOutcomes_eq_ok_iff.1 (read_eq_ok_iff.2 (.inr ⟨handwritten,
      text_eq_ok_iff.2 ⟨handwritten.toUTF8, rfl, fromUTF8?_toUTF8 _⟩, by decide +kernel⟩))
  have torn : ∀ stored, ¬HoldsOutcomes wholeAndTorn ⟨"torn.json"⟩ stored := by
    intro stored holds
    have refused : readOutcomes wholeAndTorn ⟨"torn.json"⟩ = .error (.json ⟨"torn.json"⟩ none) := by
      decide +kernel
    cases refused.symm.trans (readOutcomes_eq_ok_iff.2 holds)
  have ready : Writable wholeAndTorn ⟨"whole.json"⟩ :=
    ⟨by rw [Action.NamesFile]; decide, by decide, ["whole.json"], rfl, by decide⟩
  obtain ⟨-, -, accumulated, appendable⟩ :=
    (readOutcomes_of_appends wholeAndTorn ⟨"whole.json"⟩).1 _ whole
  obtain ⟨after, appended⟩ := appendable ready laterOutcomes
  obtain ⟨fault, -, kept⟩ := (readOutcomes_of_appends wholeAndTorn ⟨"torn.json"⟩).2 torn
  exact ⟨⟨after, appended, accumulated _ _ appended⟩, fault, kept _⟩

end Records

end GuidedExploration
