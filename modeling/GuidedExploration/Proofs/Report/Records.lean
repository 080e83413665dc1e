import GuidedExploration.Proofs.FileSystem.Reading
import GuidedExploration.Proofs.FileSystem.Writing
import GuidedExploration.Proofs.Json.RoundTrip
import GuidedExploration.Proofs.Json.Schema
import GuidedExploration.Report.Records

/-!
Files of records over a sequence of appends. What is read after an append is each of the records as
it is read back from its own text; if one of them is not read back, nothing can be appended again.
Records that are all read back as they were accumulate.
-/

set_option autoImplicit false

namespace GuidedExploration.Records

open FileSystem

variable {α : Type} {decode? : Json → Option α} {encode : α → Json}

theorem writeJson_ok {fs after : FileSystem} {p : Path} {value : Json}
    (written : (writeJson p value).on fs = (.ok (), after)) :
    after.text p = .ok value.pretty ∧ Writable after p :=
  writeText_ok written

theorem read_write {fs after : FileSystem} {p : Path} {records : List α}
    (written : (write encode records p).on fs = (.ok (), after)) :
    read decode? after p =
      (records.mapM (decode? ∘ encode)).elim (.error (.json p none)) .ok := by
  have text := (writeJson_ok written).1
  unfold read
  rw [text]
  dsimp only
  rw [Json.ofText?_pretty, Option.bind_some, Json.list?, List.mapM_map]
  cases records.mapM (decode? ∘ encode) <;> rfl

theorem on_append {fs : FileSystem} {p : Path} {stored : List α}
    (found : read decode? fs p = .ok stored) (record : α) :
    (append decode? encode record p).on fs = (write encode (stored ++ [record]) p).on fs := by
  simp only [append, Operation.on_bind, Operation.on_get, found]

theorem append_unreadable {fs : FileSystem} {p : Path} {fault : Fault}
    (unreadable : read decode? fs p = .error fault) (record : α) :
    (append decode? encode record p).on fs = (.error fault, fs) := by
  simp only [append, Operation.on_bind, Operation.on_get, unreadable, Operation.on_throw]

theorem append_ok {fs after : FileSystem} {p : Path} {record : α}
    (appended : (append decode? encode record p).on fs = (.ok (), after)) :
    ∃ records, read decode? fs p = .ok records ∧
      (write encode (records ++ [record]) p).on fs = (.ok (), after) := by
  cases found : read decode? fs p with
  | error fault =>
    rw [append_unreadable found] at appended
    cases appended
  | ok records =>
    rw [on_append found] at appended
    exact ⟨records, rfl, appended⟩

theorem append_readable {fs : FileSystem} {p : Path} {records : List α}
    (readable : read decode? fs p = .ok records) (ready : Writable fs p) (record : α) :
    ∃ after, (append decode? encode record p).on fs = (.ok (), after) := by
  rw [on_append readable]
  exact on_writeText ready _

theorem writable_append {fs after : FileSystem} {p : Path} {record : α}
    (appended : (append decode? encode record p).on fs = (.ok (), after)) : Writable after p := by
  obtain ⟨records, -, written⟩ := append_ok appended
  exact (writeJson_ok written).2

theorem read_eq_ok_iff {fs : FileSystem} {p : Path} {records : List α} :
    read decode? fs p = .ok records ↔
      (fs.text p = .error .notFound ∧ records = []) ∨
        ∃ s, fs.text p = .ok s ∧ (Json.ofText? s).bind (Json.list? decode?) = some records := by
  unfold read
  split
  · next missing => simp [missing, eq_comm]
  · next cause other failed =>
    have apart : cause ≠ .notFound := other
    simp [failed, apart]
  · next s found =>
    cases decoded : (Json.ofText? s).bind (Json.list? decode?) <;> simp [found, decoded]

theorem read_append {fs after : FileSystem} {p : Path} {record : α}
    (appended : (append decode? encode record p).on fs = (.ok (), after)) :
    ∃ records, read decode? fs p = .ok records ∧ read decode? after p =
      ((records ++ [record]).mapM (decode? ∘ encode)).elim
        (.error (.json p none)) .ok := by
  obtain ⟨records, found, written⟩ := append_ok appended
  exact ⟨records, found, read_write written⟩

/-! ## Records that are read back as they were -/

def appendAll (decode? : Json → Option α) (encode : α → Json) (records : List α) (p : Path) :
    Operation Unit :=
  records.forM fun record => append decode? encode record p

theorem appendAll_cons (record : α) (later : List α) (p : Path) :
    appendAll decode? encode (record :: later) p =
      (do
        append decode? encode record p
        appendAll decode? encode later p) := rfl

section

variable (inverse : ∀ record, decode? (encode record) = some record)

include inverse

theorem read_append_of_inverse {fs after : FileSystem} {p : Path} {stored : List α} {record : α}
    (found : read decode? fs p = .ok stored)
    (appended : (append decode? encode record p).on fs = (.ok (), after)) :
    read decode? after p = .ok (stored ++ [record]) := by
  rw [on_append found] at appended
  have same : (stored ++ [record]).mapM (decode? ∘ encode) = some (stored ++ [record]) :=
    Json.mapM_eq_self_iff.2 fun other _ => inverse other
  rw [read_write appended, same]
  rfl

theorem read_appendAll {fs after : FileSystem} {p : Path} {stored records : List α}
    (found : read decode? fs p = .ok stored)
    (appended : (appendAll decode? encode records p).on fs = (.ok (), after)) :
    read decode? after p = .ok (stored ++ records) := by
  induction records generalizing fs stored with
  | nil =>
    cases appended
    rw [List.append_nil]
    exact found
  | cons record later ih =>
    rw [appendAll_cons, Operation.on_bind] at appended
    rcases first : (append decode? encode record p).on fs with ⟨fault | ⟨⟩, between⟩
    · rw [first] at appended
      cases appended
    · rw [first] at appended
      rw [List.append_cons]
      exact ih (read_append_of_inverse inverse found first) appended

theorem on_appendAll {fs : FileSystem} {p : Path} {stored : List α}
    (found : read decode? fs p = .ok stored) (ready : Writable fs p) (records : List α) :
    ∃ after, (appendAll decode? encode records p).on fs = (.ok (), after) := by
  induction records generalizing fs stored with
  | nil => exact ⟨fs, rfl⟩
  | cons record later ih =>
    obtain ⟨between, first⟩ :
        ∃ between, (append decode? encode record p).on fs = (.ok (), between) :=
      append_readable found ready record
    obtain ⟨after, rest⟩ := ih (read_append_of_inverse inverse found first) (writable_append first)
    refine ⟨after, ?_⟩
    rw [appendAll_cons, Operation.on_bind, first]
    exact rest

end

end GuidedExploration.Records
