import GuidedExploration.Json.Schema
import GuidedExploration.Proofs.Dict
import Mathlib.Data.List.Induction

/-!
Values of a type are read back from the JSON values that stand for them: integers of each width,
dictionaries, and the fields of a record.
-/

set_option autoImplicit false

namespace GuidedExploration.Json

@[simp] theorem text?_text (s : String) : (text s).text? = some s := rfl

theorem int?_integer (n : Int) : (integer n).int? = some n := by
  by_cases negative : n < 0
  · simp [int?, integer, Number.toInt?, Number.isInteger, negative, Int.ne_of_lt negative,
      abs_of_neg negative]
  · simp [int?, integer, Number.toInt?, Number.isInteger, negative,
      abs_of_nonneg (Int.not_lt.1 negative)]

theorem int?_natural (n : Nat) : (natural n).int? = some (n : Int) := rfl

@[simp] theorem int32?_integer (n : Int32) : (integer n.toInt).int32? = some n := by
  have inRange : -2147483648 ≤ n.toInt ∧ n.toInt < 2147483648 := ⟨n.le_toInt, n.toInt_lt⟩
  rw [int32?, int?_integer, Option.bind_some, if_pos inRange, Int32.ofInt_toInt]

@[simp] theorem uint64?_natural (n : UInt64) : (natural n.toNat).uint64? = some n := by
  have high := n.toNat_lt
  rw [uint64?, int?_natural, Option.bind_some, if_pos (by omega)]
  simp

@[simp] theorem uint32?_natural (n : UInt32) : (natural n.toNat).uint32? = some n := by
  have high := n.toNat_lt
  rw [uint32?, int?_natural, Option.bind_some, if_pos (by omega)]
  simp

section

variable {α β : Type} {f : α → Option α}

theorem isSome_mapM_iff {as : List α} :
    (as.mapM f).isSome = true ↔ ∀ a ∈ as, (f a).isSome = true := by
  induction as with
  | nil => simp
  | cons a as ih =>
    rw [List.mapM_cons, List.forall_mem_cons, ← ih]
    cases f a <;> cases as.mapM f <;> simp

theorem mem_of_mapM {f : α → Option β} {as : List α} {bs : List β} (found : as.mapM f = some bs)
    {b : β} (member : b ∈ bs) : ∃ a ∈ as, f a = some b := by
  induction as generalizing bs with
  | nil =>
    cases found
    cases member
  | cons a as ih =>
    simp only [List.mapM_cons, Option.bind_eq_bind, Option.bind_eq_some_iff] at found
    obtain ⟨first, head, rest, tail, same⟩ := found
    cases same
    rcases List.mem_cons.1 member with rfl | later
    · exact ⟨a, List.mem_cons_self, head⟩
    · obtain ⟨origin, inside, came⟩ := ih tail later
      exact ⟨origin, List.mem_cons_of_mem a inside, came⟩

theorem mapM_eq_self_iff {as : List α} : as.mapM f = some as ↔ ∀ a ∈ as, f a = some a := by
  induction as with
  | nil => simp
  | cons a as ih =>
    rw [List.mapM_cons, List.forall_mem_cons, ← ih]
    cases f a <;> cases as.mapM f <;> simp

theorem mapM_concat_eq_some_iff {f : α → Option β} {as : List α} {bs : List β} {a : α} {b : β} :
    (as ++ [a]).mapM f = some (bs ++ [b]) ↔ as.mapM f = some bs ∧ f a = some b := by
  simp only [List.mapM_append, List.mapM_cons, List.mapM_nil]
  cases as.mapM f <;> cases f a <;> simp [List.append_singleton_inj]

theorem exists_mapM_beq_iff [BEq α] {as : List α} :
    (∃ bs, as.mapM f = some bs ∧ (bs == as) = true) ↔
      ∀ a ∈ as, ∃ b, f a = some b ∧ (b == a) = true := by
  induction as with
  | nil => simp
  | cons a as ih =>
    rw [List.mapM_cons, List.forall_mem_cons, ← ih]
    cases f a with
    | none => simp
    | some b => cases as.mapM f <;> simp

theorem exists_of_mem_list? {item? : Json → Option α} {j : Json} {as : List α}
    (found : j.list? item? = some as) {a : α} (member : a ∈ as) : ∃ item, item? item = some a := by
  cases j with
  | array items =>
    obtain ⟨item, -, came⟩ := mem_of_mapM found member
    exact ⟨item, came⟩
  | _ => cases found

end

theorem dict?_ofDict_of_inverse {κ ν : Type} [Ranked κ] {key : κ → String} {key? : String → Option κ}
    {value : ν → Json} {value? : Json → Option ν} (keys : ∀ k, key? (key k) = some k)
    (values : ∀ v, value? (value v) = some v) (d : Dict κ ν) :
    dict? key? value? (ofDict key value d) = some d := by
  have entries : (d.entries.map fun e => (some (key e.1), value e.2)).mapM
      (fun (member : Option String × Json) => do
        let key ← member.1.bind key?
        let value ← value? member.2
        return (key, value)) = some d.entries := by
    rw [List.mapM_map]
    apply mapM_eq_self_iff.2
    intro e _
    simp [keys, values]
  have shape : ofDict key value d = .object (d.entries.map fun e => (some (key e.1), value e.2)) := by
    simp only [ofDict, record, List.map_map]
    rfl
  rw [shape, dict?, entries, Option.map_some, Dict.ofList_entries]

@[simp] theorem dict?_ofDict (d : Dict String String) :
    dict? some text? (ofDict id text d) = some d :=
  dict?_ofDict_of_inverse (fun _ => rfl) text?_text d

/-- The value of the last member whose name is read as a key. -/
def lastMember? {κ : Type} [DecidableEq κ] (key? : String → Option κ)
    (members : List (Option String × Json)) (k : κ) : Option Json :=
  (members.reverse.find? fun member => member.1.bind key? == some k).map (·.2)

theorem get?_of_dict? {κ ν : Type} [Ranked κ] [DecidableEq κ] {key? : String → Option κ}
    {value? : Json → Option ν} {members : List (Option String × Json)} {d : Dict κ ν}
    (found : dict? key? value? (.object members) = some d) (k : κ) :
    d.get? k = (lastMember? key? members k).bind value? := by
  obtain ⟨entries, read, rfl⟩ := Option.map_eq_some_iff.1 found
  clear found
  -- The last member is put in last, so the induction is from the end.
  induction members using List.reverseRecOn generalizing entries with
  | nil =>
    cases read
    rfl
  | append_singleton members member ih =>
    obtain ⟨name, j⟩ := member
    simp only [List.mapM_append, List.mapM_cons, List.mapM_nil, Option.bind_eq_bind,
      Option.bind_eq_some_iff, Option.pure_def, Option.some.injEq] at read
    obtain ⟨first, begun, last, ⟨e, ⟨k', named, v, valued, rfl⟩, _, rfl, rfl⟩, rfl⟩ := read
    rw [Dict.ofList_concat, Dict.get?_insert_eq, lastMember?, List.reverse_append,
      List.reverse_singleton, List.singleton_append, List.find?_cons,
      Option.bind_eq_some_iff.2 named]
    by_cases same : k = k'
    · subst same
      simp [valued]
    · have apart : (some k' == some k) = false := by simpa using Ne.symm same
      rw [if_neg same, apart, ih first begun]
      rfl

theorem isEmpty_of_dict? {κ ν : Type} [Ranked κ] {key? : String → Option κ}
    {value? : Json → Option ν} {j : Json} {d : Dict κ ν} (found : dict? key? value? j = some d) :
    d.isEmpty = true ↔ j = .object [] := by
  cases j with
  | object members =>
    obtain ⟨entries, read, rfl⟩ := Option.map_eq_some_iff.1 found
    rw [Dict.isEmpty_ofList]
    cases members with
    | nil =>
      cases read
      simp
    | cons member members =>
      simp only [List.mapM_cons, Option.bind_eq_bind, Option.bind_eq_some_iff, Option.pure_def,
        Option.some.injEq] at read
      obtain ⟨e, -, rest, -, rfl⟩ := read
      simp
  | _ => cases found

theorem list?_array_of_inverse {α : Type} {item : α → Json} {item? : Json → Option α}
    (items : ∀ a, item? (item a) = some a) (as : List α) :
    list? item? (.array (as.map item)) = some as := by
  rw [list?, List.mapM_map]
  apply mapM_eq_self_iff.2
  intro a _
  exact items a

theorem record_inj {members written : List (String × Json)} :
    record members = record written ↔ members = written := by
  constructor
  · intro same
    refine List.map_injective_iff.2 ?_ (object.inj same)
    rintro ⟨name, value⟩ ⟨other, content⟩ equal
    cases equal
    rfl
  · exact congrArg record

theorem known?_record (fields : List String) {members : List (String × Json)}
    (distinct : (members.map Prod.fst).Nodup) :
    known? fields (members.map fun (name, value) => (some name, value)) =
      some (members.filter fun member => fields.contains member.1) := by
  induction members with
  | nil => rfl
  | cons member members ih =>
    obtain ⟨name, value⟩ := member
    obtain ⟨absent, later⟩ := List.nodup_cons.1 distinct
    -- A name that is written once more would be refused, so the names have to be distinct.
    have single : ((members.filter fun member => fields.contains member.1).any fun (other, _) =>
        other == name) = false := by
      rw [List.any_eq_false]
      rintro ⟨other, content⟩ inside same
      exact absent (List.mem_map.2 ⟨_, (List.mem_filter.1 inside).1, beq_iff_eq.1 same⟩)
    simp only [List.map_cons, known?, ih later, Option.bind_eq_bind, Option.bind_some, single]
    cases asked : fields.contains name with
    | true => simp only [List.filter_cons, asked, if_true]; rfl
    | false => simp only [List.filter_cons, asked]; rfl

theorem fields?_record_of_subset {fields : List String} {members : List (String × Json)}
    (own : ∀ member ∈ members, member.1 ∈ fields) (distinct : (members.map Prod.fst).Nodup) :
    (record members).fields? fields = some members := by
  rw [record, fields?, known?_record fields distinct, List.filter_eq_self.2]
  intro member inside
  exact List.contains_iff_mem.2 (own member inside)

theorem fields?_record {fields : List String} {members : List (String × Json)}
    (same : members.map Prod.fst = fields) (distinct : fields.Nodup) :
    (record members).fields? fields = some members := by
  subst same
  exact fields?_record_of_subset (fun _ inside => List.mem_map_of_mem inside) distinct

theorem isSound_record (members : List (String × Json)) :
    (record members).isSound = members.all fun member => member.2.isSound := by
  rw [record, isSound]
  induction members with
  | nil => rfl
  | cons member members ih => simp [areSoundMembers, ih]

theorem depth_record {members : List (String × Json)} (flat : ∀ member ∈ members, member.2.depth = 0) :
    (record members).depth = 1 := by
  have level : depthOfMembers (members.map fun (name, value) => (some name, value)) = 0 := by
    induction members with
    | nil => rfl
    | cons member members ih =>
      have first := flat member List.mem_cons_self
      have later := ih fun other inside => flat other (List.mem_cons_of_mem member inside)
      simp only [List.map_cons, depthOfMembers, first, later]
      rfl
  rw [record, depth, level]

section

variable {α : Type} {name other : String} (value : Json) (rest : List (String × Json))

theorem field?_head : field? ((name, value) :: rest) name = some value := by
  rw [field?, List.lookup_cons_self]

theorem field?_tail (apart : name ≠ other) : field? ((other, value) :: rest) name = field? rest name := by
  rw [field?, List.lookup_cons, beq_eq_false_iff_ne.2 apart, field?]

@[simp] theorem required?_head (decode : Json → Option α) :
    required? ((name, value) :: rest) name decode = decode value := by
  rw [required?, field?_head, Option.bind_some]

@[simp] theorem required?_tail (apart : name ≠ other) (decode : Json → Option α) :
    required? ((other, value) :: rest) name decode = required? rest name decode := by
  rw [required?, field?_tail value rest apart, required?]

@[simp] theorem default?_head (absent : α) (decode : Json → Option α) :
    default? ((name, value) :: rest) name absent decode = decode value := by
  rw [default?, field?_head]

@[simp] theorem default?_tail (apart : name ≠ other) (absent : α) (decode : Json → Option α) :
    default? ((other, value) :: rest) name absent decode = default? rest name absent decode := by
  rw [default?, field?_tail value rest apart, default?]

@[simp] theorem default?_nil (absent : α) (decode : Json → Option α) :
    default? [] name absent decode = some absent := rfl

theorem optional?_of_ne_null {j : Json} (filled : j ≠ .null) (decode : Json → Option α) :
    optional? decode j = (decode j).map some := by
  cases j with
  | null => exact absurd rfl filled
  | _ => rfl

end

end GuidedExploration.Json
