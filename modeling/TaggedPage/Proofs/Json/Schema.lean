import TaggedPage.Json.Record
import TaggedPage.Proofs.Json.Reading

/-! # Stray keys

A `Schema` says which keys the objects in a value may have, place by place, and a value strays
from it where an object has another key. A closed record refuses stray keys: when it is read,
each key that occurs is one of its fields, and the reader of the field has accepted the value
under it (`Guards.record`). What is looked for is passed from the fields to the record, so a
schema of any depth is built up from those of its parts.

A reader may accept a value only after it has seen all of it. Therefore `Guards` also says that
the value has no fault, and a shape up to the first fault is the whole shape.
-/

namespace TaggedPage.Json

/-- The keys that the objects in a value may have. A record has the keys of its fields, and may
also be written as an array of their values. -/
inductive Schema where
  | any
  | record (fields : List (String × Schema))

def schemaUnder? (fields : List (String × Schema)) (key : List Char) : Option Schema :=
  (fields.find? fun f => f.1.toList == key).map (·.2)

/-- Somewhere in a value an object has a key that is not in the schema of its place. -/
inductive Strays : Schema → Shape → Prop where
  | key {fields : List (String × Schema)} {members : List (List Char × Shape)} {key : List Char}
      {value : Shape} :
      (key, value) ∈ members → schemaUnder? fields key = none →
      Strays (.record fields) (.object members)
  | member {fields : List (String × Schema)} {members : List (List Char × Shape)}
      {key : List Char} {value : Shape} {schema : Schema} :
      (key, value) ∈ members → schemaUnder? fields key = some schema → Strays schema value →
      Strays (.record fields) (.object members)
  | item {fields : List (String × Schema)} {items : List Shape} {name : String} {value : Shape}
      {schema : Schema} :
      ((name, schema), value) ∈ fields.zip items → Strays schema value →
      Strays (.record fields) (.array items)

/-- A reader succeeds only on values without faults and without stray keys. -/
def Guards {α : Type} (schema : Schema) (read : Node → Except Complaint α) : Prop :=
  ∀ node a, read node = .ok a → node.firstFault? = none ∧ ¬ Strays schema node.shape

theorem not_strays_any (shape : Shape) : ¬ Strays .any shape := nofun

theorem not_strays_scalar (schema : Schema) : ¬ Strays schema .scalar := nofun

namespace Guards

theorem single : Guards .any Node.single := by
  intro node a hok
  cases node with
  | number => exact ⟨rfl, not_strays_any _⟩
  | _ => cases hok

theorem text : Guards .any Node.text := by
  intro node a hok
  cases node with
  | string => exact ⟨rfl, not_strays_any _⟩
  | _ => cases hok

theorem path : Guards .any Node.path := by
  intro node a hok
  cases node with
  | string => exact ⟨rfl, not_strays_any _⟩
  | _ => cases hok

theorem color : Guards .any Node.color := by
  intro node a hok
  cases hfault : node.firstFault? with
  | none => exact ⟨rfl, not_strays_any _⟩
  | some fault =>
    simp only [Node.color, hfault] at hok
    cases hok

theorem option {α : Type} {schema : Schema} {read : Node → Except Complaint α}
    (h : Guards schema read) : Guards schema (Node.option read) := by
  intro node a hok
  cases node with
  | null stop => exact ⟨rfl, not_strays_scalar schema⟩
  | _ =>
    obtain ⟨b, hread, -⟩ := map_eq_ok hok
    exact h _ b hread

end Guards

/-- A field reads its value only if that has no faults and no stray keys. -/
def Field.Guarded {ρ : Type} (field : Field ρ) (entry : String × Schema) : Prop :=
  field.key = entry.1 ∧ ∀ record, Guards entry.2 (field.read · record)

/-- A field of a guarded reader is guarded, whatever it stores. -/
theorem Guards.field {ρ α : Type} {key : String} {read : Node → Except Complaint α}
    {schema : Schema} (h : Guards schema read) (store : ρ → α → ρ) (required skippable : Bool) :
    (Field.of key read store required skippable).Guarded (key, schema) := by
  refine ⟨rfl, fun record node a hok => ?_⟩
  obtain ⟨b, hread, -⟩ := map_eq_ok hok
  exact h node b hread

namespace Record

variable {ρ : Type} {r : Record ρ} {fields : List (String × Schema)}

/-- The fields of a record guard a list of schemas, one each. -/
abbrev Guarded (r : Record ρ) (fields : List (String × Schema)) : Prop :=
  List.Forall₂ Field.Guarded r.fields fields

theorem settle_eq_ok {α : Type} {settled : Nat} {result : Except Complaint α} {a : α}
    (h : settle settled result = .ok a) : result = .ok a := by
  match result with
  | .ok b => exact h
  | .error ⟨cause, none⟩ => cases h
  | .error ⟨cause, some place⟩ => cases h

/-- The field with a key guards the schema under the key. -/
theorem field?_guards (h : r.Guarded fields) {key : List Char} {f : Field ρ}
    (hf : r.field? key = some f) :
    ∃ schema, schemaUnder? fields key = some schema ∧
      ∀ record, Guards schema (f.read · record) := by
  rw [field?] at hf
  rw [schemaUnder?]
  rw [Guarded] at h
  generalize r.fields = left at h hf
  induction h with
  | nil => cases hf
  | @cons g entry gs entries hguarded _ ih =>
    rw [List.find?_cons] at hf ⊢
    rw [← hguarded.1]
    cases hkey : g.key.toList == key with
    | true =>
      rw [hkey] at hf
      cases hf
      exact ⟨entry.2, rfl, hguarded.2⟩
    | false =>
      rw [hkey] at hf
      exact ih hf

/-- When the members of an object have been read, each has a key of the record and a value
that the field accepts. -/
theorem readMembers_guards (h : r.Guarded fields) (hclosed : r.closed = true)
    {seen : List String} {record result : ρ} {members : Members}
    (hok : r.readMembers seen record members = .ok result) :
    members.firstFault? = none ∧ ∀ key value, (key, value) ∈ members.shapes →
      ∃ schema, schemaUnder? fields key = some schema ∧ ¬ Strays schema value := by
  fun_induction Record.readMembers r seen record members with
  | case1 | case3 | case4 | case6 | case7 => cases hok
  | case2 => exact ⟨rfl, fun _ _ hmem => nomatch hmem⟩
  | case5 _ _ _ _ _ _ _ _ hopen => exact absurd hclosed hopen
  | case8 seen record key _ value settled rest f hfield _ _ hread ih =>
    obtain ⟨schema, hschema, hguards⟩ := field?_guards h hfield
    obtain ⟨hvalue, hstrays⟩ := hguards record value _ (settle_eq_ok hread)
    obtain ⟨hrest, hkeys⟩ := ih hok
    refine ⟨Members.firstFault?_member.mpr ⟨hvalue, hrest⟩, fun other shape hmem => ?_⟩
    rcases List.mem_cons.mp hmem with heq | hmem
    · cases heq
      exact ⟨schema, hschema, hstrays⟩
    · exact hkeys other shape hmem

/-- When the items of an array have been read, each is accepted by the field in its place. -/
theorem readItems_guards {count : Nat} {record result : ρ} {left : List (Field ρ)}
    (h : List.Forall₂ Field.Guarded left fields) {items : Items}
    (hok : r.readItems count record left items = .ok result) :
    items.firstFault? = none ∧ ∀ entry value, (entry, value) ∈ fields.zip items.shapes →
      ¬ Strays entry.2 value := by
  induction h generalizing count record items with
  | nil =>
    refine ⟨?_, fun _ _ hmem => nomatch hmem⟩
    match items with
    | .close stop => rfl
    | .item start value settled rest => cases hok
    | .fault fault =>
      rw [readItems, readEnd] at hok
      split at hok <;> cases hok
  | @cons f entry left entries hf _ ih =>
    match items with
    | .close stop =>
      exact ⟨rfl, fun _ _ hmem => nomatch hmem⟩
    | .fault fault => cases hok
    | .item start value settled rest =>
      rw [readItems] at hok
      split at hok
      · cases hok
      · next hread =>
        obtain ⟨hvalue, hstrays⟩ := hf.2 record value _ (settle_eq_ok hread)
        obtain ⟨hrest, hkeys⟩ := ih hok
        refine ⟨Items.firstFault?_item.mpr ⟨hvalue, hrest⟩, fun other shape hmem => ?_⟩
        rcases List.mem_cons.mp hmem with heq | hmem
        · cases heq
          exact hstrays
        · exact hkeys other shape hmem

end Record

/-- A closed record whose fields guard their schemas guards the schema of a record. -/
theorem Guards.record {ρ : Type} {r : Record ρ} {fields : List (String × Schema)}
    (h : r.Guarded fields) (hclosed : r.closed = true) : Guards (.record fields) r.read := by
  intro node result hok
  cases node with
  | object start members =>
    obtain ⟨hnone, hkeys⟩ := Record.readMembers_guards h hclosed hok
    refine ⟨hnone, fun hstrays => ?_⟩
    cases hstrays with
    | key hmem hunder =>
      obtain ⟨schema, hschema, -⟩ := hkeys _ _ hmem
      rw [hunder] at hschema
      cases hschema
    | member hmem hunder hvalue =>
      obtain ⟨schema, hschema, hnot⟩ := hkeys _ _ hmem
      rw [hunder] at hschema
      cases hschema
      exact hnot hvalue
  | array start items =>
    obtain ⟨hnone, hitems⟩ := Record.readItems_guards h hok
    refine ⟨hnone, fun hstrays => ?_⟩
    cases hstrays with
    | item hmem hvalue => exact hitems _ _ hmem hvalue
  | _ => cases hok

/-- A text is not read by a guarded reader if its value strays. -/
theorem Guards.decode {α : Type} {schema : Schema} {read : Node → Except Complaint α}
    (h : Guards schema read) {d : Grammar.Document} (hstrays : Strays schema d.value.shape) :
    ∃ e, Json.decode read d.text.toList = .error e := by
  cases hdecode : Json.decode read d.text.toList with
  | error e => exact ⟨e, rfl⟩
  | ok a =>
    obtain ⟨b, hread, -⟩ := bind_eq_ok (mapError_eq_ok hdecode)
    obtain ⟨hnone, hnot⟩ := h _ b hread
    rw [shape_ofText d hnone] at hnot
    exact absurd hstrays hnot

end TaggedPage.Json
