import TaggedPage.Proofs.Json.Schema

/-! # What reading stores

A record is read into a blank one, field by field. So what holds of the blank record and is
left alone by what the fields store holds of every record that is read (`Record.keeps_read`).
-/

namespace TaggedPage.Json

variable {ρ : Type} {P : ρ → Prop}

/-- Storing a value of the field leaves a property of the record alone. -/
def Field.Keeps (P : ρ → Prop) (f : Field ρ) : Prop :=
  ∀ node record result, f.read node record = .ok result → P record → P result

theorem Field.keeps_of {α : Type} {store : ρ → α → ρ}
    (h : ∀ record a, P record → P (store record a)) (key : String)
    (read : Node → Except Complaint α) (required skippable : Bool) :
    (Field.of key read store required skippable).Keeps P := by
  intro node record result hread hrecord
  obtain ⟨a, -, rfl⟩ := map_eq_ok hread
  exact h record a hrecord

namespace Record

variable {r : Record ρ}

theorem keeps_readMembers (h : ∀ f ∈ r.fields, f.Keeps P) {seen : List String} {record result : ρ}
    {members : Members} (hok : r.readMembers seen record members = .ok result)
    (hrecord : P record) : P result := by
  fun_induction Record.readMembers r seen record members with
  | case1 | case3 | case4 | case6 | case7 => cases hok
  | case2 => exact Except.ok.inj hok ▸ hrecord
  | case5 _ _ _ _ _ _ _ _ _ ih => exact ih hok hrecord
  | case8 seen record key _ value settled rest f hfield _ _ hread ih =>
    have hf := List.mem_of_find?_eq_some hfield
    exact ih hok (h f hf value record _ (settle_eq_ok hread) hrecord)

theorem keeps_readItems {left : List (Field ρ)} (h : ∀ f ∈ left, f.Keeps P) {count : Nat}
    {record result : ρ} {items : Items} (hok : r.readItems count record left items = .ok result)
    (hrecord : P record) : P result := by
  fun_induction Record.readItems r count record left items with
  | case1 count record items =>
    unfold readEnd at hok
    split at hok
    · exact Except.ok.inj hok ▸ hrecord
    · cases hok
    · split at hok <;> cases hok
  | case2 | case5 | case6 => cases hok
  | case3 count record f fields _ value settled rest next hread ih =>
    obtain ⟨hf, hfields⟩ := List.forall_mem_cons.mp h
    exact ih hfields hok (hf value record next (settle_eq_ok hread) hrecord)
  | case4 count record f fields stop _ ih =>
    exact ih (List.forall_mem_cons.mp h).2 hok hrecord

/-- What holds of the blank record and is left alone by all fields holds of what is read. -/
theorem keeps_read (hblank : P r.blank) (h : ∀ f ∈ r.fields, f.Keeps P) {node : Node} {result : ρ}
    (hok : r.read node = .ok result) : P result := by
  cases node with
  | object start members => exact keeps_readMembers h hok hblank
  | array start items => exact keeps_readItems h hok hblank
  | _ => cases hok

end Record

/-- A text that is read as a value has a root that is. -/
theorem exists_read_of_decode {α : Type} {read : Node → Except Complaint α} {text : List Char}
    {a : α} (h : decode read text = .ok a) : ∃ node, read node = .ok a := by
  obtain ⟨b, hread, hrest⟩ := bind_eq_ok (mapError_eq_ok h)
  split at hrest
  · cases hrest
  · exact ⟨_, hread.trans hrest⟩

end TaggedPage.Json
