import HostedStreams.Json.Record
import HostedStreams.Proofs.Documents

/-! What a record is offered by the members of an object: it does not depend on their order, nor on
members of other names, and a name that is there twice offers nothing. -/
namespace HostedStreams

namespace Json

namespace Slot

variable {members others : List (String × Json)} {name : String}

/-- A member is found wherever it stands. -/
theorem find?_perm (h : members.Perm others) : find? members name = find? others name := by
  have hNamed := h.filter (·.1 == name)
  unfold find?
  generalize members.filter (·.1 == name) = named at hNamed ⊢
  generalize others.filter (·.1 == name) = others at hNamed ⊢
  rcases others with _ | ⟨m, _ | ⟨n, rest⟩⟩
  · rw [hNamed.eq_nil]
  · rw [hNamed.eq_singleton]
  · have hLength := hNamed.length_eq
    rcases named with _ | ⟨a, _ | ⟨b, front⟩⟩
    · cases hLength
    · cases hLength
    · rfl

/-- Members of other names are not looked at. -/
theorem find?_append (strange : ∀ m ∈ others, m.1 ≠ name) :
    find? (members ++ others) name = find? members name := by
  have hNone : others.filter (·.1 == name) = [] := List.filter_eq_nil_iff.2 (by simpa using strange)
  rw [find?, List.filter_append, hNone, List.append_nil, find?]

/-- Nor is it looked at which of them are left. -/
theorem find?_filter {p : String × Json → Bool} (keeps : ∀ m ∈ members, m.1 = name → p m = true) :
    find? (members.filter p) name = find? members name := by
  have hSame : (members.filter p).filter (·.1 == name) = members.filter (·.1 == name) := by
    rw [List.filter_filter]
    refine List.filter_congr fun m hm => ?_
    by_cases hName : m.1 = name
    · simp [hName, keeps m hm hName]
    · simp [hName]
  rw [find?, hSame, find?]

theorem find?_of_absent (absent : ∀ m ∈ members, m.1 ≠ name) :
    find? members name = some .missing := by
  have hNone : members.filter (·.1 == name) = [] := List.filter_eq_nil_iff.2 (by simpa using absent)
  rw [find?, hNone]

theorem find?_of_mem {m : String × Json} (mem : m ∈ members)
    (once : members.countP (·.1 == m.1) ≤ 1) : find? members m.1 = some (.given m.2) := by
  have hNamed : m ∈ members.filter (·.1 == m.1) := by simp [mem]
  rw [List.countP_eq_length_filter] at once
  unfold find?
  generalize members.filter (·.1 == m.1) = named at hNamed once ⊢
  rcases named with _ | ⟨n, _ | ⟨o, rest⟩⟩
  · cases hNamed
  · rw [List.mem_singleton.1 hNamed]
  · simp at once

/-- A name that is there twice is refused. -/
theorem find?_of_repeated (twice : 1 < members.countP (·.1 == name)) :
    find? members name = none := by
  rw [List.countP_eq_length_filter] at twice
  unfold find?
  split
  case h_1 hNone => simp [hNone] at twice
  case h_2 hOne => simp [hOne] at twice
  case h_3 => rfl

/-- The members offer what the fields say, other than what is omitted. -/
def Offers (omitted : List String) (fields members : List (String × Json)) : Prop :=
  ∀ m ∈ fields, find? members m.1 = some (if m.1 ∈ omitted then .missing else .given m.2)

/-- The fields may stand in any order and among others. -/
theorem Offers.of_perm {omitted : List String} {fields extra : List (String × Json)}
    (nodup : (fields.map (·.1)).Nodup) (strange : ∀ m ∈ extra, m.1 ∉ fields.map (·.1))
    (perm : members.Perm (fields.filter (·.1 ∉ omitted) ++ extra)) :
    Offers omitted fields members := by
  intro m hm
  have hExtra : ∀ o ∈ extra, o.1 ≠ m.1 := fun o ho hName =>
    strange o ho (List.mem_map.2 ⟨m, hm, hName.symm⟩)
  rw [find?_perm perm, find?_append hExtra]
  split
  case isTrue hOmitted =>
    refine find?_of_absent fun o ho hName => ?_
    have hKept := (List.mem_filter.1 ho).2
    simp [hName, hOmitted] at hKept
  case isFalse hKept =>
    have hOnce : fields.countP (·.1 == m.1) ≤ 1 := by
      have hCount := List.nodup_iff_count.1 nodup m.1
      rwa [List.count, List.countP_map] at hCount
    rw [find?_filter fun o _ hName => by simpa [hName] using hKept, find?_of_mem hm hOnce]

/-- The members are the fields, less those omitted, in any order and among members of other names.
-/
def Arranges (omitted : List String) (fields members : List (String × Json)) : Prop :=
  ∃ extra, (∀ m ∈ extra, m.1 ∉ fields.map (·.1)) ∧
    members.Perm (fields.filter (·.1 ∉ omitted) ++ extra)

/-- Members in any order and among others offer what the fields say, unless a name is there twice.
-/
theorem Arranges.offers {omitted : List String} {fields : List (String × Json)}
    (h : Arranges omitted fields members) (nodup : (fields.map (·.1)).Nodup) :
    Offers omitted fields members := by
  obtain ⟨extra, hStrange, hPerm⟩ := h
  exact .of_perm nodup hStrange hPerm

/-- Nothing omitted. -/
theorem perm_filter_nil (fields : List (String × Json)) :
    fields.Perm (fields.filter (·.1 ∉ ([] : List String)) ++ []) := by
  have hAll : fields.filter (·.1 ∉ ([] : List String)) = fields :=
    List.filter_eq_self.2 (by simp)
  rw [hAll, List.append_nil]

theorem arranges_self (fields : List (String × Json)) : Arranges [] fields fields :=
  ⟨[], by simp, perm_filter_nil fields⟩

end Slot

theorem nullable?_of_read {α : Type} {read : Json → Option α} (blank : read .null = none)
    {v : Json} {a : α} (h : read v = some a) : nullable? read v = some (some a) := by
  cases v with
  | null =>
    rw [blank] at h
    cases h
  | _ => simp [nullable?, h]

/-- A value that may be missing is read back if the value is. -/
theorem nullable?_ofOption {α : Type} {read : Json → Option α} {write : α → Json}
    (back : ∀ a, read (write a) = some a) (blank : read .null = none) (x : Option α) :
    nullable? read (ofOption write x) = some x := by
  cases x with
  | none => rfl
  | some a => exact nullable?_of_read blank (back a)

theorem Slot.optional_offered {α : Type} {read : Json → Option α} {write : α → Json}
    (back : ∀ a, read (write a) = some a) (blank : read .null = none) (p : Prop) [Decidable p]
    (x : Option α) :
    (if p then missing else given (ofOption write x)).optional read =
      some (if p then none else x) := by
  split
  · rfl
  · exact nullable?_ofOption back blank x

/-- A list is read back if each of its items is. -/
theorem mapM_map_of_back {α : Type} {read : Json → Option α} {write : α → Json}
    (back : ∀ a, read (write a) = some a) (l : List α) : (l.map write).mapM read = some l := by
  induction l with
  | nil => rfl
  | cons a l ih => simp [List.mapM_cons, back, ih]

theorem word?_ofWord (n : UInt64) : word? (ofWord n) = some n := by
  have hSize : n.toNat < UInt64.size := n.toNat_lt
  simp [word?, ofWord, hSize]

theorem byte?_ofNat (b : UInt8) : byte? (ofNat b.toNat) = some b := by
  have hSize : b.toNat < 256 := b.toNat_lt
  simp [byte?, ofNat]
  omega

theorem str?_str (s : String) : str? (.str s) = some s := rfl

theorem bool?_bool (b : Bool) : bool? (.bool b) = some b := rfl

/-- At most an array of scalars, and plain. -/
def Shallow (v : Json) : Prop :=
  v.Plain ∧ v.depth ≤ 1

theorem shallow_str (s : String) : (Json.str s).Shallow :=
  ⟨.str s, Nat.zero_le 1⟩

theorem shallow_bool (b : Bool) : (Json.bool b).Shallow :=
  ⟨.bool b, Nat.zero_le 1⟩

theorem shallow_ofWord (n : UInt64) : (ofWord n).Shallow :=
  ⟨.int n.toNat_lt, Nat.zero_le 1⟩

theorem shallow_ofOption {α : Type} {write : α → Json} (h : ∀ a, (write a).Shallow) (x : Option α) :
    (ofOption write x).Shallow := by
  cases x with
  | none => exact ⟨.null, Nat.zero_le 1⟩
  | some a => exact h a

theorem shallow_bytes (l : List UInt8) : (Json.arr (l.map fun b => ofNat b.toNat)).Shallow := by
  have hByte : ∀ v ∈ l.map (fun b => ofNat b.toNat), v.Plain ∧ v.depth ≤ 0 := by
    intro v hv
    obtain ⟨b, -, rfl⟩ := List.mem_map.1 hv
    exact ⟨.int (Nat.lt_trans b.toNat_lt (by decide)), Nat.le_refl 0⟩
  exact ⟨.arr fun v hv => (hByte v hv).1,
    Nat.succ_le_succ (depthItems_le fun v hv => (hByte v hv).2)⟩

/-- An object in which a known name is there twice has no slots. -/
theorem slots?_of_repeated {members : List (String × Json)} {names : List String} {name : String}
    (known : name ∈ names) (twice : 1 < members.countP (·.1 == name)) :
    (Json.obj members).slots? names = none := by
  change names.mapM (Slot.find? members) = none
  induction names with
  | nil => cases known
  | cons first names ih =>
    rw [List.mapM_cons]
    rcases List.mem_cons.1 known with rfl | known
    · rw [Slot.find?_of_repeated twice]
      rfl
    · rw [ih known]
      cases Slot.find? members first <;> rfl

end Json

end HostedStreams
