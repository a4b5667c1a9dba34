import HostedStreams.Stream.PendingReads
import Mathlib.Order.Interval.Set.Basic
import Mathlib.Data.Set.Lattice

/-! Pending reads as sets of bytes. What is kept of a read are pieces of intervals, but
all that matters is which bytes they hold together: taking a chunk out of the pieces
takes its bytes out of the set, and a read is forgotten when its set is empty. -/
namespace HostedStreams

namespace Range

/-- The bytes that the interval holds. -/
def bytes (r : Range) : Set Nat :=
  Set.Ico r.start.toNat r.stop.toNat

/-- An interval is valid if it starts before it stops. -/
theorem valid_iff {r : Range} : r.valid = true ↔ r.start.toNat < r.stop.toNat := by
  simp [valid, UInt64.lt_iff_toNat_lt]

/-- A valid interval holds a byte. -/
theorem bytes_nonempty_iff {r : Range} : r.bytes.Nonempty ↔ r.valid = true := by
  rw [bytes, Set.nonempty_Ico, valid_iff]

/-- The bytes that the intervals hold together. -/
def allBytes (ranges : List Range) : Set Nat :=
  { b | ∃ r ∈ ranges, b ∈ r.bytes }

theorem mem_allBytes {ranges : List Range} {b : Nat} :
    b ∈ allBytes ranges ↔ ∃ r ∈ ranges, r.start.toNat ≤ b ∧ b < r.stop.toNat :=
  Iff.rfl

theorem allBytes_append (a b : List Range) : allBytes (a ++ b) = allBytes a ∪ allBytes b := by
  ext n
  simp only [mem_allBytes, List.mem_append, Set.mem_union, or_and_right, exists_or]

theorem allBytes_singleton (r : Range) : allBytes [r] = r.bytes := by
  ext n
  simp only [mem_allBytes, List.mem_singleton, exists_eq_left, bytes, Set.mem_Ico]

theorem allBytes_cons (r : Range) (ranges : List Range) :
    allBytes (r :: ranges) = r.bytes ∪ allBytes ranges := by
  rw [← List.singleton_append, allBytes_append, allBytes_singleton]

@[simp] theorem allBytes_nil : allBytes [] = ∅ := by
  ext n
  simp [mem_allBytes]

/-- A piece that is there only under a condition. -/
theorem mem_allBytes_piece {c : Prop} [Decidable c] {r : Range} {b : Nat} :
    b ∈ allBytes (if c then [r] else []) ↔ c ∧ b ∈ r.bytes := by
  by_cases hc : c <;> simp [hc, allBytes_singleton]

/-- Intervals that each hold a byte hold none together only if there are none. -/
theorem allBytes_eq_empty_iff {ranges : List Range} (h : ∀ r ∈ ranges, r.valid = true) :
    allBytes ranges = ∅ ↔ ranges = [] := by
  refine ⟨fun hEmpty => List.eq_nil_iff_forall_not_mem.2 fun r hr => ?_, ?_⟩
  · obtain ⟨b, hb⟩ := bytes_nonempty_iff.2 (h r hr)
    exact (Set.eq_empty_iff_forall_notMem.1 hEmpty b) ⟨r, hr, hb⟩
  · rintro rfl
    exact allBytes_nil

/-- Taking a piece out of an interval takes its bytes out. -/
theorem allBytes_without {start stop : UInt64} (h : start < stop) (r : Range) :
    allBytes (r.without start stop) = r.bytes \ Set.Ico start.toNat stop.toNat := by
  have hPiece : start.toNat < stop.toNat := UInt64.lt_iff_toNat_lt.1 h
  ext b
  unfold without
  split
  · rename_i hApart
    simp only [UInt64.le_iff_toNat_le] at hApart
    simp only [allBytes_singleton, bytes, Set.mem_sdiff, Set.mem_Ico]
    omega
  · rename_i hMeet
    simp only [UInt64.le_iff_toNat_le, not_or, Nat.not_le] at hMeet
    simp only [allBytes_append, Set.mem_union, mem_allBytes_piece, bytes, Set.mem_sdiff,
      Set.mem_Ico, UInt64.lt_iff_toNat_lt]
    omega

/-- What is left of an interval that holds a byte are intervals that hold a byte each. -/
theorem valid_without {start stop : UInt64} {r piece : Range} (h : r.valid = true)
    (hPiece : piece ∈ r.without start stop) : piece.valid = true := by
  unfold without at hPiece
  split at hPiece
  · obtain rfl := List.mem_singleton.1 hPiece
    exact h
  · rcases List.mem_append.1 hPiece with hLeft | hRight
    · split at hLeft
      · obtain rfl := List.mem_singleton.1 hLeft
        simpa [valid]
      · simp at hLeft
    · split at hRight
      · obtain rfl := List.mem_singleton.1 hRight
        simpa [valid]
      · simp at hRight

end Range

namespace DataArrived

/-- The places of the chunk's bytes. Nothing bounds them, unlike the places that a
range can name. -/
def bytes (p : DataArrived) : Set Nat :=
  Set.Ico p.offset.toNat (p.offset.toNat + p.data.length)

/-- The end of a chunk saturates. -/
theorem toNat_stop (p : DataArrived) :
    p.stop.toNat = min (p.offset.toNat + p.data.length) (UInt64.size - 1) := by
  have hSize : UInt64.size = 18446744073709551616 := rfl
  unfold stop
  split
  · rename_i hFits
    rw [UInt64.toNat_add, UInt64.toNat_ofNat']
    omega
  · rename_i hBeyond
    have hMax : (0xffffffffffffffff : UInt64).toNat = UInt64.size - 1 := rfl
    rw [hMax]
    omega

/-- Of what ranges can name, a chunk holds the bytes before its end. -/
theorem diff_bytes {ranges : List Range} (p : DataArrived) :
    Range.allBytes ranges \ p.bytes =
      Range.allBytes ranges \ Set.Ico p.offset.toNat p.stop.toNat := by
  ext b
  simp only [Set.mem_sdiff, bytes, Set.mem_Ico, toNat_stop]
  apply and_congr_right
  rintro ⟨r, _, hb⟩
  have hBound : r.stop.toNat < UInt64.size := r.stop.toNat_lt
  simp only [Range.bytes, Set.mem_Ico] at hb
  omega

end DataArrived

namespace PendingReads

/-- A chunk that names no read answers all of them. -/
theorem answers_iff {p : DataArrived} {id : RequestId} :
    answers p id = true ↔ p.request = none ∨ p.request = some id := by
  unfold answers
  cases p.request <;> simp

/-- The cut takes its bytes out of the ranges, and no others. -/
theorem allBytes_consume {start stop : UInt64} (h : start < stop) (ranges : List Range) :
    Range.allBytes (consume start stop ranges) =
      Range.allBytes ranges \ Set.Ico start.toNat stop.toNat := by
  induction ranges with
  | nil => simp [consume]
  | cons r rest ih =>
    rw [consume, List.flatMap_cons, Range.allBytes_append, Range.allBytes_without h,
      Range.allBytes_cons, Set.union_sdiff_distrib]
    rw [consume] at ih
    rw [ih]

/-- What is left after a cut is valid. -/
theorem valid_consume {start stop : UInt64} {ranges : List Range}
    (h : ∀ r ∈ ranges, r.valid = true) : ∀ r ∈ consume start stop ranges, r.valid = true := by
  intro piece hPiece
  obtain ⟨r, hr, hPiece⟩ := List.mem_flatMap.1 hPiece
  exact Range.valid_without (h r hr) hPiece

theorem mem_ids {pending : PendingReads} {id : RequestId} :
    id ∈ pending.ids ↔ ∃ left, (id, left) ∈ pending := by
  simp [ids]

/-- A read under a new number comes last. -/
theorem insert_eq_append {id : RequestId} {ranges : List Range} {pending : PendingReads}
    (h : ∀ other ∈ pending.ids, other.number < id.number) :
    pending.insert id ranges = pending ++ [(id, ranges)] := by
  induction pending with
  | nil => rfl
  | cons entry rest ih =>
    obtain ⟨other, left⟩ := entry
    rw [insert, if_pos (h other (by simp [ids]))]
    rw [ih fun q hq => h q (by simp [ids] at hq ⊢; exact .inr hq)]
    rfl

/-- A chunk cuts the reads that it answers and leaves the others alone, and reads of which nothing
is left are not kept. -/
theorem mem_retire {p : DataArrived} (h : p.offset < p.stop) {pending : PendingReads}
    {id : RequestId} {rest : List Range} :
    (id, rest) ∈ pending.retire p ↔ ∃ left, (id, left) ∈ pending ∧
      (answers p id = true ∧ rest = consume p.offset p.stop left ∧ rest ≠ [] ∨
        answers p id = false ∧ rest = left) := by
  rw [retire, if_pos h, List.mem_filterMap]
  constructor
  · rintro ⟨⟨other, left⟩, hLeft, hRest⟩
    by_cases hAnswers : answers p other = true
    · by_cases hEmpty : consume p.offset p.stop left = []
      · simp [hAnswers, hEmpty] at hRest
      · simp only [hAnswers, if_true, List.isEmpty_iff, hEmpty, if_false, Option.some.injEq,
          Prod.mk.injEq] at hRest
        obtain ⟨rfl, rfl⟩ := hRest
        exact ⟨left, hLeft, .inl ⟨hAnswers, rfl, hEmpty⟩⟩
    · simp only [hAnswers, Bool.false_eq_true, if_false, Option.some.injEq, Prod.mk.injEq] at hRest
      obtain ⟨rfl, rfl⟩ := hRest
      exact ⟨left, hLeft, .inr ⟨by simpa using hAnswers, rfl⟩⟩
  · rintro ⟨left, hLeft, ⟨hAnswers, rfl, hSome⟩ | ⟨hOther, rfl⟩⟩
    · exact ⟨(id, left), hLeft, by simp [hAnswers, hSome]⟩
    · exact ⟨(id, rest), hLeft, by simp [hOther]⟩

/-- A chunk adds no reads. -/
theorem ids_retire {p : DataArrived} {pending : PendingReads} {id : RequestId}
    (h : id ∈ (pending.retire p).ids) : id ∈ pending.ids := by
  by_cases hChunk : p.offset < p.stop
  · obtain ⟨rest, hRest⟩ := mem_ids.1 h
    obtain ⟨left, hLeft, -⟩ := (mem_retire hChunk).1 hRest
    exact mem_ids.2 ⟨left, hLeft⟩
  · rwa [retire, if_neg hChunk] at h

theorem mem_insert {id other : RequestId} {ranges left : List Range}
    {pending : PendingReads} (h : (other, left) ∈ pending.insert id ranges) :
    other = id ∧ left = ranges ∨ (other, left) ∈ pending := by
  induction pending with
  | nil => exact .inl (by simpa [insert] using h)
  | cons entry rest ih =>
    simp only [insert] at h
    split at h
    · rcases List.mem_cons.1 h with hFirst | hRest
      · exact .inr (List.mem_cons.2 (.inl hFirst))
      · exact (ih hRest).imp_right (List.mem_cons_of_mem _)
    · split at h
      · rcases List.mem_cons.1 h with hFirst | hRest
        · exact .inl (Prod.mk.inj hFirst)
        · exact .inr (List.mem_cons_of_mem _ hRest)
      · exact (List.mem_cons.1 h).imp_left Prod.mk.inj

theorem ids_insert {id other : RequestId} {ranges : List Range} {pending : PendingReads}
    (h : other ∈ (pending.insert id ranges).ids) : other = id ∨ other ∈ pending.ids := by
  obtain ⟨left, hLeft⟩ := mem_ids.1 h
  exact (mem_insert hLeft).imp And.left fun hOld => mem_ids.2 ⟨left, hOld⟩

/-- The pending reads are those to which bytes are owed, and what is kept of each holds
exactly these bytes. -/
structure Accounts (pending : PendingReads) (owed : RequestId → Set Nat) : Prop where
  bytes : ∀ {id left}, (id, left) ∈ pending → Range.allBytes left = owed id
  some_ : ∀ {id left}, (id, left) ∈ pending → left ≠ []
  valid : ∀ {id left}, (id, left) ∈ pending → ∀ r ∈ left, r.valid = true
  unlisted : ∀ {id}, id ∉ pending.ids → owed id = ∅

namespace Accounts

variable {pending : PendingReads} {owed : RequestId → Set Nat} (h : pending.Accounts owed)

theorem nil : Accounts [] fun _ => ∅ where
  bytes h := absurd h List.not_mem_nil
  some_ h := absurd h List.not_mem_nil
  valid h := absurd h List.not_mem_nil
  unlisted _ := rfl

include h

/-- A read is pending as long as something is owed to it. -/
theorem mem_ids_iff {id : RequestId} : id ∈ pending.ids ↔ (owed id).Nonempty := by
  constructor
  · intro hId
    obtain ⟨left, hLeft⟩ := mem_ids.1 hId
    rw [← h.bytes hLeft, Set.nonempty_iff_ne_empty]
    exact fun hEmpty => h.some_ hLeft ((Range.allBytes_eq_empty_iff (h.valid hLeft)).1 hEmpty)
  · intro hOwed
    apply Decidable.byContradiction
    intro hNot
    rw [h.unlisted hNot] at hOwed
    exact Set.not_nonempty_empty hOwed

/-- A read under a number behind all others. -/
theorem insert {id : RequestId} {ranges : List Range} (hSome : ranges ≠ [])
    (hValid : ∀ r ∈ ranges, r.valid = true)
    (hLast : ∀ other ∈ pending.ids, other.number < id.number) :
    (pending.insert id ranges).Accounts (Function.update owed id (Range.allBytes ranges)) := by
  have hInsert : pending.insert id ranges = pending ++ [(id, ranges)] := insert_eq_append hLast
  have hOther {other : RequestId} {left : List Range} (hLeft : (other, left) ∈ pending) :
      other ≠ id := by
    rintro rfl
    exact absurd (hLast _ (mem_ids.2 ⟨_, hLeft⟩)) (UInt64.lt_irrefl _)
  have hCases {other : RequestId} {left : List Range}
      (hLeft : (other, left) ∈ pending.insert id ranges) :
      (other, left) ∈ pending ∨ other = id ∧ left = ranges := by
    rw [hInsert] at hLeft
    simpa using hLeft
  constructor
  · intro other left hLeft
    rcases hCases hLeft with hOld | ⟨rfl, rfl⟩
    · rw [Function.update_of_ne (hOther hOld), h.bytes hOld]
    · rw [Function.update_self]
  · intro other left hLeft
    rcases hCases hLeft with hOld | ⟨rfl, rfl⟩
    · exact h.some_ hOld
    · exact hSome
  · intro other left hLeft
    rcases hCases hLeft with hOld | ⟨rfl, rfl⟩
    · exact h.valid hOld
    · exact hValid
  · intro other hNot
    rw [hInsert, ids, List.map_append, List.mem_append, not_or] at hNot
    rw [Function.update_of_ne (by simpa using hNot.2), h.unlisted hNot.1]

/-- A read that is forgotten. -/
theorem erase (id : RequestId) : (pending.erase id).Accounts (Function.update owed id ∅) := by
  have hCases {other : RequestId} {left : List Range} (hLeft : (other, left) ∈ pending.erase id) :
      (other, left) ∈ pending ∧ other ≠ id := by
    simpa [PendingReads.erase] using hLeft
  constructor
  · intro other left hLeft
    rw [Function.update_of_ne (hCases hLeft).2, h.bytes (hCases hLeft).1]
  · intro other left hLeft
    exact h.some_ (hCases hLeft).1
  · intro other left hLeft
    exact h.valid (hCases hLeft).1
  · intro other hNot
    by_cases hId : other = id
    · rw [hId, Function.update_self]
    · rw [Function.update_of_ne hId]
      refine h.unlisted fun hMem => hNot ?_
      obtain ⟨left, hLeft⟩ := mem_ids.1 hMem
      exact mem_ids.2 ⟨left, by simp [PendingReads.erase, hLeft, hId]⟩

/-- A chunk is taken out of the reads that it answers. -/
theorem retire (p : DataArrived) : (pending.retire p).Accounts fun id =>
    if answers p id then owed id \ p.bytes else owed id := by
  by_cases hChunk : p.offset < p.stop
  · constructor
    · intro id rest hRest
      obtain ⟨left, hLeft, ⟨hAnswers, rfl, -⟩ | ⟨hOther, rfl⟩⟩ := (mem_retire hChunk).1 hRest
      · rw [if_pos hAnswers, allBytes_consume hChunk, ← h.bytes hLeft, p.diff_bytes]
      · rw [if_neg (by simp [hOther]), h.bytes hLeft]
    · intro id rest hRest
      obtain ⟨left, hLeft, ⟨-, -, hSome⟩ | ⟨-, rfl⟩⟩ := (mem_retire hChunk).1 hRest
      · exact hSome
      · exact h.some_ hLeft
    · intro id rest hRest
      obtain ⟨left, hLeft, ⟨-, rfl, -⟩ | ⟨-, rfl⟩⟩ := (mem_retire hChunk).1 hRest
      · exact valid_consume (h.valid hLeft)
      · exact h.valid hLeft
    · intro id hNot
      by_cases hId : id ∈ pending.ids
      · -- A read that is no longer listed was answered, and nothing was left of it.
        obtain ⟨left, hLeft⟩ := mem_ids.1 hId
        have hAnswers : answers p id = true := by
          refine Decidable.byContradiction fun hOther => hNot (mem_ids.2 ⟨left, ?_⟩)
          exact (mem_retire hChunk).2 ⟨left, hLeft, .inr ⟨by simpa using hOther, rfl⟩⟩
        have hEmpty : consume p.offset p.stop left = [] := by
          refine Decidable.byContradiction fun hSome => hNot (mem_ids.2
            ⟨consume p.offset p.stop left, ?_⟩)
          exact (mem_retire hChunk).2 ⟨left, hLeft, .inl ⟨hAnswers, rfl, hSome⟩⟩
        rw [if_pos hAnswers, ← h.bytes hLeft, p.diff_bytes, ← allBytes_consume hChunk, hEmpty,
          Range.allBytes_nil]
      · rw [h.unlisted hId, Set.empty_sdiff, ite_self]
  · -- The chunk has no bytes that ranges could name.
    have hSame {id : RequestId} {left : List Range} (hLeft : (id, left) ∈ pending) :
        owed id \ p.bytes = owed id := by
      rw [← h.bytes hLeft, p.diff_bytes, Set.Ico_eq_empty (by rwa [← UInt64.lt_iff_toNat_lt]),
        Set.sdiff_empty]
    rw [PendingReads.retire, if_neg hChunk]
    constructor
    · intro id left hLeft
      rw [hSame hLeft, ite_self, h.bytes hLeft]
    · exact h.some_
    · exact h.valid
    · intro id hNot
      rw [h.unlisted hNot, Set.empty_sdiff, ite_self]

end Accounts
end PendingReads
end HostedStreams
