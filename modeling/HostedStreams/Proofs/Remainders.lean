import HostedStreams.Proofs.Coverage
import Mathlib.Algebra.GroupWithZero.Nat
import Mathlib.Data.List.Forall2
import Mathlib.Order.Interval.Set.OrdConnected

/-! What is left of a read, interval by interval. The pieces that are kept are not just any
intervals that hold the missing bytes: of each interval they are the largest that hold nothing
else, in ascending order. That form is determined by the bytes, so it does not matter in which
order bytes come, how they are divided, or whether they come twice. -/
namespace HostedStreams

namespace Range

variable {a b g r : Range} {s : Set Nat} {start stop : UInt64} {left : List Range}

/-- Intervals hold the bytes of others if they reach at least as far at both ends. -/
theorem bytes_subset_iff (h : a.valid = true) :
    a.bytes ⊆ b.bytes ↔ b.start.toNat ≤ a.start.toNat ∧ a.stop.toNat ≤ b.stop.toNat :=
  Set.Ico_subset_Ico_iff (valid_iff.1 h)

/-- Intervals that hold the same bytes are the same. -/
theorem eq_of_bytes_eq (h : a.valid = true) (same : a.bytes = b.bytes) : a = b := by
  have hValid : b.valid = true := by
    rw [← bytes_nonempty_iff, ← same]
    exact bytes_nonempty_iff.2 h
  obtain ⟨hStart, hStop⟩ := (bytes_subset_iff h).1 same.subset
  obtain ⟨hStart', hStop'⟩ := (bytes_subset_iff hValid).1 same.symm.subset
  cases a
  cases b
  congr
  · exact UInt64.toNat_inj.1 (Nat.le_antisymm hStart' hStart)
  · exact UInt64.toNat_inj.1 (Nat.le_antisymm hStop hStop')

theorem start_mem_bytes (h : g.valid = true) : g.start.toNat ∈ g.bytes :=
  ⟨Nat.le_refl _, valid_iff.1 h⟩

/-- A maximal interval of the set: it holds a byte, all of its bytes are in the set, and nothing
larger without holes is. -/
structure Stretch (s : Set Nat) (g : Range) : Prop where
  valid : g.valid = true
  maximal : Maximal (fun t : Set Nat => t.OrdConnected ∧ t ⊆ s) g.bytes

/-- Two stretches of a set that share a byte are one. -/
theorem Stretch.eq_of_mem {n : Nat} (ha : Stretch s a) (hb : Stretch s b) (inA : n ∈ a.bytes)
    (inB : n ∈ b.bytes) : a = b := by
  have hUnion : (a.bytes ∪ b.bytes).OrdConnected := by
    simp only [bytes, Set.mem_Ico] at inA inB
    rw [bytes, bytes, Set.Ico_union_Ico' (by omega) (by omega)]
    exact Set.ordConnected_Ico
  have hWithin : a.bytes ∪ b.bytes ⊆ s :=
    Set.union_subset ha.maximal.prop.2 hb.maximal.prop.2
  have hA : a.bytes ∪ b.bytes ⊆ a.bytes :=
    ha.maximal.le_of_ge ⟨hUnion, hWithin⟩ Set.subset_union_left
  have hB : a.bytes ∪ b.bytes ⊆ b.bytes :=
    hb.maximal.le_of_ge ⟨hUnion, hWithin⟩ Set.subset_union_right
  exact eq_of_bytes_eq ha.valid (Set.Subset.antisymm (Set.subset_union_left.trans hB)
    (Set.subset_union_right.trans hA))

/-- The list holds the maximal intervals of the set, all of them, in ascending order. -/
structure Stretches (s : Set Nat) (left : List Range) : Prop where
  mem_iff : ∀ g, g ∈ left ↔ Stretch s g
  ascending : left.Pairwise fun a b => a.stop < b.start

/-- Intervals in ascending order that each hold a byte and do not touch. -/
structure Spaced (left : List Range) : Prop where
  valid : ∀ g ∈ left, g.valid = true
  apart : left.Pairwise fun a b => a.stop < b.start

namespace Spaced

theorem singleton (h : r.valid = true) : Spaced [r] where
  valid _ hg := List.mem_singleton.1 hg ▸ h
  apart := List.pairwise_singleton _ r

theorem of_cons (h : Spaced (r :: left)) : Spaced left where
  valid g hg := h.valid g (List.mem_cons_of_mem r hg)
  apart := h.apart.of_cons

/-- Intervals that are spaced are in ascending order. -/
theorem ascending (h : Spaced left) : left.Pairwise fun a b => a.start < b.start := by
  refine h.apart.imp_of_mem fun {a b} ha _ hApart => ?_
  have hValid := valid_iff.1 (h.valid a ha)
  rw [UInt64.lt_iff_toNat_lt] at hApart ⊢
  omega

theorem nodup (h : Spaced left) : left.Nodup := by
  refine h.ascending.imp fun {a b} hLess hSame => ?_
  rw [hSame] at hLess
  exact UInt64.lt_irrefl _ hLess

/-- Of two intervals that are spaced one ends before the other one starts. -/
theorem cases (h : Spaced left) (ha : a ∈ left) (hb : b ∈ left) :
    a = b ∨ a.stop < b.start ∨ b.stop < a.start := by
  induction h.apart with
  | nil => cases ha
  | cons hFirst _ ih =>
    rcases List.mem_cons.1 ha with rfl | hLaterA <;> rcases List.mem_cons.1 hb with rfl | hLaterB
    · exact .inl rfl
    · exact .inr (.inl (hFirst b hLaterB))
    · exact .inr (.inr (hFirst a hLaterA))
    · exact ih h.of_cons hLaterA hLaterB

/-- Each is as large as it can be: the byte before it and the one after it are in no other. -/
theorem stretch_of_mem (h : Spaced left) (hg : g ∈ left) : Stretch (allBytes left) g := by
  have hValid := valid_iff.1 (h.valid g hg)
  refine ⟨h.valid g hg, ⟨Set.ordConnected_Ico, fun n hn => ⟨g, hg, hn⟩⟩, ?_⟩
  rintro t ⟨hConnected, hWithin⟩ hLarger n hn
  -- No byte of the set touches the interval from outside.
  have hOutside {m : Nat} (hm : m ∈ t) : m + 1 ≠ g.start.toNat ∧ m ≠ g.stop.toNat := by
    obtain ⟨q, hq, hBytes⟩ := hWithin hm
    simp only [bytes, Set.mem_Ico] at hBytes
    rcases h.cases hq hg with rfl | hBefore | hAfter
    · omega
    · rw [UInt64.lt_iff_toNat_lt] at hBefore
      omega
    · rw [UInt64.lt_iff_toNat_lt] at hAfter
      omega
  have hStart : g.start.toNat ∈ t := hLarger (start_mem_bytes (h.valid g hg))
  refine ⟨Nat.le_of_not_lt fun hBelow => ?_, Nat.lt_of_not_le fun hAbove => ?_⟩
  · have hBefore : g.start.toNat - 1 ∈ t := hConnected.out hn hStart ⟨by omega, by omega⟩
    exact (hOutside hBefore).1 (by omega)
  · have hAfter : g.stop.toNat ∈ t := hConnected.out hStart hn ⟨by omega, hAbove⟩
    exact (hOutside hAfter).2 rfl

/-- Intervals that are spaced are the maximal ones of what they hold. -/
theorem stretches (h : Spaced left) : Stretches (allBytes left) left where
  mem_iff g := by
    refine ⟨h.stretch_of_mem, fun hStretch => ?_⟩
    have hStart := start_mem_bytes hStretch.valid
    obtain ⟨q, hq, hShared⟩ := hStretch.maximal.prop.2 hStart
    rwa [hStretch.eq_of_mem (h.stretch_of_mem hq) hStart hShared]
  ascending := h.apart

end Spaced

namespace Stretches

variable {other : List Range}

/-- Maximal intervals do not touch. -/
theorem spaced (h : Stretches s left) : Spaced left where
  valid g hg := ((h.mem_iff g).1 hg).valid
  apart := h.ascending

/-- A set has its maximal intervals in one list only. -/
theorem unique (h : Stretches s left) (h' : Stretches s other) : left = other := by
  have hPerm : left.Perm other := (List.perm_ext_iff_of_nodup h.spaced.nodup
    h'.spaced.nodup).2 fun g => (h.mem_iff g).trans (h'.mem_iff g).symm
  exact hPerm.eq_of_pairwise (fun a b _ _ hLess hMore => absurd hMore (UInt64.lt_asymm hLess))
    h.spaced.ascending h'.spaced.ascending

end Stretches

/-- What is left of an interval lies in it. -/
theorem within_without (h : g ∈ r.without start stop) :
    r.start.toNat ≤ g.start.toNat ∧ g.stop.toNat ≤ r.stop.toNat := by
  unfold without at h
  split at h
  · obtain rfl := List.mem_singleton.1 h
    omega
  · rename_i hMeet
    simp only [UInt64.le_iff_toNat_le, not_or, Nat.not_le] at hMeet
    rcases List.mem_append.1 h with hPiece | hPiece <;>
    · split at hPiece
      · obtain rfl := List.mem_singleton.1 hPiece
        dsimp only
        omega
      · cases hPiece

/-- What is left before the piece that is taken out does not touch what is left behind it. -/
theorem spaced_without (hCut : start < stop) (h : r.valid = true) :
    Spaced (r.without start stop) where
  valid _ := valid_without h
  apart := by
    unfold without
    split
    · exact List.pairwise_singleton _ r
    · split <;> split <;> simp [hCut]

/-- Whether the interval has bytes on both sides of the other one. -/
def encloses (r c : Range) : Bool :=
  decide (r.start < c.start) && decide (c.stop < r.stop)

theorem encloses_iff {r c : Range} :
    r.encloses c = true ↔ r.start.toNat < c.start.toNat ∧ c.stop.toNat < r.stop.toNat := by
  simp [encloses, UInt64.lt_iff_toNat_lt]

/-- A cut leaves two pieces of an interval that it is inside of, and one piece at most of any
other. -/
theorem length_without_le (r c : Range) :
    (r.without c.start c.stop).length ≤ if r.encloses c then 2 else 1 := by
  unfold without encloses
  split
  · split <;> simp
  · by_cases hLeft : r.start < c.start <;> by_cases hRight : c.stop < r.stop <;>
      simp [hLeft, hRight]

end Range

namespace PendingReads

open Range (Stretch Stretches Spaced allBytes)

variable {start stop : UInt64} {c r : Range} {left ranges cuts others : List Range}

/-- Cuts keep intervals spaced. -/
theorem spaced_consume (hCut : start < stop) (h : Spaced left) :
    Spaced (consume start stop left) where
  valid := valid_consume h.valid
  apart := by
    refine List.pairwise_flatMap.2 ⟨fun r hr => ?_, h.apart.imp fun {a b} hApart g hg q hq => ?_⟩
    · exact (Range.spaced_without hCut (h.valid r hr)).apart
    · have hBefore := (Range.within_without hg).2
      have hBehind := (Range.within_without hq).1
      rw [UInt64.lt_iff_toNat_lt] at hApart ⊢
      omega

theorem consume_append (a b : List Range) :
    consume start stop (a ++ b) = consume start stop a ++ consume start stop b :=
  List.flatMap_append

/-- Takes the bytes of several intervals out of every range, one interval after the other. -/
def consumeAll (cuts ranges : List Range) : List Range :=
  cuts.foldl (fun left c => consume c.start c.stop left) ranges

theorem consumeAll_cons (c : Range) (cuts ranges : List Range) :
    consumeAll (c :: cuts) ranges = consumeAll cuts (consume c.start c.stop ranges) := rfl

/-- First some, then others. -/
theorem consumeAll_append (cuts others ranges : List Range) :
    consumeAll (cuts ++ others) ranges = consumeAll others (consumeAll cuts ranges) :=
  List.foldl_append

@[simp] theorem consumeAll_nil (cuts : List Range) : consumeAll cuts [] = [] := by
  induction cuts with
  | nil => rfl
  | cons c cuts ih => exact ih

/-- Each range is cut on its own. -/
theorem consumeAll_ranges_append (cuts a b : List Range) :
    consumeAll cuts (a ++ b) = consumeAll cuts a ++ consumeAll cuts b := by
  induction cuts generalizing a b with
  | nil => rfl
  | cons c cuts ih => rw [consumeAll_cons, consume_append, ih, ← consumeAll_cons, ← consumeAll_cons]

/-- Each range is taken care of for itself. -/
theorem consumeAll_eq_flatMap (cuts ranges : List Range) :
    consumeAll cuts ranges = ranges.flatMap fun r => consumeAll cuts [r] := by
  induction ranges with
  | nil => exact consumeAll_nil cuts
  | cons r ranges ih =>
    rw [← List.singleton_append, consumeAll_ranges_append, ih, List.flatMap_append,
      List.flatMap_singleton]

section

variable (hCuts : ∀ c ∈ cuts, c.valid = true)

include hCuts

/-- Any number of cuts keep intervals spaced. -/
theorem spaced_consumeAll (h : Spaced left) : Spaced (consumeAll cuts left) := by
  induction cuts generalizing left with
  | nil => exact h
  | cons c cuts ih =>
    obtain ⟨hCut, hCuts⟩ := List.forall_mem_cons.1 hCuts
    exact ih hCuts (spaced_consume (of_decide_eq_true hCut) h)

/-- What is left after cuts is valid. -/
theorem valid_consumeAll (h : ∀ r ∈ ranges, r.valid = true) :
    ∀ g ∈ consumeAll cuts ranges, g.valid = true := by
  rw [consumeAll_eq_flatMap]
  intro g hg
  obtain ⟨r, hr, hg⟩ := List.mem_flatMap.1 hg
  exact (spaced_consumeAll hCuts (.singleton (h r hr))).valid g hg

/-- The bytes of all cuts are taken out, and no others. -/
theorem allBytes_consumeAll (ranges : List Range) :
    allBytes (consumeAll cuts ranges) = allBytes ranges \ allBytes cuts := by
  induction cuts generalizing ranges with
  | nil => rw [Range.allBytes_nil, Set.sdiff_empty]; rfl
  | cons c cuts ih =>
    obtain ⟨hCut, hCuts⟩ := List.forall_mem_cons.1 hCuts
    rw [consumeAll_cons, ih hCuts, allBytes_consume (of_decide_eq_true hCut), Range.allBytes_cons,
      ← Set.sdiff_sdiff]
    rfl

/-- Of one range, the maximal intervals that are not covered are left. -/
theorem stretches_consumeAll (h : r.valid = true) :
    Stretches (r.bytes \ allBytes cuts) (consumeAll cuts [r]) := by
  have hSpaced := spaced_consumeAll hCuts (.singleton h)
  rw [← Range.allBytes_singleton, ← allBytes_consumeAll hCuts]
  exact hSpaced.stretches

/-- Of each range the maximal intervals are left of what the cuts have not taken. -/
theorem parts_consumeAll (hRanges : ∀ r ∈ ranges, r.valid = true) :
    ∃ parts : List (List Range), consumeAll cuts ranges = parts.flatten ∧
      List.Forall₂ (fun r => Stretches (r.bytes \ allBytes cuts)) ranges parts := by
  refine ⟨ranges.map fun r => consumeAll cuts [r], ?_, ?_⟩
  · rw [consumeAll_eq_flatMap, List.flatMap_def]
  · rw [List.forall₂_map_right_iff, List.forall₂_same]
    exact fun r hr => stretches_consumeAll hCuts (hRanges r hr)

/-- What is left is determined by its bytes. -/
theorem consumeAll_eq_iff (hRanges : ∀ r ∈ ranges, r.valid = true)
    (hOthers : ∀ c ∈ others, c.valid = true) :
    consumeAll cuts ranges = consumeAll others ranges ↔
      allBytes ranges \ allBytes cuts = allBytes ranges \ allBytes others := by
  constructor
  · intro hSame
    rw [← allBytes_consumeAll hCuts, hSame, allBytes_consumeAll hOthers]
  · intro hSame
    rw [consumeAll_eq_flatMap cuts, consumeAll_eq_flatMap others]
    refine List.flatMap_congr fun r hr => ?_
    have hPart : r.bytes ∩ allBytes ranges = r.bytes :=
      Set.inter_eq_left.2 fun n hn => ⟨r, hr, hn⟩
    have hBytes : r.bytes \ allBytes cuts = r.bytes \ allBytes others := by
      rw [← hPart, Set.inter_sdiff_assoc, hSame, Set.inter_sdiff_assoc]
    have hLeft := stretches_consumeAll hCuts (hRanges r hr)
    rw [hBytes] at hLeft
    exact hLeft.unique (stretches_consumeAll hOthers (hRanges r hr))

end

/-! How many pieces there are. -/

/-- A cut before all intervals takes nothing. -/
theorem consume_of_beyond (h : ∀ g ∈ left, stop ≤ g.start) : consume start stop left = left := by
  calc consume start stop left
      = left.flatMap fun g => [g] :=
        List.flatMap_congr fun g hg => by rw [Range.without, if_pos (.inr (h g hg))]
    _ = left := List.flatMap_singleton' left

/-- Out of a spaced list, an interval can only make two pieces of one, and only where it is
inside a range that holds the pieces. -/
theorem length_consume_le (h : Spaced left) (within : allBytes left ⊆ r.bytes) :
    (consume c.start c.stop left).length ≤ left.length + if r.encloses c then 1 else 0 := by
  induction left with
  | nil => exact Nat.zero_le _
  | cons g left ih =>
    rw [Range.allBytes_cons, Set.union_subset_iff] at within
    obtain ⟨hStart, hStop⟩ := (Range.bytes_subset_iff (h.valid g List.mem_cons_self)).1 within.1
    have ih := ih h.of_cons within.2
    have hPieces : consume c.start c.stop (g :: left) =
        g.without c.start c.stop ++ consume c.start c.stop left := rfl
    rw [hPieces, List.length_append, List.length_cons]
    have hFew := g.length_without_le c
    by_cases hInside : g.encloses c = true
    · -- All further pieces are behind the interval.
      have hBehind : ∀ q ∈ left, c.stop ≤ q.start := by
        intro q hq
        have hApart := List.rel_of_pairwise_cons h.apart hq
        have hEnd := (Range.encloses_iff.1 hInside).2
        rw [UInt64.lt_iff_toNat_lt] at hApart
        rw [UInt64.le_iff_toNat_le]
        omega
      have hEnclosed : r.encloses c = true := by
        rw [Range.encloses_iff] at hInside ⊢
        omega
      rw [consume_of_beyond hBehind, if_pos hEnclosed]
      rw [if_pos hInside] at hFew
      omega
    · rw [if_neg hInside] at hFew
      omega

/-- Each cut inside the range makes for one more piece at most. -/
theorem length_consumeAll_le (hCuts : ∀ c ∈ cuts, c.valid = true) (h : Spaced left)
    (within : allBytes left ⊆ r.bytes) :
    (consumeAll cuts left).length ≤ left.length + cuts.countP r.encloses := by
  induction cuts generalizing left with
  | nil => exact Nat.le_refl _
  | cons c cuts ih =>
    obtain ⟨hCut, hCuts⟩ := List.forall_mem_cons.1 hCuts
    have hCut : c.start < c.stop := of_decide_eq_true hCut
    have hWithin : allBytes (consume c.start c.stop left) ⊆ r.bytes := by
      rw [allBytes_consume hCut]
      exact Set.sdiff_subset.trans within
    have hFirst := length_consume_le (c := c) h within
    have hRest := ih hCuts (spaced_consume hCut h) hWithin
    rw [consumeAll_cons, List.countP_cons]
    omega

/-- The pieces are no more than the ranges and the cuts inside of each. -/
theorem length_consumeAll_le_sum (hCuts : ∀ c ∈ cuts, c.valid = true)
    (hRanges : ∀ r ∈ ranges, r.valid = true) : (consumeAll cuts ranges).length ≤
      ranges.length + (ranges.map fun r => cuts.countP r.encloses).sum := by
  induction ranges with
  | nil => simp
  | cons r ranges ih =>
    obtain ⟨hRange, hRanges⟩ := List.forall_mem_cons.1 hRanges
    have hFirst :=
      length_consumeAll_le hCuts (.singleton hRange) (Range.allBytes_singleton r).subset
    have hRest := ih hRanges
    rw [← List.singleton_append, consumeAll_ranges_append, List.singleton_append,
      List.length_append, List.length_cons, List.map_cons, List.sum_cons]
    rw [List.length_singleton] at hFirst
    omega

/-- What is promised of what is left of ranges out of which intervals were taken. -/
structure Consumption (ranges cuts : List Range) : Prop where
  /-- Of each range, in order, the maximal intervals are left that are not covered. -/
  parts : ∃ parts : List (List Range), consumeAll cuts ranges = parts.flatten ∧
    List.Forall₂ (fun r => Stretches (r.bytes \ allBytes cuts)) ranges parts
  valid : ∀ g ∈ consumeAll cuts ranges, g.valid = true
  /-- A read is complete when every byte was taken. -/
  complete : consumeAll cuts ranges = [] ↔ allBytes ranges ⊆ allBytes cuts
  /-- The same intervals once more, or any that they cover, change nothing. -/
  again : ∀ others, (∀ c ∈ others, c.valid = true) → allBytes others ⊆ allBytes cuts →
    consumeAll others (consumeAll cuts ranges) = consumeAll cuts ranges
  /-- Only the bytes matter that are taken, not in which order nor in which intervals. -/
  alike : ∀ others, (∀ c ∈ others, c.valid = true) →
    (consumeAll cuts ranges = consumeAll others ranges ↔
      allBytes ranges \ allBytes cuts = allBytes ranges \ allBytes others)
  /-- There is at most one piece for each range, and one more for each interval inside it. -/
  length : (consumeAll cuts ranges).length ≤
    ranges.length + (ranges.map fun r => cuts.countP r.encloses).sum

/-- What is left of a read has one form, whichever way its bytes came. -/
theorem remainders_canonical {ranges cuts : List Range} (hRanges : ∀ r ∈ ranges, r.valid = true)
    (hCuts : ∀ c ∈ cuts, c.valid = true) : Consumption ranges cuts where
  parts := parts_consumeAll hCuts hRanges
  valid := valid_consumeAll hCuts hRanges
  complete := by
    rw [← Range.allBytes_eq_empty_iff (valid_consumeAll hCuts hRanges), allBytes_consumeAll hCuts,
      Set.sdiff_eq_empty]
  again others hOthers hCovered := by
    have hBoth : ∀ c ∈ cuts ++ others, c.valid = true :=
      List.forall_mem_append.2 ⟨hCuts, hOthers⟩
    rw [← consumeAll_append, consumeAll_eq_iff hBoth hRanges hCuts, Range.allBytes_append,
      Set.union_eq_left.2 hCovered]
  alike _ hOthers := consumeAll_eq_iff hCuts hRanges hOthers
  length := length_consumeAll_le_sum hCuts hRanges

/-- Two ranges overlap and a third is covered; of the intervals that are taken, some touch, one is
inside another, and one reaches past the end of a range. Two larger ones leave the same. -/
theorem remainders_canonical_touching :
    consumeAll [⟨4, 6⟩, ⟨6, 10⟩, ⟨7, 8⟩, ⟨15, 25⟩, ⟨25, 26⟩] [⟨0, 20⟩, ⟨10, 30⟩, ⟨5, 9⟩] =
      [⟨0, 4⟩, ⟨10, 15⟩, ⟨10, 15⟩, ⟨26, 30⟩] ∧
    consumeAll [⟨15, 26⟩, ⟨4, 10⟩] [⟨0, 20⟩, ⟨10, 30⟩, ⟨5, 9⟩] =
      [⟨0, 4⟩, ⟨10, 15⟩, ⟨10, 15⟩, ⟨26, 30⟩] ∧
    Consumption [⟨0, 20⟩, ⟨10, 30⟩, ⟨5, 9⟩] [⟨4, 6⟩, ⟨6, 10⟩, ⟨7, 8⟩, ⟨15, 25⟩, ⟨25, 26⟩] :=
  ⟨by decide, by decide, remainders_canonical (by decide) (by decide)⟩

/-! What chunks take out of the reads. -/

/-- What the chunks have brought of a read, chunk by chunk: nothing where they name another one,
or have no bytes. -/
def brought (id : RequestId) (chunks : List DataArrived) : List Range :=
  (chunks.filter fun p => answers p id && decide (p.offset < p.stop)).map fun p =>
    ⟨p.offset, p.stop⟩

theorem brought_append (id : RequestId) (chunks later : List DataArrived) :
    brought id (chunks ++ later) = brought id chunks ++ brought id later := by
  rw [brought, List.filter_append, List.map_append, ← brought, ← brought]

/-- What chunks bring holds a byte. -/
theorem valid_brought {id : RequestId} {chunks : List DataArrived} :
    ∀ c ∈ brought id chunks, c.valid = true := by
  intro c hc
  obtain ⟨p, hp, rfl⟩ := List.mem_map.1 hc
  exact (Bool.and_eq_true_iff.1 (List.mem_filter.1 hp).2).2

/-- What is kept is what the chunk has left. -/
theorem of_mem_retire {p : DataArrived} {pending : PendingReads} {id : RequestId}
    {rest : List Range} (h : (id, rest) ∈ pending.retire p) :
    ∃ left, (id, left) ∈ pending ∧ rest = consumeAll (brought id [p]) left := by
  by_cases hChunk : p.offset < p.stop
  · obtain ⟨left, hLeft, ⟨hAnswers, rfl, -⟩ | ⟨hOther, rfl⟩⟩ := (mem_retire hChunk).1 h
    · exact ⟨left, hLeft, by simp [brought, hAnswers, hChunk, consumeAll]⟩
    · exact ⟨rest, hLeft, by simp [brought, hOther, consumeAll]⟩
  · rw [retire, if_neg hChunk] at h
    exact ⟨rest, h, by simp [brought, hChunk, consumeAll]⟩

end PendingReads
end HostedStreams
