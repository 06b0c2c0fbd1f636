import Mathlib.Tactic
import Mathlib.Data.Nat.Count
import OptionChainSimulator.Foundation.OrderedCollections

namespace OptionChainSimulator.Foundation

/-! The first values of an ordered set that lie beyond a cutoff, and the scan of
an increasing partial sequence that finds them. -/

variable {ι α : Type} [LinearOrder ι] [LinearOrder α]

/-- `values` are the `count` least members of `source` above `cutoff`, in order. -/
structure FirstAfter (source : Set α) (cutoff : α) (count : Nat) (values : List α) :
    Prop where
  sorted : values.Pairwise (· < ·)
  length_eq : values.length = count
  mem_source : ∀ value ∈ values, value ∈ source
  after : ∀ value ∈ values, cutoff < value
  least : ∀ other ∈ source, cutoff < other → other ∉ values →
    ∀ value ∈ values, value < other

theorem FirstAfter.unique {source : Set α} {cutoff : α} {count : Nat} {left right : List α}
    (first : FirstAfter source cutoff count left)
    (second : FirstAfter source cutoff count right) : left = right := by
  have leftNodup : left.Nodup := first.sorted.imp ne_of_lt
  have rightNodup : right.Nodup := second.sorted.imp ne_of_lt
  have lengths : left.length = right.length := first.length_eq.trans second.length_eq.symm
  have subset : left ⊆ right := by
    intro value member
    by_contra outside
    -- a value only on the left leaves nothing that is only on the right
    have inLeft : right ⊆ left := by
      intro other otherMember
      by_contra otherOutside
      have above := first.least other (second.mem_source other otherMember)
        (second.after other otherMember) otherOutside value member
      have below := second.least value (first.mem_source value member)
        (first.after value member) outside other otherMember
      exact lt_asymm above below
    have perm := (List.subperm_of_subset rightNodup inLeft).perm_of_length_le lengths.le
    exact outside (perm.mem_iff.mpr member)
  have perm := (List.subperm_of_subset leftNodup subset).perm_of_length_le lengths.ge
  exact first.sorted.eq_of_mem_iff second.sorted fun value => perm.mem_iff

/-- What was among the first values and is beyond a later cutoff is still among the first. -/
theorem FirstAfter.survives {source : Set α} {cutoff later : α} {count : Nat}
    {values rolled : List α} (first : FirstAfter source cutoff count values)
    (next : FirstAfter source later count rolled) (onward : cutoff ≤ later) {value : α}
    (member : value ∈ values) (alive : later < value) : value ∈ rolled := by
  by_contra gone
  have earlier : rolled ⊆ values.erase value := by
    intro other otherMember
    have below := next.least value (first.mem_source value member) alive gone other otherMember
    have kept : other ∈ values := by
      by_contra outside
      have above := first.least other (next.mem_source other otherMember)
        (onward.trans_lt (next.after other otherMember)) outside value member
      exact lt_asymm above below
    exact (List.mem_erase_of_ne below.ne).mpr kept
  have fewer := (List.subperm_of_subset (next.sorted.imp ne_of_lt) earlier).length_le
  rw [List.length_erase_of_mem member, first.length_eq, next.length_eq] at fewer
  have some := List.length_pos_of_mem member
  rw [first.length_eq] at some
  omega

/-- The first values after a later cutoff: what has passed leaves at the front, and as many come
in at the back. -/
theorem FirstAfter.rolls {source : Set α} {cutoff later : α} {count : Nat}
    {values rolled : List α} (first : FirstAfter source cutoff count values)
    (next : FirstAfter source later count rolled) (onward : cutoff ≤ later) :
    ∃ fresh, rolled = values.filter (later < ·) ++ fresh ∧
      fresh.length = (values.filter (· ≤ later)).length ∧
      ∀ value ∈ values, ∀ other ∈ fresh, value < other := by
  have beyond : ∀ value ∈ values, ∀ other ∈ rolled.filter (· ∉ values), value < other := by
    intro value member other otherMember
    obtain ⟨inRolled, outside⟩ := List.mem_filter.mp otherMember
    exact first.least other (next.mem_source other inRolled)
      (onward.trans_lt (next.after other inRolled)) (of_decide_eq_true outside) value member
  have split : rolled = values.filter (later < ·) ++ rolled.filter (· ∉ values) := by
    refine List.Pairwise.eq_of_mem_iff next.sorted ?_ ?_
    · refine List.pairwise_append.mpr ⟨first.sorted.filter _, next.sorted.filter _, ?_⟩
      intro value member other otherMember
      exact beyond value (List.mem_of_mem_filter member) other otherMember
    · intro value
      rw [List.mem_append, List.mem_filter, List.mem_filter, decide_eq_true_eq, decide_eq_true_eq]
      constructor
      · intro member
        rcases em (value ∈ values) with held | outside
        · exact .inl ⟨held, next.after value member⟩
        · exact .inr ⟨member, outside⟩
      · intro member
        cases member with
        | inl survivor => exact first.survives next onward survivor.1 survivor.2
        | inr newcomer => exact newcomer.1
  refine ⟨_, split, ?_, beyond⟩
  have counted := congrArg List.length split
  have parted := List.length_eq_length_filter_add (l := values) fun value =>
    decide (later < value)
  simp only [← decide_not, not_lt] at parted
  rw [List.length_append, next.length_eq, ← first.length_eq, parted] at counted
  omega

/-- A sequence with gaps whose present values strictly increase. -/
def Increasing (sequence : ι → Option α) : Prop :=
  ∀ {first second : ι} {left right : α}, first < second →
    sequence first = some left → sequence second = some right → left < right

def valuesOf (sequence : ι → Option α) : Set α :=
  fun value => ∃ index, sequence index = some value

/-- The sequence holds a value beyond the cutoff at `index`. -/
def LiveAt (sequence : ι → Option α) (cutoff : α) (index : ι) : Prop :=
  ∃ value, sequence index = some value ∧ cutoff < value

/-- `found` holds exactly the values beyond the cutoff at the positions below
`bound`. -/
def Collected (sequence : ι → Option α) (cutoff : α) (bound : ι)
    (found : OrderedSet α) : Prop :=
  ∀ value, value ∈ found ↔
    ∃ index < bound, sequence index = some value ∧ cutoff < value

namespace Collected

variable {sequence : ι → Option α} {cutoff : α} {bound next : ι}
  {found : OrderedSet α}

theorem start (quiet : ∀ index < bound, ¬ LiveAt sequence cutoff index) :
    Collected sequence cutoff bound OrderedSet.empty := by
  intro value
  constructor
  · intro member
    exact absurd member (OrderedSet.notMem_empty value)
  · rintro ⟨index, below, present, live⟩
    exact absurd ⟨value, present, live⟩ (quiet index below)

theorem skip (collected : Collected sequence cutoff bound found) (upward : bound ≤ next)
    (dead : ∀ index, bound ≤ index → index < next → ¬ LiveAt sequence cutoff index) :
    Collected sequence cutoff next found := by
  intro value
  rw [collected value]
  constructor
  · rintro ⟨index, below, present, live⟩
    exact ⟨index, below.trans_le upward, present, live⟩
  · rintro ⟨index, below, present, live⟩
    rcases lt_or_ge index bound with earlier | later
    · exact ⟨index, earlier, present, live⟩
    · exact absurd ⟨value, present, live⟩ (dead index later below)

theorem add {index : ι} {value : α} (collected : Collected sequence cutoff bound found)
    (later : bound ≤ index) (below : index < next)
    (present : sequence index = some value) (live : cutoff < value)
    (alone : ∀ other, bound ≤ other → other < next → other ≠ index →
      ¬ LiveAt sequence cutoff other) :
    Collected sequence cutoff next (found.insert value) := by
  intro other
  rw [OrderedSet.mem_insert, collected other]
  constructor
  · rintro (rfl | ⟨position, earlier, held, otherLive⟩)
    · exact ⟨index, below, present, live⟩
    · exact ⟨position, earlier.trans (later.trans_lt below), held, otherLive⟩
  · rintro ⟨position, inNext, held, otherLive⟩
    rcases lt_or_ge position bound with earlier | notEarlier
    · exact .inr ⟨position, earlier, held, otherLive⟩
    · by_cases same : position = index
      · rw [same, present] at held
        exact .inl (Option.some.inj held).symm
      · exact absurd ⟨other, held, otherLive⟩ (alone position notEarlier inNext same)

theorem fresh {index : ι} {value : α} (collected : Collected sequence cutoff bound found)
    (increasing : Increasing sequence) (later : bound ≤ index)
    (present : sequence index = some value) : value ∉ found := by
  intro member
  obtain ⟨position, below, held, -⟩ := (collected value).mp member
  exact lt_irrefl value (increasing (below.trans_le later) held present)

/-- Whatever an increasing sequence yields later is greater, so a scan may stop as
soon as it has collected enough. -/
theorem firstAfter (collected : Collected sequence cutoff bound found)
    (increasing : Increasing sequence) :
    FirstAfter (valuesOf sequence) cutoff found.card found.toList where
  sorted := found.sorted
  length_eq := rfl
  mem_source := by
    intro value member
    obtain ⟨index, -, present, -⟩ := (collected value).mp member
    exact ⟨index, present⟩
  after := by
    intro value member
    obtain ⟨-, -, -, live⟩ := (collected value).mp member
    exact live
  least := by
    rintro other ⟨later, held⟩ live outside value member
    obtain ⟨index, below, present, -⟩ := (collected value).mp member
    have beyond : bound ≤ later := by
      by_contra earlier
      exact outside ((collected other).mpr ⟨later, not_le.mp earlier, held, live⟩)
    exact increasing (below.trans_le beyond) present held

end Collected

section Window

/-! What a window of a sequence over the integers holds. -/

variable {sequence : ℤ → Option α} {cutoff : α} {origin : ℤ}

/-- The values beyond the cutoff at the first positions from `origin` on. -/
def collectUpTo (sequence : ℤ → Option α) (cutoff : α) (origin : ℤ) : Nat → OrderedSet α
  | 0 => OrderedSet.empty
  | width + 1 =>
      match sequence (origin + width) with
      | some value =>
          if cutoff < value then (collectUpTo sequence cutoff origin width).insert value
          else collectUpTo sequence cutoff origin width
      | none => collectUpTo sequence cutoff origin width

theorem collectUpTo_succ (sequence : ℤ → Option α) (cutoff : α) (origin : ℤ) (width : Nat) :
    (∃ value, sequence (origin + width) = some value ∧ cutoff < value ∧
        collectUpTo sequence cutoff origin (width + 1) =
          (collectUpTo sequence cutoff origin width).insert value) ∨
      (¬ LiveAt sequence cutoff (origin + width) ∧
        collectUpTo sequence cutoff origin (width + 1) =
          collectUpTo sequence cutoff origin width) := by
  rw [collectUpTo]
  cases present : sequence (origin + width) with
  | none =>
      refine .inr ⟨?_, rfl⟩
      rintro ⟨other, held, -⟩
      rw [present] at held
      cases held
  | some value =>
      by_cases live : cutoff < value
      · exact .inl ⟨value, rfl, live, if_pos live⟩
      · refine .inr ⟨?_, if_neg live⟩
        rintro ⟨other, held, otherLive⟩
        rw [present] at held
        cases held
        exact live otherLive

theorem collected_collectUpTo (quiet : ∀ index < origin, ¬ LiveAt sequence cutoff index)
    (width : Nat) :
    Collected sequence cutoff (origin + width) (collectUpTo sequence cutoff origin width) := by
  induction width with
  | zero =>
      rw [Nat.cast_zero, add_zero]
      exact Collected.start quiet
  | succ width ih =>
      have only : ∀ index, origin + (width : ℤ) ≤ index →
          index < origin + ((width + 1 : Nat) : ℤ) → index = origin + width := by
        intro index lower upper
        omega
      obtain ⟨value, present, live, joined⟩ | ⟨dead, same⟩ :=
        collectUpTo_succ sequence cutoff origin width
      · rw [joined]
        exact ih.add (le_refl _) (by omega) present live
          fun other lower upper different => absurd (only other lower upper) different
      · rw [same]
        apply ih.skip (by omega)
        intro index lower upper
        rwa [only index lower upper]

theorem card_collectUpTo_succ (increasing : Increasing sequence)
    (quiet : ∀ index < origin, ¬ LiveAt sequence cutoff index) (width : Nat) :
    (LiveAt sequence cutoff (origin + width) ∧
        (collectUpTo sequence cutoff origin (width + 1)).card =
          (collectUpTo sequence cutoff origin width).card + 1) ∨
      (¬ LiveAt sequence cutoff (origin + width) ∧
        (collectUpTo sequence cutoff origin (width + 1)).card =
          (collectUpTo sequence cutoff origin width).card) := by
  obtain ⟨value, present, live, joined⟩ | ⟨dead, same⟩ :=
    collectUpTo_succ sequence cutoff origin width
  · have fresh := (collected_collectUpTo quiet width).fresh increasing (le_refl _) present
    rw [joined]
    exact .inl ⟨⟨value, present, live⟩, OrderedSet.card_insert_of_notMem fresh⟩
  · rw [same]
    exact .inr ⟨dead, rfl⟩

theorem card_collectUpTo_mono (increasing : Increasing sequence)
    (quiet : ∀ index < origin, ¬ LiveAt sequence cutoff index) :
    Monotone fun width => (collectUpTo sequence cutoff origin width).card := by
  apply monotone_nat_of_le_succ
  intro width
  obtain ⟨-, grown⟩ | ⟨-, same⟩ := card_collectUpTo_succ increasing quiet width
  · exact grown ▸ Nat.le_succ _
  · exact same.ge

/-- One value for each stretch that holds one. -/
theorem le_card_of_stretches (increasing : Increasing sequence)
    (quiet : ∀ index < origin, ¬ LiveAt sequence cutoff index) {ends : Nat → Nat} {count : Nat}
    (stretches : ∀ stretch < count, ∃ width, ends stretch ≤ width ∧ width < ends (stretch + 1) ∧
      LiveAt sequence cutoff (origin + width)) :
    count ≤ (collectUpTo sequence cutoff origin (ends count)).card := by
  induction count with
  | zero => exact Nat.zero_le _
  | succ count ih =>
      have before := ih fun stretch below => stretches stretch (Nat.lt_succ_of_lt below)
      obtain ⟨width, lower, upper, live⟩ := stretches count (Nat.lt_succ_self count)
      have mono := card_collectUpTo_mono increasing quiet
      have upTo := mono lower
      have beyond := mono (show width + 1 ≤ ends (count + 1) from upper)
      obtain ⟨-, grown⟩ | ⟨dead, -⟩ := card_collectUpTo_succ increasing quiet width
      · dsimp only at upTo beyond
        omega
      · exact absurd live dead

/-- The first values after the cutoff lie in a window that holds as many. -/
theorem exists_firstAfter (increasing : Increasing sequence)
    (quiet : ∀ index < origin, ¬ LiveAt sequence cutoff index) {width count : Nat}
    (enough : count ≤ (collectUpTo sequence cutoff origin width).card) :
    ∃ values, FirstAfter (valuesOf sequence) cutoff count values ∧
      ∀ value ∈ values, ∃ index < origin + width, sequence index = some value := by
  induction width with
  | zero =>
      refine ⟨[], ⟨List.Pairwise.nil, (Nat.le_zero.mp enough).symm, ?_, ?_, ?_⟩, ?_⟩ <;> simp
  | succ width ih =>
      by_cases earlier : count ≤ (collectUpTo sequence cutoff origin width).card
      · obtain ⟨values, first, inside⟩ := ih earlier
        refine ⟨values, first, fun value member => ?_⟩
        obtain ⟨index, below, held⟩ := inside value member
        exact ⟨index, by omega, held⟩
      · have reached : (collectUpTo sequence cutoff origin (width + 1)).card = count := by
          obtain ⟨-, grown⟩ | ⟨-, same⟩ := card_collectUpTo_succ increasing quiet width
          · omega
          · omega
        have collected := collected_collectUpTo quiet (width + 1)
        have first := collected.firstAfter increasing
        rw [reached] at first
        refine ⟨_, first, fun value member => ?_⟩
        obtain ⟨index, below, held, -⟩ := (collected value).mp member
        exact ⟨index, below, held⟩

end Window

end OptionChainSimulator.Foundation
