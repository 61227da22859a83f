import Folio.Blog.Post
import Folio.Proofs.Sorting
import Mathlib

/-!
# The order of posts

Posts are compared by the instants of their dates, the latest first and those without one last, and
then by their slugs. Posts of one instant and one slug compare equal, so that sorting leaves them in
the order in which they come.

Main definitions:

* `Instant.key`: an instant as a pair of numbers in lexicographic order.
* `Listing.key`: what posts are ordered by.

Results:

* `Instant.compare_eq_lt_iff`, `Listing.compare_eq_lt_iff`, `Listing.isLE_compare_iff`: instants and
  posts are ordered as their keys are.
* `TimeOfDay.toInstant?_eq_map`: a time of day with an offset is one in universal time.
* `Listing.sort_filter`: hiding posts and sorting them commute.
-/

namespace Folio

/-! ## Instants -/

namespace Instant

/-- An instant in the order of time. -/
def key (i : Instant) : ℤ ×ₗ ℕ := toLex (i.seconds, i.nanos)

theorem key_inj {i j : Instant} : i.key = j.key ↔ i = j := by
  rw [key, key, toLex_inj, Prod.mk.injEq, Instant.mk.injEq]

theorem key_lt_iff {i j : Instant} :
    i.key < j.key ↔ i.seconds < j.seconds ∨ i.seconds = j.seconds ∧ i.nanos < j.nanos := by
  rw [key, key, Prod.Lex.toLex_lt_toLex]

theorem compare_eq_lt_iff (i j : Instant) : i.compare j = .lt ↔ i.key < j.key := by
  simp only [Instant.compare, compareLex, compareOn, Ordering.then_eq_lt, key_lt_iff,
    compare_lt_iff_lt, compare_eq_iff_eq]

theorem compare_eq_eq_iff (i j : Instant) : i.compare j = .eq ↔ i = j := by
  rw [← key_inj, key, key, toLex_inj, Prod.mk.injEq]
  simp only [Instant.compare, compareLex, compareOn, Ordering.then_eq_eq, compare_eq_iff_eq]

end Instant

/-- Where clocks are ahead, a time of day is that many seconds earlier in universal time. -/
theorem TimeOfDay.toInstant?_eq_map (t : TimeOfDay) (offset : Int) :
    t.toInstant? offset = (t.toInstant? 0).map fun i => ⟨i.seconds - offset, i.nanos⟩ := by
  rw [toInstant?, toInstant?]
  split
  · split
    · simp only [Option.map_some, Option.some.injEq, Instant.mk.injEq, and_true]
      omega
    · simp only [Option.map_some, Option.some.injEq, Instant.mk.injEq, and_true]
      omega
  · rfl

example : Instant.parse? "2025-01-05T01:30:00+02:00" = Instant.parse? "2025-01-04 23:30:00" := by
  decide

/-! ## Posts -/

namespace Listing

/-- The instant of a post in the order of listings, where later ones come first and none last. -/
def dateKey (p : Listing) : WithTop (ℤ ×ₗ ℕ)ᵒᵈ :=
  p.header.instant?.elim ⊤ fun i => WithTop.some (OrderDual.toDual i.key)

/-- What listings are ordered by. -/
def key (p : Listing) : WithTop (ℤ ×ₗ ℕ)ᵒᵈ ×ₗ String := toLex (p.dateKey, p.slug)

theorem dateKey_lt_iff {p q : Listing} : p.dateKey < q.dateKey ↔ ∃ i, p.header.instant? = some i ∧
    ∀ j, q.header.instant? = some j → j.key < i.key := by
  rw [dateKey, dateKey]
  cases p.header.instant? with
  | none => simp
  | some i =>
    cases q.header.instant? with
    | none => simp
    | some j =>
      simp [WithTop.coe_lt_coe]

theorem dateKey_inj {p q : Listing} :
    p.dateKey = q.dateKey ↔ p.header.instant? = q.header.instant? := by
  rw [dateKey, dateKey]
  cases p.header.instant? with
  | none => cases q.header.instant? <;> simp
  | some i =>
    cases q.header.instant? with
    | none => simp
    | some j => simp [Instant.key_inj]

theorem newestFirst_eq_lt_iff (p q : Listing) :
    newestFirst p.header.instant? q.header.instant? = .lt ↔ p.dateKey < q.dateKey := by
  rw [dateKey_lt_iff]
  cases p.header.instant? with
  | none => cases q.header.instant? <;> simp [newestFirst]
  | some i =>
    cases q.header.instant? with
    | none => simp [newestFirst]
    | some j => simp [newestFirst, Instant.compare_eq_lt_iff]

theorem newestFirst_eq_eq_iff (p q : Listing) :
    newestFirst p.header.instant? q.header.instant? = .eq ↔ p.dateKey = q.dateKey := by
  rw [dateKey_inj]
  cases p.header.instant? with
  | none => cases q.header.instant? <;> simp [newestFirst]
  | some i =>
    cases q.header.instant? with
    | none => simp [newestFirst]
    | some j =>
      rw [newestFirst, Instant.compare_eq_eq_iff, Option.some.injEq]
      exact eq_comm

theorem compare_eq_lt_iff (p q : Listing) : p.compare q = .lt ↔ p.key < q.key := by
  rw [Listing.compare, Ordering.then_eq_lt, newestFirst_eq_lt_iff, newestFirst_eq_eq_iff,
    compare_lt_iff_lt, key, key, Prod.Lex.toLex_lt_toLex]

theorem compare_eq_eq_iff (p q : Listing) : p.compare q = .eq ↔ p.key = q.key := by
  rw [Listing.compare, Ordering.then_eq_eq, newestFirst_eq_eq_iff, compare_eq_iff_eq, key, key,
    toLex_inj, Prod.mk.injEq]

theorem isLE_compare_iff (p q : Listing) : (p.compare q).isLE ↔ p.key ≤ q.key := by
  rw [Ordering.isLE_iff_eq_lt_or_eq_eq, compare_eq_lt_iff, compare_eq_eq_iff, le_iff_lt_or_eq]

theorem sort_filter (shown : Listing → Bool) (posts : List Listing) :
    sort (posts.filter shown) = (sort posts).filter shown :=
  Sorting.mergeSort_filter isLE_compare_iff shown posts

end Listing

end Folio
