import Folio.Proofs.Text.Edit
import Folio.Text.Distance
import Mathlib.Data.List.Induction
import Mathlib.Order.Lattice

/-!
# The distance table

The table holds for the first characters of one text and of another the least cost of an alignment.
An entry follows from those before it. Of the characters that could change places with the last one,
only the latest has to be looked at, as what a later exchange leaves out can be deleted and inserted.

Main definitions:

* `upTo`: the first characters of a text, the last of them first.
* `DistanceTable.Filled`: the entries that are filled so far are least costs.

Results:

* `lastBefore_cases`: where a character stands last.
* `isLeast_next`: the next entry is a least cost if those before it are.
* `isLeast_distance`: the distance of two texts is the least number of edits from one to the other.
* `closest?_eq_none_iff`, `exists_of_closest?`: when no text is near enough, and which one is found.
-/

namespace Folio.Text

/-! ## First occurrences -/

/-- Two places of a character in a text, the first of them with nothing alike before it. -/
theorem exists_of_first {c : Char} {old old' cs cs' : List Char} (hfirst : c ∉ old)
    (h : old ++ c :: cs = old' ++ c :: cs') :
    ∃ between, cs = between ++ cs' ∧ old'.length = old.length + between.length := by
  rcases List.append_eq_append_iff.mp h with ⟨rest, rfl, hrest⟩ | ⟨rest, rfl, hrest⟩
  · cases rest with
    | nil =>
      obtain ⟨-, rfl⟩ := List.cons.inj hrest
      exact ⟨[], rfl, by simp⟩
    | cons d rest =>
      obtain ⟨rfl, rfl⟩ := List.cons.inj hrest
      exact ⟨rest ++ [c], by simp, by simp⟩
  · cases rest with
    | nil =>
      obtain ⟨-, rfl⟩ := List.cons.inj hrest
      exact ⟨[], rfl, by simp⟩
    | cons d rest =>
      obtain ⟨rfl, -⟩ := List.cons.inj hrest
      simp at hfirst

/-! ## Costs of alignments -/

namespace Alignment

variable {m n : Nat} {cs ds : List Char}

theorem cheaper (h : Alignment m cs ds) (h' : Alignment n cs ds) :
    Alignment (min m n) cs ds := by
  rcases Nat.le_total m n with hle | hle
  · rwa [Nat.min_eq_left hle]
  · rwa [Nat.min_eq_right hle]

theorem length_le (h : Alignment n cs ds) :
    cs.length ≤ ds.length + n ∧ ds.length ≤ cs.length + n := by
  induction h with
  | nil => simp
  | insert _ _ ih => simp only [List.length_cons]; omega
  | delete _ _ ih => simp only [List.length_cons]; omega
  | keep _ _ ih => simp only [List.length_cons]; omega
  | replace _ _ _ ih => simp only [List.length_cons]; omega
  | exchange _ _ old new _ ih => simp only [List.length_cons, List.length_append]; omega

/-- What an alignment of two texts does with the characters that they begin with. -/
theorem cons_cases {c d : Char} (h : Alignment n (c :: cs) (d :: ds)) :
    (∃ m, n = m + 1 ∧ Alignment m (c :: cs) ds) ∨ (∃ m, n = m + 1 ∧ Alignment m cs (d :: ds)) ∨
      (∃ m, m + (if c = d then 0 else 1) ≤ n ∧ Alignment m cs ds) ∨
      ∃ m old new cs' ds', cs = old ++ d :: cs' ∧ ds = new ++ c :: ds' ∧ Alignment m cs' ds' ∧
        n = m + old.length + 1 + new.length := by
  cases h with
  | insert _ h => exact .inl ⟨_, rfl, h⟩
  | delete _ h => exact .inr (.inl ⟨_, rfl, h⟩)
  | keep _ h => exact .inr (.inr (.inl ⟨n, by simp, h⟩))
  | @replace m _ _ _ _ h => exact .inr (.inr (.inl ⟨m, by split <;> omega, h⟩))
  | exchange _ _ old new h => exact .inr (.inr (.inr ⟨_, old, new, _, _, rfl, rfl, h, rfl⟩))

theorem keep_or_replace (h : Alignment n cs ds) (c d : Char) :
    Alignment (n + if c = d then 0 else 1) (c :: cs) (d :: ds) := by
  split
  · next heq => exact heq ▸ h.keep c
  · exact h.replace c d

end Alignment

theorem isLeast_of_nil (ds : List Char) : IsLeast {n | Alignment n [] ds} ds.length := by
  have hinserts := (Alignment.refl []).inserts ds
  rw [Nat.zero_add, List.append_nil] at hinserts
  refine ⟨hinserts, fun n h => ?_⟩
  simpa using h.length_le.2

theorem isLeast_nil (cs : List Char) : IsLeast {n | Alignment n cs []} cs.length := by
  have hdeletes := (Alignment.refl []).deletes cs
  rw [Nat.zero_add, List.append_nil] at hdeletes
  refine ⟨hdeletes, fun n h => ?_⟩
  simpa using h.length_le.1

/-! ## The recurrence on texts -/

section Recurrence

variable {c d : Char} {cs ds : List Char} {both left right : Nat}
  (hboth : IsLeast {n | Alignment n cs ds} both)
  (hleft : IsLeast {n | Alignment n cs (d :: ds)} left)
  (hright : IsLeast {n | Alignment n (c :: cs) ds} right)

/-- The least cost without an exchange of the first characters. -/
def editedCost (c d : Char) (both left right : Nat) : Nat :=
  min (both + if c = d then 0 else 1) (min (left + 1) (right + 1))

include hboth hleft hright

theorem alignment_editedCost : Alignment (editedCost c d both left right) (c :: cs) (d :: ds) :=
  (hboth.1.keep_or_replace c d).cheaper ((hleft.1.delete c).cheaper (hright.1.insert d))

theorem editedCost_le_or_exchange {n : Nat} (hn : Alignment n (c :: cs) (d :: ds)) :
    editedCost c d both left right ≤ n ∨
      ∃ m old new cs' ds', cs = old ++ d :: cs' ∧ ds = new ++ c :: ds' ∧ Alignment m cs' ds' ∧
        n = m + old.length + 1 + new.length := by
  rcases hn.cons_cases with ⟨m, rfl, h⟩ | ⟨m, rfl, h⟩ | ⟨m, hm, h⟩ | hexchange
  · have hle := hright.2 h
    refine .inl ((Nat.min_le_right _ _).trans ((Nat.min_le_right _ _).trans ?_))
    omega
  · have hle := hleft.2 h
    refine .inl ((Nat.min_le_right _ _).trans ((Nat.min_le_left _ _).trans ?_))
    omega
  · have hle := hboth.2 h
    refine .inl ((Nat.min_le_left _ _).trans ?_)
    omega
  · exact .inr hexchange

theorem isLeast_of_no_exchange (h : d ∉ cs ∨ c ∉ ds) :
    IsLeast {n | Alignment n (c :: cs) (d :: ds)} (editedCost c d both left right) := by
  refine ⟨alignment_editedCost hboth hleft hright, fun n hn => ?_⟩
  rcases editedCost_le_or_exchange hboth hleft hright hn with hle | ⟨_, _, _, _, _, rfl, rfl, -, -⟩
  · exact hle
  · simp at h

/-- Only the nearest characters have to be looked at for an exchange. -/
theorem isLeast_of_exchange {old new cs' ds' : List Char} {apart : Nat} (hcs : cs = old ++ d :: cs')
    (hds : ds = new ++ c :: ds') (hold : d ∉ old) (hnew : c ∉ new)
    (hapart : IsLeast {n | Alignment n cs' ds'} apart) :
    IsLeast {n | Alignment n (c :: cs) (d :: ds)}
      (min (editedCost c d both left right) (apart + old.length + 1 + new.length)) := by
  refine ⟨(alignment_editedCost hboth hleft hright).cheaper ?_, fun n hn => ?_⟩
  · rw [hcs, hds]
    exact hapart.1.exchange c d old new
  · rcases editedCost_le_or_exchange hboth hleft hright hn with
      hle | ⟨m, old', new', cs'', ds'', hcs', hds', h, rfl⟩
    · exact (Nat.min_le_left _ _).trans hle
    · obtain ⟨gone, rfl, hgone⟩ := exists_of_first hold (hcs.symm.trans hcs')
      obtain ⟨come, rfl, hcome⟩ := exists_of_first hnew (hds.symm.trans hds')
      have hle := hapart.2 ((h.deletes gone).inserts come)
      refine (Nat.min_le_right _ _).trans ?_
      omega

end Recurrence

/-! ## The first characters of a text -/

/-- The first characters of a text, the last of them first. -/
def upTo (xs : Array Char) (i : Nat) : List Char := (xs.toList.take i).reverse

theorem upTo_succ {xs : Array Char} {i : Nat} (hi : i < xs.size) :
    upTo xs (i + 1) = xs[i] :: upTo xs i := by
  rw [upTo, List.take_add_one, List.reverse_append, Array.getElem?_toList,
    Array.getElem?_eq_getElem hi]
  rfl

theorem length_upTo {xs : Array Char} {i : Nat} (hi : i ≤ xs.size) : (upTo xs i).length = i := by
  rw [upTo, List.length_reverse, List.length_take, Array.length_toList, Nat.min_eq_left hi]

theorem upTo_size (xs : Array Char) : upTo xs xs.size = xs.toList.reverse := by
  rw [upTo, List.take_of_length_le (Nat.le_of_eq Array.length_toList)]

/-- A character stands nowhere before a position, or last at some place. -/
theorem lastBefore_cases (c : Char) {xs : Array Char} {i : Nat} (hi : i ≤ xs.size) :
    lastBefore c xs i = 0 ∧ c ∉ upTo xs i ∨
      ∃ k old, lastBefore c xs i = k + 1 ∧ upTo xs i = old ++ c :: upTo xs k ∧ c ∉ old ∧
        k + 1 + old.length = i := by
  induction i with
  | zero => exact .inl ⟨rfl, List.not_mem_nil⟩
  | succ i ih =>
    have hlt : i < xs.size := hi
    simp only [lastBefore, Array.getElem?_eq_getElem hlt, Option.some.injEq, upTo_succ hlt]
    by_cases hc : xs[i] = c
    · exact .inr ⟨i, [], if_pos hc, by rw [hc]; rfl, List.not_mem_nil, rfl⟩
    · rw [if_neg hc]
      have hne : c ≠ xs[i] := Ne.symm hc
      rcases ih (Nat.le_of_lt hlt) with ⟨hzero, hnot⟩ | ⟨k, old, hk, hupTo, hold, hlength⟩
      · exact .inl ⟨hzero, by simp [hne, hnot]⟩
      · exact .inr ⟨k, xs[i] :: old, hk, by rw [hupTo]; rfl, by simp [hne, hold], by simp; omega⟩

/-! ## The table -/

namespace DistanceTable

/-- The entries that are filled so far, row by row, are least costs. -/
structure Filled (xs ys : Array Char) (count : Nat) (table : DistanceTable) : Prop where
  columns : table.columns = ys.size + 1
  size : table.cells.size = count
  isLeast : ∀ i j, i ≤ xs.size → j ≤ ys.size → i * (ys.size + 1) + j < count →
    IsLeast {n | Alignment n (upTo xs i) (upTo ys j)} (table.at i j)

variable {xs ys : Array Char} {table : DistanceTable} {i j : Nat}

/-- The next entry follows from those before it. -/
theorem isLeast_next (hi : i ≤ xs.size) (hj : j ≤ ys.size)
    (h : Filled xs ys (i * (ys.size + 1) + j) table) :
    IsLeast {n | Alignment n (upTo xs i) (upTo ys j)} (table.next xs ys i j) := by
  cases i with
  | zero =>
    have hlength := length_upTo hj
    have hleast := isLeast_of_nil (upTo ys j)
    rwa [hlength] at hleast
  | succ i =>
    cases j with
    | zero =>
      have hlength := length_upTo hi
      have hleast := isLeast_nil (upTo xs (i + 1))
      rwa [hlength] at hleast
    | succ j =>
      have hrow : (i + 1) * (ys.size + 1) = i * (ys.size + 1) + (ys.size + 1) := Nat.succ_mul ..
      have hboth := h.isLeast i j (by omega) (by omega) (by omega)
      have hleft := h.isLeast i (j + 1) (by omega) (by omega) (by omega)
      have hright := h.isLeast (i + 1) j (by omega) (by omega) (by omega)
      have hx : i < xs.size := hi
      have hy : j < ys.size := hj
      rw [upTo_succ hy] at hleft ⊢
      rw [upTo_succ hx] at hright ⊢
      have hedited : editedCost xs[i] ys[j] (table.at i j) (table.at i (j + 1))
          (table.at (i + 1) j) = min (table.at i j + if xs[i]? = ys[j]? then 0 else 1)
            (min (table.at i (j + 1) + 1) (table.at (i + 1) j + 1)) := by
        simp only [editedCost, Array.getElem?_eq_getElem hx, Array.getElem?_eq_getElem hy,
          Option.some.injEq]
      have hdx : xs.getD i ' ' = xs[i] := by simp [Array.getD, hx]
      have hdy : ys.getD j ' ' = ys[j] := by simp [Array.getD, hy]
      simp only [next, hdx, hdy, ← hedited, Bool.or_eq_true, decide_eq_true_eq]
      rcases lastBefore_cases ys[j] hx.le with ⟨hk, hnone⟩ | ⟨k, old, hk, hold, hfirst, hlength⟩
      · rw [if_pos (.inl hk)]
        exact isLeast_of_no_exchange hboth hleft hright (.inl hnone)
      · rcases lastBefore_cases xs[i] hy.le with ⟨hl, hnone⟩ | ⟨l, new, hl, hnew, hfirst', hlength'⟩
        · rw [if_pos (.inr hl)]
          exact isLeast_of_no_exchange hboth hleft hright (.inr hnone)
        · have hcell : k * (ys.size + 1) ≤ i * (ys.size + 1) :=
            Nat.mul_le_mul_right _ (by omega)
          have hapart := h.isLeast k l (by omega) (by omega) (by omega)
          have hleast := isLeast_of_exchange hboth hleft hright hold hnew hfirst hfirst' hapart
          have hgone : i - (k + 1) = old.length := by omega
          have hcome : j - (l + 1) = new.length := by omega
          rw [if_neg (by omega), hk, hl, hgone, hcome]
          exact hleast

theorem at_push (table : DistanceTable) (cell : Nat) :
    DistanceTable.at { table with cells := table.cells.push cell } i j =
      if i * table.columns + j = table.cells.size then cell else table.at i j := by
  simp only [DistanceTable.at, Array.getD_eq_getD_getElem?, Array.getElem?_push]
  split <;> rfl

/-- The next entry is filled with a least cost. -/
theorem Filled.push {count : Nat} (h : Filled xs ys count table)
    (hcount : count < (xs.size + 1) * (ys.size + 1)) :
    Filled xs ys (count + 1) { table with
      cells := table.cells.push
        (table.next xs ys (count / table.columns) (count % table.columns)) } where
  columns := h.columns
  size := by rw [Array.size_push, h.size]
  isLeast := by
    intro i j hi hj hlt
    rw [at_push, h.columns, h.size]
    split
    · next hcell =>
      have hplace : count / (ys.size + 1) = i ∧ count % (ys.size + 1) = j :=
        (Nat.div_mod_unique (Nat.zero_lt_succ _)).mpr
          ⟨by rw [Nat.mul_comm, ← hcell, Nat.add_comm], Nat.lt_succ_of_le hj⟩
      rw [hplace.1, hplace.2]
      subst hcell
      exact isLeast_next hi hj h
    · next hcell => exact h.isLeast i j hi hj (by omega)

theorem filled_ofTexts (xs ys : Array Char) :
    Filled xs ys ((xs.size + 1) * (ys.size + 1)) (ofTexts xs ys) := by
  rw [ofTexts]
  suffices h : ∀ count ≤ (xs.size + 1) * (ys.size + 1), Filled xs ys count
      ((List.range count).foldl (fun table n =>
        { table with
          cells := table.cells.push (table.next xs ys (n / table.columns) (n % table.columns)) })
        ⟨ys.size + 1, #[]⟩) from h _ le_rfl
  intro count hcount
  induction count with
  | zero => exact ⟨rfl, rfl, fun i j _ _ hlt => absurd hlt (Nat.not_lt_zero _)⟩
  | succ count ih =>
    rw [List.range_succ, List.foldl_append]
    exact (ih (Nat.le_of_succ_le hcount)).push hcount

end DistanceTable

/-! ## The distance -/

/-- The distance of two texts is the least number of edits that turn one into the other. -/
theorem isLeast_distance (a b : String) :
    IsLeast {n | Edits n a.toList b.toList} (distance a b) := by
  have hlast : a.toList.toArray.size * (b.toList.toArray.size + 1) + b.toList.toArray.size <
      (a.toList.toArray.size + 1) * (b.toList.toArray.size + 1) := by
    rw [Nat.succ_mul]
    omega
  have hleast := (DistanceTable.filled_ofTexts a.toList.toArray b.toList.toArray).isLeast _ _ le_rfl
    le_rfl hlast
  rw [upTo_size, upTo_size] at hleast
  have hedits := isLeast_edits hleast
  simp only [Edits.reverse_iff] at hedits
  exact hedits

/-- An exchange may come before an insertion between the two characters. -/
example : distance "ca" "abc" = 2 := by decide +kernel

/-! ## The nearest of some texts -/

/-- Of candidates the first of the nearest is kept. -/
theorem foldl_nearer (first : String × Nat) (rest : List (String × Nat)) :
    ∃ before after, first :: rest = before ++ rest.foldl nearer first :: after ∧
      (∀ p ∈ before, (rest.foldl nearer first).2 < p.2) ∧
      ∀ p ∈ after, (rest.foldl nearer first).2 ≤ p.2 := by
  induction rest using List.reverseRecOn with
  | nil => exact ⟨[], [], rfl, nofun, nofun⟩
  | append_singleton rest p ih =>
    obtain ⟨before, after, hsplit, hbefore, hafter⟩ := ih
    rw [List.foldl_append, List.foldl_cons, List.foldl_nil, ← List.cons_append, hsplit]
    generalize rest.foldl nearer first = least at hbefore hafter
    by_cases hp : p.2 < least.2
    · rw [nearer, if_pos hp]
      refine ⟨before ++ least :: after, [], rfl, fun q hq => hp.trans_le ?_, nofun⟩
      rcases List.mem_append.mp hq with hq | hq
      · exact (hbefore q hq).le
      · rcases List.mem_cons.mp hq with rfl | hq
        · exact le_rfl
        · exact hafter q hq
    · rw [nearer, if_neg hp]
      refine ⟨before, after ++ [p], by simp, hbefore, fun q hq => ?_⟩
      rcases List.mem_append.mp hq with hq | hq
      · exact hafter q hq
      · rw [List.mem_singleton.mp hq]
        exact Nat.le_of_not_lt hp

section Closest

variable {limit : Nat} {text : String} {candidates : List String}

theorem filter_near : (candidates.map fun name => (name, distance text name)).filter
    (·.2 ≤ limit) = (candidates.filter fun name => distance text name ≤ limit).map
      fun name => (name, distance text name) := by
  simp only [List.filter_map, Function.comp_def]

theorem closest?_eq_none_iff :
    closest? limit text candidates = none ↔ ∀ name ∈ candidates, limit < distance text name := by
  rw [closest?, filter_near]
  split
  · next hnil => simpa using hnil
  · next first rest hcons =>
    simp only [reduceCtorEq, false_iff]
    intro hfar
    have hnil : (candidates.filter fun name => distance text name ≤ limit) = [] := by
      simpa using hfar
    simp [hnil] at hcons

/-- The text that is found is the first of the nearest among those that are near enough. -/
theorem exists_of_closest? {name : String} (h : closest? limit text candidates = some name) :
    ∃ before after, (candidates.filter fun name => distance text name ≤ limit) =
        before ++ name :: after ∧
      (∀ other ∈ before, distance text name < distance text other) ∧
      ∀ other ∈ after, distance text name ≤ distance text other := by
  rw [closest?, filter_near] at h
  split at h
  · cases h
  · next first rest hcons =>
    obtain ⟨before, after, hsplit, hbefore, hafter⟩ := foldl_nearer first rest
    rw [← hcons, List.map_eq_append_iff] at hsplit
    obtain ⟨before, tail, hfilter, rfl, htail⟩ := hsplit
    obtain ⟨name', after, rfl, hname, rfl⟩ := List.map_eq_cons_iff.mp htail
    rw [← hname, Option.some.injEq] at h
    subst h
    rw [← hname, List.forall_mem_map] at hbefore hafter
    dsimp only at hbefore hafter ⊢
    exact ⟨before, after, hfilter, hbefore, hafter⟩

end Closest

end Folio.Text
