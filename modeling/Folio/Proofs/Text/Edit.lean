import Mathlib.Order.Bounds.Basic

/-!
# Edits and alignments

One text is turned into another by single edits, one after another, and any edit may work on what
others have left. An alignment tells what becomes of each character in the end: it is deleted,
inserted, kept or replaced, or it changes places with a later one, where all that stands between the
two goes and all that is to stand between them comes anew. What an alignment costs can be done by so
many edits, and no edits do with less. So the least number of edits is the least cost of an
alignment.

Main definitions:

* `Edit`, `Edits`: one edit, and a number of edits one after another.
* `Alignment`: an alignment of two texts that costs no more than a number.

Results:

* `Alignment.edit`: after an edit an alignment costs at most one more.
* `Edits.alignment`, `Alignment.exists_edits`: edits make an alignment, and an alignment edits.
* `isLeast_edits`: the least cost of an alignment is the least number of edits.
-/

namespace Folio.Text

/-- One edit of a text. -/
inductive Edit : List Char → List Char → Prop
  | insert (c : Char) (cs : List Char) : Edit cs (c :: cs)
  | delete (c : Char) (cs : List Char) : Edit (c :: cs) cs
  | replace (c d : Char) (cs : List Char) : Edit (c :: cs) (d :: cs)
  /-- Two neighbours change places. -/
  | exchange (c d : Char) (cs : List Char) : Edit (c :: d :: cs) (d :: c :: cs)
  | later (c : Char) {cs ds : List Char} : Edit cs ds → Edit (c :: cs) (c :: ds)

/-- A number of edits one after another. -/
inductive Edits : Nat → List Char → List Char → Prop
  | nil (cs : List Char) : Edits 0 cs cs
  | cons {n : Nat} {cs ds es : List Char} : Edit cs ds → Edits n ds es → Edits (n + 1) cs es

/-- What becomes of the characters of a text in another, at a cost of no more than a number. -/
inductive Alignment : Nat → List Char → List Char → Prop
  | nil (n : Nat) : Alignment n [] []
  | insert {n : Nat} {cs ds : List Char} (d : Char) : Alignment n cs ds →
      Alignment (n + 1) cs (d :: ds)
  | delete {n : Nat} {cs ds : List Char} (c : Char) : Alignment n cs ds →
      Alignment (n + 1) (c :: cs) ds
  | keep {n : Nat} {cs ds : List Char} (c : Char) : Alignment n cs ds →
      Alignment n (c :: cs) (c :: ds)
  | replace {n : Nat} {cs ds : List Char} (c d : Char) : Alignment n cs ds →
      Alignment (n + 1) (c :: cs) (d :: ds)
  /-- Two characters change places, those between them are deleted, and others inserted. -/
  | exchange {n : Nat} {cs ds : List Char} (c d : Char) (old new : List Char) :
      Alignment n cs ds →
      Alignment (n + old.length + 1 + new.length) (c :: (old ++ d :: cs)) (d :: (new ++ c :: ds))

/-! ## Edits -/

namespace Edit

theorem symm {cs ds : List Char} (h : Edit cs ds) : Edit ds cs := by
  induction h with
  | insert c cs => exact .delete c cs
  | delete c cs => exact .insert c cs
  | replace c d cs => exact .replace d c cs
  | exchange c d cs => exact .exchange d c cs
  | later c _ ih => exact .later c ih

theorem append_left {cs ds : List Char} (h : Edit cs ds) (es : List Char) :
    Edit (es ++ cs) (es ++ ds) := by
  induction es with
  | nil => exact h
  | cons e es ih => exact .later e ih

theorem append_right {cs ds : List Char} (h : Edit cs ds) (es : List Char) :
    Edit (cs ++ es) (ds ++ es) := by
  induction h with
  | insert c cs => exact .insert c (cs ++ es)
  | delete c cs => exact .delete c (cs ++ es)
  | replace c d cs => exact .replace c d (cs ++ es)
  | exchange c d cs => exact .exchange c d (cs ++ es)
  | later c _ ih => exact .later c ih

theorem reverse {cs ds : List Char} (h : Edit cs ds) : Edit cs.reverse ds.reverse := by
  induction h with
  | insert c cs =>
    rw [List.reverse_cons]
    simpa using (Edit.insert c []).append_left cs.reverse
  | delete c cs =>
    rw [List.reverse_cons]
    simpa using (Edit.delete c []).append_left cs.reverse
  | replace c d cs =>
    rw [List.reverse_cons, List.reverse_cons]
    exact (Edit.replace c d []).append_left cs.reverse
  | exchange c d cs =>
    simp only [List.reverse_cons, List.append_assoc]
    exact (Edit.exchange d c []).append_left cs.reverse
  | later c _ ih =>
    rw [List.reverse_cons, List.reverse_cons]
    exact ih.append_right [c]

/-- What an edit can do to a text that begins with a character. -/
theorem cons_cases {c : Char} {cs es : List Char} (h : Edit (c :: cs) es) :
    (∃ e, es = e :: c :: cs) ∨ es = cs ∨ (∃ d, es = d :: cs) ∨
      (∃ d ds, cs = d :: ds ∧ es = d :: c :: ds) ∨ ∃ ds, es = c :: ds ∧ Edit cs ds := by
  cases h with
  | insert e => exact .inl ⟨e, rfl⟩
  | delete => exact .inr (.inl rfl)
  | replace _ d => exact .inr (.inr (.inl ⟨d, rfl⟩))
  | exchange _ d ds => exact .inr (.inr (.inr (.inl ⟨d, ds, rfl, rfl⟩)))
  | later _ h => exact .inr (.inr (.inr (.inr ⟨_, rfl, h⟩)))

/-- An edit of two texts in a row is one of the first, one of the second, or exchanges the
characters where they meet. -/
theorem append_cases {cs ds es : List Char} (h : Edit (cs ++ ds) es) :
    (∃ cs', es = cs' ++ ds ∧ cs'.length ≤ cs.length + 1) ∨
      (∃ ds', es = cs ++ ds' ∧ Edit ds ds') ∨
      ∃ cs' ds' c d, cs = cs' ++ [c] ∧ ds = d :: ds' ∧ es = cs' ++ d :: c :: ds' := by
  induction cs generalizing es with
  | nil => exact .inr (.inl ⟨es, rfl, h⟩)
  | cons c cs ih =>
    rw [List.cons_append] at h
    rcases h.cons_cases with ⟨e, rfl⟩ | rfl | ⟨d, rfl⟩ | ⟨d, rest, hrest, rfl⟩ | ⟨rest, rfl, hlater⟩
    · exact .inl ⟨e :: c :: cs, rfl, by simp⟩
    · exact .inl ⟨cs, rfl, by simp; omega⟩
    · exact .inl ⟨d :: cs, rfl, by simp⟩
    · cases cs with
      | nil => exact .inr (.inr ⟨[], rest, c, d, rfl, hrest, rfl⟩)
      | cons e cs =>
        obtain ⟨rfl, rfl⟩ := List.cons.inj hrest
        exact .inl ⟨e :: c :: cs, rfl, by simp⟩
    · rcases ih hlater with ⟨cs', rfl, hlength⟩ | ⟨ds', rfl, hds⟩ | ⟨cs', ds', e, d, rfl, rfl, rfl⟩
      · exact .inl ⟨c :: cs', rfl, by simp; omega⟩
      · exact .inr (.inl ⟨ds', rfl, hds⟩)
      · exact .inr (.inr ⟨c :: cs', ds', e, d, rfl, rfl, rfl⟩)

end Edit

namespace Edits

variable {m n : Nat} {cs ds es : List Char}

theorem single (h : Edit cs ds) : Edits 1 cs ds := .cons h (.nil ds)

theorem trans (h : Edits m cs ds) (h' : Edits n ds es) : Edits (m + n) cs es := by
  induction h with
  | nil => rwa [Nat.zero_add]
  | cons hedit _ ih =>
    rw [Nat.succ_add]
    exact .cons hedit (ih h')

theorem append_left (h : Edits n cs ds) (es : List Char) : Edits n (es ++ cs) (es ++ ds) := by
  induction h with
  | nil => exact .nil _
  | cons hedit _ ih => exact .cons (hedit.append_left es) ih

theorem deletes (old : List Char) : Edits old.length (old ++ cs) cs := by
  induction old with
  | nil => exact .nil cs
  | cons c old ih => exact .cons (.delete c (old ++ cs)) ih

theorem inserts (new : List Char) : Edits new.length cs (new ++ cs) := by
  induction new with
  | nil => exact .nil cs
  | cons c new ih => exact ih.trans (.single (.insert c (new ++ cs)))

theorem reverse (h : Edits n cs ds) : Edits n cs.reverse ds.reverse := by
  induction h with
  | nil => exact .nil _
  | cons hedit _ ih => exact .cons hedit.reverse ih

theorem reverse_iff : Edits n cs.reverse ds.reverse ↔ Edits n cs ds := by
  refine ⟨fun h => ?_, .reverse⟩
  have hback := h.reverse
  rwa [List.reverse_reverse, List.reverse_reverse] at hback

end Edits

/-! ## Alignments -/

namespace Alignment

variable {m n : Nat} {cs ds : List Char}

theorem mono (h : Alignment m cs ds) (hmn : m ≤ n) : Alignment n cs ds := by
  induction h generalizing n with
  | nil => exact .nil n
  | insert d _ ih =>
    obtain ⟨n, rfl⟩ := Nat.exists_eq_add_of_lt hmn
    exact .insert d (ih (by omega))
  | delete c _ ih =>
    obtain ⟨n, rfl⟩ := Nat.exists_eq_add_of_lt hmn
    exact .delete c (ih (by omega))
  | keep c _ ih => exact .keep c (ih hmn)
  | replace c d _ ih =>
    obtain ⟨n, rfl⟩ := Nat.exists_eq_add_of_lt hmn
    exact .replace c d (ih (by omega))
  | @exchange m cs ds c d old new _ ih =>
    have hcost : n = (n - (old.length + 1 + new.length)) + old.length + 1 + new.length := by omega
    rw [hcost]
    exact .exchange c d old new (ih (by omega))

theorem refl (cs : List Char) : Alignment 0 cs cs := by
  induction cs with
  | nil => exact .nil 0
  | cons c _ ih => exact .keep c ih

theorem deletes (old : List Char) (h : Alignment n cs ds) :
    Alignment (n + old.length) (old ++ cs) ds := by
  induction old with
  | nil => exact h
  | cons c _ ih => exact .delete c ih

theorem inserts (new : List Char) (h : Alignment n cs ds) :
    Alignment (n + new.length) cs (new ++ ds) := by
  induction new with
  | nil => exact h
  | cons d _ ih => exact .insert d ih

/-- The second of two characters that change places is kept instead. The first goes, and another of
its kind comes anew. -/
theorem keep_second (h : Alignment n cs ds) (c d : Char) (old new : List Char) :
    Alignment (n + old.length + 1 + new.length) (old ++ d :: cs) (d :: (new ++ c :: ds)) := by
  have hkept := (((h.insert c).inserts new).keep d).deletes old
  exact hkept.mono (by omega)

/-- The first of two characters that change places is kept instead, and another of the kind of the
second comes anew before it. -/
theorem keep_first (h : Alignment n cs ds) (c d : Char) (old new : List Char) :
    Alignment (n + old.length + 1 + new.length) (c :: (old ++ cs)) (d :: (new ++ c :: ds)) := by
  have hkept := (((h.deletes old).keep c).inserts new).insert d
  exact hkept.mono (by omega)

/-- Without its first character a text is aligned at no greater cost, unless that character is kept,
and what is before it comes anew. -/
theorem tail_cases {c : Char} (h : Alignment n (c :: cs) ds) :
    Alignment n cs ds ∨ ∃ m new ds', ds = new ++ c :: ds' ∧ Alignment m cs ds' ∧
      n = m + new.length := by
  generalize htext : c :: cs = text at h
  induction h with
  | nil => cases htext
  | insert d _ ih =>
    rcases ih htext with hcs | ⟨m, new, ds', rfl, hcs, rfl⟩
    · exact .inl (hcs.insert d)
    · exact .inr ⟨m, d :: new, ds', rfl, hcs, rfl⟩
  | delete _ hcs =>
    obtain ⟨rfl, rfl⟩ := List.cons.inj htext
    exact .inl (hcs.mono (Nat.le_succ _))
  | @keep n _ ds _ hcs =>
    obtain ⟨rfl, rfl⟩ := List.cons.inj htext
    exact .inr ⟨n, [], ds, rfl, hcs, rfl⟩
  | replace _ d hcs =>
    obtain ⟨rfl, rfl⟩ := List.cons.inj htext
    exact .inl (hcs.insert d)
  | exchange _ d old new hcs =>
    obtain ⟨rfl, rfl⟩ := List.cons.inj htext
    exact .inl (hcs.keep_second c d old new)

/-! ## An edit costs one -/

theorem edit_delete {cs' : List Char} (c : Char) (h : Alignment n cs ds)
    (ih : ∀ {cs'}, Edit cs cs' → Alignment (n + 1) cs' ds) (hedit : Edit (c :: cs) cs') :
    Alignment (n + 1 + 1) cs' ds := by
  rcases hedit.cons_cases with ⟨e, rfl⟩ | rfl | ⟨d, rfl⟩ | ⟨d, rest, rfl, rfl⟩ | ⟨rest, rfl, hlater⟩
  · exact (h.delete c).delete e
  · exact h.mono (by omega)
  · exact (h.delete d).mono (by omega)
  · exact (ih (.later d (.insert c rest))).mono (by omega)
  · exact (ih hlater).delete c

theorem edit_keep {cs' : List Char} (c : Char) (h : Alignment n cs ds)
    (ih : ∀ {cs'}, Edit cs cs' → Alignment (n + 1) cs' ds) (hedit : Edit (c :: cs) cs') :
    Alignment (n + 1) cs' (c :: ds) := by
  rcases hedit.cons_cases with ⟨e, rfl⟩ | rfl | ⟨d, rfl⟩ | ⟨d, rest, rfl, rfl⟩ | ⟨rest, rfl, hlater⟩
  · exact (h.keep c).delete e
  · exact h.insert c
  · exact h.replace d c
  · -- Two kept characters that change places are exchanged, whatever comes anew between them.
    rcases h.tail_cases with hrest | ⟨m, new, ds', rfl, hrest, rfl⟩
    · exact (hrest.keep c).delete d
    · exact (Alignment.exchange d c [] new hrest).mono (by simp; omega)
  · exact (ih hlater).keep c

theorem edit_replace {cs' : List Char} (c d : Char) (h : Alignment n cs ds)
    (ih : ∀ {cs'}, Edit cs cs' → Alignment (n + 1) cs' ds) (hedit : Edit (c :: cs) cs') :
    Alignment (n + 1 + 1) cs' (d :: ds) := by
  rcases hedit.cons_cases with ⟨e, rfl⟩ | rfl | ⟨e, rfl⟩ | ⟨e, rest, rfl, rfl⟩ | ⟨rest, rfl, hlater⟩
  · exact (h.replace c d).delete e
  · exact (h.insert d).mono (by omega)
  · exact (h.replace e d).mono (by omega)
  · exact (ih (.later e (.insert c rest))).insert d
  · exact (ih hlater).replace c d

/-- An edit after the first of two characters that change places. -/
theorem edit_exchange_later {cs' : List Char} (c d : Char) (old new : List Char)
    (h : Alignment n cs ds) (ih : ∀ {cs'}, Edit cs cs' → Alignment (n + 1) cs' ds)
    (hedit : Edit (old ++ d :: cs) cs') :
    Alignment (n + old.length + 1 + new.length + 1) (c :: cs') (d :: (new ++ c :: ds)) := by
  rcases hedit.append_cases with ⟨old', rfl, hlength⟩ | ⟨rest, rfl, hrest⟩ |
      ⟨old', cs', e, d', rfl, hmeet, rfl⟩
  · exact (h.exchange c d old' new).mono (by omega)
  · rcases hrest.cons_cases with ⟨e, rfl⟩ | rfl | ⟨e, rfl⟩ | ⟨e, cs, rfl, rfl⟩ | ⟨rest, rfl, hlater⟩
    · have hlonger := h.exchange c d (old ++ [e]) new
      rw [List.append_assoc] at hlonger
      exact hlonger.mono (by simp; omega)
    · exact (h.keep_first c d old new).mono (by omega)
    · exact ((h.delete e).keep_first c d old new).mono (by omega)
    · exact ((ih (.later e (.insert d cs))).keep_first c d old new).mono (by omega)
    · exact ((ih hlater).exchange c d old new).mono (by omega)
  · obtain ⟨rfl, rfl⟩ := List.cons.inj hmeet
    exact ((h.delete e).exchange c d old' new).mono (by simp; omega)

theorem edit_exchange {cs' : List Char} (c d : Char) (old new : List Char)
    (h : Alignment n cs ds) (ih : ∀ {cs'}, Edit cs cs' → Alignment (n + 1) cs' ds)
    (hedit : Edit (c :: (old ++ d :: cs)) cs') :
    Alignment (n + old.length + 1 + new.length + 1) cs' (d :: (new ++ c :: ds)) := by
  rcases hedit.cons_cases with ⟨e, rfl⟩ | rfl | ⟨e, rfl⟩ | ⟨e, rest, hrest, rfl⟩ | ⟨rest, rfl, hlater⟩
  · exact (h.exchange c d old new).delete e
  · exact (h.keep_second c d old new).mono (by omega)
  · exact (h.keep_second c d old new).delete e
  · cases old with
    | nil =>
      obtain ⟨rfl, rfl⟩ := List.cons.inj hrest
      exact (((h.keep c).inserts new).keep d).mono (by simp; omega)
    | cons e' old =>
      obtain ⟨rfl, rfl⟩ := List.cons.inj hrest
      exact ((h.exchange c d old new).delete e').mono (by simp)
  · exact h.edit_exchange_later c d old new ih hlater

/-- After an edit an alignment costs at most one more. -/
theorem edit {cs' : List Char} (h : Alignment n cs ds) (hedit : Edit cs cs') :
    Alignment (n + 1) cs' ds := by
  induction h generalizing cs' with
  | nil n =>
    cases hedit with
    | insert c => exact (Alignment.nil n).delete c
  | insert d _ ih => exact .insert d (ih hedit)
  | delete c h ih => exact h.edit_delete c ih hedit
  | keep c h ih => exact h.edit_keep c ih hedit
  | replace c d h ih => exact h.edit_replace c d ih hedit
  | exchange c d old new h ih => exact h.edit_exchange c d old new ih hedit

end Alignment

/-! ## Alignments and edits -/

theorem Edits.alignment {n : Nat} {cs ds : List Char} (h : Edits n cs ds) : Alignment n cs ds := by
  induction h with
  | nil cs => exact .refl cs
  | cons hedit _ ih => exact ih.edit hedit.symm

/-- What lies between two characters is deleted, they are exchanged, and others are inserted. -/
theorem Edits.exchange {n : Nat} {cs ds : List Char} (c d : Char) (old new : List Char)
    (h : Edits n cs ds) : Edits (old.length + 1 + new.length + n) (c :: (old ++ d :: cs))
      (d :: (new ++ c :: ds)) := by
  have hdeletes : Edits old.length (old ++ d :: cs) (d :: cs) := .deletes old
  have hinserts : Edits new.length (c :: cs) (new ++ c :: cs) := .inserts new
  have hexchanged := (hdeletes.append_left [c]).trans (.single (.exchange c d cs))
  have hinserted := hexchanged.trans (hinserts.append_left [d])
  have hrest := h.append_left (d :: (new ++ [c]))
  simp only [List.cons_append, List.append_assoc, List.nil_append] at hinserted hrest
  exact hinserted.trans hrest

theorem Alignment.exists_edits {n : Nat} {cs ds : List Char} (h : Alignment n cs ds) :
    ∃ m ≤ n, Edits m cs ds := by
  induction h with
  | nil n => exact ⟨0, n.zero_le, .nil []⟩
  | @insert _ cs _ d _ ih =>
    obtain ⟨m, hm, hedits⟩ := ih
    exact ⟨m + 1, by omega, hedits.trans (.single (.insert d _))⟩
  | delete c _ ih =>
    obtain ⟨m, hm, hedits⟩ := ih
    exact ⟨m + 1, by omega, .cons (.delete c _) hedits⟩
  | keep c _ ih =>
    obtain ⟨m, hm, hedits⟩ := ih
    exact ⟨m, hm, hedits.append_left [c]⟩
  | replace c d _ ih =>
    obtain ⟨m, hm, hedits⟩ := ih
    exact ⟨m + 1, by omega, .cons (.replace c d _) (hedits.append_left [d])⟩
  | exchange c d old new _ ih =>
    obtain ⟨m, hm, hedits⟩ := ih
    exact ⟨_, by omega, hedits.exchange c d old new⟩

theorem isLeast_edits {n : Nat} {cs ds : List Char}
    (h : IsLeast {n | Alignment n cs ds} n) : IsLeast {n | Edits n cs ds} n := by
  obtain ⟨m, hm, hedits⟩ := Alignment.exists_edits h.1
  have hle : n ≤ m := h.2 hedits.alignment
  have heq : m = n := Nat.le_antisymm hm hle
  exact ⟨heq ▸ hedits, fun k hk => h.2 hk.alignment⟩

end Folio.Text
