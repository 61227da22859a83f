import Folio.Proofs.Text.Replacing
import Folio.Proofs.Text.Runs
import Folio.Title
import Mathlib.Data.List.Basic

/-!
# Corrected acronyms

The acronyms of the table are corrected one after another, each wherever it occurs at that time. A
correction only turns small letters into capital ones. No acronym goes on with a capital letter, so
that a new occurrence of one can only begin with the last letter of a corrected acronym. Where the
table has the new one later, it is corrected in turn; where it has it before, or where it is the
same one, it stays: `didpp` becomes `DIDpp`, in which `Dpp` occurs, and `didid` becomes `DIDid`.
There are six such overlaps in the table, and a title can be corrected further just if it holds one.

Main definitions:

* `correctWith`: the corrections of a part of the table.
* `overlaps`: the acronyms that stay uncorrected, with what stands before them.

Main results:

* `correctWith_unwords`: words are corrected one by one.
* `correctWith_eq_self_iff`: a text stays as it is just if no acronym occurs in it.
* `ofFilename_uncorrected`: the uncorrected acronyms of a title.
-/

namespace Folio.Title

open Text (replaceAll replaceAll_append_cons replaceAll_cons replaceAll_eq_self replaceAll_part
  replace_induction unwords)

/-! ## The table -/

/-- Every acronym of a table in its proper spelling. -/
def correctWith (table : List (String × String)) (cs : List Char) : List Char :=
  table.foldl (fun cs e => replaceAll e.1.toList e.2.toList cs) cs

theorem correctAcronyms_eq (cs : List Char) : correctAcronyms cs = correctWith acronyms cs := rfl

theorem correctWith_cons (e : String × String) (table : List (String × String)) (cs : List Char) :
    correctWith (e :: table) cs = correctWith table (replaceAll e.1.toList e.2.toList cs) := rfl

theorem plain_ne_nil : ∀ e ∈ acronyms, e.1.toList ≠ [] := by decide

theorem proper_ne_nil : ∀ e ∈ acronyms, e.2.toList ≠ [] := by decide

theorem space_notMem_plain : ∀ e ∈ acronyms, ' ' ∉ e.1.toList := by decide

/-! ## Word by word -/

theorem replaceAll_unwords {part new : List Char} (hne : part ≠ []) (hspace : ' ' ∉ part)
    (ws : List (List Char)) :
    replaceAll part new (unwords ws) = unwords (ws.map (replaceAll part new)) := by
  have htail : ' ' ∉ part.tail := fun h => hspace (List.mem_of_mem_tail h)
  have hstart (rest : List Char) : ¬part <+: ' ' :: rest := by
    obtain ⟨c, tail, rfl⟩ := List.exists_cons_of_ne_nil hne
    rw [List.cons_prefix_cons]
    rintro ⟨rfl, -⟩
    exact hspace List.mem_cons_self
  induction ws with
  | nil => rfl
  | cons word ws ih =>
    cases ws with
    | nil => simp only [List.map_cons, List.map_nil, Text.unwords_singleton]
    | cons next ws =>
      rw [Text.unwords_cons_cons, replaceAll_append_cons hne htail, replaceAll_cons (hstart _), ih]
      exact (Text.unwords_cons_cons _ _ _).symm

/-- Words are corrected one by one, since no acronym has a space in it. -/
theorem correctWith_unwords {table : List (String × String)} (htable : table ⊆ acronyms)
    (ws : List (List Char)) :
    correctWith table (unwords ws) = unwords (ws.map (correctWith table)) := by
  induction table generalizing ws with
  | nil => exact congrArg unwords (List.map_id ws).symm
  | cons e table ih =>
    obtain ⟨he, htable⟩ := List.cons_subset.mp htable
    rw [correctWith_cons, replaceAll_unwords (plain_ne_nil e he) (space_notMem_plain e he),
      ih htable, List.map_map]
    rfl

theorem mem_correctWith {table : List (String × String)} (htable : table ⊆ acronyms) {c : Char}
    {cs : List Char} (h : c ∈ correctWith table cs) :
    c ∈ cs ∨ ∃ e ∈ acronyms, c ∈ e.2.toList := by
  induction table generalizing cs with
  | nil => exact .inl h
  | cons e table ih =>
    obtain ⟨he, htable⟩ := List.cons_subset.mp htable
    rcases ih htable h with hc | hc
    · rcases Text.mem_replaceAll (plain_ne_nil e he) hc with hc | hc
      · exact .inl hc
      · exact .inr ⟨e, he, hc⟩
    · exact .inr hc

theorem correctWith_ne_nil {table : List (String × String)} (htable : table ⊆ acronyms)
    {cs : List Char} (h : cs ≠ []) : correctWith table cs ≠ [] := by
  induction table generalizing cs with
  | nil => exact h
  | cons e table ih =>
    obtain ⟨he, htable⟩ := List.cons_subset.mp htable
    refine ih htable ?_
    exact Text.replaceAll_ne_nil (plain_ne_nil e he) (proper_ne_nil e he) h

/-! ## Capital letters -/

/-- The number of capital letters of a text. -/
def capitals (cs : List Char) : Nat := cs.countP Char.isUpper

theorem capitals_append (cs cs' : List Char) : capitals (cs ++ cs') = capitals cs + capitals cs' :=
  List.countP_append

theorem capitals_lt : ∀ e ∈ acronyms, capitals e.1.toList < capitals e.2.toList := by decide

section Capitals

variable {part new : List Char} (hne : part ≠ []) (hlt : capitals part < capitals new)
include hne hlt

theorem capitals_le_replaceAll (cs : List Char) :
    capitals cs ≤ capitals (replaceAll part new cs) := by
  induction cs using replace_induction hne with
  | nil => exact le_rfl
  | keep c rest hkeep ih =>
    have hbefore := capitals_append [c] rest
    have hafter := capitals_append [c] (replaceAll part new rest)
    rw [List.singleton_append] at hbefore hafter
    rw [replaceAll_cons hkeep]
    omega
  | replace rest ih =>
    rw [replaceAll_part hne, capitals_append, capitals_append]
    omega

/-- A replaced part leaves more capital letters than there were. -/
theorem capitals_lt_replaceAll {cs : List Char} (h : part <:+: cs) :
    capitals cs < capitals (replaceAll part new cs) := by
  induction cs using replace_induction hne with
  | nil => exact absurd (List.infix_nil.mp h) hne
  | keep c rest hkeep ih =>
    have hrest := ih ((List.infix_cons_iff.mp h).resolve_left hkeep)
    have hbefore := capitals_append [c] rest
    have hafter := capitals_append [c] (replaceAll part new rest)
    rw [List.singleton_append] at hbefore hafter
    rw [replaceAll_cons hkeep]
    omega
  | replace rest ih =>
    have hrest := capitals_le_replaceAll hne hlt rest
    rw [replaceAll_part hne, capitals_append, capitals_append]
    omega

end Capitals

theorem capitals_le_correctWith {table : List (String × String)} (htable : table ⊆ acronyms)
    (cs : List Char) : capitals cs ≤ capitals (correctWith table cs) := by
  induction table generalizing cs with
  | nil => exact le_rfl
  | cons e table ih =>
    obtain ⟨he, htable⟩ := List.cons_subset.mp htable
    exact (capitals_le_replaceAll (plain_ne_nil e he) (capitals_lt e he) cs).trans (ih htable _)

/-- A text stays as it is just if no acronym occurs in it: a correction is never undone. -/
theorem correctWith_eq_self_iff {table : List (String × String)} (htable : table ⊆ acronyms)
    {cs : List Char} : correctWith table cs = cs ↔ ∀ e ∈ table, ¬e.1.toList <:+: cs := by
  induction table with
  | nil => simp [correctWith]
  | cons e table ih =>
    obtain ⟨he, htable⟩ := List.cons_subset.mp htable
    rw [correctWith_cons, List.forall_mem_cons, ← ih htable]
    constructor
    · intro hself
      have hnot : ¬e.1.toList <:+: cs := by
        intro hin
        have hstep := capitals_lt_replaceAll (plain_ne_nil e he) (capitals_lt e he) hin
        have hrest := capitals_le_correctWith htable (replaceAll e.1.toList e.2.toList cs)
        rw [hself] at hrest
        omega
      rw [replaceAll_eq_self hnot] at hself
      exact ⟨hnot, hself⟩
    · rintro ⟨hnot, hself⟩
      rw [replaceAll_eq_self hnot, hself]

/-! ## Occurrences after a replacement -/

/-- What is put in keeps apart from a part that is looked for. -/
structure Apart (new found : List Char) : Prop where
  ne_nil : found ≠ []
  new_ne_nil : new ≠ []
  /-- No occurrence of the part goes on into what is put in. -/
  head_notMem : new.head? ∉ found.tail.map some
  /-- None begins in what is put in, unless with its last character. -/
  not_prefix : ∀ k < new.length - 1, ¬found <+: new.drop k ∧ ¬new.drop k <+: found

instance (new found : List Char) : Decidable (Apart new found) :=
  decidable_of_iff (found ≠ [] ∧ new ≠ [] ∧ new.head? ∉ found.tail.map some ∧
      ∀ k < new.length - 1, ¬found <+: new.drop k ∧ ¬new.drop k <+: found)
    ⟨fun h => ⟨h.1, h.2.1, h.2.2.1, h.2.2.2⟩,
      fun h => ⟨h.ne_nil, h.new_ne_nil, h.head_notMem, h.not_prefix⟩⟩

/-- A part that begins within what is put in begins with its last character. -/
theorem Apart.eq_dropLast {new found before inside after rest : List Char} {c : Char}
    (hapart : Apart new found) (hnew : new = before ++ c :: inside)
    (hfound : found ++ after = c :: inside ++ rest) :
    before = new.dropLast ∧ new.getLast? = found.head? := by
  cases inside with
  | nil =>
    obtain ⟨d, tail, rfl⟩ := List.exists_cons_of_ne_nil hapart.ne_nil
    obtain ⟨rfl, -⟩ := List.cons.inj hfound
    rw [hnew, List.dropLast_concat, List.getLast?_concat]
    exact ⟨rfl, rfl⟩
  | cons d inside =>
    have hlength : before.length < new.length - 1 := by
      rw [hnew]
      simp only [List.length_append, List.length_cons]
      omega
    have hnot := hapart.not_prefix before.length hlength
    rw [hnew, List.drop_left] at hnot
    have hleft : found <+: found ++ after := List.prefix_append _ _
    have hright : c :: d :: inside <+: found ++ after := hfound ▸ List.prefix_append _ _
    rcases List.prefix_or_prefix_of_prefix hleft hright with hstart | hstart
    · exact absurd hstart hnot.1
    · exact absurd hstart hnot.2

section Occurrence

variable {part new found : List Char} (hne : part ≠ []) (hapart : Apart new found)
include hne hapart

/-- What does not hold the beginning of a replacement was there before it. -/
theorem exists_of_replaceAll_eq_append {cs kept after : List Char}
    (hkept : new.head? ∉ kept.map some) (h : replaceAll part new cs = kept ++ after) :
    ∃ rest, cs = kept ++ rest := by
  induction kept generalizing cs with
  | nil => exact ⟨cs, rfl⟩
  | cons c kept ih =>
    by_cases hpart : part <+: cs
    · obtain ⟨rest, rfl⟩ := hpart
      obtain ⟨d, tail, rfl⟩ := List.exists_cons_of_ne_nil hapart.new_ne_nil
      rw [replaceAll_part hne] at h
      obtain rfl : d = c := (List.cons.inj h).1
      exact absurd List.mem_cons_self hkept
    · cases cs with
      | nil => exact absurd h (by simp [replaceAll, Text.replaceFrom])
      | cons d rest =>
        rw [replaceAll_cons hpart] at h
        obtain ⟨rfl, htail⟩ := List.cons.inj h
        obtain ⟨rest', rfl⟩ := ih (fun hmem => hkept (List.mem_cons_of_mem _ hmem)) htail
        exact ⟨rest', rfl⟩

/-- After a replacement, a part to look for either occurs where it did before, and then it is not
the one that was replaced, or it begins with the last character of what was put in. -/
theorem occurrence_cases {cs before after : List Char}
    (h : replaceAll part new cs = before ++ found ++ after) :
    (found ≠ part ∧ ∃ before' after', cs = before' ++ found ++ after' ∧
      replaceAll part new before' = before) ∨
    ∃ before', before = before' ++ new.dropLast ∧ new.getLast? = found.head? := by
  rw [List.append_assoc] at h
  induction cs using replace_induction hne generalizing before with
  | nil =>
    have hnil := List.append_eq_nil_iff.mp h.symm
    exact absurd (List.append_eq_nil_iff.mp hnil.2).1 hapart.ne_nil
  | keep c rest hkeep ih =>
    rw [replaceAll_cons hkeep] at h
    cases before with
    | nil =>
      -- The occurrence begins with the character that was kept, and goes on with others.
      obtain ⟨d, tail, rfl⟩ := List.exists_cons_of_ne_nil hapart.ne_nil
      obtain ⟨rfl, hrest⟩ := List.cons.inj h
      obtain ⟨rest', rfl⟩ := exists_of_replaceAll_eq_append hne hapart hapart.head_notMem hrest
      refine .inl ⟨?_, [], rest', rfl, rfl⟩
      rintro rfl
      exact hkeep (List.prefix_append (c :: tail) rest')
    | cons d before =>
      obtain ⟨rfl, hrest⟩ := List.cons.inj h
      rcases ih hrest with ⟨hfound, before', after', rfl, rfl⟩ | ⟨before', rfl, hlast⟩
      · refine .inl ⟨hfound, c :: before', after', rfl, replaceAll_cons fun hstart => hkeep ?_⟩
        rw [← List.cons_append, ← List.cons_append]
        exact hstart.trans ((List.prefix_append _ _).trans (List.prefix_append _ _))
      · exact .inr ⟨c :: before', rfl, hlast⟩
  | replace rest ih =>
    rw [replaceAll_part hne] at h
    have hcases : (∃ before', before = new ++ before' ∧
          replaceAll part new rest = before' ++ (found ++ after)) ∨
        ∃ c inside, new = before ++ c :: inside ∧
          found ++ after = c :: inside ++ replaceAll part new rest := by
      rcases List.append_eq_append_iff.mp h with hbehind | ⟨inside, hnew, hfound⟩
      · exact .inl hbehind
      · cases inside with
        | nil => exact .inl ⟨[], by simpa using hnew.symm, hfound.symm⟩
        | cons c inside => exact .inr ⟨c, inside, hnew, hfound⟩
    rcases hcases with ⟨before', rfl, hrest⟩ | ⟨c, inside, hnew, hfound⟩
    · -- The occurrence lies behind what was put in.
      rcases ih hrest with ⟨hother, before'', after', rfl, rfl⟩ | ⟨before'', rfl, hlast⟩
      · refine .inl ⟨hother, part ++ before'', after', ?_, replaceAll_part hne before''⟩
        simp only [List.append_assoc]
      · exact .inr ⟨new ++ before'', (List.append_assoc _ _ _).symm, hlast⟩
    · obtain ⟨rfl, hlast⟩ := hapart.eq_dropLast hnew hfound
      exact .inr ⟨[], rfl, hlast⟩

end Occurrence

/-! ## What stays uncorrected -/

/-- The acronyms that a correction can leave behind it, each with the text before it: all but the
last letter of an acronym that the table has later, or of the same one, and its last letter begins
the acronym. -/
def overlaps : List (String × String) :=
  [("DI", "Dpp"), ("DI", "Did"), ("CB", "Vc"), ("MiC", "Aml"), ("GDP", "Rbac"), ("ESP", "Rbac")]

/-- The acronyms of a part of the table occur in a text after what overlaps them only. -/
def OnlyOverlaps (table : List (String × String)) (cs : List Char) : Prop :=
  ∀ e ∈ table, ∀ before after, cs = before ++ e.1.toList ++ after →
    ∃ o ∈ overlaps, o.2 = e.1 ∧ o.1.toList <:+ before

theorem apart_table : ∀ e ∈ acronyms, ∀ f ∈ acronyms, Apart e.2.toList f.1.toList := by
  decide

/-- An acronym that begins with the last letter of a later one, or of its own, overlaps it. -/
theorem pairwise_overlap : acronyms.Pairwise fun f e =>
    e.2.toList.getLast? = f.1.toList.head? →
      ∃ o ∈ overlaps, o.2 = f.1 ∧ o.1.toList = e.2.toList.dropLast := by
  decide

theorem self_overlap : ∀ e ∈ acronyms, e.2.toList.getLast? = e.1.toList.head? →
    ∃ o ∈ overlaps, o.2 = e.1 ∧ o.1.toList = e.2.toList.dropLast := by
  decide

theorem overlap_ne_nil : ∀ o ∈ overlaps, o.1.toList ≠ [] := by decide

/-- No acronym ends, begins or lies in the text that is overlapped. -/
theorem replaceAll_overlap : ∀ e ∈ acronyms, ∀ o ∈ overlaps,
    o.1.toList.head? ∉ e.1.toList.tail.map some ∧
      replaceAll e.1.toList e.2.toList o.1.toList = o.1.toList := by
  decide

theorem exists_acronym_of_overlap : ∀ o ∈ overlaps, ∃ e ∈ acronyms, e.1 = o.2 := by decide

theorem suffix_replaceAll {e o : String × String} (he : e ∈ acronyms) (ho : o ∈ overlaps)
    {cs : List Char} (h : o.1.toList <:+ cs) :
    o.1.toList <:+ replaceAll e.1.toList e.2.toList cs := by
  obtain ⟨lead, rfl⟩ := h
  obtain ⟨hhead, hself⟩ := replaceAll_overlap e he o ho
  obtain ⟨c, tail, hcons⟩ := List.exists_cons_of_ne_nil (overlap_ne_nil o ho)
  have hc : c ∉ e.1.toList.tail := by
    intro hmem
    rw [hcons] at hhead
    exact hhead (List.mem_map_of_mem hmem)
  rw [hcons, replaceAll_append_cons (plain_ne_nil e he) hc, ← hcons, hself]
  exact List.suffix_append _ _

/-- One more acronym is corrected. Where an earlier one occurs, it did before or the correction has
made it; the one that is corrected is left only where the correction has made it. -/
theorem OnlyOverlaps.replace {done todo : List (String × String)} {e : String × String}
    (htable : acronyms = done ++ e :: todo) {cs : List Char} (h : OnlyOverlaps done cs) :
    OnlyOverlaps (done ++ [e]) (replaceAll e.1.toList e.2.toList cs) := by
  intro f hf before after hcs
  have he : e ∈ acronyms := by
    rw [htable]
    simp
  have hmem : f ∈ acronyms := by
    rw [htable, List.append_cons]
    exact List.mem_append_left _ hf
  rw [List.mem_append, List.mem_singleton] at hf
  rcases occurrence_cases (plain_ne_nil e he) (apart_table e he f hmem) hcs with
    ⟨hother, before', after', hbefore', hkept⟩ | ⟨before', hmade, hlast⟩
  · have hdone : f ∈ done := hf.resolve_right fun heq => hother (by rw [heq])
    obtain ⟨o, ho, heq, hsuffix⟩ := h f hdone before' after' hbefore'
    exact ⟨o, ho, heq, hkept ▸ suffix_replaceAll he ho hsuffix⟩
  · have hoverlap : ∃ o ∈ overlaps, o.2 = f.1 ∧ o.1.toList = e.2.toList.dropLast := by
      rcases hf with hdone | rfl
      · have hpairwise := pairwise_overlap
        rw [htable, List.pairwise_append] at hpairwise
        exact hpairwise.2.2 f hdone e List.mem_cons_self hlast
      · exact self_overlap f he hlast
    obtain ⟨o, ho, heq, hlead⟩ := hoverlap
    refine ⟨o, ho, heq, ?_⟩
    rw [hlead, hmade]
    exact List.suffix_append _ _

theorem OnlyOverlaps.correctWith {done todo : List (String × String)}
    (htable : acronyms = done ++ todo) {cs : List Char} (h : OnlyOverlaps done cs) :
    OnlyOverlaps acronyms (correctWith todo cs) := by
  induction todo generalizing done cs with
  | nil =>
    rw [List.append_nil] at htable
    rw [htable]
    exact h
  | cons e todo ih =>
    rw [correctWith_cons]
    exact ih (by rw [htable, List.append_assoc, List.singleton_append]) (h.replace htable)

/-- In a corrected text the acronyms of the table occur after what overlaps them only. -/
theorem onlyOverlaps_correctAcronyms (cs : List Char) :
    OnlyOverlaps acronyms (correctAcronyms cs) := by
  have hnone : OnlyOverlaps [] cs := by
    intro e he
    simp at he
  exact hnone.correctWith (List.nil_append acronyms).symm

/-- A text whose acronyms occur after what overlaps them stays as it is just if it holds no
overlap. -/
theorem OnlyOverlaps.correctAcronyms_eq_self_iff {cs : List Char} (h : OnlyOverlaps acronyms cs) :
    correctAcronyms cs = cs ↔ ∀ o ∈ overlaps, ¬(o.1 ++ o.2).toList <:+: cs := by
  rw [correctAcronyms_eq, correctWith_eq_self_iff (List.Subset.refl acronyms)]
  constructor
  · intro hnone o ho hin
    obtain ⟨e, he, heq⟩ := exists_acronym_of_overlap o ho
    refine hnone e he (List.IsInfix.trans ?_ hin)
    rw [heq, String.toList_append]
    exact (List.suffix_append _ _).isInfix
  · rintro hnone e he ⟨before, after, hcs⟩
    obtain ⟨o, ho, heq, lead, rfl⟩ := h e he before after hcs.symm
    refine hnone o ho ⟨lead, after, ?_⟩
    rw [String.toList_append, heq, ← hcs]
    simp only [List.append_assoc]

/-- An acronym occurs in the title of a file only where its first letter is the last one of a
corrected acronym that stands at its place in the table or behind it. A title can be corrected
further just if it holds such an overlap. -/
theorem ofFilename_uncorrected (filename : String) :
    (∀ e ∈ acronyms, ∀ before after,
      (ofFilename filename).toList = before ++ e.1.toList ++ after →
        ∃ o ∈ overlaps, o.2 = e.1 ∧ o.1.toList <:+ before) ∧
    (correctAcronyms (ofFilename filename).toList = (ofFilename filename).toList ↔
      ∀ o ∈ overlaps, ¬(o.1 ++ o.2).toList <:+: (ofFilename filename).toList) := by
  have hoverlaps : OnlyOverlaps acronyms (ofFilename filename).toList := by
    unfold ofFilename humanize
    rw [String.toList_ofList]
    exact onlyOverlaps_correctAcronyms _
  exact ⟨hoverlaps, hoverlaps.correctAcronyms_eq_self_iff⟩

theorem ofFilename_uncorrected_didpp :
    (ofFilename "didpp.md").toList = "DI".toList ++ "Dpp".toList ++ [] ∧
      (∃ o ∈ overlaps, o.2 = "Dpp" ∧ o.1.toList <:+ "DI".toList) ∧
      ¬∀ o ∈ overlaps, ¬(o.1 ++ o.2).toList <:+: (ofFilename "didpp.md").toList := by
  have htitle : (ofFilename "didpp.md").toList = "DI".toList ++ "Dpp".toList ++ [] := by decide
  obtain ⟨honly, hself⟩ := ofFilename_uncorrected "didpp.md"
  refine ⟨htitle, honly ("Dpp", "DPP") (by decide) "DI".toList [] htitle, ?_⟩
  rw [← hself]
  decide

/-- The acronym that a correction has made is not corrected in turn. -/
theorem exists_uncorrected :
    ofFilename "didpp.md" = "DIDpp" ∧
      (∃ e ∈ acronyms, e.1.toList <:+: (ofFilename "didpp.md").toList) ∧
      correctAcronyms (ofFilename "didpp.md").toList ≠ (ofFilename "didpp.md").toList := by
  decide

/-- None of the overlaps is listed in vain: each is the title of a file. -/
theorem exists_ofFilename_eq_overlap :
    ∀ o ∈ overlaps, ∃ filename, ofFilename filename = o.1 ++ o.2 := by
  unfold overlaps
  simp only [List.forall_mem_cons, List.not_mem_nil, false_imp_iff, implies_true, and_true]
  exact ⟨⟨"didpp.md", by decide⟩, ⟨"didid.md", by decide⟩, ⟨"cbvc.md", by decide⟩,
    ⟨"micaml.md", by decide⟩, ⟨"gdprbac.md", by decide⟩, ⟨"esprbac.md", by decide⟩⟩

end Folio.Title
