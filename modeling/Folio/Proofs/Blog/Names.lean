import Folio.Blog.Basic
import Folio.Proofs.Document.FileName
import Mathlib.Data.List.Infix

/-!
# Names of posts

A file is a post if its name ends in a dot and one of two extensions. The slug is what stands before
them.

Results:

* `Blog.slugOf_append`: the slug of a name that is made from a slug is that slug.
* `Blog.isPost_iff`: the names of posts are those made from their slugs.
-/

namespace Folio

theorem Text.dropTail_eq_some_iff {tail cs stem : List Char} :
    Text.dropTail tail cs = some stem ↔ cs = stem ++ tail := by
  rw [Text.dropTail, Option.map_eq_some_iff]
  simp only [List.isPrefixOf?_eq_some_iff_append_eq]
  constructor
  · rintro ⟨rest, hrest, rfl⟩
    rw [← List.reverse_inj, List.reverse_append, List.reverse_reverse]
    exact hrest.symm
  · rintro rfl
    exact ⟨stem.reverse, List.reverse_append.symm, List.reverse_reverse stem⟩

namespace Blog

theorem append_mdx (slug : String) : slug ++ "." ++ "mdx" = slug ++ ".mdx" :=
  String.append_assoc

theorem append_md (slug : String) : slug ++ "." ++ "md" = slug ++ ".md" :=
  String.append_assoc

theorem dot_notMem_extension {ext : String} (hext : ext ∈ extensions) : '.' ∉ ext.toList := by
  simp only [extensions, List.mem_cons, List.not_mem_nil, or_false] at hext
  rcases hext with rfl | rfl <;> decide

theorem slugOf_append {ext : String} (hext : ext ∈ extensions) (slug : String) :
    slugOf (slug ++ "." ++ ext) = slug := by
  simp only [extensions, List.mem_cons, List.not_mem_nil, or_false] at hext
  rcases hext with rfl | rfl
  · have hmdx : Text.dropTail ".mdx".toList (slug ++ "." ++ "mdx").toList = some slug.toList := by
      rw [Text.dropTail_eq_some_iff]
      simp
    rw [slugOf, hmdx]
    simp
  · have hmdx : Text.dropTail ".mdx".toList (slug ++ "." ++ "md").toList = none := by
      rw [Option.eq_none_iff_forall_ne_some]
      intro stem hstem
      have hlast := congrArg List.getLast? (Text.dropTail_eq_some_iff.mp hstem)
      simp at hlast
    have hmd : Text.dropTail ".md".toList (slug ++ "." ++ "md").toList = some slug.toList := by
      rw [Text.dropTail_eq_some_iff]
      simp
    rw [slugOf, hmdx, hmd]
    simp

theorem isPost_iff {name : String} :
    isPost name ↔ ∃ slug, ∃ ext ∈ extensions, name = slug ++ "." ++ ext := by
  rw [isPost]
  cases hcut : Text.cutLast '.' name.toList with
  | none =>
    have hdot := Text.cutLast_eq_none_iff.mp hcut
    simp only [Bool.false_eq_true, false_iff]
    rintro ⟨slug, ext, -, rfl⟩
    simp at hdot
  | some parts =>
    obtain ⟨hname, hdot⟩ := Text.cutLast_eq_some_iff.mp hcut
    simp only [List.contains_iff_mem]
    constructor
    · intro hext
      refine ⟨.ofList parts.1, _, hext, eq_append_dot_iff.mpr ?_⟩
      rw [hname, String.toList_ofList, String.toList_ofList]
    · rintro ⟨slug, ext, hext, rfl⟩
      rw [eq_append_dot_iff.mp rfl, Text.cutLast_append _ (dot_notMem_extension hext)] at hcut
      cases hcut
      rwa [String.ofList_toList]

end Blog

end Folio
