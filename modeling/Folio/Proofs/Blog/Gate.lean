import Folio.Proofs.Blog.Order
import Folio.Proofs.Blog.Reading

/-!
# Hidden posts

A post is read and only then shown or hidden. So to show the published posts alone is to show all
posts and to take the others away: what cannot be read is the same, and so is the order.

Main result:

* `Blog.production_eq_development`: each query under one filter by that under the other.
-/

namespace Folio

/-- What is shown under one filter is what is published of what is shown under the other. -/
theorem PublishFilter.admits_production {α : Type} (published : α → Bool) (x : α) :
    (if production.admits (published x) then some x else none) =
      (if development.admits (published x) then some x else none).filter published := by
  rw [admits, admits, if_pos rfl, Option.filter_some]

theorem filterMap_map_filter {α : Type} (p : α → Bool) (rs : List (Option α)) :
    (rs.map (Option.filter p)).filterMap id = (rs.filterMap id).filter p := by
  rw [List.filterMap_map, List.filter_filterMap]
  rfl

namespace Blog

variable (dir : String) (fs : FileSystem) (now : Instant)

theorem listing?_production (name : String) :
    (Blog.mk dir .production).listing? fs now name =
      ((Blog.mk dir .development).listing? fs now name).map
        (Option.filter (·.header.published)) := by
  rw [listing?, listing?]
  cases read fs now (Path.join dir name) with
  | error e => rfl
  | ok post =>
    have hshown :=
      PublishFilter.admits_production (·.header.published) (Listing.mk (slugOf name) post.1)
    exact congrArg Except.ok hshown

theorem find_production (slug : String) :
    (Blog.mk dir .production).find fs now slug =
      ((Blog.mk dir .development).find fs now slug).map
        (Option.filter (·.header.published)) := by
  have hcandidates : (Blog.mk dir .production).candidates slug =
      (Blog.mk dir .development).candidates slug := rfl
  rw [find, find, hcandidates]
  split
  · rfl
  · cases ((Blog.mk dir .development).candidates slug).find? fs.isFile with
    | none => rfl
    | some path =>
      simp only
      cases read fs now path with
      | error e => rfl
      | ok post =>
        have hshown :=
          PublishFilter.admits_production (·.header.published) (Post.mk slug post.1 post.2)
        exact congrArg Except.ok hshown

theorem posts_production :
    (Blog.mk dir .production).posts fs now =
      ((Blog.mk dir .development).posts fs now).map (List.filter (·.header.published)) := by
  cases hnames : (Blog.mk dir .development).names fs with
  | error e =>
    have hproduction : (Blog.mk dir .production).names fs = .error e := hnames
    rw [posts_of_names_error hproduction, posts_of_names_error hnames]
    rfl
  | ok names =>
    have hproduction : (Blog.mk dir .production).names fs = .ok names := hnames
    have hlisting := funext (listing?_production dir fs now)
    rw [posts_of_names hproduction, posts_of_names hnames, hlisting, mapM_map]
    cases names.mapM ((Blog.mk dir .development).listing? fs now) with
    | error e => rfl
    | ok listings =>
      have hsorted : Listing.sort ((listings.map (Option.filter (·.header.published))).filterMap id) =
          (Listing.sort (listings.filterMap id)).filter (·.header.published) := by
        rw [filterMap_map_filter, Listing.sort_filter]
      exact congrArg Except.ok hsorted

/-- To show published posts alone is to show all and to take the others away, in the listing and in
each lookup. The slugs are those of all posts either way. -/
theorem production_eq_development :
    (Blog.mk dir .production).posts fs now =
        ((Blog.mk dir .development).posts fs now).map (List.filter (·.header.published)) ∧
      (∀ slug, (Blog.mk dir .production).find fs now slug =
        ((Blog.mk dir .development).find fs now slug).map (Option.filter (·.header.published))) ∧
      (Blog.mk dir .production).slugs fs = (Blog.mk dir .development).slugs fs :=
  ⟨posts_production dir fs now, find_production dir fs now, rfl⟩

end Blog

end Folio
