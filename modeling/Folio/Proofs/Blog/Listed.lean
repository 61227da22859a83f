import Folio.Proofs.Blog.Reading
import Folio.Proofs.FileSystem.Nodes
import Folio.Proofs.Yaml.Pair

/-!
# Looking listed posts up

A listed post is found under its slug, with two exceptions. A lookup refuses slugs that could lead
out of the directory, also where they are those of files in it. And of two files of one slug it
reads the first and never falls back on the other, so that a listed post is not found beside one
that comes first and is not shown.

Main results:

* `Blog.find_of_mem_posts`: which listed posts are found.
* `Blog.exists_listed_not_found`: two that are not.
-/

namespace Folio

/-! ## A hidden post and others -/

namespace Yaml

/-- The document of a block that hides a post. -/
def unpublished : Document where
  events := [⟨.mappingStart none none, 1⟩, ⟨.scalar none none "published".toList true, 1⟩,
    ⟨.scalar none none "false".toList true, 1⟩, ⟨.mappingEnd, 2⟩]
  fault := none
  more := false

theorem value_unpublished :
    unpublished.value = .ok (.mapping [(.string "published", .bool false)]) :=
  value_pair rfl rfl

theorem parse_unpublished :
    parse "published: false\n".toList = .ok (.mapping [(.string "published", .bool false)]) := by
  have hdocument : Document.ofTokens (tokensOf "published: false\n".toList).1
      (tokensOf "published: false\n".toList).2 = unpublished := rfl
  simp only [parse, hdocument, value_unpublished, bind, Except.bind]
  rfl

end Yaml

namespace Blog

/-- A directory with two files of one slug, of which the first is hidden, a file whose slug would
lead out of it, and one more. -/
def twinPosts : Directory :=
  [("...md", .file []), ("x.md", .file []),
    ("x.mdx", .file [45, 45, 45, 10, 112, 117, 98, 108, 105, 115, 104, 101, 100, 58, 32, 102, 97,
      108, 115, 101, 10, 45, 45, 45, 10]),
    ("y.md", .file [])]

theorem fieldsOf_unpublished :
    fieldsOf "---\npublished: false\n---\n".toList =
      .ok [(.string "published", .bool false)] := by
  have hsplit : Frontmatter.split "---\npublished: false\n---\n".toList =
      ⟨some "published: false\n".toList, []⟩ := by decide
  rw [fieldsOf, hsplit, Option.map_some, Option.getD_some, Frontmatter.parse,
    Yaml.parse_unpublished]

/-- The blog in that directory, of which only published posts are shown. -/
def twinBlog : Blog := ⟨"blog", .production⟩

theorem readDirectory_twinPosts :
    FileSystem.readDirectory (.holding "blog" twinPosts) twinBlog.dir = .ok twinPosts :=
  FileSystem.readDirectory_holding_self (by decide) twinPosts

theorem exists_read_twinPosts {name : String} {bytes : List UInt8} {fields : Frontmatter.Fields}
    (hfile : twinPosts.find? name = some (.file bytes)) (hascii : bytes.all (·.toNat < 0x80))
    (hfields : fieldsOf (bytes.map fun b => Char.ofNat b.toNat) = .ok fields)
    (hsize : (Path.join twinBlog.dir name).utf8ByteSize < FileSystem.pathLimit) (now : Instant) :
    ∃ body, read (.holding "blog" twinPosts) now (Path.join twinBlog.dir name) =
      .ok (.ofFields now fields, body) := by
  have hbytes :=
    (FileSystem.readFile_entry_iff readDirectory_twinPosts (by decide) hfile).mpr ⟨hsize, rfl⟩
  have hsource := Text.Utf8.decode?_of_ascii (by simpa using hascii)
  exact ⟨_, read_eq_ok_iff.mpr ⟨bytes, _, fields, hbytes, hsource, hfields, rfl, rfl⟩⟩

theorem exists_read_empty {name : String} (hfile : twinPosts.find? name = some (.file []))
    (hsize : (Path.join twinBlog.dir name).utf8ByteSize < FileSystem.pathLimit) (now : Instant) :
    ∃ body, read (.holding "blog" twinPosts) now (Path.join twinBlog.dir name) =
      .ok (.ofFields now [], body) :=
  exists_read_twinPosts hfile (by decide) rfl hsize now

theorem exists_read_hidden (now : Instant) :
    ∃ body, read (.holding "blog" twinPosts) now (Path.join twinBlog.dir "x.mdx") =
      .ok (.ofFields now [(.string "published", .bool false)], body) := by
  refine exists_read_twinPosts rfl (by decide) ?_ (by decide) now
  exact fieldsOf_unpublished

theorem exists_posts_twinPosts (now : Instant) :
    ∃ L, twinBlog.posts (.holding "blog" twinPosts) now = .ok L ∧
      ∀ slug ∈ ["..", "x", "y"], ∃ p ∈ L, p.slug = slug := by
  have hnames : twinBlog.names (.holding "blog" twinPosts) =
      .ok ["...md", "x.md", "x.mdx", "y.md"] := by
    rw [names_eq readDirectory_twinPosts]
    exact congrArg Except.ok (List.mergeSort_of_pairwise (by decide))
  obtain ⟨_, hup⟩ := exists_read_empty (by rfl : twinPosts.find? "...md" = _) (by decide) now
  obtain ⟨_, hx⟩ := exists_read_empty (by rfl : twinPosts.find? "x.md" = _) (by decide) now
  obtain ⟨_, hhidden⟩ := exists_read_hidden now
  obtain ⟨_, hy⟩ := exists_read_empty (by rfl : twinPosts.find? "y.md" = _) (by decide) now
  refine ⟨_, posts_eq_ok_iff.mpr ⟨_, [some ⟨"..", .ofFields now []⟩, some ⟨"x", .ofFields now []⟩,
    none, some ⟨"y", .ofFields now []⟩], hnames, ?_, rfl⟩, ?_⟩
  · rw [mapM_eq_ok_iff]
    exact .cons (listing?_eq_ok_iff.mpr ⟨_, _, hup, rfl⟩)
      (.cons (listing?_eq_ok_iff.mpr ⟨_, _, hx, rfl⟩)
        (.cons (listing?_eq_ok_iff.mpr ⟨_, _, hhidden, rfl⟩)
          (.cons (listing?_eq_ok_iff.mpr ⟨_, _, hy, rfl⟩) .nil)))
  · simp [mem_sort_iff]

/-! ## Listed posts -/

/-- A lookup of a listed post succeeds at any time. It finds a post of the slug iff the slug is one
that lookups take and the file that comes first, if it is there, is not that of a hidden post. -/
theorem find_of_mem_posts {blog : Blog} {fs : FileSystem} {now : Instant} {L : List Listing}
    (hL : blog.posts fs now = .ok L) {p : Listing} (hp : p ∈ L) (later : Instant) :
    ∃ r, blog.find fs later p.slug = .ok r ∧ (∀ q, r = some q → q.slug = p.slug) ∧
      (r.isSome ↔ isSafeSlug p.slug ∧ ∀ header body,
        read fs later (Path.join blog.dir (p.slug ++ ".mdx")) = .ok (header, body) →
          blog.filter.admits header.published) := by
  by_cases hsafe : isSafeSlug p.slug
  swap
  · exact ⟨none, find_of_not_isSafeSlug hsafe, by simp, by simp [hsafe]⟩
  obtain ⟨names, listings, hnames, -⟩ := posts_eq_ok_iff.mp hL
  obtain ⟨name, hname, body, hread, hadmits, hslug⟩ := (mem_posts_iff hL hnames).mp hp
  obtain ⟨entries, hdir⟩ := exists_readDirectory_of_mem_names hnames hname
  have hpost := ((mem_names_iff hdir hnames).mp hname).1
  obtain ⟨slug, ext, hext, rfl⟩ := isPost_iff.mp hpost
  rw [slugOf_append hext] at hslug
  subst hslug
  by_cases hmdx : fs.isFile (Path.join blog.dir (p.slug ++ ".mdx"))
  · -- The first file is there, so the listing has read it too.
    have hmem : p.slug ++ "." ++ "mdx" ∈ names :=
      mem_names_of_isFile hdir hnames (isSafeSlug_iff.mp hsafe).2.1 (by decide)
        (by rwa [append_mdx])
    rw [append_mdx] at hmem
    obtain ⟨first, text, hfirst⟩ := exists_read_of_mem_names hL hnames hmem
    obtain ⟨header, hlater, -⟩ := exists_read_at hfirst later
    have hfind := find_of_read_mdx hsafe hlater
    refine ⟨_, hfind, fun q hq => (find_eq_ok_some_iff.mp (hq ▸ hfind)).2.1, ?_⟩
    rw [hlater]
    simp [hsafe]
  · -- The first file is not there, so the listed post is that of the second.
    obtain rfl : ext = "md" := by
      simp only [extensions, List.mem_cons, List.not_mem_nil, or_false] at hext
      refine hext.resolve_left ?_
      rintro rfl
      rw [append_mdx] at hread
      exact hmdx (isFile_of_read hread)
    obtain ⟨header, hlater, hpublished⟩ := exists_read_at hread later
    rw [append_md] at hlater
    have hfind := find_of_read_md hsafe hmdx hlater
    rw [hpublished, if_pos hadmits] at hfind
    refine ⟨_, hfind, fun q hq => (find_eq_ok_some_iff.mp (hq ▸ hfind)).2.1, ?_⟩
    have hnone {header : Header} {body : String}
        (h : read fs later (Path.join blog.dir (p.slug ++ ".mdx")) = .ok (header, body)) : False :=
      hmdx (isFile_of_read h)
    simp only [Option.isSome_some, hsafe, true_and, true_iff]
    exact fun header body h => (hnone h).elim

theorem find_of_mem_posts_twinPosts :
    ∃ L p q, twinBlog.posts (.holding "blog" twinPosts) ⟨0, 0⟩ = .ok L ∧ p ∈ L ∧ p.slug = "y" ∧
      twinBlog.find (.holding "blog" twinPosts) ⟨60, 0⟩ p.slug = .ok (some q) ∧ q.slug = "y" := by
  obtain ⟨L, hL, hlisted⟩ := exists_posts_twinPosts ⟨0, 0⟩
  obtain ⟨p, hp, hslug⟩ := hlisted "y" (by decide)
  obtain ⟨r, hr, hfound, hiff⟩ := find_of_mem_posts hL hp ⟨60, 0⟩
  rw [hslug] at hfound hiff
  have hsome : r.isSome := by
    refine hiff.mpr ⟨by decide, fun header body hread => ?_⟩
    have hfile : FileSystem.isFile (.holding "blog" twinPosts)
        (Path.join twinBlog.dir ("y" ++ "." ++ "mdx")) := by
      rw [append_mdx]
      exact isFile_of_read hread
    have hmem := mem_names_of_isFile readDirectory_twinPosts (names_eq readDirectory_twinPosts)
      (by decide) (by decide) hfile
    rw [mem_sortNames] at hmem
    exact absurd hmem (by decide)
  obtain ⟨q, rfl⟩ := Option.isSome_iff_exists.mp hsome
  exact ⟨L, p, q, hL, hp, hslug, hr, hfound q rfl⟩

/-- Two posts are listed and not found: the one whose slug would lead out of the directory, and the
one beside a hidden file of its slug. -/
theorem exists_listed_not_found :
    ∃ L, twinBlog.posts (.holding "blog" twinPosts) ⟨0, 0⟩ = .ok L ∧
      (∃ p ∈ L, p.slug = ".." ∧
        twinBlog.find (.holding "blog" twinPosts) ⟨0, 0⟩ p.slug = .ok none) ∧
      ∃ p ∈ L, p.slug = "x" ∧
        twinBlog.find (.holding "blog" twinPosts) ⟨0, 0⟩ p.slug = .ok none := by
  obtain ⟨L, hL, hlisted⟩ := exists_posts_twinPosts ⟨0, 0⟩
  obtain ⟨up, hup, hup_slug⟩ := hlisted ".." (by decide)
  obtain ⟨x, hx, hx_slug⟩ := hlisted "x" (by decide)
  obtain ⟨body, hhidden⟩ := exists_read_hidden ⟨0, 0⟩
  have hfind := find_of_read_mdx (by decide : isSafeSlug "x") hhidden
  refine ⟨L, hL, ⟨up, hup, hup_slug, ?_⟩, x, hx, hx_slug, ?_⟩
  · rw [hup_slug]
    exact find_of_not_isSafeSlug (by decide)
  · rw [hx_slug]
    exact hfind

end Blog

end Folio
