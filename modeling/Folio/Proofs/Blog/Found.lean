import Folio.Proofs.Blog.Reading
import Folio.Proofs.FileSystem.Agreement

/-!
# Looking posts up that are not listed

A lookup makes a name of the slug and opens it. The listing enumerates the directory and takes
slugs from names. So what is found is listed too, with the same header, wherever the directory can
be enumerated. The empty path is the exception: it leads to no directory and nothing is listed
there, but names that are joined to it are those of the current directory.

Main results:

* `Blog.listed_iff_of_find`: what a lookup finds is shown, and is listed iff the directory has a
  path.
* `Blog.listed_iff_of_find_onePost`: one post, looked up by either path of its directory.
-/

namespace Folio

namespace Blog

variable {blog : Blog} {fs : FileSystem} {now : Instant} {slug : String}

/-! ## The file that a lookup reads -/

theorem exists_extension_of_candidate {path : String}
    (hpath : (blog.candidates slug).find? fs.isFile = some path) :
    ∃ ext ∈ extensions, path = Path.join blog.dir (slug ++ "." ++ ext) := by
  have hmem := List.mem_of_find?_eq_some hpath
  rw [candidates, List.mem_map] at hmem
  obtain ⟨ext, hext, rfl⟩ := hmem
  exact ⟨ext, hext, rfl⟩

theorem exists_readDirectory_of_isFile (hdir : blog.dir ≠ "") (hslug : '/' ∉ slug.toList)
    {ext : String} (hext : ext ∈ extensions)
    (hfile : fs.isFile (Path.join blog.dir (slug ++ "." ++ ext))) :
    ∃ entries, fs.readDirectory blog.dir = .ok entries := by
  obtain ⟨bytes, hbytes⟩ := FileSystem.isFile_iff.mp hfile
  exact FileSystem.exists_readDirectory_of_readFile_join hdir (isPlainName_post hslug hext) hbytes

/-! ## The empty path -/

theorem names_of_empty (hdir : blog.dir = "") : blog.names fs = .ok [] := by
  have hread : fs.readDirectory blog.dir = .error ⟨blog.dir, .notFound⟩ := by
    rw [hdir, FileSystem.readDirectory, FileSystem.locate]
    simp
  rw [names, hread]
  simp

theorem posts_of_empty (hdir : blog.dir = "") : blog.posts fs now = .ok [] :=
  posts_eq_ok_iff.mpr ⟨[], [], names_of_empty hdir, rfl, List.mergeSort_nil⟩

theorem slugs_of_empty (hdir : blog.dir = "") : blog.slugs fs = .ok [] := by
  rw [slugs, names_of_empty hdir]
  rfl

/-! ## What is found -/

/-- What a lookup finds is a post of the slug that the filter shows. Its slug is among those of the
directory, and its header among the posts that are listed at that time, if they can be listed; with
the one exception of a directory by the empty path. -/
theorem listed_iff_of_find {q : Post} (hq : blog.find fs now slug = .ok (some q)) :
    q.slug = slug ∧ (blog.filter = .production → q.header.published) ∧
      (∃ S, blog.slugs fs = .ok S ∧ (slug ∈ S ↔ blog.dir ≠ "")) ∧
      ∀ L, blog.posts fs now = .ok L →
        ((∃ p ∈ L, p.slug = slug ∧ p.header = q.header) ↔ blog.dir ≠ "") := by
  obtain ⟨hsafe, hslug, hadmits, path, hpath, hread⟩ := find_eq_ok_some_iff.mp hq
  have hpublished (hfilter : blog.filter = .production) : q.header.published := by
    rw [hfilter] at hadmits
    exact hadmits
  refine ⟨hslug, hpublished, ?_⟩
  by_cases hdir : blog.dir = ""
  · refine ⟨⟨[], slugs_of_empty hdir, by simp [hdir]⟩, fun L hL => ?_⟩
    rw [posts_of_empty hdir] at hL
    cases hL
    simp [hdir]
  · have hplain := (isSafeSlug_iff.mp hsafe).2.1
    obtain ⟨ext, hext, rfl⟩ := exists_extension_of_candidate hpath
    have hfile := isFile_of_read hread
    obtain ⟨entries, hentries⟩ := exists_readDirectory_of_isFile hdir hplain hext hfile
    have hnames := names_eq hentries
    have hmem := mem_names_of_isFile hentries hnames hplain hext hfile
    refine ⟨⟨_, by rw [slugs, hnames]; rfl, ?_⟩, fun L hL => ?_⟩
    · rw [iff_true_right hdir, List.mem_map]
      exact ⟨_, hmem, slugOf_append hext slug⟩
    · rw [iff_true_right hdir]
      refine ⟨⟨slug, q.header⟩, (mem_posts_iff hL hnames).mpr ?_, rfl, rfl⟩
      exact ⟨_, hmem, q.body, hread, hadmits, (slugOf_append hext slug).symm⟩

/-- A disk whose current directory holds nothing but one post. -/
def onePost : FileSystem := ⟨[("x.mdx", .file [])], []⟩

theorem read_onePost {dir : String} (hdir : onePost.entriesAt dir = onePost.root)
    (hsize : (Path.join dir "x.mdx").utf8ByteSize < FileSystem.pathLimit) (now : Instant) :
    read onePost now (Path.join dir "x.mdx") = .ok (.ofFields now [], "") := by
  have hplain : onePost.Plain := by decide
  have hname : IsEntryName "x.mdx" := by decide
  have hbytes : onePost.readFile (Path.join dir "x.mdx") = .ok [] :=
    (FileSystem.readFile_join_iff (hplain.plainAt dir) hname.toIsPlainName).mpr
      ⟨hsize, by rw [hdir]; rfl⟩
  have hsource := Text.Utf8.decode?_of_ascii (by simp : ∀ b ∈ ([] : List UInt8), b.toNat < 0x80)
  exact read_eq_ok_iff.mpr ⟨[], _, [], hbytes, hsource, rfl, rfl, rfl⟩

/-- The blog of that disk, with its directory by a path. -/
def onePostBlog (dir : String) : Blog := ⟨dir, .production⟩

theorem find_onePost {dir : String} (hdir : onePost.entriesAt dir = onePost.root)
    (hsize : (Path.join dir "x.mdx").utf8ByteSize < FileSystem.pathLimit) :
    (onePostBlog dir).find onePost ⟨0, 0⟩ "x" = .ok (some ⟨"x", .ofFields ⟨0, 0⟩ [], ""⟩) := by
  have hshown : (onePostBlog dir).filter.admits (Header.ofFields ⟨0, 0⟩ []).published = true := rfl
  have hread : read onePost ⟨0, 0⟩ (Path.join (onePostBlog dir).dir ("x" ++ ".mdx")) = .ok _ :=
    read_onePost hdir hsize ⟨0, 0⟩
  rw [find_of_read_mdx (by decide) hread, if_pos hshown]

/-- The post is found by either path of its directory, and listed by one of them. -/
theorem listed_iff_of_find_onePost :
    (∃ q L, (onePostBlog ".").find onePost ⟨0, 0⟩ "x" = .ok (some q) ∧
      (onePostBlog ".").posts onePost ⟨0, 0⟩ = .ok L ∧ q.header.published ∧
      ∃ p ∈ L, p.slug = "x" ∧ p.header = q.header) ∧
    ∃ q S L, (onePostBlog "").find onePost ⟨0, 0⟩ "x" = .ok (some q) ∧
      (onePostBlog "").slugs onePost = .ok S ∧ "x" ∉ S ∧
      (onePostBlog "").posts onePost ⟨0, 0⟩ = .ok L ∧
      ¬ ∃ p ∈ L, p.slug = "x" ∧ p.header = q.header := by
  constructor
  · have hdir : onePost.readDirectory "." = .ok onePost.root := onePost.readDirectory_here
    have hentries := FileSystem.entriesAt_eq hdir
    have hfind := find_onePost hentries (by decide)
    have hnames : (onePostBlog ".").names onePost = .ok ["x.mdx"] := by
      rw [names_eq hdir]
      exact congrArg Except.ok (List.mergeSort_of_pairwise (by decide))
    have hlisting : (onePostBlog ".").listing? onePost ⟨0, 0⟩ "x.mdx" = .ok (some _) :=
      listing?_eq_ok_iff.mpr ⟨_, _, read_onePost hentries (by decide) _, rfl⟩
    have hL := posts_eq_ok_iff.mpr ⟨_, _, hnames, mapM_eq_ok_iff.mpr (.cons hlisting .nil), rfl⟩
    obtain ⟨-, hpublished, -, hlisted⟩ := listed_iff_of_find hfind
    exact ⟨_, _, hfind, hL, hpublished rfl, (hlisted _ hL).mpr (by decide)⟩
  · have hfind := find_onePost onePost.entriesAt_empty (by decide)
    have hL : (onePostBlog "").posts onePost ⟨0, 0⟩ = .ok [] := posts_of_empty rfl
    obtain ⟨-, -, ⟨S, hS, hslug⟩, hlisted⟩ := listed_iff_of_find hfind
    exact ⟨_, S, [], hfind, hS, mt hslug.mp (by decide), hL, mt (hlisted _ hL).mp (by decide)⟩

end Blog

end Folio
