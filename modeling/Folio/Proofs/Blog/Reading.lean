import Folio.Proofs.Blog.Names
import Folio.Proofs.FileSystem.Entry
import Folio.Proofs.Outcome
import Folio.Proofs.Sorting

/-!
# Reading posts

The listing reads every file of the blog's directory that is named like a post. A lookup reads the
first file that a slug may name. Neither the body of a post nor whether it is published depends on
the time of reading.

Results:

* `Blog.read_eq_ok_iff`: what is read of a post, and when.
* `Blog.posts_eq_ok_iff`, `Blog.mem_posts_iff`: when there is a listing, and its posts.
* `Blog.find_of_read_mdx`, `Blog.find_of_read_md`: what a lookup gives of the file that it reads.
* `Blog.find_eq_ok_some_iff`: when a lookup finds a post.
-/

namespace Folio

namespace Blog

/-! ## One post -/

theorem isPlainName_post {slug ext : String} (hslug : '/' ∉ slug.toList)
    (hext : ext ∈ extensions) : IsPlainName (slug ++ "." ++ ext) := by
  simp only [extensions, List.mem_cons, List.not_mem_nil, or_false] at hext
  rcases hext with rfl | rfl <;> exact isPlainName_append_dot hslug (by decide) (by decide)

theorem isSafeSlug_iff {slug : String} :
    isSafeSlug slug ↔ slug ≠ "" ∧ '/' ∉ slug.toList ∧ '\\' ∉ slug.toList ∧ slug ≠ ".." := by
  simp [isSafeSlug, and_assoc]

/-- The fields of the header of a source text. -/
def fieldsOf (source : List Char) : Except Frontmatter.Error Frontmatter.Fields :=
  ((Frontmatter.split source).yaml.map Frontmatter.parse).getD (.ok [])

theorem read_eq_ok_iff {fs : FileSystem} {now : Instant} {path : String} {header : Header}
    {body : String} :
    read fs now path = .ok (header, body) ↔ ∃ bytes source fields,
      fs.readFile path = .ok bytes ∧ Text.Utf8.decode? bytes = some source ∧
        fieldsOf source = .ok fields ∧ header = .ofFields now fields ∧
        body = .ofList (Frontmatter.split source).body := by
  rw [read]
  cases fs.readFile path with
  | error e => simp
  | ok bytes =>
    cases hsource : Text.Utf8.decode? bytes with
    | none => simp [hsource]
    | some source =>
      cases hfields : fieldsOf source with
      | error cause =>
        rw [fieldsOf] at hfields
        simp [hsource, hfields, fieldsOf]
      | ok fields =>
        rw [fieldsOf] at hfields
        simp [hsource, hfields, fieldsOf, eq_comm]

/-- What is read of a post at another time differs in the date alone. -/
theorem exists_read_at {fs : FileSystem} {now : Instant} {path : String} {header : Header}
    {body : String} (h : read fs now path = .ok (header, body)) (later : Instant) :
    ∃ header', read fs later path = .ok (header', body) ∧
      header'.published = header.published := by
  obtain ⟨bytes, source, fields, hbytes, hsource, hfields, rfl, rfl⟩ := read_eq_ok_iff.mp h
  exact ⟨_, read_eq_ok_iff.mpr ⟨bytes, source, fields, hbytes, hsource, hfields, rfl, rfl⟩, rfl⟩

theorem isFile_of_read {fs : FileSystem} {now : Instant} {path : String} {header : Header}
    {body : String} (h : read fs now path = .ok (header, body)) : fs.isFile path := by
  obtain ⟨bytes, -, -, hbytes, -⟩ := read_eq_ok_iff.mp h
  exact FileSystem.isFile_iff.mpr ⟨bytes, hbytes⟩

/-! ## The listing -/

section Listing

variable {blog : Blog} {fs : FileSystem} {now : Instant}

theorem names_eq {entries : Directory} (hdir : fs.readDirectory blog.dir = .ok entries) :
    blog.names fs = .ok (sortNames ((entries.map (·.1)).filter isPost)) := by
  rw [names, hdir]

theorem exists_readDirectory_of_mem_names {names : List String} (hnames : blog.names fs = .ok names)
    {name : String} (hname : name ∈ names) :
    ∃ entries, fs.readDirectory blog.dir = .ok entries := by
  cases hdir : fs.readDirectory blog.dir with
  | ok entries => exact ⟨entries, rfl⟩
  | error e =>
    rw [Blog.names, hdir] at hnames
    simp only at hnames
    split at hnames <;> cases hnames
    cases hname

theorem mem_names_iff {entries : Directory} (hdir : fs.readDirectory blog.dir = .ok entries)
    {names : List String} (hnames : blog.names fs = .ok names) {name : String} :
    name ∈ names ↔ isPost name ∧ ∃ node, (name, node) ∈ entries := by
  rw [names_eq hdir] at hnames
  cases hnames
  rw [mem_sortNames, List.mem_filter, List.mem_map, and_comm]
  simp

/-- A file that a slug may name is one that the listing reads. -/
theorem mem_names_of_isFile {entries : Directory} (hdir : fs.readDirectory blog.dir = .ok entries)
    {names : List String} (hnames : blog.names fs = .ok names) {slug ext : String}
    (hslug : '/' ∉ slug.toList) (hext : ext ∈ extensions)
    (hfile : fs.isFile (Path.join blog.dir (slug ++ "." ++ ext))) :
    slug ++ "." ++ ext ∈ names := by
  obtain ⟨bytes, hbytes⟩ := FileSystem.isFile_iff.mp hfile
  obtain ⟨node, hnode⟩ := FileSystem.exists_find?_of_locate_join hdir (isPlainName_post hslug hext)
    (FileSystem.readFile_eq_ok_iff.mp hbytes)
  exact (mem_names_iff hdir hnames).mpr
    ⟨isPost_iff.mpr ⟨slug, ext, hext, rfl⟩, node, Directory.mem_of_find? hnode⟩

theorem mem_sort_iff {posts : List Listing} {p : Listing} : p ∈ Listing.sort posts ↔ p ∈ posts :=
  (List.mergeSort_perm posts _).mem_iff

theorem listing?_eq_ok_iff {name : String} {r : Option Listing} :
    blog.listing? fs now name = .ok r ↔ ∃ header body,
      read fs now (Path.join blog.dir name) = .ok (header, body) ∧
        (if blog.filter.admits header.published then some ⟨slugOf name, header⟩ else none) = r := by
  rw [listing?, bind_eq_ok_iff]
  simp only [Except.ok.injEq, Prod.exists]

theorem posts_of_names_error {e : FileError} (hnames : blog.names fs = .error e) :
    blog.posts fs now = .error (.file e) := by
  rw [posts, hnames]
  rfl

theorem posts_of_names {names : List String} (hnames : blog.names fs = .ok names) :
    blog.posts fs now = (names.mapM (blog.listing? fs now)).map fun listings =>
      Listing.sort (listings.filterMap id) := by
  rw [posts, hnames]
  cases hlistings : names.mapM (blog.listing? fs now) with
  | error e => simp [Except.mapError, Except.map, bind, Except.bind, hlistings]
  | ok listings => simp [Except.mapError, Except.map, bind, Except.bind, hlistings]

theorem posts_eq_ok_iff {L : List Listing} :
    blog.posts fs now = .ok L ↔ ∃ names listings, blog.names fs = .ok names ∧
      names.mapM (blog.listing? fs now) = .ok listings ∧
        Listing.sort (listings.filterMap id) = L := by
  rw [posts]
  simp only [bind_eq_ok_iff, mapError_eq_ok_iff, Except.ok.injEq]
  constructor
  · rintro ⟨names, hnames, listings, hlistings, hL⟩
    exact ⟨names, listings, hnames, hlistings, hL⟩
  · rintro ⟨names, listings, hnames, hlistings, hL⟩
    exact ⟨names, hnames, listings, hlistings, hL⟩

variable {L : List Listing} (hL : blog.posts fs now = .ok L) {names : List String}
  (hnames : blog.names fs = .ok names)
include hL hnames

theorem mem_posts_iff {p : Listing} :
    p ∈ L ↔ ∃ name ∈ names, ∃ body,
      read fs now (Path.join blog.dir name) = .ok (p.header, body) ∧
        blog.filter.admits p.header.published ∧ p.slug = slugOf name := by
  obtain ⟨_, listings, hnames', hlistings, rfl⟩ := posts_eq_ok_iff.mp hL
  rw [hnames, Except.ok.injEq] at hnames'
  subst hnames'
  rw [mem_sort_iff, List.mem_filterMap]
  simp only [id_eq, exists_eq_right, mem_iff_of_mapM_eq_ok hlistings, listing?_eq_ok_iff,
    Option.ite_none_right_eq_some, Option.some.injEq]
  constructor
  · rintro ⟨name, hname, header, body, hread, hadmits, rfl⟩
    exact ⟨name, hname, body, hread, hadmits, rfl⟩
  · rintro ⟨name, hname, body, hread, hadmits, hslug⟩
    exact ⟨name, hname, p.header, body, hread, hadmits, by rw [← hslug]⟩

theorem exists_read_of_mem_names {name : String} (hname : name ∈ names) :
    ∃ header body, read fs now (Path.join blog.dir name) = .ok (header, body) := by
  obtain ⟨_, listings, hnames', hlistings, -⟩ := posts_eq_ok_iff.mp hL
  rw [hnames, Except.ok.injEq] at hnames'
  subst hnames'
  obtain ⟨r, -, hr⟩ := exists_mem_of_mapM_eq_ok hlistings hname
  obtain ⟨header, body, hread, -⟩ := listing?_eq_ok_iff.mp hr
  exact ⟨header, body, hread⟩

end Listing

/-! ## The lookup -/

section Lookup

variable {blog : Blog} {fs : FileSystem} {now : Instant} {slug : String}

theorem find_of_not_isSafeSlug (hslug : ¬ isSafeSlug slug) : blog.find fs now slug = .ok none := by
  rw [find, if_pos (by simpa using hslug)]

theorem find_of_candidate (hslug : isSafeSlug slug) {path : String}
    (hpath : (blog.candidates slug).find? fs.isFile = some path) {header : Header} {body : String}
    (hread : read fs now path = .ok (header, body)) :
    blog.find fs now slug =
      .ok (if blog.filter.admits header.published then some ⟨slug, header, body⟩ else none) := by
  rw [find, hslug, hpath]
  simp only [Bool.not_true, Bool.false_eq_true, if_false, hread, bind, Except.bind]

theorem candidates_eq (blog : Blog) (slug : String) : blog.candidates slug =
    [Path.join blog.dir (slug ++ ".mdx"), Path.join blog.dir (slug ++ ".md")] := by
  simp [candidates, extensions, append_mdx, append_md]

theorem find_of_read_mdx (hslug : isSafeSlug slug) {header : Header} {body : String}
    (hread : read fs now (Path.join blog.dir (slug ++ ".mdx")) = .ok (header, body)) :
    blog.find fs now slug =
      .ok (if blog.filter.admits header.published then some ⟨slug, header, body⟩ else none) := by
  refine find_of_candidate hslug ?_ hread
  rw [candidates_eq, List.find?_cons_of_pos (isFile_of_read hread)]

theorem find_of_read_md (hslug : isSafeSlug slug)
    (hmdx : ¬ fs.isFile (Path.join blog.dir (slug ++ ".mdx"))) {header : Header} {body : String}
    (hread : read fs now (Path.join blog.dir (slug ++ ".md")) = .ok (header, body)) :
    blog.find fs now slug =
      .ok (if blog.filter.admits header.published then some ⟨slug, header, body⟩ else none) := by
  refine find_of_candidate hslug ?_ hread
  rw [candidates_eq, List.find?_cons_of_neg hmdx, List.find?_cons_of_pos (isFile_of_read hread)]

theorem find_eq_ok_some_iff {q : Post} :
    blog.find fs now slug = .ok (some q) ↔ isSafeSlug slug ∧ q.slug = slug ∧
      blog.filter.admits q.header.published ∧ ∃ path,
        (blog.candidates slug).find? fs.isFile = some path ∧
          read fs now path = .ok (q.header, q.body) := by
  rw [find]
  by_cases hslug : isSafeSlug slug
  · rw [hslug]
    cases hpath : (blog.candidates slug).find? fs.isFile with
    | none => simp
    | some path =>
      simp only [Bool.not_true, Bool.false_eq_true, if_false, bind_eq_ok_iff, Except.ok.injEq,
        Option.ite_none_right_eq_some, Option.some.injEq, Prod.exists, exists_eq_left', true_and]
      constructor
      · rintro ⟨header, body, hread, hadmits, rfl⟩
        exact ⟨rfl, hadmits, hread⟩
      · rintro ⟨rfl, hadmits, hread⟩
        exact ⟨q.header, q.body, hread, hadmits, rfl⟩
  · simp [hslug]

end Lookup

end Blog

end Folio
