import Folio.Blog.Frontmatter
import Folio.Proofs.Metadata.Heading
import Folio.Proofs.Metadata.Marker
import Folio.Proofs.Text.Lines

/-!
# Documents and line endings

A carriage return at the end of a line is white space around whatever is read from the line, and no
mark ends with one. So a document reads the same whichever way its lines end, and a text is cut at
its fences in the same places.

Main result:

* `reading_crlf`: metadata and frontmatter of a text whose lines end with a carriage return and a
  line feed.
-/

namespace Folio

open Text (SameLine crlf trimmed?)
open Unicode (isSpace)

/-! ## Titles and values -/

namespace Markdown

theorem trimmed?_return (line : List Char) : trimmed? (line ++ ['\r']) = trimmed? line :=
  Text.trimmed?_append line Text.isSpace_return

theorem isBareSign_return (line : List Char) : isBareSign (line ++ ['\r']) = isBareSign line := by
  cases line with
  | nil => rfl
  | cons c rest =>
    by_cases hc : c = '#'
    · subst hc
      have hspace : isSpace '\r' := by decide
      simp [isBareSign, hspace]
    · simp [isBareSign, hc]

theorem headingText?_return (line : List Char) :
    headingText? (line ++ ['\r']) = headingText? line := by
  cases line with
  | nil => rfl
  | cons c rest =>
    by_cases hc : c = '#'
    · subst hc
      cases rest with
      | nil => rfl
      | cons d rest =>
        rw [List.cons_append, List.cons_append, headingText?, headingText?, trimmed?_return]
    · simp [headingText?, hc]

theorem titleIn?_sameLine {lines lines' : List (List Char)}
    (h : List.Forall₂ SameLine lines lines') : titleIn? lines' = titleIn? lines := by
  induction h with
  | nil => rfl
  | cons hline hlines ih =>
    rw [titleIn?, hline.read_eq fun line _ => isBareSign_return line,
      hline.read_eq fun line _ => headingText?_return line,
      Text.findSome?_sameLine (fun line _ => trimmed?_return line) hlines, ih, titleIn?]

section Value

variable {key line : List Char}

/-- A mark ends with an asterisk, so that a carriage return at the end of a line comes after it. -/
theorem occurs_return_iff {before rest' : List Char} :
    Occurs key (line ++ ['\r']) before rest' ↔
      ∃ rest, Occurs key line before rest ∧ rest' = rest ++ ['\r'] := by
  constructor
  · rintro ⟨mark, hmark, hline⟩
    rcases List.eq_nil_or_concat rest' with rfl | ⟨rest, c, rfl⟩
    · obtain ⟨name, rfl, -⟩ := hmark
      have hline' : line ++ ['\r'] = (before ++ "**".toList ++ name ++ ":*".toList) ++ ['*'] := by
        simpa using hline
      obtain ⟨-, hlast⟩ := List.append_inj' hline' rfl
      exact absurd hlast (by decide)
    · rw [List.concat_eq_append] at hline ⊢
      rw [← List.append_assoc] at hline
      obtain ⟨hline, hc⟩ := List.append_inj' hline rfl
      exact ⟨rest, ⟨mark, hmark, hline⟩, by rw [hc]⟩
  · rintro ⟨rest, ⟨mark, hmark, rfl⟩, rfl⟩
    exact ⟨mark, hmark, by simp⟩

theorem follows_return_iff {rest' : List Char} :
    Follows key (line ++ ['\r']) rest' ↔
      ∃ rest, Follows key line rest ∧ rest' = rest ++ ['\r'] := by
  constructor
  · rintro ⟨before, hbefore, hfirst⟩
    obtain ⟨rest, hrest, rfl⟩ := occurs_return_iff.mp hbefore
    refine ⟨rest, ⟨before, hrest, fun before' after hother => ?_⟩, rfl⟩
    exact hfirst before' (after ++ ['\r']) (occurs_return_iff.mpr ⟨after, hother, rfl⟩)
  · rintro ⟨rest, ⟨before, hbefore, hfirst⟩, rfl⟩
    refine ⟨before, occurs_return_iff.mpr ⟨rest, hbefore, rfl⟩, fun before' after' hother => ?_⟩
    obtain ⟨after, hafter, -⟩ := occurs_return_iff.mp hother
    exact hfirst before' after hafter

theorem hasValue_return_iff {value : List Char} :
    HasValue key (line ++ ['\r']) value ↔ HasValue key line value := by
  have htrim (rest : List Char) : Text.trim (rest ++ ['\r']) = Text.trim rest :=
    Text.trim_append rest Text.isSpace_return
  constructor
  · rintro ⟨rest', hrest', hvalue⟩
    obtain ⟨rest, hrest, rfl⟩ := follows_return_iff.mp hrest'
    rw [htrim] at hvalue
    exact ⟨rest, hrest, hvalue⟩
  · rintro ⟨rest, hrest, hvalue⟩
    rw [← htrim] at hvalue
    exact ⟨rest ++ ['\r'], follows_return_iff.mpr ⟨rest, hrest, rfl⟩, hvalue⟩

theorem lineValue?_return (hline : '\n' ∉ line) :
    lineValue? key (line ++ ['\r']) = lineValue? key line := by
  have hreturn : '\n' ∉ line ++ ['\r'] := by simpa using hline
  apply Option.ext
  intro value
  rw [lineValue?_eq_some_iff hreturn, lineValue?_eq_some_iff hline, hasValue_return_iff]

end Value

theorem metadata_crlf (content : String) :
    metadata (.ofList (crlf content.toList)) = metadata content := by
  have hlines := Text.forall₂_splitOn_crlf content.toList
  have htitle : title? (.ofList (crlf content.toList)) = title? content := by
    rw [title?_eq_titleIn?, title?_eq_titleIn?, String.toList_ofList, titleIn?_sameLine hlines]
  have hmarker : marker? (.ofList (crlf content.toList)) = marker? content := by
    funext key
    rw [marker?, marker?, windowLines, windowLines, String.toList_ofList,
      Text.findSome?_sameLine (fun _ => lineValue?_return) (List.forall₂_take window hlines)]
  rw [metadata, metadata, htitle, hmarker]

end Markdown

/-! ## Frontmatter -/

namespace Frontmatter

theorem dropMark_crlf (source : List Char) : dropMark (crlf source) = crlf (dropMark source) := by
  cases source with
  | nil => rfl
  | cons c rest =>
    by_cases hfeed : c = '\n'
    · subst hfeed
      rfl
    · by_cases hmark : c = '\ufeff'
      · subst hmark
        rfl
      · have hkept (rest : List Char) : dropMark (c :: rest) = c :: rest := by
          simp [dropMark, Text.dropLead, List.isPrefixOf?, Ne.symm hmark]
        rw [Text.crlf_cons hfeed, hkept, hkept, Text.crlf_cons hfeed]

theorem isFence_crlf (line : List Char) : isFence (crlf line) = isFence line := by
  have hfence : '\n' ∉ fence := by decide
  rw [Bool.eq_iff_iff, isFence, isFence, beq_iff_eq, beq_iff_eq, Text.trimEnd_crlf,
    Text.crlf_eq_iff hfence]

theorem cutAtFence_crlf (before lines : List (List Char)) :
    cutAtFence (before.map crlf) (lines.map crlf) =
      (cutAtFence before lines).map fun (yaml, body) => (yaml.map crlf, body.map crlf) := by
  induction lines generalizing before with
  | nil => rfl
  | cons line lines ih =>
    rw [List.map_cons, cutAtFence, cutAtFence, isFence_crlf]
    split
    · simp only [Option.map_some, List.map_reverse]
    · exact ih (line :: before)

theorem split_crlf (source : List Char) :
    split (crlf source) = ⟨(split source).yaml.map crlf, crlf (split source).body⟩ := by
  rw [split, split, dropMark_crlf]
  simp only [Text.cutFirst_crlf]
  cases Text.cutFirst '\n' (dropMark source) with
  | none => rfl
  | some parts =>
    obtain ⟨first, rest⟩ := parts
    have hfirst : isFence (first ++ ['\r']) = isFence first := by
      rw [isFence, Text.trimEnd_append first Text.isSpace_return, isFence]
    have hcut := cutAtFence_crlf [] (Text.linesInclusive rest)
    rw [List.map_nil, ← Text.linesInclusive_crlf] at hcut
    simp only [Option.map_some, hfirst, hcut]
    split
    · cases cutAtFence [] (Text.linesInclusive rest) with
      | none => rfl
      | some parts => simp only [Option.map_some, Text.crlf_flatten]
    · rfl

end Frontmatter

/-- Line endings do not matter: with a carriage return before every line feed a document has the
same metadata, and its parts are those it had, with a carriage return before every line feed. -/
theorem reading_crlf (content : String) :
    Markdown.metadata (.ofList (crlf content.toList)) = Markdown.metadata content ∧
    Frontmatter.split (crlf content.toList) =
      ⟨(Frontmatter.split content.toList).yaml.map crlf,
        crlf (Frontmatter.split content.toList).body⟩ :=
  ⟨Markdown.metadata_crlf content, Frontmatter.split_crlf content.toList⟩

end Folio
